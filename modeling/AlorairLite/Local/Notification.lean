import AlorairLite.Local.Report

/-! The callback queue: notifications of a session are handed over in the order they
were produced, and what an overflow may discard. -/

namespace AlorairLite.Local

open State

def Callback.noticeOn (sid : Nat) (entry : Callback) : Option Notice :=
  if entry.session = sid then some entry.notice else none

/-- A report produces a status notification, the end of a reader a disconnect. -/
def Event.producedOn (sid : Nat) : Event → Option Notice
  | .frame session _ _ (some status) => if session = sid then some (.status status) else none
  | .enqueued entry => if entry.isDisconnect then entry.noticeOn sid else none
  | _ => none

def Event.handedOn (sid : Nat) : Event → Option Notice
  | .dispatched entry => entry.noticeOn sid
  | _ => none

/-- The notifications of a session in the order they were produced. -/
def produced (sid : Nat) (log : List Event) : List Notice := log.filterMap (Event.producedOn sid)

/-- The notifications of a session in the order they were handed to the callbacks. -/
def handed (sid : Nat) (log : List Event) : List Notice := log.filterMap (Event.handedOn sid)

/-- The notifications of a session that are queued. -/
def queued (sid : Nat) (entries : List Callback) : List Notice :=
  entries.filterMap (Callback.noticeOn sid)

theorem produced_append (sid : Nat) (log later : List Event) :
    produced sid (log ++ later) = produced sid log ++ produced sid later := List.filterMap_append

theorem handed_append (sid : Nat) (log later : List Event) :
    handed sid (log ++ later) = handed sid log ++ handed sid later := List.filterMap_append

theorem queued_append (sid : Nat) (entries later : List Callback) :
    queued sid (entries ++ later) = queued sid entries ++ queued sid later := List.filterMap_append

/-- Events that neither produce a notification nor hand one over. -/
@[simp] def Event.noticeless : Event → Bool
  | .frame _ _ _ status => status.isNone
  | .enqueued _ | .dispatched _ => false
  | _ => true

theorem noticeless_none {event : Event} (silent : event.noticeless) (sid : Nat) :
    event.producedOn sid = none ∧ event.handedOn sid = none := by
  cases event with
  | frame session raw frame status =>
    cases status with
    | none => exact ⟨rfl, rfl⟩
    | some status => cases silent
  | enqueued entry => cases silent
  | dispatched entry => cases silent
  | _ => exact ⟨rfl, rfl⟩

theorem noticeless_nil {events : List Event} (silent : ∀ event ∈ events, event.noticeless)
    (sid : Nat) : produced sid events = [] ∧ handed sid events = [] :=
  ⟨List.filterMap_eq_nil_iff.mpr fun event member => (noticeless_none (silent event member) sid).1,
    List.filterMap_eq_nil_iff.mpr fun event member => (noticeless_none (silent event member) sid).2⟩

/-- What was handed over and what is queued lies, in order, among what was produced, and
before a report that was decoded just now. -/
structure Ordered (s : State) : Prop where
  among : ∀ sid, List.Sublist (handed sid s.log ++ queued sid s.callbacks) (produced sid s.log)
  before : ∀ past sid raw frame status, s.log = past ++ [.frame sid raw frame (some status)] →
    List.Sublist (handed sid s.log ++ queued sid s.callbacks) (produced sid past)

theorem Ordered.keep {s after : State} (ordered : Ordered s) (events : List Event)
    (log : after.log = s.log ++ events) (silent : ∀ event ∈ events, event.noticeless)
    (fewer : ∀ sid, List.Sublist (queued sid after.callbacks) (queued sid s.callbacks)) :
    Ordered after := by
  constructor
  · intro sid
    obtain ⟨nothing, none⟩ := noticeless_nil silent sid
    rw [log, produced_append, handed_append, nothing, none, List.append_nil, List.append_nil]
    exact ((fewer sid).append_left _).trans (ordered.among sid)
  · intro past sid raw frame status split
    obtain ⟨-, none⟩ := noticeless_nil silent sid
    have handed : handed sid after.log = handed sid s.log := by
      rw [log, handed_append, none, List.append_nil]
    rw [handed]
    rw [log] at split
    rcases List.eq_nil_or_concat events with rfl | ⟨rest, last, rfl⟩
    · rw [List.append_nil] at split
      exact ((fewer sid).append_left _).trans (ordered.before past sid raw frame status split)
    · rw [List.concat_eq_append, ← List.append_assoc] at split
      obtain ⟨-, same⟩ := List.append_inj' split rfl
      have quiet := silent last (by simp)
      rw [List.cons.inj same |>.1] at quiet
      cases quiet

/-- The queue stays as it is. -/
theorem Ordered.aside {s after : State} (ordered : Ordered s) (events : List Event)
    (log : after.log = s.log ++ events) (silent : ∀ event ∈ events, event.noticeless)
    (callbacks : after.callbacks = s.callbacks) : Ordered after :=
  ordered.keep events log silent fun sid => by rw [callbacks]

/-- A report was decoded; its notification is not queued yet. -/
theorem Ordered.report {s after : State} {sid : Nat} {raw : Bytes} {frame : Frame}
    {status : DeviceStatus} (ordered : Ordered s)
    (log : after.log = s.log ++ [.frame sid raw frame (some status)])
    (callbacks : after.callbacks = s.callbacks) : Ordered after := by
  have same : ∀ other, handed other after.log = handed other s.log := fun other => by
    rw [log, handed_append]
    exact List.append_nil _
  constructor
  · intro other
    rw [same, callbacks, log, produced_append]
    exact (ordered.among other).trans (List.sublist_append_left ..)
  · intro past other raw' frame' status' split
    rw [log] at split
    obtain ⟨rfl, -⟩ := List.append_inj' split rfl
    rw [same, callbacks]
    exact ordered.among other

/-- A notification is queued behind the others. -/
theorem Ordered.put {s : State} {entry : Callback} (ordered : Ordered s)
    (origin : entry.follows s.log) : Ordered (s.putCallback entry) := by
  have handed : ∀ sid, handed sid (s.putCallback entry).log = handed sid s.log := fun sid => by
    rw [State.putCallback, handed_append]
    exact List.append_nil _
  have grows : ∀ sid, queued sid (s.putCallback entry).callbacks =
      queued sid s.callbacks ++ queued sid [entry] := fun sid => queued_append ..
  constructor
  · intro sid
    rw [handed, grows, ← List.append_assoc]
    have log : produced sid (s.putCallback entry).log =
        produced sid s.log ++ produced sid [.enqueued entry] := produced_append ..
    rw [log]
    by_cases mine : entry.session = sid
    · cases notice : entry.notice with
      | status status =>
        obtain ⟨past, raw, frame, split⟩ := origin status notice
        rw [mine] at split
        have behind := ordered.before past sid raw frame status split
        have last : produced sid s.log = produced sid past ++ [.status status] := by
          rw [split, produced_append]
          simp [produced, Event.producedOn]
        rw [last]
        have single : queued sid [entry] = [.status status] := by
          simp [queued, Callback.noticeOn, mine, notice]
        rw [single]
        exact (behind.append (List.Sublist.refl _)).trans (List.sublist_append_left ..)
      | disconnect reason =>
        refine (ordered.among sid).append ?_
        simp [queued, produced, Callback.noticeOn, Event.producedOn, Callback.isDisconnect, mine, notice]
    · have none : queued sid [entry] = [] := by simp [queued, Callback.noticeOn, mine]
      rw [none, List.append_nil]
      exact (ordered.among sid).trans (List.sublist_append_left ..)
  · intro past sid raw frame status split
    obtain ⟨-, same⟩ := List.append_inj' split rfl
    cases same

/-- The oldest notification is handed to its callback. -/
theorem Ordered.dispatch {s after : State} {entry : Callback} {rest : List Callback}
    (ordered : Ordered s) (next : s.callbacks = entry :: rest) (callbacks : after.callbacks = rest)
    (log : after.log = s.log ++ [.dispatched entry]) : Ordered after := by
  have moved : ∀ sid, handed sid after.log ++ queued sid after.callbacks =
      handed sid s.log ++ queued sid s.callbacks := by
    intro sid
    rw [log, handed_append, callbacks, next, List.append_assoc]
    congr 1
    cases mine : entry.noticeOn sid <;> simp [handed, queued, Event.handedOn, mine]
  constructor
  · intro sid
    rw [moved, log, produced_append]
    exact (ordered.among sid).trans (List.sublist_append_left ..)
  · intro past sid raw frame status split
    rw [log] at split
    obtain ⟨-, same⟩ := List.append_inj' split rfl
    cases same

theorem Effect.ordered {config : Config} {overflow : Prop} {s after : State}
    (effect : Effect config overflow s after) (ordered : Ordered s) : Ordered after := by
  cases effect with
  | clock forward epoch => exact ordered.aside [] (by simp) (by simp) rfl
  | accept idle free =>
    unfold State.openSession
    exact ordered.aside [_] rfl (by simp) rfl
  | feed known opened => exact ordered.aside [_] rfl (by simp) rfl
  | note sid eof readError reason cancelling => exact ordered.aside [] (by simp) (by simp) rfl
  | closeWriter known => exact ordered.aside [_] rfl (by simp) rfl
  | release current left =>
    rw [State.release, if_pos current]
    exact ordered.aside [_] rfl (by simp) rfl
  | @fail sid gone left =>
    rcases s.failPending_cases sid with same | ⟨c, pending, error, -, -, -, -, same⟩
    · rw [same]; exact ordered
    · rw [same]; exact ordered.aside [] (by simp [State.setFuture]) (by simp) rfl
  | skip known handling next => exact ordered.aside [_] rfl (by simp) rfl
  | @report sid raw frame rest decoded status known handling next isReport decodes built =>
    rcases State.confirm_cases _ sid frame (s.sessions sid).offset status with
      same | ⟨c, pending, -, -, -, -, -, -, -, -, same⟩
    · rw [same]; exact ordered.report rfl rfl
    · rw [same]; exact ordered.report rfl rfl
  | readAt begun move => exact ordered.aside [] (by simp [State.setReadAt]) (by simp) rfl
  | chunk known reading taken nonempty fed =>
    exact ordered.aside [] (by simp [State.receiveChunk]) (by simp) rfl
  | reply phase sent =>
    obtain ⟨-, -, -, -, -, -, raw, -, rfl⟩ := State.sendTurn_sent sent
    exact ordered.aside [_] rfl (by simp) rfl
  | unlock => exact ordered.aside [] (by simp) (by simp) rfl
  | put entry room origin => exact ordered.put origin
  | discardQueued =>
    refine ordered.keep _ rfl ?_ fun sid => ?_
    · simp only [List.mem_map]
      rintro event ⟨entry, -, rfl⟩
      rfl
    · exact List.Sublist.filterMap _ ((List.drop_sublist ..).trans List.filter_sublist)
  | drop entry => exact ordered.aside [_] rfl (by simp) rfl
  | @dispatch entry rest next free => exact ordered.dispatch next rfl rfl
  | idle => exact ordered.aside [] (by simp) (by simp) rfl
  | stop => exact ordered.aside [] (by simp) (by simp) rfl
  | refuse rejected => exact ordered.aside [_, _] rfl (by simp) rfl
  | call parsed current connected => exact ordered.aside [_] rfl (by simp) rfl
  | popReader next => exact ordered.aside [] (by simp) (by simp) rfl
  | popCommand next => exact ordered.aside [] (by simp) (by simp) rfl
  | skipCommand next asked => exact ordered.aside [_] rfl (by simp) rfl
  | popCleanup next => exact ordered.aside [] (by simp) (by simp) rfl
  | move move => exact ordered.aside [] (by simp) (by simp) rfl
  | register phase free current => exact ordered.aside [] (by simp [State.register]) (by simp) rfl
  | transmit phase sent =>
    obtain ⟨-, -, -, -, -, -, raw, -, rfl⟩ := State.sendTurn_sent sent
    refine ordered.aside [_] rfl (by simp) ?_
    simp only [State.setCall, State.write]
    split <;> rfl
  | settle how => exact ordered.aside [_] rfl (by simp) rfl
  | cancel live cause => exact ordered.aside [_] rfl (by simp) rfl
  | interrupt waiting => exact ordered.aside [_] rfl (by simp) rfl
  | drain waiting interrupted => exact ordered.aside [] (by simp) (by simp) rfl
  | finish waiting done result => exact ordered.aside [_] rfl (by simp) rfl
  | close opened => exact ordered.aside [_] rfl (by simp) rfl
  | finishCleanup gathering => exact ordered.aside [] (by simp) (by simp) rfl
  | forget closing => exact ordered.aside [_] rfl (by simp) rfl

/-- The entry an event of the queue is about. -/
def Event.entry? : Event → Option Callback
  | .enqueued entry | .discarded entry | .dispatched entry => some entry
  | _ => none

/-- The reader of this session has ended. -/
def Left (s : State) (sid : Nat) : Prop := s.knows sid ∧ (s.sessions sid).readAt = .done

/-- A piece of a step that does not touch the queue and ends no reader. -/
structure Aside (s after : State) : Prop where
  closing : after.closing = s.closing
  calm : (∀ sid, (s.sessions sid).cancelling = false) →
    ∀ sid, (after.sessions sid).cancelling = false
  left : ∀ sid, Left after sid ↔ Left s sid
  callbacks : after.callbacks = s.callbacks
  quiet : ∃ events, after.log = s.log ++ events ∧ ∀ event ∈ events, event.entry? = none

/-- A piece that leaves the sessions alone too. -/
theorem Aside.keep {s after : State} (closing : after.closing = s.closing)
    (sessions : after.sessions = s.sessions) (counter : after.sessionCounter = s.sessionCounter)
    (callbacks : after.callbacks = s.callbacks)
    (quiet : ∃ events, after.log = s.log ++ events ∧ ∀ event ∈ events, event.entry? = none) :
    Aside s after where
  closing := closing
  calm := by rw [sessions]; exact id
  left sid := by rw [Left, Left, State.knows, State.knows, sessions, counter]
  callbacks := callbacks
  quiet := quiet

theorem Aside.silent {s after : State} (closing : after.closing = s.closing)
    (sessions : after.sessions = s.sessions) (counter : after.sessionCounter = s.sessionCounter)
    (callbacks : after.callbacks = s.callbacks) (log : after.log = s.log) : Aside s after :=
  .keep closing sessions counter callbacks ⟨[], by simp [log], by simp⟩

/-- The events of a piece that appends this one to the log. -/
theorem quiet_one {s after : State} {event : Event} (log : after.log = s.log ++ [event])
    (silent : event.entry? = none) :
    ∃ events, after.log = s.log ++ events ∧ ∀ event ∈ events, event.entry? = none :=
  ⟨[event], log, by simpa using silent⟩

theorem Aside.noted {s after : State} {event : Event} (closing : after.closing = s.closing)
    (sessions : after.sessions = s.sessions) (counter : after.sessionCounter = s.sessionCounter)
    (callbacks : after.callbacks = s.callbacks) (log : after.log = s.log ++ [event])
    (silent : event.entry? = none) : Aside s after :=
  .keep closing sessions counter callbacks (quiet_one log silent)

theorem Aside.trans {s middle after : State} (first : Aside s middle) (second : Aside middle after) :
    Aside s after where
  closing := second.closing.trans first.closing
  calm := second.calm ∘ first.calm
  left sid := (second.left sid).trans (first.left sid)
  callbacks := second.callbacks.trans first.callbacks
  quiet := by
    obtain ⟨events, log, quiet⟩ := first.quiet
    obtain ⟨later, log', quiet'⟩ := second.quiet
    refine ⟨events ++ later, by rw [log', log, List.append_assoc], fun event member => ?_⟩
    exact (List.mem_append.mp member).elim (quiet event) (quiet' event)

/-- One session changes, and its reader does not end. -/
theorem Aside.session {s : State} {sid : Nat} {session : Session}
    (cancelling : session.cancelling = (s.sessions sid).cancelling)
    (going : session.readAt = .done ↔ (s.sessions sid).readAt = .done) :
    Aside s (s.setSession sid session) where
  closing := rfl
  callbacks := rfl
  quiet := ⟨[], by simp, by simp⟩
  calm still other := by
    rw [← still other]
    exact update_field Session.cancelling cancelling other
  left other := by
    refine and_congr_right fun _ => ?_
    by_cases equal : other = sid
    · subst equal
      simpa using going
    · simp [equal]

theorem Aside.closeWriter (s : State) (sid : Nat) : Aside s (s.closeWriter sid) := by
  have closed : Aside s (s.setSession sid { s.sessions sid with isClosing := true }) :=
    Aside.session rfl Iff.rfl
  exact closed.trans (.noted rfl rfl rfl rfl rfl rfl)

theorem Aside.setReadAt {s : State} {sid : Nat} {phase : ReadAt}
    (going : phase = .done ↔ (s.sessions sid).readAt = .done) : Aside s (s.setReadAt sid phase) :=
  Aside.session rfl going

theorem Aside.release (s : State) (sid : Nat) : Aside s (s.release sid) := by
  unfold State.release
  split
  · exact .noted rfl rfl rfl rfl rfl rfl
  · exact .silent rfl rfl rfl rfl rfl

theorem Aside.failPending (s : State) (sid : Nat) : Aside s (s.failPending sid) := by
  rcases s.failPending_cases sid with same | ⟨c, pending, error, -, -, -, -, same⟩
  · rw [same]; exact .silent rfl rfl rfl rfl rfl
  · rw [same]; exact .silent rfl rfl rfl rfl rfl

theorem Aside.endRead {s : State} {sid : Nat} (reason : Option DisconnectReason)
    (going : (s.sessions sid).readAt ≠ .done) : Aside s (s.endRead sid reason) := by
  have noted : ∀ (s : State) (reason : DisconnectReason), Aside s (s.setReason sid reason) :=
    fun s reason => Aside.session rfl Iff.rfl
  have ended : ∀ {s : State}, (s.sessions sid).readAt ≠ .done →
      Aside s ((((s.setReadAt sid .closing).release sid).failPending sid).closeWriter sid) :=
    fun going => ((Aside.setReadAt (by simp [going])).trans (Aside.release ..)).trans
      ((Aside.failPending ..).trans (Aside.closeWriter ..))
  have kept : ∀ {s : State} (reason : DisconnectReason), (s.sessions sid).readAt ≠ .done →
      ((s.setReason sid reason).sessions sid).readAt ≠ .done := fun reason going => by
    simpa [State.setReason] using going
  simp only [State.endRead]
  cases reason with
  | none =>
    simp only
    split
    · exact (noted s _).trans (ended (kept _ going))
    · exact ended going
  | some reason =>
    simp only
    split
    · exact ((noted s reason).trans (noted _ _)).trans (ended (kept _ (kept _ going)))
    · exact (noted s reason).trans (ended (kept _ going))

theorem Aside.failCallback (s : State) (entry : Callback) : Aside s (s.failCallback entry) := by
  have noted : Aside s (s.setSession entry.session
      { s.sessions entry.session with reason := .callbackError }) := Aside.session rfl Iff.rfl
  unfold State.failCallback
  split
  · exact noted.trans (Aside.closeWriter ..)
  · exact .silent rfl rfl rfl rfl rfl

theorem Aside.continueRead {s : State} {sid : Nat} (opened : s.closing = false)
    (going : (s.sessions sid).readAt ≠ .done) : Aside s (s.continueRead sid) := by
  rw [State.continueRead, if_neg (by simp [opened])]
  exact Aside.setReadAt (by simp [going])

theorem Aside.settle (s : State) (c : Nat) (outcome : Outcome) : Aside s (s.settle c outcome) := by
  have reads : ∀ sid, ((s.settle c outcome).sessions sid).cancelling = (s.sessions sid).cancelling ∧
      ((s.settle c outcome).sessions sid).readAt = (s.sessions sid).readAt := by
    intro sid
    simp only [State.settle]
    split
    · exact ⟨update_field Session.cancelling (by rfl) sid, update_field Session.readAt (by rfl) sid⟩
    · exact ⟨rfl, rfl⟩
  exact { closing := rfl
          callbacks := rfl
          calm := fun still sid => (reads sid).1.trans (still sid)
          left := fun sid => by
            unfold Left
            rw [(reads sid).2]
            exact Iff.rfl
          quiet := quiet_one rfl rfl }

theorem Aside.write (s : State) (sid : Nat) (opcode : Int) (data : Bytes) (sender : Sender)
    (raw : Bytes) : Aside s (s.write sid opcode data sender raw) := by
  cases sender with
  | reader other => exact .noted rfl rfl rfl rfl rfl rfl
  | command c =>
    simp only [State.write]
    split
    · exact .noted rfl rfl rfl rfl rfl rfl
    · exact .noted rfl rfl rfl rfl rfl rfl

theorem Aside.beginCommand (config : Config) (s : State) (c : Nat) :
    Aside s (s.beginCommand config c) := by
  simp only [State.beginCommand]
  split
  · exact (show Aside s { s with commandLock := some c } from .silent rfl rfl rfl rfl rfl).trans (Aside.settle ..)
  · have locked : Aside s { s with commandLock := some c } := .silent rfl rfl rfl rfl rfl
    have asked : ∀ s : State, Aside s (s.register c) := fun s => by
      have noted : Aside s (s.setCall c { s.calls c with
          pending := some {
            opcode := (s.calls c).command.opcode, expected := (s.calls c).command.expected
            allowStale := (s.calls c).command.allowStale }
          execute := .sendLock }) := .silent rfl rfl rfl rfl rfl
      exact noted.trans (Aside.session rfl Iff.rfl)
    exact locked.trans (asked _)

theorem Aside.sendCommand (config : Config) (s : State) (c : Nat) :
    Aside s (s.sendCommand config c) := by
  simp only [State.sendCommand]
  split
  · exact Aside.settle ..
  · exact .silent rfl rfl rfl rfl rfl
  · rename_i after sent
    obtain ⟨-, -, -, -, -, -, raw, -, rfl⟩ := State.sendTurn_sent sent
    have written : Aside s (s.write (s.calls c).session (s.calls c).command.opcode
        (s.calls c).command.data (.command c) raw) := Aside.write ..
    exact written.trans (.silent rfl rfl rfl rfl rfl)

/-- What resuming the task of a command can do. -/
theorem State.resumeExecute_cases {config : Config} {s after : State} {c : Nat} {signal : Signal}
    (taken : s.resumeExecute config c signal = some after) :
    (∃ outcome, after = s.settle c outcome ∨ after = { s with sendLock := none }.settle c outcome) ∨
      (∃ call, after = s.setCall c call ∨ after = { s with sendLock := none }.setCall c call) ∨
      after = s.beginCommand config c ∨ after = s.sendCommand config c := by
  simp only [State.resumeExecute] at taken
  split at taken
  · split at taken
    · exact .inl ⟨_, .inl (Option.some.inj taken).symm⟩
    split at taken
    · split at taken
      · exact .inr (.inr (.inl (Option.some.inj taken).symm))
      · cases taken
    · exact .inl ⟨_, .inl (Option.some.inj taken).symm⟩
    · cases taken
  · split at taken
    · exact .inl ⟨_, .inl (Option.some.inj taken).symm⟩
    split at taken
    · split at taken
      · exact .inr (.inr (.inr (Option.some.inj taken).symm))
      · cases taken
    · exact .inl ⟨_, .inl (Option.some.inj taken).symm⟩
    · cases taken
  · split at taken
    · exact .inl ⟨_, .inl (Option.some.inj taken).symm⟩
    split at taken
    · exact .inr (.inl ⟨_, .inl (Option.some.inj taken).symm⟩)
    · exact .inl ⟨_, .inl (Option.some.inj taken).symm⟩
    · cases taken
  · split at taken
    · exact .inl ⟨_, .inr (Option.some.inj taken).symm⟩
    split at taken
    · exact .inr (.inl ⟨_, .inr (Option.some.inj taken).symm⟩)
    · exact .inl ⟨_, .inr (Option.some.inj taken).symm⟩
    · exact .inl ⟨_, .inr (Option.some.inj taken).symm⟩
  · split at taken
    · exact .inl ⟨_, .inl (Option.some.inj taken).symm⟩
    split at taken
    · split at taken
      · cases taken
      · obtain ⟨outcome, -, ended⟩ := Option.map_eq_some_iff.mp taken
        exact .inl ⟨outcome, .inl ended.symm⟩
    · exact .inl ⟨_, .inl (Option.some.inj taken).symm⟩
    · cases taken
  · cases taken
  · cases taken


theorem Aside.resumeExecute {config : Config} {s after : State} {c : Nat} {signal : Signal}
    (taken : s.resumeExecute config c signal = some after) : Aside s after := by
  have unlocked : Aside s { s with sendLock := none } := .silent rfl rfl rfl rfl rfl
  rcases State.resumeExecute_cases taken with
    ⟨outcome, rfl | rfl⟩ | ⟨call, rfl | rfl⟩ | rfl | rfl
  · exact Aside.settle ..
  · exact unlocked.trans (Aside.settle ..)
  · exact .silent rfl rfl rfl rfl rfl
  · exact .silent rfl rfl rfl rfl rfl
  · exact Aside.beginCommand ..
  · exact Aside.sendCommand ..

theorem Aside.call (config : Config) (s : State) (request : Request) :
    Aside s (s.call config request) := by
  simp only [State.call]
  split
  · exact .keep rfl rfl rfl rfl ⟨[_, _], rfl, by simp [Event.entry?]⟩
  split
  · exact .keep rfl rfl rfl rfl ⟨[_, _], rfl, by simp [Event.entry?]⟩
  · exact .noted rfl rfl rfl rfl rfl rfl

theorem Aside.cancelCaller {s after : State} {c : Nat} (taken : s.cancelCaller c = some after) :
    Aside s after := by
  have noted : Aside s (s.emit (.callerCancelled c)) := .noted rfl rfl rfl rfl rfl rfl
  have asked : ∀ s : State, Aside s (s.cancelTask c) := fun s => by
    unfold State.cancelTask
    split
    · exact .silent rfl rfl rfl rfl rfl
    · exact .noted rfl rfl rfl rfl rfl rfl
  simp only [State.cancelCaller] at taken
  split at taken
  · cases taken
  · cases taken
    exact noted.trans (.noted rfl rfl rfl rfl rfl rfl)
  · cases taken
    exact (noted.trans (asked _)).trans (.silent rfl rfl rfl rfl rfl)
  · cases taken
    exact noted

theorem Aside.resumeCaller {s after : State} {c : Nat} (taken : s.resumeCaller c = some after) :
    Aside s after := by
  simp only [State.resumeCaller] at taken
  split at taken
  · cases taken
    exact .noted rfl rfl rfl rfl rfl rfl
  · cases taken
    exact .noted rfl rfl rfl rfl rfl rfl
  · cases taken

theorem Aside.accept (config : Config) (s : State) (peer : Option String) :
    Aside s (s.accept config peer) := by
  cases peer with
  | none => exact show Aside s s from .silent rfl rfl rfl rfl rfl
  | some address =>
    simp only [State.accept]
    split
    · exact .silent rfl rfl rfl rfl rfl
    · unfold State.openSession
      refine ⟨rfl, fun still sid => ?_, fun sid => ?_, rfl, quiet_one rfl rfl⟩
      · by_cases equal : sid = s.sessionCounter + 1
        · subst equal
          simp [Session.fresh]
        · simpa [equal] using still sid
      · simp only [Left, State.knows_iff]
        by_cases equal : sid = s.sessionCounter + 1
        · subst equal
          simp [Session.fresh]
        · simp only [State.setSession, Function.update_of_ne equal]
          refine and_congr_left fun _ => ?_
          omega

/-- The first step of a task, while the client is open and nothing is cancelled. -/
theorem Aside.startTask {s after : State} (shape : Shape s) (opened : s.closing = false)
    (still : ∀ sid, (s.sessions sid).cancelling = false) (taken : s.startTask = some after) :
    Aside s after := by
  simp only [State.startTask] at taken
  split at taken
  · cases taken
  · rename_i sid rest next
    cases taken
    have created := (shape.spawnedReader sid (by simp [next])).2
    have popped : Aside s { s with spawned := rest } := .silent rfl rfl rfl rfl rfl
    rw [if_neg (by simp [still sid])]
    exact popped.trans (Aside.continueRead opened (by simp [created]))
  · rename_i c rest next
    cases taken
    have popped : Aside s { s with spawned := rest } := .silent rfl rfl rfl rfl rfl
    split
    · exact popped.trans (Aside.settle ..)
    · exact popped.trans (.silent rfl rfl rfl rfl rfl)
  · rename_i rest next
    have closing := shape.cleanupClosing (.inl (by simp [next]))
    rw [opened] at closing
    cases closing

/-- The disconnect notifications in the queue. -/
def State.disconnects (s : State) : List Callback := s.callbacks.filter Callback.isDisconnect

/-- A piece of a step of the reader of a session: it moves only status notifications,
and discards those of its own session only when it closes the connection. -/
structure Reads (sid : Nat) (s after : State) : Prop where
  closing : after.closing = s.closing
  calm : (∀ other, (s.sessions other).cancelling = false) →
    ∀ other, (after.sessions other).cancelling = false
  left : ∀ other, Left after other ↔ Left s other
  disconnects : after.disconnects = s.disconnects
  moved : ∃ events, after.log = s.log ++ events ∧
    (∀ event ∈ events, ∀ entry, event.entry? = some entry →
      entry.isDisconnect = false ∧ event ≠ .dispatched entry) ∧
    ∀ entry, .discarded entry ∈ events → entry.session = sid → .writerClosing sid ∈ events

theorem Aside.reads {s after : State} (aside : Aside s after) (sid : Nat) : Reads sid s after where
  closing := aside.closing
  calm := aside.calm
  left := aside.left
  disconnects := by rw [State.disconnects, State.disconnects, aside.callbacks]
  moved := by
    obtain ⟨events, log, quiet⟩ := aside.quiet
    refine ⟨events, log, fun event member entry about => ?_, fun entry member => ?_⟩
    · rw [quiet event member] at about
      cases about
    · cases quiet _ member

theorem Reads.trans {sid : Nat} {s middle after : State} (first : Reads sid s middle)
    (second : Reads sid middle after) : Reads sid s after where
  closing := second.closing.trans first.closing
  calm := second.calm ∘ first.calm
  left other := (second.left other).trans (first.left other)
  disconnects := second.disconnects.trans first.disconnects
  moved := by
    obtain ⟨events, log, statuses, closed⟩ := first.moved
    obtain ⟨later, log', statuses', closed'⟩ := second.moved
    refine ⟨events ++ later, by rw [log', log, List.append_assoc], fun event member => ?_,
      fun entry member mine => ?_⟩
    · exact (List.mem_append.mp member).elim (statuses event) (statuses' event)
    · rcases List.mem_append.mp member with early | late
      · exact List.mem_append_left _ (closed entry early mine)
      · exact List.mem_append_right _ (closed' entry late mine)

/-- An overflow keeps the disconnect notifications unless all places hold one. -/
theorem State.discardQueuedStatuses_room {s : State} (room : s.disconnects.length < callbackQueueSize) :
    s.discardQueuedStatuses = { s with
      callbacks := s.disconnects
      log := s.log ++ (s.callbacks.filter (!·.isDisconnect)).map .discarded } := by
  have none : s.disconnects.length - (callbackQueueSize - 1) = 0 := by
    unfold callbackQueueSize at *
    omega
  simp only [State.discardQueuedStatuses]
  rw [State.disconnects] at none
  rw [none]
  simp [State.disconnects]

/-- A failing status notification of the current session closes its connection. -/
theorem State.failCallback_log {s : State} {entry : Callback} (kind : entry.isDisconnect = false)
    (current : s.session = some entry.session) :
    (s.failCallback entry).log = s.log ++ [.writerClosing entry.session] := by
  rw [State.failCallback, if_pos ⟨kind, current⟩]
  rfl

/-- The reader of the current session announces a report. -/
theorem Reads.enqueue {config : Config} {s : State} {sid : Nat} {status : DeviceStatus}
    (current : s.session = some sid)
    (room : config.onStatus → s.disconnects.length < callbackQueueSize) :
    Reads sid s (s.enqueueCallback config ⟨sid, .status status⟩) := by
  have kind : (⟨sid, .status status⟩ : Callback).isDisconnect = false := rfl
  simp only [State.enqueueCallback, kind, Bool.false_eq_true, ↓reduceIte]
  split
  · exact (Aside.silent rfl rfl rfl rfl rfl).reads sid
  rename_i wanted
  split
  · refine { closing := rfl, calm := id, left := fun _ => Iff.rfl, disconnects := ?_
             moved := ⟨[_], rfl, ?_, ?_⟩ }
    · simp [State.disconnects, State.putCallback, kind]
    · simp [Event.entry?, kind]
    · simp
  · have placed := State.discardQueuedStatuses_room (room (by simpa using wanted))
    have emptied : s.discardQueuedStatuses.callbacks = s.disconnects ∧ s.discardQueuedStatuses.log =
        s.log ++ (s.callbacks.filter (!·.isDisconnect)).map .discarded := by rw [placed]; exact ⟨rfl, rfl⟩
    have aside := Aside.failCallback (s.discardQueuedStatuses.emit (.discarded ⟨sid, .status status⟩))
      ⟨sid, .status status⟩
    have closed : ((s.discardQueuedStatuses.emit (.discarded ⟨sid, .status status⟩)).failCallback
        ⟨sid, .status status⟩).log = _ := State.failCallback_log kind current
    refine { closing := aside.closing, calm := aside.calm, left := aside.left, disconnects := ?_
             moved := ?_ }
    · rw [State.disconnects, aside.callbacks]
      simp [emptied.1, State.disconnects]
    · refine ⟨(s.callbacks.filter (!·.isDisconnect)).map .discarded ++
        [.discarded ⟨sid, .status status⟩, .writerClosing sid], ?_, ?_, ?_⟩
      · rw [closed]
        simp [emptied.2]
      · intro event member entry about
        rcases List.mem_append.mp member with old | fresh
        · obtain ⟨other, found, rfl⟩ := List.mem_map.mp old
          cases about
          exact ⟨by simpa using (List.mem_filter.mp found).2, by simp⟩
        · rcases List.mem_cons.mp fresh with rfl | last
          · cases about
            exact ⟨rfl, by simp⟩
          · obtain rfl := List.mem_singleton.mp last
            cases about
      · exact fun _ _ _ => by simp

/-- Whether handling these frames comes to a report that decodes. -/
def reportsNext : List (Bytes × Frame) → Bool
  | [] => false
  | (_, frame) :: rest =>
    if frame.isHeartbeat then false
    else if frame.isReport then
      match observedStatus frame with
      | .error _ => false
      | .ok _ => true
    else reportsNext rest

theorem State.confirm_aside (s : State) (sid : Nat) (frame : Frame) (offset : Nat)
    (status : DeviceStatus) : Aside s (s.confirm sid frame offset status) ∧
      (s.confirm sid frame offset status).session = s.session := by
  rcases s.confirm_cases sid frame offset status with
    same | ⟨c, pending, -, -, -, -, -, -, -, -, same⟩
  · rw [same]; exact ⟨.silent rfl rfl rfl rfl rfl, rfl⟩
  · rw [same]; exact ⟨.silent rfl rfl rfl rfl rfl, rfl⟩

theorem State.enqueueCallback_session (config : Config) (s : State) (entry : Callback) :
    (s.enqueueCallback config entry).session = s.session := by
  unfold State.enqueueCallback
  by_cases unwanted : (if entry.isDisconnect then config.onDisconnect else config.onStatus) = false
  · rw [if_pos unwanted]
  rw [if_neg unwanted]
  by_cases room : s.callbacks.length < callbackQueueSize
  · rw [if_pos room]
    rfl
  rw [if_neg room]
  cases entry.isDisconnect with
  | true => rfl
  | false =>
    simp only [Bool.false_eq_true, ↓reduceIte, State.failCallback]
    split
    · simp [State.closeWriter, State.discardQueuedStatuses]
    · simp [State.discardQueuedStatuses]

theorem Aside.takeFrame (s : State) (sid : Nat) (raw : Bytes) (frame : Frame)
    (rest : List (Bytes × Frame)) (status : Option DeviceStatus) :
    Aside s (s.takeFrame sid raw frame rest status) := by
  have taken : Aside s (s.setSession sid { s.sessions sid with
      offset := (s.sessions sid).offset + raw.length, frames := rest, verified := true }) :=
    Aside.session rfl Iff.rfl
  exact taken.trans (.noted rfl rfl rfl rfl rfl rfl)

/-- The reader of the current session handles its frames. -/
theorem Reads.handleFrames {config : Config} {sid : Nat} {frames : List (Bytes × Frame)} {s : State}
    (current : s.session = some sid) (opened : s.closing = false)
    (handling : (s.sessions sid).readAt = .handling)
    (room : config.onStatus → reportsNext frames → s.disconnects.length < callbackQueueSize) :
    Reads sid s (handleFrames config sid frames s) := by
  induction frames generalizing s with
  | nil => exact (Aside.continueRead opened (by simp [handling])).reads sid
  | cons head rest ih =>
    obtain ⟨raw, frame⟩ := head
    have taken : Aside s (s.takeFrame sid raw frame rest none) := Aside.takeFrame ..
    have still : ((s.takeFrame sid raw frame rest none).sessions sid).readAt = .handling := by
      simp [State.takeFrame, handling]
    simp only [reportsNext] at room
    simp only [State.handleFrames]
    split
    · exact (taken.trans (Aside.setReadAt (by simp [still]))).reads sid
    rename_i ordinary
    rw [if_neg ordinary] at room
    split
    · rename_i isReport
      rw [if_pos isReport] at room
      split
      · exact (taken.trans (Aside.endRead _ (by simp [still]))).reads sid
      · rename_i decoded decodes
        simp only [decodes] at room
        have looped : Aside s (s.takeFrame sid raw frame rest (some (s.deviceStatus sid frame decoded))) :=
          Aside.takeFrame ..
        have stored : Aside s { s.takeFrame sid raw frame rest (some (s.deviceStatus sid frame decoded))
            with status := some (s.deviceStatus sid frame decoded) } := looped.trans (.silent rfl rfl rfl rfl rfl)
        obtain ⟨confirmed, session⟩ := State.confirm_aside
          { s.takeFrame sid raw frame rest (some (s.deviceStatus sid frame decoded))
            with status := some (s.deviceStatus sid frame decoded) } sid frame
          (s.sessions sid).offset (s.deviceStatus sid frame decoded)
        have before := stored.trans confirmed
        have kept : (State.confirm { s.takeFrame sid raw frame rest
            (some (s.deviceStatus sid frame decoded)) with
              status := some (s.deviceStatus sid frame decoded) } sid frame
            (s.sessions sid).offset (s.deviceStatus sid frame decoded)).disconnects =
            s.disconnects := by
          rw [State.disconnects, before.callbacks, State.disconnects]
        have announced : Reads sid s (s.handleReport config sid raw frame rest decoded) :=
          (before.reads sid).trans (Reads.enqueue (session.trans current)
            fun wanted => by rw [kept]; exact room wanted trivial)
        obtain ⟨phase, -, -⟩ := s.handleReport_frame config sid raw frame rest decoded
        refine announced.trans (ih ?_ (announced.closing.trans opened) (phase.trans handling) ?_)
        · exact (State.enqueueCallback_session ..).trans (session.trans current)
        · intro wanted _
          rw [announced.disconnects]
          exact room wanted trivial
    · rename_i other
      rw [if_neg other] at room
      refine (taken.reads sid).trans (ih current opened still fun wanted next => ?_)
      exact room wanted next

/-- The frames a reader handles first when it is resumed with this signal. -/
def State.upcoming (s : State) (sid : Nat) (signal : Signal) : List (Bytes × Frame) :=
  let session := s.sessions sid
  match session.readAt, signal with
  | .reading, .ready =>
    match session.parser.feed (session.buffer.take readBytes) with
    | .error _ => []
    | .ok (frames, _) => frames
  | .heartbeatDrain, .ready => session.frames
  | _, _ => []

theorem Aside.receiveChunk {s : State} {sid : Nat} {chunk : Bytes} {frames : List (Bytes × Frame)}
    {parser : FrameStream} (reading : (s.sessions sid).readAt = .reading) :
    Aside s (s.receiveChunk sid chunk frames parser) :=
  Aside.session rfl (by simp [reading])

/-- A step of a reader that has not left its loop, while nothing is cancelled. -/
theorem Reads.resumeReader {config : Config} {s after : State} {sid : Nat} {signal : Signal}
    (reporting : Reporting s) (known : s.knows sid) (opened : s.closing = false)
    (still : (s.sessions sid).cancelling = false) (going : (s.sessions sid).readAt ≠ .closing)
    (room : config.onStatus → reportsNext (s.upcoming sid signal) →
      s.disconnects.length < callbackQueueSize)
    (taken : s.resumeReader config sid signal = some after) : Reads sid s after := by
  have unlocked : Aside s { s with sendLock := none } := .silent rfl rfl rfl rfl rfl
  cases phase : (s.sessions sid).readAt with
  | created => simp [State.resumeReader, phase] at taken
  | handling => simp [State.resumeReader, phase] at taken
  | done => simp [State.resumeReader, phase] at taken
  | closing => exact absurd phase going
  | reading =>
    have current := reporting.reading opened sid known (by simp [phase, ReadAt.left])
    simp only [State.resumeReader, phase, still, Bool.false_eq_true, ↓reduceIte] at taken
    split at taken
    · split at taken
      · cases taken
      · cases taken
        simp only [State.readChunk]
        split
        · split
          · exact (Aside.endRead _ (by simp [phase])).reads sid
          · exact (Aside.endRead _ (by simp [phase])).reads sid
        split
        · exact (Aside.endRead _ (by simp [phase])).reads sid
        · rename_i frames parser fed
          simp only [State.upcoming, phase, fed] at room
          have received : Aside s
              (s.receiveChunk sid ((s.sessions sid).buffer.take readBytes) frames parser) :=
            Aside.receiveChunk phase
          exact (received.reads sid).trans
            (Reads.handleFrames current opened (by simp [State.receiveChunk]) room)
    · cases taken
      exact (Aside.endRead _ (by simp [phase])).reads sid
    · split at taken
      · cases taken
        exact (Aside.endRead _ (by simp [phase])).reads sid
      · cases taken
  | heartbeatLock =>
    simp only [State.resumeReader, phase, still, Bool.false_eq_true, ↓reduceIte] at taken
    split at taken
    · cases taken
      simp only [State.answerHeartbeat]
      split
      · exact (Aside.endRead _ (by simp [phase])).reads sid
      · exact (Aside.endRead _ (by simp [phase])).reads sid
      · exact (Aside.silent rfl rfl rfl rfl rfl).reads sid
      · rename_i written sent
        obtain ⟨-, -, -, -, -, -, raw, -, rfl⟩ := State.sendTurn_sent sent
        have wrote : Aside s (s.write sid 1 [0] (.reader sid) raw) := Aside.write ..
        have answered : Aside s ((s.write sid 1 [0] (.reader sid) raw).setReadAt sid
            .heartbeatDrain) := wrote.trans (Aside.setReadAt (by simp [phase]))
        have locked : Aside s { (s.write sid 1 [0] (.reader sid) raw).setReadAt sid .heartbeatDrain with
            sendLock := some (.reader sid) } := answered.trans (.silent rfl rfl rfl rfl rfl)
        exact locked.reads sid
    · cases taken
  | heartbeatDrain =>
    have current := reporting.reading opened sid known (by simp [phase, ReadAt.left])
    simp only [State.resumeReader, phase, still, Bool.false_eq_true, ↓reduceIte] at taken
    split at taken
    · cases taken
      have resumed : Aside s ({ s with sendLock := none }.setReadAt sid .handling) :=
        unlocked.trans (Aside.setReadAt (by simp [phase]))
      simp only [State.upcoming, phase] at room
      exact (resumed.reads sid).trans
        (Reads.handleFrames current opened (by simp [State.setReadAt]) room)
    · cases taken
      exact (unlocked.trans (Aside.endRead _ (by simp [phase]))).reads sid
    · cases taken
      exact (unlocked.trans (Aside.endRead _ (by simp [phase]))).reads sid

/-- A status notification of the open current connection. -/
def State.live (s : State) (entry : Callback) : Bool :=
  !entry.isDisconnect && (s.session = some entry.session && !(s.sessions entry.session).isClosing)

/-- The overflow of this step, if there is one, finds a queue it may empty: a reader
that ends finds no status of the open current connection, and neither it nor a report
finds disconnect notifications in all places. -/
def State.spares (config : Config) (s : State) : Label → Bool
  | .reader sid signal =>
    if (s.sessions sid).readAt = .closing then
      !config.onDisconnect || (s.callbacks.length < callbackQueueSize ||
        (!s.callbacks.any s.live &&
          (!config.onStatus || s.disconnects.length < callbackQueueSize)))
    else !config.onStatus || (!reportsNext (s.upcoming sid signal) ||
      s.disconnects.length < callbackQueueSize)
  | _ => true

end AlorairLite.Local
