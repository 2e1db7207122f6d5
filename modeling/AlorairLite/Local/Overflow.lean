import AlorairLite.Local.Notification

/-! What an overflow of the callback queue may cost: while the client stays open, a
discarded status belongs to a connection that is not the open one or is closed for it,
and the end of every session is announced once and kept until it is handed over. -/

namespace AlorairLite.Local

open State

def Event.endingOf : Event → Option Callback
  | .enqueued entry => if entry.isDisconnect then some entry else none
  | _ => none

def Event.toldEndingOf : Event → Option Callback
  | .dispatched entry => if entry.isDisconnect then some entry else none
  | _ => none

/-- The disconnect notifications that were queued, and those handed to the callback. -/
def endings (log : List Event) : List Callback := log.filterMap Event.endingOf

def toldEndings (log : List Event) : List Callback := log.filterMap Event.toldEndingOf

/-- Announces the end of this session. -/
def Event.announcesEnd (sid : Nat) : Event → Bool
  | .enqueued entry => entry.isDisconnect && entry.session = sid
  | _ => false

theorem endings_append (log later : List Event) :
    endings (log ++ later) = endings log ++ endings later := List.filterMap_append

theorem toldEndings_append (log later : List Event) :
    toldEndings (log ++ later) = toldEndings log ++ toldEndings later := List.filterMap_append

/-- No disconnect notification was lost. -/
structure Retained (s : State) : Prop where
  undiscarded : ∀ entry, .discarded entry ∈ s.log → entry.isDisconnect = false
  conserved : endings s.log = toldEndings s.log ++ s.disconnects

/-- A client that is not closing, with the ends of its sessions announced. -/
structure Calm (config : Config) (s : State) : Prop where
  opened : s.closing = false
  still : ∀ sid, (s.sessions sid).cancelling = false
  announced : config.onDisconnect → ∀ sid,
    (Left s sid → s.log.countP (Event.announcesEnd sid) = 1) ∧
      (¬ Left s sid → s.log.countP (Event.announcesEnd sid) = 0)
  kept : config.onStatus → config.onDisconnect → Retained s

/-- Every status notification this step discards belongs to a connection that was not
the open current one, or that the step itself closes. -/
def Excused (s after : State) : Prop :=
  ∀ events, after.log = s.log ++ events → ∀ entry, .discarded entry ∈ events →
    entry.isDisconnect = false → s.session ≠ some entry.session ∨
      (s.sessions entry.session).isClosing ∨ .writerClosing entry.session ∈ events

theorem Calm.reads {config : Config} {sid : Nat} {s after : State} (reads : Reads sid s after)
    (calm : Calm config s) : Calm config after := by
  obtain ⟨events, log, statuses, -⟩ := reads.moved
  have silent : ∀ event ∈ events, event.endingOf = none ∧ event.toldEndingOf = none ∧
      ∀ other, event.announcesEnd other = false := by
    intro event member
    cases event with
    | enqueued entry =>
      have kind := (statuses _ member entry rfl).1
      simp [Event.endingOf, Event.toldEndingOf, Event.announcesEnd, kind]
    | dispatched entry => exact absurd rfl (statuses _ member entry rfl).2
    | _ => exact ⟨rfl, rfl, fun _ => rfl⟩
  refine ⟨reads.closing.trans calm.opened, reads.calm calm.still, fun wanted other => ?_,
    fun status wanted => ⟨fun entry member => ?_, ?_⟩⟩
  · have none : events.countP (Event.announcesEnd other) = 0 :=
      List.countP_eq_zero.mpr fun event member => by simp [(silent event member).2.2 other]
    rw [reads.left, log, List.countP_append, none]
    exact calm.announced wanted other
  · rw [log] at member
    rcases List.mem_append.mp member with old | fresh
    · exact (calm.kept status wanted).undiscarded entry old
    · exact (statuses _ fresh entry rfl).1
  · have nothing : endings events = [] ∧ toldEndings events = [] :=
      ⟨List.filterMap_eq_nil_iff.mpr fun event member => (silent event member).1,
        List.filterMap_eq_nil_iff.mpr fun event member => (silent event member).2.1⟩
    rw [log, endings_append, toldEndings_append, nothing.1, nothing.2, List.append_nil,
      List.append_nil, reads.disconnects]
    exact (calm.kept status wanted).conserved

theorem Reads.excused {sid : Nat} {s after : State} (reads : Reads sid s after)
    (current : s.session = some sid) : Excused s after := by
  obtain ⟨events, log, -, closed⟩ := reads.moved
  intro appended log' entry member _
  obtain rfl : appended = events := List.append_cancel_left (log'.symm.trans log)
  by_cases mine : entry.session = sid
  · exact .inr (.inr (mine ▸ closed entry member mine))
  · exact .inl fun same => mine (Option.some.inj (same.symm.trans current))

theorem Aside.excused {s after : State} (aside : Aside s after) : Excused s after := by
  obtain ⟨events, log, quiet⟩ := aside.quiet
  intro appended log' entry member
  obtain rfl : appended = events := List.append_cancel_left (log'.symm.trans log)
  cases quiet _ member

/-- The oldest notification is handed over. -/
theorem Calm.dispatch {config : Config} {s after : State} (calm : Calm config s)
    (taken : s.dispatch = some after) : Calm config after ∧ Excused s after := by
  simp only [State.dispatch] at taken
  split at taken
  · cases taken
  rename_i entry rest next
  split at taken
  · cases taken
  cases taken
  refine ⟨⟨calm.opened, calm.still, fun wanted other => ?_, fun status wanted => ⟨?_, ?_⟩⟩, ?_⟩
  · have none : [Event.dispatched entry].countP (Event.announcesEnd other) = 0 := by
      simp [Event.announcesEnd]
    rw [List.countP_append, none]
    exact calm.announced wanted other
  · intro other member
    exact (calm.kept status wanted).undiscarded other (by simpa using member)
  · have conserved := (calm.kept status wanted).conserved
    have none : endings [.dispatched entry] = [] := rfl
    have told : toldEndings [.dispatched entry] = [entry].filter Callback.isDisconnect := by
      by_cases kind : entry.isDisconnect <;> simp [toldEndings, Event.toldEndingOf, kind]
    rw [State.disconnects, next, ← List.singleton_append, List.filter_append, ← List.append_assoc]
      at conserved
    rw [endings_append, toldEndings_append, none, told, List.append_nil]
    exact conserved
  · intro events log other member
    have same : [Event.dispatched entry] = events := List.append_cancel_left log
    rw [← same] at member
    simp at member

/-- The reader of a session ends: its notification is queued once, and what an overflow
discards for it is allowed. -/
theorem Calm.finish {config : Config} {s : State} {sid : Nat} {reason : DisconnectReason}
    (calm : Calm config s) (known : s.knows sid) (closing : (s.sessions sid).readAt = .closing)
    (spared : config.onDisconnect = false ∨ s.callbacks.length < callbackQueueSize ∨
      s.callbacks.any s.live = false ∧
        (config.onStatus = false ∨ s.disconnects.length < callbackQueueSize)) :
    Calm config ((s.setReadAt sid .done).enqueueCallback config ⟨sid, .disconnect reason⟩) ∧
      Excused s ((s.setReadAt sid .done).enqueueCallback config ⟨sid, .disconnect reason⟩) := by
  have kind : (⟨sid, .disconnect reason⟩ : Callback).isDisconnect = true := rfl
  have left : ∀ other, Left (s.setReadAt sid .done) other ↔ other = sid ∨ Left s other := by
    intro other
    have same : Left (s.setReadAt sid .done) other ↔
        s.knows other ∧ ((s.setReadAt sid .done).sessions other).readAt = .done := Iff.rfl
    rw [same]
    by_cases equal : other = sid
    · subst equal
      simp [State.setReadAt, known]
    · simp [State.setReadAt, Left, equal]
  have unleft : ¬ Left s sid := fun gone => by
    have phase := gone.2
    rw [closing] at phase
    cases phase
  have still : ∀ other, ((s.setReadAt sid .done).sessions other).cancelling = false := fun other => by
    rw [← calm.still other]
    exact update_field Session.cancelling (by rfl) other
  -- The bookkeeping that every way of queueing the notification shares.
  have told : ∀ {after : State} {discards : List Callback}, after.closing = s.closing →
      after.sessions = (s.setReadAt sid .done).sessions → after.sessionCounter = s.sessionCounter →
      after.log = s.log ++ (discards.map .discarded ++ [.enqueued ⟨sid, .disconnect reason⟩]) →
      (∀ entry ∈ discards, s.live entry = false) →
      (config.onStatus → (∀ entry ∈ discards, entry.isDisconnect = false) ∧
        after.disconnects = s.disconnects ++ [⟨sid, .disconnect reason⟩]) →
      Calm config after ∧ Excused s after := by
    intro after discards opened sessions counter log dead ends
    have leaves : ∀ other, Left after other ↔ other = sid ∨ Left s other := fun other => by
      rw [← left other]
      simp only [Left, State.knows, sessions, counter]
      exact Iff.rfl
    refine ⟨⟨opened.trans calm.opened, sessions ▸ still, fun wanted other => ?_,
      fun status wanted => ⟨fun entry member => ?_, ?_⟩⟩, ?_⟩
    · have silent : (discards.map Event.discarded).countP (Event.announcesEnd other) = 0 := by
        refine List.countP_eq_zero.mpr fun event member => ?_
        obtain ⟨entry, -, rfl⟩ := List.mem_map.mp member
        simp [Event.announcesEnd]
      obtain ⟨once, never⟩ := calm.announced wanted other
      rw [leaves, log, List.countP_append, List.countP_append, silent]
      by_cases equal : other = sid
      · subst equal
        have one : [Event.enqueued ⟨other, .disconnect reason⟩].countP (Event.announcesEnd other) = 1 := by
          simp [Event.announcesEnd, kind]
        rw [one, never unleft]
        exact ⟨fun _ => rfl, fun absent => absurd (.inl rfl) absent⟩
      · have none : [Event.enqueued ⟨sid, .disconnect reason⟩].countP (Event.announcesEnd other) = 0 := by
          simp [Event.announcesEnd, Ne.symm equal]
        rw [none]
        simp only [equal, false_or, Nat.add_zero]
        exact ⟨once, never⟩
    · rw [log] at member
      rcases List.mem_append.mp member with old | fresh
      · exact (calm.kept status wanted).undiscarded entry old
      · have found : entry ∈ discards := by simpa using fresh
        exact (ends status).1 entry found
    · have none : endings (discards.map Event.discarded) = [] ∧
          toldEndings (discards.map Event.discarded) = [] := by
        constructor
        · refine List.filterMap_eq_nil_iff.mpr fun event member => ?_
          obtain ⟨entry, -, rfl⟩ := List.mem_map.mp member
          rfl
        · refine List.filterMap_eq_nil_iff.mpr fun event member => ?_
          obtain ⟨entry, -, rfl⟩ := List.mem_map.mp member
          rfl
      have last : endings [.enqueued ⟨sid, .disconnect reason⟩] = [⟨sid, .disconnect reason⟩] ∧
          toldEndings [.enqueued ⟨sid, .disconnect reason⟩] = [] := ⟨rfl, rfl⟩
      rw [log, endings_append, endings_append, toldEndings_append, toldEndings_append, none.1, none.2,
        last.1, last.2, (ends status).2, (calm.kept status wanted).conserved]
      simp
    · intro events appended entry member status
      have same : events = _ := List.append_cancel_left (appended.symm.trans log)
      rw [same] at member
      have found : entry ∈ discards := by simpa using member
      have gone := dead entry found
      simp only [State.live, status, Bool.not_false, Bool.true_and, Bool.and_eq_false_iff,
        decide_eq_false_iff_not, Bool.not_eq_false'] at gone
      exact gone.imp_right .inl
  simp only [State.enqueueCallback, kind, ↓reduceIte]
  by_cases unwanted : config.onDisconnect = false
  · rw [if_pos unwanted]
    refine ⟨⟨calm.opened, still, ?_, ?_⟩, ?_⟩
    · intro wanted
      rw [unwanted] at wanted
      cases wanted
    · intro _ wanted
      rw [unwanted] at wanted
      cases wanted
    · intro events log entry member _
      have none : [] = events := List.append_cancel_left ((List.append_nil s.log).trans log)
      rw [← none] at member
      cases member
  rw [if_neg unwanted]
  by_cases room : (s.setReadAt sid .done).callbacks.length < callbackQueueSize
  · rw [if_pos room]
    refine @told _ [] rfl rfl rfl rfl (by simp) fun _ => ⟨by simp, ?_⟩
    simp [State.disconnects, State.putCallback, State.setReadAt, kind]
  · rw [if_neg room]
    obtain ⟨dead, spare⟩ := (spared.resolve_left unwanted).resolve_left room
    refine @told _ (s.callbacks.filter (!·.isDisconnect) ++
      s.disconnects.take (s.disconnects.length - (callbackQueueSize - 1))) rfl rfl rfl ?_ ?_ ?_
    · simp [State.putCallback, State.discardQueuedStatuses, State.setReadAt, State.disconnects]
    · intro entry member
      have queued : entry ∈ s.callbacks := by
        rcases List.mem_append.mp member with old | old
        · exact List.mem_of_mem_filter old
        · exact List.mem_of_mem_filter (List.mem_of_mem_take old)
      simpa using List.any_eq_false.mp dead entry queued
    · intro status
      have few := spare.resolve_left (by simp [status])
      have none : s.disconnects.length - (callbackQueueSize - 1) = 0 := by
        unfold callbackQueueSize at *
        omega
      refine ⟨fun entry member => ?_, ?_⟩
      · rw [none] at member
        have found : entry ∈ s.callbacks.filter (!·.isDisconnect) := by simpa using member
        simpa using (List.mem_filter.mp found).2
      · have placed : (s.setReadAt sid .done).discardQueuedStatuses = _ :=
          State.discardQueuedStatuses_room few
        rw [placed]
        simp [State.disconnects, State.putCallback, State.setReadAt, kind]

/-- A step of an open client that spares what its overflow would cost. -/
theorem Calm.step {config : Config} {s after : State} {label : Label} (calm : Calm config s)
    (shape : Shape s) (reporting : Reporting s) (running : label ≠ .close)
    (spares : s.spares config label) (taken : step config s label = some after) :
    Calm config after ∧ Excused s after := by
  have aside : Aside s after → Calm config after ∧ Excused s after := fun aside =>
    ⟨calm.reads (aside.reads 0), aside.excused⟩
  cases label with
  | tick elapsed =>
    simp only [AlorairLite.Local.step] at taken
    split at taken
    · cases taken; exact aside (.silent rfl rfl rfl rfl rfl)
    · cases taken
  | setWall wall =>
    simp only [AlorairLite.Local.step] at taken
    split at taken
    · cases taken; exact aside (.silent rfl rfl rfl rfl rfl)
    · cases taken
  | accept peer => cases taken; exact aside (Aside.accept ..)
  | feed sid bytes =>
    simp only [AlorairLite.Local.step] at taken
    split at taken
    · cases taken
      have fed : Aside s (s.setSession sid { s.sessions sid with
          buffer := (s.sessions sid).buffer ++ bytes
          totalReceived := (s.sessions sid).totalReceived + bytes.length }) := Aside.session rfl Iff.rfl
      exact aside (fed.trans (.noted rfl rfl rfl rfl rfl rfl))
    · cases taken
  | feedEof sid =>
    simp only [AlorairLite.Local.step] at taken
    split at taken
    · cases taken; exact aside (Aside.session rfl Iff.rfl)
    · cases taken
  | lose sid failed =>
    simp only [AlorairLite.Local.step] at taken
    split at taken
    · cases taken
      have noted : Aside s (s.setSession sid { s.sessions sid with
          eof := (s.sessions sid).eof || !failed
          readError := (s.sessions sid).readError || failed }) := Aside.session rfl Iff.rfl
      exact aside (noted.trans (Aside.closeWriter ..))
    · cases taken
  | start => exact aside (Aside.startTask shape calm.opened calm.still taken)
  | reader sid signal =>
    simp only [AlorairLite.Local.step] at taken
    split at taken
    · rename_i known
      by_cases closing : (s.sessions sid).readAt = .closing
      · simp only [State.resumeReader, closing, calm.still sid, Bool.false_eq_true, ↓reduceIte] at taken
        cases taken
        refine calm.finish known closing ?_
        simpa [State.spares, closing] using spares
      · have room : config.onStatus → reportsNext (s.upcoming sid signal) →
            s.disconnects.length < callbackQueueSize := fun wanted next => by
          simpa [State.spares, closing, wanted, next] using spares
        have reads := Reads.resumeReader reporting known calm.opened (calm.still sid) closing room taken
        refine ⟨calm.reads reads, reads.excused (reporting.reading calm.opened sid known ?_)⟩
        cases phase : (s.sessions sid).readAt with
        | closing => exact absurd phase closing
        | done => simp [State.resumeReader, phase] at taken
        | _ => rfl
    · cases taken
  | execute c signal =>
    simp only [AlorairLite.Local.step] at taken
    split at taken
    · exact aside (Aside.resumeExecute taken)
    · cases taken
  | call request => cases taken; exact aside (Aside.call ..)
  | cancelCaller c =>
    simp only [AlorairLite.Local.step] at taken
    split at taken
    · exact aside (Aside.cancelCaller taken)
    · cases taken
  | resumeCaller c =>
    simp only [AlorairLite.Local.step] at taken
    split at taken
    · exact aside (Aside.resumeCaller taken)
    · cases taken
  | close => exact absurd rfl running
  | recancel =>
    simp only [AlorairLite.Local.step] at taken
    split at taken
    · rename_i gathering
      have closing := shape.cleanupClosing (.inr (by simp [gathering]))
      rw [calm.opened] at closing
      cases closing
    · cases taken
  | finishCleanup =>
    simp only [AlorairLite.Local.step] at taken
    split at taken
    · rename_i gathering
      have closing := shape.cleanupClosing (.inr (by simp [gathering]))
      rw [calm.opened] at closing
      cases closing
    · cases taken
  | stopDispatcher =>
    simp only [AlorairLite.Local.step] at taken
    split at taken
    · cases taken; exact aside (.silent rfl rfl rfl rfl rfl)
    · cases taken
  | dispatch => exact calm.dispatch taken
  | finishCallback failed =>
    simp only [AlorairLite.Local.step, State.finishCallback] at taken
    split at taken
    · cases taken
    rename_i entry busy
    have idle : Aside s { s with dispatching := none } := .silent rfl rfl rfl rfl rfl
    cases failed with
    | true => cases taken; exact aside (idle.trans (Aside.failCallback ..))
    | false => cases taken; exact aside idle

/-- Steps of a client that is not closed and whose overflows find nothing they may not
discard. -/
def Sparing (config : Config) (s : State) (label : Label) : Prop :=
  label ≠ .close ∧ s.spares config label

theorem Ordered.initial (config : Config) (now wall : ℚ) : Ordered (State.start config now wall) where
  among sid := List.Sublist.refl _
  before past sid raw frame status split := by
    have long := congrArg List.length split
    simp [State.start] at long

theorem Calm.initial (config : Config) (now wall : ℚ) :
    Calm config (State.start config now wall) where
  opened := rfl
  still sid := rfl
  announced _ sid := by
    refine ⟨fun left => ?_, fun _ => rfl⟩
    have known := left.1
    simp [State.start, State.knows] at known
    omega
  kept _ _ := ⟨by simp [State.start], rfl⟩

theorem reachable_ordered {config : Config} {s : State}
    (reached : Async.Reachable (client config) s) : Shape s ∧ Reporting s ∧ Ordered s := by
  have all : Coherent config True s ∧ Reporting s ∧ Ordered s :=
    Run.effects (fun state => Reporting state ∧ Ordered state)
      (fun now wall _ => ⟨Reporting.initial config now wall, Ordered.initial config now wall⟩)
      (fun _ _ _ _ effect coherent held =>
        ⟨effect.reporting coherent.shape held.1, effect.ordered held.2⟩)
      (fun _ _ _ _ _ => trivial) reached
  exact ⟨all.1.shape, all.2⟩

theorem sparing_calm {config : Config} {s : State}
    (run : Async.Run (client config) (Sparing config) s) : Calm config s := by
  refine run.invariant (Calm config) ?_ ?_
  · rintro state ⟨now, wall, -, rfl⟩
    exact Calm.initial config now wall
  · intro state label after earlier calm spared taken
    obtain ⟨shape, reporting, -⟩ := reachable_ordered earlier.reachable
    exact (calm.step shape reporting spared.1 spared.2 taken).1

/-- While no overflow finds what it may not discard: a step discards a status only for a
connection that is not the open current one or is closed in that step; with both
callbacks no disconnect is discarded, each is handed over or still queued, and every
ended session has exactly one; and the notifications of a session are handed over in the
order they were produced. -/
theorem notifications_kept {config : Config} {s : State}
    (run : Async.Run (client config) (Sparing config) s) :
    (∀ label after, Sparing config s label → step config s label = some after → Excused s after) ∧
    (config.onStatus → config.onDisconnect →
      (∀ entry, .discarded entry ∈ s.log → entry.isDisconnect = false) ∧
      endings s.log = toldEndings s.log ++ s.disconnects ∧
      ∀ sid, (Left s sid → s.log.countP (Event.announcesEnd sid) = 1) ∧
        (¬ Left s sid → s.log.countP (Event.announcesEnd sid) = 0)) ∧
    ∀ sid, List.Sublist (handed sid s.log ++ queued sid s.callbacks) (produced sid s.log) := by
  obtain ⟨shape, reporting, ordered⟩ := reachable_ordered run.reachable
  have calm := sparing_calm run
  refine ⟨fun label after spared taken => ?_, fun status wanted => ?_, ordered.among⟩
  · exact (calm.step shape reporting spared.1 spared.2 taken).2
  · obtain ⟨undiscarded, conserved⟩ := calm.kept status wanted
    exact ⟨undiscarded, conserved, calm.announced wanted⟩

/-- An appliance reports once, and then so often that the queue is full when it disconnects. -/
def visitLabels : List Label :=
  [.accept (some "192.0.2.1"), .start, .feed 1 (exampleReport 0x20 0), .reader 1 .ready, .dispatch,
    .finishCallback false, .feed 1 (List.replicate 64 (exampleReport 0x20 0)).flatten, .reader 1 .ready,
    .reader 1 .ready, .feedEof 1, .reader 1 .ready]

/-- The end of the connection finds the queue full. -/
theorem notifications_kept_example : ∃ s after,
    (client exampleConfig).follow (State.start exampleConfig 0 0) visitLabels = some s ∧
    s.callbacks.length = callbackQueueSize ∧ step exampleConfig s (.reader 1 .ready) = some after ∧
    (∃ entry, .discarded entry ∈ after.log) ∧ Excused s after ∧
    (∀ entry, .discarded entry ∈ after.log → entry.isDisconnect = false) ∧
    after.log.countP (Event.announcesEnd 1) = 1 ∧ handed 1 after.log ≠ [] ∧
    List.Sublist (handed 1 after.log ++ queued 1 after.callbacks) (produced 1 after.log) := by
  have shown : (((client exampleConfig).checked fun s label =>
      label ≠ .close && s.spares exampleConfig label).follow
        (State.start exampleConfig 0 0) visitLabels).any (fun s =>
      (s.callbacks.length = callbackQueueSize && s.spares exampleConfig (.reader 1 .ready)) &&
        (step exampleConfig s (.reader 1 .ready)).any fun after =>
          (after.knows 1 && (after.sessions 1).readAt = .done) && (handed 1 after.log ≠ [] &&
            s.callbacks.any fun entry => after.log.contains (.discarded entry))) = true := by decide +kernel
  obtain ⟨s, followed, facts⟩ := (Option.any_eq_true _ _).mp shown
  simp only [Bool.and_eq_true, decide_eq_true_eq] at facts
  obtain ⟨⟨full, spared⟩, stepped⟩ := facts
  obtain ⟨after, taken, facts⟩ := (Option.any_eq_true _ _).mp stepped
  simp only [Bool.and_eq_true, decide_eq_true_eq, List.any_eq_true, List.contains_iff_mem] at facts
  obtain ⟨left, told, entry, -, discarded⟩ := facts
  have started : Async.Run (client exampleConfig) (Sparing exampleConfig)
      (State.start exampleConfig 0 0) := .start ⟨0, 0, le_rfl, rfl⟩
  obtain ⟨run, followed⟩ := started.of_checked
    (fun s label passed => by simpa [Sparing] using passed) followed
  have sparing : Sparing exampleConfig s (.reader 1 .ready) := ⟨by decide, spared⟩
  obtain ⟨excused, -, -⟩ := notifications_kept run
  obtain ⟨-, kept, ordered⟩ := notifications_kept (run.next sparing taken)
  obtain ⟨undiscarded, -, ends⟩ := kept rfl rfl
  exact ⟨s, after, followed, full, taken, ⟨entry, discarded⟩, excused _ after sparing taken, undiscarded,
    (ends 1).1 left, told, ordered 1⟩

/-- While a first connection is still closing, a second one fills the queue with reports. -/
def crowdedLabels : List Label :=
  [.accept (some "192.0.2.1"), .start, .feedEof 1, .reader 1 .ready, .accept (some "192.0.2.1"), .start,
    .feed 2 (List.replicate 64 (exampleReport 0x20 0)).flatten, .reader 2 .ready, .reader 2 .ready]

/-- The end of the first connection empties the queue of the second, which stays open. -/
theorem crowded_reports_discarded : ¬ ∀ s,
    Async.Run (client exampleConfig) (fun _ label => label ≠ .close) s →
    ∀ label after, label ≠ .close → step exampleConfig s label = some after → Excused s after := by
  intro claim
  have shown : ((((client exampleConfig).checked fun _ label => label ≠ .close).follow
      (State.start exampleConfig 0 0) crowdedLabels).any fun s =>
        (step exampleConfig s (.reader 1 .ready)).any fun after =>
          after.log = s.log ++ after.log.drop s.log.length &&
          (!(after.log.drop s.log.length).contains (.writerClosing 2) &&
          s.callbacks.any fun entry => s.live entry &&
            (entry.session = 2 && (after.log.drop s.log.length).contains (.discarded entry)))) =
      true := by decide +kernel
  obtain ⟨s, followed, stepped⟩ := Option.any_eq_true _ _ |>.mp shown
  obtain ⟨after, taken, facts⟩ := Option.any_eq_true _ _ |>.mp stepped
  simp only [Bool.and_eq_true, decide_eq_true_eq, List.any_eq_true, Bool.not_eq_true',
    State.live] at facts
  obtain ⟨log, unclosed, entry, -, ⟨status, current, opened⟩, mine, discarded⟩ := facts
  have started : Async.Run (client exampleConfig) (fun _ label => label ≠ .close)
      (State.start exampleConfig 0 0) := .start ⟨0, 0, le_rfl, rfl⟩
  obtain ⟨run, -⟩ := started.of_checked (fun _ label passed => by simpa using passed) followed
  rcases claim s run (.reader 1 .ready) after (by decide) taken _ log entry
      (List.contains_iff_mem.mp discarded) status with gone | closing | closed
  · exact gone current
  · rw [opened] at closing
    cases closing
  · rw [mine] at closed
    rw [List.contains_iff_mem.mpr closed] at unclosed
    cases unclosed

end AlorairLite.Local
