import AlorairLite.Local.Stream

/-! What the history says about the connection: which session is current, whether
its transport is closing, whether the appliance was identified on it, and which
report is the latest. -/

namespace AlorairLite.Local

open State

/-- The latest report after one more event. -/
def Event.latest (last : Option DeviceStatus) : Event → Option DeviceStatus
  | .frame _ _ _ (some status) => some status
  | .accepted _ _ | .released _ | .cleaned => none
  | _ => last

/-- The latest report since a connection was opened or given up. -/
def lastReport (log : List Event) : Option DeviceStatus := log.foldl Event.latest none

@[simp] theorem lastReport_append (log later : List Event) :
    lastReport (log ++ later) = later.foldl Event.latest (lastReport log) := List.foldl_append ..

/-- Some frame of the session carried the configured identity. -/
def Identified (config : Config) (log : List Event) (sid : Nat) : Prop :=
  ∃ raw frame status, .frame sid raw frame status ∈ log ∧
    Frame.decode raw (some config.mac) = .ok frame

structure Link (config : Config) (s : State) : Prop where
  current : ∀ sid, s.session = some sid →
    .accepted sid config.allowedClient ∈ s.log ∧ .released sid ∉ s.log
  released : ∀ sid peer, .accepted sid peer ∈ s.log → s.session ≠ some sid → .released sid ∈ s.log
  opened : s.closing = false → .closing ∉ s.log
  writable : ∀ sid, (s.sessions sid).isClosing = false → .writerClosing sid ∉ s.log
  verified : ∀ sid, (s.sessions sid).verified → Identified config s.log sid
  report : s.status = lastReport s.log

/-- Events that say nothing about the connection. -/
@[simp] def Event.unlinked : Event → Bool
  | .accepted _ _ | .released _ | .closing | .cleaned | .writerClosing _ => false
  | .frame _ _ _ status => status.isNone
  | _ => true

theorem foldl_unlinked {events : List Event} (unlinked : ∀ event ∈ events, event.unlinked)
    (last : Option DeviceStatus) : events.foldl Event.latest last = last := by
  induction events generalizing last with
  | nil => rfl
  | cons event rest ih =>
    have head := unlinked event (List.mem_cons_self ..)
    have same : Event.latest last event = last := by
      cases event with
      | frame sid raw frame status =>
        cases status with
        | none => rfl
        | some status => cases head
      | accepted | released | closing | cleaned | writerClosing => first | rfl | cases head
      | _ => rfl
    rw [List.foldl_cons, same]
    exact ih (fun event member => unlinked event (List.mem_cons_of_mem _ member)) last

/-- What the state knows about its connection is the same. -/
structure SameLink (s after : State) : Prop where
  session : after.session = s.session := by rfl
  status : after.status = s.status := by rfl
  closing : after.closing = s.closing := by rfl
  isClosing : ∀ sid, (after.sessions sid).isClosing = (s.sessions sid).isClosing := by
    exact fun _ => rfl
  verified : ∀ sid, (after.sessions sid).verified = (s.sessions sid).verified := by
    exact fun _ => rfl

theorem Identified.append {config : Config} {log : List Event} {sid : Nat}
    (identified : Identified config log sid) (later : List Event) :
    Identified config (log ++ later) sid := by
  obtain ⟨raw, frame, status, member, decoded⟩ := identified
  exact ⟨raw, frame, status, List.mem_append_left _ member, decoded⟩

theorem Link.keep {config : Config} {s after : State} (link : Link config s) (events : List Event)
    (log : after.log = s.log ++ events) (unlinked : ∀ event ∈ events, event.unlinked)
    (same : SameLink s after) : Link config after := by
  have absent : ∀ event : Event, event.unlinked = false → event ∉ s.log → event ∉ after.log := by
    intro event linked old member
    rw [log] at member
    rcases List.mem_append.mp member with before | fresh
    · exact old before
    · rw [unlinked event fresh] at linked
      cases linked
  constructor
  · intro sid current
    obtain ⟨accepted, open'⟩ := link.current sid (same.session ▸ current)
    exact ⟨log ▸ List.mem_append_left _ accepted, absent _ rfl open'⟩
  · intro sid peer accepted gone
    rw [log] at accepted ⊢
    rcases List.mem_append.mp accepted with before | fresh
    · exact List.mem_append_left _ (link.released sid peer before (same.session ▸ gone))
    · cases unlinked _ fresh
  · intro opened
    exact absent _ rfl (link.opened (same.closing ▸ opened))
  · intro sid writable
    exact absent _ rfl (link.writable sid (same.isClosing sid ▸ writable))
  · intro sid verified
    rw [log]
    exact (link.verified sid (same.verified sid ▸ verified)).append events
  · rw [same.status, link.report, log, lastReport_append, foldl_unlinked unlinked]

/-- One session changes, neither its transport nor its identification. -/
theorem Link.session {config : Config} {s : State} {sid : Nat} {session : Session}
    (link : Link config s) (isClosing : session.isClosing = (s.sessions sid).isClosing)
    (verified : session.verified = (s.sessions sid).verified) :
    Link config (s.setSession sid session) :=
  link.keep [] (by simp) (by simp)
    { isClosing := update_field Session.isClosing isClosing
      verified := update_field Session.verified verified }

theorem Link.accept {config : Config} {s : State} (link : Link config s) (shape : Shape s)
    (free : s.session = none) :
    Link config (s.openSession config config.allowedClient) := by
  unfold State.openSession
  have fresh : ∀ event ∈ s.log, event.session? ≠ some (s.sessionCounter + 1) :=
    fun event member belongs => by
      have known := State.knows_iff.mp (shape.eventSession event member _ belongs)
      omega
  constructor
  · rintro sid current
    cases Option.some.inj current
    refine ⟨by simp, ?_⟩
    simpa using fun member => fresh _ member rfl
  · intro sid peer accepted gone
    rcases List.mem_append.mp accepted with old | new
    · exact List.mem_append_left _ (link.released sid peer old (by simp [free]))
    · cases List.mem_singleton.mp new
      exact absurd rfl gone
  · intro opened
    simpa using link.opened opened
  · intro sid writable member
    rcases List.mem_append.mp member with old | new
    · by_cases equal : sid = s.sessionCounter + 1
      · exact fresh _ old (equal ▸ rfl)
      · simp only [State.setSession, Function.update_of_ne equal] at writable
        exact link.writable sid writable old
    · cases List.mem_singleton.mp new
  · intro sid verified
    by_cases equal : sid = s.sessionCounter + 1
    · subst equal
      simp [Session.fresh] at verified
    · simp only [State.setSession, Function.update_of_ne equal] at verified
      exact (link.verified sid verified).append _
  · simp [Event.latest]

theorem Link.closeWriter {config : Config} {s : State} {sid : Nat} (link : Link config s) :
    Link config (s.closeWriter sid) := by
  constructor
  · intro other current
    obtain ⟨accepted, open'⟩ := link.current other current
    exact ⟨List.mem_append_left _ accepted, by simpa [State.closeWriter] using open'⟩
  · intro other peer accepted gone
    have old : .accepted other peer ∈ s.log := by simpa [State.closeWriter] using accepted
    exact List.mem_append_left _ (link.released other peer old gone)
  · intro opened
    simpa [State.closeWriter] using link.opened opened
  · intro other writable
    by_cases equal : other = sid
    · subst equal
      simp [State.closeWriter] at writable
    · have before : (s.sessions other).isClosing = false := by
        simpa [State.closeWriter, equal] using writable
      simpa [State.closeWriter, equal] using link.writable other before
  · intro other verified
    have kept : (s.sessions other).verified := by
      rw [← verified]
      exact (update_field Session.verified (by rfl) other).symm
    exact (link.verified other kept).append _
  · simpa [State.closeWriter, Event.latest] using link.report

theorem Link.release {config : Config} {s : State} {sid : Nat} (link : Link config s)
    (current : s.session = some sid) : Link config (s.release sid) := by
  rw [State.release, if_pos current]
  constructor
  · intro other held
    cases held
  · intro other peer accepted gone
    have old : .accepted other peer ∈ s.log := by simpa using accepted
    by_cases equal : other = sid
    · subst equal
      simp
    · refine List.mem_append_left _ (link.released other peer old ?_)
      simpa [current] using Ne.symm equal
  · intro opened
    simpa using link.opened opened
  · intro other writable
    simpa using link.writable other writable
  · intro other verified
    exact (link.verified other verified).append _
  · simp [Event.latest]

/-- A frame of a session whose reader has just decoded it, stored as the latest
report when it is one. -/
theorem Link.takeFrame {config : Config} {s : State} {sid : Nat} {raw : Bytes} {frame : Frame}
    {rest : List (Bytes × Frame)} {status : Option DeviceStatus} (link : Link config s)
    (decoded : Frame.decode raw (some config.mac) = .ok frame) :
    Link config { s.takeFrame sid raw frame rest status with
      status := Event.latest s.status (.frame sid raw frame status) } := by
  constructor
  · intro other current
    obtain ⟨accepted, open'⟩ := link.current other current
    exact ⟨List.mem_append_left _ accepted, by simpa [State.takeFrame] using open'⟩
  · intro other peer accepted gone
    have old : .accepted other peer ∈ s.log := by simpa [State.takeFrame] using accepted
    exact List.mem_append_left _ (link.released other peer old gone)
  · intro opened
    simpa [State.takeFrame] using link.opened opened
  · intro other writable
    have kept : (s.sessions other).isClosing = false := by
      rw [← writable]
      exact (update_field Session.isClosing (by rfl) other).symm
    simpa [State.takeFrame] using link.writable other kept
  · intro other verified
    by_cases equal : other = sid
    · subst equal
      exact ⟨raw, frame, status, by simp [State.takeFrame], decoded⟩
    · simp only [State.takeFrame, State.setSession, State.emit, Function.update_of_ne equal]
        at verified
      exact (link.verified other verified).append _
  · simp [State.takeFrame, link.report]

/-- Nothing happens to any session nor to what the client stores about it. -/
theorem Link.aside {config : Config} {s after : State} (link : Link config s) (events : List Event)
    (log : after.log = s.log ++ events) (unlinked : ∀ event ∈ events, event.unlinked)
    (sessions : after.sessions = s.sessions) (session : after.session = s.session)
    (status : after.status = s.status) (closing : after.closing = s.closing) : Link config after :=
  link.keep events log unlinked
    { session, status, closing
      isClosing := fun sid => by rw [sessions]
      verified := fun sid => by rw [sessions] }

theorem State.settle_link (s : State) (c : Nat) (outcome : Outcome) :
    SameLink s (s.settle c outcome) where
  isClosing sid := by
    simp only [State.settle]
    split
    · exact update_field Session.isClosing (by rfl) sid
    · rfl
  verified sid := by
    simp only [State.settle]
    split
    · exact update_field Session.verified (by rfl) sid
    · rfl

theorem State.write_link (s : State) (sid : Nat) (opcode : Int) (data : Bytes) (sender : Sender)
    (raw : Bytes) : SameLink s (s.write sid opcode data sender raw) := by
  cases sender with
  | reader other => exact {}
  | command c =>
    simp only [State.write]
    split <;> exact {}

theorem Effect.link {config : Config} {overflow : Prop} {s after : State}
    (effect : Effect config overflow s after) (shape : Shape s) (streams : Streams config s)
    (link : Link config s) : Link config after := by
  cases effect with
  | clock forward epoch => exact link.aside [] (by simp) (by simp) rfl rfl rfl rfl
  | accept idle free => exact link.accept shape free
  | @feed sid bytes known opened =>
    have fed : Link config (s.setSession sid { s.sessions sid with
        buffer := (s.sessions sid).buffer ++ bytes
        totalReceived := (s.sessions sid).totalReceived + bytes.length }) := link.session rfl rfl
    exact fed.aside [.fed sid bytes] rfl (by simp) rfl rfl rfl rfl
  | note sid eof readError reason cancelling => exact link.session rfl rfl
  | closeWriter known => exact link.closeWriter
  | release current left => exact link.release current
  | @fail sid gone left =>
    rcases s.failPending_cases sid with same | ⟨c, pending, error, -, -, -, -, same⟩
    · rw [same]; exact link
    · rw [same]; exact link.aside [] (by simp [State.setFuture]) (by simp) rfl rfl rfl rfl
  | @skip sid raw frame rest known handling next =>
    have decoded := (streams sid).decoded (raw, frame) (by simp [next])
    have taken : Link config { s.takeFrame sid raw frame rest none with
        status := Event.latest s.status (.frame sid raw frame none) } := link.takeFrame decoded
    exact taken
  | @report sid raw frame rest decoded status known handling next isReport decodes built =>
    have checked := (streams sid).decoded (raw, frame) (by simp [next])
    have stored : Link config
        { s.takeFrame sid raw frame rest (some status) with status := some status } :=
      link.takeFrame checked
    rcases State.confirm_cases _ sid frame (s.sessions sid).offset status with
      same | ⟨c, pending, -, -, -, -, -, -, -, -, same⟩
    · rw [same]; exact stored
    · rw [same]; exact stored.aside [] (by simp [State.setFuture]) (by simp) rfl rfl rfl rfl
  | readAt begun move => exact link.session rfl rfl
  | chunk known reading taken nonempty fed => exact link.session rfl rfl
  | @reply after sid phase sent =>
    obtain ⟨-, -, -, -, -, -, raw, -, rfl⟩ := State.sendTurn_sent sent
    have written : Link config (s.write sid 1 [0] (.reader sid) raw) :=
      link.keep [_] rfl (by simp) (State.write_link ..)
    have answered : Link config ((s.write sid 1 [0] (.reader sid) raw).setReadAt sid
        .heartbeatDrain) := written.session rfl rfl
    exact answered.aside [] (by simp) (by simp) rfl rfl rfl rfl
  | unlock => exact link.aside [] (by simp) (by simp) rfl rfl rfl rfl
  | put entry room origin => exact link.aside [.enqueued entry] rfl (by simp) rfl rfl rfl rfl
  | discardQueued =>
    refine link.aside _ rfl ?_ rfl rfl rfl rfl
    simp only [List.mem_map]
    rintro event ⟨entry, -, rfl⟩
    rfl
  | drop entry => exact link.aside [.discarded entry] rfl (by simp) rfl rfl rfl rfl
  | @dispatch entry rest next free =>
    exact link.aside [.dispatched entry] rfl (by simp) rfl rfl rfl rfl
  | idle => exact link.aside [] (by simp) (by simp) rfl rfl rfl rfl
  | stop => exact link.aside [] (by simp) (by simp) rfl rfl rfl rfl
  | refuse rejected => exact link.aside _ rfl (by simp) rfl rfl rfl rfl
  | call parsed current connected => exact link.aside _ rfl (by simp) rfl rfl rfl rfl
  | popReader next => exact link.aside [] (by simp) (by simp) rfl rfl rfl rfl
  | popCommand next => exact link.aside [] (by simp) (by simp) rfl rfl rfl rfl
  | @skipCommand c rest next asked =>
    have popped : Link config { s with spawned := rest } :=
      link.aside [] (by simp) (by simp) rfl rfl rfl rfl
    exact popped.keep [.settled c .cancelled] rfl (by simp) (State.settle_link ..)
  | popCleanup next => exact link.aside [] (by simp) (by simp) rfl rfl rfl rfl
  | move move => exact link.aside [] (by simp) (by simp) rfl rfl rfl rfl
  | @register c phase free current =>
    have begun : Link config ({ s with commandLock := some c }.setCall c { s.calls c with
        pending := some {
          opcode := (s.calls c).command.opcode, expected := (s.calls c).command.expected
          allowStale := (s.calls c).command.allowStale }
        execute := .sendLock }) := link.aside [] (by simp) (by simp) rfl rfl rfl rfl
    exact begun.session rfl rfl
  | @transmit after c phase sent =>
    obtain ⟨-, -, -, -, -, -, raw, -, rfl⟩ := State.sendTurn_sent sent
    have written : Link config (s.write (s.calls c).session (s.calls c).command.opcode
        (s.calls c).command.data (.command c) raw) :=
      link.keep [_] rfl (by simp) (State.write_link ..)
    exact written.aside [] (by simp) (by simp) rfl rfl rfl rfl
  | @settle c outcome how =>
    exact link.keep [.settled c outcome] rfl (by simp) (State.settle_link ..)
  | @cancel c live cause => exact link.aside [.cancelRequested c] rfl (by simp) rfl rfl rfl rfl
  | @interrupt c waiting => exact link.aside [.callerCancelled c] rfl (by simp) rfl rfl rfl rfl
  | drain waiting interrupted => exact link.aside [] (by simp) (by simp) rfl rfl rfl rfl
  | @finish c last outcome waiting done result =>
    exact link.aside [.ended c outcome] rfl (by simp) rfl rfl rfl rfl
  | close opened =>
    constructor
    · intro sid current
      obtain ⟨accepted, open'⟩ := link.current sid current
      exact ⟨List.mem_append_left _ accepted, by simpa using open'⟩
    · intro sid peer accepted gone
      exact List.mem_append_left _ (link.released sid peer (by simpa using accepted) gone)
    · intro opened
      cases opened
    · intro sid writable
      simpa using link.writable sid writable
    · intro sid verified
      exact (link.verified sid verified).append _
    · simpa [Event.latest] using link.report
  | finishCleanup gathering => exact link.aside [] (by simp) (by simp) rfl rfl rfl rfl
  | forget closing =>
    constructor
    · intro sid current
      obtain ⟨accepted, open'⟩ := link.current sid current
      exact ⟨List.mem_append_left _ accepted, by simpa [State.forgetStatus] using open'⟩
    · intro sid peer accepted gone
      have old : .accepted sid peer ∈ s.log := by simpa [State.forgetStatus] using accepted
      exact List.mem_append_left _ (link.released sid peer old gone)
    · intro opened
      simpa [State.forgetStatus] using link.opened opened
    · intro sid writable
      simpa [State.forgetStatus] using link.writable sid writable
    · intro sid verified
      exact (link.verified sid verified).append _
    · simp [State.forgetStatus, Event.latest]

end AlorairLite.Local
