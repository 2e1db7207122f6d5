import AlorairLite.Local.Decomposition

/-! Where the bytes of a session are: in frames already handed out, in decoded
frames the reader has not reached, in the parser's buffer, or still unread. -/

namespace AlorairLite.Local

open State

@[simp] def Event.fedTo (sid : Nat) : Event → Bytes
  | .fed session bytes => if session = sid then bytes else []
  | _ => []

@[simp] def Event.framedOn (sid : Nat) : Event → Bytes
  | .frame session raw _ _ => if session = sid then raw else []
  | _ => []

/-- The bytes the device has delivered on a session. -/
def fedBytes (sid : Nat) (log : List Event) : Bytes := log.flatMap (Event.fedTo sid)

/-- The bytes of the frames the reader of a session has processed. -/
def framedBytes (sid : Nat) (log : List Event) : Bytes := log.flatMap (Event.framedOn sid)

@[simp] theorem fedBytes_append (sid : Nat) (log later : List Event) :
    fedBytes sid (log ++ later) = fedBytes sid log ++ fedBytes sid later := List.flatMap_append ..

@[simp] theorem framedBytes_append (sid : Nat) (log later : List Event) :
    framedBytes sid (log ++ later) = framedBytes sid log ++ framedBytes sid later :=
  List.flatMap_append ..

/-- Every byte of a session is accounted for, in order, and the counters of the
session measure where the reader is. -/
structure Stream (config : Config) (log : List Event) (sid : Nat) (session : Session) : Prop where
  conserved : framedBytes sid log ++ (rawBytes session.frames ++
    (session.parser.buffer ++ session.buffer)) = fedBytes sid log
  total : session.totalReceived = (fedBytes sid log).length
  received : session.receivedBytes + session.buffer.length = session.totalReceived
  offset : session.offset = (framedBytes sid log).length
  between : session.readAt = .reading → session.frames = []
  identity : session.parser.expectedMac = some config.mac
  decoded : ∀ entry ∈ session.frames, Frame.decode entry.1 (some config.mac) = .ok entry.2
  answering : session.readAt = .heartbeatLock → session.verified

/-- The fields of a session that locate its bytes are the same. -/
structure SameStream (old new : Session) : Prop where
  buffer : new.buffer = old.buffer := by rfl
  total : new.totalReceived = old.totalReceived := by rfl
  received : new.receivedBytes = old.receivedBytes := by rfl
  offset : new.offset = old.offset := by rfl
  parser : new.parser = old.parser := by rfl
  frames : new.frames = old.frames := by rfl
  reading : new.readAt = .reading → old.readAt = .reading ∨ old.frames = [] := by exact Or.inl
  answering : new.readAt = .heartbeatLock →
    new.verified ∨ old.readAt = .heartbeatLock ∧ new.verified = old.verified := by
      exact fun phase => .inr ⟨phase, rfl⟩

/-- Events that move no bytes. -/
@[simp] def Event.still (event : Event) : Prop := ∀ sid, event.fedTo sid = [] ∧ event.framedOn sid = []

theorem flatMap_still {events : List Event} (still : ∀ event ∈ events, event.still) (sid : Nat) :
    fedBytes sid events = [] ∧ framedBytes sid events = [] := by
  constructor
  · exact List.flatMap_eq_nil_iff.mpr fun event member => (still event member sid).1
  · exact List.flatMap_eq_nil_iff.mpr fun event member => (still event member sid).2

/-- The accounts of all sessions. -/
def Streams (config : Config) (s : State) : Prop :=
  ∀ sid, Stream config s.log sid (s.sessions sid)

theorem Streams.keep {config : Config} {s after : State} (streams : Streams config s)
    (events : List Event) (log : after.log = s.log ++ events)
    (still : ∀ event ∈ events, event.still)
    (same : ∀ sid, SameStream (s.sessions sid) (after.sessions sid)) : Streams config after := by
  intro sid
  obtain ⟨fed, framed⟩ := flatMap_still still sid
  have held := streams sid
  have kept := same sid
  constructor
  · simpa [log, fed, framed, kept.frames, kept.parser, kept.buffer] using held.conserved
  · simpa [log, fed, kept.total] using held.total
  · rw [kept.received, kept.buffer, kept.total]
    exact held.received
  · simpa [log, framed, kept.offset] using held.offset
  · intro reading
    rw [kept.frames]
    exact (kept.reading reading).elim held.between id
  · rw [kept.parser]
    exact held.identity
  · rw [kept.frames]
    exact held.decoded
  · intro phase
    rcases kept.answering phase with verified | ⟨before, same⟩
    · exact verified
    · rw [same]
      exact held.answering before

/-- The common case: one session changes, in fields that locate no bytes. -/
theorem Streams.session {config : Config} {s : State} {sid : Nat} {session : Session}
    (streams : Streams config s) (same : SameStream (s.sessions sid) session) :
    Streams config (s.setSession sid session) := by
  refine streams.keep [] (by simp) (by simp) fun other => ?_
  by_cases equal : other = sid
  · subst equal
    simpa using same
  · simp only [State.setSession, Function.update_of_ne equal]
    exact {}

/-- One session and its events change; the account of that session is renewed. -/
theorem Streams.renew {config : Config} {s after : State} (streams : Streams config s) (sid : Nat)
    (events : List Event) (log : after.log = s.log ++ events)
    (elsewhere : ∀ other, other ≠ sid → fedBytes other events = [] ∧ framedBytes other events = [])
    (same : ∀ other, other ≠ sid → after.sessions other = s.sessions other)
    (fresh : Stream config after.log sid (after.sessions sid)) : Streams config after := by
  intro other
  by_cases equal : other = sid
  · exact equal ▸ fresh
  obtain ⟨fed, framed⟩ := elsewhere other equal
  have held := streams other
  rw [same other equal]
  constructor
  · simpa [log, fed, framed] using held.conserved
  · simpa [log, fed] using held.total
  · exact held.received
  · simpa [log, framed] using held.offset
  · exact held.between
  · exact held.identity
  · exact held.decoded
  · exact held.answering

theorem fedBytes_unknown {s : State} {sid : Nat} (shape : Shape s) (unknown : ¬ s.knows sid) :
    fedBytes sid s.log = [] ∧ framedBytes sid s.log = [] := by
  have foreign : ∀ event ∈ s.log, event.session? ≠ some sid := fun event member belongs =>
    unknown (shape.eventSession event member sid belongs)
  constructor
  · refine List.flatMap_eq_nil_iff.mpr fun event member => ?_
    have other := foreign event member
    cases event <;> simp_all [Event.fedTo, Event.session?]
  · refine List.flatMap_eq_nil_iff.mpr fun event member => ?_
    have other := foreign event member
    cases event <;> simp_all [Event.framedOn, Event.session?]

theorem Streams.accept {config : Config} {s : State} (streams : Streams config s) (shape : Shape s) :
    Streams config (s.openSession config config.allowedClient) := by
  unfold State.openSession
  obtain ⟨fed, framed⟩ := fedBytes_unknown shape
    (show ¬ s.knows (s.sessionCounter + 1) by simp [State.knows])
  refine streams.renew (s.sessionCounter + 1)
    [.accepted (s.sessionCounter + 1) config.allowedClient] rfl ?_ ?_ ?_
  · intro other apart
    simp [fedBytes, framedBytes]
  · intro other apart
    simp [apart]
  have log : fedBytes (s.sessionCounter + 1)
        (s.log ++ [.accepted (s.sessionCounter + 1) config.allowedClient]) = [] ∧
      framedBytes (s.sessionCounter + 1)
        (s.log ++ [.accepted (s.sessionCounter + 1) config.allowedClient]) = [] := by
    rw [fedBytes_append, framedBytes_append, fed, framed]
    simp [fedBytes, framedBytes]
  constructor
  · rw [log.1, log.2]
    simp [Session.fresh]
  · rw [log.1]
    simp [Session.fresh]
  · simp [Session.fresh]
  · rw [log.2]
    simp [Session.fresh]
  · simp [Session.fresh]
  · simp [Session.fresh]
  · simp [Session.fresh]
  · simp [Session.fresh]

theorem Streams.feed {config : Config} {s : State} {sid : Nat} {bytes : Bytes}
    (streams : Streams config s) : Streams config (s.feed sid bytes) := by
  refine streams.renew sid [.fed sid bytes] (by simp [State.feed]) ?_ ?_ ?_
  · intro other apart
    simp [fedBytes, framedBytes, apart.symm]
  · intro other apart
    simp [State.feed, apart]
  have held := streams sid
  have log : fedBytes sid (s.feed sid bytes).log = fedBytes sid s.log ++ bytes ∧
      framedBytes sid (s.feed sid bytes).log = framedBytes sid s.log := by
    simp [State.feed, fedBytes, framedBytes]
  constructor
  · rw [log.1, log.2, ← held.conserved]
    simp [State.feed]
  · rw [log.1, List.length_append, ← held.total]
    simp [State.feed]
  · have received := held.received
    simp only [State.feed, State.setSession, State.emit, Function.update_self, List.length_append]
    omega
  · rw [log.2]
    simpa [State.feed] using held.offset
  · simpa [State.feed] using held.between
  · simpa [State.feed] using held.identity
  · simpa [State.feed] using held.decoded
  · simpa [State.feed] using held.answering

theorem Streams.takeFrame {config : Config} {s : State} {sid : Nat} {raw : Bytes} {frame : Frame}
    {rest : List (Bytes × Frame)} {status : Option DeviceStatus} (streams : Streams config s)
    (handling : (s.sessions sid).readAt = .handling)
    (next : (s.sessions sid).frames = (raw, frame) :: rest) :
    Streams config (s.takeFrame sid raw frame rest status) := by
  refine streams.renew sid [.frame sid raw frame status] (by simp [State.takeFrame]) ?_ ?_ ?_
  · intro other apart
    simp [fedBytes, framedBytes, apart.symm]
  · intro other apart
    simp [State.takeFrame, apart]
  have held := streams sid
  have log : fedBytes sid (s.takeFrame sid raw frame rest status).log = fedBytes sid s.log ∧
      framedBytes sid (s.takeFrame sid raw frame rest status).log =
        framedBytes sid s.log ++ raw := by
    simp [State.takeFrame, fedBytes, framedBytes]
  constructor
  · rw [log.1, log.2, ← held.conserved, next]
    simp [State.takeFrame]
  · rw [log.1]
    simpa [State.takeFrame] using held.total
  · simpa [State.takeFrame] using held.received
  · rw [log.2, List.length_append, ← held.offset]
    simp [State.takeFrame]
  · simp [State.takeFrame, handling]
  · simpa [State.takeFrame] using held.identity
  · have decoded := held.decoded
    rw [next] at decoded
    simpa [State.takeFrame] using fun entry member => decoded entry (List.mem_cons_of_mem _ member)
  · simp [State.takeFrame]

theorem Streams.chunk {config : Config} {s : State} {sid : Nat} {frames : List (Bytes × Frame)}
    {parser : FrameStream} (streams : Streams config s)
    (reading : (s.sessions sid).readAt = .reading)
    (fed : (s.sessions sid).parser.feed ((s.sessions sid).buffer.take readBytes) =
      .ok (frames, parser)) :
    Streams config
      (s.receiveChunk sid ((s.sessions sid).buffer.take readBytes) frames parser) := by
  have held := streams sid
  have idle := held.between reading
  obtain ⟨conserved, identity, decoded⟩ := FrameStream.feed_spec fed
  have accounts := held.conserved
  rw [idle, rawBytes_nil, List.nil_append] at accounts
  have sizes := congrArg List.length accounts
  have parsed := congrArg List.length conserved
  have received := held.received
  have total := held.total
  have split := List.take_append_drop readBytes (s.sessions sid).buffer
  simp only [List.length_append] at sizes parsed
  have size := congrArg List.length split
  rw [List.length_append] at size
  refine streams.renew sid [] (by simp [State.receiveChunk]) ?_ ?_ ?_
  · simp [fedBytes, framedBytes]
  · intro other apart
    simp [State.receiveChunk, apart]
  simp only [State.receiveChunk, State.setSession, Function.update_self]
  constructor
  · rw [← accounts, ← List.append_assoc (rawBytes frames), conserved, List.append_assoc, split]
  · exact total
  · simp only
    omega
  · simp only
    omega
  · simp
  · exact identity.trans held.identity
  · rw [held.identity] at decoded
    exact decoded
  · simp

/-- Nothing happens to any session, and no bytes move. -/
theorem Streams.aside {config : Config} {s after : State} (streams : Streams config s)
    (events : List Event) (log : after.log = s.log ++ events)
    (still : ∀ event ∈ events, event.still) (same : after.sessions = s.sessions) :
    Streams config after :=
  streams.keep events log still fun sid => by rw [same]; exact {}

theorem State.settle_stream (s : State) (c : Nat) (outcome : Outcome) (sid : Nat) :
    SameStream (s.sessions sid) ((s.settle c outcome).sessions sid) := by
  simp only [State.settle]
  split
  · by_cases equal : sid = (s.calls c).session
    · subst equal
      rw [Function.update_self]
      exact {}
    · rw [Function.update_of_ne equal]
      exact {}
  · exact {}

@[simp] theorem State.write_sessions (s : State) (sid : Nat) (opcode : Int) (data : Bytes) (sender : Sender)
    (raw : Bytes) : (s.write sid opcode data sender raw).sessions = s.sessions := by
  cases sender with
  | reader other => rfl
  | command c =>
    simp only [State.write]
    split <;> rfl

theorem Event.still_of {event : Event} (session : event.session? = none) : event.still := by
  intro sid
  cases event <;> simp_all [Event.fedTo, Event.framedOn, Event.session?]

theorem Effect.streams {config : Config} {overflow : Prop} {s after : State}
    (effect : Effect config overflow s after) (shape : Shape s) (streams : Streams config s) :
    Streams config after := by
  cases effect with
  | clock forward epoch => exact streams.aside [] (by simp) (by simp) rfl
  | accept idle free => exact streams.accept shape
  | feed known opened => exact streams.feed
  | note sid eof readError reason cancelling => exact streams.session {}
  | @closeWriter sid known =>
    have closed : Streams config (s.setSession sid { s.sessions sid with isClosing := true }) :=
      streams.session {}
    exact closed.aside [.writerClosing sid] rfl (by simp) rfl
  | @release sid current left =>
    rw [State.release, if_pos current]
    exact streams.aside [.released sid] rfl (by simp) rfl
  | @fail sid gone left =>
    rcases s.failPending_cases sid with same | ⟨c, pending, error, -, -, -, -, same⟩
    · rw [same]; exact streams
    · rw [same]; exact streams.aside [] (by simp [State.setFuture]) (by simp) rfl
  | skip known handling next => exact streams.takeFrame handling next
  | @report sid raw frame rest decoded status known handling next isReport decodes built =>
    have looped : Streams config (s.takeFrame sid raw frame rest (some status)) :=
      streams.takeFrame handling next
    have stored : Streams config
        { s.takeFrame sid raw frame rest (some status) with status := some status } :=
      looped.aside [] (by simp) (by simp) rfl
    rcases State.confirm_cases _ sid frame (s.sessions sid).offset status with
      same | ⟨c, pending, -, -, -, -, -, -, -, -, same⟩
    · rw [same]; exact stored
    · rw [same]; exact stored.aside [] (by simp [State.setFuture]) (by simp) rfl
  | @readAt sid phase begun move =>
    refine streams.session { reading := ?_, answering := ?_ }
    · rintro rfl
      cases move with
      | read fresh opened origin => exact .inr fresh
    · rintro rfl
      cases move with
      | answer origin verified => exact .inl verified
  | @chunk sid chunk frames parser known reading taken nonempty fed =>
    subst taken
    exact streams.chunk reading fed
  | @reply after sid phase sent =>
    obtain ⟨-, -, -, -, -, -, raw, -, rfl⟩ := State.sendTurn_sent sent
    have written : Streams config (s.write sid 1 [0] (.reader sid) raw) :=
      streams.aside _ rfl (by simp) rfl
    have answered : Streams config ((s.write sid 1 [0] (.reader sid) raw).setReadAt sid
        .heartbeatDrain) := written.session
          { reading := by rintro ⟨⟩, answering := by rintro ⟨⟩ }
    exact answered.aside [] (by simp) (by simp) rfl
  | unlock => exact streams.aside [] (by simp) (by simp) rfl
  | put entry room origin =>
    exact streams.aside [.enqueued entry] rfl (by simp) rfl
  | discardQueued =>
    refine streams.aside _ rfl ?_ rfl
    simp only [List.mem_map]
    rintro event ⟨entry, -, rfl⟩
    exact Event.still_of rfl
  | drop entry =>
    exact streams.aside [.discarded entry] rfl (by simp) rfl
  | @dispatch entry rest next free =>
    exact streams.aside [.dispatched entry] rfl (by simp) rfl
  | idle => exact streams.aside [] (by simp) (by simp) rfl
  | stop => exact streams.aside [] (by simp) (by simp) rfl
  | refuse rejected =>
    exact streams.aside _ rfl (by simp) rfl
  | call parsed current connected =>
    exact streams.aside _ rfl (by simp) rfl
  | popReader next => exact streams.aside [] (by simp) (by simp) rfl
  | popCommand next => exact streams.aside [] (by simp) (by simp) rfl
  | @skipCommand c rest next asked =>
    exact streams.keep [.settled c .cancelled] rfl
      (by simp)
      (State.settle_stream { s with spawned := rest } c .cancelled)
  | popCleanup next => exact streams.aside [] (by simp) (by simp) rfl
  | move move => exact streams.aside [] (by simp) (by simp) rfl
  | @register c phase free current =>
    have begun : Streams config ({ s with commandLock := some c }.setCall c { s.calls c with
        pending := some {
          opcode := (s.calls c).command.opcode, expected := (s.calls c).command.expected
          allowStale := (s.calls c).command.allowStale }
        execute := .sendLock }) := streams.aside [] (by simp) (by simp) rfl
    exact begun.session {}
  | @transmit after c phase sent =>
    obtain ⟨-, -, -, -, -, -, raw, -, rfl⟩ := State.sendTurn_sent sent
    refine streams.aside [_] rfl ?_ ?_
    · simp
    · simp
  | @settle c outcome how =>
    exact streams.keep [.settled c outcome] rfl
      (by simp) (State.settle_stream s c outcome)
  | @cancel c live cause =>
    exact streams.aside [.cancelRequested c] rfl (by simp) rfl
  | @interrupt c waiting =>
    exact streams.aside [.callerCancelled c] rfl (by simp) rfl
  | drain waiting interrupted => exact streams.aside [] (by simp) (by simp) rfl
  | @finish c last outcome waiting done result =>
    exact streams.aside [.ended c outcome] rfl (by simp) rfl
  | close opened =>
    exact streams.aside [.closing] rfl (by simp) rfl
  | finishCleanup gathering => exact streams.aside [] (by simp) (by simp) rfl
  | forget closing => exact streams.aside [.cleaned] rfl (by simp) rfl

end AlorairLite.Local
