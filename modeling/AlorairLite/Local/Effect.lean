import AlorairLite.Local.Client
import Mathlib.Logic.Relation
import Mathlib.Data.List.Basic

/-! What a step of the transport can do, as a path of small effects. Every
invariant of the transport is proved against these effects, so the control flow of
the coroutines is taken apart only once. -/

namespace AlorairLite.Local

open State

attribute [simp] State.emit State.setSession State.setCall

/-- An update that keeps a field of the entry it replaces keeps it everywhere. -/
theorem update_field {Key Entry Field : Type} [DecidableEq Key] {entries : Key → Entry} {key : Key}
    {entry : Entry} (field : Entry → Field) (same : field entry = field (entries key)) (other : Key) :
    field (Function.update entries key entry other) = field (entries other) := by
  by_cases equal : other = key
  · subst equal
    simpa using same
  · simp [equal]

/-- Giving up a record touches nothing but its future. -/
@[simp] theorem Pending.abandon_fields (pending : Pending) :
    pending.abandon.opcode = pending.opcode ∧ pending.abandon.expected = pending.expected ∧
      pending.abandon.allowStale = pending.allowStale ∧ pending.abandon.queued = pending.queued ∧
      pending.abandon.receiveSequence = pending.receiveSequence ∧
      pending.abandon.byteBoundary = pending.byteBoundary := by
  simp only [Pending.abandon]
  split <;> simp

@[simp] theorem Pending.abandon_future (pending : Pending) :
    pending.abandon.future = if pending.future = .pending then .cancelled else pending.future := by
  simp only [Pending.abandon]
  split <;> rfl

theorem State.confirm_cases (s : State) (sid : Nat) (frame : Frame) (offset : Nat)
    (status : DeviceStatus) :
    s.confirm sid frame offset status = s ∨
      ∃ c pending, (s.sessions sid).pending = some c ∧ (s.calls c).pending = some pending ∧
        pending.queued ∧ pending.future = .pending ∧ frame.opcode = pending.opcode ∧
        pending.receiveSequence < (s.sessions sid).receiveSequence ∧
        pending.byteBoundary ≤ offset ∧ status.reading pending.opcode = pending.expected ∧
        s.confirm sid frame offset status = s.setFuture c pending (.result status) := by
  unfold State.confirm
  split
  · exact .inl rfl
  rename_i c attached
  split
  · exact .inl rfl
  rename_i pending recorded
  split
  · rename_i answers
    obtain ⟨queued, waiting, opcode, later, beyond, equal⟩ := answers
    exact .inr ⟨c, pending, attached, recorded, queued, waiting, opcode, later, beyond, equal, rfl⟩
  · exact .inl rfl

theorem State.failPending_cases (s : State) (sid : Nat) :
    s.failPending sid = s ∨
      ∃ c pending error, (s.sessions sid).pending = some c ∧ (s.calls c).pending = some pending ∧
        pending.future = .pending ∧
        error = (if pending.queued then uncertain sid pending "disconnected"
          else .notConnected "Connection closed before the command was queued") ∧
        s.failPending sid = s.setFuture c pending (.exception error) := by
  unfold State.failPending
  split
  · exact .inl rfl
  rename_i c attached
  split
  · exact .inl rfl
  rename_i pending recorded
  split
  · exact .inl rfl
  rename_i waiting
  refine .inr ⟨c, pending, _, attached, recorded, by simpa using waiting, rfl, ?_⟩
  split <;> rfl

/-- The sessions an event belongs to. -/
def Event.session? : Event → Option Nat
  | .accepted sid _ | .fed sid _ | .frame sid _ _ _ | .writerClosing sid | .released sid => some sid
  | _ => none

/-- The call an event belongs to. -/
def Event.call? : Event → Option Nat
  | .called c _ _ | .cancelRequested c | .callerCancelled c | .settled c _ | .ended c _ => some c
  | .wrote write => write.call
  | _ => none

/-- The phases in which the task of a command owns the command lock. -/
def ExecuteAt.registered : ExecuteAt → Bool
  | .sendLock | .pacing | .draining | .acknowledgement => true
  | _ => false

/-- The phases in which a timer of `_execute_command` is armed. -/
def ExecuteAt.timed : ExecuteAt → Bool
  | .commandLock => true
  | phase => phase.registered

/-- Errors raised before anything of a command is queued. -/
def Error.unsent : Error → Bool
  | .notConnected _ | .staleStatus _ | .commandNotSent _ => true
  | _ => false

theorem State.requireFreshStatus_error {config : Config} {s : State} {expected : Option Nat}
    {allowStale : Bool} {error : Error}
    (refused : s.requireFreshStatus config expected allowStale = .error error) : error.unsent := by
  simp only [State.requireFreshStatus] at refused
  split at refused
  · cases refused; rfl
  split at refused
  · cases refused; rfl
  split at refused
  · cases refused
  split at refused
  · cases refused; rfl
  split at refused
  · cases refused; rfl
  · cases refused

/-- What a successful freshness check knows about the current session. -/
theorem State.requireFreshStatus_ok {config : Config} {s : State} {expected : Option Nat}
    {allowStale : Bool} {sid : Nat}
    (accepted : s.requireFreshStatus config expected allowStale = .ok sid) :
    s.session = some sid ∧ s.connected ∧ (∀ wanted, expected = some wanted → wanted = sid) ∧
      (allowStale = false → ∃ status, s.status = some status ∧ status.sessionId = sid ∧
        0 ≤ s.now - status.receivedMonotonic ∧
        s.now - status.receivedMonotonic ≤ config.statusMaxAge) := by
  simp only [State.requireFreshStatus] at accepted
  split at accepted
  · cases accepted
  rename_i current found
  split at accepted
  · cases accepted
  rename_i connected
  simp only [not_or, not_and, Decidable.not_not, Bool.not_eq_false] at connected
  have wanted : ∀ wanted, expected = some wanted → wanted = current := by
    rintro wanted rfl
    exact Option.some.inj (connected.2 rfl)
  split at accepted
  · rename_i stale
    cases accepted
    exact ⟨found, connected.1, wanted, fun fresh => by simp [fresh] at stale⟩
  split at accepted
  · cases accepted
  rename_i status recorded
  split at accepted
  · cases accepted
  rename_i fresh
  cases accepted
  simp only [not_or, Decidable.not_not] at fresh
  exact ⟨found, connected.1, wanted, fun _ => ⟨status, recorded, fresh.1, fresh.2⟩⟩

/-- What `connected` knows about the current session. -/
theorem State.connected_spec {s : State} (connected : s.connected) :
    s.closing = false ∧ ∃ sid, s.session = some sid ∧ (s.sessions sid).verified ∧
      (s.sessions sid).isClosing = false := by
  simp only [State.connected] at connected
  split at connected
  · cases connected
  rename_i sid current
  simp only [Bool.and_eq_true, Bool.not_eq_true'] at connected
  exact ⟨connected.1.1, sid, current, connected.1.2, connected.2⟩

/-- The frame `_send` builds. -/
def State.outbound (config : Config) (s : State) (opcode : Int) (data : Bytes) : Frame :=
  { mac := config.mac, timestamp := s.nextTimestamp, function := 9, opcode, data }

theorem State.sendTurn_sent {config : Config} {s after : State} {sid : Nat} {opcode : Int}
    {data : Bytes} {sender : Sender}
    (sent : s.sendTurn config sid opcode data sender = .sent after) :
    s.closing = false ∧ s.session = some sid ∧ (s.sessions sid).isClosing = false ∧
      (∀ pending, s.pendingOf sender = some pending →
        ∃ found, s.requireFreshStatus config (some sid)
          (pending.allowStale || (opcode = 0x21 && data = [0])) = .ok found) ∧
      s.sendDelay (s.pendingOf sender) = 0 ∧ s.reportsEnabled opcode (s.pendingOf sender) ∧
      ∃ raw, (s.outbound config opcode data).encode = .ok raw ∧
        after = s.write sid opcode data sender raw := by
  simp only [State.sendTurn] at sent
  split at sent
  · cases sent
  rename_i checked
  split at sent
  · cases sent
  rename_i prompt
  split at sent
  · cases sent
  rename_i enabled
  split at sent
  · cases sent
  rename_i raw encoded
  simp only [State.sendGuard] at checked
  split at checked
  · cases checked
  rename_i live
  simp only [not_or, Decidable.not_not, Bool.not_eq_true] at live
  refine ⟨live.1, live.2.1, live.2.2, ?_, by simpa using prompt, by simpa using enabled, raw,
    encoded, (Turn.sent.inj sent).symm⟩
  intro pending found
  rw [found] at checked
  simp only at checked
  cases fresh : s.requireFreshStatus config (some sid)
      (pending.allowStale || (opcode = 0x21 && data = [0])) with
  | error error => simp [fresh, Except.map] at checked
  | ok current => exact ⟨current, rfl⟩

/-- `_send` raises before queueing anything: a guard failed, or the frame does not
encode. -/
theorem State.sendTurn_raised {config : Config} {s : State} {sid : Nat} {opcode : Int}
    {data : Bytes} {sender : Sender} {error : Error}
    (raised : s.sendTurn config sid opcode data sender = .raised error) :
    error.unsent ∨ ∃ text, error = .valueError text ∧
      (s.outbound config opcode data).encode = .error text := by
  simp only [State.sendTurn] at raised
  split at raised
  · rename_i refused
    cases raised
    simp only [State.sendGuard] at refused
    split at refused
    · cases refused; exact .inl rfl
    split at refused
    · cases refused
    rename_i pending found
    cases fresh : s.requireFreshStatus config (some sid)
        (pending.allowStale || (opcode = 0x21 && data = [0])) with
    | error inner =>
      simp only [fresh, Except.map, Except.error.injEq] at refused
      exact .inl (refused ▸ State.requireFreshStatus_error fresh)
    | ok current => simp [fresh, Except.map] at refused
  split at raised
  · cases raised
  split at raised
  · cases raised; exact .inl rfl
  split at raised
  · rename_i text unencoded
    cases raised
    exact .inr ⟨text, rfl, unencoded⟩
  · cases raised

/-- Whether the token of the next frame fits its four bytes. -/
def State.tokenFits (s : State) : Prop := 0 ≤ s.nextTimestamp ∧ s.nextTimestamp ≤ 0xFFFFFFFF

/-- The frames of the transport fail to encode only when the token is too large. -/
theorem State.outbound_encodes (config : Config) {s : State} {opcode : Int} {data : Bytes}
    (byte : isByte opcode) (short : data.length ≤ maxData) (fits : s.tokenFits) :
    ∃ raw, (s.outbound config opcode data).encode = .ok raw := by
  have function : isByte 9 := by decide
  refine ⟨(s.outbound config opcode data).body ++
    toBytes 2 (checksum (s.outbound config opcode data).body) ++ [0x16], ?_⟩
  have identity : ¬ ((s.outbound config opcode data).mac.length ≠ 6 ∨
      (s.outbound config opcode data).reserved.length ≠ 4) := by
    simp [State.outbound, config.macLength]
  have bounded : ¬ ((s.outbound config opcode data).data.length > maxData ∨
      ¬ (0 ≤ (s.outbound config opcode data).timestamp ∧
        (s.outbound config opcode data).timestamp ≤ 0xFFFFFFFF)) := by
    have token := fits
    simp only [State.tokenFits] at token
    simp only [State.outbound]
    omega
  have bytes : ¬ ¬ (isByte (s.outbound config opcode data).function ∧
      isByte (s.outbound config opcode data).opcode) := by
    simp [State.outbound, byte, function]
  rw [Frame.encode, if_neg identity, if_neg bounded, if_neg bytes]

/-- How the task of a command can end. -/
inductive Settles (overflow : Prop) (s : State) (c : Nat) : Outcome → Prop where
  | cancelled (phase : (s.calls c).execute.timed) (asked : (s.calls c).cancelling) :
      Settles overflow s c (cancelOutcome (s.calls c))
  | expired (phase : (s.calls c).execute.timed) (unasked : (s.calls c).cancelling = false) :
      Settles overflow s c (timeoutOutcome (s.calls c))
  | refused {error : Error} (unsent : error.unsent) (unasked : (s.calls c).cancelling = false)
      (phase : (s.calls c).execute = .commandLock ∨ (s.calls c).execute = .sendLock) :
      Settles overflow s c (.raised error)
  | unencodable {text : String} (large : overflow) (phase : (s.calls c).execute = .sendLock)
      (unasked : (s.calls c).cancelling = false) : Settles overflow s c (.raised (.valueError text))
  | answered {pending : Pending} {outcome : Outcome} (unasked : (s.calls c).cancelling = false)
      (phase : (s.calls c).execute = .acknowledgement)
      (recorded : (s.calls c).pending = some pending)
      (done : futureOutcome pending.future = some outcome) : Settles overflow s c outcome

theorem ExecuteAt.timed_live {phase : ExecuteAt} (timed : phase.timed) :
    phase ≠ .created ∧ ∀ outcome, phase ≠ .done outcome := by
  cases phase <;> simp_all [ExecuteAt.timed, ExecuteAt.registered]

theorem ExecuteAt.registered_timed {phase : ExecuteAt} (registered : phase.registered) :
    phase.timed := by
  cases phase <;> simp_all [ExecuteAt.timed, ExecuteAt.registered]

theorem Settles.timed {overflow : Prop} {s : State} {c : Nat} {outcome : Outcome}
    (how : Settles overflow s c outcome) : (s.calls c).execute.timed := by
  cases how with
  | cancelled phase asked => exact phase
  | expired phase unasked => exact phase
  | refused unsent unasked phase => rcases phase with phase | phase <;> rw [phase] <;> rfl
  | unencodable large phase unasked => rw [phase]; rfl
  | answered unasked phase recorded done => rw [phase]; rfl

/-- The moves of a command's task between two suspensions that touch nothing else. -/
inductive ExecuteMove : ExecuteAt → ExecuteAt → Prop where
  | pause : ExecuteMove .sendLock .pacing
  | retry : ExecuteMove .pacing .sendLock
  | drained : ExecuteMove .draining .acknowledgement

theorem ExecuteMove.registered {phase target : ExecuteAt} (move : ExecuteMove phase target) :
    phase.registered ∧ target.registered := by
  cases move <;> exact ⟨rfl, rfl⟩

/-- The moves of a reader between two suspensions that touch nothing else. -/
inductive ReadMove (s : State) (sid : Nat) : ReadAt → Prop where
  | read (fresh : (s.sessions sid).frames = []) (opened : s.closing = false)
      (origin : (s.sessions sid).readAt = .created ∨ (s.sessions sid).readAt = .handling) :
      ReadMove s sid .reading
  | answer (origin : (s.sessions sid).readAt = .handling) (verified : (s.sessions sid).verified) :
      ReadMove s sid .heartbeatLock
  | resume (origin : (s.sessions sid).readAt = .heartbeatDrain) : ReadMove s sid .handling
  | leave : ReadMove s sid .closing
  | finish (origin : (s.sessions sid).readAt = .closing) : ReadMove s sid .done
  | skip (origin : (s.sessions sid).readAt = .created) (asked : (s.sessions sid).cancelling) :
      ReadMove s sid .done

theorem ReadMove.started {s : State} {sid : Nat} {phase : ReadAt} (move : ReadMove s sid phase) :
    phase ≠ .created := by
  cases move <;> exact fun equal => by cases equal

/-- The reader has left its loop for good. -/
def ReadAt.left : ReadAt → Bool
  | .closing | .done => true
  | _ => false

theorem ReadMove.left {s : State} {sid : Nat} {phase : ReadAt} (move : ReadMove s sid phase)
    (gone : (s.sessions sid).readAt.left) : phase.left := by
  cases move with
  | read fresh opened origin => rcases origin with origin | origin <;> simp [origin, ReadAt.left] at gone
  | answer origin verified => simp [origin, ReadAt.left] at gone
  | resume origin => simp [origin, ReadAt.left] at gone
  | leave => rfl
  | finish origin => rfl
  | skip origin asked => rfl

/-- A status notification follows the report it was made of. -/
def Callback.follows (log : List Event) (entry : Callback) : Prop :=
  ∀ status, entry.notice = .status status →
    ∃ past raw frame, log = past ++ [.frame entry.session raw frame (some status)]

/-- One effect. `overflow` says that the token of the current step is too large
for a frame; it is the only reason for a `ValueError` of an accepted command. -/
inductive Effect (config : Config) (overflow : Prop) : State → State → Prop where
  | clock {s : State} {now wall : ℚ} (forward : s.now ≤ now) (epoch : 0 ≤ wall) :
      Effect config overflow s { s with now, wall }
  | accept {s : State} (idle : s.closing = false) (free : s.session = none) :
      Effect config overflow s (s.openSession config config.allowedClient)
  | feed {s : State} {sid : Nat} {bytes : Bytes} (known : s.knows sid)
      (opened : (s.sessions sid).isClosing = false) : Effect config overflow s (s.feed sid bytes)
  | note {s : State} (sid : Nat) (eof readError : Bool) (reason : DisconnectReason)
      (cancelling : Bool) :
      Effect config overflow s
        (s.setSession sid { s.sessions sid with eof, readError, reason, cancelling })
  | closeWriter {s : State} {sid : Nat} (known : s.knows sid) :
      Effect config overflow s (s.closeWriter sid)
  | release {s : State} {sid : Nat} (current : s.session = some sid)
      (left : s.closing ∨ (s.sessions sid).readAt = .closing) :
      Effect config overflow s (s.release sid)
  | fail {s : State} {sid : Nat} (gone : s.session ≠ some sid)
      (left : (s.sessions sid).readAt = .closing) :
      Effect config overflow s (s.failPending sid)
  | skip {s : State} {sid : Nat} {raw : Bytes} {frame : Frame} {rest : List (Bytes × Frame)}
      (known : s.knows sid) (handling : (s.sessions sid).readAt = .handling)
      (next : (s.sessions sid).frames = (raw, frame) :: rest) :
      Effect config overflow s (s.takeFrame sid raw frame rest none)
  | report {s : State} {sid : Nat} {raw : Bytes} {frame : Frame} {rest : List (Bytes × Frame)}
      {decoded : ObservedStatus} {status : DeviceStatus} (known : s.knows sid)
      (handling : (s.sessions sid).readAt = .handling)
      (next : (s.sessions sid).frames = (raw, frame) :: rest) (isReport : frame.isReport)
      (decodes : observedStatus frame = .ok decoded)
      (built : status = s.deviceStatus sid frame decoded) :
      Effect config overflow s
        (({ s.takeFrame sid raw frame rest (some status) with status := some status }).confirm sid
          frame (s.sessions sid).offset status)
  | readAt {s : State} {sid : Nat} {phase : ReadAt} (begun : .reader sid ∉ s.spawned)
      (move : ReadMove s sid phase) : Effect config overflow s (s.setReadAt sid phase)
  | chunk {s : State} {sid : Nat} {chunk : Bytes} {frames : List (Bytes × Frame)}
      {parser : FrameStream} (known : s.knows sid) (reading : (s.sessions sid).readAt = .reading)
      (taken : chunk = (s.sessions sid).buffer.take readBytes) (nonempty : chunk ≠ [])
      (fed : (s.sessions sid).parser.feed chunk = .ok (frames, parser)) :
      Effect config overflow s (s.receiveChunk sid chunk frames parser)
  | reply {s after : State} {sid : Nat} (phase : (s.sessions sid).readAt = .heartbeatLock)
      (sent : s.sendTurn config sid 1 [0] (.reader sid) = .sent after) :
      Effect config overflow s
        { after.setReadAt sid .heartbeatDrain with sendLock := some (.reader sid) }
  | unlock {s : State} : Effect config overflow s { s with sendLock := none }
  | put {s : State} (entry : Callback) (room : s.callbacks.length < callbackQueueSize)
      (origin : entry.follows s.log) : Effect config overflow s (s.putCallback entry)
  | discardQueued {s : State} : Effect config overflow s s.discardQueuedStatuses
  | drop {s : State} (entry : Callback) : Effect config overflow s (s.emit (.discarded entry))
  | dispatch {s : State} {entry : Callback} {rest : List Callback}
      (next : s.callbacks = entry :: rest) (free : s.dispatching = none) :
      Effect config overflow s { s with
        callbacks := rest, dispatching := some entry, log := s.log ++ [.dispatched entry] }
  | idle {s : State} : Effect config overflow s { s with dispatching := none }
  | stop {s : State} : Effect config overflow s { s with dispatcherStopped := true }
  | refuse {s : State} {request : Request} {error : Error}
      (rejected : (∃ text, request.command = .error text ∧ error = .valueError text) ∨
        (∃ command, request.command = .ok command) ∧ error.unsent) :
      Effect config overflow s (s.refuseCall request error)
  | call {s : State} {request : Request} {command : Command} {sid : Nat}
      (parsed : request.command = .ok command) (current : s.session = some sid)
      (connected : s.connected) : Effect config overflow s (s.openCall request command sid)
  | popReader {s : State} {sid : Nat} {rest : List Spawned}
      (next : s.spawned = .reader sid :: rest) : Effect config overflow s { s with spawned := rest }
  | popCommand {s : State} {c : Nat} {rest : List Spawned}
      (next : s.spawned = .command c :: rest) :
      Effect config overflow s
        ({ s with spawned := rest }.setCall c { s.calls c with execute := .commandLock })
  | skipCommand {s : State} {c : Nat} {rest : List Spawned}
      (next : s.spawned = .command c :: rest) (asked : (s.calls c).cancelling) :
      Effect config overflow s ({ s with spawned := rest }.settle c .cancelled)
  | popCleanup {s : State} {rest : List Spawned} (next : s.spawned = .cleanup :: rest) :
      Effect config overflow s { s with spawned := rest, cleanup := .gathering }
  | move {s : State} {c : Nat} {target : ExecuteAt}
      (move : ExecuteMove (s.calls c).execute target) :
      Effect config overflow s (s.setCall c { s.calls c with execute := target })
  | register {s : State} {c : Nat} (phase : (s.calls c).execute = .commandLock)
      (free : s.commandLock = none) (current : s.session = some (s.calls c).session) :
      Effect config overflow s ({ s with commandLock := some c }.register c)
  | transmit {s after : State} {c : Nat} (phase : (s.calls c).execute = .sendLock)
      (sent : s.sendTurn config (s.calls c).session (s.calls c).command.opcode
        (s.calls c).command.data (.command c) = .sent after) :
      Effect config overflow s
        { after.setCall c { after.calls c with execute := .draining } with
          sendLock := some (.command c) }
  | settle {s : State} {c : Nat} {outcome : Outcome} (how : Settles overflow s c outcome) :
      Effect config overflow s (s.settle c outcome)
  | cancel {s : State} {c : Nat} (live : ∀ outcome, (s.calls c).execute ≠ .done outcome)
      (cause : .callerCancelled c ∈ s.log ∨ (s.calls c).execute ≠ .created) :
      Effect config overflow s
        ((s.setCall c { s.calls c with cancelling := true }).emit (.cancelRequested c))
  | interrupt {s : State} {c : Nat} (waiting : ∀ outcome, (s.calls c).caller ≠ .ended outcome) :
      Effect config overflow s (s.emit (.callerCancelled c))
  | drain {s : State} {c : Nat} (waiting : ∀ outcome, (s.calls c).caller ≠ .ended outcome)
      (interrupted : .callerCancelled c ∈ s.log) :
      Effect config overflow s (s.setCall c { s.calls c with caller := .draining })
  | finish {s : State} {c : Nat} {last outcome : Outcome}
      (waiting : ∀ outcome, (s.calls c).caller ≠ .ended outcome)
      (done : (s.calls c).execute = .done last)
      (result : (s.calls c).caller = .waiting ∧ outcome = last ∨
        outcome = .cancelled ∧ ((s.calls c).caller = .draining ∨ .callerCancelled c ∈ s.log)) :
      Effect config overflow s (s.endCaller c outcome)
  | close {s : State} (opened : s.closing = false) :
      Effect config overflow s { s with
        closing := true, spawned := s.spawned ++ [.cleanup], log := s.log ++ [.closing] }
  | finishCleanup {s : State} (gathering : s.cleanup = .gathering) :
      Effect config overflow s { s with cleanup := .finished }
  | forget {s : State} (closing : s.closing) : Effect config overflow s s.forgetStatus

/-- The effects of one step, in order. -/
abbrev Effects (config : Config) (overflow : Prop) : State → State → Prop :=
  Relation.ReflTransGen (Effect config overflow)

end AlorairLite.Local
