import AlorairLite.Async.Transition
import AlorairLite.Local.Protocol
import Mathlib.Data.Rat.Floor
import Mathlib.Logic.Function.Basic

/-! The local transport (`local_client.py`) as a transition system. A task is
stored at the `await` it is suspended in; one step runs one task from there to its
next `await`. Every `await` may suspend, and a timer may expire whenever it is
armed, so the runs include every schedule of the event loop. `log` is a history
variable that no definition reads. -/

namespace AlorairLite.Local

def commandSpacing : ℚ := 11 / 10

def readBytes : Nat := 2048

def callbackQueueSize : Nat := 64

inductive DisconnectReason where
  | eof
  | invalidFrame
  | idleTimeout
  | connectionError
  | clientClosed
  | callbackError
deriving DecidableEq, Repr

/-- What leaves a coroutine as an exception: the `LocalClientError` classes, and
the `ValueError` that `Frame.encode` and argument checks raise. -/
inductive Error where
  | notConnected (text : String)
  | staleStatus (text : String)
  | commandNotSent (text : String)
  | commandUncertain (reason : String) (sessionId : Nat) (sentMonotonic : Option ℚ)
      (receiveSequence byteBoundary : Nat)
  | valueError (text : String)
deriving DecidableEq

/-- The part of the configuration the transport reads while it runs. -/
structure Config where
  allowedClient : String
  mac : Bytes
  macLength : mac.length = 6
  statusMaxAge : ℚ
  agePositive : 0 < statusMaxAge
  /-- Whether `on_status` and `on_disconnect` were given. -/
  onStatus : Bool
  onDisconnect : Bool

structure DeviceStatus where
  sessionId : Nat
  receiveSequence : Nat
  receivedAt : ℚ
  receivedMonotonic : ℚ
  power : Option Bool
  temperatureUnit : TemperatureUnit
  eventOpcode : Int
  targetHumidity : Option Int
  inletCelsius : Option Int
  inletHumidity : Option Int
  outletCelsius : Option Int
  outletHumidity : Option Int
  inletGkg : Nat
  outletGkg : Nat
  inletGrlb : Nat
  outletGrlb : Nat
  draining : Option Bool
deriving DecidableEq

/-- `DeviceStatus(session_id, receive_sequence, ...)` for a decoded report. -/
def ObservedStatus.deviceStatus (decoded : ObservedStatus) (sessionId receiveSequence : Nat)
    (receivedAt receivedMonotonic : ℚ) (eventOpcode : Int) : DeviceStatus where
  sessionId
  receiveSequence
  receivedAt
  receivedMonotonic
  power := decoded.power
  temperatureUnit := decoded.temperatureDisplay
  eventOpcode
  targetHumidity := decoded.targetHumidity
  inletCelsius := decoded.inletCelsius
  inletHumidity := decoded.inletHumidity
  outletCelsius := decoded.outletCelsius
  outletHumidity := decoded.outletHumidity
  inletGkg := decoded.inletGkg
  outletGkg := decoded.outletGkg
  inletGrlb := decoded.inletGrlb
  outletGrlb := decoded.outletGrlb
  draining := decoded.draining

/-- A value a command asks for, or the value a status shows for it. -/
inductive Setting where
  | power (value : Option Bool)
  | humidity (value : Option Int)
  | unit (value : TemperatureUnit)
deriving DecidableEq

/-- The field of a status that answers a command with this opcode. -/
def DeviceStatus.reading (status : DeviceStatus) (opcode : Int) : Setting :=
  if opcode = 0x21 then .power status.power
  else if opcode = 0x23 then .humidity status.targetHumidity
  else .unit status.temperatureUnit

inductive Request where
  | setPower (on : Bool)
  | setTemperatureUnit (unit : TemperatureUnit)
  | setHumidity (target : Int) (allowStale : Bool)
deriving DecidableEq

structure Command where
  opcode : Int
  data : Bytes
  expected : Setting
  allowStale : Bool
deriving DecidableEq

/-- The arguments `async_set_power`, `async_set_temperature_unit` and
`async_set_humidity` pass to `_command`. -/
def Request.command : Request → Except String Command
  | .setPower on => .ok ⟨0x21, [if on then 1 else 0], .power (some on), false⟩
  | .setTemperatureUnit unit =>
    .ok ⟨0x24, [if unit = .fahrenheit then 1 else 0], .unit unit, false⟩
  | .setHumidity target allowStale =>
    if (humidityTarget target).isNone then
      .error "Humidity target must be 20 or 25–80 in steps of five"
    else .ok ⟨0x23, [UInt8.ofNat target.toNat], .humidity (some target), allowStale⟩

/-- `allow_stale or (opcode == 0x21 and expected is False)`. -/
def Command.staleAllowed (command : Command) : Bool :=
  command.allowStale || (command.opcode = 0x21 && command.expected = .power (some false))

/-- The future of a `_Pending` record. -/
inductive Future where
  | pending
  | result (status : DeviceStatus)
  | exception (error : Error)
  | cancelled
deriving DecidableEq

structure Pending where
  opcode : Int
  expected : Setting
  future : Future := .pending
  queued : Bool := false
  receiveSequence : Nat := 0
  byteBoundary : Nat := 0
  sentMonotonic : Option ℚ := none
  allowStale : Bool
deriving DecidableEq

/-- `if not pending.future.done(): pending.future.cancel()`. -/
def Pending.abandon (pending : Pending) : Pending :=
  if pending.future = .pending then { pending with future := .cancelled } else pending

inductive Outcome where
  | returned (status : DeviceStatus)
  | raised (error : Error)
  | cancelled
deriving DecidableEq

/-- Where the detached task of a command is suspended. -/
inductive ExecuteAt where
  /-- Created, its first step still to come. -/
  | created
  /-- `wait_for(self._command_lock.acquire(), ...)`. -/
  | commandLock
  /-- In `_send`: `async with self._send_lock`. -/
  | sendLock
  /-- In `_send`: `asyncio.sleep(delay)`. -/
  | pacing
  /-- In `_send`: `wait_for(session.writer.drain(), ...)`. -/
  | draining
  /-- `wait_for(asyncio.shield(pending.future), ...)`. -/
  | acknowledgement
  | done (outcome : Outcome)
deriving DecidableEq

/-- Where `_command` is: waiting for its task, draining it after a cancellation,
or back in its caller. -/
inductive CallerAt where
  | waiting
  | draining
  | ended (outcome : Outcome)
deriving DecidableEq

structure Call where
  command : Command
  session : Nat
  execute : ExecuteAt
  /-- `task.cancel()` was called and has not been delivered. -/
  cancelling : Bool := false
  pending : Option Pending := none
  caller : CallerAt
deriving DecidableEq

/-- Where the reader task of a session is suspended. -/
inductive ReadAt where
  | created
  /-- `wait_for(session.reader.read(READ_BYTES), ...)`. -/
  | reading
  /-- Inside the `for` loop over decoded frames; no other task runs here. -/
  | handling
  /-- Answering a heartbeat: `async with self._send_lock`. -/
  | heartbeatLock
  /-- Answering a heartbeat: `wait_for(session.writer.drain(), ...)`. -/
  | heartbeatDrain
  /-- In the `finally` block: `self._close_writer(session.writer)`. -/
  | closing
  | done
deriving DecidableEq

/-- A `_Session` with its reader, its writer and the locals of `_read_session`. -/
structure Session where
  buffer : Bytes := []
  totalReceived : Nat := 0
  eof : Bool := false
  readError : Bool := false
  isClosing : Bool := false
  verified : Bool := false
  receiveSequence : Nat := 0
  receivedBytes : Nat := 0
  pending : Option Nat := none
  reason : DisconnectReason := .eof
  parser : FrameStream
  /-- `first_frame_offset`: where the next decoded frame begins. -/
  offset : Nat := 0
  receivedAt : ℚ := 0
  receivedMonotonic : ℚ := 0
  /-- Decoded frames the `for` loop has not reached. -/
  frames : List (Bytes × Frame) := []
  readAt : ReadAt := .created
  cancelling : Bool := false

inductive Notice where
  | status (status : DeviceStatus)
  | disconnect (reason : DisconnectReason)
deriving DecidableEq

/-- An entry of the callback queue. -/
structure Callback where
  session : Nat
  notice : Notice
deriving DecidableEq

def Callback.isDisconnect (entry : Callback) : Bool :=
  match entry.notice with
  | .status _ => false
  | .disconnect _ => true

/-- Who holds the send lock. -/
inductive Sender where
  | reader (session : Nat)
  | command (call : Nat)
deriving DecidableEq

/-- Tasks whose first step is still to come. -/
inductive Spawned where
  | reader (session : Nat)
  | command (call : Nat)
  | cleanup
deriving DecidableEq

inductive CleanupAt where
  | idle
  | gathering
  | finished
deriving DecidableEq

/-- An outbound frame handed to the transport. -/
structure Write where
  session : Nat
  call : Option Nat
  opcode : Int
  data : Bytes
  allowStale : Bool
  timestamp : Int
  raw : Bytes
  monotonic : ℚ
  wall : ℚ
deriving DecidableEq

/-- What can be observed of a run. -/
inductive Event where
  | accepted (session : Nat) (peer : String)
  | fed (session : Nat) (bytes : Bytes)
  | frame (session : Nat) (raw : Bytes) (frame : Frame) (status : Option DeviceStatus)
  | wrote (write : Write)
  /-- The transport of the session is closing from here on. -/
  | writerClosing (session : Nat)
  /-- `self._session` no longer is this session. -/
  | released (session : Nat)
  | called (call : Nat) (request : Request) (session : Option Nat)
  /-- `task.cancel()` on the detached task. -/
  | cancelRequested (call : Nat)
  /-- A `CancelledError` reaches `_command` from its caller. -/
  | callerCancelled (call : Nat)
  /-- The detached task ended. -/
  | settled (call : Nat) (outcome : Outcome)
  /-- The command returned or raised to its caller. -/
  | ended (call : Nat) (outcome : Outcome)
  | closing
  /-- The cleanup has forgotten the session and the last status. -/
  | cleaned
  | enqueued (entry : Callback)
  | discarded (entry : Callback)
  | dispatched (entry : Callback)
deriving DecidableEq

structure State where
  now : ℚ
  wall : ℚ
  sessionCounter : Nat := 0
  sessions : Nat → Session
  /-- `_session`, by its id. -/
  session : Option Nat := none
  /-- `_last_status`. -/
  status : Option DeviceStatus := none
  closing : Bool := false
  cleanup : CleanupAt := .idle
  callCount : Nat := 0
  calls : Nat → Call
  commandLock : Option Nat := none
  sendLock : Option Sender := none
  lastOutboundTime : Option ℚ := none
  lastOutboundTimestamp : Option Int := none
  callbacks : List Callback := []
  /-- The entry whose callback the dispatcher is running. -/
  dispatching : Option Callback := none
  dispatcherStopped : Bool := false
  /-- Created tasks in the order of their creation: `call_soon` is a queue. -/
  spawned : List Spawned := []
  log : List Event := []

/-- A new `_Session`. -/
def Session.fresh (config : Config) : Session := { parser := { expectedMac := some config.mac } }

def Call.none : Call :=
  { command := ⟨0, [], .power .none, false⟩, session := 0, execute := .done .cancelled
    caller := .ended .cancelled }

def State.start (config : Config) (now wall : ℚ) : State :=
  { now, wall, sessions := fun _ => .fresh config, calls := fun _ => .none }

namespace State

def emit (s : State) (event : Event) : State := { s with log := s.log ++ [event] }

def setSession (s : State) (sid : Nat) (session : Session) : State :=
  { s with sessions := Function.update s.sessions sid session }

def setCall (s : State) (c : Nat) (call : Call) : State :=
  { s with calls := Function.update s.calls c call }

def setFuture (s : State) (c : Nat) (pending : Pending) (future : Future) : State :=
  s.setCall c { s.calls c with pending := some { pending with future } }

def connected (s : State) : Bool :=
  match s.session with
  | none => false
  | some sid => !s.closing && (s.sessions sid).verified && !(s.sessions sid).isClosing

/-- The property `last_status`. -/
def lastStatus (s : State) : Option DeviceStatus := if s.connected then s.status else none

/-- `writer.close()`, or the loss of the connection. -/
def closeWriter (s : State) (sid : Nat) : State :=
  (s.setSession sid { s.sessions sid with isClosing := true }).emit (.writerClosing sid)

/-- A new current session, with its reader task. -/
def openSession (config : Config) (s : State) (address : String) : State :=
  let sid := s.sessionCounter + 1
  { s.setSession sid (.fresh config) with
    sessionCounter := sid, session := some sid, status := none
    spawned := s.spawned ++ [.reader sid]
    log := s.log ++ [.accepted sid address] }

/-- `_accept`; a refused connection is closed and never becomes a session. -/
def accept (config : Config) (s : State) : Option String → State
  | none => s
  | some address =>
    if s.closing ∨ address ≠ config.allowedClient ∨ s.session ≠ none then s
    else s.openSession config address

def discardQueuedStatuses (s : State) : State :=
  let retained := s.callbacks.filter Callback.isDisconnect
  let excess := retained.length - (callbackQueueSize - 1)
  { s with
    callbacks := retained.drop excess
    log := s.log ++
      (s.callbacks.filter (!·.isDisconnect) ++ retained.take excess).map .discarded }

def putCallback (s : State) (entry : Callback) : State :=
  { s with callbacks := s.callbacks ++ [entry], log := s.log ++ [.enqueued entry] }

/-- A failing callback, or a full queue, closes the connection it came from. -/
def failCallback (s : State) (entry : Callback) : State :=
  if entry.isDisconnect = false ∧ s.session = some entry.session then
    (s.setSession entry.session
      { s.sessions entry.session with reason := .callbackError }).closeWriter entry.session
  else s

def enqueueCallback (config : Config) (s : State) (entry : Callback) : State :=
  if (if entry.isDisconnect then config.onDisconnect else config.onStatus) = false then s
  else if s.callbacks.length < callbackQueueSize then s.putCallback entry
  else if entry.isDisconnect then s.discardQueuedStatuses.putCallback entry
  else (s.discardQueuedStatuses.emit (.discarded entry)).failCallback entry

/-- `_require_fresh_status`; the id of the current session on success. -/
def requireFreshStatus (config : Config) (s : State) (expected : Option Nat)
    (allowStale : Bool) : Except Error Nat :=
  match s.session with
  | none => .error (.notConnected "No current verified appliance connection")
  | some sid =>
    if s.connected = false ∨ (expected.isSome ∧ expected ≠ some sid) then
      .error (.notConnected "No current verified appliance connection")
    else if allowStale then .ok sid
    else
      match s.status with
      | none => .error (.staleStatus "Fresh status is required on the current connection")
      | some status =>
        if status.sessionId ≠ sid ∨ ¬ (0 ≤ s.now - status.receivedMonotonic ∧
            s.now - status.receivedMonotonic ≤ config.statusMaxAge) then
          .error (.staleStatus "Fresh status is required on the current connection")
        else .ok sid

/-- `_uncertain`. -/
def uncertain (sid : Nat) (pending : Pending) (reason : String) : Error :=
  .commandUncertain reason sid pending.sentMonotonic pending.receiveSequence pending.byteBoundary

end State

/-- How one turn of the loop in `_send` ends, with the send lock held. -/
inductive Turn where
  | raised (error : Error)
  | pause
  | sent (after : State)

namespace State

/-- The `_Pending` argument of `_send`: absent for a heartbeat reply. -/
def pendingOf (s : State) (sender : Sender) : Option Pending :=
  match sender with
  | .reader _ => none
  | .command c => (s.calls c).pending

/-- The checks at the head of a turn. -/
def sendGuard (config : Config) (s : State) (sid : Nat) (opcode : Int) (data : Bytes)
    (pending : Option Pending) : Except Error Unit :=
  if s.closing ∨ s.session ≠ some sid ∨ (s.sessions sid).isClosing then
    .error (.notConnected "Connection closed before sending")
  else
    match pending with
    | none => .ok ()
    | some pending =>
      (s.requireFreshStatus config (some sid)
        (pending.allowStale || (opcode = 0x21 && data = [0]))).map fun _ => ()

def sendDelay (s : State) (pending : Option Pending) : ℚ :=
  match pending, s.lastOutboundTime with
  | some _, some last => max 0 (commandSpacing - (s.now - last))
  | _, _ => 0

/-- A humidity change needs a reported ON, except for an explicit restoration. -/
def reportsEnabled (s : State) (opcode : Int) (pending : Option Pending) : Bool :=
  match pending with
  | none => true
  | some pending =>
    !(opcode = 0x23 && !pending.allowStale &&
      (match s.status with
        | none => true
        | some status => status.power ≠ some true))

/-- `max(int(time.time()), self._last_outbound_timestamp + 1)`. -/
def nextTimestamp (s : State) : Int :=
  match s.lastOutboundTimestamp with
  | none => s.wall.floor
  | some last => max s.wall.floor (last + 1)

/-- Mark the command as queued and hand the frame to the transport. -/
def write (s : State) (sid : Nat) (opcode : Int) (data : Bytes) (sender : Sender) (raw : Bytes) :
    State :=
  let marked :=
    match sender with
    | .reader _ => s
    | .command c =>
      match (s.calls c).pending with
      | none => s
      | some pending =>
        s.setCall c { s.calls c with
          pending := some { pending with
            receiveSequence := (s.sessions sid).receiveSequence
            byteBoundary := (s.sessions sid).totalReceived
            sentMonotonic := some s.now
            queued := true } }
  { marked with
    lastOutboundTime := some s.now
    lastOutboundTimestamp := some s.nextTimestamp
    log := s.log ++ [.wrote {
      session := sid
      call := match sender with
        | .reader _ => none
        | .command c => some c
      opcode, data
      allowStale := ((s.pendingOf sender).map Pending.allowStale).getD false
      timestamp := s.nextTimestamp, raw, monotonic := s.now, wall := s.wall }] }

/-- One turn of the loop in `_send`. -/
def sendTurn (config : Config) (s : State) (sid : Nat) (opcode : Int) (data : Bytes)
    (sender : Sender) : Turn :=
  let pending := s.pendingOf sender
  match s.sendGuard config sid opcode data pending with
  | .error error => .raised error
  | .ok () =>
    if s.sendDelay pending ≠ 0 then .pause
    else if s.reportsEnabled opcode pending = false then
      .raised (.commandNotSent "Appliance must report enabled before changing humidity")
    else
      match ({ mac := config.mac, timestamp := s.nextTimestamp, function := 9, opcode, data :
          Frame }).encode with
      | .error text => .raised (.valueError text)
      | .ok raw => .sent (s.write sid opcode data sender raw)

/-- The reader's `finally` block, up to `_close_writer`: the session is given up
and an unanswered command learns that its connection is gone. -/
def failPending (s : State) (sid : Nat) : State :=
  match (s.sessions sid).pending with
  | none => s
  | some c =>
    match (s.calls c).pending with
    | none => s
    | some pending =>
      if pending.future ≠ .pending then s
      else if pending.queued then
        s.setFuture c pending (.exception (uncertain sid pending "disconnected"))
      else
        s.setFuture c pending
          (.exception (.notConnected "Connection closed before the command was queued"))

def release (s : State) (sid : Nat) : State :=
  if s.session = some sid then
    { s with session := none, status := none, log := s.log ++ [.released sid] }
  else s

def setReason (s : State) (sid : Nat) (reason : DisconnectReason) : State :=
  s.setSession sid { s.sessions sid with reason }

def setReadAt (s : State) (sid : Nat) (readAt : ReadAt) : State :=
  s.setSession sid { s.sessions sid with readAt }

/-- Leave the `try` block of `_read_session`, with a new reason unless it ended
without an exception. -/
def endRead (s : State) (sid : Nat) (reason : Option DisconnectReason) : State :=
  let noted := match reason with
    | none => s
    | some reason => s.setReason sid reason
  let noted := if noted.closing then noted.setReason sid .clientClosed else noted
  (((noted.setReadAt sid .closing).release sid).failPending sid).closeWriter sid

/-- `"client_closed" if self._closing else "connection_error"`. -/
def lossReason (s : State) : DisconnectReason :=
  if s.closing then .clientClosed else .connectionError

/-- `while not self._closing`. -/
def continueRead (s : State) (sid : Nat) : State :=
  if s.closing then s.endRead sid none else s.setReadAt sid .reading

/-- Hand a matching later report to the command waiting for it. -/
def confirm (s : State) (sid : Nat) (frame : Frame) (offset : Nat) (status : DeviceStatus) :
    State :=
  match (s.sessions sid).pending with
  | none => s
  | some c =>
    match (s.calls c).pending with
    | none => s
    | some pending =>
      if pending.queued ∧ pending.future = .pending ∧ frame.opcode = pending.opcode ∧
          pending.receiveSequence < (s.sessions sid).receiveSequence ∧
          pending.byteBoundary ≤ offset ∧ status.reading pending.opcode = pending.expected then
        s.setFuture c pending (.result status)
      else s

/-- The `DeviceStatus` the reader builds from a decoded report. -/
def deviceStatus (s : State) (sid : Nat) (frame : Frame) (decoded : ObservedStatus) :
    DeviceStatus :=
  let session := s.sessions sid
  decoded.deviceStatus sid session.receiveSequence session.receivedAt session.receivedMonotonic
    frame.opcode

end State

def Frame.isHeartbeat (frame : Frame) : Bool :=
  frame.function = 9 && frame.opcode = 1 && frame.data = [] && frame.reserved = List.replicate 4 0

def Frame.isReport (frame : Frame) : Bool := frame.function = 7 && frame.data.length = 34

namespace State

/-- Take the next decoded frame out of the loop's list. -/
def takeFrame (s : State) (sid : Nat) (raw : Bytes) (frame : Frame)
    (rest : List (Bytes × Frame)) (status : Option DeviceStatus) : State :=
  (s.setSession sid { s.sessions sid with
    offset := (s.sessions sid).offset + raw.length, frames := rest, verified := true }).emit
    (.frame sid raw frame status)

/-- The body of the loop for a report that decodes. -/
def handleReport (config : Config) (s : State) (sid : Nat) (raw : Bytes) (frame : Frame)
    (rest : List (Bytes × Frame)) (decoded : ObservedStatus) : State :=
  let status := s.deviceStatus sid frame decoded
  let stored := { s.takeFrame sid raw frame rest (some status) with status := some status }
  (stored.confirm sid frame (s.sessions sid).offset status).enqueueCallback config
    ⟨sid, .status status⟩

/-- `for raw, frame in parser.feed(chunk)`: until the frames are used up, a
heartbeat needs an answer, or a report does not decode. -/
def handleFrames (config : Config) (sid : Nat) : List (Bytes × Frame) → State → State
  | [], s => s.continueRead sid
  | (raw, frame) :: rest, s =>
    if frame.isHeartbeat then
      (s.takeFrame sid raw frame rest none).setReadAt sid .heartbeatLock
    else if frame.isReport then
      match observedStatus frame with
      | .error _ => (s.takeFrame sid raw frame rest none).endRead sid (some .invalidFrame)
      | .ok decoded =>
        handleFrames config sid rest (s.handleReport config sid raw frame rest decoded)
    else handleFrames config sid rest (s.takeFrame sid raw frame rest none)

/-- The bookkeeping for a chunk whose frames all decoded. -/
def receiveChunk (s : State) (sid : Nat) (chunk : Bytes) (frames : List (Bytes × Frame))
    (parser : FrameStream) : State :=
  let session := s.sessions sid
  s.setSession sid { session with
    buffer := session.buffer.drop readBytes
    offset := session.receivedBytes - session.parser.buffer.length
    receivedBytes := session.receivedBytes + chunk.length
    receiveSequence := session.receiveSequence + 1
    receivedAt := s.wall, receivedMonotonic := s.now
    parser, frames, readAt := .handling }

/-- `reader.read` returned: one chunk, empty at the end of the stream. -/
def readChunk (config : Config) (s : State) (sid : Nat) : State :=
  let session := s.sessions sid
  let chunk := session.buffer.take readBytes
  if chunk = [] then
    match session.parser.finish with
    | .error _ => s.endRead sid (some .invalidFrame)
    | .ok () => s.endRead sid none
  else
    match session.parser.feed chunk with
    | .error _ => s.endRead sid (some .invalidFrame)
    | .ok (frames, parser) =>
      (s.receiveChunk sid chunk frames parser).handleFrames config sid frames

/-- `_send` answering a heartbeat, with the send lock free. -/
def answerHeartbeat (config : Config) (s : State) (sid : Nat) : State :=
  match s.sendTurn config sid 1 [0] (.reader sid) with
  | .raised (.valueError _) => s.endRead sid (some .invalidFrame)
  | .raised _ => s.endRead sid (some s.lossReason)
  | .pause => s
  | .sent after => { after.setReadAt sid .heartbeatDrain with sendLock := some (.reader sid) }

end State

/-- How an `await` ends for the task suspended in it, unless it was cancelled. -/
inductive Signal where
  | ready
  | timeout
  | failed
deriving DecidableEq

namespace State

/-- Leave an `await` of the reader by a delivered cancellation. -/
def cancelRead (s : State) (sid : Nat) : State :=
  (s.setSession sid { s.sessions sid with cancelling := false }).endRead sid (some s.lossReason)

def resumeReader (config : Config) (s : State) (sid : Nat) (signal : Signal) : Option State :=
  let session := s.sessions sid
  match session.readAt with
  | .reading =>
    if session.cancelling then some (s.cancelRead sid)
    else
      match signal with
      | .ready =>
        if session.buffer = [] ∧ session.eof = false then none else some (s.readChunk config sid)
      | .timeout => some (s.endRead sid (some .idleTimeout))
      | .failed => if session.readError then some (s.endRead sid (some s.lossReason)) else none
  | .heartbeatLock =>
    if session.cancelling then some (s.cancelRead sid)
    else if signal = .ready ∧ s.sendLock = none then some (s.answerHeartbeat config sid)
    else none
  | .heartbeatDrain =>
    let s := { s with sendLock := none }
    if session.cancelling then some (s.cancelRead sid)
    else
      match signal with
      | .ready => some ((s.setReadAt sid .handling).handleFrames config sid session.frames)
      | .timeout => some (s.endRead sid (some .idleTimeout))
      | .failed => some (s.endRead sid (some s.lossReason))
  | .closing =>
    let s := s.setReadAt sid .done
    if session.cancelling then some s
    else some (s.enqueueCallback config ⟨sid, .disconnect session.reason⟩)
  | _ => none

/-- The `finally` block of `_execute_command` and the end of its task. The lock is
released exactly when this task acquired it. -/
def settle (s : State) (c : Nat) (outcome : Outcome) : State :=
  let call := s.calls c
  { s with
    sessions :=
      if call.pending.isSome ∧ (s.sessions call.session).pending = some c then
        Function.update s.sessions call.session { s.sessions call.session with pending := none }
      else s.sessions
    calls := Function.update s.calls c { call with
      execute := .done outcome, cancelling := false, pending := call.pending.map Pending.abandon }
    commandLock := if s.commandLock = some c then none else s.commandLock
    log := s.log ++ [.settled c outcome] }

/-- The handler for `asyncio.CancelledError`. -/
def cancelOutcome (call : Call) : Outcome :=
  match call.pending with
  | some pending =>
    if pending.queued then .raised (uncertain call.session pending "cancelled_or_closed")
    else .raised (.commandNotSent "Local client closed before the command was queued")
  | none => .raised (.commandNotSent "Local client closed before the command was queued")

def futureOutcome : Future → Option Outcome
  | .pending => none
  | .result status => some (.returned status)
  | .exception error => some (.raised error)
  | .cancelled => none

/-- The handler for `TimeoutError` and `OSError`. -/
def timeoutOutcome (call : Call) : Outcome :=
  match call.pending with
  | some pending =>
    match futureOutcome pending.future with
    | some outcome => outcome
    | none =>
      if pending.queued then .raised (uncertain call.session pending "deadline_or_write_failure")
      else .raised (.commandNotSent "Command deadline expired before bytes were queued")
  | none => .raised (.commandNotSent "Command deadline expired before bytes were queued")

/-- `session.pending = pending` for a new record of this command. -/
def register (s : State) (c : Nat) : State :=
  let call := s.calls c
  (s.setCall c { call with
    pending := some {
      opcode := call.command.opcode, expected := call.command.expected
      allowStale := call.command.allowStale }
    execute := .sendLock }).setSession call.session
      { s.sessions call.session with pending := some c }

/-- The command lock is acquired: recheck, then register the pending record. -/
def beginCommand (config : Config) (s : State) (c : Nat) : State :=
  let call := s.calls c
  let locked := { s with commandLock := some c }
  match locked.requireFreshStatus config (some call.session) call.command.staleAllowed with
  | .error error => locked.settle c (.raised error)
  | .ok _ => locked.register c

/-- `_send` for a command, with the send lock free. -/
def sendCommand (config : Config) (s : State) (c : Nat) : State :=
  let call := s.calls c
  match s.sendTurn config call.session call.command.opcode call.command.data (.command c) with
  | .raised error => s.settle c (.raised error)
  | .pause => s.setCall c { call with execute := .pacing }
  | .sent after =>
    { after.setCall c { after.calls c with execute := .draining } with
      sendLock := some (.command c) }

def resumeExecute (config : Config) (s : State) (c : Nat) (signal : Signal) : Option State :=
  let call := s.calls c
  match call.execute with
  | .commandLock =>
    if call.cancelling then some (s.settle c (cancelOutcome call))
    else
      match signal with
      | .ready => if s.commandLock = none then some (s.beginCommand config c) else none
      | .timeout => some (s.settle c (timeoutOutcome call))
      | .failed => none
  | .sendLock =>
    if call.cancelling then some (s.settle c (cancelOutcome call))
    else
      match signal with
      | .ready => if s.sendLock = none then some (s.sendCommand config c) else none
      | .timeout => some (s.settle c (timeoutOutcome call))
      | .failed => none
  | .pacing =>
    if call.cancelling then some (s.settle c (cancelOutcome call))
    else
      match signal with
      | .ready => some (s.setCall c { call with execute := .sendLock })
      | .timeout => some (s.settle c (timeoutOutcome call))
      | .failed => none
  | .draining =>
    let s := { s with sendLock := none }
    if call.cancelling then some (s.settle c (cancelOutcome call))
    else
      match signal with
      | .ready => some (s.setCall c { call with execute := .acknowledgement })
      | .timeout | .failed => some (s.settle c (timeoutOutcome call))
  | .acknowledgement =>
    if call.cancelling then some (s.settle c (cancelOutcome call))
    else
      match signal with
      | .ready =>
        match call.pending with
        | none => none
        | some pending => (futureOutcome pending.future).map (s.settle c)
      | .timeout => some (s.settle c (timeoutOutcome call))
      | .failed => none
  | .created | .done _ => none

/-- A call that fails before `_command` creates its task. -/
def refuseCall (s : State) (request : Request) (error : Error) : State :=
  { s with
    callCount := s.callCount + 1
    calls := Function.update s.calls s.callCount { Call.none with
      execute := .done (.raised error), caller := .ended (.raised error) }
    log := s.log ++ [.called s.callCount request s.session, .ended s.callCount (.raised error)] }

def openCall (s : State) (request : Request) (command : Command) (sid : Nat) : State :=
  { s with
    callCount := s.callCount + 1
    calls := Function.update s.calls s.callCount
      { command, session := sid, execute := .created, caller := .waiting }
    spawned := s.spawned ++ [.command s.callCount]
    log := s.log ++ [.called s.callCount request s.session] }

/-- `async_set_*` up to the first `await` of `_command`. -/
def call (config : Config) (s : State) (request : Request) : State :=
  match request.command with
  | .error text => s.refuseCall request (.valueError text)
  | .ok command =>
    match s.requireFreshStatus config none command.staleAllowed with
    | .error error => s.refuseCall request error
    | .ok sid => s.openCall request command sid

/-- `task.cancel()`; a finished task ignores it. -/
def cancelTask (s : State) (c : Nat) : State :=
  match (s.calls c).execute with
  | .done _ => s
  | _ => (s.setCall c { s.calls c with cancelling := true }).emit (.cancelRequested c)

def endCaller (s : State) (c : Nat) (outcome : Outcome) : State :=
  (s.setCall c { s.calls c with caller := .ended outcome }).emit (.ended c outcome)

/-- A `CancelledError` reaches `_command`: the task is cancelled and drained. -/
def cancelCaller (s : State) (c : Nat) : Option State :=
  let noted := s.emit (.callerCancelled c)
  match (s.calls c).caller, (s.calls c).execute with
  | .ended _, _ => none
  | _, .done _ => some (noted.endCaller c .cancelled)
  | .waiting, _ =>
    let cancelled := noted.cancelTask c
    some (cancelled.setCall c { cancelled.calls c with caller := .draining })
  | .draining, _ => some noted

/-- `asyncio.wait({task})` returned. -/
def resumeCaller (s : State) (c : Nat) : Option State :=
  match (s.calls c).caller, (s.calls c).execute with
  | .waiting, .done outcome => some (s.endCaller c outcome)
  | .draining, .done _ => some (s.endCaller c .cancelled)
  | _, _ => none

/-- `async_close`; a second call only waits for the first. -/
def close (s : State) : Option State :=
  if s.closing then none
  else some { s with
    closing := true, spawned := s.spawned ++ [.cleanup], log := s.log ++ [.closing] }

/-- The connection tasks and command tasks that are not done. -/
def liveReaders (s : State) : List Nat :=
  (List.range' 1 s.sessionCounter).filter fun sid => (s.sessions sid).readAt ≠ .done

def liveCalls (s : State) : List Nat :=
  (List.range s.callCount).filter fun c =>
    match (s.calls c).execute with
    | .done _ => false
    | _ => true

def cancelReader (s : State) (sid : Nat) : State :=
  s.setSession sid { s.sessions sid with cancelling := true }

/-- `for task in tasks: task.cancel()`. -/
def cancelTasks (s : State) : State :=
  s.liveCalls.foldl cancelTask (s.liveReaders.foldl cancelReader s)

/-- `_cleanup` up to `gather`. -/
def beginCleanup (s : State) : State :=
  let begun : State := { s with cleanup := .gathering }
  (begun.liveReaders.foldl closeWriter begun).cancelTasks

/-- `self._last_status = None` at the end of the cleanup. -/
def forgetStatus (s : State) : State := { s with status := none, log := s.log ++ [.cleaned] }

/-- `_cleanup` after `gather` returned or timed out. -/
def finishCleanup (s : State) : State :=
  let finished : State := { s with cleanup := .finished }
  let aborted := finished.liveReaders.foldl closeWriter finished
  let forgotten :=
    match aborted.session with
    | none => aborted
    | some sid => aborted.release sid
  forgotten.forgetStatus.discardQueuedStatuses

/-- First step of the oldest created task. A cancelled task never enters its body. -/
def startTask (s : State) : Option State :=
  match s.spawned with
  | [] => none
  | .reader sid :: rest =>
    let s := { s with spawned := rest }
    some (if (s.sessions sid).cancelling then s.setReadAt sid .done else s.continueRead sid)
  | .command c :: rest =>
    let s := { s with spawned := rest }
    some (if (s.calls c).cancelling then s.settle c .cancelled
      else s.setCall c { s.calls c with execute := .commandLock })
  | .cleanup :: rest => some { s with spawned := rest }.beginCleanup

def feed (s : State) (sid : Nat) (bytes : Bytes) : State :=
  (s.setSession sid { s.sessions sid with
    buffer := (s.sessions sid).buffer ++ bytes
    totalReceived := (s.sessions sid).totalReceived + bytes.length }).emit (.fed sid bytes)

def dispatch (s : State) : Option State :=
  match s.callbacks with
  | [] => none
  | entry :: rest =>
    if s.dispatching.isSome ∨ s.dispatcherStopped then none
    else some { s with
      callbacks := rest, dispatching := some entry, log := s.log ++ [.dispatched entry] }

/-- The callback returned, or it raised or timed out. -/
def finishCallback (s : State) (failed : Bool) : Option State :=
  match s.dispatching with
  | none => none
  | some entry =>
    let idle := { s with dispatching := none }
    some (if failed then idle.failCallback entry else idle)

end State

inductive Label where
  | tick (elapsed : ℚ)
  | setWall (wall : ℚ)
  | accept (peer : Option String)
  | feed (session : Nat) (bytes : Bytes)
  | feedEof (session : Nat)
  | lose (session : Nat) (failed : Bool)
  | start
  | reader (session : Nat) (signal : Signal)
  | execute (call : Nat) (signal : Signal)
  | call (request : Request)
  | cancelCaller (call : Nat)
  | resumeCaller (call : Nat)
  | close
  | recancel
  | finishCleanup
  | stopDispatcher
  | dispatch
  | finishCallback (failed : Bool)
deriving DecidableEq

/-- Sessions and calls that exist. -/
def State.knows (s : State) (sid : Nat) : Bool := 0 < sid && sid ≤ s.sessionCounter

def step (config : Config) (s : State) : Label → Option State
  | .tick elapsed => if 0 ≤ elapsed then some { s with now := s.now + elapsed } else none
  | .setWall wall => if 0 ≤ wall then some { s with wall } else none
  | .accept peer => some (s.accept config peer)
  | .feed sid bytes =>
    if s.knows sid ∧ (s.sessions sid).isClosing = false ∧ (s.sessions sid).eof = false then
      some (s.feed sid bytes)
    else none
  | .feedEof sid =>
    if s.knows sid then some (s.setSession sid { s.sessions sid with eof := true }) else none
  | .lose sid failed =>
    if s.knows sid then
      some ((s.setSession sid { s.sessions sid with
        eof := (s.sessions sid).eof || !failed
        readError := (s.sessions sid).readError || failed }).closeWriter sid)
    else none
  | .start => s.startTask
  | .reader sid signal => if s.knows sid then s.resumeReader config sid signal else none
  | .execute c signal => if c < s.callCount then s.resumeExecute config c signal else none
  | .call request => some (s.call config request)
  | .cancelCaller c => if c < s.callCount then s.cancelCaller c else none
  | .resumeCaller c => if c < s.callCount then s.resumeCaller c else none
  | .close => s.close
  | .recancel => if s.cleanup = .gathering then some s.cancelTasks else none
  | .finishCleanup => if s.cleanup = .gathering then some s.finishCleanup else none
  | .stopDispatcher =>
    if s.cleanup = .finished then some { s with dispatcherStopped := true } else none
  | .dispatch => s.dispatch
  | .finishCallback failed => s.finishCallback failed

def client (config : Config) : Async.System State Label where
  initial s := ∃ now wall, 0 ≤ wall ∧ s = State.start config now wall
  step := step config

end AlorairLite.Local
