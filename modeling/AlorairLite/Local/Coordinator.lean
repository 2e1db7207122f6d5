import AlorairLite.Local.Client

/-! The local coordinator (`local_coordinator.py`) over its client. The clock, the
wire and the tasks of the client are its client's; a step of the coordinator is the
code between two of its own `await`s, with the client calls inside it. `log` is a
history variable that no definition reads. -/

namespace AlorairLite.Local

def minimumOffSeconds : Int := 180

def pendingSeconds : ℚ := 300

/-- `STATUS_MAX_AGE` of the coordinator. -/
def publishedMaxAge : ℚ := 35

/-- A Python value in the arguments of a command. -/
inductive Value where
  | bool (value : Bool)
  | int (value : Int)
  | text (value : String)
  | other
deriving DecidableEq

inductive Key where
  | powerStatus
  | temperatureUnit
  | currentHumidity
deriving DecidableEq

def Key.all : List Key := [.powerStatus, .temperatureUnit, .currentHumidity]

/-- `"01" if flag is True else "00" if flag is False else None`. -/
def switchCode : Option Bool → Option String
  | some true => some "01"
  | some false => some "00"
  | none => none

/-- The published dictionary; both of its times are the receipt of the report. -/
structure Data where
  powerStatus : Option String
  drainStatus : Option String
  temperatureUnit : Option Int
  currentHumidity : Option Int
  inHumidity : Option Int
  outHumidity : Option Int
  inCelsius : Option Int
  outCelsius : Option Int
  inGkg : Nat
  outGkg : Nat
  inGrlb : Nat
  outGrlb : Nat
  observedAt : ℚ
deriving DecidableEq

def DeviceStatus.data (status : DeviceStatus) : Data where
  powerStatus := switchCode status.power
  drainStatus := switchCode status.draining
  temperatureUnit := match status.temperatureUnit with
    | .celsius => some 0
    | .fahrenheit => some 1
  currentHumidity := status.targetHumidity
  inHumidity := status.inletHumidity
  outHumidity := status.outletHumidity
  inCelsius := status.inletCelsius
  outCelsius := status.outletCelsius
  inGkg := status.inletGkg
  outGkg := status.outletGkg
  inGrlb := status.inletGrlb
  outGrlb := status.outletGrlb
  observedAt := status.receivedAt

/-- `self.data.get(key)`, with the unit as its command names it. -/
def Data.actual (data : Data) : Key → Option Value
  | .powerStatus => data.powerStatus.map .text
  | .temperatureUnit =>
    if data.temperatureUnit = some 0 then some (.text "00")
    else if data.temperatureUnit = some 1 then some (.text "01")
    else none
  | .currentHumidity => data.currentHumidity.map .int

/-- What leaves `async_command` as an exception. -/
inductive CommandError where
  | homeAssistant (text : String)
  | serviceValidation (text : String)
  | valueError (text : String)
  | cancelled
deriving DecidableEq

/-- An accepted command. -/
structure Order where
  action : String
  opcode : Int
  key : Key
  wanted : Value
  request : Request
  requiresOn : Bool
deriving DecidableEq

/-- `_validate_command`, with the client call the arguments stand for. -/
def validateCommand (method : String) (args : List Value) (key : String) (wanted : Value)
    (requiresOn : Bool) : Except CommandError Order :=
  let unsupported := .error (.serviceValidation "This local command or parameter is not supported")
  match args with
  | [.bool on] =>
    if method = "async_set_power" ∧ key = "powerStatus" ∧
        wanted = .text (if on then "01" else "00") then
      .ok ⟨"set_power", 0x21, .powerStatus, wanted, .setPower on, requiresOn⟩
    else unsupported
  | [.text unit] =>
    if method = "async_set_temperature_unit" ∧ (unit = "celsius" ∨ unit = "fahrenheit") ∧
        key = "temperatureUnit" ∧ wanted = .text (if unit = "fahrenheit" then "01" else "00") then
      .ok ⟨"set_temperature_unit", 0x24, .temperatureUnit, wanted,
        .setTemperatureUnit (if unit = "fahrenheit" then .fahrenheit else .celsius), requiresOn⟩
    else unsupported
  | [.int target] =>
    if method = "async_set_humidity" ∧ key = "currentHumidity" ∧ wanted = .int target ∧
        (target = 20 ∨ 25 ≤ target ∧ target ≤ 80 ∧ target % 5 = 0) then
      .ok ⟨"set_humidity", 0x23, .currentHumidity, wanted, .setHumidity target false, requiresOn⟩
    else unsupported
  | _ => unsupported

def Order.starting (order : Order) : Bool := order.opcode = 0x21 && order.wanted = .text "01"

def Order.stopping (order : Order) : Bool := order.opcode = 0x21 && order.wanted = .text "00"

inductive FeedbackStatus where
  | awaitingFeedback
  | deliveryUncertain
  | rejected
  | deviceReported
  | notObserved
deriving DecidableEq

/-- `LocalCommandFeedback`. -/
structure Feedback where
  action : String
  status : FeedbackStatus
  issuedAt : ℚ
  deadline : ℚ
  field : Key
  requested : Value
  acknowledged : Bool := false
  reportedAt : Option ℚ := none
deriving DecidableEq

/-- `LocalPendingCommand`. -/
structure PendingCommand where
  wanted : Value
  deadline : ℚ
  issuedMonotonic : ℚ
deriving DecidableEq

/-- How the client call of a command was judged. -/
inductive Verdict where
  | reported (status : DeviceStatus)
  | uncertain
  | rejected
  | failed (error : CommandError)
deriving DecidableEq

/-- The client call went out: it returned a status or its delivery is uncertain. -/
def Verdict.sent : Verdict → Bool
  | .reported _ | .uncertain => true
  | .rejected | .failed _ => false

/-- Where the task of a command is suspended. -/
inductive OrderAt where
  /-- `async with self.command_lock`. -/
  | waiting
  /-- In the client call, under `asyncio.timeout`. -/
  | calling (call : Nat)
  | done (error : Option CommandError)
deriving DecidableEq

def OrderAt.isDone : OrderAt → Bool
  | .done _ => true
  | _ => false

structure OrderTask where
  order : Order
  phase : OrderAt := .waiting
  issued : ℚ := 0
  /-- The timer of `asyncio.timeout` fired. -/
  expired : Bool := false
  /-- The task was cancelled from outside. -/
  cancelled : Bool := false
deriving DecidableEq

inductive UnloadAt where
  | idle
  /-- `gather` over the commands that are not done. -/
  | draining
  /-- `self.client.async_close()`. -/
  | stopping
  | done
deriving DecidableEq

/-- What can be observed of the coordinator. -/
inductive Action where
  | observed (entry : Callback)
  | published (status : DeviceStatus)
  | issued (order : Nat) (key : Key) (wanted : Value) (monotonic : ℚ)
  | concluded (order : Nat) (verdict : Verdict)
deriving DecidableEq

structure Coordinator where
  client : State
  /-- The option that enables local power. -/
  localPower : Bool := false
  data : Option Data := none
  lastUpdateSuccess : Bool := false
  pending : Key → Option PendingCommand := fun _ => none
  lastCommand : Option Feedback := none
  lastAutoHumidity : Int := 50
  sessionId : Option Nat := none
  receiveSequence : Int := -1
  receivedMonotonic : Option ℚ := none
  previousOn : Option Bool := none
  lastOff : ℚ
  closing : Bool := false
  commandLock : Option Nat := none
  orderCount : Nat := 0
  orders : Nat → OrderTask
  watchdogStopped : Bool := false
  unload : UnloadAt := .idle
  log : List Action := []

/-- No command: what `orders` holds beyond the commands that exist. -/
def OrderTask.none : OrderTask :=
  { order := ⟨"", 0, .powerStatus, .other, .setPower false, false⟩, phase := .done .none }

def Coordinator.start (config : Config) (now wall : ℚ) (localPower : Bool) : Coordinator :=
  { client := State.start config now wall, localPower, lastOff := now, orders := fun _ => .none }

/-- The coordinator gives its client both callbacks. -/
def Config.coordinated (config : Config) : Config :=
  { config with onStatus := true, onDisconnect := true }

namespace Coordinator

def record (u : Coordinator) (action : Action) : Coordinator := { u with log := u.log ++ [action] }

def statusStale (u : Coordinator) : Bool :=
  u.closing || !u.client.connected ||
    match u.client.lastStatus, u.receivedMonotonic with
    | some current, some received =>
      some current.sessionId ≠ u.sessionId ∨
        ¬ (0 ≤ u.client.now - received ∧ u.client.now - received ≤ publishedMaxAge)
    | _, _ => true

/-- `pending_power`: the wanted state of an unexpired power command. -/
def pendingPower (u : Coordinator) : Option Bool :=
  match u.pending .powerStatus with
  | none => none
  | some pending =>
    if u.client.now < pending.deadline then some (pending.wanted ≠ .text "00") else none

/-- `int(value)`: rounding towards zero. -/
def truncate (value : ℚ) : Int := if 0 ≤ value then value.floor else value.ceil

def restartDelayRemaining (u : Coordinator) : Int :=
  if u.pendingPower = some false then minimumOffSeconds
  else if u.data.bind Data.powerStatus = some "01" ∧ u.statusStale = false then 0
  else max 0 (truncate (minimumOffSeconds - (u.client.now - u.lastOff) + 999 / 1000))

/-- The first test of `_on_status`. -/
def ignores (u : Coordinator) (status : DeviceStatus) : Bool :=
  u.closing || !u.client.connected ||
    match u.client.lastStatus with
    | none => true
    | some current =>
      current.sessionId ≠ status.sessionId ||
        (match u.sessionId with
          | none => false
          | some session => status.sessionId < session) ||
        (current.receiveSequence = status.receiveSequence ∧
          current.receivedMonotonic = status.receivedMonotonic ∧ current ≠ status)

/-- A report of a new session starts over. -/
def enterSession (u : Coordinator) (status : DeviceStatus) : Coordinator :=
  if some status.sessionId ≠ u.sessionId then
    { u with
      sessionId := some status.sessionId, receiveSequence := -1, receivedMonotonic := none
      previousOn := none, lastOff := u.client.now }
  else u

/-- The second test of `_on_status`. -/
def outdated (u : Coordinator) (status : DeviceStatus) : Bool :=
  status.receiveSequence < u.receiveSequence ||
    match u.receivedMonotonic with
    | none => false
    | some received => status.receivedMonotonic < received

/-- The rest of `_on_status`. -/
def publish (u : Coordinator) (status : DeviceStatus) : Coordinator :=
  let published : Coordinator := { u with
    lastOff := if status.power = some false ∧ u.previousOn ≠ some false then u.client.now
      else u.lastOff
    previousOn := status.power
    receiveSequence := status.receiveSequence
    receivedMonotonic := some status.receivedMonotonic
    lastAutoHumidity := match status.targetHumidity with
      | some target => if 25 ≤ target then target else u.lastAutoHumidity
      | none => u.lastAutoHumidity
    data := some status.data
    lastUpdateSuccess := true
    log := u.log ++ [.published status] }
  if published.statusStale then { published with lastUpdateSuccess := false } else published

/-- `_on_status` publishes this report. -/
def accepts (u : Coordinator) (status : DeviceStatus) : Bool :=
  !u.ignores status && !(u.enterSession status).outdated status

def onStatus (u : Coordinator) (status : DeviceStatus) : Coordinator :=
  if u.ignores status then u
  else
    let entered := u.enterSession status
    if entered.outdated status then entered else entered.publish status

def onDisconnect (u : Coordinator) (session : Nat) : Coordinator :=
  if u.closing ∨ u.sessionId ≠ some session then u
  else { u with
    receivedMonotonic := none, previousOn := none, lastOff := u.client.now
    lastUpdateSuccess := false }

/-- The callback of a notification, which does not suspend. -/
def observe (u : Coordinator) (entry : Callback) : Coordinator :=
  let noted : Coordinator :=
    { u.record (.observed entry) with client := { u.client with dispatching := none } }
  match entry.notice with
  | .status status => noted.onStatus status
  | .disconnect _ => noted.onDisconnect entry.session

/-- The dispatcher of the client takes the next notification and runs its callback. -/
def dispatch (u : Coordinator) : Option Coordinator :=
  u.client.dispatch.bind fun client =>
    client.dispatching.map ({ u with client } : Coordinator).observe

def setFeedback (u : Coordinator) (status : FeedbackStatus) : Coordinator :=
  { u with lastCommand := u.lastCommand.map fun feedback => { feedback with status } }

/-- One round of `_watchdog`. -/
def watch (u : Coordinator) : Coordinator :=
  let expired (key : Key) : Bool :=
    match u.pending key with
    | none => false
    | some pending => pending.deadline ≤ u.client.now
  let dropped : Coordinator := { u with
    pending := fun key => if expired key then none else u.pending key
    lastCommand := u.lastCommand.map fun feedback =>
      if expired feedback.field then { feedback with status := .notObserved } else feedback }
  if dropped.statusStale ∧ dropped.lastUpdateSuccess then { dropped with lastUpdateSuccess := false }
  else dropped

/-- `_async_update_data`, with Home Assistant's record of its success. -/
def refresh (u : Coordinator) : Coordinator := { u with lastUpdateSuccess := !u.statusStale }

/-- How the checks of `_async_command` end once the lock is held. -/
inductive Admission where
  | refused (error : CommandError)
  /-- The published state already is the wanted one. -/
  | satisfied
  | admitted
deriving DecidableEq

def admission (u : Coordinator) (order : Order) : Admission :=
  let power := u.data.bind Data.powerStatus
  let actual := u.data.bind (·.actual order.key)
  if u.closing then
    .refused (.homeAssistant "ALORAIR is unloading; the queued command was not sent")
  else if u.client.connected = false then
    .refused (.serviceValidation "A verified local device connection is required")
  else if order.starting ∧ u.localPower = false then
    .refused (.serviceValidation "Enable experimental local power in the integration options first")
  else if order.stopping = false ∧ u.statusStale then
    .refused (.serviceValidation "Fresh local device status is required before this command")
  else if order.starting ∧ power ≠ some "00" ∧ power ≠ some "01" then
    .refused (.serviceValidation "A known local power state is required before starting")
  else if (order.requiresOn ∨ order.opcode = 0x23) ∧ power ≠ some "01" then
    .refused (.serviceValidation "Turn the dehumidifier on before changing this setting")
  else if (match u.pending order.key with
      | none => false
      | some pending => u.client.now < pending.deadline ∧ pending.wanted = order.wanted) then
    .refused (.serviceValidation
      "The previous request's delivery is uncertain; no retry was sent. Wait for the pending request to expire and check fresh device status.")
  else if actual = some order.wanted ∧ u.pending order.key = none ∧ u.statusStale = false then
    .satisfied
  else if order.starting ∧ u.restartDelayRemaining ≠ 0 then
    .refused (.serviceValidation "Compressor restart protection is active; wait three minutes")
  else .admitted

/-- The command is recorded as pending before its client call. -/
def issue (u : Coordinator) (k : Nat) : Coordinator :=
  let task := u.orders k
  let order := task.order
  let issued := u.client.now
  { u with
    pending := Function.update u.pending order.key
      (some ⟨order.wanted, issued + pendingSeconds, issued⟩)
    lastCommand := some {
      action := order.action, status := .awaitingFeedback, issuedAt := u.client.wall
      deadline := issued + pendingSeconds, field := order.key, requested := order.wanted }
    lastOff := if order.stopping then issued else u.lastOff
    orders := Function.update u.orders k { task with issued }
    log := u.log ++ [.issued k order.key order.wanted issued] }

end Coordinator

/-- How a call ended, once it has returned to its caller. -/
def State.callEnd (s : State) (c : Nat) : Option Outcome :=
  match (s.calls c).caller with
  | .ended outcome => some outcome
  | _ => none

/-- What a request asks for, as a status shows it: `args[0]`. -/
def Request.setting : Request → Setting
  | .setPower on => .power (some on)
  | .setTemperatureUnit unit => .unit unit
  | .setHumidity target _ => .humidity (some target)

/-- The branch of `_async_command` that the end of the client call leads to. -/
def OrderTask.verdict (task : OrderTask) : Outcome → Verdict
  | .returned status =>
    if status.eventOpcode ≠ task.order.opcode ∨
        status.reading task.order.opcode ≠ task.order.request.setting ∨
        status.receivedMonotonic < task.issued then .uncertain
    else .reported status
  | .raised (.commandUncertain _ _ _ _ _) => .uncertain
  | .raised (.valueError text) => .failed (.valueError text)
  | .raised _ => .rejected
  | .cancelled => if task.expired ∧ task.cancelled = false then .uncertain else .failed .cancelled

def Verdict.error : Verdict → Option CommandError
  | .reported _ => none
  | .uncertain => some (.homeAssistant "Local command delivery is uncertain; it was not retried")
  | .rejected => some (.homeAssistant "Local command was not sent")
  | .failed error => some error

namespace Coordinator

/-- The `else` branch: a report confirmed the command. -/
def confirmReport (u : Coordinator) (order : Order) (status : DeviceStatus) : Coordinator :=
  let confirmed : Coordinator := { u with
    pending := Function.update u.pending order.key none
    lastCommand := u.lastCommand.map fun feedback => { feedback with
      status := .deviceReported, acknowledged := true, reportedAt := some status.receivedAt }
    lastOff := if order.stopping then u.client.now else u.lastOff }
  match u.client.lastStatus with
  | none => confirmed
  | some latest =>
    ({ confirmed with
      lastOff :=
        if order.starting ∧ latest.sessionId = status.sessionId ∧
            status.receiveSequence ≤ latest.receiveSequence ∧
            status.receivedMonotonic ≤ latest.receivedMonotonic ∧ latest.power = some false then
          u.client.now
        else confirmed.lastOff } : Coordinator).onStatus latest

/-- The client call of a command has ended: handle it and release the lock. -/
def conclude (u : Coordinator) (k : Nat) (verdict : Verdict) : Coordinator :=
  let order := (u.orders k).order
  let handled :=
    match verdict with
    | .reported status => u.confirmReport order status
    | .uncertain => u.setFeedback .deliveryUncertain
    | .rejected =>
      { u.setFeedback .rejected with pending := Function.update u.pending order.key none }
    | .failed _ => u
  { handled with
    commandLock := none
    orders := Function.update u.orders k { u.orders k with phase := .done verdict.error }
    log := handled.log ++ [.concluded k verdict] }

/-- Go on where the client call stands: its end is handled in the same step. -/
def afterCall (u : Coordinator) (k call : Nat) : Coordinator :=
  match u.client.callEnd call with
  | some outcome => u.conclude k ((u.orders k).verdict outcome)
  | none => u

def endOrder (u : Coordinator) (k : Nat) (error : Option CommandError) : Coordinator :=
  { u with orders := Function.update u.orders k { u.orders k with phase := .done error } }

/-- The client call of an admitted command, up to its first suspension. -/
def beginCall (config : Config) (u : Coordinator) (k : Nat) : Coordinator :=
  let issued := u.issue k
  { issued with
    client := issued.client.call config.coordinated (u.orders k).order.request
    commandLock := some k
    orders := Function.update issued.orders k
      { issued.orders k with phase := .calling u.client.callCount } }

/-- `_async_command` with the lock acquired, up to the client call or its end. -/
def runCommand (config : Config) (u : Coordinator) (k : Nat) : Coordinator :=
  match u.admission (u.orders k).order with
  | .refused error => u.endOrder k (some error)
  | .satisfied => u.endOrder k none
  | .admitted => (u.beginCall config k).afterCall k u.client.callCount

/-- `async_command` up to the creation of its task. -/
def command (u : Coordinator) (order : Except CommandError Order) : Coordinator :=
  match order with
  | .error _ => u
  | .ok order =>
    if u.closing then u
    else { u with
      orderCount := u.orderCount + 1
      orders := Function.update u.orders u.orderCount { order } }

/-- `task.cancel()` on the task of a command, by its timer or from outside. -/
def markCancelled (u : Coordinator) (k : Nat) (expired : Bool) : Coordinator :=
  let task := u.orders k
  { u with orders := Function.update u.orders k { task with
      expired := task.expired || expired, cancelled := task.cancelled || !expired } }

def cancelOrder (u : Coordinator) (k : Nat) (expired : Bool) : Option Coordinator :=
  match (u.orders k).phase with
  | .waiting => if expired then none else some (u.endOrder k (some .cancelled))
  | .calling call =>
    if expired ∧ (u.orders k).expired then none
    else (u.client.cancelCaller call).map fun client =>
      ({ u.markCancelled k expired with client } : Coordinator).afterCall k call
  | .done _ => none

/-- The client call returned. -/
def resumeOrder (u : Coordinator) (k : Nat) : Option Coordinator :=
  match (u.orders k).phase with
  | .calling call => (u.client.resumeCaller call).map fun client =>
    ({ u with client } : Coordinator).afterCall k call
  | _ => none

/-- `_finish_unload` once every command is done. -/
def closeClient (u : Coordinator) : Option Coordinator :=
  if u.unload = .draining ∧ ∀ k < u.orderCount, (u.orders k).phase.isDone then
    some { u with
      watchdogStopped := true, unload := .stopping
      client := u.client.close.getD u.client }
  else none

end Coordinator

/-- Steps of the client that no code of the coordinator takes. -/
def Label.ofTransport : Label → Bool
  | .call _ | .cancelCaller _ | .resumeCaller _ | .close | .dispatch | .finishCallback _ => false
  | _ => true

inductive Coordinator.Label where
  | client (label : Local.Label)
  | dispatch
  | setOption (enabled : Bool)
  | command (method : String) (args : List Value) (key : String) (wanted : Value)
      (requiresOn : Bool)
  | proceed (order : Nat)
  | resume (order : Nat)
  | expire (order : Nat)
  | cancel (order : Nat)
  | watch
  | refresh
  | unload
  | closeClient
  | unloaded
deriving DecidableEq

def Coordinator.step (config : Config) (u : Coordinator) : Coordinator.Label → Option Coordinator
  | .client label =>
    if label.ofTransport then
      (Local.step config.coordinated u.client label).map fun client => { u with client }
    else none
  | .dispatch => u.dispatch
  | .setOption enabled => some { u with localPower := enabled }
  | .command method args key wanted requiresOn =>
    some (u.command (validateCommand method args key wanted requiresOn))
  | .proceed k =>
    if k < u.orderCount ∧ (u.orders k).phase = .waiting ∧ u.commandLock = none then
      some (u.runCommand config k)
    else none
  | .resume k => u.resumeOrder k
  | .expire k => u.cancelOrder k true
  | .cancel k => u.cancelOrder k false
  | .watch => if u.watchdogStopped then none else some u.watch
  | .refresh => some u.refresh
  | .unload => some { u with
      closing := true, unload := if u.unload = .idle then .draining else u.unload }
  | .closeClient => u.closeClient
  | .unloaded =>
    if u.unload = .stopping ∧ u.client.cleanup = .finished ∧ u.client.dispatcherStopped then
      some { u with unload := .done, lastUpdateSuccess := false }
    else none

/-- The coordinator with its client, from its construction on. -/
def coordinator (config : Config) : Async.System Coordinator Coordinator.Label where
  initial u := ∃ now wall localPower, 0 ≤ wall ∧ u = Coordinator.start config now wall localPower
  step := Coordinator.step config

end AlorairLite.Local
