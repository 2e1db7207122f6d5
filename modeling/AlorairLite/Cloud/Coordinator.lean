import AlorairLite.Async.Schedule
import AlorairLite.Cloud.Data

/-! The cloud coordinator (`coordinator.py`) as coroutines over its attributes. The
client's calls are asked of the outside world, which answers them whenever and however it
likes; `refresh` is Home Assistant's round of a poll. Listeners are left out. -/

namespace AlorairLite.Cloud

open Async

def minimumOffSeconds : Int := 180

def pendingSeconds : ℚ := 300

def commandTimeoutSeconds : ℚ := 120

/-- `EXPERIMENTAL_MUTATION_ACTIONS`. -/
def mutationActions : List String := ["rename", "location", "extend_filter", "reset_filter"]

/-- A method of the client that sends a command, with its arguments. -/
inductive Request where
  | setPower (on : Bool)
  | setHumidity (humidity : Int)
  | purge
  | setLocate (on : Bool)
  | setTemperatureUnit (unit : String)
  | setMoistureUnit (unit : String)
deriving DecidableEq

/-- `method.removeprefix("async_")`. -/
def Request.action : Request → String
  | .setPower _ => "set_power"
  | .setHumidity _ => "set_humidity"
  | .purge => "purge"
  | .setLocate _ => "set_locate"
  | .setTemperatureUnit _ => "set_temperature_unit"
  | .setMoistureUnit _ => "set_moisture_unit"

/-- The value a command asks for, as the code compares it. -/
inductive Wanted where
  | code (text : String)
  | level (value : Int)
deriving DecidableEq

/-- The arguments of `async_command`. -/
structure Order where
  request : Request
  key : String
  wanted : Wanted
  requiresOn : Bool := false
deriving DecidableEq

def Order.starting (order : Order) : Bool :=
  order.key = "powerStatus" && order.wanted = .code "01"

def Order.stopping (order : Order) : Bool :=
  order.key = "powerStatus" && order.wanted = .code "00"

/-- The entities' calls of `async_command`. -/
inductive Control where
  | power (on : Bool)
  | humidity (target : Int)
  | locate (on : Bool)
  | purge
  | temperatureUnit (fahrenheit : Bool)
  | moistureUnit (metric : Bool)

def onOff (on : Bool) : Wanted := .code (if on then "01" else "00")

def Control.order : Control → Order
  | .power on => ⟨.setPower on, "powerStatus", onOff on, false⟩
  | .humidity target => ⟨.setHumidity target, "currentHumidity", .level target, true⟩
  | .locate on => ⟨.setLocate on, "locateFunction", onOff on, on⟩
  | .purge => ⟨.purge, "drainStatus", .code "01", true⟩
  | .temperatureUnit fahrenheit =>
    ⟨.setTemperatureUnit (if fahrenheit then "fahrenheit" else "celsius"), "temperatureUnit",
      onOff fahrenheit, false⟩
  | .moistureUnit metric =>
    ⟨.setMoistureUnit (if metric then "grams_per_kilogram" else "grains_per_pound"), "humidityUnit",
      onOff metric, false⟩

/-- What leaves a call of the client. `AlorairError` and `ProtocolError` are handled alike. -/
inductive ClientError where
  | authentication
  | cannotConnect
  | command (outcomeUnknown : Bool)
  | protocol
  | timeout
  | unexpected
deriving DecidableEq

/-- The command was not carried out for sure. -/
def ClientError.definitive : ClientError → Bool
  | .authentication | .command false | .protocol => true
  | _ => false

inductive Interrupt where
  | cancel
  /-- `asyncio.timeout` cancels what it encloses. -/
  | deadline
deriving DecidableEq

/-- What leaves a method of the coordinator. -/
inductive Failure where
  | homeAssistant (text : String)
  | serviceValidation (text : String)
  | authFailed (text : String)
  | updateFailed (text : String)
  | timeout
  | unexpected
  | interrupted (reason : Interrupt)
deriving DecidableEq

structure PendingCommand where
  wanted : Wanted
  deadline : ℚ
  issuedAt : ℚ
  baseline : Option ℚ
deriving DecidableEq

inductive FeedbackStatus where
  | awaitingFeedback
  | awaitingResponse
  | cloudAcknowledged
  | deviceReported
  | notObserved
  | deliveryUncertain
  | rejected
deriving DecidableEq

structure CommandFeedback where
  action : String
  status : FeedbackStatus
  issuedAt : ℚ
  deadline : ℚ
  field : Option String := none
  requested : Option Wanted := none
  acknowledged : Bool := false
  reportedAt : Option ℚ := none
deriving DecidableEq

/-- The clocks, the attributes of the coordinator and the feedback objects it created.
`built` is a history variable that no definition reads. -/
structure Coordinator where
  now : ℚ
  wall : ℚ
  built : ℚ
  /-- The option that enables experimental controls. -/
  experimental : Bool := false
  data : Option Dict := none
  lastUpdateSuccess : Bool := true
  pending : String → Option PendingCommand := fun _ => none
  lastOff : ℚ
  previousOn : Option Bool := none
  lastAutoHumidity : Int := 50
  closing : Bool := false
  commandLock : Lock := {}
  commandTasks : List Nat := []
  lastCommand : Option Nat := none
  feedbackCount : Nat := 0
  feedbacks : Nat → CommandFeedback
  /-- When the `asyncio.timeout` around a task expires. -/
  deadlines : Nat → Option ℚ := fun _ => none

/-- What `feedbacks` holds beyond the objects that exist. -/
def CommandFeedback.none : CommandFeedback :=
  { action := "", status := .awaitingResponse, issuedAt := 0, deadline := 0 }

namespace Coordinator

def start (now wall : ℚ) : Coordinator :=
  { now, wall, built := now, lastOff := now, feedbacks := fun _ => .none }

/-- `self.data`, unless it is absent or empty. -/
def present (s : Coordinator) : Option Dict :=
  match s.data with
  | none | some [] => none
  | some data => some data

def statusStale (s : Coordinator) : Bool :=
  match s.present.bind utcSample with
  | none => true
  | some sampled => s.wall - sampled < -60 || 300 < s.wall - sampled

/-- `pending_power`: the wanted state of an unexpired power command. -/
def pendingPower (s : Coordinator) : Option Bool :=
  match s.pending "powerStatus" with
  | none => none
  | some item => if s.now < item.deadline then some (item.wanted ≠ .code "00") else none

/-- `int(value)`: rounding towards zero. -/
def truncate (value : ℚ) : Int := if 0 ≤ value then value.floor else value.ceil

def restartDelayRemaining (s : Coordinator) : Int :=
  if s.pendingPower = some false then minimumOffSeconds
  else if s.present.bind powered = some true then 0
  else max 0 (truncate (minimumOffSeconds - (s.now - s.lastOff) + 999 / 1000))

end Coordinator

/-- `actual == wanted` for the value that the data has under this key. -/
def shows (data : Dict) (key : String) (wanted : Wanted) : Bool :=
  match wanted with
  | .code text => key ≠ "currentHumidity" && code data key = some text
  | .level value => key = "currentHumidity" && numberOf data key = some (value : ℚ)

/-- `matches` of a poll: the unit may report that it is enabled in another way. -/
def fulfils (data : Dict) (on : Bool) (key : String) (wanted : Wanted) : Bool :=
  shows data key wanted || (key = "powerStatus" && wanted = .code "01" && on)

/-- `newer` of a poll. -/
def newer (data : Dict) (entry : PendingCommand) : Bool :=
  match utcSample data with
  | none => false
  | some sampled => entry.issuedAt ≤ sampled &&
    match entry.baseline with
    | none => true
    | some baseline => baseline < sampled

/-- What a poll does with a pending command. -/
inductive Resolution where
  | kept
  | reported
  | expired
deriving DecidableEq

namespace Coordinator

def resolution (s : Coordinator) (data : Dict) (on : Bool) (key : String) (entry : PendingCommand) :
    Resolution :=
  if fulfils data on key entry.wanted && newer data entry then .reported
  else if entry.deadline ≤ s.now then .expired
  else .kept

/-- The pending command that the last command's feedback is about, with its key. -/
def answering (s : Coordinator) : Option (Nat × String × PendingCommand) :=
  s.lastCommand.bind fun k => (s.feedbacks k).field.bind fun key =>
    (s.pending key).bind fun entry =>
      if (s.feedbacks k).issuedAt = entry.issuedAt then some (k, key, entry) else none

def setFeedback (s : Coordinator) (k : Nat) (feedback : CommandFeedback) : Coordinator :=
  { s with feedbacks := Function.update s.feedbacks k feedback }

def setStatus (s : Coordinator) (k : Nat) (status : FeedbackStatus) : Coordinator :=
  s.setFeedback k { s.feedbacks k with status }

/-- What a poll writes into the feedback of the last command. -/
def judge (s : Coordinator) (data : Dict) (on : Bool) : Coordinator :=
  match s.answering with
  | none => s
  | some (k, key, entry) =>
    match s.resolution data on key entry with
    | .kept => s
    | .expired => s.setStatus k .notObserved
    | .reported => s.setFeedback k { s.feedbacks k with
        status := .deviceReported, reportedAt := utcSample data }

/-- The poll confirms a pending OFF. -/
def confirmsStop (s : Coordinator) (data : Dict) (on : Bool) : Bool :=
  match s.pending "powerStatus" with
  | none => false
  | some entry => entry.wanted = .code "00" && s.resolution data on "powerStatus" entry = .reported

/-- The loop over the pending commands. Its rounds are independent. -/
def resolve (s : Coordinator) (data : Dict) (on : Bool) : Coordinator :=
  { s.judge data on with
    pending := fun key => (s.pending key).bind fun entry =>
      if s.resolution data on key entry = .kept then some entry else none
    lastOff := if s.confirmsStop data on then s.now else s.lastOff }

/-- `int(target)` for a target that `% 5 == 0`. -/
def autoTarget (data : Dict) : Option Int :=
  (number data "currentHumidity" 25 80).bind fun target =>
    if (target / 5).den = 1 then some target.floor else none

/-- `_async_update_data` from the power status on. -/
def observe (s : Coordinator) (data : Dict) (on : Bool) : Coordinator :=
  let noted : Coordinator := { s with
    lastOff := if on = false ∧ s.previousOn = some true then s.now else s.lastOff
    previousOn := some on
    lastAutoHumidity := (autoTarget data).getD s.lastAutoHumidity }
  noted.resolve data on

/-- Home Assistant stores what the poll returned. -/
def store (s : Coordinator) (data : Dict) : Coordinator :=
  { s with data := some data, lastUpdateSuccess := true }

/-- How the checks of a command end once it holds the lock. -/
inductive Admission where
  | refused (error : Failure)
  /-- The same command is pending. -/
  | duplicate
  /-- The polled state already is the wanted one. -/
  | satisfied
  | admitted
deriving DecidableEq

def admission (s : Coordinator) (order : Order) : Admission :=
  let power := s.present.bind powered
  if s.closing then
    .refused (.homeAssistant "ALORAIR is unloading; the queued command was not sent")
  else if s.lastUpdateSuccess = false ∨ s.statusStale then
    .refused (.homeAssistant "ALORAIR status is unavailable; wait for reconnection")
  else if (match s.pending order.key with
      | none => false
      | some pending => s.now < pending.deadline ∧ pending.wanted = order.wanted) then
    .duplicate
  else if s.present.any (shows · order.key order.wanted) ∧ s.pending order.key = none then .satisfied
  else if order.starting ∧ power = some true ∧ s.pending order.key = none then .satisfied
  else if order.starting ∧ s.restartDelayRemaining ≠ 0 then
    .refused (.serviceValidation
      "Compressor restart protection is active; wait three minutes after off or reload")
  else if order.requiresOn ∧ power ≠ some true then
    .refused (.serviceValidation "Turn the dehumidifier on before changing this setting")
  else if order.stopping = false ∧ s.present.bind faults ≠ some [] then
    .refused (.serviceValidation "Resolve the dehumidifier fault before sending this command")
  else .admitted

/-- The pending command that this order leaves now. -/
def entry (s : Coordinator) (order : Order) : PendingCommand :=
  { wanted := order.wanted, deadline := s.now + pendingSeconds, issuedAt := s.wall
    baseline := s.present.bind utcSample }

/-- A new feedback object becomes `self.last_command`. -/
def newFeedback (s : Coordinator) (feedback : CommandFeedback) : Coordinator :=
  { s.setFeedback s.feedbackCount feedback with
    lastCommand := some s.feedbackCount, feedbackCount := s.feedbackCount + 1 }

/-- The command is recorded before its client call. -/
def issue (s : Coordinator) (order : Order) : Coordinator :=
  { s.newFeedback {
      action := order.request.action, status := .awaitingFeedback, issuedAt := s.wall
      deadline := s.now + pendingSeconds, field := some order.key, requested := some order.wanted } with
    pending := Function.update s.pending order.key (some (s.entry order))
    lastOff := if order.stopping then s.now else s.lastOff }

def dropPending (s : Coordinator) (key : String) : Coordinator :=
  { s with pending := Function.update s.pending key none }

def acknowledge (s : Coordinator) (k : Nat) : Coordinator :=
  s.setFeedback k { s.feedbacks k with acknowledged := true }

/-- The deadline handlers blame the last command if it is of this action. -/
def blame (s : Coordinator) (action : String) : Coordinator :=
  match s.lastCommand with
  | none => s
  | some k => if (s.feedbacks k).action = action then s.setStatus k .deliveryUncertain else s

def setDeadline (s : Coordinator) (task : Nat) (deadline : Option ℚ) : Coordinator :=
  { s with deadlines := Function.update s.deadlines task deadline }

def putLock (lock : Lock) (s : Coordinator) : Coordinator := { s with commandLock := lock }

end Coordinator

inductive Scalar where
  | int (value : Int)
  | text (value : String)
deriving DecidableEq

/-- A call of the client, or of Home Assistant's refresh. -/
inductive Query where
  | status (mac : String)
  | call (mac : String) (request : Request)
  | experimental (mac : String) (action : String) (parameters : List (String × Scalar))
  | refresh
deriving DecidableEq

def Query.Answer : Query → Type
  | .status _ => Except ClientError Dict
  | .call _ _ => Except ClientError Unit
  | .experimental _ _ _ => Except ClientError Json
  | .refresh => Unit

inductive Remark where
  /-- A poll succeeded with this data at this time, and perhaps confirmed a pending OFF. -/
  | polled (data : Dict) (monotonic : ℚ) (stopped : Bool)
  /-- A command passed the guards, which saw this state, and is recorded with this feedback. -/
  | issued (feedback : Nat) (order : Order) (seen : Coordinator)
  /-- An experimental change is recorded with this feedback. -/
  | proposed (feedback : Nat) (action : String)

inductive Drift where
  | elapse (seconds : ℚ)
  | setWall (wall : ℚ)
  | setOption (experimental : Bool)

def Drift.apply : Drift → Coordinator → Coordinator
  | .elapse seconds, s => { s with now := s.now + seconds }
  | .setWall wall, s => { s with wall }
  | .setOption experimental, s => { s with experimental }

abbrev face : Interface where
  State := Coordinator
  Query := Query
  Answer := Query.Answer
  Interrupt := Interrupt
  Remark := Remark
  Drift := Drift
  drift := Drift.apply

instance : DecidableEq face.Query := inferInstanceAs (DecidableEq Query)

/-- A method of the coordinator. -/
abbrev Method (Result : Type) := Process face Failure Result

namespace Method

def state : Method Coordinator := Process.get

def change (move : Coordinator → Coordinator) : Method Unit := Process.modify move

def await (query : Query) : Method query.Answer :=
  @Process.request face Failure Failure.interrupted query

/-- `_async_update_data`. -/
def updateData (mac : String) : Method Dict := do
  match (← await (.status mac) : Except ClientError Dict) with
  | .error .authentication =>
    Process.raise (.authFailed "ALORAIR login expired or was rejected")
  | .error .timeout => Process.raise .timeout
  | .error .unexpected => Process.raise .unexpected
  | .error _ => Process.raise (.updateFailed "ALORAIR status could not be read")
  | .ok data =>
    match powered data with
    | none => Process.raise (.updateFailed "ALORAIR returned an unsupported power status")
    | some on =>
      let s ← state
      change (·.observe data on)
      Process.say (.polled data s.now (s.confirmsStop data on))
      return data

/-- Home Assistant's refresh: it stores the data, or that there was none. -/
def refresh (mac : String) : Method Json :=
  Process.attempt
    (do
      let data ← updateData mac
      change (·.store data)
      return .null)
    fun
      | .interrupted reason => Process.raise (.interrupted reason)
      | error => do
        change ({ · with lastUpdateSuccess := false })
        Process.raise error

/-- `asyncio.timeout(COMMAND_TIMEOUT_SECONDS)` around this task. -/
def withTimeout {Result : Type} (task : Nat) (body : Method Result) : Method Result := do
  change fun s => s.setDeadline task (some (s.now + commandTimeoutSeconds))
  Process.attempt (Process.ensure body fun s : Coordinator => s.setDeadline task none) fun
    | .interrupted .deadline => Process.raise .timeout
    | error => Process.raise error

def requestRefresh : Method Unit := await .refresh

/-- The `except` clauses around the client call of a command. -/
def handle (k : Nat) (key : String) : ClientError → Method Unit
  | .authentication => do
    change fun s => (s.setStatus k .rejected).dropPending key
    Process.raise (.homeAssistant "ALORAIR authentication must be renewed")
  | .cannotConnect => do
    change (·.setStatus k .deliveryUncertain)
    requestRefresh
    Process.raise (.homeAssistant
      "Command delivery is uncertain; checking device feedback before retrying")
  | .command true => do
    change (·.setStatus k .deliveryUncertain)
    requestRefresh
    Process.raise (.homeAssistant
      "Command delivery is uncertain; checking device feedback before retrying")
  | .command false => do
    change fun s => (s.setStatus k .rejected).dropPending key
    Process.raise (.homeAssistant "ALORAIR rejected the command")
  | .protocol => do
    change fun s => (s.setStatus k .rejected).dropPending key
    Process.raise (.homeAssistant "ALORAIR rejected the command")
  | .timeout => Process.raise .timeout
  | .unexpected => Process.raise .unexpected

/-- The client call of an admitted command. -/
def transact (mac : String) (order : Order) (seen : Coordinator) : Method Unit := do
  change (·.issue order)
  Process.say (.issued seen.feedbackCount order seen)
  match (← await (.call mac order.request) : Except ClientError Unit) with
  | .ok () =>
    change (·.acknowledge seen.feedbackCount)
    requestRefresh
  | .error error => handle seen.feedbackCount order.key error

/-- `_async_command_with_feedback`. -/
def commandWithFeedback (mac : String) (order : Order) (task : Nat) : Method Unit :=
  withTimeout task do
    let s ← state
    match s.admission order with
    | .refused error => Process.raise error
    | .duplicate | .satisfied => return ()
    | .admitted => transact mac order s

def withCommandLock {Result : Type} (task : Nat) (body : Method Result) : Method Result :=
  Process.withLock Failure.interrupted Coordinator.commandLock Coordinator.putLock task body

/-- `_async_command`. -/
def lockedCommand (mac : String) (order : Order) (task : Nat) : Method Unit :=
  withCommandLock task <| Process.attempt (commandWithFeedback mac order task) fun
    | .timeout => do
      change (·.blame order.request.action)
      Process.raise (.homeAssistant
        "ALORAIR command deadline expired; delivery is uncertain and the command was not retried")
    | error => Process.raise error

/-- The task of a method that is refused while closing. -/
def tracked (task : Nat) (body : Method Json) : Method Json := do
  let s ← state
  if s.closing then
    Process.raise (.homeAssistant "ALORAIR is unloading; wait for reload to finish")
  else
    change fun s => { s with commandTasks := s.commandTasks ++ [task] }
    Process.ensure body fun s : Coordinator =>
      { s with commandTasks := s.commandTasks.filter (· ≠ task) }

/-- `async_command`; its caller only waits for the task. -/
def command (mac : String) (order : Order) (task : Nat) : Method Json :=
  tracked task do
    lockedCommand mac order task
    return .null

/-- The result of an experimental action. -/
def report (action status : String) (result : Json) : Json :=
  .dict [("action", .text action), ("status", .text status), ("result", result)]

/-- The `except` clauses of an experimental read. -/
def readFailure : ClientError → Failure
  | .authentication => .homeAssistant "ALORAIR authentication must be renewed"
  | .cannotConnect | .timeout => .homeAssistant
    "ALORAIR cloud data could not be retrieved; the request failed or timed out"
  | .unexpected => .unexpected
  | _ => .homeAssistant
    "ALORAIR rejected the data request or returned an unsupported response"

/-- The `except` clauses of an experimental change, with its feedback object. -/
def writeFailure (k : Nat) : ClientError → Method Json
  | .authentication => do
    change (·.setStatus k .rejected)
    Process.raise (.homeAssistant "ALORAIR authentication must be renewed")
  | .unexpected => Process.raise .unexpected
  | .cannotConnect | .timeout | .command true => do
    change (·.setStatus k .deliveryUncertain)
    Process.raise (.homeAssistant "Experimental action outcome is uncertain; it was not retried")
  | _ => do
    change (·.setStatus k .rejected)
    Process.raise (.homeAssistant
      "ALORAIR rejected the experimental action or returned an unsupported response")

/-- `_async_experimental_transaction`. -/
def experimentalTransaction (mac action : String) (parameters : List (String × Scalar)) :
    Method Json := do
  let s ← state
  if s.closing then
    Process.raise (.homeAssistant "ALORAIR is unloading; the queued action was not sent")
  else if mutationActions.contains action then
    if s.lastUpdateSuccess = false ∨ s.statusStale then
      Process.raise (.serviceValidation
        "Fresh device status is required before an experimental change")
    else
      change (·.newFeedback {
        action, status := .awaitingResponse, issuedAt := s.wall, deadline := s.now + pendingSeconds })
      Process.say (.proposed s.feedbackCount action)
      match (← await (.experimental mac action parameters) : Except ClientError Json) with
      | .ok result =>
        change fun now => now.setFeedback s.feedbackCount { now.feedbacks s.feedbackCount with
          acknowledged := true, status := .cloudAcknowledged }
        requestRefresh
        return report action "cloud_acknowledged" result
      | .error error => writeFailure s.feedbackCount error
  else
    match (← await (.experimental mac action parameters) : Except ClientError Json) with
    | .ok result => return report action "read" result
    | .error error => Process.raise (readFailure error)

/-- `_async_experimental_action`. -/
def lockedExperimental (mac action : String) (parameters : List (String × Scalar)) (task : Nat) :
    Method Json :=
  withCommandLock task <|
    Process.attempt (withTimeout task (experimentalTransaction mac action parameters)) fun
    | .timeout => do
      if mutationActions.contains action then
        change (·.blame action)
        Process.raise (.homeAssistant "Experimental action deadline expired; it was not retried")
      else Process.raise (.homeAssistant "Experimental data request deadline expired")
    | error => Process.raise error

/-- `async_experimental_action`. -/
def experimentalAction (mac action : String) (parameters : List (String × Scalar)) (task : Nat) :
    Method Json := do
  let s ← state
  if s.experimental = false then
    Process.raise (.serviceValidation
      "Enable experimental controls in the integration options first")
  else tracked task (lockedExperimental mac action parameters task)

/-- `async_prepare_unload`: wait for the tasks that are active now. -/
def prepareUnload : Method Json := do
  let s ← state
  change ({ · with closing := true })
  Process.awaitReady Failure.interrupted
    (fun now : Coordinator => s.commandTasks.all (!now.commandTasks.contains ·)) id
  return .bool true

end Method

inductive Operation where
  | refresh
  | command (order : Order)
  | experimental (action : String) (parameters : List (String × Scalar))
  | unload

def program (mac : String) : Operation → Nat → Method Json
  | .refresh, _ => Method.refresh mac
  | .command order, task => Method.command mac order task
  | .experimental action parameters, task => Method.experimentalAction mac action parameters task
  | .unload, _ => Method.prepareUnload

abbrev CloudMachine := Machine face Operation (Except Failure Json)

/-- Time moves forward, and a deadline cancels only when it is over. -/
def timely (machine : CloudMachine) : Step face Operation → Bool
  | .drift (.elapse seconds) => 0 ≤ (seconds : ℚ)
  | .interrupt task .deadline => (machine.scene.shared.deadlines task).any (· ≤ machine.scene.shared.now)
  | _ => true

def coordinator (mac : String) : System CloudMachine (Step face Operation) :=
  (scheduler (program mac) fun s => ∃ now wall, s = Coordinator.start now wall).checked timely

end AlorairLite.Cloud
