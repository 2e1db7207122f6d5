import AlorairLite.Async.Regime
import AlorairLite.Async.Starts
import AlorairLite.Cloud.Journey
import AlorairLite.Entities.Controls

/-! The entities in front of the cloud coordinator: what its commands ask of the client. -/

namespace AlorairLite.Entities

open Async Cloud
open Local (Value)

/-- The method of the client with these arguments. -/
def Command.request (command : Command) : Option Request :=
  match command.args with
  | [.bool on] =>
    if command.method = "async_set_power" then some (.setPower on)
    else if command.method = "async_set_locate" then some (.setLocate on)
    else none
  | [.int humidity] => if command.method = "async_set_humidity" then some (.setHumidity humidity) else none
  | [.text unit] =>
    if command.method = "async_set_temperature_unit" then some (.setTemperatureUnit unit)
    else if command.method = "async_set_moisture_unit" then some (.setMoistureUnit unit)
    else none
  | [] => if command.method = "async_purge" then some .purge else none
  | _ => none

def asWanted : Value → Option Wanted
  | .text text => some (.code text)
  | .int value => some (.level value)
  | _ => none

/-- The arguments of `async_command` for the cloud coordinator. -/
def Command.order (command : Command) : Option Order :=
  command.request.bind fun request => (asWanted command.wanted).map fun wanted =>
    { request, key := command.key, wanted, requiresOn := command.requiresOn }

theorem issued_order (control : Control) : (issued control).order = some control.order := by
  cases control with
  | power on | humidity on | locate on | purge => rfl
  | temperatureUnit fahrenheit => cases fahrenheit <;> rfl
  | moistureUnit metric => cases metric <;> rfl

/-- The frame type of a command for the state that a poll shows under this key. -/
def frameType (key : String) : Scalar :=
  if key = "powerStatus" then .text "21"
  else if key = "drainStatus" then .text "22"
  else if key = "currentHumidity" then .text "23"
  else if key = "locateFunction" then .text "27"
  else if key = "temperatureUnit" then .int 24
  else .int 25

/-- The value as the data of a frame spells it. -/
def spelled : Wanted → String
  | .code text => text
  | .level value => toString value

/-- The client accepts the arguments, and its frame spells what the coordinator waits for. -/
theorem frame_fit {control : Control} (fit : Fit control) :
    Call.frame control.order.request = .ok (frameType control.order.key, spelled control.order.wanted) := by
  cases control with
  | power on => cases on <;> rfl
  | humidity target =>
    have offered : 20 ≤ target ∧ target ≤ 80 ∧ target % 5 = 0 := by
      rcases fit with rfl | ⟨least, most, fives⟩
      · decide
      · exact ⟨by omega, most, fives⟩
    simp [Control.order, Call.frame, offered, frameType, spelled]
  | locate on => cases on <;> rfl
  | purge => rfl
  | temperatureUnit fahrenheit => cases fahrenheit <;> rfl
  | moistureUnit metric => cases metric <;> rfl

/-- The coordinator stores targets of the automatic mode, and calls these commands. -/
def targeted (allowed : String → Request → Prop) : Discipline face where
  asks query _ := ∀ mac request, query = .call mac request → allowed mac request
  moves move := ∀ s : Coordinator, Auto s.lastAutoHumidity → Auto (Coordinator.lastAutoHumidity (move s))

section Pass

variable {Result : Type} {allowed : String → Request → Prop} {s : Coordinator} {mac : String} {task : Nat}

abbrev Targets (allowed : String → Request → Prop) (code : Method Result) (s : Coordinator) : Prop :=
  (targeted allowed).Keeps code s

theorem change_targets {move : Coordinator → Coordinator} {rest : Unit → Method Result}
    (same : ∀ s, (move s).lastAutoHumidity = s.lastAutoHumidity) (later : Targets allowed (rest ()) (move s)) :
    Targets allowed (Method.change move >>= rest) s :=
  Discipline.Keeps.modify (fun s auto => (same s).symm ▸ auto) later

theorem await_targets {query : Query} (other : ∀ mac request, query = .call mac request → allowed mac request) :
    Targets allowed (Method.await query) s := Discipline.Keeps.request other

theorem observe_targets (data : Dict) (on : Bool) : (targeted allowed).moves (·.observe data on) := by
  intro s auto
  have same : (s.observe data on).lastAutoHumidity = (Coordinator.autoTarget data).getD s.lastAutoHumidity :=
    (congrArg Coordinator.lastAutoHumidity (s.observe_frame data on)).trans rfl
  rw [same]
  cases read : Coordinator.autoTarget data with
  | none => exact auto
  | some humidity => exact auto_of_number read

theorem refresh_targets : Targets allowed (Method.refresh mac) s := by
  apply Discipline.Keeps.attempt
  · apply Discipline.Keeps.then
    · apply Discipline.Keeps.then (await_targets (by simp))
      intro answer later
      cases answer with
      | error error => cases error <;> trivial
      | ok data =>
        simp only
        split
        · trivial
        · exact ⟨fun _ => id, observe_targets data _, trivial⟩
    · exact fun data later => change_targets (fun _ => rfl) trivial
  · intro error later
    cases error with
    | interrupted reason => trivial
    | _ => exact change_targets (fun _ => rfl) trivial

theorem requestRefresh_targets : Targets allowed Method.requestRefresh s := await_targets (by simp)

theorem withTimeout_targets {body : Method Result} (inside : ∀ later, Targets allowed body later) :
    Targets allowed (Method.withTimeout task body) s := by
  apply change_targets fun _ => rfl
  apply Discipline.Keeps.attempt
  · exact Discipline.Keeps.ensure (inside _) fun _ => id
  · intro error later
    cases error with
    | interrupted reason => cases reason <;> trivial
    | _ => trivial

theorem locked_targets {body : Method Result} (inside : ∀ later, Targets allowed body later) :
    Targets allowed (Method.withCommandLock task body) s :=
  Discipline.Keeps.withLock (fun _ _ => id) inside

theorem tracked_targets {body : Method Json} (inside : ∀ later, Targets allowed body later) :
    Targets allowed (Method.tracked task body) s := by
  refine ⟨fun _ => id, ?_⟩
  dsimp only [Coroutine.bind, Process.chain]
  split
  · trivial
  · apply change_targets fun _ => rfl
    exact Discipline.Keeps.ensure (inside _) fun _ => id

theorem handle_targets {k : Nat} {key : String} (error : ClientError) :
    Targets allowed (Method.handle k key error) s := by
  have uncertain : ∀ text, Targets allowed (do
      Method.change (·.setStatus k .deliveryUncertain)
      Method.requestRefresh
      (Process.raise (.homeAssistant text) : Method Unit)) s := fun text =>
    change_targets (fun _ => rfl) (Discipline.Keeps.then requestRefresh_targets fun _ _ => trivial)
  have rejected : ∀ text, Targets allowed (do
      Method.change fun s => (s.setStatus k .rejected).dropPending key
      (Process.raise (.homeAssistant text) : Method Unit)) s := fun text =>
    change_targets (fun _ => rfl) trivial
  cases error with
  | authentication => exact rejected _
  | cannotConnect => exact uncertain _
  | command outcomeUnknown =>
    cases outcomeUnknown with
    | true => exact uncertain _
    | false => exact rejected _
  | protocol => exact rejected _
  | timeout => trivial
  | unexpected => trivial

theorem transact_targets {order : Order} (seen : Coordinator) (own : allowed mac order.request) :
    Targets allowed (Method.transact mac order seen) s := by
  apply change_targets fun _ => rfl
  have asked : ∀ other request, Query.call mac order.request = .call other request → allowed other request := by
    intro other request same
    cases same
    exact own
  apply Discipline.Keeps.then (await_targets asked)
  intro answer later
  cases answer with
  | ok value => exact change_targets (fun _ => rfl) requestRefresh_targets
  | error error => exact handle_targets error

theorem blame_targets {action : String} {failure : Failure} :
    Targets allowed (do Method.change (·.blame action); (Process.raise failure : Method Result)) s := by
  refine change_targets (fun s => ?_) trivial
  simp only [Coordinator.blame]
  split
  · rfl
  · split <;> rfl

theorem command_targets {order : Order} (own : allowed mac order.request) :
    Targets allowed (Method.command mac order task) s := by
  apply tracked_targets
  intro later
  apply Discipline.Keeps.then
  · apply locked_targets
    intro later
    apply Discipline.Keeps.attempt
    · apply withTimeout_targets
      intro later
      refine ⟨fun _ => id, ?_⟩
      dsimp only [Coroutine.bind, Process.chain]
      split
      · trivial
      · trivial
      · trivial
      · exact transact_targets later own
    · intro error later
      cases error with
      | timeout => exact blame_targets
      | _ => trivial
  · exact fun _ _ => trivial

theorem writeFailure_targets {k : Nat} (error : ClientError) :
    Targets allowed (Method.writeFailure k error) s := by
  cases error with
  | unexpected => trivial
  | command outcomeUnknown => cases outcomeUnknown <;> exact change_targets (fun _ => rfl) trivial
  | _ => exact change_targets (fun _ => rfl) trivial

theorem experimental_targets {action : String} {parameters : List (String × Scalar)} :
    Targets allowed (Method.experimentalTransaction mac action parameters) s := by
  refine ⟨fun _ => id, ?_⟩
  dsimp only [Coroutine.bind, Process.chain]
  split
  · trivial
  split
  · split
    · trivial
    apply change_targets fun _ => rfl
    apply Discipline.Keeps.then (await_targets (by simp))
    intro answer later
    cases answer with
    | ok result =>
      apply change_targets fun _ => rfl
      exact Discipline.Keeps.then requestRefresh_targets fun _ _ => trivial
    | error error => exact writeFailure_targets error
  · apply Discipline.Keeps.then (await_targets (by simp))
    intro answer later
    cases answer <;> trivial

theorem experimentalAction_targets {action : String} {parameters : List (String × Scalar)} :
    Targets allowed (Method.experimentalAction mac action parameters task) s := by
  refine ⟨fun _ => id, ?_⟩
  dsimp only [Coroutine.bind, Process.chain]
  split
  · trivial
  apply tracked_targets
  intro later
  apply locked_targets
  intro later
  apply Discipline.Keeps.attempt
  · exact withTimeout_targets fun _ => experimental_targets
  · intro error later
    cases error with
    | timeout =>
      simp only
      split
      · exact blame_targets
      · trivial
    | _ => trivial

end Pass

/-- What the operations of the coordinator do. -/
def regime (mac : String) : Regime face Operation where
  rule operation := targeted fun other request =>
    other = mac ∧ ∃ order, operation = .command order ∧ order.request = request
  holds s := Auto (Coordinator.lastAutoHumidity s)
  uniform _ _ _ _ asks := asks
  kept _ _ state moves auto := moves state auto
  drifts drift _ auto := by cases drift <;> exact auto

theorem program_keeps (mac : String) (operation : Operation) (task : Nat) :
    (regime mac).Keeps operation (program mac operation task) := by
  intro s
  cases operation with
  | refresh => exact refresh_targets
  | command order => exact command_targets ⟨rfl, order, rfl, rfl⟩
  | experimental action parameters => exact experimentalAction_targets
  | unload =>
    refine ⟨fun _ => id, ?_⟩
    exact change_targets (fun _ => rfl) ⟨trivial, fun _ => trivial, fun _ _ => ⟨fun _ => id, trivial⟩⟩

/-- The steps of the coordinator that no entity asks for. -/
def unasked : Step face Operation → Bool
  | .start (.command _) => false
  | _ => true

/-- The target of the automatic mode is another one. -/
def retarget (machine : CloudMachine) (lastAutoHumidity : Int) : CloudMachine :=
  { machine with scene := machine.scene.change fun s : Coordinator => { s with lastAutoHumidity } }

/-- What an action comes to. The humidifier is added once there is data. -/
def polledDeed (machine : CloudMachine) : Action → Option (Deed CloudMachine (Step face Operation))
  | .service service =>
    match service.perform false (Coordinator.lastAutoHumidity machine.scene.shared) with
    | .error _ => some .idle
    | .ok .refresh => some (.step (.start .refresh))
    | .ok (.command command) => command.order.map fun order => .step (.start (.command order))
  | .added previous => (Coordinator.data machine.scene.shared).map fun data => .edit <|
    retarget machine (addedToHass false (mode data) previous (Coordinator.lastAutoHumidity machine.scene.shared))

def polledFront : Front CloudMachine (Step face Operation) Action where
  free := unasked
  deed := polledDeed

/-- The cloud coordinator whose commands are those of its entities. -/
def polled (mac : String) : System (Fronted CloudMachine Action) (FrontStep (Step face Operation) Action) :=
  polledFront.system (coordinator mac)

/-- A command that an entity asked for, in the state it saw. -/
structure Served (journal : List (Action × CloudMachine)) (task : Nat) (order : Order) (service : Service)
    (seen : CloudMachine) (command : Command) : Prop where
  listed : (.service service, seen) ∈ journal
  task : seen.count = task
  auto : Auto (Coordinator.lastAutoHumidity seen.scene.shared)
  asks : service.perform false (Coordinator.lastAutoHumidity seen.scene.shared) = .ok (.command command)
  order : command.order = some order

structure Polled (mac : String) (state : Fronted CloudMachine Action) : Prop where
  disciplined : Disciplined (regime mac) state.inner
  served : ∀ task order, .started task (.command order) ∈ state.inner.scene.log →
    ∃ service seen command, Served state.journal task order service seen command

section Runs

variable {mac : String} {state : Fronted CloudMachine Action} {task : Nat} {order : Order}

theorem Served.grow {journal : List (Action × CloudMachine)} {service : Service} {seen : CloudMachine}
    {command : Command} (served : Served journal task order service seen command) (later : Action × CloudMachine) :
    Served (journal ++ [later]) task order service seen command :=
  { served with listed := List.mem_append_left _ served.listed }

/-- A step that starts no command. -/
theorem Polled.step {label : Step face Operation} {after : CloudMachine} {journal : List (Action × CloudMachine)}
    (polled : Polled mac state) (taken : (coordinator mac).step state.inner label = some after)
    (grown : ∀ task order service seen command, Served state.journal task order service seen command →
      Served journal task order service seen command)
    (started : ∀ order, label = .start (.command order) →
      ∃ service seen command, Served journal state.inner.count order service seen command) :
    Polled mac ⟨after, journal⟩ := by
  have moved : state.inner.step (program mac) label = some after := by
    simp only [coordinator, System.checked] at taken
    split at taken
    · exact taken
    · cases taken
  refine ⟨polled.disciplined.step (program_keeps mac) moved, ?_⟩
  have old : ∀ task order, .started task (.command order) ∈ state.inner.scene.log →
      ∃ service seen command, Served journal task order service seen command := by
    intro task order before
    obtain ⟨service, seen, command, served⟩ := polled.served task order before
    exact ⟨service, seen, command, grown _ _ _ _ _ served⟩
  intro task order member
  rw [← mem_starts] at member
  rcases Machine.step_starts moved with same | ⟨operation, rfl, same⟩
  · rw [same, mem_starts] at member
    exact old task order member
  · rw [same] at member
    rcases List.mem_append.mp member with before | new
    · exact old task order (mem_starts.mp before)
    · cases List.mem_singleton.mp new
      exact started order rfl

theorem polledDeed_command {machine : CloudMachine} {action : Action}
    (means : polledDeed machine action = some (.step (.start (.command order)))) :
    ∃ service command, action = .service service ∧
      service.perform false (Coordinator.lastAutoHumidity machine.scene.shared) = .ok (.command command) ∧
        command.order = some order := by
  cases action with
  | service service =>
    simp only [polledDeed] at means
    split at means
    · cases means
    · cases means
    · rename_i command asks
      obtain ⟨order', ordered, same⟩ := Option.map_eq_some_iff.mp means
      cases same
      exact ⟨service, command, rfl, asks, ordered⟩
  | added previous =>
    obtain ⟨data, -, impossible⟩ := Option.map_eq_some_iff.mp means
    cases impossible

theorem polledDeed_edit {machine after : CloudMachine} {action : Action}
    (auto : Auto (Coordinator.lastAutoHumidity machine.scene.shared))
    (means : polledDeed machine action = some (.edit after)) :
    ∃ humidity, after = retarget machine humidity ∧ Auto humidity := by
  cases action with
  | service service =>
    simp only [polledDeed] at means
    split at means
    · cases means
    · cases means
    · obtain ⟨order, -, impossible⟩ := Option.map_eq_some_iff.mp means
      cases impossible
  | added previous =>
    obtain ⟨data, -, same⟩ := Option.map_eq_some_iff.mp means
    cases same
    exact ⟨_, rfl, addedToHass_auto auto⟩

theorem Polled.of_run (run : Reachable (polled mac) state) : Polled mac state := by
  apply Front.invariant (Polled mac) ?_ ?_ ?_ run
  · rintro machine ⟨shared, ⟨now, wall, rfl⟩, rfl⟩
    refine ⟨⟨auto_initial, ?_, ?_⟩, ?_⟩
    · exact fun task query member => by cases member
    · exact fun task held found => by cases found
    · exact fun task order member => by cases member
  · intro state label after polled free taken
    refine polled.step taken (fun _ _ _ _ _ => id) ?_
    rintro order rfl
    cases free
  · intro state action deed after polled means applied
    have grown : ∀ task order service seen command, Served state.journal task order service seen command →
        Served (state.journal ++ [(action, state.inner)]) task order service seen command :=
      fun _ _ _ _ _ served => served.grow _
    cases deed with
    | idle =>
      cases applied
      refine ⟨polled.disciplined, fun task order member => ?_⟩
      obtain ⟨service, seen, command, served⟩ := polled.served task order member
      exact ⟨service, seen, command, served.grow _⟩
    | step label =>
      apply polled.step applied grown
      rintro order rfl
      obtain ⟨service, command, rfl, asks, ordered⟩ := polledDeed_command means
      exact ⟨service, state.inner, command, List.mem_append_right _ (List.mem_singleton_self _), rfl,
        polled.disciplined.holds, asks, ordered⟩
    | edit machine =>
      cases applied
      obtain ⟨humidity, same, auto⟩ := polledDeed_edit polled.disciplined.holds means
      subst same
      refine ⟨polled.disciplined.aside auto polled.disciplined.asks (List.Subset.refl _), fun task order member => ?_⟩
      obtain ⟨service, seen, command, served⟩ := polled.served task order member
      exact ⟨service, seen, command, served.grow _⟩

/-- Whatever the coordinator calls for a command, it calls for a service call of an entity, with what that
asked for in the state it saw. The client accepts the arguments, and the data of its frame spells the
value that the coordinator waits for under the key that this frame type sets. -/
theorem call_served {mac' : String} {request : Request} (run : Reachable (polled mac) state)
    (asked : .asked task (.call mac' request) ∈ state.inner.scene.log) : mac' = mac ∧
      ∃ service seen command order, Served state.journal task order service seen command ∧
        order.request = request ∧ Call.frame request = .ok (frameType order.key, spelled order.wanted) := by
  have polled := Polled.of_run run
  obtain ⟨operation, started, allowed⟩ := polled.disciplined.asks task _ asked
  obtain ⟨rfl, order, rfl, rfl⟩ := allowed state.inner.scene.shared mac' request rfl
  obtain ⟨service, seen, command, served⟩ := polled.served task order started
  obtain ⟨control, rfl, fit, -⟩ := perform_issued served.auto served.asks
  obtain rfl : control.order = order := Option.some.inj ((issued_order control).symm.trans served.order)
  exact ⟨rfl, service, seen, _, _, served, rfl, frame_fit fit⟩

end Runs

section Examples

/-- The appliance runs continuously. -/
def continuousData : Dict :=
  ("currentHumidity", .int 20) :: exampleData "2001-09-09T01:46:40Z" "01" "00"

/-- The humidifier is restored behind the first poll and set to the automatic mode. -/
def restoredAuto : List (FrontStep (Step face Operation) Action) :=
  (examplePoll 0 continuousData).map .own ++
    [.act (.added (some [("last_auto_humidity", .int 45)])), .act (.service (.setMode "auto"))]

def asks (task : Nat) (query : Query) : CloudEvent → Bool
  | .asked other query' => other = task && query' = query
  | _ => false

theorem asks_any {log : List CloudEvent} {task : Nat} {query : Query} (found : log.any (asks task query)) :
    .asked task query ∈ log := by
  obtain ⟨event, member, same⟩ := List.any_eq_true.mp found
  unfold asks at same
  split at same
  · rw [Bool.and_eq_true, decide_eq_true_eq, decide_eq_true_eq] at same
    obtain ⟨rfl, rfl⟩ := same
    exact member
  · cases same

theorem call_served_example : ∃ state, (polled "0011").follow { inner := exampleMachine } restoredAuto = some state ∧
    ∃ service seen command order, Served state.journal 1 order service seen command ∧
      order.request = .setHumidity 45 ∧
        Call.frame (.setHumidity 45) = .ok (frameType order.key, spelled order.wanted) := by
  have shown : (((polled "0011").follow { inner := exampleMachine } restoredAuto).map fun state =>
      state.inner.scene.log.any (asks 1 (.call "0011" (.setHumidity 45)))) = some true := by decide +kernel
  obtain ⟨state, followed, found⟩ := Option.map_eq_some_iff.mp shown
  have begun : Reachable (polled "0011") { inner := exampleMachine } :=
    .start ⟨⟨_, ⟨0, 1000000000, rfl⟩, rfl⟩, rfl⟩
  exact ⟨state, followed, (call_served (begun.follow (fun _ _ => trivial) followed) (asks_any found)).2⟩

end Examples

end AlorairLite.Entities
