import AlorairLite.Async.Budget
import AlorairLite.Cloud.Listing
import AlorairLite.Cloud.Ownership
import Mathlib.Algebra.Order.Monoid.Prod

/-! How many requests a call of the cloud client makes at most, whatever the vendor answers:
no read is repeated without end, and no command is sent twice. -/

namespace AlorairLite.Cloud

open Async

/-- A request that is no command, or one whose outcome must not be guessed. -/
def weight : ClientQuery → ℕ × ℕ
  | .http endpoint _ _ => if endpoint.command then (0, 1) else (1, 0)
  | .encrypt => 0

/-- The requests that a call of the client may make: plain ones, and commands. -/
def ClientOperation.bound : ClientOperation → ℕ × ℕ
  | .login => (2, 0)
  | .read _ _ => (6, 0)
  | .status _ => (608, 0)
  | .devices => (6602, 0)
  | .command _ _ => (608, 1)
  | .experimental _ _ _ => (1216, 2)

variable {library : Library} {account : Account} {task : Nat} {First Second : Type} {cost more : ℕ × ℕ}
  {holds : First → Prop} {after : Second → Prop}

section Rules

theorem Call.costs_check {result : Except AlorairError First} {next : First → Call Second}
    (rest : ∀ value, result = .ok value → (next value).Costs weight cost after) :
    Process.Costs weight (Call.check result >>= next : Call Second) cost after := by
  apply Process.Costs.lift
  intro value passed
  cases result with
  | ok checked => exact rest value (congrArg Except.ok (Except.ok.inj passed))
  | error error => cases passed

theorem Call.costs_fail {error : AlorairError} :
    (Call.fail error : Call First).Costs weight 0 holds := trivial

theorem Call.costs_final {result : Except AlorairError First} :
    (Call.check result).Costs weight 0 fun _ => True := by
  cases result with
  | ok value => trivial
  | error error => trivial

theorem Call.costs_rescue {body : Call First} {handler : AlorairError → Call First} (more : ℕ × ℕ)
    (first : body.Costs weight cost holds) (second : ∀ error, (handler error).Costs weight more holds) :
    (Call.rescue body handler).Costs weight (cost + more) holds := by
  apply first.attempt more
  intro problem
  cases problem with
  | error error => exact second error
  | interrupted reason => trivial
  | recursion => trivial

/-- An `except` clause that asks nothing. -/
theorem Call.costs_rethrow {body : Call First} {handler : AlorairError → Call First}
    (first : body.Costs weight cost holds) (second : ∀ error, (handler error).Costs weight 0 holds) :
    (Call.rescue body handler).Costs weight cost holds := by
  have both := Call.costs_rescue 0 first second
  rwa [add_zero] at both

end Rules

section Lengths

theorem put_length {devices : Devices} {mac : String} {device : Dict} :
    (devices.put mac device).length ≤ devices.length + 1 := by
  induction devices with
  | nil => simp [Devices.put]
  | cons head rest ih =>
    simp only [Devices.put]
    split
    · simp
    · simpa using ih

theorem addRow_length {owner : Option String} {devices result : Devices} {row : Json}
    (added : addRow owner devices row = .ok result) : result.length ≤ devices.length + 1 := by
  cases row with
  | dict device =>
    obtain ⟨foreign, -, placed⟩ := ok_of_bind added
    split at placed
    · cases placed
      exact Nat.le_succ _
    · obtain ⟨mac, -, -, same, -⟩ := placeRow_ok placed
      rw [same]
      exact put_length
  | _ => cases added

theorem rows_length {owner : Option String} {rows : List Json} {devices result : Devices}
    (added : rows.foldlM (addRow owner) devices = .ok result) :
    result.length ≤ devices.length + rows.length := by
  induction rows generalizing devices with
  | nil =>
    cases added
    exact le_rfl
  | cons row rest ih =>
    obtain ⟨middle, first, later⟩ := ok_of_bind added
    have grown := addRow_length first
    have more := ih later
    rw [List.length_cons]
    omega

theorem addPage_length {owner : Option String} {devices : Devices} {data : Json} {result : Int × Devices}
    (added : addPage owner devices data = .ok result) : result.2.length ≤ devices.length + pageSize := by
  unfold addPage at added
  cases data with
  | dict entries =>
    cases list : Dict.get entries "list" with
    | list rows =>
      simp only [list] at added
      split at added
      · cases added
      · split at added
        · cases added
        · rename_i bounded
          obtain ⟨devices', folded, rfl⟩ := ok_of_map added
          have short := not_lt.mp (not_or.mp bounded).2
          exact (rows_length folded).trans (Nat.add_le_add_left short _)
    | _ => simp [list] at added
  | _ => cases added

end Lengths

section Methods

theorem Call.request_costs {verb : Verb} {endpoint : Endpoint} {token : Option String}
    {payload : Option Payload} :
    (Call.request library verb endpoint token payload).Costs weight
      (weight (.http endpoint token payload)) fun _ => True := by
  unfold Call.request
  split
  · trivial
  · split
    · trivial
    · apply Process.Costs.then 0 Process.Costs.request
      intro reply _
      split
      · trivial
      · exact Call.costs_final

theorem Call.get_costs {endpoint : Endpoint} {token : Option String} {payload : Option Payload} :
    (Call.request library .get endpoint token payload).Costs weight (1, 0) fun _ => True := by
  by_cases command : endpoint.command
  · unfold Call.request
    split
    · trivial
    · rename_i fits
      simp [Endpoint.verb, command] at fits
  · have costs : (Call.request library .get endpoint token payload).Costs weight
        (weight (.http endpoint token payload)) fun _ => True := Call.request_costs
    simpa [weight, command] using costs

theorem Call.logIn_costs : (Call.logIn library account).Costs weight (2, 0) fun _ => True := by
  apply Process.Costs.then (2, 0) .request
  intro password _
  cases password with
  | none => trivial
  | some password =>
    apply Process.Costs.then (1, 0) Call.request_costs
    intro data _
    apply Call.costs_check
    intro token _
    apply Process.Costs.then 0 Call.get_costs
    intro user _
    exact Call.costs_check fun owner _ => trivial

theorem Call.finish_costs {ending : Ending} : (Call.finish ending).Costs weight 0 fun _ => True :=
  fun _ => trivial

theorem Call.authenticate_costs : (Call.authenticate library account).Costs weight (2, 0) fun _ => True := by
  apply Process.Costs.modify
  apply Process.Costs.say
  have session : Process.Costs weight (do
      let session ← Call.logIn library account
      Call.finish (.succeeded session.1 session.2) : Call Unit) (2, 0) fun _ => True :=
    Process.Costs.then 0 Call.logIn_costs fun _ _ => Call.finish_costs
  refine Process.Costs.attempt 0 session ?_
  intro problem
  cases problem with
  | error error => exact Process.Costs.then 0 Call.finish_costs fun _ _ => trivial
  | interrupted reason => exact Process.Costs.then 0 Call.finish_costs fun _ _ => trivial
  | recursion => exact Process.Costs.then 0 Call.finish_costs fun _ _ => trivial

theorem Call.takeTurn_costs {generation : Nat} :
    (Call.takeTurn library account generation).Costs weight (2, 0) fun _ => True := by
  apply Process.Costs.get
  intro now
  split
  · exact Process.Costs.say trivial
  · exact Call.authenticate_costs

theorem Call.login_costs : (Call.login library account task).Costs weight (2, 0) fun _ => True := by
  apply Process.Costs.get
  intro s
  apply Process.Costs.say
  apply Process.Costs.withLock
  apply Process.Costs.get
  intro now
  cases now.token with
  | some token => trivial
  | none => exact Call.takeTurn_costs

theorem Call.refresh_costs {rejected : Option String} {generation : Nat} :
    (Call.refresh library account task rejected generation).Costs weight (2, 0) fun _ => True := by
  apply Process.Costs.withLock
  apply Process.Costs.get
  intro now
  split
  · trivial
  · exact Call.takeTurn_costs

/-- A login, a request, and at most one more of each. -/
theorem Call.read_costs {endpoint : Endpoint} {payload : Option Payload} :
    (Call.read library account task endpoint payload).Costs weight (6, 0) fun _ => True := by
  apply Process.Costs.then (4, 0) Call.login_costs
  intro _ _
  apply Process.Costs.get
  intro s
  apply Process.Costs.say
  refine Call.costs_rescue (3, 0) Call.get_costs fun error => ?_
  split
  · refine Process.Costs.then (1, 0) Call.refresh_costs fun _ _ => ?_
    exact Process.Costs.get fun now => Call.get_costs
  · trivial

/-- Every page is one read, and holds at most so many devices. -/
theorem Call.fetchPages_costs {left page : ℕ} {devices : Devices} :
    (Call.fetchPages library account task left page devices).Costs weight (left • (6, 0)) fun result =>
      result.length ≤ devices.length + left * pageSize := by
  induction left generalizing page devices with
  | zero => trivial
  | succ left ih =>
    rw [succ_nsmul']
    apply Process.Costs.then (left • (6, 0)) Call.read_costs
    intro data _
    apply Process.Costs.get
    intro s
    apply Process.Costs.say
    apply Call.costs_check
    intro listed added
    have grown := addPage_length added
    split
    · apply Process.Costs.pure
      rw [Nat.succ_mul]
      omega
    · apply ih.weaken
      intro result bounded
      rw [Nat.succ_mul]
      omega

theorem Call.fetchDevices_costs : (Call.fetchDevices library account task).Costs weight (600, 0)
    fun result => result.length ≤ maxPages * pageSize := by
  have pages : (Call.fetchPages library account task maxPages 1 []).Costs weight (600, 0) fun result =>
      result.length ≤ ([] : Devices).length + maxPages * pageSize := Call.fetchPages_costs
  apply Call.costs_rethrow
  · apply pages.weaken
    intro result bounded
    simpa using bounded
  · intro error
    split <;> trivial

theorem Call.known_costs {target : String} :
    (Call.known library account task target).Costs weight (600, 0) fun _ => True := by
  apply Process.Costs.get
  intro s
  split
  · apply Process.Costs.then 0 Call.fetchDevices_costs
    intro devices _
    apply Process.Costs.modify
    refine Process.Costs.get fun now => ?_
    split <;> trivial
  · refine Process.Costs.get fun now => ?_
    split <;> trivial

theorem Call.resolve_costs {mac : String} :
    (Call.resolve library account task mac).Costs weight (602, 0) fun _ => True := by
  apply Call.costs_check
  intro target _
  apply Process.Costs.then (600, 0) Call.login_costs
  intro _ _
  exact Process.Costs.withLock Call.known_costs

theorem Call.deviceDetail_costs {device : Dict} :
    (Call.deviceDetail library account task device).Costs weight (6, 0) fun _ => True := by
  apply Call.costs_check
  intro id _
  apply Process.Costs.then 0 Call.read_costs
  intro detail _
  exact Call.costs_final

theorem Call.ownedDevice_costs {mac : String} :
    (Call.ownedDevice library account task mac).Costs weight (608, 0) fun _ => True := by
  apply Call.costs_check
  intro target _
  apply Process.Costs.then (6, 0) Call.resolve_costs
  intro device _
  apply Process.Costs.then 0 Call.deviceDetail_costs
  intro detail _
  apply Process.Costs.get
  intro s
  apply Call.costs_check
  intro owned _
  split <;> trivial

theorem Call.status_costs {mac : String} :
    (Call.status library account task mac).Costs weight (608, 0) fun _ => True := by
  apply Process.Costs.then 0 Call.ownedDevice_costs
  intro device _
  apply Call.costs_check
  intro shown _
  exact Process.Costs.get fun s => Process.Costs.pure trivial

theorem Call.ownedDevices_costs {candidates : List Dict} :
    (Call.ownedDevices library account task candidates).Costs weight (candidates.length • (6, 0))
      fun _ => True := by
  induction candidates with
  | nil => trivial
  | cons candidate rest ih =>
    rw [List.length_cons, succ_nsmul']
    apply Process.Costs.then (rest.length • (6, 0)) Call.deviceDetail_costs
    intro detail _
    apply Process.Costs.get
    intro s
    apply Call.costs_check
    intro owned _
    have others : ∀ shown : List Dict, Process.Costs weight (do
        return shown ++ (← Call.ownedDevices library account task rest) : Call (List Dict))
          (rest.length • (6, 0)) fun _ => True := by
      intro shown
      exact Process.Costs.then 0 ih fun _ _ => Process.Costs.pure trivial
    split
    · exact Call.costs_check fun shown _ => others shown
    · exact others []

theorem Call.devices_costs :
    (Call.devices library account task).Costs weight (6602, 0) fun _ => True := by
  apply Process.Costs.then (6600, 0) Call.login_costs
  intro _ _
  have listed : Process.Costs weight (do
      let devices ← Call.fetchDevices library account task
      Process.modify fun s : Client => { s with devices }
      return devices.map Prod.snd : Call (List Dict)) (600, 0) fun candidates =>
        candidates.length ≤ maxPages * pageSize := by
    apply Process.Costs.then 0 Call.fetchDevices_costs
    intro devices bounded
    apply Process.Costs.modify
    apply Process.Costs.pure
    rwa [List.length_map]
  apply Process.Costs.then (6000, 0) (Process.Costs.withLock listed)
  intro candidates bounded
  apply Call.ownedDevices_costs.mono
  calc candidates.length • ((6, 0) : ℕ × ℕ) ≤ (maxPages * pageSize) • (6, 0) :=
        nsmul_le_nsmul_left zero_le bounded
    _ = (6000, 0) := rfl

/-- The checks of a command, and one POST. -/
theorem Call.command_costs {mac : String} {order : Request} :
    (Call.command library account task mac order).Costs weight (608, 1) fun _ => True := by
  apply Call.costs_check
  rintro ⟨frameType, value⟩ _
  apply Process.Costs.withLock
  apply Process.Costs.then (0, 1) Call.status_costs
  intro detail _
  apply Process.Costs.get
  intro s
  exact Process.Costs.then 0 Call.request_costs fun _ _ => Process.Costs.pure trivial

/-- A read of an experimental action needs one request more than its device. -/
theorem Call.experimentalRead_costs {detail : Dict} {action : Action} :
    (Call.experimentalRead library account task detail action).Costs weight (6, 0) fun _ => True := by
  apply Process.Costs.get
  intro s
  cases action with
  | filters => exact Call.costs_check fun lives _ => Process.Costs.pure trivial
  | history period date => exact Process.Costs.then 0 Call.read_costs fun data _ => Call.costs_final
  | operationTime period date => exact Process.Costs.then 0 Call.read_costs fun data _ => Call.costs_final
  | filterDetail filterId =>
    apply Call.costs_check
    intro selected _
    apply Process.Costs.then 0 Call.read_costs
    exact fun data _ => Process.Costs.get fun now => Call.costs_final
  | firmwareCheck =>
    apply Call.costs_check
    intro id _
    exact Process.Costs.then 0 Call.read_costs fun data _ => Call.costs_final
  | firmwareHistory page =>
    apply Process.Costs.then 0 Call.read_costs
    exact fun data _ => Process.Costs.get fun now => Call.costs_final
  | mutation change => trivial

theorem Call.sendAll_costs {requests : List (Endpoint × Payload)}
    (commands : ∀ request ∈ requests, request.1.command) :
    (Call.sendAll library requests).Costs weight (requests.length • (0, 1)) fun _ => True := by
  induction requests with
  | nil => trivial
  | cons request rest ih =>
    have command := commands request List.mem_cons_self
    have posted : ∀ token, (Call.request library .post request.1 token (some request.2)).Costs weight
        (0, 1) fun _ => True := by
      intro token
      have costs : (Call.request library .post request.1 token (some request.2)).Costs weight
          (weight (.http request.1 token (some request.2))) fun _ => True := Call.request_costs
      simpa [weight, command] using costs
    rw [List.length_cons, succ_nsmul']
    apply Process.Costs.get
    intro s
    apply Process.Costs.then _ (posted s.token)
    exact fun _ _ => ih fun other member => commands other (List.mem_cons_of_mem _ member)

theorem Call.experimentalMutation_costs {mac : String} {detail : Dict} {change : Mutation} :
    (Call.experimentalMutation library account task mac detail change).Costs weight (608, 2)
      fun _ => True := by
  apply Process.Costs.get
  intro s
  apply Call.costs_check
  rintro ⟨first, others, before⟩ made
  obtain ⟨short, commands, -⟩ := mutationRequests_shape made
  have opening : (Call.sendAll library [first]).Costs weight (0, 1) fun _ => True := by
    apply Call.sendAll_costs
    intro request member
    rw [List.mem_singleton.mp member]
    exact commands first List.mem_cons_self
  have remaining : (Call.sendAll library others).Costs weight (0, 1) fun _ => True := by
    have costs : (Call.sendAll library others).Costs weight (others.length • (0, 1)) fun _ => True :=
      Call.sendAll_costs fun other member => commands other (List.mem_cons_of_mem _ member)
    apply costs.mono
    calc others.length • ((0, 1) : ℕ × ℕ) ≤ 1 • (0, 1) := nsmul_le_nsmul_left zero_le short
      _ = (0, 1) := rfl
  apply Process.Costs.then (608, 1) opening
  intro _ _
  apply Call.costs_rethrow _ fun _ => Call.costs_fail
  apply Process.Costs.then (608, 0) remaining
  intro _ _
  apply Process.Costs.then 0 Call.ownedDevice_costs
  exact fun feedback _ => Process.Costs.get fun now => Call.costs_final

theorem Call.experimentalAction_costs {mac action : String} {parameters : Dict} :
    (Call.experimentalAction library account task mac action parameters).Costs weight (1216, 2)
      fun _ => True := by
  apply Call.costs_check
  intro chosen _
  apply Call.costs_check
  intro target _
  apply Process.Costs.withLock
  apply Process.Costs.then (608, 2) Call.ownedDevice_costs
  intro detail _
  split
  · exact Call.experimentalMutation_costs
  · exact Call.experimentalRead_costs.mono (by decide)

end Methods

theorem clientProgram_costs (operation : ClientOperation) :
    (clientProgram library account operation task).Costs weight operation.bound fun _ => True := by
  cases operation with
  | login => exact Process.Costs.then 0 Call.login_costs fun _ _ => Process.Costs.pure trivial
  | read endpoint payload => exact Call.read_costs
  | status mac => exact Process.Costs.then 0 Call.status_costs fun _ _ => Process.Costs.pure trivial
  | devices => exact Process.Costs.then 0 Call.devices_costs fun _ _ => Process.Costs.pure trivial
  | command mac order => exact Process.Costs.then 0 Call.command_costs fun _ _ => Process.Costs.pure trivial
  | experimental mac action parameters => exact Call.experimentalAction_costs

instance : Nonempty clientFace.Interrupt := ⟨Interrupt.cancel⟩

/-- In every order of the steps of all calls, and whatever the vendor answers, no call of the
client makes more requests than this. -/
theorem requests_bounded {machine : ClientMachine} {operation : ClientOperation}
    (run : Reachable (client library account) machine)
    (started : .started task operation ∈ machine.scene.log) :
    spent weight (exchanges task machine.scene.log) ≤ operation.bound :=
  run.spent (clientProgram_costs operation) started

/-- An experimental action of this task is started. -/
def experiments (task : Nat) : ClientEvent → Bool
  | .started other (.experimental _ _ _) => other = task
  | _ => false

theorem experiments_any {log : ClientLog} (some : log.any (experiments task)) :
    ∃ mac action parameters, .started task (.experimental mac action parameters) ∈ log := by
  obtain ⟨event, member, same⟩ := List.any_eq_true.mp some
  unfold experiments at same
  split at same
  · cases of_decide_eq_true same
    exact ⟨_, _, _, member⟩
  · cases same

/-- A rename up to its first command makes four requests before it. -/
theorem requests_bounded_example : ∃ machine mac action parameters,
    (client exampleVendor exampleAccount).follow exampleClient exampleRename = some machine ∧
      .started 0 (.experimental mac action parameters) ∈ machine.scene.log ∧
        spent weight (exchanges 0 machine.scene.log) = (4, 1) ∧
          spent weight (exchanges 0 machine.scene.log) ≤ (1216, 2) := by
  have shown : (((client exampleVendor exampleAccount).follow exampleClient exampleRename).map fun machine =>
      machine.scene.log.any (experiments 0) &&
        decide (spent weight (exchanges 0 machine.scene.log) = (4, 1))) = some true := by decide +kernel
  obtain ⟨machine, followed, both⟩ := Option.map_eq_some_iff.mp shown
  obtain ⟨some, cost⟩ := (Bool.and_eq_true _ _).mp both
  obtain ⟨mac, action, parameters, started⟩ := experiments_any some
  have run : Reachable (client exampleVendor exampleAccount) machine :=
    exampleClient_run.follow (fun _ _ => trivial) followed
  exact ⟨machine, mac, action, parameters, followed, started, of_decide_eq_true cost,
    requests_bounded run started⟩

end AlorairLite.Cloud
