import AlorairLite.Cloud.Ownership

/-! What holds of the methods of the client because it holds of the parts they are made of: one
walk through the methods for all such properties. -/

namespace AlorairLite.Cloud

open Async

variable {library : Library} {account : Account} {task : Nat} {First Second : Type}

/-- A property of calls that what they are made of hands on to them. -/
structure Rules (holds : (Result : Type) → Call Result → Prop) : Prop where
  raise : ∀ {Result : Type} (problem : Problem), holds Result (Process.raise problem)
  lift : ∀ {Result : Type} (result : Except Problem Result), holds Result (Process.lift result)
  «then» : ∀ {First Second : Type} {process : Call First} {next : First → Call Second}, holds First process →
    (∀ value, holds Second (next value)) → holds Second (process >>= next : Call Second)
  attempt : ∀ {Result : Type} {process : Call Result} {handler : Problem → Call Result}, holds Result process →
    (∀ problem, holds Result (handler problem)) → holds Result (Process.attempt process handler)
  get : ∀ {Result : Type} {next : Client → Call Result}, (∀ s, holds Result (next s)) →
    holds Result (Process.get >>= next : Call Result)
  say : ∀ remark, holds Unit (@Process.say clientFace Problem remark)
  store : ∀ devices, holds Unit (Process.modify fun s : Client => { s with devices })

/-- It also holds of the reads of the client and of its logins. -/
structure Reads (library : Library) (account : Account) (task : Nat)
    (holds : (Result : Type) → Call Result → Prop) : Prop extends Rules holds where
  request : ∀ endpoint token payload, holds Json (Call.request library .get endpoint token payload)
  login : holds Unit (Call.login library account task)
  refresh : ∀ rejected generation, holds Unit (Call.refresh library account task rejected generation)

/-- What holds under the lock of the devices makes this hold around it. -/
structure Looks (library : Library) (account : Account) (task : Nat)
    (holds inside : (Result : Type) → Call Result → Prop) : Prop where
  outer : Reads library account task holds
  inner : Reads library account task inside
  locked : ∀ {Result : Type} {body : Call Result}, inside Result body → holds Result (Call.withDevicesLock task body)

/-- What holds under the login lock makes this hold around it. -/
def Enters (task : Nat) (holds around : (Result : Type) → Call Result → Prop) : Prop :=
  ∀ body : Call Unit, holds Unit body → around Unit (Call.withLoginLock task body)

variable {holds inside around : (Result : Type) → Call Result → Prop}

section Parts

variable (rules : Rules holds)
include rules

theorem Rules.check {result : Except AlorairError First} : holds First (Call.check result) := rules.lift _

/-- A check, and what follows on the checked value. -/
theorem Rules.checked {result : Except AlorairError First} {next : First → Call Second}
    (rest : ∀ value, result = .ok value → holds Second (next value)) :
    holds Second (Call.check result >>= next : Call Second) := by
  cases result with
  | error error => exact rules.raise _
  | ok value => exact rest value rfl

theorem Rules.rescue {body : Call First} {handler : AlorairError → Call First} (first : holds First body)
    (second : ∀ error, holds First (handler error)) : holds First (Call.rescue body handler) := by
  apply rules.attempt first
  intro problem
  cases problem with
  | error error => exact second error
  | interrupted reason => exact rules.raise _
  | recursion => exact rules.raise _

/-- A request that is allowed is asked. -/
theorem Rules.request {verb : Verb} {endpoint : Endpoint} {token : Option String} {payload : Option Payload}
    (asks : endpoint.verb = verb → holds HttpReply (Call.ask (.http endpoint token payload))) :
    holds Json (Call.request library verb endpoint token payload) := by
  unfold Call.request
  split
  · exact rules.raise _
  · rename_i fits
    have same : endpoint.verb = verb := by simpa using (not_or.mp fits).2
    split
    · exact rules.raise _
    · apply rules.then (asks same)
      intro reply
      split
      · exact rules.raise _
      · exact rules.check

/-- An attempt to log in. -/
theorem Rules.authenticate (reset : holds Unit (Process.modify Client.reset))
    (conclude : ∀ ending, holds Unit (Process.modify fun s : Client => s.conclude ending))
    (encrypt : holds (Option String) (Call.ask .encrypt))
    (posts : ∀ payload, holds Json (Call.request library .post .login none payload))
    (gets : ∀ token, holds Json (Call.request library .get .userInfo token none)) :
    holds Unit (Call.authenticate library account) := by
  have finish : ∀ ending, holds Unit (Call.finish ending) :=
    fun ending => rules.then (conclude ending) fun _ => rules.say _
  apply rules.then reset
  intro _
  refine rules.then (rules.say _) fun _ => ?_
  refine rules.attempt (rules.then ?_ fun session => finish _) fun problem => ?_
  · apply rules.then encrypt
    intro password
    cases password with
    | none => exact rules.raise _
    | some password =>
      apply rules.then (posts _)
      intro data
      apply rules.then rules.check
      intro token
      apply rules.then (gets _)
      exact fun user => rules.then rules.check fun owner => rules.lift _
  · cases problem with
    | error error => exact rules.then (finish _) fun _ => rules.raise _
    | interrupted reason => exact rules.then (finish _) fun _ => rules.raise _
    | recursion => exact rules.then (finish _) fun _ => rules.raise _

theorem Rules.takeTurn {generation : Nat} (attempt : holds Unit (Call.authenticate library account)) :
    holds Unit (Call.takeTurn library account generation) := by
  apply rules.get
  intro now
  split
  · exact rules.then (rules.say _) fun _ => rules.raise _
  · exact attempt

/-- `async_login`, if the way through the login lock allows it. -/
theorem Rules.login (attempt : holds Unit (Call.authenticate library account))
    (enters : Enters task holds around) (outer : Rules around) : around Unit (Call.login library account task) := by
  apply outer.get
  intro s
  refine outer.then (outer.say _) fun _ => enters _ (rules.get fun now => ?_)
  split
  · exact rules.say _
  · exact rules.takeTurn attempt

/-- `_refresh` as well. -/
theorem Rules.refresh {rejected : Option String} {generation : Nat}
    (attempt : holds Unit (Call.authenticate library account)) (enters : Enters task holds around) :
    around Unit (Call.refresh library account task rejected generation) := by
  apply enters
  apply rules.get
  intro now
  split
  · exact rules.say _
  · exact rules.takeTurn attempt

end Parts

section Lookups

variable (reads : Reads library account task holds)
include reads

theorem Reads.read {endpoint : Endpoint} {payload : Option Payload} :
    holds Json (Call.read library account task endpoint payload) := by
  apply reads.then reads.login
  intro _
  apply reads.get
  intro s
  refine reads.then (reads.say _) fun _ => ?_
  refine reads.rescue (reads.request _ _ _) fun error => ?_
  split
  · apply reads.then (reads.refresh _ _)
    exact fun _ => reads.get fun now => reads.request _ _ _
  · exact reads.raise _

theorem Reads.fetchPages {left page : Nat} {devices : Devices} :
    holds Devices (Call.fetchPages library account task left page devices) := by
  induction left generalizing page devices with
  | zero => exact reads.raise _
  | succ left ih =>
    apply reads.then reads.read
    intro data
    apply reads.get
    intro s
    refine reads.then (reads.say _) fun _ => ?_
    apply reads.then reads.check
    intro listed
    split
    · exact reads.lift _
    · exact ih

theorem Reads.fetchDevices : holds Devices (Call.fetchDevices library account task) := by
  refine reads.rescue reads.fetchPages fun error => ?_
  split <;> exact reads.raise _

theorem Reads.known {target : String} : holds Dict (Call.known library account task target) := by
  apply reads.get
  intro s
  split
  · apply reads.then reads.fetchDevices
    intro devices
    refine reads.then (reads.store devices) fun _ => reads.get ?_
    intro now
    split
    · exact reads.lift _
    · exact reads.raise _
  · refine reads.get fun now => ?_
    split
    · exact reads.lift _
    · exact reads.raise _

theorem Reads.deviceDetail {device : Dict} : holds Dict (Call.deviceDetail library account task device) := by
  apply reads.then reads.check
  intro id
  exact reads.then reads.read fun detail => reads.check

theorem Reads.ownedDevices {candidates : List Dict} :
    holds (List Dict) (Call.ownedDevices library account task candidates) := by
  induction candidates with
  | nil => exact reads.lift _
  | cons candidate rest ih =>
    have others : ∀ shown : List Dict, holds (List Dict) (do
        return shown ++ (← Call.ownedDevices library account task rest) : Call (List Dict)) :=
      fun shown => reads.then ih fun _ => reads.lift _
    apply reads.then reads.deviceDetail
    intro detail
    apply reads.get
    intro s
    apply reads.then reads.check
    intro owned
    split
    · exact reads.then reads.check others
    · exact others []

theorem Reads.experimentalRead {detail : Dict} {action : Action} :
    holds Json (Call.experimentalRead library account task detail action) := by
  apply reads.get
  intro s
  cases action with
  | filters => exact reads.then reads.check fun lives => reads.lift _
  | history period date => exact reads.then reads.read fun data => reads.check
  | operationTime period date => exact reads.then reads.read fun data => reads.check
  | filterDetail filterId =>
    apply reads.then reads.check
    intro selected
    apply reads.then reads.read
    exact fun data => reads.get fun now => reads.check
  | firmwareCheck =>
    apply reads.then reads.check
    intro id
    exact reads.then reads.read fun data => reads.check
  | firmwareHistory page =>
    apply reads.then reads.read
    exact fun data => reads.get fun now => reads.check
  | mutation change => exact reads.lift _

end Lookups

section Devices

variable (looks : Looks library account task holds inside)
include looks

theorem Looks.ownedDevice {mac : String} : holds Dict (Call.ownedDevice library account task mac) := by
  apply looks.outer.then looks.outer.check
  intro target
  apply looks.outer.then
  · apply looks.outer.then looks.outer.check
    intro target
    apply looks.outer.then looks.outer.login
    exact fun _ => looks.locked looks.inner.known
  · intro device
    apply looks.outer.then looks.outer.deviceDetail
    intro detail
    apply looks.outer.get
    intro s
    apply looks.outer.then looks.outer.check
    intro owned
    split
    · exact looks.outer.then (looks.outer.say _) fun _ => looks.outer.lift _
    · exact looks.outer.raise _

theorem Looks.status {mac : String} : holds Dict (Call.status library account task mac) := by
  apply looks.outer.then looks.ownedDevice
  intro device
  apply looks.outer.then looks.outer.check
  exact fun shown => looks.outer.get fun s => looks.outer.lift _

theorem Looks.devices : holds (List Dict) (Call.devices library account task) := by
  apply looks.outer.then looks.outer.login
  intro _
  apply looks.outer.then
  · apply looks.locked
    apply looks.inner.then looks.inner.fetchDevices
    intro devices
    exact looks.inner.then (looks.inner.store devices) fun _ => looks.inner.lift _
  · exact fun candidates => looks.outer.ownedDevices

section Commands

variable (posts : ∀ endpoint token payload, endpoint.command →
  holds Json (Call.request library .post endpoint token payload))
include posts

theorem Looks.sendAll {requests : List (Endpoint × Payload)} (changes : ∀ request ∈ requests, request.1.command) :
    holds Unit (Call.sendAll library requests) := by
  induction requests with
  | nil => exact looks.outer.lift _
  | cons request rest ih =>
    have first := changes request List.mem_cons_self
    apply looks.outer.get
    intro s
    apply looks.outer.then (posts _ _ _ first)
    exact fun _ => ih fun other member => changes other (List.mem_cons_of_mem _ member)

theorem Looks.experimentalMutation {mac : String} {detail : Dict} {change : Mutation} :
    holds Json (Call.experimentalMutation library account task mac detail change) := by
  apply looks.outer.get
  intro s
  apply looks.outer.checked
  rintro ⟨first, others, before⟩ made
  obtain ⟨-, changes, -⟩ := mutationRequests_shape made
  have opening : holds Unit (Call.sendAll library [first]) := by
    apply looks.sendAll posts
    intro request member
    rw [List.mem_singleton.mp member]
    exact changes first List.mem_cons_self
  have remaining : holds Unit (Call.sendAll library others) :=
    looks.sendAll posts fun other member => changes other (List.mem_cons_of_mem _ member)
  apply looks.outer.then opening
  intro _
  apply looks.outer.rescue
  · apply looks.outer.then remaining
    intro _
    apply looks.outer.then looks.ownedDevice
    exact fun feedback => looks.outer.get fun now => looks.outer.check
  · exact fun _ => looks.outer.raise _

end Commands

end Devices

/-- The whole client: around the command lock, and behind it. -/
theorem clientProgram_holds {behind within : (Result : Type) → Call Result → Prop}
    (outer : Looks library account task holds inside) (inner : Looks library account task behind within)
    (posts : ∀ endpoint token payload, endpoint.command →
      behind Json (Call.request library .post endpoint token payload))
    (entered : ∀ {Result : Type} {body : Call Result}, behind Result body →
      holds Result (Call.withCommandLock task body))
    (operation : ClientOperation) : holds Json (clientProgram library account operation task) := by
  have rules := outer.outer
  cases operation with
  | login => exact rules.then rules.login fun _ => rules.lift _
  | read endpoint payload => exact rules.read
  | status mac => exact rules.then outer.status fun _ => rules.lift _
  | devices => exact rules.then outer.devices fun _ => rules.lift _
  | command mac order =>
    refine rules.then ?_ fun _ => rules.lift _
    apply rules.then rules.check
    rintro ⟨frameType, value⟩
    apply entered
    apply inner.outer.then inner.status
    intro detail
    apply inner.outer.get
    intro s
    exact inner.outer.then (posts _ _ _ rfl) fun _ => inner.outer.lift _
  | experimental mac action parameters =>
    apply rules.then rules.check
    intro chosen
    apply rules.then rules.check
    intro target
    apply entered
    apply inner.outer.then inner.ownedDevice
    intro detail
    split
    · exact inner.experimentalMutation posts
    · exact inner.outer.experimentalRead

end AlorairLite.Cloud
