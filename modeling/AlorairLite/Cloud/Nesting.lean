import AlorairLite.Async.Causes
import AlorairLite.Cloud.Vocabulary

/-! Replies whose body is nested so deeply that `json.loads` raises a `RecursionError`: no clause
of the client catches it, so that it ends the call in which it is raised. -/

namespace AlorairLite.Cloud

open Async

/-- The reply to a request is one that `json.loads` does not survive. -/
def Nested (library : Library) : Exchange clientFace → Prop
  | .answered ⟨.http _ _ _, reply⟩ => overflows library.deep reply = true
  | _ => False

namespace Call

/-- The call ends with a `RecursionError` exactly if there was such a reply. -/
abbrev Breaks (library : Library) {Result : Type} (call : Call Result) : Prop :=
  @Process.BreaksOn clientFace Result Problem .recursion (Nested library) call

section Rules

variable {library : Library} {account : Account} {task : Nat} {First Second : Type}

theorem check_breaks {result : Except AlorairError First} : Breaks library (check result) := by
  apply Process.BreaksOn.lift
  cases result <;> simp [Except.mapError]

theorem fail_breaks {error : AlorairError} : Breaks library (fail error : Call First) := .raise (by simp)

theorem say_breaks {remark : ClientRemark} : Breaks library (Process.say remark) := .say id

theorem rescue_breaks {body : Call First} {handler : AlorairError → Call First} (first : Breaks library body)
    (second : ∀ error, Breaks library (handler error)) : Breaks library (rescue body handler) := by
  refine Process.BreaksOn.attempt first (fun problem other => ?_) ?_
  · cases problem with
    | error error => exact second error
    | interrupted reason => exact .raise (by simp)
    | recursion => exact absurd rfl other
  · intro state trace result final converses
    exact (converses_done.mp converses).2.1

theorem lock_breaks {lock : Client → Lock} {put : Lock → Client → Client} {body : Call First}
    (inside : Breaks library body) :
    Breaks library (@Process.withLock clientFace _ _ Problem.interrupted lock put task body) :=
  .withLock (fun _ => id) (by simp) inside

theorem request_breaks {verb : Verb} {endpoint : Endpoint} {token : Option String} {payload : Option Payload} :
    Breaks library (request library verb endpoint token payload) := by
  intro state trace result final converses
  rcases request_converses library converses with
    ⟨rfl, error, rfl, -⟩ | ⟨reply, rfl, ⟨deep, rfl⟩ | ⟨shallow, rfl⟩⟩ | ⟨reason, rfl, rfl⟩
  · simp
  · simp [Nested, deep]
  · cases received library.loads endpoint.command reply <;> simp [Nested, shallow, Except.mapError]
  · simp [Nested]

end Rules

section Methods

variable {library : Library} {account : Account} {task : Nat}

theorem logIn_breaks : Breaks library (logIn library account) := by
  apply Process.BreaksOn.then
  · exact .request id (fun _ => id) (fun _ => id) (by simp)
  intro password
  cases password with
  | none => exact fail_breaks
  | some password =>
    apply Process.BreaksOn.then request_breaks
    intro data
    apply Process.BreaksOn.then check_breaks
    intro token
    apply Process.BreaksOn.then request_breaks
    intro user
    exact Process.BreaksOn.then check_breaks fun owner => .pure

theorem finish_breaks {ending : Ending} : Breaks library (finish ending) := .modify say_breaks

theorem authenticate_breaks : Breaks library (authenticate library account) := by
  refine .modify (.then say_breaks fun _ => .attempt (.then logIn_breaks fun _ => finish_breaks) ?_ ?_)
  · intro problem other
    cases problem with
    | error error => exact .then finish_breaks fun _ => fail_breaks
    | interrupted reason => exact .then finish_breaks fun _ => .raise (by simp)
    | recursion => exact absurd rfl other
  · intro state trace result final converses
    obtain ⟨first, middle, left, right, rfl, finished, raised⟩ := converses_then.mp converses
    cases converses_modify.mp finished with
    | tell rest =>
      obtain ⟨rfl, rfl, -⟩ := converses_done.mp rest
      exact (converses_done.mp raised).2.1

theorem takeTurn_breaks {generation : Nat} : Breaks library (takeTurn library account generation) := by
  apply Process.BreaksOn.get
  intro now
  split
  · exact .then say_breaks fun _ => fail_breaks
  · exact authenticate_breaks

theorem login_breaks : Breaks library (login library account task) := by
  refine .get fun s => .then say_breaks fun _ => lock_breaks (.get fun now => ?_)
  cases now.token with
  | some token => exact say_breaks
  | none => exact takeTurn_breaks

theorem refresh_breaks {rejected : Option String} {generation : Nat} :
    Breaks library (refresh library account task rejected generation) := by
  refine lock_breaks (.get fun now => ?_)
  split
  · exact say_breaks
  · exact takeTurn_breaks

theorem read_breaks {endpoint : Endpoint} {payload : Option Payload} :
    Breaks library (read library account task endpoint payload) := by
  refine .then login_breaks fun _ => .get fun s => .then say_breaks fun _ =>
    rescue_breaks request_breaks fun error => ?_
  split
  · exact .then refresh_breaks fun _ => .get fun now => request_breaks
  · exact fail_breaks

theorem fetchPages_breaks {left page : Nat} {devices : Devices} :
    Breaks library (fetchPages library account task left page devices) := by
  induction left generalizing page devices with
  | zero => exact fail_breaks
  | succ left ih =>
    refine .then read_breaks fun data => .get fun s => .then say_breaks fun _ => .then check_breaks fun listed => ?_
    split
    · exact .pure
    · exact ih

theorem known_breaks {target : String} : Breaks library (known library account task target) := by
  have devices : Breaks library (fetchDevices library account task) := by
    refine rescue_breaks fetchPages_breaks fun error => ?_
    split <;> exact fail_breaks
  refine .get fun s => ?_
  split
  · refine .then devices fun devices => .modify (.get fun now => ?_)
    split
    · exact .pure
    · exact fail_breaks
  · refine .get fun now => ?_
    split
    · exact .pure
    · exact fail_breaks

theorem resolve_breaks {mac : String} : Breaks library (resolve library account task mac) :=
  .then check_breaks fun _ => .then login_breaks fun _ => lock_breaks known_breaks

theorem deviceDetail_breaks {device : Dict} : Breaks library (deviceDetail library account task device) :=
  .then check_breaks fun _ => .then read_breaks fun _ => check_breaks

theorem ownedDevice_breaks {mac : String} : Breaks library (ownedDevice library account task mac) := by
  refine .then check_breaks fun target => .then resolve_breaks fun device => .then deviceDetail_breaks fun detail =>
    .get fun s => .then check_breaks fun owned => ?_
  split
  · exact .then say_breaks fun _ => .pure
  · exact fail_breaks

theorem status_breaks {mac : String} : Breaks library (status library account task mac) :=
  .then ownedDevice_breaks fun _ => .then check_breaks fun _ => .get fun _ => .pure

theorem command_breaks {mac : String} {order : Request} :
    Breaks library (command library account task mac order) :=
  .then check_breaks fun _ => lock_breaks (.then status_breaks fun _ => .get fun _ =>
    .then request_breaks fun _ => .pure)

theorem sendAll_breaks {commands : List (Endpoint × Payload)} : Breaks library (sendAll library commands) := by
  induction commands with
  | nil => exact .pure
  | cons command rest ih => exact .get fun s => .then request_breaks fun _ => ih

theorem experimentalRead_breaks {detail : Dict} {action : Action} :
    Breaks library (experimentalRead library account task detail action) := by
  refine .get fun s => ?_
  cases action with
  | filters => exact .then check_breaks fun _ => .pure
  | history period date => exact .then read_breaks fun _ => check_breaks
  | operationTime period date => exact .then read_breaks fun _ => check_breaks
  | filterDetail filterId =>
    exact .then check_breaks fun _ => .then read_breaks fun _ => .get fun _ => check_breaks
  | firmwareCheck => exact .then check_breaks fun _ => .then read_breaks fun _ => check_breaks
  | firmwareHistory page => exact .then read_breaks fun _ => .get fun _ => check_breaks
  | mutation change => exact .pure

/-- A change from its second request on. -/
theorem feedback_breaks {mac : String} {others : List (Endpoint × Payload)}
    {report : Client → Dict → Except AlorairError Json} : Breaks library (do
      sendAll library others
      let feedback ← ownedDevice library account task mac
      let now : Client ← Process.get
      check (report now feedback) : Call Json) :=
  .then sendAll_breaks fun _ => .then ownedDevice_breaks fun _ => .get fun _ => check_breaks

theorem experimentalMutation_breaks {mac : String} {detail : Dict} {change : Mutation} :
    Breaks library (experimentalMutation library account task mac detail change) := by
  refine .get fun s => .then check_breaks fun requests => .then sendAll_breaks fun _ => ?_
  exact rescue_breaks feedback_breaks fun _ => fail_breaks

theorem experimentalAction_breaks {mac action : String} {parameters : Dict} :
    Breaks library (experimentalAction library account task mac action parameters) := by
  refine .then check_breaks fun chosen => .then check_breaks fun target =>
    lock_breaks (.then ownedDevice_breaks fun detail => ?_)
  cases chosen with
  | mutation change => exact experimentalMutation_breaks
  | _ => exact experimentalRead_breaks

end Methods

end Call

end AlorairLite.Cloud
