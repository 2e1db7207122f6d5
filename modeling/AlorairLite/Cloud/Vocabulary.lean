import AlorairLite.Async.Conversation
import AlorairLite.Cloud.Client

/-! Which requests the methods of the cloud client can send, and what they can say,
whatever the vendor and the other callers do. -/

namespace AlorairLite.Cloud

open Async

/-- The requests of an authentication attempt. -/
def ClientQuery.signsIn : ClientQuery → Prop
  | .encrypt | .http .login _ _ | .http .userInfo _ _ => True
  | _ => False

def ClientRemark.signsIn : ClientRemark → Prop
  | .listed _ _ | .verified _ _ _ _ => False
  | _ => True

/-- The requests that may be sent to read from this endpoint. -/
def reads (endpoint : Endpoint) (payload : Option Payload) (query : ClientQuery) : Prop :=
  query.signsIn ∨ ∃ token, query = .http endpoint token payload

/-- The requests that may be sent to find the owned device and its detail. -/
def looksUp (query : ClientQuery) : Prop :=
  query.signsIn ∨ (∃ token payload, query = .http .deviceList token payload) ∨
    ∃ id token, query = .http (.deviceDetail id) token none

namespace Call

section Rules

variable {queries : ClientQuery → Prop} {remarks : ClientRemark → Prop} {First Second : Type}

/-- The process asks and tells nothing else than this. -/
abbrev Keeps (queries : ClientQuery → Prop) (remarks : ClientRemark → Prop) {Result : Type}
    (call : Call Result) : Prop := @Coroutine.Within clientFace _ queries remarks call

theorem Keeps.say {remark : ClientRemark} {call : Call First} (said : remarks remark)
    (next : Keeps queries remarks call) :
    Keeps queries remarks (Process.say remark >>= fun _ : Unit => call : Call First) := ⟨said, next⟩

theorem Keeps.get {next : Client → Call First} (each : ∀ s, Keeps queries remarks (next s)) :
    Keeps queries remarks (Process.get >>= next : Call First) := each

theorem Keeps.rescue {body : Call First} {handler : AlorairError → Call First}
    (first : Keeps queries remarks body) (second : ∀ error, Keeps queries remarks (handler error)) :
    Keeps queries remarks (Call.rescue body handler) := by
  apply Coroutine.Within.attempt first
  intro problem
  cases problem with
  | error error => exact second error
  | interrupted reason => trivial
  | recursion => trivial

theorem Keeps.check {result : Except AlorairError First} {next : First → Call Second}
    (each : ∀ value, Keeps queries remarks (next value)) :
    Keeps queries remarks (Call.check result >>= next : Call Second) := Coroutine.Within.then trivial each

end Rules

variable (library : Library) (account : Account)

theorem request_keeps {queries : ClientQuery → Prop} {remarks : ClientRemark → Prop} (verb : Verb)
    {endpoint : Endpoint} {token : Option String} {payload : Option Payload}
    (allowed : queries (.http endpoint token payload)) :
    Keeps queries remarks (request library verb endpoint token payload) := by
  unfold request
  split
  · trivial
  · split
    · trivial
    · apply Coroutine.Within.then (Coroutine.Within.request allowed)
      intro reply
      split <;> trivial

theorem logIn_keeps {remarks : ClientRemark → Prop} :
    Keeps ClientQuery.signsIn remarks (logIn library account) := by
  apply Coroutine.Within.then (Coroutine.Within.request trivial)
  intro password
  cases password with
  | none => trivial
  | some password =>
    apply Coroutine.Within.then (request_keeps library .post trivial)
    intro data
    apply Keeps.check
    intro token
    apply Coroutine.Within.then (request_keeps library .get trivial)
    intro user
    apply Keeps.check
    intro owner
    trivial

theorem authenticate_keeps :
    Keeps ClientQuery.signsIn ClientRemark.signsIn (authenticate library account) := by
  refine fun _ => ⟨trivial, ?_⟩
  apply Coroutine.Within.attempt
  · exact Coroutine.Within.then (logIn_keeps library account) fun _ _ => ⟨trivial, trivial⟩
  · intro problem
    cases problem with
    | error error => exact fun _ => ⟨trivial, trivial⟩
    | interrupted reason => exact fun _ => ⟨trivial, trivial⟩
    | recursion => exact fun _ => ⟨trivial, trivial⟩

theorem takeTurn_keeps (generation : Nat) :
    Keeps ClientQuery.signsIn ClientRemark.signsIn (takeTurn library account generation) := by
  refine Keeps.get fun now => ?_
  split
  · exact ⟨trivial, trivial⟩
  · exact authenticate_keeps library account

theorem login_keeps (task : Nat) :
    Keeps ClientQuery.signsIn ClientRemark.signsIn (login library account task) := by
  refine fun s => ⟨trivial, ?_⟩
  apply Coroutine.Within.withLock
  refine Keeps.get fun now => ?_
  split
  · exact ⟨trivial, trivial⟩
  · exact takeTurn_keeps library account s.generation

theorem refresh_keeps (task : Nat) (rejected : Option String) (generation : Nat) :
    Keeps ClientQuery.signsIn ClientRemark.signsIn (refresh library account task rejected generation) := by
  apply Coroutine.Within.withLock
  refine Keeps.get fun now => ?_
  split
  · exact ⟨trivial, trivial⟩
  · exact takeTurn_keeps library account generation

theorem read_keeps (task : Nat) (endpoint : Endpoint) (payload : Option Payload) :
    Keeps (reads endpoint payload) ClientRemark.signsIn (read library account task endpoint payload) := by
  apply Coroutine.Within.then
  · exact (login_keeps library account task).imp (fun _ => .inl) fun _ said => said
  · intro _ s
    refine ⟨trivial, ?_⟩
    apply Keeps.rescue (request_keeps library .get (.inr ⟨_, rfl⟩))
    intro error
    split
    · apply Coroutine.Within.then
      · exact (refresh_keeps library account task _ _).imp (fun _ => .inl) fun _ said => said
      · exact fun _ now => request_keeps library .get (.inr ⟨_, rfl⟩)
    · trivial

/-- A request is refused before it is sent, or the reply decides, or it is interrupted. A
reply that `json.loads` does not survive leaves a `RecursionError`. -/
theorem request_converses {verb : Verb} {endpoint : Endpoint} {token : Option String}
    {payload : Option Payload} {state final : Client} {trace : List (Exchange clientFace)}
    {result : Except Problem Json}
    (converses : Converses (request library verb endpoint token payload) state trace result final) :
    (trace = [] ∧ ∃ error, result = .error (.error error) ∧ error.outcomeUnknown = false) ∨
      (∃ reply : HttpReply, trace = [.asked (.http endpoint token payload),
          .answered ⟨.http endpoint token payload, reply⟩] ∧
        (overflows library.deep reply = true ∧ result = .error .recursion ∨
          overflows library.deep reply = false ∧
            result = ((received library.loads endpoint.command reply).mapError
              ({ · with stage := endpoint.stage })).mapError .error)) ∨
      ∃ reason, trace = [.asked (.http endpoint token payload), .interrupted reason] ∧
        result = .error (.interrupted reason) := by
  unfold request at converses
  split at converses
  · obtain ⟨rfl, rfl, -⟩ := converses_done.mp converses
    exact .inl ⟨rfl, _, rfl, rfl⟩
  · split at converses
    · obtain ⟨rfl, rfl, -⟩ := converses_done.mp converses
      exact .inl ⟨rfl, _, rfl, rfl⟩
    · obtain ⟨first, middle, left, right, rfl, asked, rest⟩ := converses_then.mp converses
      rcases converses_request.mp asked with ⟨reply, rfl, rfl⟩ | ⟨reason, rfl, rfl⟩
      · refine .inr (.inl ⟨reply, ?_⟩)
        simp only [Process.chain] at rest
        split at rest
        · next deep =>
          obtain ⟨rfl, rfl, -⟩ := converses_done.mp rest
          exact ⟨rfl, .inl ⟨deep, rfl⟩⟩
        · next shallow =>
          obtain ⟨rfl, rfl, -⟩ := converses_done.mp rest
          exact ⟨rfl, .inr ⟨by simpa using shallow, rfl⟩⟩
      · obtain ⟨rfl, rfl, -⟩ := converses_chain_error.mp rest
        exact .inr (.inr ⟨reason, rfl, rfl⟩)

section Lookups

/-- Remarks are not restricted. -/
abbrev Looks {Result : Type} (call : Call Result) : Prop := Keeps looksUp (fun _ => True) call

theorem login_looks (task : Nat) : Looks (login library account task) :=
  (login_keeps library account task).imp (fun _ => .inl) fun _ _ => trivial

theorem fetchPages_looks (task left page : Nat) (devices : Devices) :
    Looks (fetchPages library account task left page devices) := by
  induction left generalizing page devices with
  | zero => trivial
  | succ left ih =>
    apply Coroutine.Within.then
    · refine (read_keeps library account task _ _).imp ?_ fun _ _ => trivial
      rintro query (signing | ⟨token, rfl⟩)
      · exact .inl signing
      · exact .inr (.inl ⟨token, _, rfl⟩)
    · refine fun data => Keeps.get fun s => Keeps.say trivial ?_
      apply Keeps.check
      intro listed
      split
      · trivial
      · exact ih _ _

theorem fetchDevices_looks (task : Nat) : Looks (fetchDevices library account task) := by
  apply Keeps.rescue (fetchPages_looks library account task _ _ _)
  intro error
  split <;> trivial

theorem known_looks (task : Nat) (target : String) : Looks (known library account task target) := by
  refine Keeps.get fun s => ?_
  dsimp only
  split
  · apply Coroutine.Within.then (fetchDevices_looks library account task)
    intro devices _
    refine Keeps.get fun now => ?_
    split <;> trivial
  · refine Keeps.get fun now => ?_
    split <;> trivial

theorem resolve_looks (task : Nat) (mac : String) : Looks (resolve library account task mac) := by
  apply Keeps.check
  intro target
  apply Coroutine.Within.then (login_looks library account task)
  exact fun _ => Coroutine.Within.withLock (known_looks library account task target)

theorem deviceDetail_looks (task : Nat) (device : Dict) :
    Looks (deviceDetail library account task device) := by
  apply Keeps.check
  intro id
  apply Coroutine.Within.then
  · refine (read_keeps library account task _ _).imp ?_ fun _ _ => trivial
    rintro query (signing | ⟨token, rfl⟩)
    · exact .inl signing
    · exact .inr (.inr ⟨id, token, rfl⟩)
  · exact fun _ => trivial

theorem ownedDevice_looks (task : Nat) (mac : String) :
    Looks (ownedDevice library account task mac) := by
  apply Keeps.check
  intro target
  apply Coroutine.Within.then (resolve_looks library account task target)
  intro device
  apply Coroutine.Within.then (deviceDetail_looks library account task device)
  refine fun detail => Keeps.get fun s => ?_
  apply Keeps.check
  intro owned
  split
  · exact ⟨trivial, trivial⟩
  · trivial

end Lookups

end Call

end AlorairLite.Cloud
