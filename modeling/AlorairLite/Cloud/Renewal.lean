import AlorairLite.Cloud.Listing

/-! A vendor that shows one account to whoever has a valid token, and lets the current token expire
once: what it answers, and what of that can be told from a history of the client. -/

namespace AlorairLite.Cloud

open Async

/-- The object in a reply of the status 200. -/
def objectOf (library : Library) : HttpReply → Option Dict
  | .answered status (some bytes) =>
    if status = 200 ∧ bytes.length ≤ maxResponseBytes then
      match library.loads bytes with
      | some (.dict entries) => some entries
      | _ => none
    else none
  | _ => none

/-- The reply has code 200 and this data. -/
def Accepts (library : Library) (reply : HttpReply) (data : Json) : Prop :=
  ∃ entries, objectOf library reply = some entries ∧ numericCode (Dict.get entries "code") = some 200 ∧
    Dict.get entries "data" = data

/-- The reply has a code from 10000 on. -/
def Refuses (library : Library) (reply : HttpReply) : Prop :=
  ∃ entries code, objectOf library reply = some entries ∧ numericCode (Dict.get entries "code") = some code ∧
    10000 ≤ code

/-- The token that a login was answered with. -/
def issued (library : Library) : Sigma ClientQuery.Answer → Option String
  | ⟨.http .login _ _, reply⟩ =>
    (received library.loads false reply).toOption.bind fun data => (Call.loginToken data).toOption
  | _ => none

/-- What the vendor shows of an account that owns the device with this MAC. -/
structure Household (mac : String) where
  owner : String
  shows : Endpoint → Option Payload → Json
  target : String
  devices : Devices
  device : Dict
  id : String
  detail : Dict
  shown : Dict
  identity : Call.accountIdentity (shows .userInfo none) = .ok owner
  valid : normalizeMac (.text mac) = .ok target
  listed : (gather (some owner) (fun page => shows .deviceList (pagePayload page)) maxPages 1 []).2 = .ok devices
  present : devices.lookup target = some device
  named : identifier (Dict.get device "id") = .ok id
  matching : Call.matchingDetail device id (shows (.deviceDetail id) none) = .ok detail
  owned : Call.ownedBy (some owner) detail = .ok true
  published : publicDevice (merged device detail) = .ok shown

section Replies

variable {library : Library} {reply : HttpReply} {data : Json}

theorem objectOf_received {entries : Dict} (object : objectOf library reply = some entries) :
    overflows library.deep reply = false ∧ received library.loads false reply = acknowledged false (.dict entries) := by
  unfold objectOf at object
  split at object
  · rename_i status bytes
    split at object
    · rename_i bounds
      obtain ⟨rfl, short⟩ := bounds
      split at object
      · rename_i found loaded
        cases object
        constructor
        · rw [overflows, Bool.and_eq_false_iff]
          right
          rw [Bool.and_eq_false_iff]
          right
          cases deep : library.deep bytes with
          | false => rfl
          | true =>
            rw [Library.loads_deep deep] at loaded
            cases loaded
        · simp [received, not_lt.mpr short, loaded]
      · cases object
    · cases object
  · cases object

theorem Accepts.received (accepts : Accepts library reply data) :
    overflows library.deep reply = false ∧ received library.loads false reply = .ok data := by
  obtain ⟨entries, object, code, rfl⟩ := accepts
  obtain ⟨fits, read⟩ := objectOf_received object
  refine ⟨fits, read.trans ?_⟩
  simp [acknowledged, code]

theorem Refuses.received (refuses : Refuses library reply) :
    overflows library.deep reply = false ∧
      ∃ error, received library.loads false reply = .error error ∧ error.kind = .authentication := by
  obtain ⟨entries, code, object, found, large⟩ := refuses
  obtain ⟨fits, read⟩ := objectOf_received object
  refine ⟨fits, _, read.trans (by simp [acknowledged, found, large]; rfl), ?_⟩
  unfold vendorRejection
  split
  · rfl
  · split <;> rfl

end Replies

section Worlds

/-- What the vendor knows of its tokens. -/
structure Vendor where
  valid : List String := []
  current : Option String := none
  expired : Bool := false

namespace Vendor

def issue (vendor : Vendor) (token : String) : Vendor :=
  { vendor with valid := token :: vendor.valid, current := some token }

/-- The current token is no longer valid. -/
def expire (vendor : Vendor) : Vendor where
  valid := vendor.valid.filter fun token => vendor.current ≠ some token
  current := none
  expired := true

/-- What an answer does to the tokens: that of a login issues one. -/
def answered (library : Library) (vendor : Vendor) (reply : Sigma ClientQuery.Answer) : Vendor :=
  match issued library reply with
  | some token => vendor.issue token
  | none => vendor

def after (library : Library) (vendor : Vendor) : Step clientFace ClientOperation → Vendor
  | .answer _ reply => vendor.answered library reply
  | _ => vendor

end Vendor

/-- The calls of a client and its vendor. A request is processed when it is answered, and the
reply is on its way until the call resumes. -/
structure World where
  client : ClientMachine
  vendor : Vendor := {}

inductive WorldStep where
  | client (step : Step clientFace ClientOperation)
  /-- The current token expires. -/
  | expire

def world (library : Library) (account : Account) : System World WorldStep where
  initial state := (client library account).initial state.client ∧ state.vendor = {}
  step state
    | .client step => ((client library account).step state.client step).map fun client =>
      ⟨client, state.vendor.after library step⟩
    | .expire =>
      if state.vendor.expired || state.vendor.current.isNone then none
      else some { state with vendor := state.vendor.expire }

variable {mac : String} (home : Household mac) (library : Library)

/-- A login is accepted with a usable token; a read is answered from the account exactly if its
token is valid, and refused otherwise. -/
def Household.Answers (valid : List String) : Sigma ClientQuery.Answer → Prop
  | ⟨.encrypt, (password : Option String)⟩ => password.isSome
  | ⟨.http endpoint token payload, reply⟩ =>
    if endpoint = .login then ∃ data token, Accepts library reply data ∧ Call.loginToken data = .ok token
    else if token.any (· ∈ valid) then Accepts library reply (home.shows endpoint payload)
    else Refuses library reply

/-- The client only runs `async_status` for this device, without interruptions, and the vendor
is as above. -/
def Household.Faithful (state : World) : WorldStep → Prop
  | .client (.start operation) => operation = .status mac
  | .client (.answer _ reply) => home.Answers library state.vendor.valid reply
  | .client (.interrupt _ _) => False
  | .client (.resume _) | .client (.drift _) | .expire => True

/-- What the client makes of this page or detail depends on the owner id it has. -/
def Household.OwnerMatters (endpoint : Endpoint) (payload : Option Payload) : Prop :=
  match endpoint with
  | .deviceList => ∃ devices, addPage none devices (home.shows endpoint payload) ≠
      addPage (some home.owner) devices (home.shows endpoint payload)
  | .deviceDetail _ => True
  | _ => False

/-- No token expires between the login that issued it and the account request of that login, and
no page or detail that depends on the owner id is taken in while there is none. -/
def Household.Calm (state : World) : WorldStep → Prop
  | .client (.answer _ ⟨.http .userInfo token _, _⟩) => token.any (· ∈ state.vendor.valid)
  | .client (.resume task) => ∀ held endpoint token payload reply, state.client.tasks task = some held →
      held.answer = some ⟨.http endpoint token payload, reply⟩ →
        Accepts library reply (home.shows endpoint payload) → home.OwnerMatters endpoint payload →
          state.client.scene.shared.ownerId.isSome
  | _ => True

end Worlds

section Histories

/-- The vendor has refused the token of a read. -/
def TokenRefused (library : Library) (log : ClientLog) : Prop :=
  ∃ task endpoint token payload reply, .answered task ⟨.http endpoint token payload, reply⟩ ∈ log ∧
    endpoint ≠ .login ∧ endpoint ≠ .userInfo ∧ Refuses library reply

/-- The vendor has issued this token. -/
def Issued (library : Library) (log : ClientLog) (token : String) : Prop :=
  ∃ task reply, .answered task reply ∈ log ∧ issued library reply = some token

/-- The vendor has issued this token after it refused another one. -/
def Renewed (library : Library) (log : ClientLog) (token : String) : Prop :=
  ∃ before task reply after, log = before ++ .answered task reply :: after ∧ issued library reply = some token ∧
    TokenRefused library before

variable {library : Library} {log later : ClientLog} {token : String}

theorem TokenRefused.mono (refused : TokenRefused library log) (grown : log <+: later) : TokenRefused library later := by
  obtain ⟨task, endpoint, token, payload, reply, answered, refuses⟩ := refused
  exact ⟨task, endpoint, token, payload, reply, grown.mem answered, refuses⟩

theorem Issued.mono (had : Issued library log token) (grown : log <+: later) : Issued library later token := by
  obtain ⟨task, reply, answered, same⟩ := had
  exact ⟨task, reply, grown.mem answered, same⟩

theorem Renewed.mono (renewed : Renewed library log token) (grown : log <+: later) :
    Renewed library later token := by
  obtain ⟨before, task, reply, after, rfl, same, refused⟩ := renewed
  obtain ⟨events, rfl⟩ := grown
  exact ⟨before, task, reply, after ++ events, by simp, same, refused⟩

/-- The end of the latest attempt. -/
theorem closed_split {ending : Ending} (closed : phase log = .closed ending) :
    ∃ before task between, log = before ++ .told task (.finished ending) :: between ∧
      (endings log).length = (endings before).length + 1 := by
  induction log using List.reverseRecOn with
  | nil => cases closed
  | append_singleton log event ih =>
    rw [phase_append] at closed
    cases steady : turning event with
    | false =>
      rw [Phase.next_steady _ steady] at closed
      obtain ⟨before, task, between, rfl, count⟩ := ih closed
      refine ⟨before, task, between ++ [event], by simp, ?_⟩
      rw [endings_append, endings_cons, endingOf_steady steady]
      simpa using count
    | true =>
      unfold turning at steady
      split at steady
      · cases closed
      · rename_i task ending'
        cases closed
        exact ⟨log, task, [], rfl, by simp [endingOf]⟩
      · cases steady

end Histories

end AlorairLite.Cloud
