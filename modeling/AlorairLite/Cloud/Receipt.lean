import AlorairLite.Async.Errors
import AlorairLite.Async.Starts
import AlorairLite.Cloud.Mutation
import AlorairLite.Cloud.Ownership

/-! What the outcome of a command says about its request to the vendor: whether it was
sent, and what the vendor made of it. -/

namespace AlorairLite.Cloud

open Async

/-- An error of this check leaves nothing open. -/
def Clear {Result : Type} (result : Except AlorairError Result) : Prop :=
  ∀ error, result = .error error → error.outcomeUnknown = false

/-- A problem that leaves nothing open, or no `AlorairError`. -/
def Plain : Problem → Prop
  | .error error => error.outcomeUnknown = false
  | .interrupted _ | .recursion => True

section Checks

variable {First Second : Type} {result : Except AlorairError First}

theorem Clear.ok {value : First} : Clear (.ok value : Except AlorairError First) := by
  intro error impossible
  cases impossible

theorem Clear.error {error : AlorairError} (known : error.outcomeUnknown = false) :
    Clear (.error error : Except AlorairError First) := by
  intro other same
  cases same
  exact known

theorem Clear.bind {next : First → Except AlorairError Second} (first : Clear result)
    (second : ∀ value, Clear (next value)) : Clear (result >>= next) := by
  cases result with
  | ok value => exact second value
  | error error => exact .error (first error rfl)

theorem Clear.map {change : First → Second} (first : Clear result) : Clear (result.map change) := by
  cases result with
  | ok value => exact .ok
  | error error => exact .error (first error rfl)

theorem Clear.staged {stage : String} (first : Clear result) :
    Clear (result.mapError ({ · with stage })) := by
  cases result with
  | ok value => exact .ok
  | error error => exact .error (first error rfl)

theorem Clear.check (clear : Clear result) : (Call.check result).Fails Plain := by
  cases result with
  | ok value => trivial
  | error error => exact clear error rfl

theorem Clear.checked {next : First → Call Second} (clear : Clear result)
    (rest : ∀ value, (next value).Fails Plain) :
    Process.Fails Plain (Call.check result >>= next : Call Second) := Process.Fails.then clear.check rest

theorem vendorRejection_clear {error : AlorairError} {code : Option Int}
    (known : error.outcomeUnknown = false) : (vendorRejection error code).outcomeUnknown = false := by
  unfold vendorRejection
  split
  · exact known
  · split <;> exact known

theorem acknowledged_clear {parsed : Json} : Clear (acknowledged false parsed) := by
  unfold acknowledged
  split
  · dsimp only
    split
    · exact .error (vendorRejection_clear rfl)
    · split
      · exact .error (vendorRejection_clear rfl)
      · exact .ok
  · exact .error rfl

/-- What is no command is never open. -/
theorem received_clear {loads : List UInt8 → Option Json} {reply : HttpReply} :
    Clear (received loads false reply) := by
  unfold received
  dsimp only
  split
  · exact .error rfl
  · split
    · exact .error rfl
    · split
      · exact .error rfl
      · split
        · exact .error rfl
        · split
          · exact .error rfl
          · split
            · exact .error rfl
            · split
              · exact acknowledged_clear
              · exact .error rfl

theorem identifier_clear {value : Json} : Clear (identifier value) := by
  unfold identifier
  dsimp only
  split
  · split
    · exact .ok
    · exact .error rfl
  · split
    · exact .ok
    · exact .error rfl
  · exact .error rfl

theorem normalizeMac_clear {value : Json} : Clear (normalizeMac value) := by
  unfold normalizeMac
  dsimp only
  split
  · split
    · exact .ok
    · split
      · split
        · exact .ok
        · exact .error rfl
      · exact .error rfl
  · exact .error rfl

theorem deviceIdentity_clear {value : Json} : Clear (deviceIdentity value) := by
  unfold deviceIdentity
  split
  · dsimp only
    split
    · exact .ok
    · exact normalizeMac_clear
  · exact normalizeMac_clear

theorem markedForeign_clear {owner : Option String} {device : Dict} : Clear (markedForeign owner device) := by
  unfold markedForeign
  split
  · exact .ok
  · exact identifier_clear.map

theorem ownedBy_clear {owner : Option String} {detail : Dict} : Clear (Call.ownedBy owner detail) := by
  unfold Call.ownedBy
  split
  · exact .ok
  · exact identifier_clear.map

theorem placeRow_clear {devices : Devices} {device : Dict} : Clear (placeRow devices device) := by
  apply Clear.bind deviceIdentity_clear.map
  intro mac
  apply Clear.bind identifier_clear
  intro id
  split
  · exact .ok
  · apply Clear.bind identifier_clear
    intro knownId
    apply Clear.bind deviceIdentity_clear
    intro knownNumber
    apply Clear.bind deviceIdentity_clear
    intro number
    split
    · exact .error rfl
    · exact .ok

theorem addRow_clear {owner : Option String} {devices : Devices} {row : Json} :
    Clear (addRow owner devices row) := by
  cases row with
  | dict device =>
    apply Clear.bind markedForeign_clear
    intro foreign
    split
    · exact .ok
    · exact placeRow_clear
  | _ => exact .error rfl

theorem addRows_clear {owner : Option String} {rows : List Json} {devices : Devices} :
    Clear (rows.foldlM (addRow owner) devices) := by
  induction rows generalizing devices with
  | nil => exact .ok
  | cons row rest ih => exact Clear.bind addRow_clear fun _ => ih

theorem addPage_clear {owner : Option String} {devices : Devices} {data : Json} :
    Clear (addPage owner devices data) := by
  unfold addPage
  dsimp only
  split
  · split
    · split
      · exact .error rfl
      · split
        · exact .error rfl
        · exact addRows_clear.map
    · exact .error rfl
  · exact .error rfl

theorem matchingDetail_clear {device : Dict} {id : String} {detail : Json} :
    Clear (Call.matchingDetail device id detail) := by
  unfold Call.matchingDetail
  dsimp only
  split
  · apply Clear.bind deviceIdentity_clear
    intro number
    apply Clear.bind deviceIdentity_clear
    intro expected
    split
    · exact .error rfl
    · split
      · apply Clear.bind identifier_clear
        intro own
        split
        · exact .error rfl
        · exact .ok
      · exact .ok
  · exact .error rfl

theorem frame_clear {order : Request} : Clear (Call.frame order) := by
  unfold Call.frame
  split
  · exact .ok
  · split
    · exact .ok
    · exact .error rfl
  · exact .ok
  · exact .ok
  · split
    · exact .ok
    · split
      · exact .ok
      · exact .error rfl
  · split
    · exact .ok
    · split
      · exact .ok
      · exact .error rfl

theorem publicDevice_clear {device : Dict} : Clear (publicDevice device) :=
  Clear.bind deviceIdentity_clear fun _ => .ok

theorem loginToken_clear {data : Json} : Clear (Call.loginToken data) := by
  unfold Call.loginToken
  dsimp only
  split
  · split
    · split
      · exact .ok
      · exact .error rfl
    · exact .error rfl
  · exact .error rfl

theorem accountIdentity_clear {user : Json} : Clear (Call.accountIdentity user) := by
  unfold Call.accountIdentity
  split
  · cases identifier _ with
    | ok owner => exact .ok
    | error error => exact .error rfl
  · exact .error rfl

end Checks

section Lookups

variable {library : Library} {account : Account} {task : Nat} {First : Type}

theorem Call.rescue_plain {body : Call First} {handler : AlorairError → Call First}
    (first : body.Fails Plain) (second : ∀ error, error.outcomeUnknown = false → (handler error).Fails Plain) :
    (Call.rescue body handler).Fails Plain := by
  apply first.attempt
  intro problem plain
  cases problem with
  | error error => exact second error plain
  | interrupted reason => trivial
  | recursion => trivial

theorem Call.request_plain {verb : Verb} {endpoint : Endpoint} {token : Option String}
    {payload : Option Payload} (harmless : endpoint.verb = verb → endpoint.command = false) :
    (Call.request library verb endpoint token payload).Fails Plain := by
  unfold Call.request
  split
  · exact .raise rfl
  · rename_i fits
    have same : endpoint.verb = verb := by simpa using (not_or.mp fits).2
    split
    · exact .raise rfl
    · apply Process.Fails.then (.request fun _ => trivial)
      intro reply
      split
      · exact .raise trivial
      · rw [harmless same]
        exact received_clear.staged.check

theorem Call.get_plain {endpoint : Endpoint} {token : Option String} {payload : Option Payload} :
    (Call.request library .get endpoint token payload).Fails Plain := by
  apply Call.request_plain
  intro get
  unfold Endpoint.verb at get
  split at get
  · cases get
  · simp_all

theorem Call.logIn_plain : (Call.logIn library account).Fails Plain := by
  apply Process.Fails.then (.request fun _ => trivial)
  intro password
  cases password with
  | none => exact .raise rfl
  | some password =>
    apply Process.Fails.then (Call.request_plain fun _ => rfl)
    intro data
    apply loginToken_clear.checked
    intro token
    apply Process.Fails.then Call.get_plain
    exact fun user => accountIdentity_clear.checked fun owner => trivial

theorem Call.authenticate_plain : (Call.authenticate library account).Fails Plain := by
  apply Process.Fails.modify
  apply Process.Fails.say
  refine Process.Fails.attempt (Process.Fails.then Call.logIn_plain fun _ => ?_) fun problem plain => ?_
  · exact fun _ => trivial
  · cases problem with
    | error error => exact Process.Fails.then (fun _ => trivial) fun _ => .raise plain
    | interrupted reason => exact Process.Fails.then (fun _ => trivial) fun _ => .raise trivial
    | recursion => exact Process.Fails.then (fun _ => trivial) fun _ => .raise trivial

theorem Call.takeTurn_plain {generation : Nat} : (Call.takeTurn library account generation).Fails Plain := by
  apply Process.Fails.get
  intro now
  split
  · exact Process.Fails.say (.raise rfl)
  · exact Call.authenticate_plain

theorem Call.login_plain : (Call.login library account task).Fails Plain := by
  apply Process.Fails.get
  intro s
  apply Process.Fails.say
  apply Process.Fails.withLock fun _ => trivial
  apply Process.Fails.get
  intro now
  cases now.token with
  | some token => trivial
  | none => exact Call.takeTurn_plain

theorem Call.refresh_plain {rejected : Option String} {generation : Nat} :
    (Call.refresh library account task rejected generation).Fails Plain := by
  apply Process.Fails.withLock fun _ => trivial
  apply Process.Fails.get
  intro now
  split
  · trivial
  · exact Call.takeTurn_plain

theorem Call.read_plain {endpoint : Endpoint} {payload : Option Payload} :
    (Call.read library account task endpoint payload).Fails Plain := by
  apply Process.Fails.then Call.login_plain
  intro _
  apply Process.Fails.get
  intro s
  apply Process.Fails.say
  apply Call.rescue_plain Call.get_plain
  intro error plain
  split
  · apply Process.Fails.then Call.refresh_plain
    exact fun _ => Process.Fails.get fun now => Call.get_plain
  · exact .raise plain

theorem Call.fetchPages_plain {left page : Nat} {devices : Devices} :
    (Call.fetchPages library account task left page devices).Fails Plain := by
  induction left generalizing page devices with
  | zero => exact .raise rfl
  | succ left ih =>
    apply Process.Fails.then Call.read_plain
    intro data
    apply Process.Fails.get
    intro s
    apply Process.Fails.say
    apply addPage_clear.checked
    intro listed
    split
    · trivial
    · exact ih

theorem Call.known_plain {target : String} : (Call.known library account task target).Fails Plain := by
  have devices : (Call.fetchDevices library account task).Fails Plain := by
    apply Call.rescue_plain Call.fetchPages_plain
    intro error plain
    split <;> exact .raise plain
  apply Process.Fails.get
  intro s
  split
  · apply Process.Fails.then devices
    intro devices
    apply Process.Fails.modify
    refine Process.Fails.get fun now => ?_
    split
    · trivial
    · exact .raise rfl
  · refine Process.Fails.get fun now => ?_
    split
    · trivial
    · exact .raise rfl

theorem Call.resolve_plain {mac : String} : (Call.resolve library account task mac).Fails Plain := by
  apply normalizeMac_clear.checked
  intro target
  apply Process.Fails.then Call.login_plain
  exact fun _ => Process.Fails.withLock (fun _ => trivial) Call.known_plain

theorem Call.ownedDevice_plain {mac : String} :
    (Call.ownedDevice library account task mac).Fails Plain := by
  apply normalizeMac_clear.checked
  intro target
  apply Process.Fails.then Call.resolve_plain
  intro device
  apply Process.Fails.then
  · apply identifier_clear.checked
    intro id
    exact Process.Fails.then Call.read_plain fun detail => matchingDetail_clear.staged.check
  · intro detail
    apply Process.Fails.get
    intro s
    apply ownedBy_clear.checked
    intro owned
    split
    · trivial
    · exact .raise rfl

theorem Call.status_plain {mac : String} : (Call.status library account task mac).Fails Plain := by
  apply Process.Fails.then Call.ownedDevice_plain
  exact fun device => publicDevice_clear.checked fun shown _ => trivial

end Lookups

/-- What the result of a command tells about its request. -/
structure Truthful (loads : List UInt8 → Option Json) (trace : List (Exchange clientFace))
    (result : Except Problem Json) : Prop where
  once : (trace.filterMap sentCommand).length ≤ 1
  returned : ∀ value, result = .ok value → ∃ payload, AcknowledgedIn loads trace (.control, payload)
  unsent : ∀ error, result = .error (.error error) → error.kind = .cannotConnect ∨ error.kind = .protocol →
    trace.filterMap sentCommand = []
  uncertain : ∀ error, result = .error (.error error) → error.outcomeUnknown →
    ∃ command reply, (command, reply) ∈ trace.filterMap (commandReply loads) ∧ Uncertain reply
  refused : ∀ error, result = .error (.error error) →
    error.kind = .authentication ∨ error.kind = .command ∧ error.outcomeUnknown = false →
      trace.filterMap sentCommand = [] ∨
        ∃ command reply, (command, reply) ∈ trace.filterMap (commandReply loads) ∧ Definitive reply

section Commands

variable {library : Library} {account : Account} {task : Nat} {state final : Client}
  {trace : List (Exchange clientFace)} {loads : List UInt8 → Option Json}

/-- A command that ends before its request. -/
theorem Truthful.early {problem : Problem} (silent : trace.filterMap sentCommand = []) (plain : Plain problem) :
    Truthful loads trace (.error problem) where
  once := by simp [silent]
  returned value impossible := by cases impossible
  unsent error _ _ := silent
  uncertain error same unknown := by
    cases same
    rw [show error.outcomeUnknown = false from plain] at unknown
    cases unknown
  refused error _ _ := .inl silent

theorem acknowledged_kinds {parsed : Json} {error : AlorairError} (judged : acknowledged true parsed = .error error) :
    error.kind = .authentication ∧ error.outcomeUnknown = false ∨ error.kind = .command := by
  cases parsed with
  | dict entries =>
    simp only [acknowledged, if_true] at judged
    split at judged
    · cases judged
      refine .inl ⟨?_, vendorRejection_clear rfl⟩
      unfold vendorRejection
      split
      · rfl
      · split <;> rfl
    · split at judged
      · cases judged
        exact .inr rfl
      · cases judged
  | _ =>
    cases judged
    exact .inr rfl

theorem received_kinds {reply : HttpReply} {error : AlorairError}
    (judged : received loads true reply = .error error) :
    error.kind = .authentication ∧ error.outcomeUnknown = false ∨ error.kind = .command := by
  cases reply with
  | failed =>
    cases judged
    exact .inr rfl
  | answered status body =>
    simp only [received, if_true] at judged
    split at judged
    · cases judged
      exact .inl ⟨rfl, rfl⟩
    · split at judged
      · cases judged
        exact .inr rfl
      · split at judged
        · cases judged
          exact .inr rfl
        · split at judged
          · cases judged
            exact .inr rfl
          · split at judged
            · cases judged
              exact .inr rfl
            · split at judged
              · exact acknowledged_kinds judged
              · cases judged
                exact .inr rfl

theorem Call.status_looks {mac : String} : Call.Looks (Call.status library account task mac) := by
  apply Coroutine.Within.then (Call.ownedDevice_looks library account task mac)
  intro device
  apply Call.Keeps.check
  exact fun shown => Call.Keeps.get fun s => trivial

/-- A command whose request is the last thing that it does. -/
theorem sent_last {past : List (Exchange clientFace)} {query : ClientQuery} {last : Exchange clientFace}
    (silent : past.filterMap sentCommand = []) (answer : sentCommand last = none) :
    (past ++ [.asked query, last]).filterMap sentCommand = (sentCommand (.asked query)).toList := by
  rw [List.filterMap_append, silent, List.filterMap_cons, List.filterMap_cons, answer]
  cases sentCommand (.asked query) <;> rfl

theorem replied_last (past : List (Exchange clientFace)) (token : Option String) (payload : Payload)
    (reply : HttpReply) : ((.control, payload), received loads true reply) ∈ List.filterMap (commandReply loads)
      (past ++ [.asked (.http .control token (some payload)),
        .answered ⟨.http .control token (some payload), reply⟩]) := by
  rw [List.filterMap_append]
  exact List.mem_append_right _ (List.mem_singleton_self _)

/-- The request of a command is answered with an error. -/
theorem Truthful.denied {past : List (Exchange clientFace)} {token : Option String} {payload : Payload}
    {reply : HttpReply} {error : AlorairError} (silent : past.filterMap sentCommand = [])
    (judged : received loads true reply = .error error) :
    Truthful loads (past ++ [.asked (.http .control token (some payload)),
        .answered ⟨.http .control token (some payload), reply⟩])
      (.error (.error { error with stage := "control" })) := by
  have replied := @replied_last loads past token payload reply
  refine ⟨?_, ?_, ?_, ?_, ?_⟩
  · rw [sent_last silent rfl]
    exact Nat.le_refl _
  · intro value impossible
    cases impossible
  · intro other same kinds
    cases same
    rcases received_kinds judged with ⟨kind, -⟩ | kind <;> simp [kind] at kinds
  · intro other same unknown
    cases same
    rcases received_kinds judged with ⟨-, known⟩ | kind
    · rw [show error.outcomeUnknown = false from known] at unknown
      cases unknown
    · exact ⟨_, _, replied, error, judged, kind, unknown⟩
  · intro other same kinds
    cases same
    exact .inr ⟨_, _, replied, error, judged, kinds⟩

/-- The request of a command is acknowledged. -/
theorem Truthful.accepted {past : List (Exchange clientFace)} {token : Option String} {payload : Payload}
    {reply : HttpReply} {data value : Json} (silent : past.filterMap sentCommand = [])
    (judged : received loads true reply = .ok data) :
    Truthful loads (past ++ [.asked (.http .control token (some payload)),
        .answered ⟨.http .control token (some payload), reply⟩]) (.ok value) where
  once := by
    rw [sent_last silent rfl]
    exact Nat.le_refl _
  returned value same := by
    refine ⟨payload, data, ?_⟩
    rw [← judged]
    exact replied_last past token payload reply
  unsent error impossible := by cases impossible
  uncertain error impossible := by cases impossible
  refused error impossible := by cases impossible

/-- No `AlorairError` ends the request of a command. -/
theorem Truthful.stopped {past : List (Exchange clientFace)} {token : Option String} {payload : Payload}
    {last : Exchange clientFace} {problem : Problem} (silent : past.filterMap sentCommand = [])
    (answer : sentCommand last = none) (other : ∀ error, problem ≠ .error error) :
    Truthful loads (past ++ [.asked (.http .control token (some payload)), last]) (.error problem) where
  once := by
    rw [sent_last silent answer]
    exact Nat.le_refl _
  returned value impossible := by cases impossible
  unsent error same := absurd (Except.error.inj same) (other error)
  uncertain error same := absurd (Except.error.inj same) (other error)
  refused error same := absurd (Except.error.inj same) (other error)

theorem Call.command_truthful {mac : String} {order : Request} {result : Except Problem Unit}
    (converses : Converses (Call.command library account task mac order) state trace result final) :
    Truthful library.loads trace (result.map fun _ => .null) := by
  obtain ⟨chosen, middle, left, right, rfl, checked, rest⟩ := converses_then.mp converses
  obtain ⟨rfl, rfl, rfl⟩ := converses_done.mp checked
  cases framed : Call.frame order with
  | error error =>
    rw [framed] at rest
    obtain ⟨rfl, rfl, -⟩ := converses_chain_error.mp rest
    exact .early rfl (frame_clear error framed)
  | ok chosen =>
    obtain ⟨frameType, value⟩ := chosen
    rw [framed] at rest
    rcases converses_withLock rest with ⟨reason, rfl, rfl⟩ | ⟨entry, leave, inside⟩
    · exact .early rfl trivial
    · obtain ⟨shown, looked, past, later, rfl, looking, rest⟩ := converses_then.mp inside
      obtain ⟨silent, -⟩ := looks_silent library.loads (looking.fits Call.status_looks)
      cases shown with
      | error problem =>
        obtain ⟨rfl, rfl, -⟩ := converses_chain_error.mp rest
        exact .early (by simpa using silent) (looking.fails Call.status_plain)
      | ok detail =>
        obtain ⟨sent, after, before, later, rfl, requested, last⟩ :=
          converses_then.mp (converses_get.mp rest)
        rcases Call.request_converses library requested with
          ⟨rfl, error, rfl, known⟩ | ⟨reply, rfl, ⟨-, rfl⟩ | ⟨-, rfl⟩⟩ | ⟨reason, rfl, rfl⟩
        · obtain ⟨rfl, rfl, -⟩ := converses_chain_error.mp last
          exact .early (by simpa using silent) known
        · obtain ⟨rfl, rfl, -⟩ := converses_chain_error.mp last
          rw [List.append_nil]
          exact .stopped silent rfl (by simp)
        · cases judged : received library.loads true reply with
          | ok data =>
            rw [show received library.loads Endpoint.control.command reply = .ok data from judged] at last
            obtain ⟨rfl, rfl, -⟩ := converses_done.mp last
            rw [List.append_nil]
            exact .accepted silent judged
          | error error =>
            rw [show received library.loads Endpoint.control.command reply = .error error from judged] at last
            obtain ⟨rfl, rfl, -⟩ := converses_chain_error.mp last
            rw [List.append_nil]
            exact .denied silent judged
        · obtain ⟨rfl, rfl, -⟩ := converses_chain_error.mp last
          rw [List.append_nil]
          exact .stopped silent rfl (by simp)

section Ends

variable {machine : ClientMachine} {mac : String} {order : Request} {result : Except Problem Json}

/-- A command of the client that has ended, by itself. -/
theorem command_converses (run : Reachable (client library account) machine)
    (started : .started task (.command mac order) ∈ machine.scene.log)
    (outcome : machine.result? task = some result) : ∃ ended start final,
      Converses (Call.command library account task mac order) start (exchanges task machine.scene.log) ended final ∧
        result = ended.map fun _ => .null := by
  obtain ⟨held, found, over_⟩ := Machine.result?_some outcome
  obtain ⟨operation, start, final, started', converses⟩ := run.converses found over_
  cases run.counted.unique started started'
  obtain ⟨first, middle, left, right, whole, ran, rest⟩ := converses_then.mp converses
  rw [whole]
  cases first with
  | ok value =>
    obtain ⟨rfl, rfl, -⟩ := converses_done.mp rest
    exact ⟨.ok value, start, middle, (List.append_nil left).symm ▸ ran, rfl⟩
  | error problem =>
    obtain ⟨rfl, rfl, -⟩ := converses_chain_error.mp rest
    exact ⟨.error problem, start, middle, (List.append_nil left).symm ▸ ran, rfl⟩

/-- A command of the client that has ended tells the truth about its request. -/
theorem command_tells (run : Reachable (client library account) machine)
    (started : .started task (.command mac order) ∈ machine.scene.log)
    (outcome : machine.result? task = some result) :
    Truthful library.loads (exchanges task machine.scene.log) result := by
  obtain ⟨ended, start, final, ran, rfl⟩ := command_converses run started outcome
  exact Call.command_truthful ran

/-- A command of the client that has ended with a `RecursionError` was sent a nested reply. -/
theorem command_broken (run : Reachable (client library account) machine)
    (started : .started task (.command mac order) ∈ machine.scene.log)
    (outcome : machine.result? task = some (.error .recursion)) :
    Happened (Nested library) (exchanges task machine.scene.log) := by
  obtain ⟨ended, start, final, ran, same⟩ := command_converses run started outcome
  apply (Call.command_breaks ran).mp
  cases ended with
  | ok value => cases same
  | error problem =>
    cases same
    rfl

end Ends

/-- In every order of the steps of all calls of one client, the outcome of a command tells the truth
about its request: it returns only if the vendor acknowledged it; it is unreachable or a protocol
error only if nothing was sent; its outcome is open only if the reply left it open; and it is rejected
only if nothing was sent or the reply is declared a refusal. -/
theorem outcome_truthful {machine : ClientMachine} {mac : String} {order : Request}
    {result : Except Problem Json} (run : Reachable (client library account) machine)
    (started : .started task (.command mac order) ∈ machine.scene.log)
    (outcome : machine.result? task = some result) :
    Truthful library.loads (exchanges task machine.scene.log) result := command_tells run started outcome

/-- A purge whose login is not answered. -/
def exampleUnreached : List (Step clientFace ClientOperation) :=
  let password : Option String := some "x"
  let login : ClientQuery := .http .login none
    (some [("username", .text "user"), ("password", .text "x"), ("method", .int 1)])
  [.start (.command "aabbccddee0f" .purge), .answer 0 ⟨.encrypt, password⟩, .resume 0,
    .answer 0 ⟨login, HttpReply.failed⟩, .resume 0]

def purges (task : Nat) : ClientEvent → Bool
  | .started other (.command "aabbccddee0f" .purge) => other = task
  | _ => false

def unreachable : Except Problem Json → Bool
  | .error (.error error) => error.kind = .cannotConnect
  | _ => false

theorem purges_any {log : ClientLog} (some : log.any (purges task)) :
    .started task (.command "aabbccddee0f" .purge) ∈ log := by
  obtain ⟨event, member, same⟩ := List.any_eq_true.mp some
  unfold purges at same
  split at same
  · cases of_decide_eq_true same
    exact member
  · cases same

theorem outcome_truthful_example : ∃ machine error,
    (client exampleVendor exampleAccount).follow exampleClient exampleUnreached = some machine ∧
      machine.result? 0 = some (.error (.error error)) ∧ error.kind = .cannotConnect ∧
        (exchanges 0 machine.scene.log).filterMap sentCommand = [] := by
  have shown : (((client exampleVendor exampleAccount).follow exampleClient exampleUnreached).map fun machine =>
      machine.scene.log.any (purges 0) && (machine.result? 0).any unreachable) = some true := by
    decide +kernel
  obtain ⟨machine, followed, both⟩ := Option.map_eq_some_iff.mp shown
  obtain ⟨some, ends⟩ := (Bool.and_eq_true _ _).mp both
  obtain ⟨result, ended, judged⟩ := (Option.any_eq_true _ _).mp ends
  unfold unreachable at judged
  split at judged
  · rename_i error
    have run : Reachable (client exampleVendor exampleAccount) machine :=
      exampleClient_run.follow (fun _ _ => trivial) followed
    have truthful := outcome_truthful run (purges_any some) ended
    have kind := of_decide_eq_true judged
    exact ⟨machine, error, followed, ended, kind, truthful.unsent error rfl (.inl kind)⟩
  · cases judged

end Commands

end AlorairLite.Cloud
