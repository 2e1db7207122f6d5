import AlorairLite.Cloud.Turn

/-! Whose device a command is for. The methods of the client only make moves: what they
return was listed and verified, and what they send is addressed to that device. -/

namespace AlorairLite.Cloud

open Async

variable {careful : Prop} {loads : List UInt8 → Option Json} {library : Library} {account : Account}
  {task : Nat} {operation : ClientOperation} {origin now : ClientScene}

/-- A method has only made moves, and this holds of what it returns. -/
structure Gives (careful : Prop) (loads : List UInt8 → Option Json) (task : Nat)
    (operation : ClientOperation) {Result : Type} (holds : Result → ClientLog → Prop)
    (result : Except Problem Result) (origin now : ClientScene) : Prop where
  going : Calling careful loads task operation origin now
  gives : ∀ value, result = .ok value → holds value now.log

section Rules

variable {First Second : Type} {holds : First → ClientLog → Prop} {later : Second → ClientLog → Prop}

theorem Gives.error {problem : Problem} (going : Calling careful loads task operation origin now) :
    Gives careful loads task operation holds (.error problem) origin now := ⟨going, nofun⟩

theorem Gives.ok {value : First} (going : Calling careful loads task operation origin now)
    (held : holds value now.log) : Gives careful loads task operation holds (.ok value) origin now := by
  refine ⟨going, ?_⟩
  rintro value ⟨⟩
  exact held

/-- A method and what follows it; the history has only grown meanwhile. -/
theorem Gives.seq {process : Call First} {next : First → Call Second}
    (first : (clientContract careful loads).wp task (Gives careful loads task operation holds) process
      origin now)
    (second : ∀ value {origin' now'}, Calling careful loads task operation origin' now' →
      holds value now'.log → now.log <+: now'.log →
        (clientContract careful loads).wp task (Gives careful loads task operation later) (next value)
          origin' now') :
    (clientContract careful loads).wp task (Gives careful loads task operation later)
      (process >>= next : Call Second) origin now := by
  apply Contract.wp_seq (Contract.wp_extends List.prefix_rfl first)
  · exact fun problem origin now ended => .error ended.1.going
  · exact fun value origin now ended => second value ended.1.going (ended.1.gives value rfl) ended.2

theorem Gives.check {result : Except AlorairError First} {next : First → Call Second}
    (going : Calling careful loads task operation origin now)
    (passed : ∀ value, result = .ok value →
      (clientContract careful loads).wp task (Gives careful loads task operation later) (next value)
        origin now) :
    (clientContract careful loads).wp task (Gives careful loads task operation later)
      (Call.check result >>= next : Call Second) origin now :=
  Call.wp_check (fun _ => .error going) passed

/-- The end of a method: a last check. -/
theorem Gives.final {result : Except AlorairError First}
    (going : Calling careful loads task operation origin now)
    (passed : ∀ value, result = .ok value → holds value now.log) :
    (clientContract careful loads).wp task (Gives careful loads task operation holds)
      (Call.check result) origin now := by
  cases result with
  | error error => exact Gives.error going
  | ok value => exact Gives.ok going (passed value rfl)

/-- An `except` clause that only raises. -/
theorem Gives.rescue {body : Call First} {handler : AlorairError → Call First}
    (inside : (clientContract careful loads).wp task (Gives careful loads task operation holds) body
      origin now)
    (raises : ∀ error, ∃ other, handler error = Call.fail other) :
    (clientContract careful loads).wp task (Gives careful loads task operation holds)
      (Call.rescue body handler) origin now := by
  apply Contract.wp_attempt.mpr
  apply Contract.wp_mono inside
  intro result origin now ended
  cases result with
  | ok value => exact ended
  | error problem =>
    cases problem with
    | interrupted reason => exact Gives.error ended.going
    | recursion => exact Gives.error ended.going
    | error error =>
      obtain ⟨other, same⟩ := raises error
      refine Contract.wp_recover_error.mpr ?_
      show (clientContract careful loads).wp task _ (handler error) origin now
      rw [same]
      exact Gives.error ended.going

/-- A body under a lock that no move looks at. -/
theorem Gives.locked {lock : Client → Lock} {put : Lock → Client → Client} {body : Call First}
    (stored : ∀ lock' s, lock (put lock' s) = lock')
    (aside : ∀ (scene : ClientScene) lock', Move careful loads (some task) scene (scene.change (put lock')))
    (going : Calling careful loads task operation origin now)
    (inside : ∀ {origin now}, Calling careful loads task operation origin now →
      (clientContract careful loads).wp task (Gives careful loads task operation holds) body origin now) :
    (clientContract careful loads).wp task (Gives careful loads task operation holds)
      (@Process.withLock clientFace _ _ Problem.interrupted lock put task body) origin now := by
  apply Practice.wp_withLock (fun _ => True) (fun _ => True) going stored (fun scene => aside scene _)
    (fun scene _ => aside scene _) trivial (fun _ _ _ => trivial) (fun _ => trivial) fun _ _ _ _ => trivial
  · exact fun _ _ _ going _ => inside going
  · exact fun result origin now ended => ⟨ended.going.change (aside _ _), ended.gives⟩
  · exact fun reason later _ going _ => .error (going.change (aside _ _))

end Rules

section Lookups

/-- What is listed under a MAC. -/
def AllListed (devices : Devices) (log : ClientLog) : Prop :=
  ∀ entry ∈ devices, Listed log entry.1 entry.2

theorem AllListed.mono {devices : Devices} {log later : ClientLog} (listed : AllListed devices log)
    (grown : log <+: later) : AllListed devices later :=
  fun entry member => (listed entry member).mono grown

/-- A reading method that answers from this endpoint. -/
theorem Call.read_gives {endpoint : Endpoint} {payload : Option Payload}
    (going : Calling careful library.loads task operation origin now) :
    (clientContract careful library.loads).wp task
      (Gives careful library.loads task operation fun data log => Answered library.loads log task endpoint data)
      (Call.read library account task endpoint payload) origin now :=
  Contract.wp_mono (Call.read_conduct going) fun _ _ _ read => ⟨read.going, read.answered⟩

theorem Call.fetchPages_gives {left page : Nat} {devices : Devices}
    (going : Calling careful library.loads task operation origin now) (listed : AllListed devices now.log) :
    (clientContract careful library.loads).wp task
      (Gives careful library.loads task operation AllListed)
      (Call.fetchPages library account task left page devices) origin now := by
  induction left generalizing page devices origin now with
  | zero => exact Gives.error going
  | succ left ih =>
    apply Gives.seq (Call.read_gives going)
    intro data origin later going answered grown
    refine Contract.wp_get.mpr (Contract.wp_say.mpr ?_)
    have owner := congrArg Session.ownerId going.current.session
    have spoken : Spoken library.loads later.log task (.listed later.shared.ownerId data) :=
      ⟨answered, owner.symm⟩
    have told := going.change (.tell spoken rfl)
    apply Gives.check told
    intro shown added
    have shownListed : AllListed shown.2 (later.emit (.told task (.listed later.shared.ownerId data))).log := by
      intro entry member
      rcases addPage_mem added member with old | shows
      · exact (listed.mono (grown.trans (Contract.grows_emit _ _))) entry old
      · exact ⟨task, _, data, List.mem_append_right _ (List.mem_singleton_self _), shows⟩
    split
    · exact Gives.ok told shownListed
    · exact ih told shownListed

theorem Call.fetchDevices_gives (going : Calling careful library.loads task operation origin now) :
    (clientContract careful library.loads).wp task
      (Gives careful library.loads task operation AllListed)
      (Call.fetchDevices library account task) origin now := by
  apply Gives.rescue (Call.fetchPages_gives going (by simp [AllListed]))
  intro error
  split
  · exact ⟨_, rfl⟩
  · exact ⟨_, rfl⟩

theorem Call.known_gives {target : String}
    (going : Calling careful library.loads task operation origin now) :
    (clientContract careful library.loads).wp task
      (Gives careful library.loads task operation fun device log => Listed log target device)
      (Call.known library account task target) origin now := by
  refine Contract.wp_get.mpr ?_
  dsimp only
  split
  · apply Gives.seq (Call.fetchDevices_gives going)
    intro devices origin now going listed _
    refine Contract.wp_modify.mpr (Contract.wp_get.mpr ?_)
    have stored := going.change (.store listed)
    split
    · rename_i device found
      exact Gives.ok stored (stored.current.devices _ (lookup_mem found))
    · exact Gives.error stored
  · refine Contract.wp_get.mpr ?_
    split
    · rename_i device found
      exact Gives.ok going (going.current.devices _ (lookup_mem found))
    · exact Gives.error going

theorem devicesLock_aside (scene : ClientScene) (lock : Lock) :
    Move careful loads (some task) scene (scene.change (Client.putDevicesLock lock)) :=
  .aside scene.shared.clock lock scene.shared.commandLock

theorem commandLock_aside (scene : ClientScene) (lock : Lock) :
    Move careful loads (some task) scene (scene.change (Client.putCommandLock lock)) :=
  .aside scene.shared.clock scene.shared.devicesLock lock

theorem Call.login_gives (going : Calling careful library.loads task operation origin now) :
    (clientContract careful library.loads).wp task
      (Gives careful library.loads task operation fun _ _ => True) (Call.login library account task)
      origin now :=
  Contract.wp_mono (Call.login_conduct going) fun _ _ _ turned => ⟨turned.going, fun _ _ => trivial⟩

theorem Call.resolve_gives {mac : String}
    (going : Calling careful library.loads task operation origin now) :
    (clientContract careful library.loads).wp task
      (Gives careful library.loads task operation fun device log =>
        ∃ target, normalizeMac (.text mac) = .ok target ∧ Listed log target device)
      (Call.resolve library account task mac) origin now := by
  apply Gives.check going
  intro target valid
  apply Gives.seq (Call.login_gives going)
  intro _ origin now going _ _
  apply Contract.wp_mono (Gives.locked (fun _ _ => rfl) devicesLock_aside going Call.known_gives)
  exact fun _ _ _ found => ⟨found.going, fun device same => ⟨target, valid, found.gives device same⟩⟩

/-- The detail of a device was answered and passed the checks. -/
def Detailed (loads : List UInt8 → Option Json) (task : Nat) (device detail : Dict) (log : ClientLog) :
    Prop :=
  ∃ id, identifier (Dict.get device "id") = .ok id ∧
    (∃ number, deviceIdentity (Dict.get detail "deviceNum") = .ok number ∧
      deviceIdentity (Dict.get device "deviceNum") = .ok number) ∧
    ((detail.lookup "id").isSome → identifier (Dict.get detail "id") = .ok id) ∧
    Answered loads log task (.deviceDetail id) (.dict detail)

theorem Call.deviceDetail_gives {device : Dict}
    (going : Calling careful library.loads task operation origin now) :
    (clientContract careful library.loads).wp task
      (Gives careful library.loads task operation fun detail log =>
        Detailed library.loads task device detail log)
      (Call.deviceDetail library account task device) origin now := by
  apply Gives.check going
  intro id valid
  apply Gives.seq (Call.read_gives going)
  intro json origin now going answered _
  apply Gives.final going
  intro detail matching
  obtain ⟨rfl, number, shown⟩ := matchingDetail_ok (ok_of_mapError matching)
  exact ⟨id, valid, number, shown, answered⟩

/-- The session is that of an attempt that succeeded. -/
def Signed (log : ClientLog) : Prop := ∃ token owner, phase log = .closed (.succeeded token owner)

/-- The record of a device that this task has verified for a MAC. -/
def Found (task : Nat) (mac : String) (record : Dict) (log : ClientLog) : Prop :=
  ∃ target device detail id owner, normalizeMac (.text mac) = .ok target ∧
    .told task (.verified target device detail owner) ∈ log ∧ Owned device detail id owner ∧
      record = merged device detail

/-- An owner id is that of the most recent attempt. -/
theorem Orderly.owned {scene : ClientScene} (orderly : Orderly careful loads scene) {owner : String}
    (stored : scene.shared.ownerId = some owner) :
    ∃ token, phase scene.log = .closed (.succeeded token owner) :=
  Phase.owned ((congrArg Session.ownerId orderly.session).symm.trans stored)

theorem Call.ownedDevice_gives {mac : String}
    (going : Calling careful library.loads task operation origin now) :
    (clientContract careful library.loads).wp task
      (Gives careful library.loads task operation fun record log => Found task mac record log ∧ Signed log)
      (Call.ownedDevice library account task mac) origin now := by
  apply Gives.check going
  intro target valid
  apply Gives.seq (Call.resolve_gives going)
  intro device origin now going resolved _
  obtain ⟨target', again, listed⟩ := resolved
  cases (normalizeMac_idem valid).symm.trans again
  apply Gives.seq (Call.deviceDetail_gives going)
  intro detail origin now going detailed grown
  refine Contract.wp_get.mpr ?_
  apply Gives.check going
  intro mine judged
  split
  · rename_i own
    subst own
    obtain ⟨owner, stored, ownerId⟩ := ownedBy_true judged
    obtain ⟨id, listedId, number, shownId, answered⟩ := detailed
    have owned : Owned device detail id owner := ⟨listedId, number, shownId, ownerId⟩
    obtain ⟨token, ended⟩ := going.current.owned stored
    have spoken : Spoken library.loads now.log task
        (.verified target device detail (now.shared.ownerId.getD "")) := by
      rw [stored]
      exact ⟨listed.mono grown, ⟨token, ended⟩, id, owned, answered⟩
    refine Contract.wp_say.mpr (Gives.ok (going.change (.tell spoken rfl)) ⟨?_, token, owner, ?_⟩)
    · refine ⟨target, device, detail, id, owner, valid, ?_, owned, rfl⟩
      rw [stored]
      exact List.mem_append_right _ (List.mem_singleton_self _)
    · exact (phase_append _ _).trans ended
  · exact Gives.error going

/-- The record that `async_status` returns. -/
def Displayed (task : Nat) (mac : String) (shown : Dict) (log : ClientLog) : Prop :=
  ∃ record published clock, Found task mac record log ∧ publicDevice record = .ok published ∧
    shown = published ++ [("observed_at_utc", .text clock)]

theorem Call.status_gives {mac : String}
    (going : Calling careful library.loads task operation origin now) :
    (clientContract careful library.loads).wp task
      (Gives careful library.loads task operation fun shown log => Displayed task mac shown log ∧ Signed log)
      (Call.status library account task mac) origin now := by
  apply Gives.seq (Call.ownedDevice_gives going)
  intro record origin now going found _
  apply Gives.check going
  intro published made
  exact Gives.ok going ⟨⟨record, published, _, found.1, made, rfl⟩, found.2⟩

end Lookups

section Commands

variable {mac : String}

theorem Authorised.mono {log later : ClientLog} {endpoint : Endpoint} {payload : Payload}
    (authorised : Authorised log task endpoint payload) (grown : log <+: later) :
    Authorised later task endpoint payload := by
  obtain ⟨operation, mac, target, device, detail, owner, started, named, valid, told, addressed⟩ :=
    authorised
  exact ⟨operation, mac, target, device, detail, owner, grown.mem started, named, valid,
    grown.mem told, addressed⟩

/-- The device of the record is that of the operation, so it may be commanded. -/
theorem Found.authorised {record : Dict} {log : ClientLog} {endpoint : Endpoint} {payload : Payload}
    {target : String} (found : Found task target record log) (begun : .started task operation ∈ log)
    (named : operation.mac? = some mac) (same : ∀ other, normalizeMac (.text target) = .ok other →
      normalizeMac (.text mac) = .ok other)
    (addressed : ∀ device detail id owner, Owned device detail id owner → record = merged device detail →
      Addressed device detail endpoint payload) : Authorised log task endpoint payload := by
  obtain ⟨other, device, detail, id, owner, valid, told, owned, merged'⟩ := found
  exact ⟨operation, mac, other, device, detail, owner, begun, named, same other valid, told,
    addressed device detail id owner owned merged'⟩

/-- An authorised command may be sent with the token of the moment. -/
theorem Orderly.command_sent {scene : ClientScene} (orderly : Orderly careful loads scene)
    {endpoint : Endpoint} {body : Payload} (command : endpoint.command)
    (authorised : Authorised scene.log task endpoint body)
    (present : careful → scene.shared.token.isSome) :
    Sent careful scene.log task (.http endpoint scene.shared.token (some body)) := by
  rw [Sent, if_pos command]
  exact ⟨(congrArg Session.token orderly.session).symm, present, body, rfl, authorised⟩

theorem Orderly.signed_token {scene : ClientScene} (orderly : Orderly careful loads scene)
    (signed : Signed scene.log) : scene.shared.token.isSome := by
  obtain ⟨token, owner, ended⟩ := signed
  have present := congrArg Session.token orderly.session
  rw [ended] at present
  exact Option.isSome_iff_exists.mpr ⟨token, present⟩

theorem lookup_append {data more : Dict} {key : String} (absent : more.lookup key = none) :
    Dict.get (data ++ more) key = Dict.get data key := by
  rw [Dict.get, List.lookup_append, absent, Option.or_none, Dict.get]

theorem controlPayload_displayed {published : Dict} {clock : String} {frameType : Scalar} {value : String} :
    Call.controlPayload (published ++ [("observed_at_utc", .text clock)]) frameType value =
      Call.controlPayload published frameType value := by
  unfold Call.controlPayload
  rw [lookup_append (by rfl), lookup_append (by rfl)]

theorem Call.command_gives {order : Request}
    (going : Calling careful library.loads task (.command mac order) origin now) :
    (clientContract careful library.loads).wp task
      (Gives careful library.loads task (.command mac order) fun _ _ => True)
      (Call.command library account task mac order) origin now := by
  apply Gives.check going
  intro framed _
  apply Gives.locked (fun _ _ => rfl) commandLock_aside going
  intro origin now going
  apply Gives.seq (Call.status_gives going)
  intro shown origin now going displayed _
  obtain ⟨⟨record, published, clock, found, made, rfl⟩, signed⟩ := displayed
  refine Contract.wp_get.mpr ?_
  have authorised : Authorised now.log task .control
      (Call.controlPayload (published ++ [("observed_at_utc", .text clock)]) framed.1 framed.2) := by
    apply found.authorised going.begun rfl fun _ => id
    rintro device detail id owner owned rfl
    rw [controlPayload_displayed]
    exact controlPayload_addressed owned made
  have sent := going.current.command_sent rfl authorised fun _ => going.current.signed_token signed
  apply Contract.wp_seq (Call.request_conduct (said_lasting _) going rfl fun _ => sent)
  · exact fun _ _ _ asked => .error asked.1
  · exact fun _ _ _ asked => .ok asked.1 trivial

/-- The reply to this request, if there is one, was delivered just now. -/
def Posted (careful : Prop) (loads : List UInt8 → Option Json) (task : Nat)
    (requests : List (Endpoint × Payload)) (now : ClientScene) : Prop :=
  ∀ request ∈ requests, ∃ token data,
    Received careful loads task request.1 token (some request.2) data now

/-- At most one command, with a token in careful runs. -/
theorem Call.sendAll_conduct {requests : List (Endpoint × Payload)} (short : requests.length ≤ 1)
    (going : Calling careful library.loads task operation origin now)
    (commands : ∀ request ∈ requests, request.1.command ∧
      Authorised now.log task request.1 request.2 ∧ (careful → now.shared.token.isSome)) :
    (clientContract careful library.loads).wp task (fun result origin now =>
        Calling careful library.loads task operation origin now ∧
          (result = .ok () → Posted careful library.loads task requests now))
      (Call.sendAll library requests) origin now := by
  cases requests with
  | nil => exact ⟨going, fun _ => by simp [Posted]⟩
  | cons request rest =>
    obtain rfl : rest = [] := List.eq_nil_of_length_eq_zero (by simpa using short)
    obtain ⟨command, authorised, present⟩ := commands request (List.mem_cons_self ..)
    refine Contract.wp_get.mpr ?_
    have sent := going.current.command_sent command authorised present
    apply Contract.wp_seq (Call.request_conduct (said_lasting _) going rfl fun _ => sent)
    · exact fun _ _ _ asked => ⟨asked.1, nofun⟩
    · intro data origin later asked
      refine ⟨asked.1, fun _ other member => ?_⟩
      cases List.mem_singleton.mp member
      exact ⟨_, data, asked.2.2 data rfl⟩

/-- Only a rename has a second request, behind the command that renames the device. -/
theorem mutationRequests_shape {token : Option String} {record : Dict} {change : Mutation}
    {first : Endpoint × Payload} {others : List (Endpoint × Payload)} {before : Option FilterLife}
    (made : Call.mutationRequests library account token record change = .ok (first, others, before)) :
    others.length ≤ 1 ∧ (∀ request ∈ first :: others, request.1.command) ∧
      (others ≠ [] → ∀ token, renames (.http first.1 token (some first.2))) := by
  cases change with
  | rename label =>
    cases made
    refine ⟨le_rfl, by simp [Endpoint.command], fun _ token => ?_⟩
    simp [renames, List.lookup_cons]
  | location label =>
    cases made
    exact ⟨Nat.zero_le _, by simp [Endpoint.command], fun some => absurd rfl some⟩
  | extendFilter filterId extension =>
    obtain ⟨life, -, made⟩ := ok_of_bind made
    dsimp only at made
    split at made
    · cases made
    · cases made
      exact ⟨Nat.zero_le _, by simp [Endpoint.command], fun some => absurd rfl some⟩
  | resetFilter filterId =>
    obtain ⟨life, -, made⟩ := ok_of_bind made
    obtain ⟨id, -, made⟩ := ok_of_bind made
    cases made
    exact ⟨Nat.zero_le _, by simp [Endpoint.command], fun some => absurd rfl some⟩

theorem renames_control {query : ClientQuery} (relabels : renames query) :
    ∃ token payload, query = .http .control token payload := by
  unfold renames at relabels
  split at relabels
  · exact ⟨_, _, rfl⟩
  · cases relabels

/-- In careful runs there is a token when a rename goes on to its second request. -/
theorem Received.token {endpoint : Endpoint} {token : Option String} {payload : Payload} {data : Json}
    (got : Received careful loads task endpoint token (some payload) data now) (cautious : careful)
    (relabels : ∀ token, renames (.http endpoint token (some payload))) :
    now.shared.token.isSome := by
  obtain ⟨before, reply, rfl, read, delivered⟩ := got
  obtain ⟨_, _, same⟩ := renames_control (relabels token)
  cases same
  exact delivered cautious ⟨relabels token, data, read⟩

theorem Call.experimentalMutation_gives {action : String} {parameters : Dict} {target : String}
    {record : Dict} {change : Mutation} (valid : normalizeMac (.text mac) = .ok target)
    (going : Calling careful library.loads task (.experimental mac action parameters) origin now)
    (found : Found task target record now.log) (signed : Signed now.log) :
    (clientContract careful library.loads).wp task
      (Gives careful library.loads task (.experimental mac action parameters) fun _ _ => True)
      (Call.experimentalMutation library account task target record change) origin now := by
  refine Contract.wp_get.mpr (Gives.check going ?_)
  intro ⟨first, others, before⟩ made
  obtain ⟨short, commands, relabels⟩ := mutationRequests_shape made
  have authorised : ∀ request ∈ first :: others, Authorised now.log task request.1 request.2 := by
    intro request member
    apply found.authorised going.begun rfl
    · intro other again
      cases (normalizeMac_idem valid).symm.trans again
      exact valid
    · rintro device detail id owner owned rfl
      exact mutationRequests_addressed owned made request member
  have present := going.current.signed_token signed
  apply Contract.wp_seq (Contract.wp_extends List.prefix_rfl (Call.sendAll_conduct le_rfl going ?_))
  · exact fun _ _ _ sent => .error sent.1.1
  · intro _ origin later sent
    obtain ⟨⟨going, posted⟩, grown⟩ := sent
    obtain ⟨token, data, got⟩ := posted rfl first (List.mem_cons_self ..)
    apply Gives.rescue ?_ fun _ => ⟨_, rfl⟩
    apply Contract.wp_seq (Call.sendAll_conduct short going ?_)
    · exact fun _ _ _ sent => .error sent.1
    · intro _ origin now sent
      apply Gives.seq (Call.ownedDevice_gives sent.1)
      intro feedback origin now going _ _
      exact Contract.wp_get.mpr (Gives.final going fun _ _ => trivial)
    · intro request member
      refine ⟨commands request (List.mem_cons_of_mem _ member), ?_, fun cautious => ?_⟩
      · exact (authorised request (List.mem_cons_of_mem _ member)).mono grown
      · exact got.token cautious (relabels (List.ne_nil_of_mem member))
  · intro request member
    cases List.mem_singleton.mp member
    exact ⟨commands first (List.mem_cons_self ..), authorised first (List.mem_cons_self ..), fun _ => present⟩

end Commands

section Programs

/-- A read and a last check of its answer. -/
theorem Call.read_checked {First : Type} {endpoint : Endpoint} {payload : Option Payload}
    {next : Json → Call First} (going : Calling careful library.loads task operation origin now)
    (checks : ∀ data {origin now}, Calling careful library.loads task operation origin now →
      (clientContract careful library.loads).wp task
        (Gives careful library.loads task operation fun _ _ => True) (next data) origin now) :
    (clientContract careful library.loads).wp task
      (Gives careful library.loads task operation fun _ _ => True)
      (Call.read library account task endpoint payload >>= next : Call First) origin now := by
  apply Gives.seq (Call.read_gives going)
  exact fun data origin now going _ _ => checks data going

theorem Call.experimentalRead_gives {record : Dict} {action : Action}
    (going : Calling careful library.loads task operation origin now) :
    (clientContract careful library.loads).wp task
      (Gives careful library.loads task operation fun _ _ => True)
      (Call.experimentalRead library account task record action) origin now := by
  have final : ∀ {result : Except AlorairError Json} {origin now},
      Calling careful library.loads task operation origin now →
        (clientContract careful library.loads).wp task
          (Gives careful library.loads task operation fun _ _ => True) (Call.check result) origin now :=
    fun going => Gives.final going fun _ _ => trivial
  refine Contract.wp_get.mpr ?_
  cases action with
  | filters => exact Gives.check going fun _ _ => Gives.ok going trivial
  | history period date => exact Call.read_checked going fun _ _ _ going => final going
  | operationTime period date => exact Call.read_checked going fun _ _ _ going => final going
  | filterDetail filterId =>
    apply Gives.check going
    intro selected _
    exact Call.read_checked going fun _ _ _ going => Contract.wp_get.mpr (final going)
  | firmwareCheck =>
    apply Gives.check going
    intro id _
    exact Call.read_checked going fun _ _ _ going => final going
  | firmwareHistory page =>
    exact Call.read_checked going fun _ _ _ going => Contract.wp_get.mpr (final going)
  | mutation change => exact Gives.ok going trivial

theorem Call.experimentalAction_gives {mac action : String} {parameters : Dict}
    (going : Calling careful library.loads task (.experimental mac action parameters) origin now) :
    (clientContract careful library.loads).wp task
      (Gives careful library.loads task (.experimental mac action parameters) fun _ _ => True)
      (Call.experimentalAction library account task mac action parameters) origin now := by
  apply Gives.check going
  intro chosen _
  apply Gives.check going
  intro target valid
  apply Gives.locked (fun _ _ => rfl) commandLock_aside going
  intro origin now going
  apply Gives.seq (Call.ownedDevice_gives going)
  intro record origin now going found _
  split
  · exact Call.experimentalMutation_gives valid going found.1 found.2
  · exact Call.experimentalRead_gives going

theorem Call.ownedDevices_gives {candidates : List Dict}
    (going : Calling careful library.loads task operation origin now) :
    (clientContract careful library.loads).wp task
      (Gives careful library.loads task operation fun _ _ => True)
      (Call.ownedDevices library account task candidates) origin now := by
  induction candidates generalizing origin now with
  | nil => exact Gives.ok going trivial
  | cons candidate rest ih =>
    apply Gives.seq (Call.deviceDetail_gives going)
    intro detail origin now going _ _
    refine Contract.wp_get.mpr (Gives.check going ?_)
    intro owned _
    have tail : ∀ shown : List Dict, (clientContract careful library.loads).wp task
        (Gives careful library.loads task operation fun _ _ => True)
        (Call.ownedDevices library account task rest >>= fun others => pure (shown ++ others) :
          Call (List Dict)) origin now := by
      intro shown
      apply Gives.seq (ih going)
      exact fun others origin now going _ _ => Gives.ok going trivial
    dsimp only
    split
    · exact Gives.check going fun shown _ => tail shown
    · exact tail []

theorem Call.devices_gives (going : Calling careful library.loads task operation origin now) :
    (clientContract careful library.loads).wp task
      (Gives careful library.loads task operation fun _ _ => True)
      (Call.devices library account task) origin now := by
  apply Gives.seq (Call.login_gives going)
  intro _ origin now going _ _
  have listed : (clientContract careful library.loads).wp task
      (Gives careful library.loads task operation fun _ _ => True)
      (Call.withDevicesLock task do
        let devices ← Call.fetchDevices library account task
        Process.modify fun s : Client => { s with devices }
        return devices.map Prod.snd) origin now := by
    apply Gives.locked (fun _ _ => rfl) devicesLock_aside going
    intro origin now going
    apply Gives.seq (Call.fetchDevices_gives going)
    exact fun devices origin now going listed _ =>
      Contract.wp_modify.mpr (Gives.ok (going.change (.store listed)) trivial)
  apply Gives.seq listed
  exact fun candidates origin now going _ _ => Call.ownedDevices_gives going

theorem Leaves.rethrow {First Second : Type} {log : ClientLog} {problem : Problem}
    (leaves : Leaves log (.error problem : Except Problem First)) :
    Leaves log (.error problem : Except Problem Second) := by
  cases problem <;> exact leaves

theorem Orderly.concluded {scene : ClientScene} {result : Except Problem Json}
    (orderly : Orderly careful loads scene) (begun : .started task operation ∈ scene.log)
    (login : operation = .login → Leaves scene.log result ∧ Raises task scene.log result)
    (read : ∀ endpoint payload, operation = .read endpoint payload → Raises task scene.log result) :
    Concluded scene.log task result where
  login member := login (orderly.started task operation _ begun member)
  read endpoint payload member := read endpoint payload (orderly.started task operation _ begun member)

/-- A method of an operation that neither logs in nor reads owes nothing for its end. -/
theorem Gives.returns {First : Type} {body : Call First} {next : First → Json}
    (meets : (clientContract careful loads).wp task
      (Gives careful loads task operation fun _ _ => True) body origin now)
    (other : operation ≠ .login ∧ ∀ endpoint payload, operation ≠ .read endpoint payload) :
    (clientContract careful loads).wp task (fun result origin now =>
        Calling careful loads task operation origin now ∧ Concluded now.log task result)
      (body >>= fun value => pure (next value) : Call Json) origin now := by
  have concluded : ∀ {result : Except Problem Json} {origin now},
      Calling careful loads task operation origin now →
        Calling careful loads task operation origin now ∧ Concluded now.log task result := fun going =>
    ⟨going, going.current.concluded going.begun (fun same => absurd same other.1)
      fun endpoint payload same => absurd same (other.2 endpoint payload)⟩
  apply Contract.wp_seq meets
  · exact fun _ _ _ ended => concluded ended.going
  · exact fun _ _ _ ended => concluded ended.going

/-- Every method of the client only makes moves. -/
theorem clientProgram_meets (careful : Prop) (library : Library) (account : Account) :
    (clientContract careful library.loads).Meets (clientProgram library account) := by
  apply Practice.meets_of_going
  intro operation task scene _ going
  cases operation with
  | login =>
    apply Contract.wp_seq (Call.login_conduct going)
    · intro problem origin now turned
      refine ⟨turned.going, turned.going.current.concluded turned.going.begun (fun _ => ?_) nofun⟩
      exact ⟨turned.leaves.rethrow, turned.raises.rethrow⟩
    · intro _ origin now turned
      refine ⟨turned.going, turned.going.current.concluded turned.going.begun (fun _ => ?_) nofun⟩
      refine ⟨turned.leaves, fun kind message refused => ?_⟩
      obtain ⟨error, impossible, -⟩ := turned.raises kind message refused
      cases impossible
  | read endpoint payload =>
    apply Contract.wp_mono (Call.read_conduct going)
    intro result origin now read
    exact ⟨read.going, read.going.current.concluded read.going.begun nofun fun _ _ _ => read.raises⟩
  | status mac =>
    have meets : (clientContract careful library.loads).wp task
        (Gives careful library.loads task (.status mac) fun _ _ => True)
        (Call.status library account task mac) scene (scene.emit (.started task (.status mac))) :=
      Contract.wp_mono (Call.status_gives going) fun _ _ _ ended => ⟨ended.going, fun _ _ => trivial⟩
    exact Gives.returns meets ⟨nofun, nofun⟩
  | devices => exact Gives.returns (Call.devices_gives going) ⟨nofun, nofun⟩
  | command mac order => exact Gives.returns (Call.command_gives going) ⟨nofun, nofun⟩
  | experimental mac action parameters =>
    apply Contract.wp_mono (Call.experimentalAction_gives going)
    intro result origin now ended
    exact ⟨ended.going, ended.going.current.concluded ended.going.begun nofun nofun⟩

end Programs

/-- When a rename learns that its first request was acknowledged there is a token. -/
def Bearing (library : Library) (machine : ClientMachine) : Step clientFace ClientOperation → Prop
  | .resume task => ∀ held reply, machine.tasks task = some held → held.answer = some reply →
    confirmsRename library.loads reply → machine.scene.shared.token.isSome
  | _ => True

section Runs

variable {machine : ClientMachine} {meets : ClientMachine → Step clientFace ClientOperation → Prop}

theorem Orderly.start {clock : String} : Orderly careful loads { shared := { clock } } := by
  constructor <;> simp [Client.session, phase, Phase.session, Every.nil]

/-- Every run keeps the client orderly, and in careful ones every command has a token. -/
theorem run_orderly (bears : ∀ machine label, meets machine label → careful → Bearing library machine label)
    (run : Run (client library account) meets machine) : Orderly careful library.loads machine.scene := by
  have allowed : ∀ machine label, meets machine label →
      (clientContract careful library.loads).allows machine label := by
    intro machine label met
    cases label with
    | resume task => exact fun held reply found given cautious => bears _ _ met cautious held reply found given
    | _ => trivial
  apply (Practice.run_path (clientProgram_meets careful library account) ?_ allowed run).1.invariant
  rintro shared ⟨clock, rfl⟩
  exact .start

/-- What every command that is sent carries was verified before by the same call, for the
MAC of its operation: the device is a listed one, its detail passed the checks, and it is
owned by the account that is logged in at that moment. -/
theorem commands_owned (run : Reachable (client library account) machine)
    {past future : ClientLog} {endpoint : Endpoint} {token : Option String} {payload : Option Payload}
    (sent : machine.scene.log = past ++ .asked task (.http endpoint token payload) :: future)
    (command : endpoint.command) :
    ∃ operation mac target body device detail owner, .started task operation ∈ past ∧
      operation.mac? = some mac ∧ normalizeMac (.text mac) = .ok target ∧ payload = some body ∧
      Addressed device detail endpoint body ∧
      ∃ before between, past = before ++ .told task (.verified target device detail owner) :: between ∧
        Verified library.loads before task target device detail owner := by
  have orderly : Orderly False library.loads machine.scene := run_orderly (fun _ _ _ => False.elim) run
  have judged : Sent False past task (.http endpoint token payload) := orderly.history past _ future sent
  rw [Sent, if_pos command] at judged
  obtain ⟨-, -, body, rfl, operation, mac, target, device, detail, owner, started, named, valid, told,
    addressed⟩ := judged
  obtain ⟨before, between, rfl⟩ := List.append_of_mem told
  refine ⟨operation, mac, target, body, device, detail, owner, started, named, valid, rfl, addressed,
    before, between, rfl, ?_⟩
  have whole : machine.scene.log = before ++ .told task (.verified target device detail owner) ::
      (between ++ .asked task (.http endpoint token (some body)) :: future) := by simp [sent]
  exact orderly.history before _ _ whole

/-- A request of this task is answered with this body. -/
def exampleReply (task : Nat) (endpoint : Endpoint) (token : Option String) (payload : Option Payload)
    (body : List UInt8 × Json) : List (Step clientFace ClientOperation) :=
  let reply : HttpReply := .answered 200 (some body.1)
  [.answer task ⟨.http endpoint token payload, reply⟩, .resume task]

def exampleLogin (task : Nat) : List (Step clientFace ClientOperation) :=
  let password : Option String := some "x"
  [.answer task ⟨.encrypt, password⟩, .resume task] ++
    exampleReply task .login none
      (some [("username", .text "user"), ("password", .text "x"), ("method", .int 1)]) loginBody ++
    exampleReply task .userInfo (some "t") none userBody

/-- A rename up to its first request. -/
def exampleRename : List (Step clientFace ClientOperation) :=
  [.start (.experimental "aabbccddee0f" "rename" [("label", .text "den")])] ++ exampleLogin 0 ++
    exampleReply 0 .deviceList (some "t") (some [("pageNum", .int 1), ("pageSize", .int pageSize)]) listBody ++
    exampleReply 0 (.deviceDetail "5") (some "t") none detailBody

def exampleClient : ClientMachine := { scene := { shared := { clock := "" } } }

def exampleAccount : Account := ⟨"user", "secret"⟩

theorem exampleClient_run : Run (client exampleVendor exampleAccount) meets exampleClient :=
  .start ⟨_, ⟨"", rfl⟩, rfl⟩

/-- The event is this request of this task. -/
def asks (task : Nat) (query : ClientQuery) : ClientEvent → Bool
  | .asked other asked => other = task && asked = query
  | _ => false

theorem asked_last {query : ClientQuery} {log : ClientLog} (last : log.getLast?.any (asks task query)) :
    ∃ past, log = past ++ [.asked task query] := by
  obtain ⟨event, found, same⟩ := (Option.any_eq_true _ _).mp last
  obtain ⟨past, rfl⟩ := List.getLast?_eq_some_iff.mp found
  unfold asks at same
  split at same
  · simp only [Bool.and_eq_true, decide_eq_true_eq] at same
    obtain ⟨rfl, rfl⟩ := same
    exact ⟨past, rfl⟩
  · cases same

/-- The first request of the rename. -/
def renamePayload : Payload :=
  [("deviceId", .int 5), ("deviceNum", .text "aabbccddee0f"), ("frameType", .text "29"),
    ("data", .text "den")]

theorem commands_owned_example : ∃ machine past,
    (client exampleVendor exampleAccount).follow exampleClient exampleRename = some machine ∧
      machine.scene.log = past ++ [.asked 0 (.http .control (some "t") (some renamePayload))] ∧
      ∃ target device detail owner, .told 0 (.verified target device detail owner) ∈ past ∧
        Addressed device detail .control renamePayload := by
  have shown : (((client exampleVendor exampleAccount).follow exampleClient exampleRename).map fun machine =>
      machine.scene.log.getLast?.any (asks 0 (.http .control (some "t") (some renamePayload)))) =
        some true := by decide +kernel
  obtain ⟨machine, followed, last⟩ := Option.map_eq_some_iff.mp shown
  obtain ⟨past, log⟩ := asked_last last
  have run : Reachable (client exampleVendor exampleAccount) machine :=
    exampleClient_run.follow (fun _ _ => trivial) followed
  obtain ⟨operation, mac, target, body, device, detail, owner, -, -, -, same, addressed, before, between,
    rfl, -⟩ := commands_owned run log rfl
  cases same
  exact ⟨machine, _, followed, log, target, device, detail, owner, by simp, addressed⟩

end Runs

end AlorairLite.Cloud
