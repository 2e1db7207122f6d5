import AlorairLite.Async.Errors
import AlorairLite.Async.Starts
import AlorairLite.Cloud.Ownership

/-! What the client shows of the vendor's data: the result of an experimental action has keys of a
fixed vocabulary and texts without the secrets of the account, and a device has only its public fields. -/

namespace AlorairLite.Cloud

open Async

/-- The keys that a result may have. -/
def experimentalKeys : List String :=
  ["filters", "filter_id", "recommended_hours", "used_hours", "extension_hours", "remaining_hours",
    "remaining_days", "remaining_percent", "extension_days", "hours", "samples", "sample_time",
    "update_available", "discount_percent", "discount_code", "page", "total_rows", "versions", "version",
    "is_upgrade", "updated_at", "accepted", "confirmed", "filter"] ++ historyFields.map Prod.snd

/-- Finite numbers, known keys and harmless texts throughout. -/
inductive Confined (harmless : String → Prop) : Json → Prop where
  | null : Confined harmless .null
  | bool {value : Bool} : Confined harmless (.bool value)
  | int {value : Int} : Confined harmless (.int value)
  | float {value : ℚ} : Confined harmless (.float (some value))
  | text {value : String} (clean : harmless value) : Confined harmless (.text value)
  | list {items : List Json} (all : ∀ item ∈ items, Confined harmless item) : Confined harmless (.list items)
  | dict {entries : Dict} (known : ∀ entry ∈ entries, entry.1 ∈ experimentalKeys)
      (all : ∀ entry ∈ entries, Confined harmless entry.2) : Confined harmless (.dict entries)

/-- The entries of such an object. -/
def Fields (harmless : String → Prop) (entries : Dict) : Prop :=
  ∀ entry ∈ entries, entry.1 ∈ experimentalKeys ∧ Confined harmless entry.2

theorem Confined.fields {harmless : String → Prop} {entries : Dict} (all : Fields harmless entries) :
    Confined harmless (.dict entries) :=
  .dict (fun entry member => (all entry member).1) fun entry member => (all entry member).2

/-- A time stamp, or a text that holds neither the name nor the password of the account and is no
hardware address. -/
def Harmless (library : Library) (account : Account) (text : String) : Prop :=
  timestamp (.text text) = some text ∨ secretive library account none text = false ∧ looksLikeMac text = false

section Texts

variable {library : Library} {account : Account} {token : Option String}

/-- Without the token there is less to look for. -/
theorem secretive_none {text : String} (clean : secretive library account token text = false) :
    secretive library account none text = false := by
  unfold secretive at clean ⊢
  rw [List.any_eq_false] at clean ⊢
  intro secret member
  refine clean secret ?_
  obtain ⟨entry, present, same⟩ := List.mem_filterMap.mp member
  refine List.mem_filterMap.mpr ⟨entry, ?_, same⟩
  rcases List.mem_cons.mp present with rfl | rest
  · exact List.mem_cons_self ..
  · rcases List.mem_cons.mp rest with rfl | last
    · exact List.mem_cons_of_mem _ (List.mem_cons_self ..)
    · cases List.mem_singleton.mp last
      cases same

theorem experimentalText_harmless {pattern : String → Bool} {limit : Nat} {value : Json} :
    Giving (Harmless library account) (experimentalText library account token pattern limit value) := by
  unfold experimentalText
  dsimp only
  split
  · rename_i text
    split
    · exact .error
    · split
      · exact .error
      · rename_i clean
        rw [Bool.or_eq_true, not_or, Bool.not_eq_true, Bool.not_eq_true] at clean
        exact .ok (.inr ⟨secretive_none clean.1, clean.2⟩)
  · exact .error

/-- The text that passes is the one that was checked. -/
theorem experimentalText_same {pattern : String → Bool} {limit : Nat} {text : String} :
    Giving (· = text) (experimentalText library account token pattern limit (.text text)) := by
  unfold experimentalText
  dsimp only
  split
  · exact .error
  · split
    · exact .error
    · exact .ok rfl

/-- What is shown of a time stamp is one. -/
theorem timestamp_same {value : Json} {text : String} (shown : timestamp value = some text) :
    timestamp (.text text) = some text := by
  unfold timestamp at shown
  split at shown
  · split at shown
    · rename_i parsed
      cases shown
      exact if_pos parsed
    · cases shown
  · cases shown

theorem FilterLife.json_confined {life : FilterLife} {harmless : String → Prop} (clean : harmless life.filterId) :
    Confined harmless life.json := by
  apply Confined.fields
  simp only [Fields, List.forall_mem_cons]
  exact ⟨⟨by decide, .text clean⟩, ⟨by decide, .float⟩, ⟨by decide, .float⟩, ⟨by decide, .float⟩,
    ⟨by decide, .float⟩, ⟨by decide, .float⟩, ⟨by decide, .float⟩, ⟨by decide, .float⟩, by simp⟩

theorem filterSummaries_harmless {detail : Dict} :
    Giving (fun lives => ∀ life ∈ lives, Harmless library account life.filterId)
      (filterSummaries library account token detail) := by
  have listed : Giving (fun _ => True) (experimentalFilters detail) := fun _ _ => trivial
  refine listed.bind fun lives _ => Giving.mapM fun life _ => ?_
  have checked : Giving (fun text => text = life.filterId ∧ Harmless library account text)
      (experimentalText library account token wordLike 128 (.text life.filterId)) :=
    fun text shown => ⟨experimentalText_same text shown, experimentalText_harmless text shown⟩
  refine checked.bind ?_
  rintro text ⟨rfl, clean⟩
  exact .ok clean

theorem experimentalFilter_harmless {detail : Dict} {filterId : String} :
    Giving (fun life => Harmless library account life.filterId)
      (experimentalFilter library account token detail filterId) := by
  refine filterSummaries_harmless.bind fun lives clean => ?_
  split
  · rename_i life found
    exact .ok (clean life (List.mem_of_find?_eq_some found))
  · exact .error

end Texts

section Results

variable {library : Library} {account : Account} {token : Option String} {detail : Dict} {data : Json}

theorem confined_single {harmless : String → Prop} {key : String} {value : Json} (known : key ∈ experimentalKeys)
    (clean : Confined harmless value) : Confined harmless (.dict [(key, value)]) := by
  apply Confined.fields
  exact List.forall_mem_singleton.mpr ⟨known, clean⟩

theorem operationHours_confined {harmless : String → Prop} :
    Giving (Confined harmless) (operationHours detail data) := by
  unfold operationHours
  split
  · exact Giving.checked fun _ => Giving.checked fun hours => .ok (confined_single (by decide) .float)
  · exact .error

theorem firmwareAvailability_confined {harmless : String → Prop} :
    Giving (Confined harmless) (firmwareAvailability detail data) := by
  unfold firmwareAvailability
  split
  · exact Giving.checked fun _ => Giving.checked fun upgrade => .ok (confined_single (by decide) .bool)
  · exact .error

theorem historySample_confined :
    Giving (Confined (Harmless library account)) (historySample detail data) := by
  unfold historySample
  dsimp only
  split
  · split
    · exact .error
    · rename_i row _ sampled shown
      refine Giving.checked fun _ => ?_
      have measured : Giving (Fields (Harmless library account))
          ((historyFields.filter fun field => !isNull (Dict.get row field.1)).mapM fun field => do
            return (field.2, .float (← experimentalNumber (Dict.get row field.1) (-1000) 10000))) := by
        refine Giving.mapM fun field member => Giving.checked fun number => .ok ⟨?_, .float⟩
        exact List.mem_append_right _ (List.mem_map_of_mem (List.mem_of_mem_filter member))
      have sampledKey : "sample_time" ∈ experimentalKeys := by decide
      refine measured.bind fun fields all => ?_
      split
      · exact .error
      · exact .ok (.fields (List.forall_mem_cons.mpr ⟨⟨sampledKey, .text (.inl (timestamp_same shown))⟩, all⟩))
  · exact .error

theorem historySamples_confined :
    Giving (Confined (Harmless library account)) (historySamples detail data) := by
  unfold historySamples
  dsimp only
  split
  · split
    · exact .error
    · exact Giving.map (Giving.mapM fun row _ => historySample_confined)
        fun samples all => confined_single (by decide) (.list all)
  · exact .error

theorem replacementOffer_confined {selected : FilterLife}
    (clean : Harmless library account selected.filterId) :
    Giving (Confined (Harmless library account)) (replacementOffer library account token selected data) := by
  unfold replacementOffer
  split
  · rename_i data
    extract_lets ratio offer offered begun
    have whole : ∀ percent : Dict, Fields (Harmless library account) percent →
        Giving (Confined (Harmless library account)) (offered percent) := by
      intro percent knownPercent
      dsimp -zeta only [offered]
      extract_lets joined
      have last : ∀ code : Dict, Fields (Harmless library account) code →
          Giving (Confined (Harmless library account)) (joined code) := by
        intro code knownCode
        dsimp only [joined]
        split
        · exact Giving.error
        · refine .ok (.fields fun entry member => ?_)
          rcases List.mem_append.mp member with former | coded
          · rcases List.mem_cons.mp former with rfl | shown
            · exact ⟨show "filter_id" ∈ experimentalKeys by decide, .text clean⟩
            · exact knownPercent entry shown
          · exact knownCode entry coded
      split
      · exact last [] (by simp [Fields])
      · refine experimentalText_harmless.bind fun code cleanCode => last _ ?_
        exact List.forall_mem_singleton.mpr ⟨show "discount_code" ∈ experimentalKeys by decide, .text cleanCode⟩
    have rated : Giving (Confined (Harmless library account)) (begun ()) := by
      dsimp only [begun]
      split
      · exact whole [] (by simp [Fields])
      · refine Giving.checked fun number => whole _ ?_
        exact List.forall_mem_singleton.mpr ⟨show "discount_percent" ∈ experimentalKeys by decide, .float⟩
    split
    · refine Giving.checked fun id => ?_
      split
      · exact Giving.error
      · exact rated
    · exact rated
  · exact .error

theorem firmwareRow_confined :
    Giving (Confined (Harmless library account)) (firmwareRow library account token detail data) := by
  unfold firmwareRow
  dsimp only
  split
  · split
    · exact .error
    · rename_i row updated shown
      refine Giving.checked fun _ => experimentalText_harmless.bind fun version clean => ?_
      refine Giving.checked fun upgrade => .ok (.fields ?_)
      simp only [Fields, List.forall_mem_cons]
      exact ⟨⟨by decide, .text clean⟩, ⟨by decide, .bool⟩, ⟨by decide, .text (.inl (timestamp_same shown))⟩, by simp⟩
  · exact .error

theorem firmwareVersions_confined {page : Int} :
    Giving (Confined (Harmless library account)) (firmwareVersions library account token detail page data) := by
  unfold firmwareVersions
  dsimp only
  split
  · split
    · split
      · exact .error
      · refine Giving.checked fun _ => ?_
        split
        · exact .error
        · split
          · exact .error
          · refine Giving.bind (Giving.mapM fun row _ => firmwareRow_confined) fun versions all => .ok (.fields ?_)
            simp only [Fields, List.forall_mem_cons]
            exact ⟨⟨by decide, .int⟩, ⟨by decide, .int⟩, ⟨by decide, .list all⟩, by simp⟩
    · exact .error
  · exact .error

theorem report_confined {harmless : String → Prop} {confirmed : Bool} {life : Option FilterLife}
    (clean : ∀ held ∈ life, harmless held.filterId) :
    Confined harmless (Call.mutationFeedback.report confirmed life) := by
  apply Confined.fields
  intro entry member
  rcases List.mem_append.mp member with fixed | shown
  · rcases List.mem_pair.mp fixed with rfl | rfl
    · exact ⟨show "accepted" ∈ experimentalKeys by decide, .bool⟩
    · exact ⟨show "confirmed" ∈ experimentalKeys by decide, .bool⟩
  · obtain ⟨held, present, rfl⟩ := Option.map_eq_some_iff.mp (Option.mem_toList.mp shown)
    exact ⟨show "filter" ∈ experimentalKeys by decide, FilterLife.json_confined (clean held present)⟩

theorem mutationFeedback_confined {before : Option FilterLife} {feedback : Dict} {change : Mutation} :
    Giving (Confined (Harmless library account))
      (Call.mutationFeedback library account token before feedback change) := by
  have shown : ∀ filterId (confirmed : FilterLife → Bool), Giving (Confined (Harmless library account)) (do
      let after ← experimentalFilter library account token feedback filterId
      return Call.mutationFeedback.report (confirmed after) (some after)) := by
    refine fun filterId confirmed => experimentalFilter_harmless.bind fun after clean => .ok (report_confined ?_)
    intro held same
    cases Option.mem_some_iff.mp same
    exact clean
  have bare : ∀ confirmed, Confined (Harmless library account) (Call.mutationFeedback.report confirmed none) :=
    fun _ => report_confined (by simp)
  cases change with
  | rename label => exact .ok (bare _)
  | location label => exact .ok (bare _)
  | extendFilter filterId extension => exact shown _ _
  | resetFilter filterId => exact shown _ _

end Results

section Actions

variable {library : Library} {account : Account} {task : Nat}

theorem check_returns {Result : Type} {holds : Result → Prop} {result : Except AlorairError Result}
    (known : Giving holds result) : (Call.check result).Returns holds :=
  Process.Returns.lift known.mapError

theorem Call.experimentalRead_confined {detail : Dict} {action : Action} :
    (Call.experimentalRead library account task detail action).Returns (Confined (Harmless library account)) := by
  apply Process.Returns.get
  intro s
  cases action with
  | filters =>
    refine Process.Returns.then (check_returns filterSummaries_harmless) fun lives clean => .done ?_
    refine confined_single (by decide) (.list fun item member => ?_)
    obtain ⟨life, present, rfl⟩ := List.mem_map.mp member
    exact FilterLife.json_confined (clean life present)
  | history period date => exact Process.Returns.anyway fun data => check_returns historySamples_confined
  | operationTime period date => exact Process.Returns.anyway fun data => check_returns operationHours_confined
  | filterDetail filterId =>
    refine Process.Returns.then (check_returns experimentalFilter_harmless) fun selected clean => ?_
    exact Process.Returns.anyway fun data => Process.Returns.get fun now => check_returns (replacementOffer_confined clean)
  | firmwareCheck =>
    exact Process.Returns.anyway fun id => Process.Returns.anyway fun data => check_returns firmwareAvailability_confined
  | firmwareHistory page =>
    exact Process.Returns.anyway fun data => Process.Returns.get fun now => check_returns firmwareVersions_confined
  | mutation change => exact .done .null

theorem Call.experimentalMutation_confined {mac : String} {detail : Dict} {change : Mutation} :
    (Call.experimentalMutation library account task mac detail change).Returns
      (Confined (Harmless library account)) := by
  refine Process.Returns.get fun s => Process.Returns.anyway fun made => Process.Returns.anyway fun _ => ?_
  refine Process.Returns.attempt (Process.Returns.anyway fun _ => Process.Returns.anyway fun feedback =>
    Process.Returns.get fun now => check_returns mutationFeedback_confined) fun problem => ?_
  cases problem <;> exact .raise

theorem Call.experimentalAction_confined {mac action : String} {parameters : Dict} :
    (Call.experimentalAction library account task mac action parameters).Returns
      (Confined (Harmless library account)) := by
  refine Process.Returns.anyway fun chosen => Process.Returns.anyway fun target => Process.Returns.withLock ?_
  refine Process.Returns.anyway fun detail => ?_
  cases chosen with
  | mutation change => exact Call.experimentalMutation_confined
  | _ => exact Call.experimentalRead_confined

/-- In every order of the steps of all calls of one client, and whatever the vendor sends, the result of an
experimental action has known keys, finite numbers and harmless texts throughout. -/
theorem experimental_confined {machine : ClientMachine} {mac action : String} {parameters : Dict} {value : Json}
    (run : Reachable (client library account) machine)
    (started : .started task (.experimental mac action parameters) ∈ machine.scene.log)
    (outcome : machine.result? task = some (.ok value)) : Confined (Harmless library account) value := by
  obtain ⟨held, found, ended⟩ := Machine.result?_some outcome
  obtain ⟨operation, start, final, started', converses⟩ := run.converses found ended
  cases run.counted.unique started started'
  exact converses.returns Call.experimentalAction_confined

end Actions

section Devices

/-- A field of a device that may leave the client. -/
inductive PublicField : String × Json → Prop where
  | identity {value : Json} {id : String} (valid : identifier value = .ok id) : PublicField ("id", value)
  | number {value : Json} {number : String} (valid : deviceIdentity value = .ok number) :
    PublicField ("deviceNum", value)
  | status {key : String} {value : Json} (known : key ∈ statusFields) (fits : publicValue value) :
    PublicField (key, value)
  | label {key : String} {value : Json} (known : key ∈ metadataFields) (fits : publicLabel value) :
    PublicField (key, value)
  | sampled {text : String} (parsed : timestamp (.text text) = some text) :
    PublicField ("updateTimeStr", .text text)
  | observed {clock : String} : PublicField ("observed_at_utc", .text clock)

variable {library : Library} {account : Account} {task : Nat}

theorem publicDevice_public {device : Dict} {id : String} (valid : identifier (Dict.get device "id") = .ok id) :
    Giving (fun shown => ∀ entry ∈ shown, PublicField entry) (publicDevice device) := by
  have number : Giving (fun number => deviceIdentity (Dict.get device "deviceNum") = .ok number)
      (deviceIdentity (Dict.get device "deviceNum")) := fun value same => same
  refine number.bind fun number known => .ok ?_
  intro entry member
  rcases List.mem_append.mp member with earlier | updated
  · rcases List.mem_append.mp earlier with earlier | labels
    · rcases List.mem_append.mp earlier with identities | statuses
      · rcases List.mem_pair.mp identities with rfl | rfl
        · exact .identity valid
        · exact .number known
      · obtain ⟨present, fits⟩ := List.mem_filter.mp statuses
        obtain ⟨key, known, rfl⟩ := List.mem_map.mp present
        exact .status known fits
    · obtain ⟨present, fits⟩ := List.mem_filter.mp labels
      obtain ⟨key, known, rfl⟩ := List.mem_map.mp present
      exact .label known fits
  · obtain ⟨text, shown, rfl⟩ := Option.map_eq_some_iff.mp (Option.mem_toList.mp updated)
    exact .sampled (timestamp_same shown)

/-- The record of a device with a checked detail has a checked id. -/
theorem Call.deviceDetail_identified {device : Dict} :
    (Call.deviceDetail library account task device).Returns fun detail =>
      ∃ id, identifier (Dict.get (merged device detail) "id") = .ok id := by
  have listed : Giving (fun id => identifier (Dict.get device "id") = .ok id) (identifier (Dict.get device "id")) :=
    fun value same => same
  refine Process.Returns.then (check_returns listed) fun id known => Process.Returns.anyway fun data =>
    check_returns ?_
  refine Giving.mapError fun detail matching => ⟨id, ?_⟩
  obtain ⟨-, -, shown⟩ := matchingDetail_ok matching
  unfold merged
  split
  · rename_i present
    exact shown present
  · exact known

theorem Call.ownedDevice_identified {mac : String} :
    (Call.ownedDevice library account task mac).Returns fun device =>
      ∃ id, identifier (Dict.get device "id") = .ok id := by
  refine Process.Returns.anyway fun target => Process.Returns.anyway fun device => ?_
  refine Process.Returns.then Call.deviceDetail_identified fun detail known => Process.Returns.get fun s => ?_
  refine Process.Returns.anyway fun owned => ?_
  split
  · exact Process.Returns.say (.done known)
  · exact .raise

theorem Call.status_public {mac : String} :
    (Call.status library account task mac).Returns fun shown => ∀ entry ∈ shown, PublicField entry := by
  refine Process.Returns.then Call.ownedDevice_identified fun device ⟨id, known⟩ => ?_
  refine Process.Returns.then (check_returns (publicDevice_public known)) fun shown all => ?_
  refine Process.Returns.get fun s => .done fun entry member => ?_
  rcases List.mem_append.mp member with before | last
  · exact all entry before
  · cases List.mem_singleton.mp last
    exact .observed

theorem Call.ownedDevices_public (candidates : List Dict) :
    (Call.ownedDevices library account task candidates).Returns fun devices =>
      ∀ shown ∈ devices, ∀ entry ∈ shown, PublicField entry := by
  induction candidates with
  | nil => exact .done (by simp)
  | cons candidate rest ih =>
    refine Process.Returns.then Call.deviceDetail_identified fun detail known => ?_
    obtain ⟨id, known⟩ := known
    refine Process.Returns.get fun s => Process.Returns.anyway fun owned => ?_
    have last : ∀ devices : List Dict, (∀ shown ∈ devices, ∀ entry ∈ shown, PublicField entry) →
        Process.Returns (fun devices => ∀ shown ∈ devices, ∀ entry ∈ shown, PublicField entry)
          (do return devices ++ (← Call.ownedDevices library account task rest) : Call (List Dict)) := by
      intro devices all
      refine Process.Returns.then ih fun others later => .done fun shown member => ?_
      rcases List.mem_append.mp member with here | there
      · exact all shown here
      · exact later shown there
    dsimp only
    split
    · have shows : Giving (fun devices : List Dict => ∀ shown ∈ devices, ∀ entry ∈ shown, PublicField entry)
          ((publicDevice (merged candidate detail)).map ([·])) :=
        Giving.map (publicDevice_public known) fun shown all => by simpa using all
      exact Process.Returns.then (check_returns shows) last
    · exact last [] (by simp)

/-- What `async_status` or `async_devices` shows. -/
inductive PublicResult : ClientOperation → Json → Prop where
  | status {mac : String} {shown : Dict} (all : ∀ entry ∈ shown, PublicField entry) :
    PublicResult (.status mac) (.dict shown)
  | devices {devices : List Dict} (all : ∀ shown ∈ devices, ∀ entry ∈ shown, PublicField entry) :
    PublicResult .devices (.list (devices.map .dict))

/-- In every order of the steps of all calls of one client, and whatever the vendor sends, a device is shown
with its checked identity and its public fields only. -/
theorem devices_public {machine : ClientMachine} {operation : ClientOperation} {value : Json}
    (run : Reachable (client library account) machine)
    (started : .started task operation ∈ machine.scene.log)
    (lists : operation = .devices ∨ ∃ mac, operation = .status mac)
    (outcome : machine.result? task = some (.ok value)) : PublicResult operation value := by
  obtain ⟨held, found, ended⟩ := Machine.result?_some outcome
  obtain ⟨operation', start, final, started', converses⟩ := run.converses found ended
  cases run.counted.unique started started'
  refine converses.returns ?_
  rcases lists with rfl | ⟨mac, rfl⟩
  · refine Process.Returns.then ?_ fun devices all => .done (.devices all)
    exact Process.Returns.anyway fun _ => Process.Returns.anyway fun candidates => Call.ownedDevices_public candidates
  · exact Process.Returns.then Call.status_public fun shown all => .done (.status all)

end Devices

section Examples

/-- The rename, from its first request to the device that shows the old name. -/
def exampleRenamed : List (Step clientFace ClientOperation) :=
  exampleRename ++ exampleReply 0 .control (some "t") (some renamePayload) doneBody ++
    exampleReply 0 .updateName (some "t") (some [("id", .int 5), ("name", .text "den")]) doneBody ++
    exampleReply 0 (.deviceDetail "5") (some "t") none detailBody

def exampleStatus : List (Step clientFace ClientOperation) :=
  [.start (.status "aabbccddee0f")] ++ exampleLogin 0 ++
    exampleReply 0 .deviceList (some "t") (some [("pageNum", .int 1), ("pageSize", .int pageSize)]) listBody ++
    exampleReply 0 (.deviceDetail "5") (some "t") none detailBody

def begins (task : Nat) (chosen : ClientOperation → Bool) (event : ClientEvent) : Bool :=
  event.start?.any fun start => start.1 = task && chosen start.2

theorem begins_some {task : Nat} {chosen : ClientOperation → Bool} {log : ClientLog}
    (some : log.any (begins task chosen)) : ∃ operation, .started task operation ∈ log ∧ chosen operation := by
  obtain ⟨event, member, same⟩ := List.any_eq_true.mp some
  obtain ⟨start, known, both⟩ := (Option.any_eq_true _ _).mp same
  rw [Bool.and_eq_true, decide_eq_true_eq] at both
  refine ⟨start.2, ?_, both.2⟩
  exact mem_starts.mp (List.mem_filterMap.mpr ⟨event, member, by rw [known, ← both.1]⟩)

def returned : Except Problem Json → Bool
  | .ok _ => true
  | .error _ => false

def isExperimental : ClientOperation → Bool
  | .experimental _ _ _ => true
  | _ => false

theorem experimental_confined_example : ∃ machine value,
    (client exampleVendor exampleAccount).follow exampleClient exampleRenamed = some machine ∧
      machine.result? 0 = some (.ok value) ∧ Confined (Harmless exampleVendor exampleAccount) value := by
  have shown : (((client exampleVendor exampleAccount).follow exampleClient exampleRenamed).map fun machine =>
      machine.scene.log.any (begins 0 isExperimental) && (machine.result? 0).any returned) = some true := by
    decide +kernel
  obtain ⟨machine, followed, both⟩ := Option.map_eq_some_iff.mp shown
  obtain ⟨some, ends⟩ := (Bool.and_eq_true _ _).mp both
  obtain ⟨operation, started, chosen⟩ := begins_some some
  obtain ⟨result, ended, ok⟩ := (Option.any_eq_true _ _).mp ends
  have run : Reachable (client exampleVendor exampleAccount) machine :=
    exampleClient_run.follow (fun _ _ => trivial) followed
  cases operation <;> cases chosen
  cases result with
  | error problem => cases ok
  | ok value => exact ⟨machine, value, followed, ended, experimental_confined run started ended⟩

def isStatus : ClientOperation → Bool
  | .status _ => true
  | _ => false

theorem devices_public_example : ∃ machine mac value,
    (client exampleVendor exampleAccount).follow exampleClient exampleStatus = some machine ∧
      machine.result? 0 = some (.ok value) ∧ PublicResult (.status mac) value := by
  have shown : (((client exampleVendor exampleAccount).follow exampleClient exampleStatus).map fun machine =>
      machine.scene.log.any (begins 0 isStatus) && (machine.result? 0).any returned) = some true := by
    decide +kernel
  obtain ⟨machine, followed, both⟩ := Option.map_eq_some_iff.mp shown
  obtain ⟨some, ends⟩ := (Bool.and_eq_true _ _).mp both
  obtain ⟨operation, started, chosen⟩ := begins_some some
  obtain ⟨result, ended, ok⟩ := (Option.any_eq_true _ _).mp ends
  have run : Reachable (client exampleVendor exampleAccount) machine :=
    exampleClient_run.follow (fun _ _ => trivial) followed
  cases operation <;> cases chosen
  rename_i mac
  cases result with
  | error problem => cases ok
  | ok value => exact ⟨machine, mac, value, followed, ended, devices_public run started (.inr ⟨mac, rfl⟩) ended⟩

end Examples

end AlorairLite.Cloud
