import AlorairLite.Cloud.Session
import Mathlib.Data.List.Nodup

/-! What a task must have seen before it sends a command to the vendor: a row of the device
list, the detail of that device and its owner, and how the request is made of them. -/

namespace AlorairLite.Cloud

open Async

/-- A reply to a request of this task was received as this data. -/
def Answered (loads : List UInt8 → Option Json) (log : ClientLog) (task : Nat) (endpoint : Endpoint)
    (data : Json) : Prop :=
  ∃ (token : Option String) (payload : Option Payload) (reply : HttpReply),
    .delivered task ⟨.http endpoint token payload, reply⟩ ∈ log ∧
      received loads endpoint.command reply = .ok data

/-- A row that is not marked with another owner. -/
def NotForeign (owner : Option String) (device : Dict) : Prop :=
  Dict.get device "userId" = .null ∨
    ∃ id, identifier (Dict.get device "userId") = .ok id ∧ some id = owner

/-- The page shows this device under this MAC to this owner. -/
def Shows (owner : Option String) (data : Json) (mac : String) (device : Dict) : Prop :=
  ∃ entries rows, data = .dict entries ∧ Dict.get entries "list" = .list rows ∧ .dict device ∈ rows ∧
    NotForeign owner device ∧ deviceMac (Dict.get device "deviceNum") = .ok mac ∧
      ∃ id, identifier (Dict.get device "id") = .ok id

/-- Some task took a page that shows this device. -/
def Listed (log : ClientLog) (mac : String) (device : Dict) : Prop :=
  ∃ task owner data, .told task (.listed owner data) ∈ log ∧ Shows owner data mac device

/-- The detail has passed the checks for this listed device and for this owner. -/
structure Owned (device detail : Dict) (id owner : String) : Prop where
  listedId : identifier (Dict.get device "id") = .ok id
  number : ∃ number, deviceIdentity (Dict.get detail "deviceNum") = .ok number ∧
    deviceIdentity (Dict.get device "deviceNum") = .ok number
  shownId : (detail.lookup "id").isSome → identifier (Dict.get detail "id") = .ok id
  ownerId : identifier (Dict.get detail "userId") = .ok owner

/-- What a task has to say before it may command the device of a MAC. -/
def Verified (loads : List UInt8 → Option Json) (past : ClientLog) (task : Nat) (mac : String)
    (device detail : Dict) (owner : String) : Prop :=
  Listed past mac device ∧ (∃ token, phase past = .closed (.succeeded token owner)) ∧
    ∃ id, Owned device detail id owner ∧ Answered loads past task (.deviceDetail id) (.dict detail)

def Scalar.json : Scalar → Json
  | .int value => .int value
  | .text value => .text value

/-- The device id in the body or the path of a command. -/
def sentId : Endpoint → Payload → Option Scalar
  | .resetFilter id _, _ => some (.text id)
  | .control, payload => payload.lookup "deviceId"
  | _, payload => payload.lookup "id"

/-- The filter id in the body or the path of a command. -/
def sentFilter : Endpoint → Payload → Option Scalar
  | .resetFilter _ filter, _ => some (.text filter)
  | _, payload => payload.lookup "filterId"

/-- The entry has this filter id. -/
def hasFilterId (filterId : String) : Json → Bool
  | .dict entries => (identifier (Dict.get entries "id")).toOption = some filterId
  | _ => false

/-- The command carries the identities of this device and no others. -/
structure Addressed (device detail : Dict) (endpoint : Endpoint) (payload : Payload) : Prop where
  id : ∃ value id, sentId endpoint payload = some value ∧ identifier value.json = .ok id ∧
    identifier (Dict.get device "id") = .ok id
  number : ∀ value, payload.lookup "deviceNum" = some value → Dict.get detail "deviceNum" = value.json
  filter : ∀ value, sentFilter endpoint payload = some value →
    ∃ filterId entries, value = .text filterId ∧ Dict.get detail "filter" = .list entries ∧
      entries.countP (hasFilterId filterId) = 1

/-- The MAC that an operation is for. -/
def ClientOperation.mac? : ClientOperation → Option String
  | .status mac | .command mac _ | .experimental mac _ _ => some mac
  | _ => none

/-- The task verified the device of its operation and addresses the command to it. -/
def Authorised (past : ClientLog) (task : Nat) (endpoint : Endpoint) (payload : Payload) : Prop :=
  ∃ operation mac target device detail owner, .started task operation ∈ past ∧
    operation.mac? = some mac ∧ normalizeMac (.text mac) = .ok target ∧
      .told task (.verified target device detail owner) ∈ past ∧ Addressed device detail endpoint payload

section Logs

variable {loads : List UInt8 → Option Json} {log later : ClientLog} {task : Nat}

theorem Listed.mono {mac : String} {device : Dict} (listed : Listed log mac device)
    (grown : log <+: later) : Listed later mac device := by
  obtain ⟨task, owner, data, told, shows⟩ := listed
  exact ⟨task, owner, data, grown.mem told, shows⟩

end Logs

/-- A check that passes, in front of another one. -/
theorem ok_of_bind {Error First Second : Type} {first : Except Error First}
    {next : First → Except Error Second} {result : Second} (passed : first >>= next = .ok result) :
    ∃ value, first = .ok value ∧ next value = .ok result := by
  cases first with
  | error error => cases passed
  | ok value => exact ⟨value, rfl, passed⟩

theorem ok_of_map {Error First Second : Type} {first : Except Error First} {wrap : First → Second}
    {result : Second} (passed : first.map wrap = .ok result) :
    ∃ value, first = .ok value ∧ wrap value = result := by
  cases first with
  | error error => cases passed
  | ok value => exact ⟨value, rfl, Except.ok.inj passed⟩

section Identities

theorem identifier_scalar {value : Json} {id : String} (valid : identifier value = .ok id) :
    value.scalar.json = value := by
  cases value with
  | int value => rfl
  | text value => rfl
  | _ => cases valid

/-- An identity is valid in its text form too. -/
theorem identifier_text {value : Json} {id : String} (valid : identifier value = .ok id) :
    identifier (.text id) = .ok id := by
  unfold identifier at valid
  split at valid
  · split at valid
    · rename_i fits
      cases valid
      exact if_pos fits
    · cases valid
  · split at valid
    · rename_i fits
      cases valid
      exact if_pos fits
    · cases valid
  · cases valid

theorem deviceIdentity_scalar {value : Json} {number : String}
    (valid : deviceIdentity value = .ok number) : value.scalar.json = value := by
  cases value with
  | text value => rfl
  | _ => cases valid

theorem get_merged (device detail : Dict) {key : String} (other : key ≠ "id") :
    Dict.get (merged device detail) key = Dict.get detail key := by
  unfold merged
  split
  · rfl
  · have differs : (key == "id") = false := by simpa using other
    simp [Dict.get, List.lookup_cons, differs]

/-- The id of the merged record is that of the list row. -/
theorem merged_id {device detail : Dict} {id owner : String} (owned : Owned device detail id owner) :
    identifier (Dict.get (merged device detail) "id") = .ok id := by
  unfold merged
  split
  · rename_i present
    exact owned.shownId present
  · exact owned.listedId

theorem publicDevice_get {device shown : Dict} (made : publicDevice device = .ok shown) :
    Dict.get shown "id" = Dict.get device "id" ∧
      Dict.get shown "deviceNum" = Dict.get device "deviceNum" := by
  unfold publicDevice at made
  cases number : deviceIdentity (Dict.get device "deviceNum") with
  | error error => simp [number, bind, Except.bind] at made
  | ok number' =>
    simp only [number, bind, Except.bind, pure, Except.pure, Except.ok.injEq] at made
    subst made
    exact ⟨rfl, rfl⟩

/-- The checks of `_device_detail`. -/
theorem matchingDetail_ok {device detail : Dict} {id : String} {json : Json}
    (matching : Call.matchingDetail device id json = .ok detail) :
    json = .dict detail ∧
      (∃ number, deviceIdentity (Dict.get detail "deviceNum") = .ok number ∧
        deviceIdentity (Dict.get device "deviceNum") = .ok number) ∧
      ((detail.lookup "id").isSome → identifier (Dict.get detail "id") = .ok id) := by
  unfold Call.matchingDetail at matching
  cases json with
  | dict entries =>
    simp only [bind, Except.bind, pure, Except.pure, throw, throwThe, MonadExceptOf.throw] at matching
    split at matching
    · cases matching
    · rename_i number first
      split at matching
      · cases matching
      · rename_i number' second
        split at matching
        · cases matching
        · rename_i same
          have equal : number = number' := not_not.mp same
          subst equal
          split at matching
          · rename_i present
            split at matching
            · cases matching
            · rename_i id' third
              split at matching
              · cases matching
              · rename_i same
                have equal : id' = id := not_not.mp same
                subst equal
                cases matching
                exact ⟨rfl, ⟨number, first, second⟩, fun _ => third⟩
          · rename_i absent
            cases matching
            exact ⟨rfl, ⟨number, first, second⟩, fun present => absurd present absent⟩
  | _ => cases matching

/-- The check of `_owned_device`. -/
theorem ownedBy_true {owner : Option String} {detail : Dict}
    (mine : Call.ownedBy owner detail = .ok true) :
    ∃ id, owner = some id ∧ identifier (Dict.get detail "userId") = .ok id := by
  unfold Call.ownedBy at mine
  split at mine
  · cases mine
  · cases read : identifier (Dict.get detail "userId") with
    | error error => simp [read, Except.map] at mine
    | ok id =>
      have same : some id = owner := by simpa [read, Except.map] using mine
      exact ⟨id, same.symm, rfl⟩

end Identities

section Macs

theorem hex_range {char : Char} (hex : isHex char) : ∃ code < 103, char = Char.ofNat code := by
  refine ⟨char.toNat, ?_, (Char.ofNat_toNat char).symm⟩
  have high : char.toNat ≤ 'f'.toNat := by
    simp only [isHex, isDigit, Bool.or_eq_true, Bool.and_eq_true, decide_eq_true_eq] at hex
    rcases hex with (⟨-, digit⟩ | ⟨-, lower⟩) | ⟨-, upper⟩
    · exact Nat.le_trans digit (by decide)
    · exact lower
    · exact Nat.le_trans upper (by decide)
  exact Nat.lt_succ_of_le high

theorem isHex_toUpper {char : Char} (hex : isHex char) :
    isHex char.toUpper ∧ char.toUpper.toUpper = char.toUpper := by
  have table : ∀ code < 103, isHex (Char.ofNat code) → isHex (Char.ofNat code).toUpper ∧
      (Char.ofNat code).toUpper.toUpper = (Char.ofNat code).toUpper := by decide +kernel
  obtain ⟨code, bound, rfl⟩ := hex_range hex
  exact table code bound hex

theorem hexPairs_isHex {mark : Char} {chars digits : List Char}
    (found : hexPairs mark chars = some digits) : digits.all isHex := by
  fun_induction hexPairs mark chars generalizing digits with
  | case1 high low hex =>
    cases found
    simpa using hex
  | case2 => cases found
  | case3 high low next rest hex ih =>
    obtain ⟨others, remaining, rfl⟩ := Option.map_eq_some_iff.mp found
    simp only [Bool.and_eq_true, decide_eq_true_eq] at hex
    simp [hex, ih remaining]
  | case4 => cases found
  | case5 => cases found

theorem normalizeMac_digits {value : Json} {mac : String} (valid : normalizeMac value = .ok mac) :
    ∃ chars : List Char, chars.length = 12 ∧ chars.all isHex ∧ mac = upper chars := by
  unfold normalizeMac at valid
  split at valid
  · rename_i text
    dsimp only at valid
    split at valid
    · rename_i plain
      cases valid
      simp only [Bool.and_eq_true, decide_eq_true_eq] at plain
      exact ⟨text.toList, plain.1, plain.2, rfl⟩
    · split at valid
      · rename_i digits found
        split at valid
        · rename_i complete
          cases valid
          refine ⟨digits, complete, ?_, rfl⟩
          rcases Option.or_eq_some_iff.mp found with colons | ⟨-, hyphens⟩
          · exact hexPairs_isHex colons
          · exact hexPairs_isHex hyphens
        · cases valid
      · cases valid
  · cases valid

/-- A normalized MAC is its own normal form. -/
theorem normalizeMac_idem {value : Json} {mac : String} (valid : normalizeMac value = .ok mac) :
    normalizeMac (.text mac) = .ok mac := by
  obtain ⟨chars, size, hex, rfl⟩ := normalizeMac_digits valid
  have each : ∀ char ∈ chars, isHex char.toUpper ∧ char.toUpper.toUpper = char.toUpper :=
    fun char member => isHex_toUpper (List.all_eq_true.mp hex char member)
  have twice : upper (chars.map Char.toUpper) = upper chars := by
    unfold upper
    rw [List.map_map]
    exact congrArg String.ofList (List.map_congr_left fun char member => (each char member).2)
  have hex' : (chars.map Char.toUpper).all isHex := by
    rw [List.all_map]
    exact List.all_eq_true.mpr fun char member => (each char member).1
  have plain : (upper chars).toList = chars.map Char.toUpper := String.toList_ofList
  unfold normalizeMac
  simp only [plain, List.length_map, size, decide_true, hex', Bool.and_self, ↓reduceIte, twice]

end Macs

section Rows

theorem put_mem {devices : Devices} {mac : String} {device : Dict} {entry : String × Dict}
    (member : entry ∈ devices.put mac device) : entry ∈ devices ∨ entry = (mac, device) := by
  induction devices with
  | nil => exact .inr (List.mem_singleton.mp member)
  | cons head rest ih =>
    obtain ⟨known, old⟩ := head
    simp only [Devices.put] at member
    split at member
    · rename_i same
      rcases List.mem_cons.mp member with rfl | later
      · exact .inr (by rw [same])
      · exact .inl (List.mem_cons_of_mem _ later)
    · rcases List.mem_cons.mp member with rfl | later
      · exact .inl (List.mem_cons_self ..)
      · rcases ih later with old | new
        · exact .inl (List.mem_cons_of_mem _ old)
        · exact .inr new

theorem lookup_mem {devices : Devices} {mac : String} {device : Dict}
    (found : devices.lookup mac = some device) : (mac, device) ∈ devices := by
  obtain ⟨before, after, rfl, -⟩ := List.lookup_eq_some_iff.mp found
  exact List.mem_append_right _ (List.mem_cons_self ..)

theorem markedForeign_false {owner : Option String} {device : Dict}
    (judged : markedForeign owner device = .ok false) : NotForeign owner device := by
  unfold markedForeign at judged
  split at judged
  · rename_i absent
    exact .inl absent
  · obtain ⟨id, valid, same⟩ := ok_of_map judged
    exact .inr ⟨id, valid, by simpa using same⟩

theorem placeRow_mem {devices result : Devices} {device : Dict} {entry : String × Dict}
    (placed : placeRow devices device = .ok result) (member : entry ∈ result) :
    entry ∈ devices ∨ device = entry.2 ∧ deviceMac (Dict.get entry.2 "deviceNum") = .ok entry.1 ∧
      ∃ id, identifier (Dict.get entry.2 "id") = .ok id := by
  unfold placeRow at placed
  obtain ⟨mac, number, placed⟩ := ok_of_bind placed
  obtain ⟨id, valid, placed⟩ := ok_of_bind placed
  have added : entry ∈ devices.put mac device := by
    split at placed
    · cases placed
      exact member
    · obtain ⟨knownId, -, placed⟩ := ok_of_bind placed
      obtain ⟨knownNumber, -, placed⟩ := ok_of_bind placed
      obtain ⟨number', -, placed⟩ := ok_of_bind placed
      split at placed
      · cases placed
      · cases placed
        exact member
  rcases put_mem added with old | rfl
  · exact .inl old
  · exact .inr ⟨rfl, number, id, valid⟩

/-- What a row adds to the devices. -/
theorem addRow_mem {owner : Option String} {devices result : Devices} {row : Json}
    {entry : String × Dict} (added : addRow owner devices row = .ok result) (member : entry ∈ result) :
    entry ∈ devices ∨ row = .dict entry.2 ∧ NotForeign owner entry.2 ∧
      deviceMac (Dict.get entry.2 "deviceNum") = .ok entry.1 ∧
        ∃ id, identifier (Dict.get entry.2 "id") = .ok id := by
  cases row with
  | dict device =>
    unfold addRow at added
    obtain ⟨foreign, judged, added⟩ := ok_of_bind added
    cases foreign with
    | true =>
      cases added
      exact .inl member
    | false =>
      rcases placeRow_mem added member with old | ⟨rfl, facts⟩
      · exact .inl old
      · exact .inr ⟨rfl, markedForeign_false judged, facts⟩
  | _ => cases added

theorem addRows_mem {owner : Option String} {rows : List Json} {devices result : Devices}
    {entry : String × Dict} (added : rows.foldlM (addRow owner) devices = .ok result)
    (member : entry ∈ result) :
    entry ∈ devices ∨ .dict entry.2 ∈ rows ∧ NotForeign owner entry.2 ∧
      deviceMac (Dict.get entry.2 "deviceNum") = .ok entry.1 ∧
        ∃ id, identifier (Dict.get entry.2 "id") = .ok id := by
  induction rows generalizing devices with
  | nil =>
    cases added
    exact .inl member
  | cons row rest ih =>
    rw [List.foldlM_cons] at added
    obtain ⟨middle, first, remaining⟩ := ok_of_bind added
    rcases ih remaining with early | ⟨later, facts⟩
    · rcases addRow_mem first early with old | ⟨rfl, facts⟩
      · exact .inl old
      · exact .inr ⟨List.mem_cons_self .., facts⟩
    · exact .inr ⟨List.mem_cons_of_mem _ later, facts⟩

/-- What a page adds to the devices. -/
theorem addPage_mem {owner : Option String} {devices : Devices} {data : Json} {result : Int × Devices}
    {entry : String × Dict} (added : addPage owner devices data = .ok result)
    (member : entry ∈ result.2) : entry ∈ devices ∨ Shows owner data entry.1 entry.2 := by
  unfold addPage at added
  cases data with
  | dict entries =>
    cases list : Dict.get entries "list" with
    | list rows =>
      simp only [list] at added
      split at added
      · cases added
      · split at added
        · cases added
        · obtain ⟨devices', folded, rfl⟩ := ok_of_map added
          rcases addRows_mem folded member with old | ⟨row, own, number, id⟩
          · exact .inl old
          · exact .inr ⟨entries, rows, rfl, list, row, own, number, id⟩
    | _ => simp [list] at added
  | _ => cases added

end Rows

section Filters

theorem filterLife_ok {seen : List String} {item : Json} {life : FilterLife}
    (read : filterLife seen item = .ok life) : life.filterId ∉ seen ∧
      ∃ entries, item = .dict entries ∧ identifier (Dict.get entries "id") = .ok life.filterId := by
  unfold filterLife at read
  cases item with
  | dict entries =>
    dsimp only at read
    obtain ⟨filterId, valid, read⟩ := ok_of_bind read
    split at read
    · cases read
    · rename_i fresh
      obtain ⟨recommended, -, read⟩ := ok_of_bind read
      obtain ⟨used, -, read⟩ := ok_of_bind read
      have kept : life.filterId = filterId := by
        split at read
        · obtain ⟨extension, -, read⟩ := ok_of_bind read
          cases read
          rfl
        · obtain ⟨extension, -, read⟩ := ok_of_bind read
          cases read
          rfl
      simp only [Bool.or_eq_true, List.contains_iff_mem, not_or] at fresh
      exact ⟨kept ▸ fresh.1, entries, rfl, kept ▸ valid⟩
  | _ => cases read

/-- Each filter id of the result is that of one entry, and of no other. -/
theorem filterFold_count {items : List Json} {lives result : List FilterLife}
    (folded : items.foldlM (fun lives item => do
      return lives ++ [← filterLife (lives.map FilterLife.filterId) item]) lives = .ok result)
    (distinct : (lives.map FilterLife.filterId).Nodup) :
    (result.map FilterLife.filterId).Nodup ∧ ∀ filterId,
      (result.map FilterLife.filterId).count filterId =
        (lives.map FilterLife.filterId).count filterId + items.countP (hasFilterId filterId) := by
  induction items generalizing lives with
  | nil =>
    cases folded
    exact ⟨distinct, fun filterId => by simp⟩
  | cons item rest ih =>
    rw [List.foldlM_cons] at folded
    obtain ⟨middle, first, remaining⟩ := ok_of_bind folded
    obtain ⟨life, read, added⟩ := ok_of_bind first
    cases added
    obtain ⟨fresh, entries, rfl, valid⟩ := filterLife_ok read
    have distinct' : ((lives ++ [life]).map FilterLife.filterId).Nodup := by
      rw [List.map_append]
      exact List.nodup_append.mpr ⟨distinct, List.nodup_singleton _, by
        rintro id member other last rfl
        exact fresh (List.mem_singleton.mp last ▸ member)⟩
    obtain ⟨unique, counted⟩ := ih remaining distinct'
    refine ⟨unique, fun filterId => ?_⟩
    rw [counted, List.countP_cons, List.map_append, List.count_append]
    have same : hasFilterId filterId (.dict entries) = (life.filterId == filterId) := by
      rw [Bool.eq_iff_iff]
      simp [hasFilterId, valid, Except.toOption]
    simp only [same, List.map_cons, List.map_nil, List.count_singleton]
    omega

theorem mapM_checked {lives result : List FilterLife} {check : FilterLife → Except AlorairError String}
    (passed : (lives.mapM fun life => do
      let _ ← check life
      return life) = .ok result) : result = lives := by
  induction lives generalizing result with
  | nil =>
    cases passed
    rfl
  | cons life rest ih =>
    rw [List.mapM_cons] at passed
    obtain ⟨first, checked, passed⟩ := ok_of_bind passed
    obtain ⟨text, -, same⟩ := ok_of_bind checked
    cases same
    obtain ⟨others, remaining, passed⟩ := ok_of_bind passed
    cases passed
    rw [ih remaining]

/-- The selected filter is one entry of the detail. -/
theorem experimentalFilter_once {library : Library} {account : Account} {token : Option String}
    {detail : Dict} {filterId : String} {life : FilterLife}
    (selected : experimentalFilter library account token detail filterId = .ok life) :
    ∃ entries, Dict.get detail "filter" = .list entries ∧
      entries.countP (hasFilterId filterId) = 1 := by
  obtain ⟨summaries, shown, selected⟩ := ok_of_bind selected
  obtain ⟨lives, listed, checked⟩ := ok_of_bind shown
  have same := mapM_checked checked
  subst same
  have member : filterId ∈ summaries.map FilterLife.filterId := by
    split at selected
    · rename_i found
      have named := List.find?_some found
      exact List.mem_map.mpr ⟨_, List.mem_of_find?_eq_some found, by simpa using named⟩
    · cases selected
  unfold experimentalFilters at listed
  cases list : Dict.get detail "filter" with
  | list items =>
    simp only [list] at listed
    split at listed
    · cases listed
    · obtain ⟨distinct, counted⟩ := filterFold_count listed List.nodup_nil
      refine ⟨items, rfl, ?_⟩
      have once := List.count_eq_one_of_mem distinct member
      rw [counted] at once
      simpa using once
  | _ => simp [list] at listed

end Filters

section Payloads

variable {device detail : Dict} {id owner : String} (owned : Owned device detail id owner)

include owned

theorem merged_id_json : ((Dict.get (merged device detail) "id").scalar).json =
    Dict.get (merged device detail) "id" := identifier_scalar (merged_id owned)

theorem merged_number_json : ((Dict.get (merged device detail) "deviceNum").scalar).json =
    Dict.get detail "deviceNum" := by
  obtain ⟨number, valid, -⟩ := owned.number
  rw [get_merged device detail (by decide)]
  exact deviceIdentity_scalar valid

/-- A basic command is addressed to the owned device. -/
theorem controlPayload_addressed {shown : Dict} {frameType : Scalar} {value : String}
    (made : publicDevice (merged device detail) = .ok shown) :
    Addressed device detail .control (Call.controlPayload shown frameType value) := by
  obtain ⟨sameId, sameNumber⟩ := publicDevice_get made
  refine ⟨⟨(Dict.get shown "id").scalar, id, rfl, ?_, owned.listedId⟩, ?_, ?_⟩
  · rw [sameId, merged_id_json owned]
    exact merged_id owned
  · intro value sent
    unfold Call.controlPayload at sent
    split at sent
    · cases sent
    · cases sent
      rw [sameNumber]
      exact (merged_number_json owned).symm
  · intro value sent
    unfold Call.controlPayload at sent
    split at sent
    · cases sent
    · cases sent

/-- All requests of a mutation are addressed to the owned device. -/
theorem mutationRequests_addressed {library : Library} {account : Account} {token : Option String}
    {change : Mutation} {first : Endpoint × Payload} {others : List (Endpoint × Payload)}
    {before : Option FilterLife}
    (made : Call.mutationRequests library account token (merged device detail) change =
      .ok (first, others, before)) :
    ∀ request ∈ first :: others, Addressed device detail request.1 request.2 := by
  have sent : identifier ((Dict.get (merged device detail) "id").scalar).json = .ok id := by
    rw [merged_id_json owned]
    exact merged_id owned
  have sameFilter : Dict.get (merged device detail) "filter" = Dict.get detail "filter" :=
    get_merged device detail (by decide)
  cases change with
  | rename label =>
    cases made
    intro request member
    rcases List.mem_cons.mp member with rfl | last
    · refine ⟨⟨_, id, rfl, sent, owned.listedId⟩, ?_, ?_⟩
      · rintro value ⟨⟩
        exact (merged_number_json owned).symm
      · rintro value ⟨⟩
    · cases List.mem_singleton.mp last
      refine ⟨⟨_, id, rfl, sent, owned.listedId⟩, ?_, ?_⟩
      · rintro value ⟨⟩
      · rintro value ⟨⟩
  | location label =>
    cases made
    intro request member
    cases List.mem_singleton.mp member
    refine ⟨⟨_, id, rfl, sent, owned.listedId⟩, ?_, ?_⟩
    · rintro value ⟨⟩
    · rintro value ⟨⟩
  | extendFilter filterId extension =>
    obtain ⟨life, selected, made⟩ := ok_of_bind made
    obtain ⟨entries, listed, once⟩ := experimentalFilter_once selected
    dsimp only at made
    split at made
    · cases made
    · cases made
      intro request member
      cases List.mem_singleton.mp member
      refine ⟨⟨_, id, rfl, sent, owned.listedId⟩, ?_, ?_⟩
      · rintro value ⟨⟩
      · rintro value ⟨⟩
        exact ⟨filterId, entries, rfl, sameFilter ▸ listed, once⟩
  | resetFilter filterId =>
    obtain ⟨life, selected, made⟩ := ok_of_bind made
    obtain ⟨entries, listed, once⟩ := experimentalFilter_once selected
    obtain ⟨shownId, valid, made⟩ := ok_of_bind made
    cases made
    have same : shownId = id := by
      rw [merged_id owned] at valid
      exact (Except.ok.inj valid).symm
    subst same
    intro request member
    cases List.mem_singleton.mp member
    refine ⟨⟨_, shownId, rfl, ?_, owned.listedId⟩, ?_, ?_⟩
    · exact identifier_text valid
    · rintro value ⟨⟩
    · rintro value ⟨⟩
      exact ⟨filterId, entries, rfl, sameFilter ▸ listed, once⟩

end Payloads

end AlorairLite.Cloud
