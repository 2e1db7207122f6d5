import AlorairLite.Cloud.Evidence
import AlorairLite.Cloud.Vocabulary

/-! The device list over all its pages: which rows are collected, that no two of them
contradict each other, and which pages are asked for. -/

namespace AlorairLite.Cloud

open Async

/-- The rows name one device: the same id and the same full number. -/
def SameDevice (first second : Dict) : Prop :=
  ∃ id number, identifier (Dict.get first "id") = .ok id ∧ identifier (Dict.get second "id") = .ok id ∧
    deviceIdentity (Dict.get first "deviceNum") = .ok number ∧
      deviceIdentity (Dict.get second "deviceNum") = .ok number

/-- A row of this page that is not marked with another owner. -/
def OwnRow (owner : Option String) (data : Json) (device : Dict) : Prop :=
  ∃ entries rows, data = .dict entries ∧ Dict.get entries "list" = .list rows ∧ .dict device ∈ rows ∧
    NotForeign owner device

/-- The devices stand for exactly these rows. -/
structure Collected (seen : Dict → Prop) (devices : Devices) : Prop where
  keys : ∀ mac, (∃ known, (mac, known) ∈ devices) ↔
    ∃ device, seen device ∧ deviceMac (Dict.get device "deviceNum") = .ok mac
  same : ∀ {mac known device}, (mac, known) ∈ devices → seen device →
    deviceMac (Dict.get device "deviceNum") = .ok mac → SameDevice known device
  distinct : (devices.map Prod.fst).Nodup

/-- A row that nothing but a conflict speaks against. -/
def WellFormedRow (owner : Option String) (row : Json) : Prop :=
  ∃ device, row = .dict device ∧
    (Dict.get device "userId" = .null ∨ ∃ id, identifier (Dict.get device "userId") = .ok id) ∧
      (NotForeign owner device → (∃ number, deviceIdentity (Dict.get device "deviceNum") = .ok number) ∧
        ∃ id, identifier (Dict.get device "id") = .ok id)

def WellFormedPage (owner : Option String) (data : Json) : Prop :=
  ∃ entries rows total, data = .dict entries ∧ Dict.get entries "list" = .list rows ∧
    numericCode (Dict.get entries "totalPage") = some total ∧ 0 ≤ total ∧ total ≤ maxPages ∧
      rows.length ≤ pageSize ∧ ∀ row ∈ rows, WellFormedRow owner row

def conflict : AlorairError := protocolError "The vendor returned conflicting device identities."

section Rows

variable {seen : Dict → Prop} {devices result : Devices} {owner : Option String} {device : Dict}

theorem SameDevice.symm {first second : Dict} (same : SameDevice first second) :
    SameDevice second first := by
  obtain ⟨id, number, firstId, secondId, firstNumber, secondNumber⟩ := same
  exact ⟨id, number, secondId, firstId, secondNumber, firstNumber⟩

theorem SameDevice.trans {first second third : Dict} (same : SameDevice first second)
    (next : SameDevice second third) : SameDevice first third := by
  obtain ⟨id, number, firstId, secondId, firstNumber, secondNumber⟩ := same
  obtain ⟨id', number', secondId', thirdId, secondNumber', thirdNumber⟩ := next
  rw [secondId] at secondId'
  rw [secondNumber] at secondNumber'
  cases secondId'
  cases secondNumber'
  exact ⟨id, number, firstId, thirdId, firstNumber, thirdNumber⟩

theorem Collected.congr {others : Dict → Prop} (collected : Collected seen devices)
    (equal : ∀ device, seen device ↔ others device) : Collected others devices := by
  have same : seen = others := funext fun device => propext (equal device)
  exact same ▸ collected

theorem put_mem_iff {mac : String} {entry : String × Dict} (distinct : (devices.map Prod.fst).Nodup) :
    entry ∈ devices.put mac device ↔ entry ∈ devices ∧ entry.1 ≠ mac ∨ entry = (mac, device) := by
  induction devices with
  | nil => simp [Devices.put]
  | cons head rest ih =>
    obtain ⟨known, old⟩ := head
    rw [List.map_cons, List.nodup_cons] at distinct
    simp only [Devices.put]
    split
    · rename_i same
      subst same
      constructor
      · intro member
        rcases List.mem_cons.mp member with rfl | later
        · exact .inr rfl
        · refine .inl ⟨List.mem_cons_of_mem _ later, fun equal => ?_⟩
          have inside : entry.1 ∈ rest.map Prod.fst := List.mem_map_of_mem later
          exact distinct.1 (equal ▸ inside)
      · rintro (⟨member, differs⟩ | rfl)
        · rcases List.mem_cons.mp member with rfl | later
          · exact absurd rfl differs
          · exact List.mem_cons_of_mem _ later
        · exact List.mem_cons_self ..
    · rename_i differs
      rw [List.mem_cons, List.mem_cons, ih distinct.2]
      constructor
      · rintro (rfl | ⟨later, other⟩ | rfl)
        · exact .inl ⟨.inl rfl, differs⟩
        · exact .inl ⟨.inr later, other⟩
        · exact .inr rfl
      · rintro (⟨rfl | later, other⟩ | rfl)
        · exact .inl rfl
        · exact .inr (.inl ⟨later, other⟩)
        · exact .inr (.inr rfl)

theorem put_distinct {mac : String} (distinct : (devices.map Prod.fst).Nodup) :
    ((devices.put mac device).map Prod.fst).Nodup := by
  induction devices with
  | nil => simp [Devices.put]
  | cons head rest ih =>
    obtain ⟨known, old⟩ := head
    simp only [Devices.put]
    split
    · exact distinct
    · rename_i differs
      rw [List.map_cons, List.nodup_cons] at distinct ⊢
      refine ⟨fun member => ?_, ih distinct.2⟩
      obtain ⟨entry, inside, equal⟩ := List.mem_map.mp member
      rcases put_mem inside with old | rfl
      · have earlier : entry.1 ∈ rest.map Prod.fst := List.mem_map_of_mem old
        exact distinct.1 (equal ▸ earlier)
      · exact differs equal.symm

theorem lookup_absent {mac : String} (missing : devices.lookup mac = none) (known : Dict) :
    (mac, known) ∉ devices := by
  intro member
  have different := List.lookup_eq_none_iff.mp missing (mac, known) member
  simp at different

theorem markedForeign_true (judged : markedForeign owner device = .ok true) :
    ¬ NotForeign owner device := by
  unfold markedForeign at judged
  split at judged
  · cases judged
  · rename_i value present
    obtain ⟨id, valid, differs⟩ := ok_of_map judged
    rintro (absent | ⟨id', valid', same⟩)
    · exact present absent
    · rw [valid] at valid'
      cases valid'
      simp [same] at differs

theorem deviceMac_ok {value : Json} {mac : String} (valid : deviceMac value = .ok mac) :
    ∃ number, deviceIdentity value = .ok number := by
  obtain ⟨number, read, -⟩ := ok_of_map valid
  exact ⟨number, read⟩

/-- What a row has when it is taken. -/
theorem placeRow_ok (placed : placeRow devices device = .ok result) :
    ∃ mac, deviceMac (Dict.get device "deviceNum") = .ok mac ∧ SameDevice device device ∧
      result = devices.put mac device ∧
        ∀ known, devices.lookup mac = some known → SameDevice known device := by
  unfold placeRow at placed
  obtain ⟨mac, valid, placed⟩ := ok_of_bind placed
  obtain ⟨id, validId, placed⟩ := ok_of_bind placed
  obtain ⟨number, validNumber⟩ := deviceMac_ok valid
  refine ⟨mac, valid, ⟨id, number, validId, validId, validNumber, validNumber⟩, ?_⟩
  split at placed
  · rename_i missing
    cases placed
    refine ⟨rfl, fun known found => ?_⟩
    rw [missing] at found
    cases found
  · rename_i known found
    obtain ⟨knownId, readId, placed⟩ := ok_of_bind placed
    obtain ⟨knownNumber, readNumber, placed⟩ := ok_of_bind placed
    obtain ⟨number', again, placed⟩ := ok_of_bind placed
    split at placed
    · cases placed
    · rename_i agree
      cases placed
      obtain ⟨sameId, sameNumber⟩ := not_or.mp agree
      have equalId : knownId = id := not_not.mp sameId
      have equalNumber : knownNumber = number' := not_not.mp sameNumber
      refine ⟨rfl, fun known' found' => ?_⟩
      rw [found] at found'
      cases found'
      exact ⟨id, number', equalId ▸ readId, validId, equalNumber ▸ readNumber, again⟩

theorem Collected.place (collected : Collected seen devices)
    (placed : placeRow devices device = .ok result) :
    Collected (fun row => seen row ∨ row = device) result := by
  obtain ⟨mac, valid, itself, rfl, agrees⟩ := placeRow_ok placed
  have matching : ∀ row, seen row → deviceMac (Dict.get row "deviceNum") = .ok mac →
      SameDevice device row := by
    intro row before named
    cases found : devices.lookup mac with
    | none =>
      obtain ⟨known, member⟩ := (collected.keys mac).mpr ⟨row, before, named⟩
      exact absurd member (lookup_absent found known)
    | some known => exact (agrees known found).symm.trans (collected.same (lookup_mem found) before named)
  refine ⟨fun mac' => ?_, ?_, put_distinct collected.distinct⟩
  · constructor
    · rintro ⟨known, member⟩
      rcases (put_mem_iff collected.distinct).mp member with ⟨old, -⟩ | new
      · obtain ⟨row, before, named⟩ := (collected.keys mac').mp ⟨known, old⟩
        exact ⟨row, .inl before, named⟩
      · cases new
        exact ⟨device, .inr rfl, valid⟩
    · rintro ⟨row, before | rfl, named⟩
      · by_cases equal : mac' = mac
        · exact ⟨device, (put_mem_iff collected.distinct).mpr (.inr (by rw [equal]))⟩
        · obtain ⟨known, old⟩ := (collected.keys mac').mpr ⟨row, before, named⟩
          exact ⟨known, (put_mem_iff collected.distinct).mpr (.inl ⟨old, equal⟩)⟩
      · rw [valid] at named
        cases named
        exact ⟨row, (put_mem_iff collected.distinct).mpr (.inr rfl)⟩
  · intro mac' known row member before named
    rcases (put_mem_iff collected.distinct).mp member with ⟨old, differs⟩ | new
    · rcases before with before | rfl
      · exact collected.same old before named
      · rw [valid] at named
        cases named
        exact absurd rfl differs
    · cases new
      rcases before with before | rfl
      · exact matching row before named
      · exact itself

/-- A row of a page is collected unless it is marked with another owner. -/
theorem Collected.row {row : Json} (collected : Collected seen devices)
    (added : addRow owner devices row = .ok result) :
    Collected (fun device => seen device ∨ row = .dict device ∧ NotForeign owner device) result := by
  cases row with
  | dict device =>
    unfold addRow at added
    obtain ⟨foreign, judged, added⟩ := ok_of_bind added
    cases foreign with
    | true =>
      cases added
      refine collected.congr fun other => ⟨.inl, ?_⟩
      rintro (before | ⟨same, mine⟩)
      · exact before
      · cases same
        exact absurd mine (markedForeign_true judged)
    | false =>
      refine (collected.place added).congr fun other => or_congr_right ⟨?_, ?_⟩
      · rintro rfl
        exact ⟨rfl, markedForeign_false judged⟩
      · rintro ⟨same, -⟩
        cases same
        rfl
  | _ => cases added

theorem Collected.rows {rows : List Json} (collected : Collected seen devices)
    (added : rows.foldlM (addRow owner) devices = .ok result) :
    Collected (fun device => seen device ∨ .dict device ∈ rows ∧ NotForeign owner device) result := by
  induction rows generalizing seen devices with
  | nil =>
    cases added
    exact collected.congr fun device => by simp
  | cons row rest ih =>
    rw [List.foldlM_cons] at added
    obtain ⟨middle, first, remaining⟩ := ok_of_bind added
    refine (ih (collected.row first) remaining).congr fun device => ?_
    rw [List.mem_cons, or_assoc, ← or_and_right]
    simp only [eq_comm]

/-- Nothing but a conflict speaks against a well formed row. -/
theorem addRow_wellFormed {row : Json} (collected : Collected seen devices)
    (fits : WellFormedRow owner row) :
    (∃ result, addRow owner devices row = .ok result) ∨ addRow owner devices row = .error conflict := by
  obtain ⟨device, rfl, marked, named⟩ := fits
  have judged : ∃ foreign, markedForeign owner device = .ok foreign := by
    unfold markedForeign
    split
    · exact ⟨_, rfl⟩
    · rename_i value present
      rcases marked with absent | ⟨id, valid⟩
      · exact absurd absent present
      · exact ⟨_, by rw [valid]; rfl⟩
  obtain ⟨foreign, judged⟩ := judged
  have decided : addRow owner devices (.dict device) =
      if foreign then .ok devices else placeRow devices device := by
    simp only [addRow, judged]
    rfl
  rw [decided]
  cases foreign with
  | true => exact .inl ⟨devices, rfl⟩
  | false =>
    obtain ⟨⟨number, validNumber⟩, id, validId⟩ := named (markedForeign_false judged)
    obtain ⟨mac, validMac⟩ : ∃ mac, deviceMac (Dict.get device "deviceNum") = .ok mac := by
      rw [deviceMac, validNumber]
      exact ⟨_, rfl⟩
    change (∃ result, placeRow devices device = .ok result) ∨ placeRow devices device = .error conflict
    unfold placeRow
    rw [validMac, validId]
    cases found : devices.lookup mac with
    | none => exact .inl ⟨devices.put mac device, by simp [bind, Except.bind, found, pure, Except.pure]⟩
    | some known =>
      have entry := lookup_mem found
      obtain ⟨row, before, named⟩ := (collected.keys mac).mp ⟨known, entry⟩
      obtain ⟨knownId, knownNumber, readId, -, readNumber, -⟩ := collected.same entry before named
      simp only [bind, Except.bind, found, readId, readNumber, validNumber, pure, Except.pure]
      by_cases differ : knownId ≠ id ∨ knownNumber ≠ number
      · rw [if_pos differ]
        exact .inr rfl
      · rw [if_neg differ]
        exact .inl ⟨_, rfl⟩

theorem addRows_wellFormed {rows : List Json} (collected : Collected seen devices)
    (fits : ∀ row ∈ rows, WellFormedRow owner row) :
    (∃ result, rows.foldlM (addRow owner) devices = .ok result) ∨
      rows.foldlM (addRow owner) devices = .error conflict := by
  induction rows generalizing seen devices with
  | nil => exact .inl ⟨devices, rfl⟩
  | cons row rest ih =>
    rw [List.foldlM_cons]
    obtain ⟨first, others⟩ := List.forall_mem_cons.mp fits
    rcases addRow_wellFormed collected first with ⟨middle, added⟩ | refused
    · rw [added]
      exact ih (collected.row added) others
    · rw [refused]
      exact .inr rfl

end Rows

section Pages

variable {seen : Dict → Prop} {devices : Devices} {owner : Option String} {data : Json}

/-- The number of pages that a page speaks of. -/
def pageTotal : Json → Option Int
  | .dict entries => numericCode (Dict.get entries "totalPage")
  | _ => none

theorem addPage_ok {result : Int × Devices} (added : addPage owner devices data = .ok result) :
    pageTotal data = some result.1 ∧ result.1 ≤ maxPages ∧ ∃ entries rows, data = .dict entries ∧
      Dict.get entries "list" = .list rows ∧ rows.foldlM (addRow owner) devices = .ok result.2 := by
  unfold addPage at added
  cases data with
  | dict entries =>
    cases list : Dict.get entries "list" with
    | list rows =>
      simp only [list] at added
      split at added
      · cases added
      · rename_i total counted
        split at added
        · cases added
        · rename_i bounded
          obtain ⟨devices', folded, rfl⟩ := ok_of_map added
          obtain ⟨within, -⟩ := not_or.mp bounded
          exact ⟨counted, (not_not.mp within).2, entries, rows, rfl, list, folded⟩
    | _ => simp [list] at added
  | _ => cases added

theorem Collected.page {result : Int × Devices} (collected : Collected seen devices)
    (added : addPage owner devices data = .ok result) :
    Collected (fun device => seen device ∨ OwnRow owner data device) result.2 := by
  obtain ⟨-, -, entries, rows, rfl, list, folded⟩ := addPage_ok added
  refine (collected.rows folded).congr fun device => or_congr_right ⟨?_, ?_⟩
  · rintro ⟨member, mine⟩
    exact ⟨entries, rows, rfl, list, member, mine⟩
  · rintro ⟨entries', rows', same, list', member, mine⟩
    cases same
    rw [list] at list'
    cases list'
    exact ⟨member, mine⟩

theorem addPage_wellFormed (collected : Collected seen devices) (fits : WellFormedPage owner data) :
    (∃ result, addPage owner devices data = .ok result) ∨
      addPage owner devices data = .error conflict := by
  obtain ⟨entries, rows, total, rfl, list, counted, low, high, size, rowsFit⟩ := fits
  have bounded : ¬ (¬ (0 ≤ total ∧ total ≤ maxPages) ∨ pageSize < rows.length) := by omega
  unfold addPage
  simp only [list, counted]
  rw [if_neg bounded]
  rcases addRows_wellFormed collected rowsFit with ⟨result, added⟩ | refused
  · rw [added]
    exact .inl ⟨(total, result), rfl⟩
  · rw [refused]
    exact .inr rfl

end Pages

/-- The loop over the pages of a vendor: the page it stops at, and its result. -/
def gather (owner : Option String) (vendor : Nat → Json) :
    Nat → Nat → Devices → Nat × Except AlorairError Devices
  | 0, page, _ => (page, .error (protocolError "Device pagination did not terminate."))
  | left + 1, page, devices =>
    match addPage owner devices (vendor page) with
    | .error error => (page, .error error)
    | .ok listed =>
      if listed.1 ≤ page then (page, .ok listed.2) else gather owner vendor left (page + 1) listed.2

/-- From this page on, the first that is not before the last one it speaks of. -/
structure LastPage (vendor : Nat → Json) (page last : Nat) : Prop where
  reached : page ≤ last
  stops : ∃ total, pageTotal (vendor last) = some total ∧ total ≤ last
  goes : ∀ earlier, page ≤ earlier → earlier < last →
    ∃ total, pageTotal (vendor earlier) = some total ∧ (earlier : Int) < total

section Loop

variable {owner : Option String} {vendor : Nat → Json}

/-- A row of these pages that is not marked with another owner. -/
def OwnRows (owner : Option String) (vendor : Nat → Json) (page last : Nat) (device : Dict) : Prop :=
  ∃ other, page ≤ other ∧ other ≤ last ∧ OwnRow owner (vendor other) device

theorem ownRows_next {page last : Nat} (more : page ≤ last) (device : Dict) :
    OwnRows owner vendor page last device ↔
      OwnRow owner (vendor page) device ∨ OwnRows owner vendor (page + 1) last device := by
  constructor
  · rintro ⟨other, low, high, row⟩
    rcases Nat.lt_or_eq_of_le low with later | rfl
    · exact .inr ⟨other, later, high, row⟩
    · exact .inl row
  · rintro (row | ⟨other, low, high, row⟩)
    · exact ⟨page, Nat.le_refl _, more, row⟩
    · exact ⟨other, Nat.le_of_succ_le low, high, row⟩

/-- What the loop returns stands for the rows up to the last page. -/
theorem gather_ok {seen : Dict → Prop} {left page last : Nat} {devices result : Devices}
    (collected : Collected seen devices)
    (returned : gather owner vendor left page devices = (last, .ok result)) :
    last < page + left ∧ LastPage vendor page last ∧
      Collected (fun device => seen device ∨ OwnRows owner vendor page last device) result := by
  induction left generalizing seen page devices with
  | zero => cases returned
  | succ left ih =>
    rw [gather] at returned
    cases added : addPage owner devices (vendor page) with
    | error error =>
      rw [added] at returned
      cases returned
    | ok listed =>
      obtain ⟨counted, -, -⟩ := addPage_ok added
      have next := collected.page added
      simp only [added] at returned
      split at returned
      · rename_i enough
        cases returned
        refine ⟨by omega, ⟨Nat.le_refl _, ⟨_, counted, enough⟩, fun earlier low high => by omega⟩, ?_⟩
        refine next.congr fun device => or_congr_right ?_
        rw [ownRows_next (Nat.le_refl _)]
        refine ⟨.inl, ?_⟩
        rintro (row | ⟨other, low, high, -⟩)
        · exact row
        · omega
      · rename_i more
        obtain ⟨bound, lastPage, after⟩ := ih next returned
        refine ⟨by omega, ⟨by have := lastPage.reached; omega, lastPage.stops, ?_⟩, ?_⟩
        · intro earlier low high
          rcases Nat.lt_or_eq_of_le low with later | rfl
          · exact lastPage.goes earlier later high
          · exact ⟨_, counted, by omega⟩
        · refine after.congr fun device => ?_
          rw [ownRows_next (Nat.le_of_succ_le lastPage.reached), or_assoc]

/-- On well formed pages the loop returns, or it finds a conflict. -/
theorem gather_wellFormed {seen : Dict → Prop} {left page last : Nat} {devices : Devices}
    (collected : Collected seen devices) (lastPage : LastPage vendor page last)
    (within : last < page + left)
    (fits : ∀ other, page ≤ other → other ≤ last → WellFormedPage owner (vendor other)) :
    (∃ result, (gather owner vendor left page devices) = (last, .ok result)) ∨
      (gather owner vendor left page devices).2 = .error conflict := by
  induction left generalizing seen page devices with
  | zero =>
    have reached := lastPage.reached
    omega
  | succ left ih =>
    rw [gather]
    rcases addPage_wellFormed collected (fits page (Nat.le_refl _) lastPage.reached) with
      ⟨listed, added⟩ | refused
    · obtain ⟨counted, -, -⟩ := addPage_ok added
      simp only [added]
      rcases Nat.lt_or_eq_of_le lastPage.reached with later | rfl
      · obtain ⟨total, counted', more⟩ := lastPage.goes page (Nat.le_refl _) later
        rw [counted] at counted'
        cases counted'
        rw [if_neg (by omega)]
        apply ih (collected.page added) ⟨later, lastPage.stops, ?_⟩ (by omega)
        · intro other low high
          exact fits other (Nat.le_of_succ_le low) high
        · intro earlier low high
          exact lastPage.goes earlier (Nat.le_of_succ_le low) high
      · obtain ⟨total, counted', enough⟩ := lastPage.stops
        rw [counted] at counted'
        cases counted'
        rw [if_pos enough]
        exact .inl ⟨listed.2, rfl⟩
    · rw [refused]
      exact .inr rfl

end Loop

/-- The page that a request for the device list asks for. -/
def pageOf (payload : Option Payload) : Option Nat :=
  match payload.bind (List.lookup "pageNum") with
  | some (.int page) => some page.toNat
  | _ => none

def askedPage : Exchange clientFace → Option Nat
  | .asked (.http .deviceList _ payload) => pageOf payload
  | _ => none

/-- A page that the vendor has sent, and what it holds. -/
def sentPage (loads : List UInt8 → Option Json) : Exchange clientFace → Option (Nat × Json)
  | .answered ⟨.http .deviceList _ payload, reply⟩ =>
    match pageOf payload, received loads false reply with
    | some page, .ok data => some (page, data)
    | _, _ => none
  | _ => none

/-- This page was taken, while this was the owner id. -/
def listedPage : Exchange clientFace → Option (Option String × Json)
  | .told (.listed owner data) => some (owner, data)
  | _ => none

section Reading

variable {library : Library} {account : Account} {task page : Nat} {state final : Client}
  {trace : List (Exchange clientFace)}

def pagePayload (page : Nat) : Option Payload := some [("pageNum", .int page), ("pageSize", .int pageSize)]

/-- An exchange of an authentication attempt. -/
abbrev SigningIn (exchange : Exchange clientFace) : Prop :=
  @Exchange.Fits clientFace ClientQuery.signsIn ClientRemark.signsIn exchange

/-- A sign in has nothing to do with the pages. -/
theorem signing_exchange (loads : List UInt8 → Option Json) {exchange : Exchange clientFace}
    (fits : SigningIn exchange) :
    askedPage exchange = none ∧ sentPage loads exchange = none ∧ listedPage exchange = none := by
  have away : ∀ {endpoint : Endpoint} {token : Option String} {payload : Option Payload},
      ClientQuery.signsIn (.http endpoint token payload) → endpoint ≠ .deviceList := by
    rintro endpoint token payload signing rfl
    exact signing
  rcases exchange with remark | query | ⟨query, reply⟩ | reason
  · cases remark with
    | listed owner data => exact fits.elim
    | _ => exact ⟨rfl, rfl, rfl⟩
  · cases query with
    | encrypt => exact ⟨rfl, rfl, rfl⟩
    | http endpoint token payload =>
      have other := away fits
      cases endpoint with
      | deviceList => exact absurd rfl other
      | _ => exact ⟨rfl, rfl, rfl⟩
  · cases query with
    | encrypt => exact ⟨rfl, rfl, rfl⟩
    | http endpoint token payload =>
      have other := away fits
      cases endpoint with
      | deviceList => exact absurd rfl other
      | _ => exact ⟨rfl, rfl, rfl⟩
  · exact ⟨rfl, rfl, rfl⟩

theorem signing_silent (loads : List UInt8 → Option Json)
    (signing : ∀ exchange ∈ trace, SigningIn exchange) :
    trace.filterMap askedPage = [] ∧ trace.filterMap (sentPage loads) = [] ∧
      trace.filterMap listedPage = [] := by
  refine ⟨?_, ?_, ?_⟩
  · exact List.filterMap_eq_nil_iff.mpr fun exchange member =>
      (signing_exchange loads (signing exchange member)).1
  · exact List.filterMap_eq_nil_iff.mpr fun exchange member =>
      (signing_exchange loads (signing exchange member)).2.1
  · exact List.filterMap_eq_nil_iff.mpr fun exchange member =>
      (signing_exchange loads (signing exchange member)).2.2

/-- What reading a page leaves in the trace. -/
structure PageRead (loads : List UInt8 → Option Json) (page : Nat) (trace : List (Exchange clientFace))
    (result : Except Problem Json) : Prop where
  asked : ∀ other ∈ trace.filterMap askedPage, other = page
  sent : ∀ data, result = .ok data →
    page ∈ trace.filterMap askedPage ∧ trace.filterMap (sentPage loads) = [(page, data)]
  failed : ∀ problem, result = .error problem → trace.filterMap (sentPage loads) = []
  unlisted : trace.filterMap listedPage = []

theorem PageRead.after (before : List (Exchange clientFace)) {result : Except Problem Json}
    (signing : ∀ exchange ∈ before, SigningIn exchange)
    (read : PageRead library.loads page trace result) :
    PageRead library.loads page (before ++ trace) result := by
  obtain ⟨asked, sent, listed⟩ := signing_silent library.loads signing
  refine ⟨?_, ?_, ?_, ?_⟩
  · rw [List.filterMap_append, asked]
    exact read.asked
  · rw [List.filterMap_append, asked, List.filterMap_append, sent]
    exact read.sent
  · rw [List.filterMap_append, sent]
    exact read.failed
  · rw [List.filterMap_append, listed]
    exact read.unlisted

theorem PageRead.quiet {problem : Problem} : PageRead library.loads page [] (.error problem) := by
  refine ⟨by simp, ?_, fun _ _ => rfl, rfl⟩
  rintro data ⟨⟩

/-- One request for a page. -/
theorem request_page {verb : Verb} {token : Option String} {result : Except Problem Json}
    (converses : Converses (Call.request library verb .deviceList token (pagePayload page)) state trace
      result final) : PageRead library.loads page trace result := by
  rcases Call.request_converses library converses with
    ⟨rfl, error, rfl, -⟩ | ⟨reply, rfl, ⟨deep, rfl⟩ | ⟨-, rfl⟩⟩ | ⟨reason, rfl, rfl⟩
  · exact .quiet
  · obtain ⟨error, judged, -⟩ := Library.received_deep false deep
    have unseen : sentPage library.loads
        (.answered ⟨.http .deviceList token (pagePayload page), reply⟩) = none := by
      simp only [sentPage, judged]
      rfl
    refine ⟨?_, ?_, ?_, rfl⟩
    · intro other member
      exact List.mem_singleton.mp member
    · rintro data ⟨⟩
    · intro problem _
      rw [List.filterMap_cons_none rfl, List.filterMap_cons_none unseen]
      rfl
  · cases judged : received library.loads false reply with
    | ok data =>
      have seen : sentPage library.loads
          (.answered ⟨.http .deviceList token (pagePayload page), reply⟩) = some (page, data) := by
        simp only [sentPage, judged]
        rfl
      refine ⟨?_, ?_, ?_, rfl⟩
      · intro other member
        exact List.mem_singleton.mp member
      · intro data' returned
        have same : data = data' := by simpa [Endpoint.command, judged, Except.mapError] using returned
        subst same
        refine ⟨List.mem_singleton_self _, ?_⟩
        rw [List.filterMap_cons_none rfl, List.filterMap_cons_some seen]
        rfl
      · intro problem failed
        simp [Endpoint.command, judged, Except.mapError] at failed
    | error error =>
      have unseen : sentPage library.loads
          (.answered ⟨.http .deviceList token (pagePayload page), reply⟩) = none := by
        simp only [sentPage, judged]
        rfl
      refine ⟨?_, ?_, ?_, rfl⟩
      · intro other member
        exact List.mem_singleton.mp member
      · intro data returned
        simp [Endpoint.command, judged, Except.mapError] at returned
      · intro problem _
        rw [List.filterMap_cons_none rfl, List.filterMap_cons_none unseen]
        rfl
  · refine ⟨?_, ?_, fun _ _ => rfl, rfl⟩
    · intro other member
      exact List.mem_singleton.mp member
    · rintro data ⟨⟩

/-- Two requests for a page, of which the first has failed. -/
theorem PageRead.retry {first : List (Exchange clientFace)} {problem : Problem}
    {result : Except Problem Json} (failed : PageRead library.loads page first (.error problem))
    (again : PageRead library.loads page trace result) :
    PageRead library.loads page (first ++ trace) result := by
  have nothing := failed.failed problem rfl
  refine ⟨?_, ?_, ?_, ?_⟩
  · intro other member
    rw [List.filterMap_append] at member
    rcases List.mem_append.mp member with early | late
    · exact failed.asked other early
    · exact again.asked other late
  · intro data returned
    obtain ⟨asked, sent⟩ := again.sent data returned
    rw [List.filterMap_append, List.filterMap_append, nothing]
    exact ⟨List.mem_append_right _ asked, sent⟩
  · intro problem' stopped
    rw [List.filterMap_append, nothing]
    exact again.failed problem' stopped
  · rw [List.filterMap_append, failed.unlisted]
    exact again.unlisted

theorem read_page {result : Except Problem Json}
    (converses : Converses (Call.read library account task .deviceList (pagePayload page)) state trace
      result final) : PageRead library.loads page trace result := by
  obtain ⟨first, middle, left, right, rfl, signed, rest⟩ := converses_then.mp converses
  refine PageRead.after _ (signed.fits (Call.login_keeps library account task)) ?_
  cases first with
  | error problem =>
    obtain ⟨rfl, rfl, -⟩ := converses_chain_error.mp rest
    exact .quiet
  | ok _ =>
    obtain ⟨rest', rfl, tried⟩ := converses_say.mp (converses_get.mp rest)
    refine PageRead.after [.told (.captured _)]
      (fun exchange member => List.mem_singleton.mp member ▸ trivial) ?_
    obtain ⟨first, middle', left', right', rfl, requested, rest⟩ := converses_attempt.mp tried
    have once := request_page requested
    cases first with
    | ok data =>
      obtain ⟨rfl, rfl, -⟩ := converses_done.mp rest
      rw [List.append_nil]
      exact once
    | error problem =>
      apply once.retry
      cases problem with
      | interrupted reason =>
        obtain ⟨rfl, rfl, -⟩ := converses_done.mp rest
        exact .quiet
      | recursion =>
        obtain ⟨rfl, rfl, -⟩ := converses_done.mp rest
        exact .quiet
      | error error =>
        simp only [Process.recover] at rest
        split at rest
        · obtain ⟨renewed, middle'', left'', right'', rfl, signed', rest⟩ := converses_then.mp rest
          refine PageRead.after _ (signed'.fits (Call.refresh_keeps library account task _ _)) ?_
          cases renewed with
          | error problem =>
            obtain ⟨rfl, rfl, -⟩ := converses_chain_error.mp rest
            exact .quiet
          | ok _ => exact request_page (converses_get.mp rest)
        · obtain ⟨rfl, rfl, -⟩ := converses_done.mp rest
          exact .quiet

theorem read_speaks {endpoint : Endpoint} {payload : Option Payload} {result : Except Problem Json}
    (converses : Converses (Call.read library account task endpoint payload) state trace result final) :
    trace ≠ [] := by
  obtain ⟨first, middle, left, right, rfl, signed, rest⟩ := converses_then.mp converses
  obtain ⟨rest', rfl, -⟩ := converses_say.mp (converses_get.mp signed)
  simp

end Reading

/-- The pages from one to another are asked for, in this order. -/
structure Requested (page reach : Nat) (trace : List (Exchange clientFace)) : Prop where
  ordered : (trace.filterMap askedPage).Pairwise (· ≤ ·)
  exactly : ∀ other, other ∈ trace.filterMap askedPage ↔ page ≤ other ∧ other ≤ reach

/-- The last thing that happened is that a page was taken. -/
def Taken (trace : List (Exchange clientFace)) : Prop := ∃ entry, trace.getLast?.bind listedPage = some entry

section Pagination

variable {library : Library} {account : Account} {task page : Nat} {state final : Client}
  {trace later : List (Exchange clientFace)}

theorem Requested.begin {result : Except Problem Json} (first : 0 < page)
    (read : PageRead library.loads page trace result) :
    ∃ reach, page ≤ reach + 1 ∧ reach ≤ page ∧ Requested page reach trace := by
  have ordered : (trace.filterMap askedPage).Pairwise (· ≤ ·) := by
    apply List.pairwise_of_forall_mem_list
    intro other member another member'
    rw [read.asked other member, read.asked another member']
  by_cases asked : page ∈ trace.filterMap askedPage
  · refine ⟨page, Nat.le_succ _, Nat.le_refl _, ordered, fun other => ⟨fun member => ?_, fun bounds => ?_⟩⟩
    · have same := read.asked other member
      omega
    · have same : other = page := by omega
      exact same ▸ asked
  · refine ⟨page - 1, by omega, Nat.sub_le _ _, ordered, fun other => ⟨fun member => ?_, fun bounds => by omega⟩⟩
    exact absurd (read.asked other member ▸ member) asked

theorem Requested.extend {reach : Nat} {data : Json} (entry : Option String × Json)
    (read : PageRead library.loads page trace (.ok data)) (more : page ≤ reach)
    (rest : Requested (page + 1) reach later) :
    Requested page reach (trace ++ .told (.listed entry.1 entry.2) :: later) := by
  obtain ⟨asked, -⟩ := read.sent data rfl
  have whole : (trace ++ .told (.listed entry.1 entry.2) :: later).filterMap askedPage =
      trace.filterMap askedPage ++ later.filterMap askedPage := by
    rw [List.filterMap_append, List.filterMap_cons_none rfl]
  refine ⟨?_, fun other => ?_⟩
  · rw [whole]
    refine List.pairwise_append.mpr ⟨?_, rest.ordered, ?_⟩
    · apply List.pairwise_of_forall_mem_list
      intro other member another member'
      rw [read.asked other member, read.asked another member']
    · intro other member another member'
      have low := ((rest.exactly another).mp member').1
      rw [read.asked other member]
      omega
  · rw [whole, List.mem_append, rest.exactly]
    constructor
    · rintro (member | bounds)
      · rw [read.asked other member]
        exact ⟨Nat.le_refl _, more⟩
      · omega
    · rintro ⟨low, high⟩
      rcases Nat.lt_or_eq_of_le low with later | rfl
      · exact .inr ⟨later, high⟩
      · exact .inl asked

theorem read_not_taken (before : List (Exchange clientFace)) {result : Except Problem Json}
    (read : PageRead library.loads page trace result) (speaks : trace ≠ []) :
    ¬ Taken (before ++ trace) := by
  rintro ⟨entry, last⟩
  rw [List.getLast?_append_of_ne_nil _ speaks] at last
  obtain ⟨exchange, final, listed⟩ := Option.bind_eq_some_iff.mp last
  have nothing := List.filterMap_eq_nil_iff.mp read.unlisted exchange (List.mem_of_getLast? final)
  rw [nothing] at listed
  cases listed

variable {owner : Option String} {vendor : Nat → Json} {left : Nat} {devices : Devices}
  {result : Except Problem Devices}

/-- What the loop has done when it is over: a page was not to be had, or the pages up to
the last one decide. -/
structure Paged (loads : List UInt8 → Option Json) (owner : Option String) (vendor : Nat → Json)
    (left page : Nat) (devices : Devices) (trace : List (Exchange clientFace))
    (result : Except Problem Devices) (count reach : Nat) : Prop where
  begun : page ≤ reach + 1
  bounded : reach ≤ maxPages
  requested : Requested page reach trace
  sent : trace.filterMap (sentPage loads) = (List.range' page count).map fun other => (other, vendor other)
  speaks : trace ≠ []
  ended : (∃ problem, result = .error problem) ∧ ¬ Taken trace ∨
    Taken trace ∧ reach + 1 = page + count ∧ (gather owner vendor left page devices).1 = reach ∧
      result = (gather owner vendor left page devices).2.mapError .error

theorem fetchPages_paged (first : 0 < page) (bound : page + left = maxPages + 1) (more : 0 < left)
    (owners : ∀ entry ∈ trace.filterMap listedPage, entry.1 = owner)
    (behaves : ∀ entry ∈ trace.filterMap (sentPage library.loads), entry.2 = vendor entry.1)
    (converses : Converses (Call.fetchPages library account task left page devices) state trace result
      final) :
    ∃ count reach, Paged library.loads owner vendor left page devices trace result count reach := by
  induction left generalizing page devices state trace with
  | zero => exact absurd more (Nat.lt_irrefl 0)
  | succ left ih =>
    obtain ⟨data, middle, before, after, rfl, reading, rest⟩ := converses_then.mp converses
    have read := read_page reading
    have speaks := read_speaks reading
    cases data with
    | error problem =>
      obtain ⟨rfl, rfl, -⟩ := converses_chain_error.mp rest
      obtain ⟨reach, low, high, requested⟩ := Requested.begin first read
      rw [List.append_nil]
      refine ⟨0, reach, low, by omega, requested, read.failed problem rfl, speaks, .inl ⟨⟨problem, rfl⟩, ?_⟩⟩
      exact read_not_taken [] read speaks
    | ok data =>
      obtain ⟨later, rfl, checked⟩ := converses_say.mp (converses_get.mp rest)
      obtain ⟨asked, sent⟩ := read.sent data rfl
      have mine : middle.ownerId = owner := owners (middle.ownerId, data) (by
        apply List.mem_filterMap.mpr
        exact ⟨_, List.mem_append_right _ (List.mem_cons_self ..), rfl⟩)
      have given : data = vendor page := behaves (page, data) (by
        rw [List.filterMap_append, sent]
        exact List.mem_append_left _ (List.mem_singleton_self _))
      subst given
      rw [mine] at owners behaves checked ⊢
      have sentAll : (before ++ .told (.listed owner (vendor page)) :: later).filterMap
          (sentPage library.loads) = (page, vendor page) :: later.filterMap (sentPage library.loads) := by
        rw [List.filterMap_append, sent, List.filterMap_cons_none rfl]
        rfl
      obtain ⟨listed, middle', left', right', rfl, judged, next⟩ := converses_then.mp checked
      obtain ⟨rfl, rfl, rfl⟩ := converses_done.mp judged
      rw [List.nil_append] at *
      -- The page ends the loop, with its result or with an error.
      have ends : right' = [] → (gather owner vendor (left + 1) page devices).1 = page →
          result = (gather owner vendor (left + 1) page devices).2.mapError .error →
          ∃ count reach, Paged library.loads owner vendor (left + 1) page devices
            (before ++ .told (.listed owner (vendor page)) :: right') result count reach := by
        rintro rfl number outcome
        refine ⟨1, page, Nat.le_succ _, by omega, ?_, sentAll, by simp, .inr ⟨?_, rfl, number, outcome⟩⟩
        · apply Requested.extend (owner, vendor page) read (Nat.le_refl _)
          refine ⟨List.Pairwise.nil, fun other => ⟨fun member => ?_, fun bounds => ?_⟩⟩
          · cases member
          · omega
        · exact ⟨(owner, vendor page), congrArg (Option.bind · listedPage) List.getLast?_concat⟩
      cases added : addPage owner devices (vendor page) with
      | error error =>
        rw [added] at next
        obtain ⟨rfl, rfl, -⟩ := converses_done.mp next
        exact ends rfl (by simp [gather, added]) (by simp [gather, added, Except.mapError])
      | ok listed =>
        obtain ⟨-, high, -⟩ := addPage_ok added
        rw [added] at next
        change Converses (if listed.1 ≤ page then pure listed.2 else
          Call.fetchPages library account task left (page + 1) listed.2 : Call Devices) _ _ _ _ at next
        split at next
        · rename_i enough
          obtain ⟨rfl, rfl, -⟩ := converses_done.mp next
          exact ends rfl (by simp [gather, added, enough])
            (by simp [gather, added, enough, Except.mapError])
        · rename_i more
          have goes : gather owner vendor (left + 1) page devices =
              gather owner vendor left (page + 1) listed.2 := by simp [gather, added, more]
          obtain ⟨count, reach, paged⟩ := ih (Nat.succ_pos _) (by omega) (by omega)
            (fun entry member => owners entry (by
              rw [List.filterMap_append, List.filterMap_cons]
              exact List.mem_append_right _ (List.mem_cons_of_mem _ member)))
            (fun entry member => behaves entry (sentAll ▸ List.mem_cons_of_mem _ member)) next
          have last : (before ++ .told (.listed owner (vendor page)) :: right').getLast? =
              right'.getLast? := by
            rw [List.getLast?_append_of_ne_nil _ (by simp), List.getLast?_cons_of_ne_nil paged.speaks]
          refine ⟨count + 1, reach, ?_, paged.bounded, ?_, ?_, by simp, ?_⟩
          · exact Nat.le_trans (Nat.le_succ _) paged.begun
          · apply Requested.extend (owner, vendor page) read ?_ paged.requested
            exact Nat.le_of_succ_le_succ paged.begun
          · rw [sentAll, paged.sent]
            rfl
          · rw [Taken, last, goes]
            rcases paged.ended with broken | ⟨taken, number, whole⟩
            · exact .inl broken
            · exact .inr ⟨taken, by omega, whole⟩

end Pagination

section Theorems

variable (library : Library) (account : Account) (task : Nat)

/-- The loop of `_fetch_device_pages` with this code behind it. -/
def pagesBefore (behind : Call Devices) : Nat → Nat → Devices → Call Devices
  | 0, _, _ => behind
  | left + 1, page, devices => do
    let data ← Call.read library account task .deviceList (pagePayload page)
    let s : Client ← Process.get
    Process.say (.listed s.ownerId data)
    let listed ← Call.check (addPage s.ownerId devices data)
    if listed.1 ≤ page then return listed.2
    else pagesBefore behind left (page + 1) listed.2

theorem fetchPages_before (left page : Nat) (devices : Devices) :
    Call.fetchPages library account task left page devices = pagesBefore library account task
      (Call.fail (protocolError "Device pagination did not terminate.")) left page devices := by
  induction left generalizing page devices with
  | zero => rfl
  | succ left ih =>
    simp only [Call.fetchPages, pagesBefore, ih]
    rfl

/-- What is behind the loop is never reached. -/
theorem pagesBefore_unreached (behind other : Call Devices) {left page : Nat} (devices : Devices)
    (bound : page + left = maxPages + 1) (more : 0 < left) :
    pagesBefore library account task behind left page devices =
      pagesBefore library account task other left page devices := by
  induction left generalizing page devices with
  | zero => exact absurd more (Nat.lt_irrefl 0)
  | succ left ih =>
    have step : ∀ (owner : Option String) (data : Json),
        (do
          let listed ← Call.check (addPage owner devices data)
          if listed.1 ≤ page then return listed.2
          else pagesBefore library account task behind left (page + 1) listed.2 : Call Devices) =
        (do
          let listed ← Call.check (addPage owner devices data)
          if listed.1 ≤ page then return listed.2
          else pagesBefore library account task other left (page + 1) listed.2 : Call Devices) := by
      intro owner data
      cases added : addPage owner devices data with
      | error error => rfl
      | ok listed =>
        obtain ⟨-, high, -⟩ := addPage_ok added
        change (if listed.1 ≤ page then pure listed.2 else _ : Call Devices) =
          (if listed.1 ≤ page then pure listed.2 else _ : Call Devices)
        split
        · rfl
        · exact ih listed.2 (by omega) (by omega)
    simp only [pagesBefore, step]

end Theorems

/-- The devices are exactly those of the rows up to the last page, which agree. -/
structure CompleteListing (loads : List UInt8 → Option Json) (owner : Option String)
    (vendor : Nat → Json) (trace : List (Exchange clientFace)) (devices : Devices) (last : Nat) :
    Prop where
  lastPage : LastPage vendor 1 last
  requested : Requested 1 last trace
  sent : trace.filterMap (sentPage loads) = (List.range' 1 last).map fun page => (page, vendor page)
  keys : ∀ mac, mac ∈ devices.map Prod.fst ↔
    ∃ device, OwnRows owner vendor 1 last device ∧ deviceMac (Dict.get device "deviceNum") = .ok mac
  agree : ∀ {mac first second}, OwnRows owner vendor 1 last first → OwnRows owner vendor 1 last second →
    deviceMac (Dict.get first "deviceNum") = .ok mac →
      deviceMac (Dict.get second "deviceNum") = .ok mac → SameDevice first second

/-- Two rows up to this page have one MAC, but not one id or not one full number. -/
def Contradictory (owner : Option String) (vendor : Nat → Json) (last : Nat) : Prop :=
  ∃ first second mac, OwnRows owner vendor 1 last first ∧ OwnRows owner vendor 1 last second ∧
    deviceMac (Dict.get first "deviceNum") = .ok mac ∧ deviceMac (Dict.get second "deviceNum") = .ok mac ∧
      (identifier (Dict.get first "id") ≠ identifier (Dict.get second "id") ∨
        deviceIdentity (Dict.get first "deviceNum") ≠ deviceIdentity (Dict.get second "deviceNum"))

section Theorems

variable {owner : Option String} {vendor : Nat → Json} {devices : Devices} {last : Nat}

theorem collected_none : Collected (fun _ => False) [] := by
  refine ⟨fun mac => ?_, ?_, List.nodup_nil⟩
  · simp
  · rintro mac known device member
    cases member

theorem Collected.agree {seen : Dict → Prop} (collected : Collected seen devices) {mac : String}
    {first second : Dict} (one : seen first) (two : seen second)
    (firstMac : deviceMac (Dict.get first "deviceNum") = .ok mac)
    (secondMac : deviceMac (Dict.get second "deviceNum") = .ok mac) : SameDevice first second := by
  obtain ⟨known, member⟩ := (collected.keys mac).mpr ⟨first, one, firstMac⟩
  exact (collected.same member one firstMac).symm.trans (collected.same member two secondMac)

/-- Well formed pages do not go beyond the limit. -/
theorem LastPage.within (lastPage : LastPage vendor 1 last)
    (fits : ∀ page, 1 ≤ page → page ≤ last → WellFormedPage owner (vendor page)) : last < 1 + maxPages := by
  rcases Nat.lt_or_eq_of_le lastPage.reached with later | rfl
  · obtain ⟨total, counted, more⟩ := lastPage.goes (last - 1) (by omega) (by omega)
    obtain ⟨entries, rows, total', page, -, counted', -, high, -⟩ := fits (last - 1) (by omega) (by omega)
    rw [page, pageTotal, counted'] at counted
    cases counted
    omega
  · decide

theorem gather_contradictory (lastPage : LastPage vendor 1 last)
    (fits : ∀ page, 1 ≤ page → page ≤ last → WellFormedPage owner (vendor page))
    (contradictory : Contradictory owner vendor last) :
    (gather owner vendor maxPages 1 []).2 = .error conflict := by
  rcases gather_wellFormed collected_none lastPage (lastPage.within fits) fits with ⟨result, returned⟩ | found
  · obtain ⟨-, -, collected⟩ := gather_ok collected_none returned
    obtain ⟨first, second, mac, one, two, firstMac, secondMac, differ⟩ := contradictory
    obtain ⟨id, number, firstId, secondId, firstNumber, secondNumber⟩ :=
      collected.agree (.inr one) (.inr two) firstMac secondMac
    rcases differ with differ | differ
    · exact absurd (firstId.trans secondId.symm) differ
    · exact absurd (firstNumber.trans secondNumber.symm) differ
  · exact found

/-- Whatever the vendor sends for each page, the pages are asked for one after the other
and end within the limit; a returned list is complete and free of conflicts, and a conflict
between any two rows is found. -/
theorem device_listing (library : Library) (account : Account) (task : Nat) (owner : Option String)
    (vendor : Nat → Json) {state final : Client} {trace : List (Exchange clientFace)}
    {result : Except Problem Devices}
    (converses : Converses (Call.fetchPages library account task maxPages 1 []) state trace result final)
    (owners : ∀ entry ∈ trace.filterMap listedPage, entry.1 = owner)
    (behaves : ∀ entry ∈ trace.filterMap (sentPage library.loads), entry.2 = vendor entry.1) :
    (∃ reach, reach ≤ maxPages ∧ Requested 1 reach trace) ∧
      (∀ behind, Call.fetchPages library account task maxPages 1 [] =
        pagesBefore library account task behind maxPages 1 []) ∧
      (∀ devices, result = .ok devices → ∃ last, last ≤ maxPages ∧
        CompleteListing library.loads owner vendor trace devices last) ∧
      ∀ last, LastPage vendor 1 last →
        (∀ page, 1 ≤ page → page ≤ last → WellFormedPage owner (vendor page)) →
          Contradictory owner vendor last → Taken trace → result = .error (.error conflict) := by
  obtain ⟨count, reach, paged⟩ := fetchPages_paged (Nat.succ_pos 0) (Nat.add_comm 1 maxPages)
    (by decide) owners behaves converses
  refine ⟨⟨reach, paged.bounded, paged.requested⟩, fun behind => ?_, ?_, ?_⟩
  · rw [fetchPages_before]
    exact pagesBefore_unreached library account task _ _ [] (Nat.add_comm 1 maxPages) (by decide)
  · rintro devices rfl
    rcases paged.ended with ⟨⟨problem, failed⟩, -⟩ | ⟨-, number, stopped, outcome⟩
    · cases failed
    · have returned : gather owner vendor maxPages 1 [] = (reach, .ok devices) := by
        cases given : (gather owner vendor maxPages 1 []).2 with
        | error error =>
          rw [given] at outcome
          cases outcome
        | ok devices' =>
          rw [given] at outcome
          cases outcome
          exact Prod.ext stopped given
      obtain ⟨-, lastPage, collected⟩ := gather_ok collected_none returned
      have counted : count = reach := by omega
      refine ⟨reach, paged.bounded, lastPage, paged.requested, counted ▸ paged.sent, fun mac => ?_, ?_⟩
      · rw [List.mem_map]
        constructor
        · rintro ⟨⟨mac', known⟩, member, rfl⟩
          obtain ⟨device, impossible | row, named⟩ := (collected.keys mac').mp ⟨known, member⟩
          · exact impossible.elim
          · exact ⟨device, row, named⟩
        · rintro ⟨device, row, named⟩
          obtain ⟨known, member⟩ := (collected.keys mac).mpr ⟨device, .inr row, named⟩
          exact ⟨(mac, known), member, rfl⟩
      · intro mac first second one two firstMac secondMac
        exact collected.agree (.inr one) (.inr two) firstMac secondMac
  · intro last lastPage fits contradictory taken
    rcases paged.ended with ⟨-, untaken⟩ | ⟨-, -, -, outcome⟩
    · exact absurd taken untaken
    · rw [outcome, gather_contradictory lastPage fits contradictory]
      rfl

/-- A row of the list, and its text. -/
def sampleRow (number : String) (id owner : Int) : Dict :=
  [("deviceNum", .text number), ("id", .int id), ("userId", .int owner)]

def rowText (number id owner : String) : List UInt8 :=
  braced (encoded "\"deviceNum\": \"" ++ encoded number ++ encoded "\", \"id\": " ++ encoded id ++
    encoded ", \"userId\": " ++ encoded owner)

/-- Two pages: a device and one of another owner, and then a device with this number. -/
def samplePage (number : String) (page : Nat) : Json :=
  .dict [("list", .list (if page = 1 then
      [.dict (sampleRow "aabbccddee0f" 5 7), .dict (sampleRow "112233445566" 8 9)]
    else [.dict (sampleRow number 6 7)])), ("totalPage", .int 2)]

/-- The body with a page. -/
def pageBody (number : String) (page : Nat) : List UInt8 × Json :=
  let rows := if page = 1 then
      rowText "aabbccddee0f" "5" "7" ++ encoded ", " ++ rowText "112233445566" "8" "9"
    else rowText number "6" "7"
  acceptance (braced (encoded "\"list\": [" ++ rows ++ encoded "], \"totalPage\": 2")) (samplePage number page)

def sampleLibrary (number : String) : Library := exampleLibrary [pageBody number 1, pageBody number 2]

def sampleReply (number : String) (page : Nat) : Sigma ClientQuery.Answer :=
  ⟨.http .deviceList (some "t") (pagePayload page), HttpReply.answered 200 (some (pageBody number page).1)⟩

/-- The exchanges for a page. -/
def sampleTrace (number : String) (page : Nat) : List (Exchange clientFace) :=
  [.told (.captured 0), .told (.joined "t"), .told (.captured 0),
    .asked (.http .deviceList (some "t") (pagePayload page)), .answered (sampleReply number page),
    .told (.listed (some "7") (samplePage number page))]

def signedIn : Client := { clock := "", token := some "t", ownerId := some "7" }

def sampleTurns (number : String) (page : Nat) : List (Turn clientFace) :=
  [.grant (Client.putLoginLock ⟨none, [0]⟩ signedIn), .answer (sampleReply number page) signedIn]

def sampleExchanges (number : String) : List (Exchange clientFace) := sampleTrace number 1 ++ sampleTrace number 2

theorem sample_owners (number : String) :
    ∀ entry ∈ (sampleExchanges number).filterMap listedPage, entry.1 = some "7" := by
  intro entry member
  rcases List.mem_cons.mp member with rfl | member
  · rfl
  · cases List.mem_singleton.mp member
    rfl

theorem sample_behaves {number : String} (sent : (sampleExchanges number).filterMap
    (sentPage (sampleLibrary number).loads) = [(1, samplePage number 1), (2, samplePage number 2)]) :
    ∀ entry ∈ (sampleExchanges number).filterMap (sentPage (sampleLibrary number).loads),
      entry.2 = samplePage number entry.1 := by
  rw [sent]
  intro entry member
  rcases List.mem_cons.mp member with rfl | member
  · rfl
  · cases List.mem_singleton.mp member
    rfl

set_option maxRecDepth 8000 in
/-- Two pages without a conflict. -/
theorem sample_distinct : Converses (Call.fetchPages (sampleLibrary "ddeeff001122") ⟨"", ""⟩ 0 maxPages 1 [])
    signedIn (sampleExchanges "ddeeff001122")
    (.ok [("AABBCCDDEE0F", sampleRow "aabbccddee0f" 5 7), ("DDEEFF001122", sampleRow "ddeeff001122" 6 7)])
    signedIn := by
  apply @Converses.of_replay clientFace _ _ _ (sampleTurns "ddeeff001122" 1 ++ sampleTurns "ddeeff001122" 2)
  rfl

set_option maxRecDepth 8000 in
/-- The second page names the device of the first one with another id. -/
theorem sample_contradicts : ∃ result,
    Converses (Call.fetchPages (sampleLibrary "aabbccddee0f") ⟨"", ""⟩ 0 maxPages 1 []) signedIn
      (sampleExchanges "aabbccddee0f") result signedIn := by
  refine ⟨.error (.error conflict), ?_⟩
  apply @Converses.of_replay clientFace _ _ _ (sampleTurns "aabbccddee0f" 1 ++ sampleTurns "aabbccddee0f" 2)
  rfl

theorem sampleRow_fits {number : String} {id owner : Int}
    (named : ∃ full, deviceIdentity (.text number) = .ok full)
    (known : ∃ text, identifier (.int id) = .ok text) (owned : ∃ text, identifier (.int owner) = .ok text) :
    WellFormedRow (some "7") (.dict (sampleRow number id owner)) :=
  ⟨_, rfl, .inr owned, fun _ => ⟨named, known⟩⟩

theorem samplePage_fits (page : Nat) : WellFormedPage (some "7") (samplePage "aabbccddee0f" page) := by
  have named : deviceIdentity (.text "aabbccddee0f") = .ok "AABBCCDDEE0F" := rfl
  unfold samplePage
  split
  · refine ⟨_, _, 2, rfl, rfl, rfl, by decide, by decide, by decide, fun row member => ?_⟩
    rcases List.mem_cons.mp member with rfl | member
    · exact sampleRow_fits ⟨_, named⟩ ⟨"5", rfl⟩ ⟨"7", rfl⟩
    · cases List.mem_singleton.mp member
      exact sampleRow_fits ⟨"112233445566", rfl⟩ ⟨"8", rfl⟩ ⟨"9", rfl⟩
  · refine ⟨_, _, 2, rfl, rfl, rfl, by decide, by decide, by decide, fun row member => ?_⟩
    cases List.mem_singleton.mp member
    exact sampleRow_fits ⟨_, named⟩ ⟨"6", rfl⟩ ⟨"7", rfl⟩

theorem samplePage_last (number : String) : LastPage (samplePage number) 1 2 := by
  refine ⟨by decide, ⟨2, rfl, by decide⟩, fun earlier low high => ?_⟩
  exact ⟨2, rfl, by omega⟩

theorem samplePage_contradictory : Contradictory (some "7") (samplePage "aabbccddee0f") 2 := by
  refine ⟨sampleRow "aabbccddee0f" 5 7, sampleRow "aabbccddee0f" 6 7, "AABBCCDDEE0F",
    ⟨1, by decide, by decide, _, _, rfl, rfl, List.mem_cons_self .., .inr ⟨"7", rfl, rfl⟩⟩,
    ⟨2, by decide, by decide, _, _, rfl, rfl, List.mem_singleton_self _, .inr ⟨"7", rfl, rfl⟩⟩,
    rfl, rfl, .inl ?_⟩
  have first : identifier (.int 5) = .ok "5" := rfl
  have second : identifier (.int 6) = .ok "6" := rfl
  change identifier (.int 5) ≠ identifier (.int 6)
  rw [first, second]
  simp

set_option maxRecDepth 8000 in
theorem device_listing_example :
    (∃ last, last ≤ maxPages ∧ CompleteListing (sampleLibrary "ddeeff001122").loads (some "7")
      (samplePage "ddeeff001122") (sampleExchanges "ddeeff001122")
      [("AABBCCDDEE0F", sampleRow "aabbccddee0f" 5 7), ("DDEEFF001122", sampleRow "ddeeff001122" 6 7)] last) ∧
    ∃ result, Converses (Call.fetchPages (sampleLibrary "aabbccddee0f") ⟨"", ""⟩ 0 maxPages 1 []) signedIn
      (sampleExchanges "aabbccddee0f") result signedIn ∧ Taken (sampleExchanges "aabbccddee0f") ∧
        result = .error (.error conflict) := by
  refine ⟨(device_listing _ ⟨"", ""⟩ 0 (some "7") (samplePage "ddeeff001122") sample_distinct
    (sample_owners _) (sample_behaves rfl)).2.2.1 _ rfl, ?_⟩
  obtain ⟨result, converses⟩ := sample_contradicts
  have taken : Taken (sampleExchanges "aabbccddee0f") := ⟨(some "7", samplePage "aabbccddee0f" 2), rfl⟩
  exact ⟨result, converses, taken, (device_listing _ ⟨"", ""⟩ 0 (some "7") (samplePage "aabbccddee0f")
    converses (sample_owners _) (sample_behaves rfl)).2.2.2 2 (samplePage_last _)
      (fun page _ _ => samplePage_fits page) samplePage_contradictory taken⟩

end Theorems

end AlorairLite.Cloud
