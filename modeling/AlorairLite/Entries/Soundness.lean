import AlorairLite.Cloud.Evidence
import AlorairLite.Entries.Registry

/-! What the entries are worth in every order of the forms, the verifications and the removals:
each appliance has one entry, a local entry keeps no account, the account of a cloud entry was
accepted for its appliance, no two listeners share an address, and every entry can be set up. -/

namespace AlorairLite.Entries

open Async Cloud

section Addresses

theorem splitDots_plain {chars : List Char} (plain : '.' ∉ chars) : splitDots chars = [chars] := by
  induction chars with
  | nil => rfl
  | cons char rest ih =>
    obtain ⟨other, later⟩ := not_or.mp (mt List.mem_cons.mpr plain)
    rw [splitDots, if_neg (Ne.symm other), ih later]

theorem splitDots_append {chars : List Char} (plain : '.' ∉ chars) (rest : List Char) :
    splitDots (chars ++ '.' :: rest) = chars :: splitDots rest := by
  induction chars with
  | nil => rfl
  | cons char later ih =>
    obtain ⟨other, plain⟩ := not_or.mp (mt List.mem_cons.mpr plain)
    rw [List.cons_append, splitDots, if_neg (Ne.symm other), ih plain]

theorem octet_digits (value : Fin 256) :
    octet (Address.digits value) = some value ∧ '.' ∉ Address.digits value := by
  revert value
  decide +kernel

theorem Address.parse_text (address : Address) : Address.parse address.text = some address := by
  have plain := fun value => (octet_digits value).2
  have read := fun value => (octet_digits value).1
  unfold Address.parse Address.text
  rw [String.toList_ofList, splitDots_append (plain _), splitDots_append (plain _),
    splitDots_append (plain _), splitDots_plain (plain _)]
  simp [read]

end Addresses

theorem normalizeMac_isMac {text mac : String} (valid : normalizeMac text = some mac) : IsMac mac := by
  unfold normalizeMac at valid
  cases digits : Cloud.normalizeMac (.text text) with
  | error => rw [digits] at valid; cases valid
  | ok value =>
    rw [digits] at valid
    cases valid
    exact Cloud.normalizeMac_digits digits

theorem IsMac.upper {mac : String} (valid : IsMac mac) :
    mac.toList.length = 12 ∧ mac.toList.all isHex ∧ Cloud.upper mac.toList = mac := by
  obtain ⟨chars, size, hex, rfl⟩ := valid
  have each : ∀ char ∈ chars, isHex char.toUpper ∧ char.toUpper.toUpper = char.toUpper :=
    fun char member => isHex_toUpper (List.all_eq_true.mp hex char member)
  have plain : (Cloud.upper chars).toList = chars.map Char.toUpper := String.toList_ofList
  refine ⟨by rw [plain, List.length_map, size], ?_, ?_⟩
  · rw [plain, List.all_map]
    exact List.all_eq_true.mpr fun char member => (each char member).1
  · rw [plain]
    unfold Cloud.upper
    rw [List.map_map]
    exact congrArg String.ofList (List.map_congr_left fun char member => (each char member).2)

/-- What `Config` was given is found again from the texts it stored. -/
theorem Config.make?_text (config : Config) :
    Config.make? config.listenHost.text config.listenPort config.allowedClient.text config.mac = some config := by
  obtain ⟨size, hex, same⟩ := config.macValid.upper
  unfold Config.make?
  rw [Address.parse_text, Address.parse_text]
  dsimp only
  rw [dif_pos ⟨config.hostConcrete, config.clientConcrete, config.portRange, size, hex⟩]
  exact congrArg some (Config.ext rfl rfl rfl same)

theorem Config.make?_mac {host client mac : String} {port : Int} {config : Config} (valid : IsMac mac)
    (made : Config.make? host port client mac = some config) : config.mac = mac ∧ config.listenPort = port := by
  unfold Config.make? at made
  split at made
  · split at made
    · cases made
      exact ⟨valid.upper.2.2, rfl⟩
    · cases made
  · cases made

/-- An entry as the flows leave it: a listener, or an account that the vendor accepted. -/
inductive Origin (log : List Record) (uniqueId : String) : EntryData → Prop where
  | listener (config : Config) (same : config.mac = uniqueId) : Origin log uniqueId (.listener config uniqueId)
  | account (input : CredentialsInput) (usable : usableAccount (stripped input.username))
      (accepted : .accepted (.account input uniqueId) ∈ log) : Origin log uniqueId (.account input uniqueId)

/-- Two local entries of different appliances listen at different addresses. -/
def Apart (data other : EntryData) : Prop :=
  data.isLocal → other.isLocal → data.mac ≠ other.mac → data.listenHost = other.listenHost →
    data.listenPort ≠ other.listenPort

structure Proper (log : List Record) (entry : Entry) : Prop where
  mac : IsMac entry.uniqueId
  origin : Origin log entry.uniqueId entry.data
  interval : ∀ seconds, entry.options.pollInterval = some seconds → 15 ≤ seconds ∧ seconds ≤ 300

structure Sound (registry : Registry) : Prop where
  ids : (registry.entries.map (·.id)).Nodup
  issued : ∀ entry ∈ registry.entries, entry.id < registry.issued
  macs : (registry.entries.map (·.uniqueId)).Nodup
  proper : ∀ entry ∈ registry.entries, Proper registry.log entry
  apart : ∀ entry ∈ registry.entries, ∀ other ∈ registry.entries, Apart entry.data other.data
  attempts : ∀ attempt ∈ registry.attempts, ∃ input mac, IsMac mac ∧
    usableAccount (stripped input.username) ∧ attempt.data = .account input mac

section Data

variable {log later : List Record} {data other : EntryData} {entry : Entry} {own : String}

theorem Origin.mac (origin : Origin log own data) : data.mac = own := by
  cases origin <;> rfl

theorem Origin.weaken (origin : Origin log own data) (kept : ∀ event ∈ log, event ∈ later) :
    Origin later own data := by
  cases origin with
  | listener config same => exact .listener config same
  | account input usable accepted => exact .account input usable (kept _ accepted)

theorem Proper.weaken (proper : Proper log entry) (kept : ∀ event ∈ log, event ∈ later) : Proper later entry :=
  ⟨proper.mac, proper.origin.weaken kept, proper.interval⟩

theorem Apart.symm (apart : Apart data other) : Apart other data :=
  fun first second different host port =>
    apart second first (Ne.symm different) host.symm port.symm

theorem Apart.account {input : CredentialsInput} : Apart data (.account input own) :=
  fun _ impossible => by cases of_decide_eq_true impossible

theorem Apart.refl : Apart data data := fun _ _ different => (different rfl).elim

/-- The check of the listener form finds what a shared address would be. -/
theorem Apart.of_conflicts (none : data.conflicts other = false) : Apart data other := by
  intro listens _ different host port
  simp [EntryData.conflicts, listens, host, port, different] at none

theorem Entry.kept_interval (proper : Proper log entry) (seconds : Int)
    (chosen : (entry.kept data).pollInterval = some seconds) : 15 ≤ seconds ∧ seconds ≤ 300 := by
  unfold Entry.kept at chosen
  split at chosen
  · cases chosen
  · cases known : entry.options.pollInterval with
    | none =>
      rw [known] at chosen
      cases chosen
      decide
    | some before =>
      rw [known] at chosen
      cases chosen
      exact proper.interval _ known

end Data

section Operations

variable {registry : Registry} {entry : Entry} {data : EntryData}

theorem Registry.find?_some {id : Nat} (found : registry.find? id = some entry) :
    entry ∈ registry.entries ∧ entry.id = id := by
  unfold find? at found
  exact ⟨List.mem_of_find?_eq_some found, by simpa using List.find?_some found⟩

theorem Sound.same {other : Entry} (sound : Sound registry) (member : entry ∈ registry.entries)
    (another : other ∈ registry.entries) (same : entry.id = other.id) : entry = other :=
  List.inj_on_of_nodup_map sound.ids member another same

theorem Sound.note (sound : Sound registry) (event : Record) : Sound (registry.note event) :=
  { sound with
    proper := fun entry member => (sound.proper entry member).weaken fun _ => List.mem_append_left _ }

theorem Sound.tell (sound : Sound registry) (result : FlowResult) : Sound (registry.tell result) :=
  sound.note _

theorem Sound.dropped (sound : Sound registry) (keeps : Attempt → Bool) :
    Sound { registry with attempts := registry.attempts.filter keeps } :=
  { sound with attempts := fun attempt member => sound.attempts attempt (List.mem_of_mem_filter member) }

theorem Sound.create (sound : Sound registry) (valid : IsMac data.mac) (origin : Origin registry.log data.mac data)
    (fresh : ∀ entry ∈ registry.entries, entry.uniqueId ≠ data.mac)
    (apart : ∀ entry ∈ registry.entries, Apart entry.data data) : Sound (registry.create data) := by
  have within : ∀ event ∈ registry.log, event ∈ (registry.create data).log :=
    fun event member => List.mem_append_left _ member
  have cases' : ∀ entry ∈ (registry.create data).entries, entry ∈ registry.entries ∨
      entry = { id := registry.issued, uniqueId := data.mac, data := data } := by
    intro entry member
    simpa [Registry.create] using member
  refine ⟨?_, ?_, ?_, ?_, ?_, sound.attempts⟩
  · show (List.map _ (_ ++ _)).Nodup
    rw [List.map_append, List.nodup_append]
    refine ⟨sound.ids, by simp, ?_⟩
    intro id member other last same
    obtain ⟨entry, present, rfl⟩ := List.mem_map.mp member
    cases List.mem_singleton.mp last
    exact Nat.ne_of_lt (sound.issued entry present) same
  · intro entry member
    rcases cases' entry member with before | rfl
    · exact Nat.lt_succ_of_lt (sound.issued entry before)
    · exact Nat.lt_succ_self _
  · show (List.map _ (_ ++ _)).Nodup
    rw [List.map_append, List.nodup_append]
    refine ⟨sound.macs, by simp, ?_⟩
    intro id member other last same
    obtain ⟨entry, present, rfl⟩ := List.mem_map.mp member
    cases List.mem_singleton.mp last
    exact fresh entry present same
  · intro entry member
    rcases cases' entry member with before | rfl
    · exact (sound.proper entry before).weaken within
    · exact ⟨valid, origin.weaken within, fun _ impossible => by cases impossible⟩
  · intro entry member other another
    rcases cases' entry member with before | rfl <;> rcases cases' other another with before' | rfl
    · exact sound.apart entry before other before'
    · exact apart entry before
    · exact (apart other before').symm
    · exact .refl

theorem mem_replace {other : Entry} {event : Record}
    (member : other ∈ (registry.replace entry event).entries) :
    other ∈ registry.entries ∧ other.id ≠ entry.id ∨ other = entry := by
  obtain ⟨before, present, rfl⟩ := List.mem_map.mp member
  split
  · exact .inr rfl
  · rename_i different
    exact .inl ⟨present, different⟩

/-- An entry is replaced by one of the same appliance. -/
theorem Sound.replace {old : Entry} {event : Record} (sound : Sound registry) (member : old ∈ registry.entries)
    (same : entry.id = old.id) (own : entry.uniqueId = old.uniqueId)
    (proper : Proper registry.log entry)
    (apart : ∀ other ∈ registry.entries, other.id ≠ entry.id → Apart other.data entry.data) :
    Sound (registry.replace entry event) := by
  have within : ∀ event' ∈ registry.log, event' ∈ (registry.replace entry event).log :=
    fun event' present => List.mem_append_left _ present
  have ids : (registry.replace entry event).entries.map (·.id) = registry.entries.map (·.id) := by
    refine (List.map_map ..).trans (List.map_congr_left fun other present => ?_)
    by_cases chosen : other.id = entry.id
    · simp [chosen]
    · simp [chosen]
  have macs : (registry.replace entry event).entries.map (·.uniqueId) = registry.entries.map (·.uniqueId) := by
    refine (List.map_map ..).trans (List.map_congr_left fun other present => ?_)
    by_cases chosen : other.id = entry.id
    · cases sound.same present member (chosen.trans same)
      simp [chosen, own]
    · simp [chosen]
  refine ⟨ids.symm ▸ sound.ids, ?_, macs.symm ▸ sound.macs, ?_, ?_, sound.attempts⟩
  · intro other present
    rcases mem_replace present with ⟨before, -⟩ | rfl
    · exact sound.issued other before
    · exact same.symm ▸ sound.issued old member
  · intro other present
    rcases mem_replace present with ⟨before, -⟩ | rfl
    · exact (sound.proper other before).weaken within
    · exact proper.weaken within
  · intro other present another present'
    rcases mem_replace present with ⟨before, different⟩ | rfl <;>
      rcases mem_replace present' with ⟨before', different'⟩ | rfl
    · exact sound.apart other before another before'
    · exact apart other before different
    · exact (apart another before' different').symm
    · exact .refl

theorem Sound.update (sound : Sound registry) (member : entry ∈ registry.entries)
    (origin : Origin registry.log entry.uniqueId data)
    (apart : ∀ other ∈ registry.entries, other.id ≠ entry.id → Apart other.data data) :
    Sound (registry.update entry data) :=
  have proper := sound.proper entry member
  sound.replace member rfl rfl ⟨proper.mac, origin, Entry.kept_interval proper⟩ apart

theorem Sound.choose {options : EntryOptions} (sound : Sound registry) (member : entry ∈ registry.entries)
    (interval : ∀ seconds, options.pollInterval = some seconds → 15 ≤ seconds ∧ seconds ≤ 300) :
    Sound (registry.choose entry options) :=
  have proper := sound.proper entry member
  sound.replace member rfl rfl ⟨proper.mac, proper.origin, interval⟩
    fun other present _ => sound.apart other present entry member

theorem Sound.remove (sound : Sound registry) : Sound (registry.remove entry) := by
  have sublist : (registry.remove entry).entries.Sublist registry.entries := List.filter_sublist
  exact ⟨(sublist.map _).nodup sound.ids, fun other member => sound.issued other (sublist.subset member),
    (sublist.map _).nodup sound.macs,
    fun other member => (sound.proper other (sublist.subset member)).weaken fun _ => List.mem_append_left _,
    fun other member another member' => sound.apart other (sublist.subset member) another (sublist.subset member'),
    sound.attempts⟩

theorem Sound.finishEntry {target : Option Nat} (sound : Sound registry) (valid : IsMac data.mac)
    (origin : Origin registry.log data.mac data)
    (apart : ∀ entry ∈ registry.entries, some entry.id ≠ target → Apart entry.data data) :
    Sound (registry.finishEntry target data) := by
  unfold Registry.finishEntry
  cases target with
  | none =>
    dsimp only
    split
    · exact sound.tell _
    · rename_i fresh
      refine sound.create valid origin ?_ fun entry member => apart entry member nofun
      intro entry member same
      exact fresh (List.any_eq_true.mpr ⟨entry, member, decide_eq_true same⟩)
  | some id =>
    dsimp only
    cases found : registry.find? id with
    | none => exact sound.tell _
    | some entry =>
      dsimp only
      obtain ⟨member, rfl⟩ := Registry.find?_some found
      split
      · rename_i same
        exact sound.update member (same ▸ origin)
          fun other present different => apart other present fun equal => different (Option.some.inj equal)
      · exact sound.tell _

end Operations

section Steps

variable {registry : Registry}

theorem Sound.credentials {target : Option Nat} {owned : Option String} {input : CredentialsInput}
    (sound : Sound registry) : Sound (registry.credentials target owned input) := by
  unfold Registry.credentials
  split
  · exact sound.tell _
  · cases normalized : normalizeMac (owned.getD input.mac) with
    | none => exact sound.tell _
    | some mac =>
      dsimp only
      split
      · rename_i usable
        refine { sound with attempts := fun attempt member => ?_ }
        rcases List.mem_cons.mp member with rfl | before
        · exact ⟨input, mac, normalizeMac_isMac normalized, usable, rfl⟩
        · exact sound.attempts attempt before
      · exact sound.tell _

theorem Sound.verdict {attempt : Attempt} {failure : Option ErrorClass} (sound : Sound registry)
    (member : attempt ∈ registry.attempts) : Sound (registry.verdict attempt failure) := by
  have rest := sound.dropped (·.number ≠ attempt.number)
  unfold Registry.verdict
  cases failure with
  | some kind => exact rest.tell _
  | none =>
    obtain ⟨input, mac, valid, usable, same⟩ := sound.attempts attempt member
    rw [same]
    exact (rest.note _).finishEntry valid 
      (.account input usable (List.mem_append_right _ (List.mem_singleton_self _)))
      fun entry _ _ => .account

theorem Sound.listener {target : Option Nat} {owned : Option String} {input : ListenerInput}
    (sound : Sound registry) : Sound (registry.listener target owned input) := by
  unfold Registry.listener
  cases normalized : normalizeMac (owned.getD input.mac) with
  | none => exact sound.tell _
  | some mac =>
    dsimp only
    cases made : Config.make? input.listenHost input.listenPort input.deviceHost mac with
    | none => exact sound.tell _
    | some config =>
      dsimp only
      have valid := normalizeMac_isMac normalized
      split
      · exact sound.tell _
      · rename_i alone
        refine sound.finishEntry valid (.listener config (Config.make?_mac valid made).1) ?_
        intro entry member another
        refine .of_conflicts (Bool.eq_false_iff.mpr fun conflict => alone ?_)
        exact List.any_eq_true.mpr ⟨entry, member, by simp [another, conflict]⟩

theorem Sound.options {entry : Entry} {input : OptionsInput} (sound : Sound registry)
    (member : entry ∈ registry.entries) : Sound (registry.options entry input) := by
  cases input with
  | init pollInterval experimental range =>
    unfold Registry.options
    dsimp only
    split
    · exact sound.tell _
    · refine sound.choose member fun seconds chosen => ?_
      cases chosen
      exact range
  | locally localPower => exact sound.choose member fun seconds impossible => by cases impossible

theorem Sound.step {after : Registry} {label : Label} (sound : Sound registry)
    (taken : registry.step label = some after) : Sound after := by
  cases label with
  | credentials target input =>
    obtain ⟨_, -, rfl⟩ := Option.map_eq_some_iff.mp taken
    exact sound.credentials
  | verdict number failure =>
    obtain ⟨attempt, found, rfl⟩ := Option.map_eq_some_iff.mp taken
    exact sound.verdict (List.mem_of_find?_eq_some found)
  | close number =>
    cases Option.some.inj taken
    exact sound.dropped _
  | listener target input =>
    obtain ⟨_, -, rfl⟩ := Option.map_eq_some_iff.mp taken
    exact sound.listener
  | options id input =>
    obtain ⟨entry, found, rfl⟩ := Option.map_eq_some_iff.mp taken
    exact sound.options (Registry.find?_some found).1
  | remove id =>
    obtain ⟨entry, -, rfl⟩ := Option.map_eq_some_iff.mp taken
    exact sound.remove

theorem Sound.of_run {meets : Registry → Label → Prop} (run : Run Entries.registry meets registry) :
    Sound registry := by
  refine run.invariant Sound ?_ fun _ _ _ _ sound _ taken => sound.step taken
  intro state initial
  cases initial
  constructor <;> simp [Registry.empty]

end Steps

section Conclusions

variable {state : Registry} {entry other : Entry}

/-- One appliance, and no account without consent and without the vendor's word for it. -/
structure Guarded (log : List Record) (entry : Entry) : Prop where
  own : IsMac entry.uniqueId ∧ entry.data.mac = entry.uniqueId
  anonymous : entry.data.isLocal → entry.data.username = none ∧ entry.data.password = none
  consented : entry.data.isLocal = false → entry.data.allowInsecureHttp = some true ∧ .accepted entry.data ∈ log

theorem Proper.guarded {log : List Record} (proper : Proper log entry) : Guarded log entry := by
  obtain ⟨id, uniqueId, data, options⟩ := entry
  obtain ⟨mac, origin, -⟩ := proper
  refine ⟨⟨mac, origin.mac⟩, ?_, ?_⟩ <;> dsimp only at origin ⊢
  · intro own
    cases origin with
    | listener config same => exact ⟨rfl, rfl⟩
    | account input usable accepted => cases of_decide_eq_true own
  · intro remote
    cases origin with
    | listener config same => cases of_decide_eq_false remote rfl
    | account input usable accepted => exact ⟨rfl, accepted⟩

/-- In every order of the forms and the vendor's answers, an appliance has at most one entry, and each
entry is guarded. -/
theorem entries_guarded (run : Reachable registry state) :
    (∀ entry ∈ state.entries, ∀ other ∈ state.entries, entry.uniqueId = other.uniqueId → entry = other) ∧
      ∀ entry ∈ state.entries, Guarded state.log entry := by
  have sound := Sound.of_run run
  exact ⟨fun entry member other another same => List.inj_on_of_nodup_map sound.macs member another same,
    fun entry member => (sound.proper entry member).guarded⟩

def exampleListener : ListenerInput :=
  ⟨"aa:bb:cc:dd:ee:0f", "192.168.1.10", "192.168.1.20", 6100, by decide⟩

def exampleCredentials : CredentialsInput := ⟨" user ", "secret", "aabbccddee0e", true⟩

/-- An account that is accepted, a listener, and the account moved to the local link. -/
def exampleForms : List Label :=
  [.credentials none exampleCredentials, .listener none exampleListener, .verdict 0 none,
    .listener (some 1) { exampleListener with listenPort := 6101, portRange := by decide }]

theorem entries_guarded_example : ∃ state, registry.follow .empty exampleForms = some state ∧
    state.entries.length = 2 ∧ ∀ entry ∈ state.entries, Guarded state.log entry := by
  have shown : ((registry.follow .empty exampleForms).map (·.entries.length)) = some 2 := by decide +kernel
  obtain ⟨state, followed, count⟩ := Option.map_eq_some_iff.mp shown
  have run : Reachable registry state := Run.follow (.start rfl) (fun _ _ => trivial) followed
  exact ⟨state, followed, count, (entries_guarded run).2⟩

/-- What an entry is set up as. -/
inductive SetUp (entry : Entry) : Setup → Prop where
  | locally (own : entry.data.isLocal) (config : Config) (same : config.mac = entry.uniqueId) :
    SetUp entry (.locally config)
  | cloud (username password : String) (remote : entry.data.isLocal = false) :
    SetUp entry (.cloud username password entry.uniqueId)

theorem setup_listener {config : Config} {id : Nat} {uniqueId : String} {options : EntryOptions}
    (same : config.mac = uniqueId) :
    Entry.setup ⟨id, uniqueId, .listener config uniqueId, options⟩ = .ok (.locally config) := by
  subst same
  have made := config.make?_text
  simp only [Entry.setup, EntryData.listener, Option.getD_some, made]

theorem Proper.setup {log : List Record} (proper : Proper log entry) :
    ∃ setup, entry.setup = .ok setup ∧ SetUp entry setup := by
  obtain ⟨id, uniqueId, data, options⟩ := entry
  obtain ⟨-, origin, -⟩ := proper
  dsimp only at origin
  cases origin with
  | listener config same => exact ⟨_, setup_listener same, .locally rfl config same⟩
  | account input usable accepted =>
    refine ⟨.cloud (stripped input.username) input.password uniqueId, ?_, .cloud _ _ rfl⟩
    simp [Entry.setup, EntryData.account, usable]

theorem Proper.listens {log : List Record} {config : Config} (proper : Proper log entry)
    (sets : entry.setup = .ok (.locally config)) : entry.data = .listener config entry.uniqueId := by
  obtain ⟨id, uniqueId, data, options⟩ := entry
  obtain ⟨-, origin, -⟩ := proper
  dsimp only at origin
  cases origin with
  | listener stored same =>
    rw [setup_listener same] at sets
    cases sets
    rfl
  | account input usable accepted => simp [Entry.setup, EntryData.account, usable] at sets

/-- In every order of the forms, each stored entry can be set up, as what it was configured to be, and two
entries never listen at the same address and port. -/
theorem entries_set_up (run : Reachable registry state) :
    (∀ entry ∈ state.entries, ∃ setup, entry.setup = .ok setup ∧ SetUp entry setup) ∧
      ∀ entry ∈ state.entries, ∀ other ∈ state.entries, ∀ config config' : Config,
        entry.setup = .ok (.locally config) → other.setup = .ok (.locally config') →
          config.listenHost = config'.listenHost → config.listenPort = config'.listenPort → entry = other := by
  have sound := Sound.of_run run
  refine ⟨fun entry member => (sound.proper entry member).setup, ?_⟩
  intro entry member other another config config' sets sets' host port
  have data := (sound.proper entry member).listens sets
  have data' := (sound.proper other another).listens sets'
  by_contra different
  have apart := sound.apart entry member other another
  rw [data, data'] at apart
  refine apart rfl rfl ?_ (congrArg (some <| Address.text ·) host) (congrArg some port)
  exact fun same => different (List.inj_on_of_nodup_map sound.macs member another same)

theorem entries_set_up_example : ∃ state, registry.follow .empty exampleForms = some state ∧
    state.entries.length = 2 ∧ ∀ entry ∈ state.entries, ∃ setup, entry.setup = .ok setup ∧ SetUp entry setup := by
  have shown : ((registry.follow .empty exampleForms).map (·.entries.length)) = some 2 := by decide +kernel
  obtain ⟨state, followed, count⟩ := Option.map_eq_some_iff.mp shown
  have run : Reachable registry state := Run.follow (.start rfl) (fun _ _ => trivial) followed
  exact ⟨state, followed, count, (entries_set_up run).1⟩

end Conclusions

end AlorairLite.Entries
