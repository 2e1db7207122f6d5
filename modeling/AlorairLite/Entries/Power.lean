import AlorairLite.Async.History
import AlorairLite.Entries.Soundness

/-! Starting the appliance over the local link is allowed by an option. The option of an entry that
is local is on exactly while its owner has allowed it, and has not left the local link since. -/

namespace AlorairLite.Entries

open Async Cloud

def Stores (id : Nat) (event : Record) : Prop := ∃ data, event = .stored id data

/-- The data that was stored last for an entry. -/
def Latest (id : Nat) (data : EntryData) (log : List Record) : Prop :=
  Since (fun _ event => event = .stored id data) (Stores id) log

/-- The owner allows local power in the options of an entry that is local. -/
def Allows (id : Nat) (past : List Record) (event : Record) : Prop :=
  event = .chosen id { localPower := some true } ∧ ∃ data, Latest id data past ∧ data.isLocal

/-- The entry becomes a cloud entry, or its options are saved without local power. -/
def Disallows (id : Nat) (event : Record) : Prop :=
  (∃ data, event = .stored id data ∧ data.isLocal = false) ∨
    ∃ options, event = .chosen id options ∧ options.localPower ≠ some true

def PowerAllowed (id : Nat) (log : List Record) : Prop := Since (Allows id) (Disallows id) log

/-- Events of other entries, and those that are only told or accepted. -/
def Foreign (id : Nat) (event : Record) : Prop :=
  (∀ data, event ≠ .stored id data) ∧ ∀ options, event ≠ .chosen id options

section Records

variable {id : Nat} {log events : List Record} {event : Record} {data before : EntryData} {options : EntryOptions}

theorem Foreign.latest (foreign : Foreign id event) : Latest id data (log ++ [event]) ↔ Latest id data log := by
  refine since_append_singleton.trans ⟨?_, fun held => .inr ⟨held, ?_⟩⟩
  · rintro (rfl | ⟨held, -⟩)
    · exact (foreign.1 _ rfl).elim
    · exact held
  · rintro ⟨other, rfl⟩
    exact foreign.1 other rfl

theorem Foreign.powerAllowed (foreign : Foreign id event) :
    PowerAllowed id (log ++ [event]) ↔ PowerAllowed id log := by
  refine since_append_singleton.trans ⟨?_, fun held => .inr ⟨held, ?_⟩⟩
  · rintro (⟨rfl, -⟩ | ⟨held, -⟩)
    · exact (foreign.2 _ rfl).elim
    · exact held
  · rintro (⟨other, rfl, -⟩ | ⟨other, rfl, -⟩)
    · exact foreign.1 other rfl
    · exact foreign.2 other rfl

theorem foreign_told {result : FlowResult} : Foreign id (.told result) :=
  ⟨fun _ => Record.noConfusion, fun _ => Record.noConfusion⟩

theorem Latest.stored : Latest id data (log ++ [.stored id data]) :=
  since_append_singleton.mpr (.inl rfl)

theorem Latest.chosen (latest : Latest id data log) : Latest id data (log ++ [.chosen id options]) := by
  refine since_append_singleton.mpr (.inr ⟨latest, ?_⟩)
  rintro ⟨other, impossible⟩
  cases impossible

theorem Latest.unique (latest : Latest id data log) (other : Latest id before log) : data = before := by
  obtain ⟨past, event, future, split, rfl, last⟩ := latest
  obtain ⟨past', event', future', split', rfl, last'⟩ := other
  rcases split_cases split split' with ⟨rfl, same⟩ | ⟨between, rfl⟩ | ⟨between, rfl⟩
  · cases same
    rfl
  · cases List.append_cancel_left ((split.symm.trans split').trans (List.append_assoc ..))
    exact (last (.stored id before) (by simp) ⟨before, rfl⟩).elim
  · cases List.append_cancel_left ((split'.symm.trans split).trans (List.append_assoc ..))
    exact (last' (.stored id data) (by simp) ⟨data, rfl⟩).elim

theorem powerAllowed_stored (own : data.isLocal) :
    PowerAllowed id (log ++ [.stored id data]) ↔ PowerAllowed id log := by
  refine since_append_singleton.trans ⟨?_, fun held => .inr ⟨held, ?_⟩⟩
  · rintro (⟨impossible, -⟩ | ⟨held, -⟩)
    · cases impossible
    · exact held
  · rintro (⟨other, same, remote⟩ | ⟨other, impossible, -⟩)
    · cases same
      exact Bool.false_ne_true (remote.symm.trans own)
    · cases impossible

theorem not_powerAllowed_stored (remote : data.isLocal = false) : ¬ PowerAllowed id (log ++ [.stored id data]) := by
  intro allowed
  rcases since_append_singleton.mp allowed with ⟨impossible, -⟩ | ⟨-, kept⟩
  · cases impossible
  · exact kept (.inl ⟨data, rfl, remote⟩)

theorem powerAllowed_chosen {localPower : Bool} (latest : Latest id data log) (own : data.isLocal) :
    PowerAllowed id (log ++ [.chosen id { localPower := some localPower }]) ↔ localPower = true := by
  refine since_append_singleton.trans ⟨?_, ?_⟩
  · rintro (⟨same, -⟩ | ⟨-, kept⟩)
    · cases same
      rfl
    · by_contra off
      exact kept (.inr ⟨_, rfl, fun on => off (Option.some.inj on)⟩)
  · rintro rfl
    exact .inl ⟨rfl, data, latest, own⟩

end Records

/-- The options of an entry beside the history. -/
structure Permitted (log : List Record) (entry : Entry) : Prop where
  latest : Latest entry.id entry.data log
  power : entry.data.isLocal → (entry.options.localPower = some true ↔ PowerAllowed entry.id log)
  remote : entry.data.isLocal = false → ¬ PowerAllowed entry.id log

section Operations

variable {registry : Registry} {entry other : Entry} {data : EntryData} {log : List Record} {event : Record}

theorem Permitted.foreign (permitted : Permitted log entry) (foreign : Foreign entry.id event) :
    Permitted (log ++ [event]) entry :=
  ⟨foreign.latest.mpr permitted.latest, fun own => (permitted.power own).trans foreign.powerAllowed.symm,
    fun remote allowed => permitted.remote remote (foreign.powerAllowed.mp allowed)⟩

structure Powered (registry : Registry) : Prop where
  fresh : ∀ id, registry.issued ≤ id → ∀ event ∈ registry.log, Foreign id event
  permitted : ∀ entry ∈ registry.entries, Permitted registry.log entry

theorem Powered.note (powered : Powered registry) (free : ∀ id, Foreign id event) :
    Powered (registry.note event) where
  fresh id bound other member := by
    rcases List.mem_append.mp member with before | last
    · exact powered.fresh id bound other before
    · cases List.mem_singleton.mp last
      exact free id
  permitted entry member := (powered.permitted entry member).foreign (free entry.id)

theorem Powered.tell (powered : Powered registry) (result : FlowResult) : Powered (registry.tell result) :=
  powered.note fun _ => foreign_told

theorem Powered.create (powered : Powered registry) (sound : Sound registry) :
    Powered (registry.create data) := by
  have unknown : ¬ PowerAllowed registry.issued registry.log := by
    rintro ⟨past, event, future, split, ⟨rfl, -⟩, -⟩
    have member : .chosen registry.issued { localPower := some true } ∈ registry.log := by simp [split]
    exact (powered.fresh registry.issued (Nat.le_refl _) _ member).2 _ rfl
  have shape : (registry.create data).log =
      (registry.log ++ [.stored registry.issued data]) ++ [.told (.created registry.issued)] := by
    simp [Registry.create]
  constructor
  · intro id bound event member
    rcases List.mem_append.mp member with before | added
    · exact powered.fresh id (Nat.le_of_succ_le bound) event before
    · rcases List.mem_pair.mp added with rfl | rfl
      · refine ⟨fun other same => ?_, fun _ => Record.noConfusion⟩
        cases same
        exact Nat.lt_irrefl _ bound
      · exact foreign_told
  · intro entry member
    rw [shape]
    refine Permitted.foreign ?_ foreign_told
    rcases List.mem_append.mp member with before | last
    · refine (powered.permitted entry before).foreign ⟨fun other same => ?_, fun _ => Record.noConfusion⟩
      exact Nat.ne_of_lt (sound.issued entry before) (Record.stored.inj same).1.symm
    · cases List.mem_singleton.mp last
      refine ⟨.stored, fun own => ⟨fun impossible => ?_, fun allowed => ?_⟩, fun remote => ?_⟩
      · cases impossible
      · exact (unknown ((powerAllowed_stored own).mp allowed)).elim
      · exact not_powerAllowed_stored remote

theorem Powered.replace (powered : Powered registry) (known : entry.id < registry.issued)
    (others : ∀ id, id ≠ entry.id → Foreign id event) (permitted : Permitted (registry.log ++ [event]) entry) :
    Powered (registry.replace entry event) := by
  have shape : (registry.replace entry event).log =
      (registry.log ++ [event]) ++ [.told (.saved entry.id)] := by simp [Registry.replace]
  constructor
  · intro id bound another member
    rcases List.mem_append.mp member with before | added
    · exact powered.fresh id bound another before
    · rcases List.mem_pair.mp added with rfl | rfl
      · exact others id fun same => Nat.lt_irrefl _ (Nat.lt_of_lt_of_le known (same ▸ bound))
      · exact foreign_told
  · intro another member
    rw [shape]
    refine Permitted.foreign ?_ foreign_told
    rcases mem_replace member with ⟨before, different⟩ | rfl
    · exact (powered.permitted another before).foreign (others another.id different)
    · exact permitted

theorem Powered.update (powered : Powered registry) (sound : Sound registry)
    (member : entry ∈ registry.entries) : Powered (registry.update entry data) := by
  have permitted := powered.permitted entry member
  refine powered.replace (sound.issued entry member) (fun id different => ⟨fun other same => ?_,
    fun _ => Record.noConfusion⟩) ⟨.stored, fun own => ?_, fun remote => not_powerAllowed_stored remote⟩
  · cases same
    exact different rfl
  · refine Iff.trans ?_ (powerAllowed_stored own).symm
    have chosen : (entry.kept data).localPower =
        some (entry.data.isLocal && entry.options.localPower.getD false) := by
      rw [Entry.kept, if_pos own]
    dsimp only
    rw [chosen]
    cases was : entry.data.isLocal with
    | false => simpa using permitted.remote was
    | true =>
      refine Iff.trans ?_ (permitted.power was)
      cases entry.options.localPower <;> simp

theorem Powered.choose {options : EntryOptions} (powered : Powered registry) (sound : Sound registry)
    (member : entry ∈ registry.entries)
    (local' : entry.data.isLocal → ∃ localPower, options = { localPower := some localPower }) :
    Powered (registry.choose entry options) := by
  have permitted := powered.permitted entry member
  refine powered.replace (sound.issued entry member) (fun id different => ⟨fun _ => Record.noConfusion,
    fun other same => ?_⟩) ⟨permitted.latest.chosen, fun own => ?_, fun remote allowed => ?_⟩
  · cases same
    exact different rfl
  · obtain ⟨localPower, rfl⟩ := local' own
    exact Iff.trans (by simp) (powerAllowed_chosen permitted.latest own).symm
  · rcases since_append_singleton.mp allowed with ⟨-, other, latest, own⟩ | ⟨before, -⟩
    · cases permitted.latest.unique latest
      exact Bool.false_ne_true (remote.symm.trans own)
    · exact permitted.remote remote before

theorem Powered.remove (powered : Powered registry) : Powered (registry.remove entry) := by
  have free : ∀ id, Foreign id (.removed entry.id) :=
    fun id => ⟨fun _ => Record.noConfusion, fun _ => Record.noConfusion⟩
  have noted := powered.note free
  exact ⟨noted.fresh, fun other member => noted.permitted other (List.mem_of_mem_filter member)⟩

theorem Powered.finishEntry {target : Option Nat} (powered : Powered registry) (sound : Sound registry) :
    Powered (registry.finishEntry target data) := by
  unfold Registry.finishEntry
  cases target with
  | none =>
    dsimp only
    split
    · exact powered.tell _
    · exact powered.create sound
  | some id =>
    dsimp only
    cases found : registry.find? id with
    | none => exact powered.tell _
    | some entry =>
      dsimp only
      split
      · exact powered.update sound (Registry.find?_some found).1
      · exact powered.tell _

end Operations

section Steps

variable {registry after : Registry} {entry : Entry}

theorem Powered.verdict {attempt : Attempt} {failure : Option ErrorClass} (powered : Powered registry)
    (sound : Sound registry) : Powered (registry.verdict attempt failure) := by
  have rest : Powered { registry with attempts := registry.attempts.filter (·.number ≠ attempt.number) } :=
    ⟨powered.fresh, powered.permitted⟩
  unfold Registry.verdict
  cases failure with
  | some kind => exact rest.tell _
  | none =>
    refine Powered.finishEntry (rest.note fun _ => ⟨fun _ => Record.noConfusion, fun _ => Record.noConfusion⟩) ?_
    exact (sound.dropped _).note _

theorem Powered.listener {target : Option Nat} {owned : Option String} {input : ListenerInput}
    (powered : Powered registry) (sound : Sound registry) : Powered (registry.listener target owned input) := by
  unfold Registry.listener
  cases normalizeMac (owned.getD input.mac) with
  | none => exact powered.tell _
  | some mac =>
    dsimp only
    cases Config.make? input.listenHost input.listenPort input.deviceHost mac with
    | none => exact powered.tell _
    | some config =>
      dsimp only
      split
      · exact powered.tell _
      · exact powered.finishEntry sound

theorem Powered.options {input : OptionsInput} (powered : Powered registry) (sound : Sound registry)
    (member : entry ∈ registry.entries) : Powered (registry.options entry input) := by
  cases input with
  | init pollInterval experimental range =>
    unfold Registry.options
    dsimp only
    split
    · exact powered.tell _
    · rename_i remote
      exact powered.choose sound member fun own => (remote own).elim
  | locally localPower => exact powered.choose sound member fun _ => ⟨localPower, rfl⟩

theorem Powered.credentials {target : Option Nat} {owned : Option String} {input : CredentialsInput}
    (powered : Powered registry) : Powered (registry.credentials target owned input) := by
  unfold Registry.credentials
  split
  · exact powered.tell _
  · cases normalizeMac (owned.getD input.mac) with
    | none => exact powered.tell _
    | some mac =>
      dsimp only
      split
      · exact ⟨powered.fresh, powered.permitted⟩
      · exact powered.tell _

theorem Powered.step {label : Label} (powered : Powered registry) (sound : Sound registry)
    (taken : registry.step label = some after) : Powered after := by
  cases label with
  | credentials target input =>
    obtain ⟨_, -, rfl⟩ := Option.map_eq_some_iff.mp taken
    exact powered.credentials
  | verdict number failure =>
    obtain ⟨attempt, -, rfl⟩ := Option.map_eq_some_iff.mp taken
    exact powered.verdict sound
  | close number =>
    cases Option.some.inj taken
    exact ⟨powered.fresh, powered.permitted⟩
  | listener target input =>
    obtain ⟨_, -, rfl⟩ := Option.map_eq_some_iff.mp taken
    exact powered.listener sound
  | options id input =>
    obtain ⟨entry, found, rfl⟩ := Option.map_eq_some_iff.mp taken
    exact powered.options sound (Registry.find?_some found).1
  | remove id =>
    obtain ⟨entry, -, rfl⟩ := Option.map_eq_some_iff.mp taken
    exact powered.remove

/-- In every order of the forms, the option of an entry over the local link allows power exactly if its
owner allowed it while the entry was local, and has neither withdrawn it nor left the local link since. -/
theorem local_power_chosen (run : Reachable Entries.registry registry) (member : entry ∈ registry.entries)
    (own : entry.data.isLocal) :
    entry.options.localPower = some true ↔ PowerAllowed entry.id registry.log := by
  have powered : Powered registry := by
    refine run.invariant Powered ?_ fun _ _ _ earlier powered _ taken => powered.step (Sound.of_run earlier) taken
    intro state initial
    cases initial
    constructor <;> simp [Registry.empty]
  exact (powered.permitted entry member).power own

/-- The owner allows local power on the second of two forms. -/
def exampleAllowing : List Label := [.listener none exampleListener, .options 0 (.locally true)]

theorem local_power_chosen_example : ∃ state entry, Entries.registry.follow .empty exampleAllowing = some state ∧
    entry ∈ state.entries ∧ PowerAllowed entry.id state.log := by
  have shown : ((Entries.registry.follow .empty exampleAllowing).bind fun state => state.entries.head?.map
      fun entry => entry.data.isLocal && entry.options.localPower = some true) = some true := by decide +kernel
  obtain ⟨state, followed, first⟩ := Option.bind_eq_some_iff.mp shown
  obtain ⟨entry, head, both⟩ := Option.map_eq_some_iff.mp first
  have run : Reachable Entries.registry state := Run.follow (.start rfl) (fun _ _ => trivial) followed
  have member := List.mem_of_head? head
  obtain ⟨own, on⟩ := (Bool.and_eq_true _ _).mp both
  exact ⟨state, entry, followed, member, (local_power_chosen run member own).mp (of_decide_eq_true on)⟩

end Steps

end AlorairLite.Entries
