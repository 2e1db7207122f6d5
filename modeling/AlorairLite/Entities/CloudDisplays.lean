import AlorairLite.Cloud.Layered
import AlorairLite.Cloud.Polls
import AlorairLite.Cloud.Privacy
import AlorairLite.Entities.Displays

/-! What the properties of the entities say of the appliance over the cloud connection, at the instant they
are read: the data that a status call of the client returned to the latest successful poll, while its sample
is fresh. -/

namespace AlorairLite.Entities

open Async Cloud

/-- What a property of an entity says over the cloud connection. -/
inductive CloudReading where
  | on (on : Bool)
  | number (value : ℚ)
  | text (value : String)
  | time (instant : ℚ)
deriving DecidableEq

/-- `value == "01" if value in {"00", "01"} else None`. -/
def flagOf (data : Dict) (key : String) : Option Bool :=
  match code data key with
  | some "00" => some false
  | some "01" => some true
  | _ => none

/-- `current_option` of a select. -/
def UnitSelect.current (unit : UnitSelect) (data : Dict) : Option String :=
  (number data unit.key 0 1).bind fun value =>
    if value = 0 ∨ value = 1 then unit.options[value.floor.toNat]? else none

/-- The key of a measurement. -/
def Measurement.key : Measurement → String
  | .inHumidity => "inHumidity"
  | .outHumidity => "outHumidity"
  | .inCelsius => "inCelsius"
  | .outCelsius => "outCelsius"
  | .inGkg => "inGkg"
  | .outGkg => "outGkg"
  | .inGrlb => "inGrlb"
  | .outGrlb => "outGrlb"

/-- `", ".join(value) if value else "None"`. -/
def faultText (labels : List String) : String := if labels = [] then "None" else ", ".intercalate labels

/-- The properties that say something of the appliance over the cloud connection. -/
inductive CloudDisplay where
  | humidifierOn
  | targetHumidity
  | mode
  | currentHumidity
  | power
  | locator
  | select (unit : UnitSelect)
  | measurement (measurement : Measurement)
  | workingTime
  | coil
  | faultCodes
  | sampleTime
  | draining
  | defrosting
  | problem
  | fresh

/-- The property of the entity, as far as it reads the data. -/
def CloudDisplay.read (data : Dict) : CloudDisplay → Option CloudReading
  | .humidifierOn | .power => (powered data).map .on
  | .targetHumidity => (number data "currentHumidity" 25 80).map fun value => .number value.floor
  | .mode => (Entities.mode data).map .text
  | .currentHumidity => (number data "inHumidity" 0 100).map .number
  | .locator => (flagOf data "locateFunction").map .on
  | .select unit => (unit.current data).map .text
  | .measurement m => (number data m.key m.bounds.1 m.bounds.2).map .number
  | .workingTime => (number data "singleWorktime" 0 10000000).map .number
  | .coil => (number data "coilTemperature" (-100) 250).map .number
  | .faultCodes => (faults data).map fun labels => .text (faultText labels)
  | .sampleTime => (utcSample data).map .time
  | .draining => (flagOf data "drainStatus").map .on
  | .defrosting => (flagOf data "defrostingStatus").map .on
  | .problem => (faults data).map fun labels => .on (labels ≠ [])
  | .fresh => none

/-- `available` of the entity. -/
def CloudDisplay.available (s : Coordinator) : CloudDisplay → Bool
  | .sampleTime | .fresh => s.lastUpdateSuccess
  | _ => s.lastUpdateSuccess && !s.statusStale

/-- The property of the entity. -/
def CloudDisplay.value (s : Coordinator) (display : CloudDisplay) : Option CloudReading :=
  match display with
  | .fresh => some (.on !s.statusStale)
  | .power => if s.statusStale then none else s.data.bind display.read
  | _ => s.data.bind display.read

/-- The sample of the data was taken at most five minutes ago, and not more than one ahead. -/
def Recent (data : Dict) (wall : ℚ) : Prop :=
  ∃ sampled, utcSample data = some sampled ∧ -60 ≤ wall - sampled ∧ wall - sampled ≤ 300

/-- What a display tells of the data that has this source. -/
def CloudDisplay.Tells (source : Dict → Prop) (wall : ℚ) (reading : CloudReading) : CloudDisplay → Prop
  | .fresh => (reading = .on true ∧ ∃ data, source data ∧ Recent data wall) ∨
    (reading = .on false ∧ ∀ data, source data → ¬ Recent data wall)
  | .sampleTime => ∃ data, source data ∧ CloudDisplay.sampleTime.read data = some reading
  | display => ∃ data, source data ∧ Recent data wall ∧ display.read data = some reading

/-- The call of the client that returned this data, for the latest successful poll of the unit. -/
structure StatusCall (mac : String) (state : CloudSystem) (data : Dict) (call : Nat) : Prop where
  latest : latestPoll state.upper.scene.log = some data
  polled : ∃ task monotonic stopped, .told task (.polled data monotonic stopped) ∈ state.upper.scene.log ∧
    ⟨task, .status mac, call⟩ ∈ state.links
  started : .started call (.status mac) ∈ state.lower.scene.log
  returned : state.lower.result? call = some (.ok (.dict data))
  shown : ∀ entry ∈ data, PublicField entry

section Samples

variable {s : Coordinator} {display : CloudDisplay} {reading : CloudReading}

theorem present_bind (s : Coordinator) : s.present.bind utcSample = s.data.bind utcSample := by
  unfold Coordinator.present
  split
  · rename_i absent
    rw [absent]
  · rename_i empty
    rw [empty]
    rfl
  · rename_i filled
    rw [filled]

/-- The status is fresh if the data is. -/
theorem statusStale_iff : s.statusStale = false ↔ ∃ data, s.data = some data ∧ Recent data s.wall := by
  unfold Coordinator.statusStale
  rw [present_bind]
  constructor
  · intro fresh
    split at fresh
    · cases fresh
    · rename_i sampled found
      obtain ⟨data, held, sample⟩ := Option.bind_eq_some_iff.mp found
      rw [Bool.or_eq_false_iff, decide_eq_false_iff_not, decide_eq_false_iff_not] at fresh
      exact ⟨data, held, sampled, sample, not_lt.mp fresh.1, not_lt.mp fresh.2⟩
  · rintro ⟨data, held, sampled, sample, ahead, behind⟩
    rw [held, Option.bind_some, sample]
    simp [not_lt.mpr ahead, not_lt.mpr behind]

theorem CloudDisplay.available_success (available : display.available s) : s.lastUpdateSuccess := by
  unfold CloudDisplay.available at available
  split at available
  · exact available
  · exact available
  · exact (Bool.and_eq_true _ _ ▸ available).1

/-- A display that is there only while the status is fresh is read from fresh data. -/
theorem CloudDisplay.value_recent (available : (s.lastUpdateSuccess && !s.statusStale) = true)
    (read : s.data.bind display.read = some reading) :
    ∃ data, s.data = some data ∧ Recent data s.wall ∧ display.read data = some reading := by
  rw [Bool.and_eq_true, Bool.not_eq_true'] at available
  obtain ⟨data, held, recent⟩ := statusStale_iff.mp available.2
  rw [held, Option.bind_some] at read
  exact ⟨data, held, recent, read⟩

/-- Whatever is read, the data of the coordinator says it, wherever that data comes from. -/
theorem CloudDisplay.tells {source : Dict → Prop} (sourced : ∀ data, s.data = some data ↔ source data)
    (available : display.available s) (value : display.value s = some reading) :
    display.Tells source s.wall reading := by
  cases display with
  | fresh =>
    cases fresh : s.statusStale with
    | false =>
      obtain ⟨data, held, recent⟩ := statusStale_iff.mp fresh
      rw [CloudDisplay.value, fresh] at value
      exact .inl ⟨(Option.some.inj value).symm, data, (sourced data).mp held, recent⟩
    | true =>
      rw [CloudDisplay.value, fresh] at value
      refine .inr ⟨(Option.some.inj value).symm, fun data from_ recent => ?_⟩
      rw [statusStale_iff.mpr ⟨data, (sourced data).mpr from_, recent⟩] at fresh
      cases fresh
  | sampleTime =>
    obtain ⟨data, held, read⟩ := Option.bind_eq_some_iff.mp value
    exact ⟨data, (sourced data).mp held, read⟩
  | power =>
    simp only [CloudDisplay.value] at value
    split at value
    · cases value
    · obtain ⟨data, held, rest⟩ := CloudDisplay.value_recent available value
      exact ⟨data, (sourced data).mp held, rest⟩
  | _ =>
    obtain ⟨data, held, rest⟩ := CloudDisplay.value_recent available value
    exact ⟨data, (sourced data).mp held, rest⟩

end Samples

section Runs

variable {library : Library} {account : Account} {mac : String} {state : CloudSystem} {data : Dict}

/-- What the client returns for the status of a unit has only public fields. -/
theorem status_shown {machine : ClientMachine} {call : Nat} (run : Reachable (client library account) machine)
    (started : .started call (.status mac) ∈ machine.scene.log)
    (returned : machine.result? call = some (.ok (.dict data))) : ∀ entry ∈ data, PublicField entry := by
  obtain ⟨held, found, ended⟩ := Machine.result?_some returned
  obtain ⟨operation, start, final, begun, converses⟩ := run.converses found ended
  cases run.counted.unique started begun
  have shows : PublicResult (.status mac) (.dict data) := by
    refine converses.returns ?_
    exact Process.Returns.then Call.status_public fun shown all => .done (.status all)
  cases shows with
  | status all => exact all

/-- The coordinator's data is what a status call of its client returned to the latest successful poll. -/
theorem data_called (run : Reachable (cloud library account mac) state) (data : Dict) :
    state.upper.scene.shared.data = some data ↔ ∃ call, StatusCall mac state data call := by
  obtain ⟨upper, lower⟩ := Layer.reachable run
  constructor
  · intro held
    obtain ⟨latest, task, monotonic, stopped, told, delivered⟩ := (data_answered upper).mp held
    have linked : Linked integration state := .of_run coordinator_tasked client_tasked run
    obtain ⟨call, result, link, ended, outcome⟩ := linked.replied.delivered task _ delivered rfl
    obtain ⟨-, operation, serves, started⟩ := linked.linked _ link
    cases Option.some.inj serves
    have returned : result = .ok (.dict data) := by
      cases result with
      | ok value =>
        cases value with
        | dict shown =>
          cases outcome
          rfl
        | _ => cases outcome
      | error problem => cases problem <;> cases outcome
    subst returned
    exact ⟨call, latest, ⟨task, monotonic, stopped, told, link⟩, started, ended, status_shown lower started ended⟩
  · rintro ⟨call, called⟩
    exact (data_latest upper).trans called.latest

/-- Whenever the properties of an available entity are read, what they say of the appliance is said by public
data that the client returned for the unit to the latest successful poll, and its sample is fresh then
wherever its age is not what is read. -/
theorem cloud_display_fresh {display : CloudDisplay} {reading : CloudReading}
    (run : Reachable (cloud library account mac) state) (available : display.available state.upper.scene.shared)
    (value : display.value state.upper.scene.shared = some reading) :
    state.upper.scene.shared.lastUpdateSuccess ∧
      display.Tells (fun data => ∃ call, StatusCall mac state data call) state.upper.scene.shared.wall reading :=
  ⟨CloudDisplay.available_success available, CloudDisplay.tells (data_called run) available value⟩

theorem cloud_display_fresh_example : ∃ state,
    (cloud cellarVendor exampleAccount "aabbccddee0f").follow cellarStart cellarPoll = some state ∧
      CloudDisplay.power.available state.upper.scene.shared ∧
        CloudDisplay.power.value state.upper.scene.shared = some (.on true) ∧
        ∃ data, (∃ call, StatusCall "aabbccddee0f" state data call) ∧ Recent data state.upper.scene.shared.wall ∧
          CloudDisplay.power.read data = some (.on true) := by
  have shown : (((cloud cellarVendor exampleAccount "aabbccddee0f").follow cellarStart cellarPoll).map fun state =>
      CloudDisplay.power.available state.upper.scene.shared &&
        decide (CloudDisplay.power.value state.upper.scene.shared = some (.on true))) = some true := by
    decide +kernel
  obtain ⟨state, followed, both⟩ := Option.map_eq_some_iff.mp shown
  obtain ⟨available, value⟩ := (Bool.and_eq_true _ _).mp both
  have run : Reachable (cloud cellarVendor exampleAccount "aabbccddee0f") state :=
    cellarStart_run.follow (fun _ _ => trivial) followed
  exact ⟨state, followed, available, of_decide_eq_true value,
    (cloud_display_fresh run available (of_decide_eq_true value)).2⟩

end Runs

end AlorairLite.Entities
