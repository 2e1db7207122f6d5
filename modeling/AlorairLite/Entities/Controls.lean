import AlorairLite.Async.Front
import AlorairLite.Cloud.Client
import AlorairLite.Local.Loop

/-! The entities with controls (`humidifier.py`, `switch.py`, `button.py`, `select.py` on `entity.py`):
what a service call of an entity asks of the coordinator, over either connection. -/

namespace AlorairLite.Entities

open Cloud (Dict number)
open Local (Value)

/-- `LOCAL_SUPPORTED_ENTITIES`. -/
def localSupportedEntities : List String :=
  ["dehumidifier", "power", "drainStatus", "temperatureUnit", "fresh", "sample_time", "last_command",
    "inHumidity", "outHumidity", "inCelsius", "outCelsius", "inGkg", "outGkg", "inGrlb", "outGrlb"]

/-- `supported_by_connection` of the entity with this key. -/
def supportedByConnection (isLocal : Bool) (key : String) : Bool :=
  !isLocal || localSupportedEntities.contains key

def modeAuto : String := "auto"

def modeContinuous : String := "continuous"

/-- The arguments of `async_command`. -/
structure Command where
  method : String
  args : List Value
  key : String
  wanted : Value
  requiresOn : Bool := false
deriving DecidableEq

def onOff (on : Bool) : Value := .text (if on then "01" else "00")

def setPower (on : Bool) : Command := ⟨"async_set_power", [.bool on], "powerStatus", onOff on, false⟩

def setHumidity (humidity : Int) : Command :=
  ⟨"async_set_humidity", [.int humidity], "currentHumidity", .int humidity, true⟩

/-- What a service call asks of the coordinator. -/
inductive Ask where
  | command (command : Command)
  | refresh
deriving DecidableEq

/-- The two `AlorairUnit`s. -/
inductive UnitSelect where
  | temperature
  | moisture
deriving DecidableEq

def UnitSelect.key : UnitSelect → String
  | .temperature => "temperatureUnit"
  | .moisture => "humidityUnit"

def UnitSelect.options : UnitSelect → List String
  | .temperature => ["celsius", "fahrenheit"]
  | .moisture => ["grains_per_pound", "grams_per_kilogram"]

def UnitSelect.method : UnitSelect → String
  | .temperature => "async_set_temperature_unit"
  | .moisture => "async_set_moisture_unit"

/-- `f"{index:02d}"` of an index below 100. -/
def twoDigits (index : Nat) : String := if index < 10 then "0" ++ toString index else toString index

/-- `async_select_option` of a supported unit. -/
def UnitSelect.selectOption (unit : UnitSelect) (option : String) : Except String Ask :=
  match unit.options.findIdx? (· = option) with
  | some index => .ok (.command ⟨unit.method, [.text option], unit.key, .text (twoDigits index), false⟩)
  | none => .error "Unsupported display unit"

/-- A service call of an entity. -/
inductive Service where
  | humidifierTurn (on : Bool)
  | setHumidity (humidity : Value)
  | setMode (mode : String)
  | powerTurn (on : Bool)
  | locateTurn (on : Bool)
  | pressPurge
  | pressRefresh
  | selectOption (unit : UnitSelect) (option : String)
deriving DecidableEq

/-- `require_supported_connection` before what the entity asks. -/
def requireSupported (isLocal : Bool) (key : String) (rest : Except String Ask) : Except String Ask :=
  if supportedByConnection isLocal key then rest
  else .error "This feature is not supported by the local connection; use cloud mode"

/-- The key of the entity. -/
def Service.key : Service → String
  | .humidifierTurn _ | .setHumidity _ | .setMode _ => "dehumidifier"
  | .powerTurn _ => "power"
  | .locateTurn _ => "locate"
  | .pressPurge => "purge"
  | .pressRefresh => "refresh"
  | .selectOption unit _ => unit.key

/-- The service methods of the entities; an error is a `ServiceValidationError`. -/
def Service.perform (isLocal : Bool) (lastAutoHumidity : Int) : Service → Except String Ask
  | .humidifierTurn on | .powerTurn on => .ok (.command (Entities.setPower on))
  | .setHumidity (.int humidity) =>
    if 25 ≤ humidity ∧ humidity ≤ 80 ∧ humidity % 5 = 0 then .ok (.command (Entities.setHumidity humidity))
    else .error "Choose 25–80% in 5% steps; use continuous mode for CO"
  | .setHumidity _ => .error "Choose 25–80% in 5% steps; use continuous mode for CO"
  | .setMode mode =>
    if [modeAuto, modeContinuous].contains mode then
      .ok (.command (Entities.setHumidity (if mode = modeContinuous then 20 else lastAutoHumidity)))
    else .error "Choose auto or continuous"
  | .locateTurn on => requireSupported isLocal "locate"
    (.ok (.command ⟨"async_set_locate", [.bool on], "locateFunction", onOff on, on⟩))
  | .pressPurge => requireSupported isLocal "purge"
    (.ok (.command ⟨"async_purge", [], "drainStatus", .text "01", true⟩))
  | .pressRefresh => requireSupported isLocal "refresh" (.ok .refresh)
  | .selectOption unit option => requireSupported isLocal unit.key (unit.selectOption option)

/-- `int(value)` of a value with `value % 5 == 0`. -/
def inFives (value : ℚ) : Option Int := if (value / 5).den = 1 then some value.floor else none

/-- The target of the automatic mode in the attributes of a restored state. -/
def lastAutoHumidity (attributes : Dict) : Option Int :=
  (number attributes "last_auto_humidity" 25 80).bind inFives

/-- `mode` of the humidifier. -/
def mode (data : Dict) : Option String :=
  (number data "currentHumidity" 20 80).map fun value => if value = 20 then modeContinuous else modeAuto

/-- `async_added_to_hass` of the humidifier: the target that it leaves to the coordinator. -/
def addedToHass (isLocal : Bool) (mode : Option String) (previous : Option Dict) (current : Int) : Int :=
  let waitingForLocal := isLocal && mode.isNone
  if mode = some modeContinuous ∨ waitingForLocal then (previous.bind lastAutoHumidity).getD current
  else current

/-- An action in front of a coordinator. -/
inductive Action where
  | service (service : Service)
  /-- The humidifier is added, with the state that Home Assistant kept of it. -/
  | added (previous : Option Dict)

/-- A target of the automatic mode. -/
def Auto (humidity : Int) : Prop := 25 ≤ humidity ∧ humidity ≤ 80 ∧ humidity % 5 = 0

instance (humidity : Int) : Decidable (Auto humidity) :=
  inferInstanceAs (Decidable (25 ≤ humidity ∧ humidity ≤ 80 ∧ humidity % 5 = 0))

theorem humidityTarget_eq_some {value target : Int} :
    Local.humidityTarget value = some target ↔ value = target ∧ (target = 20 ∨ Auto target) := by
  have listed : value ∈ Local.humidityTargets ↔ value = 20 ∨ Auto value := by
    unfold Local.humidityTargets Auto
    rw [List.mem_cons, List.mem_map]
    constructor
    · rintro (rfl | ⟨step, known, rfl⟩)
      · exact .inl rfl
      · have bound : step < 12 := List.mem_range.mp known
        exact .inr ⟨by omega, by omega, by omega⟩
    · rintro (rfl | ⟨least, most, fives⟩)
      · exact .inl rfl
      · refine .inr ⟨((value - 25) / 5).toNat, List.mem_range.mpr ?_, ?_⟩
        · omega
        · omega
  rw [Local.humidityTarget]
  constructor
  · intro read
    split at read
    · rename_i member
      cases read
      exact ⟨rfl, listed.mp member⟩
    · cases read
  · rintro ⟨rfl, offered⟩
    exact if_pos (listed.mpr offered)

/-- The target before any report. -/
theorem auto_initial : Auto 50 := ⟨by decide, by decide, by decide⟩

section Targets

variable {data : Dict} {key : String} {low high value : ℚ} {humidity current : Int}

theorem number_bounds (read : number data key low high = some value) : low ≤ value ∧ value ≤ high := by
  unfold number at read
  split at read
  · cases read
  · cases read
  · split at read
    · cases read
    · split at read
      · rename_i within
        cases read
        exact within
      · cases read

theorem inFives_eq_some (read : inFives value = some humidity) : value = humidity ∧ humidity % 5 = 0 := by
  unfold inFives at read
  split at read
  · rename_i whole
    cases read
    obtain ⟨steps, same⟩ : ∃ steps : Int, value / 5 = steps := ⟨(value / 5).num, (Rat.coe_int_num_of_den_eq_one whole).symm⟩
    have fives : value = ((5 * steps : Int) : ℚ) := by
      push_cast
      linarith
    rw [fives, Rat.floor_intCast]
    exact ⟨rfl, by omega⟩
  · cases read

theorem auto_of_number (read : (number data key 25 80).bind inFives = some humidity) : Auto humidity := by
  obtain ⟨value, ranged, stepped⟩ := Option.bind_eq_some_iff.mp read
  obtain ⟨least, most⟩ := number_bounds ranged
  obtain ⟨rfl, fives⟩ := inFives_eq_some stepped
  exact ⟨by exact_mod_cast least, by exact_mod_cast most, fives⟩

theorem addedToHass_auto {isLocal : Bool} {mode : Option String} {previous : Option Dict} (auto : Auto current) :
    Auto (addedToHass isLocal mode previous current) := by
  simp only [addedToHass]
  split
  · cases read : previous.bind lastAutoHumidity with
    | none => exact auto
    | some humidity =>
      obtain ⟨attributes, -, read⟩ := Option.bind_eq_some_iff.mp read
      exact auto_of_number read
  · exact auto

end Targets

/-- The command behind a control. -/
def issued : Cloud.Control → Command
  | .power on => setPower on
  | .humidity target => setHumidity target
  | .locate on => ⟨"async_set_locate", [.bool on], "locateFunction", onOff on, on⟩
  | .purge => ⟨"async_purge", [], "drainStatus", .text "01", true⟩
  | .temperatureUnit fahrenheit => ⟨"async_set_temperature_unit",
    [.text (if fahrenheit then "fahrenheit" else "celsius")], "temperatureUnit", onOff fahrenheit, false⟩
  | .moistureUnit metric => ⟨"async_set_moisture_unit",
    [.text (if metric then "grams_per_kilogram" else "grains_per_pound")], "humidityUnit", onOff metric, false⟩

/-- The controls that the entities let through. -/
def Fit : Cloud.Control → Prop
  | .humidity target => target = 20 ∨ Auto target
  | _ => True

/-- The controls of the local connection. -/
def localControl : Cloud.Control → Bool
  | .power _ | .humidity _ | .temperatureUnit _ => true
  | _ => false

section Services

variable {isLocal : Bool} {last : Int} {service : Service} {command : Command} {rest : Except String Ask} {key : String}

theorem requireSupported_ok {ask : Ask} (passes : requireSupported isLocal key rest = .ok ask) :
    supportedByConnection isLocal key ∧ rest = .ok ask := by
  unfold requireSupported at passes
  split at passes
  · rename_i supported
    exact ⟨supported, passes⟩
  · cases passes

theorem temperature_issued {option : String} (asks : UnitSelect.temperature.selectOption option = .ok (.command command)) :
    ∃ fahrenheit, command = issued (.temperatureUnit fahrenheit) := by
  by_cases celsius : option = "celsius"
  · subst celsius
    cases asks
    exact ⟨false, rfl⟩
  by_cases fahrenheit : option = "fahrenheit"
  · subst fahrenheit
    cases asks
    exact ⟨true, rfl⟩
  · simp [UnitSelect.selectOption, UnitSelect.options, List.findIdx?_cons, Ne.symm celsius, Ne.symm fahrenheit] at asks

theorem moisture_issued {option : String} (asks : UnitSelect.moisture.selectOption option = .ok (.command command)) :
    ∃ metric, command = issued (.moistureUnit metric) := by
  by_cases grains : option = "grains_per_pound"
  · subst grains
    cases asks
    exact ⟨false, rfl⟩
  by_cases grams : option = "grams_per_kilogram"
  · subst grams
    cases asks
    exact ⟨true, rfl⟩
  · simp [UnitSelect.selectOption, UnitSelect.options, List.findIdx?_cons, Ne.symm grains, Ne.symm grams] at asks

/-- The command of a service call is that of a control, with a target that the device knows. -/
theorem perform_issued (auto : Auto last) (asks : service.perform isLocal last = .ok (.command command)) :
    ∃ control, command = issued control ∧ Fit control ∧
      localControl control = supportedByConnection true service.key := by
  cases service with
  | humidifierTurn on | powerTurn on =>
    cases asks
    exact ⟨.power on, rfl, trivial, rfl⟩
  | setHumidity humidity =>
    cases humidity with
    | int humidity =>
      simp only [Service.perform] at asks
      split at asks
      · rename_i offered
        cases asks
        exact ⟨.humidity humidity, rfl, .inr offered, rfl⟩
      · cases asks
    | _ => cases asks
  | setMode mode =>
    simp only [Service.perform] at asks
    split at asks
    · cases asks
      refine ⟨.humidity (if mode = modeContinuous then 20 else last), rfl, ?_, rfl⟩
      simp only [Fit]
      split
      · exact .inl rfl
      · exact .inr auto
    · cases asks
  | locateTurn on =>
    obtain ⟨-, same⟩ := requireSupported_ok asks
    cases same
    exact ⟨.locate on, rfl, trivial, rfl⟩
  | pressPurge =>
    obtain ⟨-, same⟩ := requireSupported_ok asks
    cases same
    exact ⟨.purge, rfl, trivial, rfl⟩
  | pressRefresh =>
    obtain ⟨-, impossible⟩ := requireSupported_ok asks
    cases impossible
  | selectOption unit option =>
    obtain ⟨-, same⟩ := requireSupported_ok asks
    cases unit with
    | temperature =>
      obtain ⟨fahrenheit, rfl⟩ := temperature_issued same
      exact ⟨.temperatureUnit fahrenheit, rfl, trivial, rfl⟩
    | moisture =>
      obtain ⟨metric, rfl⟩ := moisture_issued same
      exact ⟨.moistureUnit metric, rfl, trivial, rfl⟩

/-- The entities check their connection before anything else, or their key is supported by both. -/
theorem perform_supported :
    service.perform isLocal last = requireSupported isLocal service.key (service.perform false last) := by
  cases isLocal with
  | false => simp [requireSupported, supportedByConnection]
  | true =>
    cases service with
    | setHumidity humidity => cases humidity <;> rfl
    | selectOption unit option => cases unit <;> rfl
    | _ => rfl

theorem validate_issued {control : Cloud.Control} (fit : Fit control) (own : localControl control) :
    ∃ order, Local.validateCommand (issued control).method (issued control).args (issued control).key
      (issued control).wanted (issued control).requiresOn = .ok order := by
  cases control with
  | power on => cases on <;> exact ⟨_, rfl⟩
  | humidity target =>
    have offered : target = 20 ∨ 25 ≤ target ∧ target ≤ 80 ∧ target % 5 = 0 := fit
    exact ⟨_, if_pos ⟨rfl, rfl, rfl, offered⟩⟩
  | temperatureUnit fahrenheit => cases fahrenheit <;> exact ⟨_, rfl⟩
  | _ => cases own

theorem validate_foreign {control : Cloud.Control} {order : Local.Order}
    (accepted : Local.validateCommand (issued control).method (issued control).args (issued control).key
      (issued control).wanted (issued control).requiresOn = .ok order) : localControl control := by
  cases control with
  | power on => rfl
  | humidity target => rfl
  | temperatureUnit fahrenheit => rfl
  | locate on => cases accepted
  | purge => cases accepted
  | moistureUnit metric => cases metric <;> cases accepted

/-- Over the local connection the entities offer what its coordinator takes: of the commands that a
service call can ask for over the cloud, exactly those that `_validate_command` accepts. -/
theorem local_agrees (auto : Auto last) (asks : service.perform false last = .ok (.command command)) :
    service.perform true last = .ok (.command command) ↔ ∃ order, Local.validateCommand command.method
      command.args command.key command.wanted command.requiresOn = .ok order := by
  obtain ⟨control, rfl, fit, own⟩ := perform_issued auto asks
  rw [perform_supported, asks]
  constructor
  · intro passes
    exact validate_issued fit (own.trans (requireSupported_ok passes).1)
  · rintro ⟨order, accepted⟩
    exact if_pos (own.symm.trans (validate_foreign accepted))

end Services

end AlorairLite.Entities
