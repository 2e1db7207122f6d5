import AlorairLite.Entities.Controls
import AlorairLite.Local.Projection

/-! What the entities show of the appliance over the local connection (`humidifier.py`, `switch.py`,
`select.py`, `sensor.py`, `binary_sensor.py`): the payload of its latest report, while that is fresh. -/

namespace AlorairLite.Entities

open Async Local

/-- What a state or an attribute of an entity holds. -/
inductive Reading where
  | on (on : Bool)
  | number (value : Int)
  | text (value : String)
deriving DecidableEq

/-- `number` of an integer or of `None`. -/
def ranged (value : Option Int) (low high : Int) : Option Int :=
  value.filter fun value => low ≤ value ∧ value ≤ high

/-- `powered(self.coordinator.data)`. -/
def poweredOf (data : Data) : Option Bool :=
  match data.powerStatus with
  | some "00" => some false
  | some "01" | some "02" => some true
  | _ => none

/-- `mode` of the humidifier, from the data. -/
def modeOf (data : Data) : Option String :=
  (ranged data.currentHumidity 20 80).map fun value => if value = 20 then modeContinuous else modeAuto

/-- `is_on` of the sensor for `drainStatus`. -/
def drainingOf (data : Data) : Option Bool :=
  match data.drainStatus with
  | some "00" => some false
  | some "01" => some true
  | _ => none

/-- `current_option` of the temperature display. -/
def unitOf (data : Data) : Option String :=
  (ranged data.temperatureUnit 0 1).bind fun value => UnitSelect.temperature.options[value.toNat]?

/-- The measurements that the local connection supports. -/
inductive Measurement where
  | inHumidity
  | outHumidity
  | inCelsius
  | outCelsius
  | inGkg
  | outGkg
  | inGrlb
  | outGrlb

def Measurement.value (data : Data) : Measurement → Option Int
  | .inHumidity => data.inHumidity
  | .outHumidity => data.outHumidity
  | .inCelsius => data.inCelsius
  | .outCelsius => data.outCelsius
  | .inGkg => some data.inGkg
  | .outGkg => some data.outGkg
  | .inGrlb => some data.inGrlb
  | .outGrlb => some data.outGrlb

/-- The bounds in `MEASUREMENTS`. -/
def Measurement.bounds : Measurement → Int × Int
  | .inHumidity | .outHumidity => (0, 100)
  | .inCelsius | .outCelsius => (-50, 100)
  | .inGkg | .outGkg => (0, 1000)
  | .inGrlb | .outGrlb => (0, 10000)

/-- What is shown of the appliance. -/
inductive Display where
  | humidifierOn
  | targetHumidity
  | mode
  | currentHumidity
  | power
  | draining
  | temperatureUnit
  | measurement (measurement : Measurement)

def Display.read (data : Data) : Display → Option Reading
  | .humidifierOn | .power => (poweredOf data).map .on
  | .targetHumidity => (ranged data.currentHumidity 25 80).map .number
  | .mode => (modeOf data).map .text
  | .currentHumidity => (ranged data.inHumidity 0 100).map .number
  | .draining => (drainingOf data).map .on
  | .temperatureUnit => (unitOf data).map .text
  | .measurement m => (ranged (m.value data) m.bounds.1 m.bounds.2).map .number

/-- The humidifier and the power switch stay available while the appliance is connected. -/
def Display.steadfast : Display → Bool
  | .humidifierOn | .targetHumidity | .mode | .currentHumidity | .power => true
  | _ => false

/-- `available` of the entity. -/
def Display.available (u : Coordinator) (display : Display) : Bool :=
  if display.steadfast then u.client.connected else u.lastUpdateSuccess && !u.statusStale

/-- The property of the entity. -/
def Display.value (u : Coordinator) (display : Display) : Option Reading :=
  if display.steadfast ∧ u.statusStale then none else u.data.bind display.read

/-- The property of the entity at the instant it is read, if the entity is available then. -/
def Display.state (u : Coordinator) (display : Display) : Option Reading :=
  if display.available u then display.value u else none

/-- `mode` of the local humidifier. -/
def localMode (u : Coordinator) : Option String := if u.statusStale then none else u.data.bind modeOf

/-- What the payload of a report says. -/
def Display.spelled (payload : Bytes) : Display → Option Reading
  | .humidifierOn | .power => (flag (payload.getD 3 0)).map .on
  | .draining => (flag (payload.getD 4 0)).map .on
  | .temperatureUnit => some (.text (if payload.getD 32 0 = 0 then "celsius" else "fahrenheit"))
  | .targetHumidity =>
    let target : Int := (payload.getD 23 0).toNat
    if Auto target then some (.number target) else none
  | .mode =>
    let target : Int := (payload.getD 23 0).toNat
    if target = 20 then some (.text "continuous") else if Auto target then some (.text "auto") else none
  | .currentHumidity | .measurement .inHumidity => percentage (payload.getD 10 0).toNat
  | .measurement .outHumidity => percentage (payload.getD 13 0).toNat
  | .measurement .inCelsius => celsius 8
  | .measurement .outCelsius => celsius 11
  | .measurement .inGrlb => upTo 10000 14
  | .measurement .inGkg => upTo 1000 16
  | .measurement .outGrlb => upTo 10000 18
  | .measurement .outGkg => upTo 1000 20
where
  percentage (value : Nat) : Option Reading := if value ≤ 100 then some (.number value) else none
  celsius (index : Nat) : Option Reading :=
    let value := signedByte payload index
    if signedByte payload (index + 1) = value * 9 / 5 + 32 ∧ -50 ≤ value then some (.number value) else none
  upTo (most index : Nat) : Option Reading :=
    let value := fromBytes (slice payload index (index + 2))
    if value ≤ most then some (.number value) else none

section Payloads

theorem poweredOf_data (status : DeviceStatus) : poweredOf status.data = status.power := by
  cases reported : status.power with
  | none => simp [poweredOf, DeviceStatus.data, switchCode, reported]
  | some on => cases on <;> simp [poweredOf, DeviceStatus.data, switchCode, reported]

theorem drainingOf_data (status : DeviceStatus) : drainingOf status.data = status.draining := by
  cases reported : status.draining with
  | none => simp [drainingOf, DeviceStatus.data, switchCode, reported]
  | some on => cases on <;> simp [drainingOf, DeviceStatus.data, switchCode, reported]

theorem unitOf_data (status : DeviceStatus) : unitOf status.data =
    some (if status.temperatureUnit = .celsius then "celsius" else "fahrenheit") := by
  cases reported : status.temperatureUnit <;>
    simp [unitOf, DeviceStatus.data, reported, ranged, Option.filter, UnitSelect.options]

/-- The targets that a report can show, within other bounds. -/
theorem ranged_humidityTarget (value low : Int) :
    ranged (humidityTarget value) low 80 = if low ≤ value ∧ (value = 20 ∨ Auto value) then some value else none := by
  cases read : humidityTarget value with
  | none =>
    have unknown : ¬ (value = 20 ∨ Auto value) := fun offered => by
      rw [humidityTarget_eq_some.mpr ⟨rfl, offered⟩] at read
      cases read
    rw [if_neg fun both => unknown both.2]
    rfl
  | some target =>
    obtain ⟨rfl, offered⟩ := humidityTarget_eq_some.mp read
    have most : value ≤ 80 := by
      rcases offered with rfl | auto
      · decide
      · exact auto.2.1
    simp [ranged, Option.filter, offered, most]

theorem ranged_target (value : Int) : (ranged (humidityTarget value) 25 80).map Reading.number =
    if Auto value then some (.number value) else none := by
  have shown : 25 ≤ value ∧ (value = 20 ∨ Auto value) ↔ Auto value := by
    unfold Auto
    omega
  rw [ranged_humidityTarget]
  by_cases auto : Auto value
  · rw [if_pos (shown.mpr auto), if_pos auto]
    rfl
  · rw [if_neg (mt shown.mp auto), if_neg auto]
    rfl

theorem ranged_mode (value : Int) :
    ((ranged (humidityTarget value) 20 80).map fun target => if target = 20 then modeContinuous else modeAuto).map
      Reading.text = if value = 20 then some (.text "continuous") else if Auto value then some (.text "auto") else none := by
  rw [ranged_humidityTarget]
  by_cases continuous : value = 20
  · subst continuous
    rfl
  · have shown : 20 ≤ value ∧ (value = 20 ∨ Auto value) ↔ Auto value := by
      unfold Auto
      omega
    rw [if_neg continuous]
    by_cases auto : Auto value
    · rw [if_pos (shown.mpr auto), if_pos auto]
      simp [continuous, modeAuto]
    · rw [if_neg (mt shown.mp auto), if_neg auto]
      rfl

theorem ranged_humidity {value : Nat} :
    (ranged (humidity value) 0 100).map Reading.number = if value ≤ 100 then some (.number value) else none := by
  by_cases most : value ≤ 100
  · have bounds : (0 : Int) ≤ value ∧ (value : Int) ≤ 100 := by omega
    simp [ranged, humidity, Option.filter, bounds, most]
  · have bounds : ¬ ((0 : Int) ≤ value ∧ (value : Int) ≤ 100) := by omega
    rw [humidity, if_neg bounds, if_neg most]
    rfl

theorem ranged_temperature {data : Bytes} {index : Nat} :
    (ranged (temperature data index) (-50) 100).map Reading.number =
      if signedByte data (index + 1) = signedByte data index * 9 / 5 + 32 ∧ -50 ≤ signedByte data index then
        some (.number (signedByte data index)) else none := by
  have byte : signedByte data (index + 1) ≤ 127 := by
    have bound := (data.getD (index + 1) 0).toNat_lt
    unfold signedByte
    dsimp only
    split <;> omega
  unfold temperature
  dsimp only
  split
  · rename_i paired
    have most : signedByte data index ≤ 100 := by omega
    by_cases least : -50 ≤ signedByte data index <;> simp [ranged, Option.filter, paired, least, most]
  · rename_i unpaired
    simp [ranged, unpaired]

theorem ranged_word {value most : Nat} :
    (ranged (some value) 0 most).map Reading.number = if value ≤ most then some (.number value) else none := by
  by_cases within : value ≤ most <;> simp [ranged, Option.filter, within]

theorem read_spelled {frame : Frame} {decoded : ObservedStatus} {sid sequence : Nat} {receivedAt monotonic : ℚ}
    (decodes : observedStatus frame = .ok decoded) (display : Display) :
    display.read (decoded.deviceStatus sid sequence receivedAt monotonic frame.opcode).data =
      display.spelled frame.data := by
  simp only [observedStatus] at decodes
  split at decodes
  · cases decodes
  split at decodes
  · cases decodes
  cases decodes
  cases display with
  | humidifierOn | power => exact congrArg (Option.map _) (poweredOf_data _)
  | draining => exact congrArg (Option.map _) (drainingOf_data _)
  | temperatureUnit =>
    rw [Display.read, unitOf_data]
    simp [ObservedStatus.deviceStatus, Display.spelled]
  | targetHumidity => exact ranged_target (frame.data.getD 23 0).toNat
  | mode => exact ranged_mode (frame.data.getD 23 0).toNat
  | currentHumidity => exact ranged_humidity
  | measurement m =>
    cases m with
    | inHumidity | outHumidity => exact ranged_humidity
    | inCelsius | outCelsius => exact ranged_temperature
    | inGkg | outGkg | inGrlb | outGrlb => exact ranged_word

end Payloads

/-- While a receipt is remembered, the data is that of the report that was published last. -/
def Displaying (u : Coordinator) : Prop :=
  ∀ received, u.receivedMonotonic = some received → ∃ status, (publications u.log).getLast? = some status ∧
    u.data = some status.data ∧ status.receivedMonotonic = received

section Runs

variable {config : Config} {origin u after : Coordinator} {label : Coordinator.Label}

theorem Displaying.keep (displaying : Displaying u) (log : publications after.log = publications u.log)
    (data : after.data = u.data) (received : after.receivedMonotonic = u.receivedMonotonic) : Displaying after := by
  intro time remembered
  rw [log, data]
  exact displaying time (received ▸ remembered)

theorem Displaying.onStatus (displaying : Displaying u) (status : DeviceStatus) : Displaying (u.onStatus status) := by
  rw [Coordinator.onStatus_eq]
  split
  · obtain ⟨-, -, -, -, -, -, -, log, data, -, -, received, -⟩ := (u.enterSession status).publish_fields status
    intro time remembered
    rw [received] at remembered
    refine ⟨status, ?_, data, Option.some.inj remembered⟩
    rw [log, publications_append]
    exact List.getLast?_concat
  · exact displaying

theorem Displaying.observe (displaying : Displaying u) (entry : Callback) : Displaying (u.observe entry) := by
  have noted : Displaying { u.record (.observed entry) with client := { u.client with dispatching := none } } :=
    displaying.keep (by simp [Coordinator.record, publications]) rfl rfl
  simp only [Coordinator.observe]
  split
  · exact noted.onStatus _
  · simp only [Coordinator.onDisconnect]
    split
    · exact noted
    · exact fun received impossible => by cases impossible

theorem Displaying.conclude {k : Nat} {verdict : Verdict} (displaying : Displaying u) :
    Displaying (u.conclude k verdict) := by
  have closed : ∀ handled : Coordinator, Displaying handled → Displaying { handled with
      commandLock := none
      orders := Function.update u.orders k { u.orders k with phase := .done verdict.error }
      log := handled.log ++ [.concluded k verdict] } := fun handled displaying =>
    displaying.keep (by simp [publications]) rfl rfl
  cases verdict with
  | reported status =>
    apply closed (u.confirmReport (u.orders k).order status)
    simp only [Coordinator.confirmReport]
    split
    · exact displaying.keep rfl rfl rfl
    · apply Displaying.onStatus
      exact displaying.keep rfl rfl rfl
  | _ => exact closed _ (displaying.keep rfl rfl rfl)

theorem Displaying.change (started : Displaying origin) (displaying : Displaying u)
    (change : Change config origin label u after) : Displaying after := by
  cases change with
  | @observe entry client dispatched moved running =>
    have moved : Displaying { origin with client } := started.keep rfl rfl rfl
    exact moved.observe entry
  | @begin u k waiting free admitted =>
    refine displaying.keep ?_ rfl rfl
    rw [(u.beginCall_fields config k).2.2.2.2, publications_append]
    exact List.append_nil _
  | conclude calling ending later => exact displaying.conclude
  | watch =>
    simp only [Coordinator.watch]
    split <;> exact displaying.keep rfl rfl rfl
  | _ => exact displaying.keep rfl rfl rfl

theorem Displaying.of_run (run : Reachable (coordinator config) u) : Displaying u := by
  refine (Run.changes Displaying ?_ ?_ run).2
  · intro now wall localPower epoch received impossible
    cases impossible
  · intro origin label u after _ started _ _ displaying change
    exact started.change displaying change

/-- Where an entity shows something of the appliance, the status is not stale. -/
theorem state_fresh {display : Display} {reading : Reading} (shows : display.state u = some reading) :
    u.statusStale = false ∧ u.data.bind display.read = some reading := by
  cases stale : u.statusStale with
  | false =>
    refine ⟨rfl, ?_⟩
    unfold Display.state Display.value at shows
    split at shows
    · simpa [stale] using shows
    · cases shows
  | true => cases steadfast : display.steadfast <;>
    simp [Display.state, Display.available, Display.value, stale, steadfast] at shows

/-- A fresh status belongs to the session of the latest report and was received in time. -/
theorem statusStale_false (fresh : u.statusStale = false) : ∃ current received,
    u.client.lastStatus = some current ∧ u.receivedMonotonic = some received ∧
      u.sessionId = some current.sessionId ∧ received ≤ u.client.now ∧ u.client.now ≤ received + publishedMaxAge := by
  simp only [Coordinator.statusStale, Bool.or_eq_false_iff] at fresh
  obtain ⟨-, fresh⟩ := fresh
  split at fresh
  · rename_i current received shown remembered
    simp only [decide_eq_false_iff_not, not_or, not_not] at fresh
    obtain ⟨session, past, recent⟩ := fresh
    exact ⟨current, received, shown, remembered, session.symm, by linarith, by linarith⟩
  · cases fresh

theorem mem_reports {sid : Nat} {status : DeviceStatus} {log : List Event} (member : status ∈ reports sid log) :
    ∃ raw frame, .frame sid raw frame (some status) ∈ log := by
  obtain ⟨event, listed, same⟩ := List.mem_filterMap.mp member
  cases event with
  | frame session raw frame shown =>
    cases shown with
    | none => cases same
    | some other =>
      simp only [Event.reportOn] at same
      split at same
      · rename_i own
        cases same
        subst own
        exact ⟨raw, frame, listed⟩
      · cases same
  | _ => cases same

/-- Whatever an entity shows of the appliance, the payload of the report that was published last says:
that was decoded on the connection that is up, at most 35 seconds ago. -/
theorem display_fresh {display : Display} {reading : Reading} (run : Reachable (coordinator config) u)
    (shows : display.state u = some reading) : ∃ status sid raw frame,
      (publications u.log).getLast? = some status ∧ u.client.connected ∧ u.client.session = some sid ∧
        .frame sid raw frame (some status) ∈ u.client.log ∧ Frame.decode raw (some config.mac) = .ok frame ∧
          status.receivedMonotonic ≤ u.client.now ∧ u.client.now ≤ status.receivedMonotonic + 35 ∧
            display.spelled frame.data = some reading := by
  obtain ⟨attached, publishing⟩ := Run.publishing run
  obtain ⟨fresh, read⟩ := state_fresh shows
  obtain ⟨current, received, latest, remembered, session, past, recent⟩ := statusStale_false fresh
  obtain ⟨status, last, data, rfl⟩ := Displaying.of_run run received remembered
  obtain ⟨connected, up, -⟩ := attached.reporting.lastStatus latest
  have home : current.sessionId = status.sessionId := by
    have published := publishing.session
    rw [session, publishedSession, last] at published
    exact Option.some.inj published
  obtain ⟨raw, frame, decoded⟩ := mem_reports (publishing.decoded status (List.mem_of_getLast? last))
  obtain ⟨content, genuine⟩ := (reachable_guarded (Run.projection run)).2.1 _ decoded
  obtain ⟨-, observed, sequence, receivedAt, monotonic, decodes, built⟩ := genuine status rfl
  refine ⟨status, status.sessionId, raw, frame, last, connected, home ▸ up, decoded, content, past, recent, ?_⟩
  rw [data, Option.bind_some] at read
  rw [← read_spelled decodes display, ← built]
  exact read

theorem display_fresh_example : ∃ u, (coordinator exampleConfig).follow exampleCoordinator connectOn = some u ∧
    Display.power.state u = some (.on true) ∧ ∃ status sid raw frame,
      (publications u.log).getLast? = some status ∧ .frame sid raw frame (some status) ∈ u.client.log ∧
        Display.power.spelled frame.data = some (.on true) := by
  have shown : (((coordinator exampleConfig).follow exampleCoordinator connectOn).map fun u =>
      decide (Display.power.state u = some (.on true))) = some true := by decide +kernel
  obtain ⟨u, followed, shows⟩ := Option.map_eq_some_iff.mp shown
  have begun : Reachable (coordinator exampleConfig) exampleCoordinator := .start ⟨0, 0, false, le_rfl, rfl⟩
  obtain ⟨status, sid, raw, frame, last, -, -, decoded, -, -, -, spells⟩ :=
    display_fresh (begun.follow (fun _ _ => trivial) followed) (of_decide_eq_true shows)
  exact ⟨u, followed, of_decide_eq_true shows, status, sid, raw, frame, last, decoded, spells⟩

end Runs

end AlorairLite.Entities
