import AlorairLite.Local.Acknowledgement
import AlorairLite.Local.Projection

/-! The loop of a command through all layers: the argument, the byte that is written, the
payload of the report that confirms it, and the published value it is compared with. -/

namespace AlorairLite.Local

/-- Where a status payload shows a setting. -/
def Key.offset : Key → Nat
  | .powerStatus => 3
  | .temperatureUnit => 32
  | .currentHumidity => 23

/-- The four encodings of a command agree on this byte. -/
structure Order.Wire (order : Order) (byte : UInt8) : Prop where
  command : order.request.command = .ok ⟨order.opcode, [byte], order.request.setting, false⟩
  shown : ∀ frame decoded sid sequence receivedAt monotonic opcode,
    observedStatus frame = .ok decoded →
      (order.request.met (decoded.deviceStatus sid sequence receivedAt monotonic opcode) ↔
        frame.data.getD order.key.offset 0 = byte)
  actual : ∀ status : DeviceStatus,
    status.data.actual order.key = some order.wanted ↔ order.request.met status

theorem Order.Wire.reading {order : Order} {byte : UInt8} (wire : order.Wire byte)
    (status : DeviceStatus) :
    order.opcode = order.request.opcode ∧
      (status.reading order.opcode = order.request.setting ↔ order.request.met status) :=
  order.request.command_met status wire.command

theorem flag_eq_some {value : UInt8} {on : Bool} :
    flag value = some on ↔ value = if on then 1 else 0 := by
  unfold flag
  by_cases off : value = 0
  · subst off
    cases on <;> simp
  · by_cases one : value = 1
    · subst one
      cases on <;> simp
    · cases on <;> simp [off, one]

theorem display_eq {byte : UInt8} {unit : TemperatureUnit} (display : ¬ (byte ≠ 0 ∧ byte ≠ 1)) :
    (if byte ≠ 0 then TemperatureUnit.fahrenheit else .celsius) = unit ↔
      byte = if unit = .fahrenheit then 1 else 0 := by
  by_cases celsius : byte = 0
  · cases unit <;> simp [celsius]
  · have fahrenheit : byte = 1 := by
      by_contra other
      exact display ⟨celsius, other⟩
    cases unit <;> simp [fahrenheit]

theorem humidityTarget_byte {value : UInt8} {target : Int} (offered : (humidityTarget target).isSome) :
    humidityTarget value.toNat = some target ↔ value = UInt8.ofNat target.toNat := by
  have listed : target ∈ humidityTargets := by
    by_contra unlisted
    simp [humidityTarget, unlisted] at offered
  have bounds : 0 ≤ target ∧ target < 256 := by
    have all : ∀ target ∈ humidityTargets, 0 ≤ target ∧ target < 256 := by decide
    exact all target listed
  have same : value = UInt8.ofNat target.toNat ↔ (value.toNat : Int) = target := by
    rw [← UInt8.toNat_inj, UInt8.toNat_ofNat']
    omega
  rw [same, humidityTarget]
  constructor
  · intro read
    split at read
    · exact Option.some.inj read
    · cases read
  · intro equal
    rw [equal, if_pos listed]

/-- The payload bytes behind the settings of a decoded report. -/
theorem observedStatus_settings {frame : Frame} {decoded : ObservedStatus}
    (decodes : observedStatus frame = .ok decoded) :
    decoded.power = flag (frame.data.getD 3 0) ∧
      decoded.targetHumidity = humidityTarget (frame.data.getD 23 0).toNat ∧
      ∀ unit, decoded.temperatureDisplay = unit ↔
        frame.data.getD 32 0 = if unit = .fahrenheit then 1 else 0 := by
  simp only [observedStatus] at decodes
  split at decodes
  · cases decodes
  split at decodes
  · cases decodes
  · rename_i display
    cases decodes
    exact ⟨rfl, rfl, fun unit => display_eq display⟩

theorem switchCode_eq_some {shown : Option Bool} {on : Bool} :
    (switchCode shown).map Value.text = some (.text (if on then "01" else "00")) ↔
      shown = some on := by
  cases shown with
  | none => simp [switchCode]
  | some value => cases value <;> cases on <;> simp [switchCode]

theorem Order.Valid.wire {order : Order} (valid : order.Valid) : ∃ byte, order.Wire byte := by
  cases valid with
  | power on requiresOn =>
    refine ⟨if on then 1 else 0, ⟨rfl, ?_, ?_⟩⟩
    · intro frame decoded sid sequence receivedAt monotonic opcode decodes
      obtain ⟨power, -, -⟩ := observedStatus_settings decodes
      have shown : Request.met (decoded.deviceStatus sid sequence receivedAt monotonic opcode)
          (.setPower on) ↔ flag (frame.data.getD 3 0) = some on := by
        rw [← power]
        exact Iff.rfl
      exact shown.trans flag_eq_some
    · intro status
      exact switchCode_eq_some
  | unit unit requiresOn =>
    refine ⟨if unit = .fahrenheit then 1 else 0, ⟨rfl, ?_, ?_⟩⟩
    · intro frame decoded sid sequence receivedAt monotonic opcode decodes
      obtain ⟨-, -, display⟩ := observedStatus_settings decodes
      exact display unit
    · intro status
      cases shown : status.temperatureUnit <;> cases unit <;>
        simp [DeviceStatus.data, Data.actual, Request.met, shown]
  | humidity target requiresOn offered =>
    refine ⟨UInt8.ofNat target.toNat, ⟨?_, ?_, ?_⟩⟩
    · have accepted : (humidityTarget target).isNone = false := by
        simpa [Option.isNone_iff_eq_none, Option.isSome_iff_ne_none] using offered
      simp [Request.command, Request.setting, accepted]
    · intro frame decoded sid sequence receivedAt monotonic opcode decodes
      obtain ⟨-, humidity, -⟩ := observedStatus_settings decodes
      have shown : Request.met (decoded.deviceStatus sid sequence receivedAt monotonic opcode)
          (.setHumidity target false) ↔
            humidityTarget (frame.data.getD 23 0).toNat = some target := by
        rw [← humidity]
        exact Iff.rfl
      exact shown.trans (humidityTarget_byte offered)
    · intro status
      simp [DeviceStatus.data, Data.actual, Request.met]

/-- A report for the opcode of a command, with a known display byte. -/
structure Reports (frame : Frame) (order : Order) : Prop where
  function : frame.function = 7
  opcode : frame.opcode = order.opcode
  length : frame.data.length = 34
  display : frame.data.getD 32 0 = 0 ∨ frame.data.getD 32 0 = 1

/-- The frame of a command is written, and the report at this place comes after it. -/
structure Awaits (s : State) (sid : Nat) (order : Order) (c : Nat) (record : Pending) : Prop where
  attached : (s.sessions sid).pending = some c
  recorded : (s.calls c).pending = some record
  opcode : record.opcode = order.opcode
  expected : record.expected = order.request.setting
  queued : record.queued
  waiting : record.future = .pending
  later : record.receiveSequence < (s.sessions sid).receiveSequence
  beyond : record.byteBoundary ≤ (s.sessions sid).offset

theorem Reports.decodes {frame : Frame} {order : Order} (reports : Reports frame order) :
    ∃ decoded, observedStatus frame = .ok decoded := by
  have layout : ¬ (frame.function ≠ 0x07 ∨ frame.data.length ≠ 34) := by
    simp [reports.function, reports.length]
  have display : ¬ (frame.data.getD 32 0 ≠ 0 ∧ frame.data.getD 32 0 ≠ 1) := fun unknown =>
    reports.display.elim unknown.1 unknown.2
  rw [observedStatus, if_neg layout, if_neg display]
  exact ⟨_, rfl⟩

/-- The reader handles it in the body of its loop. -/
theorem Reports.handled {frame : Frame} {order : Order} {decoded : ObservedStatus}
    (reports : Reports frame order) (decodes : observedStatus frame = .ok decoded) (config : Config)
    (s : State) (sid : Nat) (raw : Bytes) (rest : List (Bytes × Frame)) :
    State.handleFrames config sid ((raw, frame) :: rest) s =
      State.handleFrames config sid rest (s.handleReport config sid raw frame rest decoded) := by
  have other : frame.isHeartbeat = false := by simp [Frame.isHeartbeat, reports.function]
  have report : frame.isReport := by simp [Frame.isReport, reports.function, reports.length]
  simp [State.handleFrames, other, report, decodes]

theorem State.enqueueCallback_calls (config : Config) (s : State) (entry : Callback) :
    (s.enqueueCallback config entry).calls = s.calls := by
  unfold State.enqueueCallback
  by_cases absent : (if entry.isDisconnect then config.onDisconnect else config.onStatus) = false
  · rw [if_pos absent]
  rw [if_neg absent]
  split
  · rfl
  split
  · rfl
  · simp only [State.failCallback]
    split <;> rfl

/-- Such a report confirms the command exactly when its byte shows what was written. -/
theorem Awaits.handled {s : State} {sid c : Nat} {order : Order} {record : Pending} {byte : UInt8}
    {frame : Frame} {decoded : ObservedStatus} (awaits : Awaits s sid order c record)
    (wire : order.Wire byte) (opcode : frame.opcode = order.opcode)
    (decodes : observedStatus frame = .ok decoded) (config : Config) (raw : Bytes)
    (rest : List (Bytes × Frame)) :
    ((s.handleReport config sid raw frame rest decoded).calls c).pending = some { record with
      future := if frame.data.getD order.key.offset 0 = byte
        then .result (s.deviceStatus sid frame decoded) else .pending } := by
  have handled : (s.handleReport config sid raw frame rest decoded).calls =
      (s.report sid raw frame rest (s.deviceStatus sid frame decoded)).calls :=
    State.enqueueCallback_calls ..
  have equal : (s.deviceStatus sid frame decoded).reading record.opcode = record.expected ↔
      frame.data.getD order.key.offset 0 = byte := by
    rw [awaits.opcode, awaits.expected]
    exact (wire.reading _).2.trans (wire.shown frame decoded _ _ _ _ _ decodes)
  rw [handled]
  rcases s.report_call sid raw frame rest (s.deviceStatus sid frame decoded) c with
    ⟨other, confirms, own⟩ | ⟨missed, own⟩
  · have same := confirms.recorded
    rw [awaits.recorded] at same
    cases same
    rw [own, if_pos (equal.mp confirms.equal)]
  · rw [own, awaits.recorded, if_neg, ← awaits.waiting]
    intro shown
    exact missed record
      { attached := awaits.attached, recorded := awaits.recorded, queued := awaits.queued
        waiting := awaits.waiting, opcode := opcode.trans awaits.opcode.symm
        later := awaits.later, beyond := awaits.beyond, equal := equal.mpr shown }

/-- A call that was made at this time: what answers it was received later. -/
structure Served (s : State) (c : Nat) (issued : ℚ) : Prop where
  past : issued ≤ s.now
  marked : ∀ record, (s.calls c).pending = some record → record.queued →
    record.receiveSequence < (s.sessions (s.calls c).session).receiveSequence →
      issued ≤ (s.sessions (s.calls c).session).receivedMonotonic
  result : ∀ record status, (s.calls c).pending = some record → record.future = .result status →
    issued ≤ status.receivedMonotonic

/-- The record of the call and the clock of its session are as they were. -/
theorem Served.keep {s after : State} {c : Nat} {issued : ℚ} (served : Served s c issued)
    (now : s.now ≤ after.now) (session : (after.calls c).session = (s.calls c).session)
    (record : (after.calls c).pending = (s.calls c).pending)
    (sequence : (after.sessions (s.calls c).session).receiveSequence =
      (s.sessions (s.calls c).session).receiveSequence)
    (received : (after.sessions (s.calls c).session).receivedMonotonic =
      (s.sessions (s.calls c).session).receivedMonotonic) : Served after c issued := by
  constructor
  · exact le_trans served.past now
  · rw [session, record, sequence, received]
    exact served.marked
  · rw [record]
    exact served.result

theorem Served.aside {s after : State} {c : Nat} {issued : ℚ} (served : Served s c issued)
    (now : s.now ≤ after.now) (calls : after.calls = s.calls) (sessions : after.sessions = s.sessions) :
    Served after c issued :=
  served.keep now (by rw [calls]) (by rw [calls]) (by rw [sessions]) (by rw [sessions])

theorem Served.setSession {s : State} {c sid : Nat} {issued : ℚ} {session : Session}
    (served : Served s c issued)
    (sequence : session.receiveSequence = (s.sessions sid).receiveSequence)
    (received : session.receivedMonotonic = (s.sessions sid).receivedMonotonic) :
    Served (s.setSession sid session) c issued :=
  served.keep le_rfl rfl rfl (update_field Session.receiveSequence sequence _)
    (update_field Session.receivedMonotonic received _)

theorem Served.setCall {s : State} {c d : Nat} {issued : ℚ} {call : Call} (served : Served s c issued)
    (session : call.session = (s.calls d).session) (record : call.pending = (s.calls d).pending) :
    Served (s.setCall d call) c issued :=
  served.keep le_rfl (update_field Call.session session _) (update_field Call.pending record _) rfl rfl

/-- The future of one record changes, not to a status. -/
theorem Served.setFuture {s : State} {c d : Nat} {issued : ℚ} {pending : Pending} {future : Future}
    (served : Served s c issued) (recorded : (s.calls d).pending = some pending)
    (other : ∀ status, future ≠ .result status) : Served (s.setFuture d pending future) c issued := by
  by_cases equal : c = d
  · subst equal
    constructor
    · exact served.past
    · simp only [State.setFuture, State.setCall, Function.update_self]
      rintro record ⟨⟩
      exact served.marked pending recorded
    · simp only [State.setFuture, State.setCall, Function.update_self]
      rintro record status ⟨⟩ result
      exact absurd result (other status)
  · exact served.keep le_rfl (by simp [State.setFuture, equal]) (by simp [State.setFuture, equal]) rfl rfl

/-- A call without a record. -/
theorem Served.unrecorded {s : State} {c : Nat} {issued : ℚ} (past : issued ≤ s.now)
    (none : (s.calls c).pending = none) : Served s c issued := by
  refine ⟨past, ?_, ?_⟩
  · intro record recorded
    rw [none] at recorded
    cases recorded
  · intro record status recorded
    rw [none] at recorded
    cases recorded

theorem Served.settle {s : State} {c d : Nat} {issued : ℚ} (served : Served s c issued)
    (outcome : Outcome) : Served (s.settle d outcome) c issued := by
  have same := SameReport.settle s d outcome
  by_cases equal : c = d
  · subst equal
    have own : (s.settle c outcome).calls c = { s.calls c with
        execute := .done outcome, cancelling := false
        pending := (s.calls c).pending.map Pending.abandon } := by
      simp [State.settle]
    constructor
    · exact served.past
    · rw [own, same.sequence, same.received]
      intro record recorded queued later
      obtain ⟨before, held, rfl⟩ := Option.map_eq_some_iff.mp recorded
      exact served.marked before held (by simpa using queued) (by simpa using later)
    · rw [own]
      intro record status recorded result
      obtain ⟨before, held, rfl⟩ := Option.map_eq_some_iff.mp recorded
      rw [Pending.abandon_future] at result
      split at result
      · cases result
      · exact served.result before status held result
  · exact served.keep le_rfl (by simp [State.settle, equal]) (by simp [State.settle, equal])
      (same.sequence _) (same.received _)

/-- The reader hands the call a report that came after its write. -/
theorem Served.report {s : State} {c sid : Nat} {issued : ℚ} {raw : Bytes} {frame : Frame}
    {rest : List (Bytes × Frame)} {status : DeviceStatus} (served : Served s c issued)
    (target : ∀ d, (s.sessions sid).pending = some d → (s.calls d).session = sid)
    (received : status.receivedMonotonic = (s.sessions sid).receivedMonotonic) :
    Served (s.report sid raw frame rest status) c issued := by
  obtain ⟨-, sessions⟩ := s.report_frame sid raw frame rest status
  have now : (s.report sid raw frame rest status).now = s.now := by
    rcases State.confirm_cases { s.takeFrame sid raw frame rest (some status) with
        status := some status } sid frame (s.sessions sid).offset status with
      same | ⟨d, record, -, -, -, -, -, -, -, -, same⟩
    · rw [State.report, same]
      rfl
    · rw [State.report, same]
      rfl
  have sequence : ((s.report sid raw frame rest status).sessions (s.calls c).session).receiveSequence =
      (s.sessions (s.calls c).session).receiveSequence := by
    rw [sessions]
    exact update_field Session.receiveSequence (by rfl) _
  have clock : ((s.report sid raw frame rest status).sessions (s.calls c).session).receivedMonotonic =
      (s.sessions (s.calls c).session).receivedMonotonic := by
    rw [sessions]
    exact update_field Session.receivedMonotonic (by rfl) _
  rcases s.report_call sid raw frame rest status c with ⟨record, confirms, own⟩ | ⟨-, own⟩
  · have home := target c confirms.attached
    refine ⟨now ▸ served.past, ?_, ?_⟩
    · rw [own, sequence, clock]
      rintro other ⟨⟩
      exact served.marked record confirms.recorded
    · rw [own]
      rintro other shown ⟨⟩ ⟨⟩
      have later := confirms.later
      rw [← home] at later received
      rw [received]
      exact served.marked record confirms.recorded confirms.queued later
  · exact served.keep (le_of_eq now.symm) (by rw [own]) (by rw [own]) sequence clock

theorem Effect.served {config : Config} {limit overflow : Prop} {s after : State} {c : Nat}
    {issued : ℚ} (effect : Effect config overflow s after) (coherent : Coherent config limit s)
    (served : Served s c issued) : Served after c issued := by
  cases effect with
  | clock forward epoch => exact served.aside forward rfl rfl
  | accept idle free =>
    have older : (s.calls c).session ≠ s.sessionCounter + 1 := by
      have bound := (coherent.tasks c).bound
      omega
    exact served.keep le_rfl rfl rfl (by simp [State.openSession, older])
      (by simp [State.openSession, older])
  | @feed sid bytes known opened =>
    have fed : Served (s.setSession sid { s.sessions sid with
        buffer := (s.sessions sid).buffer ++ bytes
        totalReceived := (s.sessions sid).totalReceived + bytes.length }) c issued :=
      served.setSession rfl rfl
    exact fed.aside le_rfl rfl rfl
  | note sid eof readError reason cancelling => exact served.setSession rfl rfl
  | @closeWriter sid known =>
    have closed : Served (s.setSession sid { s.sessions sid with isClosing := true }) c issued :=
      served.setSession rfl rfl
    exact closed.aside le_rfl rfl rfl
  | release current left =>
    rw [State.release, if_pos current]
    exact served.aside le_rfl rfl rfl
  | @fail sid gone left =>
    rcases s.failPending_cases sid with same | ⟨d, pending, error, -, recorded, -, -, same⟩
    · rw [same]; exact served
    · rw [same]; exact served.setFuture recorded (by simp)
  | @skip sid raw frame rest known handling next =>
    have taken : Served (s.setSession sid { s.sessions sid with
        offset := (s.sessions sid).offset + raw.length, frames := rest, verified := true }) c issued :=
      served.setSession rfl rfl
    exact taken.aside le_rfl rfl rfl
  | @report sid raw frame rest decoded status known handling next isReport decodes built =>
    exact served.report (fun d attached => ((coherent.tasks d).attached sid attached).2)
      (by rw [built]; rfl)
  | readAt begun move => exact served.setSession rfl rfl
  | @chunk sid chunk frames parser known reading taken nonempty fed =>
    by_cases own : (s.calls c).session = sid
    · subst own
      refine ⟨served.past, fun record recorded queued later => ?_, served.result⟩
      simpa [State.receiveChunk] using served.past
    · exact served.keep le_rfl rfl rfl (by simp [State.receiveChunk, own])
        (by simp [State.receiveChunk, own])
  | @reply after sid phase sent =>
    obtain ⟨-, -, -, -, -, -, raw, -, rfl⟩ := State.sendTurn_sent sent
    have written : Served (s.write sid 1 [0] (.reader sid) raw) c issued := served.aside le_rfl rfl rfl
    have answered : Served ((s.write sid 1 [0] (.reader sid) raw).setReadAt sid .heartbeatDrain) c
        issued := written.setSession rfl rfl
    exact answered.aside le_rfl rfl rfl
  | @refuse request error rejected =>
    by_cases fresh : c = s.callCount
    · exact .unrecorded served.past (by simp [State.refuseCall, fresh, Call.none])
    · exact served.keep le_rfl (by simp [State.refuseCall, fresh]) (by simp [State.refuseCall, fresh])
        rfl rfl
  | @call request command sid parsed current connected =>
    by_cases fresh : c = s.callCount
    · exact .unrecorded served.past (by simp [State.openCall, fresh])
    · exact served.keep le_rfl (by simp [State.openCall, fresh]) (by simp [State.openCall, fresh])
        rfl rfl
  | @popCommand d rest next =>
    have popped : Served { s with spawned := rest } c issued := served.aside le_rfl rfl rfl
    exact popped.setCall rfl rfl
  | @skipCommand d rest next asked =>
    have popped : Served { s with spawned := rest } c issued := served.aside le_rfl rfl rfl
    exact popped.settle .cancelled
  | move move => exact served.setCall rfl rfl
  | @register d phase free current =>
    by_cases equal : c = d
    · subst equal
      have own : (({ s with commandLock := some c } : State).register c).calls c =
          { s.calls c with
            pending := some {
              opcode := (s.calls c).command.opcode, expected := (s.calls c).command.expected
              allowStale := (s.calls c).command.allowStale }
            execute := .sendLock } := by
        simp [State.register]
      refine ⟨served.past, ?_, ?_⟩
      · rw [own]
        rintro record ⟨⟩ queued
        cases queued
      · rw [own]
        rintro record status ⟨⟩ result
        cases result
    · exact served.keep le_rfl (by simp [State.register, equal]) (by simp [State.register, equal])
        (update_field Session.receiveSequence (by rfl) _)
        (update_field Session.receivedMonotonic (by rfl) _)
  | @transmit after d phase sent =>
    obtain ⟨-, current, -, -, -, -, raw, -, rfl⟩ := State.sendTurn_sent sent
    have agrees := (coherent.tasks d).phase
    rw [phase] at agrees
    obtain ⟨pending, recorded, unqueued⟩ := agrees
    have unanswered := (coherent.tasks d).future pending recorded
    obtain ⟨write, transmits⟩ := s.transmit_spec recorded raw
    have now : (s.transmit d raw).now = s.now := by simp [State.transmit, State.write, recorded]
    show Served (s.transmit d raw) c issued
    by_cases equal : c = d
    · subst equal
      refine ⟨now ▸ served.past, ?_, ?_⟩
      · rw [transmits.calls, transmits.sessions, Function.update_self]
        rintro record ⟨⟩ queued later
        exact absurd later (Nat.lt_irrefl _)
      · rw [transmits.calls, Function.update_self]
        rintro record status ⟨⟩ result
        have answered : pending.future = .result status := result
        simp [FutureAgrees, answered, unqueued] at unanswered
    · exact served.keep (le_of_eq now.symm) (by simp [transmits.calls, equal])
        (by simp [transmits.calls, equal]) (by rw [transmits.sessions]) (by rw [transmits.sessions])
  | settle how => exact served.settle _
  | @cancel d live cause =>
    have asked : Served (s.setCall d { s.calls d with cancelling := true }) c issued :=
      served.setCall rfl rfl
    exact asked.aside le_rfl rfl rfl
  | drain waiting interrupted => exact served.setCall rfl rfl
  | @finish d last outcome waiting done result =>
    have told : Served (s.setCall d { s.calls d with caller := .ended outcome }) c issued :=
      served.setCall rfl rfl
    exact told.aside le_rfl rfl rfl
  | _ => exact served.aside le_rfl rfl rfl

theorem Effects.served {config : Config} {limit overflow : Prop} {s after : State} {c : Nat}
    {issued : ℚ} (effects : Effects config overflow s after) (limited : overflow → limit)
    (coherent : Coherent config limit s) (served : Served s c issued) : Served after c issued := by
  have both : Coherent config limit after ∧ Served after c issued := by
    induction effects with
    | refl => exact ⟨coherent, served⟩
    | tail _ effect ih => exact ⟨effect.coherent limited ih.1, effect.served ih.1 ih.2⟩
  exact both.2

/-- Every command under way is served. -/
def Serving (u : Coordinator) : Prop :=
  ∀ k c, (u.orders k).phase = .calling c → Served u.client c (u.orders k).issued

theorem Serving.aside {u after : Coordinator} (serving : Serving u)
    (client : after.client = u.client) (orders : after.orders = u.orders) : Serving after := by
  intro k c calling
  rw [orders] at calling ⊢
  rw [client]
  exact serving k c calling

theorem Serving.one {u after : Coordinator} {k : Nat} {task : OrderTask} (serving : Serving u)
    (client : after.client = u.client) (orders : after.orders = Function.update u.orders k task)
    (own : ∀ c, task.phase = .calling c →
      (u.orders k).phase = .calling c ∧ task.issued = (u.orders k).issued) : Serving after := by
  intro d c calling
  rw [orders] at calling ⊢
  rw [client]
  by_cases equal : d = k
  · subst equal
    simp only [Function.update_self] at calling ⊢
    obtain ⟨before, issued⟩ := own c calling
    exact issued ▸ serving d c before
  · simp only [Function.update_of_ne equal] at calling ⊢
    exact serving d c calling

theorem State.call_unrecorded (config : Config) (s : State) (request : Request) :
    ((s.call config request).calls s.callCount).pending = none := by
  simp only [State.call]
  split
  · simp [State.refuseCall, Call.none]
  · split
    · simp [State.refuseCall, Call.none]
    · simp [State.openCall]

theorem Serving.begin {config : Config} {u : Coordinator} {k : Nat} (serving : Serving u)
    (attached : Attached config u) : Serving (u.beginCall config k) := by
  have effects : Effects config.coordinated True u.client (u.beginCall config k).client :=
    call_effects (u.orders k).order.request
  have orders : (u.beginCall config k).orders = Function.update u.orders k { u.orders k with
      issued := u.client.now, phase := .calling u.client.callCount } :=
    (u.beginCall_fields config k).2.1
  intro d c calling
  rw [orders] at calling ⊢
  by_cases equal : d = k
  · subst equal
    simp only [Function.update_self, OrderAt.calling.injEq] at calling ⊢
    subst calling
    exact .unrecorded (le_of_eq (u.beginCall_now config d).symm) (State.call_unrecorded ..)
  · simp only [Function.update_of_ne equal] at calling ⊢
    exact effects.served id attached.coherent (serving d c calling)

theorem Change.serving {config : Config} {origin u after : Coordinator} {label : Coordinator.Label}
    (change : Change config origin label u after) (started : Serving origin)
    (attached : Attached config u) (serving : Serving u) : Serving after := by
  cases change with
  | client effects =>
    exact fun k c calling =>
      effects.served (fun _ => trivial) attached.coherent (serving k c calling)
  | @observe entry client dispatched moved running =>
    have fields := Coordinator.observe_fields { origin with client } entry
    obtain ⟨head, rest, next, free, rfl⟩ := State.dispatch_spec moved
    intro k c calling
    rw [fields.2.2.2.1] at calling ⊢
    rw [fields.1]
    exact (started k c calling).aside le_rfl rfl rfl
  | begin waiting free admitted => exact serving.begin attached
  | @conclude u k c verdict calling ending later =>
    have fields := u.conclude_fields k verdict
    exact serving.one fields.1 fields.2.2.1 (by simp)
  | mark calling => exact serving.one rfl rfl fun c still => ⟨still, rfl⟩
  | finish waiting => exact serving.one rfl rfl (by simp)
  | order opened valid => exact serving.one rfl rfl (by simp)
  | @watch u =>
    have fields := u.watch_fields
    exact serving.aside fields.1 fields.2.2.1
  | note => exact serving.aside rfl rfl
  | close => exact serving.aside rfl rfl

theorem Run.serving {config : Config} {u : Coordinator}
    (run : Async.Reachable (coordinator config) u) : Serving u := by
  apply And.right
  apply Run.changes Serving ?_ ?_ run
  · rintro now wall localPower epoch k c ⟨⟩
  · intro origin label u after _ started _ attached serving change
    exact change.serving started attached serving

section Closing

variable {config : Config} {u : Coordinator} {k c : Nat} {byte : UInt8}

/-- The client call under way was made with the request of its command. -/
theorem called_request (run : Async.Reachable (coordinator config) u)
    (calling : (u.orders k).phase = .calling c) (wire : (u.orders k).order.Wire byte)
    {record : Pending} (recorded : (u.client.calls c).pending = some record) :
    record.opcode = (u.orders k).order.opcode ∧
      record.expected = (u.orders k).order.request.setting := by
  obtain ⟨attached, linked⟩ := Run.linked run
  obtain ⟨session, member⟩ := linked.called k c calling
  obtain ⟨opcode, expected, -⟩ := (attached.coherent.tasks c).record record recorded
  rcases (attached.coherent.callers c).request _ _ member with ⟨parsed, -⟩ | refused
  · have same := Except.ok.inj (wire.command.symm.trans parsed)
    rw [opcode, expected, ← same]
    exact ⟨rfl, rfl⟩
  · rw [refused.unrecorded] at recorded
    cases recorded

/-- What the client writes for the command under way. -/
theorem called_written (run : Async.Reachable (coordinator config) u)
    (calling : (u.orders k).phase = .calling c) (wire : (u.orders k).order.Wire byte) {write : Write}
    (member : .wrote write ∈ u.client.log) (call : write.call = some c) :
    write.opcode = (u.orders k).order.opcode ∧ write.data = [byte] := by
  obtain ⟨coherent, -, guarded⟩ := reachable_guarded (Run.projection run)
  obtain ⟨past, future, split, held⟩ := guarded.of_mem member
  obtain ⟨request, command, called, parsed, opcode, data, -⟩ := (held write rfl).command c call
  obtain ⟨session, ours⟩ := (Run.linked run).2.called k c calling
  have first : .called c request (some write.session) ∈ u.client.log := by
    rw [split]
    exact List.mem_append_left _ called
  obtain rfl := (coherent.callers c).once _ _ _ _ first ours
  have same := Except.ok.inj (wire.command.symm.trans parsed)
  rw [opcode, data, ← same]
  exact ⟨rfl, rfl⟩

/-- A report that confirms the command under way shows what it asked for. -/
theorem called_met (run : Async.Reachable (coordinator config) u)
    (calling : (u.orders k).phase = .calling c) {record : Pending} {status : DeviceStatus}
    (recorded : (u.client.calls c).pending = some record) (result : record.future = .result status) :
    status.eventOpcode = (u.orders k).order.request.opcode ∧ (u.orders k).order.request.met status := by
  have reached := Run.projection run
  obtain ⟨coherent, genuine, -⟩ := reachable_guarded reached
  obtain ⟨past, raw, frame, first⟩ := (reachable_answered reached c).found record status recorded result
  obtain ⟨future, split⟩ := first.placed
  obtain ⟨request, session, asked, opcode, met⟩ := first.holds.asked
  obtain ⟨session', ours⟩ := (Run.linked run).2.called k c calling
  have called : .called c request session ∈ u.client.log := by
    rw [split]
    exact List.mem_append_left _ asked
  obtain rfl := (coherent.callers c).once _ _ _ _ called ours
  obtain ⟨-, shows⟩ := genuine (.frame (u.client.calls c).session raw frame (some status))
    (by rw [split]; simp)
  obtain ⟨-, decoded, sequence, receivedAt, monotonic, -, built⟩ := shows status rfl
  refine ⟨?_, met⟩
  rw [← opcode, built]
  rfl

/-- Every report that confirms passes the second check of the coordinator. -/
theorem called_verdict (run : Async.Reachable (coordinator config) u)
    (calling : (u.orders k).phase = .calling c) (wire : (u.orders k).order.Wire byte)
    {record : Pending} {status : DeviceStatus} (recorded : (u.client.calls c).pending = some record)
    (result : record.future = .result status) :
    (u.orders k).verdict (.returned status) = .reported status := by
  obtain ⟨event, met⟩ := called_met run calling recorded result
  obtain ⟨opcode, reading⟩ := wire.reading status
  have received := (Run.serving run k c calling).result record status recorded result
  rw [OrderTask.verdict, if_neg]
  rintro (other | unequal | early)
  · exact other (event.trans opcode.symm)
  · exact unequal (reading.mpr met)
  · exact absurd early (not_lt_of_ge received)

end Closing

theorem Order.Valid.start {order : Order} {status : DeviceStatus} (valid : order.Valid)
    (starting : order.starting) (actual : status.data.actual order.key = some order.wanted) :
    status.data.powerStatus = some "01" := by
  cases valid with
  | power on requiresOn =>
    cases on with
    | false => simp [Order.starting] at starting
    | true => simpa [Data.actual] using actual
  | unit unit requiresOn => simp [Order.starting] at starting
  | humidity target requiresOn offered => simp [Order.starting] at starting

theorem powerStatus_on (status : DeviceStatus) :
    status.data.powerStatus = some "01" ↔ status.power = some true := by
  cases shown : status.power with
  | none => simp [DeviceStatus.data, switchCode, shown]
  | some on => cases on <;> simp [DeviceStatus.data, switchCode, shown]

/-- Once the published report shows the wanted value and nothing is pending, a command is
refused by an earlier check or ends silently. -/
theorem Coordinator.admission_settled {u : Coordinator} {order : Order} {status : DeviceStatus}
    (valid : order.Valid) (actual : status.data.actual order.key = some order.wanted)
    (published : u.data = some status.data) (free : u.pending order.key = none)
    (fresh : u.statusStale = false) :
    u.admission order =
      if order.starting ∧ u.localPower = false then
        .refused (.serviceValidation "Enable experimental local power in the integration options first")
      else if (order.requiresOn ∨ order.opcode = 0x23) ∧ status.power ≠ some true then
        .refused (.serviceValidation "Turn the dehumidifier on before changing this setting")
      else .satisfied := by
  have opened : u.closing = false ∧ u.client.connected = true := by
    simp only [statusStale, Bool.or_eq_false_iff, Bool.not_eq_false'] at fresh
    exact ⟨fresh.1.1, fresh.1.2⟩
  have known : ¬ (order.starting ∧ ¬ status.data.powerStatus = some "00" ∧
      ¬ status.power = some true) := by
    rintro ⟨starting, -, other⟩
    exact other ((powerStatus_on status).mp (valid.start starting actual))
  simp only [admission, published, Option.bind_some, opened.1, opened.2, fresh, free, actual,
    Bool.false_eq_true, reduceCtorEq, if_false, and_false, and_self, if_true, ne_eq, powerStatus_on]
  rw [if_neg known]

/-- The four encodings of every accepted command agree: its byte in a report decides alone
whether the command is confirmed, a report that confirms it is accepted by the coordinator,
and once that report is published the same command never reaches the client. -/
theorem command_loop_closed {method : String} {args : List Value} {key : String} {wanted : Value}
    {requiresOn : Bool} {order : Order}
    (accepted : validateCommand method args key wanted requiresOn = .ok order) :
    ∃ byte, order.request.command = .ok ⟨order.opcode, [byte], order.request.setting, false⟩ ∧
      (∀ config s sid raw frame rest c record, Reports frame order → Awaits s sid order c record →
        ∃ decoded, observedStatus frame = .ok decoded ∧
          State.handleFrames config sid ((raw, frame) :: rest) s =
            State.handleFrames config sid rest (s.handleReport config sid raw frame rest decoded) ∧
          ((s.handleReport config sid raw frame rest decoded).calls c).pending = some { record with
            future := if frame.data.getD order.key.offset 0 = byte
              then .result (s.deviceStatus sid frame decoded) else .pending }) ∧
      (∀ config u, Async.Reachable (coordinator config) u → ∀ k c, (u.orders k).order = order →
        (u.orders k).phase = .calling c →
          (∀ write, .wrote write ∈ u.client.log → write.call = some c →
            write.opcode = order.opcode ∧ write.data = [byte]) ∧
          ∀ record, (u.client.calls c).pending = some record →
            record.opcode = order.opcode ∧ record.expected = order.request.setting ∧
              ∀ status, record.future = .result status →
                (u.orders k).verdict (.returned status) = .reported status ∧
                  status.data.actual order.key = some order.wanted) ∧
      ∀ (u : Coordinator) (status : DeviceStatus), status.data.actual order.key = some order.wanted →
        (u.accepts status → (u.onStatus status).data = some status.data) ∧
        (u.data = some status.data → u.pending order.key = none → u.statusStale = false →
          (∀ k, (u.orders k).order = order → u.invokes (.proceed k) = none) ∧
          u.admission order =
            if order.starting ∧ u.localPower = false then
              .refused (.serviceValidation
                "Enable experimental local power in the integration options first")
            else if (order.requiresOn ∨ order.opcode = 0x23) ∧ status.power ≠ some true then
              .refused (.serviceValidation "Turn the dehumidifier on before changing this setting")
            else .satisfied) := by
  have valid := validateCommand_valid accepted
  obtain ⟨byte, wire⟩ := valid.wire
  refine ⟨byte, wire.command, ?_, ?_, ?_⟩
  · intro config s sid raw frame rest c record reports awaits
    obtain ⟨decoded, decodes⟩ := reports.decodes
    exact ⟨decoded, decodes, reports.handled decodes config s sid raw rest,
      awaits.handled wire reports.opcode decodes config raw rest⟩
  · rintro config u run k c rfl calling
    refine ⟨fun write member call => called_written run calling wire member call, ?_⟩
    intro record recorded
    obtain ⟨opcode, expected⟩ := called_request run calling wire recorded
    refine ⟨opcode, expected, fun status result => ?_⟩
    exact ⟨called_verdict run calling wire recorded result,
      (wire.actual status).mpr (called_met run calling recorded result).2⟩
  · intro u status actual
    refine ⟨fun accepts => ?_, fun published free fresh => ?_⟩
    · rw [Coordinator.onStatus_eq, if_pos accepts]
      exact ((u.enterSession status).publish_fields status).2.2.2.2.2.2.2.2.1
    · have settled := Coordinator.admission_settled valid actual published free fresh
      refine ⟨fun k same => ?_, settled⟩
      have unadmitted : u.admission order ≠ .admitted := by
        rw [settled]
        split
        · simp
        · split <;> simp
      simp [Coordinator.invokes, same, unadmitted]

/-- The bytes of a report for a humidity command, with this target and this power flag. -/
def humidityReport (target power : UInt8) : Bytes :=
  let frame : Frame := {
    mac := exampleConfig.mac, timestamp := 0, function := 7, opcode := 0x23
    data := List.replicate 3 0 ++ [power] ++ List.replicate 19 0 ++ [target] ++ List.replicate 10 0 }
  frame.body ++ toBytes 2 (checksum frame.body) ++ [0x16]

/-- A humidity command is written, and a report of an appliance that is off confirms it. -/
def confirmedLabels : List Coordinator.Label :=
  connectOn ++ writeHumidity 0 40 ++ hear (humidityReport 40 0) 1

/-- The status that resolved the future of this call. -/
def State.resolved (s : State) (c : Nat) : Option DeviceStatus :=
  match (s.calls c).pending with
  | some { future := .result status, .. } => some status
  | _ => none

theorem State.resolved_record {s : State} {c : Nat} {status : DeviceStatus}
    (resolved : s.resolved c = some status) :
    ∃ record, (s.calls c).pending = some record ∧ record.future = .result status := by
  unfold State.resolved at resolved
  split at resolved
  · rename_i opcode expected result queued sequence boundary sent stale recorded
    cases resolved
    exact ⟨_, recorded, rfl⟩
  · cases resolved

def exampleOrder : Order :=
  ⟨"set_humidity", 0x23, .currentHumidity, .int 40, .setHumidity 40 false, false⟩

theorem exampleOrder_accepted :
    validateCommand "async_set_humidity" [.int 40] "currentHumidity" (.int 40) false =
      .ok exampleOrder := by decide

theorem command_loop_closed_example : ∃ u status,
    (coordinator exampleConfig).follow exampleCoordinator confirmedLabels = some u ∧
      u.client.resolved 0 = some status ∧
      (u.orders 0).verdict (.returned status) = .reported status ∧
      status.data.actual .currentHumidity = some (.int 40) := by
  have shown : (((coordinator exampleConfig).follow exampleCoordinator confirmedLabels).map fun u =>
      (u.client.resolved 0).isSome && decide ((u.orders 0).phase = .calling 0) &&
        decide ((u.orders 0).order = exampleOrder)) = some true := by
    decide +kernel
  obtain ⟨u, followed, facts⟩ := Option.map_eq_some_iff.mp shown
  simp only [Bool.and_eq_true, decide_eq_true_eq] at facts
  obtain ⟨⟨resolved, calling⟩, order⟩ := facts
  obtain ⟨status, resolved⟩ := Option.isSome_iff_exists.mp resolved
  obtain ⟨record, recorded, result⟩ := State.resolved_record resolved
  have run : Async.Reachable (coordinator exampleConfig) u :=
    Async.Run.follow (.start ⟨0, 0, false, le_rfl, rfl⟩) (fun _ _ => trivial) followed
  obtain ⟨byte, -, -, closes, -⟩ := command_loop_closed exampleOrder_accepted
  obtain ⟨-, confirmed⟩ := closes exampleConfig u run 0 0 order calling
  obtain ⟨-, -, met⟩ := confirmed record recorded
  obtain ⟨verdict, actual⟩ := met status result
  exact ⟨u, status, followed, resolved, verdict, actual⟩

/-- The call returns, and the same command is asked for again. -/
def repeatedLabels : List Coordinator.Label :=
  confirmedLabels ++ [.client (.execute 0 .ready), .resume 0, askHumidity 40]

def Action.confirms (k : Nat) : Action → Option DeviceStatus
  | .concluded j (.reported status) => if j = k then some status else none
  | _ => none

/-- The report that confirmed the command is the published one and nothing is pending, and
yet the same command does not end silently: the appliance is reported off. -/
theorem repeated_command_refused : ∃ u status,
    Async.Reachable (coordinator exampleConfig) u ∧
      validateCommand "async_set_humidity" [.int 40] "currentHumidity" (.int 40) false =
        .ok (u.orders 1).order ∧ (u.orders 0).order = (u.orders 1).order ∧
      .concluded 0 (.reported status) ∈ u.log ∧ u.data = some status.data ∧
      u.pending .currentHumidity = none ∧ u.statusStale = false ∧
      u.admission (u.orders 1).order =
        .refused (.serviceValidation "Turn the dehumidifier on before changing this setting") := by
  have shown : (((coordinator exampleConfig).follow exampleCoordinator repeatedLabels).map fun u =>
      (u.log.findSome? (Action.confirms 0)).any (fun status => decide (u.data = some status.data)) &&
        decide ((u.orders 0).order = exampleOrder ∧ (u.orders 1).order = exampleOrder ∧
          u.pending .currentHumidity = none ∧ u.statusStale = false ∧
          u.admission exampleOrder =
            .refused (.serviceValidation "Turn the dehumidifier on before changing this setting"))) =
        some true := by
    decide +kernel
  obtain ⟨u, followed, facts⟩ := Option.map_eq_some_iff.mp shown
  simp only [Bool.and_eq_true, decide_eq_true_eq, Option.any_eq_true] at facts
  obtain ⟨⟨status, found, published⟩, first, second, free, fresh, refused⟩ := facts
  obtain ⟨action, member, confirms⟩ := List.exists_of_findSome?_eq_some found
  have concluded : action = .concluded 0 (.reported status) := by
    unfold Action.confirms at confirms
    split at confirms
    · split at confirms
      · rename_i equal
        cases confirms
        rw [equal]
      · cases confirms
    · cases confirms
  refine ⟨u, status, Async.Run.follow (.start ⟨0, 0, false, le_rfl, rfl⟩) (fun _ _ => trivial)
    followed, ?_, ?_, concluded ▸ member, published, free, fresh, ?_⟩
  · rw [second]
    exact exampleOrder_accepted
  · rw [first, second]
  · rw [second]
    exact refused

end AlorairLite.Local
