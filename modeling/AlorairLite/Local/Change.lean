import AlorairLite.Local.Report
import AlorairLite.Local.Coordinator

/-! What a step of the coordinator can do, as a path of small changes, and what every
reachable state of it knows about its client. -/

namespace AlorairLite.Local

open Relation.ReflTransGen

namespace Coordinator

/-- The verdict on a command, if its client call ends when the client moves so. -/
def returning (u : Coordinator) (k : Nat) (move : Nat → Option State) : Option (Nat × Verdict) :=
  match (u.orders k).phase with
  | .calling c => ((move c).bind (·.callEnd c)).map fun outcome => (k, (u.orders k).verdict outcome)
  | _ => none

/-- The request of the client call this step makes. -/
def invokes (u : Coordinator) : Coordinator.Label → Option Request
  | .proceed k =>
    if k < u.orderCount ∧ (u.orders k).phase = .waiting ∧ u.commandLock = none ∧
        u.admission (u.orders k).order = .admitted then some (u.orders k).order.request
    else none
  | _ => none

/-- The command whose client call ends in this step, with its verdict. -/
def ending (config : Config) (u : Coordinator) : Coordinator.Label → Option (Nat × Verdict)
  | .proceed k =>
    if (u.invokes (.proceed k)).isSome then
      ((u.beginCall config k).client.callEnd u.client.callCount).map fun outcome =>
        (k, ((u.beginCall config k).orders k).verdict outcome)
    else none
  | .resume k => u.returning k u.client.resumeCaller
  | .expire k => (u.markCancelled k true).returning k u.client.cancelCaller
  | .cancel k => (u.markCancelled k false).returning k u.client.cancelCaller
  | _ => none

end Coordinator

/-- What an accepted command can be. -/
inductive Order.Valid : Order → Prop where
  | power (on requiresOn : Bool) : Order.Valid
      ⟨"set_power", 0x21, .powerStatus, .text (if on then "01" else "00"), .setPower on, requiresOn⟩
  | unit (unit : TemperatureUnit) (requiresOn : Bool) : Order.Valid
      ⟨"set_temperature_unit", 0x24, .temperatureUnit,
        .text (if unit = .fahrenheit then "01" else "00"), .setTemperatureUnit unit, requiresOn⟩
  | humidity (target : Int) (requiresOn : Bool) (offered : (humidityTarget target).isSome) :
      Order.Valid
        ⟨"set_humidity", 0x23, .currentHumidity, .int target, .setHumidity target false, requiresOn⟩

theorem humidityTarget_isSome {target : Int}
    (offered : target = 20 ∨ 25 ≤ target ∧ target ≤ 80 ∧ target % 5 = 0) :
    (humidityTarget target).isSome := by
  have listed : target ∈ humidityTargets := by
    rcases offered with rfl | ⟨least, most, step⟩
    · exact List.mem_cons_self ..
    · refine List.mem_cons_of_mem _ (List.mem_map.mpr ⟨((target - 25) / 5).toNat, ?_, ?_⟩)
      · rw [List.mem_range]
        omega
      · omega
  rw [humidityTarget, if_pos listed]
  rfl

private theorem ok_of_checked {checked : Prop} [Decidable checked] {order accepted : Order}
    {error : CommandError}
    (result : (if checked then Except.ok order else .error error) = .ok accepted) :
    checked ∧ order = accepted := by
  by_cases passed : checked
  · rw [if_pos passed] at result
    exact ⟨passed, Except.ok.inj result⟩
  · rw [if_neg passed] at result
    cases result

theorem validateCommand_valid {method : String} {args : List Value} {key : String} {wanted : Value}
    {requiresOn : Bool} {order : Order}
    (accepted : validateCommand method args key wanted requiresOn = .ok order) : order.Valid := by
  simp only [validateCommand] at accepted
  split at accepted
  · obtain ⟨⟨-, -, rfl⟩, rfl⟩ := ok_of_checked accepted
    exact .power _ _
  · obtain ⟨⟨-, rfl | rfl, -, rfl⟩, rfl⟩ := ok_of_checked accepted
    · exact .unit .celsius _
    · exact .unit .fahrenheit _
  · obtain ⟨⟨-, -, rfl, offered⟩, rfl⟩ := ok_of_checked accepted
    exact .humidity _ _ (humidityTarget_isSome offered)
  · cases accepted

/-- The same step, before or after it issued this command. -/
structure Since (origin u : Coordinator) (k : Nat) : Prop where
  now : u.client.now = origin.client.now
  order : (u.orders k).order = (origin.orders k).order
  log : u.log = origin.log ∨ ∃ key wanted, u.log = origin.log ++ [.issued k key wanted u.client.now]

/-- One change of the coordinator during a step that began in `origin`. -/
inductive Change (config : Config) (origin : Coordinator) (label : Coordinator.Label) :
    Coordinator → Coordinator → Prop where
  | client {overflow : Prop} {u : Coordinator} {client : State}
      (effects : Effects config.coordinated overflow u.client client) :
      Change config origin label u { u with client }
  | observe {entry : Callback} {client : State} (dispatched : label = .dispatch)
      (moved : origin.client.dispatch = some client) (running : client.dispatching = some entry) :
      Change config origin label origin (({ origin with client } : Coordinator).observe entry)
  | begin {u : Coordinator} {k : Nat} (waiting : (u.orders k).phase = .waiting)
      (free : u.commandLock = none) (admitted : u.admission (u.orders k).order = .admitted) :
      Change config origin label u (u.beginCall config k)
  | conclude {u : Coordinator} {k c : Nat} {verdict : Verdict}
      (calling : (u.orders k).phase = .calling c)
      (ending : origin.ending config label = some (k, verdict)) (later : Since origin u k) :
      Change config origin label u (u.conclude k verdict)
  | mark {u : Coordinator} {k c : Nat} {expired : Bool} (calling : (u.orders k).phase = .calling c) :
      Change config origin label u (u.markCancelled k expired)
  | finish {u : Coordinator} {k : Nat} {error : Option CommandError}
      (waiting : (u.orders k).phase = .waiting) :
      Change config origin label u (u.endOrder k error)
  | order {u : Coordinator} {order : Order} (opened : u.closing = false) (valid : order.Valid) :
      Change config origin label u { u with
        orderCount := u.orderCount + 1
        orders := Function.update u.orders u.orderCount { order } }
  | watch {u : Coordinator} : Change config origin label u u.watch
  | note {u : Coordinator} {localPower lastUpdateSuccess watchdogStopped : Bool} {unload : UnloadAt} :
      Change config origin label u { u with localPower, lastUpdateSuccess, watchdogStopped, unload }
  | close {u : Coordinator} {unload : UnloadAt} :
      Change config origin label u { u with closing := true, unload }

abbrev Changes (config : Config) (origin : Coordinator) (label : Coordinator.Label) :
    Coordinator → Coordinator → Prop :=
  Relation.ReflTransGen (Change config origin label)

/-- What every change keeps about the client. -/
structure Attached (config : Config) (u : Coordinator) : Prop where
  coherent : Coherent config.coordinated True u.client
  reporting : Reporting u.client

theorem Effects.attached {config : Config} {overflow : Prop} {u : Coordinator} {client : State}
    (effects : Effects config.coordinated overflow u.client client) (attached : Attached config u) :
    Coherent config.coordinated True client ∧ Reporting client := by
  induction effects with
  | refl => exact ⟨attached.coherent, attached.reporting⟩
  | tail _ effect ih =>
    exact ⟨effect.coherent (fun _ => trivial) ih.1, effect.reporting ih.1.shape ih.2⟩

/-- The current session, with a transport that is not closing. -/
structure State.Open (s : State) (sid : Nat) : Prop where
  current : s.session = some sid
  opened : s.closing = false
  live : (s.sessions sid).isClosing = false

/-- What the client never takes back. -/
structure Later (s after : State) : Prop where
  now : s.now ≤ after.now
  counter : s.sessionCounter ≤ after.sessionCounter
  log : ∃ events, after.log = s.log ++ events
  opened : ∀ sid, s.knows sid → after.Open sid → s.Open sid

theorem Later.refl (s : State) : Later s s := ⟨le_rfl, le_rfl, ⟨[], by simp⟩, fun _ _ => id⟩

theorem Later.knows {s after : State} {sid : Nat} (later : Later s after) (known : s.knows sid) :
    after.knows sid := by
  have bounds := State.knows_iff.mp known
  exact State.knows_iff.mpr ⟨bounds.1, le_trans bounds.2 later.counter⟩

theorem Later.trans {s middle after : State} (earlier : Later s middle) (later : Later middle after) :
    Later s after := by
  obtain ⟨events, log⟩ := earlier.log
  obtain ⟨more, grown⟩ := later.log
  refine ⟨le_trans earlier.now later.now, le_trans earlier.counter later.counter,
    ⟨events ++ more, by rw [grown, log, List.append_assoc]⟩, fun sid known opened => ?_⟩
  exact earlier.opened sid known (later.opened sid (earlier.knows known) opened)

/-- The current session, the flags and the counters are as they were. -/
theorem Later.aside {s after : State} (log : ∃ events, after.log = s.log ++ events)
    (now : s.now ≤ after.now) (counter : after.sessionCounter = s.sessionCounter)
    (session : after.session = s.session) (closing : after.closing = s.closing)
    (isClosing : ∀ sid, (after.sessions sid).isClosing = (s.sessions sid).isClosing) :
    Later s after := by
  refine ⟨now, le_of_eq counter.symm, log, fun sid _ opened => ?_⟩
  exact ⟨session ▸ opened.current, closing ▸ opened.opened, isClosing sid ▸ opened.live⟩

theorem Effect.later {config : Config} {overflow : Prop} {s after : State}
    (effect : Effect config overflow s after) : Later s after := by
  have log : ∃ events, after.log = s.log ++ events := by
    obtain ⟨events, grown, -⟩ := effect.appends
    exact ⟨events, grown⟩
  cases effect with
  | clock forward epoch => exact .aside log forward rfl rfl rfl fun _ => rfl
  | accept idle free =>
    refine ⟨le_rfl, Nat.le_succ _, log, fun sid known opened => ?_⟩
    have fresh := opened.current
    simp only [State.openSession, Option.some.injEq] at fresh
    have bounds := State.knows_iff.mp known
    omega
  | @feed sid bytes known opened =>
    exact .aside log le_rfl rfl rfl rfl (update_field Session.isClosing (by rfl))
  | note sid eof readError reason cancelling =>
    exact .aside log le_rfl rfl rfl rfl (update_field Session.isClosing (by rfl))
  | @closeWriter sid known =>
    refine ⟨le_rfl, le_rfl, log, fun other _ opened => ⟨opened.current, opened.opened, ?_⟩⟩
    have live := opened.live
    by_cases equal : other = sid
    · simp [State.closeWriter, equal] at live
    · simpa [State.closeWriter, equal] using live
  | @release sid current left =>
    rw [State.release, if_pos current] at log ⊢
    exact ⟨le_rfl, le_rfl, log, fun other _ opened => absurd opened.current (by simp)⟩
  | @fail sid gone left =>
    rcases s.failPending_cases sid with same | ⟨c, pending, error, -, -, -, -, same⟩
    · rw [same]; exact .refl s
    · rw [same] at log ⊢; exact .aside log le_rfl rfl rfl rfl fun _ => rfl
  | skip known handling next =>
    exact .aside log le_rfl rfl rfl rfl (update_field Session.isClosing (by rfl))
  | @report sid raw frame rest decoded status known handling next isReport decodes built =>
    rcases State.confirm_cases _ sid frame (s.sessions sid).offset status with
      same | ⟨c, pending, -, -, -, -, -, -, -, -, same⟩
    · rw [same] at log ⊢
      exact .aside log le_rfl rfl rfl rfl (update_field Session.isClosing (by rfl))
    · rw [same] at log ⊢
      exact .aside log le_rfl rfl rfl rfl (update_field Session.isClosing (by rfl))
  | readAt begun move =>
    exact .aside log le_rfl rfl rfl rfl (update_field Session.isClosing (by rfl))
  | chunk known reading taken nonempty fed =>
    exact .aside log le_rfl rfl rfl rfl (update_field Session.isClosing (by rfl))
  | @reply after sid phase sent =>
    obtain ⟨-, -, -, -, -, -, raw, -, rfl⟩ := State.sendTurn_sent sent
    exact .aside log le_rfl rfl rfl rfl (update_field Session.isClosing (by rfl))
  | @transmit after c phase sent =>
    obtain ⟨-, -, -, -, -, -, raw, -, rfl⟩ := State.sendTurn_sent sent
    refine .aside log ?_ ?_ ?_ ?_ fun sid => ?_
    all_goals simp only [State.write]; split <;> simp
  | @register c phase free current =>
    exact .aside log le_rfl rfl rfl rfl (update_field Session.isClosing (by rfl))
  | @skipCommand c rest next asked =>
    exact .aside log le_rfl rfl rfl rfl
      (State.settle_link { s with spawned := rest } c .cancelled).isClosing
  | @settle c outcome how =>
    exact .aside log le_rfl rfl rfl rfl (State.settle_link s c outcome).isClosing
  | close opened =>
    exact ⟨le_rfl, le_rfl, log, fun sid _ opened => absurd opened.opened (by simp)⟩
  | _ => exact .aside log le_rfl rfl rfl rfl fun _ => rfl

theorem Effects.later {config : Config} {overflow : Prop} {s after : State}
    (effects : Effects config overflow s after) : Later s after := by
  induction effects with
  | refl => exact .refl s
  | tail _ effect ih => exact ih.trans effect.later

theorem State.call_now (config : Config) (s : State) (request : Request) :
    (s.call config request).now = s.now := by
  simp only [State.call]
  split
  · rfl
  split <;> rfl

theorem State.resumeCaller_now {s after : State} {c : Nat} (resumed : s.resumeCaller c = some after) :
    after.now = s.now := by
  simp only [State.resumeCaller] at resumed
  split at resumed <;> cases resumed <;> rfl

theorem State.cancelCaller_now {s after : State} {c : Nat}
    (cancelled : s.cancelCaller c = some after) : after.now = s.now := by
  have task : ∀ state : State, (state.cancelTask c).now = state.now := fun state => by
    simp only [State.cancelTask]
    split <;> rfl
  simp only [State.cancelCaller] at cancelled
  split at cancelled
  · cases cancelled
  · cases cancelled
    rfl
  · cases cancelled
    exact task _
  · cases cancelled
    rfl

section Decomposition

variable {config : Config} {origin u after : Coordinator} {label : Coordinator.Label}

theorem Change.path (change : Change config origin label u after) :
    Changes config origin label u after := single change

/-- The end of a client call is handled in the step it happens in. -/
theorem afterCall_changes {k c : Nat} (calling : (u.orders k).phase = .calling c)
    (later : Since origin u k)
    (ending : origin.ending config label =
      (u.client.callEnd c).map fun outcome => (k, (u.orders k).verdict outcome)) :
    Changes config origin label u (u.afterCall k c) := by
  unfold Coordinator.afterCall
  split
  · rename_i outcome ended
    rw [ended] at ending
    exact (Change.conclude calling ending later).path
  · exact refl

theorem runCommand_changes {k : Nat} (known : k < u.orderCount)
    (waiting : (u.orders k).phase = .waiting) (free : u.commandLock = none) :
    Changes config u (.proceed k) u (u.runCommand config k) := by
  unfold Coordinator.runCommand
  split
  · exact (Change.finish waiting).path
  · exact (Change.finish waiting).path
  · rename_i admitted
    have begun : Changes config u (.proceed k) u (u.beginCall config k) :=
      (Change.begin waiting free admitted).path
    have later : Since u (u.beginCall config k) k := by
      have now : (u.beginCall config k).client.now = u.client.now := State.call_now ..
      refine ⟨now, by simp [Coordinator.beginCall, Coordinator.issue],
        .inr ⟨(u.orders k).order.key, (u.orders k).order.wanted, ?_⟩⟩
      rw [now]
      rfl
    have invoked : (u.invokes (.proceed k)).isSome := by
      simp [Coordinator.invokes, known, waiting, free, admitted]
    refine begun.trans (afterCall_changes (by simp [Coordinator.beginCall]) later ?_)
    rw [Coordinator.ending, if_pos invoked]

theorem resumeOrder_changes {k : Nat} (taken : u.resumeOrder k = some after) :
    Changes config u (.resume k) u after := by
  unfold Coordinator.resumeOrder at taken
  split at taken
  · rename_i c calling
    obtain ⟨client, resumed, rfl⟩ := Option.map_eq_some_iff.mp taken
    have moved : Effects config.coordinated True u.client client := resumeCaller_effects resumed
    have path : Changes config u (.resume k) u { u with client } := (Change.client moved).path
    have later : Since u { u with client } k := ⟨State.resumeCaller_now resumed, rfl, .inl rfl⟩
    refine path.trans (afterCall_changes calling later ?_)
    simp [Coordinator.ending, Coordinator.returning, calling, resumed]
  · cases taken

theorem cancelOrder_changes {k : Nat} {expired : Bool} {label : Coordinator.Label}
    (labelled : u.ending config label = (u.markCancelled k expired).returning k u.client.cancelCaller)
    (taken : u.cancelOrder k expired = some after) : Changes config u label u after := by
  unfold Coordinator.cancelOrder at taken
  split at taken
  · rename_i waiting
    split at taken
    · cases taken
    · cases taken
      exact (Change.finish waiting).path
  · rename_i c calling
    split at taken
    · cases taken
    · obtain ⟨client, cancelled, rfl⟩ := Option.map_eq_some_iff.mp taken
      have marked : Changes config u label u (u.markCancelled k expired) :=
        (Change.mark calling).path
      have moved : Effects config.coordinated True (u.markCancelled k expired).client client :=
        cancelCaller_effects cancelled
      have still : ((u.markCancelled k expired).orders k).phase = .calling c := by
        simp [Coordinator.markCancelled, calling]
      have later : Since u { u.markCancelled k expired with client } k :=
        ⟨State.cancelCaller_now cancelled, by simp [Coordinator.markCancelled], .inl rfl⟩
      refine (marked.tail (.client moved)).trans (afterCall_changes still later ?_)
      simp [labelled, Coordinator.returning, still, cancelled]
  · cases taken

/-- Every step of the coordinator is a path of changes. -/
theorem step_changes (attached : Attached config u)
    (taken : Coordinator.step config u label = some after) : Changes config u label u after := by
  cases label with
  | client label =>
    simp only [Coordinator.step] at taken
    split at taken
    · obtain ⟨client, moved, rfl⟩ := Option.map_eq_some_iff.mp taken
      exact (Change.client (step_effects attached.coherent.shape attached.coherent.epoch moved)).path
    · cases taken
  | dispatch =>
    obtain ⟨client, moved, taken⟩ := Option.bind_eq_some_iff.mp taken
    obtain ⟨entry, running, rfl⟩ := Option.map_eq_some_iff.mp taken
    exact (Change.observe rfl moved running).path
  | setOption enabled =>
    cases taken
    exact Change.note.path
  | command method args key wanted requiresOn =>
    cases taken
    unfold Coordinator.command
    split
    · exact refl
    rename_i order accepted
    split
    · exact refl
    · rename_i opened
      exact (Change.order (by simpa using opened) (validateCommand_valid accepted)).path
  | proceed k =>
    simp only [Coordinator.step] at taken
    split at taken
    · rename_i ready
      cases taken
      exact runCommand_changes ready.1 ready.2.1 ready.2.2
    · cases taken
  | resume k => exact resumeOrder_changes taken
  | expire k => exact cancelOrder_changes rfl taken
  | cancel k => exact cancelOrder_changes rfl taken
  | watch =>
    simp only [Coordinator.step] at taken
    split at taken
    · cases taken
    · cases taken
      exact Change.watch.path
  | refresh =>
    cases taken
    exact Change.note.path
  | unload =>
    cases taken
    exact Change.close.path
  | closeClient =>
    simp only [Coordinator.step, Coordinator.closeClient] at taken
    split at taken
    · cases taken
      have stopped : Changes config u .closeClient u
          { u with watchdogStopped := true, unload := .stopping } := Change.note.path
      have closes : Effects config.coordinated True u.client (u.client.close.getD u.client) := by
        cases closed : u.client.close with
        | none => exact refl
        | some client =>
          simp only [State.close] at closed
          split at closed
          · cases closed
          · rename_i opened
            cases closed
            exact (Effect.close (by simpa using opened)).path
      exact stopped.tail (.client closes)
    · cases taken
  | unloaded =>
    simp only [Coordinator.step] at taken
    split at taken
    · cases taken
      exact Change.note.path
    · cases taken

end Decomposition

namespace Coordinator

variable (u : Coordinator) (k : Nat)

/-- What publishing a report leaves behind. -/
@[simp] theorem publish_fields (status : DeviceStatus) :
    (u.publish status).client = u.client ∧ (u.publish status).pending = u.pending ∧
      (u.publish status).sessionId = u.sessionId ∧ (u.publish status).closing = u.closing ∧
      (u.publish status).orders = u.orders ∧ (u.publish status).orderCount = u.orderCount ∧
      (u.publish status).commandLock = u.commandLock ∧
      (u.publish status).log = u.log ++ [.published status] ∧
      (u.publish status).data = some status.data ∧
      (u.publish status).previousOn = status.power ∧
      (u.publish status).receiveSequence = status.receiveSequence ∧
      (u.publish status).receivedMonotonic = some status.receivedMonotonic ∧
      (u.publish status).lastOff =
        if status.power = some false ∧ u.previousOn ≠ some false then u.client.now
        else u.lastOff := by
  simp only [publish, apply_ite Coordinator.client, apply_ite Coordinator.pending,
    apply_ite Coordinator.sessionId, apply_ite Coordinator.closing, apply_ite Coordinator.orders,
    apply_ite Coordinator.orderCount, apply_ite Coordinator.commandLock, apply_ite Coordinator.log,
    apply_ite Coordinator.data, apply_ite Coordinator.previousOn,
    apply_ite Coordinator.receiveSequence, apply_ite Coordinator.receivedMonotonic,
    apply_ite Coordinator.lastOff, ite_self, and_self]

/-- A new session starts over; nothing else is touched. -/
@[simp] theorem enterSession_fields (status : DeviceStatus) :
    (u.enterSession status).client = u.client ∧ (u.enterSession status).pending = u.pending ∧
      (u.enterSession status).sessionId = some status.sessionId ∧
      (u.enterSession status).closing = u.closing ∧ (u.enterSession status).orders = u.orders ∧
      (u.enterSession status).orderCount = u.orderCount ∧
      (u.enterSession status).commandLock = u.commandLock ∧
      (u.enterSession status).log = u.log := by
  simp only [enterSession]
  split
  · simp
  · rename_i same
    simpa using (Decidable.not_not.mp same).symm

/-- A report of a session the coordinator already is in, or an ignored one, is either
published or leaves no trace. -/
theorem onStatus_eq (status : DeviceStatus) :
    u.onStatus status =
      if u.accepts status then (u.enterSession status).publish status else u := by
  have still : (u.enterSession status).outdated status → u.enterSession status = u := by
    intro late
    by_cases fresh : some status.sessionId ≠ u.sessionId
    · have current : (u.enterSession status).outdated status = false := by
        simp only [enterSession, if_pos fresh, outdated, Bool.or_false, decide_eq_false_iff_not]
        omega
      simp [current] at late
    · simp only [enterSession, if_neg fresh]
  rw [onStatus, accepts]
  by_cases ignored : u.ignores status
  · simp [ignored]
  by_cases late : (u.enterSession status).outdated status
  · rw [if_neg ignored, if_pos late, if_neg (by simp [late]), still late]
  · simp [ignored, late]

/-- A callback touches no command. -/
@[simp] theorem onStatus_fields (status : DeviceStatus) :
    (u.onStatus status).client = u.client ∧ (u.onStatus status).pending = u.pending ∧
      (u.onStatus status).closing = u.closing ∧ (u.onStatus status).orders = u.orders ∧
      (u.onStatus status).orderCount = u.orderCount ∧
      (u.onStatus status).commandLock = u.commandLock := by
  rw [onStatus_eq]
  split <;> simp

@[simp] theorem onDisconnect_fields (session : Nat) :
    (u.onDisconnect session).client = u.client ∧ (u.onDisconnect session).pending = u.pending ∧
      (u.onDisconnect session).closing = u.closing ∧ (u.onDisconnect session).orders = u.orders ∧
      (u.onDisconnect session).orderCount = u.orderCount ∧
      (u.onDisconnect session).commandLock = u.commandLock ∧
      (u.onDisconnect session).log = u.log := by
  simp only [onDisconnect]
  split <;> simp

@[simp] theorem observe_fields (entry : Callback) :
    (u.observe entry).client = { u.client with dispatching := none } ∧
      (u.observe entry).pending = u.pending ∧ (u.observe entry).closing = u.closing ∧
      (u.observe entry).orders = u.orders ∧ (u.observe entry).orderCount = u.orderCount ∧
      (u.observe entry).commandLock = u.commandLock := by
  simp only [observe, record]
  split <;> simp

@[simp] theorem confirmReport_fields (order : Order) (status : DeviceStatus) :
    (u.confirmReport order status).client = u.client ∧
      (u.confirmReport order status).pending = Function.update u.pending order.key none ∧
      (u.confirmReport order status).closing = u.closing ∧
      (u.confirmReport order status).orders = u.orders ∧
      (u.confirmReport order status).orderCount = u.orderCount ∧
      (u.confirmReport order status).commandLock = u.commandLock := by
  simp only [confirmReport]
  split <;> simp

@[simp] theorem conclude_fields (verdict : Verdict) :
    (u.conclude k verdict).client = u.client ∧ (u.conclude k verdict).closing = u.closing ∧
      (u.conclude k verdict).orders =
        Function.update u.orders k { u.orders k with phase := .done verdict.error } ∧
      (u.conclude k verdict).orderCount = u.orderCount ∧
      (u.conclude k verdict).commandLock = none := by
  cases verdict <;> simp [conclude, setFeedback]

@[simp] theorem watch_fields :
    u.watch.client = u.client ∧ u.watch.closing = u.closing ∧ u.watch.orders = u.orders ∧
      u.watch.orderCount = u.orderCount ∧ u.watch.commandLock = u.commandLock ∧
      u.watch.log = u.log := by
  simp only [watch]
  split <;> simp

end Coordinator

/-- The client once the callback of this notification has returned. -/
def State.notified (s : State) (entry : Callback) (rest : List Callback) : State :=
  { s with callbacks := rest, dispatching := none, log := s.log ++ [.dispatched entry] }

theorem State.dispatch_spec {s after : State} (taken : s.dispatch = some after) :
    ∃ entry rest, s.callbacks = entry :: rest ∧ s.dispatching = none ∧
      after = { s.notified entry rest with dispatching := some entry } := by
  simp only [State.dispatch] at taken
  split at taken
  · cases taken
  · rename_i entry rest next
    split at taken
    · cases taken
    · rename_i free
      cases taken
      exact ⟨entry, rest, next, by simpa using (not_or.mp free).1, rfl⟩

/-- What an admitted command has passed. -/
structure Admitted (u : Coordinator) (order : Order) : Prop where
  opened : u.closing = false
  connected : u.client.connected
  fresh : order.stopping = false → u.statusStale = false
  unprotected : ∀ pending, u.pending order.key = some pending → u.client.now < pending.deadline →
    pending.wanted ≠ order.wanted
  rested : order.starting → u.restartDelayRemaining = 0

private theorem admitted_unless {check : Prop} [Decidable check]
    {refusal rest : Coordinator.Admission} (other : refusal ≠ .admitted) :
    (if check then refusal else rest) = .admitted ↔ ¬ check ∧ rest = .admitted := by
  by_cases holds : check <;> simp [holds, other]

theorem Coordinator.admission_admitted {u : Coordinator} {order : Order}
    (admitted : u.admission order = .admitted) : Admitted u order := by
  simp only [Coordinator.admission, admitted_unless, ne_eq, reduceCtorEq, not_false_eq_true]
    at admitted
  obtain ⟨closing, unconnected, -, stale, -, -, protection, -, tired, -⟩ := admitted
  refine ⟨by simpa using closing, by simpa using unconnected, by simpa using stale, ?_, ?_⟩
  · intro pending recorded live same
    simp [recorded, live, same] at protection
  · intro starting
    simpa [starting] using tired

/-- What every change keeps about the client. -/
theorem Change.attached {config : Config} {origin u after : Coordinator}
    {label : Coordinator.Label} (change : Change config origin label u after)
    (started : Attached config origin) (attached : Attached config u) : Attached config after := by
  have moved : ∀ {overflow : Prop} {client : State},
      Effects config.coordinated overflow u.client client → after.client = client →
      Attached config after := fun effects same => by
    obtain ⟨coherent, reporting⟩ := effects.attached attached
    exact ⟨same ▸ coherent, same ▸ reporting⟩
  have kept : after.client = u.client → Attached config after := fun same =>
    ⟨same ▸ attached.coherent, same ▸ attached.reporting⟩
  cases change with
  | client effects =>
    obtain ⟨coherent, reporting⟩ := effects.attached attached
    exact ⟨coherent, reporting⟩
  | @observe entry client dispatched taken running =>
    have step : Local.step config.coordinated origin.client .dispatch = some client := taken
    have effects := step_effects started.coherent.shape started.coherent.epoch step
    exact moved (effects.tail .idle) (Coordinator.observe_fields { origin with client } entry).1
  | @begin u k waiting free admitted =>
    have effects : Effects config.coordinated True u.client _ :=
      call_effects (u.orders k).order.request
    exact moved effects rfl
  | conclude calling ending later => exact kept (Coordinator.conclude_fields ..).1
  | mark calling => exact kept rfl
  | finish waiting => exact kept rfl
  | order opened valid => exact kept rfl
  | watch => exact kept (Coordinator.watch_fields _).1
  | note => exact kept rfl
  | close => exact kept rfl

/-- The invariant rule of the coordinator: what every change of an allowed step keeps,
with a client that is as it should be, holds in every run. -/
theorem Run.changes {config : Config} {meets : Coordinator → Coordinator.Label → Prop}
    (holds : Coordinator → Prop)
    (initially : ∀ now wall localPower, 0 ≤ wall →
      holds (Coordinator.start config now wall localPower))
    (kept : ∀ origin label u after, Attached config origin → holds origin → meets origin label →
      Attached config u → holds u → Change config origin label u after → holds after)
    {u : Coordinator} (run : Async.Run (coordinator config) meets u) :
    Attached config u ∧ holds u := by
  refine run.invariant (fun u => Attached config u ∧ holds u) ?_ ?_
  · rintro u ⟨now, wall, localPower, epoch, rfl⟩
    exact ⟨⟨Coherent.initial epoch, Reporting.initial config now wall⟩,
      initially now wall localPower epoch⟩
  · rintro origin label after - ⟨attached, held⟩ met taken
    have path := step_changes attached taken
    clear taken
    induction path with
    | refl => exact ⟨attached, held⟩
    | tail _ change ih =>
      exact ⟨change.attached attached ih.1, kept _ _ _ _ attached held met ih.1 ih.2 change⟩

def exampleCoordinator : Coordinator := Coordinator.start exampleConfig 0 0 false

/-- One read of these bytes, with the callbacks of the reports in it. -/
def hear (bytes : Bytes) (count : Nat) : List Coordinator.Label :=
  [.client (.feed 1 bytes), .client (.reader 1 .ready)] ++ List.replicate count .dispatch

end AlorairLite.Local
