import AlorairLite.Entities.Displays

/-! The entities in front of the local coordinator: every command of a run is one that an entity asked
for, and its byte is the one the appliance will report. -/

namespace AlorairLite.Entities

open Async Local

def pushedDeed (u : Coordinator) : Action → Option (Deed Coordinator Coordinator.Label)
  | .service service =>
    match service.perform true u.lastAutoHumidity with
    | .error _ => some .idle
    | .ok .refresh => some (.step .refresh)
    | .ok (.command command) => some <| .step <|
      .command command.method command.args command.key command.wanted command.requiresOn
  | .added previous => some <| .edit { u with
      lastAutoHumidity := addedToHass true (localMode u) previous u.lastAutoHumidity }

/-- The steps of the coordinator that no entity asks for. -/
def unprompted : Coordinator.Label → Bool
  | .command _ _ _ _ _ => false
  | _ => true

def pushedFront : Front Coordinator Coordinator.Label Action where
  free := unprompted
  deed := pushedDeed

/-- The local coordinator whose commands are those of its entities. -/
def pushed (config : Config) : System (Fronted Coordinator Action) (FrontStep Coordinator.Label Action) :=
  pushedFront.system (coordinator config)

section Targets

variable {config : Config} {overflow : Prop} {s after : State} {humidity : Int} {u : Coordinator} {status : DeviceStatus}

/-- The reports of the client show targets that the appliance offers. -/
def Offered (s : State) : Prop :=
  ∀ sid, ∀ status ∈ reports sid s.log, ∀ target, status.targetHumidity = some target → target = 20 ∨ Auto target

theorem offered_decoded {frame : Frame} {decoded : ObservedStatus} (decodes : observedStatus frame = .ok decoded)
    (shown : decoded.targetHumidity = some humidity) : humidity = 20 ∨ Auto humidity := by
  obtain ⟨-, target, -⟩ := observedStatus_settings decodes
  exact (humidityTarget_eq_some.mp (target.symm.trans shown)).2

theorem Offered.reportless (offered : Offered s) {events : List Event} (log : after.log = s.log ++ events)
    (silent : ∀ event ∈ events, event.reportless) : Offered after := by
  intro sid status member
  rw [log, reports_append, reports_reportless silent, List.append_nil] at member
  exact offered sid status member

theorem Offered.effect (offered : Offered s) (effect : Effect config overflow s after) : Offered after := by
  obtain ⟨events, log, appends⟩ := effect.appends
  cases appends with
  | quiet quiet =>
    apply offered.reportless log
    intro event member
    cases event with
    | frame sid raw frame shown => exact ((quiet _ member).2 sid raw frame shown rfl).elim
    | _ => rfl
  | @frame sid raw frame rest shown known handling next report =>
    intro other status member target shows
    rw [log, reports_append] at member
    rcases List.mem_append.mp member with before | new
    · exact offered other status before target shows
    · obtain ⟨event, listed, same⟩ := List.mem_filterMap.mp new
      cases List.mem_singleton.mp listed
      cases shown with
      | none => cases same
      | some decodes =>
        obtain ⟨-, decoded, decodes, rfl⟩ := report _ rfl
        simp only [Event.reportOn] at same
        split at same
        · cases same
          exact offered_decoded decodes shows
        · cases same
  | reply phase sent target automatic =>
    exact offered.reportless log (by simp)
  | command phase sent target call opcode data monotonic =>
    exact offered.reportless log (by simp)

theorem Offered.effects (offered : Offered s) (effects : Effects config overflow s after) : Offered after := by
  induction effects with
  | refl => exact offered
  | tail _ effect ih => exact ih.effect effect

/-- A report leaves a target of the automatic mode. -/
theorem onStatus_auto (auto : Auto u.lastAutoHumidity)
    (shown : ∀ target, status.targetHumidity = some target → target = 20 ∨ Auto target) :
    Auto (u.onStatus status).lastAutoHumidity := by
  rw [Coordinator.onStatus_eq]
  split
  · have entered : (u.enterSession status).lastAutoHumidity = u.lastAutoHumidity := by
      unfold Coordinator.enterSession
      split <;> rfl
    simp only [Coordinator.publish, apply_ite Coordinator.lastAutoHumidity, ite_self, entered]
    split
    · rename_i target found
      split
      · rename_i least
        rcases shown target found with rfl | auto
        · exact absurd least (by decide)
        · exact auto
      · exact auto
    · exact auto
  · exact auto

end Targets

section Steps

variable {config : Config} {origin u after : Coordinator} {label : Coordinator.Label}

/-- The notification that is taken next is of a report that was decoded. -/
theorem queued_reported {client : State} {entry : Callback} {status : DeviceStatus} (publishing : Publishing u)
    (moved : u.client.dispatch = some client) (running : client.dispatching = some entry)
    (notice : entry.notice = .status status) : status ∈ reports entry.session u.client.log := by
  obtain ⟨head, rest, next, free, rfl⟩ := State.dispatch_spec moved
  cases running
  refine (publishing.awaited.among entry.session).subset (List.mem_append_right _ ?_)
  rw [awaiting, free, next]
  simp [notified_cons, notice]

/-- What the coordinator keeps with its entities in front of it. -/
structure Heeded (config : Config) (u : Coordinator) : Prop where
  attached : Attached config u
  publishing : Publishing u
  linked : Linked u
  offered : Offered u.client
  auto : Auto u.lastAutoHumidity

theorem observe_auto {client : State} {entry : Callback} (heeded : Heeded config u)
    (moved : u.client.dispatch = some client) (running : client.dispatching = some entry) :
    Auto (({ u with client } : Coordinator).observe entry).lastAutoHumidity := by
  simp only [Coordinator.observe, Coordinator.record]
  split
  · rename_i status notice
    have known := queued_reported heeded.publishing moved running notice
    exact onStatus_auto heeded.auto fun target shows => heeded.offered _ status known target shows
  · simp only [Coordinator.onDisconnect]
    split <;> exact heeded.auto

theorem conclude_auto {k : Nat} {verdict : Verdict} (heeded : Heeded config u) :
    Auto (u.conclude k verdict).lastAutoHumidity := by
  cases verdict with
  | reported status =>
    simp only [Coordinator.conclude, Coordinator.confirmReport]
    split
    · exact heeded.auto
    · rename_i latest shown
      have known := (heeded.attached.reporting.lastStatus shown).2.2
      exact onStatus_auto heeded.auto fun target shows => heeded.offered _ latest known target shows
  | _ => exact heeded.auto

theorem Heeded.change (started : Heeded config origin) (heeded : Heeded config u)
    (change : Change config origin label u after) : Heeded config after := by
  have kept : Offered after.client → Auto after.lastAutoHumidity → Heeded config after := fun offered auto =>
    ⟨change.attached started.attached heeded.attached,
      change.publishing started.attached started.publishing heeded.attached heeded.publishing,
      change.linked started.linked heeded.linked, offered, auto⟩
  have aside : after.client = u.client → after.lastAutoHumidity = u.lastAutoHumidity → Heeded config after :=
    fun client same => kept (client ▸ heeded.offered) (same ▸ heeded.auto)
  cases change with
  | client effects => exact kept (heeded.offered.effects effects) heeded.auto
  | @observe entry client dispatched moved running =>
    refine kept ?_ (observe_auto started moved running)
    rw [(Coordinator.observe_fields { origin with client } entry).1]
    obtain ⟨head, rest, next, free, rfl⟩ := State.dispatch_spec moved
    have silent : ∀ event ∈ [Event.dispatched head], event.reportless := by simp
    exact started.offered.reportless rfl silent
  | @begin u k waiting free admitted =>
    have effects : Effects config.coordinated True u.client (u.beginCall config k).client :=
      call_effects (u.orders k).order.request
    exact kept (heeded.offered.effects effects) heeded.auto
  | @conclude u k c verdict calling ending later =>
    exact kept ((u.conclude_fields k verdict).1 ▸ heeded.offered) (conclude_auto heeded)
  | mark calling => exact aside rfl rfl
  | finish waiting => exact aside rfl rfl
  | order opened valid => exact aside rfl rfl
  | @watch u =>
    refine aside u.watch_fields.1 ?_
    simp only [Coordinator.watch]
    split <;> rfl
  | note => exact aside rfl rfl
  | close => exact aside rfl rfl

theorem Heeded.step (heeded : Heeded config u) (taken : Coordinator.step config u label = some after) :
    Heeded config after := by
  have path := step_changes heeded.attached taken
  clear taken
  induction path with
  | refl => exact heeded
  | tail _ change ih => exact heeded.change ih change

theorem Heeded.start (now wall : ℚ) (localPower : Bool) (epoch : 0 ≤ wall) :
    Heeded config (Coordinator.start config now wall localPower) := by
  have begun : Reachable (coordinator config) (Coordinator.start config now wall localPower) :=
    .start ⟨now, wall, localPower, epoch, rfl⟩
  obtain ⟨attached, publishing⟩ := Run.publishing begun
  refine ⟨attached, publishing, (Run.linked begun).2, ?_, auto_initial⟩
  exact fun sid status member => by cases member

/-- Another target of the automatic mode. -/
theorem Heeded.retarget {lastAutoHumidity : Int} (heeded : Heeded config u) (auto : Auto lastAutoHumidity) :
    Heeded config { u with lastAutoHumidity } where
  attached := ⟨heeded.attached.coherent, heeded.attached.reporting⟩
  publishing := heeded.publishing.aside rfl rfl rfl rfl rfl id
  linked := heeded.linked.aside rfl rfl
  offered := heeded.offered
  auto := auto

/-- The same commands, perhaps further on. -/
structure SameOrders (u after : Coordinator) : Prop where
  count : after.orderCount = u.orderCount
  order : ∀ k, (after.orders k).order = (u.orders k).order

theorem SameOrders.refl (u : Coordinator) : SameOrders u u := ⟨rfl, fun _ => rfl⟩

theorem SameOrders.trans {middle : Coordinator} (earlier : SameOrders u middle) (later : SameOrders middle after) :
    SameOrders u after :=
  ⟨later.count.trans earlier.count, fun k => (later.order k).trans (earlier.order k)⟩

theorem SameOrders.aside (count : after.orderCount = u.orderCount) (orders : after.orders = u.orders) :
    SameOrders u after := ⟨count, fun k => by rw [orders]⟩

/-- The task of one command goes on. -/
theorem SameOrders.one {k : Nat} {task : OrderTask} (count : after.orderCount = u.orderCount)
    (orders : after.orders = Function.update u.orders k task) (order : task.order = (u.orders k).order) :
    SameOrders u after := by
  refine ⟨count, fun other => ?_⟩
  rw [orders]
  by_cases same : other = k
  · subst same
    rw [Function.update_self, order]
  · rw [Function.update_of_ne same]

theorem afterCall_orders (u : Coordinator) (k c : Nat) : SameOrders u (u.afterCall k c) := by
  unfold Coordinator.afterCall
  split
  · rename_i outcome ended
    have fields := u.conclude_fields k ((u.orders k).verdict outcome)
    exact .one fields.2.2.2.1 fields.2.2.1 rfl
  · exact .refl u

theorem cancelOrder_orders {k : Nat} {expired : Bool} (taken : u.cancelOrder k expired = some after) :
    SameOrders u after := by
  unfold Coordinator.cancelOrder at taken
  split at taken
  · split at taken
    · cases taken
    · cases taken
      exact .one rfl rfl rfl
  · split at taken
    · cases taken
    · obtain ⟨client, -, rfl⟩ := Option.map_eq_some_iff.mp taken
      have marked : SameOrders u { u.markCancelled k expired with client } := .one rfl rfl rfl
      exact marked.trans (afterCall_orders _ k _)
  · cases taken

/-- The commands are those that were there, unless the label is one. -/
theorem step_orders (taken : Coordinator.step config u label = some after) (other : unprompted label) :
    SameOrders u after := by
  cases label with
  | command method args key wanted requiresOn => cases other
  | client label =>
    simp only [Coordinator.step] at taken
    split at taken
    · obtain ⟨client, -, rfl⟩ := Option.map_eq_some_iff.mp taken
      exact .aside rfl rfl
    · cases taken
  | dispatch =>
    obtain ⟨client, -, taken⟩ := Option.bind_eq_some_iff.mp taken
    obtain ⟨entry, -, rfl⟩ := Option.map_eq_some_iff.mp taken
    have fields := Coordinator.observe_fields { u with client } entry
    exact .aside fields.2.2.2.2.1 fields.2.2.2.1
  | setOption enabled | refresh | unload =>
    cases taken
    exact .aside rfl rfl
  | proceed k =>
    simp only [Coordinator.step] at taken
    split at taken
    · cases taken
      unfold Coordinator.runCommand
      split
      · exact .one rfl rfl rfl
      · exact .one rfl rfl rfl
      · have fields := u.beginCall_fields config k
        have begun : SameOrders u (u.beginCall config k) := .one fields.2.2.1 fields.2.1 rfl
        exact begun.trans (afterCall_orders _ k _)
    · cases taken
  | resume k =>
    simp only [Coordinator.step, Coordinator.resumeOrder] at taken
    split at taken
    · obtain ⟨client, -, rfl⟩ := Option.map_eq_some_iff.mp taken
      have moved : SameOrders u { u with client } := .aside rfl rfl
      exact moved.trans (afterCall_orders _ k _)
    · cases taken
  | expire k | cancel k => exact cancelOrder_orders taken
  | watch =>
    simp only [Coordinator.step] at taken
    split at taken
    · cases taken
    · cases taken
      exact .aside u.watch_fields.2.2.2.1 u.watch_fields.2.2.1
  | closeClient =>
    simp only [Coordinator.step, Coordinator.closeClient] at taken
    split at taken
    · cases taken
      exact .aside rfl rfl
    · cases taken
  | unloaded =>
    simp only [Coordinator.step] at taken
    split at taken
    · cases taken
      exact .aside rfl rfl
    · cases taken

end Steps

/-- A command that an entity asked for, in the state it saw. -/
structure Prompted (journal : List (Action × Coordinator)) (k : Nat) (order : Order) (service : Service)
    (seen : Coordinator) (command : Command) : Prop where
  listed : (.service service, seen) ∈ journal
  turn : seen.orderCount = k
  asks : service.perform true seen.lastAutoHumidity = .ok (.command command)
  accepted : validateCommand command.method command.args command.key command.wanted command.requiresOn = .ok order

structure Pushed (config : Config) (state : Fronted Coordinator Action) : Prop where
  heeded : Heeded config state.inner
  reached : Reachable (client config.coordinated) state.inner.client
  seen : ∀ action seen, (action, seen) ∈ state.journal → Auto seen.lastAutoHumidity
  prompted : ∀ k < state.inner.orderCount, ∃ service seen command,
    Prompted state.journal k (state.inner.orders k).order service seen command

section Runs

variable {config : Config} {state : Fronted Coordinator Action}

theorem Prompted.grow {journal : List (Action × Coordinator)} {k : Nat} {order : Order} {service : Service}
    {seen : Coordinator} {command : Command} (prompted : Prompted journal k order service seen command)
    (later : Action × Coordinator) : Prompted (journal ++ [later]) k order service seen command :=
  { prompted with listed := List.mem_append_left _ prompted.listed }

/-- The client below a step of the coordinator. -/
theorem Pushed.client {label : Coordinator.Label} {after : Coordinator} (pushed : Pushed config state)
    (taken : Coordinator.step config state.inner label = some after) :
    Reachable (Local.client config.coordinated) after.client := by
  obtain ⟨labels, followed⟩ := step_moves (fun k c => pushed.heeded.linked.known pushed.heeded.attached) taken
  exact pushed.reached.follow (fun _ _ => trivial) followed

theorem Pushed.own {label : Coordinator.Label} {after : Coordinator} (pushed : Pushed config state)
    (free : unprompted label) (taken : Coordinator.step config state.inner label = some after) :
    Pushed config { state with inner := after } := by
  have same := step_orders taken free
  refine ⟨pushed.heeded.step taken, pushed.client taken, pushed.seen, fun k known => ?_⟩
  rw [same.order k]
  exact pushed.prompted k (same.count ▸ known)

/-- An action is written down with the state it saw. -/
theorem Pushed.note {action : Action} {seen : Coordinator} (pushed : Pushed config state)
    (auto : Auto seen.lastAutoHumidity) : Pushed config { state with journal := state.journal ++ [(action, seen)] } := by
  refine ⟨pushed.heeded, pushed.reached, ?_, fun k known => ?_⟩
  · intro other before member
    rcases List.mem_append.mp member with old | new
    · exact pushed.seen other before old
    · cases List.mem_singleton.mp new
      exact auto
  · obtain ⟨service, seen, command, prompted⟩ := pushed.prompted k known
    exact ⟨service, seen, command, prompted.grow _⟩

theorem Pushed.retarget {lastAutoHumidity : Int} (pushed : Pushed config state) (auto : Auto lastAutoHumidity) :
    Pushed config { state with inner := { state.inner with lastAutoHumidity } } :=
  ⟨pushed.heeded.retarget auto, pushed.reached, pushed.seen, pushed.prompted⟩

theorem Pushed.command {service : Service} {command : Command} (pushed : Pushed config state)
    (asks : service.perform true state.inner.lastAutoHumidity = .ok (.command command)) :
    Pushed config ⟨state.inner.command (validateCommand command.method command.args command.key command.wanted
      command.requiresOn), state.journal ++ [(.service service, state.inner)]⟩ := by
  have noted : Pushed config ⟨state.inner, state.journal ++ [(.service service, state.inner)]⟩ :=
    pushed.note pushed.heeded.auto
  unfold Coordinator.command
  split
  · exact noted
  rename_i order accepted
  split
  · exact noted
  rename_i opened
  have change : Change config state.inner (.refresh) state.inner _ :=
    .order (by simpa using opened) (validateCommand_valid accepted)
  refine ⟨pushed.heeded.change pushed.heeded change, pushed.reached, noted.seen, fun k known => ?_⟩
  by_cases last : k = state.inner.orderCount
  · subst last
    dsimp only
    rw [Function.update_self]
    exact ⟨service, state.inner, command, List.mem_append_right _ (List.mem_singleton_self _), rfl, asks, accepted⟩
  · dsimp only
    rw [Function.update_of_ne last]
    exact noted.prompted k (Nat.lt_of_le_of_ne (Nat.lt_succ_iff.mp known) last)

theorem Pushed.of_run (run : Reachable (pushed config) state) : Pushed config state := by
  apply Front.invariant (Pushed config) ?_ ?_ ?_ run
  · rintro u ⟨now, wall, localPower, epoch, rfl⟩
    refine ⟨.start now wall localPower epoch, .start ⟨now, wall, epoch, rfl⟩, ?_, ?_⟩
    · exact fun action seen member => by cases member
    · exact fun k impossible => absurd impossible (Nat.not_lt_zero k)
  · exact fun state label after pushed free taken => pushed.own free taken
  · intro state action deed after pushed means applied
    have auto := pushed.heeded.auto
    cases action with
    | added previous =>
      cases means
      cases applied
      exact (pushed.retarget (addedToHass_auto auto)).note auto
    | service service =>
      simp only [pushedFront, pushedDeed] at means
      split at means
      · cases means
        cases applied
        exact pushed.note auto
      · cases means
        have taken : Coordinator.step config state.inner .refresh = some after := applied
        exact (pushed.own rfl taken).note auto
      · rename_i command asks
        cases means
        cases applied
        exact pushed.command asks

/-- What the client writes for the command under way. -/
theorem Pushed.written {k c : Nat} {byte : UInt8} (pushed : Pushed config state)
    (calling : (state.inner.orders k).phase = .calling c) (wire : (state.inner.orders k).order.Wire byte)
    {write : Write} (member : .wrote write ∈ state.inner.client.log) (call : write.call = some c) :
    write.opcode = (state.inner.orders k).order.opcode ∧ write.data = [byte] := by
  obtain ⟨coherent, -, guarded⟩ := reachable_guarded pushed.reached
  obtain ⟨past, future, split, held⟩ := guarded.of_mem member
  obtain ⟨request, command, called, parsed, opcode, data, -⟩ := (held write rfl).command c call
  obtain ⟨session, ours⟩ := pushed.heeded.linked.called k c calling
  have first : .called c request (some write.session) ∈ state.inner.client.log := by
    rw [split]
    exact List.mem_append_left _ called
  obtain rfl := (coherent.callers c).once _ _ _ _ first ours
  have same := Except.ok.inj (wire.command.symm.trans parsed)
  rw [opcode, data, ← same]
  exact ⟨rfl, rfl⟩

/-- Of what a service call can ask for, the entities let through what the coordinator takes. Every
command of the coordinator is one that an entity asked for in the state it saw; while its client call
is under way, what the client writes for it is the byte with which a report shows the wanted value. -/
theorem order_prompted (run : Reachable (Entities.pushed config) state) :
    (∀ service seen command, (.service service, seen) ∈ state.journal →
      service.perform false seen.lastAutoHumidity = .ok (.command command) →
        (service.perform true seen.lastAutoHumidity = .ok (.command command) ↔ ∃ order, validateCommand
          command.method command.args command.key command.wanted command.requiresOn = .ok order)) ∧
      ∀ k < state.inner.orderCount, ∃ service seen command byte,
        Prompted state.journal k (state.inner.orders k).order service seen command ∧
          (state.inner.orders k).order.Wire byte ∧
            ∀ c, (state.inner.orders k).phase = .calling c → ∀ write, .wrote write ∈ state.inner.client.log →
              write.call = some c → write.opcode = (state.inner.orders k).order.opcode ∧ write.data = [byte] := by
  have pushed := Pushed.of_run run
  constructor
  · intro service seen command listed asks
    exact local_agrees (pushed.seen _ seen listed) asks
  · intro k known
    obtain ⟨service, seen, command, prompted⟩ := pushed.prompted k known
    obtain ⟨byte, wire⟩ := (validateCommand_valid prompted.accepted).wire
    exact ⟨service, seen, command, byte, prompted, wire, fun c calling write member call =>
      pushed.written calling wire member call⟩

/-- The humidifier is restored behind the first report and set to the automatic mode. -/
def restoredMode : List (FrontStep Coordinator.Label Action) :=
  connectOn.map .own ++
    [.act (.added (some [("last_auto_humidity", .int 45)])), .act (.service (.setMode "auto")),
      .own (.proceed 0)]

theorem order_prompted_example : ∃ state,
    (Entities.pushed exampleConfig).follow { inner := exampleCoordinator } restoredMode = some state ∧
      (state.inner.orders 0).phase = .calling 0 ∧ (state.inner.orders 0).order.wanted = .int 45 ∧
        ∃ service seen command byte, Prompted state.journal 0 (state.inner.orders 0).order service seen command ∧
          (state.inner.orders 0).order.Wire byte := by
  have shown : (((Entities.pushed exampleConfig).follow { inner := exampleCoordinator } restoredMode).map fun state =>
      decide ((state.inner.orders 0).phase = .calling 0 ∧ (state.inner.orders 0).order.wanted = .int 45 ∧
        0 < state.inner.orderCount)) = some true := by decide +kernel
  obtain ⟨state, followed, facts⟩ := Option.map_eq_some_iff.mp shown
  obtain ⟨calling, wanted, known⟩ := of_decide_eq_true facts
  have begun : Reachable (Entities.pushed exampleConfig) { inner := exampleCoordinator } :=
    .start ⟨⟨0, 0, false, le_rfl, rfl⟩, rfl⟩
  obtain ⟨service, seen, command, byte, prompted, wire, -⟩ :=
    (order_prompted (begun.follow (fun _ _ => trivial) followed)).2 0 known
  exact ⟨state, followed, calling, wanted, service, seen, command, byte, prompted, wire⟩

end Runs

end AlorairLite.Entities
