import AlorairLite.Async.Shield
import AlorairLite.Local.Projection

/-! Unloading the local coordinator: the set of command tasks, the tuple of it that
`_finish_unload` waits for, and the shielded callers of both methods. -/

namespace AlorairLite.Local

open Async (Reachable Onward Shield Shielded Drains)

/-- The coordinator with `_command_tasks` and the `active` tuple of `_finish_unload`. -/
structure Unloading where
  coordinator : Coordinator
  commandTasks : List Nat := []
  active : Option (List Nat) := none
  /-- How often `async_prepare_unload` was called. -/
  unloadCount : Nat := 0

inductive UnloadLabel where
  | coordinator (label : Coordinator.Label)
  /-- The first step of `_finish_unload`. -/
  | snapshot
  /-- The done-callback of a command task. -/
  | discard (order : Nat)

namespace Unloading

/-- `gather` has returned: the rest of `_finish_unload` up to the end of the client. -/
def closeClient (w : Unloading) : Option Unloading :=
  w.active.bind fun active =>
    if w.coordinator.unload = .draining ∧ ∀ k ∈ active, (w.coordinator.orders k).phase.isDone then
      some { w with coordinator := { w.coordinator with
        watchdogStopped := true, unload := .stopping
        client := w.coordinator.client.close.getD w.coordinator.client } }
    else none

/-- A command task joins the set when it is created. -/
def follow (w : Unloading) (after : Coordinator) : Unloading :=
  { w with
    coordinator := after
    commandTasks := w.commandTasks ++
      List.range' w.coordinator.orderCount (after.orderCount - w.coordinator.orderCount) }

def step (config : Config) (w : Unloading) : UnloadLabel → Option Unloading
  | .coordinator .closeClient => w.closeClient
  | .coordinator .unload => (Coordinator.step config w.coordinator .unload).map fun after =>
    { w.follow after with unloadCount := w.unloadCount + 1 }
  | .coordinator label => (Coordinator.step config w.coordinator label).map w.follow
  | .snapshot =>
    if w.coordinator.unload = .draining ∧ w.active = none then
      some { w with active := some w.commandTasks }
    else none
  | .discard k =>
    if (w.coordinator.orders k).phase.isDone then
      some { w with commandTasks := w.commandTasks.filter (· ≠ k) }
    else none

end Unloading

def unloading (config : Config) : Async.System Unloading UnloadLabel where
  initial w := ∃ u, (coordinator config).initial u ∧ w = { coordinator := u }
  step := Unloading.step config

/-- Who waits behind a shield: for a command, or for the end of the unload. -/
inductive Requester where
  | command (order : Nat)
  | unload (call : Nat)
deriving DecidableEq

/-- The callers of both methods. `async_prepare_unload` catches a cancellation, takes it
back and waits again. -/
def requesters : Shield Unloading UnloadLabel Requester where
  enters w
    | .coordinator (.command method args key wanted requiresOn) =>
      match validateCommand method args key wanted requiresOn with
      | .error _ => none
      | .ok _ => if w.coordinator.closing then none else some (.command w.coordinator.orderCount)
    | .coordinator .unload => some (.unload w.unloadCount)
    | _ => none
  finished w
    | .command k => (w.coordinator.orders k).phase.isDone
    | .unload _ => w.coordinator.unload = .done
  persists
    | .command _ => false
    | .unload _ => true

def attended (config : Config) : Async.System (Shielded Unloading Requester)
    (Async.ShieldLabel UnloadLabel Requester) := requesters.system (unloading config)

/-- A client call of a command begins. -/
def Action.isCall : Action → Bool
  | .issued _ _ _ _ => true
  | _ => false

def Event.isWrite : Event → Bool
  | .wrote _ => true
  | _ => false

/-- The control methods of the client that were called so far. -/
def Coordinator.calls (u : Coordinator) : List Action := u.log.filter Action.isCall

/-- The frames the client has written so far. -/
def Coordinator.writes (u : Coordinator) : List Event := u.client.log.filter Event.isWrite

theorem Effect.sealed {config : Config} {overflow : Prop} {s after : State}
    (effect : Effect config overflow s after) (closing : s.closing) :
    after.closing ∧ after.log.filter Event.isWrite = s.log.filter Event.isWrite := by
  constructor
  · cases effect.reportage with
    | same events kept => rw [kept.closing, closing]
    | accept idle free =>
      rw [closing] at idle
      cases idle
    | release current left =>
      rw [State.release, if_pos current]
      exact closing
    | close events closed log silent sessions now => exact closed
    | chunk reading => exact closing
    | skip next => exact closing
    | report known handling next built kept =>
      rw [kept.closing]
      exact closing
  · have shut : ∀ {sid opcode data sender after}, s.sendTurn config sid opcode data sender ≠
        .sent after := by
      intro sid opcode data sender after sent
      have opened := (State.sendTurn_sent sent).1
      rw [closing] at opened
      cases opened
    obtain ⟨events, log, appended⟩ := effect.appends
    have unwritten : ∀ event ∈ events, ¬ event.isWrite := ?_
    · rw [log, List.filter_append, List.filter_eq_nil_iff.mpr unwritten, List.append_nil]
    intro event member
    cases appended with
    | quiet quiet =>
      cases event with
      | wrote write => exact absurd rfl ((quiet _ member).1 write)
      | _ => simp [Event.isWrite]
    | frame known handling next report =>
      rw [List.mem_singleton.mp member]
      simp [Event.isWrite]
    | reply phase sent target automatic => exact absurd sent shut
    | command phase sent target call opcode data monotonic => exact absurd sent shut

/-- A closing client writes nothing any more. -/
theorem Effects.sealed {config : Config} {overflow : Prop} {s after : State}
    (effects : Effects config overflow s after) (closing : s.closing) :
    after.closing ∧ after.log.filter Event.isWrite = s.log.filter Event.isWrite := by
  induction effects with
  | refl => exact ⟨closing, rfl⟩
  | tail _ effect ih =>
    obtain ⟨still, same⟩ := effect.sealed ih.1
    exact ⟨still, same.trans ih.2⟩

/-- What no change takes back, and what none brings about once the coordinator, or its
client, is closing. -/
structure Settling (u after : Coordinator) : Prop where
  closing : u.closing → after.closing
  count : u.orderCount ≤ after.orderCount
  done : ∀ k < u.orderCount, (u.orders k).phase.isDone → (after.orders k).phase.isDone
  fresh : u.closing → after.orderCount = u.orderCount ∧ after.calls = u.calls
  client : u.client.closing → after.client.closing ∧ after.writes = u.writes

theorem Settling.refl (u : Coordinator) : Settling u u :=
  ⟨id, le_rfl, fun _ _ => id, fun _ => ⟨rfl, rfl⟩, fun closing => ⟨closing, rfl⟩⟩

theorem Settling.trans {u middle after : Coordinator} (earlier : Settling u middle)
    (later : Settling middle after) : Settling u after where
  closing := later.closing ∘ earlier.closing
  count := earlier.count.trans later.count
  done k known finished := later.done k (known.trans_le earlier.count) (earlier.done k known finished)
  fresh closing := by
    obtain ⟨count, calls⟩ := earlier.fresh closing
    obtain ⟨count', calls'⟩ := later.fresh (earlier.closing closing)
    exact ⟨count'.trans count, calls'.trans calls⟩
  client closing := by
    obtain ⟨still, writes⟩ := earlier.client closing
    obtain ⟨still', writes'⟩ := later.client still
    exact ⟨still', writes'.trans writes⟩

/-- The client, the commands and the history are as they were. -/
theorem Settling.aside {u after : Coordinator} (closing : u.closing → after.closing)
    (client : after.client = u.client) (count : after.orderCount = u.orderCount)
    (done : ∀ k, (u.orders k).phase.isDone → (after.orders k).phase.isDone)
    (log : after.calls = u.calls) : Settling u after :=
  ⟨closing, le_of_eq count.symm, fun k _ => done k, fun _ => ⟨count, log⟩,
    fun shut => ⟨client ▸ shut, by rw [Coordinator.writes, client, Coordinator.writes]⟩⟩

/-- One command ends. -/
theorem done_update {orders : Nat → OrderTask} {k : Nat} {task : OrderTask}
    (own : (orders k).phase.isDone → task.phase.isDone) (d : Nat) (done : (orders d).phase.isDone) :
    (Function.update orders k task d).phase.isDone := by
  by_cases equal : d = k
  · subst equal
    simpa using own done
  · simpa [equal] using done

theorem calls_quiet {actions log : List Action} (quiet : ∀ action ∈ actions, action.quiet) :
    (log ++ actions).filter Action.isCall = log.filter Action.isCall := by
  have uncalled : ∀ action ∈ actions, ¬ action.isCall := by
    intro action member
    have silent := quiet action member
    cases action <;> simp [Action.quiet] at silent <;> simp [Action.isCall]
  rw [List.filter_append, List.filter_eq_nil_iff.mpr uncalled, List.append_nil]

theorem Change.settling {config : Config} {origin u after : Coordinator} {label : Coordinator.Label}
    (change : Change config origin label u after) (since : Settling origin u) :
    Settling origin after := by
  cases change with
  | client effects =>
    refine since.trans ⟨id, le_rfl, fun _ _ => id, fun _ => ⟨rfl, rfl⟩, fun shut => ?_⟩
    exact effects.sealed shut
  | @observe entry client dispatched moved running =>
    have fields := Coordinator.observe_fields { origin with client } entry
    obtain ⟨head, rest, next, free, rfl⟩ := State.dispatch_spec moved
    obtain ⟨actions, log, quiet⟩ := Coordinator.observe_log { origin with client := _ } entry
    refine ⟨fun shut => fields.2.2.1.trans shut, le_of_eq fields.2.2.2.2.1.symm, ?_, ?_, ?_⟩
    · intro k _ done
      rw [fields.2.2.2.1]
      exact done
    · intro _
      refine ⟨fields.2.2.2.2.1, ?_⟩
      rw [Coordinator.calls, log]
      exact calls_quiet quiet
    · intro shut
      rw [Coordinator.writes, fields.1]
      exact ⟨shut, by simp [Coordinator.writes, State.notified, Event.isWrite]⟩
  | @begin u k waiting free admitted =>
    have opened := (Coordinator.admission_admitted admitted).opened
    have fields := u.beginCall_fields config k
    have effects : Effects config.coordinated True u.client (u.beginCall config k).client :=
      call_effects (u.orders k).order.request
    refine since.trans ⟨id, le_of_eq fields.2.2.1.symm, ?_, ?_, fun shut => effects.sealed shut⟩
    · intro d _ done
      rw [fields.2.1]
      exact done_update (fun done => by rw [waiting] at done; cases done) d done
    · intro closing
      rw [opened] at closing
      cases closing
  | @conclude u k c verdict calling ending later =>
    have fields := u.conclude_fields k verdict
    obtain ⟨actions, log, quiet⟩ := u.conclude_log k verdict
    refine since.trans (.aside (fun shut => fields.2.1.trans shut) fields.1 fields.2.2.2.1 ?_ ?_)
    · intro d done
      rw [fields.2.2.1]
      exact done_update (fun _ => rfl) d done
    · rw [Coordinator.calls, log, List.filter_append, calls_quiet quiet]
      simp [Coordinator.calls, Action.isCall]
  | mark calling => exact since.trans (.aside id rfl rfl (done_update id) rfl)
  | finish waiting => exact since.trans (.aside id rfl rfl (done_update fun _ => rfl) rfl)
  | @order u order opened valid =>
    refine since.trans ⟨id, Nat.le_succ _, ?_, ?_, fun shut => ⟨shut, rfl⟩⟩
    · intro k known done
      simpa [Nat.ne_of_lt known] using done
    · intro closing
      rw [opened] at closing
      cases closing
  | @watch u =>
    have fields := u.watch_fields
    refine since.trans (.aside (fun shut => fields.2.1.trans shut) fields.1 fields.2.2.2.1 ?_ ?_)
    · intro k done
      rw [fields.2.2.1]
      exact done
    · rw [Coordinator.calls, fields.2.2.2.2.2, Coordinator.calls]
  | note => exact since.trans (.aside id rfl rfl (fun _ => id) rfl)
  | close => exact since.trans (.aside (fun _ => rfl) rfl rfl (fun _ => id) rfl)

theorem step_settling {config : Config} {u after : Coordinator} {label : Coordinator.Label}
    (attached : Attached config u) (taken : Coordinator.step config u label = some after) :
    Settling u after := by
  have path := step_changes attached taken
  clear taken
  induction path with
  | refl => exact .refl u
  | tail _ change ih => exact change.settling ih

namespace Coordinator

variable (u : Coordinator)

theorem onStatus_unload (status : DeviceStatus) : (u.onStatus status).unload = u.unload := by
  rw [onStatus_eq]
  split
  · have entered : (u.enterSession status).unload = u.unload := by
      simp only [enterSession]
      split <;> rfl
    simp only [publish, apply_ite Coordinator.unload, ite_self, entered]
  · rfl

theorem observe_unload (entry : Callback) : (u.observe entry).unload = u.unload := by
  simp only [observe]
  split
  · rw [onStatus_unload]
    rfl
  · simp only [onDisconnect]
    split <;> rfl

theorem conclude_unload (k : Nat) (verdict : Verdict) : (u.conclude k verdict).unload = u.unload := by
  cases verdict with
  | reported status =>
    simp only [conclude, confirmReport]
    split
    · rfl
    · rw [onStatus_unload]
  | _ => rfl

theorem afterCall_unload (k c : Nat) : (u.afterCall k c).unload = u.unload := by
  unfold afterCall
  split
  · exact u.conclude_unload k _
  · rfl

theorem cancelOrder_unload {u after : Coordinator} {k : Nat} {expired : Bool}
    (taken : u.cancelOrder k expired = some after) : after.unload = u.unload := by
  unfold cancelOrder at taken
  split at taken
  · split at taken
    · cases taken
    · cases taken
      rfl
  · split at taken
    · cases taken
    · obtain ⟨client, moved, rfl⟩ := Option.map_eq_some_iff.mp taken
      exact afterCall_unload ..
  · cases taken

end Coordinator

/-- Only the unload moves the phase of the unload. -/
theorem step_unload {config : Config} {u after : Coordinator} {label : Coordinator.Label}
    (taken : Coordinator.step config u label = some after) :
    after.unload = u.unload ∨ label = .unload ∨ label = .closeClient ∨
      label = .unloaded ∧ u.unload = .stopping := by
  cases label with
  | unload => exact .inr (.inl rfl)
  | closeClient => exact .inr (.inr (.inl rfl))
  | unloaded =>
    simp only [Coordinator.step] at taken
    split at taken
    · rename_i ready
      exact .inr (.inr (.inr ⟨rfl, ready.1⟩))
    · cases taken
  | client label =>
    simp only [Coordinator.step] at taken
    split at taken
    · obtain ⟨client, moved, rfl⟩ := Option.map_eq_some_iff.mp taken
      exact .inl rfl
    · cases taken
  | dispatch =>
    obtain ⟨client, moved, taken⟩ := Option.bind_eq_some_iff.mp taken
    obtain ⟨entry, running, rfl⟩ := Option.map_eq_some_iff.mp taken
    exact .inl (Coordinator.observe_unload ..)
  | command method args key wanted requiresOn =>
    cases taken
    unfold Coordinator.command
    split
    · exact .inl rfl
    · split <;> exact .inl rfl
  | proceed k =>
    simp only [Coordinator.step] at taken
    split at taken
    · cases taken
      unfold Coordinator.runCommand
      split
      · exact .inl rfl
      · exact .inl rfl
      · exact .inl (Coordinator.afterCall_unload ..)
    · cases taken
  | resume k =>
    simp only [Coordinator.step, Coordinator.resumeOrder] at taken
    split at taken
    · obtain ⟨client, moved, rfl⟩ := Option.map_eq_some_iff.mp taken
      exact .inl (Coordinator.afterCall_unload ..)
    · cases taken
  | expire k => exact .inl (Coordinator.cancelOrder_unload taken)
  | cancel k => exact .inl (Coordinator.cancelOrder_unload taken)
  | watch =>
    simp only [Coordinator.step] at taken
    split at taken
    · cases taken
    · cases taken
      refine .inl ?_
      simp only [Coordinator.watch]
      split <;> rfl
  | setOption enabled =>
    cases taken
    exact .inl rfl
  | refresh =>
    cases taken
    exact .inl rfl

/-- The unload has begun and waits for what is not done yet, and later for nothing. -/
structure Accounted (w : Unloading) : Prop where
  tasks : ∀ k < w.coordinator.orderCount,
    (w.coordinator.orders k).phase.isDone ∨ k ∈ w.commandTasks
  active : ∀ active, w.active = some active → w.coordinator.closing ∧
    ∀ k < w.coordinator.orderCount, (w.coordinator.orders k).phase.isDone ∨ k ∈ active
  begun : w.coordinator.unload ≠ .idle → w.coordinator.closing
  stopped : w.coordinator.unload = .stopping ∨ w.coordinator.unload = .done →
    w.coordinator.client.closing ∧
      ∀ k < w.coordinator.orderCount, (w.coordinator.orders k).phase.isDone

theorem State.close_closing (s : State) : (s.close.getD s).closing := by
  cases closing : s.closing with
  | false => simp [State.close, closing]
  | true => simp [State.close, closing]

theorem step_closing {config : Config} {u after : Coordinator}
    (taken : Coordinator.step config u .unload = some after) : after.closing := by
  cases taken
  rfl

/-- A step of the coordinator other than the end of `gather`. -/
theorem Accounted.follow {config : Config} {w : Unloading} {after : Coordinator}
    {label : Coordinator.Label} (accounted : Accounted w) (attached : Attached config w.coordinator)
    (taken : Coordinator.step config w.coordinator label = some after)
    (other : label ≠ .closeClient) : Accounted (w.follow after) := by
  have settling := step_settling attached taken
  have older : ∀ {k}, w.coordinator.closing → k < after.orderCount → k < w.coordinator.orderCount :=
    fun closing known => by rwa [(settling.fresh closing).1] at known
  have stopped : w.coordinator.unload = .stopping ∨ w.coordinator.unload = .done →
      after.client.closing ∧ ∀ k < after.orderCount, (after.orders k).phase.isDone := by
    intro phase
    have closing : w.coordinator.closing := by
      apply accounted.begun
      rcases phase with same | same <;> rw [same] <;> decide
    obtain ⟨shut, done⟩ := accounted.stopped phase
    exact ⟨(settling.client shut).1, fun k known =>
      settling.done k (older closing known) (done k (older closing known))⟩
  constructor
  · intro k known
    by_cases old : k < w.coordinator.orderCount
    · rcases accounted.tasks k old with done | member
      · exact .inl (settling.done k old done)
      · exact .inr (List.mem_append_left _ member)
    · refine .inr (List.mem_append_right _ (List.mem_range'_1.mpr ⟨Nat.le_of_not_lt old, ?_⟩))
      have grown : k < after.orderCount := known
      omega
  · intro active taken
    obtain ⟨closing, waits⟩ := accounted.active active taken
    refine ⟨settling.closing closing, fun k known => ?_⟩
    exact (waits k (older closing known)).imp (settling.done k (older closing known)) id
  · intro begun
    rcases step_unload taken with same | rfl | closes | ⟨-, phase⟩
    · exact settling.closing (accounted.begun (same ▸ begun))
    · exact step_closing taken
    · exact absurd closes other
    · exact settling.closing (accounted.begun (by rw [phase]; decide))
  · intro phase
    rcases step_unload taken with same | rfl | closes | ⟨-, stopping⟩
    · exact stopped (same ▸ phase)
    · cases taken
      by_cases idle : w.coordinator.unload = .idle
      · simp [Unloading.follow, idle] at phase
      · exact stopped (by simpa [Unloading.follow, idle] using phase)
    · exact absurd closes other
    · exact stopped (.inl stopping)

/-- `gather` returns when every task of the tuple is done, and then every task is. -/
theorem Accounted.closeClient {w after : Unloading} (accounted : Accounted w)
    (taken : w.closeClient = some after) :
    Accounted after ∧ w.coordinator.closeClient = some after.coordinator := by
  obtain ⟨active, found, taken⟩ := Option.bind_eq_some_iff.mp taken
  split at taken
  · rename_i ready
    cases taken
    obtain ⟨closing, waits⟩ := accounted.active active found
    have done : ∀ k < w.coordinator.orderCount, (w.coordinator.orders k).phase.isDone := by
      intro k known
      rcases waits k known with done | member
      · exact done
      · exact ready.2 k member
    refine ⟨⟨fun k known => .inl (done k known), fun active _ => ⟨closing, fun k known =>
      .inl (done k known)⟩, fun _ => closing, fun _ => ⟨State.close_closing _, done⟩⟩, ?_⟩
    rw [Coordinator.closeClient, if_pos ⟨ready.1, done⟩]
  · cases taken

/-- The tuple that `_finish_unload` waits for names every task that is not done: the steps
are those of the coordinator that waits for all of them, and some that it does not see. -/
theorem Accounted.step {config : Config} {w after : Unloading} {label : UnloadLabel}
    (accounted : Accounted w) (attached : Attached config w.coordinator)
    (taken : Unloading.step config w label = some after) :
    Accounted after ∧ ((∃ label, Coordinator.step config w.coordinator label = some after.coordinator) ∨
      after.coordinator = w.coordinator) := by
  cases label with
  | coordinator label =>
    by_cases closes : label = .closeClient
    · subst closes
      obtain ⟨next, closed⟩ := accounted.closeClient taken
      exact ⟨next, .inl ⟨.closeClient, closed⟩⟩
    by_cases unloads : label = .unload
    · subst unloads
      have mapped : (Coordinator.step config w.coordinator .unload).map (fun u =>
          { w.follow u with unloadCount := w.unloadCount + 1 }) = some after := taken
      obtain ⟨u, moved, rfl⟩ := Option.map_eq_some_iff.mp mapped
      have next := accounted.follow attached moved (by simp)
      exact ⟨⟨next.tasks, next.active, next.begun, next.stopped⟩, .inl ⟨.unload, moved⟩⟩
    · have followed : (Coordinator.step config w.coordinator label).map w.follow = some after := by
        cases label with
        | closeClient => exact absurd rfl closes
        | unload => exact absurd rfl unloads
        | _ => exact taken
      obtain ⟨u, moved, rfl⟩ := Option.map_eq_some_iff.mp followed
      exact ⟨accounted.follow attached moved closes, .inl ⟨label, moved⟩⟩
  | snapshot =>
    simp only [Unloading.step] at taken
    split at taken
    · rename_i ready
      cases taken
      refine ⟨⟨accounted.tasks, ?_, accounted.begun, accounted.stopped⟩, .inr rfl⟩
      rintro active ⟨⟩
      exact ⟨accounted.begun (by rw [ready.1]; decide), accounted.tasks⟩
    · cases taken
  | discard k =>
    simp only [Unloading.step] at taken
    split at taken
    · rename_i finished
      cases taken
      refine ⟨⟨fun d known => ?_, accounted.active, accounted.begun, accounted.stopped⟩, .inr rfl⟩
      by_cases equal : d = k
      · exact .inl (equal ▸ finished)
      · exact (accounted.tasks d known).imp id fun member => List.mem_filter.mpr ⟨member, by simpa using equal⟩
    · cases taken

theorem unloading_reachable {config : Config} {w : Unloading} (run : Reachable (unloading config) w) :
    Reachable (coordinator config) w.coordinator ∧ Accounted w := by
  induction run with
  | start initial =>
    obtain ⟨u, begins, rfl⟩ := initial
    refine ⟨.start begins, ?_⟩
    obtain ⟨now, wall, localPower, epoch, rfl⟩ := begins
    constructor <;> simp [Coordinator.start]
  | next _ _ taken ih =>
    obtain ⟨reached, accounted⟩ := ih
    obtain ⟨next, moved⟩ := accounted.step (Run.linked reached).1 taken
    rcases moved with ⟨label, moved⟩ | same
    · exact ⟨.next reached trivial moved, next⟩
    · exact ⟨same ▸ reached, next⟩

/-- What holds between two states of one run. -/
theorem onward_settling {config : Config} {w after : Unloading} (run : Reachable (unloading config) w)
    (onward : Onward (unloading config) (fun _ _ => True) w after) :
    Settling w.coordinator after.coordinator := by
  induction onward with
  | here => exact .refl _
  | next earlier _ taken ih =>
    obtain ⟨reached, accounted⟩ := unloading_reachable (run.onward earlier)
    have attached := (Run.linked reached).1
    rcases (accounted.step attached taken).2 with ⟨label, moved⟩ | same
    · exact ih.trans (step_settling attached moved)
    · rw [same]
      exact ih

/-- Nothing is left to wait for. -/
structure Drained (w : Unloading) : Prop where
  closing : w.coordinator.closing
  client : w.coordinator.client.closing
  done : ∀ k < w.coordinator.orderCount, (w.coordinator.orders k).phase.isDone

theorem Drained.onward {config : Config} {w after : Unloading} (drained : Drained w)
    (run : Reachable (unloading config) w)
    (onward : Onward (unloading config) (fun _ _ => True) w after) : Drained after := by
  have settling := onward_settling run onward
  have count := (settling.fresh drained.closing).1
  exact ⟨settling.closing drained.closing, (settling.client drained.client).1, fun k known =>
    settling.done k (count ▸ known) (drained.done k (count ▸ known))⟩

theorem returned_drained {config : Config} {w : Shielded Unloading Requester} {j : Nat}
    (run : Reachable (attended config) w) (returned : w.callers (.unload j) = .returned) :
    Drained w.inner := by
  apply Shield.returned_holds Drained ?_ ?_ run returned
  · intro inner reached finished
    have accounted := (unloading_reachable reached).2
    have phase : inner.coordinator.unload = .done := by simpa [requesters] using finished
    obtain ⟨client, done⟩ := accounted.stopped (.inr phase)
    exact ⟨accounted.begun (by rw [phase]; decide), client, done⟩
  · intro inner label next reached drained moved
    exact drained.onward reached (.next .here trivial moved)

/-- A caller of `async_prepare_unload` is never turned away. -/
theorem unload_persists {config : Config} {w : Shielded Unloading Requester}
    (run : Reachable (attended config) w) (j : Nat) : w.callers (.unload j) ≠ .cancelled := by
  induction run with
  | start initial =>
    rw [initial.2]
    decide
  | next _ _ taken ih => exact Shield.persistent_waits rfl taken ih

/-- The unload below its callers. -/
theorem drained_drains (config : Config) : Drains (unloading config)
    (fun w => w.coordinator.closing) Drained
    (fun w => ∀ k < w.coordinator.orderCount, (w.coordinator.orders k).phase.isDone)
    fun w => w.coordinator.calls where
  begun _ _ drained := drained.closing
  finished _ _ drained := drained.done
  silent _ _ run closing onward := ((onward_settling run onward).fresh closing).2

/-- The same for the return of `async_prepare_unload`, whoever is cancelled. -/
theorem unload_drains (config : Config) : Drains (attended config)
    (fun w => w.inner.coordinator.closing) (fun w => ∃ j, w.callers (.unload j) = .returned)
    (fun w => ∀ k < w.inner.coordinator.orderCount, (w.inner.coordinator.orders k).phase.isDone)
    fun w => w.inner.coordinator.calls := by
  apply (drained_drains config).shielded.stronger
  intro w run ⟨j, returned⟩
  exact returned_drained run returned

/-- The client writes nothing any more. -/
theorem unload_silences {config : Config} {w after : Shielded Unloading Requester} {j : Nat}
    (run : Reachable (attended config) w) (returned : w.callers (.unload j) = .returned)
    (onward : Onward (attended config) (fun _ _ => True) w after) :
    after.inner.coordinator.writes = w.inner.coordinator.writes := by
  have settling := onward_settling (Shield.reachable_inner run) (Shield.onward_inner onward)
  exact (settling.client (returned_drained run returned).client).2

end AlorairLite.Local
