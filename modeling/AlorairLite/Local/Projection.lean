import AlorairLite.Local.Intent
import AlorairLite.Local.Publication

/-! The client below the coordinator: every step of the coordinator is a few steps of its
client, so what holds in every run of the client holds below every run of the coordinator. -/

namespace AlorairLite.Local

/-- The command tasks and the client calls they wait for. -/
structure Linked (u : Coordinator) : Prop where
  valid : ∀ k, (u.orders k).phase.isDone ∨ (u.orders k).order.Valid
  called : ∀ k c, (u.orders k).phase = .calling c →
    ∃ session, .called c (u.orders k).order.request session ∈ u.client.log

/-- Every command is as it was, or has ended. -/
theorem Linked.keep {u after : Coordinator} (linked : Linked u)
    (grows : ∃ events, after.client.log = u.client.log ++ events)
    (orders : ∀ k, (after.orders k).phase.isDone ∨
      (after.orders k).phase = (u.orders k).phase ∧ (after.orders k).order = (u.orders k).order) :
    Linked after := by
  obtain ⟨events, log⟩ := grows
  constructor
  · intro k
    rcases orders k with done | ⟨phase, order⟩
    · exact .inl done
    · rw [phase, order]
      exact linked.valid k
  · intro k c calling
    rcases orders k with done | ⟨phase, order⟩
    · rw [calling] at done
      cases done
    · obtain ⟨session, member⟩ := linked.called k c (phase ▸ calling)
      rw [log, order]
      exact ⟨session, List.mem_append_left _ member⟩

/-- The client is as it was, and so are the commands. -/
theorem Linked.aside {u after : Coordinator} (linked : Linked u)
    (client : after.client.log = u.client.log) (orders : after.orders = u.orders) : Linked after :=
  linked.keep ⟨[], by rw [client, List.append_nil]⟩ fun k => .inr (by rw [orders]; exact ⟨rfl, rfl⟩)

/-- The task of one command changes. -/
theorem Linked.one {u after : Coordinator} {k : Nat} {task : OrderTask} (linked : Linked u)
    (client : after.client.log = u.client.log) (orders : after.orders = Function.update u.orders k task)
    (own : task.phase.isDone ∨ task.phase = (u.orders k).phase ∧ task.order = (u.orders k).order) :
    Linked after := by
  apply linked.keep ⟨[], by rw [client, List.append_nil]⟩
  intro d
  rw [orders]
  by_cases equal : d = k
  · subst equal
    simpa using own
  · rw [Function.update_of_ne equal]
    exact .inr ⟨rfl, rfl⟩

theorem State.call_called (config : Config) (s : State) (request : Request) :
    ∃ session events, (s.call config request).log =
      s.log ++ .called s.callCount request session :: events := by
  simp only [State.call]
  split
  · exact ⟨s.session, [_], rfl⟩
  · split
    · exact ⟨s.session, [_], rfl⟩
    · exact ⟨s.session, [], rfl⟩

theorem Linked.begin {config : Config} {u : Coordinator} {k : Nat} (linked : Linked u)
    (waiting : (u.orders k).phase = .waiting) : Linked (u.beginCall config k) := by
  obtain ⟨session, events, log⟩ :=
    u.client.call_called config.coordinated (u.orders k).order.request
  have client : (u.beginCall config k).client.log =
      u.client.log ++ .called u.client.callCount (u.orders k).order.request session :: events := log
  have orders : (u.beginCall config k).orders = Function.update u.orders k { u.orders k with
      issued := u.client.now, phase := .calling u.client.callCount } :=
    (u.beginCall_fields config k).2.1
  constructor
  · intro d
    rw [orders]
    by_cases equal : d = k
    · subst equal
      simpa [waiting, OrderAt.isDone] using linked.valid d
    · simpa [equal] using linked.valid d
  · intro d c calling
    rw [orders] at calling ⊢
    rw [client]
    by_cases equal : d = k
    · subst equal
      simp only [Function.update_self, OrderAt.calling.injEq] at calling
      subst calling
      exact ⟨session, by simp⟩
    · simp only [Function.update_of_ne equal] at calling ⊢
      obtain ⟨session, member⟩ := linked.called d c calling
      exact ⟨session, List.mem_append_left _ member⟩

theorem Change.linked {config : Config} {origin u after : Coordinator} {label : Coordinator.Label}
    (change : Change config origin label u after) (started : Linked origin) (linked : Linked u) :
    Linked after := by
  cases change with
  | client effects => exact linked.keep effects.later.log fun k => .inr ⟨rfl, rfl⟩
  | @observe entry client dispatched moved running =>
    have fields := Coordinator.observe_fields { origin with client } entry
    obtain ⟨head, rest, next, free, rfl⟩ := State.dispatch_spec moved
    apply started.keep ⟨[.dispatched head], by rw [fields.1]; rfl⟩
    intro k
    rw [fields.2.2.2.1]
    exact .inr ⟨rfl, rfl⟩
  | begin waiting free admitted => exact linked.begin waiting
  | @conclude u k c verdict calling ending later =>
    have fields := u.conclude_fields k verdict
    exact linked.one (by rw [fields.1]) fields.2.2.1 (.inl rfl)
  | mark calling => exact linked.one rfl rfl (.inr ⟨rfl, rfl⟩)
  | finish waiting => exact linked.one rfl rfl (.inl rfl)
  | @order u order opened valid =>
    constructor
    · intro k
      by_cases equal : k = u.orderCount
      · subst equal
        simpa using .inr valid
      · simpa [equal] using linked.valid k
    · intro k c calling
      by_cases equal : k = u.orderCount
      · simp [equal] at calling
      · simp only [Function.update_of_ne equal] at calling ⊢
        exact linked.called k c calling
  | @watch u =>
    have fields := u.watch_fields
    exact linked.aside (by rw [fields.1]) fields.2.2.1
  | note => exact linked.aside rfl rfl
  | close => exact linked.aside rfl rfl

theorem Run.linked {config : Config} {u : Coordinator}
    (run : Async.Reachable (coordinator config) u) : Attached config u ∧ Linked u := by
  apply Run.changes Linked ?_ ?_ run
  · intro now wall localPower epoch
    refine ⟨fun k => .inl rfl, ?_⟩
    rintro k c ⟨⟩
  · intro origin label u after _ started _ _ linked change
    exact change.linked started linked

theorem Linked.known {config : Config} {u : Coordinator} {k c : Nat} (linked : Linked u)
    (attached : Attached config u) (calling : (u.orders k).phase = .calling c) :
    c < u.client.callCount := by
  obtain ⟨session, member⟩ := linked.called k c calling
  exact attached.coherent.shape.eventCall _ member c rfl

/-- The client moves by steps of its own. -/
def Moves (config : Config) (s after : State) : Prop :=
  ∃ labels, (client config.coordinated).follow s labels = some after

theorem Moves.refl (config : Config) (s : State) : Moves config s s := ⟨[], rfl⟩

theorem Moves.one {config : Config} {s after : State} (label : Label)
    (taken : step config.coordinated s label = some after) : Moves config s after :=
  ⟨[label], by simp only [Async.System.follow, client, taken, Option.bind_some]⟩

/-- Every step of the coordinator moves its client by steps of the client. -/
theorem step_moves {config : Config} {u after : Coordinator} {label : Coordinator.Label}
    (known : ∀ k c, (u.orders k).phase = .calling c → c < u.client.callCount)
    (taken : Coordinator.step config u label = some after) : Moves config u.client after.client := by
  have cancelled : ∀ k expired, u.cancelOrder k expired = some after →
      Moves config u.client after.client := by
    intro k expired taken
    unfold Coordinator.cancelOrder at taken
    split at taken
    · split at taken
      · cases taken
      · cases taken
        exact .refl config _
    · rename_i c calling
      split at taken
      · cases taken
      · obtain ⟨client, moved, rfl⟩ := Option.map_eq_some_iff.mp taken
        rw [Coordinator.afterCall_client]
        apply Moves.one (.cancelCaller c)
        rw [step, if_pos (known k c calling)]
        exact moved
    · cases taken
  cases label with
  | client label =>
    simp only [Coordinator.step] at taken
    split at taken
    · obtain ⟨client, moved, rfl⟩ := Option.map_eq_some_iff.mp taken
      exact .one label moved
    · cases taken
  | dispatch =>
    obtain ⟨middle, moved, taken⟩ := Option.bind_eq_some_iff.mp taken
    obtain ⟨entry, running, rfl⟩ := Option.map_eq_some_iff.mp taken
    have returned : step config.coordinated middle (.finishCallback false) =
        some { middle with dispatching := none } := by
      simp [step, State.finishCallback, running]
    rw [(Coordinator.observe_fields ..).1]
    refine ⟨[.dispatch, .finishCallback false], ?_⟩
    have dispatched : step config.coordinated u.client .dispatch = some middle := moved
    simp only [Async.System.follow, client, dispatched, returned, Option.bind_some]
  | setOption enabled =>
    cases taken
    exact .refl config _
  | command method args key wanted requiresOn =>
    cases taken
    unfold Coordinator.command
    split
    · exact .refl config _
    · split
      · exact .refl config _
      · exact .refl config _
  | proceed k =>
    simp only [Coordinator.step] at taken
    split at taken
    · cases taken
      unfold Coordinator.runCommand
      split
      · exact .refl config _
      · exact .refl config _
      · rw [Coordinator.afterCall_client]
        exact .one (.call (u.orders k).order.request) rfl
    · cases taken
  | resume k =>
    simp only [Coordinator.step, Coordinator.resumeOrder] at taken
    split at taken
    · rename_i c calling
      obtain ⟨client, moved, rfl⟩ := Option.map_eq_some_iff.mp taken
      rw [Coordinator.afterCall_client]
      apply Moves.one (.resumeCaller c)
      rw [step, if_pos (known k c calling)]
      exact moved
    · cases taken
  | expire k => exact cancelled k true taken
  | cancel k => exact cancelled k false taken
  | watch =>
    simp only [Coordinator.step] at taken
    split at taken
    · cases taken
    · cases taken
      rw [u.watch_fields.1]
      exact .refl config _
  | refresh =>
    cases taken
    exact .refl config _
  | unload =>
    cases taken
    exact .refl config _
  | closeClient =>
    simp only [Coordinator.step, Coordinator.closeClient] at taken
    split at taken
    · cases taken
      cases closed : u.client.close with
      | none => exact .refl config _
      | some client => exact .one .close closed
    · cases taken
  | unloaded =>
    simp only [Coordinator.step] at taken
    split at taken
    · cases taken
      exact .refl config _
    · cases taken

/-- Below every run of the coordinator is a run of its client. -/
theorem Run.projection {config : Config} {u : Coordinator}
    (run : Async.Reachable (coordinator config) u) :
    Async.Reachable (client config.coordinated) u.client := by
  induction run with
  | start initial =>
    obtain ⟨now, wall, localPower, epoch, rfl⟩ := initial
    exact .start ⟨now, wall, epoch, rfl⟩
  | next earlier _ taken ih =>
    obtain ⟨attached, linked⟩ := Run.linked earlier
    obtain ⟨labels, followed⟩ := step_moves (fun k c => linked.known attached) taken
    exact ih.follow (fun _ _ => trivial) followed

end AlorairLite.Local
