import AlorairLite.Async.Discipline
import AlorairLite.Async.History
import AlorairLite.Async.Shield
import AlorairLite.Cloud.Change

/-! Unloading the cloud coordinator: while it is closing no control method is called, and
`async_prepare_unload` returns when no command task is left. -/

namespace AlorairLite.Cloud

open Async

/-- The control methods of the client. -/
def Query.controls : Query → Bool
  | .call _ _ | .experimental _ _ _ => true
  | _ => false

/-- The operations whose tasks are in `_command_tasks`. -/
def Operation.tracked : Operation → Bool
  | .command _ | .experimental _ _ => true
  | _ => false

/-- Control methods are called while the coordinator is open, and neither the flag nor the
set of tasks is touched. -/
def orderly : Discipline face where
  asks query s := Query.controls query → Coordinator.closing s = false
  moves move := ∀ s : Coordinator,
    Coordinator.closing (move s) = s.closing ∧ Coordinator.commandTasks (move s) = s.commandTasks

namespace Method

section Orderly

variable {Result : Type} {s : Coordinator}

abbrev Keeps (code : Method Result) (s : Coordinator) : Prop := orderly.Keeps code s

theorem change_keeps {move : Coordinator → Coordinator} {rest : Unit → Method Result}
    (closing : ∀ s, (move s).closing = s.closing) (tasks : ∀ s, (move s).commandTasks = s.commandTasks)
    (later : Keeps (rest ()) (move s)) : Keeps (change move >>= rest) s :=
  Discipline.Keeps.modify (fun s => ⟨closing s, tasks s⟩) later

theorem await_keeps {query : Query} (allowed : query.controls → s.closing = false) :
    Keeps (await query) s := Discipline.Keeps.request allowed

theorem observe_closing (s : Coordinator) (data : Dict) (on : Bool) :
    (s.observe data on).closing = s.closing :=
  (congrArg Coordinator.closing (s.observe_frame data on)).trans rfl

theorem observe_commandTasks (s : Coordinator) (data : Dict) (on : Bool) :
    (s.observe data on).commandTasks = s.commandTasks :=
  (congrArg Coordinator.commandTasks (s.observe_frame data on)).trans rfl

theorem updateData_keeps (mac : String) : Keeps (updateData mac) s := by
  apply Discipline.Keeps.then (await_keeps (by simp [Query.controls]))
  intro answer later
  cases answer with
  | error error => cases error <;> trivial
  | ok data =>
    simp only
    split
    · trivial
    · rename_i on status
      refine ⟨fun _ => ⟨rfl, rfl⟩, ?_⟩
      exact change_keeps (fun s => observe_closing s data on) (fun s => observe_commandTasks s data on)
        trivial

theorem refresh_keeps (mac : String) : Keeps (refresh mac) s := by
  apply Discipline.Keeps.attempt
  · apply Discipline.Keeps.then (updateData_keeps mac)
    intro data later
    exact change_keeps (fun _ => rfl) (fun _ => rfl) trivial
  · intro error later
    cases error with
    | interrupted reason => trivial
    | _ => exact change_keeps (fun _ => rfl) (fun _ => rfl) trivial

theorem withTimeout_keeps {task : Nat} {body : Method Result}
    (inside : ∀ later : Coordinator, later.closing = s.closing → Keeps body later) :
    Keeps (withTimeout task body) s := by
  apply change_keeps (fun _ => rfl) (fun _ => rfl)
  apply Discipline.Keeps.attempt
  · refine Discipline.Keeps.ensure (inside _ rfl) ?_
    exact fun _ => ⟨rfl, rfl⟩
  · intro error later
    cases error with
    | interrupted reason => cases reason <;> trivial
    | _ => trivial

theorem locked_keeps {task : Nat} {body : Method Result} (inside : ∀ later, Keeps body later) :
    Keeps (withCommandLock task body) s :=
  Discipline.Keeps.withLock (fun _ _ => ⟨rfl, rfl⟩) inside

theorem refresh_then_raise {failure : Failure} :
    Keeps (do requestRefresh; (Process.raise failure : Method Result)) s :=
  Discipline.Keeps.then (await_keeps (by simp [Query.controls])) fun _ _ => trivial

theorem handle_keeps (k : Nat) (key : String) (error : ClientError) : Keeps (handle k key error) s := by
  cases error with
  | authentication => exact change_keeps (fun _ => rfl) (fun _ => rfl) trivial
  | cannotConnect => exact change_keeps (fun _ => rfl) (fun _ => rfl) refresh_then_raise
  | command outcomeUnknown =>
    cases outcomeUnknown with
    | true => exact change_keeps (fun _ => rfl) (fun _ => rfl) refresh_then_raise
    | false => exact change_keeps (fun _ => rfl) (fun _ => rfl) trivial
  | protocol => exact change_keeps (fun _ => rfl) (fun _ => rfl) trivial
  | timeout => trivial
  | unexpected => trivial

theorem transact_keeps (mac : String) (order : Order) (seen : Coordinator) (opened : s.closing = false) :
    Keeps (transact mac order seen) s := by
  apply change_keeps (fun _ => rfl) (fun _ => rfl)
  apply Discipline.Keeps.then (await_keeps fun _ => opened)
  intro answer later
  cases answer with
  | ok value =>
    apply change_keeps (fun _ => rfl) (fun _ => rfl)
    exact await_keeps (by simp [Query.controls])
  | error error => exact handle_keeps _ _ error

/-- An admitted command is one of an open coordinator. -/
theorem admission_opened {s : Coordinator} {order : Order} (admitted : s.admission order = .admitted) :
    s.closing = false := by
  cases closing : s.closing with
  | false => rfl
  | true => simp [Coordinator.admission, closing] at admitted

theorem blame_keeps {action : String} {failure : Failure} :
    Keeps (do change (·.blame action); (Process.raise failure : Method Result)) s := by
  refine change_keeps (fun s => ?_) (fun s => ?_) trivial
  all_goals
    simp only [Coordinator.blame]
    split
    · rfl
    · split <;> rfl

theorem lockedCommand_keeps (mac : String) (order : Order) (task : Nat) :
    Keeps (lockedCommand mac order task) s := by
  apply locked_keeps
  intro later
  apply Discipline.Keeps.attempt
  · apply withTimeout_keeps
    intro s _
    refine ⟨fun _ => ⟨rfl, rfl⟩, ?_⟩
    dsimp only [Coroutine.bind, Process.chain]
    split
    · trivial
    · trivial
    · trivial
    · rename_i admitted
      exact transact_keeps mac order s (admission_opened admitted)
  · intro error later
    cases error with
    | timeout => exact blame_keeps
    | _ => trivial

theorem writeFailure_keeps (k : Nat) (error : ClientError) : Keeps (writeFailure k error) s := by
  cases error with
  | unexpected => trivial
  | command outcomeUnknown =>
    cases outcomeUnknown <;> exact change_keeps (fun _ => rfl) (fun _ => rfl) trivial
  | _ => exact change_keeps (fun _ => rfl) (fun _ => rfl) trivial

theorem experimentalTransaction_keeps (mac action : String) (parameters : List (String × Scalar)) :
    Keeps (experimentalTransaction mac action parameters) s := by
  refine ⟨fun _ => ⟨rfl, rfl⟩, ?_⟩
  show Keeps (if s.closing then _ else _) s
  split
  · trivial
  rename_i opened
  have allowed : (Query.experimental mac action parameters).controls → s.closing = false :=
    fun _ => by simpa using opened
  split
  · split
    · trivial
    apply change_keeps (fun _ => rfl) (fun _ => rfl)
    apply Discipline.Keeps.then (await_keeps allowed)
    intro answer later
    cases answer with
    | ok result =>
      apply change_keeps (fun _ => rfl) (fun _ => rfl)
      exact Discipline.Keeps.then (await_keeps (by simp [Query.controls])) fun _ _ => trivial
    | error error => exact writeFailure_keeps _ error
  · apply Discipline.Keeps.then (await_keeps allowed)
    intro answer later
    cases answer <;> trivial

theorem lockedExperimental_keeps (mac action : String) (parameters : List (String × Scalar))
    (task : Nat) : Keeps (lockedExperimental mac action parameters task) s := by
  apply locked_keeps
  intro later
  apply Discipline.Keeps.attempt
  · exact withTimeout_keeps fun _ _ => experimentalTransaction_keeps mac action parameters
  · intro error later
    cases error with
    | timeout =>
      simp only
      split
      · exact blame_keeps
      · trivial
    | _ => trivial

end Orderly

end Method

/-- The end of `async_prepare_unload`: it returns `True`. -/
def CloudEvent.drained (task : Nat) : CloudEvent := .ended task (.ok (.bool true))

/-- A control method is called before any unload. -/
def unguarded (past : List CloudEvent) : CloudEvent → Prop
  | .asked _ query => query.controls → ∀ d, .started d .unload ∉ past
  | _ => True

/-- What every scene keeps: the flag stays, and a task leaves the set when it ends. -/
structure Draining (scene : CloudScene) : Prop where
  closed : ∀ d, .started d .unload ∈ scene.log → scene.shared.closing
  silent : Every unguarded scene.log
  tracked : ∀ task operation, .started task operation ∈ scene.log → operation.tracked →
    task ∈ scene.shared.commandTasks ∨ ∃ result, .ended task result ∈ scene.log
  drained : ∀ d, .started d .unload ∈ scene.log → CloudEvent.drained d ∈ scene.log →
    scene.shared.commandTasks = []

/-- What a suspended task may rely on. -/
structure Persists (task : Nat) (scene later : CloudScene) : Prop where
  closing : scene.shared.closing → later.shared.closing
  member : task ∈ scene.shared.commandTasks → task ∈ later.shared.commandTasks
  shrinks : scene.shared.closing → later.shared.commandTasks ⊆ scene.shared.commandTasks

theorem Persists.refl (task : Nat) (scene : CloudScene) : Persists task scene scene :=
  ⟨id, id, fun _ => List.Subset.refl _⟩

theorem Persists.trans {task : Nat} {first second third : CloudScene}
    (earlier : Persists task first second) (later : Persists task second third) :
    Persists task first third where
  closing := later.closing ∘ earlier.closing
  member := later.member ∘ earlier.member
  shrinks closing _ member :=
    earlier.shrinks closing (later.shrinks (earlier.closing closing) member)

/-- Neither the flag nor the set is another one. -/
theorem Persists.same {task : Nat} {scene later : CloudScene}
    (closing : later.shared.closing = scene.shared.closing)
    (tasks : later.shared.commandTasks = scene.shared.commandTasks) : Persists task scene later :=
  ⟨fun closed => closing.trans closed, fun member => tasks ▸ member, fun _ => by simp [tasks]⟩

section Keeping

variable {scene : CloudScene} {task : Nat}

/-- An event that is no start, asks for control only while open, and ends no unload. -/
theorem Draining.emit {event : CloudEvent} (draining : Draining scene)
    (plain : ∀ task operation, event ≠ .started task operation)
    (open' : ∀ task query, event = .asked task query → query.controls → scene.shared.closing = false)
    (ends : ∀ d, event = CloudEvent.drained d → .started d .unload ∈ scene.log →
      scene.shared.commandTasks = []) : Draining (scene.emit event) := by
  have before : ∀ {task operation}, .started task operation ∈ (scene.emit event).log →
      .started task operation ∈ scene.log := by
    intro task operation member
    rcases List.mem_append.mp member with early | late
    · exact early
    · exact absurd (List.mem_singleton.mp late).symm (plain task operation)
  refine ⟨fun d begun => draining.closed d (before begun), ?_, ?_, ?_⟩
  · apply draining.silent.append_singleton
    cases event with
    | asked task query =>
      intro controls d begun
      have closing := draining.closed d begun
      rw [open' task query rfl controls] at closing
      cases closing
    | _ => trivial
  · intro task operation begun command
    rcases draining.tracked task operation (before begun) command with member | ⟨result, ended⟩
    · exact .inl member
    · exact .inr ⟨result, List.mem_append_left _ ended⟩
  · intro d begun ended
    rcases List.mem_append.mp ended with early | late
    · exact draining.drained d (before begun) early
    · exact ends d (List.mem_singleton.mp late).symm (before begun)

/-- A change that touches neither the flag nor the set. -/
theorem Draining.change {move : Coordinator → Coordinator} (draining : Draining scene)
    (closing : (move scene.shared).closing = scene.shared.closing)
    (tasks : (move scene.shared).commandTasks = scene.shared.commandTasks) :
    Draining (scene.change move) := by
  refine ⟨fun d begun => ?_, draining.silent, fun task operation begun command => ?_, fun d begun ended => ?_⟩
  · exact closing.trans (draining.closed d begun)
  · exact (draining.tracked task operation begun command).imp (fun member => tasks ▸ member) id
  · exact tasks.trans (draining.drained d begun ended)

end Keeping

theorem Drift.keeps (drift : Drift) (s : Coordinator) :
    (drift.apply s).closing = s.closing ∧ (drift.apply s).commandTasks = s.commandTasks := by
  cases drift <;> exact ⟨rfl, rfl⟩

/-- The contract of all tasks; it allows every step. -/
def drain : Contract face Operation (Except Failure Json) where
  invariant := Draining
  rely := Persists
  starts _ _ := True
  answers _ _ _ := True
  delivers _ _ _ := True
  interrupts _ _ _ := True
  drifts _ _ := True
  refl := Persists.refl
  trans := Persists.trans
  answered := by
    intro scene task reply draining _
    refine ⟨draining.emit (by simp) (by simp) (by simp [CloudEvent.drained]), fun other => ?_⟩
    exact .same rfl rfl
  drifted := by
    intro scene drift draining _
    obtain ⟨closing, tasks⟩ := drift.keeps scene.shared
    refine ⟨(draining.emit (by simp) (by simp) (by simp [CloudEvent.drained])).change closing tasks, ?_⟩
    exact fun other => .same closing tasks

/-- A task of this operation, in the set if it has to be there, is running. -/
structure Holding (member : Prop) (task : Nat) (operation : Operation) (origin now : CloudScene) :
    Prop where
  yields : drain.Yields task origin now
  member : member → task ∈ now.shared.commandTasks
  only : ∀ other, .started task other ∈ now.log → other = operation

section Programs

variable {member : Prop} {task : Nat} {operation : Operation} {origin now : CloudScene}

theorem Holding.emit {event : CloudEvent} (holding : Holding member task operation origin now)
    (plain : ∀ task operation, event ≠ .started task operation)
    (ends : ∀ task result, event ≠ .ended task result)
    (open' : ∀ task query, event = .asked task query → query.controls → now.shared.closing = false) :
    Holding member task operation origin (now.emit event) := by
  refine ⟨⟨holding.yields.invariant.emit plain open' fun d same => absurd same (ends d _), ?_⟩,
    holding.member, fun other begun => ?_⟩
  · exact fun other differs => drain.trans (holding.yields.rely other differs) (.same rfl rfl)
  · rcases List.mem_append.mp begun with early | late
    · exact holding.only other early
    · exact absurd (List.mem_singleton.mp late).symm (plain task other)

theorem Holding.change {move : Coordinator → Coordinator}
    (holding : Holding member task operation origin now)
    (closing : (move now.shared).closing = now.shared.closing)
    (tasks : (move now.shared).commandTasks = now.shared.commandTasks) :
    Holding member task operation origin (now.change move) := by
  refine ⟨⟨holding.yields.invariant.change closing tasks, ?_⟩, ?_, holding.only⟩
  · exact fun other differs => drain.trans (holding.yields.rely other differs) (.same closing tasks)
  · exact fun required => tasks ▸ holding.member required

/-- After a suspension. -/
theorem Holding.later {later : CloudScene} {reply : Option (Sigma Query.Answer)} {event : CloudEvent}
    (holding : Holding member task operation origin now)
    (awaiting : drain.Awaiting task now reply later)
    (plain : ∀ task operation, event ≠ .started task operation)
    (asks : ∀ task query, event ≠ .asked task query) (ends : ∀ task result, event ≠ .ended task result) :
    Holding member task operation later (later.emit event) := by
  have resumed : Holding member task operation later later := by
    refine ⟨⟨awaiting.invariant, fun other _ => drain.refl other later⟩, ?_, ?_⟩
    · exact fun required => awaiting.rely.member (holding.member required)
    · exact awaiting.only holding.only
  exact resumed.emit plain ends fun task query same => absurd same (asks task query)

theorem holding_steady : Steady drain orderly task (Holding member task operation) where
  yields holding := holding.yields
  asked holding allowed := by
    apply holding.emit (by simp) (by simp)
    rintro other query ⟨rfl, rfl⟩ controls
    exact allowed controls
  told holding := holding.emit (by simp) (by simp) (by simp)
  changed {origin now move} holding allowed := by
    obtain ⟨closing, tasks⟩ := allowed now.shared
    exact holding.change closing tasks
  delivered holding awaiting := holding.later awaiting (by simp) (by simp) (by simp)
  granted holding awaiting := holding.later awaiting (by simp) (by simp) (by simp)
  interrupted holding awaiting := holding.later awaiting (by simp) (by simp) (by simp)

/-- The end of a task that is no unload and not in the set. -/
theorem Holding.ends {result : Except Failure Json} (holding : Holding member task operation origin now)
    (command : operation ≠ .unload) : drain.ends task result origin now := by
  refine ⟨holding.yields.invariant.emit (by simp) (by simp) fun d same begun => ?_, ?_⟩
  · cases same
    exact absurd (holding.only _ begun).symm command
  · exact fun other differs => drain.trans (holding.yields.rely other differs) (.same rfl rfl)

section Beginnings

variable {scene after : CloudScene} (draining : Draining scene) (fresh : Async.Foreign task scene.log)

include draining fresh in
/-- A task begins, and perhaps ends at once. -/
theorem Draining.begin (ends : List (Except Failure Json))
    (log : after.log = scene.log ++ .started task operation :: ends.map (.ended task))
    (persists : ∀ other, Persists other scene after)
    (closes : operation = .unload → after.shared.closing ∧ ends = [])
    (placed : operation.tracked → task ∈ after.shared.commandTasks ∨ ends ≠ []) : Draining after := by
  have begun : ∀ {other operation'}, .started other operation' ∈ after.log →
      .started other operation' ∈ scene.log ∨ other = task ∧ operation' = operation := by
    intro other operation' member
    simpa [log] using member
  have silent : Every unguarded after.log := by
    rw [log]
    apply draining.silent.append_free
    intro event member past
    rcases List.mem_cons.mp member with rfl | ended
    · trivial
    · obtain ⟨result, -, rfl⟩ := List.mem_map.mp ended
      trivial
  refine ⟨fun d unload => ?_, silent, fun other operation' started tracked => ?_, fun d unload ended => ?_⟩
  · rcases begun unload with early | ⟨-, same⟩
    · exact (persists d).closing (draining.closed d early)
    · exact (closes same.symm).1
  · rcases begun started with early | ⟨rfl, rfl⟩
    · apply (draining.tracked other operation' early tracked).imp (persists other).member
      exact fun ⟨result, ended⟩ => ⟨result, log ▸ List.mem_append_left _ ended⟩
    · apply (placed tracked).imp id
      intro some
      obtain ⟨result, rest, rfl⟩ := List.exists_cons_of_ne_nil some
      exact ⟨result, by simp [log]⟩
  · rcases begun unload with early | ⟨rfl, same⟩
    · have empty : scene.shared.commandTasks = [] := by
        apply draining.drained d early
        simp only [log, CloudEvent.drained, List.mem_append, List.mem_cons, List.mem_map] at ended
        rcases ended with earlier | impossible | ⟨result, -, impossible⟩
        · exact earlier
        · cases impossible
        · cases impossible
          exact absurd rfl (fresh _ early)
      apply List.eq_nil_of_subset_nil
      rw [← empty]
      exact (persists d).shrinks (draining.closed d early)
    · rw [log, (closes same.symm).2] at ended
      rcases List.mem_append.mp ended with early | late
      · exact absurd rfl (fresh _ early)
      · cases List.mem_singleton.mp late

include draining fresh in
/-- The same for a task that goes on. -/
theorem Draining.holding (move : Coordinator → Coordinator)
    (persists : ∀ other, Persists other scene ((scene.emit (.started task operation)).change move))
    (closes : operation = .unload → (move scene.shared).closing)
    (placed : operation.tracked → task ∈ (move scene.shared).commandTasks) :
    Holding operation.tracked task operation scene
      ((scene.emit (.started task operation)).change move) := by
  refine ⟨⟨?_, fun other _ => ?_⟩, placed, fun other member => ?_⟩
  · exact draining.begin fresh [] rfl persists
      (fun same => ⟨closes same, rfl⟩) fun tracked => .inl (placed tracked)
  · exact persists other
  · rcases List.mem_append.mp member with early | late
    · exact absurd rfl (fresh _ early)
    · cases List.mem_singleton.mp late
      rfl

end Beginnings

section Bodies

variable {body : Method Json} {scene : CloudScene}

/-- Disciplined code of an operation keeps the contract to its end. -/
theorem Holding.wp (holding : Holding member task operation origin now) (command : operation ≠ .unload)
    (keeps : orderly.Keeps body now.shared) : drain.wp task (drain.ends task) body origin now :=
  Contract.wp_mono (holding_steady.wp holding keeps) fun _ _ _ held => held.ends command

/-- A task that is refused at its start. -/
theorem Draining.refused (draining : Draining scene) (fresh : Async.Foreign task scene.log)
    (command : operation ≠ .unload) {result : Except Failure Json} :
    drain.ends task result scene (scene.emit (.started task operation)) := by
  refine ⟨draining.begin fresh [result] (by simp) (fun other => .same rfl rfl)
    (fun same => absurd same command) fun _ => .inr (by simp), fun other _ => .same rfl rfl⟩

/-- A task leaves the set when its body ends. -/
theorem Holding.leave {result : Except Failure Json}
    (holding : Holding member task operation origin now) (command : operation ≠ .unload)
    (inside : task ∈ now.shared.commandTasks) :
    drain.ends task result origin (now.change fun s : Coordinator =>
      { s with commandTasks := s.commandTasks.filter (· ≠ task) }) := by
  have draining := holding.yields.invariant
  have ended : ∀ {event : CloudEvent}, event ∈ (now.log ++ [.ended task result]) →
      event ∈ now.log ∨ event = .ended task result := by simp
  refine ⟨⟨fun d unload => ?_, ?_, fun other operation' started tracked => ?_, fun d unload done => ?_⟩, ?_⟩
  · rcases ended unload with early | impossible
    · exact draining.closed d early
    · cases impossible
  · exact draining.silent.append_singleton trivial
  · rcases ended started with early | impossible
    · by_cases mine : other = task
      · subst mine
        exact .inr ⟨result, List.mem_append_right _ (List.mem_singleton.mpr rfl)⟩
      · rcases draining.tracked other operation' early tracked with inside | ⟨value, before⟩
        · exact .inl (List.mem_filter.mpr ⟨inside, by simpa using mine⟩)
        · exact .inr ⟨value, List.mem_append_left _ before⟩
    · cases impossible
  · rcases ended unload with early | impossible
    · rcases ended done with before | same
      · rw [draining.drained d early before] at inside
        cases inside
      · cases same
        exact absurd (holding.only _ early).symm command
    · cases impossible
  · intro other differs
    refine drain.trans (holding.yields.rely other differs) ⟨id, fun inside => ?_, fun _ => ?_⟩
    · exact List.mem_filter.mpr ⟨inside, by simpa using differs⟩
    · exact List.filter_subset_self _

/-- A tracked operation, whatever its body is. -/
theorem tracked_wp (draining : Draining scene) (fresh : Async.Foreign task scene.log)
    (command : operation.tracked) (keeps : ∀ s, orderly.Keeps body s) :
    drain.wp task (drain.ends task) (Method.tracked task body) scene
      (scene.emit (.started task operation)) := by
  have other : operation ≠ .unload := by
    rintro rfl
    cases command
  rw [Method.tracked, Method.state, Contract.wp_get]
  split
  · exact draining.refused fresh other
  rename_i opened
  rw [Method.change, Contract.wp_modify, Contract.wp_ensure]
  have holding : Holding operation.tracked task operation scene
      ((scene.emit (.started task operation)).change fun s : Coordinator =>
        { s with commandTasks := s.commandTasks ++ [task] }) := by
    apply draining.holding fresh
    · refine fun other => ⟨id, fun inside => List.mem_append_left _ inside, fun closing => ?_⟩
      exact absurd closing opened
    · exact fun same => absurd same other
    · exact fun _ => List.mem_append_right _ (List.mem_singleton.mpr rfl)
  apply Contract.wp_mono (holding_steady.wp holding (keeps _))
  intro _ _ _ held
  exact held.leave other (held.member command)

theorem refresh_wp (mac : String) (draining : Draining scene) (fresh : Async.Foreign task scene.log) :
    drain.wp task (drain.ends task) (Method.refresh mac) scene (scene.emit (.started task .refresh)) := by
  have holding : Holding _ task .refresh scene _ :=
    draining.holding fresh id (fun other => .same rfl rfl) nofun nofun
  exact holding.wp nofun (Method.refresh_keeps mac)

/-- `async_prepare_unload`: nobody joins the set any more, so it is empty when the tasks that
were in it have left it. -/
theorem prepareUnload_wp (draining : Draining scene) (fresh : Async.Foreign task scene.log) :
    drain.wp task (drain.ends task) Method.prepareUnload scene
      (scene.emit (.started task .unload)) := by
  rw [Method.prepareUnload, Method.state, Contract.wp_get, Method.change, Contract.wp_modify,
    Contract.wp_then]
  have holding : Holding _ task .unload scene ((scene.emit (.started task .unload)).change
      fun s : Coordinator => { s with closing := true }) :=
    draining.holding fresh _ (fun other => ⟨fun _ => rfl, id, fun _ => List.Subset.refl _⟩)
      (fun _ => rfl) nofun
  have ends : ∀ {origin now : CloudScene} {result}, Holding (Operation.unload.tracked) task .unload origin now →
      (result = .ok (.bool true) → now.shared.commandTasks = []) → drain.ends task result origin now := by
    intro origin now result holding empty
    refine ⟨holding.yields.invariant.emit (by simp) (by simp) fun d same _ => ?_, ?_⟩
    · cases same
      exact empty rfl
    · exact fun other differs => drain.trans (holding.yields.rely other differs) (.same rfl rfl)
  have left : ∀ {later : Coordinator}, later.commandTasks ⊆ scene.shared.commandTasks →
      (scene.shared.commandTasks.all (!later.commandTasks.contains ·)) → later.commandTasks = [] := by
    intro later subset ready
    apply List.eq_nil_iff_forall_not_mem.mpr
    intro other member
    simpa [member] using List.all_eq_true.mp ready other (subset member)
  apply Contract.wp_awaitReady
  · exact fun ready => ends holding fun _ => left (List.Subset.refl _) ready
  · exact fun _ => holding.yields
  · intro later awaiting ready
    refine ends (holding.later awaiting (by simp) (by simp) (by simp)) fun _ => ?_
    exact left (awaiting.rely.shrinks rfl) ready
  · intro reason later awaiting _
    exact ends (holding.later awaiting (by simp) (by simp) (by simp)) nofun

end Bodies

theorem program_drains (mac : String) : drain.Meets (program mac) := by
  intro operation task scene draining _ fresh
  cases operation with
  | refresh => exact refresh_wp mac draining fresh
  | command order =>
    apply tracked_wp draining fresh rfl
    intro s
    exact (Method.lockedCommand_keeps mac order task).then fun _ _ => trivial
  | experimental action parameters =>
    show drain.wp task (drain.ends task) (Method.experimentalAction mac action parameters task) scene _
    rw [Method.experimentalAction, Method.state, Contract.wp_get]
    split
    · apply draining.refused fresh
      nofun
    · exact tracked_wp draining fresh rfl fun s => Method.lockedExperimental_keeps mac action parameters task
  | unload => exact prepareUnload_wp draining fresh

end Programs

/-- The callers of commands and experimental actions wait behind a shield. -/
def callers : Shield CloudMachine (Step face Operation) Nat where
  enters machine
    | .start (.command _) | .start (.experimental _ _) => some machine.count
    | _ => none
  finished machine task :=
    match machine.tasks task with
    | some ⟨.done _, _⟩ => true
    | _ => false
  persists _ := false

def attended (mac : String) : System (Shielded CloudMachine Nat) (ShieldLabel (Step face Operation) Nat) :=
  callers.system (coordinator mac)

/-- `async_prepare_unload` was called. -/
def unloads (machine : CloudMachine) : Prop := ∃ d, .started d .unload ∈ machine.scene.log

/-- `async_prepare_unload` has returned `True`. -/
def unloaded (machine : CloudMachine) : Prop :=
  ∃ d, .started d .unload ∈ machine.scene.log ∧ CloudEvent.drained d ∈ machine.scene.log

/-- Every command task has finished. -/
def finished (machine : CloudMachine) : Prop :=
  ∀ task operation, .started task operation ∈ machine.scene.log → operation.tracked →
    ∃ result, .ended task result ∈ machine.scene.log

def CloudEvent.controls : CloudEvent → Bool
  | .asked _ query => query.controls
  | _ => false

/-- The control methods of the client that were called so far. -/
def calls (machine : CloudMachine) : List CloudEvent := machine.scene.log.filter CloudEvent.controls

theorem run_draining {mac : String} {machine : CloudMachine} (run : Reachable (coordinator mac) machine) :
    Draining machine.scene := by
  apply ((program_drains mac).kept ?_ (run.unchecked.weaken ?_)).invariant
  · rintro shared ⟨now, wall, rfl⟩
    constructor <;> simp [Every.nil]
  · intro machine label _
    cases label <;> simp [Contract.allows, drain]

/-- Once `async_prepare_unload` is called no control method of the client is; when it has
returned, all tasks of commands and experimental actions are done. -/
theorem coordinator_drains (mac : String) :
    Drains (coordinator mac) unloads unloaded finished calls where
  begun machine _ := fun ⟨d, begun, _⟩ => ⟨d, begun⟩
  finished machine run := by
    rintro ⟨d, begun, done⟩ task operation started tracked
    have draining := run_draining run
    rcases draining.tracked task operation started tracked with inside | ended
    · rw [draining.drained d begun done] at inside
      cases inside
    · exact ended
  silent machine after run := by
    rintro ⟨d, begun⟩ onward
    obtain ⟨events, log⟩ := onward.unchecked.log
    have silent := (run_draining (run.onward onward)).silent
    have uncalled : ∀ event ∈ events, ¬ CloudEvent.controls event := by
      intro event member controls
      obtain ⟨before, future, rfl⟩ := List.append_of_mem member
      have judged := silent (machine.scene.log ++ before) event future (by rw [← log]; simp)
      cases event with
      | asked task query => exact judged controls d (List.mem_append_left _ begun)
      | _ => cases controls
    rw [calls, calls, ← log, List.filter_append, List.filter_eq_nil_iff.mpr uncalled, List.append_nil]

/-- The same whatever becomes of the callers. -/
theorem unload_drains (mac : String) : Drains (attended mac) (fun w => unloads w.inner)
    (fun w => unloaded w.inner) (fun w => finished w.inner) fun w => calls w.inner :=
  (coordinator_drains mac).shielded

end AlorairLite.Cloud
