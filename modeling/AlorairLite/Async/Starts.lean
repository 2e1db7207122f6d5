import AlorairLite.Async.Contract
import Mathlib.Data.List.Nodup

/-! The tasks of a machine are those that were started, each once. -/

namespace Async

variable {face : Interface} {Operation Result : Type}

/-- The task that is started here, and its operation. -/
def Event.start? : Event face Operation Result → Option (Nat × Operation)
  | .started task operation => some (task, operation)
  | _ => none

/-- The tasks that were started, in this order. -/
def starts (log : List (Event face Operation Result)) : List (Nat × Operation) := log.filterMap Event.start?

theorem mem_starts {log : List (Event face Operation Result)} {task : Nat} {operation : Operation} :
    (task, operation) ∈ starts log ↔ .started task operation ∈ log := by
  constructor
  · intro member
    obtain ⟨event, present, same⟩ := List.mem_filterMap.mp member
    cases event <;> cases same
    exact present
  · exact fun present => List.mem_filterMap.mpr ⟨_, present, rfl⟩

theorem starts_append (log later : List (Event face Operation Result)) :
    starts (log ++ later) = starts log ++ starts later := List.filterMap_append

/-- A task starts no other. -/
theorem Coroutine.settle_starts (task : Nat) (code : Coroutine face Result)
    (scene : Scene face Operation Result) : starts (code.settle task scene).2.log = starts scene.log := by
  induction code generalizing scene with
  | done result => simp [settle, starts, Event.start?]
  | act move next ih => exact ih scene.shared (scene.change move)
  | tell remark next ih =>
    rw [settle, ih, Scene.emit_log, starts_append]
    exact List.append_nil _
  | ask query resume interrupted => simp [settle, starts, Event.start?]
  | wait ready resume interrupted granted stopped =>
    rw [settle]
    split
    · exact granted scene
    · rfl

/-- The tasks are counted in the order in which they were started. -/
structure Counted (machine : Machine face Operation Result) : Prop where
  starts : (starts machine.scene.log).map Prod.fst = List.range machine.count
  present : ∀ task, task < machine.count → ∃ held, machine.tasks task = some held

theorem Counted.unique {machine : Machine face Operation Result} {task : Nat} {operation other : Operation}
    (counted : Counted machine) (first : .started task operation ∈ machine.scene.log)
    (second : .started task other ∈ machine.scene.log) : operation = other := by
  have distinct : ((Async.starts machine.scene.log).map Prod.fst).Nodup := counted.starts ▸ List.nodup_range
  have same := List.inj_on_of_nodup_map distinct (mem_starts.mpr first) (mem_starts.mpr second) rfl
  exact (Prod.mk.inj same).2

theorem Counted.held {machine : Machine face Operation Result} {task : Nat} {operation : Operation}
    (counted : Counted machine) (started : .started task operation ∈ machine.scene.log) :
    ∃ held, machine.tasks task = some held := by
  apply counted.present
  rw [← List.mem_range, ← counted.starts]
  exact List.mem_map_of_mem (mem_starts.mpr started)

/-- What the task has ended with. -/
def Machine.result? (machine : Machine face Operation Result) (task : Nat) : Option Result :=
  match machine.tasks task with
  | some ⟨.done result, _⟩ => some result
  | _ => none

variable {machine after : Machine face Operation Result} {task : Nat}

theorem Machine.result?_some {result : Result} (ended : machine.result? task = some result) :
    ∃ held, machine.tasks task = some held ∧ held.code = .done result := by
  unfold result? at ended
  split at ended
  · rename_i found
    cases ended
    exact ⟨_, found, rfl⟩
  · cases ended

theorem Machine.advance_starts {event : Event face Operation Result} {code : Coroutine face Result}
    (going : event.start? = none) : starts (machine.advance task event code).scene.log = starts machine.scene.log := by
  rw [advance_scene, Coroutine.settle_starts, Scene.emit_log, starts_append]
  simp [Async.starts, going]

/-- A task takes its turn. -/
theorem Counted.advance {held : Task face Result} {event : Event face Operation Result}
    {code : Coroutine face Result} (counted : Counted machine) (found : machine.tasks task = some held)
    (going : event.start? = none) : Counted (machine.advance task event code) := by
  constructor
  · rw [machine.advance_starts going]
    exact counted.starts
  · intro other known
    rw [Machine.advance_tasks]
    by_cases same : other = task
    · subst same
      exact ⟨_, Function.update_self ..⟩
    · rw [Function.update_of_ne same]
      exact counted.present other known

variable [DecidableEq face.Query] {program : Operation → Nat → Coroutine face Result}

theorem Counted.step {label : Step face Operation} (counted : Counted machine)
    (taken : machine.step program label = some after) : Counted after := by
  cases label with
  | start operation =>
    cases taken
    constructor
    · rw [Machine.advance_scene, Coroutine.settle_starts, Scene.emit_log, starts_append, List.map_append,
        counted.starts, Machine.advance_count, List.range_succ]
      rfl
    · intro other known
      rw [Machine.advance_tasks]
      by_cases same : other = machine.count
      · subst same
        exact ⟨_, Function.update_self ..⟩
      · rw [Function.update_of_ne same]
        exact counted.present other (Nat.lt_of_le_of_ne (Nat.lt_succ_iff.mp known) same)
  | answer task reply =>
    simp only [Machine.step, Machine.answer] at taken
    split at taken
    · split at taken
      · cases taken
        constructor
        · rw [Scene.emit_log, starts_append]
          exact (congrArg (List.map Prod.fst) (List.append_nil _)).trans counted.starts
        · intro other known
          dsimp only
          by_cases same : other = task
          · subst same
            exact ⟨_, Function.update_self ..⟩
          · rw [Function.update_of_ne same]
            exact counted.present other known
      · cases taken
    · cases taken
  | resume task =>
    simp only [Machine.step, Machine.resume] at taken
    split at taken
    · rename_i found
      split at taken
      · cases taken
        exact counted.advance found rfl
      · cases taken
    · rename_i found
      split at taken
      · cases taken
        exact counted.advance found rfl
      · cases taken
    · cases taken
  | interrupt task reason =>
    simp only [Machine.step, Machine.interrupt] at taken
    split at taken
    · rename_i found
      cases taken
      exact counted.advance found rfl
    · rename_i found
      cases taken
      exact counted.advance found rfl
    · cases taken
  | drift drift =>
    cases taken
    constructor
    · rw [show (machine.drift drift).scene.log = machine.scene.log ++ [.drifted drift] from rfl, starts_append]
      exact (congrArg (List.map Prod.fst) (List.append_nil _)).trans counted.starts
    · exact counted.present

/-- A step starts one task, if it is the step that starts one. -/
theorem Machine.step_starts {label : Step face Operation} (taken : machine.step program label = some after) :
    starts after.scene.log = starts machine.scene.log ∨ ∃ operation, label = .start operation ∧
      starts after.scene.log = starts machine.scene.log ++ [(machine.count, operation)] := by
  cases label with
  | start operation =>
    cases taken
    refine .inr ⟨operation, rfl, ?_⟩
    rw [advance_scene, Coroutine.settle_starts, Scene.emit_log, starts_append]
    rfl
  | answer task reply =>
    simp only [step, answer] at taken
    split at taken
    · split at taken
      · cases taken
        exact .inl ((starts_append _ _).trans (List.append_nil _))
      · cases taken
    · cases taken
  | resume task =>
    simp only [step, resume] at taken
    split at taken
    · split at taken
      · cases taken
        exact .inl (machine.advance_starts rfl)
      · cases taken
    · split at taken
      · cases taken
        exact .inl (machine.advance_starts rfl)
      · cases taken
    · cases taken
  | interrupt task reason =>
    simp only [step, interrupt] at taken
    split at taken
    · cases taken
      exact .inl (machine.advance_starts rfl)
    · cases taken
      exact .inl (machine.advance_starts rfl)
    · cases taken
  | drift drift =>
    cases taken
    exact .inl ((starts_append _ _).trans (List.append_nil _))

theorem Run.counted {begin : face.State → Prop}
    {meets : Machine face Operation Result → Step face Operation → Prop}
    (run : Run (scheduler program begin) meets machine) : Counted machine := by
  apply run.invariant
  · rintro machine ⟨shared, -, rfl⟩
    exact ⟨rfl, fun task impossible => absurd impossible (Nat.not_lt_zero _)⟩
  · intro machine label after _ counted _ taken
    exact counted.step taken

end Async
