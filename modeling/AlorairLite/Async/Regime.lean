import AlorairLite.Async.Discipline

/-! Machines whose tasks keep the discipline of their operation, whoever starts them and whatever is
done to the shared state between their steps. -/

namespace Async

variable {face : Interface} {Operation Result : Type}

/-- What an operation may ask does not depend on the shared state, and what it does to the shared
state keeps an assertion. -/
structure Regime (face : Interface) (Operation : Type) where
  rule : Operation → Discipline face
  holds : face.State → Prop
  uniform : ∀ operation query state later, (rule operation).asks query state → (rule operation).asks query later
  kept : ∀ operation move state, (rule operation).moves move → holds state → holds (move state)
  drifts : ∀ drift state, holds state → holds (face.drift drift state)

variable {regime : Regime face Operation} {operation : Operation} {scene : Scene face Operation Result}
  {machine after : Machine face Operation Result}

/-- The code keeps the discipline of this operation in every state. -/
def Regime.Keeps (regime : Regime face Operation) (operation : Operation) (code : Coroutine face Result) : Prop :=
  ∀ state, (regime.rule operation).Keeps code state

/-- The questions that are asked here are those that the operation of their task may ask. -/
def Regime.Asks (regime : Regime face Operation) (log : List (Event face Operation Result)) : Prop :=
  ∀ task query, .asked task query ∈ log → ∃ operation, .started task operation ∈ log ∧
    ∀ state, (regime.rule operation).asks query state

theorem Regime.Asks.emit {event : Event face Operation Result} (asks : regime.Asks scene.log)
    (other : ∀ task query, event ≠ .asked task query) : regime.Asks (scene.emit event).log := by
  intro task query member
  rcases List.mem_append.mp member with before | new
  · obtain ⟨operation, started, allowed⟩ := asks task query before
    exact ⟨operation, List.mem_append_left _ started, allowed⟩
  · exact (other task query (List.mem_singleton.mp new).symm).elim

/-- What a task leaves behind at its next suspension. -/
structure Regime.Settled (regime : Regime face Operation) (operation : Operation)
    (left : Coroutine face Result × Scene face Operation Result) : Prop where
  holds : regime.holds left.2.shared
  keeps : regime.Keeps operation left.1
  asks : regime.Asks left.2.log

theorem Discipline.Keeps.settle {code : Coroutine face Result} {task : Nat}
    (keeps : (regime.rule operation).Keeps code scene.shared) (held : regime.holds scene.shared)
    (asks : regime.Asks scene.log) (started : .started task operation ∈ scene.log) :
    regime.Settled operation (code.settle task scene) := by
  induction code generalizing scene with
  | done result => exact ⟨held, fun _ => trivial, asks.emit (by simp)⟩
  | act move next ih =>
    exact ih scene.shared keeps.2 (regime.kept operation move scene.shared keeps.1 held) asks started
  | tell remark next ih =>
    exact ih keeps held (asks.emit (by simp)) (List.mem_append_left _ started)
  | ask query resume interrupted =>
    have allowed : ∀ state, (regime.rule operation).asks query state :=
      fun state => regime.uniform operation query scene.shared state keeps.1
    refine ⟨held, fun state => ⟨allowed state, keeps.2⟩, ?_⟩
    intro asker asked member
    rcases List.mem_append.mp member with before | new
    · obtain ⟨operation', started', allowed'⟩ := asks asker asked before
      exact ⟨operation', List.mem_append_left _ started', allowed'⟩
    · cases List.mem_singleton.mp new
      exact ⟨operation, List.mem_append_left _ started, allowed⟩
  | wait ready resume interrupted granted =>
    rw [Coroutine.settle]
    split
    · exact granted keeps.1 held asks started
    · exact ⟨held, fun state => ⟨keeps.2.1 state, keeps.2⟩, asks⟩

/-- A machine under the regime. -/
structure Disciplined (regime : Regime face Operation) (machine : Machine face Operation Result) : Prop where
  holds : regime.holds machine.scene.shared
  asks : regime.Asks machine.scene.log
  tasks : ∀ task held, machine.tasks task = some held → ∃ operation,
    .started task operation ∈ machine.scene.log ∧ regime.Keeps operation held.code

/-- A task goes on behind an event that asks nothing. -/
theorem Disciplined.advance {task count : Nat} {event : Event face Operation Result} {code : Coroutine face Result}
    (disciplined : Disciplined regime machine) (quiet : ∀ asker query, event ≠ .asked asker query)
    (started : .started task operation ∈ machine.scene.log ∨ event = .started task operation)
    (keeps : regime.Keeps operation code) :
    Disciplined regime ({ machine with count }.advance task event code) := by
  have begun : .started task operation ∈ (machine.scene.emit event).log := by
    rcases started with before | rfl
    · exact List.mem_append_left _ before
    · exact List.mem_append_right _ (List.mem_singleton_self _)
  have settled := (keeps (machine.scene.emit event).shared).settle disciplined.holds (disciplined.asks.emit quiet) begun
  obtain ⟨events, log, -⟩ := code.settle_log task (machine.scene.emit event)
  have grown : (machine.scene.emit event).log ⊆ (code.settle task (machine.scene.emit event)).2.log := by
    rw [log]
    exact List.subset_append_left _ _
  refine ⟨settled.holds, settled.asks, ?_⟩
  intro other held found
  by_cases same : other = task
  · subst same
    rw [Machine.advance_tasks, Function.update_self] at found
    cases found
    exact ⟨operation, grown begun, settled.keeps⟩
  · rw [Machine.advance_tasks, Function.update_of_ne same] at found
    obtain ⟨operation', started', keeps'⟩ := disciplined.tasks other held found
    exact ⟨operation', grown (List.mem_append_left _ started'), keeps'⟩

/-- The shared state and the history of no task's doing. -/
theorem Disciplined.aside {scene : Scene face Operation Result} (disciplined : Disciplined regime machine)
    (holds : regime.holds scene.shared) (asks : regime.Asks scene.log) (grown : machine.scene.log ⊆ scene.log) :
    Disciplined regime { machine with scene } := by
  refine ⟨holds, asks, fun task held found => ?_⟩
  obtain ⟨operation, started, keeps⟩ := disciplined.tasks task held found
  exact ⟨operation, grown started, keeps⟩

theorem Disciplined.step [DecidableEq face.Query] {program : Operation → Nat → Coroutine face Result}
    {label : Step face Operation} (disciplined : Disciplined regime machine)
    (lawful : ∀ operation task, regime.Keeps operation (program operation task))
    (taken : machine.step program label = some after) : Disciplined regime after := by
  cases label with
  | start operation =>
    cases taken
    exact disciplined.advance (by simp) (.inr rfl) (lawful operation _)
  | answer task reply =>
    simp only [Machine.step, Machine.answer] at taken
    split at taken
    · rename_i query next stopped suspended
      split at taken
      · cases taken
        have silent : ∀ asker query, (.answered task reply : Event face Operation Result) ≠ .asked asker query := by
          simp
        have asks : regime.Asks (machine.scene.emit (.answered task reply)).log := disciplined.asks.emit silent
        have grown : machine.scene.log ⊆ (machine.scene.emit (.answered task reply)).log :=
          List.subset_append_left _ _
        refine ⟨disciplined.holds, asks, fun other held found => ?_⟩
        dsimp only at found
        by_cases same : other = task
        · subst same
          rw [Function.update_self] at found
          cases found
          obtain ⟨operation, started, keeps⟩ := disciplined.tasks other _ suspended
          exact ⟨operation, grown started, keeps⟩
        · rw [Function.update_of_ne same] at found
          obtain ⟨operation, started, keeps⟩ := disciplined.tasks other held found
          exact ⟨operation, grown started, keeps⟩
      · cases taken
    · cases taken
  | resume task =>
    simp only [Machine.step, Machine.resume] at taken
    split at taken
    · rename_i query next stopped reply suspended
      obtain ⟨operation, started, keeps⟩ := disciplined.tasks task _ suspended
      split at taken
      · cases taken
        exact disciplined.advance (by simp) (.inl started) fun state => (keeps state).2.1 _ state
      · cases taken
    · rename_i ready next stopped suspended
      obtain ⟨operation, started, keeps⟩ := disciplined.tasks task _ suspended
      split at taken
      · cases taken
        exact disciplined.advance (by simp) (.inl started) fun state => (keeps state).1
      · cases taken
    · cases taken
  | interrupt task reason =>
    simp only [Machine.step, Machine.interrupt] at taken
    split at taken
    · rename_i query next stopped answer suspended
      cases taken
      obtain ⟨operation, started, keeps⟩ := disciplined.tasks task _ suspended
      exact disciplined.advance (by simp) (.inl started) fun state => (keeps state).2.2 reason state
    · rename_i ready next stopped suspended
      cases taken
      obtain ⟨operation, started, keeps⟩ := disciplined.tasks task _ suspended
      exact disciplined.advance (by simp) (.inl started) fun state => (keeps state).2.2 reason state
    · cases taken
  | drift drift =>
    cases taken
    have silent : ∀ asker query, (.drifted drift : Event face Operation Result) ≠ .asked asker query := by simp
    exact disciplined.aside (regime.drifts drift _ disciplined.holds) (disciplined.asks.emit silent)
      (List.subset_append_left _ _)

end Async
