/-! Labelled transition systems: runs whose steps all meet a condition, the
invariant rule, and weakly fair infinite executions with one response rule. -/

namespace Async

universe u v

structure System (State : Type u) (Label : Type v) where
  initial : State → Prop
  step : State → Label → Option State

variable {State : Type u} {Label : Type v} {sys : System State Label}

/-- States reached by steps that all meet a condition on the state before the
step and its label. -/
inductive Run (sys : System State Label) (meets : State → Label → Prop) : State → Prop where
  | start (initial : sys.initial state) : Run sys meets state
  | next (earlier : Run sys meets state) (allowed : meets state label)
      (taken : sys.step state label = some after) : Run sys meets after

/-- Every state the system can reach. -/
abbrev Reachable (sys : System State Label) : State → Prop := Run sys fun _ _ => True

theorem Run.weaken {meets easier : State → Label → Prop} {state : State}
    (run : Run sys meets state) (implied : ∀ state label, meets state label → easier state label) :
    Run sys easier state := by
  induction run with
  | start initial => exact .start initial
  | next _ allowed taken ih => exact .next ih (implied _ _ allowed) taken

theorem Run.reachable {meets : State → Label → Prop} {state : State} (run : Run sys meets state) :
    Reachable sys state := run.weaken fun _ _ _ => trivial

/-- What holds initially and is kept by every allowed step holds in every run.
The step may use that the state before it was reached. -/
theorem Run.invariant {meets : State → Label → Prop} (holds : State → Prop)
    (initially : ∀ state, sys.initial state → holds state)
    (kept : ∀ state label after, Run sys meets state → holds state → meets state label →
      sys.step state label = some after → holds after)
    {state : State} (run : Run sys meets state) : holds state := by
  induction run with
  | start initial => exact initially _ initial
  | next earlier allowed taken ih => exact kept _ _ _ earlier ih allowed taken

/-- Follow a finite list of labels; `none` when one of them is not enabled. -/
def System.follow (sys : System State Label) (state : State) : List Label → Option State
  | [] => some state
  | label :: rest => (sys.step state label).bind (sys.follow · rest)

theorem Run.follow {meets : State → Label → Prop} {state after : State} {labels : List Label}
    (run : Run sys meets state) (allowed : ∀ state label, meets state label)
    (followed : sys.follow state labels = some after) : Run sys meets after := by
  induction labels generalizing state with
  | nil =>
    cases Option.some.inj followed
    exact run
  | cons label rest ih =>
    obtain ⟨middle, taken, remaining⟩ := Option.bind_eq_some_iff.mp followed
    exact ih (.next run (allowed _ _) taken) remaining

/-- The same system, checking every step before it takes it. -/
def System.checked (sys : System State Label) (check : State → Label → Bool) :
    System State Label where
  initial := sys.initial
  step state label := if check state label then sys.step state label else none

theorem Run.of_checked {check : State → Label → Bool} {meets : State → Label → Prop}
    {state after : State} {labels : List Label} (run : Run sys meets state)
    (implied : ∀ state label, check state label → meets state label)
    (followed : (sys.checked check).follow state labels = some after) :
    Run sys meets after ∧ sys.follow state labels = some after := by
  induction labels generalizing state with
  | nil =>
    cases Option.some.inj followed
    exact ⟨run, rfl⟩
  | cons label rest ih =>
    obtain ⟨middle, taken, remaining⟩ := Option.bind_eq_some_iff.mp followed
    simp only [System.checked] at taken
    split at taken
    · rename_i passed
      obtain ⟨reached, later⟩ := ih (.next run (implied _ _ passed) taken) remaining
      exact ⟨reached, Option.bind_eq_some_iff.mpr ⟨middle, taken, later⟩⟩
    · cases taken

theorem Run.unchecked {check : State → Label → Bool} {meets : State → Label → Prop} {state : State}
    (run : Run (sys.checked check) meets state) :
    Run sys (fun state label => check state label ∧ meets state label) state := by
  induction run with
  | start initial => exact .start initial
  | next _ allowed taken ih =>
    simp only [System.checked] at taken
    split at taken
    · rename_i passed
      exact .next ih ⟨passed, allowed⟩ taken
    · cases taken

/-- What a run reaches from one of its states, in any number of steps. -/
inductive Onward (sys : System State Label) (meets : State → Label → Prop) (state : State) :
    State → Prop where
  | here : Onward sys meets state state
  | next (earlier : Onward sys meets state middle) (allowed : meets middle label)
      (taken : sys.step middle label = some after) : Onward sys meets state after

theorem Onward.unchecked {check : State → Label → Bool} {meets : State → Label → Prop}
    {state after : State} (onward : Onward (sys.checked check) meets state after) :
    Onward sys (fun state label => check state label ∧ meets state label) state after := by
  induction onward with
  | here => exact .here
  | next _ allowed taken ih =>
    simp only [System.checked] at taken
    split at taken
    · rename_i passed
      exact .next ih ⟨passed, allowed⟩ taken
    · cases taken

theorem Run.onward {meets : State → Label → Prop} {state after : State} (run : Run sys meets state)
    (onward : Onward sys meets state after) : Run sys meets after := by
  induction onward with
  | here => exact run
  | next _ allowed taken ih => exact .next ih allowed taken

theorem Onward.of_follow {check : State → Label → Bool} {meets : State → Label → Prop}
    {state middle after : State} {labels : List Label} (earlier : Onward sys meets state middle)
    (implied : ∀ state label, check state label → meets state label)
    (followed : (sys.checked check).follow middle labels = some after) :
    Onward sys meets state after := by
  induction labels generalizing middle with
  | nil =>
    cases Option.some.inj followed
    exact earlier
  | cons label rest ih =>
    obtain ⟨next, taken, remaining⟩ := Option.bind_eq_some_iff.mp followed
    simp only [System.checked] at taken
    split at taken
    · rename_i passed
      exact ih (.next earlier (implied _ _ passed) taken) remaining
    · cases taken

/-- An infinite execution. A position without a label is an idle moment. -/
structure Execution (sys : System State Label) where
  state : Nat → State
  label : Nat → Option Label
  starts : sys.initial (state 0)
  moves : ∀ n l, label n = some l → sys.step (state n) l = some (state (n + 1))
  idles : ∀ n, label n = none → state (n + 1) = state n

/-- The states of an execution whose steps all meet the condition. -/
theorem Execution.reached {meets : State → Label → Prop} (run : Execution sys)
    (allowed : ∀ n label, run.label n = some label → meets (run.state n) label) (n : Nat) :
    Run sys meets (run.state n) := by
  induction n with
  | zero => exact .start run.starts
  | succ n ih =>
    cases labelled : run.label n with
    | none => exact run.idles n labelled ▸ ih
    | some label => exact .next ih (allowed n label labelled) (run.moves n label labelled)

theorem Execution.reachable (run : Execution sys) (n : Nat) : Reachable sys (run.state n) :=
  run.reached (fun _ _ _ => trivial) n

/-- An execution that checks its steps is one of the system, and its steps pass the check. -/
theorem Execution.unchecked {check : State → Label → Bool} (run : Execution (sys.checked check)) :
    ∃ other : Execution sys, other.state = run.state ∧ other.label = run.label ∧
      ∀ n label, run.label n = some label → check (run.state n) label := by
  have passes : ∀ n label, run.label n = some label →
      check (run.state n) label ∧ sys.step (run.state n) label = some (run.state (n + 1)) := by
    intro n label labelled
    have taken := run.moves n label labelled
    simp only [System.checked] at taken
    split at taken
    · rename_i passed
      exact ⟨passed, taken⟩
    · cases taken
  exact ⟨⟨run.state, run.label, run.starts, fun n label here => (passes n label here).2, run.idles⟩, rfl, rfl,
    fun n label here => (passes n label here).1⟩

/-- A property every step keeps, once true in an execution, stays true. -/
theorem Execution.stable (run : Execution sys) {holds : State → Prop}
    (kept : ∀ state label after, Reachable sys state → holds state →
      sys.step state label = some after → holds after)
    {n m : Nat} (later : n ≤ m) (now : holds (run.state n)) : holds (run.state m) := by
  induction later with
  | refl => exact now
  | @step m _ ih =>
    cases labelled : run.label m with
    | none => exact run.idles m labelled ▸ ih
    | some label => exact kept _ _ _ (run.reachable m) ih (run.moves m label labelled)

/-- Weak fairness: a label that stays enabled from some moment on is taken. -/
def Execution.Fair (run : Execution sys) (label : Label) : Prop :=
  ∀ n, (∀ m, n ≤ m → (sys.step (run.state m) label).isSome) → ∃ m, n ≤ m ∧ run.label m = some label

/-- A label that is disabled again and again is treated fairly. -/
theorem Execution.fair_of_disabled (run : Execution sys) {label : Label}
    (disabled : ∀ n, ∃ m, n ≤ m ∧ sys.step (run.state m) label = none) : run.Fair label := by
  intro n enabled
  obtain ⟨m, later, absent⟩ := disabled n
  have present := enabled m later
  rw [absent] at present
  cases present

theorem System.follow_append (sys : System State Label) (state : State) (labels later : List Label) :
    sys.follow state (labels ++ later) = (sys.follow state labels).bind (sys.follow · later) := by
  induction labels generalizing state with
  | nil => rfl
  | cons label rest ih =>
    simp only [List.cons_append, System.follow, Option.bind_assoc]
    exact congrArg _ (funext fun middle => ih middle)

/-- A finite run that idles for ever after is an execution. -/
theorem Execution.idling {start after : State} {labels : List Label} (initial : sys.initial start)
    (followed : sys.follow start labels = some after) :
    ∃ run : Execution sys, (∀ n, run.label n = labels[n]?) ∧ ∀ n, labels.length ≤ n → run.state n = after := by
  have reached : ∀ n, ∃ state, sys.follow start (labels.take n) = some state := by
    intro n
    have split := sys.follow_append start (labels.take n) (labels.drop n)
    rw [List.take_append_drop, followed] at split
    obtain ⟨state, taken, -⟩ := Option.bind_eq_some_iff.mp split.symm
    exact ⟨state, taken⟩
  obtain ⟨state, spec⟩ := Classical.axiomOfChoice reached
  refine ⟨⟨state, fun n => labels[n]?, ?_, ?_, ?_⟩, fun _ => rfl, ?_⟩
  · have same := spec 0
    simp only [List.take_zero, System.follow, Option.some.injEq] at same
    exact same ▸ initial
  · intro n label found
    have next := spec (n + 1)
    rw [List.take_add_one, found, Option.toList_some, sys.follow_append, spec n] at next
    simpa [System.follow] using next
  · intro n absent
    have next := spec (n + 1)
    rw [List.take_add_one, absent, Option.toList_none, List.append_nil, spec n] at next
    exact (Option.some.inj next).symm
  · intro n beyond
    have last := spec n
    rw [List.take_of_length_le beyond, followed] at last
    exact (Option.some.inj last).symm

/-- Response under weak fairness: while the goal is not reached `waiting` is
kept and keeps the label enabled, and taking the label reaches the goal. -/
theorem Execution.eventually (run : Execution sys) {label : Label} (fair : run.Fair label)
    (waiting goal : State → Prop)
    (kept : ∀ state other after, Reachable sys state → waiting state →
      sys.step state other = some after → waiting after ∨ goal after)
    (enabled : ∀ state, Reachable sys state → waiting state → (sys.step state label).isSome)
    (reaches : ∀ state after, Reachable sys state → waiting state →
      sys.step state label = some after → goal after)
    {n : Nat} (begun : waiting (run.state n)) : ∃ m, n ≤ m ∧ goal (run.state m) := by
  refine Classical.byContradiction fun never => ?_
  have absent : ∀ m, n ≤ m → ¬ goal (run.state m) := fun m later reached => never ⟨m, later, reached⟩
  have waits : ∀ m, n ≤ m → waiting (run.state m) := by
    intro m later
    induction later with
    | refl => exact begun
    | @step m earlier ih =>
      cases labelled : run.label m with
      | none => exact run.idles m labelled ▸ ih
      | some other =>
        rcases kept _ _ _ (run.reachable m) ih (run.moves m other labelled) with still | reached
        · exact still
        · exact absurd reached (absent _ (Nat.le_succ_of_le earlier))
  obtain ⟨m, later, taken⟩ := fair n fun m later => enabled _ (run.reachable m) (waits m later)
  exact absent (m + 1) (Nat.le_succ_of_le later)
    (reaches _ _ (run.reachable m) (waits m later) (run.moves m label taken))

/-- The same response rule with a rank: other steps may lower the rank but not
raise it, and taking the label either reaches the goal or lowers it. -/
theorem Execution.eventually_ranked (run : Execution sys) {label : Label} (fair : run.Fair label)
    (waiting : Nat → State → Prop) (goal : State → Prop)
    (kept : ∀ rank state other after, Reachable sys state → waiting rank state →
      sys.step state other = some after → (∃ lower, lower ≤ rank ∧ waiting lower after) ∨ goal after)
    (enabled : ∀ rank state, Reachable sys state → waiting rank state →
      (sys.step state label).isSome)
    (reaches : ∀ rank state after, Reachable sys state → waiting rank state →
      sys.step state label = some after → (∃ lower, lower < rank ∧ waiting lower after) ∨ goal after)
    {rank n : Nat} (begun : waiting rank (run.state n)) : ∃ m, n ≤ m ∧ goal (run.state m) := by
  induction rank using Nat.strongRecOn generalizing n with
  | ind rank ih =>
    obtain ⟨m, later, lowered | reached⟩ := run.eventually fair
      (waiting rank) (fun state => (∃ lower, lower < rank ∧ waiting lower state) ∨ goal state)
      (fun state other after seen now taken => by
        rcases kept rank state other after seen now taken with ⟨lower, bound, still⟩ | reached
        · rcases Nat.lt_or_eq_of_le bound with less | same
          · exact .inr (.inl ⟨lower, less, still⟩)
          · exact .inl (same ▸ still)
        · exact .inr (.inr reached))
      (enabled rank) (reaches rank) begun
    · obtain ⟨lower, less, still⟩ := lowered
      obtain ⟨last, after, reached⟩ := ih lower less still
      exact ⟨last, Nat.le_trans later after, reached⟩
    · exact ⟨m, later, reached⟩

end Async
