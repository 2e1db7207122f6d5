import AlorairLite.Async.Transition
import Mathlib.Logic.Function.Basic

/-! Callers that wait for tasks of a system behind a shield. A cancellation reaches the
caller and not the task; a persistent caller catches it and waits again. -/

namespace Async

/-- Where a caller is. -/
inductive Waiter where
  | absent
  | waiting
  | cancelled
  | returned
deriving DecidableEq

structure Shielded (State Caller : Type) where
  inner : State
  callers : Caller → Waiter := fun _ => .absent

inductive ShieldLabel (Label Caller : Type) where
  | inner (label : Label)
  | cancel (caller : Caller)
  | resume (caller : Caller)

/-- How callers come, for what they wait, and whether they persist. -/
structure Shield (State Label Caller : Type) where
  enters : State → Label → Option Caller
  finished : State → Caller → Bool
  persists : Caller → Bool

variable {State Label Caller : Type} [DecidableEq Caller]

namespace Shield

variable (shield : Shield State Label Caller)

def welcome (callers : Caller → Waiter) : Option Caller → Caller → Waiter
  | none => callers
  | some caller => Function.update callers caller .waiting

def step (sys : System State Label) (w : Shielded State Caller) :
    ShieldLabel Label Caller → Option (Shielded State Caller)
  | .inner label => (sys.step w.inner label).map fun inner =>
    { inner, callers := welcome w.callers (shield.enters w.inner label) }
  | .cancel caller =>
    if w.callers caller = .waiting then
      some (if shield.persists caller then w
        else { w with callers := Function.update w.callers caller .cancelled })
    else none
  | .resume caller =>
    if w.callers caller = .waiting ∧ shield.finished w.inner caller then
      some { w with callers := Function.update w.callers caller .returned }
    else none

/-- The system with its callers, who come and are cancelled in any order. -/
def system (sys : System State Label) : System (Shielded State Caller) (ShieldLabel Label Caller) where
  initial w := sys.initial w.inner ∧ ∀ caller, w.callers caller = .absent
  step := shield.step sys

variable {shield} {sys : System State Label} {w after : Shielded State Caller}

/-- A step is one of the system below, or one of a caller, which the system does not see. -/
theorem step_inner {label : ShieldLabel Label Caller} (taken : shield.step sys w label = some after) :
    (∃ inner, sys.step w.inner inner = some after.inner) ∨ after.inner = w.inner := by
  cases label with
  | inner label =>
    obtain ⟨inner, moved, rfl⟩ := Option.map_eq_some_iff.mp taken
    exact .inl ⟨label, moved⟩
  | cancel caller =>
    simp only [step] at taken
    split at taken
    · cases taken
      split <;> exact .inr rfl
    · cases taken
  | resume caller =>
    simp only [step] at taken
    split at taken
    · cases taken
      exact .inr rfl
    · cases taken

/-- Whatever happens to the callers, the system below makes a run of its own. -/
theorem reachable_inner (run : Reachable (shield.system sys) w) : Reachable sys w.inner := by
  induction run with
  | start initial => exact .start initial.1
  | next _ _ taken ih =>
    rcases step_inner taken with ⟨label, moved⟩ | same
    · exact .next ih trivial moved
    · rw [same]
      exact ih

theorem onward_inner (onward : Onward (shield.system sys) (fun _ _ => True) w after) :
    Onward sys (fun _ _ => True) w.inner after.inner := by
  induction onward with
  | here => exact .here
  | next _ _ taken ih =>
    rcases step_inner taken with ⟨label, moved⟩ | same
    · exact .next ih trivial moved
    · rw [same]
      exact ih

/-- A caller returns only by a step of its own, when its task is finished. -/
theorem step_returned {label : ShieldLabel Label Caller} {caller : Caller}
    (taken : shield.step sys w label = some after) (returned : after.callers caller = .returned) :
    w.callers caller = .returned ∨ after.inner = w.inner ∧ shield.finished w.inner caller := by
  cases label with
  | inner label =>
    obtain ⟨inner, moved, rfl⟩ := Option.map_eq_some_iff.mp taken
    cases entering : shield.enters w.inner label with
    | none => exact .inl (by simpa [welcome, entering] using returned)
    | some entered =>
      by_cases same : caller = entered
      · simp [welcome, entering, same] at returned
      · exact .inl (by simpa [welcome, entering, same] using returned)
  | cancel other =>
    simp only [step] at taken
    split at taken
    · cases taken
      split at returned
      · exact .inl returned
      · by_cases same : caller = other
        · simp [same] at returned
        · exact .inl (by simpa [same] using returned)
    · cases taken
  | resume other =>
    simp only [step] at taken
    split at taken
    · rename_i ready
      cases taken
      by_cases same : caller = other
      · subst same
        exact .inr ⟨rfl, ready.2⟩
      · exact .inl (by simpa [same] using returned)
    · cases taken

/-- What a finished task has brought about, and no step undoes, holds of every caller that
has returned. -/
theorem returned_holds {caller : Caller} (holds : State → Prop)
    (brings : ∀ inner, Reachable sys inner → shield.finished inner caller → holds inner)
    (stays : ∀ inner label next, Reachable sys inner → holds inner →
      sys.step inner label = some next → holds next)
    (run : Reachable (shield.system sys) w) (returned : w.callers caller = .returned) :
    holds w.inner := by
  induction run with
  | start initial =>
    rw [initial.2] at returned
    cases returned
  | next earlier _ taken ih =>
    rcases step_returned taken returned with before | ⟨same, finished⟩
    · rcases step_inner taken with ⟨label, moved⟩ | same
      · exact stays _ _ _ (reachable_inner earlier) (ih before) moved
      · rw [same]
        exact ih before
    · rw [same]
      exact brings _ (reachable_inner earlier) finished

/-- A persistent caller cannot be turned away. -/
theorem persistent_waits {label : ShieldLabel Label Caller} {caller : Caller}
    (persistent : shield.persists caller) (taken : shield.step sys w label = some after)
    (before : w.callers caller ≠ .cancelled) : after.callers caller ≠ .cancelled := by
  cases label with
  | inner label =>
    obtain ⟨inner, moved, rfl⟩ := Option.map_eq_some_iff.mp taken
    cases entering : shield.enters w.inner label with
    | none => simpa [welcome] using before
    | some entered =>
      by_cases same : caller = entered
      · simp [welcome, same]
      · simpa [welcome, same] using before
  | cancel other =>
    simp only [step] at taken
    split at taken
    · cases taken
      split
      · exact before
      · rename_i yielding
        have differs : caller ≠ other := fun same => yielding (same ▸ persistent)
        simpa [differs] using before
    · cases taken
  | resume other =>
    simp only [step] at taken
    split at taken
    · cases taken
      by_cases same : caller = other
      · simp [same]
      · simpa [same] using before
    · cases taken

end Shield

/-- How a system comes to rest: from the moment it is closing it calls nothing any more, and
when the closing is over all work is finished. -/
structure Drains {Call : Type} (sys : System State Label) (closing closed finished : State → Prop)
    (calls : State → List Call) : Prop where
  begun : ∀ state, Reachable sys state → closed state → closing state
  finished : ∀ state, Reachable sys state → closed state → finished state
  silent : ∀ state after, Reachable sys state → closing state →
    Onward sys (fun _ _ => True) state after → calls after = calls state

namespace Drains

variable {Call : Type} {sys : System State Label} {closing closed finished : State → Prop}
  {calls : State → List Call}

theorem stronger {strict : State → Prop} (drains : Drains sys closing closed finished calls)
    (implied : ∀ state, Reachable sys state → strict state → closed state) :
    Drains sys closing strict finished calls where
  begun state reached held := drains.begun state reached (implied state reached held)
  finished state reached held := drains.finished state reached (implied state reached held)
  silent := drains.silent

/-- Callers behind a shield, and their cancellations, change nothing of it. -/
theorem shielded {shield : Shield State Label Caller}
    (drains : Drains sys closing closed finished calls) :
    Drains (shield.system sys) (fun w => closing w.inner) (fun w => closed w.inner)
      (fun w => finished w.inner) fun w => calls w.inner where
  begun w run := drains.begun w.inner (Shield.reachable_inner run)
  finished w run := drains.finished w.inner (Shield.reachable_inner run)
  silent w after run begun onward := drains.silent w.inner after.inner (Shield.reachable_inner run) begun
    (Shield.onward_inner onward)

end Drains

end Async
