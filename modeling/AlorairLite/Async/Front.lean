import AlorairLite.Async.Transition

/-! Actions in front of a system. An action does nothing, comes to a step of the system or edits its
state; a journal keeps the actions with the states they saw. -/

namespace Async

universe u v w

variable {State : Type u} {Label : Type v} {Action : Type w}

inductive Deed (State : Type u) (Label : Type v) where
  | idle
  | step (label : Label)
  | edit (after : State)

def Deed.apply (sys : System State Label) (state : State) : Deed State Label → Option State
  | .idle => some state
  | .step label => sys.step state label
  | .edit after => some after

structure Front (State : Type u) (Label : Type v) (Action : Type w) where
  /-- The steps that the system takes without an action. -/
  free : Label → Bool
  deed : State → Action → Option (Deed State Label)

structure Fronted (State : Type u) (Action : Type w) where
  inner : State
  journal : List (Action × State) := []

inductive FrontStep (Label : Type v) (Action : Type w) where
  | own (label : Label)
  | act (action : Action)

namespace Front

variable (front : Front State Label Action) (sys : System State Label)

def act (state : Fronted State Action) (action : Action) : Option (Fronted State Action) :=
  ((front.deed state.inner action).bind (·.apply sys state.inner)).map fun inner =>
    { inner, journal := state.journal ++ [(action, state.inner)] }

def system : System (Fronted State Action) (FrontStep Label Action) where
  initial state := sys.initial state.inner ∧ state.journal = []
  step state
    | .own label =>
      if front.free label then (sys.step state.inner label).map fun inner => { state with inner } else none
    | .act action => front.act sys state action

variable {front sys} {state : Fronted State Action}

/-- What holds initially, and is kept by the steps of the system and by the deeds of the actions,
holds in every run. -/
theorem invariant (holds : Fronted State Action → Prop)
    (initially : ∀ inner, sys.initial inner → holds { inner })
    (own : ∀ state label after, holds state → front.free label → sys.step state.inner label = some after →
      holds { state with inner := after })
    (act : ∀ state action deed after, holds state → front.deed state.inner action = some deed →
      deed.apply sys state.inner = some after → holds ⟨after, state.journal ++ [(action, state.inner)]⟩)
    (run : Reachable (front.system sys) state) : holds state := by
  apply run.invariant holds
  · rintro ⟨inner, journal⟩ ⟨initial, rfl⟩
    exact initially inner initial
  · intro state label after _ held _ taken
    cases label with
    | own label =>
      simp only [system] at taken
      split at taken
      · rename_i free
        obtain ⟨inner, moved, rfl⟩ := Option.map_eq_some_iff.mp taken
        exact own state label inner held free moved
      · cases taken
    | act action =>
      obtain ⟨inner, moved, rfl⟩ := Option.map_eq_some_iff.mp taken
      obtain ⟨deed, means, applied⟩ := Option.bind_eq_some_iff.mp moved
      exact act state action deed inner held means applied

end Front

end Async
