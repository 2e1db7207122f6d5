/-! Properties of an append-only history: each event is judged by the events
before it, so appending keeps every earlier judgement. -/

namespace Async

universe u

variable {Event : Type u} {judged : List Event → Event → Prop}

/-- Every event of the history satisfies `judged` with respect to its past. -/
def Every (judged : List Event → Event → Prop) (history : List Event) : Prop :=
  ∀ past event future, history = past ++ event :: future → judged past event

theorem Every.nil : Every judged [] := by
  intro past event future split
  simp at split

theorem split_append_singleton {history past future : List Event} {event added : Event}
    (split : history ++ [added] = past ++ event :: future) :
    (∃ rest, future = rest ++ [added] ∧ history = past ++ event :: rest) ∨
      (future = [] ∧ history = past ∧ added = event) := by
  rcases List.eq_nil_or_concat future with rfl | ⟨rest, last, rfl⟩
  · right
    obtain ⟨same, last⟩ := List.append_inj' split rfl
    exact ⟨rfl, same, by simpa using last⟩
  · left
    have regrouped : history ++ [added] = (past ++ event :: rest) ++ [last] := by
      simpa [List.concat_eq_append] using split
    obtain ⟨same, equal⟩ := List.append_inj' regrouped rfl
    exact ⟨rest, by simpa [List.concat_eq_append] using equal.symm, same⟩

theorem Every.append_singleton {history : List Event} {added : Event}
    (held : Every judged history) (fresh : judged history added) :
    Every judged (history ++ [added]) := by
  intro past event future split
  rcases split_append_singleton split with ⟨rest, -, old⟩ | ⟨-, rfl, rfl⟩
  · exact held past event rest old
  · exact fresh

/-- Events that any past would do for. -/
theorem Every.append_free {history events : List Event} (held : Every judged history)
    (free : ∀ event ∈ events, ∀ past, judged past event) : Every judged (history ++ events) := by
  induction events generalizing history with
  | nil => simpa using held
  | cons event rest ih =>
    have next := held.append_singleton (free event (List.mem_cons_self ..) history)
    have all := ih next fun other member => free other (List.mem_cons_of_mem _ member)
    simpa using all

theorem Every.initial {history later : List Event} (held : Every judged (history ++ later)) :
    Every judged history := by
  intro past event future split
  exact held past event (future ++ later) (by simp [split])

theorem Every.of_mem {history : List Event} {event : Event} (held : Every judged history)
    (member : event ∈ history) :
    ∃ past future, history = past ++ event :: future ∧ judged past event := by
  obtain ⟨past, future, split⟩ := List.append_of_mem member
  exact ⟨past, future, split, held past event future split⟩

theorem Every.imp {weaker : List Event → Event → Prop} {history : List Event}
    (held : Every judged history)
    (implied : ∀ past event, judged past event → weaker past event) : Every weaker history :=
  fun past event future split => implied past event (held past event future split)

/-- Two positions in one history: the same, or one before the other. -/
theorem split_cases {history past future past' future' : List Event} {event event' : Event}
    (split : history = past ++ event :: future) (other : history = past' ++ event' :: future') :
    past = past' ∧ event = event' ∨ (∃ between, past' = past ++ event :: between) ∨
      ∃ between, past = past' ++ event' :: between := by
  rcases List.append_eq_append_iff.mp (split.symm.trans other) with
    ⟨between, rfl, rest⟩ | ⟨between, rfl, rest⟩
  · rcases List.cons_eq_append_iff.mp rest with ⟨rfl, same⟩ | ⟨tail, rfl, -⟩
    · exact .inl ⟨by simp, (List.cons.inj same).1.symm⟩
    · exact .inr (.inl ⟨tail, rfl⟩)
  · rcases List.cons_eq_append_iff.mp rest with ⟨rfl, same⟩ | ⟨tail, rfl, -⟩
    · exact .inl ⟨by simp, (List.cons.inj same).1⟩
    · exact .inr (.inr ⟨tail, rfl⟩)

/-- The event after `past` is the first one of the history that is chosen. -/
structure First (chosen : List Event → Event → Prop) (history past : List Event) (event : Event) :
    Prop where
  placed : ∃ future, history = past ++ event :: future
  holds : chosen past event
  earliest : Every (fun past event => ¬ chosen past event) past

theorem First.unique {chosen : List Event → Event → Prop} {history past past' : List Event}
    {event event' : Event} (first : First chosen history past event)
    (other : First chosen history past' event') : past = past' ∧ event = event' := by
  obtain ⟨future, split⟩ := first.placed
  obtain ⟨future', split'⟩ := other.placed
  rcases split_cases split split' with same | ⟨between, later⟩ | ⟨between, later⟩
  · exact same
  · exact absurd first.holds (other.earliest past event between later)
  · exact absurd other.holds (first.earliest past' event' between later)

theorem First.append {chosen : List Event → Event → Prop} {history past : List Event}
    {event : Event} (first : First chosen history past event) (later : List Event) :
    First chosen (history ++ later) past event := by
  obtain ⟨future, rfl⟩ := first.placed
  exact ⟨⟨future ++ later, by simp⟩, first.holds, first.earliest⟩

/-- Some event of the history granted something, and no later event took it back. -/
def Since (grants : List Event → Event → Prop) (revokes : Event → Prop) (history : List Event) : Prop :=
  ∃ past event future, history = past ++ event :: future ∧ grants past event ∧
    ∀ later ∈ future, ¬ revokes later

theorem since_append_singleton {grants : List Event → Event → Prop} {revokes : Event → Prop}
    {history : List Event} {added : Event} :
    Since grants revokes (history ++ [added]) ↔
      grants history added ∨ Since grants revokes history ∧ ¬ revokes added := by
  constructor
  · rintro ⟨past, event, future, split, granted, kept⟩
    rcases split_append_singleton split with ⟨rest, rfl, old⟩ | ⟨-, rfl, rfl⟩
    · exact .inr ⟨⟨past, event, rest, old, granted, fun later member => kept later (by simp [member])⟩,
        kept added (by simp)⟩
    · exact .inl granted
  · rintro (granted | ⟨⟨past, event, future, rfl, granted, kept⟩, keeps⟩)
    · exact ⟨history, added, [], rfl, granted, by simp⟩
    · refine ⟨past, event, future ++ [added], by simp, granted, fun later member => ?_⟩
      rcases List.mem_append.mp member with before | last
      · exact kept later before
      · cases List.mem_singleton.mp last
        exact keeps

end Async
