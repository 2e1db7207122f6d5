import AlorairLite.Async.Conversation

/-! An error with a cause: a process ends with it exactly if such an exchange has happened. -/

namespace Async

variable {face : Interface} {First Second Error : Type}

/-- One of these exchanges has happened. -/
def Happened (cause : Exchange face → Prop) (trace : List (Exchange face)) : Prop :=
  ∃ exchange ∈ trace, cause exchange

section Traces

variable {cause : Exchange face → Prop} {exchange : Exchange face} {first second trace : List (Exchange face)}

@[simp] theorem happened_nil : ¬ Happened cause [] := by simp [Happened]

@[simp] theorem happened_append :
    Happened cause (first ++ second) ↔ Happened cause first ∨ Happened cause second := by
  simp [Happened, or_and_right, exists_or]

@[simp] theorem happened_cons : Happened cause (exchange :: trace) ↔ cause exchange ∨ Happened cause trace := by
  simp [Happened]

end Traces

/-- Whatever happens, the process ends with this error exactly if one of these exchanges has
happened. -/
def Process.BreaksOn (broken : Error) (cause : Exchange face → Prop) (process : Process face Error First) :
    Prop :=
  ∀ ⦃state trace result final⦄, Converses process state trace result final →
    (result = .error broken ↔ Happened cause trace)

namespace Process.BreaksOn

variable {broken : Error} {cause : Exchange face → Prop} {process : Process face Error First}
  {next : First → Process face Error Second}

theorem lift {result : Except Error First} (other : result ≠ .error broken) :
    BreaksOn broken cause (Process.lift result : Process face Error First) := by
  intro state trace result' final converses
  obtain ⟨rfl, rfl, -⟩ := converses_done.mp converses
  simp [other]

theorem pure {value : First} : BreaksOn broken cause (pure value : Process face Error First) :=
  lift (by simp)

theorem raise {error : Error} (other : error ≠ broken) :
    BreaksOn broken cause (Process.raise error : Process face Error First) :=
  lift fun same => other (Except.error.inj same)

theorem «then» (first : process.BreaksOn broken cause) (second : ∀ value, (next value).BreaksOn broken cause) :
    BreaksOn broken cause (process >>= next : Process face Error Second) := by
  intro state trace result final converses
  obtain ⟨ended, middle, left, right, rfl, before, after⟩ := converses_then.mp converses
  have early := first before
  cases ended with
  | error error =>
    obtain ⟨rfl, rfl, -⟩ := converses_chain_error.mp after
    simpa using early
  | ok value =>
    have later := second value after
    simp only [reduceCtorEq, false_iff] at early
    simpa [early] using later

/-- The handler lets this error through. -/
theorem attempt {handler : Error → Process face Error First} (first : process.BreaksOn broken cause)
    (second : ∀ error, error ≠ broken → (handler error).BreaksOn broken cause)
    (passes : ∀ {state trace result final}, Converses (handler broken) state trace result final →
      result = .error broken) : BreaksOn broken cause (Process.attempt process handler) := by
  intro state trace result final converses
  obtain ⟨ended, middle, left, right, rfl, before, after⟩ := converses_attempt.mp converses
  have early := first before
  cases ended with
  | ok value =>
    obtain ⟨rfl, rfl, -⟩ := converses_done.mp after
    simpa using early
  | error error =>
    by_cases same : error = broken
    · subst same
      simp [passes after, early.mp rfl]
    · have later := second error same after
      simp only [Except.error.injEq, same, false_iff] at early
      simpa [early] using later

theorem get {next : face.State → Process face Error Second} (rest : ∀ state, (next state).BreaksOn broken cause) :
    BreaksOn broken cause (Process.get >>= next : Process face Error Second) :=
  fun _ _ _ _ converses => rest _ (converses_get.mp converses)

theorem modify {move : face.State → face.State} {next : Unit → Process face Error Second}
    (rest : (next ()).BreaksOn broken cause) :
    BreaksOn broken cause (Process.modify move >>= next : Process face Error Second) :=
  fun _ _ _ _ converses => rest (converses_modify.mp converses)

theorem say {remark : face.Remark} (quiet : ¬ cause (.told remark)) :
    BreaksOn broken cause (Process.say remark : Process face Error Unit) := by
  intro state trace result final converses
  cases converses with
  | tell rest =>
    obtain ⟨rfl, rfl, -⟩ := converses_done.mp rest
    simp [quiet]

theorem request {stop : face.Interrupt → Error} {query : face.Query} (asked : ¬ cause (.asked query))
    (answered : ∀ reply, ¬ cause (.answered ⟨query, reply⟩)) (stopped : ∀ reason, ¬ cause (.interrupted reason))
    (other : ∀ reason, stop reason ≠ broken) :
    BreaksOn broken cause (Process.request stop query : Process face Error (face.Answer query)) := by
  intro state trace result final converses
  rcases converses_request.mp converses with ⟨reply, rfl, rfl⟩ | ⟨reason, rfl, rfl⟩
  · simp [asked, answered]
  · simp [asked, stopped, other]

theorem withLock {stop : face.Interrupt → Error} {lock : face.State → Lock}
    {put : Lock → face.State → face.State} {task : Nat} (stopped : ∀ reason, ¬ cause (.interrupted reason))
    (other : ∀ reason, stop reason ≠ broken) (inside : process.BreaksOn broken cause) :
    BreaksOn broken cause (Process.withLock stop lock put task process) := by
  intro state trace result final converses
  rcases converses_withLock converses with ⟨reason, rfl, rfl⟩ | ⟨before, after, ran⟩
  · simp [stopped, other]
  · exact inside ran

end Process.BreaksOn

end Async
