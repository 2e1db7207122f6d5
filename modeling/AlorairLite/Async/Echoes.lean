import AlorairLite.Async.Heralds

/-! Code that remarks only what it was told. An answer warrants remarks; in every run, whatever a task
has remarked is free for its operation, or an earlier answer of its own warrants it. -/

namespace Async

variable {face : Interface} {Operation Result First Second Error : Type}
  {warrants : Sigma face.Answer → face.Remark → Prop} {given : face.Remark → Prop}

/-- The code remarks only what is given, or what an answer that it was given warrants. -/
def Coroutine.Echoes (warrants : Sigma face.Answer → face.Remark → Prop) :
    Coroutine face Result → (face.Remark → Prop) → Prop
  | .done _, _ => True
  | .act _ next, given => ∀ state, (next state).Echoes warrants given
  | .tell remark next, given => given remark ∧ next.Echoes warrants given
  | .ask query resume interrupted, given =>
    (∀ answer, (resume answer).Echoes warrants fun remark => given remark ∨ warrants ⟨query, answer⟩ remark) ∧
      ∀ reason, (interrupted reason).Echoes warrants given
  | .wait _ resume interrupted, given =>
    resume.Echoes warrants given ∧ ∀ reason, (interrupted reason).Echoes warrants given

theorem Coroutine.Echoes.mono {code : Coroutine face Result} {more : face.Remark → Prop}
    (echoes : code.Echoes warrants given) (within : ∀ remark, given remark → more remark) :
    code.Echoes warrants more := by
  induction code generalizing given more with
  | done result => trivial
  | act move next ih => exact fun state => ih state (echoes state) within
  | tell remark next ih => exact ⟨within remark echoes.1, ih echoes.2 within⟩
  | ask query resume interrupted answered stopped =>
    exact ⟨fun answer => answered answer (echoes.1 answer) fun remark known => known.imp_left (within remark),
      fun reason => stopped reason (echoes.2 reason) within⟩
  | wait ready resume interrupted granted stopped =>
    exact ⟨granted echoes.1 within, fun reason => stopped reason (echoes.2 reason) within⟩

theorem Coroutine.Echoes.bind {code : Coroutine face First} {next : First → Coroutine face Second}
    (first : code.Echoes warrants given) (second : ∀ result, (next result).Echoes warrants given) :
    (code.bind next).Echoes warrants given := by
  induction code generalizing given with
  | done result => exact second result
  | act move rest ih => exact fun state => ih state (first state) second
  | tell remark rest ih => exact ⟨first.1, ih first.2 second⟩
  | ask query resume interrupted answered stopped =>
    exact ⟨fun answer => answered answer (first.1 answer) fun result => (second result).mono fun remark => .inl,
      fun reason => stopped reason (first.2 reason) second⟩
  | wait ready resume interrupted granted stopped =>
    exact ⟨granted first.1 second, fun reason => stopped reason (first.2 reason) second⟩

/-- What follows an answer may also remark what that warrants. -/
theorem Coroutine.Echoes.asking {stop : face.Interrupt → Error} {query : face.Query}
    {next : face.Answer query → Process face Error Second}
    (answered : ∀ answer, Coroutine.Echoes warrants (next answer) fun remark =>
      given remark ∨ warrants ⟨query, answer⟩ remark) :
    Coroutine.Echoes warrants (Process.request stop query >>= next : Process face Error Second) given :=
  ⟨answered, fun _ => trivial⟩

/-- Code of a vocabulary that is given remarks nothing else. -/
theorem Coroutine.Within.echoes {queries : face.Query → Prop} {code : Coroutine face Result}
    (within : code.Within queries given) : code.Echoes warrants given := by
  induction code generalizing given with
  | done result => trivial
  | act move next ih => exact fun state => ih state (within state)
  | tell remark next ih => exact ⟨within.1, ih within.2⟩
  | ask query resume interrupted answered stopped =>
    exact ⟨fun answer => (answered answer (within.2.1 answer)).mono fun remark => .inl,
      fun reason => stopped reason (within.2.2 reason)⟩
  | wait ready resume interrupted granted stopped =>
    exact ⟨granted within.1, fun reason => stopped reason (within.2 reason)⟩

section Traces

/-- Each remark is given, or warranted by an answer before it. -/
def Warranted (warrants : Sigma face.Answer → face.Remark → Prop) :
    List (Exchange face) → (face.Remark → Prop) → Prop
  | [], _ => True
  | .told remark :: rest, given => given remark ∧ Warranted warrants rest given
  | .answered reply :: rest, given => Warranted warrants rest fun remark => given remark ∨ warrants reply remark
  | .asked _ :: rest, given | .interrupted _ :: rest, given => Warranted warrants rest given

theorem Converses.warranted {code : Coroutine face Result} {state final : face.State} {trace : List (Exchange face)}
    {result : Result} (converses : Converses code state trace result final) (echoes : code.Echoes warrants given) :
    Warranted warrants trace given := by
  induction converses generalizing given with
  | done => trivial
  | act _ ih => exact ih (echoes _)
  | tell _ ih => exact ⟨echoes.1, ih echoes.2⟩
  | answer _ ih => exact ih (echoes.1 _)
  | interrupt _ ih => exact ih (echoes.2 _)
  | grant _ _ ih => exact ih echoes.1
  | abandon _ ih => exact ih (echoes.2 _)

theorem Warranted.split {trace : List (Exchange face)} {remark : face.Remark} {before after : List (Exchange face)}
    (warranted : Warranted warrants trace given) (split : trace = before ++ .told remark :: after) :
    given remark ∨ ∃ reply, .answered reply ∈ before ∧ warrants reply remark := by
  induction before generalizing trace given with
  | nil =>
    subst split
    exact .inl warranted.1
  | cons exchange before ih =>
    subst split
    have rest : ∀ given', Warranted warrants (before ++ .told remark :: after) given' →
        given' remark ∨ ∃ reply, .answered reply ∈ exchange :: before ∧ warrants reply remark := by
      intro given' warranted
      rcases ih warranted rfl with known | ⟨reply, member, warrant⟩
      · exact .inl known
      · exact .inr ⟨reply, List.mem_cons_of_mem _ member, warrant⟩
    cases exchange with
    | told other => exact rest _ warranted.2
    | answered reply =>
      rcases rest _ warranted with (known | warrant) | earlier
      · exact .inl known
      · exact .inr ⟨reply, List.mem_cons_self, warrant⟩
      · exact .inr earlier
    | asked query => exact rest _ warranted
    | interrupted reason => exact rest _ warranted

end Traces

section Runs

variable [DecidableEq face.Query] [Nonempty face.Interrupt] {program : Operation → Nat → Coroutine face Result}
  {begin : face.State → Prop} {meets : Machine face Operation Result → Step face Operation → Prop}
  {machine : Machine face Operation Result} {task : Nat}

/-- What a task has remarked is free for its operation, or an answer to it warrants it. -/
theorem Run.echoes {remark : face.Remark} {warrants : Operation → Sigma face.Answer → face.Remark → Prop}
    {free : Operation → face.Remark → Prop}
    (echoes : ∀ operation task, (program operation task).Echoes (warrants operation) (free operation))
    (run : Run (scheduler program begin) meets machine) (told : .told task remark ∈ machine.scene.log) :
    ∃ operation, .started task operation ∈ machine.scene.log ∧ (free operation remark ∨
      ∃ reply, .delivered task reply ∈ machine.scene.log ∧ warrants operation reply remark) := by
  have member : .told remark ∈ exchanges task machine.scene.log := mem_exchanges.mpr ⟨_, told, rfl, rfl⟩
  obtain ⟨operation, started⟩ := run.started member
  obtain ⟨start, trace, result, final, rest⟩ := run.completes started
  have warranted := rest.warranted (echoes operation task)
  obtain ⟨earlier, later, split⟩ := List.append_of_mem member
  refine ⟨operation, started, ?_⟩
  rcases warranted.split (by rw [split, List.append_assoc]; rfl) with unanswered | ⟨reply, answered, warrant⟩
  · exact .inl unanswered
  · have present : .answered reply ∈ exchanges task machine.scene.log := by
      rw [split]
      exact List.mem_append_left _ answered
    obtain ⟨event, logged, own, same⟩ := mem_exchanges.mp present
    cases event with
    | delivered receiver other =>
      cases own
      cases same
      exact .inr ⟨reply, logged, warrant⟩
    | _ => cases same

end Runs

end Async
