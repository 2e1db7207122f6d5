import AlorairLite.Async.Budget

/-! Code that asks only what it has announced. A remark permits questions; in every run, whatever a
task has asked is free for its operation, or an earlier remark of its own permits it. -/

namespace Async

variable {face : Interface} {Operation Result First Second Error : Type}
  {permits : face.Remark → face.Query → Prop} {given : face.Query → Prop}

/-- The code asks only what is given, or what a remark that it has made permits. -/
def Coroutine.Heralds (permits : face.Remark → face.Query → Prop) :
    Coroutine face Result → (face.Query → Prop) → Prop
  | .done _, _ => True
  | .act _ next, given => ∀ state, (next state).Heralds permits given
  | .tell remark next, given => next.Heralds permits fun query => given query ∨ permits remark query
  | .ask query resume interrupted, given => given query ∧
    (∀ answer, (resume answer).Heralds permits given) ∧ ∀ reason, (interrupted reason).Heralds permits given
  | .wait _ resume interrupted, given =>
    resume.Heralds permits given ∧ ∀ reason, (interrupted reason).Heralds permits given

theorem Coroutine.Heralds.mono {code : Coroutine face Result} {more : face.Query → Prop}
    (heralds : code.Heralds permits given) (within : ∀ query, given query → more query) :
    code.Heralds permits more := by
  induction code generalizing given more with
  | done result => trivial
  | act move next ih => exact fun state => ih state (heralds state) within
  | tell remark next ih => exact ih heralds fun query known => known.imp_left (within query)
  | ask query resume interrupted answered stopped =>
    exact ⟨within query heralds.1, fun answer => answered answer (heralds.2.1 answer) within,
      fun reason => stopped reason (heralds.2.2 reason) within⟩
  | wait ready resume interrupted granted stopped =>
    exact ⟨granted heralds.1 within, fun reason => stopped reason (heralds.2 reason) within⟩

theorem Coroutine.Heralds.bind {code : Coroutine face First} {next : First → Coroutine face Second}
    (first : code.Heralds permits given) (second : ∀ result, (next result).Heralds permits given) :
    (code.bind next).Heralds permits given := by
  induction code generalizing given with
  | done result => exact second result
  | act move rest ih => exact fun state => ih state (first state) second
  | tell remark rest ih => exact ih first fun result => (second result).mono fun query => .inl
  | ask query resume interrupted answered stopped =>
    exact ⟨first.1, fun answer => answered answer (first.2.1 answer) second,
      fun reason => stopped reason (first.2.2 reason) second⟩
  | wait ready resume interrupted granted stopped =>
    exact ⟨granted first.1 second, fun reason => stopped reason (first.2 reason) second⟩

/-- A process that asks only what it has announced. -/
abbrev Process.Heralds (permits : face.Remark → face.Query → Prop) (process : Process face Error First)
    (given : face.Query → Prop) : Prop := Coroutine.Heralds permits process given

namespace Process.Heralds

variable {process : Process face Error First} {next : First → Process face Error Second}

theorem «then» (first : process.Heralds permits given) (second : ∀ value, (next value).Heralds permits given) :
    Heralds permits (process >>= next : Process face Error Second) given := by
  apply Coroutine.Heralds.bind first
  intro result
  cases result with
  | ok value => exact second value
  | error error => trivial

theorem attempt {handler : Error → Process face Error First} (first : process.Heralds permits given)
    (second : ∀ error, (handler error).Heralds permits given) :
    Heralds permits (Process.attempt process handler) given := by
  apply Coroutine.Heralds.bind first
  intro result
  cases result with
  | ok value => trivial
  | error error => exact second error

theorem ensure {cleanup : face.State → face.State} (first : process.Heralds permits given) :
    Heralds permits (Process.ensure process cleanup) given :=
  Coroutine.Heralds.bind first fun _ _ => trivial

theorem get {next : face.State → Process face Error Second} (rest : ∀ state, (next state).Heralds permits given) :
    Heralds permits (Process.get >>= next : Process face Error Second) given := rest

theorem modify {move : face.State → face.State} {next : Unit → Process face Error Second}
    (rest : (next ()).Heralds permits given) :
    Heralds permits (Process.modify move >>= next : Process face Error Second) given := fun _ => rest

theorem say {remark : face.Remark} {next : Unit → Process face Error Second}
    (rest : (next ()).Heralds permits fun query => given query ∨ permits remark query) :
    Heralds permits (Process.say remark >>= next : Process face Error Second) given := rest

theorem request {stop : face.Interrupt → Error} {query : face.Query} (known : given query) :
    Heralds permits (Process.request stop query) given := ⟨known, fun _ => trivial, fun _ => trivial⟩

theorem withLock {stop : face.Interrupt → Error} {lock : face.State → Lock}
    {put : Lock → face.State → face.State} {task : Nat} (inside : process.Heralds permits given) :
    Heralds permits (Process.withLock stop lock put task process) given :=
  fun _ => ⟨fun _ => inside.ensure, fun _ _ => trivial⟩

end Process.Heralds

section Traces

/-- Each question is given, or permitted by a remark before it. -/
def Announced (permits : face.Remark → face.Query → Prop) : List (Exchange face) → (face.Query → Prop) → Prop
  | [], _ => True
  | .told remark :: rest, given => Announced permits rest fun query => given query ∨ permits remark query
  | .asked query :: rest, given => given query ∧ Announced permits rest given
  | .answered _ :: rest, given | .interrupted _ :: rest, given => Announced permits rest given

theorem Converses.announced {code : Coroutine face Result} {state final : face.State} {trace : List (Exchange face)}
    {result : Result} (converses : Converses code state trace result final) (heralds : code.Heralds permits given) :
    Announced permits trace given := by
  induction converses generalizing given with
  | done => trivial
  | act _ ih => exact ih (heralds _)
  | tell _ ih => exact ih heralds
  | answer _ ih => exact ⟨heralds.1, ih (heralds.2.1 _)⟩
  | interrupt _ ih => exact ⟨heralds.1, ih (heralds.2.2 _)⟩
  | grant _ _ ih => exact ih heralds.1
  | abandon _ ih => exact ih (heralds.2 _)

theorem Announced.split {trace : List (Exchange face)} {query : face.Query} {before after : List (Exchange face)}
    (announced : Announced permits trace given) (split : trace = before ++ .asked query :: after) :
    given query ∨ ∃ remark, .told remark ∈ before ∧ permits remark query := by
  induction before generalizing trace given with
  | nil =>
    subst split
    exact .inl announced.1
  | cons exchange before ih =>
    subst split
    have rest : ∀ given', Announced permits (before ++ .asked query :: after) given' →
        given' query ∨ ∃ remark, .told remark ∈ before ∧ permits remark query := fun _ announced =>
      ih announced rfl
    cases exchange with
    | told remark =>
      rcases rest _ announced with (known | permitted) | ⟨earlier, member, permitted⟩
      · exact .inl known
      · exact .inr ⟨remark, List.mem_cons_self, permitted⟩
      · exact .inr ⟨earlier, List.mem_cons_of_mem _ member, permitted⟩
    | asked other =>
      rcases rest _ announced.2 with known | ⟨earlier, member, permitted⟩
      · exact .inl known
      · exact .inr ⟨earlier, List.mem_cons_of_mem _ member, permitted⟩
    | answered reply =>
      rcases rest _ announced with known | ⟨earlier, member, permitted⟩
      · exact .inl known
      · exact .inr ⟨earlier, List.mem_cons_of_mem _ member, permitted⟩
    | interrupted reason =>
      rcases rest _ announced with known | ⟨earlier, member, permitted⟩
      · exact .inl known
      · exact .inr ⟨earlier, List.mem_cons_of_mem _ member, permitted⟩

end Traces

section Runs

theorem mem_exchanges {log : List (Event face Operation Result)} {task : Nat} {exchange : Exchange face} :
    exchange ∈ exchanges task log ↔ ∃ event ∈ log, event.task? = some task ∧ event.exchange? = some exchange := by
  simp [exchanges, and_assoc]

theorem told_of_exchanges {log : List (Event face Operation Result)} {task : Nat} {remark : face.Remark}
    (member : .told remark ∈ exchanges task log) : .told task remark ∈ log := by
  obtain ⟨event, present, own, same⟩ := mem_exchanges.mp member
  cases event with
  | told teller other =>
    cases own
    cases same
    exact present
  | _ => cases same

variable [DecidableEq face.Query] [Nonempty face.Interrupt] {program : Operation → Nat → Coroutine face Result}
  {begin : face.State → Prop} {meets : Machine face Operation Result → Step face Operation → Prop}
  {machine : Machine face Operation Result} {task : Nat}

omit [Nonempty face.Interrupt] in
/-- Who does something was started. -/
theorem Run.started {exchange : Exchange face} (run : Run (scheduler program begin) meets machine)
    (member : exchange ∈ exchanges task machine.scene.log) :
    ∃ operation, .started task operation ∈ machine.scene.log := by
  have known : task < machine.count := by
    refine Nat.lt_of_not_le fun beyond => ?_
    rw [(run.conversing.fresh task beyond).2] at member
    cases member
  have begun : task ∈ (starts machine.scene.log).map Prod.fst := by
    rw [run.counted.starts]
    exact List.mem_range.mpr known
  obtain ⟨⟨_, operation⟩, present, rfl⟩ := List.mem_map.mp begun
  exact ⟨operation, mem_starts.mp present⟩

/-- What a task has asked is free for its operation, or it has announced it. -/
theorem Run.heralds {allowed : Operation → face.Remark → face.Query → Prop}
    {free : Operation → face.Query → Prop} {query : face.Query}
    (heralds : ∀ operation task, (program operation task).Heralds (allowed operation) (free operation))
    (run : Run (scheduler program begin) meets machine) (asked : .asked task query ∈ machine.scene.log) :
    ∃ operation, .started task operation ∈ machine.scene.log ∧ (free operation query ∨
      ∃ remark, .told task remark ∈ machine.scene.log ∧ allowed operation remark query) := by
  have member : .asked query ∈ exchanges task machine.scene.log := mem_exchanges.mpr ⟨_, asked, rfl, rfl⟩
  obtain ⟨operation, started⟩ := run.started member
  obtain ⟨start, trace, result, final, rest⟩ := run.completes started
  have announced := rest.announced (heralds operation task)
  obtain ⟨earlier, later, split⟩ := List.append_of_mem member
  refine ⟨operation, started, ?_⟩
  rcases announced.split (by rw [split, List.append_assoc]; rfl) with unasked | ⟨remark, told, permitted⟩
  · exact .inl unasked
  · refine .inr ⟨remark, told_of_exchanges ?_, permitted⟩
    rw [split]
    exact List.mem_append_left _ told

/-- What a task has done so far is of the vocabulary of its program. -/
theorem Run.fits {queries : face.Query → Prop} {remarks : face.Remark → Prop} {operation : Operation}
    (within : (program operation task).Within queries remarks) (run : Run (scheduler program begin) meets machine)
    (started : .started task operation ∈ machine.scene.log) :
    ∀ exchange ∈ exchanges task machine.scene.log, exchange.Fits queries remarks := by
  obtain ⟨start, trace, result, final, rest⟩ := run.completes started
  exact fun exchange member => rest.fits within exchange (List.mem_append_left _ member)

end Runs

end Async
