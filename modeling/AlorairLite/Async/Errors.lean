import AlorairLite.Async.Conversation

/-! Which errors a process can end with, and what it can return, whatever the outside world answers. -/

namespace Async

variable {face : Interface} {Result First Second Error : Type}

/-- However the code goes on, it ends with a result like this. -/
def Coroutine.Ends (holds : Result → Prop) : Coroutine face Result → Prop
  | .done result => holds result
  | .act _ next => ∀ state, (next state).Ends holds
  | .tell _ next => next.Ends holds
  | .ask _ resume interrupted =>
    (∀ answer, (resume answer).Ends holds) ∧ ∀ reason, (interrupted reason).Ends holds
  | .wait _ resume interrupted => resume.Ends holds ∧ ∀ reason, (interrupted reason).Ends holds

theorem Coroutine.Ends.bind {holds : First → Prop} {after : Second → Prop} {code : Coroutine face First}
    {next : First → Coroutine face Second} (first : code.Ends holds)
    (second : ∀ result, holds result → (next result).Ends after) : (code.bind next).Ends after := by
  induction code with
  | done result => exact second result first
  | act move rest ih => exact fun state => ih state (first state)
  | tell remark rest ih => exact ih first
  | ask query resume interrupted answered stopped =>
    exact ⟨fun answer => answered answer (first.1 answer), fun reason => stopped reason (first.2 reason)⟩
  | wait ready resume interrupted granted stopped =>
    exact ⟨granted first.1, fun reason => stopped reason (first.2 reason)⟩

theorem Converses.ends {code : Coroutine face Result} {holds : Result → Prop} {state final : face.State}
    {trace : List (Exchange face)} {result : Result} (converses : Converses code state trace result final)
    (ends : code.Ends holds) : holds result := by
  induction converses with
  | done => exact ends
  | act _ ih => exact ih (ends _)
  | tell _ ih => exact ih ends
  | answer _ ih => exact ih (ends.1 _)
  | interrupt _ ih => exact ih (ends.2 _)
  | grant _ _ ih => exact ih ends.1
  | abandon _ ih => exact ih (ends.2 _)

/-- A process that does not return raises an error like this. -/
def Raising (allowed : Error → Prop) : Except Error First → Prop
  | .ok _ => True
  | .error error => allowed error

/-- Every error that the process can end with is like this. -/
def Process.Fails (allowed : Error → Prop) (process : Process face Error First) : Prop :=
  Coroutine.Ends (Raising allowed) process

theorem Converses.fails {allowed : Error → Prop} {process : Process face Error First}
    {state final : face.State} {trace : List (Exchange face)} {error : Error}
    (converses : Converses process state trace (.error error) final) (fails : process.Fails allowed) :
    allowed error := converses.ends fails

namespace Process.Fails

variable {allowed : Error → Prop} {process : Process face Error First}
  {next : First → Process face Error Second}

theorem raise {error : Error} (known : allowed error) :
    Fails allowed (Process.raise error : Process face Error First) := known

theorem «then» (first : process.Fails allowed) (second : ∀ value, (next value).Fails allowed) :
    Fails allowed (process >>= next : Process face Error Second) := by
  apply Coroutine.Ends.bind first
  intro result raised
  cases result with
  | ok value => exact second value
  | error error => exact raised

/-- The body may end with any error that the handler turns into one of these. -/
theorem attempt {handler : Error → Process face Error First} {inner : Error → Prop}
    (first : process.Fails inner) (second : ∀ error, inner error → (handler error).Fails allowed) :
    Fails allowed (Process.attempt process handler) := by
  apply Coroutine.Ends.bind first
  intro result raised
  cases result with
  | ok value => trivial
  | error error => exact second error raised

theorem get {next : face.State → Process face Error Second} (rest : ∀ state, (next state).Fails allowed) :
    Fails allowed (Process.get >>= next : Process face Error Second) := rest

theorem modify {move : face.State → face.State} {next : Unit → Process face Error Second}
    (rest : (next ()).Fails allowed) :
    Fails allowed (Process.modify move >>= next : Process face Error Second) := fun _ => rest

theorem say {remark : face.Remark} {next : Unit → Process face Error Second}
    (rest : (next ()).Fails allowed) :
    Fails allowed (Process.say remark >>= next : Process face Error Second) := rest

theorem request {stop : face.Interrupt → Error} {query : face.Query}
    (interrupted : ∀ reason, allowed (stop reason)) : Fails allowed (Process.request stop query) :=
  ⟨fun _ => trivial, interrupted⟩

theorem withLock {stop : face.Interrupt → Error} {lock : face.State → Lock}
    {put : Lock → face.State → face.State} {task : Nat} (interrupted : ∀ reason, allowed (stop reason))
    (inside : process.Fails allowed) : Fails allowed (Process.withLock stop lock put task process) := by
  refine fun _ => ⟨fun _ => ?_, fun reason _ => interrupted reason⟩
  apply Coroutine.Ends.bind inside
  exact fun result raised _ => raised

end Process.Fails

/-- A result that is no error is like this. -/
def Giving (holds : First → Prop) (result : Except Error First) : Prop :=
  ∀ value, result = .ok value → holds value

namespace Giving

variable {holds : First → Prop} {after : Second → Prop} {result : Except Error First}

theorem ok {value : First} (known : holds value) : Giving holds (.ok value : Except Error First) := by
  intro other same
  cases same
  exact known

theorem error {error : Error} : Giving holds (.error error : Except Error First) := by
  intro value impossible
  cases impossible

theorem bind {next : First → Except Error Second} (first : Giving holds result)
    (second : ∀ value, holds value → Giving after (next value)) : Giving after (result >>= next) := by
  cases result with
  | ok value => exact second value (first value rfl)
  | error error => exact Giving.error

/-- The value of the first check does not matter. -/
theorem checked {next : First → Except Error Second} (rest : ∀ value, Giving after (next value)) :
    Giving after (result >>= next) := by
  have trivially : Giving (fun _ => True) result := fun _ _ => trivial
  exact trivially.bind fun value _ => rest value

theorem map {change : First → Second} (first : Giving holds result)
    (second : ∀ value, holds value → after (change value)) : Giving after (result.map change) := by
  cases result with
  | ok value => exact .ok (second value (first value rfl))
  | error error => exact .error

theorem mapError {Other : Type} {change : Error → Other} (first : Giving holds result) :
    Giving holds (result.mapError change) := by
  cases result with
  | ok value => exact .ok (first value rfl)
  | error error => exact .error

theorem mapM {next : First → Except Error Second} {items : List First}
    (each : ∀ item ∈ items, Giving after (next item)) :
    Giving (fun results => ∀ result ∈ results, after result) (items.mapM next) := by
  induction items with
  | nil => exact .ok (by simp)
  | cons item rest ih =>
    rw [List.mapM_cons]
    refine bind (each item (List.mem_cons_self ..)) fun first known => ?_
    refine bind (ih fun other member => each other (List.mem_cons_of_mem _ member)) fun others all => ?_
    exact .ok (List.forall_mem_cons.mpr ⟨known, all⟩)

end Giving

/-- Whatever the process returns is like this. -/
def Process.Returns (holds : First → Prop) (process : Process face Error First) : Prop :=
  Coroutine.Ends (Giving holds) process

theorem Converses.returns {holds : First → Prop} {process : Process face Error First}
    {state final : face.State} {trace : List (Exchange face)} {value : First}
    (converses : Converses process state trace (.ok value) final) (returns : process.Returns holds) :
    holds value := converses.ends returns value rfl

namespace Process.Returns

variable {holds : First → Prop} {after : Second → Prop} {process : Process face Error First}
  {next : First → Process face Error Second}

theorem done {value : First} (known : holds value) : Returns holds (pure value : Process face Error First) :=
  .ok known

theorem raise {error : Error} : Returns holds (Process.raise error : Process face Error First) := .error

theorem lift {result : Except Error First} (known : Giving holds result) :
    Returns holds (lift result : Process face Error First) := known

theorem «then» (first : process.Returns holds) (second : ∀ value, holds value → (next value).Returns after) :
    Returns after (process >>= next : Process face Error Second) := by
  apply Coroutine.Ends.bind first
  intro result given
  cases result with
  | ok value => exact second value (given value rfl)
  | error error => exact Giving.error

/-- What the first process returns does not matter. -/
theorem anyway (second : ∀ value, (next value).Returns after) :
    Returns after (process >>= next : Process face Error Second) := by
  have trivially : Coroutine.Ends (fun _ => True) process := by
    induction process with
    | done result => trivial
    | act move rest ih => exact fun state => ih state
    | tell remark rest ih => exact ih
    | ask query resume interrupted answered stopped => exact ⟨answered, stopped⟩
    | wait ready resume interrupted granted stopped => exact ⟨granted, stopped⟩
  apply trivially.bind
  intro result _
  cases result with
  | ok value => exact second value
  | error error => exact Giving.error

theorem attempt {handler : Error → Process face Error First} (first : process.Returns holds)
    (second : ∀ error, (handler error).Returns holds) : Returns holds (Process.attempt process handler) := by
  apply Coroutine.Ends.bind first
  intro result given
  cases result with
  | ok value => exact given
  | error error => exact second error

theorem get {next : face.State → Process face Error Second} (rest : ∀ state, (next state).Returns after) :
    Returns after (Process.get >>= next : Process face Error Second) := rest

theorem say {remark : face.Remark} {next : Unit → Process face Error Second} (rest : (next ()).Returns after) :
    Returns after (Process.say remark >>= next : Process face Error Second) := rest

theorem withLock {stop : face.Interrupt → Error} {lock : face.State → Lock}
    {put : Lock → face.State → face.State} {task : Nat} (inside : process.Returns holds) :
    Returns holds (Process.withLock stop lock put task process) := by
  refine fun _ => ⟨fun _ => ?_, fun reason _ => Giving.error⟩
  apply Coroutine.Ends.bind inside
  exact fun result given _ => given

end Process.Returns

end Async
