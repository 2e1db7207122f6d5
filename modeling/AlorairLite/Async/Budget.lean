import AlorairLite.Async.Conversation
import AlorairLite.Async.Starts
import Mathlib.Algebra.BigOperators.Group.List.Basic
import Mathlib.Algebra.Order.Monoid.Canonical.Defs

/-! What the questions of a coroutine may cost at most, in any ordered measure, whatever the
outside world answers and the others do meanwhile. -/

namespace Async

variable {face : Interface} {Operation Result First Second Error M : Type} [AddCommMonoid M]

/-- What the questions of an exchange cost. -/
def Exchange.cost (weigh : face.Query → M) : Exchange face → M
  | .asked query => weigh query
  | _ => 0

/-- What a conversation has cost. -/
def spent (weigh : face.Query → M) (trace : List (Exchange face)) : M :=
  (trace.map (Exchange.cost weigh)).sum

/-- A process that returns returns a value like this. -/
def Returning (holds : First → Prop) : Except Error First → Prop
  | .ok value => holds value
  | .error _ => True

@[simp] theorem spent_cons (weigh : face.Query → M) (exchange : Exchange face) (trace : List (Exchange face)) :
    spent weigh (exchange :: trace) = exchange.cost weigh + spent weigh trace := List.sum_cons

@[simp] theorem spent_append (weigh : face.Query → M) (trace later : List (Exchange face)) :
    spent weigh (trace ++ later) = spent weigh trace + spent weigh later := by
  simp [spent]

/-- Every code comes to an end when it is always interrupted. -/
theorem Coroutine.converses_stopped [Nonempty face.Interrupt] (code : Coroutine face Result)
    (state : face.State) : ∃ trace result final, Converses code state (code.opening ++ trace) result final := by
  induction code generalizing state with
  | done result => exact ⟨[], result, state, .done⟩
  | act move next ih =>
    obtain ⟨trace, result, final, rest⟩ := ih state (move state)
    exact ⟨_, result, final, .act rest⟩
  | tell remark next ih =>
    obtain ⟨trace, result, final, rest⟩ := ih state
    exact ⟨_, result, final, .tell rest⟩
  | ask query resume interrupted _ stopped =>
    obtain ⟨reason⟩ : Nonempty face.Interrupt := inferInstance
    obtain ⟨trace, result, final, rest⟩ := stopped reason state
    exact ⟨_, result, final, .interrupt rest⟩
  | wait ready resume interrupted _ stopped =>
    obtain ⟨reason⟩ : Nonempty face.Interrupt := inferInstance
    obtain ⟨trace, result, final, rest⟩ := stopped reason state
    exact ⟨_, result, final, .abandon rest⟩

variable [PartialOrder M]

/-- The code ends with a result like this, and its questions cost no more than this. -/
def Coroutine.Costs (weigh : face.Query → M) (holds : Result → Prop) : Coroutine face Result → M → Prop
  | .done result, _ => holds result
  | .act _ next, cost => ∀ state, (next state).Costs weigh holds cost
  | .tell _ next, cost => next.Costs weigh holds cost
  | .ask query resume interrupted, cost => ∃ rest, weigh query + rest ≤ cost ∧
      (∀ answer, (resume answer).Costs weigh holds rest) ∧
        ∀ reason, (interrupted reason).Costs weigh holds rest
  | .wait _ resume interrupted, cost =>
    resume.Costs weigh holds cost ∧ ∀ reason, (interrupted reason).Costs weigh holds cost

/-- The process costs no more than this, and returns a value like this if it returns. -/
def Process.Costs (weigh : face.Query → M) (process : Process face Error First) (cost : M)
    (holds : First → Prop) : Prop :=
  Coroutine.Costs weigh (Returning holds) process cost

variable {weigh : face.Query → M} {holds : First → Prop} {cost more : M}

theorem Coroutine.Costs.mono {code : Coroutine face First} (costs : code.Costs weigh holds cost)
    (enough : cost ≤ more) : code.Costs weigh holds more := by
  induction code generalizing cost more with
  | done result => exact costs
  | act move next ih => exact fun state => ih state (costs state) enough
  | tell remark next ih => exact ih costs enough
  | ask query resume interrupted answered stopped =>
    obtain ⟨rest, within, each, every⟩ := costs
    exact ⟨rest, within.trans enough, each, every⟩
  | wait ready resume interrupted granted stopped =>
    exact ⟨granted costs.1 enough, fun reason => stopped reason (costs.2 reason) enough⟩

theorem Coroutine.Costs.weaken {code : Coroutine face First} {easier : First → Prop}
    (costs : code.Costs weigh holds cost) (implied : ∀ result, holds result → easier result) :
    code.Costs weigh easier cost := by
  induction code generalizing cost with
  | done result => exact implied result costs
  | act move next ih => exact fun state => ih state (costs state)
  | tell remark next ih => exact ih costs
  | ask query resume interrupted answered stopped =>
    obtain ⟨rest, within, each, every⟩ := costs
    exact ⟨rest, within, fun answer => answered answer (each answer),
      fun reason => stopped reason (every reason)⟩
  | wait ready resume interrupted granted stopped =>
    exact ⟨granted costs.1, fun reason => stopped reason (costs.2 reason)⟩

theorem Process.Costs.mono {process : Process face Error First} (costs : process.Costs weigh cost holds)
    (enough : cost ≤ more) : process.Costs weigh more holds := Coroutine.Costs.mono costs enough

theorem Process.Costs.weaken {process : Process face Error First} {easier : First → Prop}
    (costs : process.Costs weigh cost holds) (implied : ∀ value, holds value → easier value) :
    process.Costs weigh cost easier := by
  apply Coroutine.Costs.weaken costs
  intro result returned
  cases result with
  | ok value => exact implied value returned
  | error error => trivial

theorem Process.Costs.pure {value : First} (held : holds value) :
    Process.Costs weigh (pure value : Process face Error First) cost holds := held

theorem Process.Costs.request {stop : face.Interrupt → Error} {query : face.Query} :
    Costs weigh (Process.request stop query : Process face Error (face.Answer query)) (weigh query)
      fun _ => True :=
  ⟨0, (add_zero _).le, fun _ => trivial, fun _ => trivial⟩

section Synchronous

variable {after : Second → Prop}

theorem Process.Costs.get {next : face.State → Process face Error Second}
    (rest : ∀ state, (next state).Costs weigh cost after) :
    Process.Costs weigh (Process.get >>= next : Process face Error Second) cost after := rest

theorem Process.Costs.modify {move : face.State → face.State} {next : Unit → Process face Error Second}
    (rest : (next ()).Costs weigh cost after) :
    Process.Costs weigh (Process.modify move >>= next : Process face Error Second) cost after := fun _ => rest

theorem Process.Costs.say {remark : face.Remark} {next : Unit → Process face Error Second}
    (rest : (next ()).Costs weigh cost after) :
    Process.Costs weigh (Process.say remark >>= next : Process face Error Second) cost after := rest

theorem Process.Costs.lift {result : Except Error First} {next : First → Process face Error Second}
    (rest : ∀ value, result = .ok value → (next value).Costs weigh cost after) :
    Process.Costs weigh (Process.lift result >>= next : Process face Error Second) cost after := by
  cases result with
  | ok value => exact rest value rfl
  | error error => trivial

end Synchronous

variable [CanonicallyOrderedAdd M] [IsOrderedAddMonoid M]

theorem Coroutine.Costs.bind {code : Coroutine face First} {next : First → Coroutine face Second}
    {after : Second → Prop} (first : code.Costs weigh holds cost)
    (second : ∀ result, holds result → (next result).Costs weigh after more) :
    (code.bind next).Costs weigh after (cost + more) := by
  induction code generalizing cost with
  | done result => exact (second result first).mono (le_add_of_nonneg_left zero_le)
  | act move rest ih => exact fun state => ih state (first state)
  | tell remark rest ih => exact ih first
  | ask query resume interrupted answered stopped =>
    obtain ⟨rest, within, each, every⟩ := first
    refine ⟨rest + more, ?_, fun answer => answered answer (each answer),
      fun reason => stopped reason (every reason)⟩
    rw [← add_assoc]
    exact add_le_add within le_rfl
  | wait ready resume interrupted granted stopped =>
    exact ⟨granted first.1, fun reason => stopped reason (first.2 reason)⟩

namespace Process.Costs

variable {process : Process face Error First} {next : First → Process face Error Second}
  {after : Second → Prop}

theorem «then» (more : M) (first : process.Costs weigh cost holds)
    (second : ∀ value, holds value → (next value).Costs weigh more after) :
    Costs weigh (process >>= next : Process face Error Second) (cost + more) after := by
  apply Coroutine.Costs.bind first
  intro result returned
  cases result with
  | ok value => exact second value returned
  | error error => trivial

theorem attempt {handler : Error → Process face Error First} (more : M) (first : process.Costs weigh cost holds)
    (second : ∀ error, (handler error).Costs weigh more holds) :
    Costs weigh (Process.attempt process handler) (cost + more) holds := by
  apply Coroutine.Costs.bind first
  intro result returned
  cases result with
  | ok value => exact returned
  | error error => exact second error

theorem ensure {cleanup : face.State → face.State} (inside : process.Costs weigh cost holds) :
    Costs weigh (Process.ensure process cleanup) cost holds := by
  have cleaned : ∀ result, Returning holds result → Coroutine.Costs weigh (Returning holds)
      (.act cleanup fun _ => .done result : Process face Error First) 0 := fun result returned _ => returned
  have ensured := Coroutine.Costs.bind inside cleaned
  rw [add_zero] at ensured
  exact ensured

theorem withLock {stop : face.Interrupt → Error} {lock : face.State → Lock}
    {put : Lock → face.State → face.State} {task : Nat} (inside : process.Costs weigh cost holds) :
    Costs weigh (Process.withLock stop lock put task process) cost holds :=
  fun _ => ⟨fun _ => inside.ensure, fun _ _ => trivial⟩

end Process.Costs

/-- A conversation costs no more than the code may. -/
theorem Converses.affords {code : Coroutine face First} {state final : face.State}
    {trace : List (Exchange face)} {result : First} (converses : Converses code state trace result final)
    (costs : code.Costs weigh holds cost) : holds result ∧ spent weigh trace ≤ cost := by
  induction converses generalizing cost with
  | done => exact ⟨costs, zero_le⟩
  | act _ ih => exact ih (costs _)
  | tell _ ih =>
    obtain ⟨reached, within⟩ := ih costs
    exact ⟨reached, by simpa [Exchange.cost] using within⟩
  | answer _ ih =>
    obtain ⟨rest, enough, each, -⟩ := costs
    obtain ⟨reached, within⟩ := ih (each _)
    refine ⟨reached, le_trans ?_ enough⟩
    simpa [Exchange.cost] using add_le_add le_rfl within
  | interrupt _ ih =>
    obtain ⟨rest, enough, -, every⟩ := costs
    obtain ⟨reached, within⟩ := ih (every _)
    refine ⟨reached, le_trans ?_ enough⟩
    simpa [Exchange.cost] using add_le_add le_rfl within
  | grant _ _ ih => exact ih costs.1
  | abandon _ ih =>
    obtain ⟨reached, within⟩ := ih (costs.2 _)
    exact ⟨reached, by simpa [Exchange.cost] using within⟩

section Runs

variable [DecidableEq face.Query] [Nonempty face.Interrupt] {program : Operation → Nat → Coroutine face Result}
  {begin : face.State → Prop} {meets : Machine face Operation Result → Step face Operation → Prop}
  {machine : Machine face Operation Result} {task : Nat} {operation : Operation}

omit [AddCommMonoid M] [PartialOrder M] [CanonicallyOrderedAdd M] [IsOrderedAddMonoid M] in
/-- What a task has done so far is the beginning of a conversation that its program allows. -/
theorem Run.completes (run : Run (scheduler program begin) meets machine)
    (started : .started task operation ∈ machine.scene.log) : ∃ start trace result final,
      Converses (program operation task) start (exchanges task machine.scene.log ++ trace) result final := by
  obtain ⟨held, found⟩ := run.counted.held started
  obtain ⟨begun, start, now, started', before, past, continues⟩ := run.conversing.held task held found
  cases run.counted.unique started started'
  obtain ⟨trace, result, final, rest⟩ := held.code.converses_stopped now
  refine ⟨start, trace, result, final, ?_⟩
  rw [past, List.append_assoc]
  exact continues _ _ _ rest

/-- In every order of the steps of all tasks, no task has spent more than its program may. -/
theorem Run.spent {reaches : Result → Prop} (bounded : (program operation task).Costs weigh reaches cost)
    (run : Run (scheduler program begin) meets machine) (started : .started task operation ∈ machine.scene.log) :
    spent weigh (exchanges task machine.scene.log) ≤ cost := by
  obtain ⟨start, trace, result, final, rest⟩ := run.completes started
  refine le_trans ?_ (rest.affords bounded).2
  rw [spent_append]
  exact le_add_of_nonneg_right zero_le

end Runs

end Async
