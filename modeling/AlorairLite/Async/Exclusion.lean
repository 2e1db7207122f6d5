import AlorairLite.Async.Contract

/-! Mutual exclusion by a lock of the shared state: what code may do with the lock, and
what follows for every order of the steps of all tasks. -/

namespace Async

/-- Where a task stands to a lock. -/
inductive Place where
  | outside
  | queued
  | inside
deriving DecidableEq

namespace Lock

def Stands (lock : Lock) (task : Nat) : Place → Prop
  | .outside => lock.holder ≠ some task ∧ task ∉ lock.queue
  | .queued => lock.holder ≠ some task ∧ task ∈ lock.queue
  | .inside => lock.holder = some task ∧ task ∉ lock.queue

/-- What a task may do with the lock, and where it stands then. -/
inductive Passes (task : Nat) : Place → Place → Lock → Lock → Prop where
  | same {place : Place} {lock : Lock} : Passes task place place lock lock
  | enqueue {lock : Lock} : Passes task .outside .queued lock (lock.enqueue task)
  | acquire {lock : Lock} (ready : lock.ready task) : Passes task .queued .inside lock (lock.acquire task)
  | release {lock : Lock} : Passes task .inside .outside lock lock.release
  | abandon {lock : Lock} : Passes task .queued .outside lock (lock.abandon task)

variable {lock after : Lock} {task other : Nat} {place later elsewhere : Place}

theorem Passes.stands (passes : Passes task place later lock after) (stands : lock.Stands task place) :
    after.Stands task later := by
  cases passes with
  | same => exact stands
  | enqueue => exact ⟨stands.1, List.mem_append_right _ (List.mem_singleton_self _)⟩
  | acquire ready => exact ⟨rfl, by simp [Lock.acquire]⟩
  | release => exact ⟨by simp [Lock.release], stands.2⟩
  | abandon => exact ⟨stands.1, by simp [Lock.abandon]⟩

/-- Nobody else is moved. -/
theorem Passes.others (passes : Passes task place later lock after) (stands : lock.Stands task place)
    (differs : other ≠ task) : after.Stands other elsewhere ↔ lock.Stands other elsewhere := by
  have apart : some task ≠ some other := fun same => differs (Option.some.inj same).symm
  cases passes with
  | same => exact Iff.rfl
  | enqueue => cases elsewhere <;> simp [Stands, Lock.enqueue, differs]
  | acquire ready =>
    have free : lock.holder = none := by
      simp only [Lock.ready, Bool.and_eq_true, decide_eq_true_eq] at ready
      exact ready.1
    cases elsewhere <;> simp [Stands, Lock.acquire, free, apart, differs]
  | release =>
    have held : lock.holder = some task := stands.1
    cases elsewhere <;> simp [Stands, Lock.release, held, apart]
  | abandon => cases elsewhere <;> simp [Stands, Lock.abandon, differs]

end Lock

variable {face : Interface} {Operation Result First Second Error : Type}

/-- Code that does with the lock what it may from where its task stands, asks critical
questions inside only, and leaves the task where it should. -/
def Coroutine.Guards (lock : face.State → Lock) (critical : face.Query → Prop) (task : Nat)
    (leaves : Place) : Coroutine face Result → face.State → Place → Prop
  | .done _, _, place => place = leaves
  | .act move next, state, place => ∃ later, Lock.Passes task place later (lock state) (lock (move state)) ∧
      (next state).Guards lock critical task leaves (move state) later
  | .tell _ next, state, place => next.Guards lock critical task leaves state place
  | .ask query resume interrupted, _, place => place ≠ .queued ∧ (critical query → place = .inside) ∧
      ∀ later, (lock later).Stands task place →
        (∀ answer, (resume answer).Guards lock critical task leaves later place) ∧
          ∀ reason, (interrupted reason).Guards lock critical task leaves later place
  | .wait ready resume interrupted, _, place =>
      (place = .queued → ∀ state, ready state = (lock state).ready task) ∧
        ∀ later, (lock later).Stands task place →
          (ready later → resume.Guards lock critical task leaves later place) ∧
            ∀ reason, (interrupted reason).Guards lock critical task leaves later place

/-- The code does not go on by itself. -/
def Coroutine.Suspended : Coroutine face Result → Prop
  | .act _ _ | .tell _ _ => False
  | _ => True

variable {lock : face.State → Lock} {critical : face.Query → Prop} {task : Nat} {place leaves : Place}
  {state : face.State}

section Codes

theorem Coroutine.Guards.bind {code : Coroutine face First} {next : First → Coroutine face Second}
    {between : Place} (first : code.Guards lock critical task between state place)
    (stands : (lock state).Stands task place)
    (second : ∀ result later, (lock later).Stands task between →
      (next result).Guards lock critical task leaves later between) :
    (code.bind next).Guards lock critical task leaves state place := by
  induction code generalizing state place with
  | done result =>
    cases first
    exact second result state stands
  | act move rest ih =>
    obtain ⟨later, passes, guards⟩ := first
    exact ⟨later, passes, ih state guards (passes.stands stands)⟩
  | tell remark rest ih => exact ih first stands
  | ask query resume interrupted answered stopped =>
    obtain ⟨open_, inside, goes⟩ := first
    refine ⟨open_, inside, fun later stays => ⟨fun answer => ?_, fun reason => ?_⟩⟩
    · exact answered answer ((goes later stays).1 answer) stays
    · exact stopped reason ((goes later stays).2 reason) stays
  | wait ready resume interrupted granted stopped =>
    obtain ⟨waits, goes⟩ := first
    refine ⟨waits, fun later stays => ⟨fun free => ?_, fun reason => ?_⟩⟩
    · exact granted ((goes later stays).1 free) stays
    · exact stopped reason ((goes later stays).2 reason) stays

/-- What others do to the lock meanwhile does not matter, if the task stands where it stood. -/
theorem Coroutine.Guards.meanwhile {code : Coroutine face Result} {later : face.State}
    (guards : code.Guards lock critical task leaves state place) (suspended : code.Suspended) :
    code.Guards lock critical task leaves later place := by
  cases code with
  | done result => exact guards
  | act move next => exact suspended.elim
  | tell remark next => exact suspended.elim
  | ask query resume interrupted => exact guards
  | wait ready resume interrupted => exact guards

/-- The synchronous code of a task. -/
theorem Coroutine.Guards.settle {code : Coroutine face Result} (scene : Scene face Operation Result)
    (guards : code.Guards lock critical task leaves scene.shared place)
    (stands : (lock scene.shared).Stands task place) :
    (code.settle task scene).1.Suspended ∧
      (∃ later, (lock (code.settle task scene).2.shared).Stands task later ∧
        (code.settle task scene).1.Guards lock critical task leaves (code.settle task scene).2.shared later) ∧
      ∀ other elsewhere, other ≠ task → ((lock (code.settle task scene).2.shared).Stands other elsewhere ↔
        (lock scene.shared).Stands other elsewhere) := by
  induction code generalizing scene place with
  | done result => exact ⟨trivial, ⟨place, stands, guards⟩, fun _ _ _ => Iff.rfl⟩
  | act move next ih =>
    obtain ⟨later, passes, rest⟩ := guards
    obtain ⟨suspended, stands', others⟩ := ih scene.shared (scene.change move) rest (passes.stands stands)
    exact ⟨suspended, stands', fun other elsewhere differs =>
      (others other elsewhere differs).trans (passes.others stands differs)⟩
  | tell remark next ih => exact ih (scene.emit (.told task remark)) guards stands
  | ask query resume interrupted answered stopped =>
    exact ⟨trivial, ⟨place, stands, guards⟩, fun _ _ _ => Iff.rfl⟩
  | wait ready resume interrupted granted stopped =>
    rw [Coroutine.settle]
    split
    · rename_i free
      exact granted scene ((guards.2 scene.shared stands).1 free) stands
    · exact ⟨trivial, ⟨place, stands, guards⟩, fun _ _ _ => Iff.rfl⟩

end Codes

/-- Code that begins and ends at this place. -/
def Process.Guarded (lock : face.State → Lock) (critical : face.Query → Prop) (task : Nat) (place : Place)
    (process : Process face Error First) : Prop :=
  ∀ state, (lock state).Stands task place → Coroutine.Guards lock critical task place process state place

namespace Process.Guarded

variable {process : Process face Error First} {next : First → Process face Error Second}

theorem pure {value : First} : Guarded lock critical task place (pure value : Process face Error First) :=
  fun _ _ => rfl

theorem raise {error : Error} : Guarded lock critical task place (raise error : Process face Error First) :=
  fun _ _ => rfl

theorem lift {result : Except Error First} : Guarded lock critical task place (lift result) := fun _ _ => rfl

theorem «then» (first : process.Guarded lock critical task place)
    (second : ∀ value, (next value).Guarded lock critical task place) :
    Guarded lock critical task place (process >>= next : Process face Error Second) := by
  intro state stands
  apply Coroutine.Guards.bind (first state stands) stands
  intro result later stays
  cases result with
  | ok value => exact second value later stays
  | error error => rfl

theorem attempt {handler : Error → Process face Error First} (first : process.Guarded lock critical task place)
    (second : ∀ error, (handler error).Guarded lock critical task place) :
    Guarded lock critical task place (Process.attempt process handler) := by
  intro state stands
  apply Coroutine.Guards.bind (first state stands) stands
  intro result later stays
  cases result with
  | ok value => rfl
  | error error => exact second error later stays

theorem get {next : face.State → Process face Error Second}
    (rest : ∀ state, (next state).Guarded lock critical task place) :
    Guarded lock critical task place (Process.get >>= next : Process face Error Second) :=
  fun state stands => ⟨place, .same, rest state state stands⟩

theorem say {remark : face.Remark} {next : Unit → Process face Error Second}
    (rest : (next ()).Guarded lock critical task place) :
    Guarded lock critical task place (Process.say remark >>= next : Process face Error Second) := rest

/-- A change that leaves the lock alone. -/
theorem modify {move : face.State → face.State} (aside : ∀ state, lock (move state) = lock state) :
    Guarded lock critical task place (Process.modify move : Process face Error Unit) := by
  intro state _
  refine ⟨place, ?_, rfl⟩
  rw [aside]
  exact .same

theorem ensure {cleanup : face.State → face.State} (inside : process.Guarded lock critical task place)
    (aside : ∀ state, lock (cleanup state) = lock state) :
    Guarded lock critical task place (Process.ensure process cleanup) := by
  intro state stands
  apply Coroutine.Guards.bind (inside state stands) stands
  intro result later _
  refine ⟨place, ?_, rfl⟩
  rw [aside]
  exact .same

theorem request {stop : face.Interrupt → Error} {query : face.Query} (open_ : place ≠ .queued)
    (inside : critical query → place = .inside) :
    Guarded lock critical task place (Process.request stop query) :=
  fun _ _ => ⟨open_, inside, fun _ _ => ⟨fun _ => rfl, fun _ => rfl⟩⟩

/-- The way through another lock. -/
theorem aside {stop : face.Interrupt → Error} {other : face.State → Lock}
    {put : Lock → face.State → face.State} (open_ : place ≠ .queued)
    (apart : ∀ change state, lock (put change state) = lock state)
    (inside : process.Guarded lock critical task place) :
    Guarded lock critical task place (Process.withLock stop other put task process) := by
  apply «then» (modify fun state => apart _ state)
  intro _
  apply «then»
  · intro state _
    refine ⟨fun queued => absurd queued open_, fun later stays => ⟨fun _ => rfl, fun reason => ?_⟩⟩
    refine ⟨place, ?_, rfl⟩
    rw [apart]
    exact .same
  · intro _
    apply «then» (modify fun state => apart _ state)
    exact fun _ => inside.ensure fun state => apart _ state

/-- The way through this lock. -/
theorem withLock {stop : face.Interrupt → Error} {put : Lock → face.State → face.State}
    (holds : ∀ change state, lock (put change state) = change)
    (inside : process.Guarded lock critical task .inside) :
    Guarded lock critical task .outside (Process.withLock stop lock put task process) := by
  intro state stands
  refine ⟨.queued, ?_, fun _ state => rfl, fun later stays => ⟨fun ready => ?_, fun reason => ?_⟩⟩
  · rw [holds]
    exact .enqueue
  · refine ⟨.inside, ?_, ?_⟩
    · rw [holds]
      exact .acquire ready
    · have entered : (lock (put ((lock later).acquire task) later)).Stands task .inside := by
        rw [holds]
        exact (Lock.Passes.acquire ready).stands stays
      apply Coroutine.Guards.bind (inside _ entered) entered
      intro result final _
      refine ⟨.outside, ?_, rfl⟩
      rw [holds]
      exact .release
  · refine ⟨.outside, ?_, rfl⟩
    rw [holds]
    exact .abandon

end Process.Guarded

section Runs

variable {program : Operation → Nat → Coroutine face Result}
  {machine after : Machine face Operation Result}

/-- What the task is waiting for an answer to, or has not been given the answer to yet. -/
def Machine.asking? (machine : Machine face Operation Result) (task : Nat) : Option face.Query :=
  match machine.tasks task with
  | some ⟨.ask query _ _, _⟩ => some query
  | _ => none

/-- Where the tasks stand in the shared state, and what code needs to be at such a place. What
a task does moves nobody else. -/
structure Footing (face : Interface) (Operation Result : Type) where
  Place : Type
  /-- Where a task stands that does not go on. -/
  rest : Place
  stands : face.State → Nat → Place → Prop
  guards : Coroutine face Result → Nat → face.State → Place → Prop
  settles : ∀ {code task place} (scene : Scene face Operation Result), guards code task scene.shared place →
    stands scene.shared task place → (code.settle task scene).1.Suspended ∧
      (∃ later, stands (code.settle task scene).2.shared task later ∧
        guards (code.settle task scene).1 task (code.settle task scene).2.shared later) ∧
      ∀ other elsewhere, other ≠ task →
        (stands (code.settle task scene).2.shared other elsewhere ↔ stands scene.shared other elsewhere)
  meanwhile : ∀ {code task state place later}, guards code task state place → code.Suspended →
    guards code task later place
  answered : ∀ {query resume interrupted task state place}, guards (.ask query resume interrupted) task state place →
    stands state task place → (∀ answer, guards (resume answer) task state place) ∧
      ∀ reason, guards (interrupted reason) task state place
  granted : ∀ {ready resume interrupted task state place}, guards (.wait ready resume interrupted) task state place →
    stands state task place → (ready state → guards resume task state place) ∧
      ∀ reason, guards (interrupted reason) task state place

/-- Every task stands where its code needs it. -/
structure Placed (footing : Footing face Operation Result) (machine : Machine face Operation Result) : Prop where
  fresh : ∀ task, machine.count ≤ task →
    machine.tasks task = none ∧ footing.stands machine.scene.shared task footing.rest
  present : ∀ task, task < machine.count → ∃ held, machine.tasks task = some held
  held : ∀ task held, machine.tasks task = some held → held.code.Suspended ∧
    (∀ reply, held.answer = some reply → ∃ resume interrupted, held.code = .ask reply.1 resume interrupted) ∧
      ∃ place, footing.stands machine.scene.shared task place ∧
        footing.guards held.code task machine.scene.shared place

section Steps

variable {footing : Footing face Operation Result} {place : footing.Place}

theorem Placed.advance {count : Nat} {event : Event face Operation Result} {code : Coroutine face Result}
    (placed : Placed footing machine) (known : task < count) (more : machine.count ≤ count)
    (others : ∀ other, other < count → other = task ∨ other < machine.count)
    (stands : footing.stands machine.scene.shared task place)
    (guards : footing.guards code task machine.scene.shared place) :
    Placed footing ({ machine with count }.advance task event code) := by
  obtain ⟨suspended, ⟨later, stays, rest⟩, kept⟩ := footing.settles (machine.scene.emit event) guards stands
  refine ⟨fun other beyond => ?_, fun other below => ?_, fun other held found => ?_⟩
  · have differs : other ≠ task := Nat.ne_of_gt (Nat.lt_of_lt_of_le known beyond)
    obtain ⟨absent, outside⟩ := placed.fresh other (Nat.le_trans more beyond)
    rw [Machine.advance_tasks, Function.update_of_ne differs]
    exact ⟨absent, (kept other footing.rest differs).mpr outside⟩
  · rw [Machine.advance_tasks]
    by_cases same : other = task
    · subst same
      exact ⟨_, Function.update_self ..⟩
    · rw [Function.update_of_ne same]
      exact placed.present other ((others other below).resolve_left same)
  · rw [Machine.advance_tasks] at found
    by_cases same : other = task
    · subst same
      rw [Function.update_self] at found
      cases found
      exact ⟨suspended, nofun, later, stays, rest⟩
    · rw [Function.update_of_ne same] at found
      obtain ⟨still, unanswered, elsewhere, stands', guards'⟩ := placed.held other held found
      exact ⟨still, unanswered, elsewhere, (kept other elsewhere same).mpr stands',
        footing.meanwhile guards' still⟩

theorem Placed.known {held : Task face Result} (placed : Placed footing machine)
    (found : machine.tasks task = some held) : task < machine.count := by
  by_contra beyond
  rw [(placed.fresh task (Nat.le_of_not_lt beyond)).1] at found
  cases found

/-- A task that is resumed or interrupted. -/
theorem Placed.goes {event : Event face Operation Result} {held : Task face Result}
    {code : Coroutine face Result} (placed : Placed footing machine)
    (found : machine.tasks task = some held)
    (guards : ∀ place, footing.stands machine.scene.shared task place →
      footing.guards held.code task machine.scene.shared place →
        footing.guards code task machine.scene.shared place) :
    Placed footing (machine.advance task event code) := by
  obtain ⟨-, -, place, stands, before⟩ := placed.held task held found
  exact placed.advance (placed.known found) (Nat.le_refl _) (fun _ below => .inr below) stands
    (guards place stands before)

/-- What happens to the tasks and the shared state in a step that is no turn of a task. -/
theorem Placed.around (scene : Scene face Operation Result) {tasks : Nat → Option (Task face Result)}
    (placed : Placed footing machine) (same : ∀ task place,
      footing.stands machine.scene.shared task place → footing.stands scene.shared task place)
    (present : ∀ task, (tasks task).isSome = (machine.tasks task).isSome)
    (held : ∀ task held, tasks task = some held → ∃ before, machine.tasks task = some before ∧
      before.code = held.code ∧ ∀ reply, held.answer = some reply → before.answer = some reply ∨
        ∃ resume interrupted, held.code = .ask reply.1 resume interrupted) :
    Placed footing { machine with scene, tasks } := by
  refine ⟨fun task beyond => ?_, fun task below => ?_, fun task later found => ?_⟩
  · obtain ⟨absent, outside⟩ := placed.fresh task beyond
    have none := present task
    rw [absent] at none
    exact ⟨Option.isNone_iff_eq_none.mp (by simpa using none), same _ _ outside⟩
  · obtain ⟨before, found⟩ := placed.present task below
    apply Option.isSome_iff_exists.mp
    rw [present, found]
    rfl
  · obtain ⟨before, found', code, answer⟩ := held task later found
    obtain ⟨suspended, unanswered, place, stands, guards⟩ := placed.held task before found'
    rw [code] at suspended unanswered guards
    exact ⟨suspended, fun reply given => (answer reply given).elim (unanswered reply) id, place,
      same _ _ stands, footing.meanwhile guards suspended⟩

variable [DecidableEq face.Query]

theorem Placed.step {label : Step face Operation}
    (guarded : ∀ operation task state, footing.stands state task footing.rest →
      footing.guards (program operation task) task state footing.rest)
    (drifts : ∀ drift state task place, footing.stands state task place →
      footing.stands (face.drift drift state) task place)
    (placed : Placed footing machine) (taken : machine.step program label = some after) :
    Placed footing after := by
  cases label with
  | start operation =>
    cases taken
    obtain ⟨-, outside⟩ := placed.fresh machine.count (Nat.le_refl _)
    exact placed.advance (Nat.lt_succ_self _) (Nat.le_succ _)
      (fun other below => (Nat.lt_succ_iff_lt_or_eq.mp below).symm) outside (guarded _ _ _ outside)
  | answer task reply =>
    simp only [Machine.step, Machine.answer] at taken
    split at taken
    · rename_i query next stopped found
      split at taken
      · rename_i fits
        cases taken
        apply placed.around (machine.scene.emit (.answered task reply)) fun _ _ => id
        · intro other
          by_cases same : other = task
          · simp [same, found]
          · rw [Function.update_of_ne same]
        · intro other held present
          by_cases same : other = task
          · subst same
            rw [Function.update_self] at present
            cases present
            refine ⟨_, found, rfl, fun reply' given => .inr ?_⟩
            cases given
            subst fits
            exact ⟨next, stopped, rfl⟩
          · rw [Function.update_of_ne same] at present
            exact ⟨held, present, rfl, fun _ => .inl⟩
      · cases taken
    · cases taken
  | resume task =>
    simp only [Machine.step, Machine.resume] at taken
    split at taken
    · rename_i query next stopped reply found
      split at taken
      · rename_i same
        cases taken
        exact placed.goes found fun place stands guards => (footing.answered guards stands).1 _
      · cases taken
    · rename_i ready next stopped found
      split at taken
      · rename_i free
        cases taken
        exact placed.goes found fun place stands guards => (footing.granted guards stands).1 free
      · cases taken
    · cases taken
  | interrupt task reason =>
    simp only [Machine.step, Machine.interrupt] at taken
    split at taken
    · rename_i query next stopped answer found
      cases taken
      exact placed.goes found fun place stands guards => (footing.answered guards stands).2 reason
    · rename_i ready next stopped found
      cases taken
      exact placed.goes found fun place stands guards => (footing.granted guards stands).2 reason
    · cases taken
  | drift drift =>
    cases taken
    apply placed.around _ (drifts drift _)
    · exact fun _ => rfl
    · exact fun task held found => ⟨held, found, rfl, fun _ => .inl⟩

/-- Programs that need no more than they are given keep every task at its place, in every order of
their steps. -/
theorem Run.placed {begin : face.State → Prop}
    {meets : Machine face Operation Result → Step face Operation → Prop}
    (guarded : ∀ operation task state, footing.stands state task footing.rest →
      footing.guards (program operation task) task state footing.rest)
    (drifts : ∀ drift state task place, footing.stands state task place →
      footing.stands (face.drift drift state) task place)
    (free : ∀ state task, begin state → footing.stands state task footing.rest)
    (run : Run (scheduler program begin) meets machine) : Placed footing machine := by
  apply run.invariant
  · rintro machine ⟨shared, begins, rfl⟩
    exact ⟨fun task _ => ⟨rfl, free shared task begins⟩, by simp, by simp⟩
  · intro machine label after _ placed _ taken
    exact placed.step guarded drifts taken

end Steps

/-- The footing of code that is guarded by one lock. -/
def lockFooting (lock : face.State → Lock) (critical : face.Query → Prop) : Footing face Operation Result where
  Place := Async.Place
  rest := .outside
  stands state task := (lock state).Stands task
  guards code task := code.Guards lock critical task .outside
  settles scene guards stands := guards.settle scene stands
  meanwhile guards suspended := guards.meanwhile suspended
  answered guards stands := guards.2.2 _ stands
  granted guards stands := guards.2 _ stands

theorem Placed.inside {query : face.Query} (placed : Placed (lockFooting lock critical) machine)
    (asks : machine.asking? task = some query) (needs : critical query) :
    (lock machine.scene.shared).holder = some task := by
  unfold Machine.asking? at asks
  split at asks
  · rename_i asked resume interrupted answer found
    cases asks
    obtain ⟨-, -, place, stands, guards⟩ := placed.held task _ found
    have stands : (lock machine.scene.shared).Stands task place := stands
    rw [guards.2.1 needs] at stands
    exact stands.1
  · cases asks

variable [DecidableEq face.Query]

/-- Critical questions are asked under the lock, which is held by a task that goes on, and the first
task that waits for the free lock can take it. -/
structure Exclusive (program : Operation → Nat → Coroutine face Result) (lock : face.State → Lock)
    (critical : face.Query → Prop) (machine : Machine face Operation Result) : Prop where
  inside : ∀ task query, machine.asking? task = some query → critical query →
    (lock machine.scene.shared).holder = some task
  alone : ∀ first second query other, machine.asking? first = some query → critical query →
    machine.asking? second = some other → critical other → first = second
  holder : ∀ task, (lock machine.scene.shared).holder = some task →
    ∃ held, machine.tasks task = some held ∧ ∀ result, held.code ≠ .done result
  progress : ∀ task, (lock machine.scene.shared).ready task →
    ∃ after, machine.step program (.resume task) = some after

theorem Placed.exclusive (placed : Placed (lockFooting lock critical) machine) :
    Exclusive program lock critical machine where
  inside task query asks critical := placed.inside asks critical
  alone first second query other asks critical asks' critical' := by
    have holder := placed.inside asks critical
    rw [placed.inside asks' critical'] at holder
    exact (Option.some.inj holder).symm
  holder task holds := by
    have known : task < machine.count := by
      by_contra beyond
      exact (placed.fresh task (Nat.le_of_not_lt beyond)).2.1 holds
    obtain ⟨held, found⟩ := placed.present task known
    refine ⟨held, found, fun result done => ?_⟩
    obtain ⟨-, -, place, stands, guards⟩ := placed.held task held found
    rw [done] at guards
    cases guards
    exact stands.1 holds
  progress task ready := by
    have waits : task ∈ (lock machine.scene.shared).queue := by
      simp only [Lock.ready, Bool.and_eq_true, decide_eq_true_eq] at ready
      exact List.mem_of_mem_head? ready.2
    have known : task < machine.count := by
      by_contra beyond
      exact (placed.fresh task (Nat.le_of_not_lt beyond)).2.2 waits
    obtain ⟨held, found⟩ := placed.present task known
    obtain ⟨suspended, unanswered, place, stands, guards⟩ := placed.held task held found
    have queued : place = .queued := by
      cases place with
      | outside => exact absurd waits stands.2
      | queued => rfl
      | inside => exact absurd waits stands.2
    obtain ⟨code, answer⟩ := held
    cases code with
    | done result =>
      cases guards
      cases queued
    | act move next => exact suspended.elim
    | tell remark next => exact suspended.elim
    | ask query resume interrupted => exact absurd queued guards.1
    | wait ready' resume interrupted =>
      have free : ready' machine.scene.shared := (guards.1 queued _).trans ready
      cases answer with
      | none =>
        refine ⟨machine.advance task (.granted task) resume, ?_⟩
        simp [Machine.step, Machine.resume, found, free]
      | some reply =>
        obtain ⟨_, _, asked⟩ := unanswered reply rfl
        cases asked

/-- Guarded programs exclude each other in every order of their steps. -/
theorem Run.exclusive {begin : face.State → Prop}
    {meets : Machine face Operation Result → Step face Operation → Prop}
    (guarded : ∀ operation task state, (lock state).Stands task .outside →
      (program operation task).Guards lock critical task .outside state .outside)
    (drifts : ∀ drift state, lock (face.drift drift state) = lock state)
    (free : ∀ state, begin state → lock state = {})
    (run : Run (scheduler program begin) meets machine) : Exclusive program lock critical machine := by
  have placed : Placed (lockFooting lock critical) machine := by
    apply run.placed guarded
    · intro drift state task place stands
      change (lock (face.drift drift state)).Stands task place
      rw [drifts]
      exact stands
    · intro state task begins
      change (lock state).Stands task .outside
      rw [free state begins]
      exact ⟨by simp, by simp⟩
  exact placed.exclusive

end Runs

end Async
