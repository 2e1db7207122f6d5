import AlorairLite.Async.Exclusion
import Mathlib.Logic.Relation
import Mathlib.Order.WellFounded

/-! Tasks that come to an end: locks that are taken in a fixed order leave no task blocked for
good, and no task goes on for ever. -/

namespace Async

variable {face : Interface} {Kind Operation Result First Second Error : Type}

/-- Code that waits for a lock only while the locks its task holds have a higher rank, and leaves
its task at these places. -/
def Coroutine.Descends (locks : Kind → face.State → Lock) (rank : Kind → Nat) (task : Nat)
    (leaves : Kind → Place) : Coroutine face Result → face.State → (Kind → Place) → Prop
  | .done _, _, places => places = leaves
  | .act move next, state, places => ∃ later,
      (∀ kind, Lock.Passes task (places kind) (later kind) (locks kind state) (locks kind (move state))) ∧
        (next state).Descends locks rank task leaves (move state) later
  | .tell _ next, state, places => next.Descends locks rank task leaves state places
  | .ask _ resume interrupted, _, places => (∀ kind, places kind ≠ .queued) ∧
      ∀ later, (∀ kind, (locks kind later).Stands task (places kind)) →
        (∀ answer, (resume answer).Descends locks rank task leaves later places) ∧
          ∀ reason, (interrupted reason).Descends locks rank task leaves later places
  | .wait ready resume interrupted, _, places =>
      (∃ kind, (∀ other, places other = .queued ↔ other = kind) ∧
        (∀ state, ready state = (locks kind state).ready task) ∧
          ∀ other, places other = .inside → rank kind < rank other) ∧
        ∀ later, (∀ kind, (locks kind later).Stands task (places kind)) →
          (ready later → resume.Descends locks rank task leaves later places) ∧
            ∀ reason, (interrupted reason).Descends locks rank task leaves later places

variable {locks : Kind → face.State → Lock} {rank : Kind → Nat} {task : Nat} {places leaves : Kind → Place}
  {state : face.State}

section Codes

theorem Coroutine.Descends.bind {code : Coroutine face First} {next : First → Coroutine face Second}
    {between : Kind → Place} (first : code.Descends locks rank task between state places)
    (stands : ∀ kind, (locks kind state).Stands task (places kind))
    (second : ∀ result later, (∀ kind, (locks kind later).Stands task (between kind)) →
      (next result).Descends locks rank task leaves later between) :
    (code.bind next).Descends locks rank task leaves state places := by
  induction code generalizing state places with
  | done result =>
    cases first
    exact second result state stands
  | act move rest ih =>
    obtain ⟨later, passes, descends⟩ := first
    exact ⟨later, passes, ih state descends fun kind => (passes kind).stands (stands kind)⟩
  | tell remark rest ih => exact ih first stands
  | ask query resume interrupted answered stopped =>
    obtain ⟨open_, goes⟩ := first
    refine ⟨open_, fun later stays => ⟨fun answer => ?_, fun reason => ?_⟩⟩
    · exact answered answer ((goes later stays).1 answer) stays
    · exact stopped reason ((goes later stays).2 reason) stays
  | wait ready resume interrupted granted stopped =>
    obtain ⟨waits, goes⟩ := first
    refine ⟨waits, fun later stays => ⟨fun free => ?_, fun reason => ?_⟩⟩
    · exact granted ((goes later stays).1 free) stays
    · exact stopped reason ((goes later stays).2 reason) stays

theorem Coroutine.Descends.settle {code : Coroutine face Result} (scene : Scene face Operation Result)
    (descends : code.Descends locks rank task leaves scene.shared places)
    (stands : ∀ kind, (locks kind scene.shared).Stands task (places kind)) :
    (code.settle task scene).1.Suspended ∧
      (∃ later, (∀ kind, (locks kind (code.settle task scene).2.shared).Stands task (later kind)) ∧
        (code.settle task scene).1.Descends locks rank task leaves (code.settle task scene).2.shared later) ∧
      ∀ other (elsewhere : Kind → Place), other ≠ task →
        ((∀ kind, (locks kind (code.settle task scene).2.shared).Stands other (elsewhere kind)) ↔
          ∀ kind, (locks kind scene.shared).Stands other (elsewhere kind)) := by
  induction code generalizing scene places with
  | done result => exact ⟨trivial, ⟨places, stands, descends⟩, fun _ _ _ => Iff.rfl⟩
  | act move next ih =>
    obtain ⟨later, passes, rest⟩ := descends
    obtain ⟨suspended, stands', others⟩ :=
      ih scene.shared (scene.change move) rest fun kind => (passes kind).stands (stands kind)
    refine ⟨suspended, stands', fun other elsewhere differs => (others other elsewhere differs).trans ?_⟩
    exact forall_congr' fun kind => (passes kind).others (stands kind) differs
  | tell remark next ih => exact ih (scene.emit (.told task remark)) descends stands
  | ask query resume interrupted answered stopped =>
    exact ⟨trivial, ⟨places, stands, descends⟩, fun _ _ _ => Iff.rfl⟩
  | wait ready resume interrupted granted stopped =>
    rw [Coroutine.settle]
    split
    · rename_i free
      exact granted scene ((descends.2 scene.shared stands).1 free) stands
    · exact ⟨trivial, ⟨places, stands, descends⟩, fun _ _ _ => Iff.rfl⟩

end Codes

/-- Code that begins and ends at these places. -/
def Process.Descending (locks : Kind → face.State → Lock) (rank : Kind → Nat) (task : Nat)
    (places : Kind → Place) (process : Process face Error First) : Prop :=
  ∀ state, (∀ kind, (locks kind state).Stands task (places kind)) →
    Coroutine.Descends locks rank task places process state places

namespace Process.Descending

variable {process : Process face Error First} {next : First → Process face Error Second}

theorem raise {error : Error} : Descending locks rank task places (raise error : Process face Error First) :=
  fun _ _ => rfl

theorem lift {result : Except Error First} : Descending locks rank task places (lift result) := fun _ _ => rfl

theorem «then» (first : process.Descending locks rank task places)
    (second : ∀ value, (next value).Descending locks rank task places) :
    Descending locks rank task places (process >>= next : Process face Error Second) := by
  intro state stands
  apply Coroutine.Descends.bind (first state stands) stands
  intro result later stays
  cases result with
  | ok value => exact second value later stays
  | error error => rfl

theorem attempt {handler : Error → Process face Error First} (first : process.Descending locks rank task places)
    (second : ∀ error, (handler error).Descending locks rank task places) :
    Descending locks rank task places (Process.attempt process handler) := by
  intro state stands
  apply Coroutine.Descends.bind (first state stands) stands
  intro result later stays
  cases result with
  | ok value => rfl
  | error error => exact second error later stays

/-- A change that leaves the locks alone. -/
theorem modify {move : face.State → face.State} (aside : ∀ kind state, locks kind (move state) = locks kind state) :
    Descending locks rank task places (Process.modify move : Process face Error Unit) := by
  intro state _
  refine ⟨places, fun kind => ?_, rfl⟩
  rw [aside]
  exact .same

theorem request {stop : face.Interrupt → Error} {query : face.Query} (open_ : ∀ kind, places kind ≠ .queued) :
    Descending locks rank task places (Process.request stop query) :=
  fun _ _ => ⟨open_, fun _ _ => ⟨fun _ => rfl, fun _ => rfl⟩⟩

/-- The way through one of the locks, below those that are held. -/
theorem withLock [DecidableEq Kind] {stop : face.Interrupt → Error} {put : Lock → face.State → face.State}
    {kind : Kind} (holds : ∀ change state, locks kind (put change state) = change)
    (aside : ∀ other change state, other ≠ kind → locks other (put change state) = locks other state)
    (outside : places kind = .outside) (open_ : ∀ other, places other ≠ .queued)
    (below : ∀ other, places other = .inside → rank kind < rank other)
    (inside : process.Descending locks rank task (Function.update places kind .inside)) :
    Descending locks rank task places (Process.withLock stop (locks kind) put task process) := by
  -- A change of this lock only.
  have passes : ∀ {place later : Place} (change : Lock → Lock) (state : face.State),
      Lock.Passes task place later (locks kind state) (change (locks kind state)) → ∀ other,
        Lock.Passes task (Function.update places kind place other) (Function.update places kind later other)
          (locks other state) (locks other (put (change (locks kind state)) state)) := by
    intro place later change state passes other
    by_cases same : other = kind
    · subst same
      rw [Function.update_self, Function.update_self, holds]
      exact passes
    · rw [Function.update_of_ne same, Function.update_of_ne same, aside other _ _ same]
      exact .same
  have begins : Function.update places kind .outside = places := by
    rw [← outside, Function.update_eq_self]
  intro state stands
  refine ⟨Function.update places kind .queued, ?_, ⟨kind, fun other => ?_, fun state => rfl, ?_⟩, ?_⟩
  · have enters := passes (fun lock => lock.enqueue task) state .enqueue
    rwa [begins] at enters
  · by_cases same : other = kind
    · simp [same]
    · simp [same, open_ other]
  · intro other held
    by_cases same : other = kind
    · rw [same, Function.update_self] at held
      cases held
    · rw [Function.update_of_ne same] at held
      exact below other held
  · intro later stays
    constructor
    · intro ready
      have acquired := passes (fun lock => lock.acquire task) later (.acquire ready)
      refine ⟨Function.update places kind .inside, acquired, ?_⟩
      have entered := fun other => (acquired other).stands (stays other)
      apply Coroutine.Descends.bind (inside _ entered) entered
      intro result final _
      refine ⟨places, ?_, rfl⟩
      have released := passes Lock.release final .release
      rwa [begins] at released
    · intro reason
      refine ⟨places, ?_, rfl⟩
      have abandoned := passes (fun lock => lock.abandon task) later .abandon
      rwa [begins] at abandoned

end Process.Descending

/-- The footing of code that takes several locks in the order of their rank. -/
def ladder (locks : Kind → face.State → Lock) (rank : Kind → Nat) : Footing face Operation Result where
  Place := Kind → Place
  rest _ := .outside
  stands state task places := ∀ kind, (locks kind state).Stands task (places kind)
  guards code task := code.Descends locks rank task fun _ => .outside
  settles scene descends stands := descends.settle scene stands
  meanwhile {code _ _ _ _} descends suspended := by
    cases code with
    | done result => exact descends
    | act move next => exact suspended.elim
    | tell remark next => exact suspended.elim
    | ask query resume interrupted => exact descends
    | wait ready resume interrupted => exact descends
  answered descends stands := descends.2 _ stands
  granted descends stands := descends.2 _ stands

section Progress

variable {program : Operation → Nat → Coroutine face Result} {machine : Machine face Operation Result}
  [DecidableEq face.Query]

/-- A task can go on, or waits for an answer. -/
def Machine.Alive (program : Operation → Nat → Coroutine face Result) (machine : Machine face Operation Result)
    (task : Nat) : Prop :=
  (∃ after, machine.step program (.resume task) = some after) ∨
    ∃ query resume interrupted, machine.tasks task = some ⟨.ask query resume interrupted, none⟩

theorem Machine.Alive.open_ (alive : machine.Alive program task) :
    ∃ held, machine.tasks task = some held ∧ ∀ result, held.code ≠ .done result := by
  rcases alive with ⟨after, taken⟩ | ⟨query, resume, interrupted, found⟩
  · simp only [step, resume] at taken
    split at taken
    · rename_i found
      exact ⟨_, found, fun result done => by cases done⟩
    · rename_i found
      exact ⟨_, found, fun result done => by cases done⟩
    · cases taken
  · exact ⟨_, found, fun result done => by cases done⟩

/-- Who asked waits for the answer or has got it. -/
theorem Placed.asked {footing : Footing face Operation Result} (placed : Placed footing machine)
    {held : Task face Result} (found : machine.tasks task = some held) {query : face.Query}
    {resume : face.Answer query → Coroutine face Result} {interrupted : face.Interrupt → Coroutine face Result}
    (asks : held.code = .ask query resume interrupted) : machine.Alive program task := by
  obtain ⟨-, answered, -⟩ := placed.held task held found
  obtain ⟨code, answer⟩ := held
  cases asks
  cases answer with
  | none => exact .inr ⟨query, resume, interrupted, found⟩
  | some reply =>
    obtain ⟨_, _, same⟩ := answered reply rfl
    injection same with same
    left
    simp [Machine.step, Machine.resume, found, same]

/-- Where a task queues for a lock, it or another task can go on. The induction is on the rank of
the lock: who holds it waits, if at all, for one of a lower rank. -/
theorem Placed.unblocked (placed : Placed (ladder locks rank) machine) {kind : Kind} {held : Task face Result}
    (found : machine.tasks task = some held) (waits : task ∈ (locks kind machine.scene.shared).queue) :
    ∃ other, machine.Alive program other := by
  induction level : rank kind using Nat.strongRecOn generalizing kind task held with
  | ind level ih =>
    subst level
    cases holder : (locks kind machine.scene.shared).holder with
    | none =>
      obtain ⟨first, rest, queue⟩ := List.exists_cons_of_ne_nil (List.ne_nil_of_mem waits)
      have queued : first ∈ (locks kind machine.scene.shared).queue := by
        rw [queue]
        exact List.mem_cons_self ..
      have known : first < machine.count := by
        by_contra beyond
        exact ((placed.fresh first (Nat.le_of_not_lt beyond)).2 kind).2 queued
      obtain ⟨held, found⟩ := placed.present first known
      obtain ⟨suspended, answered, places, stands, descends⟩ := placed.held first held found
      have place : places kind = .queued := by
        have stands := stands kind
        cases here : places kind with
        | outside => exact absurd queued (here ▸ stands).2
        | queued => rfl
        | inside => exact absurd queued (here ▸ stands).2
      obtain ⟨code, answer⟩ := held
      refine ⟨first, .inl ?_⟩
      cases code with
      | done result =>
        rw [show places = fun _ => .outside from descends] at place
        cases place
      | act move next => exact suspended.elim
      | tell remark next => exact suspended.elim
      | ask query resume interrupted => exact absurd place (descends.1 kind)
      | wait ready resume interrupted =>
        obtain ⟨⟨own, only, spec, -⟩, -⟩ := descends
        cases (only kind).mp place
        have free : ready machine.scene.shared := by
          rw [spec]
          simp [Lock.ready, holder, queue]
        cases answer with
        | none => simp [Machine.step, Machine.resume, found, free]
        | some reply =>
          obtain ⟨_, _, asked⟩ := answered reply rfl
          cases asked
    | some owner =>
      have known : owner < machine.count := by
        by_contra beyond
        exact ((placed.fresh owner (Nat.le_of_not_lt beyond)).2 kind).1 holder
      obtain ⟨held, found⟩ := placed.present owner known
      obtain ⟨suspended, answered, places, stands, descends⟩ := placed.held owner held found
      have place : places kind = .inside := by
        have stands := stands kind
        cases here : places kind with
        | outside => exact absurd holder (here ▸ stands).1
        | queued => exact absurd holder (here ▸ stands).1
        | inside => rfl
      obtain ⟨code, answer⟩ := held
      cases code with
      | done result =>
        rw [show places = fun _ => .outside from descends] at place
        cases place
      | act move next => exact suspended.elim
      | tell remark next => exact suspended.elim
      | ask query resume interrupted => exact ⟨owner, placed.asked found rfl⟩
      | wait ready resume interrupted =>
        obtain ⟨⟨lower, only, -, below⟩, -⟩ := descends
        have queued := stands lower
        rw [(only lower).mpr rfl] at queued
        exact ih (rank lower) (below kind place) found queued.2 rfl

/-- While a task has not ended, one can go on or waits for an answer. -/
theorem Placed.progress (placed : Placed (ladder locks rank) machine) {held : Task face Result}
    (found : machine.tasks task = some held) (going : ∀ result, held.code ≠ .done result) :
    ∃ other, machine.Alive program other := by
  obtain ⟨suspended, -, places, stands, descends⟩ := placed.held task held found
  obtain ⟨code, answer⟩ := held
  cases code with
  | done result => exact absurd rfl (going result)
  | act move next => exact suspended.elim
  | tell remark next => exact suspended.elim
  | ask query resume interrupted => exact ⟨task, placed.asked found rfl⟩
  | wait ready resume interrupted =>
    obtain ⟨⟨kind, only, -, -⟩, -⟩ := descends
    have queued := stands kind
    rw [(only kind).mpr rfl] at queued
    exact placed.unblocked found queued.2

end Progress

section Rest

/-- The step of a coroutine: what is left of it. -/
inductive Coroutine.Below : Coroutine face Result → Coroutine face Result → Prop where
  | acted {move : face.State → face.State} {next : face.State → Coroutine face Result} (state : face.State) :
    Below (next state) (.act move next)
  | told {remark : face.Remark} {next : Coroutine face Result} : Below next (.tell remark next)
  | answered {query : face.Query} {resume : face.Answer query → Coroutine face Result}
      {interrupted : face.Interrupt → Coroutine face Result} (answer : face.Answer query) :
    Below (resume answer) (.ask query resume interrupted)
  | stopped {query : face.Query} {resume : face.Answer query → Coroutine face Result}
      {interrupted : face.Interrupt → Coroutine face Result} (reason : face.Interrupt) :
    Below (interrupted reason) (.ask query resume interrupted)
  | granted {ready : face.State → Bool} {resume : Coroutine face Result}
      {interrupted : face.Interrupt → Coroutine face Result} : Below resume (.wait ready resume interrupted)
  | abandoned {ready : face.State → Bool} {resume : Coroutine face Result}
      {interrupted : face.Interrupt → Coroutine face Result} (reason : face.Interrupt) :
    Below (interrupted reason) (.wait ready resume interrupted)

theorem Coroutine.below_wf : WellFounded (Coroutine.Below : Coroutine face Result → Coroutine face Result → Prop) := by
  refine ⟨fun code => ?_⟩
  induction code with
  | done result => exact ⟨_, fun rest below => by cases below⟩
  | act move next ih =>
    refine ⟨_, fun rest below => ?_⟩
    cases below with
    | acted state => exact ih state
  | tell remark next ih =>
    refine ⟨_, fun rest below => ?_⟩
    cases below with
    | told => exact ih
  | ask query resume interrupted answered stopped =>
    refine ⟨_, fun rest below => ?_⟩
    cases below with
    | answered answer => exact answered answer
    | stopped reason => exact stopped reason
  | wait ready resume interrupted granted stopped =>
    refine ⟨_, fun rest below => ?_⟩
    cases below with
    | granted => exact granted
    | abandoned reason => exact stopped reason

theorem Coroutine.settle_below (code : Coroutine face Result) (scene : Scene face Operation Result) :
    Relation.ReflTransGen Below (code.settle task scene).1 code := by
  induction code generalizing scene with
  | done result => exact .refl
  | act move next ih => exact (ih scene.shared (scene.change move)).tail (.acted _)
  | tell remark next ih => exact (ih (scene.emit (.told task remark))).tail .told
  | ask query resume interrupted => exact .refl
  | wait ready resume interrupted granted _ =>
    rw [settle]
    split
    · exact (granted scene).tail .granted
    · exact .refl

/-- The task whose turn it is. -/
def Step.turn? : Step face Operation → Option Nat
  | .answer task _ | .resume task | .interrupt task _ => some task
  | .start _ | .drift _ => none

/-- Less is left of the task: it has gone on, or was answered. -/
def Task.Less (later earlier : Task face Result) : Prop :=
  Relation.TransGen Coroutine.Below later.code earlier.code ∨
    later.code = earlier.code ∧ earlier.answer = none ∧ later.answer.isSome

theorem Task.less_wf : WellFounded (Task.Less : Task face Result → Task face Result → Prop) := by
  have ended : ∀ code : Coroutine face Result, (∀ rest, Relation.TransGen Coroutine.Below rest code →
      ∀ answer, Acc Task.Less ⟨rest, answer⟩) → ∀ reply, Acc Task.Less ⟨code, some reply⟩ := by
    rintro code below reply
    refine ⟨_, ?_⟩
    rintro ⟨rest, answer⟩ (less | ⟨-, impossible, -⟩)
    · exact below rest less answer
    · cases impossible
  have below : WellFounded (Coroutine.Below : Coroutine face Result → Coroutine face Result → Prop) :=
    Coroutine.below_wf
  have all : ∀ (code : Coroutine face Result) answer, Acc Task.Less ⟨code, answer⟩ := by
    intro code
    induction code using below.transGen.induction with
    | h code ih =>
      intro answer
      cases answer with
      | some reply => exact ended code ih reply
      | none =>
        refine ⟨_, ?_⟩
        rintro ⟨rest, answer⟩ (less | ⟨same, -, given⟩)
        · exact ih rest less answer
        · obtain ⟨reply, rfl⟩ := Option.isSome_iff_exists.mp given
          cases same
          exact ended _ ih reply
  exact ⟨fun held => all held.code held.answer⟩

variable {program : Operation → Nat → Coroutine face Result} {machine after : Machine face Operation Result}
  {label : Step face Operation} [DecidableEq face.Query]

/-- A task that takes its turn has less left. -/
theorem Machine.turn_less (taken : machine.step program label = some after) (turn : label.turn? = some task) :
    ∃ held later, machine.tasks task = some held ∧ after.tasks task = some later ∧ later.Less held := by
  have goes : ∀ {held : Task face Result} {event code}, machine.tasks task = some held →
      Coroutine.Below code held.code → ∃ held later, machine.tasks task = some held ∧
        (machine.advance task event code).tasks task = some later ∧ later.Less held := by
    intro held event code found below
    refine ⟨held, _, found, Function.update_self .., .inl ?_⟩
    exact Relation.TransGen.tail' (code.settle_below _) below
  cases label with
  | start operation => cases turn
  | drift drift => cases turn
  | answer other reply =>
    cases turn
    simp only [step, answer] at taken
    split at taken
    · rename_i query next stopped found
      split at taken
      · cases taken
        exact ⟨_, _, found, Function.update_self .., .inr ⟨rfl, rfl, rfl⟩⟩
      · cases taken
    · cases taken
  | resume other =>
    cases turn
    simp only [step, resume] at taken
    split at taken
    · rename_i query next stopped reply found
      split at taken
      · cases taken
        exact goes found (.answered _)
      · cases taken
    · rename_i ready next stopped found
      split at taken
      · cases taken
        exact goes found .granted
      · cases taken
    · cases taken
  | interrupt other reason =>
    cases turn
    simp only [step, interrupt] at taken
    split at taken
    · rename_i query next stopped answer found
      cases taken
      exact goes found (.stopped reason)
    · rename_i ready next stopped found
      cases taken
      exact goes found (.abandoned reason)
    · cases taken

/-- The turn of one task leaves the others as they are. -/
theorem Machine.turn_others {held : Task face Result} (taken : machine.step program label = some after)
    (found : machine.tasks task = some held) (known : task < machine.count) (other : label.turn? ≠ some task) :
    after.tasks task = some held := by
  have goes : ∀ {mover count event code}, mover ≠ task →
      ({ machine with count }.advance mover event code).tasks task = some held := by
    intro mover count event code differs
    rw [advance_tasks, Function.update_of_ne differs.symm]
    exact found
  have apart : ∀ {mover}, label.turn? = some mover → mover ≠ task := by
    rintro mover turn rfl
    exact other turn
  cases label with
  | start operation =>
    cases taken
    exact goes (Nat.ne_of_gt known)
  | drift drift =>
    cases taken
    exact found
  | answer mover reply =>
    simp only [step, answer] at taken
    split at taken
    · split at taken
      · cases taken
        exact (Function.update_of_ne (apart rfl).symm _ _).trans found
      · cases taken
    · cases taken
  | resume mover =>
    simp only [step, resume] at taken
    split at taken
    · split at taken
      · cases taken
        exact goes (apart rfl)
      · cases taken
    · split at taken
      · cases taken
        exact goes (apart rfl)
      · cases taken
    · cases taken
  | interrupt mover reason =>
    simp only [step, interrupt] at taken
    split at taken
    · cases taken
      exact goes (apart rfl)
    · cases taken
      exact goes (apart rfl)
    · cases taken

variable {begin : face.State → Prop} (run : Execution (scheduler program begin))

/-- The tasks of an execution are those that were started. -/
def Execution.Numbered : Prop :=
  ∀ n task held, (run.state n).tasks task = some held → task < (run.state n).count

variable {run}

/-- No task takes its turn again and again for ever. -/
theorem Execution.rests (numbered : run.Numbered) (task : Nat) :
    ∃ n, ∀ m, n ≤ m → ∀ label, run.label m = some label → label.turn? ≠ some task := by
  by_contra never
  have again : ∀ n, ∃ m, n ≤ m ∧ ∃ label, run.label m = some label ∧ label.turn? = some task := by
    intro n
    by_contra none
    exact never ⟨n, fun m later label here turn => none ⟨m, later, label, here, turn⟩⟩
  -- What is left of the task can only get less.
  have endless : ∀ held n, (run.state n).tasks task = some held → False := by
    intro held
    induction held using Task.less_wf.induction with
    | h held ih =>
      intro n found
      obtain ⟨m, later, label, here, turn⟩ := again n
      have less : ∀ k label, run.label k = some label → label.turn? = some task →
          (run.state k).tasks task = some held → False := by
        intro k label here turn found
        obtain ⟨before, left, same, next, less⟩ := Machine.turn_less (run.moves k label here) turn
        cases found.symm.trans same
        exact ih left less (k + 1) next
      induction later using Nat.decreasingInduction with
      | self => exact less m label here turn found
      | of_succ k _ later =>
        cases labelled : run.label k with
        | none => exact later (run.idles k labelled ▸ found)
        | some other =>
          by_cases own : other.turn? = some task
          · exact less k other labelled own found
          · exact later (Machine.turn_others (run.moves k other labelled) found (numbered k task held found) own)
  obtain ⟨m, -, label, here, turn⟩ := again 0
  obtain ⟨held, -, found, -⟩ := Machine.turn_less (run.moves m label here) turn
  exact endless held m found

/-- In an execution of finitely many tasks that does not stop while one of them can go on or waits
for an answer, all tasks come to an end. -/
theorem Execution.completes (placed : ∀ n, Placed (ladder locks rank) (run.state n)) {calls : Nat}
    (few : ∀ n, (run.state n).count ≤ calls)
    (busy : ∀ n task, (run.state n).Alive program task →
      ∃ m label, n ≤ m ∧ run.label m = some label ∧ label.turn?.isSome) :
    ∃ n, ∀ m, n ≤ m → ∀ task held, (run.state m).tasks task = some held → ∃ result, held.code = .done result := by
  have numbered : run.Numbered := fun n task held found => (placed n).known found
  have quiet : ∀ bound, ∃ n, ∀ task, task < bound → ∀ m, n ≤ m → ∀ label, run.label m = some label →
      label.turn? ≠ some task := by
    intro bound
    induction bound with
    | zero => exact ⟨0, fun task impossible => absurd impossible (Nat.not_lt_zero _)⟩
    | succ bound ih =>
      obtain ⟨n, below⟩ := ih
      obtain ⟨last, rests⟩ := Execution.rests numbered bound
      refine ⟨max n last, fun task known m later => ?_⟩
      rcases Nat.lt_succ_iff_lt_or_eq.mp known with less | rfl
      · exact below task less m (le_trans (le_max_left _ _) later)
      · exact rests m (le_trans (le_max_right _ _) later)
  obtain ⟨n, silent⟩ := quiet calls
  refine ⟨n, fun m later task held found => ?_⟩
  by_contra going
  have unfinished : ∀ result, held.code ≠ .done result := fun result done => going ⟨result, done⟩
  obtain ⟨other, alive⟩ : ∃ other, (run.state m).Alive program other := (placed m).progress found unfinished
  obtain ⟨k, label, beyond, here, moves⟩ := busy m other alive
  obtain ⟨mover, turn⟩ := Option.isSome_iff_exists.mp moves
  obtain ⟨before, -, known, -⟩ := Machine.turn_less (run.moves k label here) turn
  exact silent mover (lt_of_lt_of_le (numbered k mover before known) (few k)) k (later.trans beyond) label here turn

end Rest

end Async
