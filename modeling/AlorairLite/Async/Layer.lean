import AlorairLite.Async.Budget
import AlorairLite.Async.History

/-! One system of tasks over another. What a task of the upper system asks is served by a call of the
lower system, which runs while other tasks of both take their steps; when the call ends, its result
answers or interrupts the task. -/

namespace Async

section Results

variable {face : Interface} {Operation Result : Type} {machine after : Machine face Operation Result}

/-- What a task adds to the history by itself. -/
def Event.Said : Event face Operation Result → Prop
  | .told _ _ | .asked _ _ | .ended _ _ => True
  | _ => False

theorem Coroutine.settle_said (task : Nat) (code : Coroutine face Result) (scene : Scene face Operation Result) :
    ∃ events, (code.settle task scene).2.log = scene.log ++ events ∧ ∀ event ∈ events, event.Said := by
  induction code generalizing scene with
  | done result => exact ⟨[_], rfl, by simp [Event.Said]⟩
  | act move next ih => exact ih scene.shared (scene.change move)
  | tell remark next ih =>
    obtain ⟨events, log, said⟩ := ih (scene.emit (.told task remark))
    refine ⟨.told task remark :: events, by rw [settle, log]; simp, ?_⟩
    exact List.forall_mem_cons.mpr ⟨trivial, said⟩
  | ask query resume interrupted => exact ⟨[_], rfl, by simp [Event.Said]⟩
  | wait ready resume interrupted granted _ =>
    rw [settle]
    split
    · exact granted scene
    · exact ⟨[], by simp, by simp⟩

theorem Machine.advance_said (machine : Machine face Operation Result) (task : Nat)
    (event : Event face Operation Result) (code : Coroutine face Result) :
    ∃ events, (machine.advance task event code).scene.log = machine.scene.log ++ event :: events ∧
      ∀ event ∈ events, event.Said := by
  obtain ⟨events, log, said⟩ := code.settle_said task (machine.scene.emit event)
  exact ⟨events, by rw [advance_scene, log]; simp, said⟩

/-- What one step does to the tasks: one of them goes on, or is answered, or none of them moves. -/
inductive Moved (machine : Machine face Operation Result) : Step face Operation →
    Machine face Operation Result → Prop where
  | goes {label : Step face Operation} {task count : Nat} {event : Event face Operation Result}
      {code : Coroutine face Result} (more : machine.count ≤ count) (known : task < count)
      (open_ : ∀ held, machine.tasks task = some held → ∀ result, held.code ≠ .done result)
      (delivers : ∀ other reply, event = .delivered other reply → other = task ∧
        ∃ held, machine.tasks task = some held ∧ held.answer = some reply)
      (starts : ∀ other operation, event = .started other operation → label = .start operation ∧
        other = machine.count)
      (acts : ∀ other reason, label = .interrupt other reason → other = task)
      (silent : ∀ other reply, label ≠ .answer other reply) :
    Moved machine label ({ machine with count }.advance task event code)
  | answered {task : Nat} {reply : Sigma face.Answer} {held : Task face Result}
      (found : machine.tasks task = some held) (open_ : ∀ result, held.code ≠ .done result) :
    Moved machine (.answer task reply) { machine with
      scene := machine.scene.emit (.answered task reply)
      tasks := Function.update machine.tasks task (some { held with answer := some reply }) }
  | drifted {drift : face.Drift} : Moved machine (.drift drift) (machine.drift drift)

/-- The tasks that were not started are not there. -/
def Unstarted (machine : Machine face Operation Result) : Prop :=
  ∀ task, machine.count ≤ task → machine.tasks task = none

theorem Unstarted.known {task : Nat} {held : Task face Result} (unstarted : Unstarted machine)
    (found : machine.tasks task = some held) : task < machine.count := by
  refine Nat.lt_of_not_le fun beyond => ?_
  rw [unstarted task beyond] at found
  cases found

variable {label : Step face Operation}

theorem Machine.step_moved [DecidableEq face.Query] {program : Operation → Nat → Coroutine face Result}
    (unstarted : Unstarted machine) (taken : machine.step program label = some after) :
    Moved machine label after := by
  cases label with
  | start operation =>
    cases taken
    refine .goes (Nat.le_succ _) (Nat.lt_succ_self _) ?_ ?_ ?_ ?_ ?_
    · intro held found
      exact absurd (unstarted.known found) (Nat.lt_irrefl _)
    · intro other reply impossible
      cases impossible
    · intro other operation' same
      cases same
      exact ⟨rfl, rfl⟩
    · exact fun other reason impossible => by cases impossible
    · exact fun other reply impossible => by cases impossible
  | answer task reply =>
    simp only [step, answer] at taken
    split at taken
    · rename_i query next stopped suspended
      split at taken
      · cases taken
        exact .answered suspended fun result impossible => by cases impossible
      · cases taken
    · cases taken
  | resume task =>
    simp only [step, resume] at taken
    split at taken
    · rename_i query next stopped reply suspended
      split at taken
      · cases taken
        refine .goes (Nat.le_refl _) (unstarted.known suspended) ?_ ?_ ?_ ?_ ?_
        · intro held found result done
          rw [suspended] at found
          cases found
          cases done
        · intro other reply' same
          cases same
          exact ⟨rfl, _, suspended, rfl⟩
        all_goals exact fun _ _ impossible => by cases impossible
      · cases taken
    · rename_i ready next stopped suspended
      split at taken
      · cases taken
        refine .goes (Nat.le_refl _) (unstarted.known suspended) ?_ ?_ ?_ ?_ ?_
        · intro held found result done
          rw [suspended] at found
          cases found
          cases done
        all_goals exact fun _ _ impossible => by cases impossible
      · cases taken
    · cases taken
  | interrupt task reason =>
    have gone : ∀ held code, machine.tasks task = some held → (∀ result, held.code ≠ .done result) →
        Moved machine (.interrupt task reason) (machine.advance task (.interrupted task reason) code) := by
      intro held code suspended open_
      refine .goes (Nat.le_refl _) (unstarted.known suspended) ?_ ?_ ?_ ?_ ?_
      · intro other found
        rw [suspended] at found
        cases found
        exact open_
      · exact fun _ _ impossible => by cases impossible
      · exact fun _ _ impossible => by cases impossible
      · exact fun other reason' same => by cases same; rfl
      · exact fun _ _ impossible => by cases impossible
    simp only [step, interrupt] at taken
    split at taken
    · rename_i query next stopped answer suspended
      cases taken
      exact gone _ _ suspended fun result impossible => by cases impossible
    · rename_i ready next stopped suspended
      cases taken
      exact gone _ _ suspended fun result impossible => by cases impossible
    · cases taken
  | drift drift =>
    cases taken
    exact .drifted

theorem Moved.unstarted (moved : Moved machine label after) (unstarted : Unstarted machine) : Unstarted after := by
  cases moved with
  | goes more known open_ delivers starts acts silent =>
    intro other beyond
    rw [Machine.advance_tasks, Function.update_of_ne]
    · exact unstarted other (Nat.le_trans more beyond)
    · rintro rfl
      exact absurd known (Nat.not_lt_of_le beyond)
  | answered found open_ =>
    intro other beyond
    refine (Function.update_of_ne ?_ _ _).trans (unstarted other beyond)
    rintro rfl
    exact absurd (unstarted.known found) (Nat.not_lt_of_le beyond)
  | drifted => exact unstarted

/-- A task that has ended keeps its result. -/
theorem Moved.result? {task : Nat} {result : Result} (moved : Moved machine label after)
    (ended : machine.result? task = some result) : after.result? task = some result := by
  obtain ⟨held, found, done⟩ := Machine.result?_some ended
  have kept : after.tasks task = some held := by
    cases moved with
    | goes more known open_ =>
      rw [Machine.advance_tasks, Function.update_of_ne]
      · exact found
      · rintro rfl
        exact open_ held found result done
    | answered other open_ =>
      refine (Function.update_of_ne ?_ _ _).trans found
      rintro rfl
      rw [found] at other
      cases other
      exact open_ result done
    | drifted => exact found
  unfold Machine.result? at ended ⊢
  rw [kept]
  rw [found] at ended
  exact ended

/-- The replies that tasks have, or were given, are like this. -/
structure Replied (good : Nat → Sigma face.Answer → Prop) (machine : Machine face Operation Result) : Prop where
  held : ∀ task held reply, machine.tasks task = some held → held.answer = some reply → good task reply
  delivered : ∀ task reply, .delivered task reply ∈ machine.scene.log → good task reply

theorem Moved.replied {good : Nat → Sigma face.Answer → Prop} (moved : Moved machine label after)
    (replied : Replied good machine) (fits : ∀ task reply, label = .answer task reply → good task reply) :
    Replied good after := by
  cases moved with
  | @goes _ task count event code more known open_ delivers starts acts silent =>
    constructor
    · intro other held reply found has
      rw [Machine.advance_tasks] at found
      by_cases same : other = task
      · subst same
        rw [Function.update_self] at found
        cases found
        cases has
      · rw [Function.update_of_ne same] at found
        exact replied.held other held reply found has
    · intro other reply member
      obtain ⟨events, log, said⟩ := { machine with count }.advance_said task event code
      rw [log] at member
      rcases List.mem_append.mp member with before | new
      · exact replied.delivered other reply before
      · rcases List.mem_cons.mp new with same | added
        · obtain ⟨rfl, held, found, has⟩ := delivers other reply same.symm
          exact replied.held other held reply found has
        · exact (said _ added).elim
  | @answered task reply held found open_ =>
    constructor
    · intro other held' reply' found' has
      by_cases same : other = task
      · subst same
        have current := (Function.update_self _ _ _).symm.trans found'
        cases current
        cases has
        exact fits other reply rfl
      · exact replied.held other held' reply' ((Function.update_of_ne same _ _).symm.trans found') has
    · intro other reply' member
      rcases List.mem_append.mp member with before | last
      · exact replied.delivered other reply' before
      · cases List.mem_singleton.mp last
  | drifted =>
    refine ⟨replied.held, fun other reply member => ?_⟩
    rcases List.mem_append.mp member with before | last
    · exact replied.delivered other reply before
    · cases List.mem_singleton.mp last

/-- The event a step begins with. -/
inductive Caused : Step face Operation → Event face Operation Result → Prop where
  | start {task : Nat} {operation : Operation} : Caused (.start operation) (.started task operation)
  | answer {task : Nat} {reply : Sigma face.Answer} : Caused (.answer task reply) (.answered task reply)
  | delivered {task : Nat} {reply : Sigma face.Answer} : Caused (.resume task) (.delivered task reply)
  | granted {task : Nat} : Caused (.resume task) (.granted task)
  | interrupt {task : Nat} {reason : face.Interrupt} : Caused (.interrupt task reason) (.interrupted task reason)
  | drift {drift : face.Drift} : Caused (.drift drift) (.drifted drift)

/-- A step adds the event it begins with, and what a task says. -/
theorem Machine.step_added [DecidableEq face.Query] {program : Operation → Nat → Coroutine face Result}
    (taken : machine.step program label = some after) :
    ∃ event events, after.scene.log = machine.scene.log ++ event :: events ∧ Caused label event ∧
      ∀ event ∈ events, event.Said := by
  have goes : ∀ (machine' : Machine face Operation Result) task (event : Event face Operation Result) code,
      machine'.scene = machine.scene → Caused label event → ∃ first events,
        (machine'.advance task event code).scene.log = machine.scene.log ++ first :: events ∧
          Caused label first ∧ ∀ event ∈ events, event.Said := by
    intro machine' task event code same caused
    obtain ⟨events, log, said⟩ := machine'.advance_said task event code
    exact ⟨event, events, same ▸ log, caused, said⟩
  cases label with
  | start operation =>
    cases taken
    exact goes _ _ _ _ rfl .start
  | answer task reply =>
    simp only [step, answer] at taken
    split at taken
    · split at taken
      · cases taken
        exact ⟨_, [], rfl, .answer, by simp⟩
      · cases taken
    · cases taken
  | resume task =>
    simp only [step, resume] at taken
    split at taken
    · split at taken
      · cases taken
        exact goes _ _ _ _ rfl .delivered
      · cases taken
    · split at taken
      · cases taken
        exact goes _ _ _ _ rfl .granted
      · cases taken
    · cases taken
  | interrupt task reason =>
    simp only [step, interrupt] at taken
    split at taken
    · cases taken
      exact goes _ _ _ _ rfl .interrupt
    · cases taken
      exact goes _ _ _ _ rfl .interrupt
    · cases taken
  | drift drift =>
    cases taken
    exact ⟨_, [], rfl, .drift, by simp⟩

/-- What is said of the interruptions in the history is kept by a step, if it is true of its own one. -/
theorem Machine.step_parts [DecidableEq face.Query] {program : Operation → Nat → Coroutine face Result}
    {judged : List (Event face Operation Result) → Event face Operation Result → Prop}
    (held : Every judged machine.scene.log)
    (free : ∀ past event, (∀ task reason, event ≠ .interrupted task reason) → judged past event)
    (fresh : ∀ task reason, label = .interrupt task reason → judged machine.scene.log (.interrupted task reason))
    (taken : machine.step program label = some after) : Every judged after.scene.log := by
  obtain ⟨event, events, log, caused, said⟩ := machine.step_added taken
  have first : judged machine.scene.log event := by
    cases caused with
    | interrupt => exact fresh _ _ rfl
    | _ => exact free _ _ (by simp)
  rw [log, List.append_cons]
  refine (held.append_singleton first).append_free fun other member past => free past other ?_
  rintro task reason rfl
  exact said _ member

/-- What suspended code asks, and ended code has returned, is in the history. -/
def Coroutine.Noted (task : Nat) (log : List (Event face Operation Result)) : Coroutine face Result → Prop
  | .ask query _ _ => .asked task query ∈ log
  | .done result => .ended task result ∈ log
  | _ => True

theorem Coroutine.Noted.mono {task : Nat} {log later : List (Event face Operation Result)}
    {code : Coroutine face Result} (noted : code.Noted task log) (grown : log <+: later) : code.Noted task later := by
  cases code with
  | ask query resume interrupted => exact grown.subset noted
  | done result => exact grown.subset noted
  | _ => trivial

theorem Coroutine.settle_noted {task : Nat} {code : Coroutine face Result} {scene : Scene face Operation Result} :
    (code.settle task scene).1.Noted task (code.settle task scene).2.log := by
  induction code generalizing scene with
  | done result => exact List.mem_append_right _ (List.mem_singleton_self _)
  | act move next ih => exact ih scene.shared
  | tell remark next ih => exact ih
  | ask query resume interrupted => exact List.mem_append_right _ (List.mem_singleton_self _)
  | wait ready resume interrupted granted _ =>
    rw [settle]
    split
    · exact granted
    · trivial

/-- What the task is suspended at and has no answer to yet. -/
def Machine.awaited? (machine : Machine face Operation Result) (task : Nat) : Option face.Query :=
  match machine.tasks task with
  | some ⟨.ask query _ _, none⟩ => some query
  | _ => none

def Spoken (machine : Machine face Operation Result) : Prop :=
  ∀ task held, machine.tasks task = some held → held.code.Noted task machine.scene.log

theorem Spoken.awaited {task : Nat} {query : face.Query} (spoken : Spoken machine)
    (awaited : machine.awaited? task = some query) : .asked task query ∈ machine.scene.log := by
  unfold Machine.awaited? at awaited
  split at awaited
  · rename_i found
    cases awaited
    exact spoken _ _ found
  · cases awaited

/-- Only what was asked is answered. -/
theorem Spoken.answered [DecidableEq face.Query] {program : Operation → Nat → Coroutine face Result} {task : Nat}
    {reply : Sigma face.Answer} (spoken : Spoken machine)
    (taken : machine.step program (.answer task reply) = some after) : .asked task reply.1 ∈ machine.scene.log := by
  simp only [Machine.step, Machine.answer] at taken
  split at taken
  · rename_i query next stopped found
    split at taken
    · rename_i same
      rw [same]
      exact spoken task _ found
    · cases taken
  · cases taken

/-- What a task has ended with is in the history. -/
theorem Spoken.result {task : Nat} {result : Result} (spoken : Spoken machine)
    (ended : machine.result? task = some result) : .ended task result ∈ machine.scene.log := by
  obtain ⟨held, found, done⟩ := Machine.result?_some ended
  have noted := spoken task held found
  rwa [done] at noted

theorem Moved.grows (moved : Moved machine label after) : machine.scene.log <+: after.scene.log := by
  cases moved with
  | goes => exact Machine.advance_log _ _ _ _
  | answered => exact ⟨[_], rfl⟩
  | drifted => exact ⟨[_], rfl⟩

theorem Moved.count (moved : Moved machine label after) : machine.count ≤ after.count := by
  cases moved with
  | goes more => exact more
  | _ => exact le_rfl

theorem Moved.spoken (moved : Moved machine label after) (spoken : Spoken machine) : Spoken after := by
  have grows := moved.grows
  intro other held found
  cases moved with
  | @goes _ task count event code =>
    rw [Machine.advance_tasks] at found
    by_cases same : other = task
    · subst same
      rw [Function.update_self] at found
      cases found
      exact Coroutine.settle_noted
    · rw [Function.update_of_ne same] at found
      exact (spoken _ _ found).mono grows
  | @answered task reply before found' =>
    by_cases same : other = task
    · subst same
      have current := (Function.update_self _ _ _).symm.trans found
      cases current
      exact (spoken other before found').mono grows
    · exact (spoken _ _ ((Function.update_of_ne same _ _).symm.trans found)).mono grows
  | drifted => exact (spoken _ _ found).mono grows

section Spending

variable {weigh : face.Query → ℕ} {task : Nat}

theorem spent_mono {before log : List (Event face Operation Result)} (grows : before <+: log) :
    spent weigh (exchanges task before) ≤ spent weigh (exchanges task log) := by
  obtain ⟨events, rfl⟩ := grows
  rw [exchanges_append, spent_append]
  exact Nat.le_add_right _ _

theorem spent_asked {scene : Scene face Operation Result} {query : face.Query} :
    spent weigh (exchanges task (scene.emit (.asked task query)).log) =
      spent weigh (exchanges task scene.log) + weigh query := by
  rw [exchanges_emit rfl, spent_append]
  rfl

/-- Suspended code has paid for what it asks. -/
theorem Coroutine.settle_spends {code : Coroutine face Result} {scene : Scene face Operation Result}
    {query : face.Query} {resume : face.Answer query → Coroutine face Result}
    {interrupted : face.Interrupt → Coroutine face Result}
    (asks : (code.settle task scene).1 = .ask query resume interrupted) :
    spent weigh (exchanges task scene.log) + weigh query ≤
      spent weigh (exchanges task (code.settle task scene).2.log) := by
  induction code generalizing scene with
  | done result => cases asks
  | act move next ih => exact ih scene.shared asks
  | tell remark next ih =>
    have first : spent weigh (exchanges task scene.log) ≤
        spent weigh (exchanges task (scene.emit (.told task remark)).log) := spent_mono ⟨[_], rfl⟩
    exact (Nat.add_le_add_right first _).trans (ih asks)
  | ask query' resume' interrupted' =>
    cases asks
    exact spent_asked.ge
  | wait ready resume' interrupted' granted _ =>
    rw [settle] at asks ⊢
    split
    · rename_i free
      rw [if_pos free] at asks
      exact granted asks
    · rename_i busy
      rw [if_neg busy] at asks
      cases asks

/-- A task that waits for an answer waited for it before the step, which was not its own, or has
asked for it in the step. -/
theorem Moved.awaited {query : face.Query} (moved : Moved machine label after)
    (awaited : after.awaited? task = some query) :
    (machine.awaited? task = some query ∧ (∀ reason, label ≠ .interrupt task reason) ∧
        ∀ reply, label ≠ .answer task reply) ∨
      spent weigh (exchanges task machine.scene.log) + weigh query ≤
        spent weigh (exchanges task after.scene.log) := by
  unfold Machine.awaited? at awaited
  split at awaited
  · rename_i query' resume interrupted found
    cases awaited
    have waiting : machine.tasks task = some ⟨.ask query resume interrupted, none⟩ →
        machine.awaited? task = some query := fun before => by
      unfold Machine.awaited?
      rw [before]
    cases moved with
    | @goes _ other count event code more known open_ delivers starts acts silent =>
      rw [Machine.advance_tasks] at found
      by_cases same : task = other
      · subst same
        rw [Function.update_self] at found
        have first : spent weigh (exchanges task machine.scene.log) ≤
            spent weigh (exchanges task (machine.scene.emit event).log) := spent_mono ⟨[_], rfl⟩
        refine .inr ((Nat.add_le_add_right first _).trans ?_)
        exact Coroutine.settle_spends (congrArg Task.code (Option.some.inj found))
      · rw [Function.update_of_ne same] at found
        exact .inl ⟨waiting found, fun reason same' => same (acts task reason same'), silent task⟩
    | @answered other reply held present open_ =>
      by_cases same : task = other
      · subst same
        have current := (Function.update_self _ _ _).symm.trans found
        cases congrArg Task.answer (Option.some.inj current)
      · refine .inl ⟨waiting ((Function.update_of_ne same _ _).symm.trans found), by simp, ?_⟩
        intro reply' same'
        cases same'
        exact same rfl
    | drifted => exact .inl ⟨waiting found, by simp, by simp⟩
  · cases awaited

end Spending

/-- A task is started only by its own step. -/
theorem Moved.starts {task : Nat} {operation : Operation} (moved : Moved machine label after)
    (member : .started task operation ∈ after.scene.log) :
    .started task operation ∈ machine.scene.log ∨ label = .start operation ∧ task = machine.count := by
  cases moved with
  | @goes _ other count event code _ _ _ _ starts =>
    obtain ⟨events, log, said⟩ := { machine with count }.advance_said other event code
    rw [log] at member
    rcases List.mem_append.mp member with before | new
    · exact .inl before
    · rcases List.mem_cons.mp new with same | added
      · exact .inr (starts task operation same.symm)
      · exact (said _ added).elim
  | answered =>
    rcases List.mem_append.mp member with before | last
    · exact .inl before
    · cases List.mem_singleton.mp last
  | drifted =>
    rcases List.mem_append.mp member with before | last
    · exact .inl before
    · cases List.mem_singleton.mp last

end Results

/-- How the queries of one interface are served by calls over another one. -/
structure Layer (up low : Interface) (Call Outcome : Type) where
  /-- The call for a query; `none` when the outside world answers it. -/
  call : up.Query → Option Call
  /-- What the end of the call is for who asked: an answer, or an interruption. -/
  outcome : (query : up.Query) → Outcome → Option (up.Answer query ⊕ up.Interrupt)

/-- A call was started for this query of this task. -/
structure Link (Query : Type) where
  task : Nat
  query : Query
  call : Nat

/-- Both systems, the calls that are open, and all links so far. -/
structure Layered (up low : Interface) (Operation Result Call Outcome : Type) where
  upper : Machine up Operation Result
  lower : Machine low Call Outcome
  serving : Nat → Option (Link up.Query) := fun _ => none
  links : List (Link up.Query) := []

inductive LayerStep (up low : Interface) (Operation Call : Type) where
  | upper (step : Step up Operation)
  | lower (step : Step low Call)
  /-- The call for what this task asks is started. -/
  | begin (task : Nat)
  /-- The call for this task has ended. -/
  | finish (task : Nat)

namespace Layer

variable {up low : Interface} {Operation Result Call Outcome : Type}
  (layer : Layer up low Call Outcome) (above : System (Machine up Operation Result) (Step up Operation))
  (below : System (Machine low Call Outcome) (Step low Call))

/-- The outside world does not answer what a call serves, and interrupts a task that waits for a
call only through the call. -/
def outside (state : Layered up low Operation Result Call Outcome) : Step up Operation → Bool
  | .answer _ reply => (layer.call reply.1).isNone
  | .interrupt task _ => (state.serving task).isNone
  | _ => true

/-- Nobody else calls the lower system. -/
def inside : Step low Call → Bool
  | .start _ => false
  | _ => true

/-- The task hears how its call has ended. -/
def heard (task : Nat) (query : up.Query) : up.Answer query ⊕ up.Interrupt → Step up Operation
  | .inl answer => .answer task ⟨query, answer⟩
  | .inr reason => .interrupt task reason

def step (state : Layered up low Operation Result Call Outcome) : LayerStep up low Operation Call →
    Option (Layered up low Operation Result Call Outcome)
  | .upper label =>
    if layer.outside state label then (above.step state.upper label).map ({ state with upper := · }) else none
  | .lower label =>
    if inside label then (below.step state.lower label).map ({ state with lower := · }) else none
  | .begin task =>
    if (state.serving task).isNone then
      (state.upper.awaited? task).bind fun query => (layer.call query).bind fun call =>
        (below.step state.lower (.start call)).map fun lower =>
          let link : Link up.Query := ⟨task, query, state.lower.count⟩
          { state with
            lower, serving := Function.update state.serving task (some link), links := state.links ++ [link] }
    else none
  | .finish task => (state.serving task).bind fun link =>
    (state.lower.result? link.call).bind fun result => (layer.outcome link.query result).bind fun outcome =>
      (above.step state.upper (heard task link.query outcome)).map fun upper =>
        { state with upper, serving := Function.update state.serving task none }

/-- The two systems together. -/
def system : System (Layered up low Operation Result Call Outcome) (LayerStep up low Operation Call) where
  initial state := above.initial state.upper ∧ below.initial state.lower ∧
    (∀ task, state.serving task = none) ∧ state.links = []
  step := layer.step above below

end Layer

section Links

variable {up low : Interface} {Operation Result Call Outcome : Type}
  {layer : Layer up low Call Outcome} {above : System (Machine up Operation Result) (Step up Operation)}
  {below : System (Machine low Call Outcome) (Step low Call)}
  {state after : Layered up low Operation Result Call Outcome}

/-- A step of both systems together is one of each, or none. -/
structure Advances (above : System (Machine up Operation Result) (Step up Operation))
    (below : System (Machine low Call Outcome) (Step low Call))
    (state after : Layered up low Operation Result Call Outcome) : Prop where
  upper : after.upper = state.upper ∨ ∃ label, above.step state.upper label = some after.upper
  lower : after.lower = state.lower ∨ ∃ label, below.step state.lower label = some after.lower

theorem Layer.step_advances {label : LayerStep up low Operation Call}
    (taken : layer.step above below state label = some after) : Advances above below state after := by
  cases label with
  | upper label =>
    simp only [Layer.step] at taken
    split at taken
    · obtain ⟨upper, moved, rfl⟩ := Option.map_eq_some_iff.mp taken
      exact ⟨.inr ⟨label, moved⟩, .inl rfl⟩
    · cases taken
  | lower label =>
    simp only [Layer.step] at taken
    split at taken
    · obtain ⟨lower, moved, rfl⟩ := Option.map_eq_some_iff.mp taken
      exact ⟨.inl rfl, .inr ⟨label, moved⟩⟩
    · cases taken
  | begin task =>
    simp only [Layer.step] at taken
    split at taken
    · obtain ⟨query, -, taken⟩ := Option.bind_eq_some_iff.mp taken
      obtain ⟨call, -, taken⟩ := Option.bind_eq_some_iff.mp taken
      obtain ⟨lower, moved, rfl⟩ := Option.map_eq_some_iff.mp taken
      exact ⟨.inl rfl, .inr ⟨_, moved⟩⟩
    · cases taken
  | finish task =>
    obtain ⟨link, -, taken⟩ := Option.bind_eq_some_iff.mp taken
    obtain ⟨result, -, taken⟩ := Option.bind_eq_some_iff.mp taken
    obtain ⟨outcome, -, taken⟩ := Option.bind_eq_some_iff.mp taken
    obtain ⟨upper, moved, rfl⟩ := Option.map_eq_some_iff.mp taken
    exact ⟨.inr ⟨_, moved⟩, .inl rfl⟩

/-- Each of the two systems makes a run of its own. -/
theorem Layer.reachable (run : Reachable (layer.system above below) state) :
    Reachable above state.upper ∧ Reachable below state.lower := by
  induction run with
  | start initial => exact ⟨.start initial.1, .start initial.2.1⟩
  | next _ _ taken ih =>
    have advances := Layer.step_advances taken
    constructor
    · rcases advances.upper with same | ⟨label, moved⟩
      · exact same ▸ ih.1
      · exact .next ih.1 trivial moved
    · rcases advances.lower with same | ⟨label, moved⟩
      · exact same ▸ ih.2
      · exact .next ih.2 trivial moved

/-- The reply that a task has to what a call serves is what a call for it has ended with. -/
def Backed (layer : Layer up low Call Outcome) (state : Layered up low Operation Result Call Outcome) (task : Nat)
    (reply : Sigma up.Answer) : Prop :=
  (layer.call reply.1).isSome → ∃ call result, ⟨task, reply.1, call⟩ ∈ state.links ∧
    state.lower.result? call = some result ∧ layer.outcome reply.1 result = some (.inl reply.2)

/-- The links tell what serves what. -/
structure Linked (layer : Layer up low Call Outcome) (state : Layered up low Operation Result Call Outcome) :
    Prop where
  unstarted : Unstarted state.upper ∧ Unstarted state.lower
  spoken : Spoken state.upper
  open_ : ∀ task link, state.serving task = some link → link ∈ state.links ∧ link.task = task
  linked : ∀ link ∈ state.links, .asked link.task link.query ∈ state.upper.scene.log ∧
    ∃ call, layer.call link.query = some call ∧ .started link.call call ∈ state.lower.scene.log
  started : ∀ task call, .started task call ∈ state.lower.scene.log → ∃ link ∈ state.links, link.call = task
  replied : Replied (Backed layer state) state.upper

theorem Backed.later {task : Nat} {reply : Sigma up.Answer} (backed : Backed layer state task reply)
    (links : ∀ link ∈ state.links, link ∈ after.links)
    (results : ∀ call result, state.lower.result? call = some result → after.lower.result? call = some result) :
    Backed layer after task reply := by
  intro serves
  obtain ⟨call, result, linked, ended, outcome⟩ := backed serves
  exact ⟨call, result, links _ linked, results call result ended, outcome⟩

/-- A system of tasks that run a program, perhaps with checks of its own. -/
structure Tasked {face : Interface} {Operation Result : Type} [DecidableEq face.Query]
    (sys : System (Machine face Operation Result) (Step face Operation))
    (program : Operation → Nat → Coroutine face Result) : Prop where
  steps : ∀ machine label next, sys.step machine label = some next → machine.step program label = some next
  initial : ∀ machine, sys.initial machine → (∀ task, machine.tasks task = none) ∧ machine.scene.log = []

theorem scheduler_tasked {face : Interface} {Operation Result : Type} [DecidableEq face.Query]
    {program : Operation → Nat → Coroutine face Result} {start : face.State → Prop} :
    Tasked (scheduler program start) program where
  steps _ _ _ taken := taken
  initial := by
    rintro machine ⟨shared, -, rfl⟩
    exact ⟨fun _ => rfl, rfl⟩

theorem Tasked.checked {face : Interface} {Operation Result : Type} [DecidableEq face.Query]
    {sys : System (Machine face Operation Result) (Step face Operation)}
    {program : Operation → Nat → Coroutine face Result} (tasked : Tasked sys program)
    (check : Machine face Operation Result → Step face Operation → Bool) : Tasked (sys.checked check) program where
  steps machine label next taken := by
    simp only [System.checked] at taken
    split at taken
    · exact tasked.steps _ _ _ taken
    · cases taken
  initial := tasked.initial

theorem Machine.start_logged {face : Interface} {Operation Result : Type} [DecidableEq face.Query]
    {program : Operation → Nat → Coroutine face Result} {machine next : Machine face Operation Result}
    {operation : Operation} (taken : machine.step program (.start operation) = some next) :
    .started machine.count operation ∈ next.scene.log := by
  cases taken
  obtain ⟨events, log, -⟩ := { machine with count := machine.count + 1 }.advance_said machine.count
    (.started machine.count operation) (program operation machine.count)
  rw [log]
  simp

variable {programU : Operation → Nat → Coroutine up Result} {programL : Call → Nat → Coroutine low Outcome}

theorem Linked.upper {upper : Machine up Operation Result} {label : Step up Operation} {serving : Nat → Option (Link up.Query)}
    (linked : Linked layer state) (moved : Moved state.upper label upper)
    (fits : ∀ task reply, label = .answer task reply → Backed layer state task reply)
    (closes : ∀ task link, serving task = some link → state.serving task = some link) :
    Linked layer { state with upper, serving } where
  unstarted := ⟨moved.unstarted linked.unstarted.1, linked.unstarted.2⟩
  spoken := moved.spoken linked.spoken
  open_ task link serves := linked.open_ task link (closes task link serves)
  linked link member := by
    obtain ⟨asked, started⟩ := linked.linked link member
    exact ⟨moved.grows.subset asked, started⟩
  started := linked.started
  replied := moved.replied linked.replied fits

theorem Linked.lower {lower : Machine low Call Outcome} {label : Step low Call} (linked : Linked layer state)
    (moved : Moved state.lower label lower) (others : ∀ call, label ≠ .start call) :
    Linked layer { state with lower } where
  unstarted := ⟨linked.unstarted.1, moved.unstarted linked.unstarted.2⟩
  spoken := linked.spoken
  open_ := linked.open_
  linked link member := by
    obtain ⟨asked, call, serves, started⟩ := linked.linked link member
    exact ⟨asked, call, serves, moved.grows.subset started⟩
  started task call member := by
    rcases moved.starts member with before | ⟨same, -⟩
    · exact linked.started task call before
    · exact absurd same (others call)
  replied := by
    have later : ∀ task reply, Backed layer state task reply → Backed layer { state with lower } task reply :=
      fun task reply backed => backed.later (fun _ member => member) fun call result => moved.result?
    exact ⟨fun task held reply found has => later _ _ (linked.replied.held task held reply found has),
      fun task reply member => later _ _ (linked.replied.delivered task reply member)⟩

variable [DecidableEq low.Query]

theorem Linked.begin {lower : Machine low Call Outcome} {task : Nat} {query : up.Query} {call : Call}
    (linked : Linked layer state) (awaited : state.upper.awaited? task = some query)
    (serves : layer.call query = some call) (taken : state.lower.step programL (.start call) = some lower) :
    Linked layer { state with
      lower
      serving := Function.update state.serving task (some ⟨task, query, state.lower.count⟩)
      links := state.links ++ [⟨task, query, state.lower.count⟩] } := by
  have moved := Machine.step_moved linked.unstarted.2 taken
  have within : ∀ link ∈ state.links, link ∈ state.links ++ [⟨task, query, state.lower.count⟩] :=
    fun link member => List.mem_append_left _ member
  refine ⟨⟨linked.unstarted.1, moved.unstarted linked.unstarted.2⟩, linked.spoken, ?_, ?_, ?_, ?_⟩
  · intro other link serving
    dsimp only at serving
    by_cases same : other = task
    · subst same
      rw [Function.update_self] at serving
      cases serving
      exact ⟨List.mem_append_right _ (List.mem_singleton_self _), rfl⟩
    · rw [Function.update_of_ne same] at serving
      obtain ⟨member, own⟩ := linked.open_ other link serving
      exact ⟨within link member, own⟩
  · intro link member
    rcases List.mem_append.mp member with before | last
    · obtain ⟨asked, call', serves', started⟩ := linked.linked link before
      exact ⟨asked, call', serves', moved.grows.subset started⟩
    · cases List.mem_singleton.mp last
      exact ⟨linked.spoken.awaited awaited, call, serves, Machine.start_logged taken⟩
  · intro other call' member
    rcases moved.starts member with before | ⟨-, rfl⟩
    · obtain ⟨link, present, same⟩ := linked.started other call' before
      exact ⟨link, within link present, same⟩
    · exact ⟨_, List.mem_append_right _ (List.mem_singleton_self _), rfl⟩
  · have later : ∀ other reply, Backed layer state other reply → Backed layer { state with
        lower
        serving := Function.update state.serving task (some ⟨task, query, state.lower.count⟩)
        links := state.links ++ [⟨task, query, state.lower.count⟩] } other reply :=
      fun other reply backed => backed.later within fun call result => moved.result?
    exact ⟨fun other held reply found has => later _ _ (linked.replied.held other held reply found has),
      fun other reply member => later _ _ (linked.replied.delivered other reply member)⟩

variable [DecidableEq up.Query]

theorem Linked.step {label : LayerStep up low Operation Call} (uppers : Tasked above programU)
    (lowers : Tasked below programL) (linked : Linked layer state)
    (taken : layer.step above below state label = some after) : Linked layer after := by
  have goes : ∀ {label next}, above.step state.upper label = some next → Moved state.upper label next :=
    fun taken => Machine.step_moved linked.unstarted.1 (uppers.steps _ _ _ taken)
  cases label with
  | upper label =>
    simp only [Layer.step] at taken
    split at taken
    · rename_i permitted
      obtain ⟨upper, moved, rfl⟩ := Option.map_eq_some_iff.mp taken
      refine linked.upper (goes moved) (fun task reply same serves => ?_) fun _ _ serving => serving
      subst same
      rw [Layer.outside, Option.isNone_iff_eq_none] at permitted
      rw [permitted] at serves
      cases serves
    · cases taken
  | lower label =>
    simp only [Layer.step] at taken
    split at taken
    · rename_i permitted
      obtain ⟨lower, moved, rfl⟩ := Option.map_eq_some_iff.mp taken
      refine linked.lower (Machine.step_moved linked.unstarted.2 (lowers.steps _ _ _ moved)) ?_
      rintro call rfl
      cases permitted
    · cases taken
  | begin task =>
    simp only [Layer.step] at taken
    split at taken
    · obtain ⟨query, awaited, taken⟩ := Option.bind_eq_some_iff.mp taken
      obtain ⟨call, serves, taken⟩ := Option.bind_eq_some_iff.mp taken
      obtain ⟨lower, moved, rfl⟩ := Option.map_eq_some_iff.mp taken
      exact linked.begin awaited serves (lowers.steps _ _ _ moved)
    · cases taken
  | finish task =>
    obtain ⟨link, serving, taken⟩ := Option.bind_eq_some_iff.mp taken
    obtain ⟨result, ended, taken⟩ := Option.bind_eq_some_iff.mp taken
    obtain ⟨outcome, known, taken⟩ := Option.bind_eq_some_iff.mp taken
    obtain ⟨upper, moved, rfl⟩ := Option.map_eq_some_iff.mp taken
    obtain ⟨member, own⟩ := linked.open_ task link serving
    refine linked.upper (goes moved) (fun other reply same _ => ?_) fun other link' serving' => ?_
    · cases outcome with
      | inl answer =>
        cases same
        obtain ⟨linkTask, query, call⟩ := link
        cases own
        exact ⟨call, result, member, ended, known⟩
      | inr reason => cases same
    · by_cases same : other = task
      · subst same
        rw [Function.update_self] at serving'
        cases serving'
      · exact (Function.update_of_ne same _ _).symm.trans serving'

theorem Linked.of_run (uppers : Tasked above programU) (lowers : Tasked below programL)
    (run : Reachable (layer.system above below) state) : Linked layer state := by
  refine run.invariant (Linked layer) ?_ fun _ _ _ _ linked _ taken => linked.step uppers lowers taken
  rintro state ⟨upper, lower, serving, links⟩
  obtain ⟨none, silent⟩ := uppers.initial _ upper
  obtain ⟨none', silent'⟩ := lowers.initial _ lower
  refine ⟨⟨fun task _ => none task, fun task _ => none' task⟩, ?_, ?_, ?_, ?_, ?_, ?_⟩
  · intro task held found
    rw [none] at found
    cases found
  · intro task link open_
    rw [serving] at open_
    cases open_
  · simp [links]
  · simp [silent']
  · intro task held reply found
    rw [none] at found
    cases found
  · simp [silent]

/-- A question that is served by a call. -/
def Layer.toll (layer : Layer up low Call Outcome) (query : up.Query) : ℕ := if (layer.call query).isSome then 1 else 0

/-- The calls that were started for a task. -/
def Layered.callsFor (state : Layered up low Operation Result Call Outcome) (task : Nat) : List (Link up.Query) :=
  state.links.filter fun link => link.task = task

/-- Each call serves a question of its own. -/
structure Metered (layer : Layer up low Call Outcome) (state : Layered up low Operation Result Call Outcome) : Prop where
  paid : ∀ task, (state.callsFor task).length ≤ spent layer.toll (exchanges task state.upper.scene.log)
  waiting : ∀ task query, state.serving task = none → state.upper.awaited? task = some query →
    (state.callsFor task).length + layer.toll query ≤ spent layer.toll (exchanges task state.upper.scene.log)

omit [DecidableEq low.Query] [DecidableEq up.Query] in
theorem Metered.upper {upper : Machine up Operation Result} {label : Step up Operation}
    {serving : Nat → Option (Link up.Query)} (metered : Metered layer state) (moved : Moved state.upper label upper)
    (closes : ∀ task, serving task = none → state.serving task = none ∨
      (∃ reason, label = .interrupt task reason) ∨ ∃ reply, label = .answer task reply) :
    Metered layer { state with upper, serving } where
  paid task := (metered.paid task).trans (spent_mono moved.grows)
  waiting task query free awaited := by
    rcases moved.awaited awaited with ⟨before, steady, unanswered⟩ | asked
    · have open_ : state.serving task = none := by
        rcases closes task free with open_ | ⟨reason, same⟩ | ⟨reply, same⟩
        · exact open_
        · exact absurd same (steady reason)
        · exact absurd same (unanswered reply)
      exact (metered.waiting task query open_ before).trans (spent_mono moved.grows)
    · exact (Nat.add_le_add_right (metered.paid task) _).trans asked

omit [DecidableEq low.Query] [DecidableEq up.Query] in
theorem Metered.begin {lower : Machine low Call Outcome} {task : Nat} {query : up.Query} {call : Call}
    (metered : Metered layer state) (free : state.serving task = none)
    (awaited : state.upper.awaited? task = some query) (serves : layer.call query = some call) :
    Metered layer { state with
      lower
      serving := Function.update state.serving task (some ⟨task, query, state.lower.count⟩)
      links := state.links ++ [⟨task, query, state.lower.count⟩] } := by
  have own : ∀ other, (({ state with
      lower
      serving := Function.update state.serving task (some ⟨task, query, state.lower.count⟩)
      links := state.links ++ [⟨task, query, state.lower.count⟩] } :
        Layered up low Operation Result Call Outcome).callsFor other).length =
      (state.callsFor other).length + if task = other then 1 else 0 := by
    intro other
    unfold Layered.callsFor
    rw [List.filter_append, List.length_append]
    split
    · rename_i same
      simp [same]
    · rename_i differs
      simp [differs]
  have toll : layer.toll query = 1 := by simp [Layer.toll, serves]
  constructor
  · intro other
    rw [own]
    split
    · rename_i same
      subst same
      have paid := metered.waiting task query free awaited
      rwa [toll] at paid
    · exact metered.paid other
  · intro other query' open_ awaits
    dsimp only at open_
    by_cases same : other = task
    · subst same
      rw [Function.update_self] at open_
      cases open_
    · rw [Function.update_of_ne same] at open_
      rw [own, if_neg (Ne.symm same)]
      exact metered.waiting other query' open_ awaits

omit [DecidableEq low.Query] in
theorem Metered.step {label : LayerStep up low Operation Call} (uppers : Tasked above programU)
    (linked : Linked layer state) (metered : Metered layer state)
    (taken : layer.step above below state label = some after) : Metered layer after := by
  have goes : ∀ {label next}, above.step state.upper label = some next → Moved state.upper label next :=
    fun taken => Machine.step_moved linked.unstarted.1 (uppers.steps _ _ _ taken)
  cases label with
  | upper label =>
    simp only [Layer.step] at taken
    split at taken
    · obtain ⟨upper, moved, rfl⟩ := Option.map_eq_some_iff.mp taken
      exact metered.upper (goes moved) fun task open_ => .inl open_
    · cases taken
  | lower label =>
    simp only [Layer.step] at taken
    split at taken
    · obtain ⟨lower, moved, rfl⟩ := Option.map_eq_some_iff.mp taken
      exact ⟨metered.paid, metered.waiting⟩
    · cases taken
  | begin task =>
    simp only [Layer.step] at taken
    split at taken
    · rename_i free
      obtain ⟨query, awaited, taken⟩ := Option.bind_eq_some_iff.mp taken
      obtain ⟨call, serves, taken⟩ := Option.bind_eq_some_iff.mp taken
      obtain ⟨lower, moved, rfl⟩ := Option.map_eq_some_iff.mp taken
      exact metered.begin (Option.isNone_iff_eq_none.mp free) awaited serves
    · cases taken
  | finish task =>
    obtain ⟨link, serving, taken⟩ := Option.bind_eq_some_iff.mp taken
    obtain ⟨result, ended, taken⟩ := Option.bind_eq_some_iff.mp taken
    obtain ⟨outcome, known, taken⟩ := Option.bind_eq_some_iff.mp taken
    obtain ⟨upper, moved, rfl⟩ := Option.map_eq_some_iff.mp taken
    refine metered.upper (goes moved) fun other open_ => ?_
    by_cases same : other = task
    · subst same
      cases outcome with
      | inl answer => exact .inr (.inr ⟨_, rfl⟩)
      | inr reason => exact .inr (.inl ⟨_, rfl⟩)
    · exact .inl ((Function.update_of_ne same _ _).symm.trans open_)

/-- A task has no more calls than its program may ask for. -/
theorem Layer.calls_bounded (uppers : Tasked above programU) (lowers : Tasked below programL)
    (run : Reachable (layer.system above below) state) (task : Nat) :
    (state.callsFor task).length ≤ spent layer.toll (exchanges task state.upper.scene.log) := by
  have both : Linked layer state ∧ Metered layer state := by
    refine run.invariant (fun state => Linked layer state ∧ Metered layer state) ?_ ?_
    · intro state initial
      refine ⟨.of_run uppers lowers (.start initial), ?_⟩
      obtain ⟨upper, lower, serving, links⟩ := initial
      obtain ⟨none, silent⟩ := uppers.initial _ upper
      refine ⟨fun task => by simp [Layered.callsFor, links], fun task query _ awaited => ?_⟩
      unfold Machine.awaited? at awaited
      rw [none] at awaited
      cases awaited
    · intro state label after _ facts _ taken
      exact ⟨facts.1.step uppers lowers taken, facts.2.step uppers facts.1 taken⟩
  exact both.2.paid task

end Links

end Async
