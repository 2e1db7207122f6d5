import AlorairLite.Async.Schedule

/-! A program logic for tasks. A contract has an invariant of the scene and says what each
task may rely on while it is suspended; `wp` is what the code of a task owes it. If every
program meets the contract, every run keeps it. -/

namespace Async

variable {face : Interface} {Operation Result First Second : Type}

/-- What the tasks of a system keep, and what its runs allow the outside world to do. -/
structure Contract (face : Interface) (Operation Result : Type) where
  invariant : Scene face Operation Result → Prop
  /-- What a task may assume of the others between two scenes. -/
  rely : Nat → Scene face Operation Result → Scene face Operation Result → Prop
  starts : Scene face Operation Result → Operation → Prop
  answers : Scene face Operation Result → Nat → Sigma face.Answer → Prop
  delivers : Scene face Operation Result → Nat → Sigma face.Answer → Prop
  interrupts : Scene face Operation Result → Nat → face.Interrupt → Prop
  drifts : Scene face Operation Result → face.Drift → Prop
  refl : ∀ task scene, rely task scene scene
  trans : ∀ {task first second third}, rely task first second → rely task second third →
    rely task first third
  answered : ∀ {scene task reply}, invariant scene → answers scene task reply →
    invariant (scene.emit (.answered task reply)) ∧
      ∀ other, rely other scene (scene.emit (.answered task reply))
  drifted : ∀ {scene drift}, invariant scene → drifts scene drift →
    invariant ((scene.emit (.drifted drift)).change (face.drift drift)) ∧
      ∀ other, rely other scene ((scene.emit (.drifted drift)).change (face.drift drift))

/-- None of these events belongs to the task. -/
def Foreign (task : Nat) (events : List (Event face Operation Result)) : Prop :=
  ∀ event ∈ events, event.task? ≠ some task

/-- All of these events belong to the task. -/
def Own (task : Nat) (events : List (Event face Operation Result)) : Prop :=
  ∀ event ∈ events, event.task? = some task

theorem Foreign.append {task : Nat} {events later : List (Event face Operation Result)}
    (first : Foreign task events) (second : Foreign task later) : Foreign task (events ++ later) := by
  intro event member
  rcases List.mem_append.mp member with early | late
  · exact first event early
  · exact second event late

theorem Own.append {task : Nat} {events later : List (Event face Operation Result)}
    (first : Own task events) (second : Own task later) : Own task (events ++ later) := by
  intro event member
  rcases List.mem_append.mp member with early | late
  · exact first event early
  · exact second event late

theorem Own.single {task : Nat} {event : Event face Operation Result}
    (own : event.task? = some task) : Own task [event] := by
  intro other member
  rw [List.mem_singleton.mp member]
  exact own

theorem Own.foreign {task other : Nat} {events : List (Event face Operation Result)}
    (own : Own task events) (differs : other ≠ task) : Foreign other events := by
  intro event member same
  rw [own event member] at same
  exact differs (Option.some.inj same).symm

/-- The synchronous code of a task only adds events of that task. -/
theorem Coroutine.settle_log (task : Nat) (code : Coroutine face Result)
    (scene : Scene face Operation Result) :
    ∃ events, (code.settle task scene).2.log = scene.log ++ events ∧ Own task events := by
  induction code generalizing scene with
  | done result => exact ⟨[_], rfl, Own.single rfl⟩
  | act move next ih => exact ih scene.shared (scene.change move)
  | tell remark next ih =>
    obtain ⟨events, log, own⟩ := ih (scene.emit (.told task remark))
    refine ⟨.told task remark :: events, by rw [Coroutine.settle, log]; simp, ?_⟩
    exact (Own.single rfl).append own
  | ask query resume interrupted => exact ⟨[_], rfl, Own.single rfl⟩
  | wait ready resume interrupted granted _ =>
    rw [Coroutine.settle]
    split
    · exact granted scene
    · exact ⟨[], by simp, by simp [Own]⟩

namespace Machine

theorem advance_log (machine : Machine face Operation Result) (task : Nat)
    (event : Event face Operation Result) (code : Coroutine face Result) :
    machine.scene.log <+: (machine.advance task event code).scene.log := by
  obtain ⟨events, log, -⟩ := code.settle_log task (machine.scene.emit event)
  exact ⟨event :: events, by rw [advance_scene, log]; simp⟩

/-- No step takes an event back. -/
theorem step_log [DecidableEq face.Query] {program : Operation → Nat → Coroutine face Result}
    {machine after : Machine face Operation Result} {label : Step face Operation}
    (taken : machine.step program label = some after) : machine.scene.log <+: after.scene.log := by
  cases label with
  | start operation =>
    cases taken
    exact advance_log _ _ _ _
  | answer task reply =>
    simp only [step, answer] at taken
    split at taken
    · split at taken
      · cases taken
        exact ⟨[.answered task reply], rfl⟩
      · cases taken
    · cases taken
  | resume task =>
    simp only [step, resume] at taken
    split at taken
    · split at taken
      · cases taken
        exact advance_log _ _ _ _
      · cases taken
    · split at taken
      · cases taken
        exact advance_log _ _ _ _
      · cases taken
    · cases taken
  | interrupt task reason =>
    simp only [step, interrupt] at taken
    split at taken
    · cases taken
      exact advance_log _ _ _ _
    · cases taken
      exact advance_log _ _ _ _
    · cases taken
  | drift drift =>
    cases taken
    exact ⟨[.drifted drift], rfl⟩

end Machine

theorem Onward.log [DecidableEq face.Query] {program : Operation → Nat → Coroutine face Result}
    {start : face.State → Prop} {meets : Machine face Operation Result → Step face Operation → Prop}
    {machine after : Machine face Operation Result}
    (onward : Onward (scheduler program start) meets machine after) :
    machine.scene.log <+: after.scene.log := by
  induction onward with
  | here => exact List.prefix_rfl
  | next _ _ taken ih => exact ih.trans (Machine.step_log taken)

namespace Contract

variable (contract : Contract face Operation Result)

/-- The steps the contract speaks about. -/
def allows (machine : Machine face Operation Result) : Step face Operation → Prop
  | .start operation => contract.starts machine.scene operation
  | .answer task reply => contract.answers machine.scene task reply
  | .resume task => ∀ held reply, machine.tasks task = some held → held.answer = some reply →
    contract.delivers machine.scene task reply
  | .interrupt task reason => contract.interrupts machine.scene task reason
  | .drift drift => contract.drifts machine.scene drift

/-- A task hands over: the invariant holds, and nobody's reliance was broken. -/
structure Yields (task : Nat) (origin now : Scene face Operation Result) : Prop where
  invariant : contract.invariant now
  rely : ∀ other, other ≠ task → contract.rely other origin now

/-- The task has been suspended since one scene until another, and perhaps was answered. -/
structure Awaiting (task : Nat) (since : Scene face Operation Result)
    (reply : Option (Sigma face.Answer)) (now : Scene face Operation Result) : Prop where
  invariant : contract.invariant now
  rely : contract.rely task since now
  log : ∃ before after, Foreign task before ∧ Foreign task after ∧
    now.log = since.log ++ before ++ reply.toList.map (.answered task) ++ after

/-- What the code of a task has to keep from here on, and what it brings about at its end.
`origin` is the scene in which the task went on. -/
def wp (task : Nat)
    (post : First → Scene face Operation Result → Scene face Operation Result → Prop) :
    Coroutine face First → Scene face Operation Result → Scene face Operation Result → Prop
  | .done result, origin, now => post result origin now
  | .act move next, origin, now => wp task post (next now.shared) origin (now.change move)
  | .tell remark next, origin, now => wp task post next origin (now.emit (.told task remark))
  | .ask query resume interrupted, origin, now =>
    contract.Yields task origin (now.emit (.asked task query)) ∧
      (∀ answer later,
        contract.Awaiting task (now.emit (.asked task query)) (some ⟨query, answer⟩) later →
        contract.delivers later task ⟨query, answer⟩ → wp task post (resume answer) later
          (later.emit (.delivered task ⟨query, answer⟩))) ∧
      ∀ reply reason later, contract.Awaiting task (now.emit (.asked task query)) reply later →
        contract.interrupts later task reason → wp task post (interrupted reason) later
          (later.emit (.interrupted task reason))
  | .wait ready resume interrupted, origin, now =>
    (ready now.shared → wp task post resume origin now) ∧
      (¬ ready now.shared → contract.Yields task origin now ∧
        (∀ later, contract.Awaiting task now none later → ready later.shared →
          wp task post resume later (later.emit (.granted task))) ∧
        ∀ reason later, contract.Awaiting task now none later →
          contract.interrupts later task reason → wp task post (interrupted reason) later
            (later.emit (.interrupted task reason)))

/-- What the code of a suspended task owes for whatever happens next to it. -/
def Owes (task : Nat)
    (post : First → Scene face Operation Result → Scene face Operation Result → Prop)
    (since : Scene face Operation Result) : Coroutine face First → Prop
  | .ask query resume interrupted =>
    (∀ answer later, contract.Awaiting task since (some ⟨query, answer⟩) later →
      contract.delivers later task ⟨query, answer⟩ →
        contract.wp task post (resume answer) later (later.emit (.delivered task ⟨query, answer⟩))) ∧
    ∀ reply reason later, contract.Awaiting task since reply later →
      contract.interrupts later task reason →
        contract.wp task post (interrupted reason) later (later.emit (.interrupted task reason))
  | .wait ready resume interrupted =>
    (∀ later, contract.Awaiting task since none later → ready later.shared →
      contract.wp task post resume later (later.emit (.granted task))) ∧
    ∀ reason later, contract.Awaiting task since none later →
      contract.interrupts later task reason →
        contract.wp task post (interrupted reason) later (later.emit (.interrupted task reason))
  | _ => True

variable {contract} {task : Nat}
  {post : First → Scene face Operation Result → Scene face Operation Result → Prop}

theorem wp_mono
    {weaker : First → Scene face Operation Result → Scene face Operation Result → Prop}
    {code : Coroutine face First} {origin now : Scene face Operation Result}
    (meets : contract.wp task post code origin now)
    (implied : ∀ result origin now, post result origin now → weaker result origin now) :
    contract.wp task weaker code origin now := by
  induction code generalizing origin now with
  | done result => exact implied _ _ _ meets
  | act move next ih => exact ih _ meets
  | tell remark next ih => exact ih meets
  | ask query resume interrupted answered stopped =>
    obtain ⟨yields, delivered, halted⟩ := meets
    exact ⟨yields, fun answer later waited allowed => answered _ (delivered answer later waited allowed),
      fun reply reason later waited allowed => stopped _ (halted reply reason later waited allowed)⟩
  | wait ready resume interrupted granted stopped =>
    obtain ⟨passed, suspended⟩ := meets
    refine ⟨fun free => granted (passed free), fun busy => ?_⟩
    obtain ⟨yields, resumed, halted⟩ := suspended busy
    exact ⟨yields, fun later waited free => granted (resumed later waited free),
      fun reason later waited allowed => stopped _ (halted reason later waited allowed)⟩

theorem wp_bind
    {post : Second → Scene face Operation Result → Scene face Operation Result → Prop}
    {code : Coroutine face First} {next : First → Coroutine face Second}
    {origin now : Scene face Operation Result} :
    contract.wp task post (code.bind next) origin now ↔
      contract.wp task (fun result => contract.wp task post (next result)) code origin now := by
  induction code generalizing origin now with
  | done result => exact Iff.rfl
  | act move rest ih => exact ih _
  | tell remark rest ih => exact ih
  | ask query resume interrupted answered stopped =>
    simp only [Coroutine.bind, wp, answered, stopped]
  | wait ready resume interrupted granted stopped =>
    simp only [Coroutine.bind, wp, granted, stopped]

theorem Awaiting.grows {since now : Scene face Operation Result}
    {reply : Option (Sigma face.Answer)} (awaiting : contract.Awaiting task since reply now) :
    since.log <+: now.log := by
  obtain ⟨before, after, -, -, whole⟩ := awaiting.log
  exact ⟨before ++ reply.toList.map (.answered task) ++ after, by rw [whole]; simp⟩

/-- What a suspended task was started for does not change. -/
theorem Awaiting.only {operation : Operation} {since now : Scene face Operation Result}
    {reply : Option (Sigma face.Answer)} (awaiting : contract.Awaiting task since reply now)
    (only : ∀ other, .started task other ∈ since.log → other = operation) :
    ∀ other, .started task other ∈ now.log → other = operation := by
  obtain ⟨before, after, foreign, foreign', whole⟩ := awaiting.log
  intro other member
  rw [whole] at member
  simp only [List.mem_append] at member
  rcases member with ((early | between) | answer) | late
  · exact only other early
  · exact absurd rfl (foreign _ between)
  · cases reply with
    | none => cases answer
    | some reply => cases List.mem_singleton.mp answer
  · exact absurd rfl (foreign' _ late)

theorem grows_emit (scene : Scene face Operation Result)
    (event : Event face Operation Result) : scene.log <+: (scene.emit event).log := ⟨[event], rfl⟩

/-- Whatever the code of a task does, no event is lost. -/
theorem wp_extends {since : List (Event face Operation Result)} {code : Coroutine face First}
    {origin now : Scene face Operation Result} (earlier : since <+: now.log)
    (meets : contract.wp task post code origin now) :
    contract.wp task (fun result origin later => post result origin later ∧ since <+: later.log) code
      origin now := by
  induction code generalizing origin now with
  | done result => exact ⟨meets, earlier⟩
  | act move next ih => exact ih now.shared earlier meets
  | tell remark next ih => exact ih (earlier.trans (grows_emit now _)) meets
  | ask query resume interrupted answered stopped =>
    obtain ⟨yields, delivered, halted⟩ := meets
    have asked := earlier.trans (grows_emit now (.asked task query))
    refine ⟨yields, fun answer later waited allowed => ?_, fun reply reason later waited allowed => ?_⟩
    · apply answered answer
      · exact (asked.trans waited.grows).trans (grows_emit later _)
      · exact delivered answer later waited allowed
    · apply stopped reason
      · exact (asked.trans waited.grows).trans (grows_emit later _)
      · exact halted reply reason later waited allowed
  | wait ready resume interrupted granted stopped =>
    obtain ⟨passed, suspended⟩ := meets
    refine ⟨fun free => granted earlier (passed free), fun busy => ?_⟩
    obtain ⟨yields, resumed, halted⟩ := suspended busy
    refine ⟨yields, fun later waited free => ?_, fun reason later waited allowed => ?_⟩
    · apply granted
      · exact (earlier.trans waited.grows).trans (grows_emit later _)
      · exact resumed later waited free
    · apply stopped reason
      · exact (earlier.trans waited.grows).trans (grows_emit later _)
      · exact halted reason later waited allowed

variable (contract)

/-- The end of a task is a handover too. -/
def ends (task : Nat) (result : Result) (origin now : Scene face Operation Result) : Prop :=
  contract.Yields task origin (now.emit (.ended task result))

/-- A program keeps the contract, whenever it is started. -/
def Meets (program : Operation → Nat → Coroutine face Result) : Prop :=
  ∀ operation task scene, contract.invariant scene → contract.starts scene operation →
    Foreign task scene.log → contract.wp task (contract.ends task) (program operation task) scene
      (scene.emit (.started task operation))

/-- A task that has ended, or one that owes the contract what happens next to it. -/
def Held (task : Nat) (held : Task face Result) (now : Scene face Operation Result) : Prop :=
  (∃ result, held.code = .done result) ∨ ∃ since, contract.Awaiting task since held.answer now ∧
    contract.Owes task (contract.ends task) since held.code

/-- What holds between any two steps of a run. -/
structure Kept (machine : Machine face Operation Result) : Prop where
  invariant : contract.invariant machine.scene
  fresh : ∀ task, machine.count ≤ task →
    machine.tasks task = none ∧ Foreign task machine.scene.log
  held : ∀ task held, machine.tasks task = some held → contract.Held task held machine.scene

variable {contract}

/-- Code that meets the contract keeps it up to its next suspension. -/
theorem wp_settle {code : Coroutine face Result} {origin now : Scene face Operation Result}
    (meets : contract.wp task (contract.ends task) code origin now) :
    contract.Yields task origin (code.settle task now).2 ∧
      ((∃ result, (code.settle task now).1 = .done result) ∨
        contract.Owes task (contract.ends task) (code.settle task now).2 (code.settle task now).1) := by
  induction code generalizing now with
  | done result => exact ⟨meets, .inl ⟨result, rfl⟩⟩
  | act move next ih => exact ih _ meets
  | tell remark next ih => exact ih meets
  | ask query resume interrupted _ _ => exact ⟨meets.1, .inr meets.2⟩
  | wait ready resume interrupted granted _ =>
    rw [Coroutine.settle]
    by_cases free : ready now.shared
    · rw [if_pos free]
      exact granted (meets.1 free)
    · rw [if_neg free]
      obtain ⟨yields, owes⟩ := meets.2 free
      exact ⟨yields, .inr owes⟩

theorem Awaiting.later {since before after : Scene face Operation Result}
    {reply : Option (Sigma face.Answer)} {events : List (Event face Operation Result)}
    (awaiting : contract.Awaiting task since reply before) (invariant : contract.invariant after)
    (rely : contract.rely task before after) (log : after.log = before.log ++ events)
    (foreign : Foreign task events) : contract.Awaiting task since reply after where
  invariant := invariant
  rely := contract.trans awaiting.rely rely
  log := by
    obtain ⟨first, last, own, other, split⟩ := awaiting.log
    exact ⟨first, last ++ events, own, other.append foreign, by rw [log, split]; simp⟩

theorem Held.later {held : Task face Result} {before after : Scene face Operation Result}
    {events : List (Event face Operation Result)} (owed : contract.Held task held before)
    (invariant : contract.invariant after) (rely : contract.rely task before after)
    (log : after.log = before.log ++ events) (foreign : Foreign task events) :
    contract.Held task held after := by
  rcases owed with done | ⟨since, awaiting, owes⟩
  · exact .inl done
  · exact .inr ⟨since, awaiting.later invariant rely log foreign, owes⟩

/-- One task runs from here to its next suspension. -/
theorem Kept.advance {machine : Machine face Operation Result} {count : Nat}
    {event : Event face Operation Result} {code : Coroutine face Result}
    (kept : contract.Kept machine) (own : event.task? = some task) (more : machine.count ≤ count)
    (known : task < count)
    (meets : contract.wp task (contract.ends task) code machine.scene (machine.scene.emit event)) :
    contract.Kept ({ machine with count }.advance task event code) ∧
      ∀ other, other ≠ task → contract.rely other machine.scene
        ({ machine with count }.advance task event code).scene := by
  obtain ⟨yields, owes⟩ := wp_settle meets
  obtain ⟨events, log, mine⟩ := code.settle_log task (machine.scene.emit event)
  have whole : (code.settle task (machine.scene.emit event)).2.log =
      machine.scene.log ++ (event :: events) := by
    rw [log]
    simp
  have owned : Own task (event :: events) := (Own.single own).append mine
  refine ⟨⟨yields.invariant, fun other beyond => ?_, fun other held found => ?_⟩, yields.rely⟩
  · have differs : other ≠ task := fun same => by
      rw [same] at beyond
      exact absurd known (Nat.not_lt_of_le beyond)
    obtain ⟨absent, foreign⟩ := kept.fresh other (Nat.le_trans more beyond)
    refine ⟨?_, ?_⟩
    · rw [Machine.advance_tasks, Function.update_of_ne differs]
      exact absent
    · rw [Machine.advance_scene, whole]
      exact foreign.append (owned.foreign differs)
  · by_cases same : other = task
    · subst same
      rw [Machine.advance_tasks, Function.update_self] at found
      cases found
      rcases owes with done | owes
      · exact .inl done
      · refine .inr ⟨_, ⟨yields.invariant, contract.refl _ _, [], [], ?_, ?_, ?_⟩, owes⟩
        · simp [Foreign]
        · simp [Foreign]
        · simp [Machine.advance]
    · rw [Machine.advance_tasks, Function.update_of_ne same] at found
      exact (kept.held other held found).later yields.invariant (yields.rely other same) whole
        (owned.foreign same)

/-- Something happens that no task does. -/
theorem Kept.around {machine : Machine face Operation Result}
    {scene : Scene face Operation Result} {event : Event face Operation Result}
    (kept : contract.Kept machine) (invariant : contract.invariant scene)
    (rely : ∀ other, contract.rely other machine.scene scene)
    (log : scene.log = machine.scene.log ++ [event]) (foreign : event.task? = none) :
    contract.Kept { machine with scene } := by
  have others : ∀ other, Foreign other [event] := by
    intro other member found same
    rw [List.mem_singleton.mp found, foreign] at same
    cases same
  refine ⟨invariant, fun other beyond => ?_, fun other held found => ?_⟩
  · obtain ⟨absent, before⟩ := kept.fresh other beyond
    refine ⟨absent, ?_⟩
    rw [log]
    exact before.append (others other)
  · exact (kept.held other held found).later invariant (rely other) log (others other)

theorem Kept.interrupt {machine after : Machine face Operation Result} {reason : face.Interrupt}
    (kept : contract.Kept machine) (allowed : contract.interrupts machine.scene task reason)
    (taken : machine.interrupt task reason = some after) :
    contract.Kept after ∧ ∀ other, other ≠ task → contract.rely other machine.scene after.scene := by
  have known : ∀ held, machine.tasks task = some held → task < machine.count := fun held found => by
    refine Nat.lt_of_not_le fun beyond => ?_
    rw [(kept.fresh task beyond).1] at found
    cases found
  rw [Machine.interrupt] at taken
  split at taken
  · rename_i query next stopped answer suspended
    cases taken
    rcases kept.held task _ suspended with ⟨result, impossible⟩ | ⟨since, awaiting, -, owes⟩
    · cases impossible
    · exact kept.advance rfl (Nat.le_refl _) (known _ suspended)
        (owes answer reason machine.scene awaiting allowed)
  · rename_i ready next stopped suspended
    cases taken
    rcases kept.held task _ suspended with ⟨result, impossible⟩ | ⟨since, awaiting, -, owes⟩
    · cases impossible
    · exact kept.advance rfl (Nat.le_refl _) (known _ suspended)
        (owes reason machine.scene awaiting allowed)
  · cases taken

section Steps

variable [DecidableEq face.Query]

theorem Kept.answer {machine after : Machine face Operation Result} {reply : Sigma face.Answer}
    (kept : contract.Kept machine) (allowed : contract.answers machine.scene task reply)
    (taken : machine.answer task reply = some after) :
    contract.Kept after ∧ ∀ other, contract.rely other machine.scene after.scene := by
  obtain ⟨invariant, rely⟩ := contract.answered kept.invariant allowed
  rw [Machine.answer] at taken
  split at taken
  · rename_i query next stopped suspended
    split at taken
    · cases taken
      have known : ∀ other, machine.count ≤ other → other ≠ task := fun other beyond same => by
        rw [same] at beyond
        rw [(kept.fresh task beyond).1] at suspended
        cases suspended
      have foreign : ∀ other, other ≠ task →
          Foreign other [(.answered task reply : Event face Operation Result)] :=
        fun other differs => Own.foreign (Own.single rfl) differs
      refine ⟨⟨invariant, fun other beyond => ?_, fun other held found => ?_⟩, rely⟩
      · obtain ⟨absent, before⟩ := kept.fresh other beyond
        refine ⟨?_, before.append (foreign other (known other beyond))⟩
        exact (Function.update_of_ne (known other beyond) _ _).trans absent
      · by_cases same : other = task
        · subst same
          have current := (Function.update_self _ _ _).symm.trans found
          cases current
          rcases kept.held other _ suspended with ⟨result, impossible⟩ | ⟨since, awaiting, owes⟩
          · cases impossible
          · obtain ⟨first, last, own, last', split⟩ := awaiting.log
            refine .inr ⟨since, ⟨invariant, contract.trans awaiting.rely (rely other),
              first ++ last, [], own.append last', by simp [Foreign], ?_⟩, owes⟩
            rw [Scene.emit_log, split]
            simp
        · have before := (Function.update_of_ne same _ _).symm.trans found
          exact (kept.held other held before).later invariant (rely other) rfl (foreign other same)
    · cases taken
  · cases taken

theorem Kept.resume {machine after : Machine face Operation Result} (kept : contract.Kept machine)
    (allowed : contract.allows machine (.resume task)) (taken : machine.resume task = some after) :
    contract.Kept after ∧ ∀ other, other ≠ task → contract.rely other machine.scene after.scene := by
  have known : ∀ held, machine.tasks task = some held → task < machine.count := fun held found => by
    refine Nat.lt_of_not_le fun beyond => ?_
    rw [(kept.fresh task beyond).1] at found
    cases found
  rw [Machine.resume] at taken
  split at taken
  · rename_i query next stopped reply suspended
    split at taken
    · rename_i same
      cases taken
      obtain ⟨asked, answer⟩ := reply
      cases same
      have permitted := allowed _ _ suspended rfl
      rcases kept.held task _ suspended with ⟨result, impossible⟩ | ⟨since, awaiting, owes, -⟩
      · cases impossible
      · exact kept.advance rfl (Nat.le_refl _) (known _ suspended)
          (owes answer machine.scene awaiting permitted)
    · cases taken
  · rename_i ready next stopped answer suspended
    split at taken
    · rename_i free
      cases taken
      rcases kept.held task _ suspended with ⟨result, impossible⟩ | ⟨since, awaiting, owes, -⟩
      · cases impossible
      · exact kept.advance rfl (Nat.le_refl _) (known _ suspended) (owes machine.scene awaiting free)
    · cases taken
  · cases taken

/-- Who takes this step, if it is a task. -/
def actor (machine : Machine face Operation Result) : Step face Operation → Option Nat
  | .start _ => some machine.count
  | .resume task | .interrupt task _ => some task
  | .answer _ _ | .drift _ => none

/-- A step of programs that keep the contract keeps it, and nobody else's reliance is
broken. -/
theorem Kept.step {program : Operation → Nat → Coroutine face Result} (meets : contract.Meets program)
    {machine after : Machine face Operation Result} {label : Step face Operation}
    (kept : contract.Kept machine) (allowed : contract.allows machine label)
    (taken : Machine.step program machine label = some after) :
    contract.Kept after ∧ ∀ other, actor machine label ≠ some other →
      contract.rely other machine.scene after.scene := by
  cases label with
  | start operation =>
    cases taken
    obtain ⟨-, foreign⟩ := kept.fresh machine.count (Nat.le_refl _)
    obtain ⟨next, rely⟩ := kept.advance rfl (Nat.le_succ _) (Nat.lt_succ_self _)
      (meets operation machine.count machine.scene kept.invariant allowed foreign)
    exact ⟨next, fun other differs => rely other fun same => differs (congrArg some same.symm)⟩
  | answer task reply =>
    obtain ⟨next, rely⟩ := kept.answer allowed taken
    exact ⟨next, fun other _ => rely other⟩
  | resume task =>
    obtain ⟨next, rely⟩ := kept.resume allowed taken
    exact ⟨next, fun other differs => rely other fun same => differs (congrArg some same.symm)⟩
  | interrupt task reason =>
    obtain ⟨next, rely⟩ := kept.interrupt allowed taken
    exact ⟨next, fun other differs => rely other fun same => differs (congrArg some same.symm)⟩
  | drift drift =>
    cases taken
    obtain ⟨invariant, rely⟩ := contract.drifted kept.invariant allowed
    exact ⟨kept.around invariant rely rfl rfl, fun other _ => rely other⟩

omit [DecidableEq face.Query] in
theorem Kept.start {shared : face.State} (invariant : contract.invariant { shared }) :
    contract.Kept ({ scene := { shared } } : Machine face Operation Result) := by
  refine ⟨invariant, fun task _ => ⟨rfl, by simp [Foreign]⟩, ?_⟩
  intro task held found
  cases found

/-- Programs that keep a contract keep it in every run the contract speaks about. -/
theorem Meets.kept {program : Operation → Nat → Coroutine face Result} {start : face.State → Prop}
    (meets : contract.Meets program) (initially : ∀ shared, start shared → contract.invariant { shared })
    {machine : Machine face Operation Result}
    (run : Run (scheduler program start) contract.allows machine) : contract.Kept machine := by
  refine run.invariant contract.Kept ?_ ?_
  · rintro machine ⟨shared, started, rfl⟩
    exact Kept.start (initially shared started)
  · intro machine label after _ kept allowed taken
    exact (kept.step meets allowed taken).1

end Steps

section Conclusions

variable (contract) in
/-- The contract with a goal that each task has reached when it ends. -/
def concluding (goal : Operation → Nat → Result → Scene face Operation Result → Prop) :
    Contract face Operation Result where
  invariant scene := contract.invariant scene ∧ ∀ past task result operation,
    scene.log = past ++ [.ended task result] → .started task operation ∈ past →
      goal operation task result { scene with log := past }
  rely := contract.rely
  starts := contract.starts
  answers := contract.answers
  delivers := contract.delivers
  interrupts := contract.interrupts
  drifts := contract.drifts
  refl := contract.refl
  trans := contract.trans
  answered := by
    intro scene task reply sound allowed
    obtain ⟨invariant, rely⟩ := contract.answered sound.1 allowed
    refine ⟨⟨invariant, fun past other result operation split => ?_⟩, rely⟩
    cases (List.append_inj' split rfl).2
  drifted := by
    intro scene drift sound allowed
    obtain ⟨invariant, rely⟩ := contract.drifted sound.1 allowed
    refine ⟨⟨invariant, fun past other result operation split => ?_⟩, rely⟩
    cases (List.append_inj' split rfl).2

variable {goal : Operation → Nat → Result → Scene face Operation Result → Prop} {operation : Operation}

/-- The task of this operation is running, so the last event is not the end of a task. -/
structure Running (task : Nat) (operation : Operation) (scene : Scene face Operation Result) : Prop where
  last : ∀ past other result, scene.log ≠ past ++ [.ended other result]
  only : ∀ other, .started task other ∈ scene.log → other = operation

theorem Running.emit {scene : Scene face Operation Result} {event : Event face Operation Result}
    (only : ∀ other, .started task other ∈ scene.log → other = operation)
    (unended : ∀ other result, event ≠ .ended other result)
    (begun : ∀ other, event = .started task other → other = operation) :
    Running task operation (scene.emit event) := by
  refine ⟨fun past other result split => ?_, fun other member => ?_⟩
  · exact unended other result (List.cons.inj (List.append_inj' split rfl).2).1
  · rcases List.mem_append.mp member with early | late
    · exact only other early
    · exact begun other (List.mem_singleton.mp late).symm

theorem Running.awaits {since now : Scene face Operation Result}
    {reply : Option (Sigma face.Answer)} (running : Running task operation since)
    (awaiting : contract.Awaiting task since reply now) :
    ∀ other, .started task other ∈ now.log → other = operation := awaiting.only running.only

theorem Yields.concluding {origin now : Scene face Operation Result}
    (yields : contract.Yields task origin now) (running : Running task operation now) :
    (contract.concluding goal).Yields task origin now :=
  ⟨⟨yields.invariant, fun past other result _ split => absurd split (running.last past other result)⟩,
    yields.rely⟩

theorem Awaiting.of_concluding {since now : Scene face Operation Result}
    {reply : Option (Sigma face.Answer)}
    (awaiting : (contract.concluding goal).Awaiting task since reply now) :
    contract.Awaiting task since reply now :=
  ⟨awaiting.invariant.1, awaiting.rely, awaiting.log⟩

theorem wp_concluding {code : Coroutine face Result} {origin now : Scene face Operation Result}
    (running : Running task operation now)
    (meets : contract.wp task (fun result origin now => contract.ends task result origin now ∧
      goal operation task result now) code origin now) :
    (contract.concluding goal).wp task ((contract.concluding goal).ends task) code origin now := by
  induction code generalizing origin now with
  | done result =>
    obtain ⟨yields, reached⟩ := meets
    refine ⟨⟨yields.invariant, fun past other result' operation' split begun => ?_⟩, yields.rely⟩
    obtain ⟨same, last⟩ := List.append_inj' split rfl
    cases last
    subst same
    cases running.only operation' begun
    exact reached
  | act move next ih => exact ih now.shared ⟨running.last, running.only⟩ meets
  | tell remark next ih => exact ih (.emit running.only (by simp) (by simp)) meets
  | ask query resume interrupted answered stopped =>
    obtain ⟨yields, delivered, halted⟩ := meets
    have asked : Running task operation (now.emit (.asked task query)) :=
      .emit running.only (by simp) (by simp)
    refine ⟨yields.concluding asked, ?_, ?_⟩
    · intro answer later awaiting allowed
      apply answered answer (.emit (asked.awaits awaiting) (by simp) (by simp))
      exact delivered answer later awaiting.of_concluding allowed
    · intro reply reason later awaiting allowed
      apply stopped reason (.emit (asked.awaits awaiting) (by simp) (by simp))
      exact halted reply reason later awaiting.of_concluding allowed
  | wait ready resume interrupted granted stopped =>
    obtain ⟨passed, suspended⟩ := meets
    refine ⟨fun free => granted running (passed free), fun busy => ?_⟩
    obtain ⟨yields, resumed, halted⟩ := suspended busy
    refine ⟨yields.concluding running, ?_, ?_⟩
    · intro later awaiting free
      apply granted (.emit (running.awaits awaiting) (by simp) (by simp))
      exact resumed later awaiting.of_concluding free
    · intro reason later awaiting allowed
      apply stopped reason (.emit (running.awaits awaiting) (by simp) (by simp))
      exact halted reason later awaiting.of_concluding allowed

/-- When a task has just ended, it has reached its goal. -/
theorem concludes [DecidableEq face.Query] {program : Operation → Nat → Coroutine face Result}
    {start : face.State → Prop} {machine : Machine face Operation Result}
    (brings : ∀ operation task scene, contract.invariant scene → contract.starts scene operation →
      Foreign task scene.log → contract.wp task (fun result origin now =>
        contract.ends task result origin now ∧ goal operation task result now) (program operation task)
          scene (scene.emit (.started task operation)))
    (initially : ∀ shared, start shared → contract.invariant { shared })
    (run : Run (scheduler program start) contract.allows machine)
    {past : List (Event face Operation Result)} {result : Result}
    (ended : machine.scene.log = past ++ [.ended task result]) (begun : .started task operation ∈ past) :
    goal operation task result { machine.scene with log := past } := by
  have meets : (contract.concluding goal).Meets program := by
    intro operation task scene sound allowed fresh
    apply wp_concluding (.emit ?_ (by simp) fun other same => by cases same; rfl)
    · exact brings operation task scene sound.1 allowed fresh
    · exact fun other member => absurd rfl (fresh _ member)
  have kept : (contract.concluding goal).Kept machine := by
    refine meets.kept ?_ (run.weaken fun machine label allowed => ?_)
    · intro shared started
      exact ⟨initially shared started, by simp⟩
    · cases label <;> exact allowed
  exact kept.invariant.2 past task result operation ended begun

end Conclusions

end Contract

end Async
