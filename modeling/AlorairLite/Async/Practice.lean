import AlorairLite.Async.Rules
import Mathlib.Logic.Relation

/-! Tasks that only make changes from a known list. Each task may rely on the others to do
the same; the contract this gives, the rules for the code of a task and the path that every
run is follow here once for all such systems. -/

namespace Async

variable {face : Interface} {Operation Result First Error : Type}

/-- What happens to a task between its start and its end, other than remarks and questions. -/
def Event.silent : Event face Operation Result → Bool
  | .answered _ _ | .delivered _ _ | .granted _ | .interrupted _ _ | .drifted _ => true
  | _ => false

structure Practice (face : Interface) (Operation Result : Type) where
  /-- What this task, or the outside world, may do at once. -/
  change : Option Nat → Scene face Operation Result → Scene face Operation Result → Prop
  /-- What an induction over changes knows before each of them. -/
  invariant : Scene face Operation Result → Prop
  starts : Scene face Operation Result → Operation → Prop := fun _ _ => True
  delivers : Scene face Operation Result → Nat → Sigma face.Answer → Prop
  interrupts : Scene face Operation Result → Nat → face.Interrupt → Prop
  drifts : Scene face Operation Result → face.Drift → Prop
  /-- How a task may end. -/
  ends : Nat → Result → Scene face Operation Result → Prop
  kept : ∀ {actor scene after}, change actor scene after → invariant scene → invariant after
  grows : ∀ {actor scene after}, change actor scene after → ∃ events, after.log = scene.log ++ events
  event : ∀ {actor scene event}, event.silent → change actor scene (scene.emit event)
  started : ∀ {task operation scene}, starts scene operation → Foreign task scene.log →
    change (some task) scene (scene.emit (.started task operation))
  ended : ∀ {task result scene}, ends task result scene →
    change (some task) scene (scene.emit (.ended task result))
  drifted : ∀ {scene drift}, drifts scene drift →
    change none (scene.emit (.drifted drift)) ((scene.emit (.drifted drift)).change (face.drift drift))

namespace Practice

variable (practice : Practice face Operation Result)

/-- Changes in a row, by any of the chosen actors. -/
def Path (chosen : Option Nat → Prop) :
    Scene face Operation Result → Scene face Operation Result → Prop :=
  Relation.ReflTransGen fun scene after => ∃ actor, chosen actor ∧ practice.change actor scene after

def contract : Contract face Operation Result where
  invariant := practice.invariant
  rely task := practice.Path (· ≠ some task)
  starts := practice.starts
  answers _ _ _ := True
  delivers := practice.delivers
  interrupts := practice.interrupts
  drifts := practice.drifts
  refl _ _ := .refl
  trans := .trans
  answered := by
    intro scene task reply invariant _
    have emitted : practice.change none scene (scene.emit (.answered task reply)) := practice.event rfl
    exact ⟨practice.kept emitted invariant, fun other => .single ⟨none, by simp, emitted⟩⟩
  drifted := by
    intro scene drift invariant forward
    have emitted : practice.change none scene (scene.emit (.drifted drift)) := practice.event rfl
    have moved := practice.drifted forward
    exact ⟨practice.kept moved (practice.kept emitted invariant),
      fun other => .tail (.single ⟨none, by simp, emitted⟩) ⟨none, by simp, moved⟩⟩

/-- The task of this operation has only made changes since it went on. -/
structure Going (task : Nat) (operation : Operation) (origin now : Scene face Operation Result) :
    Prop where
  sound : practice.invariant origin
  path : practice.Path (· = some task) origin now
  begun : .started task operation ∈ now.log

variable {practice} {chosen : Option Nat → Prop} {task : Nat} {operation : Operation}
  {origin now scene after : Scene face Operation Result}

theorem Path.grows (path : practice.Path chosen scene after) :
    ∃ events, after.log = scene.log ++ events := by
  induction path with
  | refl => exact ⟨[], (List.append_nil _).symm⟩
  | tail _ last ih =>
    obtain ⟨actor, -, change⟩ := last
    obtain ⟨events, log⟩ := ih
    obtain ⟨later, log'⟩ := practice.grows change
    exact ⟨events ++ later, by rw [log', log, List.append_assoc]⟩

/-- No event is lost on a path. -/
theorem Path.remembers {event : Event face Operation Result} (path : practice.Path chosen scene after)
    (happened : event ∈ scene.log) : event ∈ after.log := by
  obtain ⟨events, log⟩ := path.grows
  rw [log]
  exact List.mem_append_left _ happened

/-- What holds at the start of a path and is kept by every change on it holds at its end. -/
theorem Path.invariant (holds : Scene face Operation Result → Prop)
    (path : practice.Path chosen scene after) (sound : practice.invariant scene)
    (initially : holds scene)
    (kept : ∀ {actor scene after}, chosen actor → practice.invariant scene → holds scene →
      practice.change actor scene after → holds after) : practice.invariant after ∧ holds after := by
  induction path with
  | refl => exact ⟨sound, initially⟩
  | tail _ last ih =>
    obtain ⟨actor, mine, change⟩ := last
    exact ⟨practice.kept change ih.1, kept mine ih.1 ih.2 change⟩

theorem Path.weaken {others : Option Nat → Prop} (path : practice.Path chosen scene after)
    (implied : ∀ actor, chosen actor → others actor) : practice.Path others scene after := by
  apply Relation.ReflTransGen.mono ?_ _ _ path
  rintro scene after ⟨actor, mine, change⟩
  exact ⟨actor, implied actor mine, change⟩

theorem Going.change (going : practice.Going task operation origin now)
    (change : practice.change (some task) now after) : practice.Going task operation origin after := by
  obtain ⟨events, log⟩ := practice.grows change
  exact ⟨going.sound, going.path.tail ⟨some task, rfl, change⟩,
    log ▸ List.mem_append_left _ going.begun⟩

theorem Going.emit (going : practice.Going task operation origin now)
    (event : Event face Operation Result) (silent : event.silent) :
    practice.Going task operation origin (now.emit event) := going.change (practice.event silent)

theorem Going.current (going : practice.Going task operation origin now) : practice.invariant now :=
  (going.path.invariant (fun _ => True) going.sound trivial fun _ _ _ _ => trivial).1

theorem Going.yields (going : practice.Going task operation origin now) :
    practice.contract.Yields task origin now where
  invariant := going.current
  rely other differs := by
    apply going.path.weaken
    rintro actor rfl same
    exact differs (Option.some.inj same).symm

theorem Going.ends {result : Result} (going : practice.Going task operation origin now)
    (allowed : practice.ends task result now) : practice.contract.ends task result origin now :=
  (going.change (practice.ended allowed)).yields

theorem Going.resumed {later : Scene face Operation Result} {reply : Option (Sigma face.Answer)}
    (going : practice.Going task operation origin now)
    (awaiting : practice.contract.Awaiting task now reply later) (event : Event face Operation Result)
    (silent : event.silent) : practice.Going task operation later (later.emit event) := by
  have begun : .started task operation ∈ later.log := Path.remembers awaiting.rely going.begun
  exact Going.emit ⟨awaiting.invariant, .refl, begun⟩ event silent

/-- Ask, and go on with the answer or raise the interrupt. -/
theorem wp_request {stop : face.Interrupt → Error} {query : face.Query}
    {post : Except Error (face.Answer query) → Scene face Operation Result →
      Scene face Operation Result → Prop}
    (going : practice.Going task operation origin (now.emit (.asked task query)))
    (answered : ∀ (answer : face.Answer query) later,
      practice.Path (· ≠ some task) (now.emit (.asked task query)) later →
      practice.Going task operation later (later.emit (.delivered task ⟨query, answer⟩)) →
      practice.delivers later task ⟨query, answer⟩ →
        post (.ok answer) later (later.emit (.delivered task ⟨query, answer⟩)))
    (stopped : ∀ reason later,
      practice.Path (· ≠ some task) (now.emit (.asked task query)) later →
      practice.Going task operation later (later.emit (.interrupted task reason)) →
      practice.interrupts later task reason →
        post (.error (stop reason)) later (later.emit (.interrupted task reason))) :
    practice.contract.wp task post (Process.request stop query) origin now := by
  apply Contract.wp_request going.yields
  · intro answer later awaiting allowed
    exact answered answer later awaiting.rely (going.resumed awaiting _ rfl) allowed
  · intro reply reason later awaiting allowed
    exact stopped reason later awaiting.rely (going.resumed awaiting _ rfl) allowed

/-- Wait for the shared state. -/
theorem wp_awaitReady {stop : face.Interrupt → Error} {ready : face.State → Bool}
    {abandon : face.State → face.State}
    {post : Except Error Unit → Scene face Operation Result → Scene face Operation Result → Prop}
    (going : practice.Going task operation origin now)
    (passed : ready now.shared → post (.ok ()) origin now)
    (granted : ∀ later, practice.Path (· ≠ some task) now later → ready later.shared →
      practice.Going task operation later (later.emit (.granted task)) →
        post (.ok ()) later (later.emit (.granted task)))
    (stopped : ∀ reason later, practice.Path (· ≠ some task) now later →
      practice.Going task operation later (later.emit (.interrupted task reason)) →
      practice.interrupts later task reason →
        post (.error (stop reason)) later ((later.emit (.interrupted task reason)).change abandon)) :
    practice.contract.wp task post (Process.awaitReady stop ready abandon) origin now := by
  apply Contract.wp_awaitReady passed
  · intro _
    exact going.yields
  · intro later awaiting free
    exact granted later awaiting.rely free (going.resumed awaiting _ rfl)
  · intro reason later awaiting allowed
    exact stopped reason later awaiting.rely (going.resumed awaiting _ rfl) allowed

variable (practice) in
/-- What a task knows that nobody else can spoil, nor its own questions and their answers. -/
structure Lasting (task : Nat) (holds : Scene face Operation Result → Prop) : Prop where
  others : ∀ {actor scene after}, actor ≠ some task → practice.invariant scene → holds scene →
    practice.change actor scene after → holds after
  asked : ∀ {scene query}, holds scene → holds (scene.emit (.asked task query))
  silent : ∀ {scene event}, event.silent → holds scene → holds (scene.emit event)

section Knowledge

variable {holds : Scene face Operation Result → Prop} (lasting : practice.Lasting task holds)

include lasting

theorem Lasting.path (path : practice.Path (· ≠ some task) scene after)
    (sound : practice.invariant scene) (known : holds scene) : holds after :=
  (path.invariant holds sound known fun mine sound held change =>
    lasting.others mine sound held change).2

/-- Ask with this knowledge, and go on with it, whatever the others did meanwhile. -/
theorem Lasting.wp_request {stop : face.Interrupt → Error} {query : face.Query}
    (going : practice.Going task operation origin now)
    (asks : practice.change (some task) now (now.emit (.asked task query))) (known : holds now) :
    practice.contract.wp task (fun result origin now => practice.Going task operation origin now ∧
      holds now ∧ ∀ answer, result = .ok answer → ∃ before : Scene face Operation Result,
        now = before.emit (.delivered task ⟨query, answer⟩) ∧
          practice.delivers before task ⟨query, answer⟩) (Process.request stop query) origin now := by
  have asking := going.change asks
  apply Practice.wp_request asking
  · intro answer later path resumed allowed
    have kept := lasting.path path asking.current (lasting.asked known)
    refine ⟨resumed, lasting.silent rfl kept, ?_⟩
    rintro answer ⟨⟩
    exact ⟨later, rfl, allowed⟩
  · intro reason later path resumed allowed
    have kept := lasting.path path asking.current (lasting.asked known)
    refine ⟨resumed, lasting.silent rfl kept, ?_⟩
    rintro answer ⟨⟩

end Knowledge

section Locks

variable {stop : face.Interrupt → Error} {lock : face.State → Lock}
  {put : Lock → face.State → face.State} {body : Process face Error First}
  {inner post : Except Error First → Scene face Operation Result → Scene face Operation Result → Prop}

/-- Run the body while holding the lock. What the others keep, and the waiting does not
touch, is known when the lock is taken, or the wait interrupted. -/
theorem wp_withLock (waits owns : Scene face Operation Result → Prop)
    (going : practice.Going task operation origin now)
    (stored : ∀ lock' state, lock (put lock' state) = lock')
    (enqueue : ∀ scene : Scene face Operation Result, practice.change (some task) scene
      (scene.change fun state => put ((lock state).enqueue task) state))
    (acquire : ∀ scene : Scene face Operation Result, (lock scene.shared).ready task →
      practice.change (some task) scene (scene.change fun state => put ((lock state).acquire task) state))
    (queued : waits (now.change fun state => put ((lock state).enqueue task) state))
    (stable : ∀ {scene after}, practice.invariant scene → waits scene →
      practice.contract.Awaiting task scene none after → waits after)
    (granted : ∀ {scene}, waits scene → waits (scene.emit (.granted task)))
    (entered : ∀ scene : Scene face Operation Result, practice.invariant scene → waits scene →
      (lock scene.shared).ready task →
        owns (scene.change fun state => put ((lock state).acquire task) state))
    (inside : ∀ origin later, owns later → practice.Going task operation origin later →
      (lock later.shared).holder = some task → practice.contract.wp task inner body origin later)
    (left : ∀ result origin now, inner result origin now →
      post result origin (now.change fun state => put (lock state).release state))
    (stopped : ∀ reason later, waits later →
      practice.Going task operation later (later.emit (.interrupted task reason)) →
      practice.interrupts later task reason →
        post (.error (stop reason)) later
          ((later.emit (.interrupted task reason)).change fun state => put ((lock state).abandon task) state)) :
    practice.contract.wp task post (Process.withLock stop lock put task body) origin now := by
  have going := going.change (enqueue now)
  have enter : ∀ origin later, waits later → practice.Going task operation origin later →
      (lock later.shared).ready task →
        practice.contract.wp task post
          (do
            Process.modify fun state => put ((lock state).acquire task) state
            Process.ensure body fun state => put (lock state).release state :
              Process face Error First) origin later := by
    intro origin later kept going ready
    have held : (lock (later.change fun state => put ((lock state).acquire task) state).shared).holder =
        some task := congrArg Lock.holder (stored _ _)
    apply Contract.wp_modify.mpr
    apply Contract.wp_ensure.mpr
    exact Contract.wp_mono (inside _ _ (entered later going.current kept ready)
      (going.change (acquire later ready)) held) left
  unfold Process.withLock
  apply Contract.wp_modify.mpr
  apply Contract.wp_then.mpr
  apply Contract.wp_awaitReady
  · intro ready
    exact enter _ _ queued going ready
  · intro _
    exact going.yields
  · intro later awaiting ready
    exact enter _ _ (granted (stable going.current queued awaiting)) (going.resumed awaiting _ rfl) ready
  · intro reason later awaiting allowed
    exact stopped reason later (stable going.current queued awaiting) (going.resumed awaiting _ rfl) allowed

end Locks

section Runs

variable {program : Operation → Nat → Coroutine face Result} {start : face.State → Prop}
  {machine next : Machine face Operation Result}

/-- Programs whose tasks only make changes meet the contract. -/
theorem meets_of_going (conduct : ∀ operation task scene, practice.starts scene operation →
    practice.Going task operation scene (scene.emit (.started task operation)) →
      practice.contract.wp task
        (fun result origin now => practice.Going task operation origin now ∧ practice.ends task result now)
        (program operation task) scene (scene.emit (.started task operation))) :
    practice.contract.Meets program := by
  intro operation task scene sound permitted fresh
  have begun : practice.change (some task) scene (scene.emit (.started task operation)) :=
    practice.started permitted fresh
  exact Contract.wp_mono (conduct operation task scene permitted ⟨sound, .single ⟨some task, rfl, begun⟩,
    List.mem_append_right _ (List.mem_singleton_self _)⟩) fun _ _ _ finished => finished.1.ends finished.2

variable [DecidableEq face.Query]

theorem step_path (meets : practice.contract.Meets program) (kept : practice.contract.Kept machine)
    {label : Step face Operation} (allowed : practice.contract.allows machine label)
    (taken : Machine.step program machine label = some next) :
    practice.contract.Kept next ∧ practice.Path (fun _ => True) machine.scene next.scene := by
  obtain ⟨after, rely⟩ := kept.step meets allowed taken
  -- Nobody's reliance is broken but the actor's, so any other number will do.
  obtain ⟨other, differs⟩ : ∃ other, Contract.actor machine label ≠ some other := by
    cases acting : Contract.actor machine label with
    | none => exact ⟨0, by simp⟩
    | some task => exact ⟨task + 1, by simp⟩
  exact ⟨after, Path.weaken (rely other differs) fun _ _ => trivial⟩

variable {condition : Machine face Operation Result → Step face Operation → Prop}

/-- A run has come by changes from a start, and keeps the contract. -/
theorem run_path (meets : practice.contract.Meets program)
    (initially : ∀ shared, start shared → practice.invariant { shared })
    (allowed : ∀ machine label, condition machine label → practice.contract.allows machine label)
    (run : Run (scheduler program start) condition machine) :
    practice.contract.Kept machine ∧ ∃ shared, start shared ∧
      practice.Path (fun _ => True) { shared } machine.scene := by
  apply run.invariant
  · rintro machine ⟨shared, started, rfl⟩
    exact ⟨Contract.Kept.start (initially shared started), shared, started, .refl⟩
  · rintro machine label after _ ⟨kept, shared, started, path⟩ met taken
    obtain ⟨next, last⟩ := step_path meets kept (allowed _ _ met) taken
    exact ⟨next, shared, started, path.trans last⟩

theorem onward_path (meets : practice.contract.Meets program)
    (allowed : ∀ machine label, condition machine label → practice.contract.allows machine label)
    (kept : practice.contract.Kept machine) (onward : Onward (scheduler program start) condition machine next) :
    practice.Path (fun _ => True) machine.scene next.scene := by
  have reached : practice.contract.Kept next ∧ practice.Path (fun _ => True) machine.scene next.scene := by
    induction onward with
    | here => exact ⟨kept, .refl⟩
    | next _ met taken ih =>
      obtain ⟨after, last⟩ := step_path meets ih.1 (allowed _ _ met) taken
      exact ⟨after, ih.2.trans last⟩
  exact reached.2

end Runs

end Practice

end Async
