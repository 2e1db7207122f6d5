import AlorairLite.Async.Rules

/-! Disciplined code: what it may ask in which state, and how it may change the state. Code
that keeps a discipline keeps every assertion that the discipline does not touch. -/

namespace Async

variable {face : Interface} {Operation Result First Second Error : Type}

structure Discipline (face : Interface) where
  asks : face.Query → face.State → Prop
  moves : (face.State → face.State) → Prop

namespace Discipline

variable (rule : Discipline face)

/-- The code keeps the discipline from this state on, whatever the others do meanwhile. -/
def Keeps : Coroutine face Result → face.State → Prop
  | .done _, _ => True
  | .act move next, state => rule.moves move ∧ Keeps (next state) (move state)
  | .tell _ next, state => Keeps next state
  | .ask query resume interrupted, state =>
    rule.asks query state ∧ (∀ answer later, Keeps (resume answer) later) ∧
      ∀ reason later, Keeps (interrupted reason) later
  | .wait _ resume interrupted, state =>
    Keeps resume state ∧ (∀ later, Keeps resume later) ∧ ∀ reason later, Keeps (interrupted reason) later

variable {rule} {state : face.State}

theorem Keeps.bind {code : Coroutine face First} {next : First → Coroutine face Second}
    (first : rule.Keeps code state) (second : ∀ result later, rule.Keeps (next result) later) :
    rule.Keeps (code.bind next) state := by
  induction code generalizing state with
  | done result => exact second result state
  | act move rest ih => exact ⟨first.1, ih state first.2⟩
  | tell remark rest ih => exact ih first
  | ask query resume interrupted answered stopped =>
    exact ⟨first.1, fun answer later => answered answer (first.2.1 answer later),
      fun reason later => stopped reason (first.2.2 reason later)⟩
  | wait ready resume interrupted granted stopped =>
    exact ⟨granted first.1, fun later => granted (first.2.1 later),
      fun reason later => stopped reason (first.2.2 reason later)⟩

section Processes

variable {process : Process face Error First} {next : First → Process face Error Second}
  {handler : Error → Process face Error First}

theorem Keeps.then (first : rule.Keeps process state)
    (second : ∀ value later, rule.Keeps (next value) later) :
    rule.Keeps (process >>= next : Process face Error Second) state := by
  apply first.bind
  intro result later
  cases result with
  | ok value => exact second value later
  | error error => trivial

theorem Keeps.attempt (first : rule.Keeps process state)
    (second : ∀ error later, rule.Keeps (handler error) later) :
    rule.Keeps (Process.attempt process handler) state := by
  apply first.bind
  intro result later
  cases result with
  | ok value => trivial
  | error error => exact second error later

theorem Keeps.ensure {cleanup : face.State → face.State} (first : rule.Keeps process state)
    (allowed : rule.moves cleanup) : rule.Keeps (Process.ensure process cleanup) state :=
  first.bind fun _ _ => ⟨allowed, trivial⟩

theorem Keeps.modify {move : face.State → face.State} {rest : Unit → Process face Error Second}
    (allowed : rule.moves move) (later : rule.Keeps (rest ()) (move state)) :
    rule.Keeps (Process.modify move >>= rest : Process face Error Second) state := ⟨allowed, later⟩

theorem Keeps.request {stop : face.Interrupt → Error} {query : face.Query}
    (allowed : rule.asks query state) : rule.Keeps (Process.request stop query) state :=
  ⟨allowed, fun _ _ => trivial, fun _ _ => trivial⟩

theorem Keeps.withLock {stop : face.Interrupt → Error} {lock : face.State → Lock}
    {put : Lock → face.State → face.State} {task : Nat} {body : Process face Error First}
    (allowed : ∀ change : Lock → Lock, rule.moves fun state => put (change (lock state)) state)
    (inside : ∀ later, rule.Keeps body later) :
    rule.Keeps (Process.withLock stop lock put task body) state := by
  apply Keeps.modify (allowed fun lock => lock.enqueue task)
  apply Keeps.then
  · exact ⟨trivial, fun _ => trivial, fun _ _ => ⟨allowed fun lock => lock.abandon task, trivial⟩⟩
  · intro value later
    apply Keeps.modify (allowed fun lock => lock.acquire task)
    exact (inside _).ensure (allowed Lock.release)

end Processes

end Discipline

/-- An assertion about a task that disciplined code keeps. -/
structure Steady (contract : Contract face Operation Result) (rule : Discipline face) (task : Nat)
    (holds : Scene face Operation Result → Scene face Operation Result → Prop) : Prop where
  yields : ∀ {origin now}, holds origin now → contract.Yields task origin now
  asked : ∀ {origin now query}, holds origin now → rule.asks query now.shared →
    holds origin (now.emit (.asked task query))
  told : ∀ {origin now remark}, holds origin now → holds origin (now.emit (.told task remark))
  changed : ∀ {origin now move}, holds origin now → rule.moves move → holds origin (now.change move)
  delivered : ∀ {origin now later query answer}, holds origin now →
    contract.Awaiting task now (some ⟨query, answer⟩) later →
      holds later (later.emit (.delivered task ⟨query, answer⟩))
  granted : ∀ {origin now later}, holds origin now → contract.Awaiting task now none later →
    holds later (later.emit (.granted task))
  interrupted : ∀ {origin now later reply reason}, holds origin now →
    contract.Awaiting task now reply later → holds later (later.emit (.interrupted task reason))

/-- Disciplined code keeps a steady assertion. -/
theorem Steady.wp {contract : Contract face Operation Result} {rule : Discipline face} {task : Nat}
    {holds : Scene face Operation Result → Scene face Operation Result → Prop}
    (steady : Steady contract rule task holds) {code : Coroutine face First}
    {origin now : Scene face Operation Result} (before : holds origin now)
    (keeps : rule.Keeps code now.shared) :
    contract.wp task (fun _ => holds) code origin now := by
  induction code generalizing origin now with
  | done result => exact before
  | act move next ih => exact ih now.shared (steady.changed before keeps.1) keeps.2
  | tell remark next ih => exact ih (steady.told before) keeps
  | ask query resume interrupted answered stopped =>
    have asked := steady.asked before keeps.1
    refine ⟨steady.yields asked, fun answer later awaiting _ => ?_, fun reply reason later awaiting _ => ?_⟩
    · exact answered answer (steady.delivered asked awaiting) (keeps.2.1 answer _)
    · exact stopped reason (steady.interrupted asked awaiting) (keeps.2.2 reason _)
  | wait ready resume interrupted granted stopped =>
    refine ⟨fun _ => granted before keeps.1, fun _ => ⟨steady.yields before, ?_, ?_⟩⟩
    · intro later awaiting _
      exact granted (steady.granted before awaiting) (keeps.2.1 _)
    · intro reason later awaiting _
      exact stopped reason (steady.interrupted before awaiting) (keeps.2.2 reason _)

end Async
