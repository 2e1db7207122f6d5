import AlorairLite.Async.Coroutine
import AlorairLite.Async.Transition
import Mathlib.Data.List.Basic

/-! Tasks that run coroutines over one shared state, and every order of their steps. A
task asks the outside world, is answered, and goes on some time later; meanwhile other
tasks take their turns. -/

namespace Async

/-- What can be observed of a run. -/
inductive Event (face : Interface) (Operation Result : Type) where
  | started (task : Nat) (operation : Operation)
  | told (task : Nat) (remark : face.Remark)
  | asked (task : Nat) (query : face.Query)
  /-- The outside world has answered; the task does not know yet. -/
  | answered (task : Nat) (reply : Sigma face.Answer)
  | delivered (task : Nat) (reply : Sigma face.Answer)
  | granted (task : Nat)
  | interrupted (task : Nat) (reason : face.Interrupt)
  | ended (task : Nat) (result : Result)
  | drifted (drift : face.Drift)

variable {face : Interface} {Operation Result First Second : Type}

/-- The task an event belongs to. -/
def Event.task? : Event face Operation Result → Option Nat
  | .started task _ | .told task _ | .asked task _ | .answered task _ | .delivered task _
  | .granted task | .interrupted task _ | .ended task _ => some task
  | .drifted _ => none

/-- The history and the shared state between two steps. -/
structure Scene (face : Interface) (Operation Result : Type) where
  log : List (Event face Operation Result) := []
  shared : face.State

namespace Scene

def emit (scene : Scene face Operation Result) (event : Event face Operation Result) :
    Scene face Operation Result :=
  { scene with log := scene.log ++ [event] }

def change (scene : Scene face Operation Result) (move : face.State → face.State) :
    Scene face Operation Result :=
  { scene with shared := move scene.shared }

@[simp] theorem emit_log (scene : Scene face Operation Result) (event : Event face Operation Result) :
    (scene.emit event).log = scene.log ++ [event] := rfl

@[simp] theorem emit_shared (scene : Scene face Operation Result)
    (event : Event face Operation Result) : (scene.emit event).shared = scene.shared := rfl

@[simp] theorem change_log (scene : Scene face Operation Result) (move : face.State → face.State) :
    (scene.change move).log = scene.log := rfl

@[simp] theorem change_shared (scene : Scene face Operation Result)
    (move : face.State → face.State) : (scene.change move).shared = move scene.shared := rfl

end Scene

/-- Run the synchronous code up to the next suspension or the end. -/
def Coroutine.settle (task : Nat) : Coroutine face Result → Scene face Operation Result →
    Coroutine face Result × Scene face Operation Result
  | .done result, scene => (.done result, scene.emit (.ended task result))
  | .act move next, scene => (next scene.shared).settle task (scene.change move)
  | .tell remark next, scene => next.settle task (scene.emit (.told task remark))
  | .ask query resume interrupted, scene =>
    (.ask query resume interrupted, scene.emit (.asked task query))
  | .wait ready resume interrupted, scene =>
    if ready scene.shared then resume.settle task scene
    else (.wait ready resume interrupted, scene)

/-- A task: its suspended code, and the answer it has not been given yet. -/
structure Task (face : Interface) (Result : Type) where
  code : Coroutine face Result
  answer : Option (Sigma face.Answer) := none

structure Machine (face : Interface) (Operation Result : Type) where
  scene : Scene face Operation Result
  count : Nat := 0
  tasks : Nat → Option (Task face Result) := fun _ => none

inductive Step (face : Interface) (Operation : Type) where
  | start (operation : Operation)
  | answer (task : Nat) (reply : Sigma face.Answer)
  | resume (task : Nat)
  | interrupt (task : Nat) (reason : face.Interrupt)
  | drift (drift : face.Drift)

namespace Machine

/-- Run one task from here to its next suspension, behind this event. -/
def advance (machine : Machine face Operation Result) (task : Nat)
    (event : Event face Operation Result) (code : Coroutine face Result) :
    Machine face Operation Result :=
  let settled := code.settle task (machine.scene.emit event)
  { machine with
    scene := settled.2
    tasks := Function.update machine.tasks task (some { code := settled.1 }) }

@[simp] theorem advance_scene (machine : Machine face Operation Result) (task : Nat)
    (event : Event face Operation Result) (code : Coroutine face Result) :
    (machine.advance task event code).scene = (code.settle task (machine.scene.emit event)).2 := rfl

@[simp] theorem advance_count (machine : Machine face Operation Result) (task : Nat)
    (event : Event face Operation Result) (code : Coroutine face Result) :
    (machine.advance task event code).count = machine.count := rfl

@[simp] theorem advance_tasks (machine : Machine face Operation Result) (task : Nat)
    (event : Event face Operation Result) (code : Coroutine face Result) :
    (machine.advance task event code).tasks = Function.update machine.tasks task
      (some { code := (code.settle task (machine.scene.emit event)).1 }) := rfl

variable [DecidableEq face.Query]

/-- The outside world answers what the task asked. -/
def answer (machine : Machine face Operation Result) (task : Nat) (reply : Sigma face.Answer) :
    Option (Machine face Operation Result) :=
  match machine.tasks task with
  | some ⟨.ask query next stopped, none⟩ =>
    if reply.1 = query then
      some { machine with
        scene := machine.scene.emit (.answered task reply)
        tasks := Function.update machine.tasks task (some ⟨.ask query next stopped, some reply⟩) }
    else none
  | _ => none

def resume (machine : Machine face Operation Result) (task : Nat) :
    Option (Machine face Operation Result) :=
  match machine.tasks task with
  | some ⟨.ask query next _, some reply⟩ =>
    if same : reply.1 = query then
      some (machine.advance task (.delivered task reply) (next (same ▸ reply.2)))
    else none
  | some ⟨.wait ready next _, none⟩ =>
    if ready machine.scene.shared then some (machine.advance task (.granted task) next) else none
  | _ => none

def interrupt (machine : Machine face Operation Result) (task : Nat) (reason : face.Interrupt) :
    Option (Machine face Operation Result) :=
  match machine.tasks task with
  | some ⟨.ask _ _ stopped, _⟩ | some ⟨.wait _ _ stopped, none⟩ =>
    some (machine.advance task (.interrupted task reason) (stopped reason))
  | _ => none

def drift (machine : Machine face Operation Result) (drift : face.Drift) :
    Machine face Operation Result :=
  { machine with scene := (machine.scene.emit (.drifted drift)).change (face.drift drift) }

def step (program : Operation → Nat → Coroutine face Result)
    (machine : Machine face Operation Result) :
    Step face Operation → Option (Machine face Operation Result)
  | .start operation =>
    some ({ machine with count := machine.count + 1 }.advance machine.count
      (.started machine.count operation) (program operation machine.count))
  | .answer task reply => machine.answer task reply
  | .resume task => machine.resume task
  | .interrupt task reason => machine.interrupt task reason
  | .drift drift => some (machine.drift drift)

end Machine

/-- Every order of the steps of tasks that are started at any time. -/
def scheduler [DecidableEq face.Query] (program : Operation → Nat → Coroutine face Result)
    (start : face.State → Prop) :
    System (Machine face Operation Result) (Step face Operation) where
  initial machine := ∃ shared, start shared ∧ machine = { scene := { shared } }
  step := Machine.step program

end Async
