import Mathlib.Logic.Function.Basic

/-! Coroutines over a shared state. A coroutine runs without interruption up to its next
`await`; there it asks the outside world for something or waits for a condition on the
shared state, and may be interrupted. Processes add exceptions. -/

namespace Async

/-- What coroutines share, what they can ask for, and what they can be heard to say. -/
structure Interface where
  State : Type
  Query : Type
  Answer : Query → Type
  Interrupt : Type
  Remark : Type
  /-- What the outside world does by itself. -/
  Drift : Type
  drift : Drift → State → State

inductive Coroutine (face : Interface) (Result : Type) where
  | done (result : Result)
  /-- Change the shared state; what follows may depend on the state before. -/
  | act (move : face.State → face.State) (next : face.State → Coroutine face Result)
  /-- Leave a remark in the history, which no coroutine can read. -/
  | tell (remark : face.Remark) (next : Coroutine face Result)
  | ask (query : face.Query) (resume : face.Answer query → Coroutine face Result)
      (interrupted : face.Interrupt → Coroutine face Result)
  /-- Suspended unless and until the shared state is ready. -/
  | wait (ready : face.State → Bool) (resume : Coroutine face Result)
      (interrupted : face.Interrupt → Coroutine face Result)

variable {face : Interface} {First Second Third : Type}

namespace Coroutine

def bind : Coroutine face First → (First → Coroutine face Second) → Coroutine face Second
  | .done result, next => next result
  | .act move rest, next => .act move fun state => (rest state).bind next
  | .tell remark rest, next => .tell remark (rest.bind next)
  | .ask query resume interrupted, next =>
    .ask query (fun answer => (resume answer).bind next) fun reason => (interrupted reason).bind next
  | .wait ready resume interrupted, next =>
    .wait ready (resume.bind next) fun reason => (interrupted reason).bind next

end Coroutine

/-- A coroutine that returns or raises. -/
def Process (face : Interface) (Error Result : Type) : Type :=
  Coroutine face (Except Error Result)

namespace Process

variable {Error : Type}

/-- A coroutine continues with the result of a process, or raises its error again. -/
def chain (next : First → Process face Error Second) :
    Except Error First → Coroutine face (Except Error Second)
  | .ok result => next result
  | .error error => .done (.error error)

instance : Monad (Process face Error) where
  pure result := .done (.ok result)
  bind process next := Coroutine.bind process (chain next)

def raise (error : Error) : Process face Error First := Coroutine.done (.error error)

/-- A result computed without suspending. -/
def lift (result : Except Error First) : Process face Error First := Coroutine.done result

/-- The code of an `except` clause: it decides which errors it handles. -/
def recover (handler : Error → Process face Error First) :
    Except Error First → Coroutine face (Except Error First)
  | .ok result => .done (.ok result)
  | .error error => handler error

/-- `try` with an `except` clause. -/
def attempt (process : Process face Error First) (handler : Error → Process face Error First) :
    Process face Error First :=
  Coroutine.bind process (recover handler)

/-- A `finally` clause that only touches the shared state. -/
def ensure (process : Process face Error First) (cleanup : face.State → face.State) :
    Process face Error First :=
  Coroutine.bind process fun result => .act cleanup fun _ => .done result

/-- Read the shared state. -/
def get : Process face Error face.State := Coroutine.act id fun state => .done (.ok state)

def modify (move : face.State → face.State) : Process face Error Unit :=
  Coroutine.act move fun _ => .done (.ok ())

def say (remark : face.Remark) : Process face Error Unit := Coroutine.tell remark (.done (.ok ()))

variable (stop : face.Interrupt → Error)

/-- Ask and return the answer; an interrupt is raised. -/
def request (query : face.Query) : Process face Error (face.Answer query) :=
  Coroutine.ask query (fun answer => .done (.ok answer)) fun reason => .done (.error (stop reason))

/-- Wait for the shared state; an interrupt is raised after this cleanup. -/
def awaitReady (ready : face.State → Bool) (abandon : face.State → face.State) :
    Process face Error Unit :=
  Coroutine.wait ready (.done (.ok ())) fun reason =>
    .act abandon fun _ => .done (.error (stop reason))

end Process

/-- `asyncio.Lock`: who holds it, and who waits for it in this order. -/
structure Lock where
  holder : Option Nat := none
  queue : List Nat := []
deriving DecidableEq

namespace Lock

def enqueue (lock : Lock) (task : Nat) : Lock := { lock with queue := lock.queue ++ [task] }

/-- Free, and this task is the next one. -/
def ready (lock : Lock) (task : Nat) : Bool := lock.holder = none && lock.queue.head? = some task

def acquire (lock : Lock) (task : Nat) : Lock := ⟨some task, lock.queue.filter (· ≠ task)⟩

def release (lock : Lock) : Lock := { lock with holder := none }

def abandon (lock : Lock) (task : Nat) : Lock :=
  { lock with queue := lock.queue.filter (· ≠ task) }

end Lock

namespace Process

variable {Error : Type} (stop : face.Interrupt → Error)

/-- `async with lock`, for a lock that is part of the shared state. -/
def withLock (lock : face.State → Lock) (put : Lock → face.State → face.State) (task : Nat)
    (body : Process face Error First) : Process face Error First := do
  modify fun state => put ((lock state).enqueue task) state
  awaitReady stop (fun state => (lock state).ready task) fun state =>
    put ((lock state).abandon task) state
  modify fun state => put ((lock state).acquire task) state
  ensure body fun state => put (lock state).release state

end Process

end Async
