import AlorairLite.Async.Progress
import AlorairLite.Cloud.Methods

/-! The calls of the cloud client never block each other for good: the command lock is taken
before the lock of the devices, and that one before the login lock. -/

namespace AlorairLite.Cloud

open Async

inductive ClientLock where
  | login
  | devices
  | command
deriving DecidableEq

def ClientLock.of : ClientLock → Client → Lock
  | .login => Client.loginLock
  | .devices => Client.devicesLock
  | .command => Client.commandLock

def ClientLock.rank : ClientLock → Nat
  | .login => 0
  | .devices => 1
  | .command => 2

/-- A call that takes the locks in this order, from these places on. -/
abbrev Call.DescendingBy (task : Nat) (places : ClientLock → Place) (Result : Type) (call : Call Result) : Prop :=
  @Process.Descending clientFace ClientLock Result Problem ClientLock.of ClientLock.rank task places call

/-- The task waits for no lock, and holds none from this one down. -/
structure Unlocked (lock : ClientLock) (places : ClientLock → Place) : Prop where
  moving : ∀ other, places other ≠ .queued
  free : ∀ other, other.rank ≤ lock.rank → places other = .outside

variable {library : Library} {account : Account} {task : Nat} {places : ClientLock → Place} {lock : ClientLock}
  {First : Type}

theorem Unlocked.below (clear : Unlocked lock places) (other : ClientLock) (inside : places other = .inside) :
    lock.rank < other.rank := by
  by_contra above
  rw [clear.free other (not_lt.mp above)] at inside
  cases inside

theorem Unlocked.enter (clear : Unlocked lock places) {lower : ClientLock} (less : lower.rank < lock.rank) :
    Unlocked lower (Function.update places lock .inside) where
  moving other := by
    by_cases same : other = lock
    · simp [same]
    · simp [same, clear.moving other]
  free other bound := by
    have differs : other ≠ lock := by
      rintro rfl
      exact absurd (lt_of_lt_of_le less bound) (lt_irrefl _)
    rw [Function.update_of_ne differs]
    exact clear.free other (bound.trans less.le)

theorem Unlocked.lower (clear : Unlocked lock places) {lower : ClientLock} (less : lower.rank ≤ lock.rank) :
    Unlocked lower places :=
  ⟨clear.moving, fun other bound => clear.free other (bound.trans less)⟩

theorem descending_rules : Rules (Call.DescendingBy task places) where
  raise _ := .raise
  lift _ := .lift
  «then» := .then
  attempt := .attempt
  get rest _ stands := ⟨_, fun _ => .same, rest _ _ stands⟩
  say _ _ _ := rfl
  store _ := .modify fun lock _ => by cases lock <;> rfl

theorem Call.authenticate_descending (moving : ∀ other, places other ≠ .queued) :
    Call.DescendingBy task places Unit (Call.authenticate library account) := by
  have request : ∀ verb endpoint token payload,
      Call.DescendingBy task places Json (Call.request library verb endpoint token payload) :=
    fun _ _ _ _ => descending_rules.request fun _ => .request moving
  apply descending_rules.authenticate
  · exact .modify fun lock _ => by cases lock <;> rfl
  · intro ending
    exact .modify fun lock _ => by cases lock <;> cases ending <;> rfl
  · exact .request moving
  · exact fun _ => request _ _ _ _
  · exact fun _ => request _ _ _ _

/-- The way through one of the locks. -/
theorem Unlocked.locked {put : Lock → Client → Client} {body : Call First} (clear : Unlocked lock places)
    (holds : ∀ change s, lock.of (put change s) = change)
    (aside : ∀ other change s, other ≠ lock → other.of (put change s) = other.of s)
    (inside : Call.DescendingBy task (Function.update places lock .inside) First body) :
    Call.DescendingBy task places First
      (@Process.withLock clientFace _ _ Problem.interrupted lock.of put task body) :=
  .withLock holds aside (clear.free lock le_rfl) clear.moving clear.below inside

theorem Unlocked.reads (clear : Unlocked .login places) : Reads library account task (Call.DescendingBy task places) := by
  have attempt : Call.DescendingBy task (Function.update places .login .inside) Unit
      (Call.authenticate library account) := by
    apply Call.authenticate_descending
    intro other
    by_cases same : other = .login
    · simp [same]
    · simp [same, clear.moving other]
  have enters : Enters task (Call.DescendingBy task (Function.update places .login .inside))
      (Call.DescendingBy task places) := by
    intro body inside
    apply clear.locked (fun _ _ => rfl) _ inside
    intro other change s differs
    cases other with
    | login => exact absurd rfl differs
    | devices => rfl
    | command => rfl
  exact { descending_rules with
    request := fun _ _ _ => descending_rules.request fun _ => .request clear.moving
    login := descending_rules.login attempt enters descending_rules
    refresh := fun _ _ => descending_rules.refresh attempt enters }

theorem Unlocked.looks (clear : Unlocked .devices places) : Looks library account task (Call.DescendingBy task places)
    (Call.DescendingBy task (Function.update places .devices .inside)) := by
  refine ⟨(clear.lower (by decide)).reads, (clear.enter (by decide)).reads, fun inside => ?_⟩
  apply clear.locked (fun _ _ => rfl) _ inside
  intro other change s differs
  cases other with
  | login => rfl
  | devices => exact absurd rfl differs
  | command => rfl

end AlorairLite.Cloud
