import AlorairLite.Cloud.Conduct

/-! Every run of the cloud coordinator is a path of changes, whoever makes them. What all
changes keep therefore holds in every state the coordinator reaches. -/

namespace AlorairLite.Cloud

open Async

/-- No failure of a call and no deadline meets a task whose command is confirmed. -/
def Sparing (machine : CloudMachine) : Step face Operation → Prop
  | .resume task => ∀ held reply, machine.tasks task = some held → held.answer = some reply →
    Query.failing reply.1 reply.2 → confirmedCommand machine.scene task = false
  | .interrupt task .deadline => confirmedCommand machine.scene task = false
  | _ => True

/-- A path of changes by anybody. -/
abbrev Journey (careful : Prop) : CloudScene → CloudScene → Prop := Path careful fun _ => True

variable {careful : Prop} {mac : String} {machine after : CloudMachine}

theorem timely_allowed {label : Step face Operation} (forward : timely machine label)
    (spared : careful → Sparing machine label) : (contract careful).allows machine label := by
  cases label with
  | start operation => trivial
  | answer task reply => trivial
  | resume task => exact fun held reply found given cautious => spared cautious held reply found given
  | interrupt task reason =>
    intro cautious same
    subst same
    exact spared cautious
  | drift drift =>
    intro seconds same
    subst same
    simpa [timely] using forward

theorem Coherent.start {now wall : ℚ} : Coherent { shared := Coordinator.start now wall } := by
  refine ⟨?_, ?_⟩
  · rintro k ⟨⟩
  · rintro k ⟨⟩

section Runs

variable {meets : CloudMachine → Step face Operation → Prop}
  (spares : ∀ machine label, meets machine label → careful → Sparing machine label)

include spares

/-- Every run keeps the contract, and has come by changes from a fresh coordinator. -/
theorem run_journey (run : Run (coordinator mac) meets machine) :
    (contract careful).Kept machine ∧ ∃ now wall,
      Journey careful { shared := Coordinator.start now wall } machine.scene := by
  obtain ⟨kept, shared, ⟨now, wall, rfl⟩, path⟩ := Practice.run_path (program_meets mac)
    (by rintro shared ⟨now, wall, rfl⟩; exact .start)
    (fun machine label met => timely_allowed met.1 (spares machine label met.2)) run.unchecked
  exact ⟨kept, now, wall, path⟩

theorem onward_journey (run : Run (coordinator mac) meets machine)
    (onward : Onward (coordinator mac) meets machine after) :
    Journey careful machine.scene after.scene :=
  Practice.onward_path (program_meets mac)
    (fun machine label met => timely_allowed met.1 (spares machine label met.2))
    (run_journey spares run).1 onward.unchecked

end Runs

/-- What is kept by every change holds at the end of a journey if it did at its start. -/
theorem Journey.invariant (holds : CloudScene → Prop) {scene after : CloudScene}
    (journey : Journey careful scene after) (coherent : Coherent scene) (initially : holds scene)
    (kept : ∀ {actor scene after}, Coherent scene → holds scene → Change careful actor scene after →
      holds after) : holds after :=
  (Practice.Path.invariant holds journey coherent initially fun _ => kept).2

section Examples

/-- Data of a unit that reports its power and its pump at this time. -/
def exampleData (sampled power drain : String) : Dict :=
  [("powerStatus", .text power), ("drainStatus", .text drain), ("errCode", .text "00"),
    ("updateTimeStr", .text sampled)]

/-- This task polls the data. -/
def examplePoll (task : Nat) (data : Dict) : List (Step face Operation) :=
  [.start .refresh, .answer task ⟨.status "0011", (.ok data : Except ClientError Dict)⟩, .resume task]

/-- A fresh coordinator on 2001-09-09 at 01:46:40 UTC. -/
def exampleMachine : CloudMachine := { scene := { shared := Coordinator.start 0 1000000000 } }

theorem exampleMachine_run {meets : CloudMachine → Step face Operation → Prop} :
    Run (coordinator "0011") meets exampleMachine := .start ⟨_, ⟨0, 1000000000, rfl⟩, rfl⟩

/-- The pump is asked to purge, and a poll reports that it does before the call is answered. -/
def examplePurge : List (Step face Operation) :=
  examplePoll 0 (exampleData "2001-09-09T01:46:40Z" "01" "00") ++
    [.start (.command Control.purge.order), .drift (.elapse 1), .drift (.setWall 1000000001)] ++
    examplePoll 2 (exampleData "2001-09-09T01:46:41Z" "01" "01")

end Examples

end AlorairLite.Cloud
