import AlorairLite.Cloud.Drain
import AlorairLite.Cloud.Journey
import AlorairLite.Local.Intent
import AlorairLite.Local.Unload

/-! The unload of an entry, whichever coordinator it has: its commands are drained before
the entry can be replaced. -/

namespace AlorairLite

open Async

/-- The unload of both coordinators, with every order of the steps and of the cancellations
of their callers. The client of the local one writes nothing any more, and nobody who waits
for its unload is turned away. -/
theorem commands_drained (config : Local.Config) (mac : String) :
    (Drains (Local.attended config) (fun w => w.inner.coordinator.closing)
        (fun w => ∃ j, w.callers (.unload j) = .returned)
        (fun w => ∀ k < w.inner.coordinator.orderCount, (w.inner.coordinator.orders k).phase.isDone)
        (fun w => w.inner.coordinator.calls) ∧
      (∀ w after j, Reachable (Local.attended config) w → w.callers (.unload j) = .returned →
        Onward (Local.attended config) (fun _ _ => True) w after →
          after.inner.coordinator.writes = w.inner.coordinator.writes) ∧
      ∀ w j, Reachable (Local.attended config) w → w.callers (.unload j) ≠ .cancelled) ∧
    Drains (Cloud.attended mac) (fun w => Cloud.unloads w.inner) (fun w => Cloud.unloaded w.inner)
      (fun w => Cloud.finished w.inner) fun w => Cloud.calls w.inner := by
  refine ⟨⟨Local.unload_drains config, ?_, ?_⟩, Cloud.unload_drains mac⟩
  · intro w after j run returned onward
    exact Local.unload_silences run returned onward
  · intro w j run
    exact Local.unload_persists run j

/-- Steps of the local coordinator below its callers. -/
def locally (labels : List Local.Coordinator.Label) :
    List (ShieldLabel Local.UnloadLabel Local.Requester) :=
  labels.map fun label => .inner (.coordinator label)

/-- One command is in flight and one is queued when the unload begins; all three callers are
cancelled, and the answer to the first command never comes. -/
def localUnload : List (ShieldLabel Local.UnloadLabel Local.Requester) :=
  locally (Local.connectOn ++ Local.writeHumidity 0 40 ++ [Local.askHumidity 45, .unload]) ++
    [.inner .snapshot, .cancel (.command 0), .cancel (.command 1), .cancel (.unload 0)] ++
    locally (Local.loseAnswer 0 ++ [.proceed 1, .closeClient, .client .start,
      .client .finishCleanup, .client .stopDispatcher, .unloaded]) ++ [.resume (.unload 0)]

def remotely (labels : List (Step Cloud.face Cloud.Operation)) :
    List (ShieldLabel (Step Cloud.face Cloud.Operation) Nat) := labels.map .inner

/-- The same for the cloud coordinator, whose first command is answered. -/
def cloudUnload : List (ShieldLabel (Step Cloud.face Cloud.Operation) Nat) :=
  remotely (Cloud.examplePoll 0 (Cloud.exampleData "2001-09-09T01:46:40Z" "01" "00") ++
    [.start (.command (Cloud.Control.purge).order),
      .start (.command (Cloud.Control.humidity 45).order), .start .unload]) ++
    [.cancel 1, .cancel 2] ++
    remotely [.answer 1 ⟨.call "0011" .purge, (.ok () : Except Cloud.ClientError Unit)⟩, .resume 1,
      .answer 1 ⟨.refresh, ()⟩, .resume 1, .resume 2, .resume 3]

def unloadStarts (task : Nat) : Cloud.CloudEvent → Bool
  | .started other .unload => other = task
  | _ => false

def unloadEnds (task : Nat) : Cloud.CloudEvent → Bool
  | .ended other (.ok (.bool true)) => other = task
  | _ => false

theorem unloaded_of_any {machine : Cloud.CloudMachine} (d : Nat)
    (starts : machine.scene.log.any (unloadStarts d)) (ends : machine.scene.log.any (unloadEnds d)) :
    Cloud.unloaded machine := by
  obtain ⟨begun, started, first⟩ := List.any_eq_true.mp starts
  obtain ⟨ended, done, last⟩ := List.any_eq_true.mp ends
  refine ⟨d, ?_, ?_⟩
  · unfold unloadStarts at first
    split at first
    · exact of_decide_eq_true first ▸ started
    · cases first
  · unfold unloadEnds at last
    split at last
    · exact of_decide_eq_true last ▸ done
    · cases last

theorem commands_drained_example : ∃ w c,
    (Local.attended Local.exampleConfig).follow
        { inner := { coordinator := Local.exampleCoordinator } } localUnload = some w ∧
      (Cloud.attended "0011").follow { inner := Cloud.exampleMachine } cloudUnload = some c ∧
      w.inner.coordinator.orderCount = 2 ∧
      (∀ k < w.inner.coordinator.orderCount, (w.inner.coordinator.orders k).phase.isDone) ∧
      Cloud.unloaded c.inner ∧ Cloud.finished c.inner := by
  have local' : (((Local.attended Local.exampleConfig).follow
      { inner := { coordinator := Local.exampleCoordinator } } localUnload).map fun w =>
        decide (w.callers (.unload 0) = .returned ∧ w.inner.coordinator.orderCount = 2)) = some true := by
    decide +kernel
  have cloud : (((Cloud.attended "0011").follow { inner := Cloud.exampleMachine } cloudUnload).map
      fun c => c.inner.scene.log.any (unloadStarts 3) && c.inner.scene.log.any (unloadEnds 3)) =
        some true := by
    decide +kernel
  obtain ⟨w, followed, facts⟩ := Option.map_eq_some_iff.mp local'
  obtain ⟨returned, count⟩ := of_decide_eq_true facts
  obtain ⟨c, cloudFollowed, facts⟩ := Option.map_eq_some_iff.mp cloud
  simp only [Bool.and_eq_true] at facts
  have unloaded := unloaded_of_any 3 facts.1 facts.2
  obtain ⟨⟨drains, -, -⟩, drains'⟩ := commands_drained Local.exampleConfig "0011"
  have run : Reachable (Local.attended Local.exampleConfig) w :=
    Run.follow (.start ⟨⟨_, ⟨0, 0, false, le_rfl, rfl⟩, rfl⟩, fun _ => rfl⟩) (fun _ _ => trivial) followed
  have run' : Reachable (Cloud.attended "0011") c :=
    Run.follow (.start ⟨⟨_, ⟨0, 1000000000, rfl⟩, rfl⟩, fun _ => rfl⟩) (fun _ _ => trivial) cloudFollowed
  exact ⟨w, c, followed, cloudFollowed, count, drains.finished w run ⟨0, returned⟩, unloaded,
    drains'.finished c run' unloaded⟩

end AlorairLite
