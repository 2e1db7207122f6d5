import AlorairLite.Async.Echoes
import AlorairLite.Cloud.Protection

/-! What the data of the cloud coordinator is: what the status call of its latest successful poll returned. -/

namespace AlorairLite.Cloud

open Async

/-- A remark of an operation that does not poll. -/
def Remark.unpolled : Remark → Prop
  | .polled _ _ _ => False
  | _ => True

/-- A poll remarks the data that the status call for this unit returned. -/
def Remark.echoed (mac : String) (reply : Sigma face.Answer) : Remark → Prop
  | .polled data _ _ => reply = ⟨.status mac, (.ok data : Except ClientError Dict)⟩
  | _ => False

/-- The latest successful poll had this data, which the client had returned to it for this unit. -/
structure LatestAnswer (mac : String) (log : List CloudEvent) (data : Dict) : Prop where
  latest : latestPoll log = some data
  answer : ∃ task monotonic stopped, .told task (.polled data monotonic stopped) ∈ log ∧
    .delivered task ⟨.status mac, (.ok data : Except ClientError Dict)⟩ ∈ log

section Programs

variable {mac : String} {task : Nat}

/-- A method that polls nothing itself. -/
abbrev Method.Unpolled {Result : Type} (method : Method Result) : Prop :=
  @Coroutine.Within face _ (fun _ => True) Remark.unpolled method

theorem Method.requestRefresh_unpolled : Method.requestRefresh.Unpolled := Coroutine.Within.request trivial

theorem Method.handle_unpolled {k : Nat} {key : String} {error : ClientError} :
    (Method.handle k key error).Unpolled := by
  have uncertain : ∀ text, (do
      Method.change (·.setStatus k .deliveryUncertain)
      Method.requestRefresh
      Process.raise (.homeAssistant text) : Method Unit).Unpolled := fun text =>
    Coroutine.Within.modify (Coroutine.Within.then Method.requestRefresh_unpolled fun _ => trivial)
  cases error with
  | cannotConnect => exact uncertain _
  | command outcomeUnknown =>
    cases outcomeUnknown with
    | true => exact uncertain _
    | false => exact fun _ => trivial
  | timeout => trivial
  | unexpected => trivial
  | _ => exact fun _ => trivial

theorem Method.withTimeout_unpolled {Result : Type} {body : Method Result} (inside : body.Unpolled) :
    (Method.withTimeout task body).Unpolled := by
  apply Coroutine.Within.modify
  apply Coroutine.Within.attempt (Coroutine.Within.ensure inside)
  intro failure
  cases failure with
  | interrupted reason => cases reason <;> trivial
  | _ => trivial

theorem Method.tracked_unpolled {body : Method Json} (inside : body.Unpolled) :
    (Method.tracked task body).Unpolled := by
  apply Coroutine.Within.get
  intro s
  split
  · trivial
  · exact Coroutine.Within.modify (Coroutine.Within.ensure inside)

theorem Method.command_unpolled {order : Order} : (Method.command mac order task).Unpolled := by
  apply Method.tracked_unpolled
  refine Coroutine.Within.then ?_ fun _ => trivial
  apply Coroutine.Within.withLock
  apply Coroutine.Within.attempt
  · apply Method.withTimeout_unpolled
    apply Coroutine.Within.get
    intro s
    split
    · trivial
    · trivial
    · trivial
    · apply Coroutine.Within.modify
      apply Coroutine.Within.say trivial
      apply Coroutine.Within.then (.request trivial)
      intro answer
      split
      · exact Coroutine.Within.modify Method.requestRefresh_unpolled
      · exact Method.handle_unpolled
  · intro failure
    cases failure with
    | timeout => exact fun _ => trivial
    | _ => trivial

theorem Method.experimentalTransaction_unpolled {action : String} {parameters : List (String × Scalar)} :
    (Method.experimentalTransaction mac action parameters).Unpolled := by
  apply Coroutine.Within.get
  intro s
  split
  · trivial
  · split
    · split
      · trivial
      · apply Coroutine.Within.modify
        apply Coroutine.Within.say trivial
        apply Coroutine.Within.then (.request trivial)
        intro answer
        split
        · apply Coroutine.Within.modify
          exact Coroutine.Within.then Method.requestRefresh_unpolled fun _ => trivial
        · rename_i error
          cases error with
          | command outcomeUnknown => cases outcomeUnknown <;> exact fun _ => trivial
          | unexpected => trivial
          | _ => exact fun _ => trivial
    · apply Coroutine.Within.then (.request trivial)
      intro answer
      split <;> trivial

theorem Method.experimentalAction_unpolled {action : String} {parameters : List (String × Scalar)} :
    (Method.experimentalAction mac action parameters task).Unpolled := by
  apply Coroutine.Within.get
  intro s
  split
  · trivial
  · apply Method.tracked_unpolled
    apply Coroutine.Within.withLock
    apply Coroutine.Within.attempt (Method.withTimeout_unpolled Method.experimentalTransaction_unpolled)
    intro failure
    cases failure with
    | timeout =>
      dsimp only
      split
      · exact fun _ => trivial
      · trivial
    | _ => trivial

theorem Method.refresh_echoes :
    @Coroutine.Echoes face _ (Remark.echoed mac) (Method.refresh mac) Remark.unpolled := by
  apply Coroutine.Echoes.bind
  · apply Coroutine.Echoes.bind
    · apply Coroutine.Echoes.asking
      intro answer
      split
      · trivial
      · trivial
      · trivial
      · trivial
      · split
        · trivial
        · exact fun s _ => ⟨.inr rfl, trivial⟩
    · intro result
      cases result with
      | ok data => exact fun _ => trivial
      | error failure => trivial
  · intro result
    cases result with
    | ok value => trivial
    | error failure =>
      cases failure with
      | interrupted reason => trivial
      | _ => exact fun _ => trivial

/-- Only a poll remarks data, and only what the status call returned to it. -/
theorem program_echoes (operation : Operation) (task : Nat) :
    @Coroutine.Echoes face _ (Remark.echoed mac) (program mac operation task) Remark.unpolled := by
  cases operation with
  | refresh => exact Method.refresh_echoes
  | command order => exact Coroutine.Within.echoes Method.command_unpolled
  | experimental action parameters => exact Coroutine.Within.echoes Method.experimentalAction_unpolled
  | unload => exact fun _ _ => ⟨trivial, fun _ _ => trivial⟩

end Programs

section Runs

variable {careful : Prop} {actor : Option Nat} {scene after : CloudScene} {mac : String} {machine : CloudMachine}

theorem emit_latest {event : CloudEvent} (silent : polledData event = none) :
    latestPoll (scene.emit event).log = latestPoll scene.log := by
  simp [silent]

/-- Each change keeps the data that of the latest successful poll. -/
theorem Change.latest (change : Change careful actor scene after)
    (same : scene.shared.data = latestPoll scene.log) : after.shared.data = latestPoll after.log := by
  cases change with
  | @event _ _ event quiet =>
    cases event with
    | told task remark => exact quiet.elim
    | _ => exact same.trans (emit_latest rfl).symm
  | poll status => simp [Coordinator.store, polledData]
  | issue held begun admitted =>
    rw [emit_latest rfl, emit_latest rfl]
    exact same
  | create held plain waits =>
    rw [emit_latest rfl]
    exact same
  | _ => exact same

theorem data_latest (run : Reachable (coordinator mac) machine) :
    machine.scene.shared.data = latestPoll machine.scene.log := by
  have spares : ∀ machine label, True → False → Sparing machine label := fun _ _ _ => False.elim
  obtain ⟨-, now, wall, journey⟩ := run_journey spares run
  exact journey.invariant (fun scene => scene.shared.data = latestPoll scene.log) .start rfl
    fun _ same change => change.latest same

theorem latestPoll_told {log : List CloudEvent} {data : Dict} (latest : latestPoll log = some data) :
    ∃ task monotonic stopped, .told task (.polled data monotonic stopped) ∈ log := by
  obtain ⟨event, member, polled⟩ := List.exists_of_findSome?_eq_some latest
  unfold polledData at polled
  split at polled
  · cases polled
    exact ⟨_, _, _, List.mem_reverse.mp member⟩
  · cases polled

/-- The coordinator's data is what the client returned for its unit to the latest successful poll. -/
theorem data_answered (run : Reachable (coordinator mac) machine) {data : Dict} :
    machine.scene.shared.data = some data ↔ LatestAnswer mac machine.scene.log data := by
  have same := data_latest run
  constructor
  · intro held
    have latest : latestPoll machine.scene.log = some data := same ▸ held
    obtain ⟨task, monotonic, stopped, told⟩ := latestPoll_told latest
    have : Nonempty face.Interrupt := ⟨Interrupt.cancel⟩
    have echoes : ∀ operation task, @Coroutine.Echoes face _ (Remark.echoed mac) (program mac operation task)
      Remark.unpolled := program_echoes
    obtain ⟨operation, -, impossible | ⟨reply, delivered, echoed⟩⟩ :=
      Run.echoes echoes run.unchecked told
    · exact impossible.elim
    · cases echoed
      exact ⟨latest, task, monotonic, stopped, told, delivered⟩
  · intro answered
    exact same.trans answered.latest

end Runs

end AlorairLite.Cloud
