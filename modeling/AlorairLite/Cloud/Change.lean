import AlorairLite.Async.Practice
import AlorairLite.Cloud.Coordinator

/-! What one step of the cloud coordinator can do, as a path of small changes, each with
the task that makes it and what the code had checked before it. -/

namespace AlorairLite.Cloud

open Async

abbrev CloudScene := Scene face Operation (Except Failure Json)

abbrev CloudEvent := Event face Operation (Except Failure Json)

/-- Events other than remarks and commands that are sent. -/
def remarkless : CloudEvent → Prop
  | .told _ _ | .asked _ (.call _ _) => False
  | _ => True

/-- A command of this task was confirmed, so a failure reported now would hide that. -/
def Coordinator.confirmed (s : Coordinator) (task : Nat) : CloudEvent → Bool
  | .told teller (.issued k _ _) => teller = task && (s.feedbacks k).status = .deviceReported
  | _ => false

def confirmedCommand (scene : CloudScene) (task : Nat) : Bool :=
  scene.log.any (scene.shared.confirmed task)

/-- A state change by this task, or by nobody. In careful runs no failure meets a
confirmed command. -/
inductive Change (careful : Prop) : Option Nat → CloudScene → CloudScene → Prop where
  | event {actor : Option Nat} {scene : CloudScene} {event : CloudEvent} (quiet : remarkless event) :
    Change careful actor scene (scene.emit event)
  | aside {actor : Option Nat} {scene : CloudScene} (deadlines : Nat → Option ℚ) (tasks : List Nat)
      (closing experimental : Bool) :
    Change careful actor scene (scene.change fun s : Coordinator =>
      { s with deadlines, commandTasks := tasks, closing, experimental })
  | elapse {scene : CloudScene} {seconds : ℚ} (forward : 0 ≤ seconds) :
    Change careful none scene (scene.change (Drift.elapse seconds).apply)
  | setWall {scene : CloudScene} (wall : ℚ) :
    Change careful none scene (scene.change (Drift.setWall wall).apply)
  | enqueue {task : Nat} {scene : CloudScene} :
    Change careful (some task) scene (scene.change fun s : Coordinator =>
      s.putLock (s.commandLock.enqueue task))
  | abandon {task : Nat} {scene : CloudScene} :
    Change careful (some task) scene (scene.change fun s : Coordinator =>
      s.putLock (s.commandLock.abandon task))
  | acquire {task : Nat} {scene : CloudScene} (ready : scene.shared.commandLock.ready task) :
    Change careful (some task) scene (scene.change fun s : Coordinator =>
      s.putLock (s.commandLock.acquire task))
  | release {task : Nat} {scene : CloudScene} (held : scene.shared.commandLock.holder = some task) :
    Change careful (some task) scene (scene.change fun s : Coordinator =>
      s.putLock s.commandLock.release)
  | poll {task : Nat} {scene : CloudScene} {data : Dict} {on : Bool} (status : powered data = some on) :
    Change careful (some task) scene
      (((scene.change (·.observe data on)).emit (.told task
        (.polled data scene.shared.now (scene.shared.confirmsStop data on)))).change (·.store data))
  | missed {task : Nat} {scene : CloudScene} :
    Change careful (some task) scene
      (scene.change fun s : Coordinator => { s with lastUpdateSuccess := false })
  | issue {task : Nat} {scene : CloudScene} {mac : String} {order : Order}
      (held : scene.shared.commandLock.holder = some task)
      (begun : .started task (.command order) ∈ scene.log)
      (admitted : scene.shared.admission order = .admitted) :
    Change careful (some task) scene (((scene.change (·.issue order)).emit
      (.told task (.issued scene.shared.feedbackCount order scene.shared))).emit
        (.asked task (.call mac order.request)))
  | create {task : Nat} {scene : CloudScene} {feedback : CommandFeedback}
      (held : scene.shared.commandLock.holder = some task) (plain : feedback.field = none)
      (waits : feedback.status = .awaitingResponse) :
    Change careful (some task) scene ((scene.change (·.newFeedback feedback)).emit
      (.told task (.proposed scene.shared.feedbackCount feedback.action)))
  | fail {task k : Nat} {scene : CloudScene} {status : FeedbackStatus}
      (held : scene.shared.commandLock.holder = some task) (last : scene.shared.lastCommand = some k)
      (negative : status = .deliveryUncertain ∨ status = .rejected)
      (spares : careful → (scene.shared.feedbacks k).status ≠ .deviceReported) :
    Change careful (some task) scene (scene.change (·.setStatus k status))
  | drop {task k : Nat} {scene : CloudScene} {mac : String} {order : Order} {seen : Coordinator}
      {error : ClientError} (held : scene.shared.commandLock.holder = some task)
      (last : scene.shared.lastCommand = some k)
      (field : (scene.shared.feedbacks k).field = some order.key)
      (told : .told task (.issued k order seen) ∈ scene.log) (final : error.definitive)
      (failed : .delivered task ⟨.call mac order.request, .error error⟩ ∈ scene.log) :
    Change careful (some task) scene (scene.change (·.dropPending order.key))
  | acknowledge {task k : Nat} {scene : CloudScene}
      (held : scene.shared.commandLock.holder = some task) :
    Change careful (some task) scene (scene.change (·.acknowledge k))
  | cloudAcknowledge {task k : Nat} {scene : CloudScene}
      (held : scene.shared.commandLock.holder = some task)
      (plain : (scene.shared.feedbacks k).field = none) :
    Change careful (some task) scene (scene.change fun s : Coordinator => s.setFeedback k
      { s.feedbacks k with acknowledged := true, status := .cloudAcknowledged })

/-- What an induction over changes has to know before each of them. -/
structure Coherent (scene : CloudScene) : Prop where
  last : ∀ k, scene.shared.lastCommand = some k → k + 1 = scene.shared.feedbackCount
  reported : ∀ k, (scene.shared.feedbacks k).status = .deviceReported →
    (scene.shared.feedbacks k).field.isSome

namespace Coordinator

@[simp] theorem setFeedback_self (s : Coordinator) (k : Nat) (feedback : CommandFeedback) :
    (s.setFeedback k feedback).feedbacks k = feedback := Function.update_self ..

theorem setFeedback_of_ne (s : Coordinator) {k j : Nat} (feedback : CommandFeedback)
    (differs : j ≠ k) : (s.setFeedback k feedback).feedbacks j = s.feedbacks j :=
  Function.update_of_ne differs ..

/-- A feedback object with another status or another acknowledgement. -/
theorem setFeedback_field (s : Coordinator) {k : Nat} {feedback : CommandFeedback}
    (same : feedback.field = (s.feedbacks k).field) (j : Nat) :
    ((s.setFeedback k feedback).feedbacks j).field = (s.feedbacks j).field := by
  by_cases equal : j = k
  · subst equal
    rw [setFeedback_self, same]
  · rw [setFeedback_of_ne s feedback equal]

theorem setFeedback_action (s : Coordinator) {k : Nat} {feedback : CommandFeedback}
    (same : feedback.action = (s.feedbacks k).action) (j : Nat) :
    ((s.setFeedback k feedback).feedbacks j).action = (s.feedbacks j).action := by
  by_cases equal : j = k
  · subst equal
    rw [setFeedback_self, same]
  · rw [setFeedback_of_ne s feedback equal]

/-- The feedback object of a command at its issue. -/
theorem issue_feedback (s : Coordinator) (order : Order) :
    (s.issue order).feedbacks s.feedbackCount = {
      action := order.request.action, status := .awaitingFeedback, issuedAt := s.wall
      deadline := s.now + pendingSeconds, field := some order.key, requested := some order.wanted } :=
  s.setFeedback_self ..

/-- Who the pending command is that a poll may judge the last feedback by. -/
theorem answering_spec {s : Coordinator} {k : Nat} {key : String} {entry : PendingCommand}
    (found : s.answering = some (k, key, entry)) :
    s.lastCommand = some k ∧ (s.feedbacks k).field = some key ∧ s.pending key = some entry ∧
      (s.feedbacks k).issuedAt = entry.issuedAt := by
  obtain ⟨j, last, rest⟩ := Option.bind_eq_some_iff.mp found
  obtain ⟨field, mine, rest⟩ := Option.bind_eq_some_iff.mp rest
  obtain ⟨other, stored, rest⟩ := Option.bind_eq_some_iff.mp rest
  split at rest
  · rename_i issued
    cases rest
    exact ⟨last, mine, stored, issued⟩
  · cases rest

/-- A poll writes into one feedback object at most, and only its status and sample. -/
theorem judge_cases (s : Coordinator) (data : Dict) (on : Bool) :
    s.judge data on = s ∨ ∃ k key entry, s.answering = some (k, key, entry) ∧
      (s.resolution data on key entry = .expired ∧ s.judge data on = s.setStatus k .notObserved ∨
        s.resolution data on key entry = .reported ∧ s.judge data on = s.setFeedback k
          { s.feedbacks k with status := .deviceReported, reportedAt := utcSample data }) := by
  unfold judge
  split
  · exact .inl rfl
  · rename_i k key entry found
    split
    · exact .inl rfl
    · rename_i expired
      exact .inr ⟨k, key, entry, found, .inl ⟨expired, rfl⟩⟩
    · rename_i reported
      exact .inr ⟨k, key, entry, found, .inr ⟨reported, rfl⟩⟩

theorem judge_field (s : Coordinator) (data : Dict) (on : Bool) (k : Nat) :
    ((s.judge data on).feedbacks k).field = (s.feedbacks k).field := by
  rcases s.judge_cases data on with same | ⟨j, key, entry, -, ⟨-, same⟩ | ⟨-, same⟩⟩
  · rw [same]
  · rw [same]
    exact s.setFeedback_field (by rfl) k
  · rw [same]
    exact s.setFeedback_field (by rfl) k

theorem judge_action (s : Coordinator) (data : Dict) (on : Bool) (k : Nat) :
    ((s.judge data on).feedbacks k).action = (s.feedbacks k).action := by
  rcases s.judge_cases data on with same | ⟨j, key, entry, -, ⟨-, same⟩ | ⟨-, same⟩⟩
  · rw [same]
  · rw [same]
    exact s.setFeedback_action (by rfl) k
  · rw [same]
    exact s.setFeedback_action (by rfl) k

/-- A poll's judgement is nothing but feedback. -/
theorem judge_frame (s : Coordinator) (data : Dict) (on : Bool) :
    s.judge data on = { s with feedbacks := (s.judge data on).feedbacks } := by
  rcases s.judge_cases data on with same | ⟨j, key, entry, -, ⟨-, same⟩ | ⟨-, same⟩⟩
  · rw [same]
  · rw [same]
    rfl
  · rw [same]
    rfl

/-- The state in which a poll looks at the pending commands. -/
def noted (s : Coordinator) (data : Dict) (on : Bool) : Coordinator :=
  { s with
    lastOff := if on = false ∧ s.previousOn = some true then s.now else s.lastOff
    previousOn := some on
    lastAutoHumidity := (autoTarget data).getD s.lastAutoHumidity }

theorem observe_feedbacks (s : Coordinator) (data : Dict) (on : Bool) :
    (s.observe data on).feedbacks = ((s.noted data on).judge data on).feedbacks := rfl

/-- What a poll leaves alone. -/
theorem observe_frame (s : Coordinator) (data : Dict) (on : Bool) :
    s.observe data on = { s with
      feedbacks := (s.observe data on).feedbacks
      lastOff := (s.observe data on).lastOff
      previousOn := some on
      lastAutoHumidity := (autoTarget data).getD s.lastAutoHumidity
      pending := (s.observe data on).pending } :=
  congrArg (fun judged : Coordinator => { judged with
      pending := (s.observe data on).pending, lastOff := (s.observe data on).lastOff })
    ((s.noted data on).judge_frame data on)

@[simp] theorem observe_now (s : Coordinator) (data : Dict) (on : Bool) :
    (s.observe data on).now = s.now := (congrArg now (s.observe_frame data on)).trans rfl

@[simp] theorem observe_built (s : Coordinator) (data : Dict) (on : Bool) :
    (s.observe data on).built = s.built := (congrArg built (s.observe_frame data on)).trans rfl

@[simp] theorem observe_previousOn (s : Coordinator) (data : Dict) (on : Bool) :
    (s.observe data on).previousOn = some on :=
  (congrArg previousOn (s.observe_frame data on)).trans rfl

@[simp] theorem observe_lastCommand (s : Coordinator) (data : Dict) (on : Bool) :
    (s.observe data on).lastCommand = s.lastCommand :=
  (congrArg lastCommand (s.observe_frame data on)).trans rfl

@[simp] theorem observe_feedbackCount (s : Coordinator) (data : Dict) (on : Bool) :
    (s.observe data on).feedbackCount = s.feedbackCount :=
  (congrArg feedbackCount (s.observe_frame data on)).trans rfl

@[simp] theorem observe_commandLock (s : Coordinator) (data : Dict) (on : Bool) :
    (s.observe data on).commandLock = s.commandLock :=
  (congrArg commandLock (s.observe_frame data on)).trans rfl

theorem observe_lastOff (s : Coordinator) (data : Dict) (on : Bool) :
    (s.observe data on).lastOff = if s.confirmsStop data on then s.now
      else if on = false ∧ s.previousOn = some true then s.now else s.lastOff := rfl

/-- A refusal is none of the failures that a deadline handler looks for. -/
theorem admission_refused {s : Coordinator} {order : Order} {failure : Failure}
    (refused : s.admission order = .refused failure) :
    ¬ (failure = .timeout ∨ failure = .interrupted .deadline) := by
  unfold admission at refused
  dsimp only at refused
  split_ifs at refused <;> cases refused <;> simp

end Coordinator

/-- The object a change of one status or acknowledgement leaves. -/
theorem Coherent.setFeedback {scene : CloudScene} {k : Nat} {feedback : CommandFeedback}
    (coherent : Coherent scene) (same : feedback.field = (scene.shared.feedbacks k).field)
    (status : feedback.status = .deviceReported → (scene.shared.feedbacks k).status = .deviceReported) :
    Coherent (scene.change (·.setFeedback k feedback)) := by
  refine ⟨coherent.last, fun j reported => ?_⟩
  have shown : ((scene.shared.setFeedback k feedback).feedbacks j).status = .deviceReported := reported
  show ((scene.shared.setFeedback k feedback).feedbacks j).field.isSome
  rw [scene.shared.setFeedback_field same]
  by_cases equal : j = k
  · subst equal
    rw [Coordinator.setFeedback_self] at shown
    exact coherent.reported j (status shown)
  · rw [Coordinator.setFeedback_of_ne _ _ equal] at shown
    exact coherent.reported j shown

theorem Coherent.newFeedback {scene : CloudScene} {feedback : CommandFeedback}
    (coherent : Coherent scene) (status : feedback.status ≠ .deviceReported) :
    Coherent (scene.change (·.newFeedback feedback)) := by
  refine ⟨fun k last => ?_, fun j reported => ?_⟩
  · cases last
    rfl
  · have shown : ((scene.shared.setFeedback scene.shared.feedbackCount feedback).feedbacks j).status =
        .deviceReported := reported
    show ((scene.shared.setFeedback scene.shared.feedbackCount feedback).feedbacks j).field.isSome
    by_cases equal : j = scene.shared.feedbackCount
    · subst equal
      rw [Coordinator.setFeedback_self] at shown
      exact absurd shown status
    · rw [Coordinator.setFeedback_of_ne _ _ equal] at shown ⊢
      exact coherent.reported j shown

theorem Coherent.observe {scene : CloudScene} (coherent : Coherent scene) (data : Dict) (on : Bool) :
    Coherent (scene.change (·.observe data on)) := by
  refine ⟨fun k named => ?_, fun k reported => ?_⟩
  · rw [Scene.change_shared, Coordinator.observe_lastCommand] at named
    rw [Scene.change_shared, Coordinator.observe_feedbackCount]
    exact coherent.last k named
  · rw [Scene.change_shared, Coordinator.observe_feedbacks] at reported ⊢
    rw [Coordinator.judge_field]
    rcases (scene.shared.noted data on).judge_cases data on with
      same | ⟨j, key, entry, found, ⟨-, same⟩ | ⟨-, same⟩⟩
    · rw [same] at reported
      exact coherent.reported k reported
    · rw [same, Coordinator.setStatus] at reported
      by_cases equal : k = j
      · subst equal
        rw [Coordinator.setFeedback_self] at reported
        cases reported
      · rw [Coordinator.setFeedback_of_ne _ _ equal] at reported
        exact coherent.reported k reported
    · by_cases equal : k = j
      · subst equal
        rw [(Coordinator.answering_spec found).2.1]
        rfl
      · rw [same, Coordinator.setFeedback_of_ne _ _ equal] at reported
        exact coherent.reported k reported

theorem Change.coherent {careful : Prop} {actor : Option Nat} {scene after : CloudScene}
    (change : Change careful actor scene after) (coherent : Coherent scene) : Coherent after := by
  cases change with
  | event quiet => exact ⟨coherent.last, coherent.reported⟩
  | aside deadlines tasks closing experimental => exact ⟨coherent.last, coherent.reported⟩
  | elapse forward => exact ⟨coherent.last, coherent.reported⟩
  | setWall wall => exact ⟨coherent.last, coherent.reported⟩
  | enqueue => exact ⟨coherent.last, coherent.reported⟩
  | abandon => exact ⟨coherent.last, coherent.reported⟩
  | acquire ready => exact ⟨coherent.last, coherent.reported⟩
  | release held => exact ⟨coherent.last, coherent.reported⟩
  | @poll task _ data on status =>
    have observed := coherent.observe data on
    exact ⟨observed.last, observed.reported⟩
  | missed => exact ⟨coherent.last, coherent.reported⟩
  | @issue task _ mac order held begun admitted =>
    have recorded : Coherent (scene.change (·.newFeedback {
        action := order.request.action, status := .awaitingFeedback, issuedAt := scene.shared.wall
        deadline := scene.shared.now + pendingSeconds, field := some order.key
        requested := some order.wanted })) := coherent.newFeedback (by simp)
    exact ⟨recorded.last, recorded.reported⟩
  | @create task _ feedback held plain waits =>
    have recorded : Coherent (scene.change (·.newFeedback feedback)) :=
      coherent.newFeedback (by simp [waits])
    exact ⟨recorded.last, recorded.reported⟩
  | fail held last negative spares =>
    refine coherent.setFeedback rfl fun shown => ?_
    rcases negative with same | same
    · rw [same] at shown
      cases shown
    · rw [same] at shown
      cases shown
  | drop held last field told final failed => exact ⟨coherent.last, coherent.reported⟩
  | acknowledge held => exact coherent.setFeedback rfl id
  | cloudAcknowledge held plain => exact coherent.setFeedback rfl (by simp)

/-- A change never takes an event back. -/
theorem Change.log {careful : Prop} {actor : Option Nat} {scene after : CloudScene}
    (change : Change careful actor scene after) :
    ∃ events, after.log = scene.log ++ events := by
  cases change with
  | event quiet => exact ⟨[_], rfl⟩
  | poll status => exact ⟨[_], rfl⟩
  | create held plain waits => exact ⟨[_], rfl⟩
  | issue held begun admitted => exact ⟨_, List.append_assoc ..⟩
  | _ => exact ⟨[], (List.append_nil _).symm⟩

/-- A client call of a command ended in a way that its handlers report. -/
def Query.failing : (query : Query) → query.Answer → Bool
  | .call _ _, .error error => error ≠ .unexpected
  | _, _ => false

/-- The outside world may do anything; in careful runs no failure and no deadline meets a
task whose command is confirmed. -/
def practice (careful : Prop) : Practice face Operation (Except Failure Json) where
  change := Change careful
  invariant := Coherent
  delivers scene task reply :=
    careful → Query.failing reply.1 reply.2 → confirmedCommand scene task = false
  interrupts scene task reason :=
    careful → reason = Interrupt.deadline → confirmedCommand scene task = false
  drifts _ drift := ∀ seconds, drift = Drift.elapse seconds → 0 ≤ seconds
  ends _ _ _ := True
  kept := Change.coherent
  grows := Change.log
  event := @fun _ _ event silent => .event (by cases event <;> trivial)
  started := fun _ _ => .event (by trivial)
  ended := fun _ => .event (by trivial)
  drifted := by
    intro scene drift forward
    cases drift with
    | elapse seconds => exact .elapse (forward seconds rfl)
    | setWall wall => exact .setWall wall
    | setOption experimental => exact .aside _ _ _ experimental

abbrev Path (careful : Prop) : (Option Nat → Prop) → CloudScene → CloudScene → Prop :=
  (practice careful).Path

/-- What the task that holds the command lock keeps of its feedback object. -/
structure Commanding (task k : Nat) (field : Option String) (action : String) (scene : CloudScene) :
    Prop where
  held : scene.shared.commandLock.holder = some task
  last : scene.shared.lastCommand = some k
  field : (scene.shared.feedbacks k).field = field
  action : (scene.shared.feedbacks k).action = action

/-- Others do not take the lock from its holder. -/
theorem Change.holding {careful : Prop} {actor : Option Nat} {task : Nat} {scene after : CloudScene}
    (change : Change careful actor scene after) (other : actor ≠ some task)
    (held : scene.shared.commandLock.holder = some task) :
    after.shared.commandLock.holder = some task := by
  have mine : ∀ {teller : Nat}, some teller ≠ some task →
      scene.shared.commandLock.holder ≠ some teller := fun differs same => by
    rw [held] at same
    exact differs same.symm
  cases change with
  | acquire ready =>
    have free := (Bool.and_eq_true_iff.mp ready).1
    rw [held] at free
    cases free
  | release other' => exact absurd other' (mine other)
  | @poll _ _ data on status =>
    exact (congrArg Lock.holder (scene.shared.observe_commandLock data on)).trans held
  | _ => exact held

theorem Change.commanding {careful : Prop} {actor : Option Nat} {task k : Nat}
    {field : Option String} {action : String} {scene after : CloudScene}
    (change : Change careful actor scene after) (other : actor ≠ some task)
    (commanding : Commanding task k field action scene) : Commanding task k field action after := by
  have held := change.holding other commanding.held
  have mine : ∀ {teller : Nat}, some teller ≠ some task →
      scene.shared.commandLock.holder ≠ some teller := fun differs same => by
    rw [commanding.held] at same
    exact differs same.symm
  cases change with
  | @poll _ _ data on status =>
    have last := scene.shared.observe_lastCommand data on
    refine ⟨held, last.trans commanding.last, ?_, ?_⟩
    · exact ((scene.shared.noted data on).judge_field data on k).trans commanding.field
    · exact ((scene.shared.noted data on).judge_action data on k).trans commanding.action
  | issue held' begun admitted => exact absurd held' (mine other)
  | create held' plain waits => exact absurd held' (mine other)
  | fail held' last negative spares => exact absurd held' (mine other)
  | drop held' last field told final failed => exact absurd held' (mine other)
  | acknowledge held' => exact absurd held' (mine other)
  | cloudAcknowledge held' plain => exact absurd held' (mine other)
  | _ => exact ⟨held, commanding.last, commanding.field, commanding.action⟩

theorem Path.holding {careful : Prop} {task : Nat} {scene after : CloudScene}
    (path : Path careful (· ≠ some task) scene after)
    (held : scene.shared.commandLock.holder = some task) :
    after.shared.commandLock.holder = some task := by
  induction path with
  | refl => exact held
  | tail _ last ih =>
    obtain ⟨actor, other, change⟩ := last
    exact change.holding other ih

theorem Path.commanding {careful : Prop} {task k : Nat} {field : Option String} {action : String}
    {scene after : CloudScene} (path : Path careful (· ≠ some task) scene after)
    (commanding : Commanding task k field action scene) : Commanding task k field action after := by
  induction path with
  | refl => exact commanding
  | tail _ last ih =>
    obtain ⟨actor, other, change⟩ := last
    exact change.commanding other ih

end AlorairLite.Cloud
