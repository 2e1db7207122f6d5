import AlorairLite.Cloud.Change

/-! The methods of the cloud coordinator keep a contract: between two suspensions a task
only makes changes, and what it relies on over an `await` follows from the lock it holds. -/

namespace AlorairLite.Cloud

open Async

abbrev contract (careful : Prop) : Contract face Operation (Except Failure Json) :=
  (practice careful).contract

abbrev Going (careful : Prop) : Nat → Operation → CloudScene → CloudScene → Prop :=
  (practice careful).Going

variable {careful : Prop} {task : Nat} {operation : Operation} {origin now : CloudScene}

section Rules

variable {Result : Type} {post : Except Failure Result → CloudScene → CloudScene → Prop}

theorem wp_change {move : Coordinator → Coordinator} {next : Unit → Method Result} :
    (contract careful).wp task post (Method.change move >>= next : Method Result) origin now ↔
      (contract careful).wp task post (next ()) origin (now.change move) := Iff.rfl

theorem wp_state {next : Coordinator → Method Result} :
    (contract careful).wp task post (Method.state >>= next : Method Result) origin now ↔
      (contract careful).wp task post (next now.shared) origin now := Iff.rfl

theorem wp_say {remark : Remark} {next : Unit → Method Result} :
    (contract careful).wp task post (Process.say remark >>= next : Method Result) origin now ↔
      (contract careful).wp task post (next ()) origin (now.emit (.told task remark)) := Iff.rfl

end Rules

/-- What a poll leaves before its data is stored. -/
def Observed (careful : Prop) (task : Nat) (operation : Operation) (result : Except Failure Dict) (origin now : CloudScene) :
    Prop :=
  match result with
  | .ok data => ∃ scene on, Going careful task operation origin scene ∧ powered data = some on ∧
    now = (scene.change (·.observe data on)).emit (.told task
      (.polled data scene.shared.now (scene.shared.confirmsStop data on)))
  | .error _ => Going careful task operation origin now

theorem updateData_conduct (mac : String) (going : Going careful task operation origin now) :
    (contract careful).wp task (Observed careful task operation) (Method.updateData mac) origin now := by
  unfold Method.updateData
  refine Contract.wp_then.mpr (Practice.wp_request (going.change (.event (by trivial))) ?_ ?_)
  · intro answer later path resumed allowed
    cases answer with
    | error error => cases error <;> exact resumed
    | ok data =>
      refine Contract.wp_chain_ok.mpr ?_
      simp only
      split
      · exact resumed
      · rename_i on status
        refine wp_state.mpr (wp_change.mpr (wp_say.mpr ?_))
        exact ⟨_, on, resumed, status, rfl⟩
  · intro reason later path resumed allowed
    exact resumed

theorem refresh_conduct (mac : String) (going : Going careful task operation origin now) :
    (contract careful).wp task (fun _ origin now => Going careful task operation origin now)
      (Method.refresh mac) origin now := by
  unfold Method.refresh
  refine Contract.wp_attempt.mpr (Contract.wp_then.mpr
    (Contract.wp_mono (updateData_conduct mac going) ?_))
  intro result origin now observed
  cases result with
  | ok data =>
    obtain ⟨scene, on, going, status, rfl⟩ := observed
    exact going.change (.poll status)
  | error failure =>
    have going : Going careful task operation origin now := observed
    cases failure with
    | interrupted reason => exact going
    | _ => exact going.change .missed

/-- No failure that is reported now hides a confirmation. -/
def Unreported (careful : Prop) (scene : CloudScene) : Prop :=
  careful → ∀ k, scene.shared.lastCommand = some k →
    (scene.shared.feedbacks k).status ≠ .deviceReported

/-- What a method brings about that runs under the command lock, and whose deadline may
be blamed on the last command. -/
structure Handled (careful blames : Prop) (task : Nat) (operation : Operation) {Result : Type}
    (result : Except Failure Result) (origin now : CloudScene) : Prop where
  going : Going careful task operation origin now
  held : now.shared.commandLock.holder = some task
  late : blames → ∀ failure, result = .error failure →
    failure = .timeout ∨ failure = .interrupted .deadline → Unreported careful now

/-- A result that no deadline handler will see. -/
theorem Handled.calm {blames : Prop} {Result : Type} {result : Except Failure Result}
    (going : Going careful task operation origin now) (held : now.shared.commandLock.holder = some task)
    (prompt : ∀ failure, result = .error failure →
      ¬ (failure = .timeout ∨ failure = .interrupted .deadline)) :
    Handled careful blames task operation result origin now :=
  ⟨going, held, fun _ failure same late => absurd late (prompt failure same)⟩

theorem locked_conduct {Result : Type} {body : Method Result}
    (going : Going careful task operation origin now)
    (inside : ∀ origin now, Going careful task operation origin now →
      now.shared.commandLock.holder = some task →
        (contract careful).wp task (fun _ origin now => Going careful task operation origin now ∧
          now.shared.commandLock.holder = some task) body origin now) :
    (contract careful).wp task (fun _ origin now => Going careful task operation origin now)
      (Method.withCommandLock task body) origin now := by
  apply Practice.wp_withLock (fun _ => True) (fun _ => True) going (fun _ _ => rfl)
    (fun _ => .enqueue) (fun _ ready => .acquire ready) trivial (fun _ _ _ => trivial)
    (fun _ => trivial) (fun _ _ _ _ => trivial)
  · intro origin later _ going held
    exact inside origin later going held
  · intro result origin now finished
    exact finished.1.change (.release finished.2)
  · intro reason later _ going _
    exact going.change .abandon

theorem timeout_conduct {blames : Prop} {Result : Type} {body : Method Result}
    (going : Going careful task operation origin now) (held : now.shared.commandLock.holder = some task)
    (inside : ∀ now, Going careful task operation origin now → now.shared.commandLock.holder = some task →
      (contract careful).wp task (Handled careful blames task operation) body origin now) :
    (contract careful).wp task (Handled careful blames task operation) (Method.withTimeout task body) origin now := by
  unfold Method.withTimeout
  refine wp_change.mpr (Contract.wp_attempt.mpr (Contract.wp_ensure.mpr ?_))
  refine Contract.wp_mono (inside _ (going.change (.aside _ _ _ _)) held) ?_
  intro result origin now handled
  have left := handled.going.change (.aside (Function.update now.shared.deadlines task none)
    now.shared.commandTasks now.shared.closing now.shared.experimental)
  cases result with
  | ok value => exact ⟨left, handled.held, fun _ failure same => by cases same⟩
  | error failure =>
    have late := fun blamed => handled.late blamed failure rfl
    cases failure with
    | interrupted reason =>
      cases reason with
      | deadline => exact ⟨left, handled.held, fun blamed _ _ _ => late blamed (.inr rfl)⟩
      | cancel => exact .calm left handled.held (by rintro _ ⟨⟩; simp)
    | timeout => exact ⟨left, handled.held, fun blamed _ _ _ => late blamed (.inl rfl)⟩
    | _ => exact .calm left handled.held (by rintro _ ⟨⟩; simp)

variable {k : Nat} {field : Option String} {action : String}

theorem Commanding.emit (commanding : Commanding task k field action now) (event : CloudEvent) :
    Commanding task k field action (now.emit event) :=
  ⟨commanding.held, commanding.last, commanding.field, commanding.action⟩

theorem Commanding.setFeedback {feedback : CommandFeedback}
    (commanding : Commanding task k field action now)
    (same : feedback.field = (now.shared.feedbacks k).field)
    (same' : feedback.action = (now.shared.feedbacks k).action) :
    Commanding task k field action (now.change (·.setFeedback k feedback)) where
  held := commanding.held
  last := commanding.last
  field := (now.shared.setFeedback_field same k).trans commanding.field
  action := (now.shared.setFeedback_action same' k).trans commanding.action

/-- The task of an issued command, while it holds the command lock. -/
structure Serving (task k : Nat) (order : Order) (scene : CloudScene) : Prop where
  commanding : Commanding task k (some order.key) order.request.action scene
  told : ∃ seen, .told task (.issued k order seen) ∈ scene.log

variable {order : Order}

theorem Serving.emit (serving : Serving task k order now) (event : CloudEvent) :
    Serving task k order (now.emit event) := by
  obtain ⟨seen, told⟩ := serving.told
  exact ⟨serving.commanding.emit event, seen, List.mem_append_left _ told⟩

theorem Serving.later {later : CloudScene} (serving : Serving task k order now)
    (path : Path careful (· ≠ some task) now later) : Serving task k order later := by
  obtain ⟨seen, told⟩ := serving.told
  obtain ⟨events, log⟩ := Practice.Path.grows path
  exact ⟨Path.commanding path serving.commanding, seen, log ▸ List.mem_append_left _ told⟩

theorem Serving.setFeedback {feedback : CommandFeedback} (serving : Serving task k order now)
    (field : feedback.field = (now.shared.feedbacks k).field)
    (action : feedback.action = (now.shared.feedbacks k).action) :
    Serving task k order (now.change (·.setFeedback k feedback)) :=
  ⟨serving.commanding.setFeedback field action, serving.told⟩

/-- A failure of a task whose command is not confirmed hides nothing. -/
theorem Serving.unreported {scene : CloudScene} (serving : Serving task k order scene)
    (open_ : careful → confirmedCommand scene task = false) : Unreported careful scene := by
  intro cautious j last shown
  obtain ⟨seen, told⟩ := serving.told
  rw [serving.commanding.last] at last
  cases last
  have denied := List.any_eq_false.mp (open_ cautious) _ told
  simp [Coordinator.confirmed, shown] at denied

/-- A task asks for a refresh and then ends this way. -/
theorem requestRefresh_conduct {Result : Type} {blames : Prop} (result : Except Failure Result)
    (ends : ∀ failure, result = .error failure →
      ¬ (failure = .timeout ∨ failure = .interrupted .deadline))
    (going : Going careful task operation origin now) (held : now.shared.commandLock.holder = some task)
    (late : blames → ∀ later, Path careful (· ≠ some task) (now.emit (.asked task Query.refresh)) later →
      Coherent later → (contract careful).interrupts later task Interrupt.deadline →
        Unreported careful later) :
    (contract careful).wp task
      (fun outcome => (contract careful).wp task (Handled careful blames task operation)
        (Process.chain (fun _ => Process.lift result) outcome))
      Method.requestRefresh origin now := by
  apply Practice.wp_request (going.change (.event (by trivial)))
  · intro answer later path resumed _
    exact .calm resumed (Path.holding path held :) ends
  · intro reason later path resumed allowed
    refine ⟨resumed, (Path.holding path held :), fun blamed _ same expired => ?_⟩
    cases same
    have same : reason = .deadline := by simpa using expired
    subst same
    exact late blamed later path resumed.sound allowed

/-- A deadline that meets an issued command hides nothing. -/
theorem Serving.late {later : CloudScene} {event : CloudEvent} (serving : Serving task k order now)
    (path : Path careful (· ≠ some task) (now.emit event) later)
    (allowed : (contract careful).interrupts later task Interrupt.deadline) : Unreported careful later :=
  ((serving.emit event).later path).unreported fun cautious => allowed cautious rfl

theorem handle_conduct {mac : String} (error : ClientError)
    (going : Going careful task operation origin now) (serving : Serving task k order now)
    (answered : .delivered task ⟨.call mac order.request, .error error⟩ ∈ now.log)
    (spares : error ≠ .unexpected → Unreported careful now) :
    (contract careful).wp task (Handled careful True task operation)
      (Method.handle k order.key error) origin now := by
  have commanding := serving.commanding
  obtain ⟨seen, told⟩ := serving.told
  have failed : ∀ status, status = .deliveryUncertain ∨ status = .rejected → error ≠ .unexpected →
      Change careful (some task) now (now.change (·.setStatus k status)) :=
    fun status negative expected => .fail commanding.held commanding.last negative
      fun cautious => spares expected cautious k commanding.last
  have rejected : error.definitive → Going careful task operation origin
      ((now.change (·.setStatus k .rejected)).change (·.dropPending order.key)) := fun final => by
    have expected : error ≠ .unexpected := by
      rintro rfl
      cases final
    have kept : ((now.change (·.setStatus k .rejected)).shared.feedbacks k).field = some order.key :=
      (now.shared.setFeedback_field (by rfl) k).trans commanding.field
    exact (going.change (failed .rejected (.inr rfl) expected)).change
      (.drop commanding.held commanding.last kept told final answered)
  have uncertain : error ≠ .unexpected → ∀ text, (contract careful).wp task (Handled careful True task operation)
      (do
        Method.change (·.setStatus k .deliveryUncertain)
        Method.requestRefresh
        Process.raise (.homeAssistant text) : Method Unit) origin now := fun expected text => by
    have served : Serving task k order (now.change (·.setStatus k .deliveryUncertain)) :=
      serving.setFeedback rfl rfl
    refine wp_change.mpr (Contract.wp_then.mpr ?_)
    exact requestRefresh_conduct (.error (.homeAssistant text)) (by rintro _ ⟨⟩; simp)
      (going.change (failed .deliveryUncertain (.inl rfl) expected)) commanding.held
      fun _ later path _ allowed => served.late path allowed
  cases error with
  | authentication => exact .calm (rejected rfl) commanding.held (by rintro _ ⟨⟩; simp)
  | cannotConnect => exact uncertain (by simp) _
  | command outcomeUnknown =>
    cases outcomeUnknown with
    | true => exact uncertain (by simp) _
    | false => exact .calm (rejected rfl) commanding.held (by rintro _ ⟨⟩; simp)
  | protocol => exact .calm (rejected rfl) commanding.held (by rintro _ ⟨⟩; simp)
  | timeout => exact ⟨going, commanding.held, fun _ _ _ _ => spares (by simp)⟩
  | unexpected => exact .calm going commanding.held (by rintro _ ⟨⟩; simp)

theorem transact_conduct (mac : String) (going : Going careful task (.command order) origin now)
    (held : now.shared.commandLock.holder = some task)
    (admitted : now.shared.admission order = .admitted) :
    (contract careful).wp task (Handled careful True task (.command order))
      (Method.transact mac order now.shared) origin now := by
  have serving : Serving task now.shared.feedbackCount order ((now.change (·.issue order)).emit
      (.told task (.issued now.shared.feedbackCount order now.shared))) := by
    refine ⟨⟨held, rfl, ?_, ?_⟩, now.shared, List.mem_append_right _ (List.mem_singleton_self _)⟩
    · exact congrArg CommandFeedback.field (now.shared.issue_feedback order)
    · exact congrArg CommandFeedback.action (now.shared.issue_feedback order)
  unfold Method.transact
  refine wp_change.mpr (wp_say.mpr (Contract.wp_then.mpr ?_))
  apply Practice.wp_request (going.change (.issue held going.begun admitted))
  · intro answer later path resumed allowed
    have served := ((serving.emit _).later path).emit (.delivered task ⟨.call mac order.request, answer⟩)
    cases answer with
    | ok done =>
      have acknowledged : Serving task now.shared.feedbackCount order ((later.emit (.delivered task
          ⟨.call mac order.request, .ok done⟩)).change (·.acknowledge now.shared.feedbackCount)) :=
        served.setFeedback rfl rfl
      have tail : (contract careful).wp task (fun outcome => (contract careful).wp task
          (Handled careful True task (.command order))
          (Process.chain (fun _ => Process.lift (.ok ())) outcome)) Method.requestRefresh later _ :=
        requestRefresh_conduct (.ok ()) (by rintro _ ⟨⟩)
          (resumed.change (.acknowledge served.commanding.held)) served.commanding.held
          fun _ later path _ allowed => acknowledged.late path allowed
      refine wp_change.mpr (Contract.wp_mono tail ?_)
      intro outcome origin now met
      cases outcome <;> exact met
    | error error =>
      have answered : .delivered task ⟨.call mac order.request, .error error⟩ ∈ (later.emit
          (.delivered task ⟨.call mac order.request, .error error⟩)).log :=
        List.mem_append_right _ (List.mem_singleton_self _)
      refine handle_conduct error resumed served answered fun expected =>
        served.unreported fun cautious => ?_
      have quiet := allowed cautious (by simpa [Query.failing] using expected)
      simpa [confirmedCommand, Coordinator.confirmed] using quiet
  · intro reason later path resumed allowed
    refine ⟨resumed, (Path.holding path held :), fun _ _ same expired => ?_⟩
    cases same
    have same : reason = .deadline := by simpa using expired
    subst same
    have spared : Unreported careful later := serving.late path allowed
    exact spared

theorem commandWithFeedback_conduct (mac : String) (going : Going careful task (.command order) origin now)
    (held : now.shared.commandLock.holder = some task) :
    (contract careful).wp task (Handled careful True task (.command order))
      (Method.commandWithFeedback mac order task) origin now := by
  refine timeout_conduct going held fun now going held => ?_
  refine wp_state.mpr ?_
  cases admission : now.shared.admission order with
  | refused error =>
    refine .calm going held fun failure same => ?_
    cases same
    exact Coordinator.admission_refused admission
  | duplicate => exact .calm going held (by rintro _ ⟨⟩)
  | satisfied => exact .calm going held (by rintro _ ⟨⟩)
  | admitted => exact transact_conduct mac going held admission

/-- A deadline handler blames the last command. -/
theorem Going.blame {action : String} (going : Going careful task operation origin now)
    (held : now.shared.commandLock.holder = some task) (unreported : Unreported careful now) :
    Going careful task operation origin (now.change (·.blame action)) ∧
      (now.shared.blame action).commandLock.holder = some task := by
  have unchanged : now.shared.blame action = now.shared → Going careful task operation origin
      (now.change (·.blame action)) := fun same => by
    have whole : now.change (·.blame action) = now := by
      rw [Scene.change, same]
    rw [whole]
    exact going
  cases last : now.shared.lastCommand with
  | none =>
    have same : now.shared.blame action = now.shared := by simp [Coordinator.blame, last]
    exact ⟨unchanged same, by rw [same]; exact held⟩
  | some k =>
    by_cases mine : (now.shared.feedbacks k).action = action
    · have blamed : now.shared.blame action = now.shared.setStatus k .deliveryUncertain := by
        simp [Coordinator.blame, last, mine]
      have whole : now.change (·.blame action) = now.change (·.setStatus k .deliveryUncertain) := by
        rw [Scene.change, blamed, Scene.change]
      refine ⟨?_, by rw [blamed]; exact held⟩
      rw [whole]
      exact going.change (.fail held last (.inl rfl) fun cautious => unreported cautious k last)
    · have same : now.shared.blame action = now.shared := by simp [Coordinator.blame, last, mine]
      exact ⟨unchanged same, by rw [same]; exact held⟩

theorem lockedCommand_conduct (mac : String) (going : Going careful task (.command order) origin now) :
    (contract careful).wp task (fun _ origin now => Going careful task (.command order) origin now)
      (Method.lockedCommand mac order task) origin now := by
  refine locked_conduct going fun origin now going held => Contract.wp_attempt.mpr ?_
  refine Contract.wp_mono (commandWithFeedback_conduct mac going held) ?_
  intro result origin now handled
  cases result with
  | ok value => exact ⟨handled.going, handled.held⟩
  | error failure =>
    cases failure with
    | timeout => exact handled.going.blame handled.held (handled.late trivial _ rfl (.inl rfl))
    | _ => exact ⟨handled.going, handled.held⟩

theorem tracked_conduct {body : Method Json} (going : Going careful task operation origin now)
    (inside : ∀ now, Going careful task operation origin now →
      (contract careful).wp task (fun _ origin now => Going careful task operation origin now) body origin now) :
    (contract careful).wp task (fun _ origin now => Going careful task operation origin now)
      (Method.tracked task body) origin now := by
  unfold Method.tracked
  refine wp_state.mpr ?_
  split
  · exact going
  · refine wp_change.mpr (Contract.wp_ensure.mpr ?_)
    refine Contract.wp_mono (inside _ (going.change (.aside now.shared.deadlines
      (now.shared.commandTasks ++ [task]) now.shared.closing now.shared.experimental))) ?_
    intro result origin now finished
    exact finished.change (.aside now.shared.deadlines (now.shared.commandTasks.filter (· ≠ task))
      now.shared.closing now.shared.experimental)

theorem command_conduct (mac : String) (going : Going careful task (.command order) origin now) :
    (contract careful).wp task (fun _ origin now => Going careful task (.command order) origin now)
      (Method.command mac order task) origin now := by
  refine tracked_conduct going fun now going => Contract.wp_then.mpr ?_
  refine Contract.wp_mono (lockedCommand_conduct mac going) ?_
  intro result origin now finished
  cases result <;> exact finished

/-- The task of an experimental change, while it holds the command lock. -/
theorem Commanding.unreported {action : String} {scene : CloudScene}
    (commanding : Commanding task k none action scene) (coherent : Coherent scene) :
    Unreported careful scene := by
  intro _ j last shown
  rw [commanding.last] at last
  cases last
  have named := coherent.reported k shown
  rw [commanding.field] at named
  cases named

theorem Path.commanding_late {action : String} {event : CloudEvent} {later : CloudScene}
    (path : Path careful (· ≠ some task) (now.emit event) later)
    (commanding : Commanding task k none action now) (coherent : Coherent later) :
    Unreported careful later :=
  (path.commanding (commanding.emit event)).unreported coherent

theorem writeFailure_conduct {action : String} {blames : Prop} (error : ClientError)
    (going : Going careful task operation origin now) (commanding : Commanding task k none action now) :
    (contract careful).wp task (Handled careful blames task operation) (Method.writeFailure k error) origin now := by
  have failed : ∀ status, status = .deliveryUncertain ∨ status = .rejected →
      Going careful task operation origin (now.change (·.setStatus k status)) := fun status negative =>
    going.change (.fail commanding.held commanding.last negative fun cautious =>
      commanding.unreported going.current cautious k commanding.last)
  cases error with
  | authentication => exact .calm (failed .rejected (.inr rfl)) commanding.held (by rintro _ ⟨⟩; simp)
  | cannotConnect => exact .calm (failed .deliveryUncertain (.inl rfl)) commanding.held (by rintro _ ⟨⟩; simp)
  | command outcomeUnknown =>
    cases outcomeUnknown with
    | true => exact .calm (failed .deliveryUncertain (.inl rfl)) commanding.held (by rintro _ ⟨⟩; simp)
    | false => exact .calm (failed .rejected (.inr rfl)) commanding.held (by rintro _ ⟨⟩; simp)
  | protocol => exact .calm (failed .rejected (.inr rfl)) commanding.held (by rintro _ ⟨⟩; simp)
  | timeout => exact .calm (failed .deliveryUncertain (.inl rfl)) commanding.held (by rintro _ ⟨⟩; simp)
  | unexpected => exact .calm going commanding.held (by rintro _ ⟨⟩; simp)

theorem experimentalTransaction_conduct (mac action : String) (parameters : List (String × Scalar))
    (going : Going careful task operation origin now) (held : now.shared.commandLock.holder = some task) :
    (contract careful).wp task (Handled careful (mutationActions.contains action) task operation)
      (Method.experimentalTransaction mac action parameters) origin now := by
  unfold Method.experimentalTransaction
  refine wp_state.mpr ?_
  split
  · exact .calm going held (by rintro _ ⟨⟩; simp)
  split
  · split
    · exact .calm going held (by rintro _ ⟨⟩; simp)
    have commanding : Commanding task now.shared.feedbackCount none action
        (now.change (·.newFeedback {
          action, status := .awaitingResponse, issuedAt := now.shared.wall
          deadline := now.shared.now + pendingSeconds })) := by
      refine ⟨held, rfl, ?_, ?_⟩
      · exact congrArg CommandFeedback.field (now.shared.setFeedback_self now.shared.feedbackCount _)
      · exact congrArg CommandFeedback.action (now.shared.setFeedback_self now.shared.feedbackCount _)
    refine wp_change.mpr (wp_say.mpr (Contract.wp_then.mpr ?_))
    apply Practice.wp_request ((going.change (.create held rfl rfl)).change (.event (by trivial)))
    · intro answer later path resumed _
      have served := (Path.commanding path ((commanding.emit _).emit _)).emit
        (.delivered task ⟨.experimental mac action parameters, answer⟩)
      cases answer with
      | error error => exact writeFailure_conduct error resumed served
      | ok result =>
        refine wp_change.mpr (Contract.wp_then.mpr ?_)
        refine requestRefresh_conduct (.ok (Method.report action "cloud_acknowledged" result))
          (by rintro _ ⟨⟩) (resumed.change (.cloudAcknowledge served.held served.field)) served.held
          fun _ last path coherent _ => ?_
        exact Path.commanding_late path (served.setFeedback rfl rfl) coherent
    · intro reason later path resumed _
      refine ⟨resumed, (Path.holding path held :), fun _ _ _ _ => ?_⟩
      exact (Path.commanding_late path (commanding.emit _) resumed.sound :)
  · rename_i reads
    refine Contract.wp_then.mpr (Practice.wp_request (going.change (.event (by trivial))) ?_ ?_)
    · intro answer later path resumed _
      refine Contract.wp_chain_ok.mpr ?_
      cases answer with
      | ok result => exact ⟨resumed, (Path.holding path held :), fun writes => absurd writes reads⟩
      | error error => exact ⟨resumed, (Path.holding path held :), fun writes => absurd writes reads⟩
    · intro reason later path resumed _
      exact ⟨resumed, (Path.holding path held :), fun writes => absurd writes reads⟩

theorem lockedExperimental_conduct (mac action : String) (parameters : List (String × Scalar))
    (going : Going careful task operation origin now) :
    (contract careful).wp task (fun _ origin now => Going careful task operation origin now)
      (Method.lockedExperimental mac action parameters task) origin now := by
  refine locked_conduct going fun origin now going held => Contract.wp_attempt.mpr ?_
  refine Contract.wp_mono (timeout_conduct going held fun now going held =>
    experimentalTransaction_conduct mac action parameters going held) ?_
  intro result origin now handled
  cases result with
  | ok value => exact ⟨handled.going, handled.held⟩
  | error failure =>
    cases failure with
    | timeout =>
      apply Contract.wp_recover_error.mpr
      dsimp only
      split
      · rename_i writes
        exact handled.going.blame handled.held (handled.late writes _ rfl (.inl rfl))
      · exact ⟨handled.going, handled.held⟩
    | _ => exact ⟨handled.going, handled.held⟩

theorem experimentalAction_conduct (mac action : String) (parameters : List (String × Scalar))
    (going : Going careful task operation origin now) :
    (contract careful).wp task (fun _ origin now => Going careful task operation origin now)
      (Method.experimentalAction mac action parameters task) origin now := by
  unfold Method.experimentalAction
  refine wp_state.mpr ?_
  split
  · exact going
  · exact tracked_conduct going fun now going =>
      lockedExperimental_conduct mac action parameters going

theorem prepareUnload_conduct (going : Going careful task operation origin now) :
    (contract careful).wp task (fun _ origin now => Going careful task operation origin now)
      Method.prepareUnload origin now := by
  have closed := going.change (.aside now.shared.deadlines now.shared.commandTasks true
    now.shared.experimental)
  unfold Method.prepareUnload
  apply wp_state.mpr
  apply wp_change.mpr
  apply Contract.wp_then.mpr
  apply Practice.wp_awaitReady closed
  · intro _
    exact closed
  · intro later _ _ resumed
    exact resumed
  · intro reason later _ resumed _
    exact resumed

/-- Every method of the coordinator keeps the contract. -/
theorem program_meets (mac : String) : (contract careful).Meets (program mac) := by
  apply Practice.meets_of_going
  intro operation task scene _ going
  apply Contract.wp_mono ?_ fun _ _ _ finished => ⟨finished, trivial⟩
  cases operation with
  | refresh => exact refresh_conduct mac going
  | command order => exact command_conduct mac going
  | experimental action parameters => exact experimentalAction_conduct mac action parameters going
  | unload => exact prepareUnload_conduct going

end AlorairLite.Cloud
