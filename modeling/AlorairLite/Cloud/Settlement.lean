import AlorairLite.Cloud.Journey
import AlorairLite.Cloud.Mutation

/-! What becomes of the feedback object of an experimental change. The task holds the command
lock until it ends, so nobody else writes into the object, and how the client call ended
decides its status. -/

namespace AlorairLite.Cloud

open Async

/-- How the client call of a change ended, and the status that its feedback may end with. -/
inductive Settles (mac action : String) (parameters : Payload) :
    Exchange face → FeedbackStatus → Prop where
  | accepted {data : Json} : Settles mac action parameters
      (.answered ⟨.experimental mac action parameters, (.ok data : Except ClientError Json)⟩)
      .cloudAcknowledged
  /-- The deadline expired during the refresh. -/
  | late {data : Json} : Settles mac action parameters
      (.answered ⟨.experimental mac action parameters, (.ok data : Except ClientError Json)⟩)
      .deliveryUncertain
  | unsure {error : ClientError}
      (doubtful : error = .cannotConnect ∨ error = .timeout ∨ error = .command true) :
      Settles mac action parameters
        (.answered ⟨.experimental mac action parameters, (.error error : Except ClientError Json)⟩)
        .deliveryUncertain
  | refused {error : ClientError} (final : error.definitive) : Settles mac action parameters
      (.answered ⟨.experimental mac action parameters, (.error error : Except ClientError Json)⟩)
      .rejected
  | failed : Settles mac action parameters (.answered ⟨.experimental mac action parameters,
      (.error .unexpected : Except ClientError Json)⟩) .awaitingResponse
  | expired : Settles mac action parameters (.interrupted Interrupt.deadline) .deliveryUncertain
  | cancelled : Settles mac action parameters (.interrupted Interrupt.cancel) .awaitingResponse

/-- The exchanges of a change whose client call is over. -/
def Proposal (mac action : String) (parameters : Payload) (k : Nat) (reply : Exchange face)
    (rest : List (Exchange face)) : List (Exchange face) :=
  .told (.proposed k action) :: .asked (.experimental mac action parameters) :: reply :: rest

/-- No change is proposed here. -/
def Unproposed (trace : List (Exchange face)) : Prop :=
  ∀ k action, .told (.proposed k action) ∉ trace

/-- Nothing is asked here but a refresh. -/
def Unrepeated (trace : List (Exchange face)) : Prop :=
  ∀ query, .asked query ∈ trace → query = Query.refresh

/-- What a task has brought about at its end: if it proposed a change, it called the client once. -/
def Reported (mac : String) : Operation → Nat → Except Failure Json → CloudScene → Prop
  | .experimental action parameters, task, _, scene => ∀ k name,
    .told (.proposed k name) ∈ exchanges task scene.log → name = action ∧ ∃ reply rest,
      exchanges task scene.log = Proposal mac action parameters k reply rest ∧ Unrepeated rest ∧
        Settles mac action parameters reply (scene.shared.feedbacks k).status
  | _, _, _, _ => True

section Locks

variable {careful : Prop} {task k : Nat} {action : String} {scene after : CloudScene}

/-- Others do not write into the feedback of a change that is not over. -/
theorem Change.untouched {actor : Option Nat} (change : Change careful actor scene after)
    (other : actor ≠ some task) (commanding : Commanding task k none action scene) :
    after.shared.feedbacks k = scene.shared.feedbacks k := by
  have mine : ∀ {teller : Nat}, some teller ≠ some task →
      scene.shared.commandLock.holder ≠ some teller := fun differs same => by
    rw [commanding.held] at same
    exact differs same.symm
  cases change with
  | @poll _ _ data on status =>
    show ((scene.shared.noted data on).judge data on).feedbacks k = scene.shared.feedbacks k
    rcases (scene.shared.noted data on).judge_cases data on with same | ⟨j, key, entry, found, -⟩
    · rw [same]
      rfl
    · -- A poll judges by the field of the last command, which a change has not.
      obtain ⟨last, field, -, -⟩ := Coordinator.answering_spec found
      have same : k = j := Option.some.inj (commanding.last.symm.trans last)
      subst same
      exact absurd (commanding.field.symm.trans field) (by simp)
  | issue held' begun admitted => exact absurd held' (mine other)
  | create held' plain waits => exact absurd held' (mine other)
  | fail held' last negative spares => exact absurd held' (mine other)
  | acknowledge held' => exact absurd held' (mine other)
  | cloudAcknowledge held' plain => exact absurd held' (mine other)
  | _ => rfl

theorem Path.untouched (path : Path careful (· ≠ some task) scene after)
    (commanding : Commanding task k none action scene) :
    after.shared.feedbacks k = scene.shared.feedbacks k := by
  induction path with
  | refl => rfl
  | tail earlier last ih =>
    obtain ⟨actor, other, change⟩ := last
    exact (change.untouched other (Path.commanding earlier commanding)).trans ih

end Locks

/-- The deadline handler will see this result. -/
def expired : Except Failure Json → Bool
  | .error .timeout | .error (.interrupted .deadline) => true
  | _ => false

/-- The task has proposed nothing, or its change is over up to the deadline handler. -/
structure Proposing (mac action : String) (parameters : Payload) (task : Nat)
    (operation : Operation) (result : Except Failure Json) (origin now : CloudScene) : Prop where
  going : Going False task operation origin now
  held : now.shared.commandLock.holder = some task
  settled : Unproposed (exchanges task now.log) ∨ mutationActions.contains action ∧
    ∃ k reply rest, Commanding task k none action now ∧ Unproposed (reply :: rest) ∧
      exchanges task now.log = Proposal mac action parameters k reply rest ∧ Unrepeated rest ∧
        Settles mac action parameters reply
          (if expired result then .deliveryUncertain else (now.shared.feedbacks k).status)

section Conduct

variable {mac action : String} {parameters : Payload} {task k : Nat} {operation : Operation}
  {origin now : CloudScene} {reply : Exchange face} {rest : List (Exchange face)}

theorem Proposing.unproposed {result : Except Failure Json}
    (going : Going False task operation origin now) (held : now.shared.commandLock.holder = some task)
    (silent : Unproposed (exchanges task now.log)) :
    Proposing mac action parameters task operation result origin now := ⟨going, held, .inl silent⟩

theorem Proposing.proposed {result : Except Failure Json} (k : Nat) (reply : Exchange face)
    (rest : List (Exchange face)) (going : Going False task operation origin now)
    (writes : mutationActions.contains action) (commanding : Commanding task k none action now)
    (silent : Unproposed (reply :: rest))
    (own : exchanges task now.log = Proposal mac action parameters k reply rest)
    (unrepeated : Unrepeated rest) (settles : Settles mac action parameters reply
      (if expired result then .deliveryUncertain else (now.shared.feedbacks k).status)) :
    Proposing mac action parameters task operation result origin now :=
  ⟨going, commanding.held, .inr ⟨writes, k, reply, rest, commanding, silent, own, unrepeated, settles⟩⟩

theorem writeFailure_concludes (writes : mutationActions.contains action) (error : ClientError)
    (going : Going False task operation origin now) (commanding : Commanding task k none action now)
    (own : exchanges task now.log = Proposal mac action parameters k (.answered
      ⟨.experimental mac action parameters, (.error error : Except ClientError Json)⟩) [])
    (waits : (now.shared.feedbacks k).status = .awaitingResponse) :
    (contract False).wp task (Proposing mac action parameters task operation)
      (Method.writeFailure k error) origin now := by
  have silent : Unproposed [.answered ⟨.experimental mac action parameters,
      (.error error : Except ClientError Json)⟩] := by simp [Unproposed]
  have marked : ∀ status text, status = .deliveryUncertain ∨ status = .rejected →
      Settles mac action parameters (.answered
        ⟨.experimental mac action parameters, (.error error : Except ClientError Json)⟩) status →
      Proposing mac action parameters task operation (.error (.homeAssistant text)) origin
        (now.change (·.setStatus k status)) := by
    intro status text negative settles
    apply Proposing.proposed k (.answered
      ⟨.experimental mac action parameters, (.error error : Except ClientError Json)⟩) []
      (going.change (.fail commanding.held commanding.last negative False.elim)) writes
      (commanding.setFeedback rfl rfl) silent own (by simp [Unrepeated])
    · have shown : ((now.shared.setStatus k status).feedbacks k).status = status :=
        congrArg CommandFeedback.status (now.shared.setFeedback_self k _)
      rw [Scene.change_shared, shown]
      exact settles
  cases error with
  | authentication => exact marked .rejected _ (.inr rfl) (.refused rfl)
  | cannotConnect => exact marked .deliveryUncertain _ (.inl rfl) (.unsure (.inl rfl))
  | command outcomeUnknown =>
    cases outcomeUnknown with
    | true => exact marked .deliveryUncertain _ (.inl rfl) (.unsure (.inr (.inr rfl)))
    | false => exact marked .rejected _ (.inr rfl) (.refused rfl)
  | protocol => exact marked .rejected _ (.inr rfl) (.refused rfl)
  | timeout => exact marked .deliveryUncertain _ (.inl rfl) (.unsure (.inr (.inl rfl)))
  | unexpected =>
    apply Proposing.proposed k (.answered
      ⟨.experimental mac action parameters, (.error .unexpected : Except ClientError Json)⟩) []
      going writes commanding silent own (by simp [Unrepeated])
    have still : (if expired (.error .unexpected) then .deliveryUncertain
        else (now.shared.feedbacks k).status) = FeedbackStatus.awaitingResponse := waits
    rw [still]
    exact .failed

/-- The refresh after an accepted change. -/
theorem refresh_concludes (writes : mutationActions.contains action) (data shown : Json)
    (going : Going False task operation origin now) (commanding : Commanding task k none action now)
    (own : exchanges task now.log = Proposal mac action parameters k (.answered
      ⟨.experimental mac action parameters, (.ok data : Except ClientError Json)⟩) [])
    (acknowledged : (now.shared.feedbacks k).status = .cloudAcknowledged) :
    (contract False).wp task (fun outcome => (contract False).wp task
        (Proposing mac action parameters task operation)
        (Process.chain (fun _ => Process.lift (.ok shown)) outcome))
      Method.requestRefresh origin now := by
  have asked : Going False task operation origin (now.emit (.asked task Query.refresh)) :=
    going.change (.event (by trivial))
  have closed : ∀ {reply'} later event result, (contract False).Awaiting task
      (now.emit (.asked task Query.refresh)) reply' later → event.task? = some task → event.silent →
      Unproposed event.exchange?.toList → Unrepeated event.exchange?.toList →
      Proposing mac action parameters task operation result later (later.emit event) := by
    intro reply' later event result awaiting mine silent quiet unrepeated
    have served := (Path.commanding awaiting.rely (commanding.emit _)).emit event
    apply Proposing.proposed k (.answered
      ⟨.experimental mac action parameters, (.ok data : Except ClientError Json)⟩)
      (.asked Query.refresh :: event.exchange?.toList) (asked.resumed awaiting event silent) writes served
    · intro j name member
      simp only [List.mem_cons, reduceCtorEq, false_or] at member
      exact quiet j name member
    · rw [exchanges_emit mine, awaiting.exchanges, exchanges_emit rfl, own]
      rfl
    · intro query member
      rcases List.mem_cons.mp member with same | later
      · cases same
        rfl
      · exact unrepeated query later
    · have same : (later.shared.feedbacks k).status = .cloudAcknowledged :=
        (congrArg CommandFeedback.status (Path.untouched awaiting.rely (commanding.emit _))).trans
          acknowledged
      rw [Scene.emit_shared, same]
      split
      · exact .late
      · exact .accepted
  apply Contract.wp_request asked.yields
  · intro answer later awaiting _
    exact closed later _ (.ok shown) awaiting rfl rfl (by simp [Unproposed, Event.exchange?])
      (by simp [Unrepeated, Event.exchange?])
  · intro reply reason later awaiting _
    exact closed later _ (.error (.interrupted reason)) awaiting rfl rfl
      (by simp [Unproposed, Event.exchange?]) (by simp [Unrepeated, Event.exchange?])

/-- The client call of a change, and what follows it. -/
theorem proposal_concludes (writes : mutationActions.contains action)
    (going : Going False task operation origin now) (commanding : Commanding task k none action now)
    (own : exchanges task now.log = [.told (.proposed k action)])
    (waits : (now.shared.feedbacks k).status = .awaitingResponse) :
    (contract False).wp task (Proposing mac action parameters task operation)
      (do
        match (← Method.await (.experimental mac action parameters) : Except ClientError Json) with
        | .ok result =>
          Method.change fun now => now.setFeedback k { now.feedbacks k with
            acknowledged := true, status := .cloudAcknowledged }
          Method.requestRefresh
          return Method.report action "cloud_acknowledged" result
        | .error error => Method.writeFailure k error : Method Json) origin now := by
  have asked : Going False task operation origin
      (now.emit (.asked task (Query.experimental mac action parameters))) :=
    going.change (.event (by trivial))
  have begun := commanding.emit (.asked task (Query.experimental mac action parameters))
  have trace : ∀ {reply} later event, (contract False).Awaiting task
      (now.emit (.asked task (Query.experimental mac action parameters))) reply later →
      event.task? = some task → exchanges task (later.emit event).log =
        .told (.proposed k action) :: .asked (.experimental mac action parameters) ::
          event.exchange?.toList := by
    intro reply later event awaiting mine
    rw [exchanges_emit mine, awaiting.exchanges, exchanges_emit rfl, own]
    rfl
  have still : ∀ {later}, Path False (· ≠ some task)
      (now.emit (.asked task (Query.experimental mac action parameters))) later →
      (later.shared.feedbacks k).status = .awaitingResponse := by
    intro later path
    rw [Path.untouched path begun]
    exact waits
  apply Contract.wp_then.mpr
  apply Contract.wp_request asked.yields
  · intro answer later awaiting _
    have resumed := asked.resumed awaiting
      (.delivered task ⟨.experimental mac action parameters, answer⟩) rfl
    have served := (Path.commanding awaiting.rely begun).emit
      (.delivered task ⟨.experimental mac action parameters, answer⟩)
    cases answer with
    | error error =>
      have waiting := still awaiting.rely
      exact writeFailure_concludes writes error resumed served (trace later _ awaiting rfl) waiting
    | ok data =>
      apply wp_change.mpr
      apply Contract.wp_then.mpr
      apply refresh_concludes writes data (Method.report action "cloud_acknowledged" data)
        (resumed.change (.cloudAcknowledge served.held served.field)) (served.setFeedback rfl rfl)
        (trace later _ awaiting rfl)
      exact congrArg CommandFeedback.status (later.shared.setFeedback_self k _)
  · intro reply reason later awaiting _
    have served := (Path.commanding awaiting.rely begun).emit (.interrupted task reason)
    apply Proposing.proposed k (.interrupted reason) [] (asked.resumed awaiting _ rfl) writes served
    · simp [Unproposed]
    · exact trace later _ awaiting rfl
    · simp [Unrepeated]
    · cases reason with
      | deadline => exact .expired
      | cancel =>
        have waiting := still awaiting.rely
        rw [Scene.emit_shared, waiting]
        exact .cancelled

theorem experimentalTransaction_concludes (going : Going False task operation origin now)
    (held : now.shared.commandLock.holder = some task) (alone : exchanges task now.log = []) :
    (contract False).wp task (Proposing mac action parameters task operation)
      (Method.experimentalTransaction mac action parameters) origin now := by
  have silent : Unproposed (exchanges task now.log) := by
    rw [alone]
    simp [Unproposed]
  unfold Method.experimentalTransaction
  apply wp_state.mpr
  split
  · exact .unproposed going held silent
  split
  · rename_i writes
    split
    · exact .unproposed going held silent
    have commanding : Commanding task now.shared.feedbackCount none action
        (now.change (·.newFeedback {
          action, status := .awaitingResponse, issuedAt := now.shared.wall
          deadline := now.shared.now + pendingSeconds })) := by
      refine ⟨held, rfl, ?_, ?_⟩
      · exact congrArg CommandFeedback.field (now.shared.setFeedback_self now.shared.feedbackCount _)
      · exact congrArg CommandFeedback.action (now.shared.setFeedback_self now.shared.feedbackCount _)
    apply wp_change.mpr
    apply wp_say.mpr
    apply proposal_concludes writes (going.change (.create held rfl rfl)) (commanding.emit _)
    · rw [exchanges_emit rfl, Scene.change_log, alone]
      rfl
    · exact congrArg CommandFeedback.status (now.shared.setFeedback_self now.shared.feedbackCount _)
  · have asked : Going False task operation origin
        (now.emit (.asked task (Query.experimental mac action parameters))) :=
      going.change (.event (by trivial))
    have quiet : ∀ {reply} later event, (contract False).Awaiting task
        (now.emit (.asked task (Query.experimental mac action parameters))) reply later →
        event.task? = some task → Unproposed event.exchange?.toList →
        Unproposed (exchanges task (later.emit event).log) := by
      intro reply later event awaiting mine unproposed
      rw [exchanges_emit mine, awaiting.exchanges, exchanges_emit rfl, alone]
      intro k name member
      simp only [Event.exchange?, Option.toList_some, List.nil_append, List.mem_append,
        List.mem_singleton, reduceCtorEq, false_or] at member
      exact unproposed k name member
    apply Contract.wp_then.mpr
    apply Contract.wp_request asked.yields
    · intro answer later awaiting _
      have resumed := asked.resumed awaiting
        (.delivered task ⟨.experimental mac action parameters, answer⟩) rfl
      have still : later.shared.commandLock.holder = some task := Path.holding awaiting.rely held
      have silent := quiet later
        (.delivered task ⟨.experimental mac action parameters, answer⟩) awaiting rfl
        (by simp [Unproposed, Event.exchange?])
      cases answer with
      | ok data => exact .unproposed resumed still silent
      | error error => exact .unproposed resumed still silent
    · intro reply reason later awaiting _
      exact .unproposed (asked.resumed awaiting _ rfl) (Path.holding awaiting.rely held :)
        (quiet later _ awaiting rfl (by simp [Unproposed, Event.exchange?]))

/-- What the task of a change keeps to its end. -/
def Finished (mac action : String) (parameters : Payload) (task : Nat) (operation : Operation)
    (result : Except Failure Json) (origin now : CloudScene) : Prop :=
  Going False task operation origin now ∧ Reported mac (.experimental action parameters) task result now

theorem Reported.unproposed {result : Except Failure Json} (silent : Unproposed (exchanges task now.log)) :
    Reported mac (.experimental action parameters) task result now :=
  fun k name member => absurd member (silent k name)

theorem Proposing.finishes {result : Except Failure Json} {result' : Except Failure Json}
    (proposing : Proposing mac action parameters task operation result origin now)
    (seen : expired result = false) : Reported mac (.experimental action parameters) task result' now := by
  rcases proposing.settled with silent | ⟨-, k, reply, rest, -, silent, own, unrepeated, settles⟩
  · exact .unproposed silent
  · intro j name member
    rw [own] at member
    simp only [Proposal, List.mem_cons, Exchange.told.injEq, reduceCtorEq, false_or] at member
    rw [seen] at settles
    rcases member with same | later
    · cases same
      exact ⟨rfl, reply, rest, own, unrepeated, settles⟩
    · exact absurd (List.mem_cons.mpr later) (silent j name)

/-- The deadline handler blames the change. -/
theorem Proposing.blamed {result : Except Failure Json} {result' : Except Failure Json}
    (proposing : Proposing mac action parameters task operation result origin now)
    (seen : expired result) : Reported mac (.experimental action parameters) task result'
      (now.change (·.blame action)) := by
  rcases proposing.settled with silent | ⟨-, k, reply, rest, commanding, silent, own, unrepeated, settles⟩
  · exact .unproposed silent
  · intro j name member
    rw [Scene.change_log, own] at member
    simp only [Proposal, List.mem_cons, Exchange.told.injEq, reduceCtorEq, false_or] at member
    rcases member with same | later
    · cases same
      refine ⟨rfl, reply, rest, own, unrepeated, ?_⟩
      have blamed : now.shared.blame action = now.shared.setStatus k .deliveryUncertain := by
        simp [Coordinator.blame, commanding.last, commanding.action]
      rw [Scene.change_shared, blamed, Coordinator.setStatus, Coordinator.setFeedback_self]
      simpa [seen] using settles
    · exact absurd (List.mem_cons.mpr later) (silent j name)

theorem Proposing.setDeadline {result : Except Failure Json} (deadline : Option ℚ)
    (proposing : Proposing mac action parameters task operation result origin now) :
    Proposing mac action parameters task operation result origin
      (now.change fun s => s.setDeadline task deadline) := by
  refine ⟨?_, proposing.held, ?_⟩
  · exact proposing.going.change (.aside (Function.update now.shared.deadlines task deadline)
      now.shared.commandTasks now.shared.closing now.shared.experimental)
  · rcases proposing.settled with silent | ⟨writes, k, reply, rest, commanding, settled⟩
    · exact .inl silent
    · exact .inr ⟨writes, k, reply, rest,
        ⟨commanding.held, commanding.last, commanding.field, commanding.action⟩, settled⟩

/-- A change under the command lock, with its deadline handler. -/
theorem deadline_finishes (going : Going False task operation origin now)
    (held : now.shared.commandLock.holder = some task) (alone : exchanges task now.log = []) :
    (contract False).wp task (fun result origin now =>
        Finished mac action parameters task operation result origin now ∧
          now.shared.commandLock.holder = some task)
      (Process.attempt
        (Method.withTimeout task (Method.experimentalTransaction mac action parameters)) fun
        | .timeout => do
          if mutationActions.contains action then
            Method.change (·.blame action)
            Process.raise (.homeAssistant "Experimental action deadline expired; it was not retried")
          else Process.raise (.homeAssistant "Experimental data request deadline expired")
        | error => Process.raise error) origin now := by
  have timed := going.change (.aside (Function.update now.shared.deadlines task
    (some (now.shared.now + commandTimeoutSeconds))) now.shared.commandTasks now.shared.closing
    now.shared.experimental)
  apply Contract.wp_attempt.mpr
  apply wp_change.mpr
  apply Contract.wp_attempt.mpr
  apply Contract.wp_ensure.mpr
  apply Contract.wp_mono (experimentalTransaction_concludes timed held alone)
  intro result origin now proposing
  have proposing := proposing.setDeadline none
  have passes : ∀ result' : Except Failure Json, expired result = false →
      Finished mac action parameters task operation result' origin
        (now.change fun s => s.setDeadline task none) ∧ now.shared.commandLock.holder = some task :=
    fun _ seen => ⟨⟨proposing.going, proposing.finishes seen⟩, proposing.held⟩
  have handled : expired result → (contract False).wp task (fun result origin now =>
      Finished mac action parameters task operation result origin now ∧
        now.shared.commandLock.holder = some task)
      (if mutationActions.contains action then do
          Method.change (·.blame action)
          Process.raise (.homeAssistant "Experimental action deadline expired; it was not retried")
        else Process.raise (.homeAssistant "Experimental data request deadline expired") : Method Json)
      origin (now.change fun s => s.setDeadline task none) := by
    intro seen
    split
    · refine ⟨⟨?_, proposing.blamed seen⟩, ?_⟩
      · exact (proposing.going.blame proposing.held False.elim).1
      · exact (proposing.going.blame proposing.held False.elim).2
    · rename_i reads
      refine ⟨⟨proposing.going, ?_⟩, proposing.held⟩
      rcases proposing.settled with silent | ⟨writes, -⟩
      · exact .unproposed silent
      · exact absurd writes reads
  cases result with
  | ok value => exact passes _ rfl
  | error failure =>
    cases failure with
    | timeout => exact handled rfl
    | interrupted reason =>
      cases reason with
      | deadline => exact handled rfl
      | cancel => exact passes _ rfl
    | _ => exact passes _ rfl

theorem lockedExperimental_finishes (going : Going False task operation origin now)
    (alone : exchanges task now.log = []) :
    (contract False).wp task (Finished mac action parameters task operation)
      (Method.lockedExperimental mac action parameters task) origin now := by
  apply Practice.wp_withLock (fun scene => exchanges task scene.log = [])
    (fun scene => exchanges task scene.log = []) going (fun _ _ => rfl) (fun _ => .enqueue)
    (fun _ ready => .acquire ready) alone
  · intro scene after _ alone awaiting
    rw [awaiting.exchanges, alone]
  · intro scene alone
    rw [exchanges_emit rfl, alone]
    rfl
  · intro scene _ alone _
    exact alone
  · intro origin now alone going held
    exact deadline_finishes going held alone
  · intro result origin now finished
    exact ⟨finished.1.1.change (.release finished.2), finished.1.2⟩
  · intro reason later alone going _
    refine ⟨going.change .abandon, .unproposed ?_⟩
    rw [Scene.change_log, exchanges_emit rfl, alone]
    simp [Unproposed, Event.exchange?]

theorem experimentalAction_finishes (going : Going False task operation origin now)
    (alone : exchanges task now.log = []) :
    (contract False).wp task (Finished mac action parameters task operation)
      (Method.experimentalAction mac action parameters task) origin now := by
  have silent : Unproposed (exchanges task now.log) := by
    rw [alone]
    simp [Unproposed]
  unfold Method.experimentalAction
  apply wp_state.mpr
  split
  · exact ⟨going, .unproposed silent⟩
  unfold Method.tracked
  apply wp_state.mpr
  split
  · exact ⟨going, .unproposed silent⟩
  · apply wp_change.mpr
    apply Contract.wp_ensure.mpr
    have tracked := going.change (.aside now.shared.deadlines (now.shared.commandTasks ++ [task])
      now.shared.closing now.shared.experimental)
    apply Contract.wp_mono (lockedExperimental_finishes tracked alone)
    intro result origin now finished
    exact ⟨finished.1.change (.aside now.shared.deadlines (now.shared.commandTasks.filter (· ≠ task))
      now.shared.closing now.shared.experimental), finished.2⟩

end Conduct

section Runs

variable {mac : String} {machine : CloudMachine} {task : Nat} {operation : Operation}
  {past : List CloudEvent} {result : Except Failure Json}

/-- Whenever a method of the coordinator ends, the feedback of its change is settled. -/
theorem run_settles (run : Reachable (coordinator mac) machine)
    (ended : machine.scene.log = past ++ [.ended task result])
    (begun : .started task operation ∈ past) :
    Reported mac operation task result { machine.scene with log := past } := by
  have brings : ∀ operation task scene, (contract False).invariant scene →
      (contract False).starts scene operation → Foreign task scene.log →
      (contract False).wp task (fun result origin now => (contract False).ends task result origin now ∧
        Reported mac operation task result now) (program mac operation task) scene
        (scene.emit (.started task operation)) := by
    intro operation task scene sound allowed fresh
    have begun : (practice False).change (some task) scene (scene.emit (.started task operation)) :=
      (practice False).started trivial fresh
    have going : Going False task operation scene (scene.emit (.started task operation)) :=
      ⟨sound, .single ⟨some task, rfl, begun⟩, List.mem_append_right _ (List.mem_singleton_self _)⟩
    have meets := program_meets mac operation task scene sound allowed fresh
    cases operation with
    | experimental action parameters =>
      have alone : exchanges task (scene.emit (.started task
          (.experimental action parameters))).log = [] := by
        rw [exchanges_emit rfl, exchanges_foreign fresh]
        rfl
      apply Contract.wp_mono (experimentalAction_finishes going alone)
      intro result origin now finished
      exact ⟨finished.1.ends trivial, finished.2⟩
    | refresh => exact Contract.wp_mono meets fun _ _ _ ends => ⟨ends, trivial⟩
    | command order => exact Contract.wp_mono meets fun _ _ _ ends => ⟨ends, trivial⟩
    | unload => exact Contract.wp_mono meets fun _ _ _ ends => ⟨ends, trivial⟩
  apply Contract.concludes brings ?_ ?_ ended begun
  · exact fun s => ∃ now wall, s = Coordinator.start now wall
  · rintro shared ⟨now, wall, rfl⟩
    exact .start
  · apply run.unchecked.weaken
    intro machine label met
    exact timely_allowed met.1 False.elim

end Runs

section Theorems

/-- What the coordinator catches. -/
def AlorairError.caught (error : AlorairError) : ClientError :=
  match error.kind with
  | .authentication => .authentication
  | .cannotConnect => .cannotConnect
  | .protocol => .protocol
  | .command => .command error.outcomeUnknown

/-- How the coordinator learns the end of its client call. -/
def reception (mac action : String) (parameters : Payload) : Except Problem Json → Exchange face
  | .ok data => .answered ⟨.experimental mac action parameters, (.ok data : Except ClientError Json)⟩
  | .error (.error error) =>
    .answered ⟨.experimental mac action parameters, (.error error.caught : Except ClientError Json)⟩
  | .error (.interrupted reason) => .interrupted reason
  | .error .recursion =>
    .answered ⟨.experimental mac action parameters, (.error .unexpected : Except ClientError Json)⟩

/-- A feedback that does not deny what may have been executed. Only a cancelled task leaves
it as it was. -/
def Admits (result : Except Problem Json) (status : FeedbackStatus) : Prop :=
  status = .cloudAcknowledged ∨ status = .deliveryUncertain ∨
    status = .awaitingResponse ∧ result = .error (.interrupted .cancel)

section Admission

variable {mac action : String} {parameters : Payload} {result : Except Problem Json} {status : FeedbackStatus}

/-- The feedback after a client call that returns, that leaves the outcome open or that is
interrupted. -/
theorem Settles.admits (settles : Settles mac action parameters (reception mac action parameters result) status)
    (honest : Accepting result ∨ LeavesOpen result ∨ ∃ reason, result = .error (.interrupted reason)) :
    Admits result status := by
  rcases honest with ⟨entries, rfl, -⟩ | ⟨error, rfl, command, unknown⟩ | ⟨reason, rfl⟩
  · cases settles with
    | accepted => exact .inl rfl
    | late => exact .inr (.inl rfl)
  · simp only [reception, AlorairError.caught, command, unknown] at settles
    cases settles with
    | unsure doubtful => exact .inr (.inl rfl)
    | refused final => cases final
  · cases settles with
    | expired => exact .inr (.inl rfl)
    | cancelled => exact .inr (.inr ⟨rfl, rfl⟩)

/-- A `RecursionError` leaves the feedback as it was. -/
theorem Settles.broken (settles : Settles mac action parameters
    (reception mac action parameters (.error .recursion)) status) : ¬ Admits (.error .recursion) status := by
  cases settles with
  | unsure doubtful => rcases doubtful with impossible | impossible | impossible <;> cases impossible
  | refused final => cases final
  | failed => simp [Admits]

end Admission

/-- Whatever the vendor replies to the requests of an accepted change, each is sent at most
once and in order. Neither the client nor the coordinator, in any of its runs, denies a change
that may have been executed, exactly if `json.loads` survives every reply from its first command on. -/
theorem experimental_change_reported (library : Library) (account : Account) (clientTask : Nat)
    (mac action : String) (parameters : Payload) (change : Mutation) {state final : Client}
    {trace : List (Exchange clientFace)} {result : Except Problem Json}
    (accepted : experimentalParameters action (parameters.map fun entry => (entry.1, entry.2.json)) =
      .ok (.mutation change))
    (converses : Converses (Call.experimentalAction library account clientTask mac action
      (parameters.map fun entry => (entry.1, entry.2.json))) state trace result final) :
    Delivery library account change trace result ∧
      (Honest library.loads trace result ↔ Survived library trace) ∧
      ∀ (machine : CloudMachine) past task outcome k name, Reachable (coordinator mac) machine →
        machine.scene.log = past ++ [.ended task outcome] →
        .started task (.experimental action parameters) ∈ past →
        .told (.proposed k name) ∈ exchanges task past → ∃ reply rest,
          exchanges task past = Proposal mac action parameters k reply rest ∧ Unrepeated rest ∧
            (reply = reception mac action parameters result → PerhapsExecuted library.loads trace →
              (Admits result (machine.scene.shared.feedbacks k).status ↔ Survived library trace)) := by
  have course := experimentalAction_course accepted converses
  have breaks := Call.experimentalAction_breaks converses
  refine ⟨course.toDelivery, course.honest_iff breaks, ?_⟩
  intro machine past task outcome k name run ended begun told
  obtain ⟨rfl, reply, rest, own, unrepeated, settles⟩ := run_settles run ended begun k name told
  refine ⟨reply, rest, own, unrepeated, fun received executed => ?_⟩
  subst received
  refine ⟨fun admits => ?_, fun survived => settles.admits (course.honest survived executed)⟩
  by_contra lost
  obtain ⟨rfl, -⟩ := course.lost breaks lost
  exact settles.broken admits

/-- A session in which the device is known. -/
def lostState : Client :=
  { clock := "", token := some "t", ownerId := some "7"
    devices := [("AABBCCDDEE0F", [("deviceNum", .text "aabbccddee0f"), ("id", .int 5)])] }

def atticParameters : Payload := [("label", .text "attic")]

/-- Every lock is free, and it is the turn of this task. -/
def lostFree : Client :=
  ((lostState.putLoginLock ⟨none, [0]⟩).putDevicesLock ⟨none, [0]⟩).putCommandLock ⟨none, [0]⟩

/-- The device is looked up, and this is the reply. -/
def lostLook (reply : HttpReply) : List (Turn clientFace) :=
  [.grant lostFree, .grant lostFree, .grant lostFree,
    .answer ⟨.http (.deviceDetail "5") (some "t") none, reply⟩ lostFree]

/-- A command is acknowledged. -/
def lostSend (endpoint : Endpoint) (payload : Payload) : Turn clientFace :=
  let reply : HttpReply := .answered 200 (some doneBody.1)
  .answer ⟨.http endpoint (some "t") (some payload), reply⟩ lostFree

def lostDetail : Dict := [("id", .int 5), ("deviceNum", .text "aabbccddee0f"), ("userId", .int 7)]

def lostError : AlorairError := commandError ("Experimental mutation was partially acknowledged; " ++
  "final state is uncertain and no request was replayed.") true

/-- A poll, and a change whose client call ends with this error. -/
def lostSteps (action : String) (error : ClientError) : List (Step face Operation) :=
  [.start .refresh, .answer 0 ⟨.status "AABBCCDDEE0F",
      (.ok (exampleData "2001-09-09T01:46:40Z" "01" "00") : Except ClientError Dict)⟩, .resume 0,
    .drift (.setOption true), .start (.experimental action atticParameters),
    .answer 1 ⟨.experimental "AABBCCDDEE0F" action atticParameters,
      (.error error : Except ClientError Json)⟩, .resume 1]

/-- What happens in these steps before the end of the change. -/
def lostPast (action : String) (error : ClientError) : List CloudEvent :=
  let polled := exampleData "2001-09-09T01:46:40Z" "01" "00"
  let lost : Except ClientError Json := .error error
  [.started 0 .refresh, .asked 0 (.status "AABBCCDDEE0F"),
    .answered 0 ⟨.status "AABBCCDDEE0F", (.ok polled : Except ClientError Dict)⟩,
    .delivered 0 ⟨.status "AABBCCDDEE0F", (.ok polled : Except ClientError Dict)⟩,
    .told 0 (.polled polled 0 false), .ended 0 (.ok .null), .drifted (.setOption true),
    .started 1 (.experimental action atticParameters), .told 1 (.proposed 0 action),
    .asked 1 (.experimental "AABBCCDDEE0F" action atticParameters),
    .answered 1 ⟨.experimental "AABBCCDDEE0F" action atticParameters, lost⟩,
    .delivered 1 ⟨.experimental "AABBCCDDEE0F" action atticParameters, lost⟩]

theorem experimental_change_reported_example : ∃ trace machine,
    PerhapsExecuted exampleVendor.loads trace ∧ Survived exampleVendor trace ∧
      Delivery exampleVendor ⟨"", ""⟩ (.location "attic") trace (.error (.error lostError)) ∧
        Reachable (coordinator "AABBCCDDEE0F") machine ∧
          Admits (.error (.error lostError)) (machine.scene.shared.feedbacks 0).status := by
  have conversation : ((Call.experimentalAction exampleVendor ⟨"", ""⟩ 0 "AABBCCDDEE0F" "location"
      (atticParameters.map fun entry => (entry.1, entry.2.json))).replay
        (.grant lostFree :: lostLook (.answered 200 (some detailBody.1)) ++
          lostSend .updateLocation [("id", .int 5), ("location", .text "attic")] :: lostLook .failed) lostState).map
        (fun rest => (rest.1.filterMap (commandReply exampleVendor.loads), rest.2.1)) =
      some ([((.updateLocation, [("id", .int 5), ("location", .text "attic")]), .ok .null)],
        .error (.error lostError)) := by rfl
  obtain ⟨⟨trace, result, final⟩, replayed, same⟩ := Option.map_eq_some_iff.mp conversation
  obtain ⟨replies, rfl⟩ := Prod.mk.inj same
  have replied : ((.updateLocation, [("id", .int 5), ("location", .text "attic")]), .ok .null) ∈
      trace.filterMap (commandReply exampleVendor.loads) := by
    rw [replies]
    exact List.mem_singleton_self _
  have executed : PerhapsExecuted exampleVendor.loads trace := ⟨_, _, replied, .inl ⟨.null, rfl⟩⟩
  have survived : Survived exampleVendor trace := by
    intro past exchange future split _ nested
    have broken := (Call.experimentalAction_breaks (.of_replay replayed)).mpr ⟨exchange, by simp [split], nested⟩
    cases broken
  have log : ((coordinator "AABBCCDDEE0F").follow exampleMachine (lostSteps "location" (.command true))).map
      (·.scene.log) = some (lostPast "location" (.command true) ++ [.ended 1 (.error (.homeAssistant
        "Experimental action outcome is uncertain; it was not retried"))]) := by
    with_unfolding_all rfl
  obtain ⟨machine, followed, log⟩ := Option.map_eq_some_iff.mp log
  have run : Reachable (coordinator "AABBCCDDEE0F") machine :=
    Run.follow (.start ⟨_, ⟨0, 1000000000, rfl⟩, rfl⟩) (fun _ _ => trivial) followed
  obtain ⟨delivery, -, reported⟩ := experimental_change_reported exampleVendor ⟨"", ""⟩ 0 "AABBCCDDEE0F"
    "location" atticParameters (.location "attic") rfl (.of_replay replayed)
  obtain ⟨reply, rest, own, -, admits⟩ := reported machine _ 1 _ 0 "location" run log
    (by simp [lostPast]) (List.mem_cons_self ..)
  refine ⟨trace, machine, executed, survived, delivery, run, (admits ?_ executed).mpr survived⟩
  have proposal : [_, _, _] = Proposal _ _ _ 0 reply rest := own
  cases proposal
  rfl

/-- Arrays that are nested so deeply. -/
def nestedReply (depth : Nat) : HttpReply := .answered 200 (some (List.replicate depth 91))

theorem nestedReply_overflows {depth : Nat} (deep : 100000 ≤ depth) (small : depth ≤ maxResponseBytes) :
    overflows exampleVendor.deep (nestedReply depth) = true := by
  have objects : ∀ body ∈ [loginBody, userBody, listBody, detailBody, doneBody, expiredBody],
      body.1.head? = some 123 := by decide
  have unknown : [loginBody, userBody, listBody, detailBody, doneBody, expiredBody].find?
      (·.1 = List.replicate depth 91) = none := by
    refine List.find?_eq_none.mpr fun body member same => ?_
    have heads := objects body member
    rw [of_decide_eq_true same, List.head?_replicate, if_neg (by omega)] at heads
    cases heads
  have raised : exampleVendor.parse (List.replicate depth 91) = .error .recursionError := by
    simp [exampleVendor, exampleLibrary, unknown, deep]
  simp [overflows, nestedReply, Library.deep, raised, small]

/-- The requests of the rename. -/
def renameFirst : Endpoint × Payload :=
  (.control, [("deviceId", .int 5), ("deviceNum", .text "aabbccddee0f"), ("frameType", .text "29"),
    ("data", .text "attic")])

def renameSecond : Endpoint × Payload := (.updateName, [("id", .int 5), ("name", .text "attic")])

/-- A request of the rename, and its reply. -/
def renameSent (request : Endpoint × Payload) (reply : HttpReply) : List (Exchange clientFace) :=
  [.asked (.http request.1 (some "t") (some request.2)), .answered ⟨.http request.1 (some "t") (some request.2), reply⟩]

/-- The first request of a rename is acknowledged, and the reply to the second one cannot be read. -/
theorem rename_change {reply : HttpReply} (deep : overflows exampleVendor.deep reply = true) :
    Converses (Call.experimentalMutation exampleVendor ⟨"", ""⟩ 0 "AABBCCDDEE0F" lostDetail (.rename "attic"))
      lostFree (renameSent renameFirst (.answered 200 (some doneBody.1)) ++ renameSent renameSecond reply)
        (.error .recursion) lostFree := by
  have first : (Call.sendAll exampleVendor [renameFirst]).replay [lostSend renameFirst.1 renameFirst.2] lostFree =
      some (renameSent renameFirst (.answered 200 (some doneBody.1)), .ok (), lostFree) := by rfl
  have second : Converses (Call.sendAll exampleVendor [renameSecond]) lostFree (renameSent renameSecond reply)
      (.error .recursion) lostFree := by
    refine converses_get.mpr (converses_then.mpr
      ⟨.error .recursion, lostFree, _, [], (List.append_nil _).symm, ?_, .done⟩)
    refine converses_then.mpr ⟨.ok reply, lostFree, _, [], (List.append_nil _).symm,
      converses_request.mpr (.inl ⟨_, rfl, rfl⟩), ?_⟩
    simp only [Process.chain]
    rw [if_pos deep]
    exact .done
  refine converses_get.mpr (converses_then.mpr ⟨.ok (renameFirst, [renameSecond], none), lostFree, [], _, rfl,
    converses_done.mpr ⟨rfl, rfl, rfl⟩, ?_⟩)
  refine converses_then.mpr ⟨.ok (), lostFree, _, _, rfl, .of_replay first, ?_⟩
  refine converses_attempt.mpr ⟨.error .recursion, lostFree, _, [], (List.append_nil _).symm, ?_, .done⟩
  exact converses_then.mpr ⟨.error .recursion, lostFree, _, [], (List.append_nil _).symm, second, .done⟩

theorem rename_breaks {reply : HttpReply} (deep : overflows exampleVendor.deep reply = true) :
    ∃ look final, Converses (Call.experimentalAction exampleVendor ⟨"", ""⟩ 0 "AABBCCDDEE0F" "rename"
      (atticParameters.map fun entry => (entry.1, entry.2.json))) lostState
        (look ++ (renameSent renameFirst (.answered 200 (some doneBody.1)) ++ renameSent renameSecond reply))
          (.error .recursion) final := by
  have looked : ((Call.ownedDevice exampleVendor ⟨"", ""⟩ 0 "AABBCCDDEE0F").replay
      (lostLook (.answered 200 (some detailBody.1)))
        (Client.putCommandLock (lostFree.commandLock.acquire 0) lostFree)).map Prod.snd =
          some (.ok lostDetail, lostFree) := by rfl
  obtain ⟨⟨look, _, _⟩, found, same⟩ := Option.map_eq_some_iff.mp looked
  cases same
  have free : lostFree.commandLock.ready 0 = true := rfl
  refine ⟨look, Client.putCommandLock lostFree.commandLock.release lostFree, converses_then.mpr
    ⟨.ok (.mutation (.rename "attic")), lostState, [], _, rfl, converses_done.mpr ⟨rfl, rfl, rfl⟩, ?_⟩⟩
  refine converses_then.mpr ⟨.ok "AABBCCDDEE0F", lostState, [], _, rfl, converses_done.mpr ⟨rfl, rfl, rfl⟩, ?_⟩
  exact converses_locked free
    (converses_then.mpr ⟨.ok lostDetail, lostFree, look, _, rfl, .of_replay found, rename_change deep⟩)

/-- A rename whose first request is acknowledged ends with a `RecursionError` if the reply to the
second one is nested too deeply, and its feedback goes on awaiting a response. -/
theorem experimental_change_unreported : ∃ trace final machine past outcome,
    Converses (Call.experimentalAction exampleVendor ⟨"", ""⟩ 0 "AABBCCDDEE0F" "rename"
      (atticParameters.map fun entry => (entry.1, entry.2.json))) lostState trace (.error .recursion) final ∧
    AcknowledgedIn exampleVendor.loads trace renameFirst ∧
    ¬ Honest exampleVendor.loads trace (.error .recursion) ∧
    Reachable (coordinator "AABBCCDDEE0F") machine ∧ machine.scene.log = past ++ [.ended 1 outcome] ∧
    .started 1 (.experimental "rename" atticParameters) ∈ past ∧
    exchanges 1 past = Proposal "AABBCCDDEE0F" "rename" atticParameters 0
      (reception "AABBCCDDEE0F" "rename" atticParameters (.error .recursion)) [] ∧
    (machine.scene.shared.feedbacks 0).status = .awaitingResponse := by
  have deep : overflows exampleVendor.deep (nestedReply 200000) = true :=
    nestedReply_overflows (by decide) (by decide)
  obtain ⟨look, final, converses⟩ := rename_breaks deep
  have replied : commandReply exampleVendor.loads (.answered ⟨.http renameFirst.1 (some "t") (some renameFirst.2),
      .answered 200 (some doneBody.1)⟩) = some (renameFirst, .ok .null) := by rfl
  have acknowledged : AcknowledgedIn exampleVendor.loads (look ++ (renameSent renameFirst
      (.answered 200 (some doneBody.1)) ++ renameSent renameSecond (nestedReply 200000))) renameFirst := by
    refine ⟨.null, List.mem_filterMap.mpr ⟨_, ?_, replied⟩⟩
    exact List.mem_append_right _ (List.mem_append_left _ (List.mem_cons_of_mem _ (List.mem_cons_self ..)))
  have log : ((coordinator "AABBCCDDEE0F").follow exampleMachine (lostSteps "rename" .unexpected)).map
      (fun machine => (machine.scene.log, (machine.scene.shared.feedbacks 0).status)) =
        some (lostPast "rename" .unexpected ++ [.ended 1 (.error .unexpected)], .awaitingResponse) := by
    with_unfolding_all rfl
  obtain ⟨machine, followed, same⟩ := Option.map_eq_some_iff.mp log
  obtain ⟨log, status⟩ := Prod.mk.inj same
  have run : Reachable (coordinator "AABBCCDDEE0F") machine :=
    Run.follow (.start ⟨_, ⟨0, 1000000000, rfl⟩, rfl⟩) (fun _ _ => trivial) followed
  refine ⟨_, final, machine, _, _, converses, acknowledged, fun honest => ?_, run, log, by simp [lostPast], rfl,
    status⟩
  obtain ⟨data, member⟩ := acknowledged
  rcases honest ⟨_, _, member, .inl ⟨data, rfl⟩⟩ with ⟨entries, same, -⟩ | ⟨error, same, -⟩ | ⟨reason, same⟩ <;>
    cases same

end Theorems

end AlorairLite.Cloud
