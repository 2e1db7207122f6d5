import AlorairLite.Local.Loop

/-! The feedback of the last command: in every run, from the issue of a command to the next one, it keeps
to what became of the client call. -/

namespace AlorairLite.Local

open Async

/-- The command `k` was issued in this state, where its client call gets the next number, and no
other one was issued since. -/
structure IssuedIn (config : Config) (origin : Coordinator) (k : Nat) (u : Coordinator) : Prop where
  reached : Reachable (coordinator config) origin
  invokes : origin.invokes (.proceed k) = some (origin.orders k).order.request
  onward : ∃ issued, Coordinator.step config origin (.proceed k) = some issued ∧
    Onward (coordinator config) (fun state label => state.invokes label = none) issued u

/-- The end of a client call that a verdict rests on. -/
def Grounds (log : List Event) (c : Nat) (order : Order) (issued : ℚ) : Verdict → Prop
  | .reported status => .ended c (.returned status) ∈ log ∧ issued ≤ status.receivedMonotonic ∧
    status.reading order.opcode = order.request.setting
  | .uncertain => .ended c .cancelled ∈ log ∨ ∃ error, .ended c (.raised error) ∈ log ∧ error.isUncertain
  | .rejected => ∃ error, .ended c (.raised error) ∈ log ∧ error.isUncertain = false ∧
    ∀ text, error ≠ .valueError text
  | .failed _ => True

/-- The feedback was left open, and perhaps its time is over. -/
def Waits (feedback : Feedback) (open_ : FeedbackStatus) (now : ℚ) : Prop :=
  feedback.status = open_ ∨ feedback.status = .notObserved ∧ feedback.deadline ≤ now

/-- The feedback of a command with this verdict. -/
def Marks (feedback : Feedback) (now : ℚ) : Verdict → Prop
  | .reported status => feedback.status = .deviceReported ∧ feedback.acknowledged ∧
    feedback.reportedAt = some status.receivedAt
  | .uncertain => Waits feedback .deliveryUncertain now
  | .rejected => feedback.status = .rejected
  | .failed _ => Waits feedback .awaitingFeedback now

/-- Where the command stands. -/
inductive Stands (u : Coordinator) (k c : Nat) (order : Order) (issued : ℚ) (feedback : Feedback) : Prop where
  | calling (calling : (u.orders k).phase = .calling c) (silent : ∀ verdict, .concluded k verdict ∉ u.log)
      (waits : Waits feedback .awaitingFeedback u.client.now)
  | concluded {verdict : Verdict} (done : (u.orders k).phase.isDone)
      (listed : ∀ other, .concluded k other ∈ u.log → other = verdict)
      (grounds : Grounds u.client.log c order issued verdict) (marks : Marks feedback u.client.now verdict)

/-- The last command, its client call and its feedback. -/
structure Noted (u : Coordinator) (k c : Nat) (order : Order) (issued : ℚ) (feedback : Feedback) : Prop where
  recorded : u.lastCommand = some feedback
  field : feedback.field = order.key
  action : feedback.action = order.action
  requested : feedback.requested = order.wanted
  deadline : feedback.deadline = issued + pendingSeconds
  own : (u.orders k).order = order ∧ (u.orders k).issued = issued
  called : ∃ session, .called c order.request session ∈ u.client.log
  known : k < u.orderCount
  alone : ∀ j d, (u.orders j).phase = .calling d → j = k ∧ d = c
  window : ∀ entry, u.pending order.key = some entry → entry.deadline = issued + pendingSeconds
  clear : feedback.status = .deviceReported ∨ feedback.status = .rejected → u.pending order.key = none
  stands : Stands u k c order issued feedback

section Fields

variable (u : Coordinator) (k : Nat)

theorem onStatus_lastCommand (status : DeviceStatus) : (u.onStatus status).lastCommand = u.lastCommand := by
  rw [Coordinator.onStatus_eq]
  split
  · have entered : (u.enterSession status).lastCommand = u.lastCommand := by
      unfold Coordinator.enterSession
      split <;> rfl
    simp only [Coordinator.publish, apply_ite Coordinator.lastCommand, ite_self, entered]
  · rfl

theorem observe_lastCommand (entry : Callback) : (u.observe entry).lastCommand = u.lastCommand := by
  simp only [Coordinator.observe, Coordinator.record]
  split
  · exact onStatus_lastCommand _ _
  · unfold Coordinator.onDisconnect
    split <;> rfl

theorem confirmReport_lastCommand (order : Order) (status : DeviceStatus) :
    (u.confirmReport order status).lastCommand = u.lastCommand.map fun feedback => { feedback with
      status := .deviceReported, acknowledged := true, reportedAt := some status.receivedAt } := by
  simp only [Coordinator.confirmReport]
  split
  · rfl
  · exact onStatus_lastCommand _ _

/-- Whatever the verdict, there is a feedback after it if there was one before. -/
theorem conclude_lastCommand (verdict : Verdict) :
    (u.conclude k verdict).lastCommand = none ↔ u.lastCommand = none := by
  cases verdict with
  | reported status =>
    have same : (u.conclude k (.reported status)).lastCommand =
        (u.confirmReport (u.orders k).order status).lastCommand := rfl
    rw [same, confirmReport_lastCommand, Option.map_eq_none_iff]
  | uncertain | rejected => simp [Coordinator.conclude, Coordinator.setFeedback]
  | failed error => rfl

/-- The watchdog closes a feedback only behind the deadline of what is pending for its key. -/
theorem watch_lastCommand {feedback : Feedback} (found : u.lastCommand = some feedback) :
    u.watch.lastCommand = some feedback ∨ ∃ entry, u.pending feedback.field = some entry ∧
      entry.deadline ≤ u.client.now ∧ u.watch.lastCommand = some { feedback with status := .notObserved } := by
  simp only [Coordinator.watch, apply_ite Coordinator.lastCommand, ite_self, found, Option.map_some]
  rcases Option.eq_none_or_eq_some (u.pending feedback.field) with pending | ⟨entry, pending⟩
  · simp [pending]
  · by_cases late : entry.deadline ≤ u.client.now
    · exact .inr ⟨entry, pending, late, by simp [pending, late]⟩
    · exact .inl (by simp [pending, late])

theorem watch_absent (absent : u.lastCommand = none) : u.watch.lastCommand = none := by
  simp only [Coordinator.watch, apply_ite Coordinator.lastCommand, ite_self, absent, Option.map_none]

theorem watch_pending {key : Key} {entry : PendingCommand} (left : u.watch.pending key = some entry) :
    u.pending key = some entry := by
  simp only [Coordinator.watch, apply_ite Coordinator.pending, ite_self] at left
  rcases Option.eq_none_or_eq_some (u.pending key) with pending | ⟨other, pending⟩
  · simp [pending] at left
  · by_cases late : other.deadline ≤ u.client.now
    · simp [pending, late] at left
    · simpa [pending, late] using left

end Fields

section Ends

variable {config : Config} {s after : State} {request : Request} {c : Nat} {outcome : Outcome}

theorem callEnd_eq_some (ended : s.callEnd c = some outcome) : (s.calls c).caller = .ended outcome := by
  unfold State.callEnd at ended
  split at ended
  · rename_i held
    cases ended
    exact held
  · cases ended

/-- A call that ends before it suspends is refused. -/
theorem call_refused (ended : (s.call config request).callEnd s.callCount = some outcome) :
    ∃ error, outcome = .raised error := by
  have held := callEnd_eq_some ended
  simp only [State.call] at held
  split at held
  · simp only [State.refuseCall, Function.update_self, CallerAt.ended.injEq] at held
    exact ⟨_, held.symm⟩
  · split at held
    · simp only [State.refuseCall, Function.update_self, CallerAt.ended.injEq] at held
      exact ⟨_, held.symm⟩
    · simp [State.openCall] at held

theorem resumeCaller_end (resumed : s.resumeCaller c = some after) (ended : after.callEnd c = some outcome) :
    (s.calls c).execute = .done outcome ∨ outcome = .cancelled := by
  have held := callEnd_eq_some ended
  simp only [State.resumeCaller] at resumed
  split at resumed
  · rename_i last waiting done
    cases resumed
    left
    simpa [State.endCaller, done] using held
  · cases resumed
    right
    simpa [State.endCaller, eq_comm] using held
  · cases resumed

theorem cancelCaller_end (cancelled : s.cancelCaller c = some after) (ended : after.callEnd c = some outcome) :
    outcome = .cancelled := by
  have held := callEnd_eq_some ended
  simp only [State.cancelCaller] at cancelled
  split at cancelled
  · cases cancelled
  · cases cancelled
    simpa [State.endCaller, eq_comm] using held
  · cases cancelled
    simp at held
  · rename_i draining live
    cases cancelled
    have same : (s.calls c).caller = .ended outcome := held
    rw [draining] at same
    cases same

/-- An end that the caller was told stands in the log, and tells what became of the frame. -/
theorem ended_wrote (coherent : Coherent config True s) {error : Error} (ended : .ended c (.raised error) ∈ s.log) :
    error.isUncertain ∧ Wrote s.log c ∨ error.isUncertain = false ∧ ¬ Wrote s.log c := by
  have known := coherent.shape.eventCall _ ended c rfl
  obtain ⟨-, last, done, agree⟩ := (coherent.callers c).ended known _ ((coherent.callers c).told _ ended)
  rcases agree with rfl | ⟨impossible, -⟩
  · rw [(coherent.tasks c).wrote]
    rcases (coherent.tasks c).outcome known _ done with ⟨unsent, unqueued⟩ | uncertain | ⟨⟨text, rfl⟩, unqueued, -⟩
    · refine .inr ⟨?_, unqueued⟩
      cases error <;> first | rfl | cases unsent
    · exact .inl uncertain
    · exact .inr ⟨rfl, unqueued⟩
  · cases impossible

theorem returned_wrote (coherent : Coherent config True s) {status : DeviceStatus}
    (ended : .ended c (.returned status) ∈ s.log) : Wrote s.log c := by
  have known := coherent.shape.eventCall _ ended c rfl
  obtain ⟨-, last, done, agree⟩ := (coherent.callers c).ended known _ ((coherent.callers c).told _ ended)
  rcases agree with rfl | ⟨impossible, -⟩
  · obtain ⟨record, recorded, queued, -⟩ := (coherent.tasks c).outcome known _ done
    exact (coherent.tasks c).wrote.mpr ⟨record, recorded, queued⟩
  · cases impossible

end Ends

section Frames

variable {config : Config} {u after : Coordinator} {k c : Nat} {order : Order} {issued : ℚ} {feedback : Feedback}
  {verdict : Verdict}

theorem Grounds.grow {log later : List Event} (grounds : Grounds log c order issued verdict)
    (grown : log ⊆ later) : Grounds later c order issued verdict := by
  cases verdict with
  | reported status => exact ⟨grown grounds.1, grounds.2⟩
  | uncertain =>
    rcases grounds with cancelled | ⟨error, raised, uncertain⟩
    · exact .inl (grown cancelled)
    · exact .inr ⟨error, grown raised, uncertain⟩
  | rejected =>
    obtain ⟨error, raised, rest⟩ := grounds
    exact ⟨error, grown raised, rest⟩
  | failed error => trivial

theorem Waits.later {status : FeedbackStatus} {now time : ℚ} (waits : Waits feedback status now) (later : now ≤ time) :
    Waits feedback status time := by
  rcases waits with left | ⟨closed, late⟩
  · exact .inl left
  · exact .inr ⟨closed, le_trans late later⟩

theorem Marks.later {now time : ℚ} (marks : Marks feedback now verdict) (later : now ≤ time) :
    Marks feedback time verdict := by
  cases verdict with
  | reported status => exact marks
  | uncertain => exact Waits.later marks later
  | rejected => exact marks
  | failed error => exact Waits.later marks later

theorem Stands.keep (stands : Stands u k c order issued feedback) (now : u.client.now ≤ after.client.now)
    (client : u.client.log ⊆ after.client.log)
    (log : ∀ verdict, .concluded k verdict ∈ after.log → .concluded k verdict ∈ u.log)
    (phase : (after.orders k).phase = (u.orders k).phase) : Stands after k c order issued feedback := by
  cases stands with
  | calling calling silent waits =>
    exact .calling (phase.trans calling) (fun verdict member => silent verdict (log verdict member)) (waits.later now)
  | concluded done listed grounds marks =>
    exact .concluded (phase ▸ done) (fun other member => listed other (log other member)) (grounds.grow client)
      (marks.later now)

/-- What a step keeps that does not touch the command. -/
structure Apart (u after : Coordinator) (k : Nat) (key : Key) : Prop where
  lastCommand : after.lastCommand = u.lastCommand := by rfl
  pending : after.pending key = u.pending key := by rfl
  now : u.client.now ≤ after.client.now := by exact le_rfl
  client : u.client.log ⊆ after.client.log := by exact List.Subset.refl _
  log : ∀ verdict, .concluded k verdict ∈ after.log → .concluded k verdict ∈ u.log := by exact fun _ member => member
  count : u.orderCount ≤ after.orderCount := by exact Nat.le_refl _
  own : (after.orders k).phase = (u.orders k).phase ∧ (after.orders k).order = (u.orders k).order ∧
    (after.orders k).issued = (u.orders k).issued := by exact ⟨rfl, rfl, rfl⟩
  alone : ∀ j d, (after.orders j).phase = .calling d → (u.orders j).phase = .calling d := by
    exact fun _ _ calling => calling

theorem Noted.keep (noted : Noted u k c order issued feedback) (apart : Apart u after k order.key) :
    Noted after k c order issued feedback where
  recorded := apart.lastCommand.trans noted.recorded
  field := noted.field
  action := noted.action
  requested := noted.requested
  deadline := noted.deadline
  own := ⟨apart.own.2.1.trans noted.own.1, apart.own.2.2.trans noted.own.2⟩
  called := by
    obtain ⟨session, called⟩ := noted.called
    exact ⟨session, apart.client called⟩
  known := Nat.lt_of_lt_of_le noted.known apart.count
  alone := fun j d calling => noted.alone j d (apart.alone j d calling)
  window := fun entry found => noted.window entry (apart.pending ▸ found)
  clear := fun settled => apart.pending.trans (noted.clear settled)
  stands := noted.stands.keep apart.now apart.client apart.log apart.own.1

/-- The watchdog ends the window of the command at its deadline. -/
theorem Noted.watch (noted : Noted u k c order issued feedback) :
    ∃ feedback, Noted u.watch k c order issued feedback := by
  obtain ⟨client, -, orders, count, -, log⟩ := u.watch_fields
  have settle : ∀ closed, u.watch.lastCommand = some { feedback with status := closed } →
      (closed = .deviceReported ∨ closed = .rejected → u.pending order.key = none) →
        Stands u k c order issued { feedback with status := closed } →
          Noted u.watch k c order issued { feedback with status := closed } := by
    intro closed recorded clear stands
    have kept : Stands u.watch k c order issued { feedback with status := closed } := by
      refine stands.keep ?_ ?_ ?_ ?_
      · rw [client]
      · rw [client]
        exact List.Subset.refl _
      · rw [log]
        exact fun _ member => member
      · rw [orders]
    refine ⟨recorded, noted.field, noted.action, noted.requested, noted.deadline, ?_, ?_, ?_, ?_, ?_, ?_, kept⟩
    · rw [orders]
      exact noted.own
    · rw [client]
      exact noted.called
    · rw [count]
      exact noted.known
    · rw [orders]
      exact noted.alone
    · exact fun entry left => noted.window entry (watch_pending u left)
    · intro settled
      rw [Option.eq_none_iff_forall_ne_some]
      intro entry left
      have before := watch_pending u left
      rw [clear settled] at before
      cases before
  rcases watch_lastCommand u noted.recorded with same | ⟨entry, pending, late, closed⟩
  · exact ⟨feedback, settle feedback.status same noted.clear noted.stands⟩
  · rw [noted.field] at pending
    have elapsed : feedback.deadline ≤ u.client.now := by
      rw [noted.deadline, ← noted.window entry pending]
      exact late
    have unsettled : ¬ (feedback.status = .deviceReported ∨ feedback.status = .rejected) := by
      intro settled
      rw [noted.clear settled] at pending
      cases pending
    refine ⟨_, settle .notObserved closed (by simp) ?_⟩
    cases noted.stands with
    | calling calling silent waits => exact .calling calling silent (.inr ⟨rfl, elapsed⟩)
    | @concluded verdict done listed grounds marks =>
      refine .concluded done listed grounds ?_
      cases verdict with
      | reported status => exact absurd (.inl marks.1) unsettled
      | uncertain => exact .inr ⟨rfl, elapsed⟩
      | rejected => exact absurd (.inr marks) unsettled
      | failed error => exact .inr ⟨rfl, elapsed⟩

/-- What a verdict rests on. -/
theorem verdict_grounds {task : OrderTask} {log : List Event} {outcome : Outcome} (ended : .ended c outcome ∈ log)
    (checked : ∀ status, outcome = .returned status → task.verdict outcome = .reported status) :
    Grounds log c task.order task.issued (task.verdict outcome) := by
  cases outcome with
  | returned status =>
    have reported := checked status rfl
    rw [reported]
    simp only [OrderTask.verdict] at reported
    split at reported
    · cases reported
    · rename_i fits
      simp only [not_or, not_not, not_lt] at fits
      exact ⟨ended, fits.2.2, fits.2.1⟩
  | raised error =>
    cases error with
    | commandUncertain => exact .inr ⟨_, ended, rfl⟩
    | valueError text => trivial
    | _ => exact ⟨_, ended, rfl, by simp⟩
  | cancelled =>
    simp only [OrderTask.verdict]
    split
    · exact .inl ended
    · trivial

/-- The verdict on the command is written into its feedback. -/
theorem Noted.conclude (noted : Noted u k c order issued feedback) (calling : (u.orders k).phase = .calling c)
    (grounds : Grounds u.client.log c order issued verdict) :
    ∃ feedback, Noted (u.conclude k verdict) k c order issued feedback := by
  obtain ⟨client, -, orders, count, -⟩ := u.conclude_fields k verdict
  obtain ⟨actions, log, quiet⟩ := u.conclude_log k verdict
  have silent : ∀ other, .concluded k other ∉ u.log := by
    cases noted.stands with
    | calling _ silent _ => exact silent
    | concluded done listed grounds marks =>
      rw [calling] at done
      cases done
  have waits : Waits feedback .awaitingFeedback u.client.now := by
    cases noted.stands with
    | calling _ _ waits => exact waits
    | concluded done listed grounds marks =>
      rw [calling] at done
      cases done
  have settle : ∀ marked : Feedback, (u.conclude k verdict).lastCommand = some marked →
      marked.field = feedback.field → marked.action = feedback.action → marked.requested = feedback.requested →
        marked.deadline = feedback.deadline → Marks marked u.client.now verdict →
          (∀ entry, (u.conclude k verdict).pending order.key = some entry → u.pending order.key = some entry) →
            (marked.status = .deviceReported ∨ marked.status = .rejected →
              (u.conclude k verdict).pending order.key = none) →
              Noted (u.conclude k verdict) k c order issued marked := by
    intro marked recorded field action requested deadline marks left clear
    refine ⟨recorded, field.trans noted.field, action.trans noted.action, requested.trans noted.requested,
      deadline.trans noted.deadline, ?_, ?_, ?_, ?_, fun entry found => noted.window entry (left entry found),
      clear, ?_⟩
    · rw [orders, Function.update_self]
      exact noted.own
    · rw [client]
      exact noted.called
    · rw [count]
      exact noted.known
    · intro j d flying
      rw [orders] at flying
      by_cases same : j = k
      · subst same
        simp at flying
      · rw [Function.update_of_ne same] at flying
        exact noted.alone j d flying
    · refine .concluded ?_ ?_ (client ▸ grounds) (client ▸ marks)
      · rw [orders, Function.update_self]
        rfl
      · intro other member
        rw [log] at member
        rcases List.mem_append.mp member with old | new
        · exact absurd (mem_quiet quiet rfl old) (silent other)
        · cases List.mem_singleton.mp new
          rfl
  have own : (u.orders k).order.key = order.key := by rw [noted.own.1]
  have pending : ∀ {after : Coordinator}, after.pending = Function.update u.pending order.key none →
      (∀ entry, after.pending order.key = some entry → u.pending order.key = some entry) ∧
        after.pending order.key = none := by
    intro after same
    rw [same, Function.update_self]
    exact ⟨by simp, rfl⟩
  cases verdict with
  | reported status =>
    have recorded : (u.conclude k (.reported status)).lastCommand =
        (u.confirmReport (u.orders k).order status).lastCommand := rfl
    have emptied : (u.conclude k (.reported status)).pending =
        (u.confirmReport (u.orders k).order status).pending := rfl
    rw [confirmReport_lastCommand, noted.recorded] at recorded
    rw [(u.confirmReport_fields (u.orders k).order status).2.1, own] at emptied
    obtain ⟨left, cleared⟩ := pending emptied
    exact ⟨_, settle _ recorded rfl rfl rfl rfl ⟨rfl, rfl, rfl⟩ left fun _ => cleared⟩
  | uncertain =>
    have recorded : (u.conclude k .uncertain).lastCommand = some { feedback with status := .deliveryUncertain } := by
      simp [Coordinator.conclude, Coordinator.setFeedback, noted.recorded]
    exact ⟨_, settle _ recorded rfl rfl rfl rfl (.inl rfl) (fun _ found => found) (by simp)⟩
  | rejected =>
    have recorded : (u.conclude k .rejected).lastCommand = some { feedback with status := .rejected } := by
      simp [Coordinator.conclude, Coordinator.setFeedback, noted.recorded]
    have emptied : (u.conclude k .rejected).pending = Function.update u.pending order.key none := by
      simp [Coordinator.conclude, Coordinator.setFeedback, own]
    obtain ⟨left, cleared⟩ := pending emptied
    exact ⟨_, settle _ recorded rfl rfl rfl rfl rfl left fun _ => cleared⟩
  | failed error =>
    refine ⟨feedback, settle feedback noted.recorded rfl rfl rfl rfl waits (fun _ found => found) fun settled => ?_⟩
    exact noted.clear settled

/-- The end of the client call, where it has ended. -/
theorem Noted.afterCall (noted : Noted u k c order issued feedback) (calling : (u.orders k).phase = .calling c)
    (coherent : Coherent config True u.client)
    (checked : ∀ status, u.client.callEnd c = some (.returned status) →
      (u.orders k).verdict (.returned status) = .reported status) :
    ∃ feedback, Noted (u.afterCall k c) k c order issued feedback := by
  obtain ⟨session, called⟩ := noted.called
  have known : c < u.client.callCount := coherent.shape.eventCall _ called c rfl
  unfold Coordinator.afterCall
  split
  · rename_i outcome ended
    refine noted.conclude calling ?_
    rw [← noted.own.1, ← noted.own.2]
    apply verdict_grounds
    · exact ((coherent.callers c).ended known outcome (callEnd_eq_some ended)).1
    · rintro status rfl
      exact checked status ended
  · exact ⟨feedback, noted⟩

end Frames

section Books

variable {config : Config} {origin u after : Coordinator} {label : Coordinator.Label} {k : Nat}

theorem Booked.order (booked : Booked u) (order : Order) : Booked { u with
    orderCount := u.orderCount + 1
    orders := Function.update u.orders u.orderCount { order } } := by
  have apart : ∀ {k}, k < u.orderCount → Function.update u.orders u.orderCount ({ order } : OrderTask) k = u.orders k :=
    fun known => Function.update_of_ne (Nat.ne_of_lt known) ..
  have flying : ∀ {k c}, (Function.update u.orders u.orderCount ({ order } : OrderTask) k).phase = .calling c →
      Function.update u.orders u.orderCount ({ order } : OrderTask) k = u.orders k := by
    intro k c calling
    by_cases fresh : k = u.orderCount
    · subst fresh
      simp at calling
    · exact Function.update_of_ne fresh ..
  refine ⟨fun k key wanted monotonic member => ?_, fun k verdict member => ?_, fun k beyond => ?_,
    fun k key wanted monotonic member => ?_, fun k verdict member => ?_, fun k c calling => ?_, fun k c calling => ?_⟩
  · exact Nat.lt_succ_of_lt (booked.known k key wanted monotonic member)
  · exact Nat.lt_succ_of_lt (booked.ended k verdict member)
  · dsimp only at beyond ⊢
    rw [Function.update_of_ne (by omega)]
    exact booked.absent k (by omega)
  · dsimp only
    rw [apart (booked.known k key wanted monotonic member)]
    exact booked.issued k key wanted monotonic member
  · dsimp only
    rw [apart (booked.ended k verdict member)]
    exact booked.concluded k verdict member
  · have same := flying calling
    dsimp only at calling ⊢
    rw [same] at calling ⊢
    exact booked.flying k c calling
  · have same := flying calling
    dsimp only at calling ⊢
    rw [same] at calling ⊢
    exact booked.recorded k c calling

/-- The task of one command is marked, or ends before its turn. -/
theorem Booked.task {task : OrderTask} (booked : Booked u) (order : task.order = (u.orders k).order)
    (issued : task.issued = (u.orders k).issued)
    (phase : task.phase = (u.orders k).phase ∨ (u.orders k).phase = .waiting ∧ task.phase.isDone) :
    Booked { u with orders := Function.update u.orders k task } := by
  refine booked.keep { orders := fun d => ?_ }
  by_cases same : d = k
  · subst same
    simpa using ⟨order, issued, phase⟩
  · simp [same]

/-- The books are right after every change. -/
theorem Change.booked (change : Change config origin label u after) (started : Booked origin) (booked : Booked u) :
    Booked after := by
  cases change with
  | client effects => exact booked.keep { now := effects.later.now }
  | @observe entry client dispatched moved running =>
    have fields := Coordinator.observe_fields { origin with client } entry
    obtain ⟨head, rest, next, free, rfl⟩ := State.dispatch_spec moved
    exact started.keep
      { count := fields.2.2.2.2.1
        lock := fields.2.2.2.2.2
        now := by rw [fields.1]; exact le_rfl
        log := Coordinator.observe_log { origin with client := _ } entry
        orders := fun k => by rw [fields.2.2.2.1]; exact ⟨rfl, rfl, .inl rfl⟩
        pending := fun key recorded found _ => by rw [fields.2.1]; exact found }
  | begin waiting free admitted => exact booked.begin waiting free
  | conclude calling ending later => exact booked.conclude calling
  | mark calling => exact booked.task rfl rfl (.inl rfl)
  | finish waiting => exact booked.task rfl rfl (.inr ⟨waiting, rfl⟩)
  | order opened valid => exact booked.order _
  | @watch u =>
    have fields := u.watch_fields
    refine booked.keep
      { count := fields.2.2.2.1
        lock := fields.2.2.2.2.1
        now := by rw [fields.1]
        log := ⟨[], by rw [fields.2.2.2.2.2, List.append_nil], by simp⟩
        orders := fun k => by rw [fields.2.2.1]; exact ⟨rfl, rfl, .inl rfl⟩
        pending := fun key entry found live => ?_ }
    rw [fields.1] at live
    simp only [Coordinator.watch]
    split <;> simp [found, not_le_of_gt live]
  | note => exact booked.keep {}
  | close => exact booked.keep {}

/-- The coordinator that has no feedback issued nothing. -/
def Unissued (u : Coordinator) : Prop :=
  u.lastCommand = none → ∀ k key wanted monotonic, .issued k key wanted monotonic ∉ u.log

theorem Unissued.keep (unissued : Unissued u) (feedback : after.lastCommand = none → u.lastCommand = none)
    (log : ∀ k key wanted monotonic, .issued k key wanted monotonic ∈ after.log →
      .issued k key wanted monotonic ∈ u.log) : Unissued after :=
  fun absent k key wanted monotonic member => unissued (feedback absent) k key wanted monotonic (log _ _ _ _ member)

theorem Change.unissued (change : Change config origin label u after) (started : Unissued origin)
    (unissued : Unissued u) : Unissued after := by
  cases change with
  | @observe entry client dispatched moved running =>
    obtain ⟨actions, log, quiet⟩ := Coordinator.observe_log { origin with client } entry
    refine started.keep (fun absent => (observe_lastCommand { origin with client } entry).symm.trans absent) ?_
    intro k key wanted monotonic member
    rw [log] at member
    exact mem_quiet quiet rfl member
  | begin waiting free admitted => exact fun impossible => by cases impossible
  | @conclude u k c verdict calling ending later =>
    obtain ⟨actions, log, quiet⟩ := u.conclude_log k verdict
    refine unissued.keep (conclude_lastCommand u k verdict).mp ?_
    intro j key wanted monotonic member
    rw [log] at member
    exact mem_quiet quiet rfl (by simpa using member)
  | @watch u =>
    refine unissued.keep ?_ ?_
    · intro absent
      by_contra present
      obtain ⟨feedback, found⟩ := Option.ne_none_iff_exists'.mp present
      rcases watch_lastCommand u found with same | ⟨entry, -, -, same⟩
      · rw [same] at absent
        cases absent
      · rw [same] at absent
        cases absent
    · rw [u.watch_fields.2.2.2.2.2]
      exact fun _ _ _ _ member => member
  | _ => exact unissued.keep (fun absent => absent) fun _ _ _ _ member => member

theorem Run.booked (run : Reachable (coordinator config) u) : Booked u ∧ Unissued u := by
  refine (Run.changes (fun u => Booked u ∧ Unissued u) ?_ ?_ run).2
  · intro now wall localPower epoch
    refine ⟨⟨?_, ?_, fun k _ => rfl, ?_, ?_, ?_, ?_⟩, fun _ k key wanted monotonic => ?_⟩
    all_goals simp [Coordinator.start, OrderTask.none]
  · intro origin label u after _ started _ _ held change
    exact ⟨change.booked started.1 held.1, change.unissued started.2 held.2⟩

end Books

section Steps

variable {config : Config} {u after : Coordinator} {label : Coordinator.Label} {k c : Nat} {order : Order} {issued : ℚ}
  {feedback : Feedback}

/-- A step of the client below, with the command as it was. -/
theorem Apart.moved {overflow : Prop} {client : State}
    (effects : Effects config.coordinated overflow u.client client) : Apart u { u with client } k order.key := by
  obtain ⟨events, log⟩ := effects.later.log
  refine { now := effects.later.now, client := ?_ }
  dsimp only
  rw [log]
  exact List.subset_append_left _ _

/-- A task that is not under way goes another way. -/
theorem Apart.task {j : Nat} {task : OrderTask} (other : j ≠ k) (ended : ∀ d, task.phase ≠ .calling d) :
    Apart u { u with orders := Function.update u.orders j task } k order.key := by
  refine { own := ?_, alone := fun i d calling => ?_ }
  · dsimp only
    rw [Function.update_of_ne other.symm]
    exact ⟨rfl, rfl, rfl⟩
  · dsimp only at calling
    by_cases same : i = j
    · subst same
      rw [Function.update_self] at calling
      exact absurd calling (ended d)
    · rwa [Function.update_of_ne same] at calling

theorem Noted.begun (noted : Noted u k c order issued feedback) : (u.orders k).phase ≠ .waiting := by
  intro waiting
  cases noted.stands with
  | calling calling silent waits =>
    rw [waiting] at calling
    cases calling
  | concluded done listed grounds marks =>
    rw [waiting] at done
    cases done

/-- The client call of the command goes on, and perhaps ends. -/
theorem Noted.further {client : State} {overflow : Prop} {middle : Coordinator}
    (noted : Noted middle k c order issued feedback) (attached : Attached config middle)
    (calling : (middle.orders k).phase = .calling c)
    (effects : Effects config.coordinated overflow middle.client client)
    (checked : ∀ status, client.callEnd c = some (.returned status) →
      (middle.orders k).verdict (.returned status) = .reported status) :
    ∃ feedback, Noted (({ middle with client } : Coordinator).afterCall k c) k c order issued feedback := by
  have moved : Noted { middle with client } k c order issued feedback := noted.keep (.moved effects)
  have coherent := (effects.attached attached).1
  exact moved.afterCall calling coherent checked

/-- The status that a client call returns shows what the command asked for. -/
theorem returned_reported (run : Reachable (coordinator config) u) (calling : (u.orders k).phase = .calling c)
    {status : DeviceStatus} (done : (u.client.calls c).execute = .done (.returned status)) :
    (u.orders k).verdict (.returned status) = .reported status := by
  obtain ⟨attached, linked⟩ := Run.linked run
  obtain ⟨record, recorded, -, result⟩ :=
    (attached.coherent.tasks c).outcome (linked.known attached calling) _ done
  rcases linked.valid k with ended | valid
  · rw [calling] at ended
    cases ended
  · obtain ⟨byte, wire⟩ := valid.wire
    exact called_verdict run calling wire recorded result

theorem Noted.cancel {expired : Bool} {j : Nat} (noted : Noted u k c order issued feedback)
    (run : Reachable (coordinator config) u) (taken : u.cancelOrder j expired = some after) :
    ∃ feedback, Noted after k c order issued feedback := by
  obtain ⟨attached, -⟩ := Run.linked run
  unfold Coordinator.cancelOrder at taken
  split at taken
  · rename_i waiting
    split at taken
    · cases taken
    · cases taken
      have other : j ≠ k := fun same => noted.begun (same ▸ waiting)
      exact ⟨feedback, noted.keep (.task other fun d => by simp)⟩
  · rename_i d calling
    obtain ⟨rfl, rfl⟩ := noted.alone j d calling
    split at taken
    · cases taken
    · obtain ⟨client, cancelled, rfl⟩ := Option.map_eq_some_iff.mp taken
      have apart : Apart u (u.markCancelled j expired) j order.key := by
        refine { own := ?_, alone := fun i d flying => ?_ }
        · simp [Coordinator.markCancelled]
        · by_cases same : i = j
          · subst same
            simpa [Coordinator.markCancelled] using flying
          · simpa [Coordinator.markCancelled, same] using flying
      have marked : Noted (u.markCancelled j expired) j d order issued feedback := noted.keep apart
      have flying : ((u.markCancelled j expired).orders j).phase = .calling d := apart.own.1.trans calling
      have effects : Effects config.coordinated True (u.markCancelled j expired).client client :=
        cancelCaller_effects cancelled
      refine marked.further ⟨attached.coherent, attached.reporting⟩ flying effects fun status ended => ?_
      cases cancelCaller_end cancelled ended
  · cases taken

/-- No step but the issue of another command takes the feedback from the command. -/
theorem Noted.step (noted : Noted u k c order issued feedback) (run : Reachable (coordinator config) u)
    (taken : Coordinator.step config u label = some after) (silent : u.invokes label = none) :
    ∃ feedback, Noted after k c order issued feedback := by
  obtain ⟨attached, -⟩ := Run.linked run
  cases label with
  | client label =>
    simp only [Coordinator.step] at taken
    split at taken
    · obtain ⟨client, moved, rfl⟩ := Option.map_eq_some_iff.mp taken
      exact ⟨feedback, noted.keep (.moved (step_effects attached.coherent.shape attached.coherent.epoch moved))⟩
    · cases taken
  | dispatch =>
    obtain ⟨client, moved, taken⟩ := Option.bind_eq_some_iff.mp taken
    obtain ⟨entry, running, rfl⟩ := Option.map_eq_some_iff.mp taken
    obtain ⟨same, pending, -, orders, count, -⟩ := Coordinator.observe_fields { u with client } entry
    obtain ⟨actions, log, quiet⟩ := Coordinator.observe_log { u with client } entry
    obtain ⟨head, rest, next, free, rfl⟩ := State.dispatch_spec moved
    refine ⟨feedback, noted.keep ⟨observe_lastCommand _ entry, by rw [pending], ?_, ?_, ?_, by rw [count], ?_, ?_⟩⟩
    · rw [same]
      exact le_rfl
    · rw [same]
      exact List.subset_append_left _ _
    · intro verdict member
      rw [log] at member
      exact mem_quiet quiet rfl member
    · rw [orders]
      exact ⟨rfl, rfl, rfl⟩
    · rw [orders]
      exact fun _ _ calling => calling
  | setOption enabled | refresh | unload =>
    cases taken
    exact ⟨feedback, noted.keep {}⟩
  | command method args key wanted requiresOn =>
    cases taken
    unfold Coordinator.command
    split
    · exact ⟨feedback, noted⟩
    split
    · exact ⟨feedback, noted⟩
    rename_i asked accepted opened
    have fresh : u.orderCount ≠ k := (Nat.ne_of_lt noted.known).symm
    have apart : Apart u { u with orders := Function.update u.orders u.orderCount { order := asked } } k order.key :=
      .task fresh fun d => by simp
    exact ⟨feedback, noted.keep { apart with count := Nat.le_succ _ }⟩
  | proceed j =>
    simp only [Coordinator.step] at taken
    split at taken
    · rename_i ready
      cases taken
      have other : j ≠ k := fun same => noted.begun (same ▸ ready.2.1)
      unfold Coordinator.runCommand
      split
      · exact ⟨feedback, noted.keep (.task other fun d => by simp)⟩
      · exact ⟨feedback, noted.keep (.task other fun d => by simp)⟩
      · rename_i admitted
        simp [Coordinator.invokes, ready, admitted] at silent
    · cases taken
  | resume j =>
    simp only [Coordinator.step, Coordinator.resumeOrder] at taken
    split at taken
    · rename_i d calling
      obtain ⟨rfl, rfl⟩ := noted.alone j d calling
      obtain ⟨client, resumed, rfl⟩ := Option.map_eq_some_iff.mp taken
      have effects : Effects config.coordinated True u.client client := resumeCaller_effects resumed
      refine noted.further attached calling effects fun status ended => ?_
      rcases resumeCaller_end resumed ended with done | impossible
      · exact returned_reported run calling done
      · cases impossible
    · cases taken
  | expire j | cancel j => exact noted.cancel run taken
  | watch =>
    simp only [Coordinator.step] at taken
    split at taken
    · cases taken
    · cases taken
      exact noted.watch
  | closeClient =>
    simp only [Coordinator.step, Coordinator.closeClient] at taken
    split at taken
    · cases taken
      cases closed : u.client.close with
      | none => exact ⟨feedback, noted.keep {}⟩
      | some client =>
        have effects := step_effects attached.coherent.shape attached.coherent.epoch
          (show Local.step config.coordinated u.client .close = some client from closed)
        have moved : Noted { u with client } k c order issued feedback := noted.keep (.moved effects)
        exact ⟨feedback, moved.keep {}⟩
    · cases taken
  | unloaded =>
    simp only [Coordinator.step] at taken
    split at taken
    · cases taken
      exact ⟨feedback, noted.keep {}⟩
    · cases taken

theorem afterCall_absent (j d : Nat) (absent : u.lastCommand = none) : (u.afterCall j d).lastCommand = none := by
  unfold Coordinator.afterCall
  split
  · exact (conclude_lastCommand u j _).mpr absent
  · exact absent

theorem cancelOrder_absent {j : Nat} {expired : Bool} (absent : u.lastCommand = none)
    (taken : u.cancelOrder j expired = some after) : after.lastCommand = none := by
  unfold Coordinator.cancelOrder at taken
  split at taken
  · split at taken
    · cases taken
    · cases taken
      exact absent
  · split at taken
    · cases taken
    · obtain ⟨client, -, rfl⟩ := Option.map_eq_some_iff.mp taken
      exact afterCall_absent _ _ absent
  · cases taken

/-- Only the issue of a command makes a feedback. -/
theorem step_absent (absent : u.lastCommand = none) (taken : Coordinator.step config u label = some after)
    (silent : u.invokes label = none) : after.lastCommand = none := by
  cases label with
  | client label =>
    simp only [Coordinator.step] at taken
    split at taken
    · obtain ⟨client, -, rfl⟩ := Option.map_eq_some_iff.mp taken
      exact absent
    · cases taken
  | dispatch =>
    obtain ⟨client, -, taken⟩ := Option.bind_eq_some_iff.mp taken
    obtain ⟨entry, -, rfl⟩ := Option.map_eq_some_iff.mp taken
    exact (observe_lastCommand { u with client } entry).trans absent
  | setOption enabled | refresh | unload =>
    cases taken
    exact absent
  | command method args key wanted requiresOn =>
    cases taken
    unfold Coordinator.command
    split
    · exact absent
    · split <;> exact absent
  | proceed j =>
    simp only [Coordinator.step] at taken
    split at taken
    · rename_i ready
      cases taken
      unfold Coordinator.runCommand
      split
      · exact absent
      · exact absent
      · rename_i admitted
        simp [Coordinator.invokes, ready, admitted] at silent
    · cases taken
  | resume j =>
    simp only [Coordinator.step, Coordinator.resumeOrder] at taken
    split at taken
    · obtain ⟨client, -, rfl⟩ := Option.map_eq_some_iff.mp taken
      exact afterCall_absent _ _ absent
    · cases taken
  | expire j | cancel j => exact cancelOrder_absent absent taken
  | watch =>
    simp only [Coordinator.step] at taken
    split at taken
    · cases taken
    · cases taken
      exact watch_absent u absent
  | closeClient | unloaded =>
    simp only [Coordinator.step, Coordinator.closeClient] at taken
    split at taken
    · cases taken
      exact absent
    · cases taken

/-- A command is issued: the feedback is its own from here on. -/
theorem Noted.issue (run : Reachable (coordinator config) u) {request : Request}
    (invoked : u.invokes (.proceed k) = some request) (taken : Coordinator.step config u (.proceed k) = some after) :
    ∃ feedback, Noted after k u.client.callCount (u.orders k).order u.client.now feedback := by
  obtain ⟨attached, -⟩ := Run.linked run
  obtain ⟨booked, -⟩ := Run.booked run
  simp only [Coordinator.invokes] at invoked
  split at invoked
  · rename_i ready
    obtain ⟨known, waiting, free, admitted⟩ := ready
    simp only [Coordinator.step, known, waiting, free, and_self, if_true, Option.some.injEq] at taken
    subst taken
    obtain ⟨pending, orders, count, -, log⟩ := u.beginCall_fields config k
    obtain ⟨session, events, grown⟩ := u.client.call_called config.coordinated (u.orders k).order.request
    have begun : Noted (u.beginCall config k) k u.client.callCount (u.orders k).order u.client.now
        ⟨(u.orders k).order.action, .awaitingFeedback, u.client.wall, u.client.now + pendingSeconds,
          (u.orders k).order.key, (u.orders k).order.wanted, false, none⟩ := by
      refine ⟨rfl, rfl, rfl, rfl, rfl, ?_, ⟨session, ?_⟩, ?_, ?_, ?_, by simp, .calling ?_ ?_ (.inl rfl)⟩
      · rw [orders, Function.update_self]
        exact ⟨rfl, rfl⟩
      · have same : (u.beginCall config k).client = u.client.call config.coordinated (u.orders k).order.request := rfl
        rw [same, grown]
        simp
      · rw [count]
        exact known
      · intro j d calling
        rw [orders] at calling
        by_cases same : j = k
        · subst same
          rw [Function.update_self] at calling
          exact ⟨rfl, (OrderAt.calling.inj calling).symm⟩
        · rw [Function.update_of_ne same] at calling
          exact absurd ⟨⟨d, calling⟩, rfl⟩ (booked.idle free)
      · intro entry found
        rw [pending, Function.update_self] at found
        cases found
        rfl
      · rw [orders, Function.update_self]
      · intro verdict member
        rw [log] at member
        have done := booked.concluded k verdict (by simpa using member)
        rw [waiting] at done
        cases done
    have effects : Effects config.coordinated True u.client (u.beginCall config k).client :=
      call_effects (u.orders k).order.request
    have coherent : Coherent config.coordinated True (u.beginCall config k).client := (effects.attached attached).1
    simp only [Coordinator.runCommand, admitted]
    refine begun.afterCall (by rw [orders, Function.update_self]) coherent fun status ended => ?_
    obtain ⟨error, impossible⟩ := call_refused ended
    cases impossible
  · cases invoked

/-- From its issue on, and until the next one, the feedback of a run is that of the command issued last. -/
theorem Run.noted (run : Reachable (coordinator config) u) (found : u.lastCommand = some feedback) :
    ∃ origin k, IssuedIn config origin k u ∧
      Noted u k origin.client.callCount (origin.orders k).order origin.client.now feedback := by
  induction run generalizing feedback with
  | start initial =>
    obtain ⟨now, wall, localPower, -, rfl⟩ := initial
    cases found
  | @next u label after earlier _ taken ih =>
    have named : ∀ {k c order issued other}, Noted after k c order issued other →
        Noted after k c order issued feedback := by
      intro k c order issued other noted
      cases Option.some.inj (noted.recorded.symm.trans found)
      exact noted
    cases invoked : u.invokes label with
    | none =>
      cases before : u.lastCommand with
      | none =>
        rw [step_absent before taken invoked] at found
        cases found
      | some former =>
        obtain ⟨origin, k, ⟨reached, called, issued, first, onward⟩, noted⟩ := ih before
        obtain ⟨other, noted⟩ := noted.step earlier taken invoked
        exact ⟨origin, k, ⟨reached, called, issued, first, .next onward invoked taken⟩, named noted⟩
    | some request =>
      cases label with
      | proceed k =>
        obtain ⟨other, noted⟩ := Noted.issue earlier invoked taken
        refine ⟨u, k, ⟨earlier, ?_, after, taken, .here⟩, named noted⟩
        simp only [Coordinator.invokes] at invoked ⊢
        split at invoked
        · rename_i ready
          rw [if_pos ready]
        · cases invoked
      | _ => cases invoked

end Steps

end AlorairLite.Local
