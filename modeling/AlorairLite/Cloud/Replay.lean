import AlorairLite.Cloud.Confirmation

/-! The cloud coordinator does not repeat a command whose outcome is open: between two
commands that ask for the same, the first is resolved or its window is over. -/

namespace AlorairLite.Cloud

open Async

/-- Why a command is not open any more: a poll after it confirmed it, its own call failed for
good, or another value was asked for after it. -/
inductive Resolved (task : Nat) (order : Order) (seen : Coordinator) (after log : List CloudEvent) :
    Prop where
  | confirmed (confirms : Confirms order.key (seen.entry order) after)
  | failed {mac : String} {error : ClientError} (final : error.definitive)
      (answered : .delivered task ⟨.call mac order.request, .error error⟩ ∈ log)
  | changed {other k : Nat} {order' : Order} {seen' : Coordinator}
      (issued : .told other (.issued k order' seen') ∈ after) (same : order'.key = order.key)
      (differs : order'.wanted ≠ order.wanted)

/-- Nothing is asked for again that was asked for less than the pending time ago and is open. -/
def Warranted (past : List CloudEvent) : CloudEvent → Prop
  | .told _ (.issued _ order' seen') => ∀ before task k order seen after,
    past = before ++ .told task (.issued k order seen) :: after → order.key = order'.key →
      order.wanted = order'.wanted →
        seen.now + pendingSeconds ≤ seen'.now ∨ Resolved task order seen after past
  | _ => True

/-- Where a command stands: it is pending and the last one for its key, it is resolved, or
its window is over. -/
inductive Standing (scene : CloudScene) (task : Nat) (order : Order) (seen : Coordinator)
    (after : List CloudEvent) : Prop where
  | pending (entry : scene.shared.pending order.key = some (seen.entry order))
      (latest : ∀ other k order' seen', .told other (.issued k order' seen') ∈ after →
        order'.key ≠ order.key)
  | resolved (resolved : Resolved task order seen after scene.log)
  | closed (late : seen.now + pendingSeconds ≤ scene.shared.now)

/-- The numbers of the feedback objects grow along the history. -/
def Numbered (past : List CloudEvent) : CloudEvent → Prop
  | .told _ (.issued k _ _) => ∀ task k' order seen, .told task (.issued k' order seen) ∈ past → k' < k
  | _ => True

structure Warded (scene : CloudScene) : Prop where
  numbered : Every Numbered scene.log
  standing : ∀ before task k order seen after,
    scene.log = before ++ .told task (.issued k order seen) :: after → Standing scene task order seen after
  judged : Every Warranted scene.log

theorem Resolved.append {task : Nat} {order : Order} {seen : Coordinator}
    {after log later : List CloudEvent} (resolved : Resolved task order seen after log) :
    Resolved task order seen (after ++ later) (log ++ later) := by
  cases resolved with
  | confirmed confirms => exact .confirmed confirms.append
  | failed final answered => exact .failed final (List.mem_append_left _ answered)
  | changed issued same differs => exact .changed (List.mem_append_left _ issued) same differs

section Changes

variable {careful : Prop} {actor : Option Nat} {scene after : CloudScene}

/-- A change that keeps the pending commands and does not turn back the clock. -/
theorem Warded.change {move : Coordinator → Coordinator} (warded : Warded scene)
    (pending : (move scene.shared).pending = scene.shared.pending)
    (forward : scene.shared.now ≤ (move scene.shared).now) : Warded (scene.change move) where
  numbered := warded.numbered
  standing before task k order seen after split := by
    cases warded.standing _ _ _ _ _ _ split with
    | pending entry latest => exact .pending ((congrFun pending _).trans entry) latest
    | resolved resolved => exact .resolved resolved
    | closed late => exact .closed (late.trans forward)
  judged := warded.judged

/-- An event that issues nothing. -/
theorem Warded.emit {event : CloudEvent} (warded : Warded scene)
    (other : ∀ task k order seen, event ≠ .told task (.issued k order seen)) :
    Warded (scene.emit event) where
  numbered := by
    refine warded.numbered.append_singleton ?_
    unfold Numbered
    split
    · exact absurd rfl (other _ _ _ _)
    · trivial
  standing before task k order seen after split := by
    rcases split_append_singleton split with ⟨rest, rfl, old⟩ | ⟨-, -, same⟩
    · cases warded.standing _ _ _ _ _ _ old with
      | pending entry latest =>
        refine .pending entry fun teller k' order' seen' issued => ?_
        rcases List.mem_append.mp issued with early | late
        · exact latest _ _ _ _ early
        · exact absurd (List.mem_singleton.mp late).symm (other _ _ _ _)
      | resolved resolved => exact .resolved resolved.append
      | closed late => exact .closed late
    · exact absurd same (other _ _ _ _)
  judged := by
    refine warded.judged.append_singleton ?_
    unfold Warranted
    split
    · exact absurd rfl (other _ _ _ _)
    · trivial

theorem Warded.poll {task : Nat} {data : Dict} {on : Bool} (warded : Warded scene)
    (status : powered data = some on) : Warded (((scene.change (·.observe data on)).emit (.told task
      (.polled data scene.shared.now (scene.shared.confirmsStop data on)))).change (·.store data)) := by
  have emitted : Warded (scene.emit (.told task
      (.polled data scene.shared.now (scene.shared.confirmsStop data on)))) :=
    warded.emit (by simp)
  have now : scene.shared.now = (scene.shared.observe data on).now := (scene.shared.observe_now data on).symm
  refine ⟨emitted.numbered, fun before teller k order seen after split => ?_, emitted.judged⟩
  cases emitted.standing _ _ _ _ _ _ split with
  | pending entry latest =>
    have left := scene.shared.observe_pending data on order.key
    have held : scene.shared.pending order.key = some (seen.entry order) := entry
    rw [held, Option.bind_some] at left
    cases resolution : scene.shared.resolution data on order.key (seen.entry order) with
    | kept => exact .pending (left.trans (if_pos resolution)) latest
    | reported =>
      -- The record is in the history before the poll, so the poll is after it.
      rcases split_append_singleton split with ⟨rest, rfl, -⟩ | ⟨-, -, same⟩
      · have shown : Confirms order.key (seen.entry order) (rest ++ [.told task
            (.polled data scene.shared.now (scene.shared.confirmsStop data on))]) :=
          ⟨_, _, _, _, List.mem_append_right _ (List.mem_singleton_self _),
            Coordinator.reported_qualifying status resolution⟩
        exact .resolved (.confirmed shown)
      · cases same
    | expired => exact .closed ((Coordinator.expired_over resolution).trans_eq now)
  | resolved resolved => exact .resolved resolved
  | closed late => exact .closed (late.trans_eq now)

/-- A command is repeated only when its entry has run out. -/
theorem Coordinator.admitted_over {s : Coordinator} {order : Order} {entry : PendingCommand}
    (admitted : s.admission order = .admitted) (pending : s.pending order.key = some entry)
    (wanted : entry.wanted = order.wanted) : entry.deadline ≤ s.now := by
  by_contra early
  have open_ : s.now < entry.deadline := not_le.mp early
  unfold admission at admitted
  dsimp only at admitted
  rw [pending] at admitted
  simp only [open_, wanted, and_self, decide_true, if_true] at admitted
  split_ifs at admitted

theorem Warded.issue {task : Nat} {mac : String} {order : Order} (warded : Warded scene)
    (matched : Matched scene) (admitted : scene.shared.admission order = .admitted) :
    Warded (((scene.change (·.issue order)).emit
      (.told task (.issued scene.shared.feedbackCount order scene.shared))).emit
        (.asked task (.call mac order.request))) := by
  have stored : (scene.shared.issue order).pending order.key = some (scene.shared.entry order) :=
    Function.update_self ..
  refine Warded.emit ⟨?_, fun before teller k order' seen after split => ?_, ?_⟩ (by simp)
  · exact warded.numbered.append_singleton fun teller k' order' seen issued =>
      matched.numbered _ _ _ _ issued
  · rcases split_append_singleton split with ⟨rest, rfl, old⟩ | ⟨rfl, -, same⟩
    · by_cases mine : order.key = order'.key
      · cases warded.standing _ _ _ _ _ _ old with
        | pending entry latest =>
          by_cases wanted : order.wanted = order'.wanted
          · rw [← mine] at entry
            exact .closed (Coordinator.admitted_over admitted entry wanted.symm)
          · exact .resolved (.changed (List.mem_append_right _ (List.mem_singleton_self _)) mine wanted)
        | resolved resolved => exact .resolved resolved.append
        | closed late => exact .closed late
      · cases warded.standing _ _ _ _ _ _ old with
        | pending entry latest =>
          refine .pending ((Function.update_of_ne (Ne.symm mine) _ _).trans entry) ?_
          intro teller k' other seen' issued
          rcases List.mem_append.mp issued with early | late
          · exact latest _ _ _ _ early
          · cases List.mem_singleton.mp late
            exact mine
        | resolved resolved => exact .resolved resolved.append
        | closed late => exact .closed late
    · cases same
      exact .pending stored (by simp)
  · refine warded.judged.append_singleton fun before teller k order' seen after split mine wanted => ?_
    cases warded.standing _ _ _ _ _ _ split with
    | pending entry latest =>
      rw [mine] at entry
      exact .inl (Coordinator.admitted_over admitted entry wanted)
    | resolved resolved => exact .inr resolved
    | closed late => exact .inl late

/-- The call of the last command fails for good. -/
theorem Warded.drop {task k : Nat} {mac : String} {order : Order} {seen : Coordinator}
    {error : ClientError} (warded : Warded scene) (coherent : Coherent scene) (matched : Matched scene)
    (last : scene.shared.lastCommand = some k) (told : .told task (.issued k order seen) ∈ scene.log)
    (final : error.definitive)
    (failed : .delivered task ⟨.call mac order.request, .error error⟩ ∈ scene.log) :
    Warded (scene.change (·.dropPending order.key)) := by
  refine ⟨warded.numbered, fun before teller k' order' seen' after split => ?_, warded.judged⟩
  cases warded.standing _ _ _ _ _ _ split with
  | pending entry latest =>
    by_cases mine : order'.key = order.key
    · obtain ⟨past, future, split'⟩ := List.append_of_mem told
      -- The pending command of this key is the one that failed.
      rcases split_cases split split' with ⟨-, same⟩ | ⟨between, rfl⟩ | ⟨between, rfl⟩
      · cases same
        exact .resolved (.failed final failed)
      · have later : .told task (.issued k order seen) ∈ after := by
          simp only [List.append_assoc, List.cons_append] at split'
          have rest := (List.cons.inj (List.append_cancel_left (split.symm.trans split'))).2
          rw [rest]
          exact List.mem_append_right _ List.mem_cons_self
        exact absurd mine.symm (latest _ _ _ _ later)
      · have below : k < k' := warded.numbered _ _ _ split _ _ _ _
          (List.mem_append_right _ List.mem_cons_self)
        have above := matched.numbered _ _ _ _ (split ▸ List.mem_append_right _ List.mem_cons_self)
        have count := coherent.last k last
        omega
    · exact .pending ((Function.update_of_ne mine _ _).trans entry) latest
  | resolved resolved => exact .resolved resolved
  | closed late => exact .closed late

theorem Change.warded (change : Change careful actor scene after) (coherent : Coherent scene)
    (matched : Matched scene) (warded : Warded scene) : Warded after := by
  cases change with
  | @event _ _ event quiet =>
    refine warded.emit fun task k order seen same => ?_
    subst same
    cases quiet
  | @elapse _ seconds forward => exact warded.change rfl (le_add_of_nonneg_right forward)
  | poll status => exact warded.poll status
  | issue held begun admitted => exact warded.issue matched admitted
  | create held plain waits => exact (warded.change rfl le_rfl).emit (by simp)
  | drop held last field told final failed => exact warded.drop coherent matched last told final failed
  | _ => exact warded.change rfl le_rfl

end Changes

/-- In every run of the coordinator, a command is sent again for the same key and the same value
only when the earlier one is confirmed by a later poll, its own call has failed for good, another
value was asked for in between, or the pending time has passed. -/
theorem command_warranted {mac : String} {machine : CloudMachine}
    (run : Reachable (coordinator mac) machine) : Every Warranted machine.scene.log := by
  have spares : ∀ machine label, True → False → Sparing machine label := fun _ _ _ => False.elim
  obtain ⟨-, now, wall, journey⟩ := run_journey spares run
  have warded : Matched machine.scene ∧ Warded machine.scene := by
    apply journey.invariant (fun scene => Matched scene ∧ Warded scene) .start
    · exact ⟨.start, .nil, by simp, .nil⟩
    · intro actor scene after coherent facts change
      exact ⟨change.matched facts.1, change.warded coherent facts.1 facts.2⟩
  exact warded.2.judged

/-- The connection is lost during a purge, which is asked for again after the pending time. -/
def purgeAgain : List (Step face Operation) :=
  examplePoll 0 (exampleData "2001-09-09T01:46:40Z" "01" "00") ++
    [.start (.command Control.purge.order),
      .answer 1 ⟨.call "0011" .purge, (.error .cannotConnect : Except ClientError Unit)⟩, .resume 1,
      .answer 1 ⟨.refresh, ()⟩, .resume 1, .start (.command Control.purge.order),
      .drift (.elapse 300), .start (.command Control.purge.order)]

def issues : CloudEvent → Bool
  | .told _ (.issued _ _ _) => true
  | _ => false

theorem command_warranted_example : ∃ machine,
    (coordinator "0011").follow exampleMachine purgeAgain = some machine ∧
      machine.scene.log.countP issues = 2 ∧ Every Warranted machine.scene.log := by
  have shown : (((coordinator "0011").follow exampleMachine purgeAgain).map fun machine =>
      decide (machine.scene.log.countP issues = 2)) = some true := by decide +kernel
  obtain ⟨machine, followed, twice⟩ := Option.map_eq_some_iff.mp shown
  exact ⟨machine, followed, of_decide_eq_true twice,
    command_warranted (exampleMachine_run.follow (fun _ _ => trivial) followed)⟩

end AlorairLite.Cloud
