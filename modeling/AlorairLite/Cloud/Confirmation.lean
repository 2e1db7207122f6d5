import AlorairLite.Async.History
import AlorairLite.Cloud.Journey
import Mathlib.Tactic.SplitIfs

/-! What the cloud coordinator reports about a command is what a poll showed: the pending
entry that a poll judges belongs to the command whose feedback it writes. -/

namespace AlorairLite.Cloud

open Async

/-- The data is newer than the pending command, and shows the value it asked for. -/
structure Qualifying (key : String) (entry : PendingCommand) (data : Dict) : Prop where
  newer : ∃ sampled, utcSample data = some sampled ∧ entry.issuedAt ≤ sampled ∧
    ∀ held, entry.baseline = some held → held < sampled
  shown : shows data key entry.wanted ∨
    key = "powerStatus" ∧ entry.wanted = .code "01" ∧ powered data = some true

/-- A poll among these events confirms the command. -/
def Confirms (key : String) (entry : PendingCommand) (events : List CloudEvent) : Prop :=
  ∃ task data now stopped, .told task (.polled data now stopped) ∈ events ∧ Qualifying key entry data

/-- A command's feedback says so only after a poll has confirmed that very command. -/
def Sound (scene : CloudScene) : Prop :=
  ∀ past task k order seen future, scene.log = past ++ .told task (.issued k order seen) :: future →
    (scene.shared.feedbacks k).status = .deviceReported →
      Confirms order.key (seen.entry order) future

/-- Why a pending command is gone, after these events and in this history. -/
inductive Removal (key : String) (entry : PendingCommand) (events log : List CloudEvent) : Prop where
  | reported {task : Nat} {data : Dict} {now : ℚ} {stopped : Bool}
      (polled : .told task (.polled data now stopped) ∈ events) (qualifying : Qualifying key entry data)
  | expired {task : Nat} {data : Dict} {now : ℚ} {stopped : Bool}
      (polled : .told task (.polled data now stopped) ∈ events) (late : entry.deadline ≤ now)
  /-- The call of the command failed for good, and no later one had issued this key. -/
  | failed {past rest : List CloudEvent} {task k : Nat} {mac : String} {order : Order}
      {seen : Coordinator} {error : ClientError} (split : log = past ++ rest)
      (issued : .told task (.issued k order seen) ∈ past) (mine : order.key = key)
      (own : entry = seen.entry order)
      (latest : ∀ other k' order' seen', .told other (.issued k' order' seen') ∈ past →
        order'.key = key → k' ≤ k)
      (final : error.definitive)
      (answered : .delivered task ⟨.call mac order.request, .error error⟩ ∈ past)
  | overwritten {task k : Nat} {order : Order} {seen : Coordinator}
      (issued : .told task (.issued k order seen) ∈ events) (mine : order.key = key)

theorem Confirms.append {key : String} {entry : PendingCommand} {events later : List CloudEvent}
    (confirms : Confirms key entry events) : Confirms key entry (events ++ later) := by
  obtain ⟨task, data, now, stopped, polled, qualifying⟩ := confirms
  exact ⟨task, data, now, stopped, List.mem_append_left _ polled, qualifying⟩

theorem Removal.append {key : String} {entry : PendingCommand} {events log later : List CloudEvent}
    (removal : Removal key entry events log) : Removal key entry (events ++ later) (log ++ later) := by
  cases removal with
  | reported polled qualifying => exact .reported (List.mem_append_left _ polled) qualifying
  | expired polled late => exact .expired (List.mem_append_left _ polled) late
  | failed split issued mine own latest final answered =>
    exact .failed (by rw [split, List.append_assoc]) issued mine own latest final answered
  | overwritten issued mine => exact .overwritten (List.mem_append_left _ issued) mine

theorem Removal.prepend {key : String} {entry : PendingCommand} {events log : List CloudEvent}
    (earlier : List CloudEvent) (removal : Removal key entry events log) :
    Removal key entry (earlier ++ events) log := by
  cases removal with
  | reported polled qualifying => exact .reported (List.mem_append_right _ polled) qualifying
  | expired polled late => exact .expired (List.mem_append_right _ polled) late
  | failed split issued mine own latest final answered =>
    exact .failed split issued mine own latest final answered
  | overwritten issued mine => exact .overwritten (List.mem_append_right _ issued) mine

/-- Each command that was pending still is, or is gone for a reason. -/
def Accounted (scene after : CloudScene) : Prop :=
  ∃ events, after.log = scene.log ++ events ∧ ∀ key entry, scene.shared.pending key = some entry →
    after.shared.pending key = some entry ∨ Removal key entry events after.log

theorem Accounted.trans {first second third : CloudScene} (earlier : Accounted first second)
    (later : Accounted second third) : Accounted first third := by
  obtain ⟨events, log, kept⟩ := earlier
  obtain ⟨events', log', kept'⟩ := later
  refine ⟨events ++ events', by rw [log', log, List.append_assoc], fun key entry pending => ?_⟩
  rcases kept key entry pending with still | removal
  · rcases kept' key entry still with still | removal
    · exact .inl still
    · exact .inr (removal.prepend events)
  · rw [log']
    exact .inr removal.append

/-- Whose pending entry the last command's is. -/
structure Matched (scene : CloudScene) : Prop where
  numbered : ∀ task k order seen, .told task (.issued k order seen) ∈ scene.log →
    k < scene.shared.feedbackCount
  own : ∀ task k order seen, .told task (.issued k order seen) ∈ scene.log →
    scene.shared.lastCommand = some k → (scene.shared.feedbacks k).field = some order.key ∧
      ∀ entry, scene.shared.pending order.key = some entry → entry = seen.entry order
  sound : Sound scene

theorem Coordinator.reported_qualifying {s : Coordinator} {data : Dict} {on : Bool} {key : String}
    {entry : PendingCommand} (status : powered data = some on)
    (reported : s.resolution data on key entry = .reported) : Qualifying key entry data := by
  unfold resolution at reported
  split_ifs at reported with met
  obtain ⟨shown, fresh⟩ := Bool.and_eq_true_iff.mp met
  refine ⟨?_, ?_⟩
  · unfold Cloud.newer at fresh
    split at fresh
    · cases fresh
    · rename_i sampled found
      obtain ⟨issued, after⟩ := Bool.and_eq_true_iff.mp fresh
      refine ⟨sampled, found, by simpa using issued, fun held same => ?_⟩
      rw [same] at after
      simpa using after
  · rcases Bool.or_eq_true_iff.mp shown with same | started
    · exact .inl same
    · simp only [Bool.and_eq_true, decide_eq_true_eq] at started
      obtain ⟨⟨power, wanted⟩, running⟩ := started
      exact .inr ⟨power, wanted, running ▸ status⟩

theorem Coordinator.expired_over {s : Coordinator} {data : Dict} {on : Bool} {key : String}
    {entry : PendingCommand} (expired : s.resolution data on key entry = .expired) :
    entry.deadline ≤ s.now := by
  unfold resolution at expired
  split_ifs at expired with _ late
  exact late

theorem Coordinator.observe_pending (s : Coordinator) (data : Dict) (on : Bool) (key : String) :
    (s.observe data on).pending key = (s.pending key).bind fun entry =>
      if s.resolution data on key entry = .kept then some entry else none := rfl

section Changes

variable {careful : Prop} {actor : Option Nat} {scene after : CloudScene}

theorem Change.accounted (change : Change careful actor scene after) (coherent : Coherent scene)
    (matched : Matched scene) : Accounted scene after := by
  have keep : after.shared.pending = scene.shared.pending → Accounted scene after := fun same => by
    obtain ⟨events, log⟩ := change.log
    exact ⟨events, log, fun key entry pending => .inl (same ▸ pending)⟩
  cases change with
  | @poll task _ data on status =>
    refine ⟨[_], rfl, fun key entry pending => ?_⟩
    have resolved := scene.shared.observe_pending data on key
    rw [pending, Option.bind_some] at resolved
    cases resolution : scene.shared.resolution data on key entry with
    | kept => exact .inl (resolved.trans (if_pos resolution))
    | reported =>
      exact .inr (.reported (List.mem_singleton_self _)
        (Coordinator.reported_qualifying status resolution))
    | expired =>
      exact .inr (.expired (List.mem_singleton_self _) (Coordinator.expired_over resolution))
  | @issue task _ mac order held begun admitted =>
    refine ⟨_, List.append_assoc .., fun key entry pending => ?_⟩
    by_cases mine : key = order.key
    · exact .inr (.overwritten (List.mem_append_left _ (List.mem_singleton_self _)) mine.symm)
    · exact .inl ((Function.update_of_ne mine _ _).trans pending)
  | @drop task k _ mac order seen error held last field told final failed =>
    refine ⟨[], (List.append_nil _).symm, fun key entry pending => ?_⟩
    by_cases mine : key = order.key
    · subst mine
      have whole : scene.log = scene.log ++ [] := (List.append_nil _).symm
      refine .inr (.failed whole told rfl ((matched.own _ _ _ _ told last).2 _ pending) ?_ final failed)
      intro other k' order' seen' issued _
      have below := matched.numbered _ _ _ _ issued
      rw [← coherent.last k last] at below
      exact Nat.le_of_lt_succ below
    · exact .inl ((Function.update_of_ne mine _ _).trans pending)
  | _ => exact keep rfl

/-- An event that issues nothing. -/
theorem Matched.emit {event : CloudEvent} (matched : Matched scene)
    (other : ∀ task k order seen, event ≠ .told task (.issued k order seen)) :
    Matched (scene.emit event) := by
  have before : ∀ {task k order seen}, .told task (.issued k order seen) ∈ (scene.emit event).log →
      .told task (.issued k order seen) ∈ scene.log := fun issued => by
    rcases List.mem_append.mp issued with old | new
    · exact old
    · exact absurd (List.mem_singleton.mp new).symm (other _ _ _ _)
  refine ⟨fun task k order seen issued => matched.numbered _ _ _ _ (before issued),
    fun task k order seen issued => matched.own _ _ _ _ (before issued), ?_⟩
  intro past task k order seen future split reported
  rcases split_append_singleton split with ⟨rest, rfl, old⟩ | ⟨-, -, same⟩
  · exact (matched.sound _ _ _ _ _ _ old reported).append
  · exact absurd same (other _ _ _ _)

/-- A change that confirms nothing and writes no entry. -/
theorem Matched.change {move : Coordinator → Coordinator} (matched : Matched scene)
    (count : (move scene.shared).feedbackCount = scene.shared.feedbackCount)
    (last : (move scene.shared).lastCommand = scene.shared.lastCommand)
    (field : ∀ k, ((move scene.shared).feedbacks k).field = (scene.shared.feedbacks k).field)
    (pending : ∀ key entry, (move scene.shared).pending key = some entry →
      scene.shared.pending key = some entry)
    (reported : ∀ k, ((move scene.shared).feedbacks k).status = .deviceReported →
      (scene.shared.feedbacks k).status = .deviceReported) : Matched (scene.change move) where
  numbered task k order seen issued := (matched.numbered _ _ _ _ issued).trans_eq count.symm
  own task k order seen issued same := by
    obtain ⟨named, own⟩ := matched.own _ _ _ _ issued (last ▸ same)
    exact ⟨(field k).trans named, fun entry held => own entry (pending _ _ held)⟩
  sound past task k order seen future split shown :=
    matched.sound _ _ _ _ _ _ split (reported k shown)

theorem Matched.setFeedback {k : Nat} {feedback : CommandFeedback} (matched : Matched scene)
    (field : feedback.field = (scene.shared.feedbacks k).field)
    (status : feedback.status = .deviceReported → (scene.shared.feedbacks k).status = .deviceReported) :
    Matched (scene.change (·.setFeedback k feedback)) := by
  refine matched.change rfl rfl (scene.shared.setFeedback_field field) (fun _ _ => id) fun j shown => ?_
  by_cases equal : j = k
  · subst equal
    rw [Coordinator.setFeedback_self] at shown
    exact status shown
  · rw [Coordinator.setFeedback_of_ne _ _ equal] at shown
    exact shown

/-- A new feedback object belongs to no command so far. -/
theorem Matched.newFeedback (matched : Matched scene) (feedback : CommandFeedback) :
    Matched (scene.change (·.newFeedback feedback)) where
  numbered task k order seen issued := Nat.lt_succ_of_lt (matched.numbered _ _ _ _ issued)
  own task k order seen issued last := by
    cases last
    exact absurd (matched.numbered _ _ _ _ issued) (Nat.lt_irrefl _)
  sound past task k order seen future split shown := by
    have below := matched.numbered task k order seen (split ▸ List.mem_append_right _ List.mem_cons_self)
    have kept : ((scene.shared.setFeedback scene.shared.feedbackCount feedback).feedbacks k).status =
        .deviceReported := shown
    rw [Coordinator.setFeedback_of_ne _ _ (Nat.ne_of_lt below)] at kept
    exact matched.sound _ _ _ _ _ _ split kept

theorem Matched.issue {task : Nat} {order : Order} {mac : String} (matched : Matched scene) :
    Matched (((scene.change (·.issue order)).emit
      (.told task (.issued scene.shared.feedbackCount order scene.shared))).emit
        (.asked task (.call mac order.request))) := by
  refine Matched.emit ?_ (by rintro _ _ _ _ ⟨⟩)
  have recorded : Matched (scene.change (·.newFeedback {
      action := order.request.action, status := .awaitingFeedback, issuedAt := scene.shared.wall
      deadline := scene.shared.now + pendingSeconds, field := some order.key
      requested := some order.wanted })) := matched.newFeedback _
  have fresh := scene.shared.issue_feedback order
  refine ⟨fun teller k order' seen issued => ?_, fun teller k order' seen issued last => ?_, ?_⟩
  · rcases List.mem_append.mp issued with old | new
    · exact recorded.numbered _ _ _ _ old
    · cases List.mem_singleton.mp new
      exact Nat.lt_succ_self _
  · rcases List.mem_append.mp issued with old | new
    · cases last
      exact absurd (matched.numbered _ _ _ _ old) (Nat.lt_irrefl _)
    · cases List.mem_singleton.mp new
      refine ⟨congrArg CommandFeedback.field fresh, fun entry pending => ?_⟩
      have stored : (scene.shared.issue order).pending order.key = some (scene.shared.entry order) :=
        Function.update_self ..
      exact Option.some.inj (pending.symm.trans stored)
  · intro past teller k order' seen future split shown
    rcases split_append_singleton split with ⟨rest, rfl, old⟩ | ⟨-, -, same⟩
    · exact (recorded.sound _ _ _ _ _ _ old shown).append
    · cases same
      have waiting := congrArg CommandFeedback.status fresh
      cases waiting.symm.trans shown

theorem Matched.poll {task : Nat} {data : Dict} {on : Bool} (matched : Matched scene)
    (status : powered data = some on) : Matched (((scene.change (·.observe data on)).emit (.told task
      (.polled data scene.shared.now (scene.shared.confirmsStop data on)))).change (·.store data)) := by
  have emitted : Matched (scene.emit (.told task
      (.polled data scene.shared.now (scene.shared.confirmsStop data on)))) :=
    matched.emit (by rintro _ _ _ _ ⟨⟩)
  refine ⟨fun teller k order seen issued => ?_, fun teller k order seen issued last => ?_, ?_⟩
  · exact (emitted.numbered _ _ _ _ issued).trans_eq (scene.shared.observe_feedbackCount data on).symm
  · have named := (scene.shared.observe_lastCommand data on).symm.trans last
    obtain ⟨field, own⟩ := emitted.own _ _ _ _ issued named
    refine ⟨((scene.shared.noted data on).judge_field data on k).trans field, fun entry held => ?_⟩
    have resolved := (scene.shared.observe_pending data on order.key).symm.trans held
    obtain ⟨stored, pending, kept⟩ := Option.bind_eq_some_iff.mp resolved
    split_ifs at kept
    cases kept
    exact own entry pending
  · intro past teller k order seen future split shown
    have reported : (((scene.shared.noted data on).judge data on).feedbacks k).status =
      .deviceReported := shown
    rcases (scene.shared.noted data on).judge_cases data on with
      same | ⟨j, key, entry, found, ⟨-, same⟩ | ⟨resolution, same⟩⟩
    · rw [same] at reported
      exact emitted.sound _ _ _ _ _ _ split reported
    · rw [same, Coordinator.setStatus] at reported
      by_cases equal : k = j
      · subst equal
        rw [Coordinator.setFeedback_self] at reported
        cases reported
      · rw [Coordinator.setFeedback_of_ne _ _ equal] at reported
        exact emitted.sound _ _ _ _ _ _ split reported
    · by_cases equal : k = j
      · subst equal
        -- The poll judges the last command by the entry that this command left.
        obtain ⟨last, named, pending, -⟩ := Coordinator.answering_spec found
        have issued : .told teller (.issued k order seen) ∈ past ++ .told teller
            (.issued k order seen) :: future := List.mem_append_right _ List.mem_cons_self
        obtain ⟨field, own⟩ := emitted.own _ _ _ _ (split ▸ issued) last
        cases named.symm.trans field
        cases own _ pending
        rcases split_append_singleton split with ⟨rest, rfl, -⟩ | ⟨-, -, impossible⟩
        · exact ⟨task, data, _, _, List.mem_append_right _ (List.mem_singleton_self _),
            Coordinator.reported_qualifying status resolution⟩
        · cases impossible
      · rw [same, Coordinator.setFeedback_of_ne _ _ equal] at reported
        exact emitted.sound _ _ _ _ _ _ split reported

theorem Change.matched (change : Change careful actor scene after) (matched : Matched scene) :
    Matched after := by
  have keep : ∀ {move : Coordinator → Coordinator},
      (move scene.shared).feedbackCount = scene.shared.feedbackCount →
      (move scene.shared).lastCommand = scene.shared.lastCommand →
      (move scene.shared).feedbacks = scene.shared.feedbacks →
      (move scene.shared).pending = scene.shared.pending → Matched (scene.change move) :=
    fun count last feedbacks pending => matched.change count last (fun k => by rw [feedbacks])
      (fun key entry held => pending ▸ held) fun k shown => feedbacks ▸ shown
  cases change with
  | @event _ _ event quiet =>
    refine matched.emit fun task k order seen same => ?_
    rw [same] at quiet
    cases quiet
  | poll status => exact matched.poll status
  | issue held begun admitted => exact matched.issue
  | create held plain waits =>
    exact (matched.newFeedback _).emit (by rintro _ _ _ _ ⟨⟩)
  | fail held last negative spares =>
    refine matched.setFeedback rfl fun shown => ?_
    rcases negative with same | same
    · cases same.symm.trans shown
    · cases same.symm.trans shown
  | @drop task k _ mac order seen error held last field told final failed =>
    refine matched.change rfl rfl (fun _ => rfl) (fun key entry pending => ?_) fun _ => id
    by_cases mine : key = order.key
    · subst mine
      cases (Function.update_self _ _ _).symm.trans pending
    · exact (Function.update_of_ne mine _ _).symm.trans pending
  | acknowledge held => exact matched.setFeedback rfl id
  | cloudAcknowledge held plain => exact matched.setFeedback rfl (by rintro ⟨⟩)
  | _ => exact keep rfl rfl rfl rfl

/-- Feedback about a field is that of an issued command. -/
def Named (scene : CloudScene) : Prop :=
  ∀ k, (scene.shared.feedbacks k).field.isSome →
    ∃ task order seen, .told task (.issued k order seen) ∈ scene.log

theorem Change.named (change : Change careful actor scene after) (named : Named scene) :
    Named after := by
  obtain ⟨events, log⟩ := change.log
  have kept : ∀ k, (scene.shared.feedbacks k).field.isSome →
      ∃ task order seen, .told task (.issued k order seen) ∈ after.log := fun k about => by
    obtain ⟨task, order, seen, issued⟩ := named k about
    exact ⟨task, order, seen, log ▸ List.mem_append_left _ issued⟩
  have keep : (∀ k, (after.shared.feedbacks k).field = (scene.shared.feedbacks k).field) →
      Named after := fun same k about => kept k (same k ▸ about)
  have older : ∀ {feedback k}, k ≠ scene.shared.feedbackCount →
      ((scene.shared.setFeedback scene.shared.feedbackCount feedback).feedbacks k).field.isSome →
        ∃ task order seen, .told task (.issued k order seen) ∈ after.log := fun differs about => by
    rw [Coordinator.setFeedback_of_ne _ _ differs] at about
    exact kept _ about
  cases change with
  | @poll task _ data on status => exact keep ((scene.shared.noted data on).judge_field data on)
  | @issue task _ mac order held begun admitted =>
    intro k about
    by_cases fresh : k = scene.shared.feedbackCount
    · subst fresh
      exact ⟨task, order, scene.shared, List.mem_append_left _
        (List.mem_append_right _ (List.mem_singleton_self _))⟩
    · exact older fresh about
  | @create task _ feedback held plain waits =>
    intro k about
    by_cases fresh : k = scene.shared.feedbackCount
    · subst fresh
      have absent : ((scene.shared.newFeedback feedback).feedbacks scene.shared.feedbackCount).field =
          none := (congrArg CommandFeedback.field (scene.shared.setFeedback_self _ _)).trans plain
      cases (congrArg Option.isSome absent).symm.trans about
    · exact older fresh about
  | fail held last negative spares => exact keep (scene.shared.setFeedback_field rfl)
  | acknowledge held => exact keep (scene.shared.setFeedback_field rfl)
  | cloudAcknowledge held plain => exact keep (scene.shared.setFeedback_field rfl)
  | _ => exact keep fun _ => rfl

theorem Matched.start {now wall : ℚ} : Matched { shared := Coordinator.start now wall } where
  numbered _ _ _ _ issued := by cases issued
  own _ _ _ _ issued := by cases issued
  sound past _ _ _ _ _ split := by simp at split

end Changes

/-- In every run, feedback that a device reported something is that of an issued command and
goes back to a poll after it, with a newer sample that shows what it asked for. And between
any two states of the run, a pending command stays pending unless such a poll, its deadline,
the final failure of the last command for its key, or a new command for it removed it. -/
theorem confirmation_sound {mac : String} {machine : CloudMachine}
    (run : Reachable (coordinator mac) machine) :
    (∀ k, (machine.scene.shared.feedbacks k).status = .deviceReported →
      ∃ task order seen, .told task (.issued k order seen) ∈ machine.scene.log) ∧
    Sound machine.scene ∧ ∀ after, Onward (coordinator mac) (fun _ _ => True) machine after →
      Accounted machine.scene after.scene := by
  have spares : ∀ machine label, True → False → Sparing machine label := fun _ _ _ => False.elim
  obtain ⟨kept, now, wall, journey⟩ := run_journey spares run
  have matched : Matched machine.scene :=
    journey.invariant Matched .start .start fun _ before change => change.matched before
  have named : Named machine.scene := by
    apply journey.invariant Named .start ?_ fun _ before change => change.named before
    intro k about
    cases about
  refine ⟨fun k shown => named k (kept.invariant.reported k shown), matched.sound,
    fun after onward => ?_⟩
  have further := onward_journey spares run onward
  have reached : Matched after.scene ∧ Accounted machine.scene after.scene := by
    apply further.invariant (fun scene => Matched scene ∧ Accounted machine.scene scene) kept.invariant
    · exact ⟨matched, [], (List.append_nil _).symm, fun _ _ => .inl⟩
    · rintro actor scene after coherent ⟨before, accounted⟩ change
      exact ⟨change.matched before, accounted.trans (change.accounted coherent before)⟩
  exact reached.2

theorem confirmation_sound_example : ∃ machine,
    (coordinator "0011").follow exampleMachine examplePurge = some machine ∧
      (machine.scene.shared.feedbacks 0).status = .deviceReported ∧
        machine.scene.shared.pending "drainStatus" = none ∧ Sound machine.scene := by
  have shown : (((coordinator "0011").follow exampleMachine examplePurge).map fun machine =>
      decide ((machine.scene.shared.feedbacks 0).status = .deviceReported) &&
        (machine.scene.shared.pending "drainStatus").isNone) = some true := by decide +kernel
  obtain ⟨machine, followed, facts⟩ := Option.map_eq_some_iff.mp shown
  simp only [Bool.and_eq_true, decide_eq_true_eq, Option.isNone_iff_eq_none] at facts
  exact ⟨machine, followed, facts.1, facts.2,
    (confirmation_sound (exampleMachine_run.follow (fun _ _ => trivial) followed)).2.1⟩

end AlorairLite.Cloud
