import AlorairLite.Cloud.Confirmation

/-! A confirmed command stays confirmed as long as no failure meets it: the failure handlers
of the coordinator write without looking at what a poll has written before. -/

namespace AlorairLite.Cloud

open Async

/-- A command or an experimental change was recorded with this feedback object. -/
inductive Makes (k : Nat) : CloudEvent → Prop where
  | command {task : Nat} {order : Order} {seen : Coordinator} : Makes k (.told task (.issued k order seen))
  | experimental {task : Nat} {action : String} : Makes k (.told task (.proposed k action))

/-- A later command has replaced the last one by a new object. -/
def Replaced (scene after : CloudScene) : Prop :=
  ∃ events event k, after.log = scene.log ++ events ∧ event ∈ events ∧ Makes k event ∧
    after.shared.lastCommand = some k

/-- What was confirmed still is, and the last command is the same or a new one. -/
structure Lasting (scene after : CloudScene) : Prop where
  status : ∀ k, (scene.shared.feedbacks k).status = .deviceReported →
    (after.shared.feedbacks k).status = .deviceReported
  last : after.shared.lastCommand = scene.shared.lastCommand ∨ Replaced scene after

/-- A confirmed last command has no pending entry left. -/
def Settled (scene : CloudScene) : Prop :=
  ∀ k key, scene.shared.lastCommand = some k → (scene.shared.feedbacks k).field = some key →
    (scene.shared.feedbacks k).status = .deviceReported → scene.shared.pending key = none

theorem Lasting.refl (scene : CloudScene) : Lasting scene scene := ⟨fun _ => id, .inl rfl⟩

theorem Lasting.trans {first second third : CloudScene} (earlier : Lasting first second)
    (later : Lasting second third) (log : ∃ events, second.log = first.log ++ events)
    (log' : ∃ events, third.log = second.log ++ events) : Lasting first third := by
  refine ⟨fun k shown => later.status k (earlier.status k shown), ?_⟩
  obtain ⟨before, log⟩ := log
  rcases later.last with same | ⟨events, event, k, split, member, makes, last⟩
  · rcases earlier.last with same' | ⟨events, event, k, split, member, makes, last⟩
    · exact .inl (same.trans same')
    · obtain ⟨behind, log'⟩ := log'
      exact .inr ⟨events ++ behind, event, k, by rw [log', split, List.append_assoc],
        List.mem_append_left _ member, makes, same.trans last⟩
  · exact .inr ⟨before ++ events, event, k, by rw [split, log, List.append_assoc],
      List.mem_append_right _ member, makes, last⟩

section Changes

variable {actor : Option Nat} {scene after : CloudScene}

/-- A change of one feedback object that is not a confirmed one, or stays confirmed. -/
theorem Lasting.setFeedback {k : Nat} {feedback : CommandFeedback}
    (kept : (scene.shared.feedbacks k).status = .deviceReported → feedback.status = .deviceReported) :
    Lasting scene (scene.change (·.setFeedback k feedback)) := by
  refine ⟨fun j shown => ?_, .inl rfl⟩
  show ((scene.shared.setFeedback k feedback).feedbacks j).status = _
  by_cases equal : j = k
  · subst equal
    rw [Coordinator.setFeedback_self]
    exact kept shown
  · rw [Coordinator.setFeedback_of_ne _ _ equal]
    exact shown

/-- A new feedback object leaves the confirmed ones alone. -/
theorem newFeedback_status {feedback : CommandFeedback} (coherent : Coherent scene)
    (matched : Matched scene) (named : Named scene) {k : Nat}
    (shown : (scene.shared.feedbacks k).status = .deviceReported) :
    ((scene.shared.newFeedback feedback).feedbacks k).status = .deviceReported := by
  obtain ⟨task, order, seen, issued⟩ := named k (coherent.reported k shown)
  have below := matched.numbered _ _ _ _ issued
  exact (congrArg CommandFeedback.status (Function.update_of_ne (Nat.ne_of_lt below) _ _)).trans shown

/-- A poll confirms, and takes back no confirmation. -/
theorem Lasting.poll {task : Nat} {data : Dict} {on : Bool} (settled : Settled scene) :
    Lasting scene (((scene.change (·.observe data on)).emit (.told task
      (.polled data scene.shared.now (scene.shared.confirmsStop data on)))).change (·.store data)) := by
  refine ⟨fun k shown => ?_, .inl (scene.shared.observe_lastCommand data on)⟩
  show (((scene.shared.noted data on).judge data on).feedbacks k).status = .deviceReported
  rcases (scene.shared.noted data on).judge_cases data on with
    same | ⟨j, key, entry, found, ⟨-, same⟩ | ⟨-, same⟩⟩
  · rw [same]
    exact shown
  · rw [same, Coordinator.setStatus]
    by_cases equal : k = j
    · subst equal
      obtain ⟨last, named, pending, -⟩ := Coordinator.answering_spec found
      cases (settled k key last named shown).symm.trans pending
    · rw [Coordinator.setFeedback_of_ne _ _ equal]
      exact shown
  · rw [same]
    by_cases equal : k = j
    · subst equal
      rw [Coordinator.setFeedback_self]
    · rw [Coordinator.setFeedback_of_ne _ _ equal]
      exact shown

theorem Change.lasting (change : Change True actor scene after) (coherent : Coherent scene)
    (matched : Matched scene) (named : Named scene) (settled : Settled scene) : Lasting scene after := by
  have keep : after.shared.feedbacks = scene.shared.feedbacks →
      after.shared.lastCommand = scene.shared.lastCommand → Lasting scene after :=
    fun same last => ⟨fun k shown => same ▸ shown, .inl last⟩
  cases change with
  | poll status => exact .poll settled
  | issue held begun admitted =>
    refine ⟨fun k shown => newFeedback_status coherent matched named shown, .inr ?_⟩
    exact ⟨_, _, _, List.append_assoc .., List.mem_append_left _ (List.mem_singleton_self _), .command, rfl⟩
  | create held plain waits =>
    refine ⟨fun k shown => newFeedback_status coherent matched named shown, .inr ?_⟩
    exact ⟨_, _, _, rfl, List.mem_singleton_self _, .experimental, rfl⟩
  | fail held last negative spares =>
    exact .setFeedback fun shown => absurd shown (spares trivial)
  | acknowledge held => exact .setFeedback id
  | cloudAcknowledge held plain =>
    refine .setFeedback fun shown => ?_
    have about := coherent.reported _ shown
    rw [plain] at about
    cases about
  | _ => exact keep rfl rfl

theorem Settled.setFeedback {k : Nat} {feedback : CommandFeedback} (settled : Settled scene)
    (field : feedback.field = (scene.shared.feedbacks k).field)
    (status : feedback.status = .deviceReported → (scene.shared.feedbacks k).status = .deviceReported) :
    Settled (scene.change (·.setFeedback k feedback)) := by
  intro j key last named shown
  have named := (scene.shared.setFeedback_field field j).symm.trans named
  have shown : ((scene.shared.setFeedback k feedback).feedbacks j).status = .deviceReported := shown
  apply settled j key last named
  by_cases equal : j = k
  · subst equal
    rw [Coordinator.setFeedback_self] at shown
    exact status shown
  · rw [Coordinator.setFeedback_of_ne _ _ equal] at shown
    exact shown

theorem Settled.newFeedback {feedback : CommandFeedback} (waits : feedback.status ≠ .deviceReported) :
    Settled (scene.change (·.newFeedback feedback)) := by
  intro k key last named shown
  cases last
  have fresh := congrArg CommandFeedback.status
    (scene.shared.setFeedback_self scene.shared.feedbackCount feedback)
  exact absurd (fresh.symm.trans shown) waits

theorem Change.settled {careful : Prop} (change : Change careful actor scene after)
    (settled : Settled scene) : Settled after := by
  cases change with
  | @poll task _ data on status =>
    intro k key last named shown
    have last := (scene.shared.observe_lastCommand data on).symm.trans last
    have named := ((scene.shared.noted data on).judge_field data on k).symm.trans named
    have shown : (((scene.shared.noted data on).judge data on).feedbacks k).status =
      .deviceReported := shown
    refine (scene.shared.observe_pending data on key).trans ?_
    rcases (scene.shared.noted data on).judge_cases data on with
      same | ⟨j, key', entry, found, ⟨-, same⟩ | ⟨resolution, same⟩⟩
    · rw [same] at shown
      rw [settled k key last named shown, Option.bind_none]
    · rw [same, Coordinator.setStatus] at shown
      obtain ⟨last', -, -, -⟩ := Coordinator.answering_spec found
      cases last.symm.trans last'
      rw [Coordinator.setFeedback_self] at shown
      cases shown
    · obtain ⟨last', named', pending, -⟩ := Coordinator.answering_spec found
      cases last.symm.trans last'
      cases named.symm.trans named'
      have gone : scene.shared.resolution data on key entry ≠ .kept := fun kept => by
        cases resolution.symm.trans kept
      have stored : scene.shared.pending key = some entry := pending
      rw [stored, Option.bind_some]
      exact if_neg gone
  | @issue task _ mac order held begun admitted =>
    intro k key last named shown
    cases last
    have waiting := congrArg CommandFeedback.status (scene.shared.issue_feedback order)
    cases waiting.symm.trans shown
  | @create task _ feedback held plain waits =>
    have recorded : Settled (scene.change (·.newFeedback feedback)) := .newFeedback (by simp [waits])
    exact recorded
  | fail held last negative spares =>
    refine settled.setFeedback rfl fun shown => ?_
    rcases negative with same | same
    · cases same.symm.trans shown
    · cases same.symm.trans shown
  | @drop task k _ mac order seen error held last field told final failed =>
    intro j key last named shown
    by_cases mine : key = order.key
    · subst mine
      exact Function.update_self ..
    · exact (Function.update_of_ne mine _ _).trans (settled j key last named shown)
  | acknowledge held => exact settled.setFeedback rfl id
  | cloudAcknowledge held plain => exact settled.setFeedback rfl (by rintro ⟨⟩)
  | _ => exact settled

end Changes

/-- Between any two states of a run in which no failure of a call and no deadline meets a
task whose command is confirmed, what was confirmed still is, and only a later command or
experimental change replaces the last command, by a new object. -/
theorem confirmed_lasts {mac : String} {machine after : CloudMachine}
    (run : Run (coordinator mac) Sparing machine)
    (onward : Onward (coordinator mac) Sparing machine after) :
    Lasting machine.scene after.scene := by
  have spares : ∀ machine label, Sparing machine label → True → Sparing machine label :=
    fun _ _ spared _ => spared
  obtain ⟨kept, now, wall, journey⟩ := run_journey spares run
  have facts : Matched machine.scene ∧ Named machine.scene ∧ Settled machine.scene := by
    apply journey.invariant (fun scene => Matched scene ∧ Named scene ∧ Settled scene) .start
    · refine ⟨.start, ?_, ?_⟩
      · rintro k ⟨⟩
      · rintro k key ⟨⟩
    · rintro actor scene after _ ⟨matched, named, settled⟩ change
      exact ⟨change.matched matched, change.named named, change.settled settled⟩
  have reached : (∃ events, after.scene.log = machine.scene.log ++ events) ∧
      (Matched after.scene ∧ Named after.scene ∧ Settled after.scene) ∧
        Lasting machine.scene after.scene := by
    apply (onward_journey spares run onward).invariant (fun scene =>
      (∃ events, scene.log = machine.scene.log ++ events) ∧
        (Matched scene ∧ Named scene ∧ Settled scene) ∧ Lasting machine.scene scene) kept.invariant
    · exact ⟨⟨[], (List.append_nil _).symm⟩, facts, .refl _⟩
    · rintro actor scene after coherent ⟨log, ⟨matched, named, settled⟩, lasting⟩ change
      obtain ⟨events, split⟩ := log
      obtain ⟨later, split'⟩ := change.log
      refine ⟨⟨events ++ later, by rw [split', split, List.append_assoc]⟩,
        ⟨change.matched matched, change.named named, change.settled settled⟩, ?_⟩
      exact lasting.trans (change.lasting coherent matched named settled) ⟨events, split⟩ ⟨later, split'⟩
  exact reached.2.2

/-- Nothing fails and nobody is interrupted. -/
def smooth (machine : CloudMachine) : Step face Operation → Bool
  | .resume task => ((machine.tasks task).bind (·.answer)).all fun reply =>
    !Query.failing reply.1 reply.2
  | .interrupt _ _ => false
  | _ => true

theorem smooth_sparing {machine : CloudMachine} {label : Step face Operation}
    (calm : smooth machine label) : Sparing machine label := by
  cases label with
  | resume task =>
    intro held reply found given failing
    simp [smooth, found, given, failing] at calm
  | interrupt task reason => cases calm
  | _ => trivial

/-- The call of the purge ends in this way. -/
def purgeEnds (result : Except ClientError Unit) : List (Step face Operation) :=
  [.answer 1 ⟨.call "0011" .purge, result⟩, .resume 1]

theorem confirmed_lasts_example : ∃ machine after,
    ((coordinator "0011").checked smooth).follow exampleMachine examplePurge = some machine ∧
      ((coordinator "0011").checked smooth).follow machine (purgeEnds (.ok ())) = some after ∧
        (machine.scene.shared.feedbacks 0).status = .deviceReported ∧
          Lasting machine.scene after.scene := by
  have shown : ((((coordinator "0011").checked smooth).follow exampleMachine examplePurge).map
      fun machine => decide ((machine.scene.shared.feedbacks 0).status = .deviceReported) &&
        (((coordinator "0011").checked smooth).follow machine (purgeEnds (.ok ()))).isSome) =
          some true := by decide +kernel
  obtain ⟨machine, followed, facts⟩ := Option.map_eq_some_iff.mp shown
  simp only [Bool.and_eq_true, decide_eq_true_eq] at facts
  obtain ⟨confirmed, goes⟩ := facts
  obtain ⟨after, ended⟩ := Option.isSome_iff_exists.mp goes
  obtain ⟨run, -⟩ := exampleMachine_run.of_checked (fun _ _ => smooth_sparing) followed
  exact ⟨machine, after, followed, ended, confirmed,
    confirmed_lasts run (Onward.here.of_follow (fun _ _ => smooth_sparing) ended)⟩

/-- The call is answered with a lost connection after a poll has confirmed its command. -/
theorem late_failure_unconfirms : ¬ ∀ mac machine after, Reachable (coordinator mac) machine →
    Onward (coordinator mac) (fun _ _ => True) machine after → Lasting machine.scene after.scene := by
  have shown : (((coordinator "0011").follow exampleMachine examplePurge).bind fun machine =>
      (((coordinator "0011").checked fun _ _ => true).follow machine
        (purgeEnds (.error .cannotConnect))).map fun after =>
          decide ((machine.scene.shared.feedbacks 0).status = .deviceReported) &&
            decide ((after.scene.shared.feedbacks 0).status = .deliveryUncertain)) = some true := by
    decide +kernel
  obtain ⟨machine, followed, rest⟩ := Option.bind_eq_some_iff.mp shown
  obtain ⟨after, ended, facts⟩ := Option.map_eq_some_iff.mp rest
  simp only [Bool.and_eq_true, decide_eq_true_eq] at facts
  obtain ⟨confirmed, uncertain⟩ := facts
  intro lasting
  have run : Reachable (coordinator "0011") machine :=
    exampleMachine_run.follow (fun _ _ => trivial) followed
  have kept := (lasting _ _ _ run (Onward.here.of_follow (fun _ _ _ => trivial) ended)).status 0 confirmed
  cases uncertain.symm.trans kept

end AlorairLite.Cloud
