import AlorairLite.Local.Feedback

/-! The sensor of the last command (`AlorairCommandFeedback` of `sensor.py`) over the local connection:
what it says of the command that was issued last, and of its frame. -/

namespace AlorairLite.Entities

open Async Local

/-- `native_value`, for a feedback that is there. -/
def shownStatus (feedback : Feedback) (now : ℚ) : FeedbackStatus :=
  if feedback.status = .awaitingFeedback ∧ feedback.deadline ≤ now then .notObserved else feedback.status

/-- `native_value`; nothing stands for the text of a coordinator that issued no command. -/
def lastCommandState (u : Coordinator) : Option FeedbackStatus :=
  u.lastCommand.map fun feedback => shownStatus feedback u.client.now

/-- What a status of the sensor says of the command `k`, whose client call is `c`. -/
def Tells (u : Coordinator) (k c : Nat) (order : Order) (issued : ℚ) (feedback : Feedback) : FeedbackStatus → Prop
  | .awaitingFeedback => u.client.now < issued + pendingSeconds ∧
    ∀ verdict, .concluded k verdict ∈ u.log → ∃ error, verdict = .failed error
  | .notObserved => issued + pendingSeconds ≤ u.client.now ∧ ∀ status, .concluded k (.reported status) ∉ u.log
  | .deliveryUncertain => (∀ status, .ended c (.returned status) ∉ u.client.log) ∧
    (.ended c .cancelled ∈ u.client.log ∨ Wrote u.client.log c)
  | .rejected => (∃ error, .ended c (.raised error) ∈ u.client.log) ∧ ¬ Wrote u.client.log c ∧
    u.pending order.key = none
  | .deviceReported => ∃ status, .ended c (.returned status) ∈ u.client.log ∧ Wrote u.client.log c ∧
    issued ≤ status.receivedMonotonic ∧ status.reading order.opcode = order.request.setting ∧
      feedback.reportedAt = some status.receivedAt ∧ u.pending order.key = none

section Runs

variable {config : Config} {u : Coordinator} {k c : Nat} {order : Order} {issued : ℚ} {feedback : Feedback}

/-- A caller is told one outcome. -/
theorem ended_once (coherent : Coherent config True u.client) {outcome other : Outcome}
    (first : .ended c outcome ∈ u.client.log) (second : .ended c other ∈ u.client.log) : outcome = other := by
  have told := (coherent.callers c).told outcome first
  rw [(coherent.callers c).told other second] at told
  exact (CallerAt.ended.inj told).symm

/-- A feedback that was left open says so until the deadline, and from then on that nothing was seen. -/
theorem waits_tells (noted : Noted u k c order issued feedback) (waits : Waits feedback .awaitingFeedback u.client.now)
    (open_ : ∀ verdict, .concluded k verdict ∈ u.log → ∃ error, verdict = .failed error) :
    Tells u k c order issued feedback (shownStatus feedback u.client.now) := by
  have unreported : ∀ status, .concluded k (.reported status) ∉ u.log := by
    intro status member
    obtain ⟨error, impossible⟩ := open_ _ member
    cases impossible
  have late : feedback.deadline ≤ u.client.now → Tells u k c order issued feedback .notObserved := fun elapsed =>
    ⟨noted.deadline ▸ elapsed, unreported⟩
  unfold shownStatus
  rcases waits with waiting | ⟨closed, elapsed⟩
  · by_cases elapsed : feedback.deadline ≤ u.client.now
    · rw [if_pos ⟨waiting, elapsed⟩]
      exact late elapsed
    · rw [if_neg fun both => elapsed both.2, waiting]
      exact ⟨noted.deadline ▸ lt_of_not_ge elapsed, open_⟩
  · rw [closed, if_neg (by simp)]
    exact late elapsed

/-- What the feedback says of its command is so. -/
theorem Noted.tells (coherent : Coherent config True u.client) (noted : Noted u k c order issued feedback) :
    Tells u k c order issued feedback (shownStatus feedback u.client.now) := by
  have settled : ∀ {status}, feedback.status = status → status ≠ .awaitingFeedback →
      shownStatus feedback u.client.now = status := by
    intro status same other
    rw [shownStatus, if_neg fun both => other (same ▸ both.1), same]
  cases noted.stands with
  | calling calling silent waits =>
    exact waits_tells noted waits fun verdict member => absurd member (silent verdict)
  | @concluded verdict done listed grounds marks =>
    cases verdict with
    | reported status =>
      obtain ⟨ended, recent, reading⟩ := grounds
      obtain ⟨marked, -, reported⟩ := marks
      rw [settled marked (by simp)]
      exact ⟨status, ended, returned_wrote coherent ended, recent, reading, reported, noted.clear (.inl marked)⟩
    | uncertain =>
      rcases marks with marked | ⟨closed, elapsed⟩
      · rw [settled marked (by simp)]
        rcases grounds with cancelled | ⟨error, raised, uncertain⟩
        · refine ⟨fun status member => ?_, .inl cancelled⟩
          cases ended_once coherent cancelled member
        · refine ⟨fun status member => ?_, .inr ?_⟩
          · cases ended_once coherent raised member
          rcases ended_wrote coherent raised with ⟨-, wrote⟩ | ⟨certain, -⟩
          · exact wrote
          · rw [uncertain] at certain
            cases certain
      · rw [settled closed (by simp)]
        refine ⟨noted.deadline ▸ elapsed, fun status member => ?_⟩
        cases listed _ member
    | rejected =>
      obtain ⟨error, raised, certain, -⟩ := grounds
      rw [settled marks (by simp)]
      refine ⟨⟨error, raised⟩, ?_, noted.clear (.inr marks)⟩
      rcases ended_wrote coherent raised with ⟨uncertain, -⟩ | ⟨-, unwritten⟩
      · rw [certain] at uncertain
        cases uncertain
      · exact unwritten
    | failed error =>
      exact waits_tells noted marks fun verdict member => ⟨error, listed verdict member⟩

/-- The sensor of the last command tells the truth: it is about the command that was issued last, and what
it says holds of the client call of that command and of its frame. -/
theorem last_command_true (run : Reachable (coordinator config) u) :
    (lastCommandState u = none → ∀ k key wanted monotonic, .issued k key wanted monotonic ∉ u.log) ∧
      ∀ status, lastCommandState u = some status → ∃ origin k feedback,
        IssuedIn config origin k u ∧ u.lastCommand = some feedback ∧
          feedback.action = (origin.orders k).order.action ∧ feedback.requested = (origin.orders k).order.wanted ∧
            (∃ session, .called origin.client.callCount (origin.orders k).order.request session ∈ u.client.log) ∧
              Tells u k origin.client.callCount (origin.orders k).order origin.client.now feedback status := by
  constructor
  · intro absent
    exact (Run.booked run).2 (Option.map_eq_none_iff.mp absent)
  · intro status shows
    obtain ⟨feedback, found, rfl⟩ := Option.map_eq_some_iff.mp shows
    obtain ⟨origin, k, issuedIn, noted⟩ := Run.noted run found
    exact ⟨origin, k, feedback, issuedIn, found, noted.action, noted.requested, noted.called,
      Noted.tells (Run.linked run).1.coherent noted⟩

/-- A humidity command is confirmed by a report, and its call returns. -/
def reportedLabels : List Coordinator.Label := confirmedLabels ++ [.client (.execute 0 .ready), .resume 0]

theorem last_command_true_example : ∃ u,
    (coordinator exampleConfig).follow exampleCoordinator reportedLabels = some u ∧
      lastCommandState u = some .deviceReported ∧ ∃ origin k feedback, IssuedIn exampleConfig origin k u ∧
        Tells u k origin.client.callCount (origin.orders k).order origin.client.now feedback .deviceReported := by
  have shown : (((coordinator exampleConfig).follow exampleCoordinator reportedLabels).map fun u =>
      decide (lastCommandState u = some .deviceReported)) = some true := by decide +kernel
  obtain ⟨u, followed, reported⟩ := Option.map_eq_some_iff.mp shown
  have begun : Reachable (coordinator exampleConfig) exampleCoordinator := .start ⟨0, 0, false, le_rfl, rfl⟩
  obtain ⟨origin, k, feedback, issuedIn, -, -, -, -, tells⟩ :=
    (last_command_true (begun.follow (fun _ _ => trivial) followed)).2 _ (of_decide_eq_true reported)
  exact ⟨u, followed, of_decide_eq_true reported, origin, k, feedback, issuedIn, tells⟩

end Runs

end AlorairLite.Entities
