import AlorairLite.Async.History
import AlorairLite.Cloud.Journey
import Mathlib.Data.Rat.Floor
import Mathlib.Tactic.Linarith

/-! Compressor restart protection of the cloud coordinator: the one timestamp `lastOff`
dominates everything after which the compressor has to rest. -/

namespace AlorairLite.Cloud

open Async

def polledData : CloudEvent → Option Dict
  | .told _ (.polled data _ _) => some data
  | _ => none

/-- The data of the latest successful poll. -/
def latestPoll (past : List CloudEvent) : Option Dict := past.reverse.findSome? polledData

/-- The compressor has to rest after this event, which happened at this time: a command
to stop was issued, a poll saw the power go from on to off, or it confirmed a pending OFF. -/
inductive Stops (past : List CloudEvent) : CloudEvent → ℚ → Prop where
  | commanded {task k : Nat} {order : Order} {seen : Coordinator}
      (off : order.request = .setPower false) : Stops past (.told task (.issued k order seen)) seen.now
  | turned {task : Nat} {data : Dict} {now : ℚ} {stopped : Bool}
      (on : (latestPoll past).bind powered = some true) (off : powered data = some false) :
    Stops past (.told task (.polled data now stopped)) now
  | confirmed {task : Nat} {data : Dict} {now : ℚ} : Stops past (.told task (.polled data now true)) now

/-- More than the minimum has passed since construction and since every stop. -/
structure Rested (built now : ℚ) (past : List CloudEvent) : Prop where
  built : minimumOffSeconds - 1 / 1000 < now - built
  stops : Every (fun past event => ∀ time, Stops past event time →
    minimumOffSeconds - 1 / 1000 < now - time) past

/-- The unit may be started, as the coordinator stands. -/
structure Permitted (built : ℚ) (past : List CloudEvent) (seen : Coordinator) : Prop where
  calm : ∀ item, seen.pending "powerStatus" = some item → item.wanted = .code "00" →
    item.deadline ≤ seen.now
  rested : (latestPoll past).bind powered = some true ∨ Rested built seen.now past

/-- When the client is called to start the unit, the guards have just seen that it may be. -/
def Protected (built : ℚ) (past : List CloudEvent) : CloudEvent → Prop
  | .asked task (.call _ (.setPower true)) => ∃ earlier k order seen,
    past = earlier ++ [.told task (.issued k order seen)] ∧ order.request = .setPower true ∧
      Permitted built earlier seen
  | _ => True

@[simp] theorem latestPoll_append (past : List CloudEvent) (event : CloudEvent) :
    latestPoll (past ++ [event]) = (polledData event).or (latestPoll past) := by
  unfold latestPoll
  rw [List.reverse_append, List.reverse_singleton, List.singleton_append, List.findSome?_cons]
  cases polledData event <;> rfl

/-- All stops of the past are at most this time. -/
def Dominated (time : ℚ) (past : List CloudEvent) : Prop :=
  Every (fun past event => ∀ stop, Stops past event stop → stop ≤ time) past

theorem Dominated.mono {time later : ℚ} {past : List CloudEvent} (dominated : Dominated time past)
    (order : time ≤ later) : Dominated later past :=
  dominated.imp fun _ _ within stop stops => (within stop stops).trans order

/-- What the coordinator remembers of its history. -/
structure Guarded (scene : CloudScene) : Prop where
  data : scene.shared.data = latestPoll scene.log
  previous : scene.shared.previousOn = (latestPoll scene.log).bind powered
  forward : scene.shared.lastOff ≤ scene.shared.now
  built : scene.shared.built ≤ scene.shared.lastOff
  stops : Dominated scene.shared.lastOff scene.log
  judged : Every (Protected scene.shared.built) scene.log

theorem truncate_nonpos {value : ℚ} (short : Coordinator.truncate value ≤ 0) : value < 1 := by
  unfold Coordinator.truncate at short
  split at short
  · have below : ⌊value⌋ ≤ 0 := short
    rw [Int.floor_le_iff] at below
    simpa using below
  · linarith

/-- What the guard of a start lets through. -/
theorem admitted_permitted {scene : CloudScene} {order : Order} (guarded : Guarded scene)
    (admitted : scene.shared.admission order = .admitted) (starting : order.starting) :
    Permitted scene.shared.built scene.log scene.shared := by
  have free : scene.shared.restartDelayRemaining = 0 := by
    unfold Coordinator.admission at admitted
    dsimp only at admitted
    split_ifs at admitted with _ _ _ _ _ delayed _ _
    simpa [starting] using delayed
  unfold Coordinator.restartDelayRemaining at free
  split at free
  · cases free
  rename_i unblocked
  refine ⟨fun item pending off => ?_, ?_⟩
  · refine not_lt.mp fun unexpired => unblocked ?_
    simp [Coordinator.pendingPower, pending, unexpired, off]
  split at free
  · rename_i on
    left
    obtain ⟨data, present, status⟩ := Option.bind_eq_some_iff.mp on
    have stored : scene.shared.data = some data := by
      unfold Coordinator.present at present
      split at present
      · cases present
      · cases present
      · cases present
        assumption
    rw [← guarded.data, stored]
    exact status
  · right
    have short := truncate_nonpos ((le_max_right _ _).trans_eq free)
    have long : minimumOffSeconds - 1 / 1000 < scene.shared.now - scene.shared.lastOff := by linarith
    refine ⟨?_, guarded.stops.imp fun past event within time stops => ?_⟩
    · have before := guarded.built
      linarith
    · have before := within time stops
      linarith

theorem Guarded.change {scene : CloudScene} {move : Coordinator → Coordinator} (guarded : Guarded scene)
    (data : (move scene.shared).data = scene.shared.data)
    (previous : (move scene.shared).previousOn = scene.shared.previousOn)
    (built : (move scene.shared).built = scene.shared.built)
    (grows : scene.shared.lastOff ≤ (move scene.shared).lastOff)
    (forward : (move scene.shared).lastOff ≤ (move scene.shared).now) :
    Guarded (scene.change move) where
  data := data.trans guarded.data
  previous := previous.trans guarded.previous
  forward := forward
  built := built.trans_le (guarded.built.trans grows)
  stops := guarded.stops.mono grows
  judged := built ▸ guarded.judged

theorem Guarded.emit {scene : CloudScene} {event : CloudEvent} (guarded : Guarded scene)
    (silent : polledData event = none)
    (within : ∀ time, Stops scene.log event time → time ≤ scene.shared.lastOff)
    (judged : Protected scene.shared.built scene.log event) : Guarded (scene.emit event) where
  data := by simp [silent, guarded.data]
  previous := by simp [silent, guarded.previous]
  forward := guarded.forward
  built := guarded.built
  stops := guarded.stops.append_singleton within
  judged := guarded.judged.append_singleton judged

/-- The fields this module is about, of a state that shares them. -/
theorem Guarded.keep {scene : CloudScene} {move : Coordinator → Coordinator} (guarded : Guarded scene)
    (data : (move scene.shared).data = scene.shared.data)
    (previous : (move scene.shared).previousOn = scene.shared.previousOn)
    (built : (move scene.shared).built = scene.shared.built)
    (lastOff : (move scene.shared).lastOff = scene.shared.lastOff)
    (now : (move scene.shared).now = scene.shared.now) : Guarded (scene.change move) :=
  guarded.change data previous built lastOff.ge (by rw [lastOff, now]; exact guarded.forward)

theorem Guarded.poll {scene : CloudScene} {task : Nat} {data : Dict} {on : Bool} (guarded : Guarded scene)
    (status : powered data = some on) :
    Guarded (((scene.change (·.observe data on)).emit (.told task
      (.polled data scene.shared.now (scene.shared.confirmsStop data on)))).change (·.store data)) := by
  have lastOff := scene.shared.observe_lastOff data on
  have built := scene.shared.observe_built data on
  have forward := guarded.forward
  have grows : scene.shared.lastOff ≤ (scene.shared.observe data on).lastOff := by
    rw [lastOff]
    split_ifs <;> first | exact forward | exact le_rfl
  refine ⟨?_, ?_, ?_, ?_, ?_, ?_⟩
  · simp [Coordinator.store, polledData]
  · simp [Coordinator.store, polledData, status]
  · show (scene.shared.observe data on).lastOff ≤ (scene.shared.observe data on).now
    rw [lastOff, scene.shared.observe_now]
    split_ifs <;> first | exact le_rfl | exact forward
  · exact built.trans_le (guarded.built.trans grows)
  · refine (guarded.stops.mono grows).append_singleton fun time stops => ?_
    show time ≤ (scene.shared.observe data on).lastOff
    rw [lastOff]
    generalize scene.shared.confirmsStop data on = stopped at stops ⊢
    cases stops with
    | turned before off =>
      have switched : on = false ∧ scene.shared.previousOn = some true := by
        rw [status] at off
        exact ⟨Option.some.inj off, guarded.previous.trans before⟩
      simp [switched]
    | confirmed => simp
  · exact built ▸ guarded.judged.append_singleton trivial

/-- The commands started so far are calls of the entities. -/
def Entitled (past : List CloudEvent) : Prop :=
  ∀ task order, .started task (.command order) ∈ past → ∃ control : Control, order = control.order

theorem Control.starting {control : Control} (asks : control.order.request = .setPower true) :
    control.order.starting := by
  cases control with
  | power on => cases asks; rfl
  | _ => cases asks

theorem Control.stopping {control : Control} (asks : control.order.request = .setPower false) :
    control.order.stopping := by
  cases control with
  | power on => cases asks; rfl
  | _ => cases asks

theorem Guarded.issue {scene : CloudScene} {task : Nat} {mac : String} {control : Control}
    (guarded : Guarded scene) (admitted : scene.shared.admission control.order = .admitted) :
    Guarded (((scene.change (·.issue control.order)).emit (.told task
      (.issued scene.shared.feedbackCount control.order scene.shared))).emit
        (.asked task (.call mac control.order.request))) := by
  have lastOff : (scene.shared.issue control.order).lastOff =
      if control.order.stopping then scene.shared.now else scene.shared.lastOff := rfl
  have forward := guarded.forward
  have issued : Guarded (scene.change (·.issue control.order)) := by
    refine guarded.change rfl rfl rfl ?_ ?_
    · rw [lastOff]
      split_ifs <;> first | exact forward | exact le_rfl
    · rw [lastOff]
      split_ifs <;> first | exact le_rfl | exact forward
  have recorded : Guarded ((scene.change (·.issue control.order)).emit (.told task
      (.issued scene.shared.feedbackCount control.order scene.shared))) := by
    refine issued.emit rfl (fun time stops => ?_) trivial
    cases stops with
    | commanded off => exact (lastOff.trans (if_pos (Control.stopping off))).ge
  refine recorded.emit rfl (by rintro _ ⟨⟩) ?_
  generalize asks : control.order.request = request
  unfold Protected
  split
  · rename_i same
    cases same
    exact ⟨_, _, _, _, rfl, asks, admitted_permitted guarded admitted (Control.starting asks)⟩
  · trivial

theorem Guarded.step {careful : Prop} {actor : Option Nat} {scene after : CloudScene}
    (guarded : Guarded scene) (entitled : Entitled scene.log) (change : Change careful actor scene after) :
    Guarded after := by
  cases change with
  | @event _ _ event quiet =>
    refine guarded.emit ?_ ?_ ?_
    · cases event <;> first | rfl | cases quiet
    · rintro time stops
      cases stops <;> cases quiet
    · unfold Protected
      split
      · cases quiet
      · trivial
  | aside deadlines tasks closing experimental => exact guarded.keep rfl rfl rfl rfl rfl
  | @elapse _ seconds forward =>
    have later : scene.shared.now ≤ scene.shared.now + seconds := by linarith
    exact guarded.change rfl rfl rfl le_rfl (guarded.forward.trans later)
  | setWall wall => exact guarded.keep rfl rfl rfl rfl rfl
  | enqueue => exact guarded.keep rfl rfl rfl rfl rfl
  | abandon => exact guarded.keep rfl rfl rfl rfl rfl
  | acquire ready => exact guarded.keep rfl rfl rfl rfl rfl
  | release held => exact guarded.keep rfl rfl rfl rfl rfl
  | poll status => exact guarded.poll status
  | missed => exact guarded.keep rfl rfl rfl rfl rfl
  | issue held begun admitted =>
    obtain ⟨control, rfl⟩ := entitled _ _ begun
    exact guarded.issue admitted
  | create held plain waits =>
    exact (guarded.keep rfl rfl rfl rfl rfl).emit rfl (by rintro _ ⟨⟩) trivial
  | fail held last negative spares => exact guarded.keep rfl rfl rfl rfl rfl
  | drop held last field told final failed => exact guarded.keep rfl rfl rfl rfl rfl
  | acknowledge held => exact guarded.keep rfl rfl rfl rfl rfl
  | cloudAcknowledge held plain => exact guarded.keep rfl rfl rfl rfl rfl

theorem Guarded.start {now wall : ℚ} : Guarded { shared := Coordinator.start now wall } where
  data := rfl
  previous := rfl
  forward := le_rfl
  built := le_rfl
  stops := .nil
  judged := .nil

/-- In every run of the coordinator whose commands are calls of the entities, the client is
called to start the unit only when no OFF is pending and the unit either is reported on or
has rested since construction, every OFF, every reported stop and every confirmed OFF. -/
theorem restart_protection {mac : String} {machine : CloudMachine}
    (run : Reachable (coordinator mac) machine) (entitled : Entitled machine.scene.log) :
    Every (Protected machine.scene.shared.built) machine.scene.log := by
  have spares : ∀ machine label, True → False → Sparing machine label := fun _ _ _ => False.elim
  obtain ⟨-, now, wall, journey⟩ := run_journey spares run
  have guarded : Entitled machine.scene.log → Guarded machine.scene := by
    apply journey.invariant (fun scene => Entitled scene.log → Guarded scene) .start fun _ => .start
    intro actor scene after _ kept change entitled
    obtain ⟨events, log⟩ := change.log
    have before : Entitled scene.log := fun task order started =>
      entitled task order (log ▸ List.mem_append_left _ started)
    exact (kept before).step before change
  exact (guarded entitled).judged

def startedOrder : CloudEvent → Option Order
  | .started _ (.command order) => some order
  | _ => none

def callsForPower : CloudEvent → Bool
  | .asked _ (.call _ (.setPower on)) => on
  | _ => false

/-- The unit is off and has rested for 181 seconds when it is switched on. -/
def rested : List (Step face Operation) :=
  [.drift (.elapse 181)] ++ examplePoll 0 (exampleData "2001-09-09T01:46:40Z" "00" "00") ++
    [.start (.command (Control.power true).order)]

theorem restart_protection_example : ∃ machine,
    (coordinator "0011").follow exampleMachine rested = some machine ∧
      machine.scene.log.any callsForPower ∧
        Every (Protected machine.scene.shared.built) machine.scene.log := by
  have shown : (((coordinator "0011").follow exampleMachine rested).map fun machine =>
      machine.scene.log.any callsForPower &&
        machine.scene.log.filterMap startedOrder = [(Control.power true).order]) = some true := by
    decide +kernel
  obtain ⟨machine, followed, facts⟩ := Option.map_eq_some_iff.mp shown
  simp only [Bool.and_eq_true, decide_eq_true_eq] at facts
  obtain ⟨called, orders⟩ := facts
  have entitled : Entitled machine.scene.log := fun task order started => by
    have member : order ∈ machine.scene.log.filterMap startedOrder :=
      List.mem_filterMap.mpr ⟨_, started, rfl⟩
    rw [orders] at member
    exact ⟨.power true, List.mem_singleton.mp member⟩
  exact ⟨machine, followed, called, restart_protection
    (exampleMachine_run.follow (fun _ _ => trivial) followed) entitled⟩

end AlorairLite.Cloud
