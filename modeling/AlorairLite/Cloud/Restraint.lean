import AlorairLite.Cloud.Confirmation

/-! Why a command of the cloud coordinator returns without an error. A command is left out only
for what the last poll shows or for a pending one of the same kind, and what is pending was sent
by a command that has not failed for good. -/

namespace AlorairLite.Cloud

open Async

/-- A client call of this task failed for good. -/
def Rebuffed (task : Nat) (log : List CloudEvent) : Prop :=
  ∃ mac request error, ClientError.definitive error ∧
    .delivered task ⟨.call mac request, (.error error : Except ClientError Unit)⟩ ∈ log

/-- The client call of this command is over, or its task was interrupted in it. -/
inductive Through (mac : String) (task : Nat) (order : Order) (log : List CloudEvent) : Prop where
  | acknowledged
      (answered : .delivered task ⟨.call mac order.request, (.ok () : Except ClientError Unit)⟩ ∈ log)
  | doubtful {error : ClientError} (unsure : error.definitive = false)
      (answered : .delivered task ⟨.call mac order.request, (.error error : Except ClientError Unit)⟩ ∈ log)
  | stopped {reason : Interrupt} {past future : List CloudEvent} (split : log = past ++ .interrupted task reason :: future)
      (asked : .asked task (.call mac order.request) ∈ past)

/-- The command that a pending entry stands for. Its task holds the command lock until its
client call is over. -/
structure Backing (mac : String) (scene : CloudScene) (key : String) (entry : PendingCommand) (task : Nat)
    (order : Order) (seen : Coordinator) : Prop where
  told : ∃ k, .told task (.issued k order seen) ∈ scene.log
  key : order.key = key
  entry : seen.entry order = entry
  spared : ¬ Rebuffed task scene.log
  over_ : scene.shared.commandLock.holder = some task ∨ Through mac task order scene.log

/-- Nothing is pending for a command that failed for good. -/
def Vouched (mac : String) (scene : CloudScene) : Prop :=
  ∀ key entry, scene.shared.pending key = some entry →
    ∃ task order seen, Backing mac scene key entry task order seen

/-- An event that is no final failure of a client call. -/
def Gentle (event : CloudEvent) : Prop :=
  ∀ task mac request error, ClientError.definitive error →
    event ≠ .delivered task ⟨.call mac request, (.error error : Except ClientError Unit)⟩

section Events

variable {mac : String} {scene : CloudScene} {task : Nat} {order : Order} {event : CloudEvent}
  {log : List CloudEvent}

theorem Gentle.spares (gentle : Gentle event) (spared : ¬ Rebuffed task log) :
    ¬ Rebuffed task (log ++ [event]) := by
  rintro ⟨mac, request, error, final, answered⟩
  rcases List.mem_append.mp answered with before | last
  · exact spared ⟨mac, request, error, final, before⟩
  · exact gentle task mac request error final (List.mem_singleton.mp last).symm

/-- An answer to something else than a command. -/
theorem Gentle.delivered {query : Query} {answer : query.Answer} (other : ∀ mac request, query ≠ .call mac request) :
    Gentle (.delivered task ⟨query, answer⟩) := by
  intro teller mac request error final same
  cases same
  exact other mac request rfl

theorem Through.append {later : List CloudEvent} (through : Through mac task order log) :
    Through mac task order (log ++ later) := by
  cases through with
  | acknowledged answered => exact .acknowledged (List.mem_append_left _ answered)
  | doubtful unsure answered => exact .doubtful unsure (List.mem_append_left _ answered)
  | stopped split asked => exact .stopped (by rw [split, List.append_assoc]; rfl) asked

theorem Backing.emit {key : String} {entry : PendingCommand} {seen : Coordinator}
    (backing : Backing mac scene key entry task order seen) (spared : ¬ Rebuffed task (scene.log ++ [event])) :
    Backing mac (scene.emit event) key entry task order seen := by
  obtain ⟨k, told⟩ := backing.told
  exact ⟨⟨k, List.mem_append_left _ told⟩, backing.key, backing.entry, spared,
    backing.over_.imp_right Through.append⟩

theorem Vouched.emit (vouched : Vouched mac scene) (gentle : Gentle event) : Vouched mac (scene.emit event) := by
  intro key entry pending
  obtain ⟨task, order, seen, backing⟩ := vouched key entry pending
  exact ⟨task, order, seen, backing.emit (gentle.spares backing.spared)⟩

/-- A change that adds nothing to what is pending and takes the lock from nobody. -/
theorem Vouched.change {move : Coordinator → Coordinator} (vouched : Vouched mac scene)
    (narrows : ∀ key entry, (move scene.shared).pending key = some entry → scene.shared.pending key = some entry)
    (lock : ∀ other, scene.shared.commandLock.holder = some other →
      (move scene.shared).commandLock.holder = some other) : Vouched mac (scene.change move) := by
  intro key entry pending
  obtain ⟨task, order, seen, backing⟩ := vouched key entry (narrows key entry pending)
  exact ⟨task, order, seen, backing.told, backing.key, backing.entry, backing.spared,
    backing.over_.imp_left (lock task)⟩

end Events

/-- The outside world may do anything, but nobody takes the lock from the task that holds it. -/
def restraint (mac : String) : Contract face Operation (Except Failure Json) where
  invariant := Vouched mac
  rely task first second :=
    first.shared.commandLock.holder = some task → second.shared.commandLock.holder = some task
  starts _ _ := True
  answers _ _ _ := True
  delivers _ _ _ := True
  interrupts _ _ _ := True
  drifts _ _ := True
  refl _ _ held := held
  trans first second held := second (first held)
  answered := by
    intro scene task reply vouched _
    exact ⟨vouched.emit (by simp [Gentle]), fun _ held => held⟩
  drifted := by
    intro scene drift vouched _
    have emitted : Vouched mac (scene.emit (.drifted drift)) := vouched.emit (by simp [Gentle])
    cases drift with
    | elapse seconds => exact ⟨emitted.change (fun _ _ pending => pending) fun _ held => held, fun _ held => held⟩
    | setWall wall => exact ⟨emitted.change (fun _ _ pending => pending) fun _ held => held, fun _ held => held⟩
    | setOption experimental =>
      exact ⟨emitted.change (fun _ _ pending => pending) fun _ held => held, fun _ held => held⟩

/-- What the task has sent so far; no client call of it failed for good. -/
structure Issues (task : Nat) (orders : Order → Prop) (log : List CloudEvent) : Prop where
  sole : ∀ k order seen, .told task (.issued k order seen) ∈ log → orders order
  spared : ¬ Rebuffed task log

abbrev Idle (task : Nat) : List CloudEvent → Prop := Issues task fun _ => False

/-- The task is running. -/
structure Acting (mac : String) (task : Nat) (origin now : CloudScene) : Prop where
  vouched : Vouched mac now
  lock : ∀ other, other ≠ task → origin.shared.commandLock.holder = some other →
    now.shared.commandLock.holder = some other

/-- Why a command returns without an error. -/
inductive Honoured (mac : String) (task : Nat) (order : Order) (scene : CloudScene) : Prop where
  | acknowledged
      (answered : .delivered task ⟨.call mac order.request, (.ok () : Except ClientError Unit)⟩ ∈ scene.log)
  /-- The last poll, which is fresh, shows the wanted state, and nothing is pending for it. -/
  | shown (success : scene.shared.lastUpdateSuccess = true) (fresh : scene.shared.statusStale = false)
      (shows_ : scene.shared.present.any (shows · order.key order.wanted) ∨
        order.starting ∧ scene.shared.present.bind powered = some true)
      (free : scene.shared.pending order.key = none)
  /-- Another command for the same was sent not long ago, and did not fail for good. -/
  | duplicate {other : Nat} {order' : Order} {seen : Coordinator} (differs : other ≠ task)
      (success : scene.shared.lastUpdateSuccess = true) (fresh : scene.shared.statusStale = false)
      (told : ∃ k, .told other (.issued k order' seen) ∈ scene.log) (key : order'.key = order.key)
      (wanted : order'.wanted = order.wanted)
      (recent : scene.shared.now < seen.now + pendingSeconds) (through : Through mac other order' scene.log)
      (spared : ¬ Rebuffed other scene.log)

/-- What is to be shown of a method that was called for this order, if for one. -/
def Aim (mac : String) (task : Nat) {Result : Type} : Option Order → Except Failure Result → CloudScene → Prop
  | some order, .ok _, scene => Honoured mac task order scene
  | _, _, _ => True

/-- The task gives the lock back: nothing is pending for it any more unless its call is over. -/
structure Leaving (mac : String) (task : Nat) (aim : Option Order) {Result : Type} (result : Except Failure Result)
    (origin now : CloudScene) : Prop where
  acting : Acting mac task origin now
  held : now.shared.commandLock.holder = some task
  settled : ∀ key entry, now.shared.pending key = some entry → ∃ other order seen,
    Backing mac now key entry other order seen ∧ (other = task → Through mac other order now.log)
  reached : Aim mac task aim result now

section Conduct

variable {mac : String} {task : Nat} {order : Order} {aim : Option Order} {orders : Order → Prop}
  {origin now later : CloudScene} {event : CloudEvent} {reply : Option (Sigma face.Answer)}

theorem Acting.yields (acting : Acting mac task origin now) : (restraint mac).Yields task origin now :=
  ⟨acting.vouched, acting.lock⟩

theorem Acting.emit (acting : Acting mac task origin now) (gentle : Gentle event) :
    Acting mac task origin (now.emit event) := ⟨acting.vouched.emit gentle, acting.lock⟩

theorem Acting.change {move : Coordinator → Coordinator} (acting : Acting mac task origin now)
    (narrows : ∀ key entry, (move now.shared).pending key = some entry → now.shared.pending key = some entry)
    (lock : (move now.shared).commandLock.holder = now.shared.commandLock.holder) :
    Acting mac task origin (now.change move) :=
  ⟨acting.vouched.change narrows fun _ held => lock.trans held,
    fun other differs held => lock.trans (acting.lock other differs held)⟩

/-- A suspended task goes on. -/
theorem Acting.resumed (awaiting : (restraint mac).Awaiting task now reply later) (gentle : Gentle event) :
    Acting mac task later (later.emit event) := ⟨awaiting.invariant.emit gentle, fun _ _ held => held⟩

theorem Issues.emit (issues : Issues task orders now.log)
    (other : ∀ k order seen, event = .told task (.issued k order seen) → orders order) (gentle : Gentle event) :
    Issues task orders (now.emit event).log := by
  refine ⟨fun k order seen told => ?_, gentle.spares issues.spared⟩
  rcases List.mem_append.mp told with before | last
  · exact issues.sole k order seen before
  · exact other k order seen (List.mem_singleton.mp last).symm

theorem Issues.awaits (issues : Issues task orders now.log)
    (awaiting : (restraint mac).Awaiting task now reply later) : Issues task orders later.log := by
  obtain ⟨before, after, foreign, foreign', log⟩ := awaiting.log
  have own : ∀ event ∈ later.log, event.task? = some task →
      event ∈ now.log ∨ ∃ reply, event = .answered task reply := by
    intro event member mine
    rw [log] at member
    simp only [List.mem_append, List.mem_map] at member
    rcases member with ((early | between) | ⟨given, -, same⟩) | late
    · exact .inl early
    · exact absurd mine (foreign event between)
    · exact .inr ⟨given, same.symm⟩
    · exact absurd mine (foreign' event late)
  constructor
  · intro k order seen told
    rcases own _ told rfl with early | ⟨reply, impossible⟩
    · exact issues.sole k order seen early
    · cases impossible
  · rintro ⟨mac, request, error, final, answered⟩
    rcases own _ answered rfl with early | ⟨reply, impossible⟩
    · exact issues.spared ⟨mac, request, error, final, early⟩
    · cases impossible

/-- A task that has sent nothing owns nothing that is pending. -/
theorem Acting.idle {Result : Type} {result : Except Failure Result} (acting : Acting mac task origin now)
    (idle : Idle task now.log) (held : now.shared.commandLock.holder = some task)
    (reached : Aim mac task aim result now) : Leaving mac task aim result origin now := by
  refine ⟨acting, held, fun key entry pending => ?_, reached⟩
  obtain ⟨other, order, seen, backing⟩ := acting.vouched key entry pending
  obtain ⟨k, told⟩ := backing.told
  refine ⟨other, order, seen, backing, fun same => ?_⟩
  subst same
  exact (idle.sole k order seen told).elim

theorem Honoured.change {move : Coordinator → Coordinator} (honoured : Honoured mac task order now)
    (data : (move now.shared).data = now.shared.data) (pending : (move now.shared).pending = now.shared.pending)
    (success : (move now.shared).lastUpdateSuccess = now.shared.lastUpdateSuccess)
    (wall : (move now.shared).wall = now.shared.wall) (clock : (move now.shared).now = now.shared.now) :
    Honoured mac task order (now.change move) := by
  have present : (move now.shared).present = now.shared.present := by
    unfold Coordinator.present
    rw [data]
  have stale : (move now.shared).statusStale = now.shared.statusStale := by
    unfold Coordinator.statusStale
    rw [present, wall]
  cases honoured with
  | acknowledged answered => exact .acknowledged answered
  | shown succeeded fresh shows_ free =>
    refine .shown (success.trans succeeded) (stale.trans fresh) ?_ ((congrFun pending _).trans free)
    rw [Scene.change_shared, present]
    exact shows_
  | duplicate differs succeeded fresh told key wanted recent through spared =>
    exact .duplicate differs (success.trans succeeded) (stale.trans fresh) told key wanted (clock.trans_lt recent) through
      spared

/-- A change beside what commands are judged by. -/
theorem Leaving.aside {Result : Type} {result : Except Failure Result} (leaving : Leaving mac task aim result origin now)
    (move : Coordinator → Coordinator) (data : (move now.shared).data = now.shared.data)
    (pending : (move now.shared).pending = now.shared.pending)
    (success : (move now.shared).lastUpdateSuccess = now.shared.lastUpdateSuccess)
    (wall : (move now.shared).wall = now.shared.wall) (clock : (move now.shared).now = now.shared.now)
    (lock : (move now.shared).commandLock = now.shared.commandLock) :
    Leaving mac task aim result origin (now.change move) := by
  have holder := congrArg Lock.holder lock
  have narrows : ∀ key entry, (move now.shared).pending key = some entry → now.shared.pending key = some entry :=
    fun key entry found => (congrFun pending key).symm.trans found
  refine ⟨leaving.acting.change narrows holder, holder.trans leaving.held, fun key entry found => ?_, ?_⟩
  · obtain ⟨other, order, seen, backing, mine⟩ := leaving.settled key entry (narrows key entry found)
    exact ⟨other, order, seen, ⟨backing.told, backing.key, backing.entry, backing.spared,
      backing.over_.imp_left holder.trans⟩, mine⟩
  · unfold Aim at *
    split
    · exact leaving.reached.change data pending success wall clock
    · trivial

/-- A result that says less. -/
theorem Leaving.failed {Result : Type} {result : Except Failure Result} {failure : Failure}
    (leaving : Leaving mac task aim result origin now) :
    Leaving mac task aim (.error failure : Except Failure Result) origin now := by
  refine ⟨leaving.acting, leaving.held, leaving.settled, ?_⟩
  cases aim <;> trivial

theorem Aim.failed {Result : Type} {failure : Failure} {scene : CloudScene} :
    Aim mac task aim (.error failure : Except Failure Result) scene := by
  cases aim <;> trivial

/-- What a method under the command lock brings about. -/
structure Reached (mac : String) (task : Nat) (aim : Option Order) {Result : Type} (result : Except Failure Result)
    (origin now : CloudScene) : Prop where
  acting : Acting mac task origin now
  reached : Aim mac task aim result now

theorem locked_restraint {Result : Type} {body : Method Result} (acting : Acting mac task origin now)
    (idle : Idle task now.log)
    (inside : ∀ origin now, Acting mac task origin now → Idle task now.log →
      now.shared.commandLock.holder = some task →
        (restraint mac).wp task (Leaving mac task aim) body origin now) :
    (restraint mac).wp task (Reached mac task aim) (Method.withCommandLock task body) origin now := by
  have queued : Acting mac task origin (now.change fun s => s.putLock (s.commandLock.enqueue task)) :=
    acting.change (fun _ _ pending => pending) rfl
  -- The lock is free when the task takes it, so nobody loses it.
  have owned : ∀ origin now : CloudScene, Acting mac task origin now → Idle task now.log →
      now.shared.commandLock.ready task → (restraint mac).wp task (Reached mac task aim)
        (Process.modify (fun s : Coordinator => s.putLock (s.commandLock.acquire task)) >>= fun _ =>
          Process.ensure body fun s : Coordinator => s.putLock s.commandLock.release : Method Result) origin now := by
    intro origin now acting idle ready
    have free : now.shared.commandLock.holder = none := by
      simpa using (Bool.and_eq_true_iff.mp ready).1
    have locked : Acting mac task origin (now.change fun s => s.putLock (s.commandLock.acquire task)) := by
      refine ⟨acting.vouched.change (fun _ _ pending => pending) fun other held => ?_, fun other differs held => ?_⟩
      · rw [free] at held
        cases held
      · have kept := acting.lock other differs held
        rw [free] at kept
        cases kept
    refine Contract.wp_modify.mpr (Contract.wp_ensure.mpr (Contract.wp_mono (inside _ _ locked idle rfl) ?_))
    intro result origin now leaving
    refine ⟨⟨fun key entry pending => ?_, fun other differs held => ?_⟩, ?_⟩
    · obtain ⟨other, order, seen, backing, mine⟩ := leaving.settled key entry pending
      refine ⟨other, order, seen, backing.told, backing.key, backing.entry, backing.spared, .inr ?_⟩
      rcases backing.over_ with holds | through
      · rw [leaving.held] at holds
        exact mine (Option.some.inj holds).symm
      · exact through
    · have kept := leaving.acting.lock other differs held
      rw [leaving.held] at kept
      exact absurd (Option.some.inj kept).symm differs
    · have reached := leaving.reached
      unfold Aim at *
      split
      · exact reached.change rfl rfl rfl rfl rfl
      · trivial
  unfold Method.withCommandLock Process.withLock
  apply Contract.wp_modify.mpr
  apply Contract.wp_then.mpr
  apply Contract.wp_awaitReady
  · exact fun ready => owned _ _ queued idle ready
  · exact fun _ => queued.yields
  · intro later awaiting ready
    have gentle : Gentle (.granted task) := by simp [Gentle]
    have waiting : Idle task (now.change fun s => s.putLock (s.commandLock.enqueue task)).log := idle
    exact owned _ _ (Acting.resumed awaiting gentle) ((waiting.awaits awaiting).emit (by simp) gentle) ready
  · intro reason later awaiting _
    have resumed : Acting mac task later (later.emit (.interrupted task reason)) :=
      Acting.resumed awaiting (by simp [Gentle])
    exact ⟨resumed.change (fun _ _ pending => pending) rfl, .failed⟩

theorem timeout_restraint {Result : Type} {body : Method Result} (acting : Acting mac task origin now)
    (inside : ∀ now', now'.log = now.log → now'.shared.commandLock = now.shared.commandLock →
      Acting mac task origin now' → (restraint mac).wp task (Leaving mac task aim) body origin now') :
    (restraint mac).wp task (Leaving mac task aim) (Method.withTimeout task body) origin now := by
  unfold Method.withTimeout
  refine Contract.wp_modify.mpr (Contract.wp_attempt.mpr (Contract.wp_ensure.mpr ?_))
  refine Contract.wp_mono (inside _ rfl rfl (acting.change (fun _ _ pending => pending) rfl)) ?_
  intro result origin now leaving
  have left := leaving.aside (·.setDeadline task none) rfl rfl rfl rfl rfl rfl
  cases result with
  | ok value => exact left
  | error failure =>
    cases failure with
    | interrupted reason =>
      cases reason with
      | cancel => exact left
      | deadline => exact left.failed
    | _ => exact left

/-- A task that has nothing to do with commands asks something. -/
theorem Acting.asks {query : Query} (acting : Acting mac task origin now) :
    (restraint mac).Yields task origin (now.emit (.asked task query)) :=
  (acting.emit (by simp [Gentle])).yields

theorem Coordinator.observe_narrows (s : Coordinator) (data : Dict) (on : Bool) (key : String)
    (entry : PendingCommand) (pending : (s.observe data on).pending key = some entry) : s.pending key = some entry := by
  obtain ⟨stored, found, kept⟩ := Option.bind_eq_some_iff.mp ((s.observe_pending data on key).symm.trans pending)
  split_ifs at kept
  cases kept
  exact found

theorem updateData_restraint (acting : Acting mac task origin now) :
    (restraint mac).wp task (fun _ => Acting mac task) (Method.updateData mac) origin now := by
  unfold Method.updateData
  apply Contract.wp_then.mpr
  apply Contract.wp_request acting.asks
  · intro answer later awaiting _
    have resumed : Acting mac task later (later.emit (.delivered task ⟨Query.status mac, answer⟩)) :=
      Acting.resumed awaiting (.delivered (by simp))
    cases answer with
    | error error => cases error <;> exact resumed
    | ok data =>
      apply Contract.wp_chain_ok.mpr
      dsimp only
      split
      · exact resumed
      · rename_i on status
        apply Contract.wp_get.mpr
        apply Contract.wp_modify.mpr
        apply Contract.wp_say.mpr
        have observed : Acting mac task later ((later.emit (.delivered task
            ⟨Query.status mac, (.ok data : Except ClientError Dict)⟩)).change (·.observe data on)) :=
          resumed.change (later.shared.observe_narrows data on)
            (congrArg Lock.holder (later.shared.observe_commandLock data on))
        exact observed.emit (by simp [Gentle])
  · intro reply reason later awaiting _
    exact Acting.resumed awaiting (by simp [Gentle])

theorem refresh_restraint (acting : Acting mac task origin now) :
    (restraint mac).wp task (fun _ => Acting mac task) (Method.refresh mac) origin now := by
  unfold Method.refresh
  refine Contract.wp_attempt.mpr (Contract.wp_then.mpr (Contract.wp_mono (updateData_restraint acting) ?_))
  intro result origin now acting
  have changed : ∀ move : Coordinator → Coordinator, (move now.shared).pending = now.shared.pending →
      (move now.shared).commandLock = now.shared.commandLock → Acting mac task origin (now.change move) :=
    fun move pending lock => acting.change (fun key _ found => (congrFun pending key).symm.trans found)
      (congrArg Lock.holder lock)
  cases result with
  | ok data => exact changed (·.store data) rfl rfl
  | error failure =>
    cases failure with
    | interrupted reason => exact acting
    | _ => exact changed ({ · with lastUpdateSuccess := false }) rfl rfl

/-- A task that has sent nothing holds the lock. -/
structure Poised (mac : String) (task : Nat) (origin now : CloudScene) : Prop where
  acting : Acting mac task origin now
  idle : Idle task now.log
  held : now.shared.commandLock.holder = some task

theorem Poised.change {move : Coordinator → Coordinator} (poised : Poised mac task origin now)
    (pending : (move now.shared).pending = now.shared.pending)
    (lock : (move now.shared).commandLock = now.shared.commandLock) : Poised mac task origin (now.change move) := by
  have holder := congrArg Lock.holder lock
  exact ⟨poised.acting.change (fun key _ found => (congrFun pending key).symm.trans found) holder, poised.idle,
    holder.trans poised.held⟩

theorem Poised.emit (poised : Poised mac task origin now)
    (other : ∀ k order seen, event ≠ .told task (.issued k order seen)) (gentle : Gentle event) :
    Poised mac task origin (now.emit event) :=
  ⟨poised.acting.emit gentle, poised.idle.emit (fun k order seen same => other k order seen same) gentle,
    poised.held⟩

theorem Poised.resumed (poised : Poised mac task origin now)
    (awaiting : (restraint mac).Awaiting task now reply later)
    (other : ∀ k order seen, event ≠ .told task (.issued k order seen)) (gentle : Gentle event) :
    Poised mac task later (later.emit event) :=
  ⟨Acting.resumed awaiting gentle,
    (poised.idle.awaits awaiting).emit (fun k order seen same => other k order seen same) gentle,
    awaiting.rely poised.held⟩

theorem Poised.leaving {Result : Type} {result : Except Failure Result} (poised : Poised mac task origin now)
    (reached : Aim mac task aim result now) : Leaving mac task aim result origin now :=
  poised.acting.idle poised.idle poised.held reached

/-- The task asks for something else than a command. -/
theorem Poised.asks {query : Query} (poised : Poised mac task origin now)
    (other : ∀ mac request, query ≠ .call mac request) :
    (restraint mac).wp task (fun _ => Poised mac task) (Method.await query) origin now := by
  have asked : Poised mac task origin (now.emit (.asked task query)) := poised.emit (by simp) (by simp [Gentle])
  apply Contract.wp_request asked.acting.yields
  · intro answer later awaiting _
    exact asked.resumed awaiting (by simp) (.delivered other)
  · intro reply reason later awaiting _
    exact asked.resumed awaiting (by simp) (by simp [Gentle])

theorem writeFailure_restraint {k : Nat} (error : ClientError) (poised : Poised mac task origin now) :
    (restraint mac).wp task (Leaving mac task none) (Method.writeFailure k error) origin now := by
  have failed : ∀ status failure, Leaving mac task none (.error failure : Except Failure Json) origin
      (now.change (·.setStatus k status)) := fun status failure => (poised.change rfl rfl).leaving trivial
  cases error with
  | authentication => exact failed _ _
  | cannotConnect => exact failed _ _
  | command outcomeUnknown => cases outcomeUnknown <;> exact failed _ _
  | protocol => exact failed _ _
  | timeout => exact failed _ _
  | unexpected => exact poised.leaving trivial

theorem experimentalTransaction_restraint (action : String) (parameters : List (String × Scalar))
    (poised : Poised mac task origin now) :
    (restraint mac).wp task (Leaving mac task none) (Method.experimentalTransaction mac action parameters) origin
      now := by
  unfold Method.experimentalTransaction
  apply Contract.wp_get.mpr
  split
  · exact poised.leaving trivial
  split
  · split
    · exact poised.leaving trivial
    apply Contract.wp_modify.mpr
    apply Contract.wp_say.mpr
    apply Contract.wp_then.mpr
    have proposed : Poised mac task origin ((now.change (·.newFeedback {
        action, status := .awaitingResponse, issuedAt := now.shared.wall
        deadline := now.shared.now + pendingSeconds })).emit
          (.told task (.proposed now.shared.feedbackCount action))) :=
      (poised.change rfl rfl).emit (by simp) (by simp [Gentle])
    refine Contract.wp_mono (proposed.asks (by simp)) ?_
    intro result origin now poised
    cases result with
    | error failure => exact poised.leaving trivial
    | ok answer =>
      cases answer with
      | error error => exact writeFailure_restraint error poised
      | ok result =>
        apply Contract.wp_modify.mpr
        apply Contract.wp_then.mpr
        refine Contract.wp_mono ((poised.change rfl rfl).asks (by simp)) ?_
        intro result origin now poised
        cases result <;> exact poised.leaving trivial
  · apply Contract.wp_then.mpr
    refine Contract.wp_mono (poised.asks (by simp)) ?_
    intro result origin now poised
    cases result with
    | error failure => exact poised.leaving trivial
    | ok answer => cases answer <;> exact poised.leaving trivial

/-- The task has sent its command, and holds the lock. -/
structure Committed (mac : String) (task : Nat) (order : Order) (origin now : CloudScene) : Prop where
  acting : Acting mac task origin now
  sole : Issues task (· = order) now.log
  held : now.shared.commandLock.holder = some task

theorem Committed.emit (committed : Committed mac task order origin now)
    (other : ∀ k order seen, event ≠ .told task (.issued k order seen)) (gentle : Gentle event) :
    Committed mac task order origin (now.emit event) :=
  ⟨committed.acting.emit gentle, committed.sole.emit (fun k order seen same => absurd same (other k order seen)) gentle,
    committed.held⟩

theorem Committed.change {move : Coordinator → Coordinator} (committed : Committed mac task order origin now)
    (pending : (move now.shared).pending = now.shared.pending)
    (lock : (move now.shared).commandLock = now.shared.commandLock) : Committed mac task order origin (now.change move) := by
  have holder := congrArg Lock.holder lock
  exact ⟨committed.acting.change (fun key _ found => (congrFun pending key).symm.trans found) holder, committed.sole,
    holder.trans committed.held⟩

theorem Committed.resumed (committed : Committed mac task order origin now)
    (awaiting : (restraint mac).Awaiting task now reply later)
    (other : ∀ k order seen, event ≠ .told task (.issued k order seen)) (gentle : Gentle event) :
    Committed mac task order later (later.emit event) :=
  ⟨Acting.resumed awaiting gentle,
    (committed.sole.awaits awaiting).emit (fun k order seen same => absurd same (other k order seen)) gentle,
    awaiting.rely committed.held⟩

/-- The client call is over. -/
theorem Committed.leaving {Result : Type} {result : Except Failure Result} (committed : Committed mac task order origin now)
    (through : Through mac task order now.log) (reached : Aim mac task aim result now) :
    Leaving mac task aim result origin now := by
  refine ⟨committed.acting, committed.held, fun key entry pending => ?_, reached⟩
  obtain ⟨other, order', seen, backing⟩ := committed.acting.vouched key entry pending
  obtain ⟨k, told⟩ := backing.told
  refine ⟨other, order', seen, backing, fun same => ?_⟩
  subst same
  cases committed.sole.sole k order' seen told
  exact through

/-- A command is recorded. -/
theorem Poised.issue (poised : Poised mac task origin now) :
    Committed mac task order origin ((now.change (·.issue order)).emit
      (.told task (.issued now.shared.feedbackCount order now.shared))) := by
  have gentle : Gentle (.told task (.issued now.shared.feedbackCount order now.shared)) := by simp [Gentle]
  refine ⟨⟨fun key entry pending => ?_, poised.acting.lock⟩, ?_, poised.held⟩
  · by_cases same : key = order.key
    · subst same
      have stored : (now.shared.issue order).pending order.key = some (now.shared.entry order) :=
        Function.update_self ..
      refine ⟨task, order, now.shared, ⟨_, List.mem_append_right _ (List.mem_singleton_self _)⟩, rfl,
        Option.some.inj (stored.symm.trans pending), gentle.spares poised.idle.spared, .inl poised.held⟩
    · have found : now.shared.pending key = some entry := (Function.update_of_ne same _ _).symm.trans pending
      obtain ⟨other, order', seen, backing⟩ := poised.acting.vouched key entry found
      obtain ⟨k, told⟩ := backing.told
      exact ⟨other, order', seen, ⟨k, List.mem_append_left _ told⟩, backing.key, backing.entry,
        gentle.spares backing.spared, backing.over_.imp_right Through.append⟩
  · refine ⟨fun k order' seen told => ?_, gentle.spares poised.idle.spared⟩
    rcases List.mem_append.mp told with before | last
    · exact (poised.idle.sole k order' seen before).elim
    · cases List.mem_singleton.mp last
      rfl

/-- The client call failed for good, and the command is not pending any more. -/
theorem Committed.refused {error : ClientError} {Result : Type} {failure : Failure}
    (committed : Committed mac task order origin now) (k : Nat) :
    Leaving mac task aim (.error failure : Except Failure Result) origin ((now.emit (.delivered task
      ⟨.call mac order.request, (.error error : Except ClientError Unit)⟩)).change
        fun s => (s.setStatus k .rejected).dropPending order.key) := by
  -- Whatever else is pending is for another key, and so for another task.
  have others : ∀ key entry, (now.shared.dropPending order.key).pending key = some entry → ∃ other order' seen,
      other ≠ task ∧ Backing mac now key entry other order' seen := by
    intro key entry pending
    by_cases same : key = order.key
    · subst same
      have gone : (now.shared.dropPending order.key).pending order.key = none := Function.update_self ..
      rw [gone] at pending
      cases pending
    · have found : now.shared.pending key = some entry := (Function.update_of_ne same _ _).symm.trans pending
      obtain ⟨other, order', seen, backing⟩ := committed.acting.vouched key entry found
      refine ⟨other, order', seen, ?_, backing⟩
      rintro rfl
      obtain ⟨k, told⟩ := backing.told
      cases committed.sole.sole k order' seen told
      exact same backing.key.symm
  have kept : ∀ key entry, (now.shared.dropPending order.key).pending key = some entry → ∃ other order' seen,
      other ≠ task ∧ Backing mac ((now.emit (.delivered task
        ⟨.call mac order.request, (.error error : Except ClientError Unit)⟩)).change
          fun s => (s.setStatus k .rejected).dropPending order.key) key entry other order' seen := by
    intro key entry pending
    obtain ⟨other, order', seen, differs, backing⟩ := others key entry pending
    refine ⟨other, order', seen, differs, ?_⟩
    have spared : ¬ Rebuffed other (now.log ++ [.delivered task
        ⟨.call mac order.request, (.error error : Except ClientError Unit)⟩]) := by
      rintro ⟨mac', request, error', final, answered⟩
      rcases List.mem_append.mp answered with before | last
      · exact backing.spared ⟨mac', request, error', final, before⟩
      · cases List.mem_singleton.mp last
        exact differs rfl
    have moved := backing.emit spared
    exact ⟨moved.told, moved.key, moved.entry, moved.spared, moved.over_⟩
  refine ⟨⟨fun key entry pending => ?_, committed.acting.lock⟩, committed.held, fun key entry pending => ?_, .failed⟩
  · obtain ⟨other, order', seen, -, backing⟩ := kept key entry pending
    exact ⟨other, order', seen, backing⟩
  · obtain ⟨other, order', seen, differs, backing⟩ := kept key entry pending
    exact ⟨other, order', seen, backing, fun same => absurd same differs⟩

/-- The task asks for a refresh and then ends this way. -/
theorem Committed.refreshes {result : Except Failure Unit} (committed : Committed mac task order origin now)
    (through : Through mac task order now.log)
    (reached : ∀ later : CloudScene, now.log <+: later.log → Aim mac task aim result later) :
    (restraint mac).wp task
      (fun outcome => (restraint mac).wp task (Leaving mac task aim)
        (Process.chain (fun _ => Process.lift result) outcome))
      Method.requestRefresh origin now := by
  have asked : Committed mac task order origin (now.emit (.asked task Query.refresh)) :=
    committed.emit (by simp) (by simp [Gentle])
  have within : now.log <+: (now.emit (.asked task Query.refresh)).log := ⟨_, rfl⟩
  have goes : ∀ {reply later} event, (restraint mac).Awaiting task (now.emit (.asked task Query.refresh)) reply later →
      now.log <+: (later.emit event).log := fun event awaiting =>
    (within.trans awaiting.grows).trans ⟨[event], rfl⟩
  have over_ : ∀ {log : List CloudEvent}, now.log <+: log → Through mac task order log := by
    rintro log ⟨events, rfl⟩
    exact through.append
  apply Contract.wp_request asked.acting.yields
  · intro answer later awaiting _
    have grown := goes (.delivered task ⟨Query.refresh, answer⟩) awaiting
    exact (asked.resumed awaiting (by simp) (.delivered (by simp))).leaving (over_ grown) (reached _ grown)
  · intro reply reason later awaiting _
    have grown := goes (.interrupted task reason) awaiting
    exact (asked.resumed awaiting (by simp) (by simp [Gentle])).leaving (over_ grown) .failed

theorem handle_restraint {error : ClientError} (committed : Committed mac task order origin now) (k : Nat) :
    (restraint mac).wp task (Leaving mac task aim) (Method.handle k order.key error) origin (now.emit
      (.delivered task ⟨.call mac order.request, (.error error : Except ClientError Unit)⟩)) := by
  have doubtful : error.definitive = false → Committed mac task order origin (now.emit (.delivered task
      ⟨.call mac order.request, (.error error : Except ClientError Unit)⟩)) ∧ Through mac task order (now.emit
        (.delivered task ⟨.call mac order.request, (.error error : Except ClientError Unit)⟩)).log := by
    intro unsure
    refine ⟨committed.emit (by simp) ?_, .doubtful unsure (List.mem_append_right _ (List.mem_singleton_self _))⟩
    rintro other mac' request error' final same
    cases same
    rw [unsure] at final
    cases final
  have uncertain : error.definitive = false → ∀ text, (restraint mac).wp task (Leaving mac task aim)
      (do
        Method.change (·.setStatus k .deliveryUncertain)
        Method.requestRefresh
        Process.raise (.homeAssistant text) : Method Unit) origin (now.emit (.delivered task
          ⟨.call mac order.request, (.error error : Except ClientError Unit)⟩)) := by
    intro unsure text
    obtain ⟨committed, through⟩ := doubtful unsure
    apply Contract.wp_modify.mpr
    apply Contract.wp_then.mpr
    refine Committed.refreshes (committed.change rfl rfl) through ?_
    exact fun later _ => (.failed : Aim mac task aim (.error (.homeAssistant text) : Except Failure Unit) later)
  have raised : error.definitive = false → ∀ failure, Leaving mac task aim
      (.error failure : Except Failure Unit) origin (now.emit (.delivered task
        ⟨.call mac order.request, (.error error : Except ClientError Unit)⟩)) := fun unsure failure =>
    (doubtful unsure).1.leaving (doubtful unsure).2 .failed
  cases error with
  | authentication => exact committed.refused k
  | cannotConnect => exact uncertain rfl _
  | command outcomeUnknown =>
    cases outcomeUnknown with
    | true => exact uncertain rfl _
    | false => exact committed.refused k
  | protocol => exact committed.refused k
  | timeout => exact raised rfl _
  | unexpected => exact raised rfl _

theorem transact_restraint (poised : Poised mac task origin now) :
    (restraint mac).wp task (Leaving mac task (some order)) (Method.transact mac order now.shared) origin now := by
  unfold Method.transact
  apply Contract.wp_modify.mpr
  apply Contract.wp_say.mpr
  apply Contract.wp_then.mpr
  have asked : Committed mac task order origin (((now.change (·.issue order)).emit (.told task
      (.issued now.shared.feedbackCount order now.shared))).emit (.asked task (.call mac order.request))) :=
    poised.issue.emit (by simp) (by simp [Gentle])
  apply Contract.wp_request asked.acting.yields
  · intro answer later awaiting _
    have resumed : Committed mac task order later later :=
      ⟨⟨awaiting.invariant, fun _ _ held => held⟩, asked.sole.awaits awaiting, awaiting.rely asked.held⟩
    cases answer with
    | error error => exact handle_restraint resumed now.shared.feedbackCount
    | ok done =>
      have answered : .delivered task ⟨.call mac order.request, (.ok () : Except ClientError Unit)⟩ ∈ (later.emit
          (.delivered task ⟨.call mac order.request, (.ok done : Except ClientError Unit)⟩)).log :=
        List.mem_append_right _ (List.mem_singleton_self _)
      have acknowledged : Committed mac task order later ((later.emit (.delivered task
          ⟨.call mac order.request, (.ok done : Except ClientError Unit)⟩)).change
            (·.acknowledge now.shared.feedbackCount)) :=
        (resumed.emit (by simp) (by rintro _ _ _ _ _ ⟨⟩)).change rfl rfl
      apply Contract.wp_modify.mpr
      have tail : (restraint mac).wp task (fun outcome => (restraint mac).wp task (Leaving mac task (some order))
          (Process.chain (fun _ => Process.lift (.ok ())) outcome)) Method.requestRefresh later _ :=
        acknowledged.refreshes (.acknowledged answered) fun last within => .acknowledged (within.subset answered)
      refine Contract.wp_mono tail ?_
      intro outcome origin now met
      cases outcome <;> exact met
  · intro reply reason later awaiting _
    have before : .asked task (.call mac order.request) ∈ later.log :=
      awaiting.grows.subset (List.mem_append_right _ (List.mem_singleton_self _))
    exact (asked.resumed awaiting (by simp) (by simp [Gentle])).leaving (.stopped rfl before) .failed

section Checks

variable {s : Coordinator}

theorem Coordinator.admission_duplicate (duplicate : s.admission order = .duplicate) :
    s.lastUpdateSuccess = true ∧ s.statusStale = false ∧ ∃ entry, s.pending order.key = some entry ∧
      s.now < entry.deadline ∧ entry.wanted = order.wanted := by
  unfold admission at duplicate
  dsimp only at duplicate
  split_ifs at duplicate with closing stale pending
  obtain ⟨success, fresh⟩ := not_or.mp stale
  refine ⟨by simpa using success, by simpa using fresh, ?_⟩
  cases found : s.pending order.key with
  | none =>
    rw [found] at pending
    cases pending
  | some entry =>
    rw [found] at pending
    exact ⟨entry, rfl, of_decide_eq_true pending⟩

theorem Coordinator.admission_satisfied (satisfied : s.admission order = .satisfied) :
    s.lastUpdateSuccess = true ∧ s.statusStale = false ∧ s.pending order.key = none ∧
      (s.present.any (shows · order.key order.wanted) ∨ order.starting ∧ s.present.bind powered = some true) := by
  unfold admission at satisfied
  dsimp only at satisfied
  split_ifs at satisfied with closing stale pending shown started
  · obtain ⟨success, fresh⟩ := not_or.mp stale
    exact ⟨by simpa using success, by simpa using fresh, shown.2, .inl shown.1⟩
  · obtain ⟨success, fresh⟩ := not_or.mp stale
    exact ⟨by simpa using success, by simpa using fresh, started.2.2, .inr ⟨started.1, started.2.1⟩⟩

end Checks

theorem commandWithFeedback_restraint (poised : Poised mac task origin now) :
    (restraint mac).wp task (Leaving mac task (some order)) (Method.commandWithFeedback mac order task) origin now := by
  apply timeout_restraint poised.acting
  intro now' log lock acting
  have poised : Poised mac task origin now' := by
    refine ⟨acting, ?_, ?_⟩
    · rw [log]
      exact poised.idle
    · rw [lock]
      exact poised.held
  apply Contract.wp_get.mpr
  cases admission : now'.shared.admission order with
  | refused error => exact poised.leaving .failed
  | admitted => exact transact_restraint poised
  | satisfied =>
    obtain ⟨success, fresh, free, shown⟩ := Coordinator.admission_satisfied admission
    exact poised.leaving (Honoured.shown success fresh shown free)
  | duplicate =>
    obtain ⟨success, fresh, entry, pending, open_, wanted⟩ := Coordinator.admission_duplicate admission
    obtain ⟨other, order', seen, backing⟩ := poised.acting.vouched order.key entry pending
    have differs : other ≠ task := by
      rintro rfl
      obtain ⟨k, told⟩ := backing.told
      exact poised.idle.sole k order' seen told
    have through : Through mac other order' now'.log := by
      rcases backing.over_ with holds | through
      · -- The lock is this task's own.
        exact absurd (Option.some.inj (poised.held.symm.trans holds)).symm differs
      · exact through
    rw [← backing.entry] at open_ wanted
    exact poised.leaving
      (Honoured.duplicate differs success fresh backing.told backing.key wanted open_ through backing.spared)

/-- Blame is nothing but feedback. -/
theorem Coordinator.blame_frame (s : Coordinator) (action : String) :
    s.blame action = { s with feedbacks := (s.blame action).feedbacks } := by
  unfold blame
  split
  · rfl
  · split <;> rfl

theorem Leaving.blame {Result : Type} {result : Except Failure Result} {failure : Failure} {action : String}
    (leaving : Leaving mac task aim result origin now) :
    Leaving mac task aim (.error failure : Except Failure Result) origin (now.change (·.blame action)) := by
  have framed := now.shared.blame_frame action
  apply leaving.failed.aside
  all_goals rw [framed]

theorem lockedCommand_restraint (acting : Acting mac task origin now) (idle : Idle task now.log) :
    (restraint mac).wp task (Reached mac task (some order)) (Method.lockedCommand mac order task) origin now := by
  apply locked_restraint acting idle
  intro origin now acting idle held
  refine Contract.wp_attempt.mpr (Contract.wp_mono (commandWithFeedback_restraint ⟨acting, idle, held⟩) ?_)
  intro result origin now leaving
  cases result with
  | ok value => exact leaving
  | error failure =>
    cases failure with
    | timeout => exact leaving.blame
    | _ => exact leaving

theorem lockedExperimental_restraint (action : String) (parameters : List (String × Scalar))
    (acting : Acting mac task origin now) (idle : Idle task now.log) :
    (restraint mac).wp task (Reached mac task none) (Method.lockedExperimental mac action parameters task) origin
      now := by
  apply locked_restraint acting idle
  intro origin now acting idle held
  apply Contract.wp_attempt.mpr
  refine Contract.wp_mono (timeout_restraint acting fun now' log lock acting =>
    experimentalTransaction_restraint action parameters ⟨acting, log ▸ idle, lock ▸ held⟩) ?_
  intro result origin now leaving
  cases result with
  | ok value => exact leaving
  | error failure =>
    cases failure with
    | timeout =>
      apply Contract.wp_recover_error.mpr
      dsimp only
      split
      · exact leaving.blame
      · exact leaving.failed
    | _ => exact leaving

theorem Reached.aside {Result : Type} {result : Except Failure Result} (reached : Reached mac task aim result origin now)
    (move : Coordinator → Coordinator) (data : (move now.shared).data = now.shared.data)
    (pending : (move now.shared).pending = now.shared.pending)
    (success : (move now.shared).lastUpdateSuccess = now.shared.lastUpdateSuccess)
    (wall : (move now.shared).wall = now.shared.wall) (clock : (move now.shared).now = now.shared.now)
    (lock : (move now.shared).commandLock = now.shared.commandLock) :
    Reached mac task aim result origin (now.change move) := by
  refine ⟨reached.acting.change (fun key entry found => (congrFun pending key).symm.trans found)
    (congrArg Lock.holder lock), ?_⟩
  have aimed := reached.reached
  unfold Aim at *
  split
  · exact aimed.change data pending success wall clock
  · trivial

theorem tracked_restraint {body : Method Json} (acting : Acting mac task origin now) (idle : Idle task now.log)
    (inside : ∀ now, Acting mac task origin now → Idle task now.log →
      (restraint mac).wp task (Reached mac task aim) body origin now) :
    (restraint mac).wp task (Reached mac task aim) (Method.tracked task body) origin now := by
  unfold Method.tracked
  apply Contract.wp_get.mpr
  split
  · exact ⟨acting, .failed⟩
  · apply Contract.wp_modify.mpr
    apply Contract.wp_ensure.mpr
    refine Contract.wp_mono (inside _ (acting.change (fun _ _ found => found) rfl) idle) ?_
    intro result origin now reached
    exact reached.aside (fun s => { s with commandTasks := s.commandTasks.filter (· ≠ task) }) rfl rfl rfl rfl rfl rfl

theorem command_restraint (acting : Acting mac task origin now) (idle : Idle task now.log) :
    (restraint mac).wp task (Reached mac task (some order)) (Method.command mac order task) origin now := by
  apply tracked_restraint acting idle
  intro now acting idle
  refine Contract.wp_then.mpr (Contract.wp_mono (lockedCommand_restraint acting idle) ?_)
  intro result origin now reached
  cases result with
  | ok value => exact ⟨reached.acting, reached.reached⟩
  | error failure => exact ⟨reached.acting, .failed⟩

theorem experimentalAction_restraint (action : String) (parameters : List (String × Scalar))
    (acting : Acting mac task origin now) (idle : Idle task now.log) :
    (restraint mac).wp task (Reached mac task none) (Method.experimentalAction mac action parameters task) origin
      now := by
  unfold Method.experimentalAction
  apply Contract.wp_get.mpr
  split
  · exact ⟨acting, trivial⟩
  · exact tracked_restraint acting idle fun now acting idle =>
      lockedExperimental_restraint action parameters acting idle

theorem prepareUnload_restraint (acting : Acting mac task origin now) :
    (restraint mac).wp task (fun _ => Acting mac task) Method.prepareUnload origin now := by
  have closed : Acting mac task origin (now.change ({ · with closing := true })) :=
    acting.change (fun _ _ found => found) rfl
  unfold Method.prepareUnload
  apply Contract.wp_get.mpr
  apply Contract.wp_modify.mpr
  apply Contract.wp_then.mpr
  apply Contract.wp_awaitReady
  · exact fun _ => closed
  · exact fun _ => closed.yields
  · intro later awaiting _
    exact Acting.resumed awaiting (by simp [Gentle])
  · intro reason later awaiting _
    have resumed : Acting mac task later (later.emit (.interrupted task reason)) :=
      Acting.resumed awaiting (by simp [Gentle])
    exact resumed.change (fun _ _ found => found) rfl

end Conduct

/-- What is shown of an operation when its task ends. -/
def Fulfilled (mac : String) (operation : Operation) (task : Nat) (result : Except Failure Json)
    (scene : CloudScene) : Prop :=
  match operation with
  | .command order => Aim mac task (some order) result scene
  | _ => True

/-- When a command of the coordinator has just returned without an error, its client call was
acknowledged, or it was not needed. -/
theorem command_returns {mac : String} {machine : CloudMachine} {task : Nat} {order : Order} {value : Json}
    {past : List CloudEvent} (run : Reachable (coordinator mac) machine)
    (ended : machine.scene.log = past ++ [.ended task (.ok value)]) (begun : .started task (.command order) ∈ past) :
    Honoured mac task order { machine.scene with log := past } := by
  have brings : ∀ operation task scene, (restraint mac).invariant scene → (restraint mac).starts scene operation →
      Foreign task scene.log → (restraint mac).wp task (fun result origin now =>
        (restraint mac).ends task result origin now ∧ Fulfilled mac operation task result now)
        (program mac operation task) scene (scene.emit (.started task operation)) := by
    intro operation task scene vouched _ fresh
    have acting : Acting mac task scene (scene.emit (.started task operation)) :=
      ⟨Vouched.emit vouched (by simp [Gentle]), fun _ _ held => held⟩
    have idle : Idle task (scene.emit (.started task operation)).log := by
      refine Issues.emit ⟨fun k order seen told => fresh _ told rfl, ?_⟩ (by simp) (by simp [Gentle])
      rintro ⟨mac, request, error, -, answered⟩
      exact fresh _ answered rfl
    have ends : ∀ {result origin now}, Acting mac task origin now → (restraint mac).ends task result origin now :=
      fun acting => (acting.emit (by simp [Gentle])).yields
    cases operation with
    | refresh => exact Contract.wp_mono (refresh_restraint acting) fun _ _ _ acting => ⟨ends acting, trivial⟩
    | command order =>
      exact Contract.wp_mono (command_restraint acting idle) fun _ _ _ reached =>
        ⟨ends reached.acting, reached.reached⟩
    | experimental action parameters =>
      exact Contract.wp_mono (experimentalAction_restraint action parameters acting idle) fun _ _ _ reached =>
        ⟨ends reached.acting, trivial⟩
    | unload => exact Contract.wp_mono (prepareUnload_restraint acting) fun _ _ _ acting => ⟨ends acting, trivial⟩
  have settled : Fulfilled mac (.command order) task (.ok value) { machine.scene with log := past } := by
    apply Contract.concludes brings ?_ ?_ ended begun
    · exact fun s => ∃ now wall, s = Coordinator.start now wall
    · rintro shared ⟨now, wall, rfl⟩ key entry pending
      cases pending
    · apply run.unchecked.weaken
      intro machine label _
      cases label <;> simp [Contract.allows, restraint]
  exact settled

end AlorairLite.Cloud
