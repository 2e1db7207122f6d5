import AlorairLite.Local.Guard

/-! How a command ends: what its outcome tells about its frame, and that every
command ends. -/

namespace AlorairLite.Local

open State

theorem State.nextTimestamp_nonneg {s : State} (epoch : 0 ≤ s.wall) : 0 ≤ s.nextTimestamp := by
  have floor : 0 ≤ s.wall.floor := Int.floor_nonneg.mpr epoch
  simp only [State.nextTimestamp]
  split
  · exact floor
  · exact le_trans floor (le_max_left _ _)

/-- What the outcome of a call tells about its frame. -/
def Truthful (log : List Event) (c : Nat) : Outcome → Prop
  | .returned _ => Wrote log c
  | .raised error => error.unsent ∧ ¬ Wrote log c ∨ error.isUncertain ∧ Wrote log c
  | .cancelled => .callerCancelled c ∈ log

theorem Coherent.truthful {config : Config} {s : State} (coherent : Coherent config False s)
    {c : Nat} {request : Request} {session : Option Nat} {command : Command} {outcome : Outcome}
    (called : .called c request session ∈ s.log) (parsed : request.command = .ok command)
    (ended : .ended c outcome ∈ s.log) : Truthful s.log c outcome := by
  have known := coherent.shape.eventCall _ ended c rfl
  have caller := coherent.callers c
  have task := coherent.tasks c
  obtain ⟨-, last, done, agree⟩ := caller.ended known outcome (caller.told outcome ended)
  rcases agree with rfl | ⟨rfl, told⟩
  · have finished := task.outcome known outcome done
    cases outcome with
    | returned status =>
      obtain ⟨record, recorded, queued, -⟩ := finished
      exact task.wrote.mpr ⟨record, recorded, queued⟩
    | raised error =>
      rw [Truthful, task.wrote]
      rcases finished with unsent | uncertain | ⟨⟨text, rfl⟩, -, never | rejected⟩
      · exact .inl unsent
      · exact .inr uncertain
      · exact never.elim
      · obtain ⟨other, elsewhere, text', member, refused⟩ := rejected
        obtain rfl := caller.once request session other elsewhere called member
        rw [parsed] at refused
        cases refused
    | cancelled => exact finished.1
  · exact told

/-- A live task moves to another phase, or it ends. -/
def Advances (s after : State) (c : Nat) : Prop :=
  (after.calls c).execute = (s.calls c).execute ∨
    (∀ outcome, (s.calls c).execute ≠ .done outcome) ∧
      ((after.calls c).execute.timed ∨ ∃ outcome, (after.calls c).execute = .done outcome)

theorem Advances.one {s after : State} {c d : Nat} {call : Call}
    (calls : after.calls = Function.update s.calls d call)
    (live : ∀ outcome, (s.calls d).execute ≠ .done outcome)
    (moved : call.execute.timed ∨ ∃ outcome, call.execute = .done outcome) : Advances s after c := by
  by_cases equal : c = d
  · subst equal
    exact .inr ⟨live, by simpa [calls] using moved⟩
  · exact .inl (by simp [calls, equal])

theorem Advances.none {s after : State} {c d : Nat} {call : Call}
    (calls : after.calls = Function.update s.calls d call)
    (execute : call.execute = (s.calls d).execute) : Advances s after c :=
  .inl (by rw [calls]; exact update_field Call.execute execute c)

/-- What an effect does to the phase of an existing task. -/
theorem Effect.advances {config : Config} {overflow : Prop} {s after : State}
    (effect : Effect config overflow s after) (shape : Shape s) {c : Nat} (known : c < s.callCount) :
    Advances s after c := by
  cases effect with
  | @release sid current left =>
    rw [State.release, if_pos current]
    exact .inl rfl
  | @fail sid gone left =>
    rcases s.failPending_cases sid with same | ⟨d, pending, error, -, -, -, -, same⟩
    · rw [same]; exact .inl rfl
    · rw [same]; exact .none rfl rfl
  | @report sid raw frame rest decoded status found handling next isReport decodes built =>
    rcases State.confirm_cases _ sid frame (s.sessions sid).offset status with
      same | ⟨d, pending, -, -, -, -, -, -, -, -, same⟩
    · rw [same]; exact .inl rfl
    · rw [same]; exact .none rfl rfl
  | reply phase sent =>
    obtain ⟨-, -, -, -, -, -, raw, -, rfl⟩ := State.sendTurn_sent sent
    exact .inl rfl
  | refuse rejected => exact .inl (by simp [State.refuseCall, Nat.ne_of_lt known])
  | call parsed current connected => exact .inl (by simp [State.openCall, Nat.ne_of_lt known])
  | @popCommand d rest next =>
    have created := (shape.spawnedCommand d (by simp [next])).2
    exact .one rfl (by simp [created]) (.inl rfl)
  | @skipCommand d rest next asked =>
    have created := (shape.spawnedCommand d (by simp [next])).2
    exact .one rfl (by simp [created]) (.inr ⟨_, rfl⟩)
  | @move d target move =>
    obtain ⟨-, live⟩ := ExecuteAt.timed_live (ExecuteAt.registered_timed move.registered.1)
    exact .one rfl live (.inl (ExecuteAt.registered_timed move.registered.2))
  | @register d phase free current => exact .one rfl (by simp [phase]) (.inl rfl)
  | @transmit after d phase sent =>
    obtain ⟨-, -, -, -, -, -, raw, -, rfl⟩ := State.sendTurn_sent sent
    by_cases equal : c = d
    · subst equal
      exact .inr ⟨by simp [phase], .inl (by simp [ExecuteAt.timed, ExecuteAt.registered])⟩
    · exact .inl (by simp [equal, State.write_execute])
  | settle how => exact .one rfl (ExecuteAt.timed_live how.timed).2 (.inr ⟨_, rfl⟩)
  | cancel live cause => exact .none rfl rfl
  | drain waiting interrupted => exact .none rfl rfl
  | finish waiting done result => exact .none rfl rfl
  | _ => exact .inl rfl

/-- What an effect does to the queue of created tasks. -/
theorem Effect.queue {config : Config} {overflow : Prop} {s after : State}
    (effect : Effect config overflow s after) :
    (∃ added, after.spawned = s.spawned ++ added) ∨ ∃ task, s.spawned = task :: after.spawned := by
  cases effect with
  | accept idle free => exact .inl ⟨_, rfl⟩
  | call parsed current connected => exact .inl ⟨_, rfl⟩
  | close opened => exact .inl ⟨_, rfl⟩
  | popReader next => exact .inr ⟨_, next⟩
  | popCommand next => exact .inr ⟨_, next⟩
  | skipCommand next asked => exact .inr ⟨_, next⟩
  | popCleanup next => exact .inr ⟨_, next⟩
  | @release sid current left =>
    rw [State.release, if_pos current]
    exact .inl ⟨[], by simp⟩
  | @fail sid gone left =>
    refine .inl ⟨[], ?_⟩
    rcases s.failPending_cases sid with same | ⟨d, pending, error, -, -, -, -, same⟩
    · simp [same]
    · simp [same, State.setFuture]
  | @report sid raw frame rest decoded status found handling next isReport decodes built =>
    refine .inl ⟨[], ?_⟩
    rcases State.confirm_cases _ sid frame (s.sessions sid).offset status with
      same | ⟨d, pending, -, -, -, -, -, -, -, -, same⟩
    · rw [same]; simp [State.takeFrame]
    · rw [same]; simp [State.takeFrame, State.setFuture]
  | reply phase sent =>
    obtain ⟨-, -, -, -, -, -, raw, -, rfl⟩ := State.sendTurn_sent sent
    exact .inl ⟨[], by simp [State.setReadAt, State.write]⟩
  | transmit phase sent =>
    obtain ⟨-, -, -, -, -, -, raw, -, rfl⟩ := State.sendTurn_sent sent
    refine .inl ⟨[], ?_⟩
    simp only [State.setCall, State.write, List.append_nil]
    split <;> rfl
  | _ => exact .inl ⟨[], (List.append_nil _).symm⟩

/-- Where the first step of a call is in the queue of created tasks. -/
def AwaitsStart (s : State) (c : Nat) (rank : Nat) : Prop :=
  (s.calls c).execute = .created ∧ s.spawned.idxOf (.command c) = rank

/-- The task of the call is past its first step. -/
def Started (s : State) (c : Nat) : Prop :=
  (s.calls c).execute.timed ∨ ∃ outcome, (s.calls c).execute = .done outcome

def Ended (s : State) (c : Nat) : Prop := ∃ outcome, (s.calls c).execute = .done outcome

theorem Advances.started {s after : State} {c : Nat} (advances : Advances s after c)
    (started : Started s c) : Started after c := by
  rcases advances with same | ⟨-, moved⟩
  · simpa [Started, same] using started
  · exact moved

theorem Advances.ended {s after : State} {c : Nat} (advances : Advances s after c)
    {outcome : Outcome} (done : (s.calls c).execute = .done outcome) :
    (after.calls c).execute = .done outcome := by
  rcases advances with same | ⟨live, -⟩
  · exact same.trans done
  · exact absurd done (live outcome)

theorem Effect.queued {config : Config} {overflow : Prop} {s after : State}
    (effect : Effect config overflow s after) (shape : Shape s) {c rank : Nat}
    (queued : AwaitsStart s c rank) : (∃ lower, lower ≤ rank ∧ AwaitsStart after c lower) ∨ Started after c := by
  obtain ⟨created, place⟩ := queued
  have member := shape.createdCommand c created
  have known := (shape.spawnedCommand c member).1
  rcases effect.advances shape known with same | ⟨-, moved⟩
  · refine .inl ⟨after.spawned.idxOf (.command c), ?_, same.trans created, rfl⟩
    have still := (effect.shape shape).createdCommand c (same.trans created)
    rcases effect.queue with ⟨added, appended⟩ | ⟨task, popped⟩
    · rw [appended, List.idxOf_append_of_mem member, place]
    · have other : task ≠ .command c := by
        rintro rfl
        have once := shape.spawnedOnce
        rw [popped, List.nodup_cons] at once
        exact once.1 still
      rw [popped, List.idxOf_cons_ne _ other] at place
      omega
  · exact .inr moved

theorem Effect.count {config : Config} {overflow : Prop} {s after : State}
    (effect : Effect config overflow s after) : s.callCount ≤ after.callCount := by
  cases effect with
  | release current left =>
    rw [State.release, if_pos current]
  | @fail sid gone left =>
    rcases s.failPending_cases sid with same | ⟨d, pending, error, -, -, -, -, same⟩
    · rw [same]
    · rw [same]; exact Nat.le_refl _
  | @report sid raw frame rest decoded status found handling next isReport decodes built =>
    rcases State.confirm_cases _ sid frame (s.sessions sid).offset status with
      same | ⟨d, pending, -, -, -, -, -, -, -, -, same⟩
    · rw [same]; exact Nat.le_refl _
    · rw [same]; exact Nat.le_refl _
  | reply phase sent =>
    obtain ⟨-, -, -, -, -, -, raw, -, rfl⟩ := State.sendTurn_sent sent
    exact Nat.le_refl _
  | transmit phase sent =>
    obtain ⟨-, -, -, -, -, -, raw, -, rfl⟩ := State.sendTurn_sent sent
    simp only [State.setCall, State.write]
    split <;> exact Nat.le_refl _
  | refuse rejected => exact Nat.le_succ _
  | call parsed current connected => exact Nat.le_succ _
  | _ => exact Nat.le_refl _

/-- What every effect keeps, every path of effects keeps. -/
theorem Effects.keep {config : Config} {overflow : Prop} {s after : State}
    (effects : Effects config overflow s after) (holds : State → Prop) (shape : Shape s)
    (kept : ∀ s after, Effect config overflow s after → Shape s → holds s → holds after)
    (held : holds s) : holds after := by
  have both : Shape after ∧ holds after := by
    induction effects with
    | refl => exact ⟨shape, held⟩
    | tail _ effect ih => exact ⟨effect.shape ih.1, kept _ _ effect ih.1 ih.2⟩
  exact both.2

theorem Effects.started {config : Config} {overflow : Prop} {s after : State} {c : Nat}
    (effects : Effects config overflow s after) (shape : Shape s) (known : c < s.callCount)
    (started : Started s c) : c < after.callCount ∧ Started after c :=
  Effects.keep effects (fun s => c < s.callCount ∧ Started s c) shape (fun _ _ effect shape held =>
    ⟨Nat.lt_of_lt_of_le held.1 effect.count, (effect.advances shape held.1).started held.2⟩)
    ⟨known, started⟩

theorem Effects.ended {config : Config} {overflow : Prop} {s after : State} {c : Nat}
    {outcome : Outcome} (effects : Effects config overflow s after) (shape : Shape s)
    (known : c < s.callCount) (done : (s.calls c).execute = .done outcome) :
    c < after.callCount ∧ (after.calls c).execute = .done outcome :=
  Effects.keep effects (fun s => c < s.callCount ∧ (s.calls c).execute = .done outcome) shape
    (fun _ _ effect shape held =>
      ⟨Nat.lt_of_lt_of_le held.1 effect.count, (effect.advances shape held.1).ended held.2⟩)
    ⟨known, done⟩

theorem Effects.queued {config : Config} {overflow : Prop} {s after : State} {c rank : Nat}
    (effects : Effects config overflow s after) (shape : Shape s) (queued : AwaitsStart s c rank) :
    (∃ lower, lower ≤ rank ∧ AwaitsStart after c lower) ∨ Started after c := by
  have known := (shape.spawnedCommand c (shape.createdCommand c queued.1)).1
  have both : c < after.callCount ∧
      ((∃ lower, lower ≤ rank ∧ AwaitsStart after c lower) ∨ Started after c) := by
    refine Effects.keep effects (fun s => c < s.callCount ∧
      ((∃ lower, lower ≤ rank ∧ AwaitsStart s c lower) ∨ Started s c)) shape ?_ ⟨known, .inl ⟨rank, Nat.le_refl _, queued⟩⟩
    rintro s after effect shape ⟨known, ⟨lower, bound, queued⟩ | started⟩
    · refine ⟨Nat.lt_of_lt_of_le known effect.count, ?_⟩
      rcases effect.queued shape queued with ⟨least, less, still⟩ | started
      · exact .inl ⟨least, Nat.le_trans less bound, still⟩
      · exact .inr started
    · exact ⟨Nat.lt_of_lt_of_le known effect.count, .inr ((effect.advances shape known).started started)⟩
  exact both.2

section Progress

variable {config : Config} {s after : State} {c : Nat}

theorem reachable_coherent (reached : Async.Reachable (client config) s) :
    Coherent config True s := (reachable_guarded reached).1

theorem reachable_effects {label : Label} (reached : Async.Reachable (client config) s)
    (taken : (client config).step s label = some after) :
    Effects config (¬ s.tokenFits) s after :=
  step_effects (reachable_coherent reached).shape (reachable_coherent reached).epoch taken

/-- Starting the oldest created task brings every later one forward. -/
theorem start_advances {rank : Nat} (reached : Async.Reachable (client config) s)
    (queued : AwaitsStart s c rank) (taken : (client config).step s .start = some after) :
    (∃ lower, lower < rank ∧ AwaitsStart after c lower) ∨ Started after c := by
  have shape := (reachable_coherent reached).shape
  obtain ⟨task, middle, next, first, later⟩ :=
    startTask_pops config False shape taken
  rcases first.queued shape queued with ⟨lower, -, created, place⟩ | started
  · have member := (first.shape shape).createdCommand c created
    have other : task ≠ .command c := by
      rintro rfl
      have once := shape.spawnedOnce
      rw [next, List.nodup_cons] at once
      exact once.1 member
    have before := queued.2
    rw [next, List.idxOf_cons_ne _ other, place] at before
    rcases Effects.queued later (first.shape shape) ⟨created, place⟩ with
      ⟨least, bound, still⟩ | started
    · exact .inl ⟨least, by omega, still⟩
    · exact .inr started
  · have known := (shape.spawnedCommand c (shape.createdCommand c queued.1)).1
    exact .inr (Effects.started later (first.shape shape)
      (Nat.lt_of_lt_of_le known first.count) started).2

/-- A timer of a started task that has not ended can expire, and ends it. -/
theorem timeout_enabled (config : Config) (timed : (s.calls c).execute.timed) :
    ∃ outcome unlocked, s.resumeExecute config c .timeout = some (State.settle unlocked c outcome) ∧
      unlocked.calls = s.calls := by
  cases phase : (s.calls c).execute with
  | created => simp [phase, ExecuteAt.timed, ExecuteAt.registered] at timed
  | done outcome => simp [phase, ExecuteAt.timed, ExecuteAt.registered] at timed
  | commandLock | sendLock | pacing | draining | acknowledgement =>
    simp only [State.resumeExecute, phase]
    split
    · exact ⟨_, _, rfl, rfl⟩
    · exact ⟨_, _, rfl, rfl⟩

/-- Every created task takes its first step. -/
theorem call_starts (run : Async.Execution (client config)) (starts : run.Fair .start) {n rank : Nat}
    (queued : AwaitsStart (run.state n) c rank) :
    ∃ m, n ≤ m ∧ c < (run.state m).callCount ∧ Started (run.state m) c := by
  have known : ∀ {s : State} {rank : Nat}, Async.Reachable (client config) s → AwaitsStart s c rank →
      c < s.callCount := fun reached queued =>
    let shape := (reachable_coherent reached).shape
    (shape.spawnedCommand c (shape.createdCommand c queued.1)).1
  refine run.eventually_ranked starts (fun rank s => AwaitsStart s c rank)
    (fun s => c < s.callCount ∧ Started s c) ?_ ?_ ?_ queued
  · intro rank s other after reached queued taken
    have shape := (reachable_coherent reached).shape
    have effects := reachable_effects reached taken
    rcases Effects.queued effects shape queued with lower | started
    · exact .inl lower
    · refine .inr ⟨?_, started⟩
      exact (Effects.keep effects (fun s => c < s.callCount) shape
        (fun _ _ effect _ held => Nat.lt_of_lt_of_le held effect.count) (known reached queued))
  · intro rank s reached queued
    have member := (reachable_coherent reached).shape.createdCommand c queued.1
    cases spawned : s.spawned with
    | nil => simp [spawned] at member
    | cons task rest =>
      simp only [client, step, State.startTask, spawned]
      cases task <;> rfl
  · intro rank s after reached queued taken
    have shape := (reachable_coherent reached).shape
    rcases start_advances reached queued taken with lower | started
    · exact .inl lower
    · refine .inr ⟨?_, started⟩
      exact (Effects.keep (reachable_effects reached taken) (fun s => c < s.callCount) shape
        (fun _ _ effect _ held => Nat.lt_of_lt_of_le held effect.count) (known reached queued))

/-- Every started task ends. -/
theorem task_ends (run : Async.Execution (client config))
    (expires : run.Fair (.execute c .timeout)) {n : Nat} (known : c < (run.state n).callCount)
    (started : Started (run.state n) c) :
    ∃ m, n ≤ m ∧ c < (run.state m).callCount ∧ Ended (run.state m) c := by
  rcases started with timed | ended
  · refine run.eventually expires (fun s => c < s.callCount ∧ (s.calls c).execute.timed)
      (fun s => c < s.callCount ∧ Ended s c) ?_ ?_ ?_ ⟨known, timed⟩
    · rintro s other after reached ⟨known, timed⟩ taken
      obtain ⟨still, timed | ended⟩ := Effects.started (reachable_effects reached taken)
        (reachable_coherent reached).shape known (.inl timed)
      · exact .inl ⟨still, timed⟩
      · exact .inr ⟨still, ended⟩
    · rintro s reached ⟨known, timed⟩
      obtain ⟨outcome, unlocked, resumed, -⟩ := timeout_enabled config timed
      simp [client, step, known, resumed]
    · rintro s after reached ⟨known, timed⟩ taken
      obtain ⟨still, -⟩ := Effects.started (reachable_effects reached taken)
        (reachable_coherent reached).shape known (.inl timed)
      obtain ⟨outcome, unlocked, resumed, -⟩ := timeout_enabled config timed
      simp only [client, step, known, ↓reduceIte, resumed, Option.some.injEq] at taken
      subst taken
      exact ⟨still, outcome, by simp [State.settle]⟩
  · exact ⟨n, Nat.le_refl _, known, ended⟩

/-- The caller of an ended task is told. -/
theorem caller_told (run : Async.Execution (client config)) (resumes : run.Fair (.resumeCaller c))
    {n : Nat} (known : c < (run.state n).callCount) (ended : Ended (run.state n) c) :
    ∃ m, n ≤ m ∧ ∃ outcome, .ended c outcome ∈ (run.state m).log := by
  have told : ∀ {s : State} {outcome : Outcome}, Async.Reachable (client config) s →
      c < s.callCount → (s.calls c).caller = .ended outcome → .ended c outcome ∈ s.log :=
    fun reached known held => (((reachable_coherent reached).callers c).ended known _ held).1
  by_cases already : ∃ outcome, ((run.state n).calls c).caller = .ended outcome
  · obtain ⟨outcome, held⟩ := already
    exact ⟨n, Nat.le_refl _, outcome, told (run.reachable n) known held⟩
  refine run.eventually resumes (fun s => c < s.callCount ∧ Ended s c ∧
      ∀ outcome, (s.calls c).caller ≠ .ended outcome)
    (fun s => ∃ outcome, .ended c outcome ∈ s.log) ?_ ?_ ?_
    ⟨known, ended, fun outcome held => already ⟨outcome, held⟩⟩
  · rintro s other after reached ⟨known, ⟨last, done⟩, -⟩ taken
    obtain ⟨still, done⟩ := Effects.ended (reachable_effects reached taken)
      (reachable_coherent reached).shape known done
    by_cases finished : ∃ outcome, (after.calls c).caller = .ended outcome
    · obtain ⟨outcome, held⟩ := finished
      exact .inr ⟨outcome, told (.next reached trivial taken) still held⟩
    · exact .inl ⟨still, ⟨last, done⟩, fun outcome held => finished ⟨outcome, held⟩⟩
  · rintro s reached ⟨known, ⟨last, done⟩, waiting⟩
    cases caller : (s.calls c).caller with
    | ended outcome => exact absurd caller (waiting outcome)
    | waiting => simp [client, step, known, State.resumeCaller, caller, done]
    | draining => simp [client, step, known, State.resumeCaller, caller, done]
  · rintro s after reached ⟨known, ⟨last, done⟩, waiting⟩ taken
    simp only [client, step, known, ↓reduceIte] at taken
    cases caller : (s.calls c).caller with
    | ended outcome => exact absurd caller (waiting outcome)
    | waiting =>
      simp only [State.resumeCaller, caller, done, Option.some.injEq] at taken
      exact ⟨last, by simp [← taken, State.endCaller]⟩
    | draining =>
      simp only [State.resumeCaller, caller, done, Option.some.injEq] at taken
      exact ⟨.cancelled, by simp [← taken, State.endCaller]⟩

/-- Under weak fairness of the event loop, of armed timers and of resumed callers,
every call ends. -/
theorem call_ends (run : Async.Execution (client config)) (starts : run.Fair .start)
    (expires : ∀ c, run.Fair (.execute c .timeout)) (resumes : ∀ c, run.Fair (.resumeCaller c))
    {n : Nat} (known : c < (run.state n).callCount) :
    ∃ m, n ≤ m ∧ ∃ outcome, .ended c outcome ∈ (run.state m).log := by
  have finish : ∀ m, n ≤ m → c < (run.state m).callCount → Started (run.state m) c →
      ∃ last, n ≤ last ∧ ∃ outcome, .ended c outcome ∈ (run.state last).log := by
    intro m later known started
    obtain ⟨k, after, known, ended⟩ := task_ends run (expires c) known started
    obtain ⟨last, final, told⟩ := caller_told run (resumes c) known ended
    exact ⟨last, by omega, told⟩
  cases phase : ((run.state n).calls c).execute with
  | created =>
    obtain ⟨m, later, known, started⟩ := call_starts run starts ⟨phase, rfl⟩
    exact finish m later known started
  | done outcome => exact finish n (Nat.le_refl _) known (.inr ⟨outcome, phase⟩)
  | _ =>
    refine finish n (Nat.le_refl _) known (.inl ?_)
    rw [phase]
    rfl

end Progress

/-- The outcome of a command tells truthfully whether its frame was written, and
every call ends. -/
theorem command_outcome (config : Config) :
    (∀ s, Async.Run (client config) (fun state _ => state.nextTimestamp < 2 ^ 32) s →
      ∀ c request session command outcome, .called c request session ∈ s.log →
        request.command = .ok command → .ended c outcome ∈ s.log → Truthful s.log c outcome) ∧
    ∀ run : Async.Execution (client config), run.Fair .start →
      (∀ c, run.Fair (.execute c .timeout)) → (∀ c, run.Fair (.resumeCaller c)) →
      ∀ n c request session, .called c request session ∈ (run.state n).log →
        ∃ m, n ≤ m ∧ ∃ outcome, .ended c outcome ∈ (run.state m).log := by
  constructor
  · intro s run c request session command outcome called parsed ended
    have coherent : Coherent config False s ∧ True :=
      Run.effects (fun _ => True) (fun _ _ _ => trivial) (fun _ _ _ _ _ _ _ => trivial)
        (fun state label coherent short long =>
          long ⟨State.nextTimestamp_nonneg coherent.epoch, Int.le_of_lt_add_one short⟩) run
    exact coherent.1.truthful called parsed ended
  · intro run starts expires resumes n c request session called
    exact call_ends run starts expires resumes
      ((reachable_coherent (run.reachable n)).shape.eventCall _ called c rfl)

/-- The example run keeps its tokens small, and can idle for ever fairly. -/
theorem exampleRun_fair : ∃ s, exampleRun = some s ∧
    Async.Run (client exampleConfig) (fun state _ => state.nextTimestamp < 2 ^ 32) s ∧
    ∃ run : Async.Execution (client exampleConfig),
      (∀ n, exampleLabels.length ≤ n → run.state n = s) ∧ run.Fair .start ∧
      (∀ c, run.Fair (.execute c .timeout)) ∧ ∀ c, run.Fair (.resumeCaller c) := by
  have shown : (((client exampleConfig).checked fun state _ =>
      decide (state.nextTimestamp < 2 ^ 32)).follow (State.start exampleConfig 0 0)
      exampleLabels).map (fun s => s.spawned.isEmpty && s.callCount = 1 &&
        ((s.resumeExecute exampleConfig 0 .timeout).isNone && (s.resumeCaller 0).isNone)) =
      some true := by decide +kernel
  obtain ⟨s, checked, facts⟩ := Option.map_eq_some_iff.mp shown
  simp only [Bool.and_eq_true, List.isEmpty_iff, decide_eq_true_eq, Option.isNone_iff_eq_none]
    at facts
  obtain ⟨⟨empty, single⟩, expired, resumed⟩ := facts
  obtain ⟨reached, followed⟩ := Async.Run.of_checked
    (.start (show (client exampleConfig).initial _ from ⟨0, 0, le_rfl, rfl⟩))
    (fun _ _ small => of_decide_eq_true small) checked
  obtain ⟨run, -, idle⟩ := Async.Execution.idling
    (show (client exampleConfig).initial _ from ⟨0, 0, le_rfl, rfl⟩) followed
  have still : ∀ label, (client exampleConfig).step s label = none → run.Fair label :=
    fun label absent => run.fair_of_disabled fun n =>
      ⟨max n exampleLabels.length, le_max_left _ _, by rw [idle _ (le_max_right _ _)]; exact absent⟩
  have only : ∀ c, c < s.callCount → c = 0 := by omega
  refine ⟨s, followed, reached, run, idle, still _ ?_, fun c => still _ ?_,
    fun c => still _ ?_⟩
  · simp [client, step, State.startTask, empty]
  · simp only [client, step]
    split
    · rename_i known
      rw [only c known]
      exact expired
    · rfl
  · simp only [client, step]
    split
    · rename_i known
      rw [only c known]
      exact resumed
    · rfl

theorem command_outcome_example : ∃ s, exampleRun = some s ∧
    (∃ outcome, .ended 0 outcome ∈ s.log ∧ Truthful s.log 0 outcome) ∧
    ∃ run : Async.Execution (client exampleConfig), ∃ m, exampleLabels.length ≤ m ∧
      ∃ outcome, .ended 0 outcome ∈ (run.state m).log := by
  obtain ⟨s, followed, -, called, -, status, ended⟩ := exampleRun_spec
  obtain ⟨other, same, reached, run, last, starts, expires, resumes⟩ := exampleRun_fair
  rw [followed] at same
  obtain rfl := Option.some.inj same
  obtain ⟨truthful, ends⟩ := command_outcome exampleConfig
  exact ⟨s, followed, ⟨_, ended, truthful s reached 0 _ _ _ _ called rfl ended⟩, run,
    ends run starts expires resumes _ 0 _ _ (last _ le_rfl ▸ called)⟩

end AlorairLite.Local
