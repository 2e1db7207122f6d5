import AlorairLite.Local.Link

/-! The detached task of a command: what its phase says about its pending record,
its frame, the command lock and the session. -/

namespace AlorairLite.Local

open State

/-- The task an event tells about. -/
@[simp] def Event.task? : Event → Option Nat
  | .wrote write => write.call
  | .settled c _ => some c
  | _ => none

/-- A frame of the call has been handed to the transport. -/
def Wrote (log : List Event) (c : Nat) : Prop := ∃ write, .wrote write ∈ log ∧ write.call = some c

/-- The record a task in this phase has made, and whether its frame was queued. -/
def ExecuteAt.agrees (pending : Option Pending) : ExecuteAt → Prop
  | .created | .commandLock => pending = none
  | .sendLock | .pacing => ∃ record, pending = some record ∧ record.queued = false
  | .draining | .acknowledgement => ∃ record, pending = some record ∧ record.queued
  | .done _ => ∀ record, pending = some record → record.future ≠ .pending

def Error.isUncertain : Error → Bool
  | .commandUncertain _ _ _ _ _ => true
  | _ => false

/-- Whether the record of a call has a queued frame. -/
def Call.queued (call : Call) : Prop := ∃ record, call.pending = some record ∧ record.queued

/-- How a finished task is related to its frame. `limit` allows the `ValueError`
of a frame that cannot be encoded. -/
def Finished (limit : Prop) (log : List Event) (c : Nat) (call : Call) : Outcome → Prop
  | .returned status =>
    ∃ record, call.pending = some record ∧ record.queued ∧ record.future = .result status
  | .raised error =>
    error.unsent ∧ ¬ call.queued ∨ error.isUncertain ∧ call.queued ∨
      (∃ text, error = .valueError text) ∧ ¬ call.queued ∧
        (limit ∨ ∃ request session text, .called c request session ∈ log ∧
          request.command = .error text)
  | .cancelled => .callerCancelled c ∈ log ∧ ¬ call.queued

/-- What a resolved future says. -/
def FutureAgrees (s : State) (call : Call) (record : Pending) : Prop :=
  match record.future with
  | .pending => True
  | .result _ => record.queued
  | .exception error =>
    error.isUncertain ∧ record.queued ∨
      error.unsent ∧ record.queued = false ∧ s.session ≠ some call.session
  | .cancelled => ∃ outcome, call.execute = .done outcome

structure Task (limit : Prop) (s : State) (c : Nat) : Prop where
  bound : (s.calls c).session ≤ s.sessionCounter
  phase : (s.calls c).execute.agrees (s.calls c).pending
  record : ∀ record, (s.calls c).pending = some record →
    record.opcode = (s.calls c).command.opcode ∧ record.expected = (s.calls c).command.expected ∧
      record.allowStale = (s.calls c).command.allowStale
  wrote : Wrote s.log c ↔ (s.calls c).queued
  future : ∀ record, (s.calls c).pending = some record → FutureAgrees s (s.calls c) record
  lock : (s.calls c).execute.registered → s.commandLock = some c ∧
    (s.sessions (s.calls c).session).pending = some c
  owner : s.commandLock = some c → (s.calls c).execute.registered
  attached : ∀ sid, (s.sessions sid).pending = some c →
    (s.calls c).execute.registered ∧ (s.calls c).session = sid
  outcome : c < s.callCount → ∀ outcome, (s.calls c).execute = .done outcome →
    Finished limit s.log c (s.calls c) outcome
  settled : ∀ outcome, .settled c outcome ∈ s.log → (s.calls c).execute = .done outcome

theorem Finished.append {limit : Prop} {log : List Event} {c : Nat} {call : Call} {outcome : Outcome}
    (finished : Finished limit log c call outcome) (later : List Event) :
    Finished limit (log ++ later) c call outcome := by
  cases outcome with
  | returned status => exact finished
  | raised error =>
    rcases finished with unsent | uncertain | ⟨value, unqueued, large | refused⟩
    · exact .inl unsent
    · exact .inr (.inl uncertain)
    · exact .inr (.inr ⟨value, unqueued, .inl large⟩)
    · obtain ⟨request, session, text, member, rejected⟩ := refused
      exact .inr (.inr ⟨value, unqueued,
        .inr ⟨request, session, text, List.mem_append_left _ member, rejected⟩⟩)
  | cancelled => exact ⟨List.mem_append_left _ finished.1, finished.2⟩

theorem Wrote.append_iff {log later : List Event} {c : Nat}
    (silent : ∀ write, .wrote write ∈ later → write.call ≠ some c) :
    Wrote (log ++ later) c ↔ Wrote log c := by
  constructor
  · rintro ⟨write, member, call⟩
    rcases List.mem_append.mp member with old | fresh
    · exact ⟨write, old, call⟩
    · exact absurd call (silent _ fresh)
  · rintro ⟨write, member, call⟩
    exact ⟨write, List.mem_append_left _ member, call⟩

/-- An effect that leaves the task of this call alone. -/
structure SameTask (s after : State) (c : Nat) (events : List Event) : Prop where
  command : (after.calls c).command = (s.calls c).command := by rfl
  session' : (after.calls c).session = (s.calls c).session := by rfl
  execute : (after.calls c).execute = (s.calls c).execute := by rfl
  record : (after.calls c).pending = (s.calls c).pending := by rfl
  log : after.log = s.log ++ events := by rfl
  silent : ∀ event ∈ events, event.task? ≠ some c := by simp
  known : c < after.callCount → c < s.callCount := by exact id
  lock : after.commandLock = some c ↔ s.commandLock = some c := by exact Iff.rfl
  pending : ∀ sid, (after.sessions sid).pending = some c ↔ (s.sessions sid).pending = some c := by
    exact fun _ => Iff.rfl
  counter : s.sessionCounter ≤ after.sessionCounter := by exact Nat.le_refl _
  session : ∀ sid, sid ≤ s.sessionCounter → after.session = some sid → s.session = some sid := by
    exact fun _ _ => id

theorem Finished.transfer {limit : Prop} {log : List Event} {c : Nat} {old new : Call}
    {outcome : Outcome} (finished : Finished limit log c old outcome)
    (record : new.pending = old.pending) : Finished limit log c new outcome := by
  cases outcome <;> simpa only [Finished, Call.queued, record] using finished

theorem FutureAgrees.transfer {s after : State} {old new : Call} {record : Pending}
    (agrees : FutureAgrees s old record) (execute : new.execute = old.execute)
    (gone : s.session ≠ some old.session → after.session ≠ some new.session) :
    FutureAgrees after new record := by
  unfold FutureAgrees at agrees ⊢
  split at agrees
  · trivial
  · exact agrees
  · rcases agrees with uncertain | ⟨unsent, unqueued, absent⟩
    · exact .inl uncertain
    · exact .inr ⟨unsent, unqueued, gone absent⟩
  · rw [execute]
    exact agrees

theorem Task.keep {limit : Prop} {s after : State} {c : Nat} {events : List Event}
    (task : Task limit s c) (same : SameTask s after c events) : Task limit after c := by
  have queued : (after.calls c).queued ↔ (s.calls c).queued := by
    simp only [Call.queued, same.record]
  constructor
  · rw [same.session']
    exact Nat.le_trans task.bound same.counter
  · rw [same.execute, same.record]
    exact task.phase
  · rw [same.record, same.command]
    exact task.record
  · rw [same.log, Wrote.append_iff fun write => same.silent (.wrote write), queued]
    exact task.wrote
  · rw [same.record]
    intro record recorded
    refine (task.future record recorded).transfer same.execute fun gone current => ?_
    rw [same.session'] at current
    exact gone (same.session _ task.bound current)
  · rw [same.execute, same.lock, same.session', same.pending]
    exact task.lock
  · rw [same.execute, same.lock]
    exact task.owner
  · intro sid
    rw [same.execute, same.session', same.pending]
    exact task.attached sid
  · rw [same.execute, same.log]
    exact fun known outcome done =>
      ((task.outcome (same.known known) outcome done).append events).transfer same.record
  · intro outcome member
    rw [same.log] at member
    rw [same.execute]
    rcases List.mem_append.mp member with old | fresh
    · exact task.settled outcome old
    · exact absurd rfl (same.silent _ fresh)

/-- The tasks of all calls. -/
def Tasks (limit : Prop) (s : State) : Prop := ∀ c, Task limit s c

theorem Tasks.keep {limit : Prop} {s after : State} (tasks : Tasks limit s) (events : List Event)
    (same : ∀ c, SameTask s after c events) : Tasks limit after := fun c => (tasks c).keep (same c)

/-- Only the task of one call changes. -/
theorem Tasks.one {limit : Prop} {s after : State} (tasks : Tasks limit s) (c : Nat)
    (events : List Event) (others : ∀ d, d ≠ c → SameTask s after d events)
    (own : Task limit after c) : Tasks limit after := by
  intro d
  by_cases equal : d = c
  · exact equal ▸ own
  · exact (tasks d).keep (others d equal)

/-- Calls, sessions and the lock stay as they are. -/
theorem Tasks.aside {limit : Prop} {s after : State} (tasks : Tasks limit s) (events : List Event)
    (log : after.log = s.log ++ events) (silent : ∀ event ∈ events, event.task? = none)
    (count : after.callCount = s.callCount) (calls : after.calls = s.calls)
    (lock : after.commandLock = s.commandLock)
    (pending : ∀ sid, (after.sessions sid).pending = (s.sessions sid).pending)
    (counter : after.sessionCounter = s.sessionCounter) (session : after.session = s.session) :
    Tasks limit after :=
  tasks.keep events fun c =>
    { command := by rw [calls]
      session' := by rw [calls]
      execute := by rw [calls]
      record := by rw [calls]
      log
      silent := fun event member => by rw [silent event member]; simp
      known := by rw [count]; exact id
      lock := by rw [lock]
      pending := fun sid => by rw [pending]
      counter := by rw [counter]
      session := fun _ _ => by rw [session]; exact id }

/-- A session changes, not the command attached to it. -/
theorem Tasks.session {limit : Prop} {s : State} {sid : Nat} {session : Session}
    (tasks : Tasks limit s) (pending : session.pending = (s.sessions sid).pending) :
    Tasks limit (s.setSession sid session) :=
  tasks.aside [] (by simp) (by simp) rfl rfl rfl (update_field Session.pending pending) rfl rfl

/-- A call changes in fields its task does not use. -/
theorem Tasks.call {limit : Prop} {s : State} {c : Nat} {call : Call} (tasks : Tasks limit s)
    (command : call.command = (s.calls c).command) (session : call.session = (s.calls c).session)
    (execute : call.execute = (s.calls c).execute) (record : call.pending = (s.calls c).pending) :
    Tasks limit (s.setCall c call) :=
  tasks.keep [] fun d =>
    { command := update_field Call.command command d
      session' := update_field Call.session session d
      execute := update_field Call.execute execute d
      record := update_field Call.pending record d
      log := by simp }

/-- A task whose future is unresolved has not finished. -/
theorem Task.waiting_live {limit : Prop} {s : State} {c : Nat} {pending : Pending}
    (task : Task limit s c) (recorded : (s.calls c).pending = some pending)
    (waiting : pending.future = .pending) : ∀ outcome, (s.calls c).execute ≠ .done outcome := by
  intro outcome done
  have phase := task.phase
  rw [done] at phase
  exact phase pending recorded waiting

/-- The future of a waiting record is resolved by a result or an exception. -/
theorem Tasks.setFuture {limit : Prop} {s : State} {c : Nat} {pending : Pending} {future : Future}
    (tasks : Tasks limit s) (recorded : (s.calls c).pending = some pending)
    (waiting : pending.future = .pending)
    (agrees : FutureAgrees s (s.calls c) { pending with future }) :
    Tasks limit (s.setFuture c pending future) := by
  have queued : ((s.setFuture c pending future).calls c).queued ↔ (s.calls c).queued := by
    simp [State.setFuture, Call.queued, recorded]
  refine tasks.one c [] (fun d other => ?_) ?_
  · exact { command := by simp [State.setFuture, other], session' := by simp [State.setFuture, other]
            execute := by simp [State.setFuture, other], record := by simp [State.setFuture, other]
            log := by simp [State.setFuture] }
  have task := tasks c
  have live := task.waiting_live recorded waiting
  constructor
  · simpa [State.setFuture] using task.bound
  · have phase := task.phase
    simp only [State.setFuture, State.setCall, Function.update_self]
    cases execute : (s.calls c).execute with
    | created | commandLock => simp [execute, ExecuteAt.agrees, recorded] at phase
    | sendLock | pacing | draining | acknowledgement =>
      simpa [execute, ExecuteAt.agrees, recorded] using phase
    | done outcome => exact absurd execute (live outcome)
  · simpa [State.setFuture, recorded] using task.record
  · rw [queued]
    exact task.wrote
  · intro record found
    obtain rfl : { pending with future } = record := by simpa [State.setFuture] using found
    refine agrees.transfer ?_ ?_
    · simp [State.setFuture]
    · simp [State.setFuture]
  · simpa [State.setFuture] using task.lock
  · simpa [State.setFuture] using task.owner
  · simpa [State.setFuture] using task.attached
  · intro _ outcome done
    exact absurd (by simpa [State.setFuture] using done) (live outcome)
  · simpa [State.setFuture] using task.settled

theorem ExecuteMove.agrees {phase target : ExecuteAt} (move : ExecuteMove phase target)
    (pending : Option Pending) : phase.agrees pending → target.agrees pending := by
  cases move <;> exact id

/-- A task that has not finished moves to another phase with the same demands. -/
theorem Tasks.move {limit : Prop} {s : State} {c : Nat} {target : ExecuteAt} (tasks : Tasks limit s)
    (live : ∀ outcome, (s.calls c).execute ≠ .done outcome)
    (phase : (s.calls c).execute.agrees (s.calls c).pending → target.agrees (s.calls c).pending)
    (registered : target.registered = (s.calls c).execute.registered)
    (unfinished : ∀ outcome, target ≠ .done outcome) :
    Tasks limit (s.setCall c { s.calls c with execute := target }) := by
  refine tasks.one c [] (fun d other => ?_) ?_
  · exact { command := by simp [other], session' := by simp [other]
            execute := by simp [other], record := by simp [other], log := by simp }
  have task := tasks c
  constructor
  · simpa using task.bound
  · simpa using phase task.phase
  · simpa using task.record
  · simpa [Call.queued] using task.wrote
  · intro record found
    have agrees := task.future record (by simpa using found)
    unfold FutureAgrees at agrees ⊢
    split at agrees
    · trivial
    · exact agrees
    · simpa using agrees
    · obtain ⟨outcome, done⟩ := agrees
      exact absurd done (live outcome)
  · simpa [registered] using task.lock
  · simpa [registered] using task.owner
  · simpa [registered] using task.attached
  · intro _ outcome done
    exact absurd (by simpa using done) (unfinished outcome)
  · intro outcome member
    exact absurd (task.settled outcome member) (live outcome)

/-- While the lock is free no session has a command attached. -/
theorem Task.detached {limit : Prop} {s : State} {c : Nat} (task : Task limit s c)
    (free : s.commandLock ≠ some c) (sid : Nat) : (s.sessions sid).pending ≠ some c := by
  intro found
  exact free (task.lock (task.attached sid found).1).1

theorem Tasks.register {limit : Prop} {s : State} {c : Nat} (tasks : Tasks limit s)
    (phase : (s.calls c).execute = .commandLock) (free : s.commandLock = none) :
    Tasks limit ({ s with commandLock := some c }.register c) := by
  refine tasks.one c [] (fun d other => ?_) ?_
  · refine { command := by simp [State.register, other], session' := by simp [State.register, other]
             execute := by simp [State.register, other], record := by simp [State.register, other]
             log := by simp [State.register], lock := ?_, pending := ?_ }
    · simp [State.register, free, Ne.symm other]
    · intro sid
      have detached := (tasks d).detached (by simp [free]) sid
      by_cases equal : sid = (s.calls c).session
      · subst equal
        simpa [State.register, Ne.symm other] using detached
      · simp [State.register, equal]
  have task := tasks c
  have absent : (s.calls c).pending = none := by
    have agrees := task.phase
    rwa [phase] at agrees
  constructor
  · simpa [State.register] using task.bound
  · simp [State.register, ExecuteAt.agrees]
  · simp [State.register]
  · simpa [State.register, Call.queued, absent] using task.wrote
  · intro record found
    obtain rfl : _ = record := by simpa [State.register] using found
    trivial
  · simp [State.register]
  · simp [State.register, ExecuteAt.registered]
  · intro sid found
    refine ⟨by simp [State.register, ExecuteAt.registered], ?_⟩
    by_cases equal : sid = (s.calls c).session
    · simp [State.register, equal]
    · simp [State.register, equal] at found
      exact absurd found (task.detached (by simp [free]) sid)
  · simp [State.register]
  · intro outcome member
    have done := task.settled outcome member
    rw [phase] at done
    cases done

/-- The record of a command whose frame is handed to the transport now. -/
def Pending.sent (pending : Pending) (s : State) (sid : Nat) : Pending :=
  { pending with
    receiveSequence := (s.sessions sid).receiveSequence
    byteBoundary := (s.sessions sid).totalReceived
    sentMonotonic := some s.now
    queued := true }

/-- The state after `_send` wrote the frame of a command, before `drain` returned. -/
def State.transmit (s : State) (c : Nat) (raw : Bytes) : State :=
  let call := s.calls c
  let after := s.write call.session call.command.opcode call.command.data (.command c) raw
  { after.setCall c { after.calls c with execute := .draining } with sendLock := some (.command c) }

/-- What changes when the frame of a command is handed to the transport. -/
structure Transmits (s after : State) (c : Nat) (pending : Pending) (write : Write) : Prop where
  calls : after.calls = Function.update s.calls c { s.calls c with
    execute := .draining, pending := some (pending.sent s (s.calls c).session) }
  sessions : after.sessions = s.sessions
  session : after.session = s.session
  counter : after.sessionCounter = s.sessionCounter
  count : after.callCount = s.callCount
  lock : after.commandLock = s.commandLock
  log : after.log = s.log ++ [.wrote write]
  call : write.call = some c
  target : write.session = (s.calls c).session

theorem State.transmit_spec {s : State} {c : Nat} {pending : Pending}
    (recorded : (s.calls c).pending = some pending) (raw : Bytes) :
    ∃ write, Transmits s (s.transmit c raw) c pending write := by
  have calls : (s.transmit c raw).calls = Function.update s.calls c { s.calls c with
      execute := .draining, pending := some (pending.sent s (s.calls c).session) } := by
    simp [State.transmit, State.write, recorded, Pending.sent]
  refine ⟨_, { calls, sessions := ?_, session := ?_, counter := ?_, count := ?_, lock := ?_
               log := rfl, call := rfl, target := rfl }⟩
  all_goals simp [State.transmit, State.write, recorded]

theorem Tasks.transmit {limit : Prop} {s after : State} {c : Nat} {pending : Pending}
    {write : Write} (tasks : Tasks limit s) (sent : Transmits s after c pending write)
    (recorded : (s.calls c).pending = some pending) (phase : (s.calls c).execute = .sendLock)
    (current : s.session = some (s.calls c).session) : Tasks limit after := by
  refine tasks.one c [.wrote write] (fun d other => ?_) ?_
  · have same : after.calls d = s.calls d := by rw [sent.calls, Function.update_of_ne other]
    refine { command := by rw [same], session' := by rw [same], execute := by rw [same]
             record := by rw [same], log := sent.log, silent := ?_
             known := by rw [sent.count]; exact id, lock := by rw [sent.lock]
             pending := fun sid => by rw [sent.sessions], counter := by rw [sent.counter]
             session := fun sid _ => by rw [sent.session]; exact id }
    simp [sent.call, Ne.symm other]
  have task := tasks c
  have own : after.calls c = { s.calls c with
      execute := .draining, pending := some (pending.sent s (s.calls c).session) } := by
    rw [sent.calls, Function.update_self]
  have registered : (s.calls c).execute.registered := by rw [phase]; rfl
  have queued : (after.calls c).queued := ⟨_, by rw [own], rfl⟩
  constructor
  · rw [own, sent.counter]
    exact task.bound
  · rw [own]
    exact ⟨_, rfl, rfl⟩
  · intro record found
    rw [own] at found ⊢
    obtain rfl := Option.some.inj found
    exact task.record pending recorded
  · refine iff_of_true ⟨write, ?_, sent.call⟩ queued
    rw [sent.log]
    exact List.mem_append_right _ (List.mem_singleton.mpr rfl)
  · intro record found
    rw [own] at found
    obtain rfl := Option.some.inj found
    have agrees := task.future pending recorded
    have same : (pending.sent s (s.calls c).session).future = pending.future := rfl
    simp only [FutureAgrees, same] at agrees ⊢
    cases resolved : pending.future with
    | pending => trivial
    | result status => rfl
    | exception error =>
      simp only [resolved] at agrees
      rcases agrees with uncertain | ⟨-, -, gone⟩
      · exact .inl ⟨uncertain.1, rfl⟩
      · exact absurd current gone
    | cancelled =>
      simp only [resolved, phase] at agrees
      obtain ⟨outcome, done⟩ := agrees
      cases done
  · rw [own, sent.lock, sent.sessions]
    exact fun _ => task.lock registered
  · rw [own]
    exact fun _ => rfl
  · intro sid found
    rw [sent.sessions] at found
    rw [own]
    exact ⟨rfl, (task.attached sid found).2⟩
  · intro _ outcome done
    rw [own] at done
    cases done
  · intro outcome member
    rw [sent.log] at member
    have old : .settled c outcome ∈ s.log := by simpa using member
    have done := task.settled outcome old
    rw [phase] at done
    cases done

theorem ExecuteAt.agrees_queued {pending : Option Pending} {phase : ExecuteAt}
    (agrees : phase.agrees pending) (live : phase = .commandLock ∨ phase = .sendLock) :
    ∀ record, pending = some record → record.queued = false := by
  rcases live with rfl | rfl
  · intro record found
    rw [show pending = none from agrees] at found
    cases found
  · rintro record rfl
    obtain ⟨other, equal, unqueued⟩ := agrees
    exact Option.some.inj equal ▸ unqueued

/-- What the handlers of `_execute_command` raise or return tells whether the frame
was queued. -/
theorem Settles.finished {limit overflow : Prop} {s : State} {c : Nat} {outcome : Outcome}
    (how : Settles overflow s c outcome) (task : Task limit s c) (allowed : overflow → limit) :
    Finished limit s.log c (s.calls c) outcome := by
  have answer : ∀ record found, (s.calls c).pending = some record →
      futureOutcome record.future = some found → Finished limit s.log c (s.calls c) found := by
    intro record found recorded done
    have agrees := task.future record recorded
    unfold FutureAgrees at agrees
    cases resolved : record.future with
    | pending => simp [resolved, futureOutcome] at done
    | cancelled => simp [resolved, futureOutcome] at done
    | result status =>
      simp only [resolved, futureOutcome, Option.some.injEq] at agrees done
      subst done
      exact ⟨record, recorded, agrees, resolved⟩
    | exception error =>
      simp only [resolved, futureOutcome, Option.some.injEq] at agrees done
      subst done
      rcases agrees with ⟨uncertain, queued⟩ | ⟨unsent, unqueued, -⟩
      · exact .inr (.inl ⟨uncertain, record, recorded, queued⟩)
      · refine .inl ⟨unsent, ?_⟩
        rintro ⟨other, found, queued⟩
        rw [recorded] at found
        cases found
        simp [unqueued] at queued
  have unsent : ∀ error : Error, error.unsent → ¬ (s.calls c).queued →
      Finished limit s.log c (s.calls c) (.raised error) := fun error unsent unqueued =>
    .inl ⟨unsent, unqueued⟩
  have early : ∀ phase, (s.calls c).execute = phase → phase = .commandLock ∨ phase = .sendLock →
      ¬ (s.calls c).queued := by
    rintro phase execute live ⟨record, recorded, queued⟩
    have agrees := task.phase
    rw [execute] at agrees
    simp [ExecuteAt.agrees_queued agrees live record recorded] at queued
  cases how with
  | cancelled phase asked =>
    simp only [cancelOutcome]
    split
    · rename_i record recorded
      split
      · rename_i queued
        exact .inr (.inl ⟨rfl, record, recorded, queued⟩)
      · rename_i unqueued
        refine unsent _ rfl ?_
        rintro ⟨other, found, queued⟩
        rw [recorded] at found
        cases found
        exact unqueued queued
    · rename_i absent
      exact unsent _ rfl fun ⟨other, found, _⟩ => by rw [absent] at found; cases found
  | expired phase unasked =>
    simp only [timeoutOutcome]
    split
    · rename_i record recorded
      split
      · rename_i found done
        exact answer record found recorded done
      split
      · rename_i queued
        exact .inr (.inl ⟨rfl, record, recorded, queued⟩)
      · rename_i unqueued
        refine unsent _ rfl ?_
        rintro ⟨other, found, queued⟩
        rw [recorded] at found
        cases found
        exact unqueued queued
    · rename_i absent
      exact unsent _ rfl fun ⟨other, found, _⟩ => by rw [absent] at found; cases found
  | refused plain unasked phase =>
    exact unsent _ plain (early _ rfl phase)
  | @unencodable text large phase unasked =>
    exact .inr (.inr ⟨⟨text, rfl⟩, early _ phase (.inr rfl), .inl (allowed large)⟩)
  | answered unasked phase recorded done => exact answer _ _ recorded done

/-- A finished task keeps its record, with no future left pending. -/
theorem Tasks.settle {limit : Prop} {s : State} {c : Nat} {outcome : Outcome}
    (tasks : Tasks limit s) (live : ∀ last, (s.calls c).execute ≠ .done last)
    (finished : c < s.callCount → Finished limit s.log c (s.calls c) outcome) :
    Tasks limit (s.settle c outcome) := by
  refine tasks.one c [.settled c outcome] (fun d other => ?_) ?_
  · refine { command := by simp [State.settle, other], session' := by simp [State.settle, other]
             execute := by simp [State.settle, other], record := by simp [State.settle, other]
             silent := by simp [Ne.symm other], lock := ?_, pending := ?_ }
    · simp only [State.settle]
      split
      · rename_i held
        simp [held, Ne.symm other]
      · exact Iff.rfl
    · intro sid
      simp only [State.settle]
      split
      · rename_i attached
        by_cases equal : sid = (s.calls c).session
        · subst equal
          simp [attached.2, Ne.symm other]
        · rw [Function.update_of_ne equal]
      · exact Iff.rfl
  have task := tasks c
  have queued : ((s.settle c outcome).calls c).queued ↔ (s.calls c).queued := by
    simp only [Call.queued, State.settle, Function.update_self, Option.map_eq_some_iff]
    constructor
    · rintro ⟨record, ⟨before, recorded, rfl⟩, queued⟩
      exact ⟨before, recorded, by simpa using queued⟩
    · rintro ⟨record, recorded, queued⟩
      exact ⟨record.abandon, ⟨record, recorded, rfl⟩, by simpa using queued⟩
  have own : (s.settle c outcome).calls c = { s.calls c with
      execute := .done outcome, cancelling := false
      pending := (s.calls c).pending.map Pending.abandon } := by
    simp [State.settle]
  constructor
  · rw [own]
    exact task.bound
  · rw [own]
    intro record found
    obtain ⟨before, -, rfl⟩ := Option.map_eq_some_iff.mp found
    rw [Pending.abandon_future]
    split <;> simp_all
  · rw [own]
    intro record found
    obtain ⟨before, recorded, rfl⟩ := Option.map_eq_some_iff.mp found
    simpa using task.record before recorded
  · rw [queued]
    exact (Wrote.append_iff (by simp)).trans task.wrote
  · rw [own]
    intro record found
    obtain ⟨before, recorded, rfl⟩ := Option.map_eq_some_iff.mp found
    have agrees := task.future before recorded
    simp only [FutureAgrees, Pending.abandon_future, Pending.abandon_fields] at agrees ⊢
    cases resolved : before.future with
    | pending => exact ⟨outcome, rfl⟩
    | cancelled => exact ⟨outcome, rfl⟩
    | result status => simpa [resolved] using agrees
    | exception error => simpa [resolved, State.settle] using agrees
  · rw [own]
    rintro ⟨⟩
  · intro held
    simp only [State.settle] at held
    split at held
    · cases held
    · exact absurd held ‹_›
  · intro sid found
    have attached : (s.sessions sid).pending = some c ∧
        ¬ ((s.calls c).pending.isSome ∧ (s.calls c).session = sid) := by
      simp only [State.settle] at found
      split at found
      · rename_i own
        by_cases equal : sid = (s.calls c).session
        · simp [equal] at found
        · rw [Function.update_of_ne equal] at found
          exact ⟨found, fun both => equal both.2.symm⟩
      · rename_i other
        refine ⟨found, ?_⟩
        rintro ⟨some, rfl⟩
        exact other ⟨some, found⟩
    obtain ⟨registered, target⟩ := task.attached sid attached.1
    have recorded : (s.calls c).pending.isSome := by
      have agrees := task.phase
      cases phase : (s.calls c).execute <;>
        simp_all [ExecuteAt.registered, ExecuteAt.agrees, Option.isSome_iff_exists]
    exact absurd ⟨recorded, target⟩ attached.2
  · intro known last done
    rw [own] at done
    cases done
    have log : (s.settle c outcome).log = s.log ++ [.settled c outcome] := rfl
    rw [log]
    refine Finished.append ?_ _
    have before := finished known
    cases outcome with
    | returned status =>
      obtain ⟨record, recorded, sent, result⟩ := before
      exact ⟨record.abandon, by simp [own, recorded], by simpa using sent, by simp [result]⟩
    | raised error => simpa only [Finished, queued] using before
    | cancelled => simpa only [Finished, queued] using before
  · intro last member
    rw [own]
    have log : (s.settle c outcome).log = s.log ++ [.settled c outcome] := rfl
    rw [log] at member
    rcases List.mem_append.mp member with old | fresh
    · exact absurd (task.settled last old) (live last)
    · cases List.mem_singleton.mp fresh
      rfl

theorem Call.unqueued {call : Call} (unrecorded : call.pending = .none) : ¬ call.queued := by
  rintro ⟨record, recorded, -⟩
  rw [unrecorded] at recorded
  cases recorded

/-- A call that has just begun: nothing was known of it before. -/
theorem Task.fresh {limit : Prop} {s after : State} {events : List Event} {call : Call}
    (task : Task limit s s.callCount) (shape : Shape s)
    (own : after.calls s.callCount = call) (unrecorded : call.pending = none)
    (log : after.log = s.log ++ events) (silent : ∀ event ∈ events, event.task? = none)
    (lock : after.commandLock = s.commandLock) (sessions : after.sessions = s.sessions)
    (bound : call.session ≤ after.sessionCounter)
    (phase : call.execute = .created ∨ ∃ error, call.execute = .done (.raised error) ∧
      Finished limit after.log s.callCount call (.raised error)) :
    Task limit after s.callCount := by
  have absent := shape.callsKnown s.callCount (Nat.le_refl _)
  have idle : (s.calls s.callCount).execute.registered ≠ true := by
    rw [absent]
    exact Bool.false_ne_true
  have quiet : ∀ event ∈ after.log, event.task? ≠ some s.callCount := by
    intro event member belongs
    rw [log] at member
    rcases List.mem_append.mp member with old | fresh
    · have mine : event.call? = some s.callCount := by cases event <;> simp_all [Event.call?]
      exact absurd (shape.eventCall event old _ mine) (Nat.lt_irrefl _)
    · rw [silent event fresh] at belongs
      cases belongs
  have unregistered : call.execute.registered = false := by
    rcases phase with created | ⟨error, done, -⟩
    · rw [created]; rfl
    · rw [done]; rfl
  constructor
  · rw [own]
    exact bound
  · rw [own]
    rcases phase with created | ⟨error, done, -⟩
    · rw [created]
      exact unrecorded
    · rw [done]
      simp [ExecuteAt.agrees, unrecorded]
  · simp [own, unrecorded]
  · rw [own]
    refine iff_of_false ?_ (Call.unqueued unrecorded)
    rintro ⟨write, member, mine⟩
    exact quiet _ member mine
  · simp [own, unrecorded]
  · simp [own, unregistered]
  · rw [lock]
    exact fun held => absurd (task.owner held) idle
  · rw [sessions]
    exact fun sid held => absurd (task.attached sid held).1 idle
  · intro _ outcome done
    rw [own] at done ⊢
    rcases phase with created | ⟨error, raised, finished⟩
    · rw [created] at done
      cases done
    · rw [raised] at done
      cases done
      exact finished
  · intro outcome member
    exact absurd rfl (quiet _ member)

theorem Tasks.refuse {limit : Prop} {s : State} {request : Request} {error : Error}
    (tasks : Tasks limit s) (shape : Shape s)
    (rejected : (∃ text, request.command = .error text ∧ error = .valueError text) ∨
      (∃ command, request.command = .ok command) ∧ error.unsent) :
    Tasks limit (s.refuseCall request error) := by
  refine tasks.one s.callCount [.called s.callCount request s.session,
    .ended s.callCount (.raised error)] (fun c other => ?_) ?_
  · have older : c < s.callCount + 1 → c < s.callCount := fun known =>
      Nat.lt_of_le_of_ne (Nat.le_of_lt_succ known) other
    exact {
      command := by simp [State.refuseCall, other], session' := by simp [State.refuseCall, other]
      execute := by simp [State.refuseCall, other], record := by simp [State.refuseCall, other]
      known := older }
  refine (tasks s.callCount).fresh shape (by simp [State.refuseCall]; rfl) rfl rfl (by simp) rfl rfl
    (Nat.zero_le _) (.inr ⟨error, rfl, ?_⟩)
  have unqueued : ¬ ({ Call.none with
      execute := .done (.raised error), caller := .ended (.raised error) } : Call).queued :=
    Call.unqueued rfl
  rcases rejected with ⟨text, refused, rfl⟩ | ⟨-, unsent⟩
  · exact .inr (.inr ⟨⟨text, rfl⟩, unqueued,
      .inr ⟨request, s.session, text, by simp [State.refuseCall], refused⟩⟩)
  · exact .inl ⟨unsent, unqueued⟩

theorem Tasks.open {limit : Prop} {s : State} {request : Request} {command : Command} {sid : Nat}
    (tasks : Tasks limit s) (shape : Shape s) (current : s.session = some sid) :
    Tasks limit (s.openCall request command sid) := by
  refine tasks.one s.callCount [.called s.callCount request s.session] (fun c other => ?_) ?_
  · have older : c < s.callCount + 1 → c < s.callCount := fun known =>
      Nat.lt_of_le_of_ne (Nat.le_of_lt_succ known) other
    exact {
      command := by simp [State.openCall, other], session' := by simp [State.openCall, other]
      execute := by simp [State.openCall, other], record := by simp [State.openCall, other]
      known := older }
  exact (tasks s.callCount).fresh shape (by simp [State.openCall]; rfl) rfl rfl (by simp) rfl rfl
    (State.knows_iff.mp (shape.current sid current)).2 (.inl rfl)

theorem Effect.tasks {config : Config} {limit overflow : Prop} {s after : State}
    (effect : Effect config overflow s after) (allowed : overflow → limit) (shape : Shape s)
    (callers : ∀ c, (s.calls c).execute = .created → (s.calls c).cancelling →
      .callerCancelled c ∈ s.log)
    (tasks : Tasks limit s) : Tasks limit after := by
  cases effect with
  | clock forward epoch => exact tasks.aside [] (by simp) (by simp) rfl rfl rfl (fun _ => rfl) rfl rfl
  | accept idle free =>
    unfold State.openSession
    refine tasks.keep [.accepted (s.sessionCounter + 1) config.allowedClient] fun c => ?_
    have absent : (s.sessions (s.sessionCounter + 1)).pending ≠ some c := fun held => by
      have target := ((tasks c).attached _ held).2
      have bound := (tasks c).bound
      omega
    refine { counter := Nat.le_succ _, pending := fun sid => ?_, session := fun sid older held => ?_ }
    · by_cases equal : sid = s.sessionCounter + 1
      · subst equal
        simpa [Session.fresh] using absent
      · simp [equal]
    · have newest := Option.some.inj held
      omega
  | @feed sid bytes known opened =>
    have fed : Tasks limit (s.setSession sid { s.sessions sid with
        buffer := (s.sessions sid).buffer ++ bytes
        totalReceived := (s.sessions sid).totalReceived + bytes.length }) := tasks.session rfl
    exact fed.aside [.fed sid bytes] rfl (by simp) rfl rfl rfl (fun _ => rfl) rfl rfl
  | note sid eof readError reason cancelling => exact tasks.session rfl
  | @closeWriter sid known =>
    have closed : Tasks limit (s.setSession sid { s.sessions sid with isClosing := true }) :=
      tasks.session rfl
    exact closed.aside [.writerClosing sid] rfl (by simp) rfl rfl rfl (fun _ => rfl) rfl rfl
  | @release sid current left =>
    rw [State.release, if_pos current]
    exact tasks.keep [.released sid] fun c => { session := by simp }
  | @fail sid gone left =>
    rcases s.failPending_cases sid with
      same | ⟨c, pending, error, attached, recorded, waiting, kind, same⟩
    · rw [same]; exact tasks
    · rw [same]
      refine tasks.setFuture recorded waiting ?_
      have target := ((tasks c).attached sid attached).2
      simp only [FutureAgrees, kind]
      cases queued : pending.queued with
      | true => exact .inl ⟨rfl, rfl⟩
      | false => exact .inr ⟨rfl, rfl, target ▸ gone⟩
  | @skip sid raw frame rest known handling next =>
    have taken : Tasks limit (s.setSession sid { s.sessions sid with
        offset := (s.sessions sid).offset + raw.length, frames := rest, verified := true }) :=
      tasks.session rfl
    exact taken.aside [.frame sid raw frame none] rfl (by simp) rfl rfl rfl (fun _ => rfl) rfl rfl
  | @report sid raw frame rest decoded status known handling next isReport decodes built =>
    have taken : Tasks limit (s.setSession sid { s.sessions sid with
        offset := (s.sessions sid).offset + raw.length, frames := rest, verified := true }) :=
      tasks.session rfl
    have stored : Tasks limit
        { s.takeFrame sid raw frame rest (some status) with status := some status } :=
      taken.aside [.frame sid raw frame (some status)] rfl (by simp) rfl rfl rfl (fun _ => rfl) rfl rfl
    rcases State.confirm_cases _ sid frame (s.sessions sid).offset status with
      same | ⟨c, pending, -, recorded, queued, waiting, -, -, -, -, same⟩
    · rw [same]; exact stored
    · rw [same]; exact stored.setFuture recorded waiting queued
  | readAt begun move => exact tasks.session rfl
  | chunk known reading taken nonempty fed => exact tasks.session rfl
  | @reply after sid phase sent =>
    obtain ⟨-, -, -, -, -, -, raw, -, rfl⟩ := State.sendTurn_sent sent
    have written : Tasks limit (s.write sid 1 [0] (.reader sid) raw) :=
      tasks.aside [_] rfl (by simp) rfl rfl rfl (fun _ => rfl) rfl rfl
    have answered : Tasks limit ((s.write sid 1 [0] (.reader sid) raw).setReadAt sid
        .heartbeatDrain) := written.session rfl
    exact answered.aside [] (by simp) (by simp) rfl rfl rfl (fun _ => rfl) rfl rfl
  | unlock => exact tasks.aside [] (by simp) (by simp) rfl rfl rfl (fun _ => rfl) rfl rfl
  | put entry room origin => exact tasks.aside [.enqueued entry] rfl (by simp) rfl rfl rfl (fun _ => rfl) rfl rfl
  | discardQueued =>
    refine tasks.aside _ rfl ?_ rfl rfl rfl (fun _ => rfl) rfl rfl
    simp only [List.mem_map]
    rintro event ⟨entry, -, rfl⟩
    rfl
  | drop entry => exact tasks.aside [.discarded entry] rfl (by simp) rfl rfl rfl (fun _ => rfl) rfl rfl
  | @dispatch entry rest next free =>
    exact tasks.aside [.dispatched entry] rfl (by simp) rfl rfl rfl (fun _ => rfl) rfl rfl
  | idle => exact tasks.aside [] (by simp) (by simp) rfl rfl rfl (fun _ => rfl) rfl rfl
  | stop => exact tasks.aside [] (by simp) (by simp) rfl rfl rfl (fun _ => rfl) rfl rfl
  | refuse rejected => exact tasks.refuse shape rejected
  | call parsed current connected => exact tasks.open shape current
  | popReader next => exact tasks.aside [] (by simp) (by simp) rfl rfl rfl (fun _ => rfl) rfl rfl
  | @popCommand c rest next =>
    have popped : Tasks limit { s with spawned := rest } :=
      tasks.aside [] (by simp) (by simp) rfl rfl rfl (fun _ => rfl) rfl rfl
    have created := (shape.spawnedCommand c (by simp [next])).2
    refine popped.move ?_ ?_ ?_ ?_
    all_goals simp [created, ExecuteAt.agrees, ExecuteAt.registered]
  | @skipCommand c rest next asked =>
    have popped : Tasks limit { s with spawned := rest } :=
      tasks.aside [] (by simp) (by simp) rfl rfl rfl (fun _ => rfl) rfl rfl
    have created := (shape.spawnedCommand c (by simp [next])).2
    refine popped.settle (by simp [created]) fun known => ?_
    have phase := (tasks c).phase
    rw [created] at phase
    exact ⟨callers c created asked, Call.unqueued phase⟩
  | popCleanup next => exact tasks.aside [] (by simp) (by simp) rfl rfl rfl (fun _ => rfl) rfl rfl
  | @move c target move =>
    obtain ⟨-, live⟩ := ExecuteAt.timed_live (ExecuteAt.registered_timed move.registered.1)
    obtain ⟨-, unfinished⟩ := ExecuteAt.timed_live (ExecuteAt.registered_timed move.registered.2)
    exact tasks.move live (move.agrees _) (move.registered.2.trans move.registered.1.symm) unfinished
  | register phase free current => exact tasks.register phase free
  | @transmit after c phase sent =>
    obtain ⟨-, current, -, -, -, -, raw, -, rfl⟩ := State.sendTurn_sent sent
    have agrees := (tasks c).phase
    rw [phase] at agrees
    obtain ⟨pending, recorded, -⟩ := agrees
    obtain ⟨write, transmits⟩ := s.transmit_spec recorded raw
    exact tasks.transmit transmits recorded phase current
  | @settle c outcome how =>
    obtain ⟨-, live⟩ := ExecuteAt.timed_live how.timed
    exact tasks.settle live fun _ => how.finished (tasks c) allowed
  | @cancel c live cause =>
    have asked : Tasks limit (s.setCall c { s.calls c with cancelling := true }) :=
      tasks.call rfl rfl rfl rfl
    exact asked.aside [.cancelRequested c] rfl (by simp) rfl rfl rfl (fun _ => rfl) rfl rfl
  | @interrupt c waiting =>
    exact tasks.aside [.callerCancelled c] rfl (by simp) rfl rfl rfl (fun _ => rfl) rfl rfl
  | drain waiting interrupted => exact tasks.call rfl rfl rfl rfl
  | @finish c last outcome waiting done result =>
    have told : Tasks limit (s.setCall c { s.calls c with caller := .ended outcome }) :=
      tasks.call rfl rfl rfl rfl
    exact told.aside [.ended c outcome] rfl (by simp) rfl rfl rfl (fun _ => rfl) rfl rfl
  | close opened => exact tasks.aside [.closing] rfl (by simp) rfl rfl rfl (fun _ => rfl) rfl rfl
  | finishCleanup gathering => exact tasks.aside [] (by simp) (by simp) rfl rfl rfl (fun _ => rfl) rfl rfl
  | forget closing => exact tasks.aside [.cleaned] rfl (by simp) rfl rfl rfl (fun _ => rfl) rfl rfl

end AlorairLite.Local
