import AlorairLite.Local.Codec
import AlorairLite.Local.Guard

/-! Commands are serialised and spaced: the command lock owns the only registered
record, its owner settles before the next command is written, and every outbound frame
has a larger token than the one before. -/

namespace AlorairLite.Local

open State

/-- A finished task that had registered a record has said so. -/
def Concluded (s : State) : Prop :=
  ∀ c outcome, (s.calls c).execute = .done outcome → (s.calls c).pending.isSome →
    .settled c outcome ∈ s.log

/-- An effect that finishes no task and gives no record to a finished one. -/
theorem Concluded.keep {s after : State} (concluded : Concluded s) (events : List Event)
    (log : after.log = s.log ++ events)
    (same : ∀ c outcome, (after.calls c).execute = .done outcome → (after.calls c).pending.isSome →
      (s.calls c).execute = .done outcome ∧ (s.calls c).pending.isSome) : Concluded after := by
  intro c outcome done recorded
  obtain ⟨before, had⟩ := same c outcome done recorded
  rw [log]
  exact List.mem_append_left _ (concluded c outcome before had)

/-- One call changes, and its task is not finished by that. -/
theorem Concluded.call {s after : State} {c : Nat} {call : Call} (concluded : Concluded s)
    (events : List Event) (log : after.log = s.log ++ events)
    (calls : after.calls = Function.update s.calls c call)
    (same : ∀ outcome, call.execute = .done outcome → call.pending.isSome →
      (s.calls c).execute = .done outcome ∧ (s.calls c).pending.isSome) : Concluded after := by
  refine concluded.keep events log fun d outcome => ?_
  rw [calls]
  by_cases equal : d = c
  · subst equal
    rw [Function.update_self]
    exact same outcome
  · rw [Function.update_of_ne equal]
    exact fun done recorded => ⟨done, recorded⟩

theorem Concluded.settle {s : State} {c : Nat} {outcome : Outcome} (concluded : Concluded s) :
    Concluded (s.settle c outcome) := by
  intro d ended
  by_cases equal : d = c
  · subst equal
    intro done recorded
    have same : outcome = ended := by simpa [State.settle] using done
    rw [← same]
    exact List.mem_append_right _ (List.mem_singleton_self _)
  · intro done recorded
    simp only [State.settle, Function.update_of_ne equal] at done recorded
    exact List.mem_append_left _ (concluded d ended done recorded)

theorem Effect.concluded {config : Config} {overflow : Prop} {s after : State}
    (effect : Effect config overflow s after) (concluded : Concluded s) : Concluded after := by
  have aside : ∀ events, after.log = s.log ++ events → after.calls = s.calls → Concluded after :=
    fun events log calls => concluded.keep events log fun c outcome done recorded => by
      rw [calls] at done recorded
      exact ⟨done, recorded⟩
  have answered : ∀ {s : State} {c : Nat} {pending : Pending} {future : Future}, Concluded s →
      (s.calls c).pending = some pending → Concluded (s.setFuture c pending future) :=
    fun concluded recorded => concluded.call [] (by simp [State.setFuture]) rfl
      fun outcome done _ => ⟨done, by simp [recorded]⟩
  obtain ⟨events, log, -⟩ := effect.appends
  cases effect with
  | release current left =>
    rw [State.release, if_pos current] at *
    exact aside _ rfl rfl
  | @fail sid gone left =>
    rcases s.failPending_cases sid with same | ⟨c, pending, error, -, recorded, -, -, same⟩
    · rw [same]; exact concluded
    · rw [same]; exact answered concluded recorded
  | @report sid raw frame rest decoded status known handling next isReport decodes built =>
    have stored : Concluded
        { s.takeFrame sid raw frame rest (some status) with status := some status } :=
      concluded.keep [.frame sid raw frame (some status)] rfl fun c outcome done recorded =>
        ⟨done, recorded⟩
    rcases State.confirm_cases _ sid frame (s.sessions sid).offset status with
      same | ⟨c, pending, -, recorded, -, -, -, -, -, -, same⟩
    · rw [same]; exact stored
    · rw [same]; exact answered stored recorded
  | reply phase sent =>
    obtain ⟨-, -, -, -, -, -, raw, -, rfl⟩ := State.sendTurn_sent sent
    exact aside _ rfl rfl
  | refuse rejected =>
    refine concluded.call _ rfl rfl ?_
    intro outcome done recorded
    cases recorded
  | call parsed current connected =>
    refine concluded.call _ rfl rfl ?_
    rintro outcome ⟨⟩
  | popCommand next =>
    refine concluded.call [] (by simp) rfl ?_
    rintro outcome ⟨⟩
  | @skipCommand c rest next asked =>
    have popped : Concluded { s with spawned := rest } := concluded
    exact popped.settle
  | @move c target move =>
    refine concluded.call [] (by simp) rfl fun outcome done => ?_
    have live := (ExecuteAt.timed_live (ExecuteAt.registered_timed move.registered.2)).2
    exact absurd done (live outcome)
  | register phase free current =>
    refine concluded.call [] (by simp [State.register]) rfl ?_
    rintro outcome ⟨⟩
  | @transmit middle c phase sent =>
    obtain ⟨-, -, -, -, -, -, raw, -, rfl⟩ := State.sendTurn_sent sent
    refine concluded.keep [_] rfl fun d outcome done recorded => ?_
    by_cases equal : d = c
    · subst equal
      simp at done
    · simp only [State.setCall, Function.update_of_ne equal] at done recorded
      rw [State.write_execute] at done
      have same : ((s.write (s.calls c).session (s.calls c).command.opcode (s.calls c).command.data
          (.command c) raw).calls d).pending = (s.calls d).pending := by
        simp only [State.write]
        split <;> simp [equal]
      rw [same] at recorded
      exact ⟨done, recorded⟩
  | settle how => exact concluded.settle
  | cancel live cause =>
    exact concluded.call [_] rfl rfl fun outcome done recorded => ⟨done, recorded⟩
  | drain waiting interrupted =>
    exact concluded.call [] (by simp) rfl fun outcome done recorded => ⟨done, recorded⟩
  | finish waiting done result =>
    exact concluded.call [_] rfl rfl fun outcome done recorded => ⟨done, recorded⟩
  | _ => exact aside events log rfl

/-- When the frame of a command is written, its task has not settled, and every other
command written before has settled since its own frame. -/
structure Serialised (past : List Event) (c : Nat) : Prop where
  running : ∀ outcome, .settled c outcome ∉ past
  alone : ∀ before write between d, past = before ++ .wrote write :: between → write.call = some d →
    ∃ outcome, .settled d outcome ∈ between

/-- Who wrote a command frame either still owns the command lock or has settled. -/
theorem Coherent.settled {config : Config} {limit : Prop} {s : State} {c : Nat}
    (coherent : Coherent config limit s) (concluded : Concluded s) (wrote : Wrote s.log c) :
    ((s.calls c).execute = .draining ∨ (s.calls c).execute = .acknowledgement) ∨
      ∃ outcome, .settled c outcome ∈ s.log := by
  obtain ⟨record, recorded, queued⟩ := (coherent.tasks c).wrote.mp wrote
  have agrees := (coherent.tasks c).phase
  rw [recorded] at agrees
  cases phase : (s.calls c).execute with
  | created => rw [phase] at agrees; cases agrees
  | commandLock => rw [phase] at agrees; cases agrees
  | sendLock =>
    rw [phase] at agrees
    obtain ⟨other, same, unqueued⟩ := agrees
    cases same
    rw [queued] at unqueued
    cases unqueued
  | pacing =>
    rw [phase] at agrees
    obtain ⟨other, same, unqueued⟩ := agrees
    cases same
    rw [queued] at unqueued
    cases unqueued
  | draining => exact .inl (.inl rfl)
  | acknowledgement => exact .inl (.inr rfl)
  | done outcome => exact .inr ⟨outcome, concluded c outcome phase (by rw [recorded]; rfl)⟩

theorem Effect.serialised {config : Config} {limit overflow : Prop} {s after : State}
    (effect : Effect config overflow s after) (coherent : Coherent config limit s)
    (concluded : Concluded s)
    (held : Async.Every (fun past event => ∀ write c, event = .wrote write → write.call = some c →
      Serialised past c) s.log) :
    Async.Every (fun past event => ∀ write c, event = .wrote write → write.call = some c →
      Serialised past c) after.log := by
  obtain ⟨events, log, appended⟩ := effect.appends
  rw [log]
  cases appended with
  | quiet quiet =>
    exact held.append_free fun event member past write _ equal =>
      absurd equal ((quiet event member).1 write)
  | frame known handling next report => exact held.append_singleton (by rintro write c ⟨⟩)
  | reply phase sent target automatic =>
    refine held.append_singleton ?_
    rintro written c ⟨⟩ mine
    rw [automatic] at mine
    cases mine
  | @command middle c write phase sent target call opcode data monotonic =>
    refine held.append_singleton ?_
    rintro written c' ⟨⟩ mine
    rw [call] at mine
    cases mine
    have owner := ((coherent.tasks c).lock (by rw [phase]; rfl)).1
    refine ⟨fun outcome told => ?_, fun before earlier between d split other => ?_⟩
    · have done := (coherent.tasks c).settled outcome told
      rw [phase] at done
      cases done
    · have wrote : Wrote s.log d := ⟨earlier, by simp [split], other⟩
      rcases coherent.settled concluded wrote with holding | ⟨outcome, told⟩
      · have registered : (s.calls d).execute.registered := by
          rcases holding with phase | phase <;> rw [phase] <;> rfl
        have same := ((coherent.tasks d).lock registered).1
        rw [owner] at same
        cases same
        rcases holding with other | other <;> rw [phase] at other <;> cases other
      · refine ⟨outcome, ?_⟩
        rw [split] at told
        rcases List.mem_append.mp told with early | late
        · exact absurd early ((held before _ between split earlier d rfl other).running outcome)
        · rcases List.mem_cons.mp late with impossible | between
          · cases impossible
          · exact between

theorem reachable_serialised {config : Config} {s : State}
    (reached : Async.Reachable (client config) s) :
    Coherent config True s ∧ Async.Every (fun past event => ∀ write c, event = .wrote write →
      write.call = some c → Serialised past c) s.log := by
  have all := Run.effects (fun state => Concluded state ∧ Async.Every (fun past event =>
      ∀ write c, event = .wrote write → write.call = some c → Serialised past c) state.log)
    (fun now wall _ => ⟨fun c outcome _ recorded => by simp [State.start, Call.none] at recorded,
      Async.Every.nil⟩)
    (fun _ _ _ _ effect coherent held =>
      ⟨effect.concluded held.1, effect.serialised coherent held.1 held.2⟩)
    (fun _ _ _ _ _ => trivial) reached
  exact ⟨all.1, all.2.2⟩

/-- From the write of a command frame until its task settles no other command frame is
written; over all sessions at most one record is registered; and while no command holds
the command lock it is free, no session holds a record, and a command waiting for the
lock can take it. -/
theorem commands_serialised {config : Config} {s : State}
    (reached : Async.Reachable (client config) s) :
    Async.Every (fun past event => ∀ write c, event = .wrote write → write.call = some c →
      ∀ before earlier between d, past = before ++ .wrote earlier :: between →
        earlier.call = some d → ∃ outcome, .settled d outcome ∈ between) s.log ∧
    (∀ sid other c d, (s.sessions sid).pending = some c → (s.sessions other).pending = some d →
      sid = other ∧ c = d) ∧
    ((∀ c, (s.calls c).execute.registered = false) →
      s.commandLock = none ∧ (∀ sid, (s.sessions sid).pending = none) ∧
        ∀ c, c < s.callCount → (s.calls c).execute = .commandLock →
          (step config s (.execute c .ready)).isSome) := by
  obtain ⟨coherent, serialised⟩ := reachable_serialised reached
  refine ⟨?_, ?_, fun idle => ?_⟩
  · exact serialised.imp fun past event held write c equal mine => (held write c equal mine).alone
  · intro sid other c d first second
    obtain ⟨holding, here⟩ := (coherent.tasks c).attached sid first
    obtain ⟨holding', there⟩ := (coherent.tasks d).attached other second
    have owner := ((coherent.tasks c).lock holding).1
    rw [((coherent.tasks d).lock holding').1] at owner
    cases owner
    exact ⟨here.symm.trans there, rfl⟩
  · have free : s.commandLock = none := by
      cases owner : s.commandLock with
      | none => rfl
      | some c => exact absurd ((coherent.tasks c).owner owner) (by simp [idle c])
    refine ⟨free, fun sid => ?_, fun c known waiting => ?_⟩
    · cases attached : (s.sessions sid).pending with
      | none => rfl
      | some c => exact absurd ((coherent.tasks c).attached sid attached).1 (by simp [idle c])
    · simp only [step, if_pos known, State.resumeExecute, waiting]
      split
      · rfl
      · rfl

/-- A connection is lost while a command waits for its report, and a stop over the next one
waits for the command lock. -/
def contendingLabels : List Label :=
  [.accept (some "192.0.2.1"), .start, .feed 1 (exampleReport 0x20 0), .reader 1 .ready,
    .call (.setPower true), .start, .execute 0 .ready, .execute 0 .ready, .execute 0 .ready,
    .feedEof 1, .reader 1 .ready, .accept (some "192.0.2.1"), .start, .feed 2 (exampleReport 0x20 1),
    .reader 2 .ready, .call (.setPower false), .start]

/-- The first command fails, and the stop takes its turn. -/
def relievedLabels : List Label :=
  [.execute 0 .ready, .execute 1 .ready, .execute 1 .ready, .tick 2, .execute 1 .ready, .execute 1 .ready]

/-- The frame that an event writes. -/
def Event.write? : Event → Option Write
  | .wrote write => some write
  | _ => none

theorem Event.of_write? {event : Event} {write : Write} (written : event.write? = some write) :
    event = .wrote write := by
  unfold Event.write? at written
  split at written
  · exact congrArg Event.wrote (Option.some.inj written)
  · cases written

/-- The log before and after one of its frames. -/
theorem written_split {log : List Event} {before later : List Write} {write : Write}
    (written : log.filterMap Event.write? = before ++ write :: later) :
    ∃ past future, log = past ++ .wrote write :: future ∧ past.filterMap Event.write? = before ∧
      future.filterMap Event.write? = later := by
  obtain ⟨first, rest, rfl, earlier, tail⟩ := List.filterMap_eq_append_iff.mp written
  obtain ⟨quiet, event, future, rfl, silent, wrote, remaining⟩ := List.filterMap_eq_cons_iff.mp tail
  rw [Event.of_write? wrote]
  refine ⟨first ++ quiet, future, by simp, ?_, remaining⟩
  rw [List.filterMap_append, earlier, List.filterMap_eq_nil_iff.mpr silent, List.append_nil]

theorem commands_serialised_example : ∃ waiting after,
    (client exampleConfig).follow (State.start exampleConfig 0 0) contendingLabels = some waiting ∧
    (waiting.calls 1).execute = .commandLock ∧ step exampleConfig waiting (.execute 1 .ready) = none ∧
    (∀ sid c, (waiting.sessions sid).pending = some c → sid = 1 ∧ c = 0) ∧
    (client exampleConfig).follow waiting relievedLabels = some after ∧
    ∃ before first between second later,
      after.log = before ++ .wrote first :: between ++ .wrote second :: later ∧
      first.call = some 0 ∧ second.call = some 1 ∧ ∃ outcome, .settled 0 outcome ∈ between := by
  have shown : ((client exampleConfig).follow (State.start exampleConfig 0 0) contendingLabels).any (fun waiting =>
      ((waiting.calls 1).execute = .commandLock && (step exampleConfig waiting (.execute 1 .ready)).isNone) &&
      ((waiting.sessions 1).pending = some 0 &&
        ((client exampleConfig).follow waiting relievedLabels).any fun after =>
          (after.log.filterMap Event.write?).map (·.call) = [some 0, some 1])) = true := by decide +kernel
  obtain ⟨waiting, followed, facts⟩ := (Option.any_eq_true _ _).mp shown
  simp only [Bool.and_eq_true, decide_eq_true_eq, Option.isNone_iff_eq_none] at facts
  obtain ⟨⟨queued, blocked⟩, held, relieved⟩ := facts
  obtain ⟨after, continued, calls⟩ := (Option.any_eq_true _ _).mp relieved
  obtain ⟨first, others, writes, command, rest⟩ := List.map_eq_cons_iff.mp (of_decide_eq_true calls)
  obtain ⟨second, later, rfl, stop, -⟩ := List.map_eq_cons_iff.mp rest
  obtain ⟨past, future, log, earlier, -⟩ := written_split (show _ = [first] ++ second :: later from writes)
  obtain ⟨before, between, rfl, -, -⟩ := written_split (show _ = [] ++ first :: [] from earlier)
  have reached : Async.Reachable (client exampleConfig) waiting :=
    Async.Run.follow (.start ⟨0, 0, le_rfl, rfl⟩) (fun _ _ => trivial) followed
  have alone := (commands_serialised reached).2.1
  have serial := (commands_serialised (reached.follow (fun _ _ => trivial) continued)).1
  refine ⟨waiting, after, followed, queued, blocked, fun sid c pending => alone sid 1 c 0 pending held, continued,
    before, first, between, second, future, log, command, stop, ?_⟩
  exact serial _ _ future log second 1 rfl stop before first between 0 rfl command

/-- What an effect does to the time and the token of the latest outbound frame. -/
inductive Outbound (config : Config) (s after : State) : List Event → Prop where
  | silent {events : List Event} (silent : ∀ event ∈ events, ∀ write, event ≠ .wrote write)
      (time : after.lastOutboundTime = s.lastOutboundTime)
      (token : after.lastOutboundTimestamp = s.lastOutboundTimestamp) (clock : s.now ≤ after.now) :
      Outbound config s after events
  | write {write : Write} (token : write.timestamp = s.nextTimestamp) (monotonic : write.monotonic = s.now)
      (wall : write.wall = s.wall)
      (encoded : (s.outbound config write.opcode write.data).encode = .ok write.raw)
      (spaced : write.call.isSome → ∀ last, s.lastOutboundTime = some last →
        commandSpacing ≤ s.now - last)
      (time : after.lastOutboundTime = some s.now)
      (latest : after.lastOutboundTimestamp = some s.nextTimestamp) (clock : after.now = s.now) :
      Outbound config s after [.wrote write]

/-- A command's turn waits until the spacing since the latest frame is over. -/
theorem State.sendDelay_spaced {s : State} {pending : Pending} {last : ℚ}
    (prompt : s.sendDelay (some pending) = 0) (latest : s.lastOutboundTime = some last) :
    commandSpacing ≤ s.now - last := by
  simp only [State.sendDelay, latest] at prompt
  have bound := le_max_right 0 (commandSpacing - (s.now - last))
  rw [prompt] at bound
  linarith

theorem Effect.outbound {config : Config} {limit overflow : Prop} {s after : State}
    (effect : Effect config overflow s after) (tasks : Tasks limit s) :
    ∃ events, after.log = s.log ++ events ∧ Outbound config s after events := by
  have aside : ∀ {after : State} (events : List Event), after.log = s.log ++ events →
      (∀ event ∈ events, ∀ write, event ≠ .wrote write) →
      after.lastOutboundTime = s.lastOutboundTime →
      after.lastOutboundTimestamp = s.lastOutboundTimestamp → s.now ≤ after.now →
      ∃ events, after.log = s.log ++ events ∧ Outbound config s after events :=
    fun events log silent time token clock => ⟨events, log, .silent silent time token clock⟩
  cases effect with
  | clock forward epoch => exact aside [] (by simp) (by simp) rfl rfl forward
  | accept idle free => exact aside [_] rfl (by simp) rfl rfl le_rfl
  | feed known opened => exact aside [_] rfl (by simp) rfl rfl le_rfl
  | note sid eof readError reason cancelling => exact aside [] (by simp) (by simp) rfl rfl le_rfl
  | closeWriter known => exact aside [_] rfl (by simp) rfl rfl le_rfl
  | release current left =>
    rw [State.release, if_pos current]
    exact aside [_] rfl (by simp) rfl rfl le_rfl
  | @fail sid gone left =>
    rcases s.failPending_cases sid with same | ⟨c, pending, error, -, -, -, -, same⟩
    · rw [same]; exact aside [] (by simp) (by simp) rfl rfl le_rfl
    · rw [same]; exact aside [] (by simp [State.setFuture]) (by simp) rfl rfl le_rfl
  | skip known handling next => exact aside [_] rfl (by simp) rfl rfl le_rfl
  | @report sid raw frame rest decoded status known handling next isReport decodes built =>
    rcases State.confirm_cases _ sid frame (s.sessions sid).offset status with
      same | ⟨c, pending, -, -, -, -, -, -, -, -, same⟩
    · rw [same]; exact aside [.frame sid raw frame (some status)] rfl (by simp) rfl rfl le_rfl
    · rw [same]; exact aside [.frame sid raw frame (some status)] rfl (by simp) rfl rfl le_rfl
  | readAt begun move => exact aside [] (by simp [State.setReadAt]) (by simp) rfl rfl le_rfl
  | chunk known reading taken nonempty fed =>
    exact aside [] (by simp [State.receiveChunk]) (by simp) rfl rfl le_rfl
  | @reply middle sid phase sent =>
    obtain ⟨-, -, -, -, -, -, raw, encoded, rfl⟩ := State.sendTurn_sent sent
    exact ⟨[_], rfl, .write rfl rfl rfl encoded (by simp) rfl rfl rfl⟩
  | unlock => exact aside [] (by simp) (by simp) rfl rfl le_rfl
  | put entry room origin => exact aside [_] rfl (by simp) rfl rfl le_rfl
  | discardQueued =>
    refine aside _ rfl ?_ rfl rfl le_rfl
    simp only [List.mem_map]
    rintro event ⟨entry, -, rfl⟩
    simp
  | drop entry => exact aside [_] rfl (by simp) rfl rfl le_rfl
  | dispatch next free => exact aside [_] rfl (by simp) rfl rfl le_rfl
  | idle => exact aside [] (by simp) (by simp) rfl rfl le_rfl
  | stop => exact aside [] (by simp) (by simp) rfl rfl le_rfl
  | refuse rejected => exact aside [_, _] rfl (by simp) rfl rfl le_rfl
  | call parsed current connected => exact aside [_] rfl (by simp) rfl rfl le_rfl
  | popReader next => exact aside [] (by simp) (by simp) rfl rfl le_rfl
  | popCommand next => exact aside [] (by simp) (by simp) rfl rfl le_rfl
  | skipCommand next asked => exact aside [_] rfl (by simp) rfl rfl le_rfl
  | popCleanup next => exact aside [] (by simp) (by simp) rfl rfl le_rfl
  | move move => exact aside [] (by simp) (by simp) rfl rfl le_rfl
  | register phase free current =>
    exact aside [] (by simp [State.register]) (by simp) rfl rfl le_rfl
  | @transmit middle c phase sent =>
    obtain ⟨-, -, -, -, prompt, -, raw, encoded, rfl⟩ := State.sendTurn_sent sent
    refine ⟨[_], rfl, .write rfl rfl rfl encoded ?_ rfl rfl ?_⟩
    · obtain ⟨pending, recorded, -⟩ : ∃ pending, (s.calls c).pending = some pending ∧
          pending.queued = false := by
        have agrees := (tasks c).phase
        rwa [phase] at agrees
      rw [show s.pendingOf (.command c) = some pending from recorded] at prompt
      exact fun _ last latest => State.sendDelay_spaced prompt latest
    · simp only [State.setCall, State.write]
      split <;> rfl
  | settle how => exact aside [_] rfl (by simp) rfl rfl le_rfl
  | cancel live cause => exact aside [_] rfl (by simp) rfl rfl le_rfl
  | interrupt waiting => exact aside [_] rfl (by simp) rfl rfl le_rfl
  | drain waiting interrupted => exact aside [] (by simp) (by simp) rfl rfl le_rfl
  | finish waiting done result => exact aside [_] rfl (by simp) rfl rfl le_rfl
  | close opened => exact aside [_] rfl (by simp) rfl rfl le_rfl
  | finishCleanup gathering => exact aside [] (by simp) (by simp) rfl rfl le_rfl
  | forget closing => exact aside [_] rfl (by simp) rfl rfl le_rfl

/-- The token and the time of a frame against those of the frames before it. -/
structure Paced (config : Config) (past : List Event) (write : Write) : Prop where
  token : ∃ frame, Frame.decode write.raw (some config.mac) = .ok frame ∧
    frame.timestamp = write.timestamp
  wall : write.wall.floor ≤ write.timestamp
  increasing : ∀ earlier, .wrote earlier ∈ past → earlier.timestamp < write.timestamp
  spaced : write.call.isSome → ∀ earlier, .wrote earlier ∈ past →
    commandSpacing ≤ write.monotonic - earlier.monotonic

/-- The stored time and token bound those of every frame written so far. -/
structure Latest (s : State) : Prop where
  paced : ∀ write, .wrote write ∈ s.log → ∃ time token, s.lastOutboundTime = some time ∧
    s.lastOutboundTimestamp = some token ∧ write.monotonic ≤ time ∧ write.timestamp ≤ token
  clock : ∀ time, s.lastOutboundTime = some time → time ≤ s.now

theorem State.nextTimestamp_wall (s : State) : s.wall.floor ≤ s.nextTimestamp := by
  unfold State.nextTimestamp
  split
  · exact le_rfl
  · exact le_max_left _ _

theorem State.nextTimestamp_later {s : State} {token : Int}
    (latest : s.lastOutboundTimestamp = some token) : token < s.nextTimestamp := by
  have bound := le_max_right s.wall.floor (token + 1)
  simp only [State.nextTimestamp, latest]
  omega

theorem Effect.paced {config : Config} {limit overflow : Prop} {s after : State}
    (effect : Effect config overflow s after) (coherent : Coherent config limit s) (latest : Latest s)
    (held : Async.Every (fun past event => ∀ write, event = .wrote write → Paced config past write)
      s.log) :
    Latest after ∧ Async.Every (fun past event => ∀ write, event = .wrote write →
      Paced config past write) after.log := by
  obtain ⟨events, log, outbound⟩ := effect.outbound coherent.tasks
  cases outbound with
  | silent silent time token clock =>
    refine ⟨⟨fun write member => ?_, fun last stored => ?_⟩, ?_⟩
    · rw [log] at member
      rw [time, token]
      rcases List.mem_append.mp member with old | fresh
      · exact latest.paced write old
      · exact absurd rfl (silent _ fresh write)
    · rw [time] at stored
      exact (latest.clock last stored).trans clock
    · rw [log]
      exact held.append_free fun event member past write equal => absurd equal (silent event member write)
  | @write write token monotonic wall encoded spaced time next clock =>
    refine ⟨⟨fun earlier member => ?_, fun last stored => ?_⟩, ?_⟩
    · rw [log] at member
      refine ⟨_, _, time, next, ?_⟩
      rcases List.mem_append.mp member with old | fresh
      · obtain ⟨last, stored, since, sent, before, below⟩ := latest.paced earlier old
        exact ⟨before.trans (latest.clock last since), (State.nextTimestamp_later sent).le.trans' below⟩
      · obtain rfl : earlier = write := by simpa using fresh
        exact ⟨le_of_eq monotonic, le_of_eq token⟩
    · rw [time] at stored
      rw [clock]
      exact le_of_eq (Option.some.inj stored).symm
    · rw [log]
      refine held.append_singleton ?_
      rintro written ⟨⟩
      constructor
      · refine ⟨_, Frame.decode_encoding encoded ?_, token.symm⟩
        rintro mac ⟨⟩
        rfl
      · rw [wall, token]
        exact s.nextTimestamp_wall
      · intro earlier member
        obtain ⟨last, stored, -, sent, -, below⟩ := latest.paced earlier member
        rw [token]
        exact below.trans_lt (State.nextTimestamp_later sent)
      · intro mine earlier member
        obtain ⟨last, stored, since, -, before, -⟩ := latest.paced earlier member
        have apart := spaced mine last since
        rw [monotonic]
        linarith

/-- Over all sessions the tokens of the written frames increase strictly and reach at
least the wall clock of their write, and a command frame comes at least the command
spacing after every frame before it. -/
theorem outbound_paced {config : Config} {s : State}
    (reached : Async.Reachable (client config) s) :
    Async.Every (fun past event => ∀ write, event = .wrote write → Paced config past write) s.log := by
  have all := Run.effects (fun state => Latest state ∧ Async.Every (fun past event =>
      ∀ write, event = .wrote write → Paced config past write) state.log)
    (fun now wall _ => ⟨⟨fun write member => by simp [State.start] at member,
      fun time stored => by simp [State.start] at stored⟩, Async.Every.nil⟩)
    (fun _ _ _ _ effect coherent held => effect.paced coherent held.1 held.2)
    (fun _ _ _ _ _ => trivial) reached
  exact all.2.2

/-- Two heartbeats are answered, the second one while a command waits for the spacing since the
first, and the wall clock is set back before the command's turn. -/
def pacedLabels : List Label :=
  [.accept (some "192.0.2.1"), .start, .feed 1 (exampleReport 0x20 0 ++ exampleHeartbeat), .reader 1 .ready,
    .reader 1 .ready, .reader 1 .ready, .call (.setPower true), .start, .execute 0 .ready, .execute 0 .ready,
    .tick 1, .feed 1 exampleHeartbeat, .reader 1 .ready, .reader 1 .ready, .reader 1 .ready, .setWall 50, .tick 1,
    .execute 0 .ready, .execute 0 .ready, .tick 1, .execute 0 .ready, .execute 0 .ready]

theorem outbound_paced_example : ∃ s past command future,
    (client exampleConfig).follow (State.start exampleConfig 0 100) pacedLabels = some s ∧
    s.log = past ++ .wrote command :: future ∧ command.call = some 0 ∧ command.wall = 50 ∧
    (past.filterMap Event.write?).map (fun reply => (reply.call, reply.wall)) = [(none, 100), (none, 100)] ∧
    ∀ reply, .wrote reply ∈ past → reply.timestamp < command.timestamp ∧
      commandSpacing ≤ command.monotonic - reply.monotonic := by
  have shown : (((client exampleConfig).follow (State.start exampleConfig 0 100) pacedLabels).map fun s =>
      (s.log.filterMap Event.write?).map fun write => (write.call, write.wall)) =
        some ([(none, 100), (none, 100)] ++ [(some 0, 50)]) := by decide +kernel
  obtain ⟨s, followed, frames⟩ := Option.map_eq_some_iff.mp shown
  obtain ⟨replies, rest, writes, answers, last⟩ := List.map_eq_append_iff.mp frames
  obtain ⟨command, later, rfl, facts, -⟩ := List.map_eq_cons_iff.mp last
  obtain ⟨called, wall⟩ := Prod.mk.inj facts
  obtain ⟨past, future, log, rfl, -⟩ := written_split writes
  have reached : Async.Reachable (client exampleConfig) s :=
    Async.Run.follow (.start ⟨0, 100, by norm_num, rfl⟩) (fun _ _ => trivial) followed
  have paced : Paced exampleConfig past command := outbound_paced reached past _ future log command rfl
  exact ⟨s, past, command, future, followed, log, called, wall, answers,
    fun reply sent => ⟨paced.increasing reply sent, paced.spaced (by simp [called]) reply sent⟩⟩

end AlorairLite.Local
