import AlorairLite.Local.Task

/-! The caller of a command: what it is told, and when. -/

namespace AlorairLite.Local

open State

/-- The call whose caller begins or ends here. -/
@[simp] def Event.caller? : Event → Option Nat
  | .called c _ _ | .ended c _ => some c
  | _ => none

/-- A call that failed before `_command` made a task. -/
structure Refused (call : Call) (request : Request) : Prop where
  unrecorded : call.pending = none
  outcome : ∃ error, call.execute = .done (.raised error) ∧ call.caller = .ended (.raised error) ∧
    ((∃ text, request.command = .error text) ∨ error.unsent)

structure Caller (s : State) (c : Nat) : Prop where
  told : ∀ outcome, .ended c outcome ∈ s.log → (s.calls c).caller = .ended outcome
  ended : c < s.callCount → ∀ outcome, (s.calls c).caller = .ended outcome →
    .ended c outcome ∈ s.log ∧ ∃ last, (s.calls c).execute = .done last ∧
      (outcome = last ∨ outcome = .cancelled ∧ .callerCancelled c ∈ s.log)
  drained : (s.calls c).caller = .draining → .callerCancelled c ∈ s.log
  asked : (s.calls c).cancelling → .cancelRequested c ∈ s.log
  early : (s.calls c).execute = .created → (s.calls c).cancelling → .callerCancelled c ∈ s.log
  called : c < s.callCount → ∃ request session, .called c request session ∈ s.log
  request : ∀ request session, .called c request session ∈ s.log →
    request.command = .ok (s.calls c).command ∧ session = some (s.calls c).session ∨
      Refused (s.calls c) request
  once : ∀ request session other session', .called c request session ∈ s.log →
    .called c other session' ∈ s.log → request = other

/-- An effect that tells this caller nothing. -/
structure SameCaller (s after : State) (c : Nat) (events : List Event) : Prop where
  command : (after.calls c).command = (s.calls c).command := by rfl
  session : (after.calls c).session = (s.calls c).session := by rfl
  caller : (after.calls c).caller = (s.calls c).caller := by rfl
  execute : (after.calls c).execute = (s.calls c).execute ∧
      (after.calls c).pending = (s.calls c).pending ∨
    (∀ outcome, (s.calls c).execute ≠ .done outcome) ∧
      ((after.calls c).execute = .created → (s.calls c).execute = .created) := by
    exact .inl ⟨rfl, rfl⟩
  cancelling : (after.calls c).cancelling → (s.calls c).cancelling := by exact id
  log : after.log = s.log ++ events := by rfl
  silent : ∀ event ∈ events, event.caller? ≠ some c := by simp
  known : c < after.callCount → c < s.callCount := by exact id

theorem Caller.keep {s after : State} {c : Nat} {events : List Event} (caller : Caller s c)
    (same : SameCaller s after c events) : Caller after c := by
  have later : ∀ event ∈ s.log, event ∈ after.log := fun event member => by
    rw [same.log]
    exact List.mem_append_left _ member
  have older : ∀ event ∈ after.log, event.caller? = some c → event ∈ s.log := by
    intro event member mine
    rw [same.log] at member
    rcases List.mem_append.mp member with old | fresh
    · exact old
    · exact absurd mine (same.silent event fresh)
  constructor
  · intro outcome member
    rw [same.caller]
    exact caller.told outcome (older _ member rfl)
  · intro known outcome held
    rw [same.caller] at held
    obtain ⟨member, last, done, agree⟩ := caller.ended (same.known known) outcome held
    refine ⟨later _ member, last, ?_, agree.imp_right fun told => ⟨told.1, later _ told.2⟩⟩
    rcases same.execute with kept | live
    · exact kept.1.trans done
    · exact absurd done (live.1 last)
  · rw [same.caller]
    exact fun draining => later _ (caller.drained draining)
  · exact fun asked => later _ (caller.asked (same.cancelling asked))
  · intro created asked
    refine later _ (caller.early ?_ (same.cancelling asked))
    rcases same.execute with kept | live
    · exact kept.1.symm.trans created
    · exact live.2 created
  · intro known
    obtain ⟨request, session, member⟩ := caller.called (same.known known)
    exact ⟨request, session, later _ member⟩
  · intro request session member
    rw [same.command, same.session]
    rcases caller.request request session (older _ member rfl) with parsed | refused
    · exact .inl parsed
    · obtain ⟨error, done, told, kind⟩ := refused.outcome
      rcases same.execute with kept | live
      · exact .inr ⟨kept.2.trans refused.unrecorded, error, kept.1.trans done,
          same.caller.trans told, kind⟩
      · exact absurd done (live.1 _)
  · intro request session other session' first second
    exact caller.once request session other session' (older _ first rfl) (older _ second rfl)

def Callers (s : State) : Prop := ∀ c, Caller s c

theorem Callers.one {s after : State} (callers : Callers s) (c : Nat) (events : List Event)
    (others : ∀ d, d ≠ c → SameCaller s after d events)
    (own : Caller after c) : Callers after := by
  intro d
  by_cases equal : d = c
  · exact equal ▸ own
  · exact (callers d).keep (others d equal)

/-- Calls stay as they are. -/
theorem Callers.aside {s after : State} (callers : Callers s) (events : List Event) (log : after.log = s.log ++ events)
    (silent : ∀ event ∈ events, event.caller? = none) (calls : after.calls = s.calls)
    (count : after.callCount = s.callCount) : Callers after := fun c =>
  (callers c).keep
    { command := by rw [calls], session := by rw [calls], caller := by rw [calls]
      execute := .inl (by rw [calls]; exact ⟨rfl, rfl⟩), cancelling := by rw [calls]; exact id
      log
      silent := fun event member => by rw [silent event member]; simp
      known := by rw [count]; exact id }

/-- One call changes, in fields its caller does not depend on. -/
theorem Callers.call {s : State} {c : Nat} {call : Call} (callers : Callers s)
    (command : call.command = (s.calls c).command) (session : call.session = (s.calls c).session)
    (caller : call.caller = (s.calls c).caller)
    (cancelling : call.cancelling = (s.calls c).cancelling)
    (live : ∀ outcome, (s.calls c).execute ≠ .done outcome)
    (started : call.execute = .created → (s.calls c).execute = .created) :
    Callers (s.setCall c call) := fun d => by
  have same : SameCaller s (s.setCall c call) d [] :=
    { command := update_field Call.command command d
      session := update_field Call.session session d
      caller := update_field Call.caller caller d
      execute := by
        by_cases equal : d = c
        · subst equal
          exact .inr (by simpa using ⟨live, started⟩)
        · exact .inl (by simp [equal])
      cancelling := by
        have kept := update_field Call.cancelling cancelling d
        simp [kept]
      log := by simp }
  exact (callers d).keep same

theorem Callers.settle {s : State} {c : Nat} {outcome : Outcome} (callers : Callers s)
    (live : ∀ last, (s.calls c).execute ≠ .done last) : Callers (s.settle c outcome) := fun d => by
  have same : SameCaller s (s.settle c outcome) d [.settled c outcome] := by
    by_cases equal : d = c
    · subst equal
      exact { command := by simp [State.settle], session := by simp [State.settle]
              caller := by simp [State.settle], cancelling := by simp [State.settle]
              execute := .inr (by simpa [State.settle] using live) }
    · exact { command := by simp [State.settle, equal], session := by simp [State.settle, equal]
              caller := by simp [State.settle, equal], cancelling := by simp [State.settle, equal]
              execute := .inl (by simp [State.settle, equal]) }
  exact (callers d).keep same

theorem Callers.cancel {s : State} {c : Nat} (callers : Callers s)
    (live : ∀ last, (s.calls c).execute ≠ .done last)
    (cause : .callerCancelled c ∈ s.log ∨ (s.calls c).execute ≠ .created) :
    Callers ((s.setCall c { s.calls c with cancelling := true }).emit (.cancelRequested c)) := by
  refine callers.one c [.cancelRequested c] (fun d other => ?_) ?_
  · exact { command := by simp [other], session := by simp [other], caller := by simp [other]
            execute := .inl (by simp [other]), cancelling := by simp [other] }
  have caller := callers c
  constructor
  · simpa using caller.told
  · simpa using caller.ended
  · simpa using caller.drained
  · simp
  · intro created _
    rcases cause with told | started
    · simpa using told
    · exact absurd (by simpa using created) started
  · simpa using caller.called
  · intro request session member
    rcases caller.request request session (by simpa using member) with parsed | refused
    · exact .inl (by simpa using parsed)
    · obtain ⟨error, done, -, -⟩ := refused.outcome
      exact absurd done (live _)
  · simpa using caller.once

/-- The frame of a command is handed to the transport. -/
theorem Callers.transmit {s after : State} {c : Nat} {pending : Pending} {write : Write}
    (callers : Callers s) (sent : Transmits s after c pending write)
    (live : ∀ last, (s.calls c).execute ≠ .done last) : Callers after := fun d => by
  have same : SameCaller s after d [.wrote write] := by
    by_cases equal : d = c
    · subst equal
      have own : after.calls d = { s.calls d with
          execute := .draining, pending := some (pending.sent s (s.calls d).session) } := by
        rw [sent.calls, Function.update_self]
      exact { command := by rw [own], session := by rw [own], caller := by rw [own]
              execute := .inr ⟨live, by rw [own]; rintro ⟨⟩⟩
              cancelling := by rw [own]; exact id
              log := sent.log, known := by rw [sent.count]; exact id }
    · have kept : after.calls d = s.calls d := by rw [sent.calls, Function.update_of_ne equal]
      exact { command := by rw [kept], session := by rw [kept], caller := by rw [kept]
              execute := .inl (by rw [kept]; exact ⟨rfl, rfl⟩)
              cancelling := by rw [kept]; exact id
              log := sent.log, known := by rw [sent.count]; exact id }
  exact (callers d).keep same

theorem Callers.drain {s : State} {c : Nat} (callers : Callers s)
    (waiting : ∀ outcome, (s.calls c).caller ≠ .ended outcome)
    (interrupted : .callerCancelled c ∈ s.log) :
    Callers (s.setCall c { s.calls c with caller := .draining }) := by
  refine callers.one c [] (fun d other => ?_) ?_
  · exact { command := by simp [other], session := by simp [other], caller := by simp [other]
            execute := .inl (by simp [other]), cancelling := by simp [other], log := by simp }
  have caller := callers c
  constructor
  · intro outcome member
    exact absurd (caller.told outcome member) (waiting outcome)
  · simp
  · exact fun _ => interrupted
  · simpa using caller.asked
  · simpa using caller.early
  · exact caller.called
  · intro request session member
    rcases caller.request request session member with parsed | refused
    · exact .inl (by simpa using parsed)
    · obtain ⟨error, -, told, -⟩ := refused.outcome
      exact absurd told (waiting _)
  · exact caller.once

theorem Callers.finish {s : State} {c : Nat} {last outcome : Outcome} (callers : Callers s)
    (waiting : ∀ outcome, (s.calls c).caller ≠ .ended outcome)
    (done : (s.calls c).execute = .done last)
    (result : (s.calls c).caller = .waiting ∧ outcome = last ∨
      outcome = .cancelled ∧ ((s.calls c).caller = .draining ∨ .callerCancelled c ∈ s.log)) :
    Callers (s.endCaller c outcome) := by
  refine callers.one c [.ended c outcome] (fun d other => ?_) ?_
  · exact { command := by simp [State.endCaller, other], session := by simp [State.endCaller, other]
            caller := by simp [State.endCaller, other]
            execute := .inl (by simp [State.endCaller, other])
            cancelling := by simp [State.endCaller, other]
            silent := by simp [Ne.symm other] }
  have caller := callers c
  constructor
  · intro other member
    have either : .ended c other ∈ s.log ∨ other = outcome := by
      simpa [State.endCaller] using member
    rcases either with old | rfl
    · exact absurd (caller.told other old) (waiting other)
    · simp [State.endCaller]
  · intro known other held
    obtain rfl : outcome = other := by simpa [State.endCaller] using held
    refine ⟨by simp [State.endCaller], last, by simpa [State.endCaller] using done, ?_⟩
    rcases result with ⟨-, same⟩ | ⟨cancelled, draining | told⟩
    · exact .inl same
    · exact .inr ⟨cancelled, by simpa [State.endCaller] using caller.drained draining⟩
    · exact .inr ⟨cancelled, by simpa [State.endCaller] using told⟩
  · simp [State.endCaller]
  · simpa [State.endCaller] using caller.asked
  · simpa [State.endCaller] using caller.early
  · simpa [State.endCaller] using caller.called
  · intro request session member
    rcases caller.request request session (by simpa [State.endCaller] using member) with
      parsed | refused
    · exact .inl (by simpa [State.endCaller] using parsed)
    · obtain ⟨error, -, told, -⟩ := refused.outcome
      exact absurd told (waiting _)
  · simpa [State.endCaller] using caller.once

theorem Callers.refuse {s : State} {request : Request} {error : Error} (callers : Callers s)
    (shape : Shape s)
    (rejected : (∃ text, request.command = .error text ∧ error = .valueError text) ∨
      (∃ command, request.command = .ok command) ∧ error.unsent) :
    Callers (s.refuseCall request error) := by
  have unknown : ∀ event ∈ s.log, event.call? ≠ some s.callCount := fun event member mine =>
    Nat.lt_irrefl _ (shape.eventCall event member _ mine)
  refine callers.one s.callCount [.called s.callCount request s.session,
    .ended s.callCount (.raised error)] (fun c other => ?_) ?_
  · have older : c < s.callCount + 1 → c < s.callCount := fun known =>
      Nat.lt_of_le_of_ne (Nat.le_of_lt_succ known) other
    exact { command := by simp [State.refuseCall, other], session := by simp [State.refuseCall, other]
            caller := by simp [State.refuseCall, other]
            execute := .inl (by simp [State.refuseCall, other])
            cancelling := by simp [State.refuseCall, other]
            silent := by simp [Ne.symm other], known := older }
  constructor
  · intro outcome member
    have either : .ended s.callCount outcome ∈ s.log ∨ outcome = .raised error := by
      simpa [State.refuseCall] using member
    rcases either with old | rfl
    · exact absurd rfl (unknown _ old)
    · simp [State.refuseCall]
  · intro _ outcome held
    obtain rfl : .raised error = outcome := by simpa [State.refuseCall] using held
    exact ⟨by simp [State.refuseCall], .raised error, by simp [State.refuseCall], .inl rfl⟩
  · simp [State.refuseCall]
  · simp [State.refuseCall, Call.none]
  · simp [State.refuseCall]
  · exact fun _ => ⟨request, s.session, by simp [State.refuseCall]⟩
  · intro other session member
    have either : .called s.callCount other session ∈ s.log ∨
        other = request ∧ session = s.session := by
      simpa [State.refuseCall] using member
    rcases either with old | ⟨rfl, rfl⟩
    · exact absurd rfl (unknown _ old)
    · refine .inr ⟨by simp [State.refuseCall, Call.none], error, by simp [State.refuseCall],
        by simp [State.refuseCall], ?_⟩
      rcases rejected with ⟨text, refused, -⟩ | ⟨-, unsent⟩
      · exact .inl ⟨text, refused⟩
      · exact .inr unsent
  · have only : ∀ other session, .called s.callCount other session ∈
        (s.refuseCall request error).log → other = request := by
      intro other session member
      have either : .called s.callCount other session ∈ s.log ∨
          other = request ∧ session = s.session := by simpa [State.refuseCall] using member
      rcases either with old | new
      · exact absurd rfl (unknown _ old)
      · exact new.1
    intro first session second session' one two
    rw [only first session one, only second session' two]

theorem Callers.open {s : State} {request : Request} {command : Command} {sid : Nat}
    (callers : Callers s) (shape : Shape s) (parsed : request.command = .ok command)
    (current : s.session = some sid) : Callers (s.openCall request command sid) := by
  have unknown : ∀ event ∈ s.log, event.call? ≠ some s.callCount := fun event member mine =>
    Nat.lt_irrefl _ (shape.eventCall event member _ mine)
  refine callers.one s.callCount [.called s.callCount request s.session] (fun c other => ?_) ?_
  · have older : c < s.callCount + 1 → c < s.callCount := fun known =>
      Nat.lt_of_le_of_ne (Nat.le_of_lt_succ known) other
    exact { command := by simp [State.openCall, other], session := by simp [State.openCall, other]
            caller := by simp [State.openCall, other]
            execute := .inl (by simp [State.openCall, other])
            cancelling := by simp [State.openCall, other]
            silent := by simp [Ne.symm other], known := older }
  constructor
  · intro outcome member
    exact absurd rfl (unknown (.ended s.callCount outcome) (by simpa [State.openCall] using member))
  · simp [State.openCall]
  · simp [State.openCall]
  · simp [State.openCall]
  · simp [State.openCall]
  · exact fun _ => ⟨request, s.session, by simp [State.openCall]⟩
  · intro other session member
    have either : .called s.callCount other session ∈ s.log ∨
        other = request ∧ session = s.session := by
      simpa [State.openCall] using member
    rcases either with old | ⟨rfl, rfl⟩
    · exact absurd rfl (unknown _ old)
    · exact .inl (by simpa [State.openCall] using ⟨parsed, current⟩)
  · have only : ∀ other session, .called s.callCount other session ∈
        (s.openCall request command sid).log → other = request := by
      intro other session member
      have either : .called s.callCount other session ∈ s.log ∨
          other = request ∧ session = s.session := by simpa [State.openCall] using member
      rcases either with old | new
      · exact absurd rfl (unknown _ old)
      · exact new.1
    intro first session second session' one two
    rw [only first session one, only second session' two]

theorem Effect.callers {config : Config} {limit overflow : Prop} {s after : State}
    (effect : Effect config overflow s after) (shape : Shape s) (tasks : Tasks limit s)
    (callers : Callers s) : Callers after := by
  cases effect with
  | clock forward epoch => exact callers.aside [] (by simp) (by simp) rfl rfl
  | accept idle free =>
    unfold State.openSession
    exact callers.aside [_] rfl (by simp) rfl rfl
  | @feed sid bytes known opened => exact callers.aside [.fed sid bytes] rfl (by simp) rfl rfl
  | note sid eof readError reason cancelling => exact callers.aside [] (by simp) (by simp) rfl rfl
  | @closeWriter sid known => exact callers.aside [.writerClosing sid] rfl (by simp) rfl rfl
  | @release sid current left =>
    rw [State.release, if_pos current]
    exact callers.aside [.released sid] rfl (by simp) rfl rfl
  | @fail sid gone left =>
    rcases s.failPending_cases sid with same | ⟨c, pending, error, -, recorded, waiting, -, same⟩
    · rw [same]; exact callers
    · rw [same]
      exact callers.call rfl rfl rfl rfl ((tasks c).waiting_live recorded waiting) id
  | @skip sid raw frame rest known handling next =>
    exact callers.aside [.frame sid raw frame none] rfl (by simp) rfl rfl
  | @report sid raw frame rest decoded status known handling next isReport decodes built =>
    have stored : Callers
        { s.takeFrame sid raw frame rest (some status) with status := some status } :=
      callers.aside [.frame sid raw frame (some status)] rfl (by simp) rfl rfl
    rcases State.confirm_cases _ sid frame (s.sessions sid).offset status with
      same | ⟨c, pending, -, recorded, -, waiting, -, -, -, -, same⟩
    · rw [same]; exact stored
    · rw [same]
      exact stored.call rfl rfl rfl rfl ((tasks c).waiting_live recorded waiting) id
  | readAt begun move => exact callers.aside [] (by simp [State.setReadAt]) (by simp) rfl rfl
  | chunk known reading taken nonempty fed =>
    exact callers.aside [] (by simp [State.receiveChunk]) (by simp) rfl rfl
  | @reply after sid phase sent =>
    obtain ⟨-, -, -, -, -, -, raw, -, rfl⟩ := State.sendTurn_sent sent
    exact callers.aside [_] rfl (by simp) rfl rfl
  | unlock => exact callers.aside [] (by simp) (by simp) rfl rfl
  | put entry room origin => exact callers.aside [.enqueued entry] rfl (by simp) rfl rfl
  | discardQueued =>
    refine callers.aside _ rfl ?_ rfl rfl
    simp only [List.mem_map]
    rintro event ⟨entry, -, rfl⟩
    rfl
  | drop entry => exact callers.aside [.discarded entry] rfl (by simp) rfl rfl
  | @dispatch entry rest next free => exact callers.aside [.dispatched entry] rfl (by simp) rfl rfl
  | idle => exact callers.aside [] (by simp) (by simp) rfl rfl
  | stop => exact callers.aside [] (by simp) (by simp) rfl rfl
  | refuse rejected => exact callers.refuse shape rejected
  | call parsed current connected => exact callers.open shape parsed current
  | popReader next => exact callers.aside [] (by simp) (by simp) rfl rfl
  | @popCommand c rest next =>
    have popped : Callers { s with spawned := rest } :=
      callers.aside [] (by simp) (by simp) rfl rfl
    have created := (shape.spawnedCommand c (by simp [next])).2
    exact popped.call rfl rfl rfl rfl (by simp [created]) (by simp)
  | @skipCommand c rest next asked =>
    have popped : Callers { s with spawned := rest } :=
      callers.aside [] (by simp) (by simp) rfl rfl
    have created := (shape.spawnedCommand c (by simp [next])).2
    exact popped.settle (by simp [created])
  | popCleanup next => exact callers.aside [] (by simp) (by simp) rfl rfl
  | @move c target move =>
    obtain ⟨-, live⟩ := ExecuteAt.timed_live (ExecuteAt.registered_timed move.registered.1)
    obtain ⟨started, -⟩ := ExecuteAt.timed_live (ExecuteAt.registered_timed move.registered.2)
    exact callers.call rfl rfl rfl rfl live fun created => absurd created started
  | @register c phase free current =>
    have locked : Callers ({ s with commandLock := some c }.setCall c { s.calls c with
        pending := some {
          opcode := (s.calls c).command.opcode, expected := (s.calls c).command.expected
          allowStale := (s.calls c).command.allowStale }
        execute := .sendLock }) :=
      Callers.call (callers.aside [] (by simp) (by simp) rfl rfl) rfl rfl rfl rfl (by simp [phase])
        (by simp)
    exact locked.aside [] (by simp [State.register]) (by simp) rfl rfl
  | @transmit after c phase sent =>
    obtain ⟨-, current, -, -, -, -, raw, -, rfl⟩ := State.sendTurn_sent sent
    have agrees := (tasks c).phase
    rw [phase] at agrees
    obtain ⟨pending, recorded, -⟩ := agrees
    obtain ⟨write, transmits⟩ := s.transmit_spec recorded raw
    exact callers.transmit transmits (by simp [phase])
  | @settle c outcome how => exact callers.settle (ExecuteAt.timed_live how.timed).2
  | cancel live cause => exact callers.cancel live cause
  | @interrupt c waiting => exact callers.aside [.callerCancelled c] rfl (by simp) rfl rfl
  | drain waiting interrupted => exact callers.drain waiting interrupted
  | finish waiting done result => exact callers.finish waiting done result
  | close opened => exact callers.aside [.closing] rfl (by simp) rfl rfl
  | finishCleanup gathering => exact callers.aside [] (by simp) (by simp) rfl rfl
  | forget closing => exact callers.aside [.cleaned] rfl (by simp) rfl rfl

end AlorairLite.Local
