import AlorairLite.Async.History
import AlorairLite.Local.Effect

/-! Which sessions, calls and tasks exist. Created tasks run their first step in the
order of their creation, so the cleanup never meets a command that has not begun. -/

namespace AlorairLite.Local

open State

/-- The opcode and the data of a command have their place in a frame. -/
def Command.fits (command : Command) : Prop :=
  isByte command.opcode ∧ command.data.length ≤ maxData

theorem Request.command_fits {request : Request} {command : Command}
    (parsed : request.command = .ok command) : command.fits := by
  cases request with
  | setPower on =>
    cases parsed
    exact ⟨by simp [isByte], by simp [maxData]⟩
  | setTemperatureUnit unit =>
    cases parsed
    exact ⟨by simp [isByte], by simp [maxData]⟩
  | setHumidity target allowStale =>
    simp only [Request.command] at parsed
    split at parsed
    · cases parsed
    · cases parsed
      exact ⟨by simp [isByte], by simp [maxData]⟩

structure Shape (s : State) : Prop where
  current : ∀ sid, s.session = some sid → s.knows sid
  spawnedOnce : s.spawned.Nodup
  spawnedReader : ∀ sid, .reader sid ∈ s.spawned →
    s.knows sid ∧ (s.sessions sid).readAt = .created
  spawnedCommand : ∀ c, .command c ∈ s.spawned →
    c < s.callCount ∧ (s.calls c).execute = .created
  createdCommand : ∀ c, (s.calls c).execute = .created → .command c ∈ s.spawned
  createdReader : ∀ sid, (s.sessions sid).readAt = .created → (s.sessions sid).frames = []
  cleanupLast : ∀ first last, s.spawned = first ++ .cleanup :: last → ∀ c, .command c ∉ last
  cleanupClosing : .cleanup ∈ s.spawned ∨ s.cleanup ≠ .idle → s.closing
  cleanupBegun : s.cleanup ≠ .idle → ∀ c, .command c ∉ s.spawned
  callsKnown : ∀ c, s.callCount ≤ c → s.calls c = Call.none
  commandFits : ∀ c, (s.calls c).command.fits
  eventSession : ∀ event ∈ s.log, ∀ sid, event.session? = some sid → s.knows sid
  eventCall : ∀ event ∈ s.log, ∀ c, event.call? = some c → c < s.callCount

/-- An effect that creates no task, session or call and starts none. -/
structure SameShape (s after : State) (events : List Event) : Prop where
  session : after.session = s.session ∨ after.session = none := by exact .inl rfl
  counter : after.sessionCounter = s.sessionCounter := by rfl
  callCount : after.callCount = s.callCount := by rfl
  closing : after.closing = s.closing := by rfl
  cleanup : after.cleanup = s.cleanup ∨ s.cleanup ≠ .idle := by exact .inl rfl
  spawned : after.spawned = s.spawned := by rfl
  reads : ∀ sid, (after.sessions sid).readAt = .created ↔ (s.sessions sid).readAt = .created := by
    exact fun _ => Iff.rfl
  frames : ∀ sid, (s.sessions sid).readAt = .created →
    (after.sessions sid).frames = (s.sessions sid).frames := by exact fun _ _ => rfl
  phases : ∀ c, (after.calls c).execute = .created ↔ (s.calls c).execute = .created := by
    exact fun _ => Iff.rfl
  commands : ∀ c, (after.calls c).command = (s.calls c).command := by exact fun _ => rfl
  calls : ∀ c, s.callCount ≤ c → after.calls c = s.calls c := by exact fun _ _ => rfl
  log : after.log = s.log ++ events := by rfl

theorem Shape.live_known {s : State} (shape : Shape s) {c : Nat}
    (live : ∀ outcome, (s.calls c).execute ≠ .done outcome) : c < s.callCount := by
  refine Nat.lt_of_not_le fun beyond => ?_
  have absent := shape.callsKnown c beyond
  exact live .cancelled (by rw [absent]; rfl)

theorem Shape.waiting_known {s : State} (shape : Shape s) {c : Nat}
    (waiting : ∀ outcome, (s.calls c).caller ≠ .ended outcome) : c < s.callCount := by
  refine Nat.lt_of_not_le fun beyond => ?_
  have absent := shape.callsKnown c beyond
  exact waiting .cancelled (by rw [absent]; rfl)

theorem Shape.keep {s after : State} (shape : Shape s) (events : List Event)
    (same : SameShape s after events)
    (sessions : ∀ event ∈ events, ∀ sid, event.session? = some sid → s.knows sid)
    (calls : ∀ event ∈ events, ∀ c, event.call? = some c → c < s.callCount) : Shape after := by
  have knows : ∀ sid, after.knows sid = s.knows sid := fun sid => by
    simp only [State.knows, same.counter]
  have began : after.cleanup ≠ .idle → s.cleanup ≠ .idle := by
    rcases same.cleanup with kept | begun
    · rw [kept]; exact id
    · exact fun _ => begun
  constructor
  · intro sid current
    rcases same.session with kept | cleared
    · rw [knows]; exact shape.current sid (kept ▸ current)
    · rw [cleared] at current; cases current
  · exact same.spawned ▸ shape.spawnedOnce
  · intro sid member
    obtain ⟨known, created⟩ := shape.spawnedReader sid (same.spawned ▸ member)
    exact ⟨knows sid ▸ known, (same.reads sid).mpr created⟩
  · intro c member
    obtain ⟨known, created⟩ := shape.spawnedCommand c (same.spawned ▸ member)
    exact ⟨same.callCount ▸ known, (same.phases c).mpr created⟩
  · intro c created
    exact same.spawned ▸ shape.createdCommand c ((same.phases c).mp created)
  · intro sid created
    have before := (same.reads sid).mp created
    rw [same.frames sid before]
    exact shape.createdReader sid before
  · intro first last split
    exact shape.cleanupLast first last (same.spawned ▸ split)
  · rintro (member | begun)
    · exact same.closing ▸ shape.cleanupClosing (.inl (same.spawned ▸ member))
    · exact same.closing ▸ shape.cleanupClosing (.inr (began begun))
  · intro begun c
    exact same.spawned ▸ shape.cleanupBegun (began begun) c
  · intro c beyond
    have known : s.callCount ≤ c := same.callCount ▸ beyond
    rw [same.calls c known]
    exact shape.callsKnown c known
  · intro c
    rw [same.commands]
    exact shape.commandFits c
  · intro event member sid belongs
    rw [same.log] at member
    rw [knows]
    rcases List.mem_append.mp member with old | fresh
    · exact shape.eventSession event old sid belongs
    · exact sessions event fresh sid belongs
  · intro event member c belongs
    rw [same.log] at member
    rw [same.callCount]
    rcases List.mem_append.mp member with old | fresh
    · exact shape.eventCall event old c belongs
    · exact calls event fresh c belongs

/-- A change of one existing call that does not start it. -/
theorem Shape.call {s : State} {c : Nat} {call : Call} (shape : Shape s) (known : c < s.callCount)
    (phase : call.execute = .created ↔ (s.calls c).execute = .created)
    (command : call.command = (s.calls c).command) : Shape (s.setCall c call) := by
  refine shape.keep []
    { log := by simp, phases := ?_, commands := update_field Call.command command, calls := ?_ }
    (by simp) (by simp)
  · intro d
    by_cases equal : d = c
    · subst equal
      simpa using phase
    · simp [equal]
  · intro d beyond
    simp [show d ≠ c by omega]

theorem State.setFuture_shape {s : State} {c : Nat} {pending : Pending} {future : Future}
    (shape : Shape s) (recorded : (s.calls c).pending = some pending) :
    Shape (s.setFuture c pending future) := by
  have known : c < s.callCount := Nat.lt_of_not_le fun beyond => by
    simp [shape.callsKnown c beyond, Call.none] at recorded
  exact shape.call known Iff.rfl rfl

/-- A change of one session that leaves its phase and its frames alone. -/
theorem Shape.session {s : State} {sid : Nat} {session : Session} (shape : Shape s)
    (phase : session.readAt = (s.sessions sid).readAt)
    (frames : session.frames = (s.sessions sid).frames) : Shape (s.setSession sid session) := by
  refine shape.keep [] { log := by simp, reads := ?_, frames := ?_ } (by simp) (by simp)
  · intro other
    have kept := update_field Session.readAt phase other
    simp [kept]
  · intro other _
    exact update_field Session.frames frames other

/-- A change of a session whose reader is past its first step. -/
theorem Shape.started {s : State} {sid : Nat} {session : Session} (shape : Shape s)
    (before : (s.sessions sid).readAt ≠ .created) (after : session.readAt ≠ .created) :
    Shape (s.setSession sid session) := by
  have apart : ∀ other, (s.sessions other).readAt = .created → other ≠ sid := by
    rintro other created rfl
    exact before created
  refine shape.keep [] { log := by simp, reads := ?_, frames := ?_ } (by simp) (by simp)
  · intro other
    by_cases equal : other = sid
    · subst equal
      simp [before, after]
    · simp [equal]
  · intro other created
    simp [apart other created]

/-- An event of an existing session. -/
theorem Shape.noted {s : State} {sid : Nat} (shape : Shape s) (event : Event) (known : s.knows sid)
    (session : event.session? = some sid) (call : event.call? = none) : Shape (s.emit event) := by
  refine shape.keep [event] {} ?_ ?_
  · simpa [session] using known
  · simp [call]

/-- An event of an existing call. -/
theorem Shape.said {s : State} {c : Nat} (shape : Shape s) (event : Event) (known : c < s.callCount)
    (session : event.session? = none) (call : event.call? = some c) : Shape (s.emit event) := by
  refine shape.keep [event] {} ?_ ?_
  · simp [session]
  · simpa [call] using known

/-- Events of neither a session nor a call, with nothing else but bookkeeping. -/
theorem Shape.quiet {s after : State} (shape : Shape s) (events : List Event)
    (same : SameShape s after events)
    (anonymous : ∀ event ∈ events, event.session? = none ∧ event.call? = none) : Shape after := by
  refine shape.keep events same ?_ ?_
  · intro event member sid belongs
    simp [(anonymous event member).1] at belongs
  · intro event member c belongs
    simp [(anonymous event member).2] at belongs

theorem Shape.takeFrame {s : State} {sid : Nat} {raw : Bytes} {frame : Frame}
    {rest : List (Bytes × Frame)} {status : Option DeviceStatus} (shape : Shape s)
    (known : s.knows sid) (handling : (s.sessions sid).readAt = .handling) :
    Shape (s.takeFrame sid raw frame rest status) :=
  (shape.started (by simp [handling]) (by simp [handling])).noted
    (.frame sid raw frame status) known rfl rfl

theorem Shape.settle {s : State} {c : Nat} {outcome : Outcome} (shape : Shape s)
    (known : c < s.callCount) (started : (s.calls c).execute ≠ .created) :
    Shape (s.settle c outcome) := by
  have same : ∀ sid, ((s.settle c outcome).sessions sid).readAt = (s.sessions sid).readAt ∧
      ((s.settle c outcome).sessions sid).frames = (s.sessions sid).frames := by
    intro sid
    simp only [State.settle]
    split
    · exact ⟨update_field Session.readAt (by rfl) sid, update_field Session.frames (by rfl) sid⟩
    · exact ⟨rfl, rfl⟩
  refine shape.keep [.settled c outcome]
    { reads := ?_, frames := ?_, phases := ?_, calls := ?_
      commands := update_field Call.command (by rfl) } ?_ ?_
  · intro sid
    rw [(same sid).1]
  · intro sid _
    rw [(same sid).2]
  · intro d
    by_cases equal : d = c
    · subst equal
      simpa [State.settle] using started
    · simp [State.settle, equal]
  · intro d beyond
    simp [State.settle, show d ≠ c by omega]
  · simp [Event.session?]
  · simpa [Event.call?] using known

theorem State.write_execute (s : State) (sid : Nat) (opcode : Int) (data : Bytes) (sender : Sender)
    (raw : Bytes) (d : Nat) :
    ((s.write sid opcode data sender raw).calls d).execute = (s.calls d).execute := by
  cases sender with
  | reader other => rfl
  | command c =>
    simp only [State.write]
    split
    · rfl
    · exact update_field Call.execute (by rfl) d

theorem Shape.write {s : State} {c : Nat} (shape : Shape s) (known : c < s.callCount) (sid : Nat)
    (opcode : Int) (data raw : Bytes) : Shape (s.write sid opcode data (.command c) raw) := by
  cases recorded : (s.calls c).pending with
  | none =>
    simp only [State.write, recorded]
    exact shape.keep [_] { log := by rfl } (by simp [Event.session?])
      (by simpa [Event.call?] using known)
  | some pending =>
    simp only [State.write, recorded]
    refine Shape.keep (shape.call known ?_ ?_) [_] { log := by rfl } (by simp [Event.session?])
      (by simpa [Event.call?] using known)
    · exact Iff.rfl
    · rfl

theorem State.knows_iff {s : State} {sid : Nat} : s.knows sid ↔ 0 < sid ∧ sid ≤ s.sessionCounter := by
  simp [State.knows]

private theorem nodup_append_singleton {tasks : List Spawned} {added : Spawned}
    (once : tasks.Nodup) (absent : added ∉ tasks) : (tasks ++ [added]).Nodup := by
  refine List.nodup_append.mpr ⟨once, by simp, ?_⟩
  rintro task member other fresh rfl
  exact absent (List.mem_singleton.mp fresh ▸ member)

private theorem cleanupLast_append {tasks : List Spawned} {added : Spawned}
    (held : ∀ first last, tasks = first ++ .cleanup :: last → ∀ c, .command c ∉ last)
    (plain : ∀ c, added ≠ .command c) :
    ∀ first last, tasks ++ [added] = first ++ .cleanup :: last → ∀ c, .command c ∉ last := by
  intro first last split c member
  rcases Async.split_append_singleton split with ⟨rest, rfl, old⟩ | ⟨rfl, -, -⟩
  · rcases List.mem_append.mp member with old' | fresh
    · exact held first rest old c old'
    · exact plain c (List.mem_singleton.mp fresh).symm
  · cases member

theorem Shape.accept {config : Config} {s : State} (shape : Shape s) : Shape (s.openSession config config.allowedClient) := by
  unfold State.openSession
  have grows : ∀ sid, s.knows sid → 0 < sid ∧ sid ≤ s.sessionCounter + 1 ∧
      sid ≠ s.sessionCounter + 1 := by
    intro sid known
    have bounds := State.knows_iff.mp known
    omega
  have absent : .reader (s.sessionCounter + 1) ∉ s.spawned := fun member =>
    (grows _ (shape.spawnedReader _ member).1).2.2 rfl
  constructor
  · rintro sid current
    cases Option.some.inj current
    exact State.knows_iff.mpr ⟨Nat.succ_pos _, Nat.le_refl _⟩
  · exact nodup_append_singleton shape.spawnedOnce absent
  · intro sid member
    rcases List.mem_append.mp member with old | fresh
    · obtain ⟨known, created⟩ := shape.spawnedReader sid old
      obtain ⟨positive, bound, apart⟩ := grows sid known
      exact ⟨State.knows_iff.mpr ⟨positive, bound⟩, by simpa [apart] using created⟩
    · obtain rfl : sid = s.sessionCounter + 1 := by simpa using fresh
      exact ⟨State.knows_iff.mpr ⟨Nat.succ_pos _, Nat.le_refl _⟩, by simp [Session.fresh]⟩
  · intro c member
    exact shape.spawnedCommand c (by simpa using member)
  · intro c created
    exact List.mem_append_left _ (shape.createdCommand c created)
  · intro sid created
    by_cases equal : sid = s.sessionCounter + 1
    · subst equal
      simp [Session.fresh]
    · simp only [State.setSession, Function.update_of_ne equal] at created ⊢
      exact shape.createdReader sid created
  · exact cleanupLast_append shape.cleanupLast fun c equal => by cases equal
  · rintro (member | begun)
    · exact shape.cleanupClosing (.inl (by simpa using member))
    · exact shape.cleanupClosing (.inr begun)
  · intro begun c member
    exact shape.cleanupBegun begun c (by simpa using member)
  · exact shape.callsKnown
  · exact shape.commandFits
  · intro event member sid belongs
    rcases List.mem_append.mp member with old | fresh
    · obtain ⟨positive, bound, -⟩ := grows sid (shape.eventSession event old sid belongs)
      exact State.knows_iff.mpr ⟨positive, bound⟩
    · obtain rfl := List.mem_singleton.mp fresh
      cases belongs
      exact State.knows_iff.mpr ⟨Nat.succ_pos _, Nat.le_refl _⟩
  · intro event member c belongs
    rcases List.mem_append.mp member with old | fresh
    · exact shape.eventCall event old c belongs
    · obtain rfl := List.mem_singleton.mp fresh
      cases belongs

/-- A call that ends inside `async_set_*` leaves only its two events. -/
theorem Shape.refuse {s : State} {request : Request} {error : Error} (shape : Shape s) :
    Shape (s.refuseCall request error) := by
  have apart : ∀ c, c < s.callCount → c ≠ s.callCount := fun c known => by omega
  constructor
  · exact shape.current
  · exact shape.spawnedOnce
  · exact shape.spawnedReader
  · intro c member
    obtain ⟨known, created⟩ := shape.spawnedCommand c member
    exact ⟨Nat.lt_succ_of_lt known, by simpa [State.refuseCall, apart c known] using created⟩
  · intro c created
    by_cases equal : c = s.callCount
    · subst equal
      simp [State.refuseCall] at created
    · simp only [State.refuseCall, Function.update_of_ne equal] at created
      exact shape.createdCommand c created
  · exact shape.createdReader
  · exact shape.cleanupLast
  · exact shape.cleanupClosing
  · exact shape.cleanupBegun
  · intro c beyond
    have later : s.callCount + 1 ≤ c := beyond
    simpa [State.refuseCall, show c ≠ s.callCount by omega] using shape.callsKnown c (by omega)
  · intro c
    by_cases equal : c = s.callCount
    · subst equal
      simp [State.refuseCall, Call.none, Command.fits, isByte]
    · simpa [State.refuseCall, equal] using shape.commandFits c
  · intro event member sid belongs
    rcases List.mem_append.mp member with old | fresh
    · exact shape.eventSession event old sid belongs
    · simp only [List.mem_cons, List.not_mem_nil, or_false] at fresh
      rcases fresh with rfl | rfl <;> cases belongs
  · intro event member c belongs
    rcases List.mem_append.mp member with old | fresh
    · exact Nat.lt_succ_of_lt (shape.eventCall event old c belongs)
    · simp only [List.mem_cons, List.not_mem_nil, or_false] at fresh
      rcases fresh with rfl | rfl <;> cases belongs <;> exact Nat.lt_succ_self _

theorem Shape.open {s : State} {request : Request} {command : Command} {sid : Nat} (shape : Shape s)
    (opened : s.closing = false) (fits : command.fits) :
    Shape (s.openCall request command sid) := by
  have absent : .command s.callCount ∉ s.spawned := fun member =>
    Nat.lt_irrefl _ (shape.spawnedCommand _ member).1
  have quiet : ¬ (.cleanup ∈ s.spawned ∨ s.cleanup ≠ .idle) := fun begun =>
    absurd (shape.cleanupClosing begun) (by simp [opened])
  constructor
  · exact shape.current
  · exact nodup_append_singleton shape.spawnedOnce absent
  · intro sid member
    exact shape.spawnedReader sid (by simpa [State.openCall] using member)
  · intro c member
    rcases List.mem_append.mp member with old | fresh
    · obtain ⟨known, created⟩ := shape.spawnedCommand c old
      exact ⟨Nat.lt_succ_of_lt known,
        by simpa [State.openCall, show c ≠ s.callCount by omega] using created⟩
    · obtain rfl : c = s.callCount := by simpa using fresh
      exact ⟨Nat.lt_succ_self _, by simp [State.openCall]⟩
  · intro c created
    by_cases equal : c = s.callCount
    · subst equal
      exact List.mem_append_right _ (List.mem_singleton.mpr rfl)
    · simp only [State.openCall, Function.update_of_ne equal] at created
      exact List.mem_append_left _ (shape.createdCommand c created)
  · exact shape.createdReader
  · intro first last split
    have member : Spawned.cleanup ∈ s.spawned ++ [.command s.callCount] := by
      rw [show s.spawned ++ [.command s.callCount] = first ++ .cleanup :: last from split]
      exact List.mem_append_right _ (List.mem_cons_self ..)
    exact absurd (.inl (by simpa using member)) quiet
  · intro begun
    exact absurd (by simpa [State.openCall] using begun) quiet
  · intro begun
    exact absurd (.inr begun) quiet
  · intro c beyond
    have later : s.callCount + 1 ≤ c := beyond
    simpa [State.openCall, show c ≠ s.callCount by omega] using shape.callsKnown c (by omega)
  · intro c
    by_cases equal : c = s.callCount
    · subst equal
      simpa [State.openCall] using fits
    · simpa [State.openCall, equal] using shape.commandFits c
  · intro event member sid belongs
    rcases List.mem_append.mp member with old | fresh
    · exact shape.eventSession event old sid belongs
    · obtain rfl := List.mem_singleton.mp fresh
      cases belongs
  · intro event member c belongs
    rcases List.mem_append.mp member with old | fresh
    · exact Nat.lt_succ_of_lt (shape.eventCall event old c belongs)
    · obtain rfl := List.mem_singleton.mp fresh
      cases belongs
      exact Nat.lt_succ_self _

theorem Shape.close {s : State} (shape : Shape s) (opened : s.closing = false) :
    Shape { s with
      closing := true, spawned := s.spawned ++ [.cleanup], log := s.log ++ [.closing] } := by
  have quiet : ¬ (.cleanup ∈ s.spawned ∨ s.cleanup ≠ .idle) := fun begun =>
    absurd (shape.cleanupClosing begun) (by simp [opened])
  constructor
  · exact shape.current
  · exact nodup_append_singleton shape.spawnedOnce fun member => quiet (.inl member)
  · intro sid member
    exact shape.spawnedReader sid (by simpa using member)
  · intro c member
    exact shape.spawnedCommand c (by simpa using member)
  · intro c created
    exact List.mem_append_left _ (shape.createdCommand c created)
  · exact shape.createdReader
  · exact cleanupLast_append shape.cleanupLast fun c equal => by cases equal
  · exact fun _ => rfl
  · intro begun
    exact absurd (.inr begun) quiet
  · exact shape.callsKnown
  · exact shape.commandFits
  · intro event member sid belongs
    rcases List.mem_append.mp member with old | fresh
    · exact shape.eventSession event old sid belongs
    · obtain rfl := List.mem_singleton.mp fresh
      cases belongs
  · intro event member c belongs
    rcases List.mem_append.mp member with old | fresh
    · exact shape.eventCall event old c belongs
    · obtain rfl := List.mem_singleton.mp fresh
      cases belongs

/-- A reader that has left the queue of created tasks moves on. -/
theorem Shape.readAt {s : State} {sid : Nat} {phase : ReadAt} (shape : Shape s)
    (begun : .reader sid ∉ s.spawned) (started : phase ≠ .created) :
    Shape (s.setReadAt sid phase) := by
  constructor
  · exact shape.current
  · exact shape.spawnedOnce
  · intro other member
    have apart : other ≠ sid := by
      rintro rfl
      exact begun member
    obtain ⟨known, created⟩ := shape.spawnedReader other member
    exact ⟨known, by simpa [State.setReadAt, apart] using created⟩
  · exact shape.spawnedCommand
  · exact shape.createdCommand
  · intro other created
    by_cases equal : other = sid
    · subst equal
      simp [State.setReadAt, started] at created
    · simp only [State.setReadAt, State.setSession, Function.update_of_ne equal] at created ⊢
      exact shape.createdReader other created
  · exact shape.cleanupLast
  · exact shape.cleanupClosing
  · exact shape.cleanupBegun
  · exact shape.callsKnown
  · exact shape.commandFits
  · exact shape.eventSession
  · exact shape.eventCall

/-- The oldest created task leaves the queue; a command leaves its first phase too. -/
structure Popped (s after : State) (task : Spawned) (events : List Event) : Prop where
  session : after.session = s.session := by rfl
  counter : after.sessionCounter = s.sessionCounter := by rfl
  callCount : after.callCount = s.callCount := by rfl
  closing : after.closing = s.closing := by rfl
  cleanup : after.cleanup = s.cleanup ∨ task = .cleanup := by exact .inl rfl
  spawned : s.spawned = task :: after.spawned
  reads : ∀ sid, (after.sessions sid).readAt = (s.sessions sid).readAt := by exact fun _ => rfl
  frames : ∀ sid, (after.sessions sid).frames = (s.sessions sid).frames := by exact fun _ => rfl
  phases : ∀ c, (after.calls c).execute = .created ↔
    (s.calls c).execute = .created ∧ task ≠ .command c
  commands : ∀ c, (after.calls c).command = (s.calls c).command := by exact fun _ => rfl
  calls : ∀ c, s.callCount ≤ c → after.calls c = s.calls c := by exact fun _ _ => rfl
  log : after.log = s.log ++ events := by simp

theorem Shape.pop {s after : State} {task : Spawned} (shape : Shape s) (events : List Event)
    (popped : Popped s after task events)
    (sessions : ∀ event ∈ events, event.session? = none)
    (calls : ∀ event ∈ events, ∀ c, event.call? = some c → c < s.callCount) : Shape after := by
  have knows : ∀ sid, after.knows sid = s.knows sid := fun sid => by
    simp only [State.knows, popped.counter]
  have once := shape.spawnedOnce
  rw [popped.spawned, List.nodup_cons] at once
  have older : ∀ other ∈ after.spawned, other ∈ s.spawned ∧ task ≠ other := by
    intro other member
    refine ⟨popped.spawned ▸ List.mem_cons_of_mem _ member, ?_⟩
    rintro rfl
    exact once.1 member
  have began : after.cleanup ≠ .idle → s.cleanup ≠ .idle ∨ task = .cleanup := by
    rcases popped.cleanup with kept | begun
    · rw [kept]; exact .inl
    · exact fun _ => .inr begun
  have first : task = .cleanup → Spawned.cleanup ∈ s.spawned ∧ ∀ c, .command c ∉ after.spawned := by
    rintro rfl
    exact ⟨popped.spawned ▸ List.mem_cons_self .., shape.cleanupLast [] _ popped.spawned⟩
  constructor
  · intro sid current
    rw [knows]
    exact shape.current sid (popped.session ▸ current)
  · exact once.2
  · intro sid member
    obtain ⟨known, created⟩ := shape.spawnedReader sid (older _ member).1
    exact ⟨knows sid ▸ known, (popped.reads sid).trans created⟩
  · intro c member
    obtain ⟨old, apart⟩ := older _ member
    obtain ⟨known, created⟩ := shape.spawnedCommand c old
    exact ⟨popped.callCount ▸ known, (popped.phases c).mpr ⟨created, apart⟩⟩
  · intro c created
    obtain ⟨before, apart⟩ := (popped.phases c).mp created
    have member := shape.createdCommand c before
    rw [popped.spawned] at member
    exact (List.mem_cons.mp member).resolve_left fun equal => apart equal.symm
  · intro sid created
    rw [popped.frames]
    exact shape.createdReader sid ((popped.reads sid).symm.trans created)
  · intro before last split
    exact shape.cleanupLast (task :: before) last (by rw [popped.spawned, split, List.cons_append])
  · rw [popped.closing]
    rintro (member | begun)
    · exact shape.cleanupClosing (.inl (older _ member).1)
    · rcases began begun with begun | last
      · exact shape.cleanupClosing (.inr begun)
      · exact shape.cleanupClosing (.inl (first last).1)
  · intro begun c member
    rcases began begun with begun | last
    · exact shape.cleanupBegun begun c (older _ member).1
    · exact (first last).2 c member
  · intro c beyond
    have known : s.callCount ≤ c := popped.callCount ▸ beyond
    rw [popped.calls c known]
    exact shape.callsKnown c known
  · intro c
    rw [popped.commands]
    exact shape.commandFits c
  · intro event member sid belongs
    rw [popped.log] at member
    rw [knows]
    rcases List.mem_append.mp member with old | fresh
    · exact shape.eventSession event old sid belongs
    · simp [sessions event fresh] at belongs
  · intro event member c belongs
    rw [popped.log] at member
    rw [popped.callCount]
    rcases List.mem_append.mp member with old | fresh
    · exact shape.eventCall event old c belongs
    · exact calls event fresh c belongs

theorem Shape.popCommand {s : State} {c : Nat} {rest : List Spawned} {call : Call} (shape : Shape s)
    (next : s.spawned = .command c :: rest) (started : call.execute ≠ .created)
    (command : call.command = (s.calls c).command) :
    Shape ({ s with spawned := rest }.setCall c call) := by
  have known : c < s.callCount := (shape.spawnedCommand c (by simp [next])).1
  refine shape.pop []
    { spawned := next, phases := ?_, commands := update_field Call.command command, calls := ?_ }
    (by simp) (by simp)
  · intro d
    by_cases equal : d = c
    · subst equal
      simpa using started
    · simp [equal, Ne.symm equal]
  · intro d beyond
    simp [show d ≠ c by omega]

theorem State.settle_setCall (s : State) (c : Nat) (phase : ExecuteAt) (outcome : Outcome) :
    (s.setCall c { s.calls c with execute := phase }).settle c outcome = s.settle c outcome := by
  simp only [State.settle, State.setCall, Function.update_self, Function.update_idem]
  rfl

theorem Effect.shape {config : Config} {overflow : Prop} {s after : State}
    (effect : Effect config overflow s after) (shape : Shape s) : Shape after := by
  cases effect with
  | clock forward epoch => exact shape.quiet [] { log := by simp } (by simp)
  | accept idle free => exact shape.accept
  | @feed sid bytes known opened =>
    refine Shape.noted ?_ (.fed sid bytes) known rfl rfl
    exact shape.session rfl rfl
  | note sid eof readError reason cancelling => exact shape.session rfl rfl
  | @closeWriter sid known =>
    refine Shape.noted ?_ (.writerClosing sid) known rfl rfl
    exact shape.session rfl rfl
  | @release sid current left =>
    rw [State.release, if_pos current]
    refine shape.keep [.released sid] { session := .inr rfl } ?_ (by simp [Event.call?])
    simpa [Event.session?] using shape.current sid current
  | @fail sid gone left =>
    rcases s.failPending_cases sid with same | ⟨c, pending, error, -, recorded, -, -, same⟩
    · rw [same]; exact shape
    · rw [same]; exact State.setFuture_shape shape recorded
  | @skip sid raw frame rest known handling next =>
    exact shape.takeFrame known handling
  | @report sid raw frame rest decoded status known handling next isReport decodes built =>
    have looped : Shape (s.takeFrame sid raw frame rest (some status)) :=
      shape.takeFrame known handling
    have taken : Shape { s.takeFrame sid raw frame rest (some status) with status := some status } :=
      looped.quiet [] { log := by simp } (by simp)
    rcases State.confirm_cases _ sid frame (s.sessions sid).offset status with
      same | ⟨c, pending, -, recorded, -, -, -, -, -, -, same⟩
    · rw [same]; exact taken
    · rw [same]; exact State.setFuture_shape taken recorded
  | readAt begun move => exact shape.readAt begun move.started
  | @chunk sid chunk frames parser known reading taken nonempty fed =>
    exact shape.started (by simp [reading]) (by simp)
  | @reply _ sid phase sent =>
    obtain ⟨-, -, -, -, -, -, raw, -, rfl⟩ := State.sendTurn_sent sent
    have written : Shape (s.write sid 1 [0] (.reader sid) raw) :=
      shape.quiet [_] { log := by rfl } (by simp [Event.session?, Event.call?])
    have answered : Shape ((s.write sid 1 [0] (.reader sid) raw).setReadAt sid .heartbeatDrain) :=
      written.started (by simp [State.write, phase]) (by simp)
    exact answered.quiet [] { log := by simp } (by simp)
  | unlock => exact shape.quiet [] { log := by simp } (by simp)
  | put entry room origin => exact shape.quiet [.enqueued entry] {} (by simp [Event.session?, Event.call?])
  | discardQueued =>
    refine shape.quiet _ {} ?_
    simp only [List.mem_map]
    rintro event ⟨entry, -, rfl⟩
    exact ⟨rfl, rfl⟩
  | drop entry => exact shape.quiet [.discarded entry] {} (by simp [Event.session?, Event.call?])
  | @dispatch entry rest next free =>
    exact shape.quiet [.dispatched entry] {} (by simp [Event.session?, Event.call?])
  | idle => exact shape.quiet [] { log := by simp } (by simp)
  | stop => exact shape.quiet [] { log := by simp } (by simp)
  | refuse rejected => exact shape.refuse
  | call parsed current connected => exact shape.open (State.connected_spec connected).1 (Request.command_fits parsed)
  | @popReader sid rest next =>
    exact shape.pop [] { spawned := next, phases := by simp } (by simp) (by simp)
  | popCommand next => exact shape.popCommand next (by simp) rfl
  | @skipCommand c rest next asked =>
    have known : c < s.callCount := (shape.spawnedCommand c (by simp [next])).1
    have begun : Shape ({ s with spawned := rest }.setCall c
        { s.calls c with execute := .commandLock }) := shape.popCommand next (by simp) rfl
    rw [← State.settle_setCall _ c .commandLock]
    exact begun.settle known (by simp)
  | @popCleanup rest next =>
    exact shape.pop [] { spawned := next, cleanup := .inr rfl, phases := by simp } (by simp) (by simp)
  | @move c target move =>
    obtain ⟨started, live⟩ := ExecuteAt.timed_live (ExecuteAt.registered_timed move.registered.1)
    obtain ⟨target, -⟩ := ExecuteAt.timed_live (ExecuteAt.registered_timed move.registered.2)
    exact shape.call (shape.live_known live) (iff_of_false target started) rfl
  | @register c phase free current =>
    have known : c < s.callCount := shape.live_known (by simp [phase])
    have locked : Shape { s with commandLock := some c } :=
      shape.quiet [] { log := by simp } (by simp)
    refine Shape.session (locked.call known ?_ ?_) rfl rfl
    · simp [phase]
    · rfl
  | @transmit _ c phase sent =>
    obtain ⟨-, -, -, -, -, -, raw, -, rfl⟩ := State.sendTurn_sent sent
    have known : c < s.callCount := shape.live_known (by simp [phase])
    have written := shape.write known (s.calls c).session (s.calls c).command.opcode
      (s.calls c).command.data raw
    generalize queued : s.write (s.calls c).session (s.calls c).command.opcode
      (s.calls c).command.data (.command c) raw = middle at written ⊢
    have still : (middle.calls c).execute = .sendLock := by
      rw [← queued, State.write_execute, phase]
    have draining : Shape (middle.setCall c { middle.calls c with execute := .draining }) :=
      written.call (written.live_known (by simp [still])) (iff_of_false (by simp) (by simp [still])) rfl
    exact draining.quiet [] { log := by simp } (by simp)
  | settle how =>
    obtain ⟨started, live⟩ := ExecuteAt.timed_live how.timed
    exact shape.settle (shape.live_known live) started
  | @cancel c live cause =>
    have known := shape.live_known live
    refine Shape.said ?_ (.cancelRequested c) known rfl rfl
    exact shape.call known Iff.rfl rfl
  | @interrupt c waiting => exact shape.said (.callerCancelled c) (shape.waiting_known waiting) rfl rfl
  | drain waiting interrupted => exact shape.call (shape.waiting_known waiting) Iff.rfl rfl
  | @finish c last outcome waiting done result =>
    have known := shape.waiting_known waiting
    refine Shape.said ?_ (.ended c outcome) known rfl rfl
    exact shape.call known Iff.rfl rfl
  | close opened => exact shape.close opened
  | finishCleanup gathering =>
    exact shape.quiet [] { log := by simp, cleanup := .inr (by simp [gathering]) } (by simp)
  | forget closing => exact shape.quiet [.cleaned] {} (by simp [Event.session?, Event.call?])

theorem Shape.initial {config : Config} {now wall : ℚ} : Shape (State.start config now wall) := by
  constructor <;> simp [State.start, Session.fresh, Call.none, Command.fits, isByte]

theorem Effects.shape {config : Config} {overflow : Prop} {s after : State}
    (effects : Effects config overflow s after) (shape : Shape s) : Shape after := by
  induction effects with
  | refl => exact shape
  | tail _ effect ih => exact effect.shape ih

end AlorairLite.Local
