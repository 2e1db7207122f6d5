import AlorairLite.Local.Guard

/-! The reports of a session in the order they were decoded, and the part of them
that still waits for its callback. -/

namespace AlorairLite.Local

open State

@[simp] def Event.reportOn (sid : Nat) : Event → Option DeviceStatus
  | .frame session _ _ (some status) => if session = sid then some status else none
  | _ => none

@[simp] def Callback.reportOn (sid : Nat) (entry : Callback) : Option DeviceStatus :=
  match entry.notice with
  | .status status => if entry.session = sid then some status else none
  | .disconnect _ => none

/-- The reports a session has decoded. -/
def reports (sid : Nat) (log : List Event) : List DeviceStatus :=
  log.filterMap (Event.reportOn sid)

/-- The reports of a session among these notifications. -/
def notified (sid : Nat) (entries : List Callback) : List DeviceStatus :=
  entries.filterMap (Callback.reportOn sid)

@[simp] theorem reports_append (sid : Nat) (log later : List Event) :
    reports sid (log ++ later) = reports sid log ++ reports sid later := List.filterMap_append ..

@[simp] theorem reports_nil (sid : Nat) : reports sid [] = [] := rfl

@[simp] theorem reports_cons (sid : Nat) (event : Event) (later : List Event) :
    reports sid (event :: later) = (event.reportOn sid).toList ++ reports sid later := by
  rw [reports, List.filterMap_cons]
  cases event.reportOn sid <;> rfl

@[simp] theorem notified_append (sid : Nat) (entries later : List Callback) :
    notified sid (entries ++ later) = notified sid entries ++ notified sid later :=
  List.filterMap_append ..

theorem notified_cons (sid : Nat) (entry : Callback) (later : List Callback) :
    notified sid (entry :: later) = (entry.reportOn sid).toList ++ notified sid later := by
  rw [notified, List.filterMap_cons]
  cases entry.reportOn sid <;> rfl

/-- Events that report nothing. -/
@[simp] def Event.reportless : Event → Bool
  | .frame _ _ _ status => status.isNone
  | _ => true

theorem reports_reportless {events : List Event} (silent : ∀ event ∈ events, event.reportless)
    (sid : Nat) : reports sid events = [] := by
  refine List.filterMap_eq_nil_iff.mpr fun event member => ?_
  have none := silent event member
  cases event with
  | frame session raw frame status =>
    cases status with
    | none => rfl
    | some status => cases none
  | _ => rfl

/-- No report of a session overtakes another. -/
def Precedes (earlier later : DeviceStatus) : Prop :=
  earlier.receiveSequence ≤ later.receiveSequence ∧
    earlier.receivedMonotonic ≤ later.receivedMonotonic

/-- The reports of a session, against its counters. -/
structure Reported (s : State) (sid : Nat) : Prop where
  ordered : (reports sid s.log).Pairwise Precedes
  bounded : ∀ status ∈ reports sid s.log, status.sessionId = sid ∧ 0 < status.receiveSequence ∧
    status.receiveSequence ≤ (s.sessions sid).receiveSequence ∧
    status.receivedMonotonic ≤ (s.sessions sid).receivedMonotonic
  begun : (s.sessions sid).frames ≠ [] → 0 < (s.sessions sid).receiveSequence
  verified : reports sid s.log ≠ [] → (s.sessions sid).verified
  clocked : 0 < (s.sessions sid).receiveSequence → (s.sessions sid).receivedMonotonic ≤ s.now

/-- While the client is open only the current session reads, and the latest status is
the last report of that session. -/
structure Reporting (s : State) : Prop where
  reading : s.closing = false → ∀ sid, s.knows sid → (s.sessions sid).readAt.left = false →
    s.session = some sid
  latest : s.closing = false → ∀ sid, s.session = some sid → s.status = (reports sid s.log).getLast?
  reported : ∀ sid, Reported s sid

theorem Reporting.initial (config : Config) (now wall : ℚ) :
    Reporting (State.start config now wall) where
  reading := by
    intro _ sid known
    simp [State.start, State.knows] at known
    omega
  latest := by
    intro _ sid current
    cases current
  reported := fun sid => by constructor <;> simp [State.start, Session.fresh]

theorem Reported.past {s : State} {sid : Nat} {status : DeviceStatus} (reported : Reported s sid)
    (member : status ∈ reports sid s.log) : status.receivedMonotonic ≤ s.now := by
  obtain ⟨-, positive, sequence, received⟩ := reported.bounded status member
  exact le_trans received (reported.clocked (Nat.lt_of_lt_of_le positive sequence))

/-- An effect that neither reports nor opens or gives up a session. -/
structure SameReport (s after : State) (events : List Event) : Prop where
  session : after.session = s.session := by rfl
  status : after.status = s.status := by rfl
  closing : after.closing = s.closing := by rfl
  counter : after.sessionCounter = s.sessionCounter := by rfl
  now : s.now ≤ after.now := by exact le_refl _
  log : after.log = s.log ++ events := by rfl
  silent : ∀ event ∈ events, event.reportless := by simp
  left : ∀ sid, (s.sessions sid).readAt.left → (after.sessions sid).readAt.left := by
    exact fun _ => id
  sequence : ∀ sid, (after.sessions sid).receiveSequence = (s.sessions sid).receiveSequence := by
    exact fun _ => rfl
  received : ∀ sid, (after.sessions sid).receivedMonotonic = (s.sessions sid).receivedMonotonic := by
    exact fun _ => rfl
  frames : ∀ sid, (after.sessions sid).frames = (s.sessions sid).frames := by exact fun _ => rfl
  verified : ∀ sid, (after.sessions sid).verified = (s.sessions sid).verified := by
    exact fun _ => rfl

theorem Reported.keep {s after : State} {sid : Nat} (reported : Reported s sid)
    (log : reports sid after.log = reports sid s.log) (now : s.now ≤ after.now)
    (sequence : (after.sessions sid).receiveSequence = (s.sessions sid).receiveSequence)
    (received : (after.sessions sid).receivedMonotonic = (s.sessions sid).receivedMonotonic)
    (frames : (after.sessions sid).frames ≠ [] → (s.sessions sid).frames ≠ [])
    (verified : (s.sessions sid).verified → (after.sessions sid).verified) :
    Reported after sid := by
  constructor
  · rw [log]
    exact reported.ordered
  · rw [log, sequence, received]
    exact reported.bounded
  · rw [sequence]
    exact fun remaining => reported.begun (frames remaining)
  · rw [log]
    exact fun shown => verified (reported.verified shown)
  · rw [sequence, received]
    exact fun positive => le_trans (reported.clocked positive) now

theorem Reporting.keep {s after : State} (reporting : Reporting s) (events : List Event)
    (same : SameReport s after events) : Reporting after := by
  have log : ∀ sid, reports sid after.log = reports sid s.log := fun sid => by
    rw [same.log, reports_append, reports_reportless same.silent, List.append_nil]
  constructor
  · intro opened sid known reads
    rw [same.session]
    refine reporting.reading (same.closing ▸ opened) sid ?_ ?_
    · simpa [State.knows, same.counter] using known
    · exact Bool.eq_false_iff.mpr fun gone => by simp [same.left sid gone] at reads
  · intro opened sid current
    rw [same.status, log]
    exact reporting.latest (same.closing ▸ opened) sid (same.session ▸ current)
  · exact fun sid => (reporting.reported sid).keep (log sid) same.now (same.sequence sid)
      (same.received sid) (by rw [same.frames]; exact id) (by rw [same.verified]; exact id)

theorem SameReport.trans {s middle after : State} {events later : List Event}
    (first : SameReport s middle events) (second : SameReport middle after later) :
    SameReport s after (events ++ later) where
  session := second.session.trans first.session
  status := second.status.trans first.status
  closing := second.closing.trans first.closing
  counter := second.counter.trans first.counter
  now := le_trans first.now second.now
  log := by rw [second.log, first.log, List.append_assoc]
  silent event member := (List.mem_append.mp member).elim (first.silent event) (second.silent event)
  left sid gone := second.left sid (first.left sid gone)
  sequence sid := (second.sequence sid).trans (first.sequence sid)
  received sid := (second.received sid).trans (first.received sid)
  frames sid := (second.frames sid).trans (first.frames sid)
  verified sid := (second.verified sid).trans (first.verified sid)

/-- One session changes in fields no report is made of. -/
theorem SameReport.setSession {s : State} {sid : Nat} {session : Session}
    (left : (s.sessions sid).readAt.left → session.readAt.left)
    (sequence : session.receiveSequence = (s.sessions sid).receiveSequence)
    (received : session.receivedMonotonic = (s.sessions sid).receivedMonotonic)
    (frames : session.frames = (s.sessions sid).frames)
    (verified : session.verified = (s.sessions sid).verified) :
    SameReport s (s.setSession sid session) [] where
  log := by simp
  left other := by
    by_cases equal : other = sid
    · subst equal
      simpa using left
    · simp [equal]
  sequence := update_field Session.receiveSequence sequence
  received := update_field Session.receivedMonotonic received
  frames := update_field Session.frames frames
  verified := update_field Session.verified verified

theorem reports_unknown {s : State} {sid : Nat} (shape : Shape s) (unknown : ¬ s.knows sid) :
    reports sid s.log = [] := by
  refine List.filterMap_eq_nil_iff.mpr fun event member => ?_
  have foreign : event.session? ≠ some sid := fun belongs =>
    unknown (shape.eventSession event member sid belongs)
  cases event with
  | frame session raw frame status => cases status <;> simp_all [Event.session?]
  | _ => rfl

theorem Reporting.accept {config : Config} {s : State} (reporting : Reporting s) (shape : Shape s)
    (opened : s.closing = false) (free : s.session = none) :
    Reporting (s.openSession config config.allowedClient) := by
  unfold State.openSession
  have unknown : reports (s.sessionCounter + 1) s.log = [] :=
    reports_unknown shape (by simp [State.knows])
  constructor
  · intro _ sid known reads
    by_cases equal : sid = s.sessionCounter + 1
    · rw [equal]
    · have bounds := State.knows_iff.mp known
      have older : s.knows sid := State.knows_iff.mpr (by simp only at bounds; omega)
      have current := reporting.reading opened sid older (by simpa [equal] using reads)
      rw [free] at current
      cases current
  · intro _ sid current
    cases Option.some.inj current
    simp [unknown]
  · intro sid
    by_cases equal : sid = s.sessionCounter + 1
    · subst equal
      constructor <;> simp [unknown, Session.fresh]
    · exact (reporting.reported sid).keep (by simp) le_rfl (by simp [equal])
        (by simp [equal]) (by simp [equal]) (by simp [equal])

/-- The session whose reader has left is given up, or the client closes. -/
theorem Reporting.release {s : State} {sid : Nat} (reporting : Reporting s)
    (current : s.session = some sid) (left : s.closing ∨ (s.sessions sid).readAt = .closing) :
    Reporting (s.release sid) := by
  rw [State.release, if_pos current]
  constructor
  · intro opened other known reads
    have same := reporting.reading opened other known reads
    obtain rfl : sid = other := by simpa [current] using same
    rcases left with closing | gone
    · exact absurd closing (by simp at opened; simp [opened])
    · simp [gone, ReadAt.left] at reads
  · rintro opened other ⟨⟩
  · exact fun other => (reporting.reported other).keep (by simp) le_rfl rfl rfl id id

theorem Reporting.close {s after : State} (reporting : Reporting s) (events : List Event)
    (closing : after.closing) (log : after.log = s.log ++ events)
    (silent : ∀ event ∈ events, event.reportless) (sessions : after.sessions = s.sessions)
    (now : after.now = s.now) : Reporting after where
  reading opened := absurd closing (by simp [opened])
  latest opened := absurd closing (by simp [opened])
  reported sid := (reporting.reported sid).keep
    (by rw [log, reports_append, reports_reportless silent, List.append_nil]) (le_of_eq now.symm)
    (by rw [sessions]) (by rw [sessions]) (by rw [sessions]; exact id) (by rw [sessions]; exact id)

theorem Reporting.chunk {s : State} {sid : Nat} {chunk : Bytes} {frames : List (Bytes × Frame)}
    {parser : FrameStream} (reporting : Reporting s)
    (reading : (s.sessions sid).readAt = .reading) :
    Reporting (s.receiveChunk sid chunk frames parser) := by
  unfold State.receiveChunk
  constructor
  · intro opened other known reads
    by_cases equal : other = sid
    · subst equal
      exact reporting.reading opened other known (by simp [reading, ReadAt.left])
    · exact reporting.reading opened other known (by simpa [equal] using reads)
  · exact reporting.latest
  · intro other
    by_cases equal : other = sid
    · subst equal
      have reported := reporting.reported other
      refine ⟨reported.ordered, fun status member => ?_, by simp, by simpa using reported.verified,
        by simp⟩
      obtain ⟨home, positive, sequence, -⟩ := reported.bounded status member
      refine ⟨home, positive, ?_, ?_⟩
      · simp
        omega
      · simpa using reported.past member
    · exact (reporting.reported other).keep rfl le_rfl (by simp [equal]) (by simp [equal])
        (by simp [equal]) (by simp [equal])

/-- A frame that is no report leaves the loop's list. -/
theorem Reporting.skip {s : State} {sid : Nat} {raw : Bytes} {frame : Frame}
    {rest : List (Bytes × Frame)} (reporting : Reporting s)
    (next : (s.sessions sid).frames = (raw, frame) :: rest) :
    Reporting (s.takeFrame sid raw frame rest none) := by
  have log : ∀ other, reports other (s.takeFrame sid raw frame rest none).log =
      reports other s.log := fun other => by simp [State.takeFrame]
  constructor
  · intro opened other known reads
    refine reporting.reading opened other known ?_
    rw [← reads]
    exact congrArg ReadAt.left (update_field Session.readAt (by rfl) other).symm
  · intro opened other current
    rw [log]
    exact reporting.latest opened other current
  · intro other
    refine (reporting.reported other).keep (log other) le_rfl
      (update_field Session.receiveSequence (by rfl) other)
      (update_field Session.receivedMonotonic (by rfl) other) ?_ ?_
    · by_cases equal : other = sid
      · subst equal
        simp [next]
      · simp [State.takeFrame, equal]
    · by_cases equal : other = sid
      · subst equal
        simp [State.takeFrame]
      · simp [State.takeFrame, equal]

theorem Reporting.report {s : State} {sid : Nat} {raw : Bytes} {frame : Frame}
    {rest : List (Bytes × Frame)} {decoded : ObservedStatus} {status : DeviceStatus}
    (reporting : Reporting s) (known : s.knows sid)
    (handling : (s.sessions sid).readAt = .handling)
    (next : (s.sessions sid).frames = (raw, frame) :: rest)
    (built : status = s.deviceStatus sid frame decoded) :
    Reporting { s.takeFrame sid raw frame rest (some status) with status := some status } := by
  have reported := reporting.reported sid
  have begun := reported.begun (by simp [next])
  have fields : status.sessionId = sid ∧
      status.receiveSequence = (s.sessions sid).receiveSequence ∧
      status.receivedMonotonic = (s.sessions sid).receivedMonotonic := by
    rw [built]
    exact ⟨rfl, rfl, rfl⟩
  constructor
  · intro opened other known reads
    refine reporting.reading opened other known ?_
    rw [← reads]
    exact congrArg ReadAt.left (update_field Session.readAt (by rfl) other).symm
  · intro opened other current
    have same := reporting.reading opened sid known (by simp [handling, ReadAt.left])
    obtain rfl : sid = other := Option.some.inj (same.symm.trans current)
    simp [State.takeFrame]
  · intro other
    by_cases equal : other = sid
    · subst equal
      have log : reports other (s.log ++ [.frame other raw frame (some status)]) =
          reports other s.log ++ [status] := by simp
      constructor
      · simp only [State.takeFrame, State.setSession, State.emit]
        rw [log, List.pairwise_append]
        refine ⟨reported.ordered, List.pairwise_singleton .., fun earlier member later fresh => ?_⟩
        obtain rfl := List.mem_singleton.mp fresh
        obtain ⟨-, -, sequence, received⟩ := reported.bounded earlier member
        exact ⟨by rw [fields.2.1]; exact sequence, by rw [fields.2.2]; exact received⟩
      · simp only [State.takeFrame, State.setSession, State.emit, Function.update_self]
        rw [log]
        intro shown member
        rcases List.mem_append.mp member with old | fresh
        · exact reported.bounded shown old
        · obtain rfl := List.mem_singleton.mp fresh
          exact ⟨fields.1, by rw [fields.2.1]; exact begun, le_of_eq fields.2.1,
            le_of_eq fields.2.2⟩
      · simpa [State.takeFrame] using fun _ => begun
      · simp [State.takeFrame]
      · simpa [State.takeFrame] using reported.clocked
    · refine (reporting.reported other).keep ?_ le_rfl (by simp [State.takeFrame, equal])
        (by simp [State.takeFrame, equal]) (by simp [State.takeFrame, equal])
        (by simp [State.takeFrame, equal])
      simp [State.takeFrame, Ne.symm equal]

theorem SameReport.settle (s : State) (c : Nat) (outcome : Outcome) :
    SameReport s (s.settle c outcome) [.settled c outcome] := by
  have reads : ∀ sid, (s.settle c outcome).sessions sid = { s.sessions sid with
      pending := ((s.settle c outcome).sessions sid).pending } := by
    intro sid
    simp only [State.settle]
    split
    · by_cases equal : sid = (s.calls c).session
      · subst equal
        simp
      · simp [equal]
    · rfl
  exact {
    left := fun sid => by rw [reads]; exact id
    sequence := fun sid => by rw [reads]
    received := fun sid => by rw [reads]
    frames := fun sid => by rw [reads]
    verified := fun sid => by rw [reads] }

/-- What an effect does to the reports. -/
inductive Reportage (config : Config) (s : State) : State → Prop where
  | same {after : State} (events : List Event) (kept : SameReport s after events) :
      Reportage config s after
  | accept (idle : s.closing = false) (free : s.session = none) :
      Reportage config s (s.openSession config config.allowedClient)
  | release {sid : Nat} (current : s.session = some sid)
      (left : s.closing ∨ (s.sessions sid).readAt = .closing) : Reportage config s (s.release sid)
  | close {after : State} (events : List Event) (closing : after.closing)
      (log : after.log = s.log ++ events) (silent : ∀ event ∈ events, event.reportless)
      (sessions : after.sessions = s.sessions) (now : after.now = s.now) : Reportage config s after
  | chunk {sid : Nat} {chunk : Bytes} {frames : List (Bytes × Frame)} {parser : FrameStream}
      (reading : (s.sessions sid).readAt = .reading) :
      Reportage config s (s.receiveChunk sid chunk frames parser)
  | skip {sid : Nat} {raw : Bytes} {frame : Frame} {rest : List (Bytes × Frame)}
      (next : (s.sessions sid).frames = (raw, frame) :: rest) :
      Reportage config s (s.takeFrame sid raw frame rest none)
  | report {after : State} {sid : Nat} {raw : Bytes} {frame : Frame} {rest : List (Bytes × Frame)}
      {decoded : ObservedStatus} {status : DeviceStatus} (known : s.knows sid)
      (handling : (s.sessions sid).readAt = .handling)
      (next : (s.sessions sid).frames = (raw, frame) :: rest)
      (built : status = s.deviceStatus sid frame decoded)
      (kept : SameReport { s.takeFrame sid raw frame rest (some status) with status := some status }
        after []) : Reportage config s after

theorem Effect.reportage {config : Config} {overflow : Prop} {s after : State}
    (effect : Effect config overflow s after) : Reportage config s after := by
  cases effect with
  | @clock now wall forward epoch => exact .same [] { now := forward, log := by simp }
  | accept idle free => exact .accept idle free
  | @feed sid bytes known opened =>
    have fed : SameReport s (s.setSession sid { s.sessions sid with
        buffer := (s.sessions sid).buffer ++ bytes
        totalReceived := (s.sessions sid).totalReceived + bytes.length }) [] :=
      .setSession id rfl rfl rfl rfl
    exact .same _ (fed.trans { log := by rfl } : SameReport s _ ([] ++ [.fed sid bytes]))
  | note sid eof readError reason cancelling => exact .same _ (.setSession id rfl rfl rfl rfl)
  | @closeWriter sid known =>
    have closed : SameReport s (s.setSession sid { s.sessions sid with isClosing := true }) [] :=
      .setSession id rfl rfl rfl rfl
    exact .same _ (closed.trans { log := by rfl } : SameReport s _ ([] ++ [.writerClosing sid]))
  | release current left => exact .release current left
  | @fail sid gone left =>
    rcases s.failPending_cases sid with same | ⟨c, pending, error, -, -, -, -, same⟩
    · rw [same]; exact .same [] { log := by simp }
    · rw [same]; exact .same [] { log := by simp [State.setFuture] }
  | skip known handling next => exact .skip next
  | @report sid raw frame rest decoded status known handling next isReport decodes built =>
    refine .report known handling next built ?_
    rcases State.confirm_cases _ sid frame (s.sessions sid).offset status with
      same | ⟨c, pending, -, -, -, -, -, -, -, -, same⟩
    · rw [same]; exact { log := by simp }
    · rw [same]; exact { log := by simp [State.setFuture] }
  | readAt begun move => exact .same _ (.setSession move.left rfl rfl rfl rfl)
  | chunk known reading taken nonempty fed => exact .chunk reading
  | @reply after sid phase sent =>
    obtain ⟨-, -, -, -, -, -, raw, -, rfl⟩ := State.sendTurn_sent sent
    have written : SameReport s (s.write sid 1 [0] (.reader sid) raw) [_] := {}
    have answered : SameReport (s.write sid 1 [0] (.reader sid) raw)
        ((s.write sid 1 [0] (.reader sid) raw).setReadAt sid .heartbeatDrain) [] :=
      .setSession (by simp [phase, ReadAt.left]) rfl rfl rfl rfl
    exact .same _ ((written.trans answered).trans { log := by simp } : SameReport s _ (_ ++ [] ++ []))
  | unlock => exact .same [] { log := by simp }
  | put entry room origin => exact .same [.enqueued entry] {}
  | discardQueued =>
    refine .same _ { log := by rfl, silent := ?_ }
    simp only [List.mem_map]
    rintro event ⟨entry, -, rfl⟩
    rfl
  | drop entry => exact .same [.discarded entry] {}
  | @dispatch entry rest next free => exact .same [.dispatched entry] {}
  | idle => exact .same [] { log := by simp }
  | stop => exact .same [] { log := by simp }
  | refuse rejected => exact .same [_, _] {}
  | call parsed current connected => exact .same [_] {}
  | popReader next => exact .same [] { log := by simp }
  | popCommand next => exact .same [] { log := by simp }
  | @skipCommand c rest next asked =>
    have popped : SameReport s { s with spawned := rest } [] := { log := by simp }
    exact .same _ (popped.trans (.settle _ c .cancelled))
  | popCleanup next => exact .same [] { log := by simp }
  | move move => exact .same [] { log := by simp }
  | @register c phase free current =>
    have begun : SameReport s ({ s with commandLock := some c }.setCall c { s.calls c with
        pending := some {
          opcode := (s.calls c).command.opcode, expected := (s.calls c).command.expected
          allowStale := (s.calls c).command.allowStale }
        execute := .sendLock }) [] := { log := by simp }
    exact .same _ (begun.trans (.setSession id rfl rfl rfl rfl))
  | @transmit after c phase sent =>
    obtain ⟨-, -, -, -, -, -, raw, -, rfl⟩ := State.sendTurn_sent sent
    refine .same [_] { log := by rfl, session := ?_, status := ?_, closing := ?_, counter := ?_
                       now := ?_, left := ?_, sequence := ?_, received := ?_, frames := ?_
                       verified := ?_ }
    all_goals simp only [State.write]; split <;> simp
  | @settle c outcome how => exact .same _ (.settle s c outcome)
  | @cancel c live cause => exact .same [.cancelRequested c] {}
  | @interrupt c waiting => exact .same [.callerCancelled c] {}
  | drain waiting interrupted => exact .same [] { log := by simp }
  | @finish c last outcome waiting done result => exact .same [.ended c outcome] {}
  | close opened => exact .close [.closing] rfl rfl (by simp) rfl rfl
  | finishCleanup gathering => exact .same [] { log := by simp }
  | forget closing => exact .close [.cleaned] closing rfl (by simp) rfl rfl

theorem Effect.reporting {config : Config} {overflow : Prop} {s after : State}
    (effect : Effect config overflow s after) (shape : Shape s) (reporting : Reporting s) :
    Reporting after := by
  cases effect.reportage with
  | same events kept => exact reporting.keep events kept
  | accept idle free => exact reporting.accept shape idle free
  | release current left => exact reporting.release current left
  | close events closing log silent sessions now =>
    exact reporting.close events closing log silent sessions now
  | chunk reading => exact reporting.chunk reading
  | skip next => exact reporting.skip next
  | report known handling next built kept =>
    exact (reporting.report known handling next built).keep _ kept

/-- The reports of one read carry one time. -/
structure Stamped (s : State) (sid : Nat) : Prop where
  alike : ∀ first ∈ reports sid s.log, ∀ second ∈ reports sid s.log,
    first.receiveSequence = second.receiveSequence → first.receivedMonotonic = second.receivedMonotonic
  current : ∀ status ∈ reports sid s.log, status.receiveSequence = (s.sessions sid).receiveSequence →
    status.receivedMonotonic = (s.sessions sid).receivedMonotonic

theorem Stamped.keep {s after : State} {sid : Nat} (stamped : Stamped s sid)
    (log : reports sid after.log = reports sid s.log)
    (sequence : (after.sessions sid).receiveSequence = (s.sessions sid).receiveSequence)
    (received : (after.sessions sid).receivedMonotonic = (s.sessions sid).receivedMonotonic) :
    Stamped after sid := by
  constructor
  · rw [log]
    exact stamped.alike
  · rw [log, sequence, received]
    exact stamped.current

theorem SameReport.reports {s after : State} {events : List Event} (same : SameReport s after events)
    (sid : Nat) : Local.reports sid after.log = Local.reports sid s.log := by
  rw [same.log, reports_append, reports_reportless same.silent, List.append_nil]

theorem Stamped.report {s : State} {sid : Nat} {raw : Bytes} {frame : Frame}
    {rest : List (Bytes × Frame)} {status : DeviceStatus} (stamped : Stamped s sid)
    (sequence : status.receiveSequence = (s.sessions sid).receiveSequence)
    (received : status.receivedMonotonic = (s.sessions sid).receivedMonotonic) :
    Stamped { s.takeFrame sid raw frame rest (some status) with status := some status } sid := by
  have log : reports sid (s.log ++ [.frame sid raw frame (some status)]) =
      reports sid s.log ++ [status] := by simp
  constructor
  · simp only [State.takeFrame, State.setSession, State.emit]
    rw [log]
    intro first member second member' same
    rcases List.mem_append.mp member with old | new
    · rcases List.mem_append.mp member' with old' | new'
      · exact stamped.alike first old second old' same
      · obtain rfl := List.mem_singleton.mp new'
        rw [received]
        exact stamped.current first old (same.trans sequence)
    · obtain rfl := List.mem_singleton.mp new
      rcases List.mem_append.mp member' with old' | new'
      · rw [received]
        exact (stamped.current second old' (same.symm.trans sequence)).symm
      · obtain rfl := List.mem_singleton.mp new'
        rfl
  · simp only [State.takeFrame, State.setSession, State.emit, Function.update_self]
    rw [log]
    intro shown member same
    rcases List.mem_append.mp member with old | new
    · exact stamped.current shown old same
    · obtain rfl := List.mem_singleton.mp new
      exact received

theorem Effect.stamped {config : Config} {overflow : Prop} {s after : State} {sid : Nat}
    (effect : Effect config overflow s after) (shape : Shape s) (reporting : Reporting s)
    (stamped : Stamped s sid) : Stamped after sid := by
  cases effect.reportage with
  | same events kept => exact stamped.keep (kept.reports sid) (kept.sequence sid) (kept.received sid)
  | accept idle free =>
    by_cases equal : sid = s.sessionCounter + 1
    · subst equal
      have unknown : reports (s.sessionCounter + 1) s.log = [] :=
        reports_unknown shape (by simp [State.knows])
      constructor <;> simp [State.openSession, unknown]
    · exact stamped.keep (by simp [State.openSession]) (by simp [State.openSession, equal])
        (by simp [State.openSession, equal])
  | release current left =>
    rw [State.release, if_pos current]
    exact stamped.keep (by simp) rfl rfl
  | close events closing log silent sessions now =>
    apply stamped.keep
    · rw [log, reports_append, reports_reportless silent, List.append_nil]
    · rw [sessions]
    · rw [sessions]
  | @chunk other chunk frames parser reading =>
    by_cases equal : sid = other
    · subst equal
      refine ⟨stamped.alike, fun status member same => ?_⟩
      have bounded := ((reporting.reported sid).bounded status member).2.2.1
      simp [State.receiveChunk] at same
      omega
    · exact stamped.keep rfl (by simp [State.receiveChunk, equal]) (by simp [State.receiveChunk, equal])
  | @skip other raw frame rest next =>
    exact stamped.keep (by simp [State.takeFrame]) (update_field Session.receiveSequence (by rfl) sid)
      (update_field Session.receivedMonotonic (by rfl) sid)
  | @report after other raw frame rest decoded status known handling next built kept =>
    apply Stamped.keep ?_ (kept.reports sid) (kept.sequence sid) (kept.received sid)
    by_cases equal : sid = other
    · subst equal
      exact stamped.report (by rw [built]; rfl) (by rw [built]; rfl)
    · exact stamped.keep (by simp [State.takeFrame, Ne.symm equal]) (by simp [State.takeFrame, equal])
        (by simp [State.takeFrame, equal])

/-- A report of a later read carries no earlier time. -/
theorem Stamped.monotonic {s : State} {sid : Nat} {first second : DeviceStatus} (stamped : Stamped s sid)
    (reported : Reported s sid) (member : first ∈ reports sid s.log) (member' : second ∈ reports sid s.log)
    (sequence : first.receiveSequence ≤ second.receiveSequence) :
    first.receivedMonotonic ≤ second.receivedMonotonic := by
  by_cases same : first.receiveSequence = second.receiveSequence
  · exact le_of_eq (stamped.alike first member second member' same)
  · have ordered := reported.ordered
    obtain ⟨past, future, split⟩ := List.append_of_mem member
    rw [split] at ordered member'
    obtain ⟨-, after, before⟩ := List.pairwise_append.mp ordered
    rcases List.mem_append.mp member' with old | later
    · have overtaken := (before second old first (List.mem_cons_self ..)).1
      exact absurd (Nat.le_antisymm sequence overtaken) same
    · rcases List.mem_cons.mp later with rfl | later
      · exact absurd rfl same
      · exact ((List.pairwise_cons.mp after).1 second later).2

/-- The reports whose callback is still to come. -/
def awaiting (s : State) (sid : Nat) : List DeviceStatus :=
  notified sid (s.dispatching.toList ++ s.callbacks)

/-- What was seen of each session and what is awaiting lies among its reports in order,
and before a report that was decoded just now. -/
structure InOrder (seen : Nat → List DeviceStatus) (s : State) : Prop where
  among : ∀ sid, List.Sublist (seen sid ++ awaiting s sid) (reports sid s.log)
  before : ∀ past sid raw frame status, s.log = past ++ [.frame sid raw frame (some status)] →
    List.Sublist (seen sid ++ awaiting s sid) (reports sid past)

theorem InOrder.keep {seen : Nat → List DeviceStatus} {s after : State} (inOrder : InOrder seen s)
    (events : List Event) (log : after.log = s.log ++ events)
    (silent : ∀ event ∈ events, event.reportless)
    (fewer : ∀ sid, List.Sublist (awaiting after sid) (awaiting s sid)) : InOrder seen after := by
  constructor
  · intro sid
    rw [log, reports_append, reports_reportless silent, List.append_nil]
    exact ((fewer sid).append_left _).trans (inOrder.among sid)
  · intro past sid raw frame status split
    rw [log] at split
    rcases List.eq_nil_or_concat events with rfl | ⟨rest, last, rfl⟩
    · rw [List.append_nil] at split
      exact ((fewer sid).append_left _).trans (inOrder.before past sid raw frame status split)
    · rw [List.concat_eq_append, ← List.append_assoc] at split
      obtain ⟨-, same⟩ := List.append_inj' split rfl
      have none := silent last (by simp)
      rw [List.cons.inj same |>.1] at none
      cases none

/-- The notifications stay as they are. -/
theorem InOrder.aside {seen : Nat → List DeviceStatus} {s after : State} (inOrder : InOrder seen s)
    (events : List Event) (log : after.log = s.log ++ events)
    (silent : ∀ event ∈ events, event.reportless) (callbacks : after.callbacks = s.callbacks)
    (dispatching : after.dispatching = s.dispatching) : InOrder seen after :=
  inOrder.keep events log silent fun sid => by rw [awaiting, awaiting, callbacks, dispatching]

/-- A report was decoded; its notification is not queued yet. -/
theorem InOrder.report {seen : Nat → List DeviceStatus} {s after : State} {sid : Nat} {raw : Bytes}
    {frame : Frame} {status : DeviceStatus} (inOrder : InOrder seen s)
    (log : after.log = s.log ++ [.frame sid raw frame (some status)])
    (callbacks : after.callbacks = s.callbacks) (dispatching : after.dispatching = s.dispatching) :
    InOrder seen after := by
  have same : awaiting after = awaiting s := by
    funext other
    rw [awaiting, awaiting, callbacks, dispatching]
  constructor
  · intro other
    rw [log, reports_append, same]
    exact (inOrder.among other).trans (List.sublist_append_left ..)
  · intro past other raw' frame' status' split
    rw [log] at split
    obtain ⟨rfl, -⟩ := List.append_inj' split rfl
    rw [same]
    exact inOrder.among other

/-- A notification is queued behind those that are awaiting. -/
theorem InOrder.put {seen : Nat → List DeviceStatus} {s : State} {entry : Callback}
    (inOrder : InOrder seen s) (origin : entry.follows s.log) : InOrder seen (s.putCallback entry) := by
  have grows : ∀ sid, awaiting (s.putCallback entry) sid =
      awaiting s sid ++ (entry.reportOn sid).toList := by
    intro sid
    rw [awaiting, awaiting, State.putCallback, ← List.append_assoc, notified_append]
    rfl
  constructor
  · intro sid
    rw [grows, ← List.append_assoc]
    have log : reports sid (s.putCallback entry).log = reports sid s.log := by
      simp [State.putCallback]
    rw [log]
    cases shown : entry.reportOn sid with
    | none => simpa using inOrder.among sid
    | some status =>
      have parts : entry.notice = .status status ∧ entry.session = sid := by
        simp only [Callback.reportOn] at shown
        split at shown
        · rename_i notice
          split at shown
          · cases shown
            exact ⟨notice, ‹_›⟩
          · cases shown
        · cases shown
      obtain ⟨past, raw, frame, split⟩ := origin status parts.1
      rw [parts.2] at split
      have behind := inOrder.before past sid raw frame status split
      rw [split, reports_append]
      simpa using behind.append (List.Sublist.refl [status])
  · intro past sid raw frame status split
    obtain ⟨-, same⟩ := List.append_inj' split rfl
    cases same

theorem Effect.inOrder {config : Config} {overflow : Prop} {seen : Nat → List DeviceStatus}
    {s after : State} (effect : Effect config overflow s after) (inOrder : InOrder seen s) :
    InOrder seen after := by
  cases effect with
  | clock forward epoch => exact inOrder.aside [] (by simp) (by simp) rfl rfl
  | accept idle free =>
    unfold State.openSession
    exact inOrder.aside [_] rfl (by simp) rfl rfl
  | feed known opened => exact inOrder.aside [_] rfl (by simp) rfl rfl
  | note sid eof readError reason cancelling => exact inOrder.aside [] (by simp) (by simp) rfl rfl
  | closeWriter known => exact inOrder.aside [_] rfl (by simp) rfl rfl
  | release current left =>
    rw [State.release, if_pos current]
    exact inOrder.aside [_] rfl (by simp) rfl rfl
  | @fail sid gone left =>
    rcases s.failPending_cases sid with same | ⟨c, pending, error, -, -, -, -, same⟩
    · rw [same]; exact inOrder
    · rw [same]; exact inOrder.aside [] (by simp [State.setFuture]) (by simp) rfl rfl
  | skip known handling next => exact inOrder.aside [_] rfl (by simp) rfl rfl
  | @report sid raw frame rest decoded status known handling next isReport decodes built =>
    rcases State.confirm_cases _ sid frame (s.sessions sid).offset status with
      same | ⟨c, pending, -, -, -, -, -, -, -, -, same⟩
    · rw [same]; exact inOrder.report rfl rfl rfl
    · rw [same]; exact inOrder.report rfl rfl rfl
  | readAt begun move => exact inOrder.aside [] (by simp [State.setReadAt]) (by simp) rfl rfl
  | chunk known reading taken nonempty fed =>
    exact inOrder.aside [] (by simp [State.receiveChunk]) (by simp) rfl rfl
  | reply phase sent =>
    obtain ⟨-, -, -, -, -, -, raw, -, rfl⟩ := State.sendTurn_sent sent
    exact inOrder.aside [_] rfl (by simp) rfl rfl
  | unlock => exact inOrder.aside [] (by simp) (by simp) rfl rfl
  | put entry room origin => exact inOrder.put origin
  | discardQueued =>
    refine inOrder.keep _ rfl ?_ fun sid => ?_
    · simp only [List.mem_map]
      rintro event ⟨entry, -, rfl⟩
      rfl
    · rw [awaiting, awaiting, notified_append, notified_append]
      refine List.Sublist.append_left ?_ _
      exact List.Sublist.filterMap _ ((List.drop_sublist ..).trans List.filter_sublist)
  | drop entry => exact inOrder.aside [_] rfl (by simp) rfl rfl
  | @dispatch entry rest next free =>
    refine inOrder.keep [.dispatched entry] rfl (by simp) fun sid => ?_
    rw [awaiting, awaiting, free, next]
    exact List.Sublist.refl _
  | idle =>
    refine inOrder.keep [] (by simp) (by simp) fun sid => ?_
    exact List.Sublist.filterMap _ (List.sublist_append_right ..)
  | stop => exact inOrder.aside [] (by simp) (by simp) rfl rfl
  | refuse rejected => exact inOrder.aside [_, _] rfl (by simp) rfl rfl
  | call parsed current connected => exact inOrder.aside [_] rfl (by simp) rfl rfl
  | popReader next => exact inOrder.aside [] (by simp) (by simp) rfl rfl
  | popCommand next => exact inOrder.aside [] (by simp) (by simp) rfl rfl
  | skipCommand next asked => exact inOrder.aside [_] rfl (by simp) rfl rfl
  | popCleanup next => exact inOrder.aside [] (by simp) (by simp) rfl rfl
  | move move => exact inOrder.aside [] (by simp) (by simp) rfl rfl
  | register phase free current => exact inOrder.aside [] (by simp [State.register]) (by simp) rfl rfl
  | transmit phase sent =>
    obtain ⟨-, -, -, -, -, -, raw, -, rfl⟩ := State.sendTurn_sent sent
    refine inOrder.aside [_] rfl (by simp) ?_ ?_
    all_goals simp only [State.write]; split <;> rfl
  | settle how => exact inOrder.aside [_] rfl (by simp) rfl rfl
  | cancel live cause => exact inOrder.aside [_] rfl (by simp) rfl rfl
  | interrupt waiting => exact inOrder.aside [_] rfl (by simp) rfl rfl
  | drain waiting interrupted => exact inOrder.aside [] (by simp) (by simp) rfl rfl
  | finish waiting done result => exact inOrder.aside [_] rfl (by simp) rfl rfl
  | close opened => exact inOrder.aside [_] rfl (by simp) rfl rfl
  | finishCleanup gathering => exact inOrder.aside [] (by simp) (by simp) rfl rfl
  | forget closing => exact inOrder.aside [_] rfl (by simp) rfl rfl

end AlorairLite.Local
