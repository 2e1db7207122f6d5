import AlorairLite.Local.Outcome

/-! Which report answers a command: the first one that shows what was asked for and
of which no byte had been delivered when the command was written. -/

namespace AlorairLite.Local

open State

/-- The opcode of the reports that can answer a request. -/
def Request.opcode : Request → Int
  | .setPower _ => 0x21
  | .setTemperatureUnit _ => 0x24
  | .setHumidity _ _ => 0x23

/-- The status shows what was asked for. -/
def Request.met (status : DeviceStatus) : Request → Prop
  | .setPower on => status.power = some on
  | .setTemperatureUnit unit => status.temperatureUnit = unit
  | .setHumidity target _ => status.targetHumidity = some target

theorem Request.command_met {request : Request} {command : Command} (status : DeviceStatus)
    (parsed : request.command = .ok command) :
    command.opcode = request.opcode ∧
      (status.reading command.opcode = command.expected ↔ request.met status) := by
  cases request with
  | setPower on =>
    cases parsed
    exact ⟨rfl, by simp [DeviceStatus.reading, Request.met]⟩
  | setTemperatureUnit unit =>
    cases parsed
    exact ⟨rfl, by simp [DeviceStatus.reading, Request.met]⟩
  | setHumidity target allowStale =>
    simp only [Request.command] at parsed
    split at parsed
    · cases parsed
    · cases parsed
      exact ⟨rfl, by simp [DeviceStatus.reading, Request.met]⟩

/-- A report at the end of this history answers the call: it shows what the call
asked for, and the frame of the call was written on the same session when fewer bytes
had been delivered than lie before the report. -/
structure Answers (c : Nat) (past : List Event) (sid : Nat) (frame : Frame)
    (status : DeviceStatus) : Prop where
  asked : ∃ request session, .called c request session ∈ past ∧
    frame.opcode = request.opcode ∧ request.met status
  written : ∃ before write between, past = before ++ .wrote write :: between ∧
    write.call = some c ∧ write.session = sid ∧
    (fedBytes sid before).length ≤ (framedBytes sid past).length

def Event.answers (c : Nat) (past : List Event) : Event → Prop
  | .frame sid _ content (some status) => Answers c past sid content status
  | _ => False

theorem Answers.wrote {c sid : Nat} {past : List Event} {frame : Frame} {status : DeviceStatus}
    (answers : Answers c past sid frame status) : Wrote past c := by
  obtain ⟨before, write, between, rfl, call, -, -⟩ := answers.written
  exact ⟨write, by simp, call⟩

theorem Event.answers_wrote {c : Nat} {past : List Event} {event : Event}
    (answers : event.answers c past) : Wrote past c := by
  cases event with
  | frame sid raw content status =>
    cases status with
    | none => exact answers.elim
    | some status => exact Answers.wrote answers
  | _ => exact answers.elim

/-- The record of a call measures the bytes delivered when its frame was written. -/
def Call.measures (call : Call) (c : Nat) (past : List Event) (event : Event) : Prop :=
  ∀ write, event = .wrote write → write.call = some c → write.session = call.session ∧
    ∃ record, call.pending = some record ∧ record.queued ∧
      record.byteBoundary = (fedBytes write.session past).length

/-- How the record of a call stands to the reports so far. -/
structure Answered (s : State) (c : Nat) : Prop where
  sent : Async.Every ((s.calls c).measures c) s.log
  marked : ∀ record, (s.calls c).pending = some record → record.queued →
    record.receiveSequence ≤ (s.sessions (s.calls c).session).receiveSequence ∧
      (record.receiveSequence = (s.sessions (s.calls c).session).receiveSequence →
        (s.sessions (s.calls c).session).receivedBytes ≤ record.byteBoundary)
  found : ∀ record status, (s.calls c).pending = some record → record.future = .result status →
    ∃ past raw frame, Async.First (Event.answers c) s.log past
      (.frame (s.calls c).session raw frame (some status))
  missed : (∀ record, (s.calls c).pending = some record →
      ∀ status, record.future ≠ .result status) →
    Async.Every (fun past event => event.answers c past → ∃ outcome, .settled c outcome ∈ past)
      s.log
  lost : ∀ record error, (s.calls c).pending = some record → record.future = .exception error →
    (s.sessions (s.calls c).session).readAt.left
  told : ∀ record status outcome, (s.calls c).pending = some record →
    record.future = .result status → (s.calls c).execute = .done outcome →
    outcome = .returned status ∨ .cancelRequested c ∈ s.log
  settled : ∀ outcome, (s.calls c).pending.isSome → (s.calls c).execute = .done outcome →
    .settled c outcome ∈ s.log

/-- Events that are neither a report nor a frame of this call. -/
@[simp] def Event.unanswering (c : Nat) : Event → Prop
  | .frame _ _ _ status => status = none
  | .wrote write => write.call ≠ some c
  | _ => True

/-- An effect that leaves the record of this call and its session's reports alone. -/
structure SameAnswer (s after : State) (c : Nat) (events : List Event) : Prop where
  session : (after.calls c).session = (s.calls c).session := by rfl
  record : (after.calls c).pending = (s.calls c).pending := by rfl
  execute : (after.calls c).execute = (s.calls c).execute ∨
    ∀ outcome, (after.calls c).execute ≠ .done outcome := by exact .inl rfl
  log : after.log = s.log ++ events := by rfl
  silent : ∀ event ∈ events, event.unanswering c := by simp
  sequence : (after.sessions (s.calls c).session).receiveSequence =
    (s.sessions (s.calls c).session).receiveSequence := by rfl
  received : (after.sessions (s.calls c).session).receivedBytes =
    (s.sessions (s.calls c).session).receivedBytes := by rfl
  left : (s.sessions (s.calls c).session).readAt.left →
    (after.sessions (s.calls c).session).readAt.left := by exact id

theorem Event.unanswering_answers {c : Nat} {event : Event} (silent : event.unanswering c)
    (past : List Event) : ¬ event.answers c past := by
  cases event with
  | frame sid raw content status =>
    obtain rfl : status = none := silent
    exact id
  | _ => exact id

theorem Answered.sent_append {s : State} {c : Nat} (answered : Answered s c) (events : List Event)
    (silent : ∀ event ∈ events, event.unanswering c) :
    Async.Every ((s.calls c).measures c) (s.log ++ events) :=
  answered.sent.append_free fun _ member past write equal mine =>
    absurd mine (by simpa [equal] using silent _ member)

theorem Answered.keep {s after : State} {c : Nat} (answered : Answered s c) (events : List Event)
    (same : SameAnswer s after c events) : Answered after c := by
  have later : ∀ event ∈ s.log, event ∈ after.log := fun event member => by
    rw [same.log]
    exact List.mem_append_left _ member
  have done : ∀ outcome, (after.calls c).execute = .done outcome →
      (s.calls c).execute = .done outcome := by
    intro outcome held
    rcases same.execute with kept | live
    · exact kept.symm.trans held
    · exact absurd held (live outcome)
  constructor
  · rw [same.log]
    refine (answered.sent_append events same.silent).imp fun past event place => ?_
    simpa only [Call.measures, same.session, same.record] using place
  · rw [same.session, same.record, same.sequence, same.received]
    exact answered.marked
  · rw [same.session, same.record, same.log]
    intro record status recorded result
    obtain ⟨past, raw, frame, first⟩ := answered.found record status recorded result
    exact ⟨past, raw, frame, first.append events⟩
  · rw [same.record, same.log]
    intro unresolved
    exact (answered.missed unresolved).append_free fun event member past answers =>
      absurd answers (Event.unanswering_answers (same.silent event member) past)
  · rw [same.session, same.record]
    exact fun record error recorded failed => same.left (answered.lost record error recorded failed)
  · rw [same.record]
    intro record status outcome recorded result ended
    exact (answered.told record status outcome recorded result (done outcome ended)).imp_right
      (later _)
  · rw [same.record]
    exact fun outcome recorded ended => later _ (answered.settled outcome recorded (done outcome ended))

/-- The records of all calls. -/
def Answereds (s : State) : Prop := ∀ c, Answered s c

theorem Answereds.one {s after : State} (answereds : Answereds s) (c : Nat) (events : List Event)
    (others : ∀ d, d ≠ c → SameAnswer s after d events) (own : Answered after c) :
    Answereds after := by
  intro d
  by_cases equal : d = c
  · exact equal ▸ own
  · exact (answereds d).keep events (others d equal)

/-- Calls and sessions stay as they are. -/
theorem Answereds.aside {s after : State} (answereds : Answereds s) (events : List Event)
    (log : after.log = s.log ++ events) (silent : ∀ c, ∀ event ∈ events, event.unanswering c)
    (calls : after.calls = s.calls) (sessions : after.sessions = s.sessions) :
    Answereds after := fun c =>
  (answereds c).keep events
    { session := by rw [calls], record := by rw [calls], execute := .inl (by rw [calls])
      log, silent := silent c, sequence := by rw [sessions], received := by rw [sessions]
      left := by rw [sessions]; exact id }

/-- A session changes, not in what its reader has read. -/
theorem Answereds.session {s : State} {sid : Nat} {session : Session} (answereds : Answereds s)
    (sequence : session.receiveSequence = (s.sessions sid).receiveSequence)
    (received : session.receivedBytes = (s.sessions sid).receivedBytes)
    (left : (s.sessions sid).readAt.left → session.readAt.left) :
    Answereds (s.setSession sid session) := fun c =>
  (answereds c).keep []
    { log := by simp
      sequence := update_field Session.receiveSequence sequence _
      received := update_field Session.receivedBytes received _
      left := by
        by_cases equal : (s.calls c).session = sid
        · rw [equal]
          simpa using left
        · simp [equal] }

/-- A call changes in fields its record does not use. -/
theorem Answereds.call {s : State} {c : Nat} {call : Call} (answereds : Answereds s)
    (session : call.session = (s.calls c).session) (record : call.pending = (s.calls c).pending)
    (execute : call.execute = (s.calls c).execute ∨ ∀ outcome, call.execute ≠ .done outcome) :
    Answereds (s.setCall c call) := fun d =>
  (answereds d).keep []
    { session := update_field Call.session session d
      record := update_field Call.pending record d
      execute := by
        by_cases equal : d = c
        · subst equal
          simpa using execute
        · simp [equal]
      log := by simp }

/-- What the reader compares before it resolves the future of a command. -/
structure Confirms (s : State) (sid : Nat) (frame : Frame) (status : DeviceStatus) (c : Nat)
    (record : Pending) : Prop where
  attached : (s.sessions sid).pending = some c
  recorded : (s.calls c).pending = some record
  queued : record.queued
  waiting : record.future = .pending
  opcode : frame.opcode = record.opcode
  later : record.receiveSequence < (s.sessions sid).receiveSequence
  beyond : record.byteBoundary ≤ (s.sessions sid).offset
  equal : status.reading record.opcode = record.expected

/-- The state once a report is stored and the waiting command has seen it. -/
def State.report (s : State) (sid : Nat) (raw : Bytes) (frame : Frame) (rest : List (Bytes × Frame))
    (status : DeviceStatus) : State :=
  ({ s.takeFrame sid raw frame rest (some status) with status := some status } : State).confirm sid
    frame (s.sessions sid).offset status

/-- A report resolves the future of a command exactly when it confirms it. -/
theorem State.report_call (s : State) (sid : Nat) (raw : Bytes) (frame : Frame)
    (rest : List (Bytes × Frame)) (status : DeviceStatus) (c : Nat) :
    (∃ record, Confirms s sid frame status c record ∧ (s.report sid raw frame rest status).calls c =
      { s.calls c with pending := some { record with future := .result status } }) ∨
    (∀ record, ¬ Confirms s sid frame status c record) ∧
      (s.report sid raw frame rest status).calls c = s.calls c := by
  by_cases fires : ∃ d record, Confirms s sid frame status d record
  · obtain ⟨d, record, confirms⟩ := fires
    have resolved : (s.report sid raw frame rest status).calls = Function.update s.calls d
        { s.calls d with pending := some { record with future := .result status } } := by
      simp [State.report, State.confirm, State.takeFrame, State.setFuture, confirms.attached,
        confirms.recorded, confirms.queued, confirms.waiting, confirms.opcode, confirms.later,
        confirms.beyond, confirms.equal]
    by_cases same : c = d
    · subst same
      exact .inl ⟨record, confirms, by rw [resolved, Function.update_self]⟩
    · refine .inr ⟨fun other elsewhere => same ?_, by rw [resolved, Function.update_of_ne same]⟩
      have owner := elsewhere.attached
      rw [confirms.attached] at owner
      exact (Option.some.inj owner).symm
  · refine .inr ⟨fun record confirms => fires ⟨c, record, confirms⟩, ?_⟩
    rcases State.confirm_cases { s.takeFrame sid raw frame rest (some status) with
        status := some status } sid frame (s.sessions sid).offset status with
      same | ⟨d, record, attached, recorded, queued, waiting, opcode, later, beyond, equal, -⟩
    · rw [State.report, same]
      rfl
    · refine absurd ⟨d, record, ?_⟩ fires
      exact { attached := by simpa [State.takeFrame] using attached
              recorded, queued, waiting, opcode, beyond, equal
              later := by simpa [State.takeFrame] using later }

theorem State.report_frame (s : State) (sid : Nat) (raw : Bytes) (frame : Frame)
    (rest : List (Bytes × Frame)) (status : DeviceStatus) :
    (s.report sid raw frame rest status).log = s.log ++ [.frame sid raw frame (some status)] ∧
      (s.report sid raw frame rest status).sessions =
        (s.takeFrame sid raw frame rest (some status)).sessions := by
  rcases State.confirm_cases { s.takeFrame sid raw frame rest (some status) with
      status := some status } sid frame (s.sessions sid).offset status with
    same | ⟨d, record, -, -, -, -, -, -, -, -, same⟩
  · rw [State.report, same]
    exact ⟨rfl, rfl⟩
  · rw [State.report, same]
    exact ⟨rfl, rfl⟩

/-- A confirmed command is answered by the report, and was not answered before. -/
theorem Confirms.answers {config : Config} {limit : Prop} {s : State} {sid c : Nat} {frame : Frame}
    {status : DeviceStatus} {record : Pending} (confirms : Confirms s sid frame status c record)
    (coherent : Coherent config limit s) (answered : Answered s c) :
    (s.calls c).session = sid ∧ Answers c s.log sid frame status ∧
      Async.Every (fun past event => ¬ event.answers c past) s.log := by
  have task := coherent.tasks c
  obtain ⟨registered, target⟩ := task.attached sid confirms.attached
  obtain ⟨-, live⟩ := ExecuteAt.timed_live (ExecuteAt.registered_timed registered)
  obtain ⟨opcode, expected, -⟩ := task.record record confirms.recorded
  obtain ⟨request, called, parsed⟩ := coherent.request live
  obtain ⟨asked, met⟩ := request.command_met status parsed
  obtain ⟨write, member, call⟩ := task.wrote.mpr ⟨record, confirms.recorded, confirms.queued⟩
  obtain ⟨before, between, split, place⟩ := answered.sent.of_mem member
  obtain ⟨home, other, recorded, -, boundary⟩ := place write rfl call
  rw [confirms.recorded] at recorded
  cases recorded
  refine ⟨target, ⟨⟨request, _, called, ?_, met.mp ?_⟩,
    before, write, between, split, call, home.trans target, ?_⟩, ?_⟩
  · rw [confirms.opcode, opcode, asked]
  · rw [← opcode, confirms.equal, expected]
  · rw [← (coherent.streams sid).offset, ← target, ← home, ← boundary, home, target]
    exact confirms.beyond
  · intro past event future split' answers
    have unresolved : ∀ found, (s.calls c).pending = some found →
        ∀ status, found.future ≠ .result status := by
      intro found recorded shown
      rw [confirms.recorded] at recorded
      cases recorded
      simp [confirms.waiting]
    obtain ⟨outcome, settled⟩ := answered.missed unresolved past event future split' answers
    exact live outcome (task.settled outcome (by rw [split']; exact List.mem_append_left _ settled))

/-- An answer to a live command confirms it, unless it already has its result. -/
theorem Answers.confirms {config : Config} {limit : Prop} {s : State} {sid c : Nat} {raw : Bytes}
    {frame : Frame} {rest : List (Bytes × Frame)} {status : DeviceStatus}
    (answers : Answers c s.log sid frame status) (coherent : Coherent config limit s)
    (answered : Answered s c) (handling : (s.sessions sid).readAt = .handling)
    (next : (s.sessions sid).frames = (raw, frame) :: rest)
    (unsettled : ∀ outcome, .settled c outcome ∉ s.log)
    (unresolved : ∀ record, (s.calls c).pending = some record →
      ∀ status, record.future ≠ .result status) :
    ∃ record, Confirms s sid frame status c record := by
  have task := coherent.tasks c
  have stream := coherent.streams sid
  obtain ⟨before, write, between, split, call, home, early⟩ := answers.written
  obtain ⟨target, record, recorded, queued, boundary⟩ :=
    answered.sent before (.wrote write) between split write rfl call
  rw [home] at target boundary
  have live : ∀ outcome, (s.calls c).execute ≠ .done outcome := fun outcome done =>
    unsettled outcome (answered.settled outcome (by simp [recorded]) done)
  have registered : (s.calls c).execute.registered := by
    have agrees := task.phase
    cases phase : (s.calls c).execute with
    | created | commandLock => simp [phase, ExecuteAt.agrees, recorded] at agrees
    | done outcome => exact absurd phase (live outcome)
    | sendLock | pacing | draining | acknowledgement => rfl
  obtain ⟨-, attached⟩ := task.lock registered
  obtain ⟨opcode, expected, -⟩ := task.record record recorded
  obtain ⟨request, session, called, asked, met⟩ := answers.asked
  obtain ⟨other, called', parsed⟩ := coherent.request live
  obtain rfl := (coherent.callers c).once request session other _ called called'
  obtain ⟨same, shows⟩ := request.command_met status parsed
  have waiting : record.future = .pending := by
    have agrees := task.future record recorded
    cases resolved : record.future with
    | pending => rfl
    | result shown => exact absurd resolved (unresolved record recorded shown)
    | exception error =>
      have left := answered.lost record error recorded resolved
      simp [← target, handling, ReadAt.left] at left
    | cancelled =>
      simp only [FutureAgrees, resolved] at agrees
      obtain ⟨outcome, done⟩ := agrees
      exact absurd done (live outcome)
  have beyond : record.byteBoundary ≤ (s.sessions sid).offset := by
    rw [stream.offset, boundary]
    exact early
  refine ⟨record, target ▸ attached, recorded, queued, waiting, ?_, ?_, beyond, ?_⟩
  · rw [opcode, asked, same]
  · -- the report has bytes that were read after the command was written
    obtain ⟨bound, stuck⟩ := answered.marked record recorded queued
    rw [← target] at bound stuck
    refine Nat.lt_of_le_of_ne bound fun equal => ?_
    have read := stuck equal
    have long := Frame.decode_length (stream.decoded (raw, frame) (by simp [next]))
    have sizes := congrArg List.length stream.conserved
    have received := stream.received
    have offset := stream.offset
    have total := stream.total
    simp only [next, rawBytes_cons, List.length_append] at sizes
    simp only at long
    omega
  · rw [opcode, expected]
    exact shows.mpr met

/-- The session of a call after its reader took a frame out of its list. -/
private theorem takeFrame_reads (s : State) (sid : Nat) (raw : Bytes) (frame : Frame)
    (rest : List (Bytes × Frame)) (status : Option DeviceStatus) (other : Nat) :
    ((s.takeFrame sid raw frame rest status).sessions other).receiveSequence =
        (s.sessions other).receiveSequence ∧
      ((s.takeFrame sid raw frame rest status).sessions other).receivedBytes =
        (s.sessions other).receivedBytes ∧
      ((s.takeFrame sid raw frame rest status).sessions other).readAt = (s.sessions other).readAt :=
  ⟨update_field Session.receiveSequence (by rfl) other,
    update_field Session.receivedBytes (by rfl) other, update_field Session.readAt (by rfl) other⟩

theorem Answereds.report {config : Config} {limit : Prop} {s : State} {sid : Nat} {raw : Bytes}
    {frame : Frame} {rest : List (Bytes × Frame)} {status : DeviceStatus}
    (answereds : Answereds s) (coherent : Coherent config limit s)
    (handling : (s.sessions sid).readAt = .handling)
    (next : (s.sessions sid).frames = (raw, frame) :: rest) :
    Answereds (s.report sid raw frame rest status) := by
  intro c
  have answered := answereds c
  obtain ⟨log, sessions⟩ := s.report_frame sid raw frame rest status
  obtain ⟨sequence, received, reading⟩ := takeFrame_reads s sid raw frame rest (some status)
    (s.calls c).session
  have sent : Async.Every ((s.calls c).measures c) (s.log ++ [.frame sid raw frame (some status)]) :=
    answered.sent.append_singleton (by rintro write ⟨⟩)
  rcases s.report_call sid raw frame rest status c with ⟨record, confirms, own⟩ | ⟨missed, own⟩
  · obtain ⟨target, answers, before⟩ := confirms.answers coherent answered
    have live : ∀ outcome, (s.calls c).execute ≠ .done outcome :=
      (ExecuteAt.timed_live (ExecuteAt.registered_timed
        ((coherent.tasks c).attached sid confirms.attached).1)).2
    constructor
    · rw [own, log]
      refine sent.imp fun past event place write equal mine => ?_
      obtain ⟨home, other, recorded, queued, boundary⟩ := place write equal mine
      rw [confirms.recorded] at recorded
      cases recorded
      exact ⟨home, _, rfl, queued, boundary⟩
    · rw [own, sessions]
      intro other recorded queued
      cases recorded
      rw [sequence, received]
      exact answered.marked record confirms.recorded queued
    · rw [own, log]
      intro other shown recorded result
      cases recorded
      cases result
      exact ⟨s.log, raw, frame, ⟨[], by rw [target]⟩, target ▸ answers, before⟩
    · rw [own]
      exact fun unresolved => absurd rfl (unresolved _ rfl status)
    · rw [own]
      rintro other error recorded failed
      cases recorded
      cases failed
    · rw [own]
      exact fun _ _ outcome _ _ done => absurd done (live outcome)
    · rw [own]
      exact fun outcome _ done => absurd done (live outcome)
  · constructor
    · rw [own, log]
      exact sent
    · rw [own, sessions, sequence, received]
      exact answered.marked
    · rw [own, log]
      intro record shown recorded result
      obtain ⟨past, raw', frame', first⟩ := answered.found record shown recorded result
      exact ⟨past, raw', frame', first.append _⟩
    · rw [own, log]
      intro unresolved
      refine (answered.missed unresolved).append_singleton fun answers => ?_
      refine Classical.byContradiction fun unsettled => ?_
      obtain ⟨record, confirms⟩ := Answers.confirms answers coherent answered handling next
        (fun outcome member => unsettled ⟨outcome, member⟩) unresolved
      exact missed record confirms
    · rw [own, sessions, reading]
      exact answered.lost
    · rw [own, log]
      intro record shown outcome recorded result done
      exact (answered.told record shown outcome recorded result done).imp_right
        (List.mem_append_left _)
    · rw [own, log]
      exact fun outcome recorded done =>
        List.mem_append_left _ (answered.settled outcome recorded done)

/-- The connection of an unanswered command is gone. -/
theorem Answereds.fail {config : Config} {limit : Prop} {s : State} {sid c : Nat}
    {pending : Pending} {error : Error} (answereds : Answereds s)
    (coherent : Coherent config limit s) (attached : (s.sessions sid).pending = some c)
    (recorded : (s.calls c).pending = some pending) (waiting : pending.future = .pending)
    (left : (s.sessions sid).readAt = .closing) :
    Answereds (s.setFuture c pending (.exception error)) := by
  refine answereds.one c [] (fun d other => ?_) ?_
  · exact { session := by simp [State.setFuture, other], record := by simp [State.setFuture, other]
            execute := .inl (by simp [State.setFuture, other]), log := by simp [State.setFuture] }
  have answered := answereds c
  have target := ((coherent.tasks c).attached sid attached).2
  have live := (coherent.tasks c).waiting_live recorded waiting
  have unresolved : ∀ record, (s.calls c).pending = some record →
      ∀ status, record.future ≠ .result status := by
    intro record found status
    rw [recorded] at found
    cases found
    simp [waiting]
  constructor
  · refine answered.sent.imp fun past event place write equal mine => ?_
    obtain ⟨home, record, found, queued, boundary⟩ := place write equal mine
    rw [recorded] at found
    cases found
    exact ⟨by simpa [State.setFuture] using home, { pending with future := .exception error },
      by simp [State.setFuture], queued, boundary⟩
  · intro record found queued
    obtain rfl : { pending with future := .exception error } = record := by
      simpa [State.setFuture] using found
    simpa [State.setFuture] using answered.marked pending recorded queued
  · intro record status found result
    obtain rfl : { pending with future := .exception error } = record := by
      simpa [State.setFuture] using found
    cases result
  · exact fun _ => answered.missed unresolved
  · intro record failed found result
    simp [State.setFuture, target, left, ReadAt.left]
  · intro record status outcome found result done
    exact absurd (by simpa [State.setFuture] using done) (live outcome)
  · intro outcome found done
    exact absurd (by simpa [State.setFuture] using done) (live outcome)

theorem Answereds.chunk {s : State} {sid : Nat} {chunk : Bytes} {frames : List (Bytes × Frame)}
    {parser : FrameStream} (answereds : Answereds s)
    (reading : (s.sessions sid).readAt = .reading) :
    Answereds (s.receiveChunk sid chunk frames parser) := by
  intro c
  have answered := answereds c
  by_cases own : (s.calls c).session = sid
  · subst own
    constructor
    · simpa [State.receiveChunk] using answered.sent
    · intro record recorded queued
      obtain ⟨bound, -⟩ := answered.marked record recorded queued
      simp only [State.receiveChunk, State.setSession, Function.update_self]
      omega
    · simpa [State.receiveChunk] using answered.found
    · simpa [State.receiveChunk] using answered.missed
    · intro record error recorded failed
      have left := answered.lost record error recorded failed
      simp [reading, ReadAt.left] at left
    · simpa [State.receiveChunk] using answered.told
    · simpa [State.receiveChunk] using answered.settled
  · exact answered.keep []
      { log := by simp [State.receiveChunk], sequence := by simp [State.receiveChunk, own]
        received := by simp [State.receiveChunk, own], left := by simp [State.receiveChunk, own] }

/-- Nothing was written for a call without a queued frame, so nothing answers it. -/
theorem Answered.unwritten {s : State} {c : Nat} (silent : ¬ Wrote s.log c)
    (unresolved : ∀ record, (s.calls c).pending = some record →
      record.queued = false ∧ record.future = .pending)
    (live : (s.calls c).pending.isSome → ∀ outcome, (s.calls c).execute ≠ .done outcome) :
    Answered s c := by
  constructor
  · intro past event future split write equal mine
    subst equal
    exact absurd ⟨write, by simp [split], mine⟩ silent
  · intro record recorded queued
    simp [(unresolved record recorded).1] at queued
  · intro record status recorded result
    simp [(unresolved record recorded).2] at result
  · intro _ past event future split answers
    obtain ⟨write, member, mine⟩ := Event.answers_wrote answers
    exact absurd ⟨write, by rw [split]; exact List.mem_append_left _ member, mine⟩ silent
  · intro record error recorded failed
    simp [(unresolved record recorded).2] at failed
  · intro record status outcome recorded result
    simp [(unresolved record recorded).2] at result
  · exact fun outcome recorded done => absurd done (live recorded outcome)

theorem Answereds.register {config : Config} {limit : Prop} {s : State} {c : Nat}
    (answereds : Answereds s) (coherent : Coherent config limit s)
    (phase : (s.calls c).execute = .commandLock) :
    Answereds ({ s with commandLock := some c }.register c) := by
  refine answereds.one c [] (fun d other => ?_) (Answered.unwritten ?_ ?_ ?_)
  · have reads : ∀ sid, (({ s with commandLock := some c } : State).register c).sessions sid =
        { s.sessions sid with pending :=
          ((({ s with commandLock := some c } : State).register c).sessions sid).pending } := by
      intro sid
      by_cases equal : sid = (s.calls c).session
      · subst equal
        simp [State.register]
      · simp [State.register, equal]
    refine { session := by simp [State.register, other], record := by simp [State.register, other]
             execute := .inl (by simp [State.register, other]), log := by simp [State.register]
             sequence := by rw [reads], received := by rw [reads], left := by rw [reads]; exact id }
  · have unqueued := (coherent.tasks c).wrote.not.mpr fun queued => by
      have agrees := (coherent.tasks c).phase
      rw [phase] at agrees
      exact Call.unqueued agrees queued
    simpa [State.register] using unqueued
  · intro record found
    obtain rfl : _ = record := by simpa [State.register] using found
    exact ⟨rfl, rfl⟩
  · intro _ outcome
    simp [State.register]

theorem Answereds.transmit {config : Config} {limit : Prop} {s after : State} {c : Nat}
    {pending : Pending} {write : Write} (answereds : Answereds s) (coherent : Coherent config limit s)
    (sent : Transmits s after c pending write) (recorded : (s.calls c).pending = some pending)
    (phase : (s.calls c).execute = .sendLock) (current : s.session = some (s.calls c).session) :
    Answereds after := by
  refine answereds.one c [.wrote write] (fun d other => ?_) ?_
  · have same : after.calls d = s.calls d := by rw [sent.calls, Function.update_of_ne other]
    exact { session := by rw [same], record := by rw [same], execute := .inl (by rw [same])
            log := sent.log, silent := by simp [sent.call, Ne.symm other]
            sequence := by rw [sent.sessions], received := by rw [sent.sessions]
            left := by rw [sent.sessions]; exact id }
  have task := coherent.tasks c
  have stream := coherent.streams (s.calls c).session
  have own : after.calls c = { s.calls c with
      execute := .draining, pending := some (pending.sent s (s.calls c).session) } := by
    rw [sent.calls, Function.update_self]
  have unqueued : pending.queued = false := by
    have agrees := task.phase
    rw [phase] at agrees
    exact ExecuteAt.agrees_queued agrees (.inr rfl) pending recorded
  have waiting : pending.future = .pending := by
    have agrees := task.future pending recorded
    cases resolved : pending.future with
    | pending => rfl
    | result status => simp [FutureAgrees, resolved, unqueued] at agrees
    | exception error => simp [FutureAgrees, resolved, unqueued, current] at agrees
    | cancelled => simp [FutureAgrees, resolved, phase] at agrees
  have silent : ¬ Wrote s.log c := by
    rw [task.wrote]
    rintro ⟨other, found, queued⟩
    rw [recorded] at found
    cases found
    simp [unqueued] at queued
  have future : (pending.sent s (s.calls c).session).future = .pending := waiting
  constructor
  · rw [sent.log, own]
    refine Async.Every.append_singleton ?_ ?_
    · intro past event later split write' equal mine
      subst equal
      exact absurd ⟨write', by simp [split], mine⟩ silent
    · rintro write' equal mine
      cases equal
      exact ⟨sent.target, _, rfl, rfl, by rw [sent.target, ← stream.total]; rfl⟩
  · rw [own, sent.sessions]
    intro record found queued
    cases found
    have received := stream.received
    exact ⟨Nat.le_refl _, fun _ => by simp only [Pending.sent]; omega⟩
  · rw [own]
    intro record status found result
    cases found
    rw [future] at result
    cases result
  · rw [sent.log]
    intro _ past event later split answers
    obtain ⟨write', member, mine⟩ := Event.answers_wrote answers
    rcases Async.split_append_singleton split with ⟨rest, -, old⟩ | ⟨-, rfl, rfl⟩
    · exact absurd ⟨write', by rw [old]; exact List.mem_append_left _ member, mine⟩ silent
    · exact answers.elim
  · rw [own]
    intro record error found failed
    cases found
    rw [future] at failed
    cases failed
  · rw [own]
    rintro record status outcome found result ⟨⟩
  · rw [own]
    rintro outcome found ⟨⟩

theorem Answereds.settle {s : State} {c : Nat} {outcome : Outcome} (answereds : Answereds s)
    (truthful : ∀ record status, (s.calls c).pending = some record →
      record.future = .result status → outcome = .returned status ∨ .cancelRequested c ∈ s.log) :
    Answereds (s.settle c outcome) := by
  have reads : ∀ sid, (s.settle c outcome).sessions sid = { s.sessions sid with
      pending := ((s.settle c outcome).sessions sid).pending } := by
    intro sid
    simp only [State.settle]
    split
    · by_cases equal : sid = (s.calls c).session
      · subst equal
        simp
      · simp [equal]
    · rfl
  have log : (s.settle c outcome).log = s.log ++ [.settled c outcome] := rfl
  refine answereds.one c [.settled c outcome] (fun d other => ?_) ?_
  · exact { session := by simp [State.settle, other], record := by simp [State.settle, other]
            execute := .inl (by simp [State.settle, other])
            sequence := by rw [reads], received := by rw [reads], left := by rw [reads]; exact id }
  have answered := answereds c
  have own : (s.settle c outcome).calls c = { s.calls c with
      execute := .done outcome, cancelling := false
      pending := (s.calls c).pending.map Pending.abandon } := by
    simp [State.settle]
  have kept : ∀ record, (s.calls c).pending.map Pending.abandon = some record →
      ∃ before, (s.calls c).pending = some before ∧ record = before.abandon ∧
        ∀ status, record.future = .result status → before.future = .result status := by
    intro record found
    obtain ⟨before, recorded, rfl⟩ := Option.map_eq_some_iff.mp found
    refine ⟨before, recorded, rfl, fun status result => ?_⟩
    rw [Pending.abandon_future] at result
    split at result
    · cases result
    · exact result
  constructor
  · rw [own, log]
    refine (answered.sent_append [.settled c outcome] (by simp)).imp ?_
    intro past event place write equal mine
    obtain ⟨home, record, recorded, queued, boundary⟩ := place write equal mine
    exact ⟨home, record.abandon, by simp [recorded], by simpa using queued, by simpa using boundary⟩
  · rw [own, reads]
    intro record found queued
    obtain ⟨before, recorded, rfl, -⟩ := kept record found
    simpa using answered.marked before recorded (by simpa using queued)
  · rw [own, log]
    intro record status found result
    obtain ⟨before, recorded, -, shown⟩ := kept record found
    obtain ⟨past, raw, frame, first⟩ := answered.found before status recorded (shown status result)
    exact ⟨past, raw, frame, first.append _⟩
  · rw [own, log]
    intro unresolved
    refine (answered.missed fun record recorded status result => ?_).append_free ?_
    · refine unresolved record.abandon (by simp [recorded]) status ?_
      simp [Pending.abandon_future, result]
    · rintro event member past answers
      cases List.mem_singleton.mp member
      exact answers.elim
  · rw [own, reads]
    intro record error found failed
    obtain ⟨before, recorded, rfl, -⟩ := kept record found
    refine answered.lost before error recorded ?_
    rw [Pending.abandon_future] at failed
    split at failed
    · cases failed
    · exact failed
  · rw [own, log]
    rintro record status last found result ⟨⟩
    obtain ⟨before, recorded, -, shown⟩ := kept record found
    exact (truthful before status recorded (shown status result)).imp_right (List.mem_append_left _)
  · rw [log]
    rintro last - done
    rw [own] at done
    cases done
    simp

/-- A handler of `_execute_command` that finds a result returns it, unless the task
was cancelled. -/
theorem Settles.truthful {config : Config} {limit overflow : Prop} {s : State} {c : Nat}
    {outcome : Outcome} (how : Settles overflow s c outcome) (coherent : Coherent config limit s)
    {record : Pending} {status : DeviceStatus} (recorded : (s.calls c).pending = some record)
    (result : record.future = .result status) :
    outcome = .returned status ∨ .cancelRequested c ∈ s.log := by
  have task := coherent.tasks c
  have queued : record.queued := by
    have agrees := task.future record recorded
    simpa [FutureAgrees, result] using agrees
  have late : ∀ phase, (s.calls c).execute = phase →
      ¬ (phase = .commandLock ∨ phase = .sendLock) := by
    intro phase held early
    have agrees := task.phase
    rw [held] at agrees
    simp [ExecuteAt.agrees_queued agrees early record recorded] at queued
  cases how with
  | cancelled phase asked => exact .inr ((coherent.callers c).asked asked)
  | expired phase unasked => exact .inl (by simp [timeoutOutcome, recorded, result, futureOutcome])
  | refused unsent unasked phase => exact absurd phase (late _ rfl)
  | unencodable large phase unasked => exact absurd (.inr phase) (late _ rfl)
  | answered unasked phase found done =>
    rw [recorded] at found
    cases found
    simp only [result, futureOutcome, Option.some.injEq] at done
    exact .inl done.symm

/-- A call that has just begun. -/
theorem Answereds.fresh {s after : State} {events : List Event} {call : Call}
    (answereds : Answereds s) (shape : Shape s)
    (calls : after.calls = Function.update s.calls s.callCount call)
    (unrecorded : call.pending = none) (sessions : after.sessions = s.sessions)
    (log : after.log = s.log ++ events) (silent : ∀ c, ∀ event ∈ events, event.unanswering c) :
    Answereds after := by
  refine answereds.one s.callCount events (fun d other => ?_) (Answered.unwritten ?_ ?_ ?_)
  · have same : after.calls d = s.calls d := by rw [calls, Function.update_of_ne other]
    exact { session := by rw [same], record := by rw [same], execute := .inl (by rw [same])
            log, silent := silent d, sequence := by rw [sessions], received := by rw [sessions]
            left := by rw [sessions]; exact id }
  · rintro ⟨write, member, mine⟩
    rw [log] at member
    rcases List.mem_append.mp member with old | fresh
    · exact absurd (shape.eventCall _ old _ mine) (Nat.lt_irrefl _)
    · exact silent _ _ fresh mine
  · simp [calls, unrecorded]
  · simp [calls, unrecorded]

theorem Effect.answereds {config : Config} {limit overflow : Prop} {s after : State}
    (effect : Effect config overflow s after) (coherent : Coherent config limit s)
    (answereds : Answereds s) : Answereds after := by
  cases effect with
  | clock forward epoch => exact answereds.aside [] (by simp) (by simp) rfl rfl
  | accept idle free =>
    unfold State.openSession
    intro c
    have older : (s.calls c).session ≠ s.sessionCounter + 1 := by
      have bound := (coherent.tasks c).bound
      omega
    exact (answereds c).keep [.accepted (s.sessionCounter + 1) config.allowedClient]
      { sequence := by simp [older], received := by simp [older], left := by simp [older] }
  | @feed sid bytes known opened =>
    have fed : Answereds (s.setSession sid { s.sessions sid with
        buffer := (s.sessions sid).buffer ++ bytes
        totalReceived := (s.sessions sid).totalReceived + bytes.length }) :=
      answereds.session rfl rfl id
    exact fed.aside [.fed sid bytes] rfl (by simp) rfl rfl
  | note sid eof readError reason cancelling => exact answereds.session rfl rfl id
  | @closeWriter sid known =>
    have closed : Answereds (s.setSession sid { s.sessions sid with isClosing := true }) :=
      answereds.session rfl rfl id
    exact closed.aside [.writerClosing sid] rfl (by simp) rfl rfl
  | @release sid current left =>
    rw [State.release, if_pos current]
    exact answereds.aside [.released sid] rfl (by simp) rfl rfl
  | @fail sid gone left =>
    rcases s.failPending_cases sid with
      same | ⟨c, pending, error, attached, recorded, waiting, -, same⟩
    · rw [same]; exact answereds
    · rw [same]; exact answereds.fail coherent attached recorded waiting left
  | @skip sid raw frame rest known handling next =>
    have taken : Answereds (s.setSession sid { s.sessions sid with
        offset := (s.sessions sid).offset + raw.length, frames := rest, verified := true }) :=
      answereds.session rfl rfl id
    exact taken.aside [.frame sid raw frame none] rfl (by simp) rfl rfl
  | report known handling next isReport decodes built => exact answereds.report coherent handling next
  | readAt begun move => exact answereds.session rfl rfl move.left
  | chunk known reading taken nonempty fed => exact answereds.chunk reading
  | @reply after sid phase sent =>
    obtain ⟨-, -, -, -, -, -, raw, -, rfl⟩ := State.sendTurn_sent sent
    have written : Answereds (s.write sid 1 [0] (.reader sid) raw) :=
      answereds.aside [_] rfl (by simp) rfl rfl
    have answered : Answereds ((s.write sid 1 [0] (.reader sid) raw).setReadAt sid
        .heartbeatDrain) := written.session rfl rfl (by simp [phase, ReadAt.left])
    exact answered.aside [] (by simp) (by simp) rfl rfl
  | unlock => exact answereds.aside [] (by simp) (by simp) rfl rfl
  | put entry room origin => exact answereds.aside [.enqueued entry] rfl (by simp) rfl rfl
  | discardQueued =>
    refine answereds.aside _ rfl ?_ rfl rfl
    simp only [List.mem_map]
    rintro c event ⟨entry, -, rfl⟩
    trivial
  | drop entry => exact answereds.aside [.discarded entry] rfl (by simp) rfl rfl
  | @dispatch entry rest next free => exact answereds.aside [.dispatched entry] rfl (by simp) rfl rfl
  | idle => exact answereds.aside [] (by simp) (by simp) rfl rfl
  | stop => exact answereds.aside [] (by simp) (by simp) rfl rfl
  | refuse rejected => exact answereds.fresh coherent.shape rfl rfl rfl rfl (by simp)
  | call parsed current connected => exact answereds.fresh coherent.shape rfl rfl rfl rfl (by simp)
  | popReader next => exact answereds.aside [] (by simp) (by simp) rfl rfl
  | @popCommand c rest next =>
    have popped : Answereds { s with spawned := rest } :=
      answereds.aside [] (by simp) (by simp) rfl rfl
    exact popped.call rfl rfl (.inr (by simp))
  | @skipCommand c rest next asked =>
    have popped : Answereds { s with spawned := rest } :=
      answereds.aside [] (by simp) (by simp) rfl rfl
    have created := (coherent.shape.spawnedCommand c (by simp [next])).2
    refine popped.settle fun record status recorded => ?_
    have agrees := (coherent.tasks c).phase
    rw [created] at agrees
    rw [show (s.calls c).pending = none from agrees] at recorded
    cases recorded
  | popCleanup next => exact answereds.aside [] (by simp) (by simp) rfl rfl
  | @move c target move =>
    obtain ⟨-, unfinished⟩ := ExecuteAt.timed_live (ExecuteAt.registered_timed move.registered.2)
    exact answereds.call rfl rfl (.inr unfinished)
  | register phase free current => exact answereds.register coherent phase
  | @transmit after c phase sent =>
    obtain ⟨-, current, -, -, -, -, raw, -, rfl⟩ := State.sendTurn_sent sent
    have agrees := (coherent.tasks c).phase
    rw [phase] at agrees
    obtain ⟨pending, recorded, -⟩ := agrees
    obtain ⟨write, transmits⟩ := s.transmit_spec recorded raw
    exact answereds.transmit coherent transmits recorded phase current
  | settle how =>
    exact answereds.settle fun record status recorded result =>
      how.truthful coherent recorded result
  | @cancel c live cause =>
    have asked : Answereds (s.setCall c { s.calls c with cancelling := true }) :=
      answereds.call rfl rfl (.inl rfl)
    exact asked.aside [.cancelRequested c] rfl (by simp) rfl rfl
  | @interrupt c waiting => exact answereds.aside [.callerCancelled c] rfl (by simp) rfl rfl
  | drain waiting interrupted => exact answereds.call rfl rfl (.inl rfl)
  | @finish c last outcome waiting done result =>
    have told : Answereds (s.setCall c { s.calls c with caller := .ended outcome }) :=
      answereds.call rfl rfl (.inl rfl)
    exact told.aside [.ended c outcome] rfl (by simp) rfl rfl
  | close opened => exact answereds.aside [.closing] rfl (by simp) rfl rfl
  | finishCleanup gathering => exact answereds.aside [] (by simp) (by simp) rfl rfl
  | forget closing => exact answereds.aside [.cleaned] rfl (by simp) rfl rfl

theorem reachable_answered {config : Config} {s : State}
    (reached : Async.Reachable (client config) s) : Answereds s := by
  have both : Coherent config True s ∧ Answereds s := Run.effects Answereds
    (fun now wall _ c => Answered.unwritten (by simp [State.start, Wrote])
      (by simp [State.start, Call.none]) (by simp [State.start, Call.none]))
    (fun _ _ _ _ effect coherent => effect.answereds coherent) (fun _ _ _ _ _ => trivial) reached
  exact both.2

/-- Where the status a call returns comes from. -/
structure Acknowledged (config : Config) (log : List Event) (c : Nat) (status : DeviceStatus) :
    Prop where
  once : ∃ before write after, log = before ++ .wrote write :: after ∧ write.call = some c ∧
    ¬ Wrote before c ∧ ¬ Wrote after c
  report : ∃ past sid raw frame,
    Async.First (Event.answers c) log past (.frame sid raw frame (some status)) ∧
    Frame.decode raw (some config.mac) = .ok frame ∧ Shows sid frame status ∧
    raw <+: (fedBytes sid log).drop (framedBytes sid past).length

theorem Timely.only {log : List Event} {c : Nat}
    (timely : Async.Every (fun past event => ∀ write c, event = .wrote write →
      write.call = some c → Timely past write c) log) (wrote : Wrote log c) :
    ∃ before write after, log = before ++ .wrote write :: after ∧ write.call = some c ∧
      ¬ Wrote before c ∧ ¬ Wrote after c := by
  obtain ⟨write, member, mine⟩ := wrote
  obtain ⟨before, after, split, place⟩ := timely.of_mem member
  refine ⟨before, write, after, split, mine, (place write c rfl mine).first, ?_⟩
  rintro ⟨other, later, same⟩
  obtain ⟨between, rest, found⟩ := List.append_of_mem later
  have again := timely (before ++ .wrote write :: between) (.wrote other) rest
    (by rw [split, found]; simp) other c rfl same
  exact again.first ⟨write, by simp, mine⟩

/-- The bytes of a frame event lie where the frames before it end. -/
theorem Stream.located {config : Config} {log past future : List Event} {sid : Nat}
    {session : Session} {raw : Bytes} {frame : Frame} {status : Option DeviceStatus}
    (stream : Stream config log sid session)
    (split : log = past ++ .frame sid raw frame status :: future) :
    raw <+: (fedBytes sid log).drop (framedBytes sid past).length := by
  have framed : framedBytes sid log = framedBytes sid past ++ (raw ++ framedBytes sid future) := by
    rw [split, framedBytes_append]
    simp [framedBytes]
  rw [← stream.conserved, framed, List.append_assoc, List.append_assoc, List.drop_left]
  exact List.prefix_append _ _

section Answering

variable {config : Config} {s : State} {c : Nat} {status : DeviceStatus}

theorem returned_acknowledged (reached : Async.Reachable (client config) s)
    (ended : .ended c (.returned status) ∈ s.log) : Acknowledged config s.log c status := by
  obtain ⟨coherent, genuine, -⟩ := reachable_guarded reached
  have known := coherent.shape.eventCall _ ended c rfl
  have caller := coherent.callers c
  obtain ⟨-, last, done, agree⟩ := caller.ended known _ (caller.told _ ended)
  obtain rfl : last = .returned status := by
    rcases agree with same | ⟨⟨⟩, -⟩
    exact same.symm
  obtain ⟨record, recorded, queued, result⟩ := (coherent.tasks c).outcome known _ done
  obtain ⟨past, raw, frame, first⟩ := (reachable_answered reached c).found record status recorded result
  obtain ⟨future, split⟩ := first.placed
  obtain ⟨decoded, shows⟩ := genuine (.frame (s.calls c).session raw frame (some status))
    (by rw [split]; simp)
  exact ⟨Timely.only (reachable_timely reached) ((coherent.tasks c).wrote.mpr ⟨record, recorded, queued⟩),
    past, _, raw, frame, first, decoded, shows status rfl, (coherent.streams _).located split⟩

theorem answered_returned (reached : Async.Reachable (client config) s) {past : List Event}
    {sid : Nat} {raw : Bytes} {frame : Frame}
    (first : Async.First (Event.answers c) s.log past (.frame sid raw frame (some status)))
    (unsettled : ∀ outcome, .settled c outcome ∉ past) (unasked : .cancelRequested c ∉ s.log)
    (uninterrupted : .callerCancelled c ∉ s.log) {outcome : Outcome}
    (ended : .ended c outcome ∈ s.log) : outcome = .returned status := by
  have coherent := reachable_coherent reached
  have answered := reachable_answered reached c
  have caller := coherent.callers c
  have known := coherent.shape.eventCall _ ended c rfl
  obtain ⟨-, last, done, agree⟩ := caller.ended known _ (caller.told _ ended)
  obtain rfl : outcome = last := by
    rcases agree with same | ⟨-, told⟩
    · exact same
    · exact absurd told uninterrupted
  have resolved : ∃ record shown, (s.calls c).pending = some record ∧
      record.future = .result shown := by
    refine Classical.byContradiction fun unresolved => ?_
    obtain ⟨future, split⟩ := first.placed
    obtain ⟨settled, member⟩ := answered.missed
      (fun record recorded shown result => unresolved ⟨record, shown, recorded, result⟩)
      past _ future split first.holds
    exact unsettled settled member
  obtain ⟨record, shown, recorded, result⟩ := resolved
  obtain ⟨past', raw', frame', first'⟩ := answered.found record shown recorded result
  have same := (first.unique first').2
  simp only [Event.frame.injEq, Option.some.injEq] at same
  obtain ⟨-, -, -, rfl⟩ := same
  rcases answered.told record status outcome recorded result done with returned | asked
  · exact returned
  · exact absurd asked unasked

theorem first_stays (run : Async.Execution (client config)) {n m : Nat} (later : n ≤ m)
    {past : List Event} {event : Event}
    (first : Async.First (Event.answers c) (run.state n).log past event) :
    Async.First (Event.answers c) (run.state m).log past event := by
  have kept : ∀ s label after, Async.Reachable (client config) s →
      Async.First (Event.answers c) s.log past event → (client config).step s label = some after →
      Async.First (Event.answers c) after.log past event := by
    intro s label after reached held taken
    refine Effects.keep (reachable_effects reached taken)
      (fun s => Async.First (Event.answers c) s.log past event)
      (reachable_coherent reached).shape ?_ held
    intro s after effect _ held
    obtain ⟨events, log, -⟩ := effect.appends
    rw [log]
    exact held.append events
  exact run.stable kept later first

end Answering

/-- A call returns only a report that answers it, whose first byte was fed after its one
frame was written. A call that is not cancelled returns the first report that answers
it while its task runs, and does return in every fair execution. -/
theorem acknowledgement_sound_complete (config : Config) :
    (∀ s, Async.Reachable (client config) s → ∀ c status,
      .ended c (.returned status) ∈ s.log → Acknowledged config s.log c status) ∧
    (∀ s, Async.Reachable (client config) s → ∀ c past sid raw frame status,
      Async.First (Event.answers c) s.log past (.frame sid raw frame (some status)) →
      (∀ outcome, .settled c outcome ∉ past) → .cancelRequested c ∉ s.log →
      .callerCancelled c ∉ s.log → ∀ outcome, .ended c outcome ∈ s.log →
      outcome = .returned status) ∧
    ∀ run : Async.Execution (client config), run.Fair .start →
      (∀ c, run.Fair (.execute c .timeout)) → (∀ c, run.Fair (.resumeCaller c)) →
      ∀ n c past sid raw frame status,
        Async.First (Event.answers c) (run.state n).log past (.frame sid raw frame (some status)) →
        (∀ outcome, .settled c outcome ∉ past) →
        (∀ m, n ≤ m → .cancelRequested c ∉ (run.state m).log ∧
          .callerCancelled c ∉ (run.state m).log) →
        ∃ m, n ≤ m ∧ .ended c (.returned status) ∈ (run.state m).log := by
  refine ⟨fun s reached c status ended => returned_acknowledged reached ended,
    fun s reached c past sid raw frame status first unsettled unasked uninterrupted outcome ended =>
      answered_returned reached first unsettled unasked uninterrupted ended, ?_⟩
  intro run starts expires resumes n c past sid raw frame status first unsettled spared
  have known : c < (run.state n).callCount := by
    obtain ⟨write, member, mine⟩ := Event.answers_wrote first.holds
    obtain ⟨future, split⟩ := first.placed
    exact (reachable_coherent (run.reachable n)).shape.eventCall (.wrote write)
      (by rw [split]; exact List.mem_append_left _ member) c mine
  obtain ⟨m, later, outcome, ended⟩ := call_ends run starts expires resumes known
  obtain ⟨unasked, uninterrupted⟩ := spared m later
  obtain rfl := answered_returned (run.reachable m) (first_stays run later first) unsettled unasked
    uninterrupted ended
  exact ⟨m, later, ended⟩

/-- The task of this call settles here. -/
def Event.settles (c : Nat) : Event → Bool
  | .settled call _ => call = c
  | _ => false

def Event.isFrame : Event → Bool
  | .frame _ _ _ _ => true
  | _ => false

theorem acknowledgement_sound_complete_example : ∃ s status, exampleRun = some s ∧
    .ended 0 (.returned status) ∈ s.log ∧ Acknowledged exampleConfig s.log 0 status ∧
    (∀ outcome, .ended 0 outcome ∈ s.log → outcome = .returned status) ∧
    ∃ run : Async.Execution (client exampleConfig), ∃ m, exampleLabels.length ≤ m ∧
      .ended 0 (.returned status) ∈ (run.state m).log := by
  obtain ⟨s, followed, reached, -, -, status, ended⟩ := exampleRun_spec
  obtain ⟨other, same, -, run, last, starts, expires, resumes⟩ := exampleRun_fair
  rw [followed] at same
  obtain rfl := Option.some.inj same
  have shown : (exampleRun.map fun s =>
      !s.log.contains (.cancelRequested 0) && (!s.log.contains (.callerCancelled 0) &&
        decide (s.log.Pairwise fun first second => !(first.settles 0 && second.isFrame)))) =
      some true := by decide +kernel
  rw [followed, Option.map_some, Option.some.injEq] at shown
  simp only [Bool.and_eq_true, Bool.not_eq_true', List.contains_eq_mem, decide_eq_false_iff_not,
    decide_eq_true_eq] at shown
  obtain ⟨unasked, uninterrupted, ordered⟩ := shown
  obtain ⟨sound, complete, ends⟩ := acknowledgement_sound_complete exampleConfig
  have acknowledged := sound s reached 0 status ended
  obtain ⟨past, sid, raw, frame, first, -⟩ := acknowledged.report
  have unsettled : ∀ outcome, .settled 0 outcome ∉ past := by
    intro outcome member
    obtain ⟨future, split⟩ := first.placed
    rw [split] at ordered
    simpa [Event.settles, Event.isFrame] using
      (List.pairwise_append.mp ordered).2.2 _ member _ (List.mem_cons_self ..)
  refine ⟨s, status, followed, ended, acknowledged,
    complete s reached 0 past sid raw frame status first unsettled unasked uninterrupted, run, ?_⟩
  refine ends run starts expires resumes exampleLabels.length 0 past sid raw frame status ?_
    unsettled fun m later => ?_
  · rw [last _ le_rfl]
    exact first
  · rw [last m later]
    exact ⟨unasked, uninterrupted⟩

end AlorairLite.Local
