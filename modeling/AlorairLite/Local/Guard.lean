import AlorairLite.Async.History
import AlorairLite.Local.Caller
import Mathlib.Data.List.Induction

/-! Everything a reachable state of the transport satisfies at once, and what it
says about each frame at the instant it is written. -/

namespace AlorairLite.Local

open State

/-- A status of this session that a `07` report shows. -/
def Shows (sid : Nat) (frame : Frame) (status : DeviceStatus) : Prop :=
  frame.isReport ∧ ∃ decoded sequence receivedAt monotonic, observedStatus frame = .ok decoded ∧
    status = decoded.deviceStatus sid sequence receivedAt monotonic frame.opcode

/-- A frame event decodes from its raw bytes, and its status from its frame. -/
def Event.genuine (config : Config) : Event → Prop
  | .frame sid raw content status =>
    Frame.decode raw (some config.mac) = .ok content ∧
      ∀ shown, status = some shown → Shows sid content shown
  | _ => True

/-- What one effect adds to the history. -/
inductive Appends (config : Config) (s : State) : List Event → Prop where
  | quiet {events : List Event} (quiet : ∀ event ∈ events,
      (∀ write, event ≠ .wrote write) ∧ ∀ sid raw frame status, event ≠ .frame sid raw frame status) :
      Appends config s events
  | frame {sid : Nat} {raw : Bytes} {frame : Frame} {rest : List (Bytes × Frame)}
      {status : Option DeviceStatus} (known : s.knows sid)
      (handling : (s.sessions sid).readAt = .handling)
      (next : (s.sessions sid).frames = (raw, frame) :: rest)
      (report : ∀ shown, status = some shown → frame.isReport ∧ ∃ decoded,
        observedStatus frame = .ok decoded ∧ shown = s.deviceStatus sid frame decoded) :
      Appends config s [.frame sid raw frame status]
  | reply {after : State} {sid : Nat} {write : Write} (phase : (s.sessions sid).readAt = .heartbeatLock)
      (sent : s.sendTurn config sid 1 [0] (.reader sid) = .sent after)
      (target : write.session = sid) (automatic : write.call = none) :
      Appends config s [.wrote write]
  | command {after : State} {c : Nat} {write : Write} (phase : (s.calls c).execute = .sendLock)
      (sent : s.sendTurn config (s.calls c).session (s.calls c).command.opcode
        (s.calls c).command.data (.command c) = .sent after)
      (target : write.session = (s.calls c).session) (call : write.call = some c)
      (opcode : write.opcode = (s.calls c).command.opcode)
      (data : write.data = (s.calls c).command.data) (monotonic : write.monotonic = s.now) :
      Appends config s [.wrote write]

theorem Effect.appends {config : Config} {overflow : Prop} {s after : State}
    (effect : Effect config overflow s after) :
    ∃ events, after.log = s.log ++ events ∧ Appends config s events := by
  have nothing : Appends config s [] := .quiet (by simp)
  cases effect with
  | clock forward epoch => exact ⟨[], by simp, nothing⟩
  | accept idle free =>
    unfold State.openSession
    exact ⟨[_], rfl, .quiet (by simp)⟩
  | feed known opened => exact ⟨[_], rfl, .quiet (by simp)⟩
  | note sid eof readError reason cancelling => exact ⟨[], by simp, nothing⟩
  | closeWriter known => exact ⟨[_], rfl, .quiet (by simp)⟩
  | release current left =>
    rw [State.release, if_pos current]
    exact ⟨[_], rfl, .quiet (by simp)⟩
  | @fail sid gone left =>
    refine ⟨[], ?_, nothing⟩
    rcases s.failPending_cases sid with same | ⟨c, pending, error, -, -, -, -, same⟩
    · simp [same]
    · simp [same, State.setFuture]
  | @skip sid raw frame rest known handling next =>
    exact ⟨[_], rfl, .frame known handling next (by simp)⟩
  | @report sid raw frame rest decoded status known handling next isReport decodes built =>
    refine ⟨[.frame sid raw frame (some status)], ?_, .frame known handling next ?_⟩
    · rcases State.confirm_cases _ sid frame (s.sessions sid).offset status with
        same | ⟨c, pending, -, -, -, -, -, -, -, -, same⟩
      · rw [same]; rfl
      · rw [same]; rfl
    · rintro shown shows
      cases shows
      exact ⟨isReport, decoded, decodes, built⟩
  | readAt begun move => exact ⟨[], by simp [State.setReadAt], nothing⟩
  | chunk known reading taken nonempty fed => exact ⟨[], by simp [State.receiveChunk], nothing⟩
  | @reply after sid phase sent =>
    obtain ⟨-, -, -, -, -, -, raw, -, rfl⟩ := State.sendTurn_sent sent
    exact ⟨[_], rfl, .reply phase sent rfl rfl⟩
  | unlock => exact ⟨[], by simp, nothing⟩
  | put entry room origin => exact ⟨[_], rfl, .quiet (by simp)⟩
  | discardQueued =>
    refine ⟨_, rfl, .quiet ?_⟩
    simp only [List.mem_map]
    rintro event ⟨entry, -, rfl⟩
    simp
  | drop entry => exact ⟨[_], rfl, .quiet (by simp)⟩
  | dispatch next free => exact ⟨[_], rfl, .quiet (by simp)⟩
  | idle => exact ⟨[], by simp, nothing⟩
  | stop => exact ⟨[], by simp, nothing⟩
  | refuse rejected => exact ⟨[_, _], rfl, .quiet (by simp)⟩
  | call parsed current connected => exact ⟨[_], rfl, .quiet (by simp)⟩
  | popReader next => exact ⟨[], by simp, nothing⟩
  | popCommand next => exact ⟨[], by simp, nothing⟩
  | skipCommand next asked => exact ⟨[_], rfl, .quiet (by simp)⟩
  | popCleanup next => exact ⟨[], by simp, nothing⟩
  | move move => exact ⟨[], by simp, nothing⟩
  | register phase free current => exact ⟨[], by simp [State.register], nothing⟩
  | @transmit after c phase sent =>
    obtain ⟨-, -, -, -, -, -, raw, -, rfl⟩ := State.sendTurn_sent sent
    exact ⟨[_], rfl, .command phase sent rfl rfl rfl rfl rfl⟩
  | settle how => exact ⟨[_], rfl, .quiet (by simp)⟩
  | cancel live cause => exact ⟨[_], rfl, .quiet (by simp)⟩
  | interrupt waiting => exact ⟨[_], rfl, .quiet (by simp)⟩
  | drain waiting interrupted => exact ⟨[], by simp, nothing⟩
  | finish waiting done result => exact ⟨[_], rfl, .quiet (by simp)⟩
  | close opened => exact ⟨[_], rfl, .quiet (by simp)⟩
  | finishCleanup gathering => exact ⟨[], by simp, nothing⟩
  | forget closing => exact ⟨[_], rfl, .quiet (by simp)⟩

/-- Everything one effect keeps. -/
structure Coherent (config : Config) (limit : Prop) (s : State) : Prop where
  shape : Shape s
  epoch : 0 ≤ s.wall
  streams : Streams config s
  link : Link config s
  tasks : Tasks limit s
  callers : Callers s

@[simp] theorem State.write_wall (s : State) (sid : Nat) (opcode : Int) (data : Bytes) (sender : Sender)
    (raw : Bytes) : (s.write sid opcode data sender raw).wall = s.wall := by
  cases sender with
  | reader other => rfl
  | command c =>
    simp only [State.write]
    split <;> rfl

theorem Effect.epoch {config : Config} {overflow : Prop} {s after : State}
    (effect : Effect config overflow s after) (epoch : 0 ≤ s.wall) : 0 ≤ after.wall := by
  cases effect with
  | clock forward later => exact later
  | accept idle free =>
    exact epoch
  | release current left =>
    rw [State.release, if_pos current]
    exact epoch
  | @fail sid gone left =>
    rcases s.failPending_cases sid with same | ⟨c, pending, error, -, -, -, -, same⟩
    · rw [same]; exact epoch
    · rw [same]; exact epoch
  | @report sid raw frame rest decoded status known handling next isReport decodes built =>
    rcases State.confirm_cases _ sid frame (s.sessions sid).offset status with
      same | ⟨c, pending, -, -, -, -, -, -, -, -, same⟩
    · rw [same]; exact epoch
    · rw [same]; exact epoch
  | reply phase sent =>
    obtain ⟨-, -, -, -, -, -, raw, -, rfl⟩ := State.sendTurn_sent sent
    exact epoch
  | transmit phase sent =>
    obtain ⟨-, -, -, -, -, -, raw, -, rfl⟩ := State.sendTurn_sent sent
    simpa using epoch
  | _ => exact epoch

theorem Effect.coherent {config : Config} {limit overflow : Prop} {s after : State}
    (effect : Effect config overflow s after) (allowed : overflow → limit)
    (coherent : Coherent config limit s) : Coherent config limit after where
  shape := effect.shape coherent.shape
  epoch := effect.epoch coherent.epoch
  streams := effect.streams coherent.shape coherent.streams
  link := effect.link coherent.shape coherent.streams coherent.link
  tasks := effect.tasks allowed coherent.shape (fun c => (coherent.callers c).early) coherent.tasks
  callers := effect.callers coherent.shape coherent.tasks coherent.callers

theorem Coherent.initial {config : Config} {limit : Prop} {now wall : ℚ} (epoch : 0 ≤ wall) :
    Coherent config limit (State.start config now wall) := by
  refine ⟨Shape.initial, epoch, ?_, ?_, ?_, ?_⟩
  · intro sid
    constructor <;> simp [State.start, Session.fresh, fedBytes, framedBytes]
  · constructor <;> simp [State.start, Session.fresh, lastReport]
  · intro c
    constructor <;> simp [State.start, Session.fresh, Call.none, ExecuteAt.agrees, Wrote,
      Call.queued, ExecuteAt.registered]
  · intro c
    constructor <;> simp [State.start, Call.none]

/-- The invariant rule of the transport: what every effect keeps of a coherent state
holds in every run. `limit` is what the runs allow an oversized token to mean. -/
theorem Run.effects {config : Config} {meets : State → Label → Prop} {limit : Prop}
    (holds : State → Prop) (initially : ∀ now wall, 0 ≤ wall → holds (State.start config now wall))
    (kept : ∀ overflow, (overflow → limit) → ∀ s after, Effect config overflow s after →
      Coherent config limit s → holds s → holds after)
    (allowed : ∀ s label, Coherent config limit s → meets s label → ¬ s.tokenFits → limit) {s : State}
    (run : Async.Run (client config) meets s) : Coherent config limit s ∧ holds s := by
  refine run.invariant (fun state => Coherent config limit state ∧ holds state) ?_ ?_
  · rintro state ⟨now, wall, epoch, rfl⟩
    exact ⟨Coherent.initial epoch, initially now wall epoch⟩
  · rintro state label after - ⟨coherent, held⟩ met taken
    have effects := step_effects coherent.shape coherent.epoch taken
    clear taken
    induction effects with
    | refl => exact ⟨coherent, held⟩
    | tail _ effect ih =>
      have permitted := allowed state label coherent met
      exact ⟨effect.coherent permitted ih.1, kept _ permitted _ _ effect ih.1 ih.2⟩

theorem lastReport_mem {log : List Event} {status : DeviceStatus}
    (last : lastReport log = some status) :
    ∃ sid raw frame, .frame sid raw frame (some status) ∈ log := by
  induction log using List.reverseRecOn with
  | nil => cases last
  | append_singleton log event ih =>
    rw [lastReport_append] at last
    simp only [List.foldl_cons, List.foldl_nil] at last
    have older : lastReport log = some status →
        ∃ sid raw frame, .frame sid raw frame (some status) ∈ log ++ [event] := fun held => by
      obtain ⟨sid, raw, frame, member⟩ := ih held
      exact ⟨sid, raw, frame, List.mem_append_left _ member⟩
    cases event with
    | frame sid raw frame shown =>
      cases shown with
      | none => exact older last
      | some shown =>
        cases Option.some.inj last
        exact ⟨sid, raw, frame, by simp⟩
    | accepted | released | cleaned => cases last
    | _ => exact older last

/-- A frame event of every run is genuine. -/
theorem Effect.genuine {config : Config} {limit overflow : Prop} {s after : State}
    (effect : Effect config overflow s after) (coherent : Coherent config limit s)
    (genuine : ∀ event ∈ s.log, event.genuine config) : ∀ event ∈ after.log, event.genuine config := by
  obtain ⟨events, log, appended⟩ := effect.appends
  intro event member
  rw [log] at member
  rcases List.mem_append.mp member with old | fresh
  · exact genuine event old
  cases appended with
  | quiet quiet =>
    cases event with
    | frame sid raw content status => exact absurd rfl ((quiet _ fresh).2 sid raw content status)
    | _ => trivial
  | @frame sid raw content rest status known handling next report =>
    cases List.mem_singleton.mp fresh
    refine ⟨(coherent.streams sid).decoded (raw, content) (by simp [next]), fun shown shows => ?_⟩
    obtain ⟨isReport, decoded, decodes, built⟩ := report shown shows
    exact ⟨isReport, decoded, _, _, _, decodes, built⟩
  | reply phase sent target automatic =>
    cases List.mem_singleton.mp fresh
    trivial
  | command phase sent target call opcode data monotonic =>
    cases List.mem_singleton.mp fresh
    trivial

/-- The latest status was reported on this session and is recent enough. -/
def Fresh (config : Config) (past : List Event) (write : Write) (status : DeviceStatus) : Prop :=
  lastReport past = some status ∧
    (∃ raw frame, .frame write.session raw frame (some status) ∈ past ∧
      Shows write.session frame status) ∧
    0 ≤ write.monotonic - status.receivedMonotonic ∧
    write.monotonic - status.receivedMonotonic ≤ config.statusMaxAge

/-- What a request demands of the latest status at the instant of its write. -/
def Demands (config : Config) (past : List Event) (write : Write) : Request → Prop
  | .setPower true | .setTemperatureUnit _ => ∃ status, Fresh config past write status
  | .setHumidity _ false => ∃ status, Fresh config past write status ∧ status.power = some true
  | .setPower false | .setHumidity _ true => True

/-- The connection a frame is written on. -/
structure Guarded (config : Config) (past : List Event) (write : Write) : Prop where
  accepted : .accepted write.session config.allowedClient ∈ past
  current : .released write.session ∉ past
  single : ∀ other peer, .accepted other peer ∈ past → other ≠ write.session → .released other ∈ past
  opened : .closing ∉ past
  writable : .writerClosing write.session ∉ past
  identified : Identified config past write.session
  command : ∀ c, write.call = some c → ∃ request command,
    .called c request (some write.session) ∈ past ∧ request.command = .ok command ∧
      write.opcode = command.opcode ∧ write.data = command.data ∧ Demands config past write request

/-- What every sender knows about the connection when its turn succeeds. -/
theorem Coherent.connection {config : Config} {limit : Prop} {s : State} {sid : Nat}
    (coherent : Coherent config limit s) (opened : s.closing = false)
    (current : s.session = some sid) (writable : (s.sessions sid).isClosing = false) :
    .accepted sid config.allowedClient ∈ s.log ∧ .released sid ∉ s.log ∧
      (∀ other peer, .accepted other peer ∈ s.log → other ≠ sid → .released other ∈ s.log) ∧
      .closing ∉ s.log ∧ .writerClosing sid ∉ s.log := by
  obtain ⟨accepted, held⟩ := coherent.link.current sid current
  refine ⟨accepted, held, fun other peer before apart => ?_, coherent.link.opened opened,
    coherent.link.writable sid writable⟩
  refine coherent.link.released other peer before ?_
  rw [current]
  simpa using Ne.symm apart

/-- A live call was made with a request the client accepted. -/
theorem Coherent.request {config : Config} {limit : Prop} {s : State} {c : Nat}
    (coherent : Coherent config limit s) (live : ∀ outcome, (s.calls c).execute ≠ .done outcome) :
    ∃ request, .called c request (some (s.calls c).session) ∈ s.log ∧
      request.command = .ok (s.calls c).command := by
  obtain ⟨request, session, member⟩ :=
    (coherent.callers c).called (coherent.shape.live_known live)
  rcases (coherent.callers c).request request session member with ⟨parsed, rfl⟩ | refused
  · exact ⟨request, member, parsed⟩
  · obtain ⟨error, done, -, -⟩ := refused.outcome
    exact absurd done (live _)

/-- The freshness check and the check for a reported ON, read off the history. -/
theorem Coherent.fresh {config : Config} {limit : Prop} {s : State} {write : Write}
    (coherent : Coherent config limit s) (genuine : ∀ event ∈ s.log, event.genuine config)
    (monotonic : write.monotonic = s.now) {status : DeviceStatus} (last : s.status = some status)
    (same : status.sessionId = write.session)
    (recent : 0 ≤ s.now - status.receivedMonotonic ∧
      s.now - status.receivedMonotonic ≤ config.statusMaxAge) :
    Fresh config s.log write status := by
  rw [coherent.link.report] at last
  obtain ⟨sid, raw, frame, member⟩ := lastReport_mem last
  obtain ⟨-, shown⟩ := genuine _ member
  have shows := shown status rfl
  obtain ⟨-, decoded, sequence, receivedAt, received, -, rfl⟩ := shows
  obtain rfl : sid = write.session := same
  exact ⟨last, ⟨raw, frame, member, shown _ rfl⟩, by rw [monotonic]; exact recent.1,
    by rw [monotonic]; exact recent.2⟩

/-- The checks of a turn of `_send` are what the request demands. -/
theorem Coherent.demands {config : Config} {limit : Prop} {s : State} {write : Write}
    {request : Request} {command : Command} {pending : Pending}
    (coherent : Coherent config limit s) (genuine : ∀ event ∈ s.log, event.genuine config)
    (monotonic : write.monotonic = s.now) (parsed : request.command = .ok command)
    (stale : pending.allowStale = command.allowStale)
    (fresh : (command.allowStale || (command.opcode = 0x21 && command.data = [0])) = false →
      ∃ status, s.status = some status ∧ status.sessionId = write.session ∧
        0 ≤ s.now - status.receivedMonotonic ∧
        s.now - status.receivedMonotonic ≤ config.statusMaxAge)
    (enabled : s.reportsEnabled command.opcode (some pending)) :
    Demands config s.log write request := by
  have recent : (command.allowStale || (command.opcode = 0x21 && command.data = [0])) = false →
      ∃ status, s.status = some status ∧ Fresh config s.log write status := fun needed => by
    obtain ⟨status, last, same, recent⟩ := fresh needed
    exact ⟨status, last, coherent.fresh genuine monotonic last same recent⟩
  cases request with
  | setPower on =>
    cases parsed
    cases on with
    | false => trivial
    | true =>
      obtain ⟨status, -, held⟩ := recent (by decide)
      exact ⟨status, held⟩
  | setTemperatureUnit unit =>
    cases parsed
    obtain ⟨status, -, held⟩ := recent (by simp)
    exact ⟨status, held⟩
  | setHumidity target allowStale =>
    simp only [Request.command] at parsed
    split at parsed
    · cases parsed
    cases parsed
    cases allowStale with
    | true => trivial
    | false =>
      obtain ⟨status, last, held⟩ := recent (by simp)
      refine ⟨status, held, ?_⟩
      simpa [State.reportsEnabled, stale, last] using enabled

/-- Every frame is written on the current, verified connection, and a command frame
only when the latest status allows it. -/
theorem Effect.guarded {config : Config} {limit overflow : Prop} {s after : State}
    (effect : Effect config overflow s after) (coherent : Coherent config limit s)
    (genuine : ∀ event ∈ s.log, event.genuine config)
    (held : Async.Every (fun past event => ∀ write, event = .wrote write →
      Guarded config past write) s.log) :
    Async.Every (fun past event => ∀ write, event = .wrote write →
      Guarded config past write) after.log := by
  obtain ⟨events, log, appended⟩ := effect.appends
  rw [log]
  cases appended with
  | quiet quiet =>
    exact held.append_free fun event member past write equal =>
      absurd equal ((quiet event member).1 write)
  | frame known handling next report =>
    exact held.append_singleton (by rintro write ⟨⟩)
  | @reply middle sid write phase sent target automatic =>
    refine held.append_singleton ?_
    rintro written ⟨⟩
    obtain ⟨opened, current, writable, -⟩ := State.sendTurn_sent sent
    obtain ⟨accepted, open', single, running, flowing⟩ :=
      coherent.connection opened current writable
    have verified := (coherent.streams sid).answering phase
    subst target
    exact ⟨accepted, open', single, running, flowing, coherent.link.verified _ verified,
      by simp [automatic]⟩
  | @command middle c write phase sent target call opcode data monotonic =>
    refine held.append_singleton ?_
    rintro written ⟨⟩
    obtain ⟨opened, current, writable, checked, -, enabled, -⟩ := State.sendTurn_sent sent
    obtain ⟨accepted, open', single, running, flowing⟩ :=
      coherent.connection opened current writable
    obtain ⟨pending, recorded, -⟩ : ∃ pending, (s.calls c).pending = some pending ∧
        pending.queued = false := by
      have agrees := (coherent.tasks c).phase
      rwa [phase] at agrees
    obtain ⟨-, -, stale⟩ := (coherent.tasks c).record pending recorded
    obtain ⟨found, fresh⟩ := checked pending recorded
    obtain ⟨held', connected, -, demanded⟩ := State.requireFreshStatus_ok fresh
    obtain ⟨request, called, parsed⟩ := coherent.request (c := c) (by simp [phase])
    rw [current] at held'
    cases held'
    obtain ⟨-, other, same, verified, -⟩ := State.connected_spec connected
    rw [current] at same
    cases same
    rw [← target] at *
    refine ⟨accepted, open', single, running, flowing, coherent.link.verified _ verified, ?_⟩
    intro d mine
    rw [call] at mine
    cases mine
    refine ⟨request, (s.calls c).command, called, parsed, opcode, data, ?_⟩
    rw [show s.pendingOf (.command c) = some pending from recorded] at enabled
    rw [stale] at demanded
    refine coherent.demands genuine monotonic parsed stale ?_ enabled
    exact demanded

/-- Genuine and guarded histories of every run. -/
theorem reachable_guarded {config : Config} {s : State}
    (reached : Async.Reachable (client config) s) :
    Coherent config True s ∧ (∀ event ∈ s.log, event.genuine config) ∧
      Async.Every (fun past event => ∀ write, event = .wrote write →
        Guarded config past write) s.log := by
  refine Run.effects (fun state => (∀ event ∈ state.log, event.genuine config) ∧
    Async.Every (fun past event => ∀ write, event = .wrote write → Guarded config past write)
      state.log) (fun now wall _ => ⟨by simp [State.start], Async.Every.nil⟩) ?_
    (fun _ _ _ _ _ => trivial) reached
  rintro overflow - state after effect coherent ⟨genuine, held⟩
  exact ⟨effect.genuine coherent genuine, effect.guarded coherent genuine held⟩

/-- At the instant any frame is written its session is the only open one, accepted
from the configured address, identified and not closing; a command frame also finds
the status its request demands. -/
theorem write_guarded {config : Config} {s : State} (reached : Async.Reachable (client config) s) :
    Async.Every (fun past event => ∀ write, event = .wrote write → Guarded config past write)
      s.log := (reachable_guarded reached).2.2

def exampleConfig : Config where
  allowedClient := "192.0.2.1"
  mac := [0x02, 0x00, 0x00, 0x00, 0x00, 0x01]
  macLength := rfl
  statusMaxAge := 35
  agePositive := by norm_num
  onStatus := true
  onDisconnect := true

/-- The bytes of a report with this opcode and this power flag. -/
def exampleReport (opcode : Int) (power : UInt8) : Bytes :=
  let frame : Frame := {
    mac := exampleConfig.mac, timestamp := 0, function := 7, opcode
    data := List.replicate 3 0 ++ [power] ++ List.replicate 30 0 }
  frame.body ++ toBytes 2 (checksum frame.body) ++ [0x16]

/-- The bytes of a heartbeat. -/
def exampleHeartbeat : Bytes :=
  let frame : Frame := {
    mac := exampleConfig.mac, timestamp := 0, function := 9, opcode := 1, data := [] }
  frame.body ++ toBytes 2 (checksum frame.body) ++ [0x16]

/-- An appliance that is off connects, is switched on and confirms it. -/
def exampleLabels : List Label :=
  [.accept (some "192.0.2.1"), .start, .feed 1 (exampleReport 0x20 0), .reader 1 .ready,
    .call (.setPower true), .start, .execute 0 .ready, .execute 0 .ready, .execute 0 .ready,
    .feed 1 (exampleReport 0x21 1), .reader 1 .ready, .execute 0 .ready, .resumeCaller 0]

def exampleRun : Option State :=
  (client exampleConfig).follow (State.start exampleConfig 0 0) exampleLabels

theorem exampleRun_spec : ∃ s, exampleRun = some s ∧ Async.Reachable (client exampleConfig) s ∧
    .called 0 (.setPower true) (some 1) ∈ s.log ∧
    (∃ write, .wrote write ∈ s.log ∧ write.call = some 0) ∧
    ∃ status, .ended 0 (.returned status) ∈ s.log := by
  have shown : (exampleRun.map fun s =>
      s.log.contains (.called 0 (.setPower true) (some 1)) &&
      (s.log.any (fun event => match event with
        | .wrote write => write.call = some 0
        | _ => false) &&
      s.log.any fun event => match event with
        | .ended 0 (.returned _) => true
        | _ => false)) = some true := by decide +kernel
  obtain ⟨s, followed, facts⟩ := Option.map_eq_some_iff.mp shown
  simp only [Bool.and_eq_true, List.any_eq_true, List.contains_iff_mem] at facts
  obtain ⟨called, ⟨write, written, call⟩, ended, told, result⟩ := facts
  refine ⟨s, followed, Async.Run.follow (.start ⟨0, 0, le_rfl, rfl⟩) (fun _ _ => trivial) followed,
    called, ?_, ?_⟩
  · cases write <;> simp at call
    exact ⟨_, written, call⟩
  · split at result
    · exact ⟨_, told⟩
    · cases result

theorem write_guarded_example : ∃ s, exampleRun = some s ∧ (∃ write, .wrote write ∈ s.log) ∧
    Async.Every (fun past event => ∀ write, event = .wrote write →
      Guarded exampleConfig past write) s.log := by
  obtain ⟨s, followed, reached, -, ⟨write, written, -⟩, -⟩ := exampleRun_spec
  exact ⟨s, followed, ⟨write, written⟩, write_guarded reached⟩

/-- The frame of a call is its first, between its start and its end, on the session
that was current at its start. -/
structure Timely (past : List Event) (write : Write) (c : Nat) : Prop where
  called : ∃ request, .called c request (some write.session) ∈ past
  first : ¬ Wrote past c
  running : ∀ outcome, .ended c outcome ∉ past

theorem Effect.timely {config : Config} {limit overflow : Prop} {s after : State}
    (effect : Effect config overflow s after) (coherent : Coherent config limit s)
    (held : Async.Every (fun past event => ∀ write c, event = .wrote write → write.call = some c →
      Timely past write c) s.log) :
    Async.Every (fun past event => ∀ write c, event = .wrote write → write.call = some c →
      Timely past write c) after.log := by
  obtain ⟨events, log, appended⟩ := effect.appends
  rw [log]
  cases appended with
  | quiet quiet =>
    exact held.append_free fun event member past write _ equal =>
      absurd equal ((quiet event member).1 write)
  | frame known handling next report => exact held.append_singleton (by rintro write c ⟨⟩)
  | reply phase sent target automatic =>
    refine held.append_singleton ?_
    rintro written c ⟨⟩ mine
    rw [automatic] at mine
    cases mine
  | @command middle c write phase sent target call opcode data monotonic =>
    refine held.append_singleton ?_
    rintro written d ⟨⟩ mine
    rw [call] at mine
    cases mine
    have agrees := (coherent.tasks c).phase
    rw [phase] at agrees
    obtain ⟨pending, recorded, unqueued⟩ := agrees
    obtain ⟨request, called, -⟩ := coherent.request (c := c) (by simp [phase])
    refine ⟨⟨request, by rw [target]; exact called⟩, ?_, ?_⟩
    · rw [(coherent.tasks c).wrote]
      rintro ⟨record, found, queued⟩
      rw [recorded] at found
      cases found
      simp [unqueued] at queued
    · intro outcome told
      have known := coherent.shape.eventCall _ told c rfl
      obtain ⟨-, last, done, -⟩ :=
        (coherent.callers c).ended known outcome ((coherent.callers c).told outcome told)
      rw [phase] at done
      cases done

theorem reachable_timely {config : Config} {s : State}
    (reached : Async.Reachable (client config) s) :
    Async.Every (fun past event => ∀ write c, event = .wrote write → write.call = some c →
      Timely past write c) s.log := by
  have both : Coherent config True s ∧ _ := Run.effects (fun state => Async.Every (fun past event =>
    ∀ write c, event = .wrote write → write.call = some c → Timely past write c) state.log)
    (fun _ _ _ => Async.Every.nil) (fun _ _ _ _ effect coherent held => effect.timely coherent held)
    (fun _ _ _ _ _ => trivial) reached
  exact both.2

/-- At most one frame is written for a call, between its start and its end and on the
session current at its start, and none of any kind once the client is closing. -/
theorem command_written_once {config : Config} {s : State}
    (reached : Async.Reachable (client config) s) :
    Async.Every (fun past event => ∀ write, event = .wrote write →
      .closing ∉ past ∧ ∀ c, write.call = some c → Timely past write c) s.log := by
  intro past event future split write equal
  have guarded := (reachable_guarded reached).2.2 past event future split write equal
  exact ⟨guarded.opened,
    fun c mine => reachable_timely reached past event future split write c equal mine⟩

theorem command_written_once_example : ∃ s, exampleRun = some s ∧
    (∃ write, .wrote write ∈ s.log ∧ write.call = some 0) ∧
    Async.Every (fun past event => ∀ write, event = .wrote write →
      .closing ∉ past ∧ ∀ c, write.call = some c → Timely past write c) s.log := by
  obtain ⟨s, followed, reached, -, written, -⟩ := exampleRun_spec
  exact ⟨s, followed, written, command_written_once reached⟩

end AlorairLite.Local
