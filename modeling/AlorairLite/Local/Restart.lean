import AlorairLite.Local.Change
import Mathlib.Data.List.Infix

/-! Restart protection: how the time the coordinator counts from compares with the
report that started the run of OFF reports its session ends with. -/

namespace AlorairLite.Local

/-- One more report: the start of the run of OFF reports that it ends. -/
def extendRun (start : Option DeviceStatus) (status : DeviceStatus) : Option DeviceStatus :=
  if status.power = some false then some (start.getD status) else none

/-- The report that started the current run of OFF reports. -/
def offStart (reports : List DeviceStatus) : Option DeviceStatus := reports.foldl extendRun none

@[simp] theorem offStart_concat (reports : List DeviceStatus) (status : DeviceStatus) :
    offStart (reports ++ [status]) = extendRun (offStart reports) status := by
  rw [offStart, List.foldl_append]
  rfl

/-- A report that does not say OFF. -/
def DeviceStatus.powered (status : DeviceStatus) : Bool := status.power ≠ some false

theorem DeviceStatus.powered_iff {status : DeviceStatus} :
    status.powered ↔ status.power ≠ some false := by
  simp [DeviceStatus.powered]

theorem offStart_off (reports : List DeviceStatus) {last : DeviceStatus}
    (off : last.power = some false) : ∃ start, offStart (reports ++ [last]) = some start :=
  ⟨_, by rw [offStart_concat, extendRun, if_pos off]⟩

/-- The first OFF report after a report that was not OFF, or after none. -/
theorem offStart_spec {reports : List DeviceStatus} {start : DeviceStatus}
    (began : offStart reports = some start) :
    ∃ before run, reports = before ++ start :: run ∧
      (∀ status ∈ start :: run, status.power = some false) ∧
      ∀ last, before.getLast? = some last → last.power ≠ some false := by
  induction reports using List.reverseRecOn with
  | nil => cases began
  | append_singleton reports status ih =>
    rw [offStart_concat, extendRun] at began
    split at began
    · rename_i off
      cases earlier : offStart reports with
      | some first =>
        rw [earlier] at began
        cases began
        obtain ⟨before, run, split, all, edge⟩ := ih earlier
        refine ⟨before, run ++ [status], by simp [split], fun other member => ?_, edge⟩
        rcases List.mem_append.mp (List.cons_append ▸ member) with old | fresh
        · exact all other old
        · exact List.mem_singleton.mp fresh ▸ off
      | none =>
        rw [earlier] at began
        cases began
        refine ⟨reports, [], rfl, by simpa using off, fun last ends powered => ?_⟩
        obtain ⟨older, rfl⟩ := List.getLast?_eq_some_iff.mp ends
        obtain ⟨first, found⟩ := offStart_off older powered
        rw [found] at earlier
        cases earlier
    · cases began

theorem offStart_mem {reports : List DeviceStatus} {start : DeviceStatus}
    (began : offStart reports = some start) : start ∈ reports := by
  obtain ⟨before, run, rfl, -, -⟩ := offStart_spec began
  simp

/-- Later reports keep the start of the run, unless one of them was not OFF. -/
theorem offStart_append {reports : List DeviceStatus} {start : DeviceStatus}
    (began : offStart reports = some start) (later : List DeviceStatus) :
    offStart (reports ++ later) = some start ∨ 0 < later.countP DeviceStatus.powered := by
  induction later using List.reverseRecOn with
  | nil => exact .inl (by simpa using began)
  | append_singleton later status ih =>
    rw [← List.append_assoc, offStart_concat, List.countP_append]
    rcases ih with kept | powered
    · by_cases off : status.power = some false
      · exact .inl (by rw [kept, extendRun, if_pos off]; rfl)
      · exact .inr (by simp [DeviceStatus.powered_iff.mpr off])
    · exact .inr (by omega)

/-- Seen reports that end in another report than the session leave one out. -/
theorem count_behind {seen reports : List DeviceStatus} {status last : DeviceStatus}
    (among : List.Sublist (seen ++ [status]) (reports ++ [last])) (other : status ≠ last)
    (powered : last.powered) :
    (seen ++ [status]).countP DeviceStatus.powered <
      (reports ++ [last]).countP DeviceStatus.powered := by
  have behind : List.Sublist (seen ++ [status]) reports := by
    have turned := among.reverse
    simp only [List.reverse_append, List.reverse_cons, List.reverse_nil, List.nil_append,
      List.singleton_append] at turned
    rcases List.sublist_cons_iff.mp turned with fewer | ⟨rest, same, -⟩
    · simpa using fewer.reverse
    · exact absurd (List.cons.inj same).1 other
  have fewer := behind.countP_le (p := DeviceStatus.powered)
  have grows : (reports ++ [last]).countP DeviceStatus.powered =
      reports.countP DeviceStatus.powered + 1 := by simp [powered]
  omega

/-- The report of this session that a callback was run with. -/
def Action.reportOn (sid : Nat) : Action → Option DeviceStatus
  | .observed entry => entry.reportOn sid
  | _ => none

/-- The reports of a session whose callback was run, in that order. -/
def seen (log : List Action) (sid : Nat) : List DeviceStatus := log.filterMap (Action.reportOn sid)

/-- Actions that are no callback. -/
def Action.unseen : Action → Bool
  | .observed _ => false
  | _ => true

@[simp] theorem seen_unseen (log : List Action) {action : Action} (unseen : action.unseen) :
    seen (log ++ [action]) = seen log := by
  funext sid
  rw [seen, List.filterMap_append]
  cases action <;> simp_all [Action.reportOn, Action.unseen, seen]

theorem seen_observed (log : List Action) (entry : Callback) (sid : Nat) :
    seen (log ++ [.observed entry]) sid = seen log sid ++ (entry.reportOn sid).toList := by
  rw [seen, List.filterMap_append]
  rfl

/-- This step runs the callback of a report that was not OFF and is dropped, although
the coordinator takes the appliance for off and the run of OFF reports its session ends
with began after the time it counts from. -/
def Coordinator.hidesStart (u : Coordinator) : Coordinator.Label → Bool
  | .dispatch =>
    match u.client.callbacks with
    | ⟨sid, .status status⟩ :: _ =>
      u.client.connected && u.sessionId = some sid && u.previousOn = some false &&
        status.powered && !u.accepts status &&
        match offStart (reports sid u.client.log) with
        | none => false
        | some start => u.lastOff < start.receivedMonotonic
    | _ => false
  | _ => false

/-- The coordinator takes the appliance for off, on a session it still hears. -/
structure Resting (u : Coordinator) (sid : Nat) : Prop where
  session : u.sessionId = some sid
  opened : u.closing = false
  off : u.previousOn = some false
  live : u.client.Open sid

/-- Either some report that was not OFF is still to come, or the coordinator counts from
a time after the run of OFF reports began. -/
def Guarding (seen reports : List DeviceStatus) (lastOff : ℚ) : Prop :=
  seen.countP DeviceStatus.powered < reports.countP DeviceStatus.powered ∨
    ∃ start, offStart reports = some start ∧ start.receivedMonotonic ≤ lastOff

/-- What every reachable state knows about restart protection. -/
structure Sheltered (u : Coordinator) : Prop where
  inOrder : InOrder (seen u.log) u.client
  shown : u.receivedMonotonic.isSome →
    u.data.bind Data.powerStatus = switchCode u.previousOn
  known : ∀ sid, u.sessionId = some sid → u.client.knows sid
  sequence : ∀ sid, u.sessionId = some sid → u.receiveSequence = -1 ∨
    ∃ status ∈ reports sid u.client.log, (status.receiveSequence : Int) = u.receiveSequence
  received : ∀ sid monotonic, u.sessionId = some sid → u.receivedMonotonic = some monotonic →
    ∃ status ∈ reports sid u.client.log, status.receivedMonotonic = monotonic
  guarding : ∀ sid, Resting u sid →
    Guarding (seen u.log sid) (reports sid u.client.log) u.lastOff
  valid : ∀ k, k < u.orderCount → (u.orders k).order.Valid

theorem Guarding.append {seen reports : List DeviceStatus} {lastOff : ℚ}
    (guarding : Guarding seen reports lastOff) (among : List.Sublist seen reports)
    (later : List DeviceStatus) : Guarding seen (reports ++ later) lastOff := by
  have fewer := among.countP_le (p := DeviceStatus.powered)
  rcases guarding with behind | ⟨start, began, received⟩
  · left
    rw [List.countP_append]
    omega
  · rcases offStart_append began later with kept | powered
    · exact .inr ⟨start, kept, received⟩
    · left
      rw [List.countP_append]
      omega

/-- The time counted from only moves to the present. -/
theorem Guarding.moved {s : State} {sid : Nat} {seen : List DeviceStatus} {lastOff later : ℚ}
    (guarding : Guarding seen (reports sid s.log) lastOff) (reported : Reported s sid)
    (moved : later = lastOff ∨ later = s.now) : Guarding seen (reports sid s.log) later := by
  rcases guarding with behind | ⟨start, began, received⟩
  · exact .inl behind
  · refine .inr ⟨start, began, ?_⟩
    rcases moved with rfl | rfl
    · exact received
    · exact reported.past (offStart_mem began)

theorem Effects.inOrder {config : Config} {overflow : Prop} {seen : Nat → List DeviceStatus}
    {s after : State} (effects : Effects config overflow s after) (inOrder : InOrder seen s) :
    InOrder seen after := by
  induction effects with
  | refl => exact inOrder
  | tail _ effect ih => exact effect.inOrder ih

/-- A change that leaves what the coordinator believes about the appliance. -/
structure SameStop (u after : Coordinator) : Prop where
  sessionId : after.sessionId = u.sessionId := by rfl
  receiveSequence : after.receiveSequence = u.receiveSequence := by rfl
  receivedMonotonic : after.receivedMonotonic = u.receivedMonotonic := by rfl
  previousOn : after.previousOn = u.previousOn := by rfl
  data : after.data = u.data := by rfl
  opened : after.closing = false → u.closing = false := by exact id
  seen : seen after.log = seen u.log := by rfl
  lastOff : after.lastOff = u.lastOff ∨ after.lastOff = after.client.now := by exact .inl rfl
  valid : (∀ k, k < u.orderCount → (u.orders k).order.Valid) →
    ∀ k, k < after.orderCount → (after.orders k).order.Valid := by exact id

theorem Sheltered.keep {u after : Coordinator} (sheltered : Sheltered u)
    (later : Later u.client after.client) (inOrder : InOrder (seen u.log) after.client)
    (reporting : Reporting after.client) (same : SameStop u after) : Sheltered after := by
  obtain ⟨events, log⟩ := later.log
  have grows : ∀ sid, reports sid after.client.log =
      reports sid u.client.log ++ reports sid events := fun sid => by rw [log, reports_append]
  have still : ∀ sid status, status ∈ reports sid u.client.log →
      status ∈ reports sid after.client.log := fun sid status member => by
    rw [grows]
    exact List.mem_append_left _ member
  constructor
  · rw [same.seen]
    exact inOrder
  · rw [same.receivedMonotonic, same.data, same.previousOn]
    exact sheltered.shown
  · rw [same.sessionId]
    exact fun sid entered => later.knows (sheltered.known sid entered)
  · rw [same.sessionId, same.receiveSequence]
    intro sid entered
    rcases sheltered.sequence sid entered with fresh | ⟨status, member, equal⟩
    · exact .inl fresh
    · exact .inr ⟨status, still sid status member, equal⟩
  · rw [same.sessionId, same.receivedMonotonic]
    intro sid monotonic entered received
    obtain ⟨status, member, equal⟩ := sheltered.received sid monotonic entered received
    exact ⟨status, still sid status member, equal⟩
  · intro sid resting
    have entered : u.sessionId = some sid := same.sessionId ▸ resting.session
    have before : Resting u sid :=
      ⟨entered, same.opened resting.opened, same.previousOn ▸ resting.off,
        later.opened sid (sheltered.known sid entered) resting.live⟩
    have among : List.Sublist (seen u.log sid) (reports sid u.client.log) :=
      (List.sublist_append_left ..).trans (sheltered.inOrder.among sid)
    have guarding := (sheltered.guarding sid before).append among (reports sid events)
    rw [same.seen]
    rw [← grows] at guarding
    exact guarding.moved (reporting.reported sid) same.lastOff
  · exact same.valid sheltered.valid

theorem reports_known {s : State} {sid : Nat} {status : DeviceStatus} (shape : Shape s)
    (member : status ∈ reports sid s.log) : s.knows sid := by
  refine Classical.byContradiction fun unknown => ?_
  rw [reports_unknown shape unknown] at member
  cases member

theorem Reported.latest {s : State} {sid : Nat} {last status : DeviceStatus}
    (reported : Reported s sid) (ends : (reports sid s.log).getLast? = some last)
    (member : status ∈ reports sid s.log) : Precedes status last := by
  obtain ⟨older, split⟩ := List.getLast?_eq_some_iff.mp ends
  have ordered := reported.ordered
  rw [split] at ordered member
  rcases List.mem_append.mp member with old | fresh
  · exact (List.pairwise_append.mp ordered).2.2 status old last (by simp)
  · obtain rfl := List.mem_singleton.mp fresh
    exact ⟨le_rfl, le_rfl⟩

/-- Publishing a report of the session: what it must know when the report is OFF. -/
theorem Sheltered.publish {u : Coordinator} {status : DeviceStatus}
    (inOrder : InOrder (seen u.log) u.client) (shape : Shape u.client)
    (valid : ∀ k, k < u.orderCount → (u.orders k).order.Valid)
    (member : status ∈ reports status.sessionId u.client.log)
    (edge : status.power = some false → Guarding (seen u.log status.sessionId)
      (reports status.sessionId u.client.log) u.client.now)
    (kept : status.power = some false → u.previousOn = some false →
      u.sessionId = some status.sessionId → u.closing = false →
      u.client.Open status.sessionId → Guarding (seen u.log status.sessionId)
        (reports status.sessionId u.client.log) u.lastOff) :
    Sheltered ((u.enterSession status).publish status) := by
  have entered : (u.enterSession status).previousOn = some false →
      u.previousOn = some false ∧ u.sessionId = some status.sessionId ∧
        (u.enterSession status).lastOff = u.lastOff := by
    intro off
    by_cases fresh : some status.sessionId ≠ u.sessionId
    · rw [Coordinator.enterSession, if_pos fresh] at off
      cases off
    · rw [Coordinator.enterSession, if_neg fresh] at off ⊢
      exact ⟨off, (Decidable.not_not.mp fresh).symm, rfl⟩
  constructor
  · simp only [Coordinator.publish_fields, Coordinator.enterSession_fields]
    rw [seen_unseen _ (by rfl)]
    exact inOrder
  · simp [DeviceStatus.data]
  · intro sid session
    obtain rfl : status.sessionId = sid := by simpa using session
    simpa using reports_known shape member
  · intro sid session
    obtain rfl : status.sessionId = sid := by simpa using session
    exact .inr ⟨status, by simpa using member, by simp⟩
  · intro sid monotonic session received
    obtain rfl : status.sessionId = sid := by simpa using session
    exact ⟨status, by simpa using member, by simpa using received⟩
  · intro sid resting
    obtain rfl : status.sessionId = sid := by simpa using resting.session
    have off : status.power = some false := by simpa using resting.off
    simp only [Coordinator.publish_fields, Coordinator.enterSession_fields]
    rw [seen_unseen _ (by rfl)]
    by_cases before : (u.enterSession status).previousOn = some false
    · obtain ⟨previous, session, same⟩ := entered before
      rw [if_neg (by simp [before]), same]
      exact kept off previous session (by simpa using resting.opened) (by simpa using resting.live)
    · rw [if_pos ⟨off, before⟩]
      exact edge off
  · simpa using valid

/-- The latest status of a connected client is the last report of its session. -/
theorem Attached.latest {config : Config} {u : Coordinator} {latest : DeviceStatus}
    (attached : Attached config u) (shown : u.client.lastStatus = some latest) :
    u.client.connected ∧ u.client.status = some latest ∧ u.client.Open latest.sessionId ∧
      (reports latest.sessionId u.client.log).getLast? = some latest := by
  simp only [State.lastStatus] at shown
  split at shown
  · rename_i connected
    obtain ⟨opened, sid, current, -, live⟩ := State.connected_spec connected
    have last := attached.reporting.latest opened sid current
    rw [shown] at last
    have member := List.mem_of_getLast? last.symm
    obtain ⟨home, -⟩ := (attached.reporting.reported sid).bounded latest member
    rw [home]
    exact ⟨connected, shown, ⟨current, opened, live⟩, last.symm⟩
  · cases shown

/-- `_on_status` called with the latest status. -/
theorem Sheltered.onLatest {config : Config} {u : Coordinator} {latest : DeviceStatus}
    (sheltered : Sheltered u) (attached : Attached config u)
    (shown : u.client.lastStatus = some latest) : Sheltered (u.onStatus latest) := by
  obtain ⟨-, -, -, last⟩ := attached.latest shown
  have member := List.mem_of_getLast? last
  rw [Coordinator.onStatus_eq]
  split
  · refine .publish sheltered.inOrder attached.coherent.shape sheltered.valid member ?_ ?_
    · intro off
      obtain ⟨older, split⟩ := List.getLast?_eq_some_iff.mp last
      obtain ⟨start, began⟩ := offStart_off older off
      rw [← split] at began
      exact .inr ⟨start, began, (attached.reporting.reported _).past (offStart_mem began)⟩
    · intro off previous session opened live
      exact sheltered.guarding _ ⟨session, opened, previous, live⟩
  · exact sheltered

/-- A change that keeps the client and what the coordinator believes. -/
theorem Sheltered.aside {config : Config} {u after : Coordinator} (sheltered : Sheltered u)
    (attached : Attached config u) (client : after.client = u.client) (same : SameStop u after) :
    Sheltered after :=
  sheltered.keep (client ▸ .refl _) (client ▸ sheltered.inOrder) (client ▸ attached.reporting) same

theorem Sheltered.confirmReport {config : Config} {u : Coordinator} (sheltered : Sheltered u)
    (attached : Attached config u) (order : Order) (status : DeviceStatus) :
    Sheltered (u.confirmReport order status) := by
  cases shown : u.client.lastStatus with
  | none =>
    simp only [Coordinator.confirmReport, shown]
    refine sheltered.aside attached rfl { lastOff := ?_ }
    dsimp only
    split
    · exact .inr rfl
    · exact .inl rfl
  | some latest =>
    simp only [Coordinator.confirmReport, shown]
    refine Sheltered.onLatest (sheltered.aside attached rfl { lastOff := ?_ })
      ⟨attached.coherent, attached.reporting⟩ shown
    dsimp only
    split
    · exact .inr rfl
    split
    · exact .inr rfl
    · exact .inl rfl

theorem Sheltered.conclude {config : Config} {u : Coordinator} (sheltered : Sheltered u)
    (attached : Attached config u) (k : Nat) (verdict : Verdict) :
    Sheltered (u.conclude k verdict) := by
  have valid : ∀ d, d < u.orderCount → ((u.conclude k verdict).orders d).order.Valid := by
    intro d known
    rw [(Coordinator.conclude_fields u k verdict).2.2.1, update_field OrderTask.order (by rfl) d]
    exact sheltered.valid d known
  have unseen : ∀ log, seen (log ++ [.concluded k verdict]) = seen log := fun log =>
    seen_unseen log (by rfl)
  cases verdict with
  | reported status =>
    have confirmed := sheltered.confirmReport attached (u.orders k).order status
    have handled : Attached config (u.confirmReport (u.orders k).order status) :=
      ⟨by simpa using attached.coherent, by simpa using attached.reporting⟩
    exact confirmed.aside handled rfl
      { seen := unseen _, valid := fun _ d known => valid d (by simpa using known) }
  | uncertain =>
    exact sheltered.aside attached rfl { seen := unseen _, valid := fun _ => valid }
  | rejected =>
    exact sheltered.aside attached rfl { seen := unseen _, valid := fun _ => valid }
  | failed error =>
    exact sheltered.aside attached rfl { seen := unseen _, valid := fun _ => valid }

/-- `_on_status` publishes the latest status of its session. -/
theorem Sheltered.accepts {config : Config} {u : Coordinator} {latest : DeviceStatus}
    (sheltered : Sheltered u) (attached : Attached config u) (opened : u.closing = false)
    (session : u.sessionId = some latest.sessionId) (shown : u.client.lastStatus = some latest) :
    u.accepts latest := by
  obtain ⟨connected, -, -, last⟩ := attached.latest shown
  have reported := attached.reporting.reported latest.sessionId
  have entered : u.enterSession latest = u := by
    rw [Coordinator.enterSession, if_neg (by simp [session])]
  have sequence : ¬ (latest.receiveSequence : Int) < u.receiveSequence := by
    rcases sheltered.sequence _ session with fresh | ⟨status, member, equal⟩
    · omega
    · have order := (reported.latest last member).1
      omega
  have heard : u.ignores latest = false := by
    simp [Coordinator.ignores, opened, connected, shown, session]
  have current : u.outdated latest = false := by
    rw [Coordinator.outdated]
    cases received : u.receivedMonotonic with
    | none => simpa using sequence
    | some monotonic =>
      obtain ⟨status, member, equal⟩ := sheltered.received _ monotonic session received
      have order := (reported.latest last member).2
      simp only [Bool.or_eq_false_iff, decide_eq_false_iff_not, not_lt]
      exact ⟨by simpa using sequence, equal ▸ order⟩
  simp [Coordinator.accepts, heard, entered, current]

/-- Whether a report is published depends on the client through its latest status. -/
theorem Coordinator.accepts_client (u : Coordinator) (client : State) (log : List Action)
    (status : DeviceStatus) (shown : client.lastStatus = u.client.lastStatus)
    (connected : client.connected = u.client.connected) (now : client.now = u.client.now) :
    ({ u with client, log } : Coordinator).accepts status = u.accepts status := by
  have entered : ({ u with client, log } : Coordinator).enterSession status =
      { u.enterSession status with client, log } := by
    simp only [Coordinator.enterSession, now]
    split <;> rfl
  simp only [Coordinator.accepts, Coordinator.ignores, Coordinator.outdated, shown, connected,
    entered]

theorem Sheltered.onDisconnect {u : Coordinator} (sheltered : Sheltered u) (session : Nat) :
    Sheltered (u.onDisconnect session) := by
  unfold Coordinator.onDisconnect
  split
  · exact sheltered
  · refine ⟨sheltered.inOrder, ?_, sheltered.known, sheltered.sequence, ?_, ?_, sheltered.valid⟩
    · rintro ⟨⟩
    · rintro sid monotonic - ⟨⟩
    · intro sid resting
      cases resting.off

/-- The callback that runs is the first of those that were awaiting. -/
theorem InOrder.observe {log : List Action} {s : State} {entry : Callback} {rest : List Callback}
    (inOrder : InOrder (seen log) s) (next : s.callbacks = entry :: rest)
    (free : s.dispatching = none) :
    InOrder (seen (log ++ [.observed entry])) (s.notified entry rest) := by
  constructor
  · intro sid
    have among := inOrder.among sid
    rw [awaiting, next, free, Option.toList_none, List.nil_append, notified_cons] at among
    rw [seen_observed, List.append_assoc]
    simpa [awaiting, State.notified] using among
  · intro past sid raw frame status split
    obtain ⟨-, same⟩ := List.append_inj' split rfl
    cases same

/-- A report that was not published: unless it hides the start of a run, either a later
report is still to come or the run began before the time counted from. -/
theorem Sheltered.dropped {config : Config} {u : Coordinator} {status : DeviceStatus} {sid : Nat}
    (sheltered : Sheltered u) (attached : Attached config u) (resting : Resting u sid)
    (dropped : u.accepts status = false)
    (among : List.Sublist (seen u.log sid ++ [status]) (reports sid u.client.log))
    (told : status.powered → u.client.connected → ∀ start,
      offStart (reports sid u.client.log) = some start → start.receivedMonotonic ≤ u.lastOff) :
    Guarding (seen u.log sid ++ [status]) (reports sid u.client.log) u.lastOff := by
  have member : status ∈ reports sid u.client.log := among.subset (by simp)
  rcases sheltered.guarding sid resting with behind | counted
  · by_cases powered : status.powered
    · have verified := (attached.reporting.reported sid).verified (List.ne_nil_of_mem member)
      have connected : u.client.connected := by
        simp [State.connected, resting.live.current, resting.live.opened, resting.live.live, verified]
      cases began : offStart (reports sid u.client.log) with
      | some start => exact .inr ⟨start, began, told powered connected start began⟩
      | none =>
        obtain ⟨older, last, split⟩ := List.eq_nil_or_concat _ |>.resolve_left
          (List.ne_nil_of_mem member)
        rw [List.concat_eq_append] at split
        have lastPowered : last.powered := DeviceStatus.powered_iff.mpr fun off => by
          obtain ⟨start, found⟩ := offStart_off older off
          rw [split, found] at began
          cases began
        by_cases same : status = last
        · -- the last report is the latest status, and that one is always published
          have ends : (reports sid u.client.log).getLast? = some status := by simp [split, same]
          have latest := attached.reporting.latest resting.live.opened sid resting.live.current
          have shown : u.client.lastStatus = some status := by
            rw [State.lastStatus, if_pos connected, latest, ends]
          obtain ⟨home, -⟩ := (attached.reporting.reported sid).bounded status member
          have published := sheltered.accepts attached resting.opened (home ▸ resting.session) shown
          rw [dropped] at published
          cases published
        · rw [split] at among ⊢
          exact .inl (count_behind among same lastPowered)
    · exact .inl (by simpa [powered] using behind)
  · exact .inr counted

theorem Sheltered.observe {config : Config} {u : Coordinator} {entry : Callback} {client : State}
    (sheltered : Sheltered u) (attached : Attached config u)
    (moved : u.client.dispatch = some client) (running : client.dispatching = some entry)
    (met : u.hidesStart .dispatch = false) :
    Sheltered (({ u with client } : Coordinator).observe entry) := by
  obtain ⟨head, rest, next, free, rfl⟩ := State.dispatch_spec moved
  obtain rfl : head = entry := Option.some.inj running
  have taken : Effects config.coordinated False u.client (u.client.notified head rest) :=
    (Relation.ReflTransGen.single (Effect.dispatch next free)).tail .idle
  obtain ⟨coherent, reporting⟩ := taken.attached attached
  have inOrder := sheltered.inOrder.observe next free
  have later := taken.later
  have log : ∀ sid, reports sid (u.client.notified head rest).log = reports sid u.client.log :=
    fun sid => by simp [State.notified]
  obtain ⟨home, notice⟩ := head
  cases notice with
  | disconnect reason =>
    have unseen : seen (u.log ++ [.observed ⟨home, .disconnect reason⟩]) = seen u.log := by
      funext sid
      rw [seen_observed]
      simp
    have noted : Sheltered { u with
        client := u.client.notified ⟨home, .disconnect reason⟩ rest
        log := u.log ++ [.observed ⟨home, .disconnect reason⟩] } :=
      sheltered.keep later (unseen ▸ inOrder) reporting { seen := unseen }
    exact noted.onDisconnect home
  | status status =>
    have added : seen (u.log ++ [.observed ⟨home, .status status⟩]) home =
        seen u.log home ++ [status] := by simp [seen_observed]
    have among : List.Sublist (seen u.log home ++ [status]) (reports home u.client.log) := by
      have first := inOrder.among home
      rw [added, log] at first
      exact (List.sublist_append_left ..).trans first
    have member : status ∈ reports home u.client.log := among.subset (by simp)
    obtain ⟨same, -⟩ := (attached.reporting.reported home).bounded status member
    subst same
    have handled : ({ u with client := { u.client.notified ⟨status.sessionId, .status status⟩ rest with
        dispatching := some ⟨status.sessionId, .status status⟩ } } : Coordinator).observe
          ⟨status.sessionId, .status status⟩ = ({ u with
        client := u.client.notified ⟨status.sessionId, .status status⟩ rest
        log := u.log ++ [.observed ⟨status.sessionId, .status status⟩] } : Coordinator).onStatus
          status := rfl
    have accepted := u.accepts_client (u.client.notified ⟨status.sessionId, .status status⟩ rest)
      (u.log ++ [.observed ⟨status.sessionId, .status status⟩]) status rfl rfl rfl
    rw [handled, Coordinator.onStatus_eq, accepted]
    split
    · refine .publish inOrder coherent.shape sheltered.valid (by simpa [log] using member) ?_ ?_
      · intro off
        dsimp only
        rw [added, log]
        obtain ⟨older, last, split⟩ := List.eq_nil_or_concat _ |>.resolve_left
          (List.ne_nil_of_mem member)
        rw [List.concat_eq_append] at split
        by_cases lastOff : last.power = some false
        · obtain ⟨start, began⟩ := offStart_off older lastOff
          rw [← split] at began
          exact .inr ⟨start, began, (attached.reporting.reported _).past (offStart_mem began)⟩
        · rw [split] at among ⊢
          exact .inl (count_behind among (fun equal => lastOff (equal ▸ off))
            (DeviceStatus.powered_iff.mpr lastOff))
      · intro off previous session opened live
        dsimp only
        rw [added, log]
        have resting : Resting u status.sessionId :=
          ⟨session, opened, previous, live.current, live.opened, live.live⟩
        rcases sheltered.guarding _ resting with behind | counted
        · exact .inl (by simpa [DeviceStatus.powered, off] using behind)
        · exact .inr counted
    · rename_i ignored
      have dropped : u.accepts status = false := Bool.eq_false_iff.mpr ignored
      refine ⟨inOrder, sheltered.shown, fun sid entered => later.knows (sheltered.known sid entered),
        ?_, ?_, ?_, sheltered.valid⟩
      · intro sid entered
        rw [log]
        exact sheltered.sequence sid entered
      · intro sid monotonic entered received
        rw [log]
        exact sheltered.received sid monotonic entered received
      · intro sid resting
        have before : Resting u sid := ⟨resting.session, resting.opened, resting.off,
          resting.live.current, resting.live.opened, resting.live.live⟩
        dsimp only
        rw [log]
        by_cases same : status.sessionId = sid
        · subst same
          rw [added]
          refine sheltered.dropped attached before dropped among fun powered connected start began => ?_
          refine le_of_not_gt fun late => ?_
          simp [Coordinator.hidesStart, next, connected, before.session, before.off, powered,
            dropped, began, late] at met
        · have unseen : seen (u.log ++ [.observed ⟨status.sessionId, .status status⟩]) sid =
              seen u.log sid := by simp [seen_observed, same]
          rw [unseen]
          exact sheltered.guarding sid before

theorem Change.sheltered {config : Config} {origin u after : Coordinator}
    {label : Coordinator.Label} (change : Change config origin label u after)
    (started : Attached config origin) (initial : Sheltered origin)
    (met : origin.hidesStart label = false) (attached : Attached config u)
    (sheltered : Sheltered u) : Sheltered after := by
  have remains := change.attached started attached
  cases change with
  | client effects =>
    exact sheltered.keep effects.later (effects.inOrder sheltered.inOrder) remains.reporting {}
  | observe dispatched moved running =>
    rw [dispatched] at met
    exact initial.observe started moved running met
  | @begin u k waiting free admitted =>
    have called : Effects config.coordinated False u.client (u.beginCall config k).client :=
      call_effects (u.orders k).order.request
    refine sheltered.keep called.later (called.inOrder sheltered.inOrder) remains.reporting
      { seen := seen_unseen _ (by rfl), lastOff := ?_, valid := fun valid d known => ?_ }
    · rw [Coordinator.beginCall, State.call_now]
      simp only [Coordinator.issue]
      split
      · exact .inr rfl
      · exact .inl rfl
    · simp only [Coordinator.beginCall, Coordinator.issue, Function.update_idem]
      rw [update_field OrderTask.order (by simp) d]
      exact valid d known
  | conclude calling ending later => exact sheltered.conclude attached _ _
  | @mark u k c expired calling =>
    refine sheltered.aside attached rfl { valid := fun valid d known => ?_ }
    simp only [Coordinator.markCancelled]
    rw [update_field OrderTask.order (by rfl) d]
    exact valid d known
  | @finish u k error waiting =>
    refine sheltered.aside attached rfl { valid := fun valid d known => ?_ }
    simp only [Coordinator.endOrder]
    rw [update_field OrderTask.order (by rfl) d]
    exact valid d known
  | @order u order opened accepted =>
    refine sheltered.aside attached rfl { valid := fun valid d known => ?_ }
    by_cases new : d = u.orderCount
    · simpa [new] using accepted
    · simp only [Function.update_of_ne new]
      exact valid d (by simp only at known; omega)
  | watch =>
    refine sheltered.aside attached (Coordinator.watch_fields _).1 ?_
    simp only [Coordinator.watch]
    split <;> exact {}
  | note => exact sheltered.aside attached rfl {}
  | close => exact sheltered.aside attached rfl { opened := by rintro ⟨⟩ }

theorem Run.sheltered {config : Config} {u : Coordinator}
    (run : Async.Run (coordinator config) (fun u label => u.hidesStart label = false) u) :
    Attached config u ∧ Sheltered u := by
  refine Run.changes Sheltered ?_ ?_ run
  · intro now wall localPower epoch
    constructor
    · refine ⟨fun sid => by simp [Coordinator.start, State.start, seen, awaiting, notified], ?_⟩
      intro past sid raw frame status split
      simp [Coordinator.start, State.start] at split
    · rintro ⟨⟩
    · rintro sid ⟨⟩
    · rintro sid ⟨⟩
    · rintro sid monotonic ⟨⟩
    · intro sid resting
      cases resting.session
    · intro k known
      cases known
  · exact fun origin label u after started initial met attached sheltered change =>
      change.sheltered started initial met attached sheltered

theorem truncate_nonpos {value : ℚ} (expired : Coordinator.truncate value ≤ 0) : value < 1 := by
  by_cases positive : 0 ≤ value
  · rw [Coordinator.truncate, if_pos positive] at expired
    have below : value < (value.floor : ℚ) + 1 := Int.lt_floor_add_one value
    have bound : (value.floor : ℚ) ≤ 0 := by exact_mod_cast expired
    linarith
  · linarith

/-- The restart delay is over only when the coordinator has counted it down. -/
theorem Coordinator.restartDelayRemaining_zero {u : Coordinator}
    (elapsed : u.restartDelayRemaining = 0) (off : u.data.bind Data.powerStatus = some "00") :
    (minimumOffSeconds : ℚ) - 1 / 1000 < u.client.now - u.lastOff := by
  have unshown : ¬ (u.data.bind Data.powerStatus = some "01" ∧ u.statusStale = false) := by
    simp [off]
  rw [Coordinator.restartDelayRemaining, if_neg unshown] at elapsed
  split at elapsed
  · exact absurd elapsed (by decide)
  · have counted := truncate_nonpos (max_eq_left_iff.mp elapsed)
    linarith

theorem Order.Valid.starts {order : Order} (valid : order.Valid)
    (request : order.request = .setPower true) : order.starting ∧ order.stopping = false := by
  cases valid with
  | power on requiresOn =>
    obtain rfl : on = true := Request.setPower.inj request
    simp [Order.starting, Order.stopping]
  | unit unit requiresOn => cases request
  | humidity target requiresOn offered => cases request

/-- A step that makes a client call has passed the checks of its command. -/
theorem Coordinator.invokes_admitted {u : Coordinator} {label : Coordinator.Label}
    {request : Request} (invoked : u.invokes label = some request) :
    ∃ k, k < u.orderCount ∧ (u.orders k).order.request = request ∧ Admitted u (u.orders k).order := by
  cases label with
  | proceed k =>
    simp only [Coordinator.invokes] at invoked
    split at invoked
    · rename_i ready
      obtain ⟨known, -, -, admitted⟩ := ready
      exact ⟨k, known, Option.some.inj invoked, Coordinator.admission_admitted admitted⟩
    · cases invoked
  | _ => cases invoked

theorem switchCode_off {flag : Option Bool} (shown : switchCode flag = some "00") :
    flag = some false := by
  match flag with
  | some false => rfl
  | some true => exact absurd shown (by decide)
  | none => cases shown

/-- A command is admitted on fresh data only for the session that is open. -/
theorem Coordinator.fresh_spec {config : Config} {u : Coordinator} (attached : Attached config u)
    (fresh : u.statusStale = false) :
    ∃ sid, u.sessionId = some sid ∧ u.closing = false ∧ u.client.Open sid ∧
      u.receivedMonotonic.isSome := by
  simp only [Coordinator.statusStale, Bool.or_eq_false_iff, Bool.not_eq_false'] at fresh
  obtain ⟨⟨opened, connected⟩, current⟩ := fresh
  split at current
  · rename_i latest monotonic shown received
    simp only [decide_eq_false_iff_not, not_or, Decidable.not_not] at current
    obtain ⟨-, -, live, -⟩ := attached.latest shown
    exact ⟨latest.sessionId, current.1.symm, opened, live, by simp [received]⟩
  · cases current

/-- Restart protection counts from the observed stop, in every run that hides no start of
a run of OFF reports: a call of `async_set_power(True)` while the published state is OFF
comes late enough after the report that started the run. -/
theorem restart_counts_from_stop {config : Config} {u : Coordinator} {label : Coordinator.Label}
    {sid : Nat}
    (run : Async.Run (coordinator config) (fun u label => u.hidesStart label = false) u)
    (invoked : u.invokes label = some (.setPower true))
    (off : u.data.bind Data.powerStatus = some "00") (current : u.client.session = some sid)
    (dispatched : seen u.log sid = reports sid u.client.log) :
    ∃ start, offStart (reports sid u.client.log) = some start ∧
      (minimumOffSeconds : ℚ) - 1 / 1000 < u.client.now - start.receivedMonotonic := by
  obtain ⟨attached, sheltered⟩ := Run.sheltered run
  obtain ⟨k, known, request, admitted⟩ := Coordinator.invokes_admitted invoked
  obtain ⟨starting, unstopping⟩ := (sheltered.valid k known).starts request
  obtain ⟨home, session, opened, live, heard⟩ :=
    Coordinator.fresh_spec attached (admitted.fresh unstopping)
  obtain rfl : home = sid := Option.some.inj (live.current.symm.trans current)
  have previous : u.previousOn = some false :=
    switchCode_off ((sheltered.shown heard).symm.trans off)
  have counted := Coordinator.restartDelayRemaining_zero (admitted.rested starting) off
  rcases sheltered.guarding home ⟨session, opened, previous, live⟩ with behind | ⟨start, began, later⟩
  · rw [dispatched] at behind
    exact absurd behind (Nat.lt_irrefl _)
  · exact ⟨start, began, by linarith⟩

def askPower : Coordinator.Label :=
  .command "async_set_power" [.bool true] "powerStatus" (.text "01") false

def connectOff : List Coordinator.Label :=
  [.client (.accept (some "192.0.2.1")), .client .start, .setOption true] ++
    hear (exampleReport 0x20 0) 1

/-- An appliance that stays off is started after three minutes. -/
def restedLabels : List Coordinator.Label :=
  connectOff ++ [.client (.tick 181)] ++ hear (exampleReport 0x20 0) 1 ++ [askPower]

theorem restart_counts_from_stop_example : ∃ u start,
    (coordinator exampleConfig).follow exampleCoordinator restedLabels = some u ∧
    u.invokes (.proceed 0) = some (.setPower true) ∧
    offStart (reports 1 u.client.log) = some start ∧
    (minimumOffSeconds : ℚ) - 1 / 1000 < u.client.now - start.receivedMonotonic := by
  have shown : ((((coordinator exampleConfig).checked fun u label => !u.hidesStart label).follow
      exampleCoordinator restedLabels).map fun u =>
        u.invokes (.proceed 0) = some (.setPower true) &&
        (u.data.bind Data.powerStatus = some "00" &&
        (u.client.session = some 1 && seen u.log 1 = reports 1 u.client.log))) = some true := by
    decide +kernel
  obtain ⟨u, followed, facts⟩ := Option.map_eq_some_iff.mp shown
  simp only [Bool.and_eq_true, decide_eq_true_eq] at facts
  obtain ⟨invoked, off, current, dispatched⟩ := facts
  have started : Async.Run (coordinator exampleConfig) (fun u label => u.hidesStart label = false)
      exampleCoordinator := .start ⟨0, 0, false, le_rfl, rfl⟩
  obtain ⟨run, taken⟩ := started.of_checked (fun u label passed => by simpa using passed) followed
  obtain ⟨start, began, rested⟩ := restart_counts_from_stop run invoked off current dispatched
  exact ⟨u, start, taken, invoked, began, rested⟩

/-- An appliance that reports ON and OFF in one read, 150 seconds after it was off, and
is started 31 seconds later. -/
def hiddenLabels : List Coordinator.Label :=
  connectOff ++ [.client (.tick 150)] ++ hear (exampleReport 0x20 1 ++ exampleReport 0x20 0) 2 ++
    [.client (.tick 31)] ++ hear (exampleReport 0x20 0) 1 ++ [askPower]

/-- The ON report is dropped, so the start 31 seconds after the stop is let through. -/
theorem hidden_start_not_counted : ∃ u start,
    Async.Reachable (coordinator exampleConfig) u ∧
    u.invokes (.proceed 0) = some (.setPower true) ∧
    u.data.bind Data.powerStatus = some "00" ∧ u.client.session = some 1 ∧
    seen u.log 1 = reports 1 u.client.log ∧ offStart (reports 1 u.client.log) = some start ∧
    ¬ (minimumOffSeconds : ℚ) - 1 / 1000 < u.client.now - start.receivedMonotonic := by
  have shown : (((coordinator exampleConfig).follow exampleCoordinator hiddenLabels).map fun u =>
        u.invokes (.proceed 0) = some (.setPower true) &&
        (u.data.bind Data.powerStatus = some "00" &&
        (u.client.session = some 1 && (seen u.log 1 = reports 1 u.client.log &&
        (offStart (reports 1 u.client.log)).any fun start : DeviceStatus =>
          ¬ (minimumOffSeconds : ℚ) - 1 / 1000 < u.client.now - start.receivedMonotonic)))) =
      some true := by decide +kernel
  obtain ⟨u, followed, facts⟩ := Option.map_eq_some_iff.mp shown
  simp only [Bool.and_eq_true, decide_eq_true_eq, Option.any_eq_true_iff_get] at facts
  obtain ⟨invoked, off, current, dispatched, started, early⟩ := facts
  exact ⟨u, _, Async.Run.follow (.start ⟨0, 0, false, le_rfl, rfl⟩) (fun _ _ => trivial) followed,
    invoked, off, current, dispatched, (Option.some_get started).symm, early⟩

end AlorairLite.Local
