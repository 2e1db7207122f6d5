import AlorairLite.Async.History
import AlorairLite.Local.Change

/-! The reports that the coordinator publishes, from the queue and behind a confirmed
command: they never go back, and after a disconnect the status is stale until the next one. -/

namespace AlorairLite.Local

@[simp] def Action.publishes : Action → Option DeviceStatus
  | .published status => some status
  | _ => none

/-- The disconnect of a session whose callback runs here. -/
@[simp] def Action.disconnects : Action → Option Nat
  | .observed ⟨session, .disconnect _⟩ => some session
  | _ => none

/-- The published reports, the oldest first. -/
def publications (log : List Action) : List DeviceStatus := log.filterMap Action.publishes

/-- The session of the report that is published last. -/
def publishedSession (log : List Action) : Option Nat :=
  (publications log).getLast?.map (·.sessionId)

/-- A report of a later session, or one of the same session that is not behind. -/
def Onwards (earlier later : DeviceStatus) : Prop :=
  earlier.sessionId < later.sessionId ∨
    earlier.sessionId = later.sessionId ∧ Precedes earlier later

theorem Onwards.trans {first second third : DeviceStatus} (earlier : Onwards first second)
    (later : Onwards second third) : Onwards first third := by
  rcases earlier with newer | ⟨same, sequence, monotonic⟩
  · rcases later with newer' | ⟨same', -⟩
    · exact .inl (Nat.lt_trans newer newer')
    · exact .inl (same' ▸ newer)
  · rcases later with newer' | ⟨same', sequence', monotonic'⟩
    · exact .inl (same ▸ newer')
    · exact .inr ⟨same.trans same', Nat.le_trans sequence sequence', le_trans monotonic monotonic'⟩

/-- What the coordinator has published, and what it has not heard yet. -/
structure Publishing (u : Coordinator) : Prop where
  awaited : InOrder (fun _ => []) u.client
  stamped : ∀ sid, Stamped u.client sid
  decoded : ∀ status ∈ publications u.log, status ∈ reports status.sessionId u.client.log
  session : u.sessionId = publishedSession u.log
  sequence : ∀ status, (publications u.log).getLast? = some status →
    u.receiveSequence = status.receiveSequence
  ordered : (publications u.log).Pairwise Onwards
  stale : ∀ past action future session, u.log = past ++ action :: future →
    action.disconnects = some session → publishedSession past = some session →
      publications future = [] → u.receivedMonotonic = none ∨ u.closing

@[simp] theorem publications_append (log later : List Action) :
    publications (log ++ later) = publications log ++ publications later := List.filterMap_append ..

/-- An event that does not come later is already there. -/
theorem split_before {Event : Type} {log later past future : List Event} {event : Event}
    (split : log ++ later = past ++ event :: future) (absent : event ∉ later) :
    ∃ rest, log = past ++ event :: rest ∧ future = rest ++ later := by
  rcases List.append_eq_append_iff.mp split with ⟨between, rfl, rest⟩ | ⟨between, rfl, rest⟩
  · exact absurd (rest ▸ List.mem_append_right _ (List.mem_cons_self ..)) absent
  · rcases List.cons_eq_append_iff.mp rest with ⟨rfl, same⟩ | ⟨tail, rfl, rfl⟩
    · exact absurd (same ▸ List.mem_cons_self ..) absent
    · exact ⟨tail, rfl, rfl⟩

/-- Actions that neither publish nor disconnect. -/
def Action.silent (action : Action) : Prop := action.publishes = none ∧ action.disconnects = none

theorem publications_silent {actions : List Action} (silent : ∀ action ∈ actions, action.silent) :
    publications actions = [] :=
  List.filterMap_eq_nil_iff.mpr fun action member => (silent action member).1

theorem Publishing.keep {u after : Coordinator} (publishing : Publishing u) (actions : List Action)
    (log : after.log = u.log ++ actions) (silent : ∀ action ∈ actions, action.silent)
    (grows : ∃ events, after.client.log = u.client.log ++ events)
    (awaited : InOrder (fun _ => []) after.client) (stamped : ∀ sid, Stamped after.client sid)
    (session : after.sessionId = u.sessionId) (sequence : after.receiveSequence = u.receiveSequence)
    (received : after.receivedMonotonic = u.receivedMonotonic) (closing : u.closing → after.closing) :
    Publishing after := by
  have same : publications after.log = publications u.log := by
    rw [log, publications_append, publications_silent silent, List.append_nil]
  refine ⟨awaited, stamped, ?_, ?_, ?_, same ▸ publishing.ordered, ?_⟩
  · intro status member
    obtain ⟨events, grown⟩ := grows
    rw [grown, reports_append]
    exact List.mem_append_left _ (publishing.decoded status (same ▸ member))
  · rw [session, publishing.session, publishedSession, publishedSession, same]
  · intro status last
    rw [sequence]
    exact publishing.sequence status (same ▸ last)
  · intro past action future other split disconnects last unpublished
    rw [log] at split
    obtain ⟨rest, before, rfl⟩ := split_before split fun member => by
      rw [(silent action member).2] at disconnects
      cases disconnects
    rw [publications_append, List.append_eq_nil_iff] at unpublished
    rw [received]
    exact (publishing.stale past action rest other before disconnects last unpublished.1).imp id closing

/-- Neither the client nor the history changes. -/
theorem Publishing.aside {u after : Coordinator} (publishing : Publishing u)
    (client : after.client = u.client) (log : after.log = u.log)
    (session : after.sessionId = u.sessionId) (sequence : after.receiveSequence = u.receiveSequence)
    (received : after.receivedMonotonic = u.receivedMonotonic) (closing : u.closing → after.closing) :
    Publishing after :=
  publishing.keep [] (by simp [log]) (by simp) ⟨[], by simp [client]⟩ (client ▸ publishing.awaited)
    (client ▸ publishing.stamped) session sequence received closing

/-- What the filters of `_on_status` let through. -/
structure Accepts (u : Coordinator) (status : DeviceStatus) : Prop where
  opened : u.closing = false
  connected : u.client.connected
  current : ∃ current, u.client.lastStatus = some current ∧ current.sessionId = status.sessionId
  session : ∀ session, u.sessionId = some session → session ≤ status.sessionId
  sequence : u.sessionId = some status.sessionId → u.receiveSequence ≤ status.receiveSequence

theorem Coordinator.accepts_spec {u : Coordinator} {status : DeviceStatus}
    (accepted : u.accepts status) : Accepts u status := by
  simp only [accepts, Bool.and_eq_true, Bool.not_eq_true'] at accepted
  obtain ⟨heeded, fresh⟩ := accepted
  cases shown : u.client.lastStatus with
  | none => simp [ignores, shown] at heeded
  | some current =>
    simp only [ignores, shown, Bool.or_eq_false_iff, Bool.not_eq_false'] at heeded
    obtain ⟨⟨opened, connected⟩, ⟨same, newer⟩, -⟩ := heeded
    refine ⟨opened, connected, ⟨current, shown, by simpa using same⟩, ?_, ?_⟩
    · intro session known
      simp only [known, decide_eq_false_iff_not] at newer
      exact Nat.le_of_not_lt newer
    · intro known
      simp only [outdated, enterSession, known, ne_eq, not_true_eq_false, if_false,
        Bool.or_eq_false_iff, decide_eq_false_iff_not] at fresh
      exact Int.not_lt.mp fresh.1

/-- The latest status belongs to the current session. -/
theorem Reporting.lastStatus {s : State} {status : DeviceStatus} (reporting : Reporting s)
    (shown : s.lastStatus = some status) :
    s.connected ∧ s.session = some status.sessionId ∧ status ∈ reports status.sessionId s.log := by
  simp only [State.lastStatus] at shown
  split at shown
  · rename_i connected
    obtain ⟨opened, sid, current, -⟩ := State.connected_spec connected
    have last := (reporting.latest opened sid current).symm.trans shown
    have member := List.mem_of_getLast? last
    obtain ⟨home, -⟩ := (reporting.reported sid).bounded status member
    exact ⟨connected, home ▸ current, home ▸ member⟩
  · cases shown

/-- A report that passes the filters is behind no published one. -/
theorem Publishing.onwards {config : Config} {u : Coordinator} {earlier later : DeviceStatus}
    (publishing : Publishing u) (attached : Attached config u) (accepts : Accepts u later)
    (decoded : later ∈ reports later.sessionId u.client.log)
    (member : earlier ∈ publications u.log) : Onwards earlier later := by
  obtain ⟨last, recent⟩ : ∃ last, (publications u.log).getLast? = some last :=
    Option.isSome_iff_exists.mp (List.getLast?_isSome.mpr (List.ne_nil_of_mem member))
  have session : u.sessionId = some last.sessionId := by
    rw [publishing.session, publishedSession, recent]
    rfl
  obtain ⟨before, whole⟩ := List.getLast?_eq_some_iff.mp recent
  have next : Onwards last later := by
    rcases Nat.lt_or_eq_of_le (accepts.session _ session) with newer | same
    · exact .inl newer
    · have sequence := accepts.sequence (same ▸ session)
      rw [publishing.sequence last recent, Nat.cast_le] at sequence
      have known : last ∈ reports later.sessionId u.client.log :=
        same ▸ publishing.decoded last (List.mem_of_getLast? recent)
      exact .inr ⟨same, sequence, (publishing.stamped _).monotonic
        (attached.reporting.reported _) known decoded sequence⟩
  rw [whole] at member
  rcases List.mem_append.mp member with old | new
  · have ordered := publishing.ordered
    rw [whole, List.pairwise_append] at ordered
    exact (ordered.2.2 earlier old last (List.mem_singleton_self _)).trans next
  · rw [List.mem_singleton.mp new]
    exact next

/-- The coordinator sees this report. -/
theorem Publishing.onStatus {config : Config} {u : Coordinator} {status : DeviceStatus}
    (publishing : Publishing u) (attached : Attached config u)
    (decoded : status ∈ reports status.sessionId u.client.log) : Publishing (u.onStatus status) := by
  rw [Coordinator.onStatus_eq]
  split
  · rename_i accepted
    have accepts := Coordinator.accepts_spec accepted
    have fields := (u.enterSession status).publish_fields status
    have entered := u.enterSession_fields status
    have client : ((u.enterSession status).publish status).client = u.client :=
      fields.1.trans entered.1
    have log : ((u.enterSession status).publish status).log = u.log ++ [.published status] := by
      rw [fields.2.2.2.2.2.2.2.1, entered.2.2.2.2.2.2.2]
    have grown : publications ((u.enterSession status).publish status).log =
        publications u.log ++ [status] := by
      rw [log, publications_append]
      rfl
    refine ⟨client ▸ publishing.awaited, client ▸ publishing.stamped, ?_, ?_, ?_, ?_, ?_⟩
    · rw [grown, client]
      intro shown member
      rcases List.mem_append.mp member with old | new
      · exact publishing.decoded shown old
      · obtain rfl := List.mem_singleton.mp new
        exact decoded
    · rw [publishedSession, grown, fields.2.2.1, entered.2.2.1]
      simp
    · rw [grown]
      intro shown last
      rw [List.getLast?_concat] at last
      cases last
      exact fields.2.2.2.2.2.2.2.2.2.2.1
    · rw [grown, List.pairwise_append]
      refine ⟨publishing.ordered, List.pairwise_singleton .., fun earlier member later new => ?_⟩
      obtain rfl := List.mem_singleton.mp new
      exact publishing.onwards attached accepts decoded member
    · intro past action future session split disconnects last unpublished
      rw [log] at split
      obtain ⟨rest, -, rfl⟩ := split_before split fun member => by
        rw [List.mem_singleton.mp member] at disconnects
        cases disconnects
      rw [publications_append, List.append_eq_nil_iff] at unpublished
      cases unpublished.2
  · exact publishing

/-- The callback of a disconnect. -/
theorem Publishing.disconnect {u after : Coordinator} {action : Action} {session : Nat}
    (publishing : Publishing u) (disconnects : action.disconnects = some session)
    (quiet : action.publishes = none) (log : after.log = u.log ++ [action])
    (client : after.client = u.client) (entered : after.sessionId = u.sessionId)
    (sequence : after.receiveSequence = u.receiveSequence) (closing : u.closing → after.closing)
    (received : u.receivedMonotonic = none → after.receivedMonotonic = none)
    (forgets : u.sessionId = some session → after.receivedMonotonic = none ∨ after.closing) :
    Publishing after := by
  have same : publications after.log = publications u.log := by
    rw [log, publications_append, publications, publications, List.filterMap_cons_none quiet]
    exact List.append_nil _
  refine ⟨client ▸ publishing.awaited, client ▸ publishing.stamped, ?_, ?_, ?_,
    same ▸ publishing.ordered, ?_⟩
  · rw [same, client]
    exact publishing.decoded
  · rw [entered, publishing.session, publishedSession, publishedSession, same]
  · rw [same, sequence]
    exact publishing.sequence
  · intro past action' future other split disconnects' last unpublished
    rw [log] at split
    rcases Async.split_append_singleton split with ⟨rest, rfl, before⟩ | ⟨rfl, rfl, rfl⟩
    · rw [publications_append, List.append_eq_nil_iff] at unpublished
      exact (publishing.stale past action' rest other before disconnects' last unpublished.1).imp
        received closing
    · cases disconnects.symm.trans disconnects'
      exact forgets (publishing.session.trans last)

/-- What an effect of the client brings to the coordinator. -/
theorem Effects.heard {config : Config} {overflow : Prop} {u : Coordinator} {client : State}
    (effects : Effects config.coordinated overflow u.client client) (attached : Attached config u)
    (publishing : Publishing u) :
    InOrder (fun _ => []) client ∧ ∀ sid, Stamped client sid := by
  induction effects with
  | refl => exact ⟨publishing.awaited, publishing.stamped⟩
  | @tail middle client earlier effect ih =>
    obtain ⟨coherent, reporting⟩ := Effects.attached earlier attached
    exact ⟨effect.inOrder ih.1, fun sid => effect.stamped coherent.shape reporting (ih.2 sid)⟩

theorem Publishing.client {config : Config} {overflow : Prop} {u after : Coordinator}
    (publishing : Publishing u) (attached : Attached config u)
    (effects : Effects config.coordinated overflow u.client after.client) (actions : List Action)
    (log : after.log = u.log ++ actions) (silent : ∀ action ∈ actions, action.silent)
    (session : after.sessionId = u.sessionId) (sequence : after.receiveSequence = u.receiveSequence)
    (received : after.receivedMonotonic = u.receivedMonotonic) (closing : u.closing → after.closing) :
    Publishing after := by
  obtain ⟨awaited, stamped⟩ := effects.heard attached publishing
  exact publishing.keep actions log silent effects.later.log awaited stamped session sequence received
    closing

/-- The callback of a notification. -/
theorem Publishing.observe {config : Config} {u : Coordinator} {client : State} {entry : Callback}
    (publishing : Publishing u) (attached : Attached config u) (moved : u.client.dispatch = some client)
    (running : client.dispatching = some entry) :
    Publishing (({ u with client } : Coordinator).observe entry) := by
  have step : Local.step config.coordinated u.client .dispatch = some client := moved
  have effects : Effects config.coordinated (¬ u.client.tokenFits) u.client
      { client with dispatching := none } :=
    (step_effects attached.coherent.shape attached.coherent.epoch step).tail .idle
  obtain ⟨coherent, reporting⟩ := Effects.attached effects attached
  cases notice : entry.notice with
  | status status =>
    have noted : Publishing ({ u with
        client := { client with dispatching := none }, log := u.log ++ [.observed entry] }) := by
      have silent : ∀ action ∈ [Action.observed entry], action.silent := by
        intro action member
        obtain rfl := List.mem_singleton.mp member
        obtain ⟨session, notice'⟩ := entry
        cases notice
        exact ⟨rfl, rfl⟩
      exact publishing.client attached effects [.observed entry] rfl silent rfl rfl rfl id
    have decoded : status ∈ reports status.sessionId client.log := by
      obtain ⟨head, rest, next, free, rfl⟩ := State.dispatch_spec moved
      cases running
      have queued : status ∈ awaiting u.client entry.session := by
        rw [awaiting, free, next]
        simp [notified_cons, notice]
      have known : status ∈ reports entry.session u.client.log :=
        (publishing.awaited.among entry.session).subset (List.mem_append_right _ queued)
      have home := ((attached.reporting.reported _).bounded status known).1
      simpa [State.notified, home] using known
    have told : ({ u with client } : Coordinator).observe entry = ({ u with
        client := { client with dispatching := none }
        log := u.log ++ [.observed entry] } : Coordinator).onStatus status := by
      simp only [Coordinator.observe, Coordinator.record, notice]
    rw [told]
    exact noted.onStatus ⟨coherent, reporting⟩ decoded
  | disconnect reason =>
    have noted : Publishing { u with client := { client with dispatching := none } } :=
      publishing.client attached effects [] (by simp) (by simp) rfl rfl rfl id
    have told : ({ u with client } : Coordinator).observe entry =
        (({ u with client := { client with dispatching := none } } : Coordinator).record
          (.observed entry)).onDisconnect entry.session := by
      simp only [Coordinator.observe, Coordinator.record, notice]
    have disconnects : (Action.observed entry).disconnects = some entry.session := by
      obtain ⟨session, notice'⟩ := entry
      cases notice
      rfl
    rw [told, Coordinator.onDisconnect]
    split
    · rename_i kept
      refine noted.disconnect disconnects rfl rfl rfl rfl rfl id id fun same => ?_
      exact .inr (kept.resolve_right fun other => other same)
    · exact noted.disconnect disconnects rfl rfl rfl rfl rfl id (fun _ => rfl) fun _ => .inl rfl

/-- A confirmed command publishes the latest status. -/
theorem Publishing.conclude {config : Config} {u : Coordinator} {k : Nat} {verdict : Verdict}
    (publishing : Publishing u) (attached : Attached config u) : Publishing (u.conclude k verdict) := by
  have handled : ∀ handled : Coordinator, Publishing handled → Publishing { handled with
      commandLock := none
      orders := Function.update u.orders k { u.orders k with phase := .done verdict.error }
      log := handled.log ++ [.concluded k verdict] } := fun handled publishing =>
    publishing.keep [.concluded k verdict] rfl (by simp [Action.silent]) ⟨[], by simp⟩
      publishing.awaited publishing.stamped rfl rfl rfl id
  cases verdict with
  | reported status =>
    apply handled (u.confirmReport (u.orders k).order status)
    cases shown : u.client.lastStatus with
    | none =>
      simp only [Coordinator.confirmReport, shown]
      exact publishing.aside rfl rfl rfl rfl rfl id
    | some latest =>
      simp only [Coordinator.confirmReport, shown]
      have confirmed : ∀ lastOff, Publishing { u with
          pending := Function.update u.pending (u.orders k).order.key none
          lastCommand := u.lastCommand.map fun feedback => { feedback with
            status := .deviceReported, acknowledged := true, reportedAt := some status.receivedAt }
          lastOff } := fun _ => publishing.aside rfl rfl rfl rfl rfl id
      exact (confirmed _).onStatus ⟨attached.coherent, attached.reporting⟩
        (attached.reporting.lastStatus shown).2.2
  | uncertain => exact handled _ (publishing.aside rfl rfl rfl rfl rfl id)
  | rejected => exact handled _ (publishing.aside rfl rfl rfl rfl rfl id)
  | failed error => exact handled _ publishing

theorem Change.publishing {config : Config} {origin u after : Coordinator}
    {label : Coordinator.Label} (change : Change config origin label u after)
    (started : Attached config origin) (fresh : Publishing origin) (attached : Attached config u)
    (publishing : Publishing u) : Publishing after := by
  cases change with
  | client effects => exact publishing.client attached effects [] (by simp) (by simp) rfl rfl rfl id
  | observe dispatched moved running => exact fresh.observe started moved running
  | @begin u k waiting free admitted =>
    have effects : Effects config.coordinated True u.client (u.beginCall config k).client :=
      call_effects (u.orders k).order.request
    exact publishing.client attached effects [_] rfl (by simp [Action.silent]) rfl rfl rfl id
  | conclude calling ending later => exact publishing.conclude attached
  | mark calling => exact publishing.aside rfl rfl rfl rfl rfl id
  | finish waiting => exact publishing.aside rfl rfl rfl rfl rfl id
  | order opened valid => exact publishing.aside rfl rfl rfl rfl rfl id
  | watch =>
    simp only [Coordinator.watch]
    split
    · exact publishing.aside rfl rfl rfl rfl rfl id
    · exact publishing.aside rfl rfl rfl rfl rfl id
  | note => exact publishing.aside rfl rfl rfl rfl rfl id
  | close => exact publishing.aside rfl rfl rfl rfl rfl fun _ => rfl

theorem Run.publishing {config : Config} {u : Coordinator}
    (run : Async.Reachable (coordinator config) u) : Attached config u ∧ Publishing u := by
  apply Run.changes Publishing ?_ ?_ run
  · intro now wall localPower epoch
    refine ⟨?_, ?_, by simp [Coordinator.start, publications], rfl, ?_, .nil, ?_⟩
    · constructor
      · exact fun sid => List.nil_sublist _
      · intro past sid raw frame status split
        simp [Coordinator.start, State.start] at split
    · intro sid
      constructor <;> simp [Coordinator.start, State.start]
    · rintro status ⟨⟩
    · intro past action future session split
      simp [Coordinator.start] at split
  · intro origin label u after started fresh _ attached publishing change
    exact change.publishing started fresh attached publishing

/-- What is published between these states is of the current session of a connected client. -/
def Current (u after : Coordinator) : Prop :=
  ∃ new, publications after.log = publications u.log ++ new ∧
    ∀ status ∈ new, after.client.connected ∧ after.client.session = some status.sessionId

theorem Current.silent {u after : Coordinator} (same : publications after.log = publications u.log) :
    Current u after := ⟨[], by rw [same, List.append_nil], by simp⟩

theorem Current.onStatus {u : Coordinator} (reporting : Reporting u.client) (status : DeviceStatus) :
    Current u (u.onStatus status) := by
  have client := (u.onStatus_fields status).1
  rw [Current, client, Coordinator.onStatus_eq]
  split
  · rename_i accepted
    obtain ⟨-, connected, ⟨current, shown, same⟩, -, -⟩ := Coordinator.accepts_spec accepted
    refine ⟨[status], ?_, fun other member => ?_⟩
    · have log : ((u.enterSession status).publish status).log = u.log ++ [.published status] := by
        rw [((u.enterSession status).publish_fields status).2.2.2.2.2.2.2.1,
          (u.enterSession_fields status).2.2.2.2.2.2.2]
      rw [log, publications_append]
      rfl
    · obtain rfl := List.mem_singleton.mp member
      exact ⟨connected, same ▸ (reporting.lastStatus shown).2.1⟩
  · exact ⟨[], by simp, by simp⟩

theorem Current.conclude {u : Coordinator} (reporting : Reporting u.client) (k : Nat)
    (verdict : Verdict) : Current u (u.conclude k verdict) := by
  cases verdict with
  | reported status =>
    cases shown : u.client.lastStatus with
    | none =>
      apply Current.silent
      simp [Coordinator.conclude, Coordinator.confirmReport, shown, publications]
    | some latest =>
      have told : ∀ confirmed : Coordinator, confirmed.client = u.client → confirmed.log = u.log →
          ∃ new, publications ((confirmed.onStatus latest).log ++ [.concluded k (.reported status)]) =
            publications u.log ++ new ∧ ∀ status ∈ new,
              (confirmed.onStatus latest).client.connected ∧
                (confirmed.onStatus latest).client.session = some status.sessionId := by
        intro confirmed client log
        obtain ⟨new, grown, current⟩ := Current.onStatus (client ▸ reporting) latest
        refine ⟨new, ?_, current⟩
        rw [publications_append, grown, log]
        exact List.append_nil _
      simp only [Current, Coordinator.conclude, Coordinator.confirmReport, shown]
      exact told _ rfl rfl
  | uncertain => exact .silent (by simp [Coordinator.conclude, Coordinator.setFeedback, publications])
  | rejected => exact .silent (by simp [Coordinator.conclude, Coordinator.setFeedback, publications])
  | failed error => exact .silent (by simp [Coordinator.conclude, publications])

theorem Coordinator.afterCall_client (u : Coordinator) (k c : Nat) :
    (u.afterCall k c).client = u.client := by
  unfold Coordinator.afterCall
  split
  · exact (Coordinator.conclude_fields ..).1
  · rfl

theorem Current.afterCall {u : Coordinator} {k c : Nat} (reporting : Reporting (u.afterCall k c).client) :
    Current u (u.afterCall k c) := by
  rw [Coordinator.afterCall_client] at reporting
  unfold Coordinator.afterCall
  split
  · exact .conclude reporting k _
  · exact .silent rfl

/-- A step publishes only what is current at its end. -/
theorem step_current {config : Config} {u after : Coordinator} {label : Coordinator.Label}
    (reporting : Reporting after.client) (taken : Coordinator.step config u label = some after) :
    Current u after := by
  have since : ∀ middle : Coordinator, publications middle.log = publications u.log →
      Current middle after → Current u after := fun middle same ⟨new, grown, current⟩ =>
    ⟨new, grown.trans (by rw [same]), current⟩
  have cancelled : ∀ k expired, u.cancelOrder k expired = some after → Current u after := by
    intro k expired taken
    unfold Coordinator.cancelOrder at taken
    split at taken
    · split at taken
      · cases taken
      · cases taken
        exact .silent rfl
    · split at taken
      · cases taken
      · obtain ⟨client, moved, rfl⟩ := Option.map_eq_some_iff.mp taken
        exact since _ rfl (.afterCall reporting)
    · cases taken
  cases label with
  | client label =>
    simp only [Coordinator.step] at taken
    split at taken
    · obtain ⟨client, moved, rfl⟩ := Option.map_eq_some_iff.mp taken
      exact .silent rfl
    · cases taken
  | dispatch =>
    obtain ⟨client, moved, taken⟩ := Option.bind_eq_some_iff.mp taken
    obtain ⟨entry, running, rfl⟩ := Option.map_eq_some_iff.mp taken
    have observed : publications (u.log ++ [.observed entry]) = publications u.log := by
      simp [publications]
    cases notice : entry.notice with
    | status status =>
      have told : ({ u with client } : Coordinator).observe entry = ({ u with
          client := { client with dispatching := none }
          log := u.log ++ [.observed entry] } : Coordinator).onStatus status := by
        simp only [Coordinator.observe, Coordinator.record, notice]
      apply since ({ u with
        client := { client with dispatching := none }, log := u.log ++ [.observed entry] }) observed
      rw [told] at reporting ⊢
      rw [(Coordinator.onStatus_fields ..).1] at reporting
      exact .onStatus reporting status
    | disconnect reason =>
      apply Current.silent
      simp only [Coordinator.observe, Coordinator.record, notice]
      rw [(Coordinator.onDisconnect_fields ..).2.2.2.2.2.2]
      exact observed
  | setOption enabled =>
    cases taken
    exact .silent rfl
  | command method args key wanted requiresOn =>
    cases taken
    unfold Coordinator.command
    split
    · exact .silent rfl
    · split
      · exact .silent rfl
      · exact .silent rfl
  | proceed k =>
    simp only [Coordinator.step] at taken
    split at taken
    · cases taken
      cases admission : u.admission (u.orders k).order with
      | refused error =>
        have ended : u.runCommand config k = u.endOrder k (some error) := by
          simp [Coordinator.runCommand, admission]
        rw [ended]
        exact .silent rfl
      | satisfied =>
        have ended : u.runCommand config k = u.endOrder k none := by
          simp [Coordinator.runCommand, admission]
        rw [ended]
        exact .silent rfl
      | admitted =>
        have called : u.runCommand config k =
            (u.beginCall config k).afterCall k u.client.callCount := by
          simp [Coordinator.runCommand, admission]
        apply since (u.beginCall config k)
        · exact (publications_append ..).trans (List.append_nil _)
        · rw [called] at reporting ⊢
          exact .afterCall reporting
    · cases taken
  | resume k =>
    simp only [Coordinator.step, Coordinator.resumeOrder] at taken
    split at taken
    · obtain ⟨client, moved, rfl⟩ := Option.map_eq_some_iff.mp taken
      exact since _ rfl (.afterCall reporting)
    · cases taken
  | expire k => exact cancelled k true taken
  | cancel k => exact cancelled k false taken
  | watch =>
    simp only [Coordinator.step] at taken
    split at taken
    · cases taken
    · cases taken
      exact .silent (congrArg publications u.watch_fields.2.2.2.2.2)
  | refresh =>
    cases taken
    exact .silent rfl
  | unload =>
    cases taken
    exact .silent rfl
  | closeClient =>
    simp only [Coordinator.step, Coordinator.closeClient] at taken
    split at taken
    · cases taken
      exact .silent rfl
    · cases taken
  | unloaded =>
    simp only [Coordinator.step] at taken
    split at taken
    · cases taken
      exact .silent rfl
    · cases taken

theorem Coordinator.onDisconnect_foreign {u : Coordinator} {session : Nat}
    (foreign : u.sessionId ≠ some session) : u.onDisconnect session = u := if_pos (.inr foreign)

/-- The dispatcher runs the callback of a session that is not the published one. -/
theorem foreign_disconnect {u : Coordinator} {client : State} {entry : Callback}
    {reason : DisconnectReason} (moved : u.client.dispatch = some client)
    (running : client.dispatching = some entry) (notice : entry.notice = .disconnect reason)
    (foreign : u.sessionId ≠ some entry.session) :
    u.dispatch = some { u with
      client := { client with dispatching := none }, log := u.log ++ [.observed entry] } := by
  simp only [Coordinator.dispatch, moved, running, Option.bind_some, Option.map_some,
    Coordinator.observe, Coordinator.record, notice]
  exact congrArg some (Coordinator.onDisconnect_foreign foreign)

/-- In every order of the callbacks and of the commands, the published state never moves
back, is that of the current session when it is published, and stays stale after its
session's disconnect. -/
theorem published_never_back {config : Config} {u : Coordinator}
    (run : Async.Reachable (coordinator config) u) :
    (publications u.log).Pairwise (fun earlier later => earlier.sessionId < later.sessionId ∨
        earlier.sessionId = later.sessionId ∧ earlier.receiveSequence ≤ later.receiveSequence ∧
          earlier.receivedMonotonic ≤ later.receivedMonotonic) ∧
      (∀ label after, Coordinator.step config u label = some after →
        ∃ new, publications after.log = publications u.log ++ new ∧ ∀ status ∈ new,
          after.client.connected ∧ after.client.session = some status.sessionId) ∧
      (∀ client entry reason, u.client.dispatch = some client → client.dispatching = some entry →
        entry.notice = .disconnect reason → publishedSession u.log ≠ some entry.session →
          u.dispatch = some { u with
            client := { client with dispatching := none }, log := u.log ++ [.observed entry] }) ∧
      ∀ past entry reason future, u.log = past ++ .observed entry :: future →
        entry.notice = .disconnect reason → publishedSession past = some entry.session →
          publications future = [] → u.statusStale := by
  obtain ⟨attached, publishing⟩ := Run.publishing run
  refine ⟨publishing.ordered, ?_, ?_, ?_⟩
  · intro label after taken
    have next := (Run.publishing (.next run trivial taken)).1
    exact step_current next.reporting taken
  · intro client entry reason moved running notice foreign
    exact foreign_disconnect moved running notice (publishing.session ▸ foreign)
  · intro past entry reason future split notice last unpublished
    have disconnects : (Action.observed entry).disconnects = some entry.session := by
      obtain ⟨session, notice'⟩ := entry
      cases notice
      rfl
    rcases publishing.stale past _ future _ split disconnects last unpublished with forgotten | closing
    · simp only [Coordinator.statusStale, forgotten]
      cases u.client.lastStatus <;> simp
    · simp [Coordinator.statusStale, closing]

/-- Two reports of a session, and the end of its connection. -/
def hangUpLabels : List Coordinator.Label :=
  [.client (.accept (some "192.0.2.1")), .client .start] ++ hear (exampleReport 0x20 1) 1 ++
    [.client (.tick 1)] ++ hear (exampleReport 0x20 0) 1 ++
    [.client (.feedEof 1), .client (.reader 1 .ready), .client (.reader 1 .ready), .dispatch]

theorem published_never_back_example : ∃ u,
    (coordinator exampleConfig).follow exampleCoordinator hangUpLabels = some u ∧
      (publications u.log).map (·.receiveSequence) = [1, 2] ∧ u.statusStale := by
  have shown : ((coordinator exampleConfig).follow exampleCoordinator hangUpLabels).map (fun u =>
      decide ((publications u.log).map (·.receiveSequence) = [1, 2]) &&
        decide (publishedSession u.log.dropLast = some 1) &&
          u.log.getLast?.any fun action => decide (action.disconnects = some 1)) = some true := by
    decide +kernel
  obtain ⟨u, followed, facts⟩ := Option.map_eq_some_iff.mp shown
  simp only [Bool.and_eq_true, decide_eq_true_eq, Option.any_eq_true] at facts
  obtain ⟨⟨sequences, session⟩, action, last, disconnects⟩ := facts
  obtain ⟨past, whole⟩ := List.getLast?_eq_some_iff.mp last
  have run : Async.Reachable (coordinator exampleConfig) u :=
    Async.Run.follow (.start ⟨0, 0, false, le_rfl, rfl⟩) (fun _ _ => trivial) followed
  obtain ⟨-, -, -, stale⟩ := published_never_back run
  rw [whole, List.dropLast_concat] at session
  simp only [Action.disconnects] at disconnects
  split at disconnects
  · rename_i reason
    cases disconnects
    exact ⟨u, followed, sequences, stale past _ reason [] whole rfl session rfl⟩
  · cases disconnects

end AlorairLite.Local
