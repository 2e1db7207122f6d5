import AlorairLite.Cloud.Commission

/-! Whether a command of the cloud coordinator that returns was sent, by itself or by another command for the
same: a duplicate is left out for what is pending, and that may have ended before its request. -/

namespace AlorairLite.Cloud

open Async

/-- The client call of this task for this request has submitted it. -/
def Dispatched (mac : String) (state : CloudSystem) (task : Nat) (request : Request) : Prop :=
  ∃ call payload, ⟨task, .call mac request, call⟩ ∈ state.links ∧
    (.control, payload) ∈ (exchanges call state.lower.scene.log).filterMap sentCommand

/-- The client call was acknowledged, or has failed for good. -/
def conclusive : Except Problem Json → Bool
  | .ok _ => true
  | .error (.error error) => error.caught.definitive
  | .error _ => false

/-- Steps in which no client call of a command is over, or given up by its task, before it has submitted the
request, unless it has failed for good. -/
def Diligent (mac : String) (state : CloudSystem) : LayerStep face clientFace Operation ClientOperation → Prop
  | .finish task => ∀ link result, state.serving task = some link → state.lower.result? link.call = some result →
      conclusive result = false → ∀ request, .asked task (.call mac request) ∈ state.upper.scene.log →
        Dispatched mac state task request
  | .upper (.interrupt task _) => ∀ request, .asked task (.call mac request) ∈ state.upper.scene.log →
      (∃ answer, .delivered task ⟨.call mac request, answer⟩ ∈ state.upper.scene.log) ∨
        Dispatched mac state task request
  | _ => True

/-- Why a command may return without an error. -/
inductive Grounded (library : Library) (mac : String) (state : CloudSystem) (task : Nat) (order : Order) : Prop where
  /-- Its own request was acknowledged. -/
  | acknowledged {call : Nat} {payload : Payload} (link : ⟨task, .call mac order.request, call⟩ ∈ state.links)
      (accepted : AcknowledgedIn library.loads (exchanges call state.lower.scene.log) (.control, payload))
  /-- The latest data shows the wanted state, and nothing is pending for it. -/
  | shown (shows_ : state.upper.scene.shared.present.any (shows · order.key order.wanted) ∨
        order.starting ∧ state.upper.scene.shared.present.bind powered = some true)
      (free : state.upper.scene.shared.pending order.key = none)
  /-- Another command for the same was recorded less than the pending time ago, and was submitted. -/
  | earlier {other k : Nat} {order' : Order} {seen : Coordinator} (differs : other ≠ task)
      (told : .told other (.issued k order' seen) ∈ state.upper.scene.log) (key : order'.key = order.key)
      (wanted : order'.wanted = order.wanted) (recent : state.upper.scene.shared.now < seen.now + pendingSeconds)
      (dispatched : Dispatched mac state other order'.request)

section Calls

variable {library : Library} {account : Account} {mac : String} {state after : CloudSystem} {task : Nat}
  {order : Order} {request : Request}

theorem Dispatched.later (dispatched : Dispatched mac state task request)
    (links : ∀ link ∈ state.links, link ∈ after.links) (grows : state.lower.scene.log <+: after.lower.scene.log) :
    Dispatched mac after task request := by
  obtain ⟨call, payload, linked, sent⟩ := dispatched
  obtain ⟨events, grown⟩ := grows
  refine ⟨call, payload, links _ linked, ?_⟩
  rw [← grown, exchanges_append, List.filterMap_append]
  exact List.mem_append_left _ sent

/-- The reply is no failure that leaves a command unsent. -/
def Fair (mac : String) (state : CloudSystem) (task : Nat) (reply : Sigma face.Answer) : Prop :=
  ∀ request error, reply = ⟨.call mac request, (.error error : Except ClientError Unit)⟩ →
    error.definitive = false → Dispatched mac state task request

/-- An interruption comes after the end of a client call, or after its request. -/
def Parted (mac : String) (state : CloudSystem) (past : List CloudEvent) (event : CloudEvent) : Prop :=
  ∀ task reason, event = .interrupted task reason → ∀ request, .asked task (.call mac request) ∈ past →
    (∃ answer, .delivered task ⟨.call mac request, answer⟩ ∈ past) ∨ Dispatched mac state task request

/-- No client call was over before it had submitted its request, unless it failed for good. -/
structure Kept (mac : String) (state : CloudSystem) : Prop where
  replied : Replied (Fair mac state) state.upper
  parted : Every (Parted mac state) state.upper.scene.log

theorem Kept.later (kept : Kept mac state) (upper : after.upper = state.upper)
    (links : ∀ link ∈ state.links, link ∈ after.links) (grows : state.lower.scene.log <+: after.lower.scene.log) :
    Kept mac after := by
  have fair : ∀ task reply, Fair mac state task reply → Fair mac after task reply :=
    fun task reply fair request error same unsure => (fair request error same unsure).later links grows
  constructor
  · rw [upper]
    exact ⟨fun task held reply found has => fair _ _ (kept.replied.held task held reply found has),
      fun task reply member => fair _ _ (kept.replied.delivered task reply member)⟩
  · rw [upper]
    refine kept.parted.imp fun past event parted task reason same request asked => ?_
    exact (parted task reason same request asked).imp_right fun dispatched => dispatched.later links grows

/-- What leaves a command open ended its client call so. -/
theorem inconclusive {result : Except Problem Json} {error : ClientError}
    (known : clientOutcome (.call mac request) result = some (.inl (.error error : Except ClientError Unit)))
    (unsure : error.definitive = false) : conclusive result = false := by
  cases result with
  | ok value => cases known
  | error problem =>
    cases problem with
    | error error =>
      cases known
      exact unsure
    | recursion => rfl
    | interrupted reason => rfl

theorem interrupted_inconclusive {query : Query} {result : Except Problem Json} {reason : Interrupt}
    (known : clientOutcome query result = some (.inr reason)) : conclusive result = false := by
  cases result with
  | ok value => cases query <;> cases value <;> cases known
  | error problem =>
    cases problem with
    | error error => cases query <;> cases known
    | recursion => rfl
    | interrupted reason => rfl

/-- The coordinator takes a step. -/
theorem Kept.upper {upper : CloudMachine} {label : Step face Operation} {serving : Nat → Option (Link Query)}
    (kept : Kept mac state) (unstarted : Unstarted state.upper)
    (taken : (coordinator mac).step state.upper label = some upper)
    (fits : ∀ task reply, label = .answer task reply → Fair mac state task reply)
    (fresh : ∀ task reason, label = .interrupt task reason →
      Parted mac state state.upper.scene.log (.interrupted task reason)) :
    Kept mac { state with upper, serving } := by
  have moved := coordinator_tasked.steps _ _ _ taken
  refine ⟨(Machine.step_moved unstarted moved).replied kept.replied fits,
    Machine.step_parts kept.parted (fun past event other task reason same => ?_) fresh moved⟩
  exact absurd same (other task reason)

theorem Kept.step {label : LayerStep face clientFace Operation ClientOperation} (kept : Kept mac state)
    (linked : Linked integration state) (diligent : Diligent mac state label)
    (taken : (cloud library account mac).step state label = some after) : Kept mac after := by
  cases label with
  | upper label =>
    simp only [cloud, Layer.system, Layer.step] at taken
    split at taken
    · rename_i permitted
      obtain ⟨upper, moved, rfl⟩ := Option.map_eq_some_iff.mp taken
      refine kept.upper linked.unstarted.1 moved (fun task reply same request error call => ?_) ?_
      · subst same call
        cases permitted
      · rintro task reason rfl task' reason' ⟨⟩ request asked
        exact diligent request asked
    · cases taken
  | lower label =>
    simp only [cloud, Layer.system, Layer.step] at taken
    split at taken
    · obtain ⟨lower, moved, rfl⟩ := Option.map_eq_some_iff.mp taken
      exact kept.later rfl (fun _ member => member) (Machine.step_log (client_tasked.steps _ _ _ moved))
    · cases taken
  | begin task =>
    simp only [cloud, Layer.system, Layer.step] at taken
    split at taken
    · obtain ⟨query, awaited, taken⟩ := Option.bind_eq_some_iff.mp taken
      obtain ⟨call, serves, taken⟩ := Option.bind_eq_some_iff.mp taken
      obtain ⟨lower, moved, rfl⟩ := Option.map_eq_some_iff.mp taken
      exact kept.later rfl (fun _ member => List.mem_append_left _ member)
        (Machine.step_log (client_tasked.steps _ _ _ moved))
    · cases taken
  | finish task =>
    obtain ⟨link, serving, taken⟩ := Option.bind_eq_some_iff.mp taken
    obtain ⟨result, ended, taken⟩ := Option.bind_eq_some_iff.mp taken
    obtain ⟨outcome, known, taken⟩ := Option.bind_eq_some_iff.mp taken
    obtain ⟨upper, moved, rfl⟩ := Option.map_eq_some_iff.mp taken
    obtain ⟨member, own⟩ := linked.open_ task link serving
    obtain ⟨asked, -⟩ := linked.linked link member
    have submits := diligent link result serving ended
    refine kept.upper linked.unstarted.1 moved ?_ ?_
    · rintro other reply same request error rfl unsure
      cases outcome with
      | inr reason => cases same
      | inl answer =>
        obtain ⟨linkTask, query, call⟩ := link
        cases own
        cases same
        exact submits (inconclusive known unsure) request asked
    · rintro other reason same task' reason' ⟨⟩ request called
      cases outcome with
      | inl answer => cases same
      | inr stopped =>
        cases same
        exact .inr (submits (interrupted_inconclusive known) request called)

theorem Kept.of_run (run : Run (cloud library account mac) (Diligent mac) state) : Kept mac state := by
  refine run.invariant (Kept mac) ?_ fun before label next earlier kept diligent taken => ?_
  · rintro start ⟨upper, -, -, -⟩
    obtain ⟨none, silent⟩ := coordinator_tasked.initial _ upper
    refine ⟨⟨fun task held reply found => ?_, fun task reply member => ?_⟩, ?_⟩
    · rw [none] at found
      cases found
    · rw [silent] at member
      cases member
    · rw [silent]
      exact .nil
  · exact kept.step (.of_run coordinator_tasked client_tasked earlier.reachable) diligent taken

/-- A request that was acknowledged was sent. -/
theorem AcknowledgedIn.sent {loads : List UInt8 → Option Json} {Result : Type} {code : Call Result}
    {start final : Client} {trace : List (Exchange clientFace)} {result : Except Problem Result}
    {command : Endpoint × Payload} (acknowledged : AcknowledgedIn loads trace command)
    (converses : Converses code start trace result final) : command ∈ trace.filterMap sentCommand := by
  obtain ⟨data, replied⟩ := acknowledged
  obtain ⟨exchange, member, same⟩ := List.mem_filterMap.mp replied
  unfold commandReply at same
  split at same
  · rename_i endpoint token payload reply
    split at same
    · rename_i known
      obtain ⟨rfl, -⟩ := Prod.mk.inj (Option.some.inj same)
      exact List.mem_filterMap.mpr ⟨_, converses.asked member, sentCommand_asked known⟩
    · cases same
  · cases same

/-- An acknowledged client call has submitted its request. -/
theorem acknowledged_dispatched (run : Reachable (cloud library account mac) state)
    (answered : .delivered task ⟨.call mac order.request, (.ok () : Except ClientError Unit)⟩ ∈
      state.upper.scene.log) : Dispatched mac state task order.request := by
  obtain ⟨call, value, payload, served, accepted⟩ := acknowledged_fate run answered
  have linked : Linked integration state := .of_run coordinator_tasked client_tasked run
  obtain ⟨-, operation, serves, started⟩ := linked.linked _ served.link
  cases Option.some.inj serves
  obtain ⟨ended, start, final, converses, -⟩ := command_converses (Layer.reachable run).2 started served.ended
  exact ⟨call, payload, served.link, accepted.sent converses⟩

/-- A client call that has answered has submitted its request, unless it failed for good. -/
theorem Kept.dispatched (kept : Kept mac state) (run : Reachable (cloud library account mac) state)
    {answer : Except ClientError Unit} (spared : ¬ Rebuffed task state.upper.scene.log)
    (answered : .delivered task ⟨.call mac order.request, answer⟩ ∈ state.upper.scene.log) :
    Dispatched mac state task order.request := by
  cases answer with
  | ok done => exact acknowledged_dispatched run answered
  | error error =>
    cases unsure : error.definitive with
    | true => exact absurd ⟨mac, order.request, error, unsure, answered⟩ spared
    | false => exact kept.replied.delivered task _ answered order.request error rfl unsure

/-- In every run of the coordinator over its client whose client calls are not over before their
requests, unless they failed for good, a command that has just returned without an error was
acknowledged by the vendor, or the latest data shows the wanted state and nothing is pending, or
an earlier command for the same was submitted, less than the pending time ago. -/
theorem command_grounded {value : Json} {past : List CloudEvent}
    (run : Run (cloud library account mac) (Diligent mac) state)
    (ended : state.upper.scene.log = past ++ [.ended task (.ok value)])
    (begun : .started task (.command order) ∈ past) : Grounded library mac state task order := by
  have kept : Kept mac state := .of_run run
  have within : past ⊆ state.upper.scene.log := by
    rw [ended]
    exact List.subset_append_left _ _
  have honoured := command_returns (Layer.reachable run.reachable).1 ended begun
  cases honoured with
  | acknowledged answered =>
    obtain ⟨call, value, payload, served, accepted⟩ := acknowledged_fate run.reachable (within answered)
    exact .acknowledged served.link accepted
  | shown success fresh shows_ free => exact .shown shows_ free
  | @duplicate other order' seen differs success fresh told key wanted recent through spared =>
    obtain ⟨k, told⟩ := told
    have unrefused : ¬ Rebuffed other state.upper.scene.log := by
      rw [ended]
      exact Gentle.spares (by simp [Gentle]) spared
    refine .earlier differs (within told) key wanted recent ?_
    cases through with
    | acknowledged answered | doubtful unsure answered =>
      exact kept.dispatched run.reachable unrefused (within answered)
    | @stopped reason before after split asked =>
      have split : past = before ++ .interrupted other reason :: after := split
      have parted := kept.parted before (.interrupted other reason) (after ++ [.ended task (.ok value)])
        (by rw [ended, split, List.append_assoc]; rfl)
      rcases parted other reason rfl order'.request asked with ⟨answer, answered⟩ | dispatched
      · have heard : .delivered other ⟨.call mac order'.request, answer⟩ ∈ past := by
          rw [split]
          exact List.mem_append_left _ answered
        exact kept.dispatched run.reachable unrefused (within heard)
      · exact dispatched

end Calls

section Examples

variable {state : CloudSystem} {task : Nat} {request : Request}

/-- A request of a client call that is not answered. -/
def exampleLoss (task : Nat) (endpoint : Endpoint) (payload : Option Payload) :
    List (Step clientFace ClientOperation) :=
  [.answer task ⟨.http endpoint (some "t") payload, HttpReply.failed⟩, .resume task]

/-- A purge whose client call goes this way, and then the same purge again. -/
def cellarRepeated (lower : List (Step clientFace ClientOperation)) :
    List (LayerStep face clientFace Operation ClientOperation) :=
  cellarPoll ++ [.upper (.start (.command Control.purge.order)), .begin 1] ++ lower.map .lower ++
    [.finish 1, .upper (.resume 1), .upper (.answer 1 ⟨.refresh, ()⟩), .upper (.resume 1),
      .upper (.start (.command Control.purge.order))]

def asksCall (mac : String) (task : Nat) : CloudEvent → Option Request
  | .asked other (.call mac' request) => if other = task ∧ mac' = mac then some request else none
  | _ => none

def dispatched (mac : String) (state : CloudSystem) (task : Nat) (request : Request) : Bool :=
  state.links.any fun link => link.task = task && (link.query = .call mac request &&
    (exchanges link.call state.lower.scene.log).any fun exchange => (sentCommand exchange).any (·.1 = .control))

theorem dispatched_spec {mac : String} (sent : dispatched mac state task request) :
    Dispatched mac state task request := by
  obtain ⟨⟨linkTask, query, call⟩, member, facts⟩ := List.any_eq_true.mp sent
  simp only [Bool.and_eq_true, decide_eq_true_eq, List.any_eq_true, Option.any_eq_true] at facts
  obtain ⟨rfl, rfl, exchange, told, ⟨endpoint, payload⟩, command, rfl⟩ := facts
  exact ⟨call, payload, member, List.mem_filterMap.mpr ⟨exchange, told, command⟩⟩

/-- The check of a step, without interruptions from outside. -/
def prudent (mac : String) (state : CloudSystem) : LayerStep face clientFace Operation ClientOperation → Bool
  | .finish task => (state.serving task).all fun link => (state.lower.result? link.call).all fun result =>
      conclusive result || state.upper.scene.log.all fun event =>
        (asksCall mac task event).all fun request => dispatched mac state task request
  | .upper (.interrupt _ _) => false
  | _ => true

theorem prudent_diligent {mac : String} {label : LayerStep face clientFace Operation ClientOperation}
    (passed : prudent mac state label) : Diligent mac state label := by
  cases label with
  | upper label =>
    cases label with
    | interrupt task reason => cases passed
    | _ => trivial
  | finish task =>
    intro link result serving ended open_ request asked
    have judged := (Option.all_eq_true _ _).mp passed link serving
    have passes := (Option.all_eq_true _ _).mp judged result ended
    rw [open_, Bool.false_or] at passes
    have called := List.all_eq_true.mp passes _ asked
    exact dispatched_spec ((Option.all_eq_true _ _).mp called request (if_pos ⟨rfl, rfl⟩))
  | _ => trivial

/-- The second purge has no client call, and the device does not show that it runs. -/
def unserved (state : CloudSystem) : Bool :=
  state.links.all (fun link => decide (link.task ≠ 2)) &&
    !state.upper.scene.shared.present.any (shows · Control.purge.order.key Control.purge.order.wanted)

theorem unserved_spec (free : unserved state) :
    (∀ query call, ⟨2, query, call⟩ ∉ state.links) ∧
      ¬ (state.upper.scene.shared.present.any (shows · Control.purge.order.key Control.purge.order.wanted) ∨
        Control.purge.order.starting ∧ state.upper.scene.shared.present.bind powered = some true) := by
  obtain ⟨links, hidden⟩ := (Bool.and_eq_true _ _).mp free
  constructor
  · intro query call member
    exact of_decide_eq_true (List.all_eq_true.mp links _ member) rfl
  · rintro (shown | ⟨impossible, -⟩)
    · rw [shown] at hidden
      cases hidden
    · cases impossible

/-- A run that ends with the return of the second purge. -/
theorem returns_last {log : List CloudEvent} (last : log.getLast?.any (succeeds 2))
    (some : log.any (orders 2 Control.purge.order)) : ∃ past value, log = past ++ [.ended 2 (.ok value)] ∧
      .started 2 (.command Control.purge.order) ∈ past := by
  obtain ⟨past, value, rfl⟩ := succeeds_last last
  rcases List.mem_append.mp (orders_any some) with begun | impossible
  · exact ⟨past, value, rfl, begun⟩
  · cases List.mem_singleton.mp impossible

/-- The reply to the first purge is lost, and the second one returns for it. -/
theorem command_grounded_example : ∃ state, (cloud cellarVendor exampleAccount "aabbccddee0f").follow cellarStart
    (cellarRepeated (exampleReply 1 (.deviceDetail "5") (some "t") none cellarBody ++
      exampleLoss 1 .control (some purgePayload))) = some state ∧
        ∃ other request, other ≠ 2 ∧ Dispatched "aabbccddee0f" state other request := by
  have shown : ((((cloud cellarVendor exampleAccount "aabbccddee0f").checked (prudent "aabbccddee0f")).follow
      cellarStart (cellarRepeated (exampleReply 1 (.deviceDetail "5") (some "t") none cellarBody ++
        exampleLoss 1 .control (some purgePayload)))).map fun state =>
          (state.upper.scene.log.getLast?.any (succeeds 2) &&
            state.upper.scene.log.any (orders 2 Control.purge.order)) && unserved state) = some true := by
    decide +kernel
  obtain ⟨state, followed, facts⟩ := Option.map_eq_some_iff.mp shown
  obtain ⟨both, free⟩ := (Bool.and_eq_true _ _).mp facts
  obtain ⟨last, some⟩ := (Bool.and_eq_true _ _).mp both
  obtain ⟨past, value, log, begun⟩ := returns_last last some
  obtain ⟨run, followed⟩ := cellarStart_run.of_checked (fun _ _ => prudent_diligent) followed
  refine ⟨state, followed, ?_⟩
  cases command_grounded run log begun with
  | acknowledged link accepted => exact absurd link ((unserved_spec free).1 _ _)
  | shown shows_ => exact absurd shows_ (unserved_spec free).2
  | @earlier other k order' seen differs told key wanted recent dispatched =>
    exact ⟨other, order'.request, differs, dispatched⟩

/-- Nothing is sent here. -/
def quiet (event : ClientEvent) : Bool := event.exchange?.all fun exchange => (sentCommand exchange).isNone

theorem quiet_unsent {log : ClientLog} (silent : log.all quiet) (call : Nat) :
    (exchanges call log).filterMap sentCommand = [] := by
  refine List.filterMap_eq_nil_iff.mpr fun exchange member => ?_
  obtain ⟨event, told, -, same⟩ := mem_exchanges.mp member
  have none := List.all_eq_true.mp silent event told
  rw [quiet, same] at none
  exact Option.isNone_iff_eq_none.mp none

/-- The first purge is not sent, since the device cannot be looked up; the second one returns all the same. -/
theorem command_suppressed : ∃ state past value,
    Reachable (cloud cellarVendor exampleAccount "aabbccddee0f") state ∧
      state.upper.scene.log = past ++ [.ended 2 (.ok value)] ∧ .started 2 (.command Control.purge.order) ∈ past ∧
        (∀ call, (exchanges call state.lower.scene.log).filterMap sentCommand = []) ∧
          ¬ Grounded cellarVendor "aabbccddee0f" state 2 Control.purge.order := by
  have shown : (((cloud cellarVendor exampleAccount "aabbccddee0f").follow cellarStart
      (cellarRepeated (exampleLoss 1 (.deviceDetail "5") none))).map fun state =>
        (state.upper.scene.log.getLast?.any (succeeds 2) &&
          state.upper.scene.log.any (orders 2 Control.purge.order)) &&
            (unserved state && state.lower.scene.log.all quiet)) = some true := by decide +kernel
  obtain ⟨state, followed, facts⟩ := Option.map_eq_some_iff.mp shown
  obtain ⟨both, rest⟩ := (Bool.and_eq_true _ _).mp facts
  obtain ⟨last, some⟩ := (Bool.and_eq_true _ _).mp both
  obtain ⟨free, silent⟩ := (Bool.and_eq_true _ _).mp rest
  obtain ⟨past, value, log, begun⟩ := returns_last last some
  refine ⟨state, past, value, cellarStart_run.follow (fun _ _ => trivial) followed, log, begun,
    quiet_unsent silent, ?_⟩
  rintro (⟨link, -⟩ | ⟨shows_, -⟩ | ⟨-, -, -, -, -, call, payload, -, sent⟩)
  · exact (unserved_spec free).1 _ _ link
  · exact (unserved_spec free).2 shows_
  · rw [quiet_unsent silent] at sent
    cases sent

end Examples

end AlorairLite.Cloud
