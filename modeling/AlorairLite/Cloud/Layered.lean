import AlorairLite.Async.Layer
import AlorairLite.Cloud.Receipt
import AlorairLite.Cloud.Requests
import AlorairLite.Cloud.Restraint
import AlorairLite.Cloud.Settlement

/-! The coordinator over its client. What the coordinator asks is served by calls of the client, and
what becomes of a command is told from the requests to the vendor. -/

namespace AlorairLite.Cloud

open Async

/-- The call of the client for what the coordinator asks. A refresh is Home Assistant's. -/
def clientCall : Query → Option ClientOperation
  | .status mac => some (.status mac)
  | .call mac request => some (.command mac request)
  | .experimental mac action parameters =>
    some (.experimental mac action (parameters.map fun entry => (entry.1, entry.2.json)))
  | .refresh => none

/-- What the end of the call is for the coordinator. -/
def clientOutcome : (query : Query) → Except Problem Json → Option (query.Answer ⊕ Interrupt)
  | .status _, .ok (.dict data) => some (.inl (.ok data))
  | .status _, .error (.error error) => some (.inl (.error error.caught))
  | .status _, .error .recursion => some (.inl (.error .unexpected))
  | .call _ _, .ok _ => some (.inl (.ok ()))
  | .call _ _, .error (.error error) => some (.inl (.error error.caught))
  | .call _ _, .error .recursion => some (.inl (.error .unexpected))
  | .experimental _ _ _, .ok value => some (.inl (.ok value))
  | .experimental _ _ _, .error (.error error) => some (.inl (.error error.caught))
  | .experimental _ _ _, .error .recursion => some (.inl (.error .unexpected))
  | .refresh, _ => none
  | _, .error (.interrupted reason) => some (.inr reason)
  | _, _ => none

def integration : Layer face clientFace ClientOperation (Except Problem Json) where
  call := clientCall
  outcome := clientOutcome

abbrev CloudSystem :=
  Layered face clientFace Operation (Except Failure Json) ClientOperation (Except Problem Json)

variable {library : Library} {account : Account} {mac : String} {state : CloudSystem} {task : Nat}
  {order : Order}

/-- The coordinator and the client of one account. -/
def cloud (library : Library) (account : Account) (mac : String) :
    System CloudSystem (LayerStep face clientFace Operation ClientOperation) :=
  integration.system (coordinator mac) (client library account)

theorem coordinator_tasked : Tasked (coordinator mac) (program mac) := by
  apply Tasked.checked
  exact scheduler_tasked

theorem client_tasked : Tasked (client library account) (clientProgram library account) := scheduler_tasked

/-- The client call for this question of a task is over, with this result. -/
structure Served (state : CloudSystem) (task : Nat) (query : Query) (call : Nat) (result : Except Problem Json) :
    Prop where
  link : ⟨task, query, call⟩ ∈ state.links
  ended : state.lower.result? call = some result

/-- How the client call of a command is over and what became of its request, or that its task
was interrupted. -/
inductive Fate (library : Library) (state : CloudSystem) (task : Nat) (query : Query) : Prop where
  | acknowledged {call : Nat} {value : Json} {payload : Payload} (served : Served state task query call (.ok value))
      (accepted : AcknowledgedIn library.loads (exchanges call state.lower.scene.log) (.control, payload))
  | uncertain {call : Nat} {error : AlorairError} {command : Endpoint × Payload} {reply : Except AlorairError Json}
      (served : Served state task query call (.error (.error error)))
      (replied : (command, reply) ∈ (exchanges call state.lower.scene.log).filterMap (commandReply library.loads))
      (open_ : Uncertain reply)
  /-- It ended with `CannotConnect`. -/
  | unsent {call : Nat} {error : AlorairError} (served : Served state task query call (.error (.error error)))
      (kind : error.kind = .cannotConnect)
      (silent : (exchanges call state.lower.scene.log).filterMap sentCommand = [])
  /-- It ended with a `RecursionError`, in a request of its own. -/
  | broken {call : Nat} (served : Served state task query call (.error .recursion))
      (nested : Happened (Nested library) (exchanges call state.lower.scene.log))
  | stopped {reason : Interrupt} (interrupted : .interrupted task reason ∈ state.upper.scene.log)

/-- The client call that a task was answered by. -/
theorem call_answered {request : Request} {answer : Except ClientError Unit}
    (run : Reachable (cloud library account mac) state)
    (delivered : .delivered task ⟨.call mac request, answer⟩ ∈ state.upper.scene.log) :
    ∃ call result, Served state task (.call mac request) call result ∧
      .started call (.command mac request) ∈ state.lower.scene.log ∧
        clientOutcome (.call mac request) result = some (.inl answer) := by
  have linked : Linked integration state := .of_run coordinator_tasked client_tasked run
  obtain ⟨call, result, link, ended, outcome⟩ := linked.replied.delivered task _ delivered rfl
  obtain ⟨-, operation, serves, started⟩ := linked.linked _ link
  cases Option.some.inj serves
  exact ⟨call, result, ⟨link, ended⟩, started, outcome⟩

theorem acknowledged_fate (run : Reachable (cloud library account mac) state)
    (delivered : .delivered task ⟨.call mac order.request, (.ok () : Except ClientError Unit)⟩ ∈
      state.upper.scene.log) : ∃ call value payload, Served state task (.call mac order.request) call (.ok value) ∧
        AcknowledgedIn library.loads (exchanges call state.lower.scene.log) (.control, payload) := by
  obtain ⟨call, result, served, started, outcome⟩ := call_answered run delivered
  have truthful := command_tells (Layer.reachable run).2 started served.ended
  cases result with
  | ok value =>
    obtain ⟨payload, accepted⟩ := truthful.returned value rfl
    exact ⟨call, value, payload, served, accepted⟩
  | error problem => cases problem <;> cases outcome

theorem Through.fate {log : List CloudEvent} (through : Through mac task order log)
    (run : Reachable (cloud library account mac) state) (within : log ⊆ state.upper.scene.log) :
    Fate library state task (.call mac order.request) := by
  cases through with
  | acknowledged answered =>
    obtain ⟨call, value, payload, served, accepted⟩ := acknowledged_fate run (within answered)
    exact .acknowledged served accepted
  | stopped split asked =>
    apply Fate.stopped
    apply within
    rw [split]
    exact List.mem_append_right _ (List.mem_cons_self ..)
  | doubtful unsure answered =>
    obtain ⟨call, result, served, started, outcome⟩ := call_answered run (within answered)
    have lower := (Layer.reachable run).2
    have truthful := command_tells lower started served.ended
    cases result with
    | ok value => cases outcome
    | error problem =>
      cases problem with
      | interrupted reason => cases outcome
      | recursion => exact .broken served (command_broken lower started served.ended)
      | error error =>
        cases outcome
        unfold AlorairError.caught at unsure
        split at unsure
        · cases unsure
        · rename_i kind
          exact .unsent served kind (truthful.unsent error rfl (.inl kind))
        · cases unsure
        · rename_i kind
          cases unknown : error.outcomeUnknown with
          | false =>
            rw [unknown] at unsure
            cases unsure
          | true =>
            obtain ⟨command, reply, replied, open_⟩ := truthful.uncertain error rfl unknown
            exact .uncertain served replied open_

/-- Why a command of the coordinator returns without an error. -/
inductive Covered (library : Library) (mac : String) (state : CloudSystem) (task : Nat) (order : Order) : Prop where
  /-- The vendor acknowledged its own request. -/
  | acknowledged {call : Nat} {value : Json} {payload : Payload}
      (served : Served state task (.call mac order.request) call (.ok value))
      (accepted : AcknowledgedIn library.loads (exchanges call state.lower.scene.log) (.control, payload))
  /-- The last poll, which is fresh, shows the wanted state, and nothing is pending for it. -/
  | shown (success : state.upper.scene.shared.lastUpdateSuccess = true)
      (fresh : state.upper.scene.shared.statusStale = false)
      (shows_ : state.upper.scene.shared.present.any (shows · order.key order.wanted) ∨
        order.starting ∧ state.upper.scene.shared.present.bind powered = some true)
      (free : state.upper.scene.shared.pending order.key = none)
  /-- Another command for the same was recorded less than the pending time ago, and the coordinator
  heard of no final failure of its client call. -/
  | duplicate {other : Nat} {order' : Order} {seen : Coordinator} (differs : other ≠ task)
      (success : state.upper.scene.shared.lastUpdateSuccess = true)
      (fresh : state.upper.scene.shared.statusStale = false)
      (told : ∃ k, .told other (.issued k order' seen) ∈ state.upper.scene.log) (key : order'.key = order.key)
      (wanted : order'.wanted = order.wanted) (recent : state.upper.scene.shared.now < seen.now + pendingSeconds)
      (spared : ¬ Rebuffed other state.upper.scene.log) (fate : Fate library state other (.call mac order'.request))

/-- In every run of the coordinator over its client, a command that has just returned without an
error was acknowledged by the vendor, or the fresh state of the device already is the wanted one,
or another command for the same was recorded less than the pending time ago: that one was
acknowledged, or its outcome is open, or it was interrupted, or it could not connect before its
request, or `json.loads` did not survive a reply to it. -/
theorem command_covered {value : Json} {past : List CloudEvent} (run : Reachable (cloud library account mac) state)
    (ended : state.upper.scene.log = past ++ [.ended task (.ok value)]) (begun : .started task (.command order) ∈ past) :
    Covered library mac state task order := by
  have within : past ⊆ state.upper.scene.log := by
    rw [ended]
    exact List.subset_append_left _ _
  have honoured := command_returns (Layer.reachable run).1 ended begun
  cases honoured with
  | acknowledged answered =>
    obtain ⟨call, value, payload, served, accepted⟩ := acknowledged_fate run (within answered)
    exact .acknowledged served accepted
  | shown success fresh shows_ free => exact .shown success fresh shows_ free
  | @duplicate other _ _ differs success fresh told key wanted recent through spared =>
    obtain ⟨k, told⟩ := told
    have unrefused : ¬ Rebuffed other state.upper.scene.log := by
      rw [ended]
      exact Gentle.spares (by simp [Gentle]) spared
    exact .duplicate differs success fresh ⟨k, within told⟩ key wanted recent unrefused (through.fate run within)

/-- The detail of a device that reports that it runs. -/
def cellarBody : List UInt8 × Json :=
  acceptance (braced (encoded "\"deviceNum\": \"aabbccddee0f\", \"userId\": 7, \"powerStatus\": \"01\", " ++
      encoded "\"drainStatus\": \"00\", \"errCode\": \"00\", \"updateTimeStr\": \"2001-09-09T01:46:40Z\""))
    (.dict ([("deviceNum", .text "aabbccddee0f"), ("userId", .int 7)] ++ exampleData "2001-09-09T01:46:40Z" "01" "00"))

def cellarVendor : Library := exampleLibrary [loginBody, userBody, listBody, cellarBody, doneBody]

def cellarStart : CloudSystem := { upper := exampleMachine, lower := exampleClient }

theorem cellarStart_run {meets : CloudSystem → LayerStep face clientFace Operation ClientOperation → Prop} :
    Run (cloud cellarVendor exampleAccount "aabbccddee0f") meets cellarStart :=
  .start ⟨⟨_, ⟨0, 1000000000, rfl⟩, rfl⟩, ⟨_, ⟨"", rfl⟩, rfl⟩, fun _ => rfl, rfl⟩

/-- A poll, with the login of the client and its list of devices. -/
def cellarPoll : List (LayerStep face clientFace Operation ClientOperation) :=
  [.upper (.start .refresh), .begin 0] ++ (exampleLogin 0 ++
    exampleReply 0 .deviceList (some "t") (some [("pageNum", .int 1), ("pageSize", .int pageSize)]) listBody ++
    exampleReply 0 (.deviceDetail "5") (some "t") none cellarBody).map .lower ++ [.finish 0, .upper (.resume 0)]

def purgePayload : Payload :=
  [("deviceId", .int 5), ("frameType", .text "22"), ("data", .text "01"), ("deviceNum", .text "aabbccddee0f")]

/-- A purge that is acknowledged. -/
def cellarPurge : List (LayerStep face clientFace Operation ClientOperation) :=
  [.upper (.start (.command Control.purge.order)), .begin 1] ++
    (exampleReply 1 (.deviceDetail "5") (some "t") none cellarBody ++
      exampleReply 1 .control (some "t") (some purgePayload) doneBody).map .lower ++
    [.finish 1, .upper (.resume 1), .upper (.answer 1 ⟨.refresh, ()⟩), .upper (.resume 1)]

def succeeds (task : Nat) : CloudEvent → Bool
  | .ended other (.ok _) => other = task
  | _ => false

def orders (task : Nat) (order : Order) : CloudEvent → Bool
  | .started other (.command order') => other = task && order' = order
  | _ => false

theorem orders_any {log : List CloudEvent} (some : log.any (orders task order)) :
    .started task (.command order) ∈ log := by
  obtain ⟨event, member, same⟩ := List.any_eq_true.mp some
  unfold orders at same
  split at same
  · rw [Bool.and_eq_true, decide_eq_true_eq, decide_eq_true_eq] at same
    obtain ⟨rfl, rfl⟩ := same
    exact member
  · cases same

theorem succeeds_last {log : List CloudEvent} (last : log.getLast?.any (succeeds task)) :
    ∃ past value, log = past ++ [.ended task (.ok value)] := by
  obtain ⟨event, found, same⟩ := (Option.any_eq_true _ _).mp last
  obtain ⟨past, rfl⟩ := List.getLast?_eq_some_iff.mp found
  unfold succeeds at same
  split at same
  · cases of_decide_eq_true same
    exact ⟨past, _, rfl⟩
  · cases same

theorem command_covered_example : ∃ state, (cloud cellarVendor exampleAccount "aabbccddee0f").follow cellarStart
    (cellarPoll ++ cellarPurge) = some state ∧
      Covered cellarVendor "aabbccddee0f" state 1 Control.purge.order := by
  have shown : (((cloud cellarVendor exampleAccount "aabbccddee0f").follow cellarStart
      (cellarPoll ++ cellarPurge)).map fun state => state.upper.scene.log.getLast?.any (succeeds 1) &&
        state.upper.scene.log.any (orders 1 Control.purge.order)) = some true := by decide +kernel
  obtain ⟨state, followed, both⟩ := Option.map_eq_some_iff.mp shown
  obtain ⟨last, some⟩ := (Bool.and_eq_true _ _).mp both
  obtain ⟨past, value, log⟩ := succeeds_last last
  have started := orders_any some
  rw [log] at started
  rcases List.mem_append.mp started with begun | impossible
  · exact ⟨state, followed, command_covered (cellarStart_run.follow (fun _ _ => trivial) followed) log begun⟩
  · cases List.mem_singleton.mp impossible

end AlorairLite.Cloud
