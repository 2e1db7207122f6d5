import AlorairLite.Async.Heralds
import AlorairLite.Cloud.Layered

/-! Who commissions the requests that change something at the vendor: each belongs to one task of
the coordinator, which has recorded what it asks for. -/

namespace AlorairLite.Cloud

open Async

/-- What the coordinator asks for an operation without a record. -/
def Operation.free (mac : String) : Operation → Query → Prop
  | .refresh, query => query = .status mac
  | .command _, query => query = .refresh
  | .experimental action parameters, query => query = .refresh ∨
    mutationActions.contains action = false ∧ query = .experimental mac action parameters
  | .unload, _ => False

/-- The record of an operation allows this question. -/
def Operation.permits (mac : String) : Operation → Remark → Query → Prop
  | .command order, .issued _ order' seen, query =>
    order' = order ∧ seen.admission order = .admitted ∧ query = .call mac order.request
  | .experimental action parameters, .proposed _ action', query =>
    action' = action ∧ mutationActions.contains action ∧ query = .experimental mac action parameters
  | _, _, _ => False

section Coordinators

variable {mac : String} {task : Nat} {order : Order} {permits : Remark → Query → Prop} {given : Query → Prop}

theorem Method.requestRefresh_heralds (known : given .refresh) : Method.requestRefresh.Heralds permits given :=
  .request known

theorem Method.refresh_heralds (known : given (.status mac)) : (Method.refresh mac).Heralds permits given := by
  apply Process.Heralds.attempt
  · apply Process.Heralds.then
    · apply Process.Heralds.then (.request known)
      intro answer
      split
      · trivial
      · trivial
      · trivial
      · trivial
      · split
        · trivial
        · exact fun _ _ => trivial
    · exact fun _ _ => trivial
  · intro failure
    cases failure with
    | interrupted reason => trivial
    | _ => exact fun _ => trivial

theorem Method.handle_heralds {k : Nat} {key : String} {error : ClientError} (known : given .refresh) :
    (Method.handle k key error).Heralds permits given := by
  have uncertain : ∀ text, (do
      Method.change (·.setStatus k .deliveryUncertain)
      Method.requestRefresh
      Process.raise (.homeAssistant text) : Method Unit).Heralds permits given := fun text =>
    Process.Heralds.modify (Process.Heralds.then (Method.requestRefresh_heralds known) fun _ => trivial)
  cases error with
  | cannotConnect => exact uncertain _
  | command outcomeUnknown =>
    cases outcomeUnknown with
    | true => exact uncertain _
    | false => exact fun _ => trivial
  | timeout => trivial
  | unexpected => trivial
  | _ => exact fun _ => trivial

theorem Method.withTimeout_heralds {Result : Type} {body : Method Result} (inside : body.Heralds permits given) :
    (Method.withTimeout task body).Heralds permits given := by
  apply Process.Heralds.modify
  apply Process.Heralds.attempt inside.ensure
  intro failure
  cases failure with
  | interrupted reason => cases reason <;> trivial
  | _ => trivial

theorem Method.tracked_heralds {body : Method Json} (inside : body.Heralds permits given) :
    (Method.tracked task body).Heralds permits given := by
  apply Process.Heralds.get
  intro s
  split
  · trivial
  · exact Process.Heralds.modify inside.ensure

theorem Method.command_heralds : (Method.command mac order task).Heralds (Operation.permits mac (.command order))
    (Operation.free mac (.command order)) := by
  apply Method.tracked_heralds
  refine Process.Heralds.then ?_ fun _ => trivial
  apply Process.Heralds.withLock
  apply Process.Heralds.attempt
  · apply Method.withTimeout_heralds
    apply Process.Heralds.get
    intro s
    split
    · trivial
    · trivial
    · trivial
    · rename_i admitted
      apply Process.Heralds.modify
      apply Process.Heralds.say
      apply Process.Heralds.then (.request (.inr ⟨rfl, admitted, rfl⟩))
      intro answer
      split
      · exact Process.Heralds.modify (Method.requestRefresh_heralds (.inl rfl))
      · exact Method.handle_heralds (.inl rfl)
  · intro failure
    cases failure with
    | timeout => exact fun _ => trivial
    | _ => trivial

theorem Method.experimentalTransaction_heralds {action : String} {parameters : Payload} :
    (Method.experimentalTransaction mac action parameters).Heralds
      (Operation.permits mac (.experimental action parameters))
      (Operation.free mac (.experimental action parameters)) := by
  apply Process.Heralds.get
  intro s
  split
  · trivial
  · split
    · rename_i mutates
      split
      · trivial
      · apply Process.Heralds.modify
        apply Process.Heralds.say
        apply Process.Heralds.then (.request (.inr ⟨rfl, mutates, rfl⟩))
        intro answer
        split
        · apply Process.Heralds.modify
          exact Process.Heralds.then (Method.requestRefresh_heralds (.inl (.inl rfl))) fun _ => trivial
        · rename_i error
          cases error with
          | command outcomeUnknown => cases outcomeUnknown <;> exact fun _ => trivial
          | unexpected => trivial
          | _ => exact fun _ => trivial
    · rename_i reads
      apply Process.Heralds.then (.request (.inr ⟨by simpa using reads, rfl⟩))
      intro answer
      split <;> trivial

/-- Each operation asks the client only for what it is about, and for a change only after it has
recorded it. -/
theorem program_heralds (operation : Operation) (task : Nat) :
    (program mac operation task).Heralds (operation.permits mac) (operation.free mac) := by
  cases operation with
  | refresh => exact Method.refresh_heralds rfl
  | command order => exact Method.command_heralds
  | experimental action parameters =>
    apply Process.Heralds.get
    intro s
    split
    · trivial
    · apply Method.tracked_heralds
      apply Process.Heralds.withLock
      apply Process.Heralds.attempt (Method.withTimeout_heralds Method.experimentalTransaction_heralds)
      intro failure
      cases failure with
      | timeout =>
        dsimp only
        split
        · exact fun _ => trivial
        · trivial
      | _ => trivial
  | unload => exact fun _ _ => ⟨trivial, fun _ _ => trivial⟩

/-- What a deadline or a handler adds asks the client for nothing. -/
theorem Method.withTimeout_calls {Result : Type} {body : Method Result} {cost : ℕ}
    (inside : body.Costs integration.toll cost fun _ => True) :
    (Method.withTimeout task body).Costs integration.toll cost fun _ => True := by
  apply Process.Costs.modify
  refine Process.Costs.attempt 0 inside.ensure fun failure => ?_
  cases failure with
  | interrupted reason => cases reason <;> trivial
  | _ => trivial

theorem Method.tracked_calls {body : Method Json} {cost : ℕ}
    (inside : body.Costs integration.toll cost fun _ => True) :
    (Method.tracked task body).Costs integration.toll cost fun _ => True := by
  apply Process.Costs.get
  intro s
  split
  · trivial
  · exact Process.Costs.modify inside.ensure

theorem Method.requestRefresh_calls : Method.requestRefresh.Costs integration.toll 0 fun _ => True :=
  Process.Costs.request

theorem Method.handle_calls {k : Nat} {key : String} {error : ClientError} :
    (Method.handle k key error).Costs integration.toll 0 fun _ => True := by
  have uncertain : ∀ text, (do
      Method.change (·.setStatus k .deliveryUncertain)
      Method.requestRefresh
      Process.raise (.homeAssistant text) : Method Unit).Costs integration.toll 0 fun _ => True := fun text =>
    Process.Costs.modify (Process.Costs.then 0 Method.requestRefresh_calls fun _ _ => trivial)
  cases error with
  | cannotConnect => exact uncertain _
  | command outcomeUnknown =>
    cases outcomeUnknown with
    | true => exact uncertain _
    | false => exact fun _ => trivial
  | timeout => trivial
  | unexpected => trivial
  | _ => exact fun _ => trivial

theorem Method.updateData_calls : (Method.updateData mac).Costs integration.toll 1 fun _ => True := by
  apply Process.Costs.then 0 Process.Costs.request
  intro answer _
  split
  · trivial
  · trivial
  · trivial
  · trivial
  · split
    · trivial
    · exact fun _ _ => trivial

theorem Method.refresh_calls : (Method.refresh mac).Costs integration.toll 1 fun _ => True := by
  refine Process.Costs.attempt 0 ?_ fun failure => ?_
  · exact Process.Costs.then 0 Method.updateData_calls fun _ _ => fun _ => trivial
  · cases failure with
    | interrupted reason => trivial
    | _ => exact fun _ => trivial

theorem Method.lockedCommand_calls :
    (Method.lockedCommand mac order task).Costs integration.toll 1 fun _ => True := by
  apply Process.Costs.withLock
  refine Process.Costs.attempt 0 ?_ fun failure => ?_
  · apply Method.withTimeout_calls
    apply Process.Costs.get
    intro s
    split
    · trivial
    · trivial
    · trivial
    · apply Process.Costs.modify
      apply Process.Costs.say
      apply Process.Costs.then 0 Process.Costs.request
      intro answer _
      split
      · exact Process.Costs.modify Method.requestRefresh_calls
      · exact Method.handle_calls
  · cases failure with
    | timeout => exact fun _ => trivial
    | _ => trivial

theorem Method.experimentalTransaction_calls {action : String} {parameters : Payload} :
    (Method.experimentalTransaction mac action parameters).Costs integration.toll 1 fun _ => True := by
  apply Process.Costs.get
  intro s
  split
  · trivial
  · split
    · split
      · trivial
      · apply Process.Costs.modify
        apply Process.Costs.say
        apply Process.Costs.then 0 Process.Costs.request
        intro answer _
        split
        · apply Process.Costs.modify
          exact Process.Costs.then 0 Method.requestRefresh_calls fun _ _ => trivial
        · rename_i error
          cases error with
          | command outcomeUnknown => cases outcomeUnknown <;> exact fun _ => trivial
          | unexpected => trivial
          | _ => exact fun _ => trivial
    · apply Process.Costs.then 0 Process.Costs.request
      intro answer _
      split <;> trivial

/-- No task of the coordinator calls the client twice. -/
theorem program_calls (operation : Operation) (task : Nat) :
    (program mac operation task).Costs integration.toll 1 fun _ => True := by
  cases operation with
  | refresh => exact Method.refresh_calls
  | command order =>
    exact Method.tracked_calls (Process.Costs.then 0 Method.lockedCommand_calls fun _ _ => trivial)
  | experimental action parameters =>
    apply Process.Costs.get
    intro s
    split
    · trivial
    · apply Method.tracked_calls
      apply Process.Costs.withLock
      refine Process.Costs.attempt 0 (Method.withTimeout_calls Method.experimentalTransaction_calls) fun failure => ?_
      cases failure with
      | timeout =>
        dsimp only
        split
        · exact fun _ => trivial
        · trivial
      | _ => trivial
  | unload => exact fun _ _ => ⟨trivial, fun _ _ => trivial⟩

end Coordinators

section Clients

variable {library : Library} {account : Account} {task : Nat} {First : Type}

/-- What a call that the coordinator makes may send to change something. -/
def ClientOperation.posts : ClientOperation → Endpoint × Payload → Prop
  | .command _ order, post => ∃ detail frameType value, Call.frame order = .ok (frameType, value) ∧
    post = (.control, Call.controlPayload detail frameType value)
  | .experimental _ action parameters, _ => ∃ change, experimentalParameters action parameters = .ok (.mutation change)
  | _, _ => False

/-- The commands that are sent are like this. -/
def Sends (allowed : Endpoint × Payload → Prop) (query : ClientQuery) : Prop :=
  ∀ command, sentCommand (.asked query) = some command → allowed command

abbrev Posts {Result : Type} (allowed : Endpoint × Payload → Prop) (call : Call Result) : Prop :=
  Call.Keeps (Sends allowed) (fun _ => True) call

variable {allowed : Endpoint × Payload → Prop}

theorem Sends.plain {endpoint : Endpoint} {token : Option String} {payload : Option Payload}
    (harmless : endpoint.command = false) : Sends allowed (.http endpoint token payload) := by
  intro command sent
  cases payload with
  | none => cases sent
  | some payload =>
    have none : sentCommand (.asked (.http endpoint token (some payload))) = none := if_neg (by simp [harmless])
    rw [none] at sent
    cases sent

theorem Sends.looks {query : ClientQuery} (looks : looksUp query) : Sends allowed query := by
  have fits : ∀ exchange ∈ [(.asked query : Exchange clientFace)],
      @Exchange.Fits clientFace looksUp (fun _ => True) exchange := by
    simpa [Exchange.Fits] using looks
  have silent := (looks_silent (fun _ => none) fits).1
  intro command sent
  rw [List.filterMap_cons, sent] at silent
  cases silent

theorem Posts.looks {call : Call First} (looks : Call.Looks call) : Posts allowed call :=
  looks.imp (fun _ => Sends.looks) fun _ _ => trivial

theorem Posts.read {endpoint : Endpoint} {payload : Option Payload} (harmless : endpoint.command = false) :
    Posts allowed (Call.read library account task endpoint payload) := by
  refine (Call.read_keeps library account task endpoint payload).imp ?_ fun _ _ => trivial
  rintro query (signing | ⟨token, rfl⟩)
  · exact Sends.looks (.inl signing)
  · exact Sends.plain harmless

theorem Posts.checked {Second : Type} {result : Except AlorairError First} {next : First → Call Second}
    (rest : ∀ value, result = .ok value → Posts allowed (next value)) :
    Posts allowed (Call.check result >>= next : Call Second) := by
  cases result with
  | ok value => exact rest value rfl
  | error error => trivial

theorem Call.experimentalRead_posts {detail : Dict} {action : Action} :
    Posts allowed (Call.experimentalRead library account task detail action) := by
  apply Call.Keeps.get
  intro s
  cases action with
  | filters => exact Call.Keeps.check fun lives => trivial
  | history period date => exact Coroutine.Within.then (Posts.read rfl) fun data => trivial
  | operationTime period date => exact Coroutine.Within.then (Posts.read rfl) fun data => trivial
  | filterDetail filterId =>
    apply Call.Keeps.check
    intro selected
    exact Coroutine.Within.then (Posts.read rfl) fun data => Call.Keeps.get fun now => trivial
  | firmwareCheck =>
    apply Call.Keeps.check
    exact fun id => Coroutine.Within.then (Posts.read rfl) fun data => trivial
  | firmwareHistory page =>
    exact Coroutine.Within.then (Posts.read rfl) fun data => Call.Keeps.get fun now => trivial
  | mutation change => trivial

/-- A call that the coordinator makes sends no other commands. -/
theorem clientCall_posts {query : Query} {operation : ClientOperation} (serves : clientCall query = some operation) :
    Posts operation.posts (clientProgram library account operation task) := by
  cases query with
  | refresh => cases serves
  | status mac =>
    cases serves
    exact Coroutine.Within.then (Posts.looks Call.status_looks) fun _ => trivial
  | call mac request =>
    cases serves
    refine Coroutine.Within.then ?_ fun _ => trivial
    apply Posts.checked
    rintro ⟨frameType, value⟩ framed
    apply Coroutine.Within.withLock
    apply Coroutine.Within.then (Posts.looks Call.status_looks)
    intro detail
    apply Call.Keeps.get
    intro s
    refine Coroutine.Within.then (Call.request_keeps library .post ?_) fun _ => trivial
    intro post sent
    cases sent
    exact ⟨detail, frameType, value, framed, rfl⟩
  | experimental mac action parameters =>
    cases serves
    apply Posts.checked
    intro chosen accepted
    apply Call.Keeps.check
    intro target
    apply Coroutine.Within.withLock
    apply Coroutine.Within.then (Posts.looks (Call.ownedDevice_looks library account task target))
    intro detail
    cases chosen with
    | mutation change => exact Coroutine.Within.all (fun _ _ _ => ⟨change, accepted⟩) fun _ => trivial
    | _ => exact Call.experimentalRead_posts

/-- What the client takes for a change, the coordinator takes for one too. -/
theorem mutation_listed {action : String} {parameters : Dict} {change : Mutation}
    (accepted : experimentalParameters action parameters = .ok (.mutation change)) :
    mutationActions.contains action := by
  unfold experimentalParameters at accepted
  dsimp only at accepted
  split at accepted
  · cases accepted
  · split at accepted
    · cases accepted
    · split at accepted
      · obtain ⟨period, -, rest⟩ := ok_of_bind accepted
        obtain ⟨date, -, same⟩ := ok_of_bind rest
        cases same
      · obtain ⟨period, -, rest⟩ := ok_of_bind accepted
        obtain ⟨date, -, same⟩ := ok_of_bind rest
        cases same
      · cases accepted
      · obtain ⟨filterId, -, same⟩ := ok_of_bind accepted
        cases same
      · cases accepted
      · split at accepted
        · split at accepted <;> cases accepted
        · cases accepted
      · rfl
      · rfl
      · rfl
      · rfl
      · cases accepted

/-- Every command that is sent has its weight. -/
theorem sent_weighs (trace : List (Exchange clientFace)) :
    (trace.filterMap sentCommand).length ≤ (spent weight trace).2 := by
  induction trace with
  | nil => exact Nat.zero_le _
  | cons exchange trace ih =>
    rw [spent_cons, Prod.snd_add, List.filterMap_cons]
    cases sent : sentCommand exchange with
    | none => exact ih.trans (Nat.le_add_left _ _)
    | some command =>
      have weighs : 1 ≤ (exchange.cost weight).2 := by
        unfold sentCommand at sent
        split at sent
        · split at sent
          · rename_i commands
            simp [Exchange.cost, weight, commands]
          · cases sent
        · cases sent
      rw [List.length_cons]
      omega

/-- The record that a command to the vendor goes back to. -/
inductive Commissioned (mac : String) (state : CloudSystem) (link : Link Query) (post : Endpoint × Payload) : Prop where
  /-- An admitted command, whose client call sends nothing else. -/
  | command {k : Nat} {order : Order} {seen : Coordinator} {detail : Dict} {frameType : Scalar} {value : String}
      (query : link.query = .call mac order.request)
      (started : .started link.task (.command order) ∈ state.upper.scene.log)
      (issued : .told link.task (.issued k order seen) ∈ state.upper.scene.log)
      (admitted : seen.admission order = .admitted) (framed : Call.frame order.request = .ok (frameType, value))
      (same : post = (.control, Call.controlPayload detail frameType value))
      (alone : (exchanges link.call state.lower.scene.log).filterMap sentCommand = [post])
  /-- An experimental change. -/
  | experimental {k : Nat} {action : String} {parameters : Payload} {change : Mutation}
      (query : link.query = .experimental mac action parameters)
      (started : .started link.task (.experimental action parameters) ∈ state.upper.scene.log)
      (proposed : .told link.task (.proposed k action) ∈ state.upper.scene.log)
      (accepted : experimentalParameters action (parameters.map fun entry => (entry.1, entry.2.json)) =
        .ok (.mutation change))

end Clients

section Runs

variable {library : Library} {account : Account} {mac : String} {state : CloudSystem}

instance : Nonempty face.Interrupt := ⟨Interrupt.cancel⟩

/-- No task of the coordinator has two client calls. -/
theorem calls_single (run : Reachable (cloud library account mac) state) {link other : Link Query}
    (member : link ∈ state.links) (also : other ∈ state.links) (same : other.task = link.task) : other = link := by
  have linked : Linked integration state := .of_run coordinator_tasked client_tasked run
  obtain ⟨asked, -⟩ := linked.linked link member
  have upper := (Layer.reachable run).1.unchecked
  obtain ⟨operation, started⟩ := upper.started (mem_exchanges.mpr ⟨_, asked, rfl, rfl⟩)
  have bounded := (Layer.calls_bounded coordinator_tasked client_tasked run link.task).trans
    (upper.spent (program_calls operation link.task) started)
  have mine : link ∈ state.callsFor link.task := List.mem_filter.mpr ⟨member, by simp⟩
  have its : other ∈ state.callsFor link.task := List.mem_filter.mpr ⟨also, by simp [same]⟩
  cases calls : state.callsFor link.task with
  | nil =>
    rw [calls] at mine
    cases mine
  | cons first rest =>
    rw [calls] at bounded mine its
    have empty : rest = [] := List.eq_nil_of_length_eq_zero (by simpa using bounded)
    subst empty
    rw [List.mem_singleton.mp mine, List.mem_singleton.mp its]

/-- A client call that was asked for and sends this goes back to a record. -/
theorem commissioned {link : Link Query} {operation : ClientOperation} {begun : Operation} {post : Endpoint × Payload}
    (serves : clientCall link.query = some operation) (begins : .started link.task begun ∈ state.upper.scene.log)
    (known : begun.free mac link.query ∨ ∃ remark, .told link.task remark ∈ state.upper.scene.log ∧
      begun.permits mac remark link.query) (posts : operation.posts post)
    (alone : ∀ mac' request, operation = .command mac' request →
      (exchanges link.call state.lower.scene.log).filterMap sentCommand = [post]) :
    Commissioned mac state link post := by
  cases begun with
  | refresh =>
    rcases known with query | ⟨remark, told, impossible⟩
    · rw [show link.query = .status mac from query] at serves
      cases serves
      exact posts.elim
    · exact impossible.elim
  | unload =>
    rcases known with impossible | ⟨remark, told, impossible⟩
    · exact impossible.elim
    · exact impossible.elim
  | command order =>
    rcases known with query | ⟨remark, told, permitted⟩
    · rw [show link.query = .refresh from query] at serves
      cases serves
    · cases remark with
      | issued k order' seen =>
        obtain ⟨rfl, admitted, query⟩ := permitted
        rw [query] at serves
        cases serves
        obtain ⟨detail, frameType, value, framed, same⟩ := posts
        exact .command query begins told admitted framed same (alone _ _ rfl)
      | polled data monotonic stopped => exact permitted.elim
      | proposed k action => exact permitted.elim
  | experimental action parameters =>
    rcases known with query | ⟨remark, told, permitted⟩
    · rcases query with query | ⟨reads, query⟩
      · rw [query] at serves
        cases serves
      · rw [query] at serves
        cases serves
        obtain ⟨change, accepted⟩ := posts
        rw [mutation_listed accepted] at reads
        cases reads
    · cases remark with
      | proposed k action' =>
        obtain ⟨rfl, -, query⟩ := permitted
        rw [query] at serves
        cases serves
        obtain ⟨change, accepted⟩ := posts
        exact .experimental query begins told accepted
      | polled data monotonic stopped => exact permitted.elim
      | issued k order seen => exact permitted.elim

/-- In every run of the coordinator over its client, a request that changes something at the vendor
goes back to one task of the coordinator, which has no other client call: the request of a command
that was admitted and recorded, and then it is the only one, or that of an experimental change
that was recorded. -/
theorem posts_commissioned (run : Reachable (cloud library account mac) state) {call : Nat}
    {post : Endpoint × Payload} (sent : post ∈ (exchanges call state.lower.scene.log).filterMap sentCommand) :
    ∃ link ∈ state.links, link.call = call ∧ (∀ other ∈ state.links, other.task = link.task → other = link) ∧
      Commissioned mac state link post := by
  have linked : Linked integration state := .of_run coordinator_tasked client_tasked run
  obtain ⟨upper, lower⟩ := Layer.reachable run
  obtain ⟨exchange, member, command⟩ := List.mem_filterMap.mp sent
  obtain ⟨operation, started⟩ := lower.started member
  obtain ⟨link, present, rfl⟩ := linked.started call operation started
  obtain ⟨asked, operation', serves, started'⟩ := linked.linked link present
  cases lower.counted.unique started started'
  have fits := lower.fits (clientCall_posts serves) started exchange member
  have posts : operation.posts post := by
    cases exchange with
    | asked query => exact fits post command
    | _ => cases command
  refine ⟨link, present, rfl, fun other also same => calls_single run present also same, ?_⟩
  obtain ⟨begun, begins, known⟩ := upper.unchecked.heralds program_heralds asked
  refine commissioned serves begins known posts fun mac' request same => ?_
  subst same
  have single := (sent_weighs _).trans (lower.spent (clientProgram_costs _) started).2
  cases all : (exchanges link.call state.lower.scene.log).filterMap sentCommand with
  | nil =>
    rw [all] at sent
    cases sent
  | cons first rest =>
    rw [all] at sent single
    have empty : rest = [] := List.eq_nil_of_length_eq_zero (by simpa [ClientOperation.bound] using single)
    subst empty
    rw [List.mem_singleton.mp sent]

/-- The request of the purge goes back to its record. -/
theorem posts_commissioned_example : ∃ state link, (cloud cellarVendor exampleAccount "aabbccddee0f").follow
    cellarStart (cellarPoll ++ cellarPurge) = some state ∧ link ∈ state.links ∧ link.call = 1 ∧
      Commissioned "aabbccddee0f" state link (.control, purgePayload) := by
  have shown : (((cloud cellarVendor exampleAccount "aabbccddee0f").follow cellarStart
      (cellarPoll ++ cellarPurge)).map fun state => decide ((exchanges 1 state.lower.scene.log).filterMap sentCommand =
        [(.control, purgePayload)])) = some true := by decide +kernel
  obtain ⟨state, followed, decided⟩ := Option.map_eq_some_iff.mp shown
  have posts := of_decide_eq_true decided
  obtain ⟨link, member, same, -, commissioned⟩ := posts_commissioned
    (cellarStart_run.follow (fun _ _ => trivial) followed) (posts ▸ List.mem_singleton_self _)
  exact ⟨state, link, followed, member, same, commissioned⟩

end Runs

end AlorairLite.Cloud
