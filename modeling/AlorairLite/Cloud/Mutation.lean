import AlorairLite.Cloud.Evidence
import AlorairLite.Cloud.Nesting
import AlorairLite.Cloud.Verdict

/-! An experimental change is one command to the vendor, or two in a row, and a look at the
device afterwards. Once a command may have been executed, no failure says otherwise, unless
`json.loads` raises a `RecursionError`. -/

namespace AlorairLite.Cloud

open Async

/-- The command that is sent here. -/
def sentCommand : Exchange clientFace → Option (Endpoint × Payload)
  | .asked (.http endpoint _ (some payload)) =>
    if endpoint.command then some (endpoint, payload) else none
  | _ => none

/-- The command that is answered here, and what its reply says. -/
def commandReply (loads : List UInt8 → Option Json) :
    Exchange clientFace → Option ((Endpoint × Payload) × Except AlorairError Json)
  | .answered ⟨.http endpoint _ (some payload), reply⟩ =>
    if endpoint.command then some ((endpoint, payload), received loads true reply) else none
  | _ => none

/-- The vendor acknowledged this command. -/
def AcknowledgedIn (loads : List UInt8 → Option Json) (trace : List (Exchange clientFace))
    (command : Endpoint × Payload) : Prop :=
  ∃ data, (command, .ok data) ∈ trace.filterMap (commandReply loads)

/-- The detail of a device was received. -/
def DetailRead (loads : List UInt8 → Option Json) (trace : List (Exchange clientFace)) (detail : Dict) :
    Prop :=
  ∃ (id : String) (token : Option String) (reply : HttpReply),
    .answered ⟨.http (.deviceDetail id) token none, reply⟩ ∈ trace ∧
      received loads false reply = .ok (.dict detail)

/-- Commands sent in a row: each after the one before it was acknowledged, until one is not. -/
inductive Posting (library : Library) :
    List (Endpoint × Payload) → List (Exchange clientFace) → Except Problem Unit → Prop where
  | done : Posting library [] [] (.ok ())
  | refused {command : Endpoint × Payload} {rest : List (Endpoint × Payload)} {error : AlorairError}
      (known : error.outcomeUnknown = false) :
      Posting library (command :: rest) [] (.error (.error error))
  | failed {endpoint : Endpoint} {payload : Payload} {rest : List (Endpoint × Payload)}
      {token : Option String} {reply : HttpReply} {error : AlorairError}
      (judged : received library.loads true reply = .error error) :
      Posting library ((endpoint, payload) :: rest) [.asked (.http endpoint token (some payload)),
        .answered ⟨.http endpoint token (some payload), reply⟩]
        (.error (.error { error with stage := endpoint.stage }))
  | broken {endpoint : Endpoint} {payload : Payload} {rest : List (Endpoint × Payload)}
      {token : Option String} {reply : HttpReply} (deep : overflows library.deep reply = true) :
      Posting library ((endpoint, payload) :: rest) [.asked (.http endpoint token (some payload)),
        .answered ⟨.http endpoint token (some payload), reply⟩] (.error .recursion)
  | stopped {endpoint : Endpoint} {payload : Payload} {rest : List (Endpoint × Payload)}
      {token : Option String} {reason : Interrupt} :
      Posting library ((endpoint, payload) :: rest) [.asked (.http endpoint token (some payload)),
        .interrupted reason] (.error (.interrupted reason))
  | next {endpoint : Endpoint} {payload : Payload} {rest : List (Endpoint × Payload)}
      {token : Option String} {reply : HttpReply} {data : Json} {trace : List (Exchange clientFace)}
      {result : Except Problem Unit} (judged : received library.loads true reply = .ok data)
      (later : Posting library rest trace result) :
      Posting library ((endpoint, payload) :: rest) (.asked (.http endpoint token (some payload)) ::
        .answered ⟨.http endpoint token (some payload), reply⟩ :: trace) result

/-- A command is sent only after all before it were acknowledged. -/
def Chained (loads : List UInt8 → Option Json) (trace : List (Exchange clientFace)) : Prop :=
  ∀ past exchange future, trace = past ++ exchange :: future → (sentCommand exchange).isSome →
    ∀ command ∈ past.filterMap sentCommand, AcknowledgedIn loads past command

section Sending

variable {library : Library} {account : Account} {task : Nat} {state final : Client}
  {trace : List (Exchange clientFace)} {commands : List (Endpoint × Payload)}
  {loads : List UInt8 → Option Json} {result : Except Problem Unit}

theorem sendAll_posting (known : ∀ command ∈ commands, command.1.command)
    (converses : Converses (Call.sendAll library commands) state trace result final) :
    Posting library commands trace result := by
  induction commands generalizing state trace with
  | nil =>
    obtain ⟨rfl, rfl, -⟩ := converses_done.mp converses
    exact .done
  | cons command rest ih =>
    obtain ⟨endpoint, payload⟩ := command
    obtain ⟨first, others⟩ := List.forall_mem_cons.mp known
    obtain ⟨answer, middle, left, right, rfl, asked, remaining⟩ :=
      converses_then.mp (converses_get.mp converses)
    rcases Call.request_converses library asked with
      ⟨rfl, error, rfl, known⟩ | ⟨reply, rfl, ⟨deep, rfl⟩ | ⟨-, rfl⟩⟩ | ⟨reason, rfl, rfl⟩
    · obtain ⟨rfl, rfl, -⟩ := converses_chain_error.mp remaining
      exact .refused known
    · obtain ⟨rfl, rfl, -⟩ := converses_chain_error.mp remaining
      exact .broken deep
    · simp only at first
      rw [first] at remaining
      cases judged : received library.loads true reply with
      | ok data =>
        rw [judged] at remaining
        exact .next judged (ih others remaining)
      | error error =>
        rw [judged] at remaining
        obtain ⟨rfl, rfl, -⟩ := converses_chain_error.mp remaining
        exact .failed judged
    · obtain ⟨rfl, rfl, -⟩ := converses_chain_error.mp remaining
      exact .stopped

theorem sentCommand_asked {endpoint : Endpoint} {payload : Payload} {token : Option String}
    (command : endpoint.command) :
    sentCommand (.asked (.http endpoint token (some payload))) = some (endpoint, payload) := if_pos command

theorem commandReply_answered {endpoint : Endpoint} {payload : Payload} {token : Option String}
    {reply : HttpReply} (command : endpoint.command) :
    commandReply loads (.answered ⟨.http endpoint token (some payload), reply⟩) =
      some ((endpoint, payload), received loads true reply) := if_pos command

/-- What is sent is a beginning of the list. -/
theorem Posting.sent (posting : Posting library commands trace result)
    (known : ∀ command ∈ commands, command.1.command) : trace.filterMap sentCommand <+: commands := by
  induction posting with
  | done => exact List.prefix_rfl
  | refused _ => exact List.nil_prefix
  | failed _ | broken _ =>
    rw [List.filterMap_cons_some (sentCommand_asked (known _ (List.mem_cons_self ..)))]
    exact List.cons_prefix_cons.mpr ⟨rfl, List.nil_prefix⟩
  | stopped =>
    rw [List.filterMap_cons_some (sentCommand_asked (known _ (List.mem_cons_self ..)))]
    exact List.cons_prefix_cons.mpr ⟨rfl, List.nil_prefix⟩
  | next judged later ih =>
    rw [List.filterMap_cons_some (sentCommand_asked (known _ (List.mem_cons_self ..))),
      List.filterMap_cons_none rfl]
    exact List.cons_prefix_cons.mpr ⟨rfl, ih fun command member => known command (List.mem_cons_of_mem _ member)⟩

theorem AcknowledgedIn.append {command : Endpoint × Payload}
    (before after : List (Exchange clientFace)) (acknowledged : AcknowledgedIn loads trace command) :
    AcknowledgedIn loads (before ++ trace ++ after) command := by
  obtain ⟨data, member⟩ := acknowledged
  refine ⟨data, ?_⟩
  rw [List.filterMap_append, List.filterMap_append]
  exact List.mem_append_left _ (List.mem_append_right _ member)

/-- When the list ends well, all of it was acknowledged. -/
theorem Posting.acknowledged (posting : Posting library commands trace result)
    (known : ∀ command ∈ commands, command.1.command) (well : result = .ok ()) :
    ∀ command ∈ commands, AcknowledgedIn library.loads trace command := by
  induction posting with
  | done => simp
  | refused _ => cases well
  | failed _ => cases well
  | broken _ => cases well
  | stopped => cases well
  | @next endpoint payload rest token reply data trace result judged later ih =>
    intro command member
    have first : commandReply library.loads (.answered ⟨.http endpoint token (some payload), reply⟩) =
        some ((endpoint, payload), received library.loads true reply) :=
      commandReply_answered (known _ (List.mem_cons_self ..))
    rcases List.mem_cons.mp member with rfl | other
    · refine ⟨data, List.mem_filterMap.mpr ⟨_, List.mem_cons_of_mem _ (List.mem_cons_self ..), ?_⟩⟩
      rw [first, judged]
    · obtain ⟨data', found⟩ := ih (fun command member => known command (List.mem_cons_of_mem _ member))
        well command other
      refine ⟨data', ?_⟩
      rw [List.filterMap_cons_none rfl, List.filterMap_cons_some first]
      exact List.mem_cons_of_mem _ found

/-- One command, or none, has nothing to wait for. -/
theorem Chained.of_short (short : (trace.filterMap sentCommand).length ≤ 1) : Chained loads trace := by
  rintro past exchange future rfl sent command member
  obtain ⟨other, found⟩ := Option.isSome_iff_exists.mp sent
  rw [List.filterMap_append, List.filterMap_cons_some found] at short
  have one := List.length_pos_of_mem member
  simp only [List.length_append, List.length_cons] at short
  omega

theorem Chained.append {later : List (Exchange clientFace)} (first : Chained loads trace)
    (second : Chained loads later)
    (all : ∀ command ∈ trace.filterMap sentCommand, AcknowledgedIn loads trace command) :
    Chained loads (trace ++ later) := by
  rintro past exchange future split sent command member
  rcases List.append_eq_append_iff.mp split with ⟨middle, rfl, rest⟩ | ⟨middle, whole, rest⟩
  · rw [List.filterMap_append] at member
    rcases List.mem_append.mp member with early | late
    · exact (all command early).append [] middle
    · obtain ⟨data, found⟩ := second middle exchange future rest sent command late
      refine ⟨data, ?_⟩
      rw [List.filterMap_append]
      exact List.mem_append_right _ found
  · rcases List.cons_eq_append_iff.mp rest with ⟨rfl, rfl⟩ | ⟨tail, rfl, rfl⟩
    · rw [List.append_nil] at whole
      subst whole
      exact all command member
    · exact first past exchange tail whole sent command member

/-- What sends nothing may follow. -/
theorem Chained.quiet {later : List (Exchange clientFace)} (chained : Chained loads trace)
    (silent : later.filterMap sentCommand = []) : Chained loads (trace ++ later) := by
  rintro past exchange future split sent command member
  rcases List.append_eq_append_iff.mp split with ⟨middle, rfl, rest⟩ | ⟨middle, whole, rest⟩
  · have unsent := List.filterMap_eq_nil_iff.mp silent exchange
      (rest ▸ List.mem_append_right _ (List.mem_cons_self ..))
    rw [unsent] at sent
    cases sent
  · rcases List.cons_eq_append_iff.mp rest with ⟨rfl, rfl⟩ | ⟨tail, rfl, rfl⟩
    · rw [List.filterMap_cons] at silent
      obtain ⟨other, found⟩ := Option.isSome_iff_exists.mp sent
      rw [found] at silent
      cases silent
    · exact chained past exchange tail whole sent command member

theorem Posting.chained (posting : Posting library commands trace result)
    (known : ∀ command ∈ commands, command.1.command) : Chained library.loads trace := by
  induction posting with
  | done => exact .of_short (by simp)
  | refused _ => exact .of_short (by simp)
  | failed _ | broken _ =>
    apply Chained.of_short
    rw [List.filterMap_cons_some (sentCommand_asked (known _ (List.mem_cons_self ..)))]
    exact Nat.le_refl 1
  | stopped =>
    apply Chained.of_short
    rw [List.filterMap_cons_some (sentCommand_asked (known _ (List.mem_cons_self ..)))]
    exact Nat.le_refl 1
  | @next endpoint payload rest token reply data trace result judged later ih =>
    have mine := known _ (List.mem_cons_self ..)
    have one : [.asked (.http endpoint token (some payload)),
        .answered ⟨.http endpoint token (some payload), reply⟩].filterMap sentCommand =
          [(endpoint, payload)] := by
      rw [List.filterMap_cons_some (sentCommand_asked mine)]
      rfl
    have rest := ih fun command member => known command (List.mem_cons_of_mem _ member)
    refine Chained.append (.of_short (by rw [one]; exact Nat.le_refl 1)) rest ?_
    rw [one]
    intro command member
    cases List.mem_singleton.mp member
    refine ⟨data, List.mem_filterMap.mpr ⟨_, List.mem_cons_of_mem _ (List.mem_singleton_self _), ?_⟩⟩
    rw [commandReply_answered mine, judged]

end Sending

section Looking

variable {library : Library} {account : Account} {task : Nat} {state final : Client}
  {trace : List (Exchange clientFace)}

/-- Looking for the owned device sends no command. -/
theorem looks_silent (loads : List UInt8 → Option Json)
    (looks : ∀ exchange ∈ trace, @Exchange.Fits clientFace looksUp (fun _ => True) exchange) :
    trace.filterMap sentCommand = [] ∧ trace.filterMap (commandReply loads) = [] := by
  have reads : ∀ {endpoint : Endpoint} {token : Option String} {payload : Option Payload},
      looksUp (.http endpoint token payload) → endpoint.command = false := by
    rintro endpoint token payload (signing | ⟨token', payload', same⟩ | ⟨id, token', same⟩)
    · cases endpoint <;> first | rfl | exact signing.elim
    · cases same
      rfl
    · cases same
      rfl
  refine ⟨List.filterMap_eq_nil_iff.mpr fun exchange member => ?_,
    List.filterMap_eq_nil_iff.mpr fun exchange member => ?_⟩
  · have fits := looks exchange member
    match exchange with
    | .asked (.http endpoint token (some payload)) => exact if_neg (by simp [reads fits])
    | .asked (.http endpoint token none) | .asked .encrypt | .told _ | .answered _ | .interrupted _ => rfl
  · have fits := looks exchange member
    match exchange with
    | .answered ⟨.http endpoint token (some payload), reply⟩ => exact if_neg (by simp [reads fits])
    | .answered ⟨.http endpoint token none, reply⟩ | .answered ⟨.encrypt, _⟩ | .told _ | .asked _
    | .interrupted _ => rfl

theorem request_ok {verb : Verb} {endpoint : Endpoint} {token : Option String}
    {payload : Option Payload} {data : Json}
    (converses : Converses (Call.request library verb endpoint token payload) state trace (.ok data) final) :
    ∃ reply : HttpReply, .answered ⟨.http endpoint token payload, reply⟩ ∈ trace ∧
      received library.loads endpoint.command reply = .ok data := by
  rcases Call.request_converses library converses with
    ⟨-, error, same, -⟩ | ⟨reply, rfl, ⟨-, same⟩ | ⟨-, same⟩⟩ | ⟨reason, -, same⟩
  · cases same
  · cases same
  · refine ⟨reply, List.mem_cons_of_mem _ (List.mem_singleton_self _), ?_⟩
    cases judged : received library.loads endpoint.command reply with
    | ok data' =>
      rw [judged] at same
      cases same
      rfl
    | error error =>
      rw [judged] at same
      cases same
  · cases same

/-- Data that is read was received. -/
theorem read_ok {endpoint : Endpoint} {payload : Option Payload} {data : Json}
    (converses : Converses (Call.read library account task endpoint payload) state trace (.ok data) final) :
    ∃ (token : Option String) (reply : HttpReply), .answered ⟨.http endpoint token payload, reply⟩ ∈ trace ∧
      received library.loads endpoint.command reply = .ok data := by
  obtain ⟨first, middle, left, right, rfl, -, rest⟩ := converses_then.mp converses
  cases first with
  | error problem => cases (converses_chain_error.mp rest).2.1
  | ok _ =>
    obtain ⟨later, rfl, tried⟩ := converses_say.mp (converses_get.mp rest)
    obtain ⟨first, middle', left', right', rfl, requested, handled⟩ := converses_attempt.mp tried
    cases first with
    | ok data' =>
      obtain ⟨rfl, same, -⟩ := converses_done.mp handled
      cases same
      obtain ⟨reply, member, judged⟩ := request_ok requested
      refine ⟨middle.token, reply, ?_, judged⟩
      exact List.mem_append_right _ (List.mem_cons_of_mem _ (List.mem_append_left _ member))
    | error problem =>
      cases problem with
      | interrupted reason => cases (converses_done.mp handled).2.1
      | recursion => cases (converses_done.mp handled).2.1
      | error error =>
        simp only [Process.recover] at handled
        split at handled
        · obtain ⟨renewed, middle'', left'', right'', rfl, -, again⟩ := converses_then.mp handled
          cases renewed with
          | error problem => cases (converses_chain_error.mp again).2.1
          | ok _ =>
            obtain ⟨reply, member, judged⟩ := request_ok (converses_get.mp again)
            refine ⟨middle''.token, reply, ?_, judged⟩
            apply List.mem_append_right
            exact List.mem_cons_of_mem _ (List.mem_append_right _ (List.mem_append_right _ member))
        · cases (converses_done.mp handled).2.1

theorem DetailRead.append {loads : List UInt8 → Option Json} {detail : Dict}
    (before after : List (Exchange clientFace)) (read : DetailRead loads trace detail) :
    DetailRead loads (before ++ trace ++ after) detail := by
  obtain ⟨id, token, reply, member, judged⟩ := read
  exact ⟨id, token, reply, List.mem_append_left _ (List.mem_append_right _ member), judged⟩

theorem deviceDetail_ok {device detail : Dict}
    (converses : Converses (Call.deviceDetail library account task device) state trace (.ok detail) final) :
    DetailRead library.loads trace detail := by
  obtain ⟨first, middle, left, right, rfl, checked, rest⟩ := converses_then.mp converses
  obtain ⟨rfl, rfl, rfl⟩ := converses_done.mp checked
  cases valid : identifier (Dict.get device "id") with
  | error error =>
    rw [valid] at rest
    cases (converses_chain_error.mp rest).2.1
  | ok id =>
    rw [valid] at rest
    obtain ⟨first, middle', left, right, rfl, shown, last⟩ := converses_then.mp rest
    cases first with
    | error problem => cases (converses_chain_error.mp last).2.1
    | ok data =>
      obtain ⟨rfl, same, -⟩ := converses_done.mp last
      cases matching : Call.matchingDetail device id data with
      | error error =>
        rw [matching] at same
        cases same
      | ok detail' =>
        rw [matching] at same
        cases same
        obtain ⟨rfl, -, -⟩ := matchingDetail_ok matching
        obtain ⟨token, reply, member, judged⟩ := read_ok shown
        exact ⟨id, token, reply, by simpa using member, judged⟩

/-- The owned device is a row of the list with the detail that was read. -/
theorem ownedDevice_ok {mac : String} {owned : Dict}
    (converses : Converses (Call.ownedDevice library account task mac) state trace (.ok owned) final) :
    ∃ device detail, owned = merged device detail ∧ DetailRead library.loads trace detail := by
  obtain ⟨first, middle, left, right, rfl, checked, rest⟩ := converses_then.mp converses
  obtain ⟨rfl, rfl, rfl⟩ := converses_done.mp checked
  cases valid : normalizeMac (.text mac) with
  | error error =>
    rw [valid] at rest
    cases (converses_chain_error.mp rest).2.1
  | ok target =>
    rw [valid] at rest
    obtain ⟨first, found, before, right, rfl, -, rest⟩ := converses_then.mp rest
    cases first with
    | error problem => cases (converses_chain_error.mp rest).2.1
    | ok device =>
      obtain ⟨first, looked, between, right, rfl, shown, rest⟩ := converses_then.mp rest
      cases first with
      | error problem => cases (converses_chain_error.mp rest).2.1
      | ok detail =>
        obtain ⟨first, judged, left, right, rfl, checked, rest⟩ :=
          converses_then.mp (converses_get.mp rest)
        obtain ⟨rfl, rfl, rfl⟩ := converses_done.mp checked
        have read := (deviceDetail_ok shown).append before right
        cases owned' : Call.ownedBy judged.ownerId detail with
        | error error =>
          rw [owned'] at rest
          cases (converses_chain_error.mp rest).2.1
        | ok mine =>
          rw [owned'] at rest
          cases mine with
          | false => cases (converses_done.mp rest).2.1
          | true =>
            obtain ⟨later, rfl, done⟩ := converses_say.mp rest
            obtain ⟨rfl, same, -⟩ := converses_done.mp done
            cases same
            exact ⟨device, detail, rfl, by simpa using read⟩

end Looking

/-- What the detail after a change shows, against the one before it. -/
def Demonstrates (library : Library) (account : Account) (earlier feedback : Dict) : Mutation → Prop
  | .rename label => Dict.get feedback "name" = .text label
  | .location label => Dict.get feedback "location" = .text label
  | .extendFilter filterId _ => ∃ token token' before after,
    experimentalFilter library account token earlier filterId = .ok before ∧
      experimentalFilter library account token' feedback filterId = .ok after ∧
        after.extensionHours ≠ before.extensionHours
  | .resetFilter filterId => ∃ token token' before after,
    experimentalFilter library account token earlier filterId = .ok before ∧
      experimentalFilter library account token' feedback filterId = .ok after ∧
        0 < before.usedHours ∧ after.usedHours = 0

/-- The result says that the change was accepted. -/
def Accepting (result : Except Problem Json) : Prop :=
  ∃ entries, result = .ok (.dict entries) ∧ Dict.get entries "accepted" = .bool true

/-- The result says that the device shows the change. -/
def Confirming (result : Except Problem Json) : Prop :=
  ∃ entries, result = .ok (.dict entries) ∧ Dict.get entries "confirmed" = .bool true

/-- The result leaves open what was executed. -/
def LeavesOpen (result : Except Problem Json) : Prop :=
  ∃ error, result = .error (.error error) ∧ error.kind = .command ∧ error.outcomeUnknown = true

/-- A command was acknowledged, or its reply leaves open whether it was executed. -/
def PerhapsExecuted (loads : List UInt8 → Option Json) (trace : List (Exchange clientFace)) : Prop :=
  ∃ command reply, (command, reply) ∈ trace.filterMap (commandReply loads) ∧
    ((∃ data, reply = .ok data) ∨ Uncertain reply)

/-- The result does not deny what may have been executed. -/
def Honest (loads : List UInt8 → Option Json) (trace : List (Exchange clientFace))
    (result : Except Problem Json) : Prop :=
  PerhapsExecuted loads trace →
    Accepting result ∨ LeavesOpen result ∨ ∃ reason, result = .error (.interrupted reason)

/-- From the first command on, `json.loads` survives every reply. -/
def Survived (library : Library) (trace : List (Exchange clientFace)) : Prop :=
  ∀ past exchange future, trace = past ++ exchange :: future → past.filterMap sentCommand ≠ [] →
    ¬ Nested library exchange

/-- The vendor's commands of a change, and what is confirmed of them. -/
structure Delivery (library : Library) (account : Account) (change : Mutation)
    (trace : List (Exchange clientFace)) (result : Except Problem Json) : Prop where
  once : (trace.filterMap sentCommand).Nodup
  few : (trace.filterMap sentCommand).length ≤ 2
  chained : Chained library.loads trace
  confirmed : Confirming result → ∃ before sent after earlier feedback, trace = before ++ sent ++ after ∧
    before.filterMap sentCommand = [] ∧ sent.filterMap sentCommand ≠ [] ∧
      after.filterMap sentCommand = [] ∧ DetailRead library.loads before earlier ∧
        DetailRead library.loads after feedback ∧ Demonstrates library account earlier feedback change

/-- A change up to its end: what ends it dishonestly is a `RecursionError` after its first command. -/
structure Course (library : Library) (account : Account) (change : Mutation)
    (trace : List (Exchange clientFace)) (result : Except Problem Json) : Prop
    extends Delivery library account change trace result where
  honest : Survived library trace → Honest library.loads trace result
  broken : result = .error .recursion → trace.filterMap sentCommand ≠ [] →
    PerhapsExecuted library.loads trace

section Changes

variable {library : Library} {account : Account} {task : Nat} {state final : Client}
  {trace : List (Exchange clientFace)} {change : Mutation} {token : Option String}

theorem experimentalFilter_merged (device detail : Dict) (filterId : String) :
    experimentalFilter library account token (merged device detail) filterId =
      experimentalFilter library account token detail filterId := by
  simp only [experimentalFilter, filterSummaries, experimentalFilters,
    get_merged device detail (show "filter" ≠ "id" by decide)]

/-- The filter that a change is about, as it was before. -/
def Baseline (library : Library) (account : Account) (earlier : Dict) (before : Option FilterLife) :
    Mutation → Prop
  | .rename _ | .location _ => True
  | .extendFilter filterId _ | .resetFilter filterId => ∃ token life, before = some life ∧
    experimentalFilter library account token earlier filterId = .ok life

theorem mutationRequests_ok {device earlier : Dict} {first : Endpoint × Payload}
    {others : List (Endpoint × Payload)} {before : Option FilterLife}
    (made : Call.mutationRequests library account token (merged device earlier) change =
      .ok (first, others, before)) :
    (∀ command ∈ first :: others, command.1.command) ∧ (first :: others).Nodup ∧ others.length ≤ 1 ∧
      Baseline library account earlier before change := by
  cases change with
  | rename label =>
    cases made
    exact ⟨by simp [Endpoint.command], by simp, by simp, trivial⟩
  | location label =>
    cases made
    exact ⟨by simp [Endpoint.command], by simp, by simp, trivial⟩
  | extendFilter filterId extension =>
    obtain ⟨life, selected, made⟩ := ok_of_bind made
    rw [experimentalFilter_merged] at selected
    dsimp only at made
    split at made
    · cases made
    · cases made
      exact ⟨by simp [Endpoint.command], by simp, by simp, token, life, rfl, selected⟩
  | resetFilter filterId =>
    obtain ⟨life, selected, made⟩ := ok_of_bind made
    rw [experimentalFilter_merged] at selected
    obtain ⟨id, -, made⟩ := ok_of_bind made
    cases made
    exact ⟨by simp [Endpoint.command], by simp, by simp, token, life, rfl, selected⟩

/-- What the result of a change says. -/
theorem mutationFeedback_ok {device earlier feedback : Dict} {before : Option FilterLife} {shown : Json}
    (baseline : Baseline library account earlier before change)
    (made : Call.mutationFeedback library account token before (merged device feedback) change = .ok shown) :
    Accepting (.ok shown) ∧
      (Confirming (.ok shown) → Demonstrates library account earlier feedback change) := by
  have reported : ∀ confirmed life, Accepting (.ok (Call.mutationFeedback.report confirmed life)) ∧
      (Confirming (.ok (Call.mutationFeedback.report confirmed life)) → confirmed = true) := by
    intro confirmed life
    refine ⟨⟨_, rfl, rfl⟩, ?_⟩
    rintro ⟨entries, same, shown⟩
    cases same
    cases confirmed with
    | true => rfl
    | false => cases shown
  have label : ∀ {value : Json} {text : String}, Call.mutationFeedback.isText value text = true →
      value = .text text := by
    intro value text same
    cases value with
    | text other => exact congrArg Json.text (by simpa [Call.mutationFeedback.isText] using same)
    | _ => cases same
  cases change with
  | rename text =>
    cases made
    refine ⟨(reported _ _).1, fun confirming => ?_⟩
    have same := label ((reported _ _).2 confirming)
    rwa [get_merged device feedback (by decide)] at same
  | location text =>
    cases made
    refine ⟨(reported _ _).1, fun confirming => ?_⟩
    have same := label ((reported _ _).2 confirming)
    rwa [get_merged device feedback (by decide)] at same
  | extendFilter filterId extension =>
    obtain ⟨earlierToken, life, rfl, held⟩ := baseline
    obtain ⟨after, selected, made⟩ := ok_of_bind made
    rw [experimentalFilter_merged] at selected
    cases made
    refine ⟨(reported _ _).1, fun confirming => ?_⟩
    have changed := (reported _ _).2 confirming
    exact ⟨earlierToken, token, life, after, held, selected, by simpa using changed⟩
  | resetFilter filterId =>
    obtain ⟨earlierToken, life, rfl, held⟩ := baseline
    obtain ⟨after, selected, made⟩ := ok_of_bind made
    rw [experimentalFilter_merged] at selected
    cases made
    refine ⟨(reported _ _).1, fun confirming => ?_⟩
    have changed := (reported _ _).2 confirming
    exact ⟨earlierToken, token, life, after, held, selected, by simpa using changed⟩

theorem Survived.broken {past : List (Exchange clientFace)} (sent : past.filterMap sentCommand ≠ [])
    (nested : Happened (Nested library) trace) : ¬ Survived library (past ++ trace) := by
  intro survived
  obtain ⟨exchange, member, deep⟩ := nested
  obtain ⟨before, after, rfl⟩ := List.append_of_mem member
  refine survived (past ++ before) exchange after (by simp) ?_ deep
  rw [List.filterMap_append]
  exact List.append_ne_nil_of_left_ne_nil sent _

/-- If the replies were not all survived, commands that may have been executed end with a
`RecursionError`. -/
theorem Course.lost {result : Except Problem Json} (course : Course library account change trace result)
    (breaks : result = .error .recursion ↔ Happened (Nested library) trace) (lost : ¬ Survived library trace) :
    result = .error .recursion ∧ PerhapsExecuted library.loads trace := by
  simp only [Survived, not_forall, not_not] at lost
  obtain ⟨past, exchange, future, split, sent, nested⟩ := lost
  have broken : result = .error .recursion := breaks.mpr ⟨exchange, by simp [split], nested⟩
  refine ⟨broken, course.broken broken ?_⟩
  rw [split, List.filterMap_append]
  exact List.append_ne_nil_of_left_ne_nil sent _

/-- A change is honest exactly if its replies are survived. -/
theorem Course.honest_iff {result : Except Problem Json} (course : Course library account change trace result)
    (breaks : result = .error .recursion ↔ Happened (Nested library) trace) :
    Honest library.loads trace result ↔ Survived library trace := by
  refine ⟨fun honest => ?_, course.honest⟩
  by_contra lost
  obtain ⟨rfl, executed⟩ := course.lost breaks lost
  rcases honest executed with ⟨entries, same, -⟩ | ⟨error, same, -⟩ | ⟨reason, same⟩ <;> cases same

/-- Nothing was sent. -/
theorem Course.unsent {problem : Problem} (silent : trace.filterMap sentCommand = [])
    (unanswered : trace.filterMap (commandReply library.loads) = []) :
    Course library account change trace (.error problem) := by
  refine ⟨⟨by rw [silent]; exact List.nodup_nil, by rw [silent]; simp, .of_short (by rw [silent]; simp),
    ?_⟩, ?_, fun _ sent => absurd silent sent⟩
  · rintro ⟨entries, same, -⟩
    cases same
  · rintro - ⟨command, reply, member, -⟩
    rw [unanswered] at member
    cases member

/-- The first command was not acknowledged. -/
theorem Course.failed {past : List (Exchange clientFace)} {first : Endpoint × Payload}
    {problem : Problem} (known : first.1.command) (silent : past.filterMap sentCommand = [])
    (unanswered : past.filterMap (commandReply library.loads) = [])
    (posting : Posting library [first] trace (.error problem)) :
    Course library account change (past ++ trace) (.error problem) := by
  have sent : (past ++ trace).filterMap sentCommand <+: [first] := by
    rw [List.filterMap_append, silent]
    exact posting.sent fun command member => List.mem_singleton.mp member ▸ known
  have short : ((past ++ trace).filterMap sentCommand).length ≤ 1 := sent.length_le
  refine ⟨⟨sent.sublist.nodup (List.nodup_singleton _), by omega, .of_short short, ?_⟩, ?_, ?_⟩
  · rintro ⟨entries, same, -⟩
    cases same
  · rintro survived ⟨command, reply, member, executed⟩
    rw [List.filterMap_append, unanswered] at member
    cases posting with
    | refused _ => cases member
    | broken deep =>
      rw [List.append_cons] at survived
      refine absurd survived (Survived.broken ?_ (by simpa [Nested] using deep))
      simp [List.filterMap_append, sentCommand_asked known]
    | failed judged =>
      rw [List.filterMap_cons_none rfl, List.filterMap_cons_some (commandReply_answered known)] at member
      cases List.mem_singleton.mp member
      rw [judged] at executed
      rcases executed with ⟨data, impossible⟩ | ⟨error, same, kind, unknown⟩
      · cases impossible
      · cases same
        exact .inr (.inl ⟨_, rfl, kind, unknown⟩)
    | stopped => exact .inr (.inr ⟨_, rfl⟩)
    | next judged later => cases later
  · rintro same -
    cases posting with
    | @broken endpoint payload _ _ _ deep =>
      obtain ⟨error, judged, open_⟩ := Library.received_deep true deep
      refine ⟨(endpoint, payload), .error error, ?_, .inr ⟨error, rfl, open_ rfl⟩⟩
      rw [List.filterMap_append, List.filterMap_cons_none rfl,
        List.filterMap_cons_some (commandReply_answered known), judged]
      exact List.mem_append_right _ (List.mem_singleton_self _)
    | next judged later => cases later
    | _ => cases same

/-- The rest of a change, once its first command is acknowledged. -/
theorem mutation_rest {mac : String} {others : List (Endpoint × Payload)} {before : Option FilterLife}
    {result : Except Problem Json} (known : ∀ command ∈ others, command.1.command)
    (converses : Converses (do
      Call.sendAll library others
      let feedback ← Call.ownedDevice library account task mac
      let now : Client ← Process.get
      Call.check (Call.mutationFeedback library account now.token before feedback change) : Call Json)
      state trace result final) :
    ∃ sent after ended, trace = sent ++ after ∧ Posting library others sent ended ∧
      (∀ exchange ∈ after, @Exchange.Fits clientFace looksUp (fun _ => True) exchange) ∧
        ∀ shown, result = .ok shown → ended = .ok () ∧ ∃ device feedback token,
          DetailRead library.loads after feedback ∧
            Call.mutationFeedback library account token before (merged device feedback) change = .ok shown := by
  obtain ⟨ended, middle, sent, after, rfl, posted, rest⟩ := converses_then.mp converses
  refine ⟨sent, after, ended, rfl, sendAll_posting known posted, ?_⟩
  cases ended with
  | error problem =>
    obtain ⟨rfl, rfl, -⟩ := converses_chain_error.mp rest
    refine ⟨by simp, ?_⟩
    rintro shown ⟨⟩
  | ok _ =>
    obtain ⟨looked, middle', left, right, rfl, looking, rest⟩ := converses_then.mp rest
    have looks := looking.fits (Call.ownedDevice_looks library account task mac)
    cases looked with
    | error problem =>
      obtain ⟨rfl, rfl, -⟩ := converses_chain_error.mp rest
      refine ⟨by simpa using looks, ?_⟩
      rintro shown ⟨⟩
    | ok owned =>
      obtain ⟨rfl, same, rfl⟩ := converses_done.mp (converses_get.mp rest)
      obtain ⟨device, feedback, rfl, read⟩ := ownedDevice_ok looking
      refine ⟨by simpa using looks, fun shown returned => ⟨rfl, device, feedback, final.token, ?_, ?_⟩⟩
      · simpa using read
      · rw [returned] at same
        cases made : Call.mutationFeedback library account final.token before (merged device feedback)
            change with
        | error error =>
          rw [made] at same
          cases same
        | ok shown' =>
          rw [made] at same
          cases same
          rfl

/-- What a change sends and says, on the detail that was read before. -/
theorem experimentalMutation_course {mac : String} {device earlier : Dict}
    {past : List (Exchange clientFace)} {result : Except Problem Json}
    (looked : ∀ exchange ∈ past, @Exchange.Fits clientFace looksUp (fun _ => True) exchange)
    (read : DetailRead library.loads past earlier)
    (converses : Converses (Call.experimentalMutation library account task mac (merged device earlier) change)
      state trace result final) :
    Course library account change (past ++ trace) result := by
  obtain ⟨silent, unanswered⟩ := looks_silent library.loads looked
  obtain ⟨requests, middle, left, right, rfl, checked, rest⟩ :=
    converses_then.mp (converses_get.mp converses)
  obtain ⟨rfl, rfl, rfl⟩ := converses_done.mp checked
  cases made : Call.mutationRequests library account middle.token (merged device earlier) change with
  | error error =>
    rw [made] at rest
    obtain ⟨rfl, rfl, -⟩ := converses_chain_error.mp rest
    simpa using Course.unsent silent unanswered
  | ok requests =>
    obtain ⟨first, others, before⟩ := requests
    rw [made] at rest
    obtain ⟨known, distinct, few, baseline⟩ := mutationRequests_ok made
    obtain ⟨knownFirst, knownOthers⟩ := List.forall_mem_cons.mp known
    obtain ⟨ended, middle', sent, later, rfl, posted, rest⟩ := converses_then.mp rest
    have posting := sendAll_posting (fun command member => List.mem_singleton.mp member ▸ knownFirst) posted
    cases ended with
    | error problem =>
      obtain ⟨rfl, rfl, -⟩ := converses_chain_error.mp rest
      simpa using Course.failed knownFirst silent unanswered posting
    | ok _ =>
      obtain ⟨tried, middle'', left, right, rfl, body, handled⟩ := converses_attempt.mp rest
      obtain ⟨second, after, ended, rfl, posting', looks, returned⟩ := mutation_rest knownOthers body
      obtain ⟨silent', -⟩ := looks_silent library.loads looks
      have acknowledged := posting.acknowledged
        (fun command member => List.mem_singleton.mp member ▸ knownFirst) rfl
      have one : sent.filterMap sentCommand = [first] := by
        cases posting with
        | next judged later =>
          cases later
          rw [List.filterMap_cons_some (sentCommand_asked knownFirst)]
          rfl
      obtain ⟨rfl, outcome⟩ : right = [] ∧ ((∃ shown, tried = .ok shown ∧ result = .ok shown) ∨
          LeavesOpen result ∨ (∃ reason, result = .error (.interrupted reason)) ∨
            tried = .error .recursion ∧ result = .error .recursion) := by
        cases tried with
        | ok shown =>
          obtain ⟨rfl, rfl, -⟩ := converses_done.mp handled
          exact ⟨rfl, .inl ⟨shown, rfl, rfl⟩⟩
        | error problem =>
          cases problem with
          | error error =>
            obtain ⟨rfl, rfl, -⟩ := converses_done.mp handled
            exact ⟨rfl, .inr (.inl ⟨_, rfl, rfl, rfl⟩)⟩
          | interrupted reason =>
            obtain ⟨rfl, rfl, -⟩ := converses_done.mp handled
            exact ⟨rfl, .inr (.inr (.inl ⟨reason, rfl⟩))⟩
          | recursion =>
            obtain ⟨rfl, rfl, -⟩ := converses_done.mp handled
            exact ⟨rfl, .inr (.inr (.inr ⟨rfl, rfl⟩))⟩
      have whole : past ++ ([] ++ (sent ++ (second ++ after ++ []))) =
          (past ++ sent) ++ second ++ after := by simp
      have commands : ((past ++ sent) ++ second ++ after).filterMap sentCommand =
          first :: second.filterMap sentCommand := by
        simp [List.filterMap_append, silent, silent', one]
      have beginning : first :: second.filterMap sentCommand <+: first :: others :=
        List.cons_prefix_cons.mpr ⟨rfl, posting'.sent knownOthers⟩
      have accepted : ∀ shown, result = .ok shown → tried = .ok shown → Accepting result ∧
          (Confirming result → ∃ feedback, DetailRead library.loads after feedback ∧
            Demonstrates library account earlier feedback change) := by
        rintro shown rfl rfl
        obtain ⟨-, device', feedback, token', read', answer⟩ := returned shown rfl
        obtain ⟨accepting, shows⟩ := mutationFeedback_ok baseline answer
        exact ⟨accepting, fun confirming => ⟨feedback, read', shows confirming⟩⟩
      rw [whole]
      refine ⟨⟨?_, ?_, ?_, fun confirming => ?_⟩, fun survived _ => ?_, fun _ _ => ?_⟩
      · rw [commands]
        exact beginning.sublist.nodup distinct
      · rw [commands]
        exact Nat.le_trans beginning.length_le (Nat.succ_le_succ few)
      · apply Chained.quiet ?_ silent'
        apply Chained.append (.of_short (by simp [silent, one])) (posting'.chained knownOthers)
        intro command member
        have same : command = first := by simpa [silent, one] using member
        subst same
        have found := (acknowledged command (List.mem_singleton_self _)).append past []
        rwa [List.append_nil] at found
      · rcases outcome with ⟨shown, tried', result'⟩ | ⟨error, rfl, -⟩ | ⟨reason, rfl⟩ | ⟨-, rfl⟩
        · obtain ⟨feedback, read', shows⟩ := (accepted shown result' tried').2 confirming
          refine ⟨past, sent ++ second, after, earlier, feedback, by simp, silent, ?_, silent', read, read',
            shows⟩
          simp [one]
        all_goals
          obtain ⟨entries, impossible, -⟩ := confirming
          cases impossible
      · rcases outcome with ⟨shown, tried', result'⟩ | unsure | stopped | ⟨broken, -⟩
        · exact .inl (accepted shown result' tried').1
        · exact .inr (.inl unsure)
        · exact .inr (.inr stopped)
        · rw [List.append_assoc] at survived
          refine absurd survived (Survived.broken (by simp [one]) ?_)
          exact (Call.feedback_breaks body).mp broken
      · obtain ⟨data, found⟩ := acknowledged first (List.mem_singleton_self _)
        refine ⟨first, .ok data, ?_, .inl ⟨data, rfl⟩⟩
        rw [List.filterMap_append, List.filterMap_append, List.filterMap_append]
        exact List.mem_append_left _ (List.mem_append_left _ (List.mem_append_right _ found))

/-- Every change with accepted parameters, whatever the vendor replies. -/
theorem experimentalAction_course {mac action : String} {parameters : Dict}
    {result : Except Problem Json}
    (accepted : experimentalParameters action parameters = .ok (.mutation change))
    (converses : Converses (Call.experimentalAction library account task mac action parameters) state trace
      result final) : Course library account change trace result := by
  obtain ⟨chosen, middle, left, right, rfl, checked, rest⟩ := converses_then.mp converses
  obtain ⟨rfl, rfl, rfl⟩ := converses_done.mp checked
  rw [accepted] at rest
  obtain ⟨target, middle', left, right, rfl, checked', located⟩ := converses_then.mp rest
  obtain ⟨rfl, rfl, rfl⟩ := converses_done.mp checked'
  cases valid : normalizeMac (.text mac) with
  | error error =>
    rw [valid] at located
    obtain ⟨rfl, rfl, -⟩ := converses_chain_error.mp located
    exact .unsent rfl rfl
  | ok target =>
    rw [valid] at located
    rcases converses_withLock located with ⟨reason, rfl, rfl⟩ | ⟨entry, leave, inside⟩
    · exact .unsent rfl rfl
    · obtain ⟨owned, looked, past, later, rfl, looking, rest⟩ := converses_then.mp inside
      have looks := looking.fits (Call.ownedDevice_looks library account task target)
      cases owned with
      | error problem =>
        obtain ⟨rfl, rfl, -⟩ := converses_chain_error.mp rest
        obtain ⟨silent, unanswered⟩ := looks_silent library.loads looks
        exact .unsent (by simpa using silent) (by simpa using unanswered)
      | ok detail =>
        obtain ⟨device, earlier, rfl, read⟩ := ownedDevice_ok looking
        have course := experimentalMutation_course looks read rest
        exact course

end Changes

end AlorairLite.Cloud
