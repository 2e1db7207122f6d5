import AlorairLite.Async.Contract

/-! A coroutine by itself: all that it may say, ask and be told until it ends, whatever
the others do to the shared state while it is suspended. -/

namespace Async

/-- One turn between a coroutine and the outside world. -/
inductive Exchange (face : Interface) where
  | told (remark : face.Remark)
  | asked (query : face.Query)
  | answered (reply : Sigma face.Answer)
  | interrupted (reason : face.Interrupt)

variable {face : Interface} {Operation Result First Second Error : Type}

/-- The coroutine may go on from this state with these exchanges and end with this result.
After each suspension the shared state may be any other. -/
inductive Converses : Coroutine face Result → face.State → List (Exchange face) → Result →
    face.State → Prop where
  | done {result : Result} {state : face.State} : Converses (.done result) state [] result state
  | act {move : face.State → face.State} {next : face.State → Coroutine face Result}
      (rest : Converses (next state) (move state) trace result final) :
      Converses (.act move next) state trace result final
  | tell {remark : face.Remark} (rest : Converses next state trace result final) :
      Converses (.tell remark next) state (.told remark :: trace) result final
  | answer {query : face.Query} {resume : face.Answer query → Coroutine face Result}
      {interrupted : face.Interrupt → Coroutine face Result} {reply : face.Answer query}
      (rest : Converses (resume reply) later trace result final) :
      Converses (.ask query resume interrupted) state
        (.asked query :: .answered ⟨query, reply⟩ :: trace) result final
  | interrupt {query : face.Query} {resume : face.Answer query → Coroutine face Result}
      {interrupted : face.Interrupt → Coroutine face Result} {reason : face.Interrupt}
      (rest : Converses (interrupted reason) later trace result final) :
      Converses (.ask query resume interrupted) state
        (.asked query :: .interrupted reason :: trace) result final
  | grant {ready : face.State → Bool} {interrupted : face.Interrupt → Coroutine face Result}
      (free : ready later) (rest : Converses resume later trace result final) :
      Converses (.wait ready resume interrupted) state trace result final
  | abandon {ready : face.State → Bool} {resume : Coroutine face Result}
      {interrupted : face.Interrupt → Coroutine face Result} {reason : face.Interrupt}
      (rest : Converses (interrupted reason) later trace result final) :
      Converses (.wait ready resume interrupted) state (.interrupted reason :: trace) result final

theorem converses_bind {code : Coroutine face First} {next : First → Coroutine face Second}
    {state final : face.State} {trace : List (Exchange face)} {result : Second} :
    Converses (code.bind next) state trace result final ↔
      ∃ first middle left right, trace = left ++ right ∧ Converses code state left first middle ∧
        Converses (next first) middle right result final := by
  constructor
  · intro converses
    induction code generalizing state trace with
    | done first => exact ⟨first, state, [], trace, rfl, .done, converses⟩
    | act move rest ih =>
      cases converses with
      | act remaining =>
        obtain ⟨first, middle, left, right, rfl, before, after⟩ := ih _ remaining
        exact ⟨first, middle, left, right, rfl, .act before, after⟩
    | tell remark rest ih =>
      cases converses with
      | tell remaining =>
        obtain ⟨first, middle, left, right, rfl, before, after⟩ := ih remaining
        exact ⟨first, middle, _ :: left, right, rfl, .tell before, after⟩
    | ask query resume interrupted answered stopped =>
      cases converses with
      | answer remaining =>
        obtain ⟨first, middle, left, right, rfl, before, after⟩ := answered _ remaining
        exact ⟨first, middle, _ :: _ :: left, right, rfl, .answer before, after⟩
      | interrupt remaining =>
        obtain ⟨first, middle, left, right, rfl, before, after⟩ := stopped _ remaining
        exact ⟨first, middle, _ :: _ :: left, right, rfl, .interrupt before, after⟩
    | wait ready resume interrupted granted stopped =>
      cases converses with
      | grant free remaining =>
        obtain ⟨first, middle, left, right, rfl, before, after⟩ := granted remaining
        exact ⟨first, middle, left, right, rfl, .grant free before, after⟩
      | abandon remaining =>
        obtain ⟨first, middle, left, right, rfl, before, after⟩ := stopped _ remaining
        exact ⟨first, middle, _ :: left, right, rfl, .abandon before, after⟩
  · rintro ⟨first, middle, left, right, rfl, before, after⟩
    induction before with
    | done => exact after
    | act _ ih => exact .act (ih after)
    | tell _ ih => exact .tell (ih after)
    | answer _ ih => exact .answer (ih after)
    | interrupt _ ih => exact .interrupt (ih after)
    | grant free _ ih => exact .grant free (ih after)
    | abandon _ ih => exact .abandon (ih after)

section Processes

variable {state final : face.State} {trace : List (Exchange face)}

theorem converses_then {process : Process face Error First}
    {next : First → Process face Error Second} {result : Except Error Second} :
    Converses (process >>= next : Process face Error Second) state trace result final ↔
      ∃ first middle left right, trace = left ++ right ∧ Converses process state left first middle ∧
        Converses (Process.chain next first) middle right result final := converses_bind

theorem converses_attempt {process : Process face Error First}
    {handler : Error → Process face Error First} {result : Except Error First} :
    Converses (Process.attempt process handler) state trace result final ↔
      ∃ first middle left right, trace = left ++ right ∧ Converses process state left first middle ∧
        Converses (Process.recover handler first) middle right result final := converses_bind

theorem converses_done {result value : Result} :
    Converses (.done value) state trace result final ↔ trace = [] ∧ result = value ∧ final = state := by
  constructor
  · rintro ⟨⟩
    exact ⟨rfl, rfl, rfl⟩
  · rintro ⟨rfl, rfl, rfl⟩
    exact .done

theorem converses_get {next : face.State → Process face Error Second} {result : Except Error Second} :
    Converses (Process.get >>= next : Process face Error Second) state trace result final ↔
      Converses (next state) state trace result final := by
  constructor
  · rintro ⟨⟩
    assumption
  · intro rest
    exact .act rest

theorem converses_modify {move : face.State → face.State} {next : Unit → Process face Error Second}
    {result : Except Error Second} :
    Converses (Process.modify move >>= next : Process face Error Second) state trace result final ↔
      Converses (next ()) (move state) trace result final := by
  constructor
  · rintro ⟨⟩
    assumption
  · intro rest
    exact .act rest

theorem converses_say {remark : face.Remark} {next : Unit → Process face Error Second}
    {result : Except Error Second} :
    Converses (Process.say remark >>= next : Process face Error Second) state trace result final ↔
      ∃ rest, trace = .told remark :: rest ∧ Converses (next ()) state rest result final := by
  constructor
  · rintro ⟨⟩
    exact ⟨_, rfl, by assumption⟩
  · rintro ⟨rest, rfl, remaining⟩
    exact .tell remaining

/-- A process that passes its result on passes its errors on too. -/
theorem converses_chain_error {next : First → Process face Error Second} {error : Error}
    {result : Except Error Second} :
    Converses (Process.chain next (.error error)) state trace result final ↔
      trace = [] ∧ result = .error error ∧ final = state := converses_done

theorem converses_request {stop : face.Interrupt → Error} {query : face.Query}
    {result : Except Error (face.Answer query)} :
    Converses (Process.request stop query : Process face Error (face.Answer query)) state trace result
        final ↔
      (∃ reply, trace = [.asked query, .answered ⟨query, reply⟩] ∧ result = .ok reply) ∨
        ∃ reason, trace = [.asked query, .interrupted reason] ∧ result = .error (stop reason) := by
  constructor
  · intro converses
    cases converses with
    | answer rest =>
      obtain ⟨rfl, rfl, -⟩ := converses_done.mp rest
      exact .inl ⟨_, rfl, rfl⟩
    | interrupt rest =>
      obtain ⟨rfl, rfl, -⟩ := converses_done.mp rest
      exact .inr ⟨_, rfl, rfl⟩
  · rintro (⟨reply, rfl, rfl⟩ | ⟨reason, rfl, rfl⟩)
    · exact .answer .done
    · exact .interrupt .done

/-- A task is interrupted while it waits for the lock, or it runs the body. -/
theorem converses_withLock {stop : face.Interrupt → Error} {lock : face.State → Lock}
    {put : Lock → face.State → face.State} {task : Nat} {body : Process face Error First}
    {result : Except Error First}
    (converses : Converses (Process.withLock stop lock put task body) state trace result final) :
    (∃ reason, trace = [.interrupted reason] ∧ result = .error (stop reason)) ∨
      ∃ before after, Converses body before trace result after := by
  obtain ⟨entered, middle, left, right, rfl, waited, rest⟩ := converses_then.mp (converses_modify.mp converses)
  cases waited with
  | grant free done =>
    obtain ⟨rfl, rfl, rfl⟩ := converses_done.mp done
    obtain ⟨first, later, left, right, rfl, ran, ended⟩ := converses_bind.mp (converses_modify.mp rest)
    cases ended with
    | act done =>
      obtain ⟨rfl, rfl, -⟩ := converses_done.mp done
      exact .inr ⟨_, later, by simpa using ran⟩
  | abandon stopped =>
    cases stopped with
    | act done =>
      obtain ⟨rfl, rfl, rfl⟩ := converses_done.mp done
      obtain ⟨rfl, rfl, -⟩ := converses_chain_error.mp rest
      exact .inl ⟨_, rfl, rfl⟩

/-- A task that finds the lock free runs the body. -/
theorem converses_locked {stop : face.Interrupt → Error} {lock : face.State → Lock}
    {put : Lock → face.State → face.State} {task : Nat} {body : Process face Error First}
    {result : Except Error First} {later after : face.State} (free : (lock later).ready task)
    (inside : Converses body (put ((lock later).acquire task) later) trace result after) :
    Converses (Process.withLock stop lock put task body) state trace result (put (lock after).release after) := by
  refine converses_modify.mpr (converses_then.mpr ⟨.ok (), later, [], trace, rfl, .grant free .done, ?_⟩)
  refine converses_modify.mpr (converses_bind.mpr ⟨result, after, trace, [], by simp, inside, ?_⟩)
  exact .act .done

end Processes

section Replay

variable [DecidableEq face.Query]

/-- What happens to a suspended coroutine, and the shared state it finds then. -/
inductive Turn (face : Interface) where
  | answer (reply : Sigma face.Answer) (later : face.State)
  | interrupt (reason : face.Interrupt) (later : face.State)
  | grant (later : face.State)

def Coroutine.replay : Coroutine face Result → List (Turn face) → face.State →
    Option (List (Exchange face) × Result × face.State)
  | .done result, [], state => some ([], result, state)
  | .act move next, turns, state => (next state).replay turns (move state)
  | .tell remark next, turns, state =>
    (next.replay turns state).map fun rest => (.told remark :: rest.1, rest.2)
  | .ask query resume _, .answer reply later :: turns, _ =>
    if same : reply.1 = query then
      ((resume (same ▸ reply.2)).replay turns later).map fun rest =>
        (.asked query :: .answered reply :: rest.1, rest.2)
    else none
  | .ask query _ interrupted, .interrupt reason later :: turns, _ =>
    ((interrupted reason).replay turns later).map fun rest =>
      (.asked query :: .interrupted reason :: rest.1, rest.2)
  | .wait ready resume _, .grant later :: turns, _ =>
    if ready later then resume.replay turns later else none
  | .wait _ _ interrupted, .interrupt reason later :: turns, _ =>
    ((interrupted reason).replay turns later).map fun rest => (.interrupted reason :: rest.1, rest.2)
  | _, _, _ => none

theorem Converses.of_replay {code : Coroutine face Result} {turns : List (Turn face)}
    {state final : face.State} {trace : List (Exchange face)} {result : Result}
    (replayed : code.replay turns state = some (trace, result, final)) :
    Converses code state trace result final := by
  induction code generalizing turns state trace with
  | done result =>
    cases turns with
    | nil =>
      cases replayed
      exact .done
    | cons turn rest => cases replayed
  | act move next ih => exact .act (ih state replayed)
  | tell remark next ih =>
    obtain ⟨⟨past, after⟩, remaining, same⟩ := Option.map_eq_some_iff.mp replayed
    cases same
    exact .tell (ih remaining)
  | ask query resume interrupted answered stopped =>
    match turns with
    | .answer ⟨query', reply⟩ later :: rest =>
      rw [Coroutine.replay] at replayed
      split at replayed
      · rename_i same
        subst same
        obtain ⟨⟨past, after⟩, remaining, same⟩ := Option.map_eq_some_iff.mp replayed
        cases same
        exact .answer (answered _ remaining)
      · cases replayed
    | .interrupt reason later :: rest =>
      obtain ⟨⟨past, after⟩, remaining, same⟩ := Option.map_eq_some_iff.mp replayed
      cases same
      exact .interrupt (stopped _ remaining)
    | [] | .grant _ :: _ => cases replayed
  | wait ready resume interrupted granted stopped =>
    match turns with
    | .grant later :: rest =>
      rw [Coroutine.replay] at replayed
      split at replayed
      · rename_i free
        exact .grant free (granted replayed)
      · cases replayed
    | .interrupt reason later :: rest =>
      obtain ⟨⟨past, after⟩, remaining, same⟩ := Option.map_eq_some_iff.mp replayed
      cases same
      exact .abandon (stopped _ remaining)
    | [] | .answer _ _ :: _ => cases replayed

end Replay

section Vocabulary

variable (queries : face.Query → Prop) (remarks : face.Remark → Prop)

/-- The code asks and tells nothing else than this, whatever happens to it. -/
def Coroutine.Within : Coroutine face Result → Prop
  | .done _ => True
  | .act _ next => ∀ state, (next state).Within
  | .tell remark next => remarks remark ∧ next.Within
  | .ask query resume interrupted =>
    queries query ∧ (∀ answer, (resume answer).Within) ∧ ∀ reason, (interrupted reason).Within
  | .wait _ resume interrupted => resume.Within ∧ ∀ reason, (interrupted reason).Within

/-- The exchange is one of such code. -/
def Exchange.Fits : Exchange face → Prop
  | .told remark => remarks remark
  | .asked query => queries query
  | .answered reply => queries reply.1
  | .interrupted _ => True

variable {queries remarks}

theorem Coroutine.Within.bind {code : Coroutine face First} {next : First → Coroutine face Second}
    (first : code.Within queries remarks) (second : ∀ result, (next result).Within queries remarks) :
    (code.bind next).Within queries remarks := by
  induction code with
  | done result => exact second result
  | act move rest ih => exact fun state => ih state (first state)
  | tell remark rest ih => exact ⟨first.1, ih first.2⟩
  | ask query resume interrupted answered stopped =>
    exact ⟨first.1, fun answer => answered answer (first.2.1 answer),
      fun reason => stopped reason (first.2.2 reason)⟩
  | wait ready resume interrupted granted stopped =>
    exact ⟨granted first.1, fun reason => stopped reason (first.2 reason)⟩

theorem Coroutine.Within.imp {queries' : face.Query → Prop} {remarks' : face.Remark → Prop}
    {code : Coroutine face Result} (within : code.Within queries remarks)
    (asked : ∀ query, queries query → queries' query) (said : ∀ remark, remarks remark → remarks' remark) :
    code.Within queries' remarks' := by
  induction code with
  | done result => trivial
  | act move next ih => exact fun state => ih state (within state)
  | tell remark next ih => exact ⟨said _ within.1, ih within.2⟩
  | ask query resume interrupted answered stopped =>
    exact ⟨asked _ within.1, fun answer => answered answer (within.2.1 answer),
      fun reason => stopped reason (within.2.2 reason)⟩
  | wait ready resume interrupted granted stopped =>
    exact ⟨granted within.1, fun reason => stopped reason (within.2 reason)⟩

/-- Code may do what everything may do. -/
theorem Coroutine.Within.all {code : Coroutine face Result} (asked : ∀ query, queries query)
    (said : ∀ remark, remarks remark) : code.Within queries remarks := by
  induction code with
  | done result => trivial
  | act move next ih => exact ih
  | tell remark next ih => exact ⟨said remark, ih⟩
  | ask query resume interrupted answered stopped => exact ⟨asked query, answered, stopped⟩
  | wait ready resume interrupted granted stopped => exact ⟨granted, stopped⟩

theorem Coroutine.Within.chain {next : First → Process face Error Second}
    (within : ∀ value, Coroutine.Within queries remarks (next value)) (result : Except Error First) :
    Coroutine.Within queries remarks (Process.chain next result) := by
  cases result with
  | ok value => exact within value
  | error error => trivial

theorem Coroutine.Within.then {process : Process face Error First}
    {next : First → Process face Error Second} (first : Coroutine.Within queries remarks process)
    (second : ∀ value, Coroutine.Within queries remarks (next value)) :
    Coroutine.Within queries remarks (process >>= next : Process face Error Second) :=
  first.bind (.chain second)

theorem Coroutine.Within.attempt {process : Process face Error First}
    {handler : Error → Process face Error First} (first : Coroutine.Within queries remarks process)
    (second : ∀ error, Coroutine.Within queries remarks (handler error)) :
    Coroutine.Within queries remarks (Process.attempt process handler) := by
  apply first.bind
  intro result
  cases result with
  | ok value => trivial
  | error error => exact second error

theorem Coroutine.Within.request {stop : face.Interrupt → Error} {query : face.Query}
    (allowed : queries query) : Coroutine.Within queries remarks
      (Process.request stop query : Process face Error (face.Answer query)) :=
  ⟨allowed, fun _ => trivial, fun _ => trivial⟩

theorem Coroutine.Within.get {next : face.State → Process face Error Second}
    (rest : ∀ state, Coroutine.Within queries remarks (next state)) :
    Coroutine.Within queries remarks (Process.get >>= next : Process face Error Second) := rest

theorem Coroutine.Within.modify {move : face.State → face.State} {next : Unit → Process face Error Second}
    (rest : Coroutine.Within queries remarks (next ())) :
    Coroutine.Within queries remarks (Process.modify move >>= next : Process face Error Second) := fun _ => rest

theorem Coroutine.Within.say {remark : face.Remark} {next : Unit → Process face Error Second} (said : remarks remark)
    (rest : Coroutine.Within queries remarks (next ())) :
    Coroutine.Within queries remarks (Process.say remark >>= next : Process face Error Second) := ⟨said, rest⟩

theorem Coroutine.Within.ensure {process : Process face Error First} {cleanup : face.State → face.State}
    (inside : Coroutine.Within queries remarks process) :
    Coroutine.Within queries remarks (Process.ensure process cleanup) := inside.bind fun _ _ => trivial

theorem Coroutine.Within.withLock {stop : face.Interrupt → Error} {lock : face.State → Lock}
    {put : Lock → face.State → face.State} {task : Nat} {body : Process face Error First}
    (within : Coroutine.Within queries remarks body) :
    Coroutine.Within queries remarks (Process.withLock stop lock put task body) := by
  refine fun _ => ⟨fun _ => ?_, fun _ _ => trivial⟩
  exact within.ensure

theorem Converses.fits {code : Coroutine face Result} {state final : face.State}
    {trace : List (Exchange face)} {result : Result}
    (converses : Converses code state trace result final) (within : code.Within queries remarks) :
    ∀ exchange ∈ trace, exchange.Fits queries remarks := by
  induction converses with
  | done => simp
  | act _ ih => exact ih (within _)
  | tell _ ih => exact List.forall_mem_cons.mpr ⟨within.1, ih within.2⟩
  | answer _ ih =>
    exact List.forall_mem_cons.mpr ⟨within.1, List.forall_mem_cons.mpr ⟨within.1, ih (within.2.1 _)⟩⟩
  | interrupt _ ih =>
    exact List.forall_mem_cons.mpr ⟨within.1, List.forall_mem_cons.mpr ⟨trivial, ih (within.2.2 _)⟩⟩
  | grant _ _ ih => exact ih within.1
  | abandon _ ih => exact List.forall_mem_cons.mpr ⟨trivial, ih (within.2 _)⟩

end Vocabulary

/-- What is answered was asked. -/
theorem Converses.asked {code : Coroutine face Result} {state final : face.State} {trace : List (Exchange face)}
    {result : Result} {reply : Sigma face.Answer} (converses : Converses code state trace result final)
    (answered : .answered reply ∈ trace) : .asked reply.1 ∈ trace := by
  induction converses with
  | done => cases answered
  | act _ ih => exact ih answered
  | grant _ _ ih => exact ih answered
  | tell _ ih | abandon _ ih =>
    rcases List.mem_cons.mp answered with impossible | later
    · cases impossible
    · exact List.mem_cons_of_mem _ (ih later)
  | answer _ ih =>
    rcases List.mem_cons.mp answered with impossible | later
    · cases impossible
    rcases List.mem_cons.mp later with same | later
    · cases same
      exact List.mem_cons_self ..
    · exact List.mem_cons_of_mem _ (List.mem_cons_of_mem _ (ih later))
  | interrupt _ ih =>
    rcases List.mem_cons.mp answered with impossible | later
    · cases impossible
    rcases List.mem_cons.mp later with impossible | later
    · cases impossible
    · exact List.mem_cons_of_mem _ (List.mem_cons_of_mem _ (ih later))

section Histories

def Event.exchange? : Event face Operation Result → Option (Exchange face)
  | .told _ remark => some (.told remark)
  | .asked _ query => some (.asked query)
  | .delivered _ reply => some (.answered reply)
  | .interrupted _ reason => some (.interrupted reason)
  | _ => none

/-- The exchanges of a task in a history. -/
def exchanges (task : Nat) (log : List (Event face Operation Result)) : List (Exchange face) :=
  (log.filter fun event => event.task? = some task).filterMap Event.exchange?

/-- What suspended code has already asked. -/
def Coroutine.opening : Coroutine face Result → List (Exchange face)
  | .ask query _ _ => [.asked query]
  | _ => []

/-- Whatever this code does from here continues what that code did in these exchanges. -/
def Continues (whole : Coroutine face Result) (start : face.State) (past : List (Exchange face))
    (code : Coroutine face Result) (now : face.State) : Prop :=
  ∃ before, past = before ++ code.opening ∧ ∀ trace result final,
    Converses code now trace result final → Converses whole start (before ++ trace) result final

@[simp] theorem exchanges_append {task : Nat} {log later : List (Event face Operation Result)} :
    exchanges task (log ++ later) = exchanges task log ++ exchanges task later := by
  simp [exchanges]

theorem exchanges_own {task : Nat} {event : Event face Operation Result}
    (own : event.task? = some task) : exchanges task [event] = event.exchange?.toList := by
  rw [exchanges, List.filter_cons_of_pos (by simpa using own), List.filter_nil, List.filterMap_cons]
  cases event.exchange? <;> rfl

/-- An event of the task adds its exchange. -/
theorem exchanges_emit {task : Nat} {scene : Scene face Operation Result}
    {event : Event face Operation Result} (own : event.task? = some task) :
    exchanges task (scene.emit event).log = exchanges task scene.log ++ event.exchange?.toList := by
  rw [Scene.emit_log, exchanges_append, exchanges_own own]

theorem exchanges_foreign {task : Nat} {log : List (Event face Operation Result)}
    (foreign : ∀ event ∈ log, event.task? ≠ some task) : exchanges task log = [] := by
  have none : (log.filter fun event => event.task? = some task) = [] :=
    List.filter_eq_nil_iff.mpr fun event member => by simpa using foreign event member
  rw [exchanges, none]
  rfl

theorem Coroutine.settle_continues (task : Nat) {whole code : Coroutine face Result}
    {start : face.State} (scene : Scene face Operation Result) (before : List (Exchange face))
    (past : exchanges task scene.log = before)
    (continues : ∀ trace result final, Converses code scene.shared trace result final →
      Converses whole start (before ++ trace) result final) :
    Continues whole start (exchanges task (code.settle task scene).2.log) (code.settle task scene).1
      (code.settle task scene).2.shared := by
  induction code generalizing scene before with
  | done result =>
    refine ⟨before, ?_, continues⟩
    rw [settle, Scene.emit_log, exchanges_append, past, exchanges_own rfl]
    rfl
  | act move next ih =>
    exact ih scene.shared (scene.change move) before past fun trace result final rest =>
      continues trace result final (.act rest)
  | tell remark next ih =>
    apply ih (scene.emit (.told task remark)) (before ++ [.told remark])
    · rw [Scene.emit_log, exchanges_append, past, exchanges_own rfl]
      rfl
    · intro trace result final rest
      simpa using continues (.told remark :: trace) result final (.tell rest)
  | ask query resume interrupted _ _ =>
    refine ⟨before, ?_, continues⟩
    rw [settle, Scene.emit_log, exchanges_append, past, exchanges_own rfl]
    rfl
  | wait ready resume interrupted granted _ =>
    rw [settle]
    split
    · rename_i free
      exact granted scene before past fun trace result final rest => continues trace result final (.grant free rest)
    · exact ⟨before, by simp [opening, past], continues⟩

/-- The exchanges of a task are not those of another. -/
theorem exchanges_advance {machine : Machine face Operation Result} {task other : Nat}
    {event : Event face Operation Result} {code : Coroutine face Result}
    (own : event.task? = some task) (differs : other ≠ task) :
    exchanges other (machine.advance task event code).scene.log = exchanges other machine.scene.log := by
  obtain ⟨events, log, owned⟩ := code.settle_log task (machine.scene.emit event)
  rw [Machine.advance_scene, log, Scene.emit_log, List.append_assoc, exchanges_append,
    exchanges_foreign (((Own.single own).append owned).foreign differs), List.append_nil]

variable {program : Operation → Nat → Coroutine face Result}

/-- A suspended task exchanges nothing. -/
theorem Contract.Awaiting.exchanges {contract : Contract face Operation Result} {task : Nat}
    {since now : Scene face Operation Result} {reply : Option (Sigma face.Answer)}
    (awaiting : contract.Awaiting task since reply now) :
    Async.exchanges task now.log = Async.exchanges task since.log := by
  obtain ⟨before, after, foreign, foreign', whole⟩ := awaiting.log
  rw [whole, exchanges_append, exchanges_append, exchanges_append, exchanges_foreign foreign,
    exchanges_foreign foreign']
  cases reply with
  | none => simp [Async.exchanges]
  | some reply => simp [exchanges_own (show (.answered task reply :
      Event face Operation Result).task? = some task from rfl), Event.exchange?]

/-- Every task of a machine does what its program may do by itself. -/
structure Conversing (program : Operation → Nat → Coroutine face Result)
    (machine : Machine face Operation Result) : Prop where
  fresh : ∀ task, machine.count ≤ task →
    machine.tasks task = none ∧ exchanges task machine.scene.log = []
  held : ∀ task held, machine.tasks task = some held → ∃ operation start now,
    .started task operation ∈ machine.scene.log ∧
      Continues (program operation task) start (exchanges task machine.scene.log) held.code now

theorem Conversing.advance {machine : Machine face Operation Result} {task count : Nat}
    {event : Event face Operation Result} {code : Coroutine face Result} {operation : Operation}
    (start : face.State) (conversing : Conversing program machine) (own : event.task? = some task)
    (more : machine.count ≤ count) (known : task < count)
    (started : .started task operation ∈ (machine.scene.emit event).log)
    (continues : ∀ trace result final, Converses code machine.scene.shared trace result final →
      Converses (program operation task) start
        (exchanges task (machine.scene.emit event).log ++ trace) result final) :
    Conversing program ({ machine with count }.advance task event code) := by
  refine ⟨fun other beyond => ?_, fun other held found => ?_⟩
  · have differs : other ≠ task := by
      rintro rfl
      exact absurd known (Nat.not_lt_of_le beyond)
    obtain ⟨absent, silent⟩ := conversing.fresh other (Nat.le_trans more beyond)
    rw [Machine.advance_tasks, Function.update_of_ne differs, exchanges_advance own differs]
    exact ⟨absent, silent⟩
  · rw [Machine.advance_tasks] at found
    by_cases same : other = task
    · subst same
      rw [Function.update_self] at found
      cases found
      refine ⟨operation, start, _, ?_, Coroutine.settle_continues other _ _ rfl continues⟩
      obtain ⟨events, log, -⟩ := code.settle_log other (machine.scene.emit event)
      rw [Machine.advance_scene, log]
      exact List.mem_append_left _ started
    · rw [Function.update_of_ne same] at found
      obtain ⟨operation, start, now, started, continues⟩ := conversing.held other held found
      obtain ⟨events, log, -⟩ := code.settle_log task (machine.scene.emit event)
      refine ⟨operation, start, now, ?_, ?_⟩
      · rw [Machine.advance_scene, log]
        exact List.mem_append_left _ (List.mem_append_left _ started)
      · rw [exchanges_advance own same]
        exact continues

/-- Events that are no exchange of any task change nothing. -/
theorem Conversing.emit {machine after : Machine face Operation Result}
    (event : Event face Operation Result) (conversing : Conversing program machine)
    (silent : event.exchange? = none) (count : after.count = machine.count)
    (log : after.scene.log = machine.scene.log ++ [event])
    (tasks : ∀ task held, after.tasks task = some held →
      ∃ before, machine.tasks task = some before ∧ before.code = held.code) :
    Conversing program after := by
  have same : ∀ task, exchanges task after.scene.log = exchanges task machine.scene.log := by
    intro task
    have nothing : exchanges task [event] = [] := by
      by_cases own : event.task? = some task
      · rw [exchanges_own own, silent]
        rfl
      · exact exchanges_foreign fun other member => List.mem_singleton.mp member ▸ own
    rw [log, exchanges_append, nothing, List.append_nil]
  refine ⟨fun task beyond => ?_, fun task held found => ?_⟩
  · obtain ⟨absent, nothing⟩ := conversing.fresh task (count ▸ beyond)
    refine ⟨?_, (same task).trans nothing⟩
    cases found : after.tasks task with
    | none => rfl
    | some held =>
      obtain ⟨before, present, -⟩ := tasks task held found
      rw [absent] at present
      cases present
  · obtain ⟨before, present, code⟩ := tasks task held found
    obtain ⟨operation, start, now, started, continues⟩ := conversing.held task before present
    refine ⟨operation, start, now, log ▸ List.mem_append_left _ started, ?_⟩
    rw [same, ← code]
    exact continues

variable {machine after : Machine face Operation Result}

/-- A task that is resumed or interrupted goes on with its code. -/
theorem Conversing.goes {task : Nat} {event : Event face Operation Result}
    {held : Task face Result} {code : Coroutine face Result} (conversing : Conversing program machine)
    (found : machine.tasks task = some held) (own : event.task? = some task)
    (turn : ∀ now trace result final, Converses code machine.scene.shared trace result final →
      Converses held.code now (held.code.opening ++ (event.exchange?.toList ++ trace)) result final) :
    Conversing program (machine.advance task event code) := by
  have known : task < machine.count := by
    apply Nat.lt_of_not_le
    intro beyond
    rw [(conversing.fresh task beyond).1] at found
    cases found
  obtain ⟨operation, start, now, started, before, past, continues⟩ := conversing.held task held found
  refine conversing.advance start own (Nat.le_refl _) known (List.mem_append_left _ started)
    fun trace result final rest => ?_
  rw [Scene.emit_log, exchanges_append, exchanges_own own, past]
  simpa using continues _ result final (turn now trace result final rest)

variable [DecidableEq face.Query] {begin : face.State → Prop}
  {meets : Machine face Operation Result → Step face Operation → Prop}

theorem Conversing.step {label : Step face Operation} (conversing : Conversing program machine)
    (taken : Machine.step program machine label = some after) : Conversing program after := by
  cases label with
  | start operation =>
    cases taken
    refine conversing.advance machine.scene.shared rfl (Nat.le_succ _) (Nat.lt_succ_self _)
      (List.mem_append_right _ (List.mem_singleton_self _))
      fun trace result final rest => ?_
    have fresh := (conversing.fresh machine.count (Nat.le_refl _)).2
    rw [Scene.emit_log, exchanges_append, fresh, exchanges_own rfl]
    exact rest
  | answer task reply =>
    simp only [Machine.step, Machine.answer] at taken
    split at taken
    · rename_i query next stopped found
      split at taken
      · cases taken
        refine conversing.emit (.answered task reply) rfl (by rfl) (by rfl) ?_
        intro other held present
        dsimp only at present
        by_cases same : other = task
        · subst same
          rw [Function.update_self] at present
          cases present
          exact ⟨_, found, rfl⟩
        · rw [Function.update_of_ne same] at present
          exact ⟨held, present, rfl⟩
      · cases taken
    · cases taken
  | resume task =>
    simp only [Machine.step, Machine.resume] at taken
    split at taken
    · rename_i query next stopped reply found
      split at taken
      · rename_i same
        cases taken
        obtain ⟨query', answer⟩ := reply
        subst same
        exact conversing.goes found rfl fun now trace result final rest => .answer rest
      · cases taken
    · rename_i ready next stopped found
      split at taken
      · rename_i free
        cases taken
        exact conversing.goes found rfl fun now trace result final rest => .grant free rest
      · cases taken
    · cases taken
  | interrupt task reason =>
    simp only [Machine.step, Machine.interrupt] at taken
    split at taken
    · rename_i query next stopped answer found
      cases taken
      exact conversing.goes found rfl fun now trace result final rest => .interrupt rest
    · rename_i ready next stopped found
      cases taken
      exact conversing.goes found rfl fun now trace result final rest => .abandon rest
    · cases taken
  | drift drift =>
    cases taken
    refine conversing.emit (.drifted drift) rfl (by rfl) (by rfl) ?_
    exact fun task held present => ⟨held, present, rfl⟩

theorem Run.conversing (run : Run (scheduler program begin) meets machine) :
    Conversing program machine := by
  apply run.invariant
  · rintro machine ⟨shared, -, rfl⟩
    exact ⟨fun task _ => ⟨rfl, rfl⟩, fun task held absent => nomatch absent⟩
  · intro machine label after _ conversing _ taken
    exact conversing.step taken

/-- In every order of the steps of all tasks, one that has ended has had a conversation that
its program allows. -/
theorem Run.converses {task : Nat} {result : Result} {held : Task face Result}
    (run : Run (scheduler program begin) meets machine) (found : machine.tasks task = some held)
    (ended : held.code = .done result) :
    ∃ operation start final, .started task operation ∈ machine.scene.log ∧
      Converses (program operation task) start (exchanges task machine.scene.log) result final := by
  obtain ⟨operation, start, now, started, before, past, continues⟩ :=
    run.conversing.held task held found
  refine ⟨operation, start, now, started, ?_⟩
  rw [past, ended]
  exact continues [] result now (ended ▸ .done)

end Histories

end Async
