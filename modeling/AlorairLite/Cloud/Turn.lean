import AlorairLite.Cloud.Move

/-! Whose turn it is to log in. The methods around the login lock only make moves: what a
task has said and that it is signing in nobody else can change. -/

namespace AlorairLite.Cloud

open Async

/-- A task of this operation that has only made moves since it went on. -/
abbrev Calling (careful : Prop) (loads : List UInt8 → Option Json) :
    Nat → ClientOperation → ClientScene → ClientScene → Prop := (moves careful loads).Going

abbrev clientContract (careful : Prop) (loads : List UInt8 → Option Json) :
    Contract clientFace ClientOperation (Except Problem Json) := (moves careful loads).contract

variable {careful : Prop} {loads : List UInt8 → Option Json} {task : Nat}
  {operation : ClientOperation} {scene after origin now : ClientScene}

theorem wordOf_unsaid {event : ClientEvent} (unsaid : ∀ remark, event ≠ .told task remark) :
    wordOf task event = none := by
  cases event with
  | told teller remark =>
    refine if_neg fun same => ?_
    subst same
    exact unsaid remark rfl
  | _ => rfl

/-- The moves of others add events that are not this task's, and begin and end no attempt of
its own. -/
theorem Move.foreign {actor : Option Nat} (move : Move careful loads actor scene after)
    (other : actor ≠ some task) :
    after.log = scene.log ∨ ∃ event : ClientEvent, after.log = scene.log ++ [event] ∧
      (∀ remark, event ≠ .told task remark) ∧
        (turning event = false ∨ phase scene.log ≠ .signing task) := by
  have differs : ∀ {teller : Nat} {remark : ClientRemark}, actor = some teller → ∀ remark',
      (.told teller remark : ClientEvent) ≠ .told task remark' := by
    rintro teller remark rfl remark' ⟨⟩
    exact other rfl
  cases move with
  | aside | enqueue | abandon | acquire | release | store => exact .inl rfl
  | event silent =>
    refine .inr ⟨_, rfl, fun remark same => ?_, .inl (silent_steady silent)⟩
    subst same
    cases silent
  | start fresh => exact .inr ⟨_, rfl, nofun, .inl rfl⟩
  | tell spoken steady => exact .inr ⟨_, rfl, differs rfl, .inl steady⟩
  | ask sent => exact .inr ⟨_, rfl, nofun, .inl rfl⟩
  | finish concluded => exact .inr ⟨_, rfl, nofun, .inl rfl⟩
  | begin held spoken => exact .inr ⟨_, rfl, differs rfl, .inr (spoken.1 task)⟩
  | @conclude teller _ ending spoken =>
    refine .inr ⟨_, rfl, differs rfl, .inr fun signing => ?_⟩
    rw [spoken.1] at signing
    cases signing
    exact other rfl

/-- The task has said exactly this. -/
def Said (task : Nat) (remarks : List ClientRemark) (scene : ClientScene) : Prop :=
  words task scene.log = remarks

theorem Said.emit {remarks : List ClientRemark} {event : ClientEvent} (said : Said task remarks scene)
    (unsaid : ∀ remark, event ≠ .told task remark) : Said task remarks (scene.emit event) := by
  unfold Said at *
  simpa [wordOf_unsaid unsaid] using said

theorem silent_untold {event : ClientEvent} (silent : event.silent) (remark : ClientRemark) :
    event ≠ .told task remark := by
  rintro rfl
  cases silent

theorem said_lasting (remarks : List ClientRemark) :
    (moves careful loads).Lasting task (Said task remarks) where
  others {actor scene after} other _ said move := by
    rcases Move.foreign move other with same | ⟨event, log, unsaid, -⟩
    · exact (congrArg (words task) same).trans said
    · exact (congrArg (words task) log).trans (said.emit unsaid)
  asked said := said.emit nofun
  silent silent said := said.emit (silent_untold silent)

/-- The attempt of this task is going on. -/
structure Signing (task : Nat) (scene : ClientScene) : Prop where
  turn : phase scene.log = .signing task
  justified : Justified task scene.log

theorem Signing.emit {event : ClientEvent} (signing : Signing task scene)
    (unsaid : ∀ remark, event ≠ .told task remark) (steady : turning event = false) :
    Signing task (scene.emit event) where
  turn := by
    rw [Scene.emit_log, phase_append, Phase.next_steady _ steady]
    exact signing.turn
  justified := by
    apply signing.justified.append
    · simp [captures, wordOf_unsaid unsaid]
    · exact endingOf_steady steady

theorem signing_lasting : (moves careful loads).Lasting task (Signing task) where
  others {actor scene after} other _ signing move := by
    rcases Move.foreign move other with same | ⟨event, log, unsaid, steady⟩
    · exact ⟨same ▸ signing.turn, same ▸ signing.justified⟩
    · have kept := signing.emit unsaid (steady.resolve_right (· signing.turn))
      exact ⟨log ▸ kept.turn, log ▸ kept.justified⟩
  asked signing := signing.emit nofun rfl
  silent silent signing := signing.emit (silent_untold silent) (silent_steady silent)

section Requests

variable {holds : ClientScene → Prop} {library : Library} {account : Account}

theorem Call.wp_check {First Second : Type} {result : Except AlorairError First} {next : First → Call Second}
    {post : Except Problem Second → ClientScene → ClientScene → Prop}
    (failed : ∀ error, post (.error (.error error)) origin now)
    (passed : ∀ value, result = .ok value → (clientContract careful loads).wp task post (next value) origin now) :
    (clientContract careful loads).wp task post (Call.check result >>= next : Call Second) origin now := by
  cases result with
  | error error => exact failed error
  | ok value => exact passed value rfl

/-- The reply to a request was delivered just now, and received as this data. -/
def Received (careful : Prop) (loads : List UInt8 → Option Json) (task : Nat) (endpoint : Endpoint)
    (token : Option String) (payload : Option Payload) (data : Json) (now : ClientScene) : Prop :=
  ∃ (before : ClientScene) (reply : HttpReply),
    now = before.emit (.delivered task ⟨.http endpoint token payload, reply⟩) ∧
      received loads endpoint.command reply = .ok data ∧
        (moves careful loads).delivers before task ⟨.http endpoint token payload, reply⟩

theorem Received.answered {endpoint : Endpoint} {token : Option String} {payload : Option Payload}
    {data : Json} (got : Received careful loads task endpoint token payload data now) :
    Answered loads now.log task endpoint data := by
  obtain ⟨before, reply, rfl, read, -⟩ := got
  exact ⟨token, payload, reply, List.mem_append_right _ (List.mem_singleton_self _), read⟩

theorem ok_of_mapError {Error Other First : Type} {first : Except Error First} {wrap : Error → Other}
    {value : First} (passed : first.mapError wrap = .ok value) : first = .ok value := by
  cases first with
  | error error => cases passed
  | ok value =>
    cases passed
    rfl

/-- A request keeps what is known, and what it returns was received. -/
theorem Call.request_conduct {verb : Verb} {endpoint : Endpoint} {token : Option String}
    {payload : Option Payload} (lasting : (moves careful library.loads).Lasting task holds)
    (going : Calling careful library.loads task operation origin now) (known : holds now)
    (sent : endpoint.verb = verb → Sent careful now.log task (.http endpoint token payload)) :
    (clientContract careful library.loads).wp task (fun result origin now =>
        Calling careful library.loads task operation origin now ∧ holds now ∧
          ∀ data, result = .ok data → Received careful library.loads task endpoint token payload data now)
      (Call.request library verb endpoint token payload) origin now := by
  unfold Call.request
  split
  · exact ⟨going, known, nofun⟩
  rename_i allowed
  have fits : endpoint.verb = verb := by
    by_contra other
    exact allowed (.inr other)
  split
  · exact ⟨going, known, nofun⟩
  apply Contract.wp_seq (lasting.wp_request going (.ask (sent fits)) known)
  · exact fun problem origin now asked => ⟨asked.1, asked.2.1, nofun⟩
  · intro reply origin now asked
    obtain ⟨going, known, answered⟩ := asked
    obtain ⟨before, rfl, allowed⟩ := answered reply rfl
    split
    · exact ⟨going, known, nofun⟩
    · refine ⟨going, known, fun data returned => ⟨before, reply, rfl, ?_, allowed⟩⟩
      exact ok_of_mapError (ok_of_mapError returned)

/-- The requests of an attempt, while it is going on. -/
theorem Call.logIn_conduct (going : Calling careful library.loads task operation origin now)
    (signing : Signing task now) :
    (clientContract careful library.loads).wp task (fun _ origin now =>
        Calling careful library.loads task operation origin now ∧ Signing task now)
      (Call.logIn library account) origin now := by
  have request : ∀ {verb endpoint token payload origin now}, endpoint.command = false →
      Calling careful library.loads task operation origin now → Signing task now →
      (clientContract careful library.loads).wp task (fun _ origin now =>
        Calling careful library.loads task operation origin now ∧ Signing task now)
        (Call.request library verb endpoint token payload) origin now := by
    intro verb endpoint token payload origin now plain going signing
    apply Contract.wp_mono
    · apply Call.request_conduct signing_lasting going signing
      intro _
      rw [Sent, plain]
      exact .inl signing.turn
    · exact fun _ _ _ asked => ⟨asked.1, asked.2.1⟩
  have encrypts : Sent careful now.log task .encrypt := signing.turn
  apply Contract.wp_seq (signing_lasting.wp_request going (.ask encrypts) signing)
  · exact fun _ _ _ asked => ⟨asked.1, asked.2.1⟩
  intro password origin now asked
  cases password with
  | none => exact ⟨asked.1, asked.2.1⟩
  | some password =>
    apply Contract.wp_seq (request rfl asked.1 asked.2.1) fun _ _ _ held => held
    intro data origin now held
    apply Call.wp_check fun _ => held
    intro token _
    apply Contract.wp_seq (request rfl held.1 held.2) fun _ _ _ held => held
    intro user origin now held
    apply Call.wp_check fun _ => held
    exact fun owner _ => held

end Requests

/-- What the task said last is not that it was refused. -/
theorem Raises.of_last {Result : Type} {log : ClientLog} {remark : ClientRemark}
    {result : Except Problem Result} (last : (words task log).getLast? = some remark)
    (other : ∀ kind message, remark ≠ .refused kind message) : Raises task log result := by
  intro kind message refused
  rw [last] at refused
  exact absurd (Option.some.inj refused) (other kind message)

theorem Raises.rethrow {First Second : Type} {log : ClientLog} {problem : Problem}
    (raises : Raises task log (.error problem : Except Problem First)) :
    Raises task log (.error problem : Except Problem Second) := by
  intro kind message refused
  obtain ⟨error, same, facts⟩ := raises kind message refused
  cases same
  exact ⟨error, rfl, facts⟩

/-- How a task leaves its turn: it still holds the lock. -/
structure Left (careful : Prop) (loads : List UInt8 → Option Json) (task : Nat)
    (operation : ClientOperation) {Result : Type} (result : Except Problem Result)
    (origin now : ClientScene) : Prop where
  going : Calling careful loads task operation origin now
  held : now.shared.loginLock.holder = some task
  calm : phase now.log ≠ .signing task
  leaves : Leaves now.log result
  raises : Raises task now.log result

section Turns

variable {library : Library} {account : Account}

theorem last_told (scene : ClientScene) (remark : ClientRemark) :
    (words task (scene.emit (.told task remark)).log).getLast? = some remark := by
  simp [wordOf]

/-- An attempt ends. -/
theorem Signing.finish {Result : Type} {ending : Ending} {result : Except Problem Result}
    (signing : Signing task now) (going : Calling careful loads task operation origin now)
    (leaves : ∀ log, phase log = .closed ending → Leaves log result) :
    Left careful loads task operation result origin
      ((now.change (·.conclude ending)).emit (.told task (.finished ending))) := by
  have spoken : Spoken loads now.log task (.finished ending) := ⟨signing.turn, signing.justified⟩
  have ended : phase ((now.change (·.conclude ending)).emit (.told task (.finished ending))).log =
      .closed ending := phase_append _ _
  refine ⟨going.change (.conclude spoken), ?_, ?_, leaves _ ended, ?_⟩
  · have same : (now.shared.conclude ending).loginLock = now.shared.loginLock := by
      cases ending <;> rfl
    exact (congrArg Lock.holder same).trans (going.current.held task signing.turn)
  · rw [ended]
    exact nofun
  · exact .of_last (last_told _ _) (by simp)

theorem Call.authenticate_conduct (going : Calling careful library.loads task operation origin now)
    (held : now.shared.loginLock.holder = some task) (spoken : Spoken library.loads now.log task .began) :
    (clientContract careful library.loads).wp task (Left careful library.loads task operation)
      (Call.authenticate library account) origin now := by
  have signing : Signing task ((now.change Client.reset).emit (.told task .began)) := by
    refine ⟨phase_append _ _, spoken.2.append ?_ rfl⟩
    simp [captures, wordOf, ClientRemark.generation?]
  refine Contract.wp_modify.mpr (Contract.wp_say.mpr (Contract.wp_attempt.mpr ?_))
  apply Contract.wp_seq (Call.logIn_conduct (going.change (.begin held spoken)) signing)
  · intro problem origin now left
    obtain ⟨going, signing⟩ := left
    cases problem with
    | error error => exact signing.finish going fun log last => last
    | interrupted reason => exact signing.finish going fun _ _ => trivial
    | recursion => exact signing.finish going fun _ _ => trivial
  · intro session origin now left
    obtain ⟨going, signing⟩ := left
    exact signing.finish going fun log last => ⟨session.1, session.2, last⟩

/-- A task may begin an attempt if none ended since it captured its generation, or if the
session is as a cancelled attempt leaves it. -/
theorem Orderly.justified (orderly : Orderly careful loads scene) {generation : Nat}
    (mine : captured task scene.log = some generation)
    (idle : ∀ other, phase scene.log ≠ .signing other)
    (cause : generation = scene.shared.generation ∨
      scene.shared.token = none ∧ scene.shared.failure = none) : Justified task scene.log := by
  obtain ⟨before, between, log, last⟩ := captured_split mine
  refine ⟨generation, before, between, log, last, ?_⟩
  rcases cause with current | ⟨token, failure⟩
  · have then' : generation = (endings before).length := orderly.history _ _ _ log
    have now' := orderly.generation
    rw [← current, log, endings_append, endings_cons] at now'
    left
    apply List.eq_nil_of_length_eq_zero
    simp only [endingOf, Option.toList_none, List.nil_append, List.length_append] at now'
    omega
  · have session := orderly.session
    cases turn : phase scene.log with
    | idle =>
      have none := (endings_of_phase scene.log).1 turn
      rw [log, endings_append, endings_cons] at none
      exact .inl (List.append_eq_nil_iff.mp (List.append_eq_nil_iff.mp none).2).2
    | signing other => exact absurd turn (idle other)
    | closed ending =>
      right
      rw [(endings_of_phase scene.log).2 ending turn]
      rw [turn] at session
      cases ending with
      | succeeded token' owner =>
        have present := congrArg Session.token session
        rw [Client.session, token] at present
        cases present
      | failed kind message =>
        have present := congrArg Session.failure session
        rw [Client.session, failure] at present
        cases present
      | cancelled => rfl

/-- A stored failure is that of the most recent attempt. -/
theorem Orderly.failed (orderly : Orderly careful loads scene) {kind : ErrorClass} {message : String}
    (stored : scene.shared.failure = some (kind, message)) :
    phase scene.log = .closed (.failed kind message) :=
  Phase.failed ((congrArg Session.failure orderly.session).symm.trans stored)

/-- A token is that of the most recent attempt. -/
theorem Orderly.succeeded (orderly : Orderly careful loads scene) {token : String}
    (stored : scene.shared.token = some token) :
    ∃ owner, phase scene.log = .closed (.succeeded token owner) :=
  Phase.succeeded ((congrArg Session.token orderly.session).symm.trans stored)

theorem Call.takeTurn_conduct {generation : Nat}
    (going : Calling careful library.loads task operation origin now)
    (held : now.shared.loginLock.holder = some task) (idle : ∀ other, phase now.log ≠ .signing other)
    (mine : captured task now.log = some generation)
    (cause : generation = now.shared.generation ∨ now.shared.token = none) :
    (clientContract careful library.loads).wp task (Left careful library.loads task operation)
      (Call.takeTurn library account generation) origin now := by
  refine Contract.wp_get.mpr ?_
  split
  · rename_i kind message found
    have stored : now.shared.failure = some (kind, message) := by
      split at found
      · exact found
      · cases found
    have spoken : Spoken library.loads now.log task (.refused kind message) := going.current.failed stored
    have ended : phase (now.emit (.told task (.refused kind message))).log = .closed (.failed kind message) :=
      (phase_append _ _).trans spoken
    refine ⟨going.change (.tell spoken rfl), held, ?_, ended, ?_⟩
    · rw [ended]
      exact nofun
    · intro kind' message' last
      rw [last_told] at last
      cases last
      exact ⟨_, rfl, rfl, rfl⟩
  · rename_i free
    apply Call.authenticate_conduct going held
    refine ⟨idle, going.current.justified mine idle ?_⟩
    by_cases current : generation = now.shared.generation
    · exact .inl current
    · rw [if_pos current] at free
      exact .inr ⟨cause.resolve_left current, free⟩

/-- A task goes on with the token that is there. -/
theorem joined_left {token : String} (going : Calling careful loads task operation origin now)
    (held : now.shared.loginLock.holder = some task) (stored : now.shared.token = some token) :
    Left careful loads task operation (.ok () : Except Problem Unit) origin
      (now.emit (.told task (.joined token))) := by
  obtain ⟨owner, spoken⟩ := going.current.succeeded stored
  have ended : phase (now.emit (.told task (.joined token))).log = .closed (.succeeded token owner) :=
    (phase_append _ _).trans spoken
  refine ⟨going.change (.tell ⟨owner, spoken⟩ rfl), held, ?_, ⟨token, owner, ended⟩, ?_⟩
  · rw [ended]
    exact nofun
  · exact .of_last (last_told _ _) (by simp)

/-- How `async_login` and `_refresh` leave. -/
structure Turned (careful : Prop) (loads : List UInt8 → Option Json) (task : Nat)
    (operation : ClientOperation) {Result : Type} (result : Except Problem Result)
    (origin now : ClientScene) : Prop where
  going : Calling careful loads task operation origin now
  leaves : Leaves now.log result
  raises : Raises task now.log result

/-- A task waits for its turn with a generation it has captured. -/
theorem Call.withLoginLock_conduct {generation : Nat} {body : Call Unit}
    (going : Calling careful loads task operation origin now)
    (last : (words task now.log).getLast? = some (.captured generation))
    (inside : ∀ {origin now}, Calling careful loads task operation origin now →
      now.shared.loginLock.holder = some task → (∀ other, phase now.log ≠ .signing other) →
      captured task now.log = some generation →
        (clientContract careful loads).wp task (Left careful loads task operation) body origin now) :
    (clientContract careful loads).wp task (Turned careful loads task operation)
      (Call.withLoginLock task body) origin now := by
  have lasting : (moves careful loads).Lasting task (Said task (words task now.log)) := said_lasting _
  apply Practice.wp_withLock (Said task (words task now.log))
    (fun scene => Said task (words task now.log) scene ∧ ∀ other, phase scene.log ≠ .signing other)
    going (fun _ _ => rfl) (fun _ => .enqueue) (fun _ ready => .acquire ready)
  · exact Eq.refl (words task now.log)
  · exact fun sound said awaiting => lasting.path awaiting.rely sound said
  · exact fun said => lasting.silent rfl said
  · intro scene orderly said ready
    refine ⟨said, fun other signing => ?_⟩
    simp only [Lock.ready, Bool.and_eq_true, decide_eq_true_eq] at ready
    have held := orderly.held other signing
    rw [ready.1] at held
    cases held
  · intro origin later known going held
    apply inside going held known.2
    have said : words task later.log = words task now.log := known.1
    unfold captured captures
    rw [said]
    obtain ⟨earlier, split⟩ := List.getLast?_eq_some_iff.mp last
    simp [split, ClientRemark.generation?]
  · exact fun result origin now left => ⟨left.going.change (.release left.held left.calm), left.leaves, left.raises⟩
  · intro reason later said going _
    have kept : (words task ((later.emit (.interrupted task reason)).log)).getLast? =
        some (.captured generation) := (congrArg List.getLast? (lasting.silent rfl said)).trans last
    exact ⟨going.change .abandon, trivial, .of_last kept (by simp)⟩

/-- `async_login`. -/
theorem Call.login_conduct (going : Calling careful library.loads task operation origin now) :
    (clientContract careful library.loads).wp task (Turned careful library.loads task operation)
      (Call.login library account task) origin now := by
  refine Contract.wp_get.mpr (Contract.wp_say.mpr ?_)
  have spoken : Spoken library.loads now.log task (.captured now.shared.generation) :=
    going.current.generation
  apply Call.withLoginLock_conduct (going.change (.tell spoken rfl)) (last_told _ _)
  intro origin now going held idle mine
  refine Contract.wp_get.mpr ?_
  split
  · rename_i token stored
    exact joined_left going held stored
  · rename_i absent
    exact Call.takeTurn_conduct going held idle mine (.inr absent)

/-- `_refresh`. -/
theorem Call.refresh_conduct {rejected : Option String} {generation : Nat}
    (going : Calling careful library.loads task operation origin now)
    (last : (words task now.log).getLast? = some (.captured generation)) :
    (clientContract careful library.loads).wp task (Turned careful library.loads task operation)
      (Call.refresh library account task rejected generation) origin now := by
  apply Call.withLoginLock_conduct going last
  intro origin now going held idle mine
  refine Contract.wp_get.mpr ?_
  split
  · rename_i token found
    have stored : now.shared.token = some token := by
      split at found
      · exact found
      · cases found
    exact joined_left going held stored
  · rename_i absent
    apply Call.takeTurn_conduct going held idle mine
    split at absent
    · exact .inr absent
    · rename_i current
      exact .inl (not_not.mp (not_or.mp current).2)

theorem Endpoint.get_plain {endpoint : Endpoint} (reads : endpoint.verb = .get) :
    endpoint.command = false ∧ endpoint ≠ .login := by
  simp only [Endpoint.verb] at reads
  split at reads
  · cases reads
  · simp_all

/-- After a good turn the token may be sent. -/
theorem Orderly.read_sent (orderly : Orderly careful loads scene) {endpoint : Endpoint}
    {payload : Option Payload} (signed : ∃ token owner, phase scene.log = .closed (.succeeded token owner))
    (reads : endpoint.verb = .get) :
    Sent careful scene.log task (.http endpoint scene.shared.token payload) := by
  obtain ⟨token, owner, ended⟩ := signed
  obtain ⟨plain, other⟩ := Endpoint.get_plain reads
  have present := congrArg Session.token orderly.session
  rw [Sent, plain]
  refine .inr ⟨other, ?_, present.symm⟩
  rw [ended] at present
  exact Option.isSome_iff_exists.mpr ⟨token, present⟩

/-- How a read leaves. -/
structure HasRead (careful : Prop) (loads : List UInt8 → Option Json) (task : Nat)
    (operation : ClientOperation) (endpoint : Endpoint) (result : Except Problem Json)
    (origin now : ClientScene) : Prop where
  going : Calling careful loads task operation origin now
  raises : Raises task now.log result
  answered : ∀ data, result = .ok data → Answered loads now.log task endpoint data

/-- `_read`. -/
theorem Call.read_conduct {endpoint : Endpoint} {payload : Option Payload}
    (going : Calling careful library.loads task operation origin now) :
    (clientContract careful library.loads).wp task (HasRead careful library.loads task operation endpoint)
      (Call.read library account task endpoint payload) origin now := by
  apply Contract.wp_seq (Call.login_conduct going)
  · exact fun problem origin now turned => ⟨turned.going, turned.raises.rethrow, nofun⟩
  intro _ origin now turned
  refine Contract.wp_get.mpr (Contract.wp_say.mpr (Contract.wp_attempt.mpr ?_))
  have spoken : Spoken library.loads now.log task (.captured now.shared.generation) :=
    turned.going.current.generation
  have going := turned.going.change (.tell spoken rfl)
  have signed : ∃ token owner, phase (now.emit (.told task (.captured now.shared.generation))).log =
      .closed (.succeeded token owner) := by
    obtain ⟨token, owner, ended⟩ := turned.leaves
    exact ⟨token, owner, (phase_append _ _).trans ended⟩
  apply Contract.wp_mono (Call.request_conduct (said_lasting _) going rfl (going.current.read_sent signed))
  intro result origin later left
  obtain ⟨going, said, got⟩ := left
  have last : (words task later.log).getLast? = some (.captured now.shared.generation) :=
    (congrArg List.getLast? said).trans (last_told _ _)
  cases result with
  | ok data => exact ⟨going, .of_last last (by simp), fun data returned => (got data returned).answered⟩
  | error problem =>
    cases problem with
    | interrupted reason => exact ⟨going, .of_last last (by simp), nofun⟩
    | recursion => exact ⟨going, .of_last last (by simp), nofun⟩
    | error error =>
      refine Contract.wp_recover_error.mpr ?_
      dsimp only
      split
      · apply Contract.wp_seq (Call.refresh_conduct going last)
        · exact fun problem origin now turned => ⟨turned.going, turned.raises.rethrow, nofun⟩
        intro _ origin now turned
        refine Contract.wp_get.mpr ?_
        apply Contract.wp_mono (Call.request_conduct (said_lasting _) turned.going rfl
          (turned.going.current.read_sent turned.leaves))
        intro result origin later left
        obtain ⟨going, said, got⟩ := left
        refine ⟨going, ?_, fun data returned => (got data returned).answered⟩
        intro kind message refused
        have said : words task later.log = words task now.log := said
        rw [said] at refused
        obtain ⟨error, impossible, -⟩ := turned.raises kind message refused
        cases impossible
      · exact ⟨going, .of_last last (by simp), nofun⟩

end Turns

end AlorairLite.Cloud
