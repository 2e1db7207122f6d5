import AlorairLite.Cloud.Endurance
import AlorairLite.Cloud.Turn

/-! Status calls recover from a token that is refused: each method on their way returns. -/

namespace AlorairLite.Cloud

open Async

variable {mac : String} {home : Household mac} {library : Library} {account : Account} {task : Nat}
  {operation : ClientOperation} {scene origin now : ClientScene} {First Second : Type}

/-- A status call that has only made strides since it went on. -/
abbrev Striding (home : Household mac) (library : Library) :
    Nat → ClientOperation → ClientScene → ClientScene → Prop := (strides home library).Going

abbrev statusContract (home : Household mac) (library : Library) :
    Contract clientFace ClientOperation (Except Problem Json) := (strides home library).contract

/-- The latest attempt is over, and this is its token. -/
structure Household.Signed (home : Household mac) (library : Library) (token : String) (log : ClientLog) : Prop where
  closed : phase log = .closed (.succeeded token home.owner)
  usable : usableToken token
  issued : Issued library log token
  renewed : 2 ≤ (endings log).length → Renewed library log token

theorem Household.Signed.emit {token : String} {event : ClientEvent} (signed : home.Signed library token scene.log)
    (steady : turning event = false) : home.Signed library token (scene.emit event).log where
  closed := by
    rw [Scene.emit_log, phase_append, Phase.next_steady _ steady]
    exact signed.closed
  usable := signed.usable
  issued := signed.issued.mono (Contract.grows_emit _ _)
  renewed several := by
    apply (signed.renewed _).mono (Contract.grows_emit _ _)
    simpa [endingOf_steady steady] using several

section Sessions

theorem Hale.signed (hale : Hale home library scene) {ending : Ending} (closed : phase scene.log = .closed ending) :
    ∃ token, home.Signed library token scene.log := by
  obtain ⟨before, task, between, split, count⟩ := closed_split closed
  obtain ⟨token, rfl, usable, issued, renewed⟩ := hale.history before _ between split
  have grown : before <+: scene.log := ⟨_, split.symm⟩
  refine ⟨token, closed, usable, issued.mono grown, fun several => ?_⟩
  rcases renewed with first | renewed
  · rw [first] at count
    rw [count] at several
    exact absurd several (by decide)
  · exact renewed.mono grown

theorem Hale.token {token : String} (hale : Hale home library scene) (signed : home.Signed library token scene.log) :
    scene.shared.token = some token := by
  have session := congrArg Session.token hale.session
  rwa [signed.closed] at session

theorem Hale.failure (hale : Hale home library scene) : scene.shared.failure = none := by
  have session := congrArg Session.failure hale.session
  cases turn : phase scene.log with
  | closed ending =>
    obtain ⟨token, signed⟩ := hale.signed turn
    rwa [signed.closed] at session
  | _ => rwa [turn] at session

theorem Hale.owner (hale : Hale home library scene) (present : scene.shared.ownerId.isSome) :
    scene.shared.ownerId = some home.owner := by
  have session := congrArg Session.ownerId hale.session
  cases turn : phase scene.log with
  | closed ending =>
    obtain ⟨token, signed⟩ := hale.signed turn
    rwa [signed.closed] at session
  | _ =>
    have absent : scene.shared.ownerId = none := by rwa [turn] at session
    rw [absent] at present
    cases present

/-- Between two attempts there is a token, or there was no attempt. -/
theorem Hale.settled (hale : Hale home library scene) (calm : ∀ other, phase scene.log ≠ .signing other) :
    endings scene.log = [] ∧ scene.shared.token = none ∨ ∃ token, home.Signed library token scene.log := by
  cases turn : phase scene.log with
  | idle =>
    have session := congrArg Session.token hale.session
    rw [turn] at session
    exact .inl ⟨(endings_of_phase _).1 turn, session⟩
  | signing other => exact absurd turn (calm other)
  | closed ending => exact .inr (hale.signed turn)

end Sessions

section Rules

variable {post : Except Problem Second → ClientScene → ClientScene → Prop}

/-- A method that returns, and what is known then. -/
structure Returned (home : Household mac) (library : Library) (task : Nat) (operation : ClientOperation)
    (known : First → ClientScene → Prop) (result : Except Problem First) (origin now : ClientScene) : Prop where
  going : Striding home library task operation origin now
  returns : ∃ value, result = .ok value ∧ known value now

theorem Returned.ok {known : First → ClientScene → Prop} {value : First}
    (going : Striding home library task operation origin now) (holds : known value now) :
    Returned home library task operation known (.ok value) origin now := ⟨going, value, rfl, holds⟩

/-- What follows a method that returns. No event is lost meanwhile. -/
theorem Returned.seq {known : First → ClientScene → Prop} {process : Call First} {next : First → Call Second}
    (first : (statusContract home library).wp task (Returned home library task operation known) process origin now)
    (rest : ∀ value origin later, now.log <+: later.log → Striding home library task operation origin later →
      known value later → (statusContract home library).wp task post (next value) origin later) :
    (statusContract home library).wp task post (process >>= next : Call Second) origin now := by
  apply Contract.wp_seq (Contract.wp_extends List.prefix_rfl first)
  · rintro problem origin later ⟨⟨-, value, impossible, -⟩, -⟩
    cases impossible
  · rintro value origin later ⟨⟨going, returned, same, holds⟩, grown⟩
    cases same
    exact rest value origin later grown going holds

theorem wp_checked {result : Except AlorairError First} {value : First} {next : First → Call Second}
    (valid : result = .ok value) (rest : (statusContract home library).wp task post (next value) origin now) :
    (statusContract home library).wp task post (Call.check result >>= next : Call Second) origin now := by
  subst valid
  exact rest

end Rules

section Requests

variable {verb : Verb} {endpoint : Endpoint} {token : Option String} {payload : Option Payload} {reply : HttpReply}

/-- The reply to what was asked since this history. -/
structure Heard (home : Household mac) (library : Library) (task : Nat) (since : ClientLog)
    (reply : Sigma ClientQuery.Answer) (log : ClientLog) : Prop where
  place : ∃ past, since <+: past ∧ past ++ [.answered task reply] <+: log ∧ home.Replies library past reply

theorem Household.Arrived.heard {since log : ClientLog} {query : ClientQuery} {reply : Sigma ClientQuery.Answer}
    (arrived : home.Arrived library log task reply) (asked : since ++ [.asked task query] <+: log) :
    Heard home library task since reply log := by
  obtain ⟨past, future, split, last, replies⟩ := arrived
  obtain ⟨events, whole⟩ := asked
  refine ⟨past, ?_, ⟨future, by rw [split]; simp⟩, replies⟩
  have regrouped : log = since ++ .asked task query :: events := by rw [← whole]; simp
  rcases split_cases regrouped split with ⟨-, impossible⟩ | ⟨between, rfl⟩ | ⟨between, rfl⟩
  · cases impossible
  · exact ⟨_, rfl⟩
  · refine absurd ?_ (last query)
    rw [split, List.append_assoc] at regrouped
    have rest := List.append_cancel_left regrouped
    rw [List.cons_append, List.cons.injEq] at rest
    rw [rest.2]
    simp

theorem Heard.mono {since log later : ClientLog} {reply : Sigma ClientQuery.Answer}
    (heard : Heard home library task since reply log) (grown : log <+: later) :
    Heard home library task since reply later := by
  obtain ⟨past, before, there, replies⟩ := heard.place
  exact ⟨past, before, there.trans grown, replies⟩

/-- The reply to a login gives a token, a new one if another was refused before. -/
theorem Heard.gives {since log : ClientLog} {reply : Sigma ClientQuery.Answer} {token : String}
    (heard : Heard home library task since reply log) (gave : issued library reply = some token) :
    Issued library log token ∧ (TokenRefused library since → Renewed library log token) := by
  obtain ⟨past, before, ⟨after, there⟩, -⟩ := heard.place
  have whole : log = past ++ .answered task reply :: after := by rw [← there]; simp
  refine ⟨⟨task, reply, by rw [whole]; simp, gave⟩, fun refused => ?_⟩
  exact ⟨past, task, reply, after, whole, gave, refused.mono before⟩

/-- What a question brings: what is known stays known, and there is a reply. -/
structure Told (home : Household mac) (library : Library) (task : Nat) (operation : ClientOperation)
    (holds : ClientScene → Prop) (since : ClientLog) (query : ClientQuery) (result : Except Problem query.Answer)
    (origin now : ClientScene) : Prop where
  going : Striding home library task operation origin now
  holds : holds now
  replied : ∃ reply, result = .ok reply ∧ Heard home library task since ⟨query, reply⟩ now.log ∧
    home.Owns library now.shared ⟨query, reply⟩

theorem Call.ask_told {holds : ClientScene → Prop} {query : ClientQuery}
    (lasting : (strides home library).Lasting task holds) (going : Striding home library task operation origin now)
    (known : holds now) (mends : home.Mends library now.log (.asked task query)) :
    (statusContract home library).wp task (Told home library task operation holds now.log query)
      (Call.ask query) origin now := by
  have asking := going.change (.say rfl rfl mends)
  apply Practice.wp_request asking
  · intro reply later path resumed delivered
    obtain ⟨arrived, owns⟩ := delivered
    obtain ⟨events, grown⟩ := path.grows
    have kept : holds (later.emit (.delivered task ⟨query, reply⟩)) :=
      lasting.silent rfl (lasting.path path asking.current (lasting.asked known))
    have heard := arrived.heard ⟨events, grown.symm⟩
    exact ⟨resumed, kept, reply, rfl, heard.mono (Contract.grows_emit _ _), owns⟩
  · exact fun reason later _ _ impossible => impossible.elim

/-- What a request brings: the data if the reply accepts it, or an error if it refuses. -/
structure Brought (home : Household mac) (library : Library) (task : Nat) (operation : ClientOperation)
    (holds : ClientScene → Prop) (since : ClientLog) (endpoint : Endpoint) (token : Option String)
    (payload : Option Payload) (result : Except Problem Json) (origin now : ClientScene) : Prop where
  going : Striding home library task operation origin now
  holds : holds now
  brings : ∃ reply : HttpReply, Heard home library task since ⟨.http endpoint token payload, reply⟩ now.log ∧
    home.Owns library now.shared ⟨.http endpoint token payload, reply⟩ ∧
      (∀ data, Accepts library reply data → result = .ok data) ∧
        (Refuses library reply → ∃ error, result = .error (.error error) ∧ error.kind = .authentication)

theorem Call.request_brings {holds : ClientScene → Prop} (lasting : (strides home library).Lasting task holds)
    (going : Striding home library task operation origin now) (known : holds now)
    (mends : home.Mends library now.log (.asked task (.http endpoint token payload)))
    (fits : endpoint.verb = verb) (allowed : endpoint.allowed) (plain : endpoint.command = false)
    (usable : token.all usableToken) :
    (statusContract home library).wp task
      (Brought home library task operation holds now.log endpoint token payload)
      (Call.request library verb endpoint token payload) origin now := by
  have sent : token.any (!usableToken ·) = false := by
    cases token with
    | none => rfl
    | some text => simpa using usable
  unfold Call.request
  rw [if_neg (by simp [allowed, fits]), if_neg (by simp [sent])]
  apply Contract.wp_seq (Call.ask_told lasting going known mends)
  · rintro problem origin later ⟨-, -, reply, impossible, -⟩
    cases impossible
  rintro reply origin later ⟨going, holds, given, same, heard, owns⟩
  cases same
  rw [plain]
  split
  · rename_i deep
    refine ⟨going, holds, reply, heard, owns, fun data accepts => ?_, fun refuses => ?_⟩
    · exact absurd deep (by simp [accepts.received.1])
    · exact absurd deep (by simp [refuses.received.1])
  · refine ⟨going, holds, reply, heard, owns, fun data accepts => ?_, fun refuses => ?_⟩
    · rw [accepts.received.2]
      rfl
    · obtain ⟨-, error, rejected, kind⟩ := refuses.received
      rw [rejected]
      exact ⟨_, rfl, kind⟩

/-- A request whose reply can only be accepted. -/
theorem Call.request_returns {holds : ClientScene → Prop} {known : Json → ClientScene → Prop}
    (lasting : (strides home library).Lasting task holds) (going : Striding home library task operation origin now)
    (start : holds now) (mends : home.Mends library now.log (.asked task (.http endpoint token payload)))
    (fits : endpoint.verb = verb) (allowed : endpoint.allowed) (plain : endpoint.command = false)
    (usable : token.all usableToken)
    (accepted : ∀ later, ∀ reply : HttpReply, holds later →
      Heard home library task now.log ⟨.http endpoint token payload, reply⟩ later.log →
        ∃ data, Accepts library reply data ∧ known data later) :
    (statusContract home library).wp task (Returned home library task operation known)
      (Call.request library verb endpoint token payload) origin now := by
  apply Contract.wp_mono (Call.request_brings lasting going start mends fits allowed plain usable)
  rintro result origin later ⟨going, holds, reply, heard, -, returned, -⟩
  obtain ⟨data, accepts, known⟩ := accepted later reply holds heard
  rw [returned data accepts]
  exact .ok going known

end Requests

section Attempts

/-- The attempt of this task goes on, after so many others. -/
structure Attempting (task count : Nat) (scene : ClientScene) : Prop where
  turn : phase scene.log = .signing task
  count : (endings scene.log).length = count

theorem Attempting.emit {count : Nat} {event : ClientEvent} (attempting : Attempting task count scene)
    (steady : turning event = false) : Attempting task count (scene.emit event) where
  turn := by
    rw [Scene.emit_log, phase_append, Phase.next_steady _ steady]
    exact attempting.turn
  count := by simp [endingOf_steady steady, attempting.count]

theorem attempting_lasting {count : Nat} : (strides home library).Lasting task (Attempting task count) where
  others {actor scene after} other _ attempting stride := by
    cases stride with
    | aside | lock | store => exact ⟨attempting.turn, attempting.count⟩
    | event silent => exact attempting.emit (silent_steady silent)
    | say own steady mends => exact attempting.emit steady
    | begin held idle mends => exact absurd attempting.turn (idle task)
    | conclude signing mends =>
      rw [attempting.turn] at signing
      cases signing
      exact absurd rfl other
  asked attempting := attempting.emit rfl
  silent silent attempting := attempting.emit (silent_steady silent)

/-- The session that an attempt has got so far: a new token, and the owner. -/
structure Household.Gained (home : Household mac) (library : Library) (task count : Nat) (since : ClientLog)
    (session : String × String) (now : ClientScene) : Prop where
  attempting : Attempting task count now
  owner : session.2 = home.owner
  usable : usableToken session.1
  issued : Issued library now.log session.1
  renewed : TokenRefused library since → Renewed library now.log session.1

theorem loginToken_usable {data : Json} {token : String} (valid : Call.loginToken data = .ok token) :
    usableToken token := by
  unfold Call.loginToken at valid
  split at valid
  · split at valid
    · split at valid
      · rename_i usable
        cases valid
        exact usable
      · cases valid
    · cases valid
  · cases valid

theorem issued_of_accepts {data : Json} {token : String} {sent : Option String} {payload : Option Payload}
    {reply : HttpReply} (accepts : Accepts library reply data) (valid : Call.loginToken data = .ok token) :
    issued library ⟨.http .login sent payload, reply⟩ = some token := by
  show ((received library.loads false reply).toOption.bind fun data => (Call.loginToken data).toOption) = some token
  rw [accepts.received.2]
  exact congrArg Except.toOption valid

/-- The requests of an attempt bring a session. -/
theorem Call.logIn_returns {count : Nat} (going : Striding home library task operation origin now)
    (attempting : Attempting task count now) :
    (statusContract home library).wp task
      (Returned home library task operation (home.Gained library task count now.log))
      (Call.logIn library account) origin now := by
  have lasting : (strides home library).Lasting task (Attempting task count) := attempting_lasting
  have encrypts : home.Mends library now.log (.asked task .encrypt) := trivial
  have encrypted : (statusContract home library).wp task (Returned home library task operation
      fun password later => Attempting task count later ∧ password.isSome) (Call.ask .encrypt) origin now := by
    apply Contract.wp_mono (Call.ask_told lasting going attempting encrypts)
    rintro result origin later ⟨going, attempting, reply, rfl, heard, -⟩
    obtain ⟨past, -, -, present⟩ := heard.place
    exact .ok going ⟨attempting, present⟩
  apply Returned.seq encrypted
  rintro password origin later grown going ⟨attempting, present⟩
  obtain ⟨password, rfl⟩ := Option.isSome_iff_exists.mp present
  have posted : ∀ payload, (statusContract home library).wp task (Returned home library task operation
      fun data last => Attempting task count last ∧ ∃ token, Call.loginToken data = .ok token ∧
        Issued library last.log token ∧ (TokenRefused library later.log → Renewed library last.log token))
      (Call.request library .post .login none payload) origin later := by
    intro payload
    apply Call.request_returns lasting going attempting (.inl rfl) rfl rfl rfl rfl
    intro last reply attempting heard
    obtain ⟨past, -, -, data, token, accepts, valid⟩ := heard.place
    exact ⟨data, accepts, attempting, token, valid, heard.gives (issued_of_accepts accepts valid)⟩
  apply Returned.seq (posted _)
  rintro data origin last grown' going ⟨attempting, token, valid, gave, renews⟩
  apply wp_checked valid
  have usable : (some token).all usableToken := loginToken_usable valid
  have asked : (statusContract home library).wp task (Returned home library task operation
      fun user last => Attempting task count last ∧ user = home.shows .userInfo none)
      (Call.request library .get .userInfo (some token) none) origin last := by
    apply Call.request_returns lasting going attempting (.inr (.inl rfl)) rfl rfl rfl usable
    intro last reply attempting heard
    obtain ⟨past, -, -, accepts | ⟨other, -⟩⟩ := heard.place
    · exact ⟨_, accepts, attempting, rfl⟩
    · exact absurd rfl other
  apply Returned.seq asked
  rintro user origin final grown'' going ⟨attempting, rfl⟩
  apply wp_checked home.identity
  refine .ok going ⟨attempting, rfl, usable, gave.mono grown'', fun refused => ?_⟩
  exact (renews (refused.mono grown)).mono grown''

/-- A task holds the login lock, and no attempt is going on. -/
structure HoldsLogin (task : Nat) (scene : ClientScene) : Prop where
  held : scene.shared.loginLock.holder = some task
  calm : ∀ other, phase scene.log ≠ .signing other

/-- There is a token, after so many attempts. -/
structure Household.Renewing (home : Household mac) (library : Library) (count : Nat) (log : ClientLog) : Prop where
  signed : ∃ token, home.Signed library token log
  count : count ≤ (endings log).length

theorem Call.authenticate_returns (going : Striding home library task operation origin now)
    (holding : HoldsLogin task now) (cause : endings now.log = [] ∨ TokenRefused library now.log) :
    (statusContract home library).wp task (Returned home library task operation fun _ later =>
        HoldsLogin task later ∧ home.Renewing library ((endings now.log).length + 1) later.log)
      (Call.authenticate library account) origin now := by
  have attempting : Attempting task (endings now.log).length ((now.change Client.reset).emit (.told task .began)) :=
    ⟨phase_append _ _, by simp [endingOf]⟩
  refine Contract.wp_modify.mpr (Contract.wp_say.mpr (Contract.wp_attempt.mpr ?_))
  apply Returned.seq (Call.logIn_returns (going.change (.begin holding.held holding.calm cause)) attempting)
  rintro ⟨token, owner⟩ origin later grown going ⟨attempting, rfl, usable, gave, renews⟩
  have mends : home.Mends library later.log (.told task (.finished (.succeeded token home.owner))) := by
    refine ⟨token, rfl, usable, gave, ?_⟩
    rcases cause with first | refused
    · have none := attempting.count
      rw [first] at none
      exact .inl (List.eq_nil_of_length_eq_zero none)
    · exact .inr (renews (refused.mono (Contract.grows_emit _ _)))
  have ended := going.change (.conclude attempting.turn mends)
  have closed : phase ((later.change (·.conclude (.succeeded token home.owner))).emit
      (.told task (.finished (.succeeded token home.owner)))).log = .closed (.succeeded token home.owner) :=
    phase_append _ _
  refine .ok ended ⟨⟨going.current.held task attempting.turn, ?_⟩, ended.current.signed closed, ?_⟩
  · rw [closed]
    intro other signing
    cases signing
  · simp [endingOf, attempting.count]

theorem Call.takeTurn_returns {generation : Nat} (going : Striding home library task operation origin now)
    (holding : HoldsLogin task now) (cause : endings now.log = [] ∨ TokenRefused library now.log) :
    (statusContract home library).wp task (Returned home library task operation fun _ later =>
        HoldsLogin task later ∧ home.Renewing library ((endings now.log).length + 1) later.log)
      (Call.takeTurn library account generation) origin now := by
  refine Contract.wp_get.mpr ?_
  rw [going.current.failure, ite_self]
  exact Call.authenticate_returns going holding cause

/-- A body that leaves the login lock held. -/
theorem Call.withLoginLock_returns {known : ClientLog → Prop} {body : Call Unit}
    (going : Striding home library task operation origin now)
    (inside : ∀ origin later, now.log <+: later.log → Striding home library task operation origin later →
      HoldsLogin task later → (statusContract home library).wp task (Returned home library task operation
        fun _ last => HoldsLogin task last ∧ known last.log) body origin later) :
    (statusContract home library).wp task (Returned home library task operation fun _ last => known last.log)
      (Call.withLoginLock task body) origin now := by
  apply Practice.wp_withLock (fun later => now.log <+: later.log)
    (fun later => now.log <+: later.log ∧ ∀ other, phase later.log ≠ .signing other) going (fun _ _ => rfl)
  · exact fun scene => .lock (fun lock => lock.enqueue task) fun other held _ => held
  · intro scene ready
    refine .lock (fun lock => lock.acquire task) fun other held _ => ?_
    simp only [Lock.ready, Bool.and_eq_true, decide_eq_true_eq] at ready
    rw [ready.1] at held
    cases held
  · exact List.prefix_rfl
  · exact fun _ grown awaiting => grown.trans awaiting.grows
  · exact fun grown => grown.trans (Contract.grows_emit _ _)
  · intro scene hale grown ready
    refine ⟨grown, fun other signing => ?_⟩
    simp only [Lock.ready, Bool.and_eq_true, decide_eq_true_eq] at ready
    have held := hale.held other signing
    rw [ready.1] at held
    cases held
  · exact fun origin later waited going held => inside origin later waited.1 going ⟨held, waited.2⟩
  · rintro result origin last ⟨going, value, rfl, holding, known⟩
    refine .ok (going.change (.lock Lock.release fun other held signing => ?_)) known
    exact absurd signing (holding.calm other)
  · exact fun reason later _ _ impossible => impossible.elim

/-- A remark that begins or ends no attempt. -/
theorem Striding.speaks (remark : ClientRemark) (going : Striding home library task operation origin now)
    (steady : turning (.told task remark) = false) :
    Striding home library task operation origin (now.emit (.told task remark)) := by
  apply going.change (.say rfl steady _)
  cases remark with
  | began => cases steady
  | finished ending => cases steady
  | _ => trivial

/-- A task that finds a token goes on with it. -/
theorem joined_returned {token : String} {count : Nat} (going : Striding home library task operation origin now)
    (holding : HoldsLogin task now) (renewing : home.Renewing library count now.log) :
    Returned home library task operation (fun _ last => HoldsLogin task last ∧ home.Renewing library count last.log)
      (.ok () : Except Problem Unit) origin (now.emit (.told task (.joined token))) := by
  obtain ⟨found, signed⟩ := renewing.signed
  have after : home.Signed library found (now.emit (.told task (.joined token))).log := signed.emit rfl
  refine .ok (Striding.speaks _ going rfl) ⟨⟨holding.held, fun other => ?_⟩, ⟨found, after⟩, ?_⟩
  · rw [after.closed]
    exact nofun
  · simpa [endingOf] using renewing.count

/-- `async_login`. -/
theorem Call.login_returns (going : Striding home library task operation origin now) :
    (statusContract home library).wp task (Returned home library task operation fun _ later =>
      home.Renewing library 0 later.log) (Call.login library account task) origin now := by
  refine Contract.wp_get.mpr (Contract.wp_say.mpr ?_)
  apply Call.withLoginLock_returns (Striding.speaks _ going rfl)
  intro origin later grown going holding
  refine Contract.wp_get.mpr ?_
  rcases going.current.settled holding.calm with ⟨first, absent⟩ | ⟨token, signed⟩
  · rw [absent]
    apply Contract.wp_mono (Call.takeTurn_returns going holding (.inl first))
    rintro result origin last ⟨going, value, rfl, holding, renewing⟩
    exact .ok going ⟨holding, renewing.signed, Nat.zero_le _⟩
  · rw [going.current.token signed]
    exact joined_returned going holding ⟨⟨token, signed⟩, Nat.zero_le _⟩

/-- `_refresh`, after the vendor has refused this token. -/
theorem Call.refresh_returns {rejected : String} {since : ClientLog}
    (going : Striding home library task operation origin now) (signed : home.Signed library rejected since)
    (grown : since <+: now.log) (refused : TokenRefused library now.log) :
    (statusContract home library).wp task (Returned home library task operation fun _ later =>
        home.Renewing library 2 later.log)
      (Call.refresh library account task (some rejected) (endings since).length) origin now := by
  apply Call.withLoginLock_returns going
  intro origin later after going holding
  refine Contract.wp_get.mpr ?_
  have last : (endings since).getLast? = some (.succeeded rejected home.owner) :=
    (endings_of_phase since).2 _ signed.closed
  obtain ⟨earlier, split⟩ := List.getLast?_eq_some_iff.mp last
  obtain ⟨events, whole⟩ := grown.trans after
  have more : endings later.log = endings since ++ endings events := by rw [← whole, endings_append]
  obtain ⟨token, current⟩ : ∃ token, home.Signed library token later.log := by
    rcases going.current.settled holding.calm with ⟨first, -⟩ | found
    · rw [more, split] at first
      simp at first
    · exact found
  have generation := going.current.generation
  have present := going.current.token current
  by_cases same : endings events = []
  · -- No attempt has ended since, so the token is the refused one.
    have again : token = rejected := by
      have closing := (endings_of_phase later.log).2 _ current.closed
      rw [more, same, List.append_nil, last] at closing
      cases closing
      rfl
    rw [if_neg (by simp [present, again, generation, more, same])]
    apply Contract.wp_mono (Call.takeTurn_returns going holding (.inr (refused.mono after)))
    rintro result origin final ⟨going, value, rfl, holding, renewing⟩
    refine .ok going ⟨holding, renewing.signed, le_trans ?_ renewing.count⟩
    rw [more, split]
    simp
    omega
  · have further : 0 < (endings events).length := List.length_pos_of_ne_nil same
    have differs : (endings since).length ≠ later.shared.generation := by
      rw [generation, more, List.length_append]
      omega
    rw [if_pos (.inr differs), present]
    apply joined_returned going holding ⟨⟨token, current⟩, ?_⟩
    rw [more, split]
    simp
    omega

end Attempts

section Lookups

theorem nothing_lasting : (strides home library).Lasting task fun _ => True :=
  ⟨fun _ _ _ _ => trivial, fun _ => trivial, fun _ _ => trivial⟩

/-- What a read has brought. -/
def Household.Read (home : Household mac) (endpoint : Endpoint) (payload : Option Payload) (data : Json)
    (now : ClientScene) : Prop :=
  data = home.shows endpoint payload ∧ (home.OwnerMatters endpoint payload → now.shared.ownerId = some home.owner)

/-- How the request of a read ends: the vendor refuses a token only if it is no renewed one. -/
structure Looked (home : Household mac) (library : Library) (task : Nat) (operation : ClientOperation)
    (endpoint : Endpoint) (token : String) (payload : Option Payload) (since : ClientLog)
    (result : Except Problem Json) (origin now : ClientScene) : Prop where
  going : Striding home library task operation origin now
  ends : (∃ data, result = .ok data ∧ home.Read endpoint payload data now) ∨
    (∃ error, result = .error (.error error) ∧ error.kind = .authentication) ∧ TokenRefused library now.log ∧
      ¬ Renewed library since token

theorem Call.request_looks {endpoint : Endpoint} {token : String} {payload : Option Payload}
    (going : Striding home library task operation origin now) (signed : home.Signed library token now.log)
    (allowed : endpoint.allowed) (reads : endpoint.verb = .get) :
    (statusContract home library).wp task (Looked home library task operation endpoint token payload now.log)
      (Call.request library .get endpoint (some token) payload) origin now := by
  obtain ⟨plain, other⟩ := Endpoint.get_plain reads
  have mends : home.Mends library now.log (.asked task (.http endpoint (some token) payload)) :=
    .inr (.inr ⟨token, rfl, signed.issued⟩)
  apply Contract.wp_mono (Call.request_brings nothing_lasting going trivial mends reads allowed plain signed.usable)
  rintro result origin later ⟨going, -, reply, heard, owns, returned, rejected⟩
  obtain ⟨past, before, there, replies⟩ := heard.place
  refine ⟨going, ?_⟩
  simp only [Household.Replies, if_neg other] at replies
  rcases replies with accepts | ⟨later', refuses, stale⟩
  · exact .inl ⟨_, returned _ accepts, rfl, fun matters => going.current.owner (owns accepts matters)⟩
  · refine .inr ⟨rejected refuses, ?_, fun renewed => stale token rfl (renewed.mono before)⟩
    exact ⟨task, endpoint, some token, payload, reply, there.subset (by simp), other, later', refuses⟩

/-- The `try` of `_read`: the request is made again with a new token if this one is refused. -/
theorem Call.retry_returns {endpoint : Endpoint} {token : String} {generation : Nat} {payload : Option Payload}
    (going : Striding home library task operation origin now) (signed : home.Signed library token now.log)
    (count : generation = (endings now.log).length) (allowed : endpoint.allowed) (reads : endpoint.verb = .get) :
    (statusContract home library).wp task (Returned home library task operation (home.Read endpoint payload))
      (Call.rescue (Call.request library .get endpoint (some token) payload) fun error =>
        if error.kind = .authentication then do
          Call.refresh library account task (some token) generation
          let now : Client ← Process.get
          Call.request library .get endpoint now.token payload
        else Call.fail error) origin now := by
  subst count
  refine Contract.wp_attempt.mpr (Contract.wp_mono
    (Contract.wp_extends List.prefix_rfl (Call.request_looks going signed allowed reads)) ?_)
  rintro result origin later ⟨⟨going, ends⟩, grown⟩
  rcases ends with ⟨data, rfl, read⟩ | ⟨⟨error, rfl, kind⟩, refused, -⟩
  · exact .ok going read
  · refine Contract.wp_recover_error.mpr ?_
    dsimp only
    rw [if_pos kind]
    apply Returned.seq (Call.refresh_returns going signed grown refused)
    rintro _ origin last - going ⟨⟨fresh, renewed⟩, several⟩
    refine Contract.wp_get.mpr ?_
    rw [going.current.token renewed]
    apply Contract.wp_mono (Call.request_looks going renewed allowed reads)
    rintro result origin final ⟨going, ends⟩
    rcases ends with ⟨data, rfl, read⟩ | ⟨-, -, stale⟩
    · exact .ok going read
    · exact absurd (renewed.renewed several) stale

/-- `_read`. -/
theorem Call.read_returns {endpoint : Endpoint} {payload : Option Payload}
    (going : Striding home library task operation origin now) (allowed : endpoint.allowed)
    (reads : endpoint.verb = .get) :
    (statusContract home library).wp task (Returned home library task operation (home.Read endpoint payload))
      (Call.read library account task endpoint payload) origin now := by
  apply Returned.seq (Call.login_returns going)
  rintro _ origin base - going ⟨⟨token, signed⟩, -⟩
  refine Contract.wp_get.mpr (Contract.wp_say.mpr ?_)
  rw [going.current.token signed]
  apply Call.retry_returns (Striding.speaks _ going rfl) (signed.emit rfl) _ allowed reads
  simpa [endingOf] using going.current.generation

/-- What is made of a page does not depend on an owner id that is not there. -/
theorem Household.Read.addPage {payload : Option Payload} {data : Json}
    (read : home.Read .deviceList payload data now) (hale : Hale home library now) (devices : Devices) :
    addPage now.shared.ownerId devices data = addPage (some home.owner) devices data := by
  obtain ⟨rfl, matters⟩ := read
  cases absent : now.shared.ownerId with
  | some owner => rw [← absent, hale.owner (by simp [absent])]
  | none =>
    by_contra differs
    have present := matters ⟨devices, differs⟩
    rw [absent] at present
    cases present

/-- All pages are read as the vendor shows them. -/
theorem Call.fetchPages_returns {left page : Nat} {devices all : Devices}
    (going : Striding home library task operation origin now)
    (listed : (gather (some home.owner) (fun number => home.shows .deviceList (pagePayload number)) left page
      devices).2 = .ok all) :
    (statusContract home library).wp task (Returned home library task operation fun found _ => found = all)
      (Call.fetchPages library account task left page devices) origin now := by
  induction left generalizing page devices origin now with
  | zero => cases listed
  | succ left ih =>
    refine Returned.seq (Call.read_returns going ?_ ?_) ?_
    · rfl
    · rfl
    rintro data origin later - going read
    refine Contract.wp_get.mpr (Contract.wp_say.mpr ?_)
    rw [read.addPage going.current]
    obtain ⟨rfl, -⟩ := read
    have said := Striding.speaks (.listed later.shared.ownerId (home.shows .deviceList (pagePayload page))) going rfl
    rw [gather] at listed
    split at listed
    · cases listed
    · rename_i next added
      apply wp_checked added
      split at listed
      · rename_i last
        cases listed
        rw [if_pos last]
        exact .ok said rfl
      · rename_i further
        rw [if_neg further]
        exact ih said listed

theorem Call.fetchDevices_returns (going : Striding home library task operation origin now) :
    (statusContract home library).wp task
      (Returned home library task operation fun found _ => found = home.devices)
      (Call.fetchDevices library account task) origin now := by
  refine Contract.wp_attempt.mpr (Contract.wp_mono (Call.fetchPages_returns going home.listed) ?_)
  rintro result origin later ⟨going, found, rfl, rfl⟩
  exact .ok going rfl

theorem Call.known_returns (going : Striding home library task operation origin now) :
    (statusContract home library).wp task
      (Returned home library task operation fun found _ => found = home.device)
      (Call.known library account task home.target) origin now := by
  refine Contract.wp_get.mpr ?_
  split
  · apply Returned.seq (Call.fetchDevices_returns going)
    rintro devices origin later - going rfl
    refine Contract.wp_modify.mpr (Contract.wp_get.mpr ?_)
    have stored : (later.change fun s : Client => { s with devices := home.devices }).shared.devices.lookup
        home.target = some home.device := home.present
    rw [stored]
    exact .ok (going.change .store) rfl
  · rename_i listed
    refine Contract.wp_get.mpr ?_
    have stored : now.shared.devices.lookup home.target = some home.device := by
      rcases going.current.devices with none | all
      · simp [none] at listed
      · rw [all, home.present]
    rw [stored]
    exact .ok going rfl

/-- A body behind the lock of the devices. -/
theorem Call.withDevicesLock_returns {value : First} {body : Call First}
    (going : Striding home library task operation origin now)
    (inside : ∀ origin later, Striding home library task operation origin later →
      (statusContract home library).wp task (Returned home library task operation fun found _ => found = value) body
        origin later) :
    (statusContract home library).wp task (Returned home library task operation fun found _ => found = value)
      (Call.withDevicesLock task body) origin now := by
  have aside : ∀ (scene : ClientScene) (change : Lock → Lock), Stride home library (some task) scene
      (scene.change fun s : Client => s.putDevicesLock (change s.devicesLock)) :=
    fun scene change => .aside scene.shared.clock (change scene.shared.devicesLock) scene.shared.commandLock
  apply Practice.wp_withLock (fun _ => True) (fun _ => True) going (fun _ _ => rfl)
    (fun scene => aside scene fun lock => lock.enqueue task) (fun scene _ => aside scene fun lock => lock.acquire task)
    trivial (fun _ _ _ => trivial) (fun _ => trivial) fun _ _ _ _ => trivial
  · exact fun origin later _ going _ => inside origin later going
  · rintro result origin last ⟨going, found, rfl, rfl⟩
    exact .ok (going.change (aside last Lock.release)) rfl
  · exact fun reason later _ _ impossible => impossible.elim

theorem Call.resolve_returns (going : Striding home library task operation origin now) :
    (statusContract home library).wp task
      (Returned home library task operation fun found _ => found = home.device)
      (Call.resolve library account task home.target) origin now := by
  apply wp_checked (normalizeMac_idem home.valid)
  apply Returned.seq (Call.login_returns going)
  rintro _ origin later - going -
  exact Call.withDevicesLock_returns going fun origin later going => Call.known_returns going

theorem Call.deviceDetail_returns (going : Striding home library task operation origin now) :
    (statusContract home library).wp task (Returned home library task operation fun found later =>
        found = home.detail ∧ later.shared.ownerId = some home.owner)
      (Call.deviceDetail library account task home.device) origin now := by
  have identity : isIdentifier home.id := by
    have valid := identifier_text home.named
    by_contra other
    rw [identifier, if_neg other] at valid
    cases valid
  apply wp_checked home.named
  refine Returned.seq (Call.read_returns going ?_ ?_) ?_
  · exact identity
  · rfl
  rintro detail origin later - going ⟨rfl, owned⟩
  have passed : (Call.matchingDetail home.device home.id (home.shows (.deviceDetail home.id) none)).mapError
      ({ · with stage := "device_detail" }) = .ok home.detail := by rw [home.matching]; rfl
  rw [passed]
  exact .ok going ⟨rfl, owned trivial⟩

/-- `_owned_device`. -/
theorem Call.ownedDevice_returns (going : Striding home library task operation origin now) :
    (statusContract home library).wp task
      (Returned home library task operation fun found _ => found = merged home.device home.detail)
      (Call.ownedDevice library account task mac) origin now := by
  apply wp_checked home.valid
  apply Returned.seq (Call.resolve_returns going)
  rintro device origin later - going rfl
  apply Returned.seq (Call.deviceDetail_returns going)
  rintro detail origin later - going ⟨rfl, owner⟩
  refine Contract.wp_get.mpr ?_
  rw [owner]
  apply wp_checked home.owned
  exact .ok (Striding.speaks _ going rfl) rfl

/-- `async_status` returns what the vendor shows. -/
theorem Call.status_returns (going : Striding home library task operation origin now) :
    (statusContract home library).wp task (Returned home library task operation fun shown _ =>
        ∃ clock, shown = home.shown ++ [("observed_at_utc", .text clock)])
      (Call.status library account task mac) origin now := by
  apply Returned.seq (Call.ownedDevice_returns going)
  rintro device origin later - going rfl
  apply wp_checked home.published
  exact .ok going ⟨_, rfl⟩

end Lookups

theorem statuses_meet : (statusContract home library).Meets (clientProgram library account) := by
  apply Practice.meets_of_going
  rintro operation task scene rfl going
  apply Returned.seq (Call.status_returns going)
  rintro shown origin later - going ⟨clock, rfl⟩
  exact ⟨going, clock, rfl⟩

end AlorairLite.Cloud
