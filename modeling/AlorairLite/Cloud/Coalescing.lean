import AlorairLite.Cloud.Ownership

/-! How many callers log in. A caller makes an attempt only if none has ended since it
captured its generation, or the latest was cancelled; the others share how it ended. -/

namespace AlorairLite.Cloud

open Async

/-- The attempt ran to its end. -/
def Ending.completed : Ending → Bool
  | .cancelled => false
  | _ => true

/-- A caller with this generation ends an attempt that was not cancelled. -/
def completes (generation : Nat) (past : ClientLog) : ClientEvent → Bool
  | .told task (.finished ending) => ending.completed && captured task past = some generation
  | _ => false

/-- How many attempts the callers with this generation ran to the end. -/
def completions (generation : Nat) (log : ClientLog) : Nat :=
  (List.range log.length).countP fun k => log[k]?.any (completes generation (log.take k))

/-- How the attempt ended that is over last. -/
def latest (log : ClientLog) : Option Ending := (endings log).getLast?

/-- What the login lock achieves. -/
structure Coalesced (scene : ClientScene) : Prop where
  /-- Only callers with a reason to begin an attempt do so, and they hold the lock. -/
  begins : ∀ past task future, scene.log = past ++ .told task .began :: future → Justified task past
  holds : ∀ task, phase scene.log = .signing task → scene.shared.loginLock.holder = some task
  /-- Between two attempts for one generation that ran to the end another one was cancelled. -/
  spaced : ∀ generation before first between last after,
    scene.log = before ++ first :: (between ++ last :: after) → completes generation before first →
      completes generation (before ++ first :: between) last → .cancelled ∈ endings between
  /-- Who makes no attempt goes on with the token of the latest one, or learns its failure. -/
  joins : ∀ past task token future, scene.log = past ++ .told task (.joined token) :: future →
    ∃ owner, latest past = some (.succeeded token owner)
  refuses : ∀ past task kind message future,
    scene.log = past ++ .told task (.refused kind message) :: future →
      latest past = some (.failed kind message)
  /-- A caller that was refused raises this failure, and `async_login` ends as the latest
  attempt did. -/
  raises : ∀ past task operation result future, scene.log = past ++ .ended task result :: future →
    .started task operation ∈ past → (operation = .login ∨ ∃ endpoint payload,
      operation = .read endpoint payload) → Raises task past result
  leaves : ∀ past task result future, scene.log = past ++ .ended task result :: future →
    .started task .login ∈ past → Leaves past result
  /-- A request that belongs to no attempt carries the token of the latest one. -/
  carries : ∀ past task endpoint token payload future,
    scene.log = past ++ .asked task (.http endpoint token payload) :: future → endpoint.command = false →
      phase past = .signing task ∨
        ∃ session owner, token = some session ∧ latest past = some (.succeeded session owner)
  /-- While the lock is free the token is there exactly if the owner id is, and absent
  after an attempt exactly if the latest failed or was cancelled. -/
  present : scene.shared.loginLock.holder = none →
    (scene.shared.token.isSome ↔ scene.shared.ownerId.isSome)
  absent : scene.shared.loginLock.holder = none → ∀ ending, latest scene.log = some ending →
    (scene.shared.token = none ↔ ending = .cancelled ∨ ∃ kind message, ending = .failed kind message)

section Proofs

variable {careful : Prop} {loads : List UInt8 → Option Json} {scene : ClientScene}

theorem latest_of_phase {log : ClientLog} {ending : Ending} (turn : phase log = .closed ending) :
    latest log = some ending := (endings_of_phase log).2 ending turn

theorem completes_told {generation : Nat} {past : ClientLog} {event : ClientEvent}
    (ended : completes generation past event) :
    ∃ task ending, event = .told task (.finished ending) ∧ ending ≠ .cancelled ∧
      captured task past = some generation := by
  unfold completes at ended
  split at ended
  · rename_i task ending
    simp only [Bool.and_eq_true, decide_eq_true_eq] at ended
    refine ⟨task, ending, rfl, ?_, ended.2⟩
    rintro rfl
    cases ended.1
  · cases ended

/-- A generation is captured before the attempts that end afterwards are counted. -/
theorem Orderly.captured_le (orderly : Orderly careful loads scene) {task generation : Nat}
    {past future : ClientLog} (whole : scene.log = past ++ future)
    (mine : captured task past = some generation) : generation ≤ (endings past).length := by
  obtain ⟨before, between, rfl, -⟩ := captured_split mine
  have counted : generation = (endings before).length :=
    orderly.history before (.told task (.captured generation)) (between ++ future) (by simp [whole])
  simp [counted]

theorem Orderly.spaced (orderly : Orderly careful loads scene) {generation : Nat}
    {before between after : ClientLog} {first last : ClientEvent}
    (whole : scene.log = before ++ first :: (between ++ last :: after))
    (one : completes generation before first)
    (other : completes generation (before ++ first :: between) last) : .cancelled ∈ endings between := by
  obtain ⟨task, ending, rfl, completed, mine⟩ := completes_told one
  obtain ⟨task', ending', rfl, -, mine'⟩ := completes_told other
  have bound := orderly.captured_le whole mine
  have spoken : Spoken loads (before ++ .told task (.finished ending) :: between) task' (.finished ending') :=
    orderly.history _ (.told task' (.finished ending')) after (by simp [whole])
  obtain ⟨-, generation', early, late, split, silent, cause⟩ := spoken
  rw [split, captured_of_split silent] at mine'
  cases mine'
  have counted : generation = (endings early).length := by
    apply orderly.history early (.told task' (.captured generation))
      (late ++ .told task' (.finished ending') :: after)
    have regrouped : scene.log = (before ++ .told task (.finished ending) :: between) ++
        .told task' (.finished ending') :: after := by simp [whole]
    rw [regrouped, split]
    simp
  have endings' : endings (before ++ .told task (.finished ending) :: between) =
      endings before ++ ending :: endings between := by simp [endingOf]
  rcases cause with none | cancelled
  · have early' := congrArg endings split
    rw [endings', endings_append, endings_cons, none] at early'
    have longer := congrArg List.length early'
    simp only [List.length_append, List.length_cons, endingOf, Option.toList_none,
      List.append_nil] at longer
    omega
  · rw [endings'] at cancelled
    cases followed : endings between with
    | nil =>
      rw [followed, List.getLast?_concat] at cancelled
      exact absurd (Option.some.inj cancelled) completed
    | cons next rest =>
      rw [followed, List.getLast?_append_of_ne_nil _ (by simp), List.getLast?_cons_cons] at cancelled
      exact List.mem_of_getLast? cancelled

theorem Orderly.coalesced (orderly : Orderly careful loads scene) : Coalesced scene where
  begins past task future whole := by
    have spoken : Spoken loads past task .began := orderly.history past _ future whole
    exact spoken.2
  holds := orderly.held
  spaced generation before first between last after whole one other := orderly.spaced whole one other
  joins past task token future whole := by
    have spoken : Spoken loads past task (.joined token) := orderly.history past _ future whole
    obtain ⟨owner, turn⟩ := spoken
    exact ⟨owner, latest_of_phase turn⟩
  refuses past task kind message future whole := by
    have spoken : Spoken loads past task (.refused kind message) := orderly.history past _ future whole
    exact latest_of_phase spoken
  raises past task operation result future whole begun calls := by
    have concluded : Concluded past task result := orderly.history past _ future whole
    rcases calls with rfl | ⟨endpoint, payload, rfl⟩
    · exact (concluded.login begun).2
    · exact concluded.read endpoint payload begun
  leaves past task result future whole begun := by
    have concluded : Concluded past task result := orderly.history past _ future whole
    exact (concluded.login begun).1
  carries past task endpoint token payload future whole plain := by
    have sent : Sent careful past task (.http endpoint token payload) := orderly.history past _ future whole
    rw [Sent, plain] at sent
    rcases sent with signing | ⟨-, present, current⟩
    · exact .inl signing
    · obtain ⟨session, rfl⟩ := Option.isSome_iff_exists.mp present
      obtain ⟨owner, turn⟩ := Phase.succeeded current
      exact .inr ⟨session, owner, rfl, latest_of_phase turn⟩
  present _ := by
    have token := congrArg Session.token orderly.session
    have owner := congrArg Session.ownerId orderly.session
    constructor
    · intro some
      obtain ⟨session, stored⟩ := Option.isSome_iff_exists.mp some
      obtain ⟨owner', turn⟩ := orderly.succeeded stored
      rw [turn] at owner
      exact Option.isSome_iff_exists.mpr ⟨owner', owner⟩
    · intro some
      obtain ⟨owner', stored⟩ := Option.isSome_iff_exists.mp some
      obtain ⟨session, turn⟩ := orderly.owned stored
      rw [turn] at token
      exact Option.isSome_iff_exists.mpr ⟨session, token⟩
  absent free ending last := by
    have token := congrArg Session.token orderly.session
    cases turn : phase scene.log with
    | idle =>
      rw [latest, (endings_of_phase scene.log).1 turn] at last
      cases last
    | signing task =>
      rw [orderly.held task turn] at free
      cases free
    | closed ending' =>
      cases (latest_of_phase turn).symm.trans last
      rw [turn] at token
      change scene.shared.token = ending.session.token at token
      rw [token]
      cases ending <;> simp [Ending.session]

end Proofs

/-- Whatever calls there are, and in whatever order their steps come. -/
theorem login_coalesced {library : Library} {account : Account} {machine : ClientMachine}
    (run : Reachable (client library account) machine) : Coalesced machine.scene := by
  have orderly : Orderly False library.loads machine.scene := run_orderly (fun _ _ _ => False.elim) run
  exact orderly.coalesced

/-- Two readers capture the same generation, and both requests are rejected. The first one
logs in again. Another reader's attempt is cancelled, so the second one logs in too. -/
def poisonedRefresh : List (Step clientFace ClientOperation) :=
  [.start (.read .historyDates none)] ++ exampleLogin 0 ++ [.start (.read .historyTime none)] ++
    exampleReply 0 .historyDates (some "t") none expiredBody ++ exampleLogin 0 ++
    [.start (.read .historyTime none)] ++ exampleReply 2 .historyTime (some "t") none expiredBody ++
    [.interrupt 2 .cancel] ++ exampleReply 1 .historyTime (some "t") none expiredBody ++ exampleLogin 1

theorem login_coalesced_example : ∃ machine,
    (client exampleVendor exampleAccount).follow exampleClient poisonedRefresh = some machine ∧
      (endings machine.scene.log).length = 4 ∧ Coalesced machine.scene := by
  have shown : (((client exampleVendor exampleAccount).follow exampleClient poisonedRefresh).map
      fun machine => (endings machine.scene.log).length) = some 4 := by decide +kernel
  obtain ⟨machine, followed, count⟩ := Option.map_eq_some_iff.mp shown
  have run : Reachable (client exampleVendor exampleAccount) machine :=
    exampleClient_run.follow (fun _ _ => trivial) followed
  exact ⟨machine, followed, count, login_coalesced run⟩

/-- Two attempts for one generation ran to the end. -/
theorem completions_repeated : ¬ ∀ library account machine generation,
    Reachable (client library account) machine → completions generation machine.scene.log ≤ 1 := by
  have shown : (((client exampleVendor exampleAccount).follow exampleClient poisonedRefresh).map
      fun machine => completions 1 machine.scene.log) = some 2 := by decide +kernel
  obtain ⟨machine, followed, twice⟩ := Option.map_eq_some_iff.mp shown
  intro once
  have run : Reachable (client exampleVendor exampleAccount) machine :=
    exampleClient_run.follow (fun _ _ => trivial) followed
  have bound := once _ _ machine 1 run
  rw [twice] at bound
  exact absurd bound (by decide)

end AlorairLite.Cloud
