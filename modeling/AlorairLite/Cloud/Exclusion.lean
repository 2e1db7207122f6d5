import AlorairLite.Async.Exclusion
import AlorairLite.Cloud.Confirmation
import AlorairLite.Cloud.Methods

/-! The locks of the cloud client and its coordinator: one command at a time, one login at
a time, and no lock that is left behind, however the calls are interrupted. -/

namespace AlorairLite.Cloud

open Async

/-- A request that changes something on the device. -/
def commands : ClientQuery → Prop
  | .http endpoint _ _ => endpoint.command
  | .encrypt => False

/-- What a login attempt begins with. -/
def logsIn : ClientQuery → Prop
  | .http endpoint _ _ => endpoint = .login
  | .encrypt => True

section Client

variable {library : Library} {account : Account} {lock : Client → Lock} {critical : ClientQuery → Prop}
  {task : Nat} {place : Place} {First Second : Type}

/-- What the methods of the client need to be guarded by one of its locks at this place. -/
structure Fits (library : Library) (account : Account) (lock : Client → Lock)
    (critical : ClientQuery → Prop) (task : Nat) (place : Place) : Prop where
  moving : place ≠ .queued
  reads : ∀ endpoint token payload, endpoint.verb = .get → critical (.http endpoint token payload) →
    place = .inside
  devices : ∀ (s : Client) devices, lock { s with devices } = lock s
  devicesLock : ∀ change s, lock (Client.putDevicesLock change s) = lock s
  login : (Call.login library account task).Guarded lock critical task place
  refresh : ∀ rejected generation,
    (Call.refresh library account task rejected generation).Guarded lock critical task place

/-- A call that begins and ends at this place of a lock. -/
abbrev Call.GuardedBy (lock : Client → Lock) (critical : ClientQuery → Prop) (task : Nat) (place : Place)
    (Result : Type) (call : Call Result) : Prop :=
  @Process.Guarded clientFace Result Problem lock critical task place call

theorem guarded_rules (devices : ∀ (s : Client) devices, lock { s with devices } = lock s) :
    Rules (Call.GuardedBy lock critical task place) where
  raise _ := .raise
  lift _ := .lift
  «then» := .then
  attempt := .attempt
  get rest state stands := ⟨place, .same, rest state state stands⟩
  say _ _ _ := rfl
  store _ := .modify fun s => devices s _

theorem Call.request_guarded {verb : Verb} {endpoint : Endpoint} {token : Option String}
    {payload : Option Payload} (devices : ∀ (s : Client) devices, lock { s with devices } = lock s)
    (moving : place ≠ .queued)
    (inside : endpoint.verb = verb → critical (.http endpoint token payload) → place = .inside) :
    (Call.request library verb endpoint token payload).Guarded lock critical task place :=
  (guarded_rules devices).request fun same => .request moving (inside same)

/-- An attempt, for a lock that it does not touch. -/
theorem Call.authenticate_guarded (devices : ∀ (s : Client) devices, lock { s with devices } = lock s)
    (moving : place ≠ .queued)
    (posts : ∀ query, logsIn query → critical query → place = .inside)
    (reads : ∀ endpoint token payload, endpoint.verb = .get → critical (.http endpoint token payload) →
      place = .inside)
    (reset : ∀ s : Client, lock s.reset = lock s)
    (conclude : ∀ (s : Client) ending, lock (s.conclude ending) = lock s) :
    (Call.authenticate library account).Guarded lock critical task place := by
  apply (guarded_rules devices).authenticate
  · exact .modify reset
  · exact fun ending => .modify fun s => conclude s ending
  · exact .request moving (posts .encrypt trivial)
  · exact fun payload => Call.request_guarded devices moving fun _ => posts _ rfl
  · exact fun token => Call.request_guarded devices moving fun same => reads _ _ _ same

theorem Fits.looks (fits : Fits library account lock critical task place) :
    Looks library account task (Call.GuardedBy lock critical task place) (Call.GuardedBy lock critical task place) := by
  have reads : Reads library account task (Call.GuardedBy lock critical task place) :=
    { guarded_rules fits.devices with
      request := fun _ _ _ => Call.request_guarded fits.devices fits.moving fun same => fits.reads _ _ _ same
      login := fits.login
      refresh := fits.refresh }
  exact ⟨reads, reads, fun body => .aside fits.moving fits.devicesLock body⟩

/-- The whole client, for one of its locks: calls begin outside of it, and what is behind the command
lock stands at this place. -/
theorem clientProgram_guarded (outer : Fits library account lock critical task .outside)
    (inner : Fits library account lock critical task place)
    (posts : ∀ endpoint token payload, endpoint.command → critical (.http endpoint token payload) →
      place = .inside)
    (entered : ∀ {Result : Type} {body : Call Result}, body.Guarded lock critical task place →
      (Call.withCommandLock task body).Guarded lock critical task .outside)
    (operation : ClientOperation) :
    (clientProgram library account operation task).Guarded lock critical task .outside := by
  apply clientProgram_holds outer.looks inner.looks _ entered
  exact fun endpoint token payload command => Call.request_guarded inner.devices inner.moving fun _ => posts _ _ _ command

theorem get_plain {endpoint : Endpoint} (get : endpoint.verb = .get) :
    endpoint.command = false ∧ endpoint ≠ .login := by
  unfold Endpoint.verb at get
  split at get
  · cases get
  · simp_all

/-- The command lock: no login and no read touches it. -/
theorem commandLock_fits (moving : place ≠ .queued) :
    Fits library account Client.commandLock commands task place := by
  have plain : ∀ endpoint token payload, endpoint.verb = .get → commands (.http endpoint token payload) →
      place = .inside := by
    intro endpoint token payload get command
    rw [commands, (get_plain get).1] at command
    cases command
  have attempt : (Call.authenticate library account).Guarded Client.commandLock commands task place := by
    apply Call.authenticate_guarded (fun _ _ => rfl) moving _ plain
    · exact fun s => rfl
    · intro s ending
      cases ending <;> rfl
    · intro query login command
      cases query with
      | http endpoint token payload =>
        rw [logsIn] at login
        subst login
        cases command
      | encrypt => exact command.elim
  have rules : Rules (Call.GuardedBy Client.commandLock commands task place) := guarded_rules fun _ _ =>
    Eq.refl (Client.commandLock _)
  have enters : Enters task (Call.GuardedBy Client.commandLock commands task place)
      (Call.GuardedBy Client.commandLock commands task place) :=
    fun body inside => .aside moving (fun _ _ => rfl) inside
  exact ⟨moving, plain, fun _ _ => rfl, fun _ _ => rfl, rules.login attempt enters rules,
    fun rejected generation => rules.refresh attempt enters⟩

/-- The login lock: every attempt is made inside. -/
theorem loginLock_fits : Fits library account Client.loginLock logsIn task .outside := by
  have plain : ∀ (place : Place) endpoint token payload, endpoint.verb = .get →
      logsIn (.http endpoint token payload) → place = .inside := by
    intro place endpoint token payload get login
    exact absurd login (get_plain get).2
  have attempt : (Call.authenticate library account).Guarded Client.loginLock logsIn task .inside := by
    apply Call.authenticate_guarded (fun _ _ => rfl) (by decide) (fun _ _ _ => rfl) (plain _)
    · exact fun s => rfl
    · intro s ending
      cases ending <;> rfl
  have rules : ∀ place, Rules (Call.GuardedBy Client.loginLock logsIn task place) :=
    fun place => guarded_rules fun _ _ => rfl
  have enters : Enters task (Call.GuardedBy Client.loginLock logsIn task .inside)
      (Call.GuardedBy Client.loginLock logsIn task .outside) :=
    fun body inside => .withLock (fun _ _ => rfl) inside
  exact ⟨by decide, plain _, fun _ _ => rfl, fun _ _ => rfl, (rules _).login attempt enters (rules _),
    fun rejected generation => (rules _).refresh attempt enters⟩

/-- An attempt that has not finished goes on. -/
theorem signing_on {careful : Prop} {loads : List UInt8 → Option Json} {before between : ClientLog}
    (history : Every (Judged careful loads) (before ++ .told task .began :: between))
    (open_ : ∀ ending, .told task (.finished ending) ∉ between) :
    phase (before ++ .told task .began :: between) = .signing task := by
  induction between using List.reverseRecOn with
  | nil => exact phase_append _ _
  | append_singleton between event ih =>
    have regrouped : before ++ .told task .began :: (between ++ [event]) =
        (before ++ .told task .began :: between) ++ [event] := by simp
    rw [regrouped] at history ⊢
    have going := ih history.initial fun ending member => open_ ending (List.mem_append_left _ member)
    have judged := history _ event [] rfl
    rw [phase_append]
    cases steady : turning event with
    | false => rwa [Phase.next_steady _ steady]
    | true =>
      unfold turning at steady
      split at steady
      · exact absurd going (judged.1 task)
      · rename_i other ending
        have turn : phase _ = .signing other := judged.1
        rw [going] at turn
        cases turn
        exact absurd (List.mem_append_right _ (List.mem_singleton_self _)) (open_ ending)
      · cases steady

/-- Login attempts, each from its beginning to its end. -/
structure Successive (machine : ClientMachine) : Prop where
  /-- One begins only when the one before it is over. -/
  apart : ∀ before first between second after, machine.scene.log =
    before ++ .told first .began :: (between ++ .told second .began :: after) →
      ∃ ending, .told first (.finished ending) ∈ between
  /-- One that is not over holds the lock. -/
  held : ∀ before task after, machine.scene.log = before ++ .told task .began :: after →
    (∀ ending, .told task (.finished ending) ∉ after) → machine.scene.shared.loginLock.holder = some task
  /-- The password is encrypted and posted only in an attempt of the same task. -/
  owned : ∀ past task query future, machine.scene.log = past ++ .asked task query :: future → logsIn query →
    ∃ before between, past = before ++ .told task .began :: between ∧
      ∀ ending, .told task (.finished ending) ∉ between

theorem Orderly.successive {careful : Prop} {loads : List UInt8 → Option Json} {machine : ClientMachine}
    (orderly : Orderly careful loads machine.scene) : Successive machine where
  apart before first between second after split := by
    by_contra going
    have regrouped : machine.scene.log =
        (before ++ .told first .began :: between) ++ .told second .began :: after := by simp [split]
    have judged : Spoken loads _ second .began := orderly.history _ _ _ regrouped
    have history := orderly.history
    rw [regrouped] at history
    exact judged.1 first (signing_on history.initial fun ending member => going ⟨ending, member⟩)
  held before task after split open_ := by
    apply orderly.held
    have history := orderly.history
    rw [split] at history ⊢
    exact signing_on history open_
  owned past task query future split login := by
    have judged : Sent careful past task query := orderly.history _ _ _ split
    apply began_of_phase
    cases query with
    | encrypt => exact judged
    | http endpoint token payload =>
      rw [logsIn] at login
      subst login
      exact judged.resolve_right fun other => other.1 rfl

/-- In every order of the steps of all calls of one client, at most one command is on its way and
login attempts follow one another; each lock is held by a call that goes on, and can be taken by the
first that waits once it is free. -/
theorem client_exclusive {machine : ClientMachine} (run : Reachable (client library account) machine) :
    Exclusive (clientProgram library account) Client.commandLock commands machine ∧
      Exclusive (clientProgram library account) Client.loginLock logsIn machine ∧ Successive machine := by
  have free : ∀ s : Client, (∃ clock, s = { clock }) → s.commandLock = {} ∧ s.loginLock = {} := by
    rintro s ⟨clock, rfl⟩
    exact ⟨rfl, rfl⟩
  refine ⟨?_, ?_, (run_orderly (fun _ _ _ => False.elim) run).successive⟩
  · apply run.exclusive _ (fun _ _ => rfl) fun s begins => (free s begins).1
    intro operation task
    apply clientProgram_guarded (commandLock_fits (by decide)) (commandLock_fits (by decide)) fun _ _ _ _ _ => rfl
    exact fun inside => .withLock (fun _ _ => rfl) inside
  · apply run.exclusive _ (fun _ _ => rfl) fun s begins => (free s begins).2
    intro operation task
    apply clientProgram_guarded loginLock_fits loginLock_fits
    · intro endpoint token payload command login
      rw [logsIn] at login
      subst login
      cases command
    · exact fun inside => .aside (by decide) (fun _ _ => rfl) inside

/-- Two reads are rejected, and the first one logs in again while the other one waits. -/
def exampleRelogin : List (Step clientFace ClientOperation) :=
  [.start (.read .historyDates none)] ++ exampleLogin 0 ++ [.start (.read .historyTime none)] ++
    exampleReply 0 .historyDates (some "t") none expiredBody ++
    exampleReply 1 .historyTime (some "t") none expiredBody

def beginsLogin : ClientEvent → Bool
  | .told 0 .began => true
  | _ => false

theorem exists_two {Item : Type} {chosen : Item → Bool} {items : List Item} (twice : 2 ≤ items.countP chosen) :
    ∃ before first between second after, items = before ++ first :: (between ++ second :: after) ∧
      chosen first ∧ chosen second := by
  have some : (items.find? chosen).isSome := List.find?_isSome.mpr (List.countP_pos_iff.mp (by omega))
  obtain ⟨first, found⟩ := Option.isSome_iff_exists.mp some
  obtain ⟨holds, before, rest, rfl, none⟩ := List.find?_eq_some_iff_append.mp found
  have unchosen : before.countP chosen = 0 := List.countP_eq_zero.mpr fun item member => by simpa using none item member
  rw [List.countP_append, unchosen, List.countP_cons_of_pos holds] at twice
  obtain ⟨second, member, also⟩ := List.countP_pos_iff.mp (by omega : 0 < rest.countP chosen)
  obtain ⟨between, after, rfl⟩ := List.append_of_mem member
  exact ⟨before, first, between, second, after, rfl, holds, also⟩

theorem client_exclusive_example : (∃ machine,
    (client exampleVendor exampleAccount).follow exampleClient exampleRename = some machine ∧
      machine.asking? 0 = some (.http .control (some "t") (some renamePayload)) ∧
        machine.scene.shared.commandLock.holder = some 0) ∧
    ∃ machine, (client exampleVendor exampleAccount).follow exampleClient exampleRelogin = some machine ∧
      machine.asking? 0 = some .encrypt ∧ machine.scene.shared.loginLock.holder = some 0 ∧
        ∃ before between after ending, machine.scene.log =
          before ++ .told 0 .began :: (between ++ .told 0 .began :: after) ∧ .told 0 (.finished ending) ∈ between := by
  constructor
  · have shown : (((client exampleVendor exampleAccount).follow exampleClient exampleRename).map fun machine =>
        decide (machine.asking? 0 = some (.http .control (some "t") (some renamePayload)))) = some true := by
      decide +kernel
    obtain ⟨machine, followed, asks⟩ := Option.map_eq_some_iff.mp shown
    have run : Reachable (client exampleVendor exampleAccount) machine :=
      exampleClient_run.follow (fun _ _ => trivial) followed
    exact ⟨machine, followed, of_decide_eq_true asks,
      (client_exclusive run).1.inside 0 _ (of_decide_eq_true asks) rfl⟩
  · have shown : (((client exampleVendor exampleAccount).follow exampleClient exampleRelogin).map fun machine =>
        decide (machine.asking? 0 = some .encrypt) && decide (2 ≤ machine.scene.log.countP beginsLogin)) =
          some true := by decide +kernel
    obtain ⟨machine, followed, both⟩ := Option.map_eq_some_iff.mp shown
    obtain ⟨asks, twice⟩ := (Bool.and_eq_true _ _).mp both
    have run : Reachable (client exampleVendor exampleAccount) machine :=
      exampleClient_run.follow (fun _ _ => trivial) followed
    obtain ⟨-, exclusive, successive⟩ := client_exclusive run
    obtain ⟨before, first, between, second, after, split, began, again⟩ := exists_two (of_decide_eq_true twice)
    have same : ∀ event, beginsLogin event → event = .told 0 .began := by
      intro event begins
      unfold beginsLogin at begins
      split at begins
      · rfl
      · cases begins
    rw [same first began, same second again] at split
    obtain ⟨ending, finished⟩ := successive.apart before 0 between 0 after split
    exact ⟨machine, followed, of_decide_eq_true asks, exclusive.inside 0 _ (of_decide_eq_true asks) trivial,
      before, between, after, ending, split, finished⟩

end Client

section Coordinator

/-- A question to the client that sends a command. -/
def submits : Query → Prop
  | .call _ _ | .experimental _ _ _ => True
  | _ => False

variable {task : Nat} {place : Place} {First Second : Type}

/-- A method, and where it stands to the lock of its coordinator. -/
abbrev Method.Guarded (task : Nat) (place : Place) (method : Method First) : Prop :=
  Process.Guarded Coordinator.commandLock submits task place method

theorem Method.guarded_change {move : Coordinator → Coordinator} {next : Unit → Method Second}
    (aside : ∀ s, (move s).commandLock = s.commandLock) (rest : (next ()).Guarded task place) :
    Method.Guarded task place (Method.change move >>= next : Method Second) :=
  Process.Guarded.then (.modify aside) fun _ => rest

theorem Method.guarded_refresh (moving : place ≠ .queued) : Method.requestRefresh.Guarded task place :=
  Process.Guarded.request moving False.elim

theorem blame_commandLock (s : Coordinator) (action : String) :
    (s.blame action).commandLock = s.commandLock := by
  unfold Coordinator.blame
  split
  · rfl
  · split <;> rfl

theorem Method.refresh_guarded {mac : String} : (Method.refresh mac).Guarded task .outside := by
  apply Process.Guarded.attempt
  · apply Process.Guarded.then
    · apply Process.Guarded.then (.request (by decide) False.elim)
      intro reply
      split
      all_goals first | exact .raise | skip
      split
      · exact .raise
      · apply Process.Guarded.get
        intro s
        refine Method.guarded_change (fun s => s.observe_commandLock _ _) ?_
        exact Process.Guarded.say .pure
    · exact fun data => Method.guarded_change (fun _ => rfl) .pure
  · intro error
    split
    · exact .raise
    · exact Method.guarded_change (fun _ => rfl) .raise

theorem Method.timeout_guarded {body : Method First} (inside : body.Guarded task place) :
    (Method.withTimeout task body).Guarded task place := by
  refine Method.guarded_change (fun _ => rfl) ?_
  refine Process.Guarded.attempt (inside.ensure fun _ => rfl) fun error => ?_
  split <;> exact .raise

theorem Method.handle_guarded {k : Nat} {key : String} {error : ClientError} :
    (Method.handle k key error).Guarded task .inside := by
  have final : ∀ text, Method.Guarded task .inside (do
      Method.change fun s => (s.setStatus k .rejected).dropPending key
      Process.raise (.homeAssistant text) : Method Unit) :=
    fun _ => Method.guarded_change (fun _ => rfl) .raise
  have uncertain : ∀ text, Method.Guarded task .inside (do
      Method.change (·.setStatus k .deliveryUncertain)
      Method.requestRefresh
      Process.raise (.homeAssistant text) : Method Unit) := by
    intro text
    refine Method.guarded_change (fun _ => rfl) ?_
    exact Process.Guarded.then (Method.guarded_refresh (by decide)) fun _ => .raise
  unfold Method.handle
  split
  · exact final _
  · exact uncertain _
  · exact uncertain _
  · exact final _
  · exact final _
  · exact .raise
  · exact .raise

theorem Method.transact_guarded {mac : String} {order : Order} {seen : Coordinator} :
    (Method.transact mac order seen).Guarded task .inside := by
  refine Method.guarded_change (fun _ => rfl) ?_
  apply Process.Guarded.say
  apply Process.Guarded.then (.request (by decide) fun _ => rfl)
  intro reply
  split
  · exact Method.guarded_change (fun _ => rfl) (Method.guarded_refresh (by decide))
  · exact Method.handle_guarded

theorem Method.lockedCommand_guarded {mac : String} {order : Order} :
    (Method.lockedCommand mac order task).Guarded task .outside := by
  refine Process.Guarded.withLock (fun _ _ => rfl) (Process.Guarded.attempt ?_ fun error => ?_)
  · apply Method.timeout_guarded
    apply Process.Guarded.get
    intro s
    split
    · exact .raise
    · exact .pure
    · exact .pure
    · exact Method.transact_guarded
  · split
    · exact Method.guarded_change (fun s => blame_commandLock s _) .raise
    · exact .raise

theorem Method.writeFailure_guarded {k : Nat} {error : ClientError} :
    (Method.writeFailure k error).Guarded task .inside := by
  unfold Method.writeFailure
  split
  · exact Method.guarded_change (fun _ => rfl) .raise
  · exact .raise
  · exact Method.guarded_change (fun _ => rfl) .raise
  · exact Method.guarded_change (fun _ => rfl) .raise
  · exact Method.guarded_change (fun _ => rfl) .raise
  · exact Method.guarded_change (fun _ => rfl) .raise

theorem Method.experimental_guarded {mac action : String} {parameters : List (String × Scalar)} :
    (Method.experimentalTransaction mac action parameters).Guarded task .inside := by
  have ask : Process.Guarded Coordinator.commandLock submits task .inside
      (Method.await (.experimental mac action parameters)) :=
    Process.Guarded.request (by decide) fun _ => rfl
  apply Process.Guarded.get
  intro s
  split
  · exact .raise
  · split
    · split
      · exact .raise
      · refine Method.guarded_change (fun _ => rfl) ?_
        apply Process.Guarded.say
        apply Process.Guarded.then ask
        intro reply
        split
        · refine Method.guarded_change (fun _ => rfl) ?_
          exact Process.Guarded.then (Method.guarded_refresh (by decide)) fun _ => .pure
        · exact Method.writeFailure_guarded
    · apply Process.Guarded.then ask
      intro reply
      split
      · exact .pure
      · exact .raise

theorem Method.tracked_guarded {body : Method Json} (inside : body.Guarded task .outside) :
    (Method.tracked task body).Guarded task .outside := by
  apply Process.Guarded.get
  intro s
  split
  · exact .raise
  · exact Method.guarded_change (fun _ => rfl) (inside.ensure fun _ => rfl)

theorem Method.lockedExperimental_guarded {mac action : String} {parameters : List (String × Scalar)} :
    (Method.lockedExperimental mac action parameters task).Guarded task .outside := by
  refine Process.Guarded.withLock (fun _ _ => rfl) (Process.Guarded.attempt ?_ fun error => ?_)
  · exact Method.timeout_guarded Method.experimental_guarded
  · split
    · split
      · exact Method.guarded_change (fun s => blame_commandLock s _) .raise
      · exact .raise
    · exact .raise

theorem program_guarded {mac : String} (operation : Operation) :
    (program mac operation task).Guarded task .outside := by
  cases operation with
  | refresh => exact Method.refresh_guarded
  | command order =>
    exact Method.tracked_guarded (Process.Guarded.then Method.lockedCommand_guarded fun _ => .pure)
  | experimental action parameters =>
    apply Process.Guarded.get
    intro s
    split
    · exact .raise
    · exact Method.tracked_guarded Method.lockedExperimental_guarded
  | unload =>
    apply Process.Guarded.get
    intro s
    refine Method.guarded_change (fun _ => rfl) ?_
    apply Process.Guarded.then
    · intro state _
      refine ⟨fun absurd => ?_, fun later stays => ⟨fun _ => rfl, fun reason => ⟨_, .same, rfl⟩⟩⟩
      cases absurd
    · exact fun _ => .pure

/-- In every order of polls, commands, experimental actions and an unload, at most one call that sends
a command is on its way to the client; the lock is held by a task that goes on, and can be taken by
the first that waits once it is free. -/
theorem coordinator_exclusive {mac : String} {machine : CloudMachine}
    (run : Reachable (coordinator mac) machine) :
    Exclusive (program mac) Coordinator.commandLock submits machine := by
  apply run.unchecked.exclusive
  · exact fun operation task => program_guarded operation
  · intro drift s
    cases drift <;> rfl
  · rintro s ⟨now, wall, rfl⟩
    rfl

/-- A poll, and a purge up to its client call. -/
def purgeAsked : List (Step face Operation) :=
  examplePoll 0 (exampleData "2001-09-09T01:46:40Z" "01" "00") ++ [.start (.command Control.purge.order)]

theorem coordinator_exclusive_example : ∃ machine,
    (coordinator "0011").follow exampleMachine purgeAsked = some machine ∧
      machine.asking? 1 = some (.call "0011" .purge) ∧
        machine.scene.shared.commandLock.holder = some 1 := by
  have shown : (((coordinator "0011").follow exampleMachine purgeAsked).map fun machine =>
      decide (machine.asking? 1 = some (.call "0011" .purge))) = some true := by decide +kernel
  obtain ⟨machine, followed, asks⟩ := Option.map_eq_some_iff.mp shown
  have run : Reachable (coordinator "0011") machine :=
    exampleMachine_run.follow (fun _ _ => trivial) followed
  exact ⟨machine, followed, of_decide_eq_true asks,
    (coordinator_exclusive run).inside 1 _ (of_decide_eq_true asks) trivial⟩

end Coordinator

end AlorairLite.Cloud
