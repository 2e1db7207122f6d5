import AlorairLite.Cloud.Evidence

/-! What one step of the cloud client can do, as a path of small moves, and what every move
keeps: the session is the one the history tells of, and the cache holds listed devices. -/

namespace AlorairLite.Cloud

open Async

/-- A POST that `_experimental_mutation` sends first when it renames a device. -/
def renames : ClientQuery → Bool
  | .http .control _ (some payload) => payload.lookup "frameType" = some (.text "29")
  | _ => false

section Judgements

variable (careful : Prop) (loads : List UInt8 → Option Json)

/-- What a task knows when it says something. -/
def Spoken (past : ClientLog) (task : Nat) : ClientRemark → Prop
  | .captured generation => generation = (endings past).length
  | .began => (∀ other, phase past ≠ .signing other) ∧ Justified task past
  | .finished _ => phase past = .signing task ∧ Justified task past
  | .joined token => ∃ owner, phase past = .closed (.succeeded token owner)
  | .refused kind message => phase past = .closed (.failed kind message)
  | .listed owner data =>
    Answered loads past task .deviceList data ∧ (phase past).session.ownerId = owner
  | .verified mac device detail owner => Verified loads past task mac device detail owner

/-- What holds when a task sends a request: it belongs to an attempt of its own, or carries
the token of the session. In careful runs a command has a token. -/
def Sent (past : ClientLog) (task : Nat) : ClientQuery → Prop
  | .encrypt => phase past = .signing task
  | .http endpoint token payload =>
    if endpoint.command then
      (phase past).session.token = token ∧ (careful → token.isSome) ∧
        ∃ body, payload = some body ∧ Authorised past task endpoint body
    else
      phase past = .signing task ∨
        endpoint ≠ .login ∧ token.isSome ∧ (phase past).session.token = token

/-- A call that was refused an attempt raises the failure it was told of. -/
def Raises {Result : Type} (task : Nat) (log : ClientLog) (result : Except Problem Result) : Prop :=
  ∀ kind message, (words task log).getLast? = some (.refused kind message) →
    ∃ error : AlorairError, result = .error (.error error) ∧ error.kind = kind ∧ error.message = message

/-- How `async_login` leaves: as the most recent attempt ended. -/
def Leaves {Result : Type} (log : ClientLog) : Except Problem Result → Prop
  | .ok _ => ∃ token owner, phase log = .closed (.succeeded token owner)
  | .error (.error error) => phase log = .closed (.failed error.kind error.message)
  | .error (.interrupted _) | .error .recursion => True

/-- What holds when a task ends. -/
structure Concluded (past : ClientLog) (task : Nat) (result : Except Problem Json) : Prop where
  login : .started task .login ∈ past → Leaves past result ∧ Raises task past result
  read : ∀ endpoint payload, .started task (.read endpoint payload) ∈ past → Raises task past result

def Judged (past : ClientLog) : ClientEvent → Prop
  | .told task remark => Spoken loads past task remark
  | .asked task query => Sent careful past task query
  | .ended task result => Concluded past task result
  | _ => True

/-- A move of this task, or of the outside world. -/
inductive Move : Option Nat → ClientScene → ClientScene → Prop where
  | event {actor : Option Nat} {scene : ClientScene} {event : ClientEvent} (silent : event.silent) :
    Move actor scene (scene.emit event)
  | start {task : Nat} {scene : ClientScene} {operation : ClientOperation}
      (fresh : Foreign task scene.log) : Move (some task) scene (scene.emit (.started task operation))
  | tell {task : Nat} {scene : ClientScene} {remark : ClientRemark}
      (spoken : Spoken loads scene.log task remark) (steady : turning (.told task remark) = false) :
    Move (some task) scene (scene.emit (.told task remark))
  | ask {task : Nat} {scene : ClientScene} {query : ClientQuery}
      (sent : Sent careful scene.log task query) : Move (some task) scene (scene.emit (.asked task query))
  | finish {task : Nat} {scene : ClientScene} {result : Except Problem Json}
      (concluded : Concluded scene.log task result) :
    Move (some task) scene (scene.emit (.ended task result))
  | aside {actor : Option Nat} {scene : ClientScene} (clock : String) (devicesLock commandLock : Lock) :
    Move actor scene (scene.change fun s : Client => { s with clock, devicesLock, commandLock })
  | enqueue {task : Nat} {scene : ClientScene} :
    Move (some task) scene (scene.change fun s : Client => s.putLoginLock (s.loginLock.enqueue task))
  | abandon {task : Nat} {scene : ClientScene} :
    Move (some task) scene (scene.change fun s : Client => s.putLoginLock (s.loginLock.abandon task))
  | acquire {task : Nat} {scene : ClientScene} (ready : scene.shared.loginLock.ready task) :
    Move (some task) scene (scene.change fun s : Client => s.putLoginLock (s.loginLock.acquire task))
  | release {task : Nat} {scene : ClientScene} (held : scene.shared.loginLock.holder = some task)
      (calm : phase scene.log ≠ .signing task) :
    Move (some task) scene (scene.change fun s : Client => s.putLoginLock s.loginLock.release)
  | begin {task : Nat} {scene : ClientScene} (held : scene.shared.loginLock.holder = some task)
      (spoken : Spoken loads scene.log task .began) :
    Move (some task) scene ((scene.change Client.reset).emit (.told task .began))
  | conclude {task : Nat} {scene : ClientScene} {ending : Ending}
      (spoken : Spoken loads scene.log task (.finished ending)) :
    Move (some task) scene ((scene.change (·.conclude ending)).emit (.told task (.finished ending)))
  | store {task : Nat} {scene : ClientScene} {devices : Devices}
      (listed : ∀ entry ∈ devices, Listed scene.log entry.1 entry.2) :
    Move (some task) scene (scene.change fun s : Client => { s with devices })

/-- What an induction over moves knows before each of them. -/
structure Orderly (scene : ClientScene) : Prop where
  session : scene.shared.session = (phase scene.log).session
  generation : scene.shared.generation = (endings scene.log).length
  held : ∀ task, phase scene.log = .signing task → scene.shared.loginLock.holder = some task
  devices : ∀ entry ∈ scene.shared.devices, Listed scene.log entry.1 entry.2
  started : ∀ task operation other, .started task operation ∈ scene.log →
    .started task other ∈ scene.log → operation = other
  history : Every (Judged careful loads) scene.log

end Judgements

variable {careful : Prop} {loads : List UInt8 → Option Json} {scene after : ClientScene}
  {actor : Option Nat}

/-- An event that begins and ends no attempt. -/
theorem Orderly.emit (orderly : Orderly careful loads scene) {event : ClientEvent}
    (steady : turning event = false) (judged : Judged careful loads scene.log event)
    (fresh : ∀ task operation, event = .started task operation → Foreign task scene.log) :
    Orderly careful loads (scene.emit event) where
  session := by
    rw [Scene.emit_shared, Scene.emit_log, phase_append, Phase.next_steady _ steady]
    exact orderly.session
  generation := by
    simp [orderly.generation, endingOf_steady steady]
  held := by
    rw [Scene.emit_log, phase_append, Phase.next_steady _ steady]
    exact orderly.held
  devices entry member := (orderly.devices entry member).mono (Contract.grows_emit scene event)
  started task operation other first second := by
    rw [Scene.emit_log] at first second
    rcases List.mem_append.mp first with old | new
    · rcases List.mem_append.mp second with old' | new'
      · exact orderly.started task operation other old old'
      · exact absurd rfl (fresh task other (List.mem_singleton.mp new').symm _ old)
    · have same := List.mem_singleton.mp new
      rcases List.mem_append.mp second with old' | new'
      · exact absurd rfl (fresh task operation same.symm _ old')
      · rw [← same] at new'
        cases List.mem_singleton.mp new'
        rfl
  history := orderly.history.append_singleton judged

/-- A change of the state that leaves the session and the devices alone. -/
theorem Orderly.frame (orderly : Orderly careful loads scene) {move : Client → Client}
    (session : (move scene.shared).session = scene.shared.session)
    (generation : (move scene.shared).generation = scene.shared.generation)
    (held : ∀ task, phase scene.log = .signing task → (move scene.shared).loginLock.holder = some task)
    (devices : ∀ entry ∈ (move scene.shared).devices, Listed scene.log entry.1 entry.2) :
    Orderly careful loads (scene.change move) where
  session := session.trans orderly.session
  generation := generation.trans orderly.generation
  held := held
  devices := devices
  started := orderly.started
  history := orderly.history

theorem Orderly.begin (orderly : Orderly careful loads scene) {task : Nat}
    (held : scene.shared.loginLock.holder = some task)
    (spoken : Spoken loads scene.log task .began) :
    Orderly careful loads ((scene.change Client.reset).emit (.told task .began)) where
  session := by
    rw [Scene.emit_log, phase_append]
    rfl
  generation := by
    have same : (Client.reset scene.shared).generation = scene.shared.generation := rfl
    simp [same, orderly.generation, endingOf]
  held other signing := by
    rw [Scene.emit_log, phase_append] at signing
    cases signing
    exact held
  devices entry member := by cases member
  started other operation operation' first second := by
    simp only [Scene.emit_log, Scene.change_log, List.mem_append, List.mem_singleton, reduceCtorEq,
      or_false] at first second
    exact orderly.started other operation operation' first second
  history := orderly.history.append_singleton spoken

theorem Orderly.conclude (orderly : Orderly careful loads scene) {task : Nat} {ending : Ending}
    (spoken : Spoken loads scene.log task (.finished ending)) :
    Orderly careful loads ((scene.change (·.conclude ending)).emit (.told task (.finished ending))) where
  session := by
    have clean : scene.shared.session = {} := by
      rw [orderly.session, spoken.1]
      rfl
    obtain ⟨token, owner, failure⟩ := Session.mk.inj clean
    rw [Scene.emit_log, phase_append]
    cases ending with
    | succeeded token' owner' => simp [Client.session, Client.conclude, Phase.next, Phase.session,
        Ending.session, failure]
    | failed kind message => simp [Client.session, Client.conclude, Phase.next, Phase.session,
        Ending.session, token, owner]
    | cancelled => simp [Client.session, Client.conclude, Phase.next, Phase.session, Ending.session,
        token, owner, failure]
  generation := by
    have counted : (scene.shared.conclude ending).generation = scene.shared.generation + 1 := by
      cases ending <;> rfl
    simp [counted, orderly.generation, endingOf]
  held other signing := by
    rw [Scene.emit_log, phase_append] at signing
    cases signing
  devices entry member := by
    have same : (scene.shared.conclude ending).devices = scene.shared.devices := by
      cases ending <;> rfl
    have old : entry ∈ scene.shared.devices := same ▸ member
    exact (orderly.devices entry old).mono ⟨[_], rfl⟩
  started other operation operation' first second := by
    simp only [Scene.emit_log, Scene.change_log, List.mem_append, List.mem_singleton, reduceCtorEq,
      or_false] at first second
    exact orderly.started other operation operation' first second
  history := orderly.history.append_singleton spoken

theorem silent_steady {event : ClientEvent} (silent : event.silent) : turning event = false := by
  cases event with
  | told task remark => cases silent
  | _ => rfl

theorem silent_judged {event : ClientEvent} {past : ClientLog} (silent : event.silent) :
    Judged careful loads past event := by
  cases event with
  | told task remark => cases silent
  | asked task query => cases silent
  | ended task result => cases silent
  | _ => trivial

/-- Every move keeps the client orderly. -/
theorem Move.orderly (move : Move careful loads actor scene after)
    (orderly : Orderly careful loads scene) : Orderly careful loads after := by
  cases move with
  | event silent =>
    apply orderly.emit (silent_steady silent) (silent_judged silent)
    rintro task operation rfl
    cases silent
  | @start task _ operation fresh =>
    have judged : Judged careful loads scene.log (.started task operation) := trivial
    apply orderly.emit rfl judged
    rintro task operation ⟨⟩
    exact fresh
  | @tell task _ remark spoken steady =>
    have judged : Judged careful loads scene.log (.told task remark) := spoken
    apply orderly.emit steady judged
    rintro task operation ⟨⟩
  | @ask task _ query sent =>
    have judged : Judged careful loads scene.log (.asked task query) := sent
    apply orderly.emit rfl judged
    rintro task operation ⟨⟩
  | @finish task _ result concluded =>
    have judged : Judged careful loads scene.log (.ended task result) := concluded
    apply orderly.emit rfl judged
    rintro task operation ⟨⟩
  | aside clock devicesLock commandLock => exact orderly.frame rfl rfl orderly.held orderly.devices
  | enqueue => exact orderly.frame rfl rfl orderly.held orderly.devices
  | abandon => exact orderly.frame rfl rfl orderly.held orderly.devices
  | @acquire task _ ready =>
    apply orderly.frame rfl rfl ?_ orderly.devices
    intro other signing
    have free : scene.shared.loginLock.holder = none := by
      simp only [Lock.ready, Bool.and_eq_true, decide_eq_true_eq] at ready
      exact ready.1
    rw [orderly.held other signing] at free
    cases free
  | @release task _ held calm =>
    apply orderly.frame rfl rfl ?_ orderly.devices
    intro other signing
    have same : some other = some task := (orderly.held other signing).symm.trans held
    cases same
    exact absurd signing calm
  | begin held spoken => exact orderly.begin held spoken
  | conclude spoken => exact orderly.conclude spoken
  | store listed => exact orderly.frame rfl rfl orderly.held listed

theorem Move.log (move : Move careful loads actor scene after) :
    ∃ events, after.log = scene.log ++ events := by
  cases move with
  | aside | enqueue | abandon | acquire | release | store => exact ⟨[], (List.append_nil _).symm⟩
  | _ => exact ⟨[_], rfl⟩

/-- The answer that lets a rename send its second request. -/
def confirmsRename (loads : List UInt8 → Option Json) : Sigma ClientQuery.Answer → Prop
  | ⟨.http endpoint token payload, reply⟩ =>
    renames (.http endpoint token payload) ∧ ∃ data, received loads true reply = .ok data
  | _ => False

/-- The outside world may do anything; in careful runs there is a token when a rename goes
on to its second request. -/
def moves (careful : Prop) (loads : List UInt8 → Option Json) :
    Practice clientFace ClientOperation (Except Problem Json) where
  change := Move careful loads
  invariant := Orderly careful loads
  delivers scene _ reply := careful → confirmsRename loads reply → scene.shared.token.isSome
  interrupts _ _ _ := True
  drifts _ _ := True
  ends task result scene := Concluded scene.log task result
  kept := Move.orderly
  grows := Move.log
  event := Move.event
  started _ := Move.start
  ended := Move.finish
  drifted := fun {scene passing} _ =>
    .aside passing.clock scene.shared.devicesLock scene.shared.commandLock

end AlorairLite.Cloud
