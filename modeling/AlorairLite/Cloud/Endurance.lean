import AlorairLite.Cloud.Move
import AlorairLite.Cloud.Renewal

/-! Status calls over a vendor that lets a token expire: whatever they do in turns, every attempt
to log in succeeds, and the token of a second one is issued after the first was refused. -/

namespace AlorairLite.Cloud

open Async

section Judgements

variable {mac : String} (home : Household mac) (library : Library)

/-- A status call has returned what the vendor shows. -/
def Household.Shown (result : Except Problem Json) : Prop :=
  ∃ clock, result = .ok (.dict (home.shown ++ [("observed_at_utc", .text clock)]))

/-- What a task knows when it says or asks something, and when it ends. -/
def Household.Mends (past : ClientLog) : ClientEvent → Prop
  | .told _ .began => endings past = [] ∨ TokenRefused library past
  | .told _ (.finished ending) => ∃ token, ending = .succeeded token home.owner ∧ usableToken token ∧
      Issued library past token ∧ (endings past = [] ∨ Renewed library past token)
  | .asked _ (.http endpoint token _) =>
      endpoint = .login ∨ endpoint = .userInfo ∨ ∃ text, token = some text ∧ Issued library past text
  | .ended _ result => home.Shown result
  | _ => True

/-- What the vendor answers, as far as the history tells. -/
def Household.Replies (past : ClientLog) : Sigma ClientQuery.Answer → Prop
  | ⟨.encrypt, (password : Option String)⟩ => password.isSome
  | ⟨.http endpoint token payload, reply⟩ =>
    if endpoint = .login then ∃ data token, Accepts library reply data ∧ Call.loginToken data = .ok token
    else Accepts library reply (home.shows endpoint payload) ∨ endpoint ≠ .userInfo ∧ Refuses library reply ∧
      ∀ text, token = some text → ¬ Renewed library past text

/-- The reply to what the task asked last is there, and it is such an answer. -/
def Household.Arrived (log : ClientLog) (task : Nat) (reply : Sigma ClientQuery.Answer) : Prop :=
  ∃ past future, log = past ++ .answered task reply :: future ∧ (∀ query, .asked task query ∉ future) ∧
    home.Replies library past reply

/-- What is taken in does not depend on an owner id that is not there. -/
def Household.Owns (s : Client) : Sigma ClientQuery.Answer → Prop
  | ⟨.http endpoint _ payload, reply⟩ => Accepts library reply (home.shows endpoint payload) →
    home.OwnerMatters endpoint payload → s.ownerId.isSome
  | _ => True

/-- A move of a status call, or of the outside world. -/
inductive Stride : Option Nat → ClientScene → ClientScene → Prop where
  | event {actor : Option Nat} {scene : ClientScene} {event : ClientEvent} (silent : event.silent) :
    Stride actor scene (scene.emit event)
  | say {task : Nat} {scene : ClientScene} {event : ClientEvent} (own : event.task? = some task)
      (steady : turning event = false) (mends : home.Mends library scene.log event) :
    Stride (some task) scene (scene.emit event)
  | aside {actor : Option Nat} {scene : ClientScene} (clock : String) (devicesLock commandLock : Lock) :
    Stride actor scene (scene.change fun s : Client => { s with clock, devicesLock, commandLock })
  | lock {task : Nat} {scene : ClientScene} (change : Lock → Lock)
      (holds : ∀ other, scene.shared.loginLock.holder = some other → phase scene.log = .signing other →
        (change scene.shared.loginLock).holder = some other) :
    Stride (some task) scene (scene.change fun s : Client => s.putLoginLock (change s.loginLock))
  | begin {task : Nat} {scene : ClientScene} (held : scene.shared.loginLock.holder = some task)
      (idle : ∀ other, phase scene.log ≠ .signing other) (mends : home.Mends library scene.log (.told task .began)) :
    Stride (some task) scene ((scene.change Client.reset).emit (.told task .began))
  | conclude {task : Nat} {scene : ClientScene} {token : String} (signing : phase scene.log = .signing task)
      (mends : home.Mends library scene.log (.told task (.finished (.succeeded token home.owner)))) :
    Stride (some task) scene ((scene.change (·.conclude (.succeeded token home.owner))).emit
      (.told task (.finished (.succeeded token home.owner))))
  | store {task : Nat} {scene : ClientScene} :
    Stride (some task) scene (scene.change fun s : Client => { s with devices := home.devices })

/-- What an induction over strides knows before each of them. -/
structure Hale (scene : ClientScene) : Prop where
  session : scene.shared.session = (phase scene.log).session
  generation : scene.shared.generation = (endings scene.log).length
  held : ∀ task, phase scene.log = .signing task → scene.shared.loginLock.holder = some task
  devices : scene.shared.devices = [] ∨ scene.shared.devices = home.devices
  history : Every (home.Mends library) scene.log

end Judgements

variable {mac : String} {home : Household mac} {library : Library} {actor : Option Nat} {scene after : ClientScene}
  {task : Nat}

theorem Hale.emit (hale : Hale home library scene) {event : ClientEvent} (steady : turning event = false)
    (mends : home.Mends library scene.log event) : Hale home library (scene.emit event) where
  session := by
    rw [Scene.emit_shared, Scene.emit_log, phase_append, Phase.next_steady _ steady]
    exact hale.session
  generation := by
    simp [hale.generation, endingOf_steady steady]
  held := by
    rw [Scene.emit_log, phase_append, Phase.next_steady _ steady]
    exact hale.held
  devices := hale.devices
  history := hale.history.append_singleton mends

theorem silent_mends {event : ClientEvent} {past : ClientLog} (silent : event.silent) :
    home.Mends library past event := by
  cases event with
  | told task remark => cases silent
  | asked task query => cases silent
  | ended task result => cases silent
  | _ => trivial

/-- Every stride keeps the client hale. -/
theorem Stride.hale (stride : Stride home library actor scene after) (hale : Hale home library scene) :
    Hale home library after := by
  cases stride with
  | event silent => exact hale.emit (silent_steady silent) (silent_mends silent)
  | say own steady mends => exact hale.emit steady mends
  | aside clock devicesLock commandLock => exact ⟨hale.session, hale.generation, hale.held, hale.devices, hale.history⟩
  | lock change holds =>
    refine ⟨hale.session, hale.generation, fun other signing => ?_, hale.devices, hale.history⟩
    exact holds other (hale.held other signing) signing
  | @begin task _ held idle mends =>
    refine ⟨?_, ?_, fun other signing => ?_, .inl rfl, hale.history.append_singleton mends⟩
    · rw [Scene.emit_log, phase_append]
      rfl
    · have same : (Client.reset scene.shared).generation = scene.shared.generation := rfl
      simp [same, hale.generation, endingOf]
    · rw [Scene.emit_log, phase_append] at signing
      cases signing
      exact held
  | @conclude task _ token signing mends =>
    refine ⟨?_, ?_, fun other signs => ?_, hale.devices, hale.history.append_singleton mends⟩
    · have clean : scene.shared.session = {} := by
        rw [hale.session, signing]
        rfl
      obtain ⟨-, -, failure⟩ := Session.mk.inj clean
      rw [Scene.emit_log, phase_append]
      simp [Client.session, Client.conclude, Phase.next, Phase.session, Ending.session, failure]
    · have counted : (scene.shared.conclude (.succeeded token home.owner)).generation =
          scene.shared.generation + 1 := rfl
      simp [counted, hale.generation, endingOf]
    · rw [Scene.emit_log, phase_append] at signs
      cases signs
  | store => exact ⟨hale.session, hale.generation, hale.held, .inr rfl, hale.history⟩

theorem Stride.log (stride : Stride home library actor scene after) :
    ∃ events, after.log = scene.log ++ events := by
  cases stride with
  | aside | lock | store => exact ⟨[], (List.append_nil _).symm⟩
  | _ => exact ⟨[_], rfl⟩

/-- Status calls of this device over such a vendor. -/
def strides (home : Household mac) (library : Library) :
    Practice clientFace ClientOperation (Except Problem Json) where
  change := Stride home library
  invariant := Hale home library
  starts _ operation := operation = .status mac
  delivers scene task reply := home.Arrived library scene.log task reply ∧ home.Owns library scene.shared reply
  interrupts _ _ _ := False
  drifts _ _ := True
  ends _ result _ := home.Shown result
  kept := Stride.hale
  grows := Stride.log
  event := Stride.event
  started _ _ := .say rfl rfl trivial
  ended shown := .say rfl rfl shown
  drifted := fun {scene passing} _ =>
    .aside passing.clock scene.shared.devicesLock scene.shared.commandLock

end AlorairLite.Cloud
