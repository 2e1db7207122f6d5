import AlorairLite.Async.History
import AlorairLite.Async.Practice
import AlorairLite.Cloud.Client
import Mathlib.Data.List.Induction

/-! What a history of the client says about its session: how far the attempts to log in have
got and how they ended, and what each task has said so far. -/

namespace AlorairLite.Cloud

open Async

abbrev ClientScene := Scene clientFace ClientOperation (Except Problem Json)

abbrev ClientEvent := Event clientFace ClientOperation (Except Problem Json)

abbrev ClientLog := List ClientEvent

def endingOf : ClientEvent → Option Ending
  | .told _ (.finished ending) => some ending
  | _ => none

/-- How the attempts ended that are over. -/
def endings (log : ClientLog) : List Ending := log.filterMap endingOf

def wordOf (task : Nat) : ClientEvent → Option ClientRemark
  | .told teller remark => if teller = task then some remark else none
  | _ => none

/-- What this task said. -/
def words (task : Nat) (log : ClientLog) : List ClientRemark := log.filterMap (wordOf task)

def ClientRemark.generation? : ClientRemark → Option Nat
  | .captured generation => some generation
  | _ => none

/-- The generations this task captured. -/
def captures (task : Nat) (log : ClientLog) : List Nat :=
  (words task log).filterMap ClientRemark.generation?

/-- The generation this task captured last. -/
def captured (task : Nat) (log : ClientLog) : Option Nat := (captures task log).getLast?

@[simp] theorem endings_append (log later : ClientLog) :
    endings (log ++ later) = endings log ++ endings later := List.filterMap_append

@[simp] theorem endings_cons (event : ClientEvent) (log : ClientLog) :
    endings (event :: log) = (endingOf event).toList ++ endings log := by
  unfold endings
  cases found : endingOf event with
  | none => simp [found]
  | some ending => simp [found]

@[simp] theorem endings_nil : endings [] = [] := rfl

@[simp] theorem words_append (task : Nat) (log later : ClientLog) :
    words task (log ++ later) = words task log ++ words task later := List.filterMap_append

@[simp] theorem words_cons (task : Nat) (event : ClientEvent) (log : ClientLog) :
    words task (event :: log) = (wordOf task event).toList ++ words task log := by
  unfold words
  cases found : wordOf task event with
  | none => simp [found]
  | some remark => simp [found]

@[simp] theorem words_nil (task : Nat) : words task [] = [] := rfl

@[simp] theorem captures_append (task : Nat) (log later : ClientLog) :
    captures task (log ++ later) = captures task log ++ captures task later := by
  simp [captures]

/-- What the client keeps of its session. -/
structure Session where
  token : Option String := none
  ownerId : Option String := none
  failure : Option (ErrorClass × String) := none
deriving DecidableEq

def Client.session (s : Client) : Session := ⟨s.token, s.ownerId, s.failure⟩

/-- The session that an attempt leaves. -/
def Ending.session : Ending → Session
  | .succeeded token owner => { token := some token, ownerId := some owner }
  | .failed kind message => { failure := some (kind, message) }
  | .cancelled => {}

/-- How far the attempts have got. -/
inductive Phase where
  | idle
  | signing (task : Nat)
  | closed (ending : Ending)
deriving DecidableEq

namespace Phase

def next (phase : Phase) : ClientEvent → Phase
  | .told task .began => .signing task
  | .told _ (.finished ending) => .closed ending
  | _ => phase

def session : Phase → Session
  | .closed ending => ending.session
  | _ => {}

end Phase

namespace Phase

/-- A token is that of an attempt that succeeded. -/
theorem succeeded {phase : Phase} {token : String} (present : phase.session.token = some token) :
    ∃ owner, phase = .closed (.succeeded token owner) := by
  cases phase with
  | closed ending =>
    cases ending with
    | succeeded token' owner =>
      cases present
      exact ⟨owner, rfl⟩
    | _ => cases present
  | _ => cases present

theorem owned {phase : Phase} {owner : String} (present : phase.session.ownerId = some owner) :
    ∃ token, phase = .closed (.succeeded token owner) := by
  cases phase with
  | closed ending =>
    cases ending with
    | succeeded token owner' =>
      cases present
      exact ⟨token, rfl⟩
    | _ => cases present
  | _ => cases present

theorem failed {phase : Phase} {kind : ErrorClass} {message : String}
    (stored : phase.session.failure = some (kind, message)) : phase = .closed (.failed kind message) := by
  cases phase with
  | closed ending =>
    cases ending with
    | failed kind' message' =>
      cases stored
      rfl
    | _ => cases stored
  | _ => cases stored

end Phase

def phase (log : ClientLog) : Phase := log.foldl Phase.next .idle

/-- The beginning or the end of an attempt. -/
def turning : ClientEvent → Bool
  | .told _ .began | .told _ (.finished _) => true
  | _ => false

theorem phase_append (log : ClientLog) (event : ClientEvent) :
    phase (log ++ [event]) = (phase log).next event := by
  simp [phase]

theorem Phase.next_steady (phase : Phase) {event : ClientEvent} (steady : turning event = false) :
    phase.next event = phase := by
  unfold turning at steady
  split at steady
  · cases steady
  · cases steady
  · rename_i began finished
    unfold Phase.next
    split
    · exact absurd rfl (began _)
    · exact absurd rfl (finished _ _)
    · rfl

theorem endingOf_steady {event : ClientEvent} (steady : turning event = false) :
    endingOf event = none := by
  unfold endingOf
  split
  · cases steady
  · rfl

theorem endings_of_phase (log : ClientLog) :
    (phase log = .idle → endings log = []) ∧
      ∀ ending, phase log = .closed ending → (endings log).getLast? = some ending := by
  induction log using List.reverseRecOn with
  | nil =>
    refine ⟨fun _ => rfl, ?_⟩
    rintro ending ⟨⟩
  | append_singleton log event ih =>
    rw [phase_append]
    cases steady : turning event with
    | false =>
      rw [Phase.next_steady _ steady]
      simpa [endingOf_steady steady] using ih
    | true =>
      unfold turning at steady
      split at steady
      · simp [Phase.next]
      · simp [Phase.next, endingOf]
      · cases steady

/-- An attempt that goes on has begun. -/
theorem began_of_phase {log : ClientLog} {task : Nat} (going : phase log = .signing task) :
    ∃ before between, log = before ++ .told task .began :: between ∧
      ∀ ending, .told task (.finished ending) ∉ between := by
  induction log using List.reverseRecOn with
  | nil => cases going
  | append_singleton log event ih =>
    rw [phase_append] at going
    cases steady : turning event with
    | false =>
      rw [Phase.next_steady _ steady] at going
      obtain ⟨before, between, rfl, open_⟩ := ih going
      refine ⟨before, between ++ [event], by simp, fun ending member => ?_⟩
      rcases List.mem_append.mp member with earlier | last
      · exact open_ ending earlier
      · cases List.mem_singleton.mp last
        cases steady
    | true =>
      unfold turning at steady
      split at steady
      · cases going
        exact ⟨log, [], rfl, by simp⟩
      · cases going
      · cases steady

theorem captured_of_split {task generation : Nat} {before between : ClientLog}
    (silent : captures task between = []) :
    captured task (before ++ .told task (.captured generation) :: between) = some generation := by
  have single : captures task [.told task (.captured generation)] = [generation] := by
    simp [captures, wordOf, ClientRemark.generation?]
  have regrouped : before ++ .told task (.captured generation) :: between =
      before ++ [.told task (.captured generation)] ++ between := by simp
  rw [regrouped, captured, captures_append, captures_append, single, silent, List.append_nil,
    List.getLast?_concat]

/-- No attempt finished since the task captured a generation, or the latest was cancelled. -/
def Justified (task : Nat) (past : ClientLog) : Prop :=
  ∃ generation before between, past = before ++ .told task (.captured generation) :: between ∧
    captures task between = [] ∧ (endings between = [] ∨ (endings past).getLast? = some .cancelled)

theorem Justified.append {task : Nat} {past : ClientLog} (justified : Justified task past)
    {event : ClientEvent} (silent : captures task [event] = []) (open_ : endingOf event = none) :
    Justified task (past ++ [event]) := by
  obtain ⟨generation, before, between, rfl, last, cause⟩ := justified
  refine ⟨generation, before, between ++ [event], by simp, by simp [last, silent], ?_⟩
  rcases cause with none | cancelled
  · exact .inl (by simp [none, open_])
  · exact .inr (by simpa [open_] using cancelled)

theorem generation_captured {remark : ClientRemark} {generation : Nat}
    (found : remark.generation? = some generation) : remark = .captured generation := by
  cases remark with
  | captured number => exact congrArg _ (Option.some.inj found)
  | _ => cases found

theorem wordOf_told {task : Nat} {event : ClientEvent} {remark : ClientRemark}
    (found : wordOf task event = some remark) : event = .told task remark := by
  cases event with
  | told teller other =>
    simp only [wordOf] at found
    split at found
    · rename_i same
      rw [same, Option.some.inj found]
    · cases found
  | _ => cases found

theorem captures_single {task generation : Nat} {event : ClientEvent} {rest : List Nat}
    (found : captures task [event] = generation :: rest) :
    event = .told task (.captured generation) := by
  cases said : wordOf task event with
  | none => simp [captures, said] at found
  | some remark =>
    cases number : remark.generation? with
    | none => simp [captures, said, number] at found
    | some other =>
      have same : other = generation := by simpa [captures, said, number] using congrArg List.head? found
      rw [wordOf_told said, generation_captured number, same]

/-- The place of the last capture. -/
theorem captured_split {task generation : Nat} {log : ClientLog}
    (last : captured task log = some generation) :
    ∃ before between, log = before ++ .told task (.captured generation) :: between ∧
      captures task between = [] := by
  induction log using List.reverseRecOn with
  | nil => cases last
  | append_singleton log event ih =>
    cases own : captures task [event] with
    | nil =>
      have earlier : captured task log = some generation := by simpa [captured, own] using last
      obtain ⟨before, between, rfl, silent⟩ := ih earlier
      exact ⟨before, between ++ [event], by simp, by simp [silent, own]⟩
    | cons found rest =>
      have here := captures_single own
      subst here
      have same : found = generation := by
        simpa [captured, captures, wordOf, ClientRemark.generation?] using last
      exact ⟨log, [], by rw [same], rfl⟩

end AlorairLite.Cloud
