import AlorairLite.Async.Layer
import AlorairLite.Cloud.Liveness
import AlorairLite.Cloud.Recovery

/-! Status calls over a vendor whose token expires: in every order of the steps the vendor only
refuses tokens that it issued before. -/

namespace AlorairLite.Cloud

open Async

variable {mac : String} {home : Household mac} {library : Library} {account : Account} {log : ClientLog}
  {vendor : Vendor} {task : Nat}

/-- What the history tells of the tokens of the vendor. -/
structure Tokened (library : Library) (vendor : Vendor) (log : ClientLog) : Prop where
  issued : ∀ token, Issued library log token → token ∈ vendor.valid ∨ vendor.expired
  refused : TokenRefused library log → vendor.expired
  renewed : ∀ token, Renewed library log token → token ∈ vendor.valid

theorem Tokened.nil : Tokened library {} [] where
  issued token had := by
    obtain ⟨task, reply, member, -⟩ := had
    cases member
  refused refused := by
    obtain ⟨task, endpoint, token, payload, reply, member, -⟩ := refused
    cases member
  renewed token renewed := by
    obtain ⟨before, task, reply, after, split, -⟩ := renewed
    simp at split

/-- Only the answers of the vendor matter. -/
theorem Tokened.aside {event : ClientEvent} (tokened : Tokened library vendor log)
    (other : ∀ task reply, event ≠ .answered task reply) : Tokened library vendor (log ++ [event]) := by
  have old : ∀ {task reply}, (.answered task reply : ClientEvent) ∈ log ++ [event] → .answered task reply ∈ log := by
    intro task reply member
    rcases List.mem_append.mp member with before | last
    · exact before
    · exact absurd (List.mem_singleton.mp last).symm (other task reply)
  constructor
  · rintro token ⟨task, reply, member, gave⟩
    exact tokened.issued token ⟨task, reply, old member, gave⟩
  · rintro ⟨task, endpoint, token, payload, reply, member, facts⟩
    exact tokened.refused ⟨task, endpoint, token, payload, reply, old member, facts⟩
  · rintro token ⟨before, task, reply, after, split, facts⟩
    rcases split_append_singleton split with ⟨rest, -, earlier⟩ | ⟨-, -, last⟩
    · exact tokened.renewed token ⟨before, task, reply, rest, earlier, facts⟩
    · exact absurd last (other task reply)

theorem Tokened.said {events : ClientLog} (tokened : Tokened library vendor log)
    (said : ∀ event ∈ events, event.Said) : Tokened library vendor (log ++ events) := by
  induction events generalizing log with
  | nil => simpa using tokened
  | cons event rest ih =>
    rw [List.append_cons]
    apply ih (tokened.aside _) fun other member => said other (List.mem_cons_of_mem _ member)
    rintro task reply rfl
    exact said _ List.mem_cons_self

/-- The only expiry comes before the vendor refuses anything. -/
theorem Tokened.expire (tokened : Tokened library vendor log) (fresh : vendor.expired = false) :
    Tokened library vendor.expire log where
  issued _ _ := .inr rfl
  refused _ := rfl
  renewed token renewed := by
    obtain ⟨before, task, reply, after, split, -, refused⟩ := renewed
    have expired := tokened.refused (refused.mono ⟨_, split.symm⟩)
    rw [fresh] at expired
    cases expired

/-- No reply both accepts and refuses. -/
theorem Accepts.exclusive {reply : HttpReply} {data : Json} (accepts : Accepts library reply data) :
    ¬ Refuses library reply := by
  rintro ⟨entries, code, object, found, large⟩
  obtain ⟨entries', object', code', -⟩ := accepts
  rw [object] at object'
  cases object'
  rw [found] at code'
  cases code'
  exact absurd large (by decide)

theorem Vendor.answered_valid (vendor : Vendor) (reply : Sigma ClientQuery.Answer) :
    (vendor.answered library reply).expired = vendor.expired ∧
      (∀ token ∈ vendor.valid, token ∈ (vendor.answered library reply).valid) ∧
        ∀ token, issued library reply = some token → token ∈ (vendor.answered library reply).valid := by
  unfold Vendor.answered
  cases issued library reply with
  | none => exact ⟨rfl, fun _ member => member, nofun⟩
  | some token =>
    refine ⟨rfl, fun _ member => List.mem_cons_of_mem _ member, ?_⟩
    rintro _ ⟨⟩
    exact List.mem_cons_self

/-- The token that an answer gives is valid. -/
theorem Tokened.answered {reply : Sigma ClientQuery.Answer} (tokened : Tokened library vendor log)
    (refusing : ∀ endpoint token payload, ∀ answer : HttpReply, reply = ⟨.http endpoint token payload, answer⟩ →
      endpoint ≠ .login → endpoint ≠ .userInfo → Refuses library answer → vendor.expired) :
    Tokened library (vendor.answered library reply) (log ++ [.answered task reply]) := by
  obtain ⟨same, kept, new⟩ := vendor.answered_valid reply
  constructor
  · rintro token ⟨other, given, member, gave⟩
    rcases List.mem_append.mp member with before | last
    · rw [same]
      exact (tokened.issued token ⟨other, given, before, gave⟩).imp_left (kept token)
    · cases List.mem_singleton.mp last
      exact .inl (new token gave)
  · rintro ⟨other, endpoint, token, payload, answer, member, plain, plain', refuses⟩
    rw [same]
    rcases List.mem_append.mp member with before | last
    · exact tokened.refused ⟨other, endpoint, token, payload, answer, before, plain, plain', refuses⟩
    · cases List.mem_singleton.mp last
      exact refusing endpoint token payload answer rfl plain plain' refuses
  · rintro token ⟨before, other, given, after, split, gave, refused⟩
    rcases split_append_singleton split with ⟨rest, -, earlier⟩ | ⟨-, -, last⟩
    · exact kept token (tokened.renewed token ⟨before, other, given, rest, earlier, gave, refused⟩)
    · cases last
      exact new token gave

/-- The vendor answers as the history tells, and refuses only after the expiry. -/
theorem Household.Answers.replies {reply : Sigma ClientQuery.Answer} (tokened : Tokened library vendor log)
    (mended : Every (home.Mends library) log) (asked : .asked task reply.1 ∈ log)
    (answers : home.Answers library vendor.valid reply)
    (calm : ∀ token payload, ∀ answer : HttpReply, reply = ⟨.http .userInfo token payload, answer⟩ →
      token.any (· ∈ vendor.valid)) :
    home.Replies library log reply ∧
      ∀ endpoint token payload, ∀ answer : HttpReply, reply = ⟨.http endpoint token payload, answer⟩ →
        endpoint ≠ .login → endpoint ≠ .userInfo → Refuses library answer → vendor.expired := by
  obtain ⟨query, answer⟩ := reply
  cases query with
  | encrypt => exact ⟨answers, nofun⟩
  | http endpoint token payload =>
    simp only [Household.Answers] at answers
    by_cases login : endpoint = .login
    · rw [if_pos login] at answers
      refine ⟨(if_pos login).mpr answers, ?_⟩
      rintro _ _ _ _ ⟨⟩ other
      exact absurd login other
    rw [if_neg login] at answers
    by_cases valid : token.any (· ∈ vendor.valid)
    · rw [if_pos valid] at answers
      refine ⟨(if_neg login).mpr (.inl answers), ?_⟩
      rintro _ _ _ _ ⟨⟩ - - refuses
      exact absurd refuses answers.exclusive
    · rw [if_neg valid] at answers
      refine ⟨(if_neg login).mpr (.inr ⟨?_, answers, ?_⟩), ?_⟩
      · rintro rfl
        exact valid (calm token payload answer rfl)
      · rintro text rfl renewed
        exact valid (by simpa using tokened.renewed text renewed)
      · rintro _ _ _ _ ⟨⟩ - account -
        obtain ⟨past, future, split, mends⟩ := mended.of_mem asked
        rcases mends with same | same | ⟨text, rfl, had⟩
        · exact absurd same login
        · exact absurd same account
        · rcases tokened.issued text (had.mono ⟨_, split.symm⟩) with there | expired
          · exact absurd (by simpa using there) valid
          · exact expired

section Worlds

variable {state after : World}

/-- The vendor answers as the history before tells. -/
def Household.Replied (home : Household mac) (library : Library) (past : ClientLog) : ClientEvent → Prop
  | .answered _ reply => home.Replies library past reply
  | _ => True

/-- What the client and the vendor keep. -/
structure Tended (home : Household mac) (library : Library) (state : World) : Prop where
  kept : (statusContract home library).Kept state.client
  unstarted : Unstarted state.client
  spoken : Async.Spoken state.client
  replied : Every (home.Replied library) state.client.scene.log
  tokened : Tokened library state.vendor state.client.scene.log

theorem Tended.initial (initial : (world library account).initial state) : Tended home library state := by
  obtain ⟨client, vendor⟩ := state
  obtain ⟨⟨shared, ⟨clock, rfl⟩, rfl⟩, rfl⟩ := initial
  have hale : Hale home library { shared := { clock } } := ⟨rfl, rfl, nofun, .inl rfl, .nil⟩
  exact ⟨Contract.Kept.start hale, fun _ _ => rfl, nofun, .nil, .nil⟩

/-- A task that goes on with a reply asked for it last. -/
theorem Tended.arrived {held : Task clientFace (Except Problem Json)} {reply : Sigma ClientQuery.Answer}
    (tended : Tended home library state) (found : state.client.tasks task = some held)
    (has : held.answer = some reply) (open_ : ∀ result, held.code ≠ .done result) :
    home.Arrived library state.client.scene.log task reply := by
  rcases tended.kept.held task held found with ⟨result, done⟩ | ⟨since, awaiting, -⟩
  · exact absurd done (open_ result)
  · obtain ⟨before, later, -, foreign, log⟩ := awaiting.log
    rw [has] at log
    have split : state.client.scene.log = since.log ++ before ++ .answered task reply :: later := by
      rw [log]
      simp
    exact ⟨since.log ++ before, later, split, fun query member => foreign _ member rfl,
      tended.replied _ _ _ split⟩

theorem Tended.allows {label : Step clientFace ClientOperation} {client : ClientMachine}
    (tended : Tended home library state) (faithful : home.Faithful library state (.client label))
    (calm : home.Calm library state (.client label))
    (taken : Machine.step (clientProgram library account) state.client label = some client) :
    (statusContract home library).allows state.client label := by
  cases label with
  | start operation => exact faithful
  | answer task reply => trivial
  | resume task =>
    intro held reply found has
    have open_ : ∀ result, held.code ≠ .done result := by
      obtain ⟨code, answer⟩ := held
      rintro result ⟨⟩
      simp [Machine.step, Machine.resume, found] at taken
    refine ⟨tended.arrived found has open_, ?_⟩
    obtain ⟨query, answer⟩ := reply
    cases query with
    | encrypt => trivial
    | http endpoint token payload => exact calm held endpoint token payload answer found has
  | interrupt task reason => exact faithful
  | drift drift => trivial

theorem Tended.step {label : WorldStep} (tended : Tended home library state)
    (faithful : home.Faithful library state label) (calm : home.Calm library state label)
    (taken : (world library account).step state label = some after) : Tended home library after := by
  cases label with
  | expire =>
    simp only [world] at taken
    split at taken
    · cases taken
    · rename_i current
      cases taken
      rw [Bool.or_eq_true, not_or] at current
      exact { tended with tokened := tended.tokened.expire (Bool.eq_false_iff.mpr current.1) }
  | client label =>
    obtain ⟨client, went, rfl⟩ := Option.map_eq_some_iff.mp taken
    have moved : Machine.step (clientProgram library account) state.client label = some client := went
    have stepped := Machine.step_moved tended.unstarted moved
    obtain ⟨event, events, log, caused, said⟩ := Machine.step_added moved
    have first : home.Replied library state.client.scene.log event ∧
        Tokened library (state.vendor.after library label) (state.client.scene.log ++ [event]) := by
      cases caused with
      | @answer task reply =>
        have valid : ∀ token payload, ∀ answer : HttpReply, reply = ⟨.http .userInfo token payload, answer⟩ →
            token.any (· ∈ state.vendor.valid) := by
          rintro token payload answer rfl
          exact calm
        obtain ⟨replies, refusing⟩ := Household.Answers.replies tended.tokened tended.kept.invariant.history
          (tended.spoken.answered moved) faithful valid
        exact ⟨replies, tended.tokened.answered refusing⟩
      | _ => exact ⟨trivial, tended.tokened.aside (by simp)⟩
    refine ⟨(tended.kept.step statuses_meet (tended.allows faithful calm moved) moved).1,
      stepped.unstarted tended.unstarted, stepped.spoken tended.spoken, ?_, ?_⟩
    · rw [log, List.append_cons]
      refine (tended.replied.append_singleton first.1).append_free fun other member past => ?_
      cases other with
      | answered task reply => exact (said _ member).elim
      | _ => trivial
    · rw [log, List.append_cons]
      exact first.2.said said

/-- A step of this vendor under which all calls survive. -/
def Household.Gentle (home : Household mac) (library : Library) (state : World) (step : WorldStep) : Prop :=
  home.Faithful library state step ∧ home.Calm library state step

theorem Tended.of_run (run : Run (world library account) (home.Gentle library) state) : Tended home library state :=
  run.invariant (Tended home library) (fun _ initial => .initial initial)
    fun _ _ _ _ tended gentle taken => tended.step gentle.1 gentle.2 taken

theorem Tended.shown {result : Except Problem Json} (tended : Tended home library state)
    (ended : state.client.result? task = some result) : home.Shown result := by
  obtain ⟨past, future, -, shown⟩ := tended.kept.invariant.history.of_mem (tended.spoken.result ended)
  exact shown

end Worlds

end AlorairLite.Cloud
