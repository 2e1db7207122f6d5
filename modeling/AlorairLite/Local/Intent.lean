import AlorairLite.Local.Change

/-! The pending window of a command whose delivery is uncertain: while it lasts, the
entry of its key still is its own, or another value was sent for the key since. -/

namespace AlorairLite.Local

/-- In this history a client call with another value for the key was made after the one
of this command, and it was sent. -/
def Superseded (log : List Action) (k : Nat) (key : Key) (wanted : Value) : Prop :=
  ∃ before later issued j asked monotonic verdict,
    log = before ++ .issued k key wanted issued :: later ∧
      .issued j key asked monotonic ∈ later ∧ .concluded j verdict ∈ later ∧
      asked ≠ wanted ∧ verdict.sent

/-- This command was issued at this time and its delivery is uncertain. -/
structure Uncertain (log : List Action) (k : Nat) (key : Key) (wanted : Value) (issued : ℚ) :
    Prop where
  issued : .issued k key wanted issued ∈ log
  concluded : .concluded k .uncertain ∈ log

/-- The step ends a command that was not sent, although an uncertain one with another
value for its key still has its window. -/
def Forgets (config : Config) (u : Coordinator) (label : Coordinator.Label) : Prop :=
  ∃ j verdict k wanted issued, u.ending config label = some (j, verdict) ∧ verdict.sent = false ∧
    Uncertain u.log k (u.orders j).order.key wanted issued ∧
    u.client.now < issued + pendingSeconds ∧ wanted ≠ (u.orders j).order.wanted ∧
    ¬ Superseded u.log k (u.orders j).order.key wanted

/-- No call repeats an uncertain command in its window. -/
def Protected (past : List Action) (action : Action) : Prop :=
  ∀ j key wanted monotonic, action = .issued j key wanted monotonic →
    ∀ k issued, Uncertain past k key wanted issued → monotonic < issued + pendingSeconds →
      Superseded past k key wanted

theorem Superseded.append {log : List Action} {k : Nat} {key : Key} {wanted : Value}
    (superseded : Superseded log k key wanted) (events : List Action) :
    Superseded (log ++ events) k key wanted := by
  obtain ⟨before, later, issued, j, asked, monotonic, verdict, rfl, called, ended, rest⟩ := superseded
  exact ⟨before, later ++ events, issued, j, asked, monotonic, verdict, by simp,
    List.mem_append_left _ called, List.mem_append_left _ ended, rest⟩

/-- A client call with another value for the key went out after the one of this command. -/
def Follows (log : List Action) (k j : Nat) (key : Key) (wanted : Value) : Prop :=
  ∃ before later issued asked monotonic, log = before ++ .issued k key wanted issued :: later ∧
    .issued j key asked monotonic ∈ later ∧ asked ≠ wanted

theorem Follows.append {log : List Action} {k j : Nat} {key : Key} {wanted : Value}
    (follows : Follows log k j key wanted) (events : List Action) :
    Follows (log ++ events) k j key wanted := by
  obtain ⟨before, later, issued, asked, monotonic, rfl, called, rest⟩ := follows
  exact ⟨before, later ++ events, issued, asked, monotonic, by simp,
    List.mem_append_left _ called, rest⟩

theorem Follows.superseded {log : List Action} {k j : Nat} {key : Key} {wanted : Value}
    {verdict : Verdict} (follows : Follows log k j key wanted) (sent : verdict.sent) :
    Superseded (log ++ [.concluded j verdict]) k key wanted := by
  obtain ⟨before, later, issued, asked, monotonic, rfl, called, rest⟩ := follows
  exact ⟨before, later ++ [.concluded j verdict], issued, j, asked, monotonic, verdict, by simp,
    List.mem_append_left _ called, by simp, rest, sent⟩

/-- The client call of a command for this key is under way. -/
def InFlight (u : Coordinator) (j : Nat) (key : Key) : Prop :=
  (∃ c, (u.orders j).phase = .calling c) ∧ (u.orders j).order.key = key

/-- The books of the coordinator: what its history says about its commands. -/
structure Booked (u : Coordinator) : Prop where
  known : ∀ k key wanted monotonic, .issued k key wanted monotonic ∈ u.log → k < u.orderCount
  ended : ∀ k verdict, .concluded k verdict ∈ u.log → k < u.orderCount
  absent : ∀ k, u.orderCount ≤ k → (u.orders k).phase.isDone
  issued : ∀ k key wanted monotonic, .issued k key wanted monotonic ∈ u.log →
    (u.orders k).phase ≠ .waiting ∧ (u.orders k).order.key = key ∧
      (u.orders k).order.wanted = wanted ∧ (u.orders k).issued = monotonic
  concluded : ∀ k verdict, .concluded k verdict ∈ u.log → (u.orders k).phase.isDone
  flying : ∀ k c, (u.orders k).phase = .calling c → u.commandLock = some k ∧
    .issued k (u.orders k).order.key (u.orders k).order.wanted (u.orders k).issued ∈ u.log
  recorded : ∀ k c, (u.orders k).phase = .calling c →
    u.pending (u.orders k).order.key = some ⟨(u.orders k).order.wanted,
      (u.orders k).issued + pendingSeconds, (u.orders k).issued⟩ ∨
        (u.orders k).issued + pendingSeconds ≤ u.client.now

/-- How an uncertain command keeps its window. -/
inductive Kept (u : Coordinator) (k : Nat) (key : Key) (wanted : Value) (issued : ℚ) : Prop where
  | superseded (superseded : Superseded u.log k key wanted)
  | following {j : Nat} (flying : InFlight u j key) (asked : (u.orders j).order.wanted ≠ wanted)
      (follows : Follows u.log k j key wanted)
  | pending (free : ∀ j, ¬ InFlight u j key)
      (entry : u.pending key = some ⟨wanted, issued + pendingSeconds, issued⟩)

/-- Every uncertain command keeps its window, and no call repeated one. -/
structure Intent (u : Coordinator) : Prop where
  booked : Booked u
  kept : ∀ k key wanted issued, Uncertain u.log k key wanted issued →
    u.client.now < issued + pendingSeconds → Kept u k key wanted issued
  guarded : Async.Every Protected u.log

/-- Actions that say nothing of a command. -/
def Action.quiet : Action → Bool
  | .observed _ | .published _ => true
  | _ => false

namespace Coordinator

variable (config : Config) (u : Coordinator) (k : Nat)

theorem onStatus_log (status : DeviceStatus) :
    ∃ actions, (u.onStatus status).log = u.log ++ actions ∧ ∀ action ∈ actions, action.quiet := by
  rw [onStatus_eq]
  split
  · exact ⟨[.published status], by simp, by simp [Action.quiet]⟩
  · exact ⟨[], by simp, by simp⟩

theorem observe_log (entry : Callback) :
    ∃ actions, (u.observe entry).log = u.log ++ actions ∧ ∀ action ∈ actions, action.quiet := by
  simp only [observe, record]
  split
  · rename_i status notice
    obtain ⟨actions, log, quiet⟩ := onStatus_log ({ u with
      client := { u.client with dispatching := none }
      log := u.log ++ [.observed entry] } : Coordinator) status
    refine ⟨.observed entry :: actions, by rw [log]; simp, ?_⟩
    simpa [Action.quiet] using quiet
  · exact ⟨[.observed entry], by simp, by simp [Action.quiet]⟩

theorem confirmReport_log (order : Order) (status : DeviceStatus) :
    ∃ actions, (u.confirmReport order status).log = u.log ++ actions ∧
      ∀ action ∈ actions, action.quiet := by
  cases shown : u.client.lastStatus with
  | none => exact ⟨[], by simp [confirmReport, shown], by simp⟩
  | some latest =>
    simp only [confirmReport, shown]
    exact onStatus_log _ latest

/-- The handling of a client call ends in its verdict. -/
theorem conclude_log (verdict : Verdict) :
    ∃ actions, (u.conclude k verdict).log = u.log ++ actions ++ [.concluded k verdict] ∧
      ∀ action ∈ actions, action.quiet := by
  cases verdict with
  | reported status =>
    obtain ⟨actions, log, quiet⟩ := u.confirmReport_log (u.orders k).order status
    refine ⟨actions, ?_, quiet⟩
    rw [← log]
    rfl
  | uncertain => exact ⟨[], by simp [conclude, setFeedback], by simp⟩
  | rejected => exact ⟨[], by simp [conclude, setFeedback], by simp⟩
  | failed error => exact ⟨[], by simp [conclude], by simp⟩

/-- Only the entry of its own key goes. -/
theorem conclude_pending (verdict : Verdict) {key : Key} (foreign : (u.orders k).order.key ≠ key) :
    (u.conclude k verdict).pending key = u.pending key := by
  cases verdict with
  | reported status =>
    have same : (u.conclude k (.reported status)).pending =
        Function.update u.pending (u.orders k).order.key none :=
      (u.confirmReport_fields (u.orders k).order status).2.1
    rw [same, Function.update_of_ne (Ne.symm foreign)]
  | rejected => simp [conclude, setFeedback, Function.update_of_ne (Ne.symm foreign)]
  | uncertain => rfl
  | failed error => rfl

theorem beginCall_now : (u.beginCall config k).client.now = u.client.now := by
  rw [beginCall, State.call_now]
  rfl

@[simp] theorem beginCall_fields :
    (u.beginCall config k).pending = Function.update u.pending (u.orders k).order.key
        (some ⟨(u.orders k).order.wanted, u.client.now + pendingSeconds, u.client.now⟩) ∧
      (u.beginCall config k).orders = Function.update u.orders k { u.orders k with
        issued := u.client.now, phase := .calling u.client.callCount } ∧
      (u.beginCall config k).orderCount = u.orderCount ∧
      (u.beginCall config k).commandLock = some k ∧
      (u.beginCall config k).log = u.log ++
        [.issued k (u.orders k).order.key (u.orders k).order.wanted u.client.now] := by
  refine ⟨rfl, ?_, rfl, rfl, rfl⟩
  simp [beginCall, issue]

end Coordinator

/-- A change that ends no client call and makes none. -/
structure SameBooks (u after : Coordinator) : Prop where
  count : after.orderCount = u.orderCount := by rfl
  lock : after.commandLock = u.commandLock := by rfl
  now : u.client.now ≤ after.client.now := by exact le_rfl
  log : ∃ actions, after.log = u.log ++ actions ∧ ∀ action ∈ actions, action.quiet := by
    exact ⟨[], (List.append_nil _).symm, by simp⟩
  orders : ∀ k, (after.orders k).order = (u.orders k).order ∧
    (after.orders k).issued = (u.orders k).issued ∧
    ((after.orders k).phase = (u.orders k).phase ∨
      (u.orders k).phase = .waiting ∧ (after.orders k).phase.isDone) := by
    exact fun _ => ⟨rfl, rfl, .inl rfl⟩
  pending : ∀ key entry, u.pending key = some entry → after.client.now < entry.deadline →
    after.pending key = some entry := by exact fun _ _ entry _ => entry

theorem mem_quiet {log actions : List Action} {action : Action}
    (quiet : ∀ action ∈ actions, action.quiet) (loud : action.quiet = false)
    (member : action ∈ log ++ actions) : action ∈ log := by
  rcases List.mem_append.mp member with old | fresh
  · exact old
  · rw [quiet action fresh] at loud
    cases loud

theorem SameBooks.calling {u after : Coordinator} {k c : Nat} (same : SameBooks u after)
    (calling : (after.orders k).phase = .calling c) : (u.orders k).phase = .calling c := by
  rcases (same.orders k).2.2 with phase | ⟨-, done⟩
  · exact phase ▸ calling
  · rw [calling] at done
    cases done

theorem SameBooks.done {u after : Coordinator} {k : Nat} (same : SameBooks u after)
    (done : (u.orders k).phase.isDone) : (after.orders k).phase.isDone := by
  rcases (same.orders k).2.2 with phase | ⟨-, done⟩
  · exact phase ▸ done
  · exact done

theorem Booked.keep {u after : Coordinator} (booked : Booked u) (same : SameBooks u after) :
    Booked after := by
  obtain ⟨actions, log, quiet⟩ := same.log
  constructor
  · intro k key wanted monotonic member
    rw [log] at member
    rw [same.count]
    exact booked.known k key wanted monotonic (mem_quiet quiet rfl member)
  · intro k verdict member
    rw [log] at member
    rw [same.count]
    exact booked.ended k verdict (mem_quiet quiet rfl member)
  · intro k beyond
    exact same.done (booked.absent k (same.count ▸ beyond))
  · intro k key wanted monotonic member
    rw [log] at member
    obtain ⟨begun, fields⟩ := booked.issued k key wanted monotonic (mem_quiet quiet rfl member)
    rw [(same.orders k).1, (same.orders k).2.1]
    refine ⟨fun waiting => ?_, fields⟩
    rcases (same.orders k).2.2 with phase | ⟨-, done⟩
    · exact begun (phase ▸ waiting)
    · rw [waiting] at done
      cases done
  · intro k verdict member
    rw [log] at member
    exact same.done (booked.concluded k verdict (mem_quiet quiet rfl member))
  · intro k c calling
    obtain ⟨lock, member⟩ := booked.flying k c (same.calling calling)
    rw [same.lock, log, (same.orders k).1, (same.orders k).2.1]
    exact ⟨lock, List.mem_append_left _ member⟩
  · intro k c calling
    rw [(same.orders k).1, (same.orders k).2.1]
    rcases booked.recorded k c (same.calling calling) with entry | late
    · by_cases live : after.client.now < (u.orders k).issued + pendingSeconds
      · exact .inl (same.pending _ _ entry live)
      · exact .inr (le_of_not_gt live)
    · exact .inr (le_trans late same.now)

theorem Uncertain.quiet {log actions : List Action} {k : Nat} {key : Key} {wanted : Value}
    {issued : ℚ} (quiet : ∀ action ∈ actions, action.quiet)
    (uncertain : Uncertain (log ++ actions) k key wanted issued) :
    Uncertain log k key wanted issued :=
  ⟨mem_quiet quiet rfl uncertain.issued, mem_quiet quiet rfl uncertain.concluded⟩

theorem Intent.keep {u after : Coordinator} (intent : Intent u) (same : SameBooks u after) :
    Intent after := by
  obtain ⟨actions, log, quiet⟩ := same.log
  have landed : ∀ j key, InFlight after j key → InFlight u j key := by
    rintro j key ⟨⟨c, calling⟩, home⟩
    exact ⟨⟨c, same.calling calling⟩, (same.orders j).1 ▸ home⟩
  refine ⟨intent.booked.keep same, ?_, ?_⟩
  · intro k key wanted issued uncertain live
    rw [log] at uncertain
    cases intent.kept k key wanted issued (uncertain.quiet quiet) (lt_of_le_of_lt same.now live) with
    | superseded superseded =>
      refine .superseded ?_
      rw [log]
      exact superseded.append actions
    | @following j flying asked follows =>
      obtain ⟨⟨c, calling⟩, home⟩ := flying
      have still : (after.orders j).phase = .calling c := by
        rcases (same.orders j).2.2 with phase | ⟨waiting, -⟩
        · exact phase.trans calling
        · rw [calling] at waiting
          cases waiting
      refine .following ⟨⟨c, still⟩, (same.orders j).1 ▸ home⟩ ((same.orders j).1 ▸ asked) ?_
      rw [log]
      exact follows.append actions
    | pending free entry =>
      exact .pending (fun j flying => free j (landed j key flying)) (same.pending _ _ entry live)
  · rw [log]
    refine intent.guarded.append_free fun action member past j key wanted monotonic equal => ?_
    subst equal
    cases quiet _ member

/-- Only one client call is under way. -/
theorem Booked.alone {u : Coordinator} {j k c : Nat} {key : Key} (booked : Booked u)
    (calling : (u.orders k).phase = .calling c) (flying : InFlight u j key) : j = k := by
  obtain ⟨⟨d, other⟩, -⟩ := flying
  have first := (booked.flying j d other).1
  rw [(booked.flying k c calling).1] at first
  exact (Option.some.inj first).symm

theorem Booked.idle {u : Coordinator} {j : Nat} {key : Key} (booked : Booked u)
    (free : u.commandLock = none) : ¬ InFlight u j key := by
  rintro ⟨⟨c, calling⟩, -⟩
  have held := (booked.flying j c calling).1
  rw [free] at held
  cases held

theorem Booked.begin {config : Config} {u : Coordinator} {k : Nat} (booked : Booked u)
    (waiting : (u.orders k).phase = .waiting) (free : u.commandLock = none) :
    Booked (u.beginCall config k) := by
  have known : k < u.orderCount := by
    refine Nat.lt_of_not_le fun beyond => ?_
    have done := booked.absent k beyond
    rw [waiting] at done
    cases done
  have elsewhere : ∀ d, (u.orders d).phase ≠ .waiting → d ≠ k := fun d begun equal =>
    begun (equal ▸ waiting)
  have idle : ∀ d c, d ≠ k → ((u.beginCall config k).orders d).phase ≠ .calling c := by
    intro d c distinct calling
    simp [distinct] at calling
    exact booked.idle free ⟨⟨c, calling⟩, rfl⟩
  constructor
  · intro d key wanted monotonic member
    simp only [Coordinator.beginCall_fields, List.mem_append, List.mem_singleton] at member ⊢
    rcases member with old | fresh
    · exact booked.known d key wanted monotonic old
    · cases fresh
      exact known
  · intro d verdict member
    simp only [Coordinator.beginCall_fields, List.mem_append, List.mem_singleton, reduceCtorEq,
      or_false] at member ⊢
    exact booked.ended d verdict member
  · intro d beyond
    simp only [Coordinator.beginCall_fields] at beyond ⊢
    have distinct : d ≠ k := by omega
    simpa [distinct] using booked.absent d beyond
  · intro d key wanted monotonic member
    simp only [Coordinator.beginCall_fields, List.mem_append, List.mem_singleton] at member ⊢
    rcases member with old | fresh
    · obtain ⟨begun, fields⟩ := booked.issued d key wanted monotonic old
      simpa [elsewhere d begun] using ⟨begun, fields⟩
    · cases fresh
      simp
  · intro d verdict member
    simp only [Coordinator.beginCall_fields, List.mem_append, List.mem_singleton, reduceCtorEq,
      or_false] at member ⊢
    have done := booked.concluded d verdict member
    have distinct := elsewhere d fun held => by rw [held] at done; cases done
    simpa [distinct] using done
  · intro d c calling
    by_cases equal : d = k
    · subst equal
      simp
    · exact absurd calling (idle d c equal)
  · intro d c calling
    by_cases equal : d = k
    · subst equal
      simp
    · exact absurd calling (idle d c equal)

/-- Another command for the key goes out behind an uncertain one. -/
theorem Uncertain.followed {log : List Action} {k j : Nat} {key : Key} {wanted asked : Value}
    {issued monotonic : ℚ} (uncertain : Uncertain log k key wanted issued) (distinct : asked ≠ wanted) :
    Follows (log ++ [.issued j key asked monotonic]) k j key wanted := by
  obtain ⟨before, later, split⟩ := List.append_of_mem uncertain.issued
  exact ⟨before, later ++ [.issued j key asked monotonic], issued, asked, monotonic, by simp [split],
    by simp, distinct⟩

theorem Intent.begin {config : Config} {u : Coordinator} {k : Nat} (intent : Intent u)
    (waiting : (u.orders k).phase = .waiting) (free : u.commandLock = none)
    (admitted : Admitted u (u.orders k).order) : Intent (u.beginCall config k) := by
  have booked : Booked (u.beginCall config k) := intent.booked.begin waiting free
  have log := (u.beginCall_fields config k).2.2.2.2
  have older : ∀ d key wanted issued, Uncertain (u.beginCall config k).log d key wanted issued →
      Uncertain u.log d key wanted issued := by
    intro d key wanted issued uncertain
    obtain ⟨begun, ended⟩ := uncertain
    rw [log] at begun ended
    have ended : .concluded d .uncertain ∈ u.log := by simpa using ended
    refine ⟨?_, ended⟩
    rcases List.mem_append.mp begun with old | fresh
    · exact old
    · cases List.mem_singleton.mp fresh
      have done := intent.booked.concluded k .uncertain ended
      rw [waiting] at done
      cases done
  refine ⟨booked, ?_, ?_⟩
  · intro d key wanted issued uncertain live
    have before := older d key wanted issued uncertain
    rw [Coordinator.beginCall_now] at live
    cases intent.kept d key wanted issued before live with
    | superseded superseded =>
      refine .superseded ?_
      rw [log]
      exact superseded.append _
    | following flying asked follows => exact absurd flying (intent.booked.idle free)
    | pending idle entry =>
      by_cases same : (u.orders k).order.key = key
      · subst same
        have asked := admitted.unprotected _ entry live
        refine .following (j := k) ⟨⟨u.client.callCount, by simp⟩, by simp⟩ (by simpa using Ne.symm asked) ?_
        rw [log]
        exact before.followed (Ne.symm asked)
      · refine .pending ?_ ?_
        · rintro j ⟨⟨c, calling⟩, home⟩
          by_cases equal : j = k
          · subst equal
            exact same (by simpa using home)
          · exact idle j ⟨⟨c, by simpa [equal] using calling⟩, by simpa [equal] using home⟩
        · simpa [Function.update_of_ne (Ne.symm same)] using entry
  · rw [log]
    refine intent.guarded.append_singleton ?_
    rintro j key wanted monotonic ⟨⟩ d issued uncertain live
    cases intent.kept d _ _ issued uncertain live with
    | superseded superseded => exact superseded
    | following flying asked follows => exact absurd flying (intent.booked.idle free)
    | pending idle entry => exact absurd rfl (admitted.unprotected _ entry live)

theorem Booked.conclude {u : Coordinator} {k c : Nat} {verdict : Verdict} (booked : Booked u)
    (calling : (u.orders k).phase = .calling c) : Booked (u.conclude k verdict) := by
  obtain ⟨actions, log, quiet⟩ := u.conclude_log k verdict
  have ended : ∀ d, d ≠ k → ((u.conclude k verdict).orders d).phase = (u.orders d).phase :=
    fun d distinct => by simp [distinct]
  have landed : ∀ d c', ((u.conclude k verdict).orders d).phase ≠ .calling c' := by
    intro d c' flying
    by_cases equal : d = k
    · simp [equal] at flying
    · rw [ended d equal] at flying
      exact equal (booked.alone calling ⟨⟨c', flying⟩, rfl⟩)
  have old : ∀ d key wanted monotonic, .issued d key wanted monotonic ∈ (u.conclude k verdict).log →
      .issued d key wanted monotonic ∈ u.log := by
    intro d key wanted monotonic member
    rw [log] at member
    exact mem_quiet quiet rfl (by simpa using member)
  constructor
  · intro d key wanted monotonic member
    simpa using booked.known d key wanted monotonic (old d key wanted monotonic member)
  · intro d judged member
    rw [log] at member
    simp only [Coordinator.conclude_fields]
    by_cases equal : d = k
    · obtain ⟨-, issued⟩ := booked.flying k c calling
      exact equal ▸ booked.known k _ _ _ issued
    · exact booked.ended d judged (mem_quiet quiet rfl (by simpa [equal] using member))
  · intro d beyond
    by_cases equal : d = k
    · simp [equal, OrderAt.isDone]
    · rw [ended d equal]
      exact booked.absent d (by simpa using beyond)
  · intro d key wanted monotonic member
    have fields := booked.issued d key wanted monotonic (old d key wanted monotonic member)
    by_cases equal : d = k
    · subst equal
      simpa using fields.2
    · simpa [equal] using fields
  · intro d judged member
    rw [log] at member
    by_cases equal : d = k
    · simp [equal, OrderAt.isDone]
    · rw [ended d equal]
      exact booked.concluded d judged (mem_quiet quiet rfl (by simpa [equal] using member))
  · exact fun d c' flying => absurd flying (landed d c')
  · exact fun d c' flying => absurd flying (landed d c')

theorem Superseded.since {origin u : Coordinator} {k d : Nat} {key : Key} {wanted : Value}
    (later : Since origin u d) (superseded : Superseded origin.log k key wanted) :
    Superseded u.log k key wanted := by
  rcases later.log with log | ⟨fresh, asked, log⟩
  · rw [log]
    exact superseded
  · rw [log]
    exact superseded.append _

theorem Intent.conclude {config : Config} {origin u : Coordinator} {label : Coordinator.Label}
    {k c : Nat} {verdict : Verdict} (intent : Intent u) (remembers : ¬ Forgets config origin label)
    (calling : (u.orders k).phase = .calling c)
    (ending : origin.ending config label = some (k, verdict)) (later : Since origin u k) :
    Intent (u.conclude k verdict) := by
  obtain ⟨actions, log, quiet⟩ := u.conclude_log k verdict
  have now : (u.conclude k verdict).client.now = u.client.now := by simp
  have landed : ∀ j key, ¬ InFlight (u.conclude k verdict) j key := by
    rintro j key ⟨⟨d, flying⟩, -⟩
    by_cases equal : j = k
    · simp [equal] at flying
    · exact equal (intent.booked.alone calling ⟨⟨d, by simpa [equal] using flying⟩, rfl⟩)
  refine ⟨intent.booked.conclude calling, ?_, ?_⟩
  · intro d key wanted issued uncertain live
    rw [now] at live
    have begun : .issued d key wanted issued ∈ u.log := by
      have member := uncertain.issued
      rw [log] at member
      exact mem_quiet quiet rfl (by simpa using member)
    by_cases equal : d = k
    · -- the command that ends now is the uncertain one, and its entry still is its own
      subst equal
      obtain ⟨-, home, asked, time⟩ := intent.booked.issued d key wanted issued begun
      have judged : verdict = .uncertain := by
        have member := uncertain.concluded
        rw [log] at member
        rcases List.mem_append.mp member with old | fresh
        · have done := intent.booked.concluded d .uncertain (mem_quiet quiet rfl old)
          rw [calling] at done
          cases done
        · simpa using (List.mem_singleton.mp fresh).symm
      subst judged
      rcases intent.booked.recorded d c calling with entry | late
      · rw [home, asked, time] at entry
        exact .pending (landed · key) entry
      · rw [time] at late
        exact absurd live (not_lt_of_ge late)
    · have ended : .concluded d .uncertain ∈ u.log := by
        have member := uncertain.concluded
        rw [log] at member
        exact mem_quiet quiet rfl (by simpa [equal] using member)
      have extend : Superseded u.log d key wanted → Kept (u.conclude k verdict) d key wanted issued :=
        fun superseded => by
          refine .superseded ?_
          rw [log, List.append_assoc]
          exact superseded.append _
      cases intent.kept d key wanted issued ⟨begun, ended⟩ live with
      | superseded superseded => exact extend superseded
      | @following j flying asked follows =>
        obtain rfl : j = k := intent.booked.alone calling flying
        obtain rfl : (u.orders j).order.key = key := flying.2
        by_cases sent : verdict.sent
        · refine .superseded ?_
          rw [log]
          exact (follows.append actions).superseded sent
        · refine extend (Classical.byContradiction fun unsuperseded => remembers ?_)
          have same := later.order
          have older : ∀ action ∈ u.log, (∀ key wanted, action ≠ .issued j key wanted u.client.now) →
              action ∈ origin.log := by
            intro action member foreign
            rcases later.log with unchanged | ⟨fresh, value, grown⟩
            · rwa [unchanged] at member
            · rw [grown] at member
              rcases List.mem_append.mp member with old | fresh
              · exact old
              · exact absurd (List.mem_singleton.mp fresh) (foreign _ _)
          refine ⟨j, verdict, d, wanted, issued, ending, by simpa using sent, ?_, ?_, ?_, ?_⟩
          · rw [← same]
            exact ⟨older _ begun (by simp [equal]), older _ ended (by simp)⟩
          · rw [← later.now]
            exact live
          · rw [← same]
            exact Ne.symm asked
          · rw [← same]
            exact fun superseded => unsuperseded (superseded.since later)
      | pending idle entry =>
        have foreign : (u.orders k).order.key ≠ key := fun home => idle k ⟨⟨c, calling⟩, home⟩
        exact .pending (landed · key) ((u.conclude_pending k verdict foreign).trans entry)
  · rw [log, List.append_assoc]
    refine intent.guarded.append_free fun action member past j key wanted monotonic equal => ?_
    subst equal
    simp only [List.mem_append, List.mem_singleton, reduceCtorEq, or_false] at member
    cases quiet _ member

theorem Intent.order {u : Coordinator} (intent : Intent u) (order : Order) :
    Intent { u with
      orderCount := u.orderCount + 1
      orders := Function.update u.orders u.orderCount { order } } := by
  have still : ∀ k c, (Function.update u.orders u.orderCount ({ order } : OrderTask) k).phase =
      .calling c → k ≠ u.orderCount := by
    rintro k c calling rfl
    simp at calling
  have booked := intent.booked
  refine ⟨⟨?_, ?_, ?_, ?_, ?_, ?_, ?_⟩, ?_, intent.guarded⟩
  · exact fun k key wanted monotonic member =>
      Nat.lt_succ_of_lt (booked.known k key wanted monotonic member)
  · exact fun k verdict member => Nat.lt_succ_of_lt (booked.ended k verdict member)
  · intro k beyond
    have distinct : k ≠ u.orderCount := by simp only at beyond; omega
    simpa [distinct] using booked.absent k (by simp only at beyond; omega)
  · intro k key wanted monotonic member
    have distinct := Nat.ne_of_lt (booked.known k key wanted monotonic member)
    simpa [distinct] using booked.issued k key wanted monotonic member
  · intro k verdict member
    have distinct := Nat.ne_of_lt (booked.ended k verdict member)
    simpa [distinct] using booked.concluded k verdict member
  · intro k c calling
    have distinct := still k c calling
    simp only [Function.update_of_ne distinct] at calling ⊢
    exact booked.flying k c calling
  · intro k c calling
    have distinct := still k c calling
    simp only [Function.update_of_ne distinct] at calling ⊢
    exact booked.recorded k c calling
  · intro k key wanted issued uncertain live
    cases intent.kept k key wanted issued uncertain live with
    | superseded superseded => exact .superseded superseded
    | @following j flying asked follows =>
      obtain ⟨⟨c, calling⟩, home⟩ := flying
      have distinct : j ≠ u.orderCount :=
        Nat.ne_of_lt (booked.known j _ _ _ (booked.flying j c calling).2)
      exact .following ⟨⟨c, by simpa [distinct] using calling⟩, by simpa [distinct] using home⟩
        (by simpa [distinct] using asked) follows
    | pending idle entry =>
      refine .pending ?_ entry
      rintro j ⟨⟨c, calling⟩, home⟩
      have distinct := still j c calling
      simp only [Function.update_of_ne distinct] at calling home
      exact idle j ⟨⟨c, calling⟩, home⟩

theorem Change.intent {config : Config} {origin u after : Coordinator}
    {label : Coordinator.Label} (change : Change config origin label u after)
    (started : Intent origin) (remembers : ¬ Forgets config origin label) (intent : Intent u) :
    Intent after := by
  have touched : ∀ {k : Nat} {task : OrderTask}, task.order = (u.orders k).order →
      task.issued = (u.orders k).issued →
      (task.phase = (u.orders k).phase ∨ (u.orders k).phase = .waiting ∧ task.phase.isDone) →
      ∀ d, (Function.update u.orders k task d).order = (u.orders d).order ∧
        (Function.update u.orders k task d).issued = (u.orders d).issued ∧
        ((Function.update u.orders k task d).phase = (u.orders d).phase ∨
          (u.orders d).phase = .waiting ∧ (Function.update u.orders k task d).phase.isDone) := by
    intro k task order issued phase d
    by_cases equal : d = k
    · subst equal
      simpa using ⟨order, issued, phase⟩
    · simp [equal]
  cases change with
  | client effects => exact intent.keep { now := effects.later.now }
  | @observe entry client dispatched moved running =>
    have fields := Coordinator.observe_fields { origin with client } entry
    have step : Local.step config.coordinated origin.client .dispatch = some client := moved
    obtain ⟨head, rest, next, free, rfl⟩ := State.dispatch_spec moved
    exact started.keep
      { count := fields.2.2.2.2.1
        lock := fields.2.2.2.2.2
        now := by rw [fields.1]; exact le_rfl
        log := Coordinator.observe_log { origin with client := _ } entry
        orders := fun k => by rw [fields.2.2.2.1]; exact ⟨rfl, rfl, .inl rfl⟩
        pending := fun key recorded found _ => by rw [fields.2.1]; exact found }
  | begin waiting free admitted =>
    exact intent.begin waiting free (Coordinator.admission_admitted admitted)
  | conclude calling ending later => exact intent.conclude remembers calling ending later
  | @mark u k c expired calling =>
    exact intent.keep { orders := touched rfl rfl (.inl rfl) }
  | @finish u k error waiting =>
    exact intent.keep { orders := touched rfl rfl (.inr ⟨waiting, rfl⟩) }
  | order opened valid => exact intent.order _
  | watch =>
    have fields := u.watch_fields
    refine intent.keep
      { count := fields.2.2.2.1
        lock := fields.2.2.2.2.1
        now := by rw [fields.1]
        log := ⟨[], by rw [fields.2.2.2.2.2]; simp, by simp⟩
        orders := fun k => by rw [fields.2.2.1]; exact ⟨rfl, rfl, .inl rfl⟩
        pending := fun key entry found live => ?_ }
    rw [fields.1] at live
    simp only [Coordinator.watch]
    split <;> simp [found, not_le_of_gt live]
  | note => exact intent.keep {}
  | close => exact intent.keep {}

theorem Run.intent {config : Config} {u : Coordinator}
    (run : Async.Run (coordinator config) (fun u label => ¬ Forgets config u label) u) :
    Intent u := by
  refine (Run.changes Intent ?_ ?_ run).2
  · intro now wall localPower epoch
    refine ⟨⟨?_, ?_, ?_, ?_, ?_, ?_, ?_⟩, ?_, .nil⟩
    · rintro k key wanted monotonic ⟨⟩
    · rintro k verdict ⟨⟩
    · exact fun k _ => rfl
    · rintro k key wanted monotonic ⟨⟩
    · rintro k verdict ⟨⟩
    · rintro k c ⟨⟩
    · rintro k c ⟨⟩
    · rintro k key wanted issued ⟨⟨⟩, -⟩
  · exact fun origin label u after _ started remembers _ intent change =>
      change.intent started remembers intent

/-- A command that is refused or suppressed leaves every window as it is. -/
theorem proceed_pending {config : Config} {u after : Coordinator} {k : Nat}
    (taken : Coordinator.step config u (.proceed k) = some after)
    (silent : u.invokes (.proceed k) = none) : after.pending = u.pending := by
  simp only [Coordinator.step] at taken
  split at taken
  · rename_i ready
    cases taken
    unfold Coordinator.runCommand
    split
    · rfl
    · rfl
    · rename_i admitted
      simp [Coordinator.invokes, ready, admitted] at silent
  · cases taken

/-- An uncertain command is protected for its whole window, in every run that forgets
none by another one that was not sent. -/
theorem uncertain_intent_protected {config : Config} {u : Coordinator}
    (run : Async.Run (coordinator config) (fun u label => ¬ Forgets config u label) u) :
    Async.Every Protected u.log ∧ ∀ k after, Coordinator.step config u (.proceed k) = some after →
      u.invokes (.proceed k) = none → after.pending = u.pending :=
  ⟨(Run.intent run).guarded, fun _ _ => proceed_pending⟩

/-- A history in which only this command was sent, with this value. -/
def Action.keeps (k : Nat) (wanted : Value) : Action → Bool
  | .issued j _ asked _ => j ≠ k || asked = wanted
  | .concluded j verdict => j = k || !verdict.sent
  | _ => true

theorem not_superseded {log : List Action} {k : Nat} {key : Key} {wanted : Value}
    (kept : ∀ action ∈ log, action.keeps k wanted) : ¬ Superseded log k key wanted := by
  rintro ⟨before, later, issued, j, asked, monotonic, verdict, rfl, called, ended, distinct, sent⟩
  have first := kept (.issued j key asked monotonic) (by simp [called])
  have last := kept (.concluded j verdict) (by simp [ended])
  simp only [Action.keeps, Bool.or_eq_true, decide_eq_true_eq, sent, Bool.not_true,
    Bool.false_eq_true, or_false] at first last
  rcases first with foreign | same
  · exact foreign last
  · exact distinct same

def connectOn : List Coordinator.Label :=
  [.client (.accept (some "192.0.2.1")), .client .start] ++ hear (exampleReport 0x20 1) 1

def askHumidity (target : Int) : Coordinator.Label :=
  .command "async_set_humidity" [.int target] "currentHumidity" (.int target) false

/-- A humidity command whose frame is written. -/
def writeHumidity (k : Nat) (target : Int) : List Coordinator.Label :=
  [askHumidity target, .proceed k, .client .start] ++
    List.replicate 3 (.client (.execute k .ready)) ++ [.client (.tick 5)]

/-- No report answers it before its deadline. -/
def loseAnswer (k : Nat) : List Coordinator.Label := [.client (.execute k .timeout), .resume k]

/-- Two commands stay unanswered, and the first one is asked for again. -/
def supersededLabels : List Coordinator.Label :=
  connectOn ++ writeHumidity 0 40 ++ loseAnswer 0 ++ writeHumidity 1 45 ++ loseAnswer 1 ++
    [askHumidity 40, .proceed 2]

theorem uncertain_intent_protected_example : ∃ u,
    (coordinator exampleConfig).follow exampleCoordinator supersededLabels = some u ∧
    Uncertain u.log 0 .currentHumidity (.int 40) 0 ∧
    .issued 2 .currentHumidity (.int 40) 10 ∈ u.log ∧ Async.Every Protected u.log := by
  have shown : ((((coordinator exampleConfig).checked fun u label =>
        (u.ending exampleConfig label).all (·.2.sent)).follow
      exampleCoordinator supersededLabels).map fun u =>
        u.log.contains (.issued 0 .currentHumidity (.int 40) 0) &&
        (u.log.contains (.concluded 0 .uncertain) &&
        u.log.contains (.issued 2 .currentHumidity (.int 40) 10))) = some true := by
    decide +kernel
  obtain ⟨u, followed, facts⟩ := Option.map_eq_some_iff.mp shown
  simp only [Bool.and_eq_true, List.contains_iff_mem] at facts
  obtain ⟨issued, concluded, again⟩ := facts
  have remembers : ∀ (u : Coordinator) label, (u.ending exampleConfig label).all (·.2.sent) →
      ¬ Forgets exampleConfig u label := by
    rintro u label sent ⟨j, verdict, k, wanted, time, ending, unsent, -⟩
    rw [ending] at sent
    simp [unsent] at sent
  have started : Async.Run (coordinator exampleConfig)
      (fun u label => ¬ Forgets exampleConfig u label) exampleCoordinator :=
    .start ⟨0, 0, false, le_rfl, rfl⟩
  obtain ⟨run, taken⟩ := started.of_checked remembers followed
  exact ⟨u, taken, ⟨issued, concluded⟩, again, (uncertain_intent_protected run).1⟩

/-- A first command stays unanswered. A second one is paced behind a heartbeat reply and
is not sent, since the appliance reports OFF meanwhile; then the first is asked for again. -/
def forgottenLabels : List Coordinator.Label :=
  connectOn ++ writeHumidity 0 40 ++ [.client (.feed 1 exampleHeartbeat)] ++
    List.replicate 3 (.client (.reader 1 .ready)) ++ loseAnswer 0 ++
    [askHumidity 45, .proceed 1, .client .start] ++
    List.replicate 2 (.client (.execute 1 .ready)) ++ hear (exampleReport 0x20 0) 1 ++
    [.client (.tick 2)] ++ List.replicate 2 (.client (.execute 1 .ready)) ++ [.resume 1] ++
    hear (exampleReport 0x20 1) 1 ++ [askHumidity 40, .proceed 2]

/-- The entry of the first command is gone, so it is repeated seven seconds after it. -/
theorem unsent_command_ends_window : ∃ u, Async.Reachable (coordinator exampleConfig) u ∧
    ¬ Async.Every Protected u.log := by
  have shown : (((coordinator exampleConfig).follow exampleCoordinator forgottenLabels).map fun u =>
        u.log.getLast? = some (.issued 2 .currentHumidity (.int 40) 7) &&
        (u.log.dropLast.contains (.issued 0 .currentHumidity (.int 40) 0) &&
        (u.log.dropLast.contains (.concluded 0 .uncertain) &&
        u.log.dropLast.all (·.keeps 0 (.int 40))))) = some true := by decide +kernel
  obtain ⟨u, followed, facts⟩ := Option.map_eq_some_iff.mp shown
  simp only [Bool.and_eq_true, List.contains_iff_mem, List.all_eq_true, decide_eq_true_eq] at facts
  obtain ⟨last, issued, concluded, kept⟩ := facts
  refine ⟨u, Async.Run.follow (.start ⟨0, 0, false, le_rfl, rfl⟩) (fun _ _ => trivial) followed,
    fun guarded => ?_⟩
  obtain ⟨past, split⟩ := List.getLast?_eq_some_iff.mp last
  rw [split, List.dropLast_concat] at issued concluded kept
  have repeated := guarded past _ [] split 2 _ _ _ rfl 0 0 ⟨issued, concluded⟩
    (by norm_num [pendingSeconds])
  exact not_superseded kept repeated

end AlorairLite.Local
