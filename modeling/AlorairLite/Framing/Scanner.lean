import Mathlib.Data.List.Basic

/-! Splitting a stream that arrives in pieces. A scanner looks at the front of a
buffer and waits, faults or cuts one item off; more input never changes a verdict
once it is given, so neither the items nor a fault depend on how the stream is cut. -/

namespace Framing

universe u v w

/-- What a scanner says about the front of its buffer. -/
inductive Scanned (Item : Type v) (Fault : Type w) where
  | wait
  | fault (reason : Fault)
  | item (size : Nat) (value : Item)

structure Scanner (Symbol : Type u) (Item : Type v) (Fault : Type w) where
  scan : List Symbol → Scanned Item Fault
  idle : scan [] = .wait
  positive : ∀ {buffer size value}, scan buffer = .item size value → 0 < size
  covered : ∀ {buffer size value}, scan buffer = .item size value → size ≤ buffer.length
  /-- The symbols of an item are enough for its verdict. -/
  whole : ∀ {buffer size value}, scan buffer = .item size value →
    scan (buffer.take size) = .item size value
  item_stable : ∀ {buffer size value} more, scan buffer = .item size value →
    scan (buffer ++ more) = .item size value
  fault_stable : ∀ {buffer reason} more, scan buffer = .fault reason →
    scan (buffer ++ more) = .fault reason

variable {Symbol : Type u} {Item : Type v} {Fault : Type w}

/-- The symbols of several items, one after the other. -/
def symbols (items : List (List Symbol × Item)) : List Symbol := (items.map Prod.fst).flatten

@[simp] theorem symbols_nil : symbols ([] : List (List Symbol × Item)) = [] := rfl

@[simp] theorem symbols_cons (entry : List Symbol × Item) (items : List (List Symbol × Item)) :
    symbols (entry :: items) = entry.1 ++ symbols items := rfl

/-- All that a buffer yields: the items cut off it, and then either the fault that
stops the scanner or the rest it waits with. -/
inductive Scans (scanner : Scanner Symbol Item Fault) :
    List Symbol → List (List Symbol × Item) → Except Fault (List Symbol) → Prop where
  | wait {buffer} (verdict : scanner.scan buffer = .wait) : Scans scanner buffer [] (.ok buffer)
  | fault {buffer reason} (verdict : scanner.scan buffer = .fault reason) :
      Scans scanner buffer [] (.error reason)
  | item {buffer size value items outcome} (verdict : scanner.scan buffer = .item size value)
      (later : Scans scanner (buffer.drop size) items outcome) :
      Scans scanner buffer ((buffer.take size, value) :: items) outcome

variable {scanner : Scanner Symbol Item Fault}

theorem Scans.total (scanner : Scanner Symbol Item Fault) (buffer : List Symbol) :
    ∃ items outcome, Scans scanner buffer items outcome := by
  induction measured : buffer.length using Nat.strongRecOn generalizing buffer with
  | ind bound ih =>
    cases verdict : scanner.scan buffer with
    | wait => exact ⟨[], .ok buffer, .wait verdict⟩
    | fault reason => exact ⟨[], .error reason, .fault verdict⟩
    | item size value =>
      have positive := scanner.positive verdict
      have covered := scanner.covered verdict
      have shorter : (buffer.drop size).length < bound := by
        rw [List.length_drop]
        omega
      obtain ⟨items, outcome, later⟩ := ih _ shorter (buffer.drop size) rfl
      exact ⟨_, outcome, .item verdict later⟩

theorem Scans.unique {buffer : List Symbol} {items others : List (List Symbol × Item)}
    {outcome result : Except Fault (List Symbol)} (scans : Scans scanner buffer items outcome)
    (other : Scans scanner buffer others result) : items = others ∧ outcome = result := by
  induction scans generalizing others result with
  | wait verdict =>
    cases other with
    | wait => exact ⟨rfl, rfl⟩
    | fault different => rw [verdict] at different; cases different
    | item different => rw [verdict] at different; cases different
  | fault verdict =>
    cases other with
    | wait different => rw [verdict] at different; cases different
    | fault same =>
      rw [verdict] at same
      cases same
      exact ⟨rfl, rfl⟩
    | item different => rw [verdict] at different; cases different
  | item verdict _ ih =>
    cases other with
    | wait different => rw [verdict] at different; cases different
    | fault different => rw [verdict] at different; cases different
    | item same later =>
      rw [verdict] at same
      cases same
      obtain ⟨rfl, rfl⟩ := ih later
      exact ⟨rfl, rfl⟩

/-- Nothing is lost: the items and the rest are the buffer. -/
theorem Scans.conserved {buffer rest : List Symbol} {items : List (List Symbol × Item)}
    (scans : Scans scanner buffer items (.ok rest)) : symbols items ++ rest = buffer := by
  generalize outcome : (Except.ok rest : Except Fault (List Symbol)) = result at scans
  induction scans with
  | wait => cases outcome; rfl
  | fault => cases outcome
  | item verdict later ih =>
    rw [symbols_cons, List.append_assoc, ih outcome, List.take_append_drop]

/-- The scanner waits with what it leaves in the buffer. -/
theorem Scans.waits {buffer rest : List Symbol} {items : List (List Symbol × Item)}
    (scans : Scans scanner buffer items (.ok rest)) : scanner.scan rest = .wait := by
  generalize outcome : (Except.ok rest : Except Fault (List Symbol)) = result at scans
  induction scans with
  | wait verdict => cases outcome; exact verdict
  | fault => cases outcome
  | item verdict later ih => exact ih outcome

/-- A fault is a verdict on what is left when it is found. -/
theorem Scans.faulted {buffer : List Symbol} {items : List (List Symbol × Item)} {reason : Fault}
    (scans : Scans scanner buffer items (.error reason)) :
    ∃ rest, scanner.scan rest = .fault reason := by
  generalize failed : (Except.error reason : Except Fault (List Symbol)) = result at scans
  induction scans with
  | wait => cases failed
  | fault verdict => cases failed; exact ⟨_, verdict⟩
  | item verdict later ih => exact ih failed

/-- More input after a pause: the scanner goes on from the rest. -/
theorem Scans.resume {buffer rest more : List Symbol} {items others : List (List Symbol × Item)}
    {outcome : Except Fault (List Symbol)} (scans : Scans scanner buffer items (.ok rest))
    (further : Scans scanner (rest ++ more) others outcome) :
    Scans scanner (buffer ++ more) (items ++ others) outcome := by
  generalize paused : (Except.ok rest : Except Fault (List Symbol)) = result at scans
  induction scans with
  | wait => cases paused; exact further
  | fault => cases paused
  | @item buffer size value items outcome verdict later ih =>
    have covered := scanner.covered verdict
    have next := Scans.item (scanner.item_stable more verdict)
      (by rw [List.drop_append_of_le_length covered]; exact ih paused)
    rwa [List.take_append_of_le_length covered] at next

/-- A fault is final. -/
theorem Scans.final {buffer : List Symbol} {items : List (List Symbol × Item)} {reason : Fault}
    (scans : Scans scanner buffer items (.error reason)) (more : List Symbol) :
    Scans scanner (buffer ++ more) items (.error reason) := by
  generalize failed : (Except.error reason : Except Fault (List Symbol)) = result at scans
  induction scans with
  | wait => cases failed
  | fault verdict =>
    cases failed
    exact .fault (scanner.fault_stable more verdict)
  | @item buffer size value items outcome verdict later ih =>
    have covered := scanner.covered verdict
    have next := Scans.item (scanner.item_stable more verdict)
      (by rw [List.drop_append_of_le_length covered]; exact ih failed)
    rwa [List.take_append_of_le_length covered] at next

/-- Every item is an item on its own. -/
theorem Scans.genuine {buffer : List Symbol} {items : List (List Symbol × Item)}
    {outcome : Except Fault (List Symbol)} (scans : Scans scanner buffer items outcome) :
    ∀ entry ∈ items, scanner.scan entry.1 = .item entry.1.length entry.2 := by
  induction scans with
  | wait => simp
  | fault => simp
  | @item buffer size value items outcome verdict later ih =>
    intro entry member
    rcases List.mem_cons.mp member with rfl | old
    · have covered := scanner.covered verdict
      rw [List.length_take_of_le covered]
      exact scanner.whole verdict
    · exact ih entry old

/-- Items that are items on their own come out of their concatenation, and the
scanner then waits with whatever it would wait with anyway. -/
theorem Scans.of_genuine {rest : List Symbol} (waits : scanner.scan rest = .wait) :
    ∀ {items : List (List Symbol × Item)},
      (∀ entry ∈ items, scanner.scan entry.1 = .item entry.1.length entry.2) →
      Scans scanner (symbols items ++ rest) items (.ok rest)
  | [], _ => .wait waits
  | (raw, value) :: items, genuine => by
    have verdict := scanner.item_stable (symbols items ++ rest) (genuine _ (List.mem_cons_self ..))
    have later := Scans.of_genuine waits fun entry member => genuine entry (List.mem_cons_of_mem _ member)
    have scans := Scans.item verdict (by simpa using later)
    simpa using scans

/-- A proper beginning of an item has no verdict yet. -/
theorem Scanner.waits_within (scanner : Scanner Symbol Item Fault) {start more : List Symbol}
    {value : Item} (item : scanner.scan (start ++ more) = .item (start ++ more).length value)
    (proper : more ≠ []) : scanner.scan start = .wait := by
  cases verdict : scanner.scan start with
  | wait => rfl
  | fault reason =>
    rw [scanner.fault_stable more verdict] at item
    cases item
  | item size other =>
    have covered := scanner.covered verdict
    rw [scanner.item_stable more verdict] at item
    injection item with length
    have remaining := List.length_pos_iff.mpr proper
    rw [List.length_append] at length
    omega

/-- One more symbol after a pause completes at most one item, and then nothing is left. -/
theorem Scans.single {buffer : List Symbol} {added : Symbol} {items : List (List Symbol × Item)}
    {outcome : Except Fault (List Symbol)} (waits : scanner.scan buffer = .wait)
    (scans : Scans scanner (buffer ++ [added]) items outcome) :
    items = [] ∨ outcome = .ok [] := by
  cases scans with
  | wait => exact .inl rfl
  | fault => exact .inl rfl
  | @item _ size value items outcome verdict later =>
    right
    have complete : (buffer ++ [added]).length ≤ size := by
      refine Nat.le_of_not_lt fun short => ?_
      have within : size ≤ buffer.length := by
        rw [List.length_append, List.length_singleton] at short
        omega
      have early := scanner.whole verdict
      rw [List.take_append_of_le_length within] at early
      have known := scanner.item_stable (buffer.drop size) early
      rw [List.take_append_drop, waits] at known
      cases known
    rw [List.drop_of_length_le complete] at later
    cases later with
    | wait => rfl
    | fault failed => rw [scanner.idle] at failed; cases failed
    | item found => rw [scanner.idle] at found; cases found

/-- A stream fed piece by piece, and the items that came out before it ended or
failed. The items of the piece that fails are lost. -/
inductive Fed (scanner : Scanner Symbol Item Fault) :
    List Symbol → List (List Symbol) → List (List Symbol × Item) → Except Fault (List Symbol) → Prop
  where
  | done {buffer} : Fed scanner buffer [] [] (.ok buffer)
  | next {buffer piece rest items pieces others outcome}
      (scans : Scans scanner (buffer ++ piece) items (.ok rest))
      (later : Fed scanner rest pieces others outcome) :
      Fed scanner buffer (piece :: pieces) (items ++ others) outcome
  | stop {buffer piece pieces items reason}
      (scans : Scans scanner (buffer ++ piece) items (.error reason)) :
      Fed scanner buffer (piece :: pieces) [] (.error reason)

/-- Pieces that all pass yield what their concatenation yields. -/
theorem Fed.scans {buffer rest : List Symbol} {pieces : List (List Symbol)}
    {items : List (List Symbol × Item)} (waits : scanner.scan buffer = .wait)
    (fed : Fed scanner buffer pieces items (.ok rest)) :
    Scans scanner (buffer ++ pieces.flatten) items (.ok rest) := by
  generalize passed : (Except.ok rest : Except Fault (List Symbol)) = result at fed
  induction fed with
  | done =>
    cases passed
    simpa using Scans.wait waits
  | next scans later ih =>
    rw [List.flatten_cons, ← List.append_assoc]
    exact passed ▸ scans.resume (passed ▸ ih scans.waits passed)
  | stop => cases passed

/-- Pieces of which one fails yield a beginning of what their concatenation yields. -/
theorem Fed.fails {buffer : List Symbol} {pieces : List (List Symbol)}
    {items : List (List Symbol × Item)} {reason : Fault}
    (fed : Fed scanner buffer pieces items (.error reason)) :
    ∃ all, items <+: all ∧ Scans scanner (buffer ++ pieces.flatten) all (.error reason) := by
  generalize failed : (Except.error reason : Except Fault (List Symbol)) = result at fed
  induction fed with
  | done => cases failed
  | @next buffer piece rest items pieces others outcome scans later ih =>
    obtain ⟨all, initial, whole⟩ := ih failed
    refine ⟨items ++ all, List.prefix_append_right_inj items |>.mpr initial, ?_⟩
    rw [List.flatten_cons, ← List.append_assoc]
    exact scans.resume whole
  | @stop buffer piece pieces items other scans =>
    cases failed
    refine ⟨items, List.nil_prefix, ?_⟩
    rw [List.flatten_cons, ← List.append_assoc]
    exact scans.final pieces.flatten

/-- Fed one symbol at a time, a failing stream loses no item. -/
theorem Fed.fails_single {buffer stream : List Symbol} {items : List (List Symbol × Item)}
    {reason : Fault} (waits : scanner.scan buffer = .wait)
    (fed : Fed scanner buffer (stream.map ([·])) items (.error reason)) :
    Scans scanner (buffer ++ stream) items (.error reason) := by
  induction stream generalizing buffer items with
  | nil => cases fed
  | cons added stream ih =>
    cases fed with
    | next scans later =>
      have rest := scans.resume (ih scans.waits later)
      simpa using rest
    | stop scans =>
      rcases scans.single waits with rfl | finished
      · have failed := scans.final stream
        simpa using failed
      · cases finished

/-- Whether a stream fails, and what comes out of it when it does not, is a matter
of the stream alone. -/
theorem Fed.independent {buffer : List Symbol} {pieces others : List (List Symbol)}
    {items found : List (List Symbol × Item)} {outcome result : Except Fault (List Symbol)}
    (waits : scanner.scan buffer = .wait) (same : pieces.flatten = others.flatten)
    (fed : Fed scanner buffer pieces items outcome) (other : Fed scanner buffer others found result) :
    outcome = result ∧ (∀ rest, outcome = .ok rest → items = found) := by
  cases outcome with
  | ok rest =>
    have here := fed.scans waits
    cases result with
    | ok last =>
      have there := other.scans waits
      rw [← same] at there
      obtain ⟨rfl, equal⟩ := here.unique there
      exact ⟨equal, fun _ _ => rfl⟩
    | error reason =>
      obtain ⟨all, -, there⟩ := other.fails
      rw [← same] at there
      cases (here.unique there).2
  | error reason =>
    obtain ⟨all, -, here⟩ := fed.fails
    refine ⟨?_, fun rest passed => by cases passed⟩
    cases result with
    | ok last =>
      have there := other.scans waits
      rw [← same] at there
      cases (here.unique there).2
    | error other' =>
      obtain ⟨every, -, there⟩ := other.fails
      rw [← same] at there
      exact (here.unique there).2

end Framing
