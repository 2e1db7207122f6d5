import AlorairLite.Framing.Scanner
import AlorairLite.Local.Codec

/-! `FrameStream` as a scanner: what it returns, what it keeps and whether it raises
depend on the bytes alone, not on the reads that deliver them. -/

namespace AlorairLite.Local

open Framing

/-- The size a frame declares in its length field. -/
def declaredSize (buffer : Bytes) : Nat := 29 + fromBytes (slice buffer 18 20)

/-- One round of the `while` loop of `FrameStream.feed`. -/
def frameVerdict (expectedMac : Option Bytes) (buffer : Bytes) : Scanned Frame String :=
  if buffer.length < 20 then .wait
  else if buffer.take 8 ≠ magic ++ List.replicate 6 0 then .fault "Unexpected stream header"
  else if declaredSize buffer > maxData + 29 then .fault "Declared stream frame too large"
  else if buffer.length < declaredSize buffer then .wait
  else
    match Frame.decode (buffer.take (declaredSize buffer)) expectedMac with
    | .error text => .fault text
    | .ok frame => .item (declaredSize buffer) frame

theorem slice_append_left {buffer : Bytes} {low high : Nat} (within : high ≤ buffer.length)
    (more : Bytes) : slice (buffer ++ more) low high = slice buffer low high := by
  rw [slice, slice, List.take_append_of_le_length within]

theorem declaredSize_append {buffer : Bytes} (enough : 20 ≤ buffer.length) (more : Bytes) :
    declaredSize (buffer ++ more) = declaredSize buffer := by
  rw [declaredSize, declaredSize, slice_append_left enough]

theorem declaredSize_take {buffer : Bytes} {size : Nat} (enough : 20 ≤ size) :
    declaredSize (buffer.take size) = declaredSize buffer := by
  rw [declaredSize, declaredSize, slice, slice, List.take_take, Nat.min_eq_left enough]

theorem declaredSize_large (buffer : Bytes) : 29 ≤ declaredSize buffer := Nat.le_add_right ..

theorem frameVerdict_wait {expectedMac : Option Bytes} {buffer : Bytes} :
    frameVerdict expectedMac buffer = .wait ↔ buffer.length < 20 ∨
      20 ≤ buffer.length ∧ buffer.take 8 = magic ++ List.replicate 6 0 ∧
        declaredSize buffer ≤ maxData + 29 ∧ buffer.length < declaredSize buffer := by
  unfold frameVerdict
  constructor
  · intro verdict
    split at verdict
    · rename_i short
      exact .inl short
    rename_i enough
    split at verdict
    · cases verdict
    rename_i header
    split at verdict
    · cases verdict
    rename_i small
    split at verdict
    · rename_i incomplete
      exact .inr ⟨Nat.le_of_not_lt enough, Decidable.not_not.mp header, Nat.le_of_not_lt small, incomplete⟩
    split at verdict
    · cases verdict
    · cases verdict
  · rintro (short | ⟨enough, header, small, incomplete⟩)
    · rw [if_pos short]
    · rw [if_neg (Nat.not_lt.mpr enough), if_neg (not_not_intro header), if_neg (Nat.not_lt.mpr small),
        if_pos incomplete]

theorem frameVerdict_item {expectedMac : Option Bytes} {buffer : Bytes} {size : Nat} {frame : Frame} :
    frameVerdict expectedMac buffer = .item size frame ↔
      buffer.take 8 = magic ++ List.replicate 6 0 ∧ size = declaredSize buffer ∧
        size ≤ maxData + 29 ∧ size ≤ buffer.length ∧
        Frame.decode (buffer.take size) expectedMac = .ok frame := by
  unfold frameVerdict
  constructor
  · intro verdict
    split at verdict
    · cases verdict
    split at verdict
    · cases verdict
    rename_i header
    split at verdict
    · cases verdict
    rename_i small
    split at verdict
    · cases verdict
    rename_i complete
    split at verdict
    · cases verdict
    · rename_i decoded
      cases verdict
      exact ⟨Decidable.not_not.mp header, rfl, Nat.le_of_not_lt small, Nat.le_of_not_lt complete, decoded⟩
  · rintro ⟨header, rfl, small, complete, decoded⟩
    have large := declaredSize_large buffer
    rw [if_neg (by omega), if_neg (not_not_intro header), if_neg (by omega), if_neg (by omega), decoded]

theorem frameVerdict_fault {expectedMac : Option Bytes} {buffer : Bytes} {text : String} :
    frameVerdict expectedMac buffer = .fault text ↔ 20 ≤ buffer.length ∧
      (buffer.take 8 ≠ magic ++ List.replicate 6 0 ∧ text = "Unexpected stream header" ∨
        buffer.take 8 = magic ++ List.replicate 6 0 ∧
          (maxData + 29 < declaredSize buffer ∧ text = "Declared stream frame too large" ∨
            declaredSize buffer ≤ maxData + 29 ∧ declaredSize buffer ≤ buffer.length ∧
              Frame.decode (buffer.take (declaredSize buffer)) expectedMac = .error text)) := by
  unfold frameVerdict
  constructor
  · intro verdict
    split at verdict
    · cases verdict
    rename_i enough
    refine ⟨Nat.le_of_not_lt enough, ?_⟩
    split at verdict
    · rename_i wrong
      cases verdict
      exact .inl ⟨wrong, rfl⟩
    rename_i header
    refine .inr ⟨Decidable.not_not.mp header, ?_⟩
    split at verdict
    · rename_i large
      cases verdict
      exact .inl ⟨large, rfl⟩
    rename_i small
    split at verdict
    · cases verdict
    rename_i complete
    split at verdict
    · rename_i failed
      cases verdict
      exact .inr ⟨Nat.le_of_not_lt small, Nat.le_of_not_lt complete, failed⟩
    · cases verdict
  · rintro ⟨enough, ⟨wrong, rfl⟩ | ⟨header, ⟨large, rfl⟩ | ⟨small, complete, failed⟩⟩⟩
    · rw [if_neg (Nat.not_lt.mpr enough), if_pos wrong]
    · rw [if_neg (Nat.not_lt.mpr enough), if_neg (not_not_intro header), if_pos large]
    · rw [if_neg (Nat.not_lt.mpr enough), if_neg (not_not_intro header), if_neg (Nat.not_lt.mpr small),
        if_neg (Nat.not_lt.mpr complete), failed]

/-- No verdict on the front of the buffer changes when more bytes arrive. -/
def frameScanner (expectedMac : Option Bytes) : Scanner UInt8 Frame String where
  scan := frameVerdict expectedMac
  idle := rfl
  positive verdict := by
    obtain ⟨-, rfl, -⟩ := frameVerdict_item.mp verdict
    exact Nat.lt_of_lt_of_le (by decide) (declaredSize_large _)
  covered verdict := (frameVerdict_item.mp verdict).2.2.2.1
  whole {buffer size frame} verdict := by
    obtain ⟨header, rfl, small, complete, decoded⟩ := frameVerdict_item.mp verdict
    have large := declaredSize_large buffer
    refine frameVerdict_item.mpr ⟨?_, ?_, small, ?_, ?_⟩
    · rw [List.take_take, Nat.min_eq_left (by omega), header]
    · exact (declaredSize_take (by omega)).symm
    · rw [List.length_take_of_le complete]
    · rw [List.take_take, Nat.min_self, decoded]
  item_stable {buffer size frame} more verdict := by
    obtain ⟨header, rfl, small, complete, decoded⟩ := frameVerdict_item.mp verdict
    have large := declaredSize_large buffer
    refine frameVerdict_item.mpr ⟨?_, ?_, small, ?_, ?_⟩
    · rw [List.take_append_of_le_length (by omega), header]
    · exact (declaredSize_append (by omega) more).symm
    · rw [List.length_append]
      omega
    · rw [List.take_append_of_le_length complete, decoded]
  fault_stable {buffer text} more verdict := by
    obtain ⟨enough, cause⟩ := frameVerdict_fault.mp verdict
    refine frameVerdict_fault.mpr ⟨by rw [List.length_append]; omega, ?_⟩
    rw [List.take_append_of_le_length (by omega), declaredSize_append enough]
    rcases cause with wrong | ⟨header, large | ⟨small, complete, failed⟩⟩
    · exact .inl wrong
    · exact .inr ⟨header, .inl large⟩
    · refine .inr ⟨header, .inr ⟨small, ?_, ?_⟩⟩
      · rw [List.length_append]
        omega
      · rw [List.take_append_of_le_length complete, failed]

/-- With fuel for every byte, `splitFrames` finds what the scanner finds. -/
theorem splitFrames_scans {expectedMac : Option Bytes} {buffer : Bytes} {frames : List (Bytes × Frame)}
    {outcome : Except String Bytes} (scans : Scans (frameScanner expectedMac) buffer frames outcome)
    {fuel : Nat} (enough : buffer.length ≤ fuel) :
    splitFrames expectedMac fuel buffer = outcome.map (frames, ·) := by
  induction scans generalizing fuel with
  | @wait buffer verdict =>
    cases fuel with
    | zero => rfl
    | succ fuel =>
      rcases frameVerdict_wait.mp verdict with short | ⟨long, header, small, incomplete⟩
      · rw [splitFrames, if_pos short]
        rfl
      · rw [splitFrames, if_neg (Nat.not_lt.mpr long), if_neg (not_not_intro header)]
        simp only [declaredSize] at small incomplete
        simp only [if_neg (Nat.not_lt.mpr small), if_pos incomplete]
        rfl
  | @fault buffer text verdict =>
    obtain ⟨long, cause⟩ := frameVerdict_fault.mp verdict
    obtain ⟨fuel, rfl⟩ : ∃ smaller, fuel = smaller + 1 := ⟨fuel - 1, by omega⟩
    rw [splitFrames, if_neg (Nat.not_lt.mpr long)]
    simp only [declaredSize] at cause
    rcases cause with ⟨wrong, rfl⟩ | ⟨header, ⟨large, rfl⟩ | ⟨small, complete, failed⟩⟩
    · rw [if_pos wrong]
      rfl
    · simp only [if_neg (not_not_intro header), gt_iff_lt, if_pos large]
      rfl
    · simp only [if_neg (not_not_intro header), gt_iff_lt, if_neg (Nat.not_lt.mpr small),
        if_neg (Nat.not_lt.mpr complete), failed]
      rfl
  | @item buffer size frame frames outcome verdict later ih =>
    obtain ⟨header, rfl, small, complete, decoded⟩ := frameVerdict_item.mp verdict
    have large := declaredSize_large buffer
    obtain ⟨fuel, rfl⟩ : ∃ smaller, fuel = smaller + 1 := ⟨fuel - 1, by omega⟩
    have remaining := @ih fuel (by rw [List.length_drop]; omega)
    rw [splitFrames, if_neg (by omega), if_neg (not_not_intro header)]
    simp only [declaredSize] at small complete decoded remaining ⊢
    simp only [gt_iff_lt, if_neg (Nat.not_lt.mpr small), if_neg (Nat.not_lt.mpr complete), decoded,
      remaining]
    cases outcome with
    | ok rest => rfl
    | error text => rfl

def FrameStream.fresh (expectedMac : Option Bytes) : FrameStream := { expectedMac }

/-- The buffer holds no complete frame: it is too short for a header and a length,
or it begins with a header and is shorter than the size it declares. -/
def FrameStream.Incomplete (stream : FrameStream) : Prop :=
  stream.buffer.length < 20 ∨
    stream.buffer.take 8 = magic ++ List.replicate 6 0 ∧
      stream.buffer.length < declaredSize stream.buffer ∧ declaredSize stream.buffer ≤ maxData + 29

theorem FrameStream.incomplete_iff {stream : FrameStream} :
    stream.Incomplete ↔ (frameScanner stream.expectedMac).scan stream.buffer = .wait := by
  refine Iff.trans ?_ frameVerdict_wait.symm
  unfold FrameStream.Incomplete
  constructor
  · rintro (short | ⟨header, incomplete, small⟩)
    · exact .inl short
    · by_cases short : stream.buffer.length < 20
      · exact .inl short
      · exact .inr ⟨Nat.le_of_not_lt short, header, small, incomplete⟩
  · rintro (short | ⟨-, header, small, incomplete⟩)
    · exact .inl short
    · exact .inr ⟨header, incomplete, small⟩

theorem FrameStream.Incomplete.length {stream : FrameStream} (incomplete : stream.Incomplete) :
    stream.buffer.length ≤ maxData + 29 := by
  unfold FrameStream.Incomplete maxData at *
  omega

theorem FrameStream.feed_scans {stream : FrameStream} {data : Bytes} {frames : List (Bytes × Frame)}
    {outcome : Except String Bytes}
    (scans : Scans (frameScanner stream.expectedMac) (stream.buffer ++ data) frames outcome) :
    stream.feed data = outcome.map fun rest => (frames, { stream with buffer := rest }) := by
  rw [FrameStream.feed]
  simp only [splitFrames_scans scans le_rfl]
  cases outcome with
  | error text => rfl
  | ok rest =>
    have waits := scans.waits
    have short := (@FrameStream.incomplete_iff { stream with buffer := rest }).mpr waits |>.length
    simp only [Except.map, gt_iff_lt, if_neg (Nat.not_lt.mpr short)]

/-- Chunks fed in order, up to the one that raises: the frames returned before it. -/
def FrameStream.feedEach (stream : FrameStream) :
    List Bytes → List (Bytes × Frame) × Except String FrameStream
  | [] => ([], .ok stream)
  | chunk :: chunks =>
    match stream.feed chunk with
    | .error text => ([], .error text)
    | .ok (frames, after) =>
      let later := after.feedEach chunks
      (frames ++ later.1, later.2)

theorem FrameStream.feedEach_fed (stream : FrameStream) (chunks : List Bytes) :
    Fed (frameScanner stream.expectedMac) stream.buffer chunks (stream.feedEach chunks).1
        ((stream.feedEach chunks).2.map FrameStream.buffer) ∧
      ∀ after, (stream.feedEach chunks).2 = .ok after → after.expectedMac = stream.expectedMac := by
  induction chunks generalizing stream with
  | nil =>
    refine ⟨.done, ?_⟩
    rintro after ⟨⟩
    rfl
  | cons chunk chunks ih =>
    obtain ⟨frames, outcome, scans⟩ :=
      Scans.total (frameScanner stream.expectedMac) (stream.buffer ++ chunk)
    have fed := FrameStream.feed_scans scans
    cases outcome with
    | error text =>
      simp only [Except.map] at fed
      simp only [FrameStream.feedEach, fed]
      exact ⟨.stop scans, fun after passed => by cases passed⟩
    | ok rest =>
      simp only [Except.map] at fed
      obtain ⟨later, identity⟩ := ih { stream with buffer := rest }
      simp only [FrameStream.feedEach, fed]
      exact ⟨.next scans later, identity⟩

theorem FrameStream.fresh_waits (expectedMac : Option Bytes) :
    (frameScanner expectedMac).scan (FrameStream.fresh expectedMac).buffer = .wait :=
  (frameScanner expectedMac).idle

/-- What a fresh stream has returned and kept after chunks that all passed. -/
theorem FrameStream.feedEach_spec {expectedMac : Option Bytes} {chunks : List Bytes}
    {stream : FrameStream} (passed : ((FrameStream.fresh expectedMac).feedEach chunks).2 = .ok stream) :
    rawBytes ((FrameStream.fresh expectedMac).feedEach chunks).1 ++ stream.buffer = chunks.flatten ∧
      stream.expectedMac = expectedMac ∧ stream.Incomplete := by
  obtain ⟨fed, identity⟩ := (FrameStream.fresh expectedMac).feedEach_fed chunks
  rw [passed] at fed
  have scans := fed.scans (FrameStream.fresh_waits expectedMac)
  have same : stream.expectedMac = expectedMac := identity stream passed
  refine ⟨scans.conserved, same, FrameStream.incomplete_iff.mpr ?_⟩
  rw [same]
  exact scans.waits

theorem Frame.decode_error {raw : Bytes} {expectedMac : Option Bytes} {text : String}
    (failed : Frame.decode raw expectedMac = .error text) : text ≠ "Unbounded partial frame" := by
  simp only [Frame.decode] at failed
  split at failed
  · cases failed; decide
  split at failed
  · cases failed; decide
  split at failed
  · cases failed; decide
  split at failed
  · cases failed; decide
  · cases failed

/-- The check on the length of the remaining buffer never fires. -/
theorem FrameStream.feed_bounded (stream : FrameStream) (data : Bytes) :
    stream.feed data ≠ .error "Unbounded partial frame" := by
  obtain ⟨frames, outcome, scans⟩ :=
    Scans.total (frameScanner stream.expectedMac) (stream.buffer ++ data)
  rw [FrameStream.feed_scans scans]
  cases outcome with
  | ok rest => exact fun impossible => by cases impossible
  | error text =>
    obtain ⟨rest, verdict⟩ := scans.faulted
    obtain ⟨-, ⟨-, rfl⟩ | ⟨-, ⟨-, rfl⟩ | ⟨-, -, failed⟩⟩⟩ := frameVerdict_fault.mp verdict
    · exact fun same => absurd (Except.error.inj same) (by decide)
    · exact fun same => absurd (Except.error.inj same) (by decide)
    · intro same
      exact Frame.decode_error failed (Except.error.inj same)

/-- The reads that deliver a stream do not matter: neither to whether it is refused,
nor to the frames and the buffer when it is not. A refused stream has returned a
beginning of what it returns byte by byte. What was returned and what is buffered are
the bytes fed so far, and the buffer never holds a complete or oversized frame. -/
theorem segmentation_independent {expectedMac : Option Bytes} {chunks others : List Bytes}
    (same : chunks.flatten = others.flatten) :
    ((∃ text, ((FrameStream.fresh expectedMac).feedEach chunks).2 = .error text) ↔
      ∃ text, ((FrameStream.fresh expectedMac).feedEach others).2 = .error text) ∧
    (∀ stream, ((FrameStream.fresh expectedMac).feedEach chunks).2 = .ok stream →
      (FrameStream.fresh expectedMac).feedEach others = (FrameStream.fresh expectedMac).feedEach chunks) ∧
    (∀ text, ((FrameStream.fresh expectedMac).feedEach chunks).2 = .error text →
      ((FrameStream.fresh expectedMac).feedEach chunks).1 <+:
        ((FrameStream.fresh expectedMac).feedEach (chunks.flatten.map ([·]))).1) ∧
    ∀ fed rest stream, chunks = fed ++ rest →
      ((FrameStream.fresh expectedMac).feedEach fed).2 = .ok stream →
      rawBytes ((FrameStream.fresh expectedMac).feedEach fed).1 ++ stream.buffer = fed.flatten ∧
        stream.Incomplete ∧ ∀ chunk, stream.feed chunk ≠ .error "Unbounded partial frame" := by
  have waits := FrameStream.fresh_waits expectedMac
  obtain ⟨here, identity⟩ := (FrameStream.fresh expectedMac).feedEach_fed chunks
  obtain ⟨there, identity'⟩ := (FrameStream.fresh expectedMac).feedEach_fed others
  obtain ⟨outcome, frames⟩ := here.independent waits same there
  refine ⟨?_, ?_, ?_, ?_⟩
  · cases first : ((FrameStream.fresh expectedMac).feedEach chunks).2 <;>
      cases second : ((FrameStream.fresh expectedMac).feedEach others).2 <;>
      simp_all [Except.map]
  · intro stream passed
    rw [passed] at outcome frames
    cases second : ((FrameStream.fresh expectedMac).feedEach others).2 with
    | error text =>
      rw [second] at outcome
      cases outcome
    | ok last =>
      rw [second] at outcome
      have buffers : stream.buffer = last.buffer := Except.ok.inj outcome
      have same : last = stream := by
        have left := identity stream passed
        have right := identity' last second
        cases stream
        cases last
        simp_all
      refine Prod.ext (frames _ rfl).symm ?_
      rw [second, passed, same]
  · intro text failed
    rw [failed] at here
    obtain ⟨all, initial, scans⟩ := here.fails
    obtain ⟨bytewise, -⟩ :=
      (FrameStream.fresh expectedMac).feedEach_fed (chunks.flatten.map ([·]))
    have joined : (chunks.flatten.map ([·])).flatten = chunks.flatten := by
      rw [← List.flatMap_def, List.flatMap_singleton']
    obtain ⟨agrees, -⟩ := here.independent waits joined.symm bytewise
    rw [← agrees] at bytewise
    obtain ⟨rfl, -⟩ := scans.unique (bytewise.fails_single waits)
    exact initial
  · rintro fed rest stream - passed
    obtain ⟨conserved, -, incomplete⟩ := FrameStream.feedEach_spec passed
    exact ⟨conserved, incomplete, stream.feed_bounded⟩

/-- A frame whose data imitate a header and a terminator. -/
def imitationFrame : Frame :=
  { mac := [1, 2, 3, 4, 5, 6], timestamp := 7, function := 9, opcode := 0x24
    data := [0x0d, 0x0e, 0, 0, 0, 0, 0, 0, 0x16] }

def imitationRaw : Bytes := imitationFrame.body ++ toBytes 2 (checksum imitationFrame.body) ++ [0x16]

theorem segmentation_independent_example :
    (FrameStream.fresh (some [1, 2, 3, 4, 5, 6])).feedEach [imitationRaw.take 9, imitationRaw.drop 9] =
      (FrameStream.fresh (some [1, 2, 3, 4, 5, 6])).feedEach [imitationRaw] :=
  (segmentation_independent (by decide)).2.1 { buffer := [], expectedMac := some [1, 2, 3, 4, 5, 6] }
    (by decide +kernel)

/-- An encoding is an item of the stream. -/
theorem frameVerdict_encoding {expectedMac : Option Bytes} {frame : Frame} {raw : Bytes}
    (encoded : frame.encode = .ok raw) (carried : ∀ mac, expectedMac = some mac → frame.mac = mac) :
    frameVerdict expectedMac raw = .item raw.length frame := by
  have bounded := (Frame.encode_ok.mp encoded).1
  have laid := Frame.laid encoded
  have formed := laid.wellFormed bounded
  have size : raw.length = declaredSize raw := formed.size
  have data := formed.data
  refine frameVerdict_item.mpr ⟨formed.header, size, ?_, le_rfl, ?_⟩
  · rw [size, declaredSize]
    omega
  · rw [List.take_length]
    exact Frame.decode_encoding encoded carried

/-- Several encodings and their frames, in order. -/
theorem encodings_zip {frames : List Frame} {raws : List Bytes}
    (encoded : frames.mapM Frame.encode = .ok raws) :
    (∀ entry ∈ raws.zip frames, entry.2.encode = .ok entry.1 ∧ entry.2 ∈ frames) ∧
      symbols (raws.zip frames) = raws.flatten ∧ (raws.zip frames).map Prod.snd = frames := by
  induction frames generalizing raws with
  | nil =>
    cases encoded
    simp
  | cons frame frames ih =>
    rw [List.mapM_cons] at encoded
    cases first : frame.encode with
    | error text => rw [first] at encoded; cases encoded
    | ok raw =>
      cases rest : frames.mapM Frame.encode with
      | error text => rw [first, rest] at encoded; cases encoded
      | ok later =>
        rw [first, rest] at encoded
        cases encoded
        obtain ⟨entries, joined, contents⟩ := ih rest
        refine ⟨?_, ?_, ?_⟩
        · intro entry member
          rcases List.mem_cons.mp member with rfl | old
          · exact ⟨first, List.mem_cons_self ..⟩
          · exact ⟨(entries entry old).1, List.mem_cons_of_mem _ (entries entry old).2⟩
        · simp [joined]
        · simp [contents]

/-- Encodings and an unfinished one come out of the scanner as they went in. -/
theorem encodings_scan {expectedMac : Option Bytes} {frames : List Frame} {raws : List Bytes}
    {start : Bytes} (encoded : frames.mapM Frame.encode = .ok raws)
    (waits : (frameScanner expectedMac).scan start = .wait)
    (carried : ∀ frame ∈ frames, ∀ mac, expectedMac = some mac → frame.mac = mac) :
    Scans (frameScanner expectedMac) (raws.flatten ++ start) (raws.zip frames) (.ok start) := by
  obtain ⟨entries, joined, -⟩ := encodings_zip encoded
  have scans := Scans.of_genuine waits fun entry member =>
    frameVerdict_encoding (entries entry member).1 (carried _ (entries entry member).2)
  rwa [joined] at scans

/-- Encoded frames that carry the expected identity, followed by a proper beginning of
one more, are split exactly where they were joined, however they are cut into chunks;
so no other list of frames has the same bytes. -/
theorem framing_self_delimiting {expectedMac : Option Bytes} {frames : List Frame} {further : Frame}
    {raws chunks : List Bytes} {start more : Bytes} (encoded : frames.mapM Frame.encode = .ok raws)
    (next : further.encode = .ok (start ++ more)) (proper : more ≠ [])
    (carried : ∀ frame ∈ further :: frames, ∀ mac, expectedMac = some mac → frame.mac = mac)
    (cut : chunks.flatten = raws.flatten ++ start) :
    ∃ stream, (FrameStream.fresh expectedMac).feedEach chunks = (raws.zip frames, .ok stream) ∧
      (raws.zip frames).map Prod.snd = frames ∧ stream.buffer = start ∧
      ((∃ text, stream.finish = .error text) ↔ start ≠ []) ∧
      ∀ (others : List Frame) found, others.mapM Frame.encode = .ok found →
        found.flatten = raws.flatten → others = frames := by
  obtain ⟨-, -, contents⟩ := encodings_zip encoded
  have item := frameVerdict_encoding next (carried further (List.mem_cons_self ..))
  have waits := (frameScanner expectedMac).waits_within item proper
  have scans := encodings_scan encoded waits fun frame member =>
    carried frame (List.mem_cons_of_mem _ member)
  rw [← cut] at scans
  have fresh := FrameStream.fresh_waits expectedMac
  obtain ⟨fed, -⟩ := (FrameStream.fresh expectedMac).feedEach_fed chunks
  cases passed : ((FrameStream.fresh expectedMac).feedEach chunks).2 with
  | error text =>
    rw [passed] at fed
    obtain ⟨all, -, failed⟩ := fed.fails
    cases (scans.unique failed).2
  | ok stream =>
    rw [passed] at fed
    obtain ⟨frames', buffer⟩ := (fed.scans fresh).unique scans
    have kept : stream.buffer = start := Except.ok.inj buffer
    refine ⟨stream, Prod.ext frames' passed, contents, kept, ?_, ?_⟩
    · rw [← kept, FrameStream.finish]
      by_cases empty : stream.buffer = [] <;> simp [empty]
    · intro others found encoded' same
      have first := @encodings_scan none _ _ [] encoded rfl (by simp)
      have second := @encodings_scan none _ _ [] encoded' rfl (by simp)
      rw [same] at second
      have equal := (second.unique first).1
      rw [← contents, ← equal, (encodings_zip encoded').2.2]

theorem framing_self_delimiting_example :
    ∃ stream, (FrameStream.fresh (some [1, 2, 3, 4, 5, 6])).feedEach
        [imitationRaw.take 19, imitationRaw.drop 19 ++ imitationRaw.take 3] =
      ([(imitationRaw, imitationFrame)], .ok stream) ∧ stream.buffer = imitationRaw.take 3 := by
  obtain ⟨stream, fed, -, kept, -⟩ := @framing_self_delimiting (some [1, 2, 3, 4, 5, 6]) [imitationFrame]
    imitationFrame [imitationRaw] [imitationRaw.take 19, imitationRaw.drop 19 ++ imitationRaw.take 3]
    (imitationRaw.take 3) (imitationRaw.drop 3) (by decide +kernel) (by decide +kernel)
    (by decide +kernel) (by decide) (by decide)
  exact ⟨stream, fed, kept⟩

end AlorairLite.Local
