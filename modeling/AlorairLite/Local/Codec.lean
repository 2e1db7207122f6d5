import AlorairLite.Local.Protocol
import Mathlib.Data.List.Basic
import Mathlib.Data.List.Induction
import Mathlib.Tactic.Ring

/-! The frame codec as a bijection: every frame within the encoder's bounds is read
back, and every byte string the decoder accepts is the encoding of what it returns. No
encoding with one byte changed is accepted. -/

namespace AlorairLite.Local

@[simp] theorem magic_length : magic.length = 2 := rfl

@[simp] theorem toBytes_length (width n : Nat) : (toBytes width n).length = width := by
  induction width generalizing n with
  | zero => rfl
  | succ width ih => simp [toBytes, ih]

@[simp] theorem fromBytes_nil : fromBytes [] = 0 := rfl

@[simp] theorem fromBytes_append_singleton (raw : Bytes) (byte : UInt8) :
    fromBytes (raw ++ [byte]) = fromBytes raw * 256 + byte.toNat := by
  simp [fromBytes, List.foldl_append]

theorem fromBytes_toBytes {width n : Nat} (small : n < 256 ^ width) :
    fromBytes (toBytes width n) = n := by
  induction width generalizing n with
  | zero =>
    have zero : n = 0 := by simpa using small
    rw [zero, toBytes, fromBytes_nil]
  | succ width ih =>
    have high : n / 256 < 256 ^ width := by
      rw [Nat.div_lt_iff_lt_mul (by decide)]
      simpa [Nat.pow_succ] using small
    have low : (UInt8.ofNat n).toNat = n % 256 := by simp
    rw [toBytes, fromBytes_append_singleton, ih high, low]
    omega

theorem fromBytes_lt (raw : Bytes) : fromBytes raw < 256 ^ raw.length := by
  induction raw using List.reverseRecOn with
  | nil => simp
  | append_singleton raw byte ih =>
    have bound := byte.toNat_lt
    rw [fromBytes_append_singleton, List.length_append, List.length_singleton, Nat.pow_succ]
    omega

theorem toBytes_fromBytes (raw : Bytes) : toBytes raw.length (fromBytes raw) = raw := by
  induction raw using List.reverseRecOn with
  | nil => rfl
  | append_singleton raw byte ih =>
    have bound := byte.toNat_lt
    have high : (fromBytes raw * 256 + byte.toNat) / 256 = fromBytes raw := by omega
    have low : UInt8.ofNat (fromBytes raw * 256 + byte.toNat) = byte := by
      apply UInt8.toNat_inj.mp
      rw [UInt8.toNat_ofNat']
      omega
    rw [List.length_append, List.length_singleton, toBytes, fromBytes_append_singleton, high, low, ih]

theorem slice_length {raw : Bytes} {low high : Nat} (within : high ≤ raw.length) :
    (slice raw low high).length = high - low := by
  rw [slice, List.length_drop, List.length_take_of_le within]

/-- The part of an append between two known offsets. -/
theorem slice_between {front part back : Bytes} {low high : Nat} (start : front.length = low)
    (stop : front.length + part.length = high) : slice (front ++ (part ++ back)) low high = part := by
  subst start
  have kept : (front ++ (part ++ back)).take high = front ++ part := by
    rw [← List.append_assoc, ← stop, ← List.length_append, List.take_left]
  rw [slice, kept, List.drop_left]

theorem slice_append_slice (raw : Bytes) {low middle high : Nat} (first : low ≤ middle)
    (second : middle ≤ high) : slice raw low middle ++ slice raw middle high = slice raw low high := by
  have cut : raw.take middle = (raw.take high).take middle := by
    rw [List.take_take, Nat.min_eq_left second]
  have rest : (raw.take high).drop middle = ((raw.take high).drop low).drop (middle - low) := by
    rw [List.drop_drop, Nat.add_sub_cancel' first]
  rw [slice, slice, slice, cut, List.drop_take, rest, List.take_append_drop]

theorem slice_start (raw : Bytes) (high : Nat) : slice raw 0 high = raw.take high := rfl

theorem slice_single {raw : Bytes} {index : Nat} (within : index < raw.length) :
    slice raw index (index + 1) = [raw.getD index 0] := by
  rw [slice, List.take_succ_eq_append_getElem within, List.drop_append_of_le_length (by simp; omega)]
  simp [List.getElem?_eq_getElem within]

/-- The bounds `encode` enforces, itself or through `bytes`. -/
structure Frame.Bounded (frame : Frame) : Prop where
  mac : frame.mac.length = 6
  reserved : frame.reserved.length = 4
  data : frame.data.length ≤ maxData
  timestamp : 0 ≤ frame.timestamp ∧ frame.timestamp ≤ 0xFFFFFFFF
  function : 0 ≤ frame.function ∧ frame.function < 256
  opcode : 0 ≤ frame.opcode ∧ frame.opcode < 256

theorem Frame.encode_ok {frame : Frame} {raw : Bytes} :
    frame.encode = .ok raw ↔
      frame.Bounded ∧ raw = frame.body ++ toBytes 2 (checksum frame.body) ++ [0x16] := by
  unfold Frame.encode
  constructor
  · intro encoded
    split at encoded
    · cases encoded
    rename_i lengths
    split at encoded
    · cases encoded
    rename_i ranges
    split at encoded
    · cases encoded
    rename_i bytes
    simp only [not_or, Decidable.not_not, isByte, Bool.and_eq_true, decide_eq_true_eq] at *
    exact ⟨⟨lengths.1, lengths.2, Nat.le_of_not_lt ranges.1, ranges.2, bytes.1, bytes.2⟩,
      (Except.ok.inj encoded).symm⟩
  · rintro ⟨bounded, rfl⟩
    have lengths : ¬ (frame.mac.length ≠ 6 ∨ frame.reserved.length ≠ 4) := by
      simp [bounded.mac, bounded.reserved]
    have ranges : ¬ (frame.data.length > maxData ∨
        ¬ (0 ≤ frame.timestamp ∧ frame.timestamp ≤ 0xFFFFFFFF)) := by
      have data := bounded.data
      have timestamp := bounded.timestamp
      omega
    have bytes : isByte frame.function ∧ isByte frame.opcode := by
      simp [isByte, bounded.function, bounded.opcode]
    rw [if_neg lengths, if_neg ranges, if_neg (not_not_intro bytes)]

theorem Frame.body_length {frame : Frame} (bounded : frame.Bounded) :
    frame.body.length = 26 + frame.data.length := by
  simp [Frame.body, bounded.mac, bounded.reserved]
  omega

/-- What the decoder checks of a byte string, apart from its identity. -/
structure WellFormed (raw : Bytes) : Prop where
  header : raw.take 8 = magic ++ List.replicate 6 0
  size : raw.length = 29 + fromBytes (slice raw 18 20)
  data : fromBytes (slice raw 18 20) ≤ maxData
  terminator : raw.getLast? = some 0x16
  checksum : checksum (raw.take (raw.length - 3)) =
    fromBytes (slice raw (raw.length - 3) (raw.length - 1))

/-- The frame the decoder reads at the offsets of a byte string. -/
def Frame.parsed (raw : Bytes) : Frame where
  mac := slice raw 8 14
  timestamp := fromBytes (slice raw 14 18)
  function := (raw.getD 20 0).toNat
  opcode := (raw.getD 21 0).toNat
  data := slice raw 26 (raw.length - 3)
  reserved := slice raw 22 26

theorem Frame.decode_ok {raw : Bytes} {expectedMac : Option Bytes} {frame : Frame} :
    Frame.decode raw expectedMac = .ok frame ↔
      WellFormed raw ∧ (∀ mac, expectedMac = some mac → slice raw 8 14 = mac) ∧
        frame = Frame.parsed raw := by
  unfold Frame.decode
  constructor
  · intro decoded
    simp only at decoded
    split at decoded
    · cases decoded
    rename_i header
    split at decoded
    · cases decoded
    rename_i size
    split at decoded
    · cases decoded
    rename_i trailer
    split at decoded
    · cases decoded
    rename_i identity
    simp only [not_or, Decidable.not_not, Nat.not_lt, gt_iff_lt] at header size trailer
    refine ⟨⟨header.2, size.2, size.1, trailer.1, trailer.2⟩, ?_, (Except.ok.inj decoded).symm⟩
    rintro mac rfl
    simpa using identity
  · rintro ⟨formed, identity, rfl⟩
    have header : ¬ (raw.length < 29 ∨ raw.take 8 ≠ magic ++ List.replicate 6 0) := by
      have size := formed.size
      simp only [formed.header, ne_eq, not_true_eq_false, or_false]
      omega
    have size : ¬ (fromBytes (slice raw 18 20) > maxData ∨
        raw.length ≠ 29 + fromBytes (slice raw 18 20)) := by
      have data := formed.data
      have size := formed.size
      omega
    have trailer : ¬ (raw.getLast? ≠ some 0x16 ∨ AlorairLite.Local.checksum
        (raw.take (raw.length - 3)) ≠ fromBytes (slice raw (raw.length - 3) (raw.length - 1))) := by
      simp [formed.terminator, formed.checksum]
    have expected : ¬ (expectedMac.isSome ∧ some (slice raw 8 14) ≠ expectedMac) := by
      cases expectedMac with
      | none => simp
      | some mac => simp [identity mac rfl]
    simp only [if_neg header, if_neg size, if_neg trailer, if_neg expected]
    rfl

/-- The offsets of the fields of an encoded frame. -/
structure Frame.Laid (frame : Frame) (raw : Bytes) : Prop where
  length : raw.length = 29 + frame.data.length
  header : raw.take 8 = magic ++ List.replicate 6 0
  mac : slice raw 8 14 = frame.mac
  timestamp : slice raw 14 18 = toBytes 4 frame.timestamp.toNat
  size : slice raw 18 20 = toBytes 2 frame.data.length
  kind : slice raw 20 22 = [UInt8.ofNat frame.function.toNat, UInt8.ofNat frame.opcode.toNat]
  reserved : slice raw 22 26 = frame.reserved
  data : slice raw 26 (raw.length - 3) = frame.data
  body : raw.take (raw.length - 3) = frame.body
  checksum : slice raw (raw.length - 3) (raw.length - 1) = toBytes 2 (checksum frame.body)
  terminator : raw.getLast? = some 0x16

theorem Frame.laid {frame : Frame} {raw : Bytes} (encoded : frame.encode = .ok raw) :
    frame.Laid raw := by
  obtain ⟨bounded, rfl⟩ := Frame.encode_ok.mp encoded
  have body := Frame.body_length bounded
  have length : (frame.body ++ toBytes 2 (AlorairLite.Local.checksum frame.body) ++ [0x16]).length =
      29 + frame.data.length := by
    simp only [List.length_append, body, toBytes_length, List.length_singleton]
    omega
  -- The fields in order, each with the bytes before and after it.
  let tail := toBytes 2 (AlorairLite.Local.checksum frame.body) ++ [(0x16 : UInt8)]
  have fields : frame.body ++ toBytes 2 (AlorairLite.Local.checksum frame.body) ++ [0x16] =
      (magic ++ List.replicate 6 0) ++ (frame.mac ++ (toBytes 4 frame.timestamp.toNat ++
        (toBytes 2 frame.data.length ++ ([UInt8.ofNat frame.function.toNat,
          UInt8.ofNat frame.opcode.toNat] ++ (frame.reserved ++ (frame.data ++ tail)))))) := by
    simp only [Frame.body, tail, List.append_assoc]
  refine { length, header := ?_, mac := ?_, timestamp := ?_, size := ?_, kind := ?_, reserved := ?_
           data := ?_, body := ?_, checksum := ?_, terminator := by simp }
  · rw [fields]
    exact List.take_left' (by simp)
  · rw [fields]
    exact slice_between (by simp) (by simp [bounded.mac])
  · rw [fields, ← List.append_assoc]
    exact slice_between (by simp [bounded.mac]) (by simp [bounded.mac])
  · rw [fields, ← List.append_assoc, ← List.append_assoc]
    exact slice_between (by simp [bounded.mac]) (by simp [bounded.mac])
  · rw [fields, ← List.append_assoc, ← List.append_assoc, ← List.append_assoc]
    exact slice_between (by simp [bounded.mac]) (by simp [bounded.mac])
  · rw [fields, ← List.append_assoc, ← List.append_assoc, ← List.append_assoc, ← List.append_assoc]
    exact slice_between (by simp [bounded.mac]) (by simp [bounded.mac, bounded.reserved])
  · rw [length, fields, ← List.append_assoc, ← List.append_assoc, ← List.append_assoc,
      ← List.append_assoc, ← List.append_assoc]
    refine slice_between (by simp [bounded.mac, bounded.reserved]) ?_
    simp [bounded.mac, bounded.reserved]
    omega
  · rw [length, List.append_assoc]
    have stop : 29 + frame.data.length - 3 = frame.body.length := by omega
    rw [stop, List.take_left]
  · rw [length, List.append_assoc]
    exact slice_between (by omega) (by simp; omega)

/-- An encoding passes the decoder's checks. -/
theorem Frame.Laid.wellFormed {frame : Frame} {raw : Bytes} (laid : frame.Laid raw)
    (bounded : frame.Bounded) : WellFormed raw := by
  have data := bounded.data
  have size : fromBytes (slice raw 18 20) = frame.data.length := by
    rw [laid.size]
    exact fromBytes_toBytes (by unfold maxData at data; omega)
  refine { header := laid.header, size := ?_, data := by omega, terminator := laid.terminator
           checksum := ?_ }
  · rw [size, laid.length]
  · rw [laid.checksum, laid.body]
    have small : AlorairLite.Local.checksum frame.body < 256 ^ 2 := Nat.mod_lt _ (by decide)
    exact (fromBytes_toBytes small).symm

/-- The decoder reads back every field of an encoding. -/
theorem Frame.Laid.parsed {frame : Frame} {raw : Bytes} (laid : frame.Laid raw)
    (bounded : frame.Bounded) : Frame.parsed raw = frame := by
  have timestamp : (fromBytes (slice raw 14 18) : Int) = frame.timestamp := by
    have range := bounded.timestamp
    rw [laid.timestamp, fromBytes_toBytes (by omega)]
    omega
  have first : raw.getD 20 0 = UInt8.ofNat frame.function.toNat ∧
      raw.getD 21 0 = UInt8.ofNat frame.opcode.toNat := by
    have within := laid.length
    have pair := @slice_append_slice raw 20 21 22 (by decide) (by decide)
    rw [slice_single (by omega), slice_single (by omega), laid.kind] at pair
    simpa using pair
  have function : ((raw.getD 20 0).toNat : Int) = frame.function := by
    have range := bounded.function
    rw [first.1, UInt8.toNat_ofNat']
    omega
  have opcode : ((raw.getD 21 0).toNat : Int) = frame.opcode := by
    have range := bounded.opcode
    rw [first.2, UInt8.toNat_ofNat']
    omega
  rw [Frame.parsed, laid.mac, timestamp, function, opcode, laid.data, laid.reserved]

/-- The fields the decoder reads are within the encoder's bounds. -/
theorem WellFormed.bounded {raw : Bytes} (formed : WellFormed raw) : (Frame.parsed raw).Bounded := by
  have size := formed.size
  have data := formed.data
  have timestamp := fromBytes_lt (slice raw 14 18)
  have function := (raw.getD 20 0).toNat_lt
  have opcode := (raw.getD 21 0).toNat_lt
  rw [slice_length (by omega)] at timestamp
  refine ⟨?_, ?_, ?_, ?_, ?_, ?_⟩
  · exact slice_length (by omega)
  · exact slice_length (by omega)
  · simp only [Frame.parsed]
    rw [slice_length (by omega)]
    omega
  · simp only [Frame.parsed]
    omega
  · simp only [Frame.parsed]
    omega
  · simp only [Frame.parsed]
    omega

/-- The fields the decoder reads, in order, are the bytes before the checksum. -/
theorem WellFormed.body {raw : Bytes} (formed : WellFormed raw) :
    (Frame.parsed raw).body = raw.take (raw.length - 3) := by
  have size := formed.size
  have timestamp : toBytes 4 (fromBytes (slice raw 14 18)) = slice raw 14 18 := by
    have back := toBytes_fromBytes (slice raw 14 18)
    rwa [slice_length (by omega)] at back
  have declared : toBytes 2 (slice raw 26 (raw.length - 3)).length = slice raw 18 20 := by
    have back := toBytes_fromBytes (slice raw 18 20)
    rw [slice_length (by omega)] at back
    rw [slice_length (by omega)]
    have same : raw.length - 3 - 26 = fromBytes (slice raw 18 20) := by omega
    rwa [same]
  have kind : [raw.getD 20 0] ++ [raw.getD 21 0] = slice raw 20 22 := by
    rw [← slice_single (by omega), ← slice_single (by omega)]
    exact slice_append_slice raw (by decide) (by decide)
  have bytes : [UInt8.ofNat (raw.getD 20 0).toNat, UInt8.ofNat (raw.getD 21 0).toNat] =
      slice raw 20 22 := by
    simpa using kind
  simp only [Frame.body, Frame.parsed, Int.toNat_natCast, timestamp, declared, bytes, ← formed.header,
    ← slice_start]
  rw [slice_append_slice raw (by decide) (by decide), slice_append_slice raw (by decide) (by decide),
    slice_append_slice raw (by decide) (by decide), slice_append_slice raw (by decide) (by decide),
    slice_append_slice raw (by decide) (by decide), slice_append_slice raw (by decide) (by omega)]

/-- What the decoder accepts is the encoding of what it returns. -/
theorem WellFormed.encode {raw : Bytes} (formed : WellFormed raw) :
    (Frame.parsed raw).encode = .ok raw := by
  refine Frame.encode_ok.mpr ⟨formed.bounded, ?_⟩
  have size := formed.size
  have sum : toBytes 2 (AlorairLite.Local.checksum (Frame.parsed raw).body) =
      slice raw (raw.length - 3) (raw.length - 1) := by
    have back := toBytes_fromBytes (slice raw (raw.length - 3) (raw.length - 1))
    rw [slice_length (by omega)] at back
    have width : raw.length - 1 - (raw.length - 3) = 2 := by omega
    rw [width] at back
    rw [formed.body, formed.checksum, back]
  have last : raw.take (raw.length - 1) ++ [0x16] = raw := by
    have whole := List.dropLast_append_getLast? 0x16 (show 0x16 ∈ raw.getLast? from formed.terminator)
    rwa [List.dropLast_eq_take] at whole
  rw [sum, formed.body, ← slice_start, slice_append_slice raw (by omega) (by omega), slice_start, last]

/-- The decoder reads back an encoding that carries the expected identity. -/
theorem Frame.decode_encoding {frame : Frame} {raw : Bytes} {expectedMac : Option Bytes}
    (encoded : frame.encode = .ok raw) (carried : ∀ mac, expectedMac = some mac → frame.mac = mac) :
    Frame.decode raw expectedMac = .ok frame := by
  have bounded := (Frame.encode_ok.mp encoded).1
  have laid := Frame.laid encoded
  refine Frame.decode_ok.mpr ⟨laid.wellFormed bounded, ?_, (laid.parsed bounded).symm⟩
  rw [laid.mac]
  exact carried

/-- Encoding and decoding are inverse to each other: `encode` accepts the frames
within its bounds and `decode` reads them back, and `decode` accepts exactly the
encodings of such frames that carry the expected identity. -/
theorem frame_codec :
    (∀ frame : Frame, (∃ raw, frame.encode = .ok raw) ↔ frame.Bounded) ∧
    (∀ (frame : Frame) raw, frame.encode = .ok raw →
      Frame.decode raw none = .ok frame ∧ Frame.decode raw (some frame.mac) = .ok frame) ∧
    (∀ raw expectedMac frame, Frame.decode raw expectedMac = .ok frame → frame.encode = .ok raw) ∧
    ∀ raw expectedMac, (∃ frame, Frame.decode raw expectedMac = .ok frame) ↔
      ∃ frame : Frame, frame.Bounded ∧ frame.encode = .ok raw ∧
        ∀ mac, expectedMac = some mac → frame.mac = mac := by
  refine ⟨fun frame => ⟨?_, ?_⟩, ?_, ?_, fun raw expectedMac => ⟨?_, ?_⟩⟩
  · rintro ⟨raw, encoded⟩
    exact (Frame.encode_ok.mp encoded).1
  · intro bounded
    exact ⟨_, Frame.encode_ok.mpr ⟨bounded, rfl⟩⟩
  · intro frame raw encoded
    refine ⟨Frame.decode_encoding encoded (by simp), Frame.decode_encoding encoded ?_⟩
    intro mac same
    exact Option.some.inj same
  · intro raw expectedMac frame decoded
    obtain ⟨formed, -, rfl⟩ := Frame.decode_ok.mp decoded
    exact formed.encode
  · rintro ⟨frame, decoded⟩
    obtain ⟨formed, identity, rfl⟩ := Frame.decode_ok.mp decoded
    exact ⟨_, formed.bounded, formed.encode, identity⟩
  · rintro ⟨frame, -, encoded, identity⟩
    exact ⟨frame, Frame.decode_encoding encoded identity⟩

section Corruption

variable {raw : Bytes} {position : Nat} {byte : UInt8}

/-- Replacing one byte moves the sum by less than the checksum's modulus. -/
theorem sum_set (raw : Bytes) (within : position < raw.length) :
    ((raw.set position byte).map UInt8.toNat).sum + (raw.getD position 0).toNat =
      (raw.map UInt8.toNat).sum + byte.toNat := by
  induction raw generalizing position with
  | nil => simp at within
  | cons head rest ih =>
    cases position with
    | zero =>
      simp only [List.set_cons_zero, List.map_cons, List.sum_cons, List.getD_cons_zero]
      omega
    | succ position =>
      have later := ih (Nat.lt_of_succ_lt_succ within)
      simp only [List.set_cons_succ, List.map_cons, List.sum_cons, List.getD_cons_succ]
      omega

theorem checksum_set (within : position < raw.length) (differs : byte ≠ raw.getD position 0) :
    checksum (raw.set position byte) ≠ checksum raw := by
  intro same
  have moved := @sum_set position byte raw within
  have new := byte.toNat_lt
  have old := (raw.getD position 0).toNat_lt
  have equal : byte.toNat = (raw.getD position 0).toNat := by
    unfold checksum at same
    omega
  exact differs (UInt8.toNat_inj.mp equal)

theorem set_ne (within : position < raw.length) (differs : byte ≠ raw.getD position 0) :
    raw.set position byte ≠ raw := by
  intro same
  have read : (raw.set position byte).getD position 0 = byte := by
    simp [List.getElem?_set_self within]
  exact differs (read.symm.trans (congrArg (fun bytes : Bytes => bytes.getD position 0) same))

theorem take_getD {count : Nat} (early : position < count) :
    (raw.take count).getD position 0 = raw.getD position 0 := by
  simp [List.getElem?_take_of_lt early]

/-- What follows the bytes that the checksum covers: that checksum and the terminator. -/
theorem WellFormed.trailer (formed : WellFormed raw) :
    raw.drop (raw.length - 3) = toBytes 2 (Local.checksum (raw.take (raw.length - 3))) ++ [0x16] := by
  have encoded := (Frame.encode_ok.mp formed.encode).2
  rw [formed.body, List.append_assoc] at encoded
  exact List.append_cancel_left ((List.take_append_drop (raw.length - 3) raw).trans encoded)

/-- A well-formed byte string with one byte changed is not well formed. -/
theorem WellFormed.not_set (formed : WellFormed raw) (within : position < raw.length)
    (differs : byte ≠ raw.getD position 0) : ¬ WellFormed (raw.set position byte) := by
  intro altered
  have trailer := formed.trailer
  have trailer' := altered.trailer
  rw [List.length_set, List.take_set] at trailer'
  by_cases early : position < raw.length - 3
  · -- The sum changes, but not the two bytes that have to agree with it.
    have covered : position < (raw.take (raw.length - 3)).length := by
      rw [List.length_take]
      omega
    have small : ∀ bytes, Local.checksum bytes < 256 ^ 2 := fun bytes => Nat.mod_lt _ (by decide)
    have stored : toBytes 2 (Local.checksum ((raw.take (raw.length - 3)).set position byte)) =
        toBytes 2 (Local.checksum (raw.take (raw.length - 3))) := by
      rw [List.drop_set_of_lt early, trailer] at trailer'
      exact (List.append_cancel_right trailer').symm
    apply checksum_set covered (by rwa [take_getD early])
    rw [← fromBytes_toBytes (small _), stored, fromBytes_toBytes (small _)]
  · -- The sum stays, and with it all that may follow.
    have kept : (raw.take (raw.length - 3)).set position byte = raw.take (raw.length - 3) := by
      apply List.set_eq_of_length_le
      rw [List.length_take]
      omega
    apply set_ne within differs
    rw [kept, ← trailer] at trailer'
    rw [← List.take_append_drop (raw.length - 3) (raw.set position byte), trailer', List.take_set, kept,
      List.take_append_drop]

/-- A decoder notices every change of one byte of an encoding, whatever identity it expects. -/
theorem corruption_detected {frame : Frame} (bounded : frame.Bounded) :
    ∃ raw, frame.encode = .ok raw ∧ ∀ (position : Nat) (byte : UInt8), position < raw.length →
      byte ≠ raw.getD position 0 → ∀ expectedMac, ∃ text,
        Frame.decode (raw.set position byte) expectedMac = .error text := by
  have encoded := Frame.encode_ok.mpr ⟨bounded, rfl⟩
  refine ⟨_, encoded, ?_⟩
  intro position byte within differs expectedMac
  have formed := (Frame.laid encoded).wellFormed bounded
  cases decoded : Frame.decode (List.set _ position byte) expectedMac with
  | error text => exact ⟨text, rfl⟩
  | ok altered => exact absurd (Frame.decode_ok.mp decoded).1 (formed.not_set within differs)

/-- Even one whose 16-bit sum wraps. -/
theorem corruption_detected_example : ∃ raw, (⟨List.replicate 6 255, 0, 9, 0x21,
    List.replicate 256 255, List.replicate 4 255⟩ : Frame).encode = .ok raw ∧
      ∀ (position : Nat) (byte : UInt8), position < raw.length → byte ≠ raw.getD position 0 →
        ∀ expectedMac, ∃ text, Frame.decode (raw.set position byte) expectedMac = .error text := by
  apply corruption_detected
  exact ⟨rfl, rfl, List.length_replicate.le, by decide, by decide, by decide⟩

end Corruption

end AlorairLite.Local
