import Mathlib.Algebra.Ring.Nat

/-! Storm/Lite framing and status decoding, after `local_protocol.py`. A raised
`ValueError` is an error carrying its text. -/

namespace AlorairLite.Local

abbrev Bytes := List UInt8

def magic : Bytes := [0x0d, 0x0e]

def maxData : Nat := 256

def humidityTargets : List Int := 20 :: (List.range 12).map fun step : Nat => (25 + 5 * step : Int)

/-- `raw[low:high]` for offsets counted from the start. -/
def slice (raw : Bytes) (low high : Nat) : Bytes := (raw.take high).drop low

/-- `n.to_bytes(width, "big")`; callers stay below `256 ^ width`. -/
def toBytes : Nat → Nat → Bytes
  | 0, _ => []
  | width + 1, n => toBytes width (n / 256) ++ [UInt8.ofNat n]

/-- `int.from_bytes(raw, "big")`. -/
def fromBytes (raw : Bytes) : Nat := raw.foldl (fun total byte => total * 256 + byte.toNat) 0

/-- `sum(raw) & 0xFFFF`. -/
def checksum (raw : Bytes) : Nat := (raw.map UInt8.toNat).sum % 0x10000

/-- Python integers are unbounded; `encode` checks the ranges. -/
structure Frame where
  mac : Bytes
  timestamp : Int
  function : Int
  opcode : Int
  data : Bytes
  reserved : Bytes := List.replicate 4 0
deriving DecidableEq, Repr

/-- Membership in `range(0, 256)`, which `bytes([value])` demands. -/
def isByte (value : Int) : Bool := 0 ≤ value && value < 256

def Frame.body (frame : Frame) : Bytes :=
  magic ++ List.replicate 6 0 ++ frame.mac ++ toBytes 4 frame.timestamp.toNat ++
    toBytes 2 frame.data.length ++
    [UInt8.ofNat frame.function.toNat, UInt8.ofNat frame.opcode.toNat] ++
    frame.reserved ++ frame.data

def Frame.encode (frame : Frame) : Except String Bytes :=
  if frame.mac.length ≠ 6 ∨ frame.reserved.length ≠ 4 then
    .error "Invalid identity or reserved field length"
  else if frame.data.length > maxData ∨ ¬ (0 ≤ frame.timestamp ∧ frame.timestamp ≤ 0xFFFFFFFF) then
    .error "Frame exceeds supported bounds"
  else if ¬ (isByte frame.function ∧ isByte frame.opcode) then
    .error "bytes must be in range(0, 256)"
  else .ok (frame.body ++ toBytes 2 (checksum frame.body) ++ [0x16])

def Frame.decode (raw : Bytes) (expectedMac : Option Bytes) : Except String Frame :=
  if raw.length < 29 ∨ raw.take 8 ≠ magic ++ List.replicate 6 0 then
    .error "Invalid frame header"
  else
    let dataLength := fromBytes (slice raw 18 20)
    if dataLength > maxData ∨ raw.length ≠ 29 + dataLength then
      .error "Invalid declared frame length"
    else if raw.getLast? ≠ some 0x16 ∨
        checksum (raw.take (raw.length - 3)) ≠
          fromBytes (slice raw (raw.length - 3) (raw.length - 1)) then
      .error "Invalid two-byte checksum or terminator"
    else if expectedMac.isSome ∧ some (slice raw 8 14) ≠ expectedMac then
      .error "Unexpected appliance identity"
    else .ok {
      mac := slice raw 8 14
      timestamp := fromBytes (slice raw 14 18)
      function := (raw.getD 20 0).toNat
      opcode := (raw.getD 21 0).toNat
      data := slice raw 26 (raw.length - 3)
      reserved := slice raw 22 26 }

/-- The `while` loop of `FrameStream.feed`: complete frames and what is left in
the buffer. Each round removes a frame, so the buffer's length is enough fuel. -/
def splitFrames (expectedMac : Option Bytes) :
    Nat → Bytes → Except String (List (Bytes × Frame) × Bytes)
  | 0, buffer => .ok ([], buffer)
  | fuel + 1, buffer =>
    if buffer.length < 20 then .ok ([], buffer)
    else if buffer.take 8 ≠ magic ++ List.replicate 6 0 then .error "Unexpected stream header"
    else
      let size := 29 + fromBytes (slice buffer 18 20)
      if size > maxData + 29 then .error "Declared stream frame too large"
      else if buffer.length < size then .ok ([], buffer)
      else
        match Frame.decode (buffer.take size) expectedMac with
        | .error text => .error text
        | .ok frame =>
          match splitFrames expectedMac fuel (buffer.drop size) with
          | .error text => .error text
          | .ok (frames, rest) => .ok ((buffer.take size, frame) :: frames, rest)

structure FrameStream where
  buffer : Bytes := []
  expectedMac : Option Bytes
deriving DecidableEq, Repr

def FrameStream.feed (stream : FrameStream) (data : Bytes) :
    Except String (List (Bytes × Frame) × FrameStream) :=
  let received := stream.buffer ++ data
  match splitFrames stream.expectedMac received.length received with
  | .error text => .error text
  | .ok (frames, rest) =>
    if rest.length > maxData + 29 then .error "Unbounded partial frame"
    else .ok (frames, { stream with buffer := rest })

def FrameStream.finish (stream : FrameStream) : Except String Unit :=
  if stream.buffer ≠ [] then .error "Partial frame at stream end" else .ok ()

/-- The bytes of several raw frames, one after the other. -/
def rawBytes (frames : List (Bytes × Frame)) : Bytes := (frames.map Prod.fst).flatten

@[simp] theorem rawBytes_nil : rawBytes [] = [] := rfl

@[simp] theorem rawBytes_cons (raw : Bytes) (frame : Frame) (frames : List (Bytes × Frame)) :
    rawBytes ((raw, frame) :: frames) = raw ++ rawBytes frames := rfl

theorem Frame.decode_length {raw : Bytes} {expectedMac : Option Bytes} {frame : Frame}
    (decoded : Frame.decode raw expectedMac = .ok frame) : 29 ≤ raw.length := by
  unfold Frame.decode at decoded
  split at decoded
  · cases decoded
  · rename_i header
    exact Nat.le_of_not_lt fun short => header (.inl short)

theorem splitFrames_spec {expectedMac : Option Bytes} {fuel : Nat} {buffer rest : Bytes}
    {frames : List (Bytes × Frame)}
    (success : splitFrames expectedMac fuel buffer = .ok (frames, rest)) :
    rawBytes frames ++ rest = buffer ∧
      ∀ entry ∈ frames, Frame.decode entry.1 expectedMac = .ok entry.2 := by
  induction fuel generalizing buffer frames rest with
  | zero => cases success; simp
  | succ fuel ih =>
    simp only [splitFrames] at success
    split at success
    · cases success; simp
    split at success
    · cases success
    split at success
    · cases success
    split at success
    · cases success; simp
    split at success
    · cases success
    rename_i frame decoded
    split at success
    · cases success
    rename_i later remaining split
    cases success
    obtain ⟨conserved, checked⟩ := ih split
    refine ⟨?_, ?_⟩
    · rw [rawBytes_cons, List.append_assoc, conserved, List.take_append_drop]
    · intro entry member
      rcases List.mem_cons.mp member with rfl | old
      · exact decoded
      · exact checked entry old

/-- Feeding neither loses nor invents bytes, keeps the expected identity, and
returns only frames that decode from their own raw bytes. -/
theorem FrameStream.feed_spec {stream after : FrameStream} {data : Bytes}
    {frames : List (Bytes × Frame)} (success : stream.feed data = .ok (frames, after)) :
    rawBytes frames ++ after.buffer = stream.buffer ++ data ∧
      after.expectedMac = stream.expectedMac ∧
      ∀ entry ∈ frames, Frame.decode entry.1 stream.expectedMac = .ok entry.2 := by
  simp only [FrameStream.feed] at success
  split at success
  · cases success
  rename_i found rest split
  split at success
  · cases success
  cases success
  obtain ⟨conserved, checked⟩ := splitFrames_spec split
  exact ⟨conserved, rfl, checked⟩

inductive TemperatureUnit where
  | celsius
  | fahrenheit
deriving DecidableEq, Repr

/-- Accept supported targets; 20 selects continuous operation. -/
def humidityTarget (value : Int) : Option Int :=
  if value ∈ humidityTargets then some value else none

/-- `int.from_bytes(data[index:index + 1], "big", signed=True)`. -/
def signedByte (data : Bytes) (index : Nat) : Int :=
  let value := (data.getD index 0).toNat
  if value < 128 then value else value - 256

/-- Signed Celsius, only when the paired Fahrenheit byte confirms the layout. -/
def temperature (data : Bytes) (index : Nat) : Option Int :=
  let celsius := signedByte data index
  let fahrenheit := signedByte data (index + 1)
  if fahrenheit = celsius * 9 / 5 + 32 then some celsius else none

def humidity (value : Int) : Option Int := if 0 ≤ value ∧ value ≤ 100 then some value else none

/-- `bool(value) if value in (0, 1) else None`. -/
def flag (value : UInt8) : Option Bool :=
  if value = 0 then some false else if value = 1 then some true else none

structure ObservedStatus where
  temperatureDisplay : TemperatureUnit
  power : Option Bool
  draining : Option Bool
  targetHumidity : Option Int
  eventOpcode : Int
  inletCelsius : Option Int
  inletHumidity : Option Int
  outletCelsius : Option Int
  outletHumidity : Option Int
  inletGrlb : Nat
  inletGkg : Nat
  outletGrlb : Nat
  outletGkg : Nat
deriving DecidableEq, Repr

def observedStatus (frame : Frame) : Except String ObservedStatus :=
  if frame.function ≠ 0x07 ∨ frame.data.length ≠ 34 then
    .error "Not the observed Storm/Lite status layout"
  else
    let data := frame.data
    let byte (index : Nat) : UInt8 := data.getD index 0
    if byte 32 ≠ 0 ∧ byte 32 ≠ 1 then .error "Unknown temperature display value"
    else .ok {
      temperatureDisplay := if byte 32 ≠ 0 then .fahrenheit else .celsius
      power := flag (byte 3)
      draining := flag (byte 4)
      targetHumidity := humidityTarget (byte 23).toNat
      eventOpcode := frame.opcode
      inletCelsius := temperature data 8
      inletHumidity := humidity (byte 10).toNat
      outletCelsius := temperature data 11
      outletHumidity := humidity (byte 13).toNat
      inletGrlb := fromBytes (slice data 14 16)
      inletGkg := fromBytes (slice data 16 18)
      outletGrlb := fromBytes (slice data 18 20)
      outletGkg := fromBytes (slice data 20 22) }

end AlorairLite.Local
