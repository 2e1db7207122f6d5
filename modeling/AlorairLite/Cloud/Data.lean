import Mathlib.Data.Rat.Floor

/-! JSON values as the integration holds them, and the readings of `models.py`. Floats
are exact rationals; `float` rounds as the interpreter does. -/

namespace AlorairLite.Cloud

/-- A value of `json.loads`. A float that is not finite has no value. -/
inductive Json where
  | null
  | bool (value : Bool)
  | int (value : Int)
  | float (value : Option ℚ)
  | text (value : String)
  | list (items : List Json)
  | dict (entries : List (String × Json))

abbrev Dict := List (String × Json)

/-- `data.get(key)`: an absent value is `null`. -/
def Dict.get (data : Dict) (key : String) : Json := (data.lookup key).getD .null

def isDigit (char : Char) : Bool := '0' ≤ char && char ≤ '9'

def isHex (char : Char) : Bool :=
  isDigit char || ('a' ≤ char && char ≤ 'f') || ('A' ≤ char && char ≤ 'F')

def digit (char : Char) : Nat := char.toNat - '0'.toNat

def hexDigit (char : Char) : Nat :=
  if isDigit char then digit char else char.toUpper.toNat - 'A'.toNat + 10

/-- The number these decimal digits write. -/
def decimal (chars : List Char) : Nat := chars.foldl (fun value char => 10 * value + digit char) 0

def hexadecimal (chars : List Char) : Nat :=
  chars.foldl (fun value char => 16 * value + hexDigit char) 0

/-- Round to an integer, a tie to the even one. -/
def roundHalfEven (value : ℚ) : Int :=
  let low := value.floor
  let rest := value - low
  if rest < 1 / 2 then low
  else if 1 / 2 < rest then low + 1
  else if low % 2 = 0 then low
  else low + 1

def scale (base : Nat) (value : ℚ) : Int → ℚ
  | .ofNat power => value * (base ^ power : Nat)
  | .negSucc power => value / (base ^ (power + 1) : Nat)

/-- The exponent of the largest power of two that is not above the magnitude. -/
def binaryExponent (value : ℚ) : Int :=
  let guess : Int := value.num.natAbs.log2 - value.den.log2
  if scale 2 1 guess ≤ |value| then guess else guess - 1

/-- The nearest binary64 number, if it is finite. -/
def binary64 (value : ℚ) : Option ℚ :=
  let unit := scale 2 1 (max (binaryExponent value - 52) (-1074))
  let rounded := roundHalfEven (value / unit) * unit
  if |rounded| < 2 ^ 1024 then some rounded else none

/-- Digits with single underscores between them. -/
def digitRun : List Char → Option (List Char)
  | [] => none
  | [last] => if isDigit last then some [last] else none
  | first :: '_' :: rest => if isDigit first then (digitRun rest).map (first :: ·) else none
  | first :: rest => if isDigit first then (digitRun rest).map (first :: ·) else none

/-- Digits or nothing. -/
def digitsOrNone (chars : List Char) : Option (List Char) :=
  if chars = [] then some [] else digitRun chars

def signed (chars : List Char) : Int × List Char :=
  match chars with
  | '-' :: rest => (-1, rest)
  | '+' :: rest => (1, rest)
  | _ => (1, chars)

/-- The parts of a text before and after the first of these characters. -/
def splitAtAny (marks : List Char) (chars : List Char) : List Char × Option (List Char) :=
  match chars.span (!marks.contains ·) with
  | (before, []) => (before, none)
  | (before, _ :: after) => (before, some after)

/-- The exact value of a decimal literal of `float()`. -/
def floatLiteral (chars : List Char) : Option ℚ :=
  let (sign, unsigned) := signed chars
  let (mantissa, exponent) := splitAtAny ['e', 'E'] unsigned
  let (whole, fraction) := splitAtAny ['.'] mantissa
  let power : Option Int :=
    match exponent with
    | none => some 0
    | some text =>
      let (sign, digits) := signed text
      (digitRun digits).map fun digits => sign * decimal digits
  match digitsOrNone whole, digitsOrNone (fraction.getD []), power with
  | some whole, some fraction, some power =>
    if whole ++ fraction = [] then none
    else some (scale 10 (sign * decimal (whole ++ fraction)) (power - fraction.length))
  | _, _, _ => none

def isBlank (char : Char) : Bool := char = ' ' || ('\t' ≤ char && char ≤ '\r')

def strip (chars : List Char) : List Char :=
  ((chars.dropWhile isBlank).reverse.dropWhile isBlank).reverse

/-- `float(value)` when it is finite; `bool` and `None` are never asked for. -/
def float : Json → Option ℚ
  | .int value => binary64 value
  | .float value => value
  | .text value => (floatLiteral (strip value.toList)).bind binary64
  | _ => none

def number (data : Dict) (key : String) (low high : ℚ) : Option ℚ :=
  match data.get key with
  | .null | .bool _ => none
  | value =>
    match float value with
    | none => none
    | some result => if low ≤ result ∧ result ≤ high then some result else none

/-- `number(data, key)` with its default bounds. -/
def numberOf (data : Dict) (key : String) : Option ℚ := number data key (-10000) 10000

def twoDigits (char other : Char) : String := String.ofList [char.toUpper, other.toUpper]

def hexChar (value : Nat) : Char :=
  if value < 10 then Char.ofNat ('0'.toNat + value) else Char.ofNat ('A'.toNat + (value - 10))

/-- A short hexadecimal status, in two upper case digits. -/
def code (data : Dict) (key : String) : Option String :=
  match data.get key with
  | .text value =>
    match value.toList with
    | [low] => if isHex low then some (twoDigits '0' low) else none
    | [high, low] => if isHex high && isHex low then some (twoDigits high low) else none
    | _ => none
  | .int value =>
    if 0 ≤ value ∧ value ≤ 255 then
      some (twoDigits (hexChar (value.toNat / 16)) (hexChar (value.toNat % 16)))
    else none
  | _ => none

def powered (data : Dict) : Option Bool :=
  match code data "powerStatus" with
  | some "00" => some false
  | some "01" | some "02" => some true
  | _ => none

/-- `FAULT_BITS`. -/
def faultBits : List (Nat × String) :=
  [(0, "E1"), (1, "L0"), (2, "HI"), (3, "E5"), (4, "E4"), (6, "E3"), (7, "E7")]

def faults (data : Dict) : Option (List String) :=
  (code data "errCode").map fun value =>
    (faultBits.filter fun (bit, _) => (hexadecimal value.toList).testBit bit).map Prod.snd

def leapYear (year : Nat) : Bool := year % 4 = 0 && (year % 100 ≠ 0 || year % 400 = 0)

def monthDays (year month : Nat) : Nat :=
  if month = 2 then (if leapYear year then 29 else 28)
  else if [4, 6, 9, 11].contains month then 30
  else 31

/-- Days from 1970-01-01 to this date. -/
def daysSinceEpoch (year month day : Nat) : Int :=
  let past := year - 1
  let years : Int := 365 * past + past / 4 - past / 100 + past / 400
  let months := ((List.range' 1 (month - 1)).map (monthDays year)).sum
  years + months + (day - 1) - 719162

/-- A `datetime`: seconds since the epoch on its own clock, and the offset of that clock
from UTC when it is known. -/
structure Stamp where
  clock : ℚ
  offset : Option Int
deriving DecidableEq

/-- The fraction of a second at the front, of one to six digits. -/
def fractionOf (chars : List Char) : Option (ℚ × List Char) :=
  match chars with
  | '.' :: rest =>
    let digits := rest.takeWhile isDigit
    if 1 ≤ digits.length ∧ digits.length ≤ 6 then
      some ((decimal digits : ℚ) / 10 ^ digits.length, rest.drop digits.length)
    else none
  | _ => some (0, chars)

/-- The offset from UTC in seconds at the end. -/
def zoneOf (chars : List Char) : Option (Option Int) :=
  match chars with
  | [] => some none
  | ['Z'] => some (some 0)
  | [sign, h, h', ':', m, m'] =>
    let hours := decimal [h, h']
    let minutes := decimal [m, m']
    if [h, h', m, m'].all isDigit && (hours < 24 && minutes < 60) then
      if sign = '+' then some (some (3600 * hours + 60 * minutes))
      else if sign = '-' then some (some (-(3600 * hours + 60 * minutes)))
      else none
    else none
  | _ => none

/-- `datetime.fromisoformat` on the texts the two patterns of the code let through. -/
def fromIsoFormat (value : String) : Option Stamp :=
  match value.toList with
  | y :: y' :: y'' :: y''' :: '-' :: m :: m' :: '-' :: d :: d' :: mark ::
      h :: h' :: ':' :: n :: n' :: ':' :: s :: s' :: rest =>
    let year := decimal [y, y', y'', y''']
    let month := decimal [m, m']
    let day := decimal [d, d']
    let hour := decimal [h, h']
    let minute := decimal [n, n']
    let second := decimal [s, s']
    if [y, y', y'', y''', m, m', d, d', h, h', n, n', s, s'].all isDigit &&
        (mark = ' ' || mark = 'T') then
      match fractionOf rest with
      | none => none
      | some (fraction, rest) =>
        match zoneOf rest with
        | none => none
        | some offset =>
          let midnight := hour = 24 ∧ minute = 0 ∧ second = 0 ∧ fraction = 0
          if 1 ≤ year ∧ 1 ≤ month ∧ month ≤ 12 ∧ 1 ≤ day ∧ day ≤ monthDays year month ∧
              (hour < 24 ∨ midnight) ∧ minute < 60 ∧ second < 60 then
            some ⟨86400 * daysSinceEpoch year month day + 3600 * hour + 60 * minute + second + fraction,
              offset⟩
          else none
    else none
  | _ => none

def vendorDatetime (data : Dict) : Option Stamp :=
  match data.get "updateTimeStr" with
  | .text value => fromIsoFormat value
  | _ => none

/-- `utc_sample`: the instant of the sample, a naive one taken as UTC. -/
def utcSample (data : Dict) : Option ℚ :=
  (vendorDatetime data).map fun stamp => stamp.clock - stamp.offset.getD 0

example : utcSample [("updateTimeStr", .text "2000-03-01T01:00:00.5+01:00")] = some (951868800 + 1 / 2) := by
  decide +kernel

example : numberOf [("currentHumidity", .text "4.5e1")] "currentHumidity" = some 45 := by
  decide +kernel

end AlorairLite.Cloud
