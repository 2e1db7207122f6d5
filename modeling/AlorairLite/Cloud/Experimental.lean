import AlorairLite.Cloud.Vendor

/-! The experimental actions of `api.py` up to their awaits: which parameters are accepted,
and what is taken from a response. Numbers are the floats that Python computes. -/

namespace AlorairLite.Cloud

/-- What `json.loads` raises on a body. -/
inductive Unread where
  | valueError
  /-- The body is nested too deeply. -/
  | recursionError

/-- What the client uses of Python's library: `json.loads` and `str.casefold`. -/
structure Library where
  parse : List UInt8 → Except Unread Json
  casefold : String → String

namespace Library

/-- What `json.loads` returns. -/
def loads (library : Library) (bytes : List UInt8) : Option Json := (library.parse bytes).toOption

/-- `json.loads` raises a `RecursionError` on this body. -/
def deep (library : Library) (bytes : List UInt8) : Bool :=
  match library.parse bytes with
  | .error .recursionError => true
  | _ => false

theorem loads_deep {library : Library} {bytes : List UInt8} (deep : library.deep bytes = true) :
    library.loads bytes = none := by
  unfold Library.deep at deep
  split at deep
  · next raised => simp [loads, raised, Except.toOption]
  · cases deep

/-- If nothing stands for a `RecursionError`, it reads as invalid JSON. -/
theorem received_deep {library : Library} {reply : HttpReply} (command : Bool)
    (deep : overflows library.deep reply = true) :
    ∃ error, received library.loads command reply = .error error ∧
      (command → error.kind = .command ∧ error.outcomeUnknown = true) := by
  match reply with
  | .failed | .answered _ none => cases deep
  | .answered status (some bytes) =>
    simp only [overflows, Bool.and_eq_true, decide_eq_true_eq] at deep
    obtain ⟨rfl, size, deep⟩ := deep
    cases command <;>
      simp [received, Nat.not_lt.mpr size, loads_deep deep, commandError, protocolError]

end Library

structure Account where
  username : String
  password : String

inductive Period where
  | day
  | month
  | year
deriving DecidableEq

def Period.type : Period → Int
  | .day => 1
  | .month => 2
  | .year => 3

/-- An action that changes something, with checked parameters. -/
inductive Mutation where
  | rename (label : String)
  | location (label : String)
  | extendFilter (filterId : String) (extension : Int)
  | resetFilter (filterId : String)
deriving DecidableEq

/-- An action with checked parameters. -/
inductive Action where
  | history (period : Period) (date : String)
  | operationTime (period : Period) (date : String)
  | filters
  | filterDetail (filterId : String)
  | firmwareCheck
  | firmwareHistory (page : Int)
  | mutation (change : Mutation)
deriving DecidableEq

def experimentalDate (value : Json) : Except AlorairError String :=
  let invalid := commandError "A valid query_date in YYYY-MM-DD format is required." false
  match value with
  | .text text =>
    match text.toList with
    | [y, y', y'', y''', '-', m, m', '-', d, d'] =>
      if [y, y', y'', y''', m, m', d, d'].all isDigit &&
          (timestamp (.text (text ++ " 00:00:00"))).isSome then .ok text
      else .error invalid
    | _ => .error invalid
  | _ => .error invalid

def experimentalPeriod (value : Json) : Except AlorairError Period :=
  match value with
  | .text "day" => .ok .day
  | .text "month" => .ok .month
  | .text "year" => .ok .year
  | _ => .error (commandError "History period must be day, month, or year." false)

/-- `str.isspace` for one character. -/
def isSpace (char : Char) : Bool :=
  isBlank char || ['\x1c', '\x1d', '\x1e', '\x1f', '\x85', '\xa0', '\u1680', '\u2028', '\u2029',
    '\u202f', '\u205f', '\u3000'].contains char || ('\u2000' ≤ char && char ≤ '\u200a')

def experimentalLabel (limit : Nat) (visible : Bool) (value : Json) : Except AlorairError String :=
  let invalid := commandError "The label is empty, too long, or contains unsupported control characters." false
  match value with
  | .text label =>
    let chars := label.toList
    if limit < chars.length || chars.any (fun char => char.toNat < 32 || char.toNat = 127) ||
        (visible && chars.all isSpace) then .error invalid
    else if 256 < label.utf8ByteSize then
      .error (commandError "The label cannot be encoded within the supported bound." false)
    else .ok label
  | _ => .error invalid

/-- The parameters that an action may have. -/
def allowedParameters : String → Option (List String)
  | "history" | "operation_time" => some ["period", "query_date"]
  | "filters" | "firmware_check" => some []
  | "filter_detail" | "reset_filter" => some ["filter_id"]
  | "firmware_history" => some ["page"]
  | "rename" | "location" => some ["label"]
  | "extend_filter" => some ["filter_id", "extension"]
  | _ => none

def experimentalParameters (action : String) (parameters : Dict) : Except AlorairError Action :=
  let unsupported := commandError "Unsupported experimental action or parameters." false
  match allowedParameters action with
  | none => .error unsupported
  | some allowed =>
    if parameters.any fun entry => !allowed.contains entry.1 then .error unsupported
    else
      match action with
      | "history" => do
        let period ← experimentalPeriod (Dict.get parameters "period")
        return .history period (← experimentalDate (Dict.get parameters "query_date"))
      | "operation_time" => do
        let period ← experimentalPeriod (Dict.get parameters "period")
        return .operationTime period (← experimentalDate (Dict.get parameters "query_date"))
      | "filters" => .ok .filters
      | "filter_detail" => do return .filterDetail (← identifier (Dict.get parameters "filter_id"))
      | "firmware_check" => .ok .firmwareCheck
      | "firmware_history" =>
        let invalid := commandError "Firmware history page must be an integer from 1 to 10." false
        match (parameters.lookup "page").getD (.int 1) with
        | .int page => if 1 ≤ page ∧ page ≤ 10 then .ok (.firmwareHistory page) else .error invalid
        | _ => .error invalid
      | "rename" => do
        return .mutation (.rename (← experimentalLabel 64 true (Dict.get parameters "label")))
      | "location" => do
        return .mutation (.location (← experimentalLabel 128 false (Dict.get parameters "label")))
      | "extend_filter" => do
        let filterId ← identifier (Dict.get parameters "filter_id")
        let invalid := commandError
          "Filter extension must be 1 (week), 2 (month), or 3 (three months)." false
        match Dict.get parameters "extension" with
        | .int extension =>
          if 1 ≤ extension ∧ extension ≤ 3 then return .mutation (.extendFilter filterId extension)
          else .error invalid
        | _ => .error invalid
      | "reset_filter" => do
        return .mutation (.resetFilter (← identifier (Dict.get parameters "filter_id")))
      | _ => .error unsupported

/-- `-?[0-9]{1,10}(?:\.[0-9]{1,8})?` -/
def plainNumber (text : String) : Bool :=
  let (_, unsigned) := signed (if text.startsWith "+" then [] else text.toList)
  let (whole, fraction) := splitAtAny ['.'] unsigned
  whole ≠ [] && whole.length ≤ 10 && whole.all isDigit &&
    match fraction with
    | none => true
    | some digits => digits ≠ [] && digits.length ≤ 8 && digits.all isDigit

def experimentalNumber (value : Json) (low high : ℚ) : Except AlorairError ℚ :=
  let unsupported := protocolError "Experimental response contains an unsupported numeric field."
  let outOfRange := protocolError "Experimental response contains an out-of-range numeric field."
  let within (number : ℚ) : Except AlorairError ℚ :=
    if low ≤ number ∧ number ≤ high then .ok number else .error outOfRange
  match value with
  | .int number =>
    match binary64 number with
    | none => .error unsupported
    | some number => within number
  | .float none => .error outOfRange
  | .float (some number) => within number
  | .text text =>
    if plainNumber text then
      match float value with
      | none => .error outOfRange
      | some number => within number
    else .error unsupported
  | _ => .error unsupported

/-- The default bounds. -/
def experimentalAmount (value : Json) (low : ℚ) : Except AlorairError ℚ :=
  experimentalNumber value low 1000000000

def experimentalBool (value : Json) : Except AlorairError Bool :=
  match value with
  | .bool value => .ok value
  | .int 0 => .ok false
  | .int 1 => .ok true
  | _ => .error (protocolError "Experimental response contains an unsupported boolean field.")

/-- The float nearest to a bounded result. -/
def nearest (value : ℚ) : ℚ := (binary64 value).getD 0

/-- `round(value, 2)`. -/
def hundredths (value : ℚ) : ℚ := nearest (roundHalfEven (100 * value) / 100)

structure FilterLife where
  filterId : String
  recommendedHours : ℚ
  usedHours : ℚ
  extensionHours : ℚ
  remainingHours : ℚ
  remainingDays : ℚ
  remainingPercent : ℚ
  extensionDays : ℚ

def FilterLife.json (life : FilterLife) : Json :=
  .dict [("filter_id", .text life.filterId), ("recommended_hours", .float life.recommendedHours),
    ("used_hours", .float life.usedHours), ("extension_hours", .float life.extensionHours),
    ("remaining_hours", .float life.remainingHours), ("remaining_days", .float life.remainingDays),
    ("remaining_percent", .float life.remainingPercent), ("extension_days", .float life.extensionDays)]

/-- `(?:0{12})?[A-Fa-f0-9]{12}` -/
def looksLikeMac (text : String) : Bool :=
  let chars := text.toList
  chars.all isHex && (chars.length = 12 || (chars.length = 24 && (chars.take 12).all (· = '0')))

def filterLife (seen : List String) (item : Json) : Except AlorairError FilterLife :=
  match item with
  | .dict item => do
    let filterId ← identifier (Dict.get item "id")
    if seen.contains filterId || looksLikeMac filterId then
      .error (protocolError "The vendor returned an unsupported or conflicting filter identity.")
    else
      let recommended ← experimentalAmount (Dict.get item "recommendUseHour") (1 / 100)
      let used ← experimentalAmount (Dict.get item "useHour") 0
      let extension ← match Dict.get item "extendUseHour" with
        | .null => pure 0
        | value => experimentalAmount value 0
      let remaining := max (nearest (recommended - used)) 0
      return {
        filterId, recommendedHours := recommended, usedHours := used, extensionHours := extension
        remainingHours := remaining
        remainingDays := hundredths (nearest (remaining / 24))
        remainingPercent := hundredths (nearest (nearest (100 * remaining) / recommended))
        extensionDays := if 0 < extension then
          hundredths (nearest (max (nearest (nearest (recommended + extension) - used)) 0 / 24)) else 0 }
  | _ => .error (protocolError "The vendor returned an unsupported filter entry.")

def maxFilters : Nat := 20

def experimentalFilters (detail : Dict) : Except AlorairError (List FilterLife) :=
  let unsupported := protocolError "The device did not provide a supported bounded filter list."
  match Dict.get detail "filter" with
  | .list items =>
    if maxFilters < items.length then .error unsupported
    else items.foldlM (fun lives item => do
      return lives ++ [← filterLife (lives.map FilterLife.filterId) item]) []
  | _ => .error unsupported

section Texts

variable (library : Library) (account : Account) (token : Option String)

/-- The text contains a secret of the account. -/
def secretive (text : String) : Bool :=
  ([some account.username, some account.password, token].filterMap id).any fun secret =>
    secret ≠ "" && (library.casefold text).toList.tails.any (library.casefold secret).toList.isPrefixOf

def experimentalText (pattern : String → Bool) (limit : Nat) (value : Json) :
    Except AlorairError String :=
  let unsupported := protocolError "Experimental response contains an unsupported text field."
  match value with
  | .text text =>
    if text = "" || limit < text.length || !pattern text then .error unsupported
    else if secretive library account token text || looksLikeMac text then
      .error (protocolError "Experimental response contains a private or unsupported text field.")
    else .ok text
  | _ => .error unsupported

/-- `[A-Za-z0-9_-]+` -/
def wordLike (text : String) : Bool :=
  text ≠ "" && text.toList.all fun char => char.isAlphanum || char = '_' || char = '-'

def filterSummaries (detail : Dict) : Except AlorairError (List FilterLife) := do
  (← experimentalFilters detail).mapM fun life => do
    let _ ← experimentalText library account token wordLike 128 (.text life.filterId)
    return life

def experimentalFilter (detail : Dict) (filterId : String) : Except AlorairError FilterLife := do
  match (← filterSummaries library account token detail).find? (·.filterId = filterId) with
  | some life => return life
  | none => .error (protocolError "The selected filter does not belong to the exact owned device.")

end Texts

/-- The identities in a response, if any, are those of the detail. -/
def responseIdentity (data detail : Dict) : Except AlorairError Unit := do
  let mismatch := protocolError "Experimental response did not match the owned device identity."
  if (data.lookup "deviceNum").isSome then
    let number ← deviceIdentity (Dict.get data "deviceNum")
    if number ≠ (← deviceIdentity (Dict.get detail "deviceNum")) then throw mismatch
  if (data.lookup "deviceId").isSome then
    let id ← identifier (Dict.get data "deviceId")
    if id ≠ (← identifier (Dict.get detail "id")) then throw mismatch

def operationHours (detail : Dict) (data : Json) : Except AlorairError Json :=
  match data with
  | .dict data => do
    responseIdentity data detail
    return .dict [("hours", .float (← experimentalAmount (Dict.get data "useTime") 0))]
  | _ => .error (protocolError "The vendor returned an unsupported operation-time summary.")

/-- `_HISTORY_FIELDS`. -/
def historyFields : List (String × String) :=
  [("avgInTemp", "in_celsius"), ("avgInTempEn", "in_fahrenheit"), ("avgOutTemp", "out_celsius"),
    ("avgOutTempEn", "out_fahrenheit"), ("avgInHumidity", "in_humidity"),
    ("avgOutHumidity", "out_humidity"), ("avgInGrlb", "in_grains_per_pound"),
    ("avgInGkg", "in_grams_per_kilogram"), ("avgOutGrlb", "out_grains_per_pound"),
    ("avgOutGkg", "out_grams_per_kilogram")]

def isNull : Json → Bool
  | .null => true
  | _ => false

def historySample (detail : Dict) (row : Json) : Except AlorairError Json :=
  let unsupported := protocolError "The vendor returned an unsupported history sample."
  match row with
  | .dict row =>
    match timestamp (Dict.get row "lastTime") with
    | none => .error unsupported
    | some sampled => do
      responseIdentity row detail
      let present := historyFields.filter fun field => !isNull (Dict.get row field.1)
      let measured ← present.mapM fun field => do
        return (field.2, .float (← experimentalNumber (Dict.get row field.1) (-1000) 10000))
      if present = [] then
        .error (protocolError "The history sample did not contain supported measurements.")
      else return .dict (("sample_time", .text sampled) :: measured)
  | _ => .error unsupported

def maxHistorySamples : Nat := 4096

def historySamples (detail : Dict) (data : Json) : Except AlorairError Json :=
  let unsupported := protocolError "The vendor returned an unsupported or oversized history list."
  match data with
  | .list rows =>
    if maxHistorySamples < rows.length then .error unsupported
    else (rows.mapM (historySample detail)).map fun samples => .dict [("samples", .list samples)]
  | _ => .error unsupported

def firmwareAvailability (detail : Dict) (data : Json) : Except AlorairError Json :=
  match data with
  | .dict data => do
    responseIdentity data detail
    return .dict [("update_available", .bool (← experimentalBool (Dict.get data "isUpgrade")))]
  | _ => .error (protocolError "The vendor returned unsupported firmware availability metadata.")

/-- Up to this many groups of a dot and letters or digits, and what is left. -/
def dottedGroups : Nat → List Char → List Char
  | count + 1, '.' :: char :: rest =>
    if char.isAlphanum then dottedGroups count (rest.dropWhile Char.isAlphanum) else '.' :: char :: rest
  | _, chars => chars

/-- `[vV]?[0-9]+(?:\.[A-Za-z0-9]+){0,7}(?:[-+][A-Za-z0-9.-]+)?` -/
def versionLike (text : String) : Bool :=
  let unmarked := match text.toList with
    | 'v' :: rest | 'V' :: rest => rest
    | chars => chars
  unmarked.takeWhile isDigit ≠ [] &&
    match dottedGroups 7 (unmarked.dropWhile isDigit) with
    | [] => true
    | mark :: suffix => (mark = '-' || mark = '+') && suffix ≠ [] &&
      suffix.all fun char => char.isAlphanum || char = '.' || char = '-'

section Reads

variable (library : Library) (account : Account) (token : Option String)

def replacementOffer (selected : FilterLife) (data : Json) : Except AlorairError Json :=
  match data with
  | .dict data => do
    if (data.lookup "id").isSome then
      if (← identifier (Dict.get data "id")) ≠ selected.filterId then
        throw (protocolError "The filter metadata did not match the owned filter identity.")
    let ratio := Dict.get data "discountRatio"
    let percent ← if isNull ratio then pure [] else do
      pure [("discount_percent", .float (← experimentalNumber ratio 0 100))]
    let offer := Dict.get data "discountCode"
    let code ← if falsy offer then pure [] else do
      pure [("discount_code", .text (← experimentalText library account token wordLike 32 offer))]
    if isNull ratio && falsy offer then
      throw (protocolError "The filter metadata did not contain supported replacement fields.")
    return .dict ([("filter_id", .text selected.filterId)] ++ percent ++ code)
  | _ => .error (protocolError "The vendor returned unsupported filter replacement metadata.")
where
  /-- `not value` -/
  falsy : Json → Bool
    | .null | .bool false | .int 0 | .text "" | .list [] | .dict [] => true
    | .float value => value = some 0
    | _ => false

def firmwareRow (detail : Dict) (row : Json) : Except AlorairError Json :=
  let unsupported := protocolError "The vendor returned an unsupported firmware history row."
  match row with
  | .dict row =>
    match timestamp (Dict.get row "updateTime") with
    | none => .error unsupported
    | some updated => do
      responseIdentity row detail
      let version ← experimentalText library account token versionLike 64 (Dict.get row "firmwareVersion")
      return .dict [("version", .text version),
        ("is_upgrade", .bool (← experimentalBool (Dict.get row "isUpgrade"))), ("updated_at", .text updated)]
  | _ => .error unsupported

def firmwareVersions (detail : Dict) (page : Int) (data : Json) : Except AlorairError Json :=
  let unsupported := protocolError "The vendor returned unsupported firmware history metadata."
  match data with
  | .dict data =>
    match Dict.get data "list" with
    | .list rows =>
      if 20 < rows.length then .error unsupported
      else do
        responseIdentity data detail
        let bounds := protocolError "Firmware history count exceeded supported bounds."
        match numericCode (Dict.get data "totalRow") with
        | none => .error bounds
        | some total =>
          if ¬ (0 ≤ total ∧ total ≤ 1000000) then .error bounds
          else
            let versions ← rows.mapM (firmwareRow library account token detail)
            return .dict [("page", .int page), ("total_rows", .int total), ("versions", .list versions)]
    | _ => .error unsupported
  | _ => .error unsupported

end Reads

end AlorairLite.Cloud
