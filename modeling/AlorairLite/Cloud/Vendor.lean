import AlorairLite.Cloud.Coordinator

/-! What the vendor sends and what `api.py` makes of it before anything is awaited: the
endpoints, the errors, the identities and the rows of the device list. -/

namespace AlorairLite.Cloud

inductive ErrorClass where
  | authentication
  | cannotConnect
  | protocol
  | command
deriving DecidableEq

/-- `AlorairError`. Its diagnostic reason follows from the message it was made with. -/
structure AlorairError where
  kind : ErrorClass
  message : String
  stage : String := "request"
  vendorCode : Option Int := none
  outcomeUnknown : Bool := false
deriving DecidableEq

def authenticationError (message : String) : AlorairError := { kind := .authentication, message }

def cannotConnect (message : String) : AlorairError := { kind := .cannotConnect, message }

def protocolError (message : String) : AlorairError := { kind := .protocol, message }

def commandError (message : String) (outcomeUnknown : Bool) : AlorairError :=
  { kind := .command, message, outcomeUnknown }

inductive Verb where
  | get
  | post
deriving DecidableEq

/-- The cloud paths that `_request_data` allows, each with one method. -/
inductive Endpoint where
  | login
  | userInfo
  | deviceList
  | deviceDetail (id : String)
  | control
  | updateName
  | updateLocation
  | updateFilterHour
  | resetFilter (id filter : String)
  | historyDates
  | historyTime
  | firmwareHistory
  | needUpgrade (id : String)
  | filterDetail (id : String)
deriving DecidableEq

def isIdentifier (text : String) : Bool :=
  let chars := text.toList
  chars ≠ [] && chars.length ≤ 128 &&
    chars.all fun char => char.isAlphanum || char = '_' || char = '-'

namespace Endpoint

def path : Endpoint → String
  | .login => "user/login"
  | .userInfo => "user/getUserInfo"
  | .deviceList => "iot/device/getHistoryDeviceList"
  | .deviceDetail id => "iot/device/getDeviceDetail/" ++ id
  | .control => "iot/device/control"
  | .updateName => "iot/device/updateDeviceName"
  | .updateLocation => "iot/device/updateDeviceLocation"
  | .updateFilterHour => "iot/device/updateFilterHour"
  | .resetFilter id filter => "iot/device/resetFilter/" ++ id ++ "/" ++ filter
  | .historyDates => "iot/device/getDeviceHistoryDateList"
  | .historyTime => "iot/device/getDeviceHistoryTime"
  | .firmwareHistory => "iot/firmware/getUpgradeListByDevice/"
  | .needUpgrade id => "iot/device/checkDeviceNeedUpgrade/" ++ id
  | .filterDetail id => "iot/filter/getApiFilterDetail/" ++ id

/-- A POST whose outcome must not be guessed. -/
def command : Endpoint → Bool
  | .control | .updateName | .updateLocation | .updateFilterHour | .resetFilter _ _ => true
  | _ => false

def verb (endpoint : Endpoint) : Verb :=
  if endpoint.command || endpoint = .login then .post else .get

/-- The patterns of the path segments. -/
def allowed : Endpoint → Bool
  | .deviceDetail id | .needUpgrade id | .filterDetail id => isIdentifier id
  | .resetFilter id filter => isIdentifier id && isIdentifier filter
  | _ => true

def stage : Endpoint → String
  | .login => "login"
  | .userInfo => "user_info"
  | .deviceList => "device_list"
  | .control => "control"
  | .deviceDetail _ => "device_detail"
  | _ => "request"

end Endpoint

/-- A token that can be sent as a header. -/
def usableToken (token : String) : Bool :=
  let chars := token.toList
  chars ≠ [] && chars.length ≤ 8192 && chars.all fun char => '!' ≤ char && char ≤ '~'

/-- How a request ends: aiohttp fails, or there is a response, whose body it may fail to read. -/
inductive HttpReply where
  | failed
  | answered (status : Int) (body : Option (List UInt8))
deriving DecidableEq

def maxResponseBytes : Nat := 1024 * 1024

def numericCode : Json → Option Int
  | .int value => some value
  | .text value =>
    let chars := value.toList
    if chars ≠ [] && chars.length ≤ 9 && chars.all isDigit then some (decimal chars) else none
  | _ => none

def vendorRejection (error : AlorairError) (code : Option Int) : AlorairError :=
  match code with
  | none => error
  | some code =>
    if 0 ≤ code ∧ code ≤ 999999999 then
      { error with
        vendorCode := some code
        message := error.message ++ " Vendor response code: " ++ toString code ++ "." }
    else error

/-- The end of `_request_data`, on a parsed body. -/
def acknowledged (command : Bool) : Json → Except AlorairError Json
  | .dict result =>
    let code := numericCode (Dict.get result "code")
    if code.any (10000 ≤ ·) then
      .error (vendorRejection (authenticationError "The vendor rejected the session or credentials.") code)
    else if code ≠ some 200 then
      if command then
        .error (commandError "The vendor did not acknowledge the command." code.isNone)
      else
        .error (vendorRejection
          (protocolError "The vendor rejected the request or returned an unsupported response.") code)
    else .ok (Dict.get result "data")
  | _ =>
    if command then
      .error (commandError "Command acknowledgement was invalid; delivery is unconfirmed." true)
    else .error (protocolError "The vendor returned an unsupported response.")

/-- `json.loads` is called on the body of this reply, and raises a `RecursionError` on the deep ones. -/
def overflows (deep : List UInt8 → Bool) : HttpReply → Bool
  | .answered status (some bytes) => status = 200 && (bytes.length ≤ maxResponseBytes && deep bytes)
  | _ => false

/-- `_request_data` from the response on, where `loads` is `json.loads` and raises nothing but a
`ValueError`. -/
def received (loads : List UInt8 → Option Json) (command : Bool) (reply : HttpReply) :
    Except AlorairError Json :=
  let unreachable : Except AlorairError Json :=
    if command then
      .error (commandError "Command delivery could not be confirmed; it was not retried." true)
    else .error (cannotConnect "The cloud request could not be completed.")
  match reply with
  | .failed => unreachable
  | .answered status body =>
    if status = 401 ∨ status = 403 then
      .error (authenticationError "The vendor rejected the session or credentials.")
    else if 300 ≤ status ∧ status < 400 then
      if command then
        .error (commandError
          "Command response redirected; delivery is unconfirmed and was not retried." true)
      else .error (protocolError "Cloud redirect refused; credentials were not forwarded.")
    else if status ≠ 200 then
      if command then
        .error (commandError "The vendor returned a command HTTP error; the command was not retried."
          (500 ≤ status))
      else .error (cannotConnect "The vendor returned an unsuccessful HTTP status.")
    else
      match body with
      | none => unreachable
      | some bytes =>
        if maxResponseBytes < bytes.length then
          if command then
            .error (commandError "Command response exceeded the limit; delivery is unconfirmed." true)
          else .error (protocolError "Cloud response exceeded the size limit.")
        else
          match loads bytes with
          | some result => acknowledged command result
          | none =>
            if command then
              .error (commandError
                "Command response was invalid; delivery is unconfirmed and was not retried." true)
            else .error (protocolError "The vendor returned invalid JSON.")

def identifier (value : Json) : Except AlorairError String :=
  let invalid := protocolError "The vendor returned an invalid identity."
  match value with
  | .text text => if isIdentifier text then .ok text else .error invalid
  | .int value => if isIdentifier (toString value) then .ok (toString value) else .error invalid
  | _ => .error invalid

/-- Pairs of hexadecimal digits with this mark between them. -/
def hexPairs (mark : Char) : List Char → Option (List Char)
  | [high, low] => if isHex high && isHex low then some [high, low] else none
  | high :: low :: next :: rest =>
    if isHex high && isHex low && next = mark then (hexPairs mark rest).map ([high, low] ++ ·) else none
  | _ => none

def upper (chars : List Char) : String := String.ofList (chars.map Char.toUpper)

def normalizeMac (value : Json) : Except AlorairError String :=
  let invalid := protocolError "A complete device MAC address is required."
  match value with
  | .text text =>
    let chars := text.toList
    if chars.length = 12 && chars.all isHex then .ok (upper chars)
    else
      match (hexPairs ':' chars).or (hexPairs '-' chars) with
      | some digits => if digits.length = 12 then .ok (upper digits) else .error invalid
      | none => .error invalid
  | _ => .error invalid

/-- The full cloud number, padded or not. -/
def deviceIdentity (value : Json) : Except AlorairError String :=
  match value with
  | .text text =>
    let chars := text.toList
    if chars.length = 24 && (chars.take 12).all (· = '0') && chars.all isHex then .ok (upper chars)
    else normalizeMac value
  | _ => normalizeMac value

def deviceMac (value : Json) : Except AlorairError String :=
  (deviceIdentity value).map fun number => upper (number.toList.drop (number.length - 12))

/-- The devices by their MAC, in the order of insertion. -/
abbrev Devices := List (String × Dict)

def Devices.put : Devices → String → Dict → Devices
  | [], mac, device => [(mac, device)]
  | (known, entry) :: rest, mac, device =>
    if known = mac then (known, device) :: rest else (known, entry) :: Devices.put rest mac device

/-- The row is marked with another owner. -/
def markedForeign (owner : Option String) (device : Dict) : Except AlorairError Bool :=
  match Dict.get device "userId" with
  | .null => pure false
  | userId => (identifier userId).map fun id => decide (some id ≠ owner)

/-- A row of this account, which must not contradict an earlier one. -/
def placeRow (devices : Devices) (device : Dict) : Except AlorairError Devices := do
  let mac ← deviceMac (Dict.get device "deviceNum")
  let id ← identifier (Dict.get device "id")
  match devices.lookup mac with
  | none => pure (devices.put mac device)
  | some known =>
    let knownId ← identifier (Dict.get known "id")
    let knownNumber ← deviceIdentity (Dict.get known "deviceNum")
    let number ← deviceIdentity (Dict.get device "deviceNum")
    if knownId ≠ id ∨ knownNumber ≠ number then
      .error (protocolError "The vendor returned conflicting device identities.")
    else pure (devices.put mac device)

/-- A row of the device list, unless it is marked with another owner. -/
def addRow (owner : Option String) (devices : Devices) (row : Json) : Except AlorairError Devices :=
  match row with
  | .dict device => do
    if ← markedForeign owner device then pure devices else placeRow devices device
  | _ => .error (protocolError "The vendor returned an invalid device entry.")

def maxPages : Nat := 100

def pageSize : Nat := 10

/-- One page of the device list: the number of pages, and the devices so far. -/
def addPage (owner : Option String) (devices : Devices) (data : Json) :
    Except AlorairError (Int × Devices) :=
  let unsupported := protocolError "The vendor returned an unsupported device list."
  match data with
  | .dict entries =>
    match Dict.get entries "list" with
    | .list rows =>
      let bounds := protocolError "Device pagination exceeded the supported bounds."
      match numericCode (Dict.get entries "totalPage") with
      | none => .error bounds
      | some total =>
        if ¬ (0 ≤ total ∧ total ≤ maxPages) ∨ pageSize < rows.length then .error bounds
        else (rows.foldlM (addRow owner) devices).map fun devices => (total, devices)
    | _ => .error unsupported
  | _ => .error unsupported

/-- `{"id": device["id"], **detail}`. -/
def merged (device detail : Dict) : Dict :=
  if (detail.lookup "id").isSome then detail else ("id", Dict.get device "id") :: detail

/-- `STATUS_FIELDS`. -/
def statusFields : List String :=
  ["powerStatus", "drainStatus", "defrostingStatus", "locateFunction", "errCode", "currentHumidity",
    "inHumidity", "outHumidity", "inCelsius", "outCelsius", "inFahrenheit", "outFahrenheit", "inGkg",
    "outGkg", "inGrlb", "outGrlb", "temperatureUnit", "humidityUnit", "pints", "singleWorktime", "cfm",
    "coilTemperature", "controlModel", "gppHumidity", "isHumidityUnit"]

/-- `METADATA_FIELDS`. -/
def metadataFields : List String :=
  ["name", "productName", "machineBrandName", "version", "firmwareVersion", "hardwareVersion", "model"]

def publicValue : Json → Bool
  | .bool _ => true
  | .int value => -10 ^ 12 < value && value < 10 ^ 12
  | .float (some value) => -10 ^ 12 < value && value < 10 ^ 12
  | .text text =>
    let chars := text.toList
    chars ≠ [] && chars.length ≤ 32 &&
      chars.all fun char => isHex char || char = ':' || char = '.' || char = ' ' || char = '-'
  | _ => false

def publicLabel : Json → Bool
  | .text text =>
    let chars := text.toList
    chars ≠ [] && chars.length ≤ 128 && chars.all (32 ≤ ·.toNat)
  | _ => false

/-- `_timestamp`: its pattern and `fromisoformat`. -/
def timestamp : Json → Option String
  | .text text => if (fromIsoFormat text).isSome then some text else none
  | _ => none

/-- The fields of a device that may leave the client. -/
def publicDevice (device : Dict) : Except AlorairError Dict := do
  let _ ← deviceIdentity (Dict.get device "deviceNum")
  let chosen (fields : List String) (fit : Json → Bool) : Dict :=
    (fields.map fun field => (field, Dict.get device field)).filter fun entry => fit entry.2
  let updated : Dict := ((timestamp (Dict.get device "updateTimeStr")).map fun text =>
    ("updateTimeStr", .text text)).toList
  return [("id", Dict.get device "id"), ("deviceNum", Dict.get device "deviceNum")] ++
    chosen statusFields publicValue ++ chosen metadataFields publicLabel ++ updated

/-- The value of a checked identity, in a payload. -/
def Json.scalar : Json → Scalar
  | .int value => .int value
  | .text value => .text value
  | _ => .text ""

example : (normalizeMac (.text "aa:bb:cc:dd:ee:0f")).toOption = some "AABBCCDDEE0F" := by decide +kernel

example : (deviceMac (.text "000000000000aabbccddee0f")).toOption = some "AABBCCDDEE0F" := by
  decide +kernel

end AlorairLite.Cloud
