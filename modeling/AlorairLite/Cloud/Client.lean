import AlorairLite.Cloud.Experimental

/-! The cloud client (`AlorairClient` of `api.py`) as coroutines over its attributes. The
vendor answers each request whenever and however it likes. -/

namespace AlorairLite.Cloud

open Async

/-- How an authentication attempt ends. -/
inductive Ending where
  | succeeded (token owner : String)
  | failed (kind : ErrorClass) (message : String)
  /-- Broken off by something that is no `AlorairError`: a cancellation or a `RecursionError`. -/
  | cancelled
deriving DecidableEq

/-- The attributes of the client, and the time of day as `async_status` writes it. -/
structure Client where
  clock : String
  token : Option String := none
  ownerId : Option String := none
  generation : Nat := 0
  failure : Option (ErrorClass × String) := none
  loginLock : Lock := {}
  devicesLock : Lock := {}
  commandLock : Lock := {}
  devices : Devices := []

namespace Client

def putLoginLock (lock : Lock) (s : Client) : Client := { s with loginLock := lock }

def putDevicesLock (lock : Lock) (s : Client) : Client := { s with devicesLock := lock }

def putCommandLock (lock : Lock) (s : Client) : Client := { s with commandLock := lock }

/-- The beginning of `_authenticate`. -/
def reset (s : Client) : Client :=
  { s with token := none, ownerId := none, devices := [], failure := none }

/-- The end of `_authenticate`, with its `except` and `finally` clauses. -/
def conclude (s : Client) : Ending → Client
  | .succeeded token owner =>
    { s with ownerId := some owner, token := some token, generation := s.generation + 1 }
  | .failed kind message => { s with failure := some (kind, message), generation := s.generation + 1 }
  | .cancelled => { s with generation := s.generation + 1 }

end Client

abbrev Payload := List (String × Scalar)

/-- The query of a history, on the detail of the device. -/
def Period.query (period : Period) (detail : Dict) (date : String) : Payload :=
  [("deviceNum", (Dict.get detail "deviceNum").scalar), ("type", .int period.type),
    ("queryDate", .text date)]

inductive ClientQuery where
  | http (endpoint : Endpoint) (token : Option String) (payload : Option Payload)
  /-- `_encrypt_password` in a thread; it may find that it cannot. -/
  | encrypt
deriving DecidableEq

def ClientQuery.Answer : ClientQuery → Type
  | .http _ _ _ => HttpReply
  | .encrypt => Option String

inductive ClientRemark where
  /-- A caller reads the generation number. -/
  | captured (generation : Nat)
  | began
  | finished (ending : Ending)
  /-- A caller that holds the login lock makes no attempt: there is a token, or a failure. -/
  | joined (token : String)
  | refused (kind : ErrorClass) (message : String)
  /-- A page of the device list is taken, while this is the owner id. -/
  | listed (owner : Option String) (data : Json)
  /-- The detail of this listed device is that of the owned device with this MAC. -/
  | verified (mac : String) (device detail : Dict) (owner : String)

/-- The time of day passes. -/
structure ClientDrift where
  clock : String

abbrev clientFace : Interface where
  State := Client
  Query := ClientQuery
  Answer := ClientQuery.Answer
  Interrupt := Interrupt
  Remark := ClientRemark
  Drift := ClientDrift
  drift passing s := { s with clock := passing.clock }

instance : DecidableEq clientFace.Query := inferInstanceAs (DecidableEq ClientQuery)

/-- What leaves a method of the client. -/
inductive Problem where
  | error (error : AlorairError)
  | interrupted (reason : Interrupt)
  /-- A `RecursionError` of `json.loads`, which no clause of the client catches. -/
  | recursion
deriving DecidableEq

/-- A method of the client. -/
abbrev Call (Result : Type) := Process clientFace Problem Result

namespace Call

def ask (query : ClientQuery) : Call query.Answer :=
  @Process.request clientFace Problem Problem.interrupted query

def fail {Result : Type} (error : AlorairError) : Call Result := Process.raise (.error error)

/-- Checks that do not await anything. -/
def check {Result : Type} (result : Except AlorairError Result) : Call Result :=
  Process.lift (result.mapError .error)

/-- `try` with an `except AlorairError` clause. -/
def rescue {Result : Type} (body : Call Result) (handler : AlorairError → Call Result) : Call Result :=
  Process.attempt body fun
    | .error error => handler error
    | .interrupted reason => Process.raise (.interrupted reason)
    | .recursion => Process.raise .recursion

def withLoginLock {Result : Type} (task : Nat) (body : Call Result) : Call Result :=
  Process.withLock Problem.interrupted Client.loginLock Client.putLoginLock task body

def withDevicesLock {Result : Type} (task : Nat) (body : Call Result) : Call Result :=
  Process.withLock Problem.interrupted Client.devicesLock Client.putDevicesLock task body

def withCommandLock {Result : Type} (task : Nat) (body : Call Result) : Call Result :=
  Process.withLock Problem.interrupted Client.commandLock Client.putCommandLock task body

section Methods

variable (library : Library) (account : Account)

/-- `_request`. -/
def request (verb : Verb) (endpoint : Endpoint) (token : Option String) (payload : Option Payload) :
    Call Json :=
  if endpoint.allowed = false ∨ endpoint.verb ≠ verb then
    fail { protocolError "Unsupported cloud endpoint." with stage := endpoint.stage }
  else if token.any (!usableToken ·) then
    fail { authenticationError "The vendor returned an invalid session token." with
      stage := endpoint.stage }
  else do
    let reply : HttpReply ← ask (.http endpoint token payload)
    if overflows library.deep reply then Process.raise .recursion
    else check ((received library.loads endpoint.command reply).mapError ({ · with stage := endpoint.stage }))

/-- The token in the data of a login. -/
def loginToken (data : Json) : Except AlorairError String :=
  let missing : AlorairError :=
    { authenticationError "The vendor login did not return a usable session." with stage := "login" }
  match data with
  | .dict entries =>
    match Dict.get entries "token" with
    | .text token => if usableToken token then .ok token else .error missing
    | _ => .error missing
  | _ => .error missing

/-- The owner id in the data of the account. -/
def accountIdentity (user : Json) : Except AlorairError String :=
  match user with
  | .dict entries => (identifier (Dict.get entries "uid")).mapError fun _ =>
    { protocolError "The vendor returned an invalid account identity." with stage := "user_info" }
  | _ => .error
    { protocolError "The vendor did not return an account identity." with stage := "user_info" }

/-- The requests of `_authenticate`: a token and the owner it belongs to. -/
def logIn : Call (String × String) := do
  match (← ask .encrypt : Option String) with
  | none => fail (authenticationError "Credentials cannot be encoded for the vendor login.")
  | some password =>
    let data ← request library .post .login none
      (some [("username", .text account.username), ("password", .text password), ("method", .int 1)])
    let token ← check (loginToken data)
    let user ← request library .get .userInfo (some token) none
    let owner ← check (accountIdentity user)
    return (token, owner)

/-- An attempt is over. -/
def finish (ending : Ending) : Call Unit := do
  Process.modify fun s : Client => s.conclude ending
  Process.say (.finished ending)

/-- `_authenticate`. -/
def authenticate : Call Unit := do
  Process.modify Client.reset
  Process.say .began
  Process.attempt
    (do
      let session ← logIn library account
      finish (.succeeded session.1 session.2))
    fun
      | .error error => do
        finish (.failed error.kind error.message)
        fail error
      | .interrupted reason => do
        finish .cancelled
        Process.raise (.interrupted reason)
      | .recursion => do
        finish .cancelled
        Process.raise .recursion

/-- What a caller that holds the login lock does, unless the token will do. -/
def takeTurn (generation : Nat) : Call Unit := do
  let now : Client ← Process.get
  match (if generation ≠ now.generation then now.failure else none) with
  | some (kind, message) => do
    Process.say (.refused kind message)
    fail { kind, message }
  | none => authenticate library account

/-- `async_login`. -/
def login (task : Nat) : Call Unit := do
  let s : Client ← Process.get
  Process.say (.captured s.generation)
  withLoginLock task do
    let now : Client ← Process.get
    match now.token with
    | some token => Process.say (.joined token)
    | none => takeTurn library account s.generation

/-- `_refresh`. -/
def refresh (task : Nat) (rejected : Option String) (generation : Nat) : Call Unit :=
  withLoginLock task do
    let now : Client ← Process.get
    match (if now.token ≠ rejected ∨ generation ≠ now.generation then now.token else none) with
    | some token => Process.say (.joined token)
    | none => takeTurn library account generation

/-- `_read`. -/
def read (task : Nat) (endpoint : Endpoint) (payload : Option Payload) : Call Json := do
  login library account task
  let s : Client ← Process.get
  Process.say (.captured s.generation)
  rescue (request library .get endpoint s.token payload) fun error =>
    if error.kind = .authentication then do
      refresh library account task s.token s.generation
      let now : Client ← Process.get
      request library .get endpoint now.token payload
    else fail error

/-- The pages from this one on, of which at most so many are left. -/
def fetchPages (task : Nat) : Nat → Nat → Devices → Call Devices
  | 0, _, _ => fail (protocolError "Device pagination did not terminate.")
  | left + 1, page, devices => do
    let data ← read library account task .deviceList
      (some [("pageNum", .int page), ("pageSize", .int pageSize)])
    let s : Client ← Process.get
    Process.say (.listed s.ownerId data)
    let listed ← check (addPage s.ownerId devices data)
    if listed.1 ≤ page then return listed.2
    else fetchPages task left (page + 1) listed.2

/-- `_fetch_devices`. -/
def fetchDevices (task : Nat) : Call Devices :=
  rescue (fetchPages library account task maxPages 1 []) fun error =>
    if error.kind = .protocol ∧ error.stage = "request" then fail { error with stage := "device_list" }
    else fail error

/-- The device with this MAC, from the list that is known or fetched now. -/
def known (task : Nat) (target : String) : Call Dict := do
  let s : Client ← Process.get
  if (s.devices.lookup target).isNone then
    let devices ← fetchDevices library account task
    Process.modify fun s : Client => { s with devices }
  let now : Client ← Process.get
  match now.devices.lookup target with
  | some device => return device
  | none => fail { protocolError "The exact MAC was not found among this account's owned devices." with
      stage := "device_list" }

/-- `_resolve`. -/
def resolve (task : Nat) (mac : String) : Call Dict := do
  let target ← check (normalizeMac (.text mac))
  login library account task
  withDevicesLock task (known library account task target)

/-- The checks of `_device_detail`. -/
def matchingDetail (device : Dict) (id : String) (detail : Json) : Except AlorairError Dict :=
  let mismatch := protocolError "Device detail did not match the requested identity."
  match detail with
  | .dict entries => do
    let number ← deviceIdentity (Dict.get entries "deviceNum")
    if number ≠ (← deviceIdentity (Dict.get device "deviceNum")) then throw mismatch
    if (entries.lookup "id").isSome then
      if (← identifier (Dict.get entries "id")) ≠ id then throw mismatch
    return entries
  | _ => .error mismatch

/-- `_device_detail`. -/
def deviceDetail (task : Nat) (device : Dict) : Call Dict := do
  let id ← check (identifier (Dict.get device "id"))
  let detail ← read library account task (.deviceDetail id) none
  check ((matchingDetail device id detail).mapError ({ · with stage := "device_detail" }))

/-- The owner of a detail is present, and this is the owner id of the account. -/
def ownedBy (owner : Option String) (detail : Dict) : Except AlorairError Bool :=
  match Dict.get detail "userId" with
  | .null => .ok false
  | userId => (identifier userId).map fun id => decide (some id = owner)

/-- `_owned_device`. -/
def ownedDevice (task : Nat) (mac : String) : Call Dict := do
  let target ← check (normalizeMac (.text mac))
  let device ← resolve library account task target
  let detail ← deviceDetail library account task device
  let s : Client ← Process.get
  let owned ← check (ownedBy s.ownerId detail)
  if owned then
    Process.say (.verified target device detail (s.ownerId.getD ""))
    return merged device detail
  else fail { protocolError "Device ownership could not be verified." with stage := "device_detail" }

/-- `async_status`. -/
def status (task : Nat) (mac : String) : Call Dict := do
  let device ← ownedDevice library account task mac
  let shown ← check (publicDevice device)
  let s : Client ← Process.get
  return shown ++ [("observed_at_utc", .text s.clock)]

/-- The candidates that are the account's own, each with its detail. -/
def ownedDevices (task : Nat) : List Dict → Call (List Dict)
  | [] => return []
  | candidate :: rest => do
    let detail ← deviceDetail library account task candidate
    let s : Client ← Process.get
    let owned ← check (ownedBy s.ownerId detail)
    let shown ← if owned then check ((publicDevice (merged candidate detail)).map ([·])) else pure []
    return shown ++ (← ownedDevices task rest)

/-- `async_devices`. -/
def devices (task : Nat) : Call (List Dict) := do
  login library account task
  let candidates ← withDevicesLock task do
    let devices ← fetchDevices library account task
    Process.modify fun s : Client => { s with devices }
    return devices.map Prod.snd
  ownedDevices library account task candidates

/-- The frame type and the data of a command. -/
def frame : Request → Except AlorairError (Scalar × String)
  | .setPower on => .ok (.text "21", if on then "01" else "00")
  | .setHumidity humidity =>
    if 20 ≤ humidity ∧ humidity ≤ 80 ∧ humidity % 5 = 0 then .ok (.text "23", toString humidity)
    else .error (commandError "Humidity must be 20 (continuous) or 25–80 in steps of five." false)
  | .purge => .ok (.text "22", "01")
  | .setLocate on => .ok (.text "27", if on then "01" else "00")
  | .setTemperatureUnit unit =>
    if unit = "fahrenheit" then .ok (.int 24, "01")
    else if unit = "celsius" then .ok (.int 24, "00")
    else .error (commandError "Temperature unit must be celsius or fahrenheit." false)
  | .setMoistureUnit unit =>
    if unit = "grams_per_kilogram" then .ok (.int 25, "01")
    else if unit = "grains_per_pound" then .ok (.int 25, "00")
    else .error (commandError "Moisture unit must be grains_per_pound or grams_per_kilogram." false)

/-- What a command sends to the device with this detail. -/
def controlPayload (detail : Dict) (frameType : Scalar) (value : String) : Payload :=
  [("deviceId", (Dict.get detail "id").scalar), ("frameType", frameType), ("data", .text value)] ++
    if frameType = .int 24 ∨ frameType = .int 25 then []
    else [("deviceNum", (Dict.get detail "deviceNum").scalar)]

/-- The methods that send a command, each through `_command`. -/
def command (task : Nat) (mac : String) (order : Request) : Call Unit := do
  let (frameType, value) ← check (frame order)
  withCommandLock task do
    let detail ← status library account task mac
    let s : Client ← Process.get
    let _ ← request library .post .control s.token (some (controlPayload detail frameType value))

/-- `_experimental_read`, on the detail of the owned device. -/
def experimentalRead (task : Nat) (detail : Dict) (action : Action) : Call Json := do
  let s : Client ← Process.get
  match action with
  | .filters => do
    let lives ← check (filterSummaries library account s.token detail)
    return .dict [("filters", .list (lives.map FilterLife.json))]
  | .history period date => do
    let data ← read library account task .historyDates (some (period.query detail date))
    check (historySamples detail data)
  | .operationTime period date => do
    let data ← read library account task .historyTime (some (period.query detail date))
    check (operationHours detail data)
  | .filterDetail filterId => do
    let selected ← check (experimentalFilter library account s.token detail filterId)
    let data ← read library account task (.filterDetail selected.filterId) none
    let now : Client ← Process.get
    check (replacementOffer library account now.token selected data)
  | .firmwareCheck => do
    let id ← check (identifier (Dict.get detail "id"))
    let data ← read library account task (.needUpgrade id) none
    check (firmwareAvailability detail data)
  | .firmwareHistory page => do
    let data ← read library account task .firmwareHistory
      (some [("deviceId", (Dict.get detail "id").scalar), ("pageNum", .int page), ("pageSize", .int 20)])
    let now : Client ← Process.get
    check (firmwareVersions library account now.token detail page data)
  | .mutation _ => return .null

/-- The first request of a mutation, the others, and the filter it is about. -/
def mutationRequests (token : Option String) (detail : Dict) :
    Mutation → Except AlorairError ((Endpoint × Payload) × List (Endpoint × Payload) × Option FilterLife)
  | .rename label =>
    let id := (Dict.get detail "id").scalar
    .ok ((.control, [("deviceId", id), ("deviceNum", (Dict.get detail "deviceNum").scalar),
      ("frameType", .text "29"), ("data", .text label)]), [(.updateName, [("id", id), ("name", .text label)])],
      none)
  | .location label =>
    .ok ((.updateLocation, [("id", (Dict.get detail "id").scalar), ("location", .text label)]), [], none)
  | .extendFilter filterId extension => do
    let before ← experimentalFilter library account token detail filterId
    let share := nearest (nearest (100 * before.remainingHours) / before.recommendedHours)
    if 20 ≤ (nearest (share + 1 / 2)).floor then
      .error (commandError "Filter extension is available only below 20 percent remaining life." false)
    else
      return ((.updateFilterHour, [("id", (Dict.get detail "id").scalar), ("filterId", .text filterId),
        ("extendUseHour", .int extension)]), [], some before)
  | .resetFilter filterId => do
    let before ← experimentalFilter library account token detail filterId
    let id ← identifier (Dict.get detail "id")
    return ((.resetFilter id filterId, []), [], some before)

/-- POSTs in a row, each with the token of that moment. -/
def sendAll : List (Endpoint × Payload) → Call Unit
  | [] => return ()
  | (endpoint, payload) :: rest => do
    let s : Client ← Process.get
    let _ ← request library .post endpoint s.token (some payload)
    sendAll rest

/-- What the device shows after a mutation. -/
def mutationFeedback (token : Option String) (before : Option FilterLife) (feedback : Dict) :
    Mutation → Except AlorairError Json
  | .rename label => .ok (report (isText (Dict.get feedback "name") label) none)
  | .location label => .ok (report (isText (Dict.get feedback "location") label) none)
  | .extendFilter filterId _ => do
    let after ← experimentalFilter library account token feedback filterId
    return report (before.any fun life => after.extensionHours ≠ life.extensionHours) (some after)
  | .resetFilter filterId => do
    let after ← experimentalFilter library account token feedback filterId
    return report (before.any fun life => 0 < life.usedHours && after.usedHours = 0) (some after)
where
  isText (value : Json) (label : String) : Bool :=
    match value with
    | .text text => text = label
    | _ => false
  report (confirmed : Bool) (life : Option FilterLife) : Json :=
    .dict ([("accepted", .bool true), ("confirmed", .bool confirmed)] ++
      (life.map fun life => ("filter", life.json)).toList)

/-- `_experimental_mutation`. A failure is raised as it is until one request is
acknowledged; from then on the final state is uncertain. -/
def experimentalMutation (task : Nat) (mac : String) (detail : Dict) (change : Mutation) : Call Json := do
  let s : Client ← Process.get
  let (first, others, before) ← check (mutationRequests library account s.token detail change)
  sendAll library [first]
  rescue
    (do
      sendAll library others
      let feedback ← ownedDevice library account task mac
      let now : Client ← Process.get
      check (mutationFeedback library account now.token before feedback change))
    fun _ => fail (commandError ("Experimental mutation was partially acknowledged; " ++
      "final state is uncertain and no request was replayed.") true)

/-- `async_experimental_action`. -/
def experimentalAction (task : Nat) (mac action : String) (parameters : Dict) : Call Json := do
  let chosen ← check (experimentalParameters action parameters)
  let target ← check (normalizeMac (.text mac))
  withCommandLock task do
    let detail ← ownedDevice library account task target
    match chosen with
    | .mutation change => experimentalMutation library account task target detail change
    | chosen => experimentalRead library account task detail chosen

end Methods

end Call

inductive ClientOperation where
  | login
  | read (endpoint : Endpoint) (payload : Option Payload)
  | status (mac : String)
  | devices
  | command (mac : String) (order : Request)
  | experimental (mac action : String) (parameters : Dict)

def clientProgram (library : Library) (account : Account) : ClientOperation → Nat → Call Json
  | .login, task => do
    Call.login library account task
    return .null
  | .read endpoint payload, task => Call.read library account task endpoint payload
  | .status mac, task => do return .dict (← Call.status library account task mac)
  | .devices, task => do return .list ((← Call.devices library account task).map .dict)
  | .command mac order, task => do
    Call.command library account task mac order
    return .null
  | .experimental mac action parameters, task =>
    Call.experimentalAction library account task mac action parameters

abbrev ClientMachine := Machine clientFace ClientOperation (Except Problem Json)

def client (library : Library) (account : Account) :
    System ClientMachine (Step clientFace ClientOperation) :=
  scheduler (clientProgram library account) fun s => ∃ clock, s = { clock }

/-- The bytes of an ASCII text. -/
def encoded (text : String) : List UInt8 := text.toList.map fun char => char.toNat.toUInt8

/-- The text of a JSON object with these entries. -/
def braced (entries : List UInt8) : List UInt8 := encoded "\x7b" ++ entries ++ encoded "\x7d"

/-- What the vendor sends with this data, and what it means. -/
def acceptance (data : List UInt8) (value : Json) : List UInt8 × Json :=
  (braced (encoded "\"code\": 200, \"data\": " ++ data), .dict [("code", .int 200), ("data", value)])

/-- A library for these texts, and for arrays that are nested too deeply. -/
def exampleLibrary (bodies : List (List UInt8 × Json)) : Library where
  parse bytes :=
    match bodies.find? (·.1 = bytes) with
    | some body => .ok body.2
    | none => .error (if 100000 ≤ (bytes.takeWhile (· = 91)).length then .recursionError else .valueError)
  casefold := id

def loginBody : List UInt8 × Json :=
  acceptance (braced (encoded "\"token\": \"t\"")) (.dict [("token", .text "t")])

def userBody : List UInt8 × Json := acceptance (braced (encoded "\"uid\": 7")) (.dict [("uid", .int 7)])

def listBody : List UInt8 × Json :=
  let row := braced (encoded "\"deviceNum\": \"aabbccddee0f\", \"id\": 5")
  acceptance (braced (encoded "\"list\": [" ++ row ++ encoded "], \"totalPage\": 1"))
    (.dict [("list", .list [.dict [("deviceNum", .text "aabbccddee0f"), ("id", .int 5)]]), ("totalPage", .int 1)])

def detailBody : List UInt8 × Json :=
  acceptance (braced (encoded "\"deviceNum\": \"aabbccddee0f\", \"userId\": 7"))
    (.dict [("deviceNum", .text "aabbccddee0f"), ("userId", .int 7)])

def doneBody : List UInt8 × Json := acceptance (encoded "null") .null

def expiredBody : List UInt8 × Json := (braced (encoded "\"code\": 10001"), .dict [("code", .int 10001)])

def exampleVendor : Library := exampleLibrary [loginBody, userBody, listBody, detailBody, doneBody, expiredBody]

end AlorairLite.Cloud
