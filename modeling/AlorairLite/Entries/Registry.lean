import AlorairLite.Async.Transition
import AlorairLite.Cloud.Experimental

/-! The configuration entries (`config_flow.py` and the setup of `__init__.py`) as a state
machine: forms are submitted in any order, several flows are open at a time, and the
account of a cloud entry is verified while other steps happen. -/

namespace AlorairLite.Entries

open Cloud

/-- `ipaddress.IPv4Address`. -/
structure Address where
  first : Fin 256
  second : Fin 256
  third : Fin 256
  fourth : Fin 256
deriving DecidableEq

/-- `str.split(".")`. -/
def splitDots : List Char → List (List Char)
  | [] => [[]]
  | char :: rest =>
    if char = '.' then [] :: splitDots rest
    else match splitDots rest with
      | [] => [[char]]
      | head :: tail => (char :: head) :: tail

/-- `_parse_octet`: ASCII digits, at most three, no leading zero. -/
def octet (chars : List Char) : Option (Fin 256) :=
  if chars ≠ [] ∧ chars.all isDigit ∧ chars.length ≤ 3 ∧ (chars = ['0'] ∨ chars.head? ≠ some '0') then
    if fits : decimal chars < 256 then some ⟨decimal chars, fits⟩ else none
  else none

namespace Address

def parse (text : String) : Option Address :=
  match (splitDots text.toList).mapM octet with
  | some [first, second, third, fourth] => some ⟨first, second, third, fourth⟩
  | _ => none

def digits (value : Fin 256) : List Char := Nat.toDigits 10 value.val

/-- `str(address)`. -/
def text (address : Address) : String :=
  String.ofList (digits address.first ++ '.' :: (digits address.second ++ '.' ::
    (digits address.third ++ '.' :: digits address.fourth)))

/-- Not unspecified, not multicast, not the broadcast address. -/
def concrete (address : Address) : Bool :=
  address ≠ ⟨0, 0, 0, 0⟩ && !(224 ≤ address.first.val && address.first.val < 240) &&
    address ≠ ⟨255, 255, 255, 255⟩

end Address

/-- Twelve upper-case hexadecimal digits. -/
def IsMac (mac : String) : Prop := ∃ chars : List Char, chars.length = 12 ∧ chars.all isHex ∧ mac = upper chars

/-- `Config` of `local_client.py`, whose timeouts are the constants of the callers. -/
@[ext]
structure Config where
  listenHost : Address
  listenPort : Int
  allowedClient : Address
  mac : String
  hostConcrete : listenHost.concrete
  portRange : 0 ≤ listenPort ∧ listenPort ≤ 65535
  clientConcrete : allowedClient.concrete
  macValid : IsMac mac

/-- `Config(...)`; `none` for a `ValueError`. -/
def Config.make? (listenHost : String) (listenPort : Int) (allowedClient mac : String) : Option Config :=
  match Address.parse listenHost, Address.parse allowedClient with
  | some host, some client =>
    if valid : host.concrete ∧ client.concrete ∧ (0 ≤ listenPort ∧ listenPort ≤ 65535) ∧
        mac.toList.length = 12 ∧ mac.toList.all isHex then
      some ⟨host, listenPort, client, upper mac.toList, valid.1, valid.2.2.1, valid.2.1,
        mac.toList, valid.2.2.2.1, valid.2.2.2.2, rfl⟩
    else none
  | _, _ => none

inductive Transport where
  | cloud
  | locally
  | unsupported
deriving DecidableEq

/-- `entry.data`; a key it does not have is `none`. -/
structure EntryData where
  mac : String
  transport : Option Transport := none
  username : Option String := none
  password : Option String := none
  allowInsecureHttp : Option Bool := none
  listenHost : Option String := none
  listenPort : Option Int := none
  deviceHost : Option String := none
deriving DecidableEq

/-- `entry.options`. -/
structure EntryOptions where
  localPower : Option Bool := none
  pollInterval : Option Int := none
  experimental : Option Bool := none
deriving DecidableEq

structure Entry where
  id : Nat
  uniqueId : String
  data : EntryData
  options : EntryOptions := {}
deriving DecidableEq

/-- What a flow tells its user. -/
inductive FlowResult where
  | form (field error : String)
  | abort (reason : String)
  | created (id : Nat)
  | saved (id : Nat)
  | raised
deriving DecidableEq

/-- What happened. The vendor accepts an account when the login and the status
of its device succeed. -/
inductive Record where
  | told (result : FlowResult)
  | accepted (data : EntryData)
  | stored (id : Nat) (data : EntryData)
  | chosen (id : Nat) (options : EntryOptions)
  | removed (id : Nat)
deriving DecidableEq

/-- A flow waits for the vendor. -/
structure Attempt where
  number : Nat
  entry : Option Nat
  data : EntryData

structure Registry where
  entries : List Entry
  issued : Nat
  attempts : List Attempt
  begun : Nat
  log : List Record

structure CredentialsInput where
  username : String
  password : String
  mac : String
  allowInsecureHttp : Bool

/-- The schema has coerced the port and checked its range. -/
structure ListenerInput where
  mac : String
  listenHost : String
  deviceHost : String
  listenPort : Int
  portRange : 1024 ≤ listenPort ∧ listenPort ≤ 65535

/-- The form that was shown decides which keys are submitted. -/
inductive OptionsInput where
  | init (pollInterval : Int) (experimental : Bool) (range : 15 ≤ pollInterval ∧ pollInterval ≤ 300)
  | locally (localPower : Bool)

def defaultLocalPort : Int := 6100

def defaultPollInterval : Int := 30

def stripped (text : String) : String :=
  String.ofList ((text.toList.dropWhile isSpace).reverse.dropWhile isSpace).reverse

/-- The checks of the account that `AlorairClient` makes; consent to plain HTTP is one of them. -/
def usableAccount (username : String) : Bool := username ≠ "" && username.length ≤ 320

/-- `normalize_mac` of `models.py`. -/
def normalizeMac (text : String) : Option String := (Cloud.normalizeMac (.text text)).toOption

namespace EntryData

def isLocal (data : EntryData) : Bool := data.transport = some .locally

def account (input : CredentialsInput) (mac : String) : EntryData where
  mac := mac
  transport := some .cloud
  username := some (stripped input.username)
  password := some input.password
  allowInsecureHttp := some true

def listener (config : Config) (mac : String) : EntryData where
  mac := mac
  transport := some .locally
  listenHost := some config.listenHost.text
  listenPort := some config.listenPort
  deviceHost := some config.allowedClient.text

/-- The configured entry listens where this new one would. -/
def conflicts (configured data : EntryData) : Bool :=
  configured.isLocal && configured.listenHost = data.listenHost &&
    configured.listenPort.getD defaultLocalPort = data.listenPort.getD defaultLocalPort &&
      configured.mac ≠ data.mac

end EntryData

/-- The options after a flow that replaces the data of an entry. -/
def Entry.kept (entry : Entry) (data : EntryData) : EntryOptions :=
  if data.isLocal then { localPower := some (entry.data.isLocal && entry.options.localPower.getD false) }
  else { pollInterval := some (entry.options.pollInterval.getD defaultPollInterval),
         experimental := some (entry.options.experimental.getD false) }

namespace Registry

def note (registry : Registry) (event : Record) : Registry :=
  { registry with log := registry.log ++ [event] }

def tell (registry : Registry) (result : FlowResult) : Registry := registry.note (.told result)

def find? (registry : Registry) (id : Nat) : Option Entry := registry.entries.find? (·.id = id)

def create (registry : Registry) (data : EntryData) : Registry :=
  { registry with
    entries := registry.entries ++ [{ id := registry.issued, uniqueId := data.mac, data := data }],
    issued := registry.issued + 1,
    log := registry.log ++ [.stored registry.issued data, .told (.created registry.issued)] }

/-- The same entry with new data or options. -/
def replace (registry : Registry) (entry : Entry) (event : Record) : Registry :=
  { registry with
    entries := registry.entries.map fun other => if other.id = entry.id then entry else other,
    log := registry.log ++ [event, .told (.saved entry.id)] }

def update (registry : Registry) (entry : Entry) (data : EntryData) : Registry :=
  registry.replace { entry with data := data, options := entry.kept data } (.stored entry.id data)

def choose (registry : Registry) (entry : Entry) (options : EntryOptions) : Registry :=
  registry.replace { entry with options := options } (.chosen entry.id options)

/-- `_finish_entry`. -/
def finishEntry (registry : Registry) (target : Option Nat) (data : EntryData) : Registry :=
  match target with
  | some id =>
    match registry.find? id with
    | none => registry.tell .raised
    | some entry =>
      if entry.uniqueId = data.mac then registry.update entry data
      else registry.tell (.abort "unique_id_mismatch")
  | none =>
    if registry.entries.any (·.uniqueId = data.mac) then registry.tell (.abort "already_configured")
    else registry.create data

/-- `_credentials` up to the login. -/
def credentials (registry : Registry) (target : Option Nat) (owned : Option String)
    (input : CredentialsInput) : Registry :=
  if ¬ input.allowInsecureHttp then registry.tell (.form "allow_insecure_http" "http_required")
  else match normalizeMac (owned.getD input.mac) with
    | none => registry.tell (.form "mac" "invalid_mac")
    | some mac =>
      if usableAccount (stripped input.username) then
        { registry with
          attempts := ⟨registry.begun, target, .account input mac⟩ :: registry.attempts,
          begun := registry.begun + 1 }
      else registry.tell (.form "base" "invalid_auth")

def loginError : ErrorClass → String
  | .authentication => "invalid_auth"
  | .cannotConnect => "cannot_connect"
  | .protocol | .command => "device_not_found"

/-- `_credentials` after the login and the status, or after one of them failed. -/
def verdict (registry : Registry) (attempt : Attempt) (failure : Option ErrorClass) : Registry :=
  let rest := { registry with attempts := registry.attempts.filter (·.number ≠ attempt.number) }
  match failure with
  | some kind => rest.tell (.form "base" (loginError kind))
  | none => (rest.note (.accepted attempt.data)).finishEntry attempt.entry attempt.data

/-- `_local`. -/
def listener (registry : Registry) (target : Option Nat) (owned : Option String)
    (input : ListenerInput) : Registry :=
  match normalizeMac (owned.getD input.mac) with
  | none => registry.tell (.form "mac" "invalid_mac")
  | some mac =>
    match Config.make? input.listenHost input.listenPort input.deviceHost mac with
    | none => registry.tell (.form "base" "invalid_local_address")
    | some config =>
      let data := EntryData.listener config mac
      if registry.entries.any fun other => some other.id ≠ target && other.data.conflicts data then
        registry.tell (.form "base" "listener_in_use")
      else registry.finishEntry target data

/-- `AlorairOptionsFlow`: the form for a cloud entry is refused when the entry has become local,
but the local form is not refused when it has become a cloud entry. -/
def options (registry : Registry) (entry : Entry) : OptionsInput → Registry
  | .init pollInterval experimental _ =>
    if entry.data.isLocal then registry.tell .raised
    else registry.choose entry { pollInterval := some pollInterval, experimental := some experimental }
  | .locally localPower => registry.choose entry { localPower := some localPower }

def remove (registry : Registry) (entry : Entry) : Registry :=
  { registry with
    entries := registry.entries.filter (·.id ≠ entry.id),
    log := registry.log ++ [.removed entry.id] }

/-- The entry that a step is about; `none` when there is none with this id. -/
def target? (registry : Registry) : Option Nat → Option (Option Entry)
  | none => some none
  | some id => (registry.find? id).map some

end Registry

inductive Label where
  | credentials (target : Option Nat) (input : CredentialsInput)
  | verdict (number : Nat) (failure : Option ErrorClass)
  | close (number : Nat)
  | listener (target : Option Nat) (input : ListenerInput)
  | options (id : Nat) (input : OptionsInput)
  | remove (id : Nat)

def Registry.step (registry : Registry) : Label → Option Registry
  | .credentials target input => (registry.target? target).map fun entry =>
    registry.credentials target (entry.map (·.data.mac)) input
  | .verdict number failure => (registry.attempts.find? (·.number = number)).map fun attempt =>
    registry.verdict attempt failure
  | .close number =>
    some { registry with attempts := registry.attempts.filter (·.number ≠ number) }
  | .listener target input => (registry.target? target).map fun entry =>
    registry.listener target (entry.map (·.data.mac)) input
  | .options id input => (registry.find? id).map (registry.options · input)
  | .remove id => (registry.find? id).map registry.remove

def Registry.empty : Registry := { entries := [], issued := 0, attempts := [], begun := 0, log := [] }

/-- The integration starts without entries. -/
def registry : Async.System Registry Label where
  initial state := state = .empty
  step := Registry.step

/-- What `async_setup_entry` makes of an entry before it starts anything. -/
inductive Setup where
  | locally (config : Config)
  | cloud (username password mac : String)

inductive SetupError where
  | reconfigureListener
  | unsupportedTransport
  | missingKey
  | refusedAccount

/-- The first half of `async_setup_entry`, with the checks of `AlorairClient`. -/
def Entry.setup (entry : Entry) : Except SetupError Setup :=
  match entry.data.transport.getD .cloud with
  | .locally =>
    match entry.data.listenHost, entry.data.deviceHost with
    | some listenHost, some deviceHost =>
      match Config.make? listenHost (entry.data.listenPort.getD defaultLocalPort) deviceHost entry.data.mac with
      | some config => .ok (.locally config)
      | none => .error .reconfigureListener
    | _, _ => .error .reconfigureListener
  | .cloud =>
    match entry.data.username, entry.data.password with
    | some username, some password =>
      if entry.data.allowInsecureHttp.getD false && usableAccount username then
        .ok (.cloud username password entry.data.mac)
      else .error .refusedAccount
    | _, _ => .error .missingKey
  | .unsupported => .error .unsupportedTransport

end AlorairLite.Entries
