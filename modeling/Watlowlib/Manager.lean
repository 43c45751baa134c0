import Mathlib.Data.Finset.Basic
import Mathlib.Data.Finset.Erase
import Mathlib.Data.Finset.Insert
import Watlowlib.PollAttribution
import Watlowlib.PythonTexts

/-! # The manager's registry of devices and ports

`add`, `remove` and `close` with every point at which they can fail. They run under the state lock,
so a call sees the state that the one before it left. What the world decides, how an `open`, a
`dispose` or a `close` ends, comes with the call. -/
namespace Manager

open Dictionaries ExceptRules PollAttribution PythonTexts PythonValues Registry SessionExecute
  WatlowErrors

structure SerialSettings where
  port : String
  parity : String := "none"
  deriving DecidableEq, Repr

structure DeviceProfile where
  registry : ParameterRegistry
  wireTemperatureUnit : Option MeasureUnit

/-- A transport that the manager made, or an object of the caller's. -/
inductive TransportRef where
  | made (n : ℕ)
  | caller (id : ℕ)
  deriving DecidableEq, Repr

inductive ClientRef where
  | made (n : ℕ)
  | caller (id : ℕ)
  deriving DecidableEq, Repr

/-- A transport. Each time a `ModbusBusTransport` is opened it makes a Bus of its own. -/
structure Transport where
  typeName : String
  isModbusBus : Bool
  label : String
  isOpen : Bool
  opens : ℕ
  deriving DecidableEq, Repr

/-- The live Bus of a Modbus transport, if there is one. -/
def Transport.bus (t : Transport) : Option ℕ := if t.isOpen then some t.opens else none

/-- A client. One for Modbus calls `slave` on the Bus that the transport had when it was made. -/
structure ProtocolClient where
  kind : ProtocolKind
  disposed : Bool
  bus : Option ℕ
  deriving DecidableEq, Repr

structure Controller where
  client : ClientRef
  transport : TransportRef
  session : Session
  wireTemperatureUnit : Option MeasureUnit
  serialSettings : SerialSettings

structure PortEntry where
  key : String
  transport : TransportRef
  client : Option ℕ
  ownsTransport : Bool
  protocol : Option ProtocolKind
  refs : Finset String

structure DeviceEntry where
  name : String
  controller : Controller
  portKey : Option String

/-- A teardown of a port: its key and the devices still registered on it at that moment. -/
structure Attempt where
  key : String
  registered : List String
  deriving DecidableEq, Repr

/-- The maps of the manager, the newest device first, and the objects that it made. The last two
fields are what its log tells: the teardowns, and the errors raised in them. -/
structure State where
  devices : Dict String DeviceEntry
  ports : Dict String PortEntry
  closed : Bool
  clients : ℕ → ProtocolClient
  madeClients : ℕ
  transports : TransportRef → Transport
  madeTransports : ℕ
  attempts : List Attempt
  failures : List PyError

def initial (callers : ℕ → Transport) : State where
  devices := ∅
  ports := ∅
  closed := false
  clients _ := ⟨.auto, false, none⟩
  madeClients := 0
  transports
    | .made _ => ⟨"", false, "", false, 0⟩
    | .caller n => callers n
  madeTransports := 0
  attempts := []
  failures := []

section Updates

def State.setPort (s : State) (key : String) (p : PortEntry) : State :=
  { s with ports := s.ports.insert key p }

def Transport.setOpen (t : Transport) (isOpen : Bool) : Transport :=
  { t with
    isOpen := isOpen
    opens := if isOpen = true ∧ t.isOpen = false then t.opens + 1 else t.opens }

def State.setOpen (s : State) (t : TransportRef) (isOpen : Bool) : State :=
  { s with transports := Function.update s.transports t ((s.transports t).setOpen isOpen) }

def State.dispose (s : State) (c : ℕ) : State :=
  { s with clients := Function.update s.clients c { s.clients c with disposed := true } }

def State.makeTransport (s : State) (t : Transport) : State :=
  { s with
    transports := Function.update s.transports (.made s.madeTransports) t
    madeTransports := s.madeTransports + 1 }

def State.makeClient (s : State) (client : ProtocolClient) : State :=
  { s with
    clients := Function.update s.clients s.madeClients client
    madeClients := s.madeClients + 1 }

end Updates

def State.registered (s : State) (key : String) : List String :=
  s.devices.keys.filter fun name =>
    ((s.devices.lookup name).bind fun d => d.portKey) = some key

/-- The host: how it writes and resolves the name of a port. -/
structure Platform where
  windows : Bool
  upper : String → String
  resolve : String → Option String

def canonicalPortKey (platform : Platform) (port : String) : String :=
  if platform.windows then
    platform.upper (if port.startsWith "\\\\.\\" then (port.drop 4).toString else port)
  else (platform.resolve port).getD port

theorem disposed_synchronous : ∀ e : PyError, none = some e → e.kind ≠ .cancelled := by
  intro e he
  cases he

/-- How the calls that a teardown makes on the port's objects end, none for a return. `dispose` is
not awaited, so no cancellation lands in it. -/
structure PortEnds where
  disposeEnd : Option PyError := none
  closeEnd : Option PyError := none
  synchronous : ∀ e, disposeEnd = some e → e.kind ≠ .cancelled := by exact disposed_synchronous

/-- What the world decides in one `add`: the name of the port, how `open` and the constructors of
the session end, and how the calls of a cleanup would end. -/
structure AddEnv where
  platform : Platform
  openEnd : Option PyError := none
  sessionEnd : Option PyError := none
  ends : PortEnds := {}

inductive Source where
  | controller (c : Controller)
  | port (name : String)
  | transport (id : ℕ)

def Source.isPort : Source → Bool
  | .port _ => true
  | _ => false

inductive UnitArg where
  | unit (u : MeasureUnit)
  | alias (s : String)

structure AddArgs where
  name : String
  source : Source
  protocol : ProtocolKind
  address : ℤ
  serialSettings : Option SerialSettings
  profile : DeviceProfile
  assertUnit : Option UnitArg

def unitAliases : List (String × MeasureUnit) :=
  [("c", .celsius), ("celsius", .celsius), ("degc", .celsius), ("°c", .celsius),
    ("f", .fahrenheit), ("fahrenheit", .fahrenheit), ("degf", .fahrenheit),
    ("°f", .fahrenheit), ("%", .percent), ("percent", .percent), ("pct", .percent)]

def coerceUnit : UnitArg → Result MeasureUnit
  | .unit u => .ok u
  | .alias s =>
    match unitAliases.lookup (lower (strip s)) with
    | some u => .ok u
    | none => raise .validation [.text "unknown unit alias: ", .strRepr s]

def coerceWireTemperatureUnit : Option UnitArg → Result (Option MeasureUnit)
  | none => .ok none
  | some value => do
    let u ← coerceUnit value
    require (u ≠ .percent)
      ⟨.validation, [.text "assert_wire_temperature_unit accepts CELSIUS / FAHRENHEIT only; ",
        .text "PERCENT is not a temperature scale"], {}⟩
    .ok (some u)

def allowedParity : List String := ["none", "even", "odd", "mark", "space"]

def checkOpen (s : State) : Result PUnit :=
  require (s.closed = false) ⟨.connection, [.text "manager is closed"], {}⟩

def autoRejected : PyError :=
  ⟨.configuration, [.text "manager.add: ProtocolKind.AUTO is not supported here; ",
    .text "open the controller with open_device(..., protocol=AUTO) ",
    .text "and register the resulting Controller via manager.add(name, controller)"], {}⟩

def makePortTransport (protocol : ProtocolKind) (settings : SerialSettings) :
    Result Transport :=
  match protocol with
  | .modbusRtu => do
    require (lower settings.parity ∈ allowedParity)
      ⟨.configuration, [.text "unsupported parity for Modbus RTU: ",
        .strRepr (lower settings.parity)], { port := some settings.port }⟩
    .ok ⟨"ModbusBusTransport", true, settings.port, false, 0⟩
  | .stdbus => .ok ⟨"SerialTransport", false, settings.port, false, 0⟩
  | .auto => .error autoRejected

def buildPortEntry (source : Source) (key : String) (protocol : ProtocolKind)
    (serialSettings : Option SerialSettings) (s : State) : Result PortEntry × State :=
  match source with
  | .port name =>
    match makePortTransport protocol (serialSettings.getD { port := name }) with
    | .error e => (.error e, s)
    | .ok t => (.ok ⟨key, .made s.madeTransports, none, true, none, ∅⟩, s.makeTransport t)
  | .transport id => (.ok ⟨key, .caller id, none, false, none, ∅⟩, s)
  | .controller c => (.ok ⟨key, c.transport, none, false, none, ∅⟩, s)

/-- `if not transport.is_open: await transport.open()` -/
def ensureOpen (openEnd : Option PyError) (t : TransportRef) (s : State) : Result PUnit × State :=
  if (s.transports t).isOpen then (.ok ⟨⟩, s)
  else
    match openEnd with
    | some e => (.error e, s)
    | none => (.ok ⟨⟩, s.setOpen t true)

def checkClient (kind : ProtocolKind) (t : Transport) : Result PUnit :=
  match kind with
  | .stdbus => .ok ⟨⟩
  | .modbusRtu => do
    require (t.isModbusBus = true)
      ⟨.configuration, [.text "ProtocolKind.MODBUS_RTU requires a ModbusBusTransport (got ",
        .text t.typeName, .text ")."], {}⟩
    require (t.isOpen = true)
      ⟨.connection, [.text "ModbusBusTransport for ", .strRepr t.label, .text " is not open"],
        { port := some t.label }⟩
  | .auto =>
    raise .configuration [.text "ProtocolKind.AUTO must be resolved by the detector before ",
      .text "reaching make_protocol_client."]

/-- The client that `make_protocol_client` makes. A Modbus client gets `bus_transport.bus.slave`,
which stays with the Bus of that moment; a Standard Bus client keeps the transport. -/
def newClient (kind : ProtocolKind) (t : Transport) : ProtocolClient :=
  ⟨kind, false, if kind = .modbusRtu then t.bus else none⟩

def ensureClient (key : String) (p : PortEntry) (protocol : ProtocolKind) (s : State) :
    Result ℕ × State :=
  match p.client with
  | some c => (.ok c, s)
  | none =>
    match checkClient protocol (s.transports p.transport) with
    | .error e => (.error e, s)
    | .ok _ =>
      (.ok s.madeClients, (s.makeClient (newClient protocol (s.transports p.transport))).setPort key
        { p with client := some s.madeClients, protocol := some protocol })

def makeController (args : AddArgs) (unit : Option MeasureUnit) (p : PortEntry) (c : ℕ)
    (settings : Option SerialSettings) (s : State) : Controller where
  client := .made c
  transport := p.transport
  session := ⟨(s.clients c).kind, args.profile.registry, args.address,
    (s.transports p.transport).label, ∅, none⟩
  wireTemperatureUnit := unit.or args.profile.wireTemperatureUnit
  serialSettings := settings.getD { port := (s.transports p.transport).label }

def openControllerOnPort (env : AddEnv) (args : AddArgs) (unit : Option MeasureUnit)
    (settings : Option SerialSettings) (key : String) (p : PortEntry) (s : State) :
    Result Controller × State :=
  if args.protocol = .auto then (.error autoRejected, s)
  else if p.protocol ≠ none ∧ p.protocol ≠ some args.protocol then
    (raise .configuration
      [.text "manager.add: cannot mix Std Bus and Modbus sessions on the same port"]
      { protocol := some args.protocol, port := some (s.transports p.transport).label }, s)
  else
    andThen (ensureOpen env.openEnd p.transport s) fun _ s =>
    andThen (ensureClient key p args.protocol s) fun c s =>
      match env.sessionEnd with
      | some e => (.error e, s)
      | none => (.ok (makeController args unit p c settings s), s)

/-- `try: … except Exception: log`. A cancellation is not an `Exception` and passes. -/
def swallow (raised : Option PyError) : Result PUnit :=
  match raised with
  | none => .ok ⟨⟩
  | some e => if e.kind = .cancelled then .error e else .ok ⟨⟩

/-- The client's `dispose`, if it is called, with what it raises. -/
def disposeClient (ends : PortEnds) (p : PortEntry) (s : State) : Option PyError × State :=
  match p.client with
  | none => (none, s)
  | some c =>
    if (s.clients c).disposed then (none, s)
    else
      match ends.disposeEnd with
      | none => (none, s.dispose c)
      | some e => (some e, { s with failures := s.failures ++ [e] })

/-- The transport's `close`, if it is called. The transport gives up its handle before anything
can fail. -/
def closeTransport (ends : PortEnds) (p : PortEntry) (s : State) : Option PyError × State :=
  if p.ownsTransport = true ∧ (s.transports p.transport).isOpen = true then
    (ends.closeEnd,
      { s.setOpen p.transport false with failures := s.failures ++ ends.closeEnd.toList })
  else (none, s)

def maybeTeardownPort (ends : PortEnds) (key : String) (p : PortEntry) (s : State) :
    Result PUnit × State :=
  let s := { s with attempts := s.attempts ++ [⟨key, s.registered key⟩] }
  let disposed := disposeClient ends p s
  andThen (swallow disposed.1, disposed.2) fun _ s =>
    let closed := closeTransport ends p s
    andThen (swallow closed.1, closed.2) fun _ s => (.ok ⟨⟩, { s with ports := s.ports.erase key })

/-- The rest of `_resolve_source` on a port that is in the map. Whatever a cleanup raises is
swallowed, a cancellation too. -/
def openOrCleanUp (env : AddEnv) (args : AddArgs) (unit : Option MeasureUnit)
    (settings : Option SerialSettings) (key : String) (fresh : Bool) (p : PortEntry) (s : State) :
    Result Controller × State :=
  match openControllerOnPort env args unit settings key p s with
  | (.ok c, s) => (.ok c, s)
  | (.error e, s) =>
    match s.ports.lookup key with
    | some p =>
      if fresh ∧ p.refs = ∅ then (.error e, (maybeTeardownPort env.ends key p s).2)
      else (.error e, s)
    | none => (.error e, s)

def transportKey (id : ℕ) : String := "transport:" ++ toString id

def acquirePort (env : AddEnv) (args : AddArgs) (unit : Option MeasureUnit)
    (settings : Option SerialSettings) (key : String) (s : State) : Result Controller × State :=
  match s.ports.lookup key with
  | some p => openOrCleanUp env args unit settings key false p s
  | none =>
    andThen (buildPortEntry args.source key args.protocol args.serialSettings s) fun p s =>
      openOrCleanUp env args unit settings key true p (s.setPort key p)

def resolveSource (env : AddEnv) (args : AddArgs) (unit : Option MeasureUnit) (s : State) :
    Result (Option String × Controller) × State :=
  match args.source with
  | .controller c => (.ok (none, c), s)
  | .port name =>
    let key := canonicalPortKey env.platform name
    andThen (acquirePort env args unit args.serialSettings key s) fun c s => (.ok (some key, c), s)
  | .transport id =>
    let key := transportKey id
    andThen (acquirePort env args unit none key s) fun c s => (.ok (some key, c), s)

def checkAdd (args : AddArgs) (s : State) : Result (Option MeasureUnit) := do
  checkOpen s
  require (s.devices.lookup args.name = none)
    ⟨.validation, [.text "manager: name ", .strRepr args.name, .text " already in use"],
      { address := some args.address }⟩
  require (args.serialSettings = none ∨ args.source.isPort = true)
    ⟨.validation, [.text "manager.add(serial_settings=...) only applies to string port ",
      .text "sources; pre-built Transport / Controller carry their own settings"], {}⟩
  coerceWireTemperatureUnit args.assertUnit

def register (name : String) (key : Option String) (c : Controller) (s : State) : State :=
  let s := { s with devices := s.devices.insert name ⟨name, c, key⟩ }
  match key with
  | none => s
  | some k =>
    match s.ports.lookup k with
    | some p => s.setPort k { p with refs := insert name p.refs }
    | none => s

def add (env : AddEnv) (args : AddArgs) (s : State) : Result Controller × State :=
  match checkAdd args s with
  | .error e => (.error e, s)
  | .ok unit =>
    andThen (resolveSource env args unit s) fun kc s =>
      (.ok kc.2, register args.name kc.1 kc.2 s)

def teardownDevice (ends : String → PortEnds) (d : DeviceEntry) (s : State) :
    Result PUnit × State :=
  match d.portKey with
  | none => (.ok ⟨⟩, s)
  | some key =>
    match s.ports.lookup key with
    | none => (.ok ⟨⟩, s)
    | some p =>
      let p := { p with refs := p.refs.erase d.name }
      let s := s.setPort key p
      if p.refs = ∅ then maybeTeardownPort (ends key) key p s else (.ok ⟨⟩, s)

def unknownName (name : String) : PyError :=
  ⟨.validation, [.text "manager: no controller named ", .strRepr name], {}⟩

def popDevice (name : String) (s : State) : State := { s with devices := s.devices.erase name }

def remove (ends : String → PortEnds) (name : String) (s : State) : Result PUnit × State :=
  match checkOpen s with
  | .error e => (.error e, s)
  | .ok _ =>
    match s.devices.lookup name with
    | none => (.error (unknownName name), s)
    | some d => teardownDevice ends d (popDevice name s)

/-- What `close` raises: the group of what it collected, or a cancellation that passed. -/
inductive CloseError where
  | group (errors : List PyError)
  | passed (e : PyError)
  deriving DecidableEq, Repr

def closeLoop (ends : String → PortEnds) :
    List String → List PyError → State → Except CloseError (List PyError) × State
  | [], errors, s => (.ok errors, s)
  | name :: names, errors, s =>
    match s.devices.lookup name with
    | none => closeLoop ends names errors s
    | some d =>
      match teardownDevice ends d (popDevice name s) with
      | (.ok _, s) => closeLoop ends names errors s
      | (.error e, s) =>
        if e.kind = .cancelled then (.error (.passed e), s)
        else closeLoop ends names (errors ++ [e]) s

/-- `_close`; `close` itself does not suppress. -/
def close (suppressErrors : Bool) (ends : String → PortEnds) (s : State) :
    Except CloseError PUnit × State :=
  if s.closed then (.ok ⟨⟩, s)
  else
    andThen (closeLoop ends s.devices.keys [] s) fun errors s =>
      let s := { s with closed := true }
      if errors ≠ [] ∧ suppressErrors = false then (.error (.group errors), s) else (.ok ⟨⟩, s)

end Manager
