import Watlowlib.SessionExecute

/-! # Discovering the devices on a port

The identity reads of an EZ-ZONE controller, the probe of one address and the scan over ports,
baud rates, protocols and addresses. All addresses of a combination are probed over one open
transport, so a probe starts on the line that the previous one left. -/
namespace Discovery

open ExceptRules ModbusCodec ModbusOps ParameterCommands PythonNumbers PythonValues Registry
  SerialTransport SessionExecute StdBusClient WatlowErrors

/-- `DeviceHealth`; `incomplete` is its `PARTIAL`. -/
inductive DeviceHealth where
  | ok
  | incomplete
  | failed
  deriving DecidableEq, Repr

/-- The fields of `DeviceInfo` that are read from the device or name its place on the bus.
`partNumber` is `part_number.raw`. -/
structure DeviceInfo where
  partNumber : String
  hardwareId : Option ℤ
  firmwareId : Option ℤ
  serialNumber : Option String
  protocol : ProtocolKind
  address : ℤ
  health : DeviceHealth
  configuredProtocol : Option ProtocolKind
  deriving DecidableEq, Repr

structure DiscoveryResult where
  ok : Bool
  port : String
  address : ℤ
  baudrate : ℕ
  protocol : ProtocolKind
  deviceInfo : Option DeviceInfo
  error : Option PyError
  deriving DecidableEq, Repr

def protocolAddressRange : ProtocolKind → Option (ℤ × ℤ)
  | .stdbus => some (1, 16)
  | .modbusRtu => some (1, 247)
  | .auto => none

def protocolCodeToKind (code : ℤ) : Option ProtocolKind :=
  if code = 1286 then some .stdbus else if code = 1057 then some .modbusRtu else none

section Identity

variable {σ α : Type}

abbrev Wire (σ : Type) := ℤ → WireRequest → σ → Result WireReply × σ

variable (lib : AnyModbus) (wire : Wire σ)

/-- `Controller.read_parameter` at its default instance. -/
def readParameterAt (target : Ident) (st : Session × σ) :
    Result ParameterEntry × (Session × σ) :=
  let x := execute st.1 (readParameter lib) ⟨target, 1⟩ false
    fun request => (wire st.1.address request st.2).1
  (x.response, x.after, x.emitted.elim st.2 fun request => (wire st.1.address request st.2).2)

def textValue : PyValue → Result (Option String)
  | .str s => .ok (some s)
  | .num _ => .ok none

def intValue : PyValue → Result (Option ℤ)
  | .num n => (toInt n).map some
  | .str _ => .ok none

/-- The handler of the tolerant reads: a parameter that is absent and a device that is silent. -/
def Tolerated (e : PyError) : Prop := e.kind.IsInstance .protocol ∨ e.kind.IsInstance .transport

instance (e : PyError) : Decidable (Tolerated e) :=
  inferInstanceAs (Decidable (e.kind.IsInstance .protocol ∨ e.kind.IsInstance .transport))

def safeRead (pick : PyValue → Result (Option α)) (target : Ident) (st : Session × σ) :
    Result (Option α) × (Session × σ) :=
  match readParameterAt lib wire target st with
  | (.ok entry, st) => (pick entry.value, st)
  | (.error e, st) => if Tolerated e then (.ok none, st) else (.error e, st)

def safeReadStr (target : Ident) (st : Session × σ) : Result (Option String) × (Session × σ) :=
  safeRead lib wire textValue target st

def safeReadInt (target : Ident) (st : Session × σ) : Result (Option ℤ) × (Session × σ) :=
  safeRead lib wire intValue target st

def identityHealth (part : String) (hardwareId firmwareId : Option ℤ) : DeviceHealth :=
  if part = "" then .failed
  else if hardwareId = none ∨ firmwareId = none then .incomplete
  else .ok

/-- `ezzone_identify` as a scan calls it: not strict, and with the configured protocol. -/
def ezzoneIdentify (st : Session × σ) : Result DeviceInfo × (Session × σ) :=
  andThen (safeReadStr lib wire (.name "part_number") st) fun part st =>
  andThen (safeReadInt lib wire (.name "hardware_id") st) fun hardwareId st =>
  andThen (safeReadInt lib wire (.name "firmware_id") st) fun firmwareId st =>
  andThen (safeReadStr lib wire (.name "serial_number") st) fun serialNumber st =>
  andThen (safeReadInt lib wire (.id 17009) st) fun code st =>
    (.ok {
      partNumber := part.getD ""
      hardwareId := hardwareId
      firmwareId := firmwareId
      serialNumber := serialNumber
      protocol := st.1.kind
      address := st.1.address
      health := identityHealth (part.getD "") hardwareId firmwareId
      configuredProtocol := code.bind protocolCodeToKind }, st)

end Identity

structure Place where
  port : String
  baudrate : ℕ
  protocol : ProtocolKind
  deriving DecidableEq, Repr

def Place.row (place : Place) (address : ℤ) (info : Option DeviceInfo) (error : Option PyError) :
    DiscoveryResult :=
  ⟨info.isSome, place.port, address, place.baudrate, place.protocol, info, error⟩

def Place.context (place : Place) (address : ℤ) : ErrorContext :=
  { port := some place.port, protocol := some place.protocol, address := some address }

def Silent (info : DeviceInfo) : Prop := info.partNumber = "" ∧ info.hardwareId = none

instance (info : DeviceInfo) : Decidable (Silent info) :=
  inferInstanceAs (Decidable (info.partNumber = "" ∧ info.hardwareId = none))

def identifiedRow (place : Place) (address : ℤ) (info : DeviceInfo) : DiscoveryResult :=
  if Silent info then
    place.row address none (some ⟨.timeout, [.text "no device responded at ",
      .text (protocolValue place.protocol), .text " address ", .int address],
      place.context address⟩)
  else place.row address (some info) none

/-- The row of a probe that ended in an error, if it does not end the scan. The cancellation is
the one of the probe's own `fail_after`. -/
def failedRow (place : Place) (address : ℤ) (timeout : PyFloat) (e : PyError) :
    Result DiscoveryResult :=
  if e.kind = .cancelled ∨ e.kind.IsInstance .timeoutError then
    .ok (place.row address none (some ⟨.timeout, [.text "identify on ",
      .text (protocolValue place.protocol), .text " address ", .int address, .text " exceeded ",
      .floatFixed 3 timeout, .text "s probe budget"], place.context address⟩))
  else if e.kind.IsInstance .protocolUnsupported ∨ e.kind.IsInstance .transport then
    .ok (place.row address none (some e))
  else .error e

/-- The row of an address outside the range of the protocol; it is written into the row's error. -/
def refusedRow (place : Place) (address lo hi : ℤ) : Result DiscoveryResult := do
  require (WritesInt address) unwritable
  .ok (place.row address none (some ⟨.configuration, [.text "address ", .int address,
    .text " out of range for ", .text (protocolValue place.protocol), .text " (valid ", .int lo,
    .text "..", .int hi, .text ")"], place.context address⟩))

section Probe

variable {σ : Type} (lib : AnyModbus) (wire : Wire σ) (registry : ParameterRegistry)
  (timeout : PyFloat) (label : String) (place : Place)

def newSession (address : ℤ) : Session := ⟨place.protocol, registry, address, label, ∅, none⟩

def identifyAddress (address : ℤ) (bus : σ) : Result DiscoveryResult × σ :=
  match ezzoneIdentify lib wire (newSession registry label place address, bus) with
  | (.ok info, st) => (.ok (identifiedRow place address info), st.2)
  | (.error e, st) => (failedRow place address timeout e, st.2)

def probeAddress (address : ℤ) (bus : σ) : Result DiscoveryResult × σ :=
  match protocolAddressRange place.protocol with
  | none => identifyAddress lib wire registry timeout label place address bus
  | some (lo, hi) =>
    if lo ≤ address ∧ address ≤ hi then
      identifyAddress lib wire registry timeout label place address bus
    else
      (refusedRow place address lo hi, bus)

def probeAddresses : List ℤ → σ → Result (List DiscoveryResult) × σ
  | [], bus => (.ok [], bus)
  | address :: addresses, bus =>
    andThen (probeAddress lib wire registry timeout label place address bus) fun row bus =>
    andThen (probeAddresses addresses bus) fun rows bus => (.ok (row :: rows), bus)

/-- `_probe_combo`: the rows and whether the port died. `opening` is the error of `open`. -/
def probeCombo (opening : Option PyError) (addresses : List ℤ) (bus : σ) :
    Result (List DiscoveryResult × Bool) × σ :=
  match opening with
  | none =>
    andThen (probeAddresses lib wire registry timeout label place addresses bus) fun rows bus =>
      (.ok (rows, false), bus)
  | some e =>
    if e.IsWatlow then
      (.ok (addresses.map fun address => place.row address none (some e),
        decide (e.kind.IsInstance .connection)), bus)
    else (.error e, bus)

end Probe

/-- What the port does in one exchange: how the write ends when it does not complete, the chunks
that come in before the call ends and how a receive ends when they are used up. -/
structure Turn where
  writeEnd : Option PortEnd
  chunks : List Bytes
  ending : PortEnd
  deriving DecidableEq, Repr

/-- One Standard Bus call of a scan and the line it starts on. -/
structure BusCall where
  address : ℤ
  request : Bytes
  timeout : PyFloat
  writeEnd : Option PortEnd
  line : Line
  deriving DecidableEq, Repr

def BusCall.run (c : BusCall) : Result StdBusReply × Line :=
  StdBusClient.execute ⟨false, c.line.label⟩ c.request c.address (some c.timeout) "read_parameter"
    c.writeEnd c.line

/-- A Standard Bus port under scan: the line as the last exchange left it and the calls so far. -/
structure Bus where
  line : Line
  calls : List BusCall
  deriving DecidableEq, Repr

/-- The next call: what comes in joins what the exchanges before it left unread. -/
def Bus.next (bus : Bus) (turn : Turn) (timeout : PyFloat) (address : ℤ) (request : Bytes) :
    BusCall :=
  ⟨address, request, timeout, turn.writeEnd,
    { bus.line with chunks := bus.line.chunks ++ turn.chunks, ending := turn.ending }⟩

def stdBusWire (turns : ℕ → Turn) (timeout : PyFloat) : Wire Bus
  | address, .payload request, bus =>
    let c := bus.next (turns bus.calls.length) timeout address request
    (c.run.1.map .frame, ⟨c.run.2, bus.calls ++ [c]⟩)
  | _, .op _, bus => (raise .typeError [.text "register operation on a Standard Bus client"], bus)

def modbusWire (replies : ℕ → ℤ → ModbusOp → Result Words) : Wire ℕ
  | address, .op o, n => ((replies n address o).map .words, n + 1)
  | _, .payload _, n => (raise .attributeError [.text "payload on a Modbus client"], n)

structure Combo where
  label : String
  opening : Option PyError
  line : Line
  turns : ℕ → Turn
  replies : ℕ → ℤ → ModbusOp → Result Words

section Scan

variable (lib : AnyModbus) (registry : ParameterRegistry) (timeout : PyFloat)
  (addresses : List ℤ) (found : ℕ → Combo)

def scanPlace (place : Place) (combo : Combo) (calls : List BusCall) :
    Result (List DiscoveryResult × Bool) × List BusCall :=
  match place.protocol with
  | .stdbus =>
    let r := probeCombo lib (stdBusWire combo.turns timeout) registry timeout combo.label place
      combo.opening addresses ⟨combo.line, []⟩
    (r.1, calls ++ r.2.calls)
  | .modbusRtu =>
    ((probeCombo lib (modbusWire combo.replies) registry timeout combo.label place combo.opening
      addresses 0).1, calls)
  | .auto =>
    (raise .configuration [.text "ProtocolKind.AUTO must be resolved by the detector before ",
      .text "reaching make_protocol_client."], calls)

def deadPortError (place : Place) : PyError :=
  ⟨.connection, [.text "port ", .strRepr place.port,
    .text " previously failed to open in this scan"],
    { port := some place.port, protocol := some place.protocol }⟩

/-- The loops of `find_devices`, over the combinations in their order. -/
def scanPlaces : List Place → ℕ → List String → List BusCall →
    Result (List DiscoveryResult) × List BusCall
  | [], _, _, calls => (.ok [], calls)
  | place :: places, n, dead, calls =>
    if place.port ∈ dead then
      andThen (scanPlaces places (n + 1) dead calls) fun rows calls =>
        (.ok ((addresses.map fun address =>
          place.row address none (some (deadPortError place))) ++ rows), calls)
    else
      andThen (scanPlace lib registry timeout addresses place (found n) calls) fun r calls =>
      andThen (scanPlaces places (n + 1) (if r.2 then place.port :: dead else dead) calls)
        fun rows calls => (.ok (r.1 ++ rows), calls)

def planned (ports : List String) (baudrates : List ℕ) (protocols : List ProtocolKind) :
    List Place :=
  ports.flatMap fun port => baudrates.flatMap fun baudrate =>
    protocols.map fun protocol => ⟨port, baudrate, protocol⟩

/-- `find_devices` for protocols, with the Standard Bus calls it made. -/
def findDevices (ports : List String) (baudrates : List ℕ) (protocols : List ProtocolKind) :
    Result (List DiscoveryResult) × List BusCall :=
  if timeout.Le (.finite 0) then
    (raise .configuration [.text "per_probe_timeout_s must be positive; got ", .float timeout], [])
  else if .auto ∈ protocols then
    (raise .configuration [.text "find_devices does not accept ProtocolKind.AUTO; pass concrete ",
      .text "protocols (STDBUS, MODBUS_RTU). Auto-detection is a single-port ",
      .text "API on open_device."], [])
  else scanPlaces lib registry timeout addresses found (planned ports baudrates protocols) 0 [] []

end Scan

end Discovery
