import Watlowlib.IdentityOutcomes

/-! # The scan over a plan

`find_devices` for a plan of protocols or of profiles. What a port does when it is opened, asked or
closed is the world's; the scan keeps a log of it. -/
namespace DiscoveryScan

open Discovery ExceptRules IdentityOutcomes IdentityStrategies ModbusCodec PythonValues
  SessionExecute WatlowErrors

structure PlanEntry where
  protocol : ProtocolKind
  profile : DeviceProfile

def defaultAddresses : List ℤ := [1]

def defaultBaudrates : List ℕ := [38400, 19200, 9600]

def defaultProtocols : List ProtocolKind := [.stdbus, .modbusRtu]

/-- The arguments of `find_devices`, its ports resolved. -/
structure Arguments where
  ports : List String
  addresses : Option (List ℤ)
  baudrates : Option (List ℕ)
  protocols : Option (List ProtocolKind)
  profiles : Option (List DeviceProfile)
  timeout : PyFloat

namespace Arguments

variable (args : Arguments)

def resolvedAddresses : List ℤ := args.addresses.getD defaultAddresses

def resolvedBaudrates : List ℕ := args.baudrates.getD defaultBaudrates

/-- Profiles take precedence; protocols are probed with the EZ-ZONE profile. -/
def plan (ezzone : DeviceProfile) : Result (List PlanEntry) :=
  match args.profiles with
  | some profiles => .ok (profiles.map fun profile => ⟨profile.defaultProtocol, profile⟩)
  | none =>
    if .auto ∈ args.protocols.getD defaultProtocols then
      raise .configuration [.text "find_devices does not accept ProtocolKind.AUTO; pass concrete ",
        .text "protocols (STDBUS, MODBUS_RTU). Auto-detection is a single-port ",
        .text "API on open_device."]
    else .ok ((args.protocols.getD defaultProtocols).map fun protocol => ⟨protocol, ezzone⟩)

/-- Only the default sweep is pruned by the baud rates that a profile supports. -/
def prunes (profile : DeviceProfile) (baudrate : ℕ) : Bool :=
  args.baudrates.isNone && profile.supportedBaudrates.any fun bauds => decide (baudrate ∉ bauds)

end Arguments

structure Combination where
  place : Place
  profile : DeviceProfile

def Arguments.combinations (args : Arguments) (plan : List PlanEntry) : List Combination :=
  args.ports.flatMap fun port => args.resolvedBaudrates.flatMap fun baudrate =>
    (plan.filter fun entry => !args.prunes entry.profile baudrate).map fun entry =>
      ⟨⟨port, baudrate, entry.protocol⟩, entry.profile⟩

/-- How the ports and the devices behind them behave: how an open and a close of a transport end,
and what an exchange over it brings. -/
structure World (σ : Type) where
  opening : Place → σ → Option PyError × σ
  wire : Place → Wire σ
  closing : Place → σ → Option PyError × σ

inductive ScanEvent where
  | opened (place : Place) (error : Option PyError)
  | refused (place : Place) (address : ℤ)
  | identified (place : Place) (address : ℤ) (answers : Answers)
  | closed (place : Place) (error : Option PyError)

/-- A scan under way: the world and the log of what happened at the ports. -/
structure Scan (σ : Type) where
  world : σ
  log : List ScanEvent

section Probes

variable {σ : Type} (lib : AnyModbus) (world : World σ) (timeout : PyFloat)
  (combination : Combination)

/-- `make_protocol_client` over an open transport of the right shape. -/
def makeProtocolClient : ProtocolKind → Result PUnit
  | .stdbus => .ok ⟨⟩
  | .modbusRtu => .ok ⟨⟩
  | .auto =>
    raise .configuration [.text "ProtocolKind.AUTO must be resolved by the detector before ",
      .text "reaching make_protocol_client."]

theorem makeProtocolClient_concrete {kind : ProtocolKind} (h : kind ≠ .auto) :
    makeProtocolClient kind = .ok ⟨⟩ := by
  cases kind with
  | auto => exact absurd rfl h
  | stdbus => rfl
  | modbusRtu => rfl

def probeController (address : ℤ) (line : σ) : Controller σ :=
  ⟨newSession combination.profile.registry combination.place.port combination.place address,
    combination.profile.wireTemperatureUnit, line⟩

def probeRow (address : ℤ) : Result DeviceInfo → Result DiscoveryResult
  | .ok info => .ok (identifiedRow combination.place address info)
  | .error e => failedRow combination.place address timeout e

def identifyAddress (address : ℤ) (s : Scan σ) : Result DiscoveryResult × Scan σ :=
  match makeProtocolClient combination.place.protocol with
  | .error e => (.error e, s)
  | .ok _ =>
    let wire := world.wire combination.place
    let c := probeController combination address s.world
    let r := identify lib wire combination.profile false true c
    let answers := identityAnswers lib wire combination.profile false true c
    (probeRow timeout combination address r.1,
      ⟨r.2.line, s.log ++ [.identified combination.place address answers]⟩)

def probeAddress (address : ℤ) (s : Scan σ) : Result DiscoveryResult × Scan σ :=
  match protocolAddressRange combination.place.protocol with
  | none => identifyAddress lib world timeout combination address s
  | some (lo, hi) =>
    if lo ≤ address ∧ address ≤ hi then identifyAddress lib world timeout combination address s
    else
      (refusedRow combination.place address lo hi,
        { s with log := s.log ++ [.refused combination.place address] })

def probeAddresses : List ℤ → Scan σ → Result (List DiscoveryResult) × Scan σ
  | [], s => (.ok [], s)
  | address :: addresses, s =>
    andThen (probeAddress lib world timeout combination address s) fun row s =>
    andThen (probeAddresses addresses s) fun rows s => (.ok (row :: rows), s)

/-- The `finally` of `_probe_combo`: an error of the library in the close is swallowed, any other
one takes the place of what the body did. -/
def closing {α : Type} (place : Place) (x : Result α × Scan σ) : Result α × Scan σ :=
  let c := world.closing place x.2.world
  let s : Scan σ := ⟨c.2, x.2.log ++ [.closed place c.1]⟩
  match c.1 with
  | none => (x.1, s)
  | some e => if e.IsWatlow then (x.1, s) else (.error e, s)

def sameError (place : Place) (addresses : List ℤ) (e : PyError) : List DiscoveryResult :=
  addresses.map fun address => place.row address none (some e)

/-- `_probe_combo`: the rows, and whether the port died. -/
def probeCombo (addresses : List ℤ) (s : Scan σ) : Result (List DiscoveryResult × Bool) × Scan σ :=
  let place := combination.place
  let o := world.opening place s.world
  let s : Scan σ := ⟨o.2, s.log ++ [.opened place o.1]⟩
  match o.1 with
  | none =>
    let r := closing world place (probeAddresses lib world timeout combination addresses s)
    (r.1.map (·, false), r.2)
  | some e =>
    if e.IsWatlow then
      (.ok (sameError place addresses e, decide (e.kind.IsInstance .connection)), s)
    else (.error e, s)

end Probes

section Loops

variable {σ : Type} (lib : AnyModbus) (world : World σ) (timeout : PyFloat) (addresses : List ℤ)

def scanCombinations : List Combination → List String → Scan σ →
    Result (List DiscoveryResult) × Scan σ
  | [], _, s => (.ok [], s)
  | combination :: combinations, dead, s =>
    let place := combination.place
    if place.port ∈ dead then
      andThen (scanCombinations combinations dead s) fun rows s =>
        (.ok (sameError place addresses (deadPortError place) ++ rows), s)
    else
      andThen (probeCombo lib world timeout combination addresses s) fun r s =>
      andThen (scanCombinations combinations (if r.2 then place.port :: dead else dead) s)
        fun rows s => (.ok (r.1 ++ rows), s)

end Loops

def findDevices {σ : Type} (lib : AnyModbus) (world : World σ) (ezzone : DeviceProfile)
    (args : Arguments) (s : Scan σ) : Result (List DiscoveryResult) × Scan σ :=
  if args.timeout.Le (.finite 0) then
    (raise .configuration
      [.text "per_probe_timeout_s must be positive; got ", .float args.timeout], s)
  else
    match args.plan ezzone with
    | .error e => (.error e, s)
    | .ok plan =>
      scanCombinations lib world args.timeout args.resolvedAddresses (args.combinations plan) [] s

theorem identifyAddress_ezzone {σ : Type} {lib : AnyModbus} {world : World σ} {timeout : PyFloat}
    {place : Place} {registry : Registry.ParameterRegistry} {address : ℤ} {s : Scan σ}
    (h : place.protocol ≠ .auto) :
    ((identifyAddress lib world timeout ⟨place, ezzoneProfile registry⟩ address s).1,
      (identifyAddress lib world timeout ⟨place, ezzoneProfile registry⟩ address s).2.world) =
    Discovery.identifyAddress lib (world.wire place) registry timeout place.port place address
      s.world := by
  simp only [identifyAddress, makeProtocolClient_concrete h, identify_ezzone,
    Discovery.identifyAddress]
  change ((probeRow timeout ⟨place, ezzoneProfile registry⟩ address
    (Discovery.ezzoneIdentify lib (world.wire place)
      (newSession registry place.port place address, s.world)).1),
    (Discovery.ezzoneIdentify lib (world.wire place)
      (newSession registry place.port place address, s.world)).2.2) = _
  cases Discovery.ezzoneIdentify lib (world.wire place)
      (newSession registry place.port place address, s.world) with
  | mk x st => cases x <;> rfl

end DiscoveryScan
