import Watlowlib.OpenDevice
import Watlowlib.PartNumbers
import Watlowlib.ReadOnlyDiscovery

/-! # Maintenance operations

The four one-shot operations that reconfigure a controller: each opens the port, writes one
parameter, closes, waits and identifies the controller behind the change. How the port behaves
under each of its serial settings is the site's. -/
namespace Maintenance

open Discovery EncoderContracts ExceptRules IdentityOutcomes IdentityStrategies ModbusCodec
  ModbusOps OpenDevice ParameterCommands PartNumbers ProtocolDetection PythonValues
  ReadOnlyDiscovery Registry SafetyGate SessionExecute StdBusPayload WatlowErrors

inductive ByteSize where
  | five
  | six
  | seven
  | eight
  deriving DecidableEq, Repr

inductive Parity where
  | none
  | odd
  | even
  | mark
  | space
  deriving DecidableEq, Repr

inductive StopBits where
  | one
  | onePointFive
  | two
  deriving DecidableEq, Repr

structure SerialSettings where
  port : String
  baudrate : ℤ := 38400
  bytesize : ByteSize := .eight
  parity : Parity := .none
  stopbits : StopBits := .one
  rtscts : Bool := false
  xonxoff : Bool := false
  exclusive : Bool := true
  deriving DecidableEq, Repr

def kindRepr : ProtocolKind → String
  | .auto => "<ProtocolKind.AUTO: 'auto'>"
  | .stdbus => "<ProtocolKind.STDBUS: 'stdbus'>"
  | .modbusRtu => "<ProtocolKind.MODBUS_RTU: 'modbus_rtu'>"

def SerialSettings.factoryFor (protocol : ProtocolKind) (port : String) : Result SerialSettings :=
  match protocol with
  | .stdbus => .ok { port := port, baudrate := 38400, parity := .none }
  | .modbusRtu => .ok { port := port, baudrate := 9600, parity := .even }
  | .auto =>
    raise .configuration [.text "SerialSettings.factory_for: no single factory framing for ",
      .text (kindRepr protocol), .text "; ",
      .text "AUTO probes both Std Bus and Modbus, build a concrete protocol's ",
      .text "settings instead."]

/-- Where a controller is opened. -/
structure Endpoint where
  protocol : ProtocolKind
  address : ℤ
  settings : SerialSettings
  deriving DecidableEq, Repr

/-- What an operation does behind its checks: the write at one place, the verify pass at another. -/
structure Change where
  current : Endpoint
  parameterId : ℤ
  value : ℤ
  changed : Result Endpoint

/-- The port under each of its serial settings, and how the wait of the verify pass ends. -/
structure Site (σ : Type) where
  ports : SerialSettings → PortWorld σ
  sleeping : σ → Option PyError × σ

structure Call where
  port : String
  serialSettings : Option SerialSettings
  confirm : Bool

def Call.settings (call : Call) : SerialSettings :=
  call.serialSettings.getD { port := call.port }

section Pass

variable {σ α : Type} (lib : AnyModbus) (registry : ParameterRegistry) (site : Site σ) (call : Call)

def openArguments (place : Endpoint) : OpenArguments :=
  ⟨call.port, ezzoneProfile registry, some place.protocol, place.address, none, true⟩

/-- The settings' own port gives way to the argument. -/
def portAt (place : Endpoint) : PortWorld σ :=
  site.ports { place.settings with port := call.port }

def openAt (place : Endpoint) (s : Detecting σ) : Result OpenedController × Detecting σ :=
  openDevice lib (portAt site call place) (openArguments registry call place)
    { s with attempts := [] }

def identifyController (world : PortWorld σ) (strict : Bool) (c : OpenedController)
    (s : Detecting σ) : Result (DeviceInfo × OpenedController) × Detecting σ :=
  let r := identify lib (world.wire c.transport) (ezzoneProfile registry) strict false
    (c.start s.world)
  (r.1.map fun info => (info, { c with
      session := r.2.session
      wireTemperatureUnit := r.2.wireTemperatureUnit
      deviceInfo := some info }), { s with world := r.2.line })

/-- `Controller.write_parameter` at its default instance, confirmed. -/
def writeConfirmed (world : PortWorld σ) (c : OpenedController) (parameterId value : ℤ)
    (s : Detecting σ) : Result ParameterEntry × Detecting σ :=
  let x := execute c.session (writeParameter lib) ⟨.id parameterId, .num (.int value), 1⟩ true
    fun request => (world.wire c.transport c.session.address request s.world).1
  (x.response, { s with
    world := x.emitted.elim s.world fun request =>
      (world.wire c.transport c.session.address request s.world).2 })

/-- `Controller.__aexit__`: an error of the close takes the place of what the body did. -/
def leave (world : PortWorld σ) (transport : Transport) (x : Result α × Detecting σ) :
    Result α × Detecting σ :=
  let o := world.closing transport x.2.world
  (o.1.elim x.1 .error, { x.2 with world := o.2, log := x.2.log ++ [.closed transport o.1] })

def verify (place : Endpoint) (s : Detecting σ) : Result DeviceInfo × Detecting σ :=
  andThen (openAt lib registry site call place s) fun c s =>
    leave (portAt site call place) c.transport
      (andThen (identifyController lib registry (portAt site call place) true c s) fun x s =>
        (.ok x.1, s))

def wait (s : Detecting σ) : Result Unit × Detecting σ :=
  (((site.sleeping s.world).1).elim (.ok ()) .error, { s with world := (site.sleeping s.world).2 })

/-- What an operation does on the open controller in front of its write. -/
abbrev Gate (σ : Type) :=
  PortWorld σ → OpenedController → Detecting σ → Result OpenedController × Detecting σ

def ungated : Gate σ := fun _ c s => (.ok c, s)

def reconfigure (gate : Gate σ) (change : Change) (s : Detecting σ) :
    Result DeviceInfo × Detecting σ :=
  andThen (openAt lib registry site call change.current s) fun c s =>
  andThen (leave (portAt site call change.current) c.transport
    (andThen (gate (portAt site call change.current) c s) fun c s =>
      writeConfirmed lib (portAt site call change.current) c change.parameterId change.value s))
    fun _ s =>
  andThen (wait site s) fun _ s =>
  andThen (change.changed, s) fun place s =>
    verify lib registry site call place s

end Pass

/-! ## The operations -/

def protocolModeCodes : List (ProtocolKind × ℤ) := [(.stdbus, 1286), (.modbusRtu, 1057)]

def modbusBaudCodes : List (ℤ × ℤ) := [(9600, 188), (19200, 189), (38400, 190)]

def requireConfirm (confirm : Bool) (op : String) : Result Unit :=
  if confirm then .ok ()
  else raise .confirmationRequired [.text "maintenance.", .text op,
    .text " requires confirm=True; call refused with no I/O issued"]

section Checks

variable (call : Call)

/-- The checks of `change_baud`. The Standard Bus has one baud rate. -/
def baudChange (targetBaud : ℤ) (currentProtocol : ProtocolKind) (address : ℤ) :
    Result Change := do
  requireConfirm call.confirm "change_baud"
  match modbusBaudCodes.lookup targetBaud with
  | none =>
    .error (formatted .configuration [.text "target_baud ", .int targetBaud,
      .text " is not supported; ", .text "choose one of [9600, 19200, 38400]"]
      { port := some call.port, address := some address })
  | some code =>
    if currentProtocol = .modbusRtu then
      .ok ⟨⟨currentProtocol, address, call.settings⟩, 17002, code,
        .ok ⟨currentProtocol, address, { call.settings with baudrate := targetBaud }⟩⟩
    else
      raise .configuration [.text "change_baud is only supported over Modbus RTU; ",
        .text "Std Bus baud is fixed at 38400 by the factory."]
        { port := some call.port, protocol := some currentProtocol }

def addressChange (op label : String) (lo hi : ℤ) (protocol : ProtocolKind) (parameterId : ℤ)
    (targetAddress currentAddress : ℤ) : Result Change := do
  requireConfirm call.confirm op
  if lo ≤ targetAddress ∧ targetAddress ≤ hi then
    .ok ⟨⟨protocol, currentAddress, call.settings⟩, parameterId, targetAddress,
      .ok ⟨protocol, targetAddress, call.settings⟩⟩
  else
    .error (formatted .configuration [.text "target_address ", .int targetAddress,
      .text " out of ", .text label, .text " range ", .int lo, .text "..", .int hi]
      { port := some call.port, address := some targetAddress })

def modbusAddressChange : ℤ → ℤ → Result Change :=
  addressChange call "change_modbus_address" "Modbus" 1 247 .modbusRtu 17007

def stdbusAddressChange : ℤ → ℤ → Result Change :=
  addressChange call "change_stdbus_address" "Std Bus" 1 16 .stdbus 17001

/-- The checks of `change_protocol_mode`. The verify pass opens at the factory framing of the
target. -/
def protocolModeChange (target currentProtocol : ProtocolKind) (address : ℤ) : Result Change := do
  requireConfirm call.confirm "change_protocol_mode"
  match protocolModeCodes.lookup target with
  | none =>
    raise .configuration [.text "change_protocol_mode target must be STDBUS or MODBUS_RTU; got ",
      .text (kindRepr target)]
      { port := some call.port, protocol := some target, address := some address }
  | some code =>
    .ok ⟨⟨currentProtocol, address, call.settings⟩, 17009, code,
      (SerialSettings.factoryFor target call.port).map fun settings => ⟨target, address, settings⟩⟩

end Checks

section Operations

variable {σ : Type} (lib : AnyModbus) (upper : String → String) (registry : ParameterRegistry)
  (site : Site σ) (call : Call)

/-- `info.part_number` of an EZ-ZONE controller. -/
def partOf (info : DeviceInfo) : PartNumber :=
  if info.partNumber = "" then ⟨"", .unknown, []⟩ else decodePartNumber upper info.partNumber

def checkSkuSupportsProtocol (info : DeviceInfo) (target : ProtocolKind) (port : String)
    (address : ℤ) : Result Unit :=
  let context : ErrorContext :=
    { port := some port
      protocol := some target
      address := some address
      parameterId := some 17009 }
  if info.health = .failed then
    raise .configuration [
      .text "change_protocol_mode: identify() returned health=FAILED so the ",
      .text "SKU gate has no part number to verify. Refusing the EEPROM write ",
      .text "to avoid persisting protocol 17009 on hardware whose comms code ",
      .text "may not include the target stack — re-run after the device ",
      .text "responds to identify(), or switch protocol manually with ",
      .text "confirm=True after verifying the SKU supports it."] context
  else
    match pmCommsCode (partOf upper info) with
    | none => .ok ()
    | some code =>
      if target = .modbusRtu ∧ .hasModbus ∉ capabilitiesForPartNumber (partOf upper info) then
        raise .configuration [.text "part number ", .strRepr (partOf upper info).raw,
          .text " has comms position 8 = ", .strRepr code.toString,
          .text " which does not include the Modbus RTU stack on this SKU; ",
          .text "Watlow comms codes that ship Modbus RTU: 1, 2, B, D, E, F. ",
          .text "The 17009 write would persist but the device would never answer ",
          .text "on Modbus — refusing the write."] context
      else .ok ()

/-- The gate of `change_protocol_mode`: what the controller says it is has to have the target. -/
def skuGate (target : ProtocolKind) (address : ℤ) : Gate σ := fun world c s =>
  andThen (identifyController lib registry world false c s) fun x s =>
  andThen (checkSkuSupportsProtocol upper x.1 target call.port address, s) fun _ s =>
    (.ok x.2, s)

def changeBaud (targetBaud : ℤ) (currentProtocol : ProtocolKind) (address : ℤ)
    (s : Detecting σ) : Result DeviceInfo × Detecting σ :=
  andThen (baudChange call targetBaud currentProtocol address, s) fun change s =>
    reconfigure lib registry site call ungated change s

def changeModbusAddress (targetAddress currentAddress : ℤ) (s : Detecting σ) :
    Result DeviceInfo × Detecting σ :=
  andThen (modbusAddressChange call targetAddress currentAddress, s) fun change s =>
    reconfigure lib registry site call ungated change s

def changeStdbusAddress (targetAddress currentAddress : ℤ) (s : Detecting σ) :
    Result DeviceInfo × Detecting σ :=
  andThen (stdbusAddressChange call targetAddress currentAddress, s) fun change s =>
    reconfigure lib registry site call ungated change s

def changeProtocolMode (target currentProtocol : ProtocolKind) (address : ℤ) (s : Detecting σ) :
    Result DeviceInfo × Detecting σ :=
  andThen (protocolModeChange call target currentProtocol address, s) fun change s =>
    reconfigure lib registry site call (skuGate lib upper registry call target address) change s

end Operations

inductive Operation where
  | baud (targetBaud : ℤ) (currentProtocol : ProtocolKind) (address : ℤ)
  | modbusAddress (targetAddress currentAddress : ℤ)
  | stdbusAddress (targetAddress currentAddress : ℤ)
  | protocolMode (target currentProtocol : ProtocolKind) (address : ℤ)
  deriving DecidableEq, Repr

/-- The target is one that the operation can set. -/
def Operation.ValidTarget : Operation → Prop
  | .baud targetBaud _ _ => targetBaud ∈ [9600, 19200, 38400]
  | .modbusAddress targetAddress _ => 1 ≤ targetAddress ∧ targetAddress ≤ 247
  | .stdbusAddress targetAddress _ => 1 ≤ targetAddress ∧ targetAddress ≤ 16
  | .protocolMode target _ _ => target = .stdbus ∨ target = .modbusRtu

def Operation.parameterId : Operation → ℤ
  | .baud _ _ _ => 17002
  | .modbusAddress _ _ => 17007
  | .stdbusAddress _ _ => 17001
  | .protocolMode _ _ _ => 17009

def Operation.run {σ : Type} (lib : AnyModbus) (upper : String → String)
    (registry : ParameterRegistry) (site : Site σ) (call : Call) :
    Operation → Detecting σ → Result DeviceInfo × Detecting σ
  | .baud targetBaud currentProtocol address =>
    changeBaud lib registry site call targetBaud currentProtocol address
  | .modbusAddress targetAddress currentAddress =>
    changeModbusAddress lib registry site call targetAddress currentAddress
  | .stdbusAddress targetAddress currentAddress =>
    changeStdbusAddress lib registry site call targetAddress currentAddress
  | .protocolMode target currentProtocol address =>
    changeProtocolMode lib upper registry site call target currentProtocol address

/-! ## The checks -/

section Accepted

variable {call : Call} {change : Change}

theorem requireConfirm_ok_iff {confirm : Bool} {op : String} {u : Unit} :
    requireConfirm confirm op = .ok u ↔ confirm = true := by
  cases confirm with
  | true => exact iff_of_true rfl rfl
  | false => exact iff_of_false (fun h => nomatch h) Bool.false_ne_true

def Operation.current (call : Call) : Operation → Endpoint
  | .baud _ currentProtocol address => ⟨currentProtocol, address, call.settings⟩
  | .modbusAddress _ currentAddress => ⟨.modbusRtu, currentAddress, call.settings⟩
  | .stdbusAddress _ currentAddress => ⟨.stdbus, currentAddress, call.settings⟩
  | .protocolMode _ currentProtocol address => ⟨currentProtocol, address, call.settings⟩

def Operation.checked (call : Call) : Operation → Result Change
  | .baud targetBaud currentProtocol address => baudChange call targetBaud currentProtocol address
  | .modbusAddress targetAddress currentAddress =>
    modbusAddressChange call targetAddress currentAddress
  | .stdbusAddress targetAddress currentAddress =>
    stdbusAddressChange call targetAddress currentAddress
  | .protocolMode target currentProtocol address =>
    protocolModeChange call target currentProtocol address

structure Accepted (call : Call) (op : Operation) (change : Change) : Prop where
  confirmed : call.confirm = true
  valid : op.ValidTarget
  current : change.current = op.current call
  parameterId : change.parameterId = op.parameterId

theorem baudChange_ok {targetBaud address : ℤ} {currentProtocol : ProtocolKind}
    (h : baudChange call targetBaud currentProtocol address = .ok change) :
    Accepted call (.baud targetBaud currentProtocol address) change := by
  obtain ⟨_, hconfirm, h⟩ := bind_ok_iff.mp h
  cases hcode : modbusBaudCodes.lookup targetBaud with
  | none =>
    rw [hcode] at h
    cases h
  | some code =>
    obtain ⟨before, after, hcodes, -⟩ := List.lookup_eq_some_iff.mp hcode
    have hkey : targetBaud ∈ modbusBaudCodes.map (·.1) := by simp [hcodes]
    rw [hcode] at h
    simp only at h
    split at h
    · cases h
      exact ⟨requireConfirm_ok_iff.mp hconfirm, hkey, rfl, rfl⟩
    · cases h

theorem addressChange_ok {op label : String} {lo hi parameterId targetAddress currentAddress : ℤ}
    {protocol : ProtocolKind}
    (h : addressChange call op label lo hi protocol parameterId targetAddress currentAddress =
      .ok change) :
    call.confirm = true ∧ (lo ≤ targetAddress ∧ targetAddress ≤ hi) ∧
      change.current = ⟨protocol, currentAddress, call.settings⟩ ∧
      change.parameterId = parameterId := by
  obtain ⟨_, hconfirm, h⟩ := bind_ok_iff.mp h
  by_cases hrange : lo ≤ targetAddress ∧ targetAddress ≤ hi
  · rw [if_pos hrange] at h
    cases h
    exact ⟨requireConfirm_ok_iff.mp hconfirm, hrange, rfl, rfl⟩
  · rw [if_neg hrange] at h
    cases h

theorem protocolModeChange_ok {target currentProtocol : ProtocolKind} {address : ℤ}
    (h : protocolModeChange call target currentProtocol address = .ok change) :
    Accepted call (.protocolMode target currentProtocol address) change := by
  obtain ⟨_, hconfirm, h⟩ := bind_ok_iff.mp h
  have hconfirmed := requireConfirm_ok_iff.mp hconfirm
  cases target with
  | auto => cases h
  | stdbus =>
    cases h
    exact ⟨hconfirmed, Or.inl rfl, rfl, rfl⟩
  | modbusRtu =>
    cases h
    exact ⟨hconfirmed, Or.inr rfl, rfl, rfl⟩

theorem checked_ok {op : Operation} (h : op.checked call = .ok change) :
    Accepted call op change := by
  cases op with
  | baud targetBaud currentProtocol address => exact baudChange_ok h
  | modbusAddress targetAddress currentAddress =>
    obtain ⟨hconfirm, hrange, hcurrent, hid⟩ := addressChange_ok h
    exact ⟨hconfirm, hrange, hcurrent, hid⟩
  | stdbusAddress targetAddress currentAddress =>
    obtain ⟨hconfirm, hrange, hcurrent, hid⟩ := addressChange_ok h
    exact ⟨hconfirm, hrange, hcurrent, hid⟩
  | protocolMode target currentProtocol address => exact protocolModeChange_ok h

end Accepted

/-! ## The record of a call -/

section Record

variable {σ : Type}

def recordedSite (site : Site σ) : Site (Recorded σ) where
  ports settings := recordedPort (site.ports settings)
  sleeping s := ((site.sleeping s.state).1, { s with state := (site.sleeping s.state).2 })

/-- Reads, and at most one request besides that `Allowed` admits behind the ones before it. -/
def OneWrite (Allowed : List WireRequest → WireRequest → Prop) (requests : List WireRequest) :
    Prop :=
  (∀ r ∈ requests, IsRead r) ∨
    ∃ before w after, requests = before ++ w :: after ∧ (∀ r ∈ before, IsRead r) ∧
      Allowed before w ∧ ∀ r ∈ after, IsRead r

theorem oneWrite_kept (Allowed : List WireRequest → WireRequest → Prop) :
    KeptByReads fun s : Recorded σ => OneWrite Allowed s.requests where
  read s state request hrequest hs := by
    rcases hs with hreads | ⟨before, w, after, hsplit, hbefore, hw, hafter⟩
    · left
      intro r hr
      rcases List.mem_append.mp hr with hr | hr
      · exact hreads r hr
      · cases List.mem_singleton.mp hr
        exact hrequest
    · refine Or.inr ⟨before, w, after ++ [request], by simp [hsplit], hbefore, hw, fun r hr => ?_⟩
      rcases List.mem_append.mp hr with hr | hr
      · exact hafter r hr
      · cases List.mem_singleton.mp hr
        exact hrequest
  state s state hs := hs

def WritesTo (registry : ParameterRegistry) (parameterId : ℤ) (w : WireRequest) : Prop :=
  IsWrite w ∧ ∃ spec, registry.resolve (.id parameterId) = .ok spec ∧
    spec.parameterId = parameterId ∧ Names spec w

variable {P : Recorded σ → Prop} (lib : AnyModbus) (registry : ParameterRegistry) (site : Site σ)
  (call : Call)

section Carried

variable (world : PortWorld σ)

theorem openController_carries (hP : KeptByReads P) (args : OpenArguments) (kind : ProtocolKind)
    (transport : Transport) (unit : Option TemperatureUnit) (s : Detecting (Recorded σ)) :
    Carries P s (openController (recordedPort world) args kind transport unit s).2 := by
  refine andThen_rel _ (carries_trans P) (openTransport_carries world hP transport s)
    fun _ t _ => ?_
  exact andThen_rel _ (carries_trans P) (fun ht => ht) fun _ u _ hu => hu

theorem connect_carries (hP : KeptByReads P) (args : OpenArguments) (s : Detecting (Recorded σ)) :
    Carries P s (connect (recordedPort world) args s).2 := by
  refine andThen_rel _ (carries_trans P) (fun hs => hs) fun unit t _ => ?_
  split
  · refine andThen_rel _ (carries_trans P)
      (detectProtocol_carries world hP args.port args.address t) fun resolved u _ => ?_
    exact fun hu => hu
  · exact openController_carries world hP args _ _ unit t
  · exact openController_carries world hP args _ _ unit t

theorem openDevice_carries (hP : KeptByReads P) (args : OpenArguments)
    (s : Detecting (Recorded σ)) :
    Carries P s (openDevice lib (recordedPort world) args s).2 := by
  refine andThen_rel _ (carries_trans P) (connect_carries world hP args s) fun c t _ ht => ?_
  split
  · exact identify_keeps lib (world.wire c.transport) hP args.profile false false ht
  · exact ht

theorem identifyController_carries (hP : KeptByReads P) (strict : Bool) (c : OpenedController)
    (s : Detecting (Recorded σ)) :
    Carries P s (identifyController lib registry (recordedPort world) strict c s).2 :=
  fun hs => identify_keeps lib (world.wire c.transport) hP _ strict false hs

theorem leave_carries {α : Type} (hP : KeptByReads P) (transport : Transport)
    {s : Detecting (Recorded σ)} {x : Result α × Detecting (Recorded σ)} (hx : Carries P s x.2) :
    Carries P s (leave (recordedPort world) transport x).2 :=
  fun hs => hP.state _ _ (hx hs)

theorem openAt_carries (hP : KeptByReads P) (place : Endpoint) (s : Detecting (Recorded σ)) :
    Carries P s (openAt lib registry (recordedSite site) call place s).2 :=
  fun hs => openDevice_carries lib (portAt site call place) hP _ { s with attempts := [] } hs

theorem verify_carries (hP : KeptByReads P) (place : Endpoint) (s : Detecting (Recorded σ)) :
    Carries P s (verify lib registry (recordedSite site) call place s).2 := by
  refine andThen_rel _ (carries_trans P) (openAt_carries lib registry site call hP place s)
    fun c t _ => ?_
  refine leave_carries _ hP c.transport (andThen_rel _ (carries_trans P)
    (identifyController_carries lib registry _ hP true c t) fun x u _ => ?_)
  exact fun hu => hu

end Carried

section Registries

variable {σ : Type} {lib : AnyModbus} {world : PortWorld σ} {registry : ParameterRegistry}

theorem connect_registry {args : OpenArguments} {s t : Detecting σ} {c : OpenedController}
    (h : connect world args s = (.ok c, t)) : c.session.registry = args.profile.registry := by
  obtain ⟨unit, s₁, -, h⟩ := andThen_ok_iff.mp h
  have hopened : ∀ kind transport, openController world args kind transport unit s₁ = (.ok c, t) →
      c.session.registry = args.profile.registry := by
    intro kind transport h
    obtain ⟨_, s₂, -, h⟩ := andThen_ok_iff.mp h
    obtain ⟨_, s₃, -, h⟩ := andThen_ok_iff.mp h
    cases h
    rfl
  split at h
  · obtain ⟨resolved, s₂, -, h⟩ := andThen_ok_iff.mp h
    cases h
    rfl
  · exact hopened _ _ h
  · exact hopened _ _ h

theorem identifyController_ok {strict : Bool} {c c' : OpenedController} {s t : Detecting σ}
    {info : DeviceInfo}
    (h : identifyController lib registry world strict c s = (.ok (info, c'), t)) :
    (info.health ≠ .failed → info.partNumber ≠ "") ∧
      c'.session.registry = c.session.registry := by
  have hpart : TellsPart (identify lib (world.wire c.transport) (ezzoneProfile registry) strict
      false (c.start s.world)).1 _ :=
    identify_ezzone_tellsPart (c.start s.world) registry strict false
  have hsame : c.session.SameDevice (identify lib (world.wire c.transport)
      (ezzoneProfile registry) strict false (c.start s.world)).2.session :=
    identify_ezzone_sameDevice (c.start s.world) registry strict false
  rw [identifyController] at h
  cases hinfo : (identify lib (world.wire c.transport) (ezzoneProfile registry) strict false
      (c.start s.world)).1 with
  | error e =>
    rw [hinfo] at h
    cases h
  | ok told =>
    rw [hinfo] at h
    cases h
    exact ⟨hpart _ hinfo, hsame.registry⟩

theorem identifyOpened_eq {args : OpenArguments} (hprofile : args.profile = ezzoneProfile registry)
    (c : OpenedController) (s : Detecting σ) :
    identifyOpened lib world args c s =
      andThen (identifyController lib registry world false c s) fun x s => (.ok x.2, s) := by
  rw [andThen_map]
  simp only [identifyOpened, identifyController, hprofile]
  cases (identify lib (world.wire c.transport) (ezzoneProfile registry) false false
    (c.start s.world)).1 <;> rfl

theorem openDevice_registry {args : OpenArguments} {s t : Detecting σ} {c : OpenedController}
    (hprofile : args.profile = ezzoneProfile registry)
    (h : openDevice lib world args s = (.ok c, t)) : c.session.registry = registry := by
  obtain ⟨c₀, s₀, hconnect, h⟩ := andThen_ok_iff.mp h
  have hregistry : c₀.session.registry = registry := by
    rw [connect_registry hconnect, hprofile]
    rfl
  split at h
  · rw [identifyOpened_eq hprofile] at h
    obtain ⟨⟨info, c'⟩, s', hidentify, h⟩ := andThen_ok_iff.mp h
    cases h
    exact (identifyController_ok hidentify).2.trans hregistry
  · cases h
    exact hregistry

end Registries
theorem writeModbus_writes {ctx : CommandContext} {request : WriteParameterRequest} {o : ModbusOp}
    (h : writeModbusEncode lib ctx request = .ok o) : o.fn.Writes := by
  obtain ⟨spec, -, h⟩ := bind_ok_iff.mp h
  obtain ⟨_, -, h⟩ := bind_ok_iff.mp h
  obtain ⟨_, -, h⟩ := bind_ok_iff.mp h
  obtain ⟨encoding, -, h⟩ := bind_ok_iff.mp h
  obtain ⟨register, -, h⟩ := bind_ok_iff.mp h
  obtain ⟨_, -, h⟩ := bind_ok_iff.mp h
  obtain ⟨words, -, h⟩ := bind_ok_iff.mp h
  rw [(make_ok_iff.mp h).1]
  by_cases hone : encoding.registerCount = 1
  · exact Or.inl (if_pos hone)
  · exact Or.inr (if_neg hone)

theorem write_isWrite {s : Session} {request : WriteParameterRequest} {confirm : Bool}
    {client : WireRequest → Result WireReply} {w : WireRequest}
    (h : (execute s (writeParameter lib) request confirm client).emitted = some w) :
    IsWrite w := by
  obtain ⟨variant, hv, -, hw⟩ := emitted_encoded h
  rcases selectVariant_ok hv with ⟨v, hcommand, rfl⟩ | ⟨v, hcommand, rfl⟩
  · cases hcommand
    obtain ⟨bs, hbs, hw⟩ := bind_ok_iff.mp hw
    cases hw
    obtain ⟨spec, -, hbs⟩ := writeStdBus_ok_iff.mp hbs
    obtain ⟨-, tail, -, rfl⟩ := encodeWriteRequest_ok_iff.mp hbs
    rfl
  · cases hcommand
    obtain ⟨o, ho, hw⟩ := bind_ok_iff.mp hw
    cases hw
    exact writeModbus_writes lib ho

theorem writeConfirmed_requests (world : PortWorld σ) (c : OpenedController)
    (parameterId value : ℤ) (s : Detecting (Recorded σ)) :
    (writeConfirmed lib (recordedPort world) c parameterId value s).2.world.requests =
        s.world.requests ∨
      ∃ w, WritesTo c.session.registry parameterId w ∧
        (writeConfirmed lib (recordedPort world) c parameterId value s).2.world.requests =
          s.world.requests ++ [w] := by
  simp only [writeConfirmed]
  cases h : (execute c.session (writeParameter lib) ⟨.id parameterId, .num (.int value), 1⟩ true
      fun request => ((recordedPort world).wire c.transport c.session.address request
        s.world).1).emitted with
  | none => exact Or.inl rfl
  | some w =>
    obtain ⟨-, spec, hspec, -, hnames⟩ := write_guarded h
    exact Or.inr ⟨w, ⟨write_isWrite lib h, spec, hspec, (resolve_id _ hspec).1, hnames⟩, rfl⟩

/-- A gate that sends reads only and leaves the registry of the session as it is. -/
structure ReadingGate (gate : Gate (Recorded σ)) : Prop where
  carries : ∀ {P : Recorded σ → Prop}, KeptByReads P → ∀ (world : PortWorld σ) c s,
    Carries P s (gate (recordedPort world) c s).2
  registry : ∀ {world c c' s t}, gate world c s = (.ok c', t) →
    c'.session.registry = c.session.registry

theorem ungated_reading : ReadingGate (ungated : Gate (Recorded σ)) where
  carries _ _ _ _ hs := hs
  registry h := by
    cases h
    rfl

theorem skuGate_reading (upper : String → String) (target : ProtocolKind) (address : ℤ) :
    ReadingGate (skuGate lib upper registry call target address : Gate (Recorded σ)) where
  carries hP world c s := by
    refine andThen_rel _ (carries_trans _)
      (identifyController_carries lib registry world hP false c s) fun x t _ => ?_
    exact andThen_rel _ (carries_trans _) (fun ht => ht) fun _ u _ hu => hu
  registry h := by
    obtain ⟨⟨info, c'⟩, t, hidentify, h⟩ := andThen_ok_iff.mp h
    obtain ⟨_, u, -, h⟩ := andThen_ok_iff.mp h
    cases h
    exact (identifyController_ok hidentify).2

section Runs

variable {gate : Gate (Recorded σ)} (change : Change) {Ready : List WireRequest → Prop}
  {s : Detecting (Recorded σ)}

def WritesBehind (registry : ParameterRegistry) (Ready : List WireRequest → Prop)
    (parameterId : ℤ) (before : List WireRequest) (w : WireRequest) : Prop :=
  Ready before ∧ WritesTo registry parameterId w

theorem written_oneWrite (hgate : ReadingGate gate) (world : PortWorld σ) {c : OpenedController}
    (hregistry : c.session.registry = registry) (hs : Reads s.world)
    (hready : ∀ c' u, gate (recordedPort world) c s = (.ok c', u) → Ready u.world.requests) :
    OneWrite (WritesBehind registry Ready change.parameterId)
      (andThen (gate (recordedPort world) c s) fun c s =>
        writeConfirmed lib (recordedPort world) c change.parameterId change.value
          s).2.world.requests := by
  have hreads : Reads (gate (recordedPort world) c s).2.world :=
    hgate.carries reads_kept world c s hs
  cases hx : gate (recordedPort world) c s with
  | mk x u =>
    rw [hx] at hreads
    cases x with
    | error e => exact Or.inl hreads
    | ok c' =>
      rw [andThen_ok]
      rcases writeConfirmed_requests lib world c' change.parameterId change.value u with
        hnone | ⟨w, hw, hone⟩
      · rw [hnone]
        exact Or.inl hreads
      · rw [hgate.registry hx, hregistry] at hw
        refine Or.inr ⟨u.world.requests, w, [], hone, hreads, ⟨hready c' u hx, hw⟩, ?_⟩
        exact fun r hr => absurd hr List.not_mem_nil

theorem reconfigure_oneWrite (hgate : ReadingGate gate) (hs : Reads s.world)
    (hready : ∀ c t c' u,
      openAt lib registry (recordedSite site) call change.current s = (.ok c, t) →
      gate (portAt (recordedSite site) call change.current) c t = (.ok c', u) →
        Ready u.world.requests) :
    OneWrite (WritesBehind registry Ready change.parameterId)
      (reconfigure lib registry (recordedSite site) call gate change s).2.world.requests := by
  have hkept : KeptByReads fun s : Recorded σ =>
      OneWrite (WritesBehind registry Ready change.parameterId) s.requests := oneWrite_kept _
  have hopen := openAt_carries lib registry site call reads_kept change.current s hs
  cases hx : openAt lib registry (recordedSite site) call change.current s with
  | mk x t =>
    rw [hx] at hopen
    rw [reconfigure, hx]
    cases x with
    | error e => exact Or.inl hopen
    | ok c =>
      have hregistry : c.session.registry = registry := openDevice_registry rfl hx
      have hwritten := written_oneWrite lib registry change hgate
        (portAt site call change.current) hregistry hopen fun c' u => hready c t c' u hx
      rw [andThen_ok]
      have hbehind : ∀ u : Detecting (Recorded σ), Carries
          (fun s => OneWrite (WritesBehind registry Ready change.parameterId) s.requests) u
          (andThen (wait (recordedSite site) u) fun _ s =>
            andThen (change.changed, s) fun place s =>
              verify lib registry (recordedSite site) call place s).2 := by
        intro u
        refine andThen_rel _ (carries_trans _) (hkept.state _ _) fun _ v _ => ?_
        refine andThen_rel _ (carries_trans _) (fun hv => hv) fun place w _ => ?_
        exact verify_carries lib registry site call hkept place w
      refine andThen_rel _ (carries_trans _) ?_ (fun _ u _ => hbehind u) (Or.inl hopen)
      exact fun _ => hkept.state _ _ hwritten

end Runs

section Sku

variable {upper : String → String} {info : DeviceInfo} {target : ProtocolKind}

theorem supportsModbus_of_capability {part : PartNumber} {code : Char}
    (hcode : pmCommsCode part = some code)
    (h : .hasModbus ∈ capabilitiesForPartNumber part) : code ∈ pmCommsModbus := by
  have hsupports := (capabilities_hasModbus_iff part).mp h
  rw [pmCommsSupportsModbus, hcode] at hsupports
  exact List.contains_iff_mem.mp hsupports

theorem checkSku_ok {port : String} {address : ℤ} {u : Unit}
    (hpart : info.health ≠ .failed → info.partNumber ≠ "")
    (h : checkSkuSupportsProtocol upper info target port address = .ok u) :
    info.health ≠ .failed ∧
      (target = .modbusRtu → ∀ code, CommsCharacter (head upper info.partNumber) code →
        code ∈ pmCommsModbus) := by
  simp only [checkSkuSupportsProtocol, raise] at h
  by_cases hfailed : info.health = .failed
  · rw [if_pos hfailed] at h
    cases h
  · rw [if_neg hfailed] at h
    refine ⟨hfailed, fun htarget code hcomms => ?_⟩
    have hdecoded : partOf upper info = decodePartNumber upper info.partNumber :=
      if_neg (hpart hfailed)
    have hcode : pmCommsCode (partOf upper info) = some code := by
      rw [hdecoded]
      exact pmCommsCode_eq_some_iff.mpr hcomms
    rw [hcode] at h
    simp only at h
    by_cases hmodbus : .hasModbus ∈ capabilitiesForPartNumber (partOf upper info)
    · exact supportsModbus_of_capability hcode hmodbus
    · rw [if_pos ⟨htarget, hmodbus⟩] at h
      cases h

end Sku

variable (upper : String → String)

/-- The requests of a call up to the identification that its gate checks: the health is not failed,
and a comms character carries Modbus if that is the target. -/
def SkuChecked (target currentProtocol : ProtocolKind) (address : ℤ)
    (start : Detecting (Recorded σ)) (before : List WireRequest) : Prop :=
  ∃ c s info c' t,
    openAt lib registry (recordedSite site) call ⟨currentProtocol, address, call.settings⟩ start =
      (.ok c, s) ∧
    identifyController lib registry
      (portAt (recordedSite site) call ⟨currentProtocol, address, call.settings⟩) false c s =
        (.ok (info, c'), t) ∧
    t.world.requests = before ∧ info.health ≠ .failed ∧
    (target = .modbusRtu → ∀ code, CommsCharacter (head upper info.partNumber) code →
      code ∈ pmCommsModbus)

def Operation.Checked (start : Detecting (Recorded σ)) : Operation → List WireRequest → Prop
  | .protocolMode target currentProtocol address =>
    SkuChecked lib registry site call upper target currentProtocol address start
  | _ => fun _ => True

def Operation.gate : Operation → Gate (Recorded σ)
  | .protocolMode target _ address => skuGate lib upper registry call target address
  | _ => ungated

theorem run_eq (op : Operation) (s : Detecting (Recorded σ)) :
    op.run lib upper registry (recordedSite site) call s =
      andThen (op.checked call, s) fun change s =>
        reconfigure lib registry (recordedSite site) call
          (op.gate lib registry call upper) change s := by
  cases op <;> rfl

theorem gate_reading (op : Operation) :
    ReadingGate (op.gate lib registry call upper : Gate (Recorded σ)) := by
  cases op with
  | protocolMode target currentProtocol address =>
    exact skuGate_reading lib registry call upper target address
  | baud targetBaud currentProtocol address => exact ungated_reading
  | modbusAddress targetAddress currentAddress => exact ungated_reading
  | stdbusAddress targetAddress currentAddress => exact ungated_reading

theorem gate_checked (op : Operation) (start : Detecting (Recorded σ)) {c c' : OpenedController}
    {t u : Detecting (Recorded σ)}
    (hopen : openAt lib registry (recordedSite site) call (op.current call) start = (.ok c, t))
    (hgate : op.gate lib registry call upper (portAt (recordedSite site) call (op.current call)) c
      t = (.ok c', u)) :
    op.Checked lib registry site call upper start u.world.requests := by
  cases op with
  | protocolMode target currentProtocol address =>
    obtain ⟨⟨info, c₁⟩, t₁, hidentify, hgate⟩ := andThen_ok_iff.mp hgate
    obtain ⟨_, u₁, hcheck, hgate⟩ := andThen_ok_iff.mp hgate
    obtain ⟨hok, rfl⟩ := Prod.mk.inj hcheck
    cases hgate
    obtain ⟨hhealth, hmodbus⟩ := checkSku_ok (identifyController_ok hidentify).1 hok
    exact ⟨c, t, info, _, _, hopen, hidentify, rfl, hhealth, hmodbus⟩
  | baud targetBaud currentProtocol address => exact trivial
  | modbusAddress targetAddress currentAddress => exact trivial
  | stdbusAddress targetAddress currentAddress => exact trivial

/-- A call over a site with a record. Without the confirmation, or with a target that the operation
cannot set, it raises and nothing happens on the port; otherwise all it sends is reads, but for one
write of its own parameter behind its checks. -/
theorem maintenance_gated (op : Operation) (start : σ) :
    (¬ (call.confirm = true ∧ op.ValidTarget) →
      (∃ e, (op.run lib upper registry (recordedSite site) call ⟨⟨start, []⟩, [], []⟩).1 =
        .error e) ∧
      (op.run lib upper registry (recordedSite site) call ⟨⟨start, []⟩, [], []⟩).2.log = [] ∧
      (op.run lib upper registry (recordedSite site) call
        ⟨⟨start, []⟩, [], []⟩).2.world.requests = []) ∧
    OneWrite (WritesBehind registry
        (op.Checked lib registry site call upper ⟨⟨start, []⟩, [], []⟩) op.parameterId)
      (op.run lib upper registry (recordedSite site) call
        ⟨⟨start, []⟩, [], []⟩).2.world.requests := by
  have hnone : Reads (⟨start, []⟩ : Recorded σ) := by simp [Reads]
  rw [run_eq]
  cases hchange : op.checked call with
  | error e => exact ⟨fun _ => ⟨⟨e, rfl⟩, rfl, rfl⟩, Or.inl hnone⟩
  | ok change =>
    obtain ⟨hconfirm, hvalid, hcurrent, hid⟩ := checked_ok hchange
    refine ⟨fun h => absurd ⟨hconfirm, hvalid⟩ h, ?_⟩
    rw [andThen_ok, ← hid]
    refine reconfigure_oneWrite lib registry site call change
      (gate_reading lib registry call upper op) hnone fun c t c' u hopen hgate => ?_
    rw [hcurrent] at hopen hgate
    exact gate_checked lib registry site call upper op _ hopen hgate

end Record

def silentSite : Site Unit where
  ports _ := ⟨fun _ s => (none, s), fun s => (none, s), fun _ _ _ s => (raise .timeout [], s),
    fun _ s => (none, s)⟩
  sleeping s := (none, s)

def addressRegistry : ParameterRegistry :=
  .build [plainRow 1009 "part_number", plainRow 1001 "hardware_id", plainRow 1002 "firmware_id",
    plainRow 1007 "serial_number", plainRow 17007 "modbus_address"] [] []

/-- A bus without an answer stops the verify pass, not the write. -/
example :
    ((changeModbusAddress wordModbus addressRegistry (recordedSite silentSite)
      ⟨"COM3", none, true⟩ 5 1 ⟨⟨(), []⟩, [], []⟩).2.world.requests.map fun
        | .op o => (o.fn, o.address)
        | .payload _ => (.readHolding, 0)) =
      [(.readHolding, 1009), (.readHolding, 1001), (.readHolding, 1002), (.readHolding, 1007),
        (.writeRegister, 17007)] := by
  decide +kernel

end Maintenance
