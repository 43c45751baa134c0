import Watlowlib.ProtocolDetection

/-! # Opening a device

`open_device` connects to the port, directly or through the detector, and then identifies the
device. Nothing closes the transport when the identification raises. -/
namespace OpenDevice

open Discovery DiscoveryScan ExceptRules IdentityOutcomes IdentityStrategies ModbusCodec
  ProtocolDetection PythonTexts PythonValues Registry SerialTransport SessionExecute StdBusFraming
  WatlowErrors

inductive UnitArgument where
  | temperature (unit : TemperatureUnit)
  | percent
  | text (s : String)
  deriving DecidableEq, Repr

def unitAliases : List (String × UnitArgument) :=
  [("c", .temperature .celsius), ("celsius", .temperature .celsius),
   ("degc", .temperature .celsius), ("°c", .temperature .celsius),
   ("f", .temperature .fahrenheit), ("fahrenheit", .temperature .fahrenheit),
   ("degf", .temperature .fahrenheit), ("°f", .temperature .fahrenheit),
   ("%", .percent), ("percent", .percent), ("pct", .percent)]

def coerceUnit : UnitArgument → Result UnitArgument
  | .text s =>
    match unitAliases.lookup (lower (strip s)) with
    | some unit => .ok unit
    | none => raise .validation [.text "unknown unit alias: ", .strRepr s]
  | unit => .ok unit

def coerceWireTemperatureUnit (argument : UnitArgument) : Result TemperatureUnit := do
  match ← coerceUnit argument with
  | .temperature unit => .ok unit
  | _ =>
    raise .validation [.text "assert_wire_temperature_unit accepts CELSIUS / FAHRENHEIT only; ",
      .text "PERCENT is not a temperature scale"]

/-- The arguments of `open_device`; its serial settings are part of the port. -/
structure OpenArguments where
  port : String
  profile : DeviceProfile
  protocol : Option ProtocolKind
  address : ℤ
  assertWireTemperatureUnit : Option UnitArgument
  identify : Bool

/-- A controller with the transport that it closes when it is left. -/
structure OpenedController where
  transport : Transport
  session : Session
  wireTemperatureUnit : Option TemperatureUnit
  deviceInfo : Option DeviceInfo

section Open

variable {σ : Type} (lib : AnyModbus) (world : PortWorld σ) (args : OpenArguments)

def wireUnit : Result (Option TemperatureUnit) :=
  match args.assertWireTemperatureUnit with
  | none => .ok args.profile.wireTemperatureUnit
  | some argument => (coerceWireTemperatureUnit argument).map some

/-- The session takes the profile's unit where none is handed to it. -/
def openedController (kind : ProtocolKind) (transport : Transport)
    (unit : Option TemperatureUnit) : OpenedController :=
  ⟨transport, ⟨kind, args.profile.registry, args.address, args.port, ∅, none⟩,
    unit <|> args.profile.wireTemperatureUnit, none⟩

/-- `_open_controller` over a transport that is not open yet. -/
def openController (kind : ProtocolKind) (transport : Transport) (unit : Option TemperatureUnit)
    (s : Detecting σ) : Result OpenedController × Detecting σ :=
  andThen (openTransport world transport s) fun _ s =>
  andThen (makeProtocolClient kind, s) fun _ s =>
    (.ok (openedController args kind transport unit), s)

/-- `open_device` up to the controller that it goes on to identify. -/
def connect (s : Detecting σ) : Result OpenedController × Detecting σ :=
  andThen (wireUnit args, s) fun unit s =>
  match args.protocol.getD args.profile.defaultProtocol with
  | .auto =>
    andThen (detectProtocol world args.port args.address s) fun resolved s =>
      (.ok (openedController args resolved.kind resolved.transport unit), s)
  | .modbusRtu => openController world args .modbusRtu .modbusBus unit s
  | .stdbus => openController world args .stdbus .serial unit s

def OpenedController.start (c : OpenedController) (line : σ) : Controller σ :=
  ⟨c.session, c.wireTemperatureUnit, line⟩

def identifyOpened (c : OpenedController) (s : Detecting σ) :
    Result OpenedController × Detecting σ :=
  let r := identify lib (world.wire c.transport) args.profile false false (c.start s.world)
  (r.1.map fun info =>
    { c with
      session := r.2.session
      wireTemperatureUnit := r.2.wireTemperatureUnit
      deviceInfo := some info }, { s with world := r.2.line })

def openDevice (s : Detecting σ) : Result OpenedController × Detecting σ :=
  andThen (connect world args s) fun c s =>
    if args.identify then identifyOpened lib world args c s else (.ok c, s)

/-- A controller that is returned holds the one open transport; otherwise none is left open. -/
def LeaksNothing (x : Result OpenedController × Detecting σ) : Prop :=
  (∀ c, x.1 = .ok c → openAfter x.2.log = {c.transport}) ∧
    ∀ e, x.1 = .error e → openAfter x.2.log = ∅

/-- The identification of the device that `open_device` connects to runs into an answer that it
does not tolerate, or into decimal places that no registry takes. -/
def IdentificationFails (s : Detecting σ) : Prop :=
  args.identify = true ∧ ∃ c t, connect world args s = (.ok c, t) ∧
    Spoiled (fun _ => True)
      (identityAnswers lib (world.wire c.transport) args.profile false false (c.start t.world))

variable {args}

theorem leaksNothing_error_iff {e : PyError} {s : Detecting σ} :
    LeaksNothing (.error e, s) ↔ openAfter s.log = ∅ := by
  simp [LeaksNothing]

theorem leaksNothing_ok_iff {c : OpenedController} {s : Detecting σ} :
    LeaksNothing (.ok c, s) ↔ openAfter s.log = {c.transport} := by
  simp [LeaksNothing]

theorem openController_leaksNothing {kind : ProtocolKind} (hkind : kind ≠ .auto)
    {transport : Transport} {unit : Option TemperatureUnit} {s : Detecting σ} (hs : s.log = []) :
    LeaksNothing (openController world args kind transport unit s) := by
  simp only [openController, openTransport]
  cases (world.opening transport s.world).1 with
  | some e =>
    refine leaksNothing_error_iff.mpr ?_
    rw [hs]
    rfl
  | none =>
    rw [makeProtocolClient_concrete hkind]
    refine leaksNothing_ok_iff.mpr ?_
    rw [hs]
    rfl

theorem connect_leaksNothing (start : σ) : LeaksNothing (connect world args ⟨start, [], []⟩) := by
  simp only [connect]
  cases wireUnit args with
  | error e => exact leaksNothing_error_iff.mpr rfl
  | ok unit =>
    rw [andThen_ok]
    split
    · have hone := detectProtocol_holdsOne world args.port args.address start
      cases hx : detectProtocol world args.port args.address ⟨start, [], []⟩ with
      | mk r t =>
        rw [hx] at hone
        cases r with
        | error e => exact leaksNothing_error_iff.mpr (hone.raised e rfl)
        | ok resolved => exact leaksNothing_ok_iff.mpr (hone.returned resolved rfl).1
    · exact openController_leaksNothing world (by decide) rfl
    · exact openController_leaksNothing world (by decide) rfl

theorem identifyOpened_leaksNothing_iff {c : OpenedController} {s : Detecting σ}
    (hs : openAfter s.log = {c.transport}) :
    LeaksNothing (identifyOpened lib world args c s) ↔
      ¬ Spoiled (fun _ => True)
        (identityAnswers lib (world.wire c.transport) args.profile false false
          (c.start s.world)) := by
  have hspoiled := (identify_explained lib (world.wire c.transport) args.profile false
    (c.start s.world)).error_iff fun _ _ _ => trivial
  rw [← hspoiled]
  simp only [identifyOpened]
  cases (identify lib (world.wire c.transport) args.profile false false (c.start s.world)).1 with
  | error e =>
    simp only [Except.map]
    rw [leaksNothing_error_iff, hs]
    simp
  | ok info =>
    simp only [Except.map]
    rw [leaksNothing_ok_iff]
    simp [hs]

variable (args)

/-- No transport is left open exactly when the identification, if there is one, goes through. -/
theorem openDevice_leaksNothing_iff (start : σ) :
    LeaksNothing (openDevice lib world args ⟨start, [], []⟩) ↔
      ¬ IdentificationFails lib world args ⟨start, [], []⟩ := by
  have hconnect : LeaksNothing (connect world args ⟨start, [], []⟩) :=
    connect_leaksNothing world start
  simp only [openDevice, IdentificationFails]
  cases hx : connect world args ⟨start, [], []⟩ with
  | mk r t =>
    rw [hx] at hconnect
    cases r with
    | error e => simp [hconnect]
    | ok c =>
      rw [andThen_ok]
      by_cases hidentify : args.identify = true
      · rw [if_pos hidentify, identifyOpened_leaksNothing_iff lib world
          (leaksNothing_ok_iff.mp hconnect)]
        simp [hidentify]
      · rw [if_neg hidentify]
        simp [hconnect, hidentify]

end Open

def cancelledPort : PortWorld Bus :=
  ⟨fun _ bus => (none, bus), fun bus => (none, bus),
    fun _ => stdBusWire (fun _ => ⟨none, [], .cancelled⟩) (.finite 1), fun _ bus => (none, bus)⟩

def plainOpen : OpenArguments :=
  ⟨"COM3", ezzoneProfile (.build [plainRow 1009 "part_number"] [] []), none, 1, none, true⟩

theorem cancelled_open_leaks :
    ¬ LeaksNothing (openDevice wordModbus cancelledPort plainOpen
      ⟨⟨⟨"COM3", true, [], [], .cancelled⟩, []⟩, [], []⟩) := by
  intro h
  have hraised : (openDevice wordModbus cancelledPort plainOpen
      ⟨⟨⟨"COM3", true, [], [], .cancelled⟩, []⟩, [], []⟩).1 =
        .error ⟨.cancelled, [], {}⟩ := rfl
  have hopen : openAfter (openDevice wordModbus cancelledPort plainOpen
      ⟨⟨⟨"COM3", true, [], [], .cancelled⟩, []⟩, [], []⟩).2.log = {.serial} := rfl
  rw [h.2 _ hraised] at hopen
  exact absurd hopen (by decide)

end OpenDevice
