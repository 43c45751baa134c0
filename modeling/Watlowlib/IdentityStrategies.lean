import Watlowlib.Dialogues
import Watlowlib.Discovery

/-! # Identity strategies

How each family of controllers is identified. A strategy is a dialogue with the controller: it
reads parameters one after another, what it reads next and what it binds the session to depends on
the answers, and it ends in a `DeviceInfo` or in an error. -/
namespace IdentityStrategies

open Dialogues Discovery ExceptRules ModbusCodec ParameterCommands PythonValues Registry
  SessionExecute WatlowErrors

inductive TemperatureUnit where
  | celsius
  | fahrenheit
  deriving DecidableEq, Repr

/-- What a read takes from its entry: `entry.value` of a text, `int(entry.value)` of a number. -/
inductive ReadAs where
  | text
  | number
  deriving DecidableEq, Repr

/-- One `read_parameter` of a strategy. A strict read lets every error through. -/
structure IdentityRead where
  target : Ident
  readAs : ReadAs
  strict : Bool
  deriving DecidableEq, Repr

inductive Notice where
  | bindRegistry (registry : ParameterRegistry)
  | setWireTemperatureUnit (unit : TemperatureUnit)

abbrev Strategy := Dialogue IdentityRead (Result ParameterEntry) Notice PyError

section Reads

variable {α : Type}

def taken (strict : Bool) (pick : PyValue → Result (Option α)) :
    Result ParameterEntry → Result (Option α)
  | .ok entry => pick entry.value
  | .error e => if strict = false ∧ Tolerated e then .ok none else .error e

def readStr (target : Ident) (strict : Bool) : Strategy (Option String) :=
  .ask ⟨target, .text, strict⟩ fun answer => .ofExcept (taken strict textValue answer)

def readInt (target : Ident) (strict : Bool) : Strategy (Option ℤ) :=
  .ask ⟨target, .number, strict⟩ fun answer => .ofExcept (taken strict intValue answer)

end Reads

def bindRegistry (registry : ParameterRegistry) : Strategy PUnit :=
  .tell (.bindRegistry registry) (.done ⟨⟩)

/-- The wire unit from the unit register: one is °C, anything else °F. -/
def adoptUnit : Option ℤ → Strategy PUnit
  | none => .done ⟨⟩
  | some code =>
    .tell (.setWireTemperatureUnit (if code = 1 then .celsius else .fahrenheit)) (.done ⟨⟩)

/-- `format(i, "0<width>d")` -/
def zeroPadded (width : ℕ) (i : ℤ) : String :=
  let sign := if i < 0 then "-" else ""
  let digits := toString i.natAbs
  sign ++ String.ofList (List.replicate (width - sign.length - digits.length) '0') ++ digits

section Strategies

variable (session : Session) (strict : Bool)

def ezzoneIdentify (queryConfiguredProtocol : Bool) : Strategy DeviceInfo := do
  let part ← readStr (.name "part_number") strict
  let hardwareId ← readInt (.name "hardware_id") false
  let firmwareId ← readInt (.name "firmware_id") false
  let serialNumber ← readStr (.name "serial_number") false
  let code ← if queryConfiguredProtocol then readInt (.id 17009) false else .done none
  .done {
    partNumber := part.getD ""
    hardwareId := hardwareId
    firmwareId := firmwareId
    serialNumber := serialNumber
    protocol := session.kind
    address := session.address
    health := identityHealth (part.getD "") hardwareId firmwareId
    configuredProtocol := code.bind protocolCodeToKind }

def sdSerialNumber (serialHi serialLo : Option ℤ) : Option String :=
  if serialHi = none ∧ serialLo = none then none
  else some (zeroPadded 4 (serialHi.getD 0) ++ zeroPadded 4 (serialLo.getD 0))

def seriesSdIdentify : Strategy DeviceInfo := do
  let softwareId ← readInt (.name "software_id") strict
  let softwareVersion ← readInt (.name "software_version") false
  let _softwareBuild ← readInt (.name "software_build") false
  let serialHi ← readInt (.name "serial_number_high") false
  let serialLo ← readInt (.name "serial_number_low") false
  let unitsCode ← readInt (.name "units") false
  let _ ← adoptUnit unitsCode
  .done {
    partNumber := ""
    hardwareId := softwareId
    firmwareId := softwareVersion
    serialNumber := sdSerialNumber serialHi serialLo
    protocol := session.kind
    address := session.address
    health :=
      if softwareId = none then .failed else if softwareVersion = none then .incomplete else .ok
    configuredProtocol := none }

def f4pModelCode : ℤ := 5280

def f4pDecimalRegister : ℤ := 606

def f4pInfo (hardwareId firmwareId : Option ℤ) (serialNumber : Option String)
    (health : DeviceHealth) : DeviceInfo where
  partNumber := ""
  hardwareId := hardwareId
  firmwareId := firmwareId
  serialNumber := serialNumber
  protocol := session.kind
  address := session.address
  health := health
  configuredProtocol := none

def f4pSerialNumber (serialHi serialLo : Option ℤ) : Option String :=
  if serialHi = none ∧ serialLo = none then none
  else some (zeroPadded 6 (serialHi.getD 0 * 10000 + serialLo.getD 0))

def foreignModel (model : Option ℤ) : PyError :=
  ⟨.protocol, [.text "register 0 reads ", model.elim (.text "None") .int, .text "; expected ",
    .int f4pModelCode, .text " for a Series F4P"],
    { port := some session.port
      protocol := some session.kind
      address := some session.address
      parameterId := some 0 }⟩

/-- The profile's registry at the scale that the device reports, if it reports one. -/
def adoptDecimals (base : ParameterRegistry) : Option ℤ → Strategy PUnit
  | none => .done ⟨⟩
  | some places => do
    let registry ← .ofExcept (base.withDecimalPlaces f4pDecimalRegister places)
    bindRegistry registry

/-- `f4p_identify`; `base` is the registry of the profile. -/
def f4pIdentify (base : ParameterRegistry) : Strategy DeviceInfo := do
  let model ← readInt (.name "model_code") strict
  if model ≠ some f4pModelCode then
    if strict then .raises (foreignModel session model)
    else .done (f4pInfo session none none none .failed)
  else do
    let serialHi ← readInt (.name "serial_number_high") false
    let serialLo ← readInt (.name "serial_number_low") false
    let softwareId ← readInt (.name "software_id") false
    let decimals ← readInt (.name "input_1_decimal") false
    let unitsCode ← readInt (.name "units") false
    let _ ← adoptDecimals base decimals
    let _ ← adoptUnit unitsCode
    .done (f4pInfo session model softwareId (f4pSerialNumber serialHi serialLo)
      (if softwareId = none ∨ decimals = none ∨ unitsCode = none then .incomplete else .ok))

end Strategies

inductive IdentifyStrategy where
  | ezzone
  | seriesSd
  | f4p
  deriving DecidableEq, Repr

/-- `DeviceProfile`. A profile speaks one of the two wire protocols. -/
structure DeviceProfile where
  name : String
  registry : ParameterRegistry
  defaultProtocol : ProtocolKind
  identify : IdentifyStrategy
  wireTemperatureUnit : Option TemperatureUnit
  supportedBaudrates : Option (List ℕ)
  concrete : defaultProtocol ≠ .auto

def DeviceProfile.strategy (profile : DeviceProfile) (session : Session)
    (strict queryConfiguredProtocol : Bool) : Strategy DeviceInfo :=
  match profile.identify with
  | .ezzone => ezzoneIdentify session strict queryConfiguredProtocol
  | .seriesSd => seriesSdIdentify session strict
  | .f4p => f4pIdentify session strict profile.registry

def ezzoneProfile (registry : ParameterRegistry) : DeviceProfile :=
  ⟨"ezzone", registry, .stdbus, .ezzone, none, none, by decide⟩

def seriesSdProfile (registry : ParameterRegistry) : DeviceProfile :=
  ⟨"series_sd", registry, .modbusRtu, .seriesSd, some .fahrenheit, none, by decide⟩

def f4pProfile (registry : ParameterRegistry) : DeviceProfile :=
  ⟨"f4p", registry, .modbusRtu, .f4p, none, some [9600, 19200], by decide⟩

section Controllers

variable {σ : Type} (lib : AnyModbus) (wire : Wire σ)

structure Controller (σ : Type) where
  session : Session
  wireTemperatureUnit : Option TemperatureUnit
  line : σ

def Controller.after (c : Controller σ) (st : Session × σ) : Controller σ :=
  { c with session := st.1, line := st.2 }

/-- `Session.bind_registry` and `Session.set_wire_temperature_unit` -/
def Controller.notice (c : Controller σ) : Notice → Controller σ
  | .bindRegistry registry => { c with session := { c.session with registry := registry } }
  | .setWireTemperatureUnit unit => { c with wireTemperatureUnit := some unit }

def controllerHandler : Handler IdentityRead (Result ParameterEntry) Notice (Controller σ) where
  ask q c :=
    ((readParameterAt lib wire q.target (c.session, c.line)).1,
      c.after (readParameterAt lib wire q.target (c.session, c.line)).2)
  tell n c := c.notice n

def identify (profile : DeviceProfile) (strict queryConfiguredProtocol : Bool)
    (c : Controller σ) : Result DeviceInfo × Controller σ :=
  run (controllerHandler lib wire) (profile.strategy c.session strict queryConfiguredProtocol) c

def identityAnswers (profile : DeviceProfile) (strict queryConfiguredProtocol : Bool)
    (c : Controller σ) : List (IdentityRead × Result ParameterEntry) :=
  transcript (controllerHandler lib wire)
    (profile.strategy c.session strict queryConfiguredProtocol) c

end Controllers

end IdentityStrategies
