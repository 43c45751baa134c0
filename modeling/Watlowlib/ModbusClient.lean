import Watlowlib.ModbusOps

/-! # The Modbus client

One transaction on one slave, and the mapping of the Modbus library's exceptions to typed errors.
The library is a parameter: of an exception only its text and the imported classes it is an
instance of are known. -/
namespace ModbusClient

open ExceptRules ModbusOps PythonValues WatlowErrors

inductive ModbusClass where
  | acknowledge
  | busClosed
  | configuration
  | connectionLost
  | crc
  | frame
  | frameTimeout
  | gatewayPathUnavailable
  | gatewayTargetFailed
  | illegalDataAddress
  | illegalDataValue
  | illegalFunction
  | memoryParity
  | modbus
  | unknownException
  | unsupportedFunction
  | slaveDeviceBusy
  | slaveDeviceFailure
  | unexpectedResponse
  deriving DecidableEq, Repr

/-- The classes whose exceptions say that the device lacks the function or the register. -/
def ModbusClass.Refuses (c : ModbusClass) : Prop :=
  c = .illegalFunction ∨ c = .unsupportedFunction ∨ c = .illegalDataAddress

instance (c : ModbusClass) : Decidable c.Refuses :=
  inferInstanceAs (Decidable (c = .illegalFunction ∨ c = .unsupportedFunction ∨
    c = .illegalDataAddress))

/-- An `Exception` that is not one of this library's. It may be an instance of the built-in
`TimeoutError`, but an answer of the device that refuses the request is not. -/
structure UpstreamError where
  text : Message
  classes : List ModbusClass
  builtinTimeout : Bool
  answered : builtinTimeout = true → ∀ c ∈ classes, ¬ c.Refuses
  deriving DecidableEq

def UpstreamError.IsInstance (exc : UpstreamError) (c : ModbusClass) : Prop := c ∈ exc.classes

instance (exc : UpstreamError) (c : ModbusClass) : Decidable (exc.IsInstance c) :=
  inferInstanceAs (Decidable (c ∈ exc.classes))

def UpstreamError.IsAny (exc : UpstreamError) (cs : List ModbusClass) : Prop :=
  ∃ c ∈ cs, exc.IsInstance c

instance (exc : UpstreamError) (cs : List ModbusClass) : Decidable (exc.IsAny cs) :=
  inferInstanceAs (Decidable (∃ c ∈ cs, exc.IsInstance c))

def slaveFailures : List ModbusClass :=
  [.slaveDeviceFailure, .slaveDeviceBusy, .acknowledge, .gatewayPathUnavailable,
    .gatewayTargetFailed, .memoryParity]

/-- The class that `remap_modbus_exception` raises: the first test that holds decides. -/
def remapKind (exc : UpstreamError) : ErrorKind :=
  if exc.IsInstance .illegalFunction then .modbusIllegalFunction
  else if exc.IsInstance .unsupportedFunction then .modbusIllegalFunction
  else if exc.IsInstance .illegalDataAddress then .modbusIllegalDataAddress
  else if exc.IsInstance .illegalDataValue then .modbusIllegalDataValue
  else if exc.IsAny slaveFailures then .modbusSlaveFailure
  else if exc.IsInstance .frameTimeout then .modbusTimeout
  else if exc.IsAny [.busClosed, .connectionLost] then .connection
  else if exc.IsAny [.crc, .frame] then .frame
  else if exc.IsInstance .configuration then .configuration
  else if exc.IsInstance .unexpectedResponse then .protocol
  else if exc.IsAny [.unknownException, .modbus] then .modbus
  else .protocol

def remapModbusException (exc : UpstreamError) (context : ErrorContext) : PyError :=
  ⟨remapKind exc, exc.text, context⟩

/-- What may come out of the slave provider or of a slave's method: a typed error of this
library, the expiry of the enclosing `fail_after`, an exception from below, or a cancellation. -/
inductive Fault where
  | watlow (e : PyError) (typed : e.IsWatlow)
  | expired
  | upstream (exc : UpstreamError)
  | cancelled

/-- The methods of a live slave that the client calls. -/
structure Slave where
  readHoldingRegisters : ℤ → ℕ → Except Fault Words
  readInputRegisters : ℤ → ℕ → Except Fault Words
  writeRegister : ℤ → UInt16 → Except Fault PUnit
  writeRegisters : ℤ → Words → Except Fault PUnit

structure ModbusProtocolClient where
  disposed : Bool
  port : String
  slaveProvider : ℤ → Except Fault Slave

def ioTimeout : PyFloat := .finite 1

def functionCode : ModbusFn → ℤ
  | .readHolding => 0x03
  | .readInput => 0x04
  | .writeRegister => 0x06
  | .writeRegisters => 0x10

def callContext (client : ModbusProtocolClient) (commandName : String) (op : ModbusOp)
    (address : ℤ) : ErrorContext :=
  { commandName := textOrNone commandName
    protocol := some .modbusRtu
    port := textOrNone client.port
    address := some address
    registerAddress := some op.address
    functionCode := some (functionCode op.fn) }

/-- `_dispatch`. A write returns no words. -/
def dispatch (slave : Slave) (op : ModbusOp) : Except Fault Words :=
  match op.fn with
  | .readHolding => slave.readHoldingRegisters op.address op.count
  | .readInput => slave.readInputRegisters op.address op.count
  | .writeRegister => do
    slave.writeRegister op.address ((op.values.getD []).headD 0)
    .ok []
  | .writeRegisters => do
    slave.writeRegisters op.address (op.values.getD [])
    .ok []

def providerError (context : ErrorContext) : Fault → PyError
  | .watlow e _ => e
  | .expired => ⟨.protocol, [], context⟩
  | .upstream exc => remapModbusException exc context
  | .cancelled => ⟨.cancelled, [], {}⟩

def timedOut (op : ModbusOp) (address : ℤ) (bound : PyFloat) (context : ErrorContext) : PyError :=
  ⟨.timeout, [.text "Modbus ", .text op.fn.value, .text " on addr=", .int address,
    .text " timed out after ", .float bound, .text "s"], context⟩

/-- The handlers around the dispatch. A built-in timeout is caught before the mapping. -/
def dispatchError (op : ModbusOp) (address : ℤ) (bound : PyFloat) (context : ErrorContext) :
    Fault → PyError
  | .watlow e _ => e
  | .expired => timedOut op address bound context
  | .upstream exc =>
    if exc.builtinTimeout = true then timedOut op address bound context
    else remapModbusException exc context
  | .cancelled => ⟨.cancelled, [], {}⟩

def execute (client : ModbusProtocolClient) (op : ModbusOp) (address : ℤ)
    (timeout : Option PyFloat) (commandName : String) : Result Words :=
  let context := callContext client commandName op address
  if address < 1 ∨ 247 < address then
    .error (formatted .configuration
      [.text "Modbus address ", .int address, .text " out of range (1..247)"] context)
  else if client.disposed then
    raise .connection [.text "ModbusProtocolClient is disposed"] context
  else
    match client.slaveProvider address with
    | .error fault => .error (providerError context fault)
    | .ok slave =>
      match dispatch slave op with
      | .error fault =>
        .error (dispatchError op address (timeout.getD ioTimeout) context fault)
      | .ok words => .ok words

/-- The fault that a call runs into, below the checks of the client's own. -/
def faultOf (client : ModbusProtocolClient) (op : ModbusOp) (address : ℤ) : Option Fault :=
  if address < 1 ∨ 247 < address ∨ client.disposed = true then none
  else
    match client.slaveProvider address with
    | .error fault => some fault
    | .ok slave =>
      match dispatch slave op with
      | .error fault => some fault
      | .ok _ => none

def remappedKinds : List ErrorKind :=
  [.modbusIllegalFunction, .modbusIllegalDataAddress, .modbusIllegalDataValue, .modbusSlaveFailure,
    .modbusTimeout, .connection, .frame, .configuration, .protocol, .modbus]

theorem remapKind_mem (exc : UpstreamError) : remapKind exc ∈ remappedKinds := by
  simp only [remapKind]
  repeat' refine iteInduction (fun _ => ?_) fun _ => ?_
  all_goals decide

theorem remapKind_unsupported_iff (exc : UpstreamError) :
    (remapKind exc).IsInstance .protocolUnsupported ↔ ∃ c ∈ exc.classes, c.Refuses := by
  have hrefuses : (∃ c ∈ exc.classes, c.Refuses) ↔ exc.IsInstance .illegalFunction ∨
      exc.IsInstance .unsupportedFunction ∨ exc.IsInstance .illegalDataAddress := by
    constructor
    · rintro ⟨c, hc, rfl | rfl | rfl⟩
      · exact Or.inl hc
      · exact Or.inr (Or.inl hc)
      · exact Or.inr (Or.inr hc)
    · rintro (h | h | h)
      · exact ⟨_, h, Or.inl rfl⟩
      · exact ⟨_, h, Or.inr (Or.inl rfl)⟩
      · exact ⟨_, h, Or.inr (Or.inr rfl)⟩
  rw [hrefuses]
  simp only [remapKind]
  by_cases h1 : exc.IsInstance .illegalFunction
  · simp only [h1, if_true, true_or, iff_true]
    decide
  by_cases h2 : exc.IsInstance .unsupportedFunction
  · simp only [h1, h2, if_false, if_true, false_or, true_or, iff_true]
    decide
  by_cases h3 : exc.IsInstance .illegalDataAddress
  · simp only [h1, h2, h3, if_false, if_true, false_or, iff_true]
    decide
  simp only [h1, h2, h3, if_false, false_or, iff_false]
  split_ifs <;> decide

end ModbusClient
