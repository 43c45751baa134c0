import Watlowlib.ExceptRules
import Watlowlib.PythonValues

/-! # The exception hierarchy

Every class of the library with its bases, the built-in classes that the modelled code can let
through, and the structured context an error carries. -/
namespace WatlowErrors

open ExceptRules PythonValues

inductive ProtocolKind where
  | auto
  | stdbus
  | modbusRtu
  deriving DecidableEq, Repr

/-- The class of a raised exception. `frameFault` is the `FrameError(ValueError)` of the framing
module, `timeoutError` the built-in `TimeoutError` that an expired `fail_after` raises, and
`cancelled` a cancellation that passes through the code. -/
inductive ErrorKind where
  | watlowError
  | configuration
  | confirmationRequired
  | validation
  | transport
  | timeout
  | connection
  | protocol
  | frame
  | protocolUnsupported
  | noSuchObject
  | noSuchAttribute
  | noSuchInstance
  | modbus
  | modbusIllegalFunction
  | modbusIllegalDataAddress
  | modbusIllegalDataValue
  | modbusSlaveFailure
  | modbusTimeout
  | valueError
  | typeError
  | overflowError
  | unicodeEncodeError
  | unicodeDecodeError
  | zeroDivisionError
  | keyError
  | attributeError
  | frameFault
  | timeoutError
  | cancelled
  deriving DecidableEq, Repr

def ErrorKind.mro : ErrorKind → List ErrorKind
  | .watlowError => [.watlowError]
  | .configuration => [.configuration, .watlowError]
  | .confirmationRequired => [.confirmationRequired, .configuration, .watlowError]
  | .validation => [.validation, .configuration, .watlowError]
  | .transport => [.transport, .watlowError]
  | .timeout => [.timeout, .transport, .watlowError]
  | .connection => [.connection, .transport, .watlowError]
  | .protocol => [.protocol, .watlowError]
  | .frame => [.frame, .protocol, .watlowError]
  | .protocolUnsupported => [.protocolUnsupported, .protocol, .watlowError]
  | .noSuchObject => [.noSuchObject, .protocol, .watlowError]
  | .noSuchAttribute => [.noSuchAttribute, .protocol, .watlowError]
  | .noSuchInstance => [.noSuchInstance, .protocol, .watlowError]
  | .modbus => [.modbus, .protocol, .watlowError]
  | .modbusIllegalFunction =>
    [.modbusIllegalFunction, .modbus, .protocolUnsupported, .protocol, .watlowError]
  | .modbusIllegalDataAddress =>
    [.modbusIllegalDataAddress, .modbus, .protocolUnsupported, .protocol, .watlowError]
  | .modbusIllegalDataValue => [.modbusIllegalDataValue, .modbus, .protocol, .watlowError]
  | .modbusSlaveFailure => [.modbusSlaveFailure, .modbus, .protocol, .watlowError]
  | .modbusTimeout => [.modbusTimeout, .modbus, .protocol, .timeout, .transport, .watlowError]
  | .valueError => [.valueError]
  | .typeError => [.typeError]
  | .overflowError => [.overflowError]
  | .unicodeEncodeError => [.unicodeEncodeError, .valueError]
  | .unicodeDecodeError => [.unicodeDecodeError, .valueError]
  | .zeroDivisionError => [.zeroDivisionError]
  | .keyError => [.keyError]
  | .attributeError => [.attributeError]
  | .frameFault => [.frameFault, .valueError]
  | .timeoutError => [.timeoutError]
  | .cancelled => [.cancelled]

def ErrorKind.IsInstance (kind cls : ErrorKind) : Prop := cls ∈ kind.mro

instance (kind cls : ErrorKind) : Decidable (kind.IsInstance cls) :=
  inferInstanceAs (Decidable (cls ∈ kind.mro))

theorem self_mem_mro (kind : ErrorKind) : kind.IsInstance kind := by cases kind <;> decide

theorem isInstance_trans {a b c : ErrorKind} (hab : a.IsInstance b) (hbc : b.IsInstance c) :
    a.IsInstance c := by
  have h : ∀ c ∈ b.mro, c ∈ a.mro := by
    unfold ErrorKind.IsInstance at hab
    cases a <;> simp only [ErrorKind.mro, List.mem_cons, List.not_mem_nil, or_false] at hab <;>
      rcases hab with rfl | rfl | rfl | rfl | rfl | rfl <;> decide
  exact h c hbc

/-- `isinstance(exc, WatlowError)`: a typed error of the library. -/
def ErrorKind.IsWatlow (kind : ErrorKind) : Prop := kind.IsInstance .watlowError

instance (kind : ErrorKind) : Decidable kind.IsWatlow :=
  inferInstanceAs (Decidable (kind.IsInstance .watlowError))

/-- The fields of `ErrorContext` that the modelled code fills. -/
structure ErrorContext where
  commandName : Option String := none
  protocol : Option ProtocolKind := none
  port : Option String := none
  address : Option ℤ := none
  parameterId : Option ℤ := none
  cls : Option ℤ := none
  member : Option ℤ := none
  instanceNo : Option ℤ := none
  registerAddress : Option ℤ := none
  functionCode : Option ℤ := none
  request : Option Bytes := none
  response : Option Bytes := none
  deriving DecidableEq, Repr

structure PyError where
  kind : ErrorKind
  message : Message
  context : ErrorContext := {}
  deriving DecidableEq, Repr

def PyError.IsWatlow (e : PyError) : Prop := e.kind.IsWatlow

instance (e : PyError) : Decidable e.IsWatlow := inferInstanceAs (Decidable e.kind.IsWatlow)

abbrev Result (α : Type) := Except PyError α

def raise {α : Type} (kind : ErrorKind) (message : Message) (context : ErrorContext := {}) :
    Result α :=
  .error ⟨kind, message, context⟩

/-- What `str` raises of an integer with too many digits. -/
def unwritable : PyError :=
  ⟨.valueError, [.text "Exceeds the limit (4300 digits) for integer string conversion; ",
    .text "use sys.set_int_max_str_digits() to increase the limit"], {}⟩

/-- The error of a message with integers of the caller's: making the text can fail first. -/
def formatted (kind : ErrorKind) (message : Message) (context : ErrorContext := {}) : PyError :=
  if message.Writes then ⟨kind, message, context⟩ else unwritable

theorem formatted_of_writes {kind : ErrorKind} {message : Message} {context : ErrorContext}
    (h : message.Writes) : formatted kind message context = ⟨kind, message, context⟩ := if_pos h

theorem formatted_kind (kind : ErrorKind) (message : Message) (context : ErrorContext) :
    (formatted kind message context).kind = if message.Writes then kind else .valueError := by
  rw [formatted]
  split
  · rfl
  · rfl

def Bare {α : Type} (x : Result α) : Prop := ∀ e, x = .error e → ¬ e.IsWatlow

section Rules

variable {α β : Type} {x : Result α} {f : α → Result β}

theorem bare_ok (a : α) : Bare (.ok a : Result α) := by
  intro e h
  cases h

theorem bare_error_iff {e : PyError} : Bare (.error e : Result α) ↔ ¬ e.IsWatlow := by
  simp [Bare]

theorem bare_raise {kind : ErrorKind} {message : Message} {context : ErrorContext}
    (h : ¬ kind.IsWatlow) : Bare (raise kind message context : Result α) :=
  bare_error_iff.mpr h

theorem Bare.bind (hx : Bare x) (hf : ∀ a, x = .ok a → Bare (f a)) : Bare (x >>= f) := by
  intro e h
  rcases bind_error_iff.mp h with h | ⟨a, ha, h⟩
  · exact hx e h
  · exact hf a ha e h

end Rules

def textOrNone (s : String) : Option String := if s = "" then none else some s

def numberOrNone (i : ℤ) : Option ℤ := if i = 0 then none else some i

def protocolName : ProtocolKind → String
  | .auto => "AUTO"
  | .stdbus => "STDBUS"
  | .modbusRtu => "MODBUS_RTU"

def protocolValue : ProtocolKind → String
  | .auto => "auto"
  | .stdbus => "stdbus"
  | .modbusRtu => "modbus_rtu"

def contextBits (c : ErrorContext) : List Message :=
  [c.commandName.map fun s => [.text "command=", .text s],
   c.protocol.map fun k => [.text "protocol=", .text (protocolName k)],
   c.port.map fun s => [.text "port=", .text s],
   c.address.map fun i => [.text "address=", .int i],
   c.cls.map fun i => [.text "cls=", .hex 2 i],
   c.member.map fun i => [.text "member=", .hex 2 i],
   c.instanceNo.map fun i => [.text "instance=", .int i],
   c.registerAddress.map fun i => [.text "register=", .hex 4 i],
   c.functionCode.map fun i => [.text "function=", .hex 2 i],
   c.parameterId.map fun i => [.text "parameter_id=", .int i],
   c.request.map fun b => [.text "request=", .bytesRepr b],
   c.response.map fun b => [.text "response=", .bytesRepr b]].reduceOption

/-- `str(exc)`: the message and the context in brackets behind it. A built-in error has no
context. -/
def PyError.str (e : PyError) : Message :=
  match contextBits e.context with
  | [] => e.message
  | bits => e.message ++ [.text " ["] ++ [Piece.text ", "].intercalate bits ++ [.text "]"]

end WatlowErrors
