import Watlowlib.ModbusCodec
import Watlowlib.Registry
import Watlowlib.StdBusClient

/-! # Reading and writing a parameter

The two registry-driven commands with their variant for each protocol. An encoder resolves the
request; the Standard Bus decoder resolves the selector that the reply carries. -/
namespace ParameterCommands

open ExceptRules ModbusCodec ModbusOps PythonNumbers PythonValues Registry StdBusClient
  StdBusPayload StdBusTlv WatlowErrors

structure ReadParameterRequest where
  nameOrId : Ident
  instanceNo : ℤ
  deriving DecidableEq, Repr

structure WriteParameterRequest where
  nameOrId : Ident
  value : PyValue
  instanceNo : ℤ
  deriving DecidableEq, Repr

structure CommandContext where
  registry : ParameterRegistry
  address : ℤ
  port : String

structure ParameterEntry where
  spec : ParameterSpec
  instanceNo : ℤ
  value : PyValue
  raw : Bytes
  deriving DecidableEq, Repr

structure StdBusVariant (Req Resp : Type) where
  encode : CommandContext → Req → Result Bytes
  decode : StdBusReply → CommandContext → Result Resp

structure ModbusVariant (Req Resp : Type) where
  encode : CommandContext → Req → Result ModbusOp
  decode : Words → CommandContext → Req → Result Resp

structure Command (Req Resp : Type) where
  name : String
  stdbus : Option (StdBusVariant Req Resp)
  modbus : Option (ModbusVariant Req Resp)
  safety : SafetyTier

/-- The instance that `_resolve` checks: zero asks for the default one. -/
def checkedInstance (spec : ParameterSpec) (instanceNo : ℤ) : ℤ :=
  if instanceNo = 0 then spec.defaultInstance else instanceNo

/-- `_resolve`. Only the specification is returned; the callers go on with the instance as the
request has it. -/
def resolveRequest (ctx : CommandContext) (target : Ident) (instanceNo : ℤ) :
    Result ParameterSpec := do
  let spec ← ctx.registry.resolve target
  validateInstance spec (checkedInstance spec instanceNo)
  .ok spec

def replyContext (ctx : CommandContext) : ErrorContext :=
  { port := textOrNone ctx.port, address := numberOrNone ctx.address }

def entryFromPayload (spec : ParameterSpec) (a : Attribute) (raw : Bytes) : ParameterEntry :=
  ⟨spec, a.instanceNo.toNat, a.value, raw⟩

def selectorId (a : Attribute) : ℤ := joinParam a.cls.toNat a.member.toNat

def resolveReply (ctx : CommandContext) (prefixText : String) (context : ErrorContext)
    (a : Attribute) : Result ParameterSpec :=
  match ctx.registry.resolve (.id (selectorId a)) with
  | .ok spec => .ok spec
  | .error _ =>
    raise .protocol [.text prefixText, .int (selectorId a)]
      { context with parameterId := some (selectorId a) }

def unexpectedPayload {α : Type} (ctx : CommandContext) (operation : String) (payload : Payload) :
    Result α :=
  raise .protocol [.text "unexpected reply payload for ", .text operation, .text ": ",
    .text payload.typeName] (replyContext ctx)

def readStdBusEncode (ctx : CommandContext) (request : ReadParameterRequest) : Result Bytes := do
  let spec ← resolveRequest ctx request.nameOrId request.instanceNo
  encodeReadRequest spec.parameterId request.instanceNo

def readStdBusDecode (reply : StdBusReply) (ctx : CommandContext) : Result ParameterEntry :=
  match reply.payload with
  | .errorResponse code =>
    raiseForErrorCode code
      { replyContext ctx with commandName := some "<unknown>", instanceNo := some 1 }
  | .readResponse a => do
    let spec ← resolveReply ctx "reply references unknown parameter id "
      { replyContext ctx with
        cls := some a.cls.toNat
        member := some a.member.toNat
        instanceNo := some a.instanceNo.toNat } a
    .ok (entryFromPayload spec a reply.rawFrame)
  | payload => unexpectedPayload ctx "read" payload

def writePayload (spec : ParameterSpec) (request : WriteParameterRequest) : Result Bytes :=
  match spec.dataType, request.value with
  | .string, .num n =>
    raise .validation [.text "parameter ", .strRepr spec.name,
      .text " expects a string value, got ", .text (PyValue.num n).typeName]
  | type, value => encodeWriteRequest spec.parameterId value request.instanceNo type

def writeStdBusEncode (ctx : CommandContext) (request : WriteParameterRequest) : Result Bytes := do
  let spec ← resolveRequest ctx request.nameOrId request.instanceNo
  validateWritable spec
  validateValue spec request.value
  writePayload spec request

def writeStdBusDecode (reply : StdBusReply) (ctx : CommandContext) : Result ParameterEntry :=
  match reply.payload with
  | .errorResponse code => raiseForErrorCode code (replyContext ctx)
  | .writeResponse a => do
    let spec ← resolveReply ctx "write reply references unknown parameter id "
      (replyContext ctx) a
    .ok (entryFromPayload spec a reply.rawFrame)
  | payload => unexpectedPayload ctx "write" payload

def modbusRegisterAddress (spec : ParameterSpec) (instanceNo : ℤ) : Result ℤ :=
  if instanceNo = spec.defaultInstance then .ok spec.relativeAddr
  else
    .error (formatted .protocolUnsupported [.text "Modbus instance ", .int instanceNo,
      .text " is not yet supported for parameter ", .strRepr spec.name,
      .text " (multi-loop Modbus instance arithmetic not implemented)"])

def identText : Ident → String
  | .name s => s
  | .id i => if i = 0 then "" else toString i

def modbusErrorContext (spec : ParameterSpec) (target : Ident) (instanceNo : ℤ)
    (ctx : CommandContext) : ErrorContext :=
  { replyContext ctx with
    commandName := textOrNone (identText target)
    parameterId := some spec.parameterId
    registerAddress := some spec.relativeAddr
    instanceNo := some instanceNo }

variable (lib : AnyModbus)

def specEncoding (spec : ParameterSpec) : Result ModbusEncoding :=
  encodingFor lib spec.dataType spec.wordOrder spec.registerCount

def readModbusEncode (ctx : CommandContext) (request : ReadParameterRequest) :
    Result ModbusOp := do
  let spec ← resolveRequest ctx request.nameOrId request.instanceNo
  let encoding ← specEncoding lib spec
  let register ← modbusRegisterAddress spec request.instanceNo
  ModbusOp.make encoding.readFn register encoding.registerCount none

/-- `value * spec.scale` of a numeric value; the identity at a scale of one. -/
def scaleValue (spec : ParameterSpec) (value : PyValue) : Result PyValue :=
  match value with
  | .num n =>
    if spec.scale = .finite 1 then .ok value
    else do
      let x ← toFloat n
      .ok (.num (.float (multiply x spec.scale)))
  | .str _ => .ok value

def wordBytes (words : Words) : Bytes :=
  words.flatMap fun w : UInt16 => [(w >>> 8).toUInt8, w.toUInt8]

def readModbusDecode (words : Words) (ctx : CommandContext) (request : ReadParameterRequest) :
    Result ParameterEntry := do
  let spec ← resolveRequest ctx request.nameOrId request.instanceNo
  let encoding ← specEncoding lib spec
  match decodeWords lib words spec.dataType encoding with
  | .error e =>
    if e.kind.IsInstance .protocol then
      raise .protocol e.str (modbusErrorContext spec request.nameOrId request.instanceNo ctx)
    else .error e
  | .ok decoded => do
    let value ← scaleValue spec decoded
    .ok ⟨spec, request.instanceNo, value, wordBytes words⟩

/-- `round(value / spec.scale)` of a numeric value; the identity at a scale of one. -/
def wireValue (spec : ParameterSpec) (value : PyValue) : Result PyValue :=
  match value with
  | .num n =>
    if spec.scale = .finite 1 then .ok value
    else do
      let x ← toFloat n
      let y ← divide x spec.scale
      let i ← roundFloat y
      .ok (.num (.int i))
  | .str _ => .ok value

def wireWords (spec : ParameterSpec) (encoding : ModbusEncoding) (value : PyValue) :
    Result Words :=
  match encodeValueToWords lib value spec.dataType encoding with
  | .ok words => .ok words
  | .error e => if e.kind.IsInstance .protocol then raise .validation e.str else .error e

def writeFn (encoding : ModbusEncoding) : ModbusFn :=
  if encoding.registerCount = 1 then .writeRegister else .writeRegisters

def writeModbusEncode (ctx : CommandContext) (request : WriteParameterRequest) :
    Result ModbusOp := do
  let spec ← resolveRequest ctx request.nameOrId request.instanceNo
  validateWritable spec
  validateValue spec request.value
  let encoding ← specEncoding lib spec
  let register ← modbusRegisterAddress spec request.instanceNo
  let value ← wireValue spec request.value
  let words ← wireWords lib spec encoding value
  ModbusOp.make (writeFn encoding) register encoding.registerCount (some words)

/-- `_WriteParameterModbus.decode`: a write has no reply payload, the request is echoed. -/
def writeModbusDecode (_words : Words) (ctx : CommandContext) (request : WriteParameterRequest) :
    Result ParameterEntry := do
  let spec ← resolveRequest ctx request.nameOrId request.instanceNo
  .ok ⟨spec, request.instanceNo, request.value, []⟩

def readParameter : Command ReadParameterRequest ParameterEntry :=
  ⟨"read_parameter", some ⟨readStdBusEncode, readStdBusDecode⟩,
    some ⟨readModbusEncode lib, readModbusDecode lib⟩, .readOnly⟩

def writeParameter : Command WriteParameterRequest ParameterEntry :=
  ⟨"write_parameter", some ⟨writeStdBusEncode, writeStdBusDecode⟩,
    some ⟨writeModbusEncode lib, writeModbusDecode⟩, .persistent⟩

end ParameterCommands
