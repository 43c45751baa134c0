import Watlowlib.ModbusOps
import Watlowlib.PythonNumbers
import Watlowlib.StdBusTlv

/-! # Modbus register words

How a data type lies in registers, and the conversion of values to and from register words. The
register types of the Modbus library are a parameter: its codec is not part of this repository. -/
namespace ModbusCodec

open ExceptRules ModbusOps PythonNumbers PythonValues StdBusTlv WatlowErrors

inductive WordOrder where
  | highLow
  | lowHigh
  deriving DecidableEq, Repr

inductive ByteOrder where
  | big
  | little
  deriving DecidableEq, Repr

inductive RegisterType where
  | float32
  | int32
  | uint32
  | uint16
  | int16
  | string
  deriving DecidableEq, Repr

/-- The registers a value takes; a text takes as many as it is told to. -/
def RegisterType.wordCount : RegisterType → Option ℕ → Option ℕ
  | .float32, _ => some 2
  | .int32, _ => some 2
  | .uint32, _ => some 2
  | .uint16, _ => some 1
  | .int16, _ => some 1
  | .string, count => count

/-- The Modbus library: its word-order labels and its register codec, which fills the registers
that the type takes. -/
structure AnyModbus where
  wordOrder : String → Option WordOrder
  encode : RegisterType → PyValue → Option ℕ → WordOrder → ByteOrder → Result Words
  decode : RegisterType → Words → WordOrder → ByteOrder → Result PyValue
  encode_length : ∀ type value count wordOrder byteOrder words,
    encode type value count wordOrder byteOrder = .ok words →
    ∀ n ∈ type.wordCount count, words.length = n

def wordModbus : AnyModbus where
  wordOrder label :=
    if label = "high_low" then some .highLow else if label = "low_high" then some .lowHigh else none
  encode type value _ _ _ :=
    match type, value with
    | .uint16, .num (.int i) =>
      if 0 ≤ i ∧ i ≤ 0xFFFF then .ok [UInt16.ofNat i.toNat]
      else raise .valueError [.text "value out of range: ", .int i]
    | _, _ => raise .valueError [.text "unsupported register type"]
  decode type words _ _ :=
    match type, words with
    | .uint16, [w] => .ok (.num (.int w.toNat))
    | _, _ => raise .valueError [.text "unsupported register type"]
  encode_length := by
    intro type value count _ _ words h n hn
    split at h
    · split at h
      · cases h
        cases hn
        rfl
      · cases h
    · cases h

structure ModbusEncoding where
  registerCount : ℕ
  wordOrder : WordOrder
  byteOrder : ByteOrder
  readFn : ModbusFn
  deriving DecidableEq, Repr

def defaultCount : DataType → ℕ
  | .float => 2
  | .s32 => 2
  | .u32 => 2
  | .u16 => 1
  | .s16 => 1
  | .u8 => 1
  | .packed => 1
  | .string => 8

def defaultEncoding (dataType : DataType) : ModbusEncoding :=
  ⟨defaultCount dataType, .highLow, .big, .readHolding⟩

variable (lib : AnyModbus)

def coerceWordOrder : Option String → Result (Option WordOrder)
  | none => .ok none
  | some label =>
    match lib.wordOrder label with
    | some order => .ok (some order)
    | none =>
      raise .protocolUnsupported [.text "unknown word_order label: ", .strRepr label]

/-- `encoding_for`; a register count of zero counts as no override. -/
def encodingFor (dataType : DataType) (wordOrder : Option String) (registerCount : ℕ) :
    Result ModbusEncoding := do
  let base := defaultEncoding dataType
  let order ← coerceWordOrder lib wordOrder
  .ok { base with
    registerCount := if registerCount = 0 then base.registerCount else registerCount
    wordOrder := order.getD base.wordOrder }

def codecContext : ErrorContext := { protocol := some .modbusRtu }

def registerType : DataType → Option (RegisterType × ℕ)
  | .float => some (.float32, 2)
  | .s32 => some (.int32, 2)
  | .u32 => some (.uint32, 2)
  | .u16 => some (.uint16, 1)
  | .s16 => some (.int16, 1)
  | .packed => some (.uint16, 1)
  | .u8 => none
  | .string => none

def checkWords (words : Words) (expected : ℕ) (typeName : String) : Result PUnit :=
  require (words.length = expected)
    ⟨.protocol, [.text typeName, .text " expects ", .int expected,
      .text (if expected ≠ 1 then " registers, got " else " register, got "), .int words.length],
      codecContext⟩

/-- `decode_words`. A text that is not ASCII is a typed error here. -/
def decodeWords (words : Words) (dataType : DataType) (encoding : ModbusEncoding) :
    Result PyValue :=
  if dataType = .u8 then do
    checkWords words 1 "U8"
    .ok (.num (.int ((words.headD 0).toNat % 256)))
  else if dataType = .string then
    match lib.decode .string words encoding.wordOrder encoding.byteOrder with
    | .ok v => .ok v
    | .error e =>
      if e.kind = .unicodeDecodeError then
        raise .protocol (.text "STRING decode failed: " :: e.str) codecContext
      else .error e
  else
    match registerType dataType with
    | none =>
      raise .protocol [.text "data type ", .text dataType.name,
        .text " has no Modbus decode rule"] codecContext
    | some (type, expected) => do
      checkWords words expected dataType.name
      lib.decode type words encoding.wordOrder encoding.byteOrder

/-- The low bits that a masked register keeps: `int(value) & mask`. -/
def maskedWord (bits : ℕ) (n : PyNum) : Result Words := do
  let i ← toInt n
  .ok [UInt16.ofNat (i % 2 ^ bits).toNat]

def encodeStringWords (s : String) (encoding : ModbusEncoding) : Result Words := do
  let raw ← encodeAscii s
  if encoding.registerCount * 2 < raw.length then
    raise .protocol [.text "STRING value of ", .int raw.length,
      .text " bytes exceeds register capacity ", .int (encoding.registerCount * 2)] codecContext
  else
    lib.encode .string (.str s) (some encoding.registerCount) encoding.wordOrder encoding.byteOrder

/-- The numeric branches of `encode_value_to_words`: `U8`, `U16` and `PACKED` keep the low bits,
the others leave the range check to the library. -/
def encodeNumberWords (dataType : DataType) (n : PyNum) (encoding : ModbusEncoding) :
    Result Words :=
  match dataType with
  | .u8 => maskedWord 8 n
  | .u16 => maskedWord 16 n
  | .packed => maskedWord 16 n
  | .float => do
    let x ← toFloat n
    lib.encode .float32 (.num (.float x)) none encoding.wordOrder encoding.byteOrder
  | .s32 => do
    let i ← toInt n
    lib.encode .int32 (.num (.int i)) none encoding.wordOrder encoding.byteOrder
  | .u32 => do
    let i ← toInt n
    lib.encode .uint32 (.num (.int i)) none encoding.wordOrder encoding.byteOrder
  | .s16 => do
    let i ← toInt n
    lib.encode .int16 (.num (.int i)) none encoding.wordOrder encoding.byteOrder
  | .string =>
    raise .protocol [.text "STRING requires str or bytes, got ", .text (PyValue.num n).typeName]
      codecContext

def encodeValueToWords (value : PyValue) (dataType : DataType) (encoding : ModbusEncoding) :
    Result Words :=
  match value with
  | .num n => encodeNumberWords lib dataType n encoding
  | .str s =>
    if dataType = .string then encodeStringWords lib s encoding
    else
      raise .protocol [.text dataType.name, .text " requires a numeric value, got ",
        .text (PyValue.str s).typeName] codecContext

theorem encodingFor_ok {dataType : DataType} {wordOrder : Option String} {registerCount : ℕ}
    {encoding : ModbusEncoding}
    (h : encodingFor lib dataType wordOrder registerCount = .ok encoding) :
    encoding.registerCount =
        (if registerCount = 0 then defaultCount dataType else registerCount) ∧
      encoding.readFn = .readHolding := by
  obtain ⟨order, -, h⟩ := bind_ok_iff.mp h
  cases h
  exact ⟨rfl, rfl⟩

end ModbusCodec
