import Watlowlib.PythonNumbers

/-! # Tagged values of the attribute service

The wire data types and the codec of one tagged value: a tag byte, a length byte for the two
length-prefixed types, and the data. -/
namespace StdBusTlv

open ExceptRules PythonNumbers PythonValues WatlowErrors

/-- `s16` is a registry type only: it has no Standard Bus tag. -/
inductive DataType where
  | u8
  | u16
  | u32
  | s32
  | float
  | string
  | packed
  | s16
  deriving DecidableEq, Repr

namespace DataType

def tag : DataType → UInt8
  | .u8 => 0x01
  | .u16 => 0x03
  | .u32 => 0x05
  | .s32 => 0x06
  | .float => 0x08
  | .string => 0x09
  | .packed => 0x0F
  | .s16 => 0x86

def name : DataType → String
  | .u8 => "U8"
  | .u16 => "U16"
  | .u32 => "U32"
  | .s32 => "S32"
  | .float => "FLOAT"
  | .string => "STRING"
  | .packed => "PACKED"
  | .s16 => "S16"

end DataType

/-- A range-checked integer behind its tag; the message prints the value as it was given. -/
def encodeIntegral (head : Bytes) (lo hi : ℤ) (width : ℕ) (label : String) (n : PyNum) :
    Result Bytes := do
  let i ← toInt n
  if lo ≤ i ∧ i ≤ hi then .ok (head ++ packInt width i)
  else .error (formatted .valueError [.text label, .text " value out of range: ", .value (.num n)])

def encodeString (s : String) : Result Bytes := do
  let b ← encodeAscii s
  if 0xFF < b.length then raise .valueError [.text "string too long: ", .int b.length]
  else .ok ([DataType.string.tag, UInt8.ofNat b.length] ++ b)

def encodeFloat (n : PyNum) : Result Bytes := do
  let x ← toFloat n
  let b ← packFloat x
  .ok (DataType.float.tag :: b)

def encodeNumber : DataType → PyNum → Result Bytes
  | .float, n => encodeFloat n
  | .u8, n => encodeIntegral [DataType.u8.tag] 0 0xFF 1 "u8" n
  | .u16, n => encodeIntegral [DataType.u16.tag] 0 0xFFFF 2 "u16" n
  | .u32, n => encodeIntegral [DataType.u32.tag] 0 0xFFFFFFFF 4 "u32" n
  | .s32, n => encodeIntegral [DataType.s32.tag] (-2 ^ 31) (2 ^ 31 - 1) 4 "s32" n
  | .packed, n => encodeIntegral [DataType.packed.tag, 0x01] 0 0xFFFF 2 "packed-int(1)" n
  | type, _ =>
    raise .valueError [.text "unsupported type tag for encode: 0x", .hex 2 type.tag.toNat]

def encodeValue (typeTag : DataType) (value : PyValue) : Result Bytes :=
  match typeTag, value with
  | .string, .str s => encodeString s
  | .string, .num n =>
    raise .typeError [.text "STRING type tag requires str or bytes, got ",
      .text (PyValue.num n).typeName]
  | type, .str s =>
    raise .typeError [.text "type tag 0x", .hex 2 type.tag.toNat,
      .text " requires a numeric value, got ", .text (PyValue.str s).typeName]
  | type, .num n => encodeNumber type n

structure Decoded where
  value : PyValue
  typeTag : UInt8
  consumed : ℕ
  deriving DecidableEq, Repr

/-- `struct.unpack` of a signed integer of `width` bytes. -/
def unpackSigned (width : ℕ) (bs : Bytes) : ℤ :=
  let n := fromBigEndian bs
  if 2 * n < 256 ^ width then n else n - 256 ^ width

def decodeFixed (tag : UInt8) (width : ℕ) (label : String) (read : Bytes → PyValue)
    (data : Bytes) : Result Decoded :=
  if data.length < width then
    raise .valueError [.text "truncated ", .text label, .text " value"]
  else .ok ⟨read (data.take width), tag, 1 + width⟩

/-- A length byte and `unit` bytes for each count; the wide packed form reads as one integer. -/
def decodePrefixed (tag : UInt8) (unit : ℕ) (label : String) (read : Bytes → PyValue)
    (data : Bytes) : Result Decoded :=
  match data with
  | [] => raise .valueError [.text "truncated ", .text label, .text " header"]
  | n :: rest =>
    if rest.length < unit * n.toNat then
      raise .valueError [.text "truncated ", .text label, .text " body"]
    else .ok ⟨read (rest.take (unit * n.toNat)), tag, 2 + unit * n.toNat⟩

def readUnsigned (bs : Bytes) : PyValue := .num (.int (fromBigEndian bs))

def decodeValue (buf : Bytes) : Result Decoded :=
  match buf with
  | [] => raise .valueError [.text "empty value buffer"]
  | tag :: data =>
    if tag = DataType.u8.tag then decodeFixed tag 1 "u8" readUnsigned data
    else if tag = DataType.u16.tag then decodeFixed tag 2 "u16" readUnsigned data
    else if tag = DataType.u32.tag then decodeFixed tag 4 "u32" readUnsigned data
    else if tag = DataType.s32.tag then
      decodeFixed tag 4 "s32" (fun bs => .num (.int (unpackSigned 4 bs))) data
    else if tag = DataType.float.tag then
      decodeFixed tag 4 "float" (fun bs => .num (.float (unpackFloat bs))) data
    else if tag = DataType.string.tag then
      decodePrefixed tag 1 "string" (fun bs => .str (decodeAsciiReplace bs)) data
    else if tag = DataType.packed.tag then decodePrefixed tag 2 "packed-int" readUnsigned data
    else
      raise .valueError [.text "unknown type tag: 0x", .hex 2 tag.toNat, .text " (rest: ",
        .bytesHex (buf.take 8), .text ")"]

theorem decodeValue_error_kind {buf : Bytes} {e : PyError} (h : decodeValue buf = .error e) :
    e.kind = .valueError := by
  have hfixed : ∀ tag width label read data,
      decodeFixed tag width label read data = .error e → e.kind = .valueError := by
    intro tag width label read data h
    simp only [decodeFixed, raise] at h
    split at h
    · cases h; rfl
    · cases h
  have hprefixed : ∀ tag unit label read data,
      decodePrefixed tag unit label read data = .error e → e.kind = .valueError := by
    intro tag unit label read data h
    simp only [decodePrefixed, raise] at h
    split at h
    · cases h; rfl
    · split at h
      · cases h; rfl
      · cases h
  simp only [decodeValue] at h
  split at h
  · cases h; rfl
  · split_ifs at h
    · exact hfixed _ _ _ _ _ h
    · exact hfixed _ _ _ _ _ h
    · exact hfixed _ _ _ _ _ h
    · exact hfixed _ _ _ _ _ h
    · exact hfixed _ _ _ _ _ h
    · exact hprefixed _ _ _ _ _ h
    · exact hprefixed _ _ _ _ _ h
    · cases h; rfl

end StdBusTlv
