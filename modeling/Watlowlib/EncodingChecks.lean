import Watlowlib.ParameterCommands

/-! # What the codecs take

For each encoder of a value, the inputs it takes, written over the number conversions only. The
codecs of the Standard Bus refuse with bare exceptions, those of Modbus with both kinds. -/
namespace EncodingChecks

open ExceptRules ModbusCodec ModbusOps ParameterCommands PythonNumbers PythonValues Registry
  StdBusPayload StdBusTlv WatlowErrors

section Conversions

def HasInt (n : PyNum) : Prop := ∃ i, toInt n = .ok i

def IntWithin (lo hi : ℤ) (n : PyNum) : Prop := ∃ i, toInt n = .ok i ∧ lo ≤ i ∧ i ≤ hi

def FitsSingle (x : PyFloat) : Prop :=
  ∀ q, x = .finite q → BinaryFormat.nearest BinaryFormat.binary32 q ≠ none

theorem toFloat_bare (n : PyNum) : Bare (toFloat n) := by
  simp only [toFloat]
  split
  · exact bare_ok _
  · exact bare_ok _
  · split
    · exact bare_ok _
    · exact bare_raise (by decide)

theorem roundFloat_bare (x : PyFloat) : Bare (roundFloat x) := by
  simp only [roundFloat]
  split
  · exact bare_ok _
  · exact bare_ok _
  · exact bare_raise (by decide)
  · exact bare_raise (by decide)

theorem divide_bare (x y : PyFloat) : Bare (divide x y) := by
  cases y with
  | nan => exact bare_ok _
  | negZero => exact bare_raise (by decide)
  | inf n => cases x <;> exact bare_ok _
  | finite q =>
    simp only [divide]
    split
    · exact bare_raise (by decide)
    · split <;> exact bare_ok _

theorem encodeAscii_ok_iff {s : String} {b : Bytes} :
    encodeAscii s = .ok b ↔ isAscii s ∧ b = s.toList.map fun c => UInt8.ofNat c.toNat := by
  simp only [encodeAscii]
  by_cases h : isAscii s
  · simp [h, eq_comm]
  · simp [h, raise]

theorem packFloat_ok_iff {x : PyFloat} : (∃ b, packFloat x = .ok b) ↔ FitsSingle x := by
  cases x with
  | nan => simp [packFloat, FitsSingle]
  | inf m => simp [packFloat, FitsSingle]
  | negZero => simp [packFloat, FitsSingle]
  | finite q =>
    simp only [FitsSingle, PyFloat.finite.injEq, forall_eq', ne_eq,
      ← BinaryFormat.encode_none_iff_nearest_none]
    cases h : BinaryFormat.encode BinaryFormat.binary32 q with
    | none => simp [packFloat, h, raise]
    | some code => simp [packFloat, h]

end Conversions

section StdBus

def Encodable : DataType → PyValue → Prop
  | .string, .str s => isAscii s ∧ s.toList.length ≤ 0xFF
  | .float, .num n => ∃ x, toFloat n = .ok x ∧ FitsSingle x
  | .u8, .num n => IntWithin 0 0xFF n
  | .u16, .num n => IntWithin 0 0xFFFF n
  | .u32, .num n => IntWithin 0 0xFFFFFFFF n
  | .s32, .num n => IntWithin (-2 ^ 31) (2 ^ 31 - 1) n
  | .packed, .num n => IntWithin 0 0xFFFF n
  | _, _ => False

theorem encodeIntegral_ok_iff {head : Bytes} {lo hi : ℤ} {width : ℕ} {label : String}
    {n : PyNum} :
    (∃ b, encodeIntegral head lo hi width label n = .ok b) ↔ IntWithin lo hi n := by
  constructor
  · rintro ⟨b, h⟩
    obtain ⟨i, htrunc, h⟩ := bind_ok_iff.mp h
    by_cases hr : lo ≤ i ∧ i ≤ hi
    · exact ⟨i, htrunc, hr⟩
    · simp [hr] at h
  · rintro ⟨i, htrunc, hr⟩
    exact ⟨head ++ packInt width i, by simp [encodeIntegral, htrunc, hr]⟩

theorem encodeString_ok_iff {s : String} :
    (∃ b, encodeString s = .ok b) ↔ isAscii s ∧ s.toList.length ≤ 0xFF := by
  constructor
  · rintro ⟨b, h⟩
    obtain ⟨raw, hraw, h⟩ := bind_ok_iff.mp h
    obtain ⟨hs, rfl⟩ := encodeAscii_ok_iff.mp hraw
    refine ⟨hs, ?_⟩
    by_contra hc
    simp [Nat.not_le.mp hc, raise] at h
  · rintro ⟨hs, hlen⟩
    refine ⟨_, bind_ok_iff.mpr ⟨_, encodeAscii_ok_iff.mpr ⟨hs, rfl⟩, if_neg ?_⟩⟩
    rw [List.length_map]
    omega

theorem encodeFloat_ok_iff {n : PyNum} :
    (∃ b, encodeFloat n = .ok b) ↔ ∃ x, toFloat n = .ok x ∧ FitsSingle x := by
  constructor
  · rintro ⟨b, h⟩
    obtain ⟨x, hx, h⟩ := bind_ok_iff.mp h
    obtain ⟨p, hp, -⟩ := bind_ok_iff.mp h
    exact ⟨x, hx, packFloat_ok_iff.mp ⟨p, hp⟩⟩
  · rintro ⟨x, hx, hfit⟩
    obtain ⟨p, hp⟩ := packFloat_ok_iff.mpr hfit
    exact ⟨DataType.float.tag :: p, by simp [encodeFloat, hx, hp]⟩

theorem encodeValue_ok_iff {type : DataType} {value : PyValue} :
    (∃ b, encodeValue type value = .ok b) ↔ Encodable type value := by
  cases value with
  | str s =>
    cases type with
    | string => exact encodeString_ok_iff
    | _ => simp [encodeValue, Encodable, raise]
  | num n =>
    cases type with
    | string => simp [encodeValue, Encodable, raise]
    | s16 => simp [encodeValue, encodeNumber, Encodable, raise]
    | float => exact encodeFloat_ok_iff
    | u8 => exact encodeIntegral_ok_iff
    | u16 => exact encodeIntegral_ok_iff
    | u32 => exact encodeIntegral_ok_iff
    | s32 => exact encodeIntegral_ok_iff
    | packed => exact encodeIntegral_ok_iff

theorem encodeWriteRequest_accepts_iff {paramId instanceNo : ℤ} {value : PyValue}
    {type : DataType} :
    (∃ bs, encodeWriteRequest paramId value instanceNo type = .ok bs) ↔
      SelectorFits paramId instanceNo ∧ Encodable type value := by
  rw [← encodeValue_ok_iff]
  constructor
  · rintro ⟨bs, h⟩
    obtain ⟨hfit, tail, htail, -⟩ := encodeWriteRequest_ok_iff.mp h
    exact ⟨hfit, tail, htail⟩
  · rintro ⟨hfit, tail, htail⟩
    exact ⟨_, encodeWriteRequest_ok_iff.mpr ⟨hfit, tail, htail, rfl⟩⟩

end StdBus

section Modbus

variable (lib : AnyModbus)

def Takes (encoding : ModbusEncoding) (type : RegisterType) (value : PyValue)
    (count : Option ℕ) : Prop :=
  ∃ words, lib.encode type value count encoding.wordOrder encoding.byteOrder = .ok words

/-- The numbers that register words are made of, where `takes` is what the library does. -/
def NumberPacks (takes : RegisterType → PyValue → Prop) : DataType → PyNum → Prop
  | .u8, n => HasInt n
  | .u16, n => HasInt n
  | .packed, n => HasInt n
  | .float, n => ∃ x, toFloat n = .ok x ∧ takes .float32 (.num (.float x))
  | .s32, n => ∃ i, toInt n = .ok i ∧ takes .int32 (.num (.int i))
  | .u32, n => ∃ i, toInt n = .ok i ∧ takes .uint32 (.num (.int i))
  | .s16, n => ∃ i, toInt n = .ok i ∧ takes .int16 (.num (.int i))
  | .string, _ => False

def Packs (dataType : DataType) (encoding : ModbusEncoding) : PyValue → Prop
  | .num n => NumberPacks (fun type value => Takes lib encoding type value none) dataType n
  | .str s =>
    dataType = .string ∧ isAscii s ∧ s.toList.length ≤ encoding.registerCount * 2 ∧
      Takes lib encoding .string (.str s) (some encoding.registerCount)

variable {lib}

theorem maskedWord_ok_iff {bits : ℕ} {n : PyNum} {words : Words} :
    maskedWord bits n = .ok words ↔
      ∃ i, toInt n = .ok i ∧ words = [UInt16.ofNat (i % 2 ^ bits).toNat] := by
  constructor
  · intro h
    obtain ⟨i, hi, h⟩ := bind_ok_iff.mp h
    cases h
    exact ⟨i, hi, rfl⟩
  · rintro ⟨i, hi, rfl⟩
    exact bind_ok_iff.mpr ⟨i, hi, rfl⟩

theorem maskedWord_accepts_iff {bits : ℕ} {n : PyNum} :
    (∃ words, maskedWord bits n = .ok words) ↔ HasInt n := by
  constructor
  · rintro ⟨words, h⟩
    obtain ⟨i, hi, -⟩ := maskedWord_ok_iff.mp h
    exact ⟨i, hi⟩
  · rintro ⟨i, hi⟩
    exact ⟨_, maskedWord_ok_iff.mpr ⟨i, hi, rfl⟩⟩

theorem converted_accepts_iff {α β : Type} {x : Result α} {f : α → Result β} :
    (∃ b, (x >>= f) = .ok b) ↔ ∃ a, x = .ok a ∧ ∃ b, f a = .ok b := by
  constructor
  · rintro ⟨b, h⟩
    obtain ⟨a, ha, h⟩ := bind_ok_iff.mp h
    exact ⟨a, ha, b, h⟩
  · rintro ⟨a, ha, b, h⟩
    exact ⟨b, bind_ok_iff.mpr ⟨a, ha, h⟩⟩

theorem encodeValueToWords_ok_iff {value : PyValue} {dataType : DataType}
    {encoding : ModbusEncoding} :
    (∃ words, encodeValueToWords lib value dataType encoding = .ok words) ↔
      Packs lib dataType encoding value := by
  cases value with
  | num n =>
    cases dataType with
    | u8 => exact maskedWord_accepts_iff
    | u16 => exact maskedWord_accepts_iff
    | packed => exact maskedWord_accepts_iff
    | float => exact converted_accepts_iff
    | s32 => exact converted_accepts_iff
    | u32 => exact converted_accepts_iff
    | s16 => exact converted_accepts_iff
    | string => simp [encodeValueToWords, encodeNumberWords, Packs, NumberPacks, raise]
  | str s =>
    by_cases hs : dataType = .string
    · subst hs
      simp only [encodeValueToWords, if_true, encodeStringWords, converted_accepts_iff,
        encodeAscii_ok_iff, Packs, true_and]
      constructor
      · rintro ⟨raw, ⟨ha, rfl⟩, words, h⟩
        split at h
        · cases h
        · rename_i hlen
          rw [List.length_map] at hlen
          exact ⟨ha, Nat.not_lt.mp hlen, words, h⟩
      · rintro ⟨ha, hlen, words, h⟩
        refine ⟨_, ⟨ha, rfl⟩, words, ?_⟩
        rw [List.length_map, if_neg (Nat.not_lt.mpr hlen)]
        exact h
    · simp [encodeValueToWords, hs, Packs, raise]

theorem encodeValueToWords_length {value : PyValue} {dataType : DataType}
    {encoding : ModbusEncoding} {words : Words}
    (h : encodeValueToWords lib value dataType encoding = .ok words) :
    words.length =
      if dataType = .string then encoding.registerCount else defaultCount dataType := by
  cases value with
  | num n =>
    have hmask : ∀ {bits}, maskedWord bits n = .ok words → words.length = 1 := by
      intro bits h
      obtain ⟨i, -, rfl⟩ := maskedWord_ok_iff.mp h
      rfl
    cases dataType with
    | u8 => exact hmask h
    | u16 => exact hmask h
    | packed => exact hmask h
    | float =>
      obtain ⟨x, -, h⟩ := bind_ok_iff.mp h
      exact lib.encode_length _ _ _ _ _ _ h 2 rfl
    | s32 =>
      obtain ⟨i, -, h⟩ := bind_ok_iff.mp h
      exact lib.encode_length _ _ _ _ _ _ h 2 rfl
    | u32 =>
      obtain ⟨i, -, h⟩ := bind_ok_iff.mp h
      exact lib.encode_length _ _ _ _ _ _ h 2 rfl
    | s16 =>
      obtain ⟨i, -, h⟩ := bind_ok_iff.mp h
      exact lib.encode_length _ _ _ _ _ _ h 1 rfl
    | string => cases h
  | str s =>
    by_cases hs : dataType = .string
    · simp only [encodeValueToWords, if_pos hs] at h
      obtain ⟨raw, -, h⟩ := bind_ok_iff.mp h
      split at h
      · cases h
      · rw [if_pos hs]
        exact lib.encode_length _ _ _ _ _ _ h _ rfl
    · simp [encodeValueToWords, hs, raise] at h

theorem wireWords_ok_iff {spec : ParameterSpec} {encoding : ModbusEncoding} {value : PyValue}
    {words : Words} :
    wireWords lib spec encoding value = .ok words ↔
      encodeValueToWords lib value spec.dataType encoding = .ok words := by
  simp only [wireWords, raise]
  cases encodeValueToWords lib value spec.dataType encoding with
  | ok ws => rfl
  | error e =>
    simp only
    split <;> simp

end Modbus

end EncodingChecks
