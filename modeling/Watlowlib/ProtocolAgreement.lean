import Watlowlib.RegisterCodec

/-! # One value over two protocols

A value that the Standard Bus carries comes back unchanged from its tagged form and, at a scale of
one, from the registers of its row, whatever the order of the words. -/
namespace ProtocolAgreement

open CodecRoundTrips ExceptRules ModbusCodec ParameterCommands PythonNumbers PythonValues
  RegisterCodec Registry StdBusTlv WatlowErrors

variable {lib : AnyModbus} {order : WordOrder} {count : ℕ} {v : PyValue}

/-- Written as a tagged value and read back. -/
def overStdBus (type : DataType) (v : PyValue) : Result PyValue := do
  let b ← encodeValue type v
  let d ← decodeValue b
  .ok d.value

/-- Written into registers and read back, through the scale of the row. -/
def overModbus (lib : AnyModbus) (spec : ParameterSpec) (encoding : ModbusEncoding) (v : PyValue) :
    Result PyValue := do
  let scaled ← wireValue spec v
  let words ← encodeValueToWords lib scaled spec.dataType encoding
  let decoded ← decodeWords lib words spec.dataType encoding
  scaleValue spec decoded

/-- The encoding of a row, with its word order and its register count. -/
def rowEncoding (type : DataType) (order : WordOrder) (count : ℕ) : ModbusEncoding :=
  { defaultEncoding type with registerCount := count, wordOrder := order }

theorem encodingFor_row {type : DataType} {label : Option String} {registerCount : ℕ}
    {encoding : ModbusEncoding} (h : encodingFor lib type label registerCount = .ok encoding) :
    ∃ order, encoding = rowEncoding type order
      (if registerCount = 0 then defaultCount type else registerCount) := by
  obtain ⟨override, -, h⟩ := bind_ok_iff.mp h
  cases h
  exact ⟨_, rfl⟩

theorem overStdBus_eq {type : DataType} (h : InTagRange type v) : overStdBus type v = .ok v := by
  obtain ⟨b, hencode, hdecode⟩ := value_round_trip [] h
  rw [List.append_nil] at hdecode
  rw [overStdBus, hencode, ok_bind, hdecode, ok_bind]

theorem wireValue_of_one {spec : ParameterSpec} (h : spec.scale = .finite 1) :
    wireValue spec v = .ok v := by
  cases v with
  | str s => rfl
  | num n => exact if_pos h

theorem scaleValue_of_one {spec : ParameterSpec} (h : spec.scale = .finite 1) :
    scaleValue spec v = .ok v := by
  cases v with
  | str s => rfl
  | num n => exact if_pos h

theorem maskedWord_eq (bits : ℕ) {i : ℤ} (hlow : 0 ≤ i) (hhigh : i < 2 ^ bits) (hbits : bits ≤ 16) :
    ∃ w : UInt16, maskedWord bits (.int i) = .ok [w] ∧ (w.toNat : ℤ) = i := by
  have hpow : (2 : ℤ) ^ bits ≤ 2 ^ 16 := pow_le_pow_right₀ (by norm_num) hbits
  refine ⟨UInt16.ofNat (i % 2 ^ bits).toNat, rfl, ?_⟩
  rw [Int.emod_eq_of_lt hlow hhigh, UInt16.toNat_ofNat']
  omega

theorem checkWords_ok {words : List UInt16} {expected : ℕ} {name : String}
    (h : words.length = expected) : checkWords words expected name = .ok ⟨⟩ := if_pos h

section Registers

theorem decodeWords_register {type : DataType} {register : RegisterType} {expected : ℕ}
    {words : List UInt16} (hregister : registerType type = some (register, expected))
    (hlen : words.length = expected)
    (hdecode : lib.decode register words order .big = .ok v) :
    decodeWords lib words type (rowEncoding type order count) = .ok v := by
  have hbyte : type ≠ .u8 := by
    rintro rfl
    cases hregister
  have htext : type ≠ .string := by
    rintro rfl
    cases hregister
  simp only [decodeWords, if_neg hbyte, if_neg htext, hregister, checkWords_ok hlen, ok_bind]
  exact hdecode

theorem packed_round_trip (hlib : Lawful lib) (type : DataType) {register : RegisterType}
    {expected : ℕ} (hregister : registerType type = some (register, expected))
    (hcount : register.wordCount none = some expected) (hv : Holds register none v) :
    ∃ words, lib.encode register v none order .big = .ok words ∧
      decodeWords lib words type (rowEncoding type order count) = .ok v := by
  obtain ⟨words, hencode, hdecode⟩ := hlib.inverse register none v order .big hv
  have hlen := lib.encode_length _ _ _ _ _ _ hencode expected hcount
  exact ⟨words, hencode, decodeWords_register hregister hlen hdecode⟩

theorem masked_round_trip (hlib : Lawful lib) (type : DataType) {i : ℤ}
    (hregister : registerType type = some (.uint16, 1)) (h : 0 ≤ i ∧ i ≤ 0xFFFF) :
    ∃ words, maskedWord 16 (.int i) = .ok words ∧
      decodeWords lib words type (rowEncoding type order count) = .ok (.num (.int i)) := by
  obtain ⟨w, hmask, hw⟩ := maskedWord_eq 16 h.1 (by omega) le_rfl
  have hdecode := hlib.decode_word w order
  rw [hw] at hdecode
  exact ⟨[w], hmask, decodeWords_register hregister rfl hdecode⟩

theorem string_words_round_trip (hlib : Lawful lib) {s : String} (hascii : isAscii s)
    (hlast : s.toList.getLast? ≠ some (Char.ofNat 0)) (hfits : s.length ≤ 2 * count) :
    ∃ words, encodeStringWords lib s (rowEncoding .string order count) = .ok words ∧
      decodeWords lib words .string (rowEncoding .string order count) = .ok (.str s) := by
  obtain ⟨words, hencode, hdecode⟩ :=
    hlib.inverse .string (some count) (.str s) order .big ⟨hascii, hfits, hlast⟩
  have hsize : (s.toList.map fun c => UInt8.ofNat c.toNat).length = s.length := by
    rw [List.length_map, String.length_toList]
  have hroom : ¬ count * 2 < (s.toList.map fun c => UInt8.ofNat c.toNat).length := by omega
  refine ⟨words, bind_ok_iff.mpr ⟨_, if_pos hascii, (if_neg hroom).trans hencode⟩, ?_⟩
  have hread : lib.decode .string words order .big = .ok (.str s) := hdecode
  simp only [decodeWords, rowEncoding, defaultEncoding, reduceCtorEq, if_false, if_true, hread]

theorem words_round_trip (hlib : Lawful lib) (order : WordOrder) {type : DataType}
    (hv : InTagRange type v) (hfits : ∀ s, v = .str s → s.length ≤ 2 * count) :
    ∃ words, encodeValueToWords lib v type (rowEncoding type order count) = .ok words ∧
      decodeWords lib words type (rowEncoding type order count) = .ok v := by
  cases v with
  | str s =>
    cases type with
    | string => exact string_words_round_trip hlib hv.1 hv.2.2 (hfits s rfl)
    | _ => cases hv
  | num n =>
    cases n with
    | bool b => cases type <;> cases hv
    | float x =>
      cases type with
      | float => exact packed_round_trip hlib .float rfl rfl hv
      | _ => cases hv
    | int i =>
      cases type with
      | u8 =>
        have hbound : i < 2 ^ 8 := by
          have := hv.2
          omega
        obtain ⟨w, hmask, hw⟩ := maskedWord_eq 8 hv.1 hbound (by norm_num)
        refine ⟨[w], hmask, ?_⟩
        have hread : decodeWords lib [w] .u8 (rowEncoding .u8 order count) =
            .ok (.num (.int (w.toNat % 256))) := rfl
        rw [hread, hw, Int.emod_eq_of_lt hv.1 (by omega)]
      | u16 => exact masked_round_trip hlib .u16 rfl hv
      | packed => exact masked_round_trip hlib .packed rfl hv
      | u32 => exact packed_round_trip hlib .u32 rfl rfl hv
      | s32 => exact packed_round_trip hlib .s32 rfl rfl hv
      | s16 => cases hv
      | float => cases hv
      | string => cases hv

end Registers

theorem overModbus_eq (hlib : Lawful lib) {spec : ParameterSpec} (hscale : spec.scale = .finite 1)
    (hv : InTagRange spec.dataType v) (order : WordOrder)
    (hfits : ∀ s, v = .str s → s.length ≤ 2 * count) :
    overModbus lib spec (rowEncoding spec.dataType order count) v = .ok v := by
  obtain ⟨words, hencode, hdecode⟩ := words_round_trip hlib order hv hfits
  rw [overModbus, wireValue_of_one hscale, ok_bind, hencode, ok_bind, hdecode, ok_bind,
    scaleValue_of_one hscale]

/-- Over both protocols a value in range comes back as it was: in every word order, and in the
encoding of its row. -/
theorem protocols_carry_alike (hlib : Lawful lib) {spec : ParameterSpec}
    (hscale : spec.scale = .finite 1) (hv : InTagRange spec.dataType v) :
    overStdBus spec.dataType v = .ok v ∧
      (∀ order count, (∀ s, v = .str s → s.length ≤ 2 * count) →
        overModbus lib spec (rowEncoding spec.dataType order count) v = .ok v) ∧
      ∀ encoding, specEncoding lib spec = .ok encoding →
        (∀ s, v = .str s → s.length ≤ 2 * encoding.registerCount) →
        overModbus lib spec encoding v = .ok v := by
  refine ⟨overStdBus_eq hv, fun order count => overModbus_eq hlib hscale hv order, ?_⟩
  intro encoding hencoding hfits
  obtain ⟨order, rfl⟩ := encodingFor_row hencoding
  exact overModbus_eq hlib hscale hv order hfits

def counterRow : ParameterSpec :=
  { plainRow 8001 "counter" with dataType := .s32, wordOrder := some "low_high" }

theorem counter_carried_alike :
    overStdBus .s32 (.num (.int (-70000))) = .ok (.num (.int (-70000))) ∧
      overModbus byteModbus counterRow (rowEncoding .s32 .lowHigh 2) (.num (.int (-70000))) =
        .ok (.num (.int (-70000))) ∧
      overModbus byteModbus counterRow (rowEncoding .s32 .highLow 2) (.num (.int (-70000))) =
        .ok (.num (.int (-70000))) := by
  have hv : InTagRange counterRow.dataType (.num (.int (-70000))) := ⟨by decide, by decide⟩
  have hscale : counterRow.scale = .finite 1 := rfl
  obtain ⟨hstd, hmodbus, -⟩ := protocols_carry_alike byteModbus_strict.toLawful hscale hv
  exact ⟨hstd, hmodbus .lowHigh 2 nofun, hmodbus .highLow 2 nofun⟩

end ProtocolAgreement
