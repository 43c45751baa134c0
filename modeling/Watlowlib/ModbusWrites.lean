import Watlowlib.EncoderContracts
import Watlowlib.ProtocolAgreement
import Watlowlib.RoundingErrors

/-! # What a Modbus write puts into the registers

A number is turned into a count, by truncation on an unscaled row and by rounding its quotient on a
scaled one; the count is packed, and what a read makes of the words is the count again or, for the
masked types, its low bits. Between the number and what is read stand the truncation, or half a
step and the rounding of three double operations. -/
namespace ModbusWrites

open BinaryFormat EncoderContracts ExceptRules ModbusCodec ModbusOps ParameterCommands
  ProtocolAgreement PythonNumbers PythonTexts PythonValues RegisterCodec Registry RoundingErrors
  StdBusTlv WatlowErrors

section Counts

variable {q V : ℚ} {n : PyNum} {i : ℤ}

/-- What three operations on doubles add to half a step: four units in the last place of the value
and of the step, and of the smallest normal double. -/
def drift (q V : ℚ) : ℚ := 4 * (|V| + q) * (2 ^ 53)⁻¹ + 4 * 2 ^ (-1075 : ℤ)

/-- The count that stands for the value `V` in steps of `q`. -/
structure Counted (q V : ℚ) (i : ℤ) : Prop where
  truncated : q = 1 → |(i : ℚ) - V| < 1 ∧ |(i : ℚ)| ≤ |V|
  whole : q = 1 → ∀ k : ℤ, V = k → i = k
  rounded : q ≠ 1 → |i * q - V| ≤ q / 2 + drift q V

theorem slack_binary64 (t : ℚ) :
    slack binary64 t = |t| * (2 ^ 53)⁻¹ + 2 ^ (-1075 : ℤ) := by
  have hexp : binary64.minExponent - binary64.fractionBits - 1 = -1075 := by decide
  rw [slack, hexp]
  rfl

theorem tiny_le : (2 : ℚ) ^ (-1075 : ℤ) ≤ (2 ^ 53)⁻¹ := by
  have hle : (2 : ℚ) ^ (-1075 : ℤ) ≤ 2 ^ (-53 : ℤ) :=
    zpow_le_zpow_right₀ (by norm_num) (by norm_num)
  exact_mod_cast hle

theorem quotient_error {x y : ℚ} (hq : 0 < q) (hy : |y - x / q| ≤ slack binary64 (x / q)) :
    |y * q - x| ≤ |x| * (2 ^ 53)⁻¹ + 2 ^ (-1075 : ℤ) * q := by
  have hback : y * q - x = (y - x / q) * q := by
    field_simp
  have habs : |x / q| * q = |x| := by
    rw [abs_div, abs_of_pos hq]
    field_simp
  calc |y * q - x| = |y - x / q| * q := by rw [hback, abs_mul, abs_of_pos hq]
    _ ≤ slack binary64 (x / q) * q := mul_le_mul_of_nonneg_right hy hq.le
    _ = |x / q| * q * (2 ^ 53)⁻¹ + 2 ^ (-1075 : ℤ) * q := by
      rw [slack_binary64]
      ring
    _ = |x| * (2 ^ 53)⁻¹ + 2 ^ (-1075 : ℤ) * q := by rw [habs]

theorem rounded_error {x y : ℚ} (hq : 0 < q) (hx : |x - V| ≤ slack binary64 V)
    (hy : |y - x / q| ≤ slack binary64 (x / q)) :
    |roundHalfEven y * q - V| ≤ q / 2 + drift q V ∧
      ∀ r, |r - roundHalfEven y * q| ≤ slack binary64 (roundHalfEven y * q) →
        |r - V| ≤ q / 2 + drift q V := by
  have hquotient := quotient_error hq hy
  have hcount : |roundHalfEven y * q - y * q| ≤ q / 2 := by
    have hhalf := mul_le_mul_of_nonneg_right (roundHalfEven_error y) hq.le
    rw [← sub_mul, abs_mul, abs_of_pos hq]
    linarith
  have hsize : |x| ≤ |V| + slack binary64 V := by
    have hdiff := abs_sub_abs_le_abs_sub x V
    linarith
  have hfirst := abs_sub_le (roundHalfEven y * q) (y * q) V
  have hsecond := abs_sub_le (y * q) x V
  have htiny : (0 : ℚ) < 2 ^ (-1075 : ℤ) := by positivity
  have htiny_le := tiny_le
  have hstep := mul_le_mul_of_nonneg_right tiny_le hq.le
  have hslack := slack_binary64
  have hvalue := abs_nonneg V
  simp only [drift]
  generalize (2 : ℚ) ^ (-1075 : ℤ) = tiny at *
  generalize hu : ((2 : ℚ) ^ 53)⁻¹ = unit at *
  have hunit : unit = 1 / 9007199254740992 := by rw [← hu]; norm_num
  subst hunit
  rw [hslack] at hx hsize
  constructor
  · linarith
  · intro r hr
    have hthird := abs_sub_le r (roundHalfEven y * q) V
    have hproduct := abs_sub_abs_le_abs_sub (roundHalfEven y * q) V
    rw [hslack] at hr
    linarith

theorem ofRat_rounds {a r : ℚ} (h : (ofRat a).unsigned = .finite r) :
    nearest binary64 a = some r := by
  simp only [ofRat] at h
  split at h
  · rename_i hr
    split at h
    · rename_i hzero
      cases h
      rw [hr, hzero.1]
    · cases h
      exact hr
  · cases h

theorem truncated_error (V : ℚ) :
    |((if V < 0 then V.ceil else V.floor : ℤ) : ℚ) - V| < 1 ∧
      |((if V < 0 then V.ceil else V.floor : ℤ) : ℚ)| ≤ |V| := by
  by_cases hneg : V < 0
  · have hlow : V ≤ V.ceil := Rat.le_ceil
    have hhigh : (V.ceil : ℚ) < V + 1 := Rat.ceil_lt
    have hzero : (V.ceil : ℚ) ≤ 0 := by
      have hceil : V.ceil < 0 + 1 := by exact_mod_cast (by linarith : (V.ceil : ℚ) < 0 + 1)
      exact_mod_cast Int.lt_add_one_iff.mp hceil
    rw [if_pos hneg, abs_of_nonpos hzero, abs_of_neg hneg, abs_lt]
    exact ⟨⟨by linarith, by linarith⟩, by linarith⟩
  · have hlow : (V.floor : ℚ) ≤ V := Rat.floor_le V
    have hhigh : V < V.floor + 1 := by exact_mod_cast Rat.lt_floor_add_one V
    have hzero : (0 : ℚ) ≤ V.floor := by
      have hfloor : (0 : ℤ) < V.floor + 1 := by
        exact_mod_cast (by linarith : (0 : ℚ) < V.floor + 1)
      exact_mod_cast Int.lt_add_one_iff.mp hfloor
    rw [if_neg hneg, abs_of_nonneg hzero, abs_of_nonneg (not_lt.mp hneg), abs_lt]
    exact ⟨⟨by linarith, by linarith⟩, by linarith⟩

theorem toInt_counted (h : toInt n = .ok i) :
    ∃ V, n.exact = .finite V ∧ (|(i : ℚ) - V| < 1 ∧ |(i : ℚ)| ≤ |V|) ∧
      ∀ k : ℤ, V = k → i = k := by
  cases n with
  | int j =>
    cases h
    refine ⟨i, rfl, by simp, fun k hk => by exact_mod_cast hk⟩
  | bool b =>
    cases h
    refine ⟨_, rfl, by cases b <;> simp, fun k hk => ?_⟩
    cases b <;> exact_mod_cast hk
  | float x =>
    cases x with
    | nan => cases h
    | inf negative => cases h
    | negZero =>
      cases h
      exact ⟨0, rfl, by simp, fun k hk => by exact_mod_cast hk⟩
    | finite V =>
      cases h
      refine ⟨V, rfl, truncated_error V, fun k hk => ?_⟩
      rw [hk, Rat.ceil_intCast, Rat.floor_intCast, ite_self]

theorem toFloat_finite {x : ℚ} {y : PyFloat} (h : toFloat n = .ok y)
    (hy : y.unsigned = .finite x) : ∃ V, n.exact = .finite V ∧ |x - V| ≤ slack binary64 V := by
  have hslack : ∀ V, 0 ≤ slack binary64 V := fun V => by
    rw [slack]
    positivity
  cases n with
  | int j =>
    simp only [toFloat] at h
    split at h
    · rename_i hnearest
      cases h
      cases hy
      exact ⟨j, rfl, nearest_error binary64 hnearest⟩
    · cases h
  | bool b =>
    cases h
    cases hy
    exact ⟨_, rfl, by simpa using hslack _⟩
  | float z =>
    cases h
    exact ⟨x, hy, by simpa using hslack x⟩

/-- A quotient that is no infinity is that of the operands' numbers, rounded. -/
theorem divide_rounds {x z : PyFloat} {y : ℚ} (hq : 0 < q)
    (hz : divide x (.finite q) = .ok z) (hy : z.unsigned = .finite y) :
    ∃ p, x.unsigned = .finite p ∧ nearest binary64 (p / q) = some y := by
  have hzero : ∀ negative, PyFloat.unsigned (.signedZero negative) = .finite y →
      nearest binary64 ((0 : ℚ) / q) = some y := by
    intro negative hsigned
    have hy0 : (0 : ℚ) = y := by
      cases negative <;> exact PyFloat.finite.inj hsigned
    rw [zero_div, ← hy0]
    exact ofRat_rounds (by rw [ofRat_zero]; rfl)
  cases x with
  | nan =>
    simp only [divide, if_neg hq.ne'] at hz
    cases hz
    cases hy
  | inf negative =>
    simp only [divide, if_neg hq.ne'] at hz
    cases hz
    cases hy
  | negZero =>
    simp only [divide, if_neg hq.ne', Except.ok.injEq] at hz
    exact ⟨0, rfl, hzero _ (by rw [hz, hy])⟩
  | finite p =>
    simp only [divide, if_neg hq.ne', Except.ok.injEq] at hz
    refine ⟨p, rfl, ?_⟩
    by_cases hp : p = 0
    · rw [if_pos hp] at hz
      rw [hp]
      exact hzero _ (by rw [hz, hy])
    · rw [if_neg hp] at hz
      exact ofRat_rounds (by rw [hz, hy])

theorem quotient_counted {x y : PyFloat} (hq : 0 < q) (hx : toFloat n = .ok x)
    (hy : divide x (.finite q) = .ok y) (hi : roundFloat y = .ok i) :
    ∃ V, n.exact = .finite V ∧ |i * q - V| ≤ q / 2 + drift q V ∧
      ∀ r, (ofRat (i * q)).unsigned = .finite r → |r - V| ≤ q / 2 + drift q V := by
  obtain ⟨z, hz, rfl⟩ : ∃ z, y.unsigned = .finite z ∧ roundHalfEven z = i := by
    cases y with
    | nan => cases hi
    | inf negative => cases hi
    | negZero =>
      cases hi
      exact ⟨0, rfl, by decide +kernel⟩
    | finite z =>
      cases hi
      exact ⟨z, rfl, rfl⟩
  obtain ⟨p, hp, hquotient⟩ := divide_rounds hq hy hz
  obtain ⟨V, hV, hx⟩ := toFloat_finite hx hp
  obtain ⟨hcount, hread⟩ := rounded_error hq hx (nearest_error binary64 hquotient)
  exact ⟨V, hV, hcount, fun r hr => hread r (nearest_error binary64 (ofRat_rounds hr))⟩

/-- What is read for a count: itself, or its product with the scale. -/
def engineering (q : ℚ) (k : ℤ) : PyValue :=
  if q = 1 then .num (.int k) else .num (.float (ofRat (k * q)))

/-- A product that is no infinity is as close to the value as its count. -/
structure Close (q V : ℚ) (i : ℤ) : Prop extends Counted q V i where
  read : q ≠ 1 → ∀ r, (ofRat (i * q)).unsigned = .finite r → |r - V| ≤ q / 2 + drift q V

theorem wireValue_close {spec : ParameterSpec} {scaled : PyValue} (hscale : spec.scale = .finite q)
    (hq : 0 < q) (h : wireValue spec (.num n) = .ok scaled) :
    ∃ m, scaled = .num m ∧
      ∀ i, toInt m = .ok i → ∃ V, n.exact = .finite V ∧ Close q V i := by
  by_cases hone : q = 1
  · have hval := wireValue_of_one (v := .num n) (show spec.scale = .finite 1 by rw [hscale, hone])
    cases h.symm.trans hval
    refine ⟨n, rfl, ?_⟩
    intro i hi
    obtain ⟨V, hV, htruncated, hwhole⟩ := toInt_counted hi
    exact ⟨V, hV, ⟨fun _ => htruncated, fun _ => hwhole, absurd hone⟩, absurd hone⟩
  · have hne : spec.scale ≠ .finite 1 := fun h1 => hone (PyFloat.finite.inj (hscale.symm.trans h1))
    rcases wireValue_ok_iff.mp h with ⟨⟨s, hs⟩ | hs, -⟩ | ⟨-, n', x, y, j, hn, hx, hy, hj, rfl⟩
    · cases hs
    · exact absurd hs hne
    · cases hn
      rw [hscale] at hy
      obtain ⟨V, hV, hcount, hread⟩ := quotient_counted hq hx hy hj
      refine ⟨.int j, rfl, ?_⟩
      rintro i ⟨⟩
      exact ⟨V, hV, ⟨fun h1 => absurd h1 hone, fun h1 => absurd h1 hone, fun _ => hcount⟩,
        fun _ => hread⟩

theorem scaleValue_count {spec : ParameterSpec} {k : ℤ} (hscale : spec.scale = .finite q)
    (hq : 0 < q) (hk : |k| < 2 ^ 53) : scaleValue spec (.num (.int k)) = .ok (engineering q k) := by
  by_cases hone : q = 1
  · rw [engineering, if_pos hone]
    exact scaleValue_of_one (by rw [hscale, hone])
  · have hne : spec.scale ≠ .finite 1 := fun h1 => hone (PyFloat.finite.inj (hscale.symm.trans h1))
    have hfloat : toFloat (.int k) = .ok (.finite k) := by
      simp only [toFloat, nearest_intCast binary64 hk (by decide) (by decide)]
    have hproduct : multiply (.finite k) (.finite q) = ofRat (k * q) := by
      by_cases hzero : (k : ℚ) = 0
      · simp [multiply, hzero, PyFloat.isNegative, PyFloat.signedZero, hq.le, ofRat_zero]
      · simp [multiply, hzero, hq.ne']
    simp only [scaleValue, if_neg hne, hfloat, ok_bind, engineering, if_neg hone]
    rw [hscale, hproduct]

end Counts

variable {lib : AnyModbus} {order : WordOrder} {count : ℕ}

/-- The types that keep the low bits of a count. -/
def Masked : DataType → Prop
  | .u8 => True
  | .u16 => True
  | .packed => True
  | _ => False

/-- The counts that the registers of a type hold. -/
def CountRange : DataType → ℤ → Prop
  | .u8, i => 0 ≤ i ∧ i ≤ 0xFF
  | .u16, i => 0 ≤ i ∧ i ≤ 0xFFFF
  | .packed, i => 0 ≤ i ∧ i ≤ 0xFFFF
  | .u32, i => 0 ≤ i ∧ i ≤ 0xFFFFFFFF
  | .s16, i => -2 ^ 15 ≤ i ∧ i ≤ 2 ^ 15 - 1
  | .s32, i => -2 ^ 31 ≤ i ∧ i ≤ 2 ^ 31 - 1
  | _, _ => False

def keptCount : DataType → ℤ → ℤ
  | .u8, i => i % 2 ^ 8
  | .u16, i => i % 2 ^ 16
  | .packed, i => i % 2 ^ 16
  | _, i => i

theorem keptCount_of_range {type : DataType} {i : ℤ} (h : CountRange type i) :
    keptCount type i = i := by
  cases type with
  | u8 => exact Int.emod_eq_of_lt h.1 (by have := h.2; omega)
  | u16 => exact Int.emod_eq_of_lt h.1 (by have := h.2; omega)
  | packed => exact Int.emod_eq_of_lt h.1 (by have := h.2; omega)
  | _ => rfl

theorem keptCount_range {type : DataType} {i : ℤ} (h : Masked type ∨ CountRange type i) :
    CountRange type (keptCount type i) := by
  cases type with
  | u8 =>
    simp only [CountRange, keptCount]
    omega
  | u16 =>
    simp only [CountRange, keptCount]
    omega
  | packed =>
    simp only [CountRange, keptCount]
    omega
  | _ => exact h.resolve_left id

theorem countRange_abs {type : DataType} {i : ℤ} (h : CountRange type i) : |i| < 2 ^ 53 := by
  rw [abs_lt]
  cases type with
  | float => cases h
  | string => cases h
  | _ =>
    obtain ⟨hlow, hhigh⟩ := h
    constructor <;> omega

theorem maskedWord_ok {bits : ℕ} {n : PyNum} {i : ℤ} {words : Words} (hbits : bits ≤ 16)
    (hi : toInt n = .ok i) (h : maskedWord bits n = .ok words) :
    ∃ w : UInt16, words = [w] ∧ (w.toNat : ℤ) = i % 2 ^ bits := by
  obtain ⟨i', hi', h⟩ := bind_ok_iff.mp h
  cases hi.symm.trans hi'
  cases h
  have hpos : (0 : ℤ) < 2 ^ bits := by positivity
  have hpow : (2 : ℤ) ^ bits ≤ 2 ^ 16 := pow_le_pow_right₀ (by norm_num) hbits
  have hlow := Int.emod_nonneg i hpos.ne'
  have hhigh := Int.emod_lt_of_pos i hpos
  refine ⟨_, rfl, ?_⟩
  rw [UInt16.toNat_ofNat']
  omega

theorem masked_count (hlib : Lawful lib) (type : DataType) {n : PyNum} {i : ℤ} {words : Words}
    (hregister : registerType type = some (.uint16, 1)) (hi : toInt n = .ok i)
    (h : maskedWord 16 n = .ok words) :
    decodeWords lib words type (rowEncoding type order count) = .ok (.num (.int (i % 2 ^ 16))) := by
  obtain ⟨w, rfl, hw⟩ := maskedWord_ok le_rfl hi h
  have hread := hlib.decode_word w order
  rw [hw] at hread
  exact decodeWords_register hregister rfl hread

theorem packed_count (hlib : Strict lib) (type : DataType) {register : RegisterType}
    {expected : ℕ} {n : PyNum} {i : ℤ} {words : Words}
    (hregister : registerType type = some (register, expected))
    (hcount : register.wordCount none = some expected) (hfloat : register ≠ .float32)
    (hholds : RegisterType.IntRange register i → Holds register none (.num (.int i)))
    (hi : toInt n = .ok i)
    (h : (do let i ← toInt n; lib.encode register (.num (.int i)) none order .big) = .ok words) :
    RegisterType.IntRange register i ∧
      decodeWords lib words type (rowEncoding type order count) = .ok (.num (.int i)) := by
  obtain ⟨i', hi', h⟩ := bind_ok_iff.mp h
  cases hi.symm.trans hi'
  have hrange : RegisterType.IntRange register i := by
    by_contra hout
    obtain ⟨e, he⟩ := hlib.refuses register i none order .big hfloat hout
    cases h.symm.trans he
  have hpacked : ∃ words, lib.encode register (.num (.int i)) none order .big = .ok words ∧
      decodeWords lib words type (rowEncoding type order count) = .ok (.num (.int i)) :=
    packed_round_trip hlib.toLawful type hregister hcount (hholds hrange)
  obtain ⟨words', hencode, hdecode⟩ := hpacked
  cases h.symm.trans hencode
  exact ⟨hrange, hdecode⟩

theorem encodeNumberWords_ok (hlib : Strict lib) {type : DataType} {n : PyNum} {i : ℤ}
    {words : Words} (hfloat : type ≠ .float) (hi : toInt n = .ok i)
    (h : encodeNumberWords lib type n (rowEncoding type order count) = .ok words) :
    (Masked type ∨ CountRange type i) ∧
      decodeWords lib words type (rowEncoding type order count) =
        .ok (.num (.int (keptCount type i))) := by
  cases type with
  | float => exact absurd rfl hfloat
  | string => cases h
  | u8 =>
    obtain ⟨w, rfl, hw⟩ := maskedWord_ok (by norm_num) hi h
    refine ⟨Or.inl trivial, ?_⟩
    have hread : decodeWords lib [w] .u8 (rowEncoding .u8 order count) =
        .ok (.num (.int (w.toNat % 256))) := rfl
    rw [hread, hw]
    simp [keptCount]
  | u16 => exact ⟨Or.inl trivial, masked_count hlib.toLawful .u16 rfl hi h⟩
  | packed => exact ⟨Or.inl trivial, masked_count hlib.toLawful .packed rfl hi h⟩
  | u32 =>
    obtain ⟨hrange, hread⟩ := packed_count hlib .u32 rfl rfl nofun id hi h
    exact ⟨Or.inr hrange, hread⟩
  | s32 =>
    obtain ⟨hrange, hread⟩ := packed_count hlib .s32 rfl rfl nofun id hi h
    exact ⟨Or.inr hrange, hread⟩
  | s16 =>
    obtain ⟨hrange, hread⟩ := packed_count hlib .s16 rfl rfl nofun id hi h
    exact ⟨Or.inr hrange, hread⟩

theorem encodeNumberWords_toInt {type : DataType} {n : PyNum} {encoding : ModbusEncoding}
    {words : Words} (hfloat : type ≠ .float)
    (h : encodeNumberWords lib type n encoding = .ok words) : ∃ i, toInt n = .ok i := by
  cases type with
  | float => exact absurd rfl hfloat
  | string => cases h
  | _ =>
    obtain ⟨i, hi, -⟩ := bind_ok_iff.mp h
    exact ⟨i, hi⟩

theorem wireWords_read (hlib : Strict lib) {spec : ParameterSpec} {encoding : ModbusEncoding}
    {m : PyNum} {words : Words} (hfloat : spec.dataType ≠ .float)
    (hencoding : specEncoding lib spec = .ok encoding)
    (h : wireWords lib spec encoding (.num m) = .ok words) :
    ∃ i, toInt m = .ok i ∧ (Masked spec.dataType ∨ CountRange spec.dataType i) ∧
      decodeWords lib words spec.dataType encoding =
        .ok (.num (.int (keptCount spec.dataType i))) := by
  obtain ⟨order, rfl⟩ := encodingFor_row hencoding
  simp only [wireWords, raise] at h
  split at h
  · rename_i words' hwords
    cases h
    obtain ⟨i, hi⟩ := encodeNumberWords_toInt hfloat hwords
    exact ⟨i, hi, encodeNumberWords_ok hlib hfloat hi hwords⟩
  · split at h <;> cases h

/-- A number that is written is read back within the rounding of its count, or within the low bits
that a masked type keeps of it; a count outside the range of any other type is refused. -/
theorem written_read_back (hlib : Strict lib) {ctx : CommandContext} {target : Ident}
    {instanceNo : ℤ} {n : PyNum} {spec : ParameterSpec} {q : ℚ} {op : ModbusOp}
    (hresolve : resolveRequest ctx target instanceNo = .ok spec)
    (hfloat : spec.dataType ≠ .float) (hscale : spec.scale = .finite q) (hq : 0 < q)
    (h : writeModbusEncode lib ctx ⟨target, .num n, instanceNo⟩ = .ok op) :
    ∃ words entry V i, op.values = some words ∧
      readModbusDecode lib words ctx ⟨target, instanceNo⟩ = .ok entry ∧
      n.exact = .finite V ∧ Close q V i ∧
      (Masked spec.dataType ∨ CountRange spec.dataType i) ∧
      entry.value = engineering q (keptCount spec.dataType i) ∧
      (CountRange spec.dataType i → entry.value = engineering q i) := by
  obtain ⟨spec', hspec, h⟩ := bind_ok_iff.mp h
  cases hresolve.symm.trans hspec
  obtain ⟨_, -, h⟩ := bind_ok_iff.mp h
  obtain ⟨_, -, h⟩ := bind_ok_iff.mp h
  obtain ⟨encoding, hencoding, h⟩ := bind_ok_iff.mp h
  obtain ⟨_, -, h⟩ := bind_ok_iff.mp h
  obtain ⟨scaled, hscaled, h⟩ := bind_ok_iff.mp h
  obtain ⟨words, hwords, h⟩ := bind_ok_iff.mp h
  obtain ⟨-, -, -, hvalues⟩ := make_ok_iff.mp h
  obtain ⟨m, rfl, hclose⟩ := wireValue_close hscale hq hscaled
  obtain ⟨i, hi, hheld, hread⟩ := wireWords_read hlib hfloat hencoding hwords
  obtain ⟨V, hV, hclose⟩ := hclose i hi
  have hvalue := scaleValue_count hscale hq (countRange_abs (keptCount_range hheld))
  refine ⟨words, ⟨spec, instanceNo, engineering q (keptCount spec.dataType i), wordBytes words⟩, V,
    i, hvalues, ?_, hV, hclose, hheld, rfl, ?_⟩
  · refine bind_ok_iff.mpr ⟨spec, hresolve, bind_ok_iff.mpr ⟨encoding, hencoding, ?_⟩⟩
    simp only [hread, hvalue, ok_bind]
  · intro hrange
    rw [keptCount_of_range hrange]

def onlyRow (spec : ParameterSpec) : CommandContext := ⟨.build [spec] [] [], 1, "COM3"⟩

def milliRow : ParameterSpec :=
  { plainRow 7001 "setpoint" with
    dataType := .s16
    scale := .finite (1152921504606847 / 1152921504606846976) }

theorem milliRow_resolved :
    resolveRequest (onlyRow milliRow) (.id 7001) 1 = .ok milliRow := by decide +kernel

theorem milliRow_written :
    (writeModbusEncode byteModbus (onlyRow milliRow)
      ⟨.id 7001, .num (.float (.finite (25 / 8))), 1⟩).toOption.map (·.values) =
      some (some [3125]) := by decide +kernel

theorem milli_read_back :
    ∃ entry i, readModbusDecode byteModbus [3125] (onlyRow milliRow) ⟨.id 7001, 1⟩ = .ok entry ∧
      Close (1152921504606847 / 1152921504606846976) (25 / 8) i ∧
      entry.value = engineering (1152921504606847 / 1152921504606846976) i := by
  have hwritten := milliRow_written
  cases h : writeModbusEncode byteModbus (onlyRow milliRow)
      ⟨.id 7001, .num (.float (.finite (25 / 8))), 1⟩ with
  | error e =>
    rw [h] at hwritten
    cases hwritten
  | ok op =>
    rw [h] at hwritten
    obtain ⟨words, entry, V, i, hvalues, hread, hV, hclose, -, hvalue, -⟩ :=
      written_read_back byteModbus_strict milliRow_resolved (by decide) rfl (by norm_num) h
    have hwords : op.values = some [3125] := Option.some.inj hwritten
    cases hvalues.symm.trans hwords
    cases hV
    exact ⟨entry, i, hread, hclose, hvalue⟩

def readBack (lib : AnyModbus) (ctx : CommandContext) (target : Ident) (instanceNo : ℤ)
    (n : PyNum) : Result PyValue := do
  let op ← writeModbusEncode lib ctx ⟨target, .num n, instanceNo⟩
  let entry ← readModbusDecode lib (op.values.getD []) ctx ⟨target, instanceNo⟩
  .ok entry.value

/-- The value itself where it is whole and the row unscaled, and never more than half a step off. -/
def AsAsked (q V : ℚ) (value : PyValue) : Prop :=
  ∃ m W, value = .num m ∧ m.exact = .finite W ∧ |W - V| ≤ q / 2 ∧
    (q = 1 → ∀ k : ℤ, V = k → W = V)

/-- A masked register takes `300` for `44`, an unscaled one `3.75` for `3`, and a double between
two steps goes to the farther one. -/
theorem read_back_otherwise :
    Strict byteModbus ∧
      (∃ value, readBack byteModbus (onlyRow (plainRow 7001 "setpoint")) (.id 7001) 1 (.int 300) =
        .ok value ∧ ¬ AsAsked 1 300 value) ∧
      (∃ value, readBack byteModbus (onlyRow { plainRow 7001 "setpoint" with dataType := .s16 })
        (.id 7001) 1 (.float (.finite (15 / 4))) = .ok value ∧ ¬ AsAsked 1 (15 / 4) value) ∧
      ∃ value, readBack byteModbus (onlyRow milliRow) (.id 7001) 1
        (.float (.finite (1297036692682703 / 288230376151711744))) = .ok value ∧
        ¬ AsAsked (1152921504606847 / 1152921504606846976)
          (1297036692682703 / 288230376151711744) value := by
  refine ⟨byteModbus_strict, ⟨.num (.int 44), by decide +kernel, ?_⟩,
    ⟨.num (.int 3), by decide +kernel, ?_⟩,
    ⟨.num (.float (.finite (1152921504606847 / 288230376151711744))), by decide +kernel, ?_⟩⟩
  · rintro ⟨m, W, ⟨⟩, ⟨⟩, hnear, -⟩
    norm_num at hnear
  · rintro ⟨m, W, ⟨⟩, ⟨⟩, hnear, -⟩
    norm_num at hnear
  · rintro ⟨m, W, ⟨⟩, ⟨⟩, hnear, -⟩
    norm_num at hnear

end ModbusWrites
