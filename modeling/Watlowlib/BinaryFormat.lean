import Mathlib.Algebra.Order.Field.Power
import Mathlib.Data.Rat.Floor
import Mathlib.Tactic.Linarith
import Mathlib.Tactic.Positivity

/-! # Binary interchange formats over the rationals

A format has a fraction and an exponent field. A magnitude is coded by its biased exponent and
its fraction read as one natural number, so a carry out of the fraction is an ordinary sum.
Rounding is to nearest, ties to even; a code at or past the all-ones exponent is an overflow. -/
namespace BinaryFormat

def roundHalfEven (q : ℚ) : ℤ :=
  let f := q.floor
  let r := q - f
  if r < 1 / 2 then f else if 1 / 2 < r then f + 1 else if f % 2 = 0 then f else f + 1

structure Format where
  fractionBits : ℕ
  exponentBits : ℕ
  deriving DecidableEq, Repr

def binary32 : Format := ⟨23, 8⟩

def binary64 : Format := ⟨52, 11⟩

variable (F : Format)

def Format.minExponent : ℤ := 2 - 2 ^ (F.exponentBits - 1)

def Format.infinityCode : ℕ := (2 ^ F.exponentBits - 1) * 2 ^ F.fractionBits

def Format.signBit : ℕ := 2 ^ (F.exponentBits + F.fractionBits)

def Format.quietNaN : ℕ := F.infinityCode + 2 ^ (F.fractionBits - 1)

/-- `⌊log₂ q⌋` for a positive `q`. -/
def binaryExponent (q : ℚ) : ℤ :=
  if 1 ≤ q then (q.num.toNat / q.den).log2 else -(((q.den - 1) / q.num.toNat).log2 + 1 : ℤ)

def magnitudeCode (q : ℚ) : ℕ :=
  if q = 0 then 0
  else
    let e := max (binaryExponent q) F.minExponent
    ((e - F.minExponent) * 2 ^ F.fractionBits +
      roundHalfEven (q * 2 ^ ((F.fractionBits : ℤ) - e))).toNat

/-- The bit pattern of a finite number, or none when rounding overflows the format. -/
def encode (q : ℚ) : Option ℕ :=
  let code := magnitudeCode F |q|
  if F.infinityCode ≤ code then none
  else some (if q < 0 then F.signBit + code else code)

def magnitude (code : ℕ) : ℚ :=
  let exponent := code / 2 ^ F.fractionBits
  let fraction := code % 2 ^ F.fractionBits
  if exponent = 0 then fraction * 2 ^ (F.minExponent - F.fractionBits)
  else (2 ^ F.fractionBits + fraction : ℕ) *
    2 ^ (F.minExponent + (exponent - 1 : ℕ) - F.fractionBits)

/-- The nearest number of the format, or none when there is no finite one. -/
def nearest (q : ℚ) : Option ℚ :=
  let code := magnitudeCode F |q|
  if F.infinityCode ≤ code then none
  else some (if q < 0 then -magnitude F code else magnitude F code)

theorem encode_none_iff_nearest_none (q : ℚ) : encode F q = none ↔ nearest F q = none := by
  unfold encode nearest
  by_cases h : F.infinityCode ≤ magnitudeCode F |q|
  · simp [h]
  · simp [h]

theorem roundHalfEven_intCast (n : ℤ) : roundHalfEven n = n := by
  have hfloor : (n : ℚ).floor = n := Rat.floor_intCast n
  simp [roundHalfEven, hfloor]

theorem binaryExponent_spec {q : ℚ} (hq : 0 < q) :
    (2 : ℚ) ^ binaryExponent q ≤ q ∧ q < 2 ^ (binaryExponent q + 1) := by
  have hnum : 0 < q.num := Rat.num_pos.mpr hq
  have hden : 0 < q.den := q.den_pos
  obtain ⟨a, ha⟩ := Int.eq_ofNat_of_zero_le hnum.le
  have hapos : 0 < a := by omega
  have hval : q = a / q.den := by
    conv_lhs => rw [← Rat.num_div_den q, ha]
    rfl
  have hdenq : (0 : ℚ) < q.den := by exact_mod_cast hden
  by_cases h1 : 1 ≤ q
  · have hle : q.den ≤ a := by
      rw [hval, le_div_iff₀ hdenq, one_mul] at h1
      exact_mod_cast h1
    have hexp : binaryExponent q = (a / q.den).log2 := by
      simp [binaryExponent, h1, ha]
    have hpos : a / q.den ≠ 0 := by
      have := Nat.div_pos hle hden
      omega
    have hlow : 2 ^ (a / q.den).log2 * q.den ≤ a :=
      (Nat.le_div_iff_mul_le hden).mp (Nat.log2_self_le hpos)
    have hhigh : a < 2 ^ ((a / q.den).log2 + 1) * q.den :=
      (Nat.div_lt_iff_lt_mul hden).mp Nat.lt_log2_self
    rw [hexp]
    constructor
    · rw [hval, le_div_iff₀ hdenq, zpow_natCast, ← hval]
      exact_mod_cast hlow
    · rw [hval, div_lt_iff₀ hdenq, ← Nat.cast_succ, zpow_natCast, ← hval]
      exact_mod_cast hhigh
  · have hlt : a < q.den := by
      rw [hval, le_div_iff₀ hdenq, one_mul, not_le] at h1
      exact_mod_cast h1
    have hexp : binaryExponent q = -(((q.den - 1) / a).log2 + 1 : ℤ) := by
      simp [binaryExponent, h1, ha]
    have hpos : (q.den - 1) / a ≠ 0 := by
      have := Nat.div_pos (show a ≤ q.den - 1 by omega) hapos
      omega
    have hlow : 2 ^ ((q.den - 1) / a).log2 * a ≤ q.den - 1 :=
      (Nat.le_div_iff_mul_le hapos).mp (Nat.log2_self_le hpos)
    have hhigh : q.den - 1 < 2 ^ (((q.den - 1) / a).log2 + 1) * a :=
      (Nat.div_lt_iff_lt_mul hapos).mp Nat.lt_log2_self
    generalize ((q.den - 1) / a).log2 = k at hexp hlow hhigh
    have hk : (0 : ℚ) < 2 ^ k := by positivity
    have hk1 : (0 : ℚ) < 2 ^ (k + 1) := by positivity
    have hlowq : (2 : ℚ) ^ k * a < q.den := by
      exact_mod_cast (show 2 ^ k * a < q.den by omega)
    have hhighq : (q.den : ℚ) ≤ 2 ^ (k + 1) * a := by
      exact_mod_cast (show q.den ≤ 2 ^ (k + 1) * a by omega)
    have hpow : (2 : ℚ) ^ (-((k : ℤ) + 1)) = 1 / 2 ^ (k + 1) := by
      rw [zpow_neg, ← Nat.cast_succ, zpow_natCast, one_div]
    have hpow' : (2 : ℚ) ^ (-((k : ℤ) + 1) + 1) = 1 / 2 ^ k := by
      rw [neg_add, neg_add_cancel_right, zpow_neg, zpow_natCast, one_div]
    rw [hexp, hpow, hpow']
    constructor
    · rw [div_le_iff₀ hk1, mul_comm]
      calc (1 : ℚ) ≤ 2 ^ (k + 1) * a / q.den := (one_le_div hdenq).mpr hhighq
        _ = 2 ^ (k + 1) * q := by rw [mul_div_assoc, ← hval]
    · rw [lt_div_iff₀ hk, mul_comm]
      calc 2 ^ k * q = 2 ^ k * a / q.den := by rw [mul_div_assoc, ← hval]
        _ < 1 := (div_lt_one hdenq).mpr hlowq

theorem binaryExponent_eq {q : ℚ} {e : ℤ} (hlow : (2 : ℚ) ^ e ≤ q) (hhigh : q < 2 ^ (e + 1)) :
    binaryExponent q = e := by
  have hq : 0 < q := lt_of_lt_of_le (by positivity) hlow
  obtain ⟨h, h'⟩ := binaryExponent_spec hq
  have h1 : (2 : ℚ) ^ binaryExponent q < 2 ^ (e + 1) := lt_of_le_of_lt h hhigh
  have h2 : (2 : ℚ) ^ e < 2 ^ (binaryExponent q + 1) := lt_of_le_of_lt hlow h'
  rw [zpow_lt_zpow_iff_right₀ (by norm_num)] at h1 h2
  omega

theorem magnitude_nonneg (code : ℕ) : 0 ≤ magnitude F code := by
  simp only [magnitude]
  split <;> positivity

theorem magnitude_scale (f : ℕ) (e : ℤ) (n : ℕ) :
    (n : ℚ) * 2 ^ (e - f) * 2 ^ ((f : ℤ) - e) = n := by
  rw [mul_assoc, ← zpow_add₀ (by norm_num), sub_add_sub_cancel, sub_self, zpow_zero, mul_one]

theorem two_pow_scale (f : ℕ) (e : ℤ) : (2 : ℚ) ^ f * 2 ^ (e - f) = 2 ^ e := by
  rw [← zpow_natCast, ← zpow_add₀ (by norm_num), add_sub_cancel]

theorem roundHalfEven_natCast (n : ℕ) : roundHalfEven n = n := by
  exact_mod_cast roundHalfEven_intCast n

theorem magnitudeCode_magnitude (code : ℕ) : magnitudeCode F (magnitude F code) = code := by
  have hsplit := Nat.div_add_mod code (2 ^ F.fractionBits)
  have hfraction := Nat.mod_lt code (Nat.two_pow_pos F.fractionBits)
  simp only [magnitude]
  generalize code / 2 ^ F.fractionBits = exponent at *
  generalize code % 2 ^ F.fractionBits = fraction at *
  cases exponent with
  | zero =>
    rw [if_pos rfl]
    rw [Nat.mul_zero, Nat.zero_add] at hsplit
    have hscale := magnitude_scale F.fractionBits F.minExponent fraction
    by_cases hzero : fraction = 0
    · simp [magnitudeCode, hzero, ← hsplit]
    · have hq : (fraction : ℚ) * 2 ^ (F.minExponent - F.fractionBits) ≠ 0 := by positivity
      have hsmall : binaryExponent (fraction * 2 ^ (F.minExponent - F.fractionBits)) <
          F.minExponent := by
        have hlow := (binaryExponent_spec (lt_of_le_of_ne (by positivity) hq.symm)).1
        have hhigh : (fraction : ℚ) * 2 ^ (F.minExponent - F.fractionBits) < 2 ^ F.minExponent := by
          rw [← two_pow_scale F.fractionBits F.minExponent]
          apply mul_lt_mul_of_pos_right _ (by positivity)
          exact_mod_cast hfraction
        exact (zpow_lt_zpow_iff_right₀ (by norm_num)).mp (lt_of_le_of_lt hlow hhigh)
      simp only [magnitudeCode]
      rw [if_neg hq, max_eq_right hsmall.le, hscale, roundHalfEven_natCast]
      omega
  | succ x =>
    rw [if_neg (Nat.succ_ne_zero x), Nat.add_sub_cancel]
    have hscale := magnitude_scale F.fractionBits (F.minExponent + x)
      (2 ^ F.fractionBits + fraction)
    have hexp : binaryExponent ((2 ^ F.fractionBits + fraction : ℕ) *
        2 ^ (F.minExponent + x - F.fractionBits)) = F.minExponent + x := by
      have hpos : (0 : ℚ) < 2 ^ (F.minExponent + x - F.fractionBits) := by positivity
      apply binaryExponent_eq
      · rw [← two_pow_scale F.fractionBits (F.minExponent + x)]
        apply mul_le_mul_of_nonneg_right _ hpos.le
        exact_mod_cast Nat.le_add_right _ fraction
      · rw [zpow_add_one₀ (by norm_num), ← two_pow_scale F.fractionBits (F.minExponent + x),
          mul_right_comm]
        apply mul_lt_mul_of_pos_right _ hpos
        exact_mod_cast (show 2 ^ F.fractionBits + fraction < 2 ^ F.fractionBits * 2 by omega)
    have hq : ((2 ^ F.fractionBits + fraction : ℕ) : ℚ) *
        2 ^ (F.minExponent + x - F.fractionBits) ≠ 0 := by positivity
    simp only [magnitudeCode]
    rw [if_neg hq, hexp, max_eq_left (by omega), hscale, roundHalfEven_natCast,
      add_sub_cancel_left]
    rw [Nat.mul_succ, Nat.mul_comm] at hsplit
    have hsum : (x : ℤ) * 2 ^ F.fractionBits + ((2 ^ F.fractionBits + fraction : ℕ) : ℤ) =
        code := by
      rw [← hsplit]
      push_cast
      ring
    rw [hsum, Int.toNat_natCast]

theorem magnitude_eq_zero_iff (code : ℕ) : magnitude F code = 0 ↔ code = 0 := by
  constructor
  · intro h
    have hcode := magnitudeCode_magnitude F code
    rw [h] at hcode
    simpa [magnitudeCode] using hcode.symm
  · intro h
    simp [h, magnitude]

/-- A finite number of the format is coded exactly; zero loses its sign. -/
theorem encode_magnitude {code : ℕ} (h : code < F.infinityCode) (negative : Bool) :
    encode F (if negative then -magnitude F code else magnitude F code) =
      some (if negative ∧ code ≠ 0 then F.signBit + code else code) := by
  have habs : |if negative then -magnitude F code else magnitude F code| = magnitude F code := by
    cases negative <;> simp [abs_of_nonneg (magnitude_nonneg F code)]
  have hsign : (if negative then -magnitude F code else magnitude F code) < 0 ↔
      negative ∧ code ≠ 0 := by
    have hpos := magnitude_nonneg F code
    rw [ne_eq, ← magnitude_eq_zero_iff F code]
    cases negative with
    | false => simp [hpos]
    | true => simp [lt_iff_le_and_ne, hpos]
  simp only [encode, habs, magnitudeCode_magnitude, hsign]
  rw [if_neg (by omega)]

end BinaryFormat
