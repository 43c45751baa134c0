import Mathlib.Tactic.FieldSimp
import Mathlib.Tactic.Ring
import Watlowlib.BinaryFormat

/-! # How far rounding goes

Rounding to an integer moves a number by at most one half, rounding into a binary format by at most
half a unit in the last place: a share of the number itself, or of the smallest normal number. -/
namespace RoundingErrors

open BinaryFormat

theorem roundHalfEven_error (q : ℚ) : |(roundHalfEven q : ℚ) - q| ≤ 1 / 2 := by
  have hlow : (q.floor : ℚ) ≤ q := Rat.floor_le q
  have hhigh : q < q.floor + 1 := by exact_mod_cast Rat.lt_floor_add_one q
  simp only [roundHalfEven]
  split_ifs with h1 h2 h3
  · rw [abs_le]
    constructor <;> linarith
  · rw [abs_le]
    push_cast
    constructor <;> linarith
  · rw [abs_le]
    constructor <;> linarith
  · rw [abs_le]
    push_cast
    constructor <;> linarith

theorem roundHalfEven_le {q : ℚ} {n : ℤ} (h : q ≤ n) : roundHalfEven q ≤ n := by
  have herror := (abs_le.mp (roundHalfEven_error q)).2
  have hlt : (roundHalfEven q : ℚ) < n + 1 := by linarith
  exact_mod_cast Int.lt_add_one_iff.mp (by exact_mod_cast hlt)

theorem le_roundHalfEven {q : ℚ} {n : ℤ} (h : (n : ℚ) ≤ q) : n ≤ roundHalfEven q := by
  have herror := (abs_le.mp (roundHalfEven_error q)).1
  have hlt : (n : ℚ) < roundHalfEven q + 1 := by linarith
  exact_mod_cast Int.lt_add_one_iff.mp (by exact_mod_cast hlt)

section Magnitudes

variable (F : Format)

theorem magnitude_code {k m : ℕ} (hnormal : 2 ^ F.fractionBits ≤ m ∨ k = 0)
    (hfits : m ≤ 2 * 2 ^ F.fractionBits) :
    magnitude F (k * 2 ^ F.fractionBits + m) = m * 2 ^ (F.minExponent + k - F.fractionBits) := by
  have hpos : 0 < 2 ^ F.fractionBits := Nat.two_pow_pos _
  simp only [magnitude]
  generalize 2 ^ F.fractionBits = b at *
  by_cases hsmall : m < b
  · have hk : k = 0 := hnormal.resolve_left (by omega)
    subst hk
    rw [Nat.zero_mul, Nat.zero_add, Nat.div_eq_of_lt hsmall, Nat.mod_eq_of_lt hsmall, if_pos rfl]
    simp
  · by_cases hfull : m < 2 * b
    · have hcode : k * b + m = (m - b) + b * (k + 1) := by
        rw [Nat.mul_succ, Nat.mul_comm]
        omega
      rw [hcode, Nat.add_mul_div_left _ _ hpos, Nat.add_mul_mod_self_left,
        Nat.div_eq_of_lt (by omega), Nat.mod_eq_of_lt (by omega), if_neg (by omega)]
      have hsum : b + (m - b) = m := by omega
      have hexp : 0 + (k + 1) - 1 = k := by omega
      rw [hsum, hexp]
    · have hm : m = 2 * b := by omega
      have hcode : k * b + m = 0 + b * (k + 2) := by
        rw [hm, Nat.mul_add, Nat.mul_comm k]
        omega
      rw [hcode, Nat.add_mul_div_left _ _ hpos, Nat.add_mul_mod_self_left, Nat.zero_div,
        Nat.zero_mod, if_neg (by omega), hm]
      have hexp : 0 + (k + 2) - 1 = k + 1 := by omega
      have hpow : F.minExponent + ((k + 1 : ℕ) : ℤ) - F.fractionBits =
          F.minExponent + k - F.fractionBits + 1 := by
        push_cast
        ring
      rw [hexp, hpow, zpow_add_one₀ (by norm_num)]
      push_cast
      ring

theorem fraction_fits {a : ℚ} {e : ℤ} (ha : 0 ≤ a) (hhigh : a < 2 ^ (e + 1)) :
    0 ≤ roundHalfEven (a * 2 ^ ((F.fractionBits : ℤ) - e)) ∧
      roundHalfEven (a * 2 ^ ((F.fractionBits : ℤ) - e)) ≤ 2 * 2 ^ F.fractionBits ∧
      (2 ^ e ≤ a →
        (2 : ℤ) ^ F.fractionBits ≤ roundHalfEven (a * 2 ^ ((F.fractionBits : ℤ) - e))) := by
  have hscale : (0 : ℚ) < 2 ^ ((F.fractionBits : ℤ) - e) := by positivity
  have hpow : (2 : ℚ) ^ e * 2 ^ ((F.fractionBits : ℤ) - e) = 2 ^ F.fractionBits := by
    rw [← zpow_add₀ (by norm_num), add_sub_cancel, zpow_natCast]
  refine ⟨?_, ?_, ?_⟩
  · apply le_roundHalfEven
    push_cast
    positivity
  · apply roundHalfEven_le
    have hbound := mul_lt_mul_of_pos_right hhigh hscale
    rw [zpow_add_one₀ (by norm_num), mul_right_comm, hpow] at hbound
    push_cast
    linarith
  · intro hlow
    apply le_roundHalfEven
    have hbound := mul_le_mul_of_nonneg_right hlow hscale.le
    rw [hpow] at hbound
    push_cast
    exact hbound

theorem magnitudeCode_parts {a : ℚ} (ha : 0 < a) :
    ∃ k m : ℕ, magnitudeCode F a = k * 2 ^ F.fractionBits + m ∧
      (m : ℤ) = roundHalfEven (a * 2 ^ ((F.fractionBits : ℤ) - (F.minExponent + k))) ∧
      a < 2 ^ (F.minExponent + k + 1) ∧ ((2 : ℚ) ^ (F.minExponent + k) ≤ a ∨ k = 0) := by
  obtain ⟨hlow, hhigh⟩ := binaryExponent_spec ha
  generalize he : max (binaryExponent a) F.minExponent = e
  have hmin : F.minExponent ≤ e := he ▸ le_max_right _ _
  have hbin : binaryExponent a ≤ e := he ▸ le_max_left _ _
  have hwhich : (2 : ℚ) ^ e ≤ a ∨ e = F.minExponent := by
    rcases max_choice (binaryExponent a) F.minExponent with h | h
    · exact Or.inl (by rw [← he, h]; exact hlow)
    · exact Or.inr (he.symm.trans h)
  have hbelow : a < 2 ^ (e + 1) :=
    lt_of_lt_of_le hhigh (zpow_le_zpow_right₀ (by norm_num) (by omega))
  have hcode : magnitudeCode F a = ((e - F.minExponent) * 2 ^ F.fractionBits +
      roundHalfEven (a * 2 ^ ((F.fractionBits : ℤ) - e))).toNat := by
    simp only [magnitudeCode, if_neg ha.ne', he]
  obtain ⟨k, hk⟩ := Int.eq_ofNat_of_zero_le (sub_nonneg.mpr hmin)
  have hexp : e = F.minExponent + k := by omega
  subst hexp
  obtain ⟨m, hm⟩ := Int.eq_ofNat_of_zero_le (fraction_fits F ha.le hbelow).1
  refine ⟨k, m, ?_, hm.symm, hbelow, hwhich.imp_right (by omega)⟩
  rw [hcode, hk, hm]
  exact_mod_cast Int.toNat_natCast _

theorem magnitudeCode_form {a : ℚ} (ha : 0 < a) :
    ∃ e : ℤ, F.minExponent ≤ e ∧ ((2 : ℚ) ^ e ≤ a ∨ e = F.minExponent) ∧
      (magnitudeCode F a : ℤ) ≤ (e - F.minExponent + 2) * 2 ^ F.fractionBits ∧
      magnitude F (magnitudeCode F a) =
        roundHalfEven (a * 2 ^ ((F.fractionBits : ℤ) - e)) * 2 ^ (e - F.fractionBits) := by
  obtain ⟨k, m, hcode, hm, hbelow, hwhich⟩ := magnitudeCode_parts F ha
  obtain ⟨-, hfits, hfull⟩ := fraction_fits F ha.le hbelow
  have hnormal : 2 ^ F.fractionBits ≤ m ∨ k = 0 := by
    rcases hwhich with h | h
    · exact Or.inl (by exact_mod_cast hm ▸ hfull h)
    · exact Or.inr h
  have hm2 : m ≤ 2 * 2 ^ F.fractionBits := by exact_mod_cast hm ▸ hfits
  refine ⟨F.minExponent + k, by omega, hwhich.imp_right (by omega), ?_, ?_⟩
  · rw [hcode]
    push_cast
    have : (m : ℤ) ≤ 2 * 2 ^ F.fractionBits := by exact_mod_cast hm2
    linarith
  · rw [hcode, magnitude_code F hnormal hm2, ← hm]
    push_cast
    rfl

theorem nearest_abs {q r : ℚ} (h : nearest F q = some r) :
    r = (if q < 0 then -1 else 1) * magnitude F (magnitudeCode F |q|) := by
  simp only [nearest] at h
  split at h
  · cases h
  · by_cases hq : q < 0
    · simp only [hq, if_true, Option.some.injEq] at h ⊢
      rw [← h]
      ring
    · simp only [hq, if_false, Option.some.injEq] at h ⊢
      rw [← h]
      ring

theorem sign_mul_abs (q : ℚ) : (if q < 0 then -1 else 1) * |q| = q := by
  by_cases hq : q < 0
  · rw [if_pos hq, abs_of_neg hq]
    ring
  · rw [if_neg hq, abs_of_nonneg (not_lt.mp hq), one_mul]

/-- Half a unit in the last place of a number, and of the smallest normal one. -/
def slack (q : ℚ) : ℚ :=
  |q| * (2 ^ (F.fractionBits + 1))⁻¹ + 2 ^ (F.minExponent - F.fractionBits - 1)

theorem nearest_diff {q r : ℚ} (h : nearest F q = some r) :
    |r - q| = |magnitude F (magnitudeCode F (abs q)) - abs q| := by
  have hsign : |(if q < 0 then -1 else 1 : ℚ)| = 1 := by split <;> simp
  have hvalue := nearest_abs F h
  calc |r - q| = |(if q < 0 then -1 else 1) * magnitude F (magnitudeCode F (abs q)) -
        (if q < 0 then -1 else 1) * abs q| := by rw [sign_mul_abs, ← hvalue]
    _ = |magnitude F (magnitudeCode F (abs q)) - abs q| := by
      rw [← mul_sub, abs_mul, hsign, one_mul]

theorem half_unit_le {a : ℚ} {e : ℤ} (ha : 0 ≤ a) (h : (2 : ℚ) ^ e ≤ a ∨ e = F.minExponent) :
    1 / 2 * 2 ^ (e - F.fractionBits) ≤ slack F a := by
  have hsmall : (0 : ℚ) ≤ 2 ^ (F.minExponent - F.fractionBits - 1) := by positivity
  have hshare : 0 ≤ a * ((2 : ℚ) ^ (F.fractionBits + 1))⁻¹ := by positivity
  rw [slack, abs_of_nonneg ha]
  rcases h with h | h
  · have hhalf : (1 : ℚ) / 2 * 2 ^ (e - F.fractionBits) =
        2 ^ e * ((2 : ℚ) ^ (F.fractionBits + 1))⁻¹ := by
      rw [zpow_sub₀ (by norm_num), zpow_natCast, pow_succ]
      field_simp
    have hinv : (0 : ℚ) ≤ ((2 : ℚ) ^ (F.fractionBits + 1))⁻¹ := by positivity
    have hle := mul_le_mul_of_nonneg_right h hinv
    rw [hhalf]
    linarith
  · have hhalf : (1 : ℚ) / 2 * 2 ^ (e - F.fractionBits) =
        2 ^ (F.minExponent - F.fractionBits - 1) := by
      rw [h, zpow_sub_one₀ (by norm_num)]
      ring
    rw [hhalf]
    linarith

/-- The nearest number of the format is within half a unit in the last place. -/
theorem nearest_error {q r : ℚ} (h : nearest F q = some r) : |r - q| ≤ slack F q := by
  have hslack : slack F (abs q) = slack F q := by rw [slack, slack, abs_abs]
  rw [nearest_diff F h, ← hslack]
  by_cases hq : q = 0
  · subst hq
    have hzero : magnitude F 0 = 0 := (magnitude_eq_zero_iff F 0).mpr rfl
    simp only [abs_zero, magnitudeCode, if_true, hzero, sub_zero, slack, zero_mul, zero_add]
    positivity
  · obtain ⟨e, -, hwhich, -, hform⟩ := magnitudeCode_form F (abs_pos.mpr hq)
    have hunit : (0 : ℚ) < 2 ^ (e - F.fractionBits) := by positivity
    have hback : abs q * 2 ^ ((F.fractionBits : ℤ) - e) * 2 ^ (e - F.fractionBits) = abs q := by
      rw [mul_assoc, ← zpow_add₀ (by norm_num)]
      simp
    have hround : |magnitude F (magnitudeCode F (abs q)) - abs q| ≤
        1 / 2 * 2 ^ (e - F.fractionBits) := by
      rw [hform]
      nth_rewrite 2 [← hback]
      rw [← sub_mul, abs_mul, abs_of_pos hunit]
      exact mul_le_mul_of_nonneg_right (roundHalfEven_error _) hunit.le
    exact hround.trans (half_unit_le F (abs_nonneg q) hwhich)

theorem magnitudeCode_intCast {i : ℤ} (hpos : (0 : ℚ) < abs (i : ℚ))
    (hi : |i| < 2 ^ (F.fractionBits + 1)) (hmin : F.minExponent ≤ F.fractionBits) :
    (magnitudeCode F (abs (i : ℚ)) : ℤ) ≤
        ((F.fractionBits : ℤ) - F.minExponent + 2) * 2 ^ F.fractionBits ∧
      magnitude F (magnitudeCode F (abs (i : ℚ))) = abs (i : ℚ) := by
  obtain ⟨e, -, hwhich, hbound, hform⟩ := magnitudeCode_form F hpos
  have hexp : e ≤ F.fractionBits := by
    rcases hwhich with hle | rfl
    · have hlt : (2 : ℚ) ^ e < 2 ^ ((F.fractionBits : ℤ) + 1) := by
        refine lt_of_le_of_lt hle ?_
        exact_mod_cast hi
      have hbelow := (zpow_lt_zpow_iff_right₀ (by norm_num : (1 : ℚ) < 2)).mp hlt
      omega
    · exact hmin
  obtain ⟨k, hk⟩ := Int.eq_ofNat_of_zero_le (sub_nonneg.mpr hexp)
  have hint : abs (i : ℚ) * 2 ^ ((F.fractionBits : ℤ) - e) = ((|i| * 2 ^ k : ℤ) : ℚ) := by
    rw [hk]
    push_cast
    rfl
  constructor
  · have hpow : (0 : ℤ) ≤ 2 ^ F.fractionBits := by positivity
    exact hbound.trans (mul_le_mul_of_nonneg_right (by omega) hpow)
  · rw [hform, hint, roundHalfEven_intCast, ← hint, mul_assoc, ← zpow_add₀ (by norm_num)]
    simp

theorem nearest_intCast {i : ℤ} (hi : |i| < 2 ^ (F.fractionBits + 1))
    (hmin : F.minExponent ≤ F.fractionBits)
    (hmax : ((F.fractionBits : ℤ) - F.minExponent + 2) * 2 ^ F.fractionBits < F.infinityCode) :
    nearest F i = some (i : ℚ) := by
  have hcode : magnitudeCode F (abs (i : ℚ)) < F.infinityCode ∧
      magnitude F (magnitudeCode F (abs (i : ℚ))) = abs (i : ℚ) := by
    by_cases hzero : i = 0
    · have hnonneg : 0 ≤ (F.fractionBits : ℤ) - F.minExponent + 2 := by omega
      have hpos : (0 : ℤ) < F.infinityCode :=
        lt_of_le_of_lt (mul_nonneg hnonneg (by positivity)) hmax
      subst hzero
      simp only [Int.cast_zero, abs_zero, magnitudeCode, if_true, magnitude_eq_zero_iff, and_true]
      exact_mod_cast hpos
    · obtain ⟨hle, hvalue⟩ :=
        magnitudeCode_intCast F (abs_pos.mpr (by exact_mod_cast hzero)) hi hmin
      exact ⟨by exact_mod_cast lt_of_le_of_lt hle hmax, hvalue⟩
  simp only [nearest, if_neg (not_le.mpr hcode.1), hcode.2, Option.some.injEq]
  have hsign := sign_mul_abs (i : ℚ)
  by_cases hneg : (i : ℚ) < 0
  · rw [if_pos hneg] at hsign ⊢
    linarith
  · rw [if_neg hneg] at hsign ⊢
    linarith

end Magnitudes

/-! ## Where a format overflows -/

section Overflow

theorem even_le_roundHalfEven_iff {q : ℚ} {n : ℤ} (hn : n % 2 = 0) :
    n ≤ roundHalfEven q ↔ (n : ℚ) - 1 / 2 ≤ q := by
  have hlow : (q.floor : ℚ) ≤ q := Rat.floor_le q
  have hhigh : q < q.floor + 1 := by exact_mod_cast Rat.lt_floor_add_one q
  constructor
  · intro h
    have herror := (abs_le.mp (roundHalfEven_error q)).2
    have hcast : (n : ℚ) ≤ roundHalfEven q := by exact_mod_cast h
    linarith
  · intro h
    by_cases hfloor : n ≤ q.floor
    · exact le_roundHalfEven ((Int.cast_le.mpr hfloor).trans hlow)
    · have hnext : n = q.floor + 1 := by
        have hlt : (n : ℚ) < q.floor + 2 := by linarith
        have hlt' : n < q.floor + 2 := by exact_mod_cast hlt
        omega
      subst hnext
      have hodd : ¬ q.floor % 2 = 0 := by omega
      push_cast at h
      simp only [roundHalfEven, if_neg hodd]
      split_ifs with h1 h2
      · linarith
      · exact le_refl _
      · exact le_refl _

variable (F : Format)

def maxExponent : ℤ := F.minExponent + (2 ^ F.exponentBits - 3)

/-- Half a unit in the last place past the largest number of the format. -/
def overflowThreshold : ℚ :=
  (2 ^ (F.fractionBits + 2) - 1) * 2 ^ (maxExponent F - F.fractionBits - 1)

theorem overflowThreshold_bounds :
    (2 : ℚ) ^ maxExponent F ≤ overflowThreshold F ∧
      overflowThreshold F ≤ 2 ^ (maxExponent F + 1) := by
  have hunit : (0 : ℚ) < 2 ^ (maxExponent F - F.fractionBits - 1) := by positivity
  have hone : (1 : ℚ) ≤ 2 ^ (F.fractionBits + 1) := one_le_pow₀ (by norm_num)
  have hpow : ∀ n : ℕ, (2 : ℚ) ^ (F.fractionBits + n) *
      2 ^ (maxExponent F - F.fractionBits - 1) = 2 ^ (maxExponent F + (n - 1)) := by
    intro n
    rw [← zpow_natCast, ← zpow_add₀ (by norm_num)]
    congr 1
    push_cast
    ring
  have h1 := hpow 1
  have h2 := hpow 2
  have hdouble : (2 : ℚ) ^ (F.fractionBits + 2) = 2 * 2 ^ (F.fractionBits + 1) := by ring
  norm_num at h1 h2
  rw [overflowThreshold]
  constructor
  · rw [← h1]
    exact mul_le_mul_of_nonneg_right (by linarith) hunit.le
  · rw [← h2]
    exact mul_le_mul_of_nonneg_right (by linarith) hunit.le

theorem overflowThreshold_eq :
    overflowThreshold F = ((2 * 2 ^ F.fractionBits : ℤ) - 1 / 2 : ℚ) *
      2 ^ (maxExponent F - F.fractionBits) := by
  have hhalf : (2 : ℚ) ^ (maxExponent F - F.fractionBits) =
      2 ^ (maxExponent F - F.fractionBits - 1) * 2 := by
    rw [← zpow_add_one₀ (by norm_num), sub_add_cancel]
  have hfull : (2 : ℚ) ^ (F.fractionBits + 2) = 2 ^ F.fractionBits * 4 := by
    rw [pow_add]
    norm_num
  rw [overflowThreshold, hhalf, hfull]
  push_cast
  ring

theorem infinityCode_le_iff (hwidth : 2 ≤ F.exponentBits) {a : ℚ} (ha : 0 < a) :
    F.infinityCode ≤ magnitudeCode F a ↔ overflowThreshold F ≤ a := by
  obtain ⟨k, m, hcode, hm, hbelow, hwhich⟩ := magnitudeCode_parts F ha
  obtain ⟨-, hfits, hfull⟩ := fraction_fits F ha.le hbelow
  obtain ⟨hlow, hhigh⟩ := overflowThreshold_bounds F
  have hfield : 4 ≤ 2 ^ F.exponentBits := Nat.pow_le_pow_right Nat.two_pos hwidth
  obtain ⟨top, htop⟩ := Nat.exists_eq_add_of_le (show 3 ≤ 2 ^ F.exponentBits by omega)
  have hmax : maxExponent F = F.minExponent + top := by
    have hcast : (2 : ℤ) ^ F.exponentBits = 3 + top := by exact_mod_cast htop
    rw [maxExponent, hcast]
    ring
  have hinf : F.infinityCode = top * 2 ^ F.fractionBits + 2 * 2 ^ F.fractionBits := by
    rw [Format.infinityCode, htop, ← Nat.add_mul]
    congr 1
    omega
  have hm2 : m ≤ 2 * 2 ^ F.fractionBits := by exact_mod_cast hm ▸ hfits
  rw [hcode, hinf]
  rcases lt_trichotomy k top with hk | rfl | hk
  · -- Below the largest exponent even a full fraction stays short of the all-ones field.
    have hblock : (k + 1) * 2 ^ F.fractionBits ≤ top * 2 ^ F.fractionBits :=
      Nat.mul_le_mul_right _ hk
    have hpos : 0 < 2 ^ F.fractionBits := Nat.two_pow_pos _
    have hshort : a < overflowThreshold F := by
      refine lt_of_lt_of_le (hbelow.trans_le ?_) hlow
      exact zpow_le_zpow_right₀ (by norm_num) (by omega)
    constructor
    · intro h
      rw [Nat.add_mul, Nat.one_mul] at hblock
      omega
    · exact fun h => absurd hshort (not_lt.mpr h)
  · have hscale : (0 : ℚ) < 2 ^ (maxExponent F - F.fractionBits) := by positivity
    have heven : ((2 * 2 ^ F.fractionBits : ℤ)) % 2 = 0 := Int.mul_emod_right 2 _
    have hround := even_le_roundHalfEven_iff heven
      (q := a * 2 ^ ((F.fractionBits : ℤ) - (F.minExponent + k)))
    rw [← hm] at hround
    have hback : a * 2 ^ ((F.fractionBits : ℤ) - (F.minExponent + k)) *
        2 ^ (maxExponent F - F.fractionBits) = a := by
      rw [mul_assoc, ← zpow_add₀ (by norm_num), hmax]
      simp
    calc k * 2 ^ F.fractionBits + 2 * 2 ^ F.fractionBits ≤ k * 2 ^ F.fractionBits + m
        ↔ 2 * 2 ^ F.fractionBits ≤ m := Nat.add_le_add_iff_left
      _ ↔ (2 * 2 ^ F.fractionBits : ℤ) ≤ m := by exact_mod_cast Iff.rfl
      _ ↔ overflowThreshold F ≤ a := by
        rw [hround, overflowThreshold_eq, ← mul_le_mul_iff_of_pos_right hscale, hback]
  · have hblock : (top + 1) * 2 ^ F.fractionBits ≤ k * 2 ^ F.fractionBits :=
      Nat.mul_le_mul_right _ hk
    have hreach : (2 : ℚ) ^ (F.minExponent + k) ≤ a := hwhich.resolve_right (by omega)
    have hm1 : 2 ^ F.fractionBits ≤ m := by exact_mod_cast hm ▸ hfull hreach
    have hpast : overflowThreshold F ≤ a := by
      refine (hhigh.trans ?_).trans hreach
      exact zpow_le_zpow_right₀ (by norm_num) (by omega)
    rw [Nat.add_mul, Nat.one_mul] at hblock
    exact iff_of_true (by omega) hpast

/-- A number has a nearest one in the format exactly below the threshold. -/
theorem nearest_none_iff (hwidth : 2 ≤ F.exponentBits) {q : ℚ} :
    nearest F q = none ↔ overflowThreshold F ≤ |q| := by
  have hnone : nearest F q = none ↔ F.infinityCode ≤ magnitudeCode F |q| := by
    simp only [nearest]
    split
    · simp [*]
    · simp [*]
  rw [hnone]
  by_cases hq : q = 0
  · have hcode : magnitudeCode F |q| = 0 := by simp [hq, magnitudeCode]
    have hinf : 0 < F.infinityCode := by
      have hfield : 4 ≤ 2 ^ F.exponentBits := Nat.pow_le_pow_right Nat.two_pos hwidth
      exact Nat.mul_pos (by omega) (Nat.two_pow_pos _)
    have hpos : 0 < overflowThreshold F :=
      lt_of_lt_of_le (by positivity) (overflowThreshold_bounds F).1
    rw [hcode, hq, abs_zero]
    constructor
    · intro h
      omega
    · exact fun h => absurd hpos (not_lt.mpr h)
  · exact infinityCode_le_iff F hwidth (abs_pos.mpr hq)

end Overflow

end RoundingErrors
