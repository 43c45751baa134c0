import Mathlib.Data.Rat.Floor
import Mathlib.Tactic.NormNum
import Watlowlib.Quantiles

/-! # The tick percentiles of a recording

`_tick_percentiles` over exact durations. Every index can be out of bounds, and none is. -/
namespace TickPercentiles

open Quantiles

/-- `int(k)` -/
def truncate (k : ℚ) : ℤ := if k < 0 then ⌈k⌉ else ⌊k⌋

/-- `sorted_v[i]`. A negative index would count from the end, and counts as out of bounds here. -/
def index (sortedV : List ℚ) (i : ℤ) : Option ℚ :=
  if i < 0 then none else sortedV[i.toNat]?

def interpolated (sortedV : List ℚ) (n : ℤ) (p : ℚ) : Option ℚ :=
  let k := (n - 1) * p
  let f := truncate k
  let c := min (f + 1) (n - 1)
  if f = c then index sortedV f
  else do
    let below ← index sortedV f
    let above ← index sortedV c
    some (below * (c - k) + above * (k - f))

/-- `_tick_percentiles`; nothing where the code would raise an `IndexError`. -/
def tickPercentiles (values : List ℚ) : Option (ℚ × ℚ) :=
  if values.isEmpty then some (0, 0)
  else
    let sortedV := ascending values
    let n : ℤ := sortedV.length
    if n = 1 then do
      let v ← index sortedV 0
      some (v, v)
    else do
      let p50 ← interpolated sortedV n (1 / 2)
      let p99 ← interpolated sortedV n (99 / 100)
      some (p50, p99)

theorem truncate_eq {k : ℚ} (hk : 0 ≤ k) : truncate k = ⌊k⌋₊ := by
  rw [truncate, if_neg (not_lt.mpr hk), Int.natCast_floor_eq_floor hk]

section Ranks

variable {values : List ℚ}

theorem index_eq (hne : values ≠ []) {i : ℕ} (hi : i ≤ values.length - 1) :
    index (ascending values) i = some (valueOfRank 0 values i) := by
  have hmin : min i (values.length - 1) = i := min_eq_left hi
  have hlt : i < (ascending values).length := hmin ▸ rank_lt hne i
  have hnonneg : ¬ (i : ℤ) < 0 := by omega
  rw [index, if_neg hnonneg, Int.toNat_natCast, List.getElem?_eq_getElem hlt, valueOfRank_eq hne]
  simp [hmin]

theorem interpolated_eq (hne : values ≠ []) {p : ℚ} (hp : 0 ≤ p) (hp' : p ≤ 1) :
    interpolated (ascending values) (ascending values).length p = some (quantile values p) := by
  obtain ⟨last, hlast⟩ : ∃ last, values.length = last + 1 :=
    ⟨values.length - 1, (Nat.succ_pred_eq_of_pos (List.length_pos_iff.mpr hne)).symm⟩
  have hcount : ((ascending values).length : ℤ) = last + 1 := by
    rw [ascending_length, hlast]
    rfl
  have hrank : values.length - 1 = last := by omega
  have hplace : (((last + 1 : ℤ) : ℚ) - 1) * p = last * p := by
    push_cast
    ring
  have hnonneg : 0 ≤ (last : ℚ) * p := mul_nonneg (Nat.cast_nonneg _) hp
  have hwithin : (last : ℚ) * p ≤ last := mul_le_of_le_one_right (Nat.cast_nonneg _) hp'
  have hfloor : ⌊(last : ℚ) * p⌋₊ ≤ last := Nat.floor_le_of_le hwithin
  simp only [interpolated, hcount, hplace, truncate_eq hnonneg, add_sub_cancel_right, quantile,
    hrank]
  by_cases hend : ⌊(last : ℚ) * p⌋₊ = last
  · -- The place is the last rank itself.
    have hreached : ((⌊(last : ℚ) * p⌋₊ : ℕ) : ℚ) ≤ last * p := Nat.floor_le hnonneg
    rw [hend] at hreached
    have hplace : (last : ℚ) * p = last := le_antisymm hwithin hreached
    have hmin : min ((last : ℤ) + 1) last = last := min_eq_right (by omega)
    rw [hend, if_pos hmin.symm, hplace, interpolate_natCast]
    exact index_eq hne (by omega)
  · have hmin : min ((⌊(last : ℚ) * p⌋₊ : ℤ) + 1) last = ((⌊(last : ℚ) * p⌋₊ + 1 : ℕ) : ℤ) := by
      push_cast
      exact min_eq_left (by omega)
    have hdistinct : ¬ (⌊(last : ℚ) * p⌋₊ : ℤ) = ((⌊(last : ℚ) * p⌋₊ + 1 : ℕ) : ℤ) := by omega
    rw [hmin, if_neg hdistinct, index_eq hne (by omega), index_eq hne (by omega),
      interpolate_eq_weighted]
    rfl

theorem tickPercentiles_eq (values : List ℚ) :
    tickPercentiles values = some (quantile values (1 / 2), quantile values (99 / 100)) := by
  by_cases hne : values = []
  · subst hne
    have hzero : ∀ p : ℚ, quantile ([] : List ℚ) p = 0 := by
      intro p
      simp [quantile, interpolate, valueOfRank, ascending]
    rw [hzero, hzero]
    rfl
  · have hsome : ¬ values.isEmpty = true := by simpa using hne
    rw [tickPercentiles, if_neg hsome]
    by_cases hone : ((ascending values).length : ℤ) = 1
    · -- The place is rank 0, wherever the quantile is taken.
      have hlength : values.length = 1 := by
        rw [ascending_length] at hone
        omega
      have hplace : ∀ p : ℚ, quantile values p = valueOfRank 0 values 0 := by
        intro p
        rw [quantile, hlength]
        simp [interpolate]
      simp only [if_pos hone, hplace]
      rw [← Nat.cast_zero, index_eq hne (Nat.zero_le _)]
      rfl
    · simp only [if_neg hone]
      rw [interpolated_eq hne (by norm_num) (by norm_num),
        interpolated_eq hne (by norm_num) (by norm_num)]
      rfl

end Ranks

/-- No index is out of bounds, and the percentiles are the interpolated quantiles at 1/2 and
99/100. They do not depend on the order of the durations, lie between the least and the greatest of
them, and are not lowered by a duration that is raised. -/
theorem tickPercentiles_quantiles (values : List ℚ) :
    ∃ p50 p99, tickPercentiles values = some (p50, p99) ∧
      p50 = quantile values (1 / 2) ∧ p99 = quantile values (99 / 100) ∧
      (∀ other, other.Perm values → tickPercentiles other = some (p50, p99)) ∧
      (values ≠ [] → ∃ least greatest, IsLeast {v | v ∈ values} least ∧
        IsGreatest {v | v ∈ values} greatest ∧ least ≤ p50 ∧ p50 ≤ p99 ∧ p99 ≤ greatest) ∧
      ∀ front v back w, values = front ++ v :: back → v ≤ w →
        ∃ r50 r99, tickPercentiles (front ++ w :: back) = some (r50, r99) ∧
          p50 ≤ r50 ∧ p99 ≤ r99 := by
  refine ⟨_, _, tickPercentiles_eq values, rfl, rfl, ?_, ?_, ?_⟩
  · intro other hperm
    rw [tickPercentiles_eq, quantile_eq_of_perm hperm, quantile_eq_of_perm hperm]
  · intro hne
    exact ⟨_, _, isLeast_quantile_zero hne, isGreatest_quantile_one hne,
      quantile_mono values le_rfl (by norm_num), quantile_mono values (by norm_num) (by norm_num),
      quantile_mono values (by norm_num) (by norm_num)⟩
  · rintro front v back w rfl hraise
    have hforall : List.Forall₂ (· ≤ ·) (front ++ v :: back) (front ++ w :: back) :=
      List.rel_append (List.forall₂_refl front) (.cons hraise (List.forall₂_refl back))
    exact ⟨_, _, tickPercentiles_eq _, quantile_le_of_forall₂ hforall (by norm_num),
      quantile_le_of_forall₂ hforall (by norm_num)⟩

end TickPercentiles
