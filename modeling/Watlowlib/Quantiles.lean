import Mathlib.Algebra.Order.Floor.Semifield
import Mathlib.Data.List.GetD
import Mathlib.Data.List.Pairwise
import Mathlib.Data.List.Sort
import Mathlib.Order.Bounds.Basic
import Mathlib.Tactic.GCongr
import Mathlib.Tactic.Linarith
import Mathlib.Tactic.Ring

/-! # Order statistics and interpolated quantiles

The values of a list by their rank, and the piecewise linear function through them. -/
namespace Quantiles

/-! ## Ranks -/

section Ranks

variable {α : Type*} [LinearOrder α]

def ascending (l : List α) : List α := l.insertionSort (· ≤ ·)

theorem ascending_pairwise (l : List α) : (ascending l).Pairwise (· ≤ ·) :=
  List.pairwise_insertionSort (· ≤ ·) l

theorem ascending_perm (l : List α) : (ascending l).Perm l := List.perm_insertionSort (· ≤ ·) l

theorem ascending_length (l : List α) : (ascending l).length = l.length :=
  List.length_insertionSort (· ≤ ·) l

theorem ascending_eq_of_perm {l m : List α} (h : l.Perm m) : ascending l = ascending m :=
  ((ascending_perm l).trans (h.trans (ascending_perm m).symm)).eq_of_pairwise'
    (ascending_pairwise l) (ascending_pairwise m)

theorem getElem_le_iff {l : List α} (hl : l.Pairwise (· ≤ ·)) {i : ℕ} (hi : i < l.length) (t : α) :
    l[i] ≤ t ↔ i < l.countP (· ≤ t) := by
  induction l generalizing i with
  | nil => exact absurd hi (Nat.not_lt_zero i)
  | cons a l ih =>
    obtain ⟨hhead, htail⟩ := List.pairwise_cons.mp hl
    by_cases ha : a ≤ t
    · rw [List.countP_cons_of_pos (by simpa using ha)]
      cases i with
      | zero => exact iff_of_true ha (Nat.succ_pos _)
      | succ i => exact (ih htail (Nat.lt_of_succ_lt_succ hi)).trans Nat.succ_lt_succ_iff.symm
    · -- Nothing behind a value above `t` is at most `t`.
      have hnone : (a :: l).countP (· ≤ t) = 0 := by
        rw [List.countP_eq_zero]
        intro b hb
        rcases List.mem_cons.mp hb with rfl | hb
        · simpa using ha
        · simpa using lt_of_lt_of_le (not_le.mp ha) (hhead b hb)
      have habove : ¬ (a :: l)[i] ≤ t := by
        cases i with
        | zero => exact ha
        | succ i =>
          exact not_le.mpr (lt_of_lt_of_le (not_le.mp ha) (hhead _ (List.getElem_mem _)))
      exact iff_of_false habove (by omega)

theorem countP_le_of_forall₂ {l m : List α} (h : List.Forall₂ (· ≤ ·) l m) (t : α) :
    m.countP (· ≤ t) ≤ l.countP (· ≤ t) := by
  induction h with
  | nil => exact le_rfl
  | @cons a b l m hab _ ih =>
    rw [List.countP_cons, List.countP_cons]
    by_cases hb : b ≤ t
    · have ha : a ≤ t := hab.trans hb
      simpa [ha, hb] using ih
    · simpa [hb] using ih.trans (Nat.le_add_right _ _)

theorem ascending_getElem_le {l m : List α} (h : List.Forall₂ (· ≤ ·) l m) {i : ℕ}
    (hl : i < (ascending l).length) (hm : i < (ascending m).length) :
    (ascending l)[i] ≤ (ascending m)[i] := by
  have hcount : i < (ascending m).countP (· ≤ (ascending m)[i]) :=
    (getElem_le_iff (ascending_pairwise m) hm _).mp le_rfl
  rw [(ascending_perm m).countP_eq] at hcount
  rw [getElem_le_iff (ascending_pairwise l) hl, (ascending_perm l).countP_eq]
  exact lt_of_lt_of_le hcount (countP_le_of_forall₂ h _)

/-- The value of rank `i`; ranks behind the last one have the last value. -/
def valueOfRank (d : α) (l : List α) (i : ℕ) : α := (ascending l).getD (min i (l.length - 1)) d

variable {l m : List α} {d : α}

theorem rank_lt (hne : l ≠ []) (i : ℕ) : min i (l.length - 1) < (ascending l).length := by
  have hpos : 0 < l.length := List.length_pos_iff.mpr hne
  rw [ascending_length]
  omega

theorem valueOfRank_eq (hne : l ≠ []) (i : ℕ) :
    valueOfRank d l i = (ascending l).get ⟨min i (l.length - 1), rank_lt hne i⟩ :=
  List.getD_eq_getElem _ _ (rank_lt hne i)

theorem get_ascending_mono {i j : Fin (ascending l).length} (h : i ≤ j) :
    (ascending l).get i ≤ (ascending l).get j :=
  (ascending_pairwise l).rel_get_of_le h

theorem valueOfRank_eq_of_perm (h : l.Perm m) : valueOfRank d l = valueOfRank d m := by
  funext i
  rw [valueOfRank, valueOfRank, ascending_eq_of_perm h, h.length_eq]

theorem valueOfRank_mono (d : α) (l : List α) : Monotone (valueOfRank d l) := by
  intro i j hij
  by_cases hne : l = []
  · rw [hne]
    exact le_rfl
  · rw [valueOfRank_eq hne, valueOfRank_eq hne]
    exact get_ascending_mono (min_le_min_right _ hij)

theorem valueOfRank_le_of_forall₂ (h : List.Forall₂ (· ≤ ·) l m) (i : ℕ) :
    valueOfRank d l i ≤ valueOfRank d m i := by
  by_cases hne : l = []
  · subst hne
    cases h
    exact le_rfl
  · have hm : m ≠ [] := by
      rintro rfl
      cases h
      exact hne rfl
    rw [valueOfRank_eq hne, valueOfRank_eq hm]
    simp only [List.get_eq_getElem, ← h.length_eq]
    exact ascending_getElem_le h _ _

theorem isLeast_valueOfRank (hne : l ≠ []) : IsLeast {x | x ∈ l} (valueOfRank d l 0) := by
  rw [valueOfRank_eq hne]
  refine ⟨(ascending_perm l).mem_iff.mp (List.get_mem _ _), fun x hx => ?_⟩
  obtain ⟨j, rfl⟩ := List.get_of_mem ((ascending_perm l).mem_iff.mpr hx)
  exact get_ascending_mono (Fin.le_def.mpr (by simp))

theorem isGreatest_valueOfRank (hne : l ≠ []) :
    IsGreatest {x | x ∈ l} (valueOfRank d l (l.length - 1)) := by
  rw [valueOfRank_eq hne]
  refine ⟨(ascending_perm l).mem_iff.mp (List.get_mem _ _), fun x hx => ?_⟩
  obtain ⟨j, rfl⟩ := List.get_of_mem ((ascending_perm l).mem_iff.mpr hx)
  refine get_ascending_mono (Fin.le_def.mpr ?_)
  have hj : (j : ℕ) < l.length := lt_of_lt_of_eq j.isLt (ascending_length l)
  simp only [min_self]
  omega

end Ranks

/-! ## Interpolation -/

section Interpolation

variable {K : Type*} [Field K] [LinearOrder K] [FloorSemiring K] {v w : ℕ → K} {x y : K}

/-- The function through the points `(i, v i)` that is linear between them. -/
def interpolate (v : ℕ → K) (x : K) : K :=
  v ⌊x⌋₊ + (x - ⌊x⌋₊) * (v (⌊x⌋₊ + 1) - v ⌊x⌋₊)

theorem interpolate_eq_weighted (v : ℕ → K) (x : K) :
    interpolate v x = v ⌊x⌋₊ * ((⌊x⌋₊ + 1 : ℕ) - x) + v (⌊x⌋₊ + 1) * (x - ⌊x⌋₊) := by
  rw [interpolate]
  push_cast
  ring

variable [IsStrictOrderedRing K]

theorem interpolate_natCast (v : ℕ → K) (n : ℕ) : interpolate v (n : K) = v n := by
  simp [interpolate]

theorem fract_nonneg (hx : 0 ≤ x) : 0 ≤ x - ⌊x⌋₊ := sub_nonneg.mpr (Nat.floor_le hx)

theorem fract_le_one (x : K) : x - ⌊x⌋₊ ≤ 1 := by
  have hlt := Nat.lt_floor_add_one x
  linarith

theorem le_interpolate (hv : Monotone v) (hx : 0 ≤ x) : v ⌊x⌋₊ ≤ interpolate v x := by
  have hstep : 0 ≤ v (⌊x⌋₊ + 1) - v ⌊x⌋₊ := sub_nonneg.mpr (hv (Nat.le_succ _))
  exact le_add_of_nonneg_right (mul_nonneg (fract_nonneg hx) hstep)

theorem interpolate_le (hv : Monotone v) (x : K) : interpolate v x ≤ v (⌊x⌋₊ + 1) := by
  have hstep : 0 ≤ v (⌊x⌋₊ + 1) - v ⌊x⌋₊ := sub_nonneg.mpr (hv (Nat.le_succ _))
  have hpart := mul_le_of_le_one_left hstep (fract_le_one x)
  rw [interpolate]
  linarith

theorem interpolate_mono (hv : Monotone v) (hx : 0 ≤ x) (hxy : x ≤ y) :
    interpolate v x ≤ interpolate v y := by
  rcases (Nat.floor_mono hxy).eq_or_lt with hsame | hless
  · have hstep : 0 ≤ v (⌊y⌋₊ + 1) - v ⌊y⌋₊ := sub_nonneg.mpr (hv (Nat.le_succ _))
    rw [interpolate, interpolate, hsame]
    gcongr
  · calc interpolate v x ≤ v (⌊x⌋₊ + 1) := interpolate_le hv x
      _ ≤ v ⌊y⌋₊ := hv hless
      _ ≤ interpolate v y := le_interpolate hv (hx.trans hxy)

theorem interpolate_le_interpolate (hvw : ∀ i, v i ≤ w i) (hx : 0 ≤ x) :
    interpolate v x ≤ interpolate w x := by
  have hleft : 0 ≤ ((⌊x⌋₊ + 1 : ℕ) : K) - x := by
    push_cast
    linarith [fract_le_one x]
  rw [interpolate_eq_weighted, interpolate_eq_weighted]
  exact add_le_add (mul_le_mul_of_nonneg_right (hvw _) hleft)
    (mul_le_mul_of_nonneg_right (hvw _) (fract_nonneg hx))

end Interpolation

/-! ## Quantiles -/

section Quantile

variable {K : Type*} [Field K] [LinearOrder K] [FloorSemiring K] {l m : List K} {p q : K}

/-- The value at `p` of the way through the ranks `0` to `n - 1`. -/
def quantile (l : List K) (p : K) : K :=
  interpolate (valueOfRank 0 l) (((l.length - 1 : ℕ) : K) * p)

theorem quantile_eq_of_perm (h : l.Perm m) : quantile l p = quantile m p := by
  rw [quantile, quantile, valueOfRank_eq_of_perm h, h.length_eq]

variable [IsStrictOrderedRing K]

theorem quantile_mono (l : List K) (hp : 0 ≤ p) (hpq : p ≤ q) : quantile l p ≤ quantile l q :=
  interpolate_mono (valueOfRank_mono 0 l) (mul_nonneg (Nat.cast_nonneg _) hp)
    (mul_le_mul_of_nonneg_left hpq (Nat.cast_nonneg _))

theorem quantile_le_of_forall₂ (h : List.Forall₂ (· ≤ ·) l m) (hp : 0 ≤ p) :
    quantile l p ≤ quantile m p := by
  rw [quantile, quantile, ← h.length_eq]
  exact interpolate_le_interpolate (valueOfRank_le_of_forall₂ h)
    (mul_nonneg (Nat.cast_nonneg _) hp)

theorem isLeast_quantile_zero (hne : l ≠ []) : IsLeast {x | x ∈ l} (quantile l 0) := by
  have hzero : quantile l 0 = valueOfRank 0 l 0 := by
    rw [quantile, mul_zero, ← Nat.cast_zero, interpolate_natCast]
  exact hzero ▸ isLeast_valueOfRank hne

theorem isGreatest_quantile_one (hne : l ≠ []) : IsGreatest {x | x ∈ l} (quantile l 1) := by
  have hone : quantile l 1 = valueOfRank 0 l (l.length - 1) := by
    rw [quantile, mul_one, interpolate_natCast]
  exact hone ▸ isGreatest_valueOfRank hne

end Quantile

end Quantiles
