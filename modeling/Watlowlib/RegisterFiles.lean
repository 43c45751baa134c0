import Mathlib.Data.Int.Notation
import Mathlib.Data.List.Basic
import Mathlib.Logic.Function.Basic

/-! # Register files

Words at integer addresses, some of them absent, loaded and stored in windows. -/
namespace RegisterFiles

variable {ω : Type} {f g : ℤ → Option ω} {a b x : ℤ} {n m : ℕ} {ws : List ω}

/-- The words of a window, if all of them are there. -/
def load (f : ℤ → Option ω) : ℤ → ℕ → Option (List ω)
  | _, 0 => some []
  | a, n + 1 => do
    let w ← f a
    let ws ← load f (a + 1) n
    some (w :: ws)

def store (f : ℤ → Option ω) : ℤ → List ω → ℤ → Option ω
  | _, [] => f
  | a, w :: ws => store (Function.update f a (some w)) (a + 1) ws

/-- Two windows without a common address. -/
def Apart (a : ℤ) (n : ℕ) (b : ℤ) (m : ℕ) : Prop := a + n ≤ b ∨ b + m ≤ a

theorem load_congr (h : ∀ x, a ≤ x → x < a + n → f x = g x) : load f a n = load g a n := by
  induction n generalizing a with
  | zero => rfl
  | succ n ih =>
    have hhead := h a (by omega) (by omega)
    have htail : load f (a + 1) n = load g (a + 1) n :=
      ih fun x hlow hhigh => h x (by omega) (by omega)
    rw [load, load, hhead, htail]

theorem store_outside (h : x < a ∨ a + ws.length ≤ x) : store f a ws x = f x := by
  induction ws generalizing f a with
  | nil => rfl
  | cons w ws ih =>
    rw [List.length_cons] at h
    rw [store, ih (by omega)]
    have hne : x ≠ a := by omega
    exact Function.update_of_ne hne _ _

theorem load_store : load (store f a ws) a ws.length = some ws := by
  induction ws generalizing f a with
  | nil => rfl
  | cons w ws ih =>
    have hhead : store f a (w :: ws) a = some w := by
      rw [store, store_outside (by omega)]
      exact Function.update_self _ _ _
    rw [List.length_cons, load, hhead, store, Option.bind_eq_bind, Option.bind_some, ih]
    rfl

theorem load_store_apart (h : Apart a n b ws.length) : load (store f b ws) a n = load f a n := by
  refine load_congr fun x hlow hhigh => store_outside ?_
  rcases h with h | h
  · exact Or.inl (by omega)
  · exact Or.inr (by omega)

end RegisterFiles
