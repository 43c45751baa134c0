import Mathlib.Logic.Basic

/-! # Inversion rules for computations that may raise

Every fallible function of a model is an `Except` computation built with binds.
These rules split such a computation at a bind, for a result and for an error. -/
namespace ExceptRules

universe u v

variable {ε : Type u} {α β : Type v}

theorem bind_ok_iff {x : Except ε α} {f : α → Except ε β} {b : β} :
    x >>= f = .ok b ↔ ∃ a, x = .ok a ∧ f a = .ok b := by
  cases x with
  | error e => simp [bind, Except.bind]
  | ok a => simp [bind, Except.bind]

theorem bind_error_iff {x : Except ε α} {f : α → Except ε β} {e : ε} :
    x >>= f = .error e ↔ x = .error e ∨ ∃ a, x = .ok a ∧ f a = .error e := by
  cases x with
  | error e' => simp [bind, Except.bind]
  | ok a => simp [bind, Except.bind]

@[simp] theorem ok_bind (a : α) (f : α → Except ε β) : (Except.ok a >>= f) = f a := rfl

@[simp] theorem error_bind (e : ε) (f : α → Except ε β) :
    ((Except.error e : Except ε α) >>= f) = .error e := rfl

@[simp] theorem pure_eq_ok (a : α) : (pure a : Except ε α) = .ok a := rfl

/-- A check: it returns nothing and raises `e` unless `p` holds. -/
def require (p : Prop) [Decidable p] (e : ε) : Except ε PUnit :=
  if p then .ok ⟨⟩ else .error e

theorem require_ok_iff {p : Prop} [Decidable p] {e : ε} {u : PUnit} :
    require p e = .ok u ↔ p := by
  by_cases h : p <;> simp [require, h]

theorem require_error_iff {p : Prop} [Decidable p] {e e' : ε} :
    require p e = .error e' ↔ ¬p ∧ e = e' := by
  by_cases h : p <;> simp [require, h]

theorem require_of {p : Prop} [Decidable p] (e : ε) (h : p) : require p e = .ok ⟨⟩ := if_pos h

theorem error_or_ok (x : Except ε α) : (∃ e, x = .error e) ∨ ∃ a, x = .ok a := by
  cases x with
  | error e => exact Or.inl ⟨e, rfl⟩
  | ok a => exact Or.inr ⟨a, rfl⟩

section WithState

variable {σ : Type u}

/-- Sequence two computations that also carry a state; an error keeps the state it left. -/
def andThen (r : Except ε α × σ) (f : α → σ → Except ε β × σ) : Except ε β × σ :=
  match r with
  | (.error e, s) => (.error e, s)
  | (.ok a, s) => f a s

@[simp] theorem andThen_ok (a : α) (s : σ) (f : α → σ → Except ε β × σ) :
    andThen (.ok a, s) f = f a s := rfl

@[simp] theorem andThen_error (e : ε) (s : σ) (f : α → σ → Except ε β × σ) :
    andThen (.error e, s) f = (.error e, s) := rfl

theorem andThen_of_ok {r : Except ε α × σ} {a : α} (h : r.1 = .ok a)
    (f : α → σ → Except ε β × σ) : andThen r f = f a r.2 := by
  obtain ⟨x, s⟩ := r
  cases h
  rfl

theorem andThen_of_error {r : Except ε α × σ} {e : ε} (h : r.1 = .error e)
    (f : α → σ → Except ε β × σ) : andThen r f = (.error e, r.2) := by
  obtain ⟨x, s⟩ := r
  cases h
  rfl

theorem andThen_map (r : Except ε α × σ) (g : α → β) :
    andThen r (fun a s => (.ok (g a), s)) = (r.1.map g, r.2) := by
  obtain ⟨x, s⟩ := r
  cases x <;> rfl

theorem andThen_ok_iff {r : Except ε α × σ} {f : α → σ → Except ε β × σ} {b : β} {t : σ} :
    andThen r f = (.ok b, t) ↔ ∃ a s, r = (.ok a, s) ∧ f a s = (.ok b, t) := by
  obtain ⟨x, s⟩ := r
  cases x with
  | error e => simp [andThen]
  | ok a =>
    refine ⟨fun h => ⟨a, s, rfl, h⟩, ?_⟩
    rintro ⟨_, _, hr, h⟩
    cases hr
    exact h

theorem andThen_error_iff {r : Except ε α × σ} {f : α → σ → Except ε β × σ} {e : ε} {t : σ} :
    andThen r f = (.error e, t) ↔
      r = (.error e, t) ∨ ∃ a s, r = (.ok a, s) ∧ f a s = (.error e, t) := by
  obtain ⟨x, s⟩ := r
  cases x with
  | error e' => simp [andThen]
  | ok a =>
    refine ⟨fun h => Or.inr ⟨a, s, rfl, h⟩, ?_⟩
    rintro (h | ⟨_, _, hr, h⟩)
    · cases h
    · cases hr
      exact h

theorem andThen_rel (R : σ → σ → Prop) (htrans : ∀ a b c, R a b → R b c → R a c) {s : σ}
    {r : Except ε α × σ} {f : α → σ → Except ε β × σ} (hr : R s r.2)
    (hf : ∀ a t, r = (.ok a, t) → R t (f a t).2) : R s (andThen r f).2 := by
  obtain ⟨x, t⟩ := r
  cases x with
  | error e => exact hr
  | ok a => exact htrans _ _ _ hr (hf a t rfl)

end WithState

end ExceptRules
