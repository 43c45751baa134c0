import Mathlib.Order.Basic

/-! # Runs of a labelled transition system

A run is a list of events with the states they lead through. An invariant is proved by one step;
what every step guarantees of its event holds of every event of a run. -/
namespace TransitionSystem

universe u v

variable {State : Type u} {Event : Type v}

inductive Run (Step : State → Event → State → Prop) : State → List Event → State → Prop where
  | nil (s) : Run Step s [] s
  | cons {s e u es t} : Step s e u → Run Step u es t → Run Step s (e :: es) t

variable {Step : State → Event → State → Prop} {s t : State} {es : List Event}

def Guarded (Step : State → Event → State → Prop) (Guard : State → Event → Prop)
    (s : State) (e : Event) (t : State) : Prop :=
  Guard s e ∧ Step s e t

theorem Run.unguarded {Guard : State → Event → Prop} (h : Run (Guarded Step Guard) s es t) :
    Run Step s es t := by
  induction h with
  | nil s => exact .nil s
  | cons he _ ih => exact .cons he.2 ih

theorem Run.mono {Step' : State → Event → State → Prop}
    (hstep : ∀ s e t, Step s e t → Step' s e t) (h : Run Step s es t) : Run Step' s es t := by
  induction h with
  | nil s => exact .nil s
  | cons he _ ih => exact .cons (hstep _ _ _ he) ih

/-- What one step preserves, a run preserves. -/
theorem Run.invariant (Inv : State → Prop) (step : ∀ s e t, Inv s → Step s e t → Inv t)
    (h : Run Step s es t) (hs : Inv s) : Inv t := by
  induction h with
  | nil => exact hs
  | cons he _ ih => exact ih (step _ _ _ hs he)

/-- What every step from an invariant state guarantees of its event holds of each event. -/
theorem Run.forall_event (Inv : State → Prop) {P : Event → Prop}
    (step : ∀ s e t, Inv s → Step s e t → Inv t ∧ P e) (h : Run Step s es t) (hs : Inv s) :
    ∀ e ∈ es, P e := by
  induction h with
  | nil => simp
  | cons he _ ih =>
    obtain ⟨hu, hp⟩ := step _ _ _ hs he
    intro e' he'
    rcases List.mem_cons.mp he' with rfl | he'
    · exact hp
    · exact ih hu e' he'

theorem Run.split {es₁ es₂ : List Event} (h : Run Step s (es₁ ++ es₂) t) :
    ∃ u, Run Step s es₁ u ∧ Run Step u es₂ t := by
  induction es₁ generalizing s with
  | nil => exact ⟨s, .nil s, h⟩
  | cons e es₁ ih =>
    cases h with
    | cons he h =>
      obtain ⟨u, h₁, h₂⟩ := ih h
      exact ⟨u, .cons he h₁, h₂⟩

theorem Run.append {u : State} {es' : List Event} (h : Run Step s es t) (h' : Run Step t es' u) :
    Run Step s (es ++ es') u := by
  induction h with
  | nil => exact h'
  | cons he _ ih => exact .cons he (ih h')

theorem Run.single {e : Event} (h : Step s e t) : Run Step s [e] t := .cons h (.nil t)

theorem Run.exists_cons {e : Event} {u : State} (he : Step s e u)
    (h : ∃ t, Run Step u es t) : ∃ t, Run Step s (e :: es) t := by
  obtain ⟨t, ht⟩ := h
  exact ⟨t, .cons he ht⟩

theorem Run.exists_nil : ∃ t, Run Step s [] t := ⟨s, .nil s⟩

end TransitionSystem
