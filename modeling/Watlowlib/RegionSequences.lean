import Watlowlib.GuardedRegions

/-! # Calls of several regions

A call whose exchanges lie in guarded parts one after another gives the mutex away between them.
What others do there decides whether its exchanges stay together. -/
namespace RegionSequences

open GuardedRegions TransitionSystem

variable {α : Type} {Admitted : Prog α → Prop} {s t : State α} {e : Event α} {τ σ n m N : ℕ}

section Labels

variable {P : α → Prop}

def All (P : α → Prop) : Prog α → Prop
  | .exchange a => P a
  | .seq p q => All P p ∧ All P q
  | .guarded p => All P p
  | .attempt p => All P p
  | _ => True

def FrameAll (P : α → Prop) : Frame α → Prop
  | .run p => All P p
  | .inside a => P a
  | _ => True

def FramesAll (P : α → Prop) (k : List (Frame α)) : Prop := ∀ f ∈ k, FrameAll P f

theorem framesAll_cons {f : Frame α} {k : List (Frame α)} :
    FramesAll P (f :: k) ↔ FrameAll P f ∧ FramesAll P k := List.forall_mem_cons

def label : Event α → Option α
  | .enter _ _ a => some a
  | .reply _ _ a => some a
  | _ => none

theorem local_all {k k' : List (Frame α)} {mode mode' : Mode} (h : Local k mode k' mode')
    (hk : FramesAll P k) : FramesAll P k' := by
  cases h with
  | seq =>
    obtain ⟨⟨hp, hq⟩, hk⟩ := framesAll_cons.mp hk
    exact framesAll_cons.mpr ⟨hp, framesAll_cons.mpr ⟨hq, hk⟩⟩
  | attempt =>
    obtain ⟨hp, hk⟩ := framesAll_cons.mp hk
    exact framesAll_cons.mpr ⟨hp, framesAll_cons.mpr ⟨trivial, hk⟩⟩
  | _ => exact (framesAll_cons.mp hk).2

theorem step_all (hs : Step Admitted s e t) (h : FramesAll P (s.tasks τ).frames) :
    (s.tasks τ).calls < (t.tasks τ).calls ∨ FramesAll P (t.tasks τ).frames := by
  have hstays : ∀ {ρ k mode}, (ρ = τ → FramesAll P k) →
      FramesAll P ((s.setFrames ρ k mode).tasks τ).frames := by
    intro ρ k mode hk
    by_cases hρ : τ = ρ
    · subst hρ
      rw [setFrames_self]
      exact hk rfl
    · rw [setFrames_other hρ]
      exact h
  have hcons : ∀ {ρ f k}, (s.tasks ρ).frames = f :: k → ρ = τ →
      FrameAll P f ∧ FramesAll P k := by
    rintro ρ f k hf rfl
    exact framesAll_cons.mp (hf ▸ h)
  cases hs with
  | @start ρ p hidle hp =>
    by_cases hρ : τ = ρ
    · subst hρ
      left
      simp [State.startCall]
    · right
      simpa only [State.startCall, Function.update_of_ne hρ] using h
  | @plain ρ k mode hl => exact Or.inr (hstays fun hρ => local_all hl (hρ ▸ h))
  | enter hf hm =>
    exact Or.inr (hstays fun hρ =>
      framesAll_cons.mpr ⟨(hcons hf hρ).1, (hcons hf hρ).2⟩)
  | reply mode hf hm hout => exact Or.inr (hstays fun hρ => (hcons hf hρ).2)
  | acquire hf hm hfree =>
    exact Or.inr (hstays fun hρ =>
      framesAll_cons.mpr ⟨(hcons hf hρ).1, framesAll_cons.mpr ⟨trivial, (hcons hf hρ).2⟩⟩)
  | reuse hf hm hown =>
    exact Or.inr (hstays fun hρ =>
      framesAll_cons.mpr ⟨(hcons hf hρ).1, framesAll_cons.mpr ⟨trivial, (hcons hf hρ).2⟩⟩)
  | wait hf hm htaken hne =>
    exact Or.inr (hstays fun hρ =>
      framesAll_cons.mpr ⟨(hcons hf hρ).1, (hcons hf hρ).2⟩)
  | resume hf hm hown =>
    exact Or.inr (hstays fun hρ =>
      framesAll_cons.mpr ⟨(hcons hf hρ).1, framesAll_cons.mpr ⟨trivial, (hcons hf hρ).2⟩⟩)
  | release hf hm => exact Or.inr (hstays fun hρ => (hcons hf hρ).2)
  | interrupt hf hm hother => exact Or.inr (hstays fun hρ => (hcons hf hρ).2)
  | abandon hf hm hother => exact Or.inr (hstays fun hρ => (hcons hf hρ).2)
  | decline hf hm hown => exact Or.inr (hstays fun hρ => (hcons hf hρ).2)

theorem exchange_label (hs : Step Admitted s e t) (he : e.Exchange τ n)
    (h : FramesAll P (s.tasks τ).frames) : ∀ a, label e = some a → P a := by
  cases hs with
  | @enter ρ a k hf hm =>
    obtain ⟨rfl, -⟩ := he
    rintro _ ⟨⟩
    exact (framesAll_cons.mp (hf ▸ h)).1
  | @reply ρ a k mode hf hm hout =>
    obtain ⟨rfl, -⟩ := he
    rintro _ ⟨⟩
    exact (framesAll_cons.mp (hf ▸ h)).1
  | _ => exact he.elim

end Labels

section Calls

variable {P : α → Prop} {es : List (Event α)}

theorem exchange_holds (hallowed : ∀ p, Admitted p → ¬ p.Bare) (h : Invariant s)
    (hs : Step Admitted s e t) (he : e.Exchange τ n) :
    Holds s τ ∧ Holds t τ ∧ (s.tasks τ).calls = n ∧ (t.tasks τ).calls = n := by
  have ht := step_invariant hallowed h hs
  obtain ⟨ρ, hacts⟩ := step_acts hs
  obtain ⟨rfl, rfl, hopens, hin⟩ := hacts.exchange τ n he
  have hboth : Holds t τ ↔ Holds s τ := by rw [Holds, Holds, hopens]
  have hheld : Holds s τ := by
    rcases hin with hin | hin
    · exact inside_holds h hin
    · exact hboth.mp (inside_holds ht hin)
  refine ⟨hheld, hboth.mpr hheld, rfl, ?_⟩
  rcases hacts.moves with ⟨p, -, hidle, -⟩ | ⟨-, hcalls⟩
  · rw [Holds, hidle] at hheld
    exact absurd rfl hheld
  · exact hcalls

/-- The call is over, or `N` regions bound what is left of it and one of them is open or used up
once the task is inside. -/
def Underway (P : α → Prop) (N τ n : ℕ) (s : State α) : Prop :=
  n < (s.tasks τ).calls ∨ ((s.tasks τ).calls = n ∧ ahead (s.tasks τ).frames ≤ N ∧
    (Holds s τ → ahead (s.tasks τ).frames < N) ∧ FramesAll P (s.tasks τ).frames)

/-- The call is over, or one of its `N` regions is open or behind it. -/
def Entered (N τ n : ℕ) (s : State α) : Prop :=
  n < (s.tasks τ).calls ∨ ((s.tasks τ).calls = n ∧ ahead (s.tasks τ).frames < N)

/-- Regions of the call are behind the task or open, and others are still to come. -/
def Midway (N τ n : ℕ) (s : State α) : Prop :=
  (s.tasks τ).calls = n ∧ 0 < ahead (s.tasks τ).frames ∧ ahead (s.tasks τ).frames < N

/-- A step in which no other task enters a region while the call is midway. -/
def KeepsOut (Admitted : Prog α → Prop) (N τ n : ℕ) (s : State α) (e : Event α) (t : State α) :
    Prop :=
  Step Admitted s e t ∧ (Midway N τ n s → ∀ σ, σ ≠ τ → Holds t σ → Holds s σ)

theorem step_underway (hs : Step Admitted s e t) (h : Underway P N τ n s) :
    Underway P N τ n t := by
  obtain ⟨ρ, hacts⟩ := step_acts hs
  by_cases hρ : τ = ρ
  · subst hρ
    rcases hacts.moves with ⟨p, -, -, htask⟩ | ⟨hmoves, hcalls⟩
    · left
      rw [htask]
      rcases h with h | ⟨h, -⟩
      · exact Nat.lt_succ_of_lt h
      · exact h ▸ Nat.lt_succ_self _
    · rcases h with h | ⟨h, hle, hheld, hall⟩
      · exact Or.inl (hcalls ▸ h)
      · have hless := hmoves.less
        refine Or.inr ⟨hcalls.trans h, Nat.le_trans hless hle, fun ht => ?_, ?_⟩
        · by_cases hin : Holds s τ
          · exact Nat.lt_of_le_of_lt hless (hheld hin)
          · exact Nat.le_trans (hmoves.enters (not_not.mp hin) ht) hle
        · rcases step_all hs hall with hlt | hall
          · omega
          · exact hall
  · rw [Underway, Holds, hacts.others τ hρ]
    exact h

theorem step_entered (hs : Step Admitted s e t) (h : Entered N τ n s) : Entered N τ n t := by
  obtain ⟨ρ, hacts⟩ := step_acts hs
  by_cases hρ : τ = ρ
  · subst hρ
    rcases hacts.moves with ⟨p, -, -, htask⟩ | ⟨hmoves, hcalls⟩
    · left
      rw [htask]
      rcases h with h | ⟨h, -⟩
      · exact Nat.lt_succ_of_lt h
      · exact h ▸ Nat.lt_succ_self _
    · rcases h with h | ⟨h, hlt⟩
      · exact Or.inl (hcalls ▸ h)
      · exact Or.inr ⟨hcalls.trans h, Nat.lt_of_le_of_lt hmoves.less hlt⟩
  · rw [Entered, hacts.others τ hρ]
    exact h

def Alone (τ : ℕ) (s : State α) : Prop := ∀ σ, σ ≠ τ → ¬ Holds s σ

theorem alone_of_holds (h : Invariant s) (hτ : Holds s τ) : Alone τ s := fun σ hne hσ =>
  hne (Option.some.inj (((h.kept σ).owns hσ).symm.trans ((h.kept τ).owns hτ)))

theorem step_alone (hallowed : ∀ p, Admitted p → ¬ p.Bare) (h : Invariant s)
    (hs : KeepsOut Admitted N τ n s e t) (hin : Entered N τ n s) (halone : Alone τ s) :
    Alone τ t ∨ Past t τ n := by
  have ht := step_invariant hallowed h hs.1
  by_cases hheld : Holds t τ
  · exact Or.inl (alone_of_holds ht hheld)
  rcases hin with hover | ⟨hcalls, hlt⟩
  · exact Or.inr (step_past (Or.inl hover) hs.1)
  by_cases hzero : ahead (s.tasks τ).frames = 0
  · right
    obtain ⟨ρ, hacts⟩ := step_acts hs.1
    by_cases hρ : τ = ρ
    · subst hρ
      rcases hacts.moves with ⟨p, -, -, htask⟩ | ⟨hmoves, hcalls'⟩
      · left
        rw [htask]
        exact hcalls ▸ Nat.lt_succ_self _
      · have hless := hmoves.less
        exact Or.inr ⟨hcalls'.trans hcalls, not_not.mp hheld, by omega⟩
    · rw [Holds, hacts.others τ hρ] at hheld
      rw [Past, hacts.others τ hρ]
      exact Or.inr ⟨hcalls, not_not.mp hheld, hzero⟩
  · left
    intro σ hne hσ
    exact halone σ hne (hs.2 ⟨hcalls, Nat.pos_of_ne_zero hzero, hlt⟩ σ hne hσ)

theorem run_alone (hallowed : ∀ p, Admitted p → ¬ p.Bare)
    (hr : Run (KeepsOut Admitted N τ n) s es t) (h : Invariant s) (hu : Underway P N τ n s)
    (hin : Entered N τ n s) (halone : Alone τ s) (hd : During t τ n) :
    ∀ e ∈ es, ∀ σ m, e.Exchange σ m → σ = τ ∧ ∀ x, label e = some x → P x := by
  induction hr with
  | nil => exact nofun
  | @cons s e u es t he hr ih =>
    have hsteps : Run (Step Admitted) u es t := hr.mono fun _ _ _ hs => hs.1
    have hnot : ∀ {v}, Run (Step Admitted) v es t → ¬ Past v τ n :=
      fun hv hpast => past_not_during (run_past hv hpast) hd
    have hlone := (step_alone hallowed h he hin halone).resolve_right (hnot hsteps)
    intro e' he' σ m hex
    rcases List.mem_cons.mp he' with rfl | he'
    · obtain ⟨hσ, -, hcalls, -⟩ := exchange_holds hallowed h he.1 hex
      have heq : σ = τ := not_not.mp fun hne => halone σ hne hσ
      subst heq
      refine ⟨rfl, ?_⟩
      rcases hu with hover | ⟨-, -, -, hall⟩
      · exact absurd (step_past (Or.inl hover) he.1) (hnot hsteps)
      · exact exchange_label he.1 hex hall
    · exact ih (step_invariant hallowed h he.1) (step_underway he.1 hu) (step_entered he.1 hin)
        hlone hd e' he' σ m hex

/-- Between two exchanges of a call that nobody enters a region in the middle of, all exchanges are
its own. -/
theorem exchanges_together {es₁ es₂ es₃ : List (Event α)} {a b : Event α}
    (hallowed : ∀ p, Admitted p → ¬ p.Bare) (h : Invariant s) (hu : Underway P N τ n s)
    (hr : Run (KeepsOut Admitted N τ n) s (es₁ ++ a :: es₂ ++ b :: es₃) t)
    (ha : a.Exchange τ n) (hb : b.Exchange τ n) :
    ∀ e ∈ es₂, ∀ σ m, e.Exchange σ m → σ = τ ∧ ∀ x, label e = some x → P x := by
  have hinv : ∀ s e t, Invariant s → KeepsOut Admitted N τ n s e t → Invariant t :=
    fun _ _ _ h hs => step_invariant hallowed h hs.1
  have hway : ∀ s e t, Underway P N τ n s → KeepsOut Admitted N τ n s e t → Underway P N τ n t :=
    fun _ _ _ h hs => step_underway hs.1 h
  obtain ⟨v, hr, hlast⟩ := hr.split
  obtain ⟨u, hfirst, hr⟩ := hr.split
  have hu₀ := hfirst.invariant Invariant hinv h
  have hway₀ := hfirst.invariant _ hway hu
  cases hr with
  | @cons _ _ u' _ _ hstep_a hr =>
    cases hlast with
    | cons hstep_b _ =>
      have hu' := hinv _ _ _ hu₀ hstep_a
      have hv := hr.invariant Invariant hinv hu'
      obtain ⟨hheld, hheld', hcalls, -⟩ := exchange_holds hallowed hu₀ hstep_a.1 ha
      obtain ⟨hd, -, hcalls', -⟩ := exchange_holds hallowed hv hstep_b.1 hb
      have hentered : Entered N τ n u := by
        rcases hway₀ with hover | ⟨-, -, hlt, -⟩
        · omega
        · exact Or.inr ⟨hcalls, hlt hheld⟩
      exact run_alone hallowed hr hu' (hway _ _ _ hway₀ hstep_a)
        (step_entered hstep_a.1 hentered) (alone_of_holds hu' hheld') ⟨hcalls', hd⟩

def task : Event α → ℕ
  | .start τ _ => τ
  | .enter τ _ _ => τ
  | .reply τ _ _ => τ
  | .tick τ => τ

theorem step_others (hs : Step Admitted s e t) (hne : σ ≠ task e) : t.tasks σ = s.tasks σ := by
  cases hs with
  | start hidle hp => exact Function.update_of_ne hne ..
  | _ => exact setFrames_other hne

theorem run_keepsOut (hr : Run (Step Admitted) s es t) (hown : ∀ e ∈ es, task e = τ) :
    Run (KeepsOut Admitted N τ n) s es t := by
  induction hr with
  | nil s => exact .nil s
  | @cons s e u es t he hr ih =>
    refine .cons ⟨he, fun _ σ hne hσ => ?_⟩ (ih fun e he => hown e (List.mem_cons_of_mem _ he))
    rw [← hown e List.mem_cons_self] at hne
    rw [Holds, step_others he hne] at hσ
    exact hσ

/-- Once the call has its regions behind it, the others may do as they like. -/
theorem run_keepsOut_over (hr : Run (Step Admitted) s es t) (hover : ¬ Midway N τ n s)
    (hothers : ∀ e ∈ es, task e ≠ τ) : Run (KeepsOut Admitted N τ n) s es t := by
  induction hr with
  | nil s => exact .nil s
  | @cons s e u es t he hr ih =>
    have hsame : u.tasks τ = s.tasks τ := step_others he (hothers e List.mem_cons_self).symm
    refine .cons ⟨he, fun hmid => absurd hmid hover⟩ (ih ?_ fun e he => ?_)
    · rwa [Midway, hsame]
    · exact hothers e (List.mem_cons_of_mem _ he)

end Calls

end RegionSequences
