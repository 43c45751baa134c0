import Mathlib.Data.List.Basic

/-! # Matchers that list their matches in order

A matcher gives, for a text, what is left behind each of its matches at the head of the text, the
preferred match first. Which matches there are depends on the texts that the parts stand for;
which of them comes first depends on the order of the alternatives too. -/
namespace OrderedMatching

variable {α β γ : Type*}

abbrev Matcher (α : Type*) := List α → List (List α)

variable {p q : Matcher α} {f : β → List α} {g : γ → List α} {cs m r : List α}

/-- The matches are the texts of `β`. -/
def Reads (p : Matcher α) (f : β → List α) : Prop := ∀ cs r, r ∈ p cs ↔ ∃ b, cs = f b ++ r

theorem Reads.mem (h : Reads p f) (b : β) (r : List α) : r ∈ p (f b ++ r) := (h _ _).mpr ⟨b, rfl⟩

theorem Reads.congr (h : Reads p f) (hfg : ∀ b, ∃ c, f b = g c) (hgf : ∀ c, ∃ b, g c = f b) :
    Reads p g := by
  intro cs r
  rw [h cs r]
  constructor
  · rintro ⟨b, rfl⟩
    obtain ⟨c, hc⟩ := hfg b
    exact ⟨c, by rw [hc]⟩
  · rintro ⟨c, rfl⟩
    obtain ⟨b, hb⟩ := hgf c
    exact ⟨b, by rw [hb]⟩

theorem reads_empty : Reads (fun cs : List α => [cs]) fun _ : Unit => [] := by
  intro cs r
  simp [eq_comm]

theorem reads_one {P : α → Prop} [DecidablePred P] (hnil : p [] = [])
    (hcons : ∀ c cs, p (c :: cs) = if P c then [cs] else []) :
    Reads p fun c : { c // P c } => [c.1] := by
  intro cs r
  cases cs with
  | nil => simp [hnil]
  | cons c cs =>
    by_cases hc : P c
    · simp [hcons, hc, eq_comm]
    · simp only [hcons, hc, if_false, List.not_mem_nil, false_iff]
      rintro ⟨b, hb⟩
      obtain ⟨rfl, -⟩ := List.cons.inj hb
      exact hc b.2

theorem Reads.seq (hp : Reads p f) (hq : Reads q g) :
    Reads (fun cs => (p cs).flatMap q) fun x : β × γ => f x.1 ++ g x.2 := by
  intro cs r
  rw [List.mem_flatMap]
  constructor
  · rintro ⟨m, hm, hr⟩
    obtain ⟨b, rfl⟩ := (hp cs m).mp hm
    obtain ⟨c, rfl⟩ := (hq m r).mp hr
    exact ⟨(b, c), (List.append_assoc ..).symm⟩
  · rintro ⟨⟨b, c⟩, rfl⟩
    rw [List.append_assoc]
    exact ⟨g c ++ r, hp.mem b _, hq.mem c r⟩

theorem Reads.alt (hp : Reads p f) (hq : Reads q g) :
    Reads (fun cs => p cs ++ q cs) (Sum.elim f g) := by
  intro cs r
  simp only [List.mem_append, hp cs r, hq cs r, Sum.exists, Sum.elim_inl, Sum.elim_inr]

theorem Reads.optional (hp : Reads p f) :
    Reads (fun cs => p cs ++ [cs]) fun x : Option β => x.elim [] f := by
  refine (hp.alt reads_empty).congr ?_ ?_
  · rintro (b | _)
    · exact ⟨some b, rfl⟩
    · exact ⟨none, rfl⟩
  · rintro (_ | b)
    · exact ⟨.inr (), rfl⟩
    · exact ⟨.inl b, rfl⟩

theorem Reads.star {rep : ℕ → Matcher α} (hzero : ∀ cs, rep 0 cs = [cs])
    (hsucc : ∀ n cs, rep (n + 1) cs = (p cs).flatMap (rep n) ++ [cs]) (hp : Reads p f)
    (hne : ∀ b, f b ≠ []) :
    Reads (fun cs => rep cs.length cs) fun bs : List β => bs.flatMap f := by
  have hrep : ∀ n cs, cs.length ≤ n →
      ∀ r, r ∈ rep n cs ↔ ∃ bs : List β, cs = bs.flatMap f ++ r := by
    intro n
    induction n with
    | zero =>
      intro cs hlen r
      have hnil : cs = [] := List.length_eq_zero_iff.mp (by omega)
      subst hnil
      rw [hzero, List.mem_singleton]
      constructor
      · rintro rfl
        exact ⟨[], rfl⟩
      · rintro ⟨bs, h⟩
        exact (List.append_eq_nil_iff.mp h.symm).2
    | succ n ih =>
      intro cs hlen r
      simp only [hsucc, List.mem_append, List.mem_flatMap, List.mem_singleton]
      constructor
      · rintro (⟨m, hm, hr⟩ | rfl)
        · obtain ⟨b, rfl⟩ := (hp cs m).mp hm
          have hpos := List.length_pos_of_ne_nil (hne b)
          rw [List.length_append] at hlen
          obtain ⟨bs, rfl⟩ := (ih m (by omega) r).mp hr
          exact ⟨b :: bs, by simp⟩
        · exact ⟨[], rfl⟩
      · rintro ⟨bs, rfl⟩
        cases bs with
        | nil => exact Or.inr rfl
        | cons b bs =>
          have hpos := List.length_pos_of_ne_nil (hne b)
          rw [List.flatMap_cons, List.append_assoc] at hlen ⊢
          rw [List.length_append] at hlen
          left
          exact ⟨bs.flatMap f ++ r, hp.mem b _, (ih _ (by omega) r).mpr ⟨bs, rfl⟩⟩
  intro cs r
  exact hrep cs.length cs (Nat.le_refl _) r

section Order

/-- The preferred match. -/
def First (p : Matcher α) (cs r : List α) : Prop := (p cs).head? = some r

theorem First.seq (hp : First p cs m) (hq : First q m r) :
    First (fun cs => (p cs).flatMap q) cs r := by
  obtain ⟨ms, hms⟩ := List.head?_eq_some_iff.mp hp
  obtain ⟨rs, hrs⟩ := List.head?_eq_some_iff.mp hq
  simp [First, hms, hrs]

theorem First.left (q : Matcher α) (hp : First p cs r) : First (fun cs => p cs ++ q cs) cs r := by
  obtain ⟨rs, hrs⟩ := List.head?_eq_some_iff.mp hp
  simp [First, hrs]

theorem First.right (hp : p cs = []) (hq : First q cs r) : First (fun cs => p cs ++ q cs) cs r := by
  rw [First, hp, List.nil_append]
  exact hq

theorem first_empty : First (fun cs => [cs]) cs cs := rfl

theorem first_star_nil {rep : ℕ → Matcher α} (n : ℕ) (hzero : ∀ cs, rep 0 cs = [cs])
    (hsucc : ∀ n cs, rep (n + 1) cs = (p cs).flatMap (rep n) ++ [cs]) (hstop : p r = []) :
    First (rep n) r r := by
  cases n with
  | zero => simp [First, hzero]
  | succ n => simp [First, hsucc, hstop]

theorem First.star_cons {rep : ℕ → Matcher α} {n : ℕ}
    (hsucc : ∀ n cs, rep (n + 1) cs = (p cs).flatMap (rep n) ++ [cs]) (hp : First p cs m)
    (hrest : First (rep n) m r) : First (rep (n + 1)) cs r := by
  have hmore : First (fun cs => (p cs).flatMap (rep n)) cs r := hp.seq hrest
  rw [First, hsucc]
  exact hmore.left fun cs => [cs]

theorem head?_flatMap_of_prefix (l₁ : List β) {l₂ : List β} {b : β} {f : β → List γ} {c : γ}
    (h : ∀ x ∈ l₁, f x = []) (hb : (f b).head? = some c) :
    ((l₁ ++ b :: l₂).flatMap f).head? = some c := by
  have hnil : l₁.flatMap f = [] := List.flatMap_eq_nil_iff.mpr h
  obtain ⟨bs, hbs⟩ := List.head?_eq_some_iff.mp hb
  simp [hnil, hbs]

theorem First.head?_flatMap {f : List α → List β} {b : β} (hp : First p cs m)
    (hm : (f m).head? = some b) : ((p cs).flatMap f).head? = some b := by
  obtain ⟨ms, hms⟩ := List.head?_eq_some_iff.mp hp
  rw [hms]
  exact head?_flatMap_of_prefix [] (List.forall_mem_nil _) hm

theorem head?_flatMap_of_unique {l : List β} {b : β} {f : β → List γ} {c : γ}
    (h : ∀ x ∈ l, x ≠ b → f x = []) (hmem : b ∈ l) (hb : (f b).head? = some c) :
    (l.flatMap f).head? = some c := by
  induction l with
  | nil => cases hmem
  | cons x l ih =>
    by_cases hx : x = b
    · subst hx
      exact head?_flatMap_of_prefix [] (List.forall_mem_nil _) hb
    · have hnil := h x List.mem_cons_self hx
      have hmem := List.mem_of_ne_of_mem (Ne.symm hx) hmem
      rw [List.flatMap_cons, hnil, List.nil_append]
      exact ih (fun y hy => h y (List.mem_cons_of_mem _ hy)) hmem

end Order

end OrderedMatching
