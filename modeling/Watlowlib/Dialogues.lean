import Watlowlib.ExceptRules

/-! # Dialogues

A program that puts questions to an environment, gives it notices, and ends in a result or in an
error. A handler plays the environment. Two rules lead from one step to a whole run: what every
answer keeps, a run keeps, and what every answer leads to, a run ends in. -/
namespace Dialogues

open ExceptRules

inductive Dialogue (Q A N E α : Type) where
  | done (a : α)
  | raises (e : E)
  | ask (q : Q) (next : A → Dialogue Q A N E α)
  | tell (n : N) (next : Dialogue Q A N E α)

namespace Dialogue

variable {Q A N E α β σ : Type}

def bind : Dialogue Q A N E α → (α → Dialogue Q A N E β) → Dialogue Q A N E β
  | .done a, f => f a
  | .raises e, _ => .raises e
  | .ask q next, f => .ask q fun a => (next a).bind f
  | .tell n next, f => .tell n (next.bind f)

instance : Monad (Dialogue Q A N E) where
  pure := .done
  bind := bind

/-- A computation that asks nothing. -/
def ofExcept : Except E α → Dialogue Q A N E α
  | .ok a => .done a
  | .error e => .raises e

/-- A dialogue whose outcome is looked at: it does not raise. -/
def attempt {E' : Type} : Dialogue Q A N E α → Dialogue Q A N E' (Except E α)
  | .done a => .done (.ok a)
  | .raises e => .done (.error e)
  | .ask q next => .ask q fun a => (next a).attempt
  | .tell n next => .tell n next.attempt

end Dialogue

/-- How an environment with states in `σ` answers a question and takes a notice. -/
structure Handler (Q A N σ : Type) where
  ask : Q → σ → A × σ
  tell : N → σ → σ

variable {Q A N E α β σ : Type} (h : Handler Q A N σ)

def run : Dialogue Q A N E α → σ → Except E α × σ
  | .done a, s => (.ok a, s)
  | .raises e, s => (.error e, s)
  | .ask q next, s => run (next (h.ask q s).1) (h.ask q s).2
  | .tell n next, s => run next (h.tell n s)

def transcript : Dialogue Q A N E α → σ → List (Q × A)
  | .done _, _ => []
  | .raises _, _ => []
  | .ask q next, s => (q, (h.ask q s).1) :: transcript (next (h.ask q s).1) (h.ask q s).2
  | .tell n next, s => transcript next (h.tell n s)

theorem run_bind (d : Dialogue Q A N E α) (f : α → Dialogue Q A N E β) (s : σ) :
    run h (d >>= f) s = andThen (run h d s) fun a s => run h (f a) s := by
  induction d generalizing s with
  | done a => rfl
  | raises e => rfl
  | ask q next ih => exact ih _ _
  | tell n next ih => exact ih _

theorem run_ofExcept (r : Except E α) (s : σ) :
    run h (.ofExcept r : Dialogue Q A N E α) s = (r, s) := by
  cases r <;> rfl

theorem run_attempt {E' : Type} (d : Dialogue Q A N E α) (s : σ) :
    run h (d.attempt : Dialogue Q A N E' (Except E α)) s = (.ok (run h d s).1, (run h d s).2) := by
  induction d generalizing s with
  | done a => rfl
  | raises e => rfl
  | ask q next ih => exact ih _ _
  | tell n next ih => exact ih _

section Invariants

structure Handler.Keeps (h : Handler Q A N σ) (P : σ → Prop) : Prop where
  ask : ∀ q s, P s → P (h.ask q s).2
  tell : ∀ n s, P s → P (h.tell n s)

variable {h} {P : σ → Prop}

theorem Handler.Keeps.run (hk : h.Keeps P) (d : Dialogue Q A N E α) {s : σ} (hs : P s) :
    P (run h d s).2 := by
  induction d generalizing s with
  | done a => exact hs
  | raises e => exact hs
  | ask q next ih => exact ih _ (hk.ask q s hs)
  | tell n next ih => exact ih (hk.tell n s hs)

def Silent : Dialogue Q A N E α → Prop
  | .done _ => True
  | .raises _ => True
  | .ask _ next => ∀ a, Silent (next a)
  | .tell _ _ => False

theorem silent_ofExcept (r : Except E α) : Silent (.ofExcept r : Dialogue Q A N E α) := by
  cases r <;> trivial

theorem silent_bind {d : Dialogue Q A N E α} {f : α → Dialogue Q A N E β} (hd : Silent d)
    (hf : ∀ a, Silent (f a)) : Silent (d >>= f) := by
  induction d with
  | done a => exact hf a
  | raises e => exact hd
  | ask q next ih => exact fun a => ih a (hd a)
  | tell n next => exact hd.elim

theorem Silent.run {d : Dialogue Q A N E α} (hd : Silent d)
    (hask : ∀ q s, P s → P (h.ask q s).2) {s : σ} (hs : P s) : P (run h d s).2 := by
  induction d generalizing s with
  | done a => exact hs
  | raises e => exact hs
  | ask q next ih => exact ih _ (hd _) (hask q s hs)
  | tell n next => exact hd.elim

end Invariants

section Questions

def Asks (P : Q → Prop) : Dialogue Q A N E α → Prop
  | .done _ => True
  | .raises _ => True
  | .ask q next => P q ∧ ∀ a, Asks P (next a)
  | .tell _ next => Asks P next

variable {P : Q → Prop}

theorem asks_ofExcept (r : Except E α) : Asks P (.ofExcept r : Dialogue Q A N E α) := by
  cases r <;> trivial

theorem asks_bind {d : Dialogue Q A N E α} {f : α → Dialogue Q A N E β} (hd : Asks P d)
    (hf : ∀ a, Asks P (f a)) : Asks P (d >>= f) := by
  induction d with
  | done a => exact hf a
  | raises e => exact hd
  | ask q next ih => exact ⟨hd.1, fun a => ih a (hd.2 a)⟩
  | tell n next ih => exact ih hd

theorem asks_then {r : Except E α} {f : α → Dialogue Q A N E β}
    (hf : ∀ a, r = .ok a → Asks P (f a)) : Asks P (.ofExcept r >>= f) := by
  cases r with
  | ok a => exact hf a rfl
  | error e => trivial

theorem asks_attempt {E' : Type} {d : Dialogue Q A N E α} (hd : Asks P d) :
    Asks P (d.attempt : Dialogue Q A N E' (Except E α)) := by
  induction d with
  | done a => exact hd
  | raises e => exact hd
  | ask q next ih => exact ⟨hd.1, fun a => ih a (hd.2 a)⟩
  | tell n next ih => exact ih hd

theorem Asks.run {h : Handler Q A N σ} {I : σ → Prop} {d : Dialogue Q A N E α} (hd : Asks P d)
    (hask : ∀ q s, P q → I s → I (h.ask q s).2) (htell : ∀ n s, I s → I (h.tell n s)) {s : σ}
    (hs : I s) : I (run h d s).2 := by
  induction d generalizing s with
  | done a => exact hs
  | raises e => exact hs
  | ask q next ih => exact ih _ (hd.2 _) (hask q s hd.1 hs)
  | tell n next ih => exact ih hd (htell n s hs)

def Yields (post : α → Prop) : Dialogue Q A N E α → Prop
  | .done a => post a
  | .raises _ => True
  | .ask _ next => ∀ a, Yields post (next a)
  | .tell _ next => Yields post next

theorem yields_bind {pre : α → Prop} {post : β → Prop} {d : Dialogue Q A N E α}
    {f : α → Dialogue Q A N E β} (hd : Yields pre d) (hf : ∀ a, pre a → Yields post (f a)) :
    Yields post (d >>= f) := by
  induction d with
  | done a => exact hf a hd
  | raises e => trivial
  | ask q next ih => exact fun a => ih a (hd a)
  | tell n next ih => exact ih hd

theorem Yields.run {h : Handler Q A N σ} {post : α → Prop} {d : Dialogue Q A N E α}
    (hd : Yields post d) {s : σ} {a : α} (ha : (run h d s).1 = .ok a) : post a := by
  induction d generalizing s with
  | done b =>
    cases ha
    exact hd
  | raises e => cases ha
  | ask q next ih => exact ih _ (hd _) ha
  | tell n next ih => exact ih hd ha

end Questions

section Outcomes

/-- Whatever the environment answers from here on, the dialogue ends so that `post` holds of its
outcome and of all that was asked and answered, `past` included. -/
def Ensures (post : Except E α → List (Q × A) → Prop) :
    Dialogue Q A N E α → List (Q × A) → Prop
  | .done a, past => post (.ok a) past
  | .raises e, past => post (.error e) past
  | .ask q next, past => ∀ a, Ensures post (next a) (past ++ [(q, a)])
  | .tell _ next, past => Ensures post next past

variable {post : Except E α → List (Q × A) → Prop} {past : List (Q × A)}

/-- The environment of a run is one of those that `Ensures` ranges over. -/
theorem Ensures.run {d : Dialogue Q A N E α} (hd : Ensures post d past) (s : σ) :
    post (run h d s).1 (past ++ transcript h d s) := by
  induction d generalizing past s with
  | done a =>
    rw [transcript, List.append_nil]
    exact hd
  | raises e =>
    rw [transcript, List.append_nil]
    exact hd
  | ask q next ih =>
    have hnext := ih (h.ask q s).1 (hd (h.ask q s).1) (h.ask q s).2
    rw [List.append_assoc] at hnext
    exact hnext
  | tell n next ih => exact ih hd (h.tell n s)

theorem ensures_ofExcept {r : Except E α} :
    Ensures post (.ofExcept r : Dialogue Q A N E α) past ↔ post r past := by
  cases r with
  | error e => exact Iff.rfl
  | ok a => exact Iff.rfl

theorem ensures_bind {post : Except E β → List (Q × A) → Prop} {d : Dialogue Q A N E α}
    {f : α → Dialogue Q A N E β} :
    Ensures post (d >>= f) past ↔
      Ensures (fun r t => match r with
        | .ok a => Ensures post (f a) t
        | .error e => post (.error e) t) d past := by
  induction d generalizing past with
  | done a => exact Iff.rfl
  | raises e => exact Iff.rfl
  | ask q next ih => exact forall_congr' fun a => ih a
  | tell n next ih => exact ih

theorem ensures_bind_last {post : Except E β → List (Q × A) → Prop} {d : Dialogue Q A N E α}
    {f : α → Dialogue Q A N E β} (hraised : ∀ e t, post (.error e) t)
    (hf : ∀ a t, Ensures post (f a) t) : Ensures post (d >>= f) past := by
  induction d generalizing past with
  | done a => exact hf a past
  | raises e => exact hraised e past
  | ask q next ih => exact fun a => ih a
  | tell n next ih => exact ih

end Outcomes

section Executions

/-- The run from `s` on ends so that `post` holds of its outcome, of the state that it leaves and of
all that was asked and answered, `past` included. -/
def Leads (post : Except E α → σ → List (Q × A) → Prop) (d : Dialogue Q A N E α) (s : σ)
    (past : List (Q × A)) : Prop :=
  post (run h d s).1 (run h d s).2 (past ++ transcript h d s)

variable {h} {post : Except E α → σ → List (Q × A) → Prop} {s : σ} {past : List (Q × A)}

theorem leads_done {a : α} : Leads h post (.done a) s past ↔ post (.ok a) s past := by
  rw [Leads, transcript, List.append_nil]
  rfl

theorem leads_raises {e : E} : Leads h post (.raises e) s past ↔ post (.error e) s past := by
  rw [Leads, transcript, List.append_nil]
  rfl

theorem leads_ask {q : Q} {next : A → Dialogue Q A N E α} :
    Leads h post (.ask q next) s past ↔
      Leads h post (next (h.ask q s).1) (h.ask q s).2 (past ++ [(q, (h.ask q s).1)]) := by
  rw [Leads, Leads, transcript, List.append_assoc]
  rfl

theorem leads_tell {n : N} {next : Dialogue Q A N E α} :
    Leads h post (.tell n next) s past ↔ Leads h post next (h.tell n s) past := Iff.rfl

theorem leads_bind {post : Except E β → σ → List (Q × A) → Prop} {d : Dialogue Q A N E α}
    {f : α → Dialogue Q A N E β} :
    Leads h post (d >>= f) s past ↔
      Leads h (fun r s t => match r with
        | .ok a => Leads h post (f a) s t
        | .error e => post (.error e) s t) d s past := by
  induction d generalizing s past with
  | done a =>
    rw [leads_done]
    rfl
  | raises e =>
    rw [leads_raises]
    exact leads_raises
  | ask q next ih =>
    rw [leads_ask]
    exact leads_ask.trans (ih _)
  | tell n next ih => exact ih

end Executions

section Simulations

variable {τ : Type} {h} {k : Handler Q A N τ}

/-- Two environments answer alike as long as `R` relates them, under what is left of a dialogue. -/
structure Simulates (h : Handler Q A N σ) (k : Handler Q A N τ)
    (R : Dialogue Q A N E α → σ → τ → Prop) : Prop where
  ask : ∀ q next s t, R (.ask q next) s t →
    (k.ask q t).1 = (h.ask q s).1 ∧ R (next (h.ask q s).1) (h.ask q s).2 (k.ask q t).2
  tell : ∀ n next s t, R (.tell n next) s t → R next (h.tell n s) (k.tell n t)

/-- A dialogue ends alike in environments that answer it alike. -/
theorem Simulates.run {R : Dialogue Q A N E α → σ → τ → Prop} (hR : Simulates h k R)
    {d : Dialogue Q A N E α} {s : σ} {t : τ} (hd : R d s t) :
    (run k d t).1 = (run h d s).1 ∧
      R (.ofExcept (run h d s).1) (run h d s).2 (run k d t).2 := by
  induction d generalizing s t with
  | done a => exact ⟨rfl, hd⟩
  | raises e => exact ⟨rfl, hd⟩
  | ask q next ih =>
    obtain ⟨hanswer, hnext⟩ := hR.ask q next s t hd
    have hrun := ih _ hnext
    simp only [Dialogues.run, hanswer]
    exact hrun
  | tell n next ih => exact ih (hR.tell n next s t hd)

theorem Asks.simulates {P : Q → Prop} {R : σ → τ → Prop}
    (hask : ∀ q s t, P q → R s t →
      (k.ask q t).1 = (h.ask q s).1 ∧ R (h.ask q s).2 (k.ask q t).2)
    (htell : ∀ n s t, R s t → R (h.tell n s) (k.tell n t)) {d : Dialogue Q A N E α}
    (hd : Asks P d) {s : σ} {t : τ} (hs : R s t) :
    (Dialogues.run k d t).1 = (Dialogues.run h d s).1 ∧
      R (Dialogues.run h d s).2 (Dialogues.run k d t).2 := by
  have hsimulates : Simulates h k fun (d : Dialogue Q A N E α) s t => Asks P d ∧ R s t := by
    refine ⟨fun q next s t hrest => ?_, fun n next s t hrest => ?_⟩
    · obtain ⟨hanswer, hstates⟩ := hask q s t hrest.1.1 hrest.2
      exact ⟨hanswer, hrest.1.2 _, hstates⟩
    · exact ⟨hrest.1, htell n s t hrest.2⟩
  obtain ⟨houtcome, -, hstates⟩ := hsimulates.run ⟨hd, hs⟩
  exact ⟨houtcome, hstates⟩

end Simulations

end Dialogues
