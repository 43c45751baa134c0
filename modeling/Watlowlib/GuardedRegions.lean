import Mathlib.Data.List.Nodup
import Watlowlib.TransitionSystem

/-! # Re-entrant regions over a FIFO mutex

Tasks run structured programs whose guarded parts hold one mutex. The mutex is not re-entrant; a
part that is entered by the owner runs without taking it again. Release hands the mutex to the
first waiter. Faults and cancellations unwind a program through the parts it is inside. -/
namespace GuardedRegions

open TransitionSystem

variable {α : Type}

/-- Programs over exchanges labelled in `α`. A check may fail; `attempt` handles some faults. -/
inductive Prog (α : Type) where
  | skip
  | check
  | exchange (a : α)
  | seq (p q : Prog α)
  | guarded (p : Prog α)
  | attempt (p : Prog α)
  deriving DecidableEq, Repr

def Prog.block : List (Prog α) → Prog α
  | [] => .skip
  | p :: ps => .seq p (block ps)

/-- An exchange stands outside every guarded part. -/
def Prog.Bare : Prog α → Prop
  | .exchange _ => True
  | .seq p q => p.Bare ∨ q.Bare
  | .attempt p => p.Bare
  | _ => False

/-- The outermost guarded parts. -/
def Prog.regions : Prog α → ℕ
  | .seq p q => p.regions + q.regions
  | .guarded _ => 1
  | .attempt p => p.regions
  | _ => 0

/-- What a task still has to do, innermost first. `leave owned` ends a region, which holds the
mutex itself or inside another that does. -/
inductive Frame (α : Type) where
  | run (p : Prog α)
  | inside (a : α)
  | leave (owned : Bool)
  | handler
  deriving DecidableEq, Repr

inductive Mode where
  | running
  | raising (handled : Bool)
  | waiting
  deriving DecidableEq, Repr

structure Task (α : Type) where
  frames : List (Frame α)
  mode : Mode
  calls : ℕ

structure State (α : Type) where
  owner : Option ℕ
  queue : List ℕ
  tasks : ℕ → Task α

def State.setFrames (s : State α) (τ : ℕ) (frames : List (Frame α)) (mode : Mode) : State α :=
  { s with tasks := Function.update s.tasks τ ⟨frames, mode, (s.tasks τ).calls⟩ }

def State.startCall (s : State α) (τ : ℕ) (p : Prog α) : State α :=
  { s with tasks := Function.update s.tasks τ ⟨[.run p], .running, (s.tasks τ).calls + 1⟩ }

def State.handOver (s : State α) : State α :=
  { s with owner := s.queue.head?, queue := s.queue.tail }

def initial : State α := ⟨none, [], fun _ => ⟨[], .running, 0⟩⟩

inductive Event (α : Type) where
  | start (τ : ℕ) (p : Prog α)
  | enter (τ call : ℕ) (a : α)
  | reply (τ call : ℕ) (a : α)
  | tick (τ : ℕ)
  deriving DecidableEq, Repr

def Event.Exchange (τ n : ℕ) : Event α → Prop
  | .enter σ m _ => σ = τ ∧ m = n
  | .reply σ m _ => σ = τ ∧ m = n
  | _ => False

/-- Steps of one task that concern neither the mutex nor an exchange. -/
inductive Local : List (Frame α) → Mode → List (Frame α) → Mode → Prop where
  | skip {k} : Local (.run .skip :: k) .running k .running
  | pass {k} : Local (.run .check :: k) .running k .running
  | fail {k} (handled) : Local (.run .check :: k) .running k (.raising handled)
  | seq {p q k} : Local (.run (.seq p q) :: k) .running (.run p :: .run q :: k) .running
  | attempt {p k} : Local (.run (.attempt p) :: k) .running (.run p :: .handler :: k) .running
  | finish {k} : Local (.handler :: k) .running k .running
  | handle {k} : Local (.handler :: k) (.raising true) k .running
  | pass_on {k} : Local (.handler :: k) (.raising false) k (.raising false)
  | drop {p k handled} : Local (.run p :: k) (.raising handled) k (.raising handled)
  | leave {k m} (hm : m ≠ .waiting) : Local (.leave false :: k) m k m

variable (Admitted : Prog α → Prop)

/-- `reuse` is the entry of a task that owns the mutex. A waiter that is cancelled leaves the
queue, or hands the mutex on when it was granted already. -/
inductive Step : State α → Event α → State α → Prop where
  | start {s τ p} (hidle : (s.tasks τ).frames = []) (hp : Admitted p) :
      Step s (.start τ p) (s.startCall τ p)
  | plain {s τ k m} (h : Local (s.tasks τ).frames (s.tasks τ).mode k m) :
      Step s (.tick τ) (s.setFrames τ k m)
  | enter {s τ a k} (hf : (s.tasks τ).frames = .run (.exchange a) :: k)
      (hm : (s.tasks τ).mode = .running) :
      Step s (.enter τ (s.tasks τ).calls a) (s.setFrames τ (.inside a :: k) .running)
  | reply {s τ a k} (m) (hf : (s.tasks τ).frames = .inside a :: k)
      (hm : (s.tasks τ).mode = .running) (hout : m ≠ .waiting) :
      Step s (.reply τ (s.tasks τ).calls a) (s.setFrames τ k m)
  | acquire {s τ p k} (hf : (s.tasks τ).frames = .run (.guarded p) :: k)
      (hm : (s.tasks τ).mode = .running) (hfree : s.owner = none) :
      Step s (.tick τ)
        { s.setFrames τ (.run p :: .leave true :: k) .running with owner := some τ }
  | reuse {s τ p k} (hf : (s.tasks τ).frames = .run (.guarded p) :: k)
      (hm : (s.tasks τ).mode = .running) (hown : s.owner = some τ) :
      Step s (.tick τ) (s.setFrames τ (.run p :: .leave false :: k) .running)
  | wait {s τ σ p k} (hf : (s.tasks τ).frames = .run (.guarded p) :: k)
      (hm : (s.tasks τ).mode = .running) (htaken : s.owner = some σ) (hne : σ ≠ τ) :
      Step s (.tick τ)
        { s.setFrames τ (.run (.guarded p) :: k) .waiting with queue := s.queue ++ [τ] }
  | resume {s τ p k} (hf : (s.tasks τ).frames = .run (.guarded p) :: k)
      (hm : (s.tasks τ).mode = .waiting) (hown : s.owner = some τ) :
      Step s (.tick τ) (s.setFrames τ (.run p :: .leave true :: k) .running)
  | release {s τ k} (hf : (s.tasks τ).frames = .leave true :: k)
      (hm : (s.tasks τ).mode ≠ .waiting) :
      Step s (.tick τ) (s.setFrames τ k (s.tasks τ).mode).handOver
  | interrupt {s τ p k} (hf : (s.tasks τ).frames = .run (.guarded p) :: k)
      (hm : (s.tasks τ).mode = .running) (hother : s.owner ≠ some τ) :
      Step s (.tick τ) (s.setFrames τ k (.raising false))
  | abandon {s τ p k} (hf : (s.tasks τ).frames = .run (.guarded p) :: k)
      (hm : (s.tasks τ).mode = .waiting) (hother : s.owner ≠ some τ) :
      Step s (.tick τ)
        { s.setFrames τ k (.raising false) with queue := s.queue.erase τ }
  | decline {s τ p k} (hf : (s.tasks τ).frames = .run (.guarded p) :: k)
      (hm : (s.tasks τ).mode = .waiting) (hown : s.owner = some τ) :
      Step s (.tick τ) (s.setFrames τ k (.raising false)).handOver

def opens : List (Frame α) → List Bool
  | [] => []
  | .leave owned :: k => owned :: opens k
  | _ :: k => opens k

def Frame.Bare : Frame α → Prop
  | .run p => p.Bare
  | .inside _ => True
  | _ => False

/-- Every exchange that is still to come, or going on, lies in an open region or a guarded part. -/
def Covered : List (Frame α) → Prop
  | [] => True
  | f :: k => (f.Bare → opens k ≠ []) ∧ Covered k

/-- The guarded parts that are still to come outside the open regions. -/
def ahead : List (Frame α) → ℕ
  | [] => 0
  | .run p :: k => (if opens k = [] then p.regions else 0) + ahead k
  | _ :: k => ahead k

def Holds (s : State α) (τ : ℕ) : Prop := opens (s.tasks τ).frames ≠ []

def Inside (s : State α) (τ : ℕ) : Prop := ∃ a k, (s.tasks τ).frames = .inside a :: k

/-- The outermost of the open regions took the mutex, and no other. -/
def Nested (l : List Bool) : Prop := l = [] ∨ ∃ m, l = List.replicate m false ++ [true]

/-- What holds of each task: the owner is inside its regions or a waiter that was granted, and
the queue holds the other waiters. -/
structure Kept (s : State α) (τ : ℕ) : Prop where
  owns : Holds s τ → s.owner = some τ
  nested : Nested (opens (s.tasks τ).frames)
  runs : Holds s τ → (s.tasks τ).mode ≠ .waiting
  waits : (s.tasks τ).mode = .waiting → s.owner = some τ ∨ τ ∈ s.queue
  parked : (s.tasks τ).mode = .waiting → ∃ p k, (s.tasks τ).frames = .run (.guarded p) :: k
  queued : τ ∈ s.queue → (s.tasks τ).mode = .waiting ∧ s.owner ≠ some τ
  granted : s.owner = some τ → Holds s τ ∨ (s.tasks τ).mode = .waiting
  covered : Covered (s.tasks τ).frames

structure Invariant (s : State α) : Prop where
  kept : ∀ τ, Kept s τ
  nodup : s.queue.Nodup
  free : s.owner = none → s.queue = []

section Lists

variable {k k' : List (Frame α)} {m m' : Mode} {l : List Bool}

theorem nested_cons_false (h : Nested l) (hl : l ≠ []) : Nested (false :: l) := by
  rcases h with h | ⟨m, rfl⟩
  · exact absurd h hl
  · exact Or.inr ⟨m + 1, rfl⟩

theorem nested_tail (h : Nested (false :: l)) : Nested l ∧ l ≠ [] := by
  rcases h with h | ⟨m, hm⟩
  · cases h
  · cases m with
    | zero => cases hm
    | succ m =>
      have hl := (List.cons.inj hm).2
      exact ⟨Or.inr ⟨m, hl⟩, by simp [hl]⟩

theorem nested_true (h : Nested (true :: l)) : l = [] := by
  rcases h with h | ⟨m, hm⟩
  · cases h
  · cases m with
    | zero => exact (List.cons.inj hm).2
    | succ m => cases hm

theorem Local.opens_eq (h : Local k m k' m') :
    opens k' = opens k ∨ opens k = false :: opens k' := by
  cases h with
  | leave hm => exact Or.inr rfl
  | _ => exact Or.inl rfl

theorem Local.moves (h : Local k m k' m') : m ≠ .waiting ∧ m' ≠ .waiting := by
  cases h with
  | leave hm => exact ⟨hm, hm⟩
  | _ => exact ⟨nofun, nofun⟩

theorem Local.covered (h : Local k m k' m') (hc : Covered k) : Covered k' := by
  cases h with
  | seq =>
    obtain ⟨hpq, hk⟩ := hc
    exact ⟨fun hp => hpq (Or.inl hp), fun hq => hpq (Or.inr hq), hk⟩
  | attempt =>
    obtain ⟨hp, hk⟩ := hc
    exact ⟨hp, nofun, hk⟩
  | _ => exact hc.2

theorem Local.ahead_le (h : Local k m k' m') : ahead k' ≤ ahead k := by
  cases h with
  | @seq p q k =>
    by_cases hk : opens k = []
    · simp only [ahead, opens, Prog.regions, hk, if_true]
      omega
    · simp only [ahead, opens, hk, if_false]
      omega
  | @attempt p k =>
    change (if opens k = [] then p.regions else 0) + ahead k ≤ _
    exact Nat.le_refl _
  | drop => simp [ahead]
  | _ => simp [ahead, Prog.regions]

end Lists

section States

variable {s t : State α} {τ σ : ℕ} {k : List (Frame α)} {m : Mode}

@[simp] theorem setFrames_self :
    (s.setFrames τ k m).tasks τ = ⟨k, m, (s.tasks τ).calls⟩ := Function.update_self ..

@[simp] theorem setFrames_other (h : σ ≠ τ) : (s.setFrames τ k m).tasks σ = s.tasks σ :=
  Function.update_of_ne h ..

@[simp] theorem setFrames_owner : (s.setFrames τ k m).owner = s.owner := rfl

@[simp] theorem handOver_tasks : s.handOver.tasks = s.tasks := rfl

@[simp] theorem handOver_owner : s.handOver.owner = s.queue.head? := rfl

@[simp] theorem handOver_queue : s.handOver.queue = s.queue.tail := rfl

@[simp] theorem setFrames_queue : (s.setFrames τ k m).queue = s.queue := rfl

theorem Kept.transfer (h : Kept s σ) (htask : t.tasks σ = s.tasks σ)
    (howner : t.owner = some σ ↔ s.owner = some σ) (hqueue : σ ∈ t.queue ↔ σ ∈ s.queue) :
    Kept t σ := by
  obtain ⟨owns, nested, runs, waits, parked, queued, granted, covered⟩ := h
  constructor
  all_goals simp only [Holds, htask, howner, hqueue, ne_eq]
  · exact owns
  · exact nested
  · exact runs
  · exact waits
  · exact parked
  · exact queued
  · exact granted
  · exact covered

theorem Kept.inRegion (howner : t.owner = some τ) (hqueue : τ ∉ t.queue)
    (hheld : opens (t.tasks τ).frames ≠ []) (hnested : Nested (opens (t.tasks τ).frames))
    (hm : (t.tasks τ).mode ≠ .waiting) (hc : Covered (t.tasks τ).frames) : Kept t τ :=
  ⟨fun _ => howner, hnested, fun _ => hm, fun h => absurd h hm, fun h => absurd h hm,
    fun h => absurd h hqueue, fun _ => Or.inl hheld, hc⟩

theorem Kept.outside (howner : t.owner ≠ some τ) (hqueue : τ ∉ t.queue)
    (hout : opens (t.tasks τ).frames = []) (hm : (t.tasks τ).mode ≠ .waiting)
    (hc : Covered (t.tasks τ).frames) : Kept t τ :=
  ⟨fun h => absurd hout h, Or.inl hout, fun _ => hm, fun h => absurd h hm,
    fun h => absurd h hm, fun h => absurd h hqueue, fun h => absurd h howner, hc⟩

theorem Kept.not_queued (h : Kept s τ) (hm : (s.tasks τ).mode ≠ .waiting) : τ ∉ s.queue :=
  fun hq => hm (h.queued hq).1

theorem Kept.holds_iff (h : Kept s τ) (hm : (s.tasks τ).mode ≠ .waiting) :
    Holds s τ ↔ s.owner = some τ := by
  constructor
  · exact h.owns
  · intro ho
    exact (h.granted ho).resolve_right hm

theorem Kept.move (h : Kept s τ) (hm : (s.tasks τ).mode ≠ .waiting) (hm' : m ≠ .waiting)
    (hiff : opens k = [] ↔ opens (s.tasks τ).frames = []) (hnested : Nested (opens k))
    (hc : Covered k) : Kept (s.setFrames τ k m) τ := by
  by_cases hout : opens k = []
  · have hnot : ¬ Holds s τ := fun hh => hh (hiff.mp hout)
    apply Kept.outside
    · exact fun ho => hnot ((h.holds_iff hm).mpr ho)
    · exact h.not_queued hm
    · rw [setFrames_self]
      exact hout
    · rw [setFrames_self]
      exact hm'
    · rw [setFrames_self]
      exact hc
  · apply Kept.inRegion
    · exact h.owns fun hk => hout (hiff.mpr hk)
    · exact h.not_queued hm
    · rw [setFrames_self]
      exact hout
    · rw [setFrames_self]
      exact hnested
    · rw [setFrames_self]
      exact hm'
    · rw [setFrames_self]
      exact hc

theorem Kept.framesCovered (h : Kept s τ) {f : Frame α} (hf : (s.tasks τ).frames = f :: k) :
    Covered (f :: k) := hf ▸ h.covered

/-- The mutex goes to the first waiter; nobody else notices. -/
theorem Kept.handedOver (h : Invariant s) (howner : s.owner = some τ) (hne : σ ≠ τ) :
    Kept (s.setFrames τ k m).handOver σ := by
  obtain ⟨owns, nested, runs, waits, parked, queued, granted, covered⟩ := h.kept σ
  have hother : s.owner ≠ some σ := fun ho => hne (Option.some.inj (ho.symm.trans howner))
  have hnot : ¬ Holds s σ := fun hh => hother (owns hh)
  have hhead : s.queue.head? = some σ → σ ∈ s.queue := List.mem_of_mem_head?
  constructor
  all_goals simp only [Holds, handOver_tasks, handOver_owner, handOver_queue, setFrames_queue,
    setFrames_other hne]
  · exact fun hh => absurd hh hnot
  · exact nested
  · exact runs
  · intro hw
    have hmem := (waits hw).resolve_left hother
    cases hq : s.queue with
    | nil => simp [hq] at hmem
    | cons a as =>
      rw [hq] at hmem
      rcases List.mem_cons.mp hmem with rfl | hmem
      · exact Or.inl rfl
      · exact Or.inr hmem
  · exact parked
  · intro hmem
    refine ⟨(queued (List.mem_of_mem_tail hmem)).1, ?_⟩
    intro ho
    have hnodup := h.nodup
    cases hq : s.queue with
    | nil => simp [hq] at hmem
    | cons a as =>
      rw [hq] at ho hmem hnodup
      cases ho
      exact (List.nodup_cons.mp hnodup).1 hmem
  · intro ho
    exact Or.inr (queued (hhead ho)).1
  · exact covered

theorem Kept.gaveAway (h : Invariant s) (howner : s.owner = some τ) (hout : opens k = [])
    (hm : m ≠ .waiting) (hc : Covered k) : Kept (s.setFrames τ k m).handOver τ := by
  have hqueue : τ ∉ s.queue := fun hq => ((h.kept τ).queued hq).2 howner
  apply Kept.outside
  · intro ho
    exact hqueue (List.mem_of_mem_head? ho)
  · intro hq
    exact hqueue (List.mem_of_mem_tail hq)
  all_goals simp only [handOver_tasks, setFrames_self]
  · exact hout
  · exact hm
  · exact hc

theorem handOver_free (h : Invariant s) : (s.setFrames τ k m).handOver.queue.Nodup ∧
    ((s.setFrames τ k m).handOver.owner = none → (s.setFrames τ k m).handOver.queue = []) := by
  refine ⟨h.nodup.tail, ?_⟩
  intro hfree
  have hnil : s.queue = [] := List.head?_eq_none_iff.mp hfree
  simp [State.handOver, hnil]

end States

section Steps

variable {Admitted} {s t : State α} {e : Event α} {τ σ : ℕ}

theorem initial_invariant : Invariant (initial : State α) := by
  refine ⟨fun τ => ?_, List.nodup_nil, fun _ => rfl⟩
  exact Kept.outside nofun List.not_mem_nil rfl nofun trivial

theorem covered_guarded {k : List (Frame α)} {p : Prog α} {owned : Bool}
    (h : Covered (.run (.guarded p) :: k)) : Covered (.run p :: .leave owned :: k) :=
  ⟨fun _ => List.cons_ne_nil _ _, nofun, h.2⟩

section Tasks

variable {k : List (Frame α)} {m : Mode} {p : Prog α}

theorem Invariant.moved (h : Invariant s) (hm : (s.tasks τ).mode ≠ .waiting) (hm' : m ≠ .waiting)
    (hiff : opens k = [] ↔ opens (s.tasks τ).frames = []) (hnested : Nested (opens k))
    (hc : Covered k) : Invariant (s.setFrames τ k m) := by
  refine ⟨fun σ => ?_, h.nodup, h.free⟩
  by_cases hσ : σ = τ
  · subst hσ
    exact (h.kept σ).move hm hm' hiff hnested hc
  · exact (h.kept σ).transfer (setFrames_other hσ) Iff.rfl Iff.rfl

theorem Invariant.stayed (h : Invariant s) (hm : (s.tasks τ).mode ≠ .waiting) (hm' : m ≠ .waiting)
    (hopens : opens k = opens (s.tasks τ).frames) (hc : Covered k) :
    Invariant (s.setFrames τ k m) := by
  have hnested := (h.kept τ).nested
  rw [← hopens] at hnested
  exact h.moved hm hm' (by rw [hopens]) hnested hc

theorem Invariant.plain (h : Invariant s) (hl : Local (s.tasks τ).frames (s.tasks τ).mode k m) :
    Invariant (s.setFrames τ k m) := by
  have hc := hl.covered (h.kept τ).covered
  have hnested := (h.kept τ).nested
  rcases hl.opens_eq with hopens | hopens
  · exact h.stayed hl.moves.1 hl.moves.2 hopens hc
  · rw [hopens] at hnested
    obtain ⟨hinner, hne⟩ := nested_tail hnested
    refine h.moved hl.moves.1 hl.moves.2 ?_ hinner hc
    rw [hopens]
    exact iff_of_false hne (List.cons_ne_nil _ _)

theorem Invariant.started (h : Invariant s) (hidle : (s.tasks τ).frames = []) (hp : ¬ p.Bare) :
    Invariant (s.startCall τ p) := by
  refine ⟨fun σ => ?_, h.nodup, h.free⟩
  by_cases hσ : σ = τ
  · subst hσ
    have hout : ¬ Holds s σ := fun hh => hh (by rw [hidle]; rfl)
    have hm : (s.tasks σ).mode ≠ .waiting := by
      intro hw
      obtain ⟨q, k, hf⟩ := (h.kept σ).parked hw
      rw [hidle] at hf
      cases hf
    apply Kept.outside
    · exact fun ho => hout (((h.kept σ).holds_iff hm).mpr ho)
    · exact (h.kept σ).not_queued hm
    all_goals simp only [State.startCall, Function.update_self]
    · rfl
    · exact nofun
    · exact ⟨fun hb => absurd hb hp, trivial⟩
  · exact (h.kept σ).transfer (Function.update_of_ne hσ ..) Iff.rfl Iff.rfl

theorem Kept.waits_outside (h : Kept s τ) (hf : (s.tasks τ).frames = .run p :: k)
    (hm : (s.tasks τ).mode = .waiting) : opens k = [] := by
  by_contra hk
  exact h.runs (by rw [Holds, hf]; exact hk) hm

theorem Kept.unowned_outside (h : Kept s τ) (hf : (s.tasks τ).frames = .run p :: k)
    (hother : s.owner ≠ some τ) : opens k = [] := by
  by_contra hk
  exact hother (h.owns (by rw [Holds, hf]; exact hk))

theorem Kept.entered (hown : t.owner = some τ) (hqueue : τ ∉ t.queue)
    (htask : t.tasks τ = ⟨.run p :: .leave true :: k, .running, (s.tasks τ).calls⟩)
    (hout : opens k = []) (hc : Covered (.run (.guarded p) :: k)) : Kept t τ := by
  have hnested : Nested (opens (.run p :: .leave true :: k)) := by
    simp only [opens, hout]
    exact Or.inr ⟨0, rfl⟩
  apply Kept.inRegion hown hqueue
  all_goals simp only [htask]
  · exact List.cons_ne_nil _ _
  · exact hnested
  · exact nofun
  · exact covered_guarded hc

theorem Invariant.acquired (h : Invariant s) (hf : (s.tasks τ).frames = .run (.guarded p) :: k)
    (hm : (s.tasks τ).mode = .running) (hfree : s.owner = none) :
    Invariant { s.setFrames τ (.run p :: .leave true :: k) .running with owner := some τ } := by
  refine ⟨fun σ => ?_, h.nodup, nofun⟩
  by_cases hσ : σ = τ
  · subst hσ
    refine Kept.entered rfl ((h.kept σ).not_queued (by simp [hm])) setFrames_self ?_
      ((h.kept σ).framesCovered hf)
    exact (h.kept σ).unowned_outside hf (by simp [hfree])
  · refine (h.kept σ).transfer (setFrames_other hσ) ?_ Iff.rfl
    exact iff_of_false (fun ho => hσ (Option.some.inj ho).symm) (by simp [hfree])

theorem Invariant.resumed (h : Invariant s) (hf : (s.tasks τ).frames = .run (.guarded p) :: k)
    (hm : (s.tasks τ).mode = .waiting) (hown : s.owner = some τ) :
    Invariant (s.setFrames τ (.run p :: .leave true :: k) .running) := by
  refine ⟨fun σ => ?_, h.nodup, h.free⟩
  by_cases hσ : σ = τ
  · subst hσ
    refine Kept.entered hown ?_ setFrames_self ((h.kept σ).waits_outside hf hm)
      ((h.kept σ).framesCovered hf)
    exact fun hq => ((h.kept σ).queued hq).2 hown
  · exact (h.kept σ).transfer (setFrames_other hσ) Iff.rfl Iff.rfl

theorem Invariant.reused (h : Invariant s) (hf : (s.tasks τ).frames = .run (.guarded p) :: k)
    (hm : (s.tasks τ).mode = .running) (hown : s.owner = some τ) :
    Invariant (s.setFrames τ (.run p :: .leave false :: k) .running) := by
  have hrun : (s.tasks τ).mode ≠ .waiting := by simp [hm]
  have hheld := ((h.kept τ).holds_iff hrun).mpr hown
  have hnested := (h.kept τ).nested
  have hk : opens k ≠ [] := by
    rw [Holds, hf] at hheld
    exact hheld
  rw [hf] at hnested
  refine h.moved hrun nofun ?_ (nested_cons_false hnested hk)
    (covered_guarded ((h.kept τ).framesCovered hf))
  exact iff_of_false (List.cons_ne_nil _ _) hheld

theorem Invariant.parked (h : Invariant s) (hf : (s.tasks τ).frames = .run (.guarded p) :: k)
    (hm : (s.tasks τ).mode = .running) (htaken : s.owner = some σ) (hne : σ ≠ τ) :
    Invariant
      { s.setFrames τ (.run (.guarded p) :: k) .waiting with queue := s.queue ++ [τ] } := by
  have hnot : τ ∉ s.queue := (h.kept τ).not_queued (by simp [hm])
  have hother : s.owner ≠ some τ := fun ho => hne (Option.some.inj (htaken.symm.trans ho))
  refine ⟨fun ρ => ?_, ?_, fun hfree => ?_⟩
  · by_cases hρ : ρ = τ
    · subst hρ
      have hk := (h.kept ρ).unowned_outside hf hother
      have hout : opens (.run (.guarded p) :: k) = [] := hk
      constructor
      all_goals simp only [Holds, setFrames_self, setFrames_owner]
      · exact fun hh => absurd hout hh
      · exact Or.inl hout
      · exact fun hh => absurd hout hh
      · exact fun _ => Or.inr (by simp)
      · exact fun _ => ⟨p, k, rfl⟩
      · exact fun _ => ⟨trivial, hother⟩
      · exact fun ho => absurd ho hother
      · exact (h.kept ρ).framesCovered hf
    · exact (h.kept ρ).transfer (setFrames_other hρ) Iff.rfl (by simp [hρ])
  · exact List.nodup_append'.mpr ⟨h.nodup, List.nodup_singleton τ, by simpa using hnot⟩
  · cases htaken.symm.trans hfree

theorem Invariant.abandoned (h : Invariant s) (hf : (s.tasks τ).frames = .run (.guarded p) :: k)
    (hm : (s.tasks τ).mode = .waiting) (hother : s.owner ≠ some τ) :
    Invariant { s.setFrames τ k (.raising false) with queue := s.queue.erase τ } := by
  refine ⟨fun σ => ?_, h.nodup.erase _, fun hfree => ?_⟩
  · by_cases hσ : σ = τ
    · subst hσ
      apply Kept.outside
      · exact hother
      · exact h.nodup.not_mem_erase
      all_goals simp only [setFrames_self]
      · exact (h.kept σ).waits_outside hf hm
      · exact nofun
      · exact ((h.kept σ).framesCovered hf).2
    · exact (h.kept σ).transfer (setFrames_other hσ) Iff.rfl (List.mem_erase_of_ne hσ)
  · simp [h.free hfree]

/-- The owner goes outside and hands the mutex on. -/
theorem Invariant.handedOver (h : Invariant s) (hown : s.owner = some τ) (hout : opens k = [])
    (hm : m ≠ .waiting) (hc : Covered k) : Invariant (s.setFrames τ k m).handOver := by
  refine ⟨fun σ => ?_, (handOver_free h).1, (handOver_free h).2⟩
  by_cases hσ : σ = τ
  · subst hσ
    exact Kept.gaveAway h hown hout hm hc
  · exact Kept.handedOver h hown hσ

end Tasks

theorem step_invariant (hallowed : ∀ p, Admitted p → ¬ p.Bare) (h : Invariant s)
    (hs : Step Admitted s e t) : Invariant t := by
  cases hs with
  | start hidle hp => exact h.started hidle (hallowed _ hp)
  | plain hl => exact h.plain hl
  | @enter τ a k hf hm =>
    have hc := (h.kept τ).framesCovered hf
    exact h.stayed (by simp [hm]) nofun (by rw [hf]; rfl) ⟨fun _ => hc.1 trivial, hc.2⟩
  | @reply τ a k m hf hm hout =>
    exact h.stayed (by simp [hm]) hout (by rw [hf]; rfl) ((h.kept τ).framesCovered hf).2
  | acquire hf hm hfree => exact h.acquired hf hm hfree
  | reuse hf hm hown => exact h.reused hf hm hown
  | wait hf hm htaken hne => exact h.parked hf hm htaken hne
  | resume hf hm hown => exact h.resumed hf hm hown
  | @release τ k hf hm =>
    have hnested := (h.kept τ).nested
    rw [hf] at hnested
    have hown := (h.kept τ).owns (by rw [Holds, hf]; exact List.cons_ne_nil _ _)
    exact h.handedOver hown (nested_true hnested) hm ((h.kept τ).framesCovered hf).2
  | @interrupt τ p k hf hm hother =>
    exact h.stayed (by simp [hm]) nofun (by rw [hf]; rfl) ((h.kept τ).framesCovered hf).2
  | abandon hf hm hother => exact h.abandoned hf hm hother
  | @decline τ p k hf hm hown =>
    exact h.handedOver hown ((h.kept τ).waits_outside hf hm) nofun ((h.kept τ).framesCovered hf).2

theorem inside_holds (h : Invariant s) (hin : Inside s τ) : Holds s τ := by
  obtain ⟨a, k, hf⟩ := hin
  have hc := (h.kept τ).framesCovered hf
  rw [Holds, hf]
  exact hc.1 trivial

theorem inside_exclusive (h : Invariant s) (hτ : Inside s τ) (hσ : Inside s σ) : τ = σ :=
  Option.some.inj (((h.kept τ).owns (inside_holds h hτ)).symm.trans
    ((h.kept σ).owns (inside_holds h hσ)))

/-- Nobody waits for a mutex that he holds: the owner's entry is enabled where it stands. -/
theorem holder_enters {p : Prog α} {k : List (Frame α)} (h : Invariant s) (hheld : Holds s τ)
    (hf : (s.tasks τ).frames = .run (.guarded p) :: k) (hm : (s.tasks τ).mode = .running) :
    Step Admitted s (.tick τ) (s.setFrames τ (.run p :: .leave false :: k) .running) :=
  .reuse hf hm ((h.kept τ).owns hheld)

/-- What a step may do to the frames of its task: going inside from outside uses up one of the
guarded parts ahead, and nothing adds one. -/
structure Moves (k k' : List (Frame α)) : Prop where
  less : ahead k' ≤ ahead k
  enters : opens k = [] → opens k' ≠ [] → ahead k' + 1 ≤ ahead k

theorem moves_inside {k k' : List (Frame α)} (hless : ahead k' ≤ ahead k)
    (hopens : opens k = [] → opens k' = []) : Moves k k' :=
  ⟨hless, fun hk hk' => absurd (hopens hk) hk'⟩

theorem moves_enter {k : List (Frame α)} {p : Prog α} {owned : Bool} :
    Moves (.run (.guarded p) :: k) (.run p :: .leave owned :: k) := by
  refine ⟨?_, fun hk _ => ?_⟩
  · simp only [ahead, opens, reduceCtorEq, if_false]
    omega
  · simp only [opens] at hk
    simp only [ahead, opens, hk, reduceCtorEq, if_true, if_false, Prog.regions]
    omega

theorem moves_drop {f : Frame α} {k : List (Frame α)} (h : ∀ owned, f ≠ .leave owned) :
    Moves (f :: k) k := by
  cases f with
  | leave owned => exact absurd rfl (h owned)
  | run p => exact moves_inside (by simp [ahead]) id
  | _ => exact moves_inside (Nat.le_refl _) id

theorem moves_leave {owned : Bool} {k : List (Frame α)} : Moves (.leave owned :: k) k :=
  moves_inside (Nat.le_refl _) nofun

theorem Local.moves_frames {k k' : List (Frame α)} {m m' : Mode} (h : Local k m k' m') :
    Moves k k' := by
  refine moves_inside h.ahead_le fun hk => ?_
  rcases h.opens_eq with ho | ho
  · exact ho.trans hk
  · rw [hk] at ho
    cases ho

/-- The steps of one task: the others stay as they are, and the task starts a call or moves on in
the one it is in. Only there does it exchange. -/
structure Acts (Admitted : Prog α → Prop) (s : State α) (e : Event α) (t : State α) (τ : ℕ) :
    Prop where
  others : ∀ σ, σ ≠ τ → t.tasks σ = s.tasks σ
  blocked : (t.tasks τ).mode = .waiting → s.owner ≠ some τ
  exchange : ∀ σ n, e.Exchange σ n → σ = τ ∧ n = (s.tasks τ).calls ∧
    opens (t.tasks τ).frames = opens (s.tasks τ).frames ∧ (Inside s τ ∨ Inside t τ)
  moves : (∃ p, Admitted p ∧ (s.tasks τ).frames = [] ∧
      t.tasks τ = ⟨[.run p], .running, (s.tasks τ).calls + 1⟩) ∨
    (Moves (s.tasks τ).frames (t.tasks τ).frames ∧ (t.tasks τ).calls = (s.tasks τ).calls)

theorem acts_of_moves {k : List (Frame α)} {m : Mode} (htask : t.tasks = (s.setFrames τ k m).tasks)
    (hblocked : m = .waiting → s.owner ≠ some τ) (hmoves : Moves (s.tasks τ).frames k) :
    Acts Admitted s (.tick τ) t τ := by
  refine ⟨fun σ hσ => ?_, ?_, nofun, Or.inr ?_⟩
  · rw [htask, setFrames_other hσ]
  · rw [htask, setFrames_self]
    exact hblocked
  · rw [htask, setFrames_self]
    exact ⟨hmoves, rfl⟩

theorem step_acts (hs : Step Admitted s e t) : ∃ τ, Acts Admitted s e t τ := by
  cases hs with
  | @start τ p hidle hp =>
    refine ⟨τ, fun σ hσ => Function.update_of_ne hσ .., ?_, nofun, Or.inl ⟨p, hp, hidle, ?_⟩⟩
    · simp [State.startCall]
    · simp [State.startCall]
  | @plain τ k m hl =>
    exact ⟨τ, acts_of_moves rfl (fun hm => absurd hm hl.moves.2) hl.moves_frames⟩
  | @enter τ a k hf hm =>
    refine ⟨τ, fun σ hσ => setFrames_other hσ, by simp, ?_, Or.inr ?_⟩
    · rintro σ n ⟨rfl, rfl⟩
      refine ⟨rfl, rfl, ?_, Or.inr ⟨a, k, ?_⟩⟩
      · rw [setFrames_self, hf]
        rfl
      · rw [setFrames_self]
    · rw [setFrames_self, hf]
      exact ⟨moves_inside (by simp [ahead, Prog.regions]) id, rfl⟩
  | @reply τ a k m hf hm hout =>
    refine ⟨τ, fun σ hσ => setFrames_other hσ, ?_, ?_, Or.inr ?_⟩
    · rw [setFrames_self]
      exact fun hw => absurd hw hout
    · rintro σ n ⟨rfl, rfl⟩
      refine ⟨rfl, rfl, ?_, Or.inl ⟨a, k, hf⟩⟩
      rw [setFrames_self, hf]
      rfl
    · rw [setFrames_self, hf]
      exact ⟨moves_drop nofun, rfl⟩
  | @acquire τ p k hf hm hfree =>
    exact ⟨τ, acts_of_moves rfl nofun (hf ▸ moves_enter)⟩
  | @reuse τ p k hf hm hown => exact ⟨τ, acts_of_moves rfl nofun (hf ▸ moves_enter)⟩
  | @wait τ ρ p k hf hm htaken hne =>
    refine ⟨τ, acts_of_moves rfl (fun _ ho => ?_) (hf ▸ moves_inside (Nat.le_refl _) id)⟩
    exact hne (Option.some.inj (htaken.symm.trans ho))
  | @resume τ p k hf hm hown => exact ⟨τ, acts_of_moves rfl nofun (hf ▸ moves_enter)⟩
  | @release τ k hf hm =>
    exact ⟨τ, acts_of_moves rfl (fun hw => absurd hw hm) (hf ▸ moves_leave)⟩
  | @interrupt τ p k hf hm hother =>
    exact ⟨τ, acts_of_moves rfl nofun (hf ▸ moves_drop nofun)⟩
  | @abandon τ p k hf hm hother =>
    exact ⟨τ, acts_of_moves rfl nofun (hf ▸ moves_drop nofun)⟩
  | @decline τ p k hf hm hown =>
    exact ⟨τ, acts_of_moves rfl nofun (hf ▸ moves_drop nofun)⟩

theorem step_released (hallowed : ∀ p, Admitted p → ¬ p.Bare) (h : Invariant s)
    (hheld : Holds s τ) (hs : Step Admitted s e t) : t.owner = some τ ↔ Holds t τ := by
  have ht := (step_invariant hallowed h hs).kept τ
  refine ⟨fun ho => (ht.granted ho).resolve_right fun hw => ?_, ht.owns⟩
  obtain ⟨ρ, hacts⟩ := step_acts hs
  by_cases hρ : τ = ρ
  · subst hρ
    exact hacts.blocked hw ((h.kept τ).owns hheld)
  · rw [hacts.others τ hρ] at hw
    exact (h.kept τ).runs hheld hw

end Steps

section Batches

variable {Admitted} {s t : State α} {e : Event α} {es : List (Event α)} {τ σ n m : ℕ}

/-- All that a call still has to exchange lies in one outermost region. -/
def Budget (k : List (Frame α)) : Prop := ahead k ≤ 1 ∧ (opens k ≠ [] → ahead k = 0)

theorem Moves.budget {k k' : List (Frame α)} (h : Moves k k') (hk : Budget k) : Budget k' := by
  refine ⟨Nat.le_trans h.less hk.1, fun hk' => ?_⟩
  by_cases hout : opens k = []
  · have hless := h.enters hout hk'
    have hone := hk.1
    omega
  · have hless := h.less
    have hzero := hk.2 hout
    omega

structure Orderly (s : State α) : Prop where
  invariant : Invariant s
  budget : ∀ τ, Budget (s.tasks τ).frames

theorem initial_orderly : Orderly (initial : State α) :=
  ⟨initial_invariant, fun _ => ⟨Nat.zero_le _, fun _ => rfl⟩⟩

/-- Programs whose exchanges all lie in one guarded part. -/
def OneRegion (p : Prog α) : Prop := ¬ p.Bare ∧ p.regions ≤ 1

theorem step_orderly (hallowed : ∀ p, Admitted p → OneRegion p) (h : Orderly s)
    (hs : Step Admitted s e t) : Orderly t := by
  refine ⟨step_invariant (fun p hp => (hallowed p hp).1) h.invariant hs, fun τ => ?_⟩
  obtain ⟨ρ, hacts⟩ := step_acts hs
  by_cases hρ : τ = ρ
  · subst hρ
    rcases hacts.moves with ⟨p, hp, -, htask⟩ | ⟨hmoves, -⟩
    · rw [htask]
      exact ⟨(hallowed p hp).2, fun hk => absurd rfl hk⟩
    · exact hmoves.budget (h.budget τ)
  · rw [hacts.others τ hρ]
    exact h.budget τ

def During (s : State α) (τ n : ℕ) : Prop := (s.tasks τ).calls = n ∧ Holds s τ

def Past (s : State α) (τ n : ℕ) : Prop :=
  n < (s.tasks τ).calls ∨
    ((s.tasks τ).calls = n ∧ opens (s.tasks τ).frames = [] ∧ ahead (s.tasks τ).frames = 0)

theorem past_not_during (h : Past s τ n) : ¬ During s τ n := by
  rintro ⟨hcalls, hheld⟩
  rcases h with h | ⟨-, hout, -⟩
  · omega
  · exact hheld hout

theorem step_past (h : Past s τ n) (hs : Step Admitted s e t) : Past t τ n := by
  obtain ⟨ρ, hacts⟩ := step_acts hs
  by_cases hρ : τ = ρ
  · subst hρ
    rcases hacts.moves with ⟨p, -, -, htask⟩ | ⟨hmoves, hcalls⟩
    · refine Or.inl ?_
      rw [htask]
      rcases h with h | ⟨h, -, -⟩
      · exact Nat.lt_succ_of_lt h
      · exact h ▸ Nat.lt_succ_self _
    · rcases h with h | ⟨h, hout, hzero⟩
      · exact Or.inl (hcalls ▸ h)
      · have hless := hmoves.less
        refine Or.inr ⟨hcalls.trans h, ?_, by omega⟩
        by_contra hk
        have henters := hmoves.enters hout hk
        omega
  · rw [Past, hacts.others τ hρ]
    exact h

theorem step_during (h : Orderly s) (hd : During s τ n) (hs : Step Admitted s e t) :
    During t τ n ∨ Past t τ n := by
  obtain ⟨ρ, hacts⟩ := step_acts hs
  obtain ⟨hn, hheld⟩ := hd
  by_cases hρ : τ = ρ
  · subst hρ
    rcases hacts.moves with ⟨p, -, hidle, -⟩ | ⟨hmoves, hcalls⟩
    · rw [Holds, hidle] at hheld
      exact absurd rfl hheld
    · by_cases hk : Holds t τ
      · exact Or.inl ⟨hcalls.trans hn, hk⟩
      · have hless := hmoves.less
        have hzero := (h.budget τ).2 hheld
        exact Or.inr (Or.inr ⟨hcalls.trans hn, not_not.mp hk, by omega⟩)
  · rw [During, Holds, hacts.others τ hρ]
    exact Or.inl ⟨hn, hheld⟩

theorem exchange_during (hallowed : ∀ p, Admitted p → OneRegion p) (h : Orderly s)
    (hs : Step Admitted s e t) (he : e.Exchange τ n) : During s τ n ∧ During t τ n := by
  have ht := (step_orderly hallowed h hs).invariant
  obtain ⟨ρ, hacts⟩ := step_acts hs
  obtain ⟨rfl, rfl, hopens, hin⟩ := hacts.exchange τ n he
  have hboth : Holds t τ ↔ Holds s τ := by rw [Holds, Holds, hopens]
  have hheld : Holds s τ := by
    rcases hin with hin | hin
    · exact inside_holds h.invariant hin
    · exact hboth.mp (inside_holds ht hin)
  refine ⟨⟨rfl, hheld⟩, ?_, hboth.mpr hheld⟩
  rcases hacts.moves with ⟨p, -, hidle, -⟩ | ⟨-, hcalls⟩
  · rw [Holds, hidle] at hheld
    exact absurd rfl hheld
  · exact hcalls

theorem run_past (hr : Run (Step Admitted) s es t) (h : Past s τ n) : Past t τ n :=
  hr.invariant (fun s => Past s τ n) (fun _ _ _ h hs => step_past h hs) h

theorem run_during (hallowed : ∀ p, Admitted p → OneRegion p) (hr : Run (Step Admitted) s es t)
    (h : Orderly s) (hd : During s τ n) (hd' : During t τ n) :
    ∀ e ∈ es, ∀ σ m, e.Exchange σ m → σ = τ := by
  induction hr with
  | nil => exact nofun
  | @cons s e u es t he hr ih =>
    have hu : During u τ n := by
      rcases step_during h hd he with hu | hu
      · exact hu
      · exact absurd hd' (past_not_during (run_past hr hu))
    intro e' he' σ m hex
    rcases List.mem_cons.mp he' with rfl | he'
    · have hσ := (exchange_during hallowed h he hex).1.2
      have howner := (h.invariant.kept σ).owns hσ
      exact Option.some.inj (howner.symm.trans ((h.invariant.kept τ).owns hd.2))
    · exact ih (step_orderly hallowed h he) hu hd' e' he' σ m hex

/-- From the first exchange of a call to its last no other task exchanges. -/
theorem batch_undisturbed {es₁ es₂ es₃ : List (Event α)} {a b : Event α}
    (hallowed : ∀ p, Admitted p → OneRegion p) (h : Orderly s)
    (hr : Run (Step Admitted) s (es₁ ++ a :: es₂ ++ b :: es₃) t) (ha : a.Exchange τ n)
    (hb : b.Exchange τ n) : ∀ e ∈ es₂, ∀ σ m, e.Exchange σ m → σ = τ := by
  have hstep : ∀ s e t, Orderly s → Step Admitted s e t → Orderly t :=
    fun _ _ _ h hs => step_orderly hallowed h hs
  obtain ⟨v, hr, hlast⟩ := hr.split
  obtain ⟨u, hfirst, hr⟩ := hr.split
  have hu := hfirst.invariant Orderly hstep h
  cases hr with
  | cons hstep_a hr =>
    cases hlast with
    | cons hstep_b _ =>
      have hu' := step_orderly hallowed hu hstep_a
      have hv := hr.invariant Orderly hstep hu'
      exact run_during hallowed hr hu' (exchange_during hallowed hu hstep_a ha).2
        (exchange_during hallowed hv hstep_b hb).1

end Batches

end GuardedRegions
