import Mathlib.Algebra.BigOperators.Group.List.Basic
import Mathlib.Algebra.Order.Ring.Nat
import Watlowlib.TransitionSystem

/-! # Workers over a table that changes

A group of workers, each with a list of items. A worker looks an item up in a shared table when its
turn comes, waits for an answer, and writes what it got to a common log: after every item, or once
for its whole list. A missing item or a fatal answer aborts the group. -/
namespace TaskGroups

open TransitionSystem

universe u v w x

variable {Table : Type u} {Item : Type v} {Handle : Type w} {Answer : Type x}

/-- What the workers do: the look-up, the answers an item may get, which of them are fatal, and
whether a worker writes its whole list at once, after a further wait in front of it. -/
structure Job (Table : Type u) (Item : Type v) (Handle : Type w) (Answer : Type x) where
  look : Table → Item → Option Handle
  ends : Item → Handle → Answer → Prop
  fatal : Answer → Bool
  batched : Bool

inductive Worker (Item : Type v) (Handle : Type w) (Answer : Type x) where
  | waiting (todo : List Item)
  | locking (todo : List Item)
  | busy (item : Item) (handle : Handle) (todo : List Item) (got : List (Item × Answer))
  | storing (todo : List Item) (got : List (Item × Answer))
  | finished

inductive Abort (Item : Type v) (Answer : Type x) where
  | missing (item : Item)
  | fatal (answer : Answer)

structure Group (Table : Type u) (Item : Type v) (Handle : Type w) (Answer : Type x) where
  table : Table
  workers : List (Worker Item Handle Answer)
  log : List (Item × Answer)
  aborted : Option (Abort Item Answer)

section Turns

variable (job : Job Table Item Handle Answer) (table : Table)

def enter : List Item → Except (Abort Item Answer) (Worker Item Handle Answer)
  | [] => .ok .finished
  | item :: todo =>
    match job.look table item with
    | none => .error (.missing item)
    | some _ => .ok (.locking (item :: todo))

def next (got : List (Item × Answer)) :
    List Item → Except (Abort Item Answer) (Worker Item Handle Answer)
  | [] => .ok .finished
  | item :: todo =>
    match job.look table item with
    | none => .error (.missing item)
    | some handle => .ok (.busy item handle todo got)

/-- A worker up to its next wait, with what it writes to the log. -/
def takeTurn (answer : Answer) :
    Worker Item Handle Answer →
      Except (Abort Item Answer) (Worker Item Handle Answer) × List (Item × Answer)
  | .waiting todo => (if job.batched then enter job table todo else next job table [] todo, [])
  | .locking todo => (next job table [] todo, [])
  | .busy item _ todo got =>
    if job.fatal answer then (.error (.fatal answer), [])
    else if job.batched = true ∧ todo ≠ [] then (next job table (got ++ [(item, answer)]) todo, [])
    else (.ok (.storing todo (got ++ [(item, answer)])), [])
  | .storing todo got => (next job table [] todo, got)
  | .finished => (.ok .finished, [])

end Turns

def Worker.pending : Worker Item Handle Answer → List Item
  | .waiting todo => todo
  | .locking todo => todo
  | .busy _ _ todo _ => todo
  | .storing todo _ => todo
  | .finished => []

def Worker.got : Worker Item Handle Answer → List (Item × Answer)
  | .busy _ _ _ got => got
  | .storing _ got => got
  | _ => []

def Worker.items : Worker Item Handle Answer → List Item
  | .waiting todo => todo
  | .locking todo => todo
  | .busy item _ todo got => got.map Prod.fst ++ item :: todo
  | .storing todo got => got.map Prod.fst ++ todo
  | .finished => []

/-- How many more turns a worker takes at most. -/
def Worker.work : Worker Item Handle Answer → ℕ
  | .waiting todo => 2 * todo.length + 2
  | .locking todo => 2 * todo.length + 1
  | .busy _ _ todo _ => 2 * todo.length + 2
  | .storing todo _ => 2 * todo.length + 1
  | .finished => 0

def Group.pending (s : Group Table Item Handle Answer) : List Item :=
  s.workers.flatMap Worker.pending

def Group.items (s : Group Table Item Handle Answer) : List Item := s.workers.flatMap Worker.items

/-- How many more turns the group takes at most. -/
def Group.work (s : Group Table Item Handle Answer) : ℕ :=
  match s.aborted with
  | none => (s.workers.map Worker.work).sum
  | some _ => 0

def Group.Ended (s : Group Table Item Handle Answer) : Prop :=
  s.aborted = none ∧ ∀ w ∈ s.workers, w = .finished

def Group.after (s : Group Table Item Handle Answer)
    (before behind : List (Worker Item Handle Answer)) :
    Except (Abort Item Answer) (Worker Item Handle Answer) × List (Item × Answer) →
      Group Table Item Handle Answer
  | (.ok w, stored) => { s with workers := before ++ w :: behind, log := s.log ++ stored }
  | (.error a, _) => { s with aborted := some a }

inductive Event (Table : Type u) where
  | turn
  | change (table : Table)

/-- A worker that has not finished takes a turn, or the table changes. -/
inductive Step (job : Job Table Item Handle Answer) :
    Group Table Item Handle Answer → Event Table → Group Table Item Handle Answer → Prop where
  | turn {s before w behind} (answer : Answer) (hlive : s.aborted = none) (hw : w ≠ .finished)
      (hworkers : s.workers = before ++ w :: behind)
      (hanswer : ∀ item handle todo got, w = .busy item handle todo got →
        job.ends item handle answer) :
      Step job s .turn (s.after before behind (takeTurn job s.table answer w))
  | change {s} (table : Table) : Step job s (.change table) { s with table := table }

section OneTurn

variable {job : Job Table Item Handle Answer} {table : Table} {answer : Answer}
  {w w' : Worker Item Handle Answer} {stored got : List (Item × Answer)} {todo : List Item}

theorem next_ok (h : next job table got todo = .ok w') :
    (todo = [] ∧ w' = .finished) ∨ ∃ item rest handle, todo = item :: rest ∧
      job.look table item = some handle ∧ w' = .busy item handle rest got := by
  cases todo with
  | nil =>
    cases h
    exact Or.inl ⟨rfl, rfl⟩
  | cons item rest =>
    dsimp only [next] at h
    split at h
    · cases h
    · rename_i handle hlook
      cases h
      exact Or.inr ⟨item, rest, handle, rfl, hlook, rfl⟩

theorem enter_ok (h : enter job table todo = .ok w') :
    (todo = [] ∧ w' = .finished) ∨ (todo ≠ [] ∧ w' = .locking todo) := by
  cases todo with
  | nil =>
    cases h
    exact Or.inl ⟨rfl, rfl⟩
  | cons item rest =>
    dsimp only [enter] at h
    split at h
    · cases h
    · cases h
      exact Or.inr ⟨by simp, rfl⟩

/-- The ways a turn can go on. A worker that has nothing left to look up is done with its list. -/
inductive Moves (job : Job Table Item Handle Answer) (table : Table) (answer : Answer) :
    Worker Item Handle Answer → Worker Item Handle Answer → List (Item × Answer) → Prop where
  | idle : Moves job table answer (.waiting []) .finished []
  | idleLocked : Moves job table answer (.locking []) .finished []
  | queue {todo : List Item} (htodo : todo ≠ []) :
      Moves job table answer (.waiting todo) (.locking todo) []
  | start {item handle rest} (hlook : job.look table item = some handle) :
      Moves job table answer (.waiting (item :: rest)) (.busy item handle rest []) []
  | startLocked {item handle rest} (hlook : job.look table item = some handle) :
      Moves job table answer (.locking (item :: rest)) (.busy item handle rest []) []
  | collect {item handle item' handle' rest} {got : List (Item × Answer)}
      (hfatal : job.fatal answer = false) (hlook : job.look table item' = some handle') :
      Moves job table answer (.busy item handle (item' :: rest) got)
        (.busy item' handle' rest (got ++ [(item, answer)])) []
  | answered {item handle} {todo : List Item} {got : List (Item × Answer)}
      (hfatal : job.fatal answer = false) :
      Moves job table answer (.busy item handle todo got)
        (.storing todo (got ++ [(item, answer)])) []
  | store {item handle rest} {got : List (Item × Answer)}
      (hlook : job.look table item = some handle) :
      Moves job table answer (.storing (item :: rest) got) (.busy item handle rest []) got
  | finish {got : List (Item × Answer)} : Moves job table answer (.storing [] got) .finished got

theorem turn_moves (hw : w ≠ .finished) (h : takeTurn job table answer w = (.ok w', stored)) :
    Moves job table answer w w' stored := by
  cases w with
  | waiting todo =>
    simp only [takeTurn, Prod.mk.injEq] at h
    obtain ⟨hnext, rfl⟩ := h
    split at hnext
    · rcases enter_ok hnext with ⟨rfl, rfl⟩ | ⟨htodo, rfl⟩
      · exact .idle
      · exact .queue htodo
    · rcases next_ok hnext with ⟨rfl, rfl⟩ | ⟨item, rest, handle, rfl, hlook, rfl⟩
      · exact .idle
      · exact .start hlook
  | locking todo =>
    simp only [takeTurn, Prod.mk.injEq] at h
    obtain ⟨hnext, rfl⟩ := h
    rcases next_ok hnext with ⟨rfl, rfl⟩ | ⟨item, rest, handle, rfl, hlook, rfl⟩
    · exact .idleLocked
    · exact .startLocked hlook
  | busy item handle todo got =>
    simp only [takeTurn] at h
    split at h
    · cases h
    rename_i hfatal
    split at h
    · rename_i hmore
      obtain ⟨hnext, rfl⟩ := Prod.mk.inj h
      rcases next_ok hnext with ⟨rfl, -⟩ | ⟨item', rest, handle', rfl, hlook, rfl⟩
      · exact absurd rfl hmore.2
      · exact .collect (by simpa using hfatal) hlook
    · cases h
      exact .answered (by simpa using hfatal)
  | storing todo got =>
    simp only [takeTurn, Prod.mk.injEq] at h
    obtain ⟨hnext, rfl⟩ := h
    rcases next_ok hnext with ⟨rfl, rfl⟩ | ⟨item, rest, handle, rfl, hlook, rfl⟩
    · exact .finish
    · exact .store hlook
  | finished => exact absurd rfl hw

theorem Moves.items (h : Moves job table answer w w' stored) :
    stored.map Prod.fst ++ w'.items = w.items := by
  cases h <;> simp [Worker.items]

theorem Moves.pending (h : Moves job table answer w w' stored) : w'.pending ⊆ w.pending := by
  cases h <;> simp [Worker.pending]

theorem Moves.work (h : Moves job table answer w w' stored) : w'.work < w.work := by
  cases h <;> simp [Worker.work] <;> omega

theorem Moves.holds (h : Moves job table answer w w' stored) :
    ∀ e ∈ stored ++ w'.got, e ∈ w.got ∨
      ∃ handle todo got, w = .busy e.1 handle todo got ∧ e.2 = answer ∧
        job.fatal answer = false := by
  cases h with
  | collect hfatal _ =>
    intro e he
    simp only [Worker.got, List.nil_append, List.mem_append, List.mem_singleton] at he
    rcases he with he | rfl
    · exact Or.inl he
    · exact Or.inr ⟨_, _, _, rfl, rfl, hfatal⟩
  | answered hfatal =>
    intro e he
    simp only [Worker.got, List.nil_append, List.mem_append, List.mem_singleton] at he
    rcases he with he | rfl
    · exact Or.inl he
    · exact Or.inr ⟨_, _, _, rfl, rfl, hfatal⟩
  | _ => simp [Worker.got]

theorem turn_aborts {a : Abort Item Answer} (h : takeTurn job table answer w = (.error a, stored)) :
    (∃ item ∈ w.pending, a = .missing item ∧ job.look table item = none) ∨
      ∃ item handle todo got, w = .busy item handle todo got ∧ a = .fatal answer ∧
        job.fatal answer = true := by
  have hnext : ∀ {got todo}, next job table got todo = .error a →
      ∃ item ∈ todo, a = .missing item ∧ job.look table item = none := by
    intro got todo h
    cases todo with
    | nil => cases h
    | cons item rest =>
      dsimp only [next] at h
      split at h
      · rename_i hlook
        cases h
        exact ⟨item, List.mem_cons_self, rfl, hlook⟩
      · cases h
  cases w with
  | waiting todo =>
    simp only [takeTurn, Prod.mk.injEq] at h
    obtain ⟨hfirst, -⟩ := h
    split at hfirst
    · cases todo with
      | nil => cases hfirst
      | cons item rest =>
        dsimp only [enter] at hfirst
        split at hfirst
        · rename_i hlook
          cases hfirst
          exact Or.inl ⟨item, List.mem_cons_self, rfl, hlook⟩
        · cases hfirst
    · exact Or.inl (hnext hfirst)
  | locking todo => exact Or.inl (hnext (Prod.mk.inj h).1)
  | busy item handle todo got =>
    simp only [takeTurn] at h
    split at h
    · rename_i hfatal
      cases h
      exact Or.inr ⟨item, handle, todo, got, rfl, rfl, hfatal⟩
    · split at h
      · exact Or.inl (hnext (Prod.mk.inj h).1)
      · cases h
  | storing todo got => exact Or.inl (hnext (Prod.mk.inj h).1)
  | finished => cases h

end OneTurn

section Runs

variable {job : Job Table Item Handle Answer} {s t : Group Table Item Handle Answer}
  {e : Event Table} {es : List (Event Table)} {all : List Item}

theorem Step.turn_cases (h : Step job s .turn t) :
    s.aborted = none ∧ ∃ before w behind answer, s.workers = before ++ w :: behind ∧
      w ≠ .finished ∧
      (∀ item handle todo got, w = .busy item handle todo got → job.ends item handle answer) ∧
      ((∃ w' stored, Moves job s.table answer w w' stored ∧
          t = { s with workers := before ++ w' :: behind, log := s.log ++ stored }) ∨
        ∃ a, t = { s with aborted := some a } ∧
          ((∃ item ∈ w.pending, a = .missing item ∧ job.look s.table item = none) ∨
            ∃ item handle todo got, w = .busy item handle todo got ∧ a = .fatal answer ∧
              job.fatal answer = true)) := by
  cases h with
  | @turn before w behind answer hlive hw hworkers hanswer =>
    refine ⟨hlive, before, w, behind, answer, hworkers, hw, hanswer, ?_⟩
    cases hturn : takeTurn job s.table answer w with
    | mk r stored =>
      cases r with
      | ok w' => exact Or.inl ⟨w', stored, turn_moves hw hturn, rfl⟩
      | error a => exact Or.inr ⟨a, rfl, turn_aborts hturn⟩

/-- Nothing of the list is lost on its way to the log, and the log holds answers. -/
structure Tracked (job : Job Table Item Handle Answer) (all : List Item)
    (s : Group Table Item Handle Answer) : Prop where
  items : (s.log.map Prod.fst ++ s.items).Perm all
  answered : ∀ e ∈ s.log ++ s.workers.flatMap Worker.got,
    ∃ handle, job.ends e.1 handle e.2 ∧ job.fatal e.2 = false
  fatal : ∀ a, s.aborted = some (.fatal a) →
    ∃ item handle, job.ends item handle a ∧ job.fatal a = true

theorem Step.tracked (h : Step job s e t) (hs : Tracked job all s) : Tracked job all t := by
  obtain ⟨hitems, hanswered, hfatal⟩ := hs
  cases e with
  | change table =>
    cases h
    exact ⟨hitems, hanswered, hfatal⟩
  | turn =>
    obtain ⟨-, before, w, behind, answer, hworkers, -, hanswer, ⟨w', stored, hmoves, rfl⟩ |
      ⟨a, rfl, haborts⟩⟩ := h.turn_cases
    · refine ⟨?_, ?_, hfatal⟩
      · refine List.Perm.trans ?_ hitems
        simp only [Group.items, hworkers, List.flatMap_append, List.flatMap_cons, List.map_append,
          ← hmoves.items, List.append_assoc]
        refine List.Perm.append_left _ ?_
        rw [← List.append_assoc, ← List.append_assoc (before.flatMap Worker.items)]
        exact List.perm_append_comm.append_right _
      · intro e he
        have hcases : e ∈ s.log ++ s.workers.flatMap Worker.got ∨ e ∈ stored ++ w'.got := by
          simp only [hworkers, List.flatMap_append, List.flatMap_cons, List.mem_append] at he ⊢
          tauto
        rcases hcases with he | he
        · exact hanswered e he
        · rcases hmoves.holds e he with he | ⟨handle, todo, got, hw, heq, hnot⟩
          · refine hanswered e ?_
            simp only [hworkers, List.flatMap_append, List.flatMap_cons, List.mem_append]
            tauto
          · rw [heq]
            exact ⟨handle, hanswer _ _ _ _ hw, hnot⟩
    · refine ⟨hitems, hanswered, ?_⟩
      intro a' ha'
      cases ha'
      rcases haborts with ⟨_, -, ha, -⟩ | ⟨item, handle, todo, got, hw, ha, hfatal'⟩
      · cases ha
      · cases ha
        exact ⟨item, handle, hanswer _ _ _ _ hw, hfatal'⟩

/-- A change that leaves in the table whatever the workers have yet to look up. -/
def Harmless (job : Job Table Item Handle Answer) (s : Group Table Item Handle Answer) :
    Event Table → Prop
  | .turn => True
  | .change table => ∀ item ∈ s.pending, job.look table item ≠ none

structure Found (job : Job Table Item Handle Answer) (s : Group Table Item Handle Answer) :
    Prop where
  pending : ∀ item ∈ s.pending, job.look s.table item ≠ none
  aborted : ∀ item, s.aborted ≠ some (.missing item)

theorem Step.found (hharmless : Harmless job s e) (h : Step job s e t) (hs : Found job s) :
    Found job t := by
  obtain ⟨hpending, haborted⟩ := hs
  cases e with
  | change table =>
    cases h
    exact ⟨hharmless, haborted⟩
  | turn =>
    obtain ⟨-, before, w, behind, answer, hworkers, -, -, ⟨w', stored, hmoves, rfl⟩ |
      ⟨a, rfl, haborts⟩⟩ := h.turn_cases
    · refine ⟨?_, haborted⟩
      intro item hitem
      refine hpending item ?_
      simp only [Group.pending, hworkers, List.flatMap_append, List.flatMap_cons,
        List.mem_append] at hitem ⊢
      rcases hitem with hitem | hitem | hitem
      · exact Or.inl hitem
      · exact Or.inr (Or.inl (hmoves.pending hitem))
      · exact Or.inr (Or.inr hitem)
    · refine ⟨hpending, ?_⟩
      intro item ha
      cases ha
      rcases haborts with ⟨item', hitem', ha, hlook⟩ | ⟨_, _, _, _, -, ha, -⟩
      · refine hpending item' ?_ hlook
        simp only [Group.pending, hworkers, List.flatMap_append, List.flatMap_cons, List.mem_append]
        exact Or.inr (Or.inl hitem')
      · cases ha

theorem work_pos {w : Worker Item Handle Answer} (hw : w ≠ .finished) : 0 < w.work := by
  cases w with
  | finished => exact absurd rfl hw
  | _ => simp [Worker.work]

theorem Step.work (h : Step job s .turn t) : t.work < s.work := by
  obtain ⟨hlive, before, w, behind, answer, hworkers, hw, -, ⟨w', stored, hmoves, rfl⟩ |
    ⟨a, rfl, -⟩⟩ := h.turn_cases
  · have hless := hmoves.work
    simp only [Group.work, hlive, hworkers, List.map_append, List.map_cons, List.sum_append,
      List.sum_cons]
    omega
  · have hpos := work_pos hw
    simp only [Group.work, hlive, hworkers, List.map_append, List.map_cons, List.sum_append,
      List.sum_cons]
    omega

def turns (es : List (Event Table)) : ℕ :=
  es.countP fun
    | .turn => true
    | .change _ => false

/-- The workers take finitely many turns, whatever the table does. -/
theorem run_turns (h : Run (Step job) s es t) : turns es + t.work ≤ s.work := by
  induction h with
  | nil => simp [turns]
  | @cons s e u es t he _ ih =>
    cases e with
    | turn =>
      have hless := he.work
      simp only [turns, List.countP_cons_of_pos] at ih ⊢
      omega
    | change table =>
      have hsame : u.work = s.work := by
        cases he
        rfl
      simpa [turns, hsame] using ih

theorem ended_or_turn [Nonempty Answer]
    (hends : ∀ item handle, ∃ answer, job.ends item handle answer) (hlive : s.aborted = none) :
    s.Ended ∨ ∃ t, Step job s .turn t := by
  by_cases hall : ∀ w ∈ s.workers, w = .finished
  · exact Or.inl ⟨hlive, hall⟩
  · right
    simp only [not_forall, exists_prop] at hall
    obtain ⟨w, hmem, hw⟩ := hall
    obtain ⟨before, behind, hworkers⟩ := List.append_of_mem hmem
    have hanswer : ∃ answer, ∀ item handle todo got, w = .busy item handle todo got →
        job.ends item handle answer := by
      cases w with
      | busy item handle todo got =>
        obtain ⟨answer, ha⟩ := hends item handle
        refine ⟨answer, ?_⟩
        intro item' handle' todo' got' heq
        cases heq
        exact ha
      | _ => exact ⟨Classical.arbitrary Answer, by simp⟩
    obtain ⟨answer, hanswer⟩ := hanswer
    exact ⟨_, .turn answer hlive hw hworkers hanswer⟩

theorem Tracked.ended (h : Tracked job all s) (hend : s.Ended) :
    (s.log.map Prod.fst).Perm all ∧
      ∀ e ∈ s.log, ∃ handle, job.ends e.1 handle e.2 ∧ job.fatal e.2 = false := by
  have hitems : s.items = [] := by
    rw [Group.items, List.flatMap_eq_nil_iff]
    intro w hw
    rw [hend.2 w hw]
    rfl
  constructor
  · simpa [hitems] using h.items
  · exact fun e he => h.answered e (List.mem_append_left _ he)

end Runs

end TaskGroups
