import Mathlib.Data.List.Basic

/-! # A bounded queue with several receivers

The queue remembers what was sent and who took what, and carries the proof that nothing else
happened to an item and that it never holds more than its capacity. Its operations do not wait. -/
namespace BoundedFifos

universe u v

variable {Party : Type u} {β : Type v} {capacity : ℕ}

structure Fifo (Party : Type u) (β : Type v) (capacity : ℕ) where
  items : List β
  sent : List β
  taken : List (Party × β)
  balanced : sent = taken.map Prod.snd ++ items
  bounded : items.length ≤ capacity

def empty : Fifo Party β capacity := ⟨[], [], [], rfl, Nat.zero_le _⟩

def Fifo.sendNowait (q : Fifo Party β capacity) (b : β) : Option (Fifo Party β capacity) :=
  if h : q.items.length < capacity then
    some
      { items := q.items ++ [b]
        sent := q.sent ++ [b]
        taken := q.taken
        balanced := by rw [q.balanced, List.append_assoc]
        bounded := by
          rw [List.length_append]
          exact h }
  else none

def Fifo.receiveNowait (q : Fifo Party β capacity) (who : Party) :
    Option (β × Fifo Party β capacity) :=
  match h : q.items with
  | [] => none
  | b :: rest =>
    some (b,
      { items := rest
        sent := q.sent
        taken := q.taken ++ [(who, b)]
        balanced := by rw [q.balanced, h]; simp
        bounded := by
          have hbounded := q.bounded
          rw [h, List.length_cons] at hbounded
          omega })

/-- What one party took, in the order in which it did. -/
def Fifo.takenBy [DecidableEq Party] (q : Fifo Party β capacity) (who : Party) : List β :=
  (q.taken.filter fun e => e.1 = who).map Prod.snd

section Operations

variable {q q' : Fifo Party β capacity} {b : β} {who : Party}

theorem sendNowait_some (h : q.sendNowait b = some q') :
    q.items.length < capacity ∧ q'.items = q.items ++ [b] ∧ q'.sent = q.sent ++ [b] ∧
      q'.taken = q.taken := by
  simp only [Fifo.sendNowait] at h
  split at h
  · rename_i hroom
    cases h
    exact ⟨hroom, rfl, rfl, rfl⟩
  · cases h

theorem sendNowait_none_iff : q.sendNowait b = none ↔ q.items.length = capacity := by
  have hbounded := q.bounded
  simp only [Fifo.sendNowait]
  split
  · rename_i hroom
    refine iff_of_false (by simp) ?_
    omega
  · rename_i hfull
    refine iff_of_true rfl ?_
    omega

theorem receiveNowait_some (h : q.receiveNowait who = some (b, q')) :
    q.items = b :: q'.items ∧ q'.sent = q.sent ∧ q'.taken = q.taken ++ [(who, b)] := by
  simp only [Fifo.receiveNowait] at h
  split at h
  · cases h
  · rename_i hitems
    cases h
    exact ⟨hitems, rfl, rfl⟩

theorem receiveNowait_none_iff : q.receiveNowait who = none ↔ q.items = [] := by
  simp only [Fifo.receiveNowait]
  split
  · rename_i hitems
    exact iff_of_true rfl hitems
  · rename_i hitems
    exact iff_of_false (by simp) (by simp [hitems])

variable [DecidableEq Party]

theorem takenBy_sublist (q : Fifo Party β capacity) (who : Party) :
    (q.takenBy who).Sublist q.sent := by
  rw [q.balanced]
  exact (List.filter_sublist.map Prod.snd).trans (List.sublist_append_left _ _)

theorem takenBy_append {who' : Party} (h : q'.taken = q.taken ++ [(who', b)]) :
    q'.takenBy who = q.takenBy who ++ if who' = who then [b] else [] := by
  simp only [Fifo.takenBy, h, List.filter_append, List.map_append]
  congr 1
  by_cases hwho : who' = who
  · simp [hwho]
  · simp [hwho]

theorem takenBy_eq (h : q'.taken = q.taken) : q'.takenBy who = q.takenBy who := by
  simp only [Fifo.takenBy, h]

theorem sent_length {a c : Party} (hparties : ∀ who, who = a ∨ who = c) (hne : a ≠ c)
    (q : Fifo Party β capacity) :
    q.sent.length = (q.takenBy a).length + (q.takenBy c).length + q.items.length := by
  have hsplit : ∀ l : List (Party × β), l.length =
      (l.filter fun e => e.1 = a).length + (l.filter fun e => e.1 = c).length := by
    intro l
    induction l with
    | nil => rfl
    | cons e l ih =>
      rcases hparties e.1 with he | he
      · simp only [List.length_cons, List.filter_cons, he, decide_true, if_true, hne,
          decide_false, Bool.false_eq_true, if_false]
        omega
      · simp only [List.length_cons, List.filter_cons, he, decide_true, if_true, Ne.symm hne,
          decide_false, Bool.false_eq_true, if_false]
        omega
  rw [q.balanced, List.length_append, List.length_map, hsplit]
  simp only [Fifo.takenBy, List.length_map]

theorem takenBy_items {a c : Party} (hparties : ∀ who, who = a ∨ who = c)
    (q : Fifo Party β capacity) (hnone : q.takenBy c = []) : q.takenBy a ++ q.items = q.sent := by
  have hall : q.taken.filter (fun e => decide (e.1 = a)) = q.taken := by
    rw [List.filter_eq_self]
    intro e he
    rcases hparties e.1 with ha | hc
    · exact decide_eq_true ha
    · have hmem : e ∈ q.taken.filter fun e => e.1 = c := by simp [he, hc]
      rw [List.map_eq_nil_iff.mp hnone] at hmem
      cases hmem
  rw [q.balanced, Fifo.takenBy, hall]

end Operations

end BoundedFifos
