import Mathlib.Data.List.AList

/-! # Dictionaries

An association list with unique keys, used through its lookups. -/
namespace Dictionaries

universe u v

abbrev Dict (κ : Type u) (β : Type v) := AList fun _ : κ => β

variable {κ : Type u} {β : Type v} [DecidableEq κ]

theorem lookup_insert_eq (d : Dict κ β) (k k' : κ) (v : β) :
    (d.insert k v).lookup k' = if k' = k then some v else d.lookup k' := by
  by_cases h : k' = k
  · subst h
    simp
  · rw [if_neg h, AList.lookup_insert_ne h]

theorem lookup_insert_cases {d : Dict κ β} {k k' : κ} {v w : β}
    (h : (d.insert k v).lookup k' = some w) :
    (k' = k ∧ w = v) ∨ (k' ≠ k ∧ d.lookup k' = some w) := by
  rw [lookup_insert_eq] at h
  split at h
  · rename_i hk
    exact Or.inl ⟨hk, (Option.some.inj h).symm⟩
  · rename_i hk
    exact Or.inr ⟨hk, h⟩

theorem insert_apart {d : Dict κ β} {R : β → β → Prop} {k : κ} {v : β}
    (hsymm : ∀ {a b}, R a b → R b a)
    (hold : ∀ {i j a b}, d.lookup i = some a → d.lookup j = some b → R a b → i = j)
    (hnew : ∀ i a, i ≠ k → d.lookup i = some a → ¬ R v a) {i j : κ} {a b : β}
    (ha : (d.insert k v).lookup i = some a) (hb : (d.insert k v).lookup j = some b) (hR : R a b) :
    i = j := by
  rcases lookup_insert_cases ha with ⟨hi, rfl⟩ | ⟨hi, hda⟩
  · rcases lookup_insert_cases hb with ⟨hj, -⟩ | ⟨hj, hdb⟩
    · exact hi.trans hj.symm
    · exact absurd hR (hnew j b hj hdb)
  · rcases lookup_insert_cases hb with ⟨-, rfl⟩ | ⟨-, hdb⟩
    · exact absurd (hsymm hR) (hnew i a hi hda)
    · exact hold hda hdb hR

def setDefault (k : κ) (v : β) (d : Dict κ β) : Dict κ β :=
  if (d.lookup k).isSome then d else d.insert k v

theorem lookup_setDefault (d : Dict κ β) (k k' : κ) (v : β) :
    (setDefault k v d).lookup k' =
      if k' = k then some ((d.lookup k).getD v) else d.lookup k' := by
  unfold setDefault
  cases h : d.lookup k with
  | none => simp [lookup_insert_eq]
  | some w =>
    by_cases hk : k' = k
    · subst hk
      simp [h]
    · simp [hk]

/-- The dictionary of a list of entries; a later entry replaces an earlier one. -/
def ofList (entries : List (κ × β)) : Dict κ β :=
  entries.foldl (fun d e => d.insert e.1 e.2) ∅

theorem lookup_foldl_insert {entries : List (κ × β)} {d : Dict κ β} {k : κ} {v : β}
    (h : (entries.foldl (fun d e => d.insert e.1 e.2) d).lookup k = some v) :
    (k, v) ∈ entries ∨ d.lookup k = some v := by
  induction entries generalizing d with
  | nil => exact Or.inr h
  | cons e entries ih =>
    rcases ih h with hmem | hd
    · exact Or.inl (List.mem_cons_of_mem _ hmem)
    · rcases lookup_insert_cases hd with ⟨rfl, rfl⟩ | ⟨-, hd⟩
      · exact Or.inl List.mem_cons_self
      · exact Or.inr hd

theorem mem_of_lookup_ofList {entries : List (κ × β)} {k : κ} {v : β}
    (h : (ofList entries).lookup k = some v) : (k, v) ∈ entries := by
  rcases lookup_foldl_insert h with h | h
  · exact h
  · simp at h

theorem lookup_foldl_of_notMem {entries : List (κ × β)} {d : Dict κ β} {k : κ}
    (h : k ∉ entries.map (·.1)) :
    (entries.foldl (fun d e => d.insert e.1 e.2) d).lookup k = d.lookup k := by
  induction entries generalizing d with
  | nil => rfl
  | cons e entries ih =>
    simp only [List.map_cons, List.mem_cons, not_or] at h
    rw [List.foldl_cons, ih h.2, AList.lookup_insert_ne h.1]

theorem lookup_ofList_of_notMem {entries : List (κ × β)} {k : κ} (h : k ∉ entries.map (·.1)) :
    (ofList entries).lookup k = none := by
  rw [ofList, lookup_foldl_of_notMem h, AList.lookup_empty]

theorem lookup_ofList_of_mem {entries : List (κ × β)} {k : κ} {v : β}
    (hnodup : (entries.map (·.1)).Nodup) (h : (k, v) ∈ entries) :
    (ofList entries).lookup k = some v := by
  have hfold : ∀ (entries : List (κ × β)) (d : Dict κ β), (entries.map (·.1)).Nodup →
      (k, v) ∈ entries → (entries.foldl (fun d e => d.insert e.1 e.2) d).lookup k = some v := by
    intro entries
    induction entries with
    | nil =>
      intro _ _ h
      cases h
    | cons e entries ih =>
      intro d hnodup h
      rw [List.map_cons, List.nodup_cons] at hnodup
      rw [List.foldl_cons]
      rcases List.mem_cons.mp h with he | h
      · subst he
        rw [lookup_foldl_of_notMem hnodup.1, lookup_insert_eq, if_pos rfl]
      · exact ih _ hnodup.2 h
  exact hfold entries ∅ hnodup h

section Tabulated

variable {α : Type*} {xs : List α} {key : α → κ} (value : α → β)

omit [DecidableEq κ] in
theorem map_fst_tabulated : (xs.map fun x => (key x, value x)).map (·.1) = xs.map key := by
  rw [List.map_map]
  rfl

theorem lookup_tabulated_of_mem (hnodup : (xs.map key).Nodup) {x : α} (h : x ∈ xs) :
    (ofList (xs.map fun x => (key x, value x))).lookup (key x) = some (value x) := by
  rw [← map_fst_tabulated value] at hnodup
  exact lookup_ofList_of_mem hnodup (List.mem_map.mpr ⟨x, h, rfl⟩)

theorem lookup_tabulated_of_notMem {k : κ} (h : k ∉ xs.map key) :
    (ofList (xs.map fun x => (key x, value x))).lookup k = none := by
  rw [← map_fst_tabulated value] at h
  exact lookup_ofList_of_notMem h

end Tabulated

section MapValues

variable {β' : Type v} (f : κ → β → β')

omit [DecidableEq κ] in
theorem nodupKeys_mapEntries (d : Dict κ β) :
    (d.entries.map fun e => (⟨e.1, f e.1 e.2⟩ : Sigma fun _ : κ => β')).NodupKeys := by
  have hkeys : List.keys (d.entries.map fun e => (⟨e.1, f e.1 e.2⟩ : Sigma fun _ : κ => β')) =
      List.keys d.entries := by simp [List.keys]
  rw [List.NodupKeys, hkeys]
  exact d.nodupKeys

def mapValues (d : Dict κ β) : Dict κ β' :=
  ⟨d.entries.map fun e => ⟨e.1, f e.1 e.2⟩, nodupKeys_mapEntries f d⟩

omit [DecidableEq κ] in
theorem keys_mapValues (d : Dict κ β) : (mapValues f d).keys = d.keys := by
  simp [mapValues, AList.keys, List.keys]

theorem lookup_mapValues (d : Dict κ β) (k : κ) :
    (mapValues f d).lookup k = (d.lookup k).map (f k) := by
  have h : ∀ entries : List (Sigma fun _ : κ => β),
      List.dlookup k (entries.map fun e => (⟨e.1, f e.1 e.2⟩ : Sigma fun _ : κ => β')) =
        (List.dlookup k entries).map (f k) := by
    intro entries
    induction entries with
    | nil => rfl
    | cons e entries ih =>
      obtain ⟨k', v⟩ := e
      by_cases hk : k' = k
      · subst hk
        simp
      · simp only [List.map_cons]
        rw [List.dlookup_cons_ne entries ⟨k', v⟩ (Ne.symm hk), ← ih,
          List.dlookup_cons_ne _ (⟨k', f k' v⟩ : Sigma fun _ : κ => β') (Ne.symm hk)]
  exact h d.entries

theorem mapValues_congr {f g : κ → β → β'} {d : Dict κ β}
    (h : ∀ k v, d.lookup k = some v → f k v = g k v) : mapValues f d = mapValues g d := by
  apply AList.ext
  refine List.map_congr_left fun e he => ?_
  have hlookup : d.lookup e.1 = some e.2 := (List.mem_dlookup_iff d.nodupKeys).mpr he
  rw [h _ _ hlookup]

omit [DecidableEq κ] in
theorem mapValues_mapValues {β'' : Type v} (g : κ → β' → β'') (d : Dict κ β) :
    mapValues g (mapValues f d) = mapValues (fun k v => g k (f k v)) d := by
  apply AList.ext
  exact List.map_map

omit [DecidableEq κ] in
theorem mapValues_id (d : Dict κ β) : mapValues (fun _ v => v) d = d := by
  apply AList.ext
  exact List.map_id d.entries

end MapValues

end Dictionaries
