import Watlowlib.DecimalPlaces

/-! # Which row a name resolves to

Overrides, own names and aliases compete for the keys of one index. The override's row keeps its key
whatever comes before or after it; among the others the last row of a name has it; an alias only
takes a key that nobody has, and loses it to the first row of that name. -/
namespace NameResolution

open DecimalPlaces Dictionaries PythonTexts PythonValues Registry WatlowErrors

variable {owner : Dict String ℤ} {key : String}

/-- `continue`: an override gave this row's name to another id. -/
def Skipped (owner : Dict String ℤ) (row : ParameterSpec) : Prop :=
  (owner.lookup (lower row.name)).any (· ≠ row.parameterId) = true

theorem skipped_iff {row : ParameterSpec} :
    Skipped owner row ↔ ∃ i, owner.lookup (lower row.name) = some i ∧ i ≠ row.parameterId := by
  unfold Skipped
  cases owner.lookup (lower row.name) with
  | none => simp
  | some i => simp

theorem add_skipped {row : ParameterSpec} (h : Skipped owner row) (index : Index) :
    (index.add owner row).byName = index.byName := if_pos h

theorem add_entered {row : ParameterSpec} (h : ¬ Skipped owner row) (index : Index) :
    (index.add owner row).byName = enterNames row index.byName := if_neg h

section Aliases

variable {row s : ParameterSpec}

theorem aliases_keep {aliases : List String} {d : Dict String ParameterSpec}
    (h : d.lookup key = some s) :
    (aliases.foldl (fun d a => setDefault (lower a) row d) d).lookup key = some s := by
  induction aliases generalizing d with
  | nil => exact h
  | cons a aliases ih =>
    apply ih
    rw [lookup_setDefault]
    split
    · rename_i hk
      rw [← hk, h]
      rfl
    · exact h

theorem enterNames_own {d : Dict String ParameterSpec} :
    (enterNames row d).lookup (lower row.name) = some row := by
  apply aliases_keep
  rw [lookup_insert_eq, if_pos rfl]

theorem enterNames_keep {d : Dict String ParameterSpec} (hkey : lower row.name ≠ key)
    (h : d.lookup key = some s) : (enterNames row d).lookup key = some s := by
  apply aliases_keep
  rw [lookup_insert_eq, if_neg hkey.symm]
  exact h

end Aliases

/-! ## The key of a row, over the whole loop -/

section Held

variable (P : ParameterSpec → Prop)

/-- The key has an entry, and `P` holds of it. -/
def Held (key : String) (index : Index) : Prop :=
  ∃ s, index.byName.lookup key = some s ∧ P s

variable {P} {index : Index} {row : ParameterSpec}

theorem held_own (hkey : lower row.name = key) (hskip : ¬ Skipped owner row) (hP : P row) :
    Held P key (index.add owner row) := by
  refine ⟨row, ?_, hP⟩
  subst hkey
  rw [add_entered hskip]
  exact enterNames_own

theorem held_step (hP : lower row.name = key → ¬ Skipped owner row → P row)
    (h : Held P key index) : Held P key (index.add owner row) := by
  by_cases hskip : Skipped owner row
  · obtain ⟨s, hs, hPs⟩ := h
    refine ⟨s, ?_, hPs⟩
    rw [add_skipped hskip]
    exact hs
  · by_cases hkey : lower row.name = key
    · exact held_own hkey hskip (hP hkey hskip)
    · obtain ⟨s, hs, hPs⟩ := h
      refine ⟨s, ?_, hPs⟩
      rw [add_entered hskip]
      exact enterNames_keep hkey hs

theorem held_rows {rows : List ParameterSpec}
    (hP : ∀ t ∈ rows, lower t.name = key → ¬ Skipped owner t → P t) (h : Held P key index) :
    Held P key (rows.foldl (Index.add owner) index) := by
  induction rows generalizing index with
  | nil => exact h
  | cons t rows ih =>
    exact ih (fun t' ht' => hP t' (List.mem_cons_of_mem t ht'))
      (held_step (hP t List.mem_cons_self) h)

theorem held_after {rows : List ParameterSpec} (hrow : row ∈ rows) (hkey : lower row.name = key)
    (hskip : ¬ Skipped owner row)
    (hP : ∀ t ∈ rows, lower t.name = key → ¬ Skipped owner t → P t) :
    Held P key (rows.foldl (Index.add owner) index) := by
  obtain ⟨before, later, rfl⟩ := List.append_of_mem hrow
  rw [List.foldl_append, List.foldl_cons]
  have hlater : ∀ t ∈ later, lower t.name = key → ¬ Skipped owner t → P t :=
    fun t ht => hP t (by simp [ht])
  exact held_rows hlater (held_own hkey hskip (hP row hrow hkey hskip))

end Held

/-! ## Names of a built registry -/

section Built

variable {specs : List ParameterSpec} {aliases : List (String × String)}
  {overrides : List (ℤ × String)}

/-- The tables that the constructor is given: one row for each id, and a mapping of overrides that
assigns no name twice. -/
structure Tables (specs : List ParameterSpec) (overrides : List (ℤ × String)) : Prop where
  ids : (specs.map (·.parameterId)).Nodup
  keys : (overrides.map (·.1)).Nodup
  names : (overrides.map fun e => lower e.2).Nodup

theorem rebind_parameterId (spec : ParameterSpec) :
    (rebind aliases overrides spec).parameterId = spec.parameterId :=
  (rebind_sameRow aliases overrides spec).proj (·.parameterId) fun _ _ _ => rfl

theorem rebind_name (spec : ParameterSpec) :
    (rebind aliases overrides spec).name = boundName overrides spec := by
  unfold rebind
  split
  · rfl
  · rename_i hsame
    exact (not_not.mp fun h => hsame (Or.inl h)).symm

theorem overrideFor_of_mem (ht : Tables specs overrides) {e : ℤ × String} (he : e ∈ overrides)
    (hname : e.2 ≠ "") {spec : ParameterSpec} (hid : spec.parameterId = e.1) :
    overrideFor overrides spec = some e.2 := by
  have hlookup : (ofList overrides).lookup spec.parameterId = some e.2 :=
    lookup_ofList_of_mem ht.keys (hid ▸ he)
  rw [overrideFor, hlookup]
  simp [hname]

theorem overrideFor_none {spec : ParameterSpec}
    (h : ∀ e ∈ overrides, e.1 = spec.parameterId → e.2 = "") :
    overrideFor overrides spec = none := by
  rw [overrideFor, Option.filter_eq_none_iff]
  intro name hname
  have hempty : name = "" := h _ (mem_of_lookup_ofList hname) rfl
  simp [hempty]

theorem overrideOwner_of_mem (ht : Tables specs overrides) {e : ℤ × String} (he : e ∈ overrides) :
    (overrideOwner overrides).lookup (lower e.2) = some e.1 :=
  lookup_tabulated_of_mem _ ht.names he

theorem mem_of_overrideOwner {i : ℤ} (h : (overrideOwner overrides).lookup key = some i) :
    ∃ e ∈ overrides, lower e.2 = key ∧ e.1 = i := by
  obtain ⟨e, he, heq⟩ := List.mem_map.mp (mem_of_lookup_ofList h)
  exact ⟨e, he, congrArg Prod.fst heq, congrArg Prod.snd heq⟩

theorem resolve_name_of_held {P : ParameterSpec → Prop} {y : String}
    (h : Held P (lower y) (ParameterRegistry.build specs aliases overrides).index) :
    ∃ s, (ParameterRegistry.build specs aliases overrides).resolve (.name y) = .ok s ∧ P s := by
  obtain ⟨s, hs, hP⟩ := h
  refine ⟨s, ?_, hP⟩
  simp only [ParameterRegistry.resolve]
  rw [hs]

theorem override_resolves (ht : Tables specs overrides) {e : ℤ × String} (he : e ∈ overrides)
    (hname : e.2 ≠ "") {spec : ParameterSpec} (hspec : spec ∈ specs)
    (hid : spec.parameterId = e.1) {y : String} (hy : lower y = lower e.2) :
    (ParameterRegistry.build specs aliases overrides).resolve (.name y) =
      .ok (rebind aliases overrides spec) := by
  have hbound : (rebind aliases overrides spec).name = e.2 := by
    rw [rebind_name, boundName, overrideFor_of_mem ht he hname hid]
    rfl
  have howner := overrideOwner_of_mem ht he
  have hrow : rebind aliases overrides spec ∈ specs.map (rebind aliases overrides) :=
    List.mem_map_of_mem hspec
  have hskip : ¬ Skipped (overrideOwner overrides) (rebind aliases overrides spec) := by
    rw [skipped_iff, hbound, howner]
    rintro ⟨i, hi, hne⟩
    rw [rebind_parameterId, hid] at hne
    exact hne (Option.some.inj hi).symm
  have hheld : Held (· = rebind aliases overrides spec) (lower y)
      (ParameterRegistry.build specs aliases overrides).index := by
    refine held_after hrow (by rw [hbound, hy]) hskip ?_
    intro t ht' hkey hentered
    obtain ⟨other, hother, rfl⟩ := List.mem_map.mp ht'
    have hsame : other.parameterId = e.1 := by
      by_contra hne
      refine hentered (skipped_iff.mpr ⟨e.1, ?_, ?_⟩)
      · rw [hkey, hy]
        exact howner
      · rw [rebind_parameterId]
        exact fun h => hne h.symm
    rw [List.inj_on_of_nodup_map ht.ids hother hspec (hsame.trans hid.symm)]
  obtain ⟨s, hs, rfl⟩ := resolve_name_of_held hheld
  exact hs

theorem own_name_resolves {spec : ParameterSpec} (hspec : spec ∈ specs)
    (hplain : ∀ e ∈ overrides, e.1 = spec.parameterId → e.2 = "")
    (hclaim : ∀ e ∈ overrides, lower e.2 = lower spec.name → e.1 = spec.parameterId) {y : String}
    (hy : lower y = lower spec.name) :
    ∃ s, (ParameterRegistry.build specs aliases overrides).resolve (.name y) = .ok s ∧
      lower s.name = lower spec.name := by
  have hbound : (rebind aliases overrides spec).name = spec.name := by
    rw [rebind_name, boundName, overrideFor_none hplain]
    rfl
  have hskip : ¬ Skipped (overrideOwner overrides) (rebind aliases overrides spec) := by
    rw [skipped_iff, hbound, rebind_parameterId]
    rintro ⟨i, hi, hne⟩
    obtain ⟨e, he, hkey, rfl⟩ := mem_of_overrideOwner hi
    exact hne (hclaim e he hkey)
  apply resolve_name_of_held
  exact held_after (List.mem_map_of_mem hspec) (by rw [hbound, hy]) hskip
    fun t _ hkey _ => hkey.trans hy

theorem resolve_twice (ht : Tables specs overrides) {x : Ident} {s : ParameterSpec}
    (h : (ParameterRegistry.build specs aliases overrides).resolve x = .ok s) :
    (ParameterRegistry.build specs aliases overrides).resolve (.id s.parameterId) = .ok s := by
  have hids : (specs.map (rebind aliases overrides)).map (·.parameterId) =
      specs.map (·.parameterId) := by
    rw [List.map_map]
    exact List.map_congr_left fun s _ => rebind_parameterId s
  have hd : DistinctIds (.build specs aliases overrides) := by
    unfold DistinctIds ParameterRegistry.build
    simp only
    rw [hids]
    exact ht.ids
  exact build_resolves hd (resolve_mem _ h)

end Built

/-- What a public name leads to, for every order of the rows. -/
theorem names_resolve {specs : List ParameterSpec} {overrides : List (ℤ × String)}
    (ht : Tables specs overrides) (aliases : List (String × String)) :
    (∀ e ∈ overrides, e.2 ≠ "" → ∀ spec ∈ specs, spec.parameterId = e.1 →
      (rebind aliases overrides spec).name = e.2 ∧ ∀ y, lower y = lower e.2 →
        ∀ order : List ParameterSpec, order.Perm specs →
          (ParameterRegistry.build order aliases overrides).resolve (.name y) =
            .ok (rebind aliases overrides spec)) ∧
    (∀ spec ∈ specs, (∀ e ∈ overrides, e.1 = spec.parameterId → e.2 = "") →
      (∀ e ∈ overrides, lower e.2 = lower spec.name → e.1 = spec.parameterId) →
      ∀ y, lower y = lower spec.name → ∃ s,
        (ParameterRegistry.build specs aliases overrides).resolve (.name y) = .ok s ∧
          lower s.name = lower spec.name) ∧
    (∀ x s, (ParameterRegistry.build specs aliases overrides).resolve x = .ok s →
      (ParameterRegistry.build specs aliases overrides).resolve (.id s.parameterId) = .ok s) := by
  refine ⟨?_, ?_, ?_⟩
  · intro e he hname spec hspec hid
    constructor
    · rw [rebind_name, boundName, overrideFor_of_mem ht he hname hid]
      rfl
    · intro y hy order horder
      have hids : (order.map (·.parameterId)).Nodup :=
        (horder.map (·.parameterId)).nodup_iff.mpr ht.ids
      exact override_resolves ⟨hids, ht.keys, ht.names⟩ he hname (horder.mem_iff.mpr hspec) hid hy
  · intro spec hspec hplain hclaim y hy
    exact own_name_resolves hspec hplain hclaim hy
  · exact fun x s h => resolve_twice ht h

def panelUnits : ParameterSpec := plainRow 3005 "display_units"

def inputUnits : ParameterSpec := plainRow 4042 "units"

theorem unit_tables : Tables [panelUnits, inputUnits] [(3005, "units")] :=
  ⟨by decide, by decide, by decide⟩

theorem units_resolve :
    (ParameterRegistry.build [panelUnits, inputUnits] [("unit", "units")] [(3005, "units")]).resolve
      (.name "UNITS") = .ok (rebind [("unit", "units")] [(3005, "units")] panelUnits) :=
  ((names_resolve unit_tables [("unit", "units")]).1 (3005, "units") (by simp) (by decide)
    panelUnits (by simp) rfl).2 "UNITS" (by decide) _ (.refl _)

/-- Three names that do not lead to their rows: one that is claimed for an id without a row, an
empty override, and one that differs from the found row's in its letter case. -/
theorem names_astray :
    (Tables [inputUnits] [(3005, "units")] ∧
      ∃ e, (ParameterRegistry.build [inputUnits] [] [(3005, "units")]).resolve (.name "units") =
        .error e) ∧
    (Tables [inputUnits] [(4042, "")] ∧
      ∃ e, (ParameterRegistry.build [inputUnits] [] [(4042, "")]).resolve (.name "") =
        .error e) ∧
    (Tables [plainRow 1 "Units", inputUnits] [] ∧
      (ParameterRegistry.build [plainRow 1 "Units", inputUnits] [] []).resolve (.name "Units") =
        .ok inputUnits) := by
  refine ⟨⟨⟨by decide, by decide, by decide⟩, ?_⟩, ⟨⟨by decide, by decide, by decide⟩, ?_⟩,
    ⟨by decide, by decide, by decide⟩, ?_⟩
  · exact ⟨_, rfl⟩
  · exact ⟨_, rfl⟩
  · rfl

end NameResolution
