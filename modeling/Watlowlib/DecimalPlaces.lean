import Watlowlib.Registry
import Watlowlib.RoundingErrors

/-! # Registries rescaled by a decimal-places register

`with_decimal_places` rebuilds the table and both indexes of a registry. Here it is a map over the
rows, the same map in all three views, so that what holds of one row at a time holds of the
registry. -/
namespace DecimalPlaces

open Dictionaries ExceptRules PythonNumbers PythonTexts PythonValues Registry WatlowErrors

/-! ## Row by row -/

section RowByRow

variable (registry : ParameterRegistry) (f g : ParameterSpec → ParameterSpec)

theorem mapRows_wellFormed (hf : ∀ s, (f s).parameterId = s.parameterId) :
    Index.WellFormed ⟨mapValues (fun _ => f) registry.index.byId,
      mapValues (fun _ => f) registry.index.byName⟩ (registry.specs.map f) := by
  obtain ⟨hkey, hmem, hname⟩ := registry.wellFormed
  refine ⟨?_, ?_, ?_⟩
  · intro i s hs
    obtain ⟨spec, hspec, rfl⟩ := Option.map_eq_some_iff.mp (lookup_mapValues _ _ i ▸ hs)
    exact (hf spec).trans (hkey i spec hspec)
  · intro i s hs
    obtain ⟨spec, hspec, rfl⟩ := Option.map_eq_some_iff.mp (lookup_mapValues _ _ i ▸ hs)
    exact List.mem_map_of_mem (hmem i spec hspec)
  · intro k s hs
    obtain ⟨spec, hspec, rfl⟩ := Option.map_eq_some_iff.mp (lookup_mapValues _ _ k ▸ hs)
    exact List.mem_map_of_mem (hname k spec hspec)

def mapRows (hf : ∀ s, (f s).parameterId = s.parameterId) : ParameterRegistry :=
  ⟨registry.specs.map f,
    ⟨mapValues (fun _ => f) registry.index.byId, mapValues (fun _ => f) registry.index.byName⟩,
    mapRows_wellFormed registry f hf⟩

@[simp] theorem mapRows_specs (hf : ∀ s, (f s).parameterId = s.parameterId) :
    (mapRows registry f hf).specs = registry.specs.map f := rfl

@[simp] theorem mapRows_byId (hf : ∀ s, (f s).parameterId = s.parameterId) :
    (mapRows registry f hf).index.byId = mapValues (fun _ => f) registry.index.byId := rfl

@[simp] theorem mapRows_byName (hf : ∀ s, (f s).parameterId = s.parameterId) :
    (mapRows registry f hf).index.byName = mapValues (fun _ => f) registry.index.byName := rfl

theorem registry_ext {a b : ParameterRegistry} (hspecs : a.specs = b.specs)
    (hid : a.index.byId = b.index.byId) (hname : a.index.byName = b.index.byName) : a = b := by
  obtain ⟨specs, ⟨byId, byName⟩, h⟩ := a
  obtain ⟨specs', ⟨byId', byName'⟩, h'⟩ := b
  subst hspecs hid hname
  rfl

variable {registry f g} {hf : ∀ s, (f s).parameterId = s.parameterId}
  {hg : ∀ s, (g s).parameterId = s.parameterId}

theorem mapRows_congr (h : ∀ s ∈ registry.specs, f s = g s) :
    mapRows registry f hf = mapRows registry g hg := by
  apply registry_ext
  · exact List.map_congr_left h
  · rw [mapRows_byId, mapRows_byId]
    exact mapValues_congr fun i s hs => h s (registry.wellFormed.byId_mem i s hs)
  · rw [mapRows_byName, mapRows_byName]
    exact mapValues_congr fun k s hs => h s (registry.wellFormed.byName_mem k s hs)

theorem mapRows_of_fixed (h : ∀ s ∈ registry.specs, f s = s) :
    mapRows registry f hf = registry := by
  apply registry_ext
  · rw [mapRows_specs, List.map_congr_left h]
    exact List.map_id registry.specs
  · rw [mapRows_byId, ← mapValues_id registry.index.byId, mapValues_mapValues]
    exact mapValues_congr fun i s hs => h s (registry.wellFormed.byId_mem i s hs)
  · rw [mapRows_byName, ← mapValues_id registry.index.byName, mapValues_mapValues]
    exact mapValues_congr fun k s hs => h s (registry.wellFormed.byName_mem k s hs)

theorem mapRows_mapRows (hgf : ∀ s, (g (f s)).parameterId = s.parameterId) :
    mapRows (mapRows registry f hf) g hg = mapRows registry (fun s => g (f s)) hgf := by
  apply registry_ext
  · simp only [mapRows_specs, List.map_map, Function.comp_def]
  · simp only [mapRows_byId, mapValues_mapValues]
  · simp only [mapRows_byName, mapValues_mapValues]

theorem resolve_mapRows (x : Ident) :
    (mapRows registry f hf).resolve x = (registry.resolve x).map f := by
  cases x with
  | id i =>
    simp only [ParameterRegistry.resolve, mapRows, lookup_mapValues]
    cases registry.index.byId.lookup i with
    | none => rfl
    | some spec => rfl
  | name k =>
    simp only [ParameterRegistry.resolve, mapRows, lookup_mapValues]
    cases registry.index.byName.lookup (lower k) with
    | none => rfl
    | some spec => rfl

theorem mapRows_distinct : DistinctIds (mapRows registry f hf) ↔ DistinctIds registry := by
  have hids : (registry.specs.map f).map (·.parameterId) = registry.specs.map (·.parameterId) := by
    rw [List.map_map]
    exact List.map_congr_left fun s _ => hf s
  rw [DistinctIds, DistinctIds, mapRows, hids]

end RowByRow

/-! ## The rows of one decimal-places register -/

def scaled (registerId : ℤ) (scale : PyFloat) (spec : ParameterSpec) : ParameterSpec :=
  if spec.decimalRegister = some registerId then { spec with scale := scale } else spec

@[simp] theorem scaled_parameterId (registerId : ℤ) (scale : PyFloat) (spec : ParameterSpec) :
    (scaled registerId scale spec).parameterId = spec.parameterId := by
  unfold scaled
  split <;> rfl

theorem scaled_again (registerId : ℤ) (scale scale' : PyFloat) (spec : ParameterSpec) :
    scaled registerId scale' (scaled registerId scale spec) = scaled registerId scale' spec := by
  by_cases h : spec.decimalRegister = some registerId
  · simp [scaled, h]
  · simp [scaled, h]

theorem scaled_comm {registerId registerId' : ℤ} (h : registerId' ≠ registerId)
    (scale scale' : PyFloat) (spec : ParameterSpec) :
    scaled registerId' scale' (scaled registerId scale spec) =
      scaled registerId scale (scaled registerId' scale' spec) := by
  by_cases h1 : spec.decimalRegister = some registerId
  · have h2 : spec.decimalRegister ≠ some registerId' := by
      rw [h1]
      exact fun he => h (Option.some.inj he).symm
    simp [scaled, h1, h.symm]
  · by_cases h2 : spec.decimalRegister = some registerId'
    · simp [scaled, h2, h]
    · simp [scaled, h1, h2]

variable (registry : ParameterRegistry)

def atScale (registerId : ℤ) (scale : PyFloat) : ParameterRegistry :=
  mapRows registry (scaled registerId scale) (scaled_parameterId registerId scale)

theorem atScale_again (registerId : ℤ) (scale scale' : PyFloat) :
    atScale (atScale registry registerId scale) registerId scale' =
      atScale registry registerId scale' := by
  rw [atScale, atScale, mapRows_mapRows fun s => by simp]
  exact mapRows_congr fun s _ => scaled_again registerId scale scale' s

theorem atScale_comm {registerId registerId' : ℤ} (h : registerId' ≠ registerId)
    (scale scale' : PyFloat) :
    atScale (atScale registry registerId scale) registerId' scale' =
      atScale (atScale registry registerId' scale') registerId scale := by
  rw [atScale, atScale, atScale, atScale, mapRows_mapRows fun s => by simp,
    mapRows_mapRows fun s => by simp]
  exact mapRows_congr fun s _ => scaled_comm h scale scale' s

variable {registry} {registerId : ℤ} {scale : PyFloat}

theorem atScale_distinct :
    DistinctIds (atScale registry registerId scale) ↔ DistinctIds registry := mapRows_distinct

theorem rescale_eq_scaled (hd : DistinctIds registry) {spec : ParameterSpec}
    (hspec : spec ∈ registry.specs) :
    rescale (rescaledRows registerId scale registry.specs) spec.parameterId spec =
      scaled registerId scale spec := by
  by_cases hin : spec.decimalRegister = some registerId ∧ spec.scale ≠ scale
  · have hnodup : ((registry.specs.filter fun s =>
        s.decimalRegister = some registerId ∧ s.scale ≠ scale).map (·.parameterId)).Nodup :=
      hd.sublist (List.filter_sublist.map _)
    have hmem : spec ∈ registry.specs.filter fun s =>
        s.decimalRegister = some registerId ∧ s.scale ≠ scale := by
      simpa [List.mem_filter, hspec] using hin
    have hlookup : (rescaledRows registerId scale registry.specs).lookup spec.parameterId =
        some { spec with scale := scale } := lookup_tabulated_of_mem _ hnodup hmem
    rw [rescale, hlookup, scaled, if_pos hin.1]
    rfl
  · have hout : spec.parameterId ∉ (registry.specs.filter fun s =>
        s.decimalRegister = some registerId ∧ s.scale ≠ scale).map (·.parameterId) := by
      intro hmem
      obtain ⟨other, hother, hid⟩ := List.mem_map.mp hmem
      obtain ⟨hrow, hkept⟩ := List.mem_filter.mp hother
      rw [distinctIds_unique hd hrow hspec hid] at hkept
      exact hin (of_decide_eq_true hkept)
    have hlookup : (rescaledRows registerId scale registry.specs).lookup spec.parameterId = none :=
      lookup_tabulated_of_notMem _ hout
    rw [rescale, hlookup, scaled]
    by_cases hregister : spec.decimalRegister = some registerId
    · have hscale : spec.scale = scale := by
        by_contra hne
        exact hin ⟨hregister, hne⟩
      rw [if_pos hregister, ← hscale]
      rfl
    · rw [if_neg hregister]
      rfl

theorem withDecimalPlaces_eq (hd : DistinctIds registry) (places : ℤ) :
    registry.withDecimalPlaces registerId places =
      (decimalScale places).map (atScale registry registerId) := by
  unfold ParameterRegistry.withDecimalPlaces
  cases decimalScale places with
  | error e => rfl
  | ok scale =>
    have hrow : ∀ s ∈ registry.specs,
        rescale (rescaledRows registerId scale registry.specs) s.parameterId s =
          scaled registerId scale s := fun s hs => rescale_eq_scaled hd hs
    refine congrArg Except.ok ?_
    split
    · rename_i hempty
      refine (mapRows_of_fixed fun s hs => ?_).symm
      rw [← hrow s hs, rescale, hempty, AList.lookup_empty]
      rfl
    · apply registry_ext
      · exact List.map_congr_left hrow
      · simp only [rescaledIndex, atScale, mapRows_byId]
        refine mapValues_congr fun i s hs => ?_
        rw [← registry.wellFormed.byId_key i s hs]
        exact hrow s (registry.wellFormed.byId_mem i s hs)
      · simp only [rescaledIndex, atScale, mapRows_byName]
        exact mapValues_congr fun k s hs => hrow s (registry.wellFormed.byName_mem k s hs)

/-! ## The scale itself -/

/-- `10.0 ** -places` where the exponent is a double. -/
def tenth (places : ℤ) : PyFloat := ofRat (1 / 10 ^ places.toNat)

/-- From here on an integer has no nearest double. -/
def doubleLimit : ℤ := 2 ^ 1024 - 2 ^ 970

theorem doubleLimit_bounds : (2 : ℤ) ^ 970 ≤ doubleLimit ∧ doubleLimit ≤ 2 ^ 1024 := by
  have hdouble : (2 : ℤ) * 2 ^ 970 ≤ 2 ^ 1024 := by
    rw [← pow_succ']
    exact pow_le_pow_right₀ (by norm_num) (by norm_num)
  have hpos : (0 : ℤ) < 2 ^ 970 := by positivity
  rw [doubleLimit]
  generalize (2 : ℤ) ^ 970 = small at *
  generalize (2 : ℤ) ^ 1024 = large at *
  omega

theorem overflowThreshold_binary64 :
    RoundingErrors.overflowThreshold BinaryFormat.binary64 = doubleLimit := by
  have hexp : RoundingErrors.maxExponent BinaryFormat.binary64 -
      (BinaryFormat.binary64.fractionBits : ℤ) - 1 = (970 : ℕ) := by decide
  have hbits : BinaryFormat.binary64.fractionBits + 2 = 54 := rfl
  have hsplit : (2 : ℚ) ^ 1024 = 2 ^ 54 * 2 ^ 970 := pow_add 2 54 970
  rw [RoundingErrors.overflowThreshold, hexp, hbits, zpow_natCast, sub_mul, one_mul, ← hsplit,
    doubleLimit, Int.cast_sub, Int.cast_pow, Int.cast_pow, Int.cast_ofNat]

theorem toFloat_int (i : ℤ) :
    (∃ x, toFloat (.int i) = .ok x) ↔ |i| < doubleLimit := by
  have hnone : BinaryFormat.nearest BinaryFormat.binary64 (i : ℚ) = none ↔ doubleLimit ≤ |i| := by
    rw [RoundingErrors.nearest_none_iff _ (by decide), overflowThreshold_binary64]
    exact_mod_cast Iff.rfl
  simp only [toFloat]
  cases h : BinaryFormat.nearest BinaryFormat.binary64 (i : ℚ) with
  | none =>
    have hlimit := hnone.mp h
    constructor
    · rintro ⟨x, hx⟩
      cases hx
    · intro hlt
      omega
  | some q =>
    have hlimit : |i| < doubleLimit := by
      by_contra hle
      have hcontra := hnone.mpr (not_lt.mp hle)
      rw [h] at hcontra
      cases hcontra
    exact iff_of_true ⟨_, rfl⟩ hlimit

theorem decimalScale_negative {places : ℤ} (h : places < 0) :
    ∃ e, decimalScale places = .error e ∧ (WritesInt places → e.kind = .validation) := by
  refine ⟨_, bind_error_iff.mpr (Or.inl (require_error_iff.mpr ⟨not_le.mpr h, rfl⟩)), ?_⟩
  intro hwrites
  rw [formatted_of_writes (by simpa [Message.Writes, Piece.integer] using hwrites)]

theorem decimalScale_nonneg {places : ℤ} (h : 0 ≤ places) :
    decimalScale places = (toFloat (.int (-places))).map fun _ => tenth places := by
  simp only [decimalScale, require, if_pos h]
  cases toFloat (.int (-places)) with
  | error e => rfl
  | ok x => rfl

theorem decimalScale_ok_iff {places : ℤ} (h : 0 ≤ places) :
    (∃ scale, decimalScale places = .ok scale) ↔ places < doubleLimit := by
  have hfloat := toFloat_int (-places)
  rw [abs_neg, abs_of_nonneg h] at hfloat
  rw [← hfloat, decimalScale_nonneg h]
  cases toFloat (.int (-places)) with
  | error e => simp [Except.map]
  | ok x => simp [Except.map]

theorem decimalScale_eq_tenth {places : ℤ} {scale : PyFloat} (h : 0 ≤ places)
    (hscale : decimalScale places = .ok scale) : scale = tenth places := by
  rw [decimalScale_nonneg h] at hscale
  cases hfloat : toFloat (.int (-places)) with
  | error e =>
    rw [hfloat] at hscale
    cases hscale
  | ok x =>
    rw [hfloat] at hscale
    exact (Except.ok.inj hscale).symm

/-! ## Registries that the program can hold -/

/-- A registry is built from specifications, or is a rescaled copy of another one. -/
inductive Constructed : ParameterRegistry → Prop
  | built (specs : List ParameterSpec) (aliases : List (String × String))
      (overrides : List (ℤ × String)) : Constructed (.build specs aliases overrides)
  | rescaled {registry out : ParameterRegistry} {registerId places : ℤ}
      (h : Constructed registry) (hout : registry.withDecimalPlaces registerId places = .ok out) :
      Constructed out

/-- The three views of a registry name the same rows. -/
structure ViewsAgree (registry : ParameterRegistry) : Prop where
  byId : ∀ s ∈ registry.specs, registry.resolve (.id s.parameterId) = .ok s
  listed : ∀ x s, registry.resolve x = .ok s → s ∈ registry.specs

theorem ViewsAgree.mapRows {registry : ParameterRegistry} {f : ParameterSpec → ParameterSpec}
    {hf : ∀ s, (f s).parameterId = s.parameterId} (h : ViewsAgree registry) :
    ViewsAgree (mapRows registry f hf) := by
  refine ⟨fun s hs => ?_, fun x s hs => resolve_mem _ hs⟩
  obtain ⟨spec, hspec, rfl⟩ := List.mem_map.mp hs
  rw [resolve_mapRows, hf, h.byId spec hspec]
  rfl

theorem withDecimalPlaces_ok {registry out : ParameterRegistry} {registerId places : ℤ}
    (hd : DistinctIds registry) (h : registry.withDecimalPlaces registerId places = .ok out) :
    ∃ scale, decimalScale places = .ok scale ∧ out = atScale registry registerId scale := by
  rw [withDecimalPlaces_eq hd] at h
  cases hscale : decimalScale places with
  | error e =>
    rw [hscale] at h
    cases h
  | ok scale =>
    rw [hscale] at h
    exact ⟨scale, rfl, (Except.ok.inj h).symm⟩

theorem withDecimalPlaces_ids {registry out : ParameterRegistry} {registerId places : ℤ}
    (h : registry.withDecimalPlaces registerId places = .ok out) :
    out.specs.map (·.parameterId) = registry.specs.map (·.parameterId) := by
  unfold ParameterRegistry.withDecimalPlaces at h
  cases hscale : decimalScale places with
  | error e =>
    rw [hscale] at h
    cases h
  | ok scale =>
    rw [hscale] at h
    have hout := (Except.ok.inj h).symm
    subst hout
    split
    · rfl
    · rw [List.map_map]
      exact List.map_congr_left fun s _ => rescale_parameterId

theorem Constructed.viewsAgree {registry : ParameterRegistry} (h : Constructed registry)
    (hd : DistinctIds registry) : ViewsAgree registry := by
  induction h with
  | built specs aliases overrides =>
    exact ⟨fun s hs => build_resolves hd hs, fun x s hs => resolve_mem _ hs⟩
  | rescaled h hout ih =>
    rw [DistinctIds, withDecimalPlaces_ids hout] at hd
    obtain ⟨scale, -, rfl⟩ := withDecimalPlaces_ok hd hout
    exact (ih hd).mapRows

/-- What the copy promises of its rows, its views and its later copies. -/
structure OnlyScales (registry out : ParameterRegistry) (registerId places : ℤ) : Prop where
  resolves : ∀ x, out.resolve x = (registry.resolve x).map (scaled registerId (tenth places))
  again : ∀ q, out.withDecimalPlaces registerId q = registry.withDecimalPlaces registerId q
  commutes : ∀ other q, other ≠ registerId →
    out.withDecimalPlaces other q =
      registry.withDecimalPlaces other q >>= fun r => r.withDecimalPlaces registerId places
  views : ViewsAgree out

theorem onlyScales {registry out : ParameterRegistry} {registerId places : ℤ}
    (hc : Constructed registry) (hd : DistinctIds registry) (hp : 0 ≤ places)
    (h : registry.withDecimalPlaces registerId places = .ok out) :
    OnlyScales registry out registerId places := by
  have hviews := (Constructed.rescaled hc h).viewsAgree
    (by rw [DistinctIds, withDecimalPlaces_ids h]; exact hd)
  obtain ⟨scale, hscale, rfl⟩ := withDecimalPlaces_ok hd h
  have hd' : DistinctIds (atScale registry registerId scale) := atScale_distinct.mpr hd
  refine ⟨fun x => ?_, fun q => ?_, fun other q hne => ?_, hviews⟩
  · rw [← decimalScale_eq_tenth hp hscale]
    exact resolve_mapRows x
  · rw [withDecimalPlaces_eq hd', withDecimalPlaces_eq hd]
    cases decimalScale q with
    | error e => rfl
    | ok scale' => exact congrArg Except.ok (atScale_again registry registerId scale scale')
  · rw [withDecimalPlaces_eq hd', withDecimalPlaces_eq hd]
    cases decimalScale q with
    | error e => rfl
    | ok scale' =>
      have hd'' : DistinctIds (atScale registry other scale') := atScale_distinct.mpr hd
      have hlater : (atScale registry other scale').withDecimalPlaces registerId places =
          .ok (atScale (atScale registry other scale') registerId scale) := by
        rw [withDecimalPlaces_eq hd'', hscale]
        rfl
      refine Eq.trans ?_ hlater.symm
      exact congrArg Except.ok (atScale_comm registry hne scale scale')

/-! ## The copy is another object -/

section Objects

variable (objects : List ParameterRegistry) (self : Fin objects.length) (registerId places : ℤ)

/-- `with_decimal_places` on the object at `self`: `copy.copy` makes one more object, and what is
assigned is assigned to that one. When no row changes the object itself is the result. -/
def rebindObject : Result ℕ × List ParameterRegistry :=
  match decimalScale places with
  | .error e => (.error e, objects)
  | .ok scale =>
    let rescaled := rescaledRows registerId scale objects[self].specs
    if rescaled = ∅ then (.ok self, objects)
    else
      let clone := objects.length
      (.ok clone, (objects ++ [objects[self]]).set clone
        ⟨objects[self].specs.map fun spec => rescale rescaled spec.parameterId spec,
          rescaledIndex rescaled objects[self].index,
          rescaledIndex_wellFormed objects[self].wellFormed⟩)

theorem rebindObject_keeps (i : Fin objects.length) :
    (rebindObject objects self registerId places).2[i.val]? = some objects[i] := by
  have hthere : objects[i.val]? = some objects[i] := List.getElem?_eq_getElem i.isLt
  unfold rebindObject
  split
  · exact hthere
  · simp only
    split
    · exact hthere
    · rw [List.getElem?_set_ne (by omega), List.getElem?_append_left i.isLt]
      exact hthere

theorem rebindObject_error {e : PyError} :
    rebindObject objects self registerId places = (.error e, objects) ↔
      decimalScale places = .error e := by
  unfold rebindObject
  split
  · rename_i e' he
    simp [he]
  · rename_i scale hscale
    simp only [hscale, reduceCtorEq, iff_false]
    split
    · simp
    · simp

theorem rebindObject_ok {ref : ℕ} (h : (rebindObject objects self registerId places).1 = .ok ref) :
    ∃ out, (rebindObject objects self registerId places).2[ref]? = some out ∧
      objects[self].withDecimalPlaces registerId places = .ok out := by
  unfold rebindObject ParameterRegistry.withDecimalPlaces at *
  cases hscale : decimalScale places with
  | error e =>
    rw [hscale] at h
    cases h
  | ok scale =>
    simp only [hscale] at h ⊢
    split at h
    · rename_i hempty
      cases h
      refine ⟨objects[self], ?_, ?_⟩
      · rw [if_pos hempty]
        exact List.getElem?_eq_getElem self.isLt
      · exact congrArg Except.ok (if_pos hempty)
    · rename_i hrows
      cases h
      refine ⟨_, ?_, congrArg Except.ok (if_neg hrows)⟩
      rw [if_neg hrows]
      exact List.getElem?_set_self (by simp)

theorem rebindObject_ok_iff (hp : 0 ≤ places) :
    (∃ ref, (rebindObject objects self registerId places).1 = .ok ref) ↔ places < doubleLimit := by
  rw [← decimalScale_ok_iff hp]
  unfold rebindObject
  cases decimalScale places with
  | error e => simp
  | ok scale =>
    refine iff_of_true ?_ ⟨scale, rfl⟩
    simp only
    split
    · exact ⟨_, rfl⟩
    · exact ⟨_, rfl⟩

/-- Rebinding the rows of a register touches only scales, in the copy that it makes. -/
def RebindingLaw : Prop :=
  (∀ i : Fin objects.length,
    (rebindObject objects self registerId places).2[i.val]? = some objects[i]) ∧
  (0 ≤ places → ∃ ref out, (rebindObject objects self registerId places).1 = .ok ref ∧
    (rebindObject objects self registerId places).2[ref]? = some out ∧
    OnlyScales objects[self] out registerId places) ∧
  (places < 0 → ∃ e, rebindObject objects self registerId places = (.error e, objects) ∧
    (WritesInt places → e.kind = .validation))

variable {objects registerId places} {self}

theorem rebindingLaw_bound (h : RebindingLaw objects self registerId places) (hp : 0 ≤ places) :
    places < doubleLimit := by
  obtain ⟨ref, out, href, -, -⟩ := h.2.1 hp
  exact (rebindObject_ok_iff objects self registerId places hp).mp ⟨ref, href⟩

/-- The law holds as long as the number of decimal places has a nearest double. -/
theorem rebinding_touches_only_scales (hc : Constructed objects[self])
    (hd : DistinctIds objects[self]) :
    RebindingLaw objects self registerId places ↔ places < doubleLimit := by
  constructor
  · intro h
    by_cases hp : 0 ≤ places
    · exact rebindingLaw_bound h hp
    · exact (not_le.mp hp).trans (lt_of_lt_of_le (by positivity) doubleLimit_bounds.1)
  · intro hlimit
    refine ⟨rebindObject_keeps objects self registerId places, fun hp => ?_, fun hneg => ?_⟩
    · obtain ⟨ref, href⟩ := (rebindObject_ok_iff objects self registerId places hp).mpr hlimit
      obtain ⟨out, hout, hpure⟩ := rebindObject_ok objects self registerId places href
      exact ⟨ref, out, href, hout, onlyScales hc hd hp hpure⟩
    · obtain ⟨e, he, hkind⟩ := decimalScale_negative hneg
      exact ⟨e, (rebindObject_error objects self registerId places).mpr he, hkind⟩

end Objects

def decimalRow : ParameterSpec := { plainRow 7001 "set_point" with decimalRegister := some 606 }

def decimalRegistry : ParameterRegistry := .build [decimalRow] [] []

theorem decimalRegistry_distinct : DistinctIds decimalRegistry := by
  unfold DistinctIds
  decide

theorem tenths_touch_only_scales : RebindingLaw [decimalRegistry] ⟨0, Nat.one_pos⟩ 606 1 := by
  have hlaw : RebindingLaw [decimalRegistry] ⟨0, Nat.one_pos⟩ 606 1 ↔ 1 < doubleLimit :=
    rebinding_touches_only_scales (.built [decimalRow] [] []) decimalRegistry_distinct
  have hone : (1 : ℤ) < 2 ^ 970 := one_lt_pow₀ (by norm_num) (by norm_num)
  exact hlaw.mpr (hone.trans_le doubleLimit_bounds.1)

theorem places_beyond_doubles :
    Constructed decimalRegistry ∧ DistinctIds decimalRegistry ∧
      ¬ RebindingLaw [decimalRegistry] ⟨0, Nat.one_pos⟩ 606 (10 ^ 400) := by
  refine ⟨.built [decimalRow] [] [], decimalRegistry_distinct, fun h => ?_⟩
  have hbound : (10 : ℤ) ^ 400 < 2 ^ 1024 :=
    lt_of_lt_of_le (rebindingLaw_bound h (by positivity)) doubleLimit_bounds.2
  exact absurd hbound (by decide +kernel)

end DecimalPlaces
