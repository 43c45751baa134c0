import Watlowlib.Dictionaries
import Watlowlib.PythonNumbers
import Watlowlib.StdBusTlv

/-! # The parameter registry

Parameter specifications, the two indexes over them and the checks that encoders make. The name
index is not injective: a later row takes over the key of an earlier one with the same name. -/
namespace Registry

open Dictionaries ExceptRules PythonNumbers PythonTexts PythonValues StdBusTlv WatlowErrors

inductive RwesFlag where
  | r
  | w
  | rw
  | rwe
  | rwes
  deriving DecidableEq, Repr

inductive SafetyTier where
  | readOnly
  | stateful
  | persistent
  deriving DecidableEq, Repr

inductive UnitKind where
  | temperature
  | percent
  | dimensionless
  | enumeration
  | string
  deriving DecidableEq, Repr

def safetyFromRwes (flag : RwesFlag) : SafetyTier :=
  if flag = .r then .readOnly else .persistent

structure ParameterSpec where
  parameterId : ℤ
  name : String
  aliases : List String
  dataType : DataType
  unitKind : UnitKind
  rwes : RwesFlag
  safety : SafetyTier
  cls : ℤ
  member : ℤ
  defaultInstance : ℤ
  maxInstance : ℤ
  relativeAddr : ℤ
  registerCount : ℕ
  wordOrder : Option String
  rangeMin : Option PyFloat
  rangeMax : Option PyFloat
  scale : PyFloat
  decimalRegister : Option ℤ
  deriving DecidableEq, Repr

def plainRow (parameterId : ℤ) (name : String) : ParameterSpec where
  parameterId := parameterId
  name := name
  aliases := []
  dataType := .u8
  unitKind := .dimensionless
  rwes := .rw
  safety := .persistent
  cls := parameterId / 1000
  member := parameterId % 1000
  defaultInstance := 1
  maxInstance := 2
  relativeAddr := parameterId
  registerCount := 1
  wordOrder := none
  rangeMin := none
  rangeMax := none
  scale := .finite 1
  decimalRegister := none

/-- Two specifications that differ at most in their names. -/
def SameRow (a b : ParameterSpec) : Prop := { a with name := b.name, aliases := b.aliases } = b

theorem SameRow.proj {α : Type} {a b : ParameterSpec} (h : SameRow a b) (f : ParameterSpec → α)
    (hf : ∀ s name aliases, f { s with name := name, aliases := aliases } = f s) : f b = f a := by
  rw [← h]
  exact hf a b.name b.aliases

/-- The override of a parameter id; an empty text counts as none. -/
def overrideFor (overrides : List (ℤ × String)) (spec : ParameterSpec) : Option String :=
  ((ofList overrides).lookup spec.parameterId).filter (· ≠ "")

/-- The aliases that target `name`, and the row's own name when an override replaces it. -/
def specAliases (aliases : List (String × String)) (name : String) (spec : ParameterSpec) :
    List String :=
  (aliases.filter (·.2 = name)).map (·.1) ++ if name ≠ spec.name then [spec.name] else []

def boundName (overrides : List (ℤ × String)) (spec : ParameterSpec) : String :=
  (overrideFor overrides spec).getD spec.name

def rebind (aliases : List (String × String)) (overrides : List (ℤ × String))
    (spec : ParameterSpec) : ParameterSpec :=
  if boundName overrides spec ≠ spec.name ∨
      specAliases aliases (boundName overrides spec) spec ≠ [] then
    { spec with
      name := boundName overrides spec
      aliases := specAliases aliases (boundName overrides spec) spec }
  else spec

theorem rebind_sameRow (aliases : List (String × String)) (overrides : List (ℤ × String))
    (spec : ParameterSpec) : SameRow spec (rebind aliases overrides spec) := by
  simp only [rebind]
  split
  · rfl
  · rfl

structure Index where
  byId : Dict ℤ ParameterSpec
  byName : Dict String ParameterSpec

/-- `override_owner`: the id that owns each name an override assigns. -/
def overrideOwner (overrides : List (ℤ × String)) : Dict String ℤ :=
  ofList (overrides.map fun e => (lower e.2, e.1))

/-- The row under its own name, whoever had that key, and under each alias that is still free. -/
def enterNames (spec : ParameterSpec) (byName : Dict String ParameterSpec) :
    Dict String ParameterSpec :=
  spec.aliases.foldl (fun d a => setDefault (lower a) spec d)
    (byName.insert (lower spec.name) spec)

/-- Enter one row: its id always, its names unless an override gave the name to another id. -/
def Index.add (owner : Dict String ℤ) (index : Index) (spec : ParameterSpec) : Index :=
  ⟨index.byId.insert spec.parameterId spec,
    if (owner.lookup (lower spec.name)).any (· ≠ spec.parameterId) then index.byName
    else enterNames spec index.byName⟩

/-- The entries of both tables are rows of `specs`, each id under its own key. -/
structure Index.WellFormed (index : Index) (specs : List ParameterSpec) : Prop where
  byId_key : ∀ i s, index.byId.lookup i = some s → s.parameterId = i
  byId_mem : ∀ i s, index.byId.lookup i = some s → s ∈ specs
  byName_mem : ∀ k s, index.byName.lookup k = some s → s ∈ specs

structure ParameterRegistry where
  specs : List ParameterSpec
  index : Index
  wellFormed : index.WellFormed specs

theorem enterNames_mem {spec : ParameterSpec} {specs : List ParameterSpec}
    {byName : Dict String ParameterSpec} (hspec : spec ∈ specs)
    (hd : ∀ k s, byName.lookup k = some s → s ∈ specs) :
    ∀ k s, (enterNames spec byName).lookup k = some s → s ∈ specs := by
  have haliases : ∀ (aliases : List String) (d : Dict String ParameterSpec),
      (∀ k s, d.lookup k = some s → s ∈ specs) →
      ∀ k s, (aliases.foldl (fun d a => setDefault (lower a) spec d) d).lookup k = some s →
        s ∈ specs := by
    intro aliases
    induction aliases with
    | nil => exact fun _ hd => hd
    | cons a aliases ih =>
      intro d hd
      refine ih _ fun k s hs => ?_
      rw [lookup_setDefault] at hs
      split at hs
      · cases hl : d.lookup (lower a) with
        | none =>
          rw [hl] at hs
          cases hs
          exact hspec
        | some w =>
          rw [hl] at hs
          cases hs
          exact hd _ _ hl
      · exact hd k s hs
  refine haliases spec.aliases _ fun k s hs => ?_
  rcases lookup_insert_cases hs with ⟨-, rfl⟩ | ⟨-, hs⟩
  · exact hspec
  · exact hd k s hs

theorem Index.add_wellFormed {owner : Dict String ℤ} {index : Index} {spec : ParameterSpec}
    {specs : List ParameterSpec} (h : index.WellFormed specs) (hspec : spec ∈ specs) :
    (index.add owner spec).WellFormed specs := by
  have hid : ∀ i s, (index.add owner spec).byId.lookup i = some s →
      s.parameterId = i ∧ s ∈ specs := by
    intro i s hs
    rcases lookup_insert_cases hs with ⟨hi, rfl⟩ | ⟨-, hs⟩
    · exact ⟨hi.symm, hspec⟩
    · exact ⟨h.byId_key i s hs, h.byId_mem i s hs⟩
  refine ⟨fun i s hs => (hid i s hs).1, fun i s hs => (hid i s hs).2, ?_⟩
  intro k s hs
  unfold Index.add at hs
  simp only at hs
  split at hs
  · exact h.byName_mem k s hs
  · exact enterNames_mem hspec h.byName_mem k s hs

theorem indexed_wellFormed (owner : Dict String ℤ) (specs : List ParameterSpec) :
    (specs.foldl (Index.add owner) ⟨∅, ∅⟩).WellFormed specs := by
  have h : ∀ (rows : List ParameterSpec) (index : Index), (∀ s ∈ rows, s ∈ specs) →
      index.WellFormed specs → (rows.foldl (Index.add owner) index).WellFormed specs := by
    intro rows
    induction rows with
    | nil => exact fun index _ h => h
    | cons spec rows ih =>
      intro index hmem h
      exact ih _ (fun s hs => hmem s (by simp [hs])) (Index.add_wellFormed h (hmem spec (by simp)))
  exact h specs _ (fun s hs => hs) ⟨by simp, by simp, by simp⟩

/-- `ParameterRegistry.__init__` -/
def ParameterRegistry.build (specs : List ParameterSpec) (aliases : List (String × String))
    (overrides : List (ℤ × String)) : ParameterRegistry :=
  let rebound := specs.map (rebind aliases overrides)
  ⟨rebound, rebound.foldl (Index.add (overrideOwner overrides)) ⟨∅, ∅⟩,
    indexed_wellFormed _ rebound⟩

variable (registry : ParameterRegistry)

def ParameterRegistry.resolve : Ident → Result ParameterSpec
  | .id i =>
    match registry.index.byId.lookup i with
    | some spec => .ok spec
    | none => .error (formatted .validation [.text "unknown parameter id: ", .int i])
  | .name s =>
    match registry.index.byName.lookup (lower s) with
    | some spec => .ok spec
    | none => raise .validation [.text "unknown parameter name: ", .strRepr s]

def validateInstance (spec : ParameterSpec) (instanceNo : ℤ) : Result PUnit :=
  require (1 ≤ instanceNo ∧ instanceNo ≤ spec.maxInstance)
    (formatted .validation [.text "instance ", .int instanceNo, .text " out of range for ",
      .strRepr spec.name, .text " (1..", .int spec.maxInstance, .text ")"])

def validateWritable (spec : ParameterSpec) : Result PUnit :=
  require (spec.rwes ≠ .r)
    ⟨.validation, [.text "parameter ", .strRepr spec.name,
      .text " is read-only (rwes=R); writes are rejected"], {}⟩

/-- `validate_value`: a text is not checked, nor is a row that lacks either bound. An integer that
`float` takes is short enough for the message. -/
def validateValue (spec : ParameterSpec) : PyValue → Result PUnit
  | .str _ => .ok ⟨⟩
  | .num n =>
    match spec.rangeMin, spec.rangeMax with
    | some lo, some hi => do
      let v ← toFloat n
      require (¬ (v.Lt lo ∨ hi.Lt v))
        ⟨.validation, [.text "value ", .valueRepr (.num n), .text " out of range for ",
          .strRepr spec.name, .text " (", .float lo, .text "..", .float hi, .text ")"], {}⟩
    | _, _ => .ok ⟨⟩

theorem resolve_of_lookup {i : ℤ} {spec : ParameterSpec}
    (h : registry.index.byId.lookup i = some spec) : registry.resolve (.id i) = .ok spec := by
  simp only [ParameterRegistry.resolve]
  simp only [h]

theorem resolve_id {i : ℤ} {spec : ParameterSpec} (h : registry.resolve (.id i) = .ok spec) :
    spec.parameterId = i ∧ spec ∈ registry.specs := by
  unfold ParameterRegistry.resolve at h
  simp only at h
  split at h
  · rename_i hl
    cases h
    exact ⟨registry.wellFormed.byId_key _ _ hl, registry.wellFormed.byId_mem _ _ hl⟩
  · cases h

theorem resolve_mem {x : Ident} {spec : ParameterSpec} (h : registry.resolve x = .ok spec) :
    spec ∈ registry.specs := by
  cases x with
  | id i => exact (resolve_id registry h).2
  | name s =>
    unfold ParameterRegistry.resolve at h
    simp only at h
    split at h
    · rename_i hl
      cases h
      exact registry.wellFormed.byName_mem _ _ hl
    · cases h

/-- One row for each parameter id, as every loaded table has. -/
def DistinctIds (registry : ParameterRegistry) : Prop :=
  (registry.specs.map (·.parameterId)).Nodup

theorem distinctIds_unique {registry : ParameterRegistry} (h : DistinctIds registry)
    {s t : ParameterSpec} (hs : s ∈ registry.specs) (ht : t ∈ registry.specs)
    (hid : s.parameterId = t.parameterId) : s = t :=
  List.inj_on_of_nodup_map h hs ht hid

theorem indexed_byId (owner : Dict String ℤ) (rows : List ParameterSpec) (index : Index) {i : ℤ}
    (h : index.byId.lookup i ≠ none ∨ ∃ s ∈ rows, s.parameterId = i) :
    (rows.foldl (Index.add owner) index).byId.lookup i ≠ none := by
  induction rows generalizing index with
  | nil =>
    rcases h with h | ⟨s, hs, -⟩
    · exact h
    · cases hs
  | cons spec rows ih =>
    apply ih
    have hadd : (index.add owner spec).byId.lookup i =
        if i = spec.parameterId then some spec else index.byId.lookup i := lookup_insert_eq _ _ _ _
    by_cases hi : i = spec.parameterId
    · rw [hadd, if_pos hi]
      exact Or.inl (by simp)
    · rw [hadd, if_neg hi]
      rcases h with h | ⟨s, hs, hid⟩
      · exact Or.inl h
      · rcases List.mem_cons.mp hs with rfl | hs
        · exact absurd hid.symm hi
        · exact Or.inr ⟨s, hs, hid⟩

theorem build_resolves {specs : List ParameterSpec} {aliases : List (String × String)}
    {overrides : List (ℤ × String)} {spec : ParameterSpec}
    (hd : DistinctIds (.build specs aliases overrides))
    (hmem : spec ∈ (ParameterRegistry.build specs aliases overrides).specs) :
    (ParameterRegistry.build specs aliases overrides).resolve (.id spec.parameterId) =
      .ok spec := by
  obtain ⟨found, hfound⟩ := Option.ne_none_iff_exists'.mp
    (indexed_byId (overrideOwner overrides) _ ⟨∅, ∅⟩ (Or.inr ⟨spec, hmem, rfl⟩))
  have hresolve := resolve_of_lookup (ParameterRegistry.build specs aliases overrides) hfound
  obtain ⟨hid, hin⟩ := resolve_id _ hresolve
  rw [hresolve, distinctIds_unique hd hin hmem hid]

/-! ## Rows scaled by a decimal-places register -/

/-- `10.0 ** -places`, refused for a negative number of places. -/
def decimalScale (places : ℤ) : Result PyFloat := do
  require (0 ≤ places)
    (formatted .validation [.text "decimal places must be non-negative; got ", .int places])
  let _ ← toFloat (.int (-places))
  .ok (ofRat (1 / 10 ^ places.toNat))

/-- `rescaled`: the rows of the register that have another scale, under their ids. -/
def rescaledRows (registerId : ℤ) (scale : PyFloat) (specs : List ParameterSpec) :
    Dict ℤ ParameterSpec :=
  ofList ((specs.filter fun spec => spec.decimalRegister = some registerId ∧ spec.scale ≠ scale).map
    fun spec => (spec.parameterId, { spec with scale := scale }))

def rescale (rescaled : Dict ℤ ParameterSpec) (i : ℤ) (spec : ParameterSpec) : ParameterSpec :=
  (rescaled.lookup i).getD spec

theorem rescale_parameterId {registerId : ℤ} {scale : PyFloat} {specs : List ParameterSpec}
    {spec : ParameterSpec} :
    (rescale (rescaledRows registerId scale specs) spec.parameterId spec).parameterId =
      spec.parameterId := by
  simp only [rescale]
  cases h : (rescaledRows registerId scale specs).lookup spec.parameterId with
  | none => rfl
  | some row =>
    obtain ⟨spec', -, he⟩ := List.mem_map.mp (mem_of_lookup_ofList h)
    obtain ⟨hid, rfl⟩ := Prod.mk.inj he
    exact hid

def rescaledIndex (rescaled : Dict ℤ ParameterSpec) (index : Index) : Index :=
  ⟨mapValues (rescale rescaled) index.byId,
    mapValues (fun _ spec => rescale rescaled spec.parameterId spec) index.byName⟩

theorem rescaledIndex_wellFormed {registerId : ℤ} {scale : PyFloat} {index : Index}
    {specs : List ParameterSpec} (h : index.WellFormed specs) :
    (rescaledIndex (rescaledRows registerId scale specs) index).WellFormed
      (specs.map fun spec =>
        rescale (rescaledRows registerId scale specs) spec.parameterId spec) := by
  have hid : ∀ i s, (rescaledIndex (rescaledRows registerId scale specs) index).byId.lookup i =
      some s → ∃ spec ∈ specs, spec.parameterId = i ∧
        s = rescale (rescaledRows registerId scale specs) spec.parameterId spec := by
    intro i s hs
    obtain ⟨spec, hspec, rfl⟩ := Option.map_eq_some_iff.mp (lookup_mapValues _ _ i ▸ hs)
    have hkey := h.byId_key i spec hspec
    exact ⟨spec, h.byId_mem i spec hspec, hkey, by rw [hkey]⟩
  refine ⟨?_, ?_, ?_⟩
  · intro i s hs
    obtain ⟨spec, -, hi, rfl⟩ := hid i s hs
    exact rescale_parameterId.trans hi
  · intro i s hs
    obtain ⟨spec, hmem, -, rfl⟩ := hid i s hs
    exact List.mem_map.mpr ⟨spec, hmem, rfl⟩
  · intro k s hs
    obtain ⟨spec, hspec, rfl⟩ := Option.map_eq_some_iff.mp (lookup_mapValues _ _ k ▸ hs)
    exact List.mem_map.mpr ⟨spec, h.byName_mem k spec hspec, rfl⟩

/-- `with_decimal_places`: a copy with the rows of the register scaled by `10 ** -places`. -/
def ParameterRegistry.withDecimalPlaces (registerId places : ℤ) : Result ParameterRegistry := do
  let scale ← decimalScale places
  let rescaled := rescaledRows registerId scale registry.specs
  .ok (if rescaled = ∅ then registry
    else ⟨registry.specs.map fun spec => rescale rescaled spec.parameterId spec,
      rescaledIndex rescaled registry.index, rescaledIndex_wellFormed registry.wellFormed⟩)

theorem withDecimalPlaces_error_iff {registerId places : ℤ} {e : PyError} :
    registry.withDecimalPlaces registerId places = .error e ↔ decimalScale places = .error e := by
  simp only [ParameterRegistry.withDecimalPlaces]
  cases decimalScale places with
  | error e' => simp
  | ok scale => simp

end Registry
