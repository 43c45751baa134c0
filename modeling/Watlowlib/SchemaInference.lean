import Mathlib.Data.List.Induction
import Mathlib.Order.Bounds.Basic
import Watlowlib.Dictionaries
import Watlowlib.PythonValues

/-! # The type of a column

The loop over the rows keeps one type and merges the next one into it. Merging is the least upper
bound of an order with text on top and the integers below the floats, so what comes out depends on
the types that occur and not on the order of the rows. -/
namespace SchemaInference

open Dictionaries PythonValues

/-- A value of a row; of an object that is no scalar only its type counts. -/
inductive Cell where
  | null
  | float (x : PyFloat)
  | int (i : ℤ)
  | str (s : String)
  | bool (b : Bool)
  | object (typeName : String)
  deriving DecidableEq, Repr

inductive CellType where
  | float
  | int
  | str
  | bool
  | object (typeName : String)
  deriving DecidableEq, Repr

/-- `type(value)` of a value that is not `None`. -/
def typeOf : Cell → Option CellType
  | .null => none
  | .float _ => some .float
  | .int _ => some .int
  | .str _ => some .str
  | .bool _ => some .bool
  | .object typeName => some (.object typeName)

abbrev Row := Dict String Cell

inductive ColumnType where
  | float
  | int
  | str
  deriving DecidableEq, Repr

structure ColumnSpec where
  name : String
  pythonType : ColumnType
  nullable : Bool
  deriving DecidableEq, Repr

def CellType.IsNumber (t : CellType) : Prop := t = .int ∨ t = .float

instance (t : CellType) : Decidable t.IsNumber :=
  inferInstanceAs (Decidable (t = .int ∨ t = .float))

def merge (inferred valueType : CellType) : CellType :=
  if inferred = valueType then inferred
  else if inferred.IsNumber ∧ valueType.IsNumber then .float
  else .str

def CellType.column : CellType → ColumnType
  | .float => .float
  | .int => .int
  | _ => .str

/-- One turn of the loop: the type so far, if any, and whether a row went without the value. -/
def inferStep (key : String) (state : Option CellType × Bool) (row : Row) :
    Option CellType × Bool :=
  match (row.lookup key).bind typeOf with
  | none => (state.1, true)
  | some valueType =>
    match state.1 with
    | none => (some valueType, state.2)
    | some inferred => (some (merge inferred valueType), state.2)

def inferColumn (key : String) (rows : List Row) : ColumnSpec :=
  match rows.foldl (inferStep key) (none, false) with
  | (none, _) => ⟨key, .str, true⟩
  | (some inferred, nullable) => ⟨key, inferred.column, nullable⟩

/-! ## The order of the types -/

theorem merge_self (a : CellType) : merge a a = a := if_pos rfl

theorem merge_of_ne {a b : CellType} (h : a ≠ b) :
    merge a b = if a.IsNumber ∧ b.IsNumber then .float else .str := if_neg h

theorem merge_comm (a b : CellType) : merge a b = merge b a := by
  by_cases h : a = b
  · rw [h]
  · rw [merge_of_ne h, merge_of_ne (Ne.symm h)]
    exact if_congr and_comm rfl rfl

theorem merge_str (a : CellType) : merge .str a = .str := by
  by_cases h : CellType.str = a
  · rw [← h, merge_self]
  · rw [merge_of_ne h, if_neg fun hn => by rcases hn.1 with hs | hs <;> cases hs]

theorem merge_assoc (a b c : CellType) : merge (merge a b) c = merge a (merge b c) := by
  by_cases hab : a = b
  · subst hab
    rw [merge_self]
    by_cases hac : a = c
    · rw [hac, merge_self, merge_self]
    · rw [merge_of_ne hac]
      split
      · rename_i hn
        rcases hn.1 with rfl | rfl
        · rfl
        · rfl
      · rw [merge_comm, merge_str]
  · rw [merge_of_ne hab]
    by_cases hn : a.IsNumber ∧ b.IsNumber
    · rw [if_pos hn]
      by_cases hc : c.IsNumber
      · obtain ⟨rfl | rfl, rfl | rfl⟩ := hn
        · exact absurd rfl hab
        · rcases hc with rfl | rfl <;> rfl
        · rcases hc with rfl | rfl <;> rfl
        · exact absurd rfl hab
      · have htext : ∀ x : CellType, x.IsNumber → merge x c = .str := by
          intro x hx
          have hne : x ≠ c := fun he => hc (he ▸ hx)
          rw [merge_of_ne hne, if_neg fun h => hc h.2]
        rw [htext _ (Or.inr rfl), htext _ hn.2, merge_comm, merge_str]
    · rw [if_neg hn, merge_str]
      by_cases hbc : b = c
      · rw [← hbc, merge_self, merge_of_ne hab, if_neg hn]
      · rw [merge_of_ne hbc]
        split
        · rename_i hnum
          have ha : ¬ a.IsNumber := fun ha => hn ⟨ha, hnum.1⟩
          have hne : a ≠ .float := fun he => ha (Or.inr he)
          rw [merge_of_ne hne, if_neg fun h => ha h.1]
        · rw [merge_comm, merge_str]

instance : Max CellType := ⟨merge⟩

/-- The order in which merging takes the upper bound. -/
instance : SemilatticeSup CellType := SemilatticeSup.mk' merge_comm merge_assoc merge_self

theorem le_def {a b : CellType} : a ≤ b ↔ merge a b = b := sup_eq_right.symm

theorem le_float_iff {a : CellType} : a ≤ .float ↔ a.IsNumber := by
  rw [le_def]
  by_cases h : a = .float
  · rw [h]
    exact iff_of_true (merge_self _) (Or.inr rfl)
  · rw [merge_of_ne h]
    by_cases hn : a.IsNumber
    · exact iff_of_true (if_pos ⟨hn, Or.inr rfl⟩) hn
    · rw [if_neg fun hboth => hn hboth.1]
      simp [hn]

theorem le_int_iff {a : CellType} : a ≤ .int ↔ a = .int := by
  rw [le_def]
  by_cases h : a = .int
  · rw [h]
    exact iff_of_true (merge_self _) rfl
  · rw [merge_of_ne h]
    split
    · simp [h]
    · simp [h]

/-! ## What the loop leaves -/

section Loop

variable (key : String)

def columnTypes (rows : List Row) : Set CellType :=
  {t | ∃ row ∈ rows, (row.lookup key).bind typeOf = some t}

def Lacks (rows : List Row) : Prop := ∃ row ∈ rows, (row.lookup key).bind typeOf = none

/-- The type so far is the least upper bound of the types so far, and is missing with them. -/
def Bounds (types : Set CellType) : Option CellType → Prop
  | none => types = ∅
  | some t => types.Nonempty ∧ IsLUB types t

theorem bounds_insert {types : Set CellType} {inferred : Option CellType} {t : CellType}
    (h : Bounds types inferred) :
    Bounds (insert t types) (some (inferred.elim t (merge · t))) := by
  cases inferred with
  | none =>
    rw [Bounds] at h
    subst h
    rw [insert_empty_eq]
    exact ⟨Set.singleton_nonempty t, isLUB_singleton⟩
  | some a =>
    have hlub : IsLUB (insert t types) (t ⊔ a) := h.2.insert t
    rw [sup_comm] at hlub
    exact ⟨Set.insert_nonempty t types, hlub⟩

variable {key}

theorem columnTypes_snoc_none {rows : List Row} {row : Row}
    (h : (row.lookup key).bind typeOf = none) :
    columnTypes key (rows ++ [row]) = columnTypes key rows := by
  ext t
  simp only [columnTypes, List.mem_append, List.mem_singleton, Set.mem_ofPred_eq]
  constructor
  · rintro ⟨r, hr | rfl, ht⟩
    · exact ⟨r, hr, ht⟩
    · cases h.symm.trans ht
  · rintro ⟨r, hr, ht⟩
    exact ⟨r, Or.inl hr, ht⟩

theorem columnTypes_snoc_some {rows : List Row} {row : Row} {valueType : CellType}
    (h : (row.lookup key).bind typeOf = some valueType) :
    columnTypes key (rows ++ [row]) = insert valueType (columnTypes key rows) := by
  ext t
  simp only [columnTypes, List.mem_append, List.mem_singleton, Set.mem_ofPred_eq,
    Set.mem_insert_iff]
  constructor
  · rintro ⟨r, hr | rfl, ht⟩
    · exact Or.inr ⟨r, hr, ht⟩
    · exact Or.inl (Option.some.inj (ht.symm.trans h))
  · rintro (rfl | ⟨r, hr, ht⟩)
    · exact ⟨row, Or.inr rfl, h⟩
    · exact ⟨r, Or.inl hr, ht⟩

theorem lacks_snoc {rows : List Row} {row : Row} :
    Lacks key (rows ++ [row]) ↔ Lacks key rows ∨ (row.lookup key).bind typeOf = none := by
  simp only [Lacks, List.mem_append, List.mem_singleton]
  constructor
  · rintro ⟨r, hr | rfl, ht⟩
    · exact Or.inl ⟨r, hr, ht⟩
    · exact Or.inr ht
  · rintro (⟨r, hr, ht⟩ | ht)
    · exact ⟨r, Or.inl hr, ht⟩
    · exact ⟨row, Or.inr rfl, ht⟩

structure Inferred (key : String) (rows : List Row) (state : Option CellType × Bool) : Prop where
  bounds : Bounds (columnTypes key rows) state.1
  nullable : state.2 = true ↔ Lacks key rows

theorem inferStep_inferred {rows : List Row} {state : Option CellType × Bool} (row : Row)
    (h : Inferred key rows state) : Inferred key (rows ++ [row]) (inferStep key state row) := by
  obtain ⟨inferred, nullable⟩ := state
  unfold inferStep
  cases hvalue : (row.lookup key).bind typeOf with
  | none =>
    refine ⟨?_, ?_⟩
    · rw [columnTypes_snoc_none hvalue]
      exact h.bounds
    · rw [lacks_snoc]
      exact iff_of_true rfl (Or.inr hvalue)
  | some valueType =>
    have hlacks : nullable = true ↔ Lacks key (rows ++ [row]) := by
      rw [lacks_snoc, hvalue]
      simpa using h.nullable
    have hbounds := bounds_insert (t := valueType) h.bounds
    rw [← columnTypes_snoc_some hvalue] at hbounds
    cases inferred with
    | none => exact ⟨hbounds, hlacks⟩
    | some a => exact ⟨hbounds, hlacks⟩

theorem inferred_rows (rows : List Row) :
    Inferred key rows (rows.foldl (inferStep key) (none, false)) := by
  induction rows using List.reverseRecOn with
  | nil => exact ⟨by simp [Bounds, columnTypes], by simp [Lacks]⟩
  | append_singleton rows row ih =>
    rw [List.foldl_append]
    exact inferStep_inferred row ih

end Loop

/-! ## Which type it is -/

section Verdicts

variable {types : Set CellType} {b : CellType}

theorem isLUB_float_iff (hne : types.Nonempty) (h : IsLUB types b) :
    b = .float ↔ types = {.float} ∨ types = {.int, .float} := by
  constructor
  · rintro rfl
    have hpair : types ⊆ {.int, .float} := fun t ht => le_float_iff.mp (h.1 ht)
    rcases hne.subset_pair_iff_eq.mp hpair with hint | hfloat | hboth
    · rw [hint] at h
      cases h.unique isLUB_singleton
    · exact Or.inl hfloat
    · exact Or.inr hboth
  · rintro (rfl | rfl)
    · exact h.unique isLUB_singleton
    · exact h.unique isLUB_pair

theorem isLUB_int_iff (hne : types.Nonempty) (h : IsLUB types b) :
    b = .int ↔ types = {.int} := by
  constructor
  · rintro rfl
    have hints : ∀ t ∈ types, t = .int := fun t ht => le_int_iff.mp (h.1 ht)
    obtain ⟨t, ht⟩ := hne
    have hint : CellType.int ∈ types := hints t ht ▸ ht
    exact Set.eq_singleton_iff_unique_mem.mpr ⟨hint, hints⟩
  · rintro rfl
    exact h.unique isLUB_singleton

theorem column_float_iff : b.column = .float ↔ b = .float := by
  cases b <;> simp [CellType.column]

theorem column_int_iff : b.column = .int ↔ b = .int := by
  cases b <;> simp [CellType.column]

end Verdicts

section Columns

variable {key : String} {rows : List Row}

theorem inferColumn_cases (key : String) (rows : List Row) :
    (columnTypes key rows = ∅ ∧ inferColumn key rows = ⟨key, .str, true⟩) ∨
      ∃ b nullable, (columnTypes key rows).Nonempty ∧ IsLUB (columnTypes key rows) b ∧
        (nullable = true ↔ Lacks key rows) ∧
        inferColumn key rows = ⟨key, b.column, nullable⟩ := by
  obtain ⟨hbounds, hnullable⟩ : Inferred key rows (rows.foldl (inferStep key) (none, false)) :=
    inferred_rows rows
  simp only [inferColumn]
  generalize rows.foldl (inferStep key) (none, false) = state at *
  obtain ⟨inferred, nullable⟩ := state
  cases inferred with
  | none => exact Or.inl ⟨hbounds, rfl⟩
  | some b => exact Or.inr ⟨b, nullable, hbounds.1, hbounds.2, hnullable, rfl⟩

theorem lacks_of_empty (hrows : rows ≠ []) (h : columnTypes key rows = ∅) : Lacks key rows := by
  obtain ⟨row, rest, rfl⟩ := List.exists_cons_of_ne_nil hrows
  refine ⟨row, List.mem_cons_self, ?_⟩
  by_contra hsome
  obtain ⟨t, ht⟩ := Option.ne_none_iff_exists'.mp hsome
  have hmem : t ∈ columnTypes key (row :: rest) := ⟨row, List.mem_cons_self, ht⟩
  rw [h] at hmem
  exact hmem

theorem inferColumn_name : (inferColumn key rows).name = key := by
  rcases inferColumn_cases key rows with ⟨-, he⟩ | ⟨b, nullable, -, -, -, he⟩
  · rw [he]
  · rw [he]

theorem inferColumn_float_iff :
    (inferColumn key rows).pythonType = .float ↔
      columnTypes key rows = {.float} ∨ columnTypes key rows = {.int, .float} := by
  rcases inferColumn_cases key rows with ⟨hempty, he⟩ | ⟨b, nullable, hne, hlub, -, he⟩
  · rw [he, hempty]
    refine iff_of_false (by simp) ?_
    rintro (h | h)
    · exact (Set.singleton_nonempty _).ne_empty h.symm
    · exact (Set.insert_nonempty _ _).ne_empty h.symm
  · rw [he, ← isLUB_float_iff hne hlub]
    exact column_float_iff

theorem inferColumn_int_iff :
    (inferColumn key rows).pythonType = .int ↔ columnTypes key rows = {.int} := by
  rcases inferColumn_cases key rows with ⟨hempty, he⟩ | ⟨b, nullable, hne, hlub, -, he⟩
  · rw [he, hempty]
    exact iff_of_false (by simp) fun h => (Set.singleton_nonempty _).ne_empty h.symm
  · rw [he, ← isLUB_int_iff hne hlub]
    exact column_int_iff

theorem inferColumn_str_iff :
    (inferColumn key rows).pythonType = .str ↔ columnTypes key rows ≠ {.float} ∧
      columnTypes key rows ≠ {.int, .float} ∧ columnTypes key rows ≠ {.int} := by
  rw [← and_assoc, ← not_or, ← inferColumn_float_iff]
  rw [Ne, ← inferColumn_int_iff]
  cases (inferColumn key rows).pythonType <;> simp

theorem inferColumn_nullable_iff (hrows : rows ≠ []) :
    (inferColumn key rows).nullable = true ↔ Lacks key rows := by
  rcases inferColumn_cases key rows with ⟨hempty, he⟩ | ⟨b, nullable, -, -, hnullable, he⟩
  · rw [he]
    exact iff_of_true rfl (lacks_of_empty hrows hempty)
  · rw [he]
    exact hnullable

theorem inferColumn_congr {rows' : List Row} (hrows : rows ≠ []) (hrows' : rows' ≠ [])
    (htypes : columnTypes key rows' = columnTypes key rows)
    (hlacks : Lacks key rows' ↔ Lacks key rows) : inferColumn key rows' = inferColumn key rows := by
  have hnullable : (inferColumn key rows').nullable = (inferColumn key rows).nullable := by
    rw [Bool.eq_iff_iff, inferColumn_nullable_iff hrows', inferColumn_nullable_iff hrows]
    exact hlacks
  have hname : (inferColumn key rows').name = (inferColumn key rows).name := by
    rw [inferColumn_name, inferColumn_name]
  have hfloat : (inferColumn key rows').pythonType = .float ↔
      (inferColumn key rows).pythonType = .float := by
    rw [inferColumn_float_iff, inferColumn_float_iff, htypes]
  have hint : (inferColumn key rows').pythonType = .int ↔
      (inferColumn key rows).pythonType = .int := by
    rw [inferColumn_int_iff, inferColumn_int_iff, htypes]
  have htype : (inferColumn key rows').pythonType = (inferColumn key rows).pythonType := by
    cases h : (inferColumn key rows).pythonType with
    | float => exact hfloat.mpr h
    | int => exact hint.mpr h
    | str =>
      rw [h] at hfloat hint
      cases h' : (inferColumn key rows').pythonType with
      | float => cases hfloat.mp h'
      | int => cases hint.mp h'
      | str => rfl
  cases hcolumn : inferColumn key rows with
  | mk name pythonType nullable =>
    cases hcolumn' : inferColumn key rows' with
    | mk name' pythonType' nullable' =>
      rw [hcolumn, hcolumn'] at hname htype hnullable
      simp only at hname htype hnullable
      rw [hname, htype, hnullable]

theorem columnTypes_perm {rows' : List Row} (h : rows'.Perm rows) :
    columnTypes key rows' = columnTypes key rows := by
  ext t
  simp only [columnTypes, Set.mem_ofPred_eq, h.mem_iff]

theorem lacks_perm {rows' : List Row} (h : rows'.Perm rows) :
    Lacks key rows' ↔ Lacks key rows := by
  simp only [Lacks, h.mem_iff]

/-- What is inferred of a column, whatever the order of its rows. -/
theorem inferColumn_order_free (key : String) {rows : List Row} (hrows : rows ≠ []) :
    ((inferColumn key rows).pythonType = .float ↔
      columnTypes key rows = {.float} ∨ columnTypes key rows = {.int, .float}) ∧
    ((inferColumn key rows).pythonType = .int ↔ columnTypes key rows = {.int}) ∧
    ((inferColumn key rows).pythonType = .str ↔ columnTypes key rows ≠ {.float} ∧
      columnTypes key rows ≠ {.int, .float} ∧ columnTypes key rows ≠ {.int}) ∧
    ((inferColumn key rows).nullable = true ↔ Lacks key rows) ∧
    (∀ rows' : List Row, rows' ≠ [] → columnTypes key rows' = columnTypes key rows →
      (Lacks key rows' ↔ Lacks key rows) → inferColumn key rows' = inferColumn key rows) ∧
    (∀ rows' : List Row, rows'.Perm rows → inferColumn key rows' = inferColumn key rows) := by
  refine ⟨inferColumn_float_iff, inferColumn_int_iff, inferColumn_str_iff,
    inferColumn_nullable_iff hrows, ?_, ?_⟩
  · exact fun rows' hrows' htypes hlacks => inferColumn_congr hrows hrows' htypes hlacks
  · intro rows' hperm
    have hrows' : rows' ≠ [] := fun h => hrows (List.nil_perm.mp (h ▸ hperm))
    exact inferColumn_congr hrows hrows' (columnTypes_perm hperm) (lacks_perm hperm)

end Columns

def cellRow (key : String) (cell : Cell) : Row := AList.singleton key cell

theorem number_column :
    inferColumn "value" [cellRow "value" (.float (.finite 1)), cellRow "unit" .null,
        cellRow "value" (.int 2)] =
      inferColumn "value" [cellRow "value" (.int 2), cellRow "unit" .null,
        cellRow "value" (.float (.finite 1))] :=
  (inferColumn_order_free "value" (by simp)).2.2.2.2.2 _ (by
    exact List.reverse_perm [cellRow "value" (.int 2), cellRow "unit" .null,
      cellRow "value" (.float (.finite 1))])

end SchemaInference
