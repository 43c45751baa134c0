import Watlowlib.PollAttribution
import Watlowlib.SchemaInference

/-! # The schema of a tabular sink

The first batch locks the columns. A later row is cut to them: a column that it lacks is filled, a
key that they lack is dropped, and no value is converted. -/
namespace SinkSchemas

open Dictionaries PollAttribution PythonValues SchemaInference WatlowErrors

/-- What a sink raises: the errors of its own and those of the driver below it. -/
inductive SinkError where
  | runtimeError (message : String)
  | valueError (message : String)
  | assertionError
  | sinkWrite (message : String)
  | sinkSchema (message : String)
  | sinkDependency (message : String)
  | driver (message : String)
  deriving DecidableEq, Repr

/-- The columns of a schema, each name once. -/
structure LockedColumns where
  columns : List ColumnSpec
  nodup : (columns.map (·.name)).Nodup

def LockedColumns.names (locked : LockedColumns) : List String := locked.columns.map (·.name)

structure SchemaLock where
  columns : Option LockedColumns

def SchemaLock.new : SchemaLock := ⟨none⟩

def SchemaLock.isLocked (lock : SchemaLock) : Bool := lock.columns.isSome

def noteKey (seen : List String) (key : String) : List String :=
  if key ∈ seen then seen else seen ++ [key]

/-- `ordered_keys`: every key of the batch, in the order of first encounter. -/
def orderedKeys (rows : List Row) : List String :=
  rows.foldl (fun seen row => row.keys.foldl noteKey seen) []

theorem noteKey_nodup {seen : List String} (h : seen.Nodup) (key : String) :
    (noteKey seen key).Nodup := by
  unfold noteKey
  split
  · exact h
  · rename_i hnew
    exact List.Nodup.append h (List.nodup_singleton key) (by simpa using hnew)

theorem mem_noteKey {seen : List String} {key k : String} :
    k ∈ noteKey seen key ↔ k ∈ seen ∨ k = key := by
  unfold noteKey
  split
  · rename_i hold
    constructor
    · exact Or.inl
    · rintro (h | rfl)
      · exact h
      · exact hold
  · simp

theorem noteKeys (keys : List String) {seen : List String} (h : seen.Nodup) :
    (keys.foldl noteKey seen).Nodup ∧
      ∀ k, k ∈ keys.foldl noteKey seen ↔ k ∈ seen ∨ k ∈ keys := by
  induction keys generalizing seen with
  | nil => exact ⟨h, by simp⟩
  | cons key keys ih =>
    obtain ⟨hnodup, hmem⟩ := ih (noteKey_nodup h key)
    refine ⟨hnodup, fun k => ?_⟩
    rw [List.foldl_cons, hmem, mem_noteKey, List.mem_cons, or_assoc]

theorem orderedKeys_spec (rows : List Row) :
    (orderedKeys rows).Nodup ∧ ∀ k, k ∈ orderedKeys rows ↔ ∃ row ∈ rows, k ∈ row.keys := by
  have hloop : ∀ (rows : List Row) (seen : List String), seen.Nodup →
      (rows.foldl (fun seen row => row.keys.foldl noteKey seen) seen).Nodup ∧
        ∀ k, k ∈ rows.foldl (fun seen row => row.keys.foldl noteKey seen) seen ↔
          k ∈ seen ∨ ∃ row ∈ rows, k ∈ row.keys := by
    intro rows
    induction rows with
    | nil => exact fun seen h => ⟨h, by simp⟩
    | cons row rows ih =>
      intro seen h
      obtain ⟨hrow, hmemRow⟩ := noteKeys row.keys h
      obtain ⟨hnodup, hmem⟩ := ih _ hrow
      refine ⟨hnodup, fun k => ?_⟩
      rw [List.foldl_cons, hmem, hmemRow]
      simp [or_assoc]
  obtain ⟨hnodup, hmem⟩ := hloop rows [] List.nodup_nil
  refine ⟨hnodup, fun k => ?_⟩
  rw [orderedKeys, hmem]
  simp

theorem inferredColumns_nodup (rows : List Row) :
    (((orderedKeys rows).map fun key => inferColumn key rows).map (·.name)).Nodup := by
  have hnames : (orderedKeys rows).map ((·.name) ∘ fun key => inferColumn key rows) =
      (orderedKeys rows).map id := List.map_congr_left fun key _ => inferColumn_name
  rw [List.map_map, hnames, List.map_id]
  exact (orderedKeys_spec rows).1

def inferredColumns (rows : List Row) : LockedColumns :=
  ⟨(orderedKeys rows).map fun key => inferColumn key rows, inferredColumns_nodup rows⟩

def SchemaLock.lock (s : SchemaLock) (rows : List Row) :
    Except SinkError (LockedColumns × SchemaLock) :=
  if s.isLocked then .error (.runtimeError "SchemaLock.lock called twice")
  else if rows = [] then
    .error (.valueError "SchemaLock.lock requires a non-empty first batch")
  else .ok (inferredColumns rows, ⟨some (inferredColumns rows)⟩)

def SchemaLock.lockTo (s : SchemaLock) (specs : LockedColumns) : Except SinkError SchemaLock :=
  if s.isLocked then .error (.runtimeError "SchemaLock.lock_to called twice")
  else if specs.columns = [] then
    .error (.valueError "SchemaLock.lock_to requires at least one column")
  else .ok ⟨some specs⟩

theorem blankRow_nodup (locked : LockedColumns) :
    (locked.columns.map fun c => (⟨c.name, .null⟩ : Sigma fun _ : String => Cell)).NodupKeys := by
  have hkeys : List.keys (locked.columns.map fun c =>
      (⟨c.name, .null⟩ : Sigma fun _ : String => Cell)) = locked.columns.map (·.name) := by
    simp [List.keys]
  rw [List.NodupKeys, hkeys]
  exact locked.nodup

/-- `{spec.name: None for spec in self._columns}` -/
def blankRow (locked : LockedColumns) : Row :=
  ⟨locked.columns.map fun c => ⟨c.name, .null⟩, blankRow_nodup locked⟩

/-- `result[key] = value` of a key that is there: the value changes, the order does not. -/
def assign (key : String) (value : Cell) (row : Row) : Row :=
  mapValues (fun k v => if k = key then value else v) row

def projectRow (locked : LockedColumns) (row : Row) : Row :=
  row.entries.foldl (fun result e => if e.1 ∈ locked.names then assign e.1 e.2 result else result)
    (blankRow locked)

def SchemaLock.project (s : SchemaLock) (row : Row) : Except SinkError Row :=
  match s.columns with
  | none => .error (.runtimeError "SchemaLock.project called before lock()")
  | some locked => .ok (projectRow locked row)

/-! ## Rows of the locked columns -/

section Projections

variable {locked : LockedColumns} {row : Row}

theorem lookup_assign (key name : String) (value : Cell) :
    (assign key value row).lookup name =
      if name = key then (row.lookup name).map fun _ => value else row.lookup name := by
  rw [assign, lookup_mapValues]
  by_cases h : name = key
  · simp [h]
  · simp [h]

theorem blankRow_lookup {name : String} (h : name ∈ locked.names) :
    (blankRow locked).lookup name = some .null := by
  obtain ⟨c, hc, rfl⟩ := List.mem_map.mp h
  refine (List.mem_dlookup_iff (blankRow_nodup locked)).mpr ?_
  exact List.mem_map.mpr ⟨c, hc, rfl⟩

theorem projectRow_keys : (projectRow locked row).keys = locked.names := by
  have hloop : ∀ (entries : List (Sigma fun _ : String => Cell)) (result : Row),
      (entries.foldl (fun result e => if e.1 ∈ locked.names then assign e.1 e.2 result else result)
        result).keys = result.keys := by
    intro entries
    induction entries with
    | nil => exact fun result => rfl
    | cons e entries ih =>
      intro result
      rw [List.foldl_cons, ih]
      split
      · exact keys_mapValues _ _
      · rfl
  rw [projectRow, hloop, blankRow, AList.keys]
  simp [List.keys, LockedColumns.names]

theorem projectRow_lookup {name : String} (h : name ∈ locked.names) :
    (projectRow locked row).lookup name = some ((row.lookup name).getD .null) := by
  have hloop : ∀ (entries : List (Sigma fun _ : String => Cell)) (result : Row) (old : Cell),
      entries.NodupKeys → result.lookup name = some old →
      (entries.foldl (fun result e => if e.1 ∈ locked.names then assign e.1 e.2 result else result)
        result).lookup name = some ((List.dlookup name entries).getD old) := by
    intro entries
    induction entries with
    | nil => exact fun result old _ hold => hold
    | cons e entries ih =>
      intro result old hnodup hold
      obtain ⟨key, value⟩ := e
      obtain ⟨hnew, hrest⟩ := List.nodupKeys_cons.mp hnodup
      rw [List.foldl_cons]
      by_cases hkey : name = key
      · subst hkey
        have hassigned : (assign name value result).lookup name = some value := by
          rw [lookup_assign, if_pos rfl, hold]
          rfl
        have hgone : List.dlookup name entries = none := List.dlookup_eq_none.mpr hnew
        rw [if_pos h, ih _ value hrest hassigned, hgone, List.dlookup_cons_eq]
        rfl
      · have hkept : (if key ∈ locked.names then assign key value result else result).lookup name =
            some old := by
          split
          · rw [lookup_assign, if_neg hkey]
            exact hold
          · exact hold
        rw [ih _ old hrest hkept, List.dlookup_cons_ne _ _ hkey]
  exact hloop row.entries (blankRow locked) .null row.nodupKeys (blankRow_lookup h)

end Projections

/-! ## What a typed sink is handed -/

/-- The types that a column of a typed schema takes: an integer may stand among floats. -/
def ColumnType.Admits : ColumnType → CellType → Prop
  | .float, t => t.IsNumber
  | .int, t => t = .int
  | .str, t => t = .str

def Fits (c : ColumnSpec) (value : Cell) : Prop :=
  match typeOf value with
  | none => c.nullable = true
  | some t => ColumnType.Admits c.pythonType t

/-- What is promised of a first batch: it locks a schema, its rows fit that schema, and every row
to come is cut to exactly its columns. -/
def SchemaLaw (rows : List Row) : Prop :=
  ∃ locked lock, SchemaLock.new.lock rows = .ok (locked, lock) ∧
    (∀ row ∈ rows, ∃ out, lock.project row = .ok out ∧
      ∀ c ∈ locked.columns, ∃ value, out.lookup c.name = some value ∧ Fits c value) ∧
    ∀ row, ∃ out, lock.project row = .ok out ∧ out.keys = locked.columns.map (·.name)

/-- The values of a column are all texts, or all numbers. -/
def Uniform (key : String) (rows : List Row) : Prop :=
  (∀ t ∈ columnTypes key rows, t = .str) ∨ ∀ t ∈ columnTypes key rows, t.IsNumber

section Batches

variable {rows : List Row} {key : String}

theorem typeOf_getD (row : Row) :
    typeOf ((row.lookup key).getD .null) = (row.lookup key).bind typeOf := by
  cases row.lookup key with
  | none => rfl
  | some v => rfl

theorem lock_new (hrows : rows ≠ []) :
    SchemaLock.new.lock rows = .ok (inferredColumns rows, ⟨some (inferredColumns rows)⟩) := by
  have hunlocked : ¬ (SchemaLock.new.isLocked = true) := by decide
  rw [SchemaLock.lock, if_neg hunlocked, if_neg hrows]

theorem schemaLaw_iff_admits (hrows : rows ≠ []) :
    SchemaLaw rows ↔ ∀ key, ∀ t ∈ columnTypes key rows,
      ColumnType.Admits (inferColumn key rows).pythonType t := by
  have hnames : ∀ c ∈ (inferredColumns rows).columns,
      c.name ∈ (inferredColumns rows).names ∧ c = inferColumn c.name rows := by
    intro c hc
    refine ⟨List.mem_map_of_mem hc, ?_⟩
    obtain ⟨key, -, rfl⟩ := List.mem_map.mp hc
    rw [inferColumn_name]
  constructor
  · rintro ⟨locked, lock, hlock, hbatch, -⟩ key t ⟨row, hrow, ht⟩
    rw [lock_new hrows] at hlock
    cases hlock
    obtain ⟨out, hout, hfits⟩ := hbatch row hrow
    cases hout
    have hkey : key ∈ orderedKeys rows := by
      refine ((orderedKeys_spec rows).2 key).mpr ⟨row, hrow, ?_⟩
      rw [← AList.mem_keys, ← AList.lookup_isSome]
      cases hlookup : row.lookup key with
      | none =>
        rw [hlookup] at ht
        cases ht
      | some v => rfl
    have hmem : inferColumn key rows ∈ (inferredColumns rows).columns :=
      List.mem_map.mpr ⟨key, hkey, rfl⟩
    obtain ⟨value, hvalue, hfit⟩ := hfits _ hmem
    rw [projectRow_lookup (hnames _ hmem).1, inferColumn_name] at hvalue
    cases hvalue
    rw [Fits, typeOf_getD, ht] at hfit
    exact hfit
  · intro hadmits
    refine ⟨_, _, lock_new hrows, fun row hrow => ?_, fun row => ⟨_, rfl, projectRow_keys⟩⟩
    refine ⟨_, rfl, fun c hc => ⟨_, projectRow_lookup (hnames c hc).1, ?_⟩⟩
    rw [(hnames c hc).2, inferColumn_name, Fits, typeOf_getD]
    cases hvalue : (row.lookup c.name).bind typeOf with
    | none => exact (inferColumn_nullable_iff hrows).mpr ⟨row, hrow, hvalue⟩
    | some t => exact hadmits c.name t ⟨row, hrow, hvalue⟩

theorem admits_iff_uniform :
    (∀ t ∈ columnTypes key rows, ColumnType.Admits (inferColumn key rows).pythonType t) ↔
      Uniform key rows := by
  cases htype : (inferColumn key rows).pythonType with
  | float =>
    have hnumbers : ∀ t ∈ columnTypes key rows, t.IsNumber := by
      rcases inferColumn_float_iff.mp htype with h | h
      · rw [h]
        rintro t rfl
        exact Or.inr rfl
      · rw [h]
        exact fun t ht => ht
    exact iff_of_true hnumbers (Or.inr hnumbers)
  | int =>
    have hints : ∀ t ∈ columnTypes key rows, t = .int := by
      rw [inferColumn_int_iff.mp htype]
      exact fun t ht => ht
    exact iff_of_true hints (Or.inr fun t ht => Or.inl (hints t ht))
  | str =>
    refine ⟨Or.inl, ?_⟩
    rintro (htexts | hnumbers)
    · exact htexts
    · -- A column of numbers only would not have been widened to text.
      obtain ⟨hfloat, hboth, hint⟩ := inferColumn_str_iff.mp htype
      have hpair : columnTypes key rows ⊆ {.int, .float} := hnumbers
      rcases Set.subset_pair_iff_eq.mp hpair with h | h | h | h
      · rw [h]
        exact fun t ht => absurd ht (Set.notMem_empty t)
      · exact absurd h hint
      · exact absurd h hfloat
      · exact absurd h hboth

end Batches

/-! ## Batches of samples -/

section Samples

def MeasureUnit.value : MeasureUnit → String
  | .celsius => "C"
  | .fahrenheit => "F"
  | .percent => "%"

/-- A sample as the sinks see it; a unit that is not this library's own is a text. -/
structure Sample (DateTime : Type) where
  device : String
  address : ℤ
  protocol : ProtocolKind
  parameter : String
  parameterId : ℤ
  instanceNo : ℤ
  value : Option PyValue
  unit : Option (MeasureUnit ⊕ String)
  tMonoNs : ℤ
  tUtc : DateTime
  requestedAt : DateTime
  receivedAt : DateTime
  latencyS : PyFloat

def coerceValue : Option PyValue → Cell
  | none => .null
  | some (.str s) => .str s
  | some (.num (.bool b)) => .str (if b then "true" else "false")
  | some (.num (.int i)) => .int i
  | some (.num (.float x)) => .float x

def unitCell : Option (MeasureUnit ⊕ String) → Cell
  | none => .null
  | some (.inl unit) => .str (MeasureUnit.value unit)
  | some (.inr text) => .str text

variable {DateTime : Type} (isoformat : DateTime → String)

def rowEntries (sample : Sample DateTime) : List (Sigma fun _ : String => Cell) :=
  [⟨"device", .str sample.device⟩,
    ⟨"address", .int sample.address⟩,
    ⟨"protocol", .str (protocolValue sample.protocol)⟩,
    ⟨"parameter", .str sample.parameter⟩,
    ⟨"parameter_id", .int sample.parameterId⟩,
    ⟨"instance", .int sample.instanceNo⟩,
    ⟨"value", coerceValue sample.value⟩,
    ⟨"unit", unitCell sample.unit⟩,
    ⟨"t_mono_ns", .int sample.tMonoNs⟩,
    ⟨"t_utc", .str (isoformat sample.tUtc)⟩,
    ⟨"requested_at", .str (isoformat sample.requestedAt)⟩,
    ⟨"received_at", .str (isoformat sample.receivedAt)⟩,
    ⟨"latency_s", .float sample.latencyS⟩]

def rowKeys : List String :=
  ["device", "address", "protocol", "parameter", "parameter_id", "instance", "value", "unit",
    "t_mono_ns", "t_utc", "requested_at", "received_at", "latency_s"]

theorem rowEntries_nodupKeys (sample : Sample DateTime) :
    (rowEntries isoformat sample).NodupKeys := by
  have hkeys : (rowEntries isoformat sample).keys = rowKeys := rfl
  rw [List.NodupKeys, hkeys]
  decide

def sampleToRow (sample : Sample DateTime) : Row :=
  ⟨rowEntries isoformat sample, rowEntries_nodupKeys isoformat sample⟩

/-- A text or a truth value, and a number. -/
def IsText : Option PyValue → Prop
  | some (.str _) => True
  | some (.num (.bool _)) => True
  | _ => False

def IsNumeric : Option PyValue → Prop
  | some (.num (.int _)) => True
  | some (.num (.float _)) => True
  | _ => False

theorem coerceValue_str_iff {value : Option PyValue} :
    typeOf (coerceValue value) = some .str ↔ IsText value := by
  rcases value with - | ((i | b | x) | s) <;> simp [coerceValue, typeOf, IsText]

theorem coerceValue_number_iff {value : Option PyValue} :
    (∃ t, typeOf (coerceValue value) = some t ∧ t.IsNumber) ↔ IsNumeric value := by
  rcases value with - | ((i | b | x) | s) <;>
    simp [coerceValue, typeOf, IsNumeric, CellType.IsNumber]

theorem coerceValue_type {value : Option PyValue} {t : CellType}
    (h : typeOf (coerceValue value) = some t) : t = .str ∨ t.IsNumber := by
  rcases value with - | ((i | b | x) | s)
  · cases h
  · cases h
    exact Or.inr (Or.inl rfl)
  · cases h
    exact Or.inl rfl
  · cases h
    exact Or.inr (Or.inr rfl)
  · cases h
    exact Or.inl rfl

theorem column_kind (isoformat : DateTime → String) {key : String} (hkey : key ≠ "value") :
    (∀ (sample : Sample DateTime) t,
      ((sampleToRow isoformat sample).lookup key).bind typeOf = some t → t = .str) ∨
    ∀ (sample : Sample DateTime) t,
      ((sampleToRow isoformat sample).lookup key).bind typeOf = some t → t.IsNumber := by
  by_cases hin : key ∈ rowKeys
  · simp only [rowKeys, List.mem_cons, List.not_mem_nil, or_false] at hin
    rcases hin with rfl | rfl | rfl | rfl | rfl | rfl | rfl | rfl | rfl | rfl | rfl | rfl | rfl
    · exact Or.inl fun sample t h => (Option.some.inj h).symm
    · exact Or.inr fun sample t h => Or.inl (Option.some.inj h).symm
    · exact Or.inl fun sample t h => (Option.some.inj h).symm
    · exact Or.inl fun sample t h => (Option.some.inj h).symm
    · exact Or.inr fun sample t h => Or.inl (Option.some.inj h).symm
    · exact Or.inr fun sample t h => Or.inl (Option.some.inj h).symm
    · exact absurd rfl hkey
    · refine Or.inl fun sample t h => ?_
      have hunit : typeOf (unitCell sample.unit) = some t := h
      cases hu : sample.unit with
      | none =>
        rw [hu] at hunit
        cases hunit
      | some unit =>
        rw [hu] at hunit
        cases unit with
        | inl unit => exact (Option.some.inj hunit).symm
        | inr text => exact (Option.some.inj hunit).symm
    · exact Or.inr fun sample t h => Or.inl (Option.some.inj h).symm
    · exact Or.inl fun sample t h => (Option.some.inj h).symm
    · exact Or.inl fun sample t h => (Option.some.inj h).symm
    · exact Or.inl fun sample t h => (Option.some.inj h).symm
    · exact Or.inr fun sample t h => Or.inr (Option.some.inj h).symm
  · have hnone : ∀ sample : Sample DateTime,
        (sampleToRow isoformat sample).lookup key = none := by
      intro sample
      rw [AList.lookup_eq_none, AList.mem_keys]
      exact hin
    refine Or.inl fun sample t h => ?_
    rw [hnone] at h
    cases h

/-- The batch mixes texts, or truth values, with numbers. -/
def MixesValues (samples : List (Sample DateTime)) : Prop :=
  (∃ sample ∈ samples, IsText sample.value) ∧ ∃ sample ∈ samples, IsNumeric sample.value

theorem mem_value_types {samples : List (Sample DateTime)} {t : CellType} :
    t ∈ columnTypes "value" (samples.map (sampleToRow isoformat)) ↔
      ∃ sample ∈ samples, typeOf (coerceValue sample.value) = some t := by
  constructor
  · rintro ⟨row, hrow, ht⟩
    obtain ⟨sample, hsample, rfl⟩ := List.mem_map.mp hrow
    exact ⟨sample, hsample, ht⟩
  · rintro ⟨sample, hsample, ht⟩
    exact ⟨sampleToRow isoformat sample, List.mem_map_of_mem hsample, ht⟩

theorem uniform_iff (samples : List (Sample DateTime)) :
    (∀ key, Uniform key (samples.map (sampleToRow isoformat))) ↔ ¬ MixesValues samples := by
  constructor
  · rintro huniform ⟨⟨text, htext, hs⟩, ⟨number, hnumber, hn⟩⟩
    have htext' := (mem_value_types isoformat).mpr
      ⟨text, htext, coerceValue_str_iff.mpr hs⟩
    obtain ⟨t, ht, hkind⟩ := coerceValue_number_iff.mpr hn
    have hnumber' := (mem_value_types isoformat).mpr ⟨number, hnumber, ht⟩
    rcases huniform "value" with h | h
    · rw [h t hnumber'] at hkind
      rcases hkind with hk | hk <;> cases hk
    · rcases h _ htext' with hk | hk <;> cases hk
  · intro hpure key
    by_cases hkey : key = "value"
    · subst hkey
      by_cases htexts : ∃ sample ∈ samples, IsText sample.value
      · left
        intro t ht
        obtain ⟨sample, hsample, ht⟩ := (mem_value_types isoformat).mp ht
        rcases coerceValue_type ht with hk | hk
        · exact hk
        · exact absurd ⟨htexts, sample, hsample, coerceValue_number_iff.mp ⟨t, ht, hk⟩⟩ hpure
      · right
        intro t ht
        obtain ⟨sample, hsample, ht⟩ := (mem_value_types isoformat).mp ht
        rcases coerceValue_type ht with hk | hk
        · exact absurd ⟨sample, hsample, coerceValue_str_iff.mp (hk ▸ ht)⟩ htexts
        · exact hk
    · rcases column_kind isoformat hkey with h | h
      · left
        rintro t ⟨row, hrow, ht⟩
        obtain ⟨sample, -, rfl⟩ := List.mem_map.mp hrow
        exact h sample t ht
      · right
        rintro t ⟨row, hrow, ht⟩
        obtain ⟨sample, -, rfl⟩ := List.mem_map.mp hrow
        exact h sample t ht

end Samples

/-- Every batch is locked, and its rows fit the schema exactly if the values of each column are all
texts or all numbers; those of a batch of samples, if its values do not mix the two. -/
theorem rows_conform_iff {rows : List Row} (hrows : rows ≠ []) {DateTime : Type}
    (isoformat : DateTime → String) {samples : List (Sample DateTime)} (hsamples : samples ≠ []) :
    (SchemaLaw rows ↔ ∀ key, Uniform key rows) ∧
      (SchemaLaw (samples.map (sampleToRow isoformat)) ↔ ¬ MixesValues samples) := by
  have hlaw : ∀ {rows : List Row}, rows ≠ [] → (SchemaLaw rows ↔ ∀ key, Uniform key rows) :=
    fun hrows => (schemaLaw_iff_admits hrows).trans (forall_congr' fun _ => admits_iff_uniform)
  refine ⟨hlaw hrows, ?_⟩
  rw [hlaw (by simpa using hsamples), uniform_iff]

def valueSample (parameter : String) (value : Option PyValue) : Sample PUnit where
  device := "oven"
  address := 1
  protocol := .stdbus
  parameter := parameter
  parameterId := 4001
  instanceNo := 1
  value := value
  unit := none
  tMonoNs := 0
  tUtc := ⟨⟩
  requestedAt := ⟨⟩
  receivedAt := ⟨⟩
  latencyS := .finite 0

theorem floats_conform :
    SchemaLaw ([valueSample "process_value" (some (.num (.float (.finite 72)))),
      valueSample "setpoint" none].map (sampleToRow fun _ => "")) :=
  (rows_conform_iff (List.cons_ne_nil (cellRow "value" .null) []) (fun _ => "")
    (List.cons_ne_nil (valueSample "process_value" (some (.num (.float (.finite 72)))))
      [valueSample "setpoint" none])).2.mpr (by
        rintro ⟨⟨sample, hsample, htext⟩, -⟩
        rcases List.mem_cons.mp hsample with rfl | hsample
        · exact htext
        · cases List.mem_singleton.mp hsample
          exact htext)

/-- A process value and a part number in one batch: the column is declared a text's, and the number
stays a number. -/
theorem mixed_batch_conforms_not :
    ¬ SchemaLaw ([valueSample "process_value" (some (.num (.float (.finite 72)))),
      valueSample "part_number" (some (.str "PM6C1CA"))].map (sampleToRow fun _ => "")) := by
  intro hlaw
  have huniform := fun key => admits_iff_uniform.mp ((schemaLaw_iff_admits (by simp)).mp hlaw key)
  refine (uniform_iff _ _).mp huniform
    ⟨⟨valueSample "part_number" (some (.str "PM6C1CA")), ?_, trivial⟩,
      ⟨valueSample "process_value" (some (.num (.float (.finite 72)))), ?_, trivial⟩⟩
  · simp
  · simp

end SinkSchemas
