import Watlowlib.SinkContracts
import Watlowlib.SqliteSinks

/-! # The Parquet sink

The writer of the file is opened by the first rows, under the schema that they lock, and belongs to
that schema. What the sink asks of pyarrow is written down request by request; whether a request
returns is the environment's choice. -/
namespace ParquetSinks

open RecordingPipelines SchemaInference SinkContracts SinkSchemas

/-- A nullable field for every column: `float64`, `int64` or `string`. -/
abbrev ArrowSchema := List (String × ColumnType)

abbrev Arrays := List (String × List Cell)

/-- What the sink asks of pyarrow's writer, and whether the request returned. -/
inductive Request where
  | openWriter (schema : ArrowSchema) (returned : Bool)
  | writeTable (arrays : Arrays) (returned : Bool)
  | closeWriter (returned : Bool)
  deriving DecidableEq

structure ParquetSink where
  path : String
  loaded : Bool
  schema : SchemaLock
  arrowSchema : Option ArrowSchema
  hasWriter : Bool
  rowsWritten : ℕ
  requests : List Request

def ParquetSink.new (path : String) : ParquetSink := ⟨path, false, .new, none, false, 0, []⟩

/-- What raises in a call, and the text of it. `missing` says that pyarrow is not installed. -/
structure Faults where
  missing : Bool
  makeDirectory : Option String
  openWriter : Option String
  buildTable : Option String
  writeTable : Option String
  closeWriter : Option String

def ParquetSink.asked (s : ParquetSink) (request : Request) : ParquetSink :=
  { s with requests := s.requests ++ [request] }

def pyarrowMissing : SinkError :=
  .sinkDependency ("ParquetSink requires the `parquet` extra. " ++
    "Install with: `pip install 'watlowlib[parquet]'` " ++
    "(or `uv add 'watlowlib[parquet]'`).")

/-- `open`. The library is loaded before the directory is made. -/
def openSink (faults : Faults) (s : ParquetSink) : Except SinkError Unit × ParquetSink :=
  if s.loaded then (.ok (), s)
  else if faults.missing then (.error pyarrowMissing, s)
  else
    match faults.makeDirectory with
    | some message => (.error (.driver message), { s with loaded := true })
    | none => (.ok (), { s with loaded := true })

def buildArrowSchema (locked : LockedColumns) : ArrowSchema :=
  locked.columns.map fun c => (c.name, c.pythonType)

def openWriter (schema : ArrowSchema) (faults : Faults) (s : ParquetSink) :
    Except SinkError Unit × ParquetSink :=
  match faults.openWriter with
  | some message => (.error (.driver message), s.asked (.openWriter schema false))
  | none => (.ok (), { s.asked (.openWriter schema true) with hasWriter := true })

def ensureWriter (rows : List Row) (faults : Faults) (s : ParquetSink) :
    Except SinkError Unit × ParquetSink :=
  if s.schema.isLocked then (.ok (), s)
  else
    match s.schema.lock rows with
    | .error e => (.error e, s)
    | .ok (locked, schema) =>
      openWriter (buildArrowSchema locked) faults
        { s with schema := schema, arrowSchema := some (buildArrowSchema locked) }

/-- `{spec.name: [row[spec.name] for row in projected] for spec in columns}` -/
def arraysOf (locked : LockedColumns) (rows : List Row) : Arrays :=
  locked.columns.map fun c =>
    (c.name, rows.map fun row => ((projectRow locked row).lookup c.name).getD .null)

def writeFailed (s : ParquetSink) (message : String) : SinkError :=
  .sinkWrite ("ParquetSink: write failed for " ++ s.path ++ ": " ++ message)

/-- The part of `write_many` behind the schema. The writer is given the table that pyarrow has built
of the arrays. -/
def writeTable (rows : List Row) (faults : Faults) (s : ParquetSink) :
    Except SinkError Unit × ParquetSink :=
  match s.hasWriter, s.arrowSchema, s.schema.columns with
  | true, some _, some locked =>
    match faults.buildTable, faults.writeTable with
    | some message, _ => (.error (writeFailed s message), s)
    | none, some message =>
      (.error (writeFailed s message), s.asked (.writeTable (arraysOf locked rows) false))
    | none, none =>
      (.ok (), { s.asked (.writeTable (arraysOf locked rows) true) with
        rowsWritten := s.rowsWritten + rows.length })
  | _, _, _ => (.error .assertionError, s)

/-- `write_many` of rows that are flattened already. -/
def writeRows (rows : List Row) (faults : Faults) (s : ParquetSink) :
    Except SinkError Unit × ParquetSink :=
  if ¬ s.loaded then (.error (.runtimeError "ParquetSink: write_many called before open()"), s)
  else if rows = [] then (.ok (), s)
  else
    match ensureWriter rows faults s with
    | (.error e, s) => (.error e, s)
    | (.ok _, s) => writeTable rows faults s

/-- `close`. The writer is given up also when its own `close` raises, and then the library stays
loaded. -/
def close (faults : Faults) (s : ParquetSink) : Except SinkError Unit × ParquetSink :=
  if s.hasWriter then
    match faults.closeWriter with
    | some message =>
      (.error (.driver message), { s.asked (.closeWriter false) with hasWriter := false })
    | none => (.ok (), { s.asked (.closeWriter true) with hasWriter := false, loaded := false })
  else (.ok (), { s with loaded := false })

section Runs

variable {DateTime : Type} (isoformat : DateTime → String)

def calls : Calls (Sample DateTime) ParquetSink Faults := fun faults call s =>
  match call with
  | .opens => openSink faults s
  | .writeMany samples => writeRows (samples.map (sampleToRow isoformat)) faults s
  | .closes => close faults s

/-! ## The life of the file -/

/-- The file has not been opened, could not be, is being written, or is closed. -/
inductive Phase where
  | untouched
  | refused
  | writing
  | closed
  deriving DecidableEq, Repr

def tableRequests (tables : List (Arrays × Bool)) : List Request :=
  tables.map fun t => .writeTable t.1 t.2

/-- The requests so far: the writer is opened once at most, under one schema, every table has the
columns of that schema, and behind the close there is nothing. -/
inductive Driven (schema : ArrowSchema) : Phase → List Request → Prop where
  | untouched : Driven schema .untouched []
  | refused : Driven schema .refused [.openWriter schema false]
  | writing (tables : List (Arrays × Bool))
      (hnames : ∀ t ∈ tables, t.1.map (·.1) = schema.map (·.1)) :
      Driven schema .writing (.openWriter schema true :: tableRequests tables)
  | closed {requests} (returned : Bool) (h : Driven schema .writing requests) :
      Driven schema .closed (requests ++ [.closeWriter returned])

def columnOf (name : String) : List Request → List Cell
  | [] => []
  | .writeTable arrays true :: requests =>
    (arrays.lookup name).getD [] ++ columnOf name requests
  | _ :: requests => columnOf name requests

def cellOf (name : String) (sample : Sample DateTime) : Cell :=
  ((sampleToRow isoformat sample).lookup name).getD .null

def batchColumns (batch : List (Sample DateTime)) : LockedColumns :=
  inferredColumns (batch.map (sampleToRow isoformat))

/-- What holds between two calls of a sink that has written the samples: its schema is that of a
batch, and its writer is there while the file is being written. -/
structure Keeps (written : List (Sample DateTime)) (schema : ArrowSchema) (phase : Phase)
    (s : ParquetSink) : Prop where
  driven : Driven schema phase s.requests
  locked : if phase = .untouched then s.schema = .new ∧ s.arrowSchema = none
    else ∃ first, first ≠ [] ∧ schema = buildArrowSchema (batchColumns isoformat first) ∧
      s.schema = ⟨some (batchColumns isoformat first)⟩ ∧ s.arrowSchema = some schema
  writer : s.hasWriter = true ↔ phase = .writing
  count : s.rowsWritten = written.length
  values : ∀ name ∈ schema.map (·.1),
    columnOf name s.requests = written.map (cellOf isoformat name)
  none : phase = .untouched → written = []

def Stores (log : RowLog (Sample DateTime)) (s : ParquetSink) : Prop :=
  ∃ schema phase, Keeps isoformat log.rows schema phase s

variable {isoformat} {written : List (Sample DateTime)} {schema : ArrowSchema} {phase : Phase}
  {s : ParquetSink} {name : String}

theorem columnOf_append (requests more : List Request) :
    columnOf name (requests ++ more) = columnOf name requests ++ columnOf name more := by
  induction requests with
  | nil => rfl
  | cons request requests ih =>
    cases request with
    | openWriter schema returned => exact ih
    | closeWriter returned => exact ih
    | writeTable arrays returned =>
      cases returned with
      | true => simp only [List.cons_append, columnOf, ih, List.append_assoc]
      | false => exact ih

theorem arraysOf_names (locked : LockedColumns) (rows : List Row) :
    (arraysOf locked rows).map (·.1) = (buildArrowSchema locked).map (·.1) := by
  simp [arraysOf, buildArrowSchema]

theorem arraysOf_lookup {locked : LockedColumns} (samples : List (Sample DateTime))
    (h : name ∈ (buildArrowSchema locked).map (·.1)) :
    (arraysOf locked (samples.map (sampleToRow isoformat))).lookup name =
      some (samples.map (cellOf isoformat name)) := by
  have hname : name ∈ locked.names := by
    simpa [buildArrowSchema, LockedColumns.names] using h
  have hvalues : (samples.map (sampleToRow isoformat)).map (fun row =>
      ((projectRow locked row).lookup name).getD .null) = samples.map (cellOf isoformat name) := by
    rw [List.map_map]
    refine List.map_congr_left fun sample _ => ?_
    rw [Function.comp_apply, projectRow_lookup hname]
    rfl
  have hlookup : ∀ columns : List ColumnSpec, name ∈ columns.map (·.name) →
      (columns.map fun c => (c.name, (samples.map (sampleToRow isoformat)).map fun row =>
        ((projectRow locked row).lookup c.name).getD .null)).lookup name =
          some (samples.map (cellOf isoformat name)) := by
    intro columns hmem
    induction columns with
    | nil => cases hmem
    | cons c columns ih =>
      rw [List.map_cons]
      by_cases hc : name = c.name
      · rw [← hc, List.lookup_cons, beq_self_eq_true, hvalues]
      · have hrest : name ∈ columns.map (·.name) := by
          rw [List.map_cons, List.mem_cons] at hmem
          exact hmem.resolve_left hc
        rw [List.lookup_cons, beq_eq_false_iff_ne.mpr hc]
        exact ih hrest
  exact hlookup locked.columns hname

theorem Driven.table {requests : List Request} (h : Driven schema .writing requests)
    (arrays : Arrays) (returned : Bool) (hnames : arrays.map (·.1) = schema.map (·.1)) :
    Driven schema .writing (requests ++ [.writeTable arrays returned]) := by
  cases h with
  | writing tables htables =>
    have happend : (.openWriter schema true :: tableRequests tables) ++
        [.writeTable arrays returned] =
          .openWriter schema true :: tableRequests (tables ++ [(arrays, returned)]) := by
      simp [tableRequests]
    rw [happend]
    refine .writing _ fun t ht => ?_
    rcases List.mem_append.mp ht with hold | hnew
    · exact htables t hold
    · rw [List.mem_singleton.mp hnew]
      exact hnames

theorem Keeps.load (h : Keeps isoformat written schema phase s) (loaded : Bool) :
    Keeps isoformat written schema phase { s with loaded := loaded } :=
  ⟨h.driven, h.locked, h.writer, h.count, h.values, h.none⟩

theorem Keeps.columns (h : Keeps isoformat written schema phase s) (hphase : phase ≠ .untouched) :
    ∃ first, first ≠ [] ∧ schema = buildArrowSchema (batchColumns isoformat first) ∧
      s.schema = ⟨some (batchColumns isoformat first)⟩ ∧ s.arrowSchema = some schema := by
  have hlocked := h.locked
  rwa [if_neg hphase] at hlocked

theorem writeTable_refused (rows : List Row) (faults : Faults) (hwriter : s.hasWriter = false) :
    writeTable rows faults s = (.error .assertionError, s) := by
  simp only [writeTable, hwriter]

theorem writeTable_keeps (samples : List (Sample DateTime)) (faults : Faults)
    (h : Keeps isoformat written schema .writing s) :
    let r := writeTable (samples.map (sampleToRow isoformat)) faults s
    (r.1 = .ok () → Keeps isoformat (written ++ samples) schema .writing r.2) ∧
      ∀ e, r.1 = .error e → Keeps isoformat written schema .writing r.2 := by
  obtain ⟨first, -, rfl, hschema, harrow⟩ := h.columns (by decide)
  have hwriter : s.hasWriter = true := h.writer.mpr rfl
  have hasked : ∀ returned, Driven (buildArrowSchema (batchColumns isoformat first)) .writing
      (s.asked (.writeTable (arraysOf (batchColumns isoformat first)
        (samples.map (sampleToRow isoformat))) returned)).requests :=
    fun returned => h.driven.table _ returned (arraysOf_names _ _)
  simp only [writeTable, hwriter, harrow, hschema]
  cases faults.buildTable with
  | some message => exact ⟨nofun, fun _ _ => h⟩
  | none =>
    cases faults.writeTable with
    | some message =>
      refine ⟨nofun, fun _ _ => ⟨hasked false, h.locked, h.writer, h.count, ?_, h.none⟩⟩
      intro name hname
      simp only [ParquetSink.asked, columnOf_append, columnOf, List.append_nil]
      exact h.values name hname
    | none =>
      refine ⟨fun _ => ⟨hasked true, h.locked, h.writer, ?_, ?_, nofun⟩, nofun⟩
      · simp [h.count]
      · intro name hname
        simp only [ParquetSink.asked, columnOf_append, columnOf, List.append_nil,
          arraysOf_lookup samples hname, Option.getD_some, h.values name hname, List.map_append]

theorem ensureWriter_keeps {first : List (Sample DateTime)} (faults : Faults) (hfirst : first ≠ [])
    (h : Keeps isoformat written schema .untouched s) :
    let r := ensureWriter (first.map (sampleToRow isoformat)) faults s
    ∃ schema, (r.1 = .ok () ∧ Keeps isoformat written schema .writing r.2) ∨
      (∃ e, r.1 = .error e) ∧ Keeps isoformat written schema .refused r.2 := by
  have hrows : first.map (sampleToRow isoformat) ≠ [] := by simpa using hfirst
  obtain ⟨hschema, harrow⟩ : s.schema = .new ∧ s.arrowSchema = none := by
    have hlocked := h.locked
    rwa [if_pos rfl] at hlocked
  have hunlocked : ¬ SchemaLock.new.isLocked = true := by decide
  have hempty : written = [] := h.none rfl
  have hcount := h.count
  have hrequests : s.requests = [] := by
    have hdriven := h.driven
    generalize s.requests = requests at hdriven
    cases hdriven
    rfl
  have hwriter : s.hasWriter = false := by
    by_contra hout
    have hphase := h.writer.mp (by simpa using hout)
    cases hphase
  refine ⟨buildArrowSchema (batchColumns isoformat first), ?_⟩
  simp only [ensureWriter, hschema, if_neg hunlocked, lock_new hrows, openWriter]
  cases faults.openWriter with
  | some message =>
    refine Or.inr ⟨⟨_, rfl⟩, ?_, ⟨first, hfirst, rfl, rfl, rfl⟩, ?_, hcount, ?_, nofun⟩
    · simp only [ParquetSink.asked, hrequests, List.nil_append]
      exact .refused
    · simp [ParquetSink.asked, hwriter]
    · intro name _
      simp [ParquetSink.asked, hrequests, columnOf, hempty]
  | none =>
    refine Or.inl ⟨rfl, ?_, ⟨first, hfirst, rfl, rfl, rfl⟩, by simp, hcount, ?_, nofun⟩
    · simp only [ParquetSink.asked, hrequests, List.nil_append]
      exact .writing [] (fun t ht => absurd ht List.not_mem_nil)
    · intro name _
      simp [ParquetSink.asked, hrequests, columnOf, hempty]

theorem writeRows_keeps (samples : List (Sample DateTime)) (faults : Faults)
    (h : Keeps isoformat written schema phase s) :
    let r := writeRows (samples.map (sampleToRow isoformat)) faults s
    (r.1 = .ok () → ∃ schema phase, Keeps isoformat (written ++ samples) schema phase r.2) ∧
      ∀ e, r.1 = .error e → ∃ schema phase, Keeps isoformat written schema phase r.2 := by
  simp only [writeRows]
  by_cases hloaded : s.loaded = true
  · rw [if_neg (not_not.mpr hloaded)]
    by_cases hempty : samples = []
    · rw [if_pos (by simp [hempty]), hempty, List.append_nil]
      exact ⟨fun _ => ⟨schema, phase, h⟩, nofun⟩
    · have hrows : samples.map (sampleToRow isoformat) ≠ [] := by simpa using hempty
      rw [if_neg hrows]
      by_cases huntouched : phase = .untouched
      · subst huntouched
        obtain ⟨schema', hopen⟩ := ensureWriter_keeps faults hempty h
        generalize ensureWriter _ faults s = opened at hopen
        obtain ⟨outcome, s'⟩ := opened
        rcases hopen with ⟨hok, hwriting⟩ | ⟨⟨e, herror⟩, hrefused⟩
        · cases hok
          obtain ⟨hreturns, hraises⟩ := writeTable_keeps samples faults hwriting
          exact ⟨fun hok => ⟨_, _, hreturns hok⟩, fun e herror => ⟨_, _, hraises e herror⟩⟩
        · cases herror
          exact ⟨nofun, fun _ _ => ⟨_, _, hrefused⟩⟩
      · obtain ⟨first, -, -, hschema, -⟩ := h.columns huntouched
        have hlocked : s.schema.isLocked = true := by
          rw [hschema]
          rfl
        simp only [ensureWriter, if_pos hlocked]
        by_cases hwriting : phase = .writing
        · subst hwriting
          obtain ⟨hreturns, hraises⟩ := writeTable_keeps samples faults h
          exact ⟨fun hok => ⟨_, _, hreturns hok⟩, fun e herror => ⟨_, _, hraises e herror⟩⟩
        · have hwriter : s.hasWriter = false := by
            simpa using fun hw => hwriting (h.writer.mp hw)
          rw [writeTable_refused _ _ hwriter]
          exact ⟨nofun, fun _ _ => ⟨schema, phase, h⟩⟩
  · rw [if_pos hloaded]
    exact ⟨nofun, fun _ _ => ⟨schema, phase, h⟩⟩

theorem close_keeps (faults : Faults) (h : Keeps isoformat written schema phase s) :
    ∃ phase, Keeps isoformat written schema phase (close faults s).2 := by
  by_cases hwriter : s.hasWriter = true
  · cases h.writer.mp hwriter
    have hcolumns := h.columns (by decide)
    have hclosed : ∀ returned loaded, Keeps isoformat written schema .closed
        { s.asked (.closeWriter returned) with hasWriter := false, loaded := loaded } := by
      intro returned loaded
      refine ⟨.closed returned h.driven, hcolumns, by simp, h.count, ?_, nofun⟩
      intro name hname
      simp only [ParquetSink.asked, columnOf_append, columnOf, List.append_nil]
      exact h.values name hname
    refine ⟨.closed, ?_⟩
    rw [close, if_pos hwriter]
    cases faults.closeWriter with
    | some message => exact hclosed false s.loaded
    | none => exact hclosed true false
  · rw [close, if_neg hwriter]
    exact ⟨phase, h.load false⟩

theorem openSink_keeps (faults : Faults) (h : Keeps isoformat written schema phase s) :
    Keeps isoformat written schema phase (openSink faults s).2 := by
  rw [openSink]
  split
  · exact h
  · split
    · exact h
    · cases faults.makeDirectory with
      | some message => exact h.load true
      | none => exact h.load true

theorem parquet_implements : Implements (calls isoformat) .keeps (Stores isoformat) where
  returns faults call log s h hok := by
    obtain ⟨schema, phase, h⟩ := h
    cases call with
    | opens =>
      simp only [RowLog.call]
      split
      · exact ⟨schema, phase, openSink_keeps faults h⟩
      · exact ⟨schema, phase, openSink_keeps faults h⟩
    | writeMany samples => exact (writeRows_keeps samples faults h).1 hok
    | closes => exact ⟨schema, close_keeps faults h⟩
  raises faults call log s e h herror := by
    obtain ⟨schema, phase, h⟩ := h
    cases call with
    | opens => exact ⟨schema, phase, openSink_keeps faults h⟩
    | writeMany samples => exact (writeRows_keeps samples faults h).2 e herror
    | closes => exact ⟨schema, close_keeps faults h⟩

/-- The columns of the schema are those of a batch that the run gives to the sink. -/
def FromRun (isoformat : DateTime → String) (run : List (Faults × Call (Sample DateTime)))
    (s : ParquetSink) : Prop :=
  ∀ locked, s.schema.columns = some locked → ∃ faults first, (faults, .writeMany first) ∈ run ∧
    first ≠ [] ∧ locked = batchColumns isoformat first

theorem openSink_schema (faults : Faults) : (openSink faults s).2.schema = s.schema := by
  rw [openSink]
  split
  · rfl
  · split
    · rfl
    · cases faults.makeDirectory <;> rfl

theorem close_schema (faults : Faults) : (close faults s).2.schema = s.schema := by
  rw [close]
  split
  · cases faults.closeWriter <;> rfl
  · rfl

theorem writeTable_schema (rows : List Row) (faults : Faults) :
    (writeTable rows faults s).2.schema = s.schema := by
  simp only [writeTable]
  split
  · split <;> rfl
  · rfl

theorem writeRows_schema (rows : List Row) (faults : Faults) :
    (writeRows rows faults s).2.schema = s.schema ∨
      rows ≠ [] ∧ (writeRows rows faults s).2.schema = ⟨some (inferredColumns rows)⟩ := by
  simp only [writeRows]
  split
  · exact Or.inl rfl
  · by_cases hrows : rows = []
    · exact Or.inl (by rw [if_pos hrows])
    rw [if_neg hrows, ensureWriter]
    by_cases hlocked : s.schema.isLocked = true
    · rw [if_pos hlocked]
      exact Or.inl (writeTable_schema rows faults)
    · have hnew : s.schema = .new :=
        congrArg SchemaLock.mk (by simpa [SchemaLock.isLocked] using hlocked)
      rw [if_neg hlocked, hnew]
      simp only [lock_new hrows, openWriter]
      refine Or.inr ⟨hrows, ?_⟩
      cases faults.openWriter with
      | some message => rfl
      | none => exact writeTable_schema rows faults

theorem call_fromRun {run : List (Faults × Call (Sample DateTime))}
    {call : Faults × Call (Sample DateTime)} (hcall : call ∈ run) (h : FromRun isoformat run s) :
    FromRun isoformat run (calls isoformat call.1 call.2 s).2 := by
  obtain ⟨faults, call⟩ := call
  cases call with
  | opens =>
    intro locked hlocked
    exact h locked ((congrArg SchemaLock.columns (openSink_schema faults)).symm.trans hlocked)
  | closes =>
    intro locked hlocked
    exact h locked ((congrArg SchemaLock.columns (close_schema faults)).symm.trans hlocked)
  | writeMany samples =>
    intro locked hlocked
    rcases writeRows_schema (s := s) (samples.map (sampleToRow isoformat)) faults with
      hsame | ⟨hrows, hnew⟩
    · exact h locked ((congrArg SchemaLock.columns hsame).symm.trans hlocked)
    · have hown : some (batchColumns isoformat samples) = some locked :=
        (congrArg SchemaLock.columns hnew).symm.trans hlocked
      exact ⟨faults, samples, hcall, by simpa using hrows, (Option.some.inj hown).symm⟩

theorem new_stores (path : String) : Stores isoformat ⟨false, []⟩ (.new path) :=
  ⟨[], .untouched, .untouched, ⟨rfl, rfl⟩, by simp [ParquetSink.new], rfl, by simp, fun _ => rfl⟩

/-- Whatever is called on a sink and whatever raises, its file is opened once at most, under the
schema of one of the batches given to it, and is not asked for again once it is closed or could not
be opened. Every column of the tables that were written is that of the samples of the calls that
returned, and the rows are counted. -/
theorem parquet_written_once (isoformat : DateTime → String) (path : String)
    (run : List (Faults × Call (Sample DateTime))) :
    let r := callEach (calls isoformat) run (.new path)
    let written := (logAfter .keeps run r.1 ⟨false, []⟩).rows
    r.2.rowsWritten = written.length ∧ ∃ schema phase, Driven schema phase r.2.requests ∧
      (phase ≠ .untouched → ∃ faults first, (faults, .writeMany first) ∈ run ∧ first ≠ [] ∧
        schema = buildArrowSchema (batchColumns isoformat first)) ∧
      ∀ name ∈ schema.map (·.1),
        columnOf name r.2.requests = written.map (cellOf isoformat name) := by
  have himplements : Implements (calls isoformat) .keeps (Stores isoformat) := parquet_implements
  obtain ⟨schema, phase, h⟩ := himplements.run run (new_stores path)
  refine ⟨h.count, schema, phase, h.driven, fun hphase => ?_, h.values⟩
  obtain ⟨first, -, hschema, hlocked, -⟩ := h.columns hphase
  have hfrom : FromRun isoformat run (callEach (calls isoformat) run (.new path)).2 :=
    callEach_invariant (FromRun isoformat run) run (fun _ hcall _ hs => call_fromRun hcall hs)
      (fun _ hnew => by cases hnew)
  obtain ⟨faults, given, hgiven, hne, hsame⟩ :=
    hfrom _ (congrArg SchemaLock.columns hlocked)
  exact ⟨faults, given, hgiven, hne, hschema.trans (congrArg buildArrowSchema hsame)⟩

end Runs

end ParquetSinks
