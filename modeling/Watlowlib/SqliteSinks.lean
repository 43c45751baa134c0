import Watlowlib.SinkSchemas

/-! # The SQLite sink

One connection, one statement after the other. Whether a statement raises is the environment's
choice; what the transaction state alone decides is not. A call goes through up to five statements,
and the sink keeps state of its own between them. -/
namespace SqliteSinks

open SchemaInference SinkSchemas

/-- What the driver raises: an error of its own hierarchy, or what the binding of a value raises,
an `OverflowError` or a `UnicodeEncodeError`. -/
inductive DriverFault where
  | sqlite (message : String)
  | other (typeName : String)
  deriving DecidableEq, Repr

/-- A row as it is stored, each value under its column. -/
abbrev StoredRow := List (String × Cell)

/-- The sink's table and its connection: the columns if the table exists, the rows that are
committed, and those of the open transaction, if one is open. -/
structure Database where
  table : Option (List (String × ColumnType))
  committed : List StoredRow
  pending : Option (List StoredRow)
  deriving DecidableEq

/-- Which statements of a call raise, and how many rows an `executemany` inserts before it does. -/
structure Faults where
  create : Option DriverFault
  begin : Option DriverFault
  insert : Option (ℕ × DriverFault)
  commit : Option DriverFault
  rollback : Option DriverFault
  deriving DecidableEq

def Faults.none : Faults := ⟨.none, .none, .none, .none, .none⟩

section Statements

variable (db : Database)

def createStatement (columns : List ColumnSpec) (fault : Option DriverFault) :
    Except DriverFault Database :=
  match fault with
  | some f => .error f
  | none => .ok { db with
      table := some (db.table.getD (columns.map fun c => (c.name, c.pythonType))) }

def beginStatement (fault : Option DriverFault) : Except DriverFault Database :=
  match fault, db.pending with
  | some f, _ => .error f
  | none, some _ => .error (.sqlite "cannot start a transaction within a transaction")
  | none, none => .ok { db with pending := some [] }

/-- `executemany` inside a transaction: rows before the one that raises stay in it. -/
def insertStatements (rows : List StoredRow) (fault : Option (ℕ × DriverFault)) :
    Option DriverFault × Database :=
  match fault with
  | some (done, f) =>
    (some f, { db with pending := db.pending.map fun old => old ++ rows.take done })
  | none => (none, { db with pending := db.pending.map fun old => old ++ rows })

def commitStatement (fault : Option DriverFault) : Except DriverFault Database :=
  match fault, db.pending with
  | some f, _ => .error f
  | none, none => .error (.sqlite "cannot commit - no transaction is active")
  | none, some rows => .ok { db with committed := db.committed ++ rows, pending := none }

def rollbackStatement (fault : Option DriverFault) : Except DriverFault Database :=
  match fault, db.pending with
  | some f, _ => .error f
  | none, none => .error (.sqlite "cannot rollback - no transaction is active")
  | none, some _ => .ok { db with pending := none }

end Statements

structure SqliteSink where
  table : String
  createTable : Bool
  connected : Bool
  schema : SchemaLock
  insertSql : Option (List String)

/-- `open`, with the columns that `PRAGMA table_info` names of the table. -/
def openSink (table : String) (createTable : Bool) (introspected : LockedColumns) :
    Except SinkError SqliteSink :=
  if createTable then .ok ⟨table, true, true, .new, none⟩
  else if introspected.columns = [] then
    .error (.sinkSchema ("SqliteSink: table '" ++ table ++ "' does not exist"))
  else
    match SchemaLock.new.lockTo introspected with
    | .error e => .error e
    | .ok schema => .ok ⟨table, false, true, schema, some introspected.names⟩

def insertFailed (sink : SqliteSink) (message : String) : SinkError :=
  .sinkWrite ("SqliteSink: INSERT into '" ++ sink.table ++ "' failed: " ++ message)

/-- The handler of `_executemany_blocking`. It is for the driver's own errors; a rollback that fails
with one of those is only logged. -/
def insertRaised (sink : SqliteSink) (faults : Faults) (f : DriverFault) (db : Database) :
    Except SinkError Unit × Database :=
  match f with
  | .other typeName => (.error (.driver typeName), db)
  | .sqlite message =>
    match rollbackStatement db faults.rollback with
    | .ok db => (.error (insertFailed sink message), db)
    | .error (.sqlite _) => (.error (insertFailed sink message), db)
    | .error (.other typeName) => (.error (.driver typeName), db)

def executemanyBlocking (sink : SqliteSink) (rows : List StoredRow) (faults : Faults)
    (db : Database) : Except SinkError Unit × Database :=
  match beginStatement db faults.begin with
  | .error f => insertRaised sink faults f db
  | .ok db =>
    match insertStatements db rows faults.insert with
    | (some f, db) => insertRaised sink faults f db
    | (none, db) =>
      match commitStatement db faults.commit with
      | .error f => insertRaised sink faults f db
      | .ok db => (.ok (), db)

def createTableBlocking (sink : SqliteSink) (columns : List ColumnSpec) (faults : Faults)
    (db : Database) : Except SinkError Database :=
  match createStatement db columns faults.create with
  | .ok db => .ok db
  | .error (.sqlite message) =>
    .error (.sinkWrite ("SqliteSink: CREATE TABLE failed for '" ++ sink.table ++ "': " ++ message))
  | .error (.other typeName) => .error (.driver typeName)

/-- A sink with the database behind its connection. -/
structure Store where
  sink : SqliteSink
  db : Database

/-- `tuple(fields[spec.name] for spec in columns)`, each value bound to its column. -/
def boundRow (locked : LockedColumns) (sql : List String) (row : Row) : StoredRow :=
  sql.zip (locked.columns.map fun c => ((projectRow locked row).lookup c.name).getD .null)

/-- The part of `write_many` behind the schema: project the rows and insert them. -/
def writeProjected (rows : List Row) (faults : Faults) (s : Store) :
    Except SinkError Unit × Store :=
  match s.sink.insertSql, s.sink.schema.columns with
  | some sql, some locked =>
    let r := executemanyBlocking s.sink (rows.map (boundRow locked sql)) faults s.db
    (r.1, { s with db := r.2 })
  | _, _ => (.error .assertionError, s)

def writeRows (rows : List Row) (faults : Faults) (s : Store) : Except SinkError Unit × Store :=
  if ¬ s.sink.connected then
    (.error (.runtimeError "SqliteSink: write_many called before open()"), s)
  else if rows = [] then (.ok (), s)
  else if ¬ s.sink.schema.isLocked ∧ s.sink.createTable then
    match s.sink.schema.lock rows with
    | .error e => (.error e, s)
    | .ok (locked, schema) =>
      let sink := { s.sink with schema := schema }
      match createTableBlocking sink locked.columns faults s.db with
      | .error e => (.error e, { s with sink := sink })
      | .ok db =>
        writeProjected rows faults ⟨{ sink with insertSql := some locked.names }, db⟩
  else writeProjected rows faults s

def writeMany {DateTime : Type} (isoformat : DateTime → String) (samples : List (Sample DateTime))
    (faults : Faults) (s : Store) : Except SinkError Unit × Store :=
  writeRows (samples.map (sampleToRow isoformat)) faults s

/-! ## One call -/

def storedRow (locked : LockedColumns) (row : Row) : StoredRow :=
  locked.columns.map fun c => (c.name, (row.lookup c.name).getD .null)

theorem boundRow_eq (locked : LockedColumns) (row : Row) :
    boundRow locked locked.names row = storedRow locked row := by
  have hvalues : (locked.columns.map fun c =>
      ((projectRow locked row).lookup c.name).getD .null) =
        locked.columns.map fun c => (row.lookup c.name).getD .null := by
    refine List.map_congr_left fun c hc => ?_
    rw [projectRow_lookup (List.mem_map_of_mem hc)]
    rfl
  rw [boundRow, hvalues, LockedColumns.names, List.zip_map']
  rfl

def raisedBy (faults : Faults) : Option DriverFault :=
  faults.begin.or ((faults.insert.map (·.2)).or faults.commit)

/-- What the environment may do to the call of a batch: as long as the schema is not locked nothing
raises, later on only the driver's own errors do, and an open transaction can be rolled back. -/
structure Benign (s : Store) (faults : Faults) : Prop where
  first : s.sink.schema.isLocked = false → faults.create = none ∧ raisedBy faults = none
  typed : ∀ typeName, raisedBy faults ≠ some (.other typeName)
  rollback : raisedBy faults ≠ none →
    if faults.begin = none then faults.rollback = none
    else ∀ typeName, faults.rollback ≠ some (.other typeName)

/-- Between two calls: the schema is locked unless the sink is to create the table, the statement is
the locked columns', and no transaction is open. -/
structure Ready (s : Store) : Prop where
  connected : s.sink.connected = true
  locked : s.sink.schema.columns = none → s.sink.createTable = true
  statement : ∀ locked, s.sink.schema.columns = some locked → s.sink.insertSql = some locked.names
  idle : s.db.pending = none

theorem insertRaised_idle {sink : SqliteSink} {faults : Faults} {message : String} {db : Database}
    (hdb : db.pending = none) (hrollback : ∀ typeName, faults.rollback ≠ some (.other typeName)) :
    insertRaised sink faults (.sqlite message) db = (.error (insertFailed sink message), db) := by
  simp only [insertRaised, rollbackStatement, hdb]
  cases hfault : faults.rollback with
  | none => rfl
  | some f =>
    cases f with
    | sqlite m => rfl
    | other typeName => exact absurd hfault (hrollback typeName)

theorem insertRaised_open {sink : SqliteSink} {faults : Faults} {message : String} {db : Database}
    {rows : List StoredRow} (hdb : db.pending = some rows) (hrollback : faults.rollback = none) :
    insertRaised sink faults (.sqlite message) db =
      (.error (insertFailed sink message), { db with pending := none }) := by
  simp only [insertRaised, rollbackStatement, hdb, hrollback]

theorem executemanyBlocking_cases {sink : SqliteSink} {rows : List StoredRow} {faults : Faults}
    {db : Database} (hdb : db.pending = none)
    (htyped : ∀ typeName, raisedBy faults ≠ some (.other typeName))
    (hrollback : raisedBy faults ≠ none →
      if faults.begin = none then faults.rollback = none
      else ∀ typeName, faults.rollback ≠ some (.other typeName)) :
    (raisedBy faults = none ∧ executemanyBlocking sink rows faults db =
      (.ok (), { db with committed := db.committed ++ rows, pending := none })) ∨
    ∃ message, raisedBy faults ≠ none ∧
      executemanyBlocking sink rows faults db = (.error (insertFailed sink message), db) := by
  have hsame : ({ db with pending := none } : Database) = db := by rw [← hdb]
  obtain ⟨create, begin, insert, commit, rollback⟩ := faults
  cases begin with
  | some f =>
    right
    cases f with
    | other typeName => exact absurd rfl (htyped typeName)
    | sqlite message =>
      refine ⟨message, by simp [raisedBy], ?_⟩
      have hroll := hrollback (by simp [raisedBy])
      simp only [reduceCtorEq, if_false] at hroll
      simp only [executemanyBlocking, beginStatement]
      exact insertRaised_idle hdb hroll
  | none =>
    simp only [if_true] at hrollback
    cases insert with
    | some fault =>
      right
      obtain ⟨done, f⟩ := fault
      cases f with
      | other typeName => exact absurd rfl (htyped typeName)
      | sqlite message =>
        refine ⟨message, by simp [raisedBy], ?_⟩
        have hroll := hrollback (by simp [raisedBy])
        simp only [executemanyBlocking, beginStatement, hdb, insertStatements, Option.map_some]
        rw [insertRaised_open rfl hroll]
        exact congrArg (Prod.mk _) hsame
    | none =>
      cases commit with
      | some f =>
        right
        cases f with
        | other typeName => exact absurd rfl (htyped typeName)
        | sqlite message =>
          refine ⟨message, by simp [raisedBy], ?_⟩
          have hroll := hrollback (by simp [raisedBy])
          simp only [executemanyBlocking, beginStatement, hdb, insertStatements, Option.map_some,
            commitStatement]
          rw [insertRaised_open rfl hroll]
          exact congrArg (Prod.mk _) hsame
      | none =>
        left
        refine ⟨rfl, ?_⟩
        simp [executemanyBlocking, beginStatement, hdb, insertStatements, commitStatement]

theorem writeProjected_eq {rows : List Row} {faults : Faults} {s : Store} {locked : LockedColumns}
    (hcolumns : s.sink.schema.columns = some locked)
    (hsql : s.sink.insertSql = some locked.names) :
    writeProjected rows faults s =
      let r := executemanyBlocking s.sink (rows.map (storedRow locked)) faults s.db
      (r.1, { s with db := r.2 }) := by
  have hrows : rows.map (boundRow locked locked.names) = rows.map (storedRow locked) :=
    List.map_congr_left fun row _ => boundRow_eq locked row
  simp only [writeProjected, hcolumns, hsql, hrows]

/-- The columns of a batch: the locked ones, or those that the batch itself locks. -/
def batchColumns (s : Store) (rows : List Row) : LockedColumns :=
  s.sink.schema.columns.getD (inferredColumns rows)

def batchRows (s : Store) (rows : List Row) : List StoredRow :=
  rows.map (storedRow (batchColumns s rows))

/-- What a call leaves when it returns: its schema is locked and its rows are committed. -/
def Written (s : Store) (rows : List Row) (s' : Store) : Prop :=
  Ready s' ∧ s'.db.committed = s.db.committed ++ batchRows s rows

theorem writeRows_unlocked {rows : List Row} {faults : Faults} {s : Store} (hready : Ready s)
    (hempty : rows ≠ []) (hcolumns : s.sink.schema.columns = none) (hbenign : Benign s faults) :
    ∃ s', writeRows rows faults s = (.ok (), s') ∧ Written s rows s' := by
  have hnew : s.sink.schema = .new := congrArg SchemaLock.mk hcolumns
  have hunlocked : s.sink.schema.isLocked = false := by
    rw [hnew]
    rfl
  obtain ⟨hcreate, hnone⟩ := hbenign.first hunlocked
  let locked := inferredColumns rows
  let sink : SqliteSink :=
    { s.sink with schema := ⟨some locked⟩, insertSql := some locked.names }
  let table := s.db.table.getD (locked.columns.map fun c => (c.name, c.pythonType))
  let created : Store := ⟨sink, { s.db with table := some table }⟩
  have hlock : s.sink.schema.lock rows = .ok (locked, ⟨some locked⟩) := by
    rw [hnew]
    exact lock_new hempty
  have hwrite : writeRows rows faults s = writeProjected rows faults created := by
    rw [writeRows, if_neg (not_not.mpr hready.connected), if_neg hempty,
      if_pos ⟨by simp [hunlocked], hready.locked hcolumns⟩, hlock]
    simp only [createTableBlocking, createStatement, hcreate]
    rfl
  rw [hwrite, @writeProjected_eq rows faults created locked rfl rfl]
  rcases @executemanyBlocking_cases sink (rows.map (storedRow locked)) faults created.db
    hready.idle hbenign.typed hbenign.rollback with ⟨-, hrun⟩ | ⟨message, hsome, -⟩
  · rw [hrun]
    refine ⟨_, rfl, ⟨hready.connected, ?_, ?_, rfl⟩, ?_⟩
    · intro h
      exact absurd h (Option.some_ne_none locked)
    · intro other h
      cases h
      rfl
    · rw [batchRows, batchColumns, hcolumns]
      rfl
  · exact absurd hnone hsome

theorem writeRows_locked {rows : List Row} {faults : Faults} {s : Store} {locked : LockedColumns}
    (hready : Ready s) (hempty : rows ≠ []) (hcolumns : s.sink.schema.columns = some locked)
    (hbenign : Benign s faults) :
    (∃ s', writeRows rows faults s = (.ok (), s') ∧ Written s rows s') ∨
      ∃ message, writeRows rows faults s = (.error (.sinkWrite message), s) := by
  have hlocked : s.sink.schema.isLocked = true := by
    rw [SchemaLock.isLocked, hcolumns]
    rfl
  have hwrite : writeRows rows faults s = writeProjected rows faults s := by
    rw [writeRows, if_neg (not_not.mpr hready.connected), if_neg hempty,
      if_neg (by simp [hlocked])]
  rw [hwrite, writeProjected_eq hcolumns (hready.statement locked hcolumns)]
  rcases @executemanyBlocking_cases s.sink (rows.map (storedRow locked)) faults s.db
    hready.idle hbenign.typed hbenign.rollback with ⟨-, hrun⟩ | ⟨message, -, hrun⟩
  · left
    rw [hrun]
    refine ⟨_, rfl, ⟨hready.connected, hready.locked, hready.statement, rfl⟩, ?_⟩
    rw [batchRows, batchColumns, hcolumns]
    rfl
  · right
    rw [hrun]
    exact ⟨_, rfl⟩

/-- A call commits its rows, or raises an error of the sink and leaves everything as it was. -/
theorem writeRows_cases {rows : List Row} {faults : Faults} {s : Store} (hready : Ready s)
    (hbenign : rows ≠ [] → Benign s faults) :
    (∃ s', writeRows rows faults s = (.ok (), s') ∧ Written s rows s') ∨
      ∃ message, writeRows rows faults s = (.error (.sinkWrite message), s) := by
  by_cases hempty : rows = []
  · left
    refine ⟨s, ?_, hready, ?_⟩
    · rw [writeRows, if_neg (not_not.mpr hready.connected), if_pos hempty]
    · simp [batchRows, hempty]
  cases hcolumns : s.sink.schema.columns with
  | none => exact Or.inl (writeRows_unlocked hready hempty hcolumns (hbenign hempty))
  | some locked => exact writeRows_locked hready hempty hcolumns (hbenign hempty)

theorem openSink_ready {table : String} {createTable : Bool} {introspected : LockedColumns}
    {sink : SqliteSink} {db : Database} (hopen : openSink table createTable introspected = .ok sink)
    (hidle : db.pending = none) : Ready ⟨sink, db⟩ := by
  unfold openSink at hopen
  split at hopen
  · cases hopen
    refine ⟨rfl, fun _ => rfl, fun locked h => ?_, hidle⟩
    exact absurd h.symm (Option.some_ne_none locked)
  · by_cases hcolumns : introspected.columns = []
    · rw [if_pos hcolumns] at hopen
      cases hopen
    · have hlock : SchemaLock.new.lockTo introspected = .ok ⟨some introspected⟩ := by
        rw [SchemaLock.lockTo, if_neg (by decide), if_neg hcolumns]
      rw [if_neg hcolumns, hlock] at hopen
      cases hopen
      refine ⟨rfl, fun h => absurd h (Option.some_ne_none _), fun locked h => ?_, hidle⟩
      cases h
      rfl

/-! ## Runs -/

/-- A call of a run: its samples, and which of its statements raise. -/
structure Batch (DateTime : Type) where
  samples : List (Sample DateTime)
  faults : Faults

def isWatlowSinkError : SinkError → Bool
  | .sinkWrite _ => true
  | .sinkSchema _ => true
  | .sinkDependency _ => true
  | _ => false

section Runs

variable {DateTime : Type} (isoformat : DateTime → String)

def writeBatch (b : Batch DateTime) (s : Store) : Except SinkError Unit × Store :=
  writeMany isoformat b.samples b.faults s

/-- The calls one after the other, whatever each of them ends with. -/
def writeEach : List (Batch DateTime) → Store → List (Except SinkError Unit) × Store
  | [], s => ([], s)
  | b :: batches, s =>
    let r := writeBatch isoformat b s
    let rest := writeEach batches r.2
    (r.1 :: rest.1, rest.2)

/-- No call to come tells the two apart, by what it ends with or by what is committed then. -/
def Indistinguishable (s t : Store) : Prop :=
  ∀ later, (writeEach isoformat later s).1 = (writeEach isoformat later t).1 ∧
    (writeEach isoformat later s).2.db.committed = (writeEach isoformat later t).2.db.committed

/-- What is promised of a call: it commits its rows and returns, or it raises an error of the sink,
commits none of them, and is as good as not made. No transaction is left open. -/
def CallLaw (b : Batch DateTime) (s : Store) : Prop :=
  let r := writeBatch isoformat b s
  (r.1 = .ok () ∧ r.2.db.pending = none ∧
    r.2.db.committed = s.db.committed ++ batchRows s (b.samples.map (sampleToRow isoformat))) ∨
  ∃ e, r.1 = .error e ∧ isWatlowSinkError e ∧ r.2.db.pending = none ∧
    r.2.db.committed = s.db.committed ∧ Indistinguishable isoformat r.2 s

/-- `P` holds of every call of a run, in the state that it is made in. -/
def Along (P : Batch DateTime → Store → Prop) : List (Batch DateTime) → Store → Prop
  | [], _ => True
  | b :: batches, s => P b s ∧ Along P batches (writeBatch isoformat b s).2

def BenignCall (b : Batch DateTime) (s : Store) : Prop :=
  b.samples ≠ [] → Benign s b.faults

variable {isoformat}

theorem callLaw_of_benign {b : Batch DateTime} {s : Store} (hready : Ready s)
    (hbenign : BenignCall b s) :
    CallLaw isoformat b s ∧ Ready (writeBatch isoformat b s).2 := by
  have hrows : b.samples.map (sampleToRow isoformat) ≠ [] → Benign s b.faults :=
    fun h => hbenign fun hnil => h (by rw [hnil]; rfl)
  rcases writeRows_cases hready hrows with ⟨s', hrun, hnext, hcommitted⟩ | ⟨message, hrun⟩
  · have hbatch : writeBatch isoformat b s = (.ok (), s') := hrun
    rw [CallLaw, hbatch]
    exact ⟨Or.inl ⟨rfl, hnext.idle, hcommitted⟩, hnext⟩
  · have hbatch : writeBatch isoformat b s = (.error (.sinkWrite message), s) := hrun
    rw [CallLaw, hbatch]
    refine ⟨Or.inr ⟨_, rfl, rfl, hready.idle, rfl, ?_⟩, hready⟩
    exact fun later => ⟨rfl, rfl⟩

theorem along_of_step {P Q : Batch DateTime → Store → Prop} {I : Store → Prop}
    (hstep : ∀ b s, I s → P b s → Q b s ∧ I (writeBatch isoformat b s).2)
    {batches : List (Batch DateTime)} {s : Store} (hstart : I s)
    (hrun : Along isoformat P batches s) : Along isoformat Q batches s := by
  induction batches generalizing s with
  | nil => trivial
  | cons b batches ih =>
    obtain ⟨hcall, hrest⟩ := hrun
    obtain ⟨hq, hnext⟩ := hstep b s hstart hcall
    exact ⟨hq, ih hnext hrest⟩

/-- As long as the first batch goes through and only the driver's own errors are raised, every call
of a run is atomic and leaves nothing behind when it fails. -/
theorem calls_atomic {table : String} {createTable : Bool} {introspected : LockedColumns}
    {sink : SqliteSink} {db : Database} {batches : List (Batch DateTime)}
    (hopen : openSink table createTable introspected = .ok sink) (hidle : db.pending = none)
    (hbenign : Along isoformat BenignCall batches ⟨sink, db⟩) :
    Along isoformat (CallLaw isoformat) batches ⟨sink, db⟩ :=
  along_of_step (fun _ _ => callLaw_of_benign) (openSink_ready hopen hidle) hbenign

end Runs

theorem failing_insert_leaves_nothing :
    Along (fun _ => "") (CallLaw fun _ => "")
      [⟨[valueSample "process_value" none], .none⟩,
        ⟨[valueSample "setpoint" none],
          { Faults.none with insert := some (0, .sqlite "disk I/O error") }⟩]
      ⟨⟨"samples", true, true, .new, none⟩, ⟨none, [], none⟩⟩ :=
  @calls_atomic PUnit (fun _ => "") "samples" true ⟨[], List.nodup_nil⟩ _ _ _ rfl rfl
    ⟨fun _ => ⟨fun _ => ⟨rfl, rfl⟩, fun _ h => (by cases h), fun h => absurd rfl h⟩,
      fun _ => ⟨fun h => (by cases h), fun _ h => (by cases h), fun _ => rfl⟩, trivial⟩

/-- A `CREATE TABLE` that meets a lock fails as an error of the sink; the batch tried once more
meets the locked schema and no statement. -/
theorem retry_hits_assertion :
    openSink "samples" true ⟨[], List.nodup_nil⟩ = .ok ⟨"samples", true, true, .new, none⟩ ∧
      ¬ Along (fun _ => "") (CallLaw fun _ => "")
        [⟨[valueSample "process_value" none],
            { Faults.none with create := some (.sqlite "database is locked") }⟩,
          ⟨[valueSample "process_value" none], .none⟩]
        ⟨⟨"samples", true, true, .new, none⟩, ⟨none, [], none⟩⟩ := by
  refine ⟨rfl, ?_⟩
  rintro ⟨⟨hok, -⟩ | ⟨e, -, -, -, -, hsame⟩, -⟩
  · cases hok
  · have hretry := (hsame [⟨[valueSample "process_value" none], .none⟩]).1
    cases hretry

end SqliteSinks
