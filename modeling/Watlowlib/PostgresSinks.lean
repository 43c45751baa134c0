import Watlowlib.SinkContracts
import Watlowlib.SqliteSinks

/-! # The Postgres sink

A pool of connections, opened and closed over and over, and statements in between. Every request is
written down with what became of it: it returned, or it raised, and rows of a write that raised may
have reached the table all the same, all of them or none. -/
namespace PostgresSinks

open RecordingPipelines SchemaInference SinkContracts SinkSchemas SqliteSinks

/-- The fields of `PostgresConfig` that the sink reads; `target` is its log-safe description. -/
structure PostgresConfig where
  schema : String
  table : String
  target : String
  createTable : Bool
  useCopy : Bool

/-- `COPY`, or `executemany` of the `INSERT` within a transaction. -/
inductive Statement where
  | copyRecords
  | executemany
  deriving DecidableEq, Repr

inductive Request where
  | createPool (returned : Bool)
  | introspect (returned : Bool)
  | createTable (columns : List ColumnSpec) (returned : Bool)
  | write (statement : Statement) (columns : List String) (records : List (List Cell))
      (returned landed : Bool)
  | closePool (returned : Bool)
  deriving DecidableEq

/-- What becomes of the requests of a call. An introspection that returns names the columns of the
table, none if there is no such table. A write that raises has `landed` or not. `missing` says that
asyncpg is not installed. -/
structure Environment where
  missing : Bool
  createPool : Option String
  introspect : Except String LockedColumns
  createTable : Option String
  write : Option (String × Bool)
  closePool : Option String

structure PostgresSink where
  config : PostgresConfig
  hasPool : Bool
  schema : SchemaLock
  insertSql : Option (List String)
  rowsWritten : ℕ
  requests : List Request

def PostgresSink.new (config : PostgresConfig) : PostgresSink :=
  ⟨config, false, .new, none, 0, []⟩

def PostgresSink.asked (s : PostgresSink) (request : Request) : PostgresSink :=
  { s with requests := s.requests ++ [request] }

def PostgresConfig.qualified (config : PostgresConfig) : String :=
  config.schema ++ "." ++ config.table

def missingTable (config : PostgresConfig) : SinkError :=
  .sinkSchema ("PostgresSink: table " ++ config.qualified ++ " does not exist on " ++
    config.target ++ " and create_table=False. Create the table first, or pass " ++
    "create_table=True on PostgresConfig.")

def introspectExistingTable (env : Environment) (s : PostgresSink) :
    Except SinkError Unit × PostgresSink :=
  match env.introspect with
  | .error message =>
    (.error (.sinkWrite ("PostgresSink: failed to introspect " ++ s.config.qualified ++ " on " ++
      s.config.target ++ ": " ++ message)), s.asked (.introspect false))
  | .ok specs =>
    let s := s.asked (.introspect true)
    if specs.columns = [] then (.error (missingTable s.config), s)
    else
      match s.schema.lockTo specs with
      | .error e => (.error e, s)
      | .ok schema => (.ok (), { s with schema := schema, insertSql := some specs.names })

def asyncpgMissing : SinkError :=
  .sinkDependency ("PostgresSink requires the `postgres` extra. " ++
    "Install with: `pip install 'watlowlib[postgres]'` " ++
    "(or `uv add 'watlowlib[postgres]'`).")

/-- `open`. What raises behind the pool leaves the pool open. -/
def openSink (env : Environment) (s : PostgresSink) : Except SinkError Unit × PostgresSink :=
  if s.hasPool then (.ok (), s)
  else if env.missing then (.error asyncpgMissing, s)
  else
    match env.createPool with
    | some message =>
      (.error (.sinkWrite ("PostgresSink: failed to open pool for " ++ s.config.target ++ ": " ++
        message)), s.asked (.createPool false))
    | none =>
      let s := { s.asked (.createPool true) with hasPool := true }
      if s.config.createTable then (.ok (), s) else introspectExistingTable env s

/-- The first rows lock the schema and create the table, unless the table had to be there. -/
def ensureTable (rows : List Row) (env : Environment) (s : PostgresSink) :
    Except SinkError Unit × PostgresSink :=
  if s.schema.isLocked then (.ok (), s)
  else if ¬ s.config.createTable then (.error .assertionError, s)
  else
    match s.schema.lock rows with
    | .error e => (.error e, s)
    | .ok (locked, schema) =>
      let s := { s with schema := schema }
      match env.createTable with
      | some message =>
        (.error (.sinkWrite ("PostgresSink: CREATE TABLE failed for " ++ s.config.qualified ++
          ": " ++ message)), s.asked (.createTable locked.columns false))
      | none =>
        (.ok (), { s.asked (.createTable locked.columns true) with insertSql := some locked.names })

def recordOf (locked : LockedColumns) (row : Row) : List Cell :=
  locked.columns.map fun c => ((projectRow locked row).lookup c.name).getD .null

/-- `_write_copy` names the locked columns, `_write_executemany` those of its statement. -/
def writeRequest (s : PostgresSink) (locked : LockedColumns) (sql : List String)
    (records : List (List Cell)) (returned landed : Bool) : Request :=
  if s.config.useCopy then .write .copyRecords locked.names records returned landed
  else .write .executemany sql records returned landed

/-- The part of `write_many` behind the schema. -/
def writeRecords (rows : List Row) (env : Environment) (s : PostgresSink) :
    Except SinkError Unit × PostgresSink :=
  match s.schema.columns, s.insertSql with
  | some locked, some sql =>
    let records := rows.map (recordOf locked)
    match env.write with
    | some (message, landed) =>
      (.error (.sinkWrite ("PostgresSink: write failed for " ++ s.config.target ++ ": " ++
        message)), s.asked (writeRequest s locked sql records false landed))
    | none =>
      (.ok (), { s.asked (writeRequest s locked sql records true true) with
        rowsWritten := s.rowsWritten + records.length })
  | _, _ => (.error .assertionError, s)

/-- `write_many` of rows that are flattened already. -/
def writeRows (rows : List Row) (env : Environment) (s : PostgresSink) :
    Except SinkError Unit × PostgresSink :=
  if ¬ s.hasPool then
    (.error (.runtimeError "PostgresSink: write_many called before open()"), s)
  else if rows = [] then (.ok (), s)
  else
    match ensureTable rows env s with
    | (.error e, s) => (.error e, s)
    | (.ok _, s) => writeRecords rows env s

/-- `close`. The pool is given up also when its own `close` raises. -/
def close (env : Environment) (s : PostgresSink) : Except SinkError Unit × PostgresSink :=
  if s.hasPool then
    match env.closePool with
    | some message =>
      (.error (.driver message), { s.asked (.closePool false) with hasPool := false })
    | none => (.ok (), { s.asked (.closePool true) with hasPool := false })
  else (.ok (), s)

section Runs

variable {DateTime : Type} (isoformat : DateTime → String)

def calls : Calls (Sample DateTime) PostgresSink Environment := fun env call s =>
  match call with
  | .opens => openSink env s
  | .writeMany samples => writeRows (samples.map (sampleToRow isoformat)) env s
  | .closes => close env s

/-! ## The connection -/

/-- What the requests so far have left: a pool or none, and whether the table was asked for. -/
structure Connection where
  pool : Bool
  created : Bool
  deriving DecidableEq, Repr

/-- A request that is in order: one pool at a time, statements only while it is open, and the table
is asked for once. -/
def Connection.take (c : Connection) : Request → Option Connection
  | .createPool returned => if c.pool then none else some { c with pool := returned }
  | .introspect _ => if c.pool then some c else none
  | .createTable _ _ =>
    if c.pool ∧ c.created = false then some { c with created := true } else none
  | .write _ _ _ _ _ => if c.pool then some c else none
  | .closePool _ => if c.pool then some { c with pool := false } else none

def conduct (requests : List Request) : Option Connection :=
  requests.foldlM Connection.take ⟨false, false⟩

/-- The rows of the writes that have reached the table, each value under its column. -/
def tableRows : List Request → List StoredRow
  | [] => []
  | .write _ columns records _ true :: requests =>
    records.map (fun record => columns.zip record) ++ tableRows requests
  | _ :: requests => tableRows requests

def given : Call (Sample DateTime) → List (List (Sample DateTime))
  | .writeMany samples => [samples]
  | _ => []

def returned : List (Environment × Call (Sample DateTime)) → List (Except SinkError Unit) →
    List (List (Sample DateTime))
  | (_, call) :: run, .ok _ :: outcomes => given call ++ returned run outcomes
  | _ :: run, .error _ :: outcomes => returned run outcomes
  | _, _ => []

/-- A write that raises has not reached the table. -/
def Acknowledged (env : Environment) : Prop := ∀ message, env.write ≠ some (message, true)

/-- What holds between two calls of a sink whose writes of these lists have reached the table. -/
structure Keeps (stored : List (List (Sample DateTime))) (s : PostgresSink) : Prop where
  conducted : ∃ created, conduct s.requests = some ⟨s.hasPool, created⟩ ∧
    (created = true → s.schema.isLocked = true)
  statement : ∀ sql, s.insertSql = some sql →
    ∃ locked, s.schema.columns = some locked ∧ sql = locked.names
  rows : ∀ locked, s.schema.columns = some locked →
    tableRows s.requests = stored.flatten.map fun sample =>
      storedRow locked (sampleToRow isoformat sample)
  unlocked : s.schema.columns = none → tableRows s.requests = [] ∧ stored.flatten = []

/-- What a call does to the lists that have reached the table: it adds its own, which it must when
it returns and cannot when it raises and nothing is in doubt. -/
structure Adds (env : Environment) (call : Call (Sample DateTime))
    (stored : List (List (Sample DateTime))) (r : Except SinkError Unit × PostgresSink)
    (more : List (List (Sample DateTime))) : Prop where
  keeps : Keeps isoformat (stored ++ more) r.2
  given : more.Sublist (given call)
  returns : r.1 = .ok () → more = PostgresSinks.given call
  raises : Acknowledged env → ∀ e, r.1 = .error e → more = []

variable {isoformat} {stored : List (List (Sample DateTime))} {s : PostgresSink}
  {env : Environment} {call : Call (Sample DateTime)}

theorem tableRows_append (requests more : List Request) :
    tableRows (requests ++ more) = tableRows requests ++ tableRows more := by
  induction requests with
  | nil => rfl
  | cons request requests ih =>
    cases request with
    | write statement columns records returned landed =>
      cases landed with
      | true => simp only [List.cons_append, tableRows, ih, List.append_assoc]
      | false => exact ih
    | _ => exact ih

theorem tableRows_snoc (requests : List Request) {request : Request}
    (h : tableRows [request] = []) : tableRows (requests ++ [request]) = tableRows requests := by
  rw [tableRows_append, h, List.append_nil]

theorem conduct_append (requests : List Request) (request : Request) :
    conduct (requests ++ [request]) = (conduct requests).bind (·.take request) := by
  rw [conduct, List.foldlM_append]
  simp [conduct]

theorem Keeps.adds_nothing {r : Except SinkError Unit × PostgresSink}
    (h : Keeps isoformat stored r.2) (hok : r.1 = .ok () → given call = []) :
    Adds isoformat env call stored r [] where
  keeps := by rwa [List.append_nil]
  given := List.nil_sublist _
  returns hreturned := (hok hreturned).symm
  raises _ _ _ := rfl

theorem Keeps.request (h : Keeps isoformat stored s) (request : Request) (pool : Bool)
    (htake : ∀ created, (⟨s.hasPool, created⟩ : Connection).take request = some ⟨pool, created⟩)
    (hrows : tableRows [request] = []) :
    Keeps isoformat stored { s.asked request with hasPool := pool } := by
  obtain ⟨⟨created, hconduct, hcreated⟩, hstatement, hrowsOf, hunlocked⟩ := h
  have hsame := tableRows_snoc s.requests hrows
  refine ⟨⟨created, ?_, hcreated⟩, hstatement, ?_, ?_⟩
  · simp only [PostgresSink.asked, conduct_append, hconduct, Option.bind_some, htake]
  · intro locked hlocked
    exact hsame.trans (hrowsOf locked hlocked)
  · intro hnone
    exact ⟨hsame.trans (hunlocked hnone).1, (hunlocked hnone).2⟩

theorem Keeps.lock (h : Keeps isoformat stored s) (hnone : s.schema.columns = none)
    (locked : LockedColumns) {sql : Option (List String)}
    (hsql : ∀ names, sql = some names → names = locked.names) :
    Keeps isoformat stored { s with schema := ⟨some locked⟩, insertSql := sql } := by
  obtain ⟨⟨created, hconduct, -⟩, -, -, hunlocked⟩ := h
  obtain ⟨hrows, hstored⟩ := hunlocked hnone
  refine ⟨⟨created, hconduct, fun _ => rfl⟩, ?_, ?_, fun h => absurd h (Option.some_ne_none _)⟩
  · intro names hnames
    exact ⟨locked, rfl, hsql names hnames⟩
  · intro locked' _
    simp only [hrows, hstored, List.map_nil]

theorem recordOf_row (locked : LockedColumns) (row : Row) :
    locked.names.zip (recordOf locked row) = storedRow locked row := boundRow_eq locked row

theorem Keeps.write {locked : LockedColumns} {sql : List String}
    (samples : List (Sample DateTime)) (returned landed : Bool) (h : Keeps isoformat stored s)
    (hpool : s.hasPool = true) (hlocked : s.schema.columns = some locked)
    (hsql : s.insertSql = some sql) :
    Keeps isoformat (stored ++ if landed then [samples] else [])
      (s.asked (writeRequest s locked sql
        ((samples.map (sampleToRow isoformat)).map (recordOf locked)) returned landed)) := by
  obtain ⟨⟨created, hconduct, hcreated⟩, hstatement, hrows, -⟩ := h
  obtain ⟨locked', hlocked', rfl⟩ := hstatement sql hsql
  cases hlocked.symm.trans hlocked'
  refine ⟨⟨created, ?_, hcreated⟩, hstatement, ?_, fun hnone => ?_⟩
  · simp only [PostgresSink.asked, conduct_append, hconduct, Option.bind_some, writeRequest]
    split <;> simp [Connection.take, hpool]
  · intro other hother
    cases hlocked.symm.trans hother
    have hnew : tableRows [writeRequest s locked locked.names
        ((samples.map (sampleToRow isoformat)).map (recordOf locked)) returned landed] =
          (if landed then [samples] else []).flatten.map fun sample =>
            storedRow locked (sampleToRow isoformat sample) := by
      rw [writeRequest]
      cases landed with
      | true => split <;> simp [tableRows, recordOf_row]
      | false => split <;> simp [tableRows]
    simp only [PostgresSink.asked, tableRows_append, hnew, hrows locked hlocked,
      List.flatten_append, List.map_append]
  · cases hlocked.symm.trans hnone

theorem writeRecords_adds (samples : List (Sample DateTime)) (h : Keeps isoformat stored s)
    (hpool : s.hasPool = true) :
    ∃ more, Adds isoformat env (.writeMany samples) stored
      (writeRecords (samples.map (sampleToRow isoformat)) env s) more := by
  cases hlocked : s.schema.columns with
  | none =>
    simp only [writeRecords, hlocked]
    exact ⟨[], Keeps.adds_nothing h nofun⟩
  | some locked =>
    cases hsql : s.insertSql with
    | none =>
      simp only [writeRecords, hlocked, hsql]
      exact ⟨[], Keeps.adds_nothing h nofun⟩
    | some sql =>
      simp only [writeRecords, hlocked, hsql]
      cases hwrite : env.write with
      | none =>
        have h' := h.write samples true true hpool hlocked hsql
        exact ⟨[samples], ⟨h'.conducted, h'.statement, h'.rows, h'.unlocked⟩, .refl _,
          fun _ => rfl, nofun⟩
      | some fault =>
        obtain ⟨message, landed⟩ := fault
        refine ⟨_, h.write samples false landed hpool hlocked hsql, ?_, nofun, fun hack _ _ => ?_⟩
        · cases landed with
          | true => exact .refl _
          | false => exact List.nil_sublist _
        · cases landed with
          | true => exact absurd hwrite (hack message)
          | false => rfl

theorem Keeps.create (h : Keeps isoformat stored s) (hpool : s.hasPool = true)
    (hnone : s.schema.columns = none) (locked : LockedColumns) {sql : Option (List String)}
    (hsql : ∀ names, sql = some names → names = locked.names) (returned : Bool) :
    Keeps isoformat stored { s with
      schema := ⟨some locked⟩
      insertSql := sql
      requests := s.requests ++ [.createTable locked.columns returned] } := by
  obtain ⟨created, hconduct, hcreated⟩ := h.conducted
  have hunasked : created = false := by
    by_contra hout
    have hlocked := hcreated (by simpa using hout)
    simp [SchemaLock.isLocked, hnone] at hlocked
  subst hunasked
  obtain ⟨-, hstatement, hrows, -⟩ := h.lock hnone locked hsql
  have hsame : tableRows (s.requests ++ [.createTable locked.columns returned]) =
      tableRows s.requests := tableRows_snoc s.requests rfl
  refine ⟨⟨true, ?_, fun _ => rfl⟩, hstatement, ?_, fun h => absurd h (Option.some_ne_none _)⟩
  · rw [conduct_append, hconduct]
    simp [Connection.take, hpool]
  · intro locked' hlocked'
    exact hsame.trans (hrows locked' hlocked')

theorem ensureTable_keeps (env : Environment) {rows : List Row} (hrows : rows ≠ [])
    (h : Keeps isoformat stored s) (hpool : s.hasPool = true) :
    Keeps isoformat stored (ensureTable rows env s).2 ∧
      (ensureTable rows env s).2.hasPool = true := by
  rw [ensureTable]
  by_cases hlocked : s.schema.isLocked = true
  · rw [if_pos hlocked]
    exact ⟨h, hpool⟩
  rw [if_neg hlocked]
  by_cases hcreate : s.config.createTable = true
  · have hnone : s.schema.columns = none := by simpa [SchemaLock.isLocked] using hlocked
    have hnew : s.schema = .new := congrArg SchemaLock.mk hnone
    rw [if_neg (not_not.mpr hcreate), hnew]
    simp only [lock_new hrows]
    cases env.createTable with
    | some message =>
      refine ⟨h.create hpool hnone (inferredColumns rows) (fun names hnames => ?_) false, hpool⟩
      obtain ⟨locked, hsome, -⟩ := h.statement names hnames
      cases hnone.symm.trans hsome
    | none =>
      refine ⟨h.create hpool hnone (inferredColumns rows) (fun names hnames => ?_) true, hpool⟩
      exact (Option.some.inj hnames).symm
  · rw [if_pos hcreate]
    exact ⟨h, hpool⟩

theorem writeRows_adds (samples : List (Sample DateTime)) (h : Keeps isoformat stored s) :
    ∃ more, Adds isoformat env (.writeMany samples) stored
      (writeRows (samples.map (sampleToRow isoformat)) env s) more := by
  rw [writeRows]
  by_cases hpool : s.hasPool = true
  · rw [if_neg (not_not.mpr hpool)]
    by_cases hempty : samples = []
    · rw [if_pos (by simp [hempty]), hempty]
      refine ⟨[[]], ⟨h.conducted, h.statement, ?_, ?_⟩, .refl _, fun _ => rfl, nofun⟩
      · simpa using h.rows
      · simpa using h.unlocked
    · have hrows : samples.map (sampleToRow isoformat) ≠ [] := by simpa using hempty
      rw [if_neg hrows]
      obtain ⟨hkeeps, hopen⟩ := ensureTable_keeps env hrows h hpool
      generalize ensureTable (samples.map (sampleToRow isoformat)) env s = r at hkeeps hopen
      obtain ⟨outcome, s'⟩ := r
      cases outcome with
      | ok _ => exact writeRecords_adds samples hkeeps hopen
      | error e => exact ⟨[], Keeps.adds_nothing hkeeps nofun⟩
  · rw [if_pos hpool]
    exact ⟨[], Keeps.adds_nothing h nofun⟩

theorem introspect_keeps (h : Keeps isoformat stored s) (hpool : s.hasPool = true) :
    Keeps isoformat stored (introspectExistingTable env s).2 := by
  have hasked : ∀ returned, Keeps isoformat stored (s.asked (.introspect returned)) := by
    intro returned
    have hrequest := h.request (.introspect returned) s.hasPool
      (fun created => by simp [Connection.take, hpool]) rfl
    exact ⟨hrequest.conducted, hrequest.statement, hrequest.rows, hrequest.unlocked⟩
  rw [introspectExistingTable]
  cases env.introspect with
  | error message => exact hasked false
  | ok specs =>
    by_cases hmissing : specs.columns = []
    · simp only [if_pos hmissing]
      exact hasked true
    · simp only [if_neg hmissing]
      by_cases hlocked : s.schema.isLocked = true
      · have hlock : (s.asked (.introspect true)).schema.lockTo specs =
            .error (.runtimeError "SchemaLock.lock_to called twice") := if_pos hlocked
        rw [hlock]
        exact hasked true
      · have hlock : (s.asked (.introspect true)).schema.lockTo specs = .ok ⟨some specs⟩ :=
          (if_neg hlocked).trans (if_neg hmissing)
        have hnone : s.schema.columns = none := by simpa [SchemaLock.isLocked] using hlocked
        rw [hlock]
        exact (hasked true).lock hnone specs fun names hnames => (Option.some.inj hnames).symm

theorem openSink_keeps (h : Keeps isoformat stored s) :
    Keeps isoformat stored (openSink env s).2 := by
  rw [openSink]
  by_cases hpool : s.hasPool = true
  · rw [if_pos hpool]
    exact h
  · have hfree : s.hasPool = false := by simpa using hpool
    have hasked : ∀ returned, Keeps isoformat stored
        { s.asked (.createPool returned) with hasPool := returned } := fun returned =>
      h.request (.createPool returned) returned (fun _ => by simp [Connection.take, hfree]) rfl
    rw [if_neg hpool]
    split
    · exact h
    cases env.createPool with
    | some message =>
      obtain ⟨hconducted, hstatement, hrows, hunlocked⟩ := hasked false
      exact ⟨hfree ▸ hconducted, hstatement, hrows, hunlocked⟩
    | none =>
      simp only
      split
      · exact hasked true
      · exact introspect_keeps (hasked true) rfl

theorem close_keeps (h : Keeps isoformat stored s) : Keeps isoformat stored (close env s).2 := by
  rw [close]
  by_cases hpool : s.hasPool = true
  · have hasked : ∀ returned, Keeps isoformat stored
        { s.asked (.closePool returned) with hasPool := false } := fun returned =>
      h.request (.closePool returned) false (fun _ => by simp [Connection.take, hpool]) rfl
    rw [if_pos hpool]
    cases env.closePool with
    | some message => exact hasked false
    | none => exact hasked true
  · rw [if_neg hpool]
    exact h

theorem call_adds (env : Environment) (call : Call (Sample DateTime))
    (h : Keeps isoformat stored s) :
    ∃ more, Adds isoformat env call stored (calls isoformat env call s) more := by
  cases call with
  | opens => exact ⟨[], Keeps.adds_nothing (openSink_keeps h) fun _ => rfl⟩
  | writeMany samples => exact writeRows_adds samples h
  | closes => exact ⟨[], Keeps.adds_nothing (close_keeps h) fun _ => rfl⟩

theorem run_adds (run : List (Environment × Call (Sample DateTime)))
    (h : Keeps isoformat stored s) :
    ∃ more, Keeps isoformat (stored ++ more) (callEach (calls isoformat) run s).2 ∧
      (returned run (callEach (calls isoformat) run s).1).Sublist more ∧
      more.Sublist (run.flatMap fun call => given call.2) ∧
      ((∀ call ∈ run, Acknowledged call.1) →
        more = returned run (callEach (calls isoformat) run s).1) := by
  induction run generalizing stored s with
  | nil => exact ⟨[], by rwa [List.append_nil], .refl _, .refl _, fun _ => rfl⟩
  | cons first run ih =>
    obtain ⟨env, call⟩ := first
    obtain ⟨more, hkeeps, hgiven, hreturns, hraises⟩ := call_adds env call h
    simp only [callEach]
    generalize calls isoformat env call s = r at hkeeps hreturns hraises
    obtain ⟨outcome, s'⟩ := r
    obtain ⟨later, hlater, hsub, hsup, hexact⟩ := ih hkeeps
    rw [List.append_assoc] at hlater
    refine ⟨more ++ later, hlater, ?_, ?_, fun hall => ?_⟩
    · cases outcome with
      | ok _ =>
        rw [hreturns rfl]
        exact (List.Sublist.refl _).append hsub
      | error e => exact hsub.trans (List.sublist_append_right _ _)
    · rw [List.flatMap_cons]
      exact hgiven.append hsup
    · obtain ⟨hfirst, hrest⟩ := List.forall_mem_cons.mp hall
      rw [hexact hrest]
      cases outcome with
      | ok _ => rw [hreturns rfl, returned]
      | error e => rw [hraises hfirst e rfl, returned, List.nil_append]

theorem new_keeps (config : PostgresConfig) : Keeps isoformat [] (.new config) :=
  ⟨⟨false, rfl, nofun⟩, nofun, nofun, fun _ => ⟨rfl, rfl⟩⟩

/-- Whatever is called on a sink and whatever becomes of its requests, one pool is open at a time,
statements go through an open pool only and the table is asked for once at most. The table has got
whole lists of samples under the columns of the sink's schema, in the order of the calls, none twice
and every one whose call returned; if no write that raised is in doubt, these and no others. -/
theorem postgres_batches_whole (isoformat : DateTime → String) (config : PostgresConfig)
    (run : List (Environment × Call (Sample DateTime))) :
    let r := callEach (calls isoformat) run (.new config)
    (∃ created, conduct r.2.requests = some ⟨r.2.hasPool, created⟩) ∧
      ∃ (locked : LockedColumns) (stored : List (List (Sample DateTime))),
        tableRows r.2.requests = stored.flatten.map (fun sample =>
          storedRow locked (sampleToRow isoformat sample)) ∧
        (stored.flatten = [] ∨ r.2.schema.columns = some locked) ∧
        (returned run r.1).Sublist stored ∧
        stored.Sublist (run.flatMap fun call => given call.2) ∧
        ((∀ call ∈ run, Acknowledged call.1) → stored = returned run r.1) := by
  have hnew : Keeps isoformat [] (.new config) := new_keeps config
  obtain ⟨stored, hkeeps, hsub, hsup, hexact⟩ := run_adds run hnew
  rw [List.nil_append] at hkeeps
  obtain ⟨⟨created, hconduct, -⟩, -, hrows, hunlocked⟩ := hkeeps
  refine ⟨⟨created, hconduct⟩, ?_⟩
  generalize callEach (calls isoformat) run (.new config) = r at *
  cases hcolumns : r.2.schema.columns with
  | none =>
    obtain ⟨hnone, hempty⟩ := hunlocked hcolumns
    exact ⟨⟨[], List.nodup_nil⟩, stored, by rw [hnone, hempty, List.map_nil], Or.inl hempty, hsub,
      hsup, hexact⟩
  | some locked => exact ⟨locked, stored, hrows locked hcolumns, Or.inr rfl, hsub, hsup, hexact⟩

/-! ## A table that could not be created -/

/-- The schema is locked, and there is no statement for it. -/
structure Spent (s : PostgresSink) : Prop where
  locked : s.schema.isLocked = true
  statement : s.insertSql = none

/-- This is what a failed `CREATE TABLE` leaves, whatever the sink was before. -/
theorem createTable_failed_spent {rows : List Row} {message : String}
    (hkeeps : Keeps isoformat stored s) (hpool : s.hasPool = true) (hrows : rows ≠ [])
    (hunlocked : s.schema.isLocked = false) (hcreate : s.config.createTable = true)
    (hfailed : env.createTable = some message) :
    (∃ e, (writeRows rows env s).1 = .error e) ∧ Spent (writeRows rows env s).2 := by
  have hnone : s.schema.columns = none := by simpa [SchemaLock.isLocked] using hunlocked
  have hnew : s.schema = .new := congrArg SchemaLock.mk hnone
  have hstatement : s.insertSql = none := by
    by_contra hsome
    obtain ⟨sql, hsql⟩ := Option.ne_none_iff_exists'.mp hsome
    obtain ⟨locked, hlocked, -⟩ := hkeeps.statement sql hsql
    cases hnone.symm.trans hlocked
  have hraised : ensureTable rows env s =
      (.error (.sinkWrite ("PostgresSink: CREATE TABLE failed for " ++ s.config.qualified ++ ": " ++
        message)), { s with schema := ⟨some (inferredColumns rows)⟩ }.asked
          (.createTable (inferredColumns rows).columns false)) := by
    rw [ensureTable, if_neg (by simp [hunlocked]), if_neg (not_not.mpr hcreate), hnew]
    simp only [lock_new hrows, hfailed]
  rw [writeRows, if_neg (not_not.mpr hpool), if_neg hrows, hraised]
  exact ⟨⟨_, rfl⟩, rfl, hstatement⟩

theorem Spent.asked (h : Spent s) (request : Request) (pool : Bool) :
    Spent { s.asked request with hasPool := pool } := ⟨h.locked, h.statement⟩

theorem introspect_spent (env : Environment) (h : Spent s) :
    Spent (introspectExistingTable env s).2 ∧
      tableRows (introspectExistingTable env s).2.requests = tableRows s.requests := by
  have hrows : ∀ returned, tableRows (s.asked (.introspect returned)).requests =
      tableRows s.requests := fun _ => tableRows_snoc s.requests rfl
  rw [introspectExistingTable]
  cases env.introspect with
  | error message => exact ⟨⟨h.locked, h.statement⟩, hrows false⟩
  | ok specs =>
    by_cases hmissing : specs.columns = []
    · simp only [if_pos hmissing]
      exact ⟨⟨h.locked, h.statement⟩, hrows true⟩
    · have hlock : (s.asked (.introspect true)).schema.lockTo specs =
          .error (.runtimeError "SchemaLock.lock_to called twice") := if_pos h.locked
      simp only [if_neg hmissing, hlock]
      exact ⟨⟨h.locked, h.statement⟩, hrows true⟩

theorem openSink_spent (env : Environment) (h : Spent s) :
    Spent (openSink env s).2 ∧ tableRows (openSink env s).2.requests = tableRows s.requests := by
  have hasked : ∀ returned, tableRows (s.asked (.createPool returned)).requests =
      tableRows s.requests := fun _ => tableRows_snoc s.requests rfl
  rw [openSink]
  split
  · exact ⟨h, rfl⟩
  split
  · exact ⟨h, rfl⟩
  · cases env.createPool with
    | some message => exact ⟨⟨h.locked, h.statement⟩, hasked false⟩
    | none =>
      have hpool := h.asked (.createPool true) true
      simp only
      split
      · exact ⟨hpool, hasked true⟩
      · obtain ⟨hspent, hrows⟩ := introspect_spent env hpool
        exact ⟨hspent, hrows.trans (hasked true)⟩

theorem close_spent (env : Environment) (h : Spent s) :
    Spent (close env s).2 ∧ tableRows (close env s).2.requests = tableRows s.requests := by
  have hasked : ∀ returned, tableRows (s.asked (.closePool returned)).requests =
      tableRows s.requests := fun _ => tableRows_snoc s.requests rfl
  rw [close]
  split
  · cases env.closePool with
    | some message => exact ⟨h.asked _ false, hasked false⟩
    | none => exact ⟨h.asked _ false, hasked true⟩
  · exact ⟨h, rfl⟩

theorem writeRows_spent (env : Environment) (h : Spent s) {rows : List Row} (hrows : rows ≠ []) :
    ∃ e, writeRows rows env s = (.error e, s) := by
  rw [writeRows, if_neg hrows]
  split
  · exact ⟨_, rfl⟩
  · have hrefused : writeRecords rows env s = (.error .assertionError, s) := by
      simp only [writeRecords, h.statement]
      cases s.schema.columns with
      | none => rfl
      | some locked => rfl
    rw [ensureTable, if_pos h.locked]
    exact ⟨_, hrefused⟩

variable (isoformat) in
theorem call_spent (env : Environment) (call : Call (Sample DateTime)) (h : Spent s) :
    Spent (calls isoformat env call s).2 ∧
      tableRows (calls isoformat env call s).2.requests = tableRows s.requests ∧
      ((calls isoformat env call s).1 = .ok () → (given call).flatten = []) := by
  cases call with
  | opens =>
    obtain ⟨hspent, hrows⟩ := openSink_spent env h
    exact ⟨hspent, hrows, fun _ => rfl⟩
  | writeMany samples =>
    by_cases hempty : samples = []
    · subst hempty
      simp only [calls, writeRows]
      split
      · exact ⟨h, rfl, fun _ => rfl⟩
      · exact ⟨h, rfl, fun _ => rfl⟩
    · have hsome : samples.map (sampleToRow isoformat) ≠ [] := by simpa using hempty
      obtain ⟨e, he⟩ := writeRows_spent env h hsome
      rw [calls, he]
      exact ⟨h, rfl, fun hok => by cases hok⟩
  | closes =>
    obtain ⟨hspent, hrows⟩ := close_spent env h
    exact ⟨hspent, hrows, fun _ => rfl⟩

/-- A sink whose `CREATE TABLE` has failed stays without a statement, opened anew or not: no call
that gives it samples returns any more, and the table stays as it is. -/
theorem create_failure_final (isoformat : DateTime → String) {s : PostgresSink}
    (hlocked : s.schema.isLocked = true) (hstatement : s.insertSql = none)
    (run : List (Environment × Call (Sample DateTime))) :
    (returned run (callEach (calls isoformat) run s).1).flatten = [] ∧
      tableRows (callEach (calls isoformat) run s).2.requests = tableRows s.requests := by
  have hspent : Spent s := ⟨hlocked, hstatement⟩
  clear hlocked hstatement
  induction run generalizing s with
  | nil => exact ⟨rfl, rfl⟩
  | cons first run ih =>
    obtain ⟨env, call⟩ := first
    obtain ⟨hnext, hrows, hempty⟩ := call_spent isoformat env call hspent
    simp only [callEach]
    generalize calls isoformat env call s = r at hnext hrows hempty
    obtain ⟨outcome, s'⟩ := r
    obtain ⟨hreturned, hlater⟩ := ih hnext
    refine ⟨?_, hlater.trans hrows⟩
    cases outcome with
    | ok _ => rw [returned, List.flatten_append, hempty rfl, hreturned, List.nil_append]
    | error e => exact hreturned

end Runs

def plant : PostgresConfig := ⟨"public", "samples", "db:5432/plant.public.samples", true, true⟩

def calm : Environment := ⟨false, none, .error "", none, none, none⟩

def denied : Environment := { calm with createTable := some "permission denied" }

def tableless : PostgresSink :=
  (callEach (calls fun _ => "") [(denied, .opens), (denied, .writeMany processValue)]
    (.new plant)).2

def granted : List (Environment × Call (Sample PUnit)) :=
  [(calm, .closes), (calm, .opens), (calm, .writeMany processValue)]

theorem tableless_final :
    (returned granted (callEach (calls fun _ => "") granted tableless).1).flatten = [] ∧
      tableRows (callEach (calls fun _ => "") granted tableless).2.requests = [] :=
  create_failure_final (fun _ => "") rfl rfl granted

end PostgresSinks
