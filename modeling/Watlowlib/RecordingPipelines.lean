import Watlowlib.Pipes
import Watlowlib.RecorderOverflow
import Watlowlib.SqliteSinks

/-! # From the producer to the table

A recording, the queue behind it, a pipe and its sink, step by step: the producer publishes while
the pipe receives, and each write of the sink goes as the environment has it. What is stored is
followed back through the pipe and the queue to what was published. -/
namespace RecordingPipelines

open BoundedFifos Pipes RecorderOverflow SchemaInference SinkSchemas SqliteSinks TransitionSystem

variable {α σ Time Fault : Type}

/-- `pipe` of `sinks/base.py`, and that of `sync/recording.py`. -/
inductive Flavour where
  | async
  | sync
  deriving DecidableEq, Repr

/-- The pipe waits for a batch, has one in hand, is through with the stream, or has raised. -/
inductive Consumer (α : Type) where
  | reading
  | holding (batch : List α)
  | done
  | failed (e : SinkError)

structure System (cfg : Setting) (α σ Time : Type) where
  channel : Channel cfg (List α)
  closed : Bool
  pipe : Pipe α σ Time
  consumer : Consumer α

inductive Event (α Time Fault : Type) where
  | producer (e : RecorderOverflow.Event (List α))
  | close
  | receive
  | turn (now : Time) (fault : Fault)
  | finish (fault : Fault)

/-- What a recording is piped into, and how. -/
structure Plumbing (α σ Time Fault : Type) where
  overflow : Setting
  flavour : Flavour
  settings : Settings Time
  write : Fault → WriteMany α σ

def start (pl : Plumbing α σ Time Fault) (sink : σ) (now : Time) :
    System pl.overflow α σ Time :=
  ⟨initial pl.overflow, false, .new sink now, .reading⟩

def after (ok : Consumer α) : Except SinkError Unit → Consumer α
  | .ok _ => ok
  | .error e => .failed e

section Steps

variable [LinearOrder Time] [Sub Time] (pl : Plumbing α σ Time Fault)

def loopBody (turn : Turn α Time) (fault : Fault) : Piece α σ Time Unit :=
  match pl.flavour with
  | .async => asyncStep (pl.write fault) pl.settings turn
  | .sync => syncStep (pl.write fault) pl.settings turn

/-- The producer publishes until it closes its end; the pipe ends when that is closed and the queue
is empty. -/
inductive Step : System pl.overflow α σ Time → Event α Time Fault →
    System pl.overflow α σ Time → Prop where
  | producer {s e channel} (hopen : s.closed = false) (hown : e ≠ .receive)
      (h : RecorderOverflow.Step s.channel e channel) :
      Step s (.producer e) { s with channel := channel }
  | close {s} : Step s .close { s with closed := true }
  | receive {s batch queue} (hreading : s.consumer = .reading)
      (h : s.channel.queue.receiveNowait .consumer = some (batch, queue)) :
      Step s .receive
        { s with channel := { s.channel with queue := queue }, consumer := .holding batch }
  | turn {s batch} (now : Time) (fault : Fault) (hholding : s.consumer = .holding batch) :
      Step s (.turn now fault)
        { s with
          pipe := (loopBody pl (batch, now) fault s.pipe).2
          consumer := after .reading (loopBody pl (batch, now) fault s.pipe).1 }
  | finish {s} (fault : Fault) (hreading : s.consumer = .reading) (hclosed : s.closed = true)
      (hempty : s.channel.queue.items = []) :
      Step s (.finish fault)
        { s with
          pipe := (flush (pl.write fault) s.pipe).2
          consumer := after .done (flush (pl.write fault) s.pipe).1 }

end Steps

/-! ## The pipe -/

/-- A call of the sink stores its whole list when it returns, and nothing when it raises. `Holds`
says what the sink stores. -/
structure AllOrNothing (write : Fault → WriteMany α σ) (Holds : List α → σ → Prop) : Prop where
  returns : ∀ fault samples stored s, Holds stored s → (write fault samples s).1 = .ok () →
    Holds (stored ++ samples) (write fault samples s).2
  raises : ∀ fault samples stored s e, Holds stored s → (write fault samples s).1 = .error e →
    Holds stored (write fault samples s).2

/-- Of what has arrived the sink stores all but the buffer, and that is counted. -/
def Settled (Holds : List α → σ → Prop) (arrived : List α) (p : Pipe α σ Time) : Prop :=
  ∃ stored, Holds stored p.sink ∧ stored ++ p.buffer = arrived ∧ p.emitted = stored.length

section Pieces

variable {write : Fault → WriteMany α σ} {Holds : List α → σ → Prop} {arrived : List α}
  {p : Pipe α σ Time} {fault : Fault}

theorem handOver_settled (hsink : AllOrNothing write Holds) (h : Settled Holds arrived p) :
    Settled Holds arrived (handOver (write fault) p).2 ∧
      ((handOver (write fault) p).1 = .ok () → (handOver (write fault) p).2.buffer = []) := by
  obtain ⟨stored, hholds, harrived, hemitted⟩ := h
  have hreturns := hsink.returns fault p.buffer stored p.sink hholds
  have hraises := fun e => hsink.raises fault p.buffer stored p.sink e hholds
  rw [handOver]
  generalize write fault p.buffer p.sink = r at hreturns hraises
  obtain ⟨outcome, sink⟩ := r
  cases outcome with
  | ok _ =>
    refine ⟨⟨stored ++ p.buffer, hreturns rfl, ?_, ?_⟩, fun _ => rfl⟩
    · rw [List.append_nil, harrived]
    · rw [List.length_append, ← hemitted]
  | error e => exact ⟨⟨stored, hraises e rfl, harrived, hemitted⟩, fun h => by cases h⟩

variable (fault) in
theorem flush_settled (hsink : AllOrNothing write Holds) (h : Settled Holds arrived p) :
    Settled Holds arrived (flush (write fault) p).2 ∧
      ((flush (write fault) p).1 = .ok () → (flush (write fault) p).2.buffer = []) := by
  rw [flush]
  split
  · rename_i hempty
    exact ⟨h, fun _ => List.isEmpty_iff.mp hempty⟩
  · exact handOver_settled hsink h

theorem Settled.extend (h : Settled Holds arrived p) (batch : List α) :
    Settled Holds (arrived ++ batch) (p.extend batch) := by
  obtain ⟨stored, hholds, harrived, hemitted⟩ := h
  refine ⟨stored, hholds, ?_, hemitted⟩
  rw [← harrived, List.append_assoc]
  rfl

theorem settled_stamp {r : Except SinkError Unit × Pipe α σ Time} (h : Settled Holds arrived r.2)
    (now : Time) :
    Settled Holds arrived
      (andThen r fun p => ((.ok (), { p with lastFlush := now }) : _ × Pipe α σ Time)).2 := by
  obtain ⟨outcome, p⟩ := r
  cases outcome with
  | ok _ => exact h
  | error e => exact h

variable [LinearOrder Time] [Sub Time]

variable (fault) in
theorem loopBody_settled {pl : Plumbing α σ Time Fault} (hsink : AllOrNothing pl.write Holds)
    (h : Settled Holds arrived p) (turn : Turn α Time) :
    Settled Holds (arrived ++ turn.1) (loopBody pl turn fault p).2 := by
  have hextended := h.extend turn.1
  rw [loopBody]
  cases pl.flavour with
  | async =>
    simp only [asyncStep]
    split
    · exact settled_stamp (flush_settled fault hsink hextended).1 turn.2
    · exact hextended
  | sync =>
    simp only [syncStep]
    split
    · exact settled_stamp (handOver_settled hsink hextended).1 turn.2
    · exact hextended

end Pieces

/-! ## The whole of it -/

def Consumer.held : Consumer α → List α
  | .holding batch => batch
  | _ => []

@[simp] theorem held_reading : (.reading : Consumer α).held = [] := rfl

@[simp] theorem held_holding (batch : List α) : (.holding batch : Consumer α).held = batch := rfl

@[simp] theorem held_done : (.done : Consumer α).held = [] := rfl

@[simp] theorem held_failed (e : SinkError) : (.failed e : Consumer α).held = [] := rfl

/-- What holds after every step: the batches delivered are stored, buffered or in hand, and a pipe
that is through with the stream has left nothing anywhere. -/
structure Ledger {cfg : Setting} (Holds : List α → σ → Prop) (s : System cfg α σ Time) : Prop where
  kept : Kept s.channel
  settled : ∃ absorbed, Settled Holds absorbed s.pipe ∧
    absorbed ++ s.consumer.held = s.channel.delivered.flatten
  through : s.consumer = .done →
    s.pipe.buffer = [] ∧ s.closed = true ∧ s.channel.queue.items = []

section Runs

variable {pl : Plumbing α σ Time Fault} {Holds : List α → σ → Prop}
  {s t : System pl.overflow α σ Time} {e : Event α Time Fault} {es : List (Event α Time Fault)}

theorem start_ledger {sink : σ} (hstart : Holds [] sink) (now : Time) :
    Ledger Holds (start pl sink now) :=
  ⟨initial_kept, ⟨[], ⟨[], hstart, rfl, rfl⟩, rfl⟩, nofun⟩

theorem delivered_producer {channel channel' : Channel pl.overflow (List α)}
    {e : RecorderOverflow.Event (List α)} (hkept : Kept channel) (hown : e ≠ .receive)
    (h : RecorderOverflow.Step channel e channel') :
    channel'.delivered = channel.delivered := by
  cases h with
  | publish batch hidle => rfl
  | receive hreceive => exact absurd rfl hown
  | step hstep =>
    cases publishStep_moves hkept hstep with
    | sends hbatch hsend =>
      obtain ⟨-, -, -, htaken⟩ := sendNowait_some hsend
      exact takenBy_eq htaken
    | drops hpolicy hphase => rfl
    | loops hpolicy hphase => rfl
    | finds hpolicy hphase hempty => rfl
    | evicts hpolicy hphase hreceive =>
      obtain ⟨-, -, htaken⟩ := receiveNowait_some hreceive
      simp only [Channel.delivered]
      rw [takenBy_append htaken, if_neg (by decide), List.append_nil]

theorem receive_ledger (hs : Ledger Holds s) {batch : List α}
    {queue : Fifo Receiver (List α) pl.overflow.bufferSize}
    (hreading : s.consumer = .reading)
    (hreceive : s.channel.queue.receiveNowait .consumer = some (batch, queue)) :
    Ledger Holds { s with
      channel := { s.channel with queue := queue }
      consumer := .holding batch } := by
  obtain ⟨hkept, ⟨absorbed, hsettled, hdelivered⟩, -⟩ := hs
  obtain ⟨-, -, htaken⟩ := receiveNowait_some hreceive
  have htakes : queue.takenBy .consumer = s.channel.delivered ++ [batch] := by
    rw [takenBy_append htaken, if_pos rfl]
    rfl
  refine ⟨hkept.receive hreceive, ⟨absorbed, hsettled, ?_⟩, fun hdone => by cases hdone⟩
  rw [hreading, held_reading, List.append_nil] at hdelivered
  simp only [Channel.delivered, held_holding, htakes, List.flatten_append, hdelivered]
  simp

theorem held_after_turn (r : Except SinkError Unit) :
    (after (.reading : Consumer α) r).held = [] ∧ after (.reading : Consumer α) r ≠ .done := by
  cases r with
  | ok _ => exact ⟨rfl, by simp [after]⟩
  | error e => exact ⟨rfl, by simp [after]⟩

theorem finish_ledger (fault : Fault) (hsink : AllOrNothing pl.write Holds) (hs : Ledger Holds s)
    (hreading : s.consumer = .reading) (hclosed : s.closed = true)
    (hempty : s.channel.queue.items = []) :
    Ledger Holds { s with
      pipe := (flush (pl.write fault) s.pipe).2
      consumer := after .done (flush (pl.write fault) s.pipe).1 } := by
  obtain ⟨hkept, ⟨absorbed, hsettled, hdelivered⟩, -⟩ := hs
  rw [hreading, held_reading, List.append_nil] at hdelivered
  obtain ⟨hflushed, hbuffer⟩ := flush_settled fault hsink hsettled
  generalize flush (pl.write fault) s.pipe = r at hflushed hbuffer
  obtain ⟨outcome, p⟩ := r
  cases outcome with
  | ok _ =>
    refine ⟨hkept, ⟨absorbed, hflushed, ?_⟩, fun _ => ⟨hbuffer rfl, hclosed, hempty⟩⟩
    rw [after, held_done, List.append_nil, hdelivered]
  | error e =>
    refine ⟨hkept, ⟨absorbed, hflushed, ?_⟩, fun hdone => by cases hdone⟩
    rw [after, held_failed, List.append_nil, hdelivered]

variable [LinearOrder Time] [Sub Time]

theorem step_ledger (hsink : AllOrNothing pl.write Holds) (hs : Ledger Holds s)
    (h : Step pl s e t) : Ledger Holds t := by
  obtain ⟨hkept, ⟨absorbed, hsettled, hdelivered⟩, hthrough⟩ := id hs
  cases h with
  | @producer e channel hopen hown hstep =>
    refine ⟨step_kept hkept hstep, ⟨absorbed, hsettled, ?_⟩, fun hdone => ?_⟩
    · rw [hdelivered, delivered_producer hkept hown hstep]
    · obtain ⟨-, hclosed, -⟩ := hthrough hdone
      rw [hopen] at hclosed
      cases hclosed
  | close =>
    refine ⟨hkept, ⟨absorbed, hsettled, hdelivered⟩, fun hdone => ?_⟩
    obtain ⟨hbuffer, -, hempty⟩ := hthrough hdone
    exact ⟨hbuffer, rfl, hempty⟩
  | receive hreading hreceive => exact receive_ledger hs hreading hreceive
  | @turn batch now fault hholding =>
    rw [hholding, held_holding] at hdelivered
    have hbody := loopBody_settled fault hsink hsettled (batch, now)
    obtain ⟨hheld, hrunning⟩ := held_after_turn (α := α) (loopBody pl (batch, now) fault s.pipe).1
    refine ⟨hkept, ⟨absorbed ++ batch, hbody, ?_⟩, fun hdone => absurd hdone hrunning⟩
    rw [hheld, List.append_nil, hdelivered]
  | finish fault hreading hclosed hempty =>
    exact finish_ledger fault hsink hs hreading hclosed hempty

/-- What is promised of the batches that the pipe has received: they were published, in that order,
and those that a finished recording lacks are the late ones. -/
structure Accounted {cfg : Setting} (s : System cfg α σ Time) : Prop where
  published : s.channel.delivered.Sublist s.channel.produced
  blocking : cfg.overflow = .block → s.channel.delivered <+: s.channel.produced
  missing : s.consumer = .done → s.channel.phase = .idle →
    s.channel.produced.length = s.channel.delivered.length + s.channel.samplesLate
  complete : cfg.overflow = .block → s.consumer = .done → s.channel.phase = .idle →
    s.channel.delivered = s.channel.produced

omit [LinearOrder Time] [Sub Time] in
theorem Ledger.accounted (h : Ledger Holds s) : Accounted s := by
  obtain ⟨hkept, -, hthrough⟩ := h
  have hbalanced := hkept.balanced
  have hemitted := hkept.emitted
  have hbooks : s.consumer = .done → s.channel.phase = .idle →
      s.channel.queue.items = [] ∧ s.channel.phase.batch = [] := by
    intro hdone hidle
    refine ⟨(hthrough hdone).2.2, ?_⟩
    rw [hidle, Phase.batch]
  refine ⟨hkept.delivered_sublist, ?_, ?_, ?_⟩
  · intro hpolicy
    simp only [RecorderOverflow.Balanced, hpolicy] at hbalanced
    exact ⟨_, by rw [← hbalanced.1, List.append_assoc]⟩
  · intro hdone hidle
    obtain ⟨hitems, hbatch⟩ := hbooks hdone hidle
    simp only [RecorderOverflow.Balanced] at hbalanced
    split at hbalanced
    · rw [← hbalanced.1, hitems, hbatch, hbalanced.2]
      simp
    · obtain ⟨hproduced, hsent⟩ := hbalanced
      rw [hitems, List.append_nil] at hsent
      rw [hbatch, List.length_nil] at hproduced
      rw [hproduced, hemitted, hsent]
      rfl
    · obtain ⟨hproduced, hlate, hcount⟩ := hbalanced
      rw [hbatch, List.append_nil] at hproduced
      rw [hitems, List.length_nil] at hcount
      rw [← hproduced, ← hemitted, hcount, hlate]
      omega
  · intro hpolicy hdone hidle
    obtain ⟨hitems, hbatch⟩ := hbooks hdone hidle
    simp only [RecorderOverflow.Balanced, hpolicy] at hbalanced
    rw [← hbalanced.1, hitems, hbatch, List.append_nil, List.append_nil]

/-- Over a sink whose calls are all or nothing, a recording stores a prefix of what was delivered to
the pipe at every moment, and all of it once the pipe has ended. -/
theorem recording_stored (hsink : AllOrNothing pl.write Holds) {sink : σ} (hstart : Holds [] sink)
    {now : Time} (h : Run (Step pl) (start pl sink now) es s) :
    Accounted s ∧ ∃ stored, Holds stored s.pipe.sink ∧ s.pipe.emitted = stored.length ∧
      stored <+: s.channel.delivered.flatten ∧
      (s.consumer = .done → stored = s.channel.delivered.flatten) := by
  have hledger := h.invariant (Ledger Holds) (fun _ _ _ => step_ledger hsink)
    (start_ledger hstart now)
  refine ⟨hledger.accounted, ?_⟩
  obtain ⟨-, ⟨absorbed, ⟨stored, hholds, harrived, hemitted⟩, hdelivered⟩, hthrough⟩ := hledger
  refine ⟨stored, hholds, hemitted, ?_, ?_⟩
  · rw [← hdelivered, ← harrived, List.append_assoc]
    exact List.prefix_append _ _
  · intro hdone
    rw [← hdelivered, ← harrived, (hthrough hdone).1, hdone, held_done, List.append_nil,
      List.append_nil]

end Runs

/-! ## Into a table -/

section Tables

variable {DateTime : Type} (isoformat : DateTime → String)

/-- `SqliteSink.write_many`, under the faults of the call. -/
def sqliteWrite : Faults → WriteMany (Sample DateTime) Store :=
  fun faults samples s => writeMany isoformat samples faults s

def tableRow (locked : LockedColumns) (sample : Sample DateTime) : StoredRow :=
  storedRow locked (sampleToRow isoformat sample)

/-- Behind its older rows the table has those of the samples, cut to the locked columns. -/
structure Stores (old : List StoredRow) (samples : List (Sample DateTime)) (s : Store) :
    Prop where
  statement : ∀ sql, s.sink.insertSql = some sql →
    ∃ locked, s.sink.schema.columns = some locked ∧ sql = locked.names
  rows : ∃ locked, s.db.committed = old ++ samples.map (tableRow isoformat locked) ∧
    (samples = [] ∨ s.sink.schema.columns = some locked)

theorem insertRaised_raises (sink : SqliteSink) (faults : Faults) (f : DriverFault)
    (db : Database) :
    (∃ e, (insertRaised sink faults f db).1 = .error e) ∧
      (insertRaised sink faults f db).2.committed = db.committed := by
  cases f with
  | other typeName => exact ⟨⟨_, rfl⟩, rfl⟩
  | sqlite message =>
    simp only [insertRaised, rollbackStatement]
    cases faults.rollback with
    | some f => cases f <;> exact ⟨⟨_, rfl⟩, rfl⟩
    | none => cases db.pending <;> exact ⟨⟨_, rfl⟩, rfl⟩

/-- Whatever raises, and whatever transaction is open before: all rows are committed or none. -/
theorem executemanyBlocking_atomic (sink : SqliteSink) (rows : List StoredRow) (faults : Faults)
    (db : Database) :
    (executemanyBlocking sink rows faults db).2.committed =
      match (executemanyBlocking sink rows faults db).1 with
      | .ok _ => db.committed ++ rows
      | .error _ => db.committed := by
  have hraised : ∀ f db', db'.committed = db.committed →
      (insertRaised sink faults f db').2.committed =
        match (insertRaised sink faults f db').1 with
        | .ok _ => db.committed ++ rows
        | .error _ => db.committed := by
    intro f db' hdb
    obtain ⟨⟨e, he⟩, hcommitted⟩ := insertRaised_raises sink faults f db'
    rw [he, hcommitted, hdb]
  obtain ⟨table, committed, pending⟩ := db
  obtain ⟨create, begin, insert, commit, rollback⟩ := faults
  simp only [executemanyBlocking, beginStatement, insertStatements, commitStatement]
  cases begin with
  | some f => exact hraised f _ rfl
  | none =>
    cases pending with
    | some old => exact hraised _ _ rfl
    | none =>
      cases insert with
      | some fault => exact hraised fault.2 _ rfl
      | none =>
        cases commit with
        | some f => exact hraised f _ rfl
        | none => rfl

theorem writeProjected_atomic {old : List StoredRow} {stored : List (Sample DateTime)} {s : Store}
    {locked : LockedColumns} (samples : List (Sample DateTime)) (faults : Faults)
    (hcolumns : s.sink.schema.columns = some locked)
    (hsql : s.sink.insertSql = none ∨ s.sink.insertSql = some locked.names)
    (hrows : s.db.committed = old ++ stored.map (tableRow isoformat locked)) :
    let r := writeProjected (samples.map (sampleToRow isoformat)) faults s
    Stores isoformat old (match r.1 with | .ok _ => stored ++ samples | .error _ => stored)
      r.2 := by
  rcases hsql with hnone | hsql
  · simp only [writeProjected, hnone]
    exact ⟨by simp [hnone], locked, hrows, Or.inr hcolumns⟩
  · simp only [writeProjected_eq hcolumns hsql]
    have hatomic := executemanyBlocking_atomic s.sink
      ((samples.map (sampleToRow isoformat)).map (storedRow locked)) faults s.db
    generalize executemanyBlocking s.sink _ faults s.db = r at hatomic
    obtain ⟨outcome, db⟩ := r
    refine ⟨fun sql h => ⟨locked, hcolumns, ?_⟩, locked, ?_, Or.inr hcolumns⟩
    · exact Option.some.inj (h.symm.trans hsql)
    · cases outcome with
      | ok _ =>
        rw [hatomic, hrows, List.map_append, List.append_assoc, List.map_map]
        rfl
      | error e => rw [hatomic, hrows]

variable {isoformat} {old : List StoredRow} {stored : List (Sample DateTime)} {s : Store}
  {locked : LockedColumns}

theorem Stores.of_locked (h : Stores isoformat old stored s)
    (hcolumns : s.sink.schema.columns = some locked) :
    (s.sink.insertSql = none ∨ s.sink.insertSql = some locked.names) ∧
      s.db.committed = old ++ stored.map (tableRow isoformat locked) := by
  obtain ⟨hstatement, other, hrows, hother⟩ := h
  constructor
  · cases hsql : s.sink.insertSql with
    | none => exact Or.inl rfl
    | some sql =>
      obtain ⟨columns, hsome, rfl⟩ := hstatement sql hsql
      rw [hcolumns] at hsome
      rw [Option.some.inj hsome]
      exact Or.inr rfl
  · rcases hother with hnil | hsome
    · rw [hrows, hnil]
      rfl
    · rw [hcolumns] at hsome
      rw [Option.some.inj hsome, hrows]

theorem Stores.of_unlocked (h : Stores isoformat old stored s)
    (hcolumns : s.sink.schema.columns = none) :
    stored = [] ∧ s.sink.insertSql = none ∧ s.db.committed = old := by
  obtain ⟨hstatement, other, hrows, hother⟩ := h
  have hnil : stored = [] := by
    rcases hother with hnil | hsome
    · exact hnil
    · rw [hcolumns] at hsome
      cases hsome
  refine ⟨hnil, ?_, by rw [hrows, hnil, List.map_nil, List.append_nil]⟩
  cases hsql : s.sink.insertSql with
  | none => rfl
  | some sql =>
    obtain ⟨columns, hsome, -⟩ := hstatement sql hsql
    rw [hcolumns] at hsome
    cases hsome

theorem firstBatch_stores (samples : List (Sample DateTime)) (faults : Faults)
    (h : Stores isoformat old stored s) (hcolumns : s.sink.schema.columns = none)
    (hrowsNe : samples.map (sampleToRow isoformat) ≠ []) (hcreate : s.sink.createTable = true)
    (hconnected : s.sink.connected = true) :
    let r := sqliteWrite isoformat faults samples s
    Stores isoformat old (match r.1 with | .ok _ => stored ++ samples | .error _ => stored)
      r.2 := by
  obtain ⟨rfl, hsql, hcommitted⟩ := h.of_unlocked hcolumns
  have hnew : s.sink.schema = .new := congrArg SchemaLock.mk hcolumns
  have hunlocked : s.sink.schema.isLocked = false := by
    rw [hnew]
    rfl
  simp only [sqliteWrite, writeMany, writeRows]
  rw [if_neg (not_not.mpr hconnected), if_neg hrowsNe, if_pos ⟨by simp [hunlocked], hcreate⟩, hnew,
    lock_new hrowsNe]
  simp only [createTableBlocking, createStatement]
  cases faults.create with
  | some f =>
    have hlocked : Stores isoformat old ([] : List (Sample DateTime))
        { s with sink := { s.sink with
          schema := ⟨some (inferredColumns (samples.map (sampleToRow isoformat)))⟩ } } := by
      refine ⟨?_, ⟨[], List.nodup_nil⟩, ?_, Or.inl rfl⟩
      · simp [hsql]
      · rw [hcommitted, List.map_nil, List.append_nil]
    cases f with
    | sqlite message => exact hlocked
    | other typeName => exact hlocked
  | none =>
    refine writeProjected_atomic isoformat samples faults rfl (Or.inr rfl) ?_
    rw [List.map_nil, List.append_nil]
    exact hcommitted

theorem sqliteWrite_stores (samples : List (Sample DateTime)) (faults : Faults)
    (h : Stores isoformat old stored s) :
    let r := sqliteWrite isoformat faults samples s
    Stores isoformat old (match r.1 with | .ok _ => stored ++ samples | .error _ => stored)
      r.2 := by
  by_cases hconnected : s.sink.connected = true
  · by_cases hrowsNe : samples.map (sampleToRow isoformat) = []
    · have hempty : samples = [] := List.map_eq_nil_iff.mp hrowsNe
      simp only [sqliteWrite, writeMany, writeRows]
      rw [if_neg (not_not.mpr hconnected), if_pos hrowsNe, hempty, List.append_nil]
      exact h
    · cases hcolumns : s.sink.schema.columns with
      | none =>
        by_cases hcreate : s.sink.createTable = true
        · exact firstBatch_stores samples faults h hcolumns hrowsNe hcreate hconnected
        · obtain ⟨-, hsql, -⟩ := h.of_unlocked hcolumns
          simp only [sqliteWrite, writeMany, writeRows]
          rw [if_neg (not_not.mpr hconnected), if_neg hrowsNe, if_neg fun hboth => hcreate hboth.2]
          simp only [writeProjected, hsql]
          exact h
      | some locked =>
        have hlocked : s.sink.schema.isLocked = true := by
          rw [SchemaLock.isLocked, hcolumns]
          rfl
        obtain ⟨hsql, hrows⟩ := h.of_locked hcolumns
        simp only [sqliteWrite, writeMany, writeRows]
        rw [if_neg (not_not.mpr hconnected), if_neg hrowsNe, if_neg (by simp [hlocked])]
        exact writeProjected_atomic isoformat samples faults hcolumns hsql hrows
  · simp only [sqliteWrite, writeMany, writeRows]
    rw [if_pos hconnected]
    exact h

theorem sqliteWrite_allOrNothing (old : List StoredRow) :
    AllOrNothing (sqliteWrite isoformat) (Stores isoformat old) where
  returns faults samples stored s h hok := by
    have hcall := sqliteWrite_stores samples faults h
    simp only [hok] at hcall
    exact hcall
  raises faults samples stored s e h herror := by
    have hcall := sqliteWrite_stores samples faults h
    simp only [herror] at hcall
    exact hcall

theorem openSink_stores {table : String} {createTable : Bool} {introspected : LockedColumns}
    {sink : SqliteSink} (hopen : openSink table createTable introspected = .ok sink)
    (db : Database) : Stores isoformat db.committed [] ⟨sink, db⟩ := by
  have hrows : ∃ locked, db.committed =
      db.committed ++ ([] : List (Sample DateTime)).map (tableRow isoformat locked) ∧
        (([] : List (Sample DateTime)) = [] ∨ sink.schema.columns = some locked) :=
    ⟨⟨[], List.nodup_nil⟩, (List.append_nil _).symm, Or.inl rfl⟩
  refine ⟨fun sql hsql => ?_, hrows⟩
  unfold openSink at hopen
  split at hopen
  · cases hopen
    cases hsql
  · by_cases hcolumns : introspected.columns = []
    · rw [if_pos hcolumns] at hopen
      cases hopen
    · have hlock : SchemaLock.new.lockTo introspected = .ok ⟨some introspected⟩ := by
        rw [SchemaLock.lockTo, if_neg (by decide), if_neg hcolumns]
      rw [if_neg hcolumns, hlock] at hopen
      cases hopen
      exact ⟨introspected, rfl, (Option.some.inj hsql).symm⟩

variable [LinearOrder Time] [Sub Time]

def tablePlumbing (isoformat : DateTime → String) (overflow : Setting) (flavour : Flavour)
    (settings : Settings Time) : Plumbing (Sample DateTime) Store Time Faults :=
  ⟨overflow, flavour, settings, sqliteWrite isoformat⟩

/-- In every interleaving of the producer and the pipe, whichever statements raise, the table holds
behind its older rows those of the first samples delivered, each once, in order and under the
columns of the sink's schema, and `pipe` has counted them. When it has ended they are all there, and
what they lack of the recording is late. -/
theorem recorded_rows_committed {table : String} {createTable : Bool}
    {introspected : LockedColumns} {sink : SqliteSink}
    (hopen : openSink table createTable introspected = .ok sink) (db : Database)
    (overflow : Setting) (flavour : Flavour) (settings : Settings Time) (now : Time)
    {es : List (Event (Sample DateTime) Time Faults)}
    {s : System overflow (Sample DateTime) Store Time}
    (h : Run (Step (tablePlumbing isoformat overflow flavour settings))
      (start (tablePlumbing isoformat overflow flavour settings) ⟨sink, db⟩ now) es s) :
    Accounted s ∧ ∃ (stored : List (Sample DateTime)) (locked : LockedColumns),
      s.pipe.sink.db.committed = db.committed ++ stored.map (tableRow isoformat locked) ∧
      (stored = [] ∨ s.pipe.sink.sink.schema.columns = some locked) ∧
      s.pipe.emitted = stored.length ∧ stored <+: s.channel.delivered.flatten ∧
      (s.consumer = .done → stored = s.channel.delivered.flatten) := by
  obtain ⟨haccounted, stored, ⟨-, locked, hcommitted, hlocked⟩, hemitted, hinitial, hdone⟩ :=
    recording_stored (sqliteWrite_allOrNothing db.committed) (openSink_stores hopen db) h
  exact ⟨haccounted, stored, locked, hcommitted, hlocked, hemitted, hinitial, hdone⟩

end Tables

def processValue : List (Sample PUnit) := [valueSample "process_value" none]

def setpoint : List (Sample PUnit) := [valueSample "setpoint" none]

def ovenPlumbing : Plumbing (Sample PUnit) Store ℕ Faults :=
  tablePlumbing (fun _ => "") (single .dropOldest) .async ⟨1, 1⟩

def ovenStore : Store := ⟨⟨"samples", true, true, .new, none⟩, ⟨none, [], none⟩⟩

theorem nothing_waits : ([] : List (List (Sample PUnit))).length ≤ 1 := Nat.zero_le 1

def ovenRecorded : System (single .dropOldest) (Sample PUnit) Store ℕ :=
  ⟨⟨⟨[], [processValue, setpoint], [(.producer, processValue), (.consumer, setpoint)], rfl,
      nothing_waits⟩, .idle, [processValue, setpoint], 2, 1⟩, true,
    ⟨(ovenPlumbing.write .none setpoint ovenStore).2, [setpoint], 1, [], 5⟩, .done⟩

theorem ovenRecorded_run :
    Run (Step ovenPlumbing) (start ovenPlumbing ovenStore 0)
      [.producer (.publish processValue), .producer .step, .producer (.publish setpoint),
        .producer .step, .producer .step, .producer .step, .close, .receive, .turn 5 Faults.none,
        .finish Faults.none] ovenRecorded := by
  refine .cons (.producer rfl nofun (.publish processValue rfl)) ?_
  refine .cons (.producer rfl nofun (.step rfl)) ?_
  refine .cons (.producer rfl nofun (.publish setpoint rfl)) ?_
  refine .cons (.producer rfl nofun (.step rfl)) ?_
  refine .cons (.producer rfl nofun (.step rfl)) ?_
  refine .cons (.producer rfl nofun (.step rfl)) ?_
  refine .cons .close ?_
  refine .cons (.receive rfl rfl) ?_
  refine .cons (.turn 5 Faults.none rfl) ?_
  exact .cons (.finish Faults.none rfl rfl rfl) (.nil _)

theorem ovenRecorded_committed :
    Accounted ovenRecorded ∧ ovenRecorded.pipe.emitted = 1 ∧
      ∃ locked, ovenRecorded.pipe.sink.sink.schema.columns = some locked ∧
        ovenRecorded.pipe.sink.db.committed =
          [] ++ setpoint.map (tableRow (fun _ => "") locked) := by
  have hopen : openSink "samples" true ⟨[], List.nodup_nil⟩ = .ok ovenStore.sink := rfl
  obtain ⟨haccounted, stored, locked, hcommitted, hlocked, hemitted, -, hdone⟩ :=
    recorded_rows_committed hopen ovenStore.db (single .dropOldest) .async ⟨1, 1⟩ 0
      ovenRecorded_run
  have hstored := hdone rfl
  subst hstored
  exact ⟨haccounted, hemitted, locked, hlocked.resolve_left (List.cons_ne_nil _ _), hcommitted⟩

end RecordingPipelines
