import Watlowlib.CsvSinks
import Watlowlib.JsonlSinks

/-! # From the producer to the file

A recording that is piped into an open sink which stores what is written and refuses nothing: no
write to the file fails. It ends only with the stream, and the file reads back as the samples that
were delivered. -/
namespace RecordedFiles

open BoundedFifos DelimitedTexts JsonTexts Pipes RecorderOverflow RecordingPipelines SinkContracts
  SchemaInference SinkSchemas TransitionSystem

section Pipelines

variable {α β σ Time Fault : Type} {write : Fault → WriteMany α σ} {Holds : List α → σ → Prop}
  {p : Pipe α σ Time} {fault : Fault}

/-- A sink that takes every list whatever it stores. -/
def Takes (write : Fault → WriteMany α σ) (Holds : List α → σ → Prop) : Prop :=
  ∀ fault samples stored s, Holds stored s → (write fault samples s).1 = .ok ()

theorem handOver_ok (h : (write fault p.buffer p.sink).1 = .ok ()) :
    (handOver (write fault) p).1 = .ok () := by
  rw [handOver]
  generalize write fault p.buffer p.sink = r at h
  obtain ⟨outcome, sink⟩ := r
  cases outcome with
  | ok _ => rfl
  | error e => cases h

theorem flush_ok (h : (write fault p.buffer p.sink).1 = .ok ()) :
    (flush (write fault) p).1 = .ok () := by
  rw [flush]
  split
  · rfl
  · exact handOver_ok h

theorem stamp_ok {r : Except SinkError Unit × Pipe α σ Time} (h : r.1 = .ok ()) (now : Time) :
    (andThen r fun p => ((.ok (), { p with lastFlush := now }) : _ × Pipe α σ Time)).1 =
      .ok () := by
  obtain ⟨outcome, p⟩ := r
  cases outcome with
  | ok _ => rfl
  | error e => cases h

theorem allOrNothing_map {write : Fault → WriteMany β σ} {Holds : List β → σ → Prop}
    (h : AllOrNothing write Holds) (f : α → β) :
    AllOrNothing (fun fault samples s => write fault (samples.map f) s)
      fun stored s => Holds (stored.map f) s where
  returns fault samples stored s hholds hok := by
    rw [List.map_append]
    exact h.returns fault _ _ s hholds hok
  raises fault samples stored s e hholds herror := h.raises fault _ _ s e hholds herror

variable [LinearOrder Time] [Sub Time] {pl : Plumbing α σ Time Fault}
  {s t : System pl.overflow α σ Time} {e : Event α Time Fault} {es : List (Event α Time Fault)}

theorem loopBody_ok (turn : Turn α Time)
    (h : ∀ samples, (pl.write fault samples p.sink).1 = .ok ()) :
    (loopBody pl turn fault p).1 = .ok () := by
  rw [loopBody]
  cases pl.flavour with
  | async =>
    simp only [asyncStep]
    split
    · exact stamp_ok (flush_ok (p := p.extend turn.1) (h _)) turn.2
    · rfl
  | sync =>
    simp only [syncStep]
    split
    · exact stamp_ok (handOver_ok (p := p.extend turn.1) (h _)) turn.2
    · rfl

theorem step_unfailed (htakes : Takes pl.write Holds) (hs : Ledger Holds s)
    (hunfailed : ∀ e, s.consumer ≠ .failed e) (h : Step pl s e t) :
    ∀ e, t.consumer ≠ .failed e := by
  obtain ⟨-, ⟨absorbed, ⟨stored, hholds, -, -⟩, -⟩, -⟩ := hs
  cases h with
  | producer => exact hunfailed
  | close => exact hunfailed
  | receive => exact nofun
  | @turn batch now fault hholding =>
    rw [loopBody_ok (batch, now) fun samples => htakes fault samples stored _ hholds]
    exact nofun
  | @finish fault hreading hclosed hempty =>
    rw [flush_ok (htakes fault _ stored _ hholds)]
    exact nofun

theorem recording_unfailed (hsink : AllOrNothing pl.write Holds) (htakes : Takes pl.write Holds)
    {sink : σ} (hstart : Holds [] sink) {now : Time} (h : Run (Step pl) (start pl sink now) es s) :
    ∀ e, s.consumer ≠ .failed e := by
  have hinv := h.invariant (fun s => Ledger Holds s ∧ ∀ e, s.consumer ≠ .failed e)
    (fun _ _ _ hs hstep => ⟨step_ledger hsink hs.1 hstep, step_unfailed htakes hs.1 hs.2 hstep⟩)
    ⟨start_ledger hstart now, nofun⟩
  exact hinv.2

end Pipelines

variable {DateTime Time : Type} [LinearOrder Time] [Sub Time] {str : Cell → String}
  {isoformat : DateTime → String} {repr : ℚ → String}

/-- A recording into a CSV sink, which flattens every sample to a row. -/
def csvPlumbing (str : Cell → String) (isoformat : DateTime → String) (overflow : Setting)
    (flavour : Flavour) (settings : Settings Time) :
    Plumbing (Sample DateTime) CsvSinks.CsvSink Time Unit :=
  ⟨overflow, flavour, settings, fun _ samples s =>
    CsvSinks.writeMany str (samples.map (sampleToRow isoformat)) s⟩

/-- In every interleaving of the producer and the pipe, the CSV file reads as the table of the first
samples delivered, each once and in order. The pipe does not fail, and when it has ended the table
is that of them all. -/
theorem recorded_csv_reads_back (str : Cell → String) (isoformat : DateTime → String)
    (old : List Char) (overflow : Setting) (flavour : Flavour) (settings : Settings Time)
    (now : Time) {es : List (Event (Sample DateTime) Time Unit)}
    {s : System overflow (Sample DateTime) CsvSinks.CsvSink Time}
    (h : Run (Step (csvPlumbing str isoformat overflow flavour settings))
      (start (csvPlumbing str isoformat overflow flavour settings)
        (CsvSinks.openFile (.new old)) now) es s) :
    Accounted s ∧ (∀ e, s.consumer ≠ .failed e) ∧ ∃ stored : List (Sample DateTime),
      readRecords CsvSinks.excel s.pipe.sink.file =
        some (CsvSinks.table str (stored.map (sampleToRow isoformat))) ∧
      s.pipe.emitted = stored.length ∧ stored <+: s.channel.delivered.flatten ∧
      (s.consumer = .done → stored = s.channel.delivered.flatten) := by
  have himplements : Implements (CsvSinks.calls str) .truncates (CsvSinks.Stores str) :=
    CsvSinks.csv_implements
  have hsink := allOrNothing_map (himplements.allOrNothing []) (sampleToRow isoformat)
  have htakes : Takes (csvPlumbing str isoformat overflow flavour settings).write
      fun stored s => CsvSinks.Stores str ⟨true, [] ++ stored.map (sampleToRow isoformat)⟩ s :=
    fun _ samples _ _ hstores => (CsvSinks.writeMany_stores _ hstores rfl).1
  have hstart : CsvSinks.Stores str ⟨true, []⟩ (CsvSinks.openFile (.new old)) :=
    CsvSinks.openFile_stores old
  obtain ⟨haccounted, stored, hstores, hemitted, hinitial, hdone⟩ :=
    recording_stored hsink hstart h
  refine ⟨haccounted, recording_unfailed hsink htakes hstart h, stored, ?_, hemitted, hinitial,
    hdone⟩
  rw [hstores.file, List.nil_append, readRecords_writeRecords]

def shortPlumbing : Plumbing (Sample PUnit) CsvSinks.CsvSink ℕ Unit :=
  csvPlumbing (fun _ => "0") (fun _ => "") (single .block) .async ⟨1, 1⟩

def shortFile : CsvSinks.CsvSink := CsvSinks.openFile (.new ['o', 'l', 'd'])

def shortRecorded : System (single .block) (Sample PUnit) CsvSinks.CsvSink ℕ :=
  ⟨⟨⟨[], [processValue], [(.consumer, processValue)], rfl, nothing_waits⟩, .idle, [processValue],
      1, 0⟩, true,
    ⟨(shortPlumbing.write () processValue shortFile).2, [processValue], 1, [], 5⟩, .done⟩

theorem shortRecorded_run :
    Run (Step shortPlumbing) (start shortPlumbing shortFile 0)
      [.producer (.publish processValue), .producer .step, .receive, .turn 5 (), .close,
        .finish ()] shortRecorded := by
  refine .cons (.producer rfl nofun (.publish processValue rfl)) ?_
  refine .cons (.producer rfl nofun (.step rfl)) ?_
  refine .cons (.receive rfl rfl) ?_
  refine .cons (.turn 5 () rfl) ?_
  exact .cons .close (.cons (.finish () rfl rfl rfl) (.nil _))

theorem shortRecorded_reads_back :
    Accounted shortRecorded ∧ readRecords CsvSinks.excel shortRecorded.pipe.sink.file =
      some (CsvSinks.table (fun _ => "0") (processValue.map (sampleToRow fun _ => ""))) := by
  obtain ⟨haccounted, -, stored, hfile, -, -, hdone⟩ :=
    recorded_csv_reads_back (fun _ => "0") (fun _ => "") ['o', 'l', 'd'] (single .block) .async
      ⟨1, 1⟩ 0 shortRecorded_run
  rw [hdone rfl] at hfile
  exact ⟨haccounted, hfile⟩

def jsonlPlumbing (isoformat : DateTime → String) (repr : ℚ → String) (overflow : Setting)
    (flavour : Flavour) (settings : Settings Time) :
    Plumbing (Sample DateTime) JsonlSinks.JsonlSink Time Unit :=
  ⟨overflow, flavour, settings, fun _ samples s =>
    JsonlSinks.writeMany isoformat repr samples s⟩

/-- Likewise every line of the JSONL file reads as the row of a sample delivered, each value as it
was, behind the lines that the file had before. -/
theorem recorded_jsonl_reads_back (isoformat : DateTime → String) (repr : ℚ → String)
    (old : List (Sample DateTime)) (overflow : Setting) (flavour : Flavour)
    (settings : Settings Time) (now : Time) (hrepr : ∀ q, Value.Proper (.bare (repr q).toList))
    {es : List (Event (Sample DateTime) Time Unit)}
    {s : System overflow (Sample DateTime) JsonlSinks.JsonlSink Time}
    (h : Run (Step (jsonlPlumbing isoformat repr overflow flavour settings))
      (start (jsonlPlumbing isoformat repr overflow flavour settings)
        ⟨writeLines (old.map (JsonlSinks.rowObject isoformat repr)), true⟩ now) es s)
    (hback : ∀ sample ∈ old ++ s.channel.delivered.flatten,
      ∀ e ∈ JsonlSinks.entriesOf (sampleToRow isoformat sample), ∀ q,
        e.2 = .float (.finite q) → JsonlSinks.ReadsBack repr q) :
    Accounted s ∧ (∀ e, s.consumer ≠ .failed e) ∧ ∃ stored : List (Sample DateTime),
      (readLines s.pipe.sink.file).bind (·.mapM JsonlSinks.loadsObject) =
        some ((old ++ stored).map fun sample =>
          JsonlSinks.entriesOf (sampleToRow isoformat sample)) ∧
      s.pipe.emitted = stored.length ∧ stored <+: s.channel.delivered.flatten ∧
      (s.consumer = .done → stored = s.channel.delivered.flatten) := by
  have himplements : Implements (JsonlSinks.calls isoformat repr) .keeps
      (JsonlSinks.Stores isoformat repr) := JsonlSinks.jsonl_implements
  have hsink := himplements.allOrNothing old
  have htakes : Takes (jsonlPlumbing isoformat repr overflow flavour settings).write
      fun stored s => JsonlSinks.Stores isoformat repr ⟨true, old ++ stored⟩ s :=
    fun _ samples _ _ hstores => (JsonlSinks.writeMany_stores samples hstores rfl).1
  have hstart : JsonlSinks.Stores isoformat repr ⟨true, old ++ []⟩
      ⟨writeLines (old.map (JsonlSinks.rowObject isoformat repr)), true⟩ :=
    ⟨rfl, by rw [List.append_nil]⟩
  obtain ⟨haccounted, stored, hstores, hemitted, hinitial, hdone⟩ :=
    recording_stored hsink hstart h
  refine ⟨haccounted, recording_unfailed hsink htakes hstart h, stored, ?_, hemitted, hinitial,
    hdone⟩
  refine hstores.reads_back hrepr fun sample hsample => hback sample ?_
  rcases List.mem_append.mp hsample with hold | hnew
  · exact List.mem_append_left _ hold
  · exact List.mem_append_right _ (hinitial.subset hnew)

end RecordedFiles
