import Watlowlib.DelimitedTexts
import Watlowlib.SinkContracts

/-! # The CSV sink

The first batch after an opening fixes the columns and writes the header; every row is cut to them.
The file is followed character by character, and read back as a table of texts. Whatever is written
reaches it: the file system never fails here. -/
namespace CsvSinks

open DelimitedTexts SchemaInference SinkContracts SinkSchemas

/-- The dialect of `csv.writer`. -/
def excel : Dialect where
  delimiter := ','
  quote := '"'
  distinct := by decide
  delimiter_cr := by decide
  delimiter_lf := by decide
  quote_cr := by decide
  quote_lf := by decide

structure CsvSink where
  file : List Char
  isOpen : Bool
  hasWriter : Bool
  columns : Option (List String)
  unknownColumnsWarned : List String

def CsvSink.new (file : List Char) : CsvSink := ⟨file, false, false, none, []⟩

section Calls

variable (str : Cell → String)

/-- What `csv.writer` makes of a value: nothing of a `None`, else `str(value)`. -/
def cellText : Cell → Field
  | .null => []
  | value => (str value).toList

/-- `{k: row.get(k) for k in columns}`, a field for each column. -/
def rowRecord (columns : List String) (row : Row) : List Field :=
  columns.map fun key => cellText str ((row.lookup key).getD .null)

def header (columns : List String) : List Field := columns.map String.toList

def noteUnknown (columns : List String) (warned : List String) (row : Row) : List String :=
  row.keys.foldl (fun warned key => if key ∈ columns ∨ key ∈ warned then warned
    else warned ++ [key]) warned

def writeRows (columns : List String) (rows : List Row) (s : CsvSink) : CsvSink :=
  { s with
    file := s.file ++ writeRecords excel (rows.map (rowRecord str columns))
    unknownColumnsWarned := rows.foldl (noteUnknown columns) s.unknownColumnsWarned }

def notOpen : SinkError := .runtimeError "CsvSink: write_many called before open()"

def ensureWriter (first : Row) (s : CsvSink) : CsvSink :=
  if s.hasWriter then s
  else { s with
    columns := some first.keys
    hasWriter := true
    file := s.file ++ writeRecord excel (header first.keys) }

def writeMany (rows : List Row) (s : CsvSink) : Except SinkError Unit × CsvSink :=
  if ¬ s.isOpen then (.error notOpen, s)
  else
    match rows with
    | [] => (.ok (), s)
    | first :: _ =>
      match (ensureWriter first s).columns with
      | none => (.error .assertionError, ensureWriter first s)
      | some columns => (.ok (), writeRows str columns rows (ensureWriter first s))

/-- `open`, which truncates the file. -/
def openFile (s : CsvSink) : CsvSink :=
  if s.isOpen then s else { s with file := [], isOpen := true }

def close (s : CsvSink) : CsvSink :=
  if s.isOpen then { s with isOpen := false, hasWriter := false } else s

def calls : Calls Row CsvSink Unit := fun _ call s =>
  match call with
  | .opens => (.ok (), openFile s)
  | .writeMany rows => writeMany str rows s
  | .closes => (.ok (), close s)

end Calls

/-! ## The file as a table -/

variable {str : Cell → String}

/-- The header and the records of a list of rows: the first row names the columns. -/
def table (str : Cell → String) : List Row → List (List Field)
  | [] => []
  | first :: rest => header first.keys :: (first :: rest).map (rowRecord str first.keys)

/-- The file is that of the table, and the next row is cut to its columns. -/
structure Stores (str : Cell → String) (log : RowLog Row) (s : CsvSink) : Prop where
  isOpen : s.isOpen = log.isOpen
  file : s.file = writeRecords excel (table str log.rows)
  writer : s.hasWriter = (log.isOpen && !log.rows.isEmpty)
  columns : s.hasWriter = true → s.columns = log.rows.head?.map (·.keys)

theorem writeRecords_append (a b : List (List Field)) :
    writeRecords excel (a ++ b) = writeRecords excel a ++ writeRecords excel b :=
  List.flatMap_append

theorem ensureWriter_stores {log : RowLog Row} {s : CsvSink} (first : Row) (rest : List Row)
    (h : Stores str log s) (hopen : log.isOpen = true) :
    (ensureWriter first s).isOpen = true ∧ (ensureWriter first s).hasWriter = true ∧
      ∃ columns, (ensureWriter first s).columns = some columns ∧
        (log.rows ++ first :: rest).head?.map (·.keys) = some columns ∧
        (ensureWriter first s).file ++
            writeRecords excel ((first :: rest).map (rowRecord str columns)) =
          writeRecords excel (table str (log.rows ++ first :: rest)) := by
  obtain ⟨hisOpen, hfile, hwriter, hcolumns⟩ := h
  rw [ensureWriter]
  cases hrows : log.rows with
  | nil =>
    have hnone : s.hasWriter = false := by simp [hwriter, hrows]
    rw [hnone, if_neg (by decide)]
    refine ⟨by rw [hisOpen, hopen], rfl, first.keys, rfl, rfl, ?_⟩
    rw [hfile, hrows]
    simp [table, writeRecords]
  | cons oldest older =>
    have hsome : s.hasWriter = true := by simp [hwriter, hrows, hopen]
    rw [hsome, if_pos rfl]
    refine ⟨by rw [hisOpen, hopen], hsome, oldest.keys, ?_, rfl, ?_⟩
    · rw [hcolumns hsome, hrows]
      rfl
    · rw [hfile, hrows, ← writeRecords_append]
      simp [table]

theorem writeMany_stores {log : RowLog Row} {s : CsvSink} (rows : List Row)
    (h : Stores str log s) (hopen : log.isOpen = true) :
    (writeMany str rows s).1 = .ok () ∧
      Stores str { log with rows := log.rows ++ rows } (writeMany str rows s).2 := by
  have hisOpen : ¬ ¬ s.isOpen = true := by simp [h.isOpen, hopen]
  cases rows with
  | nil =>
    simp only [writeMany, if_neg hisOpen, List.append_nil, true_and]
    exact h
  | cons first rest =>
    obtain ⟨hopened, hwriter, columns, hcolumns, hhead, hfile⟩ :=
      ensureWriter_stores first rest h hopen
    simp only [writeMany, if_neg hisOpen, hcolumns, true_and]
    refine ⟨hopened.trans hopen.symm, hfile, ?_, fun _ => ?_⟩
    · exact hwriter.trans (by simp [hopen])
    · exact hcolumns.trans hhead.symm

theorem csv_implements : Implements (calls str) .truncates (Stores str) where
  returns fault call log s h hok := by
    cases call with
    | opens =>
      obtain ⟨hisOpen, hfile, hwriter, hcolumns⟩ := h
      simp only [calls, openFile, RowLog.call, hisOpen]
      by_cases hopen : log.isOpen = true
      · rw [if_pos hopen, if_pos hopen]
        exact ⟨hisOpen, hfile, hwriter, hcolumns⟩
      · have hnone : s.hasWriter = false := by simp [hwriter, hopen]
        rw [if_neg hopen, if_neg hopen]
        exact ⟨rfl, rfl, by simp [hnone], by simp [hnone]⟩
    | writeMany rows =>
      by_cases hopen : log.isOpen = true
      · exact (writeMany_stores rows h hopen).2
      · simp only [calls, writeMany] at hok
        rw [if_pos (by simp [h.isOpen, hopen])] at hok
        cases hok
    | closes =>
      obtain ⟨hisOpen, hfile, hwriter, hcolumns⟩ := h
      simp only [calls, close, RowLog.call]
      by_cases hopen : log.isOpen = true
      · rw [if_pos (hisOpen.trans hopen)]
        exact ⟨rfl, hfile, by simp, by simp⟩
      · rw [if_neg (by simp [hisOpen, hopen])]
        have hclosed : log.isOpen = false := by simpa using hopen
        exact ⟨by rw [hisOpen, hclosed], hfile, by simp [hwriter, hclosed], hcolumns⟩
  raises fault call log s e h herror := by
    cases call with
    | opens => cases herror
    | closes => cases herror
    | writeMany rows =>
      by_cases hopen : log.isOpen = true
      · have hok := (writeMany_stores rows h hopen).1
        rw [calls, hok] at herror
        cases herror
      · simp only [calls, writeMany]
        rw [if_pos (by simp [h.isOpen, hopen])]
        exact h

theorem calls_accepts (call : Call Row) (log : RowLog Row) (s : CsvSink) (h : Stores str log s) :
    (calls str () call s).1 = .ok () ↔ log.accepts call = true := by
  cases call with
  | opens => exact iff_of_true rfl rfl
  | closes => exact iff_of_true rfl rfl
  | writeMany rows =>
    refine ⟨fun hok => ?_, fun hopen => (writeMany_stores rows h hopen).1⟩
    by_contra hclosed
    simp only [calls, writeMany] at hok
    rw [if_pos (by simpa [RowLog.accepts, h.isOpen] using hclosed)] at hok
    cases hok

theorem openFile_stores (old : List Char) : Stores str ⟨true, []⟩ (openFile (.new old)) :=
  ⟨rfl, rfl, rfl, nofun⟩

/-- From its first opening on, whatever is called, the file reads as the table of the rows that were
written since the last opening that found the sink closed. Only a write to a closed sink raises. -/
theorem csv_reads_back (old : List Char) (run : List (Call Row)) :
    let r := callEach (calls str) (run.map fun call => ((), call)) (openFile (.new old))
    let log := RowLog.callEach .truncates run ⟨true, []⟩
    r.1.map Except.toBool = log.1 ∧ readRecords excel r.2.file = some (table str log.2.rows) := by
  obtain ⟨houtcomes, hstores⟩ :=
    csv_implements.run_undisturbed () calls_accepts run (openFile_stores old)
  exact ⟨houtcomes, by rw [hstores.file, readRecords_writeRecords]⟩

end CsvSinks
