import Mathlib.Data.List.Basic

/-! # Delimited text

Records of fields, a line each. The writer quotes a field when it must and doubles the quotes in it;
the reader goes through the text character by character. What is written for a list of records is
read as that list, and two lists of records are never written alike. -/
namespace DelimitedTexts

abbrev Field := List Char

/-- The two characters of a dialect. They are none of those that end a line. -/
structure Dialect where
  delimiter : Char
  quote : Char
  distinct : delimiter ≠ quote
  delimiter_cr : delimiter ≠ '\r'
  delimiter_lf : delimiter ≠ '\n'
  quote_cr : quote ≠ '\r'
  quote_lf : quote ≠ '\n'

variable (d : Dialect)

/-! ## Writing -/

def Dialect.special (c : Char) : Bool :=
  c == d.delimiter || c == d.quote || c == '\r' || c == '\n'

def doubled (field : Field) : List Char :=
  field.flatMap fun c => if c = d.quote then [c, c] else [c]

def quoted (field : Field) : List Char := d.quote :: (doubled d field ++ [d.quote])

def writeField (field : Field) : List Char :=
  if field.any d.special then quoted d field else field

def lineEnd : List Char := ['\r', '\n']

def writeFields : List Field → List Char
  | [] => []
  | field :: fields => writeField d field ++ fields.flatMap fun f => d.delimiter :: writeField d f

/-- A record of a single empty field is told from one without fields by its quotes. -/
def writeRecord (fields : List Field) : List Char :=
  (if fields = [[]] then quoted d [] else writeFields d fields) ++ lineEnd

def writeRecords (records : List (List Field)) : List Char := records.flatMap (writeRecord d)

/-! ## Reading -/

inductive Mode where
  | recordStart
  | fieldStart
  | plain
  | quoted
  | quoteInQuoted
  | lineEnding
  deriving DecidableEq, Repr

structure Reader where
  mode : Mode
  field : Field
  fields : List Field
  records : List (List Field)
  deriving DecidableEq, Repr

def Reader.start (records : List (List Field)) : Reader := ⟨.recordStart, [], [], records⟩

def Reader.add (s : Reader) (mode : Mode) (c : Char) : Reader :=
  { s with mode := mode, field := s.field ++ [c] }

def Reader.save (s : Reader) (mode : Mode) : Reader :=
  { s with mode := mode, field := [], fields := s.fields ++ [s.field] }

def Reader.endField (s : Reader) (c : Char) : Option Reader :=
  if c = d.delimiter then some (s.save .fieldStart)
  else if c = '\r' then some (s.save .lineEnding)
  else none

def Reader.startField (s : Reader) (c : Char) : Option Reader :=
  if c = d.quote then some { s with mode := .quoted }
  else (s.endField d c).or (if c = '\n' then none else some (s.add .plain c))

def Reader.step (s : Reader) (c : Char) : Option Reader :=
  match s.mode with
  | .recordStart => if c = '\r' then some { s with mode := .lineEnding } else s.startField d c
  | .fieldStart => s.startField d c
  | .plain => (s.endField d c).or (if d.special c then none else some (s.add .plain c))
  | .quoted =>
    if c = d.quote then some { s with mode := .quoteInQuoted } else some (s.add .quoted c)
  | .quoteInQuoted => if c = d.quote then some (s.add .quoted c) else s.endField d c
  | .lineEnding => if c = '\n' then some (.start (s.records ++ [s.fields])) else none

/-- The records of a text, or none where it is no sequence of records. -/
def readRecords (text : List Char) : Option (List (List Field)) :=
  (text.foldlM (Reader.step d) (.start [])).bind fun s =>
    if s.mode = .recordStart then some s.records else none

/-! ## Round trip -/

variable {d}

theorem not_special {c : Char} (h : d.special c = false) :
    c ≠ d.delimiter ∧ c ≠ d.quote ∧ c ≠ '\r' ∧ c ≠ '\n' := by
  simpa [Dialect.special, and_assoc] using h

theorem endField_delimiter (s : Reader) :
    s.endField d d.delimiter = some (s.save .fieldStart) := if_pos rfl

theorem endField_cr (s : Reader) : s.endField d '\r' = some (s.save .lineEnding) := by
  rw [Reader.endField, if_neg (Ne.symm d.delimiter_cr), if_pos rfl]

theorem endField_other (s : Reader) {c : Char} (hdelimiter : c ≠ d.delimiter) (hcr : c ≠ '\r') :
    s.endField d c = none := by
  rw [Reader.endField, if_neg hdelimiter, if_neg hcr]

def AtField (s : Reader) : Prop := s.mode = .recordStart ∨ s.mode = .fieldStart

theorem step_atField {s : Reader} {c : Char} (h : AtField s) (hcr : c ≠ '\r') :
    s.step d c = s.startField d c := by
  rcases h with hmode | hmode
  · simp only [Reader.step, hmode, if_neg hcr]
  · simp only [Reader.step, hmode]

theorem run_plain (field : Field) (h : ∀ c ∈ field, d.special c = false) {s : Reader}
    (hmode : s.mode = .plain) :
    field.foldlM (Reader.step d) s = some { s with field := s.field ++ field } := by
  induction field generalizing s with
  | nil => simp
  | cons c field ih =>
    obtain ⟨hc, hrest⟩ := List.forall_mem_cons.mp h
    obtain ⟨hdelimiter, -, hcr, -⟩ := not_special hc
    have hstep : s.step d c = some (s.add .plain c) := by
      simp [Reader.step, hmode, endField_other s hdelimiter hcr, hc]
    rw [List.foldlM_cons, hstep]
    have hnext := ih hrest (s := s.add .plain c) rfl
    simpa [Reader.add, hmode] using hnext

theorem run_doubled (field : Field) {s : Reader} (hmode : s.mode = .quoted) :
    (doubled d field).foldlM (Reader.step d) s = some { s with field := s.field ++ field } := by
  induction field generalizing s with
  | nil => simp [doubled]
  | cons c field ih =>
    have hnext := ih (s := s.add .quoted c) rfl
    have hchar : (if c = d.quote then [c, c] else [c]).foldlM (Reader.step d) s =
        some (s.add .quoted c) := by
      by_cases hquote : c = d.quote
      · simp [hquote, Reader.step, hmode, Reader.add]
      · simp [hquote, Reader.step, hmode]
    rw [doubled, List.flatMap_cons, List.foldlM_append, hchar]
    simpa [doubled, Reader.add, hmode] using hnext

theorem startField_quote (s : Reader) :
    s.startField d d.quote = some { s with mode := .quoted } := if_pos rfl

theorem startField_delimiter (s : Reader) :
    s.startField d d.delimiter = s.endField d d.delimiter := by
  rw [Reader.startField, if_neg d.distinct, endField_delimiter]
  rfl

/-- A written field has been read, and the delimiter ends it. So does the end of the line, unless
the reader is still at the start of a record. -/
structure ReadField (d : Dialect) (field : Field) (s t : Reader) : Prop where
  read : t.field = field
  earlier : t.fields = s.fields
  records : t.records = s.records
  delimiter : t.step d d.delimiter = t.endField d d.delimiter
  cr : s.mode = .fieldStart ∨ field ≠ [] → t.step d '\r' = t.endField d '\r'

theorem run_quotedField (field : Field) {s : Reader} (hs : AtField s) (hempty : s.field = []) :
    ∃ t, (quoted d field).foldlM (Reader.step d) s = some t ∧ ReadField d field s t ∧
      t.step d '\r' = t.endField d '\r' := by
  have hopen : s.step d d.quote = some { s with mode := .quoted } := by
    rw [step_atField hs d.quote_cr, startField_quote]
  have hbody := run_doubled (d := d) field (s := { s with mode := .quoted }) rfl
  have hcr : Reader.step d { s with mode := .quoteInQuoted, field := field } '\r' =
      Reader.endField d { s with mode := .quoteInQuoted, field := field } '\r' := by
    simp [Reader.step, Ne.symm d.quote_cr]
  refine ⟨{ s with mode := .quoteInQuoted, field := field }, ?_, ⟨rfl, rfl, rfl, ?_, fun _ => hcr⟩,
    hcr⟩
  · rw [quoted, List.foldlM_cons, hopen, Option.bind_eq_bind, Option.bind_some,
      List.foldlM_append, hbody]
    simp [Reader.step, hempty]
  · simp [Reader.step, d.distinct]

theorem run_plainField {c : Char} {field : Field} (hplain : (c :: field).any d.special = false)
    {s : Reader} (hs : AtField s) (hempty : s.field = []) :
    ∃ t, (c :: field).foldlM (Reader.step d) s = some t ∧ ReadField d (c :: field) s t := by
  have hchars : ∀ x ∈ c :: field, d.special x = false := by simpa using hplain
  obtain ⟨hc, hrest⟩ := List.forall_mem_cons.mp hchars
  obtain ⟨hdelimiter, hquote, hcr, hlf⟩ := not_special hc
  have hfirst : s.step d c = some (s.add .plain c) := by
    rw [step_atField hs hcr, Reader.startField, if_neg hquote, endField_other s hdelimiter hcr]
    simp [hlf]
  have hbody := run_plain field hrest (s := s.add .plain c) rfl
  refine ⟨{ s with mode := .plain, field := c :: field }, ?_, rfl, rfl, rfl, ?_, ?_⟩
  · rw [List.foldlM_cons, hfirst, Option.bind_eq_bind, Option.bind_some, hbody]
    simp [Reader.add, hempty]
  · simp [Reader.step, endField_delimiter]
  · simp [Reader.step, endField_cr]

theorem run_writeField (field : Field) {s : Reader} (hs : AtField s) (hempty : s.field = []) :
    ∃ t, (writeField d field).foldlM (Reader.step d) s = some t ∧ ReadField d field s t := by
  rw [writeField]
  split
  · obtain ⟨t, hrun, hread, -⟩ := run_quotedField (d := d) field hs hempty
    exact ⟨t, hrun, hread⟩
  · rename_i hplain
    cases field with
    | nil =>
      refine ⟨s, rfl, hempty, rfl, rfl, ?_, fun hstart => ?_⟩
      · rw [step_atField hs d.delimiter_cr, startField_delimiter]
      · have hmode : s.mode = .fieldStart := hstart.resolve_right fun h => h rfl
        simp [Reader.step, hmode, Reader.startField, Ne.symm d.quote_cr, endField_cr]
    | cons c field => exact run_plainField (by simpa using hplain) hs hempty

theorem run_writeFields (field : Field) (fields : List Field) {s : Reader} (hs : AtField s)
    (hempty : s.field = []) (hmore : s.mode = .fieldStart ∨ field :: fields ≠ [[]]) :
    (writeFields d (field :: fields) ++ ['\r']).foldlM (Reader.step d) s =
      some ⟨.lineEnding, [], s.fields ++ field :: fields, s.records⟩ := by
  induction fields generalizing field s with
  | nil =>
    obtain ⟨t, hrun, hread⟩ := run_writeField (d := d) field hs hempty
    have hcr : s.mode = .fieldStart ∨ field ≠ [] := by simpa using hmore
    rw [writeFields, List.flatMap_nil, List.append_nil, List.foldlM_append, hrun]
    simp [hread.cr hcr, endField_cr, Reader.save, hread.read, hread.earlier, hread.records]
  | cons next fields ih =>
    obtain ⟨t, hrun, hread⟩ := run_writeField (d := d) field hs hempty
    have hnext := ih next (s := t.save .fieldStart) (Or.inr rfl) rfl (Or.inl rfl)
    have hsplit : writeFields d (field :: next :: fields) ++ ['\r'] =
        writeField d field ++ d.delimiter :: (writeFields d (next :: fields) ++ ['\r']) := by
      simp [writeFields]
    rw [hsplit, List.foldlM_append, hrun, Option.bind_eq_bind, Option.bind_some,
      List.foldlM_cons, hread.delimiter, endField_delimiter, Option.bind_eq_bind,
      Option.bind_some, hnext]
    simp [Reader.save, hread.read, hread.earlier, hread.records]

theorem step_lineEnding {s : Reader} (h : s.mode = .lineEnding) :
    s.step d '\n' = some (.start (s.records ++ [s.fields])) := by
  simp [Reader.step, h]

theorem run_writeRecord (fields : List Field) (records : List (List Field)) :
    (writeRecord d fields).foldlM (Reader.step d) (.start records) =
      some (.start (records ++ [fields])) := by
  have hline : ∀ text : List Char,
      (text ++ ['\r']).foldlM (Reader.step d) (.start records) =
        some ⟨.lineEnding, [], fields, records⟩ →
      (text ++ lineEnd).foldlM (Reader.step d) (.start records) =
        some (.start (records ++ [fields])) := by
    intro text hrun
    have hsplit : text ++ lineEnd = (text ++ ['\r']) ++ ['\n'] := by simp [lineEnd]
    rw [hsplit, List.foldlM_append, hrun]
    simp [step_lineEnding]
  rw [writeRecord]
  refine hline _ ?_
  have hstart : AtField (.start records) := Or.inl rfl
  by_cases hsingle : fields = [[]]
  · obtain ⟨t, hrun, hread, hcr⟩ := run_quotedField (d := d) [] hstart rfl
    rw [if_pos hsingle, hsingle, List.foldlM_append, hrun]
    simp [hcr, endField_cr, Reader.save, hread.read, hread.earlier, hread.records, Reader.start]
  · rw [if_neg hsingle]
    cases fields with
    | nil => simp [writeFields, Reader.start, Reader.step]
    | cons field fields =>
      exact run_writeFields field fields hstart rfl (Or.inr hsingle)

/-- Whatever characters the fields are made of. -/
theorem readRecords_writeRecords (records : List (List Field)) :
    readRecords d (writeRecords d records) = some records := by
  have hrun : ∀ before, (writeRecords d records).foldlM (Reader.step d) (.start before) =
      some (.start (before ++ records)) := by
    induction records with
    | nil => simp [writeRecords]
    | cons record records ih =>
      intro before
      rw [writeRecords, List.flatMap_cons, List.foldlM_append, run_writeRecord]
      have hrest := ih (before ++ [record])
      simpa [writeRecords] using hrest
  rw [readRecords, hrun]
  simp [Reader.start]

end DelimitedTexts
