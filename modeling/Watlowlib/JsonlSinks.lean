import Watlowlib.JsonTexts
import Watlowlib.SinkContracts

/-! # The JSONL sink

One object a line, and a file that every opening extends. What is in the file is read back as the
rows of all sessions, with the values they had. The file system never fails here. -/
namespace JsonlSinks

open JsonTexts PythonTexts PythonValues SchemaInference SinkContracts SinkSchemas

/-! ## Values -/

section Values

variable (repr : ℚ → String)

/-- The tokens of `json.dumps`; `repr` is that of a finite float. -/
def floatToken : PyFloat → Text
  | .nan => "NaN".toList
  | .inf negative => (if negative then "-Infinity" else "Infinity").toList
  | .negZero => "-0.0".toList
  | .finite q => (repr q).toList

/-- An object that is no scalar is not serializable. -/
def dumpsValue : Cell → Except SinkError Value
  | .null => .ok (.bare "null".toList)
  | .bool b => .ok (.bare (if b then "true" else "false").toList)
  | .int i => .ok (.bare i.repr.toList)
  | .float x => .ok (.bare (floatToken repr x))
  | .str s => .ok (.text s.toList)
  | .object _ => .error (.driver "TypeError")

def dumpsEntries : List (String × Cell) → Except SinkError Object
  | [] => .ok []
  | (key, cell) :: rest =>
    match dumpsValue repr cell with
    | .error e => .error e
    | .ok value =>
      match dumpsEntries rest with
      | .error e => .error e
      | .ok members => .ok ((key.toList, value) :: members)

def entriesOf (row : Row) : List (String × Cell) := row.entries.map fun e => (e.1, e.2)

def digitsValue (ds : Text) : Option ℕ :=
  if ds ≠ [] ∧ ds.all Char.isDigit then some (Nat.ofDigitChars 10 ds 0) else none

def integerOf : Text → Option ℤ
  | '-' :: ds => (digitsValue ds).map fun n => -(n : ℤ)
  | ds => (digitsValue ds).map fun n => (n : ℤ)

/-- The value that `json.loads` makes of a token; it takes a number less loosely than here. -/
def loadsToken (token : String) : Option Cell :=
  if token = "null" then some .null
  else if token = "true" then some (.bool true)
  else if token = "false" then some (.bool false)
  else if token = "NaN" then some (.float .nan)
  else if token = "Infinity" then some (.float (.inf false))
  else if token = "-Infinity" then some (.float (.inf true))
  else
    match integerOf token.toList with
    | some i => some (.int i)
    | none => (parseFloat token).map .float

def loadsValue : Value → Option Cell
  | .text t => some (.str (String.ofList t))
  | .bare token => loadsToken (String.ofList token)

def loadsObject (o : Object) : Option (List (String × Cell)) :=
  o.mapM fun m => (loadsValue m.2).map fun cell => (String.ofList m.1, cell)

/-- What the documentation of `float.__repr__` promises for a number: a token that is no integer and
that `float` reads as the number. -/
structure ReadsBack (q : ℚ) : Prop where
  notInteger : integerOf (repr q).toList = none
  back : parseFloat (repr q) = some (.finite q)

end Values

/-! ## The sink -/

structure JsonlSink where
  file : Text
  isOpen : Bool

section Calls

variable {DateTime : Type} (isoformat : DateTime → String) (repr : ℚ → String)

def notOpen : SinkError := .runtimeError "JsonlSink: write_many called before open()"

def writeRows : List Row → Text → Except SinkError Unit × Text
  | [], file => (.ok (), file)
  | row :: rows, file =>
    match dumpsEntries repr (entriesOf row) with
    | .error e => (.error e, file)
    | .ok o => writeRows rows (file ++ writeObject o ++ ['\n'])

def writeMany (samples : List (Sample DateTime)) (s : JsonlSink) :
    Except SinkError Unit × JsonlSink :=
  if ¬ s.isOpen then (.error notOpen, s)
  else
    let r := writeRows repr (samples.map (sampleToRow isoformat)) s.file
    (r.1, { s with file := r.2 })

def calls : Calls (Sample DateTime) JsonlSink Unit := fun _ call s =>
  match call with
  | .opens => (.ok (), { s with isOpen := true })
  | .writeMany samples => writeMany isoformat repr samples s
  | .closes => (.ok (), { s with isOpen := false })

end Calls

/-! ## Reading back -/

section Values

variable {repr : ℚ → String}

def memberOf (repr : ℚ → String) (e : String × Cell) : Text × Value :=
  (e.1.toList, match dumpsValue repr e.2 with | .ok value => value | .error _ => .text [])

theorem dumpsEntries_ok {entries : List (String × Cell)}
    (h : ∀ e ∈ entries, ∀ typeName, e.2 ≠ .object typeName) :
    dumpsEntries repr entries = .ok (entries.map (memberOf repr)) := by
  induction entries with
  | nil => rfl
  | cons e entries ih =>
    obtain ⟨key, cell⟩ := e
    obtain ⟨hfirst, hrest⟩ := List.forall_mem_cons.mp h
    simp only [dumpsEntries, ih hrest, List.map_cons]
    cases cell with
    | object typeName => exact absurd rfl (hfirst typeName)
    | _ => rfl

theorem digit_plain {c : Char} (h : c.isDigit = true) : endsToken c = false := by
  have hall : ∀ n < 58, 48 ≤ n → endsToken (Char.ofNat n) = false := by decide
  simp only [Char.isDigit, Bool.and_eq_true, decide_eq_true_eq, ge_iff_le,
    UInt32.le_iff_toNat_le] at h
  change 48 ≤ c.toNat ∧ c.toNat ≤ 57 at h
  have hcode := hall c.toNat (by omega) h.1
  rwa [Char.ofNat_toNat] at hcode

theorem intRepr_proper (i : ℤ) : Value.Proper (.bare i.repr.toList) := by
  have hdigits : ∀ n : ℕ, n.repr.toList ≠ [] ∧ ∀ c ∈ n.repr.toList, endsToken c = false := by
    intro n
    rw [Nat.toList_repr]
    refine ⟨Nat.toDigits_ne_nil, fun c hc => digit_plain ?_⟩
    exact Nat.isDigit_of_mem_toDigits (by decide) (by decide) hc
  cases i with
  | ofNat n => exact hdigits n
  | negSucc n =>
    obtain ⟨-, hplain⟩ := hdigits (n + 1)
    have hsplit : (Int.negSucc n).repr.toList = '-' :: (n + 1).repr.toList := by
      simp [Int.repr]
    rw [hsplit]
    exact ⟨by simp, List.forall_mem_cons.mpr ⟨by decide, hplain⟩⟩

theorem integerOf_repr (i : ℤ) : integerOf i.repr.toList = some i := by
  have hdigits : ∀ n : ℕ, digitsValue n.repr.toList = some n := by
    intro n
    have hall : (Nat.toDigits 10 n).all Char.isDigit = true := List.all_eq_true.mpr fun c hc =>
      Nat.isDigit_of_mem_toDigits (by decide) (by decide) hc
    rw [Nat.toList_repr, digitsValue, if_pos ⟨Nat.toDigits_ne_nil, hall⟩]
    simp
  cases i with
  | ofNat n =>
    have hfirst : ∀ ds, n.repr.toList ≠ '-' :: ds := by
      intro ds hsign
      have hdigit : '-'.isDigit = true := by
        refine Nat.isDigit_of_mem_toDigits (b := 10) (n := n) (by decide) (by decide) ?_
        rw [← Nat.toList_repr, hsign]
        exact List.mem_cons_self
      cases hdigit
    have hplain : integerOf n.repr.toList = (digitsValue n.repr.toList).map fun n => (n : ℤ) := by
      rw [integerOf.eq_def]
      split
      · rename_i ds hsign
        exact absurd hsign (hfirst ds)
      · rfl
    change integerOf n.repr.toList = some (n : ℤ)
    rw [hplain, hdigits]
    rfl
  | negSucc n =>
    have hsplit : (Int.negSucc n).repr.toList = '-' :: (n + 1).repr.toList := by
      simp [Int.repr]
    rw [hsplit, integerOf, hdigits]
    rfl

theorem dumpsValue_proper (hrepr : ∀ q, Value.Proper (.bare (repr q).toList)) {cell : Cell}
    {value : Value} (h : dumpsValue repr cell = .ok value) : value.Proper := by
  have hconstant : ∀ token ∈ ["null", "true", "false", "NaN", "-Infinity", "Infinity", "-0.0"],
      Value.Proper (.bare token.toList) := by decide
  cases cell with
  | null =>
    cases h
    exact hconstant "null" (by decide)
  | bool b =>
    cases h
    cases b with
    | true => exact hconstant "true" (by decide)
    | false => exact hconstant "false" (by decide)
  | int i =>
    cases h
    exact intRepr_proper i
  | float x =>
    cases h
    cases x with
    | nan => exact hconstant "NaN" (by decide)
    | inf negative =>
      cases negative with
      | true => exact hconstant "-Infinity" (by decide)
      | false => exact hconstant "Infinity" (by decide)
    | negZero => exact hconstant "-0.0" (by decide)
    | finite q => exact hrepr q
  | str s =>
    cases h
    trivial
  | object typeName => cases h

def constants : List String := ["null", "true", "false", "NaN", "Infinity", "-Infinity"]

theorem loadsToken_number {token : String} (h : token ∉ constants) :
    loadsToken token = match integerOf token.toList with
      | some i => some (.int i)
      | none => (parseFloat token).map .float := by
  simp only [constants, List.mem_cons, List.not_mem_nil, or_false, not_or] at h
  obtain ⟨h1, h2, h3, h4, h5, h6⟩ := h
  rw [loadsToken, if_neg h1, if_neg h2, if_neg h3, if_neg h4, if_neg h5, if_neg h6]

theorem intRepr_notConstant (i : ℤ) : i.repr ∉ constants := by
  intro hmem
  have hnone : ∀ token ∈ constants, integerOf token.toList = none := by decide +kernel
  have hint := integerOf_repr i
  rw [hnone _ hmem] at hint
  cases hint

theorem ReadsBack.notConstant {q : ℚ} (h : ReadsBack repr q) : repr q ∉ constants := by
  intro hmem
  have hother : ∀ token ∈ constants,
      parseFloat token ∈ [none, some .nan, some (.inf false), some (.inf true)] := by
    decide +kernel
  have hcase := hother _ hmem
  rw [h.back] at hcase
  simp at hcase

theorem loadsValue_dumpsValue {cell : Cell} {value : Value} (h : dumpsValue repr cell = .ok value)
    (hback : ∀ q, cell = .float (.finite q) → ReadsBack repr q) : loadsValue value = some cell := by
  cases cell with
  | null =>
    cases h
    decide
  | bool b =>
    cases h
    cases b <;> decide
  | int i =>
    cases h
    rw [loadsValue, String.ofList_toList, loadsToken_number (intRepr_notConstant i),
      integerOf_repr]
  | float x =>
    cases h
    cases x with
    | nan => rfl
    | inf negative => cases negative <;> rfl
    | negZero =>
      have hread : loadsValue (.bare "-0.0".toList) = some (.float .negZero) := by decide +kernel
      exact hread
    | finite q =>
      have hq := hback q rfl
      rw [loadsValue, floatToken, String.ofList_toList, loadsToken_number hq.notConstant,
        hq.notInteger, hq.back]
      rfl
  | str s =>
    cases h
    rw [loadsValue, String.ofList_toList]
  | object typeName => cases h

end Values

/-! ## The file over a run -/

section Runs

variable {DateTime : Type} {isoformat : DateTime → String} {repr : ℚ → String}

def rowObject (isoformat : DateTime → String) (repr : ℚ → String) (sample : Sample DateTime) :
    Object :=
  (entriesOf (sampleToRow isoformat sample)).map (memberOf repr)

theorem sample_serializable (sample : Sample DateTime) :
    ∀ e ∈ entriesOf (sampleToRow isoformat sample), ∀ typeName, e.2 ≠ .object typeName := by
  have hvalue : ∀ typeName, coerceValue sample.value ≠ .object typeName := by
    intro typeName
    rcases sample.value with - | ((i | b | x) | s) <;> simp [coerceValue]
  have hunit : ∀ typeName, unitCell sample.unit ≠ .object typeName := by
    intro typeName
    rcases sample.unit with - | (unit | text) <;> simp [unitCell]
  simp [entriesOf, sampleToRow, rowEntries, hvalue, hunit]

theorem rowObject_proper (hrepr : ∀ q, Value.Proper (.bare (repr q).toList))
    (sample : Sample DateTime) : ∀ m ∈ rowObject isoformat repr sample, m.2.Proper := by
  intro m hm
  obtain ⟨e, he, rfl⟩ := List.mem_map.mp hm
  simp only [memberOf]
  split
  · rename_i value hvalue
    exact dumpsValue_proper hrepr hvalue
  · trivial

theorem loadsObject_rowObject {sample : Sample DateTime}
    (hback : ∀ e ∈ entriesOf (sampleToRow isoformat sample), ∀ q, e.2 = .float (.finite q) →
      ReadsBack repr q) :
    loadsObject (rowObject isoformat repr sample) =
      some (entriesOf (sampleToRow isoformat sample)) := by
  have hentries : ∀ e ∈ entriesOf (sampleToRow isoformat sample), ∀ typeName,
      e.2 ≠ .object typeName := sample_serializable sample
  rw [rowObject]
  generalize entriesOf (sampleToRow isoformat sample) = entries at hback hentries
  induction entries with
  | nil => rfl
  | cons e entries ih =>
    obtain ⟨key, cell⟩ := e
    obtain ⟨hcell, hcells⟩ := List.forall_mem_cons.mp hback
    obtain ⟨hscalar, hscalars⟩ := List.forall_mem_cons.mp hentries
    obtain ⟨value, hvalue⟩ : ∃ value, dumpsValue repr cell = .ok value := by
      cases cell with
      | object typeName => exact absurd rfl (hscalar typeName)
      | _ => exact ⟨_, rfl⟩
    have hload := loadsValue_dumpsValue hvalue hcell
    have hrest : (entries.map (memberOf repr)).mapM
        (fun m => (loadsValue m.2).map fun cell => (String.ofList m.1, cell)) = some entries :=
      ih hcells hscalars
    rw [loadsObject, List.map_cons, List.mapM_cons, hrest]
    simp [memberOf, hvalue, hload]

theorem writeRows_samples (samples : List (Sample DateTime)) (file : Text) :
    writeRows repr (samples.map (sampleToRow isoformat)) file =
      (.ok (), file ++ writeLines (samples.map (rowObject isoformat repr))) := by
  induction samples generalizing file with
  | nil => simp [writeRows, writeLines]
  | cons sample samples ih =>
    simp only [List.map_cons, writeRows, dumpsEntries_ok (sample_serializable sample), ih]
    simp [writeLines, rowObject]

structure Stores (isoformat : DateTime → String) (repr : ℚ → String)
    (log : RowLog (Sample DateTime)) (s : JsonlSink) : Prop where
  isOpen : s.isOpen = log.isOpen
  file : s.file = writeLines (log.rows.map (rowObject isoformat repr))

theorem writeMany_stores {log : RowLog (Sample DateTime)} {s : JsonlSink}
    (samples : List (Sample DateTime)) (h : Stores isoformat repr log s)
    (hopen : log.isOpen = true) :
    (writeMany isoformat repr samples s).1 = .ok () ∧
      Stores isoformat repr { log with rows := log.rows ++ samples }
        (writeMany isoformat repr samples s).2 := by
  have hisOpen : ¬ ¬ s.isOpen = true := by simp [h.isOpen, hopen]
  simp only [writeMany, if_neg hisOpen, writeRows_samples, true_and]
  refine ⟨h.isOpen, ?_⟩
  rw [List.map_append, writeLines_append, h.file]

/-- The sink is a log that every opening keeps. -/
theorem jsonl_implements :
    Implements (calls isoformat repr) .keeps (Stores isoformat repr) where
  returns fault call log s h hok := by
    cases call with
    | opens =>
      simp only [calls, RowLog.call]
      by_cases hopen : log.isOpen = true
      · rw [if_pos hopen]
        exact ⟨hopen.symm, h.file⟩
      · rw [if_neg hopen]
        exact ⟨rfl, h.file⟩
    | writeMany samples =>
      by_cases hopen : log.isOpen = true
      · exact (writeMany_stores samples h hopen).2
      · simp only [calls, writeMany] at hok
        rw [if_pos (by simp [h.isOpen, hopen])] at hok
        cases hok
    | closes => exact ⟨rfl, h.file⟩
  raises fault call log s e h herror := by
    cases call with
    | opens => cases herror
    | closes => cases herror
    | writeMany samples =>
      by_cases hopen : log.isOpen = true
      · have hok := (writeMany_stores samples h hopen).1
        rw [calls, hok] at herror
        cases herror
      · simp only [calls, writeMany]
        rw [if_pos (by simp [h.isOpen, hopen])]
        exact h

theorem calls_accepts (call : Call (Sample DateTime)) (log : RowLog (Sample DateTime))
    (s : JsonlSink) (h : Stores isoformat repr log s) :
    (calls isoformat repr () call s).1 = .ok () ↔ log.accepts call = true := by
  cases call with
  | opens => exact iff_of_true rfl rfl
  | closes => exact iff_of_true rfl rfl
  | writeMany samples =>
    refine ⟨fun hok => ?_, fun hopen => (writeMany_stores samples h hopen).1⟩
    by_contra hclosed
    simp only [calls, writeMany] at hok
    rw [if_pos (by simpa [RowLog.accepts, h.isOpen] using hclosed)] at hok
    cases hok

theorem Stores.reads_back {log : RowLog (Sample DateTime)} {s : JsonlSink}
    (h : Stores isoformat repr log s) (hrepr : ∀ q, Value.Proper (.bare (repr q).toList))
    (hback : ∀ sample ∈ log.rows, ∀ e ∈ entriesOf (sampleToRow isoformat sample), ∀ q,
      e.2 = .float (.finite q) → ReadsBack repr q) :
    (readLines s.file).bind (·.mapM loadsObject) =
      some (log.rows.map fun sample => entriesOf (sampleToRow isoformat sample)) := by
  have hproper : ∀ o ∈ log.rows.map (rowObject isoformat repr), ∀ m ∈ o, m.2.Proper := by
    intro o ho
    obtain ⟨sample, -, rfl⟩ := List.mem_map.mp ho
    exact rowObject_proper hrepr sample
  rw [h.file, readLines_writeLines hproper, Option.bind_some]
  generalize log.rows = rows at hback
  induction rows with
  | nil => rfl
  | cons sample rows ih =>
    obtain ⟨hfirst, hrest⟩ := List.forall_mem_cons.mp hback
    simp [loadsObject_rowObject hfirst, ih hrest]

/-- Whatever is called on a sink for a file of earlier rows, the file reads, line by line, as those
rows and behind them the rows of all sessions, each value as it was. Only a write to a closed sink
raises. -/
theorem jsonl_reads_back (isoformat : DateTime → String) (repr : ℚ → String)
    (old : List (Sample DateTime)) (run : List (Call (Sample DateTime)))
    (hrepr : ∀ q, Value.Proper (.bare (repr q).toList))
    (hback : ∀ sample ∈ (RowLog.callEach .keeps run ⟨false, old⟩).2.rows,
      ∀ e ∈ entriesOf (sampleToRow isoformat sample), ∀ q, e.2 = .float (.finite q) →
        ReadsBack repr q) :
    let r := callEach (calls isoformat repr) (run.map fun call => ((), call))
      ⟨writeLines (old.map (rowObject isoformat repr)), false⟩
    let log := RowLog.callEach .keeps run ⟨false, old⟩
    r.1.map Except.toBool = log.1 ∧
      (readLines r.2.file).bind (·.mapM loadsObject) =
        some (log.2.rows.map fun sample => entriesOf (sampleToRow isoformat sample)) := by
  have hstart : Stores isoformat repr ⟨false, old⟩
      ⟨writeLines (old.map (rowObject isoformat repr)), false⟩ := ⟨rfl, rfl⟩
  obtain ⟨houtcomes, hstores⟩ := jsonl_implements.run_undisturbed () calls_accepts run hstart
  exact ⟨houtcomes, hstores.reads_back hrepr hback⟩

end Runs

def halfOrZero (q : ℚ) : String := if q = 1 / 2 then "0.5" else "0.0"

def halfRead : Sample PUnit := valueSample "process_value" (some (.num (.float (.finite (1 / 2)))))

def twoSessions : List (Call (Sample PUnit)) :=
  [.opens, .writeMany [halfRead], .closes, .opens, .writeMany [halfRead], .closes]

theorem halfOrZero_proper (q : ℚ) : Value.Proper (.bare (halfOrZero q).toList) := by
  rw [halfOrZero]
  split
  · decide
  · decide

theorem halfRead_readsBack : ∀ e ∈ entriesOf (sampleToRow (fun _ => "") halfRead), ∀ q,
    e.2 = .float (.finite q) → ReadsBack halfOrZero q := by
  have hhalf : ReadsBack halfOrZero (1 / 2) := ⟨by decide +kernel, by decide +kernel⟩
  have hzero : ReadsBack halfOrZero 0 := ⟨by decide +kernel, by decide +kernel⟩
  have hvalues : ∀ e ∈ entriesOf (sampleToRow (fun _ => "") halfRead),
      e.2 = .float (.finite (1 / 2)) ∨ e.2 = .float (.finite 0) ∨
        ∀ q, e.2 ≠ .float (.finite q) := by
    simp [entriesOf, sampleToRow, rowEntries, halfRead, valueSample, coerceValue, unitCell]
  intro e he q hq
  rcases hvalues e he with h | h | h
  · cases h.symm.trans hq
    exact hhalf
  · cases h.symm.trans hq
    exact hzero
  · exact absurd hq (h q)

theorem twoSessions_read_back :
    (readLines (callEach (calls (fun _ => "") halfOrZero) (twoSessions.map fun call => ((), call))
      ⟨[], false⟩).2.file).bind (·.mapM loadsObject) =
        some ([halfRead, halfRead].map fun sample =>
          entriesOf (sampleToRow (fun _ => "") sample)) := by
  refine (jsonl_reads_back (fun _ => "") halfOrZero [] twoSessions halfOrZero_proper ?_).2
  intro sample hsample
  have hsame : sample = halfRead := by
    simpa [twoSessions, RowLog.callEach, RowLog.accepts, RowLog.call] using hsample
  rw [hsame]
  exact halfRead_readsBack

end JsonlSinks
