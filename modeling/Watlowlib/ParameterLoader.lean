import Watlowlib.ModbusCodec
import Watlowlib.Registry

/-! # Loading the parameter tables

From a decoded JSON row to a parameter specification: the coercions of free-form fields, the
range pattern, canonical names and the loader that keeps the first row of each parameter id. -/
namespace ParameterLoader

open Dictionaries ExceptRules ModbusCodec PythonNumbers PythonTexts PythonValues Registry StdBusTlv
  WatlowErrors

/-- A decoded number with a fraction or an exponent. Its `repr` keeps one of the two, so it never
reads as an integer. -/
structure JsonFloat where
  value : PyFloat
  repr : String
  notInteger : parseInt repr = none
  deriving DecidableEq

/-- A decoded list or object, as far as the loader looks at it. -/
structure JsonContainer where
  nonempty : Bool
  repr : String
  notInteger : parseInt repr = none
  deriving DecidableEq

inductive Json where
  | null
  | bool (b : Bool)
  | int (i : ℤ)
  | float (x : JsonFloat)
  | str (s : String)
  | container (c : JsonContainer)
  deriving DecidableEq

namespace Json

def truthy : Json → Bool
  | .null => false
  | .bool b => b
  | .int i => i ≠ 0
  | .float x => x.value.unsigned ≠ .finite 0
  | .str s => s ≠ ""
  | .container c => c.nonempty

def pyStr : Json → String
  | .null => "None"
  | .bool b => if b then "True" else "False"
  | .int i => toString i
  | .float x => x.repr
  | .str s => s
  | .container c => c.repr

def orElse (v default : Json) : Json := if v.truthy then v else default

def toInt : Json → Result ℤ
  | .bool b => PythonNumbers.toInt (.bool b)
  | .int i => PythonNumbers.toInt (.int i)
  | .float x => PythonNumbers.toInt (.float x.value)
  | .str s =>
    match parseInt s with
    | some i => .ok i
    | none => raise .valueError [.text "invalid literal for int() with base 10: ", .strRepr s]
  | v => raise .typeError [.text "int() argument must be a string or a real number, not ",
      .text v.pyStr]

def toFloat : Json → Result PyFloat
  | .bool b => PythonNumbers.toFloat (.bool b)
  | .int i => PythonNumbers.toFloat (.int i)
  | .float x => PythonNumbers.toFloat (.float x.value)
  | .str s =>
    match parseFloat s with
    | some x => .ok x
    | none => raise .valueError [.text "could not convert string to float: ", .strRepr s]
  | v => raise .typeError [.text "float() argument must be a string or a real number, not ",
      .text v.pyStr]

end Json

/-- A row; the last of several fields with one key counts. -/
abbrev Row := Dict String Json

def get (raw : Row) (key : String) : Json := (raw.lookup key).getD .null

def item (raw : Row) (key : String) : Result Json :=
  match raw.lookup key with
  | some v => .ok v
  | none => raise .keyError [.strRepr key]

/-- The integer a field denotes: an `int` (a `bool` is one), or a text that `int()` parses. -/
def integerOf : Json → Option ℤ
  | .null => none
  | .bool b => some (if b then 1 else 0)
  | .int i => some i
  | v => parseInt v.pyStr

/-- `_coerce_int`: whatever denotes no integer becomes zero. -/
def coerceInt (v : Json) : ℤ := (integerOf v).getD 0

section RangePattern

/-- The ways a pattern matches at the head of a text, each given by the text behind the match,
in the order in which a backtracking matcher tries them. -/
abbrev Pattern := List Char → List (List Char)

def charIf (p : Char → Bool) : Pattern
  | [] => []
  | c :: cs => if p c then [cs] else []

def inOrder (p q : Pattern) : Pattern := fun cs => (p cs).flatMap q

def firstOf (p q : Pattern) : Pattern := fun cs => p cs ++ q cs

def optional (p : Pattern) : Pattern := firstOf p fun cs => [cs]

/-- Greedy repetition of a pattern that takes at least one character each time. -/
def many (p : Pattern) : ℕ → Pattern
  | 0, cs => [cs]
  | fuel + 1, cs => (p cs).flatMap (many p fuel) ++ [cs]

def manyOf (p : Pattern) : Pattern := fun cs => many p cs.length cs

def literal (s : String) : Pattern :=
  s.toList.foldr (fun c p => inOrder (charIf (· == c)) p) fun cs => [cs]

def digit : Pattern := charIf isDigit

def digits : Pattern := inOrder digit (manyOf digit)

def decimals : Pattern := optional (inOrder (literal ".") digits)

/-- `_NUMBER`: thousands groups are tried before a plain run of digits. -/
def number : Pattern :=
  firstOf
    (inOrder (optional (literal "-")) (inOrder digit (inOrder (optional (inOrder digit
      (optional digit))) (inOrder (manyOf (inOrder (literal ",") (inOrder digit
      (inOrder digit digit)))) decimals))))
    (inOrder (optional (literal "-")) (inOrder digits decimals))

def spaces : Pattern := manyOf (charIf isSpace)

def separator : Pattern :=
  inOrder spaces (inOrder (firstOf (literal "to") (firstOf (literal ",") (literal "-"))) spaces)

def captured (text rest : List Char) : List Char := text.take (text.length - rest.length)

/-- `_RANGE_RE` at the head of a text: the two captured groups of each way to match. -/
def rangeMatches (cs : List Char) : List (List Char × List Char) :=
  (number cs).flatMap fun afterLo =>
    (separator afterLo).flatMap fun beforeHi =>
      (number beforeHi).map fun afterHi => (captured cs afterLo, captured beforeHi afterHi)

def searchRange : List Char → Option (List Char × List Char)
  | [] => (rangeMatches []).head?
  | c :: cs => ((rangeMatches (c :: cs)).head?).or (searchRange cs)

/-- `float(group.replace(",", ""))` -/
def boundOf (group : List Char) : Option PyFloat :=
  parseFloat (String.ofList (group.filter (· ≠ ',')))

def parseRange (v : Json) : Option (PyFloat × PyFloat) :=
  match v with
  | .str s => do
    let (lo, hi) ← searchRange s.toList
    return (← boundOf lo, ← boundOf hi)
  | _ => none

end RangePattern

def afterLabel : List Char → Option (List Char)
  | ' ' :: '-' :: ' ' :: cs => some cs
  | _ :: cs => afterLabel cs
  | [] => none

def isAlnum (c : Char) : Bool :=
  (decide ('a' ≤ c) && decide (c ≤ 'z')) || (decide ('A' ≤ c) && decide (c ≤ 'Z')) ||
    (decide ('0' ≤ c) && decide (c ≤ '9'))

/-- Each run of other characters becomes one underscore. -/
def squash : Bool → List Char → List Char
  | _, [] => []
  | inRun, c :: cs =>
    if isAlnum c then c :: squash false cs
    else if inRun then squash true cs
    else '_' :: squash true cs

def canonicalName (raw : String) : String :=
  let text := (afterLabel raw.toList).getD raw.toList
  let cleaned := LetterCases.lowerChars (stripBy (· == '_') (squash false text))
  if cleaned = [] then
    String.ofList ((LetterCases.lowerChars text).map fun c => if c = ' ' then '_' else c)
  else String.ofList cleaned

theorem isAlnum_ascii {c : Char} (h : isAlnum c = true) : c.toNat < 0x80 := by
  have hlast : ∀ {last : Char}, last.toNat < 0x80 → c ≤ last → c.toNat < 0x80 :=
    fun hlt hle => lt_of_le_of_lt (show c.toNat ≤ _ from hle) hlt
  simp only [isAlnum, Bool.or_eq_true, Bool.and_eq_true, decide_eq_true_iff] at h
  rcases h with (⟨-, h⟩ | ⟨-, h⟩) | ⟨-, h⟩
  · exact hlast (by decide) h
  · exact hlast (by decide) h
  · exact hlast (by decide) h

theorem mem_squash {inRun : Bool} {cs : List Char} {c : Char} (h : c ∈ cs)
    (halnum : isAlnum c = true) : c ∈ squash inRun cs := by
  induction cs generalizing inRun with
  | nil => cases h
  | cons c' cs ih =>
    simp only [squash]
    rcases List.mem_cons.mp h with rfl | h
    · rw [if_pos halnum]
      exact List.mem_cons_self
    · split
      · exact List.mem_cons_of_mem _ (ih h)
      · split
        · exact ih h
        · exact List.mem_cons_of_mem _ (ih h)

theorem squash_ascii {inRun : Bool} {cs : List Char} : ∀ c ∈ squash inRun cs, c.toNat < 0x80 := by
  induction cs generalizing inRun with
  | nil => simp [squash]
  | cons c cs ih =>
    intro c' hc'
    simp only [squash] at hc'
    split at hc'
    · rename_i halnum
      rcases List.mem_cons.mp hc' with rfl | hc'
      · exact isAlnum_ascii halnum
      · exact ih c' hc'
    · split at hc'
      · exact ih c' hc'
      · rcases List.mem_cons.mp hc' with rfl | hc'
        · decide
        · exact ih c' hc'

theorem lower_canonicalName {raw : String}
    (h : ∃ c ∈ (afterLabel raw.toList).getD raw.toList, isAlnum c = true) :
    lower (canonicalName raw) = canonicalName raw := by
  obtain ⟨c, hc, halnum⟩ := h
  have hother : (c == '_') = false := by
    refine beq_eq_false_iff_ne.mpr ?_
    rintro rfl
    cases halnum
  have hkept : c ∈ stripBy (· == '_')
      (squash false ((afterLabel raw.toList).getD raw.toList)) :=
    mem_stripBy (mem_squash hc halnum) hother
  have hascii : ∀ c ∈ stripBy (· == '_')
      (squash false ((afterLabel raw.toList).getD raw.toList)), c.toNat < 0x80 :=
    fun c hc => squash_ascii c (mem_of_mem_stripBy hc)
  have hcleaned := LetterCases.lowerChars_lowered hascii
  have hnonempty : LetterCases.lowerChars (stripBy (· == '_')
      (squash false ((afterLabel raw.toList).getD raw.toList))) ≠ [] := by
    rw [LetterCases.lowerChars_ascii hascii]
    simpa using List.ne_nil_of_mem hkept
  simp only [canonicalName, if_neg hnonempty, lower, String.toList_ofList, hcleaned]

def dataTypeMap : Dict String DataType :=
  ofList
    [("IEEE Float", .float), ("signed 32-bit", .s32), ("signed 16-bit", .s16),
      ("unsigned 32-bit", .u32), ("unsigned 16-bit", .u16), ("2 - unsigned 16 bit", .u16),
      ("unsigned 8-bit", .u8), ("Short String", .string), ("Enumeration", .packed),
      ("Wide Enumeration", .packed)]

def rwesNormalise : Dict String RwesFlag :=
  ofList [("R", .r), ("W", .w), ("RW", .rw), ("R/W", .rw), ("RWE", .rwe), ("RWES", .rwes)]

def unitKinds : Dict String UnitKind :=
  ofList [("temperature", .temperature), ("percent", .percent),
    ("dimensionless", .dimensionless), ("enumeration", .enumeration), ("string", .string)]

def rowDataType (raw : Row) : Result (Option DataType) :=
  match get raw "data_type" with
  | .str s => .ok (dataTypeMap.lookup s)
  | .container _ => raise .typeError [.text "unhashable type"]
  | _ => .ok none

def rowRwes (raw : Row) : Result (Option RwesFlag) :=
  match (get raw "rwes").orElse (.str "") with
  | .str s => .ok (rwesNormalise.lookup (strip s))
  | _ => raise .attributeError [.text "object has no attribute 'strip'"]

def rowUnitKind (raw : Row) (parameterId : ℤ) : Result UnitKind :=
  match get raw "unit_kind" with
  | .null =>
    .error (formatted .protocol [.text "parameter row ", .int parameterId,
      .text " is missing required 'unit_kind' field"])
  | .str s =>
    match unitKinds.lookup s with
    | some kind => .ok kind
    | none =>
      .error (formatted .protocol [.text "parameter row ", .int parameterId,
        .text " has unknown unit_kind: ", .strRepr s])
  | v =>
    .error (formatted .protocol [.text "parameter row ", .int parameterId,
      .text " has unknown unit_kind: ", .text v.pyStr])

def rowName (raw : Row) : Result String :=
  if (get raw "canonical").truthy then .ok (get raw "canonical").pyStr
  else do
    let name ← item raw "name"
    .ok (canonicalName name.pyStr)

def rowDecimalRegister (raw : Row) : Result (Option ℤ) :=
  match get raw "decimal_register" with
  | .null => .ok none
  | v => do
    let i ← v.toInt
    .ok (some i)

/-- The part of `_build_spec` behind the rows that are skipped. -/
def loadSpec (raw : Row) (dataType : DataType) (flag : RwesFlag) : Result ParameterSpec := do
  let rawId ← item raw "parameter_id"
  let parameterId ← rawId.toInt
  let unitKind ← rowUnitKind raw parameterId
  let defaultInstance ← ((get raw "instance_id").orElse (.int 1)).toInt
  let maxInstance ← ((get raw "max_instance").orElse (.int 1)).toInt
  let name ← rowName raw
  let scale ← ((get raw "scale").orElse (.int 1)).toFloat
  let decimalRegister ← rowDecimalRegister raw
  .ok {
    parameterId := parameterId
    name := name
    aliases := []
    dataType := dataType
    unitKind := unitKind
    rwes := flag
    safety := safetyFromRwes flag
    cls := coerceInt (get raw "class_id")
    member := coerceInt (get raw "member_id")
    defaultInstance := defaultInstance
    maxInstance := maxInstance
    relativeAddr := coerceInt (get raw "relative_addr")
    registerCount := defaultCount dataType
    wordOrder := none
    rangeMin := (parseRange (get raw "range")).map (·.1)
    rangeMax := (parseRange (get raw "range")).map (·.2)
    scale := scale
    decimalRegister := decimalRegister }

/-- `_build_spec`: none for a row without a usable data type or access flag. -/
def buildSpec (raw : Row) : Result (Option ParameterSpec) := do
  match ← rowDataType raw with
  | none => .ok none
  | some dataType =>
    match ← rowRwes raw with
    | none => .ok none
    | some flag => do
      let spec ← loadSpec raw dataType flag
      .ok (some spec)

/-- The rows behind those whose ids have been seen; the first row of an id wins. -/
def loadFrom : List ℤ → List Row → Result (List ParameterSpec)
  | _, [] => .ok []
  | seen, raw :: rows => do
    match ← buildSpec raw with
    | none => loadFrom seen rows
    | some spec =>
      if spec.parameterId ∈ seen then loadFrom seen rows
      else do
        let specs ← loadFrom (spec.parameterId :: seen) rows
        .ok (spec :: specs)

def loadParameters (rows : List Row) : Result (List ParameterSpec) := loadFrom [] rows

def nameOverrides : List (ℤ × String) :=
  [(1001, "hardware_id"), (1002, "firmware_id"), (1009, "part_number"), (1011, "device_name"),
    (3005, "units"), (4001, "process_value"), (7001, "setpoint"), (7011, "fixed_power"),
    (17050, "display_units")]

def defaultAliases : List (String × String) :=
  [("pv", "process_value"), ("process_val", "process_value"), ("sp", "setpoint"),
    ("set_point", "setpoint"), ("out", "output"), ("out_pct", "output"), ("fw", "firmware_id"),
    ("firmware", "firmware_id"), ("hw", "hardware_id"), ("hardware", "hardware_id"),
    ("part", "part_number"), ("model", "part_number")]

/-- What the loader copies from a row into the specification it makes of it. -/
structure BuiltFrom (raw : Row) (spec : ParameterSpec) : Prop where
  relativeAddr : spec.relativeAddr = coerceInt (get raw "relative_addr")
  registerCount : spec.registerCount = defaultCount spec.dataType
  wordOrder : spec.wordOrder = none
  safety : spec.safety = safetyFromRwes spec.rwes
  range : ∃ bounds : Option (PyFloat × PyFloat),
    spec.rangeMin = bounds.map (·.1) ∧ spec.rangeMax = bounds.map (·.2)

theorem loadSpec_built {raw : Row} {dataType : DataType} {flag : RwesFlag} {spec : ParameterSpec}
    (h : loadSpec raw dataType flag = .ok spec) : BuiltFrom raw spec := by
  obtain ⟨_, -, h⟩ := bind_ok_iff.mp h
  obtain ⟨_, -, h⟩ := bind_ok_iff.mp h
  obtain ⟨_, -, h⟩ := bind_ok_iff.mp h
  obtain ⟨_, -, h⟩ := bind_ok_iff.mp h
  obtain ⟨_, -, h⟩ := bind_ok_iff.mp h
  obtain ⟨_, -, h⟩ := bind_ok_iff.mp h
  obtain ⟨_, -, h⟩ := bind_ok_iff.mp h
  obtain ⟨_, -, h⟩ := bind_ok_iff.mp h
  cases h
  exact ⟨rfl, rfl, rfl, rfl, parseRange (get raw "range"), rfl, rfl⟩

theorem buildSpec_built {raw : Row} {spec : ParameterSpec} (h : buildSpec raw = .ok (some spec)) :
    BuiltFrom raw spec := by
  obtain ⟨dataType, -, h⟩ := bind_ok_iff.mp h
  cases dataType with
  | none => cases h
  | some dataType =>
    obtain ⟨flag, -, h⟩ := bind_ok_iff.mp h
    cases flag with
    | none => cases h
    | some flag =>
      obtain ⟨spec', h, hs⟩ := bind_ok_iff.mp h
      cases hs
      exact loadSpec_built h

theorem loadFrom_spec {seen : List ℤ} {rows : List Row} {specs : List ParameterSpec}
    (h : loadFrom seen rows = .ok specs) :
    (∀ s ∈ specs, s.parameterId ∉ seen ∧ ∃ raw ∈ rows, buildSpec raw = .ok (some s)) ∧
      (specs.map (·.parameterId)).Nodup := by
  induction rows generalizing seen specs with
  | nil =>
    cases h
    simp
  | cons raw rows ih =>
    have hskip : ∀ {specs}, loadFrom seen rows = .ok specs →
        (∀ s ∈ specs, s.parameterId ∉ seen ∧
          ∃ raw' ∈ raw :: rows, buildSpec raw' = .ok (some s)) ∧
          (specs.map (·.parameterId)).Nodup := by
      intro specs h
      obtain ⟨hrows, hids⟩ := ih h
      refine ⟨fun s hs => ?_, hids⟩
      obtain ⟨hseen, raw', hraw', hb⟩ := hrows s hs
      exact ⟨hseen, raw', List.mem_cons_of_mem raw hraw', hb⟩
    obtain ⟨built, hb, h⟩ := bind_ok_iff.mp h
    cases built with
    | none => exact hskip h
    | some spec =>
      simp only at h
      split at h
      · exact hskip h
      · rename_i hnew
        obtain ⟨rest, hr, h⟩ := bind_ok_iff.mp h
        cases h
        obtain ⟨hrows, hids⟩ := ih hr
        constructor
        · intro s hs
          rcases List.mem_cons.mp hs with rfl | hs
          · exact ⟨hnew, raw, List.mem_cons_self, hb⟩
          · obtain ⟨hseen, raw', hraw', hb'⟩ := hrows s hs
            exact ⟨fun hc => hseen (List.mem_cons_of_mem _ hc), raw',
              List.mem_cons_of_mem raw hraw', hb'⟩
        · refine List.nodup_cons.mpr ⟨?_, hids⟩
          intro hc
          obtain ⟨s, hs, hid⟩ := List.mem_map.mp hc
          exact (hrows s hs).1 (hid ▸ List.mem_cons_self)

structure LoadedRegistry where
  rows : List Row
  specs : List ParameterSpec
  loaded : loadParameters rows = .ok specs
  aliases : List (String × String) := defaultAliases
  overrides : List (ℤ × String) := nameOverrides

def LoadedRegistry.registry (R : LoadedRegistry) : ParameterRegistry :=
  .build R.specs R.aliases R.overrides

theorem LoadedRegistry.distinct (R : LoadedRegistry) : DistinctIds R.registry := by
  have hids : R.registry.specs.map (·.parameterId) = R.specs.map (·.parameterId) := by
    change (R.specs.map (rebind R.aliases R.overrides)).map (·.parameterId) = _
    rw [List.map_map]
    apply List.map_congr_left
    intro spec _
    exact (rebind_sameRow R.aliases R.overrides spec).proj (·.parameterId) fun _ _ _ => rfl
  unfold DistinctIds
  rw [hids]
  exact (loadFrom_spec R.loaded).2

end ParameterLoader
