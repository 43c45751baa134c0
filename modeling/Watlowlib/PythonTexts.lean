import Mathlib.Data.Rat.Defs
import Watlowlib.BinaryFormat
import Watlowlib.LetterCases
import Watlowlib.PythonValues

/-! # Python text operations

`str` methods and the number parsers behind `int(text)` and `float(text)`. Decimal digits, white
space and letter cases are the Unicode ones; the case of `inf` and `nan` is ASCII. -/
namespace PythonTexts

open PythonValues

/-- The zeros of the runs of ten decimal digits (general category `Nd`). -/
def digitZeros : List ℕ :=
  [0x30, 0x660, 0x6f0, 0x7c0, 0x966, 0x9e6, 0xa66, 0xae6, 0xb66, 0xbe6, 0xc66, 0xce6, 0xd66,
   0xde6, 0xe50, 0xed0, 0xf20, 0x1040, 0x1090, 0x17e0, 0x1810, 0x1946, 0x19d0, 0x1a80, 0x1a90,
   0x1b50, 0x1bb0, 0x1c40, 0x1c50, 0xa620, 0xa8d0, 0xa900, 0xa9d0, 0xa9f0, 0xaa50, 0xabf0,
   0xff10, 0x104a0, 0x10d30, 0x11066, 0x110f0, 0x11136, 0x111d0, 0x112f0, 0x11450, 0x114d0,
   0x11650, 0x116c0, 0x11730, 0x118e0, 0x11950, 0x11c50, 0x11d50, 0x11da0, 0x11f50, 0x16a60,
   0x16ac0, 0x16b50, 0x1d7ce, 0x1d7d8, 0x1d7e2, 0x1d7ec, 0x1d7f6, 0x1e140, 0x1e2f0, 0x1e4f0,
   0x1e950, 0x1fbf0]

def digitValue (c : Char) : Option ℕ :=
  (digitZeros.find? fun z => decide (z ≤ c.toNat ∧ c.toNat < z + 10)).map (c.toNat - ·)

def isDigit (c : Char) : Bool := (digitValue c).isSome

/-- `str.isspace`, and `\s` of a `str` pattern. -/
def isSpace (c : Char) : Bool :=
  [0x09, 0x0a, 0x0b, 0x0c, 0x0d, 0x1c, 0x1d, 0x1e, 0x1f, 0x20, 0x85, 0xa0, 0x1680, 0x2000, 0x2001,
   0x2002, 0x2003, 0x2004, 0x2005, 0x2006, 0x2007, 0x2008, 0x2009, 0x200a, 0x2028, 0x2029, 0x202f,
   0x205f, 0x3000].contains c.toNat

/-- The blanks that the number parsers skip: the C ones, and white space outside ASCII. -/
def isBlank (c : Char) : Bool :=
  decide (0x09 ≤ c.toNat ∧ c.toNat ≤ 0x0d) || c == ' ' || (decide (0x80 ≤ c.toNat) && isSpace c)

def stripBy (p : Char → Bool) (cs : List Char) : List Char :=
  ((cs.dropWhile p).reverse.dropWhile p).reverse

theorem mem_of_mem_stripBy {p : Char → Bool} {cs : List Char} {c : Char} (h : c ∈ stripBy p cs) :
    c ∈ cs := by
  have hback := (List.dropWhile_suffix p).subset (List.mem_reverse.mp h)
  exact (List.dropWhile_suffix p).subset (List.mem_reverse.mp hback)

theorem mem_stripBy {p : Char → Bool} {cs : List Char} {c : Char} (h : c ∈ cs) (hp : p c = false) :
    c ∈ stripBy p cs := by
  have hdrop : ∀ {ds : List Char}, c ∈ ds → c ∈ ds.dropWhile p := by
    intro ds hc
    rw [← @List.takeWhile_append_dropWhile _ p ds] at hc
    refine (List.mem_append.mp hc).resolve_left fun htaken => ?_
    rw [List.all_eq_true.mp List.all_takeWhile c htaken] at hp
    cases hp
  exact List.mem_reverse.mpr (hdrop (List.mem_reverse.mpr (hdrop h)))

def strip (s : String) : String := String.ofList (stripBy isSpace s.toList)

def lower (s : String) : String := String.ofList (LetterCases.lowerChars s.toList)

/-- A run of digits in which single underscores may stand between two of them. -/
def digitRun : List Char → Option (List ℕ)
  | [] => none
  | [c] => (digitValue c).map fun d => [d]
  | c :: '_' :: cs => do return (← digitValue c) :: (← digitRun cs)
  | c :: cs => do return (← digitValue c) :: (← digitRun cs)

def ofDigits (ds : List ℕ) : ℕ := ds.foldl (fun n d => 10 * n + d) 0

def splitSign : List Char → Bool × List Char
  | '-' :: cs => (true, cs)
  | '+' :: cs => (false, cs)
  | cs => (false, cs)

def applySign (negative : Bool) (n : ℕ) : ℤ := if negative then -n else n

/-- The integer that `int(text)` gives, or none where it raises. -/
def parseInt (s : String) : Option ℤ :=
  let (negative, body) := splitSign (stripBy isBlank s.toList)
  match digitRun body with
  | none => none
  | some ds => if maxIntDigits < ds.length then none else some (applySign negative (ofDigits ds))

def optionalRun (cs : List Char) : Option (List ℕ) := if cs = [] then some [] else digitRun cs

def parseExponent : List Char → Option ℤ
  | [] => some 0
  | _ :: cs =>
    let (negative, body) := splitSign cs
    (digitRun body).map fun ds => applySign negative (ofDigits ds)

/-- The exact rational that an unsigned decimal literal denotes. -/
def parseDecimal (cs : List Char) : Option ℚ := do
  let (number, exponent) := cs.span fun c => c != 'e' && c != 'E'
  let (whole, fraction) := number.span (· != '.')
  let ws ← optionalRun whole
  let fs ← optionalRun (fraction.drop 1)
  if ws = [] ∧ fs = [] then none
  let e ← parseExponent exponent
  return (ofDigits (ws ++ fs) : ℚ) * 10 ^ (e - fs.length)

/-- The float nearest to an exact result; past the largest one it is an infinity. What is rounded
to zero keeps its sign. -/
def ofRat (q : ℚ) : PyFloat :=
  match BinaryFormat.nearest BinaryFormat.binary64 q with
  | some r => if r = 0 ∧ q < 0 then .negZero else .finite r
  | none => .inf (decide (q < 0))

theorem ofRat_zero : ofRat 0 = .finite 0 := by decide +kernel

/-- The float of a literal for `q`; a zero has the sign of the literal. -/
def ofLiteral (negative : Bool) (q : ℚ) : PyFloat :=
  if negative = true ∧ q = 0 then .negZero else ofRat q

/-- The float that `float(text)` gives, or none where it raises. -/
def parseFloat (s : String) : Option PyFloat :=
  let (negative, body) := splitSign (stripBy isBlank s.toList)
  let word := String.ofList (body.map Char.toLower)
  if word = "inf" ∨ word = "infinity" then some (.inf negative)
  else if word = "nan" then some .nan
  else (parseDecimal body).map fun q => ofLiteral negative (if negative then -q else q)

end PythonTexts
