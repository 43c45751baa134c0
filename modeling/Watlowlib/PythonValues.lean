import Mathlib.Data.Rat.Defs
import Mathlib.Algebra.Order.Ring.Rat

/-! # Python values

The numbers and texts that requests and replies carry, with Python's own comparison of them.
A float is a rational, the negative zero, an infinity or a NaN. -/
namespace PythonValues

abbrev Bytes := List UInt8

inductive PyFloat where
  | nan
  | inf (negative : Bool)
  | negZero
  | finite (q : ℚ)
  deriving DecidableEq, Repr

namespace PyFloat

def signedZero (negative : Bool) : PyFloat := if negative then .negZero else .finite 0

/-- The float of a magnitude behind a sign bit. -/
def ofMagnitude (negative : Bool) (m : ℚ) : PyFloat :=
  if m = 0 then signedZero negative else .finite (if negative then -m else m)

/-- The sign bit; that of a NaN plays no part. -/
def isNegative : PyFloat → Bool
  | .nan => false
  | .inf negative => negative
  | .negZero => true
  | .finite q => decide (q < 0)

/-- The number that a float is compared as: the two zeros are one. -/
def unsigned : PyFloat → PyFloat
  | .nan => .nan
  | .inf negative => .inf negative
  | .negZero => .finite 0
  | .finite q => .finite q

@[simp] theorem unsigned_eq_nan {x : PyFloat} : x.unsigned = .nan ↔ x = .nan := by
  cases x <;> simp [unsigned]

/-- IEEE `<`: false as soon as one side is a NaN. -/
def Lt : PyFloat → PyFloat → Prop
  | .nan, _ => False
  | _, .nan => False
  | .inf m, .inf n => m = true ∧ n = false
  | .inf m, _ => m = true
  | _, .inf n => n = false
  | .negZero, .negZero => False
  | .negZero, .finite q => 0 < q
  | .finite p, .negZero => p < 0
  | .finite p, .finite q => p < q

/-- IEEE `<=`: false as soon as one side is a NaN. -/
def Le : PyFloat → PyFloat → Prop
  | .nan, _ => False
  | _, .nan => False
  | .inf m, .inf n => m = true ∨ n = false
  | .inf m, _ => m = true
  | _, .inf n => n = false
  | .negZero, .negZero => True
  | .negZero, .finite q => 0 ≤ q
  | .finite p, .negZero => p ≤ 0
  | .finite p, .finite q => p ≤ q

instance (a b : PyFloat) : Decidable (Lt a b) :=
  match a, b with
  | .nan, _ => inferInstanceAs (Decidable False)
  | .inf _, .nan => inferInstanceAs (Decidable False)
  | .negZero, .nan => inferInstanceAs (Decidable False)
  | .finite _, .nan => inferInstanceAs (Decidable False)
  | .inf m, .inf n => inferInstanceAs (Decidable (m = true ∧ n = false))
  | .inf m, .negZero => inferInstanceAs (Decidable (m = true))
  | .inf m, .finite _ => inferInstanceAs (Decidable (m = true))
  | .negZero, .inf n => inferInstanceAs (Decidable (n = false))
  | .finite _, .inf n => inferInstanceAs (Decidable (n = false))
  | .negZero, .negZero => inferInstanceAs (Decidable False)
  | .negZero, .finite q => inferInstanceAs (Decidable (0 < q))
  | .finite p, .negZero => inferInstanceAs (Decidable (p < 0))
  | .finite p, .finite q => inferInstanceAs (Decidable (p < q))

instance (a b : PyFloat) : Decidable (Le a b) :=
  match a, b with
  | .nan, _ => inferInstanceAs (Decidable False)
  | .inf _, .nan => inferInstanceAs (Decidable False)
  | .negZero, .nan => inferInstanceAs (Decidable False)
  | .finite _, .nan => inferInstanceAs (Decidable False)
  | .inf m, .inf n => inferInstanceAs (Decidable (m = true ∨ n = false))
  | .inf m, .negZero => inferInstanceAs (Decidable (m = true))
  | .inf m, .finite _ => inferInstanceAs (Decidable (m = true))
  | .negZero, .inf n => inferInstanceAs (Decidable (n = false))
  | .finite _, .inf n => inferInstanceAs (Decidable (n = false))
  | .negZero, .negZero => inferInstanceAs (Decidable True)
  | .negZero, .finite q => inferInstanceAs (Decidable (0 ≤ q))
  | .finite p, .negZero => inferInstanceAs (Decidable (p ≤ 0))
  | .finite p, .finite q => inferInstanceAs (Decidable (p ≤ q))

theorem not_lt_iff_le {a b : PyFloat} (ha : a ≠ .nan) (hb : b ≠ .nan) : ¬ Lt a b ↔ Le b a := by
  cases a with
  | nan => exact absurd rfl ha
  | inf m =>
    cases b with
    | nan => exact absurd rfl hb
    | inf n => cases m <;> cases n <;> simp [Lt, Le]
    | negZero => cases m <;> simp [Lt, Le]
    | finite q => cases m <;> simp [Lt, Le]
  | negZero =>
    cases b with
    | nan => exact absurd rfl hb
    | inf n => cases n <;> simp [Lt, Le]
    | negZero => simp [Lt, Le]
    | finite q => simp [Lt, Le]
  | finite p =>
    cases b with
    | nan => exact absurd rfl hb
    | inf n => cases n <;> simp [Lt, Le]
    | negZero => simp [Lt, Le]
    | finite q => simp [Lt, Le]

theorem not_nan_le (a : PyFloat) : ¬ Le .nan a := by simp [Le]

theorem not_le_nan (a : PyFloat) : ¬ Le a .nan := by cases a <;> simp [Le]

end PyFloat

/-- `int | float`; a `bool` is an `int` to Python and to every check on one. -/
inductive PyNum where
  | int (i : ℤ)
  | bool (b : Bool)
  | float (x : PyFloat)
  deriving DecidableEq, Repr

/-- The value a comparison sees: Python compares an `int` with a `float` exactly. -/
def PyNum.exact : PyNum → PyFloat
  | .int i => .finite i
  | .bool b => .finite (if b then 1 else 0)
  | .float x => x.unsigned

/-- `int | float | str`, the values a parameter is written with and read as. -/
inductive PyValue where
  | num (n : PyNum)
  | str (s : String)
  deriving DecidableEq, Repr

def PyValue.typeName : PyValue → String
  | .num (.int _) => "int"
  | .num (.bool _) => "bool"
  | .num (.float _) => "float"
  | .str _ => "str"

inductive Ident where
  | id (i : ℤ)
  | name (s : String)
  deriving DecidableEq, Repr

/-- One replacement field of an f-string, or the text around it. -/
inductive Piece where
  | text (s : String)
  | int (i : ℤ)
  | hex (width : ℕ) (i : ℤ)
  | bytesHex (b : Bytes)
  | bytesRepr (b : Bytes)
  | strRepr (s : String)
  | float (x : PyFloat)
  | floatFixed (digits : ℕ) (x : PyFloat)
  | value (v : PyValue)
  | valueRepr (v : PyValue)
  deriving DecidableEq, Repr

abbrev Message := List Piece

/-! ## Integers as texts -/

/-- The interpreter's limit on the digits of an integer text, read or written. -/
def maxIntDigits : ℕ := 4300

/-- `str` does not refuse the integer for its length. -/
def WritesInt (i : ℤ) : Prop := i.natAbs < 10 ^ maxIntDigits

/-- `n` has at most `k` digits. -/
def fewDigits : ℕ → ℕ → Bool
  | 0, n => n == 0
  | k + 1, n => decide (n < 10) || fewDigits k (n / 10)

theorem fewDigits_iff (k n : ℕ) : fewDigits k n = true ↔ n < 10 ^ k := by
  induction k generalizing n with
  | zero => simp [fewDigits]
  | succ k ih =>
    have hpow : 10 ≤ 10 ^ (k + 1) := by
      calc 10 = 10 ^ 1 := (Nat.pow_one 10).symm
        _ ≤ 10 ^ (k + 1) := Nat.pow_le_pow_right (by decide) (Nat.succ_le_succ (Nat.zero_le k))
    rw [fewDigits, Bool.or_eq_true, decide_eq_true_iff, ih, Nat.div_lt_iff_lt_mul (by decide),
      ← Nat.pow_succ]
    exact or_iff_right_of_imp fun h => lt_of_lt_of_le h hpow

instance (i : ℤ) : Decidable (WritesInt i) :=
  decidable_of_iff (fewDigits maxIntDigits i.natAbs = true) (fewDigits_iff _ _)

theorem writesInt_of_small {i : ℤ} (h : i.natAbs < 10 ^ 100) : WritesInt i :=
  lt_of_lt_of_le h (Nat.pow_le_pow_right (by decide) (by decide))

def Ident.Writes : Ident → Prop
  | .id i => WritesInt i
  | .name _ => True

instance : (x : Ident) → Decidable x.Writes
  | .id i => inferInstanceAs (Decidable (WritesInt i))
  | .name _ => isTrue trivial

def Piece.integer : Piece → Option ℤ
  | .int i => some i
  | .value (.num (.int i)) => some i
  | .valueRepr (.num (.int i)) => some i
  | _ => none

/-- The f-string can be made: none of its integers is too long to write. -/
def Message.Writes (message : Message) : Prop := ∀ i ∈ message.filterMap Piece.integer, WritesInt i

instance (message : Message) : Decidable message.Writes :=
  List.decidableBAll _ (message.filterMap Piece.integer)

end PythonValues
