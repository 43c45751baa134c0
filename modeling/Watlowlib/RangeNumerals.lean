import Watlowlib.OrderedMatching
import Watlowlib.ParameterLoader

/-! # The numerals of a range text

Decimal numerals as the tables write them, and what the number pattern of the loader takes of
them. -/
namespace RangeNumerals

open OrderedMatching ParameterLoader PythonTexts PythonValues

abbrev Digit := { c : Char // isDigit c = true }

def Digit.value (d : Digit) : ℕ := (digitValue d.1).getD 0

def charsOf (ds : List Digit) : List Char := ds.map (·.1)

def natOf (ds : List Digit) : ℕ := ofDigits (ds.map Digit.value)

structure DigitRun where
  first : Digit
  rest : List Digit

def DigitRun.digits (run : DigitRun) : List Digit := run.first :: run.rest

/-- The digits in front of the first thousands group. -/
inductive Lead where
  | one (a : Digit)
  | two (a b : Digit)
  | three (a b c : Digit)

def Lead.digits : Lead → List Digit
  | .one a => [a]
  | .two a b => [a, b]
  | .three a b c => [a, b, c]

structure Group where
  a : Digit
  b : Digit
  c : Digit

def Group.digits (g : Group) : List Digit := [g.a, g.b, g.c]

def Group.chars (g : Group) : List Char := ',' :: charsOf g.digits

/-- The integer digits: at most three and thousands groups, if any, or four and more without
groups. -/
inductive Whole where
  | grouped (lead : Lead) (groups : List Group)
  | plain (a b c d : Digit) (rest : List Digit)

namespace Whole

def digits : Whole → List Digit
  | .grouped lead groups => lead.digits ++ groups.flatMap Group.digits
  | .plain a b c d rest => a :: b :: c :: d :: rest

def chars : Whole → List Char
  | .grouped lead groups => charsOf lead.digits ++ groups.flatMap Group.chars
  | .plain a b c d rest => charsOf (a :: b :: c :: d :: rest)

def ofRun (run : DigitRun) : Whole :=
  match run.rest with
  | [] => .grouped (.one run.first) []
  | [b] => .grouped (.two run.first b) []
  | [b, c] => .grouped (.three run.first b c) []
  | b :: c :: d :: rest => .plain run.first b c d rest

@[simp] theorem ofRun_digits (run : DigitRun) : (ofRun run).digits = run.digits := by
  obtain ⟨a, rest⟩ := run
  match rest with
  | [] => rfl
  | [_] => rfl
  | [_, _] => rfl
  | _ :: _ :: _ :: _ => rfl

@[simp] theorem ofRun_chars (run : DigitRun) : (ofRun run).chars = charsOf run.digits := by
  obtain ⟨a, rest⟩ := run
  match rest with
  | [] => rfl
  | [_] => rfl
  | [_, _] => rfl
  | _ :: _ :: _ :: _ => rfl

end Whole

def fractionChars (fraction : Option DigitRun) : List Char :=
  fraction.elim [] fun f => '.' :: charsOf f.digits

def signChars (negative : Bool) : List Char := if negative then ['-'] else []

/-- A numeral without an exponent: an optional minus sign, integer digits, an optional fraction. -/
structure Mantissa where
  negative : Bool
  whole : Whole
  fraction : Option DigitRun

namespace Mantissa

def chars (m : Mantissa) : List Char :=
  signChars m.negative ++ (m.whole.chars ++ fractionChars m.fraction)

def magnitude (m : Mantissa) : ℚ :=
  natOf m.whole.digits +
    m.fraction.elim 0 fun f => (natOf f.digits : ℚ) / 10 ^ f.digits.length

def value (m : Mantissa) : ℚ := if m.negative then -m.magnitude else m.magnitude

/-- What `float` makes of it; a zero keeps its sign. -/
def double (m : Mantissa) : PyFloat := ofLiteral m.negative m.value

/-- Its number, rounded to a double; the two zeros are one number. -/
def float (m : Mantissa) : PyFloat := (ofRat m.value).unsigned

theorem double_unsigned (m : Mantissa) : m.double.unsigned = m.float := by
  rw [double, float, ofLiteral]
  split
  · rename_i h
    rw [h.2, ofRat_zero]
    rfl
  · rfl

end Mantissa

inductive ExponentSign where
  | none
  | plus
  | minus
  deriving DecidableEq

def ExponentSign.chars : ExponentSign → List Char
  | .none => []
  | .plus => ['+']
  | .minus => ['-']

structure Exponent where
  sign : ExponentSign
  run : DigitRun

namespace Exponent

def chars (e : Exponent) : List Char := 'e' :: (e.sign.chars ++ charsOf e.run.digits)

def toMantissa (e : Exponent) : Mantissa := ⟨decide (e.sign = .minus), .ofRun e.run, none⟩

def value (e : Exponent) : ℤ := applySign (decide (e.sign = .minus)) (natOf e.run.digits)

end Exponent

/-- A decimal numeral: a mantissa and an optional exponent. -/
structure Numeral where
  mantissa : Mantissa
  exponent : Option Exponent

namespace Numeral

def chars (n : Numeral) : List Char := n.mantissa.chars ++ n.exponent.elim [] Exponent.chars

def value (n : Numeral) : ℚ := n.mantissa.value * 10 ^ n.exponent.elim 0 Exponent.value

def float (n : Numeral) : PyFloat := (ofRat n.value).unsigned

end Numeral

section Reading

variable {p q : Pattern} {β γ : Type} {f : β → List Char} {g : γ → List Char}

theorem reads_charIf (f : Char → Bool) :
    Reads (charIf f) fun c : { c : Char // f c = true } => [c.1] :=
  reads_one rfl fun _ _ => rfl

theorem reads_char (c : Char) : Reads (charIf (· == c)) fun _ : Unit => [c] := by
  refine (reads_charIf _).congr ?_ ?_
  · rintro ⟨c', hc'⟩
    exact ⟨(), congrArg (fun c => [c]) (beq_iff_eq.mp hc')⟩
  · rintro ⟨⟩
    exact ⟨⟨c, beq_self_eq_true c⟩, rfl⟩

theorem reads_inOrder (hp : Reads p f) (hq : Reads q g) :
    Reads (inOrder p q) fun x : β × γ => f x.1 ++ g x.2 := hp.seq hq

theorem reads_firstOf (hp : Reads p f) (hq : Reads q g) :
    Reads (firstOf p q) (Sum.elim f g) := hp.alt hq

theorem reads_optional (hp : Reads p f) :
    Reads (optional p) fun x : Option β => x.elim [] f := hp.optional

theorem reads_manyOf (hp : Reads p f) (hne : ∀ b, f b ≠ []) :
    Reads (manyOf p) fun bs : List β => bs.flatMap f :=
  Reads.star (fun _ => rfl) (fun _ _ => rfl) hp hne

theorem reads_literal (s : String) : Reads (literal s) fun _ : Unit => s.toList := by
  have h : ∀ cs : List Char, Reads (cs.foldr (fun c p => inOrder (charIf (· == c)) p)
      fun cs => [cs]) fun _ : Unit => cs := by
    intro cs
    induction cs with
    | nil => exact reads_empty
    | cons c cs ih =>
      refine (reads_inOrder (reads_char c) ih).congr ?_ ?_
      · rintro ⟨⟨⟩, ⟨⟩⟩
        exact ⟨(), rfl⟩
      · rintro ⟨⟩
        exact ⟨((), ()), rfl⟩
  exact h s.toList

theorem reads_digit : Reads digit fun d : Digit => [d.1] := reads_charIf isDigit

theorem charsOf_eq_flatMap (ds : List Digit) : charsOf ds = ds.flatMap fun d => [d.1] := by
  rw [charsOf, List.map_eq_flatMap]

theorem reads_digits : Reads digits fun run : DigitRun => charsOf run.digits := by
  have hmany := reads_manyOf reads_digit fun d => List.cons_ne_nil d.1 []
  refine (reads_inOrder reads_digit hmany).congr ?_ ?_
  · rintro ⟨a, rest⟩
    exact ⟨⟨a, rest⟩, by simp [DigitRun.digits, charsOf_eq_flatMap]⟩
  · rintro ⟨a, rest⟩
    exact ⟨(a, rest), by simp [DigitRun.digits, charsOf_eq_flatMap]⟩

theorem reads_decimals : Reads decimals fractionChars := by
  have hpoint := reads_inOrder (reads_literal ".") reads_digits
  refine (reads_optional hpoint).congr ?_ ?_
  · rintro (_ | ⟨⟨⟩, run⟩)
    · exact ⟨none, rfl⟩
    · exact ⟨some run, rfl⟩
  · rintro (_ | run)
    · exact ⟨none, rfl⟩
    · exact ⟨some ((), run), rfl⟩

theorem reads_sign : Reads (optional (literal "-")) signChars := by
  refine (reads_optional (reads_literal "-")).congr ?_ ?_
  · rintro (_ | ⟨⟩)
    · exact ⟨false, rfl⟩
    · exact ⟨true, rfl⟩
  · rintro (_ | _)
    · exact ⟨none, rfl⟩
    · exact ⟨some (), rfl⟩

def leadPattern : Pattern := inOrder digit (optional (inOrder digit (optional digit)))

def groupPattern : Pattern := inOrder (literal ",") (inOrder digit (inOrder digit digit))

theorem reads_lead : Reads leadPattern fun l : Lead => charsOf l.digits := by
  have hmore := reads_optional (reads_inOrder reads_digit (reads_optional reads_digit))
  refine (reads_inOrder reads_digit hmore).congr ?_ ?_
  · rintro ⟨a, _ | ⟨b, _ | c⟩⟩
    · exact ⟨.one a, rfl⟩
    · exact ⟨.two a b, rfl⟩
    · exact ⟨.three a b c, rfl⟩
  · rintro (a | ⟨a, b⟩ | ⟨a, b, c⟩)
    · exact ⟨(a, none), rfl⟩
    · exact ⟨(a, some (b, none)), rfl⟩
    · exact ⟨(a, some (b, some c)), rfl⟩

theorem reads_group : Reads groupPattern Group.chars := by
  have hdigits := reads_inOrder reads_digit (reads_inOrder reads_digit reads_digit)
  refine (reads_inOrder (reads_literal ",") hdigits).congr ?_ ?_
  · rintro ⟨⟨⟩, a, b, c⟩
    exact ⟨⟨a, b, c⟩, rfl⟩
  · rintro ⟨a, b, c⟩
    exact ⟨((), a, b, c), rfl⟩

theorem reads_groups : Reads (manyOf groupPattern) fun gs : List Group => gs.flatMap Group.chars :=
  reads_manyOf reads_group fun _ => List.cons_ne_nil ',' _

/-- The first alternative of `_NUMBER`. -/
def groupedPattern : Pattern :=
  inOrder (optional (literal "-"))
    (inOrder leadPattern (inOrder (manyOf groupPattern) decimals))

/-- The second alternative. -/
def plainPattern : Pattern := inOrder (optional (literal "-")) (inOrder digits decimals)

theorem inOrder_assoc (p q s : Pattern) :
    inOrder (inOrder p q) s = inOrder p (inOrder q s) := by
  funext cs
  exact List.flatMap_assoc

theorem number_eq : number = firstOf groupedPattern plainPattern := by
  rw [groupedPattern, leadPattern, inOrder_assoc]
  rfl

theorem reads_number : Reads number Mantissa.chars := by
  have hgrouped := reads_inOrder reads_sign
    (reads_inOrder reads_lead (reads_inOrder reads_groups reads_decimals))
  have hplain := reads_inOrder reads_sign (reads_inOrder reads_digits reads_decimals)
  rw [number_eq]
  refine (reads_firstOf hgrouped hplain).congr ?_ ?_
  · rintro (⟨negative, lead, groups, fraction⟩ | ⟨negative, run, fraction⟩)
    · exact ⟨⟨negative, .grouped lead groups, fraction⟩, by simp [Mantissa.chars, Whole.chars]⟩
    · exact ⟨⟨negative, .ofRun run, fraction⟩, by simp [Mantissa.chars]⟩
  · rintro ⟨negative, lead | ⟨a, b, c, d, rest⟩, fraction⟩
    · exact ⟨.inl (negative, lead, _, fraction), by simp [Mantissa.chars, Whole.chars]; rfl⟩
    · exact ⟨.inr (negative, ⟨a, b :: c :: d :: rest⟩, fraction), rfl⟩

end Reading

section Preference

variable {p q : Pattern} {cs m r : List Char}

/-- The text does not go on with a character of the kind. -/
def NotAhead (P : Char → Prop) (r : List Char) : Prop := ∀ c ∈ r.head?, ¬ P c

theorem notAhead_cons {P : Char → Prop} {c : Char} (h : ¬ P c) : NotAhead P (c :: r) := by
  intro c' hc
  cases hc
  exact h

theorem charIf_eq_nil {f : Char → Bool} (h : NotAhead (fun c => f c = true) r) :
    charIf f r = [] := by
  cases r with
  | nil => rfl
  | cons c r => exact if_neg (h c rfl)

theorem inOrder_eq_nil (h : p r = []) : inOrder p q r = [] := by
  rw [inOrder, h, List.flatMap_nil]

theorem first_charIf {f : Char → Bool} {c : Char} (h : f c = true) :
    First (charIf f) (c :: r) r := by
  rw [First, charIf, if_pos h]
  rfl

theorem first_inOrder (hp : First p cs m) (hq : First q m r) : First (inOrder p q) cs r :=
  hp.seq hq

theorem first_optional (hp : First p cs r) : First (optional p) cs r := hp.left _

theorem first_skip (hp : p cs = []) : First (optional p) cs cs := First.right hp first_empty

theorem first_digit (d : Digit) : First digit (d.1 :: r) r := first_charIf d.2

/-- A character that a numeral without exponent may go on with. -/
def GoesOn (c : Char) : Prop := isDigit c = true ∨ c = ',' ∨ c = '.'

instance (c : Char) : Decidable (GoesOn c) := inferInstanceAs (Decidable (_ ∨ _))

theorem notAhead_digit (h : NotAhead GoesOn r) : NotAhead (fun c => isDigit c = true) r :=
  fun c hc hd => h c hc (Or.inl hd)

theorem literal_eq_nil {c : Char} {s : String} {cs : List Char} (hs : s.toList = c :: cs)
    (h : NotAhead (· = c) r) : literal s r = [] := by
  rw [literal, hs]
  exact inOrder_eq_nil (charIf_eq_nil fun c' hc' heq => h c' hc' (beq_iff_eq.mp heq))

theorem first_minus : First (literal "-") ('-' :: r) r :=
  first_inOrder (first_charIf (beq_self_eq_true '-')) first_empty

theorem first_sign (negative : Bool) (h : NotAhead (· = '-') r) :
    First (optional (literal "-")) (signChars negative ++ r) r := by
  cases negative with
  | true => exact first_optional first_minus
  | false => exact first_skip (literal_eq_nil rfl h)

theorem first_manyDigits (ds : List Digit) (h : NotAhead (fun c => isDigit c = true) r) (n : ℕ)
    (hn : ds.length ≤ n) : First (many digit n) (charsOf ds ++ r) r := by
  induction ds generalizing n with
  | nil => exact first_star_nil n (fun _ => rfl) (fun _ _ => rfl) (charIf_eq_nil h)
  | cons d ds ih =>
    cases n with
    | zero => cases hn
    | succ n =>
      exact First.star_cons (fun _ _ => rfl) (first_digit d) (ih n (Nat.le_of_succ_le_succ hn))

theorem first_digits (run : DigitRun) (h : NotAhead (fun c => isDigit c = true) r) :
    First digits (charsOf run.digits ++ r) r := by
  refine first_inOrder (first_digit run.first) (first_manyDigits run.rest h _ ?_)
  simp

theorem first_decimals (fraction : Option DigitRun) (h : NotAhead GoesOn r) :
    First decimals (fractionChars fraction ++ r) r := by
  cases fraction with
  | none =>
    apply first_skip
    exact inOrder_eq_nil (literal_eq_nil rfl fun c hc heq => h c hc (Or.inr (Or.inr heq)))
  | some run =>
    apply first_optional
    refine first_inOrder ?_ (first_digits run (notAhead_digit h))
    exact first_inOrder (first_charIf (beq_self_eq_true '.')) first_empty

theorem first_lead (lead : Lead)
    (h : NotAhead (fun c => isDigit c = true) r ∨ ∃ a b c, lead = .three a b c) :
    First leadPattern (charsOf lead.digits ++ r) r := by
  cases lead with
  | one a =>
    refine first_inOrder (first_digit a) (first_skip (inOrder_eq_nil (charIf_eq_nil ?_)))
    exact h.resolve_right nofun
  | two a b =>
    refine first_inOrder (first_digit a) (first_optional (first_inOrder (first_digit b) ?_))
    exact first_skip (charIf_eq_nil (h.resolve_right nofun))
  | three a b c =>
    refine first_inOrder (first_digit a) (first_optional (first_inOrder (first_digit b) ?_))
    exact first_optional (first_digit c)

theorem first_group (g : Group) : First groupPattern (g.chars ++ r) r := by
  refine first_inOrder (m := charsOf g.digits ++ r) ?_ ?_
  · exact first_inOrder (first_charIf (beq_self_eq_true ',')) first_empty
  · exact first_inOrder (first_digit g.a) (first_inOrder (first_digit g.b) (first_digit g.c))

theorem first_manyGroups (gs : List Group) (h : NotAhead (· = ',') r) (n : ℕ)
    (hn : gs.length ≤ n) : First (many groupPattern n) (gs.flatMap Group.chars ++ r) r := by
  induction gs generalizing n with
  | nil =>
    refine first_star_nil n (fun _ => rfl) (fun _ _ => rfl) ?_
    exact inOrder_eq_nil (literal_eq_nil rfl h)
  | cons g gs ih =>
    cases n with
    | zero => cases hn
    | succ n =>
      rw [List.flatMap_cons, List.append_assoc]
      exact First.star_cons (fun _ _ => rfl) (first_group g) (ih n (Nat.le_of_succ_le_succ hn))

theorem length_le_groups (gs : List Group) : gs.length ≤ (gs.flatMap Group.chars).length := by
  induction gs with
  | nil => exact Nat.le_refl _
  | cons g gs ih =>
    simp only [List.flatMap_cons, List.length_append, List.length_cons, Group.chars]
    omega

theorem first_groups (gs : List Group) (h : NotAhead (· = ',') r) :
    First (manyOf groupPattern) (gs.flatMap Group.chars ++ r) r := by
  refine first_manyGroups gs h _ ?_
  have hlen := length_le_groups gs
  rw [List.length_append]
  omega

theorem fraction_notAhead {P : Char → Prop} (fraction : Option DigitRun) (hpoint : ¬ P '.')
    (h : NotAhead P r) : NotAhead P (fractionChars fraction ++ r) := by
  cases fraction with
  | none => exact h
  | some run =>
    rintro _ ⟨⟩
    exact hpoint

theorem groups_notAhead {P : Char → Prop} (gs : List Group) (hcomma : ¬ P ',')
    (h : NotAhead P r) : NotAhead P (gs.flatMap Group.chars ++ r) := by
  cases gs with
  | nil => exact h
  | cons g gs =>
    rintro _ ⟨⟩
    exact hcomma

theorem digit_ne (d : Digit) {c : Char} (hc : isDigit c = false) : d.1 ≠ c := by
  rintro rfl
  exact absurd d.2 (by simp [hc])

theorem whole_notAhead_minus (w : Whole) : NotAhead (· = '-') (w.chars ++ r) := by
  have h : ∃ d : Digit, (w.chars ++ r).head? = some d.1 := by
    cases w with
    | grouped lead groups => cases lead <;> exact ⟨_, rfl⟩
    | plain a b c d rest => exact ⟨a, rfl⟩
  obtain ⟨d, hd⟩ := h
  intro c hc heq
  rw [hd] at hc
  exact digit_ne d (c := '-') (by decide) ((Option.some.inj hc).trans heq)

theorem first_number_grouped (negative : Bool) (lead : Lead) (groups : List Group)
    (fraction : Option DigitRun) (h : NotAhead GoesOn r) :
    First number ((Mantissa.mk negative (.grouped lead groups) fraction).chars ++ r) r := by
  have hrest := fraction_notAhead fraction (P := (· = ',')) (by decide)
    fun c hc heq => h c hc (Or.inr (Or.inl heq))
  have hdigit : NotAhead (fun c => isDigit c = true)
      (groups.flatMap Group.chars ++ (fractionChars fraction ++ r)) :=
    groups_notAhead groups (by decide) (fraction_notAhead fraction (by decide) (notAhead_digit h))
  rw [number_eq]
  refine First.left plainPattern ?_
  simp only [Mantissa.chars, List.append_assoc]
  refine first_inOrder (first_sign negative (whole_notAhead_minus _)) ?_
  simp only [Whole.chars, List.append_assoc]
  refine first_inOrder (first_lead lead (Or.inl hdigit)) ?_
  exact first_inOrder (first_groups groups hrest) (first_decimals fraction h)

theorem first_number_plain (negative : Bool) (a b c d : Digit) (rest : List Digit)
    (fraction : Option DigitRun) :
    First number ((Mantissa.mk negative (.plain a b c d rest) fraction).chars ++ r)
      (charsOf (d :: rest) ++ (fractionChars fraction ++ r)) := by
  rw [number_eq]
  refine First.left plainPattern ?_
  simp only [Mantissa.chars, List.append_assoc]
  refine first_inOrder (first_sign negative (whole_notAhead_minus _)) ?_
  refine first_inOrder (first_lead (.three a b c) (Or.inr ⟨a, b, c, rfl⟩)) ?_
  have hcomma : NotAhead (· = ',') (charsOf (d :: rest) ++ (fractionChars fraction ++ r)) := by
    rintro _ ⟨⟩
    exact digit_ne d (by decide)
  have hpoint : NotAhead (· = '.') (charsOf (d :: rest) ++ (fractionChars fraction ++ r)) := by
    rintro _ ⟨⟩
    exact digit_ne d (by decide)
  refine first_inOrder (first_groups [] hcomma) (first_skip ?_)
  exact inOrder_eq_nil (literal_eq_nil rfl hpoint)

end Preference

end RangeNumerals
