import Mathlib.Tactic.FieldSimp
import Watlowlib.RangeNumerals

/-! # The bounds that captured numerals denote

A numeral that the range pattern captures loses its thousands separators and goes through
`float()`. -/
namespace RangeBounds

open OrderedMatching ParameterLoader PythonTexts PythonValues RangeNumerals

section Characters

theorem space_not_digit {c : Char} (h : isSpace c = true) : isDigit c = false := by
  have hnone : ∀ n ∈ [0x09, 0x0a, 0x0b, 0x0c, 0x0d, 0x1c, 0x1d, 0x1e, 0x1f, 0x20, 0x85, 0xa0,
      0x1680, 0x2000, 0x2001, 0x2002, 0x2003, 0x2004, 0x2005, 0x2006, 0x2007, 0x2008, 0x2009,
      0x200a, 0x2028, 0x2029, 0x202f, 0x205f, 0x3000],
      digitZeros.find? (fun z => decide (z ≤ n ∧ n < z + 10)) = none := by decide
  rw [isDigit, digitValue, hnone c.toNat (List.contains_iff_mem.mp h)]
  rfl

theorem blank_not_digit {c : Char} (h : isBlank c = true) : isDigit c = false := by
  rw [isBlank, Bool.or_eq_true, Bool.or_eq_true, decide_eq_true_eq, beq_iff_eq,
    Bool.and_eq_true] at h
  rcases h with (⟨hlow, hhigh⟩ | rfl) | ⟨-, hspace⟩
  · apply space_not_digit
    rw [isSpace, List.contains_iff_mem]
    have hmem : c.toNat ∈ [0x09, 0x0a, 0x0b, 0x0c, 0x0d] := by simp; omega
    simp only [List.mem_cons] at hmem ⊢
    tauto
  · decide
  · exact space_not_digit hspace

theorem digit_toLower (d : Digit) : d.1.toLower = d.1 := by
  have hnone : ∀ n ∈ List.range' 65 26,
      digitZeros.find? (fun z => decide (z ≤ n ∧ n < z + 10)) = none := by decide
  have hupper : ¬ (d.1.val ≥ 'A'.val ∧ d.1.val ≤ 'Z'.val) := by
    intro hupper
    have hmem : d.1.toNat ∈ List.range' 65 26 := by
      have hlow : 65 ≤ d.1.toNat := UInt32.le_iff_toNat_le.mp hupper.1
      have hhigh : d.1.toNat ≤ 90 := UInt32.le_iff_toNat_le.mp hupper.2
      rw [List.mem_range'_1]
      omega
    have hdigit := d.2
    rw [isDigit, digitValue, hnone _ hmem] at hdigit
    cases hdigit
  exact dif_neg hupper

theorem digitValue_eq (d : Digit) : digitValue d.1 = some d.value := by
  obtain ⟨v, hv⟩ := Option.isSome_iff_exists.mp d.2
  rw [Digit.value, hv]
  rfl

theorem digitRun_charsOf (run : DigitRun) :
    digitRun (charsOf run.digits) = some (run.digits.map Digit.value) := by
  obtain ⟨first, rest⟩ := run
  induction rest generalizing first with
  | nil => simp [DigitRun.digits, charsOf, digitRun, digitValue_eq]
  | cons d rest ih =>
    have hne : d.1 ≠ '_' := digit_ne d (by decide)
    have hrest := ih d
    simp only [DigitRun.digits, charsOf, List.map_cons] at hrest ⊢
    rw [digitRun, digitValue_eq, hrest]
    · rfl
    · exact fun h => by cases h
    · intro cs h
      exact hne (List.cons.inj h).1

end Characters

section Bounds

variable {cs : List Char}

theorem stripBy_eq {f : Char → Bool} (h : ∀ c ∈ cs, f c = false) : stripBy f cs = cs := by
  have hfront : ∀ {cs : List Char}, (∀ c ∈ cs, f c = false) → cs.dropWhile f = cs := by
    intro cs h
    cases cs with
    | nil => rfl
    | cons c cs => rw [List.dropWhile_cons_of_neg (by simp [h c List.mem_cons_self])]
  rw [stripBy, hfront h, hfront fun c hc => h c (List.mem_reverse.mp hc), List.reverse_reverse]

/-- The characters of a numeral without exponent. -/
def NumeralChar (c : Char) : Prop := isDigit c = true ∨ c = '-' ∨ c = ',' ∨ c = '.'

instance (c : Char) : Decidable (NumeralChar c) := inferInstanceAs (Decidable (_ ∨ _))

theorem charsOf_digit {ds : List Digit} {c : Char} (h : c ∈ charsOf ds) : isDigit c = true := by
  obtain ⟨d, -, rfl⟩ := List.mem_map.mp h
  exact d.2

theorem signChars_mem {negative : Bool} {c : Char} (h : c ∈ signChars negative) : c = '-' := by
  cases negative with
  | true => exact List.mem_singleton.mp h
  | false => cases h

theorem fractionChars_mem {fraction : Option DigitRun} {c : Char}
    (h : c ∈ fractionChars fraction) : isDigit c = true ∨ c = '.' := by
  cases fraction with
  | none => cases h
  | some run =>
    rcases List.mem_cons.mp h with rfl | h
    · exact Or.inr rfl
    · exact Or.inl (charsOf_digit h)

theorem whole_mem {w : Whole} {c : Char} (h : c ∈ w.chars) : isDigit c = true ∨ c = ',' := by
  cases w with
  | plain a b c d rest => exact Or.inl (charsOf_digit h)
  | grouped lead groups =>
    rcases List.mem_append.mp h with h | h
    · exact Or.inl (charsOf_digit h)
    · obtain ⟨g, -, hg⟩ := List.mem_flatMap.mp h
      rcases List.mem_cons.mp hg with rfl | hg
      · exact Or.inr rfl
      · exact Or.inl (charsOf_digit hg)

theorem mantissa_mem {m : Mantissa} {c : Char} (h : c ∈ m.chars) : NumeralChar c := by
  rcases List.mem_append.mp h with h | h
  · exact Or.inr (Or.inl (signChars_mem h))
  rcases List.mem_append.mp h with h | h
  · rcases whole_mem h with h | h
    · exact Or.inl h
    · exact Or.inr (Or.inr (Or.inl h))
  · rcases fractionChars_mem h with h | h
    · exact Or.inl h
    · exact Or.inr (Or.inr (Or.inr h))

/-- The text of a numeral without its thousands separators. -/
def ungrouped (m : Mantissa) : List Char := charsOf m.whole.digits ++ fractionChars m.fraction

theorem filter_charsOf (ds : List Digit) : (charsOf ds).filter (· ≠ ',') = charsOf ds := by
  rw [List.filter_eq_self]
  intro c hc
  have hdigit := charsOf_digit hc
  apply decide_eq_true
  rintro rfl
  cases hdigit

theorem filter_whole (w : Whole) : w.chars.filter (· ≠ ',') = charsOf w.digits := by
  cases w with
  | plain a b c d rest => exact filter_charsOf _
  | grouped lead groups =>
    have hgroups : (groups.flatMap Group.chars).filter (· ≠ ',') =
        charsOf (groups.flatMap Group.digits) := by
      induction groups with
      | nil => rfl
      | cons g gs ih =>
        rw [List.flatMap_cons, List.filter_append, ih, Group.chars,
          List.filter_cons_of_neg (by simp), filter_charsOf, List.flatMap_cons, charsOf, charsOf,
          charsOf, List.map_append]
    rw [Whole.chars, List.filter_append, filter_charsOf, hgroups, Whole.digits, charsOf, charsOf,
      charsOf, List.map_append]

theorem filter_mantissa (m : Mantissa) :
    m.chars.filter (· ≠ ',') = signChars m.negative ++ ungrouped m := by
  have hsign : (signChars m.negative).filter (· ≠ ',') = signChars m.negative := by
    cases m.negative <;> rfl
  have hfraction : (fractionChars m.fraction).filter (· ≠ ',') = fractionChars m.fraction := by
    cases m.fraction with
    | none => rfl
    | some run =>
      rw [fractionChars, Option.elim, List.filter_cons_of_pos (by decide), filter_charsOf]
  rw [Mantissa.chars, List.filter_append, List.filter_append, hsign, filter_whole, hfraction,
    ungrouped]

theorem whole_digits_run (w : Whole) : ∃ run : DigitRun, w.digits = run.digits := by
  cases w with
  | plain a b c d rest => exact ⟨⟨a, b :: c :: d :: rest⟩, rfl⟩
  | grouped lead groups => cases lead <;> exact ⟨⟨_, _⟩, rfl⟩

theorem span_append {P : Char → Bool} {xs ys : List Char} (h : ∀ c ∈ xs, P c = true)
    (hys : ys.head?.all (fun c => !P c) = true) : (xs ++ ys).span P = (xs, ys) := by
  rw [List.span_eq_takeWhile_dropWhile, List.takeWhile_append_of_pos h,
    List.dropWhile_append_of_pos h]
  cases ys with
  | nil => simp
  | cons y ys =>
    have hy : ¬ P y = true := by simpa using hys
    simp [hy]

theorem ungrouped_mem {m : Mantissa} {c : Char} (h : c ∈ ungrouped m) :
    isDigit c = true ∨ c = '.' := by
  rcases List.mem_append.mp h with h | h
  · exact Or.inl (charsOf_digit h)
  · exact fractionChars_mem h

theorem foldl_digits (ds : List ℕ) (n : ℕ) :
    ds.foldl (fun n d => 10 * n + d) n = n * 10 ^ ds.length + ofDigits ds := by
  induction ds generalizing n with
  | nil => simp [ofDigits]
  | cons d ds ih =>
    rw [ofDigits, List.foldl_cons, List.foldl_cons, ih, ih, List.length_cons, pow_succ]
    ring

theorem ofDigits_append (ds es : List ℕ) :
    ofDigits (ds ++ es) = ofDigits ds * 10 ^ es.length + ofDigits es := by
  rw [ofDigits, List.foldl_append, foldl_digits]
  rfl

theorem bne_of_digit {c x : Char} (h : isDigit c = true) (hx : isDigit x = false) :
    (c != x) = true := by
  rw [bne_iff_ne]
  rintro rfl
  rw [h] at hx
  cases hx

theorem optionalRun_charsOf (run : DigitRun) :
    optionalRun (charsOf run.digits) = some (run.digits.map Digit.value) := by
  rw [optionalRun, digitRun_charsOf]
  exact if_neg (List.cons_ne_nil _ _)

theorem span_exponent (m : Mantissa) :
    (ungrouped m).span (fun c => c != 'e' && c != 'E') = (ungrouped m, []) := by
  have hall : ∀ c ∈ ungrouped m, (c != 'e' && c != 'E') = true := by
    intro c hc
    rcases ungrouped_mem hc with hd | rfl
    · rw [bne_of_digit hd (by decide), bne_of_digit hd (by decide)]
      rfl
    · rfl
  have h : (ungrouped m ++ []).span _ = (ungrouped m, []) := span_append hall rfl
  rwa [List.append_nil] at h

theorem span_point (m : Mantissa) :
    (ungrouped m).span (· != '.') = (charsOf m.whole.digits, fractionChars m.fraction) := by
  apply span_append
  · exact fun c hc => bne_of_digit (charsOf_digit hc) (by decide)
  · cases m.fraction <;> rfl

theorem parseDecimal_ungrouped (m : Mantissa) :
    parseDecimal (ungrouped m) = some m.magnitude := by
  obtain ⟨run, hrun⟩ := whole_digits_run m.whole
  have hwhole : optionalRun (charsOf m.whole.digits) = some (m.whole.digits.map Digit.value) := by
    rw [hrun, optionalRun_charsOf]
  have hne : m.whole.digits.map Digit.value ≠ [] := by
    rw [hrun]
    exact List.cons_ne_nil _ _
  rw [parseDecimal, span_exponent]
  simp only [span_point, hwhole, Option.bind_eq_bind, Option.bind_some]
  cases hf : m.fraction with
  | none =>
    simp [fractionChars, optionalRun, hne, parseExponent, Mantissa.magnitude, hf, natOf]
  | some f =>
    have hdrop : (fractionChars (some f)).drop 1 = charsOf f.digits := rfl
    rw [hdrop, optionalRun_charsOf]
    simp [hne, parseExponent, Mantissa.magnitude, hf, natOf, ofDigits_append, add_mul]
    field_simp

theorem signed_mem {m : Mantissa} {c : Char} (h : c ∈ signChars m.negative ++ ungrouped m) :
    isDigit c = true ∨ c = '-' ∨ c = '.' := by
  rcases List.mem_append.mp h with h | h
  · exact Or.inr (Or.inl (signChars_mem h))
  · rcases ungrouped_mem h with h | h
    · exact Or.inl h
    · exact Or.inr (Or.inr h)

theorem ungrouped_head (m : Mantissa) :
    ∃ (d : Digit) (cs : List Char), ungrouped m = d.1 :: cs := by
  obtain ⟨run, hrun⟩ := whole_digits_run m.whole
  exact ⟨run.first, charsOf run.rest ++ fractionChars m.fraction, by
    rw [ungrouped, hrun]
    rfl⟩

theorem splitSign_signed (m : Mantissa) :
    splitSign (signChars m.negative ++ ungrouped m) = (m.negative, ungrouped m) := by
  cases hneg : m.negative with
  | true => rfl
  | false =>
    obtain ⟨d, cs, h⟩ := ungrouped_head m
    rw [h, signChars]
    change splitSign (d.1 :: cs) = _
    rw [splitSign]
    · exact fun cs' h' => digit_ne d (by decide) (List.cons.inj h').1
    · exact fun cs' h' => digit_ne d (by decide) (List.cons.inj h').1

theorem ungrouped_not_word (m : Mantissa) {c : Char} {word : String}
    (hword : word.toList.head? = some c) (hc : isDigit c = false) :
    String.ofList ((ungrouped m).map Char.toLower) ≠ word := by
  obtain ⟨d, cs, h⟩ := ungrouped_head m
  rintro rfl
  rw [String.toList_ofList, h, List.map_cons, List.head?_cons, digit_toLower] at hword
  exact digit_ne d hc (Option.some.inj hword)

theorem boundOf_mantissa (m : Mantissa) : boundOf m.chars = some m.double := by
  have hstrip : stripBy isBlank (signChars m.negative ++ ungrouped m) =
      signChars m.negative ++ ungrouped m := by
    apply stripBy_eq
    intro c hc
    rcases signed_mem hc with hd | rfl | rfl
    · by_contra hblank
      rw [Bool.not_eq_false] at hblank
      rw [blank_not_digit hblank] at hd
      cases hd
    · decide
    · decide
  rw [boundOf, filter_mantissa, parseFloat, String.toList_ofList, hstrip, splitSign_signed]
  simp only
  rw [if_neg ?_, if_neg (ungrouped_not_word m rfl (by decide)), parseDecimal_ungrouped]
  · rfl
  · rintro (h | h)
    · exact ungrouped_not_word m rfl (by decide) h
    · exact ungrouped_not_word m rfl (by decide) h

end Bounds

end RangeBounds
