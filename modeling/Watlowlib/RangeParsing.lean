import Watlowlib.RangeBounds

/-! # Reading a range text

What `_parse_range` makes of two numerals joined by `to`, and of a list of labels with codes. -/
namespace RangeParsing

open OrderedMatching ParameterLoader PythonTexts PythonValues RangeBounds RangeNumerals

section Separators

variable {r : List Char}

abbrev Space := { c : Char // isSpace c = true }

/-- What may stand between the two numbers of a range. -/
inductive Joint where
  | word
  | comma
  | hyphen

def Joint.chars : Joint → List Char
  | .word => ['t', 'o']
  | .comma => [',']
  | .hyphen => ['-']

structure Separator where
  before : List Space
  joint : Joint
  after : List Space

def spaceChars (spaces : List Space) : List Char := spaces.flatMap fun c => [c.1]

def Separator.chars (s : Separator) : List Char :=
  spaceChars s.before ++ (s.joint.chars ++ spaceChars s.after)

theorem reads_spaces : Reads spaces spaceChars :=
  reads_manyOf (reads_charIf isSpace) fun c => List.cons_ne_nil c.1 []

theorem reads_separator : Reads separator Separator.chars := by
  have hjoint : Reads (firstOf (literal "to") (firstOf (literal ",") (literal "-")))
      Joint.chars := by
    refine (reads_firstOf (reads_literal "to")
      (reads_firstOf (reads_literal ",") (reads_literal "-"))).congr ?_ ?_
    · rintro (⟨⟩ | ⟨⟩ | ⟨⟩)
      · exact ⟨.word, rfl⟩
      · exact ⟨.comma, rfl⟩
      · exact ⟨.hyphen, rfl⟩
    · rintro (_ | _ | _)
      · exact ⟨.inl (), rfl⟩
      · exact ⟨.inr (.inl ()), rfl⟩
      · exact ⟨.inr (.inr ()), rfl⟩
  refine (reads_inOrder reads_spaces (reads_inOrder hjoint reads_spaces)).congr ?_ ?_
  · rintro ⟨before, joint, after⟩
    exact ⟨⟨before, joint, after⟩, rfl⟩
  · rintro ⟨before, joint, after⟩
    exact ⟨(before, joint, after), rfl⟩

/-- A character that a separator may begin with. -/
def Joins (c : Char) : Prop := isSpace c = true ∨ c = 't' ∨ c = ',' ∨ c = '-'

instance (c : Char) : Decidable (Joins c) := inferInstanceAs (Decidable (_ ∨ _))

theorem separator_eq_nil (h : NotAhead Joins r) : separator r = [] := by
  rw [List.eq_nil_iff_forall_not_mem]
  intro rest hrest
  obtain ⟨⟨before, joint, after⟩, rfl⟩ := (reads_separator r rest).mp hrest
  cases before with
  | cons c before => exact h c.1 rfl (Or.inl c.2)
  | nil =>
    cases joint with
    | word => exact h 't' rfl (Or.inr (Or.inl rfl))
    | comma => exact h ',' rfl (Or.inr (Or.inr (Or.inl rfl)))
    | hyphen => exact h '-' rfl (Or.inr (Or.inr (Or.inr rfl)))

theorem digit_not_joins (d : Digit) : ¬ Joins d.1 := by
  rintro (h | h | h | h)
  · have hd := d.2
    rw [space_not_digit h] at hd
    cases hd
  all_goals exact digit_ne d (by decide) h

end Separators

section Search

variable {cs : List Char} {x : List Char × List Char}

theorem captured_append (w r : List Char) : captured (w ++ r) r = w := by
  simp [captured]

theorem mem_rangeMatches : x ∈ rangeMatches cs ↔ ∃ (lo : Mantissa) (s : Separator) (hi : Mantissa)
    (r : List Char), cs = lo.chars ++ (s.chars ++ (hi.chars ++ r)) ∧ x = (lo.chars, hi.chars) := by
  rw [rangeMatches]
  simp only [List.mem_flatMap, List.mem_map]
  constructor
  · rintro ⟨afterLo, hlo, beforeHi, hs, afterHi, hhi, rfl⟩
    obtain ⟨lo, rfl⟩ := (reads_number _ _).mp hlo
    obtain ⟨s, rfl⟩ := (reads_separator _ _).mp hs
    obtain ⟨hi, rfl⟩ := (reads_number _ _).mp hhi
    exact ⟨lo, s, hi, afterHi, rfl, by rw [captured_append, captured_append]⟩
  · rintro ⟨lo, s, hi, r, rfl, rfl⟩
    refine ⟨_, reads_number.mem lo _, _, reads_separator.mem s _, _, reads_number.mem hi r, ?_⟩
    rw [captured_append, captured_append]

theorem searchRange_eq_none :
    searchRange cs = none ↔ ∀ t, t <:+ cs → rangeMatches t = [] := by
  induction cs with
  | nil =>
    simp [searchRange]
  | cons c cs ih =>
    rw [searchRange, Option.or_eq_none_iff, List.head?_eq_none_iff, ih]
    simp only [List.suffix_cons_iff, forall_eq_or_imp]

theorem searchRange_captured (h : searchRange cs = some x) :
    ∃ lo hi : Mantissa, x = (lo.chars, hi.chars) := by
  have hmem : ∀ {t : List Char}, (rangeMatches t).head? = some x →
      ∃ lo hi : Mantissa, x = (lo.chars, hi.chars) := by
    intro t ht
    obtain ⟨lo, s, hi, r, -, hx⟩ := mem_rangeMatches.mp (List.mem_of_mem_head? ht)
    exact ⟨lo, hi, hx⟩
  induction cs with
  | nil => exact hmem h
  | cons c cs ih =>
    rw [searchRange, Option.or_eq_some_iff] at h
    rcases h with h | ⟨-, h⟩
    · exact hmem h
    · exact ih h

/-- The limits that `parse_range` finds, as numbers: the two zeros are one. -/
def limitsOf (v : Json) : Option (PyFloat × PyFloat) :=
  (parseRange v).map fun r => (r.1.unsigned, r.2.unsigned)

theorem limitsOf_search (h : searchRange cs = some x) (lo hi : Mantissa)
    (hx : x = (lo.chars, hi.chars)) :
    limitsOf (.str (String.ofList cs)) = some (lo.float, hi.float) := by
  subst hx
  rw [limitsOf, parseRange, String.toList_ofList, h]
  simp [boundOf_mantissa, Mantissa.double_unsigned]

theorem parseRange_eq_none :
    parseRange (.str (String.ofList cs)) = none ↔ searchRange cs = none := by
  cases h : searchRange cs with
  | none => simp [parseRange, h]
  | some x =>
    obtain ⟨lo, hi, rfl⟩ := searchRange_captured h
    simp [parseRange, h, boundOf_mantissa]

theorem searchRange_first (h : (rangeMatches cs).head? = some x) : searchRange cs = some x := by
  cases cs with
  | nil => exact h
  | cons c cs => rw [searchRange, h, Option.some_or]

theorem whole_head (w : Whole) : ∃ (d : Digit) (cs : List Char), w.chars = d.1 :: cs := by
  cases w with
  | grouped lead groups => cases lead <;> exact ⟨_, _, rfl⟩
  | plain a b c d rest => exact ⟨a, _, rfl⟩

theorem mantissa_head (m : Mantissa) :
    ∃ (d : Digit) (cs : List Char), m.chars = signChars m.negative ++ d.1 :: cs := by
  obtain ⟨d, cs, h⟩ := whole_head m.whole
  exact ⟨d, cs ++ fractionChars m.fraction, by rw [Mantissa.chars, h, List.cons_append]⟩

theorem mantissa_ne_nil (m : Mantissa) : m.chars ≠ [] := by
  obtain ⟨d, cs, h⟩ := mantissa_head m
  simp [h]

theorem numeral_end {m : Mantissa} {c : Char} {s rest r : List Char}
    (hs : ∀ c ∈ s.tail, ¬ Joins c) (hc : ¬ NumeralChar c) (h : s ++ c :: rest = m.chars ++ r) :
    r = c :: rest ∨ NotAhead Joins r := by
  rcases List.append_eq_append_iff.mp h with ⟨more, hmore, hrest⟩ | ⟨more, hmore, rfl⟩
  · cases more with
    | nil => exact Or.inl hrest.symm
    | cons c' more =>
      obtain ⟨rfl, -⟩ := List.cons.inj hrest
      have hin : c ∈ m.chars := by
        rw [hmore]
        simp
      exact absurd (mantissa_mem hin) hc
  · cases more with
    | nil => exact Or.inl rfl
    | cons c' more =>
      right
      rintro _ ⟨⟩
      apply hs
      rw [hmore, List.tail_append_of_ne_nil (mantissa_ne_nil m)]
      simp

theorem rangeMatches_eq_nil {c : Char} (s rest : List Char) (hs : ∀ c ∈ s.tail, ¬ Joins c)
    (hc : ¬ Joins c) (hnumeral : ¬ NumeralChar c) : rangeMatches (s ++ c :: rest) = [] := by
  rw [List.eq_nil_iff_forall_not_mem]
  intro x hx
  obtain ⟨lo, sep, hi, r, htext, -⟩ := mem_rangeMatches.mp hx
  have hquiet : NotAhead Joins (sep.chars ++ (hi.chars ++ r)) := by
    rcases numeral_end hs hnumeral htext with h | h
    · rw [h]
      rintro _ ⟨⟩
      exact hc
    · exact h
  have hmem := reads_separator.mem sep (hi.chars ++ r)
  rw [separator_eq_nil hquiet] at hmem
  cases hmem

theorem searchRange_skip {c : Char} (s rest : List Char) (hs : ∀ c ∈ s.tail, ¬ Joins c)
    (hc : ¬ Joins c) (hnumeral : ¬ NumeralChar c) :
    searchRange (s ++ c :: rest) = searchRange rest := by
  induction s with
  | nil =>
    have h := rangeMatches_eq_nil [] rest (List.forall_mem_nil _) hc hnumeral
    rw [List.nil_append] at h ⊢
    rw [searchRange, h]
    rfl
  | cons d s ih =>
    have h := rangeMatches_eq_nil (d :: s) rest hs hc hnumeral
    rw [List.cons_append] at h ⊢
    rw [searchRange, h]
    exact ih fun c' hc' => hs c' (List.mem_of_mem_tail hc')

end Search

section Limits

variable {rest r : List Char}

def toWord : List Char := [' ', 't', 'o', ' ']

theorem first_spaces_nil {cs : List Char} (h : NotAhead (fun c => isSpace c = true) cs) :
    First spaces cs cs :=
  first_star_nil _ (fun _ => rfl) (fun _ _ => rfl) (charIf_eq_nil h)

theorem first_spaces_one {cs : List Char} (h : NotAhead (fun c => isSpace c = true) cs) :
    First spaces (' ' :: cs) cs :=
  First.star_cons (fun _ _ => rfl) (first_charIf (by decide))
    (first_star_nil _ (fun _ => rfl) (fun _ _ => rfl) (charIf_eq_nil h))

theorem first_separator_to (h : NotAhead (fun c => isSpace c = true) rest) :
    First separator (toWord ++ rest) rest := by
  have ht : NotAhead (fun c => isSpace c = true) ('t' :: 'o' :: ' ' :: rest) := by
    rintro _ ⟨⟩
    decide
  refine first_inOrder (first_spaces_one ht) (first_inOrder ?_ (first_spaces_one h))
  refine First.left _ (first_inOrder (first_charIf (beq_self_eq_true 't')) ?_)
  exact first_inOrder (first_charIf (beq_self_eq_true 'o')) first_empty

theorem first_separator_comma (h : NotAhead (fun c => isSpace c = true) rest) :
    First separator (',' :: rest) rest := by
  have hcomma : NotAhead (fun c => isSpace c = true) (',' :: rest) := by
    rintro _ ⟨⟩
    decide
  refine first_inOrder (first_spaces_nil hcomma) (first_inOrder ?_ (first_spaces_nil h))
  have hword : NotAhead (· = 't') (',' :: rest) := by
    rintro _ ⟨⟩
    decide
  refine First.right (literal_eq_nil rfl hword) (First.left _ ?_)
  exact first_inOrder (first_charIf (beq_self_eq_true ',')) first_empty

theorem mantissa_notAhead_space (m : Mantissa) :
    NotAhead (fun c => isSpace c = true) (m.chars ++ rest) := by
  obtain ⟨d, cs, h⟩ := mantissa_head m
  rw [h]
  cases m.negative with
  | true => exact notAhead_cons (by decide)
  | false => exact notAhead_cons fun hspace => digit_not_joins d (Or.inl hspace)

/-- What is found behind a lower limit: the rest of the match at the head of a text. -/
def limits (text afterLo : List Char) : List (List Char × List Char) :=
  (separator afterLo).flatMap fun beforeHi =>
    (number beforeHi).map fun afterHi => (captured text afterLo, captured beforeHi afterHi)

theorem rangeMatches_eq (cs : List Char) : rangeMatches cs = (number cs).flatMap (limits cs) := rfl

theorem limits_eq_nil {text : List Char} (h : NotAhead Joins rest) : limits text rest = [] := by
  rw [limits, separator_eq_nil h]
  rfl

theorem limits_first {lo afterLo : List Char} {hi : Mantissa}
    (hs : First separator afterLo (hi.chars ++ r)) (hn : First number (hi.chars ++ r) r) :
    (limits (lo ++ afterLo) afterLo).head? = some (lo, hi.chars) := by
  obtain ⟨rests, hrests⟩ := List.head?_eq_some_iff.mp hs
  obtain ⟨ends, hends⟩ := List.head?_eq_some_iff.mp hn
  simp [limits, hrests, hends, captured_append]

theorem not_joins_point : ¬ Joins '.' := by decide

def Ungrouped (m : Mantissa) : Prop := ∀ lead g gs, m.whole ≠ .grouped lead (g :: gs)

theorem ungrouped_plain {negative : Bool} {a b c d : Digit} {rest : List Digit}
    {fraction : Option DigitRun} : Ungrouped ⟨negative, .plain a b c d rest, fraction⟩ := by
  intro lead g gs h
  exact Whole.noConfusion h

theorem ungrouped_nil {negative : Bool} {lead : Lead} {fraction : Option DigitRun} :
    Ungrouped ⟨negative, .grouped lead [], fraction⟩ := by
  intro lead' g gs h
  have hnil := (Whole.grouped.inj h).2
  cases hnil

theorem ungrouped_quiet {m : Mantissa} (h : Ungrouped m) : ∀ c ∈ m.chars.tail, ¬ Joins c := by
  have hwhole : ∀ c ∈ m.whole.chars, isDigit c = true := by
    intro c hc
    cases hw : m.whole with
    | plain a b c' d rest =>
      rw [hw] at hc
      exact charsOf_digit hc
    | grouped lead gs =>
      cases gs with
      | cons g gs => exact absurd hw (h lead g gs)
      | nil =>
        rw [hw, Whole.chars, List.flatMap_nil, List.append_nil] at hc
        exact charsOf_digit hc
  intro c hc
  have hmem : c ∈ m.whole.chars ++ fractionChars m.fraction := by
    rw [Mantissa.chars] at hc
    cases hneg : m.negative with
    | true =>
      rw [hneg] at hc
      exact hc
    | false =>
      rw [hneg] at hc
      exact List.mem_of_mem_tail hc
  rcases List.mem_append.mp hmem with hin | hin
  · exact digit_not_joins ⟨c, hwhole c hin⟩
  · rcases fractionChars_mem hin with hd | rfl
    · exact digit_not_joins ⟨c, hd⟩
    · exact not_joins_point

theorem rangeMatches_first (lo hi : Mantissa) (hn : First number (hi.chars ++ r) r) :
    (rangeMatches (lo.chars ++ (toWord ++ (hi.chars ++ r)))).head? =
      some (lo.chars, hi.chars) := by
  have hlimits : (limits (lo.chars ++ (toWord ++ (hi.chars ++ r)))
      (toWord ++ (hi.chars ++ r))).head? = some (lo.chars, hi.chars) :=
    limits_first (first_separator_to (mantissa_notAhead_space hi)) hn
  have hspace : NotAhead GoesOn (toWord ++ (hi.chars ++ r)) := notAhead_cons (by decide)
  rw [rangeMatches_eq]
  obtain ⟨negative, whole, fraction⟩ := lo
  cases whole with
  | grouped lead groups =>
    exact First.head?_flatMap (first_number_grouped negative lead groups fraction hspace) hlimits
  | plain a b c d rest =>
    have hself := reads_number.mem ⟨negative, .plain a b c d rest, fraction⟩
      (toWord ++ (hi.chars ++ r))
    refine head?_flatMap_of_unique ?_ hself hlimits
    intro afterLo hmem hne
    obtain ⟨m, hm⟩ := (reads_number _ _).mp hmem
    have hquiet := ungrouped_quiet (m := ⟨negative, .plain a b c d rest, fraction⟩) ungrouped_plain
    rcases numeral_end hquiet (c := ' ') (by decide) hm
      with h | h
    · exact absurd h hne
    · exact limits_eq_nil h

theorem groupPattern_chars (g : Group) (r : List Char) : groupPattern (g.chars ++ r) = [r] := by
  have hdigit : ∀ (d : Digit) (r : List Char), digit (d.1 :: r) = [r] := fun d r => if_pos d.2
  have hcomma : literal "," (g.chars ++ r) = [charsOf g.digits ++ r] := rfl
  rw [groupPattern, inOrder, hcomma, List.flatMap_singleton]
  change inOrder digit (inOrder digit digit) (g.a.1 :: g.b.1 :: g.c.1 :: r) = [r]
  rw [inOrder, hdigit, List.flatMap_singleton, inOrder, hdigit, List.flatMap_singleton, hdigit]

theorem groups_head {β : Type} {gs : List Group} {g : Group} {f : List Char → List β} {b : β}
    (hr : NotAhead (· = ',') r) (hall : f r = []) (hlast : (f (g.chars ++ r)).head? = some b)
    (n : ℕ) (hn : gs.length < n) :
    ((many groupPattern n (gs.flatMap Group.chars ++ (g.chars ++ r))).flatMap f).head? =
      some b := by
  induction gs generalizing n with
  | nil =>
    cases n with
    | zero => cases hn
    | succ n =>
      have hrest : many groupPattern n r = [r] := by
        cases n with
        | zero => rfl
        | succ n =>
          have hnone : groupPattern r = [] := inOrder_eq_nil (literal_eq_nil rfl hr)
          rw [many, hnone]
          rfl
      rw [List.flatMap_nil, List.nil_append, many, groupPattern_chars, List.flatMap_singleton,
        hrest]
      exact head?_flatMap_of_prefix [r] (by simpa using hall) hlast
  | cons g' gs ih =>
    cases n with
    | zero => cases hn
    | succ n =>
      rw [List.flatMap_cons, List.append_assoc, many, groupPattern_chars, List.flatMap_singleton,
        List.flatMap_append, List.head?_append, ih n (Nat.lt_of_succ_lt_succ hn)]
      rfl

def beforeComma (negative : Bool) (lead : Lead) (gs : List Group) : Mantissa :=
  ⟨negative, .grouped lead gs, none⟩

def afterComma (g : Group) (fraction : Option DigitRun) : Mantissa :=
  ⟨false, .grouped (.three g.a g.b g.c) [], fraction⟩

theorem decimals_limits {text : List Char} (fraction : Option DigitRun) :
    (decimals (fractionChars fraction ++ 'e' :: rest)).flatMap (limits text) = [] := by
  have hexponent : ¬ Joins 'e' := by decide
  have hquiet : ∀ c, isDigit c = true ∨ c = '.' → ¬ Joins c := by
    rintro c (hd | rfl)
    · exact digit_not_joins ⟨c, hd⟩
    · exact not_joins_point
  rw [List.flatMap_eq_nil_iff]
  intro r hr
  obtain ⟨taken, htaken⟩ := (reads_decimals _ _).mp hr
  apply limits_eq_nil
  rcases List.append_eq_append_iff.mp htaken with ⟨more, hmore, hrest⟩ | ⟨more, hmore, rfl⟩
  · cases more with
    | nil =>
      rw [List.nil_append] at hrest
      rw [← hrest]
      rintro _ ⟨⟩
      exact hexponent
    | cons c more =>
      obtain ⟨rfl, -⟩ := List.cons.inj hrest
      have hin : 'e' ∈ fractionChars taken := by
        rw [hmore]
        simp
      exact absurd (fractionChars_mem hin) (by decide)
  · cases more with
    | nil =>
      rintro _ ⟨⟩
      exact hexponent
    | cons c more =>
      rintro _ ⟨⟩
      have hin : c ∈ fractionChars fraction := by
        rw [hmore]
        simp
      exact hquiet c (fractionChars_mem hin)

theorem afterComma_chars (g : Group) (fraction : Option DigitRun) :
    g.chars ++ (fractionChars fraction ++ rest) =
      ',' :: ((afterComma g fraction).chars ++ rest) := by
  simp [afterComma, Mantissa.chars, Whole.chars, Lead.digits, Group.chars, Group.digits, signChars]

theorem grouped_chars (negative : Bool) (lead : Lead) (gs : List Group) (g : Group)
    (fraction : Option DigitRun) :
    (Mantissa.mk negative (.grouped lead (gs ++ [g])) fraction).chars ++ rest =
      (beforeComma negative lead gs).chars ++ (g.chars ++ (fractionChars fraction ++ rest)) := by
  simp [Mantissa.chars, Whole.chars, beforeComma, fractionChars]

theorem grouped_head {β : Type} {negative : Bool} {lead : Lead} {gs : List Group}
    {f : List Char → List β} {b : β} (hrest : NotAhead (fun c => isDigit c = true) rest)
    (h : ((manyOf groupPattern (gs.flatMap Group.chars ++ rest)).flatMap fun cs =>
      (decimals cs).flatMap f).head? = some b) :
    ((number ((beforeComma negative lead gs).chars ++ rest)).flatMap f).head? = some b := by
  have hgrouped : ((groupedPattern ((beforeComma negative lead gs).chars ++ rest)).flatMap
      f).head? = some b := by
    simp only [groupedPattern, inOrder, List.flatMap_assoc, beforeComma, Mantissa.chars,
      List.append_assoc]
    refine First.head?_flatMap (first_sign negative (whole_notAhead_minus _)) ?_
    simp only [Whole.chars, List.append_assoc]
    refine First.head?_flatMap (first_lead lead (Or.inl (groups_notAhead gs (by decide) hrest))) ?_
    exact h
  rw [number_eq, firstOf, List.flatMap_append, List.head?_append, hgrouped]
  rfl

theorem rangeMatches_split (negative : Bool) (lead : Lead) (gs : List Group) (g : Group)
    (fraction : Option DigitRun) (rest : List Char) :
    (rangeMatches ((Mantissa.mk negative (.grouped lead (gs ++ [g])) fraction).chars ++
      'e' :: rest)).head? =
      some ((beforeComma negative lead gs).chars, (afterComma g fraction).chars) := by
  have hexponent : NotAhead GoesOn ('e' :: rest) := notAhead_cons (by decide)
  have hcomma : ∀ {P : Char → Prop}, ¬ P ',' →
      NotAhead P (g.chars ++ (fractionChars fraction ++ 'e' :: rest)) := notAhead_cons
  have hlimits : (limits ((beforeComma negative lead gs).chars ++
      (g.chars ++ (fractionChars fraction ++ 'e' :: rest)))
      (g.chars ++ (fractionChars fraction ++ 'e' :: rest))).head? =
      some ((beforeComma negative lead gs).chars, (afterComma g fraction).chars) := by
    rw [afterComma_chars]
    exact limits_first (first_separator_comma (mantissa_notAhead_space _))
      (first_number_grouped false (.three g.a g.b g.c) [] fraction hexponent)
  rw [grouped_chars, rangeMatches_eq]
  refine grouped_head (hcomma (by decide)) (groups_head ?_ (decimals_limits fraction) ?_ _ ?_)
  · refine fraction_notAhead fraction (by decide) ?_
    rintro _ ⟨⟩
    decide
  · refine First.head?_flatMap (first_skip (inOrder_eq_nil (literal_eq_nil rfl ?_))) hlimits
    exact hcomma (by decide)
  · have hlen := length_le_groups gs
    simp only [List.length_append, List.length_cons, Group.chars]
    omega

end Limits

section RangeTexts

variable {suffix : List Char}

/-- `"lo to hi"` and what follows it. -/
def rangeText (lo hi : Numeral) (suffix : List Char) : List Char :=
  lo.chars ++ (toWord ++ (hi.chars ++ suffix))

/-- What a unit does not begin with. -/
def NoUnit (c : Char) : Prop := isDigit c = true ∨ c = ',' ∨ c = '.' ∨ c = 'e'

instance (c : Char) : Decidable (NoUnit c) := inferInstanceAs (Decidable (_ ∨ _))

def threeDigits (negative : Bool) (a b c : Digit) : Mantissa :=
  ⟨negative, .grouped (.three a b c) [], none⟩

/-- What the first alternative of the number pattern takes of an upper limit. -/
def upper (hi : Numeral) : Mantissa :=
  match hi.mantissa.whole with
  | .grouped _ _ => hi.mantissa
  | .plain a b c _ _ => threeDigits hi.mantissa.negative a b c

/-- The upper limit has neither an exponent nor more than three digits in a row; or else it happens
to be the number that is left without the exponent, or with the first three digits alone. -/
def UpperFits (hi : Numeral) : Prop :=
  match hi.mantissa.whole, hi.exponent with
  | .grouped _ _, none => True
  | .grouped _ _, some _ => hi.mantissa.float = hi.float
  | .plain a b c _ _, _ => (threeDigits hi.mantissa.negative a b c).float = hi.float

/-- The lower limit has no exponent and the upper one fits; or else the lower limit happens to be
its own exponent or, with thousands groups, both limits are what stands around its last comma. -/
def LimitsFit (lo hi : Numeral) : Prop :=
  match lo.exponent, lo.mantissa.whole with
  | none, _ => UpperFits hi
  | some _, .grouped lead (g :: gs) =>
    (beforeComma lo.mantissa.negative lead (g :: gs).dropLast).float = lo.float ∧
      (afterComma ((g :: gs).getLast (List.cons_ne_nil g gs)) lo.mantissa.fraction).float =
        hi.float
  | some e, _ => e.toMantissa.float = lo.float ∧ UpperFits hi

theorem float_of_no_exponent {n : Numeral} (h : n.exponent = none) :
    n.float = n.mantissa.float := by
  rw [Numeral.float, Numeral.value, h, Option.elim, zpow_zero, mul_one, Mantissa.float]

theorem upperFits_iff (hi : Numeral) : UpperFits hi ↔ (upper hi).float = hi.float := by
  cases hw : hi.mantissa.whole with
  | plain a b c d rest => simp only [UpperFits, upper, hw]
  | grouped lead gs =>
    cases he : hi.exponent with
    | none => simp only [UpperFits, upper, hw, he, float_of_no_exponent he]
    | some e => simp only [UpperFits, upper, hw, he]

theorem first_number_upper (hi : Numeral) (hsuffix : NotAhead NoUnit suffix) :
    ∃ r, hi.chars ++ suffix = (upper hi).chars ++ r ∧ First number ((upper hi).chars ++ r) r := by
  obtain ⟨⟨negative, whole, fraction⟩, exponent⟩ := hi
  cases whole with
  | grouped lead groups =>
    refine ⟨exponent.elim [] Exponent.chars ++ suffix, List.append_assoc .., ?_⟩
    apply first_number_grouped
    cases exponent with
    | none =>
      rintro c hc (h | h | h)
      · exact hsuffix c hc (Or.inl h)
      · exact hsuffix c hc (Or.inr (Or.inl h))
      · exact hsuffix c hc (Or.inr (Or.inr (Or.inl h)))
    | some e => exact notAhead_cons (by decide)
  | plain a b c d rest =>
    have hfirst := first_number_plain (r := exponent.elim [] Exponent.chars ++ suffix) negative
      a b c d rest fraction
    have htext : (Mantissa.mk negative (.plain a b c d rest) fraction).chars ++
        (exponent.elim [] Exponent.chars ++ suffix) =
        (threeDigits negative a b c).chars ++ (charsOf (d :: rest) ++
          (fractionChars fraction ++ (exponent.elim [] Exponent.chars ++ suffix))) := by
      simp [threeDigits, Mantissa.chars, Whole.chars, Lead.digits, charsOf, fractionChars]
    rw [htext] at hfirst
    exact ⟨_, (List.append_assoc ..).trans htext, hfirst⟩

theorem limitsOf_mantissa (lo : Mantissa) (hi : Numeral) (hsuffix : NotAhead NoUnit suffix) :
    limitsOf (.str (String.ofList (lo.chars ++ (toWord ++ (hi.chars ++ suffix))))) =
      some (lo.float, (upper hi).float) := by
  obtain ⟨r, hr, hfirst⟩ := first_number_upper hi hsuffix
  rw [hr]
  have hsearch := searchRange_first (rangeMatches_first lo (upper hi) hfirst)
  exact limitsOf_search hsearch lo (upper hi) rfl

theorem limitsOf_congr {cs ds : List Char} (h : searchRange cs = searchRange ds) :
    limitsOf (.str (String.ofList cs)) = limitsOf (.str (String.ofList ds)) := by
  simp only [limitsOf, parseRange, String.toList_ofList, h]

theorem searchRange_exponent {m : Mantissa} (h : Ungrouped m) (e : Exponent) (rest : List Char) :
    searchRange (m.chars ++ (e.chars ++ rest)) = searchRange (e.toMantissa.chars ++ rest) := by
  have hjoins : ¬ Joins 'e' := by decide
  have hskip := searchRange_skip m.chars (e.sign.chars ++ charsOf e.run.digits ++ rest)
    (ungrouped_quiet h) hjoins (by decide)
  have hrun : (Whole.ofRun e.run).chars ++ fractionChars none = charsOf e.run.digits := by
    rw [Whole.ofRun_chars]
    exact List.append_nil _
  rw [Exponent.chars, List.cons_append, hskip, Exponent.toMantissa, Mantissa.chars, hrun]
  cases e.sign with
  | none => rfl
  | minus => rfl
  | plus =>
    exact searchRange_skip [] _ (List.forall_mem_nil _) (by decide) (by decide)

theorem rangeText_exact_iff (lo hi : Numeral) (hsuffix : NotAhead NoUnit suffix) :
    limitsOf (.str (String.ofList (rangeText lo hi suffix))) = some (lo.float, hi.float) ↔
      LimitsFit lo hi := by
  obtain ⟨m, exponent⟩ := lo
  cases exponent with
  | none =>
    have hparse := limitsOf_mantissa m hi hsuffix
    have hlo : (Numeral.mk m none).float = m.float := float_of_no_exponent rfl
    rw [rangeText, Numeral.chars, Option.elim, List.append_nil, hparse, hlo]
    simp [LimitsFit, upperFits_iff]
  | some e =>
    have hfound : Ungrouped m →
        (limitsOf (.str (String.ofList (rangeText ⟨m, some e⟩ hi suffix))) =
          some ((Numeral.mk m (some e)).float, hi.float) ↔
          e.toMantissa.float = (Numeral.mk m (some e)).float ∧ UpperFits hi) := by
      intro h
      rw [rangeText, Numeral.chars, Option.elim, List.append_assoc,
        limitsOf_congr (searchRange_exponent h e _), limitsOf_mantissa e.toMantissa hi hsuffix,
        upperFits_iff]
      simp
    obtain ⟨negative, whole, fraction⟩ := m
    cases whole with
    | plain a b c d rest => exact hfound ungrouped_plain
    | grouped lead groups =>
      cases groups with
      | nil => exact hfound ungrouped_nil
      | cons g gs =>
        have hlast := List.dropLast_append_getLast (List.cons_ne_nil g gs)
        have hsplit := rangeMatches_split negative lead (g :: gs).dropLast
          ((g :: gs).getLast (List.cons_ne_nil g gs)) fraction
          (e.sign.chars ++ charsOf e.run.digits ++ (toWord ++ (hi.chars ++ suffix)))
        rw [hlast] at hsplit
        have hparse := limitsOf_search (searchRange_first hsplit) _ _ rfl
        have htext : rangeText ⟨⟨negative, .grouped lead (g :: gs), fraction⟩, some e⟩ hi suffix =
            (Mantissa.mk negative (.grouped lead (g :: gs)) fraction).chars ++
              'e' :: (e.sign.chars ++ charsOf e.run.digits ++
                (toWord ++ (hi.chars ++ suffix))) := by
          simp [rangeText, Numeral.chars, Exponent.chars]
        rw [htext, hparse]
        simp [LimitsFit]

end RangeTexts

section Enumerations

variable {w text xs ys : List Char} {p : Char}

/-- Two digits joined by what stands between the numbers of a range. -/
def Join (w : List Char) : Prop :=
  ∃ (a : Digit) (s : Separator) (negative : Bool) (b : Digit),
    w = a.1 :: (s.chars ++ (signChars negative ++ [b.1]))

/-- Somewhere in the text two digits are joined. -/
def Joined (text : List Char) : Prop := ∃ w, Join w ∧ w <:+: text

theorem mantissa_last (m : Mantissa) : ∃ (cs : List Char) (d : Digit), m.chars = cs ++ [d.1] := by
  have hdigits : ∀ (cs : List Char) (run : DigitRun), ∃ (cs' : List Char) (d : Digit),
      cs ++ charsOf run.digits = cs' ++ [d.1] := by
    intro cs run
    have hlast := List.dropLast_append_getLast (List.cons_ne_nil run.first run.rest)
    refine ⟨cs ++ charsOf run.digits.dropLast, run.digits.getLast (List.cons_ne_nil _ _), ?_⟩
    rw [List.append_assoc]
    nth_rewrite 1 [DigitRun.digits, ← hlast]
    simp [charsOf, DigitRun.digits]
  obtain ⟨negative, whole, fraction⟩ := m
  cases fraction with
  | some run =>
    obtain ⟨cs, d, h⟩ := hdigits (signChars negative ++ (whole.chars ++ ['.'])) run
    exact ⟨cs, d, by simpa [Mantissa.chars, fractionChars] using h⟩
  | none =>
    cases whole with
    | plain a b c d rest =>
      obtain ⟨cs, d', h⟩ := hdigits (signChars negative) ⟨a, b :: c :: d :: rest⟩
      exact ⟨cs, d', by simpa [Mantissa.chars, fractionChars, Whole.chars, DigitRun.digits] using h⟩
    | grouped lead groups =>
      rcases List.eq_nil_or_concat groups with rfl | ⟨gs, g, rfl⟩
      · have hlead : ∃ run : DigitRun, lead.digits = run.digits := by
          cases lead <;> exact ⟨⟨_, _⟩, rfl⟩
        obtain ⟨run, hrun⟩ := hlead
        obtain ⟨cs, d, h⟩ := hdigits (signChars negative) run
        exact ⟨cs, d, by simpa [Mantissa.chars, fractionChars, Whole.chars, hrun] using h⟩
      · refine ⟨signChars negative ++ (charsOf lead.digits ++ (gs.flatMap Group.chars ++
          [',', g.a.1, g.b.1])), g.c, ?_⟩
        simp [Mantissa.chars, fractionChars, Whole.chars, Group.chars, Group.digits, charsOf]

theorem searchRange_eq_none_iff : searchRange text = none ↔ ¬ Joined text := by
  rw [searchRange_eq_none]
  constructor
  · rintro h ⟨w, ⟨a, s, negative, b, rfl⟩, pre, post, rfl⟩
    have hnil := h _ ((List.suffix_append pre _).trans (by rw [List.append_assoc]))
    have hmem : (([a.1] : List Char), signChars negative ++ [b.1]) ∈ rangeMatches
        (a.1 :: (s.chars ++ (signChars negative ++ [b.1])) ++ post) := by
      refine mem_rangeMatches.mpr ⟨⟨false, .grouped (.one a) [], none⟩, s,
        ⟨negative, .grouped (.one b) [], none⟩, post, ?_, rfl⟩
      simp [Mantissa.chars, Whole.chars, Lead.digits, charsOf, fractionChars, signChars]
    rw [hnil] at hmem
    cases hmem
  · intro h t ht
    rw [List.eq_nil_iff_forall_not_mem]
    intro x hx
    obtain ⟨lo, s, hi, r, rfl, -⟩ := mem_rangeMatches.mp hx
    obtain ⟨cs, a, ha⟩ := mantissa_last lo
    obtain ⟨b, ds, hb⟩ := mantissa_head hi
    apply h
    refine ⟨_, ⟨a, s, hi.negative, b, rfl⟩, List.IsInfix.trans ?_ ht.isInfix⟩
    exact ⟨cs, ds ++ r, by simp [ha, hb]⟩

theorem infix_split (h : w <:+: xs ++ p :: ys) (hp : p ∉ w) : w <:+: xs ∨ w <:+: ys := by
  obtain ⟨pre, post, h⟩ := h
  rw [List.append_assoc] at h
  rcases List.append_eq_append_iff.mp h with ⟨more, rfl, hmore⟩ | ⟨more, rfl, hmore⟩
  · rcases List.append_eq_append_iff.mp hmore with ⟨rest, rfl, -⟩ | ⟨rest, rfl, hrest⟩
    · exact Or.inl ⟨pre, rest, List.append_assoc ..⟩
    · cases rest with
      | nil => exact Or.inl ⟨pre, [], by simp⟩
      | cons q rest =>
        obtain ⟨rfl, -⟩ := List.cons.inj hrest
        exact absurd (by simp) hp
  · cases more with
    | cons q more =>
      obtain ⟨-, hys⟩ := List.cons.inj hmore
      exact Or.inr ⟨more, post, by rw [List.append_assoc]; exact hys.symm⟩
    | nil =>
      cases w with
      | nil => exact Or.inl (List.nil_infix)
      | cons q w =>
        obtain ⟨rfl, -⟩ := List.cons.inj hmore
        exact absurd List.mem_cons_self hp

def Parenthesis (c : Char) : Prop := c = '(' ∨ c = ')'

instance (c : Char) : Decidable (Parenthesis c) := inferInstanceAs (Decidable (_ ∨ _))

theorem separator_mem {s : Separator} {c : Char} (h : c ∈ s.chars) :
    isSpace c = true ∨ c = 't' ∨ c = 'o' ∨ c = ',' ∨ c = '-' := by
  have hspace : ∀ {spaces : List Space}, c ∈ spaceChars spaces → isSpace c = true := by
    intro spaces hc
    obtain ⟨d, -, hd⟩ := List.mem_flatMap.mp hc
    rw [List.mem_singleton.mp hd]
    exact d.2
  rcases List.mem_append.mp h with h | h
  · exact Or.inl (hspace h)
  rcases List.mem_append.mp h with h | h
  · right
    cases hj : s.joint with
    | word =>
      rw [hj] at h
      rcases List.mem_cons.mp h with rfl | h
      · exact Or.inl rfl
      · exact Or.inr (Or.inl (List.mem_singleton.mp h))
    | comma =>
      rw [hj] at h
      exact Or.inr (Or.inr (Or.inl (List.mem_singleton.mp h)))
    | hyphen =>
      rw [hj] at h
      exact Or.inr (Or.inr (Or.inr (List.mem_singleton.mp h)))
  · exact Or.inl (hspace h)

theorem join_not_mem (hw : Join w) (hp : Parenthesis p) : p ∉ w := by
  obtain ⟨a, s, negative, b, rfl⟩ := hw
  have hdigit : isDigit p = false := by rcases hp with rfl | rfl <;> decide
  intro h
  rcases List.mem_cons.mp h with h | h
  · exact digit_ne a hdigit h.symm
  rcases List.mem_append.mp h with h | h
  · have hsep := separator_mem h
    rcases hp with rfl | rfl <;> revert hsep <;> decide
  rcases List.mem_append.mp h with h | h
  · have hsign := signChars_mem h
    rcases hp with rfl | rfl <;> cases hsign
  · exact digit_ne b hdigit (List.mem_singleton.mp h).symm

theorem joined_parenthesis (hp : Parenthesis p) :
    Joined (xs ++ p :: ys) ↔ Joined xs ∨ Joined ys := by
  constructor
  · rintro ⟨w, hw, h⟩
    rcases infix_split h (join_not_mem hw hp) with h | h
    · exact Or.inl ⟨w, hw, h⟩
    · exact Or.inr ⟨w, hw, h⟩
  · rintro (⟨w, hw, h⟩ | ⟨w, hw, h⟩)
    · exact ⟨w, hw, List.infix_append_of_infix_left h⟩
    · exact ⟨w, hw, List.infix_append_of_infix_right (List.infix_cons h)⟩

theorem joined_cons (hp : isDigit p = false) : Joined (p :: xs) ↔ Joined xs := by
  constructor
  · rintro ⟨w, hw, h⟩
    obtain ⟨a, s, negative, b, rfl⟩ := id hw
    rcases List.infix_cons_iff.mp h with h | h
    · obtain ⟨post, hpost⟩ := h
      exact absurd (List.cons.inj hpost).1 (digit_ne a hp)
    · exact ⟨_, hw, h⟩
  · rintro ⟨w, hw, h⟩
    exact ⟨w, hw, List.infix_cons h⟩

theorem joined_concat (hp : isDigit p = false) : Joined (xs ++ [p]) ↔ Joined xs := by
  constructor
  · rintro ⟨w, hw, h⟩
    obtain ⟨a, s, negative, b, rfl⟩ := id hw
    rcases List.infix_concat_iff.mp h with h | h
    · obtain ⟨pre, hpre⟩ := h
      have hends : pre ++ a.1 :: (s.chars ++ signChars negative) ++ [b.1] = xs ++ [p] := by
        simpa using hpre
      exact absurd (List.cons.inj (List.append_inj' hends rfl).2).1 (digit_ne b hp)
    · exact ⟨_, hw, h⟩
  · rintro ⟨w, hw, h⟩
    exact ⟨w, hw, List.infix_append_of_infix_left h⟩

theorem not_joined_nil : ¬ Joined [] := by
  rintro ⟨w, ⟨a, s, negative, b, rfl⟩, h⟩
  cases List.infix_nil.mp h

theorem not_joined_digits (ds : List Digit) : ¬ Joined (charsOf ds) := by
  rintro ⟨w, ⟨a, s, negative, b, rfl⟩, h⟩
  have hdigit : ∀ c ∈ s.joint.chars, isDigit c = true := by
    intro c hc
    have hin : c ∈ charsOf ds := by
      apply h.subset
      simp [Separator.chars, hc]
    exact charsOf_digit hin
  have hno : ∀ j : Joint, ¬ ∀ c ∈ j.chars, isDigit c = true := by
    intro j
    rw [← List.all_eq_true]
    cases j <;> decide
  exact hno s.joint hdigit

/-- One entry of an enumeration; the label has no parentheses. -/
structure Entry where
  label : List Char
  free : ∀ c ∈ label, ¬ Parenthesis c
  negative : Bool
  code : DigitRun

def Entry.chars (e : Entry) : List Char :=
  e.label ++ ' ' :: '(' :: (signChars e.negative ++ charsOf e.code.digits ++ [')'])

/-- `"label (code), label (code), ..."` -/
def enumText : List Entry → List Char
  | [] => []
  | [e] => e.chars
  | e :: e' :: es => e.chars ++ ',' :: ' ' :: enumText (e' :: es)

theorem joined_entry (e : Entry) (rest : List Char) :
    Joined (e.chars ++ rest) ↔ Joined e.label ∨ Joined rest := by
  have hcode : ¬ Joined (signChars e.negative ++ charsOf e.code.digits) := by
    cases e.negative with
    | true => exact fun h => not_joined_digits _ ((joined_cons (by decide)).mp h)
    | false => exact not_joined_digits e.code.digits
  have hparts : e.chars ++ rest = (e.label ++ [' ']) ++
      '(' :: ((signChars e.negative ++ charsOf e.code.digits) ++ ')' :: rest) := by
    simp [Entry.chars]
  rw [hparts, joined_parenthesis (Or.inl rfl), joined_concat (by decide),
    joined_parenthesis (Or.inr rfl)]
  simp only [hcode, false_or]

theorem joined_enumText (es : List Entry) : Joined (enumText es) ↔ ∃ e ∈ es, Joined e.label := by
  induction es with
  | nil => simp [enumText, not_joined_nil]
  | cons e es ih =>
    cases es with
    | nil =>
      have h := joined_entry e []
      rw [List.append_nil] at h
      simp [enumText, h, not_joined_nil]
    | cons e' es =>
      rw [enumText, joined_entry, joined_cons (by decide), joined_cons (by decide), ih]
      simp only [List.exists_mem_cons_iff]

/-- The limits that are read from `"lo to hi"` are the two numbers exactly when they fit the
pattern, and an enumeration is left alone exactly when no label joins two digits. -/
theorem range_texts_iff (lo hi : Numeral) {suffix : List Char} (hsuffix : NotAhead NoUnit suffix)
    (entries : List Entry) :
    (limitsOf (.str (String.ofList (rangeText lo hi suffix))) = some (lo.float, hi.float) ↔
      LimitsFit lo hi) ∧
    (parseRange (.str (String.ofList (enumText entries))) = none ↔
      ∀ e ∈ entries, ¬ Joined e.label) := by
  refine ⟨rangeText_exact_iff lo hi hsuffix, ?_⟩
  rw [parseRange_eq_none, searchRange_eq_none_iff, joined_enumText]
  simp only [not_exists, not_and]

end Enumerations

section Rows

def digitOf (n : Fin 10) : Digit := ⟨Char.ofNat (48 + n), by decide +revert⟩

def minusLimit : Numeral :=
  ⟨⟨true, .grouped (.one (digitOf 1)) [⟨digitOf 9, digitOf 9, digitOf 9⟩],
    some ⟨digitOf 0, [digitOf 0, digitOf 0]⟩⟩, none⟩

def plusLimit : Numeral :=
  ⟨⟨false, .grouped (.one (digitOf 9)) [⟨digitOf 9, digitOf 9, digitOf 9⟩],
    some ⟨digitOf 0, [digitOf 0, digitOf 0]⟩⟩, none⟩

theorem free_of_all {label : List Char} (h : label.all (fun c => decide (¬ Parenthesis c)) = true) :
    ∀ c ∈ label, ¬ Parenthesis c := by
  intro c hc
  exact of_decide_eq_true (List.all_eq_true.mp h c hc)

theorem off_free : ∀ c ∈ "Off".toList, ¬ Parenthesis c := free_of_all (by decide +kernel)

theorem on_free : ∀ c ∈ "On".toList, ¬ Parenthesis c := free_of_all (by decide +kernel)

theorem curve_free : ∀ c ∈ "Curve 1-2".toList, ¬ Parenthesis c := free_of_all (by decide +kernel)

def offEntry : Entry := ⟨"Off".toList, off_free, false, ⟨digitOf 6, [digitOf 2]⟩⟩

def onEntry : Entry := ⟨"On".toList, on_free, false, ⟨digitOf 6, [digitOf 3]⟩⟩

example : rangeText minusLimit plusLimit "°F".toList = "-1,999.000 to 9,999.000°F".toList ∧
    enumText [offEntry, onEntry] = "Off (62), On (63)".toList := by decide +kernel

/-- Two rows of the tables that are read right. -/
theorem rows_read :
    limitsOf (.str (String.ofList (rangeText minusLimit plusLimit "°F".toList))) =
      some (.finite (-1999), .finite 9999) ∧
    parseRange (.str (String.ofList (enumText [offEntry, onEntry]))) = none := by
  have hunit : NotAhead NoUnit "°F".toList := notAhead_cons (by decide)
  have hlabels : ∀ e ∈ [offEntry, onEntry], ¬ Joined e.label := by
    intro e he
    rw [← searchRange_eq_none_iff]
    revert e
    decide +kernel
  have h := range_texts_iff minusLimit plusLimit hunit [offEntry, onEntry]
  refine ⟨?_, h.2.mpr hlabels⟩
  rw [h.1.mpr trivial]
  decide +kernel

def zeroLimit : Numeral := ⟨⟨false, .grouped (.one (digitOf 0)) [], none⟩, none⟩

def wordLimit : Numeral :=
  ⟨⟨false, .plain (digitOf 6) (digitOf 5) (digitOf 5) (digitOf 3) [digitOf 5], none⟩, none⟩

def curveEntry : Entry := ⟨"Curve 1-2".toList, curve_free, false, ⟨digitOf 3, []⟩⟩

/-- `"0 to 65535"` is read as 0 to 655, and `"Curve 1-2 (3)"` as 1 to 2. -/
theorem plain_limit_cut :
    (¬ ∀ (lo hi : Numeral) (suffix : List Char), NotAhead NoUnit suffix →
      limitsOf (.str (String.ofList (rangeText lo hi suffix))) = some (lo.float, hi.float)) ∧
    ¬ ∀ entries : List Entry, parseRange (.str (String.ofList (enumText entries))) = none := by
  constructor
  · intro h
    have hread := h zeroLimit wordLimit [] nofun
    revert hread
    decide +kernel
  · intro h
    have hread := h [curveEntry]
    revert hread
    decide +kernel

end Rows

end RangeParsing
