import Mathlib.Data.List.Basic

/-! # Lines of flat JSON objects

An object of texts and of bare tokens on one line. The writer escapes what may not stand in a text;
the reader goes through a line character by character and skips blanks between the parts. What is
written for a list of objects is read as that list. -/
namespace JsonTexts

abbrev Text := List Char

def isBlank (c : Char) : Bool := c == ' ' || c == '\t' || c == '\n' || c == '\r'

/-- The characters that a bare token goes up to. -/
def endsToken (c : Char) : Bool :=
  isBlank c || c == ',' || c == '}' || c == '{' || c == '[' || c == ']' || c == ':' || c == '"'

/-- A text, or whatever stands without quotes: a number, a constant. -/
inductive Value where
  | text (t : Text)
  | bare (token : Text)
  deriving DecidableEq, Repr

abbrev Object := List (Text × Value)

def Value.Proper : Value → Prop
  | .text _ => True
  | .bare token => token ≠ [] ∧ ∀ c ∈ token, endsToken c = false

-- Over the characters of a list; the type `Char` itself could be enumerated as well.
instance (v : Value) : Decidable v.Proper :=
  match v with
  | .text _ => .isTrue trivial
  | .bare token =>
    have : Decidable (∀ c ∈ token, endsToken c = false) := List.decidableBAll _ token
    inferInstanceAs (Decidable (token ≠ [] ∧ ∀ c ∈ token, endsToken c = false))

/-! ## Writing -/

def hexDigit (n : ℕ) : Char :=
  ['0', '1', '2', '3', '4', '5', '6', '7', '8', '9', 'a', 'b', 'c', 'd', 'e', 'f'].getD n '0'

def escapeChar (c : Char) : Text :=
  if c = '"' then ['\\', '"']
  else if c = '\\' then ['\\', '\\']
  else if c = '\n' then ['\\', 'n']
  else if c = '\r' then ['\\', 'r']
  else if c = '\t' then ['\\', 't']
  else if c = '\x08' then ['\\', 'b']
  else if c = '\x0c' then ['\\', 'f']
  else if c.toNat < 0x20 then
    ['\\', 'u', '0', '0', hexDigit (c.toNat / 16), hexDigit (c.toNat % 16)]
  else [c]

def quoted (t : Text) : Text := '"' :: (t.flatMap escapeChar ++ ['"'])

def writeValue : Value → Text
  | .text t => quoted t
  | .bare token => token

def writeMember (m : Text × Value) : Text := quoted m.1 ++ [':', ' '] ++ writeValue m.2

def writeMembers : Object → Text
  | [] => []
  | m :: ms => writeMember m ++ ms.flatMap fun m => [',', ' '] ++ writeMember m

def writeObject (o : Object) : Text := '{' :: (writeMembers o ++ ['}'])

def writeLines (os : List Object) : Text := os.flatMap fun o => writeObject o ++ ['\n']

/-! ## Reading -/

/-- Inside of a text: between two characters, behind a backslash, or in a code. -/
inductive Body where
  | plain
  | escape
  | code (digits : List ℕ)
  deriving DecidableEq, Repr

inductive Mode where
  | start
  | firstKey
  | key (body : Body)
  | colon
  | value
  | text (body : Body)
  | bare
  | next
  | nextKey
  | finish
  deriving DecidableEq, Repr

structure Reader where
  mode : Mode
  key : Text
  chars : Text
  members : Object
  deriving DecidableEq, Repr

def unescape (c : Char) : Option Char :=
  if c = '"' ∨ c = '\\' ∨ c = '/' then some c
  else if c = 'n' then some '\n'
  else if c = 'r' then some '\r'
  else if c = 't' then some '\t'
  else if c = 'b' then some '\x08'
  else if c = 'f' then some '\x0c'
  else none

def hexValue (c : Char) : Option ℕ :=
  if '0' ≤ c ∧ c ≤ '9' then some (c.toNat - 48)
  else if 'a' ≤ c ∧ c ≤ 'f' then some (c.toNat - 87)
  else if 'A' ≤ c ∧ c ≤ 'F' then some (c.toNat - 55)
  else none

/-- The character of a code. A half of a surrogate pair is none. -/
def codeChar (digits : List ℕ) : Option Char :=
  let n := digits.foldl (fun n d => 16 * n + d) 0
  if n.isValidChar then some (Char.ofNat n) else none

def Body.step : Body → Char → Text → Option (Body × Text)
  | .plain, c, t =>
    if c = '\\' then some (.escape, t)
    else if c.toNat < 0x20 then none
    else some (.plain, t ++ [c])
  | .escape, c, t =>
    if c = 'u' then some (.code [], t) else (unescape c).map fun d => (.plain, t ++ [d])
  | .code digits, c, t =>
    (hexValue c).bind fun v =>
      if digits.length < 3 then some (.code (digits ++ [v]), t)
      else (codeChar (digits ++ [v])).map fun d => (.plain, t ++ [d])

def Reader.to (s : Reader) (mode : Mode) : Reader := { s with mode := mode, chars := [] }

def Reader.add (s : Reader) (value : Value) (mode : Mode) : Reader :=
  ⟨mode, [], [], s.members ++ [(s.key, value)]⟩

/-- Behind a value: a comma, or the end of the object. -/
def Reader.separate (s : Reader) (c : Char) : Option Reader :=
  if isBlank c then some { s with mode := .next }
  else if c = ',' then some { s with mode := .nextKey }
  else if c = '}' then some { s with mode := .finish }
  else none

def Reader.step (s : Reader) (c : Char) : Option Reader :=
  match s.mode with
  | .start => if isBlank c then some s else if c = '{' then some (s.to .firstKey) else none
  | .firstKey =>
    if isBlank c then some s
    else if c = '"' then some (s.to (.key .plain))
    else if c = '}' then some (s.to .finish)
    else none
  | .nextKey => if isBlank c then some s else if c = '"' then some (s.to (.key .plain)) else none
  | .key body =>
    if body = .plain ∧ c = '"' then some { s with mode := .colon, key := s.chars, chars := [] }
    else (body.step c s.chars).map fun r => { s with mode := .key r.1, chars := r.2 }
  | .colon => if isBlank c then some s else if c = ':' then some (s.to .value) else none
  | .value =>
    if isBlank c then some s
    else if c = '"' then some (s.to (.text .plain))
    else if endsToken c then none
    else some { s with mode := .bare, chars := [c] }
  | .text body =>
    if body = .plain ∧ c = '"' then some (s.add (.text s.chars) .next)
    else (body.step c s.chars).map fun r => { s with mode := .text r.1, chars := r.2 }
  | .bare =>
    if endsToken c then (s.add (.bare s.chars) .next).separate c
    else some { s with chars := s.chars ++ [c] }
  | .next => s.separate c
  | .finish => if isBlank c then some s else none

/-- The object of a line, or none where it is no flat object. -/
def readObject (line : Text) : Option Object :=
  (line.foldlM Reader.step ⟨.start, [], [], []⟩).bind fun s =>
    if s.mode = .finish then some s.members else none

/-- The lines of a text; the last one may lack its end. -/
def linesFrom (line : Text) : Text → List Text
  | [] => if line = [] then [] else [line]
  | '\r' :: '\n' :: rest => line :: linesFrom [] rest
  | c :: rest =>
    if c = '\n' ∨ c = '\r' then line :: linesFrom [] rest else linesFrom (line ++ [c]) rest

def readLines (text : Text) : Option (List Object) := (linesFrom [] text).mapM readObject

/-! ## Round trip -/

theorem hexValue_hexDigit {n : ℕ} (h : n < 16) : hexValue (hexDigit n) = some n := by
  have hall : ∀ n < 16, hexValue (hexDigit n) = some n := by decide
  exact hall n h

theorem codeChar_two (c : Char) :
    codeChar [0, 0, c.toNat / 16, c.toNat % 16] = some c := by
  have hcode : [0, 0, c.toNat / 16, c.toNat % 16].foldl (fun n d => 16 * n + d) 0 = c.toNat := by
    simp only [List.foldl_cons, List.foldl_nil]
    omega
  simp only [codeChar, hcode]
  rw [if_pos (show c.toNat.isValidChar from c.valid), Char.ofNat_toNat]

/-- The reader inside of a text, with what it has of it. -/
structure Inside where
  wrap : Body → Text → Reader
  step : ∀ body c t, ¬ (body = .plain ∧ c = '"') →
    (wrap body t).step c = (body.step c t).map fun r => wrap r.1 r.2

def insideKey (key : Text) (members : Object) : Inside where
  wrap body t := ⟨.key body, key, t, members⟩
  step body c t h := by simp only [Reader.step, if_neg h]

def insideText (key : Text) (members : Object) : Inside where
  wrap body t := ⟨.text body, key, t, members⟩
  step body c t h := by simp only [Reader.step, if_neg h]

theorem run_escapeChar (w : Inside) (t : Text) (c : Char) :
    (escapeChar c).foldlM Reader.step (w.wrap .plain t) = some (w.wrap .plain (t ++ [c])) := by
  have hescaped : ∀ d, unescape d = some c → d ≠ 'u' →
      ['\\', d].foldlM Reader.step (w.wrap .plain t) = some (w.wrap .plain (t ++ [c])) := by
    intro d hd hu
    rw [List.foldlM_cons, w.step _ _ _ (by decide)]
    simp only [Body.step, if_true, Option.map_some, Option.bind_eq_bind, Option.bind_some]
    rw [List.foldlM_cons, w.step _ _ _ (by simp)]
    simp [Body.step, hu, hd]
  rw [escapeChar]
  split_ifs with h1 h2 h3 h4 h5 h6 h7 h8
  · exact hescaped '"' (by rw [h1]; decide) (by decide)
  · exact hescaped '\\' (by rw [h2]; decide) (by decide)
  · exact hescaped 'n' (by rw [h3]; decide) (by decide)
  · exact hescaped 'r' (by rw [h4]; decide) (by decide)
  · exact hescaped 't' (by rw [h5]; decide) (by decide)
  · exact hescaped 'b' (by rw [h6]; decide) (by decide)
  · exact hescaped 'f' (by rw [h7]; decide) (by decide)
  · have hzero : hexValue '0' = some 0 := by decide
    have hhigh := hexValue_hexDigit (n := c.toNat / 16) (by omega)
    have hlow := hexValue_hexDigit (n := c.toNat % 16) (by omega)
    simp only [List.foldlM_cons, List.foldlM_nil]
    rw [w.step _ _ _ (by decide)]
    simp [Body.step, w.step, hzero, hhigh, hlow, codeChar_two c]
  · rw [List.foldlM_cons, w.step _ _ _ (by simp [h1])]
    simp [Body.step, h2, h8]

theorem run_escaped (w : Inside) (t read : Text) :
    (t.flatMap escapeChar).foldlM Reader.step (w.wrap .plain read) =
      some (w.wrap .plain (read ++ t)) := by
  induction t generalizing read with
  | nil => simp
  | cons c t ih =>
    rw [List.flatMap_cons, List.foldlM_append, run_escapeChar]
    simpa using ih (read ++ [c])

structure Behind (members : Object) (t : Reader) : Prop where
  comma : t.step ',' = some ⟨.nextKey, [], [], members⟩
  close : t.step '}' = some ⟨.finish, [], [], members⟩

theorem run_token (key : Text) (members : Object) (token read : Text)
    (h : ∀ c ∈ token, endsToken c = false) :
    token.foldlM Reader.step ⟨.bare, key, read, members⟩ =
      some ⟨.bare, key, read ++ token, members⟩ := by
  induction token generalizing read with
  | nil => simp
  | cons c token ih =>
    obtain ⟨hc, hrest⟩ := List.forall_mem_cons.mp h
    have hstep : Reader.step ⟨.bare, key, read, members⟩ c =
        some ⟨.bare, key, read ++ [c], members⟩ := by
      simp [Reader.step, hc]
    rw [List.foldlM_cons, hstep]
    simpa using ih (read ++ [c]) hrest

theorem run_value (key : Text) (members : Object) {value : Value} (h : value.Proper) :
    ∃ t, (writeValue value).foldlM Reader.step ⟨.value, key, [], members⟩ = some t ∧
      Behind (members ++ [(key, value)]) t := by
  cases value with
  | text text =>
    have hbody := run_escaped (insideText key members) text []
    refine ⟨⟨.next, [], [], members ++ [(key, .text text)]⟩, ?_, rfl, rfl⟩
    have hopen : Reader.step ⟨.value, key, [], members⟩ '"' =
        some ((insideText key members).wrap .plain []) := rfl
    rw [writeValue, quoted, List.foldlM_cons, hopen, Option.bind_eq_bind, Option.bind_some,
      List.foldlM_append, hbody]
    rfl
  | bare token =>
    obtain ⟨hne, hplain⟩ := h
    cases token with
    | nil => exact absurd rfl hne
    | cons c rest =>
      obtain ⟨hc, hrest⟩ := List.forall_mem_cons.mp hplain
      have hblank : isBlank c = false ∧ c ≠ '"' := by
        simp only [endsToken, Bool.or_eq_false_iff, beq_eq_false_iff_ne] at hc
        exact ⟨hc.1.1.1.1.1.1.1, hc.2⟩
      have hfirst : Reader.step ⟨.value, key, [], members⟩ c =
          some ⟨.bare, key, [c], members⟩ := by
        simp [Reader.step, hblank, hc]
      have hbody := run_token key members rest [c] hrest
      refine ⟨⟨.bare, key, c :: rest, members⟩, ?_, rfl, rfl⟩
      rw [writeValue, List.foldlM_cons, hfirst]
      exact hbody

theorem run_member {mode : Mode} (hmode : mode = .firstKey ∨ mode = .nextKey) (members : Object)
    (m : Text × Value) (h : m.2.Proper) :
    ∃ t, (writeMember m).foldlM Reader.step ⟨mode, [], [], members⟩ = some t ∧
      Behind (members ++ [m]) t := by
  obtain ⟨key, value⟩ := m
  have hopen : Reader.step ⟨mode, [], [], members⟩ '"' =
      some ((insideKey [] members).wrap .plain []) := by
    rcases hmode with rfl | rfl
    · rfl
    · rfl
  have hkey : (quoted key ++ [':', ' ']).foldlM Reader.step ⟨mode, [], [], members⟩ =
      some ⟨.value, key, [], members⟩ := by
    rw [quoted, List.cons_append, List.foldlM_cons, hopen, Option.bind_eq_bind, Option.bind_some,
      List.append_assoc, List.foldlM_append, run_escaped]
    rfl
  rw [writeMember, List.foldlM_append, hkey]
  exact run_value key members h

theorem run_members (m : Text × Value) (ms : Object) {mode : Mode}
    (hmode : mode = .firstKey ∨ mode = .nextKey) (members : Object)
    (h : ∀ m' ∈ m :: ms, m'.2.Proper) :
    (writeMembers (m :: ms) ++ ['}']).foldlM Reader.step ⟨mode, [], [], members⟩ =
      some ⟨.finish, [], [], members ++ m :: ms⟩ := by
  induction ms generalizing m mode members with
  | nil =>
    obtain ⟨t, hrun, hbehind⟩ := run_member hmode members m (h m List.mem_cons_self)
    rw [writeMembers, List.flatMap_nil, List.append_nil, List.foldlM_append, hrun]
    simp [hbehind.close]
  | cons next ms ih =>
    obtain ⟨hm, hrest⟩ := List.forall_mem_cons.mp h
    obtain ⟨t, hrun, hbehind⟩ := run_member hmode members m hm
    have hsplit : writeMembers (m :: next :: ms) ++ ['}'] =
        writeMember m ++ ',' :: ' ' :: (writeMembers (next :: ms) ++ ['}']) := by
      simp [writeMembers]
    have hblank : Reader.step ⟨.nextKey, [], [], members ++ [m]⟩ ' ' =
        some ⟨.nextKey, [], [], members ++ [m]⟩ := rfl
    have hnext := ih next (Or.inr rfl) (members ++ [m]) hrest
    rw [hsplit, List.foldlM_append, hrun, Option.bind_eq_bind, Option.bind_some, List.foldlM_cons,
      hbehind.comma, Option.bind_eq_bind, Option.bind_some, List.foldlM_cons, hblank,
      Option.bind_eq_bind, Option.bind_some, hnext, List.append_assoc]
    rfl

theorem readObject_writeObject {o : Object} (h : ∀ m ∈ o, m.2.Proper) :
    readObject (writeObject o) = some o := by
  have hopen : Reader.step ⟨.start, [], [], []⟩ '{' = some ⟨.firstKey, [], [], []⟩ := rfl
  rw [readObject, writeObject, List.foldlM_cons, hopen, Option.bind_eq_bind, Option.bind_some]
  cases o with
  | nil => rfl
  | cons m ms =>
    rw [run_members m ms (Or.inl rfl) [] h]
    rfl

/-! ## Lines -/

def NoLineEnd (t : Text) : Prop := ∀ c ∈ t, c ≠ '\n' ∧ c ≠ '\r'

instance (t : Text) : Decidable (NoLineEnd t) := List.decidableBAll _ t

theorem linesFrom_line (t line rest : Text) (h : NoLineEnd t) :
    linesFrom line (t ++ '\n' :: rest) = (line ++ t) :: linesFrom [] rest := by
  induction t generalizing line with
  | nil => simp [linesFrom]
  | cons c t ih =>
    obtain ⟨hc, hrest⟩ := List.forall_mem_cons.mp h
    have hstep : linesFrom line (c :: (t ++ '\n' :: rest)) =
        linesFrom (line ++ [c]) (t ++ '\n' :: rest) := by
      rw [linesFrom.eq_def]
      split
      · simp_all
      · simp_all
      · simp_all
    rw [List.cons_append, hstep, ih _ hrest, List.append_assoc]
    rfl

theorem escapeChar_noLineEnd (c : Char) : NoLineEnd (escapeChar c) := by
  have hhex : ∀ n < 16, hexDigit n ≠ '\n' ∧ hexDigit n ≠ '\r' := by decide
  rw [escapeChar]
  split_ifs with h1 h2 h3 h4 h5 h6 h7 h8
  · decide
  · decide
  · decide
  · decide
  · decide
  · decide
  · decide
  · have hhigh := hhex (c.toNat / 16) (by omega)
    have hlow := hhex (c.toNat % 16) (by omega)
    simp [NoLineEnd, hhigh, hlow]
  · simp [NoLineEnd, h3, h4]

theorem NoLineEnd.append {a b : Text} (ha : NoLineEnd a) (hb : NoLineEnd b) : NoLineEnd (a ++ b) :=
  fun c hc => (List.mem_append.mp hc).elim (ha c) (hb c)

theorem noLineEnd_flatMap {α : Type} (f : α → Text) (xs : List α) (h : ∀ x ∈ xs, NoLineEnd (f x)) :
    NoLineEnd (xs.flatMap f) := by
  intro c hc
  obtain ⟨x, hx, hmem⟩ := List.mem_flatMap.mp hc
  exact h x hx c hmem

theorem quoted_noLineEnd (t : Text) : NoLineEnd (quoted t) := by
  have hbody := noLineEnd_flatMap escapeChar t fun c _ => escapeChar_noLineEnd c
  have hquote : NoLineEnd ['"'] := by decide
  exact hquote.append (hbody.append hquote)

theorem writeMember_noLineEnd {m : Text × Value} (h : m.2.Proper) : NoLineEnd (writeMember m) := by
  have hvalue : NoLineEnd (writeValue m.2) := by
    cases hm : m.2 with
    | text t => exact quoted_noLineEnd t
    | bare token =>
      rw [hm] at h
      intro c hc
      have hplain := h.2 c hc
      simp only [endsToken, isBlank, Bool.or_eq_false_iff, beq_eq_false_iff_ne] at hplain
      exact ⟨hplain.1.1.1.1.1.1.1.1.2, hplain.1.1.1.1.1.1.1.2⟩
  have hcolon : NoLineEnd [':', ' '] := by decide
  exact ((quoted_noLineEnd m.1).append hcolon).append hvalue

theorem writeObject_noLineEnd {o : Object} (h : ∀ m ∈ o, m.2.Proper) :
    NoLineEnd (writeObject o) := by
  have hopen : NoLineEnd ['{'] := by decide
  have hclose : NoLineEnd ['}'] := by decide
  have hcomma : NoLineEnd [',', ' '] := by decide
  have hmembers : NoLineEnd (writeMembers o) := by
    cases o with
    | nil => decide
    | cons m ms =>
      obtain ⟨hm, hrest⟩ := List.forall_mem_cons.mp h
      refine (writeMember_noLineEnd hm).append (noLineEnd_flatMap _ ms fun m' hm' => ?_)
      exact hcomma.append (writeMember_noLineEnd (hrest m' hm'))
  exact hopen.append (hmembers.append hclose)

/-- A file of lines is read line by line as the objects that were written. -/
theorem readLines_writeLines {os : List Object} (h : ∀ o ∈ os, ∀ m ∈ o, m.2.Proper) :
    readLines (writeLines os) = some os := by
  have hlines : linesFrom [] (writeLines os) = os.map writeObject := by
    induction os with
    | nil => rfl
    | cons o os ih =>
      obtain ⟨ho, hrest⟩ := List.forall_mem_cons.mp h
      have hcons : writeLines (o :: os) = writeObject o ++ '\n' :: writeLines os := by
        simp [writeLines]
      rw [hcons, linesFrom_line _ _ _ (writeObject_noLineEnd ho), ih hrest]
      rfl
  have hread : (os.map writeObject).mapM readObject = some os := by
    clear hlines
    induction os with
    | nil => rfl
    | cons o os ih =>
      obtain ⟨ho, hrest⟩ := List.forall_mem_cons.mp h
      simp [List.mapM_cons, readObject_writeObject ho, ih hrest]
  rw [readLines, hlines, hread]

theorem writeLines_append (a b : List Object) :
    writeLines (a ++ b) = writeLines a ++ writeLines b := List.flatMap_append

end JsonTexts
