import Watlowlib.JsonTexts
import Watlowlib.PythonTexts

/-! # Hex dumps

A text cut into lines, and bytes written in pairs of hexadecimal digits: what Python reads of them,
and that it reads back what is written. -/
namespace HexDumps

open JsonTexts (hexValue)
open PythonTexts PythonValues

abbrev Text := List Char

/-! ## Lines -/

/-- The characters at which `str.splitlines` ends a line. -/
def isLineBreak (c : Char) : Bool :=
  [0x0a, 0x0b, 0x0c, 0x0d, 0x1c, 0x1d, 0x1e, 0x85, 0x2028, 0x2029].contains c.toNat

/-- `str.splitlines` behind the unfinished `line`. A line feed right after a carriage return belongs
to it. -/
def linesFrom (afterReturn : Bool) (line : Text) : Text → List Text
  | [] => if line = [] then [] else [line]
  | c :: rest =>
    if afterReturn = true ∧ c = '\n' then linesFrom false line rest
    else if isLineBreak c then line :: linesFrom (c == '\r') [] rest
    else linesFrom false (line ++ [c]) rest

def splitLines (text : Text) : List Text := linesFrom false [] text

def Unbroken (line : Text) : Prop := ∀ c ∈ line, isLineBreak c = false

instance (line : Text) : Decidable (Unbroken line) :=
  inferInstanceAs (Decidable (∀ c ∈ line, isLineBreak c = false))

theorem Unbroken.snoc {line : Text} {c : Char} (h : Unbroken line) (hc : isLineBreak c = false) :
    Unbroken (line ++ [c]) := by
  intro d hd
  rcases List.mem_append.mp hd with hd | hd
  · exact h d hd
  · rwa [List.mem_singleton.mp hd]

theorem linesFrom_unbroken (text : Text) {afterReturn : Bool} {line : Text} (h : Unbroken line) :
    ∀ l ∈ linesFrom afterReturn line text, Unbroken l := by
  induction text generalizing afterReturn line with
  | nil =>
    intro l hl
    rw [linesFrom] at hl
    split at hl
    · cases hl
    · rwa [List.mem_singleton.mp hl]
  | cons c rest ih =>
    intro l hl
    rw [linesFrom] at hl
    split at hl
    · exact ih h l hl
    · split at hl
      · rcases List.mem_cons.mp hl with rfl | hl
        · exact h
        · exact ih (fun d hd => by cases hd) l hl
      · rename_i hc
        exact ih (h.snoc (by simpa using hc)) l hl

theorem splitLines_unbroken (text : Text) : ∀ l ∈ splitLines text, Unbroken l :=
  linesFrom_unbroken text fun c hc => by cases hc

theorem linesFrom_line {t : Text} (h : Unbroken t) (line rest : Text) :
    linesFrom false line (t ++ '\n' :: rest) = (line ++ t) :: splitLines rest := by
  induction t generalizing line with
  | nil =>
    have hbreak : isLineBreak '\n' = true := by decide
    simp [linesFrom, hbreak, splitLines]
  | cons c t ih =>
    obtain ⟨hc, ht⟩ := List.forall_mem_cons.mp h
    rw [List.cons_append, linesFrom, if_neg (by simp), if_neg (by simp [hc]), ih ht]
    simp

theorem splitLines_joined {lines : List Text} (h : ∀ l ∈ lines, Unbroken l) :
    splitLines (lines.flatMap fun l => l ++ ['\n']) = lines := by
  induction lines with
  | nil => rfl
  | cons l lines ih =>
    obtain ⟨hl, hrest⟩ := List.forall_mem_cons.mp h
    rw [List.flatMap_cons, List.append_assoc, splitLines, List.singleton_append,
      linesFrom_line hl, ih hrest]
    rfl

/-! ## Bytes -/

def isAsciiSpace (c : Char) : Bool := decide (0x09 ≤ c.toNat ∧ c.toNat ≤ 0x0d) || c == ' '

/-- `bytes.fromhex`: white space may stand in front of a byte, not inside it. -/
def fromHex : Text → Option Bytes
  | [] => some []
  | c :: rest =>
    if isAsciiSpace c then fromHex rest
    else
      match rest with
      | [] => none
      | d :: rest =>
        match hexValue c, hexValue d with
        | some high, some low => (fromHex rest).map (UInt8.ofNat (16 * high + low) :: ·)
        | _, _ => none

/-- Two digits for each byte, in either case. -/
inductive HexPairs : Text → Bytes → Prop where
  | nil : HexPairs [] []
  | cons {c d high low t bs} (hhigh : hexValue c = some high) (hlow : hexValue d = some low)
      (h : HexPairs t bs) : HexPairs (c :: d :: t) (UInt8.ofNat (16 * high + low) :: bs)

theorem HexPairs.eq_nil_iff {t : Text} {bs : Bytes} (h : HexPairs t bs) : t = [] ↔ bs = [] := by
  cases h with
  | nil => simp
  | cons hhigh hlow h => simp

theorem isAsciiSpace_of_hexValue {c : Char} {n : ℕ} (h : hexValue c = some n) :
    isAsciiSpace c = false := by
  by_contra hspace
  rw [Bool.not_eq_false] at hspace
  simp only [isAsciiSpace, Bool.or_eq_true, decide_eq_true_eq, beq_iff_eq] at hspace
  rcases hspace with hspace | rfl
  · simp only [hexValue, Char.le_def, UInt32.le_iff_toNat_le] at h
    have hnat : c.val.toNat = c.toNat := rfl
    have hzero : ('0' : Char).val.toNat = 48 := rfl
    have hlower : ('a' : Char).val.toNat = 97 := rfl
    have hupper : ('A' : Char).val.toNat = 65 := rfl
    split_ifs at h
    · omega
    · omega
    · omega
  · have hnone : hexValue ' ' = none := by decide
    rw [hnone] at h
    cases h

theorem fromHex_iff {t : Text} (hplain : ∀ c ∈ t, isAsciiSpace c = false) {bs : Bytes} :
    fromHex t = some bs ↔ HexPairs t bs := by
  constructor
  · intro h
    induction t using fromHex.induct generalizing bs with
    | case1 =>
      cases h
      exact .nil
    | case2 c rest hspace ih => simp [hplain c List.mem_cons_self] at hspace
    | case3 c hspace => simp [fromHex, hspace] at h
    | case4 c hspace d rest high low hlow hhigh ih =>
      simp only [fromHex, hspace, hhigh, hlow, Bool.false_eq_true, if_false,
        Option.map_eq_some_iff] at h
      obtain ⟨bs, hbs, rfl⟩ := h
      exact .cons hhigh hlow (ih (fun x hx => hplain x (by simp [hx])) hbs)
    | case5 c hspace d rest hnone =>
      simp [fromHex, hspace] at h
  · intro h
    induction h with
    | nil => rfl
    | cons hhigh hlow _ ih =>
      have hrest := ih fun x hx => hplain x (by simp [hx])
      simp [fromHex, isAsciiSpace_of_hexValue hhigh, hhigh, hlow, hrest]

def digit (n : ℕ) : Char :=
  ['0', '1', '2', '3', '4', '5', '6', '7', '8', '9', 'A', 'B', 'C', 'D', 'E', 'F'].getD n '0'

def byteText (b : UInt8) : Text := [digit (b.toNat / 16), digit (b.toNat % 16)]

/-- The bytes with a space in front of each. -/
def dump (bs : Bytes) : Text := bs.flatMap fun b => ' ' :: byteText b

theorem hexValue_digit {n : ℕ} (h : n < 16) : hexValue (digit n) = some n := by
  have hall : ∀ n < 16, hexValue (digit n) = some n := by decide
  exact hall n h

theorem hexPairs_bytes (bs : Bytes) : HexPairs (bs.flatMap byteText) bs := by
  induction bs with
  | nil => exact .nil
  | cons b bs ih =>
    have hb : b.toNat < 256 := b.toNat_lt
    have hbyte : UInt8.ofNat (16 * (b.toNat / 16) + b.toNat % 16) = b := by
      rw [Nat.div_add_mod, UInt8.ofNat_toNat]
    have hpair := HexPairs.cons (hexValue_digit (n := b.toNat / 16) (by omega))
      (hexValue_digit (n := b.toNat % 16) (by omega)) ih
    rw [hbyte] at hpair
    exact hpair

theorem dump_unbroken (bs : Bytes) : Unbroken (dump bs) := by
  have hdigit : ∀ n < 16, isLineBreak (digit n) = false := by decide
  intro c hc
  obtain ⟨b, -, hc⟩ := List.mem_flatMap.mp hc
  have hb : b.toNat < 256 := b.toNat_lt
  simp only [byteText, List.mem_cons, List.not_mem_nil, or_false] at hc
  rcases hc with rfl | rfl | rfl
  · decide
  · exact hdigit _ (by omega)
  · exact hdigit _ (by omega)

end HexDumps
