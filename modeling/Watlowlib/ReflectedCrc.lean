import Mathlib.Data.BitVec
import Mathlib.Data.List.Basic
import Mathlib.Tactic.Common
import Mathlib.Tactic.Ring

/-! # Reflected cyclic redundancy checks

A register of `w` bits fed with one message bit at a time, least significant end first. Feeding is
linear, and while a message is no longer than the register only the register's own bits lead to
zero, so that every error burst that fits the register changes the check. -/
namespace ReflectedCrc

variable {w : ℕ}

def feedBit (poly r : BitVec w) (b : Bool) : BitVec w :=
  if r.getLsbD 0 != b then (r >>> 1) ^^^ poly else r >>> 1

def feed (poly r : BitVec w) (bits : List Bool) : BitVec w := bits.foldl (feedBit poly) r

/-- The first `n` bits of a register, in the order in which they leave it. -/
def lowBits : ℕ → BitVec w → List Bool
  | 0, _ => []
  | n + 1, r => r.getLsbD 0 :: lowBits n (r >>> 1)

def xorBits : List Bool → List Bool → List Bool := List.zipWith xor

@[simp] theorem feed_nil (poly r : BitVec w) : feed poly r [] = r := rfl

@[simp] theorem feed_cons (poly r : BitVec w) (b : Bool) (bits : List Bool) :
    feed poly r (b :: bits) = feed poly (feedBit poly r b) bits := rfl

theorem feed_append (poly r : BitVec w) (bits rest : List Bool) :
    feed poly r (bits ++ rest) = feed poly (feed poly r bits) rest := List.foldl_append ..

@[simp] theorem lowBits_length (n : ℕ) (r : BitVec w) : (lowBits n r).length = n := by
  induction n generalizing r with
  | zero => rfl
  | succ n ih => simp [lowBits, ih]

theorem getElem_lowBits {n i : ℕ} (r : BitVec w) (h : i < (lowBits n r).length) :
    (lowBits n r)[i] = r.getLsbD i := by
  induction n generalizing r i with
  | zero => simp at h
  | succ n ih =>
    cases i with
    | zero => rfl
    | succ i => simp [lowBits, ih, Nat.add_comm]

theorem lowBits_add (m n : ℕ) (r : BitVec w) :
    lowBits (m + n) r = lowBits m r ++ lowBits n (r >>> m) := by
  induction m generalizing r with
  | zero => simp [lowBits]
  | succ m ih =>
    rw [Nat.succ_add]
    simp only [lowBits, ih, List.cons_append, ← BitVec.shiftRight_add, Nat.add_comm 1 m]

theorem xorBits_lowBits (n : ℕ) (r s : BitVec w) :
    xorBits (lowBits n r) (lowBits n s) = lowBits n (r ^^^ s) := by
  induction n generalizing r s with
  | zero => rfl
  | succ n ih =>
    simp only [lowBits, BitVec.getLsbD_xor, BitVec.ushiftRight_xor_distrib, ← ih]
    rfl

theorem lowBits_setWidth {m n : ℕ} (h : n ≤ m) (r : BitVec w) :
    lowBits n (r.setWidth m) = lowBits n r := by
  apply List.ext_getElem
  · simp
  · intro i hi _
    have hn : i < n := by simpa using hi
    simp [getElem_lowBits, show i < m by omega]

/-- The polynomial with these exponents below the leading one, highest power in bit zero. -/
def reflected (w : ℕ) (exponents : List ℕ) : BitVec w :=
  exponents.foldr (fun e p => BitVec.twoPow w (w - 1 - e) ||| p) 0#w

def feedback (poly : BitVec w) (b : Bool) : BitVec w := if b then poly else 0#w

theorem feedback_xor (poly : BitVec w) (b c : Bool) :
    feedback poly (xor b c) = feedback poly b ^^^ feedback poly c := by
  cases b <;> cases c <;> simp [feedback]

theorem feedBit_eq (poly r : BitVec w) (b : Bool) :
    feedBit poly r b = (r >>> 1) ^^^ feedback poly (xor (r.getLsbD 0) b) := by
  simp only [feedBit, feedback, bne]
  cases r.getLsbD 0 <;> cases b <;> simp

theorem feedBit_xor (poly r s : BitVec w) (b c : Bool) :
    feedBit poly (r ^^^ s) (xor b c) = feedBit poly r b ^^^ feedBit poly s c := by
  have hbit : xor (xor (r.getLsbD 0) (s.getLsbD 0)) (xor b c) =
      xor (xor (r.getLsbD 0) b) (xor (s.getLsbD 0) c) := by
    cases s.getLsbD 0 <;> cases b <;> simp
  rw [feedBit_eq, feedBit_eq, feedBit_eq, BitVec.getLsbD_xor, hbit, feedback_xor,
    BitVec.ushiftRight_xor_distrib]
  ac_rfl

theorem feed_xor (poly : BitVec w) {bits rest : List Bool} (h : bits.length = rest.length)
    (r s : BitVec w) :
    feed poly (r ^^^ s) (xorBits bits rest) = feed poly r bits ^^^ feed poly s rest := by
  induction bits generalizing rest r s with
  | nil =>
    cases rest with
    | nil => rfl
    | cons c rest => cases h
  | cons b bits ih =>
    cases rest with
    | nil => cases h
    | cons c rest =>
      simp only [xorBits, List.zipWith_cons_cons, feed_cons, feedBit_xor]
      exact ih (Nat.succ.inj h) _ _

theorem feed_lowBits (poly : BitVec w) (n : ℕ) (r : BitVec w) :
    feed poly r (lowBits n r) = r >>> n := by
  induction n generalizing r with
  | zero => simp [lowBits]
  | succ n ih =>
    have hstep : feedBit poly r (r.getLsbD 0) = r >>> 1 := by simp [feedBit]
    rw [lowBits, feed_cons, hstep, ih, ← BitVec.shiftRight_add, Nat.add_comm]

/-- Some bits at once: the register moves down and the message, mixed with the bits that leave,
goes through an empty register. -/
theorem feed_split (poly r : BitVec w) (bits : List Bool) :
    feed poly r bits =
      (r >>> bits.length) ^^^ feed poly 0#w (xorBits (lowBits bits.length r) bits) := by
  have hbits : xorBits (lowBits bits.length r) (xorBits (lowBits bits.length r) bits) = bits := by
    apply List.ext_getElem
    · simp [xorBits]
    · intro i _ _
      simp [xorBits]
  have hlen : (lowBits bits.length r).length =
      (xorBits (lowBits bits.length r) bits).length := by
    simp [xorBits]
  have h := feed_xor poly hlen r 0#w
  rwa [hbits, BitVec.xor_zero, feed_lowBits] at h

def ofBits : List Bool → ℕ
  | [] => 0
  | b :: bits => b.toNat + 2 * ofBits bits

theorem ofBits_lt (bits : List Bool) : ofBits bits < 2 ^ bits.length := by
  induction bits with
  | nil => decide
  | cons b bits ih =>
    have hb := b.toNat_lt
    simp only [ofBits, List.length_cons, Nat.pow_succ]
    omega

theorem ofBits_eq_zero {bits : List Bool} (h : ofBits bits = 0) : ∀ b ∈ bits, b = false := by
  induction bits with
  | nil => intro b hb; cases hb
  | cons b bits ih =>
    simp only [ofBits] at h
    intro c hc
    rcases List.mem_cons.mp hc with rfl | hc
    · cases c with
      | false => rfl
      | true => simp at h
    · exact ih (by omega) c hc

/-- A polynomial whose constant term is present: its image in the register has the top bit. -/
def TopBit (poly : BitVec w) : Prop := 0 < w ∧ 2 ^ (w - 1) ≤ poly.toNat

instance (poly : BitVec w) : Decidable (TopBit poly) := inferInstanceAs (Decidable (_ ∧ _))

theorem feedBit_small {poly : BitVec w} (hp : TopBit poly) {r : BitVec w} {b : Bool}
    (h : (feedBit poly r b).toNat < 2 ^ (w - 1)) :
    r.toNat = b.toNat + 2 * (feedBit poly r b).toNat := by
  obtain ⟨hw, htop⟩ := hp
  have hshift : (r >>> 1).toNat = r.toNat / 2 := by
    simp [BitVec.toNat_ushiftRight, Nat.shiftRight_eq_div_pow]
  have hlow : r.getLsbD 0 = decide (r.toNat % 2 = 1) := by
    simp [BitVec.getLsbD, Nat.testBit_zero]
  by_cases hb : r.getLsbD 0 = b
  · have hstep : feedBit poly r b = r >>> 1 := by simp [feedBit, hb]
    rw [hstep, hshift, ← hb, hlow]
    by_cases hodd : r.toNat % 2 = 1
    · simp only [hodd, decide_true, Bool.toNat_true]
      omega
    · simp only [hodd, decide_false, Bool.toNat_false]
      omega
  · have hstep : feedBit poly r b = (r >>> 1) ^^^ poly := by
      simp only [feedBit]
      rw [if_pos (by simpa using hb)]
    have hr : r.toNat / 2 < 2 ^ (w - 1) := by
      have hpow := Nat.two_pow_pred_mul_two hw
      have := r.isLt
      omega
    have hbit : ((r >>> 1) ^^^ poly).toNat.testBit (w - 1) = true := by
      rw [BitVec.toNat_xor, Nat.testBit_xor, hshift, Nat.testBit_lt_two_pow hr]
      have hpoly : poly.toNat.testBit (w - 1) = true := by
        apply Nat.testBit_of_two_pow_le_and_two_pow_add_one_gt htop
        rw [show w - 1 + 1 = w by omega]
        exact poly.isLt
      simp [hpoly]
    rw [hstep] at h
    rw [Nat.testBit_lt_two_pow h] at hbit
    cases hbit

/-- Going backwards from a register with its top bits clear, every step was a plain shift. -/
theorem feed_small {poly : BitVec w} (hp : TopBit poly) {m : ℕ} {bits : List Bool} {r : BitVec w}
    (h : (feed poly r bits).toNat < 2 ^ m) (hm : m + bits.length ≤ w) :
    r.toNat = ofBits bits + 2 ^ bits.length * (feed poly r bits).toNat := by
  induction bits generalizing r with
  | nil => simp [ofBits]
  | cons b bits ih =>
    simp only [List.length_cons] at hm
    have hrest := ih h (by omega)
    have hlow := ofBits_lt bits
    have hstep : (feedBit poly r b).toNat < 2 ^ (w - 1) := by
      have hsum : ofBits bits + 2 ^ bits.length * (feed poly (feedBit poly r b) bits).toNat <
          2 ^ bits.length * 2 ^ m := by
        have : (feed poly (feedBit poly r b) bits).toNat + 1 ≤ 2 ^ m := h
        calc ofBits bits + 2 ^ bits.length * (feed poly (feedBit poly r b) bits).toNat
            < 2 ^ bits.length * ((feed poly (feedBit poly r b) bits).toNat + 1) := by
              rw [Nat.mul_add]
              omega
          _ ≤ 2 ^ bits.length * 2 ^ m := Nat.mul_le_mul_left _ this
      rw [← Nat.pow_add] at hsum
      calc (feedBit poly r b).toNat < 2 ^ (bits.length + m) := by omega
        _ ≤ 2 ^ (w - 1) := Nat.pow_le_pow_right (by omega) (by omega)
    rw [feedBit_small hp hstep, hrest]
    simp only [ofBits, List.length_cons, feed_cons, Nat.pow_succ]
    ring

theorem feed_eq_zero {poly : BitVec w} (hp : TopBit poly) {bits : List Bool} {r : BitVec w}
    (hlen : bits.length ≤ w) (h : feed poly r bits = 0#w) : r.toNat = ofBits bits := by
  have hzero : (feed poly r bits).toNat < 2 ^ 0 := by simp [h]
  have hsmall := feed_small hp hzero (by omega)
  simpa [h] using hsmall

theorem feed_zeros_zero (poly : BitVec w) (n : ℕ) :
    feed poly 0#w (List.replicate n false) = 0#w := by
  induction n with
  | zero => rfl
  | succ n ih =>
    have hstep : feedBit poly 0#w false = 0#w := by simp [feedBit]
    rw [List.replicate_succ, feed_cons, hstep, ih]

theorem feed_zeros_ne_zero {poly : BitVec w} (hp : TopBit poly) (n : ℕ) {r : BitVec w}
    (h : r ≠ 0#w) : feed poly r (List.replicate n false) ≠ 0#w := by
  induction n generalizing r with
  | zero => exact h
  | succ n ih =>
    rw [List.replicate_succ, feed_cons]
    apply ih
    intro hzero
    have hbit : feed poly r [false] = 0#w := hzero
    have hlen : [false].length ≤ w := hp.1
    have hr := feed_eq_zero hp hlen hbit
    exact h (BitVec.eq_of_toNat_eq (by simpa [ofBits] using hr))

/-- The ones of an error pattern: some, all of them within `n` consecutive positions. -/
def Burst (n : ℕ) (bits : List Bool) : Prop :=
  true ∈ bits ∧ ∃ k, ∀ i, bits[i]? = some true → k ≤ i ∧ i < k + n

theorem all_false_eq_replicate {bits : List Bool} (h : ∀ i : ℕ, bits[i]? ≠ some true) :
    bits = List.replicate bits.length false := by
  apply List.eq_replicate_iff.mpr ⟨rfl, ?_⟩
  intro b hb
  obtain ⟨i, hi⟩ := List.getElem?_of_mem hb
  cases b with
  | false => rfl
  | true => exact absurd hi (h i)

theorem burst_split {n : ℕ} {bits : List Bool} (h : Burst n bits) :
    ∃ a mid c, bits = List.replicate a false ++ (mid ++ List.replicate c false) ∧
      mid.length ≤ n ∧ true ∈ mid := by
  obtain ⟨hmem, k, hk⟩ := h
  have hfirst : bits.take k = List.replicate (bits.take k).length false := by
    apply all_false_eq_replicate
    intro i hi
    rw [List.getElem?_take] at hi
    split at hi
    · have := (hk i hi).1
      omega
    · cases hi
  have hlast : (bits.drop k).drop n = List.replicate ((bits.drop k).drop n).length false := by
    apply all_false_eq_replicate
    intro i hi
    rw [List.getElem?_drop, List.getElem?_drop] at hi
    have := (hk _ hi).2
    omega
  refine ⟨(bits.take k).length, (bits.drop k).take n, ((bits.drop k).drop n).length, ?_, ?_, ?_⟩
  · rw [← hfirst, ← hlast, List.take_append_drop, List.take_append_drop]
  · exact List.length_take_le ..
  · rw [← List.take_append_drop k bits, ← List.take_append_drop n (bits.drop k), hfirst,
      hlast] at hmem
    simpa using hmem

theorem feed_burst_ne_zero {poly : BitVec w} (hp : TopBit poly) {n : ℕ} (hn : n ≤ w)
    {bits : List Bool} (h : Burst n bits) : feed poly 0#w bits ≠ 0#w := by
  obtain ⟨a, mid, c, rfl, hlen, hmem⟩ := burst_split h
  rw [feed_append, feed_zeros_zero, feed_append]
  apply feed_zeros_ne_zero hp
  intro hzero
  have hbits := feed_eq_zero hp (by omega) hzero
  have hfalse := ofBits_eq_zero hbits.symm true hmem
  cases hfalse

/-- The complemented register after the whole message. -/
def check (poly preset : BitVec w) (message : List Bool) : BitVec w := ~~~ feed poly preset message

def codeword (poly preset : BitVec w) (message : List Bool) : List Bool :=
  message ++ lowBits w (check poly preset message)

/-- The register behind a message and its check does not depend on the message. -/
theorem feed_codeword (poly preset : BitVec w) (message : List Bool) :
    feed poly preset (codeword poly preset message) = feed poly 0#w (List.replicate w true) := by
  have hout : feed poly preset message >>> w = 0#w := BitVec.ushiftRight_eq_zero (Nat.le_refl w)
  have hones : xorBits (lowBits w (feed poly preset message))
      (lowBits w (check poly preset message)) = List.replicate w true := by
    apply List.ext_getElem
    · simp [xorBits]
    · intro i hi hw
      have hi : i < w := by simpa using hw
      simp [xorBits, check, getElem_lowBits, hi]
  rw [codeword, feed_append, feed_split, lowBits_length, hones, hout, BitVec.zero_xor]

theorem codeword_not_burst {poly : BitVec w} (hp : TopBit poly) (preset : BitVec w) {n : ℕ}
    (hn : n ≤ w) {a b : List Bool} (hlen : a.length = b.length) :
    ¬ Burst n (xorBits (codeword poly preset a) (codeword poly preset b)) := by
  intro h
  apply feed_burst_ne_zero hp hn h
  have hsame : (codeword poly preset a).length = (codeword poly preset b).length := by
    simp [codeword, hlen]
  have hxor := feed_xor poly hsame preset preset
  rwa [BitVec.xor_self, feed_codeword, feed_codeword, BitVec.xor_self] at hxor

end ReflectedCrc
