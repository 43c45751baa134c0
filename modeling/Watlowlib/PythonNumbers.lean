import Watlowlib.ExceptRules
import Watlowlib.PythonTexts
import Watlowlib.WatlowErrors

/-! # Python number conversions

`float()`, `int()`, `round()`, float arithmetic, and the byte constructors `bytes([..])`,
`struct.pack` and `str.encode("ascii")`, each with the exception it raises. -/
namespace PythonNumbers

open ExceptRules PythonTexts PythonValues WatlowErrors

/-- `float(value)`; only an `int` past the largest double is refused. -/
def toFloat : PyNum → Result PyFloat
  | .float x => .ok x
  | .bool b => .ok (.finite (if b then 1 else 0))
  | .int i =>
    match BinaryFormat.nearest BinaryFormat.binary64 i with
    | some q => .ok (.finite q)
    | none => raise .overflowError [.text "int too large to convert to float"]

/-- `int(value)` truncates towards zero. -/
def toInt : PyNum → Result ℤ
  | .int i => .ok i
  | .bool b => .ok (if b then 1 else 0)
  | .float (.finite q) => .ok (if q < 0 then q.ceil else q.floor)
  | .float .negZero => .ok 0
  | .float .nan => raise .valueError [.text "cannot convert float NaN to integer"]
  | .float (.inf _) => raise .overflowError [.text "cannot convert float infinity to integer"]

theorem toInt_error_iff {n : PyNum} :
    (∃ e, toInt n = .error e) ↔ n = .float .nan ∨ ∃ negative, n = .float (.inf negative) := by
  cases n with
  | int i => simp [toInt]
  | bool b => simp [toInt]
  | float x => cases x <;> simp [toInt, raise]

theorem toInt_error_kind {n : PyNum} {e : PyError} (h : toInt n = .error e) :
    e.kind = .valueError ∨ e.kind = .overflowError := by
  rcases toInt_error_iff.mp ⟨e, h⟩ with rfl | ⟨negative, rfl⟩
  · cases h
    exact Or.inl rfl
  · cases h
    exact Or.inr rfl

/-- `round(x)` of a float: half to even. -/
def roundFloat : PyFloat → Result ℤ
  | .finite q => .ok (BinaryFormat.roundHalfEven q)
  | .negZero => .ok 0
  | .nan => raise .valueError [.text "cannot convert float NaN to integer"]
  | .inf _ => raise .overflowError [.text "cannot convert float infinity to integer"]

/-- `x / y`; the sign of an exact zero is that of the operands. -/
def divide (x y : PyFloat) : Result PyFloat :=
  let negative := x.isNegative != y.isNegative
  match y with
  | .nan => .ok .nan
  | .negZero => raise .zeroDivisionError [.text "float division by zero"]
  | .inf _ =>
    match x with
    | .nan => .ok .nan
    | .inf _ => .ok .nan
    | .negZero => .ok (.signedZero negative)
    | .finite _ => .ok (.signedZero negative)
  | .finite q =>
    if q = 0 then raise .zeroDivisionError [.text "float division by zero"]
    else
      match x with
      | .nan => .ok .nan
      | .inf _ => .ok (.inf negative)
      | .negZero => .ok (.signedZero negative)
      | .finite p => .ok (if p = 0 then .signedZero negative else ofRat (p / q))

/-- `x * y`; the sign of an exact zero is that of the operands. -/
def multiply (x y : PyFloat) : PyFloat :=
  let negative := x.isNegative != y.isNegative
  match x, y with
  | .nan, _ => .nan
  | _, .nan => .nan
  | .inf _, .inf _ => .inf negative
  | .inf _, .negZero => .nan
  | .negZero, .inf _ => .nan
  | .inf _, .finite q => if q = 0 then .nan else .inf negative
  | .finite p, .inf _ => if p = 0 then .nan else .inf negative
  | .negZero, .negZero => .signedZero negative
  | .negZero, .finite _ => .signedZero negative
  | .finite _, .negZero => .signedZero negative
  | .finite p, .finite q => if p * q = 0 then .signedZero negative else ofRat (p * q)

def bigEndian : ℕ → ℕ → Bytes
  | 0, _ => []
  | width + 1, n => bigEndian width (n / 256) ++ [UInt8.ofNat n]

@[simp] theorem bigEndian_length (width n : ℕ) : (bigEndian width n).length = width := by
  induction width generalizing n with
  | zero => rfl
  | succ width ih => simp [bigEndian, ih]

def fromBigEndian (bs : Bytes) : ℕ := bs.foldl (fun n b => 256 * n + b.toNat) 0

/-- `struct.pack` of an integer that fits: two's complement, big endian. -/
def packInt (width : ℕ) (i : ℤ) : Bytes := bigEndian width (i % 256 ^ width).toNat

/-- `struct.pack(">f", x)` -/
def packFloat : PyFloat → Result Bytes
  | .nan => .ok (bigEndian 4 BinaryFormat.binary32.quietNaN)
  | .negZero => .ok (bigEndian 4 BinaryFormat.binary32.signBit)
  | .inf n =>
    .ok (bigEndian 4 (BinaryFormat.binary32.infinityCode +
      if n then BinaryFormat.binary32.signBit else 0))
  | .finite q =>
    match BinaryFormat.encode BinaryFormat.binary32 q with
    | some code => .ok (bigEndian 4 code)
    | none => raise .overflowError [.text "float too large to pack with f format"]

theorem packFloat_length {x : PyFloat} {bs : Bytes} (h : packFloat x = .ok bs) :
    bs.length = 4 := by
  cases x with
  | nan =>
    cases h
    exact bigEndian_length ..
  | negZero =>
    cases h
    exact bigEndian_length ..
  | inf n =>
    cases h
    exact bigEndian_length ..
  | finite q =>
    simp only [packFloat, raise] at h
    split at h
    · cases h
      exact bigEndian_length ..
    · cases h

/-- `struct.unpack(">f", data)`, read back exactly as a double. -/
def unpackFloat (bs : Bytes) : PyFloat :=
  let F := BinaryFormat.binary32
  let code := fromBigEndian bs
  let negative := decide (F.signBit ≤ code)
  let magnitude := code % F.signBit
  if magnitude < F.infinityCode then .ofMagnitude negative (BinaryFormat.magnitude F magnitude)
  else if magnitude = F.infinityCode then .inf negative
  else .nan

def bytesOf (is : List ℤ) : Result Bytes :=
  if ∀ i ∈ is, 0 ≤ i ∧ i ≤ 255 then .ok (is.map fun i => UInt8.ofNat i.toNat)
  else raise .valueError [.text "bytes must be in range(0, 256)"]

theorem bytesOf_ok {is : List ℤ} (h : ∀ i ∈ is, 0 ≤ i ∧ i ≤ 255) :
    bytesOf is = .ok (is.map fun i => UInt8.ofNat i.toNat) := if_pos h

theorem bytesOf_ok_iff {is : List ℤ} {bs : Bytes} :
    bytesOf is = .ok bs ↔
      (∀ i ∈ is, 0 ≤ i ∧ i ≤ 255) ∧ bs = is.map fun i => UInt8.ofNat i.toNat := by
  unfold bytesOf
  split
  · rename_i h
    exact ⟨fun hb => ⟨h, (Except.ok.inj hb).symm⟩, fun hb => by rw [hb.2]⟩
  · rename_i h
    exact ⟨fun hb => by simp [raise] at hb, fun hb => absurd hb.1 h⟩

def isAscii (s : String) : Prop := ∀ c ∈ s.toList, c.toNat < 128

instance (s : String) : Decidable (isAscii s) :=
  inferInstanceAs (Decidable (∀ c ∈ s.toList, c.toNat < 128))

def encodeAscii (s : String) : Result Bytes :=
  if isAscii s then .ok (s.toList.map fun c => UInt8.ofNat c.toNat)
  else raise .unicodeEncodeError [.text "'ascii' codec can't encode character"]

/-- `data.rstrip(b"\x00").decode("ascii", errors="replace")` -/
def decodeAsciiReplace (bs : Bytes) : String :=
  String.ofList (((bs.reverse.dropWhile (· == 0)).reverse).map fun b =>
    if b < 128 then Char.ofNat b.toNat else Char.ofNat 0xFFFD)

theorem fromBigEndian_append (bs : Bytes) (b : UInt8) :
    fromBigEndian (bs ++ [b]) = 256 * fromBigEndian bs + b.toNat := by
  simp [fromBigEndian, List.foldl_append]

theorem fromBigEndian_lt (bs : Bytes) : fromBigEndian bs < 256 ^ bs.length := by
  induction bs using List.reverseRecOn with
  | nil => exact Nat.one_pos
  | append_singleton bs b ih =>
    have hbyte := b.toNat_lt
    rw [fromBigEndian_append, List.length_append, List.length_singleton, Nat.pow_succ]
    omega

theorem fromBigEndian_concat (bs cs : Bytes) :
    fromBigEndian (bs ++ cs) = fromBigEndian bs * 256 ^ cs.length + fromBigEndian cs := by
  induction cs using List.reverseRecOn with
  | nil => simp [fromBigEndian]
  | append_singleton cs b ih =>
    rw [← List.append_assoc, fromBigEndian_append, fromBigEndian_append, ih, List.length_append,
      List.length_singleton, Nat.pow_succ]
    ring

theorem fromBigEndian_bigEndian (width n : ℕ) :
    fromBigEndian (bigEndian width n) = n % 256 ^ width := by
  induction width generalizing n with
  | zero => simp [bigEndian, fromBigEndian, Nat.mod_one]
  | succ width ih =>
    have hpow : 256 ^ (width + 1) = 256 * 256 ^ width := Nat.pow_succ'
    rw [bigEndian, fromBigEndian_append, ih, UInt8.toNat_ofNat', hpow, Nat.mod_mul]
    omega

theorem unpackFloat_bigEndian {code : ℕ} (h : code < BinaryFormat.binary32.signBit)
    (negative : Bool) :
    unpackFloat (bigEndian 4 (if negative then BinaryFormat.binary32.signBit + code else code)) =
      if code < BinaryFormat.binary32.infinityCode then
        .ofMagnitude negative (BinaryFormat.magnitude BinaryFormat.binary32 code)
      else if code = BinaryFormat.binary32.infinityCode then .inf negative
      else .nan := by
  have hsign : BinaryFormat.binary32.signBit = 2 ^ 31 := rfl
  rw [hsign] at h ⊢
  cases negative with
  | false =>
    have hcode : fromBigEndian (bigEndian 4 code) = code := by
      rw [fromBigEndian_bigEndian]
      omega
    have hlow : decide (2 ^ 31 ≤ code) = false := decide_eq_false (by omega)
    simp only [unpackFloat, hsign, Bool.false_eq_true, if_false, hcode, hlow]
    rw [Nat.mod_eq_of_lt h]
  | true =>
    have hcode : fromBigEndian (bigEndian 4 (2 ^ 31 + code)) = 2 ^ 31 + code := by
      rw [fromBigEndian_bigEndian]
      omega
    simp only [unpackFloat, hsign, if_true, hcode]
    rw [Nat.add_mod_left, Nat.mod_eq_of_lt h]
    simp

theorem ofMagnitude_finite {negative : Bool} {m q : ℚ}
    (h : PyFloat.ofMagnitude negative m = .finite q) :
    (if negative then -m else m) = q ∧ (m = 0 → negative = false) := by
  simp only [PyFloat.ofMagnitude, PyFloat.signedZero] at h
  split at h
  · rename_i hzero
    cases negative with
    | true => cases h
    | false =>
      cases h
      exact ⟨hzero, fun _ => rfl⟩
  · rename_i hzero
    exact ⟨PyFloat.finite.inj h, fun h0 => absurd h0 hzero⟩

theorem packFloat_unpackFloat (bs : Bytes) :
    ∃ cs, packFloat (unpackFloat bs) = .ok cs ∧ cs.length = 4 ∧
      unpackFloat cs = unpackFloat bs := by
  generalize hx : unpackFloat bs = x
  cases x with
  | nan => exact ⟨_, rfl, bigEndian_length .., by decide +kernel⟩
  | inf n => exact ⟨_, rfl, bigEndian_length .., by cases n <;> decide +kernel⟩
  | negZero => exact ⟨_, rfl, bigEndian_length .., by decide +kernel⟩
  | finite q =>
    obtain ⟨code, negative, hcode, hmagnitude⟩ : ∃ (code : ℕ) (negative : Bool),
        code < BinaryFormat.binary32.infinityCode ∧
          PyFloat.ofMagnitude negative (BinaryFormat.magnitude BinaryFormat.binary32 code) =
            .finite q := by
      simp only [unpackFloat] at hx
      split at hx
      · rename_i hcode
        exact ⟨_, _, hcode, hx⟩
      · split at hx <;> cases hx
    obtain ⟨hq, hpositive⟩ := ofMagnitude_finite hmagnitude
    have henc := BinaryFormat.encode_magnitude BinaryFormat.binary32 hcode negative
    have hsign : code < BinaryFormat.binary32.signBit := lt_trans hcode (by decide)
    have hread := unpackFloat_bigEndian hsign (negative && decide (code ≠ 0))
    refine ⟨_, ?_, bigEndian_length 4 _, hread.trans ?_⟩
    · rw [hq] at henc
      simp [packFloat, henc]
    · rw [if_pos hcode, ← hmagnitude]
      by_cases hzero : code = 0
      · rw [hpositive ((BinaryFormat.magnitude_eq_zero_iff _ _).mpr hzero), Bool.false_and]
      · simp [hzero]

example : packFloat .negZero = .ok [0x80, 0, 0, 0] ∧ unpackFloat [0x80, 0, 0, 0] = .negZero := by
  decide +kernel

theorem decodeAsciiReplace_encode {s : String} (hs : isAscii s)
    (hlast : s.toList.getLast? ≠ some (Char.ofNat 0)) :
    decodeAsciiReplace (s.toList.map fun c => UInt8.ofNat c.toNat) = s := by
  have hbyte : ∀ c ∈ s.toList, (UInt8.ofNat c.toNat).toNat = c.toNat := by
    intro c hc
    have := hs c hc
    rw [UInt8.toNat_ofNat']
    omega
  have hkeep : (s.toList.map fun c => UInt8.ofNat c.toNat).reverse.dropWhile (· == 0) =
      (s.toList.map fun c => UInt8.ofNat c.toNat).reverse := by
    rw [List.getLast?_eq_head?_reverse] at hlast
    rw [← List.map_reverse]
    cases hrev : s.toList.reverse with
    | nil => rfl
    | cons c rest =>
      have hc : c ∈ s.toList := List.mem_reverse.mp (hrev ▸ List.mem_cons_self ..)
      have hne : UInt8.ofNat c.toNat ≠ 0 := by
        intro hzero
        have hnat := hbyte c hc
        rw [hzero] at hnat
        apply hlast
        rw [hrev, List.head?_cons, ← Char.ofNat_toNat c, ← hnat]
        rfl
      rw [List.map_cons, List.dropWhile_cons_of_neg (by simpa using hne)]
  have hback : (s.toList.map fun c => UInt8.ofNat c.toNat).map (fun b =>
      if b < 128 then Char.ofNat b.toNat else Char.ofNat 0xFFFD) = s.toList := by
    rw [List.map_map]
    conv_rhs => rw [← List.map_id s.toList]
    apply List.map_congr_left
    intro c hc
    have hlt : UInt8.ofNat c.toNat < 128 := by
      rw [UInt8.lt_iff_toNat_lt, hbyte c hc]
      exact hs c hc
    simp only [Function.comp_apply, if_pos hlt, hbyte c hc, Char.ofNat_toNat, id_eq]
  rw [decodeAsciiReplace, hkeep, List.reverse_reverse, hback, String.ofList_toList]

end PythonNumbers
