import Watlowlib.CodecRoundTrips
import Watlowlib.ParameterCommands

/-! # What is assumed of the register codec

The Modbus library reads back what it wrote, on the range of each register type, and refuses the
integers outside it. A codec over big-endian bytes is one that does. -/
namespace RegisterCodec

open CodecRoundTrips ExceptRules ModbusCodec ModbusOps ParameterCommands PythonNumbers PythonValues
  StdBusTlv WatlowErrors

def RegisterType.IntRange : RegisterType → ℤ → Prop
  | .int32, i => -2 ^ 31 ≤ i ∧ i ≤ 2 ^ 31 - 1
  | .uint32, i => 0 ≤ i ∧ i ≤ 0xFFFFFFFF
  | .uint16, i => 0 ≤ i ∧ i ≤ 0xFFFF
  | .int16, i => -2 ^ 15 ≤ i ∧ i ≤ 2 ^ 15 - 1
  | _, _ => False

/-- The values that a register type holds; a text has no NUL at its end and fits the registers. -/
def Holds : RegisterType → Option ℕ → PyValue → Prop
  | .float32, _, .num (.float x) => IsBinary32 x
  | .string, some count, .str s =>
    isAscii s ∧ s.length ≤ 2 * count ∧ s.toList.getLast? ≠ some (Char.ofNat 0)
  | type, _, .num (.int i) => RegisterType.IntRange type i
  | _, _, _ => False

/-- What is written is read back, and an unsigned register holds the number itself. -/
structure Lawful (lib : AnyModbus) : Prop where
  inverse : ∀ type count v wordOrder byteOrder, Holds type count v →
    ∃ words, lib.encode type v count wordOrder byteOrder = .ok words ∧
      lib.decode type words wordOrder byteOrder = .ok v
  word : ∀ (w : UInt16) wordOrder,
    lib.encode .uint16 (.num (.int w.toNat)) none wordOrder .big = .ok [w]

/-- And no integer outside the range of its register type is written. -/
structure Strict (lib : AnyModbus) : Prop extends Lawful lib where
  refuses : ∀ type i count wordOrder byteOrder, type ≠ .float32 →
    ¬ RegisterType.IntRange type i →
    ∃ e, lib.encode type (.num (.int i)) count wordOrder byteOrder = .error e

theorem Lawful.decode_word {lib : AnyModbus} (h : Lawful lib) (w : UInt16) (order : WordOrder) :
    lib.decode .uint16 [w] order .big = .ok (.num (.int w.toNat)) := by
  have hrange : Holds .uint16 none (.num (.int w.toNat)) := by
    have hlt := w.toNat_lt
    exact ⟨by omega, by omega⟩
  obtain ⟨words, hencode, hdecode⟩ := h.inverse _ _ _ order .big hrange
  rw [h.word] at hencode
  cases hencode
  exact hdecode

section Bytes

def wordsOf : Bytes → Words
  | hi :: lo :: rest => UInt16.ofNat (256 * hi.toNat + lo.toNat) :: wordsOf rest
  | _ => []

def swapBytes (w : UInt16) : UInt16 := UInt16.ofNat (256 * (w.toNat % 256) + w.toNat / 256)

/-- The registers in the order of the words and of the bytes in each. -/
def arrange (wordOrder : WordOrder) (byteOrder : ByteOrder) (words : Words) : Words :=
  let swapped := if byteOrder = .little then words.map swapBytes else words
  if wordOrder = .lowHigh then swapped.reverse else swapped

def integerBytes (lo hi : ℤ) (width : ℕ) (i : ℤ) : Result Bytes :=
  if lo ≤ i ∧ i ≤ hi then .ok (packInt width i)
  else raise .valueError [.text "value out of range: ", .int i]

def textBytes (s : String) (count : ℕ) : Result Bytes := do
  let raw ← encodeAscii s
  if 2 * count < raw.length then raise .valueError [.text "string too long: ", .strRepr s]
  else .ok (raw ++ List.replicate (2 * count - raw.length) 0)

def registerBytes : RegisterType → PyValue → Option ℕ → Result Bytes
  | .float32, .num (.float x), _ => packFloat x
  | .int32, .num (.int i), _ => integerBytes (-2 ^ 31) (2 ^ 31 - 1) 4 i
  | .uint32, .num (.int i), _ => integerBytes 0 0xFFFFFFFF 4 i
  | .uint16, .num (.int i), _ => integerBytes 0 0xFFFF 2 i
  | .int16, .num (.int i), _ => integerBytes (-2 ^ 15) (2 ^ 15 - 1) 2 i
  | .string, .str s, some count => textBytes s count
  | _, _, _ => raise .typeError [.text "value does not fit the register type"]

def registerValue : RegisterType → Bytes → Result PyValue
  | .float32, bs => .ok (.num (.float (unpackFloat bs)))
  | .int32, bs => .ok (.num (.int (unpackSigned 4 bs)))
  | .uint32, bs => .ok (readUnsigned bs)
  | .uint16, bs => .ok (readUnsigned bs)
  | .int16, bs => .ok (.num (.int (unpackSigned 2 bs)))
  | .string, bs =>
    if bs.all (· < 128) then .ok (.str (decodeAsciiReplace bs))
    else raise .unicodeDecodeError [.text "'ascii' codec can't decode byte"]

theorem wordsOf_length (bs : Bytes) : (wordsOf bs).length = bs.length / 2 := by
  fun_induction wordsOf bs with
  | case1 hi lo rest ih =>
    simp only [List.length_cons, ih]
    omega
  | case2 bs h =>
    match bs with
    | [] => rfl
    | [_] => simp
    | hi :: lo :: rest => exact absurd rfl (h hi lo rest)

theorem word_bytes (hi lo : UInt8) (w : UInt16) (hw : w.toNat = 256 * hi.toNat + lo.toNat) :
    (w >>> 8).toUInt8 = hi ∧ w.toUInt8 = lo := by
  have hhi := hi.toNat_lt
  have hlo := lo.toNat_lt
  constructor
  · apply UInt8.toNat_inj.mp
    rw [UInt16.toNat_toUInt8, UInt16.toNat_shiftRight, hw, Nat.shiftRight_eq_div_pow]
    simp
    omega
  · apply UInt8.toNat_inj.mp
    rw [UInt16.toNat_toUInt8, hw]
    omega

theorem wordBytes_wordsOf (bs : Bytes) (h : bs.length % 2 = 0) : wordBytes (wordsOf bs) = bs := by
  fun_induction wordsOf bs with
  | case1 hi lo rest ih =>
    have hhi := hi.toNat_lt
    have hlo := lo.toNat_lt
    obtain ⟨hfirst, hsecond⟩ := word_bytes hi lo (UInt16.ofNat (256 * hi.toNat + lo.toNat)) (by
      rw [UInt16.toNat_ofNat']
      omega)
    have hrest := ih (by simp only [List.length_cons] at h; omega)
    rw [wordBytes] at hrest ⊢
    rw [List.flatMap_cons, hrest, hfirst, hsecond]
    rfl
  | case2 bs hbs =>
    match bs with
    | [] => rfl
    | [_] => simp at h
    | hi :: lo :: rest => exact absurd rfl (hbs hi lo rest)

theorem swapBytes_swapBytes (w : UInt16) : swapBytes (swapBytes w) = w := by
  have hlt := w.toNat_lt
  have hswap : (swapBytes w).toNat = 256 * (w.toNat % 256) + w.toNat / 256 := by
    rw [swapBytes, UInt16.toNat_ofNat']
    omega
  have hlow : (swapBytes w).toNat % 256 = w.toNat / 256 := by omega
  have hhigh : (swapBytes w).toNat / 256 = w.toNat % 256 := by omega
  apply UInt16.toNat_inj.mp
  rw [swapBytes, UInt16.toNat_ofNat', hlow, hhigh]
  omega

theorem arrange_arrange (wordOrder : WordOrder) (byteOrder : ByteOrder) (words : Words) :
    arrange wordOrder byteOrder (arrange wordOrder byteOrder words) = words := by
  cases wordOrder <;> cases byteOrder <;> simp [arrange, Function.comp_def, swapBytes_swapBytes]

theorem arrange_length (wordOrder : WordOrder) (byteOrder : ByteOrder) (words : Words) :
    (arrange wordOrder byteOrder words).length = words.length := by
  cases wordOrder <;> cases byteOrder <;> simp [arrange]

theorem integerBytes_length {lo hi i : ℤ} {width : ℕ} {bs : Bytes}
    (h : integerBytes lo hi width i = .ok bs) : bs.length = width := by
  simp only [integerBytes, raise] at h
  split at h
  · cases h
    exact packInt_length width i
  · cases h

theorem textBytes_length {s : String} {count : ℕ} {bs : Bytes} (h : textBytes s count = .ok bs) :
    bs.length = 2 * count := by
  obtain ⟨raw, -, h⟩ := bind_ok_iff.mp h
  simp only [raise] at h
  split at h
  · cases h
  · cases h
    rw [List.length_append, List.length_replicate]
    omega

theorem registerBytes_length {type : RegisterType} {v : PyValue} {count : Option ℕ} {bs : Bytes}
    (h : registerBytes type v count = .ok bs) :
    ∀ n ∈ type.wordCount count, bs.length = 2 * n := by
  simp only [registerBytes] at h
  split at h
  · rintro n ⟨⟩
    exact packFloat_length h
  · rintro n ⟨⟩
    exact integerBytes_length h
  · rintro n ⟨⟩
    exact integerBytes_length h
  · rintro n ⟨⟩
    exact integerBytes_length h
  · rintro n ⟨⟩
    exact integerBytes_length h
  · rintro n ⟨⟩
    exact textBytes_length h
  · cases h

def byteEncode (type : RegisterType) (v : PyValue) (count : Option ℕ) (wordOrder : WordOrder)
    (byteOrder : ByteOrder) : Result Words := do
  let bs ← registerBytes type v count
  .ok (arrange wordOrder byteOrder (wordsOf bs))

theorem byteEncode_length (type : RegisterType) (v : PyValue) (count : Option ℕ)
    (wordOrder : WordOrder) (byteOrder : ByteOrder) (words : Words)
    (h : byteEncode type v count wordOrder byteOrder = .ok words) :
    ∀ n ∈ type.wordCount count, words.length = n := by
  intro n hn
  obtain ⟨bs, hbs, h⟩ := bind_ok_iff.mp h
  cases h
  have hlen := registerBytes_length hbs n hn
  rw [arrange_length, wordsOf_length]
  omega

/-- A register codec over big-endian bytes. -/
def byteModbus : AnyModbus where
  wordOrder label :=
    if label = "high_low" then some .highLow else if label = "low_high" then some .lowHigh else none
  encode := byteEncode
  decode type words wordOrder byteOrder :=
    registerValue type (wordBytes (arrange wordOrder byteOrder words))
  encode_length := byteEncode_length

theorem unpackSigned_two {i : ℤ} (h : -2 ^ 15 ≤ i ∧ i ≤ 2 ^ 15 - 1) :
    unpackSigned 2 (packInt 2 i) = i := by
  have hback : fromBigEndian (packInt 2 i) = (i % 256 ^ 2).toNat % 256 ^ 2 :=
    fromBigEndian_bigEndian 2 _
  simp only [unpackSigned, hback]
  split <;> omega

theorem integerBytes_ok {lo hi i : ℤ} (width : ℕ) (h : lo ≤ i ∧ i ≤ hi) :
    integerBytes lo hi width i = .ok (packInt width i) := if_pos h

theorem decodeAsciiReplace_padded (bs : Bytes) (n : ℕ) :
    decodeAsciiReplace (bs ++ List.replicate n 0) = decodeAsciiReplace bs := by
  have hdrop : (List.replicate n (0 : UInt8) ++ bs.reverse).dropWhile (· == 0) =
      bs.reverse.dropWhile (· == 0) := by
    induction n with
    | zero => rfl
    | succ n ih => simp [List.replicate_succ]
  rw [decodeAsciiReplace, List.reverse_append, List.reverse_replicate, hdrop]
  rfl

theorem textBytes_round_trip {s : String} {count : ℕ} (hascii : isAscii s)
    (hlen : s.length ≤ 2 * count) (hlast : s.toList.getLast? ≠ some (Char.ofNat 0)) :
    ∃ bs, textBytes s count = .ok bs ∧ registerValue .string bs = .ok (.str s) := by
  have hsize : (s.toList.map fun c => UInt8.ofNat c.toNat).length = s.length := by
    rw [List.length_map, String.length_toList]
  refine ⟨_, bind_ok_iff.mpr ⟨_, if_pos hascii, if_neg (by omega)⟩, ?_⟩
  have hlow : ∀ b ∈ s.toList.map (fun c => UInt8.ofNat c.toNat), b < (128 : UInt8) := by
    intro b hb
    obtain ⟨c, hc, rfl⟩ := List.mem_map.mp hb
    have hlt := hascii c hc
    rw [UInt8.lt_iff_toNat_lt, UInt8.toNat_ofNat', Nat.mod_eq_of_lt (by omega)]
    exact hlt
  have hbytes : ∀ n, (s.toList.map (fun c => UInt8.ofNat c.toNat) ++
      List.replicate n (0 : UInt8)).all (fun b => decide (b < 128)) = true := by
    intro n
    rw [List.all_eq_true]
    intro b hb
    apply decide_eq_true
    rcases List.mem_append.mp hb with hb | hb
    · exact hlow b hb
    · rw [List.eq_of_mem_replicate hb]
      decide
  rw [registerValue, if_pos (hbytes _), decodeAsciiReplace_padded, decodeAsciiReplace_encode hascii
    hlast]

theorem registerBytes_round_trip {type : RegisterType} {count : Option ℕ} {v : PyValue}
    (h : Holds type count v) :
    ∃ bs, registerBytes type v count = .ok bs ∧ registerValue type bs = .ok v := by
  cases v with
  | str s =>
    cases type with
    | string =>
      cases count with
      | none => cases h
      | some count => exact textBytes_round_trip h.1 h.2.1 h.2.2
    | _ => cases h
  | num n =>
    cases n with
    | bool b => cases type <;> cases count <;> cases h
    | float x =>
      cases type with
      | float32 =>
        obtain ⟨bs, -, rfl⟩ := h
        obtain ⟨cs, hpack, -, hvalue⟩ := packFloat_unpackFloat bs
        exact ⟨cs, hpack, by rw [registerValue, hvalue]⟩
      | string => cases count <;> cases h
      | _ => cases h
    | int i =>
      cases type with
      | float32 => cases h
      | string => cases count <;> cases h
      | int32 =>
        refine ⟨_, integerBytes_ok 4 h, ?_⟩
        rw [registerValue, unpackSigned_packInt h.1 h.2]
      | uint32 =>
        have hhi : i ≤ 0xFFFFFFFF := h.2
        refine ⟨_, integerBytes_ok 4 h, ?_⟩
        rw [registerValue, readUnsigned_packInt h.1 (by omega)]
      | uint16 =>
        have hhi : i ≤ 0xFFFF := h.2
        refine ⟨_, integerBytes_ok 2 h, ?_⟩
        rw [registerValue, readUnsigned_packInt h.1 (by omega)]
      | int16 =>
        refine ⟨_, integerBytes_ok 2 h, ?_⟩
        rw [registerValue, unpackSigned_two h]

theorem wordsOf_packInt (w : UInt16) : wordsOf (packInt 2 (w.toNat : ℤ)) = [w] := by
  have hlt := w.toNat_lt
  have hmod : ((w.toNat : ℤ) % 256 ^ 2).toNat = w.toNat := by omega
  rw [packInt, hmod]
  change [UInt16.ofNat (256 * (UInt8.ofNat (w.toNat / 256)).toNat +
    (UInt8.ofNat w.toNat).toNat)] = [w]
  have hvalue : 256 * (UInt8.ofNat (w.toNat / 256)).toNat + (UInt8.ofNat w.toNat).toNat =
      w.toNat := by
    rw [UInt8.toNat_ofNat', UInt8.toNat_ofNat']
    omega
  rw [hvalue, UInt16.ofNat_toNat]

theorem wordCount_of_holds {type : RegisterType} {count : Option ℕ} {v : PyValue}
    (h : Holds type count v) : ∃ n, n ∈ type.wordCount count := by
  cases type with
  | string =>
    cases count with
    | some count => exact ⟨count, rfl⟩
    | none =>
      cases v with
      | str s => cases h
      | num n => cases n <;> cases h
  | _ => exact ⟨_, rfl⟩

theorem registerBytes_refuses {type : RegisterType} {i : ℤ} (count : Option ℕ)
    (h : ¬ RegisterType.IntRange type i) :
    ∃ e, registerBytes type (.num (.int i)) count = .error e := by
  cases type with
  | float32 => exact ⟨_, rfl⟩
  | string => cases count <;> exact ⟨_, rfl⟩
  | int32 => exact ⟨_, if_neg h⟩
  | uint32 => exact ⟨_, if_neg h⟩
  | uint16 => exact ⟨_, if_neg h⟩
  | int16 => exact ⟨_, if_neg h⟩

theorem byteModbus_strict : Strict byteModbus := by
  refine ⟨⟨?_, ?_⟩, ?_⟩
  · intro type count v wordOrder byteOrder h
    obtain ⟨bs, hencode, hvalue⟩ := registerBytes_round_trip h
    obtain ⟨n, hn⟩ := wordCount_of_holds h
    have hlen := registerBytes_length hencode n hn
    refine ⟨_, bind_ok_iff.mpr ⟨bs, hencode, rfl⟩, ?_⟩
    change registerValue type (wordBytes (arrange wordOrder byteOrder _)) = .ok v
    rw [arrange_arrange, wordBytes_wordsOf bs (by omega)]
    exact hvalue
  · intro w wordOrder
    have hlt := w.toNat_lt
    have hrange : (0 : ℤ) ≤ w.toNat ∧ (w.toNat : ℤ) ≤ 0xFFFF := by omega
    refine bind_ok_iff.mpr ⟨_, integerBytes_ok 2 hrange, ?_⟩
    rw [wordsOf_packInt]
    cases wordOrder <;> rfl
  · intro type i count wordOrder byteOrder _ h
    obtain ⟨e, he⟩ := registerBytes_refuses count h
    exact ⟨e, bind_error_iff.mpr (Or.inl he)⟩

end Bytes

end RegisterCodec
