import Mathlib.Data.Nat.Bitwise
import Watlowlib.PayloadGrammar

/-! # Decoding a value from the front of a buffer

The value decoder statement by statement: every index, every slice and every `unpack` can fault.
None does. What it returns depends on the bytes it consumes and on nothing behind them. -/
namespace ValuePrefixes

open ExceptRules PayloadGrammar PythonNumbers PythonValues StdBusTlv WatlowErrors

/-- What a statement of the decoder can end with: an error it raises itself, a read out of bounds,
or the `struct.error` of a buffer that is not as long as its format. -/
inductive ReadFault where
  | raised (e : PyError)
  | outOfBounds
  | structError

abbrev Read := Except ReadFault

/-- `buf[i]` -/
def index (buf : Bytes) (i : ℕ) : Read UInt8 :=
  match buf[i]? with
  | some b => .ok b
  | none => .error .outOfBounds

/-- `buf[lo:hi]`. A slice over the end would be cut short, and counts as out of bounds here. -/
def slice (buf : Bytes) (lo hi : ℕ) : Read Bytes :=
  if hi ≤ buf.length then .ok ((buf.take hi).drop lo) else .error .outOfBounds

/-- `struct.unpack` of a format of `width` bytes. -/
def unpack {β : Type} (width : ℕ) (read : Bytes → β) (bs : Bytes) : Read β :=
  if bs.length = width then .ok (read bs) else .error .structError

def unpackAt {β : Type} (buf : Bytes) (lo hi width : ℕ) (read : Bytes → β) : Read β := do
  let bs ← slice buf lo hi
  unpack width read bs

def fail {β : Type} (message : Message) : Read β :=
  .error (.raised ⟨.valueError, message, {}⟩)

/-- `for i in range(n)` over the words of a wide packed value, after `i` turns. -/
def wideLoop (buf : Bytes) : ℕ → Read ℕ
  | 0 => .ok 0
  | i + 1 => do
    let wide ← wideLoop buf i
    let w ← unpackAt buf (2 + 2 * i) (4 + 2 * i) 2 fromBigEndian
    .ok (wide <<< 16 ||| w)

def decodeValueReads (buf : Bytes) : Read Decoded :=
  if buf.isEmpty then fail [.text "empty value buffer"]
  else do
    let tag ← index buf 0
    if tag = DataType.u8.tag then
      if buf.length < 2 then fail [.text "truncated ", .text "u8", .text " value"]
      else do
        let v ← index buf 1
        .ok ⟨.num (.int v.toNat), tag, 2⟩
    else if tag = DataType.u16.tag then
      if buf.length < 3 then fail [.text "truncated ", .text "u16", .text " value"]
      else do
        let v ← unpackAt buf 1 3 2 fromBigEndian
        .ok ⟨.num (.int v), tag, 3⟩
    else if tag = DataType.u32.tag then
      if buf.length < 5 then fail [.text "truncated ", .text "u32", .text " value"]
      else do
        let v ← unpackAt buf 1 5 4 fromBigEndian
        .ok ⟨.num (.int v), tag, 5⟩
    else if tag = DataType.s32.tag then
      if buf.length < 5 then fail [.text "truncated ", .text "s32", .text " value"]
      else do
        let v ← unpackAt buf 1 5 4 (unpackSigned 4)
        .ok ⟨.num (.int v), tag, 5⟩
    else if tag = DataType.float.tag then
      if buf.length < 5 then fail [.text "truncated ", .text "float", .text " value"]
      else do
        let v ← unpackAt buf 1 5 4 unpackFloat
        .ok ⟨.num (.float v), tag, 5⟩
    else if tag = DataType.string.tag then
      if buf.length < 2 then fail [.text "truncated ", .text "string", .text " header"]
      else do
        let n ← index buf 1
        if buf.length < 2 + n.toNat then fail [.text "truncated ", .text "string", .text " body"]
        else do
          let raw ← slice buf 2 (2 + n.toNat)
          .ok ⟨.str (decodeAsciiReplace raw), tag, 2 + n.toNat⟩
    else if tag = DataType.packed.tag then
      if buf.length < 2 then fail [.text "truncated ", .text "packed-int", .text " header"]
      else do
        let n ← index buf 1
        if buf.length < 2 + 2 * n.toNat then
          fail [.text "truncated ", .text "packed-int", .text " body"]
        else if n = 1 then do
          let v ← unpackAt buf 2 4 2 fromBigEndian
          .ok ⟨.num (.int v), tag, 4⟩
        else do
          let v ← wideLoop buf n.toNat
          .ok ⟨.num (.int v), tag, 2 + 2 * n.toNat⟩
    else
      fail [.text "unknown type tag: 0x", .hex 2 tag.toNat, .text " (rest: ",
        .bytesHex (buf.take 8), .text ")"]

/-! ## No read faults -/

section Reads

variable {buf : Bytes} {β : Type} {lo hi width : ℕ} {read : Bytes → β}

theorem slice_eq (h : hi ≤ buf.length) : slice buf lo hi = .ok ((buf.take hi).drop lo) := if_pos h

theorem unpackAt_eq (h : hi ≤ buf.length) (hwidth : hi = lo + width) :
    unpackAt buf lo hi width read = .ok (read ((buf.take hi).drop lo)) := by
  have hlen : ((buf.take hi).drop lo).length = width := by
    rw [List.length_drop, List.length_take_of_le h]
    omega
  rw [unpackAt, slice_eq h]
  exact if_pos hlen

theorem wideLoop_eq {i : ℕ} (h : 2 + 2 * i ≤ buf.length) :
    wideLoop buf i = .ok (fromBigEndian ((buf.take (2 + 2 * i)).drop 2)) := by
  induction i with
  | zero => simp [wideLoop, fromBigEndian]
  | succ i ih =>
    have hroom : 4 + 2 * i ≤ buf.length := by omega
    have hsplit : (buf.take (2 + 2 * (i + 1))).drop 2 =
        (buf.take (2 + 2 * i)).drop 2 ++ (buf.take (4 + 2 * i)).drop (2 + 2 * i) := by
      have hwords : 2 + 2 * (i + 1) = 2 + 2 * i + 2 := by ring
      have hturn : (buf.take (4 + 2 * i)).drop (2 + 2 * i) = (buf.drop (2 + 2 * i)).take 2 := by
        rw [List.drop_take]
        congr 1
        omega
      have hhead : 2 ≤ (buf.take (2 + 2 * i)).length := by
        rw [List.length_take_of_le (by omega)]
        omega
      rw [hwords, List.take_add, List.drop_append_of_le_length hhead, hturn]
    have hlen : ((buf.take (4 + 2 * i)).drop (2 + 2 * i)).length = 2 := by
      rw [List.length_drop, List.length_take_of_le hroom]
      omega
    have hword : fromBigEndian ((buf.take (4 + 2 * i)).drop (2 + 2 * i)) < 2 ^ 16 := by
      have hlt := fromBigEndian_lt ((buf.take (4 + 2 * i)).drop (2 + 2 * i))
      rwa [hlen] at hlt
    rw [wideLoop, ih (by omega), unpackAt_eq hroom (by omega), hsplit, fromBigEndian_concat, hlen,
      ok_bind, ok_bind, ← Nat.shiftLeft_add_eq_or_of_lt hword, Nat.shiftLeft_eq]
    rfl

end Reads

section Branches

variable {tag : UInt8} {data : Bytes}

theorem fixed_branch {β : Type} (width : ℕ) (label : String) (read : Bytes → β)
    (value : β → PyValue) :
    (if (tag :: data).length < 1 + width then
        fail [.text "truncated ", .text label, .text " value"]
      else do
        let v ← unpackAt (tag :: data) 1 (1 + width) width read
        .ok ⟨value v, tag, 1 + width⟩) =
      (decodeFixed tag width label (fun bs => value (read bs)) data).mapError .raised := by
  by_cases h : data.length < width
  · have hlong : (tag :: data).length < 1 + width := by
      rw [List.length_cons]
      omega
    rw [if_pos hlong, decodeFixed, if_pos h]
    rfl
  · have hshort : ¬ (tag :: data).length < 1 + width := by
      rw [List.length_cons]
      omega
    have htake : ((tag :: data).take (1 + width)).drop 1 = data.take width := by
      rw [Nat.add_comm, List.take_succ_cons]
      rfl
    rw [if_neg hshort, unpackAt_eq (by omega) rfl, decodeFixed, if_neg h, ok_bind, htake]
    rfl

theorem prefixed_branch (unit : ℕ) (size : UInt8 → ℕ) (hsize : ∀ n, size n = unit * n.toNat)
    (label : String) (read : Bytes → PyValue) (body : UInt8 → Read Decoded)
    (hbody : ∀ n rest, data = n :: rest → size n ≤ rest.length →
      body n = .ok ⟨read (rest.take (size n)), tag, 2 + size n⟩) :
    (if (tag :: data).length < 2 then
        fail [.text "truncated ", .text label, .text " header"]
      else do
        let n ← index (tag :: data) 1
        if (tag :: data).length < 2 + size n then
          fail [.text "truncated ", .text label, .text " body"]
        else body n) =
      (decodePrefixed tag unit label read data).mapError .raised := by
  cases data with
  | nil => rfl
  | cons n rest =>
    have hhead : ¬ (tag :: n :: rest).length < 2 := by simp
    have hindex : index (tag :: n :: rest) 1 = .ok n := rfl
    rw [if_neg hhead, hindex, ok_bind, decodePrefixed, ← hsize]
    by_cases h : rest.length < size n
    · have hlong : (tag :: n :: rest).length < 2 + size n := by
        rw [List.length_cons, List.length_cons]
        omega
      rw [if_pos hlong, if_pos h]
      rfl
    · have hshort : ¬ (tag :: n :: rest).length < 2 + size n := by
        rw [List.length_cons, List.length_cons]
        omega
      rw [if_neg hshort, hbody n rest rfl (not_lt.mp h), if_neg h]
      rfl

theorem byte_branch :
    (if (tag :: data).length < 2 then fail [.text "truncated ", .text "u8", .text " value"]
      else do
        let v ← index (tag :: data) 1
        .ok ⟨.num (.int v.toNat), tag, 2⟩) =
      (decodeFixed tag 1 "u8" readUnsigned data).mapError .raised := by
  cases data with
  | nil => rfl
  | cons b rest =>
    have hlong : ¬ (tag :: b :: rest).length < 2 := by simp
    have hroom : ¬ (b :: rest).length < 1 := by simp
    have hbyte : readUnsigned ((b :: rest).take 1) = .num (.int b.toNat) := by
      simp [readUnsigned, fromBigEndian]
    rw [if_neg hlong, decodeFixed, if_neg hroom, hbyte]
    rfl

theorem packed_body {n : UInt8} {rest : Bytes} (hlen : 2 * n.toNat ≤ rest.length) :
    (if n = 1 then do
        let v ← unpackAt (tag :: n :: rest) 2 4 2 fromBigEndian
        .ok ⟨.num (.int v), tag, 4⟩
      else do
        let v ← wideLoop (tag :: n :: rest) n.toNat
        .ok ⟨.num (.int v), tag, 2 + 2 * n.toNat⟩) =
      (.ok ⟨readUnsigned (rest.take (2 * n.toNat)), tag, 2 + 2 * n.toNat⟩ : Read Decoded) := by
  have htake : ∀ k, ((tag :: n :: rest).take (2 + k)).drop 2 = rest.take k := by
    intro k
    rw [Nat.add_comm, List.take_succ_cons, List.take_succ_cons]
    rfl
  have hroom : 2 + 2 * n.toNat ≤ (tag :: n :: rest).length := by
    rw [List.length_cons, List.length_cons]
    omega
  by_cases hone : n = 1
  · subst hone
    have hpair : 4 ≤ (tag :: 1 :: rest).length := hroom
    have hword : ((tag :: 1 :: rest).take 4).drop 2 = rest.take 2 := htake 2
    rw [if_pos rfl, unpackAt_eq hpair rfl, ok_bind, hword]
    rfl
  · rw [if_neg hone, wideLoop_eq hroom, ok_bind, htake]
    rfl

end Branches

/-- No statement of the decoder faults: it returns what the plain decoder returns, and raises what
that raises. -/
theorem decodeValueReads_eq (buf : Bytes) :
    decodeValueReads buf = (decodeValue buf).mapError .raised := by
  cases buf with
  | nil => rfl
  | cons tag data =>
    have hindex : index (tag :: data) 0 = .ok tag := rfl
    rw [decodeValueReads, decodeValue, if_neg (by simp), hindex, ok_bind]
    by_cases h1 : tag = DataType.u8.tag
    · rw [if_pos h1, if_pos h1]
      exact byte_branch
    rw [if_neg h1, if_neg h1]
    by_cases h2 : tag = DataType.u16.tag
    · rw [if_pos h2, if_pos h2]
      exact fixed_branch 2 "u16" fromBigEndian fun v => .num (.int v)
    rw [if_neg h2, if_neg h2]
    by_cases h3 : tag = DataType.u32.tag
    · rw [if_pos h3, if_pos h3]
      exact fixed_branch 4 "u32" fromBigEndian fun v => .num (.int v)
    rw [if_neg h3, if_neg h3]
    by_cases h4 : tag = DataType.s32.tag
    · rw [if_pos h4, if_pos h4]
      exact fixed_branch 4 "s32" (unpackSigned 4) fun v => .num (.int v)
    rw [if_neg h4, if_neg h4]
    by_cases h5 : tag = DataType.float.tag
    · rw [if_pos h5, if_pos h5]
      exact fixed_branch 4 "float" unpackFloat fun v => .num (.float v)
    rw [if_neg h5, if_neg h5]
    by_cases h6 : tag = DataType.string.tag
    · rw [if_pos h6, if_pos h6]
      refine prefixed_branch 1 UInt8.toNat (fun n => (Nat.one_mul _).symm) "string"
        (fun bs => .str (decodeAsciiReplace bs)) _ ?_
      rintro n rest rfl hlen
      have htake : ((tag :: n :: rest).take (2 + n.toNat)).drop 2 = rest.take n.toNat := by
        rw [Nat.add_comm, List.take_succ_cons, List.take_succ_cons]
        rfl
      have hroom : 2 + n.toNat ≤ (tag :: n :: rest).length := by
        rw [List.length_cons, List.length_cons]
        omega
      rw [slice_eq hroom, ok_bind, htake]
    rw [if_neg h6, if_neg h6]
    by_cases h7 : tag = DataType.packed.tag
    · rw [if_pos h7, if_pos h7]
      refine prefixed_branch 2 (fun n => 2 * n.toNat) (fun _ => rfl) "packed-int" readUnsigned _ ?_
      rintro n rest rfl hlen
      exact packed_body hlen
    rw [if_neg h7, if_neg h7]
    rfl

/-! ## Prefixes -/

def RaisesValueError (r : Read Decoded) : Prop := ∃ e, r = .error (.raised e) ∧ e.kind = .valueError

/-- What is promised of a value `d` decoded from `buf`: its bytes lie in the buffer, decode alike
whatever follows them, and decode to nothing when they are cut. A packed value is the integer of its
words. -/
structure DecodedFront (buf : Bytes) (d : Decoded) : Prop where
  positive : 1 ≤ d.consumed
  within : d.consumed ≤ buf.length
  tail : ∀ t, decodeValueReads (buf.take d.consumed ++ t) = .ok d
  cut : ∀ p, p <+: buf.take d.consumed → p ≠ buf.take d.consumed →
    RaisesValueError (decodeValueReads p)
  packed : d.typeTag = DataType.packed.tag → ∃ words : UInt8, buf[1]? = some words ∧
    d.consumed = 2 + 2 * words.toNat ∧
    ((buf.take d.consumed).drop 2).length = 2 * words.toNat ∧
    d.value = .num (.int (fromBigEndian ((buf.take d.consumed).drop 2))) ∧
    fromBigEndian ((buf.take d.consumed).drop 2) < 2 ^ (16 * words.toNat)

theorem decodeValueReads_ok_iff {buf : Bytes} {d : Decoded} :
    decodeValueReads buf = .ok d ↔ decodeValue buf = .ok d := by
  rw [decodeValueReads_eq]
  cases h : decodeValue buf with
  | error e => simp [Except.mapError]
  | ok d' => simp [Except.mapError]

theorem raisesValueError_of_error {buf : Bytes} {e : PyError} (h : decodeValue buf = .error e) :
    RaisesValueError (decodeValueReads buf) := by
  rw [decodeValueReads_eq, h]
  exact ⟨e, rfl, decodeValue_error_kind h⟩

theorem decodeValue_typeTag {tag : UInt8} {data : Bytes} {d : Decoded}
    (h : decodeValue (tag :: data) = .ok d) : d.typeTag = tag := by
  have hfixed : ∀ {width label read}, decodeFixed tag width label read data = .ok d →
      d.typeTag = tag := by
    intro width label read h
    obtain ⟨-, rfl⟩ := decodeFixed_ok_iff.mp h
    rfl
  have hprefixed : ∀ {unit label read}, decodePrefixed tag unit label read data = .ok d →
      d.typeTag = tag := by
    intro unit label read h
    obtain ⟨n, rest, -, -, rfl⟩ := decodePrefixed_ok_iff.mp h
    rfl
  simp only [decodeValue] at h
  split_ifs at h
  · exact hfixed h
  · exact hfixed h
  · exact hfixed h
  · exact hfixed h
  · exact hfixed h
  · exact hprefixed h
  · exact hprefixed h
  · cases h

theorem decodeValue_packed {buf : Bytes} {d : Decoded} (h : decodeValue buf = .ok d)
    (htag : d.typeTag = DataType.packed.tag) :
    ∃ words : UInt8, buf[1]? = some words ∧ d.consumed = 2 + 2 * words.toNat ∧
      ((buf.take d.consumed).drop 2).length = 2 * words.toNat ∧
      d.value = .num (.int (fromBigEndian ((buf.take d.consumed).drop 2))) := by
  cases buf with
  | nil => cases h
  | cons tag data =>
    have hpacked : tag = DataType.packed.tag := (decodeValue_typeTag h).symm.trans htag
    subst hpacked
    have hbranch : decodePrefixed DataType.packed.tag 2 "packed-int" readUnsigned data = .ok d := h
    obtain ⟨n, rest, rfl, hlen, rfl⟩ := decodePrefixed_ok_iff.mp hbranch
    have htake : ((DataType.packed.tag :: n :: rest).take (2 + 2 * n.toNat)).drop 2 =
        rest.take (2 * n.toNat) := by
      rw [Nat.add_comm, List.take_succ_cons, List.take_succ_cons]
      rfl
    refine ⟨n, rfl, rfl, ?_, ?_⟩
    · rw [htake, List.length_take_of_le hlen]
    · rw [htake]
      rfl

/-- The decoder raises a `ValueError`, or it returns a value that its own bytes decide. -/
theorem decodeValueReads_front (buf : Bytes) :
    RaisesValueError (decodeValueReads buf) ∨
      ∃ d, decodeValueReads buf = .ok d ∧ DecodedFront buf d := by
  cases h : decodeValue buf with
  | error e => exact Or.inl (raisesValueError_of_error h)
  | ok d =>
    right
    obtain ⟨hwithin, hvalue⟩ := typedValue_of_decodeValue h
    obtain ⟨d', hlen, hdecode⟩ := decodeValue_append hvalue
    have hsame : d' = d := by
      have hwhole := hdecode (buf.drop d.consumed)
      rw [List.take_append_drop, h] at hwhole
      exact (Except.ok.inj hwhole).symm
    subst hsame
    refine ⟨d', decodeValueReads_ok_iff.mpr h, ?_, hwithin, ?_, ?_, ?_⟩
    · obtain ⟨x, xs, hne⟩ := typedValue_ne_nil hvalue
      rw [hlen, hne, List.length_cons]
      omega
    · exact fun t => decodeValueReads_ok_iff.mpr (hdecode t)
    · -- A prefix that decodes has a typed value in front, and so would that of the whole.
      rintro p ⟨t, ht⟩ hne
      cases hp : decodeValue p with
      | error e => exact raisesValueError_of_error hp
      | ok d =>
        exfalso
        obtain ⟨-, hfront⟩ := typedValue_of_decodeValue hp
        rw [← ht, ← List.take_append_drop d.consumed p, List.append_assoc] at hvalue
        have hrest := typedValue_prefix_free hfront hvalue
        rw [(List.append_eq_nil_iff.mp hrest).2, List.append_nil] at ht
        exact hne ht
    · intro htag
      obtain ⟨words, hcount, hconsumed, hbody, hint⟩ := decodeValue_packed h htag
      refine ⟨words, hcount, hconsumed, hbody, hint, ?_⟩
      have hlt := fromBigEndian_lt ((buf.take d'.consumed).drop 2)
      rw [hbody] at hlt
      have hpow : 256 ^ (2 * words.toNat) = 2 ^ (16 * words.toNat) := by
        have hbyte : (256 : ℕ) = 2 ^ 8 := rfl
        rw [hbyte, ← pow_mul]
        congr 1
        omega
      omega

end ValuePrefixes
