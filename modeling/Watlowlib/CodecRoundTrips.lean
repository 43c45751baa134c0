import Watlowlib.StdBusFraming
import Watlowlib.StdBusPayload

/-! # Round trips of the Standard Bus codecs

What the three encoders write is read back, with any bytes behind it: frames, tagged values and
the two requests of the attribute service. -/
namespace CodecRoundTrips

open ExceptRules PythonNumbers PythonValues StdBusFraming StdBusPayload StdBusTlv WatlowErrors

/-- A frame is read back from its encoding and any tail; what is read encodes to a prefix of the
buffer; every other buffer raises `FrameError`. -/
theorem frame_codec_canonical :
    (∀ f t, f.payload.length ≤ maxLength →
      ∃ w, encodeFrame f = .ok w ∧ decodeFrame (w ++ t) = .ok f) ∧
    (∀ b f, decodeFrame b = .ok f → ∃ w, encodeFrame f = .ok w ∧ w <+: b) ∧
    (∀ f g w, encodeFrame f = .ok w → encodeFrame g = .ok w → f = g) ∧
    ∀ b, (∃ f, decodeFrame b = .ok f) ∨ ∃ e, decodeFrame b = .error e ∧ e.kind = .frameFault := by
  have hencode : ∀ f : Frame, f.payload.length ≤ maxLength → encodeFrame f = .ok (wireBytes f) := by
    intro f hf
    rw [encodeFrame, if_neg (by omega)]
  have hback : ∀ {f : Frame} {w}, encodeFrame f = .ok w → decodeFrame w = .ok f := by
    intro f w h
    simp only [encodeFrame] at h
    split at h
    · cases h
    · rename_i hf
      cases h
      simpa using decodeFrame_wireBytes (Nat.le_of_not_lt hf) []
  refine ⟨?_, ?_, ?_, ?_⟩
  · intro f t hf
    exact ⟨_, hencode f hf, decodeFrame_wireBytes hf t⟩
  · intro b f h
    obtain ⟨hf, t, rfl⟩ := decodeFrame_canonical h
    exact ⟨_, hencode f hf, List.prefix_append ..⟩
  · intro f g w hf hg
    exact Except.ok.inj ((hback hf).symm.trans (hback hg))
  · intro b
    cases h : decodeFrame b with
    | ok f => exact Or.inl ⟨f, rfl⟩
    | error e => exact Or.inr ⟨e, rfl, decodeFrame_error_kind h⟩

theorem frame_codec_one_byte :
    ∃ w, encodeFrame ⟨dataExpectingReply, 0x10, 0x00, [0x01]⟩ = .ok w ∧
      decodeFrame (w ++ [0x55]) = .ok ⟨dataExpectingReply, 0x10, 0x00, [0x01]⟩ :=
  frame_codec_canonical.1 _ _ (by decide)

/-- A float that four bytes can stand for. -/
def IsBinary32 (x : PyFloat) : Prop := ∃ bs : Bytes, bs.length = 4 ∧ unpackFloat bs = x

/-- The values of a type tag, as the decoder returns them. -/
def InTagRange : DataType → PyValue → Prop
  | .u8, .num (.int i) => 0 ≤ i ∧ i ≤ 0xFF
  | .u16, .num (.int i) => 0 ≤ i ∧ i ≤ 0xFFFF
  | .u32, .num (.int i) => 0 ≤ i ∧ i ≤ 0xFFFFFFFF
  | .s32, .num (.int i) => -2 ^ 31 ≤ i ∧ i ≤ 2 ^ 31 - 1
  | .packed, .num (.int i) => 0 ≤ i ∧ i ≤ 0xFFFF
  | .float, .num (.float x) => IsBinary32 x
  | .string, .str s =>
    isAscii s ∧ s.length ≤ 255 ∧ s.toList.getLast? ≠ some (Char.ofNat 0)
  | _, _ => False

theorem fromBigEndian_packInt {width : ℕ} {i : ℤ} (h : 0 ≤ i) (h' : i < 256 ^ width) :
    (fromBigEndian (packInt width i) : ℤ) = i := by
  have hmod : i % 256 ^ width = i := Int.emod_eq_of_lt h h'
  rw [packInt, fromBigEndian_bigEndian, hmod, Nat.mod_eq_of_lt]
  · exact Int.toNat_of_nonneg h
  · zify
    rwa [Int.toNat_of_nonneg h]

theorem unpackSigned_packInt {i : ℤ} (h : -2 ^ 31 ≤ i) (h' : i ≤ 2 ^ 31 - 1) :
    unpackSigned 4 (packInt 4 i) = i := by
  have hback : fromBigEndian (packInt 4 i) = (i % 256 ^ 4).toNat % 256 ^ 4 :=
    fromBigEndian_bigEndian 4 _
  simp only [unpackSigned, hback]
  split <;> omega

@[simp] theorem packInt_length (width : ℕ) (i : ℤ) : (packInt width i).length = width :=
  bigEndian_length ..

theorem decodeFixed_append {tag : UInt8} {width : ℕ} {label : String} {read : Bytes → PyValue}
    {data : Bytes} (h : data.length = width) (t : Bytes) :
    decodeFixed tag width label read (data ++ t) = .ok ⟨read data, tag, 1 + width⟩ := by
  rw [decodeFixed, if_neg (by simp [h]), ← h, List.take_left]

theorem decodePrefixed_append {tag n : UInt8} {unit : ℕ} {label : String}
    {read : Bytes → PyValue} {data : Bytes} (h : data.length = unit * n.toNat) (t : Bytes) :
    decodePrefixed tag unit label read (n :: (data ++ t)) =
      .ok ⟨read data, tag, 2 + data.length⟩ := by
  simp only [decodePrefixed]
  rw [if_neg (by simp [h]), ← h, List.take_left]

theorem encodeIntegral_int (head : Bytes) (lo hi : ℤ) (width : ℕ) (label : String) {i : ℤ}
    (h : lo ≤ i ∧ i ≤ hi) :
    encodeIntegral head lo hi width label (.int i) = .ok (head ++ packInt width i) := if_pos h

theorem readUnsigned_packInt {width : ℕ} {i : ℤ} (h : 0 ≤ i) (h' : i < 256 ^ width) :
    readUnsigned (packInt width i) = .num (.int i) := by
  rw [readUnsigned, fromBigEndian_packInt h h']

theorem fixed_round_trip {tag : UInt8} {width : ℕ} {label : String} {read : Bytes → PyValue}
    {data : Bytes} {v : PyValue}
    (hdecode : ∀ rest, decodeValue (tag :: rest) = decodeFixed tag width label read rest)
    (hlen : data.length = width) (hread : read data = v) (t : Bytes) :
    decodeValue (tag :: data ++ t) = .ok ⟨v, tag, (tag :: data).length⟩ := by
  rw [List.cons_append, hdecode, decodeFixed_append hlen, hread, List.length_cons, hlen,
    Nat.add_comm]

section Values

variable (t : Bytes)

theorem integral_round_trip {type : DataType} {i : ℤ} (h : InTagRange type (.num (.int i))) :
    ∃ b, encodeValue type (.num (.int i)) = .ok b ∧
      decodeValue (b ++ t) = .ok ⟨.num (.int i), type.tag, b.length⟩ := by
  cases type with
  | u8 =>
    obtain ⟨hlo, hhi⟩ := h
    refine ⟨_, encodeIntegral_int _ _ _ 1 _ ⟨hlo, hhi⟩, ?_⟩
    exact fixed_round_trip (fun _ => rfl) (packInt_length 1 i)
      (readUnsigned_packInt hlo (by omega)) t
  | u16 =>
    obtain ⟨hlo, hhi⟩ := h
    refine ⟨_, encodeIntegral_int _ _ _ 2 _ ⟨hlo, hhi⟩, ?_⟩
    exact fixed_round_trip (fun _ => rfl) (packInt_length 2 i)
      (readUnsigned_packInt hlo (by omega)) t
  | u32 =>
    obtain ⟨hlo, hhi⟩ := h
    refine ⟨_, encodeIntegral_int _ _ _ 4 _ ⟨hlo, hhi⟩, ?_⟩
    exact fixed_round_trip (fun _ => rfl) (packInt_length 4 i)
      (readUnsigned_packInt hlo (by omega)) t
  | s32 =>
    obtain ⟨hlo, hhi⟩ := h
    have hdecode : ∀ rest, decodeValue (DataType.s32.tag :: rest) =
        decodeFixed DataType.s32.tag 4 "s32" (fun bs => .num (.int (unpackSigned 4 bs))) rest :=
      fun _ => rfl
    refine ⟨_, encodeIntegral_int _ _ _ 4 _ ⟨hlo, hhi⟩, ?_⟩
    exact fixed_round_trip hdecode (packInt_length 4 i) (by rw [unpackSigned_packInt hlo hhi]) t
  | packed =>
    obtain ⟨hlo, hhi⟩ := h
    refine ⟨_, encodeIntegral_int _ _ _ 2 _ ⟨hlo, hhi⟩, ?_⟩
    have hdecode : decodePrefixed DataType.packed.tag 2 "packed-int" readUnsigned
        (1 :: (packInt 2 i ++ t)) = _ := decodePrefixed_append (packInt_length 2 i) t
    rw [readUnsigned_packInt hlo (by omega)] at hdecode
    exact hdecode
  | s16 => cases h
  | float => cases h
  | string => cases h

theorem float_round_trip {x : PyFloat} (h : InTagRange .float (.num (.float x))) :
    ∃ b, encodeValue .float (.num (.float x)) = .ok b ∧
      decodeValue (b ++ t) = .ok ⟨.num (.float x), DataType.float.tag, b.length⟩ := by
  obtain ⟨bs, -, rfl⟩ := h
  obtain ⟨cs, hpack, hlen, hvalue⟩ := packFloat_unpackFloat bs
  have hdecode : ∀ rest, decodeValue (DataType.float.tag :: rest) =
      decodeFixed DataType.float.tag 4 "float" (fun bs => .num (.float (unpackFloat bs))) rest :=
    fun _ => rfl
  refine ⟨DataType.float.tag :: cs, ?_, ?_⟩
  · simp only [encodeValue, encodeNumber, encodeFloat, toFloat]
    rw [ok_bind, hpack, ok_bind]
  · exact fixed_round_trip hdecode hlen (by rw [hvalue]) t

theorem string_round_trip {s : String} (h : InTagRange .string (.str s)) :
    ∃ b, encodeValue .string (.str s) = .ok b ∧
      decodeValue (b ++ t) = .ok ⟨.str s, DataType.string.tag, b.length⟩ := by
  obtain ⟨hascii, hlen, hlast⟩ := h
  generalize hbytes : s.toList.map (fun c => UInt8.ofNat c.toNat) = bytes
  have hsize : bytes.length ≤ 255 := by
    rw [← hbytes, List.length_map, String.length_toList]
    exact hlen
  have hn : (UInt8.ofNat bytes.length).toNat = bytes.length := by
    rw [UInt8.toNat_ofNat']
    omega
  have hdecode : decodePrefixed DataType.string.tag 1 "string"
      (fun bs => .str (decodeAsciiReplace bs)) (UInt8.ofNat bytes.length :: (bytes ++ t)) = _ :=
    decodePrefixed_append (by rw [hn, Nat.one_mul]) t
  rw [← hbytes, decodeAsciiReplace_encode hascii hlast, hbytes] at hdecode
  refine ⟨[DataType.string.tag, UInt8.ofNat bytes.length] ++ bytes, ?_, ?_⟩
  · simp only [encodeValue, encodeString, encodeAscii]
    rw [if_pos hascii, ok_bind, hbytes, if_neg (by omega)]
  · rw [List.length_append, List.length_cons, List.length_singleton]
    exact hdecode

theorem value_round_trip {type : DataType} {v : PyValue} (h : InTagRange type v) :
    ∃ b, encodeValue type v = .ok b ∧ decodeValue (b ++ t) = .ok ⟨v, type.tag, b.length⟩ := by
  cases v with
  | str s =>
    cases type with
    | string => exact string_round_trip t h
    | _ => cases h
  | num n =>
    cases n with
    | int i => exact integral_round_trip t h
    | float x =>
      cases type with
      | float => exact float_round_trip t h
      | _ => cases h
    | bool b => cases type <;> cases h

end Values

theorem toNat_byte {i : ℤ} (h : 0 ≤ i ∧ i ≤ 255) : ((UInt8.ofNat i.toNat).toNat : ℤ) = i := by
  rw [UInt8.toNat_ofNat']
  omega

theorem encodeValue_tag {type : DataType} {v : PyValue} {b : Bytes}
    (h : decodeValue b = .ok ⟨v, type.tag, b.length⟩) : ∃ x xs, b = x :: xs := by
  cases b with
  | nil => cases h
  | cons x xs => exact ⟨x, xs, rfl⟩

theorem decodePayload_writeRequest (c m i x : UInt8) (xs : Bytes) :
    decodePayload (dirRequest :: fnWrite :: c :: m :: i :: x :: xs) = (do
      let d ← decodeValue (x :: xs)
      .ok (.writeRequest ⟨c, m, i, d.value, d.typeTag⟩)) := rfl

/-- Values, read requests and write requests are read back as they were written. -/
theorem attribute_service_round_trip :
    (∀ type v t, InTagRange type v →
      ∃ b, encodeValue type v = .ok b ∧ decodeValue (b ++ t) = .ok ⟨v, type.tag, b.length⟩) ∧
    ∀ paramId instanceNo, SelectorFits paramId instanceNo → ∃ c m i : UInt8,
      (c.toNat : ℤ) = paramId / 1000 ∧ (m.toNat : ℤ) = paramId % 1000 ∧
      (i.toNat : ℤ) = instanceNo ∧ joinParam c.toNat m.toNat = paramId ∧
      (∃ b, encodeReadRequest paramId instanceNo = .ok b ∧
        decodePayload b = .ok (.readRequest c m i)) ∧
      ∀ type v, InTagRange type v → ∃ b, encodeWriteRequest paramId v instanceNo type = .ok b ∧
        decodePayload b = .ok (.writeRequest ⟨c, m, i, v, type.tag⟩) := by
  refine ⟨fun type v t h => value_round_trip t h, ?_⟩
  intro paramId instanceNo hfit
  have hc := toNat_byte hfit.cls
  have hm := toNat_byte hfit.member
  have hjoin : joinParam (UInt8.ofNat (paramId / 1000).toNat).toNat
      (UInt8.ofNat (paramId % 1000).toNat).toNat = paramId := by
    rw [hc, hm]
    exact joinParam_splitParam paramId
  refine ⟨_, _, _, hc, hm, toNat_byte hfit.instanceNo, hjoin, ?_, ?_⟩
  · exact ⟨_, encodeReadRequest_ok_iff.mpr ⟨hfit, rfl⟩, rfl⟩
  · intro type v hv
    obtain ⟨b, hencode, hdecode⟩ := value_round_trip [] hv
    rw [List.append_nil] at hdecode
    obtain ⟨x, xs, rfl⟩ := encodeValue_tag hdecode
    refine ⟨_, encodeWriteRequest_ok_iff.mpr ⟨hfit, _, hencode, rfl⟩, ?_⟩
    exact (decodePayload_writeRequest ..).trans (by rw [hdecode, ok_bind])

theorem attribute_service_set_point :
    (∃ b, encodeValue .packed (.num (.int 62)) = .ok b ∧
      decodeValue (b ++ [0x00]) = .ok ⟨.num (.int 62), DataType.packed.tag, b.length⟩) ∧
    ∃ c m i : UInt8, (c.toNat : ℤ) = 7001 / 1000 ∧ (m.toNat : ℤ) = 7001 % 1000 ∧
      (i.toNat : ℤ) = 1 ∧ joinParam c.toNat m.toNat = 7001 ∧
      (∃ b, encodeReadRequest 7001 1 = .ok b ∧ decodePayload b = .ok (.readRequest c m i)) ∧
      ∃ b, encodeWriteRequest 7001 (.num (.int 62)) 1 .packed = .ok b ∧
        decodePayload b = .ok (.writeRequest ⟨c, m, i, .num (.int 62), DataType.packed.tag⟩) := by
  refine ⟨attribute_service_round_trip.1 _ _ _ ⟨by decide, by decide⟩, ?_⟩
  obtain ⟨c, m, i, hc, hm, hi, hjoin, hread, hwrite⟩ := attribute_service_round_trip.2 7001 1
    ⟨by decide, by decide, by decide⟩
  exact ⟨c, m, i, hc, hm, hi, hjoin, hread, hwrite .packed (.num (.int 62)) ⟨by decide, by decide⟩⟩

end CodecRoundTrips
