import Watlowlib.ReflectedCrc
import Watlowlib.StdBusFraming

/-! # What the two checks of a frame protect

Both byte-at-a-time checks are bit-serial reflected ones, so that a frame with one bit of its
header changed, or with a burst of errors no longer than the data check behind it, is refused. -/
namespace FrameProtection

open PythonValues ReflectedCrc StdBusFraming

/-- `x^8 + x^7 + 1` -/
def headerPoly : BitVec 8 := reflected 8 [7, 0]

/-- `x^16 + x^12 + x^5 + 1` -/
def dataPoly : BitVec 16 := reflected 16 [12, 5, 0]

theorem dataPoly_eq : dataPoly = 0x8408#16 := by decide

def byteBits (b : UInt8) : List Bool := lowBits 8 b.toBitVec

def wireBits (bs : Bytes) : List Bool := bs.flatMap byteBits

@[simp] theorem byteBits_length (b : UInt8) : (byteBits b).length = 8 := lowBits_length ..

@[simp] theorem wireBits_nil : wireBits [] = [] := rfl

@[simp] theorem wireBits_cons (b : UInt8) (bs : Bytes) :
    wireBits (b :: bs) = byteBits b ++ wireBits bs := rfl

@[simp] theorem wireBits_append (bs cs : Bytes) :
    wireBits (bs ++ cs) = wireBits bs ++ wireBits cs := List.flatMap_append ..

@[simp] theorem wireBits_length (bs : Bytes) : (wireBits bs).length = 8 * bs.length := by
  induction bs with
  | nil => rfl
  | cons b bs ih =>
    simp only [wireBits_cons, List.length_append, byteBits_length, ih, List.length_cons]
    omega

theorem headerCrcStep_table :
    ∀ x : Fin 256, (headerCrcStep (UInt8.ofFin x).toUInt16 0).toBitVec =
      (feed headerPoly 0#8 (byteBits (UInt8.ofFin x))).setWidth 16 := by
  decide +kernel

theorem dataCrcStep_table :
    ∀ x : Fin 256, (dataCrcStep 0 (UInt8.ofFin x)).toBitVec =
      feed dataPoly 0#16 (byteBits (UInt8.ofFin x)) := by
  decide +kernel

theorem headerCrcStep_eq (r b : UInt8) :
    (headerCrcStep r.toUInt16 b).toBitVec =
      (feed headerPoly r.toBitVec (byteBits b)).setWidth 16 := by
  have hstep : headerCrcStep r.toUInt16 b = headerCrcStep (r ^^^ b).toUInt16 0 := by
    simp [headerCrcStep]
  have hfeed : feed headerPoly r.toBitVec (byteBits b) =
      feed headerPoly 0#8 (byteBits (r ^^^ b)) := by
    have hout : r.toBitVec >>> 8 = 0#8 := BitVec.ushiftRight_eq_zero (Nat.le_refl 8)
    rw [feed_split, byteBits_length, hout, BitVec.zero_xor]
    simp only [byteBits, xorBits_lowBits, UInt8.toBitVec_xor]
  rw [hstep, hfeed]
  exact headerCrcStep_table (r ^^^ b).toFin

theorem low_byte (r : UInt16) : r &&& 0xFF = r.toUInt8.toUInt16 := by
  apply UInt16.toNat.inj
  rw [UInt16.toNat_and, UInt8.toNat_toUInt16, UInt16.toNat_toUInt8]
  exact Nat.and_two_pow_sub_one_eq_mod r.toNat 8

theorem dataCrcStep_split (r : UInt16) (b : UInt8) :
    dataCrcStep r b = (r >>> 8) ^^^ dataCrcStep 0 (r.toUInt8 ^^^ b) := by
  have hlow : (r &&& 0xFF) ^^^ b.toUInt16 = (r.toUInt8 ^^^ b).toUInt16 := by
    rw [low_byte, UInt8.toUInt16_xor]
  simp only [dataCrcStep, hlow]
  simp [UInt16.xor_assoc]

theorem dataCrcStep_eq (r : UInt16) (b : UInt8) :
    (dataCrcStep r b).toBitVec = feed dataPoly r.toBitVec (byteBits b) := by
  have htable := dataCrcStep_table (r.toUInt8 ^^^ b).toFin
  have hbits : xorBits (lowBits 8 r.toBitVec) (byteBits b) = byteBits (r.toUInt8 ^^^ b) := by
    have hr : lowBits 8 r.toBitVec = lowBits 8 r.toUInt8.toBitVec :=
      (lowBits_setWidth (Nat.le_refl 8) r.toBitVec).symm
    rw [hr]
    simp only [byteBits, xorBits_lowBits, UInt8.toBitVec_xor]
  rw [dataCrcStep_split, feed_split, byteBits_length, hbits, UInt16.toBitVec_xor]
  exact congrArg (r.toBitVec >>> 8 ^^^ ·) htable

theorem headerCrc_fold (r : UInt8) (data : Bytes) :
    (data.foldl headerCrcStep r.toUInt16).toBitVec =
      (feed headerPoly r.toBitVec (wireBits data)).setWidth 16 := by
  induction data generalizing r with
  | nil => rfl
  | cons b data ih =>
    have hstep : headerCrcStep r.toUInt16 b =
        (UInt8.ofBitVec (feed headerPoly r.toBitVec (byteBits b))).toUInt16 :=
      UInt16.toBitVec_inj.mp (headerCrcStep_eq r b)
    rw [List.foldl_cons, hstep, ih, wireBits_cons, feed_append]

theorem dataCrc_fold (r : UInt16) (data : Bytes) :
    (data.foldl dataCrcStep r).toBitVec = feed dataPoly r.toBitVec (wireBits data) := by
  induction data generalizing r with
  | nil => rfl
  | cons b data ih => rw [List.foldl_cons, ih, dataCrcStep_eq, wireBits_cons, feed_append]

theorem headerCrc8_eq (data : Bytes) :
    (headerCrc8 data).toBitVec = check headerPoly (BitVec.allOnes 8) (wireBits data) := by
  have hnot : ∀ r : BitVec 8, (~~~ r.setWidth 16).setWidth 8 = ~~~ r := by
    intro r
    apply BitVec.eq_of_getLsbD_eq
    intro i hi
    simp [hi]
  have hfold : (data.foldl headerCrcStep 0xFF).toBitVec = _ := headerCrc_fold 0xFF data
  rw [headerCrc8, UInt16.toBitVec_toUInt8, UInt16.toBitVec_not, hfold, hnot]
  rfl

theorem dataCrc16_eq (data : Bytes) :
    (dataCrc16 data).toBitVec = check dataPoly (BitVec.allOnes 16) (wireBits data) := by
  rw [dataCrc16, check, UInt16.toBitVec_not, dataCrc_fold]
  rfl

theorem wireBits_header (f : Frame) :
    wireBits (header f) =
      codeword headerPoly (BitVec.allOnes 8) (wireBits (headerFields f)) := by
  rw [header, wireBits_append, codeword, ← headerCrc8_eq]
  simp [byteBits]

theorem wireBits_body {payload : Bytes} (h : payload ≠ []) :
    wireBits (body payload) = codeword dataPoly (BitVec.allOnes 16) (wireBits payload) := by
  have hcheck : wireBits (dataCrc16LeBytes payload) = lowBits 16 (dataCrc16 payload).toBitVec := by
    have hlow := lowBits_setWidth (Nat.le_refl 8) (dataCrc16 payload).toBitVec
    have hhigh := lowBits_setWidth (Nat.le_refl 8) ((dataCrc16 payload).toBitVec >>> 8)
    have hsplit : lowBits 16 (dataCrc16 payload).toBitVec =
        lowBits 8 (dataCrc16 payload).toBitVec ++ lowBits 8 ((dataCrc16 payload).toBitVec >>> 8) :=
      lowBits_add 8 8 _
    rw [hsplit, ← hlow, ← hhigh]
    simp [dataCrc16LeBytes, byteBits]
  rw [body, if_neg h, wireBits_append, hcheck, codeword, dataCrc16_eq]

def xorBytes : Bytes → Bytes → Bytes := List.zipWith (· ^^^ ·)

theorem wireBits_xorBytes {a b : Bytes} (h : a.length = b.length) :
    wireBits (xorBytes a b) = xorBits (wireBits a) (wireBits b) := by
  induction a generalizing b with
  | nil => rfl
  | cons x a ih =>
    cases b with
    | nil => cases h
    | cons y b =>
      have hbyte : byteBits (x ^^^ y) = xorBits (byteBits x) (byteBits y) := by
        simp only [byteBits, xorBits_lowBits, UInt8.toBitVec_xor]
      have hrest := ih (Nat.succ.inj h)
      simp only [xorBytes, xorBits] at hbyte hrest ⊢
      rw [List.zipWith_cons_cons, wireBits_cons, wireBits_cons, wireBits_cons, hbyte, hrest,
        List.zipWith_append (by simp)]

theorem xorBytes_append {a b c d : Bytes} (h : a.length = b.length) :
    xorBytes (a ++ c) (b ++ d) = xorBytes a b ++ xorBytes c d := List.zipWith_append h

theorem xorBytes_cancel {a e : Bytes} (h : a.length = e.length) :
    xorBytes a (xorBytes a e) = e := by
  apply List.ext_getElem
  · simp [xorBytes, h]
  · intro i _ _
    simp only [xorBytes, List.getElem_zipWith]
    rw [← UInt8.xor_assoc, UInt8.xor_self, UInt8.zero_xor]

theorem eq_of_no_error {a b : Bytes} (h : a.length = b.length)
    (hno : ∀ i : ℕ, (wireBits (xorBytes a b))[i]? ≠ some true) : a = b := by
  induction a generalizing b with
  | nil => exact (List.eq_nil_of_length_eq_zero h.symm).symm
  | cons x a ih =>
    cases b with
    | nil => cases h
    | cons y b =>
      have hcons : wireBits (xorBytes (x :: a) (y :: b)) =
          byteBits (x ^^^ y) ++ wireBits (xorBytes a b) := rfl
      rw [hcons] at hno
      have hbyte : x = y := by
        have hbit : ∀ i, i < 8 → (x ^^^ y).toBitVec.getLsbD i = false := by
          intro i hi
          have hlen : i < (byteBits (x ^^^ y)).length := by simpa using hi
          have hi := hno i
          rw [List.getElem?_append_left hlen, List.getElem?_eq_getElem hlen] at hi
          simpa [byteBits, getElem_lowBits] using hi
        apply UInt8.toBitVec_inj.mp
        apply BitVec.eq_of_getLsbD_eq
        intro i hi
        simpa using hbit i hi
      have hrest : a = b := by
        apply ih (Nat.succ.inj h)
        intro i hi
        apply hno (8 + i)
        rw [List.getElem?_append_right (by simp), byteBits_length, Nat.add_sub_cancel_left]
        exact hi
      rw [hbyte, hrest]

/-- The `p`-th bit of the frame, in transmission order, is inverted. -/
def ErrorAt (e : Bytes) (p : ℕ) : Prop := (wireBits e)[p]? = some true

/-- One bit of the first eight bytes: preamble, header fields and header check. -/
def HeaderBitError (e : Bytes) : Prop := ∃ p, p < 64 ∧ ∀ q, ErrorAt e q ↔ q = p

/-- Some bits of payload and data check, all within sixteen consecutive ones. -/
def BodyBurst (e : Bytes) : Prop :=
  (∃ q, ErrorAt e q) ∧ ∃ k, 64 ≤ k ∧ ∀ q, ErrorAt e q → k ≤ q ∧ q < k + 16

theorem header_lengths (f g : Frame) : (header f).length = (header g).length :=
  (header_length f).trans (header_length g).symm

theorem error_of_accepted {f g : Frame} {e : Bytes} (hlen : e.length = (wireBytes f).length)
    (h : decodeFrame (xorBytes (wireBytes f) e) = .ok g) :
    ∃ t, (body f.payload).length = (body g.payload ++ t).length ∧
      g.payload.length ≤ maxLength ∧
      e = [0, 0] ++ (xorBytes (header f) (header g) ++
        xorBytes (body f.payload) (body g.payload ++ t)) := by
  obtain ⟨hg, t, ht⟩ := decodeFrame_canonical h
  have hsame : (wireBytes f).length = (wireBytes g ++ t).length := by
    rw [← ht]
    simp [xorBytes, hlen]
  have hbody : (body f.payload).length = (body g.payload ++ t).length := by
    simp only [wireBytes, List.length_append, header_length] at hsame ⊢
    omega
  refine ⟨t, hbody, hg, ?_⟩
  have he := xorBytes_cancel hlen.symm
  rw [ht] at he
  rw [← he]
  simp only [wireBytes, List.append_assoc]
  rw [xorBytes_append rfl, xorBytes_append (header_lengths f g)]
  rfl

theorem wireBits_error {f g : Frame} {d : Bytes} (p : ℕ) :
    (wireBits ([0, 0] ++ (xorBytes (header f) (header g) ++ d)))[p]? =
      if p < 16 then some false
      else if p < 64 then (wireBits (xorBytes (header f) (header g)))[p - 16]?
      else (wireBits d)[p - 64]? := by
  have hzero : wireBits [0, 0] = List.replicate 16 false := by decide
  have hwidth : (wireBits (xorBytes (header f) (header g))).length = 48 := by
    simp [xorBytes]
  rw [wireBits_append, wireBits_append, hzero]
  by_cases h16 : p < 16
  · rw [if_pos h16, List.getElem?_append_left (by simpa using h16), List.getElem?_replicate,
      if_pos h16]
  · rw [if_neg h16, List.getElem?_append_right (by simpa using h16), List.length_replicate]
    by_cases h64 : p < 64
    · rw [if_pos h64, List.getElem?_append_left (by omega)]
    · rw [if_neg h64, List.getElem?_append_right (by omega), hwidth, Nat.sub_sub]

theorem wireBits_header_error (f g : Frame) :
    wireBits (xorBytes (header f) (header g)) =
      xorBits (codeword headerPoly (BitVec.allOnes 8) (wireBits (headerFields f)))
        (codeword headerPoly (BitVec.allOnes 8) (wireBits (headerFields g))) := by
  rw [wireBits_xorBytes (header_lengths f g), wireBits_header, wireBits_header]

theorem header_error_lt {f g : Frame} {i : ℕ}
    (h : (wireBits (xorBytes (header f) (header g)))[i]? = some true) : i < 48 := by
  have hi := (List.getElem?_eq_some_iff.mp h).1
  simpa [xorBytes] using hi

theorem header_kept {f g : Frame} {d : Bytes}
    (h : ∀ p, ErrorAt ([0, 0] ++ (xorBytes (header f) (header g) ++ d)) p → 64 ≤ p) :
    header f = header g := by
  apply eq_of_no_error (header_lengths f g)
  intro i hi
  have hlast := header_error_lt hi
  have herror : ErrorAt ([0, 0] ++ (xorBytes (header f) (header g) ++ d)) (16 + i) := by
    rw [ErrorAt, wireBits_error, if_neg (by omega), if_pos (by omega), Nat.add_sub_cancel_left]
    exact hi
  have := h _ herror
  omega

theorem payload_length_of_header {f g : Frame} (hf : f.payload.length ≤ maxLength)
    (hg : g.payload.length ≤ maxLength) (h : header f = header g) :
    f.payload.length = g.payload.length := by
  simp only [header, headerFields, List.cons_append, List.cons.injEq] at h
  rw [← lengthField_split hf, ← lengthField_split hg, h.2.2.2.1, h.2.2.2.2.1]

theorem header_error_rejected {f g : Frame} {e : Bytes} (hlen : e.length = (wireBytes f).length)
    (he : HeaderBitError e) : decodeFrame (xorBytes (wireBytes f) e) ≠ .ok g := by
  intro h
  obtain ⟨t, -, -, heq⟩ := error_of_accepted hlen h
  obtain ⟨p, hp, hone⟩ := he
  simp only [ErrorAt, heq, wireBits_error] at hone
  have hin : 16 ≤ p := by
    by_contra hlow
    have := (hone p).mpr rfl
    simp [show p < 16 by omega] at this
  have htop : TopBit headerPoly := by decide
  apply codeword_not_burst htop (BitVec.allOnes 8) (Nat.le_refl 8)
    (show (wireBits (headerFields f)).length = (wireBits (headerFields g)).length by rfl)
  have hbit := (hone p).mpr rfl
  rw [if_neg (by omega), if_pos hp] at hbit
  rw [← wireBits_header_error]
  refine ⟨List.mem_of_getElem? hbit, p - 16, ?_⟩
  intro i hi
  have hlast := header_error_lt hi
  have hother : 16 + i = p := by
    apply (hone (16 + i)).mp
    rw [if_neg (by omega), if_pos (by omega), Nat.add_sub_cancel_left]
    exact hi
  omega

theorem burst_rejected {f g : Frame} {e : Bytes} (hf : f.payload.length ≤ maxLength)
    (hne : f.payload ≠ []) (hlen : e.length = (wireBytes f).length) (he : BodyBurst e) :
    decodeFrame (xorBytes (wireBytes f) e) ≠ .ok g := by
  intro h
  obtain ⟨t, hbody, hg, heq⟩ := error_of_accepted hlen h
  obtain ⟨⟨q, hq⟩, k, hk, hwindow⟩ := he
  have hheader : header f = header g :=
    header_kept fun p hp => hk.trans (hwindow p (heq ▸ hp)).1
  have hpayload : f.payload.length = g.payload.length := payload_length_of_header hf hg hheader
  have hgne : g.payload ≠ [] := by
    intro hnil
    rw [hnil] at hpayload
    exact hne (List.eq_nil_of_length_eq_zero hpayload)
  have ht : t = [] := by
    rw [List.length_append, body_length, body_length, hpayload] at hbody
    apply List.eq_nil_of_length_eq_zero
    omega
  rw [ht, List.append_nil] at heq hbody
  have hbits : wireBits (xorBytes (body f.payload) (body g.payload)) =
      xorBits (codeword dataPoly (BitVec.allOnes 16) (wireBits f.payload))
        (codeword dataPoly (BitVec.allOnes 16) (wireBits g.payload)) := by
    rw [wireBits_xorBytes hbody, wireBits_body hne, wireBits_body hgne]
  have hat : ∀ i, ErrorAt e (64 + i) ↔
      (xorBits (codeword dataPoly (BitVec.allOnes 16) (wireBits f.payload))
        (codeword dataPoly (BitVec.allOnes 16) (wireBits g.payload)))[i]? = some true := by
    intro i
    rw [ErrorAt, heq, wireBits_error, if_neg (by omega), if_neg (by omega), hbits,
      Nat.add_sub_cancel_left]
  have htop : TopBit dataPoly := by decide
  apply codeword_not_burst htop (BitVec.allOnes 16) (Nat.le_refl 16)
    (show (wireBits f.payload).length = (wireBits g.payload).length by simp [hpayload])
  have hqk := hwindow q hq
  refine ⟨?_, k - 64, ?_⟩
  · apply List.mem_of_getElem? ((hat (q - 64)).mp ?_)
    rwa [show 64 + (q - 64) = q by omega]
  · intro i hi
    have := hwindow _ ((hat i).mpr hi)
    omega

/-- Both checks are their bit-serial forms, and an encoded frame with one header bit changed, or
with a burst of at most sixteen bits behind its header, is refused. -/
theorem crc_bit_serial_and_detection :
    (∀ data, (headerCrc8 data).toBitVec =
      check (reflected 8 [7, 0]) (BitVec.allOnes 8) (wireBits data)) ∧
    (∀ data, (dataCrc16 data).toBitVec =
      check 0x8408#16 (BitVec.allOnes 16) (wireBits data)) ∧
    ∀ f w e, f.payload ≠ [] → encodeFrame f = .ok w → e.length = w.length →
      HeaderBitError e ∨ BodyBurst e → ∃ err, decodeFrame (xorBytes w e) = .error err := by
  refine ⟨headerCrc8_eq, fun data => by rw [dataCrc16_eq, dataPoly_eq], ?_⟩
  intro f w e hne hw hlen he
  have hwire : f.payload.length ≤ maxLength ∧ w = wireBytes f := by
    simp only [encodeFrame] at hw
    split at hw
    · cases hw
    · rename_i hmax
      exact ⟨by omega, (Except.ok.inj hw).symm⟩
  obtain ⟨hf, rfl⟩ := hwire
  cases hdecode : decodeFrame (xorBytes (wireBytes f) e) with
  | error err => exact ⟨err, rfl⟩
  | ok g =>
    exfalso
    rcases he with he | he
    · exact header_error_rejected hlen he hdecode
    · exact burst_rejected hf hne hlen he hdecode

theorem crc_detects_three_bits :
    ∃ err, decodeFrame (xorBytes (wireBytes ⟨dataExpectingReply, 0x10, 0x00, [0x01]⟩)
      [0, 0, 0, 0, 0, 0, 0, 0, 0x80, 0x03, 0]) = .error err := by
  have hw : encodeFrame ⟨dataExpectingReply, 0x10, 0x00, [0x01]⟩ =
      .ok (wireBytes ⟨dataExpectingReply, 0x10, 0x00, [0x01]⟩) := by
    simp [encodeFrame, maxLength]
  apply crc_bit_serial_and_detection.2.2 _ _ _ (by simp) hw (by simp [wireBytes, preamble, body])
  have hbits : wireBits [0, 0, 0, 0, 0, 0, 0, 0, 0x80, 0x03, 0] =
      List.replicate 71 false ++ [true, true, true] ++ List.replicate 14 false := by
    decide +kernel
  refine Or.inr ⟨⟨71, ?_⟩, 71, by decide, ?_⟩
  · rw [ErrorAt, hbits]
    decide
  · intro q hq
    rw [ErrorAt, hbits, List.append_assoc] at hq
    by_contra hout
    by_cases hlow : q < 71
    · rw [List.getElem?_append_left (by simpa using hlow), List.getElem?_replicate,
        if_pos hlow] at hq
      cases hq
    · have hlast := (List.getElem?_eq_some_iff.mp hq).1
      rw [List.getElem?_append_right (by simpa using hlow),
        List.getElem?_append_right (by simp; omega), List.getElem?_replicate] at hq
      split at hq <;> cases hq

end FrameProtection
