import Mathlib.Tactic.IntervalCases
import Watlowlib.PythonNumbers

/-! # Standard Bus framing

The BACnet MS/TP outer frame: both CRCs, the MAC table, the encoder and the decoder. Decoding
accepts exactly the wire form of a frame, whatever bytes stand behind it. -/
namespace StdBusFraming

open ExceptRules PythonNumbers PythonValues WatlowErrors

/-- One step of the header CRC-8; a `UInt16` keeps every bit the shifts produce. -/
def headerCrcStep (crc : UInt16) (b : UInt8) : UInt16 :=
  let x := crc ^^^ b.toUInt16
  let x := x ^^^ (x <<< 1) ^^^ (x <<< 2) ^^^ (x <<< 3) ^^^ (x <<< 4) ^^^ (x <<< 5) ^^^
    (x <<< 6) ^^^ (x <<< 7)
  ((x &&& (0xFE : UInt16)) ^^^ ((x >>> 8) &&& (0x01 : UInt16))) &&& (0xFF : UInt16)

/-- `header_crc8`: the on-wire byte is the complement of the running CRC. -/
def headerCrc8 (data : Bytes) : UInt8 := (~~~ data.foldl headerCrcStep 0xFF).toUInt8

def dataCrcStep (crc : UInt16) (b : UInt8) : UInt16 :=
  let low := (crc &&& (0xFF : UInt16)) ^^^ b.toUInt16
  (crc >>> 8) ^^^ (low <<< 8) ^^^ (low <<< 3) ^^^ (low <<< 12) ^^^ (low >>> 4) ^^^
    (low &&& (0x0F : UInt16)) ^^^ ((low &&& (0x0F : UInt16)) <<< 7)

def dataCrc16 (data : Bytes) : UInt16 := ~~~ data.foldl dataCrcStep 0xFFFF

def dataCrc16LeBytes (data : Bytes) : Bytes :=
  [(dataCrc16 data).toUInt8, (dataCrc16 data >>> 8).toUInt8]

def preamble : Bytes := [0x55, 0xFF]

/-- `FrameType.DATA_EXPECTING_REPLY`, a request. -/
def dataExpectingReply : UInt8 := 0x05

/-- `FrameType.DATA_NOT_EXPECTING_REPLY`, the type of every response. -/
def dataNotExpectingReply : UInt8 := 0x06

def hostMac : UInt8 := 0x00

def addrOffset : ℤ := 0x0F

def addrToMac (addr : ℤ) : Result UInt8 :=
  if 1 ≤ addr ∧ addr ≤ 16 then .ok (UInt8.ofNat (addrOffset + addr).toNat)
  else .error (formatted .validation [.text "Standard Bus address out of range 1..16: ", .int addr])

structure Frame where
  frameType : UInt8
  dst : UInt8
  src : UInt8
  payload : Bytes
  deriving DecidableEq, Repr

def headerFields (f : Frame) : Bytes :=
  [f.frameType, f.dst, f.src, UInt8.ofNat (f.payload.length / 256),
    UInt8.ofNat f.payload.length]

def header (f : Frame) : Bytes := headerFields f ++ [headerCrc8 (headerFields f)]

def body (payload : Bytes) : Bytes :=
  if payload = [] then [] else payload ++ dataCrc16LeBytes payload

def wireBytes (f : Frame) : Bytes := preamble ++ header f ++ body f.payload

def maxLength : ℕ := 0xFFFF

def encodeFrame (f : Frame) : Result Bytes :=
  if maxLength < f.payload.length then
    raise .frameFault [.text "payload too long: ", .int f.payload.length]
  else .ok (wireBytes f)

def lengthField (hi lo : UInt8) : ℕ := hi.toNat * 256 + lo.toNat

def decodeFrame (buf : Bytes) : Result Frame :=
  match buf with
  | b0 :: b1 :: ft :: dst :: src :: hi :: lo :: hcrc :: rest =>
    if [b0, b1] ≠ preamble then
      raise .frameFault [.text "bad preamble: ", .bytesHex [b0, b1]]
    else if hcrc ≠ headerCrc8 [ft, dst, src, hi, lo] then
      raise .frameFault [.text "header CRC mismatch: got 0x", .hex 2 hcrc.toNat,
        .text ", want 0x", .hex 2 (headerCrc8 [ft, dst, src, hi, lo]).toNat]
    else if lengthField hi lo = 0 then .ok ⟨ft, dst, src, []⟩
    else if buf.length < 8 + lengthField hi lo + 2 then
      raise .frameFault [.text "frame truncated: have ", .int buf.length, .text ", need ",
        .int (8 + lengthField hi lo + 2)]
    else
      let payload := rest.take (lengthField hi lo)
      let dcrc := (rest.drop (lengthField hi lo)).take 2
      if dcrc ≠ dataCrc16LeBytes payload then
        raise .frameFault [.text "data CRC mismatch: got ", .bytesHex dcrc, .text ", want ",
          .bytesHex (dataCrc16LeBytes payload)]
      else .ok ⟨ft, dst, src, payload⟩
  | _ => raise .frameFault [.text "frame too short: ", .int buf.length, .text " bytes"]

theorem lengthField_le (hi lo : UInt8) : lengthField hi lo ≤ maxLength := by
  have h := hi.toNat_lt
  have l := lo.toNat_lt
  simp only [lengthField, maxLength]
  omega

theorem lengthField_split {n : ℕ} (h : n ≤ maxLength) :
    lengthField (UInt8.ofNat (n / 256)) (UInt8.ofNat n) = n := by
  simp only [lengthField, UInt8.toNat_ofNat', maxLength] at *
  omega

theorem lengthField_join (hi lo : UInt8) :
    UInt8.ofNat (lengthField hi lo / 256) = hi ∧ UInt8.ofNat (lengthField hi lo) = lo := by
  have l := lo.toNat_lt
  constructor
  · have : lengthField hi lo / 256 = hi.toNat := by unfold lengthField; omega
    rw [this, UInt8.ofNat_toNat]
  · apply UInt8.toNat.inj
    have h := hi.toNat_lt
    simp only [lengthField, UInt8.toNat_ofNat']
    omega

@[simp] theorem dataCrc16LeBytes_length (data : Bytes) : (dataCrc16LeBytes data).length = 2 := rfl

@[simp] theorem header_length (f : Frame) : (header f).length = 6 := rfl

theorem body_length (payload : Bytes) :
    (body payload).length = if payload.length = 0 then 0 else payload.length + 2 := by
  cases payload with
  | nil => rfl
  | cons b bs => simp [body]

theorem decodeFrame_header_ok_iff {b0 b1 ft dst src hi lo hcrc : UInt8} {rest : Bytes}
    {f : Frame} :
    decodeFrame (b0 :: b1 :: ft :: dst :: src :: hi :: lo :: hcrc :: rest) = .ok f ↔
      [b0, b1] = preamble ∧ hcrc = headerCrc8 [ft, dst, src, hi, lo] ∧
        (lengthField hi lo = 0 ∧ f = ⟨ft, dst, src, []⟩ ∨
          lengthField hi lo ≠ 0 ∧ lengthField hi lo + 2 ≤ rest.length ∧
            (rest.drop (lengthField hi lo)).take 2 =
              dataCrc16LeBytes (rest.take (lengthField hi lo)) ∧
            f = ⟨ft, dst, src, rest.take (lengthField hi lo)⟩) := by
  simp only [decodeFrame, raise, List.length_cons]
  by_cases hpre : [b0, b1] = preamble
  · by_cases hcrc' : hcrc = headerCrc8 [ft, dst, src, hi, lo]
    · by_cases hz : lengthField hi lo = 0
      · simp [hpre, hcrc', hz, eq_comm]
      · by_cases hlen : lengthField hi lo + 2 ≤ rest.length
        · have hlen' : ¬ rest.length + 1 + 1 + 1 + 1 + 1 + 1 + 1 + 1 <
              8 + lengthField hi lo + 2 := by
            omega
          by_cases hd : (rest.drop (lengthField hi lo)).take 2 =
              dataCrc16LeBytes (rest.take (lengthField hi lo))
          · simp [hpre, hcrc', hz, hlen, hlen', hd, eq_comm]
          · simp [hpre, hcrc', hz, hlen', hd]
        · have hlen' : rest.length + 1 + 1 + 1 + 1 + 1 + 1 + 1 + 1 < 8 + lengthField hi lo + 2 := by
            omega
          simp [hpre, hcrc', hz, hlen, hlen']
    · simp [hpre, hcrc']
  · simp [hpre]

theorem decodeFrame_wireBytes {f : Frame} (hf : f.payload.length ≤ maxLength) (t : Bytes) :
    decodeFrame (wireBytes f ++ t) = .ok f := by
  have hn := lengthField_split hf
  have hw : wireBytes f ++ t = 0x55 :: 0xFF :: f.frameType :: f.dst :: f.src ::
      UInt8.ofNat (f.payload.length / 256) :: UInt8.ofNat f.payload.length ::
      headerCrc8 (headerFields f) :: (body f.payload ++ t) := rfl
  rw [hw]
  refine decodeFrame_header_ok_iff.mpr ⟨rfl, rfl, ?_⟩
  rw [hn]
  by_cases hp : f.payload = []
  · exact Or.inl ⟨by simp [hp], by rw [← hp]⟩
  · have hb : body f.payload ++ t = f.payload ++ (dataCrc16LeBytes f.payload ++ t) := by
      simp [body, hp]
    have hlen : f.payload.length + 2 ≤ (body f.payload ++ t).length := by
      rw [hb, List.length_append, List.length_append, dataCrc16LeBytes_length]
      omega
    refine Or.inr ⟨by simpa using hp, hlen, ?_⟩
    rw [hb, List.take_left, List.drop_left]
    exact ⟨rfl, rfl⟩

theorem decodeFrame_canonical {buf : Bytes} {f : Frame} (h : decodeFrame buf = .ok f) :
    f.payload.length ≤ maxLength ∧ ∃ t, buf = wireBytes f ++ t := by
  have hbuf : ∃ b0 b1 ft dst src hi lo hcrc rest,
      buf = b0 :: b1 :: ft :: dst :: src :: hi :: lo :: hcrc :: rest := by
    simp only [decodeFrame] at h
    split at h
    · exact ⟨_, _, _, _, _, _, _, _, _, rfl⟩
    · simp [raise] at h
  obtain ⟨b0, b1, ft, dst, src, hi, lo, hcrc, rest, rfl⟩ := hbuf
  obtain ⟨hhi, hlo⟩ := lengthField_join hi lo
  rcases decodeFrame_header_ok_iff.mp h with ⟨hpre, rfl, ⟨hz, rfl⟩ | ⟨hz, hlen, hd, rfl⟩⟩
  · refine ⟨Nat.zero_le _, rest, ?_⟩
    rw [hz] at hhi hlo
    subst hhi hlo
    simp only [wireBytes, header, headerFields, body, List.length_nil, ← hpre]
    rfl
  · have hp : (rest.take (lengthField hi lo)).length = lengthField hi lo := by
      rw [List.length_take]
      omega
    have hne : rest.take (lengthField hi lo) ≠ [] := by
      intro he
      rw [he] at hp
      exact hz hp.symm
    have hrest : rest = rest.take (lengthField hi lo) ++
        (dataCrc16LeBytes (rest.take (lengthField hi lo)) ++
          (rest.drop (lengthField hi lo)).drop 2) := by
      rw [← hd, List.take_append_drop, List.take_append_drop]
    refine ⟨le_of_eq_of_le hp (lengthField_le hi lo), (rest.drop (lengthField hi lo)).drop 2, ?_⟩
    simp only [wireBytes, header, headerFields, body, hp, ← hpre, hne, if_false, hhi, hlo]
    simpa using hrest

theorem decodeFrame_ok_iff {buf : Bytes} {f : Frame} :
    decodeFrame buf = .ok f ↔ f.payload.length ≤ maxLength ∧ ∃ t, buf = wireBytes f ++ t := by
  refine ⟨decodeFrame_canonical, ?_⟩
  rintro ⟨hf, t, rfl⟩
  exact decodeFrame_wireBytes hf t

theorem decodeFrame_error_kind {buf : Bytes} {e : PyError} (h : decodeFrame buf = .error e) :
    e.kind = .frameFault := by
  simp only [decodeFrame] at h
  simp only [raise] at h
  split at h
  · split at h
    · cases h; rfl
    · split at h
      · cases h; rfl
      · split at h
        · cases h
        · split at h
          · cases h; rfl
          · split at h
            · cases h; rfl
            · cases h
  · cases h; rfl

end StdBusFraming
