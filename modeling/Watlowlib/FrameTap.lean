import Watlowlib.StdBusResync

/-! # The passive tap

The capture loop of the diagnostics tap with its own copy of the frame reader. That reader leaves
out the header check, so that each of its frames ends one byte early and is refused. -/
namespace FrameTap

open ExceptRules PythonValues SerialTransport StdBusFraming WatlowErrors

/-- `_HEADER_LEN`: the five header fields without the check behind them. -/
def headerLen : ℕ := 5

def dcrcLen : ℕ := 2

def preambleScanLimit : ℕ := 4096

def noPreamble (scanned : Bytes) : PyError :=
  ⟨.frame, [.text "no Std Bus preamble in ", .int scanned.length, .text " bytes"], {}⟩

def scanPreamble (timeout : PyFloat) : ℕ → Bytes → Line → Result PUnit × Line
  | 0, scanned, s => (.error (noPreamble scanned), s)
  | fuel + 1, scanned, s =>
    let next (scanned : Bytes) (s : Line) :=
      if preambleScanLimit < scanned.length then (.error (noPreamble scanned), s)
      else scanPreamble timeout fuel scanned s
    andThen (readExact 1 timeout s) fun b s =>
      if b = [0x55] then
        andThen (readExact 1 timeout s) fun b2 s =>
          if b2 = [0xFF] then (.ok ⟨⟩, s) else next (scanned ++ b ++ b2) s
      else next (scanned ++ b) s

def readFields (timeout : PyFloat) (s : Line) : Result Bytes × Line :=
  andThen (readExact headerLen timeout s) fun header s =>
    if StdBusClient.headerLength header = 0 then (.ok (preamble ++ header), s)
    else
      andThen (readExact (StdBusClient.headerLength header + dcrcLen) timeout s) fun body s =>
        (.ok (preamble ++ header ++ body), s)

def readOneFrame (timeout : PyFloat) (s : Line) : Result Bytes × Line :=
  andThen (scanPreamble timeout (preambleScanLimit + 1) [] s) fun _ s => readFields timeout s

/-- One captured frame, as the entries of its dictionary. -/
abbrev Record := List (String × Message)

def hexUpper (bs : Bytes) : Message := bs.map fun b => .hex 2 b.toNat

def frameErrorRecord (e : PyError) : Record :=
  [("status", [.text "frame_error"]), ("error", e.str)]

def decodeErrorRecord (e : PyError) (raw : Bytes) : Record :=
  [("status", [.text "decode_error"]), ("error", e.str), ("raw_hex", hexUpper raw)]

def okRecord (raw : Bytes) (f : Frame) : Record :=
  [("status", [.text "ok"]), ("raw_hex", hexUpper raw),
    ("frame_type", [.text "0x", .hex 2 f.frameType.toNat]),
    ("dst", [.text "0x", .hex 2 f.dst.toNat]), ("src", [.text "0x", .hex 2 f.src.toNat]),
    ("payload_hex", hexUpper f.payload)]

def decodeRecord (raw : Bytes) : Record :=
  match decodeFrame raw with
  | .error e => decodeErrorRecord e raw
  | .ok f => okRecord raw f

/-- The rounds of the capture loop. Each takes two readings of the clock: one against the
deadline, one for the time that remains to its reads; the readings end with the capture. -/
def captureLoop (deadline : ℚ) (maxFrames : Option ℤ) :
    List (ℚ × ℚ) → List Record → Line → Result (List Record) × Line
  | [], captured, s => (.ok captured, s)
  | (now, later) :: clock, captured, s =>
    if ¬ now < deadline then (.ok captured, s)
    else if maxFrames.any (fun m : ℤ => decide (m ≤ captured.length)) then (.ok captured, s)
    else
      match readOneFrame (.finite (max (1 / 1000) (deadline - later))) s with
      | (.error e, s) =>
        if e.kind.IsInstance .timeout then (.ok captured, s)
        else if e.kind.IsInstance .frame then
          captureLoop deadline maxFrames clock (captured ++ [frameErrorRecord e]) s
        else (.error e, s)
      | (.ok raw, s) => captureLoop deadline maxFrames clock (captured ++ [decodeRecord raw]) s

def captureFrames (start duration : ℚ) (maxFrames : Option ℤ) (clock : List (ℚ × ℚ)) (s : Line) :
    Result (List Record) × Line :=
  captureLoop (start + duration) maxFrames clock [] s

theorem readExact_eq_ok {n : ℕ} {timeout : PyFloat} {s s' : Line} {b : Bytes}
    (h : readExact n timeout s = (.ok b, s')) :
    s.isOpen = true ∧ n ≤ s.stream.length ∧ b = s.stream.take n ∧ s'.stream = s.stream.drop n ∧
      s.SamePort s' := by
  by_cases hopen : s.isOpen = true
  · by_cases hn : n ≤ s.stream.length
    · obtain ⟨s'', hr, hs, hp⟩ := readExact_ok timeout hopen hn
      rw [h] at hr
      cases hr
      exact ⟨hopen, hn, rfl, hs, hp⟩
    · rw [readExact_short timeout hopen (by omega)] at h
      cases h
  · simp [readExact, requirePort, require, hopen] at h

theorem scanPreamble_of_client {timeout : PyFloat} {context : ErrorContext} {fuel fuel' : ℕ}
    {scanned : Bytes} {s s' : Line} (hfuel : fuel ≤ fuel')
    (h : StdBusClient.scanPreamble timeout context fuel scanned s = (.ok ⟨⟩, s')) :
    scanPreamble timeout fuel' scanned s = (.ok ⟨⟩, s') := by
  induction fuel generalizing fuel' scanned s with
  | zero => simp [StdBusClient.scanPreamble] at h
  | succ fuel ih =>
    obtain ⟨fuel', rfl⟩ : ∃ n, fuel' = n + 1 := ⟨fuel' - 1, by omega⟩
    have hnext : ∀ scanned s,
        (if StdBusClient.preambleScanLimit < scanned.length then
          (.error (StdBusClient.noPreamble context scanned), s)
        else StdBusClient.scanPreamble timeout context fuel scanned s) = (.ok ⟨⟩, s') →
        (if preambleScanLimit < scanned.length then (.error (noPreamble scanned), s)
        else scanPreamble timeout fuel' scanned s) = (.ok ⟨⟩, s') := by
      intro scanned s h
      split at h
      · cases h
      · rename_i hle
        have hlimit : ¬ preambleScanLimit < scanned.length := by
          simp only [StdBusClient.preambleScanLimit, preambleScanLimit] at *
          omega
        rw [if_neg hlimit]
        exact ih (by omega) h
    simp only [StdBusClient.scanPreamble] at h
    simp only [scanPreamble]
    obtain ⟨b, s₁, hb, h⟩ := andThen_ok_iff.mp h
    rw [hb, andThen_ok]
    split at h
    · rename_i hb'
      obtain ⟨b2, s₂, hb2, h⟩ := andThen_ok_iff.mp h
      rw [if_pos hb', hb2, andThen_ok]
      split at h
      · rename_i hb2'
        rw [if_pos hb2', h]
      · rename_i hb2'
        rw [if_neg hb2']
        exact hnext _ _ h
    · rename_i hb'
      rw [if_neg hb']
      exact hnext _ _ h

theorem six_bytes {bs : Bytes} (h : 6 ≤ bs.length) :
    ∃ ft dst src hi lo hcrc rest, bs = ft :: dst :: src :: hi :: lo :: hcrc :: rest := by
  match bs, h with
  | ft :: dst :: src :: hi :: lo :: hcrc :: rest, _ => exact ⟨_, _, _, _, _, _, _, rfl⟩

theorem readOneFrame_of_client {timeout : PyFloat} {context : ErrorContext} {s s' : Line}
    {raw : Bytes} (h : StdBusClient.readFrame timeout context s = (.ok raw, s')) :
    ∃ cut last s'', readOneFrame timeout s = (.ok cut, s'') ∧ raw = cut ++ [last] ∧
      s''.stream = last :: s'.stream := by
  obtain ⟨⟨⟩, s₁, hscan, hfields⟩ := andThen_ok_iff.mp h
  have htap : scanPreamble timeout (preambleScanLimit + 1) [] s = (.ok ⟨⟩, s₁) :=
    scanPreamble_of_client (by decide) hscan
  obtain ⟨header, s₂, hheader, hrest⟩ := andThen_ok_iff.mp hfields
  obtain ⟨hopen, hlen, rfl, hs₂, -⟩ := readExact_eq_ok hheader
  obtain ⟨ft, dst, src, hi, lo, hcrc, rest, hs₁⟩ := six_bytes hlen
  have hfive : headerLen ≤ s₁.stream.length := by
    simp only [headerLen, StdBusClient.headerLen] at *
    omega
  obtain ⟨t₂, ht₂, hts₂, hpt₂⟩ := readExact_ok timeout hopen hfive
  rw [hs₁] at ht₂ hts₂ hs₂ hrest
  simp only [headerLen, StdBusClient.headerLen, List.take_succ_cons, List.take_zero,
    List.drop_succ_cons, List.drop_zero] at ht₂ hts₂ hs₂ hrest
  have hread : ∀ {cut t}, readFields timeout s₁ = (.ok cut, t) →
      readOneFrame timeout s = (.ok cut, t) := by
    intro cut t hr
    rw [readOneFrame, htap, andThen_ok, hr]
  generalize hplen : lengthField hi lo = plen
  have hplen₆ : StdBusClient.headerLength [ft, dst, src, hi, lo, hcrc] = plen := hplen
  have hplen₅ : StdBusClient.headerLength [ft, dst, src, hi, lo] = plen := hplen
  simp only [hplen₆] at hrest
  by_cases hz : plen = 0
  · rw [if_pos hz] at hrest
    cases hrest
    refine ⟨preamble ++ [ft, dst, src, hi, lo], hcrc, t₂, hread ?_, by simp, by rw [hts₂, hs₂]⟩
    rw [readFields, headerLen, ht₂, andThen_ok, hplen₅, if_pos hz]
  · rw [if_neg hz] at hrest
    split at hrest
    · cases hrest
    · obtain ⟨body, s₃, hbody, hraw⟩ := andThen_ok_iff.mp hrest
      obtain ⟨-, hlen₃, rfl, hs₃, -⟩ := readExact_eq_ok hbody
      simp only [StdBusClient.dcrcLen, hs₂] at hlen₃ hs₃ hraw
      have hroom : plen + dcrcLen ≤ t₂.stream.length := by
        rw [hts₂, List.length_cons, dcrcLen]
        omega
      obtain ⟨t₃, ht₃, hts₃, -⟩ := readExact_ok timeout (hpt₂.2.1.trans hopen) hroom
      have hlast : plen + 1 < rest.length := by omega
      have htake : rest.take (plen + 2) = rest.take (plen + 1) ++ [rest[plen + 1]] :=
        (List.take_concat_get' rest (plen + 1) hlast).symm
      have hdrop : rest.drop (plen + 1) = rest[plen + 1] :: rest.drop (plen + 2) :=
        List.drop_eq_getElem_cons hlast
      rw [hts₂] at ht₃ hts₃
      simp only [dcrcLen, List.take_succ_cons, List.drop_succ_cons] at ht₃ hts₃
      cases hraw
      refine ⟨preamble ++ [ft, dst, src, hi, lo] ++ hcrc :: rest.take (plen + 1),
        rest[plen + 1], t₃, hread ?_, ?_, ?_⟩
      · rw [readFields, headerLen, ht₂, andThen_ok, hplen₅, if_neg hz, dcrcLen, ht₃, andThen_ok]
      · rw [htake]
        simp
      · rw [hts₃, hs₃, hdrop]

theorem five_bytes {bs : Bytes} (h : 5 ≤ bs.length) :
    ∃ ft dst src hi lo rest, bs = ft :: dst :: src :: hi :: lo :: rest := by
  match bs, h with
  | ft :: dst :: src :: hi :: lo :: rest, _ => exact ⟨_, _, _, _, _, _, rfl⟩

theorem decodeFrame_readOneFrame {timeout : PyFloat} {s s' : Line} {raw : Bytes}
    (h : readOneFrame timeout s = (.ok raw, s')) : ∃ e, decodeFrame raw = .error e := by
  obtain ⟨⟨⟩, s₁, -, hfields⟩ := andThen_ok_iff.mp h
  obtain ⟨header, s₂, hheader, hrest⟩ := andThen_ok_iff.mp hfields
  obtain ⟨-, hlen, rfl, -, -⟩ := readExact_eq_ok hheader
  obtain ⟨ft, dst, src, hi, lo, rest, hs₁⟩ := five_bytes hlen
  rw [hs₁] at hrest
  simp only [headerLen, List.take_succ_cons, List.take_zero] at hrest
  have hplen : StdBusClient.headerLength [ft, dst, src, hi, lo] = lengthField hi lo := rfl
  simp only [hplen] at hrest
  by_cases hz : lengthField hi lo = 0
  · rw [if_pos hz] at hrest
    cases hrest
    exact ⟨_, rfl⟩
  · rw [if_neg hz] at hrest
    obtain ⟨body, s₃, hbody, hraw⟩ := andThen_ok_iff.mp hrest
    obtain ⟨-, hlen₃, hval, -, -⟩ := readExact_eq_ok hbody
    have hsize : body.length = lengthField hi lo + 2 := by
      rw [hval]
      exact List.length_take_of_le hlen₃
    cases hraw
    cases hdecode : decodeFrame (preamble ++ [ft, dst, src, hi, lo] ++ body) with
    | error e => exact ⟨e, rfl⟩
    | ok f =>
      exfalso
      cases body with
      | nil => cases hdecode
      | cons hcrc body =>
        rcases (decodeFrame_header_ok_iff.mp hdecode).2.2 with ⟨hzero, -⟩ | ⟨-, hroom, -⟩
        · exact hz hzero
        · rw [List.length_cons] at hsize
          omega

def Record.IsOk (r : Record) : Prop := ("status", [Piece.text "ok"]) ∈ r

theorem captureLoop_records {deadline : ℚ} {maxFrames : Option ℤ} {clock : List (ℚ × ℚ)}
    {captured records : List Record} {s s' : Line}
    (h : captureLoop deadline maxFrames clock captured s = (.ok records, s')) :
    ∃ more, records = captured ++ more ∧ ∀ r ∈ more, ¬ Record.IsOk r := by
  induction clock generalizing captured s with
  | nil =>
    exact ⟨[], by cases h; simp, by simp⟩
  | cons reading clock ih =>
    obtain ⟨now, later⟩ := reading
    have hstop : records = captured →
        ∃ more, records = captured ++ more ∧ ∀ r ∈ more, ¬ Record.IsOk r := by
      intro heq
      exact ⟨[], by rw [heq, List.append_nil], by simp⟩
    have hround : ∀ {r : Record} {t : Line}, ¬ r.IsOk →
        captureLoop deadline maxFrames clock (captured ++ [r]) t = (.ok records, s') →
        ∃ more, records = captured ++ more ∧ ∀ r ∈ more, ¬ Record.IsOk r := by
      intro r t hr h
      obtain ⟨more, hmore, hall⟩ := ih h
      refine ⟨r :: more, by rw [hmore, List.append_assoc, List.singleton_append], ?_⟩
      intro q hq
      rcases List.mem_cons.mp hq with rfl | hq
      · exact hr
      · exact hall q hq
    simp only [captureLoop] at h
    split_ifs at h with hnow hmax
    · exact hstop (by cases h; rfl)
    · split at h
      · rename_i e t hread
        split_ifs at h with htimeout hframe
        · exact hstop (by cases h; rfl)
        · exact hround (by simp [Record.IsOk, frameErrorRecord]) h
        · cases h
      · rename_i raw t hread
        obtain ⟨e, he⟩ := decodeFrame_readOneFrame hread
        refine hround ?_ h
        simp [Record.IsOk, decodeRecord, he, decodeErrorRecord]
    · exact hstop (by cases h; rfl)

/-- One decoded record for each frame, in order, with its type, addresses and payload. -/
def Captures (frames : List Frame) (r : Result (List Record) × Line) : Prop :=
  ∃ raws s', raws.length = frames.length ∧ r = (.ok (List.zipWith okRecord raws frames), s')

theorem not_captures_cons {f : Frame} {frames : List Frame} {start duration : ℚ}
    {maxFrames : Option ℤ} {clock : List (ℚ × ℚ)} {s : Line} :
    ¬ Captures (f :: frames) (captureFrames start duration maxFrames clock s) := by
  rintro ⟨raws, s', hlen, h⟩
  cases raws with
  | nil => cases hlen
  | cons raw raws =>
    obtain ⟨more, hmore, hall⟩ := captureLoop_records h
    rw [List.zipWith_cons_cons, List.nil_append] at hmore
    apply hall (okRecord raw f) (hmore ▸ List.mem_cons_self ..)
    simp [Record.IsOk, okRecord]

theorem captures_nil {start duration now later : ℚ} {clock : List (ℚ × ℚ)} {s : Line}
    (hopen : s.isOpen = true) (hquiet : s.ending = .ownDeadline) (hs : s.stream = [])
    (hnow : now < start + duration) :
    Captures [] (captureFrames start duration none ((now, later) :: clock) s) := by
  generalize htimeout : PyFloat.finite (max (1 / 1000) (start + duration - later)) = timeout
  obtain ⟨s', hshort⟩ : ∃ s', readExact 1 timeout s = (.error (readError 1 timeout s), s') :=
    ⟨_, readExact_short timeout hopen (by simp [hs])⟩
  have hread : readOneFrame timeout s = (.error (readError 1 timeout s), s') := by
    rw [readOneFrame, scanPreamble, hshort, andThen_error, andThen_error]
  have hkind : (readError 1 timeout s).kind.IsInstance .timeout := by
    rw [readError, hquiet]
    exact self_mem_mro .timeout
  refine ⟨[], s', rfl, ?_⟩
  simp only [captureFrames, captureLoop, htimeout, hread]
  rw [if_neg (by simpa using hnow), if_pos hkind]
  rfl

/-- Given time, the tap captures a stream of frames exactly when it is empty; and on no stream
does its reader return the frame that the client's reader returns. -/
theorem tap_captures_iff (frames : List Frame) (start duration : ℚ) (clock : List (ℚ × ℚ))
    (s : Line) :
    (s.isOpen = true → s.ending = .ownDeadline →
      (∀ f ∈ frames, f.payload.length ≤ StdBusClient.maxPayloadLen) →
      s.stream = frames.flatMap wireBytes → frames.length < clock.length →
      (∀ reading ∈ clock, reading.1 < start + duration) →
      (Captures frames (captureFrames start duration none clock s) ↔ frames = [])) ∧
    ∀ timeout context raw s', StdBusClient.readFrame timeout context s = (.ok raw, s') →
      ∀ t, readOneFrame timeout s ≠ (.ok raw, t) := by
  constructor
  · intro hopen hquiet _ hs hlen hearly
    constructor
    · intro h
      cases frames with
      | nil => rfl
      | cons f frames => exact absurd h not_captures_cons
    · rintro rfl
      cases clock with
      | nil => cases hlen
      | cons reading clock =>
        exact captures_nil hopen hquiet hs (hearly reading (List.mem_cons_self ..))
  · intro timeout context raw s' h t ht
    obtain ⟨cut, last, s'', hcut, hraw, -⟩ := readOneFrame_of_client h
    rw [hcut] at ht
    cases ht
    simp at hraw

theorem tap_quiet_line :
    Captures [] (captureFrames 0 5 none [(0, 0)] (StdBusResync.lineOf [])) :=
  ((tap_captures_iff [] 0 5 [(0, 0)] (StdBusResync.lineOf [])).1 rfl rfl (by simp) rfl (by decide)
    (by simp)).mpr rfl

theorem tap_misses_refusal :
    ¬ Captures [StdBusResync.refusal]
      (captureFrames 0 5 none [(0, 0), (1, 1)]
        (StdBusResync.lineOf [wireBytes StdBusResync.refusal])) :=
  not_captures_cons

end FrameTap
