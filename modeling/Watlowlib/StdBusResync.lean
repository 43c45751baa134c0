import Mathlib.Algebra.Group.Even
import Mathlib.Data.List.DropRight
import Watlowlib.StdBusClient

/-! # Preamble resynchronisation

What the scan passes over, which frame it stops at, and when garbage in front of a frame costs
that frame. A run of `55` is consumed in pairs, so its parity decides. -/
namespace StdBusResync

open ExceptRules PythonValues SerialTransport StdBusClient StdBusFraming WatlowErrors

/-- The byte strings the scan passes over in whole rounds. -/
inductive Skippable : Bytes → Prop where
  | nil : Skippable []
  | single {b g} : b ≠ 0x55 → Skippable g → Skippable (b :: g)
  | pair {b g} : b ≠ 0xFF → Skippable g → Skippable (0x55 :: b :: g)

theorem stream_cases (bs : Bytes) :
    (∃ g rest, Skippable g ∧ bs = g ++ 0x55 :: 0xFF :: rest) ∨ Skippable bs ∨
      ∃ g, Skippable g ∧ bs = g ++ [0x55] := by
  match bs with
  | [] => exact Or.inr (Or.inl .nil)
  | b :: bs =>
    by_cases hb : b = 0x55
    · subst hb
      match bs with
      | [] => exact Or.inr (Or.inr ⟨[], .nil, rfl⟩)
      | x :: bs =>
        by_cases hx : x = 0xFF
        · subst hx
          exact Or.inl ⟨[], bs, .nil, rfl⟩
        · rcases stream_cases bs with ⟨g, rest, hg, rfl⟩ | hg | ⟨g, hg, rfl⟩
          · exact Or.inl ⟨_, rest, .pair hx hg, rfl⟩
          · exact Or.inr (Or.inl (.pair hx hg))
          · exact Or.inr (Or.inr ⟨_, .pair hx hg, rfl⟩)
    · rcases stream_cases bs with ⟨g, rest, hg, rfl⟩ | hg | ⟨g, hg, rfl⟩
      · exact Or.inl ⟨_, rest, .single hb hg, rfl⟩
      · exact Or.inr (Or.inl (.single hb hg))
      · exact Or.inr (Or.inr ⟨_, .single hb hg, rfl⟩)

theorem Skippable.frame_start_unique {g g' rest rest' : Bytes} (hg : Skippable g)
    (hg' : Skippable g') (h : g ++ 0x55 :: 0xFF :: rest = g' ++ 0x55 :: 0xFF :: rest') :
    g = g' ∧ rest = rest' := by
  induction hg generalizing g' with
  | nil =>
    cases hg' with
    | nil => exact ⟨rfl, by simpa using h⟩
    | single hb _ => exact absurd (List.cons.inj h).1.symm hb
    | pair hb _ => exact absurd (List.cons.inj (List.cons.inj h).2).1.symm hb
  | single hb _ ih =>
    cases hg' with
    | nil => exact absurd (List.cons.inj h).1 hb
    | single hb' hg' =>
      obtain ⟨rfl, ht⟩ := List.cons.inj h
      obtain ⟨rfl, rfl⟩ := ih hg' ht
      exact ⟨rfl, rfl⟩
    | pair _ _ => exact absurd (List.cons.inj h).1 hb
  | pair hb _ ih =>
    cases hg' with
    | nil => exact absurd (List.cons.inj (List.cons.inj h).2).1 hb
    | single hb' _ => exact absurd (List.cons.inj h).1.symm hb'
    | pair hb' hg' =>
      obtain ⟨rfl, ht⟩ := List.cons.inj (List.cons.inj h).2
      obtain ⟨rfl, rfl⟩ := ih hg' ht
      exact ⟨rfl, rfl⟩

theorem Skippable.append {g g' : Bytes} (hg : Skippable g) (hg' : Skippable g') :
    Skippable (g ++ g') := by
  induction hg with
  | nil => exact hg'
  | single hb _ ih => exact .single hb ih
  | pair hb _ ih => exact .pair hb ih

variable (timeout : PyFloat) (context : ErrorContext)

theorem readExact_head {s : Line} {b : UInt8} {bs : Bytes} (hopen : s.isOpen = true)
    (hs : s.stream = b :: bs) :
    ∃ s', readExact 1 timeout s = (.ok [b], s') ∧ s'.stream = bs ∧ s.SamePort s' := by
  obtain ⟨s', hr, hstream, hp⟩ := readExact_ok timeout hopen (n := 1) (by simp [hs])
  exact ⟨s', by simpa [hs] using hr, by simpa [hs] using hstream, hp⟩

theorem readExact_dry {n : ℕ} {s : Line} (hopen : s.isOpen = true)
    (hn : s.stream.length < n) :
    ∃ s', readExact n timeout s = (.error (readError n timeout s), s') :=
  ⟨_, readExact_short timeout hopen hn⟩

theorem readError_samePort {s s' : Line} (n : ℕ) (h : s.SamePort s') :
    readError n timeout s' = readError n timeout s := by
  simp only [readError, h.1, h.2.2]

theorem scanPreamble_single {s : Line} {b : UInt8} {bs : Bytes} (hopen : s.isOpen = true)
    (hs : s.stream = b :: bs) (hb : b ≠ 0x55) :
    ∃ s', s'.stream = bs ∧ s.SamePort s' ∧ ∀ fuel scanned,
      scanPreamble timeout context (fuel + 1) scanned s =
        if preambleScanLimit < scanned.length + 1 then
          (.error (noPreamble context (scanned ++ [b])), s')
        else scanPreamble timeout context fuel (scanned ++ [b]) s' := by
  obtain ⟨s', hr, hstream, hp⟩ := readExact_head timeout hopen hs
  refine ⟨s', hstream, hp, fun fuel scanned => ?_⟩
  have hb' : ([b] : Bytes) ≠ [0x55] := by simpa using hb
  simp only [scanPreamble, hr, andThen_ok, if_neg hb', List.length_append, List.length_singleton]

theorem scanPreamble_pair {s : Line} {b : UInt8} {bs : Bytes} (hopen : s.isOpen = true)
    (hs : s.stream = 0x55 :: b :: bs) (hb : b ≠ 0xFF) :
    ∃ s', s'.stream = bs ∧ s.SamePort s' ∧ ∀ fuel scanned,
      scanPreamble timeout context (fuel + 1) scanned s =
        if preambleScanLimit < scanned.length + 2 then
          (.error (noPreamble context (scanned ++ [0x55] ++ [b])), s')
        else scanPreamble timeout context fuel (scanned ++ [0x55] ++ [b]) s' := by
  obtain ⟨s₁, hr₁, hs₁, hp₁⟩ := readExact_head timeout hopen hs
  obtain ⟨s₂, hr₂, hs₂, hp₂⟩ := readExact_head timeout (hp₁.2.1.trans hopen) hs₁
  refine ⟨s₂, hs₂, hp₁.trans hp₂, fun fuel scanned => ?_⟩
  have hb' : ([b] : Bytes) ≠ [0xFF] := by simpa using hb
  simp only [scanPreamble, hr₁, hr₂, andThen_ok, if_neg hb', if_true, List.length_append,
    List.length_singleton]

theorem scanPreamble_skip {g rest : Bytes} (hg : Skippable g) :
    ∀ (fuel : ℕ) (scanned : Bytes) {s : Line}, s.isOpen = true → s.stream = g ++ rest →
      scanned.length + g.length ≤ preambleScanLimit → g.length ≤ fuel →
      ∃ fuel' scanned' s', fuel ≤ fuel' + g.length ∧ s'.stream = rest ∧ s.SamePort s' ∧
        scanned'.length = scanned.length + g.length ∧
        scanPreamble timeout context fuel scanned s =
          scanPreamble timeout context fuel' scanned' s' := by
  induction hg with
  | nil =>
    intro fuel scanned s _ hs _ _
    exact ⟨fuel, scanned, s, le_rfl, hs, ⟨rfl, rfl, rfl⟩, rfl, rfl⟩
  | @single b g hb _ ih =>
    intro fuel scanned s hopen hs hlen hfuel
    rw [List.length_cons] at hlen hfuel
    obtain ⟨fuel, rfl⟩ : ∃ n, fuel = n + 1 := ⟨fuel - 1, by omega⟩
    obtain ⟨s₁, hs₁, hp₁, hscan⟩ := scanPreamble_single timeout context hopen hs hb
    obtain ⟨fuel', scanned', s', hf, hs', hp, hl, h⟩ := ih fuel
      (scanned ++ [b]) (hp₁.2.1.trans hopen) hs₁ (by simp; omega) (by omega)
    refine ⟨fuel', scanned', s', by simp; omega, hs', hp₁.trans hp, by simp [hl]; omega, ?_⟩
    rw [hscan, if_neg (by omega), h]
  | @pair b g hb _ ih =>
    intro fuel scanned s hopen hs hlen hfuel
    rw [List.length_cons, List.length_cons] at hlen hfuel
    obtain ⟨fuel, rfl⟩ : ∃ n, fuel = n + 1 := ⟨fuel - 1, by omega⟩
    obtain ⟨s₁, hs₁, hp₁, hscan⟩ := scanPreamble_pair timeout context hopen hs hb
    obtain ⟨fuel', scanned', s', hf, hs', hp, hl, h⟩ := ih fuel
      (scanned ++ [0x55] ++ [b]) (hp₁.2.1.trans hopen) hs₁ (by simp; omega) (by omega)
    refine ⟨fuel', scanned', s', by simp; omega, hs', hp₁.trans hp, by simp [hl]; omega, ?_⟩
    rw [hscan, if_neg (by omega), h]

theorem scanPreamble_over {g rest : Bytes} (hg : Skippable g) :
    ∀ (fuel : ℕ) (scanned : Bytes) {s : Line}, s.isOpen = true → s.stream = g ++ rest →
      scanned.length ≤ preambleScanLimit → preambleScanLimit < scanned.length + g.length →
      ∃ scanned' s', scanPreamble timeout context fuel scanned s =
        (.error (noPreamble context scanned'), s') := by
  induction hg with
  | nil =>
    intro fuel scanned s _ _ hle hlt
    rw [List.length_nil] at hlt
    omega
  | @single b g hb _ ih =>
    intro fuel scanned s hopen hs hle hlt
    cases fuel with
    | zero => exact ⟨scanned, s, rfl⟩
    | succ fuel =>
      obtain ⟨s₁, hs₁, hp₁, hscan⟩ := scanPreamble_single timeout context hopen hs hb
      by_cases hover : preambleScanLimit < scanned.length + 1
      · exact ⟨_, s₁, by rw [hscan, if_pos hover]⟩
      · rw [List.length_cons] at hlt
        rw [hscan, if_neg hover]
        exact ih fuel _ (hp₁.2.1.trans hopen) hs₁ (by simp; omega) (by simp; omega)
  | @pair b g hb _ ih =>
    intro fuel scanned s hopen hs hle hlt
    cases fuel with
    | zero => exact ⟨scanned, s, rfl⟩
    | succ fuel =>
      obtain ⟨s₁, hs₁, hp₁, hscan⟩ := scanPreamble_pair timeout context hopen hs hb
      by_cases hover : preambleScanLimit < scanned.length + 2
      · exact ⟨_, s₁, by rw [hscan, if_pos hover]⟩
      · rw [List.length_cons, List.length_cons] at hlt
        rw [hscan, if_neg hover]
        exact ih fuel _ (hp₁.2.1.trans hopen) hs₁ (by simp; omega) (by simp; omega)

/-- Once the rounds cover the rest of the budget, more rounds change nothing: the scan is the
unbounded loop of the source. -/
theorem scanPreamble_fuel {fuel : ℕ} {scanned : Bytes} {s : Line} (hopen : s.isOpen = true)
    (hfuel : preambleScanLimit < fuel + scanned.length)
    (hscanned : scanned.length ≤ preambleScanLimit) :
    scanPreamble timeout context (fuel + 1) scanned s =
      scanPreamble timeout context fuel scanned s := by
  induction fuel generalizing scanned s with
  | zero => omega
  | succ fuel ih =>
    match hs : s.stream with
    | [] =>
      obtain ⟨s', hr⟩ := readExact_dry timeout hopen (n := 1) (by simp [hs])
      simp only [scanPreamble, hr, andThen_error]
    | b :: bs =>
      by_cases hb : b = 0x55
      · subst hb
        obtain ⟨s₁, hr₁, hs₁, hp₁⟩ := readExact_head timeout hopen hs
        match bs with
        | [] =>
          obtain ⟨s₂, hr₂⟩ := readExact_dry timeout (hp₁.2.1.trans hopen) (n := 1) (by simp [hs₁])
          simp only [scanPreamble, hr₁, hr₂, andThen_ok, andThen_error, if_true]
        | x :: bs =>
          by_cases hx : x = 0xFF
          · subst hx
            obtain ⟨s₂, hr₂, -, -⟩ := readExact_head timeout (hp₁.2.1.trans hopen) hs₁
            simp only [scanPreamble, hr₁, hr₂, andThen_ok, if_true]
          · obtain ⟨s₂, -, hp₂, hscan⟩ := scanPreamble_pair timeout context hopen hs hx
            rw [hscan, hscan]
            split
            · rfl
            · exact ih (hp₂.2.1.trans hopen) (by simp; omega) (by simp; omega)
      · obtain ⟨s₁, -, hp₁, hscan⟩ := scanPreamble_single timeout context hopen hs hb
        rw [hscan, hscan]
        split
        · rfl
        · exact ih (hp₁.2.1.trans hopen) (by simp; omega) (by simp; omega)

theorem scanPreamble_found {g rest : Bytes} {s : Line} (hg : Skippable g)
    (hlen : g.length ≤ preambleScanLimit) (hopen : s.isOpen = true)
    (hs : s.stream = g ++ 0x55 :: 0xFF :: rest) :
    ∃ s', scanPreamble timeout context (preambleScanLimit + 1) [] s = (.ok ⟨⟩, s') ∧
      s'.stream = rest ∧ s.SamePort s' := by
  obtain ⟨fuel, scanned, s₀, hf, hs₀, hp₀, -, h⟩ := scanPreamble_skip timeout context hg
    (preambleScanLimit + 1) [] hopen hs (by simpa using hlen) (by omega)
  obtain ⟨fuel, rfl⟩ : ∃ n, fuel = n + 1 := ⟨fuel - 1, by omega⟩
  obtain ⟨s₁, hr₁, hs₁, hp₁⟩ := readExact_head timeout (hp₀.2.1.trans hopen) hs₀
  obtain ⟨s₂, hr₂, hs₂, hp₂⟩ := readExact_head timeout (hp₁.2.1.trans (hp₀.2.1.trans hopen)) hs₁
  refine ⟨s₂, ?_, hs₂, hp₀.trans (hp₁.trans hp₂)⟩
  rw [h]
  simp only [scanPreamble, hr₁, hr₂, andThen_ok, if_true]

theorem scanPreamble_dry {g : Bytes} {s : Line} (hg : Skippable g)
    (hlen : g.length ≤ preambleScanLimit) (hopen : s.isOpen = true)
    (hs : s.stream = g ∨ s.stream = g ++ [0x55]) :
    ∃ s', scanPreamble timeout context (preambleScanLimit + 1) [] s =
      (.error (readError 1 timeout s), s') := by
  obtain ⟨rest, hrest, hs⟩ : ∃ rest, (rest = [] ∨ rest = [0x55]) ∧ s.stream = g ++ rest := by
    rcases hs with hs | hs
    · exact ⟨[], Or.inl rfl, by simpa using hs⟩
    · exact ⟨[0x55], Or.inr rfl, hs⟩
  obtain ⟨fuel, scanned, s₀, hf, hs₀, hp₀, -, h⟩ := scanPreamble_skip timeout context hg
    (preambleScanLimit + 1) [] hopen hs (by simpa using hlen) (by omega)
  obtain ⟨fuel, rfl⟩ : ∃ n, fuel = n + 1 := ⟨fuel - 1, by omega⟩
  have hopen₀ := hp₀.2.1.trans hopen
  rw [h]
  rcases hrest with rfl | rfl
  · obtain ⟨s₁, hr₁⟩ := readExact_dry timeout hopen₀ (n := 1) (by simp [hs₀])
    exact ⟨s₁, by simp only [scanPreamble, hr₁, andThen_error, readError_samePort timeout 1 hp₀]⟩
  · obtain ⟨s₁, hr₁, hs₁, hp₁⟩ := readExact_head timeout hopen₀ hs₀
    obtain ⟨s₂, hr₂⟩ := readExact_dry timeout (hp₁.2.1.trans hopen₀) (n := 1) (by simp [hs₁])
    refine ⟨s₂, ?_⟩
    simp only [scanPreamble, hr₁, hr₂, andThen_ok, andThen_error, if_true,
      readError_samePort timeout 1 (hp₀.trans hp₁)]

theorem scanPreamble_outcome {s : Line} (hopen : s.isOpen = true) :
    (∃ g rest s', Skippable g ∧ g.length ≤ preambleScanLimit ∧
      s.stream = g ++ 0x55 :: 0xFF :: rest ∧ s'.stream = rest ∧ s.SamePort s' ∧
      scanPreamble timeout context (preambleScanLimit + 1) [] s = (.ok ⟨⟩, s')) ∨
    ∃ e s', scanPreamble timeout context (preambleScanLimit + 1) [] s = (.error e, s') ∧
      (e.kind = .frame ∨ ∃ n, e = readError n timeout s) := by
  have hlong : ∀ g rest, Skippable g → s.stream = g ++ rest → ¬ g.length ≤ preambleScanLimit →
      ∃ e s', scanPreamble timeout context (preambleScanLimit + 1) [] s = (.error e, s') ∧
        (e.kind = .frame ∨ ∃ n, e = readError n timeout s) := by
    intro g rest hg hs hlen
    obtain ⟨scanned, s', h⟩ := scanPreamble_over timeout context hg
      (preambleScanLimit + 1) [] hopen hs (Nat.zero_le _) (by simp; omega)
    exact ⟨_, s', h, Or.inl rfl⟩
  have hdry : ∀ g, Skippable g → g.length ≤ preambleScanLimit →
      (s.stream = g ∨ s.stream = g ++ [0x55]) →
      ∃ e s', scanPreamble timeout context (preambleScanLimit + 1) [] s = (.error e, s') ∧
        (e.kind = .frame ∨ ∃ n, e = readError n timeout s) := by
    intro g hg hlen hs
    obtain ⟨s', h⟩ := scanPreamble_dry timeout context hg hlen hopen hs
    exact ⟨_, s', h, Or.inr ⟨1, rfl⟩⟩
  rcases stream_cases s.stream with ⟨g, rest, hg, hs⟩ | hg | ⟨g, hg, hs⟩
  · by_cases hlen : g.length ≤ preambleScanLimit
    · obtain ⟨s', h, hs', hp⟩ := scanPreamble_found timeout context hg hlen hopen hs
      exact Or.inl ⟨g, rest, s', hg, hlen, hs, hs', hp, h⟩
    · exact Or.inr (hlong g _ hg hs hlen)
  · by_cases hlen : s.stream.length ≤ preambleScanLimit
    · exact Or.inr (hdry _ hg hlen (Or.inl rfl))
    · exact Or.inr (hlong _ [] hg (by simp) hlen)
  · by_cases hlen : g.length ≤ preambleScanLimit
    · exact Or.inr (hdry g hg hlen (Or.inr hs))
    · exact Or.inr (hlong g _ hg hs hlen)

def bodyLength (header : Bytes) : ℕ :=
  if headerLength header = 0 then 0 else headerLength header + dcrcLen

/-- A frame that is whole by its own length field, and not too long for the client. -/
structure WholeFrame (header body : Bytes) : Prop where
  header_length : header.length = headerLen
  admitted : headerLength header ≤ maxPayloadLen
  body_length : body.length = bodyLength header

/-- The first frame the client meets in `bs`: skipped bytes, the frame, the rest. -/
structure Cut (bs g raw t : Bytes) : Prop where
  skippable : Skippable g
  budget : g.length ≤ preambleScanLimit
  whole : ∃ header body, WholeFrame header body ∧ raw = preamble ++ header ++ body
  split : bs = g ++ raw ++ t

theorem Cut.unique {bs g g' raw raw' t t' : Bytes} (h : Cut bs g raw t) (h' : Cut bs g' raw' t') :
    g = g' ∧ raw = raw' ∧ t = t' := by
  obtain ⟨hg, -, ⟨hdr, bdy, hw, rfl⟩, hs⟩ := h
  obtain ⟨hg', -, ⟨hdr', bdy', hw', rfl⟩, hs'⟩ := h'
  have hsplit : g ++ 0x55 :: 0xFF :: (hdr ++ (bdy ++ t)) =
      g' ++ 0x55 :: 0xFF :: (hdr' ++ (bdy' ++ t')) := by
    simpa [preamble] using hs.symm.trans hs'
  obtain ⟨rfl, hrest⟩ := hg.frame_start_unique hg' hsplit
  obtain ⟨rfl, hbody⟩ := List.append_inj hrest (hw.header_length.trans hw'.header_length.symm)
  obtain ⟨rfl, rfl⟩ := List.append_inj hbody (hw.body_length.trans hw'.body_length.symm)
  exact ⟨rfl, rfl, rfl⟩

theorem readFields_of_whole {s : Line} {header body t : Bytes} (hopen : s.isOpen = true)
    (hw : WholeFrame header body) (hs : s.stream = header ++ (body ++ t)) :
    ∃ s', readFields timeout context s = (.ok (preamble ++ header ++ body), s') ∧ s'.stream = t ∧
      s.SamePort s' := by
  obtain ⟨hhdr, hadm, hbody⟩ := hw
  obtain ⟨s₁, hr₁, hs₁, hp₁⟩ := readExact_ok timeout hopen (n := headerLen)
    (by rw [hs, List.length_append]; omega)
  rw [hs, List.take_left' hhdr] at hr₁
  rw [hs, List.drop_left' hhdr] at hs₁
  by_cases hz : headerLength header = 0
  · have hnil : body = [] := List.eq_nil_of_length_eq_zero (by rw [hbody, bodyLength, if_pos hz])
    subst hnil
    refine ⟨s₁, ?_, by simpa using hs₁, hp₁⟩
    simp only [readFields, hr₁, andThen_ok, hz, if_true, List.append_nil]
  · rw [bodyLength, if_neg hz] at hbody
    obtain ⟨s₂, hr₂, hs₂, hp₂⟩ := readExact_ok timeout (hp₁.2.1.trans hopen)
      (n := headerLength header + dcrcLen) (by rw [hs₁, List.length_append]; omega)
    rw [hs₁, List.take_left' hbody] at hr₂
    rw [hs₁, List.drop_left' hbody] at hs₂
    refine ⟨s₂, ?_, hs₂, hp₁.trans hp₂⟩
    simp only [readFields, hr₁, hr₂, andThen_ok, if_neg hz, if_neg (Nat.not_lt.mpr hadm)]

theorem readFields_outcome {s : Line} (hopen : s.isOpen = true) :
    (∃ header body t, WholeFrame header body ∧ s.stream = header ++ (body ++ t)) ∨
      ∃ e s', readFields timeout context s = (.error e, s') ∧
        (e.kind = .frame ∨ ∃ n, e = readError n timeout s) := by
  by_cases hshort : s.stream.length < headerLen
  · obtain ⟨s', hr⟩ := readExact_dry timeout hopen hshort
    exact Or.inr ⟨readError headerLen timeout s, s', by rw [readFields, hr, andThen_error],
      Or.inr ⟨_, rfl⟩⟩
  · obtain ⟨s₁, hr₁, hs₁, hp₁⟩ := readExact_ok timeout hopen (Nat.not_lt.mp hshort)
    generalize hheader : s.stream.take headerLen = header at hr₁
    generalize hrest : s.stream.drop headerLen = rest at hs₁
    have hlen : header.length = headerLen := by
      rw [← hheader, List.length_take]
      omega
    have hsplit : s.stream = header ++ rest := by rw [← hheader, ← hrest, List.take_append_drop]
    by_cases hz : headerLength header = 0
    · exact Or.inl ⟨header, [], rest, ⟨hlen, by omega, by rw [bodyLength, if_pos hz]; rfl⟩, hsplit⟩
    · by_cases hadm : maxPayloadLen < headerLength header
      · refine Or.inr ⟨payloadTooLong context header, s₁, ?_, Or.inl rfl⟩
        simp only [readFields, hr₁, andThen_ok, if_neg hz, if_pos hadm]
      · by_cases hbody : rest.length < headerLength header + dcrcLen
        · obtain ⟨s₂, hr₂⟩ := readExact_dry timeout (hp₁.2.1.trans hopen)
            (n := headerLength header + dcrcLen) (by rwa [hs₁])
          refine Or.inr ⟨readError (headerLength header + dcrcLen) timeout s₁, s₂, ?_,
            Or.inr ⟨_, readError_samePort timeout _ hp₁⟩⟩
          simp only [readFields, hr₁, andThen_ok, if_neg hz, if_neg hadm, hr₂, andThen_error]
        · refine Or.inl ⟨header, rest.take (headerLength header + dcrcLen),
            rest.drop (headerLength header + dcrcLen), ⟨hlen, Nat.not_lt.mp hadm, ?_⟩, ?_⟩
          · rw [bodyLength, if_neg hz, List.length_take]
            omega
          · rw [List.take_append_drop, hsplit]

theorem readFrame_of_cut {s : Line} {g raw t : Bytes} (hopen : s.isOpen = true)
    (h : Cut s.stream g raw t) :
    ∃ s', readFrame timeout context s = (.ok raw, s') ∧ s'.stream = t ∧ s.SamePort s' := by
  obtain ⟨hg, hlen, ⟨header, body, hw, rfl⟩, hs⟩ := h
  obtain ⟨s₁, hscan, hs₁, hp₁⟩ := scanPreamble_found timeout context hg hlen hopen
    (show s.stream = g ++ 0x55 :: 0xFF :: (header ++ (body ++ t)) by simpa [preamble] using hs)
  obtain ⟨s₂, hr, hs₂, hp₂⟩ := readFields_of_whole timeout context (hp₁.2.1.trans hopen) hw hs₁
  exact ⟨s₂, by rw [readFrame, hscan, andThen_ok, hr], hs₂, hp₁.trans hp₂⟩

theorem readFrame_outcome {s : Line} (hopen : s.isOpen = true) :
    (∃ g raw t, Cut s.stream g raw t) ∨
      ∃ e s', readFrame timeout context s = (.error e, s') ∧
        (e.kind = .frame ∨ ∃ n, e = readError n timeout s) := by
  rcases scanPreamble_outcome timeout context hopen with
    ⟨g, rest, s₁, hg, hlen, hs, hs₁, hp₁, hscan⟩ | ⟨e, s', h, he⟩
  · rcases readFields_outcome timeout context (hp₁.2.1.trans hopen) with
      ⟨header, body, t, hw, hsplit⟩ | ⟨e, s', h, he⟩
    · refine Or.inl ⟨g, _, t, hg, hlen, ⟨header, body, hw, rfl⟩, ?_⟩
      rw [hs, ← hs₁, hsplit]
      simp [preamble]
    · refine Or.inr ⟨e, s', by rw [readFrame, hscan, andThen_ok, h], ?_⟩
      rcases he with he | ⟨n, rfl⟩
      · exact Or.inl he
      · exact Or.inr ⟨n, readError_samePort timeout n hp₁⟩
  · exact Or.inr ⟨e, s', by rw [readFrame, h, andThen_error], he⟩

/-- The reader returns `raw` and leaves `t` exactly when `raw` is the first frame in reach. -/
theorem readFrame_ok_iff {s : Line} {raw t : Bytes} (hopen : s.isOpen = true) :
    (∃ s', readFrame timeout context s = (.ok raw, s') ∧ s'.stream = t) ↔
      ∃ g, Cut s.stream g raw t := by
  constructor
  · rintro ⟨s', hr, hs'⟩
    rcases readFrame_outcome timeout context hopen with
      ⟨g, raw', t', hc⟩ | ⟨e, s'', he, -⟩
    · obtain ⟨s'', hr', hs'', -⟩ := readFrame_of_cut timeout context hopen hc
      cases hr.symm.trans hr'
      exact ⟨g, hs' ▸ hs'' ▸ hc⟩
    · cases hr.symm.trans he
  · rintro ⟨g, hc⟩
    obtain ⟨s', hr, hs', -⟩ := readFrame_of_cut timeout context hopen hc
    exact ⟨s', hr, hs'⟩

theorem wholeFrame_wireBytes {f : Frame} (hf : f.payload.length ≤ maxPayloadLen) :
    WholeFrame (header f) (body f.payload) := by
  have hmax : f.payload.length ≤ maxLength := hf.trans (by decide)
  have hlen : headerLength (header f) = f.payload.length := lengthField_split hmax
  refine ⟨header_length f, hlen.symm ▸ hf, ?_⟩
  rw [bodyLength, hlen, StdBusFraming.body_length]
  rfl

/-- The first occurrence of a preamble in `g ++ w` is not inside `g`. -/
def FirstPreamble (g w : Bytes) : Prop := ∀ k < g.length, ¬ preamble <+: (g ++ w).drop k

instance (g w : Bytes) : Decidable (FirstPreamble g w) :=
  inferInstanceAs (Decidable (∀ k < g.length, ¬ preamble <+: (g ++ w).drop k))

def trailingRun (g : Bytes) : Bytes := g.rtakeWhile (· == 0x55)

theorem Skippable.of_append {p q : Bytes} (hp : Skippable p) (h : Skippable (p ++ q)) :
    Skippable q := by
  induction hp with
  | nil => exact h
  | @single b g hb _ ih =>
    rw [List.cons_append] at h
    generalize g ++ q = r at h ih
    cases h with
    | single _ h => exact ih h
    | pair _ _ => exact absurd rfl hb
  | @pair b g hb _ ih =>
    rw [List.cons_append, List.cons_append] at h
    generalize g ++ q = r at h ih
    cases h with
    | single hb' _ => exact absurd rfl hb'
    | pair _ h => exact ih h

theorem Skippable.no_preamble {g rest : Bytes} (hg : Skippable g)
    (h : Skippable (g ++ 0x55 :: 0xFF :: rest)) : False := by
  cases hg.of_append h with
  | single hb _ => exact hb rfl
  | pair hb _ => exact hb rfl

theorem skippable_run_iff (g : Bytes) (hg : ∀ b ∈ g, b = 0x55) : Skippable g ↔ Even g.length := by
  match g with
  | [] => exact ⟨fun _ => ⟨0, rfl⟩, fun _ => .nil⟩
  | [b] =>
    obtain rfl : b = 0x55 := hg b (by simp)
    refine ⟨fun h => ?_, fun h => absurd h (by decide)⟩
    cases h with
    | single hb _ => exact absurd rfl hb
  | b :: c :: g =>
    obtain rfl : b = 0x55 := hg b (by simp)
    obtain rfl : c = 0x55 := hg c (by simp)
    have hpair : Skippable [0x55, 0x55] := .pair (by decide) .nil
    have ih := skippable_run_iff g fun b hb => hg b (by simp [hb])
    have hlen : Even (g.length + 1 + 1) ↔ Even g.length := by
      rw [Nat.even_add_one, Nat.even_add_one, not_not]
    rw [List.length_cons, List.length_cons, hlen, ← ih]
    exact ⟨fun h => hpair.of_append h, fun h => hpair.append h⟩

theorem skippable_of_last {p w : Bytes} (hfirst : ∀ k < p.length, ¬ preamble <+: (p ++ w).drop k)
    (hlast : ∀ h : p ≠ [], p.getLast h ≠ 0x55) : Skippable p := by
  rcases stream_cases p with ⟨g, rest, -, rfl⟩ | hp | ⟨g, -, rfl⟩
  · refine absurd ⟨rest ++ w, ?_⟩ (hfirst g.length (by simp))
    simp [preamble]
  · exact hp
  · exact absurd (by simp) (hlast (by simp))

/-- What decides whether garbage is passed over: how many `55` it ends in. -/
theorem skippable_iff_even_run {g w : Bytes} (hfirst : FirstPreamble g w) :
    Skippable g ↔ Even (trailingRun g).length := by
  have hsplit : g.rdropWhile (· == 0x55) ++ trailingRun g = g :=
    List.rdropWhile_append_rtakeWhile
  generalize hp : g.rdropWhile (· == 0x55) = p at hsplit
  have hlast : ∀ h : p ≠ [], p.getLast h ≠ 0x55 := by
    subst hp
    intro h
    simpa using List.rdropWhile_last_not (· == 0x55) g h
  have hskip : Skippable p := by
    refine skippable_of_last (w := trailingRun g ++ w) ?_ hlast
    intro k hk
    have hle : p.length ≤ g.length := by
      rw [← hsplit, List.length_append]
      omega
    rw [← List.append_assoc, hsplit]
    exact hfirst k (by omega)
  have hrun := skippable_run_iff (trailingRun g) fun b hb => by
    simpa using List.mem_rtakeWhile_imp hb
  rw [← hrun]
  constructor
  · intro h
    rw [← hsplit] at h
    exact hskip.of_append h
  · intro h
    rw [← hsplit]
    exact hskip.append h

/-- A frame behind garbage is returned whole, with exactly the tail left unread, if and only if
the garbage ends in an even number of `55`: the second byte of a failed match is never looked at
again as the first byte of a new one. -/
theorem readFrame_resync_iff {g t w : Bytes} {f : Frame} {s : Line} (hopen : s.isOpen = true)
    (hw : encodeFrame f = .ok w) (hlen : g.length ≤ preambleScanLimit)
    (hfirst : FirstPreamble g w) (hf : f.payload.length ≤ maxPayloadLen)
    (hs : s.stream = g ++ w ++ t) :
    (∃ s', readFrame timeout context s = (.ok w, s') ∧ s'.stream = t) ↔
      Even (trailingRun g).length := by
  have hwire : w = preamble ++ header f ++ body f.payload := by
    unfold encodeFrame raise at hw
    split at hw
    · cases hw
    · exact (Except.ok.inj hw).symm
  rw [readFrame_ok_iff timeout context hopen, ← skippable_iff_even_run hfirst, hs]
  constructor
  · rintro ⟨g', hg', -, -, hsplit⟩
    rw [List.append_cancel_right (List.append_cancel_right hsplit)]
    exact hg'
  · intro hg
    exact ⟨g, hg, hlen, ⟨header f, body f.payload, wholeFrame_wireBytes hf, hwire⟩, rfl⟩

def refusal : Frame := ⟨dataNotExpectingReply, hostMac, 0x10, [0x02, 0x83]⟩

def lineOf (chunks : List Bytes) : Line := ⟨"COM3", true, [], chunks, .ownDeadline⟩

theorem readFrame_resync_even :
    ∃ s', readFrame ioTimeout {} (lineOf [[0x41, 0x55], [0x55, 0x55], (wireBytes refusal).tail]) =
      (.ok (wireBytes refusal), s') ∧ s'.stream = [] :=
  (readFrame_resync_iff _ _ (g := [0x41, 0x55, 0x55]) (f := refusal) rfl rfl (by decide)
    (by decide +kernel) (by decide) rfl).mpr (by decide)

theorem readFrame_resync_fails :
    ¬ ∀ (g t w : Bytes) (f : Frame) (s : Line), s.isOpen = true → encodeFrame f = .ok w →
      g.length ≤ preambleScanLimit → FirstPreamble g w → f.payload.length ≤ maxPayloadLen →
      s.stream = g ++ w ++ t →
      ∃ s', readFrame ioTimeout {} s = (.ok w, s') ∧ s'.stream = t := by
  intro h
  obtain ⟨s', hr, -⟩ := h [0x55] [] (wireBytes refusal) refusal (lineOf [0x55 :: wireBytes refusal])
    rfl rfl (by decide) (by decide +kernel) (by decide) rfl
  have hlost : (readFrame ioTimeout {} (lineOf [0x55 :: wireBytes refusal])).1 ≠
      .ok (wireBytes refusal) := by decide +kernel
  exact hlost (by rw [hr])

end StdBusResync
