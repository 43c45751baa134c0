import Watlowlib.FakeTransports
import Watlowlib.HexDumps

/-! # Arrow fixtures

The text form of a capture: a line for each request, lines for its reply below it. What the loader
accepts, and that a session whose capture is written down replays from the file. -/
namespace ArrowFixtures

open ClientDialogues Dialogues Dictionaries ExceptRules FakeTransports HexDumps PythonTexts
  PythonValues StdBusClient StdBusFraming WatlowErrors

def lstrip (line : Text) : Text := line.dropWhile isSpace

/-- `raw.rstrip("\r\n")` -/
def rstripLineEnd (line : Text) : Text :=
  (line.reverse.dropWhile fun c => c == '\r' || c == '\n').reverse

def isSemantic (line : Text) : Bool :=
  match lstrip line with
  | [] => false
  | c :: _ => c != '#'

def semanticLines (lines : List Text) : List (ℕ × Text) :=
  ((lines.zipIdx 1).map fun l => (l.2, rstripLineEnd l.1)).filter fun l => isSemantic l.2

section Loader

-- `complaint` is what `bytes.fromhex` says of a text that it refuses.
variable (complaint : Text → String) (source : String)

def cleaned (body : Text) : Text := body.filter fun c => !(c == ' ' || c == '\t')

def hexPayload (lineNo : ℕ) (marker : String) (body : Text) : Result Bytes :=
  if cleaned body = [] then
    raise .valueError [.text source, .text ":", .int lineNo,
      .text ": empty hex payload after ", .strRepr marker]
  else
    match fromHex (cleaned body) with
    | some payload => .ok payload
    | none =>
      raise .valueError [.text source, .text ":", .int lineNo,
        .text ": invalid hex bytes after ", .strRepr marker, .text ": ",
        .text (complaint (cleaned body))]

structure Loading where
  script : Dict Bytes Bytes
  currentSend : Option Bytes
  currentReplyChunks : List Bytes

def Loading.start : Loading := ⟨∅, none, []⟩

def flush (s : Loading) : Result Loading :=
  match s.currentSend with
  | none => .ok s
  | some send =>
    if (s.script.lookup send).isSome then
      raise .valueError [.text source, .text ": duplicate send entry ", .bytesRepr send]
    else .ok ⟨s.script.insert send s.currentReplyChunks.flatten, none, []⟩

def readLine (lineNo : ℕ) (line : Text) (s : Loading) : Result Loading :=
  match lstrip line with
  | '>' :: body => do
    let s ← flush source s
    let payload ← hexPayload complaint source lineNo ">" body
    .ok { s with currentSend := some payload }
  | '<' :: body =>
    if s.currentSend = none then
      raise .valueError [.text source, .text ":", .int lineNo,
        .text ": '<' line without preceding '>'"]
    else do
      let chunk ← hexPayload complaint source lineNo "<" body
      .ok { s with currentReplyChunks := s.currentReplyChunks ++ [chunk] }
  | _ =>
    raise .valueError [.text source, .text ":", .int lineNo, .text ": unrecognized line ",
      .strRepr (String.ofList line), .text "; lines must start with '>', '<', or '#'"]

def readLines : List (ℕ × Text) → Loading → Result Loading
  | [], s => .ok s
  | (lineNo, line) :: lines, s => do
    let s ← readLine complaint source lineNo line s
    readLines lines s

def parseArrowFixture (text : Text) : Result (Dict Bytes Bytes) := do
  let s ← readLines complaint source (semanticLines (splitLines text)) .start
  let s ← flush source s
  .ok s.script

end Loader

/-! ## The grammar -/

/-- A line that carries bytes behind a marker, two digits for each and blanks anywhere. -/
structure Carries (marker : Char) (payload : Bytes) (line : Text) : Prop where
  nonempty : payload ≠ []
  line : ∃ body, lstrip line = marker :: body ∧ HexPairs (cleaned body) payload

/-- A line names a request, or adds to the reply of the last one. -/
inductive Adds (line : Text) :
    List (Bytes × List Bytes) → List (Bytes × List Bytes) → Prop where
  | send {rounds payload} (hline : Carries '>' payload line) :
      Adds line rounds (rounds ++ [(payload, [])])
  | reply {done payload chunks chunk} (hline : Carries '<' chunk line) :
      Adds line (done ++ [(payload, chunks)]) (done ++ [(payload, chunks ++ [chunk])])

inductive Written : List Text → List (Bytes × List Bytes) → Prop where
  | nil : Written [] []
  | line {lines line rounds rounds'} (h : Written lines rounds) (hline : Adds line rounds rounds') :
      Written (lines ++ [line]) rounds'

def said (text : Text) : List Text := (semanticLines (splitLines text)).map Prod.snd

def joined (round : Bytes × List Bytes) : Bytes × Bytes := (round.1, round.2.flatten)

/-! ## The loader reads the grammar -/

variable {complaint : Text → String} {source : String} {rounds : List (Bytes × List Bytes)}
  {s t : Loading} {line : Text} {n : ℕ}

/-- The loader behind the lines of some rounds; the last round is not flushed yet. -/
def loaded (rounds : List (Bytes × List Bytes)) : Loading :=
  match rounds.getLast? with
  | none => .start
  | some round => ⟨ofList (rounds.dropLast.map joined), some round.1, round.2⟩

@[simp] theorem loaded_snoc (done : List (Bytes × List Bytes)) (payload : Bytes)
    (chunks : List Bytes) :
    loaded (done ++ [(payload, chunks)]) = ⟨ofList (done.map joined), some payload, chunks⟩ := by
  simp [loaded]

def Apart (rounds : List (Bytes × List Bytes)) : Prop := (rounds.map Prod.fst).Nodup

theorem apart_snoc {done : List (Bytes × List Bytes)} {round : Bytes × List Bytes} :
    Apart (done ++ [round]) ↔ Apart done ∧ round.1 ∉ done.map Prod.fst := by
  rw [Apart, List.map_append, List.map_singleton, List.nodup_append]
  simp only [List.nodup_singleton, List.mem_singleton, true_and]
  exact and_congr_right fun _ => ⟨fun h hmem => h _ hmem _ rfl rfl,
    fun h a ha b hb hab => h (hb ▸ hab ▸ ha)⟩

theorem ofList_snoc (entries : List (Bytes × Bytes)) (k v : Bytes) :
    ofList (entries ++ [(k, v)]) = (ofList entries).insert k v := by
  simp [ofList]

theorem lookup_joined (k : Bytes) (done : List (Bytes × List Bytes)) :
    ((ofList (done.map joined)).lookup k).isSome = true ↔ k ∈ done.map Prod.fst := by
  have hkeys : (done.map joined).map Prod.fst = done.map Prod.fst := by simp [joined]
  constructor
  · intro h
    by_contra hk
    rw [lookup_ofList_of_notMem (by rw [hkeys]; exact hk)] at h
    cases h
  · intro h
    induction done using List.reverseRecOn with
    | nil => cases h
    | append_singleton done round ih =>
      rw [List.map_append, List.map_singleton, joined, ofList_snoc, lookup_insert_eq]
      split
      · rfl
      · rename_i hk
        rw [List.map_append, List.mem_append] at h
        have hkeys' : (done.map joined).map Prod.fst = done.map Prod.fst := by simp [joined]
        exact ih hkeys' (h.resolve_right (by simpa using hk))

theorem flush_ok_iff (hdone : Apart rounds.dropLast) :
    flush source (loaded rounds) = .ok t ↔
      Apart rounds ∧ t = ⟨ofList (rounds.map joined), none, []⟩ := by
  rcases List.eq_nil_or_concat rounds with rfl | ⟨done, ⟨payload, chunks⟩, rfl⟩
  · constructor
    · intro h
      cases h
      exact ⟨List.nodup_nil, rfl⟩
    · rintro ⟨-, rfl⟩
      rfl
  · rw [List.concat_eq_append] at hdone ⊢
    rw [List.dropLast_concat] at hdone
    rw [loaded_snoc, apart_snoc, List.map_append, List.map_singleton, joined, ofList_snoc]
    simp only [flush, lookup_joined]
    by_cases hold : payload ∈ done.map Prod.fst
    · simp [hold, raise]
    · simp [hold, hdone, eq_comm]

theorem cleaned_plain {body : Text} {c : Char} (h : Unbroken line)
    (hbody : lstrip line = c :: body) : ∀ d ∈ cleaned body, isAsciiSpace d = false := by
  intro d hd
  obtain ⟨hmem, hblank⟩ := List.mem_filter.mp hd
  have hline : d ∈ line := by
    refine (List.dropWhile_sublist isSpace).mem ?_
    rw [show line.dropWhile isSpace = c :: body from hbody]
    exact List.mem_cons_of_mem _ hmem
  have hbreak := h d hline
  simp only [isLineBreak, List.contains_eq_mem, List.mem_cons, List.not_mem_nil, or_false,
    decide_eq_false_iff_not, not_or] at hbreak
  simp only [Bool.not_eq_true', Bool.or_eq_false_iff, beq_eq_false_iff_ne] at hblank
  have htab : d.toNat ≠ 0x09 := fun htab => hblank.2 (Char.toNat_inj.mp htab)
  simp only [isAsciiSpace, Bool.or_eq_false_iff, decide_eq_false_iff_not, beq_eq_false_iff_ne]
  exact ⟨by omega, hblank.1⟩

theorem hexPayload_ok_iff {marker : String} {c : Char} {body : Text} {payload : Bytes}
    (h : Unbroken line) (hbody : lstrip line = c :: body) :
    hexPayload complaint source n marker body = .ok payload ↔ Carries c payload line := by
  have hread := fun bs => @fromHex_iff (cleaned body) (cleaned_plain h hbody) bs
  have hcarries : Carries c payload line ↔ payload ≠ [] ∧ HexPairs (cleaned body) payload := by
    constructor
    · rintro ⟨hne, body', hline, hpairs⟩
      obtain ⟨-, rfl⟩ := List.cons.inj (hbody.symm.trans hline)
      exact ⟨hne, hpairs⟩
    · exact fun h => ⟨h.1, body, hbody, h.2⟩
  rw [hcarries, hexPayload]
  by_cases hempty : cleaned body = []
  · rw [if_pos hempty, hempty]
    exact iff_of_false (by simp [raise]) fun h => h.1 (h.2.eq_nil_iff.mp rfl)
  · rw [if_neg hempty, ← hread]
    cases hhex : fromHex (cleaned body) with
    | none => simp [raise]
    | some bs =>
      have hne : bs ≠ [] := fun hnil => hempty (((hread bs).mp hhex).eq_nil_iff.mpr hnil)
      simp only [Except.ok.injEq, Option.some.injEq]
      constructor
      · rintro rfl
        exact ⟨hne, rfl⟩
      · exact fun h => h.2

theorem readLine_send {body : Text} (hdone : Apart rounds.dropLast) (hline : Unbroken line)
    (hbody : lstrip line = '>' :: body) :
    readLine complaint source n line (loaded rounds) = .ok t ↔
      ∃ payload, Apart rounds ∧ Carries '>' payload line ∧
        t = ⟨ofList (rounds.map joined), some payload, []⟩ := by
  simp only [readLine, hbody]
  rw [bind_ok_iff]
  constructor
  · rintro ⟨s', hflush, hrest⟩
    obtain ⟨hapart, rfl⟩ := (flush_ok_iff hdone).mp hflush
    obtain ⟨payload, hpayload, ht⟩ := bind_ok_iff.mp hrest
    cases ht
    exact ⟨payload, hapart, (hexPayload_ok_iff hline hbody).mp hpayload, rfl⟩
  · rintro ⟨payload, hapart, hcarries, rfl⟩
    refine ⟨_, (flush_ok_iff hdone).mpr ⟨hapart, rfl⟩, bind_ok_iff.mpr ⟨payload, ?_, rfl⟩⟩
    exact (hexPayload_ok_iff hline hbody).mpr hcarries

theorem readLine_reply {body : Text} (hline : Unbroken line)
    (hbody : lstrip line = '<' :: body) :
    readLine complaint source n line s = .ok t ↔
      s.currentSend ≠ none ∧ ∃ chunk, Carries '<' chunk line ∧
        t = { s with currentReplyChunks := s.currentReplyChunks ++ [chunk] } := by
  simp only [readLine, hbody]
  by_cases hnone : s.currentSend = none
  · rw [if_pos hnone]
    exact iff_of_false (by simp [raise]) fun h => h.1 hnone
  · rw [if_neg hnone, bind_ok_iff]
    constructor
    · rintro ⟨chunk, hchunk, ht⟩
      cases ht
      exact ⟨hnone, chunk, (hexPayload_ok_iff hline hbody).mp hchunk, rfl⟩
    · rintro ⟨-, chunk, hcarries, rfl⟩
      exact ⟨chunk, (hexPayload_ok_iff hline hbody).mpr hcarries, rfl⟩

theorem readLine_ok_iff (hdone : Apart rounds.dropLast) (hline : Unbroken line) :
    readLine complaint source n line (loaded rounds) = .ok t ↔
      ∃ rounds', Adds line rounds rounds' ∧ Apart rounds'.dropLast ∧ t = loaded rounds' := by
  constructor
  · intro hread
    cases hbody : lstrip line with
    | nil => simp [readLine, hbody, raise] at hread
    | cons c body =>
      by_cases hsend : c = '>'
      · subst hsend
        obtain ⟨payload, hapart, hcarries, rfl⟩ := (readLine_send hdone hline hbody).mp hread
        refine ⟨rounds ++ [(payload, [])], .send hcarries, ?_, by rw [loaded_snoc]⟩
        rwa [List.dropLast_concat]
      · by_cases hreply : c = '<'
        · subst hreply
          obtain ⟨hsome, chunk, hcarries, rfl⟩ := (readLine_reply hline hbody).mp hread
          rcases List.eq_nil_or_concat rounds with rfl | ⟨done, ⟨payload, chunks⟩, rfl⟩
          · exact absurd rfl hsome
          · rw [List.concat_eq_append] at hdone ⊢
            refine ⟨_, .reply hcarries, ?_, by rw [loaded_snoc, loaded_snoc]⟩
            rwa [List.dropLast_concat] at hdone ⊢
        · simp [readLine, hbody, hsend, hreply, raise] at hread
  · rintro ⟨rounds', hadds, hapart, rfl⟩
    cases hadds with
    | send hcarries =>
      obtain ⟨body, hbody, -⟩ := hcarries.line
      rw [List.dropLast_concat] at hapart
      exact (readLine_send hdone hline hbody).mpr ⟨_, hapart, hcarries, by rw [loaded_snoc]⟩
    | reply hcarries =>
      obtain ⟨body, hbody, -⟩ := hcarries.line
      refine (readLine_reply hline hbody).mpr ⟨?_, _, hcarries, by rw [loaded_snoc, loaded_snoc]⟩
      rw [loaded_snoc]
      exact Option.some_ne_none _

theorem readLines_append (a b : List (ℕ × Text)) (s : Loading) :
    readLines complaint source (a ++ b) s =
      readLines complaint source a s >>= readLines complaint source b := by
  induction a generalizing s with
  | nil => rfl
  | cons l a ih =>
    obtain ⟨n, line⟩ := l
    simp only [List.cons_append, readLines]
    cases readLine complaint source n line s with
    | error e => rfl
    | ok t => exact ih t

theorem Written.first {lines : List Text} (h : Written lines rounds) (hlines : lines = []) :
    rounds = [] := by
  cases h with
  | nil => rfl
  | line h hadds => simp at hlines

theorem Written.last {lines lines' : List Text} {rounds' : List (Bytes × List Bytes)}
    (h : Written lines' rounds') (hlines : lines' = lines ++ [line]) :
    ∃ rounds, Written lines rounds ∧ Adds line rounds rounds' := by
  cases h with
  | nil => simp at hlines
  | line h hadds =>
    obtain ⟨rfl, hlast⟩ := List.append_inj' hlines rfl
    cases hlast
    exact ⟨_, h, hadds⟩

theorem Adds.apart {rounds' : List (Bytes × List Bytes)} (h : Adds line rounds rounds')
    (hapart : Apart rounds'.dropLast) : Apart rounds.dropLast := by
  cases h with
  | send hline =>
    rw [List.dropLast_concat] at hapart
    exact hapart.sublist ((List.dropLast_sublist rounds).map Prod.fst)
  | reply hline => rwa [List.dropLast_concat] at hapart ⊢

theorem readLines_ok_iff (lines : List (ℕ × Text)) (h : ∀ l ∈ lines, Unbroken l.2) :
    readLines complaint source lines .start = .ok t ↔
      ∃ rounds, Written (lines.map Prod.snd) rounds ∧ Apart rounds.dropLast ∧
        t = loaded rounds := by
  induction lines using List.reverseRecOn generalizing t with
  | nil =>
    constructor
    · intro ht
      cases ht
      exact ⟨[], .nil, List.nodup_nil, rfl⟩
    · rintro ⟨rounds, hwritten, -, rfl⟩
      rw [hwritten.first rfl]
      rfl
  | append_singleton lines l ih =>
    obtain ⟨n, line⟩ := l
    have hlines : ∀ l ∈ lines, Unbroken l.2 := fun l hl => h l (List.mem_append_left _ hl)
    have hline : Unbroken line := h (n, line) (by simp)
    have hone : ∀ s, readLines complaint source [(n, line)] s =
        readLine complaint source n line s := by
      intro s
      simp only [readLines]
      cases readLine complaint source n line s with
      | error e => rfl
      | ok t => rfl
    rw [readLines_append, bind_ok_iff, List.map_append, List.map_singleton]
    simp only [hone]
    constructor
    · rintro ⟨s, hs, ht⟩
      obtain ⟨rounds, hwritten, hdone, rfl⟩ := (ih hlines).mp hs
      obtain ⟨rounds', hadds, hapart, rfl⟩ := (readLine_ok_iff hdone hline).mp ht
      exact ⟨rounds', .line hwritten hadds, hapart, rfl⟩
    · rintro ⟨rounds', hwritten, hapart, rfl⟩
      obtain ⟨rounds, hwritten, hadds⟩ := hwritten.last rfl
      have hdone := hadds.apart hapart
      exact ⟨loaded rounds, (ih hlines).mpr ⟨rounds, hwritten, hdone, rfl⟩,
        (readLine_ok_iff hdone hline).mpr ⟨rounds', hadds, hapart, rfl⟩⟩

theorem semanticLines_unbroken (text : Text) :
    ∀ l ∈ semanticLines (splitLines text), Unbroken l.2 := by
  intro l hl
  obtain ⟨l', hl', rfl⟩ := List.mem_map.mp (List.mem_filter.mp hl).1
  have hmem : l'.1 ∈ splitLines text := by
    have hfst := List.mem_map_of_mem (f := Prod.fst) hl'
    rwa [List.zipIdx_map_fst] at hfst
  intro c hc
  refine splitLines_unbroken text _ hmem c ?_
  have hsub := (List.dropWhile_sublist (fun c => c == '\r' || c == '\n') (l := l'.1.reverse)).mem
    (List.mem_reverse.mp hc)
  exact List.mem_reverse.mp hsub

theorem parse_of_written {text : Text} (hwritten : Written (said text) rounds)
    (hapart : Apart rounds) :
    parseArrowFixture complaint source text = .ok (ofList (rounds.map joined)) := by
  have hdone : Apart rounds.dropLast :=
    hapart.sublist ((List.dropLast_sublist rounds).map Prod.fst)
  have hread : readLines complaint source (semanticLines (splitLines text)) .start =
      .ok (loaded rounds) :=
    (readLines_ok_iff _ (semanticLines_unbroken text)).mpr ⟨rounds, hwritten, hdone, rfl⟩
  exact bind_ok_iff.mpr
    ⟨_, hread, bind_ok_iff.mpr ⟨_, (flush_ok_iff hdone).mpr ⟨hapart, rfl⟩, rfl⟩⟩

/-- The loader takes exactly the texts of the grammar in which no request stands twice, and what it
returns maps each request to its reply lines joined. -/
theorem parseArrowFixture_ok_iff (complaint : Text → String) (source : String) (text : Text)
    (script : Dict Bytes Bytes) :
    parseArrowFixture complaint source text = .ok script ↔
      ∃ rounds, Written (said text) rounds ∧ (rounds.map Prod.fst).Nodup ∧
        script = ofList (rounds.map joined) := by
  have hlines := fun t => @readLines_ok_iff complaint source t (semanticLines (splitLines text))
    (semanticLines_unbroken text)
  constructor
  · intro h
    obtain ⟨s, hs, hrest⟩ := bind_ok_iff.mp h
    obtain ⟨rounds, hwritten, hdone, rfl⟩ := (hlines _).mp hs
    obtain ⟨s', hflush, hscript⟩ := bind_ok_iff.mp hrest
    obtain ⟨hapart, rfl⟩ := (flush_ok_iff hdone).mp hflush
    cases hscript
    exact ⟨rounds, hwritten, hapart, rfl⟩
  · rintro ⟨rounds, hwritten, hapart, rfl⟩
    exact parse_of_written hwritten hapart

/-- A reply over two lines, with a comment between. -/
example : (parseArrowFixture (fun _ => "") "multi.txt"
      "> 01 02\n< AA bb\n# the rest\n\n< CC DD\n".toList).toOption.bind
      (fun script => script.lookup [0x01, 0x02]) = some [0xAA, 0xBB, 0xCC, 0xDD] := by
  decide +kernel

/-! ## A capture as a fixture -/

/-- The lines of one entry; an empty reply has none. -/
def entryLines (entry : Bytes × Bytes) : List Text :=
  ('>' :: dump entry.1) :: if entry.2 = [] then [] else ['<' :: dump entry.2]

def arrowLines (entries : List (Bytes × Bytes)) : List Text := entries.flatMap entryLines

def arrowText (entries : List (Bytes × Bytes)) : Text :=
  (arrowLines entries).flatMap fun line => line ++ ['\n']

def roundOf (entry : Bytes × Bytes) : Bytes × List Bytes :=
  (entry.1, if entry.2 = [] then [] else [entry.2])

def IsDump (line : Text) : Prop := ∃ bs, line = '>' :: dump bs ∨ line = '<' :: dump bs

theorem isDump_arrowLines {entries : List (Bytes × Bytes)} :
    ∀ line ∈ arrowLines entries, IsDump line := by
  intro line hline
  obtain ⟨entry, -, hline⟩ := List.mem_flatMap.mp hline
  rcases List.mem_cons.mp hline with rfl | hline
  · exact ⟨entry.1, Or.inl rfl⟩
  · split at hline
    · cases hline
    · exact ⟨entry.2, Or.inr (List.mem_singleton.mp hline)⟩

theorem IsDump.unbroken (h : IsDump line) : Unbroken line := by
  obtain ⟨bs, rfl | rfl⟩ := h
  · exact List.forall_mem_cons.mpr ⟨by decide, dump_unbroken bs⟩
  · exact List.forall_mem_cons.mpr ⟨by decide, dump_unbroken bs⟩

theorem rstrip_of_unbroken (h : Unbroken line) : rstripLineEnd line = line := by
  rcases List.eq_nil_or_concat line with rfl | ⟨front, c, rfl⟩
  · rfl
  · have hc := h c (by simp)
    have hreturn : c ≠ '\r' := by
      rintro rfl
      exact absurd hc (by decide)
    have hfeed : c ≠ '\n' := by
      rintro rfl
      exact absurd hc (by decide)
    simp [rstripLineEnd, List.concat_eq_append, hreturn, hfeed]

theorem lstrip_marker {c : Char} {body : Text} (hc : isSpace c = false) :
    lstrip (c :: body) = c :: body := by
  rw [lstrip, List.dropWhile_cons_of_neg (by simp [hc])]

theorem IsDump.semantic (h : IsDump line) : isSemantic line = true := by
  obtain ⟨bs, rfl | rfl⟩ := h
  · rw [isSemantic, lstrip_marker (by decide)]
    rfl
  · rw [isSemantic, lstrip_marker (by decide)]
    rfl

theorem said_arrowText (entries : List (Bytes × Bytes)) :
    said (arrowText entries) = arrowLines entries := by
  have hdumps := @isDump_arrowLines entries
  have hsame : ∀ l ∈ (arrowLines entries).zipIdx 1, rstripLineEnd l.1 = l.1 := by
    intro l hl
    have hmem := List.mem_map_of_mem (f := Prod.fst) hl
    rw [List.zipIdx_map_fst] at hmem
    exact rstrip_of_unbroken (hdumps _ hmem).unbroken
  have hkept : ∀ l ∈ ((arrowLines entries).zipIdx 1).map fun l => (l.2, rstripLineEnd l.1),
      isSemantic l.2 = true := by
    intro l hl
    obtain ⟨l', hl', rfl⟩ := List.mem_map.mp hl
    have hmem := List.mem_map_of_mem (f := Prod.fst) hl'
    rw [List.zipIdx_map_fst] at hmem
    simp only [hsame l' hl']
    exact (hdumps _ hmem).semantic
  have hlines : splitLines (arrowText entries) = arrowLines entries :=
    splitLines_joined fun l hl => (hdumps l hl).unbroken
  rw [said, hlines, semanticLines, List.filter_eq_self.mpr hkept, List.map_map]
  exact (List.map_congr_left hsame).trans (List.zipIdx_map_fst 1 _)

theorem cleaned_dump (bs : Bytes) : cleaned (dump bs) = bs.flatMap byteText := by
  have hdigit : ∀ n < 16, digit n ≠ ' ' ∧ digit n ≠ '\t' := by decide
  have hbyte : ∀ b : UInt8, cleaned (byteText b) = byteText b := by
    intro b
    have hb : b.toNat < 256 := b.toNat_lt
    have hhigh := hdigit (b.toNat / 16) (by omega)
    have hlow := hdigit (b.toNat % 16) (by omega)
    simp [cleaned, byteText, hhigh, hlow]
  rw [cleaned, dump, List.filter_flatMap]
  congr 1
  funext b
  exact (List.filter_cons_of_neg (by simp)).trans (hbyte b)

theorem carries_dump {c : Char} (hc : isSpace c = false) {bs : Bytes} (hne : bs ≠ []) :
    Carries c bs (c :: dump bs) := by
  refine ⟨hne, dump bs, lstrip_marker hc, ?_⟩
  rw [cleaned_dump]
  exact hexPairs_bytes bs

theorem written_arrowLines {entries : List (Bytes × Bytes)} (h : ∀ e ∈ entries, e.1 ≠ []) :
    Written (arrowLines entries) (entries.map roundOf) := by
  induction entries using List.reverseRecOn with
  | nil => exact .nil
  | append_singleton entries entry ih =>
    have hold := ih fun e he => h e (List.mem_append_left _ he)
    have hsend : Carries '>' entry.1 ('>' :: dump entry.1) :=
      carries_dump (by decide) (h entry (by simp))
    have hrequest := Written.line hold (.send hsend)
    rw [arrowLines, List.flatMap_append, List.flatMap_singleton, List.map_append,
      List.map_singleton, entryLines, roundOf]
    by_cases hempty : entry.2 = []
    · rw [if_pos hempty, if_pos hempty]
      exact hrequest
    · rw [if_neg hempty, if_neg hempty]
      have hreply : Carries '<' entry.2 ('<' :: dump entry.2) := carries_dump (by decide) hempty
      have hboth := Written.line hrequest (.reply hreply)
      rw [List.append_assoc] at hboth
      exact hboth

def fakeTransportFromArrowFixture (complaint : Text → String) (source label : String)
    (text : Text) : Result FakeTransport := do
  let script ← parseArrowFixture complaint source text
  .ok (.new (mapValues (fun _ reply => .fixed (.bytes reply)) script) [] label)

variable {E α : Type} {p : Port}

theorem joined_roundOf (entry : Bytes × Bytes) : joined (roundOf entry) = entry := by
  obtain ⟨request, reply⟩ := entry
  by_cases h : reply = []
  · simp [joined, roundOf, h]
  · simp [joined, roundOf, h]

theorem parse_arrowText {entries : List (Bytes × Bytes)} (hspeaks : ∀ e ∈ entries, e.1 ≠ [])
    (hapart : (entries.map Prod.fst).Nodup) :
    parseArrowFixture complaint source (arrowText entries) = .ok (ofList entries) := by
  have hwritten : Written (said (arrowText entries)) (entries.map roundOf) := by
    rw [said_arrowText]
    exact written_arrowLines hspeaks
  have hrounds : Apart (entries.map roundOf) := by
    rw [Apart, List.map_map]
    exact hapart
  have hsame : entries.map (joined ∘ roundOf) = entries.map id :=
    List.map_congr_left fun e _ => joined_roundOf e
  rw [parse_of_written hwritten hrounds, List.map_map, hsame, List.map_id]

/-- A session on which nothing fails and whose requests are all different can be kept as a text:
the transport made from it takes every call as the port did. -/
theorem fixture_replays (client : StdBusProtocolClient) (d : Session E α)
    (complaint : Text → String) (source : String) (hopen : p.line.isOpen = true)
    (hfresh : p.line.stream = []) (hheard : Heard (through client d) p)
    (hapart : ((captured (through client d) p).map Prod.fst).Nodup) :
    let entries := captured (through client d) p
    ∃ f, fakeTransportFromArrowFixture complaint source client.label (arrowText entries) = .ok f ∧
      Replayed [] entries (run port (through client d) p)
        (run fake (through client d) (openTransport f).2) := by
  have hspeaks := captured_speaks (p := p) (asks_through client d)
  have hserves : Serves (mapValues (fun _ reply => .fixed (.bytes reply))
      (ofList (captured (through client d) p))) [] (captured (through client d) p) [] := by
    refine serves_script [] fun entry hentry => ⟨.fixed (.bytes entry.2), ?_, rfl⟩
    rw [lookup_mapValues, lookup_ofList_of_mem hapart hentry]
    rfl
  refine ⟨_, ?_, replay_run client.label hopen hfresh hheard hserves⟩
  rw [fakeTransportFromArrowFixture, parse_arrowText hspeaks hapart]
  rfl

def setPointRequest : Request := ⟨[0x01, 0x03, 0x01, 0x07, 0x01, 0x01], 1, none, "read_setpoint"⟩

def setPointReply : Bytes :=
  StdBusFraming.wireBytes ⟨StdBusFraming.dataNotExpectingReply, StdBusFraming.hostMac, 0x10,
    [0x02, 0x03, 0x01, 0x07, 0x01, 0x01, 0x01, 0x2A]⟩

def pollBoth : Session Unit (List (Result StdBusReply)) :=
  .ask processValueRequest fun first => .ask setPointRequest fun second => .done [first, second]

def panelPort : Port :=
  ⟨⟨"COM6", true, [], [], .scopeDeadline⟩,
    [[processValueReply.take 3, processValueReply.drop 3], [0x00 :: setPointReply]]⟩

theorem pollBoth_replays :
    ∃ f, fakeTransportFromArrowFixture (fun _ => "") "poll.txt" "COM6"
        (arrowText (captured (through ⟨false, "COM6"⟩ pollBoth) panelPort)) = .ok f ∧
      Replayed [] (captured (through ⟨false, "COM6"⟩ pollBoth) panelPort)
        (run port (through ⟨false, "COM6"⟩ pollBoth) panelPort)
        (run fake (through ⟨false, "COM6"⟩ pollBoth) (openTransport f).2) :=
  fixture_replays ⟨false, "COM6"⟩ pollBoth (fun _ => "") "poll.txt" rfl rfl
    (heard_iff.mpr (by decide +kernel)) (by decide +kernel)

end ArrowFixtures
