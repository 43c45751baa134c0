import Watlowlib.SerialTransport
import Watlowlib.TransitionSystem

/-! # The books of the receiving side

Every call of `read_exact` and `read_available` moves the pushback into a buffer, receives, and
ends in one of several ways. Runs of such calls over one open transport, with the bytes received
from the port and the bytes returned written down. -/
namespace ReadLedger

open ExceptRules PythonValues SerialTransport TransitionSystem WatlowErrors

/-- A cap that is missing, zero or negative is none. -/
def capOf (maxBytes : Option ℤ) : Option ℕ :=
  match maxBytes with
  | some m => if 0 < m then some m.toNat else none
  | none => none

def Full (cap : Option ℕ) (buf : Bytes) : Prop := ∃ n ∈ cap, n ≤ buf.length

instance (cap : Option ℕ) (buf : Bytes) : Decidable (Full cap buf) :=
  match cap with
  | none => isFalse fun ⟨_, h, _⟩ => by cases h
  | some n =>
    if h : n ≤ buf.length then isTrue ⟨n, rfl, h⟩
    else isFalse fun ⟨_, hm, hn⟩ => by cases hm; exact h hn

/-- The loop of `read_available`: whole chunks until the cap is reached or no chunk is left. -/
def gather (cap : Option ℕ) (buf : Bytes) : List Bytes → Bytes × List Bytes
  | [] => (buf, [])
  | c :: cs => if Full cap buf then (buf, c :: cs) else gather cap (buf ++ c) cs

/-- What an early end raises; the idle timeout of the call itself raises nothing. -/
def availableError (label : String) : PortEnd → Option PyError
  | .ownDeadline => none
  | .scopeDeadline => some ⟨.timeoutError, [], {}⟩
  | .cancelled => some ⟨.cancelled, [], {}⟩
  | .disconnected text =>
    some ⟨.connection, [.text "read on ", .text label, .text " disconnected: ", .text text],
      { port := some label }⟩
  | .serialError text =>
    some ⟨.transport, [.text "read on ", .text label, .text " failed: ", .text text],
      { port := some label }⟩
  | .osError true text =>
    some ⟨.connection, [.text "read on ", .text label, .text " disconnected: ", .text text],
      { port := some label }⟩
  | .osError false text =>
    some ⟨.transport, [.text "read on ", .text label, .text " failed: ", .text text],
      { port := some label }⟩

/-- What the cap lets through, and the leftover. -/
def cut (cap : Option ℕ) (buf : Bytes) : Bytes × Bytes :=
  match cap with
  | some n => (buf.take n, buf.drop n)
  | none => (buf, [])

/-- `read_available`. Whatever raises loses the bytes that were collected. -/
def readAvailable (maxBytes : Option ℤ) (s : Line) : Result Bytes × Line :=
  match requirePort s with
  | .error e => (.error e, s)
  | .ok _ =>
    let cap := capOf maxBytes
    let (buf, rest) := gather cap s.pushback s.chunks
    match if Full cap buf then none else availableError s.label s.ending with
    | none => (.ok (cut cap buf).1, { s with pushback := (cut cap buf).2, chunks := rest })
    | some e => (.error e, { s with pushback := [], chunks := rest })

inductive Call where
  | exact (n : ℕ) (timeout : PyFloat)
  | available (maxBytes : Option ℤ)
  deriving DecidableEq, Repr

def Call.run : Call → Line → Result Bytes × Line
  | .exact n timeout, s => readExact n timeout s
  | .available maxBytes, s => readAvailable maxBytes s

/-- What the calls so far have left: the transport, and the bytes that the port handed over and
that the calls returned. -/
structure Ledger where
  line : Line
  received : Bytes
  returned : Bytes
  deriving DecidableEq, Repr

/-- One call: the chunks that arrive by its end, how it ends should it end early, and what it
returned. -/
structure Event where
  call : Call
  arriving : List Bytes
  ending : PortEnd
  result : Result Bytes
  deriving DecidableEq

def Event.offered (e : Event) (s : Line) : Line :=
  { s with chunks := s.chunks ++ e.arriving, ending := e.ending }

def Event.outcome (e : Event) (s : Line) : Result Bytes × Line := e.call.run (e.offered s)

def takenBytes (before after : Line) : Bytes :=
  (before.chunks.take (before.chunks.length - after.chunks.length)).flatten

def returnedBytes : Result Bytes → Bytes
  | .ok bs => bs
  | .error _ => []

structure Step (s : Ledger) (e : Event) (t : Ledger) : Prop where
  result : e.result = (e.outcome s.line).1
  line : t.line = (e.outcome s.line).2
  received : t.received = s.received ++ takenBytes (e.offered s.line) t.line
  returned : t.returned = s.returned ++ returnedBytes e.result

/-- Nothing is lost: what was returned, followed by the pushback, is what was received. -/
def Balanced (s : Ledger) : Prop := s.returned ++ s.line.pushback = s.received

/-- The bytes that are there do not complete the call. -/
def Call.Short (call : Call) (s : Line) : Prop :=
  match call with
  | .exact n _ => s.stream.length < n
  | .available maxBytes => ¬ Full (capOf maxBytes) s.stream

/-- The call completes, or ends by its own timeout, or has nothing to lose. -/
def Kept (s : Ledger) (e : Event) : Prop :=
  e.call.Short (e.offered s.line) → e.ending = .ownDeadline ∨ (e.offered s.line).stream = []

section Loops

theorem takenBytes_of_split {before after : Line} {a : List Bytes}
    (h : before.chunks = a ++ after.chunks) : takenBytes before after = a.flatten := by
  simp only [takenBytes]
  rw [h, List.length_append, Nat.add_sub_cancel, List.take_left]

theorem receive_split (n : ℕ) (buf : Bytes) (cs : List Bytes) :
    ∃ a, cs = a ++ (receive n buf cs).2 ∧ (receive n buf cs).1 = buf ++ a.flatten := by
  induction cs generalizing buf with
  | nil => exact ⟨[], rfl, by simp [receive]⟩
  | cons c cs ih =>
    by_cases h : n ≤ buf.length
    · rw [receive, if_pos h]
      exact ⟨[], rfl, by simp⟩
    · rw [receive, if_neg h]
      obtain ⟨a, ha, hb⟩ := ih (buf ++ c)
      refine ⟨c :: a, ?_, ?_⟩
      · rw [List.cons_append, ← ha]
      · rw [hb, List.flatten_cons, List.append_assoc]

theorem gather_spec (cap : Option ℕ) (buf : Bytes) (cs : List Bytes) :
    (∃ a, cs = a ++ (gather cap buf cs).2 ∧ (gather cap buf cs).1 = buf ++ a.flatten) ∧
      (Full cap (gather cap buf cs).1 ∨ (gather cap buf cs).2 = []) := by
  induction cs generalizing buf with
  | nil => exact ⟨⟨[], rfl, by simp [gather]⟩, Or.inr rfl⟩
  | cons c cs ih =>
    by_cases h : Full cap buf
    · rw [gather, if_pos h]
      exact ⟨⟨[], rfl, by simp⟩, Or.inl h⟩
    · rw [gather, if_neg h]
      obtain ⟨⟨a, ha, hb⟩, hn⟩ := ih (buf ++ c)
      refine ⟨⟨c :: a, ?_, ?_⟩, hn⟩
      · rw [List.cons_append, ← ha]
      · rw [hb, List.flatten_cons, List.append_assoc]

theorem Full.mono {cap : Option ℕ} {a b : Bytes} (h : Full cap a) (hlen : a.length ≤ b.length) :
    Full cap b := by
  obtain ⟨n, hn, hle⟩ := h
  exact ⟨n, hn, hle.trans hlen⟩

theorem cut_append (cap : Option ℕ) (buf : Bytes) : (cut cap buf).1 ++ (cut cap buf).2 = buf := by
  cases cap with
  | none => exact List.append_nil buf
  | some n => exact List.take_append_drop n buf

theorem availableError_eq_none_iff {label : String} {ending : PortEnd} :
    availableError label ending = none ↔ ending = .ownDeadline := by
  cases ending with
  | osError disconnect text => cases disconnect <;> simp [availableError]
  | _ => simp [availableError]

end Loops

section Calls

variable {s : Line}

/-- What a call has in hand at its end: what it returns, and what it pushes back. -/
def carried (r : Result Bytes × Line) : Bytes := returnedBytes r.1 ++ r.2.pushback

/-- Everything a call had is carried over. -/
def Conserves (call : Call) (s : Line) : Prop :=
  carried (call.run s) = s.pushback ++ takenBytes s (call.run s).2

/-- A call that drops what it had: it carries nothing, having used up the stream. -/
def Drops (call : Call) (s : Line) : Prop :=
  carried (call.run s) = [] ∧ s.pushback ++ takenBytes s (call.run s).2 = s.stream

theorem takenBytes_all {after : Line} (h : after.chunks = []) :
    takenBytes s after = s.chunks.flatten :=
  takenBytes_of_split (by rw [h, List.append_nil])

theorem exact_complete {n : ℕ} {timeout : PyFloat} (hopen : s.isOpen = true)
    (h : n ≤ s.stream.length) : Conserves (.exact n timeout) s := by
  simp only [Conserves, Call.run, readExact, requirePort]
  rw [require_of _ hopen]
  by_cases hz : n = 0
  · subst hz
    simp [carried, returnedBytes, takenBytes]
  · obtain ⟨a, ha, hb⟩ := receive_split n s.pushback s.chunks
    have hn := (receive_spec n s.pushback s.chunks).2
    cases hrec : receive n s.pushback s.chunks with
    | mk buf rest =>
      rw [hrec] at ha hb hn
      simp only at ha hb hn
      have hbuf : n ≤ buf.length := by
        rcases hn with hn | hn
        · exact hn
        · rw [hb]
          rw [hn, List.append_nil] at ha
          rwa [← ha]
      simp only [if_neg hz, if_pos hbuf, carried, returnedBytes, List.take_append_drop]
      rw [takenBytes_of_split ha, hb]

theorem exact_own {n : ℕ} {timeout : PyFloat} (hopen : s.isOpen = true)
    (h : s.stream.length < n) (hown : s.ending = .ownDeadline) :
    Conserves (.exact n timeout) s := by
  simp only [Conserves, Call.run]
  rw [readExact_short timeout hopen h, if_pos hown, takenBytes_all rfl]
  rfl

theorem exact_dropped {n : ℕ} {timeout : PyFloat} (hopen : s.isOpen = true)
    (h : s.stream.length < n) (hown : s.ending ≠ .ownDeadline) : Drops (.exact n timeout) s := by
  simp only [Drops, Call.run]
  rw [readExact_short timeout hopen h, if_neg hown, takenBytes_all rfl]
  exact ⟨rfl, rfl⟩

theorem readAvailable_open (maxBytes : Option ℤ) (hopen : s.isOpen = true) :
    ∃ buf rest a, s.chunks = a ++ rest ∧ buf = s.pushback ++ a.flatten ∧
      (Full (capOf maxBytes) buf ↔ Full (capOf maxBytes) s.stream) ∧
      (¬ Full (capOf maxBytes) buf → rest = []) ∧
      readAvailable maxBytes s =
        match if Full (capOf maxBytes) buf then none else availableError s.label s.ending with
        | none => (.ok (cut (capOf maxBytes) buf).1,
            { s with pushback := (cut (capOf maxBytes) buf).2, chunks := rest })
        | some e => (.error e, { s with pushback := [], chunks := rest }) := by
  obtain ⟨⟨a, ha, hb⟩, hn⟩ := gather_spec (capOf maxBytes) s.pushback s.chunks
  refine ⟨_, _, a, ha, hb, ⟨fun h => h.mono ?_, fun h => ?_⟩, hn.resolve_left, ?_⟩
  · rw [hb, Line.stream]
    conv_rhs => rw [ha]
    simp
  · rcases hn with hn | hn
    · exact hn
    · rw [hn, List.append_nil] at ha
      rwa [hb, ← ha]
  · simp only [readAvailable, requirePort]
    rw [require_of _ hopen]

theorem available_conserves {maxBytes : Option ℤ} (hopen : s.isOpen = true)
    (h : ¬ Full (capOf maxBytes) s.stream → s.ending = .ownDeadline) :
    Conserves (.available maxBytes) s := by
  obtain ⟨buf, rest, a, ha, hb, hfull, -, hrun⟩ := readAvailable_open maxBytes hopen
  have hnone : (if Full (capOf maxBytes) buf then none else availableError s.label s.ending) =
      none := by
    split
    · rfl
    · rename_i hnot
      exact availableError_eq_none_iff.mpr (h fun hf => hnot (hfull.mpr hf))
  simp only [Conserves, Call.run]
  rw [hrun, hnone]
  simp only [carried, returnedBytes, cut_append]
  rw [takenBytes_of_split ha, hb]

theorem available_dropped {maxBytes : Option ℤ} (hopen : s.isOpen = true)
    (h : ¬ Full (capOf maxBytes) s.stream) (hown : s.ending ≠ .ownDeadline) :
    Drops (.available maxBytes) s := by
  obtain ⟨buf, rest, a, ha, hb, hfull, hrest, hrun⟩ := readAvailable_open maxBytes hopen
  have hnot : ¬ Full (capOf maxBytes) buf := fun hf => h (hfull.mp hf)
  obtain ⟨e, he⟩ := Option.ne_none_iff_exists'.mp
    (fun hnone => hown (availableError_eq_none_iff.mp hnone))
  simp only [Drops, Call.run]
  rw [hrun, if_neg hnot, he, takenBytes_all (hrest hnot)]
  exact ⟨rfl, rfl⟩

theorem call_conserves {call : Call} (hopen : s.isOpen = true)
    (h : call.Short s → s.ending = .ownDeadline) : Conserves call s := by
  cases call with
  | exact n timeout =>
    by_cases hn : s.stream.length < n
    · exact exact_own hopen hn (h hn)
    · exact exact_complete hopen (Nat.le_of_not_lt hn)
  | available maxBytes => exact available_conserves hopen h

theorem call_drops {call : Call} (hopen : s.isOpen = true) (hshort : call.Short s)
    (hown : s.ending ≠ .ownDeadline) : Drops call s := by
  cases call with
  | exact n timeout => exact exact_dropped hopen hshort hown
  | available maxBytes => exact available_dropped hopen hshort hown

end Calls

section Runs

variable {s t : Ledger} {e : Event} {events : List Event}

/-- The bytes that are missing from the books. -/
def deficit (s : Ledger) : ℤ := s.received.length - (s.returned ++ s.line.pushback).length

theorem deficit_balanced (h : Balanced s) : deficit s = 0 := by
  simp only [Balanced] at h
  simp only [deficit]
  rw [h, Int.sub_self]

theorem Step.books (h : Step s e t) :
    t.returned ++ t.line.pushback = s.returned ++ carried (e.outcome s.line) ∧
      t.received = s.received ++ takenBytes (e.offered s.line) (e.outcome s.line).2 := by
  refine ⟨?_, ?_⟩
  · rw [h.returned, h.result, h.line, List.append_assoc]
    rfl
  · rw [h.received, h.line]

theorem step_conserves (h : Step s e t)
    (hc : Conserves e.call (e.offered s.line)) :
    deficit t = deficit s ∧ (Balanced s → Balanced t) := by
  obtain ⟨hcarried, hreceived⟩ := h.books
  have hc' : carried (e.outcome s.line) =
      s.line.pushback ++ takenBytes (e.offered s.line) (e.outcome s.line).2 := hc
  refine ⟨?_, fun hb => ?_⟩
  · simp only [deficit]
    rw [hcarried, hreceived, hc']
    simp only [List.length_append]
    push_cast
    ring
  · simp only [Balanced] at hb ⊢
    rw [hcarried, hreceived, hc', ← List.append_assoc, hb]

theorem step_drops (h : Step s e t) (hd : Drops e.call (e.offered s.line)) :
    deficit t = deficit s + (e.offered s.line).stream.length := by
  obtain ⟨hcarried, hreceived⟩ := h.books
  obtain ⟨hnil, hall⟩ := hd
  have hnil' : carried (e.outcome s.line) = [] := hnil
  have hlen : (s.line.pushback ++ takenBytes (e.offered s.line) (e.outcome s.line).2).length =
      (e.offered s.line).stream.length := congrArg List.length hall
  simp only [deficit]
  rw [hcarried, hreceived, hnil', List.append_nil]
  simp only [List.length_append] at hlen ⊢
  push_cast
  omega

theorem run_isOpen (call : Call) (line : Line) : (call.run line).2.isOpen = line.isOpen := by
  cases call with
  | exact n timeout =>
    simp only [Call.run, readExact]
    split
    · rfl
    · split
      · rfl
      · split <;> rfl
  | available maxBytes =>
    simp only [Call.run, readAvailable]
    split
    · rfl
    · split <;> rfl

theorem Step.isOpen (h : Step s e t) : t.line.isOpen = s.line.isOpen := by
  rw [h.line]
  exact run_isOpen e.call (e.offered s.line)

theorem step_kept (h : Step s e t) (hopen : s.line.isOpen = true) (hk : Kept s e)
    (hb : Balanced s) : Balanced t := by
  by_cases hc : e.call.Short (e.offered s.line) → e.ending = .ownDeadline
  · exact (step_conserves h (call_conserves hopen hc)).2 hb
  · obtain ⟨hshort, hown⟩ := Classical.not_imp.mp hc
    have hnone := (hk hshort).resolve_left hown
    obtain ⟨hcarried, hall⟩ := call_drops (s := e.offered s.line) hopen hshort hown
    refine (step_conserves h ?_).2 hb
    simp only [Conserves]
    rw [hcarried, hall, hnone]

theorem step_deficit (h : Step s e t) (hopen : s.line.isOpen = true) :
    deficit s ≤ deficit t ∧ (¬ Kept s e → deficit s < deficit t) := by
  by_cases hc : e.call.Short (e.offered s.line) → e.ending = .ownDeadline
  · have heq := (step_conserves h (call_conserves hopen hc)).1
    exact ⟨le_of_eq heq.symm, fun hn => absurd (fun hs => Or.inl (hc hs)) hn⟩
  · obtain ⟨hshort, hown⟩ := Classical.not_imp.mp hc
    have heq := step_drops h (call_drops (s := e.offered s.line) hopen hshort hown)
    refine ⟨by omega, fun hn => ?_⟩
    have hne : (e.offered s.line).stream ≠ [] := fun hnil => hn fun _ => Or.inr hnil
    have hpos := List.length_pos_of_ne_nil hne
    omega

theorem run_deficit (h : Run Step s events t) (hopen : s.line.isOpen = true) :
    deficit s ≤ deficit t := by
  have hinv : deficit s ≤ deficit t ∧ t.line.isOpen = true :=
    h.invariant (fun u => deficit s ≤ deficit u ∧ u.line.isOpen = true)
      (fun _ _ _ hu hstep => ⟨hu.1.trans (step_deficit hstep hu.2).1, hstep.isOpen.trans hu.2⟩)
      ⟨le_refl _, hopen⟩
  exact hinv.1

theorem exact_returns {n : ℕ} {timeout : PyFloat} {line : Line} {bs : Bytes}
    (h : (readExact n timeout line).1 = .ok bs) : bs.length = n := by
  simp only [readExact] at h
  split at h
  · cases h
  · split at h
    · rename_i hz
      cases h
      exact hz.symm
    · split at h
      · cases h
        exact List.length_take_of_le ‹_›
      · cases h

end Runs

/-- A run of calls loses no byte exactly when no call is ended, other than by its own timeout, while
it has bytes in hand. Whatever happens, a `read_exact` that succeeds returns what was asked for. -/
theorem run_balanced_iff (s t : Ledger) (events : List Event) (hopen : s.line.isOpen = true)
    (hb : Balanced s) (h : Run Step s events t) :
    (Balanced t ↔ Run (Guarded Step Kept) s events t) ∧
      ∀ e ∈ events, ∀ n timeout bs, e.call = .exact n timeout → e.result = .ok bs →
        bs.length = n := by
  refine ⟨⟨fun ht => ?_, fun hg => ?_⟩, ?_⟩
  · induction h with
    | nil s => exact .nil s
    | @cons s e u es t hstep hrest ih =>
      have hu : u.line.isOpen = true := hstep.isOpen.trans hopen
      have hkept : Kept s e := by
        by_contra hn
        have hlost := (step_deficit hstep hopen).2 hn
        have hlater := run_deficit hrest hu
        rw [deficit_balanced hb] at hlost
        rw [deficit_balanced ht] at hlater
        omega
      exact .cons ⟨hkept, hstep⟩ (ih hu (step_kept hstep hopen hkept hb) ht)
  · have hinv : Balanced t ∧ t.line.isOpen = true :=
      hg.invariant (fun u => Balanced u ∧ u.line.isOpen = true)
        (fun _ _ _ hu hstep =>
          ⟨step_kept hstep.2 hu.2 hstep.1 hu.1, hstep.2.isOpen.trans hu.2⟩) ⟨hb, hopen⟩
    exact hinv.1
  · refine h.forall_event (fun _ => True) (fun u e v _ hstep => ⟨trivial, ?_⟩) trivial
    intro n timeout bs hcall hres
    have hout := hstep.result.symm.trans hres
    simp only [Event.outcome] at hout
    rw [hcall] at hout
    exact exact_returns hout

def quietPort : Ledger := ⟨⟨"COM3", true, [], [], .ownDeadline⟩, [], []⟩

def interrupted (ending : PortEnd) : Event where
  call := .exact 5 (.finite 1)
  arriving := [[0x55, 0xFF], [0x06]]
  ending := ending
  result := (readExact 5 (.finite 1)
    ⟨"COM3", true, [], [[0x55, 0xFF], [0x06]], ending⟩).1

def interruptedTo (pushback : Bytes) (ending : PortEnd) : Ledger :=
  ⟨⟨"COM3", true, pushback, [], ending⟩, [0x55, 0xFF, 0x06], []⟩

theorem interrupted_step : Step quietPort (interrupted .scopeDeadline)
    (interruptedTo [] .scopeDeadline) := by
  constructor <;> decide +kernel

/-- The deadline around the call ends it: three bytes are received and nowhere to be found. -/
theorem enclosingDeadline_loses :
    Run Step quietPort [interrupted .scopeDeadline] (interruptedTo [] .scopeDeadline) ∧
      Balanced quietPort ∧ ¬ Balanced (interruptedTo [] .scopeDeadline) := by
  refine ⟨.cons interrupted_step (.nil _), rfl, ?_⟩
  simp only [Balanced, interruptedTo]
  decide

theorem ownTimeout_step : Step quietPort (interrupted .ownDeadline)
    (interruptedTo [0x55, 0xFF, 0x06] .ownDeadline) := by
  constructor <;> decide +kernel

/-- Its own timeout keeps them in the pushback. -/
theorem ownTimeout_balanced : Balanced (interruptedTo [0x55, 0xFF, 0x06] .ownDeadline) :=
  (run_balanced_iff quietPort _ [interrupted .ownDeadline] rfl rfl
    (.cons ownTimeout_step (.nil _))).1.mpr
    (.cons ⟨fun _ => Or.inl rfl, ownTimeout_step⟩ (.nil _))

end ReadLedger
