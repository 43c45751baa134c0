import Watlowlib.PythonNumbers

/-! # The serial transport

A port hands bytes over in chunks of its own choosing; `read_exact` collects chunks until it has
what was asked for and pushes the rest back. What a reader sees is the stream: the bytes pushed
back and the bytes of the coming chunks, however the chunks are cut. -/
namespace SerialTransport

open ExceptRules PythonValues WatlowErrors

/-- How an operation on the port ends that does not complete. `scopeDeadline` is the deadline of
an enclosing `fail_after`, `cancelled` any other cancellation of the task. -/
inductive PortEnd where
  | ownDeadline
  | scopeDeadline
  | cancelled
  | disconnected (text : String)
  | serialError (text : String)
  | osError (disconnect : Bool) (text : String)
  deriving DecidableEq, Repr

/-- An open transport in one call: the chunks the port will still deliver, in order, and how a
receive ends when they are used up. -/
structure Line where
  label : String
  isOpen : Bool
  pushback : Bytes
  chunks : List Bytes
  ending : PortEnd
  deriving DecidableEq, Repr

def Line.stream (s : Line) : Bytes := s.pushback ++ s.chunks.flatten

def Line.SamePort (s s' : Line) : Prop :=
  s'.label = s.label ∧ s'.isOpen = s.isOpen ∧ s'.ending = s.ending

theorem Line.SamePort.trans {s t u : Line} (h : s.SamePort t) (k : t.SamePort u) :
    s.SamePort u :=
  ⟨k.1.trans h.1, k.2.1.trans h.2.1, k.2.2.trans h.2.2⟩

def requirePort (s : Line) : Result PUnit :=
  require (s.isOpen = true)
    ⟨.connection, [.text s.label, .text " is not open"], { port := some s.label }⟩

/-- The exception of an operation that ended early. A cancellation passes through untouched; the
one of an enclosing `fail_after` surfaces there as the built-in `TimeoutError`. -/
def portError (operation verb : Message) (timeout : PyFloat) (label : String) :
    PortEnd → PyError
  | .ownDeadline =>
    ⟨.timeout, operation ++ [.text " on ", .text label, .text " timed out after ",
      .float timeout, .text "s"], { port := some label }⟩
  | .scopeDeadline => ⟨.timeoutError, [], {}⟩
  | .cancelled => ⟨.cancelled, [], {}⟩
  | .disconnected text =>
    ⟨.connection, verb ++ [.text " on ", .text label, .text " failed: ", .text text],
      { port := some label }⟩
  | .serialError text =>
    ⟨.transport, verb ++ [.text " on ", .text label, .text " failed: ", .text text],
      { port := some label }⟩
  | .osError true text =>
    ⟨.connection, verb ++ [.text " on ", .text label, .text " disconnected: ", .text text],
      { port := some label }⟩
  | .osError false text =>
    ⟨.transport, verb ++ [.text " on ", .text label, .text " failed: ", .text text],
      { port := some label }⟩

/-- `write`: the port takes all of the data, or the operation ends early. -/
def write (ending : Option PortEnd) (timeout : PyFloat) (s : Line) : Result PUnit := do
  requirePort s
  match ending with
  | none => .ok ⟨⟩
  | some e => .error (portError [.text "write"] [.text "write"] timeout s.label e)

/-- The receive loop: it takes whole chunks until `n` bytes are there or no chunk is left. -/
def receive (n : ℕ) (buf : Bytes) : List Bytes → Bytes × List Bytes
  | [] => (buf, [])
  | c :: cs => if n ≤ buf.length then (buf, c :: cs) else receive n (buf ++ c) cs

def readError (n : ℕ) (timeout : PyFloat) (s : Line) : PyError :=
  portError [.text "read_exact(", .int n, .text ")"] [.text "read"] timeout s.label s.ending

/-- `read_exact`. The bytes collected so far are pushed back when its own deadline passes; any
other early end loses them. -/
def readExact (n : ℕ) (timeout : PyFloat) (s : Line) : Result Bytes × Line :=
  match requirePort s with
  | .error e => (.error e, s)
  | .ok _ =>
    if n = 0 then (.ok [], s)
    else
      let (buf, rest) := receive n s.pushback s.chunks
      if n ≤ buf.length then
        (.ok (buf.take n), { s with pushback := buf.drop n, chunks := rest })
      else
        (.error (readError n timeout s),
          { s with pushback := if s.ending = .ownDeadline then buf else [], chunks := [] })

theorem receive_spec (n : ℕ) (buf : Bytes) (cs : List Bytes) :
    (receive n buf cs).1 ++ (receive n buf cs).2.flatten = buf ++ cs.flatten ∧
      (n ≤ (receive n buf cs).1.length ∨ (receive n buf cs).2 = []) := by
  induction cs generalizing buf with
  | nil => exact ⟨rfl, Or.inr rfl⟩
  | cons c cs ih =>
    by_cases h : n ≤ buf.length
    · rw [receive, if_pos h]
      exact ⟨rfl, Or.inl h⟩
    · rw [receive, if_neg h]
      obtain ⟨hs, hn⟩ := ih (buf ++ c)
      exact ⟨by rw [hs, List.flatten_cons, List.append_assoc], hn⟩

theorem readExact_ok {n : ℕ} {s : Line} (timeout : PyFloat) (hopen : s.isOpen = true)
    (hn : n ≤ s.stream.length) :
    ∃ s', readExact n timeout s = (.ok (s.stream.take n), s') ∧
      s'.stream = s.stream.drop n ∧ s.SamePort s' := by
  simp only [readExact, requirePort]
  rw [require_of _ hopen]
  by_cases hz : n = 0
  · subst hz
    exact ⟨s, by simp, by simp, rfl, rfl, rfl⟩
  · obtain ⟨hs, hr⟩ := receive_spec n s.pushback s.chunks
    cases hrec : receive n s.pushback s.chunks with
    | mk buf rest =>
      rw [hrec] at hs hr
      have hbuf : n ≤ buf.length := by
        rcases hr with hr | hr
        · exact hr
        · simp only at hs hr
          rw [hr, List.flatten_nil, List.append_nil] at hs
          rw [hs]
          exact hn
      have hstream : s.stream = buf ++ rest.flatten := hs.symm
      refine ⟨{ s with pushback := buf.drop n, chunks := rest }, ?_, ?_, rfl, rfl, rfl⟩
      · simp only [if_neg hz, if_pos hbuf, hstream, List.take_append_of_le_length hbuf]
      · rw [hstream, List.drop_append_of_le_length hbuf]
        rfl

theorem readExact_short {n : ℕ} {s : Line} (timeout : PyFloat) (hopen : s.isOpen = true)
    (hn : s.stream.length < n) :
    readExact n timeout s = (.error (readError n timeout s),
      { s with pushback := if s.ending = .ownDeadline then s.stream else [], chunks := [] }) := by
  simp only [readExact, requirePort]
  rw [require_of _ hopen]
  obtain ⟨hs, hr⟩ := receive_spec n s.pushback s.chunks
  cases hrec : receive n s.pushback s.chunks with
  | mk buf rest =>
    rw [hrec] at hs hr
    simp only at hs hr
    have hlen : buf.length ≤ s.stream.length := by
      rw [Line.stream, ← hs, List.length_append]
      omega
    have hrest : rest = [] := by
      rcases hr with hr | hr
      · omega
      · exact hr
    have hstream : s.stream = buf := by
      rw [Line.stream, ← hs, hrest, List.flatten_nil, List.append_nil]
    have hz : n ≠ 0 := by omega
    have hbuf : ¬ n ≤ buf.length := by omega
    simp only [if_neg hz, if_neg hbuf, hstream]

end SerialTransport
