import Watlowlib.ClientDialogues
import Watlowlib.Dictionaries

/-! # The scripted transport

A `FakeTransport` answers a write from its script or from the head of its queue. What went over a
serial port can be captured, and a session replayed from the capture: the client cannot tell. -/
namespace FakeTransports

open ClientDialogues Dialogues Dictionaries ExceptRules PythonValues SerialTransport StdBusClient
  WatlowErrors

inductive Reply where
  | bytes (reply : Bytes)
  | chunks (replies : List Bytes)

inductive ScriptedReply where
  | fixed (reply : Reply)
  | callable (reply : Bytes → Reply)

def normalizeReply : Reply → Bytes
  | .bytes reply => reply
  | .chunks replies => replies.flatten

def ScriptedReply.produce (payload : Bytes) : ScriptedReply → Bytes
  | .fixed reply => normalizeReply reply
  | .callable reply => normalizeReply (reply payload)

abbrev Script := Dict Bytes ScriptedReply

abbrev Queue := List (Bytes × ScriptedReply)

structure FakeTransport where
  script : Script
  queue : Queue
  writes : List Bytes
  unmatched : List Bytes
  readBuffer : Bytes
  isOpen : Bool
  label : String
  forceReadTimeout : Bool
  forceWriteTimeout : Bool

def FakeTransport.new (script : Script) (queue : Queue) (label : String) : FakeTransport :=
  ⟨script, queue, [], [], [], false, label, false, false⟩

def ensureOpen (f : FakeTransport) : Result Unit :=
  require (f.isOpen = true)
    ⟨.connection, [.text f.label, .text " is not open"], { port := some f.label }⟩

def openTransport (f : FakeTransport) : Result Unit × FakeTransport :=
  if f.isOpen then
    (raise .connection [.text f.label, .text " is already open"] { port := some f.label }, f)
  else (.ok (), { f with isOpen := true })

/-- `_resolve_reply`: the script comes first; of the queue only the head may match. -/
def resolveReply (script : Script) (payload : Bytes) (queue : Queue) :
    Option ScriptedReply × Queue :=
  match script.lookup payload, queue with
  | some reply, _ => (some reply, queue)
  | none, [] => (none, [])
  | none, (request, reply) :: rest =>
    if request = payload then (some reply, rest) else (none, queue)

def writeForced (timeout : PyFloat) (f : FakeTransport) : PyError :=
  ⟨.timeout, [.text "write on ", .text f.label, .text " timed out after ", .float timeout,
    .text "s (forced)"], { port := some f.label }⟩

/-- `write`, without the artificial latency. -/
def write (payload : Bytes) (timeout : PyFloat) (f : FakeTransport) :
    Result Unit × FakeTransport :=
  match ensureOpen f with
  | .error e => (.error e, f)
  | .ok _ =>
    if f.forceWriteTimeout then (.error (writeForced timeout f), f)
    else
      let resolved := resolveReply f.script payload f.queue
      let f := { f with writes := f.writes ++ [payload], queue := resolved.2 }
      match resolved.1 with
      | none => (.ok (), { f with unmatched := f.unmatched ++ [payload] })
      | some reply => (.ok (), { f with readBuffer := f.readBuffer ++ reply.produce payload })

def readTimedOut (n : ℕ) (timeout : PyFloat) (note : String) (f : FakeTransport) : PyError :=
  ⟨.timeout, [.text "read_exact(", .int n, .text ") on ", .text f.label,
    .text " timed out after ", .float timeout, .text note], { port := some f.label }⟩

def readExact (n : ℕ) (timeout : PyFloat) (f : FakeTransport) : Result Bytes × FakeTransport :=
  match ensureOpen f with
  | .error e => (.error e, f)
  | .ok _ =>
    if f.forceReadTimeout then (.error (readTimedOut n timeout "s (forced)" f), f)
    else if f.readBuffer.length < n then (.error (readTimedOut n timeout "s" f), f)
    else (.ok (f.readBuffer.take n), { f with readBuffer := f.readBuffer.drop n })

def fake : TransportHandler FakeTransport where
  ask
    | .write payload timeout, f => ((write payload timeout f).1.map fun _ => [],
        (write payload timeout f).2)
    | .readExact n timeout, f => readExact n timeout f
  tell n _ := nomatch n

/-! ## Captures -/

/-- A serial port over many calls, and what the line brings after each write. -/
structure Port where
  line : Line
  deliveries : List (List Bytes)

def Port.delivered (p : Port) : List Bytes := p.deliveries.headD []

def Port.deliver (p : Port) (line : Line) : Port :=
  ⟨{ line with chunks := line.chunks ++ p.delivered }, p.deliveries.tail⟩

def port : TransportHandler Port where
  ask
    | .write payload timeout, p =>
      match (serial none).ask (.write payload timeout) p.line with
      | (.error e, line) => (.error e, { p with line := line })
      | (.ok answer, line) => (.ok answer, p.deliver line)
    | .readExact n timeout, p =>
      (((serial none).ask (.readExact n timeout) p.line).1,
        { p with line := ((serial none).ask (.readExact n timeout) p.line).2 })
  tell n _ := nomatch n

variable {E α : Type}

def captured : Talk E α → Port → List (Bytes × Bytes)
  | .done _, _ => []
  | .raises _, _ => []
  | .ask (.write payload timeout) next, p =>
    (payload, p.delivered.flatten) ::
      captured (next (port.ask (.write payload timeout) p).1)
        (port.ask (.write payload timeout) p).2
  | .ask (.readExact n timeout) next, p =>
    captured (next (port.ask (.readExact n timeout) p).1) (port.ask (.readExact n timeout) p).2
  | .tell n _, _ => nomatch n

theorem captured_speaks {d : Talk E α} {p : Port} (hd : Asks Operation.Speaks d) :
    ∀ entry ∈ captured d p, entry.1 ≠ [] := by
  induction d generalizing p with
  | done a => exact fun entry h => nomatch h
  | raises e => exact fun entry h => nomatch h
  | ask q next ih =>
    cases q with
    | write data timeout => exact List.forall_mem_cons.mpr ⟨hd.1, ih _ (hd.2 _)⟩
    | readExact n timeout => exact ih _ (hd.2 _)
  | tell n => exact nomatch n

/-- What is scripted answers the entries of a capture one after the other, and leaves `rest` of the
queue. -/
def Serves (script : Script) (rest : Queue) : List (Bytes × Bytes) → Queue → Prop
  | [], queue => queue = rest
  | (payload, reply) :: entries, queue =>
    ∃ r queue', resolveReply script payload queue = (some r, queue') ∧
      r.produce payload = reply ∧ Serves script rest entries queue'

/-- Nothing that a run asks of the port fails. -/
def Heard (d : Talk E α) (p : Port) : Prop :=
  ∀ exchange ∈ transcript port d p, ∃ answer, exchange.2 = .ok answer

/-- What is left of a dialogue, with the port that it was held with and the transport that it is
replayed on. -/
structure Replays (rest : Queue) (writes unmatched : List Bytes) (d : Talk E α) (p : Port)
    (f : FakeTransport) : Prop where
  portOpen : p.line.isOpen = true
  heard : Heard d p
  isOpen : f.isOpen = true
  reads : f.forceReadTimeout = false
  sends : f.forceWriteTimeout = false
  buffer : f.readBuffer = p.line.stream
  serves : Serves f.script rest (captured d p) f.queue
  writes : f.writes ++ (captured d p).map Prod.fst = writes
  unmatched : f.unmatched = unmatched

section Steps

variable {p : Port} {f : FakeTransport} {n : ℕ} {timeout : PyFloat} {payload : Bytes}

theorem port_write (hopen : p.line.isOpen = true) :
    port.ask (.write payload timeout) p = (.ok [], p.deliver p.line) := by
  simp only [port, serial, SerialTransport.write, requirePort]
  rw [require_of _ hopen]
  rfl

theorem stream_deliver (p : Port) (line : Line) :
    (p.deliver line).line.stream = line.stream ++ p.delivered.flatten := by
  simp [Port.deliver, Line.stream]

theorem port_read {answer : Bytes} (hopen : p.line.isOpen = true)
    (hanswer : (port.ask (.readExact n timeout) p).1 = .ok answer) :
    n ≤ p.line.stream.length ∧ answer = p.line.stream.take n ∧
      (port.ask (.readExact n timeout) p).2.line.stream = p.line.stream.drop n ∧
      (port.ask (.readExact n timeout) p).2.line.isOpen = true := by
  simp only [port, serial] at hanswer ⊢
  by_cases hlong : n ≤ p.line.stream.length
  · obtain ⟨line, hread, hstream, hsame⟩ := SerialTransport.readExact_ok timeout hopen hlong
    rw [hread] at hanswer ⊢
    cases hanswer
    exact ⟨hlong, rfl, hstream, hsame.2.1.trans hopen⟩
  · rw [SerialTransport.readExact_short timeout hopen (by omega)] at hanswer
    cases hanswer

theorem fake_write {r : ScriptedReply} {queue : Queue} (hopen : f.isOpen = true)
    (hsends : f.forceWriteTimeout = false)
    (hresolved : resolveReply f.script payload f.queue = (some r, queue)) :
    fake.ask (.write payload timeout) f = (.ok [], { f with
      writes := f.writes ++ [payload]
      queue := queue
      readBuffer := f.readBuffer ++ r.produce payload }) := by
  simp only [fake, write, ensureOpen]
  rw [require_of _ hopen]
  simp only [hsends, hresolved, Bool.false_eq_true, if_false]
  rfl

theorem fake_read (hopen : f.isOpen = true) (hreads : f.forceReadTimeout = false)
    (hlong : n ≤ f.readBuffer.length) :
    fake.ask (.readExact n timeout) f =
      (.ok (f.readBuffer.take n), { f with readBuffer := f.readBuffer.drop n }) := by
  have hshort : ¬ f.readBuffer.length < n := Nat.not_lt.mpr hlong
  simp only [fake, readExact, ensureOpen]
  rw [require_of _ hopen]
  simp only [hreads, hshort, Bool.false_eq_true, if_false]

end Steps

theorem replays_simulates (rest : Queue) (writes unmatched : List Bytes) :
    Simulates port fake (Replays rest writes unmatched : Talk E α → Port → FakeTransport → Prop)
      where
  ask q next p f h := by
    obtain ⟨hport, hheard, hopen, hreads, hsends, hbuffer, hserves, hwrites, hunmatched⟩ := h
    have hlater : Heard (next (port.ask q p).1) (port.ask q p).2 := fun exchange hmem =>
      hheard exchange (List.mem_cons_of_mem _ hmem)
    cases q with
    | write payload timeout =>
      obtain ⟨r, queue, hresolved, hreply, hserves⟩ := hserves
      rw [fake_write hopen hsends hresolved]
      rw [port_write hport] at hlater hserves ⊢
      refine ⟨rfl, ⟨hport, hlater, hopen, hreads, hsends, ?_, hserves, ?_, hunmatched⟩⟩
      · rw [stream_deliver, ← hbuffer, hreply]
      · simp only [captured, List.map_cons, port_write hport] at hwrites
        rw [← hwrites, List.append_assoc]
        rfl
    | readExact n timeout =>
      obtain ⟨answer, hanswer⟩ := hheard _ List.mem_cons_self
      obtain ⟨hlong, htake, hdrop, hstill⟩ := port_read hport hanswer
      rw [fake_read hopen hreads (by rw [hbuffer]; exact hlong)]
      refine ⟨?_, ⟨hstill, hlater, hopen, hreads, hsends, ?_, hserves, hwrites, hunmatched⟩⟩
      · rw [hbuffer, ← htake]
        exact hanswer.symm
      · rw [hbuffer, hdrop]
  tell n := nomatch n

def scripted (entry : Bytes × Bytes) : Bytes × ScriptedReply := (entry.1, .fixed (.bytes entry.2))

theorem serves_queue (entries : List (Bytes × Bytes)) (rest : Queue) :
    Serves ∅ rest entries (entries.map scripted ++ rest) := by
  induction entries with
  | nil => rfl
  | cons entry entries ih =>
    refine ⟨.fixed (.bytes entry.2), entries.map scripted ++ rest, ?_, rfl, ih⟩
    simp [resolveReply, scripted]

theorem serves_script {script : Script} {entries : List (Bytes × Bytes)} (queue : Queue)
    (h : ∀ entry ∈ entries, ∃ r, script.lookup entry.1 = some r ∧ r.produce entry.1 = entry.2) :
    Serves script queue entries queue := by
  induction entries with
  | nil => rfl
  | cons entry entries ih =>
    obtain ⟨r, hlookup, hreply⟩ := h entry List.mem_cons_self
    refine ⟨r, queue, ?_, hreply, ih fun e he => h e (List.mem_cons_of_mem _ he)⟩
    simp [resolveReply, hlookup]

section Sessions

variable {p : Port} {script : Script} {queue rest : Queue}

def opened (script : Script) (queue : Queue) (label : String) : FakeTransport :=
  (openTransport (.new script queue label)).2

structure Replayed (rest : Queue) (entries : List (Bytes × Bytes)) (session : Except E α × Port)
    (replay : Except E α × FakeTransport) : Prop where
  outcome : replay.1 = session.1
  queue : replay.2.queue = rest
  unmatched : replay.2.unmatched = []
  writes : replay.2.writes = entries.map Prod.fst
  buffer : replay.2.readBuffer = session.2.line.stream

theorem replay_run {d : Talk E α} (label : String) (hopen : p.line.isOpen = true)
    (hfresh : p.line.stream = []) (hheard : Heard d p)
    (hserves : Serves script rest (captured d p) queue) :
    Replayed rest (captured d p) (run port d p) (run fake d (opened script queue label)) := by
  have hstart : Replays rest ((captured d p).map Prod.fst) [] d p (opened script queue label) :=
    ⟨hopen, hheard, rfl, rfl, rfl, hfresh.symm, hserves, rfl, rfl⟩
  obtain ⟨houtcome, hend⟩ := (replays_simulates rest _ []).run hstart
  have hover : captured (.ofExcept (run port d p).1 : Talk E α) (run port d p).2 = [] := by
    cases (run port d p).1 <;> rfl
  have hserved := hend.serves
  have hwrites := hend.writes
  rw [hover] at hserved hwrites
  exact ⟨houtcome, hserved, hend.unmatched, by simpa using hwrites, hend.buffer⟩

/-- Any session of the client over a serial port with nothing unread at first and on which nothing
fails, whatever the line brings and however it is cut, ends alike when what was captured of it is
queued up in a scripted transport. The replay writes what was written, uses up the queue and leaves
the same bytes unread. -/
theorem session_replays (client : StdBusProtocolClient) (d : Session E α)
    (hopen : p.line.isOpen = true) (hfresh : p.line.stream = [])
    (hheard : Heard (through client d) p) :
    let entries := captured (through client d) p
    Replayed [] entries (run port (through client d) p)
      (run fake (through client d) (opened ∅ (entries.map scripted) client.label)) := by
  have hserves := serves_queue (captured (through client d) p) []
  rw [List.append_nil] at hserves
  exact replay_run client.label hopen hfresh hheard hserves

theorem heard_iff {d : Talk E α} :
    Heard d p ↔ (transcript port d p).all (fun exchange => exchange.2.toBool) = true := by
  rw [List.all_eq_true, Heard]
  refine forall₂_congr fun exchange _ => ?_
  cases exchange.2 with
  | error e => simp [Except.toBool]
  | ok answer => simp [Except.toBool]

end Sessions

def processValueRequest : Request := ⟨[0x01, 0x03, 0x01, 0x04, 0x01, 0x01], 1, none, "read_pv"⟩

def processValueReply : Bytes :=
  [0x55, 0xFF, 0x06, 0x00, 0x10, 0x00, 0x0B, 0x88, 0x02, 0x03, 0x01, 0x04, 0x01, 0x01, 0x08, 0x45,
    0x1E, 0x3C, 0xD4, 0xA7, 0x28]

def pollTwice : Session Unit (List (Result StdBusReply)) :=
  .ask processValueRequest fun first => .ask processValueRequest fun second =>
    .done [first, second]

def benchPort : Port :=
  ⟨⟨"COM6", true, [], [], .scopeDeadline⟩,
    [[processValueReply.take 3, processValueReply.drop 3], [0x00 :: processValueReply]]⟩

theorem pollTwice_replays :
    Replayed [] (captured (through ⟨false, "COM6"⟩ pollTwice) benchPort)
      (run port (through ⟨false, "COM6"⟩ pollTwice) benchPort)
      (run fake (through ⟨false, "COM6"⟩ pollTwice) (opened ∅
        ((captured (through ⟨false, "COM6"⟩ pollTwice) benchPort).map scripted) "COM6")) :=
  session_replays ⟨false, "COM6"⟩ pollTwice rfl rfl (heard_iff.mpr (by decide +kernel))

end FakeTransports
