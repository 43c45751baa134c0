import Watlowlib.Dialogues
import Watlowlib.StdBusClient

/-! # The Standard Bus client over any transport

The client knows its transport by two operations. As a dialogue with them it can be held over the
serial port, where it is the client of the other modules, and over any stand-in for that port. -/
namespace ClientDialogues

open Dialogues ExceptRules PythonValues SerialTransport StdBusClient StdBusFraming StdBusPayload
  WatlowErrors

/-- What the client asks of a transport. A write is answered with no bytes. -/
inductive Operation where
  | write (data : Bytes) (timeout : PyFloat)
  | readExact (n : ℕ) (timeout : PyFloat)

abbrev Talk (E α : Type) := Dialogue Operation (Result Bytes) Empty E α

abbrev TransportHandler (σ : Type) := Handler Operation (Result Bytes) Empty σ

def send (data : Bytes) (timeout : PyFloat) : Talk PyError Bytes :=
  .ask (.write data timeout) .ofExcept

def receive (n : ℕ) (timeout : PyFloat) : Talk PyError Bytes :=
  .ask (.readExact n timeout) .ofExcept

/-- The preamble scan of `_read_frame`, with the fuel of `StdBusClient.scanPreamble`. -/
def scanPreamble (timeout : PyFloat) (context : ErrorContext) :
    ℕ → Bytes → Talk PyError Unit
  | 0, scanned => .raises (noPreamble context scanned)
  | fuel + 1, scanned =>
    let next (scanned : Bytes) :=
      if preambleScanLimit < scanned.length then .raises (noPreamble context scanned)
      else scanPreamble timeout context fuel scanned
    receive 1 timeout >>= fun b =>
      if b = [0x55] then
        receive 1 timeout >>= fun b2 =>
          if b2 = [0xFF] then .done () else next (scanned ++ b ++ b2)
      else next (scanned ++ b)

def readFields (timeout : PyFloat) (context : ErrorContext) : Talk PyError Bytes :=
  receive headerLen timeout >>= fun header =>
    if headerLength header = 0 then .done (preamble ++ header)
    else if maxPayloadLen < headerLength header then .raises (payloadTooLong context header)
    else
      receive (headerLength header + dcrcLen) timeout >>= fun body =>
        .done (preamble ++ header ++ body)

def readFrame (timeout : PyFloat) (context : ErrorContext) : Talk PyError Bytes :=
  scanPreamble timeout context (preambleScanLimit + 1) [] >>= fun _ => readFields timeout context

/-- What `execute` makes of the built-in `TimeoutError`. -/
def overdue (bound : PyFloat) (address : ℤ) (context : ErrorContext) :
    Result Bytes → Result Bytes
  | .ok raw => .ok raw
  | .error e =>
    if e.kind = .timeoutError then
      raise .timeout [.text "Std Bus exec on addr=", .int address, .text " exceeded ",
        .float bound, .text "s"] context
    else .error e

structure Request where
  payload : Bytes
  address : ℤ
  timeout : Option PyFloat
  commandName : String
  deriving DecidableEq, Repr

def execute (client : StdBusProtocolClient) (request : Request) : Talk PyError StdBusReply :=
  let context := callContext client.label request.commandName request.address
  let bound := request.timeout.getD ioTimeout
  if client.disposed then
    .ofExcept (raise .connection [.text "StdBusProtocolClient is disposed"] context)
  else
    .ofExcept (addrToMac request.address) >>= fun dst =>
    .ofExcept (encodeFrame (requestFrame dst request.payload)) >>= fun wire =>
    (send wire bound >>= fun _ => readFrame bound context).attempt >>= fun r =>
    .ofExcept (overdue bound request.address { context with request := some wire } r) >>= fun raw =>
    .ofExcept (decodeReply { context with request := some wire, response := some raw } raw)

abbrev Session (E α : Type) := Dialogue Request (Result StdBusReply) Empty E α

/-- What the calls of a session come to on the transport. -/
def through (client : StdBusProtocolClient) {E α : Type} : Session E α → Talk E α
  | .done a => .done a
  | .raises e => .raises e
  | .ask request next => (execute client request).attempt >>= fun r => through client (next r)
  | .tell n _ => nomatch n

/-! ## Over the serial port -/

/-- The open port of one call; `writeEnd` says how its `send` ends. -/
def serial (writeEnd : Option PortEnd) : TransportHandler Line where
  ask
    | .write _ timeout, s => ((write writeEnd timeout s).map fun _ => [], s)
    | .readExact n timeout, s => readExact n timeout s
  tell n _ := nomatch n

section Serial

variable {writeEnd : Option PortEnd} (timeout : PyFloat) (context : ErrorContext)

theorem run_receive {σ : Type} (h : TransportHandler σ) (n : ℕ) (s : σ) :
    run h (receive n timeout) s = h.ask (.readExact n timeout) s := run_ofExcept h _ _

theorem run_send {σ : Type} (h : TransportHandler σ) (data : Bytes) (s : σ) :
    run h (send data timeout) s = h.ask (.write data timeout) s := run_ofExcept h _ _

theorem run_scanPreamble (fuel : ℕ) (scanned : Bytes) (s : Line) :
    run (serial writeEnd) (scanPreamble timeout context fuel scanned) s =
      StdBusClient.scanPreamble timeout context fuel scanned s := by
  induction fuel generalizing scanned s with
  | zero => rfl
  | succ fuel ih =>
    have hnext : ∀ scanned s, run (serial writeEnd)
        (if preambleScanLimit < scanned.length then .raises (noPreamble context scanned)
          else scanPreamble timeout context fuel scanned) s =
        if preambleScanLimit < scanned.length then (.error (noPreamble context scanned), s)
        else StdBusClient.scanPreamble timeout context fuel scanned s := by
      intro scanned s
      split
      · rfl
      · exact ih scanned s
    simp only [scanPreamble, StdBusClient.scanPreamble, run_bind, run_receive]
    congr 1
    funext b s
    split
    · simp only [run_bind, run_receive]
      congr 1
      funext b2 s
      split
      · rfl
      · exact hnext _ s
    · exact hnext _ s

theorem run_readFields (s : Line) :
    run (serial writeEnd) (readFields timeout context) s =
      StdBusClient.readFields timeout context s := by
  simp only [readFields, StdBusClient.readFields, run_bind, run_receive]
  congr 1
  funext header s
  split
  · rfl
  · split
    · rfl
    · simp only [run_bind, run_receive]
      rfl

theorem failAfter_eq (bound : PyFloat) (address : ℤ) (r : Result Bytes × Line) :
    failAfter bound address context r = (overdue bound address context r.1, r.2) := by
  obtain ⟨r, s⟩ := r
  cases r with
  | ok raw => rfl
  | error e =>
    simp only [failAfter, overdue]
    split
    · rfl
    · rfl

theorem run_readFrame (s : Line) :
    run (serial writeEnd) (readFrame timeout context) s =
      StdBusClient.readFrame timeout context s := by
  simp only [readFrame, StdBusClient.readFrame, run_bind, run_scanPreamble, run_readFields]

theorem run_exchange (wire : Bytes) (s : Line) :
    run (serial writeEnd) (send wire timeout >>= fun _ => readFrame timeout context) s =
      andThen (write writeEnd timeout s, s) fun _ s =>
        StdBusClient.readFrame timeout context s := by
  simp only [run_bind, run_send, run_readFrame]
  rw [show (serial writeEnd).ask (.write wire timeout) s =
    ((write writeEnd timeout s).map fun _ => [], s) from rfl]
  cases write writeEnd timeout s with
  | ok u => rfl
  | error e => rfl

/-- Held over the port, the dialogue is the call that the other modules are about. -/
theorem run_execute (client : StdBusProtocolClient) (request : Request) (s : Line) :
    run (serial writeEnd) (execute client request) s =
      StdBusClient.execute client request.payload request.address request.timeout
        request.commandName writeEnd s := by
  simp only [execute, StdBusClient.execute]
  split
  · exact run_ofExcept _ _ _
  · simp only [run_bind _ (.ofExcept _), run_bind _ (Dialogue.attempt _), run_ofExcept, run_attempt,
      run_exchange, failAfter_eq]
    rfl

end Serial

/-! ## What goes out -/

def Operation.Speaks : Operation → Prop
  | .write data _ => data ≠ []
  | .readExact _ _ => True

theorem asks_receive (n : ℕ) (timeout : PyFloat) : Asks Operation.Speaks (receive n timeout) :=
  ⟨trivial, fun r => asks_ofExcept r⟩

theorem asks_readFrame (timeout : PyFloat) (context : ErrorContext) :
    Asks Operation.Speaks (readFrame timeout context) := by
  have hscan : ∀ fuel scanned,
      Asks Operation.Speaks (scanPreamble timeout context fuel scanned) := by
    intro fuel
    induction fuel with
    | zero => exact fun scanned => trivial
    | succ fuel ih =>
      have hnext : ∀ scanned, Asks Operation.Speaks (if preambleScanLimit < scanned.length then
          .raises (noPreamble context scanned)
          else scanPreamble timeout context fuel scanned) := by
        intro scanned
        split
        · trivial
        · exact ih scanned
      intro scanned
      refine asks_bind (asks_receive 1 timeout) fun b => ?_
      split
      · refine asks_bind (asks_receive 1 timeout) fun b2 => ?_
        split
        · trivial
        · exact hnext _
      · exact hnext _
  refine asks_bind (hscan _ []) fun _ => asks_bind (asks_receive _ timeout) fun header => ?_
  split
  · trivial
  · split
    · trivial
    · exact asks_bind (asks_receive _ timeout) fun body => trivial

theorem asks_execute (client : StdBusProtocolClient) (request : Request) :
    Asks Operation.Speaks (execute client request) := by
  rw [execute]
  split
  · exact asks_ofExcept _
  · refine asks_then fun dst _ => asks_then fun wire hwire => ?_
    have hne : wire ≠ [] := by
      simp only [encodeFrame] at hwire
      split at hwire
      · cases hwire
      · cases hwire
        exact List.cons_ne_nil _ _
    have hsend : ∀ timeout, Asks Operation.Speaks (send wire timeout) := fun timeout =>
      ⟨hne, fun r => asks_ofExcept r⟩
    refine asks_bind (asks_attempt (asks_bind (hsend _) fun _ => asks_readFrame _ _)) fun r => ?_
    exact asks_then fun raw _ => asks_ofExcept _

theorem asks_through {E α : Type} (client : StdBusProtocolClient) (d : Session E α) :
    Asks Operation.Speaks (through client d) := by
  induction d with
  | done a => trivial
  | raises e => trivial
  | ask request next ih => exact asks_bind (asks_attempt (asks_execute client request)) ih
  | tell n => exact nomatch n

end ClientDialogues
