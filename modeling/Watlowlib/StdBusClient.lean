import Watlowlib.SerialTransport
import Watlowlib.StdBusFraming
import Watlowlib.StdBusPayload

/-! # The Standard Bus client

The preamble scan, the frame reader and the round trip of one request. Nothing here looks at the
header fields of the frame it accepts, and nothing discards what an earlier call left unread. -/
namespace StdBusClient

open ExceptRules PythonNumbers PythonValues SerialTransport StdBusFraming StdBusPayload
  WatlowErrors

def headerLen : ℕ := 6

def dcrcLen : ℕ := 2

def preambleScanLimit : ℕ := 256

def maxPayloadLen : ℕ := 512

def ioTimeout : PyFloat := .finite 1

structure StdBusProtocolClient where
  disposed : Bool
  label : String
  deriving DecidableEq, Repr

structure StdBusReply where
  frame : Frame
  payload : Payload
  rawFrame : Bytes
  deriving DecidableEq, Repr

def callContext (label commandName : String) (address : ℤ) : ErrorContext :=
  { commandName := textOrNone commandName, protocol := some .stdbus, port := some label,
    address := some address }

def noPreamble (context : ErrorContext) (scanned : Bytes) : PyError :=
  ⟨.frame, [.text "no Std Bus preamble in ", .int scanned.length, .text " bytes"],
    { context with response := some scanned }⟩

/-- The preamble scan: one byte at a time, two after a `55`. `fuel` bounds the rounds; each
round that goes on has scanned a byte, so `preambleScanLimit + 1` rounds are never exceeded. -/
def scanPreamble (timeout : PyFloat) (context : ErrorContext) :
    ℕ → Bytes → Line → Result PUnit × Line
  | 0, scanned, s => (.error (noPreamble context scanned), s)
  | fuel + 1, scanned, s =>
    let next (scanned : Bytes) (s : Line) :=
      if preambleScanLimit < scanned.length then (.error (noPreamble context scanned), s)
      else scanPreamble timeout context fuel scanned s
    andThen (readExact 1 timeout s) fun b s =>
      if b = [0x55] then
        andThen (readExact 1 timeout s) fun b2 s =>
          if b2 = [0xFF] then (.ok ⟨⟩, s) else next (scanned ++ b ++ b2) s
      else next (scanned ++ b) s

def headerLength (header : Bytes) : ℕ := lengthField (header.getD 3 0) (header.getD 4 0)

def payloadTooLong (context : ErrorContext) (header : Bytes) : PyError :=
  ⟨.frame, [.text "Std Bus payload length ", .int (headerLength header), .text " exceeds cap ",
    .int maxPayloadLen, .text "; treating as wire corruption"],
    { context with response := some (preamble ++ header) }⟩

def readFields (timeout : PyFloat) (context : ErrorContext) (s : Line) : Result Bytes × Line :=
  andThen (readExact headerLen timeout s) fun header s =>
    if headerLength header = 0 then (.ok (preamble ++ header), s)
    else if maxPayloadLen < headerLength header then
      (.error (payloadTooLong context header), s)
    else
      andThen (readExact (headerLength header + dcrcLen) timeout s) fun body s =>
        (.ok (preamble ++ header ++ body), s)

def readFrame (timeout : PyFloat) (context : ErrorContext) (s : Line) : Result Bytes × Line :=
  andThen (scanPreamble timeout context (preambleScanLimit + 1) [] s) fun _ s =>
    readFields timeout context s

def requestFrame (dst : UInt8) (request : Bytes) : Frame :=
  ⟨dataExpectingReply, dst, hostMac, request⟩

/-- `with fail_after(bound)` around the exchange: its own expiry becomes the typed timeout. -/
def failAfter (bound : PyFloat) (address : ℤ) (context : ErrorContext)
    (r : Result Bytes × Line) : Result Bytes × Line :=
  match r with
  | (.error e, s) =>
    if e.kind = .timeoutError then
      (raise .timeout [.text "Std Bus exec on addr=", .int address, .text " exceeded ",
        .float bound, .text "s"] context, s)
    else (.error e, s)
  | (.ok raw, s) => (.ok raw, s)

def decodeReply (context : ErrorContext) (raw : Bytes) : Result StdBusReply :=
  match decodeFrame raw with
  | .error e => raise .frame (.text "Std Bus frame decode failed: " :: e.str) context
  | .ok decoded =>
    match decodePayload decoded.payload with
    | .error e => raise .frame (.text "Std Bus payload decode failed: " :: e.str) context
    | .ok payload => .ok ⟨decoded, payload, raw⟩

/-- `execute`. `writeEnd` is how the port's `send` ends, none when it takes all of the data. -/
def execute (client : StdBusProtocolClient) (request : Bytes) (address : ℤ)
    (timeout : Option PyFloat) (commandName : String) (writeEnd : Option PortEnd) (s : Line) :
    Result StdBusReply × Line :=
  let context := callContext client.label commandName address
  let bound := timeout.getD ioTimeout
  if client.disposed then
    (raise .connection [.text "StdBusProtocolClient is disposed"] context, s)
  else
    andThen (addrToMac address, s) fun dst s =>
    andThen (encodeFrame (requestFrame dst request), s) fun wire s =>
    andThen (failAfter bound address { context with request := some wire }
      (andThen (write writeEnd bound s, s) fun _ s => readFrame bound context s)) fun raw s =>
      (decodeReply { context with request := some wire, response := some raw } raw, s)

end StdBusClient
