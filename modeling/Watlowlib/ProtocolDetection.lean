import Mathlib.Data.Finset.Insert
import Watlowlib.DiscoveryScan

/-! # Protocol detection

`detect_protocol` tries one transport after the other on the same port. Every exit of a stage that
does not hand its transport over closes it, so at most one of the two is open at a time. -/
namespace ProtocolDetection

open Discovery DiscoveryScan ExceptRules ModbusOps PythonValues SessionExecute StdBusPayload
  WatlowErrors

/-- The transports over one port: the serial one for the Standard Bus, the bus of the Modbus
library. -/
inductive Transport where
  | serial
  | modbusBus
  deriving DecidableEq, Repr

/-- How opens, drains, exchanges and closes end on the port. -/
structure PortWorld (σ : Type) where
  opening : Transport → σ → Option PyError × σ
  draining : σ → Option PyError × σ
  wire : Transport → Wire σ
  closing : Transport → σ → Option PyError × σ

inductive PortEvent where
  | opened (transport : Transport) (error : Option PyError)
  | closed (transport : Transport) (error : Option PyError)
  deriving DecidableEq, Repr

/-- An open that raises leaves the transport closed; a close ends with it closed, however it
ends. -/
def PortEvent.apply (openOnes : Finset Transport) : PortEvent → Finset Transport
  | .opened transport none => insert transport openOnes
  | .opened _ (some _) => openOnes
  | .closed transport _ => openOnes.erase transport

/-- The transports that are open behind a log. -/
def openAfter (log : List PortEvent) : Finset Transport := log.foldl PortEvent.apply ∅

/-- A detection under way: the port, the log of its opens and closes, and the attempts. -/
structure Detecting (σ : Type) where
  world : σ
  log : List PortEvent
  attempts : List Message

structure ProtocolClient where
  kind : ProtocolKind
  transport : Transport
  deriving DecidableEq, Repr

structure ResolvedProtocol where
  kind : ProtocolKind
  client : ProtocolClient
  transport : Transport
  deriving DecidableEq, Repr

def className : ErrorKind → String
  | .watlowError => "WatlowError"
  | .configuration => "WatlowConfigurationError"
  | .confirmationRequired => "WatlowConfirmationRequiredError"
  | .validation => "WatlowValidationError"
  | .transport => "WatlowTransportError"
  | .timeout => "WatlowTimeoutError"
  | .connection => "WatlowConnectionError"
  | .protocol => "WatlowProtocolError"
  | .frame => "WatlowFrameError"
  | .protocolUnsupported => "WatlowProtocolUnsupportedError"
  | .noSuchObject => "WatlowNoSuchObjectError"
  | .noSuchAttribute => "WatlowNoSuchAttributeError"
  | .noSuchInstance => "WatlowNoSuchInstanceError"
  | .modbus => "WatlowModbusError"
  | .modbusIllegalFunction => "WatlowModbusIllegalFunctionError"
  | .modbusIllegalDataAddress => "WatlowModbusIllegalDataAddressError"
  | .modbusIllegalDataValue => "WatlowModbusIllegalDataValueError"
  | .modbusSlaveFailure => "WatlowModbusSlaveFailureError"
  | .modbusTimeout => "WatlowModbusTimeoutError"
  | .valueError => "ValueError"
  | .typeError => "TypeError"
  | .overflowError => "OverflowError"
  | .unicodeEncodeError => "UnicodeEncodeError"
  | .unicodeDecodeError => "UnicodeDecodeError"
  | .zeroDivisionError => "ZeroDivisionError"
  | .keyError => "KeyError"
  | .attributeError => "AttributeError"
  | .frameFault => "FrameError"
  | .timeoutError => "TimeoutError"
  | .cancelled => "CancelledError"

section Stages

variable {σ α : Type} (world : PortWorld σ)

def ended (error : Option PyError) : Result PUnit := error.elim (.ok ⟨⟩) .error

def openTransport (transport : Transport) (s : Detecting σ) : Result PUnit × Detecting σ :=
  let o := world.opening transport s.world
  (ended o.1, { s with world := o.2, log := s.log ++ [.opened transport o.1] })

def drainInput (s : Detecting σ) : Result PUnit × Detecting σ :=
  let o := world.draining s.world
  (ended o.1, { s with world := o.2 })

/-- The close in a `finally`: an error of the library is swallowed, any other takes the place of
what the body did. -/
def closing (transport : Transport) (x : Result α × Detecting σ) : Result α × Detecting σ :=
  let c := world.closing transport x.2.world
  let s := { x.2 with world := c.2, log := x.2.log ++ [.closed transport c.1] }
  match c.1 with
  | none => (x.1, s)
  | some e => if e.IsWatlow then (x.1, s) else (.error e, s)

def Detecting.attempt (s : Detecting σ) (m : Message) : Detecting σ :=
  { s with attempts := s.attempts ++ [m] }

/-- `probe_stdbus`: any frame with a payload that decodes confirms, every error of the library
rejects. -/
def probeStdbus (address : ℤ) (s : Detecting σ) : Result Bool × Detecting σ :=
  match encodeReadRequest 1001 1 with
  | .error e => (.error e, s)
  | .ok payload =>
    let r := world.wire .serial address (.payload payload) s.world
    let answered : Result Bool :=
      match r.1 with
      | .ok _ => .ok true
      | .error e => if e.IsWatlow then .ok false else .error e
    (answered, { s with world := r.2 })

/-- `probe_modbus`: an exception response confirms as well. -/
def probeModbus (address : ℤ) (s : Detecting σ) : Result Bool × Detecting σ :=
  match ModbusOp.make .readHolding 0 2 none with
  | .error e => (.error e, s)
  | .ok op =>
    let r := world.wire .modbusBus address (.op op) s.world
    let answered : Result Bool :=
      match r.1 with
      | .ok _ => .ok true
      | .error e =>
        if e.kind.IsInstance .protocolUnsupported then .ok true
        else if e.IsWatlow then .ok false
        else .error e
    (answered, { s with world := r.2 })

/-- What both stages do behind their probe: hand the transport over, or note the attempt and close
the transport. -/
def settle (kind : ProtocolKind) (transport : Transport) (label silent : String)
    (x : Result Bool × Detecting σ) : Result (Option ResolvedProtocol) × Detecting σ :=
  match x with
  | (.ok true, s) => (.ok (some ⟨kind, ⟨kind, transport⟩, transport⟩), s)
  | (.ok false, s) => closing world transport (.ok none, s.attempt [.text label, .text silent])
  | (.error e, s) =>
    if e.IsWatlow then
      closing world transport (.ok none,
        s.attempt ([.text label, .text (className e.kind), .text ": "] ++ e.str))
    else closing world transport (.error e, s)

def skipped (label : String) (address lo hi : ℤ) : Message :=
  [.text label, .text "address ", .int address, .text " out of range (", .int lo, .text "..",
    .int hi, .text ") — skipped"]

def skip (label : String) (address lo hi : ℤ) (s : Detecting σ) :
    Result (Option ResolvedProtocol) × Detecting σ :=
  if WritesInt address then (.ok none, s.attempt (skipped label address lo hi))
  else (.error unwritable, s)

def tryStdbus (address : ℤ) (s : Detecting σ) :
    Result (Option ResolvedProtocol) × Detecting σ :=
  if 1 ≤ address ∧ address ≤ 16 then
    settle world .stdbus .serial "stdbus: " "no valid frame"
      (andThen (openTransport world .serial s) fun _ s =>
        andThen (drainInput world s) fun _ s => probeStdbus world address s)
  else skip "stdbus: " address 1 16 s

def tryModbus (address : ℤ) (s : Detecting σ) :
    Result (Option ResolvedProtocol) × Detecting σ :=
  if 1 ≤ address ∧ address ≤ 247 then
    settle world .modbusRtu .modbusBus "modbus: " "no reply"
      (andThen (openTransport world .modbusBus s) fun _ s => probeModbus world address s)
  else skip "modbus: " address 1 247 s

def summary (attempts : List Message) : Message :=
  if attempts = [] then [.text "no probes attempted"] else [Piece.text "; "].intercalate attempts

def detectionFailed (port : String) (address : ℤ) (attempts : List Message) : PyError :=
  ⟨.protocolUnsupported, [.text "auto-detect failed on ", .strRepr port, .text ": "] ++
    summary attempts, { port := some port, address := some address }⟩

def detectProtocol (port : String) (address : ℤ) (s : Detecting σ) :
    Result ResolvedProtocol × Detecting σ :=
  andThen (tryStdbus world address s) fun resolved s =>
    match resolved with
    | some r => (.ok r, s)
    | none =>
      andThen (tryModbus world address s) fun resolved s =>
        match resolved with
        | some r => (.ok r, s)
        | none => (.error (detectionFailed port address s.attempts), s)

end Stages

section Ledger

variable {σ : Type} (world : PortWorld σ)

/-- What a stage adds to the log, by how it ends. -/
inductive StageLog (kind : ProtocolKind) (transport : Transport) :
    Result (Option ResolvedProtocol) → List PortEvent → Prop where
  | skipped : StageLog kind transport (.ok none) []
  | refused (e : PyError) : StageLog kind transport (.error e) []
  | handedOver :
    StageLog kind transport (.ok (some ⟨kind, ⟨kind, transport⟩, transport⟩))
      [.opened transport none]
  | nothing (opening closing : Option PyError) :
    StageLog kind transport (.ok none) [.opened transport opening, .closed transport closing]
  | raised (opening closing : Option PyError) (e : PyError) :
    StageLog kind transport (.error e) [.opened transport opening, .closed transport closing]

theorem closing_log {α : Type} (transport : Transport) (x : Result α × Detecting σ) :
    ∃ error, (closing world transport x).2.log = x.2.log ++ [.closed transport error] ∧
      ((closing world transport x).1 = x.1 ∨ ∃ e, (closing world transport x).1 = .error e) := by
  simp only [closing]
  cases (world.closing transport x.2.world).1 with
  | none => exact ⟨none, rfl, Or.inl rfl⟩
  | some e =>
    refine ⟨some e, ?_⟩
    dsimp only
    by_cases he : e.IsWatlow
    · rw [if_pos he]
      exact ⟨rfl, Or.inl rfl⟩
    · rw [if_neg he]
      exact ⟨rfl, Or.inr ⟨e, rfl⟩⟩

theorem stageLog_closing {kind : ProtocolKind} {transport : Transport} {log : List PortEvent}
    {opening : Option PyError} {x : Result (Option ResolvedProtocol) × Detecting σ}
    (hlog : x.2.log = log ++ [.opened transport opening])
    (hx : x.1 = .ok none ∨ ∃ e, x.1 = .error e) :
    ∃ new, (closing world transport x).2.log = log ++ new ∧
      StageLog kind transport (closing world transport x).1 new := by
  obtain ⟨error, hclosed, hr⟩ := closing_log world transport x
  refine ⟨[.opened transport opening, .closed transport error], ?_, ?_⟩
  · rw [hclosed, hlog, List.append_assoc]
    rfl
  · rcases hr with hr | ⟨e, hr⟩
    · rcases hx with hx | ⟨e, hx⟩
      · rw [hr, hx]
        exact .nothing opening error
      · rw [hr, hx]
        exact .raised opening error e
    · rw [hr]
      exact .raised opening error e

/-- A stage's body opens its transport and confirms only over an open one. -/
def Opens (transport : Transport) (s : Detecting σ) (x : Result Bool × Detecting σ) : Prop :=
  ∃ opening, x.2.log = s.log ++ [.opened transport opening] ∧ (x.1 = .ok true → opening = none)

theorem openTransport_then {transport : Transport} {s : Detecting σ}
    {f : PUnit → Detecting σ → Result Bool × Detecting σ}
    (hf : ∀ t, (f ⟨⟩ t).2.log = t.log) :
    Opens transport s (andThen (openTransport world transport s) f) := by
  simp only [openTransport]
  cases (world.opening transport s.world).1 with
  | none => exact ⟨none, hf _, fun _ => rfl⟩
  | some e =>
    refine ⟨some e, rfl, ?_⟩
    intro h
    cases h

theorem drainInput_then {s : Detecting σ} {f : PUnit → Detecting σ → Result Bool × Detecting σ}
    (hf : ∀ t, (f ⟨⟩ t).2.log = t.log) :
    (andThen (drainInput world s) f).2.log = s.log := by
  simp only [drainInput]
  cases (world.draining s.world).1 with
  | none => exact hf _
  | some e => rfl

theorem probeStdbus_log (address : ℤ) (s : Detecting σ) :
    (probeStdbus world address s).2.log = s.log := by
  simp only [probeStdbus]
  split <;> rfl

theorem probeModbus_log (address : ℤ) (s : Detecting σ) :
    (probeModbus world address s).2.log = s.log := by
  simp only [probeModbus]
  split <;> rfl

theorem settle_log {kind : ProtocolKind} {transport : Transport} {label silent : String}
    {s : Detecting σ} {x : Result Bool × Detecting σ} (hx : Opens transport s x) :
    ∃ new, (settle world kind transport label silent x).2.log = s.log ++ new ∧
      StageLog kind transport (settle world kind transport label silent x).1 new := by
  obtain ⟨r, t⟩ := x
  obtain ⟨opening, hlog, hopen⟩ := hx
  cases r with
  | ok confirmed =>
    cases confirmed with
    | true =>
      rw [hopen rfl] at hlog
      exact ⟨[.opened transport none], hlog, .handedOver⟩
    | false => exact stageLog_closing world hlog (Or.inl rfl)
  | error e =>
    simp only [settle]
    split
    · exact stageLog_closing world hlog (Or.inl rfl)
    · exact stageLog_closing world hlog (Or.inr ⟨e, rfl⟩)

theorem skip_log {kind : ProtocolKind} {transport : Transport} (label : String)
    (address lo hi : ℤ) (s : Detecting σ) :
    ∃ new, (skip label address lo hi s).2.log = s.log ++ new ∧
      StageLog kind transport (skip label address lo hi s).1 new := by
  refine ⟨[], ?_⟩
  rw [List.append_nil, skip]
  split
  · exact ⟨rfl, .skipped⟩
  · exact ⟨rfl, .refused _⟩

theorem tryStdbus_log (address : ℤ) (s : Detecting σ) :
    ∃ new, (tryStdbus world address s).2.log = s.log ++ new ∧
      StageLog .stdbus .serial (tryStdbus world address s).1 new := by
  simp only [tryStdbus]
  split
  · refine settle_log world (openTransport_then world fun t => ?_)
    exact drainInput_then world fun t' => probeStdbus_log world address t'
  · exact skip_log "stdbus: " address 1 16 s

theorem tryModbus_log (address : ℤ) (s : Detecting σ) :
    ∃ new, (tryModbus world address s).2.log = s.log ++ new ∧
      StageLog .modbusRtu .modbusBus (tryModbus world address s).1 new := by
  simp only [tryModbus]
  split
  · exact settle_log world (openTransport_then world fun t => probeModbus_log world address t)
  · exact skip_log "modbus: " address 1 247 s

end Ledger

section AtMostOne

variable {log new : List PortEvent}

/-- A transport is opened only while none is open. -/
def OpensAlone (log : List PortEvent) : Prop :=
  ∀ before transport error, before ++ [.opened transport error] <+: log → openAfter before = ∅

theorem openAfter_snoc (event : PortEvent) :
    openAfter (log ++ [event]) = event.apply (openAfter log) := by
  simp [openAfter]

theorem opensAlone_nil : OpensAlone [] := by
  intro before transport error h
  simp at h

theorem OpensAlone.opened (h : OpensAlone log) (hnone : openAfter log = ∅) (transport : Transport)
    (error : Option PyError) : OpensAlone (log ++ [.opened transport error]) := by
  intro before t e hbefore
  rcases List.prefix_concat_iff.mp hbefore with heq | hbefore
  · rw [List.append_inj_left' heq rfl]
    exact hnone
  · exact h before t e hbefore

theorem OpensAlone.closed (h : OpensAlone log) (transport : Transport) (error : Option PyError) :
    OpensAlone (log ++ [.closed transport error]) := by
  intro before t e hbefore
  rcases List.prefix_concat_iff.mp hbefore with heq | hbefore
  · cases List.append_inj_right' heq rfl
  · exact h before t e hbefore

theorem OpensAlone.before (h : OpensAlone (log ++ new)) : OpensAlone log :=
  fun before transport error hbefore =>
    h before transport error (hbefore.trans (List.prefix_append log new))

theorem OpensAlone.card_le (h : OpensAlone log) : (openAfter log).card ≤ 1 := by
  induction log using List.reverseRecOn with
  | nil => simp [openAfter]
  | append_singleton log event ih =>
    rw [openAfter_snoc]
    cases event with
    | opened transport error =>
      rw [h log transport error (List.prefix_refl _)]
      cases error <;> simp [PortEvent.apply]
    | closed transport error =>
      exact (Finset.card_erase_le).trans (ih h.before)

def held : Result (Option ResolvedProtocol) → Finset Transport
  | .ok (some found) => {found.transport}
  | _ => ∅

theorem StageLog.extends {kind : ProtocolKind} {transport : Transport}
    {r : Result (Option ResolvedProtocol)} (h : StageLog kind transport r new)
    (halone : OpensAlone log) (hnone : openAfter log = ∅) :
    OpensAlone (log ++ new) ∧ openAfter (log ++ new) = held r := by
  have hopened : ∀ opening closing, OpensAlone
        (log ++ [.opened transport opening, .closed transport closing]) ∧
      openAfter (log ++ [.opened transport opening, .closed transport closing]) = ∅ := by
    intro opening closing
    rw [List.append_cons]
    refine ⟨(halone.opened hnone transport opening).closed transport closing, ?_⟩
    rw [openAfter_snoc, openAfter_snoc, hnone]
    cases opening <;> simp [PortEvent.apply]
  cases h with
  | skipped => exact ⟨(List.append_nil log).symm ▸ halone, (List.append_nil log).symm ▸ hnone⟩
  | refused e => exact ⟨(List.append_nil log).symm ▸ halone, (List.append_nil log).symm ▸ hnone⟩
  | handedOver =>
    refine ⟨halone.opened hnone transport none, ?_⟩
    rw [openAfter_snoc, hnone]
    simp [PortEvent.apply, held]
  | nothing opening closing => exact hopened opening closing
  | raised opening closing e => exact hopened opening closing

/-- At no moment are two transports open, and one is opened only while none is; a detection that
returns leaves exactly its transport open, one that raises leaves none. -/
structure HoldsOne (r : Result ResolvedProtocol) (log : List PortEvent) : Prop where
  one : ∀ before, before <+: log → (openAfter before).card ≤ 1
  alone : OpensAlone log
  returned : ∀ found, r = .ok found → openAfter log = {found.transport} ∧
    found.client = ⟨found.kind, found.transport⟩
  raised : ∀ e, r = .error e → openAfter log = ∅

theorem StageLog.client {kind : ProtocolKind} {transport : Transport} {found : ResolvedProtocol}
    (h : StageLog kind transport (.ok (some found)) new) :
    found.client = ⟨found.kind, found.transport⟩ := by
  cases h
  rfl

theorem holdsOne_of {r : Result ResolvedProtocol} {resolved : Result (Option ResolvedProtocol)}
    (halone : OpensAlone log) (hheld : openAfter log = held resolved)
    (hreturned : ∀ found, r = .ok found → resolved = .ok (some found) ∧
      found.client = ⟨found.kind, found.transport⟩)
    (hraised : ∀ e, r = .error e → held resolved = ∅) : HoldsOne r log := by
  refine ⟨?_, halone, ?_, fun e he => hheld.trans (hraised e he)⟩
  · rintro before ⟨after, rfl⟩
    exact halone.before.card_le
  · intro found hfound
    obtain ⟨hresolved, hclient⟩ := hreturned found hfound
    rw [hheld, hresolved]
    exact ⟨rfl, hclient⟩

/-- Whatever the port does, also where an error that is not the library's ends a step. -/
theorem detectProtocol_holdsOne {σ : Type} (world : PortWorld σ) (port : String) (address : ℤ)
    (start : σ) :
    HoldsOne (detectProtocol world port address ⟨start, [], []⟩).1
      (detectProtocol world port address ⟨start, [], []⟩).2.log := by
  obtain ⟨first, hfirst, hstd⟩ := tryStdbus_log world address ⟨start, [], []⟩
  obtain ⟨halone, hheld⟩ := hstd.extends opensAlone_nil rfl
  rw [← hfirst] at halone hheld
  simp only [detectProtocol]
  cases hx : tryStdbus world address ⟨start, [], []⟩ with
  | mk r t =>
    rw [hx] at hstd halone hheld
    cases r with
    | error e => exact holdsOne_of halone hheld (by simp) fun _ _ => rfl
    | ok resolved =>
      cases resolved with
      | some found =>
        refine holdsOne_of halone hheld ?_ (by simp)
        intro found' hfound
        cases hfound
        exact ⟨rfl, hstd.client⟩
      | none =>
        obtain ⟨second, hsecond, hmodbus⟩ := tryModbus_log world address t
        obtain ⟨halone', hheld'⟩ := hmodbus.extends halone hheld
        rw [← hsecond] at halone' hheld'
        simp only [andThen_ok]
        cases hy : tryModbus world address t with
        | mk r' t' =>
          rw [hy] at hmodbus halone' hheld'
          cases r' with
          | error e => exact holdsOne_of halone' hheld' (by simp) fun _ _ => rfl
          | ok resolved =>
            cases resolved with
            | none => exact holdsOne_of halone' hheld' (by simp) fun _ _ => rfl
            | some found =>
              refine holdsOne_of halone' hheld' ?_ (by simp)
              intro found' hfound
              cases hfound
              exact ⟨rfl, hmodbus.client⟩

end AtMostOne

end ProtocolDetection
