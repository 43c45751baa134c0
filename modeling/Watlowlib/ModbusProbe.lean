import Watlowlib.ModbusClient
import Watlowlib.ProtocolDetection

/-! # What the Modbus probe accepts

The probe decides on the errors of the client, which are the exceptions of the Modbus library
remapped. Of the exception responses of a device only two codes come through as "unsupported". -/
namespace ModbusProbe

open Discovery DiscoveryScan ExceptRules ModbusClient ModbusOps ProtocolDetection PythonValues
  SessionExecute WatlowErrors

/-- What the bus brings back for the probe read. -/
inductive ProbeReply where
  | registers (words : Words)
  | exceptionResponse (code : UInt8)
  | noReply
  | malformed
  | lost
  deriving DecidableEq, Repr

/-- A response of a device that speaks Modbus, its checksum valid. -/
def ProbeReply.Speaks : ProbeReply → Prop
  | .registers _ => True
  | .exceptionResponse _ => True
  | _ => False

instance : (reply : ProbeReply) → Decidable reply.Speaks
  | .registers _ => isTrue trivial
  | .exceptionResponse _ => isTrue trivial
  | .noReply => isFalse id
  | .malformed => isFalse id
  | .lost => isFalse id

/-- The class that the library documents for each exception code. -/
def exceptionClass (code : UInt8) : ModbusClass :=
  if code = 0x01 then .illegalFunction
  else if code = 0x02 then .illegalDataAddress
  else if code = 0x03 then .illegalDataValue
  else if code = 0x04 then .slaveDeviceFailure
  else if code = 0x05 then .acknowledge
  else if code = 0x06 then .slaveDeviceBusy
  else if code = 0x08 then .memoryParity
  else if code = 0x0A then .gatewayPathUnavailable
  else if code = 0x0B then .gatewayTargetFailed
  else .unknownException

/-- `exc` is of `cls`, and of no class beside it and the common base. -/
def OfClass (exc : UpstreamError) (cls : ModbusClass) : Prop :=
  ∀ c, exc.IsInstance c ↔ c = cls ∨ c = .modbus

/-- How the library lets the read end for each reply. -/
inductive Documented : ProbeReply → Except Fault Words → Prop where
  | registers (words : Words) : Documented (.registers words) (.ok words)
  | exceptionResponse (code : UInt8) (exc : UpstreamError)
      (hclass : OfClass exc (exceptionClass code)) (hbuiltin : exc.builtinTimeout = false) :
      Documented (.exceptionResponse code) (.error (.upstream exc))
  | expired : Documented .noReply (.error .expired)
  | frameTimeout (exc : UpstreamError) (hclass : OfClass exc .frameTimeout) :
      Documented .noReply (.error (.upstream exc))
  | malformed (exc : UpstreamError) (cls : ModbusClass)
      (hcls : cls = .crc ∨ cls = .frame ∨ cls = .unexpectedResponse) (hclass : OfClass exc cls) :
      Documented .malformed (.error (.upstream exc))
  | lost (exc : UpstreamError) (cls : ModbusClass)
      (hcls : cls = .busClosed ∨ cls = .connectionLost) (hclass : OfClass exc cls) :
      Documented .lost (.error (.upstream exc))

section Client

variable {σ : Type} (world : PortWorld σ) (client : ModbusProtocolClient)
  (timeout : Option PyFloat) (address : ℤ) (slave : Slave)

/-- The probe's read reaches the bus: through a live client, at an address of the bus. -/
structure OnBus : Prop where
  live : client.disposed = false
  addressed : 1 ≤ address ∧ address ≤ 247
  provided : client.slaveProvider address = .ok slave
  wired : ∀ op s, (world.wire .modbusBus address (.op op) s).1 =
    (ModbusClient.execute client op address timeout "auto_detect:modbus").map .words

variable {world client timeout address slave}

def probeOp : ModbusOp := ⟨.readHolding, 0, 2, none, rfl⟩

theorem make_probeOp : ModbusOp.make .readHolding 0 2 none = .ok probeOp := rfl

theorem execute_onBus (h : OnBus world client timeout address slave) :
    ∃ context, ModbusClient.execute client probeOp address timeout "auto_detect:modbus" =
      match slave.readHoldingRegisters 0 2 with
      | .error fault =>
        .error (dispatchError probeOp address (timeout.getD ioTimeout) context fault)
      | .ok words => .ok words := by
  refine ⟨callContext client "auto_detect:modbus" probeOp address, ?_⟩
  have haddr : ¬ (address < 1 ∨ 247 < address) := by
    have := h.addressed
    omega
  simp only [ModbusClient.execute]
  rw [if_neg haddr, h.live, h.provided]
  rfl

def onError (e : PyError) : Result Bool :=
  if e.kind.IsInstance .protocolUnsupported then .ok true
  else if e.IsWatlow then .ok false
  else .error e

theorem probeModbus_onBus (h : OnBus world client timeout address slave) (s : Detecting σ) :
    ∃ context, (probeModbus world address s).1 =
      match slave.readHoldingRegisters 0 2 with
      | .ok _ => .ok true
      | .error fault =>
        onError (dispatchError probeOp address (timeout.getD ioTimeout) context fault) := by
  obtain ⟨context, hexec⟩ := execute_onBus h
  refine ⟨context, ?_⟩
  simp only [probeModbus]
  rw [make_probeOp]
  simp only
  rw [h.wired, hexec]
  cases slave.readHoldingRegisters 0 2 with
  | error fault => rfl
  | ok words => rfl

end Client

section Verdicts

variable {exc : UpstreamError} {cls : ModbusClass}

theorem refuses_iff (h : OfClass exc cls) : (∃ c ∈ exc.classes, c.Refuses) ↔ cls.Refuses := by
  constructor
  · rintro ⟨c, hc, hr⟩
    rcases (h c).mp hc with rfl | rfl
    · exact hr
    · exact absurd hr (by decide)
  · intro hr
    exact ⟨cls, (h cls).mpr (Or.inl rfl), hr⟩

theorem remapped_isWatlow (exc : UpstreamError) (context : ErrorContext) :
    (remapModbusException exc context).IsWatlow := by
  have hall : ∀ kind ∈ remappedKinds, kind.IsWatlow := by decide
  exact hall _ (remapKind_mem exc)

theorem onError_upstream (h : OfClass exc cls) (op : ModbusOp) (address : ℤ) (bound : PyFloat)
    (context : ErrorContext) :
    onError (dispatchError op address bound context (.upstream exc)) =
      .ok (decide cls.Refuses) := by
  simp only [dispatchError]
  by_cases hb : exc.builtinTimeout = true
  · have hn : ¬ cls.Refuses := exc.answered hb cls ((h cls).mpr (Or.inl rfl))
    rw [if_pos hb, decide_eq_false hn]
    rfl
  · rw [if_neg hb]
    by_cases hr : cls.Refuses
    · have hk := (remapKind_unsupported_iff exc).mpr ((refuses_iff h).mpr hr)
      rw [decide_eq_true hr]
      exact if_pos hk
    · have hk : ¬ (remapModbusException exc context).kind.IsInstance .protocolUnsupported :=
        fun hk => hr ((refuses_iff h).mp ((remapKind_unsupported_iff exc).mp hk))
      rw [decide_eq_false hr]
      exact (if_neg hk).trans (if_pos (remapped_isWatlow exc context))

theorem exceptionClass_refuses_iff (code : UInt8) :
    (exceptionClass code).Refuses ↔ code = 0x01 ∨ code = 0x02 := by
  simp only [exceptionClass]
  by_cases h1 : code = 0x01
  · simp [h1, ModbusClass.Refuses]
  by_cases h2 : code = 0x02
  · simp [h2, ModbusClass.Refuses]
  simp only [h1, h2, if_false, or_false, iff_false]
  split_ifs <;> decide

end Verdicts

/-- The probe tells a Modbus speaker from the rest exactly where the reply is not an exception
response of another code than "illegal function" and "illegal data address". -/
theorem probe_accepts_speakers_iff {σ : Type} (world : PortWorld σ)
    (client : ModbusProtocolClient) (timeout : Option PyFloat) (address : ℤ) (slave : Slave)
    (reply : ProbeReply) (s : Detecting σ) (hbus : OnBus world client timeout address slave)
    (hreply : Documented reply (slave.readHoldingRegisters 0 2)) :
    (probeModbus world address s).1 = .ok (decide reply.Speaks) ↔
      ∀ code, reply = .exceptionResponse code → code = 0x01 ∨ code = 0x02 := by
  obtain ⟨context, hprobe⟩ := probeModbus_onBus hbus s
  generalize slave.readHoldingRegisters 0 2 = answer at hprobe hreply
  rw [hprobe]
  have hsilent : ∀ other : ProbeReply, ¬ other.Speaks →
      ∀ code, other = .exceptionResponse code → code = 0x01 ∨ code = 0x02 := by
    rintro _ hn code rfl
    exact absurd trivial hn
  cases hreply with
  | registers words =>
    refine iff_of_true rfl ?_
    rintro code h
    cases h
  | exceptionResponse code exc hclass hbuiltin =>
    simp only [onError_upstream hclass]
    rw [decide_eq_true (show (ProbeReply.exceptionResponse code).Speaks from trivial)]
    simp only [Except.ok.injEq, decide_eq_true_eq, exceptionClass_refuses_iff,
      ProbeReply.exceptionResponse.injEq, forall_eq']
  | expired => exact iff_of_true rfl (hsilent _ id)
  | frameTimeout exc hclass =>
    refine iff_of_true ?_ (hsilent _ id)
    simp only [onError_upstream hclass]
    decide
  | malformed exc cls hcls hclass =>
    refine iff_of_true ?_ (hsilent _ id)
    simp only [onError_upstream hclass]
    rcases hcls with rfl | rfl | rfl <;> decide
  | lost exc cls hcls hclass =>
    refine iff_of_true ?_ (hsilent _ id)
    simp only [onError_upstream hclass]
    rcases hcls with rfl | rfl <;> decide

def respondingSlave (code : UInt8) : Slave where
  readHoldingRegisters _ _ :=
    .error (.upstream ⟨[.text "exception response"], [exceptionClass code, .modbus], false,
      fun h => absurd h (by decide)⟩)
  readInputRegisters _ _ := .ok []
  writeRegister _ _ := .ok ⟨⟩
  writeRegisters _ _ := .ok ⟨⟩

def respondingClient (code : UInt8) : ModbusProtocolClient :=
  ⟨false, "COM3", fun _ => .ok (respondingSlave code)⟩

def respondingWorld (code : UInt8) : PortWorld PUnit where
  opening _ s := (none, s)
  draining s := (none, s)
  wire _ address request s :=
    match request with
    | .op op =>
      ((ModbusClient.execute (respondingClient code) op address none "auto_detect:modbus").map
        .words, s)
    | .payload _ => (raise .attributeError [.text "payload on a Modbus bus"], s)
  closing _ s := (none, s)

theorem responding_onBus (code : UInt8) :
    OnBus (respondingWorld code) (respondingClient code) none 1 (respondingSlave code) :=
  ⟨rfl, by decide, rfl, fun _ _ => rfl⟩

theorem responding_documented (code : UInt8) :
    Documented (.exceptionResponse code)
      ((respondingSlave code).readHoldingRegisters 0 2) := by
  refine .exceptionResponse code _ (fun c => ?_) rfl
  simp [UpstreamError.IsInstance]

/-- A device failure is reported with a valid checksum, and the probe denies the protocol. -/
theorem slaveFailure_denied :
    (probeModbus (respondingWorld 0x04) 1 ⟨⟨⟩, [], []⟩).1 = .ok false ∧
      ¬ (probeModbus (respondingWorld 0x04) 1 ⟨⟨⟩, [], []⟩).1 =
        .ok (decide (ProbeReply.exceptionResponse 0x04).Speaks) := by
  have hrun : (probeModbus (respondingWorld 0x04) 1 ⟨⟨⟩, [], []⟩).1 = .ok false := by
    decide +kernel
  refine ⟨hrun, ?_⟩
  rw [hrun]
  decide

theorem illegalAddress_accepted :
    (probeModbus (respondingWorld 0x02) 1 ⟨⟨⟩, [], []⟩).1 =
      .ok (decide (ProbeReply.exceptionResponse 0x02).Speaks) :=
  (probe_accepts_speakers_iff (respondingWorld 0x02) (respondingClient 0x02) none 1
    (respondingSlave 0x02) (.exceptionResponse 0x02) ⟨⟨⟩, [], []⟩ (responding_onBus 0x02)
    (responding_documented 0x02)).mpr fun code h => by cases h; exact Or.inr rfl

end ModbusProbe
