import Watlowlib.ParameterPanels

/-! # The panel over Modbus

A device that holds words in its registers, some of them absent, and the session on this side: a run
of calls is one of the panel, as long as no two rows share a register. -/
namespace ModbusPanels

open AvailabilityTable CodecRoundTrips Dialogues EncoderContracts EncodingChecks ExceptRules
  ModbusClient ModbusCodec ModbusOps ParameterCommands ParameterPanels ParameterStores
  ProtocolAgreement PythonNumbers PythonValues RegisterCodec RegisterFiles Registry SafetyGate
  SessionExecute SessionInterleaving StdBusTlv WatlowErrors

abbrev Bank := ℤ → Option UInt16

def illegalAddress : Fault :=
  .upstream ⟨[.text "illegal data address"], [.illegalDataAddress, .modbus], false, nofun⟩

def readWords (bank : Bank) (address : ℤ) (count : ℕ) : Except Fault Words :=
  match load bank address count with
  | some words => .ok words
  | none => .error illegalAddress

def writeWords (bank : Bank) (address : ℤ) (words : Words) : Except Fault PUnit :=
  match load bank address words.length with
  | some _ => .ok ⟨⟩
  | none => .error illegalAddress

def bankSlave (bank : Bank) : Slave where
  readHoldingRegisters := readWords bank
  readInputRegisters := readWords bank
  writeRegister address word := writeWords bank address [word]
  writeRegisters := writeWords bank

def commit (bank : Bank) (op : ModbusOp) : Bank :=
  if op.fn.Writes then
    match load bank op.address (op.values.getD []).length with
    | some _ => store bank op.address (op.values.getD [])
    | none => bank
  else bank

structure Side where
  session : Session
  bank : Bank

section Handlers

variable (lib : AnyModbus) (timeout : Option PyFloat)

def busClient (st : Side) : ModbusProtocolClient where
  disposed := false
  port := st.session.port
  slaveProvider _ := .ok (bankSlave st.bank)

def sideHandler : Handler Call Outcome Empty Side where
  ask c st :=
    let x := c.invocation.execute lib st.session c.confirm
      (modbusWire (busClient st) st.session.address timeout (commandName lib c))
    (outcomeOf x.response,
      match x.emitted with
      | some (.op op) => ⟨x.after, commit st.bank op⟩
      | _ => { st with session := x.after })
  tell n _ := nomatch n

end Handlers

/-- The registers of a row hold a parameter as the panel has it. -/
inductive Keeps (lib : AnyModbus) (spec : ParameterSpec) :
    Option PyValue → Option Words → Prop where
  | absent : Keeps lib spec none none
  | held {v words encoding} (hencoding : specEncoding lib spec = .ok encoding)
      (hwords : decodeWords lib words spec.dataType encoding = .ok v) :
      Keeps lib spec (some v) (some words)

variable {lib : AnyModbus} {registry : ParameterRegistry} {rows : Rows lib registry}
  {spec : ParameterSpec} {v : PyValue} {words : Words} {encoding : ModbusEncoding} {bank : Bank}
  {p : Panel} {st : Side} {c : Call} {op : ModbusOp}

theorem keeps_store (hspec : rows.Mem spec) (hencoding : specEncoding lib spec = .ok encoding)
    (hwords : decodeWords lib words spec.dataType encoding = .ok v)
    (hlen : words.length = effectiveCount spec)
    (h : ∀ spec', rows.Mem spec' → Keeps lib spec' (p.values spec'.parameterId)
      (load bank spec'.relativeAddr (effectiveCount spec'))) :
    ∀ spec', rows.Mem spec' → Keeps lib spec'
      ((p.keep spec.parameterId v).values spec'.parameterId)
      (load (store bank spec.relativeAddr words) spec'.relativeAddr (effectiveCount spec')) := by
  intro spec' hspec'
  by_cases hid : spec'.parameterId = spec.parameterId
  · have hsame : spec' = spec := rows.eq_of_id hspec' hspec hid
    subst hsame
    simp only [Panel.keep, Function.update_self]
    rw [← hlen, load_store]
    exact .held hencoding hwords
  · have hvalues : (p.keep spec.parameterId v).values spec'.parameterId =
        p.values spec'.parameterId := Function.update_of_ne hid _ _
    have hapart := rows.apart spec' spec hspec' hspec hid
    rw [← hlen] at hapart
    rw [hvalues, load_store_apart hapart]
    exact h spec' hspec'

/-! ## One call -/

theorem exchange_eq (op : ModbusOp) (timeout : Option PyFloat) (name : String)
    (haddress : 1 ≤ st.session.address ∧ st.session.address ≤ 247) :
    modbusWire (busClient st) st.session.address timeout name (.op op) =
      match dispatch (bankSlave st.bank) op with
      | .ok words => .ok (.words words)
      | .error fault =>
        .error (dispatchError op st.session.address (timeout.getD ioTimeout)
          (callContext (busClient st) name op st.session.address) fault) := by
  have hin : ¬ (st.session.address < 1 ∨ 247 < st.session.address) := by omega
  have hlive : ¬ (busClient st).disposed = true := Bool.false_ne_true
  have hslave : (busClient st).slaveProvider st.session.address = .ok (bankSlave st.bank) := rfl
  simp only [modbusWire, ModbusClient.execute, if_neg hin, if_neg hlive, hslave]
  cases dispatch (bankSlave st.bank) op with
  | error fault => rfl
  | ok words => rfl

theorem dispatch_read (h : op.fn = .readHolding) :
    dispatch (bankSlave bank) op = readWords bank op.address op.count := by
  simp only [dispatch, h]
  rfl

theorem dispatch_write (h : op.fn.Writes) (hvalues : op.values = some words)
    (hlen : words.length = op.count) :
    dispatch (bankSlave bank) op =
      match load bank op.address words.length with
      | some _ => .ok []
      | none => .error illegalAddress := by
  rcases h with h | h
  · have hone : words.length = 1 := by
      have hcount := (checkOp_ok_iff.mp op.checked).2.1
      rw [h] at hcount
      exact hlen.trans (require_ok_iff.mp hcount)
    obtain ⟨w, rfl⟩ := List.length_eq_one_iff.mp hone
    simp only [dispatch, h, hvalues, bankSlave, writeWords, Option.getD_some, List.headD_cons]
    cases load bank op.address [w].length with
    | some old => rfl
    | none => rfl
  · simp only [dispatch, h, hvalues, bankSlave, writeWords, Option.getD_some]
    cases load bank op.address words.length with
    | some old => rfl
    | none => rfl

theorem selectVariant_modbus {Req Resp : Type} [Targeted Req] {command : Command Req Resp}
    {request : Req} {variant : ModbusVariant Req Resp} {s : Session} (hkind : s.kind = .modbusRtu)
    (hv : command.modbus = some variant) :
    selectVariant s command request = .ok (.modbus variant) := by
  simp only [selectVariant, hkind, hv]

/-- The operation of a call of a row: a read of its window, or a write of words that are decoded to
the value. -/
structure Lowers (lib : AnyModbus) (spec : ParameterSpec) (c : Call) (op : ModbusOp) : Prop where
  address : op.address = spec.relativeAddr
  count : op.count = effectiveCount spec
  read : c.written = none → op.fn = .readHolding
  write : ∀ value ∈ c.written, op.fn.Writes ∧ ∃ words encoding, op.values = some words ∧
    words.length = effectiveCount spec ∧ specEncoding lib spec = .ok encoding ∧
    decodeWords lib words spec.dataType encoding = .ok value

theorem readModbus_encoded {s : Session} {request : ReadParameterRequest} {confirm : Bool}
    (h : Follows registry .modbusRtu p s) (hcarried : Carried lib registry spec)
    (hinstance : request.instanceNo = spec.defaultInstance)
    (hgate : gate registry ⟨.read request, confirm⟩ = .ok spec) :
    ∃ op, readModbusEncode lib s.context request = .ok op ∧
      Lowers lib spec ⟨.read request, confirm⟩ op := by
  have hrequested := (requested_context h).mpr (gate_ok_iff.mp hgate).1
  have hcount : effectiveCount spec ≤ 125 := hcarried.registers.2.1.trans (by decide)
  obtain ⟨op, hop⟩ := readModbus_accepts_iff.mpr
    ⟨spec, hrequested, hinstance, hcarried.encoding, hcarried.registers.1, hcount⟩
  obtain ⟨spec', hrequested', -, haddress, hcount', hfn⟩ := readModbus_ok hop
  cases hrequested.resolved.symm.trans hrequested'.resolved
  exact ⟨op, hop, haddress, hcount', fun _ => hfn, nofun⟩

theorem writeFn_writes (encoding : ModbusEncoding) : (writeFn encoding).Writes := by
  by_cases hone : encoding.registerCount = 1
  · exact Or.inl (if_pos hone)
  · exact Or.inr (if_neg hone)

theorem writeModbus_encoded (hlib : Lawful lib) {s : Session} {request : WriteParameterRequest}
    {confirm : Bool} (h : Follows registry .modbusRtu p s) (hcarried : Carried lib registry spec)
    (hinstance : request.instanceNo = spec.defaultInstance) (hfits : Fits spec request.value)
    (hgate : gate registry ⟨.write request, confirm⟩ = .ok spec) :
    ∃ op, writeModbusEncode lib s.context request = .ok op ∧
      Lowers lib spec ⟨.write request, confirm⟩ op := by
  obtain ⟨hrequested, hchecked⟩ := gate_ok_iff.mp hgate
  obtain ⟨hwritable, hpasses⟩ := hchecked request.value rfl
  obtain ⟨encoding, hencoding⟩ := hcarried.encoding
  obtain ⟨order, rfl⟩ := encodingFor_row hencoding
  obtain ⟨words, hwords, hdecode⟩ := words_round_trip hlib order hfits.1 hfits.2
  have hcheck := (writeOp_fits_iff hencoding hwords).mpr hcarried.registers
  obtain ⟨op, hop⟩ := make_accepts_iff.mpr hcheck
  obtain ⟨hfn, haddress, hcount, hvalues⟩ := make_ok_iff.mp hop
  have hlen : words.length = effectiveCount spec :=
    ((writeOp_check_iff (effectiveCount_pos spec)).mp hcheck).2.2
  have hencode : writeModbusEncode lib s.context request = .ok op := by
    refine bind_ok_iff.mpr
      ⟨spec, resolveRequest_ok_iff.mpr ((requested_context h).mpr hrequested), ?_⟩
    refine bind_ok_iff.mpr ⟨⟨⟩, validateWritable_ok_iff.mpr hwritable, ?_⟩
    refine bind_ok_iff.mpr ⟨⟨⟩, validateValue_ok_iff.mpr hpasses, ?_⟩
    refine bind_ok_iff.mpr ⟨_, hencoding, ?_⟩
    refine bind_ok_iff.mpr ⟨_, modbusRegisterAddress_ok_iff.mpr ⟨hinstance, rfl⟩, ?_⟩
    refine bind_ok_iff.mpr ⟨_, wireValue_of_one hcarried.scale, ?_⟩
    exact bind_ok_iff.mpr ⟨words, wireWords_ok_iff.mpr hwords, hop⟩
  have hwrites : op.fn.Writes := by
    rw [hfn]
    exact writeFn_writes _
  refine ⟨op, hencode, haddress, hcount, nofun, ?_⟩
  intro value hvalue
  cases hvalue
  exact ⟨hwrites, words, _, hvalues, hlen, hencoding, hdecode⟩

/-- The session and the registers are in the state of the panel. -/
structure Shows (rows : Rows lib registry) (p : Panel) (st : Side) : Prop where
  follows : Follows registry .modbusRtu p st.session
  address : 1 ≤ st.session.address ∧ st.session.address ≤ 247
  bank : ∀ spec, rows.Mem spec → Keeps lib spec (p.values spec.parameterId)
    (load st.bank spec.relativeAddr (effectiveCount spec))

section Answers

variable {d : Dispatch ParameterEntry} (timeout : Option PyFloat)

theorem ask_prepared (hprepared : prepareCall lib st.session c.confirm c.invocation = .ok d)
    (hwire : d.wire = .op op) :
    (sideHandler lib timeout).ask c st =
      let outcome := modbusWire (busClient st) st.session.address timeout (commandName lib c)
        (.op op)
      (outcomeOf (finish st.session d outcome).1,
        ⟨(finish st.session d outcome).2, commit st.bank op⟩) := by
  simp only [sideHandler, execute_prepared hprepared, hwire]

theorem ask_absent (h : Shows rows p st) (hlowers : Lowers lib spec c op)
    (hprepared : prepareCall lib st.session c.confirm c.invocation = .ok d)
    (hkey : d.key = callKey lib registry c) (hwire : d.wire = .op op)
    (habsent : load st.bank spec.relativeAddr (effectiveCount spec) = none) :
    ((sideHandler lib timeout).ask c st).1 = none ∧
      Shows rows (p.mark (callKey lib registry c) .unsupported)
        ((sideHandler lib timeout).ask c st).2 := by
  rw [← hlowers.address] at habsent
  have hboth : dispatch (bankSlave st.bank) op = .error illegalAddress ∧
      commit st.bank op = st.bank := by
    cases hwritten : c.written with
    | none =>
      have hfn := hlowers.read hwritten
      rw [dispatch_read hfn, readWords, hlowers.count, habsent, commit, hfn]
      exact ⟨rfl, if_neg (by decide)⟩
    | some value =>
      obtain ⟨hwrites, words, encoding, hvalues, hlen, -⟩ := hlowers.write value hwritten
      rw [dispatch_write hwrites hvalues (hlen.trans hlowers.count.symm), hlen, habsent, commit,
        if_pos hwrites, hvalues, Option.getD_some, hlen, habsent]
      exact ⟨rfl, rfl⟩
  have hmarks : Marks d (modbusWire (busClient st) st.session.address timeout (commandName lib c)
      (.op op)) := by
    rw [exchange_eq _ timeout _ h.address, hboth.1]
    exact (dispatchError_rejects_iff ..).mpr ⟨.illegalDataAddress, by decide, by decide⟩
  obtain ⟨houtcome, hfollows⟩ := finish_refused h.follows hmarks
  rw [hkey] at hfollows
  rw [ask_prepared timeout hprepared hwire]
  refine ⟨houtcome, hfollows, ?_, ?_⟩
  · rw [(finish_sameDevice ..).address]
    exact h.address
  · simp only [hboth.2]
    exact h.bank

theorem ask_taken {bank : Bank} (h : Shows rows p st)
    (hprepared : prepareCall lib st.session c.confirm c.invocation = .ok d)
    (hkey : d.key = callKey lib registry c) (hwire : d.wire = .op op)
    (hdispatch : dispatch (bankSlave st.bank) op = .ok words) (hcommit : commit st.bank op = bank)
    {raw : Bytes} (hdecode : d.decode (.words words) = .ok ⟨spec, c.instanceNo, v, raw⟩)
    (hkeeps : ∀ spec', rows.Mem spec' → Keeps lib spec'
      ((p.keep spec.parameterId v).values spec'.parameterId)
      (load bank spec'.relativeAddr (effectiveCount spec'))) :
    ((sideHandler lib timeout).ask c st).1 = some ((spec.parameterId, c.instanceNo), v) ∧
      Shows rows ((p.mark (callKey lib registry c) .supported).keep spec.parameterId v)
        ((sideHandler lib timeout).ask c st).2 := by
  obtain ⟨houtcome, hfollows⟩ := finish_answered h.follows hdecode
  rw [hkey] at hfollows
  have hexchange := exchange_eq op timeout (commandName lib c) h.address
  rw [hdispatch] at hexchange
  rw [ask_prepared timeout hprepared hwire, hexchange, hcommit]
  refine ⟨houtcome, hfollows.keep _ _, ?_, hkeeps⟩
  rw [(finish_sameDevice ..).address]
  exact h.address

theorem ask_read {request : ReadParameterRequest} {confirm : Bool} (h : Shows rows p st)
    (hspec : rows.Mem spec) (hinstance : request.instanceNo = spec.defaultInstance)
    (hadmits : p.Admits lib registry ⟨.read request, confirm⟩)
    (hgate : gate registry ⟨.read request, confirm⟩ = .ok spec) :
    ((sideHandler lib timeout).ask ⟨.read request, confirm⟩ st).1 =
        (p.ask lib registry ⟨.read request, confirm⟩).1 ∧
      Shows rows (p.ask lib registry ⟨.read request, confirm⟩).2
        ((sideHandler lib timeout).ask ⟨.read request, confirm⟩ st).2 := by
  have hcarried := rows.carried spec hspec
  obtain ⟨op, hop, hlowers⟩ := readModbus_encoded h.follows hcarried hinstance hgate
  have hprepared := prepared_read h.follows hadmits
    (selectVariant_modbus h.follows.kind rfl) (bind_ok_iff.mpr ⟨_, hop, rfl⟩) hcarried hgate
  have hrequested := (requested_context h.follows).mpr (gate_ok_iff.mp hgate).1
  have hheld := h.bank spec hspec
  rw [ask_admitted hadmits hgate]
  generalize hvalue : p.values spec.parameterId = value at hheld
  generalize hload : load st.bank spec.relativeAddr (effectiveCount spec) = window at hheld
  cases hheld with
  | absent => exact ask_absent timeout h hlowers hprepared rfl rfl hload
  | @held v words encoding hencoding hwords =>
    have hfn := hlowers.read rfl
    have hdispatch : dispatch (bankSlave st.bank) op = .ok words := by
      rw [dispatch_read hfn, readWords, hlowers.address, hlowers.count, hload]
    have hcommit : commit st.bank op = st.bank := by
      rw [commit, hfn]
      exact if_neg (by decide)
    have hdecode : readModbusDecode lib words st.session.context request =
        .ok ⟨spec, request.instanceNo, v, wordBytes words⟩ := by
      refine bind_ok_iff.mpr ⟨spec, resolveRequest_ok_iff.mpr hrequested, ?_⟩
      refine bind_ok_iff.mpr ⟨encoding, hencoding, ?_⟩
      simp only [hwords, scaleValue_of_one hcarried.scale, ok_bind]
    have hkeeps := h.bank
    rw [← Panel.keep_held hvalue] at hkeeps
    exact ask_taken timeout h hprepared rfl rfl hdispatch hcommit hdecode hkeeps

theorem ask_write (hlib : Lawful lib) {request : WriteParameterRequest} {confirm : Bool}
    (h : Shows rows p st) (hspec : rows.Mem spec)
    (hinstance : request.instanceNo = spec.defaultInstance) (hfits : Fits spec request.value)
    (hadmits : p.Admits lib registry ⟨.write request, confirm⟩)
    (hgate : gate registry ⟨.write request, confirm⟩ = .ok spec) :
    ((sideHandler lib timeout).ask ⟨.write request, confirm⟩ st).1 =
        (p.ask lib registry ⟨.write request, confirm⟩).1 ∧
      Shows rows (p.ask lib registry ⟨.write request, confirm⟩).2
        ((sideHandler lib timeout).ask ⟨.write request, confirm⟩ st).2 := by
  have hcarried := rows.carried spec hspec
  obtain ⟨op, hop, hlowers⟩ := writeModbus_encoded hlib h.follows hcarried hinstance hfits hgate
  have hprepared := prepared_write h.follows hadmits
    (selectVariant_modbus h.follows.kind rfl) (bind_ok_iff.mpr ⟨_, hop, rfl⟩) hcarried hgate
  have hrequested := (requested_context h.follows).mpr (gate_ok_iff.mp hgate).1
  obtain ⟨hwrites, words, encoding, hvalues, hlen, hencoding, hwords⟩ :=
    hlowers.write request.value rfl
  have hheld := h.bank spec hspec
  rw [ask_admitted hadmits hgate]
  generalize p.values spec.parameterId = value at hheld
  generalize hload : load st.bank spec.relativeAddr (effectiveCount spec) = window at hheld
  cases hheld with
  | absent => exact ask_absent timeout h hlowers hprepared rfl rfl hload
  | held =>
    have hdispatch : dispatch (bankSlave st.bank) op = .ok [] := by
      rw [dispatch_write hwrites hvalues (hlen.trans hlowers.count.symm), hlowers.address, hlen,
        hload]
    have hcommit : commit st.bank op = store st.bank spec.relativeAddr words := by
      rw [commit, if_pos hwrites, hvalues, Option.getD_some, hlowers.address, hlen, hload]
    have hdecode : writeModbusDecode [] st.session.context request =
        .ok ⟨spec, request.instanceNo, request.value, []⟩ :=
      bind_ok_iff.mpr ⟨spec, resolveRequest_ok_iff.mpr hrequested, rfl⟩
    exact ask_taken timeout h hprepared rfl rfl hdispatch hcommit hdecode
      (keeps_store hspec hencoding hwords hlen h.bank)

theorem ask_shows (hlib : Lawful lib) (hagreed : Agreed rows c) (h : Shows rows p st) :
    ((sideHandler lib timeout).ask c st).1 = (p.ask lib registry c).1 ∧
      Shows rows (p.ask lib registry c).2 ((sideHandler lib timeout).ask c st).2 := by
  by_cases hpasses : p.Admits lib registry c ∧ ∃ spec, gate registry c = .ok spec
  · obtain ⟨hadmits, spec, hgate⟩ := hpasses
    obtain ⟨hspec, hinstance, hfits⟩ := hagreed spec (gate_ok_iff.mp hgate).1.resolved
    obtain ⟨invocation, confirm⟩ := c
    cases invocation with
    | read request => exact ask_read timeout h hspec hinstance hadmits hgate
    | write request =>
      exact ask_write timeout hlib h hspec hinstance (hfits request.value rfl) hadmits hgate
  · rw [ask_refused fun spec hadmits hgate => hpasses ⟨hadmits, spec, hgate⟩]
    cases hprepared : prepareCall lib st.session c.confirm c.invocation with
    | ok d => exact absurd (prepared_admits h.follows hprepared) hpasses
    | error e =>
      simp only [sideHandler, execute_refused hprepared]
      exact ⟨rfl, h⟩

end Answers

end ModbusPanels
