import Watlowlib.ParameterPanels
import Watlowlib.SessionLinearizability

/-! # The panel over the Standard Bus

A device that holds typed bytes under its selectors, the line to it, and the session on this side:
byte by byte, a run of calls is one of the panel. -/
namespace StdBusPanels

open AvailabilityTable CodecRoundTrips Dialogues EncoderContracts EncodingChecks ExceptRules
  ModbusCodec ParameterCommands ParameterPanels ParameterStores PayloadGrammar ProtocolAgreement
  PythonNumbers PythonValues Registry SafetyGate SerialTransport SessionExecute SessionInterleaving
  SessionLinearizability StdBusClient StdBusFraming StdBusPayload StdBusTlv WatlowErrors

open StdBusPairing (Sent addrToMac_of_range encodeFrame_of_fits)

/-- Class, member and instance. -/
abbrev Selector := UInt8 × UInt8 × UInt8

def selectorOf (spec : ParameterSpec) : Selector :=
  (UInt8.ofNat (spec.parameterId / 1000).toNat, UInt8.ofNat (spec.parameterId % 1000).toNat,
    UInt8.ofNat spec.defaultInstance.toNat)

/-- A typed value, tag first, under each selector that the device has. -/
abbrev Memory := Selector → Option Bytes

def refusal : Bytes := [dirResponse, noSuchObjectCode]

/-- What the device answers a payload: a value it holds, the echo of a write it has taken, or the
error of an unknown object. -/
def respond (memory : Memory) (request : Bytes) : Bytes × Memory :=
  match decodePayload request with
  | .ok (.readRequest c m i) =>
    match memory (c, m, i) with
    | some held => ([dirResponse, fnRead, 0x01, c, m, i] ++ held, memory)
    | none => (refusal, memory)
  | .ok (.writeRequest a) =>
    match memory (a.cls, a.member, a.instanceNo) with
    | some _ =>
      (dirResponse :: request.drop 1,
        Function.update memory (a.cls, a.member, a.instanceNo) (some (request.drop 5)))
    | none => (refusal, memory)
  | _ => (refusal, memory)

/-- The bytes that come back for a request, and what the device holds then. -/
def arrival (client : StdBusProtocolClient) (address : ℤ) (memory : Memory) (bs : Bytes) :
    Bytes × Memory :=
  match onWire client address (.payload bs) with
  | [w] =>
    match decodeFrame w with
    | .ok frame =>
      let answer := respond memory frame.payload
      (wireBytes ⟨dataNotExpectingReply, frame.src, frame.dst, answer.1⟩, answer.2)
    | .error _ => ([], memory)
  | _ => ([], memory)

structure Side where
  session : Session
  unread : Bytes
  arrived : List Bytes
  memory : Memory

section Handlers

-- The chunks that the port cuts an arrival into, and the timeout of the calls.
variable (lib : AnyModbus) (client : StdBusProtocolClient) (cut : Bytes → List Bytes)
  (timeout : Option PyFloat)

def exchange (name : String) (st : Side) (bs : Bytes) : Result StdBusReply × Line :=
  StdBusClient.execute client bs st.session.address timeout name none
    ⟨client.label, true, st.unread,
      st.arrived ++ cut (arrival client st.session.address st.memory bs).1, .cancelled⟩

def sideHandler : Handler Call Outcome Empty Side where
  ask c st :=
    let x := c.invocation.execute lib st.session c.confirm fun
      | .payload bs => (exchange client cut timeout (commandName lib c) st bs).1.map .frame
      | .op _ => raise .attributeError [.text "request of another protocol"]
    (outcomeOf x.response,
      match x.emitted with
      | some (.payload bs) =>
        let line := (exchange client cut timeout (commandName lib c) st bs).2
        ⟨x.after, line.pushback, line.chunks, (arrival client st.session.address st.memory bs).2⟩
      | _ => { st with session := x.after })
  tell n _ := nomatch n

end Handlers

/-! ## What the device holds -/

/-- The device has a parameter as the panel has it. -/
inductive Keeps (spec : ParameterSpec) : Option PyValue → Option Bytes → Prop where
  | absent : Keeps spec none none
  | held {v b} (hv : InTagRange spec.dataType v) (hb : encodeValue spec.dataType v = .ok b) :
      Keeps spec (some v) (some b)

variable {lib : AnyModbus} {registry : ParameterRegistry} {rows : Rows lib registry}
  {spec spec' : ParameterSpec} {v : PyValue} {b : Bytes}

theorem encodeIntegral_length {head : Bytes} {lo hi : ℤ} {width : ℕ} {label : String} {n : PyNum}
    (h : encodeIntegral head lo hi width label n = .ok b) : b.length = head.length + width := by
  obtain ⟨data, rfl, hlen⟩ := encodeIntegral_split h
  rw [List.length_append, hlen]

theorem encodeValue_length {type : DataType} (h : encodeValue type v = .ok b) :
    b.length ≤ 257 := by
  cases v with
  | str s =>
    cases type with
    | string =>
      obtain ⟨bytes, -, h⟩ := bind_ok_iff.mp h
      split at h
      · cases h
      · cases h
        simp only [List.length_append, List.length_cons, List.length_nil]
        omega
    | _ => cases h
  | num n =>
    cases type with
    | string => cases h
    | s16 => cases h
    | float =>
      obtain ⟨x, -, h⟩ := bind_ok_iff.mp h
      obtain ⟨data, hpack, h⟩ := bind_ok_iff.mp h
      cases h
      rw [List.length_cons, packFloat_length hpack]
      omega
    | u8 => exact (encodeIntegral_length h).trans_le (by decide)
    | u16 => exact (encodeIntegral_length h).trans_le (by decide)
    | u32 => exact (encodeIntegral_length h).trans_le (by decide)
    | s32 => exact (encodeIntegral_length h).trans_le (by decide)
    | packed => exact (encodeIntegral_length h).trans_le (by decide)

theorem encoded_decodes (hv : InTagRange spec.dataType v)
    (hb : encodeValue spec.dataType v = .ok b) :
    decodeValue b = .ok ⟨v, spec.dataType.tag, b.length⟩ ∧ ∃ x xs, b = x :: xs := by
  obtain ⟨b', hencode, hdecode⟩ := value_round_trip [] hv
  cases hencode.symm.trans hb
  rw [List.append_nil] at hdecode
  exact ⟨hdecode, encodeValue_tag hdecode⟩

theorem selectorOf_ne (h : Carried lib registry spec) (h' : Carried lib registry spec')
    (hne : spec.parameterId ≠ spec'.parameterId) : selectorOf spec ≠ selectorOf spec' := by
  intro hsame
  simp only [selectorOf, Prod.mk.injEq] at hsame
  have hkey := selected_of_fits h.selector
  rw [hsame.1, hsame.2.1, hsame.2.2, selected_of_fits h'.selector] at hkey
  exact hne (congrArg Prod.fst hkey).symm

theorem keeps_update {p : Panel} {memory : Memory} (hspec : rows.Mem spec)
    (hv : InTagRange spec.dataType v) (hb : encodeValue spec.dataType v = .ok b)
    (h : ∀ spec', rows.Mem spec' → Keeps spec' (p.values spec'.parameterId)
      (memory (selectorOf spec'))) :
    ∀ spec', rows.Mem spec' → Keeps spec' ((p.keep spec.parameterId v).values spec'.parameterId)
      (Function.update memory (selectorOf spec) (some b) (selectorOf spec')) := by
  intro spec' hspec'
  have hcarried := rows.carried spec hspec
  have hcarried' := rows.carried spec' hspec'
  by_cases hid : spec'.parameterId = spec.parameterId
  · have hsame : spec' = spec := rows.eq_of_id hspec' hspec hid
    subst hsame
    simp only [Panel.keep, Function.update_self]
    exact .held hv hb
  · have hvalues : (p.keep spec.parameterId v).values spec'.parameterId =
        p.values spec'.parameterId := Function.update_of_ne hid _ _
    rw [hvalues, Function.update_of_ne (selectorOf_ne hcarried' hcarried hid)]
    exact h spec' hspec'

/-! ## One call -/

section Calls

variable {client : StdBusProtocolClient} {cut : Bytes → List Bytes} {st : Side} {address : ℤ}
  {bs : Bytes} {payload : Payload} {c : Call} {p : Panel}

theorem arrival_eq (memory : Memory) (hsent : Sent client bs address none) :
    ∃ dst, arrival client address memory bs =
      (wireBytes ⟨dataNotExpectingReply, hostMac, dst, (respond memory bs).1⟩,
        (respond memory bs).2) := by
  have hlive : ¬ client.disposed = true := by
    rw [hsent.live]
    decide
  obtain ⟨dst, hmac⟩ : ∃ dst, addrToMac address = .ok dst :=
    ⟨_, addrToMac_of_range hsent.addressed⟩
  refine ⟨dst, ?_⟩
  have hfits : (requestFrame dst bs).payload.length ≤ maxLength := hsent.fits
  have hencode := encodeFrame_of_fits hfits
  have hdecode := decodeFrame_wireBytes hfits []
  rw [List.append_nil] at hdecode
  have hwire : onWire client address (.payload bs) = [wireBytes (requestFrame dst bs)] := by
    simp only [onWire, if_neg hlive, hmac, hencode]
    rfl
  rw [arrival, hwire]
  simp only [hdecode]
  rfl

theorem exchange_answered (timeout : Option PyFloat) (name : String)
    (hsent : Sent client bs st.session.address none)
    (hsilent : st.unread ++ st.arrived.flatten = []) (hcut : ∀ bs, (cut bs).flatten = bs)
    (hfits : (respond st.memory bs).1.length ≤ maxPayloadLen)
    (hpayload : decodePayload (respond st.memory bs).1 = .ok payload) :
    ∃ reply line, exchange client cut timeout name st bs = (.ok reply, line) ∧
      reply.payload = payload ∧ line.stream = [] ∧
      (arrival client st.session.address st.memory bs).2 = (respond st.memory bs).2 := by
  obtain ⟨dst, harrival⟩ := arrival_eq st.memory hsent
  obtain ⟨hunread, harrived⟩ := List.append_eq_nil_iff.mp hsilent
  have hstream : (⟨client.label, true, st.unread,
      st.arrived ++ cut (arrival client st.session.address st.memory bs).1,
      .cancelled⟩ : Line).stream =
        wireBytes ⟨dataNotExpectingReply, hostMac, dst, (respond st.memory bs).1⟩ := by
    rw [harrival]
    simp only [Line.stream, hunread, List.nil_append, List.flatten_append, harrived, hcut]
  cases hrun : exchange client cut timeout name st bs with
  | mk r line =>
    obtain ⟨rfl, hline⟩ := execute_answered hsent rfl hstream hfits hpayload hrun
    exact ⟨_, line, rfl, rfl, hline, by rw [harrival]⟩

theorem ask_prepared (timeout : Option PyFloat) {d : Dispatch ParameterEntry}
    (hprepared : prepareCall lib st.session c.confirm c.invocation = .ok d)
    (hwire : d.wire = .payload bs) (hsent : Sent client bs st.session.address none)
    (hsilent : st.unread ++ st.arrived.flatten = []) (hcut : ∀ bs, (cut bs).flatten = bs)
    (hfits : (respond st.memory bs).1.length ≤ maxPayloadLen)
    (hpayload : decodePayload (respond st.memory bs).1 = .ok payload) :
    ∃ (reply : StdBusReply) (line : Line), reply.payload = payload ∧ line.stream = [] ∧
      (sideHandler lib client cut timeout).ask c st =
        (outcomeOf (finish st.session d (.ok (.frame reply))).1,
          ⟨(finish st.session d (.ok (.frame reply))).2, line.pushback, line.chunks,
            (respond st.memory bs).2⟩) := by
  obtain ⟨reply, line, hexchange, hreply, hline, hmemory⟩ :=
    exchange_answered timeout (commandName lib c) hsent hsilent hcut hfits hpayload
  refine ⟨reply, line, hreply, hline, ?_⟩
  simp only [sideHandler, execute_prepared hprepared, hwire, hexchange, hmemory]
  rfl

/-! ### Reads -/

def readBytes (spec : ParameterSpec) : Bytes :=
  [dirRequest, fnRead, 0x01] ++ selectorBytes spec.parameterId spec.defaultInstance

def writeBytes (spec : ParameterSpec) (tail : Bytes) : Bytes :=
  [dirRequest, fnWrite] ++ selectorBytes spec.parameterId spec.defaultInstance ++ tail

theorem respond_read (memory : Memory) (spec : ParameterSpec) :
    respond memory (readBytes spec) =
      match memory (selectorOf spec) with
      | some held =>
        ([dirResponse, fnRead, 0x01] ++ selectorBytes spec.parameterId spec.defaultInstance ++ held,
          memory)
      | none => (refusal, memory) := rfl

theorem decodePayload_readResponse (c m i x : UInt8) (xs : Bytes) :
    decodePayload (dirResponse :: fnRead :: 0x01 :: c :: m :: i :: x :: xs) = (do
      let d ← decodeValue (x :: xs)
      .ok (.readResponse ⟨c, m, i, d.value, d.typeTag⟩)) := rfl

theorem decodePayload_writeResponse (c m i x : UInt8) (xs : Bytes) :
    decodePayload (dirResponse :: fnWrite :: c :: m :: i :: x :: xs) = (do
      let d ← decodeValue (x :: xs)
      .ok (.writeResponse ⟨c, m, i, d.value, d.typeTag⟩)) := rfl

theorem respond_write (memory : Memory) (spec : ParameterSpec) {x : UInt8} {xs : Bytes}
    {d : Decoded} (hd : decodeValue (x :: xs) = .ok d) :
    respond memory (writeBytes spec (x :: xs)) =
      match memory (selectorOf spec) with
      | some _ =>
        ([dirResponse, fnWrite] ++ selectorBytes spec.parameterId spec.defaultInstance ++ x :: xs,
          Function.update memory (selectorOf spec) (some (x :: xs)))
      | none => (refusal, memory) := by
  have hdecode := decodePayload_writeRequest (UInt8.ofNat (spec.parameterId / 1000).toNat)
    (UInt8.ofNat (spec.parameterId % 1000).toNat) (UInt8.ofNat spec.defaultInstance.toNat) x xs
  rw [hd, ok_bind] at hdecode
  have hrequest : decodePayload (writeBytes spec (x :: xs)) = _ := hdecode
  simp only [respond, hrequest]
  rfl

def attributeOf (spec : ParameterSpec) (v : PyValue) : Attribute :=
  ⟨(selectorOf spec).1, (selectorOf spec).2.1, (selectorOf spec).2.2, v, spec.dataType.tag⟩

theorem entry_selected {ctx : CommandContext} {text : String} {context : ErrorContext} {raw : Bytes}
    (h : Carried lib registry spec) (hctx : ctx.registry = registry) (v : PyValue) :
    (do
      let found ← resolveReply ctx text context (attributeOf spec v)
      .ok (entryFromPayload found (attributeOf spec v) raw)) =
      (.ok ⟨spec, spec.defaultInstance, v, raw⟩ : Result ParameterEntry) := by
  have hkey := selected_of_fits h.selector
  have hid : selectorId (attributeOf spec v) = spec.parameterId := congrArg Prod.fst hkey
  have hinstance : ((attributeOf spec v).instanceNo.toNat : ℤ) = spec.defaultInstance :=
    congrArg Prod.snd hkey
  have hresolve : ctx.registry.resolve (.id (selectorId (attributeOf spec v))) = .ok spec := by
    rw [hctx, hid]
    exact h.byId
  have hreply : resolveReply ctx text context (attributeOf spec v) = .ok spec := by
    rw [resolveReply, hresolve]
  rw [hreply, ok_bind, entryFromPayload, hinstance]
  rfl

theorem readStdBus_encoded {s : Session} {request : ReadParameterRequest} {confirm : Bool}
    (h : Follows registry .stdbus p s) (hcarried : Carried lib registry spec)
    (hinstance : request.instanceNo = spec.defaultInstance)
    (hgate : gate registry ⟨.read request, confirm⟩ = .ok spec) :
    readStdBusEncode s.context request = .ok (readBytes spec) := by
  obtain ⟨hrequested, -⟩ := gate_ok_iff.mp hgate
  refine bind_ok_iff.mpr
    ⟨spec, resolveRequest_ok_iff.mpr ((requested_context h).mpr hrequested), ?_⟩
  rw [hinstance]
  exact encodeReadRequest_ok_iff.mpr ⟨hcarried.selector, rfl⟩

theorem writeStdBus_encoded {s : Session} {request : WriteParameterRequest} {confirm : Bool}
    (h : Follows registry .stdbus p s) (hcarried : Carried lib registry spec)
    (hinstance : request.instanceNo = spec.defaultInstance)
    (hb : encodeValue spec.dataType request.value = .ok b)
    (hgate : gate registry ⟨.write request, confirm⟩ = .ok spec) :
    writeStdBusEncode s.context request = .ok (writeBytes spec b) := by
  obtain ⟨hrequested, hchecked⟩ := gate_ok_iff.mp hgate
  obtain ⟨hwritable, hpasses⟩ := hchecked request.value rfl
  have hselector : SelectorFits spec.parameterId request.instanceNo := by
    rw [hinstance]
    exact hcarried.selector
  have haccepts : StdBusAccepts s.context request spec :=
    ⟨(requested_context h).mpr hrequested, hwritable, hpasses, hselector,
      encodeValue_ok_iff.mp ⟨b, hb⟩⟩
  refine writeStdBus_ok_iff.mpr
    ⟨spec, haccepts, encodeWriteRequest_ok_iff.mpr ⟨hselector, b, hb, ?_⟩⟩
  rw [hinstance, writeBytes]

/-! ### The simulation -/

structure Shows (rows : Rows lib registry) (p : Panel) (st : Side) : Prop where
  follows : Follows registry .stdbus p st.session
  address : 1 ≤ st.session.address ∧ st.session.address ≤ 16
  silent : st.unread ++ st.arrived.flatten = []
  memory : ∀ spec, rows.Mem spec →
    Keeps spec (p.values spec.parameterId) (st.memory (selectorOf spec))

theorem ask_absent (timeout : Option PyFloat) {d : Dispatch ParameterEntry}
    (hlive : client.disposed = false) (hcut : ∀ bs, (cut bs).flatten = bs) (h : Shows rows p st)
    (hprepared : prepareCall lib st.session c.confirm c.invocation = .ok d)
    (hkey : d.key = callKey lib registry c) (hwire : d.wire = .payload bs)
    (hfits : bs.length ≤ maxLength) (hrespond : respond st.memory bs = (refusal, st.memory)) :
    ((sideHandler lib client cut timeout).ask c st).1 = none ∧
      Shows rows (p.mark (callKey lib registry c) .unsupported)
        ((sideHandler lib client cut timeout).ask c st).2 := by
  have hsent : Sent client bs st.session.address none := ⟨hlive, h.address, hfits, rfl⟩
  have hanswer : (respond st.memory bs).1 = refusal := by rw [hrespond]
  have hpayload : decodePayload (respond st.memory bs).1 = .ok (.errorResponse 0x81) := by
    rw [hanswer]
    rfl
  have hshort : (respond st.memory bs).1.length ≤ maxPayloadLen := by
    rw [hanswer]
    decide
  obtain ⟨reply, line, hreply, hline, hask⟩ :=
    ask_prepared timeout hprepared hwire hsent h.silent hcut hshort hpayload
  have hmarks : Marks d (.ok (.frame reply)) :=
    ((prepareCall_stdbus h.follows.kind hprepared).2 reply).mpr ⟨0x81, hreply, Or.inl rfl⟩
  obtain ⟨houtcome, hfollows⟩ := finish_refused h.follows hmarks
  rw [hkey] at hfollows
  rw [hask]
  refine ⟨houtcome, hfollows, ?_, hline, ?_⟩
  · rw [(finish_sameDevice ..).address]
    exact h.address
  · rw [hrespond]
    exact h.memory

theorem ask_taken (timeout : Option PyFloat) {d : Dispatch ParameterEntry} {memory : Memory}
    (hlive : client.disposed = false) (hcut : ∀ bs, (cut bs).flatten = bs) (h : Shows rows p st)
    (hprepared : prepareCall lib st.session c.confirm c.invocation = .ok d)
    (hkey : d.key = callKey lib registry c) (hwire : d.wire = .payload bs)
    (hfits : bs.length ≤ maxLength) (hmemory : (respond st.memory bs).2 = memory)
    (hshort : (respond st.memory bs).1.length ≤ maxPayloadLen)
    (hpayload : decodePayload (respond st.memory bs).1 = .ok payload)
    (hdecode : ∀ reply, reply.payload = payload →
      d.decode (.frame reply) = .ok ⟨spec, c.instanceNo, v, reply.rawFrame⟩)
    (hkeeps : ∀ spec', rows.Mem spec' → Keeps spec'
      ((p.keep spec.parameterId v).values spec'.parameterId) (memory (selectorOf spec'))) :
    ((sideHandler lib client cut timeout).ask c st).1 =
        some ((spec.parameterId, c.instanceNo), v) ∧
      Shows rows ((p.mark (callKey lib registry c) .supported).keep spec.parameterId v)
        ((sideHandler lib client cut timeout).ask c st).2 := by
  have hsent : Sent client bs st.session.address none := ⟨hlive, h.address, hfits, rfl⟩
  obtain ⟨reply, line, hreply, hline, hask⟩ :=
    ask_prepared timeout hprepared hwire hsent h.silent hcut hshort hpayload
  obtain ⟨houtcome, hfollows⟩ := finish_answered h.follows (hdecode reply hreply)
  rw [hkey] at hfollows
  rw [hask, hmemory]
  refine ⟨houtcome, hfollows.keep _ _, ?_, hline, hkeeps⟩
  rw [(finish_sameDevice ..).address]
  exact h.address

theorem ask_read (timeout : Option PyFloat) {request : ReadParameterRequest} {confirm : Bool}
    (hlive : client.disposed = false) (hcut : ∀ bs, (cut bs).flatten = bs) (h : Shows rows p st)
    (hspec : rows.Mem spec) (hinstance : request.instanceNo = spec.defaultInstance)
    (hadmits : p.Admits lib registry ⟨.read request, confirm⟩)
    (hgate : gate registry ⟨.read request, confirm⟩ = .ok spec) :
    ((sideHandler lib client cut timeout).ask ⟨.read request, confirm⟩ st).1 =
        (p.ask lib registry ⟨.read request, confirm⟩).1 ∧
      Shows rows (p.ask lib registry ⟨.read request, confirm⟩).2
        ((sideHandler lib client cut timeout).ask ⟨.read request, confirm⟩ st).2 := by
  have hcarried := rows.carried spec hspec
  have hencode := readStdBus_encoded h.follows hcarried hinstance hgate
  have hprepared := prepared_read h.follows hadmits
    (selectVariant_stdbus h.follows.kind rfl) (bind_ok_iff.mpr ⟨_, hencode, rfl⟩) hcarried hgate
  have hanswer := respond_read st.memory spec
  have hheld := h.memory spec hspec
  have hlong : (readBytes spec).length ≤ maxLength := by
    simp [readBytes, selectorBytes, maxLength]
  rw [ask_admitted hadmits hgate]
  generalize hvalue : p.values spec.parameterId = value at hheld
  generalize st.memory (selectorOf spec) = bytes at hheld hanswer
  cases hheld with
  | absent => exact ask_absent timeout hlive hcut h hprepared rfl rfl hlong hanswer
  | @held v b hv hb =>
    obtain ⟨hdecodes, x, xs, rfl⟩ := encoded_decodes hv hb
    have hpayload : decodePayload (respond st.memory (readBytes spec)).1 =
        .ok (.readResponse (attributeOf spec v)) := by
      rw [hanswer]
      refine (decodePayload_readResponse ..).trans ?_
      rw [hdecodes]
      rfl
    have hshort : (respond st.memory (readBytes spec)).1.length ≤ maxPayloadLen := by
      have hlen := encodeValue_length hb
      rw [hanswer]
      simp only [List.length_append, selectorBytes, List.length_cons, List.length_nil,
        maxPayloadLen] at hlen ⊢
      omega
    have hmemory : (respond st.memory (readBytes spec)).2 = st.memory := by rw [hanswer]
    have hkeeps := h.memory
    rw [← Panel.keep_held hvalue] at hkeeps
    refine ask_taken timeout hlive hcut h hprepared rfl rfl hlong hmemory hshort hpayload ?_ hkeeps
    intro reply hreply
    simp only [Variant.decode, readStdBusDecode, hreply]
    refine (entry_selected hcarried h.follows.registry v).trans ?_
    rw [← hinstance]
    rfl

theorem ask_write (timeout : Option PyFloat) {request : WriteParameterRequest} {confirm : Bool}
    (hlive : client.disposed = false) (hcut : ∀ bs, (cut bs).flatten = bs) (h : Shows rows p st)
    (hspec : rows.Mem spec) (hinstance : request.instanceNo = spec.defaultInstance)
    (hv : InTagRange spec.dataType request.value)
    (hadmits : p.Admits lib registry ⟨.write request, confirm⟩)
    (hgate : gate registry ⟨.write request, confirm⟩ = .ok spec) :
    ((sideHandler lib client cut timeout).ask ⟨.write request, confirm⟩ st).1 =
        (p.ask lib registry ⟨.write request, confirm⟩).1 ∧
      Shows rows (p.ask lib registry ⟨.write request, confirm⟩).2
        ((sideHandler lib client cut timeout).ask ⟨.write request, confirm⟩ st).2 := by
  have hcarried := rows.carried spec hspec
  obtain ⟨b, hb, -⟩ := value_round_trip [] hv
  obtain ⟨hdecodes, x, xs, rfl⟩ := encoded_decodes hv hb
  have hlen := encodeValue_length hb
  have hencode := writeStdBus_encoded h.follows hcarried hinstance hb hgate
  have hprepared := prepared_write h.follows hadmits
    (selectVariant_stdbus h.follows.kind rfl) (bind_ok_iff.mpr ⟨_, hencode, rfl⟩) hcarried hgate
  have hanswer := respond_write st.memory spec hdecodes
  have hheld := h.memory spec hspec
  have hlong : (writeBytes spec (x :: xs)).length ≤ maxLength := by
    simp only [writeBytes, selectorBytes, List.length_append, List.length_cons, List.length_nil,
      maxLength] at hlen ⊢
    omega
  rw [ask_admitted hadmits hgate]
  generalize p.values spec.parameterId = value at hheld
  generalize st.memory (selectorOf spec) = bytes at hheld hanswer
  cases hheld with
  | absent => exact ask_absent timeout hlive hcut h hprepared rfl rfl hlong hanswer
  | held =>
    have hpayload : decodePayload (respond st.memory (writeBytes spec (x :: xs))).1 =
        .ok (.writeResponse (attributeOf spec request.value)) := by
      rw [hanswer]
      refine (decodePayload_writeResponse ..).trans ?_
      rw [hdecodes]
      rfl
    have hshort : (respond st.memory (writeBytes spec (x :: xs))).1.length ≤ maxPayloadLen := by
      rw [hanswer]
      simp only [List.length_append, selectorBytes, List.length_cons, List.length_nil,
        maxPayloadLen] at hlen ⊢
      omega
    refine ask_taken timeout hlive hcut h hprepared rfl rfl hlong (by rw [hanswer]) hshort hpayload
      ?_ (keeps_update hspec hv hb h.memory)
    intro reply hreply
    simp only [Variant.decode, writeStdBusDecode, hreply]
    refine (entry_selected hcarried h.follows.registry request.value).trans ?_
    rw [← hinstance]
    rfl

theorem ask_shows (timeout : Option PyFloat) (hlive : client.disposed = false)
    (hcut : ∀ bs, (cut bs).flatten = bs) (hagreed : Agreed rows c) (h : Shows rows p st) :
    ((sideHandler lib client cut timeout).ask c st).1 = (p.ask lib registry c).1 ∧
      Shows rows (p.ask lib registry c).2 ((sideHandler lib client cut timeout).ask c st).2 := by
  by_cases hpasses : p.Admits lib registry c ∧ ∃ spec, gate registry c = .ok spec
  · obtain ⟨hadmits, spec, hgate⟩ := hpasses
    obtain ⟨hspec, hinstance, hfits⟩ := hagreed spec (gate_ok_iff.mp hgate).1.resolved
    obtain ⟨invocation, confirm⟩ := c
    cases invocation with
    | read request => exact ask_read timeout hlive hcut h hspec hinstance hadmits hgate
    | write request =>
      exact ask_write timeout hlive hcut h hspec hinstance (hfits request.value rfl).1 hadmits hgate
  · rw [ask_refused fun spec hadmits hgate => hpasses ⟨hadmits, spec, hgate⟩]
    cases hprepared : prepareCall lib st.session c.confirm c.invocation with
    | ok d => exact absurd (prepared_admits h.follows hprepared) hpasses
    | error e =>
      simp only [sideHandler, execute_refused hprepared]
      exact ⟨rfl, h⟩

end Calls

end StdBusPanels
