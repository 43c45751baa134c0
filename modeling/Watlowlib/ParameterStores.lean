import Watlowlib.PayloadGrammar
import Watlowlib.ProtocolAgreement
import Watlowlib.SessionInterleaving

/-! # A device as a store of parameters

The parameters of a device, keyed by id and instance: what a read and a write of the store may
answer, how a device with such a store answers a payload, and what a session's call asks of it. -/
namespace ParameterStores

open EncoderContracts EncodingChecks ExceptRules ModbusCodec ParameterCommands PayloadGrammar
  ProtocolAgreement PythonNumbers PythonValues Registry SafetyGate SessionExecute
  SessionInterleaving StdBusClient StdBusPayload StdBusTlv WatlowErrors

abbrev Key := ℤ × ℤ

abbrev Store := Key → Option PyValue

inductive Op where
  | read (key : Key)
  | write (key : Key) (value : PyValue)
  deriving DecidableEq

/-- What a caller learns: whose value it is and the value, or nothing where the call raises. -/
abbrev Outcome := Option (Key × PyValue)

variable (takes : Key → PyValue → PyValue → Prop)

/-- The store as its callers may see it. A call that raises has had no effect, or it is a write that
was taken. `takes key value kept` says what the device makes of a written value. -/
inductive StoreSpec : Store → Op → Outcome → Store → Prop where
  | read {store key value} (hheld : store key = some value) :
      StoreSpec store (.read key) (some (key, value)) store
  | write {store key value kept} (htakes : takes key value kept) :
      StoreSpec store (.write key value) (some (key, kept)) (Function.update store key (some kept))
  | raised {store op} : StoreSpec store op none store
  | unheard {store key value kept} (htakes : takes key value kept) :
      StoreSpec store (.write key value) none (Function.update store key (some kept))

/-! ## The device -/

def selected (cls member instanceNo : UInt8) : Key :=
  (joinParam cls.toNat member.toNat, instanceNo.toNat)

def attributeKey (a : Attribute) : Key := selected a.cls a.member a.instanceNo

def payloadOp : Payload → Option Op
  | .readRequest c m i => some (.read (selected c m i))
  | .writeRequest a => some (.write (attributeKey a) a.value)
  | _ => none

/-- A device answers a read with the value it holds and a write with the value it has taken, each
for the selector of the request; or it refuses with an error code. -/
inductive Answers : Store → Payload → Payload → Store → Prop where
  | read {store c m i v tag} (hheld : store (selected c m i) = some v) :
      Answers store (.readRequest c m i) (.readResponse ⟨c, m, i, v, tag⟩) store
  | write {store a kept tag} (htakes : takes (attributeKey a) a.value kept) :
      Answers store (.writeRequest a) (.writeResponse { a with value := kept, typeTag := tag })
        (Function.update store (attributeKey a) (some kept))
  | refuse {store request code} : Answers store request (.errorResponse code) store

/-! ## What a call asks -/

def asked (s : Session) : Invocation → Option Op
  | .read request =>
    match s.registry.resolve request.nameOrId with
    | .ok spec => some (.read (spec.parameterId, request.instanceNo))
    | .error _ => none
  | .write request =>
    match s.registry.resolve request.nameOrId with
    | .ok spec =>
      match overStdBus spec.dataType request.value with
      | .ok value => some (.write (spec.parameterId, request.instanceNo) value)
      | .error _ => none
    | .error _ => none

def outcomeOf : Result ParameterEntry → Outcome
  | .ok entry => some ((entry.spec.parameterId, entry.instanceNo), entry.value)
  | .error _ => none

/-- A Standard Bus call past its gates: its payload stands for the operation, and a reply is decoded
to the selector and the value that it carries. -/
structure Speaks (d : Dispatch ParameterEntry) (op : Op) (bs : Bytes) : Prop where
  wire : d.wire = .payload bs
  request : ∃ p, decodePayload bs = .ok p ∧ payloadOp p = some op
  read : ∀ reply a, op = .read (attributeKey a) → reply.payload = .readResponse a →
    outcomeOf (d.decode (.frame reply)) ∈ [none, some (attributeKey a, a.value)]
  write : ∀ reply a value, op = .write (attributeKey a) value → reply.payload = .writeResponse a →
    outcomeOf (d.decode (.frame reply)) ∈ [none, some (attributeKey a, a.value)]
  refused : ∀ reply code, reply.payload = .errorResponse code →
    outcomeOf (d.decode (.frame reply)) = none

variable {takes}

theorem encodeIntegral_split {head b : Bytes} {lo hi : ℤ} {width : ℕ} {label : String} {n : PyNum}
    (h : encodeIntegral head lo hi width label n = .ok b) :
    ∃ data, b = head ++ data ∧ data.length = width := by
  obtain ⟨i, -, h⟩ := bind_ok_iff.mp h
  split at h
  · cases h
    exact ⟨_, rfl, CodecRoundTrips.packInt_length ..⟩
  · cases h

theorem encodeValue_typedValue {type : DataType} {v : PyValue} {b : Bytes}
    (h : encodeValue type v = .ok b) : TypedValue b := by
  have hfixed : ∀ (type : DataType) {width lo hi label n},
      encodeIntegral [type.tag] lo hi width label n = .ok b → (type, width) ∈ fixedWidths →
        TypedValue b := by
    intro type width lo hi label n h hmem
    obtain ⟨data, rfl, hlen⟩ := encodeIntegral_split h
    exact .fixed type width hmem data hlen
  cases v with
  | str s =>
    cases type with
    | string =>
      obtain ⟨bytes, -, h⟩ := bind_ok_iff.mp h
      split at h
      · cases h
      · rename_i hshort
        cases h
        refine .counted .string 1 (by decide) _ bytes ?_
        rw [Nat.one_mul, UInt8.toNat_ofNat']
        omega
    | _ => cases h
  | num n =>
    cases type with
    | string => cases h
    | s16 => cases h
    | float =>
      obtain ⟨x, -, h⟩ := bind_ok_iff.mp h
      obtain ⟨data, hpack, h⟩ := bind_ok_iff.mp h
      cases h
      exact .fixed .float 4 (by decide) data (packFloat_length hpack)
    | packed =>
      obtain ⟨data, rfl, hlen⟩ := encodeIntegral_split h
      exact .counted .packed 2 (by decide) 1 data hlen
    | u8 => exact hfixed .u8 h (by decide)
    | u16 => exact hfixed .u16 h (by decide)
    | u32 => exact hfixed .u32 h (by decide)
    | s32 => exact hfixed .s32 h (by decide)

theorem overStdBus_of_encoded {type : DataType} {v : PyValue} {b : Bytes}
    (h : encodeValue type v = .ok b) :
    ∃ d, decodeValue b = .ok d ∧ overStdBus type v = .ok d.value := by
  obtain ⟨d, hdecode, -⟩ := decodeValue_of_typedValue (encodeValue_typedValue h) []
  rw [List.append_nil] at hdecode
  refine ⟨d, hdecode, ?_⟩
  rw [overStdBus, h, ok_bind, hdecode, ok_bind]

theorem selected_of_fits {paramId instanceNo : ℤ} (h : SelectorFits paramId instanceNo) :
    selected (UInt8.ofNat (paramId / 1000).toNat) (UInt8.ofNat (paramId % 1000).toNat)
      (UInt8.ofNat instanceNo.toNat) = (paramId, instanceNo) := by
  rw [selected, CodecRoundTrips.toNat_byte h.cls, CodecRoundTrips.toNat_byte h.member,
    CodecRoundTrips.toNat_byte h.instanceNo]
  exact congrArg (·, instanceNo) (joinParam_splitParam paramId)

theorem readRequest_asks {paramId instanceNo : ℤ} {bs : Bytes}
    (h : encodeReadRequest paramId instanceNo = .ok bs) :
    ∃ p, decodePayload bs = .ok p ∧ payloadOp p = some (.read (paramId, instanceNo)) := by
  obtain ⟨hfit, rfl⟩ := encodeReadRequest_ok_iff.mp h
  exact ⟨_, rfl, by rw [payloadOp, selected_of_fits hfit]⟩

theorem writeRequest_asks {paramId instanceNo : ℤ} {type : DataType} {value : PyValue} {bs : Bytes}
    (h : encodeWriteRequest paramId value instanceNo type = .ok bs) :
    ∃ p kept, decodePayload bs = .ok p ∧ overStdBus type value = .ok kept ∧
      payloadOp p = some (.write (paramId, instanceNo) kept) := by
  obtain ⟨hfit, tail, hencode, rfl⟩ := encodeWriteRequest_ok_iff.mp h
  obtain ⟨d, hdecode, hover⟩ := overStdBus_of_encoded hencode
  obtain ⟨x, xs, rfl⟩ := typedValue_ne_nil (encodeValue_typedValue hencode)
  have hpayload := CodecRoundTrips.decodePayload_writeRequest
    (UInt8.ofNat (paramId / 1000).toNat) (UInt8.ofNat (paramId % 1000).toNat)
    (UInt8.ofNat instanceNo.toNat) x xs
  rw [hdecode, ok_bind] at hpayload
  exact ⟨_, d.value, hpayload, hover, by rw [payloadOp, attributeKey, selected_of_fits hfit]⟩

theorem entry_outcome {ctx : CommandContext} {prefixText : String} {context : ErrorContext}
    {a : Attribute} {raw : Bytes} :
    outcomeOf (do
      let spec ← resolveReply ctx prefixText context a
      .ok (entryFromPayload spec a raw)) ∈ [none, some (attributeKey a, a.value)] := by
  simp only [resolveReply]
  cases hresolve : ctx.registry.resolve (.id (selectorId a)) with
  | error e => exact List.mem_cons_self
  | ok spec =>
    have hid : spec.parameterId = selectorId a := (resolve_id _ hresolve).1
    rw [ok_bind, outcomeOf, entryFromPayload, hid]
    exact List.mem_cons_of_mem _ List.mem_cons_self

theorem raiseForErrorCode_outcome (code : UInt8) (context : ErrorContext) :
    outcomeOf (raiseForErrorCode code context) = none := rfl

section Calls

variable {lib : AnyModbus} {s : Session} {confirm : Bool} {d : Dispatch ParameterEntry}

theorem selectVariant_stdbus {Req Resp : Type} [Targeted Req] {command : Command Req Resp}
    {request : Req} {v : StdBusVariant Req Resp} (hkind : s.kind = .stdbus)
    (hv : command.stdbus = some v) : selectVariant s command request = .ok (.stdbus v) := by
  simp only [selectVariant, hkind, hv]

theorem readStdBus_ok {ctx : CommandContext} {request : ReadParameterRequest} {bs : Bytes}
    (h : readStdBusEncode ctx request = .ok bs) :
    ∃ spec, Requested ctx request.nameOrId request.instanceNo spec ∧
      encodeReadRequest spec.parameterId request.instanceNo = .ok bs := by
  rw [readStdBusEncode] at h
  obtain ⟨spec, hspec, hencode⟩ := bind_ok_iff.mp h
  exact ⟨spec, resolveRequest_ok_iff.mp hspec, hencode⟩

theorem read_speaks {request : ReadParameterRequest} (hkind : s.kind = .stdbus)
    (h : prepare s (readParameter lib) request confirm = .ok d) :
    ∃ op bs, asked s (.read request) = some op ∧ Speaks d op bs := by
  obtain ⟨variant, hv, -, -, -, wire, hwire, rfl⟩ := prepare_ok_iff.mp h
  rw [selectVariant_stdbus hkind rfl] at hv
  cases hv
  obtain ⟨bs, hbs, hpayload⟩ := bind_ok_iff.mp hwire
  cases hpayload
  obtain ⟨spec, hrequested, hencode⟩ := readStdBus_ok hbs
  have hresolve : s.registry.resolve request.nameOrId = .ok spec := hrequested.resolved
  have hasked : asked s (.read request) = some (.read (spec.parameterId, request.instanceNo)) := by
    simp only [asked, hresolve]
  refine ⟨_, bs, hasked, rfl, readRequest_asks hencode, ?_, ?_, ?_⟩
  · intro reply a _ hreply
    simp only [Variant.decode, readStdBusDecode, hreply]
    exact entry_outcome
  · intro reply a value hop
    cases hop
  · intro reply code hreply
    simp only [Variant.decode, readStdBusDecode, hreply]
    exact raiseForErrorCode_outcome ..

theorem write_speaks {request : WriteParameterRequest} (hkind : s.kind = .stdbus)
    (h : prepare s (writeParameter lib) request confirm = .ok d) :
    ∃ op bs, asked s (.write request) = some op ∧ Speaks d op bs := by
  obtain ⟨variant, hv, -, -, -, wire, hwire, rfl⟩ := prepare_ok_iff.mp h
  rw [selectVariant_stdbus hkind rfl] at hv
  cases hv
  obtain ⟨bs, hbs, hpayload⟩ := bind_ok_iff.mp hwire
  cases hpayload
  obtain ⟨spec, haccepts, hencode⟩ := writeStdBus_ok_iff.mp hbs
  have hresolve : s.registry.resolve request.nameOrId = .ok spec := haccepts.requested.resolved
  obtain ⟨p, kept, hdecode, hover, hop⟩ := writeRequest_asks hencode
  refine ⟨.write (spec.parameterId, request.instanceNo) kept, bs,
    by simp only [asked, hresolve, hover], rfl, ⟨p, hdecode, hop⟩, nofun, ?_, ?_⟩
  · intro reply a value _ hreply
    simp only [Variant.decode, writeStdBusDecode, hreply]
    exact entry_outcome
  · intro reply code hreply
    simp only [Variant.decode, writeStdBusDecode, hreply]
    exact raiseForErrorCode_outcome ..

theorem prepareCall_speaks {i : Invocation} (hkind : s.kind = .stdbus)
    (h : prepareCall lib s confirm i = .ok d) :
    ∃ op bs, asked s i = some op ∧ Speaks d op bs := by
  cases i with
  | read request => exact read_speaks hkind h
  | write request => exact write_speaks hkind h

theorem finish_sameDevice (session : Session) (d : Dispatch ParameterEntry)
    (outcome : Result WireReply) : session.SameDevice (finish session d outcome).2 := by
  simp only [finish]
  split
  · exact fail_sameDevice _ _ _
  · split
    · exact fail_sameDevice _ _ _
    · exact ⟨rfl, rfl, rfl⟩

end Calls

theorem Speaks.answered {d : Dispatch ParameterEntry} {op : Op} {bs : Bytes} {p : Payload}
    {store store' : Store} {reply : StdBusReply} (h : Speaks d op bs)
    (hop : payloadOp p = some op) (hanswer : Answers takes store p reply.payload store') :
    StoreSpec takes store op (outcomeOf (d.decode (.frame reply))) store' := by
  generalize hpayload : reply.payload = answer at hanswer
  cases hanswer with
  | @read c m i v tag hheld =>
    cases hop
    have hlearnt := h.read reply ⟨c, m, i, v, tag⟩ rfl hpayload
    simp only [List.mem_cons, List.not_mem_nil, or_false] at hlearnt
    rcases hlearnt with hnone | hvalue
    · rw [hnone]
      exact .raised
    · rw [hvalue]
      exact .read hheld
  | @write a kept tag htakes =>
    cases hop
    have hlearnt := h.write reply { a with value := kept, typeTag := tag } a.value rfl hpayload
    simp only [List.mem_cons, List.not_mem_nil, or_false] at hlearnt
    rcases hlearnt with hnone | hvalue
    · rw [hnone]
      exact .unheard htakes
    · rw [hvalue]
      exact .write htakes
  | refuse =>
    rw [h.refused reply _ hpayload]
    exact .raised

theorem Answers.unheard {op : Op} {p answer : Payload} {store store' : Store}
    (h : Answers takes store p answer store') (hop : payloadOp p = some op) :
    StoreSpec takes store op none store' := by
  cases h with
  | read hheld => exact .raised
  | write htakes =>
    cases hop
    exact .unheard htakes
  | refuse => exact .raised

end ParameterStores
