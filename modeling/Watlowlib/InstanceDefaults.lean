import Watlowlib.SessionExecute

/-! # What a request at instance zero asks for

The resolver checks the default instance in the place of zero and returns the specification only;
each encoder then goes on with the instance of the request. -/
namespace InstanceDefaults

open EncoderContracts EncodingChecks ExceptRules ModbusCodec ModbusOps ParameterCommands
  PythonNumbers PythonValues Registry SessionExecute StdBusClient StdBusPayload StdBusTlv
  WatlowErrors

/-- A read or a write of one parameter, the instance left open. -/
inductive Access where
  | read (target : Ident)
  | write (target : Ident) (value : PyValue)
  deriving DecidableEq, Repr

inductive Bus where
  | stdbus
  | modbus
  deriving DecidableEq, Repr

def Access.target : Access → Ident
  | .read target => target
  | .write target _ => target

def selectorOf : Payload → Option (UInt8 × UInt8 × UInt8)
  | .readRequest cls member instanceNo => some (cls, member, instanceNo)
  | .writeRequest a => some (a.cls, a.member, a.instanceNo)
  | .readResponse a => some (a.cls, a.member, a.instanceNo)
  | .writeResponse a => some (a.cls, a.member, a.instanceNo)
  | .errorResponse _ => none

/-- A reply to the request on the wire: it echoes the selector. Registers carry none. -/
def Answers : WireRequest → WireReply → Prop
  | .payload bs, .frame reply =>
    ∃ payload, decodePayload bs = .ok payload ∧ selectorOf reply.payload = selectorOf payload
  | .op _, .words _ => True
  | _, _ => False

section Law

variable {Req : Type} (variant : Variant Req ParameterEntry) (ctx : CommandContext)
  (asked : ℤ → Req) (d : ℤ)

/-- Asking at zero is asking at `d`: the same bytes, operation or refusal, and an entry that
reports `d`. -/
structure ZeroMeans : Prop where
  encodes : variant.encode ctx (asked 0) = variant.encode ctx (asked d)
  reports : ∀ wire reply entry, variant.encode ctx (asked 0) = .ok wire → Answers wire reply →
    variant.decode ctx (asked 0) reply = .ok entry → entry.instanceNo = d

end Law

variable (lib : AnyModbus)

def readVariant : Bus → Variant ReadParameterRequest ParameterEntry
  | .stdbus => .stdbus ⟨readStdBusEncode, readStdBusDecode⟩
  | .modbus => .modbus ⟨readModbusEncode lib, readModbusDecode lib⟩

def writeVariant : Bus → Variant WriteParameterRequest ParameterEntry
  | .stdbus => .stdbus ⟨writeStdBusEncode, writeStdBusDecode⟩
  | .modbus => .modbus ⟨writeModbusEncode lib, writeModbusDecode⟩

theorem variants_of_commands (bus : Bus) (s : Session)
    (h : s.kind = match bus with | .stdbus => .stdbus | .modbus => .modbusRtu) :
    (∀ request, selectVariant s (readParameter lib) request = .ok (readVariant lib bus)) ∧
      ∀ request, selectVariant s (writeParameter lib) request = .ok (writeVariant lib bus) := by
  cases bus with
  | stdbus => simp [selectVariant, h, readParameter, writeParameter, readVariant, writeVariant]
  | modbus => simp [selectVariant, h, readParameter, writeParameter, readVariant, writeVariant]

/-- Instance zero of this access means the default instance of `spec`. -/
def ZeroMeansDefault (ctx : CommandContext) (spec : ParameterSpec) (bus : Bus) : Access → Prop
  | .read target =>
    ZeroMeans (readVariant lib bus) ctx (fun i => ⟨target, i⟩) spec.defaultInstance
  | .write target value =>
    ZeroMeans (writeVariant lib bus) ctx (fun i => ⟨target, value, i⟩) spec.defaultInstance

def HasDefault (spec : ParameterSpec) : Prop :=
  1 ≤ spec.defaultInstance ∧ spec.defaultInstance ≤ spec.maxInstance

/-- The checks that precede any use of the instance let the access pass. -/
def Admitted (spec : ParameterSpec) : Access → Prop
  | .read _ => HasDefault spec
  | .write _ value => HasDefault spec ∧ spec.rwes ≠ .r ∧ PassesRange spec value

/-- What the Standard Bus encoders refuse whichever instance is asked for: an id without a
selector, a number for a text row, and a value that the tag does not carry. -/
def UnframedAnyway (spec : ParameterSpec) : Access → Prop
  | .read _ => ¬ SelectorFits spec.parameterId 0
  | .write _ value => ¬ SelectorFits spec.parameterId 0 ∨ TextExpected spec value ∨
      (¬ Encodable spec.dataType value ∧ spec.defaultInstance ≤ 255)

/-- The access is refused, and its instance has no part in that. -/
def RefusedAnyway (spec : ParameterSpec) (bus : Bus) (access : Access) : Prop :=
  ¬ Admitted spec access ∨
    match bus with
    | .stdbus => UnframedAnyway spec access
    | .modbus => ∀ encoding, specEncoding lib spec ≠ .ok encoding

section Resolution

variable {ctx : CommandContext} {spec : ParameterSpec} {target : Ident} {i : ℤ}

instance (spec : ParameterSpec) : Decidable (HasDefault spec) :=
  inferInstanceAs (Decidable (_ ≤ _ ∧ _ ≤ _))

theorem checkedInstance_zero (spec : ParameterSpec) :
    checkedInstance spec 0 = spec.defaultInstance := if_pos rfl

theorem checkedInstance_default (spec : ParameterSpec) :
    checkedInstance spec spec.defaultInstance = spec.defaultInstance := by
  simp only [checkedInstance]
  split <;> rfl

theorem resolveRequest_admitted (hr : ctx.registry.resolve target = .ok spec)
    (hi : checkedInstance spec i = spec.defaultInstance) (hd : HasDefault spec) :
    resolveRequest ctx target i = .ok spec :=
  resolveRequest_ok_iff.mpr ⟨hr, hi ▸ hd.1, hi ▸ hd.2⟩

theorem resolveRequest_refused (hr : ctx.registry.resolve target = .ok spec)
    (hd : ¬ HasDefault spec) :
    ∃ e, ∀ i, checkedInstance spec i = spec.defaultInstance →
      resolveRequest ctx target i = .error e := by
  obtain ⟨e, he⟩ : ∃ e, validateInstance spec spec.defaultInstance = .error e :=
    ⟨_, require_error_iff.mpr ⟨hd, rfl⟩⟩
  refine ⟨e, fun i hi => ?_⟩
  simp only [resolveRequest]
  rw [hr, ok_bind, hi, he, error_bind]

end Resolution

section StdBus

variable {paramId d : ℤ} {value : PyValue} {type : DataType}

def byteRangeError : PyError := ⟨.valueError, [.text "bytes must be in range(0, 256)"], {}⟩

theorem bytesOf_refused {is : List ℤ} (h : ¬ ∃ bs, bytesOf is = .ok bs) :
    bytesOf is = .error byteRangeError := by
  rcases error_or_ok (bytesOf is) with ⟨e, he⟩ | ⟨bs, hbs⟩
  · simp only [bytesOf, raise] at he ⊢
    split at he
    · cases he
    · rename_i hc
      rw [if_neg hc]
      rfl
  · exact absurd ⟨bs, hbs⟩ h

theorem selectorFits_zero (h : SelectorFits paramId d) : SelectorFits paramId 0 :=
  ⟨h.cls, h.member, by decide⟩

theorem selectorFits_of_zero (h : SelectorFits paramId 0) (hd : 0 ≤ d ∧ d ≤ 255) :
    SelectorFits paramId d :=
  ⟨h.cls, h.member, hd⟩

theorem selectorBytes_ne_zero (hd : 1 ≤ d ∧ d ≤ 255) :
    selectorBytes paramId 0 ≠ selectorBytes paramId d := by
  intro h
  have hbyte : UInt8.ofNat (0 : ℤ).toNat = UInt8.ofNat d.toNat := by
    simpa [selectorBytes] using h
  have hnat := congrArg UInt8.toNat hbyte
  simp only [UInt8.toNat_ofNat', Int.toNat_zero] at hnat
  omega

theorem encodeReadRequest_refused (h : ¬ SelectorFits paramId d) :
    encodeReadRequest paramId d = .error byteRangeError :=
  bytesOf_refused fun ⟨_, hbs⟩ => h (encodeReadRequest_ok_iff.mp hbs).1

theorem encodeReadRequest_differs (h : SelectorFits paramId 0) (hd : 1 ≤ d) :
    encodeReadRequest paramId 0 ≠ encodeReadRequest paramId d := by
  intro heq
  have h0 := encodeReadRequest_ok_iff.mpr ⟨h, rfl⟩
  rw [heq] at h0
  obtain ⟨hfit, hbs⟩ := encodeReadRequest_ok_iff.mp h0
  exact selectorBytes_ne_zero ⟨hd, hfit.instanceNo.2⟩ (List.append_cancel_left hbs)

theorem encodeWriteRequest_refused (h : ¬ SelectorFits paramId d) :
    encodeWriteRequest paramId value d type = .error byteRangeError := by
  simp only [encodeWriteRequest]
  rw [bytesOf_refused, error_bind]
  rintro ⟨bs, hbs⟩
  obtain ⟨hin, -⟩ := bytesOf_ok_iff.mp hbs
  exact h ⟨hin _ (by simp [splitParam]), hin _ (by simp [splitParam]), hin _ (by simp)⟩

theorem encodeWriteRequest_of_fits (h : SelectorFits paramId d) :
    encodeWriteRequest paramId value d type =
      (encodeValue type value).map ([dirRequest, fnWrite] ++ selectorBytes paramId d ++ ·) := by
  rcases error_or_ok (encodeValue type value) with ⟨e, he⟩ | ⟨tail, htail⟩
  · simp only [encodeWriteRequest]
    rw [bytesOf_ok, he]
    · rfl
    · intro i hmem
      simp only [List.mem_cons, List.not_mem_nil, or_false, splitParam] at hmem
      rcases hmem with rfl | rfl | rfl | rfl | rfl
      · decide
      · decide
      · exact h.cls
      · exact h.member
      · exact h.instanceNo
  · rw [encodeWriteRequest_ok_iff.mpr ⟨h, tail, htail, rfl⟩, htail]
    rfl

theorem encodeString_ne_byteRangeError (text : String) :
    encodeString text ≠ .error byteRangeError := by
  intro h
  rcases bind_error_iff.mp h with h | ⟨b, -, h⟩
  · simp only [encodeAscii, raise] at h
    split at h <;> simp [byteRangeError] at h
  · simp only [raise] at h
    split at h <;> simp [byteRangeError] at h

theorem encodeIntegral_ne_byteRangeError (head : Bytes) (lo hi : ℤ) (width : ℕ) (label : String)
    (n : PyNum) : encodeIntegral head lo hi width label n ≠ .error byteRangeError := by
  intro h
  rcases bind_error_iff.mp h with h | ⟨i, -, h⟩
  · cases n with
    | float x => cases x <;> simp [toInt, raise, byteRangeError] at h
    | _ => simp [toInt] at h
  · simp only [formatted, unwritable, byteRangeError] at h
    split at h
    · cases h
    · split at h <;> simp at h

theorem encodeFloat_ne_byteRangeError (n : PyNum) : encodeFloat n ≠ .error byteRangeError := by
  intro h
  rcases bind_error_iff.mp h with h | ⟨x, -, h⟩
  · cases n with
    | int i =>
      simp only [toFloat] at h
      split at h <;> simp [raise, byteRangeError] at h
    | _ => simp [toFloat] at h
  · rcases bind_error_iff.mp h with h | ⟨b, -, h⟩
    · cases x with
      | finite q =>
        simp only [packFloat] at h
        split at h <;> simp [raise, byteRangeError] at h
      | _ => simp [packFloat] at h
    · cases h

theorem encodeValue_ne_byteRangeError : encodeValue type value ≠ .error byteRangeError := by
  intro h
  cases value with
  | str s =>
    cases type with
    | string => exact encodeString_ne_byteRangeError s h
    | _ => simp [encodeValue, raise, byteRangeError] at h
  | num n =>
    cases type with
    | string => simp [encodeValue, raise, byteRangeError] at h
    | s16 => simp [encodeValue, encodeNumber, raise, byteRangeError] at h
    | float => exact encodeFloat_ne_byteRangeError n h
    | u8 => exact encodeIntegral_ne_byteRangeError _ _ _ _ _ n h
    | u16 => exact encodeIntegral_ne_byteRangeError _ _ _ _ _ n h
    | u32 => exact encodeIntegral_ne_byteRangeError _ _ _ _ _ n h
    | s32 => exact encodeIntegral_ne_byteRangeError _ _ _ _ _ n h
    | packed => exact encodeIntegral_ne_byteRangeError _ _ _ _ _ n h

theorem encodeWriteRequest_differs (h : SelectorFits paramId 0) (hd : 1 ≤ d)
    (hcause : Encodable type value ∨ 255 < d) :
    encodeWriteRequest paramId value 0 type ≠ encodeWriteRequest paramId value d type := by
  intro heq
  by_cases hfit : SelectorFits paramId d
  · have hbound := hfit.instanceNo.2
    obtain ⟨tail, htail⟩ := encodeValue_ok_iff.mpr (hcause.resolve_right (by omega))
    rw [encodeWriteRequest_of_fits h, encodeWriteRequest_of_fits hfit, htail] at heq
    have hbytes := List.append_cancel_right (Except.ok.inj heq)
    exact selectorBytes_ne_zero ⟨hd, hbound⟩ (List.append_cancel_left hbytes)
  · rw [encodeWriteRequest_of_fits h, encodeWriteRequest_refused hfit] at heq
    rcases error_or_ok (encodeValue type value) with ⟨e, he⟩ | ⟨tail, htail⟩
    · rw [he] at heq
      cases heq
      exact encodeValue_ne_byteRangeError he
    · rw [htail] at heq
      cases heq

theorem encodeWriteRequest_same (hd : 1 ≤ d)
    (h : ¬ SelectorFits paramId 0 ∨ (¬ Encodable type value ∧ d ≤ 255)) :
    ∃ e, encodeWriteRequest paramId value 0 type = .error e ∧
      encodeWriteRequest paramId value d type = .error e := by
  by_cases hfit : SelectorFits paramId 0
  · obtain ⟨henc, hle⟩ := h.resolve_left (not_not_intro hfit)
    rcases error_or_ok (encodeValue type value) with ⟨e, he⟩ | ⟨b, hb⟩
    · refine ⟨e, ?_, ?_⟩
      · rw [encodeWriteRequest_of_fits hfit, he]
        rfl
      · rw [encodeWriteRequest_of_fits (selectorFits_of_zero hfit ⟨by omega, hle⟩), he]
        rfl
    · exact absurd (encodeValue_ok_iff.mp ⟨b, hb⟩) henc
  · exact ⟨_, encodeWriteRequest_refused hfit,
      encodeWriteRequest_refused fun hf => hfit (selectorFits_zero hf)⟩

end StdBus

section Encoders

variable {lib : AnyModbus} {ctx : CommandContext} {spec : ParameterSpec} {target : Ident}
  {value : PyValue} {i : ℤ}

theorem readStdBusEncode_admitted (hr : ctx.registry.resolve target = .ok spec)
    (hi : checkedInstance spec i = spec.defaultInstance) (ha : Admitted spec (.read target)) :
    readStdBusEncode ctx ⟨target, i⟩ = encodeReadRequest spec.parameterId i := by
  simp only [readStdBusEncode]
  rw [resolveRequest_admitted hr hi ha, ok_bind]

theorem writeStdBusEncode_admitted (hr : ctx.registry.resolve target = .ok spec)
    (hi : checkedInstance spec i = spec.defaultInstance)
    (ha : Admitted spec (.write target value)) :
    writeStdBusEncode ctx ⟨target, value, i⟩ = writePayload spec ⟨target, value, i⟩ := by
  obtain ⟨hd, hw, hp⟩ := ha
  simp only [writeStdBusEncode]
  rw [resolveRequest_admitted hr hi hd, ok_bind, (validateWritable_ok_iff (u := ⟨⟩)).mpr hw,
    ok_bind, (validateValue_ok_iff (u := ⟨⟩)).mpr hp, ok_bind]

def modbusWriteAt (lib : AnyModbus) (spec : ParameterSpec) (encoding : ModbusEncoding)
    (value : PyValue) (i : ℤ) : Result ModbusOp := do
  let register ← modbusRegisterAddress spec i
  let scaled ← wireValue spec value
  let words ← wireWords lib spec encoding scaled
  ModbusOp.make (writeFn encoding) register encoding.registerCount (some words)

theorem writeModbusEncode_admitted (lib : AnyModbus)
    (hr : ctx.registry.resolve target = .ok spec)
    (hi : checkedInstance spec i = spec.defaultInstance)
    (ha : Admitted spec (.write target value)) :
    writeModbusEncode lib ctx ⟨target, value, i⟩ =
      specEncoding lib spec >>= fun encoding => modbusWriteAt lib spec encoding value i := by
  obtain ⟨hd, hw, hp⟩ := ha
  simp only [writeModbusEncode]
  rw [resolveRequest_admitted hr hi hd, ok_bind, (validateWritable_ok_iff (u := ⟨⟩)).mpr hw,
    ok_bind, (validateValue_ok_iff (u := ⟨⟩)).mpr hp, ok_bind]
  rfl

theorem readModbusEncode_admitted (lib : AnyModbus)
    (hr : ctx.registry.resolve target = .ok spec)
    (hi : checkedInstance spec i = spec.defaultInstance) (ha : Admitted spec (.read target)) :
    readModbusEncode lib ctx ⟨target, i⟩ =
      specEncoding lib spec >>= fun encoding =>
        modbusRegisterAddress spec i >>= fun register =>
          ModbusOp.make encoding.readFn register encoding.registerCount none := by
  simp only [readModbusEncode]
  rw [resolveRequest_admitted hr hi ha, ok_bind]

theorem read_refused (lib : AnyModbus)
    (hr : ctx.registry.resolve target = .ok spec)
    (ha : ¬ Admitted spec (.read target)) :
    ∃ e, ∀ i, checkedInstance spec i = spec.defaultInstance →
      readStdBusEncode ctx ⟨target, i⟩ = .error e ∧
        readModbusEncode lib ctx ⟨target, i⟩ = .error e := by
  obtain ⟨e, he⟩ := resolveRequest_refused hr ha
  refine ⟨e, fun i hi => ?_⟩
  simp only [readStdBusEncode, readModbusEncode]
  rw [he i hi]
  exact ⟨rfl, rfl⟩

theorem write_refused (lib : AnyModbus)
    (hr : ctx.registry.resolve target = .ok spec)
    (ha : ¬ Admitted spec (.write target value)) :
    ∃ e, ∀ i, checkedInstance spec i = spec.defaultInstance →
      writeStdBusEncode ctx ⟨target, value, i⟩ = .error e ∧
        writeModbusEncode lib ctx ⟨target, value, i⟩ = .error e := by
  simp only [writeStdBusEncode, writeModbusEncode]
  by_cases hd : HasDefault spec
  · rcases error_or_ok (validateWritable spec) with ⟨e, he⟩ | ⟨_, hw⟩
    · refine ⟨e, fun i hi => ?_⟩
      rw [resolveRequest_admitted hr hi hd, ok_bind, ok_bind, he]
      exact ⟨rfl, rfl⟩
    · rcases error_or_ok (validateValue spec value) with ⟨e, he⟩ | ⟨_, hp⟩
      · refine ⟨e, fun i hi => ?_⟩
        rw [resolveRequest_admitted hr hi hd, ok_bind, ok_bind, hw, ok_bind, ok_bind, he]
        exact ⟨rfl, rfl⟩
      · exact absurd ⟨hd, validateWritable_ok_iff.mp hw, validateValue_ok_iff.mp hp⟩ ha
  · obtain ⟨e, he⟩ := resolveRequest_refused hr hd
    refine ⟨e, fun i hi => ?_⟩
    rw [he i hi]
    exact ⟨rfl, rfl⟩

theorem modbusRegisterAddress_zero (hd : spec.defaultInstance ≠ 0) :
    ∃ e : PyError, modbusRegisterAddress spec 0 = .error e ∧ e.kind = .protocolUnsupported := by
  simp only [modbusRegisterAddress]
  rw [if_neg hd.symm]
  exact ⟨_, rfl, rfl⟩

theorem modbusRegisterAddress_default (spec : ParameterSpec) :
    modbusRegisterAddress spec spec.defaultInstance = .ok spec.relativeAddr := if_pos rfl

theorem bare_not_unsupported {α : Type} {x : Result α} {e : PyError} (hx : Bare x)
    (h : x = .error e) : e.kind ≠ .protocolUnsupported := by
  intro hk
  apply hx e h
  simp only [PyError.IsWatlow]
  rw [hk]
  decide

theorem wireWords_not_unsupported {encoding : ModbusEncoding} {e : PyError}
    (h : wireWords lib spec encoding value = .error e) : e.kind ≠ .protocolUnsupported := by
  simp only [wireWords] at h
  split at h
  · cases h
  · rename_i cause _
    split at h
    · cases h
      intro hk
      cases hk
    · rename_i hc
      cases h
      intro hk
      apply hc
      rw [hk]
      decide

theorem modbusWriteAt_differs (encoding : ModbusEncoding) (hd : spec.defaultInstance ≠ 0) :
    modbusWriteAt lib spec encoding value 0 ≠
      modbusWriteAt lib spec encoding value spec.defaultInstance := by
  intro heq
  obtain ⟨e, he, hk⟩ := modbusRegisterAddress_zero hd
  simp only [modbusWriteAt] at heq
  rw [he, modbusRegisterAddress_default, error_bind, ok_bind] at heq
  rcases bind_error_iff.mp heq.symm with h | ⟨scaled, -, h⟩
  · exact bare_not_unsupported (wireValue_bare spec value) h hk
  · rcases bind_error_iff.mp h with h | ⟨words, -, h⟩
    · exact wireWords_not_unsupported h hk
    · exact bare_not_unsupported (make_bare _ _ _ _) h hk

end Encoders

section Main

variable {Req : Type} {lib : AnyModbus} {ctx : CommandContext} {spec : ParameterSpec}

theorem wrapped_eq_iff {α β : Type} {f : α → β} (hf : Function.Injective f) {x y : Result α} :
    (x >>= fun a => (.ok (f a) : Result β)) = (y >>= fun a => .ok (f a)) ↔ x = y := by
  refine ⟨fun h => ?_, fun h => by rw [h]⟩
  cases x with
  | error e =>
    cases y with
    | error e' => cases h; rfl
    | ok b => cases h
  | ok a =>
    cases y with
    | error e => cases h
    | ok b => rw [hf (Except.ok.inj h)]

theorem zeroMeans_of_refused {variant : Variant Req ParameterEntry} {asked : ℤ → Req} {d : ℤ}
    {e : PyError} (h0 : variant.encode ctx (asked 0) = .error e)
    (hd : variant.encode ctx (asked d) = .error e) : ZeroMeans variant ctx asked d := by
  refine ⟨h0.trans hd.symm, fun wire _ _ h => ?_⟩
  rw [h0] at h
  cases h

theorem encode_refused {variant : Variant Req ParameterEntry} {request : Req} {e : PyError}
    (h : match variant with
      | .stdbus v => v.encode ctx request = .error e
      | .modbus v => v.encode ctx request = .error e) :
    variant.encode ctx request = .error e := by
  cases variant with
  | stdbus v =>
    simp only [Variant.encode]
    rw [h, error_bind]
  | modbus v =>
    simp only [Variant.encode]
    rw [h, error_bind]

theorem not_admitted_means {bus : Bus} {access : Access}
    (hr : ctx.registry.resolve access.target = .ok spec) (ha : ¬ Admitted spec access) :
    ZeroMeansDefault lib ctx spec bus access := by
  cases access with
  | read target =>
    obtain ⟨e, he⟩ := read_refused lib hr ha
    obtain ⟨hs0, hm0⟩ := he 0 (checkedInstance_zero spec)
    obtain ⟨hsd, hmd⟩ := he _ (checkedInstance_default spec)
    cases bus with
    | stdbus => exact zeroMeans_of_refused (encode_refused hs0) (encode_refused hsd)
    | modbus => exact zeroMeans_of_refused (encode_refused hm0) (encode_refused hmd)
  | write target value =>
    obtain ⟨e, he⟩ := write_refused lib hr ha
    obtain ⟨hs0, hm0⟩ := he 0 (checkedInstance_zero spec)
    obtain ⟨hsd, hmd⟩ := he _ (checkedInstance_default spec)
    cases bus with
    | stdbus => exact zeroMeans_of_refused (encode_refused hs0) (encode_refused hsd)
    | modbus => exact zeroMeans_of_refused (encode_refused hm0) (encode_refused hmd)

theorem read_stdbus_iff {target : Ident} (hr : ctx.registry.resolve target = .ok spec)
    (ha : Admitted spec (.read target)) :
    ZeroMeansDefault lib ctx spec .stdbus (.read target) ↔
      UnframedAnyway spec (.read target) := by
  have h0 := readStdBusEncode_admitted hr (checkedInstance_zero spec) ha
  have hd := readStdBusEncode_admitted hr (checkedInstance_default spec) ha
  constructor
  · intro h hfit
    apply encodeReadRequest_differs hfit ha.1
    rw [← h0, ← hd]
    exact (wrapped_eq_iff fun _ _ => WireRequest.payload.inj).mp h.encodes
  · intro h
    rw [encodeReadRequest_refused h] at h0
    rw [encodeReadRequest_refused fun hf => h (selectorFits_zero hf)] at hd
    exact zeroMeans_of_refused (encode_refused h0) (encode_refused hd)

theorem write_stdbus_iff {target : Ident} {value : PyValue}
    (hr : ctx.registry.resolve target = .ok spec) (ha : Admitted spec (.write target value)) :
    ZeroMeansDefault lib ctx spec .stdbus (.write target value) ↔
      UnframedAnyway spec (.write target value) := by
  have h0 := writeStdBusEncode_admitted hr (checkedInstance_zero spec) ha
  have hd := writeStdBusEncode_admitted hr (checkedInstance_default spec) ha
  have hpos := ha.1.1
  by_cases ht : TextExpected spec value
  · refine iff_of_true ?_ (Or.inr (Or.inl ht))
    obtain ⟨htype, n, rfl⟩ := ht
    simp only [writePayload] at h0 hd
    rw [htype] at h0 hd
    exact zeroMeans_of_refused (encode_refused h0) (encode_refused hd)
  · rw [writePayload_of_not_textExpected (by exact ht)] at h0 hd
    constructor
    · intro h
      by_contra hc
      simp only [UnframedAnyway, not_or, not_and, not_le, not_not] at hc
      have hsame : encodeWriteRequest spec.parameterId value 0 spec.dataType =
          encodeWriteRequest spec.parameterId value spec.defaultInstance spec.dataType := by
        rw [← h0, ← hd]
        exact (wrapped_eq_iff fun _ _ => WireRequest.payload.inj).mp h.encodes
      refine encodeWriteRequest_differs hc.1 hpos ?_ hsame
      by_cases he : Encodable spec.dataType value
      · exact Or.inl he
      · exact Or.inr (hc.2.2 he)
    · intro h
      obtain ⟨e, he, he'⟩ := encodeWriteRequest_same hpos (h.imp_right fun h => h.resolve_left ht)
      rw [he] at h0
      rw [he'] at hd
      exact zeroMeans_of_refused (encode_refused h0) (encode_refused hd)

theorem read_modbus_iff {target : Ident} (hr : ctx.registry.resolve target = .ok spec)
    (ha : Admitted spec (.read target)) :
    ZeroMeansDefault lib ctx spec .modbus (.read target) ↔
      ∀ encoding, specEncoding lib spec ≠ .ok encoding := by
  have h0 := readModbusEncode_admitted lib hr (checkedInstance_zero spec) ha
  have hd := readModbusEncode_admitted lib hr (checkedInstance_default spec) ha
  have hne : spec.defaultInstance ≠ 0 := by
    have := ha.1
    omega
  rcases error_or_ok (specEncoding lib spec) with ⟨e, he⟩ | ⟨encoding, he⟩
  · refine iff_of_true ?_ (by simp [he])
    rw [he, error_bind] at h0 hd
    exact zeroMeans_of_refused (encode_refused h0) (encode_refused hd)
  · refine iff_of_false ?_ fun h => h encoding he
    intro h
    have heq := (wrapped_eq_iff fun _ _ => WireRequest.op.inj).mp h.encodes
    obtain ⟨e, hreg, hk⟩ := modbusRegisterAddress_zero hne
    rw [he, ok_bind, hreg, error_bind] at h0
    rw [he, ok_bind, modbusRegisterAddress_default, ok_bind] at hd
    exact bare_not_unsupported (make_bare _ _ _ _) (hd.symm.trans (heq.symm.trans h0)) hk

theorem write_modbus_iff {target : Ident} {value : PyValue}
    (hr : ctx.registry.resolve target = .ok spec) (ha : Admitted spec (.write target value)) :
    ZeroMeansDefault lib ctx spec .modbus (.write target value) ↔
      ∀ encoding, specEncoding lib spec ≠ .ok encoding := by
  have h0 := writeModbusEncode_admitted lib hr (checkedInstance_zero spec) ha
  have hd := writeModbusEncode_admitted lib hr (checkedInstance_default spec) ha
  have hne : spec.defaultInstance ≠ 0 := by
    have := ha.1.1
    omega
  rcases error_or_ok (specEncoding lib spec) with ⟨e, he⟩ | ⟨encoding, he⟩
  · refine iff_of_true ?_ (by simp [he])
    rw [he, error_bind] at h0 hd
    exact zeroMeans_of_refused (encode_refused h0) (encode_refused hd)
  · refine iff_of_false ?_ fun h => h encoding he
    intro h
    have heq := (wrapped_eq_iff fun _ _ => WireRequest.op.inj).mp h.encodes
    rw [he, ok_bind] at h0 hd
    exact modbusWriteAt_differs encoding hne (h0.symm.trans (heq.trans hd))

end Main

/-- Instance zero means the default instance exactly where the instance makes no difference. -/
theorem zero_means_default_iff (lib : AnyModbus) (ctx : CommandContext) (spec : ParameterSpec)
    (bus : Bus) (access : Access) (hr : ctx.registry.resolve access.target = .ok spec) :
    ZeroMeansDefault lib ctx spec bus access ↔ RefusedAnyway lib spec bus access := by
  by_cases ha : Admitted spec access
  · simp only [RefusedAnyway, ha, not_true_eq_false, false_or]
    cases bus with
    | stdbus =>
      cases access with
      | read target => exact read_stdbus_iff hr ha
      | write target value => exact write_stdbus_iff hr ha
    | modbus =>
      cases access with
      | read target => exact read_modbus_iff hr ha
      | write target value => exact write_modbus_iff hr ha
  · exact iff_of_true (not_admitted_means hr ha) (Or.inl ha)

def oneRow : CommandContext := ⟨.build [plainRow 4001 "process_value"] [] [], 1, "COM3"⟩

theorem zero_is_sent :
    readStdBusEncode oneRow ⟨.id 4001, 0⟩ = .ok [0x01, 0x03, 0x01, 4, 1, 0] ∧
      readStdBusEncode oneRow ⟨.id 4001, 1⟩ = .ok [0x01, 0x03, 0x01, 4, 1, 1] ∧
      ¬ ZeroMeansDefault wordModbus oneRow (plainRow 4001 "process_value") .stdbus
        (.read (.id 4001)) ∧
      ¬ ZeroMeansDefault wordModbus oneRow (plainRow 4001 "process_value") .modbus
        (.read (.id 4001)) := by
  refine ⟨by decide +kernel, by decide +kernel, fun h => ?_, fun h => ?_⟩
  · have heq := (wrapped_eq_iff fun _ _ => WireRequest.payload.inj).mp h.encodes
    revert heq
    decide +kernel
  · have heq := (wrapped_eq_iff fun _ _ => WireRequest.op.inj).mp h.encodes
    revert heq
    decide +kernel

theorem zero_means_default_readOnly :
    ZeroMeansDefault wordModbus
      ⟨.build [{ plainRow 4001 "process_value" with rwes := .r }] [] [], 1, "COM3"⟩
      { plainRow 4001 "process_value" with rwes := .r } .stdbus
      (.write (.id 4001) (.num (.int 5))) :=
  (zero_means_default_iff wordModbus _ _ .stdbus (.write (.id 4001) (.num (.int 5)))
    (by decide +kernel)).mpr (Or.inl fun h => h.2.1 rfl)

end InstanceDefaults
