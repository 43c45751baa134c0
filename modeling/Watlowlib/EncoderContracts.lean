import Watlowlib.EncodingChecks

/-! # What the four encoders accept

One contract for each step of an encoder, and from them the requests that each encoder accepts
and the requests that it refuses with typed errors only. -/
namespace EncoderContracts

open EncodingChecks ExceptRules ModbusCodec ModbusOps ParameterCommands PythonNumbers PythonValues
  Registry StdBusPayload StdBusTlv WatlowErrors

variable {lib : AnyModbus} {ctx : CommandContext} {spec : ParameterSpec}

/-- The target names `spec` and the instance, or the default one for zero, is one of its own. -/
structure Requested (ctx : CommandContext) (target : Ident) (instanceNo : ℤ)
    (spec : ParameterSpec) : Prop where
  resolved : ctx.registry.resolve target = .ok spec
  lower : 1 ≤ checkedInstance spec instanceNo
  upper : checkedInstance spec instanceNo ≤ spec.maxInstance

theorem resolveRequest_ok_iff {target : Ident} {instanceNo : ℤ} :
    resolveRequest ctx target instanceNo = .ok spec ↔ Requested ctx target instanceNo spec := by
  constructor
  · intro h
    obtain ⟨s, hs, h⟩ := bind_ok_iff.mp h
    obtain ⟨_, hv, h⟩ := bind_ok_iff.mp h
    cases h
    exact ⟨hs, (require_ok_iff.mp hv).1, (require_ok_iff.mp hv).2⟩
  · rintro ⟨hs, hlo, hhi⟩
    exact bind_ok_iff.mpr ⟨spec, hs, bind_ok_iff.mpr ⟨⟨⟩, require_ok_iff.mpr ⟨hlo, hhi⟩, rfl⟩⟩

theorem validation_typed {e : PyError} (h : e.kind = .validation) : e.IsWatlow := by
  simp only [PyError.IsWatlow]
  rw [h]
  decide

theorem validateWritable_ok_iff {u : PUnit} : validateWritable spec = .ok u ↔ spec.rwes ≠ .r :=
  require_ok_iff

/-- The range check lets the value pass: a text, a row without both bounds, or a number whose
float is neither below the lower bound nor above the upper one. -/
def PassesRange (spec : ParameterSpec) : PyValue → Prop
  | .str _ => True
  | .num n => ∀ lo ∈ spec.rangeMin, ∀ hi ∈ spec.rangeMax,
      ∃ x, toFloat n = .ok x ∧ ¬ x.Lt lo ∧ ¬ hi.Lt x

theorem validateValue_ok_iff {value : PyValue} {u : PUnit} :
    validateValue spec value = .ok u ↔ PassesRange spec value := by
  cases value with
  | str s => exact iff_of_true rfl trivial
  | num n =>
    simp only [validateValue, PassesRange]
    cases spec.rangeMin with
    | none => simp
    | some lo =>
      cases spec.rangeMax with
      | none => simp
      | some hi =>
        simp only [bind_ok_iff, require_ok_iff, Option.mem_some, forall_eq', not_or]

section StdBus

def TextExpected (spec : ParameterSpec) (value : PyValue) : Prop :=
  spec.dataType = .string ∧ ∃ n, value = .num n

/-- What a write has to meet to become a Standard Bus payload. -/
structure StdBusAccepts (ctx : CommandContext) (request : WriteParameterRequest)
    (spec : ParameterSpec) : Prop where
  requested : Requested ctx request.nameOrId request.instanceNo spec
  writable : spec.rwes ≠ .r
  passes : PassesRange spec request.value
  selector : SelectorFits spec.parameterId request.instanceNo
  encodable : Encodable spec.dataType request.value

theorem not_textExpected_of_encodable {value : PyValue} (h : Encodable spec.dataType value) :
    ¬ TextExpected spec value := by
  rintro ⟨hs, n, rfl⟩
  rw [hs] at h
  exact h

theorem writePayload_of_not_textExpected {request : WriteParameterRequest}
    (h : ¬ TextExpected spec request.value) :
    writePayload spec request =
      encodeWriteRequest spec.parameterId request.value request.instanceNo spec.dataType := by
  simp only [writePayload]
  split
  · rename_i n hs hn
    exact absurd ⟨hs, n, hn⟩ h
  · rfl

theorem writePayload_textExpected {request : WriteParameterRequest}
    (h : TextExpected spec request.value) :
    ∃ e : PyError, writePayload spec request = .error e ∧ e.IsWatlow := by
  obtain ⟨hs, n, hn⟩ := h
  simp only [writePayload]
  rw [hs, hn]
  exact ⟨_, rfl, validation_typed rfl⟩

theorem writePayload_ok_iff {request : WriteParameterRequest} {bs : Bytes} :
    writePayload spec request = .ok bs ↔
      (SelectorFits spec.parameterId request.instanceNo ∧ Encodable spec.dataType request.value) ∧
        encodeWriteRequest spec.parameterId request.value request.instanceNo spec.dataType =
          .ok bs := by
  by_cases ht : TextExpected spec request.value
  · obtain ⟨e, he, -⟩ := writePayload_textExpected ht
    rw [he]
    constructor
    · intro h
      cases h
    · rintro ⟨⟨-, henc⟩, -⟩
      exact absurd ht (not_textExpected_of_encodable henc)
  · rw [writePayload_of_not_textExpected ht]
    constructor
    · intro h
      exact ⟨encodeWriteRequest_accepts_iff.mp ⟨bs, h⟩, h⟩
    · exact fun h => h.2

theorem writeStdBus_ok_iff {request : WriteParameterRequest} {bs : Bytes} :
    writeStdBusEncode ctx request = .ok bs ↔
      ∃ spec, StdBusAccepts ctx request spec ∧
        encodeWriteRequest spec.parameterId request.value request.instanceNo spec.dataType =
          .ok bs := by
  simp only [writeStdBusEncode]
  simp only [bind_ok_iff, resolveRequest_ok_iff, validateWritable_ok_iff, validateValue_ok_iff,
    writePayload_ok_iff]
  constructor
  · rintro ⟨spec, hr, _, hw, _, hp, ⟨hfit, henc⟩, h⟩
    exact ⟨spec, ⟨hr, hw, hp, hfit, henc⟩, h⟩
  · rintro ⟨spec, ⟨hr, hw, hp, hfit, henc⟩, h⟩
    exact ⟨spec, hr, ⟨⟩, hw, ⟨⟩, hp, ⟨hfit, henc⟩, h⟩

end StdBus

section Modbus

def effectiveCount (spec : ParameterSpec) : ℕ :=
  if spec.registerCount = 0 then defaultCount spec.dataType else spec.registerCount

theorem effectiveCount_pos (spec : ParameterSpec) : 1 ≤ effectiveCount spec := by
  simp only [effectiveCount]
  split
  · cases spec.dataType <;> decide
  · omega

def AddressFits (spec : ParameterSpec) : Prop :=
  0 ≤ spec.relativeAddr ∧ spec.relativeAddr ≤ 0xFFFF

/-- The scaled value: `round(value / scale)` of a number on a scaled row, else the value. -/
def ScalesTo (spec : ParameterSpec) (value scaled : PyValue) : Prop :=
  ((∃ s, value = .str s) ∨ spec.scale = .finite 1) ∧ scaled = value ∨
    spec.scale ≠ .finite 1 ∧ ∃ n x y i, value = .num n ∧ toFloat n = .ok x ∧
      divide x spec.scale = .ok y ∧ roundFloat y = .ok i ∧ scaled = .num (.int i)

def RegistersFit (spec : ParameterSpec) : Prop :=
  AddressFits spec ∧ effectiveCount spec ≤ 123 ∧
    (spec.dataType ≠ .string → effectiveCount spec = defaultCount spec.dataType)

structure ModbusAccepts (lib : AnyModbus) (ctx : CommandContext)
    (request : WriteParameterRequest) (spec : ParameterSpec) : Prop where
  requested : Requested ctx request.nameOrId request.instanceNo spec
  writable : spec.rwes ≠ .r
  passes : PassesRange spec request.value
  default : request.instanceNo = spec.defaultInstance
  packs : ∃ encoding scaled, specEncoding lib spec = .ok encoding ∧
    ScalesTo spec request.value scaled ∧ Packs lib spec.dataType encoding scaled
  registers : RegistersFit spec

theorem specEncoding_spec {encoding : ModbusEncoding} (h : specEncoding lib spec = .ok encoding) :
    encoding.registerCount = effectiveCount spec ∧ encoding.readFn = .readHolding :=
  encodingFor_ok lib h

theorem modbusRegisterAddress_ok_iff {instanceNo address : ℤ} :
    modbusRegisterAddress spec instanceNo = .ok address ↔
      instanceNo = spec.defaultInstance ∧ address = spec.relativeAddr := by
  simp only [modbusRegisterAddress]
  split
  · rename_i h
    simp [h, eq_comm]
  · rename_i h
    simp [h]

theorem wireValue_ok_iff {value scaled : PyValue} :
    wireValue spec value = .ok scaled ↔ ScalesTo spec value scaled := by
  simp only [wireValue, ScalesTo]
  cases value with
  | str s => simp [eq_comm]
  | num n =>
    by_cases h : spec.scale = .finite 1
    · simp [h, eq_comm]
    · simp only [if_neg h]
      constructor
      · intro hs
        obtain ⟨x, hx, hs⟩ := bind_ok_iff.mp hs
        obtain ⟨y, hy, hs⟩ := bind_ok_iff.mp hs
        obtain ⟨i, hi, hs⟩ := bind_ok_iff.mp hs
        cases hs
        exact Or.inr ⟨h, n, x, y, i, rfl, hx, hy, hi, rfl⟩
      · rintro (⟨⟨s, hs⟩ | hs, -⟩ | ⟨-, n', x, y, i, hn, hx, hy, hi, rfl⟩)
        · cases hs
        · exact absurd hs h
        · cases hn
          exact bind_ok_iff.mpr ⟨x, hx, bind_ok_iff.mpr ⟨y, hy, bind_ok_iff.mpr ⟨i, hi, rfl⟩⟩⟩

theorem wireValue_bare (spec : ParameterSpec) (value : PyValue) : Bare (wireValue spec value) := by
  simp only [wireValue]
  cases value with
  | str s => exact bare_ok _
  | num n =>
    simp only
    split
    · exact bare_ok _
    · apply (toFloat_bare n).bind
      intro x _
      apply (divide_bare x _).bind
      intro y _
      apply (roundFloat_bare y).bind
      intro i _
      exact bare_ok _

theorem make_bare (fn : ModbusFn) (address : ℤ) (count : ℕ) (values : Option Words) :
    Bare (ModbusOp.make fn address count values) := by
  intro e h
  simp only [ModbusOp.make] at h
  split at h
  · cases h
  · rename_i hc
    cases h
    simp only [PyError.IsWatlow]
    rw [checkOp_error_kind hc]
    decide

theorem make_accepts_iff {fn : ModbusFn} {address : ℤ} {count : ℕ} {values : Option Words} :
    (∃ op, ModbusOp.make fn address count values = .ok op) ↔
      checkOp fn address count values = .ok ⟨⟩ := by
  constructor
  · rintro ⟨op, h⟩
    obtain ⟨rfl, rfl, rfl, rfl⟩ := make_ok_iff.mp h
    exact op.checked
  · intro h
    exact ⟨⟨fn, address, count, values, h⟩, make_ok_iff.mpr ⟨rfl, rfl, rfl, rfl⟩⟩

theorem readOp_check_iff {address : ℤ} {count : ℕ} :
    checkOp .readHolding address count none = .ok ⟨⟩ ↔
      (0 ≤ address ∧ address ≤ 0xFFFF) ∧ 1 ≤ count ∧ count ≤ 125 := by
  have hcount : checkCount .readHolding count = .ok ⟨⟩ ↔ 1 ≤ count ∧ count ≤ 125 := require_ok_iff
  have hvalues : checkValues .readHolding count none = .ok ⟨⟩ := rfl
  rw [checkOp_ok_iff, hcount, and_iff_left hvalues]

theorem writeOp_check_iff {encoding : ModbusEncoding} {address : ℤ} {words : Words}
    (hpos : 1 ≤ encoding.registerCount) :
    checkOp (writeFn encoding) address encoding.registerCount (some words) = .ok ⟨⟩ ↔
      (0 ≤ address ∧ address ≤ 0xFFFF) ∧ encoding.registerCount ≤ 123 ∧
        words.length = encoding.registerCount := by
  rw [checkOp_ok_iff]
  simp only [writeFn]
  split
  · rename_i h
    have hcount : checkCount .writeRegister 1 = .ok ⟨⟩ := rfl
    have hvalues : checkValues .writeRegister 1 (some words) = .ok ⟨⟩ ↔ words.length = 1 :=
      require_ok_iff
    rw [h, hvalues, and_iff_right hcount, and_iff_right (show 1 ≤ 123 by decide)]
  · have hcount : checkCount .writeRegisters encoding.registerCount = .ok ⟨⟩ ↔
        1 ≤ encoding.registerCount ∧ encoding.registerCount ≤ 123 := require_ok_iff
    have hvalues : checkValues .writeRegisters encoding.registerCount (some words) = .ok ⟨⟩ ↔
        words.length = encoding.registerCount := require_ok_iff
    rw [hcount, hvalues, and_iff_right hpos]

theorem writeOp_fits_iff {encoding : ModbusEncoding} {value : PyValue} {words : Words}
    (hspec : specEncoding lib spec = .ok encoding)
    (hwords : encodeValueToWords lib value spec.dataType encoding = .ok words) :
    checkOp (writeFn encoding) spec.relativeAddr encoding.registerCount (some words) = .ok ⟨⟩ ↔
      RegistersFit spec := by
  obtain ⟨hcount, -⟩ := specEncoding_spec hspec
  rw [writeOp_check_iff (hcount ▸ effectiveCount_pos spec), encodeValueToWords_length hwords,
    hcount]
  simp only [RegistersFit, AddressFits]
  by_cases hs : spec.dataType = .string
  · simp [hs]
  · simp [hs, eq_comm]

theorem readModbus_accepts_iff {request : ReadParameterRequest} :
    (∃ op, readModbusEncode lib ctx request = .ok op) ↔
      ∃ spec, Requested ctx request.nameOrId request.instanceNo spec ∧
        request.instanceNo = spec.defaultInstance ∧
        (∃ encoding, specEncoding lib spec = .ok encoding) ∧
        AddressFits spec ∧ effectiveCount spec ≤ 125 := by
  simp only [readModbusEncode]
  simp only [bind_ok_iff, resolveRequest_ok_iff, modbusRegisterAddress_ok_iff]
  constructor
  · rintro ⟨op, spec, hr, encoding, he, _, ⟨hi, rfl⟩, h⟩
    obtain ⟨hcount, hfn⟩ := specEncoding_spec he
    have hcheck := make_accepts_iff.mp ⟨op, h⟩
    rw [hfn, readOp_check_iff, hcount] at hcheck
    exact ⟨spec, hr, hi, ⟨encoding, he⟩, hcheck.1, hcheck.2.2⟩
  · rintro ⟨spec, hr, hi, ⟨encoding, he⟩, ha, hc⟩
    obtain ⟨hcount, hfn⟩ := specEncoding_spec he
    have hcheck := readOp_check_iff.mpr ⟨ha, effectiveCount_pos spec, hc⟩
    rw [← hcount, ← hfn] at hcheck
    obtain ⟨op, h⟩ := make_accepts_iff.mpr hcheck
    exact ⟨op, spec, hr, encoding, he, _, ⟨hi, rfl⟩, h⟩

theorem writeModbus_accepts_iff {request : WriteParameterRequest} :
    (∃ op, writeModbusEncode lib ctx request = .ok op) ↔
      ∃ spec, ModbusAccepts lib ctx request spec := by
  simp only [writeModbusEncode]
  simp only [bind_ok_iff, resolveRequest_ok_iff, validateWritable_ok_iff, validateValue_ok_iff,
    modbusRegisterAddress_ok_iff, wireValue_ok_iff, wireWords_ok_iff]
  constructor
  · rintro ⟨op, spec, hr, _, hw, _, hp, encoding, he, _, ⟨hi, rfl⟩, scaled, hsc, words, hwords, h⟩
    have hcheck := make_accepts_iff.mp ⟨op, h⟩
    exact ⟨spec, hr, hw, hp, hi,
      ⟨encoding, scaled, he, hsc, encodeValueToWords_ok_iff.mp ⟨words, hwords⟩⟩,
      (writeOp_fits_iff he hwords).mp hcheck⟩
  · rintro ⟨spec, hr, hw, hp, hi, ⟨encoding, scaled, he, hsc, hpacks⟩, hregs⟩
    obtain ⟨words, hwords⟩ := encodeValueToWords_ok_iff.mpr hpacks
    obtain ⟨op, h⟩ := make_accepts_iff.mpr ((writeOp_fits_iff he hwords).mpr hregs)
    exact ⟨op, spec, hr, ⟨⟩, hw, ⟨⟩, hp, encoding, he, _, ⟨hi, rfl⟩, scaled, hsc, words, hwords, h⟩

theorem readModbus_ok {request : ReadParameterRequest} {op : ModbusOp}
    (h : readModbusEncode lib ctx request = .ok op) :
    ∃ spec, Requested ctx request.nameOrId request.instanceNo spec ∧
      request.instanceNo = spec.defaultInstance ∧ op.address = spec.relativeAddr ∧
      op.count = effectiveCount spec ∧ op.fn = .readHolding := by
  obtain ⟨spec, hr, h⟩ := bind_ok_iff.mp h
  obtain ⟨encoding, he, h⟩ := bind_ok_iff.mp h
  obtain ⟨address, ha, h⟩ := bind_ok_iff.mp h
  obtain ⟨hi, rfl⟩ := modbusRegisterAddress_ok_iff.mp ha
  obtain ⟨hfn, haddress, hcount, -⟩ := make_ok_iff.mp h
  obtain ⟨hcount', hfn'⟩ := specEncoding_spec he
  exact ⟨spec, resolveRequest_ok_iff.mp hr, hi, haddress, hcount.trans hcount', hfn.trans hfn'⟩

theorem writeModbus_ok {request : WriteParameterRequest} {op : ModbusOp}
    (h : writeModbusEncode lib ctx request = .ok op) :
    ∃ spec, Requested ctx request.nameOrId request.instanceNo spec ∧ spec.rwes ≠ .r ∧
      request.instanceNo = spec.defaultInstance ∧ op.address = spec.relativeAddr ∧
      op.count = effectiveCount spec := by
  obtain ⟨spec, hr, h⟩ := bind_ok_iff.mp h
  obtain ⟨_, hw, h⟩ := bind_ok_iff.mp h
  obtain ⟨_, -, h⟩ := bind_ok_iff.mp h
  obtain ⟨encoding, he, h⟩ := bind_ok_iff.mp h
  obtain ⟨address, ha, h⟩ := bind_ok_iff.mp h
  obtain ⟨_, -, h⟩ := bind_ok_iff.mp h
  obtain ⟨_, -, h⟩ := bind_ok_iff.mp h
  obtain ⟨hi, rfl⟩ := modbusRegisterAddress_ok_iff.mp ha
  obtain ⟨-, haddress, hcount, -⟩ := make_ok_iff.mp h
  exact ⟨spec, resolveRequest_ok_iff.mp hr, validateWritable_ok_iff.mp hw, hi, haddress,
    hcount.trans (specEncoding_spec he).1⟩

end Modbus

end EncoderContracts
