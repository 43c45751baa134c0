import Watlowlib.WriteLimits

/-! # Where a register address comes from

The register that a request is lowered to, against the address field of the row its parameter was
loaded from. A field that denotes no integer loads as register zero like any other address, and
nothing looks for rows whose spans overlap. -/
namespace ModbusAddresses

open Dictionaries EncoderContracts EncodingChecks ExceptRules ModbusCodec ModbusOps
  ParameterCommands ParameterLoader PythonNumbers PythonTexts PythonValues Registry WatlowErrors
  WriteLimits

/-- A row of a table with the specification that the loader makes of it. -/
structure LoadedRow where
  raw : Row
  spec : ParameterSpec
  built : buildSpec raw = .ok (some spec)

/-- The address the row gives: an integer, or a text that `int()` parses. -/
def LoadedRow.address (row : LoadedRow) : Option ℤ :=
  match get row.raw "relative_addr" with
  | .int i => some i
  | .str text => parseInt text
  | _ => none

theorem LoadedRow.copied (row : LoadedRow) : BuiltFrom row.raw row.spec :=
  buildSpec_built row.built

theorem LoadedRow.coerced {row : LoadedRow} {a : ℤ} (h : row.address = some a) :
    coerceInt (get row.raw "relative_addr") = a := by
  simp only [LoadedRow.address] at h
  split at h
  · next i hi =>
    rw [hi]
    exact Option.some.inj h
  · next text htext =>
    rw [htext]
    exact congrArg (·.getD 0) h
  · cases h

variable {lib : AnyModbus} {ctx : CommandContext} {row : LoadedRow} {spec : ParameterSpec}

def Targets (ctx : CommandContext) (row : LoadedRow) (target : Ident) : Prop :=
  ∃ spec, ctx.registry.resolve target = .ok spec ∧ SameRow row.spec spec

/-- A read or a write of the row's parameter becomes `op`. -/
inductive Lowered (lib : AnyModbus) (ctx : CommandContext) (row : LoadedRow) :
    ℤ → ModbusOp → Prop where
  | read {request : ReadParameterRequest} {op : ModbusOp} (h : Targets ctx row request.nameOrId)
      (hop : readModbusEncode lib ctx request = .ok op) : Lowered lib ctx row request.instanceNo op
  | write {request : WriteParameterRequest} {op : ModbusOp} (h : Targets ctx row request.nameOrId)
      (hop : writeModbusEncode lib ctx request = .ok op) :
      Lowered lib ctx row request.instanceNo op

/-- Operations start at the address the row gives, for the default instance and with the count
of the data type; without an address every read and write is refused with a typed error. -/
structure AddressFaithful (row : LoadedRow) : Prop where
  lowered : ∀ lib ctx instanceNo op, Lowered lib ctx row instanceNo op →
    row.address = some op.address ∧ op.count = defaultCount row.spec.dataType ∧
      instanceNo = row.spec.defaultInstance
  readRefused : row.address = none → ∀ lib ctx (request : ReadParameterRequest),
    Targets ctx row request.nameOrId →
    ∃ e : PyError, readModbusEncode lib ctx request = .error e ∧ e.IsWatlow
  writeRefused : row.address = none → ∀ lib ctx (request : WriteParameterRequest),
    Targets ctx row request.nameOrId →
    ∃ e : PyError, writeModbusEncode lib ctx request = .error e ∧ e.IsWatlow

theorem LoadedRow.effectiveCount (row : LoadedRow) (h : SameRow row.spec spec) :
    effectiveCount spec = defaultCount row.spec.dataType := by
  have hcount := row.copied.registerCount
  have hsame : EncoderContracts.effectiveCount spec = EncoderContracts.effectiveCount row.spec :=
    h.proj EncoderContracts.effectiveCount fun _ _ _ => rfl
  rw [hsame, EncoderContracts.effectiveCount, hcount, ite_self]

theorem Lowered.contract {instanceNo : ℤ} {op : ModbusOp} (h : Lowered lib ctx row instanceNo op) :
    op.address = coerceInt (get row.raw "relative_addr") ∧
      op.count = defaultCount row.spec.dataType ∧ instanceNo = row.spec.defaultInstance := by
  have hop : ∃ target, Targets ctx row target ∧ ∃ spec, Requested ctx target instanceNo spec ∧
      instanceNo = spec.defaultInstance ∧ op.address = spec.relativeAddr ∧
      op.count = effectiveCount spec := by
    cases h with
    | read ht hop =>
      obtain ⟨spec, hr, hi, haddress, hcount, -⟩ := readModbus_ok hop
      exact ⟨_, ht, spec, hr, hi, haddress, hcount⟩
    | write ht hop =>
      obtain ⟨spec, hr, -, hi, haddress, hcount⟩ := writeModbus_ok hop
      exact ⟨_, ht, spec, hr, hi, haddress, hcount⟩
  obtain ⟨target, ⟨spec, hspec, hsame⟩, spec', hr, hi, haddress, hcount⟩ := hop
  cases hspec.symm.trans hr.resolved
  have hdefault := hsame.proj (·.defaultInstance) fun _ _ _ => rfl
  have haddr := hsame.proj (·.relativeAddr) fun _ _ _ => rfl
  exact ⟨haddress.trans (haddr.trans row.copied.relativeAddr),
    hcount.trans (row.effectiveCount hsame), hi.trans hdefault⟩

theorem Lowered.address {instanceNo a : ℤ} {op : ModbusOp} (h : Lowered lib ctx row instanceNo op)
    (ha : row.address = some a) : op.address = a :=
  h.contract.1.trans (LoadedRow.coerced ha)

theorem Lowered.unaddressed {instanceNo : ℤ} {op : ModbusOp}
    (h : Lowered lib ctx row instanceNo op)
    (hnone : integerOf (get row.raw "relative_addr") = none) : op.address = 0 := by
  rw [h.contract.1, coerceInt, hnone]
  rfl

theorem readRefused {request : ReadParameterRequest} (ht : Targets ctx row request.nameOrId)
    (hother : request.instanceNo ≠ row.spec.defaultInstance) :
    ∃ e, readModbusEncode lib ctx request = .error e := by
  rcases error_or_ok (readModbusEncode lib ctx request) with he | ⟨op, hop⟩
  · exact he
  · have hlowered : Lowered lib ctx row request.instanceNo op := .read ht hop
    exact absurd hlowered.contract.2.2 hother

theorem writeRefused {request : WriteParameterRequest} (ht : Targets ctx row request.nameOrId)
    (hother : request.instanceNo ≠ row.spec.defaultInstance) :
    ∃ e, writeModbusEncode lib ctx request = .error e := by
  rcases error_or_ok (writeModbusEncode lib ctx request) with he | ⟨op, hop⟩
  · exact he
  · have hlowered : Lowered lib ctx row request.instanceNo op := .write ht hop
    exact absurd hlowered.contract.2.2 hother

def Touches (op : ModbusOp) (register : ℤ) : Prop :=
  op.address ≤ register ∧ register < op.address + op.count

/-- The registers that the row's address and data type cover. -/
def LoadedRow.Covers (row : LoadedRow) (register : ℤ) : Prop :=
  ∃ a, row.address = some a ∧ a ≤ register ∧ register < a + defaultCount row.spec.dataType

theorem Lowered.touches_iff {instanceNo register : ℤ} {op : ModbusOp}
    (h : Lowered lib ctx row instanceNo op) (ha : row.address ≠ none) :
    Touches op register ↔ row.Covers register := by
  obtain ⟨a, ha⟩ := Option.ne_none_iff_exists'.mp ha
  have hstart := h.address ha
  have hcount := h.contract.2.1
  simp only [Touches, LoadedRow.Covers, hstart, hcount, ha, Option.some.injEq,
    exists_eq_left']

/-- A request is lowered for the default instance alone, with the count of the data type and at
the address of the row where the row gives one; two rows that give addresses share the registers
that the spans of both cover. -/
theorem registers_from_addresses (lib : AnyModbus) (ctx : CommandContext) (row : LoadedRow) :
    (∀ instanceNo op, Lowered lib ctx row instanceNo op →
      instanceNo = row.spec.defaultInstance ∧ op.count = defaultCount row.spec.dataType ∧
        ∀ a, row.address = some a → op.address = a) ∧
    (∀ request : ReadParameterRequest, Targets ctx row request.nameOrId →
      request.instanceNo ≠ row.spec.defaultInstance →
      ∃ e, readModbusEncode lib ctx request = .error e) ∧
    (∀ request : WriteParameterRequest, Targets ctx row request.nameOrId →
      request.instanceNo ≠ row.spec.defaultInstance →
      ∃ e, writeModbusEncode lib ctx request = .error e) ∧
    ∀ (other : LoadedRow) instance₁ instance₂ op₁ op₂, Lowered lib ctx row instance₁ op₁ →
      Lowered lib ctx other instance₂ op₂ → row.address ≠ none → other.address ≠ none →
      (op₁.address = op₂.address ↔ row.address = other.address) ∧
      ∀ register, Touches op₁ register ∧ Touches op₂ register ↔
        row.Covers register ∧ other.Covers register := by
  refine ⟨?_, fun request => readRefused, fun request => writeRefused, ?_⟩
  · intro instanceNo op hop
    exact ⟨hop.contract.2.2, hop.contract.2.1, fun a ha => hop.address ha⟩
  · intro other instance₁ instance₂ op₁ op₂ hop₁ hop₂ haddress₁ haddress₂
    constructor
    · obtain ⟨a, ha⟩ := Option.ne_none_iff_exists'.mp haddress₁
      obtain ⟨b, hb⟩ := Option.ne_none_iff_exists'.mp haddress₂
      rw [hop₁.address ha, hop₂.address hb, ha, hb, Option.some.injEq]
    · intro register
      rw [hop₁.touches_iff haddress₁, hop₂.touches_iff haddress₂]

/-- The claim's row law for every row, and registers shared by equal addresses only. -/
def NoInventedAddress : Prop :=
  (∀ row, AddressFaithful row) ∧
    ∀ lib ctx (row other : LoadedRow) instance₁ instance₂ op₁ op₂ register,
      row.spec.parameterId ≠ other.spec.parameterId → Lowered lib ctx row instance₁ op₁ →
      Lowered lib ctx other instance₂ op₂ → Touches op₁ register → Touches op₂ register →
      row.address = other.address

def processValue (parameterId member : ℤ) (dataType : String) (address : ℤ) : Row :=
  ofList [("parameter_id", .int parameterId), ("name", .str "Analog Input - Process Value"),
    ("class_id", .int 4), ("member_id", .int member), ("max_instance", .int 2),
    ("data_type", .str dataType), ("unit_kind", .str "temperature"), ("rwes", .str "R"),
    ("relative_addr", .int address)]

def floatAt360 : LoadedRow where
  raw := processValue 4001 1 "IEEE Float" 360
  spec := { plainRow 4001 "process_value" with
    dataType := .float
    unitKind := .temperature
    rwes := .r
    safety := .readOnly
    relativeAddr := 360
    registerCount := 2 }
  built := by decide +kernel

def wordAt361 : LoadedRow where
  raw := processValue 4002 2 "unsigned 16-bit" 361
  spec := { plainRow 4002 "process_value" with
    dataType := .u16
    unitKind := .temperature
    rwes := .r
    safety := .readOnly
    relativeAddr := 361 }
  built := by decide +kernel

def overlapping : CommandContext := ⟨.build [floatAt360.spec, wordAt361.spec] [] [], 1, "COM3"⟩

theorem floatAt360_lowered :
    ∃ op, Lowered wordModbus overlapping floatAt360 1 op ∧ Touches op 361 := by
  have ht : Targets overlapping floatAt360 (.id 4001) := ⟨floatAt360.spec, by decide +kernel, rfl⟩
  have hop : readModbusEncode wordModbus overlapping ⟨.id 4001, 1⟩ =
      .ok ⟨.readHolding, 360, 2, none, by decide⟩ := by decide +kernel
  have hlowered : Lowered wordModbus overlapping floatAt360 1 _ := .read ht hop
  exact ⟨_, hlowered, by simp [Touches]⟩

theorem wordAt361_lowered :
    ∃ op, Lowered wordModbus overlapping wordAt361 1 op ∧ Touches op 361 := by
  have ht : Targets overlapping wordAt361 (.id 4002) := ⟨wordAt361.spec, by decide +kernel, rfl⟩
  have hop : readModbusEncode wordModbus overlapping ⟨.id 4002, 1⟩ =
      .ok ⟨.readHolding, 361, 1, none, by decide⟩ := by decide +kernel
  have hlowered : Lowered wordModbus overlapping wordAt361 1 _ := .read ht hop
  exact ⟨_, hlowered, by simp [Touches]⟩

theorem spans_overlap : ¬ NoInventedAddress := by
  rintro ⟨-, hshared⟩
  obtain ⟨op₁, hop₁, ht₁⟩ := floatAt360_lowered
  obtain ⟨op₂, hop₂, ht₂⟩ := wordAt361_lowered
  have hsame := hshared _ _ floatAt360 wordAt361 1 1 op₁ op₂ 361 (by decide) hop₁ hop₂ ht₁ ht₂
  exact absurd hsame (by decide)

end ModbusAddresses
