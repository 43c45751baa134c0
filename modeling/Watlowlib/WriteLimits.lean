import Watlowlib.EncoderContracts
import Watlowlib.ParameterLoader

/-! # The limits of a write

The instance and the value that an encoded write carries, against the limits of its row. The
range check compares `float(value)` and looks for violations, so it lets through whatever does
not compare; the instance check looks at the default instance for zero, but zero is sent. -/
namespace WriteLimits

open EncoderContracts EncodingChecks ModbusCodec ModbusOps ParameterCommands ParameterLoader
  PythonNumbers PythonValues Registry StdBusPayload WatlowErrors

variable {lib : AnyModbus} {ctx : CommandContext} {request : WriteParameterRequest}
  {spec : ParameterSpec}

def InRange (spec : ParameterSpec) (value : PyValue) : Prop :=
  ∀ n, value = .num n →
    (∀ lo ∈ spec.rangeMin, lo.Le n.exact) ∧ (∀ hi ∈ spec.rangeMax, n.exact.Le hi)

def carriedInstance (bs : Bytes) : ℤ := (bs.getD 4 0).toNat

/-- Every write that one of the encoders accepts carries an instance of its row and a value in
range. A Modbus operation addresses the registers of the instance it was asked for. -/
structure WritesInRange (lib : AnyModbus) (ctx : CommandContext)
    (request : WriteParameterRequest) : Prop where
  stdbus : ∀ spec bs, ctx.registry.resolve request.nameOrId = .ok spec →
    writeStdBusEncode ctx request = .ok bs →
    1 ≤ carriedInstance bs ∧ carriedInstance bs ≤ spec.maxInstance ∧ InRange spec request.value
  modbus : ∀ spec op, ctx.registry.resolve request.nameOrId = .ok spec →
    writeModbusEncode lib ctx request = .ok op →
    1 ≤ request.instanceNo ∧ request.instanceNo ≤ spec.maxInstance ∧ InRange spec request.value

/-- Both bounds and the value compare, and `float(value)` is on the value's own side of them. -/
structure Compares (lo hi : PyFloat) (n : PyNum) : Prop where
  lower : lo ≠ .nan
  upper : hi ≠ .nan
  value : n.exact ≠ .nan
  above : ∀ x, toFloat n = .ok x → lo.Le x → lo.Le n.exact
  below : ∀ x, toFloat n = .ok x → x.Le hi → n.exact.Le hi

/-- Both bounds are declared and compare with the value, or there is none; a bound that is
declared alone is not checked. -/
def BoundsMeant (spec : ParameterSpec) (n : PyNum) : Prop :=
  match spec.rangeMin, spec.rangeMax with
  | none, none => True
  | some lo, some hi => Compares lo hi n
  | some lo, none => lo.Le n.exact
  | none, some hi => n.exact.Le hi

/-- The loader declares both bounds of a row or neither. -/
theorem built_bounds {raw : Row} (h : BuiltFrom raw spec) :
    spec.rangeMin = none ↔ spec.rangeMax = none := by
  obtain ⟨bounds, hmin, hmax⟩ := h.range
  rw [hmin, hmax]
  cases bounds <;> simp

theorem toFloat_nan_iff {n : PyNum} {x : PyFloat} (h : toFloat n = .ok x) :
    x = .nan ↔ n.exact = .nan := by
  cases n with
  | float y =>
    cases h
    exact PyFloat.unsigned_eq_nan.symm
  | bool b =>
    cases h
    simp [PyNum.exact]
  | int i =>
    unfold toFloat at h
    simp only at h
    split at h
    · cases h
      simp [PyNum.exact]
    · cases h

theorem inRange_iff {n : PyNum} (hp : PassesRange spec (.num n)) :
    InRange spec (.num n) ↔ BoundsMeant spec n := by
  simp only [InRange, BoundsMeant]
  cases hmin : spec.rangeMin with
  | none => cases hmax : spec.rangeMax <;> simp
  | some lo =>
    cases hmax : spec.rangeMax with
    | none => simp
    | some hi =>
      obtain ⟨x, hx, hlo, hhi⟩ := hp lo hmin hi hmax
      simp only [PyValue.num.injEq, forall_eq', Option.mem_some]
      constructor
      · rintro ⟨hl, hu⟩
        refine ⟨?_, ?_, ?_, fun _ _ _ => hl, fun _ _ _ => hu⟩
        · rintro rfl
          exact PyFloat.not_nan_le _ hl
        · rintro rfl
          exact PyFloat.not_le_nan _ hu
        · intro hn
          rw [hn] at hl
          exact PyFloat.not_le_nan _ hl
      · rintro ⟨hlnan, hunan, hnan, habove, hbelow⟩
        have hxnan : x ≠ .nan := fun h => hnan ((toFloat_nan_iff hx).mp h)
        constructor
        · exact habove x hx ((PyFloat.not_lt_iff_le hxnan hlnan).mp hlo)
        · exact hbelow x hx ((PyFloat.not_lt_iff_le hunan hxnan).mp hhi)

theorem inRange_iff_of_passes {value : PyValue} (hp : PassesRange spec value) :
    InRange spec value ↔ ∀ n, value = .num n → BoundsMeant spec n := by
  cases value with
  | str s => simp [InRange]
  | num n => simpa using inRange_iff hp

theorem carried_of_ok {bs : Bytes}
    (hbs : encodeWriteRequest spec.parameterId request.value request.instanceNo spec.dataType =
      .ok bs) : carriedInstance bs = request.instanceNo := by
  obtain ⟨hfit, tail, -, rfl⟩ := encodeWriteRequest_ok_iff.mp hbs
  obtain ⟨-, -, hlo, hhi⟩ := hfit
  have hbyte : carriedInstance ([dirRequest, fnWrite] ++
      selectorBytes spec.parameterId request.instanceNo ++ tail) =
      (UInt8.ofNat request.instanceNo.toNat).toNat := rfl
  rw [hbyte, UInt8.toNat_ofNat']
  omega

theorem instance_of_ne_zero {target : Ident} {instanceNo : ℤ}
    (h : Requested ctx target instanceNo spec) (hne : instanceNo ≠ 0) :
    1 ≤ instanceNo ∧ instanceNo ≤ spec.maxInstance := by
  have hlo := h.lower
  have hhi := h.upper
  rw [checkedInstance, if_neg hne] at hlo hhi
  exact ⟨hlo, hhi⟩

theorem instance_of_default {target : Ident} {instanceNo : ℤ}
    (h : Requested ctx target instanceNo spec) (hdefault : instanceNo = spec.defaultInstance) :
    1 ≤ instanceNo ∧ instanceNo ≤ spec.maxInstance := by
  have hchecked : checkedInstance spec instanceNo = instanceNo := by
    simp only [checkedInstance]
    split
    · exact hdefault.symm
    · rfl
  have hlo := h.lower
  have hhi := h.upper
  rw [hchecked] at hlo hhi
  exact ⟨hlo, hhi⟩

/-- Encoded writes are in range exactly when no accepted one has instance zero on the Standard
Bus, a value or a bound that does not compare, a bound declared alone that it breaks, or a value
that `float()` rounds across a bound. -/
theorem writesInRange_iff (lib : AnyModbus) (ctx : CommandContext)
    (request : WriteParameterRequest) :
    WritesInRange lib ctx request ↔ ∀ spec,
      (StdBusAccepts ctx request spec → request.instanceNo ≠ 0) ∧
      (StdBusAccepts ctx request spec ∨ ModbusAccepts lib ctx request spec →
        ∀ n, request.value = .num n → BoundsMeant spec n) := by
  constructor
  · intro h spec
    have hstdbus : StdBusAccepts ctx request spec →
        1 ≤ request.instanceNo ∧ InRange spec request.value := by
      intro ha
      obtain ⟨bs, hbs⟩ := encodeWriteRequest_accepts_iff.mpr ⟨ha.selector, ha.encodable⟩
      obtain ⟨hlo, -, hrange⟩ := h.stdbus spec bs ha.requested.resolved
        (writeStdBus_ok_iff.mpr ⟨spec, ha, hbs⟩)
      rw [carried_of_ok hbs] at hlo
      exact ⟨hlo, hrange⟩
    constructor
    · intro ha
      have := (hstdbus ha).1
      omega
    · rintro (ha | ha)
      · exact (inRange_iff_of_passes ha.passes).mp (hstdbus ha).2
      · obtain ⟨op, hop⟩ := writeModbus_accepts_iff.mpr ⟨spec, ha⟩
        obtain ⟨-, -, hrange⟩ := h.modbus spec op ha.requested.resolved hop
        exact (inRange_iff_of_passes ha.passes).mp hrange
  · intro h
    constructor
    · intro spec bs hspec henc
      obtain ⟨spec', ha, hbs⟩ := writeStdBus_ok_iff.mp henc
      cases hspec.symm.trans ha.requested.resolved
      rw [carried_of_ok hbs]
      obtain ⟨hlo, hhi⟩ := instance_of_ne_zero ha.requested ((h spec).1 ha)
      exact ⟨hlo, hhi, (inRange_iff_of_passes ha.passes).mpr ((h spec).2 (Or.inl ha))⟩
    · intro spec op hspec henc
      obtain ⟨spec', ha⟩ := writeModbus_accepts_iff.mp ⟨op, henc⟩
      cases hspec.symm.trans ha.requested.resolved
      obtain ⟨hlo, hhi⟩ := instance_of_default ha.requested ha.default
      exact ⟨hlo, hhi, (inRange_iff_of_passes ha.passes).mpr ((h spec).2 (Or.inr ha))⟩

def percentRow : ParameterSpec :=
  { plainRow 7011 "fixed_power" with
    dataType := .float
    rangeMin := some (.finite 0)
    rangeMax := some (.finite 100) }

def percentRegistry : CommandContext := ⟨.build [percentRow] [] [], 1, "COM3"⟩

theorem nan_written : ¬ ∀ (lib : AnyModbus) (ctx : CommandContext)
    (request : WriteParameterRequest), WritesInRange lib ctx request := by
  intro h
  have hrange := (h wordModbus percentRegistry ⟨.id 7011, .num (.float .nan), 1⟩).stdbus percentRow
    [0x01, 0x04, 0x07, 0x0B, 0x01, 0x08, 0x7F, 0xC0, 0x00, 0x00] (by decide +kernel)
    (by decide +kernel)
  exact PyFloat.not_le_nan _ ((hrange.2.2 _ rfl).1 (.finite 0) rfl)

end WriteLimits
