import Watlowlib.ExceptRules
import Watlowlib.WatlowErrors

/-! # Modbus operations

One Modbus transaction. An operation carries the proof that its own constructor checks passed,
so an address outside the register space or a count a function code cannot carry is not built. -/
namespace ModbusOps

open ExceptRules PythonValues WatlowErrors

abbrev Words := List UInt16

inductive ModbusFn where
  | readHolding
  | readInput
  | writeRegister
  | writeRegisters
  deriving DecidableEq, Repr

def ModbusFn.value : ModbusFn → String
  | .readHolding => "read_holding"
  | .readInput => "read_input"
  | .writeRegister => "write_register"
  | .writeRegisters => "write_registers"

def ModbusFn.Writes (fn : ModbusFn) : Prop := fn = .writeRegister ∨ fn = .writeRegisters

instance (fn : ModbusFn) : Decidable fn.Writes :=
  inferInstanceAs (Decidable (fn = .writeRegister ∨ fn = .writeRegisters))

def ModbusFn.maxCount : ModbusFn → ℕ
  | .readHolding => 125
  | .readInput => 125
  | .writeRegister => 1
  | .writeRegisters => 123

def checkCount (fn : ModbusFn) (count : ℕ) : Result PUnit :=
  if fn = .writeRegister then
    require (count = 1)
      (formatted .valueError [.text fn.value, .text " expects count=1, got ", .int count])
  else
    require (1 ≤ count ∧ count ≤ fn.maxCount)
      (formatted .valueError [.text fn.value, .text " count ", .int count,
        .text " out of range (1..", .int fn.maxCount, .text ")"])

def checkValues (fn : ModbusFn) (count : ℕ) (values : Option Words) : Result PUnit :=
  match values with
  | none =>
    require (¬ fn.Writes) ⟨.valueError, [.text fn.value, .text " requires non-None values"], {}⟩
  | some ws =>
    if fn = .writeRegister then
      require (ws.length = 1)
        ⟨.valueError, [.text "write_register expects exactly one value, got ", .int ws.length], {}⟩
    else if fn = .writeRegisters then
      require (ws.length = count)
        (formatted .valueError [.text "write_registers values length ", .int ws.length,
          .text " != count ", .int count])
    else raise .valueError [.text fn.value, .text " does not accept values"]

def checkOp (fn : ModbusFn) (address : ℤ) (count : ℕ) (values : Option Words) : Result PUnit := do
  require (0 ≤ address ∧ address ≤ 0xFFFF)
    (formatted .valueError
      [.text "register address ", .int address, .text " out of range (0..0xFFFF)"])
  checkCount fn count
  checkValues fn count values

structure ModbusOp where
  fn : ModbusFn
  address : ℤ
  count : ℕ
  values : Option Words
  checked : checkOp fn address count values = .ok ⟨⟩
  deriving DecidableEq

def ModbusOp.make (fn : ModbusFn) (address : ℤ) (count : ℕ) (values : Option Words) :
    Result ModbusOp :=
  match h : checkOp fn address count values with
  | .ok _ => .ok ⟨fn, address, count, values, h⟩
  | .error e => .error e

theorem make_ok_iff {fn : ModbusFn} {address : ℤ} {count : ℕ} {values : Option Words}
    {op : ModbusOp} :
    ModbusOp.make fn address count values = .ok op ↔
      op.fn = fn ∧ op.address = address ∧ op.count = count ∧ op.values = values := by
  simp only [ModbusOp.make]
  split
  · rename_i h
    constructor
    · intro ho
      cases ho
      exact ⟨rfl, rfl, rfl, rfl⟩
    · obtain ⟨fn', address', count', values', h'⟩ := op
      rintro ⟨rfl, rfl, rfl, rfl⟩
      rfl
  · rename_i e h
    constructor
    · intro ho
      cases ho
    · rintro ⟨rfl, rfl, rfl, rfl⟩
      rw [op.checked] at h
      cases h

theorem checkOp_ok_iff {fn : ModbusFn} {address : ℤ} {count : ℕ} {values : Option Words} :
    checkOp fn address count values = .ok ⟨⟩ ↔
      (0 ≤ address ∧ address ≤ 0xFFFF) ∧ checkCount fn count = .ok ⟨⟩ ∧
        checkValues fn count values = .ok ⟨⟩ := by
  simp only [checkOp]
  constructor
  · intro h
    obtain ⟨_, ha, h⟩ := bind_ok_iff.mp h
    obtain ⟨_, hc, hv⟩ := bind_ok_iff.mp h
    exact ⟨require_ok_iff.mp ha, hc, hv⟩
  · rintro ⟨ha, hc, hv⟩
    rw [require_of _ ha, hc, hv]
    rfl

theorem checkOp_error_kind {fn : ModbusFn} {address : ℤ} {count : ℕ} {values : Option Words}
    {e : PyError} (h : checkOp fn address count values = .error e) : e.kind = .valueError := by
  have hreq : ∀ {p : Prop} [Decidable p] {m : Message},
      require p (⟨.valueError, m, {}⟩ : PyError) = .error e → e.kind = .valueError := by
    intro p _ m h
    rw [← (require_error_iff.mp h).2]
  have hformatted : ∀ {p : Prop} [Decidable p] {m : Message},
      require p (formatted .valueError m) = .error e → e.kind = .valueError := by
    intro p _ m h
    rw [← (require_error_iff.mp h).2, formatted_kind, ite_self]
  rcases bind_error_iff.mp h with h | ⟨_, -, h⟩
  · exact hformatted h
  · rcases bind_error_iff.mp h with h | ⟨_, -, h⟩
    · simp only [checkCount] at h
      split at h
      · exact hformatted h
      · exact hformatted h
    · simp only [checkValues] at h
      split at h
      · exact hreq h
      · split at h
        · exact hreq h
        · split at h
          · exact hformatted h
          · cases h
            rfl

end ModbusOps
