import Watlowlib.ModbusPanels
import Watlowlib.StdBusPanels

/-! # One program, either protocol

Devices that hold the same parameters, one behind the Standard Bus and one behind Modbus: a program
of reads and writes ends alike on both, and leaves the same parameters in both. The lines do not
fail and the devices answer. Of a call that raises a program learns nothing but that. -/
namespace ProtocolTransparency

open Dialogues EncoderContracts ModbusCodec ParameterCommands ParameterPanels ParameterStores
  PythonNumbers PythonValues RegisterCodec RegisterFiles Registry StdBusClient StdBusPayload
  StdBusTlv WatlowErrors

variable {lib : AnyModbus} {registry : ParameterRegistry} {rows : Rows lib registry} {α : Type}

/-- Over either protocol a program of agreed calls ends as on the panel, and leaves the device and
the session as it leaves the panel: it cannot tell which protocol it runs on. -/
theorem protocols_transparent (rows : Rows lib registry) (hlib : Lawful lib)
    (client : StdBusProtocolClient) (cut : Bytes → List Bytes) (timeout timeout' : Option PyFloat)
    (hlive : client.disposed = false) (hcut : ∀ bs, (cut bs).flatten = bs) (d : Program α)
    (hd : Asks (Agreed rows) d) (p : Panel) (std : StdBusPanels.Side) (mod : ModbusPanels.Side)
    (hstd : StdBusPanels.Shows rows p std) (hmod : ModbusPanels.Shows rows p mod) :
    let panel := run (panelHandler lib registry) d p
    let overStdBus := run (StdBusPanels.sideHandler lib client cut timeout) d std
    let overModbus := run (ModbusPanels.sideHandler lib timeout') d mod
    overModbus.1 = overStdBus.1 ∧ overStdBus.1 = panel.1 ∧
      StdBusPanels.Shows rows panel.2 overStdBus.2 ∧
      ModbusPanels.Shows rows panel.2 overModbus.2 := by
  have hstdRun := @Asks.simulates _ _ _ _ _ _ (panelHandler lib registry) _
    (StdBusPanels.sideHandler lib client cut timeout) (Agreed rows) (StdBusPanels.Shows rows)
    (fun c _ _ hc h => StdBusPanels.ask_shows timeout hlive hcut hc h) nofun d hd p std hstd
  have hmodRun := @Asks.simulates _ _ _ _ _ _ (panelHandler lib registry) _
    (ModbusPanels.sideHandler lib timeout') (Agreed rows) (ModbusPanels.Shows rows)
    (fun c _ _ hc h => ModbusPanels.ask_shows timeout' hlib hc h) nofun d hd p mod hmod
  exact ⟨hmodRun.1.trans hstdRun.1.symm, hstdRun.1, hstdRun.2, hmodRun.2⟩

def counter : ParameterSpec :=
  { plainRow 8001 "counter" with
    dataType := .s32
    registerCount := 2
    wordOrder := some "low_high" }

def processValue : ParameterSpec := plainRow 4001 "process_value"

def twoRows : List ParameterSpec := [counter, processValue]

def twoRegistry : ParameterRegistry := .build twoRows [] []

theorem twoRows_carried : ∀ spec ∈ twoRows, Carried byteModbus twoRegistry spec := by
  have hencoding : ∀ spec ∈ twoRows, ∃ encoding, specEncoding byteModbus spec = .ok encoding := by
    have hsome : ∀ spec ∈ twoRows, (specEncoding byteModbus spec).toOption.isSome = true := by
      decide +kernel
    intro spec hspec
    have hspecSome := hsome spec hspec
    cases hencoding : specEncoding byteModbus spec with
    | ok encoding => exact ⟨encoding, rfl⟩
    | error e =>
      rw [hencoding] at hspecSome
      cases hspecSome
  have hbyId : ∀ spec ∈ twoRows, twoRegistry.resolve (.id spec.parameterId) = .ok spec := by
    decide +kernel
  have hselector : ∀ spec ∈ twoRows,
      (0 ≤ spec.parameterId / 1000 ∧ spec.parameterId / 1000 ≤ 255) ∧
        (0 ≤ spec.parameterId % 1000 ∧ spec.parameterId % 1000 ≤ 255) ∧
        0 ≤ spec.defaultInstance ∧ spec.defaultInstance ≤ 255 := by decide +kernel
  have hregisters : ∀ spec ∈ twoRows,
      (0 ≤ spec.relativeAddr ∧ spec.relativeAddr ≤ 0xFFFF) ∧ effectiveCount spec ≤ 123 ∧
        (spec.dataType ≠ .string → effectiveCount spec = defaultCount spec.dataType) := by
    decide +kernel
  have hscale : ∀ spec ∈ twoRows, spec.scale = .finite 1 := by decide +kernel
  intro spec hspec
  obtain ⟨hcls, hmember, hinstance⟩ := hselector spec hspec
  exact ⟨hbyId spec hspec, ⟨hcls, hmember, hinstance⟩, hscale spec hspec, hencoding spec hspec,
    hregisters spec hspec⟩

theorem twoRows_apart : ∀ spec ∈ twoRows, ∀ spec' ∈ twoRows, spec.parameterId ≠ spec'.parameterId →
    Apart spec.relativeAddr (effectiveCount spec) spec'.relativeAddr (effectiveCount spec') := by
  simp only [twoRows, List.forall_mem_cons, Apart]
  decide +kernel

def benchRows : Rows byteModbus twoRegistry where
  Mem spec := spec ∈ twoRows
  carried := twoRows_carried
  apart spec spec' hspec hspec' := twoRows_apart spec hspec spec' hspec'

def fivePanel : Panel := ⟨fun _ => none, fun i => if i = 8001 then some (.num (.int 5)) else none⟩

def fiveStdBus : StdBusPanels.Side where
  session := ⟨.stdbus, twoRegistry, 1, "COM3", ∅, none⟩
  unread := []
  arrived := []
  memory selector := if selector = (8, 1, 1) then some [DataType.s32.tag, 0, 0, 0, 5] else none

def fiveModbus : ModbusPanels.Side where
  session := ⟨.modbusRtu, twoRegistry, 17, "COM4", ∅, none⟩
  bank address := if address = 8001 then some 5 else if address = 8002 then some 0 else none

theorem fiveStdBus_shows : StdBusPanels.Shows benchRows fivePanel fiveStdBus := by
  have hcounter : encodeValue .s32 (.num (.int 5)) = .ok [DataType.s32.tag, 0, 0, 0, 5] := by
    decide +kernel
  have hmemory : ∀ spec ∈ twoRows, StdBusPanels.Keeps spec (fivePanel.values spec.parameterId)
      (fiveStdBus.memory (StdBusPanels.selectorOf spec)) := by
    simp only [twoRows, List.forall_mem_cons]
    exact ⟨.held ⟨by decide, by decide⟩ hcounter, .absent, fun _ h => absurd h List.not_mem_nil⟩
  exact ⟨⟨rfl, rfl, fun _ => rfl⟩, by decide, rfl, hmemory⟩

theorem fiveModbus_shows : ModbusPanels.Shows benchRows fivePanel fiveModbus := by
  have hencoding : specEncoding byteModbus counter =
      .ok (ProtocolAgreement.rowEncoding .s32 .lowHigh 2) := by decide +kernel
  have hwords : decodeWords byteModbus [5, 0] .s32
      (ProtocolAgreement.rowEncoding .s32 .lowHigh 2) = .ok (.num (.int 5)) := by decide +kernel
  have hbank : ∀ spec ∈ twoRows, ModbusPanels.Keeps byteModbus spec
      (fivePanel.values spec.parameterId)
      (load fiveModbus.bank spec.relativeAddr (effectiveCount spec)) := by
    simp only [twoRows, List.forall_mem_cons]
    exact ⟨.held hencoding hwords, .absent, fun _ h => absurd h List.not_mem_nil⟩
  exact ⟨⟨rfl, rfl, fun _ => rfl⟩, by decide, hbank⟩

/-- The counter is set to a negative number, and what is read then goes to the other row. -/
def relay : Program Outcome :=
  .ask ⟨.write ⟨.name "counter", .num (.int (-70000)), 1⟩, true⟩ fun _ =>
    .ask ⟨.read ⟨.id 8001, 1⟩, false⟩ fun found =>
      .ask ⟨.write ⟨.id 4001, .num (.int (if found = none then 0 else 1)), 1⟩, true⟩ .done

theorem relay_agreed : Asks (Agreed benchRows) relay := by
  have hcounter : twoRegistry.resolve (.name "counter") = .ok counter ∧
      twoRegistry.resolve (.id 8001) = .ok counter := by decide +kernel
  have hprocess : twoRegistry.resolve (.id 4001) = .ok processValue := by decide +kernel
  refine ⟨fun spec h => ?_, fun _ => ⟨fun spec h => ?_, fun found => ⟨fun spec h => ?_, fun _ =>
    trivial⟩⟩⟩
  · cases hcounter.1.symm.trans h
    refine ⟨List.mem_cons_self, rfl, fun value hvalue => ?_⟩
    cases hvalue
    exact ⟨⟨by decide, by decide⟩, nofun⟩
  · cases hcounter.2.symm.trans h
    exact ⟨List.mem_cons_self, rfl, nofun⟩
  · cases hprocess.symm.trans h
    refine ⟨List.mem_cons_of_mem _ List.mem_cons_self, rfl, fun value hvalue => ?_⟩
    cases hvalue
    refine ⟨?_, nofun⟩
    split
    · exact ⟨by decide, by decide⟩
    · exact ⟨by decide, by decide⟩

theorem relay_transparent :
    (run (ModbusPanels.sideHandler byteModbus none) relay fiveModbus).1 =
      (run (StdBusPanels.sideHandler byteModbus ⟨false, "COM3"⟩ (fun bs => [bs]) none) relay
        fiveStdBus).1 :=
  (protocols_transparent benchRows byteModbus_strict.toLawful ⟨false, "COM3"⟩ (fun bs => [bs]) none
    none rfl (fun bs => List.append_nil bs) relay relay_agreed fivePanel fiveStdBus fiveModbus
    fiveStdBus_shows fiveModbus_shows).1

end ProtocolTransparency
