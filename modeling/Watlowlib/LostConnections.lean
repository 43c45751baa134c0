import Watlowlib.IdentityOutcomes
import Watlowlib.LoopGains

/-! # Lost connections and absent parameters

The tolerant reads of `identify` and of `read_pid` catch the transport errors as a whole, so a
connection that is lost reads as a parameter that is not there. -/
namespace LostConnections

open Dialogues Discovery ExceptRules IdentityOutcomes IdentityStrategies LoopGains ModbusCodec
  ParameterCommands PythonNumbers PythonValues Registry SessionExecute WatlowErrors

section ReadPid

def floatValue : PyValue → Result (Option PyFloat)
  | .num n => (toFloat n).map some
  | .str _ => .ok none

abbrev GainsDialogue := Dialogue PidField (Result ParameterEntry) PUnit PyError

def safeReadFloat (field : PidField) : GainsDialogue (Option PyFloat) :=
  .ask field fun answer => .ofExcept (taken false floatValue answer)

def putGain (gains : PidGains) (field : PidField) : Option PyFloat → PidGains
  | none => gains
  | some x => field.set gains (.num (.float x))

/-- The loop of `read_pid`; a gain of the cool side is skipped where there is no cooling. -/
def readFields (capabilities : Option ℕ) : List PidField → PidGains → GainsDialogue PidGains
  | [], gains => .done gains
  | field :: fields, gains =>
    if field.coolOnly = true ∧ hasCooling capabilities = false then
      readFields capabilities fields gains
    else do
      let value ← safeReadFloat field
      readFields capabilities fields (putGain gains field value)

variable {σ : Type} (lib : AnyModbus) (wire : Wire σ) (instanceNo : ℤ)

def gainsHandler : Handler PidField (Result ParameterEntry) PUnit (Session × σ) where
  ask field st :=
    let x := execute st.1 (readParameter lib) ⟨.name field.name, instanceNo⟩ false
      fun request => (wire st.1.address request st.2).1
    (x.response, x.after, x.emitted.elim st.2 fun request => (wire st.1.address request st.2).2)
  tell _ st := st

def readPid (capabilities : Option ℕ) (st : Session × σ) : Result PidGains × (Session × σ) :=
  run (gainsHandler lib wire instanceNo) (readFields capabilities pidFields .empty) st

def gainsAnswers (capabilities : Option ℕ) (st : Session × σ) :
    List (PidField × Result ParameterEntry) :=
  transcript (gainsHandler lib wire instanceNo) (readFields capabilities pidFields .empty) st

end ReadPid

/-- What the helpers promise to let through. -/
def Grave (e : PyError) : Prop := e.kind.IsInstance .connection ∨ e.kind.IsInstance .configuration

/-- What they promise to swallow: the device rejects the parameter, or stays silent. -/
def Absent (e : PyError) : Prop := e.kind.IsInstance .protocol ∨ e.kind.IsInstance .timeout

section Reports

variable {Q α : Type}

/-- A call reports each grave error of its reads, raises none of the others, and leaves empty
what depends on a parameter that is absent. -/
structure Reports (empty : Q → α → Prop) (r : Result α) (t : List (Q × Result ParameterEntry)) :
    Prop where
  grave : ∀ q e, (q, .error e) ∈ t → Grave e → r = .error e
  quiet : ∀ e, r = .error e → ¬ Absent e
  absent : ∀ q e a, (q, .error e) ∈ t → Absent e → r = .ok a → empty q a

def LosesConnection (t : List (Q × Result ParameterEntry)) : Prop :=
  ∃ q e, (q, .error e) ∈ t ∧ e.kind.IsInstance .connection

/-- What the tolerant reads make of the errors: they raise those that are neither protocol nor
transport errors, and empty what depends on the others. -/
structure Tolerates (empty : Q → α → Prop) (r : Result α)
    (t : List (Q × Result ParameterEntry)) : Prop where
  raised : ∀ q e, (q, .error e) ∈ t → ¬ Tolerated e → r = .error e
  only : ∀ e, r = .error e → ¬ Tolerated e
  absent : ∀ q e a, (q, .error e) ∈ t → Tolerated e → r = .ok a → empty q a

theorem absent_tolerated {e : PyError} (h : Absent e) : Tolerated e := by
  rcases h with h | h
  · exact Or.inl h
  · exact Or.inr (isInstance_trans h (by decide))

theorem configuration_not_tolerated {e : PyError} (h : e.kind.IsInstance .configuration) :
    ¬ Tolerated e := by
  simp only [Tolerated]
  revert h
  cases e.kind <;> decide

theorem Tolerates.reports_iff {empty : Q → α → Prop} {r : Result α}
    {t : List (Q × Result ParameterEntry)} (h : Tolerates empty r t) :
    Reports empty r t ↔ ¬ LosesConnection t := by
  constructor
  · rintro hr ⟨q, e, hm, hc⟩
    apply h.only e (hr.grave q e hm (Or.inl hc))
    exact Or.inr (isInstance_trans hc (by decide))
  · intro hn
    refine ⟨?_, ?_, ?_⟩
    · rintro q e hm (hc | hc)
      · exact absurd ⟨q, e, hm, hc⟩ hn
      · exact h.raised q e hm (configuration_not_tolerated hc)
    · exact fun e he ha => h.only e he (absent_tolerated ha)
    · exact fun q e a hm ha hr => h.absent q e a hm (absent_tolerated ha) hr

end Reports

section Rules

variable {Q N α β : Type} {empty : Q → α → Prop} {past : List (Q × Result ParameterEntry)}

def Quiet (t : List (Q × Result ParameterEntry)) : Prop :=
  ∀ q e, (q, .error e) ∈ t → Tolerated e

theorem quiet_nil : Quiet ([] : List (Q × Result ParameterEntry)) := by
  intro q e h
  cases h

theorem Quiet.snoc {q : Q} {answer : Result ParameterEntry} (h : Quiet past)
    (ha : ∀ e, answer = .error e → Tolerated e) : Quiet (past ++ [(q, answer)]) := by
  intro q' e hm
  rcases List.mem_append.mp hm with hm | hm
  · exact h q' e hm
  · cases List.mem_singleton.mp hm
    exact ha e rfl

theorem Quiet.raises {e : PyError} (h : Quiet past) (he : ¬ Tolerated e) :
    Tolerates empty (.error e : Result α) past := by
  refine ⟨fun q e' hm hn => absurd (h q e' hm) hn, ?_, ?_⟩
  · rintro e' heq
    cases heq
    exact he
  · rintro q e' a _ _ heq
    cases heq

theorem Quiet.returns {a : α} (h : Quiet past)
    (hempty : ∀ q e, (q, .error e) ∈ past → empty q a) :
    Tolerates empty (.ok a : Result α) past := by
  refine ⟨fun q e' hm hn => absurd (h q e' hm) hn, ?_, ?_⟩
  · rintro e heq
    cases heq
  · rintro q e a' hm _ heq
    cases heq
    exact hempty q e hm

theorem taken_none {pick : PyValue → Result (Option β)} {e : PyError} {value : Option β}
    (h : taken false pick (.error e) = .ok value) : value = none := by
  simp only [taken] at h
  split at h
  · exact (Except.ok.inj h).symm
  · cases h

theorem ensures_taken {q : Q} {pick : PyValue → Result (Option β)}
    {f : Option β → Dialogue Q (Result ParameterEntry) N PyError α}
    (hpick : ∀ value e, pick value = .error e → ¬ Tolerated e) (hpast : Quiet past)
    (hf : ∀ answer value, taken false pick answer = .ok value → Quiet (past ++ [(q, answer)]) →
      Ensures (Tolerates empty) (f value) (past ++ [(q, answer)])) :
    Ensures (Tolerates empty) (.ask q fun answer => .ofExcept (taken false pick answer) >>= f)
      past := by
  refine fun answer => ensures_bind.mpr (ensures_ofExcept.mpr ?_)
  cases answer with
  | ok entry =>
    have hquiet : Quiet (past ++ [(q, .ok entry)]) := hpast.snoc fun e he => by cases he
    simp only [taken]
    cases hv : pick entry.value with
    | error e => exact hquiet.raises (hpick _ e hv)
    | ok value => exact hf (.ok entry) value hv hquiet
  | error e =>
    by_cases he : Tolerated e
    · have htaken : taken false pick (.error e) = .ok none := if_pos ⟨rfl, he⟩
      rw [htaken]
      exact hf (.error e) none htaken (hpast.snoc fun e' heq => by cases heq; exact he)
    · have htaken : taken false pick (.error e) = .error e := if_neg fun h => he h.2
      rw [htaken]
      refine ⟨?_, ?_, ?_⟩
      · intro q' e' hm hn
        rcases List.mem_append.mp hm with hm | hm
        · exact absurd (hpast q' e' hm) hn
        · cases List.mem_singleton.mp hm
          rfl
      · rintro e' heq
        cases heq
        exact he
      · rintro q' e' a _ _ heq
        cases heq

end Rules

section Picks

theorem not_tolerated_of_kind {e : PyError}
    (h : e.kind = .validation ∨ e.kind = .overflowError ∨ e.kind = .valueError) :
    ¬ Tolerated e := by
  simp only [Tolerated]
  rcases h with h | h | h
  · rw [h]; decide
  · rw [h]; decide
  · rw [h]; decide

theorem textValue_raises {value : PyValue} {e : PyError} (h : textValue value = .error e) :
    ¬ Tolerated e := by
  cases value with
  | str s => cases h
  | num n => cases h

theorem intValue_raises {value : PyValue} {e : PyError} (h : intValue value = .error e) :
    ¬ Tolerated e := by
  obtain ⟨n, -, h⟩ := intValue_error_iff.mp h
  apply not_tolerated_of_kind
  rcases toInt_error_kind h with hk | hk
  · exact Or.inr (Or.inr hk)
  · exact Or.inr (Or.inl hk)

theorem floatValue_raises {value : PyValue} {e : PyError} (h : floatValue value = .error e) :
    ¬ Tolerated e := by
  cases value with
  | str s => cases h
  | num n =>
    apply not_tolerated_of_kind
    cases n with
    | int i =>
      simp only [floatValue, toFloat] at h
      split at h
      · cases h
      · cases h
        exact Or.inr (Or.inl rfl)
    | bool b => cases h
    | float x => cases h

end Picks

section Strategies

variable {α : Type} {empty : IdentityRead → DeviceInfo → Prop} {past : Answers}

theorem ensures_safeStr {target : Ident} {f : Option String → Strategy DeviceInfo}
    (hpast : Quiet past)
    (hf : ∀ answer value, taken false textValue answer = .ok value →
      Quiet (past ++ [(⟨target, .text, false⟩, answer)]) →
      Ensures (Tolerates empty) (f value) (past ++ [(⟨target, .text, false⟩, answer)])) :
    Ensures (Tolerates empty) (readStr target false >>= f) past :=
  ensures_taken (fun _ _ => textValue_raises) hpast hf

theorem ensures_safeInt {target : Ident} {f : Option ℤ → Strategy DeviceInfo}
    (hpast : Quiet past)
    (hf : ∀ answer value, taken false intValue answer = .ok value →
      Quiet (past ++ [(⟨target, .number, false⟩, answer)]) →
      Ensures (Tolerates empty) (f value) (past ++ [(⟨target, .number, false⟩, answer)])) :
    Ensures (Tolerates empty) (readInt target false >>= f) past :=
  ensures_taken (fun _ _ => intValue_raises) hpast hf

theorem ensures_unit {code : Option ℤ} {f : PUnit → Strategy DeviceInfo}
    (hf : Ensures (Tolerates empty) (f ⟨⟩) past) :
    Ensures (Tolerates empty) (adoptUnit code >>= f) past := by
  cases code with
  | none => exact hf
  | some code => exact hf

theorem ensures_configured (queryConfiguredProtocol : Bool) {f : Option ℤ → Strategy DeviceInfo}
    (hpast : Quiet past)
    (hf : ∀ code later,
      (∀ q e, (q, .error e) ∈ later → q = ⟨.id 17009, .number, false⟩ ∧ code = none) →
      Quiet (past ++ later) → Ensures (Tolerates empty) (f code) (past ++ later)) :
    Ensures (Tolerates empty)
      (if queryConfiguredProtocol then readInt (.id 17009) false >>= f else .done none >>= f)
      past := by
  cases queryConfiguredProtocol with
  | false =>
    have hnone := hf none [] (by simp) (by rwa [List.append_nil])
    rw [List.append_nil] at hnone
    exact hnone
  | true =>
    refine ensures_safeInt hpast fun answer code htaken h => hf code _ ?_ h
    intro q e hm
    obtain ⟨rfl, rfl⟩ := Prod.mk.inj (List.mem_singleton.mp hm)
    exact ⟨rfl, taken_none htaken⟩

/-- What stays empty in the answer of each strategy when a parameter is absent. -/
def emptyField (strategy : IdentifyStrategy) (q : IdentityRead) (info : DeviceInfo) : Prop :=
  match strategy with
  | .ezzone =>
    (q.target = .name "part_number" → info.partNumber = "" ∧ info.health = .failed) ∧
      (q.target = .name "hardware_id" → info.hardwareId = none) ∧
      (q.target = .name "firmware_id" → info.firmwareId = none) ∧
      (q.target = .name "serial_number" → info.serialNumber = none) ∧
      (q.target = .id 17009 → info.configuredProtocol = none)
  | .seriesSd =>
    (q.target = .name "software_id" → info.hardwareId = none ∧ info.health = .failed) ∧
      (q.target = .name "software_version" → info.firmwareId = none)
  | .f4p =>
    (q.target = .name "model_code" → info.hardwareId = none ∧ info.health = .failed) ∧
      (q.target = .name "software_id" → info.firmwareId = none) ∧
      (q.target ∈ [.name "software_id", .name "input_1_decimal", .name "units"] →
        info.health ≠ .ok)

variable (session : Session)

theorem ezzone_tolerates (queryConfiguredProtocol : Bool) :
    Ensures (Tolerates (emptyField .ezzone))
      (ezzoneIdentify session false queryConfiguredProtocol) [] := by
  refine ensures_safeStr quiet_nil fun a₁ part h₁ h => ?_
  refine ensures_safeInt h fun a₂ hardwareId h₂ h => ?_
  refine ensures_safeInt h fun a₃ firmwareId h₃ h => ?_
  refine ensures_safeStr h fun a₄ serialNumber h₄ h => ?_
  refine ensures_configured queryConfiguredProtocol h fun code later hcode h => ?_
  refine h.returns fun q e hm => ?_
  rcases List.mem_append.mp hm with hm | hm
  · simp only [List.nil_append, List.cons_append, List.mem_cons, Prod.mk.injEq, List.not_mem_nil,
      or_false] at hm
    rcases hm with ⟨rfl, rfl⟩ | ⟨rfl, rfl⟩ | ⟨rfl, rfl⟩ | ⟨rfl, rfl⟩
    · cases taken_none h₁
      simp [emptyField, identityHealth]
    · cases taken_none h₂
      simp [emptyField]
    · cases taken_none h₃
      simp [emptyField]
    · cases taken_none h₄
      simp [emptyField]
  · obtain ⟨rfl, rfl⟩ := hcode q e hm
    simp [emptyField]

theorem seriesSd_tolerates :
    Ensures (Tolerates (emptyField .seriesSd)) (seriesSdIdentify session false) [] := by
  refine ensures_safeInt quiet_nil fun a₁ softwareId h₁ h => ?_
  refine ensures_safeInt h fun a₂ softwareVersion h₂ h => ?_
  refine ensures_safeInt h fun a₃ softwareBuild _ h => ?_
  refine ensures_safeInt h fun a₄ serialHi _ h => ?_
  refine ensures_safeInt h fun a₅ serialLo _ h => ?_
  refine ensures_safeInt h fun a₆ unitsCode _ h => ?_
  refine ensures_unit (h.returns fun q e hm => ?_)
  simp only [List.nil_append, List.cons_append, List.mem_cons, Prod.mk.injEq, List.not_mem_nil,
    or_false] at hm
  rcases hm with ⟨rfl, rfl⟩ | ⟨rfl, rfl⟩ | ⟨rfl, rfl⟩ | ⟨rfl, rfl⟩ | ⟨rfl, rfl⟩ | ⟨rfl, rfl⟩
  · cases taken_none h₁
    simp [emptyField]
  · cases taken_none h₂
    simp [emptyField]
  · simp [emptyField]
  · simp [emptyField]
  · simp [emptyField]
  · simp [emptyField]

theorem f4p_tolerates (base : ParameterRegistry) :
    Ensures (Tolerates (emptyField .f4p)) (f4pIdentify session false base) [] := by
  refine ensures_safeInt quiet_nil fun a₁ model h₁ h => ?_
  by_cases hmodel : model ≠ some f4pModelCode
  · rw [if_pos hmodel]
    refine h.returns fun q e hm => ?_
    simp only [List.nil_append, List.mem_cons, Prod.mk.injEq, List.not_mem_nil, or_false] at hm
    obtain ⟨rfl, rfl⟩ := hm
    simp [emptyField, f4pInfo]
  · rw [if_neg hmodel]
    refine ensures_safeInt h fun a₂ serialHi _ h => ?_
    refine ensures_safeInt h fun a₃ serialLo _ h => ?_
    refine ensures_safeInt h fun a₄ softwareId h₄ h => ?_
    refine ensures_safeInt h fun a₅ decimals h₅ h => ?_
    refine ensures_safeInt h fun a₆ unitsCode h₆ h => ?_
    -- Whatever the decimal places do to the registry, the answer is the same.
    have hreturns : Tolerates (emptyField .f4p)
        (.ok (f4pInfo session model softwareId (f4pSerialNumber serialHi serialLo)
          (if softwareId = none ∨ decimals = none ∨ unitsCode = none then .incomplete else .ok)))
        ([] ++ [(⟨.name "model_code", .number, false⟩, a₁)] ++
          [(⟨.name "serial_number_high", .number, false⟩, a₂)] ++
          [(⟨.name "serial_number_low", .number, false⟩, a₃)] ++
          [(⟨.name "software_id", .number, false⟩, a₄)] ++
          [(⟨.name "input_1_decimal", .number, false⟩, a₅)] ++
          [(⟨.name "units", .number, false⟩, a₆)]) := by
      refine h.returns fun q e hm => ?_
      simp only [List.nil_append, List.cons_append, List.mem_cons, Prod.mk.injEq,
        List.not_mem_nil, or_false] at hm
      rcases hm with ⟨rfl, rfl⟩ | ⟨rfl, rfl⟩ | ⟨rfl, rfl⟩ | ⟨rfl, rfl⟩ | ⟨rfl, rfl⟩ | ⟨rfl, rfl⟩
      · exact absurd (taken_none h₁ ▸ hmodel) (by simp)
      · simp [emptyField]
      · simp [emptyField]
      · cases taken_none h₄
        simp [emptyField, f4pInfo]
      · cases taken_none h₅
        simp [emptyField, f4pInfo]
      · cases taken_none h₆
        simp [emptyField, f4pInfo]
    cases decimals with
    | none => exact ensures_unit hreturns
    | some places =>
      simp only [adoptDecimals]
      rcases error_or_ok (base.withDecimalPlaces f4pDecimalRegister places) with ⟨e, he⟩ | ⟨r, hr⟩
      · rw [he]
        apply h.raises
        apply not_tolerated_of_kind
        exact decimalScale_error ((withDecimalPlaces_error_iff base).mp he)
      · rw [hr]
        exact ensures_unit hreturns

theorem strategy_tolerates (profile : DeviceProfile) (queryConfiguredProtocol : Bool) :
    Ensures (Tolerates (emptyField profile.identify))
      (profile.strategy session false queryConfiguredProtocol) [] := by
  simp only [DeviceProfile.strategy]
  cases profile.identify with
  | ezzone => exact ezzone_tolerates session queryConfiguredProtocol
  | seriesSd => exact seriesSd_tolerates session
  | f4p => exact f4p_tolerates session profile.registry

end Strategies

section Gains

def emptyGain (field : PidField) (gains : PidGains) : Prop := field.value gains = none

theorem value_put_ne {field other : PidField} (h : other ≠ field) (gains : PidGains)
    (value : Option PyFloat) : other.value (putGain gains field value) = other.value gains := by
  cases value with
  | none => rfl
  | some x => cases field <;> cases other <;> first | rfl | exact absurd rfl h

theorem readFields_tolerates (capabilities : Option ℕ) (fields : List PidField)
    (gains : PidGains) (past : List (PidField × Result ParameterEntry)) (hnodup : fields.Nodup)
    (hquiet : Quiet past) (hempty : ∀ q e, (q, .error e) ∈ past → emptyGain q gains)
    (hpast : ∀ x ∈ past, x.1 ∉ fields) (hfresh : ∀ field ∈ fields, emptyGain field gains) :
    Ensures (Tolerates emptyGain) (readFields capabilities fields gains) past := by
  induction fields generalizing gains past with
  | nil => exact hquiet.returns hempty
  | cons field fields ih =>
    obtain ⟨hnot, hnodup⟩ := List.nodup_cons.mp hnodup
    have hlater : ∀ x ∈ past, x.1 ∉ fields := fun x hx hm => hpast x hx (by simp [hm])
    simp only [readFields]
    split
    · exact ih gains past hnodup hquiet hempty hlater fun f hf => hfresh f (by simp [hf])
    · refine ensures_taken (fun _ _ => floatValue_raises) hquiet fun answer value hv hq => ?_
      have hother : ∀ f, f ≠ field → emptyGain f gains → emptyGain f (putGain gains field value) :=
        fun f hne hf => (value_put_ne hne gains value).trans hf
      refine ih _ _ hnodup hq ?_ ?_ ?_
      · intro q e hm
        rcases List.mem_append.mp hm with hold | hnew
        · refine hother q ?_ (hempty q e hold)
          rintro rfl
          exact hpast _ hold (by simp)
        · cases List.mem_singleton.mp hnew
          cases taken_none hv
          exact hfresh field (by simp)
      · intro x hx
        rcases List.mem_append.mp hx with hx | hx
        · exact hlater x hx
        · cases List.mem_singleton.mp hx
          exact hnot
      · intro f hf
        refine hother f ?_ (hfresh f (by simp [hf]))
        rintro rfl
        exact hnot hf

theorem readPid_tolerates (capabilities : Option ℕ) :
    Ensures (Tolerates emptyGain) (readFields capabilities pidFields .empty) [] := by
  refine readFields_tolerates capabilities pidFields .empty [] (by decide) quiet_nil ?_ ?_ ?_
  · rintro q e hm
    cases hm
  · rintro x hx
    cases hx
  · intro field _
    cases field <;> rfl

end Gains

/-- Exactly the lost connections go unreported: by the strategy of every profile, and by
`read_pid`. -/
theorem lost_connection_unreported_iff {σ : Type} (lib : AnyModbus) (wire : Wire σ)
    (profile : DeviceProfile) (queryConfiguredProtocol : Bool) (c : Controller σ)
    (instanceNo : ℤ) (capabilities : Option ℕ) (st : Session × σ) :
    (Reports (emptyField profile.identify)
        (identify lib wire profile false queryConfiguredProtocol c).1
        (identityAnswers lib wire profile false queryConfiguredProtocol c) ↔
      ¬ LosesConnection (identityAnswers lib wire profile false queryConfiguredProtocol c)) ∧
    (Reports emptyGain (readPid lib wire instanceNo capabilities st).1
        (gainsAnswers lib wire instanceNo capabilities st) ↔
      ¬ LosesConnection (gainsAnswers lib wire instanceNo capabilities st)) :=
  ⟨((strategy_tolerates c.session profile queryConfiguredProtocol).run _ c).reports_iff,
    ((readPid_tolerates capabilities).run _ st).reports_iff⟩

def lostError : PyError := ⟨.connection, [.text "device disconnected"], {}⟩

def goneWire : Wire PUnit := fun _ _ s => (.error lostError, s)

def goneController : Controller PUnit :=
  ⟨⟨.stdbus, .build [plainRow 1009 "part_number", plainRow 1001 "hardware_id",
    plainRow 1002 "firmware_id", plainRow 1032 "serial_number"] [] [], 1, "COM3", ∅, none⟩,
    none, ⟨⟩⟩

def goneLoop : Session × PUnit :=
  (⟨.stdbus, .build [plainRow 8009 "heat_proportional_band",
    plainRow 8012 "cool_proportional_band", plainRow 8006 "time_integral",
    plainRow 8007 "time_derivative", plainRow 8008 "dead_band"] [] [], 1, "COM3", ∅, none⟩, ⟨⟩)

def goneIdentity : Result DeviceInfo × Answers :=
  ((identify wordModbus goneWire (ezzoneProfile goneController.session.registry) false false
      goneController).1,
    identityAnswers wordModbus goneWire (ezzoneProfile goneController.session.registry) false false
      goneController)

def goneGains : Result PidGains × List (PidField × Result ParameterEntry) :=
  ((readPid wordModbus goneWire 1 none goneLoop).1,
    gainsAnswers wordModbus goneWire 1 none goneLoop)

/-- With the line gone, `identify` still returns a device of failed health, and `read_pid` returns
gains that are all empty. -/
theorem goneLine_unreported :
    ¬ Reports (emptyField .ezzone) goneIdentity.1 goneIdentity.2 ∧
      ¬ Reports emptyGain goneGains.1 goneGains.2 := by
  have hidentity : goneIdentity.1 ≠ .error lostError ∧
      (⟨.name "part_number", .text, false⟩, .error lostError) ∈ goneIdentity.2 := by
    decide +kernel
  have hgains : goneGains.1 = .ok .empty ∧
      (.heatProportionalBand, .error lostError) ∈ goneGains.2 := by
    decide +kernel
  constructor
  · intro h
    exact hidentity.1 (h.grave _ _ hidentity.2 (Or.inl (by decide)))
  · intro h
    rw [hgains.1] at h
    cases h.grave _ _ hgains.2 (Or.inl (by decide))

end LostConnections
