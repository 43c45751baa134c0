import Watlowlib.DecimalPlaces
import Watlowlib.IdentityOutcomes
import Watlowlib.RegisterCodec

/-! # Identifying a Series F4P again and again

Each call reads six registers and then may rebind the session's registry. The identity rows are
unscaled unsigned registers, before and after any rebinding, so a read yields a 16-bit number or
fails; the registry is always the profile's at the scale of the last call that got that far. -/
namespace F4pSessions

open DecimalPlaces Dialogues Dictionaries Discovery ExceptRules IdentityOutcomes
  IdentityStrategies ModbusCodec ModbusOps ParameterCommands PythonNumbers PythonTexts PythonValues
  RegisterCodec Registry SessionExecute StdBusTlv WatlowErrors

section Registers

/-- A row of one unsigned register that is read as it stands, whatever the decimal places are. -/
def PlainWord (registry : ParameterRegistry) (target : Ident) : Prop :=
  ∃ row, registry.resolve target = .ok row ∧ row.dataType = .u16 ∧ row.scale = .finite 1 ∧
    row.decimalRegister ≠ some f4pDecimalRegister

theorem PlainWord.atScale {registry : ParameterRegistry} {target : Ident} {scale : PyFloat}
    (h : PlainWord registry target) :
    PlainWord (atScale registry f4pDecimalRegister scale) target := by
  obtain ⟨row, hrow, htype, hscale, hfree⟩ := h
  refine ⟨row, ?_, htype, hscale, hfree⟩
  rw [DecimalPlaces.atScale, resolve_mapRows, hrow]
  exact congrArg Except.ok (if_neg hfree)

def Word16 (value : PyValue) : Prop := ∃ w : UInt16, value = .num (.int w.toNat)

theorem Word16.intValue {value : PyValue} (h : Word16 value) :
    ∃ v : ℤ, intValue value = .ok (some v) ∧ 0 ≤ v ∧ v ≤ 65535 := by
  obtain ⟨w, rfl⟩ := h
  have hlt := w.toNat_lt
  exact ⟨w.toNat, rfl, by omega, by omega⟩

variable {lib : AnyModbus} {ctx : CommandContext} {request : ReadParameterRequest} {words : Words}
  {entry : ParameterEntry}

theorem readModbusDecode_word (hlib : Lawful lib) (hrow : PlainWord ctx.registry request.nameOrId)
    (h : readModbusDecode lib words ctx request = .ok entry) : Word16 entry.value := by
  obtain ⟨row, hresolve, htype, hscale, -⟩ := hrow
  obtain ⟨spec, hspec, h⟩ := bind_ok_iff.mp h
  have hsame : spec = row :=
    Except.ok.inj ((EncoderContracts.resolveRequest_ok_iff.mp hspec).resolved.symm.trans hresolve)
  subst hsame
  obtain ⟨encoding, hencoding, h⟩ := bind_ok_iff.mp h
  have hbyte : encoding.byteOrder = .big := by
    obtain ⟨order, -, he⟩ := bind_ok_iff.mp hencoding
    cases he
    rfl
  split at h
  · split at h
    · cases h
    · cases h
  · rename_i decoded hdecoded
    obtain ⟨value, hvalue, h⟩ := bind_ok_iff.mp h
    cases h
    simp only [decodeWords, htype, registerType, if_neg (show DataType.u16 ≠ .u8 by decide),
      if_neg (show DataType.u16 ≠ .string by decide)] at hdecoded
    obtain ⟨_, hcount, hdecoded⟩ := bind_ok_iff.mp hdecoded
    obtain ⟨w, rfl⟩ := List.length_eq_one_iff.mp (require_ok_iff.mp hcount)
    rw [hbyte, hlib.decode_word] at hdecoded
    cases hdecoded
    simp only [scaleValue, if_pos hscale] at hvalue
    cases hvalue
    exact ⟨w, rfl⟩

variable {σ : Type} {wire : Wire σ}

theorem readParameterAt_word (hlib : Lawful lib) {s : Session} (hkind : s.kind = .modbusRtu)
    {target : Ident} (hrow : PlainWord s.registry target) {line : σ}
    (h : (readParameterAt lib wire target (s, line)).1 = .ok entry) : Word16 entry.value := by
  obtain ⟨d, reply, hprepare, -, hdecode⟩ := execute_ok_iff.mp h
  obtain ⟨variant, hselect, -, -, -, request, -, rfl⟩ := prepare_ok_iff.mp hprepare
  simp only [selectVariant, hkind, readParameter] at hselect
  cases hselect
  cases reply with
  | frame reply => cases hdecode
  | words ws =>
    have hdecoded : readModbusDecode lib ws s.context ⟨target, 1⟩ = .ok entry := hdecode
    exact readModbusDecode_word hlib hrow hdecoded

end Registers

/-! ## What one call answers for -/

def handed (x : IdentityRead × Result ParameterEntry) : Option ℤ :=
  match taken x.1.strict intValue x.2 with
  | .ok value => value
  | .error _ => none

def reading (t : Answers) (name : String) : Option ℤ :=
  (t.find? fun x => x.1.target = .name name).bind handed

def Matched (t : Answers) : Prop := reading t "model_code" = some f4pModelCode

instance (t : Answers) : Decidable (Matched t) :=
  inferInstanceAs (Decidable (reading t "model_code" = some f4pModelCode))

/-- The health that the documentation gives for what answered. -/
def tableHealth (t : Answers) : DeviceHealth :=
  if ¬ Matched t then .failed
  else if reading t "software_id" ≠ none ∧ reading t "input_1_decimal" ≠ none ∧
      reading t "units" ≠ none then .ok
  else .incomplete

/-- One call: how it was made, how it ended and what its reads answered. -/
structure CallRecord where
  strict : Bool
  result : Result DeviceInfo
  answers : Answers

/-- The decimal places of a call whose model code matched and that came to its end. -/
def adopted (record : CallRecord) : Option ℤ :=
  match record.result with
  | .ok _ => if Matched record.answers then reading record.answers "input_1_decimal" else none
  | .error _ => none

/-- A tolerant call fails only where a read itself did, and the health is the table's. -/
structure Honest (record : CallRecord) : Prop where
  raises : record.strict = false → ∀ e, record.result = .error e →
    ∃ q, (q, .error e) ∈ record.answers ∧ ¬ Tolerated e
  health : ∀ info, record.result = .ok info → info.health = tableHealth record.answers

section Calls

variable {σ : Type} {lib : AnyModbus} {wire : Wire σ} {base : ParameterRegistry}

structure Kept (c c' : Controller σ) : Prop where
  kind : c'.session.kind = c.session.kind
  registry : c'.session.registry = c.session.registry
  unit : c'.wireTemperatureUnit = c.wireTemperatureUnit

def f4pNames : List String :=
  ["model_code", "serial_number_high", "serial_number_low", "software_id", "input_1_decimal",
    "units"]

/-- The identity rows of a registry, which every rescaled copy has too. -/
def IdentityRows (registry : ParameterRegistry) : Prop :=
  ∀ name ∈ f4pNames, PlainWord registry (.name name)

variable {α : Type} {c c₀ : Controller σ} {t : Answers}
  {post : Result α → Controller σ → Answers → Prop} {f : Option ℤ → Strategy α}

theorem leads_readInt (hlib : Lawful lib) (hkind : c₀.session.kind = .modbusRtu)
    {target : Ident} (hrow : PlainWord c₀.session.registry target) {strict : Bool}
    (hkept : Kept c₀ c)
    (hraise : ∀ e c', Kept c₀ c' → ¬ (strict = false ∧ Tolerated e) →
      post (.error e) c' (t ++ [(⟨target, .number, strict⟩, .error e)]))
    (hnext : ∀ answer value c', Kept c₀ c' → handed (⟨target, .number, strict⟩, answer) = value →
      (∀ v ∈ value, 0 ≤ v ∧ v ≤ 65535) →
      Leads (controllerHandler lib wire) post (f value) c'
        (t ++ [(⟨target, .number, strict⟩, answer)])) :
    Leads (controllerHandler lib wire) post (readInt target strict >>= f) c t := by
  refine leads_bind.mpr (leads_ask.mpr ?_)
  have hsame : c.session.SameDevice (readParameterAt lib wire target (c.session, c.line)).2.1 :=
    readParameterAt_sameDevice ⟨rfl, rfl, rfl⟩
  have hkept' : Kept c₀ (c.after (readParameterAt lib wire target (c.session, c.line)).2) :=
    ⟨hsame.kind.trans hkept.kind, hsame.registry.trans hkept.registry, hkept.unit⟩
  have hword : ∀ entry, (readParameterAt lib wire target (c.session, c.line)).1 = .ok entry →
      Word16 entry.value := by
    intro entry hentry
    refine readParameterAt_word hlib (hkept.kind.trans hkind) ?_ hentry
    rw [hkept.registry]
    exact hrow
  change Leads (controllerHandler lib wire) _ (.ofExcept (taken strict intValue
    (readParameterAt lib wire target (c.session, c.line)).1))
      (c.after (readParameterAt lib wire target (c.session, c.line)).2)
      (t ++ [(⟨target, .number, strict⟩, (readParameterAt lib wire target (c.session, c.line)).1)])
  generalize (readParameterAt lib wire target (c.session, c.line)).1 = answer at hword
  generalize c.after (readParameterAt lib wire target (c.session, c.line)).2 = c' at hkept'
  cases htaken : taken strict intValue answer with
  | error e =>
    refine leads_raises.mpr ?_
    rcases taken_error_iff.mp htaken with ⟨rfl, hnot⟩ | ⟨entry, rfl, hpick⟩
    · exact hraise e c' hkept' hnot
    · obtain ⟨v, hv, -⟩ := (hword entry rfl).intValue
      cases hv.symm.trans hpick
  | ok value =>
    refine leads_done.mpr (hnext answer value c' hkept' (by simp only [handed]; rw [htaken]) ?_)
    intro v hv
    cases hv
    cases answer with
    | error e =>
      simp only [taken] at htaken
      split at htaken
      · cases htaken
      · cases htaken
    | ok entry =>
      obtain ⟨w, hw, hrange⟩ := (hword entry rfl).intValue
      cases hw.symm.trans htaken
      exact hrange

theorem withDecimalPlaces_word (hd : DistinctIds base) {places : ℤ} (h : 0 ≤ places)
    (hbound : places ≤ 65535) :
    base.withDecimalPlaces f4pDecimalRegister places =
      .ok (atScale base f4pDecimalRegister (tenth places)) := by
  have hlimit : places < doubleLimit := by
    have hlarge : (65535 : ℤ) < 2 ^ 970 :=
      lt_of_lt_of_le (by norm_num : (65535 : ℤ) < 2 ^ 16)
        (pow_le_pow_right₀ (by norm_num) (by norm_num))
    exact hbound.trans_lt (hlarge.trans_le doubleLimit_bounds.1)
  obtain ⟨scale, hscale⟩ := (decimalScale_ok_iff h).mpr hlimit
  rw [withDecimalPlaces_eq hd, hscale, decimalScale_eq_tenth h hscale]
  rfl

/-- What one call does to the controller, in terms of what its reads answered. -/
structure CallSpec (base : ParameterRegistry) (strict : Bool) (c : Controller σ)
    (r : Result DeviceInfo) (c' : Controller σ) (t : Answers) : Prop where
  kind : c'.session.kind = c.session.kind
  bound : c'.session.registry = (adopted ⟨strict, r, t⟩).elim c.session.registry
    fun d => atScale base f4pDecimalRegister (tenth d)
  foreign : ¬ Matched t → Kept c c'
  honest : Honest ⟨strict, r, t⟩

theorem failed_call {strict : Bool} {c' : Controller σ} {q : IdentityRead} {e : PyError}
    (hkept : Kept c c') (hnot : strict = false → ¬ Tolerated e) :
    CallSpec base strict c (.error e) c' (t ++ [(q, .error e)]) := by
  refine ⟨hkept.kind, hkept.registry, fun _ => hkept, ?_, ?_⟩
  · intro hstrict e' he
    cases he
    exact ⟨q, by simp, hnot hstrict⟩
  · intro info hinfo
    cases hinfo

theorem leads_tolerant (hlib : Lawful lib) (hkind : c.session.kind = .modbusRtu)
    (hrows : IdentityRows c.session.registry) {name : String} (hname : name ∈ f4pNames)
    {strict : Bool} {c₁ : Controller σ} (hkept : Kept c c₁) {f : Option ℤ → Strategy DeviceInfo}
    (hnext : ∀ answer value c', Kept c c' →
      handed (⟨.name name, .number, false⟩, answer) = value →
      (∀ v ∈ value, 0 ≤ v ∧ v ≤ 65535) →
      Leads (controllerHandler lib wire) (CallSpec base strict c) (f value) c'
        (t ++ [(⟨.name name, .number, false⟩, answer)])) :
    Leads (controllerHandler lib wire) (CallSpec base strict c) (readInt (.name name) false >>= f)
      c₁ t := by
  refine leads_readInt hlib hkind (hrows name hname) hkept ?_ hnext
  intro e c' hkept' hnot
  exact failed_call hkept' fun _ htolerated => hnot ⟨rfl, htolerated⟩

theorem foreign_call {strict : Bool} {c' : Controller σ} (hkept : Kept c c')
    (hforeign : ¬ Matched t) (session : Session) (model : Option ℤ) :
    Leads (controllerHandler lib wire) (CallSpec base strict c)
      (if strict then .raises (foreignModel session model)
        else .done (f4pInfo session none none none .failed)) c' t := by
  cases strict with
  | true =>
    refine leads_raises.mpr ⟨hkept.kind, hkept.registry, fun _ => hkept, ?_, ?_⟩
    · intro hs
      cases hs
    · intro info hinfo
      cases hinfo
  | false =>
    refine leads_done.mpr ⟨hkept.kind, ?_, fun _ => hkept, ?_, ?_⟩
    · simp only [adopted]
      rw [if_neg hforeign]
      exact hkept.registry
    · intro _ e he
      cases he
    · intro info hinfo
      cases hinfo
      rw [tableHealth, if_pos hforeign]
      rfl

structure Readings (t : Answers) (softwareId decimals unitsCode : Option ℤ) : Prop where
  matched : Matched t
  software : reading t "software_id" = softwareId
  decimals : reading t "input_1_decimal" = decimals
  units : reading t "units" = unitsCode

theorem Readings.health {softwareId decimals unitsCode : Option ℤ}
    (h : Readings t softwareId decimals unitsCode) :
    tableHealth t = if softwareId = none ∨ decimals = none ∨ unitsCode = none then .incomplete
      else .ok := by
  rw [tableHealth, if_neg (not_not.mpr h.matched), h.software, h.decimals, h.units]
  by_cases hs : softwareId = none
  · simp [hs]
  · by_cases hp : decimals = none
    · simp [hp]
    · by_cases hu : unitsCode = none
      · simp [hu]
      · simp [hs, hp, hu]

theorem matched_call {strict : Bool} {c₆ : Controller σ} (hkept : Kept c c₆)
    {softwareId decimals unitsCode : Option ℤ} (h : Readings t softwareId decimals unitsCode)
    {info : DeviceInfo} (hinfo : info.health =
      if softwareId = none ∨ decimals = none ∨ unitsCode = none then .incomplete else .ok)
    {registry : ParameterRegistry} (hregistry : registry = decimals.elim c.session.registry
      fun d => atScale base f4pDecimalRegister (tenth d))
    (unit : Option TemperatureUnit) :
    CallSpec base strict c (.ok info)
      { c₆ with
        session := { c₆.session with registry := registry }
        wireTemperatureUnit := unit } t := by
  refine ⟨hkept.kind, ?_, fun hforeign => absurd h.matched hforeign, ?_, ?_⟩
  · simp only [adopted]
    rw [if_pos h.matched, h.decimals]
    exact hregistry
  · intro _ e he
    cases he
  · intro info' hinfo'
    cases hinfo'
    rw [hinfo, h.health]

theorem leads_adoptUnit {code : Option ℤ} {info : DeviceInfo}
    {post : Result DeviceInfo → Controller σ → Answers → Prop}
    (h : ∀ unit, post (.ok info) { c with wireTemperatureUnit := unit } t) :
    Leads (controllerHandler lib wire) post (adoptUnit code >>= fun _ => .done info) c t := by
  cases code with
  | none => exact leads_done.mpr (h c.wireTemperatureUnit)
  | some code => exact leads_tell.mpr (leads_done.mpr (h _))

theorem f4pIdentify_leads (hlib : Lawful lib) (hd : DistinctIds base)
    (hkind : c.session.kind = .modbusRtu) (hrows : IdentityRows c.session.registry)
    (session : Session) (strict : Bool) :
    Leads (controllerHandler lib wire) (CallSpec base strict c)
      (f4pIdentify session strict base) c [] := by
  refine leads_readInt hlib hkind (hrows "model_code" (by simp [f4pNames])) ⟨rfl, rfl, rfl⟩ ?_ ?_
  · intro e c' hkept hnot
    exact failed_call hkept fun hs hto => hnot ⟨hs, hto⟩
  intro a₁ model c₁ hkept h₁ _
  by_cases hmodel : model ≠ some f4pModelCode
  · rw [if_pos hmodel]
    refine foreign_call hkept ?_ session model
    simpa [Matched, reading, h₁] using hmodel
  · rw [if_neg hmodel]
    have hmodel' : model = some f4pModelCode := not_not.mp hmodel
    refine leads_tolerant hlib hkind hrows (by simp [f4pNames]) hkept ?_
    intro a₂ serialHi c₂ hkept _ _
    refine leads_tolerant hlib hkind hrows (by simp [f4pNames]) hkept ?_
    intro a₃ serialLo c₃ hkept _ _
    refine leads_tolerant hlib hkind hrows (by simp [f4pNames]) hkept ?_
    intro a₄ softwareId c₄ hkept h₄ _
    refine leads_tolerant hlib hkind hrows (by simp [f4pNames]) hkept ?_
    intro a₅ decimals c₅ hkept h₅ hrange
    refine leads_tolerant hlib hkind hrows (by simp [f4pNames]) hkept ?_
    intro a₆ unitsCode c₆ hkept h₆ _
    generalize hall : ([] : Answers) ++ [(⟨.name "model_code", .number, strict⟩, a₁)] ++
      [(⟨.name "serial_number_high", .number, false⟩, a₂)] ++
      [(⟨.name "serial_number_low", .number, false⟩, a₃)] ++
      [(⟨.name "software_id", .number, false⟩, a₄)] ++
      [(⟨.name "input_1_decimal", .number, false⟩, a₅)] ++
      [(⟨.name "units", .number, false⟩, a₆)] = t
    have hreadings : Readings t softwareId decimals unitsCode := by
      refine ⟨?_, ?_, ?_, ?_⟩
      · simp [← hall, Matched, reading, h₁, hmodel']
      · simp [← hall, reading, h₄]
      · simp [← hall, reading, h₅]
      · simp [← hall, reading, h₆]
    cases decimals with
    | none =>
      refine leads_adoptUnit fun unit => ?_
      have hregistry : c₆.session.registry = c.session.registry := hkept.registry
      exact matched_call hkept hreadings rfl hregistry unit
    | some places =>
      obtain ⟨hlow, hhigh⟩ := hrange places rfl
      simp only [adoptDecimals]
      rw [withDecimalPlaces_word hd hlow hhigh]
      exact leads_tell.mpr (leads_adoptUnit fun unit => matched_call hkept hreadings rfl rfl unit)

end Calls

/-! ## Any number of calls -/

section Sequences

variable {σ : Type} (lib : AnyModbus) (wire : Wire σ) (base : ParameterRegistry)

/-- One call after the other on one controller, each of them strict or not, with the flag for the
configured protocol that this strategy does not look at. -/
def identifyEach : List (Bool × Bool) → Controller σ → List CallRecord × Controller σ
  | [], c => ([], c)
  | (strict, query) :: calls, c =>
    let r := identify lib wire (f4pProfile base) strict query c
    let later := identifyEach calls r.2
    (⟨strict, r.1, identityAnswers lib wire (f4pProfile base) strict query c⟩ :: later.1, later.2)

/-- The profile's registry at the scale of some decimal places, if any were adopted. -/
def rescaledTo (places : Option ℤ) : ParameterRegistry :=
  places.elim base fun d => atScale base f4pDecimalRegister (tenth d)

variable {lib wire base}

theorem rescaledTo_rows (h : IdentityRows base) (places : Option ℤ) :
    IdentityRows (rescaledTo base places) := by
  intro name hname
  cases places with
  | none => exact h name hname
  | some d => exact (h name hname).atScale

structure Ready (base : ParameterRegistry) (places : Option ℤ) (c : Controller σ) : Prop where
  kind : c.session.kind = .modbusRtu
  registry : c.session.registry = rescaledTo base places

variable {c : Controller σ} {places : Option ℤ}

theorem identify_spec (hlib : Lawful lib) (hd : DistinctIds base) (hrows : IdentityRows base)
    (hready : Ready base places c) (strict query : Bool) :
    CallSpec base strict c (identify lib wire (f4pProfile base) strict query c).1
      (identify lib wire (f4pProfile base) strict query c).2
      (identityAnswers lib wire (f4pProfile base) strict query c) := by
  refine f4pIdentify_leads hlib hd hready.kind ?_ c.session strict
  rw [hready.registry]
  exact rescaledTo_rows hrows places

theorem CallSpec.ready {strict : Bool} {r : Result DeviceInfo} {c' : Controller σ} {t : Answers}
    (h : CallSpec base strict c r c' t) (hready : Ready base places c) :
    Ready base ((adopted ⟨strict, r, t⟩).or places) c' := by
  refine ⟨h.kind.trans hready.kind, ?_⟩
  rw [h.bound, hready.registry]
  cases adopted ⟨strict, r, t⟩ with
  | none => rfl
  | some d => rfl

theorem getLast_cons_or {α : Type} (o : Option α) (xs : List α) (prior : Option α) :
    (o.toList ++ xs).getLast?.or prior = xs.getLast?.or (o.or prior) := by
  cases o with
  | none => rfl
  | some x =>
    rw [Option.toList_some, List.singleton_append, List.getLast?_cons]
    cases xs.getLast? with
    | none => rfl
    | some y => rfl

theorem identifyEach_run (hlib : Lawful lib) (hd : DistinctIds base) (hrows : IdentityRows base)
    (calls : List (Bool × Bool)) (hready : Ready base places c) :
    Ready base (((identifyEach lib wire base calls c).1.filterMap adopted).getLast?.or places)
        (identifyEach lib wire base calls c).2 ∧
      ∀ record ∈ (identifyEach lib wire base calls c).1, Honest record := by
  induction calls generalizing c places with
  | nil => exact ⟨hready, by simp [identifyEach]⟩
  | cons call calls ih =>
    obtain ⟨strict, query⟩ := call
    have hspec := @identify_spec _ _ wire _ _ _ hlib hd hrows hready strict query
    obtain ⟨hlast, hhonest⟩ := ih (hspec.ready hready)
    simp only [identifyEach]
    constructor
    · rw [← getLast_cons_or] at hlast
      rw [List.filterMap_cons]
      cases hadopted : adopted ⟨strict,
          (identify lib wire (f4pProfile base) strict query c).1,
          identityAnswers lib wire (f4pProfile base) strict query c⟩ with
      | none =>
        rw [hadopted] at hlast
        exact hlast
      | some d =>
        rw [hadopted] at hlast
        exact hlast
    · intro record hrecord
      rcases List.mem_cons.mp hrecord with rfl | hrecord
      · exact hspec.honest
      · exact hhonest record hrecord

/-- After any calls the registry is the profile's, with exactly the rows of register 606 scaled by
the decimal places of the last call that adopted any; and one more call that does not find the model
code changes neither registry nor unit. -/
theorem f4p_identify_keeps_decode_state (hlib : Lawful lib) (hd : DistinctIds base)
    (hrows : IdentityRows base) (hkind : c.session.kind = .modbusRtu)
    (hstart : c.session.registry = base) (calls : List (Bool × Bool)) :
    (identifyEach lib wire base calls c).2.session.registry =
        rescaledTo base ((identifyEach lib wire base calls c).1.filterMap adopted).getLast? ∧
      (∀ record ∈ (identifyEach lib wire base calls c).1, Honest record) ∧
      ∀ strict query,
        ¬ Matched (identityAnswers lib wire (f4pProfile base) strict query
          (identifyEach lib wire base calls c).2) →
        Kept (identifyEach lib wire base calls c).2
          (identify lib wire (f4pProfile base) strict query
            (identifyEach lib wire base calls c).2).2 := by
  have hready : Ready base none c := ⟨hkind, hstart⟩
  obtain ⟨hlast, hhonest⟩ := @identifyEach_run _ _ wire _ _ _ hlib hd hrows calls hready
  rw [Option.or_none] at hlast
  refine ⟨hlast.registry, hhonest, fun strict query => ?_⟩
  exact (identify_spec hlib hd hrows hlast strict query).foreign

end Sequences

/-! ## A call that is cut short -/

def wordRow (parameterId : ℤ) (name : String) : ParameterSpec :=
  { plainRow parameterId name with dataType := .u16 }

def f4pTable : ParameterRegistry :=
  .build [wordRow 0 "model_code", wordRow 1 "serial_number_high", wordRow 2 "serial_number_low",
    wordRow 3 "software_id", { wordRow 300 "setpoint" with decimalRegister := some 606 },
    wordRow 606 "input_1_decimal", wordRow 901 "units"] [] []

theorem f4pTable_distinct : DistinctIds f4pTable := by
  unfold DistinctIds
  decide

theorem f4pTable_rows : IdentityRows f4pTable := by
  intro name hname
  simp only [f4pNames, List.mem_cons, List.not_mem_nil, or_false] at hname
  rcases hname with rfl | rfl | rfl | rfl | rfl | rfl
  · exact ⟨wordRow 0 "model_code", rfl, rfl, rfl, by decide⟩
  · exact ⟨wordRow 1 "serial_number_high", rfl, rfl, rfl, by decide⟩
  · exact ⟨wordRow 2 "serial_number_low", rfl, rfl, rfl, by decide⟩
  · exact ⟨wordRow 3 "software_id", rfl, rfl, rfl, by decide⟩
  · exact ⟨wordRow 606 "input_1_decimal", rfl, rfl, rfl, by decide⟩
  · exact ⟨wordRow 901 "units", rfl, rfl, rfl, by decide⟩

def f4pController : Controller PUnit where
  session := ⟨.modbusRtu, f4pTable, 1, "/dev/ttyUSB0", ∅, none⟩
  wireTemperatureUnit := none
  line := ⟨⟩

def f4pWire (units : Result WireReply) : Wire PUnit
  | _, .op op, line =>
    (if op.address = 0 then .ok (.words [5280]) else if op.address = 901 then units
      else .ok (.words [1]), line)
  | _, .payload _, line => (raise .protocol [], line)

theorem one_decimal_place_kept :
    (identifyEach byteModbus (f4pWire (.ok (.words [1]))) f4pTable [(false, false), (true, false)]
        f4pController).2.session.registry =
      rescaledTo f4pTable ((identifyEach byteModbus (f4pWire (.ok (.words [1]))) f4pTable
        [(false, false), (true, false)] f4pController).1.filterMap adopted).getLast? :=
  (f4p_identify_keeps_decode_state byteModbus_strict.toLawful f4pTable_distinct f4pTable_rows rfl
    rfl [(false, false), (true, false)]).1

theorem f4pTable_scales : f4pTable ≠ atScale f4pTable f4pDecimalRegister (tenth 1) := by
  intro h
  have hscales : f4pTable.specs.map (·.scale) =
      (f4pTable.specs.map (scaled f4pDecimalRegister (tenth 1))).map (·.scale) :=
    congrArg (fun registry => registry.specs.map (·.scale)) h
  revert hscales
  decide +kernel

/-- The model code matches and register 606 reads one decimal place, but the call is cancelled at
the unit register: the registry stays the profile's. -/
theorem cancelled_call_adopts_nothing :
    Matched (identityAnswers byteModbus (f4pWire (raise .cancelled [])) (f4pProfile f4pTable) false
        false f4pController) ∧
      reading (identityAnswers byteModbus (f4pWire (raise .cancelled [])) (f4pProfile f4pTable)
        false false f4pController) "input_1_decimal" = some 1 ∧
      (identify byteModbus (f4pWire (raise .cancelled [])) (f4pProfile f4pTable) false false
        f4pController).2.session.registry = f4pTable ∧
      f4pTable ≠ atScale f4pTable f4pDecimalRegister (tenth 1) := by
  refine ⟨by decide +kernel, by decide +kernel, ?_, f4pTable_scales⟩
  have hready : Ready f4pTable none f4pController := ⟨rfl, rfl⟩
  have hspec := @identify_spec _ _ (f4pWire (raise .cancelled [])) _ _ _ byteModbus_strict.toLawful
    f4pTable_distinct f4pTable_rows hready false false
  have hnone : adopted ⟨false,
      (identify byteModbus (f4pWire (raise .cancelled [])) (f4pProfile f4pTable) false false
        f4pController).1,
      identityAnswers byteModbus (f4pWire (raise .cancelled [])) (f4pProfile f4pTable) false false
        f4pController⟩ = none := by decide +kernel
  rw [hspec.bound, hnone]
  rfl

end F4pSessions
