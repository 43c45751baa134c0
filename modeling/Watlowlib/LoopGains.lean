import Watlowlib.Discovery

/-! # Writing the PID gains of a loop

`write_pid` checks and writes one gain after another, so the check of a later gain runs when the
earlier ones have already been sent. -/
namespace LoopGains

open Discovery ExceptRules ModbusCodec ParameterCommands PythonNumbers PythonValues Registry
  SessionExecute StdBusFraming WatlowErrors

/-- `PidGains`, a gain as the caller hands it over. -/
structure PidGains where
  heatProportionalBand : Option PyValue
  coolProportionalBand : Option PyValue
  timeIntegral : Option PyValue
  timeDerivative : Option PyValue
  deadBand : Option PyValue
  deriving DecidableEq, Repr

def PidGains.empty : PidGains := ⟨none, none, none, none, none⟩

inductive PidField where
  | heatProportionalBand
  | coolProportionalBand
  | timeIntegral
  | timeDerivative
  | deadBand
  deriving DecidableEq, Repr

namespace PidField

def name : PidField → String
  | .heatProportionalBand => "heat_proportional_band"
  | .coolProportionalBand => "cool_proportional_band"
  | .timeIntegral => "time_integral"
  | .timeDerivative => "time_derivative"
  | .deadBand => "dead_band"

def coolOnly : PidField → Bool
  | .coolProportionalBand => true
  | .deadBand => true
  | _ => false

def value (gains : PidGains) : PidField → Option PyValue
  | .heatProportionalBand => gains.heatProportionalBand
  | .coolProportionalBand => gains.coolProportionalBand
  | .timeIntegral => gains.timeIntegral
  | .timeDerivative => gains.timeDerivative
  | .deadBand => gains.deadBand

def set (gains : PidGains) (v : PyValue) : PidField → PidGains
  | .heatProportionalBand => { gains with heatProportionalBand := some v }
  | .coolProportionalBand => { gains with coolProportionalBand := some v }
  | .timeIntegral => { gains with timeIntegral := some v }
  | .timeDerivative => { gains with timeDerivative := some v }
  | .deadBand => { gains with deadBand := some v }

end PidField

def pidFields : List PidField :=
  [.heatProportionalBand, .coolProportionalBand, .timeIntegral, .timeDerivative, .deadBand]

def hasCoolingBit : ℕ := 4

/-- No capabilities count as all of them. -/
def hasCooling : Option ℕ → Bool
  | none => true
  | some capabilities => decide (capabilities &&& hasCoolingBit ≠ 0)

/-- A call under way: the session and the line, the requests that reached the client, and the error
that a gain was refused with before any I/O, if one was. -/
structure Writing (σ : Type) where
  session : Session
  line : σ
  emitted : List WireRequest
  refused : Option PyError

section Write

variable {σ : Type} (lib : AnyModbus) (wire : Wire σ) (instanceNo : ℤ) (confirm : Bool)
  (capabilities : Option ℕ)

def coolingError (field : PidField) : PyError :=
  ⟨.configuration, [.text "PID field ", .strRepr field.name,
    .text " requires a cooling output, but the ",
    .text "controller's capabilities do not include Capability.HAS_COOLING ",
    .text "(PM output_2 == 'A' or equivalent). Pass a PidGains with the ",
    .text "cool-side fields left as None."],
    { commandName := some "write_pid", instanceNo := some instanceNo }⟩

/-- The value that is reported as applied: the one of the entry, when it is a number. -/
def appliedValue (value : PyValue) : PyValue → Result PyValue
  | .num n => do
    let x ← toFloat n
    .ok (.num (.float x))
  | .str _ => .ok value

/-- The error of an exchange that handed nothing to the client. -/
def refusedWith {Resp : Type} (x : Exchange Resp) : Option PyError :=
  match x.emitted, x.response with
  | none, .error e => some e
  | _, _ => none

def sendGain (field : PidField) (value : PyValue) (w : Writing σ) : Result PyValue × Writing σ :=
  let x := execute w.session (writeParameter lib) ⟨.name field.name, value, instanceNo⟩ confirm
    fun request => (wire w.session.address request w.line).1
  (x.response.bind fun entry => appliedValue value entry.value,
    { session := x.after
      line := x.emitted.elim w.line fun request => (wire w.session.address request w.line).2
      emitted := w.emitted ++ x.emitted.toList
      refused := refusedWith x })

def writeGain (field : PidField) (value : PyValue) (w : Writing σ) :
    Result PyValue × Writing σ :=
  if field.coolOnly = true ∧ hasCooling capabilities = false then
    (.error (coolingError instanceNo field),
      { w with refused := some (coolingError instanceNo field) })
  else sendGain lib wire instanceNo confirm field value w

/-- The loop of `write_pid`; a field without a value is skipped. -/
def writeFields (gains : PidGains) :
    List PidField → PidGains → Writing σ → Result PidGains × Writing σ
  | [], applied, w => (.ok applied, w)
  | field :: fields, applied, w =>
    match field.value gains with
    | none => writeFields gains fields applied w
    | some value =>
      andThen (writeGain lib wire instanceNo confirm capabilities field value w) fun v w =>
        writeFields gains fields (field.set applied v) w

def writePid (gains : PidGains) (session : Session) (line : σ) : Result PidGains × Writing σ :=
  writeFields lib wire instanceNo confirm capabilities gains pidFields .empty
    ⟨session, line, [], none⟩

end Write

section Refusals

variable {σ : Type} (lib : AnyModbus) (wire : Wire σ) (instanceNo : ℤ) (confirm : Bool)
  (capabilities : Option ℕ)

/-- The fields that are written, each with its value, in their order. -/
def supplied (gains : PidGains) (fields : List PidField) : List (PidField × PyValue) :=
  fields.filterMap fun field => (field.value gains).map (field, ·)

/-- The error that a gain is refused with before any I/O: the check of the capability, or what the
session checks in front of the wire. -/
def refusal (session : Session) (gain : PidField × PyValue) : Option PyError :=
  if gain.1.coolOnly = true ∧ hasCooling capabilities = false then
    some (coolingError instanceNo gain.1)
  else
    match prepare session (writeParameter lib) ⟨.name gain.1.name, gain.2, instanceNo⟩ confirm with
    | .error e => some e
    | .ok _ => none

/-- The device takes every one of the gains, in this order. -/
def Accepts : List (PidField × PyValue) → Writing σ → Prop
  | [], _ => True
  | gain :: gains, w =>
    (∃ v, (sendGain lib wire instanceNo confirm gain.1 gain.2 w).1 = .ok v) ∧
      Accepts gains (sendGain lib wire instanceNo confirm gain.1 gain.2 w).2

/-- A gain is refused with `e` behind others that are not and that the device takes. -/
def RefusedBehind (gains : List (PidField × PyValue)) (session : Session) (w : Writing σ)
    (earlier : List (PidField × PyValue)) (e : PyError) : Prop :=
  ∃ gain later, gains = earlier ++ gain :: later ∧
    refusal lib instanceNo confirm capabilities session gain = some e ∧
    (∀ g ∈ earlier, refusal lib instanceNo confirm capabilities session g = none) ∧
    Accepts lib wire instanceNo confirm earlier w

end Refusals

section Gates

variable {Req Resp : Type} [Targeted Req] {s s' : Session} {command : Command Req Resp}
  {request : Req} {confirm : Bool}

/-- Two sessions whose gates refuse the same calls. -/
structure SameGates (s s' : Session) : Prop where
  kind : s'.kind = s.kind
  registry : s'.registry = s.registry
  address : s'.address = s.address
  port : s'.port = s.port
  unsupported : ∀ key, s'.availability.lookup key = some .unsupported ↔
    s.availability.lookup key = some .unsupported

theorem SameGates.refl (s : Session) : SameGates s s := ⟨rfl, rfl, rfl, rfl, fun _ => Iff.rfl⟩

theorem SameGates.trans {t : Session} (h : SameGates s s') (h' : SameGates s' t) :
    SameGates s t :=
  ⟨h'.kind.trans h.kind, h'.registry.trans h.registry, h'.address.trans h.address,
    h'.port.trans h.port, fun key => (h'.unsupported key).trans (h.unsupported key)⟩

theorem require_congr {p q : Prop} [Decidable p] [Decidable q] {e : PyError} (h : p ↔ q) :
    require p e = require q e := by
  by_cases hp : p
  · rw [require_of e hp, require_of e (h.mp hp)]
  · simp only [require, if_neg hp, if_neg fun hq => hp (h.mpr hq)]

theorem SameGates.prepare (h : SameGates s s') :
    SessionExecute.prepare s' command request confirm =
      SessionExecute.prepare s command request confirm := by
  have hcontext : errorContext s' command request = errorContext s command request := by
    simp only [errorContext, h.kind, h.address, h.port]
  have hvariant : selectVariant s' command request = selectVariant s command request := by
    simp only [selectVariant, h.kind, hcontext]
  have hkey : cacheKey s' command request = cacheKey s command request := by
    simp only [cacheKey, h.registry]
  have hcheck : checkKey s' request = checkKey s request := by
    simp only [checkKey, h.registry]
  have hsession : s'.context = s.context := by
    simp only [Session.context, h.registry, h.address, h.port]
  have havailable : ∀ e : PyError,
      require (s'.availability.lookup (cacheKey s' command request) ≠ some .unsupported) e =
        require (s.availability.lookup (cacheKey s command request) ≠ some .unsupported) e :=
    fun e => require_congr (by rw [hkey, ne_eq, ne_eq, h.unsupported])
  simp only [SessionExecute.prepare, hcontext, hvariant, hcheck, hsession]
  rw [havailable, hkey]

theorem execute_ok_sameGates {client : WireRequest → Result WireReply} {response : Resp}
    (h : (execute s command request confirm client).response = .ok response) :
    SameGates s (execute s command request confirm client).after := by
  obtain ⟨d, reply, hprepare, hreply, hdecode⟩ := execute_ok_iff.mp h
  obtain ⟨variant, -, -, havailable, -, wire, -, rfl⟩ := prepare_ok_iff.mp hprepare
  have hafter : (execute s command request confirm client).after =
      s.mark (cacheKey s command request) .supported := by
    simp only [execute, hprepare]
    rw [hreply, finish, hdecode]
  rw [hafter]
  refine ⟨rfl, rfl, rfl, rfl, fun key => ?_⟩
  rw [mark_lookup]
  by_cases hkey : key = cacheKey s command request
  · rw [if_pos hkey, hkey]
    simp [havailable]
  · rw [if_neg hkey]

end Gates

section Steps

variable {σ : Type} {lib : AnyModbus} {wire : Wire σ} {instanceNo : ℤ} {confirm : Bool}
  {capabilities : Option ℕ} {s s' : Session} {w : Writing σ} {gain : PidField × PyValue}
  {e : PyError}

theorem refusal_congr (h : SameGates s s') :
    refusal lib instanceNo confirm capabilities s' gain =
      refusal lib instanceNo confirm capabilities s gain := by
  simp only [refusal, h.prepare]

theorem writeGain_refused (wire : Wire σ)
    (h : refusal lib instanceNo confirm capabilities w.session gain = some e) :
    ∃ w', writeGain lib wire instanceNo confirm capabilities gain.1 gain.2 w = (.error e, w') ∧
      w'.refused = some e ∧ w'.emitted = w.emitted := by
  simp only [refusal] at h
  simp only [writeGain]
  by_cases hcool : gain.1.coolOnly = true ∧ hasCooling capabilities = false
  · rw [if_pos hcool] at h ⊢
    cases h
    exact ⟨_, rfl, rfl, rfl⟩
  · rw [if_neg hcool] at h ⊢
    simp only [sendGain, execute]
    cases hprepare : prepare w.session (writeParameter lib)
        ⟨.name gain.1.name, gain.2, instanceNo⟩ confirm with
    | error e' =>
      rw [hprepare] at h
      cases h
      exact ⟨_, rfl, rfl, List.append_nil _⟩
    | ok d =>
      rw [hprepare] at h
      cases h

theorem writeGain_sent (wire : Wire σ)
    (h : refusal lib instanceNo confirm capabilities w.session gain = none) :
    writeGain lib wire instanceNo confirm capabilities gain.1 gain.2 w =
        sendGain lib wire instanceNo confirm gain.1 gain.2 w ∧
      (sendGain lib wire instanceNo confirm gain.1 gain.2 w).2.refused = none ∧
      (sendGain lib wire instanceNo confirm gain.1 gain.2 w).2.emitted.length =
        w.emitted.length + 1 := by
  simp only [refusal] at h
  by_cases hcool : gain.1.coolOnly = true ∧ hasCooling capabilities = false
  · rw [if_pos hcool] at h
    cases h
  · rw [if_neg hcool] at h
    refine ⟨if_neg hcool, ?_⟩
    simp only [sendGain, execute]
    cases hprepare : prepare w.session (writeParameter lib)
        ⟨.name gain.1.name, gain.2, instanceNo⟩ confirm with
    | error e =>
      rw [hprepare] at h
      cases h
    | ok d => exact ⟨rfl, List.length_append⟩

theorem sendGain_ok_sameGates {field : PidField} {value v : PyValue}
    (h : (sendGain lib wire instanceNo confirm field value w).1 = .ok v) :
    SameGates w.session (sendGain lib wire instanceNo confirm field value w).2.session := by
  simp only [sendGain] at h ⊢
  obtain ⟨entry, hresponse, -⟩ := bind_ok_iff.mp h
  exact execute_ok_sameGates hresponse

end Steps

section Runs

variable {σ : Type} {lib : AnyModbus} {wire : Wire σ} {instanceNo : ℤ} {confirm : Bool}
  {capabilities : Option ℕ} {gains : PidGains} {fields : List PidField} {applied : PidGains}
  {s : Session} {w : Writing σ} {e : PyError} {earlier : List (PidField × PyValue)}

theorem supplied_cons_none {field : PidField} (h : field.value gains = none) :
    supplied gains (field :: fields) = supplied gains fields := by
  simp [supplied, h]

theorem supplied_cons_some {field : PidField} {value : PyValue}
    (h : field.value gains = some value) :
    supplied gains (field :: fields) = (field, value) :: supplied gains fields := by
  simp [supplied, h]

section Behind

variable {gain : PidField × PyValue} {supply : List (PidField × PyValue)}

theorem refusedBehind_first
    (h : refusal lib instanceNo confirm capabilities s gain = some e) :
    RefusedBehind lib wire instanceNo confirm capabilities (gain :: supply) s w [] e := by
  refine ⟨gain, supply, rfl, h, ?_, trivial⟩
  intro g hg
  cases hg

theorem refusedBehind_cons {v : PyValue}
    (hnone : refusal lib instanceNo confirm capabilities s gain = none)
    (hv : (sendGain lib wire instanceNo confirm gain.1 gain.2 w).1 = .ok v)
    (h : RefusedBehind lib wire instanceNo confirm capabilities supply s
      (sendGain lib wire instanceNo confirm gain.1 gain.2 w).2 earlier e) :
    RefusedBehind lib wire instanceNo confirm capabilities (gain :: supply) s w (gain :: earlier)
      e := by
  obtain ⟨refused, later, hsplit, hrefused, hearlier, haccepts⟩ := h
  refine ⟨refused, later, ?_, hrefused, ?_, ⟨v, hv⟩, haccepts⟩
  · rw [hsplit, List.cons_append]
  · exact List.forall_mem_cons.mpr ⟨hnone, hearlier⟩

theorem refusedBehind_cases
    (h : RefusedBehind lib wire instanceNo confirm capabilities (gain :: supply) s w earlier e) :
    (earlier = [] ∧ refusal lib instanceNo confirm capabilities s gain = some e) ∨
      ∃ rest v, earlier = gain :: rest ∧
        refusal lib instanceNo confirm capabilities s gain = none ∧
        (sendGain lib wire instanceNo confirm gain.1 gain.2 w).1 = .ok v ∧
        RefusedBehind lib wire instanceNo confirm capabilities supply s
          (sendGain lib wire instanceNo confirm gain.1 gain.2 w).2 rest e := by
  obtain ⟨refused, later, hsplit, hrefused, hearlier, haccepts⟩ := h
  cases earlier with
  | nil =>
    obtain ⟨rfl, -⟩ := List.cons.inj hsplit
    exact Or.inl ⟨rfl, hrefused⟩
  | cons g earlier =>
    obtain ⟨rfl, hrest⟩ := List.cons.inj hsplit
    obtain ⟨hfirst, hlater⟩ := List.forall_mem_cons.mp hearlier
    obtain ⟨⟨v, hv⟩, haccepts⟩ := haccepts
    exact Or.inr ⟨earlier, v, rfl, hfirst, hv, refused, later, hrest, hrefused, hlater, haccepts⟩

end Behind

theorem writeFields_refused (hgates : SameGates s w.session) (hnew : w.refused = none)
    (h : (writeFields lib wire instanceNo confirm capabilities gains fields applied w).2.refused =
      some e) :
    ∃ earlier, RefusedBehind lib wire instanceNo confirm capabilities (supplied gains fields) s w
        earlier e ∧
      (writeFields lib wire instanceNo confirm capabilities gains fields applied w).2.emitted.length
        = w.emitted.length + earlier.length := by
  induction fields generalizing w applied with
  | nil =>
    rw [show w.refused = some e from h] at hnew
    cases hnew
  | cons field fields ih =>
    simp only [writeFields] at h ⊢
    cases hvalue : field.value gains with
    | none =>
      rw [hvalue] at h
      rw [supplied_cons_none hvalue]
      exact ih hgates hnew h
    | some value =>
      rw [hvalue] at h
      rw [supplied_cons_some hvalue]
      dsimp only at h ⊢
      have hsame : refusal lib instanceNo confirm capabilities w.session (field, value) =
          refusal lib instanceNo confirm capabilities s (field, value) := refusal_congr hgates
      cases hrefusal : refusal lib instanceNo confirm capabilities s (field, value) with
      | some e' =>
        obtain ⟨w', hwrite, hrefused, hemitted⟩ :=
          writeGain_refused wire (hsame.trans hrefusal)
        rw [hwrite, andThen_error] at h ⊢
        obtain rfl : e' = e := Option.some.inj (hrefused.symm.trans h)
        refine ⟨[], refusedBehind_first hrefusal, ?_⟩
        rw [hemitted]
        rfl
      | none =>
        obtain ⟨hwrite, hsent, hlength⟩ := writeGain_sent wire (hsame.trans hrefusal)
        rw [hwrite] at h ⊢
        -- only a write that the device takes lets the loop go on to a later refusal
        cases hresult : (sendGain lib wire instanceNo confirm field value w).1 with
        | error e' =>
          rw [andThen_of_error hresult, hsent] at h
          cases h
        | ok v =>
          rw [andThen_of_ok hresult] at h ⊢
          obtain ⟨earlier, hbehind, hemitted⟩ :=
            ih (hgates.trans (sendGain_ok_sameGates hresult)) hsent h
          refine ⟨(field, value) :: earlier, refusedBehind_cons hrefusal hresult hbehind, ?_⟩
          rw [hemitted, hlength, List.length_cons]
          omega

theorem writeFields_of_refusedBehind (hgates : SameGates s w.session)
    (h : RefusedBehind lib wire instanceNo confirm capabilities (supplied gains fields) s w earlier
      e) :
    ∃ w', writeFields lib wire instanceNo confirm capabilities gains fields applied w =
        (.error e, w') ∧ w'.refused = some e ∧
      w'.emitted.length = w.emitted.length + earlier.length := by
  induction fields generalizing w applied earlier with
  | nil =>
    obtain ⟨gain, later, hsplit, -⟩ := h
    cases earlier <;> cases hsplit
  | cons field fields ih =>
    simp only [writeFields]
    cases hvalue : field.value gains with
    | none =>
      rw [supplied_cons_none hvalue] at h
      exact ih hgates h
    | some value =>
      rw [supplied_cons_some hvalue] at h
      dsimp only
      rcases refusedBehind_cases h with ⟨rfl, hrefusal⟩ | ⟨rest, v, rfl, hrefusal, hv, hbehind⟩
      · obtain ⟨w', hwrite, hrefused, hemitted⟩ :=
          writeGain_refused wire ((refusal_congr hgates).trans hrefusal)
        refine ⟨w', ?_, hrefused, ?_⟩
        · rw [hwrite, andThen_error]
        · rw [hemitted]
          rfl
      · obtain ⟨hwrite, -, hlength⟩ :=
          writeGain_sent wire ((refusal_congr hgates).trans hrefusal)
        obtain ⟨w', hrun, hrefused, hemitted⟩ :=
          ih (hgates.trans (sendGain_ok_sameGates hv)) hbehind
        refine ⟨w', ?_, hrefused, ?_⟩
        · rw [hwrite, andThen_of_ok hv]
          exact hrun
        · rw [hemitted, hlength, List.length_cons]
          omega

end Runs

section Writes

variable {σ : Type} (lib : AnyModbus) (wire : Wire σ) (instanceNo : ℤ) (confirm : Bool)
  (capabilities : Option ℕ) (gains : PidGains) (session : Session) (line : σ)

/-- A call refuses before any write exactly when no gain that it refuses stands behind gains that
the device takes. -/
theorem writePid_refusesFirst_iff :
    (∀ e, (writePid lib wire instanceNo confirm capabilities gains session line).1 = .error e →
      (writePid lib wire instanceNo confirm capabilities gains session line).2.refused = some e →
      e.kind.IsInstance .configuration →
      (writePid lib wire instanceNo confirm capabilities gains session line).2.emitted = []) ↔
    ¬ ∃ earlier e, earlier ≠ [] ∧ e.kind.IsInstance .configuration ∧
      RefusedBehind lib wire instanceNo confirm capabilities (supplied gains pidFields) session
        ⟨session, line, [], none⟩ earlier e := by
  simp only [writePid]
  constructor
  · rintro hfirst ⟨earlier, e, hne, hkind, hbehind⟩
    obtain ⟨w', hrun, hrefused, hemitted⟩ :=
      writeFields_of_refusedBehind (.refl session) hbehind
    rw [hrun] at hfirst
    rw [hfirst e rfl hrefused hkind, List.length_nil, Nat.zero_add] at hemitted
    exact hne (List.length_eq_zero_iff.mp hemitted.symm)
  · intro hnone e _ hrefused hkind
    obtain ⟨earlier, hbehind, hemitted⟩ := writeFields_refused (.refl session) rfl hrefused
    by_cases hne : earlier = []
    · rw [hne] at hemitted
      exact List.length_eq_zero_iff.mp hemitted
    · exact absurd ⟨earlier, e, hne, hkind, hbehind⟩ hnone

end Writes

def bandRow (parameterId : ℤ) (field : PidField) (relativeAddr : ℤ) : ParameterSpec :=
  { plainRow parameterId field.name with
    dataType := .float
    unitKind := .temperature
    relativeAddr := relativeAddr
    registerCount := 2
    rangeMin := some (.finite (1 / 1000))
    rangeMax := some (.finite 9999) }

def bandSession : Session :=
  ⟨.stdbus, .build [bandRow 8009 .heatProportionalBand 1890,
    bandRow 8012 .coolProportionalBand 1892] [] [], 1, "COM3", ∅, none⟩

def bothBands : PidGains :=
  { PidGains.empty with
    heatProportionalBand := some (.num (.float (.finite 25)))
    coolProportionalBand := some (.num (.float (.finite 25))) }

def bandTurns : ℕ → Turn := fun _ =>
  ⟨none, [wireBytes ⟨dataNotExpectingReply, hostMac, 0x10,
    [0x02, 0x04, 0x08, 0x09, 0x01, 0x08, 0x41, 0xC8, 0x00, 0x00]⟩], .ownDeadline⟩

/-- Both bands are written to a controller that has no cooling output. -/
def bandRun : Result PidGains × Writing Bus :=
  writePid wordModbus (stdBusWire bandTurns (.finite 1)) 1 true (some 0) bothBands bandSession
    ⟨⟨"COM3", true, [], [], .ownDeadline⟩, []⟩

theorem coolBand_refusedLate :
    ¬ ∀ e, bandRun.1 = .error e → bandRun.2.refused = some e →
      e.kind.IsInstance .configuration → bandRun.2.emitted = [] := by
  intro h
  have hrun : bandRun.1 = .error (coolingError 1 .coolProportionalBand) ∧
      bandRun.2.refused = some (coolingError 1 .coolProportionalBand) ∧
      bandRun.2.emitted ≠ [] := by decide +kernel
  exact hrun.2.2 (h _ hrun.1 hrun.2.1 (by decide))

end LoopGains
