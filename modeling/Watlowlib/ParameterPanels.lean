import Watlowlib.AvailabilityTable
import Watlowlib.Dialogues
import Watlowlib.ParameterStores
import Watlowlib.RegisterFiles

/-! # Parameters behind either protocol

What a session is to a program of reads and writes: a table of parameters by their ids, and what it
has learnt of the device's refusals. Neither frames nor registers are part of it. -/
namespace ParameterPanels

open AvailabilityTable CodecRoundTrips Dialogues EncoderContracts ExceptRules ModbusCodec
  ParameterCommands ParameterStores PythonValues RegisterFiles Registry SafetyGate SessionExecute
  SessionInterleaving StdBusPayload StdBusTlv WatlowErrors

structure Call where
  invocation : Invocation
  confirm : Bool

/-- A program learns of its calls what their caller may use: whose value it is, and the value. -/
abbrev Program (α : Type) := Dialogue Call Outcome Empty PyError α

def Call.target (c : Call) : Ident :=
  match c.invocation with
  | .read request => request.nameOrId
  | .write request => request.nameOrId

def Call.instanceNo (c : Call) : ℤ :=
  match c.invocation with
  | .read request => request.instanceNo
  | .write request => request.instanceNo

def Call.written (c : Call) : Option PyValue :=
  match c.invocation with
  | .read _ => none
  | .write request => some request.value

variable (lib : AnyModbus) (registry : ParameterRegistry)

def commandName (c : Call) : String :=
  match c.invocation with
  | .read _ => (readParameter lib).name
  | .write _ => (writeParameter lib).name

def callKey (c : Call) : String :=
  cacheKeyOf lib ⟨.auto, registry, 0, "", ∅, none⟩ c.invocation

/-- The checks of the encoders that have nothing to do with a protocol. -/
def gate (c : Call) : Result ParameterSpec := do
  let spec ← resolveRequest ⟨registry, 0, ""⟩ c.target c.instanceNo
  match c.written with
  | none => .ok spec
  | some value => do
    validateWritable spec
    validateValue spec value
    .ok spec

structure Panel where
  availability : String → Option Availability
  values : ℤ → Option PyValue

def Panel.mark (p : Panel) (key : String) (a : Availability) : Panel :=
  { p with availability := Function.update p.availability key (some a) }

def Panel.keep (p : Panel) (parameterId : ℤ) (value : PyValue) : Panel :=
  { p with values := Function.update p.values parameterId (some value) }

theorem Panel.keep_held {p : Panel} {parameterId : ℤ} {value : PyValue}
    (h : p.values parameterId = some value) : p.keep parameterId value = p := by
  rw [keep, Function.update_eq_self_iff.mpr h.symm]

def Panel.Admits (p : Panel) (c : Call) : Prop :=
  p.availability (callKey lib registry c) ≠ some .unsupported ∧
    (c.invocation.safety lib = .persistent → c.confirm = true)

instance (p : Panel) (c : Call) : Decidable (p.Admits lib registry c) :=
  inferInstanceAs (Decidable (_ ∧ _))

/-- A call that passes its gates reads a parameter or replaces it; one that the device does not have
is not asked for again. -/
def Panel.ask (c : Call) (p : Panel) : Outcome × Panel :=
  if p.Admits lib registry c then
    match gate registry c with
    | .error _ => (none, p)
    | .ok spec =>
      match p.values spec.parameterId with
      | none => (none, p.mark (callKey lib registry c) .unsupported)
      | some held =>
        (some ((spec.parameterId, c.instanceNo), c.written.getD held),
          (p.mark (callKey lib registry c) .supported).keep spec.parameterId
            (c.written.getD held))
  else (none, p)

def panelHandler : Handler Call Outcome Empty Panel where
  ask := Panel.ask lib registry
  tell n _ := nomatch n

/-! ## The rows that both protocols carry -/

/-- A row whose values lie alike under its selector and in its registers. -/
structure Carried (spec : ParameterSpec) : Prop where
  byId : registry.resolve (.id spec.parameterId) = .ok spec
  selector : SelectorFits spec.parameterId spec.defaultInstance
  scale : spec.scale = .finite 1
  encoding : ∃ encoding, specEncoding lib spec = .ok encoding
  registers : RegistersFit spec

/-- Rows that a program may use: no two of them share a register. -/
structure Rows where
  Mem : ParameterSpec → Prop
  carried : ∀ spec, Mem spec → Carried lib registry spec
  apart : ∀ spec spec', Mem spec → Mem spec' → spec.parameterId ≠ spec'.parameterId →
    Apart spec.relativeAddr (effectiveCount spec) spec'.relativeAddr (effectiveCount spec')

variable {lib registry}

theorem Rows.eq_of_id (rows : Rows lib registry) {spec spec' : ParameterSpec} (h : rows.Mem spec)
    (h' : rows.Mem spec') (hid : spec.parameterId = spec'.parameterId) : spec = spec' := by
  have hbyId := (rows.carried spec h).byId
  rw [hid, (rows.carried spec' h').byId] at hbyId
  exact (Except.ok.inj hbyId).symm

/-- A value that the selector's tag and the registers of the row take as it is. -/
def Fits (spec : ParameterSpec) (value : PyValue) : Prop :=
  InTagRange spec.dataType value ∧
    ∀ s, value = .str s → s.length ≤ 2 * effectiveCount spec

/-- A call for one of the rows, at its default instance; one without a row is refused anyway. -/
def Agreed (rows : Rows lib registry) (c : Call) : Prop :=
  ∀ spec, registry.resolve c.target = .ok spec →
    rows.Mem spec ∧ c.instanceNo = spec.defaultInstance ∧ ∀ value ∈ c.written, Fits spec value

/-! ## Sessions -/

structure Follows (registry : ParameterRegistry) (kind : ProtocolKind) (p : Panel) (s : Session) :
    Prop where
  kind : s.kind = kind
  registry : s.registry = registry
  availability : ∀ key, s.availability.lookup key = p.availability key

variable {kind : ProtocolKind} {p : Panel} {s : Session} {c : Call} {spec : ParameterSpec}

theorem Follows.mark (h : Follows registry kind p s) (key : String) (a : Availability) :
    Follows registry kind (p.mark key a) (s.mark key a) := by
  refine ⟨h.kind, h.registry, fun k => ?_⟩
  simp only [mark_lookup, Panel.mark, Function.update_apply, h.availability]

theorem Follows.recordError (h : Follows registry kind p s) (e : PyError) :
    Follows registry kind p (s.recordError e) := ⟨h.kind, h.registry, h.availability⟩

theorem Follows.keep (h : Follows registry kind p s) (parameterId : ℤ) (value : PyValue) :
    Follows registry kind (p.keep parameterId value) s := ⟨h.kind, h.registry, h.availability⟩

theorem Follows.key (h : Follows registry kind p s) (lib : AnyModbus) (c : Call) :
    cacheKeyOf lib s c.invocation = callKey lib registry c := by
  rw [callKey, ← h.registry]
  cases c.invocation <;> rfl

theorem Follows.checkKey {Req : Type} [Targeted Req] {request : Req} {target : Ident}
    (h : Follows registry kind p s) (hcarried : Carried lib registry spec)
    (htarget : Targeted.nameOrId request = some target)
    (hspec : registry.resolve target = .ok spec) : checkKey s request = .ok ⟨⟩ :=
  (checkKey_resolved htarget (h.registry.symm ▸ hspec)).mpr hcarried.selector.writes

theorem gate_ok_iff :
    gate registry c = .ok spec ↔ Requested ⟨registry, 0, ""⟩ c.target c.instanceNo spec ∧
      ∀ value ∈ c.written, spec.rwes ≠ .r ∧ PassesRange spec value := by
  simp only [gate]
  rw [bind_ok_iff]
  simp only [resolveRequest_ok_iff]
  cases c.written with
  | none => simp
  | some value =>
    simp only [bind_ok_iff, validateWritable_ok_iff, validateValue_ok_iff, Option.mem_some,
      forall_eq']
    constructor
    · rintro ⟨spec', hr, _, hw, _, hp, hspec⟩
      cases hspec
      exact ⟨hr, hw, hp⟩
    · rintro ⟨hr, hw, hp⟩
      exact ⟨spec, hr, ⟨⟩, hw, ⟨⟩, hp, rfl⟩

theorem requested_context (h : Follows registry kind p s) {target : Ident} {instanceNo : ℤ} :
    Requested s.context target instanceNo spec ↔
      Requested ⟨registry, 0, ""⟩ target instanceNo spec := by
  have hregistry : s.context.registry = registry := h.registry
  constructor
  · intro hr
    exact ⟨hregistry ▸ hr.resolved, hr.lower, hr.upper⟩
  · intro hr
    exact ⟨hregistry.symm ▸ hr.resolved, hr.lower, hr.upper⟩

theorem encoded_requested {request : ReadParameterRequest} {wire : WireRequest}
    {variant : Variant ReadParameterRequest ParameterEntry}
    (hv : selectVariant s (readParameter lib) request = .ok variant)
    (hwire : variant.encode s.context request = .ok wire) :
    ∃ spec, Requested s.context request.nameOrId request.instanceNo spec := by
  rcases selectVariant_ok hv with ⟨v, hcommand, rfl⟩ | ⟨v, hcommand, rfl⟩
  · cases hcommand
    obtain ⟨bs, hbs, -⟩ := bind_ok_iff.mp hwire
    obtain ⟨spec, hr, -⟩ := readStdBus_ok hbs
    exact ⟨spec, hr⟩
  · cases hcommand
    obtain ⟨op, hop, -⟩ := bind_ok_iff.mp hwire
    obtain ⟨spec, hr, -⟩ := readModbus_ok hop
    exact ⟨spec, hr⟩

theorem encoded_accepted {request : WriteParameterRequest} {wire : WireRequest}
    {variant : Variant WriteParameterRequest ParameterEntry}
    (hv : selectVariant s (writeParameter lib) request = .ok variant)
    (hwire : variant.encode s.context request = .ok wire) :
    ∃ spec, Requested s.context request.nameOrId request.instanceNo spec ∧
      spec.rwes ≠ .r ∧ PassesRange spec request.value := by
  rcases selectVariant_ok hv with ⟨v, hcommand, rfl⟩ | ⟨v, hcommand, rfl⟩
  · cases hcommand
    obtain ⟨bs, hbs, -⟩ := bind_ok_iff.mp hwire
    obtain ⟨spec, haccepts, -⟩ := writeStdBus_ok_iff.mp hbs
    exact ⟨spec, haccepts.requested, haccepts.writable, haccepts.passes⟩
  · cases hcommand
    obtain ⟨op, hop, -⟩ := bind_ok_iff.mp hwire
    obtain ⟨spec, haccepts⟩ := writeModbus_accepts_iff.mp ⟨op, hop⟩
    exact ⟨spec, haccepts.requested, haccepts.writable, haccepts.passes⟩

theorem prepared_admits {d : Dispatch ParameterEntry} (h : Follows registry kind p s)
    (hd : prepareCall lib s c.confirm c.invocation = .ok d) :
    p.Admits lib registry c ∧ ∃ spec, gate registry c = .ok spec := by
  obtain ⟨invocation, confirm⟩ := c
  have hkey := h.key lib ⟨invocation, confirm⟩
  cases invocation with
  | read request =>
    obtain ⟨variant, hv, -, havailable, hconfirm, wire, hwire, -⟩ := prepare_ok_iff.mp hd
    obtain ⟨spec, hr⟩ := encoded_requested hv hwire
    refine ⟨⟨?_, hconfirm⟩, spec, gate_ok_iff.mpr ⟨(requested_context h).mp hr, nofun⟩⟩
    rw [← h.availability, ← hkey]
    exact havailable
  | write request =>
    obtain ⟨variant, hv, -, havailable, hconfirm, wire, hwire, -⟩ := prepare_ok_iff.mp hd
    obtain ⟨spec, hr, hw, hp⟩ := encoded_accepted hv hwire
    have hwritten : ∀ value ∈ (⟨.write request, confirm⟩ : Call).written,
        spec.rwes ≠ .r ∧ PassesRange spec value := by
      intro value hvalue
      cases hvalue
      exact ⟨hw, hp⟩
    refine ⟨⟨?_, hconfirm⟩, spec, gate_ok_iff.mpr ⟨(requested_context h).mp hr, hwritten⟩⟩
    rw [← h.availability, ← hkey]
    exact havailable

theorem prepared_read {request : ReadParameterRequest} {confirm : Bool}
    {variant : Variant ReadParameterRequest ParameterEntry} {wire : WireRequest}
    (h : Follows registry kind p s) (hadmits : p.Admits lib registry ⟨.read request, confirm⟩)
    (hv : selectVariant s (readParameter lib) request = .ok variant)
    (hwire : variant.encode s.context request = .ok wire) (hcarried : Carried lib registry spec)
    (hgate : gate registry ⟨.read request, confirm⟩ = .ok spec) :
    prepareCall lib s confirm (.read request) =
      .ok ⟨callKey lib registry ⟨.read request, confirm⟩, wire,
        variant.decode s.context request⟩ := by
  have hkey : cacheKey s (readParameter lib) request =
      callKey lib registry ⟨.read request, confirm⟩ := h.key lib ⟨.read request, confirm⟩
  have hk : checkKey s request = .ok ⟨⟩ :=
    h.checkKey hcarried rfl (gate_ok_iff.mp hgate).1.resolved
  refine prepare_ok_iff.mpr ⟨variant, hv, hk, ?_, hadmits.2, wire, hwire, by rw [hkey]⟩
  rw [h.availability, hkey]
  exact hadmits.1

theorem prepared_write {request : WriteParameterRequest} {confirm : Bool}
    {variant : Variant WriteParameterRequest ParameterEntry} {wire : WireRequest}
    (h : Follows registry kind p s) (hadmits : p.Admits lib registry ⟨.write request, confirm⟩)
    (hv : selectVariant s (writeParameter lib) request = .ok variant)
    (hwire : variant.encode s.context request = .ok wire) (hcarried : Carried lib registry spec)
    (hgate : gate registry ⟨.write request, confirm⟩ = .ok spec) :
    prepareCall lib s confirm (.write request) =
      .ok ⟨callKey lib registry ⟨.write request, confirm⟩, wire,
        variant.decode s.context request⟩ := by
  have hkey : cacheKey s (writeParameter lib) request =
      callKey lib registry ⟨.write request, confirm⟩ := h.key lib ⟨.write request, confirm⟩
  have hk : checkKey s request = .ok ⟨⟩ :=
    h.checkKey hcarried rfl (gate_ok_iff.mp hgate).1.resolved
  refine prepare_ok_iff.mpr ⟨variant, hv, hk, ?_, hadmits.2, wire, hwire, by rw [hkey]⟩
  rw [h.availability, hkey]
  exact hadmits.1

section Outcomes

variable {client : WireRequest → Result WireReply} {d : Dispatch ParameterEntry}

theorem execute_prepared {i : Invocation} {confirm : Bool}
    (h : prepareCall lib s confirm i = .ok d) :
    i.execute lib s confirm client =
      ⟨(finish s d (client d.wire)).1, some d.wire, (finish s d (client d.wire)).2⟩ := by
  cases i with
  | read request =>
    have hprepared : prepare s (readParameter lib) request confirm = .ok d := h
    rw [Invocation.execute, execute, hprepared]
  | write request =>
    have hprepared : prepare s (writeParameter lib) request confirm = .ok d := h
    rw [Invocation.execute, execute, hprepared]

theorem execute_refused {i : Invocation} {confirm : Bool} {e : PyError}
    (h : prepareCall lib s confirm i = .error e) :
    i.execute lib s confirm client = ⟨.error e, none, s⟩ := by
  cases i with
  | read request =>
    have hprepared : prepare s (readParameter lib) request confirm = .error e := h
    rw [Invocation.execute, execute, hprepared]
  | write request =>
    have hprepared : prepare s (writeParameter lib) request confirm = .error e := h
    rw [Invocation.execute, execute, hprepared]

theorem ask_refused (h : ∀ spec, p.Admits lib registry c → gate registry c ≠ .ok spec) :
    p.ask lib registry c = (none, p) := by
  rw [Panel.ask]
  split
  · rename_i hadmits
    split
    · rfl
    · rename_i spec hgate
      exact absurd hgate (h spec hadmits)
  · rfl

theorem ask_admitted (hadmits : p.Admits lib registry c) (hgate : gate registry c = .ok spec) :
    p.ask lib registry c =
      match p.values spec.parameterId with
      | none => (none, p.mark (callKey lib registry c) .unsupported)
      | some held =>
        (some ((spec.parameterId, c.instanceNo), c.written.getD held),
          (p.mark (callKey lib registry c) .supported).keep spec.parameterId
            (c.written.getD held)) := by
  rw [Panel.ask, if_pos hadmits, hgate]

theorem finish_refused {outcome : Result WireReply} (h : Follows registry kind p s)
    (hmarks : Marks d outcome) :
    outcomeOf (finish s d outcome).1 = none ∧
      Follows registry kind (p.mark d.key .unsupported) (finish s d outcome).2 := by
  cases outcome with
  | error e =>
    have hfail : s.fail .watlowError d.key e = (s.mark d.key .unsupported).recordError e :=
      if_pos hmarks
    rw [finish, hfail]
    exact ⟨rfl, (h.mark _ _).recordError e⟩
  | ok reply =>
    obtain ⟨e, hdecode, hrejects⟩ := hmarks
    have hfail : s.fail .protocol d.key e = (s.mark d.key .unsupported).recordError e :=
      if_pos hrejects
    simp only [finish, hdecode, hfail]
    exact ⟨rfl, (h.mark _ _).recordError e⟩

theorem finish_answered {reply : WireReply} {entry : ParameterEntry}
    (h : Follows registry kind p s) (hdecode : d.decode reply = .ok entry) :
    outcomeOf (finish s d (.ok reply)).1 =
        some ((entry.spec.parameterId, entry.instanceNo), entry.value) ∧
      Follows registry kind (p.mark d.key .supported) (finish s d (.ok reply)).2 := by
  rw [finish, hdecode]
  exact ⟨rfl, h.mark _ _⟩

end Outcomes

end ParameterPanels
