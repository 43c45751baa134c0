import Watlowlib.Maintenance

/-! # The diagnostic commands

Sweeps, fuzzing and probes are programs over an open controller that look at every typed error and
go on. What they can send is what they can ask for, whatever the device replies. -/
namespace Diagnostics

open Dialogues Discovery EncoderContracts ExceptRules IdentityStrategies Maintenance ModbusCodec
  OpenDevice ParameterCommands ProtocolDetection PythonNumbers PythonValues ReadOnlyDiscovery
  Registry SafetyGate SessionExecute WatlowErrors

/-- The calls of a diagnostic on its controller; its writes are confirmed. -/
inductive Probe where
  | read (target : Ident) (instanceNo : ℤ)
  | write (target : Ident) (value : PyNum) (instanceNo : ℤ)

abbrev Program (α : Type) := Dialogue Probe (Result ParameterEntry) Empty PyError α

/-- A call inside `try: ... except WatlowError`. -/
def guarded (q : Probe) : Program (Result ParameterEntry) :=
  .ask q fun
    | .ok entry => .done (.ok entry)
    | .error e => if e.IsWatlow then .done (.error e) else .raises e

/-! ## Sweeps -/

/-- The JSON entry of a parameter; a call that was not made has no status. -/
structure SweepEntry where
  parameterId : ℤ
  name : String
  instanceNo : ℤ
  rwes : RwesFlag
  read : Result PyValue
  write : Option (Result Unit)

structure SweepArguments where
  start : ℤ
  stop : ℤ
  instanceNo : ℤ
  includeCommConfig : Bool
  write : Bool
  writeValue : ℤ
  ackDestructive : Bool

def defaultSweepExclude : List ℤ := [17001, 17002, 17003, 17007, 17009, 17051]

def excluded (args : SweepArguments) : List ℤ :=
  if args.includeCommConfig then [] else defaultSweepExclude

/-- The rows that a sweep walks; `--registry-only` makes no difference to them. -/
def sweepSpecs (parameters : List ParameterSpec) (args : SweepArguments) : List ParameterSpec :=
  parameters.filter fun spec => decide (args.start ≤ spec.parameterId ∧
    spec.parameterId ≤ args.stop ∧ spec.parameterId ∉ excluded args)

def sweepWrites (args : SweepArguments) (spec : ParameterSpec) : Prop :=
  args.write = true ∧ spec.rwes ≠ .r

instance (args : SweepArguments) (spec : ParameterSpec) : Decidable (sweepWrites args spec) :=
  inferInstanceAs (Decidable (args.write = true ∧ spec.rwes ≠ .r))

def sweepOne (args : SweepArguments) (spec : ParameterSpec) : Program SweepEntry :=
  guarded (.read (.id spec.parameterId) args.instanceNo) >>= fun read =>
    let entry : SweepEntry := ⟨spec.parameterId, spec.name, args.instanceNo, spec.rwes,
      read.map (·.value), none⟩
    if sweepWrites args spec then
      guarded (.write (.id spec.parameterId) (.int args.writeValue) args.instanceNo) >>= fun w =>
        .done { entry with write := some (w.map fun _ => ()) }
    else .done entry

def sweep (args : SweepArguments) : List ParameterSpec → Program (List SweepEntry)
  | [] => .done []
  | spec :: specs =>
    sweepOne args spec >>= fun entry => sweep args specs >>= fun entries =>
      .done (entry :: entries)

/-! ## Fuzzing one parameter -/

structure FuzzEntry where
  parameterId : ℤ
  instanceNo : ℤ
  valueAttempted : PyNum
  write : Option (Result PyValue)
  read : Result PyValue

def fuzzOne (parameterId instanceNo : ℤ) (doWrite : Bool) (value : PyNum) : Program FuzzEntry :=
  let readBack (write : Option (Result PyValue)) : Program FuzzEntry :=
    guarded (.read (.id parameterId) instanceNo) >>= fun read =>
      .done ⟨parameterId, instanceNo, value, write, read.map (·.value)⟩
  if doWrite then
    guarded (.write (.id parameterId) value instanceNo) >>= fun w =>
      readBack (some (w.map (·.value)))
  else readBack none

def fuzz (parameterId instanceNo : ℤ) (doWrite : Bool) : List PyNum → Program (List FuzzEntry)
  | [] => .done []
  | value :: values =>
    fuzzOne parameterId instanceNo doWrite value >>= fun entry =>
      fuzz parameterId instanceNo doWrite values >>= fun entries => .done (entry :: entries)

/-! ## The unit probe -/

def unitFromDisplayCode (code : ℤ) : Option TemperatureUnit :=
  if code = 15 then some .celsius else if code = 30 then some .fahrenheit else none

structure LabelRow where
  parameterId : ℤ
  name : String
  read : Result (PyValue × Option TemperatureUnit)

def decodedLabel : PyValue → Result (Option TemperatureUnit)
  | .num n => (toInt n).map unitFromDisplayCode
  | .str _ => .ok none

def labelRow (register : ℤ × String) : Program LabelRow :=
  guarded (.read (.id register.1) 1) >>= fun
    | .error e => .done ⟨register.1, register.2, .error e⟩
    | .ok entry =>
      .ofExcept (decodedLabel entry.value) >>= fun decoded =>
        .done ⟨register.1, register.2, .ok (entry.value, decoded)⟩

def labelRows : List (ℤ × String) → Program (List LabelRow)
  | [] => .done []
  | register :: registers =>
    labelRow register >>= fun row => labelRows registers >>= fun rows => .done (row :: rows)

def unitLabelRegisters : List (ℤ × String) := [(3005, "units"), (17050, "display_units")]

def referenceValue (name : String) (instanceNo : ℤ) : Program (Option PyFloat) :=
  guarded (.read (.name name) instanceNo) >>= fun
    | .ok ⟨_, _, .num n, _⟩ => .ofExcept ((toFloat n).map some)
    | _ => .done none

/-- The reads of `probe-unit` behind the identity. -/
def unitReadings (name : String) (instanceNo : ℤ) :
    Program (List LabelRow × Option PyFloat) :=
  labelRows unitLabelRegisters >>= fun labels =>
    referenceValue name instanceNo >>= fun value => .done (labels, value)

/-! ## On a controller -/

section Controllers

variable {σ α : Type} (lib : AnyModbus) (wire : Wire σ)

/-- `Controller.read_parameter` and `Controller.write_parameter` -/
def controllerHandler : Handler Probe (Result ParameterEntry) Empty (Session × σ) where
  ask q st :=
    let client : WireRequest → Result WireReply := fun request =>
      (wire st.1.address request st.2).1
    let x : Exchange ParameterEntry := match q with
      | .read target instanceNo =>
        execute st.1 (readParameter lib) ⟨target, instanceNo⟩ false client
      | .write target value instanceNo =>
        execute st.1 (writeParameter lib) ⟨target, .num value, instanceNo⟩ true client
    (x.response, x.after, x.emitted.elim st.2 fun request => (wire st.1.address request st.2).2)
  tell n _ := nomatch n

/-- How a sweep ends: `main` exits before anything is opened, an error escapes the loop, or there is
a report. -/
inductive SweepEnd where
  | exits (code : ℕ)
  | raised (e : PyError)
  | report (entries : List SweepEntry)

/-- `_async_main` of `argfuzz` behind the resolution of its parameter, and the gate before it. -/
def fuzzMain (parameterId instanceNo : ℤ) (doWrite ackDestructive : Bool) (values : List PyNum)
    (st : Session × σ) : Option (Result (List FuzzEntry)) × (Session × σ) :=
  if doWrite ∧ ¬ ackDestructive then (none, st)
  else
    let r := run (controllerHandler lib wire) (fuzz parameterId instanceNo doWrite values) st
    (some r.1, r.2)

/-- `probe-unit` on an open controller: a typed error of the identification is only reported. -/
def probeUnit (profile : DeviceProfile) (name : String) (instanceNo : ℤ) (c : Controller σ) :
    Result (Result DeviceInfo × List LabelRow × Option PyFloat) × (Session × σ) :=
  let r := identify lib wire profile false false c
  let readings : Result (Result DeviceInfo × List LabelRow × Option PyFloat) × (Session × σ) :=
    andThen (run (controllerHandler lib wire) (unitReadings name instanceNo)
      (r.2.session, r.2.line)) fun found st => (.ok (r.1, found), st)
  match r.1 with
  | .ok _ => readings
  | .error e => if e.IsWatlow then readings else (.error e, (r.2.session, r.2.line))

end Controllers

/-! ## What a program can send -/

def Probe.Confined (Allowed : Ident → Prop) : Probe → Prop
  | .read _ _ => True
  | .write target _ _ => Allowed target

/-- A write request to a writable row that one of the targets resolves to. -/
def WritesAllowed (registry : ParameterRegistry) (Allowed : Ident → Prop) (w : WireRequest) :
    Prop :=
  ∃ target, Allowed target ∧ IsWrite w ∧ ∃ spec, registry.resolve target = .ok spec ∧
    spec.rwes ≠ .r ∧ Names spec w

variable {σ α : Type} {Allowed : Ident → Prop}

/-- The session is bound as it was, and what it has sent is reads and allowed writes. -/
structure Confines (Allowed : Ident → Prop) (s : Session) (st : Session × Recorded σ) : Prop where
  device : s.SameDevice st.1
  requests : ∀ r ∈ st.2.requests, IsRead r ∨ WritesAllowed s.registry Allowed r

theorem confines_snoc {s : Session} {st : Session × Recorded σ} {after : Session} {state : σ}
    {request : WireRequest} (h : Confines Allowed s st) (hafter : st.1.SameDevice after)
    (hrequest : IsRead request ∨ WritesAllowed s.registry Allowed request) :
    Confines Allowed s (after, ⟨state, st.2.requests ++ [request]⟩) := by
  refine ⟨⟨hafter.kind.trans h.device.kind, hafter.registry.trans h.device.registry,
    hafter.address.trans h.device.address⟩, fun r hr => ?_⟩
  rcases List.mem_append.mp hr with hr | hr
  · exact h.requests r hr
  · rwa [List.mem_singleton.mp hr]

theorem confines_same {s : Session} {st : Session × Recorded σ} {after : Session}
    (h : Confines Allowed s st) (hafter : st.1.SameDevice after) :
    Confines Allowed s (after, st.2) :=
  ⟨⟨hafter.kind.trans h.device.kind, hafter.registry.trans h.device.registry,
    hafter.address.trans h.device.address⟩, h.requests⟩

theorem ask_confines (lib : AnyModbus) (wire : Wire σ) {s : Session} (q : Probe)
    (st : Session × Recorded σ) (hq : q.Confined Allowed) (h : Confines Allowed s st) :
    Confines Allowed s ((controllerHandler lib (recorded wire)).ask q st).2 := by
  cases q with
  | read target instanceNo =>
    simp only [controllerHandler]
    have hsame : st.1.SameDevice (execute st.1 (readParameter lib) ⟨target, instanceNo⟩ false
      fun request => (recorded wire st.1.address request st.2).1).after := execute_sameDevice _
    cases hw : (execute st.1 (readParameter lib) ⟨target, instanceNo⟩ false
      fun request => (recorded wire st.1.address request st.2).1).emitted with
    | none => exact confines_same h hsame
    | some request => exact confines_snoc h hsame (Or.inl (emitted_isRead lib hw))
  | write target value instanceNo =>
    simp only [controllerHandler]
    have hsame : st.1.SameDevice (execute st.1 (writeParameter lib)
      ⟨target, .num value, instanceNo⟩ true
      fun request => (recorded wire st.1.address request st.2).1).after := execute_sameDevice _
    cases hw : (execute st.1 (writeParameter lib) ⟨target, .num value, instanceNo⟩ true
      fun request => (recorded wire st.1.address request st.2).1).emitted with
    | none => exact confines_same h hsame
    | some request =>
      obtain ⟨-, spec, hspec, hwritable, hnames⟩ := write_guarded hw
      rw [h.device.registry] at hspec
      exact confines_snoc h hsame
        (Or.inr ⟨target, hq, write_isWrite lib hw, spec, hspec, hwritable, hnames⟩)

theorem run_confines (lib : AnyModbus) (wire : Wire σ) {d : Program α}
    (hd : Asks (Probe.Confined Allowed) d) {s : Session} {st : Session × Recorded σ}
    (h : Confines Allowed s st) :
    Confines Allowed s (run (controllerHandler lib (recorded wire)) d st).2 :=
  hd.run (ask_confines lib wire) (fun n => nomatch n) h

theorem confines_start (s : Session) (start : σ) : Confines Allowed s (s, ⟨start, []⟩) :=
  ⟨⟨rfl, rfl, rfl⟩, fun _ hr => absurd hr List.not_mem_nil⟩

theorem asks_guarded {P : Probe → Prop} {q : Probe} (hq : P q) : Asks P (guarded q) := by
  refine ⟨hq, fun answer => ?_⟩
  cases answer with
  | ok entry => trivial
  | error e =>
    simp only
    split
    · trivial
    · trivial

def Swept (args : SweepArguments) (specs : List ParameterSpec) (target : Ident) : Prop :=
  ∃ spec ∈ specs, target = .id spec.parameterId ∧ sweepWrites args spec

theorem asks_sweep (args : SweepArguments) {all : List ParameterSpec} (specs : List ParameterSpec)
    (h : ∀ spec ∈ specs, spec ∈ all) :
    Asks (Probe.Confined (Swept args all)) (sweep args specs) := by
  induction specs with
  | nil => trivial
  | cons spec specs ih =>
    obtain ⟨hspec, hrest⟩ := List.forall_mem_cons.mp h
    have hone : Asks (Probe.Confined (Swept args all)) (sweepOne args spec) := by
      refine asks_bind (asks_guarded trivial) fun read => ?_
      split
      · rename_i hwrites
        refine asks_bind (asks_guarded ?_) fun _ => trivial
        exact ⟨spec, hspec, rfl, hwrites⟩
      · trivial
    exact asks_bind hone fun entry => asks_bind (ih hrest) fun entries => trivial

/-- The entry of a row: a write was tried exactly if the sweep writes and the row is writable. -/
structure Reports (args : SweepArguments) (spec : ParameterSpec) (entry : SweepEntry) : Prop where
  parameterId : entry.parameterId = spec.parameterId
  name : entry.name = spec.name
  rwes : entry.rwes = spec.rwes
  write : entry.write.isSome = true ↔ sweepWrites args spec

theorem yields_guarded (q : Probe) : Yields (fun _ => True) (guarded q) := by
  intro answer
  cases answer with
  | ok entry => trivial
  | error e =>
    simp only
    split
    · trivial
    · trivial

/-- A write of a sweep: acknowledged, and to a writable row in the range that is not shielded. -/
structure SweepWrite (parameters : List ParameterSpec) (args : SweepArguments)
    (registry : ParameterRegistry) (spec : ParameterSpec) (request : WireRequest) : Prop where
  row : spec ∈ parameters
  range : args.start ≤ spec.parameterId ∧ spec.parameterId ≤ args.stop
  unshielded : args.includeCommConfig = false → spec.parameterId ∉ defaultSweepExclude
  writable : spec.rwes ≠ .r
  asked : args.write = true ∧ args.ackDestructive = true
  request : WritesTo registry spec.parameterId request

theorem swept_sweepWrite {parameters : List ParameterSpec} {args : SweepArguments}
    {registry : ParameterRegistry} {request : WireRequest}
    (hacked : args.write = true → args.ackDestructive = true)
    (h : WritesAllowed registry (Swept args (sweepSpecs parameters args)) request) :
    ∃ spec, SweepWrite parameters args registry spec request := by
  obtain ⟨target, ⟨spec, hspec, rfl, hwrite, hwritable⟩, hiswrite, row, hrow, -, hnames⟩ := h
  obtain ⟨hmem, hcond⟩ := List.mem_filter.mp hspec
  obtain ⟨hstart, hstop, hexcluded⟩ := of_decide_eq_true hcond
  refine ⟨spec, hmem, ⟨hstart, hstop⟩, fun hshield => ?_, hwritable, ⟨hwrite, hacked hwrite⟩,
    hiswrite, row, hrow, (resolve_id _ hrow).1, hnames⟩
  rwa [excluded, hshield, if_neg (by decide)] at hexcluded

def Attempts (doWrite : Bool) (value : PyNum) (entry : FuzzEntry) : Prop :=
  entry.valueAttempted = value ∧ entry.write.isSome = doWrite

theorem asks_fuzz (parameterId instanceNo : ℤ) (doWrite : Bool) (values : List PyNum) :
    Asks (Probe.Confined fun target => doWrite = true ∧ target = .id parameterId)
      (fuzz parameterId instanceNo doWrite values) := by
  induction values with
  | nil => trivial
  | cons value values ih =>
    refine asks_bind ?_ fun entry => asks_bind ih fun entries => trivial
    rw [fuzzOne]
    split
    · rename_i hwrite
      refine asks_bind (asks_guarded ⟨hwrite, rfl⟩) fun w => ?_
      exact asks_bind (asks_guarded trivial) fun read => trivial
    · exact asks_bind (asks_guarded trivial) fun read => trivial

theorem yields_fuzz (parameterId instanceNo : ℤ) (doWrite : Bool) (values : List PyNum) :
    Yields (List.Forall₂ (Attempts doWrite) values)
      (fuzz parameterId instanceNo doWrite values) := by
  induction values with
  | nil => exact .nil
  | cons value values ih =>
    have hone : Yields (Attempts doWrite value)
        (fuzzOne parameterId instanceNo doWrite value) := by
      rw [fuzzOne]
      split
      · rename_i hwrite
        refine yields_bind (yields_guarded _) fun w _ => ?_
        exact yields_bind (yields_guarded _) fun read _ => ⟨rfl, hwrite.symm⟩
      · rename_i hwrite
        exact yields_bind (yields_guarded _) fun read _ => ⟨rfl, by simpa using hwrite⟩
    refine yields_bind hone fun entry hentry => ?_
    exact yields_bind ih fun entries hentries => .cons hentry hentries

theorem asks_unitReadings (name : String) (instanceNo : ℤ) :
    Asks (Probe.Confined fun _ => False) (unitReadings name instanceNo) := by
  have hlabels : ∀ registers, Asks (Probe.Confined fun _ => False) (labelRows registers) := by
    intro registers
    induction registers with
    | nil => trivial
    | cons register registers ih =>
      refine asks_bind (asks_bind (asks_guarded trivial) fun answer => ?_) fun row =>
        asks_bind ih fun rows => trivial
      cases answer with
      | error e => trivial
      | ok entry => exact asks_bind (asks_ofExcept _) fun decoded => trivial
  refine asks_bind (hlabels _) fun labels => asks_bind ?_ fun value => trivial
  refine asks_bind (asks_guarded trivial) fun answer => ?_
  split
  · exact asks_ofExcept _
  · trivial

theorem confines_reads {s : Session} {line : Recorded σ} (h : Reads line) :
    Confines Allowed s (s, line) :=
  ⟨⟨rfl, rfl, rfl⟩, fun r hr => Or.inl (h r hr)⟩

/-- What a fuzzer may send: reads and, acknowledged, writes to the parameter that it was given. -/
def FuzzRequest (registry : ParameterRegistry) (parameterId : ℤ) (doWrite ackDestructive : Bool)
    (request : WireRequest) : Prop :=
  IsRead request ∨
    (doWrite = true ∧ ackDestructive = true ∧ WritesTo registry parameterId request)

theorem fuzzRequest_allowed {registry : ParameterRegistry} {parameterId : ℤ}
    {doWrite ackDestructive : Bool} {request : WireRequest}
    (hgate : ¬ (doWrite = true ∧ ¬ ackDestructive = true))
    (h : WritesAllowed registry (fun target => doWrite = true ∧ target = .id parameterId)
      request) : FuzzRequest registry parameterId doWrite ackDestructive request := by
  obtain ⟨target, ⟨hwrite, rfl⟩, hiswrite, row, hrow, -, hnames⟩ := h
  have hack : ackDestructive = true := by
    by_contra hno
    exact hgate ⟨hwrite, hno⟩
  exact Or.inr ⟨hwrite, hack, hiswrite, row, hrow, (resolve_id _ hrow).1, hnames⟩

theorem fuzzMain_confined (lib : AnyModbus) (wire : Wire σ) (parameterId instanceNo : ℤ)
    (doWrite ackDestructive : Bool) (values : List PyNum) (s : Session) (start : σ) :
    ∀ request ∈ (fuzzMain lib (recorded wire) parameterId instanceNo doWrite ackDestructive values
      (s, ⟨start, []⟩)).2.2.requests,
      FuzzRequest s.registry parameterId doWrite ackDestructive request := by
  intro request hmem
  simp only [fuzzMain] at hmem
  by_cases hgate : doWrite = true ∧ ¬ ackDestructive = true
  · rw [if_pos hgate] at hmem
    exact absurd hmem List.not_mem_nil
  · rw [if_neg hgate] at hmem
    have hconfined := run_confines lib wire (asks_fuzz parameterId instanceNo doWrite values)
      (confines_start s start)
    exact (hconfined.requests request hmem).elim Or.inl (fuzzRequest_allowed hgate)

theorem fuzzMain_attempts (lib : AnyModbus) (wire : Wire σ) (parameterId instanceNo : ℤ)
    (doWrite ackDestructive : Bool) (values : List PyNum) (st : Session × σ)
    {entries : List FuzzEntry}
    (h : (fuzzMain lib wire parameterId instanceNo doWrite ackDestructive values st).1 =
      some (.ok entries)) :
    List.Forall₂ (Attempts doWrite) values entries := by
  simp only [fuzzMain] at h
  by_cases hgate : doWrite = true ∧ ¬ ackDestructive = true
  · rw [if_pos hgate] at h
    exact nomatch h
  · rw [if_neg hgate] at h
    exact (yields_fuzz parameterId instanceNo doWrite values).run (Option.some.inj h)

theorem probeUnit_reads (lib : AnyModbus) (wire : Wire σ) (profile : DeviceProfile) (name : String)
    (instanceNo : ℤ) {c : Controller (Recorded σ)} (hs : Reads c.line) :
    Reads (probeUnit lib (recorded wire) profile name instanceNo c).2.2 := by
  have hidentified := identify_reads lib wire profile false false hs
  have hreadings : ∀ (s : Session) (line : Recorded σ), Reads line →
      Reads (run (controllerHandler lib (recorded wire)) (unitReadings name instanceNo)
        (s, line)).2.2 := by
    intro s line hline request hmem
    have hconfined := run_confines lib wire (asks_unitReadings name instanceNo)
      (confines_reads (s := s) hline)
    rcases hconfined.requests request hmem with hread | ⟨target, hno, -⟩
    · exact hread
    · exact hno.elim
  simp only [probeUnit]
  split
  · rw [andThen_map _ (Prod.mk _)]
    exact hreadings _ _ hidentified
  · split
    · rw [andThen_map _ (Prod.mk _)]
      exact hreadings _ _ hidentified
    · exact hidentified

/-- Over any device, `argfuzz` sends nothing but reads and, acknowledged, writes to its parameter,
and reports one entry for each value, in their order, written exactly if it writes. `probe-unit`
sends reads only, whatever the device tells it. -/
theorem probes_contained (lib : AnyModbus) (wire : Wire σ) :
    (∀ (parameterId instanceNo : ℤ) (doWrite ackDestructive : Bool) (values : List PyNum)
      (s : Session) (start : σ),
      let r := fuzzMain lib (recorded wire) parameterId instanceNo doWrite ackDestructive values
        (s, ⟨start, []⟩)
      (∀ request ∈ r.2.2.requests,
        FuzzRequest s.registry parameterId doWrite ackDestructive request) ∧
      ∀ entries, r.1 = some (.ok entries) → List.Forall₂ (Attempts doWrite) values entries) ∧
    ∀ (profile : DeviceProfile) (name : String) (instanceNo : ℤ) (session : Session)
      (unit : Option TemperatureUnit) (start : σ),
      Reads (probeUnit lib (recorded wire) profile name instanceNo
        ⟨session, unit, ⟨start, []⟩⟩).2.2 := by
  constructor
  · intro parameterId instanceNo doWrite ackDestructive values s start
    exact ⟨fuzzMain_confined lib wire parameterId instanceNo doWrite ackDestructive values s start,
      fun entries h => fuzzMain_attempts lib _ parameterId instanceNo doWrite ackDestructive values
        _ h⟩
  · intro profile name instanceNo session unit start
    exact probeUnit_reads lib wire profile name instanceNo fun request hmem =>
      absurd hmem List.not_mem_nil

/-! ## On a port -/

section Ports

variable (lib : AnyModbus) (world : PortWorld σ) (openArgs : OpenArguments)

/-- `async with` the controller of `controller_from_args`: the body runs on what `open_device`
returns, and the transport is closed behind it. -/
def onOpened (body : OpenedController → σ → Result α × σ) (s : Detecting σ) :
    Result α × Detecting σ :=
  andThen (openDevice lib world openArgs s) fun c s =>
    let r := body c s.world
    leave world c.transport (r.1, { s with world := r.2 })

def programBody (d : Program α) (c : OpenedController) (line : σ) : Result α × σ :=
  let r := run (controllerHandler lib (world.wire c.transport)) d (c.session, line)
  (r.1, r.2.2)

/-- `sweep` from its arguments on. The gates stand before the port is opened. -/
def sweepCommand (parameters : List ParameterSpec) (args : SweepArguments) (s : Detecting σ) :
    SweepEnd × Detecting σ :=
  if args.write ∧ ¬ args.ackDestructive then (.exits 2, s)
  else if args.stop < args.start then (.exits 1, s)
  else
    match onOpened lib world openArgs
      (programBody lib world (sweep args (sweepSpecs parameters args))) s with
    | (.ok entries, s) => (.report entries, s)
    | (.error e, s) => (.raised e, s)

def fuzzCommand (parameterId instanceNo : ℤ) (doWrite ackDestructive : Bool) (values : List PyNum)
    (s : Detecting σ) : Option (Result (List FuzzEntry)) × Detecting σ :=
  if doWrite ∧ ¬ ackDestructive then (none, s)
  else
    let r := onOpened lib world openArgs
      (programBody lib world (fuzz parameterId instanceNo doWrite values)) s
    (some r.1, r.2)

def probeUnitCommand (name : String) (instanceNo : ℤ) (s : Detecting σ) :
    Result (Result DeviceInfo × List LabelRow × Option PyFloat) × Detecting σ :=
  onOpened lib world openArgs (fun c line =>
    let r := probeUnit lib (world.wire c.transport) openArgs.profile name instanceNo (c.start line)
    (r.1, r.2.2)) s

variable {A : WireRequest → Prop} {s : Detecting (Recorded σ)}

/-- To open the port takes reads, and to close it nothing; the rest is up to the body. -/
theorem onOpened_requests {body : OpenedController → Recorded σ → Result α × Recorded σ}
    (hbody : ∀ c line, Reads line → ∀ r ∈ (body c line).2.requests, IsRead r ∨ A r)
    (hs : Reads s.world) :
    ∀ r ∈ (onOpened lib (recordedPort world) openArgs body s).2.world.requests,
      IsRead r ∨ A r := by
  have hopen : Reads (openDevice lib (recordedPort world) openArgs s).2.world :=
    openDevice_carries lib world reads_kept openArgs s hs
  intro r hr
  simp only [onOpened] at hr
  cases hx : openDevice lib (recordedPort world) openArgs s with
  | mk x t =>
    rw [hx] at hopen hr
    cases x with
    | error e => exact Or.inl (hopen r hr)
    | ok c => exact hbody c t.world hopen r hr

theorem programBody_requests {d : Program α} (hd : Asks (Probe.Confined Allowed) d)
    (c : OpenedController) {line : Recorded σ} (hline : Reads line) :
    ∀ r ∈ (programBody lib (recordedPort world) d c line).2.requests,
      IsRead r ∨ ∃ registry, WritesAllowed registry Allowed r := by
  intro r hr
  have hconfined := run_confines lib (world.wire c.transport) hd
    (confines_reads (s := c.session) hline)
  exact (hconfined.requests r hr).imp_right fun hwrite => ⟨c.session.registry, hwrite⟩

theorem sweepCommand_contained (parameters : List ParameterSpec) (args : SweepArguments)
    (hs : Reads s.world) :
    ∀ request ∈ (sweepCommand lib (recordedPort world) openArgs parameters args s).2.world.requests,
      IsRead request ∨ ∃ registry spec, SweepWrite parameters args registry spec request := by
  intro request hmem
  simp only [sweepCommand] at hmem
  by_cases hacked : args.write = true ∧ ¬ args.ackDestructive = true
  · rw [if_pos hacked] at hmem
    exact Or.inl (hs request hmem)
  · have hack : args.write = true → args.ackDestructive = true := by
      intro hwrite
      by_contra hno
      exact hacked ⟨hwrite, hno⟩
    have hasks := asks_sweep args (sweepSpecs parameters args) fun _ hspec => hspec
    have hsent := onOpened_requests lib world openArgs
      (fun c _ hline => programBody_requests lib world hasks c hline) hs
    rw [if_neg hacked] at hmem
    split at hmem
    · exact Or.inl (hs request hmem)
    · refine (hsent request ?_).imp_right fun ⟨registry, hwrite⟩ =>
        ⟨registry, swept_sweepWrite hack hwrite⟩
      split at hmem
      · rename_i hx
        rwa [hx]
      · rename_i hx
        rwa [hx]

theorem fuzzCommand_contained (parameterId instanceNo : ℤ) (doWrite ackDestructive : Bool)
    (values : List PyNum) (hs : Reads s.world) :
    ∀ request ∈ (fuzzCommand lib (recordedPort world) openArgs parameterId instanceNo doWrite
      ackDestructive values s).2.world.requests,
      ∃ registry, FuzzRequest registry parameterId doWrite ackDestructive request := by
  intro request hmem
  simp only [fuzzCommand] at hmem
  by_cases hgate : doWrite = true ∧ ¬ ackDestructive = true
  · rw [if_pos hgate] at hmem
    exact ⟨.build [] [] [], Or.inl (hs request hmem)⟩
  · rw [if_neg hgate] at hmem
    have hsent := onOpened_requests lib world openArgs (fun c _ hline =>
      programBody_requests lib world (asks_fuzz parameterId instanceNo doWrite values) c hline) hs
    rcases hsent request hmem with hread | ⟨registry, hwrite⟩
    · exact ⟨.build [] [] [], Or.inl hread⟩
    · exact ⟨registry, fuzzRequest_allowed hgate hwrite⟩

theorem probeUnitCommand_reads (name : String) (instanceNo : ℤ) (hs : Reads s.world) :
    Reads (probeUnitCommand lib (recordedPort world) openArgs name instanceNo s).2.world := by
  intro request hmem
  have hbody : ∀ (c : OpenedController) (line : Recorded σ), Reads line →
      ∀ r ∈ (probeUnit lib (recorded (world.wire c.transport)) openArgs.profile name instanceNo
        (c.start line)).2.2.requests, IsRead r ∨ False := fun c line hline r hr =>
    Or.inl (probeUnit_reads lib (world.wire c.transport) openArgs.profile name instanceNo
      (c := c.start line) hline r hr)
  exact (onOpened_requests lib world openArgs hbody hs request hmem).elim id False.elim

end Ports

end Diagnostics
