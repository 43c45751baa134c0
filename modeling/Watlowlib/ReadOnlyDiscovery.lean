import Watlowlib.ProtocolDetection
import Watlowlib.SafetyGate

/-! # Discovery never writes

Identification, the scan and the protocol detection over ports that keep a record of every request
they are handed. Whatever the replies steer a strategy into, the record holds reads only. -/
namespace ReadOnlyDiscovery

open Dialogues Discovery DiscoveryScan EncoderContracts ExceptRules IdentityStrategies ModbusCodec
  ModbusOps ParameterCommands ProtocolDetection PythonValues SafetyGate SessionExecute StdBusPayload
  WatlowErrors

/-- A Standard Bus request of the read function, or a read of holding registers. -/
def IsRead : WireRequest → Prop
  | .payload bs => ∃ rest, bs = dirRequest :: fnRead :: rest
  | .op o => o.fn = .readHolding

theorem isRead_not_write {request : WireRequest} (h : IsRead request) : ¬ IsWrite request := by
  cases request with
  | payload bs =>
    obtain ⟨rest, rfl⟩ := h
    change ¬ fnRead = fnWrite
    decide
  | op o =>
    change ¬ o.fn.Writes
    rw [show o.fn = .readHolding from h]
    decide

structure Recorded (σ : Type) where
  state : σ
  requests : List WireRequest

def Reads {σ : Type} (s : Recorded σ) : Prop := ∀ request ∈ s.requests, IsRead request

variable {σ : Type}

/-- The wire with a record of the requests that go over it. -/
def recorded (wire : Wire σ) : Wire (Recorded σ) := fun address request s =>
  ((wire address request s.state).1,
    ⟨(wire address request s.state).2, s.requests ++ [request]⟩)

/-- A statement about the record that one more read keeps, whatever the state. -/
structure KeptByReads (P : Recorded σ → Prop) : Prop where
  read : ∀ s state request, IsRead request → P s → P ⟨state, s.requests ++ [request]⟩
  state : ∀ s state, P s → P { s with state := state }

theorem reads_kept : KeptByReads (Reads : Recorded σ → Prop) where
  read s state request hrequest hs := by
    intro r hr
    rcases List.mem_append.mp hr with hr | hr
    · exact hs r hr
    · cases List.mem_singleton.mp hr
      exact hrequest
  state s state hs := hs

section Identification

variable (lib : AnyModbus) (wire : Wire σ)

theorem emitted_isRead {s : Session} {request : ReadParameterRequest} {confirm : Bool}
    {client : WireRequest → Result WireReply} {emitted : WireRequest}
    (h : (execute s (readParameter lib) request confirm client).emitted = some emitted) :
    IsRead emitted := by
  obtain ⟨variant, hv, -, hw⟩ := emitted_encoded h
  rcases selectVariant_ok hv with ⟨v, hcommand, rfl⟩ | ⟨v, hcommand, rfl⟩
  · cases hcommand
    obtain ⟨bs, hbs, hw⟩ := bind_ok_iff.mp hw
    cases hw
    obtain ⟨spec, -, hencode⟩ := bind_ok_iff.mp hbs
    obtain ⟨-, rfl⟩ := encodeReadRequest_ok_iff.mp hencode
    exact ⟨_, rfl⟩
  · cases hcommand
    obtain ⟨o, ho, hw⟩ := bind_ok_iff.mp hw
    cases hw
    obtain ⟨spec, -, -, -, -, hfn⟩ := readModbus_ok ho
    exact hfn

theorem readParameterAt_keeps {P : Recorded σ → Prop} (hP : KeptByReads P) {target : Ident}
    {st : Session × Recorded σ} (hs : P st.2) :
    P (readParameterAt lib (recorded wire) target st).2.2 := by
  simp only [readParameterAt]
  cases h : (execute st.1 (readParameter lib) ⟨target, 1⟩ false fun request =>
      (recorded wire st.1.address request st.2).1).emitted with
  | none => exact hs
  | some request => exact hP.read _ _ _ (emitted_isRead lib h) hs

theorem handler_keeps {P : Recorded σ → Prop} (hP : KeptByReads P) :
    (controllerHandler lib (recorded wire)).Keeps fun c => P c.line where
  ask q c hs := by
    have hline : P (c.session, c.line).2 := hs
    exact readParameterAt_keeps lib wire hP hline
  tell n _ hs := by
    cases n with
    | bindRegistry registry => exact hs
    | setWireTemperatureUnit unit => exact hs

theorem identify_keeps {P : Recorded σ → Prop} (hP : KeptByReads P) (profile : DeviceProfile)
    (strict queryConfiguredProtocol : Bool) {c : Controller (Recorded σ)} (hs : P c.line) :
    P (identify lib (recorded wire) profile strict queryConfiguredProtocol c).2.line :=
  (handler_keeps lib wire hP).run _ hs

theorem identify_reads (profile : DeviceProfile) (strict queryConfiguredProtocol : Bool)
    {c : Controller (Recorded σ)} (hs : Reads c.line) :
    Reads (identify lib (recorded wire) profile strict queryConfiguredProtocol c).2.line :=
  identify_keeps lib wire reads_kept profile strict queryConfiguredProtocol hs

end Identification

section Scans

variable (lib : AnyModbus) (world : World σ) (timeout : PyFloat) (combination : Combination)

def recordedWorld : World (Recorded σ) where
  opening place s :=
    ((world.opening place s.state).1, { s with state := (world.opening place s.state).2 })
  wire place := recorded (world.wire place)
  closing place s :=
    ((world.closing place s.state).1, { s with state := (world.closing place s.state).2 })

def KeepsReads (s t : Scan (Recorded σ)) : Prop := Reads s.world → Reads t.world

theorem keepsReads_trans (s t u : Scan (Recorded σ)) (h : KeepsReads s t) (h' : KeepsReads t u) :
    KeepsReads s u := fun hs => h' (h hs)

theorem identifyAddress_reads (address : ℤ) (s : Scan (Recorded σ)) :
    KeepsReads s (DiscoveryScan.identifyAddress lib (recordedWorld world) timeout combination
      address s).2 := by
  intro hs
  simp only [DiscoveryScan.identifyAddress]
  split
  · exact hs
  · exact identify_reads lib _ _ _ _ hs

theorem probeAddress_reads (address : ℤ) (s : Scan (Recorded σ)) :
    KeepsReads s
      (DiscoveryScan.probeAddress lib (recordedWorld world) timeout combination address s).2 := by
  simp only [DiscoveryScan.probeAddress]
  split
  · exact identifyAddress_reads lib world timeout combination address s
  · split
    · exact identifyAddress_reads lib world timeout combination address s
    · exact fun hs => hs

theorem probeAddresses_reads (addresses : List ℤ) (s : Scan (Recorded σ)) :
    KeepsReads s
      (DiscoveryScan.probeAddresses lib (recordedWorld world) timeout combination addresses
        s).2 := by
  induction addresses generalizing s with
  | nil => exact fun hs => hs
  | cons address addresses ih =>
    refine andThen_rel _ keepsReads_trans
      (probeAddress_reads lib world timeout combination address s) fun row t _ => ?_
    exact andThen_rel _ keepsReads_trans (ih t) fun rows u _ hu => hu

theorem closing_reads {α : Type} (place : Place) {s : Scan (Recorded σ)}
    {x : Result α × Scan (Recorded σ)} (hx : KeepsReads s x.2) :
    KeepsReads s (DiscoveryScan.closing (recordedWorld world) place x).2 := by
  intro hs
  simp only [DiscoveryScan.closing]
  split
  · exact hx hs
  · split
    · exact hx hs
    · exact hx hs

theorem probeCombo_reads (addresses : List ℤ) (s : Scan (Recorded σ)) :
    KeepsReads s
      (DiscoveryScan.probeCombo lib (recordedWorld world) timeout combination addresses s).2 := by
  simp only [DiscoveryScan.probeCombo]
  split
  · refine closing_reads world combination.place ?_
    refine keepsReads_trans _ _ _ (fun hs => ?_)
      (probeAddresses_reads lib world timeout combination addresses _)
    exact hs
  · split
    · exact fun hs => hs
    · exact fun hs => hs

theorem scanCombinations_reads (addresses : List ℤ) (combinations : List Combination)
    (dead : List String) (s : Scan (Recorded σ)) :
    KeepsReads s (scanCombinations lib (recordedWorld world) timeout addresses combinations dead
      s).2 := by
  induction combinations generalizing dead s with
  | nil => exact fun hs => hs
  | cons combination combinations ih =>
    simp only [scanCombinations]
    split
    · exact andThen_rel _ keepsReads_trans (ih dead s) fun rows t _ ht => ht
    · refine andThen_rel _ keepsReads_trans
        (probeCombo_reads lib world timeout combination addresses s) fun found t _ => ?_
      exact andThen_rel _ keepsReads_trans (ih _ t) fun rows u _ hu => hu

theorem findDevices_reads (ezzone : DeviceProfile) (args : Arguments)
    (s : Scan (Recorded σ)) :
    KeepsReads s (DiscoveryScan.findDevices lib (recordedWorld world) ezzone args s).2 := by
  simp only [DiscoveryScan.findDevices]
  split
  · exact fun hs => hs
  · split
    · exact fun hs => hs
    · exact scanCombinations_reads lib world args.timeout _ _ [] s

end Scans

section Detection

variable (world : PortWorld σ)

def recordedPort : PortWorld (Recorded σ) where
  opening transport s :=
    ((world.opening transport s.state).1, { s with state := (world.opening transport s.state).2 })
  draining s := ((world.draining s.state).1, { s with state := (world.draining s.state).2 })
  wire transport := recorded (world.wire transport)
  closing transport s :=
    ((world.closing transport s.state).1, { s with state := (world.closing transport s.state).2 })

/-- A step of the detection keeps `P` of the record. -/
def Carries (P : Recorded σ → Prop) (s t : Detecting (Recorded σ)) : Prop := P s.world → P t.world

theorem carries_trans (P : Recorded σ → Prop) (s t u : Detecting (Recorded σ))
    (h : Carries P s t) (h' : Carries P t u) : Carries P s u := fun hs => h' (h hs)

def DetectsByReads (s t : Detecting (Recorded σ)) : Prop := Reads s.world → Reads t.world

variable {P : Recorded σ → Prop}

theorem openTransport_carries (hP : KeptByReads P) (transport : Transport)
    (s : Detecting (Recorded σ)) :
    Carries P s (openTransport (recordedPort world) transport s).2 := hP.state _ _

theorem probeStdbus_carries (hP : KeptByReads P) (address : ℤ) (s : Detecting (Recorded σ)) :
    Carries P s (probeStdbus (recordedPort world) address s).2 := by
  intro hs
  simp only [probeStdbus]
  cases h : encodeReadRequest 1001 1 with
  | error e => exact hs
  | ok payload =>
    obtain ⟨-, rfl⟩ := encodeReadRequest_ok_iff.mp h
    exact hP.read _ _ _ ⟨_, rfl⟩ hs

theorem probeModbus_carries (hP : KeptByReads P) (address : ℤ) (s : Detecting (Recorded σ)) :
    Carries P s (probeModbus (recordedPort world) address s).2 := by
  intro hs
  simp only [probeModbus]
  cases h : ModbusOp.make .readHolding 0 2 none with
  | error e => exact hs
  | ok op => exact hP.read _ _ _ (make_ok_iff.mp h).1 hs

theorem detectionClosing_carries (hP : KeptByReads P) {α : Type} (transport : Transport)
    {s : Detecting (Recorded σ)} {x : Result α × Detecting (Recorded σ)} (hx : Carries P s x.2) :
    Carries P s (ProtocolDetection.closing (recordedPort world) transport x).2 := by
  intro hs
  simp only [ProtocolDetection.closing]
  split
  · exact hP.state _ _ (hx hs)
  · split
    · exact hP.state _ _ (hx hs)
    · exact hP.state _ _ (hx hs)

theorem settle_carries (hP : KeptByReads P) {kind : ProtocolKind} {transport : Transport}
    {label silent : String} {s : Detecting (Recorded σ)} {x : Result Bool × Detecting (Recorded σ)}
    (hx : Carries P s x.2) :
    Carries P s (settle (recordedPort world) kind transport label silent x).2 := by
  obtain ⟨r, t⟩ := x
  cases r with
  | ok confirmed =>
    cases confirmed with
    | true => exact hx
    | false => exact detectionClosing_carries world hP transport hx
  | error e =>
    simp only [settle]
    split
    · exact detectionClosing_carries world hP transport hx
    · exact detectionClosing_carries world hP transport hx

theorem skip_carries (label : String) (address lo hi : ℤ) (s : Detecting (Recorded σ)) :
    Carries P s (skip label address lo hi s).2 := by
  rw [skip]
  split
  · exact fun hs => hs
  · exact fun hs => hs

theorem tryStdbus_carries (hP : KeptByReads P) (address : ℤ) (s : Detecting (Recorded σ)) :
    Carries P s (tryStdbus (recordedPort world) address s).2 := by
  simp only [tryStdbus]
  split
  · refine settle_carries world hP (andThen_rel _ (carries_trans P)
      (openTransport_carries world hP .serial s) fun _ t _ => ?_)
    exact andThen_rel _ (carries_trans P) (hP.state _ _) fun _ u _ =>
      probeStdbus_carries world hP address u
  · exact skip_carries "stdbus: " address 1 16 s

theorem tryModbus_carries (hP : KeptByReads P) (address : ℤ) (s : Detecting (Recorded σ)) :
    Carries P s (tryModbus (recordedPort world) address s).2 := by
  simp only [tryModbus]
  split
  · refine settle_carries world hP (andThen_rel _ (carries_trans P)
      (openTransport_carries world hP .modbusBus s) fun _ t _ => ?_)
    exact probeModbus_carries world hP address t
  · exact skip_carries "modbus: " address 1 247 s

theorem detectProtocol_carries (hP : KeptByReads P) (port : String) (address : ℤ)
    (s : Detecting (Recorded σ)) :
    Carries P s (detectProtocol (recordedPort world) port address s).2 := by
  refine andThen_rel _ (carries_trans P) (tryStdbus_carries world hP address s) fun found t _ => ?_
  cases found with
  | some r => exact fun ht => ht
  | none =>
    refine andThen_rel _ (carries_trans P) (tryModbus_carries world hP address t)
      fun found u _ => ?_
    cases found with
    | some r => exact fun hu => hu
    | none => exact fun hu => hu

theorem detectProtocol_reads (port : String) (address : ℤ) (s : Detecting (Recorded σ)) :
    DetectsByReads s (detectProtocol (recordedPort world) port address s).2 :=
  detectProtocol_carries world reads_kept port address s

end Detection

/-- Identification under any profile and flags, any scan and any detection, over ports and devices
that answer in any way: all that reaches a client is reads. -/
theorem discovery_never_writes (lib : AnyModbus) :
    (∀ (wire : Wire σ) (profile : DeviceProfile) (strict queryConfiguredProtocol : Bool)
      (session : Session) (unit : Option TemperatureUnit) (start : σ),
      ∀ request ∈ (identify lib (recorded wire) profile strict queryConfiguredProtocol
        ⟨session, unit, ⟨start, []⟩⟩).2.line.requests, IsRead request ∧ ¬ IsWrite request) ∧
    (∀ (world : World σ) (ezzone : DeviceProfile) (args : Arguments) (start : σ),
      ∀ request ∈ (DiscoveryScan.findDevices lib (recordedWorld world) ezzone args
        ⟨⟨start, []⟩, []⟩).2.world.requests, IsRead request ∧ ¬ IsWrite request) ∧
    ∀ (world : PortWorld σ) (port : String) (address : ℤ) (start : σ),
      ∀ request ∈ (detectProtocol (recordedPort world) port address
        ⟨⟨start, []⟩, [], []⟩).2.world.requests, IsRead request ∧ ¬ IsWrite request := by
  have hnone : ∀ start : σ, Reads (⟨start, []⟩ : Recorded σ) := by simp [Reads]
  have hboth : ∀ s : Recorded σ, Reads s → ∀ request ∈ s.requests,
      IsRead request ∧ ¬ IsWrite request :=
    fun s hs request hr => ⟨hs request hr, isRead_not_write (hs request hr)⟩
  refine ⟨?_, ?_, ?_⟩
  · intro wire profile strict query session unit start
    exact hboth _ (identify_reads lib wire profile strict query (hnone start))
  · intro world ezzone args start
    exact hboth _ (findDevices_reads lib world ezzone args ⟨⟨start, []⟩, []⟩ (hnone start))
  · intro world port address start
    exact hboth _ (detectProtocol_reads world port address ⟨⟨start, []⟩, [], []⟩ (hnone start))

end ReadOnlyDiscovery
