import Watlowlib.ParameterLoader
import Watlowlib.ReplySelection
import Watlowlib.SafetyGate
import Watlowlib.WriteLimits

/-! # Which parameter a sample is about

A poll resolves each identifier and then reads by the name of the row it found. The name index is
not injective, so the read may resolve to another row than the sample is labelled with. -/
namespace PollAttribution

open EncoderContracts EncodingChecks ExceptRules ModbusCodec ModbusOps ParameterCommands
  ParameterLoader PythonValues Registry ReplySelection SafetyGate SessionExecute StdBusClient
  StdBusFraming StdBusPayload WatlowErrors

inductive MeasureUnit where
  | celsius
  | fahrenheit
  | percent
  deriving DecidableEq, Repr

def resolveUnit (kind : UnitKind) (temperatureUnit : Option MeasureUnit) : Option MeasureUnit :=
  match kind with
  | .temperature => temperatureUnit
  | .percent => some .percent
  | _ => none

structure Sample where
  device : String
  address : ℤ
  protocol : ProtocolKind
  parameter : String
  parameterId : ℤ
  instanceNo : ℤ
  value : PyValue
  unit : Option MeasureUnit
  raw : Bytes
  deriving DecidableEq, Repr

/-- A sample with the identifier it was emitted for, the request that was sent and the entry that
came back. -/
structure Polled where
  ident : Ident
  wire : Option WireRequest
  entry : ParameterEntry
  sample : Sample

variable (lib : AnyModbus) (device : String) (wireUnit : Option MeasureUnit)

abbrev Client := WireRequest → Result WireReply

def readByName (s : Session) (spec : ParameterSpec) (instanceNo : ℤ) (client : Client) :
    Exchange ParameterEntry :=
  execute s (readParameter lib) ⟨.name spec.name, instanceNo⟩ false client

def sampleOf (s : Session) (spec : ParameterSpec) (instanceNo : ℤ) (entry : ParameterEntry) :
    Sample :=
  ⟨device, s.address, s.kind, spec.name, spec.parameterId, instanceNo, entry.value,
    resolveUnit spec.unitKind wireUnit, entry.raw⟩

/-- One read; a typed error drops the row, any other ends the poll. -/
def pollOne (ident : Ident) (spec : ParameterSpec) (instanceNo : ℤ) (client : Client)
    (s : Session) : Result (List Polled) × Session :=
  let x := readByName lib s spec instanceNo client
  match x.response with
  | .ok entry =>
    (.ok [⟨ident, x.emitted, entry, sampleOf device wireUnit s spec instanceNo entry⟩], x.after)
  | .error e => if e.IsWatlow then (.ok [], x.after) else (.error e, x.after)

/-- The inner loop; `clients` gives the port at each exchange. -/
def pollInstances (clients : ℕ → Client) (ident : Ident) (spec : ParameterSpec) :
    List ℤ → ℕ → Session → Result (List Polled) × Session
  | [], _, s => (.ok [], s)
  | i :: is, n, s =>
    andThen (pollOne lib device wireUnit ident spec i (clients n) s) fun polled s =>
    andThen (pollInstances clients ident spec is (n + 1) s) fun rest s => (.ok (polled ++ rest), s)

/-- The outer loop over a registry bound before the first read. -/
def pollIdents (registry : ParameterRegistry) (clients : ℕ → Client) (instances : List ℤ) :
    List Ident → ℕ → Session → Result (List Polled) × Session
  | [], _, s => (.ok [], s)
  | x :: xs, n, s =>
    match registry.resolve x with
    | .error _ => pollIdents registry clients instances xs n s
    | .ok spec =>
      andThen (pollInstances lib device wireUnit clients x spec instances n s) fun polled s =>
      andThen (pollIdents registry clients instances xs (n + instances.length) s) fun rest s =>
        (.ok (polled ++ rest), s)

/-- `poll_controller`, with what each sample was made of. -/
def pollTraced (clients : ℕ → Client) (parameters : List Ident) (instances : List ℤ)
    (s : Session) : Result (List Polled) × Session :=
  pollIdents lib device wireUnit s.registry clients instances parameters 0 s

def pollController (clients : ℕ → Client) (parameters : List Ident) (instances : List ℤ)
    (s : Session) : Result (List Sample) :=
  (pollTraced lib device wireUnit clients parameters instances s).1.map fun polled =>
    polled.map (·.sample)

def AnswersAsked (client : Client) : Prop :=
  ∀ cls member instanceNo reply a,
    client (.payload [dirRequest, fnRead, 0x01, cls, member, instanceNo]) = .ok (.frame reply) →
    reply.payload = .readResponse a → a.cls = cls ∧ a.member = member ∧ a.instanceNo = instanceNo

/-- The parameter asked for, the one read on the wire and the one on the sample are the same. -/
structure Attributed (registry : ParameterRegistry) (polled : Polled) (spec : ParameterSpec) :
    Prop where
  requested : registry.resolve polled.ident = .ok spec
  sampledId : polled.sample.parameterId = spec.parameterId
  sampledName : polled.sample.parameter = spec.name
  sampledValue : polled.sample.value = polled.entry.value
  read : polled.entry.spec = spec
  sent : ∃ wire, polled.wire = some wire ∧ Names spec wire

def StdBusReadable (spec : ParameterSpec) : Prop :=
  ∃ instanceNo, (1 ≤ checkedInstance spec instanceNo ∧
    checkedInstance spec instanceNo ≤ spec.maxInstance) ∧
    SelectorFits spec.parameterId instanceNo

def ModbusReadable (spec : ParameterSpec) : Prop :=
  WritesInt spec.parameterId ∧
    (1 ≤ spec.defaultInstance ∧ spec.defaultInstance ≤ spec.maxInstance) ∧ AddressFits spec ∧
    effectiveCount spec ≤ 125 ∧ ∃ encoding words decoded value,
      specEncoding lib spec = .ok encoding ∧
      decodeWords lib words spec.dataType encoding = .ok decoded ∧
      scaleValue spec decoded = .ok value

def Readable (spec : ParameterSpec) : Prop := StdBusReadable spec ∨ ModbusReadable lib spec

section Membership

variable {lib device wireUnit} {clients : ℕ → Client} {ident : Ident} {spec : ParameterSpec}
  {s t : Session} {rs : List Polled} {r : Polled}

def FromRead (lib : AnyModbus) (device : String) (wireUnit : Option MeasureUnit)
    (clients : ℕ → Client) (registry : ParameterRegistry) (ident : Ident) (spec : ParameterSpec)
    (r : Polled) : Prop :=
  ∃ s n instanceNo entry, s.registry = registry ∧
    (readByName lib s spec instanceNo (clients n)).response = .ok entry ∧
    r = ⟨ident, (readByName lib s spec instanceNo (clients n)).emitted, entry,
      sampleOf device wireUnit s spec instanceNo entry⟩

theorem pollOne_mem {instanceNo : ℤ} {n : ℕ}
    (h : pollOne lib device wireUnit ident spec instanceNo (clients n) s = (.ok rs, t)) :
    t.registry = s.registry ∧
      ∀ r ∈ rs, FromRead lib device wireUnit clients s.registry ident spec r := by
  have hregistry : (readByName lib s spec instanceNo (clients n)).after.registry = s.registry :=
    (execute_sameDevice _).registry
  simp only [pollOne] at h
  cases hr : (readByName lib s spec instanceNo (clients n)).response with
  | ok entry =>
    simp only [hr] at h
    cases h
    refine ⟨hregistry, ?_⟩
    intro r hmem
    obtain rfl := List.mem_singleton.mp hmem
    exact ⟨s, n, instanceNo, entry, rfl, hr, rfl⟩
  | error e =>
    simp only [hr] at h
    split at h
    · cases h
      exact ⟨hregistry, by simp⟩
    · cases h

theorem pollInstances_mem {instances : List ℤ} {n : ℕ}
    (h : pollInstances lib device wireUnit clients ident spec instances n s = (.ok rs, t)) :
    t.registry = s.registry ∧
      ∀ r ∈ rs, FromRead lib device wireUnit clients s.registry ident spec r := by
  induction instances generalizing n s rs t with
  | nil =>
    cases h
    simp
  | cons i is ih =>
    obtain ⟨polled, u, hone, h⟩ := andThen_ok_iff.mp h
    obtain ⟨rest, v, hrest, h⟩ := andThen_ok_iff.mp h
    cases h
    obtain ⟨hu, hpolled⟩ := pollOne_mem hone
    obtain ⟨hv, hmem⟩ := ih hrest
    refine ⟨hv.trans hu, ?_⟩
    intro r hr
    rcases List.mem_append.mp hr with hr | hr
    · exact hpolled r hr
    · exact hu ▸ hmem r hr

theorem pollIdents_mem {registry : ParameterRegistry} {instances : List ℤ} {parameters : List Ident}
    {n : ℕ} (hs : s.registry = registry)
    (h : pollIdents lib device wireUnit registry clients instances parameters n s = (.ok rs, t)) :
    ∀ r ∈ rs, ∃ x ∈ parameters, ∃ spec, registry.resolve x = .ok spec ∧
      FromRead lib device wireUnit clients registry x spec r := by
  induction parameters generalizing n s rs t with
  | nil =>
    cases h
    simp
  | cons x xs ih =>
    have hlater : ∀ {n s rs t}, s.registry = registry →
        pollIdents lib device wireUnit registry clients instances xs n s = (.ok rs, t) →
        ∀ r ∈ rs, ∃ y ∈ x :: xs, ∃ spec, registry.resolve y = .ok spec ∧
          FromRead lib device wireUnit clients registry y spec r := by
      intro n s rs t hs h r hr
      obtain ⟨y, hy, hspec⟩ := ih hs h r hr
      exact ⟨y, List.mem_cons_of_mem x hy, hspec⟩
    simp only [pollIdents] at h
    cases hx : registry.resolve x with
    | error e =>
      simp only [hx] at h
      exact hlater hs h
    | ok spec =>
      simp only [hx] at h
      obtain ⟨polled, u, hpolled, h⟩ := andThen_ok_iff.mp h
      obtain ⟨rest, v, hrest, h⟩ := andThen_ok_iff.mp h
      cases h
      obtain ⟨hu, hmem⟩ := pollInstances_mem hpolled
      intro r hr
      rcases List.mem_append.mp hr with hr | hr
      · exact ⟨x, List.mem_cons_self, spec, hx, hs ▸ hmem r hr⟩
      · exact hlater (hu.trans hs) hrest r hr

end Membership

section Attribution

variable {lib} {s : Session} {spec named : ParameterSpec} {entry : ParameterEntry} {client : Client}
  {instanceNo : ℤ}

/-- What a read by name reads: the row that the name resolves to, on the wire and in the entry. -/
structure ReadsRow (lib : AnyModbus) (registry : ParameterRegistry) (name : String)
    (x : Exchange ParameterEntry) (entry : ParameterEntry) : Prop where
  named : registry.resolve (.name name) = .ok entry.spec
  readable : Readable lib entry.spec
  sent : ∃ wire, x.emitted = some wire ∧ Names entry.spec wire

theorem stdbus_reads {ctx : CommandContext} {name : String} {bs : Bytes} {reply : StdBusReply}
    (hd : DistinctIds ctx.registry) (hanswers : AnswersAsked client)
    (hbs : readStdBusEncode ctx ⟨.name name, instanceNo⟩ = .ok bs)
    (hreply : client (.payload bs) = .ok (.frame reply))
    (hentry : readStdBusDecode reply ctx = .ok entry) :
    ctx.registry.resolve (.name name) = .ok entry.spec ∧ Readable lib entry.spec ∧
      Names entry.spec (.payload bs) := by
  obtain ⟨named, hr, henc⟩ := bind_ok_iff.mp hbs
  have hr := resolveRequest_ok_iff.mp hr
  obtain ⟨hfit, rfl⟩ := encodeReadRequest_ok_iff.mp henc
  obtain ⟨a, ha, hrow, -, -⟩ := read_entry hentry
  obtain ⟨hcls, hmember, hinstance⟩ := hanswers _ _ _ _ _ hreply ha
  obtain ⟨hid, -⟩ := selector_read_back (a := a) hfit (by
    rw [selectorBytes, hcls, hmember, hinstance])
  obtain ⟨hkey, hmem⟩ := resolve_id _ hrow
  have hsame : entry.spec = named :=
    distinctIds_unique hd hmem (resolve_mem _ hr.resolved) (hkey.trans hid)
  rw [hsame]
  have hnames := selectedId_selectorBytes hfit []
  rw [List.append_nil] at hnames
  exact ⟨hr.resolved, Or.inl ⟨instanceNo, ⟨hr.lower, hr.upper⟩, hfit⟩, hnames⟩

theorem modbus_reads {ctx : CommandContext} {name : String} {o : ModbusOp} {words : Words}
    (hk : ∀ spec, ctx.registry.resolve (.name name) = .ok spec → WritesInt spec.parameterId)
    (ho : readModbusEncode lib ctx ⟨.name name, instanceNo⟩ = .ok o)
    (hentry : readModbusDecode lib words ctx ⟨.name name, instanceNo⟩ = .ok entry) :
    ctx.registry.resolve (.name name) = .ok entry.spec ∧ Readable lib entry.spec ∧
      Names entry.spec (.op o) := by
  obtain ⟨named, hr, hi, haddress, -, -⟩ := readModbus_ok ho
  obtain ⟨named', hr', -, -, hfits, hcount⟩ := readModbus_accepts_iff.mp ⟨o, ho⟩
  cases hr.resolved.symm.trans hr'.resolved
  obtain ⟨named', hres, h⟩ := bind_ok_iff.mp hentry
  cases hr.resolved.symm.trans (resolveRequest_ok_iff.mp hres).resolved
  obtain ⟨encoding, he, h⟩ := bind_ok_iff.mp h
  cases hdecode : decodeWords lib words named.dataType encoding with
  | error e =>
    simp only [hdecode] at h
    split at h <;> cases h
  | ok decoded =>
    simp only [hdecode] at h
    obtain ⟨value, hvalue, h⟩ := bind_ok_iff.mp h
    cases h
    have hinstance := WriteLimits.instance_of_default hr hi
    rw [hi] at hinstance
    exact ⟨hr.resolved, Or.inr ⟨hk named hr.resolved, hinstance, hfits, hcount, encoding, words,
      decoded, value, he, hdecode, hvalue⟩, haddress⟩

theorem readByName_reads (hd : DistinctIds s.registry) (hanswers : AnswersAsked client)
    (h : (readByName lib s spec instanceNo client).response = .ok entry) :
    ReadsRow lib s.registry spec.name (readByName lib s spec instanceNo client) entry := by
  obtain ⟨d, reply, hprepare, hreply, hdecode⟩ := execute_ok_iff.mp h
  have hemitted : (readByName lib s spec instanceNo client).emitted = some d.wire :=
    execute_emitted hprepare
  obtain ⟨variant, hv, hk, -, -, wire, hw, rfl⟩ := prepare_ok_iff.mp hprepare
  rcases selectVariant_ok hv with ⟨v, hcommand, rfl⟩ | ⟨v, hcommand, rfl⟩
  · cases hcommand
    obtain ⟨bs, hbs, hw⟩ := bind_ok_iff.mp hw
    cases hw
    cases reply with
    | words ws => cases hdecode
    | frame reply =>
      obtain ⟨hnamed, hreadable, hnames⟩ := stdbus_reads hd hanswers hbs hreply hdecode
      exact ⟨hnamed, hreadable, _, hemitted, hnames⟩
  · cases hcommand
    obtain ⟨o, ho, hw⟩ := bind_ok_iff.mp hw
    cases hw
    cases reply with
    | frame reply => cases hdecode
    | words ws =>
      obtain ⟨hnamed, hreadable, hnames⟩ :=
        modbus_reads (fun _ hspec => (checkKey_resolved rfl hspec).mp hk) ho hdecode
      exact ⟨hnamed, hreadable, _, hemitted, hnames⟩

def zeroDevice : Client
  | .payload [_, _, _, cls, member, instanceNo] =>
    .ok (.frame ⟨⟨dataNotExpectingReply, 0x00, 0x10, []⟩,
      .readResponse ⟨cls, member, instanceNo, .num (.int 0), 0x01⟩, []⟩)
  | _ => raise .timeout []

theorem zeroDevice_answers : AnswersAsked zeroDevice := by
  intro cls member instanceNo reply a hreply ha
  cases hreply
  cases ha
  exact ⟨rfl, rfl, rfl⟩

theorem words_answers (words : Words) : AnswersAsked fun _ => .ok (.words words) := by
  intro cls member instanceNo reply a hreply _
  cases hreply

def freshSession (kind : ProtocolKind) (registry : ParameterRegistry) : Session :=
  ⟨kind, registry, 1, "COM3", ∅, none⟩

theorem freshSession_prepares {kind : ProtocolKind} {registry : ParameterRegistry}
    {request : ReadParameterRequest} {variant : Variant ReadParameterRequest ParameterEntry}
    {wire : WireRequest} (hresolved : registry.resolve request.nameOrId = .ok spec)
    (hwrites : WritesInt spec.parameterId)
    (hv : selectVariant (freshSession kind registry) (readParameter lib) request = .ok variant)
    (hw : variant.encode (freshSession kind registry).context request = .ok wire) :
    ∃ key, prepare (freshSession kind registry) (readParameter lib) request false =
      .ok ⟨key, wire, variant.decode (freshSession kind registry).context request⟩ :=
  ⟨_, prepare_ok_iff.mpr ⟨variant, hv, (checkKey_resolved rfl hresolved).mpr hwrites,
    by simp [freshSession], nofun, wire, hw, rfl⟩⟩

theorem readable_answered {R : LoadedRegistry}
    (hnamed : R.registry.resolve (.name spec.name) = .ok named) (hreadable : Readable lib named) :
    ∃ s client instanceNo entry, s.registry = R.registry ∧ AnswersAsked client ∧
      (readByName lib s spec instanceNo client).response = .ok entry ∧ entry.spec = named := by
  rcases hreadable with ⟨i, ⟨hlo, hhi⟩, hfit⟩ |
    ⟨hwrites, ⟨hlo, hhi⟩, hfits, hcount, encoding, words, decoded, value, he, hdecoded, hvalue⟩
  · let s := freshSession .stdbus R.registry
    have hr : resolveRequest s.context (.name spec.name) i = .ok named :=
      resolveRequest_ok_iff.mpr ⟨hnamed, hlo, hhi⟩
    have hencode : readStdBusEncode s.context ⟨.name spec.name, i⟩ =
        .ok ([dirRequest, fnRead, 0x01] ++ selectorBytes named.parameterId i) :=
      bind_ok_iff.mpr ⟨named, hr, encodeReadRequest_ok_iff.mpr ⟨hfit, rfl⟩⟩
    let a : Attribute := ⟨UInt8.ofNat (named.parameterId / 1000).toNat,
      UInt8.ofNat (named.parameterId % 1000).toNat, UInt8.ofNat i.toNat, .num (.int 0),
      0x01⟩
    have hid : selectorId a = named.parameterId := (selector_read_back hfit rfl).1
    have hback : s.context.registry.resolve (.id (selectorId a)) = .ok named := by
      rw [hid]
      exact build_resolves R.distinct (resolve_mem _ hnamed)
    have hdecode : ∃ entry, readStdBusDecode
        ⟨⟨dataNotExpectingReply, 0x00, 0x10, []⟩, .readResponse a, []⟩ s.context = .ok entry ∧
        entry.spec = named :=
      ⟨_, bind_ok_iff.mpr ⟨named, resolveReply_ok_iff.mpr hback, rfl⟩, rfl⟩
    obtain ⟨entry, hentry, hspec⟩ := hdecode
    obtain ⟨key, hprepare⟩ := @freshSession_prepares lib named .stdbus R.registry _ _ _
      hnamed hfit.writes rfl
      (bind_ok_iff.mpr ⟨_, hencode, rfl⟩)
    exact ⟨s, zeroDevice, i, entry, rfl, zeroDevice_answers,
      execute_ok_iff.mpr ⟨_, _, hprepare, rfl, hentry⟩, hspec⟩
  · let s := freshSession .modbusRtu R.registry
    let request : ReadParameterRequest := ⟨.name spec.name, named.defaultInstance⟩
    have hchecked : checkedInstance named named.defaultInstance = named.defaultInstance := by
      simp only [checkedInstance]
      split <;> rfl
    have hr : Requested s.context request.nameOrId request.instanceNo named :=
      ⟨hnamed, hchecked.symm ▸ hlo, hchecked.symm ▸ hhi⟩
    obtain ⟨op, hop⟩ := readModbus_accepts_iff.mpr
      ⟨named, hr, rfl, ⟨encoding, he⟩, hfits, hcount⟩
    have hdecode : ∃ entry, readModbusDecode lib words s.context request = .ok entry ∧
        entry.spec = named := by
      refine ⟨⟨named, named.defaultInstance, value, wordBytes words⟩, ?_, rfl⟩
      simp only [readModbusDecode]
      rw [resolveRequest_ok_iff.mpr hr, ok_bind, he, ok_bind]
      simp only [hdecoded, hvalue]
      rfl
    obtain ⟨entry, hentry, hspec⟩ := hdecode
    obtain ⟨key, hprepare⟩ := @freshSession_prepares lib named .modbusRtu R.registry request _ _
      hnamed hwrites rfl
      (bind_ok_iff.mpr ⟨op, hop, rfl⟩)
    exact ⟨s, fun _ => .ok (.words words), named.defaultInstance, entry, rfl, words_answers words,
      execute_ok_iff.mpr ⟨_, _, hprepare, rfl, hentry⟩, hspec⟩

variable (lib)

/-- Every sample of every poll of identifiers in `X` is about the parameter that its identifier
denotes, whatever the session has seen and whichever devices answer. -/
def PollAttributed (R : LoadedRegistry) (X : Set Ident) : Prop :=
  ∀ device wireUnit clients parameters instances (s : Session) rs t, s.registry = R.registry →
    (∀ x ∈ parameters, x ∈ X) → (∀ n, AnswersAsked (clients n)) →
    pollTraced lib device wireUnit clients parameters instances s = (.ok rs, t) →
    ∀ r ∈ rs, ∃ spec, Attributed R.registry r spec

theorem PollAttributed.leads_back {R : LoadedRegistry} {X : Set Ident}
    (h : PollAttributed lib R X) {x : Ident} (hx : x ∈ X)
    (hspec : R.registry.resolve x = .ok spec)
    (hnamed : R.registry.resolve (.name spec.name) = .ok named) (hreadable : Readable lib named) :
    named = spec := by
  obtain ⟨s, client, instanceNo, entry, hs, hanswers, hresponse, hentry⟩ :=
    readable_answered hnamed hreadable
  obtain ⟨t, hpoll⟩ : ∃ t, pollTraced lib "" none (fun _ => client) [x] [instanceNo] s =
      (.ok [⟨x, (readByName lib s spec instanceNo client).emitted, entry,
        sampleOf "" none s spec instanceNo entry⟩], t) := by
    refine ⟨(readByName lib s spec instanceNo client).after, ?_⟩
    simp only [pollTraced, pollIdents, hs, hspec, pollInstances, pollOne, hresponse, andThen_ok,
      List.append_nil]
  obtain ⟨spec', hattributed⟩ := h _ _ _ _ _ _ _ _ hs (by simpa using hx) (fun _ => hanswers)
    hpoll _ List.mem_cons_self
  cases hspec.symm.trans hattributed.requested
  exact hentry.symm.trans hattributed.read

/-- Polls are attributed exactly when the name of each polled row, unless it names a row that no
read can succeed for, leads back to the row. -/
theorem pollAttributed_iff (R : LoadedRegistry) (X : Set Ident) :
    PollAttributed lib R X ↔ ∀ x ∈ X, ∀ spec named, R.registry.resolve x = .ok spec →
      R.registry.resolve (.name spec.name) = .ok named → Readable lib named → named = spec := by
  constructor
  · intro h x hx spec named hspec hnamed hreadable
    exact h.leads_back lib hx hspec hnamed hreadable
  · intro h device wireUnit clients parameters instances s rs t hs hX hanswers hpoll r hr
    obtain ⟨x, hx, spec, hspec, s', n, i, entry, hs', hresponse, rfl⟩ :=
      pollIdents_mem rfl hpoll r hr
    have hregistry : s'.registry = R.registry := hs'.trans hs
    obtain ⟨hnamed, hreadable, wire, hwire, hnames⟩ :=
      readByName_reads (hregistry ▸ R.distinct) (hanswers n) hresponse
    have hsame := h x (hX x hx) spec entry.spec (hs ▸ hspec) (hregistry ▸ hnamed) hreadable
    exact ⟨spec, hs ▸ hspec, rfl, rfl, rfl, hsame, wire, hwire, hsame ▸ hnames⟩

end Attribution

def unitsRow (parameterId : ℤ) (name : String) : Row :=
  Dictionaries.ofList [("parameter_id", .int parameterId), ("name", .str name),
    ("max_instance", .int 2), ("relative_addr", .int parameterId), ("rwes", .str "RW"),
    ("data_type", .str "unsigned 8-bit"), ("unit_kind", .str "dimensionless")]

def unitsSpec (parameterId : ℤ) : ParameterSpec :=
  { plainRow parameterId "units" with cls := 0, member := 0 }

def unitsTable : LoadedRegistry where
  rows := [unitsRow 4042 "Analog Input - Units", unitsRow 34029 "Linearization - Units"]
  specs := [unitsSpec 4042, unitsSpec 34029]
  loaded := by decide +kernel
  aliases := []
  overrides := []

/-- A poll of parameter 4042 reads 34029. -/
theorem repeated_name_mixed_up :
    ¬ ∀ (lib : AnyModbus) (R : LoadedRegistry), PollAttributed lib R Set.univ := by
  intro h
  have hreadable : Readable wordModbus (unitsSpec 34029) :=
    Or.inl ⟨1, by decide, by decide, by decide, by decide⟩
  have hsame : unitsSpec 34029 = unitsSpec 4042 :=
    (h wordModbus unitsTable).leads_back wordModbus (x := .id 4042) trivial (by decide +kernel)
      (by decide +kernel) hreadable
  exact absurd hsame (by decide)

end PollAttribution
