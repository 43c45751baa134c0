import Watlowlib.SessionExecute

/-! # The safety gate over runs

Sequences of calls on one session, with any replies and any change of the registry between them.
What a call hands to the client is decided before the wire, so the availability table, whatever it
has become, can only refuse. -/
namespace SafetyGate

open EncoderContracts EncodingChecks ExceptRules ModbusCodec ModbusOps ParameterCommands
  PythonValues Registry SessionExecute StdBusPayload TransitionSystem WatlowErrors

section OneCall

variable {Req Resp : Type} [Targeted Req] {s : Session} {command : Command Req Resp}
  {request : Req} {confirm : Bool}

/-- The reasons for which a call is refused before I/O. -/
inductive Refused (s : Session) (command : Command Req Resp) (request : Req) (confirm : Bool) :
    Prop where
  | noVariant (e : PyError) (h : selectVariant s command request = .error e)
  | noKey (e : PyError) (h : checkKey s request = .error e)
  | unavailable (h : s.availability.lookup (cacheKey s command request) = some .unsupported)
  | unconfirmed (hsafety : command.safety = .persistent) (h : confirm = false)
  | notEncoded (variant : Variant Req Resp) (e : PyError)
      (hv : selectVariant s command request = .ok variant)
      (h : variant.encode s.context request = .error e)

theorem Refused.prepare (h : Refused s command request confirm) :
    ∃ e, prepare s command request confirm = .error e := by
  rcases error_or_ok (SessionExecute.prepare s command request confirm) with he | ⟨d, hd⟩
  · exact he
  · obtain ⟨variant, hv, hk, ha, hc, wire, hw, -⟩ := prepare_ok_iff.mp hd
    cases h with
    | noVariant e h => cases hv.symm.trans h
    | noKey e h => cases hk.symm.trans h
    | unavailable h => exact absurd h ha
    | unconfirmed hsafety h =>
      rw [hc hsafety] at h
      cases h
    | notEncoded variant' e hv' h =>
      cases hv.symm.trans hv'
      cases hw.symm.trans h

theorem Refused.execute (h : Refused s command request confirm)
    (client : WireRequest → Result WireReply) :
    (∃ e, (execute s command request confirm client).response = .error e) ∧
      (execute s command request confirm client).emitted = none ∧
      (execute s command request confirm client).after = s := by
  obtain ⟨e, he⟩ := h.prepare
  simp only [SessionExecute.execute]
  rw [he]
  exact ⟨⟨e, rfl⟩, rfl, rfl⟩

theorem emitted_encoded {client : WireRequest → Result WireReply} {wire : WireRequest}
    (h : (execute s command request confirm client).emitted = some wire) :
    ∃ variant, selectVariant s command request = .ok variant ∧
      (command.safety = .persistent → confirm = true) ∧
      variant.encode s.context request = .ok wire := by
  simp only [SessionExecute.execute] at h
  split at h
  · cases h
  · rename_i d hd
    cases h
    obtain ⟨variant, hv, -, -, hc, wire, hw, rfl⟩ := prepare_ok_iff.mp hd
    exact ⟨variant, hv, hc, hw⟩

end OneCall

def IsWrite : WireRequest → Prop
  | .payload bs => bs.getD 1 0 = fnWrite
  | .op o => o.fn.Writes

/-- The selector of a request; a read has a mode byte in front of it. -/
def selectorPart (bs : Bytes) : Bytes := if bs.getD 1 0 = fnRead then bs.drop 3 else bs.drop 2

def selectedId (selector : Bytes) : ℤ :=
  joinParam (selector.getD 0 0).toNat (selector.getD 1 0).toNat

def Names (spec : ParameterSpec) : WireRequest → Prop
  | .payload bs => selectedId (selectorPart bs) = spec.parameterId
  | .op o => o.address = spec.relativeAddr

inductive Invocation where
  | read (request : ReadParameterRequest)
  | write (request : WriteParameterRequest)
  deriving DecidableEq

variable (lib : AnyModbus)

def Invocation.safety : Invocation → SafetyTier
  | .read _ => (readParameter lib).safety
  | .write _ => (writeParameter lib).safety

def Invocation.execute (s : Session) (confirm : Bool) (client : WireRequest → Result WireReply) :
    Invocation → Exchange ParameterEntry
  | .read request => SessionExecute.execute s (readParameter lib) request confirm client
  | .write request => SessionExecute.execute s (writeParameter lib) request confirm client

def Invocation.Refused (s : Session) (confirm : Bool) : Invocation → Prop
  | .read request => SafetyGate.Refused s (readParameter lib) request confirm
  | .write request => SafetyGate.Refused s (writeParameter lib) request confirm

structure CallRecord where
  invocation : Invocation
  confirm : Bool
  before : Session
  after : Session
  emitted : Option WireRequest
  response : Result ParameterEntry

inductive Event where
  | call (c : CallRecord)
  | bindRegistry (registry : ParameterRegistry)

/-- A call with some outcome on the wire, or a new registry between two calls. -/
inductive Step (lib : AnyModbus) : Session → Event → Session → Prop where
  | call (s : Session) (i : Invocation) (confirm : Bool)
      (client : WireRequest → Result WireReply) :
      Step lib s
        (.call ⟨i, confirm, s, (i.execute lib s confirm client).after,
          (i.execute lib s confirm client).emitted, (i.execute lib s confirm client).response⟩)
        (i.execute lib s confirm client).after
  | bindRegistry (s : Session) (registry : ParameterRegistry) :
      Step lib s (.bindRegistry registry) { s with registry := registry }

/-- Writes are confirmed calls of a persistent command on a row that is writable in the registry
bound at that moment; reads write nothing; a refusal hands nothing on and changes nothing. -/
structure Gated (lib : AnyModbus) (c : CallRecord) : Prop where
  write : ∀ wire, c.emitted = some wire → IsWrite wire →
    ∃ request spec, c.invocation = .write request ∧ c.invocation.safety lib = .persistent ∧
      c.confirm = true ∧ c.before.registry.resolve request.nameOrId = .ok spec ∧
      spec.rwes ≠ .r ∧ Names spec wire
  read : ∀ request wire, c.invocation = .read request → c.emitted = some wire → ¬ IsWrite wire
  refused : c.invocation.Refused lib c.before c.confirm →
    c.emitted = none ∧ c.after = c.before ∧ ∃ e, c.response = .error e

def EventGated (lib : AnyModbus) : Event → Prop
  | .call c => Gated lib c
  | .bindRegistry _ => True

variable {lib} {s : Session} {confirm : Bool} {client : WireRequest → Result WireReply}

theorem selectedId_selectorBytes {paramId instanceNo : ℤ} (h : SelectorFits paramId instanceNo)
    (tail : Bytes) : selectedId (selectorBytes paramId instanceNo ++ tail) = paramId := by
  obtain ⟨⟨hc0, hc⟩, ⟨hm0, hm⟩, -⟩ := h
  change joinParam ((UInt8.ofNat (paramId / 1000).toNat).toNat)
    ((UInt8.ofNat (paramId % 1000).toNat).toNat) = paramId
  rw [UInt8.toNat_ofNat', UInt8.toNat_ofNat', joinParam]
  omega

theorem readStdBus_not_write {ctx : CommandContext} {request : ReadParameterRequest} {bs : Bytes}
    (h : readStdBusEncode ctx request = .ok bs) : ¬ IsWrite (.payload bs) := by
  obtain ⟨spec, -, h⟩ := bind_ok_iff.mp h
  obtain ⟨-, rfl⟩ := encodeReadRequest_ok_iff.mp h
  change ¬ fnRead = fnWrite
  decide

theorem readModbus_not_write {ctx : CommandContext} {request : ReadParameterRequest} {o : ModbusOp}
    (h : readModbusEncode lib ctx request = .ok o) : ¬ IsWrite (.op o) := by
  obtain ⟨spec, -, -, -, -, hfn⟩ := readModbus_ok h
  change ¬ o.fn.Writes
  rw [hfn]
  decide

theorem read_not_write {request : ReadParameterRequest} {wire : WireRequest}
    (h : (execute s (readParameter lib) request confirm client).emitted = some wire) :
    ¬ IsWrite wire := by
  obtain ⟨variant, hv, -, hw⟩ := emitted_encoded h
  rcases selectVariant_ok hv with ⟨v, hcommand, rfl⟩ | ⟨v, hcommand, rfl⟩
  · cases hcommand
    obtain ⟨bs, hbs, hw⟩ := bind_ok_iff.mp hw
    cases hw
    exact readStdBus_not_write hbs
  · cases hcommand
    obtain ⟨o, ho, hw⟩ := bind_ok_iff.mp hw
    cases hw
    exact readModbus_not_write ho

theorem writeStdBus_names {ctx : CommandContext} {request : WriteParameterRequest} {bs : Bytes}
    (h : writeStdBusEncode ctx request = .ok bs) :
    ∃ spec, ctx.registry.resolve request.nameOrId = .ok spec ∧ spec.rwes ≠ .r ∧
      Names spec (.payload bs) := by
  obtain ⟨spec, ha, hbs⟩ := writeStdBus_ok_iff.mp h
  obtain ⟨hfit, tail, -, rfl⟩ := encodeWriteRequest_ok_iff.mp hbs
  exact ⟨spec, ha.requested.resolved, ha.writable, selectedId_selectorBytes hfit tail⟩

theorem write_guarded {request : WriteParameterRequest} {wire : WireRequest}
    (h : (execute s (writeParameter lib) request confirm client).emitted = some wire) :
    confirm = true ∧ ∃ spec, s.registry.resolve request.nameOrId = .ok spec ∧ spec.rwes ≠ .r ∧
      Names spec wire := by
  obtain ⟨variant, hv, hconfirm, hw⟩ := emitted_encoded h
  refine ⟨hconfirm rfl, ?_⟩
  rcases selectVariant_ok hv with ⟨v, hcommand, rfl⟩ | ⟨v, hcommand, rfl⟩
  · cases hcommand
    obtain ⟨bs, hbs, hw⟩ := bind_ok_iff.mp hw
    cases hw
    exact writeStdBus_names hbs
  · cases hcommand
    obtain ⟨o, ho, hw⟩ := bind_ok_iff.mp hw
    cases hw
    obtain ⟨spec, hr, hwritable, -, haddress, -⟩ := writeModbus_ok ho
    exact ⟨spec, hr.resolved, hwritable, haddress⟩

theorem step_gated {t : Session} {e : Event} (h : Step lib s e t) : EventGated lib e := by
  cases h with
  | bindRegistry registry => exact trivial
  | call i confirm client =>
    cases i with
    | read request =>
      refine ⟨?_, ?_, ?_⟩
      · intro wire hw hwrite
        exact absurd hwrite (read_not_write hw)
      · intro _ wire _ hw
        exact read_not_write hw
      · intro hr
        obtain ⟨he, hnone, hafter⟩ := Refused.execute hr client
        exact ⟨hnone, hafter, he⟩
    | write request =>
      refine ⟨?_, ?_, ?_⟩
      · intro wire hw _
        obtain ⟨hconfirm, spec, hspec, hwritable, hnames⟩ := write_guarded hw
        exact ⟨request, spec, rfl, rfl, hconfirm, hspec, hwritable, hnames⟩
      · intro _ _ hread _
        cases hread
      · intro hr
        obtain ⟨he, hnone, hafter⟩ := Refused.execute hr client
        exact ⟨hnone, hafter, he⟩

/-- The gate holds of every call in every run, and refusals of any command change nothing. -/
theorem run_gated {s t : Session} {events : List Event} (h : Run (Step lib) s events t) :
    (∀ e ∈ events, EventGated lib e) ∧
    ∀ {Req Resp : Type} [Targeted Req] (command : Command Req Resp) (request : Req)
      (confirm : Bool) (client : WireRequest → Result WireReply),
      Refused t command request confirm →
      (execute t command request confirm client).emitted = none ∧
        (execute t command request confirm client).after = t := by
  constructor
  · exact h.forall_event (fun _ => True) (fun _ _ _ _ he => ⟨trivial, step_gated he⟩) trivial
  · intro Req Resp _ command request confirm client hr
    exact (hr.execute client).2

def byteSession : Session :=
  ⟨.stdbus, .build [plainRow 4001 "process_value"] [] [], 1, "COM3", ∅, none⟩

def confirmedWrite : CallRecord :=
  let client : WireRequest → Result WireReply := fun _ => raise .timeout []
  let exchange := (Invocation.write ⟨.id 4001, .num (.int 5), 1⟩).execute wordModbus byteSession
    true client
  ⟨.write ⟨.id 4001, .num (.int 5), 1⟩, true, byteSession, exchange.after, exchange.emitted,
    exchange.response⟩

theorem confirmedWrite_gated :
    confirmedWrite.emitted = some (.payload [0x01, 0x04, 0x04, 0x01, 0x01, 0x01, 0x05]) ∧
      EventGated wordModbus (.call confirmedWrite) :=
  ⟨by decide +kernel,
    (run_gated (.cons (.call byteSession (.write ⟨.id 4001, .num (.int 5), 1⟩) true fun _ =>
      raise .timeout []) (.nil _))).1 _ (List.mem_singleton.mpr rfl)⟩

end SafetyGate
