import Watlowlib.ModbusClient
import Watlowlib.ReplySelection
import Watlowlib.SessionInterleaving

/-! # The availability table, transition by transition

What one call does to the table: first for any command over any client, then for the two commands
of the library over the clients of both protocols. -/
namespace AvailabilityTable

open EncodingChecks ExceptRules ModbusClient ModbusCodec ModbusOps ParameterCommands
  PythonNumbers PythonValues ReplySelection SafetyGate SerialTransport SessionExecute
  SessionInterleaving StdBusClient StdBusFraming StdBusPayload WatlowErrors

/-- What a call that is rejected under the condition `rejected` does to the table: a success marks
its key supported, a rejection marks it unsupported, and nothing else changes anything. -/
structure Tabled {Resp : Type} (before : Session) (key : String) (rejected : Prop)
    (x : Exchange Resp) : Prop where
  other : ∀ k, k ≠ key → x.after.availability.lookup k = before.availability.lookup k
  supported : ∀ response, x.response = .ok response →
    x.after.availability.lookup key = some .supported
  unsupported : rejected → x.after.availability.lookup key = some .unsupported
  raised : rejected → ∃ e, x.response = .error e
  unchanged : (∃ e, x.response = .error e) → ¬ rejected →
    x.after.availability.lookup key = before.availability.lookup key

section AnyCommand

variable {Req Resp : Type} [Targeted Req] {s : Session} {command : Command Req Resp}
  {request : Req} {confirm : Bool} {client : WireRequest → Result WireReply} {d : Dispatch Resp}
  {outcome : Result WireReply}

/-- The exchange or the decoding of its reply raises one of the three rejecting classes. -/
def Rejected (s : Session) (command : Command Req Resp) (request : Req) (confirm : Bool)
    (client : WireRequest → Result WireReply) : Prop :=
  ∃ d, prepare s command request confirm = .ok d ∧ Marks d (client d.wire)

theorem finish_supported {response : Resp} (h : (finish s d outcome).1 = .ok response) :
    (finish s d outcome).2.availability.lookup d.key = some .supported := by
  obtain ⟨reply, rfl, hdecode⟩ := finish_ok h
  rw [finish, hdecode, mark_lookup, if_pos rfl]

theorem finish_rejected (h : Marks d outcome) :
    (finish s d outcome).2.availability.lookup d.key = some .unsupported ∧
      ∃ e, (finish s d outcome).1 = .error e := by
  cases outcome with
  | error e =>
    refine ⟨?_, e, rfl⟩
    rw [finish, fail_lookup, if_pos ⟨h, rfl⟩]
  | ok reply =>
    obtain ⟨e, hdecode, he⟩ := h
    rw [finish, hdecode]
    refine ⟨?_, e, rfl⟩
    rw [fail_lookup, if_pos ⟨he, rfl⟩]

theorem finish_unchanged {e : PyError} (he : (finish s d outcome).1 = .error e)
    (h : ¬ Marks d outcome) :
    (finish s d outcome).2.availability.lookup d.key = s.availability.lookup d.key := by
  cases outcome with
  | error e' => rw [finish, fail_lookup, if_neg fun hc => h hc.1]
  | ok reply =>
    cases hdecode : d.decode reply with
    | error e' =>
      have hr : ¬ Rejects e' := fun hr => h ⟨e', hdecode, hr⟩
      rw [finish, hdecode, fail_lookup, if_neg fun hc => hr hc.1]
    | ok response =>
      rw [finish, hdecode] at he
      cases he

theorem prepare_key (h : prepare s command request confirm = .ok d) :
    d.key = cacheKey s command request := by
  obtain ⟨variant, -, -, -, -, wire, -, rfl⟩ := prepare_ok_iff.mp h
  rfl

theorem execute_tabled (s : Session) (command : Command Req Resp) (request : Req) (confirm : Bool)
    (client : WireRequest → Result WireReply) :
    Tabled s (cacheKey s command request) (Rejected s command request confirm client)
      (SessionExecute.execute s command request confirm client) := by
  cases h : prepare s command request confirm with
  | error e =>
    have hnot : ¬ Rejected s command request confirm client := by
      rintro ⟨d, hd, _⟩
      cases h.symm.trans hd
    have hx : SessionExecute.execute s command request confirm client = ⟨.error e, none, s⟩ := by
      rw [SessionExecute.execute, h]
    rw [hx]
    refine ⟨fun _ _ => rfl, ?_, fun hr => absurd hr hnot, fun _ => ⟨e, rfl⟩, fun _ _ => rfl⟩
    intro _ hr
    cases hr
  | ok d =>
    have hmarks : Rejected s command request confirm client ↔ Marks d (client d.wire) := by
      constructor
      · rintro ⟨d', hd', hm⟩
        cases h.symm.trans hd'
        exact hm
      · intro hm
        exact ⟨d, h, hm⟩
    have hx : SessionExecute.execute s command request confirm client =
        ⟨(finish s d (client d.wire)).1, some d.wire, (finish s d (client d.wire)).2⟩ := by
      rw [SessionExecute.execute, h]
    rw [hx, ← prepare_key h, hmarks]
    refine ⟨fun k hk => finish_other hk, fun _ hr => finish_supported hr,
      fun hm => (finish_rejected hm).1, fun hm => (finish_rejected hm).2, ?_⟩
    rintro ⟨e, he⟩ hm
    exact finish_unchanged he hm

end AnyCommand

section StdBus

/-- No error of the exchange is a rejecting one. -/
def Harmless {α : Type} (x : Result α) : Prop := ∀ e, x = .error e → ¬ Rejects e

def KindRejects (kind : ErrorKind) : Prop :=
  kind.IsInstance .noSuchObject ∨ kind.IsInstance .noSuchAttribute ∨
    kind.IsInstance .protocolUnsupported

instance (kind : ErrorKind) : Decidable (KindRejects kind) :=
  inferInstanceAs (Decidable (kind.IsInstance .noSuchObject ∨ kind.IsInstance .noSuchAttribute ∨
    kind.IsInstance .protocolUnsupported))

theorem not_rejects {kind : ErrorKind} {message : Message} {context : ErrorContext}
    (h : ¬ KindRejects kind) : ¬ Rejects ⟨kind, message, context⟩ := h

theorem formatted_not_rejects {kind : ErrorKind} {message : Message} {context : ErrorContext}
    (h : ¬ KindRejects kind) : ¬ Rejects (formatted kind message context) := by
  rw [formatted]
  split
  · exact not_rejects h
  · exact not_rejects (by decide)

theorem harmless_ok {α : Type} (a : α) : Harmless (.ok a : Result α) := by
  intro e he
  cases he

theorem harmless_error {α : Type} {e : PyError} (h : ¬ Rejects e) :
    Harmless (.error e : Result α) := by
  intro e' he
  cases he
  exact h

theorem portError_harmless (operation verb : Message) (timeout : PyFloat) (label : String)
    (ending : PortEnd) : ¬ Rejects (portError operation verb timeout label ending) := by
  cases ending with
  | osError disconnect text => cases disconnect <;> exact not_rejects (by decide)
  | _ => exact not_rejects (by decide)

theorem requirePort_harmless (line : Line) : Harmless (requirePort line) := by
  intro e he
  obtain ⟨-, rfl⟩ := require_error_iff.mp he
  exact not_rejects (by decide)

theorem readExact_harmless (n : ℕ) (timeout : PyFloat) (line : Line) :
    Harmless (readExact n timeout line).1 := by
  intro e he
  unfold readExact at he
  split at he
  · rename_i e' h
    cases he
    exact requirePort_harmless line _ h
  · split at he
    · cases he
    · dsimp only at he
      split at he
      · cases he
      · cases he
        exact portError_harmless _ _ _ _ _

theorem write_harmless (ending : Option PortEnd) (timeout : PyFloat) (line : Line) :
    Harmless (write ending timeout line) := by
  intro e he
  rcases bind_error_iff.mp he with he | ⟨u, -, he⟩
  · exact requirePort_harmless line e he
  · cases ending with
    | none => cases he
    | some ending =>
      cases he
      exact portError_harmless _ _ _ _ _

theorem andThen_harmless {α β : Type} {r : Result α × Line} {f : α → Line → Result β × Line}
    (hr : Harmless r.1) (hf : ∀ a t, Harmless (f a t).1) : Harmless (andThen r f).1 := by
  intro e he
  have hpair : andThen r f = (.error e, (andThen r f).2) := Prod.ext he rfl
  rcases andThen_error_iff.mp hpair with h | ⟨a, t, -, h⟩
  · exact hr e (congrArg Prod.fst h)
  · exact hf a t e (congrArg Prod.fst h)

theorem scanPreamble_harmless (timeout : PyFloat) (context : ErrorContext) (fuel : ℕ)
    (scanned : Bytes) (line : Line) :
    Harmless (scanPreamble timeout context fuel scanned line).1 := by
  have hno : ∀ bs, ¬ Rejects (noPreamble context bs) := fun _ => not_rejects (by decide)
  induction fuel generalizing scanned line with
  | zero => exact harmless_error (hno scanned)
  | succ fuel ih =>
    have hnext : ∀ bs t, Harmless
        (if preambleScanLimit < bs.length then
          ((.error (noPreamble context bs), t) : Result PUnit × Line)
        else scanPreamble timeout context fuel bs t).1 := by
      intro bs t
      split
      · exact harmless_error (hno bs)
      · exact ih bs t
    refine andThen_harmless (readExact_harmless _ _ _) fun b t => ?_
    dsimp only
    split
    · refine andThen_harmless (readExact_harmless _ _ _) fun b2 u => ?_
      split
      · exact harmless_ok _
      · exact hnext _ u
    · exact hnext _ t

theorem readFields_harmless (timeout : PyFloat) (context : ErrorContext) (line : Line) :
    Harmless (readFields timeout context line).1 := by
  refine andThen_harmless (readExact_harmless _ _ _) fun header t => ?_
  split
  · exact harmless_ok _
  · split
    · exact harmless_error (not_rejects (by decide))
    · exact andThen_harmless (readExact_harmless _ _ _) fun body u => harmless_ok _

theorem failAfter_harmless {bound : PyFloat} {address : ℤ} {context : ErrorContext}
    {r : Result Bytes × Line} (h : Harmless r.1) :
    Harmless (failAfter bound address context r).1 := by
  obtain ⟨x, t⟩ := r
  cases x with
  | ok raw => exact harmless_ok raw
  | error e =>
    by_cases hkind : e.kind = .timeoutError
    · rw [failAfter, if_pos hkind]
      exact harmless_error (not_rejects (by decide))
    · rw [failAfter, if_neg hkind]
      exact h

theorem decodeReply_harmless (context : ErrorContext) (raw : Bytes) :
    Harmless (decodeReply context raw) := by
  simp only [decodeReply]
  split
  · exact harmless_error (not_rejects (by decide))
  · split
    · exact harmless_error (not_rejects (by decide))
    · exact harmless_ok _

/-- The Standard Bus exchange itself rejects nothing; the device's answer is told by the decoder. -/
theorem stdbus_harmless (client : StdBusProtocolClient) (request : Bytes) (address : ℤ)
    (timeout : Option PyFloat) (commandName : String) (writeEnd : Option PortEnd) (line : Line) :
    Harmless (StdBusClient.execute client request address timeout commandName writeEnd line).1 := by
  simp only [StdBusClient.execute]
  split
  · exact harmless_error (not_rejects (by decide))
  · refine andThen_harmless ?_ fun dst t => andThen_harmless ?_ fun wire u =>
      andThen_harmless (failAfter_harmless ?_) fun raw v => decodeReply_harmless _ _
    · simp only [addrToMac]
      split
      · exact harmless_ok _
      · exact harmless_error (formatted_not_rejects (by decide))
    · simp only [encodeFrame]
      split
      · exact harmless_error (not_rejects (by decide))
      · exact harmless_ok _
    · exact andThen_harmless (write_harmless _ _ _) fun _ v =>
        andThen_harmless (scanPreamble_harmless _ _ _ _ _) fun _ w => readFields_harmless _ _ w

def NoSuch (code : UInt8) : Prop := code = noSuchObjectCode ∨ code = noSuchAttributeCode

theorem errorForCode_rejects_iff (code : UInt8) :
    KindRejects (errorForCode code).1 ↔ NoSuch code := by
  simp only [errorForCode, NoSuch]
  by_cases h1 : code = noSuchObjectCode
  · simp only [h1, if_true, true_or, iff_true]
    decide
  by_cases h2 : code = noSuchAttributeCode
  · subst h2
    decide
  simp only [h1, h2, if_false, or_false, iff_false]
  split_ifs <;> decide

def NoSuchReply (reply : StdBusReply) : Prop :=
  ∃ code, reply.payload = .errorResponse code ∧ NoSuch code

theorem resolveReply_harmless (ctx : CommandContext) (text : String) (context : ErrorContext)
    (a : Attribute) : Harmless (resolveReply ctx text context a) := by
  intro e he
  have hkind := resolveReply_error_kind he
  obtain ⟨kind, message, context'⟩ := e
  cases hkind
  exact not_rejects (by decide)

theorem resolvedEntry_harmless (ctx : CommandContext) (text : String) (context : ErrorContext)
    (a : Attribute) (raw : Bytes) :
    Harmless (do
      let spec ← resolveReply ctx text context a
      .ok (entryFromPayload spec a raw)) := by
  intro e he
  rcases bind_error_iff.mp he with he | ⟨spec, -, he⟩
  · exact resolveReply_harmless _ _ _ _ e he
  · cases he

theorem decode_rejects_iff (decode : StdBusReply → Result ParameterEntry) {reply : StdBusReply}
    (context : ErrorContext)
    (herror : ∀ code, reply.payload = .errorResponse code →
      decode reply = raiseForErrorCode code context)
    (hother : (∀ code, reply.payload ≠ .errorResponse code) → Harmless (decode reply)) :
    (∃ e, decode reply = .error e ∧ Rejects e) ↔ NoSuchReply reply := by
  constructor
  · rintro ⟨e, he, hr⟩
    by_cases h : ∃ code, reply.payload = .errorResponse code
    · obtain ⟨code, hcode⟩ := h
      cases (herror code hcode).symm.trans he
      exact ⟨code, hcode, (errorForCode_rejects_iff code).mp hr⟩
    · exact absurd hr (hother (not_exists.mp h) e he)
  · rintro ⟨code, hcode, hno⟩
    exact ⟨_, herror code hcode, (errorForCode_rejects_iff code).mpr hno⟩

theorem readStdBus_rejects_iff (ctx : CommandContext) (reply : StdBusReply) :
    (∃ e, readStdBusDecode reply ctx = .error e ∧ Rejects e) ↔ NoSuchReply reply := by
  apply decode_rejects_iff (fun r => readStdBusDecode r ctx)
    { replyContext ctx with commandName := some "<unknown>", instanceNo := some 1 }
  · intro code hcode
    simp only [readStdBusDecode, hcode]
  · intro hno
    simp only [readStdBusDecode]
    split
    · exact absurd ‹_› (hno _)
    · exact resolvedEntry_harmless _ _ _ _ _
    · exact harmless_error (not_rejects (by decide))

theorem writeStdBus_rejects_iff (ctx : CommandContext) (reply : StdBusReply) :
    (∃ e, writeStdBusDecode reply ctx = .error e ∧ Rejects e) ↔ NoSuchReply reply := by
  apply decode_rejects_iff (fun r => writeStdBusDecode r ctx) (replyContext ctx)
  · intro code hcode
    simp only [writeStdBusDecode, hcode]
  · intro hno
    simp only [writeStdBusDecode]
    split
    · exact absurd ‹_› (hno _)
    · exact resolvedEntry_harmless _ _ _ _ _
    · exact harmless_error (not_rejects (by decide))

end StdBus

section Modbus

variable {lib : AnyModbus} {ctx : CommandContext}

theorem rejects_protocol {e : PyError} (h : Rejects e) : e.kind.IsInstance .protocol := by
  rcases h with h | h | h
  · exact isInstance_trans h (by decide)
  · exact isInstance_trans h (by decide)
  · exact isInstance_trans h (by decide)

theorem bare_harmless {α : Type} {x : Result α} (h : Bare x) : Harmless x := by
  intro e he hr
  exact h e he (isInstance_trans (rejects_protocol hr) (by decide))

theorem readModbusDecode_harmless {request : ReadParameterRequest} {op : ModbusOp}
    (h : readModbusEncode lib ctx request = .ok op) (words : Words) :
    Harmless (readModbusDecode lib words ctx request) := by
  obtain ⟨spec, hspec, h⟩ := bind_ok_iff.mp h
  obtain ⟨encoding, hencoding, -⟩ := bind_ok_iff.mp h
  simp only [readModbusDecode]
  rw [hspec, ok_bind, hencoding, ok_bind]
  split
  · rename_i e he
    split
    · exact harmless_error (not_rejects (by decide))
    · rename_i hprotocol
      exact harmless_error fun hr => hprotocol (rejects_protocol hr)
  · rename_i decoded hdecoded
    intro e he
    rcases bind_error_iff.mp he with he | ⟨value, -, he⟩
    · refine bare_harmless ?_ e he
      simp only [scaleValue]
      split
      · split
        · exact bare_ok _
        · exact (toFloat_bare _).bind fun x _ => bare_ok _
      · exact bare_ok _
    · cases he

theorem writeModbusDecode_harmless {request : WriteParameterRequest} {op : ModbusOp}
    (h : writeModbusEncode lib ctx request = .ok op) (words : Words) :
    Harmless (writeModbusDecode words ctx request) := by
  obtain ⟨spec, hspec, -⟩ := bind_ok_iff.mp h
  simp only [writeModbusDecode]
  rw [hspec, ok_bind]
  exact harmless_ok _

/-- The faults that reject: an exception of a refusing class, or a typed error that is rejecting
by itself. -/
def Fault.Refuses : Fault → Prop
  | .watlow e _ => Rejects e
  | .upstream exc => ∃ c ∈ exc.classes, c.Refuses
  | .expired => False
  | .cancelled => False

theorem remap_rejects_iff (exc : UpstreamError) (context : ErrorContext) :
    Rejects (remapModbusException exc context) ↔ ∃ c ∈ exc.classes, c.Refuses := by
  rw [← remapKind_unsupported_iff]
  change KindRejects (remapKind exc) ↔ _
  have hnone : ¬ (remapKind exc).IsInstance .noSuchObject ∧
      ¬ (remapKind exc).IsInstance .noSuchAttribute := by
    have hall : ∀ k ∈ remappedKinds,
        ¬ k.IsInstance .noSuchObject ∧ ¬ k.IsInstance .noSuchAttribute := by
      decide
    exact hall _ (remapKind_mem exc)
  simp only [KindRejects, hnone.1, hnone.2, false_or]

theorem providerError_rejects_iff (context : ErrorContext) (fault : Fault) :
    Rejects (providerError context fault) ↔ Fault.Refuses fault := by
  cases fault with
  | watlow e typed => exact Iff.rfl
  | expired => exact iff_of_false (not_rejects (by decide)) id
  | upstream exc => exact remap_rejects_iff exc context
  | cancelled => exact iff_of_false (not_rejects (by decide)) id

theorem dispatchError_rejects_iff (op : ModbusOp) (address : ℤ) (bound : PyFloat)
    (context : ErrorContext) (fault : Fault) :
    Rejects (dispatchError op address bound context fault) ↔ Fault.Refuses fault := by
  cases fault with
  | watlow e typed => exact Iff.rfl
  | expired => exact iff_of_false (not_rejects (by decide)) id
  | upstream exc =>
    by_cases h : exc.builtinTimeout = true
    · rw [dispatchError, if_pos h]
      refine iff_of_false (not_rejects (by decide)) ?_
      rintro ⟨c, hc, hr⟩
      exact exc.answered h c hc hr
    · rw [dispatchError, if_neg h]
      exact remap_rejects_iff exc context
  | cancelled => exact iff_of_false (not_rejects (by decide)) id

theorem modbus_rejects_iff (client : ModbusProtocolClient) (op : ModbusOp) (address : ℤ)
    (timeout : Option PyFloat) (commandName : String) :
    (∃ e, ModbusClient.execute client op address timeout commandName = .error e ∧ Rejects e) ↔
      ∃ fault, faultOf client op address = some fault ∧ Fault.Refuses fault := by
  simp only [ModbusClient.execute, faultOf]
  by_cases haddress : address < 1 ∨ 247 < address
  · rw [if_pos haddress, if_pos (haddress.imp_right Or.inl)]
    refine iff_of_false ?_ ?_
    · rintro ⟨e, he, hr⟩
      cases he
      exact formatted_not_rejects (by decide) hr
    · rintro ⟨fault, hfault, _⟩
      cases hfault
  rw [if_neg haddress]
  by_cases hdisposed : client.disposed = true
  · rw [if_pos hdisposed, if_pos (Or.inr (Or.inr hdisposed))]
    refine iff_of_false ?_ ?_
    · rintro ⟨e, he, hr⟩
      cases he
      exact not_rejects (by decide) hr
    · rintro ⟨fault, hfault, _⟩
      cases hfault
  have hreach : ¬ (address < 1 ∨ 247 < address ∨ client.disposed = true) := by tauto
  rw [if_neg hdisposed, if_neg hreach]
  cases client.slaveProvider address with
  | error fault =>
    simp only [Except.error.injEq, exists_eq_left', Option.some.injEq]
    exact providerError_rejects_iff _ fault
  | ok slave =>
    dsimp only
    cases dispatch slave op with
    | error fault =>
      simp only [Except.error.injEq, exists_eq_left', Option.some.injEq]
      exact dispatchError_rejects_iff op address _ _ fault
    | ok words => simp

end Modbus

section BothProtocols

variable (lib : AnyModbus)

/-- The exchange of a Standard Bus session: its requests are payloads. -/
def stdbusWire (client : StdBusProtocolClient) (address : ℤ) (timeout : Option PyFloat)
    (commandName : String) (writeEnd : Option PortEnd) (line : Line) :
    WireRequest → Result WireReply
  | .payload bs =>
    (StdBusClient.execute client bs address timeout commandName writeEnd line).1.map .frame
  | .op _ => raise .attributeError [.text "request of another protocol"]

def modbusWire (client : ModbusProtocolClient) (address : ℤ) (timeout : Option PyFloat)
    (commandName : String) : WireRequest → Result WireReply
  | .op op => (ModbusClient.execute client op address timeout commandName).map .words
  | .payload _ => raise .attributeError [.text "request of another protocol"]

def cacheKeyOf (s : Session) : Invocation → String
  | .read request => cacheKey s (readParameter lib) request
  | .write request => cacheKey s (writeParameter lib) request

variable {lib} {s : Session} {i : Invocation} {confirm : Bool} {d : Dispatch ParameterEntry}

theorem Tabled.congr {Resp : Type} {before : Session} {key : String} {p q : Prop}
    {x : Exchange Resp} (h : Tabled before key p x) (hpq : p ↔ q) : Tabled before key q x := by
  rw [propext hpq] at h
  exact h

theorem invocation_tabled (lib : AnyModbus) (s : Session) (i : Invocation) (confirm : Bool)
    (client : WireRequest → Result WireReply) {q : Prop}
    (h : (∃ d, prepareCall lib s confirm i = .ok d ∧ Marks d (client d.wire)) ↔ q) :
    Tabled s (cacheKeyOf lib s i) q (i.execute lib s confirm client) := by
  cases i with
  | read request => exact (execute_tabled s (readParameter lib) request confirm client).congr h
  | write request => exact (execute_tabled s (writeParameter lib) request confirm client).congr h

theorem prepareCall_stdbus (hkind : s.kind = .stdbus)
    (h : prepareCall lib s confirm i = .ok d) :
    (∃ bs, d.wire = .payload bs) ∧
      ∀ reply, (∃ e, d.decode (.frame reply) = .error e ∧ Rejects e) ↔ NoSuchReply reply := by
  cases i with
  | read request =>
    obtain ⟨variant, hv, -, -, -, wire, hw, rfl⟩ := prepare_ok_iff.mp h
    rw [selectVariant, hkind] at hv
    cases hv
    obtain ⟨bs, -, hw⟩ := bind_ok_iff.mp hw
    cases hw
    exact ⟨⟨bs, rfl⟩, readStdBus_rejects_iff s.context⟩
  | write request =>
    obtain ⟨variant, hv, -, -, -, wire, hw, rfl⟩ := prepare_ok_iff.mp h
    rw [selectVariant, hkind] at hv
    cases hv
    obtain ⟨bs, -, hw⟩ := bind_ok_iff.mp hw
    cases hw
    exact ⟨⟨bs, rfl⟩, writeStdBus_rejects_iff s.context⟩

theorem prepareCall_modbus (hkind : s.kind = .modbusRtu)
    (h : prepareCall lib s confirm i = .ok d) :
    (∃ op, d.wire = .op op) ∧ ∀ words, Harmless (d.decode (.words words)) := by
  cases i with
  | read request =>
    obtain ⟨variant, hv, -, -, -, wire, hw, rfl⟩ := prepare_ok_iff.mp h
    rw [selectVariant, hkind] at hv
    cases hv
    obtain ⟨op, hop, hw⟩ := bind_ok_iff.mp hw
    cases hw
    exact ⟨⟨op, rfl⟩, readModbusDecode_harmless hop⟩
  | write request =>
    obtain ⟨variant, hv, -, -, -, wire, hw, rfl⟩ := prepare_ok_iff.mp h
    rw [selectVariant, hkind] at hv
    cases hv
    obtain ⟨op, hop, hw⟩ := bind_ok_iff.mp hw
    cases hw
    exact ⟨⟨op, rfl⟩, writeModbusDecode_harmless hop⟩

theorem marks_stdbus_iff (client : StdBusProtocolClient) (address : ℤ)
    (timeout : Option PyFloat) (commandName : String) (writeEnd : Option PortEnd) (line : Line)
    (hkind : s.kind = .stdbus) (h : prepareCall lib s confirm i = .ok d) :
    Marks d (stdbusWire client address timeout commandName writeEnd line d.wire) ↔
      ∃ bs reply, d.wire = .payload bs ∧
        (StdBusClient.execute client bs address timeout commandName writeEnd line).1 = .ok reply ∧
        NoSuchReply reply := by
  obtain ⟨⟨bs, hwire⟩, hdecode⟩ := prepareCall_stdbus hkind h
  rw [hwire, stdbusWire]
  have hharmless := stdbus_harmless client bs address timeout commandName writeEnd line
  cases hx : (StdBusClient.execute client bs address timeout commandName writeEnd line).1 with
  | error e =>
    refine iff_of_false (hharmless e hx) ?_
    rintro ⟨bs', reply, hbs, hreply, _⟩
    cases hbs
    cases hx.symm.trans hreply
  | ok reply =>
    refine (hdecode reply).trans ⟨fun hno => ⟨bs, reply, rfl, hx, hno⟩, ?_⟩
    rintro ⟨bs', reply', hbs, hreply, hno⟩
    cases hbs
    cases hx.symm.trans hreply
    exact hno

theorem marks_modbus_iff (client : ModbusProtocolClient) (address : ℤ)
    (timeout : Option PyFloat) (commandName : String)
    (hkind : s.kind = .modbusRtu) (h : prepareCall lib s confirm i = .ok d) :
    Marks d (modbusWire client address timeout commandName d.wire) ↔
      ∃ op fault, d.wire = .op op ∧ faultOf client op address = some fault ∧
        Fault.Refuses fault := by
  obtain ⟨⟨op, hwire⟩, hdecode⟩ := prepareCall_modbus hkind h
  have hop : (∃ op' fault, d.wire = .op op' ∧ faultOf client op' address = some fault ∧
      Fault.Refuses fault) ↔
      ∃ fault, faultOf client op address = some fault ∧ Fault.Refuses fault := by
    rw [hwire]
    simp
  rw [hop, ← modbus_rejects_iff client op address timeout commandName, hwire, modbusWire]
  cases hx : ModbusClient.execute client op address timeout commandName with
  | error e => simp [Except.map, Marks]
  | ok words =>
    refine iff_of_false ?_ (by simp)
    rintro ⟨e, he, hr⟩
    exact hdecode words e he hr

/-- The availability table. For any command over any client, and for the two commands of the
library over the client of either protocol, the table turns as `Tabled` says: on Standard Bus the
error response of an unknown object or attribute rejects, on Modbus a fault of a refusing class. -/
theorem availability_table (lib : AnyModbus) :
    (∀ {Req Resp : Type} [Targeted Req] (s : Session) (command : Command Req Resp) (request : Req)
      (confirm : Bool) (client : WireRequest → Result WireReply),
      Tabled s (cacheKey s command request) (Rejected s command request confirm client)
        (SessionExecute.execute s command request confirm client)) ∧
    (∀ (s : Session) (i : Invocation) (confirm : Bool) (client : StdBusProtocolClient)
      (timeout : Option PyFloat) (commandName : String) (writeEnd : Option PortEnd) (line : Line),
      s.kind = .stdbus →
      Tabled s (cacheKeyOf lib s i)
        (∃ d bs reply, prepareCall lib s confirm i = .ok d ∧ d.wire = .payload bs ∧
          (StdBusClient.execute client bs s.address timeout commandName writeEnd line).1 =
            .ok reply ∧ NoSuchReply reply)
        (i.execute lib s confirm
          (stdbusWire client s.address timeout commandName writeEnd line))) ∧
    (∀ (s : Session) (i : Invocation) (confirm : Bool) (client : ModbusProtocolClient)
      (timeout : Option PyFloat) (commandName : String),
      s.kind = .modbusRtu →
      Tabled s (cacheKeyOf lib s i)
        (∃ d op fault, prepareCall lib s confirm i = .ok d ∧ d.wire = .op op ∧
          faultOf client op s.address = some fault ∧ Fault.Refuses fault)
        (i.execute lib s confirm (modbusWire client s.address timeout commandName))) := by
  refine ⟨fun s command request confirm client => execute_tabled s command request confirm client,
    ?_, ?_⟩
  · intro s i confirm client timeout commandName writeEnd line hkind
    apply invocation_tabled
    constructor
    · rintro ⟨d, hd, hm⟩
      obtain ⟨bs, reply, hr⟩ := (marks_stdbus_iff client s.address timeout commandName writeEnd
        line hkind hd).mp hm
      exact ⟨d, bs, reply, hd, hr⟩
    · rintro ⟨d, bs, reply, hd, hr⟩
      exact ⟨d, hd, (marks_stdbus_iff client s.address timeout commandName writeEnd line hkind
        hd).mpr ⟨bs, reply, hr⟩⟩
  · intro s i confirm client timeout commandName hkind
    apply invocation_tabled
    constructor
    · rintro ⟨d, hd, hm⟩
      obtain ⟨op, fault, hf⟩ := (marks_modbus_iff client s.address timeout commandName hkind
        hd).mp hm
      exact ⟨d, op, fault, hd, hf⟩
    · rintro ⟨d, op, fault, hd, hf⟩
      exact ⟨d, hd, (marks_modbus_iff client s.address timeout commandName hkind hd).mpr
        ⟨op, fault, hf⟩⟩

def refusingLine : Line :=
  ⟨"COM3", true, [], [wireBytes ⟨dataNotExpectingReply, 0x00, 0x10, [0x02, 0x81]⟩], .cancelled⟩

theorem refusingLine_tabled :
    ((Invocation.read raceRequest).execute wordModbus byteSession false (stdbusWire ⟨false, "COM3"⟩
      1 none "read_parameter" none refusingLine)).after.availability.lookup
        (cacheKeyOf wordModbus byteSession (.read raceRequest)) = some .unsupported := by
  have hreply : (StdBusClient.execute ⟨false, "COM3"⟩ [0x01, 0x03, 0x01, 0x04, 0x01, 0x01] 1 none
      "read_parameter" none refusingLine).1 = .ok ⟨⟨dataNotExpectingReply, 0x00, 0x10,
        [0x02, 0x81]⟩, .errorResponse 0x81, wireBytes ⟨dataNotExpectingReply, 0x00, 0x10,
        [0x02, 0x81]⟩⟩ := by decide +kernel
  exact ((availability_table wordModbus).2.1 byteSession (.read raceRequest) false ⟨false, "COM3"⟩
    none "read_parameter" none refusingLine rfl).unsupported
      ⟨raceDispatch, _, _, raceDispatch_prepared, rfl, hreply, 0x81, rfl, Or.inl rfl⟩

end BothProtocols

end AvailabilityTable
