import Watlowlib.ParameterCommands

/-! # What a Standard Bus entry is about

The decoder sees the reply and the registry, not the request: the entry carries the row and the
instance that the reply's own selector names. -/
namespace ReplySelection

open ExceptRules ParameterCommands PythonValues Registry StdBusClient StdBusFraming StdBusPayload
  WatlowErrors

variable {ctx : CommandContext} {reply : StdBusReply} {entry : ParameterEntry}

/-- The entry is the row, the instance and the value of the selector `a` and its value. -/
def EntryOf (ctx : CommandContext) (a : Attribute) (entry : ParameterEntry) : Prop :=
  ctx.registry.resolve (.id (selectorId a)) = .ok entry.spec ∧
    entry.instanceNo = a.instanceNo.toNat ∧ entry.value = a.value

theorem resolveReply_ok_iff {text : String} {context : ErrorContext} {a : Attribute}
    {spec : ParameterSpec} :
    resolveReply ctx text context a = .ok spec ↔
      ctx.registry.resolve (.id (selectorId a)) = .ok spec := by
  simp only [resolveReply, raise]
  cases h : ctx.registry.resolve (.id (selectorId a)) with
  | ok s => rfl
  | error e => simp

theorem resolveReply_error_kind {text : String} {context : ErrorContext} {a : Attribute}
    {e : PyError} (h : resolveReply ctx text context a = .error e) : e.kind = .protocol := by
  simp only [resolveReply, raise] at h
  split at h
  · cases h
  · cases h
    rfl

theorem protocol_refusal : ErrorKind.protocol.IsInstance .protocol := self_mem_mro _

theorem read_entry (h : readStdBusDecode reply ctx = .ok entry) :
    ∃ a, reply.payload = .readResponse a ∧ EntryOf ctx a entry := by
  simp only [readStdBusDecode] at h
  split at h
  · cases h
  · rename_i a ha
    obtain ⟨spec, hs, he⟩ := bind_ok_iff.mp h
    cases he
    exact ⟨a, ha, resolveReply_ok_iff.mp hs, rfl, rfl⟩
  · cases h

theorem write_entry (h : writeStdBusDecode reply ctx = .ok entry) :
    ∃ a, reply.payload = .writeResponse a ∧ EntryOf ctx a entry := by
  simp only [writeStdBusDecode] at h
  split at h
  · cases h
  · rename_i a ha
    obtain ⟨spec, hs, he⟩ := bind_ok_iff.mp h
    cases he
    exact ⟨a, ha, resolveReply_ok_iff.mp hs, rfl, rfl⟩
  · cases h

theorem read_refusal {e : PyError} (h : readStdBusDecode reply ctx = .error e) :
    e.kind.IsInstance .protocol := by
  simp only [readStdBusDecode] at h
  split at h
  · cases h
    exact errorForCode_protocol _
  · rcases bind_error_iff.mp h with h | ⟨spec, -, h⟩
    · rw [resolveReply_error_kind h]
      decide
    · cases h
  · cases h
    exact protocol_refusal

theorem write_refusal {e : PyError} (h : writeStdBusDecode reply ctx = .error e) :
    e.kind.IsInstance .protocol := by
  simp only [writeStdBusDecode] at h
  split at h
  · cases h
    exact errorForCode_protocol _
  · rcases bind_error_iff.mp h with h | ⟨spec, -, h⟩
    · rw [resolveReply_error_kind h]
      decide
    · cases h
  · cases h
    exact protocol_refusal

theorem resolveRequest_spec {target : Ident} {instanceNo : ℤ} {spec : ParameterSpec}
    (h : resolveRequest ctx target instanceNo = .ok spec) :
    ctx.registry.resolve target = .ok spec ∧
      1 ≤ checkedInstance spec instanceNo ∧ checkedInstance spec instanceNo ≤ spec.maxInstance := by
  obtain ⟨s, hs, h⟩ := bind_ok_iff.mp h
  obtain ⟨u, hv, h⟩ := bind_ok_iff.mp h
  cases h
  exact ⟨hs, require_ok_iff.mp hv⟩

theorem selector_read_back {paramId instanceNo : ℤ} {a : Attribute}
    (hfit : SelectorFits paramId instanceNo)
    (h : selectorBytes paramId instanceNo = [a.cls, a.member, a.instanceNo]) :
    selectorId a = paramId ∧ (a.instanceNo.toNat : ℤ) = instanceNo := by
  obtain ⟨⟨hc0, hc⟩, ⟨hm0, hm⟩, ⟨hi0, hi⟩⟩ := hfit
  simp only [selectorBytes, List.cons.injEq, and_true] at h
  obtain ⟨h1, h2, h3⟩ := h
  have hcls : (a.cls.toNat : ℤ) = paramId / 1000 := by
    rw [← h1, UInt8.toNat_ofNat']
    omega
  have hmember : (a.member.toNat : ℤ) = paramId % 1000 := by
    rw [← h2, UInt8.toNat_ofNat']
    omega
  constructor
  · rw [selectorId, joinParam, hcls, hmember]
    omega
  · rw [← h3, UInt8.toNat_ofNat']
    omega

/-- What an entry has to do with a request whose selector the reply echoes. -/
structure Answers (ctx : CommandContext) (target : Ident) (instanceNo : ℤ)
    (entry : ParameterEntry) : Prop where
  resolved : ∃ spec, ctx.registry.resolve target = .ok spec ∧
    entry.spec.parameterId = spec.parameterId ∧ (DistinctIds ctx.registry → entry.spec = spec)
  instanceNo : entry.instanceNo = instanceNo

theorem answers_of_echo {target : Ident} {instanceNo : ℤ} {spec : ParameterSpec} {a : Attribute}
    (hspec : ctx.registry.resolve target = .ok spec)
    (hfit : SelectorFits spec.parameterId instanceNo)
    (hecho : selectorBytes spec.parameterId instanceNo = [a.cls, a.member, a.instanceNo])
    (hentry : EntryOf ctx a entry) : Answers ctx target instanceNo entry := by
  obtain ⟨hid, hinst⟩ := selector_read_back hfit hecho
  obtain ⟨hrow, hno, -⟩ := hentry
  obtain ⟨hkey, hmem⟩ := resolve_id ctx.registry hrow
  refine ⟨⟨spec, hspec, hkey.trans hid, fun hd => ?_⟩, hno.trans hinst⟩
  exact distinctIds_unique hd hmem (resolve_mem ctx.registry hspec) (hkey.trans hid)

/-- A decoded entry is the row and the instance of the reply's own selector; where that selector
is the one the request put on the wire, it is the request's parameter and instance. Every other
reply is refused with a protocol error, an unknown parameter among them. -/
theorem stdbus_entry_selected (ctx : CommandContext) (reply : StdBusReply) :
    (∀ entry, readStdBusDecode reply ctx = .ok entry →
      ∃ a, reply.payload = .readResponse a ∧ EntryOf ctx a entry ∧
        ∀ request bs, readStdBusEncode ctx request = .ok bs →
          bs = [dirRequest, fnRead, 0x01, a.cls, a.member, a.instanceNo] →
          Answers ctx request.nameOrId request.instanceNo entry) ∧
    (∀ entry, writeStdBusDecode reply ctx = .ok entry →
      ∃ a, reply.payload = .writeResponse a ∧ EntryOf ctx a entry ∧
        ∀ request bs tail, writeStdBusEncode ctx request = .ok bs →
          bs = [dirRequest, fnWrite, a.cls, a.member, a.instanceNo] ++ tail →
          Answers ctx request.nameOrId request.instanceNo entry) ∧
    (∀ e, readStdBusDecode reply ctx = .error e ∨ writeStdBusDecode reply ctx = .error e →
      e.kind.IsInstance .protocol) := by
  refine ⟨?_, ?_, ?_⟩
  · intro entry h
    obtain ⟨a, ha, hentry⟩ := read_entry h
    refine ⟨a, ha, hentry, ?_⟩
    intro request bs henc hecho
    obtain ⟨spec, hspec, henc⟩ := bind_ok_iff.mp henc
    obtain ⟨hfit, hbs⟩ := encodeReadRequest_ok_iff.mp henc
    have hsel : selectorBytes spec.parameterId request.instanceNo =
        [a.cls, a.member, a.instanceNo] := by
      simpa using hbs.symm.trans hecho
    exact answers_of_echo (resolveRequest_spec hspec).1 hfit hsel hentry
  · intro entry h
    obtain ⟨a, ha, hentry⟩ := write_entry h
    refine ⟨a, ha, hentry, ?_⟩
    intro request bs tail henc hecho
    obtain ⟨spec, hspec, henc⟩ := bind_ok_iff.mp henc
    obtain ⟨_, -, henc⟩ := bind_ok_iff.mp henc
    obtain ⟨_, -, henc⟩ := bind_ok_iff.mp henc
    simp only [writePayload] at henc
    split at henc
    · cases henc
    · obtain ⟨hfit, tail', -, hbs⟩ := encodeWriteRequest_ok_iff.mp henc
      have hsel : selectorBytes spec.parameterId request.instanceNo =
          [a.cls, a.member, a.instanceNo] := by
        have h := hbs.symm.trans hecho
        simp only [selectorBytes, List.cons_append, List.nil_append, List.cons.injEq] at h
        obtain ⟨-, -, h1, h2, h3, -⟩ := h
        rw [selectorBytes, h1, h2, h3]
      exact answers_of_echo (resolveRequest_spec hspec).1 hfit hsel hentry
  · rintro e (h | h)
    · exact read_refusal h
    · exact write_refusal h

/-- A request for parameter 7001 and a reply that names 4001, as a late one does. -/
def strayReply : StdBusReply :=
  ⟨⟨dataNotExpectingReply, 0x00, 0x10, [0x02, 0x03, 0x01, 0x04, 0x01, 0x01, 0x01, 0x2A]⟩,
    .readResponse ⟨0x04, 0x01, 0x01, .num (.int 42), 0x01⟩, []⟩

def twoRows : CommandContext :=
  ⟨.build [plainRow 4001 "process_value", plainRow 7001 "setpoint"] [] [], 1, "COM3"⟩

theorem stray_reply_accepted :
    ¬ ∀ (ctx : CommandContext) (request : ReadParameterRequest) (bs : PythonValues.Bytes)
      (reply : StdBusReply) (entry : ParameterEntry), readStdBusEncode ctx request = .ok bs →
      readStdBusDecode reply ctx = .ok entry →
      ctx.registry.resolve request.nameOrId = .ok entry.spec ∧
        entry.instanceNo = request.instanceNo := by
  intro h
  have hrow := (h twoRows ⟨.id 7001, 1⟩ [0x01, 0x03, 0x01, 0x07, 0x01, 0x01] strayReply
    ⟨plainRow 4001 "process_value", 1, .num (.int 42), []⟩ (by decide +kernel)
    (by decide +kernel)).1
  have hspec : twoRows.registry.resolve (.id 7001) = .ok (plainRow 7001 "setpoint") := by
    decide +kernel
  rw [hspec] at hrow
  exact absurd hrow (by decide)

end ReplySelection
