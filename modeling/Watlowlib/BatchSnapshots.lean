import Watlowlib.SessionLinearizability

/-! # What a batch reads

A task that holds the client's lock over several calls of its own, as a poll does. The others may
start calls and give them up, but none of theirs reaches the wire. Whatever the batch reads is then
what the controller held when the lock was taken, all of it at once. -/
namespace BatchSnapshots

open AtomicObjects ModbusCodec ParameterCommands ParameterStores PythonValues SafetyGate
  SerialTransport SessionExecute SessionInterleaving SessionLinearizability StdBusClient
  StdBusFraming StdBusPayload TransitionSystem WatlowErrors

variable {lib : AnyModbus} {client : StdBusProtocolClient}
  {takes : Key → PyValue → PyValue → Prop} {address : ℤ} {holder task : ℕ} {held : Store}
  {s t : System} {a : AtomicObjects.State Store ℕ Op Outcome} {e : SessionLinearizability.Event}

def Reads (d : Dispatch ParameterEntry) : Prop := ∀ op bs, Speaks d op bs → ∃ key, op = .read key

/-- What has arrived for the call of the holder is what the controller held. -/
def Truthful (holder : ℕ) (held : Store) (s : System) : Prop :=
  ∀ d owned answer payload, s.tasks.calls holder = some ⟨d, .exchanging owned⟩ →
    s.wire.stream = wireBytes answer → answer.payload.length ≤ maxPayloadLen →
    decodePayload answer.payload = .ok payload → ∀ key value,
    outcomeOf (d.decode (.frame ⟨answer, payload, wireBytes answer⟩)) = some (key, value) →
    held key = some value

structure InBatch (holder : ℕ) (held : Store) (s : System) : Prop where
  owner : s.tasks.owner = some holder
  device : s.device = held
  phase : ∀ d, s.tasks.calls holder ≠ some ⟨d, .exchanging true⟩
  reads : ∀ p, s.tasks.calls holder = some p → Reads p.dispatch
  truthful : Truthful holder held s

/-- A reply within a batch is the holder's, and tells what the controller held. -/
def Tells (holder : ℕ) (held : Store) : SessionLinearizability.Event → Prop
  | .reply task (some (key, value)) => task = holder ∧ held key = some value
  | _ => True

theorem speaks_unique {d : Dispatch ParameterEntry} {op op' : Op} {bs bs' : Bytes}
    (h : Speaks d op bs) (h' : Speaks d op' bs') : op = op' := by
  cases h.wire.symm.trans h'.wire
  obtain ⟨p, hp, hop⟩ := h.request
  obtain ⟨p', hp', hop'⟩ := h'.request
  cases hp.symm.trans hp'
  exact Option.some.inj (hop.symm.trans hop')

theorem wireBytes_injective {f g : Frame} (hf : f.payload.length ≤ maxPayloadLen)
    (hg : g.payload.length ≤ maxPayloadLen) (h : wireBytes f = wireBytes g) : f = g := by
  have hdf := decodeFrame_wireBytes (hf.trans (by decide)) []
  have hdg := decodeFrame_wireBytes (hg.trans (by decide)) []
  rw [h] at hdf
  exact Except.ok.inj (hdf.symm.trans hdg)

theorem truthful_of_silent (h : s.wire.stream = []) : Truthful holder held s := by
  intro d owned answer payload _ hstream
  rw [h] at hstream
  simp [wireBytes, preamble] at hstream

theorem InBatch.exchanges (hb : InBatch holder held s) (h : Relates client address s a)
    (htask : Exchanges s.tasks task) : task = holder :=
  Option.some.inj ((h.owner task htask).symm.trans hb.owner)

theorem InBatch.aside (hb : InBatch holder held s) {tasks : SessionInterleaving.State}
    (howner : tasks.owner = s.tasks.owner)
    (hcalls : tasks.calls holder = s.tasks.calls holder) :
    InBatch holder held { s with tasks := tasks } where
  owner := howner.trans hb.owner
  device := hb.device
  phase := by
    rw [hcalls]
    exact hb.phase
  reads := by
    rw [hcalls]
    exact hb.reads
  truthful d owned answer payload hcall :=
    hb.truthful d owned answer payload (hcalls.symm.trans hcall)

theorem InBatch.between (hb : InBatch holder held s) {tasks : SessionInterleaving.State}
    {wire : Wire} (howner : tasks.owner = s.tasks.owner) (hcalls : tasks.calls holder = none) :
    InBatch holder held ⟨tasks, wire, s.device⟩ where
  owner := howner.trans hb.owner
  device := hb.device
  phase := by simp [hcalls]
  reads := by simp [hcalls]
  truthful d owned answer payload hcall := by
    rw [hcalls] at hcall
    cases hcall

theorem InBatch.start (hb : InBatch holder held s) (hkind : s.tasks.session.kind = .stdbus)
    {tasks : SessionInterleaving.State} {i : Invocation} {confirm : Bool}
    {d : Dispatch ParameterEntry} {op : Op}
    (hread : task = holder → ∀ key value, op ≠ .write key value)
    (hprepared : prepareCall lib s.tasks.session confirm i = .ok d)
    (hasked : asked s.tasks.session i = some op)
    (hstep : SessionInterleaving.Step lib s.tasks (.start task i confirm) tasks) :
    InBatch holder held { s with tasks := tasks } := by
  cases hstep with
  | refuse hidle he => exact hb
  | start hidle hd =>
    cases hprepared.symm.trans hd
    by_cases htask : task = holder
    · obtain ⟨op', bs, hop, hspeaks⟩ := prepareCall_speaks hkind hprepared
      cases hasked.symm.trans hop
      have hreads : Reads d := by
        intro op' bs' hspeaks'
        rw [← speaks_unique hspeaks hspeaks']
        cases op with
        | read key => exact ⟨key, rfl⟩
        | write key value => exact absurd rfl (hread htask key value)
      have hcall : (s.tasks.setCall task (some ⟨d, .waiting⟩)).calls holder =
          some ⟨d, .waiting⟩ := by simp [htask]
      refine ⟨hb.owner, hb.device, ?_, ?_, ?_⟩
      · simp [htask]
      · intro p hp
        cases hcall.symm.trans hp
        exact hreads
      · intro d' owned answer payload hp
        cases hcall.symm.trans hp
    · refine hb.aside rfl ?_
      rw [SessionInterleaving.setCall_calls, if_neg (Ne.symm htask)]

theorem InBatch.enter (hb : InBatch holder held s) (h : Relates client address s a)
    {d : Dispatch ParameterEntry} {key : String} {tasks : SessionInterleaving.State}
    {requests : List Bytes} (hcall : s.tasks.calls task = some ⟨d, .waiting⟩)
    (hstep : SessionInterleaving.Step lib s.tasks (.enter task key) tasks) :
    InBatch holder held
      { s with tasks := tasks, wire := { s.wire with requests := requests } } := by
  cases hstep with
  | acquire _ hfree =>
    rw [hb.owner] at hfree
    cases hfree
  | @reuse _ d' hcall' hown =>
    cases hcall.symm.trans hcall'
    have htask : task = holder := Option.some.inj (hown.symm.trans hb.owner)
    have hentered : (s.tasks.setCall task (some ⟨d, .exchanging false⟩)).calls holder =
        some ⟨d, .exchanging false⟩ := by simp [htask]
    refine ⟨hb.owner, hb.device, ?_, ?_, ?_⟩
    · simp [htask]
    · intro p hp
      cases hentered.symm.trans hp
      exact hb.reads ⟨d, .waiting⟩ (htask ▸ hcall)
    · exact truthful_of_silent (h.quiet (h.nobody hcall (Or.inr hown))).stream

theorem InBatch.request (hb : InBatch holder held s) (h : Relates client address s a) {w : Bytes}
    {rest : List Bytes} {frame : Frame} {request payload : Payload} {device : Store}
    (hrequest : s.wire.requests = w :: rest) (hframe : decodeFrame w = .ok frame)
    (hpayload : decodePayload frame.payload = .ok request)
    (hanswer : Answers takes s.device request payload device) :
    device = s.device ∧ s.wire.stream = [] ∧ ∃ d owned key bs,
      s.tasks.calls holder = some ⟨d, .exchanging owned⟩ ∧ Speaks d (.read key) bs ∧
      payloadOp request = some (.read key) := by
  obtain ⟨task, d, owned, op, bs, hcall, -, hspeaks, hw, -, hstream⟩ := h.request hrequest
  have htask : task = holder := hb.exchanges h ⟨d, owned, hcall⟩
  rw [htask] at hcall
  obtain ⟨frame', hframe', hbs⟩ := onWire_decoded hw
  cases hframe.symm.trans hframe'
  obtain ⟨request', hrequest', hop⟩ := hspeaks.request
  rw [hbs] at hpayload
  cases hpayload.symm.trans hrequest'
  obtain ⟨key, rfl⟩ := hb.reads _ hcall _ _ hspeaks
  refine ⟨?_, hstream, d, owned, key, bs, hcall, hspeaks, hop⟩
  cases hanswer with
  | read hheld => rfl
  | write htakes => cases hop
  | refuse => rfl

theorem InBatch.serve (hb : InBatch holder held s) (h : Relates client address s a) {w : Bytes}
    {rest : List Bytes} {frame answer : Frame} {request payload : Payload} {device : Store}
    {chunks : List Bytes} (hrequest : s.wire.requests = w :: rest)
    (hframe : decodeFrame w = .ok frame) (hpayload : decodePayload frame.payload = .ok request)
    (hanswer : Answers takes s.device request payload device)
    (hsent : decodePayload answer.payload = .ok payload)
    (hfits : answer.payload.length ≤ maxPayloadLen) (hchunks : chunks.flatten = wireBytes answer) :
    InBatch holder held
      { s with
        wire := { s.wire with requests := rest, arrived := s.wire.arrived ++ chunks }
        device := device } := by
  obtain ⟨hsame, hstream, d, owned, key, bs, hcall, hspeaks, hop⟩ :=
    hb.request h hrequest hframe hpayload hanswer
  refine ⟨hb.owner, hsame.trans hb.device, hb.phase, hb.reads, ?_⟩
  intro d' owned' answer' payload' hcall' hstream' hfits' hpayload' key' value hlearnt
  cases hcall.symm.trans hcall'
  have harrived : wireBytes answer = wireBytes answer' := by
    rw [← hstream', ← hchunks]
    rw [Wire.stream] at hstream
    simp only [Wire.stream, List.flatten_append, ← List.append_assoc, hstream, List.nil_append]
  cases wireBytes_injective hfits hfits' harrived
  cases hsent.symm.trans hpayload'
  have hspec : StoreSpec takes s.device (.read key)
      (outcomeOf (d.decode (.frame ⟨answer, payload, wireBytes answer⟩))) device :=
    hspeaks.answered hop hanswer
  rw [hlearnt] at hspec
  cases hspec with
  | read hheld => rwa [← hb.device]

theorem InBatch.reply (hb : InBatch holder held s) (h : Relates client address s a)
    {d : Dispatch ParameterEntry} {owned : Bool} {bs : Bytes} {timeout : Option PyFloat}
    {commandName : String} {writeEnd : Option PortEnd} {ending : PortEnd} {r : Result StdBusReply}
    {line : Line} {wire : Wire} {tasks : SessionInterleaving.State}
    (hcall : s.tasks.calls task = some ⟨d, .exchanging owned⟩) (hwire : d.wire = .payload bs)
    (hwritten : s.wire.stream ≠ [] → writeEnd = none)
    (hrun : StdBusClient.execute client bs s.tasks.session.address timeout commandName writeEnd
      (s.wire.line client ending) = (r, line))
    (hstep : SessionInterleaving.Step lib s.tasks (.reply task (r.map .frame)) tasks) :
    InBatch holder held { s with tasks := tasks, wire := wire } ∧
      Tells holder held (.reply task (outcomeOf (finish s.tasks.session d (r.map .frame)).1)) := by
  have htask : task = holder := hb.exchanges h ⟨d, owned, hcall⟩
  cases hstep with
  | @reply _ _ owned' _ hcall' =>
    cases hcall.symm.trans hcall'
    have howned : owned = false := by
      by_contra hout
      rw [htask, Bool.of_not_eq_false hout] at hcall
      exact hb.phase d hcall
    refine ⟨hb.between (by rw [howned]; rfl) (by simp [htask]), ?_⟩
    cases hlearnt : outcomeOf (finish s.tasks.session d (r.map .frame)).1 with
    | none => trivial
    | some learnt =>
      obtain ⟨key, value⟩ := learnt
      refine ⟨htask, ?_⟩
      have hraised : s.wire.stream ≠ [] := by
        intro hstream
        obtain ⟨⟨e, rfl⟩, -⟩ := execute_silent (s := s.wire.line client ending) rfl hstream hrun
        cases hlearnt
      rw [hwritten hraised] at hrun
      obtain ⟨answer, payload, hstream, hfits, hpayload, hdecoded, -⟩ :=
        h.answered hcall hwire hraised hrun
      rw [hdecoded] at hlearnt
      rw [htask] at hcall
      exact hb.truthful d owned answer payload hcall hstream hfits hpayload key value hlearnt

theorem InBatch.cancel (hb : InBatch holder held s) (h : Relates client address s a)
    {tasks : SessionInterleaving.State}
    (hstep : SessionInterleaving.Step lib s.tasks (.cancel task) tasks) :
    InBatch holder held { s with tasks := tasks } := by
  cases hstep with
  | @cancel _ p hcall =>
    obtain ⟨d, phase⟩ := p
    by_cases htask : task = holder
    · refine hb.between ?_ (by simp [htask])
      cases phase with
      | waiting => rfl
      | exchanging owned =>
        cases owned with
        | false => rfl
        | true => exact absurd (htask ▸ hcall) (hb.phase d)
    · refine hb.aside ?_ (by simp [Ne.symm htask])
      cases phase with
      | waiting => rfl
      | exchanging owned => exact absurd (hb.exchanges h ⟨d, owned, hcall⟩) htask

end BatchSnapshots
