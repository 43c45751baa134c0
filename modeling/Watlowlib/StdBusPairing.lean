import Watlowlib.StdBusResync
import Watlowlib.TransitionSystem

/-! # Which reply a call returns

The reply a call returns is the first well-formed frame on the line, whoever sent it and
whichever request it answers. Runs of calls over a line with arbitrary delays, and the state of
the line under which a call's reply is its own. -/
namespace StdBusPairing

open ExceptRules PythonValues SerialTransport StdBusClient StdBusFraming StdBusPayload
  StdBusResync TransitionSystem WatlowErrors

/-- The first well-formed frame the client meets in `bs`. -/
structure FirstFrame (bs g : Bytes) (f : Frame) (t : Bytes) : Prop where
  skippable : Skippable g
  budget : g.length ≤ preambleScanLimit
  admitted : f.payload.length ≤ maxPayloadLen
  split : bs = g ++ wireBytes f ++ t

theorem FirstFrame.cut {bs g t : Bytes} {f : Frame} (h : FirstFrame bs g f t) :
    Cut bs g (wireBytes f) t :=
  ⟨h.skippable, h.budget, ⟨header f, body f.payload, wholeFrame_wireBytes h.admitted, rfl⟩,
    h.split⟩

theorem FirstFrame.unique {bs g g' t t' : Bytes} {f f' : Frame} (h : FirstFrame bs g f t)
    (h' : FirstFrame bs g' f' t') : g = g' ∧ f = f' ∧ t = t' := by
  obtain ⟨hg, hw, ht⟩ := h.cut.unique h'.cut
  have hd := decodeFrame_wireBytes (h.admitted.trans (by decide)) []
  have hd' := decodeFrame_wireBytes (h'.admitted.trans (by decide)) []
  rw [hw] at hd
  exact ⟨hg, Except.ok.inj (hd.symm.trans hd'), ht⟩

theorem cut_decoded {bs g raw t : Bytes} {f : Frame} (h : Cut bs g raw t)
    (hf : decodeFrame raw = .ok f) : raw = wireBytes f ∧ FirstFrame bs g f t := by
  obtain ⟨hg, hlen, ⟨hdr, bdy, hw, rfl⟩, hs⟩ := h
  obtain ⟨hmax, t', ht'⟩ := decodeFrame_canonical hf
  have hsplit : hdr ++ bdy = header f ++ (body f.payload ++ t') := by
    simpa [wireBytes, preamble] using ht'
  obtain ⟨rfl, hbody⟩ := List.append_inj hsplit (hw.header_length.trans (header_length f).symm)
  have hfield : headerLength (header f) = f.payload.length := lengthField_split hmax
  have hbodyLen : (body f.payload).length = bodyLength (header f) := by
    rw [StdBusFraming.body_length, bodyLength, hfield]
    rfl
  have hnil : t' = [] := by
    have h := congrArg List.length hbody
    rw [List.length_append, hw.body_length, hbodyLen] at h
    exact List.eq_nil_of_length_eq_zero (by omega)
  subst hnil
  rw [List.append_nil] at ht'
  exact ⟨ht', hg, hlen, hfield ▸ hw.admitted, by rw [hs, ht']⟩

variable {client : StdBusProtocolClient} {request : Bytes} {address : ℤ}
  (timeout : Option PyFloat) (commandName : String) {writeEnd : Option PortEnd}

/-- A call that puts its request on the line. -/
structure Sent (client : StdBusProtocolClient) (request : Bytes) (address : ℤ)
    (writeEnd : Option PortEnd) : Prop where
  live : client.disposed = false
  addressed : 1 ≤ address ∧ address ≤ 16
  fits : request.length ≤ maxLength
  written : writeEnd = none

theorem addrToMac_of_range {address : ℤ} (h : 1 ≤ address ∧ address ≤ 16) :
    addrToMac address = .ok (UInt8.ofNat (addrOffset + address).toNat) := if_pos h

theorem encodeFrame_of_fits {f : Frame} (h : f.payload.length ≤ maxLength) :
    encodeFrame f = .ok (wireBytes f) := if_neg (Nat.not_lt.mpr h)

theorem write_none {s : Line} (bound : PyFloat) (hopen : s.isOpen = true) :
    write none bound s = .ok ⟨⟩ := by
  rw [write, requirePort, require_of _ hopen]
  rfl

theorem failAfter_ok_iff {bound : PyFloat} {context : ErrorContext} {r : Result Bytes × Line}
    {raw : Bytes} {s : Line} :
    failAfter bound address context r = (.ok raw, s) ↔ r = (.ok raw, s) := by
  obtain ⟨x, s'⟩ := r
  cases x with
  | ok raw' => rfl
  | error e =>
    by_cases h : e.kind = .timeoutError
    · simp [failAfter, h, raise]
    · simp [failAfter, h]

theorem decodeReply_ok_iff {context : ErrorContext} {raw : Bytes} {r : StdBusReply} :
    decodeReply context raw = .ok r ↔
      decodeFrame raw = .ok r.frame ∧ decodePayload r.frame.payload = .ok r.payload ∧
        r.rawFrame = raw := by
  obtain ⟨frame, payload, rawFrame⟩ := r
  simp only [decodeReply, raise]
  cases hf : decodeFrame raw with
  | error e => simp
  | ok f =>
    simp only [Except.ok.injEq]
    constructor
    · intro h
      cases hp : decodePayload f.payload with
      | error e =>
        rw [hp] at h
        cases h
      | ok p =>
        rw [hp] at h
        cases h
        exact ⟨rfl, hp, rfl⟩
    · rintro ⟨rfl, hp, rfl⟩
      rw [hp]

theorem execute_sent {s : Line} (hopen : s.isOpen = true)
    (h : Sent client request address writeEnd) :
    ∃ context context', execute client request address timeout commandName writeEnd s =
      andThen (failAfter (timeout.getD ioTimeout) address context
        (readFrame (timeout.getD ioTimeout) context' s)) fun raw s =>
          (decodeReply { context with response := some raw } raw, s) := by
  obtain ⟨hlive, haddr, hfits, rfl⟩ := h
  refine ⟨{ callContext client.label commandName address with
    request := some (wireBytes (requestFrame (UInt8.ofNat (addrOffset + address).toNat) request)) },
    callContext client.label commandName address, ?_⟩
  simp only [execute, hlive, Bool.false_eq_true, if_false, addrToMac_of_range haddr, andThen_ok]
  rw [encodeFrame_of_fits (f := requestFrame _ request) hfits, andThen_ok, write_none _ hopen]
  rfl

theorem execute_ok_sent {s s' : Line} {r : StdBusReply}
    (h : execute client request address timeout commandName writeEnd s = (.ok r, s')) :
    s.isOpen = true ∧ Sent client request address writeEnd := by
  simp only [execute] at h
  cases hlive : client.disposed with
  | true => simp [hlive, raise] at h
  | false =>
    simp only [hlive, Bool.false_eq_true, if_false] at h
    obtain ⟨dst, s₁, ha, h⟩ := andThen_ok_iff.mp h
    obtain ⟨wire, s₂, he, h⟩ := andThen_ok_iff.mp h
    obtain ⟨raw, s₃, hr, -⟩ := andThen_ok_iff.mp h
    obtain ⟨u, s₄, hw, -⟩ := andThen_ok_iff.mp (failAfter_ok_iff.mp hr)
    obtain ⟨_, hport, hend⟩ := bind_ok_iff.mp (Prod.mk.inj hw).1
    have hopen : s.isOpen = true := by
      rw [(Prod.mk.inj ha).2, (Prod.mk.inj he).2]
      exact require_ok_iff.mp hport
    have haddr : 1 ≤ address ∧ address ≤ 16 := by
      by_contra hc
      simp [addrToMac, hc] at ha
    have hfits : request.length ≤ maxLength := by
      by_contra hc
      have hlong : maxLength < (requestFrame dst request).payload.length := Nat.not_le.mp hc
      simp [encodeFrame, hlong, raise] at he
    have hnone : writeEnd = none := by
      cases writeEnd with
      | none => rfl
      | some e => cases hend
    exact ⟨hopen, hlive, haddr, hfits, hnone⟩

/-- A call returns a reply exactly when the first well-formed frame on the line decodes to it;
neither the address nor the request has a say in which frame that is. -/
theorem execute_ok_iff {s : Line} {r : StdBusReply} {t : Bytes} (hopen : s.isOpen = true) :
    (∃ s', execute client request address timeout commandName writeEnd s = (.ok r, s') ∧
      s'.stream = t) ↔
    Sent client request address writeEnd ∧ (∃ g, FirstFrame s.stream g r.frame t) ∧
      decodePayload r.frame.payload = .ok r.payload ∧ r.rawFrame = wireBytes r.frame := by
  constructor
  · rintro ⟨s', h, hs'⟩
    obtain ⟨-, hsent⟩ := execute_ok_sent timeout commandName h
    obtain ⟨context, context', he⟩ := execute_sent timeout commandName hopen hsent
    rw [he] at h
    obtain ⟨raw, s₁, hr, hd⟩ := andThen_ok_iff.mp h
    obtain ⟨hreply, rfl⟩ := Prod.mk.inj hd
    obtain ⟨hf, hp, hraw⟩ := decodeReply_ok_iff.mp hreply
    obtain ⟨g, hcut⟩ := (readFrame_ok_iff _ _ hopen).mp ⟨s₁, failAfter_ok_iff.mp hr, hs'⟩
    obtain ⟨hwire, hfirst⟩ := cut_decoded hcut hf
    exact ⟨hsent, ⟨g, hfirst⟩, hp, hraw.trans hwire⟩
  · rintro ⟨hsent, ⟨g, hfirst⟩, hp, hraw⟩
    obtain ⟨context, context', he⟩ := execute_sent timeout commandName hopen hsent
    obtain ⟨s', hr, hs', -⟩ := readFrame_of_cut (timeout.getD ioTimeout) context' hopen
      hfirst.cut
    have hf := decodeFrame_wireBytes (hfirst.admitted.trans (by decide)) []
    rw [List.append_nil] at hf
    refine ⟨s', ?_, hs'⟩
    rw [he, failAfter_ok_iff.mpr hr, andThen_ok]
    exact Prod.ext (decodeReply_ok_iff.mpr ⟨hf, hp, hraw⟩) rfl

/-- The port keeps working: a read that finds too few bytes ends by a deadline. -/
def DeadlineOnly (ending : PortEnd) : Prop := ending = .ownDeadline ∨ ending = .scopeDeadline

theorem execute_error_kind {s s' : Line} {e : PyError} (hopen : s.isOpen = true)
    (hsent : Sent client request address writeEnd) (hend : DeadlineOnly s.ending)
    (h : execute client request address timeout commandName writeEnd s = (.error e, s')) :
    e.kind = .timeout ∨ e.kind = .frame := by
  obtain ⟨context, context', he⟩ := execute_sent timeout commandName hopen hsent
  rw [he] at h
  rcases andThen_error_iff.mp h with h | ⟨raw, s₁, -, h⟩
  · rcases readFrame_outcome (timeout.getD ioTimeout) context' hopen with
      ⟨g, raw, t, hc⟩ | ⟨e', s₁, hr, hkind⟩
    · obtain ⟨s₁, hr, -, -⟩ := readFrame_of_cut (timeout.getD ioTimeout) context' hopen hc
      rw [failAfter_ok_iff.mpr hr] at h
      cases h
    · rw [hr] at h
      rcases hkind with hkind | ⟨n, rfl⟩
      · simp only [failAfter, hkind, reduceCtorEq, if_false] at h
        cases h
        exact Or.inr hkind
      · rcases hend with hend | hend
        · simp only [failAfter, readError, portError, hend, reduceCtorEq, if_false] at h
          cases h
          exact Or.inl rfl
        · simp only [failAfter, readError, portError, hend, if_true, raise] at h
          cases h
          exact Or.inl rfl
  · have hd := (Prod.mk.inj h).1
    simp only [decodeReply, raise] at hd
    split at hd
    · cases hd
      exact Or.inr rfl
    · split at hd
      · cases hd
        exact Or.inr rfl
      · cases hd

/-- The line between two calls: what the transport has pushed back, and the bytes that devices
have sent and the port has not yet delivered. -/
structure Link where
  client : StdBusProtocolClient
  pushback : Bytes
  line : Bytes
  deriving DecidableEq, Repr

def Link.fresh (label : String) : Link := ⟨⟨false, label⟩, [], []⟩

/-- One call and what happens to it. `reply` is the frame the device answers this request with,
`chunks` what the port delivers before the call ends, `pending` the bytes of earlier replies that
were still unread when it began and `later` the bytes still on their way when it ends. -/
structure Call where
  request : Bytes
  address : ℤ
  timeout : Option PyFloat
  commandName : String
  writeEnd : Option PortEnd
  reply : Option Frame
  chunks : List Bytes
  ending : PortEnd
  pending : Bytes
  later : Bytes
  outcome : Result StdBusReply
  deriving DecidableEq, Repr

def Call.answer (c : Call) : Bytes := c.reply.elim [] wireBytes

def Call.lineFrom (c : Call) (s : Link) : Line :=
  ⟨s.client.label, true, s.pushback, c.chunks, c.ending⟩

def Call.run (c : Call) (s : Link) : Result StdBusReply × Line :=
  execute s.client c.request c.address c.timeout c.commandName c.writeEnd (c.lineFrom s)

/-- One call on the line, a FIFO of bytes: the answer joins it behind what is under way, and the
call sees a prefix of it. A request that is never written is not answered. -/
structure CallStep (s : Link) (c : Call) (t : Link) : Prop where
  answered : c.reply ≠ none → ∃ dst wire, s.client.disposed = false ∧
    addrToMac c.address = .ok dst ∧ encodeFrame (requestFrame dst c.request) = .ok wire
  encodable : ∀ f ∈ c.reply, f.payload.length ≤ maxLength
  pending : c.pending = s.pushback ++ s.line
  fifo : s.line ++ c.answer = c.chunks.flatten ++ c.later
  outcome : c.outcome = (c.run s).1
  after : t = ⟨s.client, (c.run s).2.pushback, (c.run s).2.chunks.flatten ++ c.later⟩

/-- A returned reply is the one to this request; and while that reply is not there in full, a
call that was sent over a working port raises a timeout or a frame error. -/
structure Paired (client : StdBusProtocolClient) (c : Call) : Prop where
  own : ∀ r, c.outcome = .ok r → ∃ f, c.reply = some f ∧ r.frame = f ∧ r.rawFrame = wireBytes f ∧
    decodePayload f.payload = .ok r.payload
  waits : Sent client c.request c.address c.writeEnd → DeadlineOnly c.ending →
    (c.reply = none ∨ c.later ≠ []) →
    ∃ e, c.outcome = .error e ∧ (e.kind = .timeout ∨ e.kind = .frame)

theorem firstFrame_own {pending tail : Bytes} {g later : Bytes} {reply : Option Frame} {f : Frame}
    (hquiet : Skippable pending) (henc : ∀ f ∈ reply, f.payload.length ≤ maxLength)
    (hfirst : Skippable g ∧ f.payload.length ≤ maxPayloadLen)
    (hline : pending ++ reply.elim [] wireBytes = g ++ wireBytes f ++ tail ++ later) :
    reply = some f ∧ tail = [] ∧ later = [] := by
  have hf := hfirst.2.trans (show maxPayloadLen ≤ maxLength by decide)
  have hcons : g ++ wireBytes f ++ tail ++ later =
      g ++ 0x55 :: 0xFF :: (header f ++ body f.payload ++ (tail ++ later)) := by
    simp [wireBytes, preamble]
  cases reply with
  | none =>
    rw [Option.elim_none, List.append_nil, hcons] at hline
    exact (hfirst.1.no_preamble (hline ▸ hquiet)).elim
  | some f' =>
    have hcons' : pending ++ wireBytes f' =
        pending ++ 0x55 :: 0xFF :: (header f' ++ body f'.payload) := by
      simp [wireBytes, preamble]
    rw [Option.elim_some] at hline
    obtain ⟨rfl, hrest⟩ := hquiet.frame_start_unique hfirst.1 (hcons' ▸ hcons ▸ hline)
    have hwire : wireBytes f' = wireBytes f ++ (tail ++ later) := by
      simpa [List.append_assoc] using hline
    have hd := decodeFrame_wireBytes (henc f' rfl) []
    rw [List.append_nil, hwire, decodeFrame_wireBytes hf] at hd
    obtain rfl := Except.ok.inj hd
    have hnil := List.append_right_eq_self.mp hwire.symm
    obtain ⟨ht, hl⟩ := List.append_eq_nil_iff.mp hnil
    exact ⟨rfl, ht, hl⟩

theorem callStep_paired {s t : Link} {c : Call} (h : CallStep s c t)
    (hquiet : Skippable c.pending) : Paired s.client c := by
  have hopen : (c.lineFrom s).isOpen = true := rfl
  have hown : ∀ r, c.outcome = .ok r → c.reply = some r.frame ∧ c.later = [] ∧
      r.rawFrame = wireBytes r.frame ∧ decodePayload r.frame.payload = .ok r.payload := by
    intro r hr
    have hrun : c.run s = (.ok r, (c.run s).2) := Prod.ext (h.outcome ▸ hr) rfl
    obtain ⟨-, ⟨g, hfirst⟩, hp, hraw⟩ := (execute_ok_iff _ _ hopen).mp ⟨_, hrun, rfl⟩
    have hline : c.pending ++ c.answer =
        g ++ wireBytes r.frame ++ (c.run s).2.stream ++ c.later := by
      rw [← hfirst.split, h.pending, List.append_assoc, h.fifo, ← List.append_assoc]
      rfl
    obtain ⟨hreply, -, hlater⟩ := firstFrame_own hquiet h.encodable
      ⟨hfirst.skippable, hfirst.admitted⟩ hline
    exact ⟨hreply, hlater, hraw, hp⟩
  constructor
  · intro r hr
    obtain ⟨hreply, -, hraw, hp⟩ := hown r hr
    exact ⟨r.frame, hreply, rfl, hraw, hp⟩
  · intro hsent hend hlate
    rcases error_or_ok c.outcome with ⟨e, he⟩ | ⟨r, hr⟩
    · have hrun : c.run s = (.error e, (c.run s).2) := Prod.ext (h.outcome ▸ he) rfl
      exact ⟨e, he, execute_error_kind _ _ hopen hsent hend hrun⟩
    · obtain ⟨hreply, hlater, -⟩ := hown r hr
      rcases hlate with hnone | hlate
      · rw [hnone] at hreply
        cases hreply
      · exact absurd hlater hlate

/-- In every run of calls that all start over leftovers without a preamble, every call is
paired, whatever the delays, the faults and the cuts into chunks. -/
theorem run_paired {s t : Link} {calls : List Call} (h : Run CallStep s calls t)
    (hquiet : ∀ c ∈ calls, Skippable c.pending) : ∀ c ∈ calls, Paired s.client c := by
  have hstep : ∀ u c v, u.client = s.client → CallStep u c v →
      v.client = s.client ∧ (Skippable c.pending → Paired s.client c) := by
    intro u c v hu hc
    refine ⟨?_, fun hq => hu ▸ callStep_paired hc hq⟩
    rw [hc.after]
    exact hu
  intro c hc
  exact h.forall_event (fun u => u.client = s.client) hstep rfl c hc (hquiet c hc)

def slowRequest : Bytes := [0x01, 0x03, 0x01, 0x04, 0x01, 0x01]

def nextRequest : Bytes := [0x01, 0x03, 0x01, 0x07, 0x01, 0x01]

def unknownObject : Frame := ⟨dataNotExpectingReply, hostMac, 0x10, [0x02, 0x81]⟩

def callFrom (s : Link) (request : Bytes) (reply : Frame) (chunks : List Bytes) (later : Bytes) :
    Call :=
  let c : Call := ⟨request, 1, none, "read_parameter", none, some reply, chunks, .scopeDeadline,
    s.pushback ++ s.line, later, .error ⟨.timeout, [], {}⟩⟩
  { c with outcome := (c.run s).1 }

def noisyLink : Link := ⟨⟨false, "COM3"⟩, [0x55], [0x13]⟩

def behindNoise : Call :=
  callFrom noisyLink slowRequest refusal [[0x13, 0x55], (wireBytes refusal).tail] []

def answeredNext : Call :=
  callFrom (.fresh "COM3") nextRequest unknownObject [wireBytes unknownObject] []

theorem behindNoise_step : CallStep noisyLink behindNoise (.fresh "COM3") where
  answered := fun _ => ⟨_, _, rfl, rfl, rfl⟩
  encodable := by decide
  pending := rfl
  fifo := by decide +kernel
  outcome := rfl
  after := by decide +kernel

theorem answeredNext_step : CallStep (.fresh "COM3") answeredNext (.fresh "COM3") where
  answered := fun _ => ⟨_, _, rfl, rfl, rfl⟩
  encodable := by decide
  pending := rfl
  fifo := by decide +kernel
  outcome := rfl
  after := by decide +kernel

theorem behindNoise_paired :
    Paired noisyLink.client behindNoise ∧ Paired noisyLink.client answeredNext := by
  have hskippable : ∀ c ∈ [behindNoise, answeredNext], Skippable c.pending := by
    intro c hc
    rcases List.mem_pair.mp hc with rfl | rfl
    · exact .pair (by decide) .nil
    · exact .nil
  have hpaired := run_paired (.cons behindNoise_step (.cons answeredNext_step (.nil _))) hskippable
  exact ⟨hpaired _ (by simp), hpaired _ (by simp)⟩

def timedOut : Call := callFrom (.fresh "COM3") slowRequest refusal [] (wireBytes refusal)

def linkAfterTimeout : Link := ⟨⟨false, "COM3"⟩, [], wireBytes refusal⟩

def misled : Call :=
  callFrom linkAfterTimeout nextRequest unknownObject [wireBytes refusal] (wireBytes unknownObject)

theorem timedOut_step : CallStep (.fresh "COM3") timedOut linkAfterTimeout where
  answered := fun _ => ⟨_, _, rfl, rfl, rfl⟩
  encodable := by decide
  pending := rfl
  fifo := rfl
  outcome := rfl
  after := by decide +kernel

theorem misled_step :
    CallStep linkAfterTimeout misled ⟨⟨false, "COM3"⟩, [], wireBytes unknownObject⟩ where
  answered := fun _ => ⟨_, _, rfl, rfl, rfl⟩
  encodable := by decide
  pending := rfl
  fifo := rfl
  outcome := rfl
  after := by decide +kernel

/-- The late answer to the first request is returned for the second. -/
theorem late_reply_returned :
    ¬ ∀ (s t : Link) (calls : List Call), s = .fresh "COM3" → Run CallStep s calls t →
      ∀ c ∈ calls, Paired s.client c := by
  intro h
  have hrun : Run CallStep (.fresh "COM3") [timedOut, misled] _ :=
    .cons timedOut_step (.cons misled_step (.nil _))
  have hpaired := h _ _ _ rfl hrun misled (by simp)
  obtain ⟨f, hreply, hframe, -⟩ := hpaired.own
    ⟨refusal, .errorResponse 0x83, wireBytes refusal⟩ (by decide +kernel)
  have hown : some unknownObject = some f := hreply
  cases hown
  exact absurd hframe (by decide)

end StdBusPairing
