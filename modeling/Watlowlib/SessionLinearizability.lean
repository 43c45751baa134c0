import Watlowlib.AtomicObjects
import Watlowlib.ParameterStores
import Watlowlib.StdBusPairing

/-! # Concurrent calls on one device

Tasks that share a session, the bytes between the client and the device, and the device behind its
store. The lock keeps the exchanges apart, so the calls take effect one at a time, each between its
start and its end. That takes a device that is done with a request before the client gives it up,
and calls that leave no byte of an answer behind when they are cancelled in their exchange. -/
namespace SessionLinearizability

open AtomicObjects ExceptRules ModbusCodec ParameterCommands ParameterStores PythonValues
  SafetyGate SerialTransport SessionExecute SessionInterleaving StdBusClient StdBusFraming
  StdBusPairing StdBusPayload TransitionSystem WatlowErrors

/-- Frames on their way to the device, what the transport has pushed back and what has arrived. -/
structure Wire where
  requests : List Bytes
  unread : Bytes
  arrived : List Bytes
  deriving DecidableEq

def Wire.stream (wire : Wire) : Bytes := wire.unread ++ wire.arrived.flatten

structure Wire.Silent (wire : Wire) : Prop where
  requests : wire.requests = []
  stream : wire.stream = []

structure System where
  tasks : SessionInterleaving.State
  wire : Wire
  device : Store

inductive Event where
  | start (task : ℕ) (invocation : Invocation) (confirm : Bool) (op : Op)
  | refuse (task : ℕ) (invocation : Invocation) (confirm : Bool)
  | enter (task : ℕ)
  | serve
  | lose
  | loseReply
  | reply (task : ℕ) (outcome : Outcome)
  | cancel (task : ℕ)
  | other (e : SessionInterleaving.Event)

def Passive : SessionInterleaving.Event → Prop
  | .hold _ | .release _ | .bindRegistry _ => True
  | _ => False

section Steps

variable (lib : AnyModbus) (client : StdBusProtocolClient) (takes : Key → PyValue → PyValue → Prop)

/-- The frames that a client writes for a request. -/
def onWire (address : ℤ) : WireRequest → List Bytes
  | .op _ => []
  | .payload bs =>
    if client.disposed then []
    else
      match addrToMac address with
      | .error _ => []
      | .ok dst => (encodeFrame (requestFrame dst bs)).toOption.toList

/-- The line that a call reads from; `ending` is what becomes of a receive without more chunks. -/
def Wire.line (wire : Wire) (ending : PortEnd) : Line :=
  ⟨client.label, true, wire.unread, wire.arrived, ending⟩

inductive Step : System → Event → System → Prop where
  | start {s task i confirm d op tasks}
      (hprepared : prepareCall lib s.tasks.session confirm i = .ok d)
      (hasked : asked s.tasks.session i = some op)
      (h : SessionInterleaving.Step lib s.tasks (.start task i confirm) tasks) :
      Step s (.start task i confirm op) { s with tasks := tasks }
  | refuse {s task i confirm e tasks}
      (hrefused : prepareCall lib s.tasks.session confirm i = .error e)
      (h : SessionInterleaving.Step lib s.tasks (.start task i confirm) tasks) :
      Step s (.refuse task i confirm) { s with tasks := tasks }
  | enter {s task d tasks} (hcall : s.tasks.calls task = some ⟨d, .waiting⟩)
      (h : SessionInterleaving.Step lib s.tasks (.enter task d.key) tasks) :
      Step s (.enter task)
        { s with
          tasks := tasks
          wire := { s.wire with
            requests := s.wire.requests ++ onWire client s.tasks.session.address d.wire } }
  | serve {s w rest frame request answer payload device chunks}
      (hrequest : s.wire.requests = w :: rest) (hframe : decodeFrame w = .ok frame)
      (hpayload : decodePayload frame.payload = .ok request)
      (hanswer : Answers takes s.device request payload device)
      (hsent : decodePayload answer.payload = .ok payload)
      (hfits : answer.payload.length ≤ maxPayloadLen)
      (hchunks : chunks.flatten = wireBytes answer) :
      Step s .serve
        { s with
          wire := { s.wire with requests := rest, arrived := s.wire.arrived ++ chunks }
          device := device }
  | lose {s w rest} (hrequest : s.wire.requests = w :: rest) :
      Step s .lose { s with wire := { s.wire with requests := rest } }
  | loseReply {s w rest frame request payload device} (hrequest : s.wire.requests = w :: rest)
      (hframe : decodeFrame w = .ok frame) (hpayload : decodePayload frame.payload = .ok request)
      (hanswer : Answers takes s.device request payload device) :
      Step s .loseReply { s with wire := { s.wire with requests := rest }, device := device }
  | reply {s task d owned bs timeout commandName writeEnd ending r line tasks}
      (hcall : s.tasks.calls task = some ⟨d, .exchanging owned⟩) (hwire : d.wire = .payload bs)
      (hwritten : s.wire.stream ≠ [] → writeEnd = none)
      (hrun : StdBusClient.execute client bs s.tasks.session.address timeout commandName writeEnd
        (s.wire.line client ending) = (r, line))
      (h : SessionInterleaving.Step lib s.tasks (.reply task (r.map .frame)) tasks) :
      Step s (.reply task (outcomeOf (finish s.tasks.session d (r.map .frame)).1))
        { s with tasks := tasks, wire := ⟨s.wire.requests, line.pushback, line.chunks⟩ }
  | cancel {s task tasks} (h : SessionInterleaving.Step lib s.tasks (.cancel task) tasks) :
      Step s (.cancel task) { s with tasks := tasks }
  | other {s e tasks} (hpassive : Passive e) (h : SessionInterleaving.Step lib s.tasks e tasks) :
      Step s (.other e) { s with tasks := tasks }

end Steps

def Exchanges (s : SessionInterleaving.State) (task : ℕ) : Prop :=
  ∃ d owned, s.calls task = some ⟨d, .exchanging owned⟩

section Client

variable {client : StdBusProtocolClient} {address : ℤ} {bs w : Bytes}

theorem onWire_sent (h : w ∈ onWire client address (.payload bs)) :
    Sent client bs address none ∧ ∃ dst, w = wireBytes (requestFrame dst bs) := by
  simp only [onWire] at h
  split at h
  · cases h
  · rename_i hlive
    split at h
    · cases h
    · rename_i dst hdst
      have haddress : 1 ≤ address ∧ address ≤ 16 := by
        by_contra hout
        simp [addrToMac, hout] at hdst
      by_cases hfits : bs.length ≤ maxLength
      · rw [encodeFrame_of_fits (f := requestFrame dst bs) hfits] at h
        have hw : w = wireBytes (requestFrame dst bs) := by
          simpa [Except.toOption] using h
        exact ⟨⟨by simpa using hlive, haddress, hfits, rfl⟩, dst, hw⟩
      · have hlong : maxLength < (requestFrame dst bs).payload.length := Nat.not_le.mp hfits
        simp [encodeFrame, hlong, raise, Except.toOption] at h

variable (client address) in
theorem onWire_length (wire : WireRequest) :
    onWire client address wire = [] ∨ ∃ w, onWire client address wire = [w] := by
  simp only [onWire]
  split
  · exact Or.inl rfl
  · split
    · exact Or.inl rfl
    · split
      · exact Or.inl rfl
      · cases h : encodeFrame _ with
        | error e => exact Or.inl rfl
        | ok w => exact Or.inr ⟨w, rfl⟩

theorem onWire_decoded (h : w ∈ onWire client address (.payload bs)) :
    ∃ frame, decodeFrame w = .ok frame ∧ frame.payload = bs := by
  obtain ⟨hsent, dst, rfl⟩ := onWire_sent h
  have hdecode := decodeFrame_wireBytes (f := requestFrame dst bs) hsent.fits []
  rw [List.append_nil] at hdecode
  exact ⟨_, hdecode, rfl⟩

variable {timeout : Option PyFloat} {commandName : String} {writeEnd : Option PortEnd}
  {r : Result StdBusReply} {s line : Line}

theorem execute_answered {answer : Frame} {payload : Payload}
    (hsent : Sent client bs address writeEnd) (hopen : s.isOpen = true)
    (hstream : s.stream = wireBytes answer) (hfits : answer.payload.length ≤ maxPayloadLen)
    (hpayload : decodePayload answer.payload = .ok payload)
    (hrun : StdBusClient.execute client bs address timeout commandName writeEnd s = (r, line)) :
    r = .ok ⟨answer, payload, wireBytes answer⟩ ∧ line.stream = [] := by
  have hfirst : FirstFrame s.stream [] answer [] :=
    ⟨.nil, Nat.zero_le _, hfits, by rw [hstream, List.nil_append, List.append_nil]⟩
  obtain ⟨line', hok, hline⟩ := (StdBusPairing.execute_ok_iff timeout commandName
    (r := ⟨answer, payload, wireBytes answer⟩) (t := []) hopen).mpr
      ⟨hsent, ⟨[], hfirst⟩, hpayload, rfl⟩
  cases hrun.symm.trans hok
  exact ⟨rfl, hline⟩

theorem andThen_silent {α β : Type} {x : Result α × Line} {f : α → Line → Result β × Line}
    (hx : x.2.stream = []) (hf : ∀ a, (f a x.2).2.stream = []) : (andThen x f).2.stream = [] := by
  obtain ⟨outcome, line⟩ := x
  cases outcome with
  | error e => exact hx
  | ok a => exact hf a

theorem readFrame_silent (bound : PyFloat) (context : ErrorContext) (hopen : s.isOpen = true)
    (hstream : s.stream = []) : (readFrame bound context s).2.stream = [] := by
  have hshort := readExact_short (n := 1) bound hopen (by rw [hstream]; exact Nat.zero_lt_one)
  rw [readFrame, scanPreamble, hshort]
  simp only [andThen, Line.stream, List.flatten_nil, List.append_nil]
  rw [show s.pushback ++ s.chunks.flatten = [] from hstream]
  split <;> rfl

theorem failAfter_line (bound : PyFloat) (context : ErrorContext) (r : Result Bytes × Line) :
    (failAfter bound address context r).2 = r.2 := by
  obtain ⟨outcome, line⟩ := r
  cases outcome with
  | ok raw => rfl
  | error e =>
    simp only [failAfter]
    split <;> rfl

variable (client address bs timeout commandName writeEnd) in
theorem execute_line_silent (hopen : s.isOpen = true) (hstream : s.stream = []) :
    (StdBusClient.execute client bs address timeout commandName writeEnd s).2.stream = [] := by
  simp only [StdBusClient.execute]
  split
  · exact hstream
  · refine andThen_silent hstream fun dst => andThen_silent hstream fun wire =>
      andThen_silent ?_ fun raw => ?_
    · rw [failAfter_line]
      exact andThen_silent hstream fun _ => readFrame_silent _ _ hopen hstream
    · rw [failAfter_line]
      exact andThen_silent hstream fun _ => readFrame_silent _ _ hopen hstream

theorem execute_silent (hopen : s.isOpen = true) (hstream : s.stream = [])
    (hrun : StdBusClient.execute client bs address timeout commandName writeEnd s = (r, line)) :
    (∃ e, r = .error e) ∧ line.stream = [] := by
  constructor
  · cases r with
    | error e => exact ⟨e, rfl⟩
    | ok reply =>
      obtain ⟨-, ⟨g, hfirst⟩, -⟩ :=
        (StdBusPairing.execute_ok_iff timeout commandName hopen).mp ⟨line, hrun, rfl⟩
      have hsplit := hfirst.split
      rw [hstream] at hsplit
      simp [wireBytes, preamble] at hsplit
  · have hline := execute_line_silent client address bs timeout commandName writeEnd hopen hstream
    rwa [hrun] at hline

end Client

/-! ## The simulation -/

section Simulation

variable {lib : AnyModbus} {client : StdBusProtocolClient}
  {takes : Key → PyValue → PyValue → Prop} {address : ℤ}

/-- How far a call of the session is, and how far its operation on the store is. -/
inductive Matches (client : StdBusProtocolClient) (address : ℤ) (wire : Wire) :
    Option Pending → Call Op Outcome → Prop where
  | idle : Matches client address wire none .idle
  | waiting {d op bs} (h : Speaks d op bs) :
      Matches client address wire (some ⟨d, .waiting⟩) (.invoked op)
  | asking {d owned op bs} (h : Speaks d op bs) (hstream : wire.stream = [])
      (hrequests : wire.requests = [] ∨ wire.requests = onWire client address (.payload bs)) :
      Matches client address wire (some ⟨d, .exchanging owned⟩) (.invoked op)
  | lost {d owned} (hwire : wire.Silent) :
      Matches client address wire (some ⟨d, .exchanging owned⟩) (.effected none)
  | answered {d owned bs answer payload} (hd : d.wire = .payload bs)
      (hsent : Sent client bs address none) (hrequests : wire.requests = [])
      (hstream : wire.stream = wireBytes answer) (hfits : answer.payload.length ≤ maxPayloadLen)
      (hpayload : decodePayload answer.payload = .ok payload) :
      Matches client address wire (some ⟨d, .exchanging owned⟩)
        (.effected (outcomeOf (d.decode (.frame ⟨answer, payload, wireBytes answer⟩))))

structure Relates (client : StdBusProtocolClient) (address : ℤ) (s : System)
    (a : AtomicObjects.State Store ℕ Op Outcome) : Prop where
  object : a.object = s.device
  kind : s.tasks.session.kind = .stdbus
  addressed : s.tasks.session.address = address
  owner : ∀ task, Exchanges s.tasks task → s.tasks.owner = some task
  quiet : (∀ task, ¬ Exchanges s.tasks task) → s.wire.Silent
  calls : ∀ task, Matches client address s.wire (s.tasks.calls task) (a.calls task)

variable {s : System} {a : AtomicObjects.State Store ℕ Op Outcome} {task other : ℕ}
  {wire wire' : Wire} {p : Option Pending} {call : Call Op Outcome}

theorem exchanges_congr {tasks tasks' : SessionInterleaving.State}
    (h : tasks'.calls task = tasks.calls task) : Exchanges tasks' task ↔ Exchanges tasks task := by
  rw [Exchanges, Exchanges, h]

theorem Matches.rewire (h : Matches client address wire p call)
    (hrest : ∀ d owned, p ≠ some ⟨d, .exchanging owned⟩) :
    Matches client address wire' p call := by
  cases h with
  | idle => exact .idle
  | waiting h => exact .waiting h
  | asking => exact absurd rfl (hrest _ _)
  | lost => exact absurd rfl (hrest _ _)
  | answered => exact absurd rfl (hrest _ _)

theorem Relates.rest (h : Relates client address s a) (hidle : ¬ Exchanges s.tasks task) :
    Matches client address wire (s.tasks.calls task) (a.calls task) :=
  (h.calls task).rewire fun d owned hcall => hidle ⟨d, owned, hcall⟩

theorem Relates.alone (h : Relates client address s a) (htask : Exchanges s.tasks task)
    (hother : other ≠ task) : ¬ Exchanges s.tasks other := by
  intro hexchanges
  have hsame := (h.owner task htask).symm.trans (h.owner other hexchanges)
  exact hother (Option.some.inj hsame).symm

theorem Relates.exchange (h : Relates client address s a) (htask : Exchanges s.tasks task)
    (device : Store) (hmatches : Matches client address wire (s.tasks.calls task) call) :
    Relates client address { s with wire := wire, device := device }
      { a.setCall task call with object := device } where
  object := rfl
  kind := h.kind
  addressed := h.addressed
  owner := h.owner
  quiet hquiet := absurd htask (hquiet task)
  calls other := by
    by_cases hother : other = task
    · rw [hother]
      simpa using hmatches
    · have hrest : Matches client address wire (s.tasks.calls other) (a.calls other) :=
        h.rest (h.alone htask hother)
      simpa [hother] using hrest

theorem Relates.leave (h : Relates client address s a) {session : Session} {owner : Option ℕ}
    (hsame : s.tasks.session.SameDevice session)
    (hexchange : Exchanges s.tasks task → wire.Silent)
    (hwait : ¬ Exchanges s.tasks task → wire = s.wire ∧ owner = s.tasks.owner) :
    Relates client address ⟨⟨session, owner, (s.tasks.setCall task none).calls⟩, wire, s.device⟩
      (a.setCall task .idle) := by
  have hothers : ∀ other, other ≠ task →
      (s.tasks.setCall task none).calls other = s.tasks.calls other := by
    intro other hother
    rw [SessionInterleaving.setCall_calls, if_neg hother]
  have htask : ¬ Exchanges ⟨session, owner, (s.tasks.setCall task none).calls⟩ task := by
    rintro ⟨d, owned, hcall⟩
    simp at hcall
  refine ⟨h.object, hsame.kind.trans h.kind, hsame.address.trans h.addressed, ?_, ?_, ?_⟩
  · intro other hexchanges
    have hother : other ≠ task := fun heq => htask (heq ▸ hexchanges)
    have hbefore : Exchanges s.tasks other := (exchanges_congr (hothers other hother)).mp hexchanges
    by_cases hin : Exchanges s.tasks task
    · exact absurd hbefore (h.alone hin hother)
    · exact (hwait hin).2.trans (h.owner other hbefore)
  · intro hquiet
    by_cases hin : Exchanges s.tasks task
    · exact hexchange hin
    · refine (hwait hin).1 ▸ h.quiet fun other hexchanges => ?_
      have hother : other ≠ task := fun heq => hin (heq ▸ hexchanges)
      exact hquiet other ((exchanges_congr (hothers other hother)).mpr hexchanges)
  · intro other
    by_cases hother : other = task
    · rw [hother]
      simpa using Matches.idle
    · have hcalls : Matches client address wire (s.tasks.calls other) (a.calls other) := by
        by_cases hin : Exchanges s.tasks task
        · exact h.rest (h.alone hin hother)
        · rw [(hwait hin).1]
          exact h.calls other
      simpa [hother] using hcalls

/-! ## The steps -/

theorem follows_raised {op : Op} {P : AtomicObjects.State Store ℕ Op Outcome → Prop}
    (hcall : a.calls task = .invoked op) (h : P (a.setCall task .idle)) :
    Follows (StoreSpec takes) a [.respond task none] P := by
  have heffect : AtomicObjects.Step (StoreSpec takes) a (.effect task)
      (a.setCall task (.effected none)) := .effect hcall .raised
  have hrespond : AtomicObjects.Step (StoreSpec takes) (a.setCall task (.effected none))
      (.respond task none) ((a.setCall task (.effected none)).setCall task .idle) :=
    .respond (by simp)
  have hidle : (a.setCall task (.effected none)).setCall task .idle = a.setCall task .idle := by
    simp [AtomicObjects.State.setCall]
  exact ⟨_, _, .cons heffect (.cons hrespond (.nil _)), rfl, hidle ▸ h⟩

theorem follows_respond {res : Outcome} {P : AtomicObjects.State Store ℕ Op Outcome → Prop}
    (hcall : a.calls task = .effected res) (h : P (a.setCall task .idle)) :
    Follows (StoreSpec takes) a [.respond task res] P :=
  ⟨_, _, Run.single (.respond hcall), rfl, h⟩

theorem follows_effect {op : Op} {res : Outcome} {device : Store}
    {P : AtomicObjects.State Store ℕ Op Outcome → Prop} (hcall : a.calls task = .invoked op)
    (hspec : StoreSpec takes a.object op res device)
    (h : P { a.setCall task (.effected res) with object := device }) :
    Follows (StoreSpec takes) a [] P :=
  ⟨_, _, Run.single (.effect hcall hspec), rfl, h⟩

theorem Relates.start (h : Relates client address s a) {tasks : SessionInterleaving.State}
    {i : Invocation} {confirm : Bool} {d : Dispatch ParameterEntry} {op : Op}
    (hprepared : prepareCall lib s.tasks.session confirm i = .ok d)
    (hasked : asked s.tasks.session i = some op)
    (hstep : SessionInterleaving.Step lib s.tasks (.start task i confirm) tasks) :
    Follows (StoreSpec takes) a [.invoke task op]
      (Relates client address { s with tasks := tasks }) := by
  cases hstep with
  | refuse hidle he => cases hprepared.symm.trans he
  | start hidle hd =>
    cases hprepared.symm.trans hd
    obtain ⟨op', bs, hop, hspeaks⟩ := prepareCall_speaks h.kind hprepared
    cases hasked.symm.trans hop
    have hfree : a.calls task = .idle := by
      have hmatches := h.calls task
      rw [hidle] at hmatches
      generalize a.calls task = call at hmatches
      cases hmatches
      rfl
    have hidle' : ∀ other, Exchanges (s.tasks.setCall task (some ⟨d, .waiting⟩)) other ↔
        Exchanges s.tasks other := by
      intro other
      by_cases hother : other = task
      · rw [hother]
        simp [Exchanges, hidle]
      · exact exchanges_congr (by rw [SessionInterleaving.setCall_calls, if_neg hother])
    refine ⟨_, _, Run.single (.invoke hfree), rfl, h.object, h.kind, h.addressed, ?_, ?_, ?_⟩
    · exact fun other hexchanges => h.owner other ((hidle' other).mp hexchanges)
    · exact fun hquiet => h.quiet fun other hexchanges =>
        hquiet other ((hidle' other).mpr hexchanges)
    · intro other
      by_cases hother : other = task
      · rw [hother]
        simpa using Matches.waiting hspeaks
      · simpa [hother] using h.calls other

theorem Relates.nobody (h : Relates client address s a) {d : Dispatch ParameterEntry}
    (hcall : s.tasks.calls task = some ⟨d, .waiting⟩)
    (howner : s.tasks.owner = none ∨ s.tasks.owner = some task) (other : ℕ) :
    ¬ Exchanges s.tasks other := by
  intro hexchanges
  have hother := h.owner other hexchanges
  rcases howner with hfree | hown
  · rw [hfree] at hother
    cases hother
  · rw [hown] at hother
    cases hother
    obtain ⟨d', owned, hcall'⟩ := hexchanges
    rw [hcall] at hcall'
    cases hcall'

theorem Relates.enter (h : Relates client address s a) {d : Dispatch ParameterEntry}
    (owned : Bool)
    (hcall : s.tasks.calls task = some ⟨d, .waiting⟩)
    (howner : s.tasks.owner = none ∨ s.tasks.owner = some task) :
    Relates client address
      { s with
        tasks := { s.tasks.setCall task (some ⟨d, .exchanging owned⟩) with owner := some task }
        wire := { s.wire with
          requests := s.wire.requests ++ onWire client s.tasks.session.address d.wire } } a := by
  have hnobody := h.nobody hcall howner
  obtain ⟨hrequests, hstream⟩ := h.quiet hnobody
  refine ⟨h.object, h.kind, h.addressed, ?_, ?_, ?_⟩
  · intro other hexchanges
    by_cases hother : other = task
    · rw [hother]
    · refine absurd ((exchanges_congr ?_).mp hexchanges) (hnobody other)
      exact (SessionInterleaving.setCall_calls _ _ _).trans (if_neg hother)
  · intro hquiet
    refine absurd ⟨d, owned, ?_⟩ (hquiet task)
    simp
  · intro other
    by_cases hother : other = task
    · have hmatches := h.calls task
      rw [hcall] at hmatches
      rw [hother]
      generalize a.calls task = call at hmatches
      cases hmatches with
      | waiting hspeaks =>
        simp only [SessionInterleaving.setCall_calls, if_true]
        refine .asking hspeaks hstream (Or.inr ?_)
        simp only [hrequests, List.nil_append, hspeaks.wire, h.addressed]
    · simpa [hother] using h.rest (hnobody other)

theorem Relates.request (h : Relates client address s a) {w : Bytes} {rest : List Bytes}
    (hrequest : s.wire.requests = w :: rest) :
    ∃ task d owned op bs, s.tasks.calls task = some ⟨d, .exchanging owned⟩ ∧
      a.calls task = .invoked op ∧ Speaks d op bs ∧ w ∈ onWire client address (.payload bs) ∧
      rest = [] ∧ s.wire.stream = [] := by
  have hsome : ∃ task, Exchanges s.tasks task := by
    by_contra hnone
    have hsilent := h.quiet fun task hexchanges => hnone ⟨task, hexchanges⟩
    rw [hsilent.requests] at hrequest
    cases hrequest
  obtain ⟨task, d, owned, hcall⟩ := hsome
  have hmatches := h.calls task
  rw [hcall] at hmatches
  generalize hinvoked : a.calls task = call at hmatches
  cases hmatches with
  | @asking _ _ op bs hspeaks hstream hrequests =>
    have hsent : s.wire.requests = onWire client address (.payload bs) := by
      rcases hrequests with hnone | hsent
      · rw [hnone] at hrequest
        cases hrequest
      · exact hsent
    have hone : onWire client address (.payload bs) = w :: rest := hsent.symm.trans hrequest
    have hrest : rest = [] := by
      rcases onWire_length client address (.payload bs) with hw | ⟨w', hw⟩
      · rw [hw] at hone
        cases hone
      · rw [hw] at hone
        cases hone
        rfl
    refine ⟨task, d, owned, op, bs, hcall, hinvoked, hspeaks, ?_, hrest, hstream⟩
    rw [hone]
    exact List.mem_cons_self
  | lost hwire =>
    rw [hwire.requests] at hrequest
    cases hrequest
  | answered hd hsent hrequests =>
    rw [hrequests] at hrequest
    cases hrequest

theorem Relates.serve (h : Relates client address s a) {w : Bytes} {rest : List Bytes}
    {frame answer : Frame} {request payload : Payload} {device : Store} {chunks : List Bytes}
    (hrequest : s.wire.requests = w :: rest) (hframe : decodeFrame w = .ok frame)
    (hpayload : decodePayload frame.payload = .ok request)
    (hanswer : Answers takes s.device request payload device)
    (hsent : decodePayload answer.payload = .ok payload)
    (hfits : answer.payload.length ≤ maxPayloadLen) (hchunks : chunks.flatten = wireBytes answer) :
    Follows (StoreSpec takes) a [] (Relates client address
      { s with
        wire := { s.wire with requests := rest, arrived := s.wire.arrived ++ chunks }
        device := device }) := by
  obtain ⟨task, d, owned, op, bs, hcall, hinvoked, hspeaks, hw, hrest, hstream⟩ :=
    h.request hrequest
  obtain ⟨frame', hframe', hbs⟩ := onWire_decoded hw
  cases hframe.symm.trans hframe'
  obtain ⟨request', hrequest', hop⟩ := hspeaks.request
  rw [hbs] at hpayload
  cases hpayload.symm.trans hrequest'
  have hspec : StoreSpec takes s.device op
      (outcomeOf (d.decode (.frame ⟨answer, payload, wireBytes answer⟩))) device :=
    hspeaks.answered hop hanswer
  rw [← h.object] at hspec
  refine follows_effect hinvoked hspec (h.exchange ⟨d, owned, hcall⟩ device ?_)
  rw [hcall]
  refine .answered hspeaks.wire (onWire_sent hw).1 hrest ?_ hfits hsent
  rw [Wire.stream] at hstream
  simp only [Wire.stream, List.flatten_append, ← List.append_assoc, hstream, List.nil_append,
    hchunks]

theorem Relates.lose (h : Relates client address s a) {w : Bytes} {rest : List Bytes}
    (hrequest : s.wire.requests = w :: rest) :
    Relates client address { s with wire := { s.wire with requests := rest } } a := by
  obtain ⟨task, d, owned, op, bs, hcall, hinvoked, hspeaks, -, hrest, hstream⟩ :=
    h.request hrequest
  have hsame : ({ a.setCall task (.invoked op) with object := s.device } :
      AtomicObjects.State Store ℕ Op Outcome) = a := by
    rw [← hinvoked, ← h.object]
    simp [AtomicObjects.State.setCall]
  have hmatches : Matches client address { s.wire with requests := rest } (s.tasks.calls task)
      (.invoked op) := by
    rw [hcall]
    exact .asking hspeaks hstream (Or.inl hrest)
  have hrelates := h.exchange ⟨d, owned, hcall⟩ s.device hmatches
  rwa [hsame] at hrelates

theorem Relates.loseReply (h : Relates client address s a) {w : Bytes} {rest : List Bytes}
    {frame : Frame} {request payload : Payload} {device : Store}
    (hrequest : s.wire.requests = w :: rest) (hframe : decodeFrame w = .ok frame)
    (hpayload : decodePayload frame.payload = .ok request)
    (hanswer : Answers takes s.device request payload device) :
    Follows (StoreSpec takes) a [] (Relates client address
      { s with wire := { s.wire with requests := rest }, device := device }) := by
  obtain ⟨task, d, owned, op, bs, hcall, hinvoked, hspeaks, hw, hrest, hstream⟩ :=
    h.request hrequest
  obtain ⟨frame', hframe', hbs⟩ := onWire_decoded hw
  cases hframe.symm.trans hframe'
  obtain ⟨request', hrequest', hop⟩ := hspeaks.request
  rw [hbs] at hpayload
  cases hpayload.symm.trans hrequest'
  have hspec := hanswer.unheard hop
  rw [← h.object] at hspec
  refine follows_effect hinvoked hspec (h.exchange ⟨d, owned, hcall⟩ device ?_)
  rw [hcall]
  exact .lost ⟨hrest, hstream⟩

theorem finish_frame (session : Session) (d : Dispatch ParameterEntry) (reply : StdBusReply) :
    (finish session d ((Except.ok reply : Result StdBusReply).map .frame)).1 =
      d.decode (.frame reply) := by
  simp only [finish, Except.map]
  split <;> simp_all

theorem Relates.answered (h : Relates client address s a) {d : Dispatch ParameterEntry}
    {owned : Bool} {bs : Bytes} {timeout : Option PyFloat} {commandName : String}
    {ending : PortEnd} {r : Result StdBusReply} {line : Line}
    (hcall : s.tasks.calls task = some ⟨d, .exchanging owned⟩) (hwire : d.wire = .payload bs)
    (harrived : s.wire.stream ≠ [])
    (hrun : StdBusClient.execute client bs s.tasks.session.address timeout commandName none
      (s.wire.line client ending) = (r, line)) :
    ∃ answer payload, s.wire.stream = wireBytes answer ∧
      answer.payload.length ≤ maxPayloadLen ∧ decodePayload answer.payload = .ok payload ∧
      (finish s.tasks.session d (r.map .frame)).1 =
        d.decode (.frame ⟨answer, payload, wireBytes answer⟩) ∧
      a.calls task = .effected (outcomeOf (finish s.tasks.session d (r.map .frame)).1) ∧
      line.stream = [] := by
  have hmatches := h.calls task
  rw [hcall] at hmatches
  generalize heffect : a.calls task = call at hmatches
  cases hmatches with
  | asking _ hstream => exact absurd hstream harrived
  | lost hsilent => exact absurd hsilent.stream harrived
  | @answered _ _ bs' answer payload hd hsent _ hstream hfits hpayload =>
    cases hd.symm.trans hwire
    rw [h.addressed] at hrun
    obtain ⟨rfl, hline⟩ := execute_answered (s := s.wire.line client ending) hsent rfl hstream
      hfits hpayload hrun
    exact ⟨answer, payload, hstream, hfits, hpayload, finish_frame .., by rw [finish_frame], hline⟩

theorem Relates.reply (h : Relates client address s a) {d : Dispatch ParameterEntry} {owned : Bool}
    {bs : Bytes} {timeout : Option PyFloat} {commandName : String} {writeEnd : Option PortEnd}
    {ending : PortEnd} {r : Result StdBusReply} {line : Line} {tasks : SessionInterleaving.State}
    (hprompt : s.wire.requests = []) (hcall : s.tasks.calls task = some ⟨d, .exchanging owned⟩)
    (hwire : d.wire = .payload bs) (hwritten : s.wire.stream ≠ [] → writeEnd = none)
    (hrun : StdBusClient.execute client bs s.tasks.session.address timeout commandName writeEnd
      (s.wire.line client ending) = (r, line))
    (hstep : SessionInterleaving.Step lib s.tasks (.reply task (r.map .frame)) tasks) :
    Follows (StoreSpec takes) a
      [.respond task (outcomeOf (finish s.tasks.session d (r.map .frame)).1)]
      (Relates client address
        { s with tasks := tasks, wire := ⟨s.wire.requests, line.pushback, line.chunks⟩ }) := by
  cases hstep with
  | reply hcall' =>
    cases hcall.symm.trans hcall'
    have hleave : line.stream = [] → Relates client address
        ⟨⟨(finish s.tasks.session d (r.map .frame)).2,
          ownerAfter s.tasks.owner (.exchanging owned), (s.tasks.setCall task none).calls⟩,
          ⟨s.wire.requests, line.pushback, line.chunks⟩, s.device⟩ (a.setCall task .idle) := by
      intro hstream
      refine h.leave (finish_sameDevice _ _ _) (fun _ => ⟨hprompt, hstream⟩) fun hout => ?_
      exact absurd ⟨d, owned, hcall⟩ hout
    by_cases harrived : s.wire.stream = []
    · obtain ⟨⟨e, rfl⟩, hline⟩ :=
        execute_silent (s := s.wire.line client ending) rfl harrived hrun
      have hmatches := h.calls task
      rw [hcall] at hmatches
      generalize heffect : a.calls task = call at hmatches
      cases hmatches with
      | asking hspeaks hstream => exact follows_raised heffect (hleave hline)
      | lost hsilent => exact follows_respond heffect (hleave hline)
      | answered hd hsent hrequests hstream =>
        rw [harrived] at hstream
        simp [wireBytes, preamble] at hstream
    · rw [hwritten harrived] at hrun
      obtain ⟨answer, payload, -, -, -, -, heffect, hline⟩ :=
        h.answered hcall hwire harrived hrun
      exact follows_respond heffect (hleave hline)

theorem Relates.cancel (h : Relates client address s a) {tasks : SessionInterleaving.State}
    (hprompt : Exchanges s.tasks task → s.wire.Silent)
    (hstep : SessionInterleaving.Step lib s.tasks (.cancel task) tasks) :
    Follows (StoreSpec takes) a [.respond task none]
      (Relates client address { s with tasks := tasks }) := by
  cases hstep with
  | @cancel _ p hcall =>
    have hleave : Relates client address
        ⟨⟨s.tasks.session, ownerAfter s.tasks.owner p.phase, (s.tasks.setCall task none).calls⟩,
          s.wire, s.device⟩ (a.setCall task .idle) := by
      refine h.leave ⟨rfl, rfl, rfl⟩ hprompt fun hout => ⟨rfl, ?_⟩
      obtain ⟨d, phase⟩ := p
      cases phase with
      | waiting => rfl
      | exchanging owned => exact absurd ⟨d, owned, hcall⟩ hout
    have hmatches := h.calls task
    rw [hcall] at hmatches
    generalize heffect : a.calls task = call at hmatches
    cases hmatches with
    | waiting => exact follows_raised heffect hleave
    | asking => exact follows_raised heffect hleave
    | lost => exact follows_respond heffect hleave
    | @answered d owned bs answer payload hd hsent hrequests hstream =>
      have hsilent := (hprompt ⟨d, owned, hcall⟩).stream
      rw [hstream] at hsilent
      simp [wireBytes, preamble] at hsilent

end Simulation

section Answered

variable {tasks tasks' : SessionInterleaving.State} {task : ℕ} {d : Dispatch ParameterEntry}
  {owned : Bool} {store : Store} {reply : StdBusReply} {bs : Bytes} {outcome : Outcome}

end Answered

/-! ## A read beside a write -/

/-- A parameter is settled: it holds the value, no write of it is to come, and nobody has learnt
another value of it. -/
structure Settled (key : Key) (value : PyValue) (a : AtomicObjects.State Store ℕ Op Outcome) :
    Prop where
  held : a.object key = some value
  noWrite : ∀ task written, a.calls task ≠ .invoked (.write key written)
  learnt : ∀ task other, a.calls task = .effected (some (key, other)) → other = value

end SessionLinearizability
