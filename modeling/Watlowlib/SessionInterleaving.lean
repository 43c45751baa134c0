import Watlowlib.SafetyGate

/-! # Concurrent calls on one session

Any number of tasks call `Session.execute`; each passes its gates, waits for the lock, exchanges
and updates the table in separate steps. The gates are not looked at again once the lock is held. -/
namespace SessionInterleaving

open ExceptRules ModbusCodec ParameterCommands PythonValues Registry SafetyGate SessionExecute
  StdBusClient StdBusFraming StdBusPayload TransitionSystem WatlowErrors

/-- A call past its availability check: it waits for the lock, or it has the lock and its request
is on the wire. `owned` says that the lock is its own and not one of an enclosing batch. -/
inductive Phase where
  | waiting
  | exchanging (owned : Bool)
  deriving DecidableEq, Repr

structure Pending where
  dispatch : Dispatch ParameterEntry
  phase : Phase

structure State where
  session : Session
  owner : Option ℕ
  calls : ℕ → Option Pending

def State.setCall (s : State) (task : ℕ) (p : Option Pending) : State :=
  { s with calls := Function.update s.calls task p }

variable (lib : AnyModbus)

def prepareCall (s : Session) (confirm : Bool) :
    Invocation → Result (Dispatch ParameterEntry)
  | .read request => prepare s (readParameter lib) request confirm
  | .write request => prepare s (writeParameter lib) request confirm

inductive Event where
  | start (task : ℕ) (invocation : Invocation) (confirm : Bool)
  | enter (task : ℕ) (key : String)
  | reply (task : ℕ) (outcome : Result WireReply)
  | cancel (task : ℕ)
  | hold (task : ℕ)
  | release (task : ℕ)
  | bindRegistry (registry : ParameterRegistry)

def ownerAfter (owner : Option ℕ) : Phase → Option ℕ
  | .exchanging true => none
  | _ => owner

/-- `maybe_acquire`: a free lock is taken, a lock of the same task is used, and the request
reaches the client. A batch holds the lock across calls of its task. -/
inductive Step : State → Event → State → Prop where
  | start {s task i confirm d} (hidle : s.calls task = none)
      (hd : prepareCall lib s.session confirm i = .ok d) :
      Step s (.start task i confirm) (s.setCall task (some ⟨d, .waiting⟩))
  | refuse {s task i confirm e} (hidle : s.calls task = none)
      (he : prepareCall lib s.session confirm i = .error e) : Step s (.start task i confirm) s
  | acquire {s task d} (hcall : s.calls task = some ⟨d, .waiting⟩) (hfree : s.owner = none) :
      Step s (.enter task d.key)
        { s.setCall task (some ⟨d, .exchanging true⟩) with owner := some task }
  | reuse {s task d} (hcall : s.calls task = some ⟨d, .waiting⟩) (hown : s.owner = some task) :
      Step s (.enter task d.key) (s.setCall task (some ⟨d, .exchanging false⟩))
  | reply {s task d owned outcome} (hcall : s.calls task = some ⟨d, .exchanging owned⟩) :
      Step s (.reply task outcome)
        { s.setCall task none with
          session := (finish s.session d outcome).2
          owner := ownerAfter s.owner (.exchanging owned) }
  | cancel {s task p} (hcall : s.calls task = some p) :
      Step s (.cancel task) { s.setCall task none with owner := ownerAfter s.owner p.phase }
  | hold {s task} (hidle : s.calls task = none) (hfree : s.owner = none) :
      Step s (.hold task) { s with owner := some task }
  | release {s task} (hidle : s.calls task = none) (hown : s.owner = some task) :
      Step s (.release task) { s with owner := none }
  | bindRegistry {s registry} :
      Step s (.bindRegistry registry) { s with session := { s.session with registry := registry } }

def Unsupported (s : State) (key : String) : Prop :=
  s.session.availability.lookup key = some .unsupported

def Quiet (s : State) : Prop := ∀ task, s.calls task = none

/-- While a reply marks a key, no other call for that key is past its availability check. -/
def NoRival (s : State) : Event → Prop
  | .reply task outcome =>
    ∀ p, s.calls task = some p → Marks p.dispatch outcome →
      ∀ other q, other ≠ task → s.calls other = some q → q.dispatch.key ≠ p.dispatch.key
  | _ => True

def Checked (s : State) : Prop :=
  ∀ task p, s.calls task = some p → ¬ Unsupported s p.dispatch.key

variable {lib} {s t : State} {e : Event} {key : String}

@[simp] theorem setCall_calls (task task' : ℕ) (p : Option Pending) :
    (s.setCall task p).calls task' = if task' = task then p else s.calls task' := by
  simp [State.setCall, Function.update_apply]

@[simp] theorem setCall_session (task : ℕ) (p : Option Pending) :
    (s.setCall task p).session = s.session := rfl

theorem prepareCall_supported {confirm : Bool} {i : Invocation} {d : Dispatch ParameterEntry}
    (h : prepareCall lib s.session confirm i = .ok d) : ¬ Unsupported s d.key := by
  cases i with
  | read request =>
    obtain ⟨variant, -, -, ha, -, wire, -, rfl⟩ := prepare_ok_iff.mp h
    exact ha
  | write request =>
    obtain ⟨variant, -, -, ha, -, wire, -, rfl⟩ := prepare_ok_iff.mp h
    exact ha

theorem Checked.set_of_key {task : ℕ} {d : Dispatch ParameterEntry} {phase : Phase}
    (h : Checked s) (hd : ¬ Unsupported s d.key) :
    Checked (s.setCall task (some ⟨d, phase⟩)) := by
  intro other p hp
  rw [setCall_calls] at hp
  split at hp
  · cases hp
    exact hd
  · exact h other p hp

theorem Checked.set_none {task : ℕ} (h : Checked s) : Checked (s.setCall task none) := by
  intro other p hp
  rw [setCall_calls] at hp
  split at hp
  · cases hp
  · exact h other p hp

theorem Checked.reply {task : ℕ} {d : Dispatch ParameterEntry} {owned : Bool}
    {outcome : Result WireReply} (h : Checked s)
    (hcall : s.calls task = some ⟨d, .exchanging owned⟩)
    (hrival : NoRival s (.reply task outcome)) {other : ℕ} {q : Pending}
    (hother : other ≠ task) (hq : s.calls other = some q) :
    (finish s.session d outcome).2.availability.lookup q.dispatch.key ≠ some .unsupported := by
  intro hmarked
  obtain ⟨hkey, hmarks⟩ := finish_marks (h other q hq) hmarked
  exact hrival _ hcall hmarks other q hother hq hkey

theorem step_checked (h : Checked s) (hs : Guarded (Step lib) NoRival s e t) : Checked t := by
  obtain ⟨hrival, hs⟩ := hs
  cases hs with
  | start hidle hd => exact h.set_of_key (prepareCall_supported hd)
  | refuse hidle he => exact h
  | acquire hcall hfree => exact h.set_of_key (h _ _ hcall)
  | reuse hcall hown => exact h.set_of_key (h _ _ hcall)
  | reply hcall =>
    intro other q hq
    have hq' := (setCall_calls (s := s) _ other none).symm.trans hq
    split at hq'
    · cases hq'
    · rename_i hother
      exact h.reply hcall hrival hother hq'
  | cancel hcall => exact h.set_none
  | hold hidle hfree => exact h
  | release hidle hown => exact h
  | bindRegistry => exact h

theorem step_sticky (h : Checked s) (hkey : Unsupported s key) (hs : Step lib s e t) :
    Unsupported t key := by
  cases hs with
  | start hidle hd => exact hkey
  | refuse hidle he => exact hkey
  | acquire hcall hfree => exact hkey
  | reuse hcall hown => exact hkey
  | reply hcall =>
    refine (finish_other ?_).trans hkey
    rintro rfl
    exact h _ _ hcall hkey
  | cancel hcall => exact hkey
  | hold hidle hfree => exact hkey
  | release hidle hown => exact hkey
  | bindRegistry => exact hkey

theorem step_not_entered (h : Checked s) (hkey : Unsupported s key) (hs : Step lib s e t)
    (task : ℕ) : e ≠ .enter task key := by
  intro he
  cases hs with
  | acquire hcall hfree =>
    cases he
    exact h _ _ hcall hkey
  | reuse hcall hown =>
    cases he
    exact h _ _ hcall hkey
  | _ => cases he

theorem quiet_checked (h : Quiet s) : Checked s := by
  intro task p hp
  rw [h task] at hp
  cases hp

/-- In every interleaving in which no mark meets a rival, an unsupported key stays unsupported and
no further request for it reaches the client. -/
theorem unsupported_sticky {u : State} {es es' : List Event} (hquiet : Quiet s)
    (hbefore : Run (Guarded (Step lib) NoRival) s es u) (hkey : Unsupported u key)
    (hafter : Run (Guarded (Step lib) NoRival) u es' t) :
    Unsupported t key ∧ ∀ task, .enter task key ∉ es' := by
  have hchecked : Checked u :=
    hbefore.invariant Checked (fun _ _ _ h hs => step_checked h hs) (quiet_checked hquiet)
  have hstep : ∀ s e t, Checked s ∧ Unsupported s key → Guarded (Step lib) NoRival s e t →
      (Checked t ∧ Unsupported t key) ∧ ∀ task, e ≠ .enter task key := by
    rintro s e t ⟨hc, hk⟩ hs
    exact ⟨⟨step_checked hc hs, step_sticky hc hk hs.2⟩, step_not_entered hc hk hs.2⟩
  constructor
  · exact (hafter.invariant _ (fun s e t h hs => (hstep s e t h hs).1) ⟨hchecked, hkey⟩).2
  · intro task hmem
    exact hafter.forall_event _ hstep ⟨hchecked, hkey⟩ _ hmem task rfl

def raceRequest : ReadParameterRequest := ⟨.id 4001, 1⟩

def raceDispatch : Dispatch ParameterEntry :=
  ⟨cacheKey byteSession (readParameter wordModbus) raceRequest,
    .payload [0x01, 0x03, 0x01, 0x04, 0x01, 0x01],
    Variant.decode byteSession.context raceRequest (.stdbus ⟨readStdBusEncode, readStdBusDecode⟩)⟩

theorem raceDispatch_prepared :
    prepareCall wordModbus byteSession false (.read raceRequest) = .ok raceDispatch :=
  prepare_ok_iff.mpr ⟨.stdbus ⟨readStdBusEncode, readStdBusDecode⟩, rfl, by decide +kernel,
    by decide, by decide, _, by decide +kernel, rfl⟩

def sideRequest : WriteParameterRequest := ⟨.id 4001, .num (.int 5), 2⟩

def sideDispatch : Dispatch ParameterEntry :=
  ⟨cacheKey byteSession (writeParameter wordModbus) sideRequest,
    .payload [0x01, 0x04, 0x04, 0x01, 0x02, 0x01, 0x05],
    Variant.decode byteSession.context sideRequest (.stdbus ⟨writeStdBusEncode, writeStdBusDecode⟩)⟩

theorem sideDispatch_prepared :
    prepareCall wordModbus byteSession true (.write sideRequest) = .ok sideDispatch :=
  prepare_ok_iff.mpr ⟨.stdbus ⟨writeStdBusEncode, writeStdBusDecode⟩, rfl, by decide +kernel,
    by decide, by decide, _, by decide +kernel, rfl⟩

def noSuchObject : Result WireReply :=
  .ok (.frame ⟨⟨dataNotExpectingReply, 0x00, 0x10, [0x02, 0x81]⟩, .errorResponse 0x81, []⟩)

def atRest : State := ⟨byteSession, none, fun _ => none⟩

def waitingAlone : State := atRest.setCall 0 (some ⟨raceDispatch, .waiting⟩)

def besideWrite : State := waitingAlone.setCall 1 (some ⟨sideDispatch, .waiting⟩)

def readExchanging : State :=
  { besideWrite.setCall 0 (some ⟨raceDispatch, .exchanging true⟩) with owner := some 0 }

def readRejected : State :=
  { readExchanging.setCall 0 none with
    session := (finish byteSession raceDispatch noSuchObject).2
    owner := none }

def writeExchanging : State :=
  { readRejected.setCall 1 (some ⟨sideDispatch, .exchanging true⟩) with owner := some 1 }

theorem raceKey_unsupported :
    (finish byteSession raceDispatch noSuchObject).2.availability.lookup raceDispatch.key =
      some .unsupported := by decide +kernel

theorem readRejected_run : Run (Guarded (Step wordModbus) NoRival) atRest
    [.start 0 (.read raceRequest) false, .start 1 (.write sideRequest) true,
      .enter 0 raceDispatch.key, .reply 0 noSuchObject] readRejected := by
  have hrival : NoRival readExchanging (.reply 0 noSuchObject) := by
    intro p hp _ other q hother hq
    have hread : readExchanging.calls 0 = some ⟨raceDispatch, .exchanging true⟩ := rfl
    cases hread.symm.trans hp
    simp only [readExchanging, besideWrite, setCall_calls, hother, if_false] at hq
    split at hq
    · cases hq
      decide
    · simp [waitingAlone, atRest, hother] at hq
  exact .cons ⟨trivial, .start rfl raceDispatch_prepared⟩
    (.cons ⟨trivial, .start rfl sideDispatch_prepared⟩
      (.cons ⟨trivial, .acquire rfl rfl⟩ (.cons ⟨hrival, .reply rfl⟩ (.nil _))))

/-- A read that the device rejects while another task waits with a write. The next read is refused
at the gate, the write goes ahead. -/
theorem readRejected_sticky :
    Unsupported writeExchanging raceDispatch.key ∧ ∀ task, .enter task raceDispatch.key ∉
      [Event.start 0 (.read raceRequest) false, .enter 1 sideDispatch.key] := by
  have hrefused : Refused readRejected.session (readParameter wordModbus) raceRequest false :=
    .unavailable raceKey_unsupported
  obtain ⟨e, he⟩ := hrefused.prepare
  exact unsupported_sticky (fun _ => rfl) readRejected_run raceKey_unsupported
    (.cons ⟨trivial, .refuse rfl he⟩ (.cons ⟨trivial, .acquire rfl rfl⟩ (.nil _)))

def bothWaiting : State :=
  waitingAlone.setCall 1 (some ⟨raceDispatch, .waiting⟩)

def firstExchanging : State :=
  { bothWaiting.setCall 0 (some ⟨raceDispatch, .exchanging true⟩) with owner := some 0 }

def firstRejected : State :=
  { firstExchanging.setCall 0 none with
    session := (finish byteSession raceDispatch noSuchObject).2
    owner := none }

theorem firstRejected_run : Run (Step wordModbus) atRest
    [.start 0 (.read raceRequest) false, .start 1 (.read raceRequest) false,
      .enter 0 raceDispatch.key, .reply 0 noSuchObject] firstRejected :=
  .cons (.start rfl raceDispatch_prepared) (.cons (.start rfl raceDispatch_prepared)
    (.cons (.acquire rfl rfl) (.cons (.reply rfl) (.nil _))))

/-- The second call passed the check before the first was rejected, and is sent after it. -/
theorem waiting_call_sent :
    ¬ ∀ (s u t : State) (es es' : List Event) (key : String), Quiet s →
      Run (Step wordModbus) s es u → Unsupported u key → Run (Step wordModbus) u es' t →
      Unsupported t key ∧ ∀ task, .enter task key ∉ es' := by
  intro h
  have hsecond : Run (Step wordModbus) firstRejected [.enter 1 raceDispatch.key] _ :=
    .cons (.acquire rfl rfl) (.nil _)
  exact (h _ _ _ _ _ _ (fun _ => rfl) firstRejected_run raceKey_unsupported hsecond).2 1
    (List.mem_singleton.mpr rfl)

end SessionInterleaving
