import Watlowlib.ManagerBookkeeping

/-! # What a cancellation leaves behind

Only one await of the manager's own calls is dangerous, the `close` of a transport in a teardown.
Its cancellation leaves the port in the map with no device on it and its client disposed, and the
next `add` takes that client. A Modbus client is lost without any cancellation when a caller closes
a transport that it lent to the manager: opened again, the transport has another Bus. -/
namespace ManagerCancellation

open ExceptRules Manager ManagerBookkeeping ManagerCalls ManagerPorts PythonValues SessionExecute
  TransitionSystem WatlowErrors

variable {s t : State} {env : AddEnv} {args : AddArgs} {c : Controller}

section Adding

variable {unit : Option PollAttribution.MeasureUnit} {settings : Option SerialSettings}
  {key : String} {p : PortEntry}

theorem openController_session
    (hr : openControllerOnPort env args unit settings key p s = (.ok c, t)) :
    env.sessionEnd = none := by
  simp only [openControllerOnPort] at hr
  split at hr
  · cases hr
  split at hr
  · cases hr
  obtain ⟨_, _, -, hr⟩ := andThen_ok_iff.mp hr
  obtain ⟨_, _, -, hr⟩ := andThen_ok_iff.mp hr
  split at hr
  · cases hr
  · assumption

theorem openOrCleanUp_session {fresh : Bool}
    (hr : openOrCleanUp env args unit settings key fresh p s = (.ok c, t)) :
    env.sessionEnd = none := by
  simp only [openOrCleanUp] at hr
  split at hr
  · rename_i hopened
    exact openController_session hopened
  · split at hr
    · split at hr <;> cases hr
    · cases hr

theorem acquirePort_session (hr : acquirePort env args unit settings key s = (.ok c, t)) :
    env.sessionEnd = none := by
  simp only [acquirePort] at hr
  split at hr
  · exact openOrCleanUp_session hr
  · obtain ⟨_, _, -, hr⟩ := andThen_ok_iff.mp hr
    exact openOrCleanUp_session hr

theorem add_ok_uninterrupted (hr : add env args s = (.ok c, t)) : ¬ InterruptedAdd env args s := by
  rintro ⟨_, key, hkey, hcancelled⟩
  rcases add_cases hr with ⟨_, he, -⟩ | ⟨_, -, ⟨_, hnone, -⟩ | ⟨_, _, x, u, -, -, hx, rfl, -⟩⟩
  · cases he
  · rw [hnone] at hkey
    cases hkey
  · exact hcancelled.2.2.2.1 (acquirePort_session hx)

end Adding

/-- The client is not disposed, the transport is open, and a Bus that the client keeps is the one
the transport has. -/
structure Answering (s : State) (n : ℕ) (r : TransportRef) : Prop where
  disposed : (s.clients n).disposed = false
  isOpen : (s.transports r).isOpen = true
  bus : ∀ b, (s.clients n).bus = some b → (s.transports r).bus = some b

/-- Every port is live, and so is whatever an `add` returns next. -/
structure Survives (s : State) : Prop where
  live : Live s
  next : ∀ env args c t key, add env args s = (.ok c, t) → sourceKey env args = some key →
    ∃ n, c.client = .made n ∧ Answering t n c.transport

theorem survives (h : Registered s) (hlive : Live s) (hcurrent : Current s) : Survives s := by
  refine ⟨hlive, ?_⟩
  intro env args c t key hr hkey
  obtain ⟨⟨-, hkept⟩, -, hworks⟩ := add_live h hlive (add_ok_uninterrupted hr) hr
  obtain ⟨p, n, hp, hn, htransport, hclient, hdisposed, hopen⟩ := hworks c key rfl hkey
  refine ⟨n, hclient, hdisposed, hopen, fun b hb => ?_⟩
  rw [← htransport]
  exact hkept hcurrent key p hp n b hn hb

/-- Calls may be cancelled anywhere but in the `close` of a transport, and a caller does not close
a Modbus transport that the manager has a client on. -/
abbrev UninterruptedRun := Run (Guarded Performs fun s c => ¬ InterruptedCall s c ∧ ¬ Severs s c)

theorem uninterrupted_survives {callers : ℕ → Transport} {calls : List Call}
    (h : UninterruptedRun (initial callers) calls s) : Survives s := by
  have hall : Registered s ∧ Live s ∧ Current s := by
    refine h.invariant (fun s => Registered s ∧ Live s ∧ Current s) ?_
      ⟨initial_registered callers, initial_live callers, initial_current callers⟩
    rintro s c t ⟨hreg, hlive, hcurrent⟩ ⟨⟨hc, hkept⟩, rfl⟩
    exact ⟨perform_registered c hreg, perform_live c hreg hlive hc,
      perform_current c hreg hlive hcurrent hc hkept⟩
  exact survives hall.1 hall.2.1 hall.2.2

def cancelled : PyError := ⟨.cancelled, [], {}⟩

def removeOven : Call := .remove (fun _ => { closeEnd := some cancelled }) "oven"

def lent : ℕ → Transport := fun _ => ⟨"ModbusBusTransport", true, "tty2", true, 1⟩

def addLent (name : String) : Call := .add ⟨linux, none, none, {}⟩
  ⟨name, .transport 0, .modbusRtu, 1, none, blank, none⟩

def addFan : Call := .add ⟨linux, some cancelled, none, { closeEnd := some cancelled }⟩
  (addPort "fan" "tty1" .stdbus)

def busy : State := [addOven, addLent "mill", addFan].foldl (fun s c => perform c s) (initial lent)

theorem cancelledOpen_survives : Survives busy := by
  have hoven : ¬ InterruptedCall (initial lent) addOven :=
    uncancelled_uninterrupted (by simp [addOven, Uncancelled, Cancels, Cancelling])
  have hmill : ¬ InterruptedCall (perform addOven (initial lent)) (addLent "mill") :=
    uncancelled_uninterrupted (by simp [addLent, Uncancelled, Cancels, Cancelling])
  have hfan : ¬ InterruptedCall (perform (addLent "mill") (perform addOven (initial lent)))
      addFan := by
    rintro ⟨_, _, _, _, _, hopened, _⟩
    cases hopened
  exact uninterrupted_survives (.cons ⟨⟨hoven, id⟩, rfl⟩ (.cons ⟨⟨hmill, id⟩, rfl⟩
    (.cons ⟨⟨hfan, id⟩, rfl⟩ (.nil _))))

def halfRemoved : State := perform removeOven oneOven

/-- The removal of the last device is cancelled in the `close`. Its port stays with no device and
a client that is disposed, and the next `add` on the port succeeds with that client. -/
theorem interruptedRemoval_leaves_port :
    Run Performs (initial fun _ => ⟨"", false, "", true, 0⟩) [addOven, removeOven] halfRemoved ∧
    (halfRemoved.ports.lookup "tty0").map (fun p => (p.refs, p.client)) = some (∅, some 0) ∧
    (halfRemoved.clients 0).disposed = true ∧
    ∃ c t, add ⟨linux, none, none, {}⟩ (addPort "oven" "tty0" .stdbus) halfRemoved = (.ok c, t) ∧
      c.client = .made 0 ∧ (t.clients 0).disposed = true ∧ ¬ Survives halfRemoved := by
  refine ⟨.cons rfl (.cons rfl (.nil _)), by decide, by decide, _, _, rfl, rfl, by decide, ?_⟩
  intro h
  obtain ⟨n, hn, hdisposed, -⟩ :=
    h.next ⟨linux, none, none, {}⟩ (addPort "oven" "tty0" .stdbus) _ _ "tty0" rfl rfl
  cases hn
  cases hdisposed

/-- A caller closes the transport that it lent to the manager. The next `add` on it opens it again
and takes the client that keeps the Bus of before. -/
theorem severedBus_leaves_client :
    Run Performs (initial lent) [addLent "mill", .useTransport 0 false]
      (perform (.useTransport 0 false) (perform (addLent "mill") (initial lent))) ∧
    ¬ Survives (perform (.useTransport 0 false) (perform (addLent "mill") (initial lent))) := by
  refine ⟨.cons rfl (.cons rfl (.nil _)), fun h => ?_⟩
  obtain ⟨n, hn, hanswering⟩ := h.next ⟨linux, none, none, {}⟩
    ⟨"press", .transport 0, .modbusRtu, 1, none, blank, none⟩ _ _ "transport:0" rfl rfl
  cases hn
  exact absurd (hanswering.bus 1 rfl) (by decide)

end ManagerCancellation
