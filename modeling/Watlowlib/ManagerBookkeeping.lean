import Watlowlib.ManagerCalls
import Watlowlib.TransitionSystem

/-! # The bookkeeping of the manager

Without a cancellation the two maps and the reference counts agree after every call, the objects of
every port work, and a call that raises has not touched the maps. -/
namespace ManagerBookkeeping

open Dictionaries Manager ManagerCalls ManagerPorts PythonValues SessionExecute TransitionSystem
  WatlowErrors

def Cancels (raised : Option PyError) : Prop := ∃ e, raised = some e ∧ e.kind = .cancelled

/-- Nothing in the call is cancelled. It may still fail anywhere. -/
def Uncancelled : Call → Prop
  | .add env _ => ¬ Cancels env.openEnd ∧ ¬ Cancels env.sessionEnd ∧ ¬ Cancelling env.ends
  | .remove ends _ => ∀ key, ¬ Cancelling (ends key)
  | .close _ ends => ∀ key, ¬ Cancelling (ends key)
  | .useTransport _ _ => True

/-- A port in use: one client, not disposed, one protocol, and all its devices run over them. -/
structure Shared (s : State) (p : PortEntry) : Prop where
  refs : p.refs ≠ ∅
  client : ∃ c, p.client = some c ∧ (s.clients c).disposed = false ∧
    p.protocol = some (s.clients c).kind ∧
    ∀ name ∈ p.refs, ∃ d, s.devices.lookup name = some d ∧ RunsOver s d p c

structure Bookkept (s : State) : Prop where
  refs : ∀ key p, s.ports.lookup key = some p → ∀ name, name ∈ p.refs ↔ On s name key
  ported : ∀ key, s.ports.lookup key = none → ∀ name, ¬ On s name key
  shared : ∀ key p, s.ports.lookup key = some p → Shared s p
  closed : s.closed = true → s.devices = ∅ ∧ s.ports = ∅

variable {s t : State}

theorem bookkept (h : Registered s) (hlive : Live s) : Bookkept s := by
  refine ⟨fun _ _ hp => h.refs hp, ?_, ?_, ?_⟩
  · intro key hnone name ⟨d, hd, hkey⟩
    obtain ⟨p, -, hp, -⟩ := h.ported hd hkey
    rw [hnone] at hp
    cases hp
  · intro key p hp
    obtain ⟨hrefs, ⟨c, hc, hdisposed⟩, -⟩ := hlive key p hp
    refine ⟨hrefs, c, hc, hdisposed, (h.client hp hc).2, ?_⟩
    intro name hname
    obtain ⟨d, hd, hkey⟩ := (h.refs hp name).mp hname
    obtain ⟨q, c', hq, hc', hruns⟩ := h.ported hd hkey
    cases hp.symm.trans hq
    cases hc.symm.trans hc'
    exact ⟨d, hd, hruns⟩
  · intro hclosed
    have hdevices := h.closed hclosed
    exact ⟨hdevices, ports_empty h (fun key p hp => (hlive key p hp).refs) hdevices⟩

theorem uncancelled_uninterrupted {c : Call} (hc : Uncancelled c) : ¬ InterruptedCall s c := by
  cases c with
  | add env args => exact fun ⟨_, _, _, hcancelled⟩ => hc.2.2 hcancelled.2.2.2.2
  | remove ends name => exact fun ⟨_, _, key, _, _, _, _, _, hint⟩ => hc key hint.2.2
  | close suppressErrors ends => exact fun ⟨_, key, _, _, _, hint⟩ => hc key hint.2.2
  | useTransport id isOpen => exact fun h => h

abbrev CallRun := Run (Guarded Performs fun _ c => Uncancelled c)

theorem run_kept {calls : List Call} (h : CallRun s calls t) (hs : Registered s ∧ Live s) :
    Registered t ∧ Live t := by
  refine h.invariant (fun s => Registered s ∧ Live s) ?_ hs
  rintro s c t ⟨hreg, hlive⟩ ⟨hc, rfl⟩
  exact ⟨perform_registered c hreg, perform_live c hreg hlive (uncancelled_uninterrupted hc)⟩

/-- The manager's books agree after any calls, and an `add` or a `remove` that raises next leaves
both maps as they are. -/
theorem calls_bookkept {callers : ℕ → Transport} {calls : List Call}
    (h : CallRun (initial callers) calls s) :
    Bookkept s ∧
    (∀ env args e t, Uncancelled (.add env args) → add env args s = (.error e, t) →
      t.devices = s.devices ∧ t.ports = s.ports) ∧
    ∀ ends name e t, Uncancelled (.remove ends name) → remove ends name s = (.error e, t) →
      t.devices = s.devices ∧ t.ports = s.ports := by
  obtain ⟨hreg, hlive⟩ := run_kept h ⟨initial_registered callers, initial_live callers⟩
  refine ⟨bookkept hreg hlive, ?_, ?_⟩
  · intro env args e t hc hr
    have hnot := uncancelled_uninterrupted (s := s) hc
    exact (add_live hreg hlive hnot hr).2.1 e rfl
  · intro ends name e t hc hr
    have hnot := uncancelled_uninterrupted (s := s) hc
    exact (remove_live hreg hlive hnot hr).2 e rfl

def linux : Platform := ⟨false, fun name => name, fun _ => none⟩

def blank : DeviceProfile := ⟨⟨[], ⟨∅, ∅⟩, by constructor <;> simp⟩, none⟩

def addPort (name port : String) (protocol : ProtocolKind) : AddArgs :=
  ⟨name, .port port, protocol, 1, none, blank, none⟩

def addOven : Call := .add ⟨linux, none, none, {}⟩ (addPort "oven" "tty0" .stdbus)

def oneOven : State := perform addOven (initial fun _ => ⟨"", false, "", true, 0⟩)

def plantCalls : List Call :=
  [addOven,
    .add ⟨linux, none, none, {}⟩ (addPort "lid" "tty0" .stdbus),
    .add ⟨linux, none, none, {}⟩ (addPort "fan" "tty0" .modbusRtu),
    .add ⟨linux, none, none, {}⟩ (addPort "fan" "tty1" .modbusRtu),
    .remove (fun _ => { closeEnd := some ⟨.connection, [], {}⟩ }) "fan"]

def plant : State :=
  plantCalls.foldl (fun s c => perform c s) (initial fun _ => ⟨"", false, "", true, 0⟩)

theorem plant_bookkept :
    (plant.ports.lookup "tty0").map (·.refs) = some {"oven", "lid"} ∧ Bookkept plant := by
  have hopen : ∀ name port protocol,
      Uncancelled (.add ⟨linux, none, none, {}⟩ (addPort name port protocol)) := by
    intro name port protocol
    simp [Uncancelled, Cancels, Cancelling]
  have hclose : Uncancelled
      (.remove (fun _ => { closeEnd := some ⟨.connection, [], {}⟩ }) "fan") := by
    simp [Uncancelled, Cancelling]
  refine ⟨by decide, ?_⟩
  exact (calls_bookkept (.cons ⟨hopen _ _ _, rfl⟩ (.cons ⟨hopen _ _ _, rfl⟩
    (.cons ⟨hopen _ _ _, rfl⟩ (.cons ⟨hopen _ _ _, rfl⟩ (.cons ⟨hclose, rfl⟩ (.nil _))))))).1

end ManagerBookkeeping
