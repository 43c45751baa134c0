import Watlowlib.ManagerPolling

/-! # The blocking manager

`SyncWatlowManager` runs the calls of a manager on a portal, strips a group of one exception from
what they raise, and keeps the wrapper that it has made for a name. The calls of a block answer what
the manager itself would answer, and the wrapper of a name is one object for as long as the name is
registered. -/
namespace SyncManagers

open Dictionaries ExceptRules Manager ManagerCalls ManagerPolling ManagerPorts SessionExecute
  WatlowErrors

section Portals

/-- What a caller can catch: an error by itself, the facade's own `RuntimeError`, or a group. -/
inductive Raised where
  | alone (e : PyError)
  | runtimeError (message : String)
  | group (members : List Raised)

def unwrapSingleGroup : Raised → Raised
  | .group [r] => unwrapSingleGroup r
  | r => r

variable {α : Type}

def alone : Result α → Except Raised α
  | .ok a => .ok a
  | .error e => .error (.alone e)

/-- `SyncPortal.call` on what the coroutine ended with. -/
def portalCall : Except Raised α → Except Raised α
  | .ok a => .ok a
  | .error r => .error (unwrapSingleGroup r)

@[simp] theorem portalCall_alone (r : Result α) : portalCall (alone r) = alone r := by
  cases r with
  | ok a => rfl
  | error e => simp [alone, portalCall, unwrapSingleGroup]

def closeRaised : Except CloseError Unit → Except Raised Unit
  | .ok u => .ok u
  | .error (.group errors) => .error (.group (errors.map .alone))
  | .error (.passed e) => .error (.alone e)

end Portals

def getController (name : String) (m : Manager.State) : Result Controller :=
  match m.devices.lookup name with
  | some d => .ok d.controller
  | none => .error (unknownName name)

section Facade

/-- A wrapper is an object of its own, over a controller. -/
structure SyncController where
  id : ℕ
  controller : Controller

inductive SyncSource where
  | wrapped (w : SyncController)
  | plain (source : Source)

def unwrapSyncController : SyncSource → Source
  | .wrapped w => .controller w.controller
  | .plain source => source

structure AddOptions where
  protocol : ProtocolKind := .stdbus
  address : ℤ := 1
  serialSettings : Option SerialSettings := none
  profile : DeviceProfile
  assertUnit : Option UnitArg := none

def AddOptions.args (options : AddOptions) (name : String) (source : SyncSource) : AddArgs :=
  ⟨name, unwrapSyncController source, options.protocol, options.address, options.serialSettings,
    options.profile, options.assertUnit⟩

/-- The facade, with the number of the wrappers that it has made. -/
structure State where
  entered : Bool
  mgr : Option Manager.State
  wrapped : Dict String SyncController
  madeWrappers : ℕ

def State.new : State := ⟨false, none, ∅, 0⟩

def requireMgr (s : State) : Except Raised Manager.State :=
  match s.mgr with
  | none => .error (.runtimeError "SyncWatlowManager is not open")
  | some m => .ok m

def enter (callers : ℕ → Transport) (s : State) : Except Raised Unit × State :=
  if s.entered then
    (.error (.runtimeError "SyncWatlowManager is not reusable after exit"), s)
  else (.ok ⟨⟩, { s with entered := true, mgr := some (Manager.initial callers) })

/-- `wrap_controller`, with the wrapper stored under the name. -/
def wrapController (name : String) (c : Controller) (s : State) :
    Except Raised SyncController × State :=
  (.ok ⟨s.madeWrappers, c⟩,
    { s with
      wrapped := s.wrapped.insert name ⟨s.madeWrappers, c⟩
      madeWrappers := s.madeWrappers + 1 })

def add (env : AddEnv) (name : String) (source : SyncSource) (options : AddOptions) (s : State) :
    Except Raised SyncController × State :=
  andThen (requireMgr s, s) fun m s =>
    let r := Manager.add env (options.args name source) m
    andThen (portalCall (alone r.1), { s with mgr := some r.2 }) (wrapController name)

def remove (ends : String → PortEnds) (name : String) (s : State) : Except Raised Unit × State :=
  andThen (requireMgr s, s) fun m s =>
    let r := Manager.remove ends name m
    (portalCall (alone r.1), { s with mgr := some r.2, wrapped := s.wrapped.erase name })

def get (name : String) (s : State) : Except Raised SyncController × State :=
  match s.wrapped.lookup name with
  | some w => (.ok w, s)
  | none =>
    andThen (requireMgr s, s) fun m s =>
    andThen (alone (getController name m), s) (wrapController name)

def close (ends : String → PortEnds) (s : State) : Except Raised Unit × State :=
  match s.mgr with
  | none => (.ok ⟨⟩, { s with wrapped := ∅ })
  | some m =>
    let r := Manager.close false ends m
    (portalCall (closeRaised r.1), { s with mgr := some r.2, wrapped := ∅ })

/-- `__exit__` leaves the context of the manager itself, which does not go through
`SyncPortal.call`. -/
def exit (inFlight : Bool) (ends : String → PortEnds) (s : State) : Except Raised Unit × State :=
  let left := { s with mgr := none, wrapped := ∅ }
  match s.mgr with
  | none => (.ok ⟨⟩, left)
  | some m => (closeRaised (Manager.close inFlight ends m).1, left)

end Facade

section Blocks

/-- A call in a `with` block, with what the world decides in it. In between, a caller opens and
closes transports of its own. -/
inductive Call where
  | add (env : AddEnv) (name : String) (source : SyncSource) (options : AddOptions)
  | remove (ends : String → PortEnds) (name : String)
  | get (name : String)
  | close (ends : String → PortEnds)
  | useTransport (id : ℕ) (isOpen : Bool)

/-- An exception, a controller, or none where the method returns none. -/
abbrev Answer (γ : Type) := Except Raised (Option γ)

def perform : Call → State → Answer SyncController × State
  | .add env name source options, s =>
    ((add env name source options s).1.map some, (add env name source options s).2)
  | .remove ends name, s => ((remove ends name s).1.map fun _ => none, (remove ends name s).2)
  | .get name, s => ((get name s).1.map some, (get name s).2)
  | .close ends, s => ((close ends s).1.map fun _ => none, (close ends s).2)
  | .useTransport id isOpen, s =>
    (.ok none, { s with mgr := s.mgr.map fun m => m.setOpen (.caller id) isOpen })

def direct : Call → Manager.State → Answer Controller × Manager.State
  | .add env name source options, m =>
    let r := Manager.add env (options.args name source) m
    ((alone r.1).map some, r.2)
  | .remove ends name, m =>
    let r := Manager.remove ends name m
    ((alone r.1).map fun _ => none, r.2)
  | .get name, m => ((alone (getController name m)).map some, m)
  | .close ends, m =>
    let r := Manager.close false ends m
    ((closeRaised r.1).map fun _ => none, r.2)
  | .useTransport id isOpen, m => (.ok none, m.setOpen (.caller id) isOpen)

def callEach {α σ : Type} (call : Call → σ → α × σ) : List Call → σ → List α × σ
  | [], s => ([], s)
  | c :: calls, s =>
    let r := call c s
    let later := callEach call calls r.2
    (r.1 :: later.1, later.2)

theorem callEach_append {α σ : Type} (call : Call → σ → α × σ) (before later : List Call) (s : σ) :
    (callEach call (before ++ later) s).2 =
      (callEach call later (callEach call before s).2).2 := by
  induction before generalizing s with
  | nil => rfl
  | cons c before ih => exact ih _

end Blocks

section Mirrors

/-- What an answer is without the wrapper. -/
def bare : Answer SyncController → Answer Controller := Except.map (Option.map (·.controller))

/-- The facade is open on the manager, its wrappers are of what the manager has under their names,
and no two are one object. -/
structure Mirrors (s : State) (m : Manager.State) : Prop where
  mgr : s.mgr = some m
  registered : Registered m
  known : ∀ {name w}, s.wrapped.lookup name = some w → getController name m = .ok w.controller
  numbered : ∀ {name w}, s.wrapped.lookup name = some w → w.id < s.madeWrappers
  apart : ∀ {i j v w}, s.wrapped.lookup i = some v → s.wrapped.lookup j = some w →
    v.id = w.id → i = j

variable {s : State} {m : Manager.State}

theorem requireMgr_open (h : s.mgr = some m) : requireMgr s = .ok m := by
  simp [requireMgr, h]

theorem add_devices {env : AddEnv} {args : AddArgs} {r : Result Controller} {t : Manager.State}
    (h : Registered m) (hr : Manager.add env args m = (r, t)) :
    ((∃ e, r = .error e) ∧ t.devices = m.devices) ∨
    ∃ c key, r = .ok c ∧ m.devices.lookup args.name = none ∧
      t.devices = m.devices.insert args.name ⟨args.name, c, key⟩ := by
  rcases add_cases hr with ⟨e, rfl, rfl⟩ | ⟨unit, hcheck, hcases⟩
  · exact Or.inl ⟨⟨e, rfl⟩, rfl⟩
  · have hnew := (checkAdd_ok hcheck).2
    rcases hcases with ⟨c, -, -, rfl, rfl⟩ | ⟨key, settings, x, u, -, hsource, hx, rfl, hends⟩
    · exact Or.inr ⟨c, none, rfl, hnew, register_devices _ _ _ _⟩
    · have hdevices : u.devices = m.devices := (acquirePort_settled hsource h hx).frame.devices
      rcases hends with ⟨e, rfl, rfl⟩ | ⟨c, rfl, rfl⟩
      · exact Or.inl ⟨⟨e, rfl⟩, hdevices⟩
      · refine Or.inr ⟨c, some key, rfl, hnew, ?_⟩
        rw [register_devices, hdevices]

theorem remove_devices (h : Registered m) (ends : String → PortEnds) {name name' : String}
    (hne : name' ≠ name) :
    (Manager.remove ends name m).2.devices.lookup name' = m.devices.lookup name' := by
  cases hr : Manager.remove ends name m with
  | mk r t =>
    rcases remove_cases hr with ⟨-, rfl⟩ | ⟨d, -, hd, hteardown⟩
    · rfl
    · change t.devices.lookup name' = m.devices.lookup name'
      rw [(teardownDevice_devices h hd hteardown).1]
      exact AList.lookup_erase_ne hne

theorem Mirrors.moves {m' : Manager.State} {wrapped : Dict String SyncController}
    (h : Mirrors s m) (hm' : Registered m')
    (hkept : ∀ {name w}, wrapped.lookup name = some w →
      s.wrapped.lookup name = some w ∧ m'.devices.lookup name = m.devices.lookup name) :
    Mirrors { s with mgr := some m', wrapped := wrapped } m' := by
  refine ⟨rfl, hm', ?_, ?_, ?_⟩
  · intro name w hw
    obtain ⟨hold, hsame⟩ := hkept hw
    rw [getController, hsame]
    exact h.known hold
  · intro name w hw
    exact h.numbered (hkept hw).1
  · intro i j v w hv hw hid
    exact h.apart (hkept hv).1 (hkept hw).1 hid

theorem Mirrors.wraps {name : String} {c : Controller} (h : Mirrors s m)
    (hc : getController name m = .ok c) : Mirrors (wrapController name c s).2 m := by
  refine ⟨h.mgr, h.registered, ?_, ?_, ?_⟩
  · intro name' w hw
    rcases lookup_insert_cases hw with ⟨rfl, rfl⟩ | ⟨-, hw⟩
    · exact hc
    · exact h.known hw
  · intro name' w hw
    change w.id < s.madeWrappers + 1
    rcases lookup_insert_cases hw with ⟨-, rfl⟩ | ⟨-, hw⟩
    · exact Nat.lt_succ_self s.madeWrappers
    · have hold := h.numbered hw
      omega
  · intro i j v w hv hw hid
    refine insert_apart (R := fun v w => v.id = w.id) Eq.symm h.apart ?_ hv hw hid
    intro i v _ hv heq
    have hid := h.numbered hv
    change s.madeWrappers = v.id at heq
    omega

theorem getController_of_lookup {name : String} {d : DeviceEntry}
    (hd : m.devices.lookup name = some d) : getController name m = .ok d.controller := by
  simp [getController, hd]

theorem Mirrors.registered_name {name : String} {w : SyncController} (h : Mirrors s m)
    (hw : s.wrapped.lookup name = some w) : ∃ d, m.devices.lookup name = some d := by
  have hknown := h.known hw
  cases hd : m.devices.lookup name with
  | none => simp [getController, hd] at hknown
  | some d => exact ⟨d, rfl⟩

theorem add_mirrors (h : Mirrors s m) (env : AddEnv) (name : String) (source : SyncSource)
    (options : AddOptions) :
    bare (perform (.add env name source options) s).1 =
        portalCall (direct (.add env name source options) m).1 ∧
      Mirrors (perform (.add env name source options) s).2
        (direct (.add env name source options) m).2 := by
  simp only [perform, add, direct, requireMgr_open h.mgr, andThen_ok, portalCall_alone]
  cases hr : Manager.add env (options.args name source) m with
  | mk r t =>
    have ht : Registered t := add_registered h.registered hr
    rcases add_devices h.registered hr with
      ⟨⟨e, rfl⟩, hdevices⟩ | ⟨c, key, rfl, hnew, hdevices⟩
    · refine ⟨by simp [bare, alone, portalCall, unwrapSingleGroup, Except.map, andThen], ?_⟩
      exact h.moves ht fun hw => ⟨hw, by rw [hdevices]⟩
    · refine ⟨rfl, Mirrors.wraps (h.moves ht ?_) ?_⟩
      · intro name' w hw
        obtain ⟨d, hd⟩ := h.registered_name hw
        have hne : name' ≠ name := by
          rintro rfl
          cases hnew.symm.trans hd
        refine ⟨hw, ?_⟩
        rw [hdevices]
        exact AList.lookup_insert_ne hne
      · refine getController_of_lookup (d := ⟨name, c, key⟩) ?_
        rw [hdevices]
        exact AList.lookup_insert _

theorem remove_mirrors (h : Mirrors s m) (ends : String → PortEnds) (name : String) :
    bare (perform (.remove ends name) s).1 = portalCall (direct (.remove ends name) m).1 ∧
      Mirrors (perform (.remove ends name) s).2 (direct (.remove ends name) m).2 := by
  simp only [perform, remove, direct, requireMgr_open h.mgr, andThen_ok, portalCall_alone]
  constructor
  · cases (Manager.remove ends name m).1 with
    | ok u => rfl
    | error e => simp [bare, alone, portalCall, unwrapSingleGroup, Except.map]
  · refine h.moves (remove_registered h.registered rfl) ?_
    intro name' w hw
    have hne : name' ≠ name := by
      rintro rfl
      rw [AList.lookup_erase] at hw
      cases hw
    rw [AList.lookup_erase_ne hne] at hw
    exact ⟨hw, remove_devices h.registered ends hne⟩

theorem get_mirrors (h : Mirrors s m) (name : String) :
    bare (perform (.get name) s).1 = portalCall (direct (.get name) m).1 ∧
      Mirrors (perform (.get name) s).2 (direct (.get name) m).2 := by
  simp only [perform, get, direct]
  cases hw : s.wrapped.lookup name with
  | some w =>
    rw [h.known hw]
    exact ⟨rfl, h⟩
  | none =>
    simp only [requireMgr_open h.mgr, andThen_ok]
    cases hc : getController name m with
    | ok c => exact ⟨rfl, h.wraps hc⟩
    | error e =>
      refine ⟨?_, h⟩
      simp [bare, alone, portalCall, unwrapSingleGroup, Except.map, andThen]

theorem close_mirrors (h : Mirrors s m) (ends : String → PortEnds) :
    bare (perform (.close ends) s).1 = portalCall (direct (.close ends) m).1 ∧
      Mirrors (perform (.close ends) s).2 (direct (.close ends) m).2 := by
  simp only [perform, close, direct, h.mgr]
  constructor
  · cases closeRaised (Manager.close false ends m).1 with
    | ok u => rfl
    | error e => rfl
  · refine h.moves (close_registered h.registered rfl) ?_
    intro name w hw
    cases hw

theorem perform_mirrors (h : Mirrors s m) (c : Call) :
    bare (perform c s).1 = portalCall (direct c m).1 ∧
      Mirrors (perform c s).2 (direct c m).2 := by
  cases c with
  | add env name source options => exact add_mirrors h env name source options
  | remove ends name => exact remove_mirrors h ends name
  | get name => exact get_mirrors h name
  | close ends => exact close_mirrors h ends
  | useTransport id isOpen =>
    refine ⟨rfl, ?_⟩
    simp only [perform, direct, h.mgr, Option.map_some]
    exact h.moves (setOpen_registered h.registered _ _) fun hw => ⟨hw, rfl⟩

theorem callEach_mirrors (h : Mirrors s m) (calls : List Call) :
    (callEach perform calls s).1.map bare = (callEach direct calls m).1.map portalCall ∧
      Mirrors (callEach perform calls s).2 (callEach direct calls m).2 := by
  induction calls generalizing s m with
  | nil => exact ⟨rfl, h⟩
  | cons c calls ih =>
    obtain ⟨hanswer, hnext⟩ := perform_mirrors h c
    obtain ⟨hanswers, hlast⟩ := ih hnext
    refine ⟨?_, hlast⟩
    simp only [callEach, List.map_cons, hanswer, hanswers]

theorem enter_mirrors (callers : ℕ → Transport) :
    Mirrors (enter callers State.new).2 (Manager.initial callers) := by
  refine ⟨rfl, initial_registered callers, ?_, ?_, ?_⟩
  · intro name w hw
    cases hw
  · intro name w hw
    cases hw
  · intro i j v w hv
    cases hv

end Mirrors

section Results

def opened (callers : ℕ → Transport) : State := (enter callers State.new).2

/-- A block of calls answers what the manager itself would answer, behind the portal, and leaves it
in the same state. Leaving the block raises what the manager's own context raises. -/
theorem block_transparent (callers : ℕ → Transport) (calls : List Call) (inFlight : Bool)
    (ends : String → PortEnds) :
    (callEach perform calls (opened callers)).1.map bare =
        (callEach direct calls (Manager.initial callers)).1.map portalCall ∧
      (callEach perform calls (opened callers)).2.mgr =
        some (callEach direct calls (Manager.initial callers)).2 ∧
      (exit inFlight ends (callEach perform calls (opened callers)).2).1 =
        closeRaised (Manager.close inFlight ends
          (callEach direct calls (Manager.initial callers)).2).1 := by
  obtain ⟨hanswers, hlast⟩ := callEach_mirrors (enter_mirrors callers) calls
  refine ⟨hanswers, hlast.mgr, ?_⟩
  simp only [exit, opened, hlast.mgr]

/-- The call answers with the wrapper of the name, if it answers with one. -/
def Gives (name : String) : Call → Prop
  | .add _ name' _ _ => name' = name
  | .get name' => name' = name
  | _ => False

/-- The call drops the wrapper of the name, however it ends. -/
def Drops (name : String) : Call → Prop
  | .remove _ name' => name' = name
  | .close _ => True
  | _ => False

variable {s : State} {m : Manager.State} {name : String} {w : SyncController}

theorem gives_unique {c : Call} {i j : String} (hi : Gives i c) (hj : Gives j c) : i = j := by
  cases c <;> simp_all [Gives]

/-- What a call does to the wrappers: it makes one for a name that has none, it hands out the one of
a name, or it gives none and keeps those of the names that it does not drop. -/
inductive Wraps (c : Call) (s : State) : Answer SyncController × State → Prop where
  | makes {name v t} (hname : Gives name c) (hnew : s.wrapped.lookup name = none)
      (hid : v.id = s.madeWrappers) (hmade : t.madeWrappers = s.madeWrappers + 1)
      (hwrapped : t.wrapped = s.wrapped.insert name v) : Wraps c s (.ok (some v), t)
  | hands {name v} (hname : Gives name c) (hold : s.wrapped.lookup name = some v) :
      Wraps c s (.ok (some v), s)
  | keeps {a t} (hnone : ∀ v, a ≠ .ok (some v)) (hmade : t.madeWrappers = s.madeWrappers)
      (hkept : ∀ {name v}, t.wrapped.lookup name = some v ↔
        s.wrapped.lookup name = some v ∧ ¬ Drops name c) : Wraps c s (a, t)

theorem add_wraps (h : Mirrors s m) (env : AddEnv) (name : String) (source : SyncSource)
    (options : AddOptions) :
    Wraps (.add env name source options) s (perform (.add env name source options) s) := by
  simp only [perform, add, requireMgr_open h.mgr, andThen_ok, portalCall_alone]
  cases hr : Manager.add env (options.args name source) m with
  | mk r t =>
    rcases add_devices h.registered hr with ⟨⟨e, rfl⟩, -⟩ | ⟨c, key, rfl, hnew, -⟩
    · refine .keeps ?_ rfl ?_
      · intro v
        simp [alone, andThen, Except.map]
      · simp [alone, andThen, Drops]
    · have hfree : s.wrapped.lookup name = none := by
        by_contra hsome
        obtain ⟨w, hw⟩ := Option.ne_none_iff_exists'.mp hsome
        obtain ⟨d, hd⟩ := h.registered_name hw
        cases hnew.symm.trans hd
      exact .makes rfl hfree rfl rfl rfl

theorem get_wraps (h : Mirrors s m) (name : String) :
    Wraps (.get name) s (perform (.get name) s) := by
  simp only [perform, get]
  cases hw : s.wrapped.lookup name with
  | some w => exact .hands rfl hw
  | none =>
    simp only [requireMgr_open h.mgr, andThen_ok]
    cases getController name m with
    | ok c => exact .makes rfl hw rfl rfl rfl
    | error e =>
      refine .keeps ?_ rfl ?_
      · intro v
        simp [alone, andThen, Except.map]
      · simp [alone, andThen, Drops]

theorem perform_wraps (h : Mirrors s m) (c : Call) : Wraps c s (perform c s) := by
  cases c with
  | add env name source options => exact add_wraps h env name source options
  | get name => exact get_wraps h name
  | remove ends name =>
    simp only [perform, remove, requireMgr_open h.mgr, andThen_ok, portalCall_alone]
    generalize Manager.remove ends name m = r
    refine .keeps ?_ rfl ?_
    · intro v
      cases r.1 <;> simp [alone, Except.map]
    · intro name' v
      rw [lookup_erase_eq]
      by_cases hne : name' = name
      · simp [Drops, hne]
      · simp [Drops, hne, Ne.symm hne]
  | close ends =>
    simp only [perform, close, h.mgr]
    generalize Manager.close false ends m = r
    refine .keeps ?_ rfl ?_
    · intro v
      cases closeRaised r.1 <;> simp [portalCall, Except.map]
    · intro name v
      simp [Drops]
  | useTransport id isOpen =>
    simp only [perform]
    refine .keeps ?_ rfl ?_
    · simp
    · simp [Drops]

theorem perform_keeps {c : Call} (h : Mirrors s m) (hw : s.wrapped.lookup name = some w)
    (hc : ¬ Drops name c) : (perform c s).2.wrapped.lookup name = some w := by
  have hwraps := perform_wraps h c
  generalize perform c s = r at hwraps ⊢
  cases hwraps with
  | makes hname hnew hid hmade hwrapped =>
    rename_i name' v t
    have hne : name ≠ name' := by
      rintro rfl
      cases hnew.symm.trans hw
    change t.wrapped.lookup name = some w
    rw [hwrapped, AList.lookup_insert_ne hne, hw]
  | hands hname hold => exact hw
  | keeps hnone hmade hkept => exact hkept.mpr ⟨hw, hc⟩

theorem gives_stored {c : Call} (h : Mirrors s m) (hgives : Gives name c)
    (hw : (perform c s).1 = .ok (some w)) : (perform c s).2.wrapped.lookup name = some w := by
  have hwraps := perform_wraps h c
  generalize perform c s = r at hwraps hw ⊢
  cases hwraps with
  | makes hname hnew hid hmade hwrapped =>
    obtain rfl := gives_unique hname hgives
    cases hw
    exact hwrapped ▸ AList.lookup_insert _
  | hands hname hold =>
    obtain rfl := gives_unique hname hgives
    cases hw
    exact hold
  | keeps hnone hmade hkept => exact absurd hw (hnone w)

/-- The wrapper has been made, and no name has it any more. -/
structure Retired (w : SyncController) (s : State) : Prop where
  made : w.id < s.madeWrappers
  unused : ∀ {name v}, s.wrapped.lookup name = some v → v.id ≠ w.id

theorem not_gives_of_drops {c : Call} {name' : String} (hc : Drops name c) :
    ¬ Gives name' c := by
  cases c <;> simp_all [Gives, Drops]

theorem drop_retires {c : Call} (h : Mirrors s m) (hw : s.wrapped.lookup name = some w)
    (hc : Drops name c) : Retired w (perform c s).2 := by
  have hwraps := perform_wraps h c
  generalize perform c s = r at hwraps ⊢
  cases hwraps with
  | makes hname hnew hid hmade hwrapped => exact absurd hname (not_gives_of_drops hc)
  | hands hname hold => exact absurd hname (not_gives_of_drops hc)
  | keeps hnone hmade hkept =>
    refine ⟨hmade ▸ h.numbered hw, ?_⟩
    intro name' v hv hid
    obtain ⟨hold, hnot⟩ := hkept.mp hv
    obtain rfl := h.apart hold hw hid
    exact hnot hc

/-- A wrapper that no name has is not handed out, and comes back to no name. -/
theorem Retired.stays (h : Mirrors s m) (hretired : Retired w s) (c : Call) :
    (∀ v, (perform c s).1 = .ok (some v) → v.id ≠ w.id) ∧ Retired w (perform c s).2 := by
  have hold := hretired.made
  have hwraps := perform_wraps h c
  generalize perform c s = r at hwraps ⊢
  cases hwraps with
  | makes hname hnew hid hmade hwrapped =>
    refine ⟨?_, by rw [hmade]; omega, ?_⟩
    · intro u hu
      cases hu
      omega
    · intro name' u hu
      rw [hwrapped] at hu
      rcases lookup_insert_cases hu with ⟨-, rfl⟩ | ⟨-, hu⟩
      · omega
      · exact hretired.unused hu
  | hands hname hstored =>
    refine ⟨?_, hretired⟩
    intro u hu
    cases hu
    exact hretired.unused hstored
  | keeps hnone hmade hkept =>
    refine ⟨fun u hu => absurd hu (hnone u), by rw [hmade]; exact hold, ?_⟩
    intro name u hu
    exact hretired.unused (hkept.mp hu).1

theorem callEach_keeps {calls : List Call} (h : Mirrors s m)
    (hw : s.wrapped.lookup name = some w) (hcalls : ∀ c ∈ calls, ¬ Drops name c) :
    (callEach perform calls s).2.wrapped.lookup name = some w := by
  induction calls generalizing s m with
  | nil => exact hw
  | cons c calls ih =>
    obtain ⟨hfirst, hrest⟩ := List.forall_mem_cons.mp hcalls
    exact ih (perform_mirrors h c).2 (perform_keeps h hw hfirst) hrest

theorem callEach_retired (calls : List Call) {v : SyncController} (h : Mirrors s m)
    (hretired : Retired w s) (hv : .ok (some v) ∈ (callEach perform calls s).1) :
    v.id ≠ w.id := by
  induction calls generalizing s m with
  | nil => cases hv
  | cons c calls ih =>
    obtain ⟨hanswer, hnext⟩ := hretired.stays h c
    rcases List.mem_cons.mp hv with heq | hv
    · exact hanswer v heq.symm
    · exact ih (perform_mirrors h c).2 hnext hv

/-- The wrapper that a call gives for a name is what `get` gives until a call drops it, of this name
alone. After the drop, however it ended, no call gives that object again. -/
theorem wrapper_life (callers : ℕ → Transport) (before : List Call) (c : Call)
    (during : List Call) (hgives : Gives name c)
    (hw : (perform c (callEach perform before (opened callers)).2).1 = .ok (some w))
    (hduring : ∀ c ∈ during, ¬ Drops name c) :
    let t := (callEach perform (before ++ c :: during) (opened callers)).2
    (get name t).1 = .ok w ∧
      (∀ name' w', (get name' t).1 = .ok w' → w'.id = w.id → name' = name) ∧
      ∀ drop later v, Drops name drop →
        .ok (some v) ∈ (callEach perform later (perform drop t).2).1 → v.id ≠ w.id := by
  intro t
  have hbefore := (callEach_mirrors (enter_mirrors callers) before).2
  have hgiven := (perform_mirrors hbefore c).2
  have hstored : t.wrapped.lookup name = some w := by
    change (callEach perform (before ++ c :: during) (opened callers)).2.wrapped.lookup name = _
    rw [callEach_append]
    exact callEach_keeps (s := (perform c (callEach perform before (opened callers)).2).2) hgiven
      (gives_stored hbefore hgives hw) hduring
  have ht := (callEach_mirrors (enter_mirrors callers) (before ++ c :: during)).2
  refine ⟨by simp only [get, hstored], ?_, ?_⟩
  · intro name' w' hget hid
    have hother : (perform (.get name') t).1 = .ok (some w') := by
      rw [perform, hget]
      rfl
    have hkept := perform_keeps (c := .get name') ht hstored not_false
    have hnext := (perform_mirrors ht (.get name')).2
    exact hnext.apart (gives_stored ht rfl hother) hkept hid
  · intro drop later v hdrop hv
    exact callEach_retired later (perform_mirrors ht drop).2 (drop_retires ht hstored hdrop) hv

def bench : ℕ → Transport := fun _ => ⟨"", false, "", true, 0⟩

def giveOven : Call :=
  .add ⟨ManagerBookkeeping.linux, none, none, {}⟩ "oven" (.plain (.port "tty0"))
    { profile := ManagerBookkeeping.blank }

theorem oven_life :
    ∃ w, (perform giveOven (opened bench)).1 = .ok (some w) ∧
      (get "oven" (callEach perform [giveOven, .get "oven"] (opened bench)).2).1 = .ok w :=
  ⟨_, rfl, (wrapper_life bench [] giveOven [.get "oven"] rfl rfl (by simp [Drops])).1⟩

end Results

end SyncManagers
