import Watlowlib.ManagerBookkeeping
import Watlowlib.TaskGroups

/-! # Polling while the registry changes

The calls that run over many devices resolve their targets once. Then a worker for each port looks
its devices up again, one after the other and without the state lock, while other tasks add and
remove devices. A target that is gone by then ends the whole call. -/
namespace ManagerPolling

open Dictionaries ExceptRules Manager ManagerBookkeeping ManagerCalls ManagerPorts PythonValues
  TaskGroups TransitionSystem WatlowErrors

variable {α : Type}

section Targets

variable (devices : Dict String DeviceEntry)

def namesRepr (names : List String) : Message :=
  .text "[" :: (names.map Piece.strRepr).intersperse (.text ", ") ++ [.text "]"]

/-- `_resolve_names`; the dictionary has the newest device first. -/
def resolveNames : Option (List String) → Result (List String)
  | none => .ok devices.keys.reverse
  | some names =>
    let unknown := names.filter fun name => (devices.lookup name).isNone
    if unknown = [] then .ok names
    else raise .validation (.text "manager: unknown controller name(s) " ::
      namesRepr (unknown.mergeSort fun a b => decide (a ≤ b)))

def addToGroup (key name : String) : List (String × List String) → List (String × List String)
  | [] => [(key, [name])]
  | (k, members) :: groups =>
    if k = key then (k, members ++ [name]) :: groups
    else (k, members) :: addToGroup key name groups

def groupKey (name : String) (d : DeviceEntry) : String :=
  match d.portKey with
  | some key => key
  | none => "solo:" ++ name

def lookUp (name : String) : Result DeviceEntry :=
  match devices.lookup name with
  | some d => .ok d
  | none => raise .keyError [.strRepr name]

def groupByPort : List String → List (String × List String) → Result (List (String × List String))
  | [], groups => .ok groups
  | name :: names, groups => do
    let d ← lookUp devices name
    groupByPort names (addToGroup (groupKey name d) name groups)

end Targets

section Calls

variable (ends : String → DeviceEntry → Except PyError α → Prop)

/-- `_run_group` of `poll` and of `execute_each`: one result at a time, and only a `WatlowError` is
caught. -/
def eachJob : Job (Dict String DeviceEntry) String DeviceEntry (Except PyError α) where
  look devices name := devices.lookup name
  ends := ends
  fatal
    | .ok _ => false
    | .error e => !decide e.IsWatlow
  batched := false

/-- `_run_group` of `poll_many`: under the lock of the port, with nothing caught around
`poll_controller`, and all samples of the group at the end. -/
def batchJob : Job (Dict String DeviceEntry) String DeviceEntry (Except PyError α) where
  look devices name := devices.lookup name
  ends := ends
  fatal
    | .ok _ => false
    | .error _ => true
  batched := true

abbrev Polling (α : Type) :=
  Group (Dict String DeviceEntry) String DeviceEntry (Except PyError α)

/-- A call up to its task group: a worker for each port. -/
def start (devices : Dict String DeviceEntry) (names : Option (List String)) :
    Result (Polling α) := do
  let targets ← resolveNames devices names
  let groups ← groupByPort devices targets []
  .ok ⟨devices, groups.map fun g => .waiting g.2, [], none⟩

/-- A turn of a worker, or what another task does to the registry in between. -/
inductive PollEvent where
  | turn
  | register (name : String) (d : DeviceEntry)
  | unregister (name : String)

def PollEvent.devices (devices : Dict String DeviceEntry) : PollEvent → Dict String DeviceEntry
  | .turn => devices
  | .register name d => devices.insert name d
  | .unregister name => devices.erase name

def PollEvent.event (devices : Dict String DeviceEntry) :
    PollEvent → Event (Dict String DeviceEntry)
  | .turn => .turn
  | e => .change (e.devices devices)

def PollStep (job : Job (Dict String DeviceEntry) String DeviceEntry (Except PyError α))
    (s : Polling α) (e : PollEvent) (t : Polling α) : Prop := Step job s (e.event s.table) t

end Calls

section Registry

/-- What a call of the manager does to the registry is a list of registrations and removals. -/
def Changes (s t : State) : Prop :=
  ∃ changes : List PollEvent, t.devices = changes.foldl PollEvent.devices s.devices

theorem Changes.refl (s : State) : Changes s s := ⟨[], rfl⟩

theorem Changes.trans {s t u : State} (h : Changes s t) (k : Changes t u) : Changes s u := by
  obtain ⟨changes, h⟩ := h
  obtain ⟨changes', k⟩ := k
  refine ⟨changes ++ changes', ?_⟩
  rw [List.foldl_append, ← h]
  exact k

theorem register_devices (name : String) (key : Option String) (c : Controller) (s : State) :
    (register name key c s).devices = s.devices.insert name ⟨name, c, key⟩ := by
  simp only [register]
  cases key with
  | none => rfl
  | some k =>
    dsimp only
    split <;> rfl

theorem add_changes {s : State} (h : Registered s) (env : AddEnv) (args : AddArgs) :
    Changes s (add env args s).2 := by
  cases hr : add env args s with
  | mk r t =>
    rcases add_cases hr with ⟨e, -, rfl⟩ | ⟨unit, -, hcases⟩
    · exact .refl t
    · rcases hcases with ⟨c, -, -, -, rfl⟩ | ⟨key, settings, x, u, -, hsource, hx, -, hends⟩
      · exact ⟨[.register args.name _], register_devices _ _ _ _⟩
      · have hdevices : u.devices = s.devices :=
          (acquirePort_settled hsource h hx).frame.devices
        rcases hends with ⟨e, -, rfl⟩ | ⟨c, -, rfl⟩
        · exact ⟨[], hdevices⟩
        · refine ⟨[.register args.name ⟨args.name, c, some key⟩], ?_⟩
          rw [register_devices, hdevices]
          rfl

theorem remove_changes {s : State} (h : Registered s) (ends : String → PortEnds) (name : String) :
    Changes s (remove ends name s).2 := by
  cases hr : remove ends name s with
  | mk r t =>
    rcases remove_cases hr with ⟨-, rfl⟩ | ⟨d, -, hd, hteardown⟩
    · exact .refl t
    · exact ⟨[.unregister name], (teardownDevice_devices h hd hteardown).1⟩

theorem closeLoop_changes {names : List String} {errors : List PyError} {s t : State}
    {ends : String → PortEnds} {r : Except CloseError (List PyError)} (h : Registered s)
    (hkeys : s.devices.keys = names) (hr : closeLoop ends names errors s = (r, t)) :
    Changes s t := by
  induction names generalizing errors s with
  | nil =>
    obtain ⟨-, rfl⟩ := Prod.mk.inj hr
    exact .refl s
  | cons name names ih =>
    obtain ⟨d, x, u, hd, hx, hu, hnames, hcases⟩ := closeLoop_cons h hkeys hr
    refine Changes.trans ⟨[.unregister name], (teardownDevice_devices h hd hx).1⟩ ?_
    rcases hcases with ⟨-, hr⟩ | ⟨e, -, ⟨-, -, rfl⟩ | hr⟩
    · exact ih hu hnames hr
    · exact .refl t
    · exact ih hu hnames hr

theorem perform_changes {s : State} (c : Call) (h : Registered s) : Changes s (perform c s) := by
  cases c with
  | add env args => exact add_changes h env args
  | remove ends name => exact remove_changes h ends name
  | close suppressErrors ends =>
    cases hr : close suppressErrors ends s with
    | mk r t =>
      change Changes s (close suppressErrors ends s).2
      rw [hr]
      rcases close_cases hr with ⟨-, -, rfl⟩ | ⟨-, ⟨e, u, hx, -, rfl⟩ | ⟨errors, u, hx, rfl, -⟩⟩
      · exact .refl t
      · exact closeLoop_changes h rfl hx
      · obtain ⟨changes, hchanges⟩ := closeLoop_changes h rfl hx
        exact ⟨changes, hchanges⟩
  | useTransport id isOpen => exact .refl _

end Registry

section Starting

variable {devices : Dict String DeviceEntry} {names : Option (List String)}

theorem resolveNames_known {targets : List String} (h : resolveNames devices names = .ok targets) :
    ∀ name ∈ targets, ∃ d, devices.lookup name = some d := by
  intro name hname
  cases names with
  | none =>
    cases h
    rw [List.mem_reverse] at hname
    exact Option.isSome_iff_exists.mp (AList.lookup_isSome.mpr (AList.mem_keys.mpr hname))
  | some names =>
    simp only [resolveNames] at h
    split at h
    · rename_i hunknown
      cases h
      cases hd : devices.lookup name with
      | some d => exact ⟨d, rfl⟩
      | none =>
        have hnone := List.filter_eq_nil_iff.mp hunknown name hname
        simp [hd] at hnone
    · cases h

theorem addToGroup_members (key name : String) (groups : List (String × List String)) :
    ((addToGroup key name groups).flatMap Prod.snd).Perm (groups.flatMap Prod.snd ++ [name]) := by
  induction groups with
  | nil => exact .refl _
  | cons g groups ih =>
    obtain ⟨k, members⟩ := g
    simp only [addToGroup]
    split
    · simp only [List.flatMap_cons, List.append_assoc]
      exact (List.perm_append_comm).append_left _
    · simp only [List.flatMap_cons, List.append_assoc]
      exact ih.append_left _

theorem groupByPort_ok {targets : List String} (groups : List (String × List String))
    (h : ∀ name ∈ targets, ∃ d, devices.lookup name = some d) :
    ∃ groups', groupByPort devices targets groups = .ok groups' ∧
      (groups'.flatMap Prod.snd).Perm (groups.flatMap Prod.snd ++ targets) := by
  induction targets generalizing groups with
  | nil => exact ⟨groups, rfl, by simp⟩
  | cons name targets ih =>
    obtain ⟨d, hd⟩ := h name List.mem_cons_self
    obtain ⟨groups', hgroups, hperm⟩ := ih (addToGroup (groupKey name d) name groups)
      fun name' hname => h name' (List.mem_cons_of_mem _ hname)
    refine ⟨groups', ?_, ?_⟩
    · simp only [groupByPort]
      rw [lookUp, hd]
      exact hgroups
    · refine hperm.trans (((addToGroup_members _ _ _).append_right _).trans ?_)
      rw [List.append_assoc]
      rfl

variable {job : Job (Dict String DeviceEntry) String DeviceEntry (Except PyError α)}
  {s : Polling α}

theorem start_ok (hlook : job.look = fun devices name => devices.lookup name)
    (h : start devices names = .ok s) :
    ∃ targets, resolveNames devices names = .ok targets ∧ s.aborted = none ∧
      Tracked job targets s ∧ Found job s := by
  obtain ⟨targets, htargets, h⟩ := bind_ok_iff.mp h
  have hknown := resolveNames_known htargets
  obtain ⟨groups, hgroups, hperm⟩ := groupByPort_ok [] hknown
  rw [hgroups, ok_bind] at h
  cases h
  refine ⟨targets, htargets, rfl, ⟨?_, ?_, by simp⟩, ⟨?_, by simp⟩⟩
  · simpa [Group.items, List.flatMap_map, Worker.items] using hperm
  · simp [List.flatMap_map, Worker.got]
  · intro name hname
    have hmember : name ∈ groups.flatMap Prod.snd := by
      simpa [Group.pending, List.flatMap_map, Worker.pending] using hname
    obtain ⟨d, hd⟩ := hknown name (hperm.mem_iff.mp hmember)
    simp [hlook, hd]

theorem start_error {e : PyError} (h : (start devices names : Result (Polling α)) = .error e) :
    e.kind = .validation := by
  rcases bind_error_iff.mp h with he | ⟨targets, htargets, h⟩
  · cases names with
    | none => cases he
    | some names =>
      simp only [resolveNames] at he
      split at he
      · cases he
      · cases he
        rfl
  · obtain ⟨groups, hgroups, -⟩ := groupByPort_ok [] (resolveNames_known htargets)
    rw [hgroups] at h
    cases h

end Starting

section Running

variable {job : Job (Dict String DeviceEntry) String DeviceEntry (Except PyError α)}
  {s t : Polling α} {e : PollEvent} {es : List PollEvent} {targets : List String}

/-- No device is unregistered that the call still has to look up. -/
def KeepsTargets (s : Polling α) : PollEvent → Prop
  | .unregister name => name ∉ s.pending
  | _ => True

theorem keepsTargets_harmless (hlook : job.look = fun devices name => devices.lookup name)
    (hs : Found job s) (hkeeps : KeepsTargets s e) : Harmless job s (e.event s.table) := by
  cases e with
  | turn => exact trivial
  | register name d =>
    intro item hitem
    have hfound := hs.pending item hitem
    simp only [hlook, PollEvent.devices, lookup_insert_eq] at hfound ⊢
    split
    · simp
    · exact hfound
  | unregister name =>
    intro item hitem
    have hfound := hs.pending item hitem
    have hne : item ≠ name := by
      rintro rfl
      exact hkeeps hitem
    simp only [hlook, PollEvent.devices, lookup_erase_eq, if_neg hne] at hfound ⊢
    exact hfound

theorem run_tracked (h : Run (PollStep job) s es t) (hs : Tracked job targets s) :
    Tracked job targets t :=
  h.invariant (Tracked job targets) (fun _ _ _ hs hstep => Step.tracked hstep hs) hs

abbrev KeptRun (job : Job (Dict String DeviceEntry) String DeviceEntry (Except PyError α)) :=
  Run (Guarded (PollStep job) KeepsTargets)

theorem run_found (hlook : job.look = fun devices name => devices.lookup name)
    (h : KeptRun job s es t) (hs : Found job s) : Found job t := by
  refine h.invariant (Found job) ?_ hs
  intro s e t hs hstep
  exact Step.found (keepsTargets_harmless hlook hs hstep.1) hstep.2 hs

def pollTurns (es : List PollEvent) : ℕ :=
  es.countP fun
    | .turn => true
    | _ => false

theorem run_pollTurns (h : Run (PollStep job) s es t) : pollTurns es + t.work ≤ s.work := by
  have hrun : ∃ es', Run (Step job) s es' t ∧ turns es' = pollTurns es := by
    induction h with
    | nil s => exact ⟨[], .nil s, rfl⟩
    | @cons s e u es t he _ ih =>
      obtain ⟨es', hes, hturns⟩ := ih
      refine ⟨e.event s.table :: es', .cons he hes, ?_⟩
      cases e <;> simpa [turns, pollTurns, PollEvent.event] using hturns
  obtain ⟨es', hes, hturns⟩ := hrun
  rw [← hturns]
  exact run_turns hes

/-- The call gets on to its end whatever happens to the registry, only an error of a device's own
call that it does not catch can stop it, and every target has its result in the end. -/
structure Survives (job : Job (Dict String DeviceEntry) String DeviceEntry (Except PyError α))
    (targets : List String) (s : Polling α) (es : List PollEvent) (t : Polling α) : Prop where
  found : ∀ name, t.aborted ≠ some (.missing name)
  stopped : ∀ a, t.aborted = some (.fatal a) → ∃ name d, job.ends name d a ∧ job.fatal a = true
  complete : t.Ended → (t.log.map Prod.fst).Perm targets ∧
    ∀ e ∈ t.log, ∃ d, job.ends e.1 d e.2 ∧ job.fatal e.2 = false
  bounded : pollTurns es + t.work ≤ s.work
  goesOn : (∀ name d, ∃ a, job.ends name d a) → t.aborted = none →
    t.Ended ∨ ∃ u, PollStep job t .turn u

theorem keptRun_survives (hlook : job.look = fun devices name => devices.lookup name)
    {devices : Dict String DeviceEntry} {names : Option (List String)}
    (htargets : resolveNames devices names = .ok targets) (hstart : start devices names = .ok s)
    (h : KeptRun job s es t) : Survives job targets s es t := by
  obtain ⟨_, htargets', -, htracked, hfound⟩ := start_ok hlook hstart
  cases htargets.symm.trans htargets'
  have hrun := h.unguarded
  have ht := run_tracked hrun htracked
  refine ⟨(run_found hlook h hfound).aborted, ht.fatal, ht.ended,
    run_pollTurns hrun, ?_⟩
  intro hends hlive
  have : Nonempty (Except PyError α) := ⟨.error (unknownName "")⟩
  exact ended_or_turn hends hlive

/-- A call says that names are unknown, or it starts. Then, in every run in which no target goes
before its turn, it survives whatever else is added and removed. -/
theorem polling_survives (ends : String → DeviceEntry → Except PyError α → Prop)
    (devices : Dict String DeviceEntry) (names : Option (List String)) :
    (∀ e, (start devices names : Result (Polling α)) = .error e → e.kind = .validation) ∧
    ∀ s, start devices names = .ok s →
      ∃ targets, resolveNames devices names = .ok targets ∧
        (∀ es t, KeptRun (eachJob ends) s es t → Survives (eachJob ends) targets s es t) ∧
        ∀ es t, KeptRun (batchJob ends) s es t → Survives (batchJob ends) targets s es t := by
  refine ⟨fun e => start_error, ?_⟩
  intro s hstart
  obtain ⟨targets, htargets, -⟩ := @start_ok _ devices names (eachJob ends) s rfl hstart
  refine ⟨targets, htargets, ?_, ?_⟩
  · intro es t h
    exact keptRun_survives rfl htargets hstart h
  · intro es t h
    exact keptRun_survives rfl htargets hstart h

def twoPorts : State :=
  perform (.add ⟨linux, none, none, {}⟩ (addPort "fan" "tty1" .modbusRtu)) oneOven

def pollAll : Polling ℤ :=
  ⟨twoPorts.devices, [.waiting ["oven"], .waiting ["fan"]], [], none⟩

def answers20 : String → DeviceEntry → Except PyError ℤ → Prop := fun _ _ a => a = .ok 20

theorem removedBehind_survives :
    ∃ t, KeptRun (eachJob answers20) pollAll [.turn, .unregister "oven", .turn, .turn] t ∧
      t.log = [("oven", .ok 20)] ∧
      Survives (eachJob answers20) ["oven", "fan"] pollAll
        [.turn, .unregister "oven", .turn, .turn] t := by
  have hturn : ∀ (s : Polling ℤ) w behind, s.aborted = none → w ≠ .finished →
      s.workers = [] ++ w :: behind → PollStep (eachJob answers20) s .turn
        (s.after [] behind (takeTurn (eachJob answers20) s.table (.ok 20) w)) := by
    intro s w behind hlive hw hworkers
    exact @Step.turn _ _ _ _ (eachJob answers20) s [] w behind (.ok 20) hlive hw hworkers
      fun _ _ _ _ _ => rfl
  have hrun : ∃ t, KeptRun (eachJob answers20) pollAll
      [.turn, .unregister "oven", .turn, .turn] t ∧ t.log = [("oven", .ok 20)] :=
    ⟨_, .cons ⟨trivial, hturn _ (.waiting ["oven"]) [.waiting ["fan"]] rfl (by simp) rfl⟩
      (.cons ⟨show "oven" ∉ ["fan"] by decide, .change _⟩
        (.cons ⟨trivial, hturn _ (.busy "oven" _ [] []) [.waiting ["fan"]] rfl (by simp) rfl⟩
          (.cons ⟨trivial, hturn _ (.storing [] [("oven", .ok 20)]) [.waiting ["fan"]] rfl
            (by simp) rfl⟩ (.nil _)))), rfl⟩
  obtain ⟨t, hrun, hlog⟩ := hrun
  obtain ⟨targets, htargets, hsurvives, -⟩ :=
    (polling_survives answers20 twoPorts.devices none).2 pollAll rfl
  cases htargets
  exact ⟨t, hrun, hlog, hsurvives _ t hrun⟩

/-- The fan is removed after the targets have been resolved. Its worker finds nothing, and the
call is aborted with no result for the oven on the other port. -/
theorem removedTarget_aborts :
    start twoPorts.devices none = .ok pollAll ∧
    (perform (.remove (fun _ => {}) "fan") twoPorts).devices = twoPorts.devices.erase "fan" ∧
    ∃ t, Run (PollStep (eachJob answers20)) pollAll [.unregister "fan", .turn] t ∧
      t.aborted = some (.missing "fan") ∧ t.log = [] ∧
      ¬ Survives (eachJob answers20) ["oven", "fan"] pollAll [.unregister "fan", .turn] t := by
  refine ⟨rfl, rfl, _, .cons (.change _) (.cons (@Step.turn _ _ _ _ (eachJob answers20) _
    [.waiting ["oven"]] (.waiting ["fan"]) [] (.ok 20) rfl (by simp) rfl (fun _ _ _ _ _ => rfl))
    (.nil _)), rfl, rfl, ?_⟩
  intro h
  exact h.found "fan" rfl

end Running

end ManagerPolling
