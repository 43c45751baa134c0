import Watlowlib.ManagerBookkeeping

/-! # What `close` gets done, and what it tells

The loop tears every port in use down once, with its last device. What the teardowns raise stays in
the log: `close` raises nothing, whatever fails. -/
namespace ManagerClose

open Dictionaries ExceptRules Manager ManagerBookkeeping ManagerCalls ManagerPorts PythonValues
  TransitionSystem WatlowErrors

section Transports

variable {s t : State} {key name : String} {p : PortEntry}

def OpensNothing (s t : State) : Prop :=
  ∀ r, (t.transports r).isOpen = true → (s.transports r).isOpen = true

theorem disposeClient_transports (ends : PortEnds) :
    (disposeClient ends p s).2.transports = s.transports := by
  simp only [disposeClient]
  split
  · rfl
  · split
    · rfl
    · split <;> rfl

theorem setOpen_false_opensNothing (r : TransportRef) : OpensNothing s (s.setOpen r false) := by
  intro r' hopen
  by_cases hr : r' = r
  · subst hr
    rw [setOpen_self] at hopen
    cases hopen
  · rwa [setOpen_other false hr] at hopen

theorem closeTransport_opensNothing (ends : PortEnds) :
    OpensNothing s (closeTransport ends p s).2 := by
  simp only [closeTransport]
  split
  · exact setOpen_false_opensNothing p.transport
  · exact fun _ hopen => hopen

theorem closeTransport_closed (ends : PortEnds) (howned : p.ownsTransport = true) :
    ((closeTransport ends p s).2.transports p.transport).isOpen = false := by
  simp only [closeTransport]
  split
  · exact setOpen_self _ _
  · rename_i hnot
    simpa [howned] using hnot

theorem maybeTeardownPort_opensNothing (ends : PortEnds) (key : String) :
    OpensNothing s (maybeTeardownPort ends key p s).2 := by
  simp only [maybeTeardownPort]
  refine andThen_rel OpensNothing (fun _ _ _ h k r hr => h r (k r hr)) ?_ ?_
  · intro r hopen
    dsimp only at hopen
    rwa [disposeClient_transports] at hopen
  · intro _ u _
    refine andThen_rel OpensNothing (fun _ _ _ h k r hr => h r (k r hr)) ?_ ?_
    · exact closeTransport_opensNothing ends
    · exact fun _ _ _ _ hopen => hopen

theorem maybeTeardownPort_closed {ends : PortEnds} {u : PUnit} (p : PortEntry)
    (howned : p.ownsTransport = true) (hr : maybeTeardownPort ends key p s = (.ok u, t)) :
    (t.transports p.transport).isOpen = false := by
  simp only [maybeTeardownPort] at hr
  obtain ⟨_, s₁, -, hr⟩ := andThen_ok_iff.mp hr
  obtain ⟨_, s₂, hclose, hr⟩ := andThen_ok_iff.mp hr
  obtain ⟨-, rfl⟩ := Prod.mk.inj hr
  obtain ⟨-, rfl⟩ := Prod.mk.inj hclose
  exact closeTransport_closed ends howned

theorem teardownDevice_closed {ends : String → PortEnds} {d : DeviceEntry} {u : PUnit}
    (hkey : d.portKey = some key) (hp : s.ports.lookup key = some p)
    (hempty : p.refs.erase d.name = ∅) (howned : p.ownsTransport = true)
    (hr : teardownDevice ends d s = (.ok u, t)) : (t.transports p.transport).isOpen = false := by
  simp only [teardownDevice] at hr
  rw [hkey] at hr
  dsimp only at hr
  rw [hp] at hr
  dsimp only at hr
  rw [if_pos hempty] at hr
  exact maybeTeardownPort_closed { p with refs := p.refs.erase d.name } howned hr

theorem teardownDevice_opensNothing (ends : String → PortEnds) (d : DeviceEntry) :
    OpensNothing s (teardownDevice ends d s).2 := by
  unfold teardownDevice
  split
  · exact fun _ hopen => hopen
  · split
    · exact fun _ hopen => hopen
    · dsimp only
      split
      · exact maybeTeardownPort_opensNothing _ _
      · exact fun _ hopen => hopen

theorem closeLoop_opensNothing (ends : String → PortEnds) (names : List String)
    (errors : List PyError) : OpensNothing s (closeLoop ends names errors s).2 := by
  induction names generalizing errors s with
  | nil => exact fun _ hopen => hopen
  | cons name names ih =>
    simp only [closeLoop]
    split
    · exact ih errors
    · rename_i d _
      have hstep : OpensNothing s (teardownDevice ends d (popDevice name s)).2 :=
        teardownDevice_opensNothing (s := popDevice name s) ends d
      split
      · rename_i u hx
        rw [hx] at hstep
        exact fun r hopen => hstep r (ih errors r hopen)
      · rename_i e u hx
        rw [hx] at hstep
        split
        · exact hstep
        · exact fun r hopen => hstep r (ih _ r hopen)

end Transports

section Sweep

variable {s t : State} {key name : String} {p : PortEntry} {ends : String → PortEnds}

/-- What the loop of `close` does to the ports: it attempts each one in use once, with nothing
registered on it any more, and leaves the others. -/
structure Swept (ends : String → PortEnds) (s t : State) : Prop where
  attempts : ∃ new, t.attempts = s.attempts ++ new ∧
    (new.map (·.key) ++ t.ports.keys).Perm s.ports.keys ∧ ∀ a ∈ new, a.registered = []
  failures : ∃ new, t.failures = s.failures ++ new ∧
    (new = [] ↔ ∀ key p, s.ports.lookup key = some p → p.refs ≠ ∅ → raisedIn (ends key) p s = [])
  left : ∀ key p, t.ports.lookup key = some p ↔ s.ports.lookup key = some p ∧ p.refs = ∅
  closed : ∀ key p, s.ports.lookup key = some p → p.refs ≠ ∅ → p.ownsTransport = true →
    (t.transports p.transport).isOpen = false

theorem Swept.nothing (h : Registered s) (hdevices : s.devices = ∅) : Swept ends s s := by
  have hunused : ∀ key p, s.ports.lookup key = some p → p.refs = ∅ := by
    intro key p hp
    rw [Finset.eq_empty_iff_forall_notMem]
    intro name hname
    obtain ⟨d, hd, -⟩ := (h.refs hp name).mp hname
    rw [hdevices] at hd
    cases hd
  refine ⟨⟨[], by simp, by simp, by simp⟩, ⟨[], by simp, ?_⟩, ?_, ?_⟩
  · exact iff_of_true rfl fun key p hp hrefs => absurd (hunused key p hp) hrefs
  · exact fun key p => ⟨fun hp => ⟨hp, hunused key p hp⟩, And.left⟩
  · exact fun key p hp hrefs => absurd (hunused key p hp) hrefs

theorem raisedIn_eq_nil {ends : PortEnds} :
    raisedIn ends p s = [] ↔ disposeRaises ends p s = none ∧ closeRaises ends p s = none := by
  simp only [raisedIn]
  cases hsw : swallow (disposeRaises ends p s) with
  | ok u => simp
  | error e =>
    obtain ⟨hsome, -⟩ := swallow_error hsw
    simp [hsome]

theorem raisedIn_congr {ends : PortEnds} {q : PortEntry} (hclient : q.client = p.client)
    (howns : q.ownsTransport = p.ownsTransport) (htransport : q.transport = p.transport)
    (hclients : ∀ c, p.client = some c → t.clients c = s.clients c)
    (htransports : p.ownsTransport = true → t.transports p.transport = s.transports p.transport) :
    raisedIn ends q t = raisedIn ends p s := by
  have hd : disposeRaises ends q t = disposeRaises ends p s := by
    simp only [disposeRaises]
    rw [hclient]
    cases hc : p.client with
    | none => rfl
    | some c =>
      dsimp only
      rw [hclients c hc]
  have hc : closeRaises ends q t = closeRaises ends p s := by
    simp only [closeRaises]
    rw [howns, htransport]
    by_cases ho : p.ownsTransport = true
    · rw [htransports ho]
    · simp [ho]
  simp only [raisedIn]
  rw [hd, hc]

theorem release_lookup (k : String) :
    (release name key p s).ports.lookup k =
      if k = key then some { p with refs := p.refs.erase name } else s.ports.lookup k :=
  lookup_insert_eq _ _ _ _

theorem release_keys (hp : s.ports.lookup key = some p) :
    (release name key p s).ports.keys.Perm s.ports.keys := by
  change (s.ports.insert key _).keys.Perm s.ports.keys
  rw [AList.keys_insert]
  exact (List.perm_cons_erase (AList.mem_keys.mp (AList.lookup_isSome.mp (by simp [hp])))).symm

theorem Swept.release (hp : s.ports.lookup key = some p) (hrefs : p.refs.erase name ≠ ∅)
    (hswept : Swept ends (release name key p s) t) : Swept ends s t := by
  have hused : p.refs ≠ ∅ := by
    intro hempty
    rw [hempty] at hrefs
    exact hrefs (Finset.erase_empty _)
  obtain ⟨⟨attempts, hattempts, hperm, hunregistered⟩, ⟨failures, hfailures, hiff⟩, hleft,
    hclosed⟩ := hswept
  have hport : (ManagerCalls.release name key p s).ports.lookup key =
      some { p with refs := p.refs.erase name } := (release_lookup key).trans (if_pos rfl)
  refine ⟨⟨attempts, hattempts, hperm.trans (release_keys hp), hunregistered⟩,
    ⟨failures, hfailures, hiff.trans ?_⟩, ?_, ?_⟩
  · constructor
    · intro hall k q hq hqrefs
      by_cases hk : k = key
      · subst hk
        cases hp.symm.trans hq
        have hnone := hall k _ hport hrefs
        exact (raisedIn_congr rfl rfl rfl (fun _ _ => rfl) fun _ => rfl).symm.trans hnone
      · exact hall k q ((release_lookup k).trans ((if_neg hk).trans hq)) hqrefs
    · intro hall k q hq hqrefs
      rw [release_lookup] at hq
      split at hq
      · rename_i hk
        cases hq
        subst hk
        exact (raisedIn_congr rfl rfl rfl (fun _ _ => rfl) fun _ => rfl).trans (hall k p hp hused)
      · exact hall k q hq hqrefs
  · intro k q
    rw [hleft, release_lookup]
    by_cases hk : k = key
    · subst hk
      rw [if_pos rfl, hp]
      constructor
      · rintro ⟨hq, hqrefs⟩
        cases hq
        exact absurd hqrefs hrefs
      · rintro ⟨hq, hqrefs⟩
        cases hq
        exact absurd hqrefs hused
    · rw [if_neg hk]
  · intro k q hq hqrefs howned
    by_cases hk : k = key
    · subst hk
      cases hp.symm.trans hq
      have hnot := hclosed k _ hport hrefs howned
      exact hnot
    · exact hclosed k q ((release_lookup k).trans ((if_neg hk).trans hq)) hqrefs howned

theorem registered_eq_nil (hnone : ∀ name, ¬ On s name key) : s.registered key = [] := by
  simp only [State.registered]
  rw [List.filter_eq_nil_iff]
  intro name _ hkey
  cases hd : s.devices.lookup name with
  | none =>
    rw [hd] at hkey
    cases of_decide_eq_true hkey
  | some d =>
    rw [hd] at hkey
    exact hnone name ⟨d, hd, of_decide_eq_true hkey⟩

theorem release_last {d : DeviceEntry} (h : Registered s) (hd : s.devices.lookup name = some d)
    (hkey : d.portKey = some key) (hp : s.ports.lookup key = some p)
    (hempty : p.refs.erase name = ∅) :
    (ManagerCalls.release name key p s).registered key = [] := by
  apply registered_eq_nil
  intro name' hon
  have hport : (ManagerCalls.release name key p s).ports.lookup key =
      some { p with refs := p.refs.erase name } := (release_lookup key).trans (if_pos rfl)
  have hmem := ((release_registered h hd hkey hp).refs hport name').mpr hon
  rw [hempty] at hmem
  exact Finset.notMem_empty name' hmem

theorem raisedIn_other {u : State} (h : Frame key (popDevice name s) u) {k : String} {q : PortEntry}
    (hk : k ≠ key) (hq : s.ports.lookup k = some q) :
    raisedIn (ends k) q u = raisedIn (ends k) q s :=
  raisedIn_congr rfl rfl rfl (fun c hc => h.clients k q c hk hq hc)
    fun ho => h.transports k q hk hq (Or.inl ho)

theorem clean_iff {u : State} (h : Frame key (popDevice name s) u)
    (hports : u.ports = s.ports.erase key) (hp : s.ports.lookup key = some p) (hused : p.refs ≠ ∅) :
    (raisedIn (ends key) p s = [] ∧
      ∀ k q, u.ports.lookup k = some q → q.refs ≠ ∅ → raisedIn (ends k) q u = []) ↔
    ∀ k q, s.ports.lookup k = some q → q.refs ≠ ∅ → raisedIn (ends k) q s = [] := by
  constructor
  · rintro ⟨hnone, hall⟩ k q hq hqrefs
    by_cases hk : k = key
    · subst hk
      cases hp.symm.trans hq
      exact hnone
    · rw [← raisedIn_other h hk hq]
      refine hall k q ?_ hqrefs
      rw [hports, lookup_erase_eq, if_neg hk]
      exact hq
  · intro hall
    refine ⟨hall key p hp hused, ?_⟩
    intro k q hq hqrefs
    rw [hports, lookup_erase_eq] at hq
    split at hq
    · cases hq
    · rename_i hk
      rw [raisedIn_other h hk hq]
      exact hall k q hq hqrefs

theorem Swept.tornDown {u : State} {d : DeviceEntry} (h : Registered s)
    (hd : s.devices.lookup name = some d) (hkey : d.portKey = some key)
    (hp : s.ports.lookup key = some p) (hempty : p.refs.erase name = ∅)
    (htorn : TornDown (ends key) key { p with refs := p.refs.erase name }
      (ManagerCalls.release name key p s) (.ok ⟨⟩) u)
    (hgone : p.ownsTransport = true → (u.transports p.transport).isOpen = false)
    (hopens : OpensNothing u t) (hswept : Swept ends u t) : Swept ends s t := by
  have hused : p.refs ≠ ∅ := Finset.ne_empty_of_mem ((h.refs hp name).mpr ⟨d, hd, hkey⟩)
  have hframe : Frame key (popDevice name s) u := release_frame.trans htorn.frame
  have hports : u.ports = s.ports.erase key := (htorn.done rfl).trans (insert_erase _ _ _)
  have hhere : raisedIn (ends key) { p with refs := p.refs.erase name }
      (ManagerCalls.release name key p s) = raisedIn (ends key) p s :=
    raisedIn_congr rfl rfl rfl (fun _ _ => rfl) fun _ => rfl
  have hnobody := release_last h hd hkey hp hempty
  obtain ⟨⟨attempts, hattempts, hperm, hunregistered⟩, ⟨failures, hfailures, hiff⟩, hleft,
    hclosed⟩ := hswept
  refine ⟨⟨⟨key, []⟩ :: attempts, ?_, ?_, ?_⟩, ⟨raisedIn (ends key) p s ++ failures, ?_, ?_⟩,
    ?_, ?_⟩
  · rw [hattempts, htorn.attempts, hnobody, List.append_assoc]
    rfl
  · have hkeys : u.ports.keys = s.ports.keys.erase key := by rw [hports, AList.keys_erase]
    have hin : key ∈ s.ports.keys := AList.mem_keys.mp (AList.lookup_isSome.mp (by simp [hp]))
    rw [List.map_cons, List.cons_append]
    rw [hkeys] at hperm
    exact (hperm.cons key).trans (List.perm_cons_erase hin).symm
  · intro a ha
    rcases List.mem_cons.mp ha with rfl | ha
    · rfl
    · exact hunregistered a ha
  · rw [hfailures, htorn.failures, hhere, List.append_assoc]
    rfl
  · rw [List.append_eq_nil_iff, hiff]
    exact clean_iff hframe hports hp hused
  · intro k q
    rw [hleft, hports, lookup_erase_eq]
    by_cases hk : k = key
    · subst hk
      rw [if_pos rfl, hp]
      refine iff_of_false (by simp) ?_
      rintro ⟨hq, hqrefs⟩
      cases hq
      exact hused hqrefs
    · rw [if_neg hk]
  · intro k q hq hqrefs howned
    by_cases hk : k = key
    · subst hk
      cases hp.symm.trans hq
      cases hopen : (t.transports p.transport).isOpen with
      | false => rfl
      | true => exact absurd (hopens _ hopen) (by simp [hgone howned])
    · refine hclosed k q ?_ hqrefs howned
      rw [hports, lookup_erase_eq, if_neg hk]
      exact hq

/-- Whatever fails in a teardown, only a cancellation gets out of it. -/
theorem teardownDevice_ok {d : DeviceEntry} {r : Result PUnit} (h : Registered s)
    (hends : ∀ key, ¬ Cancelling (ends key)) (hd : s.devices.lookup name = some d)
    (hr : teardownDevice ends d (popDevice name s) = (r, t)) : r = .ok ⟨⟩ := by
  rcases teardownDevice_cases h hd hr with ⟨-, rfl, -⟩ | ⟨key, p, -, -, ⟨-, rfl, -⟩ | ⟨-, htorn⟩⟩
  · rfl
  · rfl
  · exact (htorn.gone fun hint => hends key hint.2.2).1

theorem Swept.turn {u : State} {d : DeviceEntry} (h : Registered s)
    (hd : s.devices.lookup name = some d)
    (hr : teardownDevice ends d (popDevice name s) = (.ok ⟨⟩, u)) (hopens : OpensNothing u t)
    (hswept : Swept ends u t) : Swept ends s t := by
  rcases teardownDevice_cases h hd hr with ⟨-, -, rfl⟩ | ⟨key, p, hkey, hp, hcases⟩
  · exact ⟨hswept.attempts, hswept.failures, hswept.left, hswept.closed⟩
  · rcases hcases with ⟨hrefs, -, rfl⟩ | ⟨hempty, htorn⟩
    · exact hswept.release hp hrefs
    · refine hswept.tornDown h hd hkey hp hempty htorn ?_ hopens
      intro howned
      have hp' : (popDevice name s).ports.lookup key = some p := hp
      exact teardownDevice_closed hkey hp' (by rwa [h.named hd]) howned hr

theorem closeLoop_swept {names : List String} {errors : List PyError}
    {r : Except CloseError (List PyError)} (h : Registered s)
    (hends : ∀ key, ¬ Cancelling (ends key)) (hkeys : s.devices.keys = names)
    (hr : closeLoop ends names errors s = (r, t)) : r = .ok errors ∧ Swept ends s t := by
  induction names generalizing s with
  | nil =>
    obtain ⟨rfl, rfl⟩ := Prod.mk.inj hr
    exact ⟨rfl, .nothing h (dict_empty_of_keys hkeys)⟩
  | cons name names ih =>
    obtain ⟨d, x, u, hd, hx, hu, hdevices, hcases⟩ := closeLoop_cons h hkeys hr
    obtain rfl := teardownDevice_ok h hends hd hx
    rcases hcases with ⟨-, hr⟩ | ⟨e, he, -⟩
    · obtain ⟨rfl, hswept⟩ := ih hu hdevices hr
      have hopens : OpensNothing u t := by
        have hloop := @closeLoop_opensNothing u ends names errors
        rw [hr] at hloop
        exact hloop
      exact ⟨rfl, hswept.turn h hd hx hopens⟩
    · cases he

end Sweep

section Closing

variable {s t : State} {ends : String → PortEnds}

/-- What `close` promises: every port is torn down once with nothing registered on it, the maps are
empty, what was raised on the way is raised as a group, and a second call does nothing. -/
structure ClosesLoud (ends : String → PortEnds) (s : State) (r : Except CloseError PUnit)
    (t : State) : Prop where
  once : ∃ new, t.attempts = s.attempts ++ new ∧ (new.map (·.key)).Perm s.ports.keys ∧
    ∀ a ∈ new, a.registered = []
  empty : t.devices = ∅ ∧ t.ports = ∅
  loud : ∃ new, t.failures = s.failures ++ new ∧
    ((new = [] ∧ r = .ok ⟨⟩) ∨
      ∃ errors, errors ≠ [] ∧ errors.Perm new ∧ r = .error (.group errors))
  closed : r = .ok ⟨⟩ → ∀ key p, s.ports.lookup key = some p → p.ownsTransport = true →
    (t.transports p.transport).isOpen = false
  again : ∀ suppressErrors ends, close suppressErrors ends t = (.ok ⟨⟩, t)

/-- The port is in use, and neither call of its teardown fails. -/
def TearsDown (ends : PortEnds) (p : PortEntry) (s : State) : Prop :=
  p.refs ≠ ∅ ∧ disposeRaises ends p s = none ∧ closeRaises ends p s = none

theorem close_swept {suppress : Bool} {r : Except CloseError PUnit} (h : Registered s)
    (hends : ∀ key, ¬ Cancelling (ends key)) (hr : close suppress ends s = (r, t)) :
    r = .ok ⟨⟩ ∧ t.devices = ∅ ∧ t.closed = true ∧ Swept ends s t := by
  rcases close_cases hr with ⟨hclosed, rfl, rfl⟩ | ⟨-, ⟨e, u, hx, -, -⟩ | ⟨errors, u, hx, rfl, rfl⟩⟩
  · exact ⟨rfl, h.closed hclosed, hclosed, .nothing h (h.closed hclosed)⟩
  · cases (closeLoop_swept h hends rfl hx).1
  · have hdevices := closeLoop_devices h rfl hx
    obtain ⟨herrors, hswept⟩ := closeLoop_swept h hends rfl hx
    cases herrors
    exact ⟨if_neg (by simp), hdevices, rfl, hswept.attempts, hswept.failures, hswept.left,
      hswept.closed⟩

theorem close_again (h : s.closed = true) (suppress : Bool) (ends : String → PortEnds) :
    close suppress ends s = (.ok ⟨⟩, s) := if_pos h

theorem closesLoud_iff_tearsDown {r : Except CloseError PUnit} (h : Registered s)
    (hends : ∀ key, ¬ Cancelling (ends key)) (hr : close false ends s = (r, t)) :
    ClosesLoud ends s r t ↔ ∀ key p, s.ports.lookup key = some p → TearsDown (ends key) p s := by
  obtain ⟨rfl, hdevices, hclosed, hswept⟩ := close_swept h hends hr
  obtain ⟨⟨attempts, hattempts, hperm, hunregistered⟩, ⟨failures, hfailures, hiff⟩, hleft, hshut⟩ :=
    hswept
  constructor
  · intro hloud key p hp
    have hrefs : p.refs ≠ ∅ := by
      intro hempty
      have hstill := (hleft key p).mpr ⟨hp, hempty⟩
      rw [hloud.empty.2] at hstill
      cases hstill
    have hnone : failures = [] := by
      obtain ⟨new, hnew, ⟨hnil, -⟩ | ⟨errors, -, -, he⟩⟩ := hloud.loud
      · exact (List.append_cancel_left (hfailures.symm.trans hnew)).trans hnil
      · cases he
    exact ⟨hrefs, raisedIn_eq_nil.mp (hiff.mp hnone key p hp hrefs)⟩
  · intro htears
    have hports : t.ports = ∅ := by
      apply dict_empty
      intro key
      cases hp : t.ports.lookup key with
      | none => rfl
      | some p =>
        obtain ⟨hp', hempty⟩ := (hleft key p).mp hp
        exact absurd hempty (htears key p hp').1
    have hnone : failures = [] :=
      hiff.mpr fun key p hp _ => raisedIn_eq_nil.mpr (htears key p hp).2
    refine ⟨⟨attempts, hattempts, ?_, hunregistered⟩, ⟨hdevices, hports⟩,
      ⟨failures, hfailures, Or.inl ⟨hnone, rfl⟩⟩, ?_, close_again hclosed⟩
    · rw [hports] at hperm
      simpa using hperm
    · exact fun _ key p hp howned => hshut key p hp (htears key p hp).1 howned

/-- In every state that calls can lead to, cancelled ones too, `close` keeps its promise just when
no port is left over from a cancellation and no teardown fails. -/
theorem closesLoud_iff {callers : ℕ → Transport} {calls : List Call}
    (hrun : Run Performs (initial callers) calls s) (hends : ∀ key, ¬ Cancelling (ends key)) :
    ClosesLoud ends s (close false ends s).1 (close false ends s).2 ↔
      ∀ key p, s.ports.lookup key = some p → TearsDown (ends key) p s := by
  refine closesLoud_iff_tearsDown (hrun.invariant Registered ?_ (initial_registered callers)) hends
    rfl
  rintro s c t hreg rfl
  exact perform_registered c hreg

theorem oneOven_reached :
    Run Performs (initial fun _ => ⟨"", false, "", true, 0⟩) [addOven] oneOven :=
  .cons rfl (.nil _)

theorem oneOven_closesLoud :
    ClosesLoud (fun _ => {}) oneOven (close false (fun _ => {}) oneOven).1
      (close false (fun _ => {}) oneOven).2 := by
  refine (closesLoud_iff oneOven_reached (by simp [Cancelling])).mpr ?_
  intro key p hp
  have hkey : key ∈ oneOven.ports.keys :=
    AList.mem_keys.mp (AList.lookup_isSome.mp (by simp [hp]))
  have htty : oneOven.ports.keys = ["tty0"] := by decide
  rw [htty, List.mem_singleton] at hkey
  subst hkey
  cases hp
  exact ⟨by decide, rfl, rfl⟩

def closeFailed : PyError := ⟨.connection, [.text "error while closing"], {}⟩

/-- The transport of the only port fails to close. The teardown notes the error, and `close`
returns as if nothing had happened. -/
theorem failedClose_swallowed :
    Run Performs (initial fun _ => ⟨"", false, "", true, 0⟩) [addOven] oneOven ∧
    (close false (fun _ => { closeEnd := some closeFailed }) oneOven).1 = .ok ⟨⟩ ∧
    (close false (fun _ => { closeEnd := some closeFailed }) oneOven).2.failures = [closeFailed] ∧
    ¬ ClosesLoud (fun _ => { closeEnd := some closeFailed }) oneOven
      (close false (fun _ => { closeEnd := some closeFailed }) oneOven).1
      (close false (fun _ => { closeEnd := some closeFailed }) oneOven).2 := by
  refine ⟨oneOven_reached, rfl, rfl, ?_⟩
  intro h
  obtain ⟨new, hnew, ⟨hnil, -⟩ | ⟨errors, -, -, he⟩⟩ := h.loud
  · rw [hnil] at hnew
    cases hnew
  · cases he

end Closing

end ManagerClose
