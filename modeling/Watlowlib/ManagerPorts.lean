import Watlowlib.Manager

/-! # The two maps and one port at a time

What ties the devices to the ports, and what each step of the manager on one port does: it keeps
that tie and leaves every other port alone, however it ends. -/
namespace ManagerPorts

open Dictionaries ExceptRules Manager PythonValues SessionExecute WatlowErrors

def On (s : State) (name key : String) : Prop :=
  ∃ d, s.devices.lookup name = some d ∧ d.portKey = some key

/-- The device runs its session over the client and the transport of the port. -/
structure RunsOver (s : State) (d : DeviceEntry) (p : PortEntry) (c : ℕ) : Prop where
  client : d.controller.client = .made c
  transport : d.controller.transport = p.transport
  kind : d.controller.session.kind = (s.clients c).kind

/-- The two maps agree, and no two ports share a client or a transport that the manager made. -/
structure Registered (s : State) : Prop where
  named : ∀ {name d}, s.devices.lookup name = some d → d.name = name
  refs : ∀ {key p}, s.ports.lookup key = some p → ∀ name, name ∈ p.refs ↔ On s name key
  ported : ∀ {name d key}, s.devices.lookup name = some d → d.portKey = some key →
    ∃ p c, s.ports.lookup key = some p ∧ p.client = some c ∧ RunsOver s d p c
  client : ∀ {key p c}, s.ports.lookup key = some p → p.client = some c →
    c < s.madeClients ∧ p.protocol = some (s.clients c).kind
  noClient : ∀ {key p}, s.ports.lookup key = some p → p.client = none → p.protocol = none
  ownClient : ∀ {k k' p p' c}, s.ports.lookup k = some p → s.ports.lookup k' = some p' →
    p.client = some c → p'.client = some c → k = k'
  owned : ∀ {key p}, s.ports.lookup key = some p → p.ownsTransport = true →
    ∃ n, p.transport = .made n ∧ n < s.madeTransports
  borrowed : ∀ {key p}, s.ports.lookup key = some p → p.ownsTransport = false →
    ∃ id, p.transport = .caller id
  ownTransport : ∀ {k k' p p'}, s.ports.lookup k = some p → s.ports.lookup k' = some p' →
    p.ownsTransport = true → p'.ownsTransport = true → p.transport = p'.transport → k = k'
  closed : s.closed = true → s.devices = ∅

theorem lookup_erase_eq {β : Type} (d : Dict String β) (k k' : String) :
    (d.erase k).lookup k' = if k' = k then none else d.lookup k' := by
  by_cases h : k' = k
  · subst h
    rw [if_pos rfl, AList.lookup_erase]
  · rw [if_neg h, AList.lookup_erase_ne h]

section Preservation

variable {s t : State} {key : String} {p : PortEntry}

theorem Registered.congr (h : Registered s) (hdevices : t.devices = s.devices)
    (hports : t.ports = s.ports) (hclosed : t.closed = s.closed)
    (hkinds : ∀ c, (t.clients c).kind = (s.clients c).kind)
    (hclients : t.madeClients = s.madeClients) (htransports : t.madeTransports = s.madeTransports) :
    Registered t := by
  obtain ⟨named, refs, ported, client, noClient, ownClient, owned, borrowed, ownTransport,
    closed⟩ := h
  constructor
  all_goals simp only [On, hdevices, hports, hclosed, hkinds, hclients, htransports]
  · exact named
  · exact refs
  · intro name d key hd hkey
    obtain ⟨p, c, hp, hc, hr⟩ := ported hd hkey
    exact ⟨p, c, hp, hc, hr.client, hr.transport, hr.kind.trans (hkinds c).symm⟩
  · exact client
  · exact noClient
  · exact ownClient
  · exact owned
  · exact borrowed
  · exact ownTransport
  · exact closed

/-- What an entry has to satisfy to stand in the map under its key. -/
structure Fits (s : State) (key : String) (p : PortEntry) : Prop where
  client : ∀ c, p.client = some c → c < s.madeClients ∧ p.protocol = some (s.clients c).kind ∧
    ∀ k q, k ≠ key → s.ports.lookup k = some q → q.client ≠ some c
  noClient : p.client = none → p.protocol = none
  owned : p.ownsTransport = true → ∃ n, p.transport = .made n ∧ n < s.madeTransports ∧
    ∀ k q, k ≠ key → s.ports.lookup k = some q → q.ownsTransport = true → q.transport ≠ .made n
  borrowed : p.ownsTransport = false → ∃ id, p.transport = .caller id

theorem Registered.fits (h : Registered s) (hp : s.ports.lookup key = some p) : Fits s key p := by
  refine ⟨fun c hc => ⟨(h.client hp hc).1, (h.client hp hc).2, ?_⟩, h.noClient hp, ?_,
    h.borrowed hp⟩
  · intro k q hk hq hqc
    exact hk (h.ownClient hq hp hqc hc)
  · intro ho
    obtain ⟨n, hn, hlt⟩ := h.owned hp ho
    refine ⟨n, hn, hlt, ?_⟩
    intro k q hk hq hqo ht
    exact hk (h.ownTransport hq hp hqo ho (ht.trans hn.symm))

theorem Registered.update (h : Registered s) {D : Dict String DeviceEntry}
    (hnamed : ∀ name d, D.lookup name = some d → d.name = name)
    (helse : ∀ name d k, k ≠ key → d.portKey = some k →
      (D.lookup name = some d ↔ s.devices.lookup name = some d))
    (hrefs : ∀ name, name ∈ p.refs ↔ ∃ d, D.lookup name = some d ∧ d.portKey = some key)
    (hdevices : ∀ name d, D.lookup name = some d → d.portKey = some key →
      ∃ c, p.client = some c ∧ RunsOver s d p c)
    (hfits : Fits s key p) (hclosed : s.closed = true → D = ∅) :
    Registered { s with devices := D, ports := s.ports.insert key p } := by
  constructor
  · exact fun {name d} => hnamed name d
  · intro k q hq name
    rcases lookup_insert_cases hq with ⟨rfl, rfl⟩ | ⟨hk, hq⟩
    · exact hrefs name
    · rw [h.refs hq name]
      constructor
      · rintro ⟨d, hd, hdk⟩
        exact ⟨d, (helse name d k hk hdk).mpr hd, hdk⟩
      · rintro ⟨d, hd, hdk⟩
        exact ⟨d, (helse name d k hk hdk).mp hd, hdk⟩
  · intro name d k hd hdk
    dsimp only
    rw [lookup_insert_eq]
    split
    · rename_i hk
      obtain ⟨c, hc, hr⟩ := hdevices name d hd (hk ▸ hdk)
      exact ⟨p, c, rfl, hc, hr.client, hr.transport, hr.kind⟩
    · rename_i hk
      obtain ⟨q, c, hq, hc, hr⟩ := h.ported ((helse name d k hk hdk).mp hd) hdk
      exact ⟨q, c, hq, hc, hr.client, hr.transport, hr.kind⟩
  · intro k q c hq hc
    rcases lookup_insert_cases hq with ⟨rfl, rfl⟩ | ⟨-, hq⟩
    · exact ⟨(hfits.client c hc).1, (hfits.client c hc).2.1⟩
    · exact h.client hq hc
  · intro k q hq hc
    rcases lookup_insert_cases hq with ⟨rfl, rfl⟩ | ⟨-, hq⟩
    · exact hfits.noClient hc
    · exact h.noClient hq hc
  · intro k k' q q' c hq hq' hc hc'
    refine insert_apart (R := fun a b => a.client = some c ∧ b.client = some c) And.symm
      (fun ha hb hab => h.ownClient ha hb hab.1 hab.2) ?_ hq hq' ⟨hc, hc'⟩
    rintro i a hi ha ⟨hp, hac⟩
    exact (hfits.client c hp).2.2 i a hi ha hac
  · intro k q hq ho
    rcases lookup_insert_cases hq with ⟨rfl, rfl⟩ | ⟨-, hq⟩
    · obtain ⟨n, hn, hlt, -⟩ := hfits.owned ho
      exact ⟨n, hn, hlt⟩
    · exact h.owned hq ho
  · intro k q hq ho
    rcases lookup_insert_cases hq with ⟨rfl, rfl⟩ | ⟨-, hq⟩
    · exact hfits.borrowed ho
    · exact h.borrowed hq ho
  · intro k k' q q' hq hq' ho ho' ht
    refine insert_apart (R := fun a b => a.ownsTransport = true ∧ b.ownsTransport = true ∧
      a.transport = b.transport) (fun hab => ⟨hab.2.1, hab.1, hab.2.2.symm⟩)
      (fun ha hb hab => h.ownTransport ha hb hab.1 hab.2.1 hab.2.2) ?_ hq hq' ⟨ho, ho', ht⟩
    rintro i a hi ha ⟨hp, hao, hsame⟩
    obtain ⟨n, hn, -, hother⟩ := hfits.owned hp
    exact hother i a hi ha hao (hsame.symm.trans hn)
  · exact hclosed

theorem Registered.setPort (h : Registered s) (hrefs : ∀ name, name ∈ p.refs ↔ On s name key)
    (hdevices : ∀ name d, s.devices.lookup name = some d → d.portKey = some key →
      ∃ c, p.client = some c ∧ RunsOver s d p c)
    (hfits : Fits s key p) : Registered (s.setPort key p) :=
  h.update (fun _ _ => h.named) (fun _ _ _ _ _ => Iff.rfl) hrefs hdevices hfits h.closed

theorem Registered.erasePort (h : Registered s) (hnone : ∀ name, ¬ On s name key) :
    Registered { s with ports := s.ports.erase key } := by
  have hsub : ∀ {k q}, (s.ports.erase key).lookup k = some q →
      k ≠ key ∧ s.ports.lookup k = some q := by
    intro k q hq
    rw [lookup_erase_eq] at hq
    split at hq
    · cases hq
    · exact ⟨‹_›, hq⟩
  constructor
  · exact h.named
  · exact fun hq => h.refs (hsub hq).2
  · intro name d k hd hdk
    obtain ⟨q, c, hq, hc, hr⟩ := h.ported hd hdk
    have hk : k ≠ key := by
      rintro rfl
      exact hnone name ⟨d, hd, hdk⟩
    refine ⟨q, c, ?_, hc, hr.client, hr.transport, hr.kind⟩
    rw [lookup_erase_eq, if_neg hk]
    exact hq
  · exact fun hq => h.client (hsub hq).2
  · exact fun hq => h.noClient (hsub hq).2
  · exact fun hq hq' => h.ownClient (hsub hq).2 (hsub hq').2
  · exact fun hq => h.owned (hsub hq).2
  · exact fun hq => h.borrowed (hsub hq).2
  · exact fun hq hq' => h.ownTransport (hsub hq).2 (hsub hq').2
  · exact h.closed

theorem Registered.setDevices (h : Registered s) {D : Dict String DeviceEntry}
    (hnamed : ∀ name d, D.lookup name = some d → d.name = name)
    (hsame : ∀ name d k, d.portKey = some k →
      (D.lookup name = some d ↔ s.devices.lookup name = some d))
    (hclosed : s.closed = true → D = ∅) : Registered { s with devices := D } := by
  constructor
  · exact fun {name d} => hnamed name d
  · intro key p hp name
    rw [h.refs hp name]
    constructor
    · rintro ⟨d, hd, hdk⟩
      exact ⟨d, (hsame name d key hdk).mpr hd, hdk⟩
    · rintro ⟨d, hd, hdk⟩
      exact ⟨d, (hsame name d key hdk).mp hd, hdk⟩
  · intro name d key hd hdk
    obtain ⟨p, c, hp, hc, hr⟩ := h.ported ((hsame name d key hdk).mp hd) hdk
    exact ⟨p, c, hp, hc, hr.client, hr.transport, hr.kind⟩
  · exact h.client
  · exact h.noClient
  · exact h.ownClient
  · exact h.owned
  · exact h.borrowed
  · exact h.ownTransport
  · exact hclosed

theorem initial_registered (callers : ℕ → Transport) : Registered (initial callers) := by
  constructor <;> simp [initial, On]

theorem makeTransport_registered (h : Registered s) (t : Transport) :
    Registered (s.makeTransport t) := by
  obtain ⟨named, refs, ported, client, noClient, ownClient, owned, borrowed, ownTransport,
    closed⟩ := h
  refine ⟨named, refs, ?_, client, noClient, ownClient, ?_, borrowed, ownTransport, closed⟩
  · intro name d key hd hkey
    obtain ⟨p, c, hp, hc, hr⟩ := ported hd hkey
    exact ⟨p, c, hp, hc, hr.client, hr.transport, hr.kind⟩
  · intro key p hp ho
    obtain ⟨n, hn, hlt⟩ := owned hp ho
    exact ⟨n, hn, Nat.lt_succ_of_lt hlt⟩

theorem makeTransport_self (t : Transport) :
    (s.makeTransport t).transports (.made s.madeTransports) = t := Function.update_self ..

theorem makeTransport_other (t : Transport) {r : TransportRef} (h : r ≠ .made s.madeTransports) :
    (s.makeTransport t).transports r = s.transports r := Function.update_of_ne h ..

theorem Transport.setOpen_open {t : Transport} (h : t.isOpen = true) : t.setOpen true = t := by
  obtain ⟨typeName, isModbusBus, label, isOpen, opens⟩ := t
  cases h
  rfl

theorem Transport.open_of_bus {t : Transport} {b : ℕ} (h : t.bus = some b) : t.isOpen = true := by
  rw [Transport.bus] at h
  split at h
  · assumption
  · cases h

theorem setOpen_other (isOpen : Bool) {r r' : TransportRef} (h : r' ≠ r) :
    (s.setOpen r isOpen).transports r' = s.transports r' := Function.update_of_ne h ..

@[simp] theorem setOpen_self (r : TransportRef) (isOpen : Bool) :
    ((s.setOpen r isOpen).transports r).isOpen = isOpen := by
  simp [State.setOpen, Transport.setOpen]

theorem setOpen_open {r r' : TransportRef} (h : (s.transports r').isOpen = true) :
    (s.setOpen r true).transports r' = s.transports r' := by
  by_cases hr : r' = r
  · subst hr
    change Function.update s.transports r' ((s.transports r').setOpen true) r' = s.transports r'
    rw [Function.update_self, Transport.setOpen_open h]
  · exact setOpen_other true hr

theorem makeClient_old (client : ProtocolClient) {c : ℕ} (h : c < s.madeClients) :
    (s.makeClient client).clients c = s.clients c := Function.update_of_ne (Nat.ne_of_lt h) ..

theorem makeClient_new (client : ProtocolClient) :
    (s.makeClient client).clients s.madeClients = client := Function.update_self ..

theorem makeClient_registered (h : Registered s) (new : ProtocolClient) :
    Registered (s.makeClient new) := by
  obtain ⟨named, refs, ported, client, noClient, ownClient, owned, borrowed, ownTransport,
    closed⟩ := h
  refine ⟨named, refs, ?_, ?_, noClient, ownClient, owned, borrowed, ownTransport, closed⟩
  · intro name d key hd hkey
    obtain ⟨p, c, hp, hc, hr⟩ := ported hd hkey
    refine ⟨p, c, hp, hc, hr.client, hr.transport, ?_⟩
    rw [makeClient_old new (client hp hc).1]
    exact hr.kind
  · intro key p c hp hc
    obtain ⟨hlt, hkind⟩ := client hp hc
    refine ⟨Nat.lt_succ_of_lt hlt, ?_⟩
    rw [makeClient_old new hlt]
    exact hkind

theorem setOpen_registered (h : Registered s) (r : TransportRef) (isOpen : Bool) :
    Registered (s.setOpen r isOpen) :=
  h.congr rfl rfl rfl (fun _ => rfl) rfl rfl

theorem dispose_kind (c c' : ℕ) : ((s.dispose c).clients c').kind = (s.clients c').kind := by
  by_cases h : c' = c
  · subst h
    simp [State.dispose]
  · simp [State.dispose, h]

theorem dispose_registered (h : Registered s) (c : ℕ) : Registered (s.dispose c) :=
  h.congr rfl rfl rfl (dispose_kind c) rfl rfl

end Preservation

section Frames

variable {s t u : State} {key : String} {p : PortEntry}

/-- What a step on one port leaves alone: the devices, and every other port with its client and,
where the manager owns it or it is open, its transport. -/
structure Frame (key : String) (s t : State) : Prop where
  devices : t.devices = s.devices
  closed : t.closed = s.closed
  ports : ∀ k, k ≠ key → t.ports.lookup k = s.ports.lookup k
  clients : ∀ k p c, k ≠ key → s.ports.lookup k = some p → p.client = some c →
    t.clients c = s.clients c
  transports : ∀ k p, k ≠ key → s.ports.lookup k = some p →
    p.ownsTransport = true ∨ (s.transports p.transport).isOpen = true →
    t.transports p.transport = s.transports p.transport

theorem Frame.refl (key : String) (s : State) : Frame key s s :=
  ⟨rfl, rfl, fun _ _ => rfl, fun _ _ _ _ _ _ => rfl, fun _ _ _ _ _ => rfl⟩

theorem Frame.trans (h : Frame key s t) (k : Frame key t u) : Frame key s u := by
  refine ⟨k.devices.trans h.devices, k.closed.trans h.closed, ?_, ?_, ?_⟩
  · intro k' hk
    exact (k.ports k' hk).trans (h.ports k' hk)
  · intro k' p c hk hp hc
    exact (k.clients k' p c hk ((h.ports k' hk).trans hp) hc).trans (h.clients k' p c hk hp hc)
  · intro k' p hk hp ho
    have hfirst := h.transports k' p hk hp ho
    rw [← hfirst] at ho
    exact (k.transports k' p hk ((h.ports k' hk).trans hp) ho).trans hfirst

theorem other_transport (h : Registered s) (hp : s.ports.lookup key = some p) {k : String}
    {q : PortEntry} (hk : k ≠ key) (hq : s.ports.lookup k = some q) (ho : q.ownsTransport = true) :
    q.transport ≠ p.transport := by
  intro ht
  cases hpo : p.ownsTransport with
  | true => exact hk (h.ownTransport hq hp ho hpo ht)
  | false =>
    obtain ⟨n, hn, -⟩ := h.owned hq ho
    obtain ⟨id, hid⟩ := h.borrowed hp hpo
    rw [hn, hid] at ht
    cases ht

theorem open_frame (h : Registered s) (hp : s.ports.lookup key = some p) :
    Frame key s (s.setOpen p.transport true) := by
  refine ⟨rfl, rfl, fun _ _ => rfl, fun _ _ _ _ _ _ => rfl, ?_⟩
  rintro k q hk hq (ho | hopen)
  · exact setOpen_other true (other_transport h hp hk hq ho)
  · exact setOpen_open hopen

theorem close_frame (h : Registered s) (hp : s.ports.lookup key = some p)
    (howned : p.ownsTransport = true) : Frame key s (s.setOpen p.transport false) := by
  refine ⟨rfl, rfl, fun _ _ => rfl, fun _ _ _ _ _ _ => rfl, ?_⟩
  intro k q hk hq _
  refine setOpen_other false fun ht => ?_
  exact other_transport h hq (Ne.symm hk) hp howned ht.symm

theorem setPort_frame : Frame key s (s.setPort key p) := by
  refine ⟨rfl, rfl, ?_, fun _ _ _ _ _ _ => rfl, fun _ _ _ _ _ => rfl⟩
  intro k hk
  exact (lookup_insert_eq _ _ _ _).trans (if_neg hk)

theorem erasePort_frame : Frame key s { s with ports := s.ports.erase key } := by
  refine ⟨rfl, rfl, ?_, fun _ _ _ _ _ _ => rfl, fun _ _ _ _ _ => rfl⟩
  intro k hk
  exact (lookup_erase_eq _ _ _).trans (if_neg hk)

theorem makeTransport_frame (h : Registered s) (new : Transport) :
    Frame key s (s.makeTransport new) := by
  refine ⟨rfl, rfl, fun _ _ => rfl, fun _ _ _ _ _ _ => rfl, ?_⟩
  intro k p hk hp _
  apply makeTransport_other
  intro hmade
  cases ho : p.ownsTransport with
  | true =>
    obtain ⟨n, hn, hlt⟩ := h.owned hp ho
    cases hn.symm.trans hmade
    exact Nat.lt_irrefl _ hlt
  | false =>
    obtain ⟨id, hid⟩ := h.borrowed hp ho
    cases hid.symm.trans hmade

theorem makeClient_frame (h : Registered s) (new : ProtocolClient) :
    Frame key s (s.makeClient new) := by
  refine ⟨rfl, rfl, fun _ _ => rfl, ?_, fun _ _ _ _ _ => rfl⟩
  intro k p c hk hp hc
  exact makeClient_old new (h.client hp hc).1

theorem dispose_frame (h : Registered s) {c : ℕ} (hp : s.ports.lookup key = some p)
    (hc : p.client = some c) : Frame key s (s.dispose c) := by
  refine ⟨rfl, rfl, fun _ _ => rfl, ?_, fun _ _ _ _ _ => rfl⟩
  intro k q c' hk hq hc'
  have hne : c' ≠ c := by
    rintro rfl
    exact hk (h.ownClient hq hp hc' hc)
  exact Function.update_of_ne hne ..

end Frames

section Opening

variable {s t : State} {key : String} {p : PortEntry}

theorem insert_erase (d : Dict String PortEntry) (key : String) (p : PortEntry) :
    (d.insert key p).erase key = d.erase key := by
  apply AList.ext
  change List.kerase key (List.kinsert key p d.entries) = List.kerase key d.entries
  rw [List.kinsert_def]
  exact List.kerase_cons_eq rfl

theorem erase_absent (d : Dict String PortEntry) {key : String} (h : d.lookup key = none) :
    d.erase key = d := by
  apply AList.ext
  exact List.kerase_of_notMem_keys (AList.lookup_eq_none.mp h)

theorem ensureOpen_error {openEnd : Option PyError} {r : TransportRef} {e : PyError}
    (h : ensureOpen openEnd r s = (.error e, t)) : t = s := by
  simp only [ensureOpen] at h
  split at h
  · cases h
  · split at h
    · exact (Prod.mk.inj h).2.symm
    · cases h

theorem ensureOpen_ok {openEnd : Option PyError} {r : TransportRef} {u : PUnit}
    (h : ensureOpen openEnd r s = (.ok u, t)) :
    (t = s ∨ t = s.setOpen r true) ∧ (t.transports r).isOpen = true := by
  simp only [ensureOpen] at h
  split at h
  · cases h
    exact ⟨Or.inl rfl, ‹_›⟩
  · split at h
    · cases h
    · cases h
      exact ⟨Or.inr rfl, setOpen_self r true⟩

def withClient (key : String) (p : PortEntry) (protocol : ProtocolKind) (s : State) : State :=
  (s.makeClient (newClient protocol (s.transports p.transport))).setPort key
    { p with client := some s.madeClients, protocol := some protocol }

theorem ensureClient_error {protocol : ProtocolKind} {e : PyError}
    (h : ensureClient key p protocol s = (.error e, t)) : t = s := by
  simp only [ensureClient] at h
  split at h
  · cases h
  · split at h
    · exact (Prod.mk.inj h).2.symm
    · cases h

theorem ensureClient_ok {protocol : ProtocolKind} {c : ℕ}
    (h : ensureClient key p protocol s = (.ok c, t)) :
    (p.client = some c ∧ t = s) ∨
      (p.client = none ∧ c = s.madeClients ∧ t = withClient key p protocol s) := by
  simp only [ensureClient] at h
  split at h
  · cases h
    exact Or.inl ⟨‹_›, rfl⟩
  · split at h
    · cases h
    · cases h
      exact Or.inr ⟨‹_›, rfl, rfl⟩

theorem withClient_registered {protocol : ProtocolKind} (h : Registered s)
    (hp : s.ports.lookup key = some p) (hc : p.client = none) :
    Registered (withClient key p protocol s) := by
  have hnone : ∀ name d, s.devices.lookup name = some d → d.portKey ≠ some key := by
    intro name d hd hkey
    obtain ⟨q, c, hq, hqc, -⟩ := h.ported hd hkey
    cases hp.symm.trans hq
    rw [hc] at hqc
    cases hqc
  apply (makeClient_registered h (newClient protocol (s.transports p.transport))).setPort
  · exact fun name => h.refs hp name
  · intro name d hd hkey
    exact absurd hkey (hnone name d hd)
  · refine ⟨?_, nofun, ?_, (h.fits hp).borrowed⟩
    · intro c hcn
      cases hcn
      refine ⟨Nat.lt_succ_self _, ?_, ?_⟩
      · rw [makeClient_new]
        rfl
      · intro k q hk hq hqc
        exact Nat.lt_irrefl _ (h.client hq hqc).1
    · exact (h.fits hp).owned

/-- The port's client, if it keeps a Bus, keeps the one that its transport has now. -/
def Attached (s : State) (p : PortEntry) : Prop :=
  ∀ c b, p.client = some c → (s.clients c).bus = some b → (s.transports p.transport).bus = some b

/-- What opening a controller on a port leaves there, whether or not it succeeds. -/
structure Opened (key : String) (p : PortEntry) (s t : State) (p' : PortEntry) : Prop where
  registered : Registered t
  frame : Frame key s t
  lookup : t.ports.lookup key = some p'
  erased : t.ports.erase key = s.ports.erase key
  refs : p'.refs = p.refs
  transport : p'.transport = p.transport ∧ p'.ownsTransport = p.ownsTransport
  steady : (s.transports p.transport).isOpen = true →
    t.transports p.transport = s.transports p.transport
  attached : Attached s p → Attached t p'
  kept : ∀ c, p.client = some c → t.ports = s.ports ∧ p' = p ∧ t.clients = s.clients
  made : p.client = none → ∀ c, p'.client = some c → (t.clients c).disposed = false

theorem Opened.refl (h : Registered s) (hp : s.ports.lookup key = some p) : Opened key p s s p :=
  ⟨h, .refl key s, hp, rfl, rfl, ⟨rfl, rfl⟩, fun _ => rfl, id, fun _ _ => ⟨rfl, rfl, rfl⟩,
    fun hn _ hc => absurd (hn.symm.trans hc) nofun⟩

theorem Opened.setOpen (h : Registered s) (hp : s.ports.lookup key = some p) :
    Opened key p s (s.setOpen p.transport true) p := by
  refine ⟨setOpen_registered h _ _, open_frame h hp, hp, rfl, rfl, ⟨rfl, rfl⟩, setOpen_open, ?_,
    fun _ _ => ⟨rfl, rfl, rfl⟩, fun hn _ hc => absurd (hn.symm.trans hc) nofun⟩
  intro hattached c b hc hb
  have hbus := hattached c b hc hb
  rw [setOpen_open (Transport.open_of_bus hbus)]
  exact hbus

theorem Opened.withClient {p' : PortEntry} {protocol : ProtocolKind} (h : Opened key p s t p')
    (hc : p.client = none) (hc' : p'.client = none) :
    Opened key p s (withClient key p' protocol t)
      { p' with client := some t.madeClients, protocol := some protocol } := by
  refine ⟨withClient_registered h.registered h.lookup hc', ?_, ?_, ?_, h.refs, h.transport,
    h.steady, ?_, ?_, ?_⟩
  · exact h.frame.trans ((makeClient_frame h.registered _).trans setPort_frame)
  · exact (lookup_insert_eq _ _ _ _).trans (if_pos rfl)
  · exact (insert_erase _ _ _).trans h.erased
  · intro _ c b hcn hb
    cases hcn
    change ((t.makeClient _).clients t.madeClients).bus = some b at hb
    rw [makeClient_new, newClient] at hb
    dsimp only at hb
    split at hb
    · exact hb
    · cases hb
  · intro c hcs
    cases hc.symm.trans hcs
  · intro _ c hcn
    cases hcn
    change ((t.makeClient _).clients t.madeClients).disposed = false
    rw [makeClient_new]
    rfl

structure Bound (s : State) (p : PortEntry) (c : Controller) : Prop where
  client : ∃ n, p.client = some n ∧ c.client = .made n ∧ c.session.kind = (s.clients n).kind
  transport : c.transport = p.transport
  isOpen : (s.transports p.transport).isOpen = true

theorem openController_spec {env : AddEnv} {args : AddArgs}
    {unit : Option PollAttribution.MeasureUnit}
    {settings : Option SerialSettings} {r : Result Controller} (h : Registered s)
    (hp : s.ports.lookup key = some p)
    (hr : openControllerOnPort env args unit settings key p s = (r, t)) :
    ∃ p', Opened key p s t p' ∧ ∀ c, r = .ok c → Bound t p' c := by
  have hsame : ∀ e, (.error e, s) = (r, t) →
      ∃ p', Opened key p s t p' ∧ ∀ c, r = .ok c → Bound t p' c := by
    intro e he
    obtain ⟨rfl, rfl⟩ := Prod.mk.inj he
    refine ⟨p, .refl h hp, ?_⟩
    intro c hc
    cases hc
  simp only [openControllerOnPort] at hr
  split at hr
  · exact hsame _ hr
  split at hr
  · exact hsame _ hr
  cases ho : ensureOpen env.openEnd p.transport s with
  | mk x s₁ =>
    rw [ho] at hr
    cases x with
    | error e =>
      rw [andThen_error, ensureOpen_error ho] at hr
      exact hsame e hr
    | ok u =>
      rw [andThen_ok] at hr
      obtain ⟨hs₁, hopen⟩ := ensureOpen_ok ho
      have h₁ : Opened key p s s₁ p := by
        rcases hs₁ with rfl | rfl
        · exact .refl h hp
        · exact .setOpen h hp
      cases hcl : ensureClient key p args.protocol s₁ with
      | mk y s₂ =>
        rw [hcl] at hr
        cases y with
        | error e =>
          rw [andThen_error, ensureClient_error hcl] at hr
          obtain ⟨rfl, rfl⟩ := Prod.mk.inj hr
          refine ⟨p, h₁, ?_⟩
          intro c hc
          cases hc
        | ok n =>
          rw [andThen_ok] at hr
          have h₂ : ∃ p', Opened key p s s₂ p' ∧ p'.client = some n ∧
              (s₂.transports p'.transport).isOpen = true ∧ p'.transport = p.transport := by
            rcases ensureClient_ok hcl with ⟨hn, rfl⟩ | ⟨hn, rfl, rfl⟩
            · exact ⟨p, h₁, hn, hopen, rfl⟩
            · exact ⟨_, h₁.withClient hn hn, rfl, hopen, rfl⟩
          obtain ⟨p', hp', hclient, hopen', htransport⟩ := h₂
          split at hr
          · obtain ⟨rfl, rfl⟩ := Prod.mk.inj hr
            refine ⟨p', hp', ?_⟩
            intro c hc
            cases hc
          · obtain ⟨rfl, rfl⟩ := Prod.mk.inj hr
            refine ⟨p', hp', ?_⟩
            intro c hc
            cases hc
            exact ⟨⟨n, hclient, rfl, rfl⟩, htransport.symm, hopen'⟩

end Opening

section Teardown

variable {s t : State} {key : String} {p : PortEntry} {ends : PortEnds}

structure Loosened (key : String) (s t : State) : Prop where
  registered : Registered t
  frame : Frame key s t
  ports : t.ports = s.ports
  attempts : t.attempts = s.attempts

theorem disposeClient_spec (ends : PortEnds) (h : Registered s) (hp : s.ports.lookup key = some p) :
    Loosened key s (disposeClient ends p s).2 ∧
      (disposeClient ends p s).2.transports = s.transports ∧
      (disposeClient ends p s).2.failures = s.failures ++ (disposeClient ends p s).1.toList := by
  have hrefl : Loosened key s s := ⟨h, .refl key s, rfl, rfl⟩
  simp only [disposeClient]
  split
  · exact ⟨hrefl, rfl, by simp⟩
  · rename_i c hc
    split
    · exact ⟨hrefl, rfl, by simp⟩
    · split
      · exact ⟨⟨dispose_registered h c, dispose_frame h hp hc, rfl, rfl⟩, rfl, by
          simp [State.dispose]⟩
      · refine ⟨⟨h.congr rfl rfl rfl (fun _ => rfl) rfl rfl, ?_, rfl, rfl⟩, rfl, by simp⟩
        exact ⟨rfl, rfl, fun _ _ => rfl, fun _ _ _ _ _ _ => rfl, fun _ _ _ _ _ => rfl⟩

theorem closeTransport_spec (ends : PortEnds) (h : Registered s)
    (hp : s.ports.lookup key = some p) :
    Loosened key s (closeTransport ends p s).2 ∧
      (closeTransport ends p s).2.failures = s.failures ++ (closeTransport ends p s).1.toList := by
  simp only [closeTransport]
  split
  · rename_i howned
    refine ⟨⟨(setOpen_registered h p.transport false).congr rfl rfl rfl (fun _ => rfl) rfl rfl,
      ?_, rfl, rfl⟩, rfl⟩
    have hframe := close_frame h hp howned.1
    exact ⟨hframe.devices, hframe.closed, hframe.ports, hframe.clients, hframe.transports⟩
  · exact ⟨⟨h, .refl key s, rfl, rfl⟩, by simp⟩

theorem swallow_ok_iff {raised : Option PyError} {u : PUnit} :
    swallow raised = .ok u ↔ ∀ e, raised = some e → e.kind ≠ .cancelled := by
  cases raised with
  | none => simp [swallow]
  | some e =>
    by_cases he : e.kind = .cancelled
    · simp [swallow, he]
    · simp [swallow, he]

theorem swallow_error {raised : Option PyError} {e : PyError} (h : swallow raised = .error e) :
    raised = some e ∧ e.kind = .cancelled := by
  cases raised with
  | none => cases h
  | some e' =>
    by_cases he : e'.kind = .cancelled
    · rw [swallow, if_pos he] at h
      cases h
      exact ⟨rfl, he⟩
    · rw [swallow, if_neg he] at h
      cases h

def logAttempt (key : String) (s : State) : State :=
  { s with attempts := s.attempts ++ [⟨key, s.registered key⟩] }

theorem logAttempt_registered (h : Registered s) : Registered (logAttempt key s) :=
  h.congr rfl rfl rfl (fun _ => rfl) rfl rfl

/-- How the client's `dispose` would end in a teardown now, with what it raises. -/
def disposeRaises (ends : PortEnds) (p : PortEntry) (s : State) : Option PyError :=
  match p.client with
  | none => none
  | some c => if (s.clients c).disposed then none else ends.disposeEnd

def closeRaises (ends : PortEnds) (p : PortEntry) (s : State) : Option PyError :=
  if p.ownsTransport = true ∧ (s.transports p.transport).isOpen = true then ends.closeEnd else none

/-- The errors of the calls that a teardown makes, as they come: none once a call is cancelled. -/
def raisedIn (ends : PortEnds) (p : PortEntry) (s : State) : List PyError :=
  match swallow (disposeRaises ends p s) with
  | .ok _ => (disposeRaises ends p s).toList ++ (closeRaises ends p s).toList
  | .error e => [e]

theorem disposeClient_raised : (disposeClient ends p s).1 = disposeRaises ends p s := by
  simp only [disposeClient, disposeRaises]
  cases p.client with
  | none => rfl
  | some c =>
    by_cases hd : (s.clients c).disposed = true
    · simp only [hd, if_true]
    · cases he : ends.disposeEnd <;> simp only [hd, if_false, Bool.false_eq_true]

theorem closeTransport_raised : (closeTransport ends p s).1 = closeRaises ends p s := by
  simp only [closeTransport, closeRaises]
  split <;> rfl

/-- A teardown takes the port out of the map, or leaves it there when a cancellation passes. -/
structure TornDown (ends : PortEnds) (key : String) (p : PortEntry) (s : State)
    (r : Result PUnit) (t : State) : Prop where
  registered : Registered t
  frame : Frame key s t
  attempts : t.attempts = s.attempts ++ [⟨key, s.registered key⟩]
  failures : t.failures = s.failures ++ raisedIn ends p s
  done : r = .ok ⟨⟩ → t.ports = s.ports.erase key
  passed : ∀ e, r = .error e → t.ports = s.ports ∧ e.kind = .cancelled ∧ e ∈ raisedIn ends p s

theorem Loosened.trans {u : State} (h : Loosened key s t) (k : Loosened key t u) :
    Loosened key s u :=
  ⟨k.registered, h.frame.trans k.frame, k.ports.trans h.ports, k.attempts.trans h.attempts⟩

theorem logAttempt_frame : Frame key s (logAttempt key s) :=
  ⟨rfl, rfl, fun _ _ => rfl, fun _ _ _ _ _ _ => rfl, fun _ _ _ _ _ => rfl⟩

theorem tornDown_cancelled {e : PyError} (h : Loosened key (logAttempt key s) t)
    (hfailures : t.failures = s.failures ++ raisedIn ends p s) (hkind : e.kind = .cancelled)
    (hmem : e ∈ raisedIn ends p s) : TornDown ends key p s (.error e) t := by
  refine ⟨h.registered, logAttempt_frame.trans h.frame, h.attempts, hfailures, ?_, ?_⟩
  · intro he
    cases he
  · intro e' he
    cases he
    exact ⟨h.ports, hkind, hmem⟩

theorem tornDown_erased (hnone : ∀ name, ¬ On s name key) (h : Loosened key (logAttempt key s) t)
    (hfailures : t.failures = s.failures ++ raisedIn ends p s) :
    TornDown ends key p s (.ok ⟨⟩) { t with ports := t.ports.erase key } := by
  have hframe : Frame key s t := logAttempt_frame.trans h.frame
  refine ⟨h.registered.erasePort ?_, hframe.trans erasePort_frame, h.attempts, hfailures, ?_, ?_⟩
  · rintro name ⟨d, hdevice, hkey⟩
    rw [hframe.devices] at hdevice
    exact hnone name ⟨d, hdevice, hkey⟩
  · intro _
    exact congrArg (fun d => AList.erase key d) h.ports
  · intro e he
    cases he

theorem maybeTeardownPort_spec {r : Result PUnit} (h : Registered s)
    (hp : s.ports.lookup key = some p) (hrefs : p.refs = ∅)
    (hr : maybeTeardownPort ends key p s = (r, t)) : TornDown ends key p s r t := by
  have hnone : ∀ name, ¬ On s name key := by
    intro name hon
    have hmem := (h.refs hp name).mpr hon
    rw [hrefs] at hmem
    exact Finset.notMem_empty name hmem
  have hlog : Registered (logAttempt key s) := logAttempt_registered h
  obtain ⟨hdispose, htransports, hdisposed⟩ := disposeClient_spec ends hlog hp
  have hd : (disposeClient ends p (logAttempt key s)).1 = disposeRaises ends p s :=
    disposeClient_raised
  change andThen (swallow (disposeClient ends p (logAttempt key s)).1,
    (disposeClient ends p (logAttempt key s)).2) _ = _ at hr
  generalize (disposeClient ends p (logAttempt key s)).2 = s₁ at *
  rw [hd] at hr hdisposed
  cases hsw : swallow (disposeRaises ends p s) with
  | error e =>
    rw [hsw, andThen_error] at hr
    obtain ⟨rfl, rfl⟩ := Prod.mk.inj hr
    obtain ⟨hsome, hkind⟩ := swallow_error hsw
    have heq : raisedIn ends p s = [e] := by rw [raisedIn, hsw]
    refine tornDown_cancelled hdispose ?_ hkind (by simp [heq])
    rw [heq, hdisposed, hsome]
    rfl
  | ok u =>
    rw [hsw, andThen_ok] at hr
    have hp₁ : s₁.ports.lookup key = some p := by
      rw [hdispose.ports]
      exact hp
    obtain ⟨hclose, hclosed⟩ := closeTransport_spec ends hdispose.registered hp₁
    have hc : (closeTransport ends p s₁).1 = closeRaises ends p s := by
      rw [closeTransport_raised, closeRaises, htransports]
      rfl
    have heq : raisedIn ends p s =
        (disposeRaises ends p s).toList ++ (closeRaises ends p s).toList := by rw [raisedIn, hsw]
    dsimp only at hr
    generalize (closeTransport ends p s₁).2 = s₂ at *
    rw [hc] at hr hclosed
    have hfailures : s₂.failures = s.failures ++ raisedIn ends p s := by
      rw [heq, hclosed, hdisposed, List.append_assoc]
      rfl
    cases hsw' : swallow (closeRaises ends p s) with
    | error e =>
      rw [hsw', andThen_error] at hr
      obtain ⟨rfl, rfl⟩ := Prod.mk.inj hr
      obtain ⟨hsome, hkind⟩ := swallow_error hsw'
      refine tornDown_cancelled (hdispose.trans hclose) hfailures hkind ?_
      rw [heq, hsome]
      simp
    | ok u' =>
      rw [hsw', andThen_ok] at hr
      obtain ⟨rfl, rfl⟩ := Prod.mk.inj hr
      exact tornDown_erased hnone (hdispose.trans hclose) hfailures

/-- A cancellation lands in the `close` of the port's transport. -/
def Cancelling (ends : PortEnds) : Prop := ∃ e, ends.closeEnd = some e ∧ e.kind = .cancelled

/-- The teardown of the port gets to the `close` of its transport, and is cancelled there. -/
def Interrupted (ends : PortEnds) (p : PortEntry) (s : State) : Prop :=
  p.ownsTransport = true ∧ (s.transports p.transport).isOpen = true ∧ Cancelling ends

theorem TornDown.interrupted {r : Result PUnit} {e : PyError} (h : TornDown ends key p s r t)
    (he : r = .error e) : Interrupted ends p s := by
  obtain ⟨-, hkind, hmem⟩ := h.passed e he
  have hsync : swallow (disposeRaises ends p s) = .ok ⟨⟩ := by
    rw [swallow_ok_iff]
    intro e' he'
    simp only [disposeRaises] at he'
    split at he'
    · cases he'
    · split at he'
      · cases he'
      · exact ends.synchronous e' he'
  have hnot := swallow_ok_iff.mp hsync
  rw [raisedIn, hsync] at hmem
  simp only [List.mem_append, Option.mem_toList] at hmem
  have hclose := hmem.resolve_left fun hd => hnot e hd hkind
  simp only [closeRaises] at hclose
  split at hclose
  · rename_i hopen
    exact ⟨hopen.1, hopen.2, e, hclose, hkind⟩
  · cases hclose

theorem TornDown.gone {r : Result PUnit} (h : TornDown ends key p s r t)
    (hnot : ¬ Interrupted ends p s) : r = .ok ⟨⟩ ∧ t.ports = s.ports.erase key := by
  cases r with
  | ok u => exact ⟨rfl, h.done rfl⟩
  | error e => exact absurd (h.interrupted rfl) hnot

end Teardown

section Liveness

variable {s t : State} {key : String} {p : PortEntry}

/-- The port is in use, its client works, and its transport is open if the manager owns it. -/
structure LivePort (s : State) (p : PortEntry) : Prop where
  refs : p.refs ≠ ∅
  client : ∃ c, p.client = some c ∧ (s.clients c).disposed = false
  isOpen : p.ownsTransport = true → (s.transports p.transport).isOpen = true

def Live (s : State) : Prop := ∀ key p, s.ports.lookup key = some p → LivePort s p

theorem Frame.live {k : String} (h : Frame key s t) (hs : Live s) (hk : k ≠ key)
    (hp : t.ports.lookup k = some p) : LivePort t p := by
  rw [h.ports k hk] at hp
  obtain ⟨hrefs, ⟨c, hc, hlive⟩, hopen⟩ := hs k p hp
  refine ⟨hrefs, ⟨c, hc, ?_⟩, fun ho => ?_⟩
  · rw [h.clients k p c hk hp hc]
    exact hlive
  · rw [h.transports k p hk hp (Or.inl ho)]
    exact hopen ho

theorem Frame.live_of_gone (h : Frame key s t) (hs : Live s)
    (hgone : t.ports.lookup key = none) : Live t := by
  intro k q hq
  by_cases hk : k = key
  · subst hk
    rw [hgone] at hq
    cases hq
  · exact h.live hs hk hq

theorem Opened.live {p' : PortEntry} (h : Opened key p s t p') (hlive : Live s)
    (hp : s.ports.lookup key = some p) : t.ports = s.ports ∧ Live t := by
  obtain ⟨hrefs, ⟨c, hc, hdisposed⟩, hopen⟩ := hlive key p hp
  obtain ⟨hports, -, hclients⟩ := h.kept c hc
  refine ⟨hports, ?_⟩
  intro k q hq
  by_cases hk : k = key
  · subst hk
    rw [hports, hp] at hq
    cases hq
    refine ⟨hrefs, ⟨c, hc, by rw [hclients]; exact hdisposed⟩, fun ho => ?_⟩
    rw [h.steady (hopen ho)]
    exact hopen ho
  · exact h.frame.live hlive hk hq

/-- No port has a client whose Bus its transport has given up. -/
def Current (s : State) : Prop := ∀ key p, s.ports.lookup key = some p → Attached s p

theorem Frame.current (h : Frame key s t) (hs : Current s)
    (hkey : ∀ p, t.ports.lookup key = some p → Attached t p) : Current t := by
  intro k q hq
  by_cases hk : k = key
  · subst hk
    exact hkey q hq
  · rw [h.ports k hk] at hq
    intro c b hc hb
    rw [h.clients k q c hk hq hc] at hb
    have hbus := hs k q hq c b hc hb
    rw [h.transports k q hk hq (Or.inr (Transport.open_of_bus hbus))]
    exact hbus

theorem Frame.current_of_gone (h : Frame key s t) (hs : Current s)
    (hgone : t.ports.lookup key = none) : Current t := by
  refine h.current hs fun p hp => ?_
  rw [hgone] at hp
  cases hp

theorem Opened.current {p' : PortEntry} (h : Opened key p s t p') (hs : Current s)
    (hp : s.ports.lookup key = some p) : Current t := by
  refine h.frame.current hs fun q hq => ?_
  cases h.lookup.symm.trans hq
  exact h.attached (hs key p hp)

theorem Current.congr (hs : Current s) (hclients : t.clients = s.clients)
    (htransports : t.transports = s.transports)
    (hports : ∀ k p, t.ports.lookup k = some p → ∃ q refs, s.ports.lookup k = some q ∧
      p = { q with refs := refs }) : Current t := by
  intro k p hp c b hc hb
  obtain ⟨q, refs, hq, rfl⟩ := hports k p hp
  rw [hclients] at hb
  rw [htransports]
  exact hs k q hq c b hc hb

end Liveness

end ManagerPorts
