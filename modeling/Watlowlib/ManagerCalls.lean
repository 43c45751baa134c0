import Watlowlib.ManagerPorts

/-! # The calls of the manager

What `add` and `remove` do to the maps as a whole: they keep them tied together however they end,
and they keep every port live unless a cancellation lands in the `close` of a transport. -/
namespace ManagerCalls

open Dictionaries ExceptRules Manager ManagerPorts PythonValues SessionExecute WatlowErrors

section Adding

variable {s t : State} {key : String} {p : PortEntry} {env : AddEnv} {args : AddArgs}
  {unit : Option PollAttribution.MeasureUnit} {settings : Option SerialSettings}

theorem makePortTransport_ok {protocol : ProtocolKind} {settings : SerialSettings}
    {transport : Transport} (h : makePortTransport protocol settings = .ok transport) :
    protocol ≠ .auto ∧ transport.isOpen = false ∧
      (protocol = .modbusRtu → transport.isModbusBus = true) := by
  simp only [makePortTransport] at h
  split at h
  · obtain ⟨_, -, h⟩ := bind_ok_iff.mp h
    cases h
    exact ⟨by decide, rfl, fun _ => rfl⟩
  · cases h
    exact ⟨by decide, rfl, fun h => by cases h⟩
  · cases h

/-- A port entry as it is built: unused and without a client. A transport that the manager owns
is closed and fits the protocol. -/
structure Fresh (protocol : ProtocolKind) (p : PortEntry) (s : State) : Prop where
  refs : p.refs = ∅
  client : p.client = none
  owned : p.ownsTransport = true → protocol ≠ .auto ∧ (s.transports p.transport).isOpen = false ∧
    (protocol = .modbusRtu → (s.transports p.transport).isModbusBus = true)

/-- The port that the source names is built, with the transport that goes with it. -/
def Builds (source : Source) (protocol : ProtocolKind) (settings : Option SerialSettings) : Prop :=
  ∃ name transport, source = .port name ∧
    makePortTransport protocol (settings.getD { port := name }) = .ok transport

theorem buildPortEntry_spec {source : Source} {protocol : ProtocolKind}
    (hsource : ∀ c, source ≠ .controller c) (h : Registered s) (hkey : s.ports.lookup key = none)
    (hb : buildPortEntry source key protocol settings s = (.ok p, t)) :
    Registered (t.setPort key p) ∧ Frame key s (t.setPort key p) ∧ t.ports = s.ports ∧
      Fresh protocol p (t.setPort key p) ∧
      (p.ownsTransport = true → Builds source protocol settings) := by
  have hon : ∀ name d, s.devices.lookup name = some d → d.portKey ≠ some key := by
    intro name d hd hdk
    obtain ⟨q, -, hq, -⟩ := h.ported hd hdk
    rw [hkey] at hq
    cases hq
  have hrefs : ∀ name, name ∈ (∅ : Finset String) ↔ On s name key := by
    intro name
    refine iff_of_false (Finset.notMem_empty name) ?_
    rintro ⟨d, hd, hdk⟩
    exact hon name d hd hdk
  cases source with
  | controller c => exact absurd rfl (hsource c)
  | transport id =>
    cases hb
    refine ⟨h.setPort hrefs (fun name d hd hdk => absurd hdk (hon name d hd)) ?_, setPort_frame,
      rfl, ⟨rfl, rfl, ?_⟩, ?_⟩
    · exact ⟨fun c hc => absurd hc (by simp), fun _ => rfl, fun ho => absurd ho (by simp),
        fun _ => ⟨id, rfl⟩⟩
    · intro ho
      cases ho
    · intro ho
      cases ho
  | port name =>
    simp only [buildPortEntry] at hb
    cases hm : makePortTransport protocol (settings.getD { port := name }) with
    | error e =>
      rw [hm] at hb
      cases hb
    | ok transport =>
      rw [hm] at hb
      obtain ⟨hp, ht⟩ := Prod.mk.inj hb
      cases hp
      subst ht
      refine ⟨(makeTransport_registered h transport).setPort hrefs
        (fun name d hd hdk => absurd hdk (hon name d hd)) ?_,
        (makeTransport_frame h transport).trans setPort_frame, rfl, ⟨rfl, rfl, ?_⟩,
        fun _ => ⟨name, transport, rfl, hm⟩⟩
      · refine ⟨fun c hc => absurd hc (by simp), fun _ => rfl, fun _ => ?_, fun ho => by cases ho⟩
        refine ⟨s.madeTransports, rfl, Nat.lt_succ_self _, ?_⟩
        intro k q hk hq ho ht
        obtain ⟨n, hn, hlt⟩ := h.owned hq ho
        cases hn.symm.trans ht
        exact Nat.lt_irrefl _ hlt
      · intro _
        have hself := @makeTransport_self s transport
        change protocol ≠ .auto ∧
          ((s.makeTransport transport).transports (.made s.madeTransports)).isOpen = false ∧
          (protocol = .modbusRtu →
            ((s.makeTransport transport).transports (.made s.madeTransports)).isModbusBus = true)
        rw [hself]
        exact makePortTransport_ok hm

theorem openController_failed_open {e : PyError} (hfresh : Fresh args.protocol p s)
    (howned : p.ownsTransport = true)
    (hr : openControllerOnPort env args unit settings key p s = (.error e, t))
    (hopen : (t.transports p.transport).isOpen = true) :
    env.openEnd = none ∧ env.sessionEnd ≠ none := by
  obtain ⟨hauto, hclosed, hmodbus⟩ := hfresh.owned howned
  have hnot : t ≠ s := by
    rintro rfl
    rw [hclosed] at hopen
    cases hopen
  simp only [openControllerOnPort] at hr
  rw [if_neg hauto] at hr
  split at hr
  · exact absurd (Prod.mk.inj hr).2.symm hnot
  cases hend : env.openEnd with
  | some e' =>
    have hfail : ensureOpen env.openEnd p.transport s = (.error e', s) := by
      simp [ensureOpen, hend, hclosed]
    rw [hfail, andThen_error] at hr
    exact absurd (Prod.mk.inj hr).2.symm hnot
  | none =>
    have hok : ensureOpen env.openEnd p.transport s = (.ok ⟨⟩, s.setOpen p.transport true) := by
      simp [ensureOpen, hend, hclosed]
    have hcheck : checkClient args.protocol
        ((s.setOpen p.transport true).transports p.transport) = .ok ⟨⟩ := by
      cases hprotocol : args.protocol with
      | auto => exact absurd hprotocol hauto
      | stdbus => rfl
      | modbusRtu =>
        have hbus : ((s.setOpen p.transport true).transports p.transport).isModbusBus = true := by
          simpa [State.setOpen, Transport.setOpen] using hmodbus hprotocol
        rw [checkClient, require_of _ hbus, ok_bind, require_of _ (setOpen_self _ _)]
    have hclient : ensureClient key p args.protocol (s.setOpen p.transport true) =
        (.ok s.madeClients, withClient key p args.protocol (s.setOpen p.transport true)) := by
      rw [ensureClient, hfresh.client]
      dsimp only
      rw [hcheck]
      rfl
    rw [hok, andThen_ok, hclient, andThen_ok] at hr
    refine ⟨rfl, ?_⟩
    intro hsession
    rw [hsession] at hr
    cases hr

/-- How a call on one port may leave the port: with the controller it was asked for, as it was
before, or half torn down after a cancellation. -/
structure Settled (key : String) (s : State) (r : Result Controller) (t : State) : Prop where
  registered : Registered t
  frame : Frame key s t
  bound : ∀ c, r = .ok c → ∃ p, t.ports.lookup key = some p ∧ Bound t p c

theorem openOrCleanUp_used {r : Result Controller} (h : Registered s)
    (hp : s.ports.lookup key = some p)
    (hr : openOrCleanUp env args unit settings key false p s = (r, t)) :
    Settled key s r t ∧ ∃ p', Opened key p s t p' := by
  simp only [openOrCleanUp] at hr
  cases hx : openControllerOnPort env args unit settings key p s with
  | mk x u =>
    obtain ⟨p', hopened, hbound⟩ := openController_spec h hp hx
    rw [hx] at hr
    have hsettled : Settled key s x u :=
      ⟨hopened.registered, hopened.frame, fun c hc => ⟨p', hopened.lookup, hbound c hc⟩⟩
    cases x with
    | ok c =>
      obtain ⟨rfl, rfl⟩ := Prod.mk.inj hr
      exact ⟨hsettled, p', hopened⟩
    | error e =>
      dsimp only at hr
      rw [hopened.lookup] at hr
      dsimp only at hr
      rw [if_neg (by simp)] at hr
      obtain ⟨rfl, rfl⟩ := Prod.mk.inj hr
      exact ⟨hsettled, p', hopened⟩

theorem openOrCleanUp_fresh {r : Result Controller} (h : Registered s)
    (hp : s.ports.lookup key = some p) (hfresh : Fresh args.protocol p s)
    (hr : openOrCleanUp env args unit settings key true p s = (r, t)) :
    Settled key s r t ∧
      ((∃ c p', r = .ok c ∧ Opened key p s t p') ∨
        ∃ e, r = .error e ∧ (t.ports = s.ports.erase key ∨
          (p.ownsTransport = true ∧ Cancelling env.ends ∧ env.openEnd = none ∧
            env.sessionEnd ≠ none))) := by
  unfold openOrCleanUp at hr
  cases hx : openControllerOnPort env args unit settings key p s with
  | mk x u =>
    obtain ⟨p', hopened, hbound⟩ := openController_spec h hp hx
    rw [hx] at hr
    cases x with
    | ok c =>
      obtain ⟨rfl, rfl⟩ := Prod.mk.inj hr
      exact ⟨⟨hopened.registered, hopened.frame, fun c hc => ⟨p', hopened.lookup, hbound c hc⟩⟩,
        Or.inl ⟨c, p', rfl, hopened⟩⟩
    | error e =>
      have hempty : p'.refs = ∅ := hopened.refs.trans hfresh.refs
      dsimp only at hr
      rw [hopened.lookup] at hr
      dsimp only at hr
      rw [if_pos ⟨rfl, hempty⟩] at hr
      obtain ⟨rfl, hu⟩ := Prod.mk.inj hr
      cases hm : maybeTeardownPort env.ends key p' u with
      | mk y v =>
        rw [hm] at hu
        dsimp only at hu
        subst hu
        have htorn := maybeTeardownPort_spec hopened.registered hopened.lookup hempty hm
        refine ⟨⟨htorn.registered, hopened.frame.trans htorn.frame, ?_⟩, Or.inr ⟨e, rfl, ?_⟩⟩
        · intro c hc
          cases hc
        · by_cases hint : Interrupted env.ends p' u
          · obtain ⟨ho, hopen, hcancel⟩ := hint
            rw [hopened.transport.2] at ho
            rw [hopened.transport.1] at hopen
            exact Or.inr ⟨ho, hcancel, openController_failed_open hfresh ho hx hopen⟩
          · exact Or.inl ((htorn.gone hint).2.trans hopened.erased)

theorem buildPortEntry_error {source : Source} {protocol : ProtocolKind} {e : PyError}
    (hb : buildPortEntry source key protocol settings s = (.error e, t)) : t = s := by
  simp only [buildPortEntry] at hb
  split at hb
  · split at hb
    · exact (Prod.mk.inj hb).2.symm
    · cases hb
  · cases hb
  · cases hb

/-- The cleanup of an `add` is cancelled in the `close` of the transport: the port was fresh and
the manager's own, it did open, and the session was not to be had. -/
def CancelledAdd (env : AddEnv) (args : AddArgs) (key : String) (s : State) : Prop :=
  s.ports.lookup key = none ∧ Builds args.source args.protocol args.serialSettings ∧
    env.openEnd = none ∧ env.sessionEnd ≠ none ∧ Cancelling env.ends

/-- The port has a working client and an open transport. -/
structure Working (s : State) (p : PortEntry) : Prop where
  client : ∃ n, p.client = some n ∧ (s.clients n).disposed = false
  isOpen : (s.transports p.transport).isOpen = true

structure Acquired (key : String) (s : State) (r : Result Controller) (t : State) : Prop where
  settled : Settled key s r t
  refused : ∀ e, r = .error e → t.ports = s.ports ∧ Live t
  working : ∀ c, r = .ok c → ∃ p, t.ports.lookup key = some p ∧ Working t p
  current : Current s → Current t

theorem acquirePort_settled {r : Result Controller} (hsource : ∀ c, args.source ≠ .controller c)
    (h : Registered s) (hr : acquirePort env args unit settings key s = (r, t)) :
    Settled key s r t := by
  simp only [acquirePort] at hr
  split at hr
  · rename_i p hp
    exact (openOrCleanUp_used h hp hr).1
  · rename_i hkey
    cases hb : buildPortEntry args.source key args.protocol args.serialSettings s with
    | mk x u =>
      rw [hb] at hr
      cases x with
      | error e =>
        rw [andThen_error, buildPortEntry_error hb] at hr
        obtain ⟨rfl, rfl⟩ := Prod.mk.inj hr
        refine ⟨h, .refl key s, ?_⟩
        intro c hc
        cases hc
      | ok p =>
        rw [andThen_ok] at hr
        obtain ⟨hreg, hframe, -, hfresh, -⟩ := buildPortEntry_spec hsource h hkey hb
        have hlookup : (u.setPort key p).ports.lookup key = some p :=
          (lookup_insert_eq _ _ _ _).trans (if_pos rfl)
        obtain ⟨hsettled, -⟩ := openOrCleanUp_fresh hreg hlookup hfresh hr
        exact ⟨hsettled.registered, hframe.trans hsettled.frame, hsettled.bound⟩

theorem acquirePort_spec {r : Result Controller} (hsource : ∀ c, args.source ≠ .controller c)
    (h : Registered s) (hlive : Live s) (hnot : ¬ CancelledAdd env args key s)
    (hr : acquirePort env args unit settings key s = (r, t)) : Acquired key s r t := by
  have hsettled := acquirePort_settled hsource h hr
  simp only [acquirePort] at hr
  split at hr
  · rename_i p hp
    obtain ⟨-, p', hopened⟩ := openOrCleanUp_used h hp hr
    obtain ⟨hports, ht⟩ := hopened.live hlive hp
    refine ⟨hsettled, fun _ _ => ⟨hports, ht⟩, ?_, fun hcur => hopened.current hcur hp⟩
    intro c hc
    obtain ⟨q, hq, hbound⟩ := hsettled.bound c hc
    exact ⟨q, hq, (ht key q hq).client, hbound.isOpen⟩
  · rename_i hkey
    cases hb : buildPortEntry args.source key args.protocol args.serialSettings s with
    | mk x u =>
      rw [hb] at hr
      cases x with
      | error e =>
        rw [andThen_error, buildPortEntry_error hb] at hr
        obtain ⟨rfl, rfl⟩ := Prod.mk.inj hr
        refine ⟨hsettled, fun _ _ => ⟨rfl, hlive⟩, ?_, id⟩
        intro c hc
        cases hc
      | ok p =>
        rw [andThen_ok] at hr
        obtain ⟨hreg, hframe, hports, hfresh, hbuilds⟩ := buildPortEntry_spec hsource h hkey hb
        have hlookup : (u.setPort key p).ports.lookup key = some p :=
          (lookup_insert_eq _ _ _ _).trans (if_pos rfl)
        obtain ⟨-, hcases⟩ := openOrCleanUp_fresh hreg hlookup hfresh hr
        rcases hcases with ⟨c, p', rfl, hopened⟩ | ⟨e, rfl, hgone⟩
        · have hbuilt : Current s → Current (u.setPort key p) := by
            intro hcur
            refine hframe.current hcur fun q hq n b hn _ => ?_
            cases hlookup.symm.trans hq
            rw [hfresh.client] at hn
            cases hn
          refine ⟨hsettled, ?_, ?_, fun hcur => hopened.current (hbuilt hcur) hlookup⟩
          · intro e he
            cases he
          · intro c' hc'
            obtain ⟨q, hq, hbound⟩ := hsettled.bound c' hc'
            cases hopened.lookup.symm.trans hq
            obtain ⟨n, hn, -⟩ := hbound.client
            exact ⟨p', hq, ⟨n, hn, hopened.made hfresh.client n hn⟩, hbound.isOpen⟩
        · have hback : t.ports = s.ports := by
            rcases hgone with hgone | ⟨ho, hcancel, hopen, hsession⟩
            · rw [hgone]
              change (u.ports.insert key p).erase key = s.ports
              rw [insert_erase, hports, erase_absent _ hkey]
            · exact absurd ⟨hkey, hbuilds ho, hopen, hsession, hcancel⟩ hnot
          have hnone : t.ports.lookup key = none := by
            rw [hback]
            exact hkey
          refine ⟨hsettled, fun _ _ => ⟨hback, hsettled.frame.live_of_gone hlive hnone⟩, ?_,
            fun hcur => hsettled.frame.current_of_gone hcur hnone⟩
          intro c hc
          cases hc

theorem checkAdd_ok (h : checkAdd args s = .ok unit) :
    s.closed = false ∧ s.devices.lookup args.name = none := by
  obtain ⟨_, hopen, h⟩ := bind_ok_iff.mp h
  obtain ⟨_, hname, -⟩ := bind_ok_iff.mp h
  exact ⟨require_ok_iff.mp hopen, require_ok_iff.mp hname⟩

theorem insert_other {D : Dict String DeviceEntry} {name name' : String} {d d' : DeviceEntry}
    (hname : D.lookup name = none) (hne : d.portKey ≠ d'.portKey) :
    (D.insert name d).lookup name' = some d' ↔ D.lookup name' = some d' := by
  rw [lookup_insert_eq]
  split
  · rename_i heq
    rw [heq, hname]
    refine iff_of_false ?_ (by simp)
    intro h
    cases h
    exact hne rfl
  · exact Iff.rfl

theorem insert_named {D : Dict String DeviceEntry} {name : String} {d : DeviceEntry}
    (hd : d.name = name) (hD : ∀ {name d}, D.lookup name = some d → d.name = name) :
    ∀ name' d', (D.insert name d).lookup name' = some d' → d'.name = name' := by
  intro name' d' h
  rcases lookup_insert_cases h with ⟨rfl, rfl⟩ | ⟨-, h⟩
  · exact hd
  · exact hD h

theorem register_alone {name : String} {c : Controller} (h : Registered s)
    (hname : s.devices.lookup name = none) (hopen : s.closed = false) :
    Registered (register name none c s) := by
  apply h.setDevices
  · exact insert_named rfl h.named
  · intro name' d k hk
    exact insert_other hname (by simp [hk])
  · intro hc
    rw [hopen] at hc
    cases hc

theorem register_eq {name : String} {c : Controller} (hp : s.ports.lookup key = some p) :
    register name (some key) c s =
      { s with
        devices := s.devices.insert name ⟨name, c, some key⟩
        ports := s.ports.insert key { p with refs := insert name p.refs } } := by
  simp only [register]
  rw [hp]
  rfl

theorem register_on_port {name : String} {c : Controller} (h : Registered s)
    (hname : s.devices.lookup name = none) (hopen : s.closed = false)
    (hp : s.ports.lookup key = some p) (hbound : Bound s p c) :
    Registered (register name (some key) c s) ∧
      (register name (some key) c s).ports =
        s.ports.insert key { p with refs := insert name p.refs } := by
  rw [register_eq hp]
  refine ⟨?_, rfl⟩
  obtain ⟨n, hn, hclient, hkind⟩ := hbound.client
  apply h.update
  · exact insert_named rfl h.named
  · intro name' d k hk hdk
    refine insert_other hname ?_
    rw [hdk]
    simp [Ne.symm hk]
  · intro name'
    rw [Finset.mem_insert, h.refs hp name']
    constructor
    · rintro (rfl | ⟨d, hd, hdk⟩)
      · exact ⟨⟨name', c, some key⟩, by simp, rfl⟩
      · refine ⟨d, ?_, hdk⟩
        rw [lookup_insert_eq, if_neg]
        · exact hd
        · rintro rfl
          rw [hname] at hd
          cases hd
    · rintro ⟨d, hd, hdk⟩
      rcases lookup_insert_cases hd with ⟨hname', -⟩ | ⟨-, hd⟩
      · exact Or.inl hname'
      · exact Or.inr ⟨d, hd, hdk⟩
  · intro name' d hd hdk
    rcases lookup_insert_cases hd with ⟨-, rfl⟩ | ⟨-, hd⟩
    · exact ⟨n, hn, hclient, hbound.transport, hkind⟩
    · obtain ⟨q, m, hq, hm, hr⟩ := h.ported hd hdk
      cases hp.symm.trans hq
      exact ⟨m, hm, hr.client, hr.transport, hr.kind⟩
  · exact ⟨(h.fits hp).client, (h.fits hp).noClient, (h.fits hp).owned, (h.fits hp).borrowed⟩
  · intro hc
    rw [hopen] at hc
    cases hc

theorem register_live {name : String}
    (hports : t.ports = s.ports.insert key { p with refs := insert name p.refs })
    (hclients : t.clients = s.clients) (htransports : t.transports = s.transports)
    (hwork : Working s p) (hother : ∀ k q, k ≠ key → s.ports.lookup k = some q → LivePort s q) :
    Live t := by
  intro k q hq
  rw [hports] at hq
  rcases lookup_insert_cases hq with ⟨-, rfl⟩ | ⟨hk, hq⟩
  · obtain ⟨n, hn, hd⟩ := hwork.client
    refine ⟨Finset.insert_ne_empty _ _, ⟨n, hn, ?_⟩, fun _ => ?_⟩
    · rw [hclients]
      exact hd
    · rw [htransports]
      exact hwork.isOpen
  · obtain ⟨hrefs, ⟨n, hn, hd⟩, hopen⟩ := hother k q hk hq
    refine ⟨hrefs, ⟨n, hn, ?_⟩, fun ho => ?_⟩
    · rw [hclients]
      exact hd
    · rw [htransports]
      exact hopen ho

def sourceKey (env : AddEnv) (args : AddArgs) : Option String :=
  match args.source with
  | .controller _ => none
  | .port name => some (canonicalPortKey env.platform name)
  | .transport id => some (transportKey id)

theorem add_cases {r : Result Controller} (hr : add env args s = (r, t)) :
    (∃ e, r = .error e ∧ t = s) ∨
    (∃ unit, checkAdd args s = .ok unit ∧
      ((∃ c, sourceKey env args = none ∧ args.source = .controller c ∧ r = .ok c ∧
        t = register args.name none c s) ∨
      ∃ key settings x u, sourceKey env args = some key ∧
        (∀ c, args.source ≠ .controller c) ∧
        acquirePort env args unit settings key s = (x, u) ∧ r = x ∧
        ((∃ e, x = .error e ∧ t = u) ∨
          ∃ c, x = .ok c ∧ t = register args.name (some key) c u))) := by
  simp only [add] at hr
  cases hcheck : checkAdd args s with
  | error e =>
    rw [hcheck] at hr
    obtain ⟨rfl, rfl⟩ := Prod.mk.inj hr
    exact Or.inl ⟨e, rfl, rfl⟩
  | ok unit =>
    rw [hcheck] at hr
    dsimp only at hr
    refine Or.inr ⟨unit, rfl, ?_⟩
    have hport : ∀ key settings,
        andThen (andThen (acquirePort env args unit settings key s)
          fun c s => ((.ok (some key, c) : Result (Option String × Controller)), s))
          (fun kc s => ((.ok kc.2 : Result Controller), register args.name kc.1 kc.2 s)) = (r, t) →
        ∃ x u, acquirePort env args unit settings key s = (x, u) ∧ r = x ∧
          ((∃ e, x = .error e ∧ t = u) ∨
            ∃ c, x = .ok c ∧ t = register args.name (some key) c u) := by
      intro key settings hr
      cases hx : acquirePort env args unit settings key s with
      | mk x u =>
        rw [hx] at hr
        cases x with
        | error e =>
          obtain ⟨rfl, rfl⟩ := Prod.mk.inj hr
          exact ⟨_, _, rfl, rfl, Or.inl ⟨e, rfl, rfl⟩⟩
        | ok c =>
          obtain ⟨rfl, rfl⟩ := Prod.mk.inj hr
          exact ⟨_, _, rfl, rfl, Or.inr ⟨c, rfl, rfl⟩⟩
    simp only [resolveSource] at hr
    simp only [sourceKey]
    cases hsource : args.source with
    | controller c =>
      rw [hsource] at hr
      obtain ⟨rfl, rfl⟩ := Prod.mk.inj hr
      exact Or.inl ⟨c, rfl, rfl, rfl, rfl⟩
    | port name =>
      rw [hsource] at hr
      obtain ⟨x, u, hx, hrx, ht⟩ := hport _ _ hr
      exact Or.inr ⟨_, _, x, u, rfl, by simp, hx, hrx, ht⟩
    | transport id =>
      rw [hsource] at hr
      obtain ⟨x, u, hx, hrx, ht⟩ := hport _ _ hr
      exact Or.inr ⟨_, _, x, u, rfl, by simp, hx, hrx, ht⟩

theorem add_registered {r : Result Controller} (h : Registered s)
    (hr : add env args s = (r, t)) : Registered t := by
  rcases add_cases hr with ⟨e, -, rfl⟩ | ⟨unit, hcheck, hcases⟩
  · exact h
  · obtain ⟨hopen, hname⟩ := checkAdd_ok hcheck
    rcases hcases with ⟨c, -, -, -, rfl⟩ | ⟨key, settings, x, u, -, hsource, hx, -, hends⟩
    · exact register_alone h hname hopen
    · have hsettled := acquirePort_settled hsource h hx
      rcases hends with ⟨e, -, rfl⟩ | ⟨c, hc, rfl⟩
      · exact hsettled.registered
      · obtain ⟨p, hp, hbound⟩ := hsettled.bound c hc
        have hname' : u.devices.lookup args.name = none := by
          rw [hsettled.frame.devices]
          exact hname
        exact (register_on_port hsettled.registered hname' (hsettled.frame.closed.trans hopen) hp
          hbound).1

/-- The cleanup of an `add` is cancelled where it closes the transport. -/
def InterruptedAdd (env : AddEnv) (args : AddArgs) (s : State) : Prop :=
  (∃ unit, checkAdd args s = .ok unit) ∧
    ∃ key, sourceKey env args = some key ∧ CancelledAdd env args key s

theorem add_live {r : Result Controller} (h : Registered s) (hlive : Live s)
    (hnot : ¬ InterruptedAdd env args s) (hr : add env args s = (r, t)) :
    (Live t ∧ (Current s → Current t)) ∧
    (∀ e, r = .error e → t.devices = s.devices ∧ t.ports = s.ports) ∧
    (∀ c key, r = .ok c → sourceKey env args = some key → ∃ p n, t.ports.lookup key = some p ∧
      p.client = some n ∧ p.transport = c.transport ∧ c.client = .made n ∧
      (t.clients n).disposed = false ∧ (t.transports c.transport).isOpen = true) := by
  rcases add_cases hr with ⟨e, rfl, rfl⟩ | ⟨unit, hcheck, hcases⟩
  · refine ⟨⟨hlive, id⟩, fun _ _ => ⟨rfl, rfl⟩, ?_⟩
    intro c key hc
    cases hc
  · obtain ⟨hopen, hname⟩ := checkAdd_ok hcheck
    rcases hcases with ⟨c, hnone, -, rfl, rfl⟩ |
      ⟨key, settings, x, u, hkey, hsource, hx, rfl, hends⟩
    · refine ⟨⟨?_, ?_⟩, ?_, ?_⟩
      · intro k q hq
        obtain ⟨hrefs, hclient, hlives⟩ := hlive k q hq
        exact ⟨hrefs, hclient, hlives⟩
      · exact fun hcur => hcur.congr rfl rfl fun k p hp => ⟨p, p.refs, hp, rfl⟩
      · intro e he
        cases he
      · intro c' key _ hkey
        rw [hnone] at hkey
        cases hkey
    · have hacquired := acquirePort_spec hsource h hlive
        (fun hc => hnot ⟨⟨unit, hcheck⟩, key, hkey, hc⟩) hx
      have hsettled := hacquired.settled
      rcases hends with ⟨e, rfl, rfl⟩ | ⟨c, rfl, rfl⟩
      · obtain ⟨hports, ht⟩ := hacquired.refused e rfl
        refine ⟨⟨ht, hacquired.current⟩, fun _ _ => ⟨hsettled.frame.devices, hports⟩, ?_⟩
        intro c key hc
        cases hc
      · obtain ⟨p, hp, hwork⟩ := hacquired.working c rfl
        obtain ⟨q, hq, hbound⟩ := hsettled.bound c rfl
        cases hp.symm.trans hq
        have hname' : u.devices.lookup args.name = none := by
          rw [hsettled.frame.devices]
          exact hname
        obtain ⟨-, hports⟩ := register_on_port hsettled.registered hname'
          (hsettled.frame.closed.trans hopen) hp hbound
        have hclients : (register args.name (some key) c u).clients = u.clients := by
          rw [register_eq hp]
        have htransports : (register args.name (some key) c u).transports = u.transports := by
          rw [register_eq hp]
        refine ⟨⟨register_live hports hclients htransports hwork ?_, ?_⟩, ?_, ?_⟩
        · intro k q' hk hq'
          exact hsettled.frame.live hlive hk hq'
        · intro hcur
          refine (hacquired.current hcur).congr hclients htransports fun k q' hq' => ?_
          rw [hports] at hq'
          rcases lookup_insert_cases hq' with ⟨rfl, rfl⟩ | ⟨-, hq'⟩
          · exact ⟨p, _, hp, rfl⟩
          · exact ⟨q', q'.refs, hq', rfl⟩
        · intro e he
          cases he
        · intro c' key' hc' hkey'
          cases hc'
          cases hkey.symm.trans hkey'
          obtain ⟨n, hn, hd⟩ := hwork.client
          obtain ⟨m, hm, hclient, -⟩ := hbound.client
          cases hn.symm.trans hm
          refine ⟨{ p with refs := insert args.name p.refs }, n, ?_, hn, hbound.transport.symm,
            hclient, ?_, ?_⟩
          · rw [hports, lookup_insert_eq, if_pos rfl]
          · rw [hclients]
            exact hd
          · rw [htransports, hbound.transport]
            exact hwork.isOpen

end Adding

section Removing

variable {s t : State} {key name : String} {p : PortEntry} {d : DeviceEntry}
  {ends : String → PortEnds}

def release (name key : String) (p : PortEntry) (s : State) : State :=
  (popDevice name s).setPort key { p with refs := p.refs.erase name }

theorem popDevice_lookup (name name' : String) :
    (popDevice name s).devices.lookup name' =
      if name' = name then none else s.devices.lookup name' := lookup_erase_eq _ _ _

theorem popDevice_some {name' : String} {d' : DeviceEntry} :
    (popDevice name s).devices.lookup name' = some d' ↔
      name' ≠ name ∧ s.devices.lookup name' = some d' := by
  rw [popDevice_lookup]
  by_cases hne : name' = name
  · simp [hne]
  · simp [hne]

theorem popDevice_other {name' k : String} {d' : DeviceEntry}
    (hd : s.devices.lookup name = some d) (hk : d.portKey ≠ some k) (hdk : d'.portKey = some k) :
    (popDevice name s).devices.lookup name' = some d' ↔ s.devices.lookup name' = some d' := by
  rw [popDevice_some, and_iff_right_iff_imp]
  rintro hd' rfl
  cases hd.symm.trans hd'
  exact hk hdk

theorem popDevice_registered (h : Registered s) (hd : s.devices.lookup name = some d)
    (hnone : d.portKey = none) : Registered (popDevice name s) := by
  apply h.setDevices
  · intro name' d' hd'
    exact h.named (popDevice_some.mp hd').2
  · intro name' d' k hk
    exact popDevice_other hd (by simp [hnone]) hk
  · intro hc
    rw [h.closed hc]
    rfl

theorem release_registered (h : Registered s) (hd : s.devices.lookup name = some d)
    (hkey : d.portKey = some key) (hp : s.ports.lookup key = some p) :
    Registered (release name key p s) := by
  apply h.update
  · intro name' d' hd'
    exact h.named (popDevice_some.mp hd').2
  · intro name' d' k hk hdk
    refine popDevice_other hd ?_ hdk
    rw [hkey]
    simp [Ne.symm hk]
  · intro name'
    rw [Finset.mem_erase, h.refs hp name']
    constructor
    · rintro ⟨hne, d', hd', hdk⟩
      exact ⟨d', popDevice_some.mpr ⟨hne, hd'⟩, hdk⟩
    · rintro ⟨d', hd', hdk⟩
      obtain ⟨hne, hd'⟩ := popDevice_some.mp hd'
      exact ⟨hne, d', hd', hdk⟩
  · intro name' d' hd' hdk
    obtain ⟨q, c, hq, hc, hr⟩ := h.ported (popDevice_some.mp hd').2 hdk
    cases hp.symm.trans hq
    exact ⟨c, hc, hr.client, hr.transport, hr.kind⟩
  · exact ⟨(h.fits hp).client, (h.fits hp).noClient, (h.fits hp).owned, (h.fits hp).borrowed⟩
  · intro hc
    rw [popDevice, h.closed hc]
    rfl

theorem release_frame : Frame key (popDevice name s) (release name key p s) := setPort_frame

theorem teardownDevice_cases {r : Result PUnit} (h : Registered s)
    (hd : s.devices.lookup name = some d)
    (hr : teardownDevice ends d (popDevice name s) = (r, t)) :
    (d.portKey = none ∧ r = .ok ⟨⟩ ∧ t = popDevice name s) ∨
    ∃ key p, d.portKey = some key ∧ s.ports.lookup key = some p ∧
      ((p.refs.erase name ≠ ∅ ∧ r = .ok ⟨⟩ ∧ t = release name key p s) ∨
        (p.refs.erase name = ∅ ∧ TornDown (ends key) key { p with refs := p.refs.erase name }
          (release name key p s) r t)) := by
  simp only [teardownDevice] at hr
  cases hkey : d.portKey with
  | none =>
    rw [hkey] at hr
    obtain ⟨rfl, rfl⟩ := Prod.mk.inj hr
    exact Or.inl ⟨rfl, rfl, rfl⟩
  | some key =>
    obtain ⟨p, c, hp, -, -⟩ := h.ported hd hkey
    have hp' : (popDevice name s).ports.lookup key = some p := hp
    rw [hkey] at hr
    dsimp only at hr
    rw [hp', h.named hd] at hr
    dsimp only at hr
    refine Or.inr ⟨key, p, rfl, hp, ?_⟩
    by_cases hempty : p.refs.erase name = ∅
    · rw [if_pos hempty] at hr
      have hlookup : (release name key p s).ports.lookup key =
          some { p with refs := p.refs.erase name } :=
        (lookup_insert_eq _ _ _ _).trans (if_pos rfl)
      exact Or.inr ⟨hempty, maybeTeardownPort_spec (release_registered h hd hkey hp) hlookup hempty
        hr⟩
    · rw [if_neg hempty] at hr
      obtain ⟨rfl, rfl⟩ := Prod.mk.inj hr
      exact Or.inl ⟨hempty, rfl, rfl⟩

theorem teardownDevice_registered {r : Result PUnit} (h : Registered s)
    (hd : s.devices.lookup name = some d)
    (hr : teardownDevice ends d (popDevice name s) = (r, t)) : Registered t := by
  rcases teardownDevice_cases h hd hr with ⟨hnone, -, rfl⟩ | ⟨key, p, hkey, hp, hcases⟩
  · exact popDevice_registered h hd hnone
  · rcases hcases with ⟨-, -, rfl⟩ | ⟨-, htorn⟩
    · exact release_registered h hd hkey hp
    · exact htorn.registered

/-- The cancellation of a removal lands in the `close` of the port that goes with the device. -/
def InterruptedRemoval (ends : String → PortEnds) (name : String) (s : State) : Prop :=
  ∃ d key p, s.devices.lookup name = some d ∧ d.portKey = some key ∧
    s.ports.lookup key = some p ∧ p.refs.erase name = ∅ ∧ Interrupted (ends key) p s

theorem teardownDevice_live {r : Result PUnit} (h : Registered s) (hlive : Live s)
    (hd : s.devices.lookup name = some d) (hnot : ¬ InterruptedRemoval ends name s)
    (hr : teardownDevice ends d (popDevice name s) = (r, t)) :
    r = .ok ⟨⟩ ∧ Live t ∧ (Current s → Current t) := by
  have hpop : Live (popDevice name s) := by
    intro k q hq
    obtain ⟨hrefs, hclient, hopen⟩ := hlive k q hq
    exact ⟨hrefs, hclient, hopen⟩
  have hpopped : Current s → Current (popDevice name s) :=
    fun hcur => hcur.congr rfl rfl fun k p hp => ⟨p, p.refs, hp, rfl⟩
  rcases teardownDevice_cases h hd hr with ⟨-, rfl, rfl⟩ | ⟨key, p, hkey, hp, hcases⟩
  · exact ⟨rfl, hpop, hpopped⟩
  · rcases hcases with ⟨hrefs, rfl, rfl⟩ | ⟨hempty, htorn⟩
    · refine ⟨rfl, ?_, ?_⟩
      · intro k q hq
        by_cases hk : k = key
        · subst hk
          rw [release, State.setPort, lookup_insert_eq, if_pos rfl] at hq
          cases hq
          obtain ⟨-, hclient, hopen⟩ := hlive k p hp
          exact ⟨hrefs, hclient, hopen⟩
        · exact release_frame.live hpop hk hq
      · intro hcur
        refine hcur.congr rfl rfl fun k q hq => ?_
        rcases lookup_insert_cases hq with ⟨rfl, rfl⟩ | ⟨-, hq⟩
        · exact ⟨p, _, hp, rfl⟩
        · exact ⟨q, q.refs, hq, rfl⟩
    · have hgone := htorn.gone fun hint => hnot ⟨d, key, p, hd, hkey, hp, hempty, hint⟩
      have hframe : Frame key (popDevice name s) t := release_frame.trans htorn.frame
      have hnone : t.ports.lookup key = none := by rw [hgone.2, AList.lookup_erase]
      exact ⟨hgone.1, hframe.live_of_gone hpop hnone,
        fun hcur => hframe.current_of_gone (hpopped hcur) hnone⟩

end Removing

section Closing

variable {s t : State} {name : String} {ends : String → PortEnds}

theorem remove_cases {r : Result PUnit} (hr : remove ends name s = (r, t)) :
    ((∃ e, r = .error e) ∧ t = s) ∨
    ∃ d, s.closed = false ∧ s.devices.lookup name = some d ∧
      teardownDevice ends d (popDevice name s) = (r, t) := by
  simp only [remove] at hr
  cases hopen : checkOpen s with
  | error e =>
    rw [hopen] at hr
    obtain ⟨rfl, rfl⟩ := Prod.mk.inj hr
    exact Or.inl ⟨⟨e, rfl⟩, rfl⟩
  | ok u =>
    rw [hopen] at hr
    dsimp only at hr
    cases hd : s.devices.lookup name with
    | none =>
      rw [hd] at hr
      obtain ⟨rfl, rfl⟩ := Prod.mk.inj hr
      exact Or.inl ⟨⟨_, rfl⟩, rfl⟩
    | some d =>
      rw [hd] at hr
      exact Or.inr ⟨d, require_ok_iff.mp hopen, rfl, hr⟩

theorem remove_registered {r : Result PUnit} (h : Registered s)
    (hr : remove ends name s = (r, t)) : Registered t := by
  rcases remove_cases hr with ⟨-, rfl⟩ | ⟨d, -, hd, hteardown⟩
  · exact h
  · exact teardownDevice_registered h hd hteardown

theorem remove_live {r : Result PUnit} (h : Registered s) (hlive : Live s)
    (hnot : ¬ (s.closed = false ∧ InterruptedRemoval ends name s))
    (hr : remove ends name s = (r, t)) :
    (Live t ∧ (Current s → Current t)) ∧
      ∀ e, r = .error e → t.devices = s.devices ∧ t.ports = s.ports := by
  rcases remove_cases hr with ⟨-, rfl⟩ | ⟨d, hopen, hd, hteardown⟩
  · exact ⟨⟨hlive, id⟩, fun _ _ => ⟨rfl, rfl⟩⟩
  · obtain ⟨rfl, ht⟩ :=
      teardownDevice_live h hlive hd (fun hint => hnot ⟨hopen, hint⟩) hteardown
    refine ⟨ht, ?_⟩
    intro e he
    cases he

theorem closeLoop_registered {names : List String} {errors : List PyError}
    {r : Except CloseError (List PyError)} (h : Registered s)
    (hr : closeLoop ends names errors s = (r, t)) : Registered t := by
  induction names generalizing errors s with
  | nil =>
    obtain ⟨-, rfl⟩ := Prod.mk.inj hr
    exact h
  | cons name names ih =>
    simp only [closeLoop] at hr
    cases hd : s.devices.lookup name with
    | none =>
      rw [hd] at hr
      exact ih h hr
    | some d =>
      rw [hd] at hr
      dsimp only at hr
      cases hx : teardownDevice ends d (popDevice name s) with
      | mk x u =>
        have hu := teardownDevice_registered h hd hx
        rw [hx] at hr
        cases x with
        | ok _ => exact ih hu hr
        | error e =>
          dsimp only at hr
          split at hr
          · obtain ⟨-, rfl⟩ := Prod.mk.inj hr
            exact hu
          · exact ih hu hr

theorem dict_empty {β : Type} {d : Dict String β} (h : ∀ k, d.lookup k = none) : d = ∅ := by
  apply AList.ext
  change d.entries = []
  cases hd : d.entries with
  | nil => rfl
  | cons e es =>
    have hmem : e.1 ∈ d := by
      change e.1 ∈ d.entries.map Sigma.fst
      rw [hd]
      exact List.mem_cons_self
    exact absurd hmem (AList.lookup_eq_none.mp (h e.1))

theorem ports_empty (h : Registered s) (hused : ∀ key p, s.ports.lookup key = some p → p.refs ≠ ∅)
    (hdevices : s.devices = ∅) : s.ports = ∅ := by
  apply dict_empty
  intro key
  cases hp : s.ports.lookup key with
  | none => rfl
  | some p =>
    obtain ⟨name, hname⟩ := Finset.nonempty_iff_ne_empty.mpr (hused key p hp)
    obtain ⟨d, hd, -⟩ := (h.refs hp name).mp hname
    rw [hdevices] at hd
    cases hd

/-- A cancellation lands in the `close` of a port that is in use. -/
def InterruptedClose (ends : String → PortEnds) (s : State) : Prop :=
  ∃ name key p, On s name key ∧ s.ports.lookup key = some p ∧ Interrupted (ends key) p s

theorem teardownDevice_devices {d : DeviceEntry} {r : Result PUnit} (h : Registered s)
    (hd : s.devices.lookup name = some d)
    (hr : teardownDevice ends d (popDevice name s) = (r, t)) :
    t.devices = s.devices.erase name ∧ t.closed = s.closed := by
  rcases teardownDevice_cases h hd hr with ⟨-, -, rfl⟩ | ⟨key, p, -, -, hcases⟩
  · exact ⟨rfl, rfl⟩
  · rcases hcases with ⟨-, -, rfl⟩ | ⟨-, htorn⟩
    · exact ⟨rfl, rfl⟩
    · exact ⟨htorn.frame.devices, htorn.frame.closed⟩

theorem teardownDevice_kept {d : DeviceEntry} {r : Result PUnit} {key : String} {p : PortEntry}
    (h : Registered s) (hd : s.devices.lookup name = some d)
    (hr : teardownDevice ends d (popDevice name s) = (r, t))
    (hp : t.ports.lookup key = some p) (hrefs : p.refs ≠ ∅) :
    ∃ q, s.ports.lookup key = some q ∧ p = { q with refs := p.refs } ∧
      (p.ownsTransport = true → t.transports p.transport = s.transports p.transport) ∧
      ∀ c, p.client = some c → t.clients c = s.clients c := by
  rcases teardownDevice_cases h hd hr with ⟨-, -, rfl⟩ | ⟨k, q, hk, hq, hcases⟩
  · exact ⟨p, hp, rfl, fun _ => rfl, fun _ _ => rfl⟩
  · by_cases hkey : key = k
    · subst hkey
      rcases hcases with ⟨-, -, rfl⟩ | ⟨hempty, htorn⟩
      · rw [release, State.setPort, lookup_insert_eq, if_pos rfl] at hp
        cases hp
        exact ⟨q, hq, rfl, fun _ => rfl, fun _ _ => rfl⟩
      · cases r with
        | ok u =>
          rw [htorn.done rfl, AList.lookup_erase] at hp
          cases hp
        | error e =>
          rw [(htorn.passed e rfl).1, release, State.setPort, lookup_insert_eq, if_pos rfl] at hp
          cases hp
          exact absurd hempty hrefs
    · have hframe : Frame k (popDevice name s) t := by
        rcases hcases with ⟨-, -, rfl⟩ | ⟨-, htorn⟩
        · exact release_frame
        · exact release_frame.trans htorn.frame
      rw [hframe.ports key hkey] at hp
      exact ⟨p, hp, rfl, fun ho => hframe.transports key p hkey hp (Or.inl ho),
        fun c hc => hframe.clients key p c hkey hp hc⟩

theorem keys_erase_head {β : Type} {d : Dict String β} {names : List String}
    (h : d.keys = name :: names) : (d.erase name).keys = names := by
  rw [AList.keys_erase, h, List.erase_cons_head]

theorem lookup_head {β : Type} {d : Dict String β} {names : List String}
    (h : d.keys = name :: names) : ∃ v, d.lookup name = some v := by
  have hmem : name ∈ d := by
    rw [AList.mem_keys, h]
    exact List.mem_cons_self
  exact Option.isSome_iff_exists.mp (AList.lookup_isSome.mpr hmem)

theorem dict_empty_of_keys {β : Type} {d : Dict String β} (h : d.keys = []) : d = ∅ := by
  apply dict_empty
  intro k
  rw [AList.lookup_eq_none, AList.mem_keys, h]
  exact List.not_mem_nil

theorem closeLoop_cons {names : List String} {errors : List PyError}
    {r : Except CloseError (List PyError)} (h : Registered s)
    (hkeys : s.devices.keys = name :: names)
    (hr : closeLoop ends (name :: names) errors s = (r, t)) :
    ∃ d x u, s.devices.lookup name = some d ∧
      teardownDevice ends d (popDevice name s) = (x, u) ∧ Registered u ∧
      u.devices.keys = names ∧
      ((x = .ok ⟨⟩ ∧ closeLoop ends names errors u = (r, t)) ∨
        ∃ e, x = .error e ∧
          ((e.kind = .cancelled ∧ r = .error (.passed e) ∧ t = u) ∨
            closeLoop ends names (errors ++ [e]) u = (r, t))) := by
  obtain ⟨d, hd⟩ := lookup_head hkeys
  simp only [closeLoop] at hr
  rw [hd] at hr
  dsimp only at hr
  cases hx : teardownDevice ends d (popDevice name s) with
  | mk x u =>
    rw [hx] at hr
    have hnames : u.devices.keys = names := by
      rw [(teardownDevice_devices h hd hx).1]
      exact keys_erase_head hkeys
    refine ⟨d, x, u, hd, hx, teardownDevice_registered h hd hx, hnames, ?_⟩
    cases x with
    | ok v => exact Or.inl ⟨rfl, hr⟩
    | error e =>
      dsimp only at hr
      split at hr
      · rename_i hkind
        obtain ⟨rfl, rfl⟩ := Prod.mk.inj hr
        exact Or.inr ⟨e, rfl, Or.inl ⟨hkind, rfl, rfl⟩⟩
      · exact Or.inr ⟨e, rfl, Or.inr hr⟩

theorem closeLoop_devices {names : List String} {errors found : List PyError}
    (h : Registered s) (hkeys : s.devices.keys = names)
    (hr : closeLoop ends names errors s = (.ok found, t)) : t.devices = ∅ := by
  induction names generalizing errors s with
  | nil =>
    obtain ⟨-, rfl⟩ := Prod.mk.inj hr
    exact dict_empty_of_keys hkeys
  | cons name names ih =>
    obtain ⟨d, x, u, hd, hx, hu, hdevices, hcases⟩ := closeLoop_cons h hkeys hr
    rcases hcases with ⟨-, hr⟩ | ⟨e, -, ⟨-, he, -⟩ | hr⟩
    · exact ih hu hdevices hr
    · cases he
    · exact ih hu hdevices hr

theorem teardownDevice_not_interrupted {d : DeviceEntry} {r : Result PUnit} (h : Registered s)
    (hd : s.devices.lookup name = some d) (hnot : ¬ InterruptedClose ends s)
    (hr : teardownDevice ends d (popDevice name s) = (r, t)) : ¬ InterruptedClose ends t := by
  rintro ⟨name', key, p, ⟨d', hd', hkey'⟩, hp, howned, hopen, hcancel⟩
  have hmem := ((teardownDevice_registered h hd hr).refs hp name').mpr ⟨d', hd', hkey'⟩
  obtain ⟨q, hq, heq, htransport, -⟩ :=
    teardownDevice_kept h hd hr hp (Finset.ne_empty_of_mem hmem)
  rw [(teardownDevice_devices h hd hr).1, lookup_erase_eq] at hd'
  split at hd'
  · cases hd'
  · rw [htransport howned] at hopen
    rw [heq] at howned hopen
    exact hnot ⟨name', key, q, ⟨d', hd', hkey'⟩, hq, howned, hopen, hcancel⟩

theorem removal_of_close :
    InterruptedRemoval ends name s → InterruptedClose ends s := by
  rintro ⟨d, key, p, hd, hkey, hp, _, hint⟩
  exact ⟨name, key, p, ⟨d, hd, hkey⟩, hp, hint⟩

theorem closeLoop_live {names : List String} {errors : List PyError}
    {r : Except CloseError (List PyError)} (h : Registered s) (hlive : Live s)
    (hnot : ¬ InterruptedClose ends s) (hkeys : s.devices.keys = names)
    (hr : closeLoop ends names errors s = (r, t)) :
    r = .ok errors ∧ Live t ∧ (Current s → Current t) := by
  induction names generalizing s with
  | nil =>
    obtain ⟨rfl, rfl⟩ := Prod.mk.inj hr
    exact ⟨rfl, hlive, id⟩
  | cons name names ih =>
    obtain ⟨d, x, u, hd, hx, hu, hdevices, hcases⟩ := closeLoop_cons h hkeys hr
    obtain ⟨rfl, hlive', hcur⟩ :=
      teardownDevice_live h hlive hd (fun hint => hnot (removal_of_close hint)) hx
    rcases hcases with ⟨-, hr⟩ | ⟨e, he, -⟩
    · obtain ⟨herrors, ht, hcur'⟩ :=
        ih hu hlive' (teardownDevice_not_interrupted h hd hnot hx) hdevices hr
      exact ⟨herrors, ht, fun hs => hcur' (hcur hs)⟩
    · cases he

theorem close_cases {suppress : Bool} {r : Except CloseError PUnit}
    (hr : close suppress ends s = (r, t)) :
    (s.closed = true ∧ r = .ok ⟨⟩ ∧ t = s) ∨
    (s.closed = false ∧
      ((∃ e u, closeLoop ends s.devices.keys [] s = (.error e, u) ∧ r = .error e ∧ t = u) ∨
        ∃ errors u, closeLoop ends s.devices.keys [] s = (.ok errors, u) ∧
          t = { u with closed := true } ∧
          r = if errors ≠ [] ∧ suppress = false then .error (.group errors) else .ok ⟨⟩)) := by
  simp only [close] at hr
  split at hr
  · rename_i hclosed
    obtain ⟨rfl, rfl⟩ := Prod.mk.inj hr
    exact Or.inl ⟨hclosed, rfl, rfl⟩
  · rename_i hopen
    refine Or.inr ⟨by simpa using hopen, ?_⟩
    cases hx : closeLoop ends s.devices.keys [] s with
    | mk x u =>
      rw [hx] at hr
      cases x with
      | error e =>
        obtain ⟨rfl, rfl⟩ := Prod.mk.inj hr
        exact Or.inl ⟨e, _, rfl, rfl, rfl⟩
      | ok errors =>
        rw [andThen_ok] at hr
        refine Or.inr ⟨errors, u, rfl, ?_⟩
        split at hr
        · rename_i herrors
          obtain ⟨rfl, rfl⟩ := Prod.mk.inj hr
          exact ⟨rfl, (if_pos herrors).symm⟩
        · rename_i herrors
          obtain ⟨rfl, rfl⟩ := Prod.mk.inj hr
          exact ⟨rfl, (if_neg herrors).symm⟩

theorem close_registered {suppress : Bool} {r : Except CloseError PUnit} (h : Registered s)
    (hr : close suppress ends s = (r, t)) : Registered t := by
  rcases close_cases hr with ⟨-, -, rfl⟩ | ⟨-, ⟨e, u, hx, -, rfl⟩ | ⟨errors, u, hx, rfl, -⟩⟩
  · exact h
  · exact closeLoop_registered h hx
  · have hdevices : u.devices = ∅ := closeLoop_devices h rfl hx
    obtain ⟨named, refs, ported, client, noClient, ownClient, owned, borrowed, ownTransport, -⟩ :=
      closeLoop_registered h hx
    refine ⟨named, refs, ?_, client, noClient, ownClient, owned, borrowed, ownTransport,
      fun _ => hdevices⟩
    intro name d key hd hkey
    obtain ⟨p, c, hp, hc, hruns⟩ := ported hd hkey
    exact ⟨p, c, hp, hc, hruns.client, hruns.transport, hruns.kind⟩

theorem close_live {suppress : Bool} {r : Except CloseError PUnit} (h : Registered s)
    (hlive : Live s) (hnot : ¬ InterruptedClose ends s) (hr : close suppress ends s = (r, t)) :
    r = .ok ⟨⟩ ∧ Live t ∧ (Current s → Current t) := by
  rcases close_cases hr with ⟨-, rfl, rfl⟩ | ⟨-, ⟨e, u, hx, -, -⟩ | ⟨errors, u, hx, rfl, rfl⟩⟩
  · exact ⟨rfl, hlive, id⟩
  · cases (closeLoop_live h hlive hnot rfl hx).1
  · obtain ⟨herrors, ht, hcur⟩ := closeLoop_live h hlive hnot rfl hx
    cases herrors
    refine ⟨if_neg (by simp), ?_, ?_⟩
    · intro key p hp
      obtain ⟨hrefs, hclient, hopen⟩ := ht key p hp
      exact ⟨hrefs, hclient, hopen⟩
    · exact fun hs => (hcur hs).congr rfl rfl fun k p hp => ⟨p, p.refs, hp, rfl⟩

end Closing

section Runs

/-- A call on the manager, with what the world decides in it. In between, a caller opens and
closes transports of its own. -/
inductive Call where
  | add (env : AddEnv) (args : AddArgs)
  | remove (ends : String → PortEnds) (name : String)
  | close (suppressErrors : Bool) (ends : String → PortEnds)
  | useTransport (id : ℕ) (isOpen : Bool)

def perform : Call → State → State
  | .add env args, s => (add env args s).2
  | .remove ends name, s => (remove ends name s).2
  | .close suppressErrors ends, s => (close suppressErrors ends s).2
  | .useTransport id isOpen, s => s.setOpen (.caller id) isOpen

def Performs (s : State) (c : Call) (t : State) : Prop := perform c s = t

/-- A cancellation lands in the `close` of a transport that the call makes. -/
def InterruptedCall (s : State) : Call → Prop
  | .add env args => InterruptedAdd env args s
  | .remove ends name => s.closed = false ∧ InterruptedRemoval ends name s
  | .close _ ends => InterruptedClose ends s
  | .useTransport _ _ => False

theorem perform_registered {s : State} (c : Call) (h : Registered s) :
    Registered (perform c s) := by
  cases c with
  | add env args => exact add_registered h rfl
  | remove ends name => exact remove_registered h rfl
  | close suppressErrors ends => exact close_registered h rfl
  | useTransport id isOpen => exact setOpen_registered h _ _

theorem perform_live {s : State} (c : Call) (h : Registered s) (hlive : Live s)
    (hnot : ¬ InterruptedCall s c) : Live (perform c s) := by
  cases c with
  | add env args => exact (add_live h hlive hnot rfl).1.1
  | remove ends name => exact (remove_live h hlive hnot rfl).1.1
  | close suppressErrors ends => exact (close_live h hlive hnot rfl).2.1
  | useTransport id isOpen =>
    intro key p hp
    obtain ⟨hrefs, hclient, hopen⟩ := hlive key p hp
    refine ⟨hrefs, hclient, ?_⟩
    intro ho
    obtain ⟨n, hn, -⟩ := h.owned hp ho
    change ((s.setOpen (.caller id) isOpen).transports p.transport).isOpen = true
    rw [setOpen_other isOpen (by simp [hn])]
    exact hopen ho

/-- A caller closes a transport of its own while a client of the manager's keeps its Bus. -/
def Severs (s : State) : Call → Prop
  | .useTransport id false => ∃ key p c b, s.ports.lookup key = some p ∧
      p.transport = .caller id ∧ p.client = some c ∧ (s.clients c).bus = some b
  | _ => False

theorem perform_current {s : State} (c : Call) (h : Registered s) (hlive : Live s)
    (hs : Current s) (hnot : ¬ InterruptedCall s c) (hkept : ¬ Severs s c) :
    Current (perform c s) := by
  cases c with
  | add env args => exact (add_live h hlive hnot rfl).1.2 hs
  | remove ends name => exact (remove_live h hlive hnot rfl).1.2 hs
  | close suppressErrors ends => exact (close_live h hlive hnot rfl).2.2 hs
  | useTransport id isOpen =>
    intro key p hp c b hc hb
    have hbus := hs key p hp c b hc hb
    change ((s.setOpen (.caller id) isOpen).transports p.transport).bus = some b
    cases isOpen with
    | true =>
      rw [setOpen_open (Transport.open_of_bus hbus)]
      exact hbus
    | false =>
      rw [setOpen_other false fun ht => hkept ⟨key, p, c, b, hp, ht, hc, hb⟩]
      exact hbus

theorem initial_current (callers : ℕ → Transport) : Current (initial callers) := by
  intro key p hp
  cases hp

theorem initial_live (callers : ℕ → Transport) : Live (initial callers) := by
  intro key p hp
  cases hp

end Runs

end ManagerCalls
