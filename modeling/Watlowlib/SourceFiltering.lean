import Watlowlib.Discovery
import Watlowlib.ReplySelection
import Watlowlib.StdBusPairing

/-! # Who sent what a call returns

No call looks at the header of the frame it accepts. A call, and with it a scan, is right about
the device it names when the first frame on its line comes from that device. -/
namespace SourceFiltering

open Discovery ExceptRules ModbusCodec ParameterCommands PythonNumbers PythonValues Registry
  ReplySelection SerialTransport SessionExecute StdBusClient StdBusFraming StdBusPairing
  StdBusPayload StdBusResync WatlowErrors

/-- A response of the device at `address` to the host. -/
structure FromDevice (address : ℤ) (f : Frame) : Prop where
  src : addrToMac address = .ok f.src
  dst : f.dst = hostMac
  response : f.frameType = dataNotExpectingReply

instance (address : ℤ) (f : Frame) : Decidable (FromDevice address f) :=
  decidable_of_iff (addrToMac address = .ok f.src ∧ f.dst = hostMac ∧
    f.frameType = dataNotExpectingReply)
    ⟨fun ⟨hs, hd, hr⟩ => ⟨hs, hd, hr⟩, fun ⟨hs, hd, hr⟩ => ⟨hs, hd, hr⟩⟩

/-- When a call goes out over an open line, the first frame it meets there is a response of the
device the call is for, or its payload does not decode. -/
def OwnFrameFirst (client : StdBusProtocolClient) (request : Bytes) (address : ℤ)
    (writeEnd : Option PortEnd) (s : Line) : Prop :=
  s.isOpen = true → Sent client request address writeEnd → ∀ g f t p, FirstFrame s.stream g f t →
    decodePayload f.payload = .ok p → FromDevice address f

theorem execute_filtered_iff {client : StdBusProtocolClient} {request : Bytes} {address : ℤ}
    {writeEnd : Option PortEnd} {s : Line} (timeout : Option PyFloat) (commandName : String) :
    (∀ r s', execute client request address timeout commandName writeEnd s = (.ok r, s') →
      FromDevice address r.frame) ↔ OwnFrameFirst client request address writeEnd s := by
  constructor
  · intro h hopen hsent g f t p hfirst hp
    obtain ⟨s', hr, -⟩ := (execute_ok_iff timeout commandName (r := ⟨f, p, wireBytes f⟩)
      hopen).mpr ⟨hsent, ⟨g, hfirst⟩, hp, rfl⟩
    exact h _ s' hr
  · intro h r s' hr
    obtain ⟨hopen, hsent⟩ := execute_ok_sent timeout commandName hr
    obtain ⟨-, ⟨g, hfirst⟩, hp, -⟩ := (execute_ok_iff timeout commandName hopen).mp ⟨s', hr, rfl⟩
    exact h hopen hsent _ _ _ _ hfirst hp

structure InfoFrom (P : PyValue → Prop) (info : DeviceInfo) : Prop where
  partNumber : info.partNumber ≠ "" → P (.str info.partNumber)
  hardwareId : ∀ i, info.hardwareId = some i → ∃ n, toInt n = .ok i ∧ P (.num n)
  firmwareId : ∀ i, info.firmwareId = some i → ∃ n, toInt n = .ok i ∧ P (.num n)
  serialNumber : ∀ s, info.serialNumber = some s → P (.str s)
  configuredProtocol : ∀ k, info.configuredProtocol = some k →
    ∃ n code, toInt n = .ok code ∧ protocolCodeToKind code = some k ∧ P (.num n)

theorem InfoFrom.mono {P Q : PyValue → Prop} {info : DeviceInfo} (hpq : ∀ v, P v → Q v)
    (h : InfoFrom P info) : InfoFrom Q info where
  partNumber := fun hne => hpq _ (h.partNumber hne)
  hardwareId := by
    intro i hi
    obtain ⟨n, hn, hp⟩ := h.hardwareId i hi
    exact ⟨n, hn, hpq _ hp⟩
  firmwareId := by
    intro i hi
    obtain ⟨n, hn, hp⟩ := h.firmwareId i hi
    exact ⟨n, hn, hpq _ hp⟩
  serialNumber := fun s hs => hpq _ (h.serialNumber s hs)
  configuredProtocol := by
    intro k hk
    obtain ⟨n, code, hn, hc, hp⟩ := h.configuredProtocol k hk
    exact ⟨n, code, hn, hc, hpq _ hp⟩

def Heard (calls : List BusCall) (address : ℤ) (value : PyValue) : Prop :=
  ∃ c ∈ calls, c.address = address ∧
    ∃ r a, c.run.1 = .ok r ∧ r.payload = .readResponse a ∧ a.value = value

/-- The device at `address` sent a read response with this value to a call for it. -/
def SentBy (calls : List BusCall) (address : ℤ) (value : PyValue) : Prop :=
  ∃ c ∈ calls, c.address = address ∧ ∃ r a, c.run.1 = .ok r ∧ FromDevice address r.frame ∧
    r.payload = .readResponse a ∧ a.value = value

/-- The device data of a row have the property that goes with the row's address. -/
def RowFrom (P : ℤ → PyValue → Prop) (row : DiscoveryResult) : Prop :=
  ∀ info, row.deviceInfo = some info → info.address = row.address ∧ InfoFrom (P row.address) info

theorem RowFrom.mono {P Q : ℤ → PyValue → Prop} {row : DiscoveryResult}
    (hpq : ∀ address v, P address v → Q address v) (h : RowFrom P row) : RowFrom Q row := by
  intro info hinfo
  obtain ⟨haddress, hfrom⟩ := h info hinfo
  exact ⟨haddress, hfrom.mono (hpq _)⟩

theorem Heard.mono {calls calls' : List BusCall} {address : ℤ} {value : PyValue}
    (h : Heard calls address value) (hsub : calls ⊆ calls') : Heard calls' address value := by
  obtain ⟨c, hc, h⟩ := h
  exact ⟨c, hsub hc, h⟩

theorem Heard.sentBy {calls : List BusCall} {address : ℤ} {value : PyValue}
    (hown : ∀ c ∈ calls, OwnFrameFirst ⟨false, c.line.label⟩ c.request c.address c.writeEnd c.line)
    (h : Heard calls address value) : SentBy calls address value := by
  obtain ⟨c, hc, rfl, r, a, hr, ha, hvalue⟩ := h
  have hframe : FromDevice c.address r.frame :=
    (execute_filtered_iff _ _).mpr (hown c hc) r c.run.2 (Prod.ext hr rfl)
  exact ⟨c, hc, rfl, r, a, hr, hframe, ha, hvalue⟩

section Reads

variable {lib : AnyModbus} {turns : ℕ → Turn} {timeout : PyFloat} {st st' : Session × Bus}
  {target : Ident}

/-- What happens between two states of one probe: calls are added, for the same device. -/
structure Later (st st' : Session × Bus) : Prop where
  address : st'.1.address = st.1.address
  calls : st.2.calls ⊆ st'.2.calls

theorem Later.trans (st₁ st₂ st₃ : Session × Bus) (h : Later st₁ st₂) (k : Later st₂ st₃) :
    Later st₁ st₃ :=
  ⟨k.address.trans h.address, List.Subset.trans h.calls k.calls⟩

theorem stdBusWire_calls (address : ℤ) (request : WireRequest) (bus : Bus) :
    bus.calls ⊆ (stdBusWire turns timeout address request bus).2.calls := by
  cases request with
  | payload bs => exact List.subset_append_left _ _
  | op o => exact List.Subset.refl _

theorem stdBusWire_ok {address : ℤ} {request : WireRequest} {bus : Bus} {reply : WireReply}
    (h : (stdBusWire turns timeout address request bus).1 = .ok reply) :
    ∃ c ∈ (stdBusWire turns timeout address request bus).2.calls, c.address = address ∧
      ∃ r, c.run.1 = .ok r ∧ reply = .frame r := by
  cases request with
  | op o => cases h
  | payload bs =>
    refine ⟨bus.next (turns bus.calls.length) timeout address bs, by simp [stdBusWire], rfl, ?_⟩
    simp only [stdBusWire] at h
    rcases error_or_ok (bus.next (turns bus.calls.length) timeout address bs).run.1 with
      ⟨e, he⟩ | ⟨r, hr⟩
    · rw [he] at h
      cases h
    · rw [hr] at h
      cases h
      exact ⟨r, hr, rfl⟩

theorem elim_calls (emitted : Option WireRequest) (address : ℤ) (bus : Bus) :
    bus.calls ⊆ (emitted.elim bus fun request =>
      (stdBusWire turns timeout address request bus).2).calls := by
  cases emitted with
  | none => exact List.Subset.refl _
  | some request => exact stdBusWire_calls address request bus

theorem readParameterAt_later :
    Later st (readParameterAt lib (stdBusWire turns timeout) target st).2 :=
  ⟨(execute_sameDevice _).address, elim_calls _ _ _⟩

theorem readParameterAt_heard {entry : ParameterEntry}
    (h : readParameterAt lib (stdBusWire turns timeout) target st = (.ok entry, st')) :
    Heard st'.2.calls st.1.address entry.value := by
  obtain ⟨hresponse, hstate⟩ := Prod.mk.inj h
  obtain ⟨d, reply, hprepare, hreply, hdecode⟩ := execute_ok_iff.mp hresponse
  obtain ⟨c, hc, haddress, r, hr, rfl⟩ := stdBusWire_ok hreply
  rw [execute_emitted hprepare, Option.elim_some] at hstate
  obtain ⟨variant, hv, -, -, -, wire, -, rfl⟩ := prepare_ok_iff.mp hprepare
  cases variant with
  | modbus v => cases hdecode
  | stdbus v =>
    have hstdbus : v = ⟨readStdBusEncode, readStdBusDecode⟩ := by
      rcases selectVariant_ok hv with ⟨v', hcommand, hv⟩ | ⟨v', -, hv⟩
      · cases hv
        exact (Option.some.inj hcommand).symm
      · cases hv
    subst hstdbus
    obtain ⟨a, ha, -, -, hvalue⟩ := read_entry hdecode
    exact ⟨c, hstate ▸ hc, haddress, r, a, hr, ha, hvalue.symm⟩

variable {α : Type} {pick : PyValue → Result (Option α)}

theorem safeRead_later : Later st (safeRead lib (stdBusWire turns timeout) pick target st).2 := by
  have hlater : Later st (readParameterAt lib (stdBusWire turns timeout) target st).2 :=
    readParameterAt_later
  simp only [safeRead]
  generalize readParameterAt lib (stdBusWire turns timeout) target st = read at hlater
  obtain ⟨x, st'⟩ := read
  cases x with
  | ok entry => exact hlater
  | error e =>
    dsimp only
    split <;> exact hlater

theorem safeRead_heard {x : Option α}
    (h : safeRead lib (stdBusWire turns timeout) pick target st = (.ok x, st')) :
    Later st st' ∧ ∀ v, x = some v →
      ∃ value, pick value = .ok (some v) ∧ Heard st'.2.calls st.1.address value := by
  have hlater : Later st st' := by
    have hlater : Later st (safeRead lib (stdBusWire turns timeout) pick target st).2 :=
      safeRead_later
    rwa [h] at hlater
  refine ⟨hlater, ?_⟩
  rintro v rfl
  simp only [safeRead] at h
  split at h
  · rename_i entry st'' hread
    obtain ⟨hpick, rfl⟩ := Prod.mk.inj h
    exact ⟨entry.value, hpick, readParameterAt_heard hread⟩
  · split at h
    · cases h
    · cases h

theorem textValue_some {value : PyValue} {t : String} (h : textValue value = .ok (some t)) :
    value = .str t := by
  cases value with
  | num n => cases h
  | str s =>
    cases h
    rfl

theorem intValue_some {value : PyValue} {i : ℤ} (h : intValue value = .ok (some i)) :
    ∃ n, value = .num n ∧ toInt n = .ok i := by
  cases value with
  | str s => cases h
  | num n =>
    refine ⟨n, rfl, ?_⟩
    change (toInt n).map some = .ok (some i) at h
    cases hn : toInt n with
    | error e =>
      rw [hn] at h
      cases h
    | ok j =>
      rw [hn] at h
      cases h
      rfl

theorem safeReadStr_heard {x : Option String}
    (h : safeReadStr lib (stdBusWire turns timeout) target st = (.ok x, st')) :
    Later st st' ∧ ∀ t, x = some t → Heard st'.2.calls st.1.address (.str t) := by
  obtain ⟨hlater, hheard⟩ := safeRead_heard h
  refine ⟨hlater, fun t ht => ?_⟩
  obtain ⟨value, hpick, hvalue⟩ := hheard t ht
  exact textValue_some hpick ▸ hvalue

theorem safeReadInt_heard {x : Option ℤ}
    (h : safeReadInt lib (stdBusWire turns timeout) target st = (.ok x, st')) :
    Later st st' ∧ ∀ i, x = some i →
      ∃ n, toInt n = .ok i ∧ Heard st'.2.calls st.1.address (.num n) := by
  obtain ⟨hlater, hheard⟩ := safeRead_heard h
  refine ⟨hlater, fun i hi => ?_⟩
  obtain ⟨value, hpick, hvalue⟩ := hheard i hi
  obtain ⟨n, rfl, hn⟩ := intValue_some hpick
  exact ⟨n, hn, hvalue⟩

theorem ezzoneIdentify_later :
    Later st (ezzoneIdentify lib (stdBusWire turns timeout) st).2 := by
  refine andThen_rel Later Later.trans safeRead_later fun _ _ _ => ?_
  refine andThen_rel Later Later.trans safeRead_later fun _ _ _ => ?_
  refine andThen_rel Later Later.trans safeRead_later fun _ _ _ => ?_
  refine andThen_rel Later Later.trans safeRead_later fun _ _ _ => ?_
  refine andThen_rel Later Later.trans safeRead_later fun _ _ _ => ?_
  exact ⟨rfl, List.Subset.refl _⟩

theorem ezzoneIdentify_heard {info : DeviceInfo}
    (h : ezzoneIdentify lib (stdBusWire turns timeout) st = (.ok info, st')) :
    info.address = st.1.address ∧ InfoFrom (Heard st'.2.calls st.1.address) info := by
  obtain ⟨part, st₁, h₁, h⟩ := andThen_ok_iff.mp h
  obtain ⟨hardwareId, st₂, h₂, h⟩ := andThen_ok_iff.mp h
  obtain ⟨firmwareId, st₃, h₃, h⟩ := andThen_ok_iff.mp h
  obtain ⟨serialNumber, st₄, h₄, h⟩ := andThen_ok_iff.mp h
  obtain ⟨code, st₅, h₅, h⟩ := andThen_ok_iff.mp h
  cases h
  obtain ⟨k₁, hpart⟩ := safeReadStr_heard h₁
  obtain ⟨k₂, hhardware⟩ := safeReadInt_heard h₂
  obtain ⟨k₃, hfirmware⟩ := safeReadInt_heard h₃
  obtain ⟨k₄, hserial⟩ := safeReadStr_heard h₄
  obtain ⟨k₅, hcode⟩ := safeReadInt_heard h₅
  -- What each read heard is still there at the end, and every read was for the same address.
  have t₄ : Later st₃ st' := .trans _ _ _ k₄ k₅
  have t₃ : Later st₂ st' := .trans _ _ _ k₃ t₄
  have t₂ : Later st₁ st' := .trans _ _ _ k₂ t₃
  have t₁ : Later st st' := .trans _ _ _ k₁ t₂
  have a₂ : st₂.1.address = st.1.address := k₂.address.trans k₁.address
  have a₃ : st₃.1.address = st.1.address := k₃.address.trans a₂
  have a₄ : st₄.1.address = st.1.address := k₄.address.trans a₃
  refine ⟨t₁.address, ?_, ?_, ?_, ?_, ?_⟩
  · intro hne
    cases part with
    | none => exact absurd rfl hne
    | some t => exact (hpart t rfl).mono t₂.calls
  · intro i hi
    obtain ⟨n, hn, hheard⟩ := hhardware i hi
    exact ⟨n, hn, k₁.address ▸ hheard.mono t₃.calls⟩
  · intro i hi
    obtain ⟨n, hn, hheard⟩ := hfirmware i hi
    exact ⟨n, hn, a₂ ▸ hheard.mono t₄.calls⟩
  · intro s hs
    exact a₃ ▸ (hserial s hs).mono k₅.calls
  · intro k hk
    obtain ⟨i, hi, hkind⟩ := Option.bind_eq_some_iff.mp hk
    obtain ⟨n, hn, hheard⟩ := hcode i hi
    exact ⟨n, i, hn, hkind, a₄ ▸ hheard⟩

end Reads

section Rows

variable {σ : Type} {lib : AnyModbus} {wire : Wire σ} {registry : ParameterRegistry}
  {timeout : PyFloat} {label : String} {place : Place} {address : ℤ} {row : DiscoveryResult}

theorem rowFrom_of_none {P : ℤ → PyValue → Prop} (h : row.deviceInfo = none) : RowFrom P row := by
  intro info hinfo
  rw [h] at hinfo
  cases hinfo

theorem identifiedRow_of {P : ℤ → PyValue → Prop} {info : DeviceInfo}
    (haddress : info.address = address) (h : InfoFrom (P address) info) :
    RowFrom P (identifiedRow place address info) := by
  simp only [identifiedRow]
  split
  · exact rowFrom_of_none rfl
  · intro info' hinfo
    cases hinfo
    exact ⟨haddress, h⟩

theorem failedRow_ok {e : PyError} (h : failedRow place address timeout e = .ok row) :
    row.deviceInfo = none ∧ row.protocol = place.protocol := by
  simp only [failedRow] at h
  split at h
  · cases h
    exact ⟨rfl, rfl⟩
  · split at h
    · cases h
      exact ⟨rfl, rfl⟩
    · cases h

theorem identifyAddress_protocol {bus bus' : σ}
    (h : identifyAddress lib wire registry timeout label place address bus = (.ok row, bus')) :
    row.protocol = place.protocol := by
  simp only [identifyAddress] at h
  split at h
  · cases h
    simp only [identifiedRow]
    split <;> rfl
  · exact (failedRow_ok (Prod.mk.inj h).1).2

theorem probeAddress_cases (bus : σ) :
    (∃ x, probeAddress lib wire registry timeout label place address bus = (x, bus) ∧
      ∀ row, x = .ok row → row.protocol = place.protocol ∧ row.deviceInfo = none) ∨
    probeAddress lib wire registry timeout label place address bus =
      identifyAddress lib wire registry timeout label place address bus := by
  simp only [probeAddress]
  split
  · exact Or.inr rfl
  · split
    · exact Or.inr rfl
    · refine Or.inl ⟨_, rfl, fun row hrow => ?_⟩
      obtain ⟨_, -, hrow⟩ := bind_ok_iff.mp hrow
      cases hrow
      exact ⟨rfl, rfl⟩

theorem probeAddress_protocol {bus bus' : σ}
    (h : probeAddress lib wire registry timeout label place address bus = (.ok row, bus')) :
    row.protocol = place.protocol := by
  rcases probeAddress_cases bus with ⟨x, hx, hrow⟩ | hprobe
  · cases hx.symm.trans h
    exact (hrow row rfl).1
  · exact identifyAddress_protocol (hprobe ▸ h)

theorem probeAddresses_cons_ok {addresses : List ℤ} {rows : List DiscoveryResult} {bus bus' : σ}
    (h : probeAddresses lib wire registry timeout label place (address :: addresses) bus =
      (.ok rows, bus')) :
    ∃ row bus₁ rows', probeAddress lib wire registry timeout label place address bus =
        (.ok row, bus₁) ∧
      probeAddresses lib wire registry timeout label place addresses bus₁ = (.ok rows', bus') ∧
      rows = row :: rows' := by
  obtain ⟨row, bus₁, hrow, h⟩ := andThen_ok_iff.mp h
  obtain ⟨rows', bus₂, hrows, h⟩ := andThen_ok_iff.mp h
  cases h
  exact ⟨row, bus₁, rows', hrow, hrows, rfl⟩

theorem probeAddresses_protocol {addresses : List ℤ} {rows : List DiscoveryResult} {bus bus' : σ}
    (h : probeAddresses lib wire registry timeout label place addresses bus = (.ok rows, bus')) :
    ∀ row ∈ rows, row.protocol = place.protocol := by
  induction addresses generalizing bus bus' rows with
  | nil =>
    cases h
    simp
  | cons address addresses ih =>
    obtain ⟨row, bus₁, rows', hrow, hrows, rfl⟩ := probeAddresses_cons_ok h
    intro row' hmem
    rcases List.mem_cons.mp hmem with rfl | hmem
    · exact probeAddress_protocol hrow
    · exact ih hrows row' hmem

end Rows

section Probes

variable {lib : AnyModbus} {turns : ℕ → Turn} {registry : ParameterRegistry} {timeout : PyFloat}
  {label : String} {place : Place} {address : ℤ} {row : DiscoveryResult} {bus bus' : Bus}

theorem identifyAddress_calls :
    bus.calls ⊆ (identifyAddress lib (stdBusWire turns timeout) registry timeout label place address
      bus).2.calls := by
  have hlater : Later (newSession registry label place address, bus)
      (ezzoneIdentify lib (stdBusWire turns timeout)
        (newSession registry label place address, bus)).2 := ezzoneIdentify_later
  simp only [identifyAddress]
  generalize ezzoneIdentify lib (stdBusWire turns timeout) _ = identified at hlater
  obtain ⟨x, st⟩ := identified
  cases x <;> exact hlater.calls

theorem identifyAddress_heard
    (h : identifyAddress lib (stdBusWire turns timeout) registry timeout label place address bus =
      (.ok row, bus')) : RowFrom (Heard bus'.calls) row := by
  simp only [identifyAddress] at h
  split at h
  · rename_i info st hidentify
    cases h
    obtain ⟨haddress, hinfo⟩ := ezzoneIdentify_heard hidentify
    exact identifiedRow_of haddress hinfo
  · exact rowFrom_of_none (failedRow_ok (Prod.mk.inj h).1).1

theorem probeAddress_calls :
    bus.calls ⊆ (probeAddress lib (stdBusWire turns timeout) registry timeout label place address
      bus).2.calls := by
  rcases probeAddress_cases bus with ⟨x, hx, -⟩ | hprobe
  · rw [hx]
    exact List.Subset.refl _
  · rw [hprobe]
    exact identifyAddress_calls

theorem probeAddress_heard
    (h : probeAddress lib (stdBusWire turns timeout) registry timeout label place address bus =
      (.ok row, bus')) : RowFrom (Heard bus'.calls) row := by
  rcases probeAddress_cases bus with ⟨x, hx, hrow⟩ | hprobe
  · cases hx.symm.trans h
    exact rowFrom_of_none (hrow row rfl).2
  · exact identifyAddress_heard (hprobe ▸ h)

theorem probeAddresses_calls (addresses : List ℤ) :
    bus.calls ⊆ (probeAddresses lib (stdBusWire turns timeout) registry timeout label place
      addresses bus).2.calls := by
  induction addresses generalizing bus with
  | nil => exact List.Subset.refl _
  | cons address addresses ih =>
    refine andThen_rel (fun b b' : Bus => b.calls ⊆ b'.calls) (fun _ _ _ => List.Subset.trans)
      probeAddress_calls fun row bus₁ _ => ?_
    exact andThen_rel (fun b b' : Bus => b.calls ⊆ b'.calls) (fun _ _ _ => List.Subset.trans)
      ih fun rows bus₂ _ => List.Subset.refl _

theorem probeAddresses_heard {addresses : List ℤ} {rows : List DiscoveryResult}
    (h : probeAddresses lib (stdBusWire turns timeout) registry timeout label place addresses bus =
      (.ok rows, bus')) : ∀ row ∈ rows, RowFrom (Heard bus'.calls) row := by
  induction addresses generalizing bus bus' rows with
  | nil =>
    cases h
    simp
  | cons address addresses ih =>
    obtain ⟨row, bus₁, rows', hrow, hrows, rfl⟩ := probeAddresses_cons_ok h
    have hsub : bus₁.calls ⊆ (probeAddresses lib (stdBusWire turns timeout) registry timeout label
        place addresses bus₁).2.calls := probeAddresses_calls addresses
    rw [hrows] at hsub
    intro row' hmem
    rcases List.mem_cons.mp hmem with rfl | hmem
    · exact (probeAddress_heard hrow).mono fun _ _ hheard => hheard.mono hsub
    · exact ih hrows row' hmem

end Probes

section Scans

variable {lib : AnyModbus} {registry : ParameterRegistry} {timeout : PyFloat}
  {addresses : List ℤ} {found : ℕ → Combo}

theorem probeCombo_ok {σ : Type} {wire : Wire σ} {label : String} {place : Place}
    {opening : Option PyError} {rows : List DiscoveryResult} {died : Bool} {bus bus' : σ}
    (h : probeCombo lib wire registry timeout label place opening addresses bus =
      (.ok (rows, died), bus')) :
    (∀ row ∈ rows, row.protocol = place.protocol ∧ row.deviceInfo = none) ∨
      probeAddresses lib wire registry timeout label place addresses bus = (.ok rows, bus') := by
  simp only [probeCombo] at h
  split at h
  · obtain ⟨rows', bus₁, hrows, h⟩ := andThen_ok_iff.mp h
    cases h
    exact Or.inr hrows
  · split at h
    · cases h
      refine Or.inl ?_
      intro row hmem
      obtain ⟨address, -, rfl⟩ := List.mem_map.mp hmem
      exact ⟨rfl, rfl⟩
    · cases h

theorem scanPlace_heard {place : Place} {combo : Combo} {calls calls' : List BusCall}
    {rows : List DiscoveryResult} {died : Bool}
    (h : scanPlace lib registry timeout addresses place combo calls =
      (.ok (rows, died), calls')) :
    ∀ row ∈ rows, row.protocol = .stdbus → RowFrom (Heard calls') row := by
  simp only [scanPlace] at h
  split at h
  · obtain ⟨hrows, rfl⟩ := Prod.mk.inj h
    rcases probeCombo_ok (Prod.ext hrows rfl) with hnone | hprobed
    · intro row hmem _
      exact rowFrom_of_none (hnone row hmem).2
    · intro row hmem _
      exact (probeAddresses_heard hprobed row hmem).mono fun _ _ hheard =>
        hheard.mono (List.subset_append_right _ _)
  · rename_i hplace
    obtain ⟨hrows, -⟩ := Prod.mk.inj h
    have hprotocol : ∀ row ∈ rows, row.protocol = place.protocol := by
      rcases probeCombo_ok (Prod.ext hrows rfl) with hnone | hprobed
      · exact fun row hmem => (hnone row hmem).1
      · exact probeAddresses_protocol hprobed
    intro row hmem hstdbus
    rw [hprotocol row hmem, hplace] at hstdbus
    cases hstdbus
  · cases h

theorem scanPlace_calls (place : Place) (combo : Combo) (calls : List BusCall) :
    calls ⊆ (scanPlace lib registry timeout addresses place combo calls).2 := by
  simp only [scanPlace]
  split
  · exact List.subset_append_left _ _
  · exact List.Subset.refl _
  · exact List.Subset.refl _

theorem scanPlaces_calls (places : List Place) (n : ℕ) (dead : List String)
    (calls : List BusCall) :
    calls ⊆ (scanPlaces lib registry timeout addresses found places n dead calls).2 := by
  induction places generalizing n dead calls with
  | nil => exact List.Subset.refl _
  | cons place places ih =>
    simp only [scanPlaces]
    split
    · exact andThen_rel (fun c c' : List BusCall => c ⊆ c') (fun _ _ _ => List.Subset.trans)
        (ih _ _ _) fun rows calls₁ _ => List.Subset.refl _
    · refine andThen_rel (fun c c' : List BusCall => c ⊆ c') (fun _ _ _ => List.Subset.trans)
        (scanPlace_calls _ _ _) fun r calls₁ _ => ?_
      exact andThen_rel (fun c c' : List BusCall => c ⊆ c') (fun _ _ _ => List.Subset.trans)
        (ih _ _ _) fun rows calls₂ _ => List.Subset.refl _

theorem scanPlaces_heard {places : List Place} {n : ℕ} {dead : List String}
    {calls calls' : List BusCall} {rows : List DiscoveryResult}
    (h : scanPlaces lib registry timeout addresses found places n dead calls =
      (.ok rows, calls')) :
    ∀ row ∈ rows, row.protocol = .stdbus → RowFrom (Heard calls') row := by
  induction places generalizing n dead calls calls' rows with
  | nil =>
    cases h
    simp
  | cons place places ih =>
    simp only [scanPlaces] at h
    split at h
    · obtain ⟨later, calls₁, hlater, h⟩ := andThen_ok_iff.mp h
      cases h
      intro row hmem hstdbus
      rcases List.mem_append.mp hmem with hmem | hmem
      · obtain ⟨address, -, rfl⟩ := List.mem_map.mp hmem
        exact rowFrom_of_none rfl
      · exact ih hlater row hmem hstdbus
    · obtain ⟨r, calls₁, hr, h⟩ := andThen_ok_iff.mp h
      obtain ⟨later, calls₂, hlater, h⟩ := andThen_ok_iff.mp h
      cases h
      have hsub : calls₁ ⊆ (scanPlaces lib registry timeout addresses found places (n + 1)
          (if r.2 then place.port :: dead else dead) calls₁).2 := scanPlaces_calls _ _ _ _
      rw [hlater] at hsub
      intro row hmem hstdbus
      rcases List.mem_append.mp hmem with hmem | hmem
      · exact (scanPlace_heard hr row hmem hstdbus).mono fun _ _ hheard => hheard.mono hsub
      · exact ih hlater row hmem hstdbus

theorem findDevices_heard {ports : List String} {baudrates : List ℕ}
    {protocols : List ProtocolKind} {calls : List BusCall} {rows : List DiscoveryResult}
    (h : findDevices lib registry timeout addresses found ports baudrates protocols =
      (.ok rows, calls)) :
    ∀ row ∈ rows, row.protocol = .stdbus → RowFrom (Heard calls) row := by
  simp only [findDevices] at h
  split at h
  · cases h
  · split at h
    · cases h
    · exact scanPlaces_heard h

end Scans

/-- A call returns only its own device's frames exactly when such a frame is the first on its
line; a scan all of whose calls are so placed reports at each address what its device sent. -/
theorem sources_filtered_iff (client : StdBusProtocolClient) (request : Bytes) (address : ℤ)
    (timeout : Option PyFloat) (commandName : String) (writeEnd : Option PortEnd) (s : Line) :
    ((∀ r s', execute client request address timeout commandName writeEnd s = (.ok r, s') →
      FromDevice address r.frame) ↔ OwnFrameFirst client request address writeEnd s) ∧
    ∀ (lib : AnyModbus) (registry : ParameterRegistry) (timeout : PyFloat) (addresses : List ℤ)
      (found : ℕ → Combo) (ports : List String) (baudrates : List ℕ)
      (protocols : List ProtocolKind) (rows : List DiscoveryResult) (calls : List BusCall),
      findDevices lib registry timeout addresses found ports baudrates protocols =
        (.ok rows, calls) →
      (∀ c ∈ calls,
        OwnFrameFirst ⟨false, c.line.label⟩ c.request c.address c.writeEnd c.line) →
      ∀ row ∈ rows, row.protocol = .stdbus → RowFrom (SentBy calls) row := by
  constructor
  · exact execute_filtered_iff timeout commandName
  · intro lib registry timeout addresses found ports baudrates protocols rows calls h hown row
      hmem hstdbus
    exact (findDevices_heard h row hmem hstdbus).mono fun _ _ hheard => hheard.sentBy hown

def identityRegistry : ParameterRegistry :=
  .build [plainRow 1009 "part_number", plainRow 1001 "hardware_id", plainRow 1002 "firmware_id",
    plainRow 1007 "serial_number", plainRow 17009 "protocol"] [] []

def scanOf (addresses : List ℤ) (turns : ℕ → Turn) :
    Result (List DiscoveryResult) × List BusCall :=
  findDevices wordModbus identityRegistry (.finite (1 / 2)) addresses
    (fun _ => ⟨"COM3", none, ⟨"COM3", true, [], [], .scopeDeadline⟩, turns, fun _ _ _ => .ok []⟩)
    ["COM3"] [38400] [.stdbus]

def partNumberFrom (mac : UInt8) : Frame :=
  ⟨dataNotExpectingReply, hostMac, mac,
    [0x02, 0x03, 0x01, 0x01, 0x09, 0x01, 0x09, 0x04, 0x50, 0x4D, 0x33, 0x00]⟩

def pm3Row (address : ℤ) : DiscoveryResult :=
  (⟨"COM3", 38400, .stdbus⟩ : Place).row address
    (some ⟨"PM3", none, none, none, .stdbus, address, .incomplete, none⟩) none

def answeredTurns : ℕ → Turn
  | 0 => ⟨none, [wireBytes (partNumberFrom 0x11)], .scopeDeadline⟩
  | _ => ⟨none, [], .scopeDeadline⟩

theorem answered_scan_filtered : RowFrom (SentBy (scanOf [2] answeredTurns).2) (pm3Row 2) := by
  have hscan : scanOf [2] answeredTurns = (.ok [pm3Row 2], (scanOf [2] answeredTurns).2) :=
    Prod.ext (by decide +kernel) rfl
  have hown : ∀ c ∈ (scanOf [2] answeredTurns).2, ∀ r ∈ c.run.1.toOption,
      FromDevice c.address r.frame := by decide +kernel
  obtain ⟨-, hrows⟩ := sources_filtered_iff ⟨false, "COM3"⟩ slowRequest 2 none "read_parameter" none
    (lineOf [])
  refine hrows _ _ _ _ _ _ _ _ _ _ hscan ?_ _ List.mem_cons_self rfl
  intro c hc
  refine (sources_filtered_iff _ _ _ (some c.timeout) "read_parameter" _ _).1.mp ?_
  intro r s' hr
  refine hown c hc r ?_
  have hrun : c.run.1 = .ok r := (Prod.mk.inj hr).1
  rw [hrun]
  rfl

def lateTurns : ℕ → Turn
  | 0 => ⟨none, [], .cancelled⟩
  | 1 => ⟨none, [wireBytes (partNumberFrom 0x10)], .scopeDeadline⟩
  | _ => ⟨none, [], .scopeDeadline⟩

/-- A refusal from address 1 is returned by a call to address 2, and the late part number from
address 1 is reported as that of a device at address 2. -/
theorem foreign_frames_accepted :
    (¬ ∀ (client : StdBusProtocolClient) (request : Bytes) (address : ℤ)
      (timeout : Option PyFloat) (commandName : String) (writeEnd : Option PortEnd) (s s' : Line)
      (r : StdBusReply), execute client request address timeout commandName writeEnd s =
        (.ok r, s') → FromDevice address r.frame) ∧
    ¬ ∀ (lib : AnyModbus) (registry : ParameterRegistry) (timeout : PyFloat)
      (addresses : List ℤ) (found : ℕ → Combo) (ports : List String) (baudrates : List ℕ)
      (protocols : List ProtocolKind) (rows : List DiscoveryResult) (calls : List BusCall),
      findDevices lib registry timeout addresses found ports baudrates protocols =
        (.ok rows, calls) →
      ∀ row ∈ rows, row.protocol = .stdbus → RowFrom (SentBy calls) row := by
  constructor
  · intro h
    have hrun : (execute ⟨false, "COM3"⟩ slowRequest 2 none "read_parameter" none
        (lineOf [wireBytes refusal])).1 =
          .ok ⟨refusal, .errorResponse 0x83, wireBytes refusal⟩ := by decide +kernel
    have hframe : ¬ FromDevice 2 refusal := by decide
    exact hframe (h _ _ _ _ _ _ _ _ _ (Prod.ext hrun rfl))
  · intro h
    have hscan : scanOf [1, 2] lateTurns = (.ok ((scanOf [1, 2] lateTurns).1.toOption.getD []),
        (scanOf [1, 2] lateTurns).2) := Prod.ext (by decide +kernel) rfl
    have hrow : pm3Row 2 ∈ (scanOf [1, 2] lateTurns).1.toOption.getD [] := by decide +kernel
    have hforeign : ∀ c ∈ (scanOf [1, 2] lateTurns).2, ∀ r ∈ c.run.1.toOption,
        ¬ FromDevice c.address r.frame := by decide +kernel
    obtain ⟨-, hinfo⟩ := h _ _ _ _ _ _ _ _ _ _ hscan _ hrow rfl _ rfl
    obtain ⟨c, hc, haddress, r, a, hr, hframe, -⟩ := hinfo.partNumber (by decide)
    exact hforeign c hc r (by rw [hr]; rfl) (haddress ▸ hframe)

end SourceFiltering
