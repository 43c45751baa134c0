import Watlowlib.DiscoveryScan

/-! # When a scan is complete

A scan returns its rows exactly when nothing that the ports and the devices did escapes it: an open
or a close that fails outside the library's errors, a number that `int` refuses, a negative number
of decimal places. -/
namespace DiscoveryCompleteness

open Discovery DiscoveryScan ExceptRules IdentityOutcomes IdentityStrategies ModbusCodec
  PythonNumbers PythonValues Registry SerialTransport SessionExecute StdBusClient StdBusFraming
  WatlowErrors

/-- `_probe_address` has no handler for the error. -/
def Uncaught (e : PyError) : Prop :=
  ¬ (e.kind = .cancelled ∨ e.kind.IsInstance .timeoutError) ∧
    ¬ (e.kind.IsInstance .protocolUnsupported ∨ e.kind.IsInstance .transport)

theorem uncaught_of_kind {e : PyError} (h : e.kind = .valueError ∨ e.kind = .overflowError) :
    Uncaught e := by
  rcases h with h | h <;> simp only [Uncaught, h] <;> decide

theorem raised_uncaught_iff {q : IdentityRead} {answer : Result ParameterCommands.ParameterEntry}
    (hq : q.strict = false) :
    (∃ e, raised q answer = some e ∧ Uncaught e) ↔
      (∃ e, answer = .error e ∧ ¬ Tolerated e ∧ Uncaught e) ∨
        q.readAs = .number ∧ ∃ entry n, answer = .ok entry ∧ entry.value = .num n ∧
          (n = .float .nan ∨ ∃ negative, n = .float (.inf negative)) := by
  constructor
  · rintro ⟨e, hraised, he⟩
    rcases raised_iff.mp hraised with ⟨hanswer, hnot⟩ | ⟨hread, entry, n, hanswer, hvalue, hn⟩
    · exact Or.inl ⟨e, hanswer, fun htolerated => hnot ⟨hq, htolerated⟩, he⟩
    · exact Or.inr ⟨hread, entry, n, hanswer, hvalue, toInt_error_iff.mp ⟨e, hn⟩⟩
  · rintro (⟨e, hanswer, hnot, he⟩ | ⟨hread, entry, n, hanswer, hvalue, hn⟩)
    · exact ⟨e, raised_iff.mpr (Or.inl ⟨hanswer, fun h => hnot h.2⟩), he⟩
    · obtain ⟨e, he⟩ := toInt_error_iff.mpr hn
      exact ⟨e, raised_iff.mpr (Or.inr ⟨hread, entry, n, hanswer, hvalue, he⟩),
        uncaught_of_kind (toInt_error_kind he)⟩

def Escapes : ScanEvent → Prop
  | .opened _ error => ∃ e ∈ error, ¬ e.IsWatlow
  | .refused _ address => ¬ WritesInt address
  | .identified _ _ answers => Spoiled Uncaught answers
  | .closed _ error => ∃ e ∈ error, ¬ e.IsWatlow

def rowKey (row : DiscoveryResult) : Place × ℤ :=
  (⟨row.port, row.baudrate, row.protocol⟩, row.address)

def RowConsistent (row : DiscoveryResult) : Prop :=
  row.ok = true ↔ row.deviceInfo.isSome = true ∧ row.error = none

/-- The rows that are due, in the nesting order of the loops. -/
def expectedKeys (args : Arguments) (plan : List PlanEntry) : List (Place × ℤ) :=
  args.ports.flatMap fun port => args.resolvedBaudrates.flatMap fun baudrate =>
    (plan.filter fun entry => !args.prunes entry.profile baudrate).flatMap fun entry =>
      args.resolvedAddresses.map fun address => (⟨port, baudrate, entry.protocol⟩, address)

/-- No open of the port after one that failed with a connection error. -/
def NotReopened : ScanEvent → ScanEvent → Prop
  | .opened place (some e), .opened place' _ =>
    e.kind.IsInstance .connection → place'.port ≠ place.port
  | _, _ => True

/-- One consistent row for each combination and address, and no port opened again once it died. -/
def Complete {σ : Type} (args : Arguments) (plan : List PlanEntry)
    (x : Result (List DiscoveryResult) × Scan σ) : Prop :=
  (∃ rows, x.1 = .ok rows ∧ rows.map rowKey = expectedKeys args plan ∧
    ∀ row ∈ rows, RowConsistent row) ∧ x.2.log.Pairwise NotReopened

section Yields

variable {σ α β : Type} {s : Scan σ} {x : Result α × Scan σ} {Good : α → Prop}
  {new new' : List ScanEvent}

/-- The events account for the end: an error comes from one that escapes, a result from none. -/
def Accounts (Good : α → Prop) (new : List ScanEvent) : Result α → Prop
  | .error _ => ∃ event ∈ new, Escapes event
  | .ok a => (∀ event ∈ new, ¬ Escapes event) ∧ Good a

theorem Accounts.append {Good' : β → Prop} {r : Result β} (h : ∀ event ∈ new, ¬ Escapes event)
    (hr : Accounts Good' new' r) : Accounts Good' (new ++ new') r := by
  cases r with
  | error e =>
    obtain ⟨event, hmem, he⟩ := hr
    exact ⟨event, List.mem_append_right _ hmem, he⟩
  | ok b =>
    refine ⟨?_, hr.2⟩
    intro event hmem
    rcases List.mem_append.mp hmem with hmem | hmem
    · exact h event hmem
    · exact hr.1 event hmem

theorem Accounts.snoc {r : Result α} {event : ScanEvent} (hr : Accounts Good new r)
    (h : ¬ Escapes event) : Accounts Good (new ++ [event]) r := by
  cases r with
  | error e =>
    obtain ⟨event', hmem, he⟩ := hr
    exact ⟨event', List.mem_append_left _ hmem, he⟩
  | ok a =>
    refine ⟨?_, hr.2⟩
    intro event' hmem
    rcases List.mem_append.mp hmem with hmem | hmem
    · exact hr.1 event' hmem
    · cases List.mem_singleton.mp hmem
      exact h

theorem Accounts.map {Good' : β → Prop} {r : Result α} {g : α → β} (hr : Accounts Good new r)
    (h : ∀ a, Good a → Good' (g a)) : Accounts Good' new (r.map g) := by
  cases r with
  | error e => exact hr
  | ok a => exact ⟨hr.1, h a hr.2⟩

/-- What a computation adds to the log are events of `P`, and they account for its end. -/
def Yields (P : ScanEvent → Prop) (s : Scan σ) (x : Result α × Scan σ) (Good : α → Prop) : Prop :=
  ∃ new, x.2.log = s.log ++ new ∧ (∀ event ∈ new, P event) ∧ Accounts Good new x.1

variable {P : ScanEvent → Prop}

theorem yields_ok {a : α} (h : Good a) : Yields P s (.ok a, s) Good :=
  ⟨[], (List.append_nil _).symm, by simp, by simp, h⟩

theorem Yields.andThen {Good' : β → Prop} {f : α → Scan σ → Result β × Scan σ}
    (hx : Yields P s x Good) (hf : ∀ a t, Good a → Yields P t (f a t) Good') :
    Yields P s (ExceptRules.andThen x f) Good' := by
  obtain ⟨r, t⟩ := x
  obtain ⟨new, hlog, hP, h⟩ := hx
  cases r with
  | error e => exact ⟨new, hlog, hP, h⟩
  | ok a =>
    obtain ⟨new', hlog', hP', h'⟩ := hf a t h.2
    refine ⟨new ++ new', ?_, ?_, h'.append h.1⟩
    · rw [andThen_ok, hlog', ← List.append_assoc]
      exact congrArg (· ++ new') hlog
    · intro event hmem
      exact (List.mem_append.mp hmem).elim (hP event) (hP' event)

end Yields

section Rows

variable {place : Place} {address : ℤ}

def RowFor (place : Place) (address : ℤ) (row : DiscoveryResult) : Prop :=
  rowKey row = (place, address) ∧ RowConsistent row

def RowsFor (place : Place) (addresses : List ℤ) (rows : List DiscoveryResult) : Prop :=
  rows.map rowKey = addresses.map (place, ·) ∧ ∀ row ∈ rows, RowConsistent row

theorem errorRow_for (e : PyError) : RowFor place address (place.row address none (some e)) :=
  ⟨rfl, by simp [RowConsistent, Place.row]⟩

theorem identifiedRow_for (info : DeviceInfo) :
    RowFor place address (identifiedRow place address info) := by
  simp only [identifiedRow]
  split
  · exact errorRow_for _
  · exact ⟨rfl, by simp [RowConsistent, Place.row]⟩

theorem sameError_rowsFor (addresses : List ℤ) (e : PyError) :
    RowsFor place addresses (sameError place addresses e) := by
  constructor
  · simp only [sameError, List.map_map]
    rfl
  · intro row hrow
    obtain ⟨address, -, rfl⟩ := List.mem_map.mp hrow
    exact (errorRow_for e).2

theorem failedRow_caught {timeout : PyFloat} {e : PyError} (h : ¬ Uncaught e) :
    ∃ row, failedRow place address timeout e = .ok row ∧ RowFor place address row := by
  simp only [failedRow]
  split
  · exact ⟨_, rfl, errorRow_for _⟩
  · split
    · exact ⟨_, rfl, errorRow_for _⟩
    · exact absurd ⟨‹_›, ‹_›⟩ h

theorem failedRow_uncaught {timeout : PyFloat} {e : PyError} (h : Uncaught e) :
    failedRow place address timeout e = .error e := by
  simp only [failedRow]
  rw [if_neg h.1, if_neg h.2]

theorem decimalScale_uncaught {places : ℤ} {e : PyError} (h : decimalScale places = .error e) :
    Uncaught e := by
  rcases decimalScale_error h with hkind | hkind | hkind
  · simp only [Uncaught, hkind]
    decide
  · simp only [Uncaught, hkind]
    decide
  · simp only [Uncaught, hkind]
    decide

theorem probeRow_accounts {timeout : PyFloat} {combination : Combination}
    {r : Result DeviceInfo} {answers : Answers} (h : Explained r answers) :
    Accounts (RowFor combination.place address)
      [.identified combination.place address answers]
      (probeRow timeout combination address r) := by
  have hspoiled := h.error_iff fun _ _ hd => decimalScale_uncaught hd
  cases r with
  | ok info =>
    refine ⟨?_, identifiedRow_for info⟩
    simp [Escapes, ← hspoiled]
  | error e =>
    by_cases he : Uncaught e
    · simp only [probeRow, failedRow_uncaught he]
      exact ⟨_, List.mem_singleton.mpr rfl, hspoiled.mp ⟨e, rfl, he⟩⟩
    · obtain ⟨row, hrow, hfor⟩ :
          ∃ row, failedRow combination.place address timeout e = .ok row ∧
            RowFor combination.place address row := failedRow_caught he
      simp only [probeRow, hrow]
      refine ⟨?_, hfor⟩
      simp [Escapes, ← hspoiled, he]

end Rows

def NotOpening : ScanEvent → Prop
  | .opened _ _ => False
  | _ => True

section Probes

variable {σ : Type} (lib : AnyModbus) (world : World σ) (timeout : PyFloat)
  {combination : Combination} (s : Scan σ)

theorem identifyAddress_yields (hprotocol : combination.place.protocol ≠ .auto) (address : ℤ) :
    Yields NotOpening s (DiscoveryScan.identifyAddress lib world timeout combination address s)
      (RowFor combination.place address) := by
  simp only [DiscoveryScan.identifyAddress, makeProtocolClient_concrete hprotocol]
  exact ⟨_, rfl, by simp [NotOpening], probeRow_accounts (identify_explained _ _ _ _ _)⟩

theorem refusedRow_yields (address lo hi : ℤ) :
    Yields NotOpening s
      (refusedRow combination.place address lo hi,
        { s with log := s.log ++ [.refused combination.place address] })
      (RowFor combination.place address) := by
  refine ⟨_, rfl, by simp [NotOpening], ?_⟩
  rw [refusedRow]
  by_cases h : WritesInt address
  · rw [require_of _ h]
    exact ⟨by simpa [Escapes] using h, errorRow_for _⟩
  · rw [require_error_iff.mpr ⟨h, rfl⟩]
    exact ⟨_, List.mem_singleton.mpr rfl, h⟩

theorem probeAddress_yields (hprotocol : combination.place.protocol ≠ .auto) (address : ℤ) :
    Yields NotOpening s (DiscoveryScan.probeAddress lib world timeout combination address s)
      (RowFor combination.place address) := by
  simp only [DiscoveryScan.probeAddress]
  split
  · exact identifyAddress_yields lib world timeout s hprotocol address
  · split
    · exact identifyAddress_yields lib world timeout s hprotocol address
    · exact refusedRow_yields s address _ _

theorem probeAddresses_yields (hprotocol : combination.place.protocol ≠ .auto)
    (addresses : List ℤ) :
    Yields NotOpening s (DiscoveryScan.probeAddresses lib world timeout combination addresses s)
      (RowsFor combination.place addresses) := by
  induction addresses generalizing s with
  | nil => exact yields_ok ⟨rfl, by simp⟩
  | cons address addresses ih =>
    refine (probeAddress_yields lib world timeout s hprotocol address).andThen ?_
    intro row t hrow
    refine (ih t).andThen ?_
    intro rows t' hrows
    refine yields_ok ⟨?_, ?_⟩
    · rw [List.map_cons, List.map_cons, hrow.1, hrows.1]
    · intro row' hmem
      rcases List.mem_cons.mp hmem with rfl | hmem
      · exact hrow.2
      · exact hrows.2 row' hmem

theorem closing_yields {α : Type} {Good : α → Prop} (place : Place) {x : Result α × Scan σ}
    (hx : Yields NotOpening s x Good) :
    Yields NotOpening s (closing world place x) Good := by
  obtain ⟨new, hlog, hnew, hr⟩ := hx
  have hnew' : ∀ error, ∀ event ∈ new ++ [.closed place error], NotOpening event := by
    intro error event hmem
    rcases List.mem_append.mp hmem with hmem | hmem
    · exact hnew event hmem
    · cases List.mem_singleton.mp hmem
      trivial
  simp only [closing]
  cases hc : (world.closing place x.2.world).1 with
  | none =>
    refine ⟨new ++ [.closed place none], ?_, hnew' none, hr.snoc ?_⟩
    · rw [← List.append_assoc, ← hlog]
    · simp [Escapes]
  | some e =>
    by_cases he : e.IsWatlow
    · simp only [if_pos he]
      refine ⟨new ++ [.closed place (some e)], ?_, hnew' (some e), hr.snoc ?_⟩
      · rw [← List.append_assoc, ← hlog]
      · simp [Escapes, he]
    · simp only [if_neg he]
      refine ⟨new ++ [.closed place (some e)], ?_, hnew' (some e), ?_⟩
      · rw [← List.append_assoc, ← hlog]
      · exact ⟨.closed place (some e), by simp, by simp [Escapes, he]⟩

theorem probeCombo_log (hprotocol : combination.place.protocol ≠ .auto) (addresses : List ℤ) :
    ∃ opening new,
      (DiscoveryScan.probeCombo lib world timeout combination addresses s).2.log =
        s.log ++ .opened combination.place opening :: new ∧
      (∀ event ∈ new, NotOpening event) ∧
      Accounts (fun r => RowsFor combination.place addresses r.1 ∧
          (r.2 = true ↔ ∃ e ∈ opening, e.kind.IsInstance .connection))
        (.opened combination.place opening :: new)
        (DiscoveryScan.probeCombo lib world timeout combination addresses s).1 := by
  simp only [DiscoveryScan.probeCombo]
  cases ho : (world.opening combination.place s.world).1 with
  | none =>
    obtain ⟨new, hlog, hnew, hr⟩ := closing_yields world _
      combination.place (probeAddresses_yields lib world timeout
        ⟨(world.opening combination.place s.world).2,
          s.log ++ [.opened combination.place none]⟩ hprotocol addresses)
    refine ⟨none, new, ?_, hnew, ?_⟩
    · rw [hlog, List.append_assoc]
      rfl
    · have hopened : ∀ event ∈ [ScanEvent.opened combination.place none], ¬ Escapes event := by
        simp [Escapes]
      cases hx : (closing world combination.place (DiscoveryScan.probeAddresses lib world timeout
        combination addresses ⟨(world.opening combination.place s.world).2,
          s.log ++ [.opened combination.place none]⟩)).1 with
      | error e =>
        rw [hx] at hr
        exact Accounts.append hopened hr
      | ok rows =>
        rw [hx] at hr
        exact Accounts.append (r := .ok (rows, false)) hopened ⟨hr.1, hr.2, by simp⟩
  | some e =>
    by_cases he : e.IsWatlow
    · simp only [if_pos he]
      refine ⟨some e, [], rfl, by simp, ?_, sameError_rowsFor addresses e, by simp⟩
      simp [Escapes, he]
    · simp only [if_neg he]
      exact ⟨some e, [], rfl, by simp, .opened combination.place (some e), by simp,
        by simp [Escapes, he]⟩

end Probes

section Loops

variable {σ : Type} (lib : AnyModbus) (world : World σ) (timeout : PyFloat) (addresses : List ℤ)

def RowsDue (combinations : List Combination) (rows : List DiscoveryResult) : Prop :=
  rows.map rowKey = (combinations.flatMap fun c => addresses.map (c.place, ·)) ∧
    ∀ row ∈ rows, RowConsistent row

variable {addresses}

theorem RowsDue.cons {combination : Combination} {combinations : List Combination}
    {rows rows' : List DiscoveryResult} (h : RowsFor combination.place addresses rows)
    (h' : RowsDue addresses combinations rows') :
    RowsDue addresses (combination :: combinations) (rows ++ rows') := by
  constructor
  · rw [List.map_append, h.1, h'.1, List.flatMap_cons]
  · intro row hmem
    exact (List.mem_append.mp hmem).elim (h.2 row) (h'.2 row)

theorem notReopened_of_notOpening {event event' : ScanEvent} (h : NotOpening event') :
    NotReopened event event' := by
  cases event' with
  | opened place error => exact h.elim
  | refused place address => cases event <;> simp [NotReopened]
  | identified place address answers => cases event <;> simp [NotReopened]
  | closed place error => cases event <;> simp [NotReopened]

theorem notReopened_after_quiet {event event' : ScanEvent} (h : NotOpening event) :
    NotReopened event event' := by
  cases event with
  | opened place error => exact h.elim
  | refused place address => trivial
  | identified place address answers => trivial
  | closed place error => trivial

theorem notReopened_of_dead {place place' : Place} {opening opening' : Option PyError}
    (h : ∀ e ∈ opening, e.kind.IsInstance .connection → place'.port ≠ place.port) :
    NotReopened (.opened place opening) (.opened place' opening') := by
  cases opening with
  | none => trivial
  | some e => exact h e rfl

theorem probe_notReopened {place : Place} {opening : Option PyError} {new : List ScanEvent}
    (hnew : ∀ event ∈ new, NotOpening event) :
    (ScanEvent.opened place opening :: new).Pairwise NotReopened := by
  refine List.pairwise_cons.mpr ⟨fun event hmem => notReopened_of_notOpening (hnew event hmem), ?_⟩
  induction new with
  | nil => exact List.Pairwise.nil
  | cons event new ih =>
    refine List.pairwise_cons.mpr ⟨?_, ih fun event' hmem => hnew event' (by simp [hmem])⟩
    intro event' hmem
    exact notReopened_of_notOpening (hnew event' (by simp [hmem]))

theorem probe_then_notReopened {place : Place} {opening : Option PyError} {died : Bool}
    {dead : List String} {new new' : List ScanEvent} (hnew : ∀ event ∈ new, NotOpening event)
    (hdied : died = true ↔ ∃ e ∈ opening, e.kind.IsInstance .connection)
    (hpairs : new'.Pairwise NotReopened)
    (hports : ∀ place' o, .opened place' o ∈ new' →
      place'.port ∉ (if died then place.port :: dead else dead)) :
    (ScanEvent.opened place opening :: new ++ new').Pairwise NotReopened := by
  refine List.pairwise_append.mpr ⟨probe_notReopened hnew, hpairs, ?_⟩
  intro event hmem event' hmem'
  cases event' with
  | refused place address => exact notReopened_of_notOpening trivial
  | identified place address answers => exact notReopened_of_notOpening trivial
  | closed place error => exact notReopened_of_notOpening trivial
  | opened place' o =>
    have hport := hports place' o hmem'
    rcases List.mem_cons.mp hmem with rfl | hmem
    · refine notReopened_of_dead fun e he hconnection => ?_
      rw [if_pos (hdied.mpr ⟨e, he, hconnection⟩)] at hport
      exact List.ne_of_not_mem_cons hport
    · exact notReopened_after_quiet (hnew event hmem)

theorem scanCombinations_report (combinations : List Combination)
    (hprotocols : ∀ c ∈ combinations, c.place.protocol ≠ .auto) (dead : List String)
    (s : Scan σ) :
    ∃ new, (scanCombinations lib world timeout addresses combinations dead s).2.log =
        s.log ++ new ∧
      new.Pairwise NotReopened ∧
      (∀ place opening, .opened place opening ∈ new → place.port ∉ dead) ∧
      Accounts (RowsDue addresses combinations) new
        (scanCombinations lib world timeout addresses combinations dead s).1 := by
  induction combinations generalizing dead s with
  | nil => exact ⟨[], (List.append_nil _).symm, List.Pairwise.nil, by simp, by simp, rfl, by simp⟩
  | cons combination combinations ih =>
    have hrest : ∀ c ∈ combinations, c.place.protocol ≠ .auto :=
      fun c hc => hprotocols c (List.mem_cons_of_mem _ hc)
    simp only [scanCombinations, andThen_map]
    by_cases hdead : combination.place.port ∈ dead
    · rw [if_pos hdead]
      obtain ⟨new, hlog, hpairs, hports, hr⟩ := ih hrest dead s
      exact ⟨new, hlog, hpairs, hports,
        hr.map fun rows hrows => RowsDue.cons (sameError_rowsFor addresses _) hrows⟩
    · rw [if_neg hdead]
      obtain ⟨opening, new, hlog, hnew, hr⟩ := probeCombo_log lib world timeout s
        (hprotocols combination List.mem_cons_self) addresses
      have halive : ∀ place o, ScanEvent.opened place o ∈
          .opened combination.place opening :: new → place.port ∉ dead := by
        intro place o hmem
        rcases List.mem_cons.mp hmem with hmem | hmem
        · cases hmem
          exact hdead
        · exact (hnew _ hmem).elim
      cases hx : DiscoveryScan.probeCombo lib world timeout combination addresses s with
      | mk r t =>
        rw [hx] at hlog hr
        cases r with
        | error e => exact ⟨_, hlog, probe_notReopened hnew, halive, hr⟩
        | ok found =>
          obtain ⟨hcalm, hrows, hdied⟩ := hr
          obtain ⟨new', hlog', hpairs', hports', hr'⟩ := ih hrest
            (if found.2 then combination.place.port :: dead else dead) t
          refine ⟨.opened combination.place opening :: new ++ new', ?_, ?_, ?_, ?_⟩
          · rw [← List.append_assoc, ← hlog]
            exact hlog'
          · exact probe_then_notReopened hnew hdied hpairs' hports'
          · intro place o hmem
            rcases List.mem_append.mp hmem with hmem | hmem
            · exact halive place o hmem
            · intro hin
              refine hports' place o hmem ?_
              split
              · exact List.mem_cons_of_mem _ hin
              · exact hin
          · exact Accounts.append hcalm (hr'.map fun rows' hrows' => RowsDue.cons hrows hrows')

end Loops

section Claims

variable {σ : Type} (lib : AnyModbus) (world : World σ) (ezzone : DeviceProfile)
  (args : Arguments) {plan : List PlanEntry}

theorem plan_concrete (hplan : args.plan ezzone = .ok plan) :
    ∀ entry ∈ plan, entry.protocol ≠ .auto := by
  simp only [Arguments.plan] at hplan
  split at hplan
  · cases hplan
    intro entry hentry
    obtain ⟨profile, -, rfl⟩ := List.mem_map.mp hentry
    exact profile.concrete
  · split at hplan
    · cases hplan
    · rename_i hauto
      cases hplan
      intro entry hentry hprotocol
      obtain ⟨protocol, hmem, rfl⟩ := List.mem_map.mp hentry
      exact hauto (hprotocol ▸ hmem)

theorem combination_of_plan {c : Combination} (h : c ∈ args.combinations plan) :
    ∃ entry ∈ plan, c.place.protocol = entry.protocol := by
  obtain ⟨port, -, h⟩ := List.mem_flatMap.mp h
  obtain ⟨baudrate, -, h⟩ := List.mem_flatMap.mp h
  obtain ⟨entry, hentry, rfl⟩ := List.mem_map.mp h
  exact ⟨entry, (List.mem_filter.mp hentry).1, rfl⟩

theorem combinations_keys :
    ((args.combinations plan).flatMap fun c => args.resolvedAddresses.map (c.place, ·)) =
      expectedKeys args plan := by
  simp only [Arguments.combinations, expectedKeys, List.flatMap_assoc, List.flatMap_map]

/-- A scan that accepts its arguments is complete exactly when nothing that the ports and the
devices did in it escapes its handlers. -/
theorem findDevices_complete_iff (start : σ) (htimeout : ¬ args.timeout.Le (.finite 0))
    (hplan : args.plan ezzone = .ok plan) :
    Complete args plan (DiscoveryScan.findDevices lib world ezzone args ⟨start, []⟩) ↔
      ∀ event ∈ (DiscoveryScan.findDevices lib world ezzone args ⟨start, []⟩).2.log,
        ¬ Escapes event := by
  have hprotocols : ∀ c ∈ args.combinations plan, c.place.protocol ≠ .auto := by
    intro c hc hauto
    obtain ⟨entry, hentry, hprotocol⟩ := combination_of_plan args hc
    exact plan_concrete ezzone args hplan entry hentry (hprotocol.symm.trans hauto)
  simp only [DiscoveryScan.findDevices, if_neg htimeout, hplan]
  obtain ⟨new, hlog, hpairs, -, hr⟩ := scanCombinations_report lib world args.timeout
    (args.combinations plan) hprotocols [] ⟨start, []⟩
  rw [List.nil_append] at hlog
  rw [Complete, hlog]
  cases hx : (scanCombinations lib world args.timeout args.resolvedAddresses
    (args.combinations plan) [] ⟨start, []⟩).1 with
  | error e =>
    rw [hx] at hr
    obtain ⟨event, hmem, hescapes⟩ := hr
    constructor
    · rintro ⟨⟨rows, hrows, -⟩, -⟩
      cases hrows
    · intro h
      exact absurd hescapes (h event hmem)
  | ok rows =>
    rw [hx] at hr
    obtain ⟨hcalm, hkeys, hconsistent⟩ := hr
    constructor
    · intro _
      exact hcalm
    · intro _
      exact ⟨⟨rows, rfl, hkeys.trans (combinations_keys args), hconsistent⟩, hpairs⟩

end Claims

def pmRegistry : ParameterRegistry :=
  .build [plainRow 1009 "part_number", plainRow 1001 "hardware_id", plainRow 1002 "firmware_id",
    plainRow 1032 "serial_number", plainRow 17009 "protocol"] [] []

def oneProbe : Arguments := ⟨["COM3"], none, some [38400], some [.stdbus], none, .finite (1 / 2)⟩

def twoPorts : Arguments :=
  ⟨["COM3", "COM4"], none, some [38400], some [.stdbus], none, .finite (1 / 2)⟩

theorem twoPorts_timeout : ¬ twoPorts.timeout.Le (.finite 0) := by decide +kernel

def heldPort : PyError := ⟨.connection, [.text "could not open COM3"], {}⟩

def hardwareTurns : ℕ → Turn
  | 1 => ⟨none, [wireBytes ⟨dataNotExpectingReply, hostMac, 0x10,
      [0x02, 0x03, 0x01, 0x01, 0x01, 0x01, 0x01, 0x17]⟩], .ownDeadline⟩
  | _ => ⟨none, [], .ownDeadline⟩

def cabinet : World Bus :=
  ⟨fun place bus => (if place.port = "COM3" then some heldPort else none, bus),
    fun _ => stdBusWire hardwareTurns (.finite (1 / 2)), fun _ bus => (none, bus)⟩

def cabinetScan : Result (List DiscoveryResult) × Scan Bus :=
  DiscoveryScan.findDevices wordModbus cabinet (ezzoneProfile pmRegistry) twoPorts
    ⟨⟨⟨"COM4", true, [], [], .ownDeadline⟩, []⟩, []⟩

def cabinetRows : List DiscoveryResult :=
  [⟨false, "COM3", 1, 38400, .stdbus, none, some heldPort⟩,
    ⟨true, "COM4", 1, 38400, .stdbus,
      some ⟨"", some 23, none, none, .stdbus, 1, .failed, none⟩, none⟩]

instance : DecidableRel NotReopened := fun event event' =>
  match event, event' with
  | .opened place (some e), .opened place' _ =>
    inferInstanceAs (Decidable (e.kind.IsInstance .connection → place'.port ≠ place.port))
  | .opened _ none, _ => isTrue trivial
  | .opened _ (some _), .refused _ _ => isTrue trivial
  | .opened _ (some _), .identified _ _ _ => isTrue trivial
  | .opened _ (some _), .closed _ _ => isTrue trivial
  | .refused _ _, _ => isTrue trivial
  | .identified _ _ _, _ => isTrue trivial
  | .closed _ _, _ => isTrue trivial

/-- A scan over a port that does not open and one with a controller is complete, so nothing in it
escaped. -/
theorem cabinet_complete :
    Complete twoPorts [⟨.stdbus, ezzoneProfile pmRegistry⟩] cabinetScan ∧
      ∀ event ∈ cabinetScan.2.log, ¬ Escapes event := by
  have hrows : cabinetScan.1 = .ok cabinetRows := by decide +kernel
  have hkeys : cabinetRows.map rowKey =
      expectedKeys twoPorts [⟨.stdbus, ezzoneProfile pmRegistry⟩] := by decide +kernel
  have hconsistent : ∀ row ∈ cabinetRows, RowConsistent row := by
    simp [cabinetRows, RowConsistent]
  have hcomplete : Complete twoPorts [⟨.stdbus, ezzoneProfile pmRegistry⟩] cabinetScan :=
    ⟨⟨cabinetRows, hrows, hkeys, hconsistent⟩, by decide +kernel⟩
  exact ⟨hcomplete, (findDevices_complete_iff wordModbus cabinet (ezzoneProfile pmRegistry) twoPorts
    ⟨⟨"COM4", true, [], [], .ownDeadline⟩, []⟩ twoPorts_timeout rfl).mp hcomplete⟩

def nanTurns : ℕ → Turn
  | 1 => ⟨none, [wireBytes ⟨dataNotExpectingReply, hostMac, 0x10,
      [0x02, 0x03, 0x01, 0x01, 0x01, 0x01, 0x08, 0x7F, 0xC0, 0x00, 0x00]⟩], .ownDeadline⟩
  | _ => ⟨none, [], .ownDeadline⟩

def nanPort : World Bus :=
  ⟨fun _ bus => (none, bus), fun _ => stdBusWire nanTurns (.finite (1 / 2)),
    fun _ bus => (none, bus)⟩

theorem nan_aborts_scan :
    ¬ Complete oneProbe [⟨.stdbus, ezzoneProfile pmRegistry⟩]
      (DiscoveryScan.findDevices wordModbus nanPort (ezzoneProfile pmRegistry) oneProbe
        ⟨⟨⟨"COM3", true, [], [], .ownDeadline⟩, []⟩, []⟩) := by
  have hraised : (DiscoveryScan.findDevices wordModbus nanPort (ezzoneProfile pmRegistry) oneProbe
      ⟨⟨⟨"COM3", true, [], [], .ownDeadline⟩, []⟩, []⟩).1 =
        raise .valueError [.text "cannot convert float NaN to integer"] := by decide +kernel
  rintro ⟨⟨rows, hrows, -⟩, -⟩
  cases hraised.symm.trans hrows

end DiscoveryCompleteness
