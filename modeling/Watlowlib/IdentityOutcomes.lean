import Watlowlib.IdentityStrategies

/-! # How an identification ends

A tolerant strategy ends in an error only by an answer that it does not tolerate, or by a number of
decimal places that no registry takes. The strategy that a scan runs on an EZ-ZONE controller is
the one of the discovery model. -/
namespace IdentityOutcomes

open Dialogues Discovery ExceptRules IdentityStrategies ModbusCodec ParameterCommands PythonNumbers
  PythonValues Registry SessionExecute WatlowErrors

abbrev Answers := List (IdentityRead × Result ParameterEntry)

def errorOf {α : Type} : Result α → Option PyError
  | .ok _ => none
  | .error e => some e

def raised (q : IdentityRead) (answer : Result ParameterEntry) : Option PyError :=
  match q.readAs with
  | .text => errorOf (taken q.strict textValue answer)
  | .number => errorOf (taken q.strict intValue answer)

def Calm (t : Answers) : Prop := ∀ x ∈ t, raised x.1 x.2 = none

theorem errorOf_eq_some_iff {α : Type} {r : Result α} {e : PyError} :
    errorOf r = some e ↔ r = .error e := by
  cases r <;> simp [errorOf]

theorem taken_error_iff {α : Type} {strict : Bool} {pick : PyValue → Result (Option α)}
    {answer : Result ParameterEntry} {e : PyError} :
    taken strict pick answer = .error e ↔
      (answer = .error e ∧ ¬ (strict = false ∧ Tolerated e)) ∨
        ∃ entry, answer = .ok entry ∧ pick entry.value = .error e := by
  cases answer with
  | ok entry => simp [taken]
  | error e' =>
    by_cases h : strict = false ∧ Tolerated e'
    · simp only [taken, if_pos h]
      constructor
      · intro he
        cases he
      · rintro (⟨he, hnot⟩ | ⟨entry, he, -⟩)
        · cases he
          exact absurd h hnot
        · cases he
    · simp only [taken, if_neg h]
      constructor
      · intro he
        cases he
        exact Or.inl ⟨rfl, h⟩
      · rintro (⟨he, -⟩ | ⟨entry, he, -⟩)
        · cases he
          rfl
        · cases he

theorem intValue_error_iff {value : PyValue} {e : PyError} :
    intValue value = .error e ↔ ∃ n, value = .num n ∧ toInt n = .error e := by
  cases value with
  | str s => simp [intValue]
  | num n => cases h : toInt n <;> simp [intValue, h, Except.map]

theorem raised_iff {q : IdentityRead} {answer : Result ParameterEntry} {e : PyError} :
    raised q answer = some e ↔
      (answer = .error e ∧ ¬ (q.strict = false ∧ Tolerated e)) ∨
        q.readAs = .number ∧ ∃ entry n, answer = .ok entry ∧ entry.value = .num n ∧
          toInt n = .error e := by
  simp only [raised]
  cases q.readAs with
  | text =>
    have htext : ∀ value, textValue value ≠ .error e := by
      intro value
      cases value <;> simp [textValue]
    simp [errorOf_eq_some_iff, taken_error_iff, htext]
  | number => simp [errorOf_eq_some_iff, taken_error_iff, intValue_error_iff]

def decimalsRead : IdentityRead := ⟨.name "input_1_decimal", .number, false⟩

/-- Register 606 was answered with a number of places that `with_decimal_places` refuses. -/
def RefusesDecimals (t : Answers) (e : PyError) : Prop :=
  ∃ answer places, (decimalsRead, answer) ∈ t ∧ taken false intValue answer = .ok (some places) ∧
    decimalScale places = .error e

/-- The answers account for the end: a result only if none of them raises, an error only from the
last one or from the decimal places. -/
def Explained {α : Type} : Result α → Answers → Prop
  | .ok _, t => Calm t ∧ ∀ e, ¬ RefusesDecimals t e
  | .error e, t =>
    (∃ past x, t = past ++ [x] ∧ Calm past ∧ raised x.1 x.2 = some e) ∨
      Calm t ∧ RefusesDecimals t e

section Rules

variable {α : Type} {past : Answers} {q : IdentityRead} {answer : Result ParameterEntry}

theorem Calm.snoc (h : Calm past) (hq : raised q answer = none) : Calm (past ++ [(q, answer)]) := by
  intro x hx
  rcases List.mem_append.mp hx with hx | hx
  · exact h x hx
  · cases List.mem_singleton.mp hx
    exact hq

theorem ensures_read {β : Type} {pick : PyValue → Result (Option β)} {f : Option β → Strategy α}
    (hpick : ∀ answer, raised q answer = errorOf (taken q.strict pick answer)) (hpast : Calm past)
    (hf : ∀ answer value, taken q.strict pick answer = .ok value → Calm (past ++ [(q, answer)]) →
      Ensures Explained (f value) (past ++ [(q, answer)])) :
    Ensures Explained
      ((.ask q fun answer => .ofExcept (taken q.strict pick answer) : Strategy (Option β)) >>= f)
      past := by
  refine ensures_bind.mpr fun answer => ensures_ofExcept.mpr ?_
  have hraised := hpick answer
  cases h : taken q.strict pick answer with
  | error e =>
    rw [h] at hraised
    exact Or.inl ⟨past, (q, answer), rfl, hpast, hraised⟩
  | ok value =>
    rw [h] at hraised
    exact hf answer value h (hpast.snoc hraised)

theorem ensures_readStr {target : Ident} {strict : Bool} {f : Option String → Strategy α}
    (hpast : Calm past)
    (hf : ∀ answer value, taken strict textValue answer = .ok value →
      Calm (past ++ [(⟨target, .text, strict⟩, answer)]) →
      Ensures Explained (f value) (past ++ [(⟨target, .text, strict⟩, answer)])) :
    Ensures Explained (readStr target strict >>= f) past :=
  ensures_read (fun _ => rfl) hpast hf

theorem ensures_readInt {target : Ident} {strict : Bool} {f : Option ℤ → Strategy α}
    (hpast : Calm past)
    (hf : ∀ answer value, taken strict intValue answer = .ok value →
      Calm (past ++ [(⟨target, .number, strict⟩, answer)]) →
      Ensures Explained (f value) (past ++ [(⟨target, .number, strict⟩, answer)])) :
    Ensures Explained (readInt target strict >>= f) past :=
  ensures_read (fun _ => rfl) hpast hf

theorem ensures_adoptUnit {code : Option ℤ} {f : PUnit → Strategy α}
    (hf : Ensures Explained (f ⟨⟩) past) : Ensures Explained (adoptUnit code >>= f) past := by
  cases code with
  | none => exact hf
  | some code => exact hf

theorem calm_nil : Calm [] := by simp [Calm]

end Rules

section Strategies

variable (session : Session)

theorem ezzoneIdentify_explained (queryConfiguredProtocol : Bool) :
    Ensures Explained (ezzoneIdentify session false queryConfiguredProtocol) [] := by
  refine ensures_readStr calm_nil fun a₁ part _ h => ?_
  refine ensures_readInt h fun a₂ hardwareId _ h => ?_
  refine ensures_readInt h fun a₃ firmwareId _ h => ?_
  refine ensures_readStr h fun a₄ serialNumber _ h => ?_
  cases queryConfiguredProtocol with
  | false => exact ⟨h, by simp [RefusesDecimals, decimalsRead]⟩
  | true =>
    refine ensures_readInt h fun a₅ code _ h => ?_
    exact ⟨h, by simp [RefusesDecimals, decimalsRead]⟩

theorem seriesSdIdentify_explained :
    Ensures Explained (seriesSdIdentify session false) [] := by
  refine ensures_readInt calm_nil fun a₁ softwareId _ h => ?_
  refine ensures_readInt h fun a₂ softwareVersion _ h => ?_
  refine ensures_readInt h fun a₃ softwareBuild _ h => ?_
  refine ensures_readInt h fun a₄ serialHi _ h => ?_
  refine ensures_readInt h fun a₅ serialLo _ h => ?_
  refine ensures_readInt h fun a₆ unitsCode _ h => ?_
  refine ensures_adoptUnit ?_
  exact ⟨h, by simp [RefusesDecimals, decimalsRead]⟩

theorem f4pIdentify_explained (base : ParameterRegistry) :
    Ensures Explained (f4pIdentify session false base) [] := by
  refine ensures_readInt calm_nil fun a₁ model _ h => ?_
  by_cases hmodel : model ≠ some f4pModelCode
  · rw [if_pos hmodel]
    exact ⟨h, by simp [RefusesDecimals, decimalsRead]⟩
  · rw [if_neg hmodel]
    refine ensures_readInt h fun a₂ serialHi _ h => ?_
    refine ensures_readInt h fun a₃ serialLo _ h => ?_
    refine ensures_readInt h fun a₄ softwareId _ h => ?_
    refine ensures_readInt h fun a₅ decimals hdecimals h => ?_
    refine ensures_readInt h fun a₆ unitsCode _ h => ?_
    cases decimals with
    | none =>
      refine ensures_adoptUnit ⟨h, ?_⟩
      simp [RefusesDecimals, decimalsRead, hdecimals]
    | some places =>
      cases hscale : decimalScale places with
      | error e =>
        have hbind : base.withDecimalPlaces f4pDecimalRegister places = .error e :=
          (withDecimalPlaces_error_iff base).mpr hscale
        simp only [adoptDecimals]
        rw [hbind]
        exact Or.inr ⟨h, a₅, places, by simp [decimalsRead], hdecimals, hscale⟩
      | ok scale =>
        rcases error_or_ok (base.withDecimalPlaces f4pDecimalRegister places) with ⟨e, he⟩ | ⟨r, hr⟩
        · cases hscale.symm.trans ((withDecimalPlaces_error_iff base).mp he)
        · simp only [adoptDecimals]
          rw [hr]
          refine ensures_adoptUnit ⟨h, ?_⟩
          simp [RefusesDecimals, decimalsRead, hdecimals, hscale]

theorem strategy_explained (profile : DeviceProfile) (queryConfiguredProtocol : Bool) :
    Ensures Explained (profile.strategy session false queryConfiguredProtocol) [] := by
  simp only [DeviceProfile.strategy]
  cases profile.identify with
  | ezzone => exact ezzoneIdentify_explained session queryConfiguredProtocol
  | seriesSd => exact seriesSdIdentify_explained session
  | f4p => exact f4pIdentify_explained session profile.registry

end Strategies

/-- An answer raises an error of the bad ones, or every answer was taken and the decimal places
were not. -/
def Spoiled (Bad : PyError → Prop) (t : Answers) : Prop :=
  (∃ x ∈ t, ∃ e, raised x.1 x.2 = some e ∧ Bad e) ∨ Calm t ∧ ∃ e, RefusesDecimals t e

theorem Explained.error_iff {α : Type} {r : Result α} {t : Answers} {Bad : PyError → Prop}
    (h : Explained r t) (hdecimals : ∀ places e, decimalScale places = .error e → Bad e) :
    (∃ e, r = .error e ∧ Bad e) ↔ Spoiled Bad t := by
  cases r with
  | ok a =>
    obtain ⟨hcalm, hplaces⟩ := h
    constructor
    · rintro ⟨e, he, -⟩
      cases he
    · rintro (⟨x, hx, e, he, -⟩ | ⟨-, e, he⟩)
      · cases (hcalm x hx).symm.trans he
      · exact absurd he (hplaces e)
  | error e =>
    rcases h with ⟨past, last, rfl, hpast, hlast⟩ | ⟨hcalm, hplaces⟩
    · constructor
      · rintro ⟨e', he', hbad⟩
        cases he'
        exact Or.inl ⟨last, by simp, e, hlast, hbad⟩
      · rintro (⟨x, hx, e', he', hbad⟩ | ⟨hcalm, -⟩)
        · rcases List.mem_append.mp hx with hx | hx
          · cases (hpast x hx).symm.trans he'
          · cases List.mem_singleton.mp hx
            cases hlast.symm.trans he'
            exact ⟨e, rfl, hbad⟩
        · cases (hcalm last (by simp)).symm.trans hlast
    · constructor
      · intro _
        exact Or.inr ⟨hcalm, e, hplaces⟩
      · intro _
        obtain ⟨-, places, -, -, hscale⟩ := hplaces
        exact ⟨e, rfl, hdecimals places e hscale⟩

theorem decimalScale_error {places : ℤ} {e : PyError} (h : decimalScale places = .error e) :
    e.kind = .validation ∨ e.kind = .overflowError ∨ e.kind = .valueError := by
  rcases bind_error_iff.mp h with h | ⟨_, -, h⟩
  · obtain ⟨-, rfl⟩ := require_error_iff.mp h
    rw [formatted_kind]
    split
    · exact Or.inl rfl
    · exact Or.inr (Or.inr rfl)
  · rcases bind_error_iff.mp h with h | ⟨_, -, h⟩
    · simp only [toFloat] at h
      split at h
      · cases h
      · cases h
        exact Or.inr (Or.inl rfl)
    · cases h

section Runs

variable {σ : Type} (lib : AnyModbus) (wire : Wire σ) (profile : DeviceProfile)
  (queryConfiguredProtocol : Bool) (c : Controller σ)

theorem identify_explained :
    Explained (identify lib wire profile false queryConfiguredProtocol c).1
      (identityAnswers lib wire profile false queryConfiguredProtocol c) :=
  (strategy_explained c.session profile queryConfiguredProtocol).run _ c

/-! ## The strategy of the discovery model -/

variable {α β : Type} {s : Session}

/-- On a controller of the device, the strategy does what the reads one after another do. -/
def Follows (s : Session) (d : Strategy α) (r : Session × σ → Result α × (Session × σ)) : Prop :=
  ∀ c : Controller σ, s.SameDevice c.session →
    run (controllerHandler lib wire) d c =
      ((r (c.session, c.line)).1, c.after (r (c.session, c.line)).2) ∧
    s.SameDevice (r (c.session, c.line)).2.1

variable {lib wire}

theorem Follows.bind {d : Strategy α} {f : α → Strategy β}
    {r : Session × σ → Result α × (Session × σ)}
    {g : α → Session × σ → Result β × (Session × σ)}
    (hd : Follows lib wire s d r) (hf : ∀ a, Follows lib wire s (f a) (g a)) :
    Follows lib wire s (d >>= f) fun st => andThen (r st) (g · ·) := by
  intro c hc
  obtain ⟨hrun, hsame⟩ := hd c hc
  rw [run_bind, hrun]
  cases hr : r (c.session, c.line) with
  | mk x st =>
    rw [hr] at hsame
    simp only [hr]
    cases x with
    | error e => exact ⟨rfl, hsame⟩
    | ok a => exact hf a (c.after st) hsame

theorem readParameterAt_sameDevice {target : Ident} {st : Session × σ} (h : s.SameDevice st.1) :
    s.SameDevice (readParameterAt lib wire target st).2.1 := by
  have hcall : st.1.SameDevice (readParameterAt lib wire target st).2.1 := execute_sameDevice _
  exact ⟨hcall.kind.trans h.kind, hcall.registry.trans h.registry, hcall.address.trans h.address⟩

theorem safeRead_follows (target : Ident) (readAs : ReadAs)
    (pick : PyValue → Result (Option α)) :
    Follows lib wire s
      (.ask ⟨target, readAs, false⟩ fun answer => .ofExcept (taken false pick answer))
      (safeRead lib wire pick target) := by
  intro c hc
  have hsame : s.SameDevice (readParameterAt lib wire target (c.session, c.line)).2.1 :=
    readParameterAt_sameDevice hc
  change run _ (Dialogue.ofExcept (taken false pick
    (readParameterAt lib wire target (c.session, c.line)).1))
      (c.after (readParameterAt lib wire target (c.session, c.line)).2) = _ ∧ _
  simp only [safeRead]
  cases h : readParameterAt lib wire target (c.session, c.line) with
  | mk x st =>
    rw [h] at hsame
    cases x with
    | ok entry =>
      refine ⟨?_, hsame⟩
      simp only [taken]
      cases pick entry.value <;> rfl
    | error e =>
      by_cases he : Tolerated e
      · simp only [taken, he, and_self, if_true]
        exact ⟨rfl, hsame⟩
      · simp only [taken, he, and_false, if_false]
        exact ⟨rfl, hsame⟩

theorem done_follows {a : α} {r : Session × σ → Result α × (Session × σ)}
    (h : ∀ st, s.SameDevice st.1 → r st = (.ok a, st)) : Follows lib wire s (.done a) r := by
  intro c hc
  rw [h (c.session, c.line) hc]
  exact ⟨rfl, hc⟩

theorem identify_ezzone (registry : ParameterRegistry) :
    identify lib wire (ezzoneProfile registry) false true c =
      ((Discovery.ezzoneIdentify lib wire (c.session, c.line)).1,
        c.after (Discovery.ezzoneIdentify lib wire (c.session, c.line)).2) := by
  have hsame : c.session.SameDevice c.session := ⟨rfl, rfl, rfl⟩
  refine (?_ : Follows lib wire c.session
    (IdentityStrategies.ezzoneIdentify c.session false true)
    (Discovery.ezzoneIdentify lib wire)) c hsame |>.1
  refine (safeRead_follows _ _ _).bind fun part => ?_
  refine (safeRead_follows _ _ _).bind fun hardwareId => ?_
  refine (safeRead_follows _ _ _).bind fun firmwareId => ?_
  refine (safeRead_follows _ _ _).bind fun serialNumber => ?_
  refine (safeRead_follows _ _ _).bind fun code => done_follows fun st hst => ?_
  simp only [hst.kind, hst.address]

theorem ezzoneIdentify_silent (session : Session) (strict query : Bool) :
    Silent (IdentityStrategies.ezzoneIdentify session strict query) := by
  have hread : ∀ (target : Ident) (strict : Bool), Silent (readInt target strict) :=
    fun target strict answer => silent_ofExcept _
  refine silent_bind (fun answer => silent_ofExcept _) fun part => ?_
  refine silent_bind (hread _ _) fun hardwareId => ?_
  refine silent_bind (hread _ _) fun firmwareId => ?_
  refine silent_bind (fun answer => silent_ofExcept _) fun serialNumber => ?_
  cases query with
  | true => exact silent_bind (hread _ _) fun code => True.intro
  | false => exact True.intro

theorem identify_ezzone_sameDevice (registry : ParameterRegistry) (strict query : Bool) :
    c.session.SameDevice
      (identify lib wire (ezzoneProfile registry) strict query c).2.session := by
  have hstart : c.session.SameDevice c.session := ⟨rfl, rfl, rfl⟩
  refine (ezzoneIdentify_silent c.session strict query).run (h := controllerHandler lib wire)
    (P := fun c' => c.session.SameDevice c'.session) (fun q c' hc' => ?_) hstart
  have hline : c.session.SameDevice (c'.session, c'.line).1 := hc'
  exact readParameterAt_sameDevice hline

def TellsPart (r : Result DeviceInfo) (_ : Answers) : Prop :=
  ∀ info, r = .ok info → info.health ≠ .failed → info.partNumber ≠ ""

theorem ezzoneIdentify_tellsPart (session : Session) (strict query : Bool) :
    Ensures TellsPart (IdentityStrategies.ezzoneIdentify session strict query) [] := by
  have hraised : ∀ e t, TellsPart (.error e) t := by
    intro e t info h
    cases h
  refine ensures_bind_last hraised fun part _ => ?_
  refine ensures_bind_last hraised fun hardwareId _ => ?_
  refine ensures_bind_last hraised fun firmwareId _ => ?_
  refine ensures_bind_last hraised fun serialNumber _ => ?_
  have hidentified : ∀ (code : Option ℤ) t, TellsPart (.ok {
      partNumber := part.getD ""
      hardwareId := hardwareId
      firmwareId := firmwareId
      serialNumber := serialNumber
      protocol := session.kind
      address := session.address
      health := identityHealth (part.getD "") hardwareId firmwareId
      configuredProtocol := code.bind protocolCodeToKind }) t := by
    intro code t info hinfo hhealth hpart
    cases hinfo
    exact hhealth (if_pos hpart)
  cases query with
  | true => exact ensures_bind_last hraised hidentified
  | false => exact hidentified none _

theorem identify_ezzone_tellsPart (registry : ParameterRegistry) (strict query : Bool) :
    TellsPart (identify lib wire (ezzoneProfile registry) strict query c).1
      (identityAnswers lib wire (ezzoneProfile registry) strict query c) :=
  (ezzoneIdentify_tellsPart c.session strict query).run (controllerHandler lib wire) c

end Runs

end IdentityOutcomes
