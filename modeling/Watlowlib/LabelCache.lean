import Watlowlib.OpenDevice
import Watlowlib.TransitionSystem

/-! # The cached unit label

`comms_unit_label` asks for parameter 17050 once and keeps the answer. Only `set_comms_unit_label`
drops what is kept, so a write of the same parameter by another route leaves it in place. -/
namespace LabelCache

open Discovery ExceptRules IdentityStrategies ModbusCodec OpenDevice ParameterCommands
  PythonNumbers PythonValues Registry SessionExecute StdBusClient StdBusFraming StdBusPayload
  StdBusTlv TransitionSystem WatlowErrors

def displayUnitsId : ℤ := 17050

def displayUnitsName : String := "display_units"

def unitFromDisplayCode (code : ℤ) : Option TemperatureUnit :=
  if code = 15 then some .celsius else if code = 30 then some .fahrenheit else none

/-- `display_code_for_unit`; a percentage has none. -/
def displayCodeForUnit : TemperatureUnit → ℤ
  | .celsius => 15
  | .fahrenheit => 30

@[simp] theorem unitFromDisplayCode_forUnit (unit : TemperatureUnit) :
    unitFromDisplayCode (displayCodeForUnit unit) = some unit := by
  cases unit <;> rfl

/-- The session with its label cache: `_comms_unit_label` and `_comms_unit_label_loaded`. -/
structure Labels where
  session : Session
  label : Option TemperatureUnit
  loaded : Bool

abbrev Client := WireRequest → Result WireReply

section Code

variable (lib : AnyModbus)

def readDisplayUnits (s : Session) (client : Client) : Exchange ParameterEntry :=
  execute s (readParameter lib) ⟨.name displayUnitsName, 1⟩ false client

def writeAt (s : Session) (target : Ident) (value : PyValue) (confirm : Bool) (client : Client) :
    Exchange ParameterEntry :=
  execute s (writeParameter lib) ⟨target, value, 1⟩ confirm client

def hasLabel (s : Session) : Prop :=
  ∃ spec, s.registry.resolve (.name displayUnitsName) = .ok spec

instance (s : Session) : Decidable (hasLabel s) :=
  match h : s.registry.resolve (.name displayUnitsName) with
  | .ok spec => isTrue ⟨spec, h⟩
  | .error _ => isFalse fun ⟨_, hs⟩ => by cases h.symm.trans hs

def labelOf : PyValue → Result (Option TemperatureUnit)
  | .num n => (toInt n).map unitFromDisplayCode
  | .str _ => .ok none

def fetchCommsUnitLabel (s : Session) (client : Client) :
    Result (Option TemperatureUnit) × Session :=
  if hasLabel s then
    let x := readDisplayUnits lib s client
    match x.response with
    | .ok entry => (labelOf entry.value, x.after)
    | .error e => if Tolerated e then (.ok none, x.after) else (.error e, x.after)
  else (.ok none, s)

/-- `comms_unit_label`: the kept label, or the one fetched, which is kept from then on. -/
def commsUnitLabel (l : Labels) (client : Client) : Result (Option TemperatureUnit) × Labels :=
  if l.loaded = true then (.ok l.label, l)
  else
    match fetchCommsUnitLabel lib l.session client with
    | (.ok label, s) => (.ok label, ⟨s, label, true⟩)
    | (.error e, s) => (.error e, { l with session := s })

def invalidateCommsUnitLabel (l : Labels) : Labels := { l with label := none, loaded := false }

def writeParameterRoute (l : Labels) (target : Ident) (value : PyValue) (confirm : Bool)
    (client : Client) : Result ParameterEntry × Labels :=
  let x := writeAt lib l.session target value confirm client
  (x.response, { l with session := x.after })

/-- The code that `set_comms_unit_label` writes for its argument. -/
def labelCode (argument : UnitArgument) : Result ℤ := do
  match ← coerceUnit argument with
  | .temperature unit => .ok (displayCodeForUnit unit)
  | _ =>
    raise .validation [.text "set_comms_unit_label accepts CELSIUS / FAHRENHEIT only; ",
      .text "PERCENT is not a valid display-unit code"]

def setCommsUnitLabel (l : Labels) (argument : UnitArgument) (confirm : Bool)
    (writing reading : Client) : Result (Option TemperatureUnit) × Labels :=
  match labelCode argument with
  | .error e => (.error e, l)
  | .ok code =>
    match writeParameterRoute lib l (.name displayUnitsName) (.num (.int code)) confirm writing with
    | (.error e, l) => (.error e, l)
    | (.ok _, l) => commsUnitLabel lib (invalidateCommsUnitLabel l) reading

end Code

/-- The session, what the device holds in parameter 17050, and whether the label that is kept came
from an answer of the device: a read that was rejected is kept as well, as no label. -/
structure State where
  code : Labels
  device : ℤ
  answered : Bool

/-- A read of the label or a write of the parameter, with what the device holds at its end. For a
read also whether the device, now or when the label was kept, answered it. -/
inductive Event where
  | read (answered : Bool) (held : ℤ) (result : Result (Option TemperatureUnit))
  | set (answered : Bool) (held : ℤ) (result : Result (Option TemperatureUnit))
  | write (target : Ident) (value : PyValue) (held : ℤ) (result : Result ParameterEntry)

section Runs

variable (lib : AnyModbus)

/-- The device answers a read of its label with what it holds. -/
def Faithful (s : Session) (held : ℤ) (client : Client) : Prop :=
  ∀ entry, (readDisplayUnits lib s client).response = .ok entry → entry.value = .num (.int held)

/-- Whether `comms_unit_label` has an answer of the device to return. -/
def getsAnswer (l : Labels) (kept : Bool) (client : Client) : Bool :=
  if l.loaded = true then kept
  else decide (hasLabel l.session) && (readDisplayUnits lib l.session client).response.isOk

/-- What a write leaves in the device: the integer of a number that was written, or what it held
when the write failed. -/
def Leaves (held : ℤ) (value : PyValue) (held' : ℤ) : Result ParameterEntry → Prop
  | .ok _ => ∃ n, value = .num n ∧ toInt n = .ok held'
  | .error _ => held' = held

/-- Parameter 17050 of the device changes only by the writes of this session. -/
inductive Step : State → Event → State → Prop where
  | read (s : State) (client : Client) (hf : Faithful lib s.code.session s.device client) :
      Step s
        (.read (getsAnswer lib s.code s.answered client) s.device
          (commsUnitLabel lib s.code client).1)
        ⟨(commsUnitLabel lib s.code client).2, s.device,
          getsAnswer lib s.code s.answered client⟩
  | write (s : State) (target : Ident) (value : PyValue) (confirm : Bool) (client : Client)
      (spec : ParameterSpec) (held : ℤ)
      (hr : s.code.session.registry.resolve target = .ok spec)
      (hid : spec.parameterId = displayUnitsId)
      (hleaves : Leaves s.device value held
        (writeParameterRoute lib s.code target value confirm client).1) :
      Step s
        (.write target value held (writeParameterRoute lib s.code target value confirm client).1)
        ⟨(writeParameterRoute lib s.code target value confirm client).2, held, s.answered⟩
  | setFailed (s : State) (argument : UnitArgument) (confirm : Bool) (writing reading : Client)
      (hfailed : ∀ code entry l, labelCode argument = .ok code →
        writeParameterRoute lib s.code (.name displayUnitsName) (.num (.int code)) confirm
          writing ≠ (.ok entry, l)) :
      Step s
        (.set false s.device (setCommsUnitLabel lib s.code argument confirm writing reading).1)
        ⟨(setCommsUnitLabel lib s.code argument confirm writing reading).2, s.device, s.answered⟩
  | set (s : State) (argument : UnitArgument) (confirm : Bool) (writing reading : Client)
      (code : ℤ) (entry : ParameterEntry) (l : Labels) (hcode : labelCode argument = .ok code)
      (hwritten : writeParameterRoute lib s.code (.name displayUnitsName) (.num (.int code))
        confirm writing = (.ok entry, l))
      (hf : Faithful lib l.session code reading) :
      Step s
        (.set (getsAnswer lib (invalidateCommsUnitLabel l) false reading) code
          (setCommsUnitLabel lib s.code argument confirm writing reading).1)
        ⟨(setCommsUnitLabel lib s.code argument confirm writing reading).2, code,
          getsAnswer lib (invalidateCommsUnitLabel l) false reading⟩

def Right : Event → Prop
  | .read answered held result => answered = true → result = .ok (unitFromDisplayCode held)
  | .set answered held result => answered = true → result = .ok (unitFromDisplayCode held)
  | .write .. => True

/-- The label that is kept, if an answer stands behind it, is the one of the device. -/
def Coherent (s : State) : Prop :=
  s.code.loaded = true → s.answered = true → s.code.label = unitFromDisplayCode s.device

/-- A write by `write_parameter` that succeeds leaves the unit as it is kept, if it is. -/
def KeepsUnit (s : State) : Event → Prop
  | .write _ _ held (.ok _) =>
    s.code.loaded = true → s.answered = true → s.code.label = unitFromDisplayCode held
  | _ => True

end Runs

section Coherence

variable {lib : AnyModbus} {s t : State} {e : Event}

theorem fetch_answered {session : Session} {held : ℤ} {client : Client}
    (hf : Faithful lib session held client) (hhas : hasLabel session)
    (hok : (readDisplayUnits lib session client).response.isOk = true) :
    fetchCommsUnitLabel lib session client =
      (.ok (unitFromDisplayCode held), (readDisplayUnits lib session client).after) := by
  simp only [fetchCommsUnitLabel, if_pos hhas]
  cases hx : (readDisplayUnits lib session client).response with
  | error e =>
    rw [hx] at hok
    cases hok
  | ok entry =>
    simp only [hf entry hx]
    rfl

theorem commsUnitLabel_coherent {l : Labels} {kept : Bool} {held : ℤ} {client : Client}
    (hf : Faithful lib l.session held client)
    (hkept : l.loaded = true → kept = true → l.label = unitFromDisplayCode held)
    (ha : getsAnswer lib l kept client = true) :
    (commsUnitLabel lib l client).1 = .ok (unitFromDisplayCode held) ∧
      (commsUnitLabel lib l client).2.label = unitFromDisplayCode held := by
  simp only [getsAnswer] at ha
  simp only [commsUnitLabel]
  by_cases hl : l.loaded = true
  · rw [if_pos hl] at ha
    rw [if_pos hl]
    exact ⟨congrArg _ (hkept hl ha), hkept hl ha⟩
  · rw [if_neg hl, Bool.and_eq_true, decide_eq_true_eq] at ha
    rw [if_neg hl, fetch_answered hf ha.1 ha.2]
    exact ⟨rfl, rfl⟩

theorem route_keeps {l l' : Labels} {target : Ident} {value : PyValue} {confirm : Bool}
    {client : Client} {r : Result ParameterEntry}
    (h : writeParameterRoute lib l target value confirm client = (r, l')) :
    l'.loaded = l.loaded ∧ l'.label = l.label := by
  rw [← (Prod.mk.inj h).2]
  exact ⟨rfl, rfl⟩

theorem setFailed_keeps {l : Labels} {argument : UnitArgument} {confirm : Bool}
    {writing reading : Client}
    (hfailed : ∀ code entry l', labelCode argument = .ok code →
      writeParameterRoute lib l (.name displayUnitsName) (.num (.int code)) confirm writing ≠
        (.ok entry, l')) :
    (setCommsUnitLabel lib l argument confirm writing reading).2.loaded = l.loaded ∧
      (setCommsUnitLabel lib l argument confirm writing reading).2.label = l.label := by
  simp only [setCommsUnitLabel]
  cases hcode : labelCode argument with
  | error err => exact ⟨rfl, rfl⟩
  | ok code =>
    simp only
    cases hw : writeParameterRoute lib l (.name displayUnitsName) (.num (.int code)) confirm
      writing with
    | mk r l' =>
      cases r with
      | ok entry => exact absurd hw (hfailed code entry l' hcode)
      | error err => exact route_keeps hw

theorem step_coherent (hs : Coherent s) (h : Guarded (Step lib) KeepsUnit s e t) :
    Coherent t ∧ Right e := by
  obtain ⟨hguard, hstep⟩ := h
  cases hstep with
  | read client hf =>
    refine ⟨fun _ ha => ?_, fun ha => ?_⟩
    · exact (commsUnitLabel_coherent hf hs ha).2
    · exact (commsUnitLabel_coherent hf hs ha).1
  | write target value confirm client spec held hr hid hleaves =>
    refine ⟨?_, trivial⟩
    cases hx : (writeParameterRoute lib s.code target value confirm client).1 with
    | ok entry =>
      rw [hx] at hguard
      exact hguard
    | error err =>
      rw [hx] at hleaves
      cases hleaves
      exact hs
  | setFailed argument confirm writing reading hfailed =>
    refine ⟨?_, fun ha => by cases ha⟩
    intro hl ha
    obtain ⟨hloaded, hlabel⟩ := setFailed_keeps hfailed
    exact hlabel.trans (hs (hloaded.symm.trans hl) ha)
  | set argument confirm writing reading code entry l hcode hwritten hf =>
    have hrun : setCommsUnitLabel lib s.code argument confirm writing reading =
        commsUnitLabel lib (invalidateCommsUnitLabel l) reading := by
      simp only [setCommsUnitLabel, hcode, hwritten]
    have hempty : (invalidateCommsUnitLabel l).loaded = true → false = true →
        (invalidateCommsUnitLabel l).label = unitFromDisplayCode code := fun h => by cases h
    refine ⟨fun _ ha => ?_, fun ha => ?_⟩
    · simp only [hrun]
      exact (commsUnitLabel_coherent (l := invalidateCommsUnitLabel l) hf hempty ha).2
    · rw [hrun]
      exact (commsUnitLabel_coherent (l := invalidateCommsUnitLabel l) hf hempty ha).1

theorem write_coherent_iff {target : Ident} {value : PyValue} {confirm : Bool} {client : Client}
    {held : ℤ} {entry : ParameterEntry} {l : Labels}
    (h : writeParameterRoute lib s.code target value confirm client = (.ok entry, l)) :
    Coherent ⟨l, held, s.answered⟩ ↔ KeepsUnit s (.write target value held (.ok entry)) := by
  obtain ⟨hloaded, hlabel⟩ := route_keeps h
  simp only [Coherent, KeepsUnit]
  rw [hloaded, hlabel]

end Coherence

/-- In every run in which no `write_parameter` changes the unit behind a label that is kept, each
label that an answer stands behind is the unit of what was last written. -/
theorem label_current_of_keepsUnit (lib : AnyModbus) (s t : State) (events : List Event)
    (hs : Coherent s) (h : Run (Guarded (Step lib) KeepsUnit) s events t) :
    ∀ e ∈ events, Right e :=
  h.forall_event Coherent (fun _ _ _ hu hstep => step_coherent hu hstep) hs

def answering (held : ℤ) : Client := fun wire =>
  let value : Attribute := ⟨17, 50, 1, .num (.int held), DataType.u8.tag⟩
  let frame : Frame := ⟨dataNotExpectingReply, hostMac, 0x10, []⟩
  match wire with
  | .payload bs =>
    if bs.getD 1 0 = fnWrite then .ok (.frame ⟨frame, .writeResponse value, []⟩)
    else .ok (.frame ⟨frame, .readResponse value, []⟩)
  | .op _ => raise .attributeError [.text "register operation on a Standard Bus"]

def coldState : State :=
  ⟨⟨⟨.stdbus, .build [plainRow 17050 "display_units"] [] [], 1, "COM3", ∅, none⟩, none, false⟩,
    15, false⟩

def warmState : State :=
  ⟨(commsUnitLabel wordModbus coldState.code (answering 15)).2, 15,
    getsAnswer wordModbus coldState.code false (answering 15)⟩

def firstRead : Event :=
  .read (getsAnswer wordModbus coldState.code false (answering 15)) 15
    (commsUnitLabel wordModbus coldState.code (answering 15)).1

def rawWrite : Result ParameterEntry × Labels :=
  writeParameterRoute wordModbus warmState.code (.name "display_units") (.num (.int 30)) true
    (answering 30)

def staleState : State := ⟨rawWrite.2, 30, warmState.answered⟩

def unplugged : Client := fun _ => raise .timeout []

def staleRead : Event :=
  .read (getsAnswer wordModbus staleState.code staleState.answered unplugged) 30
    (commsUnitLabel wordModbus staleState.code unplugged).1

def cachedState : State :=
  ⟨(commsUnitLabel wordModbus warmState.code unplugged).2, 15,
    getsAnswer wordModbus warmState.code warmState.answered unplugged⟩

def cachedRead : Event :=
  .read (getsAnswer wordModbus warmState.code warmState.answered unplugged) 15
    (commsUnitLabel wordModbus warmState.code unplugged).1

def sameWrite : Result ParameterEntry × Labels :=
  writeParameterRoute wordModbus cachedState.code (.name "display_units") (.num (.int 15)) true
    (answering 15)

def unitEntry (code : ℤ) : ParameterEntry :=
  ⟨plainRow 17050 "display_units", 1, .num (.int code), []⟩

theorem rawWrite_run :
    (readDisplayUnits wordModbus coldState.code.session (answering 15)).response =
        .ok (unitEntry 15) ∧
      warmState.code.session.registry.resolve (.name "display_units") =
        .ok (plainRow 17050 "display_units") ∧
      rawWrite.1 = .ok (unitEntry 30) ∧
      (readDisplayUnits wordModbus staleState.code.session unplugged).response.isOk = false ∧
      getsAnswer wordModbus staleState.code staleState.answered unplugged = true ∧
      (commsUnitLabel wordModbus staleState.code unplugged).1 = .ok (some .celsius) := by
  decide +kernel

theorem sameWrite_run :
    (readDisplayUnits wordModbus warmState.code.session unplugged).response.isOk = false ∧
      cachedState.code.session.registry.resolve (.name "display_units") =
        .ok (plainRow 17050 "display_units") ∧
      sameWrite.1 = .ok (unitEntry 15) ∧ cachedState.code.label = unitFromDisplayCode 15 := by
  decide +kernel

theorem answering_faithful : Faithful wordModbus coldState.code.session 15 (answering 15) := by
  intro entry h
  cases rawWrite_run.1.symm.trans h
  rfl

theorem firstRead_step : Step wordModbus coldState firstRead warmState :=
  .read coldState (answering 15) answering_faithful

theorem rawWrite_step : Step wordModbus warmState
    (.write (.name "display_units") (.num (.int 30)) 30 rawWrite.1) staleState := by
  obtain ⟨-, hresolved, hwritten, -⟩ := rawWrite_run
  refine .write warmState _ _ true (answering 30) (plainRow 17050 "display_units") 30 hresolved
    rfl ?_
  change Leaves 15 (.num (.int 30)) 30 rawWrite.1
  rw [hwritten]
  exact ⟨.int 30, rfl, rfl⟩

theorem unplugged_faithful {session : Session} {held : ℤ}
    (h : (readDisplayUnits wordModbus session unplugged).response.isOk = false) :
    Faithful wordModbus session held unplugged := by
  intro entry hentry
  rw [hentry] at h
  cases h

theorem staleRead_step : Step wordModbus staleState staleRead
    ⟨(commsUnitLabel wordModbus staleState.code unplugged).2, 30,
      getsAnswer wordModbus staleState.code staleState.answered unplugged⟩ := by
  obtain ⟨-, -, -, hsilent, -⟩ := rawWrite_run
  exact .read staleState unplugged (unplugged_faithful hsilent)

/-- Read, write 30 by `write_parameter`, read: the device has turned to Fahrenheit, and the cache
still answers with Celsius. -/
theorem rawWrite_staleLabel :
    (∃ t, Run (Step wordModbus) coldState
      [firstRead, .write (.name "display_units") (.num (.int 30)) 30 rawWrite.1, staleRead] t) ∧
      Coherent coldState ∧ staleRead = .read true 30 (.ok (some .celsius)) ∧
      ¬ Right staleRead := by
  have hread : staleRead = .read true 30 (.ok (some .celsius)) := by
    obtain ⟨-, -, -, -, hanswer, hlabel⟩ := rawWrite_run
    simp only [staleRead, hanswer, hlabel]
  refine ⟨⟨_, .cons firstRead_step (.cons rawWrite_step (.cons staleRead_step (.nil _)))⟩, ?_,
    hread, ?_⟩
  · intro h
    cases h
  · rw [hread]
    intro h
    cases h rfl

theorem cachedRead_step : Step wordModbus warmState cachedRead cachedState :=
  .read warmState unplugged (unplugged_faithful sameWrite_run.1)

theorem sameWrite_step : Step wordModbus cachedState
    (.write (.name "display_units") (.num (.int 15)) 15 sameWrite.1)
    ⟨sameWrite.2, 15, cachedState.answered⟩ := by
  obtain ⟨-, hresolved, hwritten, -⟩ := sameWrite_run
  refine .write cachedState _ _ true (answering 15) (plainRow 17050 "display_units") 15 hresolved
    rfl ?_
  change Leaves 15 (.num (.int 15)) 15 sameWrite.1
  rw [hwritten]
  exact ⟨.int 15, rfl, rfl⟩

theorem sameWrite_keepsUnit : KeepsUnit cachedState
    (.write (.name "display_units") (.num (.int 15)) 15 sameWrite.1) := by
  obtain ⟨-, -, hwritten, hlabel⟩ := sameWrite_run
  rw [hwritten]
  exact fun _ _ => hlabel

/-- A read that fetches the label, one that is answered from the cache, and a write that leaves the
unit as it is. -/
theorem cached_right : Right firstRead ∧ Right cachedRead ∧
    Right (.write (.name "display_units") (.num (.int 15)) 15 sameWrite.1) := by
  have hrun : Run (Guarded (Step wordModbus) KeepsUnit) coldState
      [firstRead, cachedRead, .write (.name "display_units") (.num (.int 15)) 15 sameWrite.1]
      ⟨sameWrite.2, 15, cachedState.answered⟩ :=
    .cons ⟨trivial, firstRead_step⟩ (.cons ⟨trivial, cachedRead_step⟩
      (.cons ⟨sameWrite_keepsUnit, sameWrite_step⟩ (.nil _)))
  have hright := label_current_of_keepsUnit wordModbus coldState _ _ (fun h => by cases h) hrun
  exact ⟨hright _ (by simp), hright _ (by simp), hright _ (by simp)⟩

end LabelCache
