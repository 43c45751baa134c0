import Watlowlib.ManagerPolling
import Watlowlib.Recorder

/-! # Reconnecting over real sources

A recording absorbs a `WatlowConnectionError` that leaves `poll_many`. Neither a controller nor a
manager lets one out: `poll_controller` drops the read that failed, and the recording goes on with
an empty batch. -/
namespace RecorderReconnect

open Dictionaries ExceptRules Manager ManagerPolling ModbusCodec ParameterCommands PollAttribution
  PythonValues Recorder Registry SessionExecute TaskGroups TransitionSystem WatlowErrors

section Reads

variable (lib : AnyModbus) (device : String) (wireUnit : Option MeasureUnit)
  (clients : ℕ → Client)

/-- The results of the reads of `pollInstances`, the last one included that ends it. -/
def instanceReads (spec : ParameterSpec) :
    List ℤ → ℕ → Session → List (Result ParameterEntry)
  | [], _, _ => []
  | i :: is, n, s =>
    let x := readByName lib s spec i (clients n)
    match x.response with
    | .ok entry => .ok entry :: instanceReads spec is (n + 1) x.after
    | .error e =>
      if e.IsWatlow then .error e :: instanceReads spec is (n + 1) x.after else [.error e]

def identReads (registry : ParameterRegistry) (instances : List ℤ) :
    List Ident → ℕ → Session → List (Result ParameterEntry)
  | [], _, _ => []
  | x :: xs, n, s =>
    match registry.resolve x with
    | .error _ => identReads registry instances xs n s
    | .ok spec =>
      let polled := pollInstances lib device wireUnit clients x spec instances n s
      instanceReads lib clients spec instances n s ++
        match polled.1 with
        | .ok _ => identReads registry instances xs (n + instances.length) polled.2
        | .error _ => []

def controllerReads (parameters : List Ident) (instances : List ℤ) (s : Session) :
    List (Result ParameterEntry) :=
  identReads lib device wireUnit clients s.registry instances parameters 0 s

variable {lib device wireUnit clients} {s : Session} {instances : List ℤ}
  {parameters : List Ident}

theorem pollOne_error {x : Ident} {spec : ParameterSpec} {i : ℤ} {client : Client} {e : PyError}
    (h : (pollOne lib device wireUnit x spec i client s).1 = .error e) : ¬ e.IsWatlow := by
  simp only [pollOne] at h
  split at h
  · cases h
  · split at h
    · cases h
    · cases h
      assumption

theorem pollInstances_error {x : Ident} {spec : ParameterSpec} {n : ℕ} {e : PyError}
    (h : (pollInstances lib device wireUnit clients x spec instances n s).1 = .error e) :
    ¬ e.IsWatlow := by
  induction instances generalizing n s with
  | nil => cases h
  | cons i is ih =>
    simp only [pollInstances] at h
    cases hone : pollOne lib device wireUnit x spec i (clients n) s with
    | mk r t =>
      rw [hone] at h
      cases r with
      | error e' =>
        cases h
        exact pollOne_error (by rw [hone])
      | ok polled =>
        rw [andThen_ok] at h
        cases hrest : pollInstances lib device wireUnit clients x spec is (n + 1) t with
        | mk r' t' =>
          rw [hrest] at h
          cases r' with
          | error e' =>
            cases h
            exact ih (by rw [hrest])
          | ok rest => cases h

theorem pollIdents_error {registry : ParameterRegistry} {n : ℕ} {e : PyError}
    (h : (pollIdents lib device wireUnit registry clients instances parameters n s).1 = .error e) :
    ¬ e.IsWatlow := by
  induction parameters generalizing n s with
  | nil => cases h
  | cons x xs ih =>
    simp only [pollIdents] at h
    split at h
    · exact ih h
    · rename_i spec _
      cases hone : pollInstances lib device wireUnit clients x spec instances n s with
      | mk r t =>
        rw [hone] at h
        cases r with
        | error e' =>
          cases h
          exact pollInstances_error (by rw [hone])
        | ok polled =>
          rw [andThen_ok] at h
          cases hrest : pollIdents lib device wireUnit registry clients instances xs
              (n + instances.length) t with
          | mk r' t' =>
            rw [hrest] at h
            cases r' with
            | error e' =>
              cases h
              exact ih (by rw [hrest])
            | ok rest => cases h

theorem pollController_error {e : PyError}
    (h : pollController lib device wireUnit clients parameters instances s = .error e) :
    ¬ e.IsWatlow := by
  simp only [pollController, pollTraced] at h
  cases hr : (pollIdents lib device wireUnit s.registry clients instances parameters 0 s).1 with
  | error e' =>
    rw [hr] at h
    cases h
    exact pollIdents_error hr
  | ok polled =>
    rw [hr] at h
    cases h

def ConnectionFailure (r : Result ParameterEntry) : Prop :=
  ∃ e, r = .error e ∧ e.kind.IsInstance .connection

theorem connection_isWatlow {kind : ErrorKind} (h : kind.IsInstance .connection) : kind.IsWatlow :=
  isInstance_trans h (by decide)

end Reads

section Sources

variable (lib : AnyModbus) (parameters : List Ident) (instances : List ℤ)

/-- What the worker of a port gets from one device: its samples, with the reads they come from. -/
structure Part where
  samples : List Sample
  reads : List (Result ParameterEntry)

def partOf : Except PyError Part → Part
  | .ok part => part
  | .error _ => ⟨[], []⟩

/-- The ways a `poll_controller` of `poll_many` may end, over the devices' sessions as they are by
then and whatever comes back from the ports. -/
def PartEnds (name : String) (d : DeviceEntry) (a : Except PyError Part) : Prop :=
  ∃ clients s, d.controller.session.SameDevice s ∧
    a = (pollController lib name d.controller.wireTemperatureUnit clients parameters instances
      s).map fun samples => ⟨samples,
        controllerReads lib name d.controller.wireTemperatureUnit clients parameters instances s⟩

def abortError : Abort String (Except PyError Part) → PyError
  | .missing name => ⟨.keyError, [.strRepr name], {}⟩
  | .fatal (.error e) => e
  | .fatal (.ok _) => ⟨.cancelled, [], {}⟩

/-- A call of `poll_many` on a controller or on a manager. An aborted one may have made any
reads. -/
inductive PollMany : PollCall → Prop where
  | controller (label : String) (wireUnit : Option MeasureUnit) (clients : ℕ → Client)
      (s : Session) :
      PollMany ⟨controllerReads lib label wireUnit clients parameters instances s,
        (pollController lib label wireUnit clients parameters instances s).mapError .raised⟩
  | unresolved {devices names e} (h : (start devices names : Result (Polling Part)) = .error e) :
      PollMany ⟨[], .error (.raised e)⟩
  | manager {devices names} {s t : Polling Part} {es : List PollEvent}
      (hstart : start devices names = .ok s)
      (hrun : Run (PollStep (batchJob (PartEnds lib parameters instances))) s es t)
      (hend : t.Ended) :
      PollMany ⟨t.log.flatMap fun e => (partOf e.2).reads,
        .ok (t.log.flatMap fun e => (partOf e.2).samples)⟩
  | aborted {devices names} {s t : Polling Part} {es : List PollEvent}
      {a : Abort String (Except PyError Part)} (reads : List (Result ParameterEntry))
      (hstart : start devices names = .ok s)
      (hrun : Run (PollStep (batchJob (PartEnds lib parameters instances))) s es t)
      (habort : t.aborted = some a) : PollMany ⟨reads, .error (.group [abortError a])⟩

variable {lib parameters instances} {polled : PollCall}

/-- No `WatlowConnectionError` gets out. -/
theorem pollMany_raised (h : PollMany lib parameters instances polled) {e : PyError}
    (he : polled.outcome = .error (.raised e)) : ¬ e.kind.IsInstance .connection := by
  cases h with
  | controller label wireUnit clients s =>
    cases hpoll : pollController lib label wireUnit clients parameters instances s with
    | ok samples =>
      rw [hpoll] at he
      cases he
    | error e' =>
      rw [hpoll] at he
      cases he
      exact fun hkind => pollController_error hpoll (connection_isWatlow hkind)
  | unresolved hstart =>
    cases he
    rw [start_error hstart]
    decide
  | manager hstart hrun hend => cases he
  | aborted reads hstart hrun habort => cases he

/-- The poll made reads, and all of them failed with a `WatlowConnectionError`. -/
def Lost (polled : PollCall) : Prop :=
  polled.reads ≠ [] ∧ ∀ r ∈ polled.reads, ConnectionFailure r

end Sources

section Recordings

variable {σ : Type} {cfg : Config} {w : World σ} {ws : List (World σ)} {p : Producer σ}

/-- What the recording promises of a turn that starts in a state and loses its reads: it counts a
disconnect and a late slot, emits nothing, and waits and reconnects. -/
structure Recovers (cfg : Config) (w : World σ) (p : Producer σ) : Prop where
  disconnects : (turn cfg w p).2.summary.disconnects = p.summary.disconnects + 1
  late : (turn cfg w p).2.summary.samplesLate =
    (skipMissed cfg p).summary.samplesLate + 1
  emitted : (turn cfg w p).2.summary.samplesEmitted = p.summary.samplesEmitted
  waits : ∃ slot time waitS, (turn cfg w p).2.log = (skipMissed cfg p).log ++
    [.poll slot time, .wait waitS] ++ if cfg.hasFactory then [.reconnect] else []

theorem turn_disconnects
    (h : ∀ e, (w.poll p.source).outcome = .error (.raised e) → ¬ e.kind.IsInstance .connection) :
    (turn cfg w p).2.summary.disconnects = p.summary.disconnects := by
  have hsource : (waitForSlot cfg w (skipMissed cfg p)).source = p.source := skipMissed_source cfg p
  simp only [turn, hsource]
  cases houtcome : (w.poll p.source).outcome with
  | ok samples =>
    simp only [deliver, pollSlot, waitForSlot]
    cases w.published <;> simp
  | error fault =>
    cases fault with
    | group errors => simp [pollSlot, waitForSlot]
    | raised e =>
      have hnot := h e houtcome
      simp [pollSlot, waitForSlot, hnot]

theorem along_congr {P Q : World σ → Producer σ → Prop} (h : ∀ w ∈ ws, ∀ p, P w p ↔ Q w p) :
    Along cfg P ws p ↔ Along cfg Q ws p := by
  induction ws generalizing p with
  | nil => exact Iff.rfl
  | cons w ws ih =>
    simp only [Along]
    rw [h w List.mem_cons_self]
    simp only [ih fun w' hw' => h w' (List.mem_cons_of_mem _ hw')]

/-- Over controllers and managers, each turn that loses its reads recovers just when there is no
such turn. -/
theorem recovers_iff_none_lost (lib : AnyModbus) (parameters : List Ident) (instances : List ℤ)
    (cfg : Config) (source : σ) (ws : List (World σ))
    (hreal : ∀ w ∈ ws, ∀ s, PollMany lib parameters instances (w.poll s)) :
    Along cfg (fun w p => Lost (w.poll p.source) → Recovers cfg w p) ws (begin cfg source) ↔
      Along cfg (fun w p => ¬ Lost (w.poll p.source)) ws (begin cfg source) := by
  apply along_congr
  intro w hw p
  have hsame := @turn_disconnects σ cfg w p fun e he => pollMany_raised (hreal w hw p.source) he
  have hnot : ¬ Recovers cfg w p := by
    intro h
    have hmore := h.disconnects
    omega
  exact ⟨fun h hlost => hnot (h hlost), fun h hlost => absurd hlost h⟩

def portLost : PyError := ⟨.connection, [.text "port lost"], {}⟩

def lineTurn (client : Client) : World Unit :=
  { check := 0, wake := 0, pollTime := 0, published := .sent 0, publishTime := 0, rebuilt := .ok ()
    rebuildTime := 0
    poll := fun _ => ⟨controllerReads wordModbus "COM3" none (fun _ => client) [.id 4042] [1]
      (freshSession .stdbus unitsTable.registry),
      (pollController wordModbus "COM3" none (fun _ => client) [.id 4042] [1]
        (freshSession .stdbus unitsTable.registry)).mapError .raised⟩ }

def goneTurn : World Unit := lineTurn fun _ => .error portLost

def oneSlot : Config := ⟨0, 1, zero_lt_one_second, some 1, true, true⟩

theorem lineTurn_real (client : Client) :
    ∀ w ∈ [lineTurn client], ∀ s, PollMany wordModbus [.id 4042] [1] (w.poll s) := by
  intro w hw s
  rw [List.mem_singleton.mp hw]
  exact .controller _ _ _ _

theorem answeredRead_recovers :
    Along oneSlot (fun w p => Lost (w.poll p.source) → Recovers oneSlot w p)
      [lineTurn zeroDevice] (begin oneSlot ()) := by
  refine (recovers_iff_none_lost wordModbus [.id 4042] [1] oneSlot () _
    (lineTurn_real zeroDevice)).mpr ?_
  intro _
  refine ⟨?_, fun _ _ => trivial⟩
  intro hlost
  have hreads : ((lineTurn zeroDevice).poll ()).reads =
      [.ok ⟨unitsSpec 34029, 1, .num (.int 0), []⟩] := by decide +kernel
  obtain ⟨e, he, -⟩ := hlost.2 _ (by rw [hreads]; exact List.mem_cons_self)
  cases he

/-- The only read of the only slot fails with a `WatlowConnectionError`. The recording counts no
disconnect, emits an empty batch and does not reconnect. -/
theorem lostRead_unnoticed :
    Lost (goneTurn.poll ()) ∧
    (runProducer oneSlot [goneTurn] (begin oneSlot ())).2.log = [.poll 0 0, .publish []] ∧
    (runProducer oneSlot [goneTurn] (begin oneSlot ())).2.summary.disconnects = 0 ∧
    (runProducer oneSlot [goneTurn] (begin oneSlot ())).2.summary.samplesEmitted = 1 ∧
    ¬ Along oneSlot (fun w p => Lost (w.poll p.source) → Recovers oneSlot w p) [goneTurn]
      (begin oneSlot ()) := by
  have hreads : (goneTurn.poll ()).reads = [.error portLost] := by decide +kernel
  have hlost : Lost (goneTurn.poll ()) := by
    refine ⟨by simp [hreads], ?_⟩
    intro r hr
    rw [hreads, List.mem_singleton] at hr
    exact ⟨portLost, hr, by decide⟩
  refine ⟨hlost, by decide +kernel, by decide +kernel, by decide +kernel, ?_⟩
  intro h
  have hmore := ((h rfl).1 hlost).emitted
  exact absurd hmore (by decide +kernel)

end Recordings

end RecorderReconnect
