import Watlowlib.RecordingPipelines

/-! # What a sink is for

A log of rows that is opened, appended to and closed. A sink is one if its calls that return do what
the log does and its calls that raise leave the log as it was. It then keeps, over any number of
sessions, the rows of the writes that returned, and a recording can be piped into it. -/
namespace SinkContracts

open Pipes RecordingPipelines SinkSchemas

universe u v w

variable {α : Type u} {σ : Type v} {Fault : Type w}

inductive Call (α : Type u) where
  | opens
  | writeMany (rows : List α)
  | closes

structure RowLog (α : Type u) where
  isOpen : Bool
  rows : List α

/-- What becomes of the rows when a sink is opened anew. -/
inductive Opening where
  | truncates
  | keeps
  deriving DecidableEq, Repr

/-- A call that returns. To open an open sink does nothing. -/
def RowLog.call (opening : Opening) (log : RowLog α) : Call α → RowLog α
  | .opens =>
    if log.isOpen then log
    else ⟨true, match opening with | .truncates => [] | .keeps => log.rows⟩
  | .writeMany rows => { log with rows := log.rows ++ rows }
  | .closes => { log with isOpen := false }

/-- The calls of a sink, each under what the environment makes of it. -/
abbrev Calls (α : Type u) (σ : Type v) (Fault : Type w) :=
  Fault → Call α → σ → Except SinkError Unit × σ

/-- `Stores log s` says that the sink `s` stores the log. -/
structure Implements (calls : Calls α σ Fault) (opening : Opening)
    (Stores : RowLog α → σ → Prop) : Prop where
  returns : ∀ fault call log s, Stores log s → (calls fault call s).1 = .ok () →
    Stores (log.call opening call) (calls fault call s).2
  raises : ∀ fault call log s e, Stores log s → (calls fault call s).1 = .error e →
    Stores log (calls fault call s).2

/-- The calls one after the other, whatever each of them ends with. -/
def callEach (calls : Calls α σ Fault) :
    List (Fault × Call α) → σ → List (Except SinkError Unit) × σ
  | [], s => ([], s)
  | (fault, call) :: rest, s =>
    let r := calls fault call s
    let later := callEach calls rest r.2
    (r.1 :: later.1, later.2)

/-- The log after the calls of a run that returned. -/
def logAfter (opening : Opening) :
    List (Fault × Call α) → List (Except SinkError Unit) → RowLog α → RowLog α
  | (_, call) :: rest, .ok _ :: outcomes, log =>
    logAfter opening rest outcomes (log.call opening call)
  | _ :: rest, .error _ :: outcomes, log => logAfter opening rest outcomes log
  | _, _, log => log

variable {calls : Calls α σ Fault} {opening : Opening} {Stores : RowLog α → σ → Prop}

/-- Over any run the sink stores the log of its calls that returned. -/
theorem Implements.run (himpl : Implements calls opening Stores) (run : List (Fault × Call α))
    {log : RowLog α} {s : σ} (h : Stores log s) :
    Stores (logAfter opening run (callEach calls run s).1 log) (callEach calls run s).2 := by
  induction run generalizing log s with
  | nil => exact h
  | cons call rest ih =>
    obtain ⟨fault, call⟩ := call
    have hreturns := himpl.returns fault call log s h
    have hraises := fun e => himpl.raises fault call log s e h
    simp only [callEach]
    generalize calls fault call s = r at hreturns hraises
    obtain ⟨outcome, s'⟩ := r
    cases outcome with
    | ok _ => exact ih (hreturns rfl)
    | error e => exact ih (hraises e rfl)

theorem callEach_invariant (Inv : σ → Prop) (run : List (Fault × Call α))
    (hcall : ∀ call ∈ run, ∀ s, Inv s → Inv (calls call.1 call.2 s).2) {s : σ} (h : Inv s) :
    Inv (callEach calls run s).2 := by
  induction run generalizing s with
  | nil => exact h
  | cons call rest ih =>
    obtain ⟨hfirst, hrest⟩ := List.forall_mem_cons.mp hcall
    exact ih hrest (hfirst s h)

/-- A log takes every call but a write while it is closed. -/
def RowLog.accepts (log : RowLog α) : Call α → Bool
  | .writeMany _ => log.isOpen
  | _ => true

/-- The calls on the log itself, and which of them it takes. -/
def RowLog.callEach (opening : Opening) : List (Call α) → RowLog α → List Bool × RowLog α
  | [], log => ([], log)
  | call :: rest, log =>
    let later := RowLog.callEach opening rest
      (if log.accepts call then log.call opening call else log)
    (log.accepts call :: later.1, later.2)

/-- A sink that nothing befalls takes the calls that the log takes, and stores it. -/
theorem Implements.run_undisturbed (himpl : Implements calls opening Stores) (fault : Fault)
    (haccepts : ∀ call log s, Stores log s →
      ((calls fault call s).1 = .ok () ↔ log.accepts call = true))
    (run : List (Call α)) {log : RowLog α} {s : σ} (h : Stores log s) :
    (callEach calls (run.map fun call => (fault, call)) s).1.map Except.toBool =
        (log.callEach opening run).1 ∧
      Stores (log.callEach opening run).2
        (callEach calls (run.map fun call => (fault, call)) s).2 := by
  induction run generalizing log s with
  | nil => exact ⟨rfl, h⟩
  | cons call rest ih =>
    simp only [List.map_cons, SinkContracts.callEach, RowLog.callEach]
    by_cases htakes : log.accepts call = true
    · have hok := (haccepts call log s h).mpr htakes
      obtain ⟨houtcomes, hstores⟩ := ih (himpl.returns fault call log s h hok)
      rw [if_pos htakes, houtcomes, hok, htakes]
      exact ⟨rfl, hstores⟩
    · have hrefuses : ∃ e, (calls fault call s).1 = .error e := by
        cases houtcome : (calls fault call s).1 with
        | error e => exact ⟨e, rfl⟩
        | ok _ => exact absurd ((haccepts call log s h).mp houtcome) htakes
      obtain ⟨e, herror⟩ := hrefuses
      obtain ⟨houtcomes, hstores⟩ := ih (himpl.raises fault call log s e h herror)
      rw [if_neg htakes, houtcomes, herror]
      exact ⟨by simp [Except.toBool, htakes], hstores⟩

/-- Behind the rows that it stores already, the writes of an open sink are all or nothing. -/
theorem Implements.allOrNothing {α σ Fault : Type} {calls : Calls α σ Fault} {opening : Opening}
    {Stores : RowLog α → σ → Prop} (himpl : Implements calls opening Stores) (old : List α) :
    AllOrNothing (fun fault rows s => calls fault (.writeMany rows) s)
      fun stored s => Stores ⟨true, old ++ stored⟩ s where
  returns fault rows stored s h hok := by
    have hcall := himpl.returns fault (.writeMany rows) _ s h hok
    rwa [RowLog.call, List.append_assoc] at hcall
  raises fault rows stored s e h herror := himpl.raises fault (.writeMany rows) _ s e h herror

end SinkContracts
