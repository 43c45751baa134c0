import Mathlib.Data.NNRat.Defs
import Mathlib.Data.Rat.Floor
import Watlowlib.PollAttribution

/-! # The producer of a recording

`_run_producer` turn by turn: skip the slots that have gone by, wait for the slot, poll, publish.
Time is exact. What the world decides in a turn, how long each step takes and how it ends, comes
with the turn. -/
namespace Recorder

open ParameterCommands PollAttribution PythonValues WatlowErrors

/-- What leaves a `poll_many` that fails: an error, or the group that a task group makes of
errors. -/
inductive Fault where
  | raised (e : PyError)
  | group (errors : List PyError)

/-- A call of `poll_many`: how it ends, with the results of the reads it made. -/
structure PollCall where
  reads : List (Result ParameterEntry)
  outcome : Except Fault (List Sample)

/-- `_publish` sends the batch, evicting old ones to make room, or it drops the batch. -/
inductive Published where
  | sent (evicted : ℕ)
  | dropped
  deriving DecidableEq, Repr

theorem zero_lt_one_second : (0 : ℚ) < 1 := one_pos

structure Config where
  start : ℚ
  period : ℚ
  positive : 0 < period
  totalTicks : Option ℕ
  autoReconnect : Bool
  hasFactory : Bool

def reconnectBackoffS : List ℚ := [1 / 2, 1, 2, 5, 10, 30]

/-- The counters of `AcquisitionSummary`. -/
structure Summary where
  samplesEmitted : ℕ := 0
  samplesLate : ℕ := 0
  maxDriftMs : ℚ := 0
  disconnects : ℕ := 0
  deriving DecidableEq, Repr

inductive Action where
  | skip (missed : ℕ)
  | poll (slot : ℕ) (time : ℚ)
  | publish (batch : List Sample)
  | wait (seconds : ℚ)
  | reconnect
  deriving DecidableEq, Repr

/-- The local state of the producer over a source, with a log of what it does. -/
structure Producer (σ : Type) where
  clock : ℚ
  tick : ℕ
  backoffIdx : ℕ
  source : σ
  summary : Summary
  durations : List ℚ
  log : List Action

/-- What the world decides in one turn: the time between the two readings of the clock, how late a
sleep wakes up, how the calls end and how long they take. -/
structure World (σ : Type) where
  check : ℚ≥0
  wake : ℚ≥0
  poll : σ → PollCall
  pollTime : ℚ≥0
  published : Published
  publishTime : ℚ≥0
  rebuilt : Except PyError σ
  rebuildTime : ℚ≥0

variable {σ : Type} (cfg : Config) (w : World σ)

def Config.target (tick : ℕ) : ℚ := cfg.start + tick * cfg.period

def Config.goesOn (p : Producer σ) : Bool :=
  match cfg.totalTicks with
  | none => true
  | some n => decide (p.tick < n)

/-- Skip to the next slot after an overrun of more than a period. -/
def skipMissed (p : Producer σ) : Producer σ :=
  let target := cfg.target p.tick
  if p.clock > target + cfg.period then
    let missed := ⌊(p.clock - target) / cfg.period⌋₊
    { p with
      tick := p.tick + missed
      summary := { p.summary with samplesLate := p.summary.samplesLate + missed }
      log := p.log ++ [.skip missed] }
  else p

@[simp] theorem skipMissed_source (p : Producer σ) : (skipMissed cfg p).source = p.source := by
  simp only [skipMissed]
  split <;> rfl

@[simp] theorem skipMissed_emitted (p : Producer σ) :
    (skipMissed cfg p).summary.samplesEmitted = p.summary.samplesEmitted := by
  simp only [skipMissed]
  split <;> rfl

@[simp] theorem skipMissed_disconnects (p : Producer σ) :
    (skipMissed cfg p).summary.disconnects = p.summary.disconnects := by
  simp only [skipMissed]
  split <;> rfl

def waitForSlot (p : Producer σ) : Producer σ :=
  let target := cfg.target p.tick
  let now := p.clock + w.check
  { p with clock := if now < target then target + w.wake else now }

def pollSlot (p : Producer σ) : Producer σ :=
  { p with clock := p.clock + w.pollTime, log := p.log ++ [.poll p.tick p.clock] }

def deliver (samples : List Sample) (p : Producer σ) : Producer σ :=
  let drift := (p.clock - cfg.target p.tick) * 1000
  let counted : Summary :=
    match w.published with
    | .sent evicted =>
      { p.summary with
        samplesEmitted := p.summary.samplesEmitted + 1
        samplesLate := p.summary.samplesLate + evicted }
    | .dropped => { p.summary with samplesLate := p.summary.samplesLate + 1 }
  { p with
    clock := p.clock + w.publishTime
    tick := p.tick + 1
    backoffIdx := 0
    summary := { counted with maxDriftMs := max p.summary.maxDriftMs drift }
    durations := p.durations ++ [(w.pollTime : ℚ) * 1000]
    log := p.log ++ [.publish samples] }

def recover (p : Producer σ) : Except Fault Unit × Producer σ :=
  let waitS := reconnectBackoffS.getD (min p.backoffIdx (reconnectBackoffS.length - 1)) 0
  let p : Producer σ := { p with
    clock := p.clock + waitS + w.wake
    summary := { p.summary with
      samplesLate := p.summary.samplesLate + 1
      disconnects := p.summary.disconnects + 1 }
    log := p.log ++ [.wait waitS] }
  if cfg.hasFactory then
    let p : Producer σ := { p with clock := p.clock + w.rebuildTime, log := p.log ++ [.reconnect] }
    match w.rebuilt with
    | .ok source => (.ok (), { p with source := source, backoffIdx := 0, tick := p.tick + 1 })
    | .error e =>
      if e.kind.IsInstance .connection then
        (.ok (), { p with backoffIdx := p.backoffIdx + 1, tick := p.tick + 1 })
      else (.error (.raised e), p)
  else (.ok (), { p with backoffIdx := p.backoffIdx + 1, tick := p.tick + 1 })

def turn (p : Producer σ) : Except Fault Unit × Producer σ :=
  let p := waitForSlot cfg w (skipMissed cfg p)
  let polled := w.poll p.source
  let p := pollSlot w p
  match polled.outcome with
  | .ok samples => (.ok (), deliver cfg w samples p)
  | .error (.raised e) =>
    if cfg.autoReconnect ∧ e.kind.IsInstance .connection then recover cfg w p
    else (.error (.raised e), p)
  | .error (.group errors) => (.error (.group errors), p)

/-- The loop of `_run_producer`, as far as the turns go. -/
def runProducer : List (World σ) → Producer σ → Except Fault Unit × Producer σ
  | [], p => (.ok (), p)
  | w :: ws, p =>
    if cfg.goesOn p then ExceptRules.andThen (turn cfg w p) fun _ p => runProducer ws p
    else (.ok (), p)

def begin (source : σ) : Producer σ := ⟨cfg.start, 0, 0, source, {}, [], []⟩

/-- The property of each turn that the loop takes and of the state it takes it in. -/
def Along (P : World σ → Producer σ → Prop) : List (World σ) → Producer σ → Prop
  | [], _ => True
  | w :: ws, p =>
    cfg.goesOn p = true → P w p ∧ ∀ p', turn cfg w p = (.ok (), p') → Along P ws p'

end Recorder
