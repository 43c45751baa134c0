import Watlowlib.Recorder
import Watlowlib.SinkSchemas

/-! # Piping a stream into a sink

`pipe` is written twice, as a coroutine and as a plain loop. Both keep a buffer and hand it to the
sink when it is full or when the time is up. The clock is read before the loop and once a batch; its
readings, which nothing is assumed of, come with the batches. -/
namespace Pipes

open Recorder (Summary)
open SinkSchemas (SinkError)

variable {α σ Time : Type}

abbrev WriteMany (α σ : Type) := List α → σ → Except SinkError Unit × σ

/-- The local state of a pipe, and every list that it has given to the sink. -/
structure Pipe (α σ Time : Type) where
  sink : σ
  handed : List (List α)
  emitted : ℕ
  buffer : List α
  lastFlush : Time

def Pipe.new (sink : σ) (now : Time) : Pipe α σ Time := ⟨sink, [], 0, [], now⟩

def Pipe.extend (batch : List α) (p : Pipe α σ Time) : Pipe α σ Time :=
  { p with buffer := p.buffer ++ batch }

/-- A piece of a pipe: what it ends with, and the state it leaves. -/
abbrev Piece (α σ Time β : Type) := Pipe α σ Time → Except SinkError β × Pipe α σ Time

def andThen {β γ : Type} (r : Except SinkError β × Pipe α σ Time) (next : Piece α σ Time γ) :
    Except SinkError γ × Pipe α σ Time :=
  match r with
  | (.ok _, p) => next p
  | (.error e, p) => (.error e, p)

/-- The buffer goes to the sink, is counted and is cleared. -/
def handOver (writeMany : WriteMany α σ) : Piece α σ Time Unit := fun p =>
  match writeMany p.buffer p.sink with
  | (.ok (), sink) =>
    (.ok (), { p with
      sink := sink
      handed := p.handed ++ [p.buffer]
      emitted := p.emitted + p.buffer.length
      buffer := [] })
  | (.error e, sink) => (.error e, { p with sink := sink, handed := p.handed ++ [p.buffer] })

def flush (writeMany : WriteMany α σ) : Piece α σ Time Unit := fun p =>
  if p.buffer.isEmpty then (.ok (), p) else handOver writeMany p

/-- A batch, and the reading of the clock after it. -/
abbrev Turn (α Time : Type) := List α × Time

def drain (step : Turn α Time → Piece α σ Time Unit) : List (Turn α Time) → Piece α σ Time Unit
  | [], p => (.ok (), p)
  | turn :: stream, p => andThen (step turn p) (drain step stream)

structure Settings (Time : Type) where
  batchSize : ℤ
  flushInterval : Time

/-- A `SyncPortal`, as far as a call through it depends on it. -/
structure Portal where
  running : Bool

def Portal.call (portal : Portal) (writeMany : WriteMany α σ) : WriteMany α σ := fun samples s =>
  if portal.running then writeMany samples s
  else (.error (.runtimeError "SyncPortal is not running"), s)

/-- The `sink` argument: a `SyncSinkAdapter`, with its portal while it is open, or a sink. -/
inductive SinkArgument where
  | adapter (opened : Option Portal)
  | sampleSink

def adapterWriteMany (opened : Option Portal) (writeMany : WriteMany α σ) : WriteMany α σ :=
  match opened with
  | some portal => portal.call writeMany
  | none => fun _ s => (.error (.runtimeError "SyncSinkAdapter is not open"), s)

/-- The portals at hand: the `portal` argument, and that of the stream if it has one. -/
structure Portals where
  argument : Option Portal
  stream : Option Portal

def resolveFlush (arg : SinkArgument) (portals : Portals) (writeMany : WriteMany α σ) :
    Except SinkError (WriteMany α σ) :=
  match arg with
  | .adapter opened => .ok (adapterWriteMany opened writeMany)
  | .sampleSink =>
    match portals.argument.or portals.stream with
    | some active => .ok (active.call writeMany)
    | none => .error (.runtimeError ("pipe: passing an async SampleSink requires a portal — " ++
        "wrap the sink in a SyncSinkAdapter or pass portal=."))

section Clock

variable [LinearOrder Time] [Sub Time]

def due (c : Settings Time) (now : Time) (p : Pipe α σ Time) : Bool :=
  decide (c.batchSize ≤ p.buffer.length) || decide (c.flushInterval ≤ now - p.lastFlush)

def asyncStep (writeMany : WriteMany α σ) (c : Settings Time) (turn : Turn α Time) :
    Piece α σ Time Unit := fun p =>
  let p := p.extend turn.1
  if due c turn.2 p then
    andThen (flush writeMany p) fun p => (.ok (), { p with lastFlush := turn.2 })
  else (.ok (), p)

/-- The body of the `for`. It does not ask whether the buffer is empty. -/
def syncStep (writeMany : WriteMany α σ) (c : Settings Time) (turn : Turn α Time) :
    Piece α σ Time Unit := fun p =>
  let p := p.extend turn.1
  if due c turn.2 p then
    andThen (handOver writeMany p) fun p => (.ok (), { p with lastFlush := turn.2 })
  else (.ok (), p)

variable [Zero Time]

def checkSettings (repr : Time → String) (c : Settings Time) : Except SinkError Unit :=
  if c.batchSize < 1 then
    .error (.valueError ("batch_size must be >= 1, got " ++ toString c.batchSize))
  else if c.flushInterval ≤ 0 then
    .error (.valueError ("flush_interval must be > 0, got " ++ repr c.flushInterval))
  else .ok ()

/-- `pipe` of `sinks/base.py` -/
def asyncPipe (repr : Time → String) (writeMany : WriteMany α σ) (c : Settings Time)
    (start : Time) (stream : List (Turn α Time)) (sink : σ) :
    Except SinkError Summary × Pipe α σ Time :=
  match checkSettings repr c with
  | .error e => (.error e, .new sink start)
  | .ok () =>
    andThen (drain (asyncStep writeMany c) stream (.new sink start)) fun p =>
      andThen (flush writeMany p) fun p => (.ok { samplesEmitted := p.emitted }, p)

/-- `pipe` of `sync/recording.py` -/
def syncPipe (repr : Time → String) (arg : SinkArgument) (portals : Portals)
    (writeMany : WriteMany α σ) (c : Settings Time) (start : Time) (stream : List (Turn α Time))
    (sink : σ) : Except SinkError Summary × Pipe α σ Time :=
  match checkSettings repr c with
  | .error e => (.error e, .new sink start)
  | .ok () =>
    match resolveFlush arg portals writeMany with
    | .error e => (.error e, .new sink start)
    | .ok writeMany =>
      andThen (drain (syncStep writeMany c) stream (.new sink start)) fun p =>
        andThen (if p.buffer.isEmpty then (.ok (), p) else handOver writeMany p) fun p =>
          (.ok { samplesEmitted := p.emitted }, p)

end Clock

/-! ## What has arrived is either handed over or buffered -/

def nonEmpty (lists : List (List α)) : List (List α) := lists.filter fun l => !l.isEmpty

/-- The sink takes every list, as long as it is in a state of `Writable`. -/
def Accepts (writeMany : WriteMany α σ) (Writable : σ → Prop) : Prop :=
  ∀ samples s, Writable s → ∃ s', writeMany samples s = (.ok (), s') ∧ Writable s'

/-- Of what has arrived the sink has been given all but the buffer, and that is counted. -/
structure Accounts (Writable : σ → Prop) (arrived : List α) (p : Pipe α σ Time) : Prop where
  writable : Writable p.sink
  delivered : p.handed.flatten ++ p.buffer = arrived
  counted : p.emitted = p.handed.flatten.length

section Flushes

variable {writeMany : WriteMany α σ} {Writable : σ → Prop} {arrived : List α} {p : Pipe α σ Time}

theorem accounts_new {sink : σ} (hopen : Writable sink) (start : Time) :
    Accounts Writable ([] : List α) (.new sink start) := ⟨hopen, rfl, rfl⟩

theorem Accounts.extend (h : Accounts Writable arrived p) (batch : List α) :
    Accounts Writable (arrived ++ batch) (p.extend batch) := by
  refine ⟨h.writable, ?_, h.counted⟩
  rw [← h.delivered, List.append_assoc]
  rfl

theorem Accounts.stamp (h : Accounts Writable arrived p) (now : Time) :
    Accounts Writable arrived { p with lastFlush := now } := ⟨h.writable, h.delivered, h.counted⟩

/-- `p'` is `p` after its buffer went to the sink. -/
structure Cleared (Writable : σ → Prop) (arrived : List α) (p p' : Pipe α σ Time) : Prop where
  accounts : Accounts Writable arrived p'
  buffer : p'.buffer = []
  lastFlush : p'.lastFlush = p.lastFlush
  lists : nonEmpty p'.handed = nonEmpty p.handed ++ nonEmpty [p.buffer]

theorem handOver_spec (hsink : Accepts writeMany Writable) (h : Accounts Writable arrived p) :
    ∃ p', handOver writeMany p = (.ok (), p') ∧ Cleared Writable arrived p p' := by
  obtain ⟨sink, hwrite, hwritable⟩ := hsink p.buffer p.sink h.writable
  rw [handOver, hwrite]
  refine ⟨_, rfl, ⟨hwritable, ?_, ?_⟩, rfl, rfl, List.filter_append ..⟩
  · rw [← h.delivered]
    simp
  · simp [h.counted]

theorem flush_spec (hsink : Accepts writeMany Writable) (h : Accounts Writable arrived p) :
    ∃ p', flush writeMany p = (.ok (), p') ∧ Cleared Writable arrived p p' := by
  by_cases hempty : p.buffer = []
  · refine ⟨p, by simp [flush, hempty], h, hempty, rfl, ?_⟩
    simp [nonEmpty, hempty]
  · obtain ⟨p', hrun, hcleared⟩ := handOver_spec hsink h
    exact ⟨p', by simp [flush, hempty, hrun], hcleared⟩

end Flushes

/-! ## The two loops side by side -/

/-- The coroutine and the plain loop after the same turns. -/
structure Matched (Writable : σ → Prop) (arrived : List α) (a b : Pipe α σ Time) : Prop where
  async : Accounts Writable arrived a
  sync : Accounts Writable arrived b
  buffer : a.buffer = b.buffer
  lastFlush : a.lastFlush = b.lastFlush
  lists : nonEmpty a.handed = nonEmpty b.handed

section Loops

variable {writeMany : WriteMany α σ} {Writable : σ → Prop} {arrived : List α} {a b : Pipe α σ Time}

theorem Matched.cleared {a' b' : Pipe α σ Time} (h : Matched Writable arrived a b)
    (ha : Cleared Writable arrived a a') (hb : Cleared Writable arrived b b') :
    Matched Writable arrived a' b' := by
  refine ⟨ha.accounts, hb.accounts, ?_, ?_, ?_⟩
  · rw [ha.buffer, hb.buffer]
  · rw [ha.lastFlush, hb.lastFlush, h.lastFlush]
  · rw [ha.lists, hb.lists, h.lists, h.buffer]

variable [LinearOrder Time] [Sub Time] {c : Settings Time}

def Short (c : Settings Time) (p : Pipe α σ Time) : Prop := (p.buffer.length : ℤ) < c.batchSize

theorem step_matched (hsink : Accepts writeMany Writable) (hsize : 1 ≤ c.batchSize)
    (turn : Turn α Time) (h : Matched Writable arrived a b) :
    ∃ a' b', asyncStep writeMany c turn a = (.ok (), a') ∧
      syncStep writeMany c turn b = (.ok (), b') ∧
      Matched Writable (arrived ++ turn.1) a' b' ∧ Short c a' := by
  have hextended : Matched Writable (arrived ++ turn.1) (a.extend turn.1) (b.extend turn.1) :=
    ⟨h.async.extend turn.1, h.sync.extend turn.1, congrArg (fun l => l ++ turn.1) h.buffer,
      h.lastFlush, h.lists⟩
  have hdue : due c turn.2 (a.extend turn.1) = due c turn.2 (b.extend turn.1) := by
    rw [due, due, hextended.buffer, hextended.lastFlush]
  simp only [asyncStep, syncStep]
  rw [hdue]
  by_cases hnow : due c turn.2 (b.extend turn.1) = true
  · obtain ⟨a', hflush, ha⟩ := flush_spec hsink hextended.async
    obtain ⟨b', hover, hb⟩ := handOver_spec hsink hextended.sync
    have hmatched := hextended.cleared ha hb
    rw [if_pos hnow, if_pos hnow, hflush, hover]
    refine ⟨_, _, rfl, rfl, ⟨hmatched.async.stamp turn.2, hmatched.sync.stamp turn.2,
      hmatched.buffer, rfl, hmatched.lists⟩, ?_⟩
    simp only [Short, ha.buffer, List.length_nil]
    omega
  · rw [if_neg hnow, if_neg hnow]
    refine ⟨_, _, rfl, rfl, hextended, ?_⟩
    rw [← hdue] at hnow
    simp only [due, Bool.or_eq_true, decide_eq_true_eq, not_or, not_le] at hnow
    exact hnow.1

theorem drain_matched (hsink : Accepts writeMany Writable) (hsize : 1 ≤ c.batchSize)
    (stream : List (Turn α Time)) (h : Matched Writable arrived a b) (hshort : Short c a) :
    ∃ a' b', drain (asyncStep writeMany c) stream a = (.ok (), a') ∧
      drain (syncStep writeMany c) stream b = (.ok (), b') ∧
      Matched Writable (arrived ++ stream.flatMap Prod.fst) a' b' ∧ Short c a' := by
  induction stream generalizing arrived a b with
  | nil => exact ⟨a, b, rfl, rfl, by simpa using h, hshort⟩
  | cons turn stream ih =>
    obtain ⟨a₁, b₁, hasync, hsync, hmatched, hshort⟩ := step_matched hsink hsize turn h
    obtain ⟨a', b', hasyncs, hsyncs, hend, hshort⟩ := ih hmatched hshort
    refine ⟨a', b', ?_, ?_, ?_, hshort⟩
    · rw [drain, hasync]
      exact hasyncs
    · rw [drain, hsync]
      exact hsyncs
    · rw [List.flatMap_cons, ← List.append_assoc]
      exact hend

end Loops

/-! ## Both flavours -/

def activePortal : SinkArgument → Portals → Option Portal
  | .adapter opened, _ => opened
  | .sampleSink, portals => portals.argument.or portals.stream

theorem resolveFlush_running {writeMany : WriteMany α σ} {arg : SinkArgument} {portals : Portals}
    {active : Portal} (hactive : activePortal arg portals = some active)
    (hrunning : active.running = true) : resolveFlush arg portals writeMany = .ok writeMany := by
  have hcall : active.call writeMany = writeMany := by
    funext samples s
    rw [Portal.call, if_pos hrunning]
  cases arg with
  | adapter opened =>
    have hopened : opened = some active := hactive
    rw [resolveFlush, hopened, adapterWriteMany, hcall]
  | sampleSink =>
    have hfound : portals.argument.or portals.stream = some active := hactive
    rw [resolveFlush, hfound]
    exact congrArg Except.ok hcall

/-- What is promised of a pipe that has ended: every sample of the stream was handed over once, in
the order of the stream, and is counted. -/
def Delivers (stream : List (Turn α Time)) (r : Except SinkError Summary × Pipe α σ Time) : Prop :=
  r.1 = .ok { samplesEmitted := (stream.flatMap Prod.fst).length } ∧
    r.2.handed.flatten = stream.flatMap Prod.fst

theorem Accounts.delivers {Writable : σ → Prop} {stream : List (Turn α Time)}
    {p : Pipe α σ Time} (h : Accounts Writable (stream.flatMap Prod.fst) p)
    (hbuffer : p.buffer = []) : Delivers stream (.ok { samplesEmitted := p.emitted }, p) := by
  have hhanded : p.handed.flatten = stream.flatMap Prod.fst := by
    have hdelivered := h.delivered
    rwa [hbuffer, List.append_nil] at hdelivered
  refine ⟨?_, hhanded⟩
  rw [← hhanded, h.counted]

/-- After every batch the buffer is shorter than the batch size. -/
def NeverFull [LinearOrder Time] [Sub Time] (c : Settings Time)
    (step : Turn α Time → Piece α σ Time Unit) (stream : List (Turn α Time))
    (p : Pipe α σ Time) : Prop :=
  ∀ seen rest, stream = seen ++ rest → Short c (drain step seen p).2

/-- Over a sink that takes what it is given, both flavours deliver every sample once, keep their
buffer short, and hand over the same lists, the empty ones left aside. -/
theorem pipes_deliver [LinearOrder Time] [Sub Time] [Zero Time] {writeMany : WriteMany α σ}
    {Writable : σ → Prop} (hsink : Accepts writeMany Writable) {sink : σ} (hopen : Writable sink)
    {arg : SinkArgument} {portals : Portals} {active : Portal}
    (hactive : activePortal arg portals = some active) (hrunning : active.running = true)
    {c : Settings Time} (hsize : 1 ≤ c.batchSize) (hinterval : 0 < c.flushInterval)
    (repr : Time → String) (start : Time) (stream : List (Turn α Time)) :
    Delivers stream (asyncPipe repr writeMany c start stream sink) ∧
      Delivers stream (syncPipe repr arg portals writeMany c start stream sink) ∧
      NeverFull c (asyncStep writeMany c) stream (.new sink start) ∧
      NeverFull c (syncStep writeMany c) stream (.new sink start) ∧
      nonEmpty (asyncPipe repr writeMany c start stream sink).2.handed =
        nonEmpty (syncPipe repr arg portals writeMany c start stream sink).2.handed := by
  have hcheck : checkSettings repr c = .ok () := by
    rw [checkSettings, if_neg (not_lt.mpr hsize), if_neg (not_le.mpr hinterval)]
  have hstart : Matched Writable ([] : List α) (.new sink start : Pipe α σ Time)
      (.new sink start) :=
    ⟨accounts_new hopen start, accounts_new hopen start, rfl, rfl, rfl⟩
  have hshort : Short c (.new sink start : Pipe α σ Time) := by
    simp only [Short, Pipe.new, List.length_nil]
    omega
  have hrun := fun seen => drain_matched hsink hsize seen hstart hshort
  obtain ⟨a, b, hasync, hsync, hmatched, -⟩ := hrun stream
  obtain ⟨a', hflush, ha⟩ := flush_spec hsink hmatched.async
  obtain ⟨b', hlast, hb⟩ := flush_spec hsink hmatched.sync
  have hend := hmatched.cleared ha hb
  have hasyncPipe : asyncPipe repr writeMany c start stream sink =
      (.ok { samplesEmitted := a'.emitted }, a') := by
    simp only [asyncPipe, hcheck, hasync, andThen, hflush]
  have hsyncPipe : syncPipe repr arg portals writeMany c start stream sink =
      (.ok { samplesEmitted := b'.emitted }, b') := by
    have hrest : (if b.buffer.isEmpty then (.ok (), b) else handOver writeMany b) =
        ((.ok (), b') : Except SinkError Unit × Pipe α σ Time) := hlast
    simp only [syncPipe, hcheck, resolveFlush_running hactive hrunning, hsync, andThen, hrest]
  rw [hasyncPipe, hsyncPipe]
  refine ⟨ha.accounts.delivers ha.buffer, hb.accounts.delivers hb.buffer, ?_, ?_,
    hend.lists⟩
  · intro seen rest _
    obtain ⟨a₁, b₁, hseen, -, -, hshort⟩ := hrun seen
    rw [hseen]
    exact hshort
  · intro seen rest _
    obtain ⟨a₁, b₁, -, hseen, hmatched, hshort⟩ := hrun seen
    rw [hseen, Short, ← hmatched.buffer]
    exact hshort

structure MemorySink (α : Type) where
  samples : List α
  isOpen : Bool

def MemorySink.writeMany : WriteMany α (MemorySink α) := fun samples s =>
  if s.isOpen then (.ok (), { s with samples := s.samples ++ samples })
  else (.error (.runtimeError "InMemorySink: write_many called before open()"), s)

theorem MemorySink.accepts :
    Accepts (α := α) MemorySink.writeMany fun s => s.isOpen = true := by
  intro samples s hopen
  exact ⟨{ s with samples := s.samples ++ samples }, if_pos hopen, hopen⟩

def threeTurns : List (Turn ℕ ℚ) := [([1, 2], 1 / 2), ([], 2), ([3], 9 / 4)]

def pairs : Settings ℚ := ⟨2, 1⟩

theorem three_turns_deliver :
    Delivers threeTurns (asyncPipe toString MemorySink.writeMany pairs 0 threeTurns ⟨[], true⟩) ∧
      Delivers threeTurns (syncPipe toString (.adapter (some ⟨true⟩)) ⟨none, none⟩
        MemorySink.writeMany pairs 0 threeTurns ⟨[], true⟩) ∧
      NeverFull pairs (asyncStep MemorySink.writeMany pairs) threeTurns (.new ⟨[], true⟩ 0) ∧
      NeverFull pairs (syncStep MemorySink.writeMany pairs) threeTurns (.new ⟨[], true⟩ 0) ∧
      nonEmpty (asyncPipe toString MemorySink.writeMany pairs 0 threeTurns ⟨[], true⟩).2.handed =
        nonEmpty (syncPipe toString (.adapter (some ⟨true⟩)) ⟨none, none⟩
          MemorySink.writeMany pairs 0 threeTurns ⟨[], true⟩).2.handed :=
  pipes_deliver MemorySink.accepts rfl rfl rfl (by decide) (by norm_num [pairs]) toString 0
    threeTurns

end Pipes
