import Watlowlib.GuardedRegions
import Watlowlib.PollAttribution

/-! # Who is on the bus

The calls that share one protocol client, as programs over its lock: a single `Session.execute`, a
batch of `poll_controller`, and the port group of `poll_many` around several batches. Any number of
tasks run any of them, with faults and cancellations anywhere. -/
namespace LockDiscipline

open GuardedRegions ParameterCommands PythonValues Registry SafetyGate TransitionSystem

/-- `Session.execute`: the gates and the encoder, the exchange under the lock, the decoder. -/
def executeProg (i : Invocation) : Prog Invocation :=
  .seq .check (.seq (.guarded (.exchange i)) .check)

def pollReads (registry : ParameterRegistry) (parameters : List Ident) (instances : List ℤ) :
    List Invocation :=
  parameters.flatMap fun x =>
    match registry.resolve x with
    | .ok spec => instances.map fun i => .read ⟨.name spec.name, i⟩
    | .error _ => []

/-- `poll_controller`: a typed error ends one read and no more. -/
def pollProg (registry : ParameterRegistry) (parameters : List Ident) (instances : List ℤ) :
    Prog Invocation :=
  .guarded (.block ((pollReads registry parameters instances).map fun i =>
    .attempt (executeProg i)))

/-- `_run_group` of `poll_many`: the controllers of a port are looked up one by one. -/
def groupProg (members : List ParameterRegistry) (parameters : List Ident)
    (instances : List ℤ) : Prog Invocation :=
  .seq .check (.seq
    (.guarded (.block (members.map fun registry =>
      .seq .check (pollProg registry parameters instances))))
    .check)

inductive BusCall where
  | execute (i : Invocation)
  | pollController (registry : ParameterRegistry) (parameters : List Ident) (instances : List ℤ)
  | portGroup (members : List ParameterRegistry) (parameters : List Ident) (instances : List ℤ)

def BusCall.prog : BusCall → Prog Invocation
  | .execute i => executeProg i
  | .pollController registry parameters instances => pollProg registry parameters instances
  | .portGroup members parameters instances => groupProg members parameters instances

def Offered (p : Prog Invocation) : Prop := ∃ c : BusCall, p = c.prog

theorem offered_oneRegion (p : Prog Invocation) (h : Offered p) : OneRegion p := by
  obtain ⟨c, rfl⟩ := h
  cases c with
  | execute i => exact ⟨by simp [BusCall.prog, executeProg, Prog.Bare], le_rfl⟩
  | pollController registry parameters instances => exact ⟨id, le_rfl⟩
  | portGroup members parameters instances =>
    exact ⟨by simp [BusCall.prog, groupProg, Prog.Bare], le_rfl⟩

/-- In every interleaving of calls on one client: one task at a time is inside an exchange; from
the first exchange of a call to its last no other task exchanges; a task inside a region owns the
lock, never waits for it and enters further regions at once; and the lock stays with it exactly as
long as one of its regions is open. -/
theorem lock_discipline {s : State Invocation} {es : List (Event Invocation)}
    (h : Run (Step Offered) initial es s) :
    (∀ τ σ, Inside s τ → Inside s σ → τ = σ) ∧
    (∀ es₁ a es₂ b es₃ τ n, es = es₁ ++ a :: es₂ ++ b :: es₃ → a.Exchange τ n →
      b.Exchange τ n → ∀ e ∈ es₂, ∀ σ m, e.Exchange σ m → σ = τ) ∧
    (∀ τ, Holds s τ → s.owner = some τ ∧ (s.tasks τ).mode ≠ .waiting ∧
      ∀ p k, (s.tasks τ).frames = .run (.guarded p) :: k → (s.tasks τ).mode = .running →
        Step Offered s (.tick τ) (s.setFrames τ (.run p :: .leave false :: k) .running)) ∧
    (∀ τ e t, Holds s τ → Step Offered s e t → (t.owner = some τ ↔ Holds t τ)) := by
  have hs : Orderly s :=
    h.invariant Orderly (fun _ _ _ h hs => step_orderly offered_oneRegion h hs) initial_orderly
  have hkept := hs.invariant.kept
  refine ⟨fun τ σ => inside_exclusive hs.invariant, ?_, ?_, ?_⟩
  · intro es₁ a es₂ b es₃ τ n hes ha hb
    subst hes
    exact batch_undisturbed offered_oneRegion initial_orderly h ha hb
  · intro τ hheld
    exact ⟨(hkept τ).owns hheld, (hkept τ).runs hheld,
      fun p k hf hm => holder_enters hs.invariant hheld hf hm⟩
  · intro τ e t hheld hstep
    exact step_released (fun p hp => (offered_oneRegion p hp).1) hs.invariant hheld hstep

def firstRead : Invocation := .read ⟨.name "process_value", 1⟩

def secondRead : Invocation := .read ⟨.name "setpoint", 1⟩

def rivalWrite : Invocation := .write ⟨.id 7001, .num (.int 5), 1⟩

def twoReads : Prog Invocation :=
  .guarded (.seq (.attempt (executeProg firstRead))
    (.seq (.attempt (executeProg secondRead)) .skip))

theorem twoReads_offered : Offered twoReads :=
  ⟨.pollController ReplySelection.twoRows.registry [.id 4001, .id 7001] [1], by decide +kernel⟩

def betweenReads : List (Event Invocation) :=
  [.start 1 (executeProg rivalWrite), .tick 1, .tick 1, .tick 1, .tick 1, .reply 0 1 firstRead,
    .tick 0, .tick 0, .tick 0, .tick 0, .tick 0, .tick 0, .tick 0, .tick 0, .tick 0]

theorem contended_run : ∃ s, Run (Step Offered) initial
    ([.start 0 twoReads, .tick 0, .tick 0, .tick 0, .tick 0, .tick 0, .tick 0, .tick 0] ++
      .enter 0 1 firstRead :: betweenReads ++ .enter 0 1 secondRead :: []) s := by
  apply Run.exists_cons (.start rfl twoReads_offered)
  -- the batch takes the lock and goes down to its first read
  apply Run.exists_cons (.acquire rfl rfl rfl)
  apply Run.exists_cons (.plain .seq)
  apply Run.exists_cons (.plain .attempt)
  apply Run.exists_cons (.plain .seq)
  apply Run.exists_cons (.plain .pass)
  apply Run.exists_cons (.plain .seq)
  apply Run.exists_cons (.reuse rfl rfl rfl)
  apply Run.exists_cons (.enter rfl rfl)
  -- a write comes and has to wait
  apply Run.exists_cons (.start rfl ⟨.execute rivalWrite, rfl⟩)
  apply Run.exists_cons (.plain .seq)
  apply Run.exists_cons (.plain .pass)
  apply Run.exists_cons (.plain .seq)
  apply Run.exists_cons (.wait rfl rfl rfl (by decide))
  -- the first read is answered, and the second one follows
  apply Run.exists_cons (.reply .running rfl rfl nofun)
  apply Run.exists_cons (.plain (.leave nofun))
  apply Run.exists_cons (.plain .pass)
  apply Run.exists_cons (.plain .finish)
  apply Run.exists_cons (.plain .seq)
  apply Run.exists_cons (.plain .attempt)
  apply Run.exists_cons (.plain .seq)
  apply Run.exists_cons (.plain .pass)
  apply Run.exists_cons (.plain .seq)
  apply Run.exists_cons (.reuse rfl rfl rfl)
  exact Run.exists_cons (.enter rfl rfl) Run.exists_nil

theorem contended_undisturbed : ∃ s, Run (Step Offered) initial
    ([.start 0 twoReads, .tick 0, .tick 0, .tick 0, .tick 0, .tick 0, .tick 0, .tick 0] ++
      .enter 0 1 firstRead :: betweenReads ++ .enter 0 1 secondRead :: []) s ∧
    ∀ e ∈ betweenReads, ∀ σ m, e.Exchange σ m → σ = 0 := by
  obtain ⟨s, hs⟩ := contended_run
  exact ⟨s, hs, (lock_discipline hs).2.1 _ _ _ _ _ 0 1 rfl ⟨rfl, rfl⟩ ⟨rfl, rfl⟩⟩

end LockDiscipline
