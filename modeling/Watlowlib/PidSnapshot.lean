import Watlowlib.LockDiscipline
import Watlowlib.LoopGains
import Watlowlib.RegionSequences

/-! # What `read_pid` sees while others write

`read_pid` makes one `Session.execute` after another. The client's lock is taken and given back in
each of them, and is free, or somebody else's, between two gains. -/
namespace PidSnapshot

open GuardedRegions LockDiscipline LoopGains ParameterCommands RegionSequences SafetyGate
  TransitionSystem

variable {τ n : ℕ} {es : List (Event Invocation)}

def gainRead (field : PidField) (instanceNo : ℤ) : Invocation :=
  .read ⟨.name field.name, instanceNo⟩

/-- `_safe_read_float`: typed errors of the read are handled, and the value is made a float. -/
def safeReadProg (field : PidField) (instanceNo : ℤ) : Prog Invocation :=
  .seq (.attempt (executeProg (gainRead field instanceNo))) .check

def readFieldsProg (instanceNo : ℤ) (capabilities : Option ℕ) : List PidField → Prog Invocation
  | [] => .skip
  | field :: rest =>
    if field.coolOnly = true ∧ hasCooling capabilities = false then
      readFieldsProg instanceNo capabilities rest
    else .seq (safeReadProg field instanceNo) (readFieldsProg instanceNo capabilities rest)

def readPidProg (instanceNo : ℤ) (capabilities : Option ℕ) : Prog Invocation :=
  readFieldsProg instanceNo capabilities pidFields

/-- The programs that share the client: single calls, polls and snapshots of the gains. A
`write_pid` is several calls of one task, one after another. -/
def Shared (p : Prog Invocation) : Prop :=
  Offered p ∨ ∃ instanceNo capabilities, p = readPidProg instanceNo capabilities

def IsRead (i : Invocation) : Prop := ∃ request, i = .read request

/-- What the controller may hold before and after an event: only a write changes it, and to
whatever it likes. -/
def Changes {D : Type} (d : D) (e : Event Invocation) (d' : D) : Prop :=
  d' = d ∨ ∃ σ m request, e = .reply σ m (.write request)

/-- Nobody else exchanges in these events, and the controller holds the same all along. -/
structure Undisturbed (τ : ℕ) (es : List (Event Invocation)) : Prop where
  alone : ∀ e ∈ es, ∀ σ m, e.Exchange σ m → σ = τ
  still : ∀ (D : Type) (d d' : D) (es' es'' : List (Event Invocation)), es = es' ++ es'' →
    Run Changes d es' d' → d' = d

/-- Between any two exchanges of the call, the first and the last among them, all is undisturbed. -/
def Consistent (τ n : ℕ) (es : List (Event Invocation)) : Prop :=
  ∀ es₁ a es₂ b es₃, es = es₁ ++ a :: es₂ ++ b :: es₃ → a.Exchange τ n → b.Exchange τ n →
    Undisturbed τ es₂

theorem readFieldsProg_bare (instanceNo : ℤ) (capabilities : Option ℕ) (fields : List PidField) :
    ¬ (readFieldsProg instanceNo capabilities fields).Bare := by
  induction fields with
  | nil => exact id
  | cons field rest ih =>
    by_cases hskip : field.coolOnly = true ∧ hasCooling capabilities = false
    · rw [readFieldsProg, if_pos hskip]
      exact ih
    · rw [readFieldsProg, if_neg hskip]
      simpa [safeReadProg, executeProg, Prog.Bare] using ih

theorem readFieldsProg_reads (instanceNo : ℤ) (capabilities : Option ℕ) (fields : List PidField) :
    All IsRead (readFieldsProg instanceNo capabilities fields) := by
  induction fields with
  | nil => trivial
  | cons field rest ih =>
    by_cases hskip : field.coolOnly = true ∧ hasCooling capabilities = false
    · rw [readFieldsProg, if_pos hskip]
      exact ih
    · rw [readFieldsProg, if_neg hskip]
      exact ⟨⟨⟨trivial, ⟨_, rfl⟩, trivial⟩, trivial⟩, ih⟩

theorem shared_not_bare (p : Prog Invocation) (h : Shared p) : ¬ p.Bare := by
  rcases h with h | ⟨instanceNo, capabilities, rfl⟩
  · exact (offered_oneRegion p h).1
  · exact readFieldsProg_bare instanceNo capabilities pidFields

theorem changes_still {D : Type} {d d' : D} (hr : Run Changes d es d')
    (hreads : ∀ e ∈ es, ∀ σ m, e.Exchange σ m → ∀ x, label e = some x → IsRead x) : d' = d := by
  induction hr with
  | nil => rfl
  | @cons d e u es d' he hr ih =>
    have hrest := ih fun e' he' => hreads e' (List.mem_cons_of_mem _ he')
    rcases he with rfl | ⟨σ, m, request, rfl⟩
    · exact hrest
    · obtain ⟨_, hread⟩ := hreads _ List.mem_cons_self σ m ⟨rfl, rfl⟩ _ rfl
      cases hread

theorem startCall_underway {s : State Invocation} (instanceNo : ℤ) (capabilities : Option ℕ) :
    Underway IsRead (readPidProg instanceNo capabilities).regions τ ((s.tasks τ).calls + 1)
      (s.startCall τ (readPidProg instanceNo capabilities)) := by
  right
  simp only [Holds, State.startCall, Function.update_self]
  refine ⟨trivial, ?_, fun hin => absurd rfl hin, ?_⟩
  · simp [ahead, opens]
  · intro f hf
    rw [List.mem_singleton] at hf
    subst hf
    exact readFieldsProg_reads instanceNo capabilities pidFields

/-- In every run in which no other task gets the client's lock while the call has gains behind it
and gains ahead, the gains are a snapshot. -/
theorem gains_consistent_of_keptOut {s₀ t : State Invocation} {es₀ : List (Event Invocation)}
    {instanceNo : ℤ} {capabilities : Option ℕ} (h₀ : Run (Step Shared) initial es₀ s₀)
    (hidle : (s₀.tasks τ).frames = [])
    (hr : Run (KeepsOut Shared (readPidProg instanceNo capabilities).regions τ
      ((s₀.tasks τ).calls + 1)) (s₀.startCall τ (readPidProg instanceNo capabilities)) es t) :
    Consistent τ ((s₀.tasks τ).calls + 1) es := by
  have hinv : Invariant s₀ := h₀.invariant Invariant
    (fun _ _ _ h hs => step_invariant shared_not_bare h hs) initial_invariant
  have hstart := hinv.started hidle (readFieldsProg_bare instanceNo capabilities pidFields)
  rintro es₁ a es₂ b es₃ rfl ha hb
  have htogether := exchanges_together shared_not_bare hstart
    (startCall_underway instanceNo capabilities) hr ha hb
  constructor
  · intro e he σ m hex
    exact (htogether e he σ m hex).1
  · rintro D d d' es' es'' rfl hchanges
    apply changes_still hchanges
    intro e he σ m hex
    exact (htogether e (List.mem_append_left _ he) σ m hex).2

def heatOnly : Prog Invocation := readPidProg 1 (some 0)

theorem heatOnly_eq : heatOnly = .seq (safeReadProg .heatProportionalBand 1)
    (.seq (safeReadProg .timeIntegral 1) (.seq (safeReadProg .timeDerivative 1) .skip)) := by
  decide +kernel

def gainEvents (n : ℕ) (r : Invocation) : List (Event Invocation) :=
  [.tick 0, .tick 0, .tick 0, .tick 0, .tick 0, .tick 0, .tick 0, .enter 0 n r, .reply 0 n r,
    .tick 0, .tick 0, .tick 0, .tick 0]

theorem gain_run (field : PidField) (instanceNo : ℤ) {s t : State Invocation}
    {rest : Prog Invocation} {k : List (Frame Invocation)} (hfree : s.owner = none)
    (hqueue : s.queue = [])
    (htask : s.tasks 0 = ⟨.run (.seq (safeReadProg field instanceNo) rest) :: k, .running, n⟩)
    (h : Run (Step Shared) (s.setFrames 0 (.run rest :: k) .running) es t) :
    Run (Step Shared) s (gainEvents n (gainRead field instanceNo) ++ es) t := by
  have hcalls : n = (s.tasks 0).calls := by rw [htask]
  have hfirst : Local (s.tasks 0).frames (s.tasks 0).mode
      (.run (safeReadProg field instanceNo) :: .run rest :: k) .running := by
    rw [htask]
    exact .seq
  subst hcalls
  apply Run.cons (.plain hfirst)
  apply Run.cons (.plain .seq)
  apply Run.cons (.plain .attempt)
  apply Run.cons (.plain .seq)
  apply Run.cons (.plain .pass)
  apply Run.cons (.plain .seq)
  apply Run.cons (.acquire rfl rfl hfree)
  apply Run.cons (.enter rfl rfl)
  apply Run.cons (.reply .running rfl rfl nofun)
  apply Run.cons (.release rfl nofun)
  apply Run.cons (.plain .pass)
  apply Run.cons (.plain .finish)
  apply Run.cons (.plain .pass)
  simpa [State.setFrames, State.handOver, hfree, hqueue] using h

def writeEvents (n : ℕ) : List (Event Invocation) :=
  [.start 1 (executeProg rivalWrite), .tick 1, .tick 1, .tick 1, .tick 1, .enter 1 n rivalWrite,
    .reply 1 n rivalWrite, .tick 1, .tick 1]

theorem write_run {s t : State Invocation} (hfree : s.owner = none) (hqueue : s.queue = [])
    (htask : s.tasks 1 = ⟨[], .running, n⟩)
    (h : Run (Step Shared)
      { s with tasks := Function.update s.tasks 1 ⟨[], .running, n + 1⟩ } es t) :
    Run (Step Shared) s (writeEvents (n + 1) ++ es) t := by
  have hcalls : n = (s.tasks 1).calls := by rw [htask]
  have hidle : (s.tasks 1).frames = [] := by rw [htask]
  subst hcalls
  apply Run.cons (.start hidle (Or.inl ⟨.execute rivalWrite, rfl⟩))
  apply Run.cons (.plain .seq)
  apply Run.cons (.plain .pass)
  apply Run.cons (.plain .seq)
  apply Run.cons (.acquire rfl rfl hfree)
  apply Run.cons (.enter rfl rfl)
  apply Run.cons (.reply .running rfl rfl nofun)
  apply Run.cons (.release rfl nofun)
  apply Run.cons (.plain .pass)
  simpa [State.setFrames, State.startCall, State.handOver, hfree, hqueue] using h

def soloGains : List (Event Invocation) :=
  gainEvents 1 (gainRead .heatProportionalBand 1) ++
    (gainEvents 1 (gainRead .timeIntegral 1) ++
      (gainEvents 1 (gainRead .timeDerivative 1) ++ []))

def writtenOnce : State Invocation :=
  ⟨none, [], Function.update (fun _ => ⟨[], .running, 0⟩) 1 ⟨[], .running, 1⟩⟩

def gainsRead : State Invocation :=
  (writtenOnce.startCall 0 heatOnly).setFrames 0 [.run .skip] .running

theorem written_run : Run (Step Shared) initial (writeEvents 1 ++ []) writtenOnce :=
  write_run rfl rfl rfl (.nil _)

theorem solo_run : Run (Step Shared) (writtenOnce.startCall 0 heatOnly) soloGains gainsRead := by
  rw [heatOnly_eq]
  apply gain_run .heatProportionalBand 1 rfl rfl rfl
  apply gain_run .timeIntegral 1 rfl rfl rfl
  apply gain_run .timeDerivative 1 rfl rfl rfl
  simpa [gainsRead, State.setFrames, State.startCall] using Run.nil _

/-- With a writer before and after it, `read_pid` takes a snapshot. -/
theorem betweenWrites_consistent : Consistent 0 1 (soloGains ++ (writeEvents 2 ++ [])) := by
  have hgains : Run (KeepsOut Shared (readPidProg 1 (some 0)).regions 0 1)
      (writtenOnce.startCall 0 heatOnly) soloGains gainsRead :=
    run_keepsOut solo_run (by decide +kernel)
  have hover : ¬ Midway (readPidProg 1 (some 0)).regions 0 1 gainsRead := by
    rintro ⟨-, hahead, -⟩
    simp [gainsRead, State.setFrames, ahead, Prog.regions] at hahead
  have hothers : ∀ e ∈ writeEvents 2 ++ [], task e ≠ 0 := by decide +kernel
  have hwrite := run_keepsOut_over (write_run rfl rfl rfl (.nil _)) hover hothers
  exact gains_consistent_of_keptOut written_run rfl (hgains.append hwrite)

def toFirst : List (Event Invocation) :=
  [.tick 0, .tick 0, .tick 0, .tick 0, .tick 0, .tick 0, .tick 0]

def rivalTurn : List (Event Invocation) :=
  [.start 1 (executeProg rivalWrite), .tick 1, .tick 1, .tick 1, .tick 1,
    .reply 0 1 (gainRead .heatProportionalBand 1), .tick 0, .tick 1, .enter 1 1 rivalWrite,
    .reply 1 1 rivalWrite, .tick 1, .tick 0, .tick 0, .tick 0]

def contendedGains : List (Event Invocation) :=
  toFirst ++ .enter 0 1 (gainRead .heatProportionalBand 1) :: rivalTurn ++
    (gainEvents 1 (gainRead .timeIntegral 1) ++ (gainEvents 1 (gainRead .timeDerivative 1) ++ []))

theorem contended_run : ∃ t, Run (Step Shared) (initial.startCall 0 heatOnly) contendedGains t := by
  rw [heatOnly_eq]
  apply Exists.intro
  -- down to the first gain
  apply Run.cons (.plain .seq)
  apply Run.cons (.plain .seq)
  apply Run.cons (.plain .attempt)
  apply Run.cons (.plain .seq)
  apply Run.cons (.plain .pass)
  apply Run.cons (.plain .seq)
  apply Run.cons (.acquire rfl rfl rfl)
  apply Run.cons (.enter rfl rfl)
  -- a write comes and has to wait
  apply Run.cons (.start rfl (Or.inl ⟨.execute rivalWrite, rfl⟩))
  apply Run.cons (.plain .seq)
  apply Run.cons (.plain .pass)
  apply Run.cons (.plain .seq)
  apply Run.cons (.wait rfl rfl rfl (by decide))
  -- the first gain is read, and the lock goes to the write
  apply Run.cons (.reply .running rfl rfl nofun)
  apply Run.cons (.release rfl nofun)
  apply Run.cons (.resume rfl rfl rfl)
  apply Run.cons (.enter rfl rfl)
  apply Run.cons (.reply .running rfl rfl nofun)
  apply Run.cons (.release rfl nofun)
  apply Run.cons (.plain .pass)
  apply Run.cons (.plain .finish)
  apply Run.cons (.plain .pass)
  -- the other gains
  apply gain_run .timeIntegral 1 rfl rfl rfl
  apply gain_run .timeDerivative 1 rfl rfl rfl
  exact .nil _

def betweenGains : List (Event Invocation) :=
  rivalTurn ++ (gainEvents 1 (gainRead .timeIntegral 1) ++ toFirst)

/-- A write that queues up during the first read is on the bus before the last one. -/
theorem queued_write_between : ¬ ∀ (instanceNo : ℤ) (capabilities : Option ℕ) (τ : ℕ)
    (s₀ t : State Invocation) (es₀ es : List (Event Invocation)),
    Run (Step Shared) initial es₀ s₀ → (s₀.tasks τ).frames = [] →
    Run (Step Shared) (s₀.startCall τ (readPidProg instanceNo capabilities)) es t →
    Consistent τ ((s₀.tasks τ).calls + 1) es := by
  intro h
  obtain ⟨t, hrun⟩ := contended_run
  have hsnapshot := h 1 (some 0) 0 initial t [] _ (.nil _) rfl hrun
  have hparts : contendedGains =
      toFirst ++ .enter 0 1 (gainRead .heatProportionalBand 1) :: betweenGains ++
        .enter 0 1 (gainRead .timeDerivative 1) ::
          [.reply 0 1 (gainRead .timeDerivative 1), .tick 0, .tick 0, .tick 0, .tick 0] := by
    decide +kernel
  have halone := (hsnapshot _ _ _ _ _ hparts ⟨rfl, rfl⟩ ⟨rfl, rfl⟩).alone
  exact absurd (halone (.enter 1 1 rivalWrite) (by decide +kernel) 1 1 ⟨rfl, rfl⟩) (by decide)

end PidSnapshot
