import Mathlib.Tactic.FieldSimp
import Mathlib.Tactic.Linarith
import Mathlib.Tactic.Ring
import Watlowlib.Recorder

/-! # The slots of a recording

Every turn accounts for the slots it polls or skips. The skip moves the counter after the guard of
the loop was checked, so an overrun past the end of the recording polls a slot that does not
exist. -/
namespace RecorderSchedule

open ExceptRules PollAttribution Recorder

variable {σ : Type} {cfg : Config} {w : World σ} {ws : List (World σ)} {p p' : Producer σ} {n : ℕ}

def polls (log : List Action) : List (ℕ × ℚ) :=
  log.filterMap fun
    | .poll slot time => some (slot, time)
    | _ => none

def skipped (log : List Action) : ℕ :=
  (log.map fun
    | .skip missed => missed
    | _ => 0).sum

theorem polls_append (l l' : List Action) : polls (l ++ l') = polls l ++ polls l' :=
  List.filterMap_append

theorem skipped_append (l l' : List Action) : skipped (l ++ l') = skipped l + skipped l' := by
  simp [skipped]

def missed (cfg : Config) (p : Producer σ) : ℕ :=
  if p.clock > cfg.target p.tick + cfg.period then
    ⌊(p.clock - cfg.target p.tick) / cfg.period⌋₊
  else 0

theorem skipMissed_spec (cfg : Config) (p : Producer σ) :
    (skipMissed cfg p).tick = p.tick + missed cfg p ∧
      polls (skipMissed cfg p).log = polls p.log ∧
      skipped (skipMissed cfg p).log = skipped p.log + missed cfg p := by
  simp only [skipMissed, missed]
  split
  · refine ⟨rfl, ?_, ?_⟩
    · rw [polls_append]
      exact List.append_nil _
    · rw [skipped_append]
      simp [skipped]
  · exact ⟨rfl, rfl, rfl⟩

theorem waitForSlot_target (cfg : Config) (w : World σ) (p : Producer σ) :
    cfg.target p.tick ≤ (waitForSlot cfg w p).clock := by
  simp only [waitForSlot]
  split
  · exact le_add_of_nonneg_right w.wake.2
  · rename_i hnot
    exact not_lt.mp hnot

theorem turn_batch (hbatch : ∀ s, ∃ samples, (w.poll s).outcome = .ok samples) :
    ∃ p' time, turn cfg w p = (.ok (), p') ∧ p'.tick = p.tick + missed cfg p + 1 ∧
      polls p'.log = polls p.log ++ [(p.tick + missed cfg p, time)] ∧
      skipped p'.log = skipped p.log + missed cfg p ∧
      cfg.target (p.tick + missed cfg p) ≤ time := by
  obtain ⟨htick, hpolls, hskipped⟩ := skipMissed_spec cfg p
  have htarget := waitForSlot_target cfg w (skipMissed cfg p)
  obtain ⟨samples, hsamples⟩ := hbatch (waitForSlot cfg w (skipMissed cfg p)).source
  simp only [turn, hsamples]
  refine ⟨_, (waitForSlot cfg w (skipMissed cfg p)).clock, rfl, ?_, ?_, ?_, ?_⟩
  · exact congrArg (· + 1) htick
  · simp only [deliver, pollSlot, waitForSlot, polls_append, hpolls, htick]
    simp [polls]
  · simp only [deliver, pollSlot, waitForSlot, skipped_append, hskipped]
    simp [skipped]
  · rw [← htick]
    exact htarget

/-- The books of the producer: the slots so far are those it polled and those it skipped. -/
structure Accounted (cfg : Config) (p : Producer σ) : Prop where
  increasing : (polls p.log).Pairwise fun a b => a.1 < b.1
  past : ∀ a ∈ polls p.log, a.1 < p.tick
  notEarly : ∀ a ∈ polls p.log, cfg.target a.1 ≤ a.2
  total : (polls p.log).length + skipped p.log = p.tick

theorem turn_accounted (hbatch : ∀ s, ∃ samples, (w.poll s).outcome = .ok samples)
    (h : Accounted cfg p) (hturn : turn cfg w p = (.ok (), p')) : Accounted cfg p' := by
  obtain ⟨q, time, hq, htick, hpolls, hskipped, htarget⟩ := @turn_batch _ cfg w p hbatch
  cases hturn.symm.trans hq
  obtain ⟨hincreasing, hpast, hearly, htotal⟩ := h
  constructor
  · rw [hpolls, List.pairwise_append]
    refine ⟨hincreasing, List.pairwise_singleton _ _, ?_⟩
    intro a ha b hb
    rw [List.mem_singleton] at hb
    subst hb
    exact lt_of_lt_of_le (hpast a ha) (Nat.le_add_right _ _)
  · intro a ha
    rw [hpolls] at ha
    rcases List.mem_append.mp ha with ha | ha
    · have hlt := hpast a ha
      omega
    · rw [List.mem_singleton] at ha
      subst ha
      omega
  · intro a ha
    rw [hpolls] at ha
    rcases List.mem_append.mp ha with ha | ha
    · exact hearly a ha
    · rw [List.mem_singleton] at ha
      subst ha
      exact htarget
  · rw [hpolls, hskipped, List.length_append, List.length_singleton]
    omega

theorem run_accounted (hbatch : ∀ w ∈ ws, ∀ s, ∃ samples, (w.poll s).outcome = .ok samples)
    (h : Accounted cfg p) : Accounted cfg (runProducer cfg ws p).2 := by
  induction ws generalizing p with
  | nil => exact h
  | cons w ws ih =>
    simp only [runProducer]
    split
    · obtain ⟨q, time, hq, -⟩ := @turn_batch _ cfg w p (hbatch w List.mem_cons_self)
      rw [hq, andThen_ok]
      exact ih (fun w' hw' => hbatch w' (List.mem_cons_of_mem _ hw'))
        (turn_accounted (hbatch w List.mem_cons_self) h hq)
    · exact h

/-- When the clock is read, the slot is not overrun, or the recording is not over yet. -/
def OnTime (cfg : Config) (n : ℕ) (p : Producer σ) : Prop :=
  p.clock ≤ cfg.target p.tick + cfg.period ∨ p.clock < cfg.target n

instance : Decidable (OnTime cfg n p) := inferInstanceAs (Decidable (_ ∨ _))

theorem missed_lt_iff (hlt : p.tick < n) : p.tick + missed cfg p < n ↔ OnTime cfg n p := by
  have hperiod := cfg.positive
  simp only [missed, OnTime]
  split
  · rename_i hover
    have hpos : 0 ≤ (p.clock - cfg.target p.tick) / cfg.period := by
      apply div_nonneg _ hperiod.le
      linarith
    have hleft : ¬ p.clock ≤ cfg.target p.tick + cfg.period := not_le.mpr hover
    rw [or_iff_right hleft]
    calc p.tick + ⌊(p.clock - cfg.target p.tick) / cfg.period⌋₊ < n
        ↔ ⌊(p.clock - cfg.target p.tick) / cfg.period⌋₊ < n - p.tick := by omega
      _ ↔ (p.clock - cfg.target p.tick) / cfg.period < ((n - p.tick : ℕ) : ℚ) :=
        Nat.floor_lt hpos
      _ ↔ p.clock - cfg.target p.tick < ((n - p.tick : ℕ) : ℚ) * cfg.period :=
        div_lt_iff₀ hperiod
      _ ↔ p.clock < cfg.target n := by
        rw [Nat.cast_sub hlt.le]
        simp only [Config.target]
        constructor <;> intro h <;> linarith
  · rename_i hnot
    exact iff_of_true hlt (Or.inl (not_lt.mp hnot))

theorem goesOn_iff (htotal : cfg.totalTicks = some n) : cfg.goesOn p = true ↔ p.tick < n := by
  simp [Config.goesOn, htotal]

theorem run_tick_le_iff (htotal : cfg.totalTicks = some n)
    (hbatch : ∀ w ∈ ws, ∀ s, ∃ samples, (w.poll s).outcome = .ok samples) (hle : p.tick ≤ n) :
    (runProducer cfg ws p).2.tick ≤ n ↔ Along cfg (fun _ p => OnTime cfg n p) ws p := by
  induction ws generalizing p with
  | nil => exact iff_of_true hle trivial
  | cons w ws ih =>
    have hrest : ∀ w ∈ ws, ∀ s, ∃ samples, (w.poll s).outcome = .ok samples :=
      fun w' hw' => hbatch w' (List.mem_cons_of_mem _ hw')
    obtain ⟨q, time, hq, htick, -⟩ := @turn_batch _ cfg w p (hbatch w List.mem_cons_self)
    simp only [runProducer, Along]
    split
    · rename_i hgo
      have hlt := (goesOn_iff htotal).mp hgo
      rw [hq, andThen_ok]
      have hmissed := @missed_lt_iff _ cfg p n hlt
      constructor
      · intro hend _
        have honTime : OnTime cfg n p := by
          by_contra hnot
          have hover : n < q.tick := by
            have hge := mt hmissed.mp hnot
            omega
          have hstop : (runProducer cfg ws q).2 = q := by
            cases ws with
            | nil => rfl
            | cons w' ws' =>
              have hgo' : ¬ cfg.goesOn q = true := by
                intro h
                have hbefore := (goesOn_iff htotal).mp h
                omega
              simp only [runProducer, if_neg hgo']
          rw [hstop] at hend
          omega
        refine ⟨honTime, ?_⟩
        intro q' hq'
        cases hq'
        have hbound := hmissed.mpr honTime
        exact (ih hrest (by omega)).mp hend
      · intro halong
        obtain ⟨honTime, hnext⟩ := halong hgo
        have hbound := hmissed.mpr honTime
        exact (ih hrest (by omega)).mpr (hnext q rfl)
    · rename_i hstop
      exact iff_of_true hle fun hgo => absurd hgo hstop

theorem run_ends (htotal : cfg.totalTicks = some n)
    (hbatch : ∀ w ∈ ws, ∀ s, ∃ samples, (w.poll s).outcome = .ok samples)
    (hlen : n ≤ p.tick + ws.length) : n ≤ (runProducer cfg ws p).2.tick := by
  induction ws generalizing p with
  | nil => exact hlen
  | cons w ws ih =>
    obtain ⟨q, time, hq, htick, -⟩ := @turn_batch _ cfg w p (hbatch w List.mem_cons_self)
    simp only [runProducer]
    split
    · rw [hq, andThen_ok]
      apply ih fun w' hw' => hbatch w' (List.mem_cons_of_mem _ hw')
      rw [List.length_cons] at hlen
      omega
    · rename_i hstop
      exact not_lt.mp fun hlt => hstop ((goesOn_iff htotal).mpr hlt)

/-- The schedule that a recording of `n` slots promises. -/
structure Scheduled (cfg : Config) (n : ℕ) (p : Producer σ) : Prop where
  increasing : (polls p.log).Pairwise fun a b => a.1 < b.1
  below : ∀ a ∈ polls p.log, a.1 < n
  notEarly : ∀ a ∈ polls p.log, cfg.target a.1 ≤ a.2
  accounted : n ≤ p.tick → (polls p.log).length + skipped p.log = n

theorem scheduled_iff_tick (h : Accounted cfg p) : Scheduled cfg n p ↔ p.tick ≤ n := by
  constructor
  · intro hs
    by_contra hnot
    have htotal := h.total
    have hall := hs.accounted (by omega)
    omega
  · intro hle
    refine ⟨h.increasing, fun a ha => lt_of_lt_of_le (h.past a ha) hle, h.notEarly, ?_⟩
    intro hge
    have htotal := h.total
    omega

theorem begin_accounted (cfg : Config) (source : σ) : Accounted cfg (begin cfg source) := by
  constructor <;> simp [begin, polls, skipped]

/-- The schedule is kept just when every turn of the loop finds its slot not overrun, or the
recording not over. It comes to its end either way. -/
theorem scheduled_iff_onTime (cfg : Config) (n : ℕ) (source : σ) (ws : List (World σ))
    (htotal : cfg.totalTicks = some n)
    (hbatch : ∀ w ∈ ws, ∀ s, ∃ samples, (w.poll s).outcome = .ok samples) :
    (Scheduled cfg n (runProducer cfg ws (begin cfg source)).2 ↔
      Along cfg (fun _ p => OnTime cfg n p) ws (begin cfg source)) ∧
    (n ≤ ws.length → n ≤ (runProducer cfg ws (begin cfg source)).2.tick) := by
  have haccounted := run_accounted hbatch (begin_accounted cfg source)
  constructor
  · rw [scheduled_iff_tick haccounted]
    exact run_tick_le_iff htotal hbatch (Nat.zero_le n)
  · intro hlen
    apply run_ends htotal hbatch
    simpa [begin] using hlen

def quickTurn (pollTime : ℚ≥0) : World Unit :=
  ⟨0, 0, fun _ => ⟨[], .ok []⟩, pollTime, .sent 0, 0, .ok (), 0⟩

def threeSlots : Config := ⟨0, 1, zero_lt_one_second, some 3, false, false⟩

theorem quickTurn_batch (t : ℚ≥0) (s : Unit) :
    ∃ samples, ((quickTurn t).poll s).outcome = .ok samples := ⟨[], rfl⟩

theorem slowPoll_scheduled :
    Scheduled threeSlots 3 (runProducer threeSlots [quickTurn (5 / 2), quickTurn 0]
      (begin threeSlots ())).2 := by
  refine (scheduled_iff_onTime threeSlots 3 () _ rfl ?_).1.mpr ?_
  · intro w hw
    rcases List.mem_cons.mp hw with rfl | hw
    · exact quickTurn_batch _
    · rw [List.mem_singleton.mp hw]
      exact quickTurn_batch _
  · intro _
    refine ⟨by decide +kernel, ?_⟩
    intro p' h
    cases h
    intro _
    refine ⟨by decide +kernel, ?_⟩
    intro p' _
    exact trivial

/-- The first poll of three one-second slots takes five seconds. The next turn skips to slot 5 and
polls it, and six slots are accounted for. -/
theorem overrun_past_end :
    polls (runProducer threeSlots [quickTurn 5, quickTurn 0] (begin threeSlots ())).2.log =
      [(0, 0), (5, 5)] ∧
    skipped (runProducer threeSlots [quickTurn 5, quickTurn 0] (begin threeSlots ())).2.log = 4 ∧
    ¬ Scheduled threeSlots 3
      (runProducer threeSlots [quickTurn 5, quickTurn 0] (begin threeSlots ())).2 := by
  have hpolls : polls (runProducer threeSlots [quickTurn 5, quickTurn 0]
      (begin threeSlots ())).2.log = [(0, 0), (5, 5)] := by decide +kernel
  refine ⟨hpolls, by decide +kernel, ?_⟩
  intro h
  have hbelow := h.below (5, 5) (by rw [hpolls]; simp)
  omega

end RecorderSchedule
