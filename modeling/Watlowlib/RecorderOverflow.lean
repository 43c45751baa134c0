import Watlowlib.BoundedFifos
import Watlowlib.TransitionSystem

/-! # The overflow policies of a recording

`_publish` step by step, between the receives of a consumer. Under `DROP_OLDEST` the producer
receives too, from the same queue, to make room. -/
namespace RecorderOverflow

open BoundedFifos TransitionSystem

universe u

variable {β : Type u}

inductive OverflowPolicy where
  | block
  | dropNewest
  | dropOldest
  deriving DecidableEq, Repr

/-- The two receivers of the queue: `drop_rx` is the producer's. -/
inductive Receiver where
  | consumer
  | producer
  deriving DecidableEq, Repr

structure Setting where
  overflow : OverflowPolicy
  bufferSize : ℕ
  positive : 1 ≤ bufferSize

/-- Where a call of `_publish` is: in front of its first send, or under `DROP_OLDEST` in front of
the eviction or the send of its loop. -/
inductive Phase (β : Type u) where
  | idle
  | sending (batch : β)
  | evicting (batch : β)
  | resending (batch : β)

structure Channel (cfg : Setting) (β : Type u) where
  queue : Fifo Receiver β cfg.bufferSize
  phase : Phase β
  produced : List β
  samplesEmitted : ℕ
  samplesLate : ℕ

variable {cfg : Setting}

def initial (cfg : Setting) : Channel cfg β := ⟨empty, .idle, [], 0, 0⟩

/-- A send that succeeds, or `full`. -/
def trySend (s : Channel cfg β) (batch : β) (full : Option (Channel cfg β)) :
    Option (Channel cfg β) :=
  match s.queue.sendNowait batch with
  | some queue =>
    some { s with queue := queue, phase := .idle, samplesEmitted := s.samplesEmitted + 1 }
  | none => full

/-- The next step of `_publish`; there is none when it waits for room, or when there is no call. -/
def publishStep (s : Channel cfg β) : Option (Channel cfg β) :=
  match s.phase with
  | .idle => none
  | .sending batch =>
    trySend s batch
      (match cfg.overflow with
      | .block => none
      | .dropNewest => some { s with phase := .idle, samplesLate := s.samplesLate + 1 }
      | .dropOldest => some { s with phase := .evicting batch })
  | .evicting batch =>
    match s.queue.receiveNowait .producer with
    | some (_, queue) =>
      some { s with queue := queue, phase := .resending batch, samplesLate := s.samplesLate + 1 }
    | none => some { s with phase := .resending batch }
  | .resending batch => trySend s batch (some { s with phase := .evicting batch })

inductive Event (β : Type u) where
  | publish (batch : β)
  | step
  | receive

/-- The producer calls `_publish` or takes a step in it, or the consumer receives. -/
inductive Step : Channel cfg β → Event β → Channel cfg β → Prop where
  | publish {s} (batch : β) (h : s.phase = .idle) :
      Step s (.publish batch) { s with phase := .sending batch, produced := s.produced ++ [batch] }
  | step {s t} (h : publishStep s = some t) : Step s .step t
  | receive {s batch queue} (h : s.queue.receiveNowait .consumer = some (batch, queue)) :
      Step s .receive { s with queue := queue }

def Channel.delivered (s : Channel cfg β) : List β := s.queue.takenBy .consumer

def Channel.evicted (s : Channel cfg β) : List β := s.queue.takenBy .producer

def Phase.batch : Phase β → List β
  | .idle => []
  | .sending batch => [batch]
  | .evicting batch => [batch]
  | .resending batch => [batch]

/-- How many more steps a call takes at most, if it does not wait. -/
def Phase.rank : Phase β → ℕ
  | .idle => 0
  | .sending _ => 3
  | .evicting _ => 2
  | .resending _ => 1

/-- What holds after every step. The batches sent are among those settled before the current one. -/
structure Kept (s : Channel cfg β) : Prop where
  settled : ∃ settled, s.produced = settled ++ s.phase.batch ∧ s.queue.sent.Sublist settled ∧
    (cfg.overflow ≠ .dropNewest → s.queue.sent = settled) ∧
    (cfg.overflow = .dropNewest → settled.length = s.samplesEmitted + s.samplesLate)
  emitted : s.samplesEmitted = s.queue.sent.length
  late : cfg.overflow ≠ .dropNewest → s.samplesLate = s.evicted.length
  untouched : cfg.overflow ≠ .dropOldest → s.evicted = []
  looping : cfg.overflow ≠ .dropOldest → ∀ b, s.phase ≠ .evicting b ∧ s.phase ≠ .resending b
  room : ∀ b, s.phase = .resending b → s.queue.items.length < cfg.bufferSize

/-- What a step of `_publish` does. In its loop it never finds the queue full after an eviction. -/
inductive Moves (s : Channel cfg β) : Channel cfg β → Prop where
  | sends {batch queue} (hbatch : s.phase.batch = [batch])
      (hsend : s.queue.sendNowait batch = some queue) :
      Moves s { s with queue := queue, phase := .idle, samplesEmitted := s.samplesEmitted + 1 }
  | drops {batch} (hpolicy : cfg.overflow = .dropNewest) (hphase : s.phase = .sending batch) :
      Moves s { s with phase := .idle, samplesLate := s.samplesLate + 1 }
  | loops {batch} (hpolicy : cfg.overflow = .dropOldest) (hphase : s.phase = .sending batch) :
      Moves s { s with phase := .evicting batch }
  | evicts {batch oldest queue} (hpolicy : cfg.overflow = .dropOldest)
      (hphase : s.phase = .evicting batch)
      (hreceive : s.queue.receiveNowait .producer = some (oldest, queue)) :
      Moves s
        { s with queue := queue, phase := .resending batch, samplesLate := s.samplesLate + 1 }
  | finds {batch} (hpolicy : cfg.overflow = .dropOldest) (hphase : s.phase = .evicting batch)
      (hempty : s.queue.items = []) :
      Moves s { s with phase := .resending batch }

section Steps

variable {s t : Channel cfg β} {batch : β} {e : Event β} {es : List (Event β)}

theorem initial_kept : Kept (initial cfg : Channel cfg β) := by
  refine ⟨⟨[], rfl, .slnil, fun _ => rfl, fun _ => rfl⟩, rfl, fun _ => rfl, fun _ => rfl, ?_, ?_⟩
  · intro _ b
    exact ⟨nofun, nofun⟩
  · intro b hb
    cases hb

theorem trySend_cases {full : Option (Channel cfg β)} (h : trySend s batch full = some t) :
    (∃ queue, s.queue.sendNowait batch = some queue ∧
      t = { s with queue := queue, phase := .idle, samplesEmitted := s.samplesEmitted + 1 }) ∨
      (s.queue.items.length = cfg.bufferSize ∧ full = some t) := by
  simp only [trySend] at h
  split at h
  · rename_i queue hsend
    cases h
    exact Or.inl ⟨queue, hsend, rfl⟩
  · rename_i hnone
    exact Or.inr ⟨sendNowait_none_iff.mp hnone, h⟩

theorem publishStep_moves (hs : Kept s) (h : publishStep s = some t) : Moves s t := by
  have hlooping := hs.looping
  simp only [publishStep] at h
  split at h
  · cases h
  · rename_i b hphase
    rcases trySend_cases h with ⟨queue, hsend, rfl⟩ | ⟨-, hfull⟩
    · exact .sends (by rw [hphase, Phase.batch]) hsend
    · split at hfull
      · cases hfull
      · rename_i hpolicy
        cases hfull
        exact .drops hpolicy hphase
      · rename_i hpolicy
        cases hfull
        exact .loops hpolicy hphase
  · rename_i b hphase
    have hpolicy : cfg.overflow = .dropOldest := by
      by_contra hne
      exact (hlooping hne b).1 hphase
    split at h
    · rename_i oldest queue hreceive
      cases h
      exact .evicts hpolicy hphase hreceive
    · rename_i hnone
      cases h
      exact .finds hpolicy hphase (receiveNowait_none_iff.mp hnone)
  · rename_i b hphase
    rcases trySend_cases h with ⟨queue, hsend, rfl⟩ | ⟨hfull, -⟩
    · exact .sends (by rw [hphase, Phase.batch]) hsend
    · have hroom := hs.room b hphase
      omega

theorem Kept.send {queue : Fifo Receiver β cfg.bufferSize} (h : Kept s)
    (hbatch : s.phase.batch = [batch]) (hsend : s.queue.sendNowait batch = some queue) :
    Kept { s with queue := queue, phase := .idle, samplesEmitted := s.samplesEmitted + 1 } := by
  obtain ⟨-, hitems, hsent, htaken⟩ := sendNowait_some hsend
  obtain ⟨⟨settled, hproduced, hsublist, hall, hcount⟩, hemitted, hlate, huntouched, -, -⟩ := h
  rw [hbatch] at hproduced
  refine ⟨⟨settled ++ [batch], ?_, ?_, ?_, ?_⟩, ?_, ?_, ?_, ?_, ?_⟩
  · simpa [Phase.batch] using hproduced
  · rw [hsent]
    exact hsublist.append (List.Sublist.refl _)
  · intro hpolicy
    rw [hsent, hall hpolicy]
  · intro hpolicy
    have hsettled := hcount hpolicy
    simp only [List.length_append, List.length_singleton]
    omega
  · simp only [hsent, List.length_append, List.length_singleton, hemitted]
  · intro hpolicy
    exact (hlate hpolicy).trans (congrArg List.length (takenBy_eq htaken).symm)
  · intro hpolicy
    exact (takenBy_eq htaken).trans (huntouched hpolicy)
  · intro _ b
    exact ⟨nofun, nofun⟩
  · intro b hb
    cases hb

theorem Kept.drop (h : Kept s) (hpolicy : cfg.overflow = .dropNewest)
    (hbatch : s.phase.batch = [batch]) :
    Kept { s with phase := .idle, samplesLate := s.samplesLate + 1 } := by
  obtain ⟨⟨settled, hproduced, hsublist, -, hcount⟩, hemitted, -, huntouched, -, -⟩ := h
  rw [hbatch] at hproduced
  refine ⟨⟨settled ++ [batch], ?_, ?_, ?_, ?_⟩, hemitted, ?_, huntouched, ?_, ?_⟩
  · simpa [Phase.batch] using hproduced
  · exact hsublist.trans (List.sublist_append_left _ _)
  · exact fun hne => absurd hpolicy hne
  · intro _
    have hsettled := hcount hpolicy
    simp only [List.length_append, List.length_singleton]
    omega
  · exact fun hne => absurd hpolicy hne
  · intro _ b
    exact ⟨nofun, nofun⟩
  · intro b hb
    cases hb

theorem Kept.loop {phase : Phase β} (h : Kept s) (hpolicy : cfg.overflow = .dropOldest)
    (hbatch : phase.batch = s.phase.batch)
    (hroom : ∀ b, phase = .resending b → s.queue.items.length < cfg.bufferSize) :
    Kept { s with phase := phase } := by
  obtain ⟨hsettled, hemitted, hlate, huntouched, -, -⟩ := h
  exact ⟨by simpa only [hbatch] using hsettled, hemitted, hlate, huntouched,
    fun hne => absurd hpolicy hne, hroom⟩

theorem Kept.evict {queue : Fifo Receiver β cfg.bufferSize} {oldest : β} (h : Kept s)
    (hpolicy : cfg.overflow = .dropOldest) (hphase : s.phase = .evicting batch)
    (hreceive : s.queue.receiveNowait .producer = some (oldest, queue)) :
    Kept
      { s with queue := queue, phase := .resending batch, samplesLate := s.samplesLate + 1 } := by
  obtain ⟨hitems, hsent, htaken⟩ := receiveNowait_some hreceive
  obtain ⟨⟨settled, hproduced, hsublist, hall, -⟩, hemitted, hlate, -, -, -⟩ := h
  rw [hphase] at hproduced
  have hbounded := s.queue.bounded
  rw [hitems, List.length_cons] at hbounded
  refine ⟨⟨settled, hproduced, by rwa [hsent], ?_, ?_⟩, by rwa [hsent], ?_, ?_, ?_, ?_⟩
  · intro hne
    rw [hsent, hall hne]
  · intro hnewest
    rw [hpolicy] at hnewest
    cases hnewest
  · intro hne
    simp only [Channel.evicted, takenBy_append htaken, if_true, List.length_append,
      List.length_singleton, hlate hne]
  · exact fun hne => absurd hpolicy hne
  · exact fun hne => absurd hpolicy hne
  · exact fun _ _ => hbounded

theorem Kept.receive {queue : Fifo Receiver β cfg.bufferSize} (h : Kept s)
    (hreceive : s.queue.receiveNowait .consumer = some (batch, queue)) :
    Kept { s with queue := queue } := by
  obtain ⟨hitems, hsent, htaken⟩ := receiveNowait_some hreceive
  have hevicted : queue.takenBy .producer = s.evicted := by
    rw [takenBy_append htaken, if_neg (by decide), List.append_nil, Channel.evicted]
  obtain ⟨hsettled, hemitted, hlate, huntouched, hlooping, hroom⟩ := h
  refine ⟨by simpa only [hsent] using hsettled, by rwa [hsent], ?_, ?_, hlooping, ?_⟩
  · intro hne
    rw [Channel.evicted, hevicted]
    exact hlate hne
  · intro hne
    rw [Channel.evicted, hevicted]
    exact huntouched hne
  · intro b hb
    have hless := hroom b hb
    rw [hitems, List.length_cons] at hless
    exact Nat.lt_of_succ_lt hless

theorem Kept.publish (h : Kept s) (hphase : s.phase = .idle) :
    Kept { s with phase := .sending batch, produced := s.produced ++ [batch] } := by
  obtain ⟨⟨settled, hproduced, hsublist, hall, hcount⟩, hemitted, hlate, huntouched, -, -⟩ := h
  rw [hphase, Phase.batch, List.append_nil] at hproduced
  refine ⟨⟨settled, by rw [hproduced, Phase.batch], hsublist, hall, hcount⟩, hemitted, hlate,
    huntouched, ?_, ?_⟩
  · intro _ b
    exact ⟨nofun, nofun⟩
  · intro b hb
    cases hb

theorem step_kept (hs : Kept s) (h : Step s e t) : Kept t := by
  cases h with
  | publish batch hphase => exact hs.publish hphase
  | receive hreceive => exact hs.receive hreceive
  | step hstep =>
    cases publishStep_moves hs hstep with
    | sends hbatch hsend => exact hs.send hbatch hsend
    | drops hpolicy hphase => exact hs.drop hpolicy (by rw [hphase, Phase.batch])
    | loops hpolicy hphase =>
      refine hs.loop hpolicy (by rw [hphase, Phase.batch, Phase.batch]) ?_
      intro b hb
      cases hb
    | evicts hpolicy hphase hreceive => exact hs.evict hpolicy hphase hreceive
    | finds hpolicy hphase hempty =>
      refine hs.loop hpolicy (by rw [hphase, Phase.batch, Phase.batch]) ?_
      intro _ _
      rw [hempty]
      exact cfg.positive

theorem run_kept (h : Run Step s es t) (hs : Kept s) : Kept t :=
  h.invariant Kept (fun _ _ _ => step_kept) hs

theorem receivers (who : Receiver) : who = .consumer ∨ who = .producer := by
  cases who
  · exact Or.inl rfl
  · exact Or.inr rfl

theorem Kept.unevicted (h : Kept s) (hne : cfg.overflow ≠ .dropOldest) :
    s.delivered ++ s.queue.items = s.queue.sent :=
  takenBy_items receivers s.queue (h.untouched hne)

theorem Kept.delivered_sublist (h : Kept s) : s.delivered.Sublist s.produced := by
  obtain ⟨settled, hproduced, hsublist, -, -⟩ := h.settled
  have hsettled : settled.Sublist s.produced := by
    rw [hproduced]
    exact List.sublist_append_left _ _
  exact ((takenBy_sublist s.queue .consumer).trans hsublist).trans hsettled

/-- The books of a policy: the batches sent are the emitted ones. -/
def Balanced (s : Channel cfg β) : Prop :=
  match cfg.overflow with
  | .block => s.delivered ++ s.queue.items ++ s.phase.batch = s.produced ∧ s.samplesLate = 0
  | .dropNewest =>
    s.produced.length = s.samplesEmitted + s.samplesLate + s.phase.batch.length ∧
      s.delivered ++ s.queue.items = s.queue.sent
  | .dropOldest =>
    s.queue.sent ++ s.phase.batch = s.produced ∧ s.samplesLate = s.evicted.length ∧
      s.samplesEmitted = s.delivered.length + s.queue.items.length + s.evicted.length

theorem Kept.balanced (h : Kept s) : Balanced s := by
  obtain ⟨settled, hproduced, -, hall, hcount⟩ := h.settled
  simp only [Balanced]
  split
  · rename_i hpolicy
    have hnewest : cfg.overflow ≠ .dropNewest := by
      rw [hpolicy]
      decide
    have holdest : cfg.overflow ≠ .dropOldest := by
      rw [hpolicy]
      decide
    refine ⟨?_, ?_⟩
    · rw [h.unevicted holdest, hall hnewest, hproduced]
    · rw [h.late hnewest, h.untouched holdest, List.length_nil]
  · rename_i hpolicy
    have holdest : cfg.overflow ≠ .dropOldest := by
      rw [hpolicy]
      decide
    refine ⟨?_, h.unevicted holdest⟩
    rw [hproduced, List.length_append, hcount hpolicy]
  · rename_i hpolicy
    have hnewest : cfg.overflow ≠ .dropNewest := by
      rw [hpolicy]
      decide
    refine ⟨by rw [hall hnewest, hproduced], h.late hnewest, ?_⟩
    have hlength := sent_length receivers (by decide) s.queue
    rw [h.emitted, hlength]
    simp only [Channel.delivered, Channel.evicted]
    omega

/-- A step evicts nothing, or the batch at the head of the queue, which was produced before the one
being published. -/
def EvictsOldest (s t : Channel cfg β) : Prop :=
  t.evicted = s.evicted ∨
    ∃ oldest batch, s.queue.items = oldest :: t.queue.items ∧ s.phase = .evicting batch ∧
      t.evicted = s.evicted ++ [oldest] ∧
      s.produced = s.queue.taken.map Prod.snd ++ (oldest :: t.queue.items) ++ [batch]

theorem step_evictsOldest (hs : Kept s) (h : Step s e t) : EvictsOldest s t := by
  cases h with
  | publish batch hphase => exact Or.inl rfl
  | receive hreceive =>
    obtain ⟨-, -, htaken⟩ := receiveNowait_some hreceive
    refine Or.inl ?_
    simp only [Channel.evicted]
    rw [takenBy_append htaken, if_neg (by decide), List.append_nil]
  | step hstep =>
    cases publishStep_moves hs hstep with
    | sends hbatch hsend =>
      obtain ⟨-, -, -, htaken⟩ := sendNowait_some hsend
      exact Or.inl (takenBy_eq htaken)
    | drops hpolicy hphase => exact Or.inl rfl
    | loops hpolicy hphase => exact Or.inl rfl
    | finds hpolicy hphase hempty => exact Or.inl rfl
    | @evicts batch oldest queue hpolicy hphase hreceive =>
      obtain ⟨hitems, -, htaken⟩ := receiveNowait_some hreceive
      obtain ⟨settled, hproduced, -, hall, -⟩ := hs.settled
      refine Or.inr ⟨oldest, batch, hitems, hphase, ?_, ?_⟩
      · simp only [Channel.evicted]
        rw [takenBy_append htaken, if_pos rfl]
      · rw [hproduced, hphase, Phase.batch, ← hall (by rw [hpolicy]; decide), s.queue.balanced,
          hitems]

def WithinCall (_ : Channel cfg β) (e : Event β) : Prop := ∀ b, e ≠ .publish b

def Event.isStep : Event β → Bool
  | .step => true
  | _ => false

/-- A call is over after at most three of its steps. Until then it can take the next one, unless it
waits under `BLOCK` in front of a queue from which nobody has received. -/
def CallEnds (s : Channel cfg β) : Prop :=
  ∀ es t, Run (Guarded Step WithinCall) s es t →
    t.phase = .idle ∨
      es.countP Event.isStep < 3 ∧
        ((∃ u, publishStep t = some u) ∨
          cfg.overflow = .block ∧ t.queue.items.length = cfg.bufferSize ∧ Event.receive ∉ es)

theorem Phase.idle_of_rank {phase : Phase β} (h : phase.rank = 0) : phase = .idle := by
  cases phase
  · rfl
  all_goals cases h

theorem Moves.rank (h : Moves s t) : t.phase.rank < s.phase.rank := by
  cases h with
  | @sends batch queue hbatch hsend =>
    refine Nat.pos_of_ne_zero ?_
    intro hzero
    rw [Phase.idle_of_rank hzero, Phase.batch] at hbatch
    cases hbatch
  | drops hpolicy hphase =>
    rw [hphase]
    exact Nat.zero_lt_succ 2
  | loops hpolicy hphase =>
    rw [hphase]
    exact Nat.lt_succ_self 2
  | evicts hpolicy hphase hreceive =>
    rw [hphase]
    exact Nat.lt_succ_self 1
  | finds hpolicy hphase hempty =>
    rw [hphase]
    exact Nat.lt_succ_self 1

theorem run_rank (h : Run (Guarded Step WithinCall) s es t) (hs : Kept s) :
    t.phase.rank + es.countP Event.isStep ≤ s.phase.rank := by
  induction h with
  | nil s => exact Nat.le_refl _
  | @cons s e u es t he hrun ih =>
    have hrest := ih (step_kept hs he.2)
    rw [List.countP_cons]
    obtain ⟨hwithin, hstep⟩ := he
    cases hstep with
    | publish batch hphase => exact absurd rfl (hwithin batch)
    | receive hreceive => exact hrest
    | step hstep =>
      have hlower := (publishStep_moves hs hstep).rank
      simp only [Event.isStep, if_true]
      omega

/-- Room in the queue stays until the call is over, since nobody else sends. -/
def Roomy (s : Channel cfg β) : Prop := s.phase = .idle ∨ s.queue.items.length < cfg.bufferSize

theorem trySend_roomy {full : Option (Channel cfg β)} (hs : s.queue.items.length < cfg.bufferSize)
    (h : trySend s batch full = some t) : Roomy t := by
  rcases trySend_cases h with ⟨queue, -, rfl⟩ | ⟨hfull, -⟩
  · exact Or.inl rfl
  · omega

theorem publishStep_roomy (hs : s.queue.items.length < cfg.bufferSize)
    (h : publishStep s = some t) : Roomy t := by
  simp only [publishStep] at h
  split at h
  · cases h
  · exact trySend_roomy hs h
  · split at h
    · rename_i oldest queue hreceive
      obtain ⟨hitems, -, -⟩ := receiveNowait_some hreceive
      rw [hitems, List.length_cons] at hs
      cases h
      exact Or.inr (Nat.lt_of_succ_lt hs)
    · cases h
      exact Or.inr hs
  · exact trySend_roomy hs h

theorem receive_roomy {queue : Fifo Receiver β cfg.bufferSize}
    (h : s.queue.receiveNowait .consumer = some (batch, queue)) :
    Roomy { s with queue := queue } := by
  obtain ⟨hitems, -, -⟩ := receiveNowait_some h
  have hbounded := s.queue.bounded
  rw [hitems, List.length_cons] at hbounded
  exact Or.inr hbounded

theorem step_roomy (hs : Roomy s) (h : Guarded Step WithinCall s e t) : Roomy t := by
  obtain ⟨hwithin, hstep⟩ := h
  cases hstep with
  | publish batch hphase => exact absurd rfl (hwithin batch)
  | receive hreceive => exact receive_roomy hreceive
  | step hstep =>
    rcases hs with hidle | hroom
    · rw [publishStep, hidle] at hstep
      cases hstep
    · exact publishStep_roomy hroom hstep

theorem run_roomy (h : Run (Guarded Step WithinCall) s es t) (hreceive : Event.receive ∈ es) :
    Roomy t := by
  induction h with
  | nil s => cases hreceive
  | @cons s e u es t he hrun ih =>
    rcases List.mem_cons.mp hreceive with rfl | hlater
    · have hu : Roomy u := by
        cases he.2 with
        | receive hreceive => exact receive_roomy hreceive
      exact hrun.invariant Roomy (fun _ _ _ => step_roomy) hu
    · exact ih hlater

theorem publishStep_none (hphase : s.phase ≠ .idle) (h : publishStep s = none) :
    cfg.overflow = .block ∧ s.queue.items.length = cfg.bufferSize := by
  simp only [publishStep, trySend] at h
  split at h
  · rename_i hidle
    exact absurd hidle hphase
  · split at h
    · cases h
    · rename_i hnone
      split at h
      · rename_i hpolicy
        exact ⟨hpolicy, sendNowait_none_iff.mp hnone⟩
      · cases h
      · cases h
  · split at h
    · cases h
    · cases h
  · split at h
    · cases h
    · cases h

theorem Phase.rank_le (phase : Phase β) : phase.rank ≤ 3 := by
  cases phase <;> simp [Phase.rank]

theorem callEnds (hs : Kept s) : CallEnds s := by
  intro es t h
  by_cases hidle : t.phase = .idle
  · exact Or.inl hidle
  · have hrank := run_rank h hs
    have hbound := s.phase.rank_le
    have hpositive : t.phase.rank ≠ 0 := fun hzero => hidle (Phase.idle_of_rank hzero)
    refine Or.inr ⟨by omega, ?_⟩
    cases hnext : publishStep t with
    | some u => exact Or.inl ⟨u, rfl⟩
    | none =>
      obtain ⟨hpolicy, hfull⟩ := publishStep_none hidle hnext
      refine Or.inr ⟨hpolicy, hfull, ?_⟩
      intro hreceive
      rcases run_roomy h hreceive with hover | hroom
      · exact hidle hover
      · omega

/-- After every interleaving of a recording with its consumer the books balance, the next step
evicts at most the oldest batch, and the call that is going on ends. -/
theorem overflow_accounted (h : Run Step (initial cfg) es s) :
    s.delivered.Sublist s.produced ∧ s.queue.items.length ≤ cfg.bufferSize ∧
      s.samplesEmitted = s.queue.sent.length ∧ Balanced s ∧
      (∀ e t, Step s e t → EvictsOldest s t) ∧ CallEnds s := by
  have hkept := run_kept h initial_kept
  exact ⟨hkept.delivered_sublist, s.queue.bounded, hkept.emitted, hkept.balanced,
    fun _ _ => step_evictsOldest hkept, callEnds hkept⟩

theorem waiting_stays (hphase : s.phase ≠ .idle) (hwaits : publishStep s = none)
    (h : Run Step s es t) (hnone : Event.receive ∉ es) : t = s := by
  cases h with
  | nil => rfl
  | cons he hrun =>
    cases he with
    | publish batch hidle => exact absurd hidle hphase
    | step hstep =>
      rw [hwaits] at hstep
      cases hstep
    | receive hreceive => exact absurd List.mem_cons_self hnone

end Steps

def single (overflow : OverflowPolicy) : Setting := ⟨overflow, 1, Nat.le_refl 1⟩

def crowded (overflow : OverflowPolicy) : Channel (single overflow) ℕ :=
  ⟨⟨[1], [1], [], rfl, Nat.le_refl 1⟩, .sending 2, [1, 2], 1, 0⟩

theorem crowded_run (overflow : OverflowPolicy) :
    Run Step (initial (single overflow)) [.publish 1, .step, .publish 2] (crowded overflow) := by
  refine .cons (.publish 1 rfl) ?_
  refine .cons (.step rfl) ?_
  exact .cons (.publish 2 rfl) (.nil _)

def overtaken : Channel (single .dropOldest) ℕ :=
  ⟨⟨[], [1, 2], [(.producer, 1), (.consumer, 2)], rfl, Nat.zero_le 1⟩, .idle, [1, 2], 2, 1⟩

theorem overtaken_run :
    Run Step (initial (single .dropOldest))
      [.publish 1, .step, .publish 2, .step, .step, .step, .receive] overtaken := by
  refine .cons (.publish 1 rfl) ?_
  refine .cons (.step rfl) ?_
  refine .cons (.publish 2 rfl) ?_
  refine .cons (.step rfl) ?_
  refine .cons (.step rfl) ?_
  refine .cons (.step rfl) ?_
  exact .cons (.receive rfl) (.nil _)

theorem overtaken_accounted :
    overtaken.delivered = [2] ∧ overtaken.evicted = [1] ∧ Balanced overtaken ∧
      CallEnds overtaken := by
  obtain ⟨-, -, -, hbalanced, -, hends⟩ := overflow_accounted overtaken_run
  exact ⟨rfl, rfl, hbalanced, hends⟩

/-- Under `BLOCK` the second call never ends if the consumer never receives. -/
theorem blocked_waits :
    Run Step (initial (single .block)) [.publish 1, .step, .publish 2] (crowded .block) ∧
      ∀ es t, Run Step (crowded .block) es t → Event.receive ∉ es → t.phase = .sending 2 := by
  refine ⟨crowded_run .block, ?_⟩
  intro es t h hnone
  have hphase : (crowded .block).phase ≠ .idle := by
    intro hidle
    cases hidle
  have hwaits : publishStep (crowded .block) = none := rfl
  rw [waiting_stays hphase hwaits h hnone, crowded]

end RecorderOverflow
