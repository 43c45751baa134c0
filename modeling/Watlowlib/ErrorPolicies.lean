import Watlowlib.ManagerPolling

/-! # The error policy of a manager

`execute_each` and `poll` collect one result for each device. Under `RAISE` the first raises the
errors among them as a group; the second never asks for the policy. -/
namespace ErrorPolicies

open Dictionaries Manager ManagerBookkeeping ManagerCalls ManagerPolling PythonValues TaskGroups
  TransitionSystem WatlowErrors

inductive ErrorPolicy where
  | raises
  | returns
  deriving DecidableEq, Repr

structure DeviceResult (α : Type) where
  value : Option α
  error : Option PyError

def DeviceResult.success {α : Type} (value : α) : DeviceResult α := ⟨some value, none⟩

def DeviceResult.failure {α : Type} (error : PyError) : DeviceResult α := ⟨none, some error⟩

variable {α : Type}

def resultOf : Except PyError α → DeviceResult α
  | .ok value => .success value
  | .error e => .failure e

def errorOf : Except PyError α → Option PyError
  | .ok _ => none
  | .error e => some e

def results (log : List (String × Except PyError α)) : Dict String (DeviceResult α) :=
  log.foldl (fun d e => d.insert e.1 (resultOf e.2)) ∅

def errors (log : List (String × Except PyError α)) : List PyError :=
  log.filterMap fun e => errorOf e.2

/-- The end of `poll`. The policy is not looked at. -/
def poll (_policy : ErrorPolicy) (log : List (String × Except PyError α)) :
    Except (List PyError) (Dict String (DeviceResult α)) :=
  .ok (results log)

/-- The end of `execute_each`; an error is the group that is raised. -/
def executeEach (policy : ErrorPolicy) (log : List (String × Except PyError α)) :
    Except (List PyError) (Dict String (DeviceResult α)) :=
  if policy = .raises ∧ errors log ≠ [] then .error (errors log) else .ok (results log)

section Collecting

variable {outcome : String → Except PyError α} {log : List (String × Except PyError α)}
  {targets : List String}

theorem foldl_results (d : Dict String (DeviceResult α))
    (h : ∀ e ∈ log, e.2 = outcome e.1) (name : String) :
    (log.foldl (fun d e => d.insert e.1 (resultOf e.2)) d).lookup name =
      if name ∈ log.map Prod.fst then some (resultOf (outcome name)) else d.lookup name := by
  induction log generalizing d with
  | nil => simp
  | cons e log ih =>
    rw [List.foldl_cons, ih _ fun e' he' => h e' (List.mem_cons_of_mem _ he'), lookup_insert_eq,
      h e List.mem_cons_self]
    by_cases hname : name = e.1
    · subst hname
      simp
    · simp only [List.map_cons, List.mem_cons, hname, false_or, if_false]

/-- The full mapping: one result for each target, made of its own outcome. -/
def Full (targets : List String) (outcome : String → Except PyError α)
    (d : Dict String (DeviceResult α)) : Prop :=
  ∀ name, d.lookup name = if name ∈ targets then some (resultOf (outcome name)) else none

theorem results_full (hperm : (log.map Prod.fst).Perm targets)
    (h : ∀ e ∈ log, e.2 = outcome e.1) : Full targets outcome (results log) := by
  intro name
  have hlookup := foldl_results ∅ h name
  simpa [results, hperm.mem_iff] using hlookup

theorem errors_perm (hperm : (log.map Prod.fst).Perm targets)
    (h : ∀ e ∈ log, e.2 = outcome e.1) :
    (errors log).Perm (targets.filterMap fun name => errorOf (outcome name)) := by
  refine List.Perm.trans (.of_eq ?_) (hperm.filterMap _)
  rw [List.filterMap_map]
  exact List.filterMap_congr fun e he => congrArg errorOf (h e he)

def Fails (outcome : String → Except PyError α) (name : String) : Prop :=
  ∃ e, outcome name = .error e

theorem noErrors_iff :
    targets.filterMap (fun name => errorOf (outcome name)) = [] ↔
      ∀ name ∈ targets, ¬ Fails outcome name := by
  rw [List.filterMap_eq_nil_iff]
  refine forall_congr' fun name => forall_congr' fun _ => ?_
  cases h : outcome name <;> simp [errorOf, Fails, h]

end Collecting

section Policies

variable {outcome : String → Except PyError α} {targets : List String}

/-- What the policies promise of a call over the targets. -/
structure Obeys (policy : ErrorPolicy) (targets : List String)
    (outcome : String → Except PyError α)
    (r : Except (List PyError) (Dict String (DeviceResult α))) : Prop where
  returned : policy = .returns ∨ (∀ name ∈ targets, ¬ Fails outcome name) →
    ∃ d, r = .ok d ∧ Full targets outcome d
  raised : policy = .raises → (∃ name ∈ targets, Fails outcome name) →
    ∃ group, r = .error group ∧
      group.Perm (targets.filterMap fun name => errorOf (outcome name))

def answersWith (outcome : String → Except PyError α) :
    String → DeviceEntry → Except PyError α → Prop :=
  fun name _ a => a = outcome name

/-- The log of a call that has ended: each target once, with its own outcome. -/
structure Logged (targets : List String) (outcome : String → Except PyError α)
    (log : List (String × Except PyError α)) : Prop where
  targets : (log.map Prod.fst).Perm targets
  own : ∀ e ∈ log, e.2 = outcome e.1

theorem executeEach_obeys {log : List (String × Except PyError α)}
    (h : Logged targets outcome log) (policy : ErrorPolicy) :
    Obeys policy targets outcome (executeEach policy log) := by
  have hperm := errors_perm h.targets h.own
  have hnone : errors log = [] ↔ ∀ name ∈ targets, ¬ Fails outcome name :=
    Iff.trans ⟨fun he => List.Perm.eq_nil (he ▸ hperm.symm), fun he => (he ▸ hperm).eq_nil⟩
      noErrors_iff
  simp only [executeEach]
  constructor
  · intro hcases
    refine ⟨results log, if_neg ?_, results_full h.targets h.own⟩
    rintro ⟨rfl, hsome⟩
    rcases hcases with hpolicy | hall
    · cases hpolicy
    · exact hsome (hnone.mpr hall)
  · rintro rfl ⟨name, hname, hfails⟩
    exact ⟨errors log, if_pos ⟨rfl, fun he => hnone.mp he name hname hfails⟩, hperm⟩

theorem poll_obeys_iff {log : List (String × Except PyError α)}
    (h : Logged targets outcome log) (policy : ErrorPolicy) :
    Obeys policy targets outcome (poll policy log) ↔
      policy = .returns ∨ ∀ name ∈ targets, ¬ Fails outcome name := by
  constructor
  · intro hobeys
    by_cases hpolicy : policy = .returns
    · exact Or.inl hpolicy
    · right
      intro name hname hfails
      have hraises : policy = .raises := by
        cases policy with
        | raises => rfl
        | returns => exact absurd rfl hpolicy
      obtain ⟨group, hgroup, -⟩ := hobeys.raised hraises ⟨name, hname, hfails⟩
      cases hgroup
  · intro hcases
    refine ⟨fun _ => ⟨results log, rfl, results_full h.targets h.own⟩, ?_⟩
    rintro rfl ⟨name, hname, hfails⟩
    rcases hcases with hpolicy | hall
    · cases hpolicy
    · exact absurd hfails (hall name hname)

variable {s t t' : Polling α} {es es' : List PollEvent}

theorem keptRun_unaborted (hwatlow : ∀ name e, outcome name = .error e → e.IsWatlow)
    (h : Survives (eachJob (answersWith outcome)) targets s es t) : t.aborted = none := by
  cases ha : t.aborted with
  | none => rfl
  | some a =>
    cases a with
    | missing name => exact absurd ha (h.found name)
    | fatal answer =>
      obtain ⟨name, d, hanswer, hfatal⟩ := h.stopped answer ha
      cases answer with
      | ok value => cases hfatal
      | error e =>
        have hkind := hwatlow name e (Eq.symm hanswer)
        simp [eachJob, hkind] at hfatal

theorem survives_logged (h : Survives (eachJob (answersWith outcome)) targets s es t)
    (hend : t.Ended) : Logged targets outcome t.log := by
  obtain ⟨hperm, hown⟩ := h.complete hend
  refine ⟨hperm, ?_⟩
  intro e he
  obtain ⟨d, hanswer, -⟩ := hown e he
  exact hanswer

theorem keptRun_canEnd {devices : Dict String DeviceEntry} {names : Option (List String)}
    (hwatlow : ∀ name e, outcome name = .error e → e.IsWatlow)
    (htargets : resolveNames devices names = .ok targets) (hstart : start devices names = .ok s)
    (h : KeptRun (eachJob (answersWith outcome)) s es t) :
    ∃ later u, KeptRun (eachJob (answersWith outcome)) t later u ∧ u.Ended := by
  induction hwork : t.work using Nat.strong_induction_on generalizing es t with
  | _ work ih =>
    have hsurvives := keptRun_survives rfl htargets hstart h
    rcases hsurvives.goesOn (fun name _ => ⟨outcome name, rfl⟩)
      (keptRun_unaborted hwatlow hsurvives) with hend | ⟨u, hturn⟩
    · exact ⟨[], t, .nil t, hend⟩
    · have hless : u.work < work := hwork ▸ Step.work hturn
      have hstep : Guarded (PollStep (eachJob (answersWith outcome))) KeepsTargets t .turn u :=
        ⟨trivial, hturn⟩
      obtain ⟨later, v, hlater, hend⟩ := ih u.work hless (h.append (Run.single hstep)) rfl
      exact ⟨.turn :: later, v, .cons hstep hlater, hend⟩

/-- Over any targets, ports and orders of completion, with any outcomes that are values or typed
errors: neither call is aborted, each can get to its end, and both obey the policy just when it is
`RETURN` or nothing fails. -/
theorem policies_obeyed_iff (policy : ErrorPolicy) {devices : Dict String DeviceEntry}
    {names : Option (List String)} (hwatlow : ∀ name e, outcome name = .error e → e.IsWatlow)
    (htargets : resolveNames devices names = .ok targets) (hstart : start devices names = .ok s)
    (hpoll : KeptRun (eachJob (answersWith outcome)) s es t)
    (heach : KeptRun (eachJob (answersWith outcome)) s es' t') :
    t.aborted = none ∧ t'.aborted = none ∧
      (∃ later u, KeptRun (eachJob (answersWith outcome)) t later u ∧ u.Ended) ∧
      (∃ later u, KeptRun (eachJob (answersWith outcome)) t' later u ∧ u.Ended) ∧
      (t.Ended → t'.Ended → ((Obeys policy targets outcome (poll policy t.log) ∧
          Obeys policy targets outcome (executeEach policy t'.log)) ↔
        policy = .returns ∨ ∀ name ∈ targets, ¬ Fails outcome name)) := by
  have hp := keptRun_survives rfl htargets hstart hpoll
  have he := keptRun_survives rfl htargets hstart heach
  refine ⟨keptRun_unaborted hwatlow hp, keptRun_unaborted hwatlow he,
    keptRun_canEnd hwatlow htargets hstart hpoll, keptRun_canEnd hwatlow htargets hstart heach, ?_⟩
  intro hend hend'
  have hboth := executeEach_obeys (survives_logged he hend') policy
  rw [← poll_obeys_iff (survives_logged hp hend) policy]
  exact and_iff_left hboth

theorem own_turn (s : Polling α)
    (before behind : List (Worker String DeviceEntry (Except PyError α)))
    (w : Worker String DeviceEntry (Except PyError α)) (answer : Except PyError α)
    (hlive : s.aborted = none) (hw : w ≠ .finished) (hworkers : s.workers = before ++ w :: behind)
    (hanswer : ∀ item handle todo got, w = .busy item handle todo got → answer = outcome item) :
    Guarded (PollStep (eachJob (answersWith outcome))) KeepsTargets s .turn
      (s.after before behind (takeTurn (eachJob (answersWith outcome)) s.table answer w)) :=
  ⟨trivial, .turn answer hlive hw hworkers hanswer⟩

def timedOut : PyError := ⟨.timeout, [.text "no response"], {}⟩

def fanSilent : String → Except PyError ℤ
  | "fan" => .error timedOut
  | _ => .ok 20

theorem fanSilent_run : ∃ es t, KeptRun (eachJob (answersWith fanSilent)) pollAll es t ∧ t.Ended ∧
    t.log = [("oven", .ok 20), ("fan", .error timedOut)] := by
  refine ⟨[.turn, .turn, .turn, .turn, .turn, .turn], _,
    .cons (own_turn _ [] [.waiting ["fan"]] (.waiting ["oven"]) (.ok 20) rfl (by simp) rfl
      (by simp))
    (.cons (own_turn _ [.busy "oven" _ [] []] [] (.waiting ["fan"]) (.ok 20) rfl (by simp) rfl
      (by simp))
    (.cons (own_turn _ [] [.busy "fan" _ [] []] (.busy "oven" _ [] []) (.ok 20) rfl (by simp) rfl
      ?_)
    (.cons (own_turn _ [.storing [] [("oven", .ok 20)]] [] (.busy "fan" _ [] [])
      (.error timedOut) rfl (by simp) rfl ?_)
    (.cons (own_turn _ [] [.storing [] [("fan", .error timedOut)]]
      (.storing [] [("oven", .ok 20)]) (.ok 20) rfl (by simp) rfl (by simp))
    (.cons (own_turn _ [.finished] [] (.storing [] [("fan", .error timedOut)]) (.ok 20) rfl
      (by simp) rfl (by simp)) (.nil _)))))), ?_, rfl⟩
  · intro item handle todo got h
    cases h
    rfl
  · intro item handle todo got h
    cases h
    rfl
  · refine ⟨rfl, ?_⟩
    intro w hw
    rcases List.mem_cons.mp hw with rfl | hw
    · rfl
    · exact List.mem_singleton.mp hw

theorem fanSilent_typed : ∀ name e, fanSilent name = .error e → e.IsWatlow := by
  intro name e h
  simp only [fanSilent] at h
  split at h
  · cases h
    decide
  · cases h

theorem fanSilent_returned :
    ∃ es t, KeptRun (eachJob (answersWith fanSilent)) pollAll es t ∧ t.Ended ∧
      Obeys .returns ["oven", "fan"] fanSilent (poll .returns t.log) ∧
      Obeys .returns ["oven", "fan"] fanSilent (executeEach .returns t.log) := by
  obtain ⟨es, t, hrun, hend, -⟩ := fanSilent_run
  obtain ⟨-, -, -, -, hobeys⟩ :=
    @policies_obeyed_iff _ _ _ pollAll _ _ _ _ .returns twoPorts.devices none fanSilent_typed rfl
      rfl hrun hrun
  exact ⟨es, t, hrun, hend, (hobeys hend hend).mpr (Or.inl rfl)⟩

/-- Under `RAISE` the fan's error makes `execute_each` raise. `poll` returns it in the mapping. -/
theorem poll_ignores_raise :
    ∃ es t, KeptRun (eachJob (answersWith fanSilent)) pollAll es t ∧ t.Ended ∧
      executeEach .raises t.log = .error [timedOut] ∧
      (∃ d, poll .raises t.log = .ok d ∧ d.lookup "fan" = some (.failure timedOut)) ∧
      ¬ Obeys .raises ["oven", "fan"] fanSilent (poll .raises t.log) := by
  obtain ⟨es, t, hrun, hend, hlog⟩ := fanSilent_run
  refine ⟨es, t, hrun, hend, ?_⟩
  rw [hlog]
  refine ⟨rfl, ⟨_, rfl, rfl⟩, ?_⟩
  intro h
  obtain ⟨group, hgroup, -⟩ := h.raised rfl ⟨"fan", by simp, timedOut, rfl⟩
  cases hgroup

end Policies

end ErrorPolicies
