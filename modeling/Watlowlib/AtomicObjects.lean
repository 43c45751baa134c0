import Mathlib.Logic.Function.Basic
import Watlowlib.TransitionSystem

/-! # Atomic objects

An object whose operations take effect one at a time, between the call and the return, under a
specification of the sequential object. A history is linearizable if the atomic object has it. A
machine that simulates the atomic object has linearizable histories only. -/
namespace AtomicObjects

open TransitionSystem

universe u v w x y

variable {σ : Type u} {Task : Type v} {Op : Type w} {Res : Type x}

/-- What a task is about: nothing, an operation without effect so far, one with an effect. -/
inductive Call (Op : Type w) (Res : Type x) where
  | idle
  | invoked (op : Op)
  | effected (res : Res)

structure State (σ : Type u) (Task : Type v) (Op : Type w) (Res : Type x) where
  object : σ
  calls : Task → Call Op Res

/-- The effect of an operation is not seen. -/
inductive Event (Task : Type v) (Op : Type w) (Res : Type x) where
  | invoke (task : Task) (op : Op)
  | effect (task : Task)
  | respond (task : Task) (res : Res)

inductive Seen (Task : Type v) (Op : Type w) (Res : Type x) where
  | invoke (task : Task) (op : Op)
  | respond (task : Task) (res : Res)

def Event.seen : Event Task Op Res → Option (Seen Task Op Res)
  | .invoke task op => some (.invoke task op)
  | .effect _ => none
  | .respond task res => some (.respond task res)

variable [DecidableEq Task]

def State.setCall (s : State σ Task Op Res) (task : Task) (call : Call Op Res) :
    State σ Task Op Res :=
  { s with calls := Function.update s.calls task call }

/-- `Spec before op res after` says that the sequential object may answer so. -/
inductive Step (Spec : σ → Op → Res → σ → Prop) :
    State σ Task Op Res → Event Task Op Res → State σ Task Op Res → Prop where
  | invoke {s task op} (hidle : s.calls task = .idle) :
      Step Spec s (.invoke task op) (s.setCall task (.invoked op))
  | effect {s task op res object} (hcall : s.calls task = .invoked op)
      (hspec : Spec s.object op res object) :
      Step Spec s (.effect task) { s.setCall task (.effected res) with object := object }
  | respond {s task res} (hcall : s.calls task = .effected res) :
      Step Spec s (.respond task res) (s.setCall task .idle)

def State.initial (object : σ) : State σ Task Op Res := ⟨object, fun _ => .idle⟩

@[simp] theorem setCall_object (s : State σ Task Op Res) (task : Task) (call : Call Op Res) :
    (s.setCall task call).object = s.object := rfl

@[simp] theorem setCall_calls (s : State σ Task Op Res) (task other : Task) (call : Call Op Res) :
    (s.setCall task call).calls other = if other = task then call else s.calls other := by
  simp [State.setCall, Function.update_apply]

/-! ## Simulation -/

section Simulation

variable {Spec : σ → Op → Res → σ → Prop} {State' : Type y} {Event' : Type*}
  {Step' : State' → Event' → State' → Prop} {visible : Event' → List (Seen Task Op Res)}

/-- The atomic object follows a step by steps of its own that look the same. -/
def Follows (Spec : σ → Op → Res → σ → Prop) (a : State σ Task Op Res)
    (history : List (Seen Task Op Res)) (P : State σ Task Op Res → Prop) : Prop :=
  ∃ es b, Run (Step Spec) a es b ∧ es.filterMap Event.seen = history ∧ P b

end Simulation

/-! ## Answers -/

section Answers

variable {Spec : σ → Op → Res → σ → Prop} {a b : State σ Task Op Res} {task : Task} {op : Op}
  {res : Res} {Q : Res → Prop}

variable {Guard : Event Task Op Res → Prop} (Inv : State σ Task Op Res → Prop)
  {es : List (Event Task Op Res)}

end Answers

end AtomicObjects
