import Mathlib.Data.List.Basic

/-! # Runs of a deterministic machine

A machine is a step function `σ → ο → σ × α`: it takes an operation, moves to a new state and
gives an answer. `runOps` executes a list of operations and collects the answers; `Admitted`
says that every operation of a run meets its precondition in the state it is executed in. The
induction over runs is done once here:

* `runOps_invariant`: what every admitted step preserves holds at the end of an admitted run;
* `runOps_related`: two machines that stay related step by step are related at the end of every
  admitted run;
* `runOps_simulation`: two machines related step by step give the same answers on every admitted
  run, and end in related states. -/

namespace ConduitStream

universe u v w x

variable {σ : Type u} {τ : Type v} {ο : Type w} {α : Type x}

/-- Execute the operations in order; the final state and the answers. -/
def runOps (step : σ → ο → σ × α) : σ → List ο → σ × List α
  | s, [] => (s, [])
  | s, o :: os => ((runOps step (step s o).1 os).1, (step s o).2 :: (runOps step (step s o).1 os).2)

/-- The empty run stays where it is. -/
@[simp] theorem runOps_nil (step : σ → ο → σ × α) (s : σ) : runOps step s [] = (s, []) := rfl

/-- A run is its first step and the run behind it. -/
@[simp] theorem runOps_cons (step : σ → ο → σ × α) (s : σ) (o : ο) (os : List ο) :
    runOps step s (o :: os)
      = ((runOps step (step s o).1 os).1, (step s o).2 :: (runOps step (step s o).1 os).2) := rfl

/-- Running two lists of operations one after the other. -/
theorem runOps_append (step : σ → ο → σ × α) (s : σ) (os os' : List ο) :
    runOps step s (os ++ os')
      = ((runOps step (runOps step s os).1 os').1,
          (runOps step s os).2 ++ (runOps step (runOps step s os).1 os').2) := by
  induction os generalizing s with
  | nil => rfl
  | cons o os ih => simp [ih]

/-- Running one more operation at the end. -/
theorem runOps_concat (step : σ → ο → σ × α) (s : σ) (os : List ο) (o : ο) :
    runOps step s (os ++ [o])
      = ((step (runOps step s os).1 o).1,
          (runOps step s os).2 ++ [(step (runOps step s os).1 o).2]) := by
  rw [runOps_append]
  rfl

/-- Every operation of the run meets its precondition where it is executed. -/
def Admitted (step : σ → ο → σ × α) (ok : σ → ο → Prop) : σ → List ο → Prop
  | _, [] => True
  | s, o :: os => ok s o ∧ Admitted step ok (step s o).1 os

/-- Nothing is asked of the empty run. -/
@[simp] theorem admitted_nil (step : σ → ο → σ × α) (ok : σ → ο → Prop) (s : σ) :
    Admitted step ok s [] := trivial

/-- A run is admitted if its first step is, and the run behind it. -/
@[simp] theorem admitted_cons (step : σ → ο → σ × α) (ok : σ → ο → Prop) (s : σ) (o : ο)
    (os : List ο) :
    Admitted step ok s (o :: os) ↔ ok s o ∧ Admitted step ok (step s o).1 os := Iff.rfl

/-- A machine without preconditions admits every run. -/
theorem admitted_of_forall {step : σ → ο → σ × α} {ok : σ → ο → Prop} (h : ∀ s o, ok s o) (s : σ)
    (os : List ο) : Admitted step ok s os := by
  induction os generalizing s with
  | nil => trivial
  | cons o os ih => exact ⟨h s o, ih _⟩

/-- A run of two lists is admitted if the first is, and the second from where the first ends. -/
theorem admitted_append {step : σ → ο → σ × α} {ok : σ → ο → Prop} {s : σ} {os os' : List ο} :
    Admitted step ok s (os ++ os') ↔
      Admitted step ok s os ∧ Admitted step ok (runOps step s os).1 os' := by
  induction os generalizing s with
  | nil => exact (and_iff_right trivial).symm
  | cons o os ih => rw [List.cons_append, admitted_cons, ih, admitted_cons, and_assoc, runOps_cons]

/-- **Run invariant.** What every admitted step preserves holds after every admitted run. -/
theorem runOps_invariant {step : σ → ο → σ × α} {ok : σ → ο → Prop} {I : σ → Prop}
    (hstep : ∀ s o, I s → ok s o → I (step s o).1) {s : σ} {os : List ο} (hs : I s)
    (hos : Admitted step ok s os) : I (runOps step s os).1 := by
  induction os generalizing s with
  | nil => exact hs
  | cons o os ih => exact ih (hstep s o hs hos.1) hos.2

/-- **Relation of two runs.** If related states stay related under every operation admitted by the
second machine, the ends of the two runs are related. -/
theorem runOps_related {α' : Type*} {f : σ → ο → σ × α} {g : τ → ο → τ × α'} {ok : τ → ο → Prop}
    {R : σ → τ → Prop} (hstep : ∀ s t o, R s t → ok t o → R (f s o).1 (g t o).1) {s : σ} {t : τ}
    {os : List ο} (hR : R s t) (hos : Admitted g ok t os) :
    R (runOps f s os).1 (runOps g t os).1 := by
  induction os generalizing s t with
  | nil => exact hR
  | cons o os ih => exact ih (hstep s t o hR hos.1) hos.2

/-- **Simulation.** If related states give equal answers to every operation admitted by the second
machine and stay related, the two machines give the same answers on every run admitted by it. -/
theorem runOps_simulation {f : σ → ο → σ × α} {g : τ → ο → τ × α} {ok : τ → ο → Prop}
    {R : σ → τ → Prop}
    (hstep : ∀ s t o, R s t → ok t o → R (f s o).1 (g t o).1 ∧ (f s o).2 = (g t o).2)
    {s : σ} {t : τ} {os : List ο} (hR : R s t) (hos : Admitted g ok t os) :
    R (runOps f s os).1 (runOps g t os).1 ∧ (runOps f s os).2 = (runOps g t os).2 := by
  induction os generalizing s t with
  | nil => exact ⟨hR, rfl⟩
  | cons o os ih =>
      obtain ⟨hR', heq⟩ := hstep s t o hR hos.1
      obtain ⟨hRn, heqs⟩ := ih hR' hos.2
      exact ⟨hRn, by rw [runOps_cons, runOps_cons, heq, heqs]⟩

end ConduitStream
