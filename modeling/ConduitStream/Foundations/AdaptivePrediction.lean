import Mathlib.Algebra.Order.Ring.Int
import Mathlib.Data.Int.Order.Basic
import Mathlib.Tactic.Common

/-! # Adaptive prediction

A list of samples is sent as the errors of a prediction that both sides compute from what came before.
The prediction is a machine: from its state comes the next value predicted, and with the error and the
sample it goes on to the next state. Samples and errors are numbers modulo `modulus`, each the
representative nearest to 0.

* `Predictor.restore` makes samples of errors, and `Predictor.residuals` errors of samples; the two are
  inverse to each other (`restore_residuals`, `residuals_restore`), whatever the machine predicts;
* `Predictor.restore_append`: errors may be restored in parts. -/

namespace ConduitStream

/-- A machine that predicts numbers modulo `modulus`. -/
structure Predictor (σ : Type) where
  modulus : ℕ
  predict : σ → ℤ
  update : σ → (error sample : ℤ) → σ

namespace Predictor

variable {σ : Type} (P : Predictor σ)

/-- The number is the representative of its class. -/
def InRange (x : ℤ) : Prop := x.bmod P.modulus = x

/-- A residue nearest to zero is in range. -/
theorem inRange_bmod (x : ℤ) : P.InRange (x.bmod P.modulus) := Int.bmod_bmod

/-- The sample of an error. -/
def sample (s : σ) (error : ℤ) : ℤ := (P.predict s + error).bmod P.modulus

/-- The error of a sample. -/
def error (s : σ) (sample : ℤ) : ℤ := (sample - P.predict s).bmod P.modulus

/-- The samples of a list of errors. -/
def restore : σ → List ℤ → List ℤ
  | _, [] => []
  | s, e :: es => P.sample s e :: restore (P.update s e (P.sample s e)) es

/-- The errors of a list of samples. -/
def residuals : σ → List ℤ → List ℤ
  | _, [] => []
  | s, x :: xs => P.error s x :: residuals (P.update s (P.error s x) x) xs

/-- The state behind a list of errors. -/
def after : σ → List ℤ → σ
  | s, [] => s
  | s, e :: es => after (P.update s e (P.sample s e)) es

/-- Each residual restores one sample, so there are as many of both. -/
@[simp] theorem length_restore (s : σ) (es : List ℤ) : (P.restore s es).length = es.length := by
  induction es generalizing s with
  | nil => rfl
  | cons e es ih => rw [restore, List.length_cons, ih, List.length_cons]

/-- Each sample leaves one residual, so there are as many of both. -/
@[simp] theorem length_residuals (s : σ) (xs : List ℤ) : (P.residuals s xs).length = xs.length := by
  induction xs generalizing s with
  | nil => rfl
  | cons x xs ih => rw [residuals, List.length_cons, ih, List.length_cons]

/-- **The samples come back** from their errors. -/
theorem restore_residuals {xs : List ℤ} (hxs : ∀ x ∈ xs, P.InRange x) (s : σ) :
    P.restore s (P.residuals s xs) = xs := by
  induction xs generalizing s with
  | nil => rfl
  | cons x xs ih =>
      have hx : P.sample s (P.error s x) = x := by
        have hrange := hxs x List.mem_cons_self
        rw [sample, error, Int.add_bmod_bmod, add_sub_cancel]
        exact hrange
      rw [residuals, restore, hx, ih fun y hy => hxs y (List.mem_cons_of_mem _ hy)]

/-- So do the errors, from the samples. -/
theorem residuals_restore {es : List ℤ} (hes : ∀ e ∈ es, P.InRange e) (s : σ) :
    P.residuals s (P.restore s es) = es := by
  induction es generalizing s with
  | nil => rfl
  | cons e es ih =>
      have he : P.error s (P.sample s e) = e := by
        have hrange := hes e List.mem_cons_self
        rw [sample, error, Int.bmod_sub_bmod, add_sub_cancel_left]
        exact hrange
      rw [restore, residuals, he, ih fun d hd => hes d (List.mem_cons_of_mem _ hd)]

/-- Every residual is in range, as it is a residue nearest to zero. -/
theorem inRange_of_mem_residuals {s : σ} {xs : List ℤ} {e : ℤ} (he : e ∈ P.residuals s xs) :
    P.InRange e := by
  induction xs generalizing s with
  | nil => cases he
  | cons x xs ih =>
      rw [residuals] at he
      rcases List.mem_cons.mp he with rfl | he
      · exact P.inRange_bmod _
      · exact ih he

/-- So is every sample that is restored. -/
theorem inRange_of_mem_restore {s : σ} {es : List ℤ} {x : ℤ} (hx : x ∈ P.restore s es) :
    P.InRange x := by
  induction es generalizing s with
  | nil => cases hx
  | cons e es ih =>
      rw [restore] at hx
      rcases List.mem_cons.mp hx with rfl | hx
      · exact P.inRange_bmod _
      · exact ih hx

/-- Residuals are restored in parts, the second from where the first has ended. -/
theorem restore_append (s : σ) (es es' : List ℤ) :
    P.restore s (es ++ es') = P.restore s es ++ P.restore (P.after s es) es' := by
  induction es generalizing s with
  | nil => rfl
  | cons e es ih => rw [List.cons_append, restore, ih, restore, after, List.cons_append]

end Predictor

end ConduitStream
