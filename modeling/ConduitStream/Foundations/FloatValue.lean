import Mathlib.Algebra.Order.Floor.Ring
import Mathlib.Tactic.Linarith

/-! # Floating-point values without rounding

A float is a number of an ordered field, one of two infinities, or NaN. Arithmetic on numbers is
exact; NaN is passed on by arithmetic and compares as false with everything. A value is converted to
a 32-bit integer by cutting off its fraction, and the conversion is undefined for NaN, the infinities
and numbers that do not fit (`FloatValue.toInt32`).

A value between two numbers is a number (`FloatValue.exists_of_between`). -/

namespace ConduitStream

/-- A float. -/
inductive FloatValue (R : Type*)
  | nan
  | negInf
  | posInf
  | finite (x : R)
  deriving DecidableEq

namespace FloatValue

variable {R : Type*} [LinearOrder R]

/-- `a <= b`. -/
def le : FloatValue R → FloatValue R → Bool
  | nan, _ | _, nan => false
  | negInf, _ | _, posInf => true
  | posInf, _ | _, negInf => false
  | finite x, finite y => x ≤ y

/-- `a < b`. -/
def lt : FloatValue R → FloatValue R → Bool
  | nan, _ | _, nan => false
  | _, negInf | posInf, _ => false
  | negInf, _ | _, posInf => true
  | finite x, finite y => x < y

/-- **A value between two numbers is a number.** -/
theorem exists_of_between {a : FloatValue R} {x y : R} (hx : (finite x).le a = true)
    (hy : a.le (finite y) = true) : ∃ z, a = finite z ∧ x ≤ z ∧ z ≤ y := by
  cases a with
  | nan => cases hx
  | negInf => cases hx
  | posInf => cases hy
  | finite z => exact ⟨z, rfl, of_decide_eq_true hx, of_decide_eq_true hy⟩

variable [Field R]

/-- `a * c` for a positive number `c`. -/
def mulPos (c : R) : FloatValue R → FloatValue R
  | finite x => finite (x * c)
  | a => a

/-- `a / c` for a positive number `c`. -/
def divPos (c : R) : FloatValue R → FloatValue R
  | finite x => finite (x / c)
  | a => a

/-- `a + c` for a number `c`. -/
def addFinite (c : R) : FloatValue R → FloatValue R
  | finite x => finite (x + c)
  | a => a

variable [FloorRing R]

/-- The integer part, towards zero. -/
def integerPart (x : R) : ℤ := if 0 ≤ x then ⌊x⌋ else ⌈x⌉

/-- `(int32_t)a`; `none` where the conversion is undefined. -/
def toInt32 : FloatValue R → Option (BitVec 32)
  | finite x =>
    if -2 ^ 31 ≤ integerPart x ∧ integerPart x < 2 ^ 31 then some (BitVec.ofInt 32 (integerPart x))
    else none
  | _ => none

/-- NaN has no integer part, so its conversion is not defined. -/
@[simp] theorem toInt32_nan : (nan : FloatValue R).toInt32 = none := rfl

/-- A number from zero up to below an integer that fits is converted to its integer part. -/
theorem toInt32_of_nonneg [IsStrictOrderedRing R] {x : R} {n : ℕ} (h0 : 0 ≤ x)
    (hn : x < (n : R) + 1) (hfits : n < 2 ^ 31) :
    ∃ q, (finite x).toInt32 = some q ∧ 0 ≤ q.toInt ∧ q.toInt ≤ n := by
  have hpart : integerPart x = ⌊x⌋ := if_pos h0
  have hlow : 0 ≤ ⌊x⌋ := Int.floor_nonneg.mpr h0
  have hhigh : ⌊x⌋ ≤ n := by
    have hlt : ⌊x⌋ < (n : ℤ) + 1 := by
      rw [Int.floor_lt]
      push_cast
      exact hn
    omega
  have hval : (BitVec.ofInt 32 ⌊x⌋).toInt = ⌊x⌋ := by
    rw [BitVec.toInt_ofInt]
    exact Int.bmod_eq_of_le (by omega) (by omega)
  refine ⟨BitVec.ofInt 32 ⌊x⌋, ?_, ?_, ?_⟩
  · rw [toInt32, hpart, if_pos]
    omega
  · rw [hval]
    exact hlow
  · rw [hval]
    exact hhigh

end FloatValue

end ConduitStream
