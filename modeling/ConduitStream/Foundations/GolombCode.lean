import Mathlib.Data.Nat.Log
import ConduitStream.Foundations.BitReading

/-! # Golomb codes

A number is written as its quotient by a modulus, in unary, and its remainder. The remainder is written in
`k` bits, or in one less if it is 0, which is a prefix code for every modulus below `2 ^ k`. A quotient
beyond a limit is cut, and the number follows in full.

* `golombCode` is the code of a number, `golombRemainder` that of its remainder;
* `consumes_unary_lt` and `consumes_unary_eq`: a reader that counts ones, up to a limit. -/

namespace ConduitStream

/-- The bits of a remainder. -/
def golombRemainder (k r : ℕ) : List Bool :=
  if r = 0 then List.replicate (k - 1) false else wordBits k (r + 1)

/-- The bits of a number: ones and a zero for the quotient, and the remainder; or `limit + 1` ones, and the
number in `size` bits. -/
def golombCode (limit size k modulus v : ℕ) : List Bool :=
  if v / modulus ≤ limit then
    List.replicate (v / modulus) true ++ false :: golombRemainder k (v % modulus)
  else List.replicate (limit + 1) true ++ wordBits size v

section Unary

variable {σ : Type} {B : BitSource σ} {readbit : BitReading σ Bool}

/-- Count ones from `x` on, at most `n` more. -/
def readUnary (readbit : BitReading σ Bool) : ℕ → ℕ → BitReading σ ℕ
  | 0, x => return x
  | n + 1, x => do
      let b ← readbit
      if b then readUnary readbit n (x + 1) else return x

variable (hbit : ∀ b, Consumes B readbit [b] b)
include hbit

/-- A zero ends the count of ones, which is then below the limit. -/
theorem consumes_unary_lt {n q : ℕ} (hq : q < n) (x : ℕ) :
    Consumes B (readUnary readbit n x) (List.replicate q true ++ [false]) (x + q) := by
  induction n generalizing q x with
  | zero => exact absurd hq (Nat.not_lt_zero q)
  | succ n ih =>
      cases q with
      | zero => exact (hbit false).bind (consumes_pure x)
      | succ q =>
          have hrest := ih (Nat.lt_of_succ_lt_succ hq) (x + 1)
          rw [Nat.add_right_comm] at hrest
          exact (hbit true).bind hrest

/-- The limit ends the count, too, and no zero follows it. -/
theorem consumes_unary_eq (n x : ℕ) :
    Consumes B (readUnary readbit n x) (List.replicate n true) (x + n) := by
  induction n generalizing x with
  | zero => exact consumes_pure x
  | succ n ih =>
      have hrest := ih (x + 1)
      rw [Nat.add_right_comm] at hrest
      exact (hbit true).bind hrest

end Unary

end ConduitStream
