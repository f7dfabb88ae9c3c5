import ConduitStream.Alac.BitInput
import ConduitStream.Foundations.CheckedMemory
import ConduitStream.Foundations.GolombCode

/-! # The residuals of a channel (`entropy_rice_decode` in `alac.c`)

A channel of a compressed frame is a list of residuals in an adaptive Rice code: the parameter of the code
follows a running mean of the values (`history`), and where this is low the number of zeros that follow
is written in their place.

Numbers are `int32_t` and wrap. -/

namespace ConduitStream

namespace Alac

/-! ## The functions of the source -/

/-- What is stored of a number in an `int32_t`. -/
def int32 (n : ℤ) : ℤ := n.bmod (2 ^ 32)

/-- `count_leading_zeros`: `__builtin_clz`, which is undefined for 0. -/
def countLeadingZeros (input : ℤ) : Option ℤ :=
  if input = 0 then none
  else if input < 0 then some 0
  else some (31 - Nat.log2 input.toNat)

/-- `RICE_THRESHOLD`. -/
def riceThreshold : ℕ := 8

/-- `entropy_decode_value`; a sample size that is not positive is 0, for which the shift of the mask is as
undefined. -/
def entropyDecodeValue (readSampleSize : ℕ) (k : ℤ) (riceKmodifierMask : BitVec 32) :
    AlacReading ℤ := do
  -- `while (x <= RICE_THRESHOLD && readbit(alac)) x++`
  let x ← readUnary readbit (riceThreshold + 1) 0
  if riceThreshold < x then
    if readSampleSize = 0 ∨ 32 < readSampleSize then StateT.lift none
    else
      -- the value itself
      let value ← readbits readSampleSize
      return (value &&& (0xffffffff : BitVec 32) >>> (32 - readSampleSize)).toInt
  else if k = 1 then return x
  else if k < 0 ∨ 31 < k then StateT.lift none
  else
    let extraBits ← readbits k.toNat
    let x := int32 (x * (((1 : BitVec 32) <<< k.toNat) - 1 &&& riceKmodifierMask).toInt)
    if 1 < extraBits.toInt then return int32 (x + (extraBits.toInt - 1))
    else
      unreadbits 1
      return x

/-- The arguments of `entropy_rice_decode` besides the output. -/
structure RiceArgs where
  readSampleSize : ℕ
  initialhistory : ℤ
  kmodifier : ℤ
  historymult : ℤ
  kmodifierMask : BitVec 32
  deriving DecidableEq, Repr

/-- The `k` of a value. -/
def RiceArgs.valueK (p : RiceArgs) (history : ℤ) : Option ℤ := do
  let k := 31 - p.kmodifier - (← countLeadingZeros (int32 (history >>> (9 : ℕ) + 3)))
  return if k < 0 then k + p.kmodifier else p.kmodifier

/-- The `k` of a block of zeros. -/
def blockK (history : ℤ) : Option ℤ := do
  return (← countLeadingZeros history) + (history + 16).tdiv 64 - 24

/-- `finalValue`: the sign is in the low bit. -/
def finalValue (decodedValue : ℤ) : ℤ :=
  let v := (int32 (decodedValue + 1)).tdiv 2
  if decodedValue % 2 = 1 then -v else v

/-- The update of `history`. -/
def RiceArgs.nextHistory (p : RiceArgs) (history decodedValue : ℤ) : ℤ :=
  if 0xffff < decodedValue then 0xffff
  else int32 (history + (decodedValue * p.historymult - int32 (history * p.historymult) >>> (9 : ℕ)))

/-- The loop of `entropy_rice_decode` for `n` more values: what it writes to `outputBuffer`, in order. A
block of zeros is written as long as it is announced. -/
def riceLoop (p : RiceArgs) : ℕ → ℤ → ℤ → AlacReading (List ℤ)
  | 0, _, _ => return []
  | n + 1, history, signModifier => do
      let k ← StateT.lift (p.valueK history)
      let value ← entropyDecodeValue p.readSampleSize k (-1)
      let decodedValue := int32 (value + signModifier)
      let history := p.nextHistory history decodedValue
      if history < 128 ∧ 0 < n then
        let k ← StateT.lift (blockK history)
        let blockSize ← entropyDecodeValue 16 k p.kmodifierMask
        let rest ← riceLoop p (n - blockSize.toNat) 0 (if 0xffff < blockSize then 0 else 1)
        return finalValue decodedValue :: (List.replicate blockSize.toNat 0 ++ rest)
      else
        let rest ← riceLoop p n history 0
        return finalValue decodedValue :: rest
termination_by n => n
decreasing_by
  · exact Nat.lt_succ_of_le (Nat.sub_le _ _)
  · exact Nat.lt_succ_self _

/-- `entropy_rice_decode`: the buffer afterwards. -/
def entropyRiceDecode (p : RiceArgs) (outputBuffer : List ℤ) (outputSize : ℤ) :
    AlacReading (List ℤ) := do
  let written ← riceLoop p outputSize.toNat p.initialhistory 0
  StateT.lift (storeRange outputBuffer 0 written)

end Alac

end ConduitStream
