import Mathlib.Algebra.Order.Ring.Int
import Mathlib.Tactic.Common

/-! # The samples on their way to I2S (`audio_volume.c`, `audio_mix_mono`)

A frame is a pair of signed 16-bit samples. A build with `CONFIG_CONDUIT_MONO_OUTPUT` replaces both
samples by their average; the volume multiplies every sample by a Q16.16 gain, rounding the
magnitude, unless the gain is exactly one. Products and sums are formed in wider types of the source
that no pair of inputs overflows, so they are integers here.

* `toInt_gainSample`: a gain of at most unity rounds the product, half away from zero;
* `gainFrame_eq_playedFrame_iff`: when a frame that skips the mix leaves as one that does not. -/

namespace ConduitStream

/-- A stereo frame: the left and the right sample. -/
abbrev StereoFrame : Type := BitVec 16 × BitVec 16

/-- `AUDIO_VOL_UNITY`. -/
def audioVolUnity : BitVec 32 := 65536

/-! ## The functions of the source -/

/-- What `audio_volume_apply` makes of a product of sample and gain: the magnitude rounded, the sign
put back, the result clamped. -/
def roundProduct (prod : ℤ) : ℤ :=
  let mag := if 0 ≤ prod then prod else -prod
  let v := (mag + 0x8000) >>> (16 : ℕ)
  let v := if prod < 0 then -v else v
  let v := if v > 32767 then 32767 else v
  if v < -32768 then -32768 else v

/-- `audio_volume_apply` on one sample. -/
def audioVolumeSample (fixQ16 : BitVec 32) (sample : BitVec 16) : BitVec 16 :=
  BitVec.ofInt 16 (roundProduct (sample.toInt * fixQ16.toInt))

/-- `audio_volume_apply`. -/
def audioVolumeApply (fixQ16 : BitVec 32) (frames : List StereoFrame) : List StereoFrame :=
  frames.map fun f => (audioVolumeSample fixQ16 f.1, audioVolumeSample fixQ16 f.2)

/-- `audio_mix_mono` on one frame; C division rounds toward zero. -/
def mixFrame (f : StereoFrame) : StereoFrame :=
  let mixed := f.1.toInt + f.2.toInt
  let mono := BitVec.ofInt 16 (mixed.tdiv 2)
  (mono, mono)

/-- `audio_mix_mono`; `monoOutput` says whether the build has `CONFIG_CONDUIT_MONO_OUTPUT`. -/
def audioMixMono (monoOutput : Bool) (frames : List StereoFrame) : List StereoFrame :=
  if monoOutput then frames.map mixFrame else frames

/-- `if (fix != AUDIO_VOL_UNITY) audio_volume_apply(...)`. -/
def withGain (fix : BitVec 32) (frames : List StereoFrame) : List StereoFrame :=
  if fix ≠ audioVolUnity then audioVolumeApply fix frames else frames

/-! ## Frame by frame -/

/-- What the gain makes of a sample. -/
def gainSample (fix : BitVec 32) (sample : BitVec 16) : BitVec 16 :=
  if fix ≠ audioVolUnity then audioVolumeSample fix sample else sample

/-- What the gain makes of a frame. -/
def gainFrame (fix : BitVec 32) (f : StereoFrame) : StereoFrame :=
  (gainSample fix f.1, gainSample fix f.2)

/-- What mix and gain make of a frame read from the ring. -/
def playedFrame (monoOutput : Bool) (fix : BitVec 32) (f : StereoFrame) : StereoFrame :=
  gainFrame fix (if monoOutput then mixFrame f else f)

/-- The gain works on each frame alone. -/
theorem withGain_eq_map (fix : BitVec 32) (frames : List StereoFrame) :
    withGain fix frames = frames.map (gainFrame fix) := by
  unfold withGain
  split_ifs with h
  · apply List.map_congr_left
    intro f _
    simp [gainFrame, gainSample, h]
  · have hid : gainFrame fix = id := by
      funext f
      simp [gainFrame, gainSample, h]
    rw [hid, List.map_id]

/-- Mix and gain work on each frame alone. -/
theorem withGain_audioMixMono (monoOutput : Bool) (fix : BitVec 32) (frames : List StereoFrame) :
    withGain fix (audioMixMono monoOutput frames) = frames.map (playedFrame monoOutput fix) := by
  rw [withGain_eq_map]
  cases monoOutput with
  | true =>
      simp only [audioMixMono, if_true, List.map_map]
      rfl
  | false => rfl

/-! ## Rounding -/

/-- A number in units of `1 / 65536` rounded to an integer, half away from zero. -/
def roundQ16 (x : ℤ) : ℤ := if 0 ≤ x then (x + 32768) / 65536 else -((-x + 32768) / 65536)

/-- Rounding keeps the order of the products. -/
theorem roundQ16_mono {x y : ℤ} (h : x ≤ y) : roundQ16 x ≤ roundQ16 y := by
  unfold roundQ16
  split_ifs <;> omega

/-- A multiple of the unit is an integer and is not rounded. -/
@[simp] theorem roundQ16_mul (n : ℤ) : roundQ16 (n * 65536) = n := by
  unfold roundQ16
  split_ifs <;> omega

/-- `audio_volume_apply` rounds the product and clamps it to 16 bits. -/
theorem roundProduct_eq (prod : ℤ) :
    roundProduct prod = max (-32768) (min 32767 (roundQ16 prod)) := by
  simp only [roundProduct, roundQ16, Int.shiftRight_eq_div_pow]
  split_ifs <;> omega

/-- A value in the range of 16 bits is stored as it is. -/
theorem toInt_ofInt_of_mem {v : ℤ} (hlo : -32768 ≤ v) (hhi : v ≤ 32767) :
    (BitVec.ofInt 16 v).toInt = v := by
  rw [BitVec.toInt_ofInt]
  apply Int.bmod_eq_of_le <;> omega

/-- A sample is a number from -32768 to 32767. -/
theorem toInt_mem (x : BitVec 16) : -32768 ≤ x.toInt ∧ x.toInt ≤ 32767 := by
  have hlo := BitVec.le_toInt x
  have hhi := @BitVec.toInt_lt 16 x
  omega

/-- What the volume makes of a sample, as a number. -/
theorem toInt_audioVolumeSample (fix : BitVec 32) (x : BitVec 16) :
    (audioVolumeSample fix x).toInt = max (-32768) (min 32767 (roundQ16 (x.toInt * fix.toInt))) := by
  rw [← roundProduct_eq]
  apply toInt_ofInt_of_mem <;> rw [roundProduct_eq] <;> omega

/-- At half the gain `-3` becomes `-2`, as `3` becomes `2`. -/
example : audioVolumeSample 32768 (-3) = -2 ∧ audioVolumeSample 32768 3 = 2 := by decide

/-- The multiplication that is skipped at unity would change nothing. -/
theorem audioVolumeSample_unity (x : BitVec 16) : audioVolumeSample audioVolUnity x = x := by
  have hx := toInt_mem x
  have hone : audioVolUnity.toInt = 65536 := rfl
  apply BitVec.eq_of_toInt_eq
  rw [toInt_audioVolumeSample, hone, roundQ16_mul]
  omega

/-- So the gain is the multiplication in every case. -/
theorem gainSample_eq (fix : BitVec 32) (x : BitVec 16) :
    gainSample fix x = audioVolumeSample fix x := by
  unfold gainSample
  split_ifs with h
  · rfl
  · rw [not_not.mp h, audioVolumeSample_unity]

/-- **A gain of at most unity** rounds the product and never clamps. -/
theorem toInt_gainSample {fix : BitVec 32} (hlo : 0 ≤ fix.toInt) (hhi : fix.toInt ≤ 65536)
    (x : BitVec 16) : (gainSample fix x).toInt = roundQ16 (x.toInt * fix.toInt) := by
  have hx := toInt_mem x
  have hmin : -32768 * 65536 ≤ x.toInt * fix.toInt := by
    have := Int.mul_le_mul_of_nonneg_right hx.1 hlo
    omega
  have hmax : x.toInt * fix.toInt ≤ 32767 * 65536 := by
    have := Int.mul_le_mul_of_nonneg_right hx.2 hlo
    omega
  have hround := roundQ16_mono hmin
  have hround' := roundQ16_mono hmax
  rw [roundQ16_mul] at hround hround'
  rw [gainSample_eq, toInt_audioVolumeSample]
  omega

/-! ## The average -/

/-- Halving toward zero is within half of the number. -/
theorem tdiv_two_mem (a : ℤ) : (0 ≤ a ∧ 2 * a.tdiv 2 ≤ a ∧ a ≤ 2 * a.tdiv 2 + 1) ∨
    (a ≤ 0 ∧ a ≤ 2 * a.tdiv 2 ∧ 2 * a.tdiv 2 ≤ a + 1) := by
  rcases le_total 0 a with h | h
  · rw [Int.tdiv_eq_ediv_of_nonneg h]
    omega
  · have hneg : a.tdiv 2 = -(-a / 2) := by
      rw [← Int.tdiv_eq_ediv_of_nonneg (by omega), Int.neg_tdiv, neg_neg]
    rw [hneg]
    omega

/-- The average of the two samples, as a number. -/
theorem toInt_mixFrame (f : StereoFrame) :
    (mixFrame f).1.toInt = (f.1.toInt + f.2.toInt).tdiv 2 := by
  have h₁ := toInt_mem f.1
  have h₂ := toInt_mem f.2
  have hhalf := tdiv_two_mem (f.1.toInt + f.2.toInt)
  apply toInt_ofInt_of_mem <;> omega

/-- The average lies between the two samples. -/
theorem mixFrame_between (f : StereoFrame) :
    (f.1.toInt ≤ (mixFrame f).1.toInt ∧ (mixFrame f).1.toInt ≤ f.2.toInt) ∨
      (f.2.toInt ≤ (mixFrame f).1.toInt ∧ (mixFrame f).1.toInt ≤ f.1.toInt) := by
  have hhalf := tdiv_two_mem (f.1.toInt + f.2.toInt)
  rw [toInt_mixFrame]
  omega

/-- **A frame that skips the mix** leaves as one that is mixed exactly if the build is stereo, or
the gain rounds its two samples to the same value. -/
theorem gainFrame_eq_playedFrame_iff {fix : BitVec 32} (hlo : 0 ≤ fix.toInt)
    (hhi : fix.toInt ≤ 65536) (monoOutput : Bool) (f : StereoFrame) :
    gainFrame fix f = playedFrame monoOutput fix f ↔ monoOutput = false ∨
      roundQ16 (f.1.toInt * fix.toInt) = roundQ16 (f.2.toInt * fix.toInt) := by
  cases monoOutput with
  | false => simp [playedFrame]
  | true =>
      have hplayed : playedFrame true fix f =
          (gainSample fix (mixFrame f).1, gainSample fix (mixFrame f).1) := rfl
      have hround := fun x => toInt_gainSample hlo hhi x
      rw [hplayed, gainFrame, Prod.mk.injEq, ← BitVec.toInt_inj, ← BitVec.toInt_inj, hround, hround,
        hround]
      constructor
      · rintro ⟨h₁, h₂⟩
        exact .inr (h₁.trans h₂.symm)
      · rintro (h | h)
        · cases h
        · -- the average is squeezed between the two samples
          rcases mixFrame_between f with ⟨h₁, h₂⟩ | ⟨h₁, h₂⟩
          all_goals
            have hround₁ := roundQ16_mono (Int.mul_le_mul_of_nonneg_right h₁ hlo)
            have hround₂ := roundQ16_mono (Int.mul_le_mul_of_nonneg_right h₂ hlo)
            constructor <;> omega

end ConduitStream
