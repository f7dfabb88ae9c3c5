import Mathlib.Algebra.Order.Round
import Mathlib.Data.Rat.Floor
import Mathlib.Tactic.Linarith
import ConduitStream.Playback.Samples

/-! # The gain is exact and never louder

`roundHalfAway` is the rounding that `audio_volume_apply` is meant to do, on rational numbers.
`audioVolumeApply_exact` collects what a gain of at most unity does to a buffer of samples: each
product is rounded exactly, the clamps have nothing to do, and no sample gets louder. -/

namespace ConduitStream

/-- The nearest integer, the one farther from zero if there are two. -/
def roundHalfAway (q : ℚ) : ℤ := if 0 ≤ q then round q else -round (-q)

/-- A nonnegative multiple of `1 / 65536` rounded in integers. -/
theorem round_div_65536 (p : ℤ) : round ((p : ℚ) / 65536) = (p + 32768) / 65536 := by
  rw [round_eq, Int.floor_eq_iff]
  have hlo : (p + 32768) / 65536 * 65536 ≤ p + 32768 := Int.ediv_mul_le _ (by decide)
  have hhi : p + 32768 < ((p + 32768) / 65536 + 1) * 65536 :=
    Int.lt_ediv_add_one_mul_self _ (by decide)
  generalize (p + 32768) / 65536 = r at hlo hhi ⊢
  have hlo' : (r : ℚ) * 65536 ≤ p + 32768 := by exact_mod_cast hlo
  have hhi' : (p : ℚ) + 32768 < (r + 1) * 65536 := by exact_mod_cast hhi
  constructor <;> linarith

/-- `roundQ16` is this rounding, of the number in units of `1 / 65536`. -/
theorem roundHalfAway_div_65536 (p : ℤ) : roundHalfAway ((p : ℚ) / 65536) = roundQ16 p := by
  have hsign : (0 : ℚ) ≤ (p : ℚ) / 65536 ↔ 0 ≤ p := by
    rw [le_div_iff₀ (by norm_num), zero_mul, Int.cast_nonneg_iff]
  have hneg : -((p : ℚ) / 65536) = ((-p : ℤ) : ℚ) / 65536 := by rw [Int.cast_neg, neg_div]
  unfold roundHalfAway roundQ16
  by_cases h : 0 ≤ p
  · rw [if_pos (hsign.mpr h), if_pos h, round_div_65536]
  · rw [if_neg fun hq => h (hsign.mp hq), if_neg h, hneg, round_div_65536]

/-! ## Magnitude and sign -/

/-- Rounding half away from zero is odd. -/
theorem roundQ16_neg (p : ℤ) : roundQ16 (-p) = -roundQ16 p := by
  unfold roundQ16
  split_ifs <;> omega

/-- The magnitude is what is rounded. -/
theorem abs_roundQ16 (p : ℤ) : |roundQ16 p| = roundQ16 |p| := by
  have hpos : ∀ q : ℤ, 0 ≤ q → 0 ≤ roundQ16 q := fun q hq => by
    have hmono := roundQ16_mono hq
    exact hmono
  rcases le_total 0 p with h | h
  · rw [abs_of_nonneg h, abs_of_nonneg (hpos p h)]
  · have hp := hpos (-p) (by omega)
    rw [roundQ16_neg] at hp
    rw [abs_of_nonpos h, roundQ16_neg, abs_of_nonpos (by omega)]

section Gain

variable {fix fix' : BitVec 32}

/-- The value of `v` in front of the two clamps. -/
def productBeforeClamps (prod : ℤ) : ℤ :=
  let mag := if 0 ≤ prod then prod else -prod
  let v := (mag + 0x8000) >>> (16 : ℕ)
  if prod < 0 then -v else v

/-- The value in front of the clamps is the rounded product. -/
theorem productBeforeClamps_eq (prod : ℤ) : productBeforeClamps prod = roundQ16 prod := by
  simp only [productBeforeClamps, roundQ16, Int.shiftRight_eq_div_pow]
  split_ifs <;> omega

/-- The clamps are what is left of the function. -/
theorem roundProduct_eq_clamps (prod : ℤ) :
    roundProduct prod = if productBeforeClamps prod > 32767 then 32767
      else if productBeforeClamps prod < -32768 then -32768 else productBeforeClamps prod := by
  rw [roundProduct_eq, productBeforeClamps_eq]
  split_ifs <;> omega

/-- With a gain of at most unity they have nothing to do. -/
theorem productBeforeClamps_mem (hlo : 0 ≤ fix.toInt) (hhi : fix.toInt ≤ 65536) (x : BitVec 16) :
    -32768 ≤ productBeforeClamps (x.toInt * fix.toInt) ∧
      productBeforeClamps (x.toInt * fix.toInt) ≤ 32767 := by
  rw [productBeforeClamps_eq, ← toInt_gainSample hlo hhi]
  exact toInt_mem _

/-- What a gain of at most unity makes of a sample, as a number. -/
theorem toInt_audioVolumeSample_eq (hlo : 0 ≤ fix.toInt) (hhi : fix.toInt ≤ 65536) (x : BitVec 16) :
    (audioVolumeSample fix x).toInt = roundQ16 (x.toInt * fix.toInt) := by
  obtain ⟨hge, hle⟩ := productBeforeClamps_mem hlo hhi x
  have hround : roundProduct (x.toInt * fix.toInt) = productBeforeClamps (x.toInt * fix.toInt) := by
    rw [roundProduct_eq_clamps, if_neg (by omega), if_neg (by omega)]
  rw [audioVolumeSample, hround, toInt_ofInt_of_mem hge hle, productBeforeClamps_eq]

/-- The magnitude of a sample, rounded. -/
theorem abs_toInt_audioVolumeSample (hlo : 0 ≤ fix.toInt) (hhi : fix.toInt ≤ 65536)
    (x : BitVec 16) :
    |(audioVolumeSample fix x).toInt| = roundQ16 (|x.toInt| * fix.toInt) := by
  rw [toInt_audioVolumeSample_eq hlo hhi, abs_roundQ16, abs_mul, abs_of_nonneg hlo]

/-- **A larger gain is no quieter.** -/
theorem abs_audioVolumeSample_mono (hlo : 0 ≤ fix.toInt) (hle : fix.toInt ≤ fix'.toInt)
    (hhi : fix'.toInt ≤ 65536) (x : BitVec 16) :
    |(audioVolumeSample fix x).toInt| ≤ |(audioVolumeSample fix' x).toInt| := by
  rw [abs_toInt_audioVolumeSample hlo (hle.trans hhi),
    abs_toInt_audioVolumeSample (hlo.trans hle) hhi]
  exact roundQ16_mono (mul_le_mul_of_nonneg_left hle (abs_nonneg _))

/-- **No sample gets louder** under a gain of at most unity. -/
theorem abs_audioVolumeSample_le (hlo : 0 ≤ fix.toInt) (hhi : fix.toInt ≤ 65536) (x : BitVec 16) :
    |(audioVolumeSample fix x).toInt| ≤ |x.toInt| := by
  have hunity := @abs_audioVolumeSample_mono fix audioVolUnity hlo hhi le_rfl x
  rwa [audioVolumeSample_unity] at hunity

/-- **The sign stays**, unless nothing is left. -/
theorem sign_audioVolumeSample (hlo : 0 ≤ fix.toInt) (hhi : fix.toInt ≤ 65536) (x : BitVec 16) :
    (audioVolumeSample fix x).toInt = 0 ∨
      (audioVolumeSample fix x).toInt.sign = x.toInt.sign := by
  rw [toInt_audioVolumeSample_eq hlo hhi]
  rcases lt_trichotomy x.toInt 0 with hx | hx | hx
  · have hround : roundQ16 (x.toInt * fix.toInt) ≤ 0 :=
      roundQ16_mono (mul_nonpos_of_nonpos_of_nonneg hx.le hlo)
    rcases hround.lt_or_eq with h | h
    · exact .inr (by rw [Int.sign_eq_neg_one_of_neg h, Int.sign_eq_neg_one_of_neg hx])
    · exact .inl h
  · rw [hx, zero_mul]
    exact .inl rfl
  · have hround : 0 ≤ roundQ16 (x.toInt * fix.toInt) := roundQ16_mono (mul_nonneg hx.le hlo)
    rcases hround.lt_or_eq with h | h
    · exact .inr (by rw [Int.sign_eq_one_of_pos h, Int.sign_eq_one_of_pos hx])
    · exact .inl h.symm

/-- **The order of samples stays**: a larger sample gives no smaller result. -/
theorem audioVolumeSample_mono (hlo : 0 ≤ fix.toInt) (hhi : fix.toInt ≤ 65536) {x y : BitVec 16}
    (h : x.toInt ≤ y.toInt) :
    (audioVolumeSample fix x).toInt ≤ (audioVolumeSample fix y).toInt := by
  rw [toInt_audioVolumeSample_eq hlo hhi, toInt_audioVolumeSample_eq hlo hhi]
  exact roundQ16_mono (mul_le_mul_of_nonneg_right h hlo)

/-- The negative of a sample, as a number. -/
theorem toInt_neg_of_lt {x : BitVec 16} (h : -32768 < x.toInt) : (-x).toInt = -x.toInt := by
  have hx := toInt_mem x
  rw [BitVec.toInt_neg]
  apply Int.bmod_eq_of_le <;> omega

/-- **Symmetry**: the negative sample gives the negative result. -/
theorem audioVolumeSample_neg (hlo : 0 ≤ fix.toInt) (hhi : fix.toInt ≤ 65536) {x : BitVec 16}
    (h : -32768 < x.toInt) : audioVolumeSample fix (-x) = -audioVolumeSample fix x := by
  have hout : -32768 < (audioVolumeSample fix x).toInt := by
    have hle := abs_audioVolumeSample_le hlo hhi x
    have hx := toInt_mem x
    have hmag : |x.toInt| ≤ 32767 := abs_le.mpr ⟨by omega, hx.2⟩
    have hmag' := (abs_le.mp (hle.trans hmag)).1
    omega
  apply BitVec.eq_of_toInt_eq
  rw [toInt_neg_of_lt hout, toInt_audioVolumeSample_eq hlo hhi, toInt_audioVolumeSample_eq hlo hhi,
    toInt_neg_of_lt h, neg_mul, roundQ16_neg]

end Gain

/-! ## Whole buffers -/

/-- `audio_volume_apply` on the `n_samples` samples of a buffer. -/
def audioVolumeApplySamples (fixQ16 : BitVec 32) (buf : List (BitVec 16)) : List (BitVec 16) :=
  buf.map (audioVolumeSample fixQ16)

/-- **The gain is exact and never louder.** With a gain from 0 to 65536, `audio_volume_apply` replaces
every sample of a buffer by its product with the gain in units of `1 / 65536`, rounded half away from
zero; the clamps do not change a value; no sample gets larger in magnitude or changes its sign; larger
samples give larger results, larger gains give larger magnitudes, and the negative sample the negative
result. At 65536 the buffer is unchanged, so that the playback task may skip the call there: what it
writes to I2S is in every case what the call makes of the frames. -/
theorem audioVolumeApply_exact {fix : BitVec 32} (hlo : 0 ≤ fix.toInt) (hhi : fix.toInt ≤ 65536) :
    (∀ buf, (audioVolumeApplySamples fix buf).map BitVec.toInt
        = buf.map fun x => roundHalfAway ((x.toInt : ℚ) * fix.toInt / 65536)) ∧
      (∀ x : BitVec 16, -32768 ≤ productBeforeClamps (x.toInt * fix.toInt) ∧
        productBeforeClamps (x.toInt * fix.toInt) ≤ 32767) ∧
      (∀ x, |(audioVolumeSample fix x).toInt| ≤ |x.toInt|) ∧
      (∀ x, (audioVolumeSample fix x).toInt = 0 ∨
        (audioVolumeSample fix x).toInt.sign = x.toInt.sign) ∧
      (∀ x y, x.toInt ≤ y.toInt →
        (audioVolumeSample fix x).toInt ≤ (audioVolumeSample fix y).toInt) ∧
      (∀ fix' : BitVec 32, fix.toInt ≤ fix'.toInt → fix'.toInt ≤ 65536 → ∀ x,
        |(audioVolumeSample fix x).toInt| ≤ |(audioVolumeSample fix' x).toInt|) ∧
      (∀ x, -32768 < x.toInt → audioVolumeSample fix (-x) = -audioVolumeSample fix x) ∧
      (fix.toInt = 65536 → ∀ buf, audioVolumeApplySamples fix buf = buf) ∧
      ∀ frames, withGain fix frames = audioVolumeApply fix frames := by
  refine ⟨fun buf => ?_, productBeforeClamps_mem hlo hhi, abs_audioVolumeSample_le hlo hhi,
    sign_audioVolumeSample hlo hhi, fun x y => audioVolumeSample_mono hlo hhi,
    fun fix' hle hhi' => abs_audioVolumeSample_mono hlo hle hhi',
    fun x => audioVolumeSample_neg hlo hhi, fun hone buf => ?_, fun frames => ?_⟩
  · rw [audioVolumeApplySamples, List.map_map]
    refine List.map_congr_left fun x _ => ?_
    rw [Function.comp_apply, toInt_audioVolumeSample_eq hlo hhi, ← roundHalfAway_div_65536,
      Int.cast_mul]
  · obtain rfl : fix = audioVolUnity := BitVec.eq_of_toInt_eq hone
    exact (List.map_congr_left fun x _ => audioVolumeSample_unity x).trans (List.map_id _)
  · rw [withGain_eq_map, audioVolumeApply]
    refine List.map_congr_left fun f _ => ?_
    rw [gainFrame, gainSample_eq, gainSample_eq]

/-- At half the gain `-3` becomes `-2`, as `3` becomes `2`. -/
theorem audioVolumeApply_exact_half :
    (audioVolumeApplySamples 32768 [-32768, -3, 3]).map BitVec.toInt = [-16384, -2, 2] :=
  ((@audioVolumeApply_exact 32768 (by decide) (by decide)).1 _).trans (by decide +kernel)

end ConduitStream
