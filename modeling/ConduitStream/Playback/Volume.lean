import ConduitStream.Foundations.FloatValue
import ConduitStream.Playback.Samples

/-! # The volume in decibels (`audio_volume.c`, `audio_set_volume`)

The volume is clamped to [-30, 0] dB and turned into a Q16.16 gain by `powf`. The clamps compare, and
NaN compares as false, so that it passes all of them: the gain is defined and at most unity exactly
if the volume is a number or an infinity (`audioSetVolume_safe_iff`). -/

namespace ConduitStream

variable {R : Type*} [Field R] [LinearOrder R] [IsStrictOrderedRing R] [FloorRing R]
  {powf : FloatValue R → FloatValue R → FloatValue R}

/-- What is relied on in `powf` with base 10: it is monotone, `1` at `0`, not negative, and NaN for
NaN. -/
structure IsPowf (powf : FloatValue R → FloatValue R → FloatValue R) : Prop where
  nan : powf (.finite 10) .nan = .nan
  zero : powf (.finite 10) (.finite 0) = .finite 1
  mono : ∀ x y : R, x ≤ y →
    (powf (.finite 10) (.finite x)).le (powf (.finite 10) (.finite y)) = true
  nonneg : ∀ x : R, (FloatValue.finite 0).le (powf (.finite 10) (.finite x)) = true

/-- The clamps of `audio_volume_db_to_q16` to [-30, 0]. -/
def clampDb (db : FloatValue R) : FloatValue R :=
  let db := if (FloatValue.finite 0).lt db then .finite 0 else db
  if db.lt (.finite (-30)) then .finite (-30) else db

/-- `audio_volume_db_to_q16`; `none` where its conversion to an integer is undefined. -/
def audioVolumeDbToQ16 (powf : FloatValue R → FloatValue R → FloatValue R) (db : FloatValue R) :
    Option (BitVec 32) :=
  let gain := if db.le (.finite (-144)) then .finite 0
    else powf (.finite 10) ((clampDb db).divPos 20)
  ((gain.mulPos 65536).addFinite (1 / 2)).toInt32

/-- `audio_set_volume`: the new `s_fix_q16`. -/
def audioSetVolume (powf : FloatValue R → FloatValue R → FloatValue R) (db : FloatValue R) :
    Option (BitVec 32) := audioVolumeDbToQ16 powf db

omit [FloorRing R] in
/-- What is not NaN is clamped to a number that is not positive. -/
theorem exists_clampDb {db : FloatValue R} (hdb : db ≠ .nan) (hmute : db.le (.finite (-144)) = false) :
    ∃ x : R, clampDb db = .finite x ∧ x ≤ 0 := by
  cases db with
  | nan => exact absurd rfl hdb
  | negInf => cases hmute
  | posInf =>
      have hzero : (FloatValue.finite (0 : R)).lt (.finite (-30)) = false := by
        simp [FloatValue.lt]
      refine ⟨0, ?_, le_rfl⟩
      show (if (FloatValue.finite (0 : R)).lt (.finite (-30)) then _ else _) = _
      rw [hzero]
      rfl
  | finite x =>
      by_cases hpos : 0 < x
      · refine ⟨0, ?_, le_rfl⟩
        simp [clampDb, FloatValue.lt, hpos]
      · by_cases hlow : x < -30
        · refine ⟨-30, ?_, by norm_num⟩
          simp [clampDb, FloatValue.lt, hpos, hlow]
        · refine ⟨x, ?_, not_lt.mp hpos⟩
          simp [clampDb, FloatValue.lt, hpos, hlow]

omit [IsStrictOrderedRing R] [FloorRing R] in
/-- Up to `0` the powers are between `0` and `1`. -/
theorem IsPowf.exists_of_nonpos (h : IsPowf powf) {x : R} (hx : x ≤ 0) :
    ∃ g : R, powf (.finite 10) (.finite x) = .finite g ∧ 0 ≤ g ∧ g ≤ 1 := by
  have hle := h.mono x 0 hx
  rw [h.zero] at hle
  exact FloatValue.exists_of_between (h.nonneg x) hle

/-- **The gain is defined and at most unity exactly if the volume is not NaN.** -/
theorem audioSetVolume_safe_iff (h : IsPowf powf) (db : FloatValue R) :
    (∃ q, audioSetVolume powf db = some q ∧ 0 ≤ q.toInt ∧ q.toInt ≤ audioVolUnity.toInt) ↔
      db ≠ .nan := by
  constructor
  · rintro ⟨q, hq, -⟩ rfl
    -- NaN passes the clamps, and `powf` passes it on
    have hgain : audioSetVolume powf .nan = none := by
      show (((powf (.finite 10) .nan).mulPos 65536).addFinite (1 / 2)).toInt32 = none
      rw [h.nan]
      rfl
    rw [hgain] at hq
    cases hq
  · intro hdb
    have hgain : ∃ g : R, (if db.le (.finite (-144)) then .finite 0
        else powf (.finite 10) ((clampDb db).divPos 20)) = FloatValue.finite g ∧ 0 ≤ g ∧ g ≤ 1 := by
      cases hmute : db.le (.finite (-144)) with
      | true => exact ⟨0, rfl, le_rfl, zero_le_one⟩
      | false =>
          obtain ⟨x, hx, hnonpos⟩ := exists_clampDb hdb hmute
          rw [hx]
          exact h.exists_of_nonpos (div_nonpos_of_nonpos_of_nonneg hnonpos (by norm_num))
    obtain ⟨g, hg, hlow, hhigh⟩ := hgain
    have hconv := FloatValue.toInt32_of_nonneg (x := g * 65536 + 1 / 2) (n := 65536)
      (by linarith) (by push_cast; linarith) (by decide)
    obtain ⟨q, hq, hq0, hq1⟩ := hconv
    refine ⟨q, ?_, hq0, hq1⟩
    unfold audioSetVolume audioVolumeDbToQ16
    rw [hg]
    exact hq

end ConduitStream
