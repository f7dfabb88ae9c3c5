import Mathlib.Analysis.SpecialFunctions.Pow.Real
import ConduitStream.Playback.Volume
import ConduitStream.Rtsp.Parser

/-! # SET_PARAMETER (`raop_volume.c`, `setparam.c`, `handle_set_parameter` in `raop.c`)

The volume comes as a line `volume: ...` of a text body, and its number is what `strtof` makes of the
text. `setParameter_volume_safe_iff` says that the gain stored for it is defined and at most unity
exactly if that text does not spell NaN. -/

namespace ConduitStream

/-! ## The lines of a body -/

/-- A byte that ends a line. -/
def isEol (c : UInt8) : Bool := c = 0x0a ∨ c = 0x0d

/-- Behind a line there is less left. -/
theorem length_nextLine_lt {body : Bytes} (h : body ≠ []) :
    ((body.dropWhile (!isEol ·)).dropWhile isEol).length < body.length := by
  obtain ⟨c, t, rfl⟩ := List.exists_cons_of_ne_nil h
  have hle : ∀ (p : UInt8 → Bool) (l : Bytes), (l.dropWhile p).length ≤ l.length := fun p l =>
    (List.dropWhile_suffix p).length_le
  cases hc : isEol c with
  | true =>
      have hline : (c :: t).dropWhile (!isEol ·) = c :: t :=
        List.dropWhile_cons_of_neg (by simp [hc])
      rw [hline, List.dropWhile_cons_of_pos hc, List.length_cons]
      exact Nat.lt_succ_of_le (hle _ t)
  | false =>
      have hline : (c :: t).dropWhile (!isEol ·) = t.dropWhile (!isEol ·) :=
        List.dropWhile_cons_of_pos (by simp [hc])
      rw [hline, List.length_cons]
      exact Nat.lt_succ_of_le ((hle _ _).trans (hle _ t))

/-- `find_line`: what stands behind `start` where a line of the body begins with it. -/
def findLine (body start : Bytes) : Option Bytes :=
  if body = [] then none
  else if start <+: body.takeWhile (!isEol ·) then some (body.drop start.length)
  else findLine ((body.dropWhile (!isEol ·)).dropWhile isEol) start
termination_by body.length
decreasing_by exact length_nextLine_lt ‹_›

/-- The value in the line that has been found, as copied to `tmp[size]`. -/
def lineValue (size : ℕ) (rest : Bytes) : Bytes := cstr ((rest.takeWhile (!isEol ·)).take (size - 1))

/-- The text of the volume in a body. -/
def volumeText (body : Bytes) : Option Bytes :=
  (findLine body (ascii "volume: ")).map (lineValue 32)

/-- `raop_parse_volume`; `strtof` returns nothing if it has parsed no number. A body that is not there
is empty. -/
def raopParseVolume {R : Type*} (strtof : Bytes → Option (FloatValue R)) (body : Bytes) :
    Option (FloatValue R) := (volumeText body).bind strtof

/-! ## The handler -/

/-- `media_is`: the type, in any case, and behind it the end, a `;` or a blank. -/
def mediaIs (contentType want : Bytes) : Bool :=
  let ct := cstr contentType
  (ct.take want.length).map toLower = want.map toLower ∧
    ((ct.drop want.length).head?.all fun c =>
      c = 0x3b ∨ c = 0x20 ∨ c = 0x09 ∨ c = 0x0d ∨ c = 0x0a) = true

/-- What kind of body comes. -/
inductive SetparamKind
  | setparamVolume
  | setparamMetadata
  | setparamOther
  deriving DecidableEq

/-- `setparam_classify`. -/
def setparamClassify (contentType : Option Bytes) : SetparamKind :=
  match contentType with
  | none => .setparamOther
  | some contentType =>
    let ct := contentType.dropWhile fun c => c = 0x20 ∨ c = 0x09
    if mediaIs ct (ascii "text/parameters") then .setparamVolume
    else if mediaIs ct (ascii "application/x-dmap-tagged") then .setparamMetadata
    else .setparamOther

variable {R : Type*} [Field R] [LinearOrder R] [IsStrictOrderedRing R] [FloorRing R]
  {powf : FloatValue R → FloatValue R → FloatValue R} {strtof : Bytes → Option (FloatValue R)}

/-- What `handle_set_parameter` makes of the gain `fixQ16`; apart from that it logs the progress,
passes the metadata on and answers 200. The result is `none` where a conversion is undefined. -/
def handleSetParameter (powf : FloatValue R → FloatValue R → FloatValue R)
    (strtof : Bytes → Option (FloatValue R)) (req : RtspRequest) (fixQ16 : BitVec 32) :
    Option (BitVec 32) :=
  match setparamClassify (rtspHeaderGet req.headers (ascii "Content-Type")) with
  | .setparamVolume =>
    match raopParseVolume strtof req.body with
    | some db => audioSetVolume powf db
    | none => some fixQ16
  | .setparamMetadata | .setparamOther => some fixQ16

/-! ## The gain -/

/-- A text that spells NaN: blanks, a sign or none, and `nan` in any case. -/
def spellsNan (s : Bytes) : Bool :=
  let s := s.dropWhile isSpace
  let s := if s.head? = some 0x2d ∨ s.head? = some 0x2b then s.tail else s
  (s.take 3).map toLower = ascii "nan"

/-- What is relied on in `strtof`: it returns NaN exactly for the texts that spell it. -/
def IsStrtof (strtof : Bytes → Option (FloatValue R)) : Prop :=
  ∀ s, strtof s = some .nan ↔ spellsNan s = true

/-- A gain the playback can work with. -/
def SafeGain (fixQ16 : BitVec 32) : Prop :=
  0 ≤ fixQ16.toInt ∧ fixQ16.toInt ≤ audioVolUnity.toInt

omit [Field R] [LinearOrder R] [IsStrictOrderedRing R] [FloorRing R] in
/-- The volume is NaN exactly if its text says so. -/
theorem raopParseVolume_eq_nan_iff (hstrtof : IsStrtof strtof) (body : Bytes) :
    raopParseVolume strtof body = some .nan ↔ (volumeText body).any spellsNan = true := by
  unfold raopParseVolume
  cases volumeText body with
  | none => simp
  | some text =>
      rw [Option.bind_some, hstrtof text, Option.any_some]

/-- **A volume request stores a defined gain of at most unity exactly if its text does not spell
NaN.** -/
theorem setParameter_volume_safe_iff (hpowf : IsPowf powf) (hstrtof : IsStrtof strtof)
    {body : Bytes} {db : FloatValue R} (hparse : raopParseVolume strtof body = some db) :
    (∃ q, audioVolumeDbToQ16 powf db = some q ∧ audioSetVolume powf db = some q ∧ SafeGain q) ↔
      (volumeText body).any spellsNan = false := by
  have hnan : db = .nan ↔ (volumeText body).any spellsNan = true := by
    rw [← raopParseVolume_eq_nan_iff hstrtof, hparse, Option.some_inj]
  rw [← Bool.not_eq_true, ← hnan]
  constructor
  · rintro ⟨q, -, hq, hsafe⟩
    exact (audioSetVolume_safe_iff hpowf db).mp ⟨q, hq, hsafe⟩
  · intro hdb
    obtain ⟨q, hq, hsafe⟩ := (audioSetVolume_safe_iff hpowf db).mpr hdb
    exact ⟨q, hq, hq, hsafe⟩

/-! ### Sample volumes -/

/-- Powers of a base above one, in real numbers. -/
noncomputable def realPowf : FloatValue ℝ → FloatValue ℝ → FloatValue ℝ
  | .finite b, .finite e => .finite (b ^ e)
  | .finite _, .posInf => .posInf
  | .finite _, .negInf => .finite 0
  | _, _ => .nan

/-- The power of real numbers is one. -/
theorem isPowf_realPowf : IsPowf realPowf where
  nan := rfl
  zero := congrArg FloatValue.finite (Real.rpow_zero 10)
  mono x y hxy := decide_eq_true (Real.rpow_le_rpow_of_exponent_le (by norm_num) hxy)
  nonneg x := decide_eq_true (Real.rpow_nonneg (by norm_num) x)

/-- A `strtof` that knows NaN and one number. -/
noncomputable def sampleStrtof (s : Bytes) : Option (FloatValue ℝ) :=
  if spellsNan s = true then some .nan
  else if s = ascii "-14.500000" then some (.finite (-14.5)) else none

/-- The sample reads as `strtof` does. -/
theorem isStrtof_sampleStrtof : IsStrtof sampleStrtof := by
  intro s
  unfold sampleStrtof
  split_ifs <;> simp_all

/-- A volume of -14.5 dB is converted and set safely. -/
theorem setParameter_volume_safe_iff_sample :
    ∃ q, audioVolumeDbToQ16 realPowf (.finite (-14.5)) = some q ∧
      audioSetVolume realPowf (.finite (-14.5)) = some q ∧ SafeGain q := by
  have htext : volumeText (ascii "volume: -14.500000\r\n") = some (ascii "-14.500000") := by
    decide +kernel
  have hparse : raopParseVolume sampleStrtof (ascii "volume: -14.500000\r\n")
      = some (.finite (-14.5)) := by
    rw [raopParseVolume, htext, Option.bind_some, sampleStrtof, if_neg (by decide),
      if_pos rfl]
  exact (setParameter_volume_safe_iff isPowf_realPowf isStrtof_sampleStrtof hparse).mpr
    (by decide +kernel)

/-- **A volume of NaN** is accepted, and its conversion to an integer is undefined. -/
theorem setParameter_volume_nan :
    raopParseVolume sampleStrtof (ascii "volume: nan\r\n") = some .nan ∧
      audioVolumeDbToQ16 realPowf .nan = none := by
  have htext : volumeText (ascii "volume: nan\r\n") = some (ascii "nan") := by decide +kernel
  constructor
  · rw [raopParseVolume, htext, Option.bind_some, sampleStrtof, if_pos (by decide)]
  · rfl

/-! ## Many requests -/

/-- **Step lemma**: a request without NaN keeps the gain safe. -/
theorem handleSetParameter_safe (hpowf : IsPowf powf) (hstrtof : IsStrtof strtof) {req : RtspRequest}
    (hreq : (volumeText req.body).any spellsNan = false) {fixQ16 : BitVec 32}
    (hsafe : SafeGain fixQ16) :
    ∃ q, handleSetParameter powf strtof req fixQ16 = some q ∧ SafeGain q := by
  unfold handleSetParameter
  split
  · cases hparse : raopParseVolume strtof req.body with
    | none => exact ⟨fixQ16, rfl, hsafe⟩
    | some db =>
        refine (audioSetVolume_safe_iff hpowf db).mpr fun hdb => ?_
        rw [hdb, raopParseVolume_eq_nan_iff hstrtof, hreq] at hparse
        cases hparse
  · exact ⟨fixQ16, rfl, hsafe⟩
  · exact ⟨fixQ16, rfl, hsafe⟩

/-- **Run lemma**: so do any number of them, from the gain at power-up on. -/
theorem foldlM_handleSetParameter_safe (hpowf : IsPowf powf) (hstrtof : IsStrtof strtof)
    {reqs : List RtspRequest}
    (hreqs : ∀ req ∈ reqs, (volumeText req.body).any spellsNan = false) :
    ∃ q, reqs.foldlM (fun fix req => handleSetParameter powf strtof req fix) audioVolUnity = some q ∧
      SafeGain q := by
  suffices h : ∀ fix, SafeGain fix →
      ∃ q, reqs.foldlM (fun fix req => handleSetParameter powf strtof req fix) fix = some q ∧
        SafeGain q by
    exact h audioVolUnity ⟨by decide, le_rfl⟩
  induction reqs with
  | nil => exact fun fix hfix => ⟨fix, rfl, hfix⟩
  | cons req reqs ih =>
      intro fix hfix
      obtain ⟨q, hq, hsafe⟩ :=
        handleSetParameter_safe hpowf hstrtof (hreqs req List.mem_cons_self) hfix
      rw [List.foldlM_cons, hq]
      exact ih (fun r hr => hreqs r (List.mem_cons_of_mem _ hr)) q hsafe

end ConduitStream
