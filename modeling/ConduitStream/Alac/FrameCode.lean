import ConduitStream.Alac.Frame
import ConduitStream.Alac.RiceCode

/-! # The code of a frame

An encoder has choices: whether it compresses, how it mixes the two channels, and for each of them the
coefficients with which a prediction starts. `encodeFrame` writes the bits of a frame for all of these
choices, and the decoder returns the samples (`consumes_decodeFrame`). -/

namespace ConduitStream

namespace Alac

/-- What a session announces, within the bounds of the code. -/
structure AlacSetup where
  samplesPerFrame : ℕ
  historymult : ℕ
  initialhistory : ℕ
  kmodifier : ℕ
  samplesPerFrame_le : samplesPerFrame ≤ 4096
  initialhistory_pos : 1 ≤ initialhistory
  initialhistory_le : initialhistory ≤ 255
  kmodifier_pos : 1 ≤ kmodifier
  kmodifier_le : kmodifier ≤ 30

variable {s : AlacSetup}

/-- What an encoder chooses for a channel. -/
structure ChannelCode (s : AlacSetup) where
  quantitization : ℕ
  ricemodifier : ℕ
  coefTable : List ℤ
  quantitization_pos : 1 ≤ quantitization
  quantitization_le : quantitization ≤ 15
  ricemodifier_le : ricemodifier ≤ 7
  mult_pos : 1 ≤ ricemodifier * s.historymult / 4
  mult_le : ricemodifier * s.historymult / 4 ≤ 63
  coef_range : ∀ coef ∈ coefTable, int16 coef = coef
  coefNum_le : coefTable.length ≤ 31
  coefNum_lt : coefTable.length < s.samplesPerFrame

/-- How the channels are mixed: not at all, or a weighted mean and the difference. -/
structure Interlacing where
  shift : ℕ
  leftweight : ℕ
  shift_le : shift ≤ 31
  leftweight_le : leftweight ≤ 255
  leftweight_le_pow : leftweight ≤ 2 ^ shift

/-- What an encoder chooses for a frame. -/
inductive FrameCode (s : AlacSetup)
  | uncompressed
  | compressed (interlacing : Interlacing) (chA chB : ChannelCode s)

namespace ChannelCode

/-- What the decoder reads of the choice. -/
def header (c : ChannelCode s) : ChannelHeader := ⟨0, c.quantitization, c.ricemodifier, c.coefTable⟩

/-- The code of the residuals. -/
def rice (c : ChannelCode s) : RiceCode where
  size := sampleSize + 1
  initial := s.initialhistory
  kmodifier := s.kmodifier
  mult := c.ricemodifier * s.historymult / 4
  size_pos := by decide
  size_le := by decide
  initial_pos := s.initialhistory_pos
  initial_le := s.initialhistory_le.trans (by decide)
  kmodifier_pos := s.kmodifier_pos
  kmodifier_le := s.kmodifier_le
  mult_pos := c.mult_pos
  mult_le := c.mult_le

end ChannelCode

/-- A signed number of 16 bits. -/
def signedWord (x : ℤ) : List Bool := wordBits 16 (BitVec.ofInt 16 x).toNat

/-- The choice for a channel. -/
def encodeChannelHeader (c : ChannelCode s) : List Bool :=
  wordBits 4 0 ++ (wordBits 4 c.quantitization ++ (wordBits 3 c.ricemodifier ++
    (wordBits 5 c.coefTable.length ++ c.coefTable.flatMap signedWord)))

/-- The samples of a channel. -/
def encodeChannel (c : ChannelCode s) (xs : List ℤ) : List Bool :=
  riceEncode c.rice s.initialhistory 0
    (firResiduals (sampleSize + 1) c.quantitization c.coefTable xs)

/-- What stands for the two samples of a frame. -/
def Interlacing.mix (i : Interlacing) (f : StereoFrame) : ℤ × ℤ :=
  if i.leftweight ≠ 0 then
    (f.2.toInt + ((f.1.toInt - f.2.toInt) * i.leftweight) >>> i.shift, f.1.toInt - f.2.toInt)
  else (f.1.toInt, f.2.toInt)

/-- The part of a frame behind its header. -/
def encodeBody (frames : List StereoFrame) : FrameCode s → List Bool
  | .uncompressed => frames.flatMap fun f => signedWord f.1.toInt ++ signedWord f.2.toInt
  | .compressed i chA chB =>
      wordBits 8 i.shift ++ (wordBits 8 i.leftweight ++ (encodeChannelHeader chA ++
        (encodeChannelHeader chB ++ (encodeChannel chA (frames.map fun f => (i.mix f).1) ++
          encodeChannel chB (frames.map fun f => (i.mix f).2)))))

/-- The bit that says that a frame is not compressed. -/
def FrameCode.isnotcompressed : FrameCode s → Bool
  | .uncompressed => true
  | .compressed .. => false

/-- The header of a frame. The number of samples is there where it is not the one announced. -/
def encodeFrameHeader (code : FrameCode s) (count : ℕ) : List Bool :=
  wordBits 4 0 ++ (wordBits 12 0 ++ (wordBits 1 (decide (count ≠ s.samplesPerFrame)).toNat ++
    (wordBits 2 0 ++ (wordBits 1 code.isnotcompressed.toNat ++
      if count ≠ s.samplesPerFrame then wordBits 32 count else []))))

/-- The bits of a frame, of two channels. -/
def encodeFrame (code : FrameCode s) (frames : List StereoFrame) : List Bool :=
  wordBits 3 1 ++ (encodeFrameHeader code frames.length ++ encodeBody frames code)

/-! ## Words -/

/-- A field of up to 32 bits is read as the number that was written. -/
theorem consumes_field {w v : ℕ} (hw : 1 ≤ w) (hw' : w ≤ 31) (hv : v < 2 ^ w) :
    ∃ word : BitVec 32, word.toNat = v ∧ Consumes alacSource (readbits w) (wordBits w v) word := by
  have hread := consumes_readbits hw (by omega) v
  have hpow : 2 ^ w ≤ 2 ^ 31 := Nat.pow_le_pow_right (by decide) hw'
  rw [Nat.mod_eq_of_lt hv] at hread
  exact ⟨_, Nat.mod_eq_of_lt (by omega), hread⟩

/-- A residue modulo `2 ^ 16` is stored as the number itself is. -/
theorem int16_emod (x : ℤ) : int16 (x % 65536) = int16 x := Int.emod_bmod x (2 ^ 16)

/-- A signed number is read as an unsigned one. -/
theorem consumes_word (x : ℤ) :
    ∃ word : BitVec 32, word.toInt = x % 65536 ∧ Consumes alacSource (readbits 16) (signedWord x) word := by
  have hlt := (BitVec.ofInt 16 x).isLt
  obtain ⟨word, hword, hread⟩ := consumes_field (w := 16) (by decide) (by decide) hlt
  refine ⟨word, ?_, hread⟩
  rw [BitVec.toInt_eq_toNat_of_lt (by omega), hword, BitVec.toNat_ofInt]
  omega

/-- A sample that is sent uncompressed is read with its sign. -/
theorem consumes_readSample {x : ℤ} (hx : int16 x = x) :
    Consumes alacSource readSample (signedWord x) x := by
  obtain ⟨word, hword, hread⟩ := consumes_word x
  have hext : signExtended32 word.toInt 16 = some x := by
    rw [hword, signExtended32_eq _ (by decide) (by decide)]
    exact congrArg some ((int16_emod x).trans hx)
  have hall := hread.bind (f := fun audiobits => StateT.lift (signExtended32 audiobits.toInt 16))
    (consumes_lift hext)
  rw [List.append_nil] at hall
  exact hall

/-- A coefficient of the header is read with its sign. -/
theorem consumes_coef {x : ℤ} (hx : int16 x = x) :
    Consumes alacSource ((fun coef => int16 coef.toInt) <$> readbits 16) (signedWord x) x := by
  obtain ⟨word, hword, hread⟩ := consumes_word x
  have hall := hread.map (f := fun coef => int16 coef.toInt)
  rw [hword, int16_emod, hx] at hall
  exact hall

/-- **The choice for a channel is read.** -/
theorem consumes_readChannelHeader (c : ChannelCode s) :
    Consumes alacSource readChannelHeader (encodeChannelHeader c) c.header := by
  have hcoefs : Consumes alacSource
      (readMany ((fun coef => int16 coef.toInt) <$> readbits 16) c.coefTable.length)
      (c.coefTable.flatMap signedWord) (c.coefTable.map id) := by
    refine consumes_readMany ?_
    intro coef hcoef
    exact consumes_coef (c.coef_range coef hcoef)
  rw [List.map_id] at hcoefs
  obtain ⟨t, ht, htype⟩ := @consumes_field 4 0 (by decide) (by decide) (by decide)
  obtain ⟨q, hq, hquant⟩ := @consumes_field 4 c.quantitization (by decide) (by decide)
    (by have := c.quantitization_le; omega)
  obtain ⟨r, hr, hrice⟩ := @consumes_field 3 c.ricemodifier (by decide) (by decide)
    (by have := c.ricemodifier_le; omega)
  obtain ⟨k, hk, hnum⟩ := @consumes_field 5 c.coefTable.length (by decide) (by decide)
    (by have := c.coefNum_le; omega)
  have hread : Consumes alacSource readChannelHeader (encodeChannelHeader c)
      ⟨t.toNat, q.toNat, r.toNat, c.coefTable⟩ := by
    unfold readChannelHeader encodeChannelHeader
    refine htype.bind (hquant.bind (hrice.bind (hnum.bind ?_)))
    rw [hk]
    exact hcoefs.bind_pure
  rw [ht, hq, hr] at hread
  exact hread

/-! ## A channel -/

/-- The decoder of the session. -/
structure SetUp (s : AlacSetup) (d : AlacDecoder) : Prop where
  samplesPerFrame : d.setinfoMaxSamplesPerFrame.toNat = s.samplesPerFrame
  historymult : d.setinfoRiceHistorymult = s.historymult
  initialhistory : d.setinfoRiceInitialhistory = s.initialhistory
  kmodifier : d.setinfoRiceKmodifier = s.kmodifier
  predicterrorBufferA : d.predicterrorBufferA.length = s.samplesPerFrame
  predicterrorBufferB : d.predicterrorBufferB.length = s.samplesPerFrame
  outputsamplesBufferA : d.outputsamplesBufferA.length = s.samplesPerFrame
  outputsamplesBufferB : d.outputsamplesBufferB.length = s.samplesPerFrame
  uncompressedBytesBufferA : d.uncompressedBytesBufferA.length = s.samplesPerFrame
  uncompressedBytesBufferB : d.uncompressedBytesBufferB.length = s.samplesPerFrame

variable {d : AlacDecoder}

/-- The arguments the decoder takes from the header are those of the code. -/
theorem riceArgs_header (hd : SetUp s d) (c : ChannelCode s) :
    riceArgs d c.header (sampleSize + 1) = c.rice.args := by
  unfold riceArgs
  rw [hd.historymult, hd.initialhistory, hd.kmodifier]
  rfl

/-- A number of 17 bits fits the code. -/
theorem zigzag_lt {bits : ℕ} (hpos : 1 ≤ bits) {x : ℤ} (hx : x.bmod (2 ^ bits) = x) :
    zigzag x < 2 ^ bits := by
  obtain ⟨j, rfl⟩ : ∃ j, bits = j + 1 := ⟨bits - 1, by omega⟩
  have hpow : 2 ^ (j + 1) = 2 * 2 ^ j := Nat.pow_succ'
  have hlo := @Int.le_bmod x (2 ^ (j + 1)) (Nat.two_pow_pos _)
  have hhi := @Int.bmod_lt x (2 ^ (j + 1)) (Nat.two_pow_pos _)
  rw [hx, hpow] at hlo hhi
  rw [hpow]
  unfold zigzag
  split <;> omega

/-- **A channel comes back** from its code. -/
theorem consumes_decodeChannel (hd : SetUp s d) (c : ChannelCode s) {xs errorBuffer outBuffer : List ℤ}
    (hne : xs ≠ []) (hlen : xs.length ≤ s.samplesPerFrame)
    (hxs : ∀ x ∈ xs, x.bmod (2 ^ (sampleSize + 1)) = x)
    (herror : errorBuffer.length = s.samplesPerFrame) (hout : outBuffer.length = s.samplesPerFrame) :
    ∃ errors samples, errors.length = s.samplesPerFrame ∧ samples.length = s.samplesPerFrame ∧
      samples.take xs.length = xs ∧
      Consumes alacSource (decodeChannel d c.header (sampleSize + 1) xs.length errorBuffer outBuffer)
        (encodeChannel c xs) (errors, samples) := by
  have hcount := s.samplesPerFrame_le
  have hkmod := s.kmodifier_le
  have hres := @length_firResiduals (sampleSize + 1) c.quantitization c.coefTable xs
  have hrice := @consumes_riceLoop c.rice c.rice.initial 0
    (firResiduals (sampleSize + 1) c.quantitization c.coefTable xs)
    (fun e he => zigzag_lt c.rice.size_pos (bmod_of_mem_firResiduals hxs he)) (by omega)
    c.rice.initial_le (.inr ⟨c.rice.initial_pos, rfl⟩)
  have hstore : storeRange errorBuffer 0 (firResiduals (sampleSize + 1) c.quantitization c.coefTable xs)
      = some (firResiduals (sampleSize + 1) c.quantitization c.coefTable xs
        ++ errorBuffer.drop xs.length) := by
    rw [storeRange_of_le (by omega), hres, Nat.zero_add, List.take_zero, List.nil_append]
  have hdrop : xs.length + (errorBuffer.drop xs.length).length = outBuffer.length := by
    rw [List.length_drop]
    omega
  obtain ⟨samples, hpredict, hsamples, htake⟩ := @predictorDecompressFirAdapt_residuals
    (sampleSize + 1) c.quantitization (by decide) (by decide) c.coefTable xs _ outBuffer
    c.quantitization_pos hne hxs (by omega) (c.coefNum_lt.trans_eq hout.symm) hdrop
  refine ⟨firResiduals (sampleSize + 1) c.quantitization c.coefTable xs ++ errorBuffer.drop xs.length,
    samples, ?_, hsamples.trans hout, htake, ?_⟩
  · rw [List.length_append, hres, hdrop, hout]
  · rw [hres] at hrice
    unfold decodeChannel entropyRiceDecode
    rw [riceArgs_header hd, hd.kmodifier, if_neg (by omega), Int.toNat_natCast]
    have herrors := hrice.bind (f := fun written => StateT.lift (storeRange errorBuffer 0 written))
      (consumes_lift hstore)
    rw [List.append_nil] at herrors
    have hall := herrors.bind (f := fun errors => (StateT.lift (predictorDecompressFirAdapt errors
      outBuffer xs.length (sampleSize + 1) c.coefTable c.quantitization) >>= fun samples =>
        pure (errors, samples))) (consumes_lift hpredict).bind_pure
    rw [List.append_nil] at hall
    exact hall

/-! ## The two channels -/

/-- The weighted mean of two samples lies between them. -/
theorem Interlacing.weighted_bounds (i : Interlacing) (difference : ℤ) :
    min 0 difference ≤ (difference * i.leftweight) >>> i.shift ∧
      (difference * i.leftweight) >>> i.shift ≤ max 0 difference := by
  have hle : (i.leftweight : ℤ) ≤ 2 ^ i.shift := by exact_mod_cast i.leftweight_le_pow
  have hpos : (0 : ℤ) < 2 ^ i.shift := by positivity
  have hnonneg : (0 : ℤ) ≤ i.leftweight := Int.natCast_nonneg _
  rw [Int.shiftRight_eq_div_pow, Nat.cast_pow, Nat.cast_two]
  rcases le_total 0 difference with hsign | hsign
  · rw [min_eq_left hsign, max_eq_right hsign]
    refine ⟨Int.ediv_nonneg (Int.mul_nonneg hsign hnonneg) hpos.le, ?_⟩
    exact Int.ediv_le_of_le_mul hpos (Int.mul_le_mul_of_nonneg_left hle hsign)
  · rw [min_eq_right hsign, max_eq_left hsign]
    refine ⟨?_, ?_⟩
    · exact Int.le_ediv_of_mul_le hpos (Int.mul_le_mul_of_nonpos_left hsign hle)
    · refine Int.ediv_le_of_le_mul hpos ?_
      rw [Int.zero_mul]
      exact Int.mul_nonpos_of_nonpos_of_nonneg hsign hnonneg

/-- **The two samples come back** from what stands for them. -/
theorem Interlacing.deinterlaceSample_mix (i : Interlacing) (f : StereoFrame) :
    deinterlaceSample i.shift i.leftweight (i.mix f).1 (i.mix f).2 = f := by
  obtain ⟨left, right⟩ := f
  unfold deinterlaceSample Interlacing.mix
  by_cases hweight : i.leftweight ≠ 0
  · have hleft := BitVec.toInt_lt (x := left)
    have hleft' := BitVec.le_toInt left
    have hright := BitVec.toInt_lt (x := right)
    have hright' := BitVec.le_toInt right
    have hle : (i.leftweight : ℤ) ≤ 255 := by exact_mod_cast i.leftweight_le
    have hnonneg : (0 : ℤ) ≤ i.leftweight := Int.natCast_nonneg _
    have hproduct : int32 ((left.toInt - right.toInt) * i.leftweight)
        = (left.toInt - right.toInt) * i.leftweight := by
      have hlow : 0 ≤ (left.toInt - right.toInt + 65536) * i.leftweight :=
        Int.mul_nonneg (by omega) hnonneg
      have hhigh : 0 ≤ (65536 - (left.toInt - right.toInt)) * i.leftweight :=
        Int.mul_nonneg (by omega) hnonneg
      rw [Int.add_mul] at hlow
      rw [Int.sub_mul] at hhigh
      apply int32_of_lt <;> omega
    simp only [if_pos hweight, hproduct, add_sub_cancel_right, BitVec.ofInt_toInt, add_sub_cancel]
  · simp only [if_neg hweight, BitVec.ofInt_toInt]

/-- What stands for two samples has 17 bits. -/
theorem Interlacing.bmod_mix (i : Interlacing) (f : StereoFrame) :
    (i.mix f).1.bmod (2 ^ (sampleSize + 1)) = (i.mix f).1 ∧
      (i.mix f).2.bmod (2 ^ (sampleSize + 1)) = (i.mix f).2 := by
  have hrange : ∀ x : ℤ, -65536 ≤ x → x < 65536 → x.bmod (2 ^ (sampleSize + 1)) = x := by
    intro x hlo hhi
    apply Int.bmod_eq_of_le
    · exact hlo
    · exact hhi
  have hleft := BitVec.toInt_lt (x := f.1)
  have hleft' := BitVec.le_toInt f.1
  have hright := BitVec.toInt_lt (x := f.2)
  have hright' := BitVec.le_toInt f.2
  have hmean := i.weighted_bounds (f.1.toInt - f.2.toInt)
  unfold Interlacing.mix
  split_ifs
  · exact ⟨hrange _ (by omega) (by omega), hrange _ (by omega) (by omega)⟩
  · exact ⟨hrange _ (by omega) (by omega), hrange _ (by omega) (by omega)⟩

/-- With a zero weight the channels are as they were. -/
theorem deinterlaceSample_zero (f : StereoFrame) :
    deinterlaceSample 0 0 f.1.toInt f.2.toInt = f := by
  unfold deinterlaceSample
  rw [if_neg (by decide), BitVec.ofInt_toInt, BitVec.ofInt_toInt]

/-- The frames are in front of the output. -/
theorem deinterlace16_eq {bufferA bufferB : List ℤ} {out frames : List StereoFrame} {shift leftweight : ℕ}
    (mix : StereoFrame → ℤ × ℤ) (hne : frames ≠ []) (hshift : shift ≤ 31)
    (hmix : ∀ f, deinterlaceSample shift leftweight (mix f).1 (mix f).2 = f)
    (hA : bufferA.take frames.length = frames.map fun f => (mix f).1)
    (hB : bufferB.take frames.length = frames.map fun f => (mix f).2)
    (hroom : frames.length ≤ out.length) :
    deinterlace16 bufferA bufferB out frames.length shift leftweight
      = some (frames ++ out.drop frames.length) := by
  have hpos := List.length_pos_iff.mpr hne
  have hlenA : frames.length ≤ bufferA.length := by
    have hcount := congrArg List.length hA
    rw [List.length_take, List.length_map] at hcount
    omega
  have hlenB : frames.length ≤ bufferB.length := by
    have hcount := congrArg List.length hB
    rw [List.length_take, List.length_map] at hcount
    omega
  have hzip : (frames.map fun f => (mix f).1).zipWith (deinterlaceSample shift leftweight)
      (frames.map fun f => (mix f).2) = frames := by
    rw [List.zipWith_map, List.zipWith_self, List.map_congr_left (fun f _ => hmix f), List.map_id']
  unfold deinterlace16
  rw [if_neg (by omega), if_neg (by omega), Int.toNat_natCast, loadRange_of_le (by omega),
    loadRange_of_le (by omega), List.drop_zero, List.drop_zero, hA, hB]
  show storeRange out 0 (List.zipWith _ _ _) = _
  rw [hzip, storeRange_of_le (by omega), List.take_zero, List.nil_append, Nat.zero_add]

/-! ## A frame -/

/-- A sample is stored as it is. -/
theorem int16_toInt (x : BitVec 16) : int16 x.toInt = x.toInt := BitVec.toInt_bmod_cancel x

/-- What the decoder holds of a frame: its buffers, the way the channels are mixed, and that the output
is made of them. -/
structure Holds (s : AlacSetup) (frames : List StereoFrame) (r : AlacDecoder × ℕ × ℕ) : Prop where
  setUp : SetUp s r.1
  output : ∀ out : List StereoFrame, frames.length ≤ out.length →
    deinterlace16 r.1.outputsamplesBufferA r.1.outputsamplesBufferB out frames.length r.2.1 r.2.2
      = some (frames ++ out.drop frames.length)

variable {frames : List StereoFrame} {h : FrameHeader}

/-- The frames that are not compressed. -/
theorem consumes_decodeStereo_uncompressed (hd : SetUp s d) (hne : frames ≠ [])
    (hlen : frames.length ≤ s.samplesPerFrame) (hsamples : h.outputsamples.toInt = frames.length)
    (hraw : h.isnotcompressed = true) :
    ∃ r, Holds s frames r ∧
      Consumes alacSource (decodeStereo d h) (encodeBody frames (FrameCode.uncompressed (s := s))) r := by
  have hread : Consumes alacSource (readMany (do return (← readSample, ← readSample)) frames.length)
      (frames.flatMap fun f => signedWord f.1.toInt ++ signedWord f.2.toInt)
      (frames.map fun f => (f.1.toInt, f.2.toInt)) := by
    refine consumes_readMany ?_
    intro f _
    exact (consumes_readSample (int16_toInt f.1)).bind
      (consumes_readSample (int16_toInt f.2)).bind_pure
  have hbuffer : ∀ buffer : List ℤ, buffer.length = s.samplesPerFrame → ∀ value : StereoFrame → ℤ,
      ∃ samples, storeRange buffer 0 (frames.map value) = some samples ∧
        samples.length = s.samplesPerFrame ∧ samples.take frames.length = frames.map value := by
    intro buffer hbuffer value
    obtain ⟨out, hstore, hout, htake⟩ := @storeRange_zero buffer (frames.map value) []
      (by rw [List.length_map, List.length_nil]; omega)
    rw [List.append_nil] at hstore
    rw [List.length_map] at htake
    exact ⟨out, hstore, hout.trans hbuffer, htake⟩
  obtain ⟨as, hstoreA, hlenA, htakeA⟩ := hbuffer _ hd.outputsamplesBufferA fun f => f.1.toInt
  obtain ⟨bs, hstoreB, hlenB, htakeB⟩ := hbuffer _ hd.outputsamplesBufferB fun f => f.2.toInt
  refine ⟨({ d with outputsamplesBufferA := as, outputsamplesBufferB := bs }, 0, 0), ⟨?_, ?_⟩, ?_⟩
  · exact { hd with outputsamplesBufferA := hlenA, outputsamplesBufferB := hlenB }
  · intro out hroom
    exact deinterlace16_eq (fun f => (f.1.toInt, f.2.toInt)) hne (Nat.zero_le 31)
      deinterlaceSample_zero htakeA htakeB hroom
  · unfold decodeStereo encodeBody
    simp only [hraw, hsamples, Int.toNat_natCast, if_true]
    rw [← List.append_nil (frames.flatMap _)]
    refine hread.bind ?_
    rw [List.map_map, List.map_map]
    exact consumes_lift_bind hstoreA (consumes_lift_bind hstoreB (consumes_pure _))

/-- A compressed frame of two channels is decoded: headers, both codes, prediction and mixing. -/
theorem consumes_decodeStereo_compressed (hd : SetUp s d) (i : Interlacing) (chA chB : ChannelCode s)
    (hne : frames ≠ []) (hlen : frames.length ≤ s.samplesPerFrame)
    (hsamples : h.outputsamples.toInt = frames.length) (hraw : h.isnotcompressed = false)
    (hlow : h.uncompressedBytes = 0) :
    ∃ r, Holds s frames r ∧
      Consumes alacSource (decodeStereo d h) (encodeBody frames (.compressed i chA chB)) r := by
  obtain ⟨shift, hshift, hreadShift⟩ := @consumes_field 8 i.shift (by decide) (by decide)
    (by have := i.shift_le; omega)
  obtain ⟨weight, hweight, hreadWeight⟩ := @consumes_field 8 i.leftweight (by decide) (by decide)
    (by have := i.leftweight_le; omega)
  have hmix : ∀ value : StereoFrame → ℤ, (∀ f, (value f).bmod (2 ^ (sampleSize + 1)) = value f) →
      ∀ x ∈ frames.map value, x.bmod (2 ^ (sampleSize + 1)) = x := by
    intro value hvalue x hx
    obtain ⟨f, -, rfl⟩ := List.mem_map.mp hx
    exact hvalue f
  have hchannel : ∀ (c : ChannelCode s) (value : StereoFrame → ℤ) (errorBuffer outBuffer : List ℤ),
      (∀ f, (value f).bmod (2 ^ (sampleSize + 1)) = value f) →
      errorBuffer.length = s.samplesPerFrame → outBuffer.length = s.samplesPerFrame →
      ∃ errors samples, errors.length = s.samplesPerFrame ∧ samples.length = s.samplesPerFrame ∧
        samples.take frames.length = frames.map value ∧
        Consumes alacSource (decodeChannel d c.header (sampleSize + 1) frames.length errorBuffer outBuffer)
          (encodeChannel c (frames.map value)) (errors, samples) := by
    intro c value errorBuffer outBuffer hvalue herror hout
    have hall := @consumes_decodeChannel s d hd c (frames.map value) errorBuffer outBuffer
      (by rwa [Ne, List.map_eq_nil_iff]) (by rwa [List.length_map])
      (hmix value hvalue) herror hout
    rwa [List.length_map] at hall
  obtain ⟨errorsA, samplesA, hlenErrorsA, hlenA, htakeA, hreadA⟩ := hchannel chA (fun f => (i.mix f).1)
    _ _ (fun f => (i.bmod_mix f).1) hd.predicterrorBufferA hd.outputsamplesBufferA
  obtain ⟨errorsB, samplesB, hlenErrorsB, hlenB, htakeB, hreadB⟩ := hchannel chB (fun f => (i.mix f).2)
    _ _ (fun f => (i.bmod_mix f).2) hd.predicterrorBufferB hd.outputsamplesBufferB
  refine ⟨({ d with
    predicterrorBufferA := errorsA
    predicterrorBufferB := errorsB
    outputsamplesBufferA := samplesA
    outputsamplesBufferB := samplesB }, i.shift, i.leftweight), ⟨?_, ?_⟩, ?_⟩
  · exact { hd with
      predicterrorBufferA := hlenErrorsA
      predicterrorBufferB := hlenErrorsB
      outputsamplesBufferA := hlenA
      outputsamplesBufferB := hlenB }
  · intro out hroom
    exact deinterlace16_eq i.mix hne i.shift_le i.deinterlaceSample_mix htakeA htakeB hroom
  · unfold decodeStereo encodeBody readLowBytePairs
    simp only [hraw, hlow, hsamples, Nat.zero_mul, Nat.sub_zero, Bool.false_eq_true, if_false, if_true]
    refine hreadShift.bind (hreadWeight.bind ?_)
    rw [hshift, hweight]
    refine (consumes_readChannelHeader chA).bind ((consumes_readChannelHeader chB).bind ?_)
    refine (consumes_pure d).bind (hreadA.bind ?_)
    exact hreadB.bind_pure

/-- A flag of the frame header is read as it was written. -/
theorem consumes_flag (b : Bool) :
    ∃ word : BitVec 32, decide (word ≠ 0) = b ∧
      Consumes alacSource (readbits 1) (wordBits 1 b.toNat) word := by
  obtain ⟨word, hword, hread⟩ := @consumes_field 1 b.toNat (by decide) (by decide)
    (by have := Bool.toNat_le b; omega)
  refine ⟨word, ?_, hread⟩
  cases b with
  | false =>
      rw [show word = 0 from BitVec.eq_of_toNat_eq hword]
      rfl
  | true =>
      rw [show word = 1 from BitVec.eq_of_toNat_eq hword]
      rfl

/-- **The header of a frame is read.** -/
theorem consumes_readFrameHeader (hd : SetUp s d) (code : FrameCode s) {count : ℕ}
    (hcount : count ≤ s.samplesPerFrame) :
    ∃ h : FrameHeader, h.isnotcompressed = code.isnotcompressed ∧ h.uncompressedBytes = 0 ∧
      h.outputsamples.toNat = count ∧
      Consumes alacSource (readFrameHeader d) (encodeFrameHeader code count) h := by
  have hmax := s.samplesPerFrame_le
  obtain ⟨waiting, -, hwaiting⟩ := @consumes_field 4 0 (by decide) (by decide) (by decide)
  obtain ⟨unknown, -, hunknown⟩ := @consumes_field 12 0 (by decide) (by decide) (by decide)
  obtain ⟨hassize, hsize, hreadSize⟩ := consumes_flag (decide (count ≠ s.samplesPerFrame))
  obtain ⟨low, hlow, hreadLow⟩ := @consumes_field 2 0 (by decide) (by decide) (by decide)
  obtain ⟨raw, hraw, hreadRaw⟩ := consumes_flag code.isnotcompressed
  have hsamples : ∃ word : BitVec 32, word.toNat = count ∧
      Consumes alacSource (readSampleCount d hassize)
        (if count ≠ s.samplesPerFrame then wordBits 32 count else []) word := by
    by_cases hown : count ≠ s.samplesPerFrame
    · have hread := consumes_readbits (n := 32) (by decide) le_rfl count
      rw [Nat.mod_eq_of_lt (by omega)] at hread
      rw [if_pos hown]
      refine ⟨_, Nat.mod_eq_of_lt (by omega), consumes_ite_pos ?_ hread⟩
      exact of_decide_eq_true (hsize.trans (decide_eq_true hown))
    · rw [if_neg hown]
      refine ⟨_, hd.samplesPerFrame.trans (not_not.mp hown).symm, consumes_ite_neg ?_ (consumes_pure _)⟩
      exact of_decide_eq_false (hsize.trans (decide_eq_false hown))
  obtain ⟨samples, hval, hreadSamples⟩ := hsamples
  refine ⟨⟨decide (hassize ≠ 0), low.toNat, decide (raw ≠ 0), samples⟩, hraw, hlow, hval, ?_⟩
  unfold readFrameHeader encodeFrameHeader
  refine hwaiting.bind (hunknown.bind (hreadSize.bind (hreadLow.bind (hreadRaw.bind ?_))))
  exact hreadSamples.bind_pure

/-- **A frame comes back** from its code, whatever an encoder chooses: it is in front of the output, the
rest of which stays, and `*outputsize` is the number of its bytes. -/
theorem consumes_decodeFrame (hd : SetUp s d) (code : FrameCode s) (hne : frames ≠ [])
    (hlen : frames.length ≤ s.samplesPerFrame) {out : List StereoFrame}
    (hout : frames.length ≤ out.length) {allocationSize : BitVec 32}
    (hsize : (4 * s.samplesPerFrame : ℤ) ≤ allocationSize.toInt) :
    ∃ d', SetUp s d' ∧ Consumes alacSource (decodeFrame d out allocationSize) (encodeFrame code frames)
      ⟨d', frames ++ out.drop frames.length, BitVec.ofNat 32 (4 * frames.length)⟩ := by
  have hcount := s.samplesPerFrame_le
  have hbytes : ∀ n : BitVec 32, n * bytespersample = BitVec.ofNat 32 (4 * n.toNat) := by
    intro n
    apply BitVec.eq_of_toNat_eq
    rw [BitVec.toNat_mul, BitVec.toNat_ofNat, show bytespersample.toNat = 4 from rfl, Nat.mul_comm]
  have hfits : ∀ n : BitVec 32, n.toNat ≤ s.samplesPerFrame →
      ¬allocationSize.slt (n * bytespersample) = true := by
    intro n hn
    rw [hbytes n, BitVec.slt_iff_toInt_lt, toInt_ofNat (by omega)]
    omega
  obtain ⟨channels, hchannels, hreadChannels⟩ := @consumes_field 3 1 (by decide) (by decide) (by decide)
  obtain rfl : channels = 1 := BitVec.eq_of_toNat_eq hchannels
  obtain ⟨h, hraw, hlow, hsamples, hreadHeader⟩ := consumes_readFrameHeader hd code hlen
  have hint : h.outputsamples.toInt = frames.length := by
    rw [BitVec.toInt_eq_toNat_of_lt (by omega), hsamples]
  have hbody : ∃ r, Holds s frames r ∧ Consumes alacSource (decodeStereo d h) (encodeBody frames code) r := by
    cases code with
    | uncompressed => exact consumes_decodeStereo_uncompressed hd hne hlen hint hraw
    | compressed i chA chB =>
        exact consumes_decodeStereo_compressed hd i chA chB hne hlen hint hraw hlow
  obtain ⟨⟨d', shift, leftweight⟩, hholds, hread⟩ := hbody
  refine ⟨d', hholds.setUp, ?_⟩
  unfold decodeFrame encodeFrame
  refine hreadChannels.bind (consumes_ite_neg (hfits _ hd.samplesPerFrame.le)
    (consumes_ite_neg (by decide) (hreadHeader.bind ?_)))
  refine consumes_ite_neg ?_ (consumes_ite_neg (by decide) ?_)
  · exact fun hno => hfits _ (hsamples.trans_le hlen) hno.2
  · rw [← List.append_nil (encodeBody frames code), hint, ← hsamples, ← hbytes, hsamples]
    refine hread.bind ?_
    exact consumes_lift_bind (hholds.output out hout) (consumes_pure _)

/-- So does a frame that is packed into bytes, whatever follows them in the buffer. -/
theorem alacDecodeFrame_packed (hd : SetUp s d) (code : FrameCode s) (hne : frames ≠ [])
    (hlen : frames.length ≤ s.samplesPerFrame) {out : List StereoFrame}
    (hout : frames.length ≤ out.length) {allocationSize : BitVec 32}
    (hsize : (4 * s.samplesPerFrame : ℤ) ≤ allocationSize.toInt) {behind : Bytes}
    (hbehind : 3 ≤ behind.length) :
    ∃ d', SetUp s d' ∧
      alacDecodeFrame d (packBits (encodeFrame code frames) ++ behind) out allocationSize
        = some ⟨d', frames ++ out.drop frames.length, BitVec.ofNat 32 (4 * frames.length)⟩ := by
  obtain ⟨d', hd', hread⟩ := consumes_decodeFrame hd code hne hlen hout hsize
  refine ⟨d', hd', ?_⟩
  unfold alacDecodeFrame
  rw [StateT.run'_eq, hread.run_packed hbehind]
  rfl

end Alac

end ConduitStream
