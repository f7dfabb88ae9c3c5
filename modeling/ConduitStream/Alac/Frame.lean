import ConduitStream.Alac.Predictor
import ConduitStream.Playback.Samples

/-! # The frames of the decoder (`alac_decode_frame` in `alac.c`)

A frame holds the samples of one or two channels as they are, or the residuals of a prediction. The
decoder is that of a session: samples of 16 bits, and an output of two channels, whose pairs of samples
are the frames of the PCM ring.

An access outside a buffer has no result, and neither has a shift by 32 bits and more: the function
stays within its buffers whenever it has one. -/

namespace ConduitStream

/-- `alac_file` as `build_decoder` sets it up, with the buffers of `alac_allocate_buffers`. -/
structure AlacDecoder where
  setinfoMaxSamplesPerFrame : BitVec 32
  setinfoRiceHistorymult : ℕ
  setinfoRiceInitialhistory : ℕ
  setinfoRiceKmodifier : ℕ
  predicterrorBufferA : List ℤ
  predicterrorBufferB : List ℤ
  outputsamplesBufferA : List ℤ
  outputsamplesBufferB : List ℤ
  uncompressedBytesBufferA : List ℤ
  uncompressedBytesBufferB : List ℤ
  deriving DecidableEq, Repr

namespace Alac

/-- `setinfo_sample_size`. -/
def sampleSize : ℕ := 16

/-- `bytespersample`, of 16 bits in two channels. -/
def bytespersample : BitVec 32 := 4

/-! ## A channel -/

/-- What is read for a channel in front of its residuals. -/
structure ChannelHeader where
  predictionType : ℕ
  predictionQuantitization : ℕ
  ricemodifier : ℕ
  predictorCoefTable : List ℤ
  deriving DecidableEq, Repr

/-- The reads of a channel, the same in both cases. -/
def readChannelHeader : AlacReading ChannelHeader := do
  let predictionType ← readbits 4
  let predictionQuantitization ← readbits 4
  let ricemodifier ← readbits 3
  let predictorCoefNum ← readbits 5
  let predictorCoefTable ← readMany ((fun coef => int16 coef.toInt) <$> readbits 16) predictorCoefNum.toNat
  return ⟨predictionType.toNat, predictionQuantitization.toNat, ricemodifier.toNat, predictorCoefTable⟩

/-- The arguments of `entropy_rice_decode`. -/
def riceArgs (d : AlacDecoder) (ch : ChannelHeader) (readsamplesize : ℕ) : RiceArgs where
  readSampleSize := readsamplesize
  initialhistory := d.setinfoRiceInitialhistory
  kmodifier := d.setinfoRiceKmodifier
  historymult := (ch.ricemodifier * d.setinfoRiceHistorymult / 4 : ℕ)
  kmodifierMask := (1 : BitVec 32) <<< d.setinfoRiceKmodifier - 1

/-- The residuals and the samples of a channel: its two buffers afterwards. -/
def decodeChannel (d : AlacDecoder) (ch : ChannelHeader) (readsamplesize : ℕ) (outputsamples : ℤ)
    (predicterrorBuffer outputsamplesBuffer : List ℤ) : AlacReading (List ℤ × List ℤ) := do
  if 31 < d.setinfoRiceKmodifier then StateT.lift none
  else
    let errors ← entropyRiceDecode (riceArgs d ch readsamplesize) predicterrorBuffer outputsamples
    if ch.predictionType = 0 then
      let samples ← StateT.lift (predictorDecompressFirAdapt errors outputsamplesBuffer
        outputsamples.toNat readsamplesize ch.predictorCoefTable ch.predictionQuantitization)
      return (errors, samples)
    else return (errors, outputsamplesBuffer)

/-- A sample that is not compressed. -/
def readSample : AlacReading ℤ := do
  let audiobits ← readbits sampleSize
  StateT.lift (signExtended32 audiobits.toInt sampleSize)

/-! ## The output -/

/-- One round of `deinterlace_16`. -/
def deinterlaceSample (shift leftweight : ℕ) (a b : ℤ) : StereoFrame :=
  if leftweight ≠ 0 then
    let midright := a
    let difference := b
    let right := BitVec.ofInt 16 (midright - int32 (difference * leftweight) >>> shift)
    let left := BitVec.ofInt 16 (right.toInt + difference)
    (left, right)
  else (BitVec.ofInt 16 a, BitVec.ofInt 16 b)

/-- `deinterlace_16`. -/
def deinterlace16 (bufferA bufferB : List ℤ) (bufferOut : List StereoFrame) (numsamples : ℤ)
    (interlacingShift interlacingLeftweight : ℕ) : Option (List StereoFrame) :=
  if numsamples ≤ 0 then some bufferOut
  else if interlacingLeftweight ≠ 0 ∧ 32 ≤ interlacingShift then none
  else do
    let as ← loadRange bufferA 0 numsamples.toNat
    let bs ← loadRange bufferB 0 numsamples.toNat
    storeRange bufferOut 0 (as.zipWith (deinterlaceSample interlacingShift interlacingLeftweight) bs)

/-- The output of one channel: the left samples. -/
def storeMono (buffer : List ℤ) (outbuffer : List StereoFrame) (outputsamples : ℤ) :
    Option (List StereoFrame) := do
  let samples ← loadRange buffer 0 outputsamples.toNat
  let old ← loadRange outbuffer 0 outputsamples.toNat
  storeRange outbuffer 0 (samples.zipWith (fun sample f => (BitVec.ofInt 16 sample, f.2)) old)

/-! ## A frame -/

/-- What the decoder leaves: its buffers, the output and `*outputsize`. -/
structure Decoded where
  decoder : AlacDecoder
  outbuffer : List StereoFrame
  outputsize : BitVec 32
  deriving DecidableEq, Repr

/-- The fields of the header behind the channel case, up to the sample count. -/
structure FrameHeader where
  hassize : Bool
  uncompressedBytes : ℕ
  isnotcompressed : Bool
  outputsamples : BitVec 32
  deriving DecidableEq, Repr

/-- The number of samples, which a frame may store. -/
def readSampleCount (d : AlacDecoder) (hassize : BitVec 32) : AlacReading (BitVec 32) :=
  if hassize ≠ 0 then readbits 32 else pure d.setinfoMaxSamplesPerFrame

/-- The header reads, the same in both cases. -/
def readFrameHeader (d : AlacDecoder) : AlacReading FrameHeader := do
  let _ ← readbits 4
  let _ ← readbits 12
  let hassize ← readbits 1
  let uncompressedBytes ← readbits 2
  let isnotcompressed ← readbits 1
  let outputsamples ← readSampleCount d hassize
  return ⟨hassize ≠ 0, uncompressedBytes.toNat, isnotcompressed ≠ 0, outputsamples⟩

/-- The low bytes of the samples of one channel, of no use for 16 bits. -/
def readLowBytes (d : AlacDecoder) (h : FrameHeader) : AlacReading AlacDecoder :=
  if h.uncompressedBytes = 0 then return d
  else do
    let low ← readMany ((·.toInt) <$> readbits (h.uncompressedBytes * 8)) h.outputsamples.toInt.toNat
    let as ← StateT.lift (storeRange d.uncompressedBytesBufferA 0 low)
    return { d with uncompressedBytesBufferA := as }

/-- The low bytes of two channels. -/
def readLowBytePairs (d : AlacDecoder) (h : FrameHeader) : AlacReading AlacDecoder :=
  if h.uncompressedBytes = 0 then return d
  else do
    let low ← readMany (do
      let a ← readbits (h.uncompressedBytes * 8)
      let b ← readbits (h.uncompressedBytes * 8)
      return (a.toInt, b.toInt)) h.outputsamples.toInt.toNat
    let as ← StateT.lift (storeRange d.uncompressedBytesBufferA 0 (low.map Prod.fst))
    let bs ← StateT.lift (storeRange d.uncompressedBytesBufferB 0 (low.map Prod.snd))
    return { d with uncompressedBytesBufferA := as, uncompressedBytesBufferB := bs }

/-- The samples of one channel. -/
def decodeMono (d : AlacDecoder) (h : FrameHeader) : AlacReading AlacDecoder :=
  let n := h.outputsamples.toInt
  if h.isnotcompressed then do
    let samples ← readMany readSample n.toNat
    let samples ← StateT.lift (storeRange d.outputsamplesBufferA 0 samples)
    return { d with outputsamplesBufferA := samples }
  else do
    let _ ← readbits 8
    let _ ← readbits 8
    let ch ← readChannelHeader
    let d ← readLowBytes d h
    let (errors, samples) ← decodeChannel d ch (sampleSize - h.uncompressedBytes * 8) n
      d.predicterrorBufferA d.outputsamplesBufferA
    return { d with predicterrorBufferA := errors, outputsamplesBufferA := samples }

/-- The samples of two channels, with `interlacing_shift` and `interlacing_leftweight`. -/
def decodeStereo (d : AlacDecoder) (h : FrameHeader) : AlacReading (AlacDecoder × ℕ × ℕ) :=
  let n := h.outputsamples.toInt
  if h.isnotcompressed then do
    let samples ← readMany (do return (← readSample, ← readSample)) n.toNat
    let as ← StateT.lift (storeRange d.outputsamplesBufferA 0 (samples.map Prod.fst))
    let bs ← StateT.lift (storeRange d.outputsamplesBufferB 0 (samples.map Prod.snd))
    return ({ d with outputsamplesBufferA := as, outputsamplesBufferB := bs }, 0, 0)
  else do
    let interlacingShift ← readbits 8
    let interlacingLeftweight ← readbits 8
    let chA ← readChannelHeader
    let chB ← readChannelHeader
    let d ← readLowBytePairs d h
    -- one bit more than the samples, for a difference
    let readsamplesize := sampleSize + 1 - h.uncompressedBytes * 8
    let (errorsA, samplesA) ←
      decodeChannel d chA readsamplesize n d.predicterrorBufferA d.outputsamplesBufferA
    let (errorsB, samplesB) ←
      decodeChannel d chB readsamplesize n d.predicterrorBufferB d.outputsamplesBufferB
    let d := { d with
      predicterrorBufferA := errorsA
      predicterrorBufferB := errorsB
      outputsamplesBufferA := samplesA
      outputsamplesBufferB := samplesB }
    return (d, interlacingShift.toNat, interlacingLeftweight.toNat)

/-- `alac_decode_frame` from the start of its input on; `allocationSize` is the initial
`*outputsize`. -/
def decodeFrame (d : AlacDecoder) (outbuffer : List StereoFrame) (allocationSize : BitVec 32) :
    AlacReading Decoded := do
  let channels ← readbits 3
  let outputsize := d.setinfoMaxSamplesPerFrame * bytespersample
  if allocationSize.slt outputsize then return ⟨d, outbuffer, 0⟩
  else if 1 < channels then
    -- no case of the switch
    return ⟨d, outbuffer, outputsize⟩
  else
    let h ← readFrameHeader d
    let outputsize := h.outputsamples * bytespersample
    if h.hassize = true ∧ allocationSize.slt outputsize then return ⟨d, outbuffer, 0⟩
    else if channels = 0 then
      let d ← decodeMono d h
      let out ← StateT.lift (storeMono d.outputsamplesBufferA outbuffer h.outputsamples.toInt)
      return ⟨d, out, outputsize⟩
    else
      let (d, interlacingShift, interlacingLeftweight) ← decodeStereo d h
      let out ← StateT.lift (deinterlace16 d.outputsamplesBufferA d.outputsamplesBufferB outbuffer
        h.outputsamples.toInt interlacingShift interlacingLeftweight)
      return ⟨d, out, outputsize⟩

/-- `alac_decode_frame`. -/
def alacDecodeFrame (d : AlacDecoder) (inbuffer : Bytes) (outbuffer : List StereoFrame)
    (allocationSize : BitVec 32) : Option Decoded :=
  (decodeFrame d outbuffer allocationSize).run' ⟨inbuffer, 0, 0⟩

end Alac

end ConduitStream
