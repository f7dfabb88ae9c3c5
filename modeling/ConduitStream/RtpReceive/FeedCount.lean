import ConduitStream.RtpReceive.FeedPcm

/-! # The count of the frames, and the frames

`decodeAndFeed` and `alacDecodeFrame` say how many frames a payload is worth, and no more than the header
of the frame decides it. Here this is read off the decoder as a whole: for every payload, whatever it
decrypts to, on which the decoder stays within its buffers. -/

namespace ConduitStream

namespace Alac

variable {d : AlacDecoder}

/-! ## The header -/

/-- Reading inside the buffer is reading from what is left of it. -/
theorem readbits16_reader {n : ℕ} {s s' : AlacInput} {v : BitVec 32}
    (h : (readbits16 n).run s = some (v, s')) : s.reader.readbits16 n = (v, s'.reader) := by
  change (if s.offset + 2 < s.buffer.length then _ else _) = _ at h
  split_ifs at h
  obtain ⟨rfl, rfl⟩ := Prod.mk.inj (Option.some.inj h)
  refine Prod.ext rfl ?_
  show (⟨(s.buffer.drop s.offset).drop ((s.bitaccumulator + n) / 8), (s.bitaccumulator + n) % 8⟩
    : BitReader) = (s.advance n).reader
  have hoffset : (s.advance n).offset = s.offset + (s.bitaccumulator + n) / 8 := by
    show (s.offset + ((s.bitaccumulator : ℤ) + n) / 8).toNat = _
    omega
  have hacc : (s.advance n).bitaccumulator = (s.bitaccumulator + n) % 8 := by
    show (((s.bitaccumulator : ℤ) + n) % 8).toNat = _
    omega
  rw [AlacInput.reader, hoffset, hacc, List.drop_drop]
  rfl

/-- The reader without a buffer reads the same bits. -/
theorem readbits_reader {n : ℕ} {s s' : AlacInput} {v : BitVec 32}
    (h : (readbits n).run s = some (v, s')) : s.reader.readbits n = (v, s'.reader) := by
  unfold readbits at h
  unfold BitReader.readbits
  by_cases hlong : 16 < n
  · rw [if_pos hlong] at h ⊢
    obtain ⟨high, t, hhigh, h⟩ := run_bind_eq_some h
    obtain ⟨low, t', hlow, h⟩ := run_bind_eq_some h
    obtain ⟨rfl, rfl⟩ := Prod.mk.inj (Option.some.inj h)
    simp only [readbits16_reader hhigh, readbits16_reader hlow]
  · rw [if_neg hlong] at h ⊢
    exact readbits16_reader h

/-! ## The sizes of the buffers -/

/-- The predictor writes into its buffer. -/
theorem length_predictorDecompressFirAdapt {errorBuffer bufferOut coefTable out : List ℤ}
    {outputSize readsamplesize quantitization : ℕ}
    (h : predictorDecompressFirAdapt errorBuffer bufferOut outputSize readsamplesize coefTable
      quantitization = some out) : out.length = bufferOut.length := by
  unfold predictorDecompressFirAdapt at h
  simp only [Option.bind_eq_bind, Option.bind_eq_some_iff] at h
  obtain ⟨first, -, h⟩ := h
  split_ifs at h
  · obtain ⟨rest, -, h⟩ := Option.bind_eq_some_iff.mp h
    exact length_storeRange h
  · obtain ⟨errors, -, h⟩ := Option.bind_eq_some_iff.mp h
    obtain ⟨rest, -, h⟩ := Option.bind_eq_some_iff.mp h
    exact length_storeRange h
  · obtain ⟨errors, -, h⟩ := Option.bind_eq_some_iff.mp h
    obtain ⟨warmup, -, h⟩ := Option.bind_eq_some_iff.mp h
    obtain ⟨errors', -, h⟩ := Option.bind_eq_some_iff.mp h
    obtain ⟨rest, -, h⟩ := Option.bind_eq_some_iff.mp h
    exact length_storeRange h

/-- The decoder has the same parameters, and buffers of the same sizes. -/
structure SameBuffers (d d' : AlacDecoder) : Prop where
  setinfoMaxSamplesPerFrame : d'.setinfoMaxSamplesPerFrame = d.setinfoMaxSamplesPerFrame
  setinfoRiceHistorymult : d'.setinfoRiceHistorymult = d.setinfoRiceHistorymult
  setinfoRiceInitialhistory : d'.setinfoRiceInitialhistory = d.setinfoRiceInitialhistory
  setinfoRiceKmodifier : d'.setinfoRiceKmodifier = d.setinfoRiceKmodifier
  predicterrorBufferA : d'.predicterrorBufferA.length = d.predicterrorBufferA.length
  predicterrorBufferB : d'.predicterrorBufferB.length = d.predicterrorBufferB.length
  outputsamplesBufferA : d'.outputsamplesBufferA.length = d.outputsamplesBufferA.length
  outputsamplesBufferB : d'.outputsamplesBufferB.length = d.outputsamplesBufferB.length
  uncompressedBytesBufferA : d'.uncompressedBytesBufferA.length = d.uncompressedBytesBufferA.length
  uncompressedBytesBufferB : d'.uncompressedBytesBufferB.length = d.uncompressedBytesBufferB.length

/-- A decoder has the same parameters and buffer sizes as itself. -/
theorem SameBuffers.refl (d : AlacDecoder) : SameBuffers d d :=
  ⟨rfl, rfl, rfl, rfl, rfl, rfl, rfl, rfl, rfl, rfl⟩

/-- Neither by the first step nor by the second. -/
theorem SameBuffers.trans {d d' d'' : AlacDecoder} (h : SameBuffers d d') (h' : SameBuffers d' d'') :
    SameBuffers d d'' :=
  ⟨h'.1.trans h.1, h'.2.trans h.2, h'.3.trans h.3, h'.4.trans h.4, h'.5.trans h.5, h'.6.trans h.6,
    h'.7.trans h.7, h'.8.trans h.8, h'.9.trans h.9, h'.10.trans h.10⟩

variable {s s' : AlacInput} {h : FrameHeader} {d' : AlacDecoder}

/-- A channel writes into its two buffers. -/
theorem length_decodeChannel {ch : ChannelHeader} {readsamplesize : ℕ} {outputsamples : ℤ}
    {errorBuffer outBuffer errors samples : List ℤ}
    (hrun : (decodeChannel d ch readsamplesize outputsamples errorBuffer outBuffer).run s
      = some ((errors, samples), s')) :
    errors.length = errorBuffer.length ∧ samples.length = outBuffer.length := by
  unfold decodeChannel at hrun
  split_ifs at hrun with hshift htype
  · cases hrun
  all_goals
    obtain ⟨errors', t, herrors, hrun⟩ := run_bind_eq_some hrun
    obtain ⟨written, t', -, hstore⟩ := run_bind_eq_some herrors
    obtain ⟨hstore, -⟩ := run_lift_eq_some hstore
  · obtain ⟨samples', t'', hpredict, hrun⟩ := run_bind_eq_some hrun
    obtain ⟨rfl, rfl⟩ := Prod.mk.inj (Prod.mk.inj (Option.some.inj hrun)).1
    exact ⟨length_storeRange hstore,
      length_predictorDecompressFirAdapt (run_lift_eq_some hpredict).1⟩
  · obtain ⟨rfl, rfl⟩ := Prod.mk.inj (Prod.mk.inj (Option.some.inj hrun)).1
    exact ⟨length_storeRange hstore, rfl⟩

/-- Reading low bytes leaves the lengths of the buffers. -/
theorem sameBuffers_readLowBytes (hrun : (readLowBytes d h).run s = some (d', s')) :
    SameBuffers d d' := by
  unfold readLowBytes at hrun
  split_ifs at hrun
  · obtain ⟨rfl, -⟩ := Prod.mk.inj (Option.some.inj hrun)
    exact SameBuffers.refl d
  · obtain ⟨low, t, -, hrun⟩ := run_bind_eq_some hrun
    obtain ⟨as, t', has, hrun⟩ := run_bind_eq_some hrun
    obtain ⟨rfl, -⟩ := Prod.mk.inj (Option.some.inj hrun)
    exact { SameBuffers.refl d with
      uncompressedBytesBufferA := length_storeRange (run_lift_eq_some has).1 }

/-- And so does reading them for two channels. -/
theorem sameBuffers_readLowBytePairs (hrun : (readLowBytePairs d h).run s = some (d', s')) :
    SameBuffers d d' := by
  unfold readLowBytePairs at hrun
  split_ifs at hrun
  · obtain ⟨rfl, -⟩ := Prod.mk.inj (Option.some.inj hrun)
    exact SameBuffers.refl d
  · obtain ⟨low, t, -, hrun⟩ := run_bind_eq_some hrun
    obtain ⟨as, t', has, hrun⟩ := run_bind_eq_some hrun
    obtain ⟨bs, t'', hbs, hrun⟩ := run_bind_eq_some hrun
    obtain ⟨rfl, -⟩ := Prod.mk.inj (Option.some.inj hrun)
    exact { SameBuffers.refl d with
      uncompressedBytesBufferA := length_storeRange (run_lift_eq_some has).1
      uncompressedBytesBufferB := length_storeRange (run_lift_eq_some hbs).1 }

/-- Decoding one channel keeps the parameters and the sizes of the buffers. -/
theorem sameBuffers_decodeMono (hrun : (decodeMono d h).run s = some (d', s')) : SameBuffers d d' := by
  unfold decodeMono at hrun
  dsimp only at hrun
  split_ifs at hrun
  · obtain ⟨samples, t, -, hrun⟩ := run_bind_eq_some hrun
    obtain ⟨as, t', has, hrun⟩ := run_bind_eq_some hrun
    obtain ⟨rfl, -⟩ := Prod.mk.inj (Option.some.inj hrun)
    exact { SameBuffers.refl d with
      outputsamplesBufferA := length_storeRange (run_lift_eq_some has).1 }
  · obtain ⟨shift', t, -, hrun⟩ := run_bind_eq_some hrun
    obtain ⟨leftweight', t, -, hrun⟩ := run_bind_eq_some hrun
    obtain ⟨ch, t, -, hrun⟩ := run_bind_eq_some hrun
    obtain ⟨d₁, t, hlow, hrun⟩ := run_bind_eq_some hrun
    obtain ⟨⟨errors, samples⟩, t, hchannel, hrun⟩ := run_bind_eq_some hrun
    obtain ⟨rfl, -⟩ := Prod.mk.inj (Option.some.inj hrun)
    obtain ⟨herrors, hsamples⟩ := length_decodeChannel hchannel
    exact (sameBuffers_readLowBytes hlow).trans { SameBuffers.refl d₁ with
      predicterrorBufferA := herrors
      outputsamplesBufferA := hsamples }

/-- Decoding two channels keeps them, too. -/
theorem sameBuffers_decodeStereo {shift leftweight : ℕ}
    (hrun : (decodeStereo d h).run s = some ((d', shift, leftweight), s')) : SameBuffers d d' := by
  unfold decodeStereo at hrun
  dsimp only at hrun
  split_ifs at hrun
  · obtain ⟨samples, t, -, hrun⟩ := run_bind_eq_some hrun
    obtain ⟨as, t, has, hrun⟩ := run_bind_eq_some hrun
    obtain ⟨bs, t, hbs, hrun⟩ := run_bind_eq_some hrun
    obtain ⟨hd', -⟩ := Prod.mk.inj (Option.some.inj hrun)
    obtain ⟨rfl, -⟩ := Prod.mk.inj hd'
    exact { SameBuffers.refl d with
      outputsamplesBufferA := length_storeRange (run_lift_eq_some has).1
      outputsamplesBufferB := length_storeRange (run_lift_eq_some hbs).1 }
  · obtain ⟨shift', t, -, hrun⟩ := run_bind_eq_some hrun
    obtain ⟨leftweight', t, -, hrun⟩ := run_bind_eq_some hrun
    obtain ⟨chA, t, -, hrun⟩ := run_bind_eq_some hrun
    obtain ⟨chB, t, -, hrun⟩ := run_bind_eq_some hrun
    obtain ⟨d₁, t, hlow, hrun⟩ := run_bind_eq_some hrun
    obtain ⟨⟨errorsA, samplesA⟩, t, hchA, hrun⟩ := run_bind_eq_some hrun
    obtain ⟨⟨errorsB, samplesB⟩, t, hchB, hrun⟩ := run_bind_eq_some hrun
    obtain ⟨hd', -⟩ := Prod.mk.inj (Option.some.inj hrun)
    obtain ⟨rfl, -⟩ := Prod.mk.inj hd'
    obtain ⟨herrorsA, hsamplesA⟩ := length_decodeChannel hchA
    obtain ⟨herrorsB, hsamplesB⟩ := length_decodeChannel hchB
    exact (sameBuffers_readLowBytePairs hlow).trans { SameBuffers.refl d₁ with
      predicterrorBufferA := herrorsA
      predicterrorBufferB := herrorsB
      outputsamplesBufferA := hsamplesA
      outputsamplesBufferB := hsamplesB }

/-! ## A frame -/

/-- What is read of the header is what is in front of the buffer. -/
theorem readFrameHeader_reader {h : FrameHeader} (hrun : (readFrameHeader d).run s = some (h, s')) :
    ∃ r : BitReader, ∃ hassize : BitVec 32,
      (((s.reader.readbits 4).2.readbits 12).2.readbits 1) = (hassize, r) ∧
        h.hassize = (hassize ≠ 0) ∧
        h.outputsamples = if hassize ≠ 0 then (((r.readbits 2).2.readbits 1).2.readbits 32).1
          else d.setinfoMaxSamplesPerFrame := by
  unfold readFrameHeader at hrun
  obtain ⟨element, t₁, h₁, hrun⟩ := run_bind_eq_some hrun
  obtain ⟨unknown, t₂, h₂, hrun⟩ := run_bind_eq_some hrun
  obtain ⟨hassize, t₃, h₃, hrun⟩ := run_bind_eq_some hrun
  obtain ⟨wasted, t₄, h₄, hrun⟩ := run_bind_eq_some hrun
  obtain ⟨raw, t₅, h₅, hrun⟩ := run_bind_eq_some hrun
  obtain ⟨n, t₆, h₆, hrun⟩ := run_bind_eq_some hrun
  obtain ⟨rfl, -⟩ := Prod.mk.inj (Option.some.inj hrun)
  refine ⟨t₃.reader, hassize, ?_, by simp, ?_⟩
  · rw [readbits_reader h₁, readbits_reader h₂, readbits_reader h₃]
  · show n = _
    rw [readbits_reader h₄, readbits_reader h₅]
    unfold readSampleCount at h₆
    split_ifs at h₆ ⊢
    · rw [readbits_reader h₆]
    · exact (Prod.mk.inj (Option.some.inj h₆)).1.symm

/-- The output of one channel has the size of the buffer. -/
theorem length_storeMono {buffer : List ℤ} {outbuffer out : List StereoFrame} {outputsamples : ℤ}
    (hstore : storeMono buffer outbuffer outputsamples = some out) : out.length = outbuffer.length := by
  unfold storeMono at hstore
  obtain ⟨samples, -, hstore⟩ := Option.bind_eq_some_iff.mp hstore
  obtain ⟨old, -, hstore⟩ := Option.bind_eq_some_iff.mp hstore
  exact length_storeRange hstore

/-- Mixing two channels keeps the length of the output buffer. -/
theorem length_deinterlace16 {bufferA bufferB : List ℤ} {bufferOut out : List StereoFrame}
    {numsamples : ℤ} {shift leftweight : ℕ}
    (hstore : deinterlace16 bufferA bufferB bufferOut numsamples shift leftweight = some out) :
    out.length = bufferOut.length := by
  unfold deinterlace16 at hstore
  split_ifs at hstore
  · rw [Option.some.inj hstore]
  · obtain ⟨as, -, hstore⟩ := Option.bind_eq_some_iff.mp hstore
    obtain ⟨bs, -, hstore⟩ := Option.bind_eq_some_iff.mp hstore
    exact length_storeRange hstore

/-- `*outputsize` and the buffers after a frame of which the header has been read. -/
def AfterHeader (d : AlacDecoder) (h : FrameHeader) (out : List StereoFrame) (capacity : BitVec 32)
    (r : Decoded) : Prop :=
  r.outputsize = (if h.hassize = true ∧ capacity.slt (h.outputsamples * bytespersample) = true then 0
      else h.outputsamples * bytespersample) ∧
    SameBuffers d r.decoder ∧ r.outbuffer.length = out.length

/-- What the frame reads of the header decides `*outputsize`. -/
theorem decodeFrame_eq_some {out : List StereoFrame} {capacity : BitVec 32} {r : Decoded}
    (hrun : (decodeFrame d out capacity).run s = some (r, s')) :
    ∃ (channels : BitVec 32) (t : AlacInput), (readbits 3).run s = some (channels, t) ∧
      if capacity.slt (d.setinfoMaxSamplesPerFrame * bytespersample) = true then r = ⟨d, out, 0⟩
      else if 1 < channels then r = ⟨d, out, d.setinfoMaxSamplesPerFrame * bytespersample⟩
      else ∃ (h : FrameHeader) (t' : AlacInput), (readFrameHeader d).run t = some (h, t') ∧
        AfterHeader d h out capacity r := by
  unfold decodeFrame at hrun
  obtain ⟨channels, t, hchannels, hrun⟩ := run_bind_eq_some hrun
  refine ⟨channels, t, hchannels, ?_⟩
  by_cases hcapacity : capacity.slt (d.setinfoMaxSamplesPerFrame * bytespersample) = true
  · rw [if_pos hcapacity] at hrun ⊢
    exact (Prod.mk.inj (Option.some.inj hrun)).1.symm
  rw [if_neg hcapacity] at hrun ⊢
  by_cases hcase : 1 < channels
  · rw [if_pos hcase] at hrun ⊢
    exact (Prod.mk.inj (Option.some.inj hrun)).1.symm
  rw [if_neg hcase] at hrun ⊢
  obtain ⟨h, t', hheader, hrun⟩ := run_bind_eq_some hrun
  refine ⟨h, t', hheader, ?_⟩
  unfold AfterHeader
  by_cases hcount : h.hassize = true ∧ capacity.slt (h.outputsamples * bytespersample) = true
  · rw [if_pos hcount] at hrun ⊢
    obtain ⟨rfl, -⟩ := Prod.mk.inj (Option.some.inj hrun)
    exact ⟨rfl, SameBuffers.refl d, rfl⟩
  rw [if_neg hcount] at hrun ⊢
  split_ifs at hrun
  · obtain ⟨d', t₁, hd', hrun⟩ := run_bind_eq_some hrun
    obtain ⟨out', t₂, hout, hrun⟩ := run_bind_eq_some hrun
    obtain ⟨rfl, -⟩ := Prod.mk.inj (Option.some.inj hrun)
    exact ⟨rfl, sameBuffers_decodeMono hd', length_storeMono (run_lift_eq_some hout).1⟩
  · obtain ⟨⟨d', shift, leftweight⟩, t₁, hd', hrun⟩ := run_bind_eq_some hrun
    obtain ⟨out', t₂, hout, hrun⟩ := run_bind_eq_some hrun
    obtain ⟨rfl, -⟩ := Prod.mk.inj (Option.some.inj hrun)
    exact ⟨rfl, sameBuffers_decodeStereo hd', length_deinterlace16 (run_lift_eq_some hout).1⟩

/-- The header decides `*outputsize`, as `alacDecodeFrame` says, and the buffers keep their sizes. -/
theorem alacDecodeFrame_eq_some {inbuffer : Bytes} {out : List StereoFrame} {capacity : BitVec 32}
    {r : Decoded} (hrun : alacDecodeFrame d inbuffer out capacity = some r) :
    r.outputsize = (ConduitStream.alacDecodeFrame ⟨d.setinfoMaxSamplesPerFrame, bytespersample⟩ inbuffer
        capacity).outputsize ∧
      SameBuffers d r.decoder ∧ r.outbuffer.length = out.length := by
  unfold alacDecodeFrame at hrun
  rw [StateT.run'_eq] at hrun
  obtain ⟨⟨r', s'⟩, hframe, hr⟩ := Option.map_eq_some_iff.mp hrun
  obtain rfl : r' = r := hr
  obtain ⟨channels, t, hchannels, hrest⟩ := decodeFrame_eq_some hframe
  have hread := readbits_reader hchannels
  change BitReader.readbits ⟨inbuffer, 0⟩ 3 = _ at hread
  unfold ConduitStream.alacDecodeFrame alacReadHeader
  simp only [hread]
  by_cases hcapacity : capacity.slt (d.setinfoMaxSamplesPerFrame * bytespersample) = true
  · rw [if_pos hcapacity] at hrest ⊢
    subst hrest
    exact ⟨rfl, SameBuffers.refl d, rfl⟩
  rw [if_neg hcapacity] at hrest ⊢
  by_cases hcase : 1 < channels
  · rw [if_pos hcase] at hrest ⊢
    subst hrest
    exact ⟨rfl, SameBuffers.refl d, rfl⟩
  rw [if_neg hcase] at hrest ⊢
  obtain ⟨h, t', hheader, hsize, hbuffers⟩ := hrest
  obtain ⟨reader, hassize, hreads, hflag, hcount⟩ := readFrameHeader_reader hheader
  refine ⟨?_, hbuffers⟩
  rw [hsize, hreads]
  by_cases hstored : hassize ≠ 0
  · rw [if_pos (decide_eq_true hstored)]
    rw [if_pos hstored] at hcount
    rw [← hcount, apply_ite AlacFrame.outputsize]
    exact if_congr (and_iff_right (hflag ▸ hstored)) rfl rfl
  · rw [if_neg hstored] at hcount
    rw [if_neg fun hboth => hstored (hflag ▸ hboth.1), hcount, if_neg (by simpa using hstored)]

end Alac

/-! ## A payload -/

namespace RtpDecoder

open Alac

variable {aes : Bytes → Option Bytes} {st st' : RtpDecoder} {fed : List StereoFrame}

/-- The decoder as `decodeAndFeed` counts by it. -/
def alacFile (st : RtpDecoder) : AlacFile := ⟨st.sAlac.setinfoMaxSamplesPerFrame, bytespersample⟩

/-- What a payload leaves of the buffers: `s_plain` after the decryption, and the rest at its size. -/
structure After (aes : Bytes → Option Bytes) (payload : Bytes) (st st' : RtpDecoder) : Prop where
  sAlac : SameBuffers st.sAlac st'.sAlac
  sPlain : st'.sPlain = (decryptPayload aes st.sPlain payload).getD st.sPlain
  sPcm : st'.sPcm.length = st.sPcm.length

/-- **Step lemma**: as many frames are fed as the payload is counted for. -/
theorem decodeAndFeed_eq_some {payload : Bytes}
    (h : st.decodeAndFeed aes payload = some (st', fed)) :
    fed.length = (ConduitStream.decodeAndFeed aes st.alacFile.outsize 2 st.sPlain payload).getD 0 ∧
      After aes payload st st' := by
  unfold decodeAndFeed at h
  unfold ConduitStream.decodeAndFeed
  cases hplain : decryptPayload aes st.sPlain payload with
  | none =>
      rw [hplain] at h
      obtain ⟨rfl, rfl⟩ := Prod.mk.inj (Option.some.inj h)
      exact ⟨rfl, SameBuffers.refl _, by rw [hplain]; rfl, rfl⟩
  | some plain =>
      rw [hplain] at h
      obtain ⟨r, hr, h⟩ := Option.bind_eq_some_iff.mp h
      obtain ⟨hsize, hbuffers, hlen⟩ := alacDecodeFrame_eq_some hr
      have hout : st.alacFile.outsize plain sPcmBytes = r.outputsize := hsize.symm
      rw [Option.bind_some, hout]
      dsimp only at h ⊢
      by_cases hpos : r.outputsize.toInt ≤ 0
      · rw [if_pos hpos] at h ⊢
        obtain ⟨rfl, rfl⟩ := Prod.mk.inj (Option.some.inj h)
        exact ⟨rfl, hbuffers, by rw [hplain]; rfl, hlen⟩
      · rw [if_neg hpos] at h ⊢
        obtain ⟨front, hfront, h⟩ := Option.bind_eq_some_iff.mp h
        obtain ⟨rfl, rfl⟩ := Prod.mk.inj (Option.some.inj h)
        refine ⟨?_, hbuffers, by rw [hplain]; rfl, hlen⟩
        rw [length_loadRange hfront]
        show _ = (if r.outputsize.toNat / 4 = 0 then none else some (r.outputsize.toNat / 4)).getD 0
        split_ifs with hzero
        · exact hzero
        · rfl

/-! ## A run -/

/-- The frames the calls of draining are counted for: `decodeAndFeed` for a packet, and the frame length
for a concealment. -/
def countFed (aes : Bytes → Option Bytes) (a : AlacFile) (frameLength : ℕ) : Bytes → List DrainAction → ℕ
  | _, [] => 0
  | sPlain, .decode _ payload :: acts =>
      (ConduitStream.decodeAndFeed aes a.outsize 2 sPlain payload).getD 0 +
        countFed aes a frameLength ((decryptPayload aes sPlain payload).getD sPlain) acts
  | sPlain, .conceal :: acts => frameLength + countFed aes a frameLength sPlain acts

/-- **Run lemma**: the counts are those of the frames. For all calls of draining, with
whatever payloads and whatever they decrypt to, in which the decoder stays within its buffers: as many
frames are fed as the headers say, and the parameters and the sizes of all buffers remain. -/
theorem perform_eq_some {frameLength : ℕ} {acts : List DrainAction}
    (h : st.perform aes frameLength acts = some (st', fed)) :
    fed.length = countFed aes st.alacFile frameLength st.sPlain acts ∧
      SameBuffers st.sAlac st'.sAlac ∧ st'.sPcm.length = st.sPcm.length := by
  induction acts generalizing st st' fed with
  | nil =>
      obtain ⟨rfl, rfl⟩ := Prod.mk.inj (Option.some.inj h)
      exact ⟨rfl, SameBuffers.refl _, rfl⟩
  | cons act acts ih =>
      cases act with
      | conceal =>
          obtain ⟨⟨st₁, rest⟩, hrest, h⟩ := Option.bind_eq_some_iff.mp h
          obtain ⟨rfl, rfl⟩ := Prod.mk.inj (Option.some.inj h)
          obtain ⟨hcount, hsame⟩ := ih hrest
          refine ⟨?_, hsame⟩
          rw [List.length_append, List.length_replicate, hcount]
          rfl
      | decode seq payload =>
          obtain ⟨⟨st₁, first⟩, hfirst, h⟩ := Option.bind_eq_some_iff.mp h
          obtain ⟨⟨st₂, rest⟩, hrest, h⟩ := Option.bind_eq_some_iff.mp h
          obtain ⟨rfl, rfl⟩ := Prod.mk.inj (Option.some.inj h)
          obtain ⟨hfirstCount, hafter⟩ := decodeAndFeed_eq_some hfirst
          obtain ⟨hcount, hsame, hpcm⟩ := ih hrest
          have hfile : st₁.alacFile = st.alacFile := by
            unfold alacFile
            rw [hafter.sAlac.setinfoMaxSamplesPerFrame]
          refine ⟨?_, hafter.sAlac.trans hsame, hpcm.trans hafter.sPcm⟩
          rw [List.length_append, hfirstCount, hcount, hfile, hafter.sPlain]
          rfl

/-- A small decoder, for two samples a frame. -/
def twoSamples : RtpDecoder :=
  ⟨⟨2, 40, 10, 14, [0, 0], [0, 0], [0, 0], [0, 0], [0, 0], [0, 0]⟩, List.replicate 16 0,
    [(1, 1), (2, 2), (3, 3)]⟩

/-- A frame of one sample, a concealment, and a frame of no channel case: for it, what was in `s_pcm` is
fed once more. -/
theorem perform_eq_some_stale :
    ([(1, -1), (0, 0), (0, 0), (1, -1), (2, 2)] : List StereoFrame).length
        = countFed some twoSamples.alacFile 2 twoSamples.sPlain
            [.decode 0 [0x20, 0, 0x12, 0, 0, 0, 2, 0, 3, 0xff, 0xfe], .conceal, .decode 1 [0xff]] ∧
      SameBuffers twoSamples.sAlac ⟨2, 40, 10, 14, [0, 0], [0, 0], [1, 0], [-1, 0], [0, 0], [0, 0]⟩ ∧
      ([(1, -1), (2, 2), (3, 3)] : List StereoFrame).length = twoSamples.sPcm.length :=
  @perform_eq_some some twoSamples
    ⟨⟨2, 40, 10, 14, [0, 0], [0, 0], [1, 0], [-1, 0], [0, 0], [0, 0]⟩,
      [0xff, 0, 0x12, 0, 0, 0, 2, 0, 3, 0xff, 0xfe, 0, 0, 0, 0, 0], [(1, -1), (2, 2), (3, 3)]⟩
    _ 2 [.decode 0 [0x20, 0, 0x12, 0, 0, 0, 2, 0, 3, 0xff, 0xfe], .conceal, .decode 1 [0xff]] (by decide)

end RtpDecoder

end ConduitStream
