import ConduitStream.RtpReceive.FeedPcm

/-! # The decoder of a session (`build_decoder`, `alac_allocate_buffers`)

`build_decoder` takes the parameters of the decoder from `a=fmtp`. Wherever these are within the bounds of
the decoder, it returns every frame an encoder can make with them (`buildDecoder_frame_roundtrip`). -/

namespace ConduitStream

open Alac

/-- What `build_decoder` stores, with the buffers of `alac_allocate_buffers`. They have entries of 32 bits,
and may hold anything. -/
structure AlacCfg.Builds (c : AlacCfg) (d : AlacDecoder) : Prop where
  setinfoMaxSamplesPerFrame : d.setinfoMaxSamplesPerFrame = c.frameLength
  setinfoRiceHistorymult : d.setinfoRiceHistorymult = c.pb.toNat
  setinfoRiceInitialhistory : d.setinfoRiceInitialhistory = c.mb.toNat
  setinfoRiceKmodifier : d.setinfoRiceKmodifier = c.kb.toNat
  predicterrorBufferA : d.predicterrorBufferA.length * 4 = (alacBufferBytes c).toNat
  predicterrorBufferB : d.predicterrorBufferB.length * 4 = (alacBufferBytes c).toNat
  outputsamplesBufferA : d.outputsamplesBufferA.length * 4 = (alacBufferBytes c).toNat
  outputsamplesBufferB : d.outputsamplesBufferB.length * 4 = (alacBufferBytes c).toNat
  uncompressedBytesBufferA : d.uncompressedBytesBufferA.length * 4 = (alacBufferBytes c).toNat
  uncompressedBytesBufferB : d.uncompressedBytesBufferB.length * 4 = (alacBufferBytes c).toNat

/-- The decoder whose buffers hold zeros. -/
def AlacCfg.zeroDecoder (c : AlacCfg) : AlacDecoder :=
  let buffer : List ℤ := List.replicate ((alacBufferBytes c).toNat / 4) 0
  ⟨c.frameLength, c.pb.toNat, c.mb.toNat, c.kb.toNat, buffer, buffer, buffer, buffer, buffer, buffer⟩

/-- It is built for every configuration. -/
theorem AlacCfg.builds_zeroDecoder (c : AlacCfg) : c.Builds c.zeroDecoder := by
  have hbuffer : (List.replicate ((alacBufferBytes c).toNat / 4) (0 : ℤ)).length * 4
      = (alacBufferBytes c).toNat := by
    have hbytes : (alacBufferBytes c).toNat = c.frameLength.toNat * 4 % 2 ^ 32 := BitVec.toNat_mul _ _
    rw [List.length_replicate, hbytes]
    omega
  exact ⟨rfl, rfl, rfl, rfl, hbuffer, hbuffer, hbuffer, hbuffer, hbuffer, hbuffer⟩

/-- The parameters are within the bounds of the decoder, which `build_decoder` does not check. -/
structure AlacCfg.Decodes (c : AlacCfg) : Prop where
  frameLength_lt : c.frameLength.toNat < 2 ^ 31
  mb_pos : 1 ≤ c.mb.toNat
  kb_pos : 1 ≤ c.kb.toNat
  kb_le : c.kb.toNat ≤ 30

variable {fmtp : Bytes} {c : AlacCfg}

/-- Then the check of the product bounds the frame length. -/
theorem AlacCfg.Decodes.frameLength_le (hc : c.Decodes) (hbuild : buildDecoder fmtp true = some c) :
    c.frameLength.toNat ≤ 4096 := by
  have hlt := hc.frameLength_lt
  rcases buildDecoder_frameLength hbuild with ⟨-, hle⟩ | ⟨hge, -⟩ <;> omega

/-- The session that the sender has announced. -/
def AlacCfg.setup (c : AlacCfg) (hbuild : buildDecoder fmtp true = some c) (hc : c.Decodes) : AlacSetup where
  samplesPerFrame := c.frameLength.toNat
  historymult := c.pb.toNat
  initialhistory := c.mb.toNat
  kmodifier := c.kb.toNat
  samplesPerFrame_le := hc.frameLength_le hbuild
  initialhistory_pos := hc.mb_pos
  initialhistory_le := Nat.le_of_lt_succ c.mb.isLt
  kmodifier_pos := hc.kb_pos
  kmodifier_le := hc.kb_le

/-- The decoder that is built is that of the session. -/
theorem AlacCfg.builds_iff (hbuild : buildDecoder fmtp true = some c) (hc : c.Decodes) {d : AlacDecoder} :
    c.Builds d ↔ SetUp (c.setup hbuild hc) d := by
  have hle := hc.frameLength_le hbuild
  have hbytes : (alacBufferBytes c).toNat = c.frameLength.toNat * 4 := by
    unfold alacBufferBytes
    rw [BitVec.toNat_mul, Nat.mod_eq_of_lt]
    · rfl
    · show c.frameLength.toNat * 4 < 2 ^ 32
      omega
  have hlength : ∀ buffer : List ℤ,
      buffer.length * 4 = (alacBufferBytes c).toNat ↔ buffer.length = c.frameLength.toNat := by
    intro buffer
    rw [hbytes]
    omega
  constructor
  · rintro ⟨h₁, h₂, h₃, h₄, h₅, h₆, h₇, h₈, h₉, h₁₀⟩
    exact ⟨congrArg BitVec.toNat h₁, h₂, h₃, h₄, (hlength _).mp h₅, (hlength _).mp h₆, (hlength _).mp h₇,
      (hlength _).mp h₈, (hlength _).mp h₉, (hlength _).mp h₁₀⟩
  · rintro ⟨h₁, h₂, h₃, h₄, h₅, h₆, h₇, h₈, h₉, h₁₀⟩
    exact ⟨BitVec.eq_of_toNat_eq h₁, h₂, h₃, h₄, (hlength _).mpr h₅, (hlength _).mpr h₆,
      (hlength _).mpr h₇, (hlength _).mpr h₈, (hlength _).mpr h₉, (hlength _).mpr h₁₀⟩

/-- **Every frame comes back.** For every session that `build_decoder` accepts, with parameters within the
bounds of the decoder, every frame of 1 to `frame_length` stereo samples and all choices of an encoder
(whether it compresses, how it mixes the channels within `Interlacing`, the prediction and the code of each
of them within `ChannelCode`), whatever the buffers hold and whatever the three or more bytes behind the
frame are: the decoder stays within its buffers, writes the samples
in front of the output, leaves the rest of it, and reports their size. The decoder is then as it was
built. -/
theorem buildDecoder_frame_roundtrip (hbuild : buildDecoder fmtp true = some c) (hc : c.Decodes)
    {d : AlacDecoder} (hd : c.Builds d) (code : FrameCode (c.setup hbuild hc)) {frames : List StereoFrame}
    (hne : frames ≠ []) (hlen : frames.length ≤ c.frameLength.toNat) {behind : Bytes}
    (hbehind : 3 ≤ behind.length) {out : List StereoFrame} (hout : out.length = 4096) :
    ∃ d', c.Builds d' ∧
      Alac.alacDecodeFrame d (packBits (encodeFrame code frames) ++ behind) out sPcmBytes
        = some ⟨d', frames ++ out.drop frames.length, BitVec.ofNat 32 (4 * frames.length)⟩ := by
  have hle := hc.frameLength_le hbuild
  have hcapacity : (4 * (c.setup hbuild hc).samplesPerFrame : ℤ) ≤ sPcmBytes.toInt := by
    rw [show sPcmBytes.toInt = 16384 by decide]
    show 4 * (c.frameLength.toNat : ℤ) ≤ 16384
    omega
  obtain ⟨d', hd', hdecode⟩ := alacDecodeFrame_packed ((AlacCfg.builds_iff hbuild hc).mp hd) code hne hlen
    (show frames.length ≤ out.length by omega) hcapacity hbehind
  exact ⟨d', (AlacCfg.builds_iff hbuild hc).mpr hd', hdecode⟩

/-! ## A session of 352 frames -/

/-- The configuration of a usual session. -/
def alacCfg352 : AlacCfg := ⟨352, 0, 16, 40, 10, 14, 2, 255, 0, 0, 44100⟩

/-- The session of 352 samples a frame is accepted. -/
theorem buildDecoder_352 :
    buildDecoder (ascii "96 352 0 16 40 10 14 2 255 0 0 44100") true = some alacCfg352 := by decide

/-- Its parameters are within the bounds of the decoder. -/
theorem alacCfg352_decodes : alacCfg352.Decodes := ⟨by decide, by decide, by decide, by decide⟩

/-- The session. -/
def alacSetup352 : AlacSetup := alacCfg352.setup buildDecoder_352 alacCfg352_decodes

/-- A prediction with two coefficients. -/
def channelCode352 : ChannelCode alacSetup352 where
  quantitization := 9
  ricemodifier := 4
  coefTable := [160, -40]
  quantitization_pos := by decide
  quantitization_le := by decide
  ricemodifier_le := by decide
  mult_pos := by decide
  mult_le := by decide
  coef_range := by decide
  coefNum_le := by decide
  coefNum_lt := by decide

/-- The channels are mixed half and half. -/
def interlacingHalf : Interlacing := ⟨1, 1, by decide, by decide, by decide⟩

/-- Three frames, mixed half and half, come back. -/
theorem buildDecoder_frame_roundtrip_three :
    ∃ d', alacCfg352.Builds d' ∧
      Alac.alacDecodeFrame alacCfg352.zeroDecoder
          (packBits (encodeFrame (.compressed interlacingHalf channelCode352 channelCode352)
            [(1000, -1000), (1010, -990), (-32768, 32767)]) ++ [1, 2, 3])
          (List.replicate 4096 (7, 7)) sPcmBytes
        = some ⟨d', [(1000, -1000), (1010, -990), (-32768, 32767)] ++
            (List.replicate 4096 (7, 7)).drop 3, BitVec.ofNat 32 (4 * 3)⟩ :=
  buildDecoder_frame_roundtrip buildDecoder_352 alacCfg352_decodes alacCfg352.builds_zeroDecoder
    (.compressed interlacingHalf channelCode352 channelCode352) (by simp) (by decide) (by decide)
    List.length_replicate

end ConduitStream
