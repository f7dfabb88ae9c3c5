import ConduitStream.RtpReceive.AlacConfig

/-! # The frame length of a session on the 32-bit target

The frame length announced in `a=fmtp` is any 32-bit number. `build_decoder` bounds its product with
the channel count, but computes the product in the 32 bits of `size_t`, so that a length from `2 ^ 31`
on can pass as one below 4097. Behind the check the length enters two more narrowings: the buffer size
of `alac_allocate_buffers`, and the 16 bits of `s_frame_length`. All three are exact precisely for the
lengths from 1 to 4096 (`buildDecoder_bounded_iff`). -/

namespace ConduitStream

/-- `sizeof(s_pcm)`: `PCM_MAX_INT16` numbers of two bytes. -/
def sPcmBytes : BitVec 32 := pcmMaxInt16 * 2

/-- What `alac_allocate_buffers` passes to `malloc` for each of its sample buffers of 32-bit
entries. -/
def alacBufferBytes (c : AlacCfg) : BitVec 32 := c.frameLength * 4

/-- `s_frame_length`. -/
def sFrameLength (c : AlacCfg) : BitVec 16 := c.frameLength.setWidth 16

/-- The decoder's frame length is within its bounds and survives every narrowing. -/
structure AlacCfg.Bounded (c : AlacCfg) : Prop where
  frameLength : 1 ≤ c.frameLength.toNat ∧ c.frameLength.toNat ≤ 4096
  product : c.frameLength.toNat * c.numChannels.toNat ≤ pcmMaxInt16.toNat
  /-- The sample buffers have one entry for each sample of a frame. -/
  buffers : (alacBufferBytes c).toNat = c.frameLength.toNat * 4
  /-- A decoded frame of 16-bit stereo fits `s_pcm`. -/
  pcm : c.frameLength.toNat * (2 * 2) ≤ sPcmBytes.toNat
  stored : (sFrameLength c).toNat = c.frameLength.toNat

/-- What the check lets pass: the lengths from 1 to 4096, and those lengths above `2 ^ 31` that the
product takes for one of them. -/
theorem buildDecoder_frameLength {fmtp : Bytes} {alacCreate : Bool} {c : AlacCfg}
    (h : buildDecoder fmtp alacCreate = some c) :
    1 ≤ c.frameLength.toNat ∧ c.frameLength.toNat ≤ 4096 ∨
      2 ^ 31 ≤ c.frameLength.toNat ∧ c.frameLength.toNat ≤ 2 ^ 31 + 4096 := by
  obtain ⟨-, -, -, -, hzero, hle⟩ := buildDecoder_eq_some h
  have hpos : c.frameLength.toNat ≠ 0 := fun h0 => hzero (BitVec.eq_of_toNat_eq h0)
  have hproduct : c.frameLength.toNat * 2 % 2 ^ 32 ≤ 8192 := by
    have := BitVec.le_def.mp hle
    rwa [BitVec.toNat_mul] at this
  have hlt := c.frameLength.isLt
  omega

/-- A length up to 4096 is sound. -/
theorem AlacCfg.bounded_of_le {c : AlacCfg} (hchannels : c.numChannels = 2)
    (h : 1 ≤ c.frameLength.toNat ∧ c.frameLength.toNat ≤ 4096) : c.Bounded where
  frameLength := h
  product := by
    rw [hchannels]
    exact Nat.mul_le_mul_right 2 h.2
  buffers := by
    show (c.frameLength * 4).toNat = _
    rw [BitVec.toNat_mul, Nat.mod_eq_of_lt]
    · rfl
    · show c.frameLength.toNat * 4 < 2 ^ 32
      omega
  pcm := Nat.mul_le_mul_right 4 h.2
  stored := by
    show (c.frameLength.setWidth 16).toNat = _
    rw [BitVec.toNat_setWidth, Nat.mod_eq_of_lt (by omega)]

/-- The attribute announces 16-bit stereo with a frame length between `2 ^ 31` and `2 ^ 31 + 4096`. -/
def AnnouncesHugeFrame (fmtp : Bytes) : Prop :=
  ∃ c, alacCfgFromFmtp fmtp = some c ∧ c.bitDepth = 16 ∧ c.numChannels = 2 ∧
    2 ^ 31 ≤ c.frameLength.toNat ∧ c.frameLength.toNat ≤ 2 ^ 31 + 4096

/-- A frame length in that range passes the check. -/
theorem AnnouncesHugeFrame.buildDecoder {fmtp : Bytes} (h : AnnouncesHugeFrame fmtp) :
    ∃ c, buildDecoder fmtp true = some c ∧ 4096 < c.frameLength.toNat := by
  obtain ⟨c, hc, hdepth, hchannels, hmin, hmax⟩ := h
  have hzero : c.frameLength ≠ 0 := by
    intro h0
    rw [h0] at hmin
    exact absurd hmin (by decide)
  have hproduct : ¬pcmMaxInt16 < c.frameLength * (2 : BitVec 8).setWidth 32 := by
    rw [BitVec.lt_def, BitVec.toNat_mul]
    show ¬8192 < c.frameLength.toNat * 2 % 2 ^ 32
    omega
  refine ⟨c, ?_, by omega⟩
  unfold ConduitStream.buildDecoder
  rw [hc]
  dsimp only
  rw [hdepth, hchannels, if_neg (by decide), if_neg (not_or.mpr ⟨hzero, hproduct⟩), if_pos rfl]

/-- **The frame-length bound holds exactly below `2 ^ 31`.** For every `a=fmtp` string: whenever
`build_decoder` returns 0, the frame length is between 1 and 4096, its product with the channel count
is within the bound as a number, and neither the size of the sample buffers nor `s_frame_length` is
truncated, if and only if the string does not announce 16-bit stereo with a frame length between
`2 ^ 31` and `2 ^ 31 + 4096`. -/
theorem buildDecoder_bounded_iff (fmtp : Bytes) :
    (∀ alacCreate c, buildDecoder fmtp alacCreate = some c → c.Bounded) ↔
      ¬AnnouncesHugeFrame fmtp := by
  constructor
  · intro h hhuge
    obtain ⟨c, hc, hlt⟩ := hhuge.buildDecoder
    exact absurd (h true c hc).frameLength.2 (not_le.mpr hlt)
  · intro h alacCreate c hc
    obtain ⟨hcfg, -, hdepth, hchannels, -⟩ := buildDecoder_eq_some hc
    refine AlacCfg.bounded_of_le hchannels ((buildDecoder_frameLength hc).resolve_right ?_)
    rintro ⟨hmin, hmax⟩
    exact h ⟨c, hcfg, hdepth, hchannels, hmin, hmax⟩

/-- **A frame length of `2 ^ 31 + 1` is accepted**: the sample buffers get four bytes each, and
`s_frame_length` is 1. -/
theorem buildDecoder_accepts_huge_frame :
    ∃ c, buildDecoder (ascii "96 2147483649 0 16 40 10 14 2 255 0 0 44100") true = some c ∧
      c.frameLength.toNat = 2147483649 ∧ alacBufferBytes c = 4 ∧ sFrameLength c = 1 ∧
      ¬c.Bounded := by
  refine ⟨_, rfl, by decide, by decide, by decide, fun h => ?_⟩
  exact absurd h.frameLength.2 (by decide)

end ConduitStream
