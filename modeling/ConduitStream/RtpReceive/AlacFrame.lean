import ConduitStream.RtpReceive.DecodeAndFeed

/-! # The sample count of a frame (`alac.c`)

Only what decides how many samples the vendored decoder processes is modelled: the bit reader, the
frame header and the two checks of `alac_decode_frame` against the capacity of the output. A header
may carry a sample count of its own, which is checked against that capacity and not against the frame
length the sample buffers were sized by. `decode_and_feed` passes the capacity of `s_pcm`, so the
count stays within the buffers only under a condition on the header (`packetSamples_within_iff`). -/

namespace ConduitStream

/-! ## The bit reader -/

/-- The reader of `alac_file`: the bytes from `input_buffer` on, and `input_buffer_bitaccumulator`. -/
structure BitReader where
  inputBuffer : Bytes
  bitaccumulator : ℕ
  deriving DecidableEq, Repr

namespace BitReader

/-- `input_buffer[i]`. -/
def byte (r : BitReader) (i : ℕ) : BitVec 32 := (r.inputBuffer.getD i 0).toBitVec.setWidth 32

/-- `readbits_16`: 1 to 16 bits, most significant first. -/
def readbits16 (r : BitReader) (bits : ℕ) : BitVec 32 × BitReader :=
  let result := r.byte 0 <<< 16 ||| r.byte 1 <<< 8 ||| r.byte 2
  let result := result <<< r.bitaccumulator &&& 0x00ffffff
  let accumulator := r.bitaccumulator + bits
  (result >>> (24 - bits), ⟨r.inputBuffer.drop (accumulator / 8), accumulator % 8⟩)

/-- `readbits`: 1 to 32 bits. -/
def readbits (r : BitReader) (bits : ℕ) : BitVec 32 × BitReader :=
  if 16 < bits then
    let (high, r) := r.readbits16 16
    let (low, r) := r.readbits16 (bits - 16)
    (high <<< (bits - 16) ||| low, r)
  else r.readbits16 bits

end BitReader

/-! ## The frame header -/

/-- The fields of a frame header that decide the sample count: the channel case, whether a count is
stored, and the count. -/
structure AlacFrameHeader where
  channels : BitVec 32
  hassize : Bool
  outputsamples : BitVec 32
  deriving DecidableEq, Repr

/-- The header reads of `alac_decode_frame`, the same in both channel cases. -/
def alacReadHeader (inbuffer : Bytes) : AlacFrameHeader :=
  let (channels, r) := BitReader.readbits ⟨inbuffer, 0⟩ 3
  let (_, r) := r.readbits 4
  let (_, r) := r.readbits 12
  let (hassize, r) := r.readbits 1
  -- `uncompressed_bytes` and `isnotcompressed`
  let (_, r) := r.readbits 2
  let (_, r) := r.readbits 1
  let (outputsamples, _) := r.readbits 32
  ⟨channels, hassize ≠ 0, outputsamples⟩

/-- The fields of `alac_file` behind the sample count. -/
structure AlacFile where
  setinfoMaxSamplesPerFrame : BitVec 32
  bytespersample : BitVec 32
  deriving DecidableEq, Repr

/-- What `alac_create` and `build_decoder` store. -/
def AlacCfg.alacFile (c : AlacCfg) : AlacFile where
  setinfoMaxSamplesPerFrame := c.frameLength
  bytespersample := c.bitDepth.setWidth 32 / 8 * c.numChannels.setWidth 32

/-- What comes of a frame: `*outputsize`, and the `outputsamples` that bound every loop over the
sample buffers, `none` if the decoder returns before the first. -/
structure AlacFrame where
  outputsize : BitVec 32
  outputsamples : Option (BitVec 32)
  deriving DecidableEq, Repr

/-- `alac_decode_frame`; `capacity` is the initial `*outputsize`. The products are of 32 bits, the
comparisons signed. -/
def alacDecodeFrame (a : AlacFile) (inbuffer : Bytes) (capacity : BitVec 32) : AlacFrame :=
  let h := alacReadHeader inbuffer
  let outputsize := a.setinfoMaxSamplesPerFrame * a.bytespersample
  if capacity.slt outputsize then ⟨0, none⟩
  else if 1 < h.channels then
    -- no case of the switch
    ⟨outputsize, none⟩
  else if h.hassize then
    let outputsize := h.outputsamples * a.bytespersample
    if capacity.slt outputsize then ⟨0, none⟩ else ⟨outputsize, some h.outputsamples⟩
  else ⟨outputsize, some a.setinfoMaxSamplesPerFrame⟩

/-- The number of samples processed, as a signed number. -/
def AlacFrame.samples (f : AlacFrame) : ℤ :=
  match f.outputsamples with
  | none => 0
  | some n => n.toInt

/-- What `alac_decode_frame` leaves in `*outputsize`. -/
def AlacFile.outsize (a : AlacFile) (inbuffer : Bytes) (capacity : BitVec 32) : BitVec 32 :=
  (alacDecodeFrame a inbuffer capacity).outputsize

/-! ## The count of a packet -/

/-- The number of samples the decoder processes for a payload in `decode_and_feed`. -/
def packetSamples (c : AlacCfg) (aesCbcDecrypt : Bytes → Option Bytes) (sPlain payload : Bytes) : ℤ :=
  match decryptPayload aesCbcDecrypt sPlain payload with
  | none => 0
  | some plain => (alacDecodeFrame c.alacFile plain sPcmBytes).samples

/-- A header that keeps the decoder within sample buffers of `frameLength` entries: it is of no case
the decoder knows, it stores no count, it stores a count up to `frameLength`, or one whose low 30 bits,
as a signed number, are beyond 4096, on which the decoder gives up. -/
def AlacFrameHeader.Within (h : AlacFrameHeader) (frameLength : ℕ) : Prop :=
  1 < h.channels ∨ h.hassize = false ∨
    (0 ≤ h.outputsamples.toInt ∧ h.outputsamples.toInt ≤ frameLength) ∨
    4096 < (h.outputsamples.setWidth 30).toInt

/-- Four bytes for each sample, in 32 bits: the two upper bits of the count do not matter. -/
theorem toInt_mul_four (n : BitVec 32) : (n * 4).toInt = 4 * (n.setWidth 30).toInt := by
  have hn := n.isLt
  have hmul : (n * 4).toNat = n.toNat * 4 % 2 ^ 32 := BitVec.toNat_mul n 4
  have hlow : (n.setWidth 30).toNat = n.toNat % 2 ^ 30 := BitVec.toNat_setWidth 30 n
  rw [BitVec.toInt_eq_toNat_cond, BitVec.toInt_eq_toNat_cond, hmul, hlow]
  split_ifs <;> omega

/-- The count of a frame, for a session whose frame length is within its bound. -/
theorem alacDecodeFrame_samples_iff {c : AlacCfg} (hdepth : c.bitDepth = 16)
    (hchannels : c.numChannels = 2) (hlen : c.frameLength.toNat ≤ 4096) (plain : Bytes) :
    (0 ≤ (alacDecodeFrame c.alacFile plain sPcmBytes).samples ∧
        (alacDecodeFrame c.alacFile plain sPcmBytes).samples ≤ c.frameLength.toNat) ↔
      (alacReadHeader plain).Within c.frameLength.toNat := by
  have hfour : c.alacFile.bytespersample = 4 := by
    show c.bitDepth.setWidth 32 / 8 * c.numChannels.setWidth 32 = 4
    rw [hdepth, hchannels]
    decide
  have hcap : ∀ n : BitVec 32, sPcmBytes.slt (n * 4) = true ↔ 4096 < (n.setWidth 30).toInt := by
    intro n
    rw [BitVec.slt_iff_toInt_lt, toInt_mul_four, show sPcmBytes.toInt = 4 * 4096 by decide]
    omega
  have hframe : c.frameLength.toInt = c.frameLength.toNat := by
    rw [BitVec.toInt_eq_toNat_cond, if_pos (by omega)]
  -- the frame length itself fits
  have hfits : ¬sPcmBytes.slt (c.frameLength * 4) = true := by
    rw [hcap, BitVec.toInt_eq_toNat_cond, BitVec.toNat_setWidth]
    split_ifs <;> omega
  unfold alacDecodeFrame AlacFrameHeader.Within
  dsimp only
  rw [hfour, show c.alacFile.setinfoMaxSamplesPerFrame = c.frameLength from rfl, if_neg hfits]
  by_cases hcase : 1 < (alacReadHeader plain).channels
  · rw [if_pos hcase]
    exact iff_of_true ⟨le_rfl, Int.natCast_nonneg _⟩ (.inl hcase)
  rw [if_neg hcase]
  cases hsize : (alacReadHeader plain).hassize with
  | false =>
      rw [if_neg Bool.false_ne_true]
      refine iff_of_true ?_ (.inr (.inl rfl))
      show 0 ≤ c.frameLength.toInt ∧ c.frameLength.toInt ≤ c.frameLength.toNat
      omega
  | true =>
      rw [if_pos rfl]
      by_cases hcount : sPcmBytes.slt ((alacReadHeader plain).outputsamples * 4) = true
      · rw [if_pos hcount]
        exact iff_of_true ⟨le_rfl, Int.natCast_nonneg _⟩ (.inr (.inr (.inr ((hcap _).mp hcount))))
      · rw [if_neg hcount]
        rw [hcap] at hcount
        refine ⟨fun h => .inr (.inr (.inl h)), fun h => ?_⟩
        rcases h with h | h | h | h
        · exact absurd h hcase
        · cases h
        · exact h
        · exact absurd h hcount

/-- **The decoder stays within its sample buffers exactly for the headers that are `Within`.** For
every session that `build_decoder` accepts with a frame length of at most 4096, every decryption, every
earlier content of `s_plain` and every payload: the number of samples the decoder processes is between
0 and the frame length, the number of entries of each sample buffer, if and only if the header of the
decrypted frame stores no sample count (or is of neither channel case), stores one between 0 and the
frame length, or stores one whose low 30 bits, read as a signed number, exceed 4096. -/
theorem packetSamples_within_iff {fmtp : Bytes} {alacCreate : Bool} {c : AlacCfg}
    (hbuild : buildDecoder fmtp alacCreate = some c) (hlen : c.frameLength.toNat ≤ 4096)
    (aesCbcDecrypt : Bytes → Option Bytes) (sPlain payload : Bytes) :
    (0 ≤ packetSamples c aesCbcDecrypt sPlain payload ∧
        packetSamples c aesCbcDecrypt sPlain payload ≤ c.frameLength.toNat) ↔
      ∀ plain, decryptPayload aesCbcDecrypt sPlain payload = some plain →
        (alacReadHeader plain).Within c.frameLength.toNat := by
  obtain ⟨-, -, hdepth, hchannels, -⟩ := buildDecoder_eq_some hbuild
  unfold packetSamples
  cases decryptPayload aesCbcDecrypt sPlain payload with
  | none => exact iff_of_true ⟨le_rfl, Int.natCast_nonneg _⟩ nofun
  | some plain =>
      simp only [Option.some.injEq, forall_eq']
      exact alacDecodeFrame_samples_iff hdepth hchannels hlen plain

/-! ### A frame of 352 samples -/

/-- An uncompressed stereo frame with a sample count of its own, the low 15 bits of which are in two
bytes. -/
def sampleFrame (high low : UInt8) : Bytes :=
  [0x20, 0, 0x12, 0, 0, high, low, 0, 0, 0, 0, 0, 0, 0, 0, 0]

/-- A session as senders announce it, and a block that decrypts to itself: a count of 352 is fine. -/
theorem packetSamples_within_iff_352 : ∃ c : AlacCfg, c.frameLength = 352 ∧
    packetSamples c some (List.replicate 2048 0) (sampleFrame 0x02 0xc0) = 352 ∧
    ((0 ≤ packetSamples c some (List.replicate 2048 0) (sampleFrame 0x02 0xc0) ∧
        packetSamples c some (List.replicate 2048 0) (sampleFrame 0x02 0xc0)
          ≤ c.frameLength.toNat) ↔
      ∀ plain, decryptPayload some (List.replicate 2048 0) (sampleFrame 0x02 0xc0) = some plain →
        (alacReadHeader plain).Within c.frameLength.toNat) :=
  have hbuild : buildDecoder (ascii "96 352 0 16 40 10 14 2 255 0 0 44100") true = some _ := rfl
  ⟨_, by decide, by decide,
    packetSamples_within_iff hbuild (by decide) _ _ _⟩

/-- **A count of 4096 with buffers of 352 entries**: the capacity of `s_pcm` lets it pass. -/
theorem packetSamples_beyond_buffers :
    ∃ c, buildDecoder (ascii "96 352 0 16 40 10 14 2 255 0 0 44100") true = some c ∧
      (alacBufferBytes c).toNat = 352 * 4 ∧
      packetSamples c some (List.replicate 2048 0) (sampleFrame 0x20 0) = 4096 ∧
      ¬packetSamples c some (List.replicate 2048 0) (sampleFrame 0x20 0) ≤ c.frameLength.toNat :=
  ⟨_, rfl, by decide, by decide, by decide⟩

end ConduitStream
