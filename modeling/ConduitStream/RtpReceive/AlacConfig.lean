import ConduitStream.Foundations.ByteString

/-! # The ALAC parameters of an `a=fmtp` attribute (`alac_config.c`, `build_decoder`)

`alac_cfg_from_fmtp` reads exactly twelve integers and checks each against the width of its field;
`build_decoder` then admits 16-bit stereo with a frame length that fits the PCM buffer. Its check of
the product of frame length and channel count is made in the 32 bits of the target's `size_t`. -/

namespace ConduitStream

/-- `strtoll(s, &end, 10)`: `none` if no number was found (`end == s`), else the value, saturated at
the limits of `long long`, and the string from `end` on. -/
def strtoll (s : Bytes) : Option (ℤ × Bytes) :=
  let s := s.dropWhile isSpace
  let neg := s.head? = some 0x2d
  let s := if s.head? = some 0x2d ∨ s.head? = some 0x2b then s.tail else s
  let ds := s.takeWhile isDigit
  if ds = [] then none
  else if neg then some (-(min (decimal ds) (2 ^ 63) : ℕ), s.dropWhile isDigit)
  else some ((min (decimal ds) (2 ^ 63 - 1) : ℕ), s.dropWhile isDigit)

/-- `alac_cfg_t`. -/
structure AlacCfg where
  frameLength : BitVec 32
  compatVersion : BitVec 8
  bitDepth : BitVec 8
  pb : BitVec 8
  mb : BitVec 8
  kb : BitVec 8
  numChannels : BitVec 8
  maxRun : BitVec 16
  maxFrameBytes : BitVec 32
  avgBitrate : BitVec 32
  sampleRate : BitVec 32
  deriving DecidableEq, Repr

/-- `skip_fmtp_prefix`. -/
def skipFmtpPrefix (s : Bytes) : Bytes :=
  if ascii "a=fmtp:" <+: s then s.drop (ascii "a=fmtp:").length else s

/-- The loop of `alac_cfg_from_fmtp` for `n` more integers: their values, and the rest of the
string. -/
def parseInts : ℕ → Bytes → Option (List ℤ × Bytes)
  | 0, p => some ([], p)
  | n + 1, p =>
      match strtoll p with
      | none => none
      | some (v, p) => (parseInts n p).map fun r => (v :: r.1, r.2)

/-- The value fits an unsigned field of `w` bits. -/
def fitsField (w : ℕ) (v : ℤ) : Bool := 0 ≤ v ∧ v < 2 ^ w

/-- The range checks, and the assignment to the fields. -/
def alacCfgOfInts : List ℤ → Option AlacCfg
  | [_, v1, v2, v3, v4, v5, v6, v7, v8, v9, v10, v11] =>
      if fitsField 32 v1 && fitsField 8 v2 && fitsField 8 v3 && fitsField 8 v4 && fitsField 8 v5 &&
          fitsField 8 v6 && fitsField 8 v7 && fitsField 16 v8 && fitsField 32 v9 &&
          fitsField 32 v10 && fitsField 32 v11 then
        some
          { frameLength := BitVec.ofInt 32 v1
            compatVersion := BitVec.ofInt 8 v2
            bitDepth := BitVec.ofInt 8 v3
            pb := BitVec.ofInt 8 v4
            mb := BitVec.ofInt 8 v5
            kb := BitVec.ofInt 8 v6
            numChannels := BitVec.ofInt 8 v7
            maxRun := BitVec.ofInt 16 v8
            maxFrameBytes := BitVec.ofInt 32 v9
            avgBitrate := BitVec.ofInt 32 v10
            sampleRate := BitVec.ofInt 32 v11 }
      else none
  | _ => none

/-- `alac_cfg_from_fmtp` on the bytes before the NUL: `none` for `-1`. -/
def alacCfgFromFmtp (fmtp : Bytes) : Option AlacCfg :=
  match parseInts 12 (skipFmtpPrefix fmtp) with
  | none => none
  | some (v, p) =>
      if (p.dropWhile fun c => c = 0x20 ∨ c = 0x09 ∨ c = 0x0d ∨ c = 0x0a) = [] then alacCfgOfInts v
      else none

/-- `PCM_MAX_INT16`. -/
def pcmMaxInt16 : BitVec 32 := 4096 * 2

/-- The checks of `build_decoder` on the configuration, and the result of `alac_create`: the decoder
built, `none` for `-1`. -/
def buildDecoder (fmtp : Bytes) (alacCreate : Bool) : Option AlacCfg :=
  match alacCfgFromFmtp fmtp with
  | none => none
  | some c =>
      if c.bitDepth ≠ 16 ∨ c.numChannels ≠ 2 then none
      else if c.frameLength = 0 ∨ pcmMaxInt16 < c.frameLength * c.numChannels.setWidth 32 then none
      else if alacCreate then some c
      else none

/-- **What `build_decoder` accepts**: a configuration the parser has read, 16-bit stereo, with a
frame length whose product with the channel count passes the bound in `size_t`. -/
theorem buildDecoder_eq_some {fmtp : Bytes} {alacCreate : Bool} {c : AlacCfg}
    (h : buildDecoder fmtp alacCreate = some c) :
    alacCfgFromFmtp fmtp = some c ∧ alacCreate = true ∧ c.bitDepth = 16 ∧ c.numChannels = 2 ∧
      c.frameLength ≠ 0 ∧ c.frameLength * 2 ≤ pcmMaxInt16 := by
  unfold buildDecoder at h
  cases hc : alacCfgFromFmtp fmtp with
  | none => rw [hc] at h; cases h
  | some c' =>
      rw [hc] at h
      dsimp only at h
      split at h
      · cases h
      · next hdepth =>
          split at h
          · cases h
          · next hlen =>
              split at h
              · next hcreate =>
                  cases h
                  rw [not_or, not_not, not_not] at hdepth
                  rw [not_or, hdepth.2, BitVec.not_lt] at hlen
                  exact ⟨rfl, hcreate, hdepth.1, hdepth.2, hlen.1, hlen.2⟩
              · cases h

/-- The parameters a sender announces for 352 frames a packet. -/
example : (buildDecoder (ascii "96 352 0 16 40 10 14 2 255 0 0 44100") true).map (·.frameLength)
    = some 352 := by decide

end ConduitStream
