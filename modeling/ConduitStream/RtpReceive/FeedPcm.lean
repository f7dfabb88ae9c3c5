import ConduitStream.Alac.FrameCode
import ConduitStream.RtpReceive.AlacFrame

/-! # What is fed to the PCM ring (`decode_and_feed`)

`decodeAndFeed` counts the frames a payload is worth. Here the buffers are there that it works on:
`s_plain`, the decoder, and `s_pcm`, and with them the frames themselves. The crypto library stays a
parameter.

* `RtpDecoder.decodeAndFeed_eq_some`: the number of frames is that of `decodeAndFeed`;
* `RtpDecoder.decodeAndFeed_encoded`: the frames of a packet are fed as the sender has encoded them;
* `RtpDecoder.perform_encoded`: so are those of the calls that draining makes, in their order, with one
  frame length of silence for each concealment. -/

namespace ConduitStream

open Alac

/-- `s_alac`, `s_plain` and `s_pcm`. -/
structure RtpDecoder where
  sAlac : AlacDecoder
  sPlain : Bytes
  sPcm : List StereoFrame
  deriving DecidableEq, Repr

namespace RtpDecoder

/-- `decode_and_feed`: the state afterwards, and the frames passed to `feed_pcm`; `none` for an access
outside a buffer. A decryption that fails is taken to leave `s_plain` alone. -/
def decodeAndFeed (aesCbcDecrypt : Bytes → Option Bytes) (st : RtpDecoder) (payload : Bytes) :
    Option (RtpDecoder × List StereoFrame) :=
  match decryptPayload aesCbcDecrypt st.sPlain payload with
  | none => some (st, [])
  | some plain => do
      let r ← Alac.alacDecodeFrame st.sAlac plain st.sPcm sPcmBytes
      let st : RtpDecoder := ⟨r.decoder, plain, r.outbuffer⟩
      if r.outputsize.toInt ≤ 0 then return (st, [])
      else
        -- two channels of two bytes
        let fed ← loadRange st.sPcm 0 (r.outputsize.toNat / 4)
        return (st, fed)

/-- The calls that draining makes: `feed_silence(s_frame_length)` feeds zeros. -/
def perform (aesCbcDecrypt : Bytes → Option Bytes) (frameLength : ℕ) (st : RtpDecoder) :
    List DrainAction → Option (RtpDecoder × List StereoFrame)
  | [] => some (st, [])
  | .decode _ payload :: acts => do
      let (st, fed) ← st.decodeAndFeed aesCbcDecrypt payload
      let (st, rest) ← st.perform aesCbcDecrypt frameLength acts
      return (st, fed ++ rest)
  | .conceal :: acts => do
      let (st, rest) ← st.perform aesCbcDecrypt frameLength acts
      return (st, List.replicate frameLength (0, 0) ++ rest)

end RtpDecoder

/-! ## The sender -/

/-- The cipher of a session, without padding. -/
structure AesCbc where
  encrypt : Bytes → Bytes
  decrypt : Bytes → Option Bytes
  length_encrypt (x : Bytes) : (encrypt x).length = x.length
  decrypt_encrypt (x : Bytes) : x.length % 16 = 0 → decrypt (encrypt x) = some x

/-- The payload of a packet: whole blocks are encrypted, the rest is not. -/
def AesCbc.payload (aes : AesCbc) (plain : Bytes) : Bytes :=
  aes.encrypt (plain.take (plain.length / 16 * 16)) ++ plain.drop (plain.length / 16 * 16)

/-- A payload is as long as what is in it. -/
@[simp] theorem AesCbc.length_payload (aes : AesCbc) (plain : Bytes) :
    (aes.payload plain).length = plain.length := by
  rw [payload, List.length_append, aes.length_encrypt, ← List.length_append, List.take_append_drop]

/-- What is written behind the front of a buffer. -/
theorem overwrite_append (front rest bs : Bytes) :
    overwrite (front ++ rest) front.length bs = front ++ bs ++ rest.drop bs.length := by
  rw [overwrite, List.take_left, ← List.drop_drop, List.drop_left]

/-- **The payload is decrypted** in front of what is in `s_plain`. -/
theorem AesCbc.decryptPayload_payload (aes : AesCbc) {plain : Bytes} (hne : plain ≠ [])
    (hlen : plain.length ≤ rtpRxCap) (sPlain : Bytes) :
    decryptPayload aes.decrypt sPlain (aes.payload plain) = some (plain ++ sPlain.drop plain.length) := by
  have hpos := List.length_pos_iff.mpr hne
  have hle : plain.length / 16 * 16 ≤ plain.length := Nat.div_mul_le_self _ _
  obtain ⟨front, back, rfl, hfront⟩ : ∃ front back, plain = front ++ back ∧
      front.length = plain.length / 16 * 16 :=
    ⟨_, _, (List.take_append_drop _ plain).symm, List.length_take_of_le hle⟩
  have hback : (front ++ back).length - front.length = back.length := by
    rw [List.length_append, Nat.add_sub_cancel_left]
  have hcipher : (aes.payload (front ++ back)).take front.length = aes.encrypt front := by
    rw [payload, ← hfront, List.take_left]
    exact List.take_left' (aes.length_encrypt front)
  have hrest : (aes.payload (front ++ back)).drop front.length = back := by
    rw [payload, ← hfront, List.take_left, List.drop_left]
    exact List.drop_left' (aes.length_encrypt front)
  have hdecrypt := aes.decrypt_encrypt front (by rw [hfront]; omega)
  -- the blocks, whether or not there are any
  have hblocks : (if 0 < front.length then (some front).map (overwrite sPlain 0) else some sPlain)
      = some (front ++ sPlain.drop front.length) := by
    split_ifs with hblock
    · rw [Option.map_some, overwrite, List.take_zero, List.nil_append, Nat.zero_add]
    · rw [List.length_eq_zero_iff.mp (Nat.eq_zero_of_not_pos hblock)]
      rfl
  unfold decryptPayload aesFrameSplit
  simp only [aes.length_payload, ← hfront, hback, hcipher, hrest, hdecrypt]
  rw [if_neg (by omega), hblocks, Option.map_some, overwrite_append, List.drop_drop,
    ← List.length_append]
  split_ifs with hmore
  · rfl
  · rw [List.length_eq_zero_iff.mp (Nat.eq_zero_of_not_pos hmore), List.append_nil]

/-! ## The packets of a stream -/

/-- The decoder of the session, with the buffers of the program. -/
structure RtpDecoder.Ready (s : AlacSetup) (st : RtpDecoder) : Prop where
  sAlac : SetUp s st.sAlac
  sPlain : st.sPlain.length = rtpRxCap
  sPcm : st.sPcm.length = 4096

/-- A frame an encoder has made for the session, which fits a packet: 1 to `samplesPerFrame` samples. -/
structure EncodedFrame (s : AlacSetup) where
  code : FrameCode s
  frames : List StereoFrame
  ne_nil : frames ≠ []
  length_le : frames.length ≤ s.samplesPerFrame
  packed_le : (packBits (encodeFrame code frames)).length ≤ rtpReorderMaxPkt

namespace EncodedFrame

variable {s : AlacSetup} (f : EncodedFrame s)

/-- The bytes that are encrypted. -/
def packed : Bytes := packBits (encodeFrame f.code f.frames)

/-- The packet of a frame is never empty, as it begins with a header. -/
theorem packed_ne_nil : f.packed ≠ [] := by
  obtain ⟨z, -, hbits⟩ := byteBits_packBits (encodeFrame f.code f.frames)
  intro hnil
  have hcount := congrArg List.length hbits
  rw [show packBits (encodeFrame f.code f.frames) = [] from hnil, encodeFrame, List.length_append,
    List.length_append, List.length_append, length_wordBits] at hcount
  change 0 = _ at hcount
  omega

/-- **The decoder returns the frame**, whatever follows it. -/
theorem alacDecodeFrame_eq {d : AlacDecoder} (hd : SetUp s d) (behind : Bytes) (hbehind : 3 ≤ behind.length)
    {out : List StereoFrame} (hout : out.length = 4096) :
    ∃ d', SetUp s d' ∧ Alac.alacDecodeFrame d (f.packed ++ behind) out sPcmBytes
      = some ⟨d', f.frames ++ out.drop f.frames.length, BitVec.ofNat 32 (4 * f.frames.length)⟩ := by
  have hcount := s.samplesPerFrame_le
  have hlen := f.length_le
  exact alacDecodeFrame_packed hd f.code f.ne_nil hlen (by omega)
    (by rw [show sPcmBytes.toInt = 16384 by decide]; omega) hbehind

/-- The payload of the packet. -/
def payload (aes : AesCbc) : Bytes := aes.payload f.packed

/-- A packet that the reorder buffer takes. -/
theorem length_payload (aes : AesCbc) :
    1 ≤ (f.payload aes).length ∧ (f.payload aes).length ≤ rtpReorderMaxPkt := by
  rw [payload, aes.length_payload]
  exact ⟨List.length_pos_iff.mpr f.packed_ne_nil, f.packed_le⟩

/-- A frame that is not compressed: it fits a packet of a session with up to 380 samples a frame. -/
def uncompressed (hs : s.samplesPerFrame ≤ 380) (frames : List StereoFrame) (hne : frames ≠ [])
    (hlen : frames.length ≤ s.samplesPerFrame) : EncodedFrame s where
  code := .uncompressed
  frames := frames
  ne_nil := hne
  length_le := hlen
  packed_le := by
    have hsample : ∀ f : StereoFrame,
        (signedWord f.1.toInt ++ signedWord f.2.toInt).length = 32 := by
      intro f
      rw [List.length_append, signedWord, signedWord, length_wordBits, length_wordBits]
    have hbody : (encodeBody frames (FrameCode.uncompressed (s := s))).length = frames.length * 32 := by
      unfold encodeBody
      rw [List.length_flatMap, List.map_congr_left (fun f _ => hsample f), List.map_const',
        List.sum_replicate_nat]
    have hcount : (if frames.length ≠ s.samplesPerFrame then wordBits 32 frames.length
        else []).length ≤ 32 := by
      split_ifs
      · rw [length_wordBits]
      · exact Nat.zero_le 32
    have hbytes := length_packBits_le (encodeFrame (FrameCode.uncompressed (s := s)) frames)
    unfold encodeFrame encodeFrameHeader at hbytes
    simp only [List.length_append, length_wordBits, hbody] at hbytes
    unfold rtpReorderMaxPkt encodeFrame encodeFrameHeader
    omega

end EncodedFrame

variable {s : AlacSetup} {st : RtpDecoder}

/-- **A packet is fed as it was encoded**, whatever packets came before it. -/
theorem RtpDecoder.decodeAndFeed_encoded (hst : st.Ready s) (aes : AesCbc) (f : EncodedFrame s) :
    ∃ st', st'.Ready s ∧ st.decodeAndFeed aes.decrypt (f.payload aes) = some (st', f.frames) := by
  have hcount := s.samplesPerFrame_le
  have hlen := f.length_le
  have hpos := List.length_pos_iff.mpr f.ne_nil
  have hpacked : f.packed.length ≤ 1536 := f.packed_le
  have hbuffer : st.sPlain.length = 2048 := hst.sPlain
  have hdecrypt := aes.decryptPayload_payload f.packed_ne_nil (hpacked.trans (by decide)) st.sPlain
  obtain ⟨d', hd', hframe⟩ := f.alacDecodeFrame_eq hst.sAlac (st.sPlain.drop f.packed.length)
    (by rw [List.length_drop]; omega) hst.sPcm
  refine ⟨⟨d', f.packed ++ st.sPlain.drop f.packed.length,
    f.frames ++ st.sPcm.drop f.frames.length⟩, ⟨hd', ?_, ?_⟩, ?_⟩
  · show (f.packed ++ _).length = rtpRxCap
    rw [List.length_append, List.length_drop, hbuffer]
    unfold rtpRxCap
    omega
  · show (f.frames ++ _).length = 4096
    rw [List.length_append, List.length_drop, hst.sPcm]
    omega
  · have hsize : (BitVec.ofNat 32 (4 * f.frames.length)).toNat = 4 * f.frames.length :=
      Nat.mod_eq_of_lt (by omega)
    unfold decodeAndFeed EncodedFrame.payload
    rw [hdecrypt]
    simp only [hframe, Option.bind_eq_bind, Option.bind_some]
    rw [toInt_ofNat (by omega), if_neg (by omega), hsize, Nat.mul_div_cancel_left _ (by decide),
      loadRange_front, Option.bind_some]
    rfl

/-- A call of draining on a stream of encoded frames. -/
inductive StreamCall (s : AlacSetup)
  | packet (seq : BitVec 16) (f : EncodedFrame s)
  | conceal

/-- The call. -/
def StreamCall.action (aes : AesCbc) : StreamCall s → DrainAction
  | .packet seq f => .decode seq (f.payload aes)
  | .conceal => .conceal

/-- What it is worth: a packet its frames, a concealment a frame of silence. -/
def StreamCall.frames : StreamCall s → List StereoFrame
  | .packet _ f => f.frames
  | .conceal => List.replicate s.samplesPerFrame (0, 0)

/-- **What draining feeds**, for every list of calls on encoded packets: the frames of the packets in
their order, with one frame length of silence for each concealment. -/
theorem RtpDecoder.perform_encoded (hst : st.Ready s) (aes : AesCbc) (calls : List (StreamCall s)) :
    ∃ st', st'.Ready s ∧ st.perform aes.decrypt s.samplesPerFrame (calls.map (·.action aes))
      = some (st', calls.flatMap (·.frames)) := by
  induction calls generalizing st with
  | nil => exact ⟨st, hst, rfl⟩
  | cons call calls ih =>
      cases call with
      | conceal =>
          obtain ⟨st', hst', hrest⟩ := ih hst
          refine ⟨st', hst', ?_⟩
          show (st.perform aes.decrypt s.samplesPerFrame (calls.map _)).bind _ = _
          rw [hrest]
          rfl
      | packet seq f =>
          obtain ⟨st₁, hst₁, hfirst⟩ := st.decodeAndFeed_encoded hst aes f
          obtain ⟨st', hst', hrest⟩ := ih hst₁
          refine ⟨st', hst', ?_⟩
          show (st.decodeAndFeed aes.decrypt (f.payload aes)).bind _ = _
          rw [hfirst, Option.bind_some]
          show (st₁.perform aes.decrypt s.samplesPerFrame (calls.map _)).bind _ = _
          rw [hrest]
          rfl

end ConduitStream
