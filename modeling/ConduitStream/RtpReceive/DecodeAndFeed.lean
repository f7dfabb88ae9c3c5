import ConduitStream.RtpReceive.FrameLength
import ConduitStream.RtpReceive.ReceivePath

/-! # From a payload to PCM frames (`decode_and_feed`, `aes_frame.c`)

A payload is decrypted in whole blocks of 16 bytes, the rest is copied, and the decoder works on the
buffer `s_plain`, of which a short payload overwrites only the front. The function gives up without a
trace on every error: it has no result, and feeds nothing. The crypto library and the decoder are
parameters here. -/

namespace ConduitStream

/-- `aes_frame_split_t`. -/
structure AesFrameSplit where
  cipherLen : ℕ
  plainOff : ℕ
  plainLen : ℕ
  deriving DecidableEq, Repr

/-- `aes_frame_split`; `payload_len & ~0x0f` is the largest multiple of 16 up to `payload_len`. -/
def aesFrameSplit (payloadLen : ℕ) : AesFrameSplit :=
  let cipherLen := payloadLen / 16 * 16
  ⟨cipherLen, cipherLen, payloadLen - cipherLen⟩

/-- `memcpy(buf + off, bs, …)` into a buffer. -/
def overwrite (buf : Bytes) (off : ℕ) (bs : Bytes) : Bytes :=
  buf.take off ++ bs ++ buf.drop (off + bs.length)

/-- `decode_and_feed` up to the call of the decoder: `s_plain` as it is then, `none` if the function
returns before. `aesCbcDecrypt` is `aes_cbc_decrypt` under the key and the IV of the session, `none`
for `-1`. -/
def decryptPayload (aesCbcDecrypt : Bytes → Option Bytes) (sPlain payload : Bytes) : Option Bytes :=
  if payload.length = 0 ∨ rtpRxCap < payload.length then none
  else
    let sp := aesFrameSplit payload.length
    let cipher :=
      if 0 < sp.cipherLen then
        (aesCbcDecrypt (payload.take sp.cipherLen)).map (overwrite sPlain 0)
      else some sPlain
    cipher.map fun plain =>
      if 0 < sp.plainLen then overwrite plain sp.plainOff (payload.drop sp.plainOff) else plain

/-- `decode_and_feed`: the number of frames it passes to `feed_pcm`, `none` if it returns before.
`alacDecodeFrame` is what `alac_decode_frame` leaves in `*outsize`, given the buffer and what
`*outsize` was before. -/
def decodeAndFeed (aesCbcDecrypt : Bytes → Option Bytes)
    (alacDecodeFrame : Bytes → BitVec 32 → BitVec 32) (numChannels : BitVec 8)
    (sPlain payload : Bytes) : Option ℕ :=
  (decryptPayload aesCbcDecrypt sPlain payload).bind fun plain =>
    let outsize := alacDecodeFrame plain sPcmBytes
    if outsize.toInt ≤ 0 then none
    else
      let frames := outsize.toNat / (numChannels.toNat * 2)
      if frames = 0 then none else some frames

end ConduitStream
