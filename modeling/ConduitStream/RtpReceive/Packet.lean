import ConduitStream.Foundations.ByteString

/-! # RTP packets (`rtp_parser.c`, `rtp_resend.c`)

The 12-byte RTP header of an audio datagram, and the two retransmit control packets: the 8-byte
request the receiver sends and the `0xd6` response that wraps a normal audio packet. -/

namespace ConduitStream

/-- `RTP_HEADER_LEN`. -/
def rtpHeaderLen : ℕ := 12

/-- `RTP_PT_AUDIO`. -/
def rtpPtAudio : UInt8 := 0x60

/-- `RESEND_RESP_TYPE`. -/
def resendRespType : UInt8 := 0x56

/-- `RESEND_RESP_HDR`. -/
def resendRespHdr : ℕ := 4

/-- `rtp_header_t`; `payload` is `none` for the null pointer of an empty payload. -/
structure RtpHeader where
  payloadType : UInt8
  marker : Bool
  seq : BitVec 16
  timestamp : BitVec 32
  ssrc : BitVec 32
  payload : Option Bytes
  payloadLen : ℕ

/-- `rd_be16`: the big-endian 16-bit value at offset `i`. -/
def rdBe16 (p : Bytes) (i : ℕ) : BitVec 16 :=
  (p.getD i 0).toBitVec ++ (p.getD (i + 1) 0).toBitVec

/-- `rd_be32`: the big-endian 32-bit value at offset `i`. -/
def rdBe32 (p : Bytes) (i : ℕ) : BitVec 32 := rdBe16 p i ++ rdBe16 p (i + 2)

/-- `rtp_parse`: `none` for the result `-1`. -/
def rtpParse (pkt : Bytes) : Option RtpHeader :=
  if pkt.length < rtpHeaderLen then none
  else
    some
      { payloadType := pkt.getD 1 0 &&& 0x7f
        marker := pkt.getD 1 0 &&& 0x80 != 0
        seq := rdBe16 pkt 2
        timestamp := rdBe32 pkt 4
        ssrc := rdBe32 pkt 8
        payload := if pkt.length - rtpHeaderLen > 0 then some (pkt.drop rtpHeaderLen) else none
        payloadLen := pkt.length - rtpHeaderLen }

/-- `rtp_resend_build`: the 8-byte resend request. -/
def rtpResendBuild (firstMissing count : BitVec 16) : Bytes :=
  [0x80, 0xD5, 0x00, 0x01,
    ⟨(firstMissing >>> 8).setWidth 8⟩, ⟨firstMissing.setWidth 8⟩,
    ⟨(count >>> 8).setWidth 8⟩, ⟨count.setWidth 8⟩]

/-- `rtp_resend_unwrap`: the wrapped audio packet, `none` for the result `-1`. -/
def rtpResendUnwrap (pkt : Bytes) : Option Bytes :=
  if pkt.length < resendRespHdr + rtpHeaderLen then none
  else if pkt.getD 1 0 &&& 0x7f ≠ resendRespType then none
  else some (pkt.drop resendRespHdr)

end ConduitStream
