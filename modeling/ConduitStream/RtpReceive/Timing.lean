import ConduitStream.RtpReceive.Packet

/-! # Timing packets (`rtp_timing.c`)

The receiver sends 32-byte requests and discards the responses; an inbound request is answered. -/

namespace ConduitStream

/-- `TIMING_PKT_LEN`. -/
def timingPktLen : ℕ := 32

/-- `TIMING_REQ_TYPE`. -/
def timingReqType : UInt8 := 0x52

/-- `TIMING_RESP_TYPE`. -/
def timingRespType : UInt8 := 0x53

/-- `timing_stamps_t`. -/
structure TimingStamps where
  origin : BitVec 64
  receive : BitVec 64
  transmit : BitVec 64
  deriving DecidableEq, Repr

/-- `wr_be64`: the eight big-endian bytes of a value. -/
def wrBe64 (v : BitVec 64) : Bytes :=
  (List.range 8).map fun i => ⟨(v >>> (56 - 8 * i)).setWidth 8⟩

/-- `rd_be64`: the big-endian 64-bit value at offset `i`. -/
def rdBe64 (p : Bytes) (i : ℕ) : BitVec 64 := rdBe32 p i ++ rdBe32 p (i + 4)

/-- A timing packet with the second byte `kind`. -/
def timingPkt (kind : UInt8) (st : TimingStamps) : Bytes :=
  [0x80, kind, 0x00, 0x07, 0, 0, 0, 0] ++ wrBe64 st.origin ++ wrBe64 st.receive
    ++ wrBe64 st.transmit

/-- `rtp_timing_build_request`. -/
def rtpTimingBuildRequest (transmitNtp : BitVec 64) : Bytes := timingPkt 0xD2 ⟨0, 0, transmitNtp⟩

/-- `rtp_timing_build_response`. -/
def rtpTimingBuildResponse (originNtp receiveNtp transmitNtp : BitVec 64) : Bytes :=
  timingPkt 0xD3 ⟨originNtp, receiveNtp, transmitNtp⟩

/-- `rtp_timing_parse`: `none` for the result `-1`. -/
def rtpTimingParse (pkt : Bytes) : Option (UInt8 × TimingStamps) :=
  if pkt.length < timingPktLen then none
  else
    let t := pkt.getD 1 0 &&& 0x7f
    if t ≠ timingReqType ∧ t ≠ timingRespType then none
    else some (t, ⟨rdBe64 pkt 8, rdBe64 pkt 16, rdBe64 pkt 24⟩)

/-! ## What is built parses back -/

/-- The eight bytes of a value, put together again. -/
theorem be64_bytes (v : BitVec 64) :
    ((((v >>> 56).setWidth 8 ++ (v >>> 48).setWidth 8 : BitVec 16)
        ++ ((v >>> 40).setWidth 8 ++ (v >>> 32).setWidth 8 : BitVec 16) : BitVec 32)
      ++ (((v >>> 24).setWidth 8 ++ (v >>> 16).setWidth 8 : BitVec 16)
        ++ ((v >>> 8).setWidth 8 ++ (v >>> 0).setWidth 8 : BitVec 16) : BitVec 32) : BitVec 64)
      = v := by
  ext i hi
  simp only [BitVec.getElem_append, BitVec.getElem_setWidth, BitVec.getLsbD_ushiftRight]
  split_ifs <;> simp [← BitVec.getLsbD_eq_getElem] <;> congr 1 <;> omega

/-- **Round trip**: a timing packet of either kind parses to its stamps. -/
theorem rtpTimingParse_timingPkt {kind : UInt8} (st : TimingStamps)
    (hkind : kind = 0xD2 ∨ kind = 0xD3) :
    rtpTimingParse (timingPkt kind st) = some (kind &&& 0x7f, st) := by
  have horigin : rdBe64 (timingPkt kind st) 8 = st.origin := be64_bytes st.origin
  have hreceive : rdBe64 (timingPkt kind st) 16 = st.receive := be64_bytes st.receive
  have htransmit : rdBe64 (timingPkt kind st) 24 = st.transmit := be64_bytes st.transmit
  have hsecond : (timingPkt kind st).getD 1 0 = kind := rfl
  have hlen : ¬(timingPkt kind st).length < timingPktLen := by
    simp [timingPkt, wrBe64, timingPktLen]
  have ht : ¬(kind &&& 0x7f ≠ timingReqType ∧ kind &&& 0x7f ≠ timingRespType) := by
    rcases hkind with rfl | rfl <;> decide
  unfold rtpTimingParse
  rw [if_neg hlen]
  dsimp only
  rw [hsecond, if_neg ht, horigin, hreceive, htransmit]

end ConduitStream
