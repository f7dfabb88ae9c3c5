import ConduitStream.Reorder.Refinement
import ConduitStream.RtpReceive.Packet

/-! # The RTP receive path (`raop_rtp.c`)

Datagrams from the audio and the control socket are parsed, their encrypted payloads put into the
reorder buffer, and the buffer is drained as far as in-order data allows. Draining hands each
payload to `decode_and_feed`, or one frame of silence to `feed_silence` for a concealed gap;
neither of the two touches the reorder buffer, so a drain is modelled by the list of these
calls. On a front gap a resend request goes to the sender's control port. -/

namespace ConduitStream

/-- `RTP_RX_CAP`: the size of the `recvfrom` scratch buffer. -/
def rtpRxCap : ℕ := 2048

/-- `pdMS_TO_TICKS(RESEND_MIN_INTERVAL_MS)` at `CONFIG_FREERTOS_HZ=1000`. -/
def resendMinIntervalTicks : BitVec 32 := 30

/-- `struct sockaddr_in`, as far as the receive path uses it. -/
structure SockaddrIn where
  addr : BitVec 32
  port : BitVec 16
  deriving DecidableEq, Repr

/-- The descriptors and sender ports that `raop_rtp_start` copies from the session. -/
structure RtpIo where
  audioFd : ℤ
  controlFd : ℤ
  timingFd : ℤ
  clientControlPort : ℤ
  clientTimingPort : ℤ
  deriving DecidableEq, Repr

/-- The statics of `raop_rtp.c` the RTP task writes while it runs: the peer, the reorder buffer and
the resend throttle. -/
structure RtpRx where
  peer : SockaddrIn
  peerKnown : Bool
  reorder : RtpReorder
  resendFirst : BitVec 16
  resendValid : Bool
  resendTick : BitVec 32

/-- `REORDER_WINDOW` of the default configuration. -/
def reorderWindow : BitVec 16 := 256

/-- `REORDER_HOLD` of the default configuration. -/
def reorderHold : BitVec 16 := 24

/-- The receive statics as `raop_rtp_start` sets them: a fresh reorder buffer over the new slots,
and the sender's address as the peer if RECORD has captured one. -/
def RtpRx.start (rx : RtpRx) (slots : ℕ → RtpReorderSlot) (clientIp : BitVec 32) : RtpRx :=
  { rx with
    reorder := rtpReorderInit slots reorderWindow reorderHold
    peer := if clientIp ≠ 0 then ⟨clientIp, 0⟩ else rx.peer
    peerKnown := decide (clientIp ≠ 0)
    resendValid := false }

/-- A call that draining makes: `decode_and_feed` on a popped payload, or `feed_silence`. -/
inductive DrainAction
  | decode (seq : BitVec 16) (payload : Bytes)
  | conceal
  deriving DecidableEq, Repr

/-- What handling a datagram does to the outside. -/
inductive RxAction
  | drain (a : DrainAction)
  | sendto (fd : ℤ) (dst : SockaddrIn) (req : Bytes)
  deriving DecidableEq, Repr

/-! ## Draining -/

/-- `insert_audio`: the classification is ignored; `len` is the length of the payload. -/
def insertAudio (rb : RtpReorder) (seq : BitVec 16) : Option Bytes → RtpReorder
  | none => rb
  | some payload => if payload.length = 0 then rb else (rtpReorderInsert rb seq payload).1

/-- A successful pop empties one of the slots. -/
theorem validCount_lt_of_pop_ok {rb rb' : RtpReorder} {cap : ℕ} {out : Bytes} {seq : BitVec 16}
    (h : rtpReorderPop rb cap = (rb', .ok out seq)) :
    validCount rb'.slots (2 ^ 16) < validCount rb.slots (2 ^ 16) := by
  obtain ⟨sl, hv, hsl, hslots⟩ := rtpReorderPop_eq_ok h
  have hidx : rb.slotIdx rb.next < 2 ^ 16 := BitVec.isLt _
  have := validCount_update_invalid hidx hv _ hsl
  rw [hslots]
  omega

/-- A concealment brings the cursor one closer to the write head. -/
theorem seqDiff_lt_of_pop_conceal {rb rb' : RtpReorder} {cap : ℕ}
    (h : rtpReorderPop rb cap = (rb', .conceal)) :
    rb'.slots = rb.slots ∧
      (seqDiff rb'.head rb'.next).toNat < (seqDiff rb.head rb.next).toNat := by
  obtain ⟨hlt, rfl⟩ := rtpReorderPop_eq_conceal h
  refine ⟨rfl, ?_⟩
  have hpos : 0 < (rb.head - rb.next).toNat := by
    rw [BitVec.lt_def] at hlt
    unfold seqDiff at hlt
    omega
  have hone : (1 : BitVec 16).toNat = 1 := rfl
  unfold seqDiff
  have hassoc : rb.head - (rb.next + 1) = rb.head - rb.next - 1 := by bv_omega
  rw [hassoc, BitVec.toNat_sub_of_le (by rw [BitVec.le_def]; omega)]
  omega

/-- `drain_decode`. Every pop either empties a slot or brings the cursor closer to the write head,
so the loop ends in every state. -/
def drainDecode (rb : RtpReorder) : RtpReorder × List DrainAction :=
  match _h : rtpReorderPop rb rtpReorderMaxPkt with
  | (rb', .ok out seq) => ((drainDecode rb').1, .decode seq out :: (drainDecode rb').2)
  | (rb', .conceal) => ((drainDecode rb').1, .conceal :: (drainDecode rb').2)
  | (rb', .wait) => (rb', [])
  | (rb', .empty) => (rb', [])
termination_by (validCount rb.slots (2 ^ 16), (seqDiff rb.head rb.next).toNat)
decreasing_by
  all_goals first
    | exact Prod.Lex.left _ _ (validCount_lt_of_pop_ok _h)
    | (rw [(seqDiff_lt_of_pop_conceal _h).1]
       exact Prod.Lex.right _ (seqDiff_lt_of_pop_conceal _h).2)

/-- A packet that is popped is decoded, and the draining goes on. -/
theorem drainDecode_ok {rb rb' : RtpReorder} {out : Bytes} {seq : BitVec 16}
    (h : rtpReorderPop rb rtpReorderMaxPkt = (rb', .ok out seq)) :
    drainDecode rb = ((drainDecode rb').1, .decode seq out :: (drainDecode rb').2) := by
  rw [drainDecode]
  split <;> simp_all

/-- A gap that is given up is concealed, and the draining goes on. -/
theorem drainDecode_conceal {rb rb' : RtpReorder}
    (h : rtpReorderPop rb rtpReorderMaxPkt = (rb', .conceal)) :
    drainDecode rb = ((drainDecode rb').1, .conceal :: (drainDecode rb').2) := by
  rw [drainDecode]
  split <;> simp_all

/-- It ends when nothing is due. -/
theorem drainDecode_stop {rb rb' : RtpReorder}
    (h : rtpReorderPop rb rtpReorderMaxPkt = (rb', .wait) ∨
      rtpReorderPop rb rtpReorderMaxPkt = (rb', .empty)) : drainDecode rb = (rb', []) := by
  rw [drainDecode]
  split <;> simp_all

/-- `insert_audio` followed by `drain_decode`. -/
def insertAndDrain (rb : RtpReorder) (seq : BitVec 16) (payload : Option Bytes) :
    RtpReorder × List DrainAction :=
  drainDecode (insertAudio rb seq payload)

/-! ## The socket handlers -/

/-- `maybe_request_resend`; `now` is `xTaskGetTickCount()`. -/
def maybeRequestResend (io : RtpIo) (rx : RtpRx) (now : BitVec 32) : RtpRx × List RxAction :=
  if rx.peerKnown = false ∨ io.controlFd < 0 then (rx, [])
  else
    match rtpReorderGap rx.reorder with
    | none => (rx, [])
    | some (first, count) =>
        if rx.resendValid ∧ first = rx.resendFirst ∧ now - rx.resendTick < resendMinIntervalTicks
        then (rx, [])
        else
          ({ rx with resendFirst := first, resendTick := now, resendValid := true },
            [.sendto io.controlFd
              { rx.peer with port := BitVec.ofInt 16 io.clientControlPort }
              (rtpResendBuild first count)])

/-- `handle_audio`; `pkt` is the datagram, `none` if `recvfrom` fails, `src` its source. -/
def handleAudio (io : RtpIo) (rx : RtpRx) (pkt : Option Bytes) (src : SockaddrIn)
    (now : BitVec 32) : RtpRx × List RxAction :=
  match pkt with
  | none => (rx, [])
  | some pkt =>
      let sRx := pkt.take rtpRxCap
      if sRx.length = 0 then (rx, [])
      else
        match rtpParse sRx with
        | none => (rx, [])
        | some h =>
            if h.payloadType ≠ rtpPtAudio then (rx, [])
            else
              -- anchor the reorder buffer on the first audio packet
              let reorder :=
                if rx.reorder.started then rx.reorder else rtpReorderAnchor rx.reorder h.seq
              -- learn the peer from the audio source if RECORD had none
              let peer := if rx.peerKnown then rx.peer else src
              let d := insertAndDrain reorder h.seq h.payload
              let r := maybeRequestResend io
                { rx with peer := peer, peerKnown := true, reorder := d.1 } now
              (r.1, d.2.map .drain ++ r.2)

/-- `handle_control`: only resend responses matter; everything else is dropped. -/
def handleControl (rx : RtpRx) (pkt : Option Bytes) : RtpRx × List RxAction :=
  match pkt with
  | none => (rx, [])
  | some pkt =>
      let sRx := pkt.take rtpRxCap
      if sRx.length < 2 then (rx, [])
      else if sRx.getD 1 0 &&& 0x7f ≠ resendRespType then (rx, [])
      else
        match rtpResendUnwrap sRx with
        | none => (rx, [])
        | some inner =>
            match rtpParse inner with
            | none => (rx, [])
            | some h =>
                if h.payloadType ≠ rtpPtAudio then (rx, [])
                else
                  let d := insertAndDrain rx.reorder h.seq h.payload
                  ({ rx with reorder := d.1 }, d.2.map .drain)

/-- One readable socket served by the loop of `rtp_task`. -/
inductive RxEvent
  | audio (pkt : Option Bytes) (src : SockaddrIn) (now : BitVec 32)
  | control (pkt : Option Bytes)

/-- Serve one readable socket. -/
def RtpRx.exec (io : RtpIo) (rx : RtpRx) : RxEvent → RtpRx × List RxAction
  | .audio pkt src now => handleAudio io rx pkt src now
  | .control pkt => handleControl rx pkt

/-! ## What the handlers do to the reorder buffer -/

/-- The calls of `drain_decode` among the actions. -/
def drainsOf (acts : List RxAction) : List DrainAction :=
  acts.filterMap fun
    | .drain a => some a
    | .sendto .. => none

/-- The calls of two stretches of actions. -/
@[simp] theorem drainsOf_append (as bs : List RxAction) :
    drainsOf (as ++ bs) = drainsOf as ++ drainsOf bs := List.filterMap_append

/-- Calls that were made actions are the same calls. -/
@[simp] theorem drainsOf_map_drain (as : List DrainAction) :
    drainsOf (as.map .drain) = as := by
  simp [drainsOf, List.filterMap_map]

/-- A resend request touches neither the reorder buffer nor the decoder. -/
theorem maybeRequestResend_frame (io : RtpIo) (rx : RtpRx) (now : BitVec 32) :
    (maybeRequestResend io rx now).1.reorder = rx.reorder ∧
      drainsOf (maybeRequestResend io rx now).2 = [] := by
  unfold maybeRequestResend
  split
  · exact ⟨rfl, rfl⟩
  · split
    · exact ⟨rfl, rfl⟩
    · split <;> exact ⟨rfl, rfl⟩

/-- The sequence number and payload of an audio datagram the audio socket accepts. -/
def audioArrival (pkt : Option Bytes) : Option (BitVec 16 × Option Bytes) := do
  let h ← rtpParse ((← pkt).take rtpRxCap)
  if h.payloadType = rtpPtAudio then some (h.seq, h.payload) else none

/-- The sequence number and payload of a recovered packet the control socket accepts. -/
def controlArrival (pkt : Option Bytes) : Option (BitVec 16 × Option Bytes) := do
  let h ← rtpParse (← rtpResendUnwrap ((← pkt).take rtpRxCap))
  if h.payloadType = rtpPtAudio then some (h.seq, h.payload) else none

/-- Anchoring to `seq`, unless the buffer is started already. -/
def anchorIfNeeded (rb : RtpReorder) (seq : BitVec 16) : RtpReorder :=
  if rb.started then rb else rtpReorderAnchor rb seq

/-- **What `handle_audio` can do**: drop the datagram, or insert its payload and drain. -/
theorem handleAudio_cases (io : RtpIo) (rx : RtpRx) (pkt : Option Bytes) (src : SockaddrIn)
    (now : BitVec 32) :
    (audioArrival pkt = none ∧ handleAudio io rx pkt src now = (rx, [])) ∨
      ∃ seq payload, audioArrival pkt = some (seq, payload) ∧
        (handleAudio io rx pkt src now).1.reorder
          = (insertAndDrain (anchorIfNeeded rx.reorder seq) seq payload).1 ∧
        drainsOf (handleAudio io rx pkt src now).2
          = (insertAndDrain (anchorIfNeeded rx.reorder seq) seq payload).2 := by
  cases pkt with
  | none => exact .inl ⟨rfl, rfl⟩
  | some pkt =>
      have harr : audioArrival (some pkt) = (rtpParse (pkt.take rtpRxCap)).bind fun h =>
          if h.payloadType = rtpPtAudio then some (h.seq, h.payload) else none := rfl
      by_cases hlen : (pkt.take rtpRxCap).length = 0
      · -- an empty datagram parses to nothing
        have hp : rtpParse (pkt.take rtpRxCap) = none := by
          unfold rtpParse; rw [if_pos (by rw [hlen]; decide)]
        refine .inl ⟨by rw [harr, hp]; rfl, ?_⟩
        simp only [handleAudio, if_pos hlen]
      cases hp : rtpParse (pkt.take rtpRxCap) with
      | none =>
          refine .inl ⟨by rw [harr, hp]; rfl, ?_⟩
          simp only [handleAudio, if_neg hlen, hp]
      | some h =>
          by_cases ht : h.payloadType = rtpPtAudio
          · refine .inr ⟨h.seq, h.payload, by rw [harr, hp]; simp [ht], ?_⟩
            simp only [handleAudio, if_neg hlen, hp, ht, ne_eq, not_true_eq_false, if_false,
              anchorIfNeeded, drainsOf_append, drainsOf_map_drain, maybeRequestResend_frame,
              List.append_nil, and_self]
          · refine .inl ⟨by rw [harr, hp]; simp [ht], ?_⟩
            simp only [handleAudio, if_neg hlen, hp, ne_eq, ht, not_false_eq_true, if_true]

/-- **What `handle_control` can do**: drop the datagram, or insert the recovered payload and
drain. -/
theorem handleControl_cases (rx : RtpRx) (pkt : Option Bytes) :
    (controlArrival pkt = none ∧ handleControl rx pkt = (rx, [])) ∨
      ∃ seq payload, controlArrival pkt = some (seq, payload) ∧
        (handleControl rx pkt).1.reorder = (insertAndDrain rx.reorder seq payload).1 ∧
        drainsOf (handleControl rx pkt).2 = (insertAndDrain rx.reorder seq payload).2 := by
  cases pkt with
  | none => exact .inl ⟨rfl, rfl⟩
  | some pkt =>
      have harr : controlArrival (some pkt) = (rtpResendUnwrap (pkt.take rtpRxCap)).bind fun i =>
          (rtpParse i).bind fun h =>
            if h.payloadType = rtpPtAudio then some (h.seq, h.payload) else none := rfl
      cases hu : rtpResendUnwrap (pkt.take rtpRxCap) with
      | none =>
          refine .inl ⟨by rw [harr, hu]; rfl, ?_⟩
          simp only [handleControl, hu, ite_self]
      | some inner =>
          -- what unwraps is long enough and carries the response type
          have hshape : ¬(pkt.take rtpRxCap).length < 2 ∧
              ¬((pkt.take rtpRxCap).getD 1 0 &&& 0x7f ≠ resendRespType) := by
            unfold rtpResendUnwrap at hu
            split at hu
            · cases hu
            · split at hu
              · cases hu
              · rename_i h1 h2
                refine ⟨fun hc => h1 (lt_trans hc (by decide)), h2⟩
          cases hp : rtpParse inner with
          | none =>
              refine .inl ⟨by rw [harr, hu, Option.bind_some, hp]; rfl, ?_⟩
              simp only [handleControl, if_neg hshape.1, if_neg hshape.2, hu, hp]
          | some h =>
              by_cases ht : h.payloadType = rtpPtAudio
              · refine .inr ⟨h.seq, h.payload, by rw [harr, hu, Option.bind_some, hp]; simp [ht], ?_⟩
                simp only [handleControl, if_neg hshape.1, if_neg hshape.2, hu, hp, ht, ne_eq,
                  not_true_eq_false, if_false, drainsOf_map_drain, and_self]
              · refine .inl ⟨by rw [harr, hu, Option.bind_some, hp]; simp [ht], ?_⟩
                simp only [handleControl, if_neg hshape.1, if_neg hshape.2, hu, hp, ne_eq, ht,
                  not_false_eq_true, if_true]

end ConduitStream
