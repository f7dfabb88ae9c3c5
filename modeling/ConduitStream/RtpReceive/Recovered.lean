import ConduitStream.Foundations.Trace
import ConduitStream.RtpReceive.ReceivePath

/-! # Recovered packets

A lost audio packet comes back on the control socket, wrapped in four bytes of type `0x56`. The
audio socket anchors an unstarted reorder buffer itself before it inserts, the control socket
leaves that to the insert; for a payload the buffer can store this is no difference.

* **`RxEvent.feed`** — what serving a socket does to the reorder buffer alone, and the calls of the
  drain; `exec_feed` reads it off both handlers.
* **`handleAudio_eq_handleControl`** — a packet and its wrapped copy leave the same buffer and make
  the same calls, from every state.
* **`runOps_eq_of_rerouted`** — the same for whole runs in which any of the audio packets come
  wrapped over the control socket instead. -/

namespace ConduitStream

/-! ## The reorder buffer alone -/

/-- What serving a socket does to the reorder buffer, and the calls its drain makes. -/
def RxEvent.feed (rb : RtpReorder) : RxEvent → RtpReorder × List DrainAction
  | .audio pkt _ _ =>
      match audioArrival pkt with
      | none => (rb, [])
      | some (seq, payload) => insertAndDrain (anchorIfNeeded rb seq) seq payload
  | .control pkt =>
      match controlArrival pkt with
      | none => (rb, [])
      | some (seq, payload) => insertAndDrain rb seq payload

/-- Neither handler looks at anything but the reorder buffer to decide what becomes of it. -/
theorem exec_feed (io : RtpIo) (rx : RtpRx) (ev : RxEvent) :
    ((rx.exec io ev).1.reorder, drainsOf (rx.exec io ev).2) = ev.feed rx.reorder := by
  cases ev with
  | audio pkt src now =>
      rcases handleAudio_cases io rx pkt src now with ⟨harr, heq⟩ | ⟨seq, payload, harr, hr, hd⟩
      · simp only [RtpRx.exec, RxEvent.feed, harr, heq]
        rfl
      · simp only [RtpRx.exec, RxEvent.feed, harr, hr, hd]
  | control pkt =>
      rcases handleControl_cases rx pkt with ⟨harr, heq⟩ | ⟨seq, payload, harr, hr, hd⟩
      · simp only [RtpRx.exec, RxEvent.feed, harr, heq]
        rfl
      · simp only [RtpRx.exec, RxEvent.feed, harr, hr, hd]

/-- A run of the receive path, seen from the reorder buffer. -/
theorem runOps_feed (io : RtpIo) (rx : RtpRx) (evs : List RxEvent) :
    ((runOps (RtpRx.exec io) rx evs).1.reorder,
        (runOps (RtpRx.exec io) rx evs).2.map drainsOf)
      = runOps RxEvent.feed rx.reorder evs := by
  induction evs generalizing rx with
  | nil => rfl
  | cons ev evs ih =>
      rw [runOps_cons, runOps_cons, ← exec_feed io rx ev, ← ih (rx.exec io ev).1]
      rfl

/-! ## One packet on either socket -/

/-- An RTP audio packet the reorder buffer can store: 12 bytes of header with payload type `0x60`
and any marker bit, then 1 to 1536 bytes. -/
structure IsAudioPacket (p : Bytes) : Prop where
  payload_pos : rtpHeaderLen < p.length
  payload_le : p.length ≤ rtpHeaderLen + rtpReorderMaxPkt
  type : p.getD 1 0 &&& 0x7f = rtpPtAudio

/-- The four bytes in front of a recovered packet. -/
structure IsResendWrapper (w : Bytes) : Prop where
  length : w.length = resendRespHdr
  type : w.getD 1 0 &&& 0x7f = resendRespType

variable {p w : Bytes}

/-- `rtp_parse` reads the sequence number and the payload of an audio packet. -/
theorem IsAudioPacket.parse_eq (hp : IsAudioPacket p) :
    ∃ h, rtpParse p = some h ∧ h.payloadType = rtpPtAudio ∧ h.seq = rdBe16 p 2 ∧
      h.payload = some (p.drop rtpHeaderLen) := by
  have hlen : ¬p.length < rtpHeaderLen := not_lt.mpr hp.payload_pos.le
  have hpay : p.length - rtpHeaderLen > 0 := Nat.sub_pos_of_lt hp.payload_pos
  exact ⟨_, if_neg hlen, hp.type, rfl, if_pos hpay⟩

/-- The whole of an audio packet fits the receive buffer, also behind a wrapper. -/
theorem IsAudioPacket.length_le (hp : IsAudioPacket p) :
    resendRespHdr + p.length ≤ rtpRxCap := by
  have := hp.payload_le
  simp only [rtpHeaderLen, rtpReorderMaxPkt, resendRespHdr, rtpRxCap] at *
  omega

/-- The audio socket takes the number and the payload of the packet. -/
theorem IsAudioPacket.arrival_eq (hp : IsAudioPacket p) :
    audioArrival (some p) = some (rdBe16 p 2, some (p.drop rtpHeaderLen)) := by
  obtain ⟨h, hparse, ht, hseq, hpay⟩ := hp.parse_eq
  have htake : p.take rtpRxCap = p := List.take_of_length_le (by have := hp.length_le; omega)
  simp [audioArrival, htake, hparse, ht, hseq, hpay]

/-- So does the control socket, behind the wrapper. -/
theorem IsAudioPacket.arrival_wrapped_eq (hp : IsAudioPacket p) (hw : IsResendWrapper w) :
    controlArrival (some (w ++ p)) = some (rdBe16 p 2, some (p.drop rtpHeaderLen)) := by
  obtain ⟨h, hparse, ht, hseq, hpay⟩ := hp.parse_eq
  have hlen : (w ++ p).length = resendRespHdr + p.length := by
    rw [List.length_append, hw.length]
  have htake : (w ++ p).take rtpRxCap = w ++ p :=
    List.take_of_length_le (hlen.le.trans hp.length_le)
  have hlong : ¬(w ++ p).length < resendRespHdr + rtpHeaderLen := by
    have := hp.payload_pos
    omega
  have htype : (w ++ p).getD 1 0 &&& 0x7f = resendRespType := by
    have hget : (w ++ p).getD 1 0 = w.getD 1 0 := by
      simp [List.getD, List.getElem?_append_left, hw.length, resendRespHdr]
    rw [hget, hw.type]
  have hdrop : (w ++ p).drop resendRespHdr = p := List.drop_left' hw.length
  have hunwrap : rtpResendUnwrap (w ++ p) = some p := by
    rw [rtpResendUnwrap, if_neg hlong, if_neg (not_not.mpr htype), hdrop]
  simp [controlArrival, htake, hunwrap, hparse, ht, hseq, hpay]

/-- Anchoring first makes no difference to the insert of a payload that can be stored. -/
theorem insertAndDrain_anchorIfNeeded (rb : RtpReorder) (seq : BitVec 16) {data : Bytes}
    (h : ¬(data.length = 0 ∨ rtpReorderMaxPkt < data.length)) :
    insertAndDrain (anchorIfNeeded rb seq) seq (some data)
      = insertAndDrain rb seq (some data) := by
  unfold anchorIfNeeded
  cases hs : rb.started with
  | true => rfl
  | false =>
      have hpos : data.length ≠ 0 := fun hz => h (.inl hz)
      have hins := rtpReorderInsert_of_not_started hs seq h
      simp only [Bool.false_eq_true, if_false, insertAndDrain, insertAudio, if_neg hpos, hins]

/-- A packet feeds the buffer as its wrapped copy does. -/
theorem IsAudioPacket.feed_eq (hp : IsAudioPacket p) (hw : IsResendWrapper w) (src : SockaddrIn)
    (now : BitVec 32) (rb : RtpReorder) :
    RxEvent.feed rb (.audio (some p) src now) = RxEvent.feed rb (.control (some (w ++ p))) := by
  simp only [RxEvent.feed, hp.arrival_eq, hp.arrival_wrapped_eq hw]
  refine insertAndDrain_anchorIfNeeded rb _ ?_
  have hpos := hp.payload_pos
  have hle := hp.payload_le
  rw [List.length_drop]
  omega

/-- **Recovered and direct packets take equivalent paths**: from every state of the receive path an
audio packet on the audio socket and its wrapped copy on the control socket leave the same reorder
buffer and hand the same payloads and concealments to the decoder. -/
theorem handleAudio_eq_handleControl (io : RtpIo) (rx : RtpRx) (src : SockaddrIn) (now : BitVec 32)
    (hp : IsAudioPacket p) (hw : IsResendWrapper w) :
    (handleAudio io rx (some p) src now).1.reorder = (handleControl rx (some (w ++ p))).1.reorder ∧
      drainsOf (handleAudio io rx (some p) src now).2
        = drainsOf (handleControl rx (some (w ++ p))).2 := by
  have hdirect := exec_feed io rx (.audio (some p) src now)
  have hwrapped := exec_feed io rx (.control (some (w ++ p)))
  rw [hp.feed_eq hw, ← hwrapped] at hdirect
  exact Prod.ext_iff.mp hdirect

/-- The very first packet of a session, of one payload byte and with the marker bit set. -/
theorem handleAudio_eq_handleControl_first :
    let rx := RtpRx.start ⟨⟨0, 0⟩, false, rtpReorderInit (fun _ => ⟨false, 0, 0, []⟩) 0 0, 0, false,
      0⟩ (fun _ => ⟨false, 0, 0, []⟩) 0x0100a8c0
    let p : Bytes := [0x80, 0xe0, 0x12, 0x34, 0, 0, 0, 0, 0, 0, 0, 0, 7]
    (handleAudio ⟨3, 4, 5, 6001, 6002⟩ rx (some p) ⟨0x0100a8c0, 6000⟩ 0).1.reorder
        = (handleControl rx (some ([0x80, 0xd6, 0, 1] ++ p))).1.reorder ∧
      drainsOf (handleAudio ⟨3, 4, 5, 6001, 6002⟩ rx (some p) ⟨0x0100a8c0, 6000⟩ 0).2
        = drainsOf (handleControl rx (some ([0x80, 0xd6, 0, 1] ++ p))).2 :=
  handleAudio_eq_handleControl _ _ _ _ ⟨by decide, by decide, by decide⟩ ⟨by decide, by decide⟩

/-! ## Runs -/

/-- `ev'` is `ev`, or the wrapped copy of the audio packet that `ev` delivers directly. -/
inductive Rerouted : RxEvent → RxEvent → Prop
  | same (ev : RxEvent) : Rerouted ev ev
  | wrapped {p w : Bytes} (hp : IsAudioPacket p) (hw : IsResendWrapper w) (src : SockaddrIn)
      (now : BitVec 32) : Rerouted (.audio (some p) src now) (.control (some (w ++ p)))

/-- **On either socket the packet is fed in the same way.** -/
theorem Rerouted.feed_eq {ev ev' : RxEvent} (h : Rerouted ev ev') (rb : RtpReorder) :
    ev.feed rb = ev'.feed rb := by
  cases h with
  | same => rfl
  | wrapped hp hw src now => exact hp.feed_eq hw src now rb

/-- **Run lemma**: a run in which any of the audio packets come wrapped over the control socket ends
with the same reorder buffer, and the drain of each event makes the same calls. -/
theorem runOps_eq_of_rerouted (io : RtpIo) (rx : RtpRx) {evs evs' : List RxEvent}
    (h : List.Forall₂ Rerouted evs evs') :
    (runOps (RtpRx.exec io) rx evs).1.reorder = (runOps (RtpRx.exec io) rx evs').1.reorder ∧
      (runOps (RtpRx.exec io) rx evs).2.map drainsOf
        = (runOps (RtpRx.exec io) rx evs').2.map drainsOf := by
  have hfeed : ∀ rb, runOps RxEvent.feed rb evs = runOps RxEvent.feed rb evs' := by
    induction h with
    | nil => exact fun _ => rfl
    | cons hev _ ih => exact fun rb => by rw [runOps_cons, runOps_cons, hev.feed_eq, ih]
  have hruns := (runOps_feed io rx evs).trans ((hfeed rx.reorder).trans (runOps_feed io rx evs').symm)
  exact Prod.ext_iff.mp hruns

end ConduitStream
