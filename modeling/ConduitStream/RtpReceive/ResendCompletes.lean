import ConduitStream.Reorder.Gap
import ConduitStream.RtpReceive.BoundedReordering
import ConduitStream.RtpReceive.LossBurst

/-! # A resend completes the gap

A gap report names the numbers missing in front of the first packet buffered; the sender is asked for
them in an 8-byte request (`rtpResendBuild`) and sends each in a `0xd6` response. The buffered
packets and the responses together are a bounded reordering of a stream that starts at the cursor: the
drained state keeps everything buffered within the hold of the cursor. So the invariant `Buffered` of
bounded reordering carries the argument; what it needs is that a settled buffer satisfies it
(`buffered_of_settled`), with the packets buffered as those that have arrived. -/

namespace ConduitStream

/-! ## Responses on the wire -/

/-- `pkt` is a `0xd6` response that wraps an audio packet with this number and payload: the remaining
bytes of wrapper and header, the marker bit among them, are free. -/
def IsResendResponse (pkt : Bytes) (seq : BitVec 16) (payload : Bytes) : Prop :=
  ∃ w₀ w₂ w₃ h₀ h₁ : UInt8, ∃ stamps : Bytes, h₁ &&& 0x7f = rtpPtAudio ∧ stamps.length = 8 ∧
    pkt = [w₀, 0xD6, w₂, w₃] ++
      ([h₀, h₁, ⟨(seq >>> 8).setWidth 8⟩, ⟨seq.setWidth 8⟩] ++ stamps ++ payload)

/-- The control socket accepts such a response with its number and payload. -/
theorem controlArrival_of_isResendResponse {pkt : Bytes} {seq : BitVec 16} {payload : Bytes}
    (h : IsResendResponse pkt seq payload) (h0 : 0 < payload.length)
    (h1 : payload.length ≤ rtpReorderMaxPkt) :
    controlArrival (some pkt) = some (seq, some payload) := by
  obtain ⟨w₀, w₂, w₃, h₀, h₁, stamps, htype, hstamps, rfl⟩ := h
  generalize hinner : [h₀, h₁, ⟨(seq >>> 8).setWidth 8⟩, ⟨seq.setWidth 8⟩] ++ stamps ++ payload
    = inner
  have hlen : inner.length = rtpHeaderLen + payload.length := by
    rw [← hinner]
    simp only [List.length_append, List.length_cons, List.length_nil, hstamps, rtpHeaderLen]
  -- the receive buffer holds the whole datagram
  have htake : ([w₀, 0xD6, w₂, w₃] ++ inner).take rtpRxCap = [w₀, 0xD6, w₂, w₃] ++ inner := by
    apply List.take_of_length_le
    unfold rtpReorderMaxPkt at h1
    unfold rtpHeaderLen at hlen
    unfold rtpRxCap
    simp only [List.length_append, List.length_cons, List.length_nil]
    omega
  have hunwrap : rtpResendUnwrap ([w₀, 0xD6, w₂, w₃] ++ inner) = some inner := by
    unfold rtpResendUnwrap
    rw [if_neg, if_neg]
    · rfl
    · simp only [List.cons_append, List.getD_cons_succ, List.getD_cons_zero]
      decide
    · unfold resendRespHdr
      simp only [List.length_append, List.length_cons, List.length_nil]
      omega
  -- what is wrapped is an audio packet, with the number in its header
  have hparse : ∃ hdr, rtpParse inner = some hdr ∧ hdr.payloadType = rtpPtAudio ∧ hdr.seq = seq ∧
      hdr.payload = some payload := by
    unfold rtpParse
    rw [if_neg (by omega)]
    refine ⟨_, rfl, ?_, ?_, ?_⟩
    · rw [← hinner]
      exact htype
    · rw [← hinner]
      exact append_setWidth_shift seq
    · dsimp only
      rw [if_pos (by omega), ← hinner, List.drop_left' (by simp [hstamps, rtpHeaderLen])]
  obtain ⟨hdr, hp, ht, rfl, hpay⟩ := hparse
  simp only [controlArrival, Option.bind_eq_bind, Option.bind_some, htake, hunwrap, hp, ht, hpay,
    if_true]

/-- The datagrams answer the request `req`: each is a response for one of the numbers requested, and
there is one for every number. -/
structure AnswersRequest (req : Bytes) (payload : ℕ → Bytes) (pkts : List Bytes) : Prop where
  requested : ∀ pkt ∈ pkts, ∃ i < (rdBe16 req 6).toNat,
    IsResendResponse pkt (rdBe16 req 4 + BitVec.ofNat 16 i) (payload i)
  complete : ∀ i < (rdBe16 req 6).toNat, ∃ pkt ∈ pkts,
    IsResendResponse pkt (rdBe16 req 4 + BitVec.ofNat 16 i) (payload i)

/-- The request reads back as the numbers it was built from. -/
theorem rtpResendBuild_fields (first count : BitVec 16) :
    rdBe16 (rtpResendBuild first count) 4 = first ∧ rdBe16 (rtpResendBuild first count) 6 = count :=
  ⟨append_setWidth_shift first, append_setWidth_shift count⟩

/-! ## The packets buffered behind the gap -/

/-- The run of buffered packets from the number `s` on, as it will be handed to the decoder; at most
`n` of them. -/
def bufferedRun (rb : RtpReorder) : ℕ → BitVec 16 → List DrainAction
  | 0, _ => []
  | n + 1, s =>
      let p := rb.slots (rb.slotIdx s)
      if p.valid ∧ p.seq = s then .decode s (p.data.take p.len.toNat) :: bufferedRun rb n (s + 1)
      else []

/-- The run over true numbers: what is held from `E` on, up to the first number that is not. -/
theorem Refines.bufferedRun_eq {rb : RtpReorder} {b : IdealReorder} {H : ℤ} (h : Refines rb b H)
    {E : ℤ} {r n : ℕ} {q : ℕ → Bytes} (h0 : b.cursor ≤ E) (h1 : E + r < b.cursor + b.window)
    (hheld : ∀ i < r, b.held (E + i) = some (q i)) (hend : b.held (E + r) = none) (hn : r < n) :
    bufferedRun rb n (serial 16 E)
      = (List.range r).map fun i => .decode (serial 16 E + BitVec.ofNat 16 i) (q i) := by
  induction r generalizing E n q with
  | zero =>
      obtain ⟨n, rfl⟩ := Nat.exists_eq_succ_of_ne_zero (Nat.ne_zero_of_lt hn)
      have hcell := h.held_iff h0 (by omega)
      have hmiss : b.held E = none := by simpa using hend
      rw [bufferedRun, h.slotIdx_serial]
      exact if_neg fun hc => hcell.mp hc hmiss
  | succ r ih =>
      obtain ⟨n, rfl⟩ := Nat.exists_eq_succ_of_ne_zero (Nat.ne_zero_of_lt hn)
      have hfirst : b.held E = some (q 0) := by simpa using hheld 0 r.succ_pos
      have hcell := h.held_iff (E := E) h0 (by omega)
      have hslot := h.slot E h0 (by omega)
      rw [hfirst] at hslot hcell
      have hnext : serial 16 E + 1 = serial 16 (E + 1) := serial_add_one E
      -- the run from the next number on, with the packets counted from there
      have hrest := @ih (E + 1) n (fun i => q (i + 1)) (by omega) (by push_cast at h1; omega)
        (fun i hi => by
          have := hheld (i + 1) (by omega)
          push_cast at this
          rwa [← add_assoc, add_right_comm] at this)
        (by push_cast at hend; rwa [← add_assoc, add_right_comm] at hend) (by omega)
      rw [bufferedRun, h.slotIdx_serial, if_pos (hcell.mpr (Option.some_ne_none _)), hslot.2.2.2,
        hnext, hrest, List.range_succ_eq_map, List.map_cons, List.map_map, BitVec.add_zero]
      congr 1
      refine List.map_congr_left fun i _ => ?_
      rw [Function.comp_apply, ← hnext, BitVec.add_assoc]
      congr 2
      rw [Nat.succ_eq_add_one, Nat.add_comm i 1, BitVec.ofNat_add]
      rfl

/-! ## A settled buffer is one under bounded reordering -/

/-- The offsets from the cursor at which packets are buffered. -/
def heldOffsets (b : IdealReorder) : List ℕ :=
  (List.range b.window).filter fun j => (b.held (b.cursor + j)).isSome

/-- The stream from the cursor on: the payloads resent for the first `d` numbers, and what is
buffered behind them. -/
def resentStream (b : IdealReorder) (d : ℕ) (payload : ℕ → Bytes) (j : ℕ) : Bytes :=
  if j < d then payload j else (b.held (b.cursor + j)).getD []

section Settled

variable {b : IdealReorder} {H : ℤ} {d : ℕ} {payload : ℕ → Bytes}

/-- An offset is listed exactly when its number is held. -/
theorem mem_heldOffsets (h : b.TopAt H) {j : ℕ} :
    j ∈ heldOffsets b ↔ ∃ q, b.held (b.cursor + j) = some q := by
  rw [heldOffsets, List.mem_filter, List.mem_range, Option.isSome_iff_exists]
  refine and_iff_right_of_imp ?_
  rintro ⟨q, hq⟩
  have hbound := (h.bounds _ (by rw [hq]; exact Option.some_ne_none q)).2
  have := h.le_window
  omega

/-- What is buffered behind the gap is part of the stream. -/
theorem held_eq_resentStream (hmiss : ∀ i < d, b.held (b.cursor + i) = none) {j : ℕ} {q : Bytes}
    (hq : b.held (b.cursor + j) = some q) : d ≤ j ∧ resentStream b d payload j = q := by
  have hj : d ≤ j := by
    by_contra hlt
    rw [hmiss j (by omega)] at hq
    cases hq
  exact ⟨hj, by rw [resentStream, if_neg (not_lt.mpr hj), hq, Option.getD_some]⟩

/-- In a settled buffer everything buffered is within the hold, as under bounded reordering. -/
theorem buffered_of_settled (hs : b.started = true) (h : b.TopAt H) (hnear : H ≤ b.cursor + b.hold)
    (hmiss : ∀ i < d, b.held (b.cursor + i) = none) :
    Buffered b.cursor (resentStream b d payload) b.hold b (heldOffsets b) 0 where
  started := hs
  hold_eq := rfl
  cursor := (Int.add_zero _).symm
  prior := fun i hi => absurd hi (Nat.not_lt_zero i)
  near := by
    intro j hj
    obtain ⟨q, hq⟩ := (mem_heldOffsets h).mp hj
    have := (h.bounds _ (by rw [hq]; exact Option.some_ne_none q)).2
    omega
  held := by
    intro E q
    constructor
    · intro hq
      have hbound := h.bounds E (by rw [hq]; exact Option.some_ne_none q)
      obtain ⟨j, rfl⟩ : ∃ j : ℕ, E = b.cursor + j := ⟨(E - b.cursor).toNat, by omega⟩
      exact ⟨j, (mem_heldOffsets h).mpr ⟨q, hq⟩, Nat.zero_le j, rfl,
        (held_eq_resentStream hmiss hq).2.symm⟩
    · rintro ⟨j, hj, -, rfl, rfl⟩
      obtain ⟨q, hq⟩ := (mem_heldOffsets h).mp hj
      rw [hq, (held_eq_resentStream hmiss hq).2]

end Settled

/-! ## The responses arrive -/

/-- **Run lemma**: while responses within the hold arrive on the control socket, the buffer stays one
under bounded reordering, and the decoder is handed the packets in order. -/
theorem Buffered.control_run {A : ℤ} {payload : ℕ → Bytes} {hold : ℕ} (io : RtpIo) {pkts : List Bytes}
    {offset : Bytes → ℕ} {rx : RtpRx} {b : IdealReorder} {H : ℤ} {p : List ℕ} {c : ℕ}
    (hR : Refines rx.reorder b H) (hwin : hold < b.window) (hB : Buffered A payload hold b p c)
    (hc : c ∉ p) (hp : ∀ j ∈ p, j < hold) (hoffset : ∀ pkt ∈ pkts, offset pkt < hold)
    (harr : ∀ pkt ∈ pkts, controlArrival (some pkt)
      = some (serial 16 A + BitVec.ofNat 16 (offset pkt), some (payload (offset pkt))))
    (hlen : ∀ pkt ∈ pkts, 1 ≤ (payload (offset pkt)).length ∧
      (payload (offset pkt)).length ≤ rtpReorderMaxPkt) :
    ∃ b' c', Buffered A payload hold b' (p ++ pkts.map offset) c' ∧ c' ∉ p ++ pkts.map offset ∧
      playedInOrder (serial 16 A) payload c ++
          drainsOf (runOps (RtpRx.exec io) rx (pkts.map fun pkt => .control (some pkt))).2.flatten
        = playedInOrder (serial 16 A) payload c' := by
  induction pkts generalizing rx b H p c with
  | nil =>
      rw [List.map_nil, List.append_nil]
      exact ⟨b, c, hB, hc, List.append_nil _⟩
  | cons pkt pkts ih =>
      obtain ⟨hoff, hoffset⟩ := List.forall_mem_cons.mp hoffset
      obtain ⟨hpkt, harr⟩ := List.forall_mem_cons.mp harr
      obtain ⟨hlen₁, hlen⟩ := List.forall_mem_cons.mp hlen
      have hW := hR.window_le
      obtain ⟨b₁, H₁, c₁, hR₁, hwin₁, hB₁, hc₁, happ₁⟩ := hB.arrive hR hwin hc (j := offset pkt)
        (by omega) (fun i hi => by omega)
        ⟨hold, by omega, fun hmem => lt_irrefl hold (hp hold hmem)⟩
      -- what the handler does with an accepted response
      rcases handleControl_cases rx (some pkt) with ⟨hnone, -⟩ | ⟨seq, pl, hsome, hreorder, hdrains⟩
      · rw [hpkt] at hnone
        cases hnone
      · rw [hpkt, Option.some.injEq, Prod.mk.injEq] at hsome
        obtain ⟨rfl, rfl⟩ := hsome
        rw [ConduitStream.arrive, ← hreorder] at hR₁
        rw [ConduitStream.arrive, ← hdrains] at happ₁
        obtain ⟨b', c', hB', hc', happ'⟩ := ih hR₁ hwin₁ hB₁
          hc₁ (fun j hj => (List.mem_append.mp hj).elim (hp j) fun hj => by
            rw [List.mem_singleton.mp hj]; exact hoff) hoffset harr hlen
        rw [List.append_assoc, List.singleton_append] at hB' hc'
        refine ⟨b', c', hB', hc', ?_⟩
        rw [List.map_cons, runOps_cons, List.flatten_cons, drainsOf_append, ← List.append_assoc]
        show (_ ++ drainsOf (handleControl rx (some pkt)).2) ++ _ = _
        rw [happ₁]
        exact happ'

/-- What bounded reordering has played once the gap of `d` numbers is filled, with the cursor at the
first number missing behind it: the resent payloads, and the run of packets buffered. -/
theorem Refines.playedInOrder_resent {rb : RtpReorder} {b : IdealReorder} {H : ℤ} (h : Refines rb b H)
    (hhold : b.hold < b.window) (hnear : H ≤ b.cursor + b.hold) {d c : ℕ} {payload : ℕ → Bytes}
    (hmiss : ∀ i < d, b.held (b.cursor + i) = none) (hdc : d < c)
    (hrun : ∀ j, d ≤ j → j < c → j ∈ heldOffsets b) (hend : c ∉ heldOffsets b) :
    playedInOrder (serial 16 b.cursor) (resentStream b d payload) c
      = playedInOrder (serial 16 b.cursor) payload d ++
        bufferedRun rb b.window (serial 16 b.cursor + BitVec.ofNat 16 d) := by
  obtain ⟨r, rfl⟩ := Nat.exists_eq_add_of_le hdc.le
  have hheld : ∀ i < r, b.held (b.cursor + d + i) = some (resentStream b d payload (d + i)) := by
    intro i hi
    obtain ⟨q, hq⟩ := (mem_heldOffsets h.top).mp (hrun (d + i) (by omega) (by omega))
    rw [(held_eq_resentStream hmiss hq).2, ← hq]
    push_cast
    rw [add_assoc]
  have hnone : b.held (b.cursor + d + r) = none := by
    by_contra hne
    obtain ⟨q, hq⟩ := Option.ne_none_iff_exists'.mp hne
    refine hend ((mem_heldOffsets h.top).mpr ⟨q, ?_⟩)
    push_cast
    rwa [← add_assoc]
  -- the last packet of the run is within the hold
  have hr : d + r ≤ b.hold := by
    have := (h.top.bounds _ (by rw [hheld (r - 1) (by omega)]; exact Option.some_ne_none _)).2
    omega
  rw [serial_add_ofNat, h.bufferedRun_eq (by omega) (by omega) hheld hnone (by omega)]
  unfold playedInOrder
  rw [List.range_add, List.map_append, List.map_map]
  congr 1
  · refine List.map_congr_left fun i hi => ?_
    rw [resentStream, if_pos (List.mem_range.mp hi)]
  · refine List.map_congr_left fun i _ => ?_
    rw [Function.comp_apply, BitVec.ofNat_add, ← BitVec.add_assoc, serial_add_ofNat]

/-- **A resend completes the gap.** For every window `2 ^ e` up to 32768, every hold value and every
state of the receive path after any run of datagrams, in which a gap `(first, count)` is reported: if
the sender answers the 8-byte request built from the report with responses for exactly the numbers
requested, in any order and with any repetitions, each with its payload of 1 to 1536 bytes, and
nothing else arrives, then handling these datagrams hands to the decoder exactly the `count` resent
payloads in sequence order, followed by the run of packets already buffered from `first + count` on,
and conceals nothing. -/
theorem resend_completes_gap (io : RtpIo) (rx₀ : RtpRx) (slots : ℕ → RtpReorderSlot) (e : ℕ)
    (he : e ≤ 15) (hold : BitVec 16)
    (hrx₀ : rx₀.reorder = rtpReorderInit slots (BitVec.ofNat 16 (2 ^ e)) hold)
    (evs : List RxEvent) (rx : RtpRx) (hrx : rx = (runOps (RtpRx.exec io) rx₀ evs).1)
    (first count : BitVec 16) (hgap : rtpReorderGap rx.reorder = some (first, count))
    (payload : ℕ → Bytes)
    (hlen : ∀ i < count.toNat, 1 ≤ (payload i).length ∧ (payload i).length ≤ rtpReorderMaxPkt)
    (pkts : List Bytes) (hpkts : AnswersRequest (rtpResendBuild first count) payload pkts) :
    drainsOf (runOps (RtpRx.exec io) rx (pkts.map fun pkt => .control (some pkt))).2.flatten
      = (List.range count.toNat).map (fun i => .decode (first + BitVec.ofNat 16 i) (payload i)) ++
        bufferedRun rx.reorder (2 ^ e) (first + count) := by
  obtain ⟨b, H, h, hsettled, hwin, hhold⟩ := rtpRx_run_settled io he hold hrx₀ evs
  rw [← hrx] at h
  have hlt : b.hold < b.window := by
    rw [hwin, hhold]
    exact IdealReorder.effectiveHold_lt (Nat.two_pow_pos e) _
  -- a gap is reported only over a missing front
  have hgap' : ¬b.IsEmpty ∧ b.held b.cursor = none := by
    by_contra hno
    rw [h.gap_eq_none (by tauto)] at hgap
    cases hgap
  obtain ⟨d, hpos, hd, hreport, hmiss, hheld⟩ := h.gap_eq_some hgap'.1 hgap'.2
  have hW := h.window_le
  rw [hreport, Option.some.injEq, Prod.mk.injEq] at hgap
  obtain ⟨rfl, rfl⟩ := hgap
  have hdn : (BitVec.ofNat 16 d).toNat = d := by rw [BitVec.toNat_ofNat, Nat.mod_eq_of_lt (by omega)]
  rw [hdn] at hlen ⊢
  have hs := h.started_of_not_isEmpty hgap'.1
  have hnear : H ≤ b.cursor + b.hold := by
    refine ((h.top.settled_iff.mp hsettled).resolve_left fun hH => ?_).2
    exact hgap'.1 (h.top.isEmpty_iff.mpr hH)
  have hdmem : d ∈ heldOffsets b :=
    (mem_heldOffsets h.top).mpr (Option.ne_none_iff_exists'.mp hheld)
  have hB : Buffered b.cursor (resentStream b d payload) b.hold b (heldOffsets b) 0 :=
    buffered_of_settled hs h.top hnear hmiss
  have hdhold : d < b.hold := by simpa using hB.near d hdmem
  -- the offset each response is for
  obtain ⟨hfirst, hcount⟩ := rtpResendBuild_fields (serial 16 b.cursor) (BitVec.ofNat 16 d)
  have hreq := hpkts.requested
  have hall := hpkts.complete
  rw [hfirst, hcount, hdn] at hreq hall
  choose! offset hoffset hresp using hreq
  have harr : ∀ pkt ∈ pkts, controlArrival (some pkt) = some (serial 16 b.cursor +
      BitVec.ofNat 16 (offset pkt), some (payload (offset pkt))) := fun pkt hpkt =>
    controlArrival_of_isResendResponse (hresp pkt hpkt) (hlen _ (hoffset pkt hpkt)).1
      (hlen _ (hoffset pkt hpkt)).2
  have hstream : ∀ j < d, resentStream b d payload j = payload j := fun j hj => if_pos hj
  obtain ⟨b', c, hB', hc, happ⟩ := hB.control_run io h hlt
    (fun hmem => by
      obtain ⟨q, hq⟩ := (mem_heldOffsets h.top).mp hmem
      rw [show b.cursor + (0 : ℕ) = b.cursor by omega, hgap'.2] at hq
      cases hq)
    (fun j hj => by simpa using hB.near j hj)
    (fun pkt hpkt => lt_trans (hoffset pkt hpkt) hdhold)
    (fun pkt hpkt => by rw [hstream _ (hoffset pkt hpkt)]; exact harr pkt hpkt)
    (fun pkt hpkt => by rw [hstream _ (hoffset pkt hpkt)]; exact hlen _ (hoffset pkt hpkt))
  -- every number requested has been answered
  have hanswered : ∀ i < d, i ∈ pkts.map offset := by
    intro i hi
    obtain ⟨pkt, hpkt, hi'⟩ := hall i hi
    have hsame := (controlArrival_of_isResendResponse hi' (hlen i hi).1 (hlen i hi).2).symm.trans
      (harr pkt hpkt)
    rw [Option.some.injEq, Prod.mk.injEq, BitVec.add_right_inj] at hsame
    have hnat := congrArg BitVec.toNat hsame.1
    have hoff := hoffset pkt hpkt
    rw [BitVec.toNat_ofNat, BitVec.toNat_ofNat, Nat.mod_eq_of_lt (by omega),
      Nat.mod_eq_of_lt (by omega)] at hnat
    exact List.mem_map.mpr ⟨pkt, hpkt, hnat.symm⟩
  have harrived : ∀ j ≤ d, j ∈ heldOffsets b ++ pkts.map offset := by
    intro j hj
    rcases Nat.lt_or_eq_of_le hj with hlt | rfl
    · exact List.mem_append_right _ (hanswered j hlt)
    · exact List.mem_append_left _ hdmem
  have hdc : d < c := by
    by_contra hle
    exact hc (harrived c (by omega))
  rw [show playedInOrder (serial 16 b.cursor) (resentStream b d payload) 0 = [] from rfl,
    List.nil_append, h.playedInOrder_resent hlt hnear hmiss hdc
      (fun j hdj hjc => (List.mem_append.mp (hB'.prior j hjc)).resolve_right fun hj => by
        obtain ⟨pkt, hpkt, rfl⟩ := List.mem_map.mp hj
        exact absurd (hoffset pkt hpkt) (not_lt.mpr hdj))
      (fun hmem => hc (List.mem_append_left _ hmem)), hwin] at happ
  exact happ

/-! ### A gap of two packets -/

/-- A response with the header bytes a sender puts there. -/
def resendResponse (seq : BitVec 16) (payload : Bytes) : Bytes :=
  [0x80, 0xD6, 0, 1] ++ rtpAudioPacket seq payload

/-- The sample is such a response. -/
theorem isResendResponse_resendResponse (seq : BitVec 16) (payload : Bytes) :
    IsResendResponse (resendResponse seq payload) seq payload :=
  ⟨0x80, 0, 1, 0x80, rtpPtAudio, List.replicate 8 0, by decide, rfl, rfl⟩

/-- Packet `3` arrives after packet `0` has been played. -/
def rxWithGap : RtpRx :=
  (RtpRx.exec ⟨3, 4, 5, 6001, 6002⟩ rxAfterFirst
    (.audio (some (rtpAudioPacket 3 [4])) ⟨0x0100a8c0, 6000⟩ 0)).1

/-- Packets `1` and `2` are reported missing. -/
theorem rxWithGap_gap : rtpReorderGap rxWithGap.reorder = some (1, 2) := by
  have hfirst : rxAfterFirst.reorder = (rtpReorderPop (rtpReorderInsert
      (rtpReorderAnchor (RtpRx.start ⟨⟨0, 0⟩, false, rtpReorderInit (fun _ => ⟨false, 0, 0, []⟩) 0 0, 0,
        false, 0⟩ (fun _ => ⟨false, 0, 0, []⟩) 0x0100a8c0).reorder 0) 0 [1]).1 rtpReorderMaxPkt).1 := by
    show (handleAudio _ _ _ _ _).1.reorder = _
    rw [handleAudio_rtpAudioPacket _ _ _ _ 0 (by decide) (by decide), insertAndDrain,
      drainDecode_ok rfl, drainDecode_stop (.inr rfl)]
    rfl
  show rtpReorderGap (handleAudio _ _ _ _ _).1.reorder = _
  rw [handleAudio_rtpAudioPacket _ _ _ _ 3 (by decide) (by decide), hfirst, insertAndDrain,
    drainDecode_stop (.inl rfl)]
  decide

/-- The two packets are resent in the wrong order, one of them twice. -/
theorem resend_completes_gap_two :
    drainsOf (runOps (RtpRx.exec ⟨3, 4, 5, 6001, 6002⟩) rxWithGap
        (([resendResponse 2 [12], resendResponse 1 [11], resendResponse 2 [12]] : List Bytes).map
          fun pkt => .control (some pkt))).2.flatten
      = (List.range 2).map (fun i => .decode (1 + BitVec.ofNat 16 i) [11 + UInt8.ofNat i]) ++
        bufferedRun rxWithGap.reorder (2 ^ 8) (1 + 2) := by
  refine resend_completes_gap ⟨3, 4, 5, 6001, 6002⟩ _ (fun _ => ⟨false, 0, 0, []⟩) 8 (by norm_num)
    reorderHold rfl
    [.audio (some (rtpAudioPacket 0 [1])) ⟨0x0100a8c0, 6000⟩ 0,
      .audio (some (rtpAudioPacket 3 [4])) ⟨0x0100a8c0, 6000⟩ 0]
    rxWithGap rfl 1 2 rxWithGap_gap (fun i => [11 + UInt8.ofNat i])
    (fun i _ => ⟨le_rfl, by simp [rtpReorderMaxPkt]⟩) _ ?_
  have h1 := isResendResponse_resendResponse 1 [11]
  have h2 := isResendResponse_resendResponse 2 [12]
  exact
    { requested := by
        intro pkt hpkt
        simp only [List.mem_cons, List.not_mem_nil, or_false] at hpkt
        rcases hpkt with rfl | rfl | rfl
        · exact ⟨1, by decide, h2⟩
        · exact ⟨0, by decide, h1⟩
        · exact ⟨1, by decide, h2⟩
      complete := by
        intro i hi
        obtain rfl | rfl : i = 0 ∨ i = 1 := by
          have : (rdBe16 (rtpResendBuild 1 2) 6).toNat = 2 := by decide
          omega
        · exact ⟨_, List.mem_cons_of_mem _ (List.mem_cons_self ..), h1⟩
        · exact ⟨_, List.mem_cons_self .., h2⟩ }

end ConduitStream
