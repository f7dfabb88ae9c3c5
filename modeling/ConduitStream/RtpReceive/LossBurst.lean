import ConduitStream.RtpReceive.Drain

/-! # Loss bursts

After `k` packets have been lost from the play cursor on, the sender continues with packet
`cursor + k` and loses nothing more. If the burst is shorter than the window the packet
`cursor + k` is accepted and, as every further packet pushes the write head by one, it is played
before a whole window of packets has arrived (`burst_within_window_plays`). If the burst is at
least a window long, every packet is refused: first as too new, then, once its 16-bit number has
passed half the circle, as too old. Nothing is played until the numbers come round to the cursor
(`BurstStart.run_beyond_window`). -/

namespace ConduitStream

/-! ## Audio packets on the wire -/

/-- A minimal audio datagram: version byte, payload type, sequence number, zero timestamp and
SSRC, payload. -/
def rtpAudioPacket (seq : BitVec 16) (payload : Bytes) : Bytes :=
  [0x80, rtpPtAudio, ⟨(seq >>> 8).setWidth 8⟩, ⟨seq.setWidth 8⟩, 0, 0, 0, 0, 0, 0, 0, 0] ++ payload

/-- The two bytes of a big-endian 16-bit value read back as that value. -/
theorem append_setWidth_shift (x : BitVec 16) :
    (x >>> 8).setWidth 8 ++ x.setWidth 8 = x := by
  ext i hi
  simp only [BitVec.getElem_append, BitVec.getElem_setWidth, BitVec.getLsbD_ushiftRight]
  split
  · rw [BitVec.getLsbD_eq_getElem (by omega)]
  · rw [show 8 + (i - 8) = i by omega, BitVec.getLsbD_eq_getElem (by omega)]

/-- The audio socket accepts a minimal audio datagram with its number and payload. -/
theorem audioArrival_rtpAudioPacket (seq : BitVec 16) (payload : Bytes)
    (h0 : 0 < payload.length) (h1 : payload.length ≤ rtpReorderMaxPkt) :
    audioArrival (some (rtpAudioPacket seq payload)) = some (seq, some payload) := by
  have htake : (rtpAudioPacket seq payload).take rtpRxCap = rtpAudioPacket seq payload := by
    apply List.take_of_length_le
    unfold rtpReorderMaxPkt at h1
    unfold rtpRxCap
    simp only [rtpAudioPacket, List.length_append, List.length_cons, List.length_nil]
    omega
  have hlen : ¬(rtpAudioPacket seq payload).length < rtpHeaderLen := by
    simp [rtpAudioPacket, rtpHeaderLen]
  have hpay : (rtpAudioPacket seq payload).length - rtpHeaderLen > 0 := by
    simpa [rtpAudioPacket, rtpHeaderLen] using h0
  have hseq : rdBe16 (rtpAudioPacket seq payload) 2 = seq := append_setWidth_shift seq
  have htype : (rtpAudioPacket seq payload).getD 1 0 &&& 0x7f = rtpPtAudio := by
    simp only [rtpAudioPacket, List.cons_append, List.getD_cons_succ, List.getD_cons_zero]
    decide
  have hdrop : (rtpAudioPacket seq payload).drop rtpHeaderLen = payload := by
    simp [rtpAudioPacket, rtpHeaderLen]
  simp only [audioArrival, Option.bind_eq_bind, Option.bind_some, htake, rtpParse, if_neg hlen,
    if_pos hpay, hseq, htype, hdrop, if_true]

/-- What `handle_audio` makes of a minimal audio datagram. -/
theorem handleAudio_rtpAudioPacket (io : RtpIo) (rx : RtpRx) (src : SockaddrIn) (now : BitVec 32)
    (seq : BitVec 16) {payload : Bytes} (h0 : 0 < payload.length)
    (h1 : payload.length ≤ rtpReorderMaxPkt) :
    (handleAudio io rx (some (rtpAudioPacket seq payload)) src now).1.reorder
      = (insertAndDrain (anchorIfNeeded rx.reorder seq) seq (some payload)).1 := by
  have harr := audioArrival_rtpAudioPacket seq payload h0 h1
  rcases handleAudio_cases io rx (some (rtpAudioPacket seq payload)) src now with
    ⟨hn, -⟩ | ⟨seq', payload', ha, hr, -⟩
  · rw [harr] at hn
    cases hn
  · rw [harr] at ha
    cases ha
    exact hr

/-- The datagrams `pkts 0, pkts 1, …` are audio packets with the consecutive sequence numbers from
`first` on and storable payloads. -/
def DeliversFrom (pkts : ℕ → Bytes) (first : BitVec 16) : Prop :=
  ∀ i, ∃ payload : Bytes, 0 < payload.length ∧ payload.length ≤ rtpReorderMaxPkt ∧
    audioArrival (some (pkts i)) = some (first + BitVec.ofNat 16 i, some payload)

/-- The first `n` datagrams arrive on the audio socket, one after the other. -/
def deliveries (pkts : ℕ → Bytes) (src : ℕ → SockaddrIn) (now : ℕ → BitVec 32) (n : ℕ) :
    List RxEvent :=
  (List.range n).map fun i => .audio (some (pkts i)) (src i) (now i)

/-- One delivery more is one datagram more behind the others. -/
theorem deliveries_succ (pkts : ℕ → Bytes) (src : ℕ → SockaddrIn) (now : ℕ → BitVec 32) (n : ℕ) :
    deliveries pkts src now (n + 1)
      = deliveries pkts src now n ++ [.audio (some (pkts n)) (src n) (now n)] := by
  simp [deliveries, List.range_succ]

/-! ## One delivery on the ideal buffer -/

section Ideal

variable {b b' : IdealReorder} {acts : List DrainAction} {E : ℤ}

/-- A held packet is either played by a drain, or still held and not passed. -/
theorem IdealReorder.Drains.decode_or_held (h : b.Drains acts b') (hE : b.held E ≠ none)
    (hc : b.cursor ≤ E) :
    (∃ p, .decode (serial 16 E) p ∈ acts) ∨ (b'.held E ≠ none ∧ b'.cursor ≤ E) := by
  induction h with
  | stop _ => exact .inr ⟨hE, hc⟩
  | @decode b b' acts p s hp _ ih =>
      rcases b.pop_cases with ⟨-, hq⟩ | ⟨q, hq', hq⟩ | ⟨-, -, -, hq⟩ | ⟨-, -, -, hq⟩
      · simp [hq] at hp
      · by_cases hEc : E = b.cursor
        · -- the packet itself is played
          left
          refine ⟨p, List.mem_cons.mpr (.inl ?_)⟩
          rw [hq] at hp
          injection hp with hp1 hp2
          rw [← hp2, hEc]
        · have hih := ih (by rw [hq]; simpa [Function.update_of_ne hEc] using hE)
            (by rw [hq]; dsimp only; omega)
          rcases hih with ⟨p', hp'⟩ | hkeep
          · exact .inl ⟨p', List.mem_cons_of_mem _ hp'⟩
          · exact .inr hkeep
      · simp [hq] at hp
      · simp [hq] at hp
  | @conceal b b' acts hp _ ih =>
      rcases b.pop_cases with ⟨-, hq⟩ | ⟨q, -, hq⟩ | ⟨-, hn, -, hq⟩ | ⟨-, -, -, hq⟩
      · simp [hq] at hp
      · simp [hq] at hp
      · -- a concealed number was not held
        have hEc : E ≠ b.cursor := fun hEc => hE (hEc ▸ hn)
        have hih := ih (by rw [hq]; exact hE) (by rw [hq]; dsimp only; omega)
        rcases hih with ⟨p', hp'⟩ | hkeep
        · exact .inl ⟨p', List.mem_cons_of_mem _ hp'⟩
        · exact .inr hkeep
      · simp [hq] at hp

/-- Offering a number of the window: afterwards it is held, whatever was held stays held, and the
cursor is where it was. -/
theorem IdealReorder.offer_in_window (hs : b.started = true) (h0 : b.cursor ≤ E)
    (h1 : E < b.cursor + b.window) {p : Bytes}
    (hlen : ¬(p.length = 0 ∨ rtpReorderMaxPkt < p.length)) :
    (b.offer E (some p)).held E ≠ none ∧
      (∀ E', b.held E' ≠ none → (b.offer E (some p)).held E' ≠ none) ∧
      (b.offer E (some p)).cursor = b.cursor ∧ (b.offer E (some p)).started = true := by
  by_cases hE : b.held E = none
  · rw [offer, insert_stored hs hlen h0 h1 hE]
    refine ⟨by simp, fun E' hE' => ?_, rfl, hs⟩
    by_cases hEE : E' = E
    · subst hEE; simp
    · simpa [Function.update_of_ne hEE] using hE'
  · rw [offer, insert_dup hs hlen h0 h1 hE]
    exact ⟨hE, fun _ h => h, rfl, hs⟩

end Ideal

/-! ## Runs of deliveries -/

/-- The state of the receive path in front of a burst: a settled, started buffer whose hold is
smaller than its window. -/
structure BurstStart (rx : RtpRx) (b : IdealReorder) (H : ℤ) : Prop where
  refines : Refines rx.reorder b H
  settled : b.Settled
  started : b.started = true
  hold_lt : b.hold < b.window

section Burst

variable (io : RtpIo) {rx : RtpRx} {b : IdealReorder} {H : ℤ}

/-- Serving one audio packet with the true number `E` of a started buffer. -/
theorem BurstStart.exec_audio (h : BurstStart rx b H) {E : ℤ}
    (h0 : b.cursor - 32768 ≤ E) (h1 : E ≤ b.cursor + 32767) {pkt : Bytes} {payload : Option Bytes}
    (hpkt : audioArrival (some pkt) = some (serial 16 E, payload)) (src : SockaddrIn)
    (now : BitVec 32) :
    ∃ b' H', (b.offer E payload).TopAt H' ∧
      Refines (rx.exec io (.audio (some pkt) src now)).1.reorder b' H' ∧
      (b.offer E payload).Drains (drainsOf (rx.exec io (.audio (some pkt) src now)).2) b' := by
  rcases handleAudio_cases io rx (some pkt) src now with ⟨hn, -⟩ | ⟨seq, pl, ha, hr, hd⟩
  · rw [hpkt] at hn; cases hn
  · rw [hpkt] at ha
    cases ha
    have hrs : rx.reorder.started = true := by rw [h.refines.started, h.started]
    rw [anchorIfNeeded, if_pos hrs] at hr hd
    obtain ⟨b', H', ht, hR, hD⟩ := h.refines.insertAndDrain (fun _ => ⟨h0, h1⟩) payload
    exact ⟨b', H', ht, by rw [RtpRx.exec, hr]; exact hR, by rw [RtpRx.exec, hd]; exact hD⟩

variable {pkts : ℕ → Bytes} (src : ℕ → SockaddrIn) (now : ℕ → BitVec 32) {k : ℕ}

/-- **Run lemma, short burst.** After `n` deliveries the packet `cursor + k` has been played, or it
is held, the write head is beyond the last delivered packet, and the next delivery falls into the
window. -/
theorem BurstStart.run_within_window (h : BurstStart rx b H) (hk : k < b.window)
    (hd : DeliversFrom pkts (serial 16 (b.cursor + k))) (n : ℕ) :
    (∃ p, .decode (serial 16 (b.cursor + k)) p ∈
      drainsOf (runOps (RtpRx.exec io) rx (deliveries pkts src now n)).2.flatten) ∨
    ∃ b' H', BurstStart (runOps (RtpRx.exec io) rx (deliveries pkts src now n)).1 b' H' ∧
      b'.window = b.window ∧ b'.cursor ≤ b.cursor + k ∧
      b.cursor + k + n < b'.cursor + b.window ∧
      (0 < n → b'.held (b.cursor + k) ≠ none ∧ b.cursor + k + n ≤ H') := by
  induction n with
  | zero =>
      exact .inr ⟨b, H, h, rfl, by omega, by omega, fun h0 => absurd h0 (lt_irrefl 0)⟩
  | succ n ih =>
      rw [deliveries_succ, runOps_concat, List.flatten_append, drainsOf_append]
      rcases ih with ⟨p, hp⟩ | ⟨b₁, H₁, h₁, hw₁, hc₁, hwin₁, hheld₁⟩
      · exact .inl ⟨p, List.mem_append_left _ hp⟩
      obtain ⟨payload, hp0, hp1, harr⟩ := hd n
      rw [serial_add_ofNat] at harr
      have hW := h₁.refines.window_le
      obtain ⟨b₂, H₂, ht₂, hR₂, hD₂⟩ := h₁.exec_audio io (E := b.cursor + k + n) (by omega)
        (by omega) harr (src n) (now n)
      obtain ⟨hE, hkeep, hcur, hst⟩ := IdealReorder.offer_in_window (p := payload) h₁.started
        (E := b.cursor + k + n) (by omega) (by omega) (by omega)
      -- the packet `cursor + k` is held once it has been delivered
      have htarget : (b₁.offer (b.cursor + k + n) (some payload)).held (b.cursor + k) ≠ none := by
        rcases Nat.eq_zero_or_pos n with rfl | hn
        · simpa using hE
        · exact hkeep _ (hheld₁ hn).1
      obtain ⟨ht', hw₂, hh₂, hs₂⟩ := IdealReorder.TopAt.drains hD₂ ht₂
      obtain ⟨hwo, hho⟩ := b₁.offer_params (b.cursor + k + n) (some payload)
      rcases hD₂.decode_or_held htarget (by omega) with ⟨p, hp⟩ | ⟨hheld₂, hc₂⟩
      · refine .inl ⟨p, List.mem_append_right _ ?_⟩
        simpa using hp
      · -- not played yet: the settled buffer keeps the cursor within the hold of the write head
        have hH₂ := (ht₂.bounds _ hE).2
        have hset := (ht'.settled_iff).mp hD₂.settled
        have hlt := (ht'.bounds _ hheld₂).2
        have hhold := h₁.hold_lt
        refine .inr ⟨b₂, H₂, ⟨hR₂, hD₂.settled, hs₂.trans hst, by omega⟩, by omega, hc₂, by omega,
          fun _ => ⟨hheld₂, by push_cast; omega⟩⟩

/-- **Run lemma, long burst.** Until the 16-bit number of the delivered packets comes round to the
cursor, every delivery is refused and nothing is drained. -/
theorem BurstStart.run_beyond_window (h : BurstStart rx b H) (hk : b.window ≤ k)
    (hd : DeliversFrom pkts (serial 16 (b.cursor + k))) (n : ℕ) (hn : k + n ≤ 65536) :
    BurstStart (runOps (RtpRx.exec io) rx (deliveries pkts src now n)).1 b H ∧
      drainsOf (runOps (RtpRx.exec io) rx (deliveries pkts src now n)).2.flatten = [] := by
  induction n with
  | zero => exact ⟨h, rfl⟩
  | succ n ih =>
      obtain ⟨h₁, hnil⟩ := ih (by omega)
      obtain ⟨payload, hp0, hp1, harr⟩ := hd n
      rw [serial_add_ofNat] at harr
      have hlen : ¬(payload.length = 0 ∨ rtpReorderMaxPkt < payload.length) := by omega
      -- the true number the code takes the packet for, refused without a change
      obtain ⟨E, hE0, hE1, hEs, hoff⟩ : ∃ E, b.cursor - 32768 ≤ E ∧ E ≤ b.cursor + 32767 ∧
          serial 16 (b.cursor + k + n) = serial 16 E ∧ b.offer E (some payload) = b := by
        by_cases hhalf : k + n ≤ 32767
        · refine ⟨b.cursor + k + n, by omega, by omega, rfl, ?_⟩
          rw [IdealReorder.offer, IdealReorder.insert_tooNew h.started hlen (by omega)]
        · refine ⟨b.cursor + k + n - 65536, by omega, by omega, ?_, ?_⟩
          · rw [serial_sub]
            simp [serial]
          · rw [IdealReorder.offer, IdealReorder.insert_tooOld h.started hlen (by omega)]
      rw [hEs] at harr
      obtain ⟨b', H', ht, hR, hD⟩ := h₁.exec_audio io hE0 hE1 harr (src n) (now n)
      rw [hoff] at hD ht
      obtain ⟨hacts, rfl⟩ := h₁.settled.drains_eq hD
      have hH : H' = H := ht.unique h₁.refines.top
      subst hH
      rw [deliveries_succ, runOps_concat, List.flatten_append, drainsOf_append, hnil]
      exact ⟨⟨hR, h.settled, h.started, h.hold_lt⟩, by simpa using hacts⟩

/-- A burst shorter than the window: the first packet after it is played before a window of packets
has arrived. -/
theorem BurstStart.burst_within_window_plays (h : BurstStart rx b H) (hk : k < b.window)
    (hd : DeliversFrom pkts (serial 16 (b.cursor + k))) :
    ∃ p, .decode (serial 16 (b.cursor + k)) p ∈
      drainsOf (runOps (RtpRx.exec io) rx (deliveries pkts src now b.window)).2.flatten := by
  rcases h.run_within_window io src now hk hd b.window with hp | ⟨b', H', -, -, hc, hwin, -⟩
  · exact hp
  · omega

end Burst

/-! ## From every reachable state -/

/-- Every started reachable state of the receive path is a state in front of a burst. -/
theorem burstStart_of_run (io : RtpIo) {rx : RtpRx} {slots : ℕ → RtpReorderSlot} {e : ℕ}
    (he : e ≤ 15) (hold : BitVec 16)
    (hrx : rx.reorder = rtpReorderInit slots (BitVec.ofNat 16 (2 ^ e)) hold) {evs : List RxEvent}
    (hs : (runOps (RtpRx.exec io) rx evs).1.reorder.started = true) :
    ∃ b H, BurstStart (runOps (RtpRx.exec io) rx evs).1 b H ∧ b.window = 2 ^ e ∧
      (runOps (RtpRx.exec io) rx evs).1.reorder.next = serial 16 b.cursor := by
  obtain ⟨b, H, hR, hset, hW, hh⟩ := rtpRx_run_settled io he hold hrx evs
  have hst : b.started = true := by rw [← hR.started, hs]
  refine ⟨b, H, ⟨hR, hset, hst, ?_⟩, hW, hR.next hst⟩
  rw [hh, hW]
  exact IdealReorder.effectiveHold_lt (Nat.two_pow_pos e) _

/-- **Exactly the bursts shorter than the window are survived.** From every started reachable state,
for every burst of `k ≤ 32767` lost packets: one of the first `2 ^ e` packets delivered after the
burst is popped and decoded if and only if `k` is smaller than the window. -/
theorem lossBurst_recovers_iff (io : RtpIo) (rx₀ : RtpRx) (slots : ℕ → RtpReorderSlot) (e : ℕ)
    (he : e ≤ 15) (hold : BitVec 16)
    (hrx : rx₀.reorder = rtpReorderInit slots (BitVec.ofNat 16 (2 ^ e)) hold) (evs : List RxEvent)
    (rx : RtpRx) (hreach : rx = (runOps (RtpRx.exec io) rx₀ evs).1)
    (hs : rx.reorder.started = true) (k : ℕ) (hk : k ≤ 32767) (pkts : ℕ → Bytes)
    (src : ℕ → SockaddrIn) (now : ℕ → BitVec 32)
    (hd : DeliversFrom pkts (rx.reorder.next + BitVec.ofNat 16 k)) :
    (∃ i < 2 ^ e, ∃ p, .decode (rx.reorder.next + BitVec.ofNat 16 (k + i)) p ∈
        drainsOf (runOps (RtpRx.exec io) rx (deliveries pkts src now (2 ^ e))).2.flatten) ↔
      k < 2 ^ e := by
  subst hreach
  obtain ⟨b, H, hb, hW, hnext⟩ := burstStart_of_run io he hold hrx hs
  rw [hnext] at hd ⊢
  rw [serial_add_ofNat] at hd
  rw [← hW]
  constructor
  · -- behind a burst of a window or more everything is refused as too new
    rintro ⟨i, -, p, hp⟩
    by_contra hlt
    have hwin := hb.refines.window_le
    have hnil := (hb.run_beyond_window io src now (not_lt.mp hlt) hd
      b.window (by omega)).2
    rw [hnil] at hp
    exact absurd hp (List.not_mem_nil)
  · -- behind a shorter burst the very first packet is played
    intro hlt
    obtain ⟨p, hp⟩ := hb.burst_within_window_plays io src now hlt hd
    refine ⟨0, hb.refines.window_pos, p, ?_⟩
    rw [serial_add_ofNat]
    exact hp

/-! ## A stream that has played its first packet -/

/-- The receive path after packet `0` has arrived on freshly started statics and been played. -/
def rxAfterFirst : RtpRx :=
  (runOps (RtpRx.exec ⟨3, 4, 5, 6001, 6002⟩)
    (RtpRx.start ⟨⟨0, 0⟩, false, rtpReorderInit (fun _ => ⟨false, 0, 0, []⟩) 0 0, 0, false, 0⟩
      (fun _ => ⟨false, 0, 0, []⟩) 0x0100a8c0)
    [.audio (some (rtpAudioPacket 0 [1])) ⟨0x0100a8c0, 6000⟩ 0]).1

/-- Packet `0` has been played, so packet `1` is next. -/
theorem rxAfterFirst_reorder : rxAfterFirst.reorder.started = true ∧ rxAfterFirst.reorder.next = 1 := by
  show (handleAudio _ _ _ _ _).1.reorder.started = true ∧ (handleAudio _ _ _ _ _).1.reorder.next = 1
  rw [handleAudio_rtpAudioPacket _ _ _ _ 0 (by decide) (by decide), insertAndDrain,
    drainDecode_ok rfl, drainDecode_stop (.inr rfl)]
  exact ⟨rfl, rfl⟩

/-- A burst of three packets is survived. -/
theorem lossBurst_recovers_iff_three :
    (∃ i < 2 ^ 8, ∃ p, .decode (rxAfterFirst.reorder.next + BitVec.ofNat 16 (3 + i)) p ∈
        drainsOf (runOps (RtpRx.exec ⟨3, 4, 5, 6001, 6002⟩) rxAfterFirst
          (deliveries (fun i => rtpAudioPacket
              (rxAfterFirst.reorder.next + BitVec.ofNat 16 3 + BitVec.ofNat 16 i) [1])
            (fun _ => ⟨0x0100a8c0, 6000⟩) (fun _ => 0) (2 ^ 8))).2.flatten) ↔ 3 < 2 ^ 8 :=
  lossBurst_recovers_iff ⟨3, 4, 5, 6001, 6002⟩ _ _ 8 (by norm_num) reorderHold rfl _ rxAfterFirst rfl
    rxAfterFirst_reorder.1 3 (by norm_num) _ _ _
    fun i => ⟨[1], by decide, by decide, audioArrival_rtpAudioPacket _ _ (by decide) (by decide)⟩

/-- **A burst of one window is fatal**: packets `1 … 256` are lost, and of the 256 packets from
`257` on that arrive next, in order and without loss, none is played. -/
theorem lossBurst_of_one_window_stalls :
    rxAfterFirst.reorder.started = true ∧
      DeliversFrom (fun i => rtpAudioPacket (257 + BitVec.ofNat 16 i) [1])
        (rxAfterFirst.reorder.next + BitVec.ofNat 16 256) ∧
      ¬∃ i < 2 ^ 8, ∃ p, .decode (rxAfterFirst.reorder.next + BitVec.ofNat 16 (256 + i)) p ∈
        drainsOf (runOps (RtpRx.exec ⟨3, 4, 5, 6001, 6002⟩) rxAfterFirst
          (deliveries (fun i => rtpAudioPacket (257 + BitVec.ofNat 16 i) [1])
            (fun _ => ⟨0x0100a8c0, 6000⟩) (fun _ => 0) (2 ^ 8))).2.flatten := by
  obtain ⟨hs, hn⟩ := rxAfterFirst_reorder
  have hd : DeliversFrom (fun i => rtpAudioPacket (257 + BitVec.ofNat 16 i) [1])
      (rxAfterFirst.reorder.next + BitVec.ofNat 16 256) := fun i =>
    ⟨[1], by decide, by decide,
      by rw [hn]; exact audioArrival_rtpAudioPacket _ _ (by decide) (by decide)⟩
  refine ⟨hs, hd, ?_⟩
  obtain ⟨b, H, hb, hW, hnext⟩ : ∃ b H, BurstStart rxAfterFirst b H ∧ b.window = 2 ^ 8 ∧
      rxAfterFirst.reorder.next = serial 16 b.cursor :=
    burstStart_of_run _ (by norm_num) reorderHold rfl hs
  rw [hnext, serial_add_ofNat] at hd
  rintro ⟨i, -, p, hp⟩
  rw [(hb.run_beyond_window _ _ _ (by rw [hW]; norm_num) hd (2 ^ 8) (by norm_num)).2] at hp
  exact absurd hp List.not_mem_nil

end ConduitStream
