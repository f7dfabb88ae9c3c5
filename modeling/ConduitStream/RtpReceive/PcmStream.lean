import ConduitStream.Reorder.WindowSize
import ConduitStream.RtpReceive.BoundedHold
import ConduitStream.RtpReceive.BoundedReordering
import ConduitStream.RtpReceive.BuiltDecoder
import ConduitStream.RtpReceive.Recovered
import ConduitStream.RtpReceive.StreamTime

/-! # The PCM of a stream

The sender numbers its packets, and encodes in each of them a frame of the session. What the receive path
feeds to the PCM ring is then a matter of numbers: for every loss, repetition and order of arrival, on
either socket, the frames of the packets stand at their places (`rtpRx_pcm_aligned`), with silence for
those that were not played; only what has arrived is played. If the packets all arrive, within the hold
of the reorder buffer, what is fed is what the sender has encoded, sample by sample
(`rtpRx_pcm_lossless`).

`Follows` is the invariant between two datagrams: what is held are packets of the stream, and the cursor
counts the calls that were made. -/

namespace ConduitStream

open Alac

variable {payload : ℤ → Bytes} {arrived : ℤ → Prop} {A : ℤ}

/-! ## Calls by number -/

/-- The calls are those of the packets from `c` on: each is played with its own payload, if it has
arrived, or concealed. -/
def CallsFrom (payload : ℤ → Bytes) (arrived : ℤ → Prop) : ℤ → List DrainAction → Prop
  | _, [] => True
  | c, .decode seq p :: calls =>
      seq = serial 16 c ∧ p = payload c ∧ arrived c ∧ CallsFrom payload arrived (c + 1) calls
  | c, .conceal :: calls => CallsFrom payload arrived (c + 1) calls

/-- Two stretches of calls, the second from where the first has ended. -/
theorem CallsFrom.append {c : ℤ} {calls calls' : List DrainAction}
    (h : CallsFrom payload arrived c calls) (h' : CallsFrom payload arrived (c + calls.length) calls') :
    CallsFrom payload arrived c (calls ++ calls') := by
  induction calls generalizing c with
  | nil =>
      rw [List.length_nil, Nat.cast_zero, add_zero] at h'
      exact h'
  | cons call calls ih =>
      rw [List.length_cons, Nat.cast_add, Nat.cast_one, add_comm (calls.length : ℤ), ← add_assoc] at h'
      cases call with
      | decode seq p => exact ⟨h.1, h.2.1, h.2.2.1, ih h.2.2.2 h'⟩
      | conceal => exact ih h h'

/-- What is held are packets of the stream that have arrived. -/
def HoldsPackets (payload : ℤ → Bytes) (arrived : ℤ → Prop) (held : ℤ → Option Bytes) : Prop :=
  ∀ E q, held E = some q → q = payload E ∧ arrived E

/-- A slot is emptied, or takes a packet of the stream. -/
theorem HoldsPackets.update {held : ℤ → Option Bytes} (h : HoldsPackets payload arrived held) (E : ℤ)
    {x : Option Bytes} (hx : ∀ q, x = some q → q = payload E ∧ arrived E) :
    HoldsPackets payload arrived (Function.update held E x) := by
  intro E' q hq
  by_cases hE : E' = E
  · subst hE
    rw [Function.update_self] at hq
    exact hx q hq
  · rw [Function.update_of_ne hE] at hq
    exact h E' q hq

/-- Draining plays packets of the stream, from the cursor on. -/
theorem IdealReorder.Drains.callsFrom {b b' : IdealReorder} {calls : List DrainAction}
    (hd : b.Drains calls b') (h : HoldsPackets payload arrived b.held) :
    CallsFrom payload arrived b.cursor calls ∧ HoldsPackets payload arrived b'.held := by
  induction hd with
  | stop _ => exact ⟨trivial, h⟩
  | @decode b b' calls p seq hp _ ih =>
      rcases b.pop_cases with ⟨-, hq⟩ | ⟨q, hheld, hq⟩ | ⟨-, -, -, hq⟩ | ⟨-, -, -, hq⟩
      · simp [hq] at hp
      · rw [hq] at ih hp
        injection hp with hpayload hseq
        obtain ⟨hcalls, hholds⟩ := ih (h.update b.cursor nofun)
        obtain ⟨hq, harrived⟩ := h _ _ hheld
        exact ⟨⟨hseq.symm, hpayload.symm.trans hq, harrived, hcalls⟩, hholds⟩
      · simp [hq] at hp
      · simp [hq] at hp
  | @conceal b b' calls hp _ ih =>
      rcases b.pop_cases with ⟨-, hq⟩ | ⟨q, -, hq⟩ | ⟨-, -, -, hq⟩ | ⟨-, -, -, hq⟩
      · simp [hq] at hp
      · simp [hq] at hp
      · rw [hq] at ih
        exact ih h
      · simp [hq] at hp

/-- Offering a packet of the stream. -/
theorem HoldsPackets.offer {b : IdealReorder} (h : HoldsPackets payload arrived b.held) {E : ℤ}
    (hE : arrived E) : HoldsPackets payload arrived (b.offer E (some (payload E))).held := by
  have hanchor : (if b.started then b else b.anchor E).held = b.held := by split <;> rfl
  unfold IdealReorder.offer IdealReorder.insert
  dsimp only
  split_ifs
  all_goals try exact h
  all_goals exact h.update E fun q hq => ⟨(Option.some.inj hq).symm, hE⟩

/-- The first offer anchors, and no offer moves the cursor. -/
theorem IdealReorder.offer_started {b : IdealReorder} {E : ℤ} {p : Bytes}
    (hlen : ¬(p.length = 0 ∨ rtpReorderMaxPkt < p.length)) :
    (b.offer E (some p)).started = true ∧
      (b.offer E (some p)).cursor = if b.started then b.cursor else E := by
  simp only [IdealReorder.offer, IdealReorder.insert, if_neg hlen]
  cases hs : b.started with
  | true =>
      simp only [if_true]
      split_ifs <;> exact ⟨hs, rfl⟩
  | false =>
      simp only [Bool.false_eq_true, if_false]
      split_ifs <;> exact ⟨rfl, rfl⟩

/-! ## The receive path -/

/-- **The invariant**: the buffer holds packets of the stream, and `n` calls have been made since the
packet `A` that has anchored it. -/
def Follows (payload : ℤ → Bytes) (arrived : ℤ → Prop) (A : ℤ) (n : ℕ) (rb : RtpReorder) : Prop :=
  ∃ b H, Refines rb b H ∧ HoldsPackets payload arrived b.held ∧ (b.started = true → b.cursor = A + n) ∧
    (b.started = false → n = 0)

/-- A number that 16 bits tell apart from the others around the cursor, which `n` calls have moved; the
first one is `A`. -/
def NumberedBy (A : ℤ) (n : ℕ) (rb : RtpReorder) (E : ℤ) : Prop :=
  if rb.started then A + n - 32768 ≤ E ∧ E ≤ A + n + 32767 else E = A

/-- **Step lemma**: a packet of the stream arrives. -/
theorem Follows.insertAndDrain {n : ℕ} {rb : RtpReorder} (h : Follows payload arrived A n rb) {E : ℤ}
    (hlen : ¬((payload E).length = 0 ∨ rtpReorderMaxPkt < (payload E).length))
    (harrived : arrived E) (hE : NumberedBy A n rb E) :
    CallsFrom payload arrived (A + n) (insertAndDrain rb (serial 16 E) (some (payload E))).2 ∧
      Follows payload arrived A (n + (insertAndDrain rb (serial 16 E) (some (payload E))).2.length)
        (insertAndDrain rb (serial 16 E) (some (payload E))).1 := by
  obtain ⟨b, H, hR, hholds, hcursor, hzero⟩ := h
  obtain ⟨hstarted, hoffer⟩ := b.offer_started (E := E) hlen
  have hat : (b.offer E (some (payload E))).cursor = A + n ∧
      (b.started = true → b.cursor - 32768 ≤ E ∧ E ≤ b.cursor + 32767) := by
    unfold NumberedBy at hE
    rw [hR.started] at hE
    cases hs : b.started with
    | true =>
        rw [hs, if_pos rfl] at hoffer hE
        rw [hoffer, hcursor hs]
        exact ⟨rfl, fun _ => hE⟩
    | false =>
        rw [hs, if_neg Bool.false_ne_true] at hoffer hE
        rw [hoffer, hE, hzero hs]
        exact ⟨(add_zero A).symm, nofun⟩
  obtain ⟨b', H', htop, hR', hd⟩ := hR.insertAndDrain hat.2 (some (payload E))
  obtain ⟨-, -, -, hstarted'⟩ := IdealReorder.TopAt.drains hd htop
  obtain ⟨hcalls, hholds'⟩ := hd.callsFrom (hholds.offer harrived)
  rw [hat.1] at hcalls
  refine ⟨hcalls, b', H', hR', hholds', fun _ => ?_, fun hno => ?_⟩
  · rw [hd.cursor, hat.1, Nat.cast_add, add_assoc]
  · rw [hstarted', hstarted] at hno
    cases hno

/-- Behind the datagrams `p`, the datagram `e` brings the packet `E` of the stream, which 16 bits tell
apart there. -/
def Brings (payload : ℤ → Bytes) (A : ℤ) (rb : RtpReorder) (p : List RxEvent) (e : RxEvent) (E : ℤ) : Prop :=
  e.arrival = some (serial 16 E, some (payload E)) ∧
    NumberedBy A (runOps RxEvent.feed rb p).2.flatten.length (runOps RxEvent.feed rb p).1 E

/-- The datagrams are packets of the stream, or are dropped. -/
def Numbered (payload : ℤ → Bytes) (A : ℤ) (rb : RtpReorder) (evs : List RxEvent) : Prop :=
  ∀ p e s, evs = p ++ e :: s → e.arrival = none ∨ ∃ E, Brings payload A rb p e E

/-- The packet `E` is among the datagrams. -/
def Arrived (payload : ℤ → Bytes) (A : ℤ) (rb : RtpReorder) (evs : List RxEvent) (E : ℤ) : Prop :=
  ∃ p e s, evs = p ++ e :: s ∧ Brings payload A rb p e E

/-- The run without datagrams is one of any stream. -/
theorem Numbered.nil {rb : RtpReorder} : Numbered payload A rb [] := by
  intro p e s hsplit
  exact absurd hsplit (by simp)

/-- One datagram more, which is dropped or brings a packet of the stream. -/
theorem Numbered.concat {rb : RtpReorder} {evs : List RxEvent} {e : RxEvent}
    (h : Numbered payload A rb evs)
    (he : e.arrival = none ∨ ∃ E, Brings payload A rb evs e E) : Numbered payload A rb (evs ++ [e]) := by
  intro p e' s hsplit
  rcases List.eq_nil_or_concat' s with rfl | ⟨s, last, rfl⟩
  · obtain ⟨rfl, hlast⟩ := List.append_inj' hsplit rfl
    obtain rfl := List.singleton_inj.mp hlast
    exact he
  · rw [← List.cons_append, ← List.append_assoc] at hsplit
    exact h p e' s (List.append_inj' hsplit rfl).1

/-- A datagram that is dropped feeds nothing. -/
theorem feed_of_arrival_none {e : RxEvent} (h : e.arrival = none) (rb : RtpReorder) :
    e.feed rb = (rb, []) := by
  cases e with
  | audio pkt src now =>
      have harr : audioArrival pkt = none := h
      simp only [RxEvent.feed, harr]
  | control pkt =>
      have harr : controlArrival pkt = none := h
      simp only [RxEvent.feed, harr]

/-- A packet that can be stored is fed to the buffer in the same way from either socket. -/
theorem feed_of_arrival {e : RxEvent} {seq : BitVec 16} {data : Bytes}
    (h : e.arrival = some (seq, some data))
    (hlen : ¬(data.length = 0 ∨ rtpReorderMaxPkt < data.length)) (rb : RtpReorder) :
    e.feed rb = insertAndDrain rb seq (some data) := by
  cases e with
  | audio pkt src now =>
      have harr : audioArrival pkt = some (seq, some data) := h
      simp only [RxEvent.feed, harr]
      exact insertAndDrain_anchorIfNeeded rb seq hlen
  | control pkt =>
      have harr : controlArrival pkt = some (seq, some data) := h
      simp only [RxEvent.feed, harr]

/-- **Run lemma**: the calls are those of the numbers from `A` on, one by one. -/
theorem Numbered.run {rb : RtpReorder} {evs : List RxEvent}
    (h0 : Follows payload (Arrived payload A rb evs) A 0 rb)
    (hlen : ∀ E, ¬((payload E).length = 0 ∨ rtpReorderMaxPkt < (payload E).length))
    (h : Numbered payload A rb evs) (p : List RxEvent) (hp : p <+: evs) :
    CallsFrom payload (Arrived payload A rb evs) A (runOps RxEvent.feed rb p).2.flatten ∧
      Follows payload (Arrived payload A rb evs) A (runOps RxEvent.feed rb p).2.flatten.length
        (runOps RxEvent.feed rb p).1 := by
  induction p using List.reverseRecOn with
  | nil => exact ⟨trivial, h0⟩
  | append_singleton p e ih =>
      obtain ⟨s, rfl⟩ := hp
      have hsplit : p ++ [e] ++ s = p ++ e :: s := List.append_assoc p [e] s
      obtain ⟨hcalls, hfollows⟩ := ih ⟨e :: s, hsplit.symm⟩
      rw [runOps_concat, List.flatten_append, List.flatten_singleton]
      rcases h p e s hsplit with hnone | ⟨E, harr, hnum⟩
      · rw [feed_of_arrival_none hnone, List.append_nil]
        exact ⟨hcalls, hfollows⟩
      · rw [feed_of_arrival harr (hlen E), List.length_append]
        obtain ⟨hmore, hnext⟩ := hfollows.insertAndDrain (hlen E) ⟨p, e, s, hsplit, harr, hnum⟩ hnum
        exact ⟨hcalls.append hmore, hnext⟩

/-- A buffer that is not started follows any stream. -/
theorem follows_init (slots : ℕ → RtpReorderSlot) {e : ℕ} (he : e ≤ 15) (hold : BitVec 16) :
    Follows payload arrived A 0 (rtpReorderInit slots (BitVec.ofNat 16 (2 ^ e)) hold) := by
  have hw : (BitVec.ofNat 16 (2 ^ e)).toNat = 2 ^ e := by
    rw [BitVec.toNat_ofNat, Nat.mod_eq_of_lt (Nat.pow_lt_pow_right (by norm_num) (by omega))]
  exact ⟨_, 0, Refines.init slots he hw hold, nofun, nofun, fun _ => rfl⟩

/-! ## Their frames -/

variable {s : AlacSetup}

/-- Calls on the packets of a stream, as calls on encoded frames. -/
theorem CallsFrom.frames {frame : ℤ → EncodedFrame s} {aes : AesCbc} {c : ℤ} {calls : List DrainAction}
    (h : CallsFrom (fun E => (frame E).payload aes) arrived c calls) :
    ∃ played : ℕ → Bool, (∀ i, played i = true → arrived (c + i)) ∧
      calls = (List.range calls.length).map fun i => StreamCall.action aes
        (if played i then .packet (serial 16 (c + i)) (frame (c + i)) else .conceal) := by
  induction calls generalizing c with
  | nil => exact ⟨fun _ => false, nofun, rfl⟩
  | cons call calls ih =>
      have hshift : ∀ i : ℕ, c + 1 + i = c + (i + 1 : ℕ) := by
        intro i
        omega
      cases call with
      | decode seq p =>
          obtain ⟨rfl, rfl, hfirst, hrest⟩ := h
          obtain ⟨played, harrived, hplayed⟩ := ih hrest
          refine ⟨fun i => if i = 0 then true else played (i - 1), fun i hi => ?_, ?_⟩
          · cases i with
            | zero =>
                rw [Nat.cast_zero, add_zero]
                exact hfirst
            | succ i =>
                rw [← hshift]
                exact harrived i hi
          rw [List.length_cons, List.range_succ_eq_map, List.map_cons, List.map_map]
          refine congrArg₂ List.cons ?_ ?_
          · simp [StreamCall.action]
          · conv_lhs => rw [hplayed]
            refine List.map_congr_left fun i _ => ?_
            simp [hshift]
      | conceal =>
          obtain ⟨played, harrived, hplayed⟩ := ih h
          refine ⟨fun i => if i = 0 then false else played (i - 1), fun i hi => ?_, ?_⟩
          · cases i with
            | zero => cases hi
            | succ i =>
                rw [← hshift]
                exact harrived i hi
          rw [List.length_cons, List.range_succ_eq_map, List.map_cons, List.map_map]
          refine congrArg₂ List.cons ?_ ?_
          · simp [StreamCall.action]
          · conv_lhs => rw [hplayed]
            refine List.map_congr_left fun i _ => ?_
            simp [hshift]

/-- The calls of a run, seen from the reorder buffer. -/
theorem drainsOf_run (io : RtpIo) (rx : RtpRx) (evs : List RxEvent) :
    drainsOf (runOps (RtpRx.exec io) rx evs).2.flatten
      = (runOps RxEvent.feed rx.reorder evs).2.flatten := by
  have hflatten : ∀ acts : List (List RxAction), drainsOf acts.flatten = (acts.map drainsOf).flatten := by
    intro acts
    induction acts with
    | nil => rfl
    | cons as acts ih => rw [List.flatten_cons, drainsOf_append, ih, List.map_cons, List.flatten_cons]
  rw [hflatten]
  exact congrArg (·.2.flatten) (runOps_feed io rx evs)

/-! ## A stream of one-sample packets -/

/-- A cipher that nothing is given to: the packets are shorter than a block. -/
def AesCbc.noBlocks : AesCbc := ⟨id, some, fun _ => rfl, fun _ _ => rfl⟩

/-- A packet with one stereo sample. -/
def oneSample (E : ℤ) : EncodedFrame alacSetup352 :=
  .uncompressed (by decide) [(BitVec.ofInt 16 E, BitVec.ofInt 16 (-E))] (List.cons_ne_nil _ _)
    (show 1 ≤ 352 by decide)

/-- The decoder at the start of the session. -/
def rtpDecoder352 : RtpDecoder :=
  ⟨alacCfg352.zeroDecoder, List.replicate rtpRxCap 0, List.replicate 4096 (0, 0)⟩

/-- Its buffers have the lengths of the session. -/
theorem rtpDecoder352_ready : rtpDecoder352.Ready alacSetup352 where
  sAlac := (AlacCfg.builds_iff buildDecoder_352 alacCfg352_decodes).mp alacCfg352.builds_zeroDecoder
  sPlain := List.length_replicate
  sPcm := List.length_replicate

/-- The packet on the audio socket. -/
def oneSampleDatagram (seq : BitVec 16) (E : ℤ) : RxEvent :=
  .audio (some (rtpAudioPacket seq ((oneSample E).payload .noBlocks))) ⟨0x0100a8c0, 6000⟩ 0

/-- It is accepted with its number and its payload. -/
theorem arrival_oneSampleDatagram (seq : BitVec 16) (E : ℤ) :
    (oneSampleDatagram seq E).arrival = some (seq, some ((oneSample E).payload .noBlocks)) := by
  obtain ⟨hpos, hle⟩ := (oneSample E).length_payload .noBlocks
  exact audioArrival_rtpAudioPacket seq _ hpos hle

/-- The receive statics over empty slots. -/
def rtpRxEmpty : RtpRx :=
  ⟨⟨0, 0⟩, false, rtpReorderInit (fun _ => ⟨false, 0, 0, []⟩) (BitVec.ofNat 16 (2 ^ 3)) 2, 0, false, 0⟩

/-! ## A gap

Packet 7 is played, packet 9 waits for packet 8, and packet 10 gives packet 8 up. -/

/-- A packet that finds its slot free is stored. -/
theorem insertAudio_stored (rb : RtpReorder) (seq : BitVec 16) {data : Bytes}
    (hlen : ¬(data.length = 0 ∨ rtpReorderMaxPkt < data.length))
    (hold : seqLt seq (rb.anchored seq).next = false)
    (hnew : ¬(rb.anchored seq).window ≤ seqDiff seq (rb.anchored seq).next)
    (hfree : ((rb.anchored seq).slots ((rb.anchored seq).slotIdx seq)).valid = false) :
    insertAudio rb seq (some data) = (rb.anchored seq).stored seq data := by
  have hne : ¬data.length = 0 := fun h => hlen (.inl h)
  show (if data.length = 0 then rb else (rtpReorderInsert rb seq data).1) = _
  rw [if_neg hne, rtpReorderInsert_eq, if_neg hlen, hold, if_neg Bool.false_ne_true, if_neg hnew, hfree,
    if_neg (fun h => Bool.false_ne_true h.1)]

section

variable {x y z : Bytes}

/-- The slots at the start. -/
def emptySlots : ℕ → RtpReorderSlot := rtpRxEmpty.reorder.slots

/-- One of them with a packet. -/
def filledSlot (i : ℕ) (seq : BitVec 16) (data : Bytes) : RtpReorderSlot := (emptySlots i).filled seq data

/-- The buffer that has played packet 7 of a stream. -/
def reorderPlayed (x : Bytes) : RtpReorder where
  slots := Function.update (Function.update emptySlots 7 (filledSlot 7 7 x)) 7
    { filledSlot 7 7 x with valid := false }
  window := 8
  hold := 2
  next := 8
  head := 8
  count := 0
  started := true

/-- The buffer that holds packet 9 behind it. -/
def reorderWaiting (x y : Bytes) : RtpReorder :=
  { reorderPlayed x with
    slots := Function.update (reorderPlayed x).slots 1 (filledSlot 1 9 y)
    head := 10
    count := 1 }

/-- The buffer that holds packet 10, too. -/
def reorderAhead (x y z : Bytes) : RtpReorder :=
  { reorderWaiting x y with
    slots := Function.update (reorderWaiting x y).slots 2 (filledSlot 2 10 z)
    head := 11
    count := 2 }

/-- Packet 7 is played at once. -/
theorem drain_played (hx : ¬(x.length = 0 ∨ rtpReorderMaxPkt < x.length)) :
    ∃ a, insertAndDrain rtpRxEmpty.reorder 7 (some x) = (reorderPlayed x, [a]) := by
  have hstored : insertAudio rtpRxEmpty.reorder 7 (some x) = (rtpRxEmpty.reorder.anchored 7).stored 7 x :=
    insertAudio_stored _ 7 hx rfl (by decide) rfl
  have hpop : ∃ out, rtpReorderPop ((rtpRxEmpty.reorder.anchored 7).stored 7 x) rtpReorderMaxPkt
      = (reorderPlayed x, .ok out 7) := by
    simp [rtpReorderPop, reorderPlayed, RtpReorder.slotIdx, emptySlots, rtpRxEmpty, rtpReorderInit,
      RtpReorder.stored, RtpReorder.anchored, filledSlot, RtpReorderSlot.filled, seqLt]
  have hempty : rtpReorderPop (reorderPlayed x) rtpReorderMaxPkt = (reorderPlayed x, .empty) := rfl
  obtain ⟨out, hpop⟩ := hpop
  exact ⟨_, by rw [insertAndDrain, hstored, drainDecode_ok hpop, drainDecode_stop (.inr hempty)]⟩

/-- Packet 9 is held: packet 8 is still waited for. -/
theorem drain_waiting (hy : ¬(y.length = 0 ∨ rtpReorderMaxPkt < y.length)) :
    insertAndDrain (reorderPlayed x) 9 (some y) = (reorderWaiting x y, []) := by
  have hwait : rtpReorderPop (reorderWaiting x y) rtpReorderMaxPkt = (reorderWaiting x y, .wait) := by
    simp [rtpReorderPop, reorderWaiting, reorderPlayed, RtpReorder.slotIdx, seqDiff, emptySlots,
      rtpRxEmpty, rtpReorderInit]
  have hnew : ¬((reorderPlayed x).anchored 9).window ≤ seqDiff 9 ((reorderPlayed x).anchored 9).next := by
    show ¬(8 : BitVec 16) ≤ 9 - 8
    decide
  have hfree : (((reorderPlayed x).anchored 9).slots (((reorderPlayed x).anchored 9).slotIdx 9)).valid
      = false := by
    simp [RtpReorder.anchored, RtpReorder.slotIdx, reorderPlayed, emptySlots, rtpRxEmpty, rtpReorderInit]
  have hstored : insertAudio (reorderPlayed x) 9 (some y) = reorderWaiting x y := by
    rw [insertAudio_stored (reorderPlayed x) 9 hy (show seqLt 9 8 = false by decide) hnew hfree]
    simp [RtpReorder.stored, RtpReorder.anchored, RtpReorder.slotIdx, reorderWaiting, reorderPlayed,
      filledSlot, emptySlots, rtpRxEmpty, rtpReorderInit, seqLt]
  rw [insertAndDrain, hstored, drainDecode_stop (.inl hwait)]

/-- Three packets ahead of the cursor, packet 8 is given up. -/
theorem drain_ahead (hz : ¬(z.length = 0 ∨ rtpReorderMaxPkt < z.length)) :
    ∃ rb' a b, insertAndDrain (reorderWaiting x y) 10 (some z) = (rb', [.conceal, a, b]) := by
  have hnew : ¬((reorderWaiting x y).anchored 10).window
      ≤ seqDiff 10 ((reorderWaiting x y).anchored 10).next := by
    show ¬(8 : BitVec 16) ≤ 10 - 8
    decide
  have hfree : (((reorderWaiting x y).anchored 10).slots
      (((reorderWaiting x y).anchored 10).slotIdx 10)).valid = false := by
    simp [RtpReorder.anchored, RtpReorder.slotIdx, reorderWaiting, reorderPlayed, emptySlots, rtpRxEmpty,
      rtpReorderInit]
  have hstored : insertAudio (reorderWaiting x y) 10 (some z) = reorderAhead x y z := by
    rw [insertAudio_stored (reorderWaiting x y) 10 hz (show seqLt 10 8 = false by decide) hnew hfree]
    simp [RtpReorder.stored, RtpReorder.anchored, RtpReorder.slotIdx, reorderAhead, reorderWaiting,
      reorderPlayed, filledSlot, emptySlots, rtpRxEmpty, rtpReorderInit, seqLt]
  have hconceal : rtpReorderPop (reorderAhead x y z) rtpReorderMaxPkt
      = ({ reorderAhead x y z with next := 9 }, .conceal) := by
    simp [rtpReorderPop, reorderAhead, reorderWaiting, reorderPlayed, RtpReorder.slotIdx, seqDiff,
      emptySlots, rtpRxEmpty, rtpReorderInit]
  have h9 : ∃ rb₉ out, rtpReorderPop { reorderAhead x y z with next := 9 } rtpReorderMaxPkt
      = (rb₉, .ok out 9) ∧ ∃ rb' out', rtpReorderPop rb₉ rtpReorderMaxPkt = (rb', .ok out' 10) ∧
        rtpReorderPop rb' rtpReorderMaxPkt = (rb', .empty) := by
    simp [rtpReorderPop, reorderAhead, reorderWaiting, reorderPlayed, RtpReorder.slotIdx, seqDiff,
      filledSlot, RtpReorderSlot.filled]
  obtain ⟨rb₉, out, h9, rb', out', h10, hempty⟩ := h9
  exact ⟨rb', _, _, by rw [insertAndDrain, hstored, drainDecode_conceal hconceal, drainDecode_ok h9,
    drainDecode_ok h10, drainDecode_stop (.inr hempty)]⟩

end

/-- The payload of the packet `E`. -/
def oneSamplePayload (E : ℤ) : Bytes := (oneSample E).payload .noBlocks

/-- It has a length that the buffer takes. -/
theorem oneSamplePayload_fits (E : ℤ) :
    ¬((oneSamplePayload E).length = 0 ∨ rtpReorderMaxPkt < (oneSamplePayload E).length) := by
  obtain ⟨hpos, hle⟩ := (oneSample E).length_payload .noBlocks
  unfold oneSamplePayload
  omega

/-- The packets 7, 9 and 10. -/
def gapDatagrams : List RxEvent := [oneSampleDatagram 7 7, oneSampleDatagram 9 9, oneSampleDatagram 10 10]

/-- The buffer behind each of them. -/
theorem feed_gap : ∃ rb' a b c,
    runOps RxEvent.feed rtpRxEmpty.reorder [oneSampleDatagram 7 7]
      = (reorderPlayed (oneSamplePayload 7), [[a]]) ∧
    runOps RxEvent.feed rtpRxEmpty.reorder [oneSampleDatagram 7 7, oneSampleDatagram 9 9]
      = (reorderWaiting (oneSamplePayload 7) (oneSamplePayload 9), [[a], []]) ∧
    runOps RxEvent.feed rtpRxEmpty.reorder gapDatagrams = (rb', [[a], [], [.conceal, b, c]]) := by
  obtain ⟨a, hplayed⟩ := drain_played (oneSamplePayload_fits 7)
  have hwaiting := drain_waiting (x := oneSamplePayload 7) (oneSamplePayload_fits 9)
  obtain ⟨rb', b, c, hahead⟩ := drain_ahead (x := oneSamplePayload 7) (y := oneSamplePayload 9)
    (oneSamplePayload_fits 10)
  have hfeed : ∀ seq E rb,
      (oneSampleDatagram seq E).feed rb = insertAndDrain rb seq (some (oneSamplePayload E)) :=
    fun seq E => feed_of_arrival (arrival_oneSampleDatagram seq E) (oneSamplePayload_fits E)
  refine ⟨rb', a, b, c, ?_, ?_, ?_⟩
  · simp only [runOps_cons, runOps_nil, hfeed, hplayed]
  · simp only [runOps_cons, runOps_nil, hfeed, hplayed, hwaiting]
  · simp only [gapDatagrams, runOps_cons, runOps_nil, hfeed, hplayed, hwaiting, hahead]

/-- **What is played stands at its place.** For every reorder buffer, every session and every stream of
encoded frames, numbered from `A` on, and every run of the receive path in which datagrams of this stream
arrive, lost, repeated and in any order, on either socket, as far as 16 bits tell their numbers apart:
the decoder stays within its buffers, and what is fed to the PCM ring is, for one number after the other
from `A` on, the frames the sender has encoded in its packet, or one frame length of silence. A packet
that has not arrived is silent. -/
theorem rtpRx_pcm_aligned (io : RtpIo) (rx : RtpRx) (slots : ℕ → RtpReorderSlot) (e : ℕ) (he : e ≤ 15)
    (hold : BitVec 16) (hrx : rx.reorder = rtpReorderInit slots (BitVec.ofNat 16 (2 ^ e)) hold)
    (aes : AesCbc) (frame : ℤ → EncodedFrame s) (A : ℤ) (evs : List RxEvent)
    (hevs : Numbered (fun E => (frame E).payload aes) A rx.reorder evs) {st : RtpDecoder}
    (hst : st.Ready s) :
    ∃ (played : ℕ → Bool) (st' : RtpDecoder), st'.Ready s ∧
      (∀ i, played i = true → Arrived (fun E => (frame E).payload aes) A rx.reorder evs (A + i)) ∧
      st.perform aes.decrypt s.samplesPerFrame (drainsOf (runOps (RtpRx.exec io) rx evs).2.flatten)
        = some (st', (List.range (drainsOf (runOps (RtpRx.exec io) rx evs).2.flatten).length).flatMap
            fun i => if played i then (frame (A + i)).frames
              else List.replicate s.samplesPerFrame (0, 0)) := by
  have hlen : ∀ E, ¬(((frame E).payload aes).length = 0 ∨
      rtpReorderMaxPkt < ((frame E).payload aes).length) := by
    intro E
    have hpayload := (frame E).length_payload aes
    omega
  have hfollows : Follows (fun E => (frame E).payload aes)
      (Arrived (fun E => (frame E).payload aes) A rx.reorder evs) A 0 rx.reorder := by
    rw [hrx]
    exact follows_init slots he hold
  obtain ⟨hcalls, -⟩ := hevs.run hfollows hlen evs (List.prefix_refl evs)
  rw [← drainsOf_run io] at hcalls
  obtain ⟨played, harrived, hplayed⟩ := hcalls.frames
  obtain ⟨st', hst', hperform⟩ := RtpDecoder.perform_encoded hst aes
    ((List.range (drainsOf (runOps (RtpRx.exec io) rx evs).2.flatten).length).map fun i =>
      if played i then .packet (serial 16 (A + i)) (frame (A + i)) else .conceal)
  rw [List.map_map, List.flatMap_map] at hperform
  refine ⟨played, st', hst', harrived, ?_⟩
  refine (congrArg (st.perform aes.decrypt s.samplesPerFrame) hplayed).trans (hperform.trans ?_)
  refine congrArg (fun fed => some (st', fed)) (List.flatMap_congr fun i _ => ?_)
  cases played i <;> rfl

/-- Packets 7, 9 and 10 arrive: four frames are fed, and that of packet 8 is silent. -/
theorem rtpRx_pcm_aligned_gap :
    ∃ (played : ℕ → Bool) (st' : RtpDecoder), st'.Ready alacSetup352 ∧ played 1 = false ∧
      rtpDecoder352.perform AesCbc.noBlocks.decrypt 352
          (drainsOf (runOps (RtpRx.exec ⟨3, 4, 5, 6001, 6002⟩) rtpRxEmpty gapDatagrams).2.flatten)
        = some (st', (List.range 4).flatMap
            fun i => if played i then (oneSample (7 + i)).frames else List.replicate 352 (0, 0)) := by
  obtain ⟨rb', a, b, c, hplayed, hwaiting, hahead⟩ := feed_gap
  have hnumbered : Numbered (fun E => (oneSample E).payload .noBlocks) 7 rtpRxEmpty.reorder
      gapDatagrams := by
    refine ((Numbered.nil.concat (.inr ⟨7, arrival_oneSampleDatagram 7 7, ?_⟩)).concat
      (.inr ⟨9, arrival_oneSampleDatagram 9 9, ?_⟩)).concat (.inr ⟨10, arrival_oneSampleDatagram 10 10, ?_⟩)
    · rfl
    · rw [List.nil_append, hplayed]
      simp [NumberedBy, reorderPlayed]
    · rw [List.nil_append, List.singleton_append, hwaiting]
      simp [NumberedBy, reorderWaiting, reorderPlayed]
  obtain ⟨played, st', hst', harrived, hfed⟩ := rtpRx_pcm_aligned ⟨3, 4, 5, 6001, 6002⟩ rtpRxEmpty _ 3
    (by decide) 2 rfl .noBlocks oneSample 7 _ hnumbered rtpDecoder352_ready
  have hfour : (drainsOf (runOps (RtpRx.exec ⟨3, 4, 5, 6001, 6002⟩) rtpRxEmpty
      gapDatagrams).2.flatten).length = 4 := by
    rw [drainsOf_run, hahead]
    rfl
  refine ⟨played, st', hst', ?_, ?_⟩
  · -- none of the datagrams is packet 8
    refine Bool.eq_false_iff.mpr fun h8 => ?_
    obtain ⟨p, e, s, hsplit, harr, -⟩ := harrived 1 h8
    have hmem : e ∈ gapDatagrams := by
      rw [hsplit]
      exact List.mem_append_right p List.mem_cons_self
    simp only [gapDatagrams, List.mem_cons, List.not_mem_nil, or_false] at hmem
    rcases hmem with rfl | rfl | rfl
    all_goals
      rw [arrival_oneSampleDatagram] at harr
      exact absurd (Prod.mk.inj (Option.some.inj harr)).1 (by decide)
  · rw [hfour] at hfed
    exact hfed

/-- A complete stream that arrives within the hold is handed to the decoder in its order. -/
theorem BoundedArrivals.played {slots : ℕ → RtpReorderSlot} {e : ℕ} (he : e ≤ 15) {hold a : BitVec 16}
    {payload : ℕ → Bytes} {n : ℕ}
    (hlen : ∀ j, ¬((payload j).length = 0 ∨ rtpReorderMaxPkt < (payload j).length)) {arrivals : List ℕ}
    (harr : BoundedArrivals n (IdealReorder.effectiveHold (2 ^ e) hold.toNat) arrivals) :
    (runOps (arrive a payload) (rtpReorderInit slots (BitVec.ofNat 16 (2 ^ e)) hold) arrivals).2.flatten
      = playedInOrder a payload n := by
  cases arrivals with
  | nil =>
      obtain rfl : n = 0 := by
        by_contra hpos
        exact List.not_mem_nil (harr.complete 0 (Nat.pos_of_ne_zero hpos))
      rfl
  | cons j arrivals =>
      obtain rfl : j = 0 := harr.first j rfl
      obtain ⟨c, ⟨b, H, -, -, hB, hc⟩, hout⟩ := harr.run (fun j _ => hlen j)
        (bufferedAs_anchor slots he hold a payload) _ (List.prefix_refl _)
      -- the first packet that has not arrived is the one behind the last
      have hall : c = n := by
        refine le_antisymm ?_ ?_
        · by_contra hlt
          exact lt_irrefl n (harr.lt n (hB.prior n (by omega)))
        · by_contra hlt
          exact hc (harr.complete c (by omega))
      rw [runOps_arrive_anchor slots _ _ (hlen 0), hout, hall]

/-- The calls of a complete stream that arrives within the hold, on either socket. -/
theorem BoundedArrivals.calls {slots : ℕ → RtpReorderSlot} {e : ℕ} (he : e ≤ 15) {hold a : BitVec 16}
    {payload : ℕ → Bytes} {n : ℕ}
    (hlen : ∀ j, ¬((payload j).length = 0 ∨ rtpReorderMaxPkt < (payload j).length)) {arrivals : List ℕ}
    (harr : BoundedArrivals n (IdealReorder.effectiveHold (2 ^ e) hold.toNat) arrivals) (io : RtpIo)
    {rx : RtpRx} (hrx : rx.reorder = rtpReorderInit slots (BitVec.ofNat 16 (2 ^ e)) hold)
    {evs : List RxEvent} (hevs : evs.map RxEvent.arrival = arrivals.map fun j =>
      some (a + BitVec.ofNat 16 j, some (payload j))) :
    drainsOf (runOps (RtpRx.exec io) rx evs).2.flatten = playedInOrder a payload n := by
  have hrun : ∀ (evs : List RxEvent) (arrivals : List ℕ) (rb : RtpReorder),
      evs.map RxEvent.arrival = arrivals.map (fun j => some (a + BitVec.ofNat 16 j, some (payload j))) →
      runOps RxEvent.feed rb evs = runOps (arrive a payload) rb arrivals := by
    intro evs
    induction evs with
    | nil =>
        intro arrivals rb hmap
        obtain rfl := List.map_eq_nil_iff.mp hmap.symm
        rfl
    | cons ev evs ih =>
        intro arrivals rb hmap
        cases arrivals with
        | nil => cases hmap
        | cons j arrivals =>
            obtain ⟨hev, hrest⟩ := List.cons.inj hmap
            rw [runOps_cons, runOps_cons, feed_of_arrival hev (hlen j), ih arrivals _ hrest]
            rfl
  rw [drainsOf_run, hrx, hrun evs arrivals _ hevs]
  exact harr.played he hlen

/-- **What the sender encodes is what is fed**, sample by sample. For every reorder buffer, every session
and every stream of `n` encoded frames, whose packets arrive on either socket, packet 0 first, out of order
within the hold and with repetitions, no copy more than 32768 packets late: the PCM fed to the ring is that
of the stream. -/
theorem rtpRx_pcm_lossless (io : RtpIo) (rx : RtpRx) (slots : ℕ → RtpReorderSlot) (e : ℕ) (he : e ≤ 15)
    (hold a : BitVec 16) (hrx : rx.reorder = rtpReorderInit slots (BitVec.ofNat 16 (2 ^ e)) hold)
    (aes : AesCbc) (frame : ℕ → EncodedFrame s) (n : ℕ) (arrivals : List ℕ)
    (harr : BoundedArrivals n (IdealReorder.effectiveHold (2 ^ e) hold.toNat) arrivals)
    (evs : List RxEvent) (hevs : evs.map RxEvent.arrival = arrivals.map fun j =>
      some (a + BitVec.ofNat 16 j, some ((frame j).payload aes))) {st : RtpDecoder} (hst : st.Ready s) :
    ∃ st' : RtpDecoder, st'.Ready s ∧
      st.perform aes.decrypt s.samplesPerFrame (drainsOf (runOps (RtpRx.exec io) rx evs).2.flatten)
        = some (st', (List.range n).flatMap fun j => (frame j).frames) := by
  have hlen : ∀ j, ¬(((frame j).payload aes).length = 0 ∨
      rtpReorderMaxPkt < ((frame j).payload aes).length) := by
    intro j
    have hpayload := (frame j).length_payload aes
    omega
  obtain ⟨st', hst', hperform⟩ := RtpDecoder.perform_encoded hst aes
    ((List.range n).map fun j => .packet (a + BitVec.ofNat 16 j) (frame j))
  rw [List.map_map, List.flatMap_map] at hperform
  refine ⟨st', hst', ?_⟩
  rw [harr.calls he hlen io hrx hevs]
  exact hperform

/-- Three packets, of which the last overtakes the second, and a copy. -/
theorem rtpRx_pcm_lossless_overtaken :
    ∃ st' : RtpDecoder, st'.Ready alacSetup352 ∧
      rtpDecoder352.perform AesCbc.noBlocks.decrypt 352
          (drainsOf (runOps (RtpRx.exec ⟨3, 4, 5, 6001, 6002⟩) rtpRxEmpty
            ([0, 2, 1, 1].map fun j => oneSampleDatagram (65535 + BitVec.ofNat 16 j) j)).2.flatten)
        = some (st', (List.range 3).flatMap fun j => (oneSample j).frames) := by
  refine rtpRx_pcm_lossless ⟨3, 4, 5, 6001, 6002⟩ rtpRxEmpty _ 3 (by decide) 2 65535 rfl .noBlocks
    (fun j => oneSample j) 3 [0, 2, 1, 1] ?_ _ ?_ rtpDecoder352_ready
  · exact
      { first := by simp
        lt := by simp
        complete := by decide
        bounded := by
          intro p j s hp i hi
          have hall : ∀ k < 4, ∀ i < 1, i + 2 ≤ [0, 2, 1, 1].getD k 0 → i ∈ [0, 2, 1, 1].take k := by
            decide
          have hk : p.length < 4 := by
            have hlen := congrArg List.length hp
            simp only [List.length_cons, List.length_nil, List.length_append] at hlen
            omega
          have hj : j ≤ 2 := by
            have hmax : ∀ x ∈ [0, 2, 1, 1], x ≤ 2 := by decide
            exact hmax j (by rw [hp]; simp)
          have hi : i + 2 ≤ j := hi
          simpa [hp, hi] using hall p.length hk i (by omega)
        recent := by
          intro p j s hp
          refine ⟨3, by omega, fun h3 => ?_⟩
          have hmem : 3 ∈ [0, 2, 1, 1] := by
            rw [hp]
            exact List.mem_append_left _ h3
          simp at hmem }
  · rw [List.map_map]
    exact List.map_congr_left fun j _ => arrival_oneSampleDatagram _ _

end ConduitStream
