import ConduitStream.Reorder.Gap
import ConduitStream.RtpReceive.PcmStream

/-! # What is asked for again, and when (`maybe_request_resend`)

A gap in front of the packets buffered is asked for again with the datagram that leaves it behind, but
the same gap at most every 30 ticks. The task keeps no more of this than the first number and the tick
of the last request. `rtpRx_resend_paced` says what that comes to over a run: every request names packets
that are missing, two requests for one gap are 30 ticks apart, and a gap that is left behind has been
asked for within the last 30 ticks. -/

namespace ConduitStream

/-! ## Datagrams in time -/

/-- A socket of the receive path. -/
inductive RxSocket
  | audio (src : SockaddrIn)
  | control

/-- A datagram, or the failure of `recvfrom`, and when it is handled, in ticks from the boot on. -/
structure Datagram where
  time : ℕ
  socket : RxSocket
  pkt : Option Bytes

/-- What is served. -/
def Datagram.event (d : Datagram) : RxEvent :=
  match d.socket with
  | .audio src => .audio d.pkt src (BitVec.ofNat 32 d.time)
  | .control => .control d.pkt

/-- It is an audio packet on the audio socket. -/
def Datagram.IsAudio (d : Datagram) : Prop :=
  ∃ src, d.socket = .audio src ∧ (audioArrival d.pkt).isSome = true

/-! ## One datagram -/

/-- The request was made too recently. -/
def RtpRx.Throttles (rx : RtpRx) (first : BitVec 16) (now : BitVec 32) : Prop :=
  rx.resendValid = true ∧ first = rx.resendFirst ∧ now - rx.resendTick < resendMinIntervalTicks

/-- The throttle is as in another state. -/
def RtpRx.SameThrottle (rx rx' : RtpRx) : Prop :=
  rx'.resendValid = rx.resendValid ∧ rx'.resendFirst = rx.resendFirst ∧ rx'.resendTick = rx.resendTick

/-- No request is sent, and if there is a gap, then because it was asked for too recently. -/
structure AsksNot (io : RtpIo) (rx rx' : RtpRx) (d : Datagram) (acts : List RxAction) : Prop where
  silent : ∀ fd dst req, RxAction.sendto fd dst req ∉ acts
  same : rx.SameThrottle rx'
  throttles : d.IsAudio → 0 ≤ io.controlFd → ∀ first count,
    rtpReorderGap rx'.reorder = some (first, count) → rx.Throttles first (BitVec.ofNat 32 d.time)

/-- The gap is asked for. -/
structure AsksFor (rx rx' : RtpRx) (d : Datagram) (acts : List RxAction) (first count : BitVec 16) :
    Prop where
  gap : rtpReorderGap rx'.reorder = some (first, count)
  request : ∀ fd dst req, RxAction.sendto fd dst req ∈ acts → req = rtpResendBuild first count
  asked : ∃ fd dst req, RxAction.sendto fd dst req ∈ acts
  unthrottled : ¬rx.Throttles first (BitVec.ofNat 32 d.time)
  valid : rx'.resendValid = true
  first_eq : rx'.resendFirst = first
  tick : rx'.resendTick = BitVec.ofNat 32 d.time

/-- A call of the decoder sends nothing. -/
theorem sendto_notMem_map_drain (calls : List DrainAction) (fd : ℤ) (dst : SockaddrIn) (req : Bytes) :
    RxAction.sendto fd dst req ∉ calls.map RxAction.drain := by
  simp

/-- `handle_audio` in terms of what arrives: the packet is stored, the buffer drained and a gap asked for. -/
theorem handleAudio_eq (io : RtpIo) (rx : RtpRx) {pkt : Option Bytes} {seq : BitVec 16}
    {payload : Option Bytes} (h : audioArrival pkt = some (seq, payload)) (src : SockaddrIn)
    (now : BitVec 32) :
    handleAudio io rx pkt src now =
      let calls := insertAndDrain (anchorIfNeeded rx.reorder seq) seq payload
      let r := maybeRequestResend io
        { rx with
          peer := if rx.peerKnown then rx.peer else src, peerKnown := true, reorder := calls.1 } now
      (r.1, calls.2.map .drain ++ r.2) := by
  cases pkt with
  | none => cases h
  | some pkt =>
      have harr : audioArrival (some pkt) = (rtpParse (pkt.take rtpRxCap)).bind fun h =>
          if h.payloadType = rtpPtAudio then some (h.seq, h.payload) else none := rfl
      rw [harr] at h
      cases hp : rtpParse (pkt.take rtpRxCap) with
      | none => simp [hp] at h
      | some hdr =>
          have hlen : ¬(pkt.take rtpRxCap).length = 0 := by
            intro hzero
            unfold rtpParse at hp
            rw [if_pos (by rw [hzero]; decide)] at hp
            cases hp
          rw [hp, Option.bind_some] at h
          by_cases htype : hdr.payloadType = rtpPtAudio
          · rw [if_pos htype] at h
            cases h
            simp only [handleAudio, if_neg hlen, hp, htype, ne_eq, not_true_eq_false, if_false,
              anchorIfNeeded]
          · rw [if_neg htype] at h
            cases h

/-- A datagram on the control socket asks for nothing. -/
theorem handleControl_asksNot (rx : RtpRx) (pkt : Option Bytes) :
    (∀ fd dst req, RxAction.sendto fd dst req ∉ (handleControl rx pkt).2) ∧
      rx.SameThrottle (handleControl rx pkt).1 := by
  unfold handleControl
  dsimp only
  repeat' split
  all_goals exact ⟨by simp, rfl, rfl, rfl⟩

/-- **What `maybe_request_resend` can do**: nothing, or ask for the gap at the front and remember that it
has. -/
theorem maybeRequestResend_cases (io : RtpIo) (rx : RtpRx) (now : BitVec 32) :
    (maybeRequestResend io rx now = (rx, []) ∧
        (rx.peerKnown = true → 0 ≤ io.controlFd → ∀ first count,
          rtpReorderGap rx.reorder = some (first, count) → rx.Throttles first now)) ∨
      ∃ first count, rtpReorderGap rx.reorder = some (first, count) ∧ ¬rx.Throttles first now ∧
        maybeRequestResend io rx now
          = ({ rx with resendFirst := first, resendTick := now, resendValid := true },
            [.sendto io.controlFd { rx.peer with port := BitVec.ofInt 16 io.clientControlPort }
              (rtpResendBuild first count)]) := by
  unfold maybeRequestResend
  by_cases hoff : rx.peerKnown = false ∨ io.controlFd < 0
  · rw [if_pos hoff]
    refine .inl ⟨rfl, fun hpeer hfd => ?_⟩
    rcases hoff with h | h
    · rw [hpeer] at h
      cases h
    · omega
  rw [if_neg hoff]
  cases hgap : rtpReorderGap rx.reorder with
  | none => exact .inl ⟨rfl, fun _ _ first count h => nomatch h⟩
  | some gap =>
      obtain ⟨first, count⟩ := gap
      dsimp only
      by_cases hrecent : rx.Throttles first now
      · have hcond : rx.resendValid = true ∧ first = rx.resendFirst ∧
            now - rx.resendTick < resendMinIntervalTicks := hrecent
        rw [if_pos hcond]
        refine .inl ⟨rfl, fun _ _ first' count' h => ?_⟩
        cases h
        exact hrecent
      · have hcond : ¬(rx.resendValid = true ∧ first = rx.resendFirst ∧
            now - rx.resendTick < resendMinIntervalTicks) := hrecent
        rw [if_neg hcond]
        exact .inr ⟨first, count, rfl, hrecent, rfl⟩

/-- **What a datagram can do** to the throttle. -/
theorem exec_asks (io : RtpIo) (rx : RtpRx) (d : Datagram) :
    AsksNot io rx (rx.exec io d.event).1 d (rx.exec io d.event).2 ∨
      ∃ first count, AsksFor rx (rx.exec io d.event).1 d (rx.exec io d.event).2 first count := by
  obtain ⟨time, socket, pkt⟩ := d
  cases socket with
  | control =>
      obtain ⟨hsilent, hsame⟩ := handleControl_asksNot rx pkt
      refine .inl ⟨hsilent, hsame, ?_⟩
      rintro ⟨src, hsocket, -⟩
      cases hsocket
  | audio src =>
      cases harr : audioArrival pkt with
      | none =>
          have hdrop : (rx.exec io (Datagram.event ⟨time, .audio src, pkt⟩)) = (rx, []) := by
            rcases handleAudio_cases io rx pkt src (BitVec.ofNat 32 time) with ⟨-, h⟩ | ⟨_, _, h, -⟩
            · exact h
            · rw [harr] at h
              cases h
          rw [hdrop]
          refine .inl ⟨fun _ _ _ => List.not_mem_nil, ⟨rfl, rfl, rfl⟩, ?_⟩
          rintro ⟨src', -, haudio⟩
          simp [harr] at haudio
      | some arrival =>
          obtain ⟨seq, payload⟩ := arrival
          have hexec : rx.exec io (Datagram.event ⟨time, .audio src, pkt⟩) = _ :=
            handleAudio_eq io rx harr src (BitVec.ofNat 32 time)
          dsimp only at hexec
          rw [hexec]
          rcases maybeRequestResend_cases io
            { rx with
              peer := if rx.peerKnown then rx.peer else src, peerKnown := true
              reorder := (insertAndDrain (anchorIfNeeded rx.reorder seq) seq payload).1 }
            (BitVec.ofNat 32 time) with ⟨hrun, hthrottles⟩ | ⟨first, count, hgap, hunthrottled, hrun⟩
          · rw [hrun]
            refine .inl ⟨?_, ⟨rfl, rfl, rfl⟩, fun _ hfd => hthrottles rfl hfd⟩
            intro fd dst req
            rw [List.append_nil]
            exact sendto_notMem_map_drain _ fd dst req
          · rw [hrun]
            refine .inr ⟨first, count, hgap, fun fd dst req hmem => ?_, ?_, hunthrottled, rfl, rfl, rfl⟩
            · rcases List.mem_append.mp hmem with h | h
              · exact absurd h (sendto_notMem_map_drain _ fd dst req)
              · cases List.mem_singleton.mp h
                rfl
            · exact ⟨_, _, _, List.mem_append_right _ List.mem_cons_self⟩

/-! ## A run -/

section Run

variable (io : RtpIo) (rx : RtpRx) (A : ℤ)

/-- The statics behind some datagrams. -/
def RtpRx.behind (ds : List Datagram) : RtpRx :=
  (runOps (RtpRx.exec io) rx (ds.map Datagram.event)).1

/-- The number that is due behind them, where `A` is the first: each call plays one, or conceals it. -/
def numberDue (ds : List Datagram) : ℤ :=
  A + (drainsOf (runOps (RtpRx.exec io) rx (ds.map Datagram.event)).2.flatten).length

/-- Behind `ds`, the datagram `d` leads to the request `req`. -/
def Asks (ds : List Datagram) (d : Datagram) (req : Bytes) : Prop :=
  ∃ fd dst, RxAction.sendto fd dst req ∈ ((rx.behind io ds).exec io d.event).2

variable {io rx A}

/-- Behind one datagram more the statics are those that handling it makes. -/
theorem RtpRx.behind_concat (ds : List Datagram) (d : Datagram) :
    rx.behind io (ds ++ [d]) = ((rx.behind io ds).exec io d.event).1 := by
  unfold RtpRx.behind
  rw [List.map_append, List.map_singleton, runOps_concat]

/-- The number due does not go back. -/
theorem numberDue_le_concat (ds : List Datagram) (d : Datagram) :
    numberDue io rx A ds ≤ numberDue io rx A (ds ++ [d]) := by
  unfold numberDue
  rw [List.map_append, List.map_singleton, runOps_concat, List.flatten_append, drainsOf_append,
    List.length_append]
  omega

/-- Numbers come up in their order. -/
theorem numberDue_mono {ds ds' : List Datagram} (h : ds <+: ds') :
    numberDue io rx A ds ≤ numberDue io rx A ds' := by
  obtain ⟨more, rfl⟩ := h
  induction more using List.reverseRecOn with
  | nil => rw [List.append_nil]
  | append_singleton more d ih =>
      rw [← List.append_assoc]
      exact ih.trans (numberDue_le_concat _ d)

/-- One of the datagrams behind which one more comes. -/
theorem split_concat {α : Type*} {p p' s' : List α} {d d' : α} (h : p ++ [d] = p' ++ d' :: s') :
    (p' = p ∧ d' = d) ∨ ∃ s, p = p' ++ d' :: s := by
  rcases List.eq_nil_or_concat s' with rfl | ⟨s, e, rfl⟩
  · obtain ⟨hp, hd⟩ := List.append_inj' h rfl
    exact .inl ⟨hp.symm, (List.cons.inj hd).1.symm⟩
  · rw [List.concat_eq_append, ← List.cons_append, ← List.append_assoc] at h
    exact .inr ⟨s, (List.append_inj' h rfl).1⟩

/-- **The invariant** of the throttle: it stands for the last request. The requests for the gap that is
open are not younger than its tick. -/
structure Paced (io : RtpIo) (rx : RtpRx) (A : ℤ) (p : List Datagram) : Prop where
  recent : ∀ p' d' s' req, p = p' ++ d' :: s' → Asks io rx p' d' req →
    numberDue io rx A (p' ++ [d']) = numberDue io rx A p →
    (rx.behind io p).resendValid = true ∧
      (rx.behind io p).resendFirst = serial 16 (numberDue io rx A p) ∧
      ∃ d ∈ p, (rx.behind io p).resendTick = BitVec.ofNat 32 d.time ∧ d'.time ≤ d.time
  last : (rx.behind io p).resendValid = true → ∃ p' d' s' req, p = p' ++ d' :: s' ∧ Asks io rx p' d' req ∧
    (rx.behind io p).resendFirst = serial 16 (numberDue io rx A (p' ++ [d'])) ∧
    (rx.behind io p).resendTick = BitVec.ofNat 32 d'.time

/-- Nothing has been asked for yet. -/
theorem paced_nil (h : rx.resendValid = false) : Paced io rx A [] where
  recent p' d' s' req hsplit := by simp at hsplit
  last hvalid := by
    have hno : (rx.behind io []).resendValid = rx.resendValid := rfl
    rw [hno, h] at hvalid
    cases hvalid

/-- **Step lemma**: one more datagram keeps the requests apart in time. -/
theorem Paced.concat {p : List Datagram} {d : Datagram} (h : Paced io rx A p)
    (htime : ∀ d' ∈ p, d'.time ≤ d.time)
    (hgap : ∀ first count, rtpReorderGap (rx.behind io (p ++ [d])).reorder = some (first, count) →
      first = serial 16 (numberDue io rx A (p ++ [d]))) : Paced io rx A (p ++ [d]) := by
  have hle : numberDue io rx A p ≤ numberDue io rx A (p ++ [d]) := numberDue_le_concat p d
  rw [RtpRx.behind_concat] at hgap
  rcases exec_asks io (rx.behind io p) d with hnot | ⟨first, count, hfor⟩
  · obtain ⟨hvalid, hfirst, htick⟩ := hnot.same
    constructor
    · intro p' d' s' req hsplit hasks hsame
      rcases split_concat hsplit with ⟨rfl, rfl⟩ | ⟨s, rfl⟩
      · obtain ⟨fd, dst, hmem⟩ := hasks
        exact absurd hmem (hnot.silent fd dst req)
      · -- no number has come up since that request
        have hprefix : p' ++ [d'] <+: p' ++ d' :: s := ⟨s, by simp⟩
        have hmono : numberDue io rx A (p' ++ [d']) ≤ numberDue io rx A (p' ++ d' :: s) :=
          numberDue_mono hprefix
        have hstays : numberDue io rx A (p' ++ d' :: s ++ [d]) = numberDue io rx A (p' ++ d' :: s) := by
          omega
        obtain ⟨hv, hf, x, hx, ht, hxle⟩ := h.recent p' d' s req rfl hasks (by omega)
        rw [RtpRx.behind_concat, hvalid, hfirst, htick, hstays]
        exact ⟨hv, hf, x, List.mem_append_left _ hx, ht, hxle⟩
    · intro hv
      rw [RtpRx.behind_concat, hvalid] at hv
      obtain ⟨p', d', s', req, rfl, hasks, hf, ht⟩ := h.last hv
      refine ⟨p', d', s' ++ [d], req, by simp, hasks, ?_, ?_⟩
      · rw [RtpRx.behind_concat, hfirst, hf]
      · rw [RtpRx.behind_concat, htick, ht]
  · have hnumber := hgap first count hfor.gap
    constructor
    · intro p' d' s' req hsplit _ _
      rw [RtpRx.behind_concat]
      refine ⟨hfor.valid, hfor.first_eq.trans hnumber, d, by simp, hfor.tick, ?_⟩
      rcases split_concat hsplit with ⟨-, rfl⟩ | ⟨s, rfl⟩
      · exact le_rfl
      · exact htime d' (by simp)
    · intro _
      obtain ⟨fd, dst, req, hmem⟩ := hfor.asked
      rw [RtpRx.behind_concat]
      exact ⟨p, d, [], req, rfl, ⟨fd, dst, hmem⟩, hfor.first_eq.trans hnumber, hfor.tick⟩

/-! ## The gap behind a run -/

/-- The buffer holds the packet with this number. -/
def RtpReorder.Has (rb : RtpReorder) (seq : BitVec 16) : Prop :=
  (rb.slots (rb.slotIdx seq)).valid = true ∧ (rb.slots (rb.slotIdx seq)).seq = seq

/-- The packets from `E` on, `count` of them, are missing in front of one of the stream. -/
structure MissingFrom (arrived : ℤ → Prop) (rb : RtpReorder) (E : ℤ) (count : ℕ) : Prop where
  pos : 1 ≤ count
  missing : ∀ i < count, ¬rb.Has (serial 16 (E + i))
  held : rb.Has (serial 16 (E + count))
  arrived : arrived (E + count)

variable {payload : ℤ → Bytes} {arrived : ℤ → Prop}

/-- What is reported missing behind a run. -/
theorem Follows.missingFrom {n : ℕ} {rb : RtpReorder} (h : Follows payload arrived A n rb)
    {first count : BitVec 16} (hgap : rtpReorderGap rb = some (first, count)) :
    first = serial 16 (A + n) ∧ MissingFrom arrived rb (A + n) count.toNat := by
  obtain ⟨b, H, hR, hholds, hcursor, -⟩ := h
  have hopen : ¬b.IsEmpty ∧ b.held b.cursor = none := by
    by_contra hno
    rw [hR.gap_eq_none (by tauto)] at hgap
    cases hgap
  obtain ⟨k, hpos, hlt, hreport, hmiss, hheld⟩ := hR.gap_eq_some hopen.1 hopen.2
  have hat : b.cursor = A + n := hcursor (hR.started_of_not_isEmpty hopen.1)
  have hwindow := hR.window_le
  rw [hreport, Option.some.injEq, Prod.mk.injEq] at hgap
  obtain ⟨rfl, rfl⟩ := hgap
  have hcount : (BitVec.ofNat 16 k).toNat = k := by
    rw [BitVec.toNat_ofNat, Nat.mod_eq_of_lt (by omega)]
  -- within the window the slots say what is held
  have hhas : ∀ i : ℕ, i < b.window → (rb.Has (serial 16 (b.cursor + i)) ↔ b.held (b.cursor + i) ≠ none) := by
    intro i hi
    unfold RtpReorder.Has
    rw [hR.slotIdx_serial]
    exact hR.held_iff (by omega) (by omega)
  rw [hcount, ← hat]
  refine ⟨rfl, hpos, fun i hi hcontra => (hhas i (by omega)).mp hcontra (hmiss i hi),
    (hhas k hlt).mpr hheld, ?_⟩
  obtain ⟨q, hq⟩ := Option.ne_none_iff_exists'.mp hheld
  exact (hholds _ q hq).2

/-- Behind a run, the reorder buffer is that of the run of its own. -/
theorem RtpRx.reorder_behind (p : List Datagram) :
    (rx.behind io p).reorder = (runOps RxEvent.feed rx.reorder (p.map Datagram.event)).1 :=
  congrArg Prod.fst (runOps_feed io rx (p.map Datagram.event))

/-- The buffer behind the first of the datagrams. -/
theorem RtpRx.follows_behind (io : RtpIo) {ds : List Datagram}
    (h0 : Follows payload (Arrived payload A rx.reorder (ds.map Datagram.event)) A 0 rx.reorder)
    (hlen : ∀ E, ¬((payload E).length = 0 ∨ rtpReorderMaxPkt < (payload E).length))
    (hds : Numbered payload A rx.reorder (ds.map Datagram.event)) {p : List Datagram} (hp : p <+: ds) :
    ∃ n : ℕ, numberDue io rx A p = A + n ∧
      Follows payload (Arrived payload A rx.reorder (ds.map Datagram.event)) A n
        (rx.behind io p).reorder := by
  obtain ⟨-, hfollows⟩ := hds.run h0 hlen (p.map Datagram.event) (hp.map _)
  rw [rx.reorder_behind]
  refine ⟨_, ?_, hfollows⟩
  unfold numberDue
  rw [drainsOf_run]

/-- **Run lemma**: the throttle stands for the last request all along. -/
theorem Paced.run (io : RtpIo) {ds : List Datagram} (hfresh : rx.resendValid = false)
    (h0 : Follows payload (Arrived payload A rx.reorder (ds.map Datagram.event)) A 0 rx.reorder)
    (hlen : ∀ E, ¬((payload E).length = 0 ∨ rtpReorderMaxPkt < (payload E).length))
    (hds : Numbered payload A rx.reorder (ds.map Datagram.event))
    (htime : (ds.map Datagram.time).Pairwise (· ≤ ·)) (p : List Datagram) (hp : p <+: ds) :
    Paced io rx A p := by
  induction p using List.reverseRecOn with
  | nil => exact paced_nil hfresh
  | append_singleton p d ih =>
      refine (ih ((List.prefix_append p [d]).trans hp)).concat ?_ ?_
      · obtain ⟨s, rfl⟩ := hp
        rw [List.map_append, List.map_append, List.append_assoc] at htime
        intro d' hd'
        exact (List.pairwise_append.mp htime).2.2 _ (List.mem_map_of_mem hd') _ (by simp)
      · intro first count hgap
        obtain ⟨n, hdue, hfollows⟩ := rx.follows_behind io h0 hlen hds hp
        rw [hdue]
        exact (hfollows.missingFrom hgap).1

/-- The age of a request, in the ticks of the task. -/
theorem resendMinIntervalTicks_lt_iff {t t' : ℕ} (hle : t ≤ t') :
    BitVec.ofNat 32 t' - BitVec.ofNat 32 t < resendMinIntervalTicks ↔ (t' - t) % 2 ^ 32 < 30 := by
  rw [ofNat_sub_ofNat hle, BitVec.lt_def, BitVec.toNat_ofNat]
  exact Iff.rfl

end Run

/-! ## The requests of a run -/

/-- **Gaps are asked for again, and not too often.** For every reorder buffer, every stream of packets,
numbered from `A` on, and every run in time in which datagrams of this stream arrive, lost, repeated and in
any order, on either socket, as far as 16 bits tell their numbers apart. A request that a datagram leads to
starts at the number that is due behind it and covers exactly the packets missing in front of one that has
arrived and is held; every earlier request while this number was due is at least 30 ticks old. Conversely,
with a control socket, an audio packet never leaves a gap behind for whose first number, in 16 bits, no
request was sent in the last 30 ticks, counted modulo `2 ^ 32`. -/
theorem rtpRx_resend_paced (io : RtpIo) (rx : RtpRx) (slots : ℕ → RtpReorderSlot) (e : ℕ) (he : e ≤ 15)
    (hold : BitVec 16) (hrx : rx.reorder = rtpReorderInit slots (BitVec.ofNat 16 (2 ^ e)) hold)
    (hfresh : rx.resendValid = false) (payload : ℤ → Bytes)
    (hlen : ∀ E, ¬((payload E).length = 0 ∨ rtpReorderMaxPkt < (payload E).length)) (A : ℤ)
    (ds : List Datagram) (hds : Numbered payload A rx.reorder (ds.map Datagram.event))
    (htime : (ds.map Datagram.time).Pairwise (· ≤ ·)) (p : List Datagram) (d : Datagram)
    (s : List Datagram) (hsplit : ds = p ++ d :: s) :
    (∀ req, Asks io rx p d req → ∃ count : BitVec 16,
      req = rtpResendBuild (serial 16 (numberDue io rx A (p ++ [d]))) count ∧
        MissingFrom (Arrived payload A rx.reorder (ds.map Datagram.event))
          (rx.behind io (p ++ [d])).reorder (numberDue io rx A (p ++ [d])) count.toNat ∧
        ∀ p' d' s' req', p = p' ++ d' :: s' → Asks io rx p' d' req' →
          numberDue io rx A (p' ++ [d']) = numberDue io rx A (p ++ [d]) → d'.time + 30 ≤ d.time) ∧
      (d.IsAudio → 0 ≤ io.controlFd →
        (rtpReorderGap (rx.behind io (p ++ [d])).reorder).isSome = true →
        ∃ p' d' s' req, p ++ [d] = p' ++ d' :: s' ∧ Asks io rx p' d' req ∧
          serial 16 (numberDue io rx A (p' ++ [d'])) = serial 16 (numberDue io rx A (p ++ [d])) ∧
          (d.time - d'.time) % 2 ^ 32 < 30) := by
  have h0 : Follows payload (Arrived payload A rx.reorder (ds.map Datagram.event)) A 0 rx.reorder := by
    rw [hrx]
    exact follows_init slots he hold
  have hwhole : p ++ [d] <+: ds := ⟨s, by rw [hsplit, List.append_assoc, List.singleton_append]⟩
  have hpaced := Paced.run io hfresh h0 hlen hds htime p ((List.prefix_append p [d]).trans hwhole)
  obtain ⟨n, hdue, hfollows⟩ := rx.follows_behind io h0 hlen hds hwhole
  have hearlier : ∀ d' ∈ p, d'.time ≤ d.time := by
    rw [hsplit, List.map_append] at htime
    intro d' hd'
    exact (List.pairwise_append.mp htime).2.2 _ (List.mem_map_of_mem hd') _ (by simp)
  have hmono : numberDue io rx A p ≤ numberDue io rx A (p ++ [d]) := numberDue_le_concat p d
  rw [RtpRx.behind_concat] at hfollows ⊢
  rcases exec_asks io (rx.behind io p) d with hnot | ⟨first, count, hfor⟩
  · refine ⟨fun req ⟨fd, dst, hmem⟩ => absurd hmem (hnot.silent fd dst req), fun haudio hfd hgap => ?_⟩
    -- the gap has been asked for by the last request
    obtain ⟨⟨first, count⟩, hgap⟩ := Option.isSome_iff_exists.mp hgap
    obtain ⟨hvalid, hfirst, hrecent⟩ := hnot.throttles haudio hfd first count hgap
    obtain ⟨p', d', s', req, rfl, hasks, hlast, htick⟩ := hpaced.last hvalid
    refine ⟨p', d', s' ++ [d], req, by simp, hasks, ?_, ?_⟩
    · rw [← hlast, ← hfirst, (hfollows.missingFrom hgap).1, hdue]
    · rw [htick] at hrecent
      exact (resendMinIntervalTicks_lt_iff (hearlier d' (by simp))).mp hrecent
  · obtain ⟨hnumber, hmissing⟩ := hfollows.missingFrom hfor.gap
    rw [← hdue] at hnumber hmissing
    constructor
    · rintro req ⟨fd, dst, hmem⟩
      refine ⟨count, ?_, hmissing, ?_⟩
      · rw [hfor.request fd dst req hmem, hnumber]
      intro p' d' s' req' hp hasks hsame
      -- the throttle is not older than that request
      have hcame : numberDue io rx A (p' ++ [d']) ≤ numberDue io rx A p :=
        numberDue_mono ⟨s', by rw [hp, List.append_assoc, List.singleton_append]⟩
      have hstays : numberDue io rx A p = numberDue io rx A (p ++ [d]) := by omega
      obtain ⟨hvalid, hfirst, x, hx, htick, hle⟩ := hpaced.recent p' d' s' req' hp hasks (by omega)
      have hold : ¬(d.time - x.time) % 2 ^ 32 < 30 := by
        intro hrecent
        refine hfor.unthrottled ⟨hvalid, ?_, ?_⟩
        · rw [hnumber, hfirst, hstays]
        · rw [htick]
          exact (resendMinIntervalTicks_lt_iff (hearlier x hx)).mpr hrecent
      have hxle := hearlier x hx
      omega
    · intro _ _ _
      obtain ⟨fd, dst, req, hmem⟩ := hfor.asked
      exact ⟨p, d, [], req, rfl, ⟨fd, dst, hmem⟩, rfl, by simp⟩

/-- A packet of one byte on the audio socket. -/
def oneByteDatagram (time : ℕ) (seq : BitVec 16) : Datagram :=
  ⟨time, .audio ⟨0x0100a8c0, 6000⟩, some (rtpAudioPacket seq [1])⟩

/-- It is accepted with its number and its payload. -/
theorem arrival_oneByteDatagram (time : ℕ) (seq : BitVec 16) :
    (oneByteDatagram time seq).event.arrival = some (seq, some [1]) :=
  audioArrival_rtpAudioPacket seq [1] (by decide) (by decide)

/-- The buffer that has played packet 7, and the one that holds packet 9 behind it. -/
def reorderPlayed7 : RtpReorder :=
  (rtpReorderPop (insertAudio rtpRxEmpty.reorder 7 (some [1])) rtpReorderMaxPkt).1

def reorderHolding9 : RtpReorder := insertAudio reorderPlayed7 9 (some [1])

/-- Packet 7 is played at once. -/
theorem feed_oneByteDatagram7 :
    runOps RxEvent.feed rtpRxEmpty.reorder [(oneByteDatagram 100 7).event]
      = (reorderPlayed7, [[.decode 7 [1]]]) := by
  have hpop : rtpReorderPop (insertAudio rtpRxEmpty.reorder 7 (some [1])) rtpReorderMaxPkt
      = (reorderPlayed7, .ok [1] 7) := rfl
  have hempty : rtpReorderPop reorderPlayed7 rtpReorderMaxPkt = (reorderPlayed7, .empty) := rfl
  rw [runOps_cons, feed_of_arrival (arrival_oneByteDatagram 100 7) (by decide), insertAndDrain,
    drainDecode_ok hpop, drainDecode_stop (.inr hempty)]
  rfl

/-- Packet 9 overtakes packet 8: 8 is asked for. -/
theorem rtpRx_resend_paced_overtaken :
    ∃ p' d' s' req, [oneByteDatagram 100 7] ++ [oneByteDatagram 105 9] = p' ++ d' :: s' ∧
      Asks ⟨3, 4, 5, 6001, 6002⟩ rtpRxEmpty p' d' req ∧
      serial 16 (numberDue ⟨3, 4, 5, 6001, 6002⟩ rtpRxEmpty 7 (p' ++ [d']))
        = serial 16 (numberDue ⟨3, 4, 5, 6001, 6002⟩ rtpRxEmpty 7
            ([oneByteDatagram 100 7] ++ [oneByteDatagram 105 9])) ∧
      ((oneByteDatagram 105 9).time - d'.time) % 2 ^ 32 < 30 := by
  have hholding : (rtpRxEmpty.behind ⟨3, 4, 5, 6001, 6002⟩
      ([oneByteDatagram 100 7] ++ [oneByteDatagram 105 9])).reorder = reorderHolding9 := by
    rw [rtpRxEmpty.reorder_behind, List.map_append, List.map_singleton, List.map_singleton, runOps_concat,
      feed_oneByteDatagram7, feed_of_arrival (arrival_oneByteDatagram 105 9) (by decide)]
    exact congrArg Prod.fst (drainDecode_stop (.inl rfl))
  refine (rtpRx_resend_paced ⟨3, 4, 5, 6001, 6002⟩ rtpRxEmpty _ 3 (by decide) 2 rfl rfl (fun _ => [1])
    (fun _ => by decide) 7 [oneByteDatagram 100 7, oneByteDatagram 105 9] ?_ (by decide)
    [oneByteDatagram 100 7] (oneByteDatagram 105 9) [] rfl).2 ?_ (by decide) ?_
  · refine (Numbered.nil.concat (.inr ⟨7, arrival_oneByteDatagram 100 7, ?_⟩)).concat
      (.inr ⟨9, arrival_oneByteDatagram 105 9, ?_⟩)
    · rfl
    · rw [List.nil_append, feed_oneByteDatagram7]
      exact ⟨by decide, by decide⟩
  · exact ⟨⟨0x0100a8c0, 6000⟩, rfl, by decide⟩
  · rw [hholding]
    decide

end ConduitStream
