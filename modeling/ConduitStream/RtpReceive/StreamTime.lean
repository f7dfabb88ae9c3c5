import ConduitStream.RtpReceive.AlacFrame
import ConduitStream.RtpReceive.LossBurst

/-! # Stream time

A popped number is worth one frame length of playing time, whether its packet is decoded or concealed.
The RTP task is modelled here one step at a time, with the loops of `feed_pcm` and `feed_silence` cut at
their heads, since the PCM ring takes as little as it likes of what it is offered. What has been pushed
into the ring, what the current call still owes and what failed payloads should have contributed add up
to one frame length for every number the cursor has passed (`StreamInv`). So the stream time is
preserved exactly in the runs in which no payload fails (`streamTime_iff`): `decode_and_feed` feeds
nothing for one that does.

The steps make the calls of `drainDecode` (`StreamReached.refines`). -/

namespace ConduitStream

/-! ## The RTP task, one step at a time -/

/-- Where the RTP task is. -/
inductive StreamCtl
  /-- Between two datagrams. -/
  | idle
  /-- At the loop of `drain_decode`. -/
  | drain
  /-- At the loop of `feed_pcm`. -/
  | feedPcm (frames off : ℕ)
  /-- At the outer loop of `feed_silence`. -/
  | feedSilence (remaining : ℕ)
  /-- At its inner loop. -/
  | silenceChunk (remaining chunk off : ℕ)
  deriving DecidableEq, Repr

/-- The reorder buffer and the place of the task. The other fields observe the run: the datagrams
received, the calls `drain_decode` has made, the frames pushed into the PCM ring, the numbers the
cursor has passed, and the calls of `decode_and_feed` that returned without feeding. -/
structure StreamState where
  reorder : RtpReorder
  ctl : StreamCtl
  arrived : List RxEvent
  calls : List DrainAction
  pushed : ℕ
  advanced : ℕ
  failed : ℕ

/-- `raop_rtp_start`. -/
def StreamState.start (slots : ℕ → RtpReorderSlot) (window hold : BitVec 16) : StreamState :=
  ⟨rtpReorderInit slots window hold, .idle, [], [], 0, 0, 0⟩

/-- The number and the payload of a datagram, if its socket accepts it. -/
def RxEvent.arrival : RxEvent → Option (BitVec 16 × Option Bytes)
  | .audio pkt _ _ => audioArrival pkt
  | .control pkt => controlArrival pkt

/-- The reorder buffer before the insertion: an audio packet anchors it. -/
def RxEvent.anchor (rb : RtpReorder) (seq : BitVec 16) : RxEvent → RtpReorder
  | .audio .. => anchorIfNeeded rb seq
  | .control _ => rb

/-- The outside of one call of `decode_and_feed`: the earlier content of `s_plain`, the decryption, and
the decoder. -/
structure RtpCodec where
  sPlain : Bytes
  aesCbcDecrypt : Bytes → Option Bytes
  alacDecodeFrame : Bytes → BitVec 32 → BitVec 32

/-- `decode_and_feed` up to the feeding. -/
def RtpCodec.frames (o : RtpCodec) (numChannels : BitVec 8) (payload : Bytes) : Option ℕ :=
  decodeAndFeed o.aesCbcDecrypt o.alacDecodeFrame numChannels o.sPlain payload

namespace StreamState

/-- A pop leaves the buffer `rb` and leads to this call. -/
def popped (s : StreamState) (rb : RtpReorder) (call : DrainAction) : StreamState :=
  { s with
    reorder := rb
    calls := s.calls ++ [call]
    advanced := s.advanced + (seqDiff rb.next s.reorder.next).toNat }

/-- `decode_and_feed` passes these frames to `feed_pcm`, or returns before. -/
def decoded (s : StreamState) : Option ℕ → StreamState
  | some frames => { s with ctl := .feedPcm frames 0 }
  | none => { s with ctl := .drain, failed := s.failed + 1 }

/-- The ring takes `accepted` frames. -/
def play (s : StreamState) (accepted : ℕ) (ctl : StreamCtl) : StreamState :=
  { s with ctl := ctl, pushed := s.pushed + accepted }

end StreamState

/-- One step of the RTP task while `s_run` is set, with what comes of a payload restricted to
`allowed`. -/
inductive StreamStep (numChannels : BitVec 8) (frameLength : BitVec 16) (allowed : Option ℕ → Prop) :
    StreamState → StreamState → Prop
  /-- A datagram is dropped. -/
  | ignore {s : StreamState} {e : RxEvent} : s.ctl = .idle → e.arrival = none →
      StreamStep numChannels frameLength allowed s { s with arrived := s.arrived ++ [e] }
  /-- A datagram is inserted. -/
  | insert {s : StreamState} {e : RxEvent} {seq : BitVec 16} {payload : Option Bytes} :
      s.ctl = .idle → e.arrival = some (seq, payload) →
      StreamStep numChannels frameLength allowed s
        { s with
          reorder := insertAudio (e.anchor s.reorder seq) seq payload
          ctl := .drain
          arrived := s.arrived ++ [e] }
  | decode {s : StreamState} {rb : RtpReorder} {payload : Bytes} {seq : BitVec 16} (o : RtpCodec) :
      s.ctl = .drain → rtpReorderPop s.reorder rtpReorderMaxPkt = (rb, .ok payload seq) →
      allowed (o.frames numChannels payload) →
      StreamStep numChannels frameLength allowed s
        ((s.popped rb (.decode seq payload)).decoded (o.frames numChannels payload))
  | conceal {s : StreamState} {rb : RtpReorder} :
      s.ctl = .drain → rtpReorderPop s.reorder rtpReorderMaxPkt = (rb, .conceal) →
      StreamStep numChannels frameLength allowed s
        { s.popped rb .conceal with ctl := .feedSilence frameLength.toNat }
  /-- The pop answers WAIT or EMPTY. -/
  | stop {s : StreamState} {rb : RtpReorder} : s.ctl = .drain →
      rtpReorderPop s.reorder rtpReorderMaxPkt = (rb, .wait) ∨
        rtpReorderPop s.reorder rtpReorderMaxPkt = (rb, .empty) →
      StreamStep numChannels frameLength allowed s { s with reorder := rb, ctl := .idle }
  /-- `off += audio_play_pcm(pcm + off * s_num_channels, frames - off)` -/
  | playPcm {s : StreamState} {frames off : ℕ} (accepted : ℕ) :
      s.ctl = .feedPcm frames off → off < frames → accepted ≤ frames - off →
      StreamStep numChannels frameLength allowed s (s.play accepted (.feedPcm frames (off + accepted)))
  | pcmFed {s : StreamState} {frames off : ℕ} : s.ctl = .feedPcm frames off → frames ≤ off →
      StreamStep numChannels frameLength allowed s { s with ctl := .drain }
  | chunk {s : StreamState} {remaining : ℕ} : s.ctl = .feedSilence remaining → 0 < remaining →
      StreamStep numChannels frameLength allowed s
        { s with ctl := .silenceChunk remaining (if 256 < remaining then 256 else remaining) 0 }
  /-- `off += audio_play_pcm(zeros, chunk - off)` -/
  | playSilence {s : StreamState} {remaining chunk off : ℕ} (accepted : ℕ) :
      s.ctl = .silenceChunk remaining chunk off → off < chunk → accepted ≤ chunk - off →
      StreamStep numChannels frameLength allowed s
        (s.play accepted (.silenceChunk remaining chunk (off + accepted)))
  | chunkFed {s : StreamState} {remaining chunk off : ℕ} :
      s.ctl = .silenceChunk remaining chunk off → chunk ≤ off →
      StreamStep numChannels frameLength allowed s { s with ctl := .feedSilence (remaining - chunk) }
  | silenceFed {s : StreamState} : s.ctl = .feedSilence 0 →
      StreamStep numChannels frameLength allowed s { s with ctl := .drain }

/-- The states reached from `s₀` by steps of the RTP task. -/
inductive StreamReached (numChannels : BitVec 8) (frameLength : BitVec 16)
    (allowed : Option ℕ → Prop) (s₀ : StreamState) : StreamState → Prop
  | start : StreamReached numChannels frameLength allowed s₀ s₀
  | step {s s' : StreamState} : StreamReached numChannels frameLength allowed s₀ s →
      StreamStep numChannels frameLength allowed s s' →
      StreamReached numChannels frameLength allowed s₀ s'

/-! ## The steps make the calls of `drain_decode` -/

/-- A pop that takes a packet or conceals one moves the cursor on by one. -/
theorem seqDiff_of_pop {rb rb' : RtpReorder} {cap : ℕ} {r : RtpPop}
    (h : rtpReorderPop rb cap = (rb', r)) (hr : r ≠ .wait ∧ r ≠ .empty) :
    (seqDiff rb'.next rb.next).toNat = 1 := by
  have hnext : rb'.next = rb.next + 1 := by
    unfold rtpReorderPop at h
    dsimp only at h
    split_ifs at h <;> obtain ⟨rfl, rfl⟩ := Prod.mk.inj h
    · exact absurd rfl hr.2
    · rfl
    · rfl
    · exact absurd rfl hr.1
  unfold seqDiff
  rw [hnext, show rb.next + 1 - rb.next = 1 by bv_omega]
  rfl

/-- A pop that does neither changes nothing. -/
theorem eq_of_pop {rb rb' : RtpReorder} {cap : ℕ}
    (h : rtpReorderPop rb cap = (rb', .wait) ∨ rtpReorderPop rb cap = (rb', .empty)) : rb' = rb := by
  unfold rtpReorderPop at h
  dsimp only at h
  split_ifs at h <;> rcases h with h | h <;> obtain ⟨rfl, hr⟩ := Prod.mk.inj h <;>
    first | rfl | cases hr

/-- Serving a datagram drops it, or inserts its payload and drains. -/
theorem exec_cases (io : RtpIo) (rx : RtpRx) (e : RxEvent) :
    (e.arrival = none ∧ rx.exec io e = (rx, [])) ∨
      ∃ seq payload, e.arrival = some (seq, payload) ∧
        (rx.exec io e).1.reorder = (insertAndDrain (e.anchor rx.reorder seq) seq payload).1 ∧
        drainsOf (rx.exec io e).2 = (insertAndDrain (e.anchor rx.reorder seq) seq payload).2 := by
  cases e with
  | audio pkt src now => exact handleAudio_cases io rx pkt src now
  | control pkt => exact handleControl_cases rx pkt

variable {numChannels : BitVec 8} {frameLength : BitVec 16} {allowed : Option ℕ → Prop}

/-- The receive path and the RTP task have received the same datagrams: what the task still has to do
is what `drain_decode` does from here. -/
structure Draining (s : StreamState) (rb : RtpReorder) (calls : List DrainAction) : Prop where
  reorder : (drainDecode s.reorder).1 = rb
  calls : s.calls ++ (drainDecode s.reorder).2 = calls
  idle : s.ctl = .idle → drainDecode s.reorder = (s.reorder, [])

/-- A step of the feeding loops does not concern the buffer. -/
theorem Draining.feeding {s s' : StreamState} {rb : RtpReorder} {calls : List DrainAction}
    (h : Draining s rb calls) (hreorder : s'.reorder = s.reorder) (hcalls : s'.calls = s.calls)
    (hidle : s'.ctl ≠ .idle) : Draining s' rb calls := by
  refine ⟨?_, ?_, fun hctl => absurd hctl hidle⟩
  · rw [hreorder]
    exact h.reorder
  · rw [hcalls, hreorder]
    exact h.calls

/-- A pop is the next call of `drain_decode`. -/
theorem Draining.popped {s s' : StreamState} {rb rb' : RtpReorder} {calls : List DrainAction}
    {call : DrainAction} (h : Draining s rb calls)
    (hdrain : drainDecode s.reorder = ((drainDecode rb').1, call :: (drainDecode rb').2))
    (hreorder : s'.reorder = rb') (hcalls : s'.calls = s.calls ++ [call]) (hidle : s'.ctl ≠ .idle) :
    Draining s' rb calls := by
  obtain ⟨hr, hc, -⟩ := h
  rw [hdrain] at hr hc
  refine ⟨?_, ?_, fun hctl => absurd hctl hidle⟩
  · rw [hreorder]
    exact hr
  · rw [hcalls, hreorder, List.append_assoc]
    exact hc

/-- **Refinement**: the task makes the calls that the receive path makes on the datagrams received, and
between two datagrams it has made all of them. -/
theorem StreamReached.refines (io : RtpIo) {s₀ s : StreamState} {rx₀ : RtpRx}
    (hstart : Draining s₀ rx₀.reorder []) (harrived : s₀.arrived = [])
    (h : StreamReached numChannels frameLength allowed s₀ s) :
    Draining s (runOps (RtpRx.exec io) rx₀ s.arrived).1.reorder
      (drainsOf (runOps (RtpRx.exec io) rx₀ s.arrived).2.flatten) := by
  induction h with
  | start =>
      rw [harrived]
      exact hstart
  | @step s s' _ hstep ih =>
      cases hstep with
      | @ignore e hctl hnone =>
          obtain ⟨-, hexec⟩ | ⟨seq, payload, hsome, -⟩ :=
            exec_cases io (runOps (RtpRx.exec io) rx₀ s.arrived).1 e
          · rw [runOps_concat, hexec]
            refine ⟨ih.reorder, ?_, ih.idle⟩
            simpa using ih.calls
          · rw [hnone] at hsome
            cases hsome
      | @insert e seq payload hctl hsome =>
          -- between two datagrams the buffers are the same
          have hsettled := ih.idle hctl
          have hreorder := ih.reorder
          have hcalls := ih.calls
          rw [hsettled] at hreorder hcalls
          obtain ⟨hnone, -⟩ | ⟨seq', payload', hsome', hrx, hdrains⟩ :=
            exec_cases io (runOps (RtpRx.exec io) rx₀ s.arrived).1 e
          · rw [hnone] at hsome
            cases hsome
          · rw [hsome, Option.some.injEq, Prod.mk.injEq] at hsome'
            obtain ⟨rfl, rfl⟩ := hsome'
            rw [← hreorder] at hrx hdrains
            unfold insertAndDrain at hrx hdrains
            rw [runOps_concat]
            refine ⟨hrx.symm, ?_, nofun⟩
            rw [List.flatten_append, drainsOf_append, ← hcalls, List.append_nil]
            simpa using hdrains.symm
      | @decode rb payload seq o hctl hpop hall =>
          cases o.frames numChannels payload with
          | some frames => exact ih.popped (drainDecode_ok hpop) rfl rfl nofun
          | none => exact ih.popped (drainDecode_ok hpop) rfl rfl nofun
      | conceal hctl hpop => exact ih.popped (drainDecode_conceal hpop) rfl rfl nofun
      | stop hctl hpop =>
          obtain rfl := eq_of_pop hpop
          exact ⟨ih.reorder, ih.calls, fun _ => drainDecode_stop hpop⟩
      | playPcm accepted => exact ih.feeding rfl rfl nofun
      | pcmFed => exact ih.feeding rfl rfl nofun
      | chunk => exact ih.feeding rfl rfl nofun
      | playSilence accepted => exact ih.feeding rfl rfl nofun
      | chunkFed => exact ih.feeding rfl rfl nofun
      | silenceFed => exact ih.feeding rfl rfl nofun

/-- Between two datagrams the task has done what the receive path does on the datagrams received. -/
theorem StreamReached.refines_idle (io : RtpIo) {slots : ℕ → RtpReorderSlot} {window hold : BitVec 16}
    {s : StreamState} {rx₀ : RtpRx} (hrx₀ : rx₀.reorder = rtpReorderInit slots window hold)
    (h : StreamReached numChannels frameLength allowed (.start slots window hold) s)
    (hctl : s.ctl = .idle) :
    s.reorder = (runOps (RtpRx.exec io) rx₀ s.arrived).1.reorder ∧
      s.calls = drainsOf (runOps (RtpRx.exec io) rx₀ s.arrived).2.flatten := by
  have hempty : drainDecode (rtpReorderInit slots window hold)
      = (rtpReorderInit slots window hold, []) :=
    drainDecode_stop (.inr (rtpReorderPop_empty (.inl rfl) _))
  have hstart : Draining (.start slots window hold) rx₀.reorder [] := by
    refine ⟨?_, ?_, fun _ => hempty⟩
    · rw [hrx₀]
      exact congrArg Prod.fst hempty
    · exact congrArg (·.2) hempty
  have hend := StreamReached.refines io hstart rfl h
  have hsettled := hend.idle hctl
  have hreorder := hend.reorder
  have hcalls := hend.calls
  rw [hsettled] at hreorder hcalls
  rw [List.append_nil] at hcalls
  exact ⟨hreorder, hcalls⟩

/-! ## The account of frames -/

/-- The frames the current call has still to feed. -/
def StreamCtl.owed : StreamCtl → ℕ
  | .idle | .drain => 0
  | .feedPcm frames off => frames - off
  | .feedSilence remaining => remaining
  | .silenceChunk remaining _ off => remaining - off

/-- The offsets stay within what is to be fed. -/
def StreamCtl.Within : StreamCtl → Prop
  | .feedPcm frames off => off ≤ frames
  | .silenceChunk remaining chunk off => off ≤ chunk ∧ chunk ≤ remaining
  | _ => True

/-- **The account**: every number the cursor has passed is one call, and worth one frame length, which
is in the ring, still to be fed, or lost to a payload that failed. -/
structure StreamInv (frameLength : BitVec 16) (s : StreamState) : Prop where
  within : s.ctl.Within
  calls : s.advanced = s.calls.length
  time : s.pushed + s.ctl.owed + frameLength.toNat * s.failed = frameLength.toNat * s.advanced

/-- What may come of a payload: one frame length, or nothing. -/
def wholeOrFailed (frameLength : BitVec 16) (r : Option ℕ) : Prop :=
  r = some frameLength.toNat ∨ r = none

/-- A pop books one frame length. -/
theorem StreamInv.popped {s s' : StreamState} {rb : RtpReorder} {call : DrainAction} {r : RtpPop}
    (h : StreamInv frameLength s) (hctl : s.ctl = .drain)
    (hpop : rtpReorderPop s.reorder rtpReorderMaxPkt = (rb, r)) (hr : r ≠ .wait ∧ r ≠ .empty)
    (hadvanced : s'.advanced = (s.popped rb call).advanced)
    (hcalls : s'.calls = (s.popped rb call).calls) (hwithin : s'.ctl.Within)
    (htime : s'.pushed + s'.ctl.owed + frameLength.toNat * s'.failed
      = s.pushed + frameLength.toNat * s.failed + frameLength.toNat) :
    StreamInv frameLength s' := by
  have hone : s'.advanced = s.advanced + 1 := by
    rw [hadvanced]
    show s.advanced + (seqDiff rb.next s.reorder.next).toNat = _
    rw [seqDiff_of_pop hpop hr]
  have hold := h.time
  rw [hctl] at hold
  refine ⟨hwithin, ?_, ?_⟩
  · rw [hone, hcalls, h.calls]
    show _ = (s.calls ++ [call]).length
    rw [List.length_append, List.length_singleton]
  · rw [hone, htime, Nat.mul_succ, ← hold]
    rfl

/-- **Step lemma**: every step of the task keeps the account of frames. -/
theorem StreamInv.step {s s' : StreamState} (h : StreamInv frameLength s)
    (hstep : StreamStep numChannels frameLength (wholeOrFailed frameLength) s s') :
    StreamInv frameLength s' := by
  -- a round of a feeding loop moves frames from what is owed to what is pushed
  have hfeed : ∀ {ctl : StreamCtl} {accepted : ℕ}, ctl.Within → accepted + ctl.owed = s.ctl.owed →
      StreamInv frameLength (s.play accepted ctl) := by
    intro ctl accepted hwithin howed
    refine ⟨hwithin, h.calls, ?_⟩
    have htime := h.time
    show s.pushed + accepted + ctl.owed + frameLength.toNat * s.failed = frameLength.toNat * s.advanced
    omega
  -- and so does leaving one
  have hleave : ∀ {ctl : StreamCtl}, ctl.Within → ctl.owed = s.ctl.owed →
      StreamInv frameLength { s with ctl := ctl } := fun hwithin howed =>
    ⟨hwithin, h.calls, by rw [← h.time, ← howed]⟩
  have hw := h.within
  cases hstep with
  | ignore hctl _ => exact ⟨hw, h.calls, h.time⟩
  | insert hctl _ =>
      refine ⟨trivial, h.calls, ?_⟩
      rw [← h.time, hctl]
      rfl
  | @decode rb payload seq o hctl hpop hall =>
      cases hframes : o.frames numChannels payload with
      | some frames =>
          rcases hall with hall | hall <;> rw [hframes] at hall <;> cases hall
          refine h.popped hctl hpop ⟨nofun, nofun⟩ rfl rfl (Nat.zero_le _) ?_
          show s.pushed + (frameLength.toNat - 0) + frameLength.toNat * s.failed = _
          omega
      | none =>
          refine h.popped hctl hpop ⟨nofun, nofun⟩ rfl rfl trivial ?_
          show s.pushed + 0 + frameLength.toNat * (s.failed + 1) = _
          rw [Nat.mul_succ]
          omega
  | conceal hctl hpop =>
      refine h.popped hctl hpop ⟨nofun, nofun⟩ rfl rfl trivial ?_
      show s.pushed + frameLength.toNat + frameLength.toNat * s.failed = _
      omega
  | stop hctl hpop =>
      refine ⟨trivial, h.calls, ?_⟩
      rw [← h.time, hctl]
      rfl
  | playPcm accepted hctl hlt hle =>
      rw [hctl] at hfeed hw
      exact hfeed (show _ + _ ≤ _ by omega) (show accepted + (_ - (_ + accepted)) = _ - _ by omega)
  | pcmFed hctl hle =>
      rw [hctl] at hleave
      exact hleave trivial (show 0 = _ - _ by omega)
  | @chunk remaining hctl hpos =>
      rw [hctl] at hleave
      refine hleave ⟨Nat.zero_le _, ?_⟩ rfl
      split <;> omega
  | playSilence accepted hctl hlt hle =>
      rw [hctl] at hfeed hw
      have := hw.2
      exact hfeed ⟨by omega, this⟩ (show accepted + (_ - (_ + accepted)) = _ - _ by omega)
  | @chunkFed remaining chunk off hctl hle =>
      rw [hctl] at hleave hw
      refine hleave trivial ?_
      show remaining - chunk = remaining - off
      rw [le_antisymm hw.1 hle]
  | silenceFed hctl =>
      rw [hctl] at hleave
      exact hleave trivial rfl

/-- **Run lemma**: the account holds in every state that a run reaches. -/
theorem StreamReached.account {slots : ℕ → RtpReorderSlot} {window hold : BitVec 16} {s : StreamState}
    (h : StreamReached numChannels frameLength (wholeOrFailed frameLength)
      (.start slots window hold) s) : StreamInv frameLength s := by
  induction h with
  | start => exact ⟨trivial, rfl, rfl⟩
  | step _ hstep ih => exact ih.step hstep

/-- Between two calls the account leaves only what failed payloads lack. -/
theorem StreamInv.time_iff {s : StreamState} (h : StreamInv frameLength s)
    (hctl : s.ctl = .idle ∨ s.ctl = .drain) :
    s.pushed = frameLength.toNat * s.advanced ↔ s.failed = 0 ∨ frameLength.toNat = 0 := by
  have howed : s.ctl.owed = 0 := by rcases hctl with hctl | hctl <;> rw [hctl] <;> rfl
  have htime := h.time
  rw [howed] at htime
  rw [or_comm, ← Nat.mul_eq_zero]
  omega

/-- In a run in which every payload decodes to a whole frame, none has failed. -/
theorem StreamReached.whole {s₀ s : StreamState} (hs₀ : s₀.failed = 0)
    (h : StreamReached numChannels frameLength (· = some frameLength.toNat) s₀ s) :
    StreamReached numChannels frameLength (wholeOrFailed frameLength) s₀ s ∧ s.failed = 0 := by
  induction h with
  | start => exact ⟨.start, hs₀⟩
  | step _ hstep ih =>
      obtain ⟨hreach, hfailed⟩ := ih
      cases hstep with
      | decode o hctl hpop hall =>
          refine ⟨hreach.step (.decode o hctl hpop (.inl hall)), ?_⟩
          rw [hall]
          exact hfailed
      | ignore hctl he => exact ⟨hreach.step (.ignore hctl he), hfailed⟩
      | insert hctl he => exact ⟨hreach.step (.insert hctl he), hfailed⟩
      | conceal hctl hpop => exact ⟨hreach.step (.conceal hctl hpop), hfailed⟩
      | stop hctl hpop => exact ⟨hreach.step (.stop hctl hpop), hfailed⟩
      | playPcm a hctl hlt hle => exact ⟨hreach.step (.playPcm a hctl hlt hle), hfailed⟩
      | pcmFed hctl hle => exact ⟨hreach.step (.pcmFed hctl hle), hfailed⟩
      | chunk hctl hpos => exact ⟨hreach.step (.chunk hctl hpos), hfailed⟩
      | playSilence a hctl hlt hle => exact ⟨hreach.step (.playSilence a hctl hlt hle), hfailed⟩
      | chunkFed hctl hle => exact ⟨hreach.step (.chunkFed hctl hle), hfailed⟩
      | silenceFed hctl => exact ⟨hreach.step (.silenceFed hctl), hfailed⟩

/-- **Stream time is preserved exactly in the runs in which no payload fails.** For every window, hold
and frame length, every run of the RTP task while `s_run` stays set, with any datagrams, any partial
writes to the PCM ring and every payload decoding to one frame length or failing: whenever the task is
at the loop of `drain_decode` or between two datagrams, the frames pushed are the frame length times
the numbers the cursor has passed since the anchor if and only if no payload has failed (or the frame
length is 0). In particular they are in every run in which each payload popped decodes. -/
theorem streamTime_iff (numChannels : BitVec 8) (frameLength : BitVec 16)
    (slots : ℕ → RtpReorderSlot) (window hold : BitVec 16) :
    (∀ s, StreamReached numChannels frameLength (· = some frameLength.toNat)
        (.start slots window hold) s →
      s.ctl = .idle ∨ s.ctl = .drain → s.pushed = frameLength.toNat * s.advanced) ∧
    ∀ s, StreamReached numChannels frameLength (wholeOrFailed frameLength)
        (.start slots window hold) s →
      s.ctl = .idle ∨ s.ctl = .drain →
      (s.pushed = frameLength.toNat * s.advanced ↔ s.failed = 0 ∨ frameLength.toNat = 0) := by
  refine ⟨fun s h hctl => ?_, fun s h hctl => h.account.time_iff hctl⟩
  obtain ⟨hreach, hfailed⟩ := h.whole rfl
  exact (hreach.account.time_iff hctl).mpr (.inl hfailed)

/-! ### A packet that is played, and one that is not -/

/-- A session of 352 samples, with a cipher that does nothing. -/
def sampleCodec : RtpCodec := ⟨List.replicate 2048 0, some, (AlacFile.mk 352 4).outsize⟩

/-- The task starts, and packet `0` arrives. -/
def streamFirst (payload : Bytes) : StreamState where
  reorder := insertAudio (rtpReorderAnchor (rtpReorderInit (fun _ => ⟨false, 0, 0, []⟩) 256 24) 0) 0
    (some payload)
  ctl := .drain
  arrived := [.audio (some (rtpAudioPacket 0 payload)) ⟨0x0100a8c0, 6000⟩ 0]
  calls := []
  pushed := 0
  advanced := 0
  failed := 0

/-- Behind the start, that state is reached. -/
theorem streamReached_first {payload : Bytes} (h0 : 0 < payload.length)
    (h1 : payload.length ≤ rtpReorderMaxPkt) :
    StreamReached numChannels frameLength allowed (.start (fun _ => ⟨false, 0, 0, []⟩) 256 24)
      (streamFirst payload) :=
  StreamReached.start.step
    (.insert rfl (show RxEvent.arrival (.audio _ ⟨0x0100a8c0, 6000⟩ 0) = _ from
      audioArrival_rtpAudioPacket 0 payload h0 h1))

/-- Packet `0` is at the front and is popped. -/
theorem streamFirst_pop (high low : UInt8) : ∃ rb : RtpReorder,
    rtpReorderPop (streamFirst (sampleFrame high low)).reorder rtpReorderMaxPkt
      = (rb, .ok (sampleFrame high low) 0) := ⟨_, rfl⟩

/-- A packet of 352 samples, taken by the ring in two parts. -/
theorem streamTime_iff_played : ∃ s : StreamState,
    StreamReached 2 352 (· = some (352 : BitVec 16).toNat)
      (.start (fun _ => ⟨false, 0, 0, []⟩) 256 24) s ∧
      s.ctl = .drain ∧ s.advanced = 1 ∧ s.pushed = (352 : BitVec 16).toNat * s.advanced := by
  have hframes : sampleCodec.frames 2 (sampleFrame 0x02 0xc0) = some 352 := by decide
  obtain ⟨rb, hpop⟩ := streamFirst_pop 0x02 0xc0
  have hfirst : StreamReached 2 352 (· = some (352 : BitVec 16).toNat)
      (.start (fun _ => ⟨false, 0, 0, []⟩) 256 24) (streamFirst (sampleFrame 0x02 0xc0)) :=
    streamReached_first (by decide) (by decide)
  have hdecoded := hfirst.step (.decode sampleCodec rfl hpop hframes)
  rw [hframes] at hdecoded
  have hpart := hdecoded.step (.playPcm 100 rfl (show 0 < 352 by decide) (show 100 ≤ 352 - 0 by decide))
  have hplayed := hpart.step
    (.playPcm 252 rfl (show 0 + 100 < 352 by decide) (show 252 ≤ 352 - (0 + 100) by decide))
  have hone : ((streamFirst (sampleFrame 0x02 0xc0)).popped rb
      (.decode 0 (sampleFrame 0x02 0xc0))).advanced = 1 :=
    congrArg (0 + ·) (seqDiff_of_pop hpop ⟨nofun, nofun⟩)
  have hend := hplayed.step (.pcmFed rfl (show 352 ≤ 0 + 100 + 252 by decide))
  exact ⟨_, hend, rfl, hone, (streamTime_iff 2 352 _ 256 24).1 _ hend (.inr rfl)⟩

/-- **A packet that the decoder gives up on is worth no time**: it announces 8192 samples, more than
`s_pcm` holds, and the cursor passes it without a frame being pushed. -/
theorem streamTime_lost_on_failure : ∃ s : StreamState,
    StreamReached 2 352 (wholeOrFailed 352) (.start (fun _ => ⟨false, 0, 0, []⟩) 256 24) s ∧
      s.ctl = .drain ∧ s.advanced = 1 ∧ s.pushed = 0 ∧
      s.pushed ≠ (352 : BitVec 16).toNat * s.advanced := by
  have hframes : sampleCodec.frames 2 (sampleFrame 0x40 0) = none := by decide
  obtain ⟨rb, hpop⟩ := streamFirst_pop 0x40 0
  have hfirst : StreamReached 2 352 (wholeOrFailed 352)
      (.start (fun _ => ⟨false, 0, 0, []⟩) 256 24) (streamFirst (sampleFrame 0x40 0)) :=
    streamReached_first (by decide) (by decide)
  have hdecoded := hfirst.step (.decode sampleCodec rfl hpop (.inr hframes))
  rw [hframes] at hdecoded
  have hone : ((streamFirst (sampleFrame 0x40 0)).popped rb
      (.decode 0 (sampleFrame 0x40 0))).advanced = 1 :=
    congrArg (0 + ·) (seqDiff_of_pop hpop ⟨nofun, nofun⟩)
  refine ⟨_, hdecoded, rfl, hone, rfl, ?_⟩
  show 0 ≠ (352 : BitVec 16).toNat * ((streamFirst (sampleFrame 0x40 0)).popped rb
      (.decode 0 (sampleFrame 0x40 0))).advanced
  rw [hone]
  decide

end ConduitStream
