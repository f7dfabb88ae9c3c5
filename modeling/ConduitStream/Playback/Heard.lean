import ConduitStream.Foundations.ProgramResults
import ConduitStream.Playback.PadFrame
import ConduitStream.RtpReceive.PcmStream

/-! # From the packets to I2S

What is received, decoded and fed on one side, and what is written to I2S on the other, are tied together:
the receive task calls `feed_pcm` on the PCM of a run, block by block, while the playback task makes its
rounds. In every interleaving what is heard is a front part of what was left in the ring and of the stream
(`stream_heard`), and with a stream that arrives complete, these are the samples the sender has encoded
(`rtpRx_heard`).

`s_run` may be cleared at any time; then the rest of the PCM is not fed. -/

namespace ConduitStream

open Alac

/-! ## The two tasks -/

/-- Where the receive task is with the PCM it feeds: whether `s_run` is still set, the blocks of the calls
of `feed_pcm` to come, and the call it is in. -/
structure StreamFeed where
  running : Bool
  pending : List (List StereoFrame)
  call : FeedPcm StereoFrame

/-- The control values of the two tasks. -/
def SoundCtl : RingSide → Type
  | .producer => StreamFeed
  | .consumer => PlaybackTask

section System

variable (capacity : ℕ) (monoOutput : Bool)

/-- The next call of `feed_pcm`. -/
def streamFeedNext (running : Bool) (pcm : List StereoFrame) (pending : List (List StereoFrame)) :
    RingProg StereoFrame StreamFeed := do
  let call ← feedPcm pcm
  pure ⟨running, pending, call⟩

/-- A round of its loop, which reads `sRun`. -/
def streamFeedRound (sRun : Bool) (pending : List (List StereoFrame)) (pcm : List StereoFrame) (off : ℕ) :
    RingProg StereoFrame StreamFeed := do
  let call ← feedPcmRound capacity sRun pcm off
  pure ⟨sRun, pending, call⟩

/-- The programs of the two tasks. Once `s_run` is cleared, it stays so. -/
inductive SoundCode : (who : RingSide) → SoundCtl who → AudioRingbuf StereoFrame →
    RingProg StereoFrame (SoundCtl who) → Prop
  | feed (running : Bool) (pcm : List StereoFrame) (pending : List (List StereoFrame))
      (s : AudioRingbuf StereoFrame) :
      SoundCode .producer (⟨running, pcm :: pending, .idle⟩ : StreamFeed) s
        (streamFeedNext running pcm pending)
  | round (running sRun : Bool) (hrun : sRun = true → running = true) (pending : List (List StereoFrame))
      (pcm : List StereoFrame) (off : ℕ) (s : AudioRingbuf StereoFrame) :
      SoundCode .producer (⟨running, pending, .feeding pcm off⟩ : StreamFeed) s
        (streamFeedRound capacity sRun pending pcm off)
  | cycle (fix : BitVec 32) (k : PlaybackTask) (s : AudioRingbuf StereoFrame) :
      SoundCode .consumer k s (playbackCycle capacity monoOutput fix k)

/-- The receive task and the playback task on the ring. -/
def soundSystem : System (AudioRingbuf StereoFrame) (RingStep StereoFrame) RingSide SoundCtl where
  code := SoundCode capacity monoOutput

/-- The receive task is about to feed the blocks. -/
def soundStart (ring : AudioRingbuf StereoFrame) (primed : Bool) (blocks : List (List StereoFrame)) :
    Config (AudioRingbuf StereoFrame) (RingStep StereoFrame) RingSide SoundCtl where
  st := ring
  th
    | .producer => .ret (⟨true, blocks, .idle⟩ : StreamFeed)
    | .consumer => .ret ({ primed := primed, cycles := [] } : PlaybackTask)

end System

/-! ## The accounts of the receive task -/

variable {capacity : ℕ} {monoOutput primed : Bool} {T₀ stream : List StereoFrame}

/-- What has been fed is a front part of the stream; while `s_run` is set, what has been handed to
`feed_pcm` and what is to come is all of it. -/
def FeedIdle (stream : List StereoFrame) (k : StreamFeed) (s : AudioRingbuf StereoFrame) : Prop :=
  RingIdle .producer k.call s ∧ s.fed <+: stream ∧
    (k.running = true → s.input ++ k.pending.flatten = stream)

/-- Between two blocks, nothing the playback task does matters. -/
theorem feedIdle_stable (k : StreamFeed) :
    (ringOutline (φ := StereoFrame) capacity).Stable .producer (FeedIdle stream k) := by
  intro s s' hi hi' hr ⟨hidle, hfed, hall⟩
  refine ⟨ringIdle_stable k.call hi hi' hr hidle, ?_, ?_⟩
  · rwa [hr.fed]
  · rwa [hr.input]

/-- Entering `feed_pcm` on the next block. -/
theorem streamFeedNext_producer (running : Bool) (pcm : List StereoFrame)
    (pending : List (List StereoFrame)) :
    (ringOutline capacity).Triple .producer (FeedIdle stream ⟨running, pcm :: pending, .idle⟩)
      (streamFeedNext running pcm pending) (FeedIdle stream) := by
  have hfeed : (ringOutline capacity).Triple .producer (FeedIdle stream ⟨running, pcm :: pending, .idle⟩)
      (feedPcm pcm) fun call => FeedIdle stream ⟨running, pending, call⟩ := by
    have henter : (ringOutline capacity).Triple .producer
        (FeedIdle stream ⟨running, pcm :: pending, .idle⟩)
        (.modify .feed fun s : AudioRingbuf StereoFrame => { s with input := s.input ++ pcm })
        fun _ => FeedIdle stream ⟨running, pending, .feeding pcm 0⟩ := by
      refine .atom (feedIdle_stable _) (fun _ => feedIdle_stable _) fun s hi ⟨hidle, hfed, hall⟩ => ?_
      refine ⟨⟨rfl, rfl, rfl, List.prefix_refl _⟩, ?_, trivial, ⟨Nat.zero_le _, ?_⟩, hfed, fun hrun => ?_⟩
      · exact { hi with fed_input := hi.fed_input.trans (List.prefix_append _ _) }
      · exact congrArg (· ++ pcm) hidle
      · have hstream := hall hrun
        rw [List.flatten_cons, ← List.append_assoc] at hstream
        exact hstream
    exact henter.bind fun _ => .ret (feedIdle_stable _) fun _ _ h => h
  exact hfeed.bind fun _ => .ret (feedIdle_stable _) fun _ _ h => h

/-- **A round of `feed_pcm`** keeps account of the stream. -/
theorem streamFeedRound_producer {running sRun : Bool} (hrun : sRun = true → running = true)
    (pending : List (List StereoFrame)) (pcm : List StereoFrame) (off : ℕ) :
    (ringOutline capacity).Triple .producer (FeedIdle stream ⟨running, pending, .feeding pcm off⟩)
      (streamFeedRound capacity sRun pending pcm off) (FeedIdle stream) := by
  have hround : (ringOutline capacity).Triple .producer
      (FeedIdle stream ⟨running, pending, .feeding pcm off⟩) (feedPcmRound capacity sRun pcm off)
      fun call => FeedIdle stream ⟨sRun, pending, call⟩ := by
    unfold feedPcmRound
    split
    · cases sRun with
      | true =>
          -- name what has been published before the call
          have hwrite : (ringOutline capacity).Triple .producer
              (fun s => ∃ F, (off ≤ pcm.length ∧ F ++ pcm.drop off ++ pending.flatten = stream) ∧
                ProducerView capacity F (F ++ pcm.drop off) 0 [] s)
              (do
                let n ← audioRingbufWrite capacity (pcm.drop off)
                pure (FeedPcm.feeding pcm (off + n)))
              fun call => FeedIdle stream ⟨true, pending, call⟩ := by
            refine .exists fun F => .pure fun ⟨hoff, hstream⟩ =>
              audioRingbufWrite_producer.bind fun n => .pure fun hn =>
                .ret (feedIdle_stable _) fun s _ h => ⟨⟨?_, ?_⟩, ?_, fun _ => ?_⟩
            · rw [List.length_drop] at hn
              omega
            · rw [h.input, h.fed, List.append_assoc, ← List.drop_drop, List.take_append_drop]
            · rw [h.fed, ← hstream]
              exact ((List.prefix_append_right_inj F).mpr (List.take_prefix n _)).trans
                (List.prefix_append _ _)
            · rw [h.input]
              exact hstream
          refine hwrite.weaken fun s _ ⟨⟨hoff, hinput⟩, _, hall⟩ => ⟨s.fed, ⟨hoff, ?_⟩, rfl, hinput,
            Nat.zero_le _, fun i hi => absurd hi (Nat.not_lt_zero i)⟩
          rw [← hinput]
          exact hall (hrun rfl)
      | false =>
          -- what is left of the call is not fed
          have hgive : (ringOutline capacity).Triple .producer
              (fun s => RingIdle .producer (FeedPcm.feeding pcm off) s ∧ s.fed <+: stream)
              (.modify .giveUp fun s : AudioRingbuf StereoFrame =>
                { s with input := s.input.take (s.input.length - (pcm.length - off)) })
              fun _ => FeedIdle stream ⟨false, pending, .idle⟩ := by
            have hst : (ringOutline (φ := StereoFrame) capacity).Stable .producer
                fun s => RingIdle .producer (FeedPcm.feeding pcm off) s ∧ s.fed <+: stream := by
              intro s s' hi hi' hr ⟨hidle, hfed⟩
              refine ⟨ringIdle_stable _ hi hi' hr hidle, ?_⟩
              rwa [hr.fed]
            refine .atom hst (fun _ => feedIdle_stable _) fun s hi ⟨hidle, hfed⟩ => ?_
            have hcut : s.input.take (s.input.length - (pcm.length - off)) = s.fed := by
              rw [hidle.2]
              simp
            exact ⟨⟨rfl, rfl, rfl, List.prefix_refl _⟩,
              { hi with fed_input := hcut.symm ▸ List.prefix_refl _ }, trivial, hcut, hfed, nofun⟩
          exact (hgive.bind fun _ => .ret (feedIdle_stable _) fun _ _ h => h).weaken
            fun s _ h => ⟨h.1, h.2.1⟩
    · next hge =>
        refine .ret (feedIdle_stable _) fun s _ ⟨⟨_, hinput⟩, hfed, hall⟩ =>
          ⟨?_, hfed, fun h => hall (hrun h)⟩
        rw [List.drop_eq_nil_iff.mpr (by omega), List.append_nil] at hinput
        exact hinput
  exact hround.bind fun _ => .ret (feedIdle_stable _) fun _ _ h => h

/-! ## Every interleaving -/

variable (capacity monoOutput primed T₀ stream) in
/-- Between two programs: the accounts of the receive task, a run of the playback task. -/
def SoundIdle : (who : RingSide) → SoundCtl who → AudioRingbuf StereoFrame → Prop
  | .producer, k, s => FeedIdle stream k s
  | .consumer, k, s => PlaybackRun capacity monoOutput T₀ primed k s.taken

variable (capacity monoOutput primed T₀ stream) in
/-- The proof outline of the ring, for the control values of the two tasks. -/
def soundOutline : Outline (AudioRingbuf StereoFrame) (RingStep StereoFrame) RingSide SoundCtl :=
  (ringOutline capacity).withIdle (SoundIdle capacity monoOutput primed T₀ stream)

/-- **Step lemma**: every program of both tasks keeps to the outline. -/
theorem soundOutline_proves : (soundOutline capacity monoOutput primed T₀ stream).Proves
    (soundSystem capacity monoOutput) := by
  intro who k p
  rintro s hi ⟨hidle, hcode⟩
  cases hcode with
  | feed running pcm pending => exact (streamFeedNext_producer running pcm pending).withIdle s hi hidle
  | round running sRun hrun pending pcm off =>
      exact (streamFeedRound_producer hrun pending pcm off).withIdle s hi hidle
  | cycle fix k => exact (playbackCycle_extends k).withIdle s hi hidle

/-- The outline holds at the start. -/
theorem soundOutline_start {ring : AudioRingbuf StereoFrame} (hring : RingInv capacity ring)
    (hinput : ring.input = ring.fed) (blocks : List (List StereoFrame)) :
    (soundOutline capacity monoOutput primed ring.taken (ring.fed ++ blocks.flatten)).Holds
      (soundStart ring primed blocks) := by
  refine ⟨hring, fun who => ?_⟩
  cases who with
  | producer =>
      intro s' hr hi
      refine feedIdle_stable (⟨true, blocks, .idle⟩ : StreamFeed) hring hi hr ⟨hinput, ?_, fun _ => ?_⟩
      · exact List.prefix_append _ _
      · rw [hinput]
  | consumer =>
      intro s' hr _
      show PlaybackRun capacity monoOutput ring.taken primed _ s'.taken
      rw [hr.taken]
      exact .start

/-- Copying frames in does not wait. -/
theorem neverWaits_copyIn (slot : ℕ) (fs : List StereoFrame) : (copyIn slot fs).NeverWaits := by
  induction fs generalizing slot with
  | nil => trivial
  | cons f fs ih => exact Prog.neverWaits_bind Prog.neverWaits_atom fun _ => ih (slot + 1)

/-- The receive task waits for no one: if the ring is full, it goes on to its next round. -/
theorem soundCode_neverWaits (k : StreamFeed) (s : AudioRingbuf StereoFrame)
    (p : RingProg StereoFrame StreamFeed) (h : (soundSystem capacity monoOutput).code .producer k s p) :
    p.NeverWaits := by
  have havailable : ∀ who, (audioRingbufAvailable (φ := StereoFrame) capacity who).NeverWaits := fun who =>
    Prog.neverWaits_bind Prog.neverWaits_atom fun _ =>
      Prog.neverWaits_bind Prog.neverWaits_atom fun _ => Prog.neverWaits_pure _
  have hwrite : ∀ frames : List StereoFrame, (audioRingbufWrite capacity frames).NeverWaits := fun frames =>
    Prog.neverWaits_bind (Prog.neverWaits_bind (havailable _) fun _ => Prog.neverWaits_pure _) fun _ =>
      Prog.neverWaits_ite (Prog.neverWaits_pure _) <|
        Prog.neverWaits_bind Prog.neverWaits_atom fun _ =>
          Prog.neverWaits_bind (neverWaits_copyIn _ _) fun _ =>
            Prog.neverWaits_bind (neverWaits_copyIn _ _) fun _ =>
              Prog.neverWaits_bind Prog.neverWaits_atom fun _ => Prog.neverWaits_pure _
  cases h with
  | feed running pcm pending =>
      exact Prog.neverWaits_bind (Prog.neverWaits_bind Prog.neverWaits_atom fun _ => Prog.neverWaits_pure _)
        fun _ => Prog.neverWaits_pure _
  | round running sRun hrun pending pcm off =>
      refine Prog.neverWaits_bind (Prog.neverWaits_ite (Prog.neverWaits_ite ?_ ?_) (Prog.neverWaits_pure _))
        fun _ => Prog.neverWaits_pure _
      · exact Prog.neverWaits_bind (hwrite _) fun _ => Prog.neverWaits_pure _
      · exact Prog.neverWaits_bind Prog.neverWaits_atom fun _ => Prog.neverWaits_pure _

/-- Behind a run of the playback task, what is heard is what has been taken since the start. -/
theorem PlaybackRun.heard {ring : AudioRingbuf StereoFrame} (hring : RingInv capacity ring)
    {k : PlaybackTask} {T : List StereoFrame} (hrun : PlaybackRun capacity monoOutput ring.taken primed k T)
    {pcm : List StereoFrame} (hT : T <+: ring.fed ++ pcm) :
    ∃ heard, T = ring.taken ++ heard ∧
      List.Forall₂ (FrameFate.Of monoOutput) (k.cycles.flatMap PlaybackCycle.fates) heard ∧
      heard <+: ring.fed.drop ring.taken.length ++ pcm := by
  obtain ⟨heard, rfl, hfates⟩ := hrun.fates
  refine ⟨heard, rfl, hfates, ?_⟩
  obtain ⟨left, hleft⟩ := hring.taken_fed
  rw [← hleft, List.append_assoc] at hT
  rw [← hleft, List.drop_left]
  exact (List.prefix_append_right_inj _).mp hT

/-- **What is heard** in every interleaving, whatever blocks are fed: a front part of what was left in the
ring and of the PCM; all of it, once it is fed and the ring is empty. -/
theorem stream_heard {ring : AudioRingbuf StereoFrame} (hring : RingInv capacity ring)
    (hinput : ring.input = ring.fed) {blocks : List (List StereoFrame)}
    {c : Config (AudioRingbuf StereoFrame) (RingStep StereoFrame) RingSide SoundCtl}
    (hreach : (soundSystem capacity monoOutput).Reachable (soundStart ring primed blocks) c)
    {k : PlaybackTask} (hk : c.th .consumer = .ret k) :
    (∃ heard, List.Forall₂ (FrameFate.Of monoOutput) (k.cycles.flatMap PlaybackCycle.fates) heard ∧
        heard <+: ring.fed.drop ring.taken.length ++ blocks.flatten) ∧
      (c.th .producer = .ret (⟨true, [], .idle⟩ : StreamFeed) → c.st.head = c.st.tail →
        List.Forall₂ (FrameFate.Of monoOutput) (k.cycles.flatMap PlaybackCycle.fates)
          (ring.fed.drop ring.taken.length ++ blocks.flatten)) := by
  have hsound : ∀ {c}, (soundSystem capacity monoOutput).Reachable (soundStart ring primed blocks) c →
      (soundOutline capacity monoOutput primed ring.taken (ring.fed ++ blocks.flatten)).Holds c :=
    fun h => Outline.sound soundOutline_proves (soundOutline_start hring hinput blocks) h
  constructor
  · -- the receive task may come to the end of its program, and has fed a front part of the stream then
    have hwaits : (c.th .producer).NeverWaits :=
      System.Reachable.neverWaits (t := .producer) soundCode_neverWaits (by trivial) hreach
    obtain ⟨c', kp, hdone, hkp, hothers⟩ := hreach.returns hwaits
    have hholds := hsound hdone
    have hinv : RingInv capacity c'.st := hholds.1
    have hproducer : FeedIdle (ring.fed ++ blocks.flatten) kp c'.st := hholds.idle hkp
    have hconsumer : PlaybackRun capacity monoOutput ring.taken primed k c'.st.taken :=
      hholds.idle ((hothers .consumer (by decide)).trans hk)
    obtain ⟨heard, -, hfates, hpre⟩ := hconsumer.heard hring (hinv.taken_fed.trans hproducer.2.1)
    exact ⟨heard, hfates, hpre⟩
  · intro hdone hempty
    have hholds := hsound hreach
    have hinv : RingInv capacity c.st := hholds.1
    have hproducer : FeedIdle (ring.fed ++ blocks.flatten) ⟨true, [], .idle⟩ c.st := hholds.idle hdone
    have hconsumer : PlaybackRun capacity monoOutput ring.taken primed k c.st.taken := hholds.idle hk
    -- everything is fed, and everything fed is taken
    have hfed : c.st.fed = ring.fed ++ blocks.flatten := by
      have hidle : c.st.input = c.st.fed := hproducer.1
      have hall := hproducer.2.2 rfl
      rw [List.flatten_nil, List.append_nil, hidle] at hall
      exact hall
    have htaken : c.st.taken = c.st.fed := by
      have hbetween := framesBetween_mod hinv.taken_fed.length_le hinv.room
      rw [← hinv.head, ← hinv.tail, hempty, framesBetween, if_pos le_rfl, Nat.sub_self] at hbetween
      exact hinv.taken_fed.eq_of_length (by have := hinv.taken_fed.length_le; omega)
    have hpre : c.st.taken <+: ring.fed ++ blocks.flatten := by rw [htaken, hfed]
    obtain ⟨heard, hheard, hfates, -⟩ := hconsumer.heard hring hpre
    obtain ⟨left, hleft⟩ := hring.taken_fed
    rw [htaken, hfed, ← hleft, List.append_assoc] at hheard
    rw [← hleft, List.drop_left, List.append_cancel_left hheard]
    exact hfates

/-! ## The stream of the sender -/

/-- **What the sender encodes is what is heard.** For every reorder buffer, every session and every stream
of `n` encoded frames, whose packets arrive on either socket, packet 0 first, out of order within the hold
and with repetitions, no copy more than 32768 packets late; for every ring, whatever is left in it, and every
interleaving of the receive task, which feeds the PCM of this run in blocks of any sizes, with the playback
task, also if `s_run` is cleared. Leave out of what was written to I2S the silence and the repeated frames,
and put the frames dropped back at their place: these are, sample by sample, a front part of what was left in
the ring followed by what the sender has encoded, each as the mix and the gain of its round make it. Once all
is fed with `s_run` still set and the ring is empty, nothing is missing. -/
theorem rtpRx_heard {s : AlacSetup} (io : RtpIo) (rx : RtpRx) (slots : ℕ → RtpReorderSlot) (e : ℕ)
    (he : e ≤ 15) (hold a : BitVec 16)
    (hrx : rx.reorder = rtpReorderInit slots (BitVec.ofNat 16 (2 ^ e)) hold) (aes : AesCbc)
    (frame : ℕ → EncodedFrame s) (n : ℕ) (arrivals : List ℕ)
    (harr : BoundedArrivals n (IdealReorder.effectiveHold (2 ^ e) hold.toNat) arrivals)
    (evs : List RxEvent) (hevs : evs.map RxEvent.arrival = arrivals.map fun j =>
      some (a + BitVec.ofNat 16 j, some ((frame j).payload aes))) {st : RtpDecoder} (hst : st.Ready s)
    (capacity : ℕ) (monoOutput : Bool) (ring : AudioRingbuf StereoFrame) (hring : RingInv capacity ring)
    (hinput : ring.input = ring.fed) (primed : Bool) :
    ∃ st' : RtpDecoder, st'.Ready s ∧
      st.perform aes.decrypt s.samplesPerFrame (drainsOf (runOps (RtpRx.exec io) rx evs).2.flatten)
        = some (st', (List.range n).flatMap fun j => (frame j).frames) ∧
      ∀ blocks : List (List StereoFrame),
        blocks.flatten = (List.range n).flatMap (fun j => (frame j).frames) →
        ∀ c, (soundSystem capacity monoOutput).Reachable (soundStart ring primed blocks) c →
        ∀ k : PlaybackTask, c.th .consumer = .ret k →
          (k.cycles.flatMap PlaybackCycle.fates).filterMap FrameFate.output
              = keptFrames (k.cycles.flatMap (·.writes)) ∧
            (∃ heard, List.Forall₂ (FrameFate.Of monoOutput) (k.cycles.flatMap PlaybackCycle.fates) heard ∧
              heard <+: ring.fed.drop ring.taken.length ++ (List.range n).flatMap fun j => (frame j).frames) ∧
            (c.th .producer = .ret (⟨true, [], .idle⟩ : StreamFeed) → c.st.head = c.st.tail →
              List.Forall₂ (FrameFate.Of monoOutput) (k.cycles.flatMap PlaybackCycle.fates)
                (ring.fed.drop ring.taken.length ++
                  (List.range n).flatMap fun j => (frame j).frames)) := by
  have hlen : ∀ j, ¬(((frame j).payload aes).length = 0 ∨
      rtpReorderMaxPkt < ((frame j).payload aes).length) := by
    intro j
    have hpayload := (frame j).length_payload aes
    omega
  obtain ⟨st', hst', hperform⟩ := RtpDecoder.perform_encoded hst aes
    ((List.range n).map fun j => .packet (a + BitVec.ofNat 16 j) (frame j))
  rw [List.map_map, List.flatMap_map] at hperform
  refine ⟨st', hst', ?_, ?_⟩
  · rw [harr.calls he hlen io hrx hevs]
    exact hperform
  · intro blocks hblocks c hreach k hk
    obtain ⟨hheard, hall⟩ := stream_heard hring hinput hreach hk
    rw [hblocks] at hheard hall
    exact ⟨fates_output k.cycles, hheard, hall⟩

/-- A ring with the frame `(100, 0)` left to play. -/
def leftFrameRing : AudioRingbuf StereoFrame := .ofSlots 4 (fun _ => (100, 0)) 1 0

/-- The round a primed task makes on it at unity gain, once the frame `(1, -1)` is fed. -/
def heardCycle : PlaybackCycle where
  entered := true
  fix := audioVolUnity
  avail := 2
  position := 0
  published := 2
  primed := true
  dropped := 0
  got := some 2
  writes := [⟨.dup, [(100, 0)]⟩, ⟨.chunk, [(100, 0), (1, -1)]⟩]
  left := true

/-- The frame is fed, and the round is made. -/
theorem heardCycle_reachable : ∃ c, (soundSystem 4 false).Reachable
    (soundStart leftFrameRing true [[(1, -1)]]) c ∧
    c.th .consumer = .ret ({ primed := true, cycles := [heardCycle] } : PlaybackTask) ∧
    c.th .producer = .ret (⟨true, [], .idle⟩ : StreamFeed) ∧ c.st.head = c.st.tail := by
  -- `feed_pcm` is entered, writes its frame, and returns
  have hentered : (soundSystem 4 false).Reachable (soundStart leftFrameRing true [[(1, -1)]]) _ :=
    System.Reachable.runAlone (t := .producer) .start rfl (.feed true [(1, -1)] [] _) rfl
  have hwritten := hentered.runAlone (t := RingSide.producer) rfl
    (.round true true id [] [(1, -1)] 0 _) rfl
  have hreturned := hwritten.runAlone (t := RingSide.producer) rfl
    (.round true true id [] [(1, -1)] 1 _) rfl
  exact ⟨_, hreturned.runAlone (t := RingSide.consumer) rfl (.cycle audioVolUnity _ _) rfl, rfl, rfl, rfl⟩

/-- The one packet of the stream arrives. -/
theorem boundedArrivals_one :
    BoundedArrivals 1 (IdealReorder.effectiveHold (2 ^ 3) (2 : BitVec 16).toNat) [0] := by
  have hsplit : ∀ {p s : List ℕ} {j : ℕ}, [0] = p ++ j :: s → p = [] ∧ j = 0 := by
    intro p s j hp
    cases p with
    | nil => exact ⟨rfl, (List.cons.inj hp).1.symm⟩
    | cons x p => simp at hp
  refine ⟨by simp, by simp, by simp, fun p j s hp i hi => ?_, fun p j s hp => ?_⟩
  · obtain ⟨-, rfl⟩ := hsplit hp
    have hhold : 0 < IdealReorder.effectiveHold (2 ^ 3) (2 : BitVec 16).toNat := by decide
    omega
  · obtain ⟨rfl, -⟩ := hsplit hp
    exact ⟨0, Nat.zero_le _, List.not_mem_nil⟩

/-- The frame left in the ring and that of the packet behind it: both are heard. -/
theorem rtpRx_heard_both :
    List.Forall₂ (FrameFate.Of false) ([heardCycle].flatMap PlaybackCycle.fates)
      (leftFrameRing.fed.drop leftFrameRing.taken.length ++
        (List.range 1).flatMap fun j => (oneSample (j + 1)).frames) := by
  have hevs : ([0].map fun j : ℕ => oneSampleDatagram (7 + BitVec.ofNat 16 j) (j + 1)).map RxEvent.arrival
      = [0].map fun j => some (7 + BitVec.ofNat 16 j, some ((oneSample (j + 1)).payload .noBlocks)) := by
    rw [List.map_map]
    exact List.map_congr_left fun j _ => arrival_oneSampleDatagram _ _
  obtain ⟨st', -, -, hheard⟩ := rtpRx_heard ⟨3, 4, 5, 6001, 6002⟩ rtpRxEmpty _ 3 (by decide) 2
    7 rfl .noBlocks (fun j => oneSample (j + 1)) 1 [0] boundedArrivals_one _ hevs rtpDecoder352_ready 4
    false leftFrameRing (ringInv_ofSlots _ (by decide) (by decide)) rfl true
  obtain ⟨c, hreach, hk, hdone, hempty⟩ := heardCycle_reachable
  exact (hheard [[(1, -1)]] rfl c hreach _ hk).2.2 hdone hempty

end ConduitStream
