import Mathlib.Data.List.Forall2
import ConduitStream.AudioRing.Spsc
import ConduitStream.Playback.PlaybackTask

/-! # Nothing is lost between the ring and I2S

Each round of the playback task meets a specification (`CycleSpec`) that names the frames it took
from the ring; the rounds made so far form a run (`PlaybackRun`), and the frames taken are those of
its rounds, one after the other. The proof of the round composes the triples of the ring functions:
what is known to be published at the snapshot behind `avail` stays published, so the later calls
find at least as much.

* `playbackCycle_consumer` is the triple of the round, `playbackOutline_proves` the step lemma of
  the system, `PlaybackRun.cycle_get` gives the specification of any round of a run;
* `playback_conserves`: what every interleaving with the producer keeps. -/

namespace ConduitStream

/-! ## What becomes of the frames taken -/

/-- What became of a frame taken from the ring: dropped, or played as `p` under the gain `fix`. -/
inductive FrameFate
  | dropped
  | played (fix : BitVec 32) (p : StereoFrame)

/-- The fate is one of the frame `f`: if it was played, then as mix and gain make it. -/
def FrameFate.Of (monoOutput : Bool) : FrameFate → StereoFrame → Prop
  | .dropped, _ => True
  | .played fix p, f => p = playedFrame monoOutput fix f

/-- The frame played, if the frame was not dropped. -/
def FrameFate.output : FrameFate → Option StereoFrame
  | .dropped => none
  | .played _ p => some p

/-- The frames written from the ring: those that remain when the silence and the repeated frames
are deleted. -/
def keptFrames (writes : List I2sWrite) : List StereoFrame :=
  (writes.filter (·.site = .chunk)).flatMap (·.frames)

/-- The repeated frames written. -/
def padFrames (writes : List I2sWrite) : List StereoFrame :=
  (writes.filter (·.site = .dup)).flatMap (·.frames)

/-- The frames kept of two stretches of writes. -/
@[simp] theorem keptFrames_append (ws ws' : List I2sWrite) :
    keptFrames (ws ++ ws') = keptFrames ws ++ keptFrames ws' := by
  simp [keptFrames]

/-- A write at another place repeats no frame. -/
theorem padFrames_concat (ws : List I2sWrite) {w : I2sWrite} (h : w.site ≠ .dup) :
    padFrames (ws ++ [w]) = padFrames ws := by
  simp [padFrames, h]

/-- The fates of the frames a round took: the frames dropped stand in front of those played. -/
def PlaybackCycle.fates (cy : PlaybackCycle) : List FrameFate :=
  List.replicate cy.dropped .dropped ++ (keptFrames cy.writes).map (.played cy.fix)

/-- The fates with the frames dropped left out are what was written less silence and repeated
frames. -/
theorem fates_output (cycles : List PlaybackCycle) :
    (cycles.flatMap PlaybackCycle.fates).filterMap FrameFate.output
      = keptFrames (cycles.flatMap (·.writes)) := by
  induction cycles with
  | nil => rfl
  | cons cy cycles ih =>
      have hdropped :
          (List.replicate cy.dropped FrameFate.dropped).filterMap FrameFate.output = [] := by
        simp [FrameFate.output]
      have hplayed :
          ((keptFrames cy.writes).map (FrameFate.played cy.fix)).filterMap FrameFate.output
            = keptFrames cy.writes := by
        rw [List.filterMap_map]
        exact List.filterMap_some
      rw [List.flatMap_cons, List.flatMap_cons, List.filterMap_append, ih, keptFrames_append,
        PlaybackCycle.fates, List.filterMap_append, hdropped, hplayed, List.nil_append]

/-- The fates of frames that are dropped: none of them is written. -/
theorem forall₂_dropped (monoOutput : Bool) (D : List StereoFrame) :
    List.Forall₂ (FrameFate.Of monoOutput) (List.replicate D.length .dropped) D := by
  induction D with
  | nil => exact .nil
  | cons d D ih => exact .cons trivial ih

/-- Frames played as they should be. -/
theorem forall₂_played (monoOutput : Bool) (fix : BitVec 32) (F : List StereoFrame) :
    List.Forall₂ (FrameFate.Of monoOutput)
      ((F.map (playedFrame monoOutput fix)).map (.played fix)) F := by
  induction F with
  | nil => exact .nil
  | cons f F ih => exact .cons rfl ih

/-! ## The specification of a round -/

section Cycle

variable (capacity : ℕ) (monoOutput : Bool)

/-- What a round `cy` of the task in `k` does that finds the frames `T` taken and takes `F`. -/
structure CycleSpec (k : PlaybackTask) (T F : List StereoFrame) (cy : PlaybackCycle) : Prop where
  entered : cy.entered = k.primed
  position : cy.position = T.length
  snapshot : cy.position + cy.avail = cy.published
  room : cy.avail < capacity
  fates : List.Forall₂ (FrameFate.Of monoOutput) cy.fates F
  once : cy.dropped + (padFrames cy.writes).length ≤ 1
  pads : padFrames cy.writes ≠ [] → audioDriftDecide cy.avail (driftCfg capacity) = .dup
  drops : cy.dropped ≠ 0 → audioDriftDecide cy.avail (driftCfg capacity) = .drop
  unprimed : cy.primed = false →
    cy.writes = [writeSilence] ∧ cy.dropped = 0 ∧ cy.entered = false ∧ cy.left = false
  primes : cy.entered = false → cy.primed = true → playbackPrefillFrames ≤ cy.avail
  unprimes : cy.primed = true → cy.left = false → cy.got = some 0
  /-- The repeated frame is the next one to play, and stands in front of the chunk it begins. -/
  repeats : cy.primed = true → audioDriftDecide cy.avail (driftCfg capacity) = .dup →
    ∃ f, F.head? = some f ∧ cy.writes =
      [⟨.dup, [gainFrame cy.fix f]⟩, ⟨.chunk, F.map (playedFrame monoOutput cy.fix)⟩]

/-- What the drift correction does that finds the frames `T` taken: it takes `D` and returns `r`,
and `K` is known to be published behind it. -/
structure CorrectionSpec (fix : BitVec 32) (avail : ℕ) (T D K : List StereoFrame)
    (r : ℕ × List I2sWrite) : Prop where
  taken : D.length = r.1
  kept : keptFrames r.2 = []
  once : r.1 + (padFrames r.2).length ≤ 1
  pads : padFrames r.2 ≠ [] → audioDriftDecide avail (driftCfg capacity) = .dup
  drops : r.1 ≠ 0 → audioDriftDecide avail (driftCfg capacity) = .drop
  repeats : audioDriftDecide avail (driftCfg capacity) = .dup →
    ∃ f, D = [] ∧ K = T ++ [f] ∧ r.2 = [⟨.dup, [gainFrame fix f]⟩]

variable {capacity monoOutput} {k : PlaybackTask} {T D K fs G : List StereoFrame}
  {fix : BitVec 32} {avail : ℕ} {r : ℕ × List I2sWrite}

/-- A drop is decided at the high watermark only. -/
theorem audioDriftDecide_drop (hlt : avail < capacity)
    (h : audioDriftDecide avail (driftCfg capacity) = .drop) : avail = capacity - 1 := by
  unfold audioDriftDecide at h
  split_ifs at h with h₀ hhigh
  change capacity - 1 ≤ avail at hhigh
  omega

/-- A repetition is decided within a chunk of empty only. -/
theorem audioDriftDecide_dup (h : audioDriftDecide avail (driftCfg capacity) = .dup) :
    1 ≤ avail ∧ avail ≤ playbackChunkFrames := by
  unfold audioDriftDecide at h
  split_ifs at h with h₀ hhigh hlow
  exact ⟨Nat.one_le_iff_ne_zero.mpr h₀, hlow⟩

/-- Two frames known to follow the frames taken are the same frame. -/
theorem head?_of_known {f : StereoFrame} (hf : T ++ [f] <+: G) (hfs : T ++ fs <+: G)
    (hne : fs ≠ []) : fs.head? = some f := by
  cases fs with
  | nil => exact absurd rfl hne
  | cons g fs =>
      have hpre := List.prefix_of_prefix_length_le hf hfs (by simp)
      rw [List.prefix_append_right_inj, List.cons_prefix_cons] at hpre
      rw [hpre.1, List.head?_cons]

/-- A round that the gate ends writes silence and takes nothing. -/
theorem cycleSpec_gated (hlt : avail < capacity) (hprimed : k.primed = false) :
    CycleSpec capacity monoOutput k T []
      { entered := k.primed, fix, avail, position := T.length, published := T.length + avail,
        primed := false, dropped := 0, got := none, writes := [writeSilence], left := false } where
  entered := rfl
  position := rfl
  snapshot := rfl
  room := hlt
  fates := .nil
  once := Nat.zero_le _
  pads h := absurd rfl h
  drops h := absurd rfl h
  unprimed _ := ⟨rfl, rfl, hprimed, rfl⟩
  primes _ h := by cases h
  unprimes h := by cases h
  repeats h := by cases h

/-- A round that reads frames writes them, behind what the drift correction has done. -/
theorem cycleSpec_chunk (hlt : avail < capacity)
    (hgate : k.primed = false → playbackPrefillFrames ≤ avail)
    (hcor : CorrectionSpec capacity fix avail T D K r) (hknown : K <+: G)
    (htaken : T ++ D ++ fs <+: G) (hne : fs ≠ []) :
    CycleSpec capacity monoOutput k T (D ++ fs)
      { entered := k.primed, fix, avail, position := T.length, published := T.length + avail,
        primed := true, dropped := r.1, got := some fs.length,
        writes := r.2 ++ [⟨.chunk, withGain fix (audioMixMono monoOutput fs)⟩], left := true } := by
  rw [withGain_audioMixMono]
  -- the correction wrote pads alone, so what is kept of the round is its chunk
  have hkept : keptFrames [⟨.chunk, fs.map (playedFrame monoOutput fix)⟩]
      = fs.map (playedFrame monoOutput fix) := by simp [keptFrames]
  have hpad := padFrames_concat r.2 (w := ⟨.chunk, fs.map (playedFrame monoOutput fix)⟩) (by simp)
  exact
    { entered := rfl
      position := rfl
      snapshot := rfl
      room := hlt
      fates := by
        rw [PlaybackCycle.fates, keptFrames_append, hcor.kept, List.nil_append, hkept, ← hcor.taken]
        exact List.rel_append (forall₂_dropped _ D) (forall₂_played _ fix fs)
      once := by
        rw [hpad]
        exact hcor.once
      pads := by
        rw [hpad]
        exact hcor.pads
      drops := hcor.drops
      unprimed := fun h => by cases h
      primes := fun h _ => hgate h
      unprimes := fun _ h => by cases h
      repeats := by
        intro _ hdup
        obtain ⟨f, rfl, rfl, hr⟩ := hcor.repeats hdup
        -- a repeat excludes a drop, so the chunk begins at the round's position
        rw [List.append_nil] at htaken
        rw [List.nil_append, hr]
        exact ⟨f, head?_of_known hknown htaken hne, rfl⟩ }

/-- A round that reads nothing: nothing is known to be published beyond what it took, so no frame
was repeated. -/
theorem cycleSpec_underrun (hlt : avail < capacity)
    (hgate : k.primed = false → playbackPrefillFrames ≤ avail)
    (hcor : CorrectionSpec capacity fix avail T D K r) (hempty : K.length ≤ (T ++ D).length) :
    CycleSpec capacity monoOutput k T D
      { entered := k.primed, fix, avail, position := T.length, published := T.length + avail,
        primed := true, dropped := r.1, got := some 0, writes := r.2 ++ [writeSilence],
        left := false } := by
  have hpad := padFrames_concat r.2 (w := writeSilence) (by simp [writeSilence])
  exact
    { entered := rfl
      position := rfl
      snapshot := rfl
      room := hlt
      fates := by
        have hnone : keptFrames (r.2 ++ [writeSilence]) = [] := by
          rw [keptFrames_append, hcor.kept]
          rfl
        rw [PlaybackCycle.fates, hnone, ← hcor.taken, List.map_nil, List.append_nil]
        exact forall₂_dropped _ D
      once := by
        rw [hpad]
        exact hcor.once
      pads := by
        rw [hpad]
        exact hcor.pads
      drops := hcor.drops
      unprimed := fun h => by cases h
      primes := fun h _ => hgate h
      unprimes := fun _ _ => rfl
      repeats := by
        intro _ hdup
        obtain ⟨f, rfl, rfl, -⟩ := hcor.repeats hdup
        -- the repeated frame is known to be published behind those taken
        simp at hempty }

/-! ## The round on the ring -/

/-- The record is made of the frames taken and of those published at the snapshot, which are known
to be published from then on. -/
theorem readHistory_consumer {N : ℕ} :
    (ringOutline capacity).Triple .consumer (ConsumerView T N []) readHistory
      fun h s => h = (T.length, N) ∧ ∃ K, K.length = N ∧ ConsumerAt T K s := by
  refine .atom consumerView_stable
    (fun _ => .pure_and (.exists fun _ => .pure_and consumerAt_stable)) fun s hi h => ?_
  refine ⟨ConsumerStep.refl s, hi, trivial, by rw [h.taken, h.seen], s.fed.take N, ?_, h.taken,
    List.take_prefix N s.fed⟩
  rw [List.length_take]
  exact min_eq_left h.published

/-- **The drift correction** meets its specification, whatever the producer does meanwhile. -/
theorem correctDrift_consumer (hK : K.length = T.length + avail) :
    (ringOutline capacity).Triple .consumer (ConsumerAt T K)
      (correctDrift capacity fix (audioDriftDecide avail (driftCfg capacity)))
      fun r s => ∃ D K', CorrectionSpec capacity fix avail T D K' r ∧ ConsumerAt (T ++ D) K' s := by
  have hst : ∀ r, (ringOutline capacity).Stable .consumer fun s =>
      ∃ D K', CorrectionSpec capacity fix avail T D K' r ∧ ConsumerAt (T ++ D) K' s :=
    fun _ => .exists fun _ => .exists fun _ => .pure_and consumerAt_stable
  generalize haction : audioDriftDecide avail (driftCfg capacity) = action
  cases action with
  | none =>
      refine .ret (hst _) fun s _ h => ⟨[], K, ?_, by rwa [List.append_nil]⟩
      exact ⟨rfl, rfl, Nat.zero_le _, fun h => absurd rfl h, fun h => absurd rfl h,
        fun h => by rw [haction] at h; cases h⟩
  | drop =>
      refine (audioRingbufDrop_consumer 1).bind fun m => .exists fun D =>
        .pure fun ⟨hlen, hle, _⟩ => .ret (hst _) fun s _ h => ⟨D, K, ?_, h⟩
      exact ⟨hlen, rfl, hle, fun h => absurd rfl h, fun _ => haction,
        fun h => by rw [haction] at h; cases h⟩
  -- the decision saw a frame in the ring, so the peek finds one
  | dup =>
      have hdup := audioDriftDecide_dup haction
      refine audioRingbufFirstFrame_consumer.bind fun o => ?_
      cases o with
      | none => exact fun s _ h => absurd rfl (h.1 (by omega))
      | some f =>
          refine .ret (hst _) fun s _ h => ⟨[], T ++ [f], ?_, ?_⟩
          · rw [withGain_eq_map]
            exact ⟨rfl, rfl, le_rfl, fun _ => haction, fun h => absurd rfl h,
              fun _ => ⟨f, rfl, rfl, rfl⟩⟩
          · rw [List.append_nil]
            exact h.2 f rfl

/-- **A round of the task**: it takes frames that follow those taken before, and records a round
that meets the specification. -/
theorem playbackCycle_consumer (k : PlaybackTask) :
    (ringOutline capacity).Triple .consumer (ConsumerAt T [])
      (playbackCycle capacity monoOutput fix k) fun k' s => ∃ F cy,
        (CycleSpec capacity monoOutput k T F cy ∧ k' = k.finish cy) ∧ s.taken = T ++ F := by
  have hst : ∀ k', (ringOutline capacity).Stable .consumer fun s => ∃ F cy,
      (CycleSpec capacity monoOutput k T F cy ∧ k' = k.finish cy) ∧ s.taken = T ++ F :=
    fun _ _ _ _ _ hr ⟨F, cy, hcy, h⟩ => ⟨F, cy, hcy, hr.taken.trans h⟩
  refine audioRingbufAvailable_consumer.bind fun avail => .pure fun ⟨hlt, _⟩ => ?_
  refine readHistory_consumer.bind fun history => .pure fun hh => .exists fun K =>
    .pure fun hK => ?_
  subst hh
  dsimp only
  split
  -- below the prefill the round ends at its gate, with nothing taken
  · next hgate =>
      refine .ret (hst _) fun s _ h => ⟨[], _, ⟨cycleSpec_gated hlt hgate.1, rfl⟩, ?_⟩
      rw [List.append_nil]
      exact h.taken
  · next hgate =>
      have hgate : k.primed = false → playbackPrefillFrames ≤ avail :=
        fun h => not_lt.mp fun hlt => hgate ⟨h, hlt⟩
      refine (correctDrift_consumer hK).bind fun r => .exists fun D => .exists fun K' =>
        .pure fun hcor => ?_
      refine (audioRingbufRead_consumer playbackChunkFrames).bind fun fs => .pure fun ⟨_, hfs⟩ => ?_
      split
      · next hpos =>
          refine .ret (hst _) fun s hi h => ⟨D ++ fs, _, ⟨cycleSpec_chunk hlt hgate hcor h.known
            (h.taken ▸ hi.taken_fed) (List.ne_nil_of_length_pos hpos), rfl⟩, ?_⟩
          rw [h.taken, List.append_assoc]
      · next hzero =>
          -- the read asks for frames, so an empty answer means that none was known to be there
          obtain rfl : fs = [] := List.eq_nil_of_length_eq_zero (by omega)
          refine .ret (hst _) fun s _ h => ⟨D, _, ⟨cycleSpec_underrun hlt hgate hcor ?_, rfl⟩, ?_⟩
          · exact not_lt.mp fun hlt => hfs hlt (by decide) rfl
          · rw [h.taken, List.append_nil]

end Cycle

/-! ## Runs of the task -/

section Run

variable (capacity : ℕ) (monoOutput : Bool) (T₀ : List StereoFrame) (primed₀ : Bool)

/-- The task after rounds that meet their specifications, with the frames taken by then; it starts
with the flag `primed₀` and the frames `T₀` taken. -/
inductive PlaybackRun : PlaybackTask → List StereoFrame → Prop
  | start : PlaybackRun { primed := primed₀, cycles := [] } T₀
  | cycle {k : PlaybackTask} {T F : List StereoFrame} {cy : PlaybackCycle} :
      PlaybackRun k T → CycleSpec capacity monoOutput k T F cy →
      PlaybackRun (k.finish cy) (T ++ F)

/-- The flag `primed` behind some rounds. -/
def flagAfter (cycles : List PlaybackCycle) : Bool := (cycles.getLast?.map (·.left)).getD primed₀

variable {capacity monoOutput T₀ primed₀} {k : PlaybackTask} {T : List StereoFrame}

/-- The gate is open as the cycles have left it. -/
theorem PlaybackRun.primed (h : PlaybackRun capacity monoOutput T₀ primed₀ k T) :
    k.primed = flagAfter primed₀ k.cycles := by
  cases h with
  | start => rfl
  | cycle _ _ => simp [flagAfter, PlaybackTask.finish]

/-- The frames taken in a run have the fates its rounds record, in order. -/
theorem PlaybackRun.fates (h : PlaybackRun capacity monoOutput T₀ primed₀ k T) :
    ∃ T', T = T₀ ++ T' ∧
      List.Forall₂ (FrameFate.Of monoOutput) (k.cycles.flatMap PlaybackCycle.fates) T' := by
  induction h with
  | start => exact ⟨[], (List.append_nil T₀).symm, .nil⟩
  | @cycle k T F cy _ hcy ih =>
      obtain ⟨T', rfl, hT'⟩ := ih
      refine ⟨T' ++ F, List.append_assoc T₀ T' F, ?_⟩
      rw [PlaybackTask.finish, List.flatMap_append, List.flatMap_singleton]
      exact List.rel_append hT' hcy.fates

/-- **Every round of a run** meets its specification behind the rounds before it. -/
theorem PlaybackRun.cycle_get (h : PlaybackRun capacity monoOutput T₀ primed₀ k T) {i : ℕ}
    {cy : PlaybackCycle} (hi : k.cycles[i]? = some cy) : ∃ k' T' F,
      (PlaybackRun capacity monoOutput T₀ primed₀ k' T' ∧ k'.cycles = k.cycles.take i) ∧
        CycleSpec capacity monoOutput k' T' F cy ∧ T' ++ F <+: T := by
  induction h with
  | start => cases hi
  | @cycle k T F last hrun hlast ih =>
      rw [PlaybackTask.finish] at hi ⊢
      dsimp only at hi ⊢
      rcases lt_trichotomy i k.cycles.length with hlt | rfl | hgt
      · rw [List.getElem?_append_left hlt] at hi
        obtain ⟨k', T', F', ⟨hrun', htake⟩, hspec, hpre⟩ := ih hi
        refine ⟨k', T', F', ⟨hrun', ?_⟩, hspec, hpre.trans (List.prefix_append T F)⟩
        rw [htake, List.take_append_of_le_length hlt.le]
      · -- the last round
        rw [List.getElem?_concat_length] at hi
        cases hi
        refine ⟨k, T, F, ⟨hrun, ?_⟩, hlast, List.prefix_refl _⟩
        rw [List.take_left]
      · rw [List.getElem?_eq_none (by rw [List.length_append, List.length_singleton]; omega)] at hi
        cases hi

/-- So it starts at the flag and the position the rounds before it leave. -/
theorem PlaybackRun.position (h : PlaybackRun capacity monoOutput T₀ primed₀ k T) :
    T.length = T₀.length + (k.cycles.flatMap PlaybackCycle.fates).length := by
  obtain ⟨T', rfl, hT'⟩ := h.fates
  rw [List.length_append, hT'.length_eq]

/-- A round extends the run, whatever the producer does meanwhile. -/
theorem playbackCycle_extends {fix : BitVec 32} (k : PlaybackTask) :
    (ringOutline capacity).Triple .consumer
      (fun s => PlaybackRun capacity monoOutput T₀ primed₀ k s.taken)
      (playbackCycle capacity monoOutput fix k)
      fun k' s => PlaybackRun capacity monoOutput T₀ primed₀ k' s.taken := by
  -- name the frames taken before the round
  have hcycle : (ringOutline capacity).Triple .consumer
      (fun s => ∃ T, PlaybackRun capacity monoOutput T₀ primed₀ k T ∧ ConsumerAt T [] s)
      (playbackCycle capacity monoOutput fix k)
      fun k' s => PlaybackRun capacity monoOutput T₀ primed₀ k' s.taken := by
    refine .exists fun T => .pure fun hrun =>
      (playbackCycle_consumer k).conseq (fun _ _ h => h) fun k' s _ h => ?_
    obtain ⟨F, cy, ⟨hspec, rfl⟩, htaken⟩ := h
    rw [htaken]
    exact hrun.cycle hspec
  exact hcycle.weaken fun s _ h => ⟨s.taken, h, rfl, List.nil_prefix⟩

/-! ## Every interleaving -/

variable (capacity monoOutput T₀ primed₀) in
/-- Between two programs: the accounts of the producer as on any ring, a run of the task. -/
def PlaybackIdle : (who : RingSide) → PlaybackCtl who → AudioRingbuf StereoFrame → Prop
  | .producer, k, s => RingIdle .producer k s
  | .consumer, k, s => PlaybackRun capacity monoOutput T₀ primed₀ k s.taken

variable (capacity monoOutput T₀ primed₀) in
/-- The proof outline of the ring, for the control values of the playback task. -/
def playbackOutline :
    Outline (AudioRingbuf StereoFrame) (RingStep StereoFrame) RingSide PlaybackCtl :=
  (ringOutline capacity).withIdle (PlaybackIdle capacity monoOutput T₀ primed₀)

/-- **Step lemma**: every program of both tasks keeps to the outline. -/
theorem playbackOutline_proves : (playbackOutline capacity monoOutput T₀ primed₀).Proves
    (playbackSystem capacity monoOutput) := by
  intro who k p
  rintro s hi ⟨hidle, hcode⟩
  cases hcode with
  | feed pcm => exact (feedPcm_producer pcm).withIdle s hi hidle
  | round sRun pcm off => exact (feedPcmRound_producer sRun pcm off).withIdle s hi hidle
  | cycle fix k =>
      exact (playbackCycle_extends k).withIdle s hi hidle

/-- The outline holds at a start on a ring that satisfies the invariant. -/
theorem playbackOutline_start {ring : AudioRingbuf StereoFrame} (hinv : RingInv capacity ring)
    (hinput : ring.input = ring.fed) :
    (playbackOutline capacity monoOutput ring.taken primed₀).Holds
      (playbackStart ring primed₀) := by
  refine ⟨hinv, fun who => ?_⟩
  cases who with
  | producer => exact fun s' hr _ => hr.input.trans (hinput.trans hr.fed.symm)
  | consumer =>
      intro s' hr _
      show PlaybackRun capacity monoOutput ring.taken primed₀ _ s'.taken
      rw [hr.taken]
      exact .start

/-- **Soundness**: whenever the task is between two rounds, it is behind a run that has taken what
is taken from the ring. -/
theorem playbackRun_of_reachable {ring : AudioRingbuf StereoFrame} (hinv : RingInv capacity ring)
    (hinput : ring.input = ring.fed)
    {c : Config (AudioRingbuf StereoFrame) (RingStep StereoFrame) RingSide PlaybackCtl}
    (hreach : (playbackSystem capacity monoOutput).Reachable (playbackStart ring primed₀) c)
    (hk : c.th .consumer = .ret k) : RingInv capacity c.st ∧
      PlaybackRun capacity monoOutput ring.taken primed₀ k c.st.taken := by
  have hproves : (playbackOutline capacity monoOutput ring.taken primed₀).Proves
      (playbackSystem capacity monoOutput) := playbackOutline_proves
  have hholds := Outline.sound hproves (playbackOutline_start hinv hinput) hreach
  exact ⟨hholds.1, hholds.idle hk⟩

/-- **Nothing is lost between the ring and I2S.** On a ring of more than 11025 slots, in every
configuration reached by any interleaving with the producer in which the task is between two rounds:

* leave out of what was written to I2S the silence and the repeated frames, and put the frames
  dropped back at their place: position by position these are the frames the producer published, up
  to the consumer position, each as the mix and the gain of its round make it;
* every round drops or repeats at most one frame, repeats only on a fill between 1 and 256 and drops
  only on a fill of one less than the capacity; the fill is what was published at the snapshot, less
  the position the rounds before have reached;
* the flag of a round is the one the round before left; a round that is not primed writes silence
  only and takes nothing; the task becomes primed only on a fill of at least 11025 frames and
  becomes unprimed only in a round whose read returned 0. -/
theorem playback_conserves (hcap : 11025 < capacity) (monoOutput : Bool)
    (storage : ℕ → StereoFrame)
    (c : Config (AudioRingbuf StereoFrame) (RingStep StereoFrame) RingSide PlaybackCtl)
    (hreach : (playbackSystem capacity monoOutput).Reachable (playbackInit storage) c)
    (k : PlaybackTask) (hk : c.th .consumer = .ret k) :
    ((k.cycles.flatMap PlaybackCycle.fates).filterMap FrameFate.output
          = keptFrames (k.cycles.flatMap (·.writes)) ∧
        List.Forall₂ (FrameFate.Of monoOutput) (k.cycles.flatMap PlaybackCycle.fates) c.st.taken ∧
        c.st.taken <+: c.st.fed ∧ c.st.fed <+: c.st.input ∧
        c.st.tail = c.st.taken.length % capacity) ∧
      (∀ i cy, k.cycles[i]? = some cy →
        cy.dropped + (padFrames cy.writes).length ≤ 1 ∧
        (padFrames cy.writes ≠ [] → 1 ≤ cy.avail ∧ cy.avail ≤ 256) ∧
        (cy.dropped ≠ 0 → cy.avail = capacity - 1) ∧
        cy.position = ((k.cycles.take i).flatMap PlaybackCycle.fates).length ∧
        cy.position + cy.avail = cy.published) ∧
      (∀ i cy, k.cycles[i]? = some cy →
        cy.entered = flagAfter false (k.cycles.take i) ∧
        (cy.entered = true → cy.primed = true) ∧
        (cy.primed = false → cy.writes = [writeSilence] ∧ cy.dropped = 0 ∧ cy.left = false) ∧
        (cy.entered = false → cy.primed = true → 11025 ≤ cy.avail) ∧
        (cy.primed = true → cy.left = false → cy.got = some 0)) ∧
      k.primed = flagAfter false k.cycles := by
  have hinv : RingInv capacity (audioRingbufInit storage).st :=
    (ringOutline_init (by omega) storage).1
  obtain ⟨hring, hrun⟩ := playbackRun_of_reachable hinv rfl hreach hk
  change PlaybackRun capacity monoOutput [] false k c.st.taken at hrun
  obtain ⟨T, htaken, hfates⟩ := hrun.fates
  rw [List.nil_append] at htaken
  refine ⟨⟨fates_output k.cycles, htaken ▸ hfates, hring.taken_fed, hring.fed_input, hring.tail⟩,
    fun i cy hi => ?_, fun i cy hi => ?_, hrun.primed⟩
  · obtain ⟨k', T', F, ⟨hrun', htake⟩, hspec, -⟩ := hrun.cycle_get hi
    have hpos := hrun'.position
    rw [htake, List.length_nil, Nat.zero_add] at hpos
    exact ⟨hspec.once, fun h => audioDriftDecide_dup (hspec.pads h),
      fun h => audioDriftDecide_drop hspec.room (hspec.drops h), hspec.position.trans hpos,
      hspec.snapshot⟩
  · obtain ⟨k', T', F, ⟨hrun', htake⟩, hspec, -⟩ := hrun.cycle_get hi
    have hflag := hrun'.primed
    rw [htake] at hflag
    refine ⟨hspec.entered.trans hflag, fun hentered => ?_, fun hprimed => ?_, hspec.primes,
      hspec.unprimes⟩
    · -- a round that ends at the gate has entered it with the flag cleared
      by_contra hprimed
      have hgated := hspec.unprimed (by simpa using hprimed)
      rw [hgated.2.2.1] at hentered
      cases hentered
    · obtain ⟨hwrites, hdropped, -, hleft⟩ := hspec.unprimed hprimed
      exact ⟨hwrites, hdropped, hleft⟩

end Run

/-- The first round of the task, on an empty ring of 11026 slots, at unity gain. -/
def firstCycle : PlaybackCycle where
  entered := false
  fix := audioVolUnity
  avail := 0
  position := 0
  published := 0
  primed := false
  dropped := 0
  got := none
  writes := [writeSilence]
  left := false

/-- The round in which the task is primed, on a full ring of 11026 slots: a frame is dropped, and a chunk read. -/
def primedCycle (pcm : List StereoFrame) : PlaybackCycle where
  entered := false
  fix := audioVolUnity
  avail := 11025
  position := 0
  published := 11025
  primed := true
  dropped := 1
  got := some 256
  writes := [⟨.chunk, (pcm.drop 1).take 256⟩]
  left := true

/-- The ring of 11026 slots, filled with 11025 frames, of which the consumer has seen and taken some. -/
def filledRing (storage : ℕ → StereoFrame) (pcm : List StereoFrame) (seen : ℕ) (taken : List StereoFrame) :
    AudioRingbuf StereoFrame where
  storage := storeFrames storage 0 pcm
  head := 11025
  tail := taken.length
  fed := pcm
  taken := taken
  seen := seen
  input := pcm

/-- The round made alone on it. -/
theorem playbackCycle_filledRing (storage : ℕ → StereoFrame) {pcm : List StereoFrame}
    (hlen : pcm.length = 11025) :
    (playbackCycle 11026 false audioVolUnity ⟨false, [firstCycle]⟩).runAlone (filledRing storage pcm 0 [])
      = some (⟨true, [firstCycle, primedCycle pcm]⟩, filledRing storage pcm 11025 (pcm.take 257)) := by
  have hslot : ∀ i, ∀ h : i < pcm.length, storeFrames storage 0 pcm i = pcm[i] := by
    intro i h
    have hadd := storeFrames_add storage 0 h
    rwa [Nat.zero_add] at hadd
  have hchunk : (List.range 256).map (fun i => storeFrames storage 0 pcm (1 + i)) = (pcm.drop 1).take 256 := by
    refine List.ext_getElem (by simp [hlen]) fun i hi hi' => ?_
    rw [List.length_map, List.length_range] at hi
    rw [List.getElem_map, List.getElem_range, List.getElem_take, List.getElem_drop, hslot _ (by omega)]
  have hfirst : [storeFrames storage 0 pcm 0] ++ (pcm.drop 1).take 256 = pcm.take 257 := by
    obtain ⟨f, pcm, rfl⟩ := List.exists_cons_of_length_pos (show 0 < pcm.length by omega)
    rw [hslot 0 (by simp)]
    rfl
  -- a look at the ring, a frame dropped, and a chunk read
  have hlook : (audioRingbufAvailable (φ := StereoFrame) 11026 .consumer).runAlone (filledRing storage pcm 0 [])
      = some (11025, filledRing storage pcm pcm.length []) := rfl
  have hdrop : (correctDrift 11026 audioVolUnity .drop).runAlone (filledRing storage pcm 11025 [])
      = some ((1, []), filledRing storage pcm pcm.length [storeFrames storage 0 pcm 0]) := rfl
  have hread : (audioRingbufRead 11026 playbackChunkFrames).runAlone
      (filledRing storage pcm 11025 [storeFrames storage 0 pcm 0])
        = some ((pcm.drop 1).take 256, filledRing storage pcm pcm.length (pcm.take 257)) := by
    have hbetween : framesBetween 11026 11025 1 = 11024 := rfl
    refine (audioRingbufRead_alone (by decide) (by rw [filledRing, List.length_singleton, hbetween]; decide)
      (show 1 + 256 < 11026 by decide)).trans ?_
    have hlength : (pcm.take 257).length = 257 := by simp [hlen]
    unfold filledRing
    rw [hlength, List.length_singleton]
    dsimp only
    rw [playbackChunkFrames, hchunk, hfirst]
  rw [hlen] at hlook hdrop hread
  refine (Prog.runAlone_bind hlook).trans ?_
  refine (Prog.runAlone_bind (p := readHistory) (a := (0, 11025)) rfl).trans ?_
  have hgate : ¬(false = false ∧ 11025 < playbackPrefillFrames) := by decide
  have hdecide : audioDriftDecide 11025 (driftCfg 11026) = .drop := by decide
  have hlength : ((pcm.drop 1).take 256).length = 256 := by simp [hlen]
  dsimp only
  rw [if_neg hgate, hdecide]
  refine (Prog.runAlone_bind hdrop).trans ((Prog.runAlone_bind hread).trans ?_)
  rw [hlength, if_pos (by decide)]
  rfl

/-- The frames of the prefill, each one of its own. -/
def prefill : List StereoFrame := (List.range 11025).map fun i => (BitVec.ofNat 16 i, BitVec.ofNat 16 (i + 1))

/-- The round of `feed_pcm` that fills the ring. -/
theorem feedPcmRound_filledRing (storage : ℕ → StereoFrame) {pcm : List StereoFrame} (hlen : pcm.length = 11025) :
    (feedPcmRound 11026 true pcm 0).runAlone { (audioRingbufInit storage).st with input := pcm }
      = some (.feeding pcm 11025, filledRing storage pcm 0 []) := by
  have hspace : framesBetween 11026 0 0 = 0 := rfl
  have hwrite : (audioRingbufWrite 11026 pcm).runAlone { (audioRingbufInit storage).st with input := pcm }
      = some (11025, filledRing storage pcm 0 []) := by
    refine (audioRingbufWrite_alone (by omega) ?_ ?_).trans ?_
    · show pcm.length ≤ 11026 - 1 - framesBetween 11026 0 0
      omega
    · show 0 + pcm.length < 11026
      omega
    · rw [hlen]
      dsimp only [audioRingbufInit, filledRing]
      rw [Nat.zero_add, List.nil_append]
      rfl
  unfold feedPcmRound
  rw [if_pos (by omega), if_pos rfl]
  refine (Prog.runAlone_bind hwrite).trans ?_
  rw [Nat.zero_add]
  rfl

/-- Behind the first round, which is silent, the prefill is fed, and the second round drops one frame of it and
plays the next 256. -/
theorem prefill_reachable : ∃ c, (playbackSystem 11026 false).Reachable (playbackInit fun _ => (0, 0)) c ∧
    c.th .consumer = .ret ({ primed := true, cycles := [firstCycle, primedCycle prefill] } : PlaybackTask) ∧
    c.st.fed = prefill ∧ c.st.taken = prefill.take 257 := by
  have hlen : prefill.length = 11025 := by simp [prefill]
  generalize prefill = pcm at hlen ⊢
  have hround : (playbackCycle 11026 false audioVolUnity ⟨false, []⟩).runAlone
      (audioRingbufInit fun _ => ((0, 0) : StereoFrame)).st
        = some (⟨false, [firstCycle]⟩, (audioRingbufInit fun _ => ((0, 0) : StereoFrame)).st) := rfl
  have hsilent : (playbackSystem 11026 false).Reachable (playbackInit fun _ => (0, 0)) _ :=
    System.Reachable.runAlone .start rfl (.cycle audioVolUnity _ _) hround
  have hentered := hsilent.runAlone (t := RingSide.producer) rfl (.feed pcm _) rfl
  have hfed := hentered.runAlone (t := RingSide.producer) rfl (.round true pcm 0 _)
    (feedPcmRound_filledRing _ hlen)
  exact ⟨_, hfed.runAlone (t := RingSide.consumer) rfl (.cycle audioVolUnity _ _)
    (playbackCycle_filledRing _ hlen), rfl, rfl, rfl⟩

/-- **A run in which the task is primed**: the silent round, the prefill, and a round that finds the ring full.
What it took is a frame dropped and 256 played, as they were fed. -/
theorem playback_conserves_primed : ∃ c, (playbackSystem 11026 false).Reachable (playbackInit fun _ => (0, 0)) c ∧
    c.th .consumer = .ret ({ primed := true, cycles := [firstCycle, primedCycle prefill] } : PlaybackTask) ∧
    c.st.taken = prefill.take 257 ∧
    List.Forall₂ (FrameFate.Of false)
      (.dropped :: ((prefill.drop 1).take 256).map (.played audioVolUnity)) c.st.taken ∧
    c.st.taken <+: prefill ∧ c.st.tail = c.st.taken.length % 11026 ∧
    (primedCycle prefill).avail = 11026 - 1 ∧ 11025 ≤ (primedCycle prefill).avail ∧
    (primedCycle prefill).position + (primedCycle prefill).avail = (primedCycle prefill).published := by
  obtain ⟨c, hreach, hk, hfed, htaken⟩ := prefill_reachable
  obtain ⟨⟨-, hfates, hpre, -, htail⟩, hcorrect, hflag, -⟩ :=
    playback_conserves (by decide : 11025 < 11026) false (fun _ => (0, 0)) c hreach _ hk
  obtain ⟨-, -, hdrop, -, hsnapshot⟩ := hcorrect 1 (primedCycle prefill) rfl
  have hlist : [firstCycle, primedCycle prefill].flatMap PlaybackCycle.fates
      = .dropped :: ((prefill.drop 1).take 256).map (.played audioVolUnity) := by
    generalize prefill = pcm
    have hkept : keptFrames (primedCycle pcm).writes = (pcm.drop 1).take 256 := List.append_nil _
    rw [List.flatMap_cons, List.flatMap_cons, List.flatMap_nil, List.append_nil, PlaybackCycle.fates,
      PlaybackCycle.fates, hkept]
    rfl
  rw [hlist] at hfates
  rw [hfed] at hpre
  exact ⟨c, hreach, hk, htaken, hfates, hpre, htail, hdrop (by decide),
    (hflag 1 (primedCycle prefill) rfl).2.2.2.1 rfl rfl, hsnapshot⟩

end ConduitStream
