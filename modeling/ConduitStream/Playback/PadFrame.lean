import ConduitStream.Playback.Conservation

/-! # The repeated frame and the chunk behind it

The drift safeguard repeats the next frame to play in front of the chunk that begins with it. The
chunk goes through `audio_mix_mono`, the repeated frame does not: `padFrame_repeats_iff` says when
the two come out alike, for every ring content and every interleaving with the producer. -/

namespace ConduitStream

/-! ## A ring with any content -/

section OfSlots

variable {φ : Type} (capacity : ℕ) (storage : ℕ → φ) (head tail : ℕ)

/-- A ring with any frames in its slots and any indices; the frames in front of `tail` count as
taken. -/
def AudioRingbuf.ofSlots : AudioRingbuf φ where
  storage := storage
  head := head
  tail := tail
  fed := (List.range (tail + framesBetween capacity head tail)).map fun i => storage (i % capacity)
  taken := (List.range tail).map fun i => storage (i % capacity)
  seen := 0
  input := (List.range (tail + framesBetween capacity head tail)).map fun i => storage (i % capacity)

variable {capacity head tail}

/-- A ring given by its slots and indices satisfies the invariant of the ring. -/
theorem ringInv_ofSlots (hhead : head < capacity) (htail : tail < capacity) :
    RingInv capacity (.ofSlots capacity storage head tail) where
  taken_fed := by
    apply List.IsPrefix.map
    rw [List.range_add]
    exact List.prefix_append _ _
  fed_input := List.prefix_refl _
  room := by
    simp only [AudioRingbuf.ofSlots, List.length_map, List.length_range, framesBetween]
    split_ifs <;> omega
  head := by
    simp only [AudioRingbuf.ofSlots, List.length_map, List.length_range, framesBetween]
    -- either the head is ahead in the same lap, or it has wrapped and is a lap further
    split_ifs with h
    · rw [Nat.add_sub_cancel' h, Nat.mod_eq_of_lt hhead]
    · rw [← Nat.add_assoc, Nat.add_sub_cancel' htail.le, Nat.add_mod_left, Nat.mod_eq_of_lt hhead]
  tail := by
    simp only [AudioRingbuf.ofSlots, List.length_map, List.length_range]
    exact (Nat.mod_eq_of_lt htail).symm
  stored j _ h := by simp [AudioRingbuf.ofSlots]

end OfSlots

/-! ## The repeated frame -/

section Pad

variable {capacity : ℕ} {monoOutput : Bool} {T₀ T : List StereoFrame} {primed₀ : Bool}
  {k : PlaybackTask} {cy : PlaybackCycle}

/-- A round that decides to repeat a frame repeats the one at its position, and goes on with a chunk
that begins with this frame as the mix leaves it. -/
theorem PlaybackRun.repeats (h : PlaybackRun capacity monoOutput T₀ primed₀ k T)
    (hcy : cy ∈ k.cycles) (hprimed : cy.primed = true)
    (hdup : audioDriftDecide cy.avail (driftCfg capacity) = .dup) :
    ∃ f rest, T[cy.position]? = some f ∧ cy.writes =
      [⟨.dup, [gainFrame cy.fix f]⟩, ⟨.chunk, playedFrame monoOutput cy.fix f :: rest⟩] := by
  obtain ⟨i, hi⟩ := List.getElem?_of_mem hcy
  obtain ⟨k', T', F, -, hspec, hpre⟩ := h.cycle_get hi
  obtain ⟨f, hhead, hwrites⟩ := hspec.repeats hprimed hdup
  obtain ⟨rest, rfl⟩ := List.head?_eq_some_iff.mp hhead
  refine ⟨f, rest.map (playedFrame monoOutput cy.fix), ?_, hwrites⟩
  rw [hspec.position]
  obtain ⟨later, rfl⟩ := hpre
  simp

/-- **When the repeated frame is a repetition.** From any ring content and with the flag set or
not, in every round of every interleaving with the producer that is primed, decides to repeat a
frame and has a gain between 0 and unity: the round writes one repeated frame and then a chunk, and
the repeated frame is the first of the chunk exactly if the build is stereo, or the two samples of
the next frame of the ring, scaled by the gain, round to the same value. -/
theorem padFrame_repeats_iff (storage : ℕ → StereoFrame) {head tail : ℕ} (hhead : head < capacity)
    (htail : tail < capacity) (monoOutput primed : Bool)
    (c : Config (AudioRingbuf StereoFrame) (RingStep StereoFrame) RingSide PlaybackCtl)
    (hreach : (playbackSystem capacity monoOutput).Reachable
      (playbackStart (.ofSlots capacity storage head tail) primed) c)
    (k : PlaybackTask) (hk : c.th .consumer = .ret k) (cy : PlaybackCycle) (hcy : cy ∈ k.cycles)
    (hprimed : cy.primed = true) (hdup : audioDriftDecide cy.avail (driftCfg capacity) = .dup)
    (hlo : 0 ≤ cy.fix.toInt) (hhi : cy.fix.toInt ≤ 65536) :
    ∃ f p out rest, c.st.fed[cy.position]? = some f ∧
      cy.writes = [⟨.dup, [p]⟩, ⟨.chunk, out :: rest⟩] ∧
      (p = out ↔ monoOutput = false ∨
        roundQ16 (f.1.toInt * cy.fix.toInt) = roundQ16 (f.2.toInt * cy.fix.toInt)) := by
  obtain ⟨hring, hrun⟩ :=
    playbackRun_of_reachable (ringInv_ofSlots storage hhead htail) rfl hreach hk
  obtain ⟨f, rest, hf, hwrites⟩ := hrun.repeats hcy hprimed hdup
  refine ⟨f, _, _, rest, ?_, hwrites, gainFrame_eq_playedFrame_iff hlo hhi monoOutput f⟩
  -- what is taken has been published
  obtain ⟨later, hlater⟩ := hring.taken_fed
  rw [← hlater, List.getElem?_append_left (List.getElem?_eq_some_iff.mp hf).1]
  exact hf

end Pad

/-! ## A mono build -/

/-- A ring of the size `audio_init` gives it, with the one frame `(100, 0)` left to play. -/
def lastFrameRing : AudioRingbuf StereoFrame := .ofSlots 88200 (fun _ => (100, 0)) 1 0

/-- The round a primed task of a mono build makes on it at unity gain. -/
def monoDupCycle : PlaybackCycle where
  entered := true
  fix := audioVolUnity
  avail := 1
  position := 0
  published := 1
  primed := true
  dropped := 0
  got := some 1
  writes := [⟨.dup, [(100, 0)]⟩, ⟨.chunk, [(50, 50)]⟩]
  left := true

/-- Behind this round. -/
def monoDupConfig :
    Config (AudioRingbuf StereoFrame) (RingStep StereoFrame) RingSide PlaybackCtl where
  st := { lastFrameRing with tail := 1, taken := [(100, 0)], seen := 1 }
  th := Function.update (playbackStart lastFrameRing true).th .consumer
    (.ret { primed := true, cycles := [monoDupCycle] })

/-- The round on this ring is made in a run of the playback task. -/
theorem monoDupConfig_reachable :
    (playbackSystem 88200 true).Reachable (playbackStart lastFrameRing true) monoDupConfig :=
  System.Reachable.runAlone .start rfl (.cycle audioVolUnity _ _) rfl

/-- The equivalence at this round: its frame is not repeated, as its samples differ. -/
theorem padFrame_repeats_iff_mono : ∃ f p out rest, monoDupConfig.st.fed[0]? = some f ∧
    monoDupCycle.writes = [⟨.dup, [p]⟩, ⟨.chunk, out :: rest⟩] ∧
    (p = out ↔ true = false ∨ roundQ16 (f.1.toInt * 65536) = roundQ16 (f.2.toInt * 65536)) :=
  padFrame_repeats_iff (fun _ => (100, 0)) (by decide) (by decide) true true monoDupConfig
    monoDupConfig_reachable { primed := true, cycles := [monoDupCycle] } rfl monoDupCycle
    (List.mem_singleton_self _) rfl rfl (by decide) (by decide)

/-- **In a mono build the repeated frame is not the first of the chunk**: it is written as
`(100, 0)`, the chunk begins with `(50, 50)`. -/
theorem padFrame_differs_mono : ¬ ∀ c, (playbackSystem 88200 true).Reachable
    (playbackStart lastFrameRing true) c → ∀ k, c.th .consumer = .ret k → ∀ cy ∈ k.cycles,
      cy.primed = true → audioDriftDecide cy.avail (driftCfg 88200) = .dup →
      0 ≤ cy.fix.toInt → cy.fix.toInt ≤ 65536 →
      ∃ p rest, cy.writes = [⟨.dup, [p]⟩, ⟨.chunk, p :: rest⟩] := by
  intro h
  obtain ⟨p, rest, hwrites⟩ := h monoDupConfig monoDupConfig_reachable
    { primed := true, cycles := [monoDupCycle] } rfl monoDupCycle (List.mem_singleton_self _) rfl
    rfl (by decide) (by decide)
  simp only [monoDupCycle, List.cons.injEq, I2sWrite.mk.injEq, true_and, and_true] at hwrites
  obtain ⟨rfl, hout⟩ := hwrites
  exact absurd hout.1 (by decide)

end ConduitStream
