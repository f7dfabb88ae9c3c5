import ConduitStream.Session.Lifecycle

/-! # The producer slot and the resources of a stream

In every run of the three tasks, whatever events come and whatever fails:

* between two events the producer slot, the owner and the streaming resources are those of the one
  producer that runs, and a failed `raop_rtp_start` has left no trace (`producerSlot_accounted`);
* from the start of the RTP task until it sets `s_done`, nobody closes its sockets or frees what it
  works with (`rtpTask_resources_live`). -/

namespace ConduitStream

variable {m : SessionModel} {s s' : SessionStatics} {rx : RtpRx} {c : SessionConfig}

/-! ## The producer slot -/

/-- The slot is held for the one producer that runs, and the streaming resources exist while the RTP
task runs. -/
structure SlotAccounted (s : SessionStatics) : Prop where
  slot : s.producerHeld = true ↔ ∃! p, (s.tasks p).alive = true
  owner : ∀ p, s.producerOwner = some p ↔ (s.tasks p).alive = true
  handle : ∀ p, (s.tasks p).task = true ↔ (s.tasks p).alive = true
  alac : s.alac.isSome = true ↔ (s.tasks .raopRtp).alive = true
  aesKey : s.aesKey.isSome = true ↔ (s.tasks .raopRtp).alive = true
  slots : s.slots = true ↔ (s.tasks .raopRtp).alive = true

/-- The same producer runs and holds the slot, and the same resources exist. -/
structure Undisturbed (s s' : SessionStatics) : Prop where
  held : s'.producerHeld = s.producerHeld
  owner : s'.producerOwner = s.producerOwner
  alive : ∀ p, (s'.tasks p).alive = (s.tasks p).alive
  handle : ∀ p, (s'.tasks p).task = (s.tasks p).task
  alac : s'.alac.isSome = s.alac.isSome
  aesKey : s'.aesKey.isSome = s.aesKey.isSome
  slots : s'.slots = s.slots

/-- Between two events the slot is accounted for. -/
theorem Between.slotAccounted (h : Between m s) : SlotAccounted s where
  slot := by
    rw [h.held]
    constructor
    · intro hp
      obtain ⟨p, hp⟩ := Option.isSome_iff_exists.mp hp
      refine ⟨p, (h.alive p).mpr hp, fun q hq => ?_⟩
      exact Option.some.inj (((h.alive q).mp hq).symm.trans hp)
    · rintro ⟨p, hp, -⟩
      rw [(h.alive p).mp hp]
      rfl
  owner p := by rw [h.owner, h.alive]
  handle p := by rw [h.task]
  alac := by rw [h.alac]
  aesKey := by rw [h.aesKey]
  slots := by rw [h.slots]

/-- The machine determines what is disturbed. -/
theorem Between.undisturbed (h : Between m s) (h' : Between m s') : Undisturbed s s' := by
  have halive : ∀ p, (s'.tasks p).alive = (s.tasks p).alive := fun p =>
    Bool.eq_iff_iff.mpr ((h'.alive p).trans (h.alive p).symm)
  exact
    { held := h'.held.trans h.held.symm
      owner := h'.owner.trans h.owner.symm
      alive := halive
      handle := fun p => by rw [h'.task, h.task, halive]
      alac := by rw [h'.alac, h.alac, halive]
      aesKey := by rw [h'.aesKey, h.aesKey, halive]
      slots := by rw [h'.slots, h.slots, halive] }

/-- A `raop_rtp_start` that returns -1 changes nothing. -/
theorem SessionModel.startRtp_failed {o : StartOutcome} (h : (m.startRtp o).2 = -1) :
    (m.startRtp o).1 = m := by
  unfold startRtp at h ⊢
  split at h
  · cases h
  · next hstart => rw [if_neg hstart]

/-- As long as a producer is alive, no other task changes the slot or its owner. -/
theorem slot_of_step {p : Producer} {t : SessionTask} {l : Option SessionStep} {c' : SessionConfig}
    (h : (sessionOutline anyEvent).Holds c) (hs : (sessionSystem anyEvent).Step c t l c')
    (halive : (c.st.statics.tasks p).alive = true) (ht : t ≠ .producer p) :
    c'.st.statics.producerHeld = c.st.statics.producerHeld ∧
      c'.st.statics.producerOwner = c.st.statics.producerOwner := by
  rcases h.guar hs with hsame | hguar
  · rw [hsame]
    exact ⟨rfl, rfl⟩
  · cases t with
    | rtsp => exact hguar.slot p halive
    | producer q =>
        -- another producer would have to be alive, too
        have hq : (c.st.statics.tasks q).alive = true := by
          generalize c'.st = s' at hguar
          cases hguar <;> assumption
        have hinv : StaticsInv c.st.statics := h.1
        exact absurd (congrArg _ (hinv.exclusive q p hq halive)) ht

/-- **Single producer, no leaked resources.** Between two events, the producer slot is held if and
only if exactly one producer task runs, which is its owner, and the decoder, the key and the reorder
slots exist if and only if the RTP task runs; a `raop_rtp_start` that has returned -1 leaves the slot,
the producers and the resources as they were before. At no time is the slot released while another
producer runs, or changed by another task than the producer that runs, and only its owner plays. -/
theorem producerSlot_accounted
    (hreach : (sessionSystem anyEvent).Reachable (sessionBoot rx) c) :
    (∀ k, c.th .rtsp = .ret k →
      SlotAccounted c.st.statics ∧
        ∀ d o, k = some d → d.event = .rtpStart o → d.result = -1 →
          Undisturbed d.before c.st.statics) ∧
      (∀ t c', (sessionSystem anyEvent).Step c t (some .release) c' →
        c.st.statics.producerHeld = true ∧
          ∀ p, (c.st.statics.tasks p).alive = true → t = .producer p) ∧
      (∀ p t l c', (c.st.statics.tasks p).alive = true → t ≠ .producer p →
        (sessionSystem anyEvent).Step c t l c' →
        c'.st.statics.producerHeld = c.st.statics.producerHeld ∧
          c'.st.statics.producerOwner = c.st.statics.producerOwner) ∧
      ∀ t c', (sessionSystem anyEvent).Step c t (some .playPcm) c' →
        c.st.statics.producerHeld = true ∧
          ∃ p, t = .producer p ∧ c.st.statics.producerOwner = some p := by
  have h := session_holds hreach
  refine ⟨fun k hth => ⟨?_, ?_⟩, fun t c' hs => h.ok hs,
    fun p t l c' halive ht hs => slot_of_step h hs halive ht, fun t c' hs => h.ok hs⟩
  · obtain ⟨m, -, hb⟩ := session_refines hreach hth
    exact hb.slotAccounted
  · rintro d o rfl hevent hresult
    -- the machine was in the same state before the start
    obtain ⟨m, -, -, hbefore, hr, hb⟩ := h.idle hth
    rw [hevent] at hr hb
    have hsame : (m.startRtp o).1 = m := SessionModel.startRtp_failed (hr.trans hresult)
    change Between (m.startRtp o).1 _ at hb
    rw [hsame] at hb
    exact hbefore.undisturbed hb

/-- The tone keeps the slot from the RTP task. -/
theorem producerSlot_accounted_tone : ∃ c : SessionConfig,
    (c.st.statics.producerOwner = some .diagTone ∧ c.st.statics.alac.isSome = false) ∧
      SlotAccounted c.st.statics := by
  have hrun : ((sessionBoot sampleRx).st.process anyEvent
      [.accept, sampleAnnounce, sampleRequest "SETUP" "" 3, .toneStart true,
        .rtpStart ⟨true, true, some fun _ => ⟨false, 0, 0, []⟩, true⟩]).map
      (fun s => (s.statics.producerOwner, s.statics.alac.isSome))
      = some (some .diagTone, false) := by decide +kernel
  obtain ⟨s, hs, heq⟩ := Option.map_eq_some_iff.mp hrun
  obtain ⟨c, k, hreach, hth, rfl⟩ := reachable_boot_process hs
  exact ⟨c, by simpa only [Prod.mk.injEq] using heq, ((producerSlot_accounted hreach).1 k hth).1⟩

/-! ## The resources of the RTP task -/

/-- Neither task changes what the RTP task has got at its start. -/
theorem stream_of_step {t : SessionTask} {l : Option SessionStep} {c' : SessionConfig}
    (h : (sessionOutline anyEvent).Holds c) (hs : (sessionSystem anyEvent).Step c t l c')
    (halive : (c.st.statics.tasks .raopRtp).alive = true) :
    c'.st.statics.io = c.st.statics.io ∧ c'.st.statics.alac = c.st.statics.alac ∧
      c'.st.statics.aesKey = c.st.statics.aesKey ∧ c'.st.statics.slots = c.st.statics.slots := by
  rcases h.guar hs with hsame | hguar
  · rw [hsame]
    exact ⟨rfl, rfl, rfl, rfl⟩
  · cases t with
    | rtsp => exact hguar.stream halive
    | producer p =>
        generalize c'.st = s' at hguar
        cases hguar <;> exact ⟨rfl, rfl, rfl, rfl⟩

/-- **Teardown ordering.** In every interleaving, from the creation of the RTP task until it sets
`s_done`, the three descriptors it has copied are open and its decoder, key and reorder slots exist;
no step closes one of these descriptors, frees anything or replaces what the task works with. -/
theorem rtpTask_resources_live
    (hreach : (sessionSystem anyEvent).Reachable (sessionBoot rx) c)
    (halive : (c.st.statics.tasks .raopRtp).alive = true) :
    ((c.st.statics.tasks .raopRtp).done = false ∧
      (∀ role, c.st.statics.io.fd role ∈ c.st.statics.udp) ∧ c.st.statics.alac.isSome = true ∧
      c.st.statics.aesKey.isSome = true ∧ c.st.statics.slots = true) ∧
    ∀ t l c', (sessionSystem anyEvent).Step c t l c' →
      (∀ role, l ≠ some (.close (c.st.statics.io.fd role))) ∧ l ≠ some .free ∧
        c'.st.statics.io = c.st.statics.io ∧ c'.st.statics.alac = c.st.statics.alac ∧
        c'.st.statics.aesKey = c.st.statics.aesKey ∧ c'.st.statics.slots = c.st.statics.slots := by
  have h := session_holds hreach
  have hinv : StaticsInv c.st.statics := h.1
  refine ⟨⟨hinv.not_done _ halive, hinv.sockets halive, hinv.alac halive, hinv.aesKey halive,
    hinv.slots halive⟩, fun t l c' hs => ⟨?_, ?_, stream_of_step h hs halive⟩⟩
  · rintro role rfl
    exact h.ok hs halive role rfl
  · rintro rfl
    have hfree : (c.st.statics.tasks .raopRtp).alive = false := h.ok hs
    exact Bool.false_ne_true (hfree.symm.trans halive)

/-- In the sample run the RTP task has three open sockets. -/
theorem rtpTask_resources_live_sample : ∃ c : SessionConfig,
    c.st.statics.io.fd .audio = 3 ∧ ∀ role, c.st.statics.io.fd role ∈ c.st.statics.udp := by
  have hrun : ((sessionBoot sampleRx).st.process anyEvent sampleStream).map
      (fun s => ((s.statics.tasks .raopRtp).alive, s.statics.io.fd .audio))
      = some (true, 3) := by decide +kernel
  obtain ⟨s, hs, heq⟩ := Option.map_eq_some_iff.mp hrun
  obtain ⟨c, k, hreach, hth, rfl⟩ := reachable_boot_process hs
  obtain ⟨halive, hfd⟩ : _ ∧ _ := by simpa only [Prod.mk.injEq] using heq
  exact ⟨c, hfd, (rtpTask_resources_live hreach halive).1.2.1⟩

end ConduitStream
