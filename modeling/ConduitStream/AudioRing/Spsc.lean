import Mathlib.Algebra.Order.Group.Nat
import Mathlib.Data.Nat.ModEq
import Mathlib.Tactic.Common
import ConduitStream.AudioRing.RingBuffer
import ConduitStream.Foundations.RelyGuarantee

/-! # The PCM ring under every interleaving

Count the frames ever published by the producer and ever taken by the consumer: `head` and `tail`
are these counts modulo the capacity, the counts are less than the capacity apart, and a slot whose
count is published and not taken holds the frame of that count. This invariant (`RingInv`) needs
only that each side leaves the index of the other alone; a stale snapshot errs on the safe side,
because the producer's count only grows and so does the consumer's.

`ringOutline` is the proof outline, `ringOutline_proves` its step lemma for every function of both
tasks, and `audioRingbuf_spsc` what follows for all interleavings. -/

namespace ConduitStream

/-! ## Index arithmetic -/

section Index

variable {capacity m n : ℕ}

/-- Adding less than one round to an index, brought back once. -/
theorem mod_add_eq (hn : n < capacity) :
    (m + n) % capacity = wrapIndex capacity (m % capacity + n) := by
  have hm : m % capacity < capacity := Nat.mod_lt _ (by omega)
  unfold wrapIndex
  rw [Nat.add_mod, Nat.mod_eq_of_lt hn]
  split_ifs with h
  · rw [Nat.mod_eq_sub_mod h, Nat.mod_eq_of_lt (by omega)]
  · exact Nat.mod_eq_of_lt (by omega)

/-- The indices of two counts less than one round apart give the difference of the counts. -/
theorem framesBetween_mod (hle : m ≤ n) (hlt : n < m + capacity) :
    framesBetween capacity (n % capacity) (m % capacity) = n - m := by
  obtain ⟨d, rfl⟩ := Nat.exists_eq_add_of_le hle
  have hm : m % capacity < capacity := Nat.mod_lt _ (by omega)
  have hd : d < capacity := by omega
  rw [mod_add_eq hd]
  unfold framesBetween wrapIndex
  split_ifs <;> omega

/-- Counts less than one round apart have different slots. -/
theorem mod_ne_mod {i j : ℕ} (hij : i < j) (hlt : j < i + capacity) :
    i % capacity ≠ j % capacity := by
  intro h
  have hdvd := (Nat.modEq_iff_dvd' hij.le).mp h
  have := Nat.le_of_dvd (by omega) hdvd
  omega

end Index

section Spsc

variable {φ : Type} (capacity : ℕ)

/-! ## The invariant -/

/-- The invariant of the ring. -/
structure RingInv (s : AudioRingbuf φ) : Prop where
  taken_fed : s.taken <+: s.fed
  fed_input : s.fed <+: s.input
  room : s.fed.length < s.taken.length + capacity
  head : s.head = s.fed.length % capacity
  tail : s.tail = s.taken.length % capacity
  stored : ∀ j, s.taken.length ≤ j → ∀ h : j < s.fed.length,
    s.storage (j % capacity) = s.fed[j]

/-- The slots of the published, unread range: from `tail` up to `head`. -/
def UnreadSlot (s : AudioRingbuf φ) (slot : ℕ) : Prop :=
  ∃ i < framesBetween capacity s.head s.tail, slot = (s.tail + i) % capacity

/-- The slot holds a frame the consumer has not taken, which was published before its last snapshot
of `head`. -/
def SeenFrame (s : AudioRingbuf φ) (slot : ℕ) : Prop :=
  ∃ j, s.taken.length ≤ j ∧ j < s.seen ∧ slot = j % capacity ∧ s.fed[j]? = some (s.storage slot)

/-- What a step of the producer may change: it publishes further frames and writes slots. -/
structure ProducerStep (s s' : AudioRingbuf φ) : Prop where
  tail : s'.tail = s.tail
  taken : s'.taken = s.taken
  seen : s'.seen = s.seen
  fed : s.fed <+: s'.fed

/-- What a step of the consumer may change: it takes further frames. -/
structure ConsumerStep (s s' : AudioRingbuf φ) : Prop where
  head : s'.head = s.head
  storage : s'.storage = s.storage
  fed : s'.fed = s.fed
  input : s'.input = s.input
  taken : s.taken <+: s'.taken

/-- The producer may leave the ring as it is. -/
theorem ProducerStep.refl (s : AudioRingbuf φ) : ProducerStep s s :=
  ⟨rfl, rfl, rfl, List.prefix_refl _⟩

/-- Two steps of the producer in a row. -/
theorem ProducerStep.trans {s s' s'' : AudioRingbuf φ} (h : ProducerStep s s')
    (h' : ProducerStep s' s'') : ProducerStep s s'' :=
  ⟨h'.tail.trans h.tail, h'.taken.trans h.taken, h'.seen.trans h.seen, h.fed.trans h'.fed⟩

/-- The consumer may leave the ring as it is. -/
theorem ConsumerStep.refl (s : AudioRingbuf φ) : ConsumerStep s s :=
  ⟨rfl, rfl, rfl, rfl, List.prefix_refl _⟩

/-- Two steps of the consumer in a row. -/
theorem ConsumerStep.trans {s s' s'' : AudioRingbuf φ} (h : ConsumerStep s s')
    (h' : ConsumerStep s' s'') : ConsumerStep s s'' :=
  ⟨h'.head.trans h.head, h'.storage.trans h.storage, h'.fed.trans h.fed, h'.input.trans h.input,
    h.taken.trans h'.taken⟩

/-- The condition of each step: the producer copies into slots outside the unread range, the
consumer copies frames that were published before its snapshot. -/
def RingStepOk : RingSide → RingStep φ → AudioRingbuf φ → Prop
  | .producer, .copyIn slot _, s => ¬UnreadSlot capacity s slot
  | .consumer, .copyOut slot, s => SeenFrame capacity s slot
  | _, _, _ => True

/-- What is handed to `feed_pcm` but not yet published, between two programs of the producer. -/
def RingIdle : (who : RingSide) → RingCtl φ who → AudioRingbuf φ → Prop
  | .producer, .idle, s => s.input = s.fed
  | .producer, .feeding pcm off, s => off ≤ pcm.length ∧ s.input = s.fed ++ pcm.drop off
  | .consumer, _, _ => True

/-- The proof outline. -/
def ringOutline : Outline (AudioRingbuf φ) (RingStep φ) RingSide (RingCtl φ) where
  inv := RingInv capacity
  rely
    | .producer => ConsumerStep
    | .consumer => ProducerStep
  guar
    | .producer => ProducerStep
    | .consumer => ConsumerStep
  ok := RingStepOk capacity
  idle := RingIdle
  rely_refl
    | .producer => ConsumerStep.refl
    | .consumer => ProducerStep.refl
  rely_trans
    | .producer => ConsumerStep.trans
    | .consumer => ProducerStep.trans
  compat := fun {t t' s s'} ht _ _ hg => by
    cases t <;> cases t'
    · exact absurd rfl ht
    · exact hg
    · exact hg
    · exact absurd rfl ht

/-! ## The producer -/

variable {capacity}

/-- What the producer knows while it is in a call: what it has published and been handed, that the
consumer has taken at least `Q` frames, and the frames `out` it has copied in behind the published
ones. -/
structure ProducerView (capacity : ℕ) (F I : List φ) (Q : ℕ) (out : List φ)
    (s : AudioRingbuf φ) : Prop where
  fed : s.fed = F
  input : s.input = I
  taken : Q ≤ s.taken.length
  copied : ∀ i, ∀ h : i < out.length, s.storage ((F.length + i) % capacity) = out[i]

section Producer

variable {F I : List φ} {Q : ℕ} {out : List φ}

/-- No step of the consumer changes what the producer knows. -/
theorem producerView_stable :
    (ringOutline (φ := φ) capacity).Stable .producer (ProducerView capacity F I Q out) :=
  fun _ _ _ _ hr h =>
    { fed := hr.fed.trans h.fed
      input := hr.input.trans h.input
      taken := h.taken.trans hr.taken.length_le
      copied := fun i hi => by rw [hr.storage]; exact h.copied i hi }

/-- The producer reads its own index. -/
theorem snapHead_producer :
    (ringOutline capacity).Triple .producer (ProducerView capacity F I Q out) (snapHead .producer)
      fun h s => h = F.length % capacity ∧ ProducerView capacity F I Q out s :=
  .atom producerView_stable (fun _ => .pure_and producerView_stable)
    fun s hi h => ⟨ProducerStep.refl s, hi, trivial, by rw [hi.head, h.fed], h⟩

/-- The snapshot of `tail` is the index of some count the consumer has reached. -/
theorem snapTail_producer :
    (ringOutline capacity).Triple .producer (ProducerView capacity F I Q out) snapTail
      fun t s => ∃ Q', t = Q' % capacity ∧ Q' ≤ F.length ∧ F.length < Q' + capacity ∧
        ProducerView capacity F I Q' out s :=
  .atom producerView_stable
    (fun _ => .exists fun _ => .pure_and (.pure_and (.pure_and producerView_stable)))
    fun s hi h =>
      ⟨ProducerStep.refl s, hi, trivial, s.taken.length, hi.tail,
        h.fed ▸ hi.taken_fed.length_le, h.fed ▸ hi.room, { h with taken := le_rfl }⟩

/-- The frames the producer counts as available were available at some time. -/
theorem audioRingbufAvailable_producer :
    (ringOutline capacity).Triple .producer (ProducerView capacity F I Q out)
      (audioRingbufAvailable capacity .producer)
      fun n s => ∃ Q', Q' + n = F.length ∧ n < capacity ∧ ProducerView capacity F I Q' out s := by
  have hst : ∀ n, (ringOutline (φ := φ) capacity).Stable .producer fun s =>
      ∃ Q', Q' + n = F.length ∧ n < capacity ∧ ProducerView capacity F I Q' out s :=
    fun _ => .exists fun _ => .pure_and (.pure_and producerView_stable)
  refine snapHead_producer.bind fun head => .pure fun hhead => ?_
  refine snapTail_producer.bind fun tail => .exists fun Q' => .pure fun htail =>
    .pure fun hle => .pure fun hlt => ?_
  refine .ret (hst _) fun s _ h => ⟨Q', ?_, ?_, h⟩
  all_goals
    rw [hhead, htail, framesBetween_mod hle hlt]
    omega

/-- The free space errs on the safe side: the producer may fill it whatever the consumer does. -/
theorem audioRingbufFreeSpace_producer :
    (ringOutline capacity).Triple .producer (ProducerView capacity F I Q out)
      (audioRingbufFreeSpace capacity .producer)
      fun space s => ∃ Q', Q' ≤ F.length ∧ F.length + space < Q' + capacity ∧
        ProducerView capacity F I Q' out s := by
  refine audioRingbufAvailable_producer.bind fun n => .exists fun Q' => .pure fun hn =>
    .pure fun hlt => ?_
  refine .ret ?_ fun s _ h => ⟨Q', by omega, by omega, h⟩
  exact .exists fun _ => .pure_and (.pure_and producerView_stable)

/-- A slot behind the published frames is outside the unread range. -/
theorem not_unreadSlot {s : AudioRingbuf φ} (hi : RingInv capacity s) {k : ℕ}
    (hle : s.fed.length ≤ k) (hlt : k < s.taken.length + capacity) :
    ¬UnreadSlot capacity s (k % capacity) := by
  rintro ⟨i, hi', heq⟩
  rw [hi.head, hi.tail, framesBetween_mod hi.taken_fed.length_le hi.room] at hi'
  rw [hi.tail, Nat.mod_add_mod] at heq
  exact mod_ne_mod (by omega) (by omega) heq.symm

/-- Writing such a slot keeps the invariant. -/
theorem RingInv.copyIn {s : AudioRingbuf φ} (hi : RingInv capacity s) {k : ℕ}
    (hle : s.fed.length ≤ k) (hlt : k < s.taken.length + capacity) (f : φ) :
    RingInv capacity { s with storage := Function.update s.storage (k % capacity) f } :=
  { hi with
    stored := by
      intro j hj hlen
      dsimp only at hlen ⊢
      rw [Function.update_of_ne (mod_ne_mod (by omega) (by dsimp only at hj; omega))]
      exact hi.stored j hj hlen }

/-- **Copying in**: consecutive slots from that of the count `F.length + out.length` on. -/
theorem copyIn_producer {slot : ℕ} {fs : List φ}
    (hroom : F.length + out.length + fs.length < Q + capacity)
    (hslot : ∀ i < fs.length, slot + i = (F.length + out.length + i) % capacity) :
    (ringOutline capacity).Triple .producer (ProducerView capacity F I Q out) (copyIn slot fs)
      fun _ => ProducerView capacity F I Q (out ++ fs) := by
  induction fs generalizing slot out with
  | nil =>
      rw [List.append_nil]
      exact .ret producerView_stable fun _ _ h => h
  | cons f fs ih =>
      rw [List.length_cons] at hroom hslot
      have hslot0 : slot = (F.length + out.length) % capacity := hslot 0 (by omega)
      have hrest : (ringOutline capacity).Triple .producer
          (ProducerView capacity F I Q (out ++ [f])) (copyIn (slot + 1) fs)
          fun _ => ProducerView capacity F I Q (out ++ f :: fs) := by
        rw [List.append_cons out f fs]
        refine ih ?_ fun i hi => ?_
        · rw [List.length_append, List.length_singleton]
          omega
        · have hnext := hslot (i + 1) (by omega)
          rw [List.length_append, List.length_singleton, Nat.add_assoc slot, Nat.add_comm 1 i, hnext]
          congr 1
          omega
      refine .bind (.atom producerView_stable (fun _ => producerView_stable) fun s hi h => ?_)
        fun _ => hrest
      subst hslot0
      have hle : s.fed.length ≤ F.length + out.length := by rw [h.fed]; omega
      have hlt : F.length + out.length < s.taken.length + capacity := by
        have := h.taken
        omega
      refine ⟨⟨rfl, rfl, rfl, List.prefix_refl _⟩, hi.copyIn hle hlt f,
        not_unreadSlot hi hle hlt, ?_⟩
      exact
        { fed := h.fed
          input := h.input
          taken := h.taken
          copied := by
            intro i hlen
            dsimp only
            rw [List.length_append, List.length_singleton] at hlen
            rcases Nat.lt_succ_iff_lt_or_eq.mp hlen with hi' | rfl
            · -- the slots copied into are less than one round apart
              have hround : out.length < capacity := by
                have hQ := h.taken.trans hi.taken_fed.length_le
                rw [h.fed] at hQ
                omega
              rw [Function.update_of_ne (mod_ne_mod (by omega) (by omega)),
                List.getElem_append_left hi']
              exact h.copied i hi'
            · rw [Function.update_self, List.getElem_append_right le_rfl]
              simp }

/-- **Publishing**: the producer moves its index behind the frames it has copied in. -/
theorem publishHead_producer (hroom : F.length + out.length < Q + capacity)
    (hinput : F ++ out <+: I) {head : ℕ} (hhead : head = (F.length + out.length) % capacity) :
    (ringOutline capacity).Triple .producer (ProducerView capacity F I Q out)
      (publishHead head out) fun _ => ProducerView capacity (F ++ out) I Q [] := by
  refine .atom producerView_stable (fun _ => producerView_stable) fun s hi h => ?_
  have htaken := h.taken
  refine ⟨⟨rfl, rfl, rfl, List.prefix_append _ _⟩, ?_, trivial, ?_⟩
  · exact
      { taken_fed := hi.taken_fed.trans (List.prefix_append _ _)
        fed_input := by dsimp only; rw [h.fed, h.input]; exact hinput
        room := by dsimp only; rw [h.fed, List.length_append]; omega
        head := by dsimp only; rw [h.fed, List.length_append, hhead]
        tail := hi.tail
        stored := by
          intro j hj hlen
          dsimp only at hj hlen ⊢
          by_cases hold : j < s.fed.length
          · rw [List.getElem_append_left hold]
            exact hi.stored j hj hold
          · -- a frame just published stands where it was copied to
            rw [List.length_append] at hlen
            rw [List.getElem_append_right (by omega), ← h.copied (j - s.fed.length) (by omega),
              ← h.fed]
            congr 2
            omega }
  · exact
      { fed := by dsimp only; rw [h.fed]
        input := h.input
        taken := h.taken
        copied := fun i hlen => absurd hlen (Nat.not_lt_zero i) }

/-- Nothing copied in is known of any later moment. -/
theorem ProducerView.start {s : AudioRingbuf φ} (h : ProducerView capacity F I Q out s) :
    ProducerView capacity F I 0 [] s :=
  { h with taken := Nat.zero_le _, copied := fun i hlen => absurd hlen (Nat.not_lt_zero i) }

/-- **`audio_ringbuf_write`** publishes the frames it says it has written. -/
theorem audioRingbufWrite_producer {todo : List φ} :
    (ringOutline capacity).Triple .producer (ProducerView capacity F (F ++ todo) 0 [])
      (audioRingbufWrite capacity todo) fun n s => n ≤ todo.length ∧
        ProducerView capacity (F ++ todo.take n) (F ++ todo) 0 [] s := by
  have hst : ∀ n, (ringOutline (φ := φ) capacity).Stable .producer fun s => n ≤ todo.length ∧
      ProducerView capacity (F ++ todo.take n) (F ++ todo) 0 [] s :=
    fun _ => .pure_and producerView_stable
  refine audioRingbufFreeSpace_producer.bind fun space => .exists fun Q' => .pure fun hQ' =>
    .pure fun hroom => ?_
  dsimp only
  generalize hn : min todo.length space = n
  split
  · next h0 =>
      refine .ret (hst 0) fun s _ h => ⟨Nat.zero_le _, ?_⟩
      rw [List.take_zero, List.append_nil]
      exact h.start
  · next h0 =>
      refine snapHead_producer.bind fun head => .pure fun hhead => ?_
      have hlt : head < capacity := hhead ▸ Nat.mod_lt _ (by omega)
      generalize hfirst : min (capacity - head) n = first
      have hlen₁ : (todo.take first).length = first := by rw [List.length_take]; omega
      have hlen₂ : ((todo.take n).drop first).length = n - first := by
        rw [List.length_drop, List.length_take]
        omega
      have hsplit : todo.take first ++ (todo.take n).drop first = todo.take n := by
        have htake : todo.take first = (todo.take n).take first := by
          rw [List.take_take, min_eq_left (by omega)]
        rw [htake, List.take_append_drop]
      have hlen : (todo.take n).length = n := by rw [List.length_take]; omega
      -- up to the end of the storage, and on from its start
      have hcopy₁ : (ringOutline capacity).Triple .producer
          (ProducerView capacity F (F ++ todo) Q' []) (copyIn head (todo.take first))
          fun _ => ProducerView capacity F (F ++ todo) Q' (todo.take first) := by
        refine copyIn_producer ?_ fun i hi => ?_
        · rw [hlen₁, List.length_nil]
          omega
        · rw [List.length_nil, Nat.add_zero, mod_add_eq (by omega), ← hhead, wrapIndex,
            if_neg (by omega)]
      have hcopy₂ : (ringOutline capacity).Triple .producer
          (ProducerView capacity F (F ++ todo) Q' (todo.take first))
          (copyIn 0 ((todo.take n).drop first)) fun _ => ProducerView capacity F (F ++ todo) Q'
            (todo.take first ++ (todo.take n).drop first) := by
        refine copyIn_producer ?_ fun i hi => ?_
        · rw [hlen₁, hlen₂]
          omega
        · rw [hlen₁, Nat.add_assoc, mod_add_eq (by omega), ← hhead, wrapIndex, if_pos (by omega)]
          omega
      rw [hsplit] at hcopy₂
      have hpublish : (ringOutline capacity).Triple .producer
          (ProducerView capacity F (F ++ todo) Q' (todo.take n))
          (publishHead (wrapIndex capacity (head + n)) (todo.take n))
          fun _ => ProducerView capacity (F ++ todo.take n) (F ++ todo) Q' [] :=
        publishHead_producer (by rw [hlen]; omega)
          ((List.prefix_append_right_inj F).mpr (List.take_prefix n todo))
          (by rw [hlen, mod_add_eq (by omega), hhead])
      refine hcopy₁.bind fun _ => hcopy₂.bind fun _ => hpublish.bind fun _ => ?_
      exact .ret (hst n) fun s _ h => ⟨by omega, h.start⟩

/-- Between two calls, nothing the other side does matters. -/
theorem ringIdle_stable (k : FeedPcm φ) :
    (ringOutline (φ := φ) capacity).Stable .producer (RingIdle .producer k) := by
  intro s s' _ _ hr h
  cases k with
  | idle => exact hr.input.trans (h.trans hr.fed.symm)
  | feeding pcm off => exact ⟨h.1, hr.input.trans (h.2.trans (by rw [hr.fed]))⟩

/-- Entering `feed_pcm`: all frames of the call are left to feed. -/
theorem feedPcm_producer (pcm : List φ) :
    (ringOutline capacity).Triple .producer (RingIdle .producer FeedPcm.idle)
      (feedPcm pcm) (RingIdle .producer) := by
  have hfeed : (ringOutline capacity).Triple .producer (RingIdle .producer FeedPcm.idle)
      (.modify .feed fun s : AudioRingbuf φ => { s with input := s.input ++ pcm })
      fun _ => RingIdle .producer (FeedPcm.feeding pcm 0) := by
    refine .atom (ringIdle_stable _) (fun _ => ringIdle_stable _) fun s hi h => ?_
    refine ⟨⟨rfl, rfl, rfl, List.prefix_refl _⟩, ?_, trivial, Nat.zero_le _, ?_⟩
    · exact { hi with fed_input := hi.fed_input.trans (List.prefix_append _ _) }
    · exact congrArg (· ++ pcm) h
  exact hfeed.bind fun _ => .ret (ringIdle_stable _) fun _ _ h => h

/-- Giving up the rest of a call: what was handed over and what has been fed agree. -/
theorem giveUp_producer (pcm : List φ) (off : ℕ) :
    (ringOutline capacity).Triple .producer (RingIdle .producer (FeedPcm.feeding pcm off))
      (.modify .giveUp fun s : AudioRingbuf φ =>
        { s with input := s.input.take (s.input.length - (pcm.length - off)) })
      fun _ => RingIdle .producer FeedPcm.idle := by
  refine .atom (ringIdle_stable _) (fun _ => ringIdle_stable _) fun s hi h => ?_
  have hcut : s.input.take (s.input.length - (pcm.length - off)) = s.fed := by
    rw [h.2]
    simp
  exact ⟨⟨rfl, rfl, rfl, List.prefix_refl _⟩,
    { hi with fed_input := hcut.symm ▸ List.prefix_refl _ }, trivial, hcut⟩

/-- **A round of `feed_pcm`** keeps account of what is left to feed. -/
theorem feedPcmRound_producer (sRun : Bool) (pcm : List φ) (off : ℕ) :
    (ringOutline capacity).Triple .producer (RingIdle .producer (FeedPcm.feeding pcm off))
      (feedPcmRound capacity sRun pcm off) (RingIdle .producer) := by
  unfold feedPcmRound
  split
  · cases sRun with
    | true =>
        -- name what has been published before the call
        have hwrite : (ringOutline capacity).Triple .producer
            (fun s => ∃ F, off ≤ pcm.length ∧ ProducerView capacity F (F ++ pcm.drop off) 0 [] s)
            (do
              let n ← audioRingbufWrite capacity (pcm.drop off)
              pure (FeedPcm.feeding pcm (off + n)))
            (RingIdle .producer) := by
          refine .exists fun F => .pure fun hoff => audioRingbufWrite_producer.bind fun n =>
            .pure fun hn => .ret (ringIdle_stable _) fun s _ h => ⟨?_, ?_⟩
          · rw [List.length_drop] at hn
            omega
          · rw [h.input, h.fed, List.append_assoc, ← List.drop_drop, List.take_append_drop]
        exact hwrite.weaken fun s _ h =>
          ⟨s.fed, h.1, rfl, h.2, Nat.zero_le _, fun i hi => absurd hi (Nat.not_lt_zero i)⟩
    | false => exact (giveUp_producer pcm off).bind fun _ => .ret (ringIdle_stable _) fun _ _ h => h
  · next hge =>
      refine .ret (ringIdle_stable _) fun s _ h => ?_
      have hrest : pcm.drop off = [] := List.drop_eq_nil_iff.mpr (by omega)
      have hinput := h.2
      rw [hrest, List.append_nil] at hinput
      exact hinput

end Producer

/-! ## The consumer -/

/-- What the consumer knows while it is in a call: what it has taken, how many frames had been
published at its snapshot, and the frames `out` it has copied out. -/
structure ConsumerView (T : List φ) (N : ℕ) (out : List φ) (s : AudioRingbuf φ) : Prop where
  taken : s.taken = T
  seen : s.seen = N
  published : N ≤ s.fed.length
  copied : T ++ out <+: s.fed

section Consumer

variable {T : List φ} {N : ℕ} {out : List φ}

/-- No step of the producer changes what the consumer knows. -/
theorem consumerView_stable :
    (ringOutline (φ := φ) capacity).Stable .consumer (ConsumerView T N out) :=
  fun _ _ _ _ hr h =>
    { taken := hr.taken.trans h.taken
      seen := hr.seen.trans h.seen
      published := h.published.trans hr.fed.length_le
      copied := h.copied.trans hr.fed }

/-- What the consumer knows between two calls: what it has taken, and that the frames `K` have been
published. -/
structure ConsumerAt (T K : List φ) (s : AudioRingbuf φ) : Prop where
  taken : s.taken = T
  known : K <+: s.fed

/-- Nor the frames it has copied out. -/
theorem consumerAt_stable {K : List φ} :
    (ringOutline (φ := φ) capacity).Stable .consumer (ConsumerAt T K) :=
  fun _ _ _ _ hr h => ⟨hr.taken.trans h.taken, h.known.trans hr.fed⟩

/-- Frames once published stay published, whoever steps. -/
theorem Outline.Triple.known {α : Type} {p : RingProg φ α} {pre : AudioRingbuf φ → Prop}
    {post : α → AudioRingbuf φ → Prop} (K : List φ)
    (hp : (ringOutline capacity).Triple .consumer pre p post) :
    (ringOutline capacity).Triple .consumer (fun s => pre s ∧ K <+: s.fed) p
      fun a s => post a s ∧ K <+: s.fed := by
  refine hp.frame fun s s' hstep hK => ?_
  rcases hstep with hr | hg
  · exact hK.trans hr.fed
  · exact hg.fed ▸ hK

/-- The index of `tail`, for the consumer itself. -/
theorem snapTail_consumer :
    (ringOutline capacity).Triple .consumer (ConsumerView (φ := φ) T N out) snapTail
      fun t s => t = T.length % capacity ∧ ConsumerView T N out s :=
  .atom consumerView_stable (fun _ => .pure_and consumerView_stable)
    fun s hi h => ⟨ConsumerStep.refl s, hi, trivial, by rw [hi.tail, h.taken], h⟩

/-- The frames counted as available at a snapshot stay available, and all frames known to be
published are among them. -/
theorem audioRingbufAvailable_consumer {K : List φ} :
    (ringOutline capacity).Triple .consumer (ConsumerAt T K)
      (audioRingbufAvailable capacity .consumer) fun n s =>
        (n < capacity ∧ K.length ≤ T.length + n) ∧ ConsumerView T (T.length + n) [] s := by
  have hhead : (ringOutline capacity).Triple .consumer (ConsumerAt T K)
      (snapHead .consumer) fun h s => ∃ N, (h = N % capacity ∧ T.length ≤ N ∧
        N < T.length + capacity ∧ K.length ≤ N) ∧ ConsumerView T N [] s := by
    refine .atom consumerAt_stable (fun _ => .exists fun _ => .pure_and consumerView_stable)
      fun s hi h => ?_
    obtain ⟨rfl, hknown⟩ := h
    -- the snapshot stands for the number of frames published by now
    exact ⟨⟨rfl, rfl, rfl, rfl, List.prefix_refl _⟩, { hi with }, trivial, s.fed.length,
      ⟨hi.head, hi.taken_fed.length_le, hi.room, hknown.length_le⟩, rfl, rfl, le_rfl,
      by rw [List.append_nil]; exact hi.taken_fed⟩
  refine hhead.bind fun head => .exists fun N => .pure fun ⟨hh, hle, hlt, hK⟩ =>
    snapTail_consumer.bind fun tail => .pure fun ht =>
      .ret (.pure_and consumerView_stable) fun s _ h => ?_
  rw [hh, ht, framesBetween_mod hle hlt]
  refine ⟨⟨by omega, by omega⟩, ?_⟩
  rwa [Nat.add_sub_cancel' hle]

/-- A frame seen by the snapshot is the next one behind those copied out. -/
theorem ConsumerView.next {s : AudioRingbuf φ} (h : ConsumerView T N out s)
    (hi : RingInv capacity s) (hlt : T.length + out.length < N) :
    SeenFrame capacity s ((T.length + out.length) % capacity) ∧
      ConsumerView T N (out ++ [s.storage ((T.length + out.length) % capacity)]) s := by
  have hpub := h.published
  have hj : T.length + out.length < s.fed.length := by omega
  have hstored := hi.stored (T.length + out.length) (by rw [h.taken]; omega) hj
  refine ⟨⟨T.length + out.length, by rw [h.taken]; omega, by rw [h.seen]; exact hlt, rfl, ?_⟩, ?_⟩
  · rw [hstored, List.getElem?_eq_getElem hj]
  · refine { h with copied := ?_ }
    have hcopied := h.copied
    rw [List.prefix_iff_eq_take, List.length_append] at hcopied
    rw [← List.append_assoc, hcopied, hstored, ← List.take_succ_eq_append_getElem hj]
    exact List.take_prefix _ _

/-- The consumer copies one more frame out of its slot, the next one of those fed. -/
theorem copyFrame_consumer {slot : ℕ} (hlt : T.length + out.length < N)
    (hslot : slot = (T.length + out.length) % capacity) :
    (ringOutline capacity).Triple .consumer (ConsumerView (φ := φ) T N out)
      (.read (.copyOut slot) fun s => s.storage slot)
      fun f => ConsumerView T N (out ++ [f]) := by
  refine .atom consumerView_stable (fun _ => consumerView_stable) fun s hi h => ?_
  obtain ⟨hseen, hnext⟩ := h.next hi hlt
  subst hslot
  exact ⟨ConsumerStep.refl s, hi, hseen, hnext⟩

/-- **Copying out**: consecutive slots from that of the count `T.length + out.length` on. -/
theorem copyOut_consumer {slot n : ℕ} (hlen : T.length + out.length + n ≤ N)
    (hslot : ∀ i < n, slot + i = (T.length + out.length + i) % capacity) :
    (ringOutline capacity).Triple .consumer (ConsumerView (φ := φ) T N out) (copyOut slot n)
      fun fs s => fs.length = n ∧ ConsumerView T N (out ++ fs) s := by
  have hst : ∀ n (out : List φ) (fs : List φ), (ringOutline (φ := φ) capacity).Stable .consumer
      fun s => fs.length = n ∧ ConsumerView T N (out ++ fs) s :=
    fun _ _ _ => .pure_and consumerView_stable
  induction n generalizing slot out with
  | zero => exact .ret (hst 0 out []) fun _ _ h => ⟨rfl, by rw [List.append_nil]; exact h⟩
  | succ n ih =>
      -- the first frame, and the rest from the next slot on
      refine (copyFrame_consumer (by omega) (hslot 0 (by omega))).bind fun f => ?_
      have hrest : (ringOutline capacity).Triple .consumer (ConsumerView T N (out ++ [f]))
          (copyOut (slot + 1) n) fun fs s => fs.length = n ∧ ConsumerView T N (out ++ f :: fs) s := by
        have hmore := @ih (out ++ [f]) (slot + 1)
          (by rw [List.length_append, List.length_singleton]; omega)
          (fun i hi => by
            have hnext := hslot (i + 1) (by omega)
            rw [List.length_append, List.length_singleton, Nat.add_assoc slot, Nat.add_comm 1 i,
              hnext]
            congr 1
            omega)
        simpa only [List.append_assoc, List.singleton_append] using hmore
      exact hrest.bind fun fs => .pure fun hfs => .ret (hst (n + 1) out (f :: fs)) fun _ _ h =>
        ⟨by rw [List.length_cons, hfs], h⟩

/-- **Publishing** over the frames that follow those taken. -/
theorem publishTail_consumer (n : ℕ) (post : List φ → Prop) {tail : ℕ}
    {frames : AudioRingbuf φ → List φ} (htail : tail = (T.length + n) % capacity)
    (hframes : ∀ s, RingInv capacity s → ConsumerView T N out s →
      (frames s).length = n ∧ T ++ frames s <+: s.fed ∧ post (frames s)) :
    (ringOutline capacity).Triple .consumer (ConsumerView T N out) (publishTail tail frames)
      fun _ s => ∃ fs, (fs.length = n ∧ post fs) ∧ ConsumerAt (T ++ fs) [] s := by
  -- the one atomic step: the store of the tail, seen from the state that executes it
  refine .atom consumerView_stable (fun _ => .exists fun _ => .pure_and consumerAt_stable)
    fun s hi h => ?_
  obtain ⟨hlen, hfed, hpost⟩ := hframes s hi h
  rw [← h.taken] at hfed htail
  refine ⟨⟨rfl, rfl, rfl, rfl, List.prefix_append _ _⟩, ?_, trivial, frames s, ⟨hlen, hpost⟩,
    by rw [h.taken], List.nil_prefix⟩
  have hroom := hi.room
  exact
    { taken_fed := hfed
      fed_input := hi.fed_input
      room := by dsimp only; rw [List.length_append]; omega
      head := hi.head
      tail := by dsimp only; rw [List.length_append, hlen, htail]
      -- the frames still held were held before, and no slot has changed
      stored := by
        intro j hj hlt
        dsimp only at hj
        rw [List.length_append] at hj
        exact hi.stored j (by omega) hlt }

/-- **`audio_ringbuf_read`** copies out frames seen by its snapshot, and takes those it has copied
out; it finds some if a frame beyond those taken is known to be published. -/
theorem audioRingbufRead_consumer {K : List φ} (nFrames : ℕ) :
    (ringOutline (φ := φ) capacity).Triple .consumer (ConsumerAt T K)
      (audioRingbufRead capacity nFrames) fun fs s =>
        (fs.length ≤ nFrames ∧ (T.length < K.length → 0 < nFrames → fs ≠ [])) ∧
          ConsumerAt (T ++ fs) K s := by
  have hst : ∀ fs : List φ, (ringOutline (φ := φ) capacity).Stable .consumer fun s =>
      (fs.length ≤ nFrames ∧ (T.length < K.length → 0 < nFrames → fs ≠ [])) ∧
        ConsumerAt (T ++ fs) [] s :=
    fun _ => .pure_and consumerAt_stable
  have hread : (ringOutline (φ := φ) capacity).Triple .consumer (ConsumerAt T K)
      (audioRingbufRead capacity nFrames) fun fs s =>
        (fs.length ≤ nFrames ∧ (T.length < K.length → 0 < nFrames → fs ≠ [])) ∧
          ConsumerAt (T ++ fs) [] s := by
    refine audioRingbufAvailable_consumer.bind fun avail => .pure fun ⟨havail, hK⟩ => ?_
    dsimp only
    generalize hn : min nFrames avail = n
    split
    · next h0 =>
        refine .ret (hst []) fun s _ h => ⟨⟨Nat.zero_le _, ?_⟩, ?_, List.nil_prefix⟩
        · intro hlt hpos
          omega
        · rw [List.append_nil]
          exact h.taken
    · refine snapTail_consumer.bind fun tail => .pure fun htail => ?_
      have hlt : tail < capacity := htail ▸ Nat.mod_lt _ (by omega)
      generalize hfirst : min (capacity - tail) n = first
      -- up to the end of the storage, and on from its start
      have hcopy₁ : (ringOutline (φ := φ) capacity).Triple .consumer
          (ConsumerView T (T.length + avail) []) (copyOut tail first)
          fun out₁ s => out₁.length = first ∧ ConsumerView T (T.length + avail) out₁ s := by
        refine copyOut_consumer ?_ fun i hi => ?_
        · rw [List.length_nil]
          omega
        · rw [List.length_nil, Nat.add_zero, mod_add_eq (by omega), ← htail, wrapIndex,
            if_neg (by omega)]
      refine hcopy₁.bind fun out₁ => .pure fun hlen₁ => ?_
      have hcopy₂ : (ringOutline (φ := φ) capacity).Triple .consumer
          (ConsumerView T (T.length + avail) out₁) (copyOut 0 (n - first))
          fun out₂ s => out₂.length = n - first ∧
            ConsumerView T (T.length + avail) (out₁ ++ out₂) s := by
        refine copyOut_consumer (by omega) fun i hi => ?_
        rw [hlen₁, Nat.add_assoc, mod_add_eq (by omega), ← htail, wrapIndex, if_pos (by omega)]
        omega
      refine hcopy₂.bind fun out₂ => .pure fun hlen₂ => ?_
      have hpublish : (ringOutline (φ := φ) capacity).Triple .consumer
          (ConsumerView T (T.length + avail) (out₁ ++ out₂))
          (publishTail (wrapIndex capacity (tail + n)) fun _ => out₁ ++ out₂)
          fun _ s => ∃ fs, (fs.length = n ∧ fs = out₁ ++ out₂) ∧ ConsumerAt (T ++ fs) [] s :=
        publishTail_consumer n (· = out₁ ++ out₂) (by rw [mod_add_eq (by omega), htail])
          fun s _ h => ⟨by rw [List.length_append]; omega, h.copied, rfl⟩
      refine hpublish.bind fun _ => .exists fun fs => .pure fun hout => ?_
      rw [← hout.2]
      refine .ret (hst fs) fun s _ h => ⟨⟨by omega, fun _ _ h0 => ?_⟩, h⟩
      rw [h0, List.length_nil] at hout
      omega
  exact (hread.known K).conseq (fun s _ h => ⟨h, h.known⟩)
    fun fs s _ h => ⟨h.1.1, h.1.2.taken, h.2⟩

/-- The frames in the slots from `tail` on are those that follow the frames taken. -/
theorem dropped_frames {s : AudioRingbuf φ} (hi : RingInv capacity s) {n : ℕ}
    (hn : s.taken.length + n ≤ s.fed.length) :
    s.taken ++ (List.range n).map (fun i => s.storage ((s.taken.length + i) % capacity))
      <+: s.fed := by
  have hnext : (List.range n).map (fun i => s.storage ((s.taken.length + i) % capacity))
      = (s.fed.drop s.taken.length).take n := by
    apply List.ext_getElem
    · rw [List.length_map, List.length_range, List.length_take, List.length_drop]
      omega
    · intro i h1 h2
      rw [List.length_map, List.length_range] at h1
      rw [List.getElem_map, List.getElem_range, List.getElem_take, List.getElem_drop]
      exact hi.stored _ (by omega) (by omega)
  have htaken := List.prefix_iff_eq_take.mp hi.taken_fed
  calc s.taken ++ (List.range n).map (fun i => s.storage ((s.taken.length + i) % capacity))
      = s.fed.take s.taken.length ++ (s.fed.drop s.taken.length).take n := by
        rw [hnext, ← htaken]
    _ = s.fed.take (s.taken.length + n) := List.take_add.symm
    _ <+: s.fed := List.take_prefix _ _

/-- **`audio_ringbuf_drop`** takes the frames it skips, as many as asked for if so many are known to
be published. -/
theorem audioRingbufDrop_consumer {K : List φ} (n : ℕ) :
    (ringOutline (φ := φ) capacity).Triple .consumer (ConsumerAt T K)
      (audioRingbufDrop capacity n) fun m s => ∃ fs, (fs.length = m ∧ m ≤ n ∧
        (T.length + n ≤ K.length → m = n)) ∧ ConsumerAt (T ++ fs) K s := by
  -- the store leaves nothing known of the published frames; `known` brings `K` back below
  have hdrop : (ringOutline (φ := φ) capacity).Triple .consumer (ConsumerAt T K)
      (audioRingbufDrop capacity n) fun m s => ∃ fs, (fs.length = m ∧ m ≤ n ∧
        (T.length + n ≤ K.length → m = n)) ∧ ConsumerAt (T ++ fs) [] s := by
    refine audioRingbufAvailable_consumer.bind fun avail => .pure fun ⟨havail, hK⟩ => ?_
    refine snapTail_consumer.bind fun tail => .pure fun htail => ?_
    -- the frames skipped are still read here, as the ghost record of what was taken
    have hpublish : (ringOutline (φ := φ) capacity).Triple .consumer
        (ConsumerView T (T.length + avail) [])
        (publishTail (wrapIndex capacity (tail + min n avail)) fun s =>
          (List.range (min n avail)).map fun i => s.storage ((tail + i) % capacity))
        fun _ s => ∃ fs, (fs.length = min n avail ∧ True) ∧ ConsumerAt (T ++ fs) [] s := by
      refine publishTail_consumer (min n avail) (fun _ => True)
        (by rw [mod_add_eq (by omega), htail])
        fun s hi h => ⟨by rw [List.length_map, List.length_range], ?_, trivial⟩
      have hpub := h.published
      have hnext := dropped_frames hi (n := min n avail) (by rw [h.taken]; omega)
      rw [h.taken] at hnext
      simpa only [htail, Nat.mod_add_mod] using hnext
    exact hpublish.bind fun _ => .ret (.exists fun _ => .pure_and consumerAt_stable)
      fun s _ ⟨fs, ⟨hlen, _⟩, h⟩ => ⟨fs, ⟨hlen, min_le_left _ _, fun hn => by omega⟩, h⟩
  refine (hdrop.known K).conseq (fun s _ h => ⟨h, h.known⟩) ?_
  rintro m s - ⟨⟨fs, hfs, h⟩, hK⟩
  exact ⟨fs, hfs, h.taken, hK⟩

/-- **`audio_ringbuf_first_frame`** peeks at a frame seen by its snapshot, the next one behind those
taken; it finds one if a frame beyond those taken is known to be published. -/
theorem audioRingbufFirstFrame_consumer {K : List φ} :
    (ringOutline (φ := φ) capacity).Triple .consumer (ConsumerAt T K)
      (audioRingbufFirstFrame capacity) fun o s =>
        (T.length < K.length → o ≠ none) ∧ ∀ f ∈ o, ConsumerAt T (T ++ [f]) s := by
  refine audioRingbufAvailable_consumer.bind fun avail => .pure fun ⟨havail, hK⟩ => ?_
  have hst : ∀ o : Option φ, (ringOutline (φ := φ) capacity).Stable .consumer fun s =>
      (T.length < K.length → o ≠ none) ∧ ∀ f ∈ o, ConsumerAt T (T ++ [f]) s :=
    fun _ _ _ hi hi' hr h => ⟨h.1, fun f hf => consumerAt_stable hi hi' hr (h.2 f hf)⟩
  split
  · exact .ret (hst none) fun s _ _ => ⟨fun hlt => by omega, fun f hf => by cases hf⟩
  · refine snapTail_consumer.bind fun tail => .pure fun htail => ?_
    have hcopy : (ringOutline (φ := φ) capacity).Triple .consumer
        (ConsumerView T (T.length + avail) []) (.read (.copyOut tail) fun s => s.storage tail)
        fun f => ConsumerView T (T.length + avail) ([] ++ [f]) :=
      copyFrame_consumer (by rw [List.length_nil]; omega) htail
    refine hcopy.bind fun f => .ret (hst (some f)) fun s _ h => ⟨fun _ => by simp, ?_⟩
    rintro g ⟨⟩
    exact ⟨h.taken, h.copied⟩

end Consumer

/-! ## Every interleaving -/

/-- **Step lemma**: every program of both tasks keeps to the outline. -/
theorem ringOutline_proves : (ringOutline capacity).Proves (ringSystem capacity φ) := by
  have hdone : (ringOutline (φ := φ) capacity).Stable .consumer fun _ => True :=
    fun _ _ _ _ _ h => h
  -- the consumer is in no call, so all frames taken are known
  have hcall : ∀ {α : Type} {p : RingProg φ α} {post : List φ → α → AudioRingbuf φ → Prop},
      (∀ T, (ringOutline (φ := φ) capacity).Triple .consumer (ConsumerAt T []) p (post T)) →
      (ringOutline (φ := φ) capacity).Triple .consumer (fun _ => True) (p.bind fun _ => .ret ())
        (RingIdle .consumer) := fun hp =>
    (Outline.Triple.exists fun T => (hp T).bind fun _ => .ret hdone fun _ _ _ => trivial).weaken
      fun s _ _ => ⟨s.taken, rfl, List.nil_prefix⟩
  intro who k p
  rintro s hi ⟨hidle, hcode⟩
  cases hcode with
  | feed pcm => exact feedPcm_producer pcm s hi hidle
  | round sRun pcm off => exact feedPcmRound_producer sRun pcm off s hi hidle
  | available => exact hcall (fun T => audioRingbufAvailable_consumer) s hi trivial
  | read n => exact hcall (fun T => audioRingbufRead_consumer n) s hi trivial
  | drop n => exact hcall (fun T => audioRingbufDrop_consumer n) s hi trivial
  | firstFrame => exact hcall (fun T => audioRingbufFirstFrame_consumer) s hi trivial

/-- The assertions of both sides hold on the ring as it is initialised. -/
theorem ringOutline_init (hcap : 0 < capacity) (storage : ℕ → φ) :
    (ringOutline capacity).Holds (audioRingbufInit storage) := by
  refine ⟨?_, fun who => ?_⟩
  · exact
      { taken_fed := List.prefix_refl _
        fed_input := List.prefix_refl _
        room := by simpa [audioRingbufInit] using hcap
        head := (Nat.zero_mod _).symm
        tail := (Nat.zero_mod _).symm
        stored := fun j _ h => absurd h (Nat.not_lt_zero j) }
  · cases who with
    | producer => exact fun s' hr _ => hr.input.trans hr.fed.symm
    | consumer => exact fun _ _ _ => trivial

/-- **The ring is a single-producer single-consumer queue under every interleaving.** For every
capacity and initial storage, in every configuration reached by any interleaving of the atomic steps
of the two tasks:

* the producer copies frames only into slots outside the published unread range;
* every frame the consumer copies or peeks at is one it has not taken, published before the
  snapshot of `head` it uses, and stands in its slot as it was fed;
* the frames taken are a prefix of the frames published, these are a prefix of the frames handed to
  `feed_pcm`, and when `feed_pcm` has returned nothing is left to publish. -/
theorem audioRingbuf_spsc (hcap : 1 ≤ capacity) (storage : ℕ → φ)
    (c : Config (AudioRingbuf φ) (RingStep φ) RingSide (RingCtl φ))
    (hreach : (ringSystem capacity φ).Reachable (audioRingbufInit storage) c) :
    (∀ slot f c', (ringSystem capacity φ).Step c .producer (some (.copyIn slot f)) c' →
        ¬UnreadSlot capacity c.st slot) ∧
      (∀ slot c', (ringSystem capacity φ).Step c .consumer (some (.copyOut slot)) c' →
        SeenFrame capacity c.st slot) ∧
      c.st.taken <+: c.st.fed ∧ c.st.fed <+: c.st.input ∧
      (c.th .producer = .ret FeedPcm.idle → c.st.fed = c.st.input) := by
  have h := Outline.sound ringOutline_proves (ringOutline_init hcap storage) hreach
  refine ⟨fun slot f c' hs => h.ok hs, fun slot c' hs => h.ok hs, h.1.taken_fed, h.1.fed_input,
    fun hth => (h.idle hth).symm⟩

end Spsc

/-- **The ring at work**: three slots, four frames in one call of `feed_pcm`. The producer is told 2, 1 and 0
frames accepted while the consumer copies, and its index has gone round; in the end the producer is about to
copy the last frame into slot 0 while the consumer copies the third one out of slot 2. -/
theorem audioRingbuf_spsc_wrapped : ∃ c, (ringSystem 3 ℕ).Reachable (audioRingbufInit fun _ => 0) c ∧
    c.st.head = 0 ∧ c.st.tail = 2 ∧ c.st.input = [7, 8, 9, 10] ∧ c.st.fed = [7, 8, 9] ∧ c.st.taken = [7, 8] ∧
    ¬UnreadSlot 3 c.st 0 ∧ SeenFrame 3 c.st 2 ∧ c.st.taken <+: c.st.fed ∧ c.st.fed <+: c.st.input := by
  -- two of the four frames are accepted, and the first one is read
  have hfeed : (ringSystem 3 ℕ).Reachable (audioRingbufInit fun _ => 0) _ :=
    System.Reachable.runAlone (t := RingSide.producer) .start rfl (.feed [7, 8, 9, 10] _) rfl
  have htwo := hfeed.runAlone (t := RingSide.producer) rfl (.round true [7, 8, 9, 10] 0 _) rfl
  have hread := htwo.runAlone (t := RingSide.consumer) rfl (.read 1 _) rfl
  -- the consumer looks at the ring with one frame left, and the producer fills it while it copies
  have hlook := (hread.step (.enter (t := RingSide.consumer) rfl (.read 2 _))).schedule
    [.consumer, .consumer, .consumer] rfl
  have hfill := (hlook.step (.enter (t := RingSide.producer) rfl (.round true [7, 8, 9, 10] 2 _))).schedule
    [.producer, .producer, .producer, .consumer, .producer, .producer] rfl
  have hfull := hfill.runAlone (t := RingSide.producer) rfl (.round true [7, 8, 9, 10] 3 _) rfl
  have htail := hfull.schedule [.consumer] rfl
  -- both look at the ring again, which has room for one frame and holds one
  have hboth := ((htail.step (.enter (t := RingSide.consumer) rfl (.read 2 _))).step
    (.enter (t := RingSide.producer) rfl (.round true [7, 8, 9, 10] 3 _))).schedule
      [.producer, .consumer, .producer, .consumer, .consumer, .producer] rfl
  have h := audioRingbuf_spsc (by decide : 1 ≤ 3) (fun _ => 0) _ hboth
  exact ⟨_, hboth, rfl, rfl, rfl, rfl, rfl, h.1 0 10 _ (.act rfl rfl), h.2.1 2 _ (.act rfl rfl), h.2.2.1,
    h.2.2.2.1⟩

end ConduitStream
