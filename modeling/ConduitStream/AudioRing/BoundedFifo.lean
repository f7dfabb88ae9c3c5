import ConduitStream.AudioRing.Spsc
import ConduitStream.Foundations.Trace

/-! # The PCM ring as a bounded queue

When no other task moves in between, every function of the ring does what it does to a list of
frames that never gets longer than `capacity - 1` (`fifoStep`). The slots from `tail` on hold the
list, wrapped around the end of the storage (`RingStores`); each function is run on it step by step,
and `audioRingbuf_fifo` is the simulation over whole sequences of calls. -/

namespace ConduitStream

variable {φ : Type}

/-! ## The queue -/

/-- The calls of the ring, with their sizes. -/
inductive RingCall (φ : Type)
  | write (frames : List φ)
  | read (nFrames : ℕ)
  | drop (n : ℕ)
  | firstFrame

/-- What they return: a number of frames, the frames copied out, or a frame and true. -/
inductive RingAnswer (φ : Type)
  | count (n : ℕ)
  | frames (out : List φ)
  | first (f : Option φ)

/-- A call on a list of at most `capacity - 1` frames. -/
def fifoStep (capacity : ℕ) (q : List φ) : RingCall φ → List φ × RingAnswer φ
  | .write frames =>
      (q ++ frames.take (min frames.length (capacity - 1 - q.length)),
        .count (min frames.length (capacity - 1 - q.length)))
  | .read n => (q.drop (min n q.length), .frames (q.take (min n q.length)))
  | .drop n => (q.drop (min n q.length), .count (min n q.length))
  | .firstFrame => (q, .first q.head?)

section Calls

variable (capacity : ℕ)

/-- A call of the ring. -/
def ringCall : RingCall φ → RingProg φ (RingAnswer φ)
  | .write frames => do
      let n ← audioRingbufWrite capacity frames
      pure (.count n)
  | .read nFrames => do
      let out ← audioRingbufRead capacity nFrames
      pure (.frames out)
  | .drop n => do
      let n ← audioRingbufDrop capacity n
      pure (.count n)
  | .firstFrame => do
      let f ← audioRingbufFirstFrame capacity
      pure (.first f)

/-- One call after the other. -/
def ringCalls : List (RingCall φ) → RingProg φ (List (RingAnswer φ))
  | [] => pure []
  | c :: cs => do
      let a ← ringCall capacity c
      let as ← ringCalls cs
      pure (a :: as)

end Calls

/-! ## The list in the slots -/

/-- The slots from `tail = t` on hold the frames `q`, of which the first `n` are published. -/
structure RingStores (capacity t n : ℕ) (q : List φ) (s : AudioRingbuf φ) : Prop where
  tail : s.tail = t
  head : s.head = (t + n) % capacity
  stored : ∀ i (h : i < q.length), s.storage ((t + i) % capacity) = q[i]

/-- The ring holds the frames `q`. -/
def RingHolds (capacity : ℕ) (q : List φ) (s : AudioRingbuf φ) : Prop :=
  ∃ t, t < capacity ∧ q.length < capacity ∧ RingStores capacity t q.length q s

variable {capacity t n : ℕ} {q : List φ}

/-- Both indices are in the storage. -/
theorem RingHolds.index_lt {s : AudioRingbuf φ} (h : RingHolds capacity q s) :
    s.head < capacity ∧ s.tail < capacity := by
  obtain ⟨t, ht, -, hs⟩ := h
  rw [hs.head, hs.tail]
  exact ⟨Nat.mod_lt _ (by omega), ht⟩

/-- Reading `head` gives the index behind the frames stored. -/
theorem snapHead_runs (who : RingSide) :
    Prog.Runs (RingStores capacity t n q) (snapHead who)
      fun h s => h = (t + n) % capacity ∧ RingStores capacity t n q s := by
  refine .atom fun s hs => ⟨hs.head, ?_⟩
  split_ifs
  · exact ⟨hs.tail, hs.head, hs.stored⟩
  · exact hs

/-- Reading `tail` gives the index of the first frame stored. -/
theorem snapTail_runs :
    Prog.Runs (RingStores capacity t n q) snapTail
      fun t' s => t' = t ∧ RingStores capacity t n q s :=
  .atom fun _ hs => ⟨hs.tail, hs⟩

/-- **`audio_ringbuf_available`** counts the frames that are stored. -/
theorem audioRingbufAvailable_runs (who : RingSide) (ht : t < capacity) (hn : n < capacity) :
    Prog.Runs (RingStores capacity t n q) (audioRingbufAvailable capacity who)
      fun a s => a = n ∧ RingStores capacity t n q s := by
  refine (snapHead_runs who).bind fun head => .pure fun hhead => ?_
  refine snapTail_runs.bind fun tail => .pure fun htail => ?_
  refine .ret fun s hs => ⟨?_, hs⟩
  have hbetween := @framesBetween_mod capacity t (t + n) (by omega) (by omega)
  rw [Nat.mod_eq_of_lt ht] at hbetween
  rw [hhead, htail, hbetween]
  omega

/-- **`audio_ringbuf_free_space`** counts the slots that are free, one of them kept empty. -/
theorem audioRingbufFreeSpace_runs (who : RingSide) (ht : t < capacity) (hn : n < capacity) :
    Prog.Runs (RingStores capacity t n q) (audioRingbufFreeSpace capacity who)
      fun space s => space = capacity - 1 - n ∧ RingStores capacity t n q s :=
  (audioRingbufAvailable_runs who ht hn).bind fun _ => .pure fun ha => .ret fun _ hs => ⟨by rw [ha], hs⟩

/-- One more frame in the slot behind those stored. -/
theorem RingStores.copyIn {s : AudioRingbuf φ} (hs : RingStores capacity t n q s)
    (hroom : q.length + 1 < capacity) (f : φ) :
    RingStores capacity t n (q ++ [f])
      { s with storage := Function.update s.storage ((t + q.length) % capacity) f } where
  tail := hs.tail
  head := hs.head
  stored i hi := by
    rw [List.length_append, List.length_singleton] at hi
    dsimp only
    rcases Nat.lt_succ_iff_lt_or_eq.mp hi with hlt | rfl
    · rw [Function.update_of_ne (mod_ne_mod (by omega) (by omega)), List.getElem_append_left hlt]
      exact hs.stored i hlt
    · rw [Function.update_self, List.getElem_append_right le_rfl]
      simp

/-- **Copying in**, into consecutive slots behind the frames stored. -/
theorem copyIn_runs {slot : ℕ} {fs : List φ} (hroom : q.length + fs.length < capacity)
    (hslot : ∀ i < fs.length, slot + i = (t + q.length + i) % capacity) :
    Prog.Runs (RingStores capacity t n q) (copyIn slot fs)
      fun _ => RingStores capacity t n (q ++ fs) := by
  induction fs generalizing slot q with
  | nil =>
      rw [List.append_nil]
      exact .ret fun _ hs => hs
  | cons f fs ih =>
      -- the next slot is free, since the queue with it still has room
      rw [List.length_cons] at hroom hslot
      have hslot0 : slot = (t + q.length) % capacity := hslot 0 (by omega)
      have hrest : Prog.Runs (RingStores capacity t n (q ++ [f])) (copyIn (slot + 1) fs)
          fun _ => RingStores capacity t n (q ++ f :: fs) := by
        rw [List.append_cons q f fs]
        refine ih ?_ fun i hi => ?_
        · rw [List.length_append, List.length_singleton]
          omega
        · have hnext := hslot (i + 1) (by omega)
          rw [List.length_append, List.length_singleton, Nat.add_assoc slot, Nat.add_comm 1 i, hnext]
          congr 1
          omega
      refine Prog.Runs.bind (.atom fun s hs => ?_) fun _ => hrest
      subst hslot0
      exact hs.copyIn (by omega) f

/-- Reading one slot gives its frame and leaves the ring as it was. -/
theorem readSlot_runs {slot i : ℕ} (hi : i < q.length) (hslot : slot = (t + i) % capacity) :
    Prog.Runs (RingStores capacity t n q)
      (Prog.read (.copyOut slot) fun s => s.storage slot : RingProg φ φ)
      fun f s => f = q[i] ∧ RingStores capacity t n q s := by
  refine .atom fun s hs => ⟨?_, hs⟩
  rw [hslot]
  exact hs.stored i hi

/-- **Copying out**, from consecutive slots that hold frames. -/
theorem copyOut_runs {slot i m : ℕ} (hle : i + m ≤ q.length)
    (hslot : ∀ j < m, slot + j = (t + i + j) % capacity) :
    Prog.Runs (RingStores capacity t n q) (copyOut slot m)
      fun fs s => fs = (q.drop i).take m ∧ RingStores capacity t n q s := by
  induction m generalizing slot i with
  | zero => exact .ret fun _ hs => ⟨rfl, hs⟩
  | succ m ih =>
      have hlt : i < q.length := by omega
      have hrest : Prog.Runs (RingStores capacity t n q) (copyOut (slot + 1) m)
          fun fs s => fs = (q.drop (i + 1)).take m ∧ RingStores capacity t n q s := by
        refine ih (by omega) fun j hj => ?_
        have hnext := hslot (j + 1) (by omega)
        rw [Nat.add_assoc slot, Nat.add_comm 1 j, hnext]
        congr 1
        omega
      refine (readSlot_runs hlt (hslot 0 (by omega))).bind fun f => .pure fun hf => ?_
      refine hrest.bind fun fs => .pure fun hfs => .ret fun s hs => ⟨?_, hs⟩
      rw [hf, hfs, List.drop_eq_getElem_cons hlt, List.take_succ_cons]

/-! ## The functions on the queue -/

/-- An index in the storage and the part of a block that fits behind it. -/
theorem slot_first {slot n i : ℕ} (hi : i < min (capacity - slot) n) :
    slot + i = (slot + i) % capacity := (Nat.mod_eq_of_lt (by omega)).symm

/-- The rest of the block goes to the start of the storage. -/
theorem slot_second {slot n i : ℕ} (hslot : slot < capacity) (hn : n < capacity)
    (hi : i < n - min (capacity - slot) n) :
    0 + i = (slot + min (capacity - slot) n + i) % capacity := by
  have hfirst : min (capacity - slot) n = capacity - slot := by omega
  rw [hfirst, Nat.add_sub_cancel' hslot.le, Nat.add_mod_left, Nat.mod_eq_of_lt (by omega), zero_add]

/-- **A block is copied in two parts**: up to the end of the storage, and the rest to its start. -/
theorem copyInBlock_runs {slot first : ℕ} {fs : List φ} (hroom : q.length + fs.length < capacity)
    (hslot : slot = (t + q.length) % capacity) (hfirst : min (capacity - slot) fs.length = first) :
    Prog.Runs (RingStores capacity t n q) (copyIn slot (fs.take first))
        (fun _ => RingStores capacity t n (q ++ fs.take first)) ∧
      Prog.Runs (RingStores capacity t n (q ++ fs.take first)) (copyIn 0 (fs.drop first))
        fun _ => RingStores capacity t n (q ++ fs) := by
  have hlt : slot < capacity := hslot ▸ Nat.mod_lt _ (by omega)
  have hlen₁ : (fs.take first).length = first := by
    rw [List.length_take]
    omega
  have hlen₂ : (fs.drop first).length = fs.length - first := List.length_drop
  constructor
  · refine copyIn_runs (by omega) fun i hi => ?_
    rw [hlen₁, ← hfirst] at hi
    rw [slot_first hi, hslot, Nat.mod_add_mod]
  · have hsplit : q ++ fs = q ++ fs.take first ++ fs.drop first := by
      rw [List.append_assoc, List.take_append_drop]
    rw [hsplit]
    refine copyIn_runs ?_ fun i hi => ?_
    · rw [List.length_append, hlen₁, hlen₂]
      omega
    · rw [hlen₂, ← hfirst] at hi
      rw [slot_second hlt (by omega) hi, List.length_append, hlen₁, hfirst, hslot,
        Nat.add_assoc _ first, Nat.mod_add_mod]
      congr 1
      omega

/-- **`audio_ringbuf_write`** appends what there is room for. -/
theorem audioRingbufWrite_runs (frames : List φ) :
    Prog.Runs (RingHolds capacity q) (audioRingbufWrite capacity frames) fun n s =>
      n = min frames.length (capacity - 1 - q.length) ∧ RingHolds capacity (q ++ frames.take n) s := by
  refine .exists fun t => .pure fun ht => .pure fun hq => ?_
  refine (audioRingbufFreeSpace_runs .producer ht hq).bind fun space => .pure fun hspace => ?_
  subst hspace
  dsimp only
  generalize hn : min frames.length (capacity - 1 - q.length) = n
  split
  · next hzero =>
      subst hzero
      refine .ret fun s hs => ⟨rfl, t, ht, ?_, ?_⟩
      · rwa [List.take_zero, List.append_nil]
      · rwa [List.take_zero, List.append_nil]
  · next hpos =>
      refine (snapHead_runs .producer).bind fun head => .pure fun hhead => ?_
      have hcount : q.length + n < capacity := by omega
      have hlen : (frames.take n).length = n := by
        rw [List.length_take]
        omega
      generalize hfirst : min (capacity - head) n = first
      obtain ⟨hcopy₁, hcopy₂⟩ := @copyInBlock_runs φ capacity t q.length q head first (frames.take n)
        (by rw [hlen]; exact hcount) hhead (by rw [hlen]; exact hfirst)
      rw [List.take_take, min_eq_left (show first ≤ n by omega)] at hcopy₁ hcopy₂
      refine hcopy₁.bind fun _ => hcopy₂.bind fun _ => ?_
      refine Prog.Runs.bind (.atom fun s hs => ?_) fun _ => .ret fun s hs => ⟨rfl, hs⟩
      refine ⟨t, ht, ?_, hs.tail, ?_, hs.stored⟩
      · rw [List.length_append, hlen]
        exact hcount
      · rw [List.length_append, hlen, ← Nat.add_assoc, mod_add_eq (by omega), ← hhead]

/-- The slots that remain when `n` frames are taken. -/
theorem RingStores.taken {s : AudioRingbuf φ} (ht : t < capacity) (hq : q.length < capacity)
    (hs : RingStores capacity t q.length q s) {n : ℕ} (hn : n ≤ q.length) (taken : List φ) :
    RingHolds capacity (q.drop n) { s with tail := wrapIndex capacity (t + n), taken := taken } := by
  have hwrap : wrapIndex capacity (t + n) = (t + n) % capacity := by
    rw [mod_add_eq (by omega), Nat.mod_eq_of_lt ht]
  rw [hwrap]
  refine ⟨(t + n) % capacity, Nat.mod_lt _ (by omega), ?_, rfl, ?_, fun i hi => ?_⟩
  · rw [List.length_drop]
    omega
  · rw [Nat.mod_add_mod, List.length_drop]
    refine hs.head.trans ?_
    congr 1
    omega
  · rw [List.length_drop] at hi
    rw [Nat.mod_add_mod, List.getElem_drop, Nat.add_assoc]
    exact hs.stored (n + i) (by omega)

/-- **`audio_ringbuf_read`** removes frames from the front. -/
theorem audioRingbufRead_runs (nFrames : ℕ) :
    Prog.Runs (RingHolds capacity q) (audioRingbufRead capacity nFrames) fun out s =>
      out = q.take (min nFrames q.length) ∧ RingHolds capacity (q.drop (min nFrames q.length)) s := by
  refine .exists fun t => .pure fun ht => .pure fun hq => ?_
  refine (audioRingbufAvailable_runs .consumer ht hq).bind fun avail => .pure fun havail => ?_
  subst havail
  dsimp only
  generalize hn : min nFrames q.length = n
  split
  · next hzero =>
      subst hzero
      exact .ret fun s hs => ⟨rfl, t, ht, hq, hs⟩
  · next hpos =>
      refine snapTail_runs.bind fun tail => .pure fun htail => ?_
      subst htail
      generalize hfirst : min (capacity - tail) n = first
      refine (copyOut_runs (i := 0) (by omega) fun j hj => ?_).bind fun out₁ =>
        .pure fun h₁ => ?_
      · exact slot_first (hfirst ▸ hj)
      refine (copyOut_runs (i := first) (by omega) fun j hj => ?_).bind fun out₂ =>
        .pure fun h₂ => ?_
      · rw [← hfirst] at hj ⊢
        exact slot_second ht (by omega) hj
      have hout : out₁ ++ out₂ = q.take n := by
        rw [h₁, h₂, List.drop_zero, ← List.take_add, Nat.add_sub_cancel' (by omega)]
      rw [hout]
      refine Prog.Runs.bind (.atom fun s hs => ?_) fun _ => .ret fun s hs => ⟨rfl, hs⟩
      exact hs.taken ht hq (by omega) _

/-- **`audio_ringbuf_drop`** removes frames from the front without copying them. -/
theorem audioRingbufDrop_runs (n : ℕ) :
    Prog.Runs (RingHolds capacity q) (audioRingbufDrop capacity n) fun m s =>
      m = min n q.length ∧ RingHolds capacity (q.drop (min n q.length)) s := by
  refine .exists fun t => .pure fun ht => .pure fun hq => ?_
  refine (audioRingbufAvailable_runs .consumer ht hq).bind fun avail => .pure fun havail => ?_
  subst havail
  refine snapTail_runs.bind fun tail => .pure fun htail => ?_
  subst htail
  refine Prog.Runs.bind (.atom fun s hs => ?_) fun _ => .ret fun s hs => ⟨rfl, hs⟩
  exact hs.taken ht hq (by omega) _

/-- **`audio_ringbuf_first_frame`** looks at the front without removing the frame. -/
theorem audioRingbufFirstFrame_runs :
    Prog.Runs (RingHolds capacity q) (audioRingbufFirstFrame capacity) fun f s =>
      f = q.head? ∧ RingHolds capacity q s := by
  refine .exists fun t => .pure fun ht => .pure fun hq => ?_
  refine (audioRingbufAvailable_runs .consumer ht hq).bind fun avail => .pure fun havail => ?_
  subst havail
  split
  · next hzero =>
      obtain rfl := List.eq_nil_of_length_eq_zero hzero
      exact .ret fun s hs => ⟨rfl, t, ht, hq, hs⟩
  · next hpos =>
      refine snapTail_runs.bind fun tail => .pure fun htail => ?_
      subst htail
      have hlt : 0 < q.length := Nat.pos_of_ne_zero hpos
      have htail : tail = (tail + 0) % capacity := (Nat.mod_eq_of_lt ht).symm
      refine (readSlot_runs hlt htail).bind fun f => .pure fun hf => .ret fun s hs => ⟨?_, ?_⟩
      · rw [hf, List.head?_eq_getElem?, List.getElem?_eq_getElem hlt]
      · exact ⟨tail, ht, hq, hs⟩

/-! ## Sequences of calls -/

/-- **Step lemma**: a call does to the ring what `fifoStep` does to the list. -/
theorem ringCall_runs (c : RingCall φ) :
    Prog.Runs (RingHolds capacity q) (ringCall capacity c) fun a s =>
      a = (fifoStep capacity q c).2 ∧ RingHolds capacity (fifoStep capacity q c).1 s := by
  cases c with
  | write frames =>
      refine (audioRingbufWrite_runs frames).bind fun n => .pure fun hn => .ret fun s hs => ?_
      subst hn
      exact ⟨rfl, hs⟩
  | read nFrames =>
      exact (audioRingbufRead_runs nFrames).bind fun out => .pure fun hout =>
        .ret fun s hs => ⟨by rw [hout, fifoStep], hs⟩
  | drop n =>
      exact (audioRingbufDrop_runs n).bind fun m => .pure fun hm =>
        .ret fun s hs => ⟨by rw [hm, fifoStep], hs⟩
  | firstFrame =>
      exact audioRingbufFirstFrame_runs.bind fun f => .pure fun hf =>
        .ret fun s hs => ⟨by rw [hf, fifoStep], hs⟩

/-- **Run lemma**: any number of calls in a row does what the queue does. -/
theorem ringCalls_runs (calls : List (RingCall φ)) :
    Prog.Runs (RingHolds capacity q) (ringCalls capacity calls) fun as s =>
      as = (runOps (fifoStep capacity) q calls).2 ∧
        RingHolds capacity (runOps (fifoStep capacity) q calls).1 s := by
  induction calls generalizing q with
  | nil => exact .ret fun _ hs => ⟨rfl, hs⟩
  | cons c cs ih =>
      refine (ringCall_runs c).bind fun a => .pure fun ha => ih.bind fun as => .pure fun has => ?_
      exact .ret fun _ hs => ⟨by rw [ha, has, runOps_cons], hs⟩

/-- An initialised ring holds no frame, whatever its storage contains. -/
theorem ringHolds_init (hcap : 1 ≤ capacity) (storage : ℕ → φ) :
    RingHolds capacity [] (audioRingbufInit storage).st :=
  ⟨0, hcap, hcap, rfl, (Nat.zero_mod _).symm, fun _ hi => absurd hi (Nat.not_lt_zero _)⟩

/-- **The PCM ring is a bounded queue.** From `audio_ringbuf_init` on, for every capacity and every
sequence of calls of any sizes, the answers are those of a list of frames that takes at most
`capacity - 1` of them. Behind every sequence `head` and `tail` are below the capacity, and the frames
available, which are as many as the list has, and the free space make up `capacity - 1`. -/
theorem audioRingbuf_fifo {capacity : ℕ} (hcap : 1 ≤ capacity) (storage : ℕ → φ)
    (calls : List (RingCall φ)) :
    ∃ s, (ringCalls capacity calls).runAlone (audioRingbufInit storage).st
        = some ((runOps (fifoStep capacity) [] calls).2, s) ∧
      s.head < capacity ∧ s.tail < capacity ∧
      ∀ who, ∃ available free,
        ((audioRingbufAvailable capacity who).runAlone s).map (·.1) = some available ∧
        ((audioRingbufFreeSpace capacity who).runAlone s).map (·.1) = some free ∧
        available = (runOps (fifoStep capacity) [] calls).1.length ∧
        available + free = capacity - 1 := by
  obtain ⟨as, s, hrun, rfl, hs⟩ := ringCalls_runs calls _ (ringHolds_init hcap storage)
  refine ⟨s, hrun, hs.index_lt.1, hs.index_lt.2, fun who => ?_⟩
  obtain ⟨t, ht, hq, hstores⟩ := hs
  obtain ⟨a, s₁, hrun₁, ha, -⟩ := audioRingbufAvailable_runs who ht hq s hstores
  obtain ⟨f, s₂, hrun₂, hf, -⟩ := audioRingbufFreeSpace_runs who ht hq s hstores
  refine ⟨a, f, by rw [hrun₁]; rfl, by rw [hrun₂]; rfl, ha, ?_⟩
  omega

/-- Four slots: the second block wraps around the end, and the last frame of the third finds no
room. -/
theorem audioRingbuf_fifo_wrapped :
    ∃ s, (ringCalls 4 [.write [1, 2], .read 2, .write [3, 4, 5], .write [6], .firstFrame, .drop 9]
        ).runAlone (audioRingbufInit fun _ => 0).st
          = some ([.count 2, .frames [1, 2], .count 3, .count 0, .first (some 3), .count 3], s) := by
  obtain ⟨s, hrun, -⟩ := @audioRingbuf_fifo ℕ 4 (by decide) (fun _ => 0)
    [.write [1, 2], .read 2, .write [3, 4, 5], .write [6], .firstFrame, .drop 9]
  exact ⟨s, hrun⟩

end ConduitStream
