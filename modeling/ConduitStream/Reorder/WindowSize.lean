import ConduitStream.Foundations.SerialNumber
import ConduitStream.Reorder.Buffer

/-! # Window sizes of the reorder buffer

`rtp_reorder_init` takes any window. The slot of a packet is `seq % window`, and behind 65535 the
sequence numbers go on with 0, so two packets of one window may have the same slot.

* `Filed`: whatever the window, every held packet lies in its slot and is less than a window ahead of
  the cursor, and `count` is the number of valid slots, after any run (`filed_run`);
* `rtpReorder_unread_kept_iff`: an insert never overwrites an unread packet exactly if the window
  divides `2 ^ 16`, that is, if it is a power of two. -/

namespace ConduitStream

/-! ## Runs -/

/-- A call that takes packets in or hands them out. -/
inductive RtpReorderCall
  | insert (seq : BitVec 16) (data : Bytes)
  | pop (outCap : ℕ)

/-- The buffer after a call. -/
def RtpReorder.call (rb : RtpReorder) : RtpReorderCall → RtpReorder
  | .insert seq data => (rtpReorderInsert rb seq data).1
  | .pop outCap => (rtpReorderPop rb outCap).1

/-- The buffer after the calls, from `rtp_reorder_init` on. -/
def rtpReorderRun (slots : ℕ → RtpReorderSlot) (window hold : BitVec 16)
    (calls : List RtpReorderCall) : RtpReorder :=
  calls.foldl RtpReorder.call (rtpReorderInit slots window hold)

/-- An insert that answers `RTP_INS_STORED` leaves the held packets of other sequence numbers where
they are. -/
def RtpReorder.KeepsUnread (rb : RtpReorder) : Prop :=
  ∀ seq data, (rtpReorderInsert rb seq data).2 = .stored →
    ∀ i < rb.window.toNat, (rb.slots i).valid = true → (rb.slots i).seq ≠ seq →
      (rtpReorderInsert rb seq data).1.slots i = rb.slots i

/-! ## What an insert can do -/

/-- The buffer of `rtp_reorder_insert` behind the first test: the first packet anchors it. -/
def RtpReorder.anchored (rb : RtpReorder) (seq : BitVec 16) : RtpReorder :=
  if rb.started then rb else { rb with next := seq, head := seq, started := true }

/-- The slot of a stored packet. -/
def RtpReorderSlot.filled (sl : RtpReorderSlot) (seq : BitVec 16) (data : Bytes) :
    RtpReorderSlot where
  valid := true
  seq := seq
  len := BitVec.ofNat 16 data.length
  data := data ++ sl.data.drop data.length

/-- The buffer with the packet in its slot. -/
def RtpReorder.stored (rb : RtpReorder) (seq : BitVec 16) (data : Bytes) : RtpReorder :=
  { rb with
    count := if (rb.slots (rb.slotIdx seq)).valid then rb.count else rb.count + 1
    slots := Function.update rb.slots (rb.slotIdx seq)
      ((rb.slots (rb.slotIdx seq)).filled seq data)
    head := if seqLt rb.head (seq + 1) then seq + 1 else rb.head }

/-- `rtp_reorder_insert`, with the two states it can leave named. -/
theorem rtpReorderInsert_eq (rb : RtpReorder) (seq : BitVec 16) (data : Bytes) :
    rtpReorderInsert rb seq data =
      if data.length = 0 ∨ rtpReorderMaxPkt < data.length then (rb, .badlen)
      else if seqLt seq (rb.anchored seq).next then (rb.anchored seq, .tooOld)
      else if (rb.anchored seq).window ≤ seqDiff seq (rb.anchored seq).next then
        (rb.anchored seq, .tooNew)
      else if ((rb.anchored seq).slots ((rb.anchored seq).slotIdx seq)).valid ∧
          ((rb.anchored seq).slots ((rb.anchored seq).slotIdx seq)).seq = seq then
        (rb.anchored seq, .dup)
      else ((rb.anchored seq).stored seq data, .stored) := rfl

/-- **What an insert can do**: refuse the packet, perhaps as the one that has anchored the buffer, or
store it, if it lies in the window and is not held. -/
theorem rtpReorderInsert_cases (rb : RtpReorder) (seq : BitVec 16) (data : Bytes) :
    (∃ r, r ≠ .stored ∧ rtpReorderInsert rb seq data = (rb, r)) ∨
      (∃ r, r ≠ .stored ∧ rtpReorderInsert rb seq data = (rb.anchored seq, r)) ∨
      seqDiff seq (rb.anchored seq).next < (rb.anchored seq).window ∧
        rtpReorderInsert rb seq data = ((rb.anchored seq).stored seq data, .stored) := by
  rw [rtpReorderInsert_eq]
  split_ifs with hlen hold hnew hdup
  · exact .inl ⟨.badlen, by decide, rfl⟩
  · exact .inr (.inl ⟨.tooOld, by decide, rfl⟩)
  · exact .inr (.inl ⟨.tooNew, by decide, rfl⟩)
  · exact .inr (.inl ⟨.dup, by decide, rfl⟩)
  · exact .inr (.inr ⟨BitVec.not_le.mp hnew, rfl⟩)

/-- Anchoring leaves the slots as they are. -/
@[simp] theorem RtpReorder.anchored_slots (rb : RtpReorder) (seq : BitVec 16) :
    (rb.anchored seq).slots = rb.slots := by
  unfold anchored
  split <;> rfl

/-- Anchoring leaves the window as it is. -/
@[simp] theorem RtpReorder.anchored_window (rb : RtpReorder) (seq : BitVec 16) :
    (rb.anchored seq).window = rb.window := by
  unfold anchored
  split <;> rfl

/-- And with it the slot of each number. -/
@[simp] theorem RtpReorder.anchored_slotIdx (rb : RtpReorder) (seq s : BitVec 16) :
    (rb.anchored seq).slotIdx s = rb.slotIdx s := by
  rw [slotIdx, slotIdx, anchored_window]

/-- Anchoring leaves the count as it is. -/
@[simp] theorem RtpReorder.anchored_count (rb : RtpReorder) (seq : BitVec 16) :
    (rb.anchored seq).count = rb.count := by
  unfold anchored
  split <;> rfl

/-- An anchored buffer is started, whether it was before or not. -/
theorem RtpReorder.anchored_started (rb : RtpReorder) (seq : BitVec 16) :
    (rb.anchored seq).started = true := by
  unfold anchored
  split
  · assumption
  · rfl

/-- The packet is in its slot, and the other slots are as they were. -/
theorem RtpReorder.stored_slots_self (rb : RtpReorder) (seq : BitVec 16) (data : Bytes) :
    (rb.stored seq data).slots (rb.slotIdx seq) = (rb.slots (rb.slotIdx seq)).filled seq data :=
  Function.update_self (rb.slotIdx seq) _ rb.slots

/-- Storing leaves the other slots as they are. -/
theorem RtpReorder.stored_slots_of_ne (rb : RtpReorder) {seq : BitVec 16} (data : Bytes) {i : ℕ}
    (hi : i ≠ rb.slotIdx seq) : (rb.stored seq data).slots i = rb.slots i :=
  Function.update_of_ne hi _ rb.slots

/-! ## What holds for any window -/

/-- Only the flags of the slots are counted, not what is in them. -/
theorem validCount_congr {slots slots' : ℕ → RtpReorderSlot} {n : ℕ}
    (h : ∀ i < n, (slots i).valid = (slots' i).valid) : validCount slots n = validCount slots' n := by
  unfold validCount
  congr 1
  refine Finset.filter_congr fun i hi => ?_
  rw [h i (Finset.mem_range.mp hi)]

/-- Every held packet lies in its slot, less than a window ahead of the cursor, and `count` is the
number of valid slots. -/
structure Filed (rb : RtpReorder) : Prop where
  window : rb.window ≠ 0
  slot : ∀ i < rb.window.toNat, (rb.slots i).valid = true → rb.slotIdx (rb.slots i).seq = i
  near : ∀ i < rb.window.toNat, (rb.slots i).valid = true →
    seqDiff (rb.slots i).seq rb.next < rb.window
  unstarted : rb.started = false → ∀ i < rb.window.toNat, (rb.slots i).valid = false
  count : rb.count.toNat = validCount rb.slots rb.window.toNat

namespace Filed

variable {rb : RtpReorder}

/-- The window of a buffer that is filed has a slot. -/
theorem window_pos (h : Filed rb) : 0 < rb.window.toNat :=
  Nat.pos_of_ne_zero fun h0 => h.window (BitVec.eq_of_toNat_eq h0)

/-- The slot of a number is one of the window. -/
theorem slotIdx_lt (h : Filed rb) (seq : BitVec 16) : rb.slotIdx seq < rb.window.toNat := by
  rw [RtpReorder.slotIdx, BitVec.toNat_umod]
  exact Nat.mod_lt _ h.window_pos

/-- The slot of the cursor holds the packet that is due, or nothing that is due is held. -/
theorem ne_next (h : Filed rb) (hgap : ¬((rb.slots (rb.slotIdx rb.next)).valid ∧
    (rb.slots (rb.slotIdx rb.next)).seq = rb.next)) {i : ℕ} (hi : i < rb.window.toNat)
    (hv : (rb.slots i).valid = true) : (rb.slots i).seq ≠ rb.next := by
  intro heq
  have hidx := h.slot i hi hv
  rw [heq] at hidx
  exact hgap ⟨hidx ▸ hv, hidx ▸ heq⟩

/-- What is ahead of the cursor and is not due stays within the window when the cursor moves on. -/
theorem near_next (h : Filed rb) {i : ℕ} (hi : i < rb.window.toNat) (hv : (rb.slots i).valid = true)
    (hne : (rb.slots i).seq ≠ rb.next) : seqDiff (rb.slots i).seq (rb.next + 1) < rb.window := by
  have hnear := h.near i hi hv
  unfold seqDiff at hnear ⊢
  generalize (rb.slots i).seq = s at hnear hne ⊢
  bv_omega

/-- A new buffer holds nothing, so what it holds is filed. -/
theorem init (slots : ℕ → RtpReorderSlot) {window : BitVec 16} (hwindow : window ≠ 0)
    (hold : BitVec 16) : Filed (rtpReorderInit slots window hold) := by
  have hinvalid : ∀ i < window.toNat,
      ((rtpReorderInit slots window hold).slots i).valid = false := fun i hi => by
    simp [rtpReorderInit, hi]
  exact
    { window := hwindow
      slot := fun i hi hv => absurd (hv.symm.trans (hinvalid i hi)) (by decide)
      near := fun i hi hv => absurd (hv.symm.trans (hinvalid i hi)) (by decide)
      unstarted := fun _ => hinvalid
      count := (validCount_eq_zero_iff.mpr hinvalid).symm }

/-- The first packet finds nothing held. -/
theorem anchored (h : Filed rb) (seq : BitVec 16) : Filed (rb.anchored seq) := by
  unfold RtpReorder.anchored
  split
  · exact h
  · next hs =>
      have hinvalid := h.unstarted (by simpa using hs)
      exact
        { window := h.window
          slot := h.slot
          near := fun i hi hv => absurd (hv.symm.trans (hinvalid i hi)) (by decide)
          unstarted := fun hs' => absurd hs' (by simp)
          count := h.count }

/-- A packet is stored in its slot, whatever has been there. -/
theorem stored (h : Filed rb) (hs : rb.started = true) {seq : BitVec 16}
    (hnear : seqDiff seq rb.next < rb.window) (data : Bytes) : Filed (rb.stored seq data) := by
  have hlt := h.slotIdx_lt seq
  constructor
  case window => exact h.window
  case slot =>
    intro i hi hv
    by_cases hieq : i = rb.slotIdx seq
    · rw [hieq, rb.stored_slots_self]
      rfl
    · rw [rb.stored_slots_of_ne data hieq] at hv ⊢
      exact h.slot i hi hv
  case near =>
    intro i hi hv
    by_cases hieq : i = rb.slotIdx seq
    · rw [hieq, rb.stored_slots_self]
      exact hnear
    · rw [rb.stored_slots_of_ne data hieq] at hv ⊢
      exact h.near i hi hv
  case unstarted => exact fun hs' => absurd (hs.symm.trans hs') (by decide)
  case count =>
    change (if (rb.slots (rb.slotIdx seq)).valid then rb.count else rb.count + 1).toNat
      = validCount (Function.update rb.slots _ _) rb.window.toNat
    cases hv : (rb.slots (rb.slotIdx seq)).valid with
    | true =>
        rw [if_pos rfl, h.count]
        refine validCount_congr fun i _ => ?_
        by_cases hi : i = rb.slotIdx seq
        · rw [hi, hv, Function.update_self]
          rfl
        · rw [Function.update_of_ne hi]
    | false =>
        have hadd := validCount_update_valid hlt hv
          ((rb.slots (rb.slotIdx seq)).filled seq data) rfl
        have hle := validCount_le (Function.update rb.slots (rb.slotIdx seq)
          ((rb.slots (rb.slotIdx seq)).filled seq data)) rb.window.toNat
        have hcount := h.count
        have hwindow := rb.window.isLt
        rw [if_neg (by decide), hadd, ← hcount]
        -- there are fewer packets than slots, so the counter does not wrap
        rw [hadd, ← hcount] at hle
        exact BitVec.toNat_add_of_lt (by simpa using by omega)

/-- An insert keeps every packet filed. -/
theorem insert (h : Filed rb) (seq : BitVec 16) (data : Bytes) :
    Filed (rtpReorderInsert rb seq data).1 := by
  rcases rtpReorderInsert_cases rb seq data with ⟨r, -, heq⟩ | ⟨r, -, heq⟩ | ⟨hnear, heq⟩
  · rw [heq]
    exact h
  · rw [heq]
    exact h.anchored seq
  · rw [heq]
    exact (h.anchored seq).stored (rb.anchored_started seq) hnear data

/-- The slot of the packet that is due is emptied. -/
theorem popped (h : Filed rb) (hstarted : rb.started = true)
    (hdue : (rb.slots (rb.slotIdx rb.next)).valid = true) :
    Filed { rb with
      slots := Function.update rb.slots (rb.slotIdx rb.next)
        { rb.slots (rb.slotIdx rb.next) with valid := false }
      count := rb.count - 1
      next := rb.next + 1 } := by
  have hlt := h.slotIdx_lt rb.next
  have hvalid : ∀ i, (Function.update rb.slots (rb.slotIdx rb.next)
      { rb.slots (rb.slotIdx rb.next) with valid := false } i).valid = true →
      i ≠ rb.slotIdx rb.next ∧ Function.update rb.slots (rb.slotIdx rb.next)
        { rb.slots (rb.slotIdx rb.next) with valid := false } i = rb.slots i := by
    intro i hv
    by_cases hi : i = rb.slotIdx rb.next
    · rw [hi, Function.update_self] at hv
      cases hv
    · exact ⟨hi, Function.update_of_ne hi ..⟩
  constructor
  case window => exact h.window
  case slot =>
    intro i hi hv
    obtain ⟨-, heq⟩ := hvalid i hv
    change rb.slotIdx (Function.update rb.slots _ _ i).seq = i
    rw [heq]
    exact h.slot i hi (heq ▸ hv)
  case near =>
    intro i hi hv
    obtain ⟨hne, heq⟩ := hvalid i hv
    change seqDiff (Function.update rb.slots _ _ i).seq (rb.next + 1) < rb.window
    rw [heq]
    have hv' : (rb.slots i).valid = true := heq ▸ hv
    -- a second packet with the number that is due would be in the same slot
    exact h.near_next hi hv' fun hseq => hne (by rw [← hseq, h.slot i hi hv'])
  case unstarted => exact fun hs => absurd (hstarted.symm.trans hs) (by decide)
  case count =>
    have hsub := validCount_update_invalid hlt hdue
      { rb.slots (rb.slotIdx rb.next) with valid := false } rfl
    have hcount := h.count
    change (rb.count - 1).toNat = validCount (Function.update rb.slots _ _) rb.window.toNat
    rw [← hcount] at hsub
    bv_omega

/-- So does a pop: it hands out the packet that is due, or passes a number that is not held. -/
theorem pop (h : Filed rb) (outCap : ℕ) : Filed (rtpReorderPop rb outCap).1 := by
  rw [rtpReorderPop]
  dsimp only
  split_ifs with hidle hdue hover
  · exact h
  · exact h.popped (by simpa using (not_or.mp hidle).1) hdue.1
  · exact { h with near := fun i hi hv => h.near_next hi hv (h.ne_next hdue hi hv) }
  · exact h

/-- **Step lemma**: either call keeps the packets filed under their numbers. -/
theorem call (h : Filed rb) (c : RtpReorderCall) : Filed (rb.call c) := by
  cases c with
  | insert seq data => exact h.insert seq data
  | pop outCap => exact h.pop outCap

end Filed

variable {slots : ℕ → RtpReorderSlot} {window hold : BitVec 16}

/-- **Run lemma**: whatever the window, the packets are filed after any calls. -/
theorem filed_run (hwindow : window ≠ 0) (calls : List RtpReorderCall) :
    Filed (rtpReorderRun slots window hold calls) := by
  unfold rtpReorderRun
  induction calls using List.reverseRecOn with
  | nil => exact Filed.init slots hwindow hold
  | append_singleton calls c ih =>
      rw [List.foldl_append]
      exact ih.call c

/-- No run of calls changes the window. -/
theorem rtpReorderRun_window (calls : List RtpReorderCall) :
    (rtpReorderRun slots window hold calls).window = window := by
  unfold rtpReorderRun
  induction calls using List.reverseRecOn with
  | nil => rfl
  | append_singleton calls c ih =>
      rw [List.foldl_append]
      refine Eq.trans ?_ ih
      cases c with
      | insert seq data => exact rtpReorderInsert_window _ seq data
      | pop outCap => exact rtpReorderPop_window _ outCap

/-! ## Which windows keep what is unread -/

section Keeps

variable {rb : RtpReorder}

/-- Where the window divides the circle, a stored packet takes a slot that holds no other one. -/
theorem Filed.stored_keeps (h : Filed rb) (hdvd : rb.window.toNat ∣ 2 ^ 16) {seq : BitVec 16}
    (hnear : seqDiff seq rb.next < rb.window) (data : Bytes) {i : ℕ} (hi : i < rb.window.toNat)
    (hv : (rb.slots i).valid = true) (hne : (rb.slots i).seq ≠ seq) :
    (rb.stored seq data).slots i = rb.slots i := by
  have hslot : i ≠ rb.slotIdx seq := by
    intro hieq
    have hheld := h.near i hi hv
    have hidx : rb.slotIdx (rb.slots i).seq = rb.slotIdx seq := (h.slot i hi hv).trans hieq
    rw [RtpReorder.slotIdx, RtpReorder.slotIdx, BitVec.toNat_umod, BitVec.toNat_umod] at hidx
    exact hne (serial_inj_of_window hdvd hheld hnear hidx)
  exact rb.stored_slots_of_ne data hslot

/-- **In a window that divides the circle no packet is overwritten unread.** -/
theorem Filed.keepsUnread (h : Filed rb) (hdvd : rb.window.toNat ∣ 2 ^ 16) : rb.KeepsUnread := by
  intro seq data hstored i hi hv hne
  rcases rtpReorderInsert_cases rb seq data with ⟨r, hr, heq⟩ | ⟨r, hr, heq⟩ | ⟨hnear, heq⟩
  · rw [heq] at hstored
    exact absurd hstored hr
  · rw [heq] at hstored
    exact absurd hstored hr
  · rw [heq]
    have hkeeps := (h.anchored seq).stored_keeps (by simpa using hdvd) hnear data
      (by simpa using hi) (by simpa using hv) (by simpa using hne)
    rwa [RtpReorder.anchored_slots] at hkeeps

/-- A packet at the cursor, or up to half the circle ahead of it, is stored if it lies in the window
and its slot does not hold it. -/
theorem rtpReorderInsert_stored {seq : BitVec 16} {data : Bytes}
    (hlen : ¬(data.length = 0 ∨ rtpReorderMaxPkt < data.length))
    (hahead : 0 ≤ (seq - (rb.anchored seq).next).toInt)
    (hnear : seqDiff seq (rb.anchored seq).next < rb.window)
    (hfree : ¬((rb.slots (rb.slotIdx seq)).valid = true ∧ (rb.slots (rb.slotIdx seq)).seq = seq)) :
    rtpReorderInsert rb seq data = ((rb.anchored seq).stored seq data, .stored) := by
  have hnot : ¬seqLt seq (rb.anchored seq).next = true := by
    rw [seqLt, decide_eq_true_eq]
    omega
  rw [rtpReorderInsert_eq, if_neg hlen, if_neg hnot, RtpReorder.anchored_window,
    if_neg (BitVec.not_le.mpr hnear), RtpReorder.anchored_slots, RtpReorder.anchored_slotIdx,
    if_neg hfree]

end Keeps

/-- The first packet that a new buffer is given is stored. -/
theorem rtpReorderInsert_first (hwindow : 0 < window.toNat) (a : BitVec 16) :
    rtpReorderInsert (rtpReorderInit slots window hold) a [0]
      = (((rtpReorderInit slots window hold).anchored a).stored a [0], .stored) := by
  have hfiled : Filed (rtpReorderInit slots window hold) :=
    Filed.init slots (fun h => by rw [h] at hwindow; exact absurd hwindow (by decide)) hold
  have hnext : ((rtpReorderInit slots window hold).anchored a).next = a := rfl
  refine rtpReorderInsert_stored (by decide) ?_ ?_ fun hheld => ?_
  · rw [hnext, BitVec.sub_self]
    decide
  · rw [hnext, seqDiff, BitVec.sub_self, BitVec.lt_def]
    exact hwindow
  · exact absurd (hheld.1.symm.trans (hfiled.unstarted rfl _ (hfiled.slotIdx_lt a))) (by decide)

/-- **Any other window** lets the packet 0 overwrite an unread one in front of the wrap. -/
theorem rtpReorder_overwrites (hlo : 2 ≤ window.toNat) (hhi : window.toNat ≤ 32767)
    (hdvd : ¬window.toNat ∣ 2 ^ 16) :
    ∃ calls, ¬(rtpReorderRun slots window hold calls).KeepsUnread := by
  obtain ⟨a, ha, hslot, hpos, hlt⟩ := exists_serial_collision (by omega) (by omega) hdvd
  refine ⟨[.insert a [0]], fun hkeeps => ?_⟩
  obtain ⟨rb, hrb⟩ : ∃ rb, ((rtpReorderInit slots window hold).anchored a).stored a [0] = rb :=
    ⟨_, rfl⟩
  have hrun : rtpReorderRun slots window hold [.insert a [0]] = rb := by
    change (rtpReorderInsert (rtpReorderInit slots window hold) a [0]).1 = rb
    rw [rtpReorderInsert_first (by omega), hrb]
  rw [hrun] at hkeeps
  have hwindow : rb.window = window := by rw [← hrb]; rfl
  -- both packets belong in slot 0, which the first one has
  have hidx : rb.slotIdx a = 0 ∧ rb.slotIdx 0 = 0 := by
    constructor
    · rw [RtpReorder.slotIdx, BitVec.toNat_umod, hwindow, hslot]
    · rw [RtpReorder.slotIdx, BitVec.toNat_umod]
      exact Nat.zero_mod _
  have hheld : (rb.slots 0).valid = true ∧ (rb.slots 0).seq = a := by
    have hself := ((rtpReorderInit slots window hold).anchored a).stored_slots_self a [0]
    rw [hrb, show ((rtpReorderInit slots window hold).anchored a).slotIdx a = rb.slotIdx a by
      rw [← hrb]; rfl, hidx.1] at hself
    rw [hself]
    exact ⟨rfl, rfl⟩
  have hnext : (rb.anchored 0).next = a := by rw [← hrb]; rfl
  have hsecond := @rtpReorderInsert_stored rb 0 [0] (by decide)
    (by rw [hnext, BitVec.toInt_eq_toNat_of_lt (by omega)]; omega)
    (by rw [hnext, hwindow, seqDiff, BitVec.lt_def]; exact hlt)
    (by rw [hidx.2]; exact fun h => ha (hheld.2.symm.trans h.2))
  have hkept := hkeeps 0 [0] (by rw [hsecond]) 0 (by rw [hwindow]; omega) hheld.1
    (by rw [hheld.2]; exact ha)
  -- but the second one is there now
  have hnew : ((rtpReorderInsert rb 0 [0]).1.slots 0).seq = 0 := by
    have hself := (rb.anchored 0).stored_slots_self 0 [0]
    rw [RtpReorder.anchored_slotIdx, hidx.2] at hself
    rw [hsecond, hself]
    rfl
  rw [hkept, hheld.2] at hnew
  exact ha hnew

/-- **An insert never overwrites an unread packet exactly if the window is a power of two**, that is,
divides `2 ^ 16`: for every such window, every hold and after every run of inserts and pops, a packet
that is stored replaces no held packet of another sequence number, and `count` is the number of valid
slots; for every other window there is a run behind which this fails. -/
theorem rtpReorder_unread_kept_iff (slots : ℕ → RtpReorderSlot) {window : BitVec 16}
    (hlo : 2 ≤ window.toNat) (hhi : window.toNat ≤ 32767) (hold : BitVec 16) :
    (∀ calls, (rtpReorderRun slots window hold calls).KeepsUnread ∧
      (rtpReorderRun slots window hold calls).count.toNat
        = validCount (rtpReorderRun slots window hold calls).slots window.toNat) ↔
      window.toNat ∣ 2 ^ 16 := by
  constructor
  · intro h
    by_contra hdvd
    obtain ⟨calls, hcalls⟩ := @rtpReorder_overwrites slots window hold hlo hhi hdvd
    exact hcalls (h calls).1
  · intro hdvd calls
    have hwindow : window ≠ 0 := fun h => by rw [h] at hlo; exact absurd hlo (by decide)
    have hfiled := @filed_run slots window hold hwindow calls
    have hcount := hfiled.count
    rw [rtpReorderRun_window] at hcount
    exact ⟨hfiled.keepsUnread (by rwa [rtpReorderRun_window]), hcount⟩

/-- The buffer of the RTP task with a packet in front of the wrap. -/
theorem rtpReorder_unread_kept_iff_task :
    (rtpReorderRun (fun _ => ⟨false, 0, 0, []⟩) 256 24 [.insert 65535 [7]]).KeepsUnread ∧
      (rtpReorderRun (fun _ => ⟨false, 0, 0, []⟩) 256 24 [.insert 65535 [7]]).count.toNat
        = validCount (rtpReorderRun (fun _ => ⟨false, 0, 0, []⟩) 256 24
            [.insert 65535 [7]]).slots (256 : BitVec 16).toNat :=
  (rtpReorder_unread_kept_iff _ (by decide) (by decide) 24).mpr (by decide) _

/-- **A window of 3**: the packet 0 is stored in the slot of the unread packet 65535. -/
theorem rtpReorder_window_three_overwrites :
    ¬(rtpReorderRun (fun _ => ⟨false, 0, 0, []⟩) 3 2 [.insert 65535 [7]]).KeepsUnread := by
  intro hkeeps
  have hkept := hkeeps 0 [8] (by decide) 0 (by decide) (by decide) (by decide)
  have hseq : ((rtpReorderInsert (rtpReorderRun (fun _ => ⟨false, 0, 0, []⟩) 3 2
      [.insert 65535 [7]]) 0 [8]).1.slots 0).seq ≠ 65535 := by decide
  exact hseq (congrArg RtpReorderSlot.seq hkept)

end ConduitStream
