import Mathlib.Data.Finset.Card
import Mathlib.Data.Finset.Range
import ConduitStream.Foundations.ByteString

/-! # The RTP reorder buffer (`rtp_reorder.c`)

A jitter buffer of encrypted audio payloads, indexed by the 16-bit RTP sequence number. The slots
are caller-owned storage of `window` entries; `next` is the play cursor, `head` the highest
sequence number stored plus one, `count` the number of buffered packets. Every field is a
`uint16_t`, so all arithmetic on them is `BitVec 16` arithmetic. -/

namespace ConduitStream

/-- `RTP_REORDER_MAX_PKT`: the largest stored payload. -/
def rtpReorderMaxPkt : ℕ := 1536

/-- `rtp_reorder_slot_t`. -/
structure RtpReorderSlot where
  /-- The slot holds an unread packet. -/
  valid : Bool
  /-- Its RTP sequence number. -/
  seq : BitVec 16
  /-- Its payload byte count. -/
  len : BitVec 16
  /-- The storage of the payload; bytes from `len` on are stale. -/
  data : Bytes

/-- `rtp_reorder_t`. -/
structure RtpReorder where
  /-- Caller-owned slots; the code only touches indices below `window`. -/
  slots : ℕ → RtpReorderSlot
  /-- Ring size in packets. -/
  window : BitVec 16
  /-- Conceal threshold. -/
  hold : BitVec 16
  /-- Next sequence number to pop. -/
  next : BitVec 16
  /-- Highest sequence number seen plus one. -/
  head : BitVec 16
  /-- Packets currently buffered. -/
  count : BitVec 16
  /-- False until anchored. -/
  started : Bool

/-- `rtp_ins_t`. -/
inductive RtpIns
  | stored | dup | tooOld | tooNew | badlen
  deriving DecidableEq, Repr

/-- `rtp_pop_t`, with what the call writes through its out-pointers: `RTP_POP_OK` fills `out`
(so `*out_len` is the length of `out`) and `*out_seq`, the other results write nothing. -/
inductive RtpPop
  | ok (out : Bytes) (outSeq : BitVec 16)
  | wait
  | conceal
  | empty
  deriving DecidableEq, Repr

/-- `seq_lt`: `a` is strictly before `b` on the circle. -/
def seqLt (a b : BitVec 16) : Bool := decide ((a - b).toInt < 0)

/-- `seq_diff`: the number of packets from `b` up to `a`. -/
def seqDiff (a b : BitVec 16) : BitVec 16 := a - b

/-- `rtp_reorder_init`: every field is set; of the slots only the `valid` flags are cleared. -/
def rtpReorderInit (slots : ℕ → RtpReorderSlot) (window hold : BitVec 16) : RtpReorder where
  slots := fun i => if i < window.toNat then { slots i with valid := false } else slots i
  window := window
  hold := if hold ≠ 0 ∧ hold < window then hold else window - 1
  next := 0
  head := 0
  count := 0
  started := false

/-- `rtp_reorder_anchor`. -/
def rtpReorderAnchor (rb : RtpReorder) (firstSeq : BitVec 16) : RtpReorder :=
  { rb with next := firstSeq, head := firstSeq, started := true }

/-- The index of the slot of `seq`: `seq % rb->window`. -/
def RtpReorder.slotIdx (rb : RtpReorder) (seq : BitVec 16) : ℕ := (seq % rb.window).toNat

/-- `rtp_reorder_insert`; `len` is the length of `data`. -/
def rtpReorderInsert (rb : RtpReorder) (seq : BitVec 16) (data : Bytes) : RtpReorder × RtpIns :=
  if data.length = 0 ∨ rtpReorderMaxPkt < data.length then (rb, .badlen)
  else
    let rb := if rb.started then rb else { rb with next := seq, head := seq, started := true }
    if seqLt seq rb.next then (rb, .tooOld)
    else if rb.window ≤ seqDiff seq rb.next then (rb, .tooNew)
    else
      let sl := rb.slots (rb.slotIdx seq)
      if sl.valid ∧ sl.seq = seq then (rb, .dup)
      else
        ({ rb with
            count := if sl.valid then rb.count else rb.count + 1
            slots := Function.update rb.slots (rb.slotIdx seq)
              { valid := true, seq := seq, len := BitVec.ofNat 16 data.length,
                data := data ++ sl.data.drop data.length }
            head := if seqLt rb.head (seq + 1) then seq + 1 else rb.head }, .stored)

/-- `rtp_reorder_pop`. -/
def rtpReorderPop (rb : RtpReorder) (outCap : ℕ) : RtpReorder × RtpPop :=
  if rb.started = false ∨ rb.count = 0 then (rb, .empty)
  else
    let sl := rb.slots (rb.slotIdx rb.next)
    if sl.valid ∧ sl.seq = rb.next then
      ({ rb with
          slots := Function.update rb.slots (rb.slotIdx rb.next) { sl with valid := false }
          count := rb.count - 1
          next := rb.next + 1 },
        .ok (sl.data.take (min sl.len.toNat outCap)) rb.next)
    else if rb.hold < seqDiff rb.head rb.next then
      ({ rb with next := rb.next + 1 }, .conceal)
    else (rb, .wait)

/-- The scan loop of `rtp_reorder_gap`: at most `n` further rounds, `miss` packets missing so
far (the loop variable `i` equals `miss` throughout). -/
def rtpReorderGapScan (rb : RtpReorder) : ℕ → BitVec 16 → BitVec 16
  | 0, miss => miss
  | n + 1, miss =>
      let s := rb.next + miss
      let p := rb.slots (rb.slotIdx s)
      if p.valid ∧ p.seq = s then miss else rtpReorderGapScan rb n (miss + 1)

/-- `rtp_reorder_gap`: `some (first, count)` for true, `none` for false. -/
def rtpReorderGap (rb : RtpReorder) : Option (BitVec 16 × BitVec 16) :=
  if rb.started = false ∨ rb.count = 0 then none
  else
    let sl := rb.slots (rb.slotIdx rb.next)
    if sl.valid ∧ sl.seq = rb.next then none
    else
      let span := seqDiff rb.head rb.next
      let miss := rtpReorderGapScan rb (min span.toNat rb.window.toNat) 0
      if miss = 0 then none else some (rb.next, miss)

/-! ## What the operations leave alone -/

/-- An insertion leaves the window as it is. -/
@[simp] theorem rtpReorderInsert_window (rb : RtpReorder) (seq : BitVec 16) (data : Bytes) :
    (rtpReorderInsert rb seq data).1.window = rb.window := by
  unfold rtpReorderInsert
  split
  · rfl
  · cases rb.started <;> simp only [Bool.false_eq_true, if_true, if_false] <;> split_ifs <;> rfl

/-- An insertion leaves the hold as it is. -/
@[simp] theorem rtpReorderInsert_hold (rb : RtpReorder) (seq : BitVec 16) (data : Bytes) :
    (rtpReorderInsert rb seq data).1.hold = rb.hold := by
  unfold rtpReorderInsert
  split
  · rfl
  · cases rb.started <;> simp only [Bool.false_eq_true, if_true, if_false] <;> split_ifs <;> rfl

/-- A pop leaves the window as it is. -/
@[simp] theorem rtpReorderPop_window (rb : RtpReorder) (cap : ℕ) :
    (rtpReorderPop rb cap).1.window = rb.window := by
  unfold rtpReorderPop
  dsimp only
  split_ifs <;> rfl

/-- A pop leaves the hold as it is. -/
@[simp] theorem rtpReorderPop_hold (rb : RtpReorder) (cap : ℕ) :
    (rtpReorderPop rb cap).1.hold = rb.hold := by
  unfold rtpReorderPop
  dsimp only
  split_ifs <;> rfl

/-- A bad length is refused before the buffer is touched. -/
theorem rtpReorderInsert_badlen (rb : RtpReorder) (seq : BitVec 16) {data : Bytes}
    (h : data.length = 0 ∨ rtpReorderMaxPkt < data.length) :
    rtpReorderInsert rb seq data = (rb, .badlen) := if_pos h

/-- The first insert anchors the buffer to its own sequence number. -/
theorem rtpReorderInsert_of_not_started {rb : RtpReorder} (hs : rb.started = false)
    (seq : BitVec 16) {data : Bytes} (h : ¬(data.length = 0 ∨ rtpReorderMaxPkt < data.length)) :
    rtpReorderInsert rb seq data = rtpReorderInsert (rtpReorderAnchor rb seq) seq data := by
  unfold rtpReorderInsert rtpReorderAnchor
  rw [if_neg h, if_neg h, hs]
  rfl

/-- What a successful pop did: the slot of the cursor was valid and is emptied. -/
theorem rtpReorderPop_eq_ok {rb rb' : RtpReorder} {cap : ℕ} {out : Bytes} {seq : BitVec 16}
    (h : rtpReorderPop rb cap = (rb', .ok out seq)) :
    ∃ sl, (rb.slots (rb.slotIdx rb.next)).valid = true ∧ sl.valid = false ∧
      rb'.slots = Function.update rb.slots (rb.slotIdx rb.next) sl := by
  unfold rtpReorderPop at h
  dsimp only at h
  split_ifs at h with h1 h2 h3
  all_goals simp only [Prod.mk.injEq, RtpPop.ok.injEq, reduceCtorEq, and_false] at h
  exact ⟨_, h2.1, rfl, by rw [← h.1]⟩

/-- What a concealment did: the write head was past the cursor, and only the cursor moved. -/
theorem rtpReorderPop_eq_conceal {rb rb' : RtpReorder} {cap : ℕ}
    (h : rtpReorderPop rb cap = (rb', .conceal)) :
    rb.hold < seqDiff rb.head rb.next ∧ rb' = { rb with next := rb.next + 1 } := by
  unfold rtpReorderPop at h
  dsimp only at h
  split_ifs at h with h1 h2 h3
  all_goals simp only [Prod.mk.injEq, reduceCtorEq, and_false] at h
  exact ⟨h3, h.1.symm⟩

/-- A buffer that holds nothing answers `RTP_POP_EMPTY`. -/
theorem rtpReorderPop_empty {rb : RtpReorder} (h : rb.started = false ∨ rb.count = 0) (cap : ℕ) :
    rtpReorderPop rb cap = (rb, .empty) := if_pos h

/-! ## Counting the valid slots -/

/-- The number of valid slots among the first `n`. -/
def validCount (slots : ℕ → RtpReorderSlot) (n : ℕ) : ℕ :=
  ((Finset.range n).filter fun i => (slots i).valid = true).card

/-- Filling an invalid slot adds one. -/
theorem validCount_update_valid {slots : ℕ → RtpReorderSlot} {n i : ℕ} (hi : i < n)
    (hv : (slots i).valid = false) (sl : RtpReorderSlot) (hsl : sl.valid = true) :
    validCount (Function.update slots i sl) n = validCount slots n + 1 := by
  unfold validCount
  rw [← Finset.card_insert_of_notMem (a := i) (by simp [hv])]
  congr 1
  ext j
  by_cases hj : j = i
  · subst hj; simp [hi, hsl]
  · simp [hj]

/-- Emptying a valid slot removes one. -/
theorem validCount_update_invalid {slots : ℕ → RtpReorderSlot} {n i : ℕ} (hi : i < n)
    (hv : (slots i).valid = true) (sl : RtpReorderSlot) (hsl : sl.valid = false) :
    validCount (Function.update slots i sl) n + 1 = validCount slots n := by
  have hback : Function.update (Function.update slots i sl) i (slots i) = slots := by simp
  have hv' : (Function.update slots i sl i).valid = false := by simp [hsl]
  have := validCount_update_valid hi hv' (slots i) hv
  rw [hback] at this
  exact this.symm

/-- The count is zero exactly when no slot is valid. -/
theorem validCount_eq_zero_iff {slots : ℕ → RtpReorderSlot} {n : ℕ} :
    validCount slots n = 0 ↔ ∀ i < n, (slots i).valid = false := by
  simp [validCount, Finset.filter_eq_empty_iff]

/-- There are no more valid slots than slots. -/
theorem validCount_le (slots : ℕ → RtpReorderSlot) (n : ℕ) : validCount slots n ≤ n := by
  have := Finset.card_filter_le (Finset.range n) fun i => (slots i).valid = true
  rwa [Finset.card_range] at this

end ConduitStream
