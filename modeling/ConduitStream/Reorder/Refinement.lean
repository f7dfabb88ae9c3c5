import ConduitStream.Foundations.Trace
import ConduitStream.Reorder.IdealBuffer

/-! # The 16-bit reorder buffer refines the ideal one

The simulation relation `Refines rb b H` ties the 16-bit buffer `rb` to the ideal buffer `b` and
to the true write head `H`: `next` and `head` are the serial numbers of the cursor and of `H`, the
slot of every number of the window stores exactly what the ideal buffer holds for it, and `count`
counts the valid slots. It needs a window that is a power of two, at most `2 ^ 15`: then the slot
of a serial number is the slot of the true number, and the window never spans more than half the
circle, so `seq_lt` compares true numbers.

* `IdealReorder.TopAt` is the half of the invariant that speaks of the ideal buffer alone: the
  number just below the write head is held while anything is.
* `Refines.insert` and `Refines.pop` are the step lemmas; `rtpReorder_refines_ideal` follows by
  the simulation rule for runs. -/

namespace ConduitStream

/-! ## The write head of the ideal buffer -/

/-- `H` is the true write head: everything held lies in `[cursor, H)`, and `H - 1` is held unless
`H` is the cursor. -/
structure IdealReorder.TopAt (b : IdealReorder) (H : ℤ) : Prop where
  cursor_le : b.cursor ≤ H
  le_window : H ≤ b.cursor + b.window
  bounds : ∀ E, b.held E ≠ none → b.cursor ≤ E ∧ E < H
  last : b.cursor < H → b.held (H - 1) ≠ none

namespace IdealReorder.TopAt

variable {b : IdealReorder} {H : ℤ}

/-- Nothing is held exactly when the write head is the cursor. -/
theorem isEmpty_iff (h : b.TopAt H) : b.IsEmpty ↔ H = b.cursor := by
  constructor
  · intro he
    by_contra hne
    exact h.last (lt_of_le_of_ne h.cursor_le (Ne.symm hne)) (he _)
  · intro hH E
    by_contra hE
    have := h.bounds E hE
    omega

/-- The write head is determined by what is held. -/
theorem unique {H' : ℤ} (h : b.TopAt H) (h' : b.TopAt H') : H = H' := by
  by_cases he : b.IsEmpty
  · rw [h.isEmpty_iff.mp he, h'.isEmpty_iff.mp he]
  · have hne : b.cursor < H := lt_of_le_of_ne h.cursor_le fun hc => he (h.isEmpty_iff.mpr hc.symm)
    have hne' : b.cursor < H' :=
      lt_of_le_of_ne h'.cursor_le fun hc => he (h'.isEmpty_iff.mpr hc.symm)
    have h1 := (h'.bounds _ (h.last hne)).2
    have h2 := (h.bounds _ (h'.last hne')).2
    omega

/-- The hold is exceeded exactly when the write head has run past it. -/
theorem overdue_iff (h : b.TopAt H) (he : ¬b.IsEmpty) :
    b.Overdue ↔ b.cursor + b.hold < H := by
  constructor
  · rintro ⟨E, hE, hlt⟩
    have := (h.bounds E hE).2
    omega
  · intro hlt
    have hne : b.cursor ≠ H := fun hc => he (h.isEmpty_iff.mpr hc.symm)
    exact ⟨H - 1, h.last (lt_of_le_of_ne h.cursor_le hne), by omega⟩

/-- A held cursor lies strictly below the write head. -/
theorem cursor_lt_of_held (h : b.TopAt H) (hc : b.held b.cursor ≠ none) : b.cursor < H :=
  (h.bounds _ hc).2

/-- Over a gap at the cursor the write head is at least two ahead. -/
theorem cursor_add_one_lt_of_gap (h : b.TopAt H) (he : ¬b.IsEmpty)
    (hc : b.held b.cursor = none) : b.cursor + 1 < H := by
  have hne : b.cursor ≠ H := fun hc => he (h.isEmpty_iff.mpr hc.symm)
  have hlt : b.cursor < H := lt_of_le_of_ne h.cursor_le hne
  by_contra hnot
  have hH : H - 1 = b.cursor := by omega
  exact h.last hlt (hH ▸ hc)

/-- Anchoring the empty buffer puts its top where the cursor is. -/
theorem anchor (h : b.IsEmpty) (E : ℤ) : (b.anchor E).TopAt E where
  cursor_le := le_rfl
  le_window := by simp [IdealReorder.anchor]
  bounds := fun E' hE' => absurd (h E') hE'
  last := fun hlt => absurd hlt (lt_irrefl _)

/-- Storing `E` moves the write head to `E + 1` if that is further on. -/
theorem store (h : b.TopAt H) {E : ℤ} (h0 : b.cursor ≤ E) (h1 : E < b.cursor + b.window)
    (data : Bytes) :
    ({ b with held := Function.update b.held E (some data) } : IdealReorder).TopAt
      (max H (E + 1)) where
  cursor_le := le_max_of_le_left h.cursor_le
  le_window := max_le h.le_window (by dsimp only; omega)
  bounds := by
    intro E' hE'
    dsimp only at hE' ⊢
    by_cases hEE : E' = E
    · subst hEE
      exact ⟨h0, lt_max_of_lt_right (by omega)⟩
    · rw [Function.update_of_ne hEE] at hE'
      have := h.bounds E' hE'
      exact ⟨this.1, lt_max_of_lt_left this.2⟩
  last := by
    intro _
    -- right below the write head stands `E`, or what stood there before
    dsimp only
    rcases le_total H (E + 1) with hle | hle
    · rw [max_eq_right hle, add_sub_cancel_right, Function.update_self]
      exact Option.some_ne_none _
    · rw [max_eq_left hle]
      by_cases hEE : H - 1 = E
      · rw [hEE, Function.update_self]
        exact Option.some_ne_none _
      · rw [Function.update_of_ne hEE]
        exact h.last (by omega)

/-- Playing the packet at the cursor leaves the write head. -/
theorem play (h : b.TopAt H) (hc : b.held b.cursor ≠ none) :
    ({ b with held := Function.update b.held b.cursor none, cursor := b.cursor + 1 } :
      IdealReorder).TopAt H where
  cursor_le := by have := h.cursor_lt_of_held hc; dsimp only; omega
  le_window := by have := h.le_window; dsimp only; omega
  bounds := by
    intro E hE
    dsimp only at hE ⊢
    by_cases hEc : E = b.cursor
    · rw [hEc, Function.update_self] at hE
      exact absurd rfl hE
    · rw [Function.update_of_ne hEc] at hE
      have := h.bounds E hE
      omega
  last := by
    intro hlt
    dsimp only at hlt ⊢
    rw [Function.update_of_ne (by omega)]
    exact h.last (by omega)

/-- Concealing the gap at the cursor leaves the write head. -/
theorem conceal (h : b.TopAt H) (he : ¬b.IsEmpty) (hc : b.held b.cursor = none) :
    ({ b with cursor := b.cursor + 1 } : IdealReorder).TopAt H where
  cursor_le := by have := h.cursor_add_one_lt_of_gap he hc; dsimp only; omega
  le_window := by have := h.le_window; dsimp only; omega
  bounds := by
    intro E hE
    dsimp only at hE ⊢
    have := h.bounds E hE
    have hne : E ≠ b.cursor := fun hEc => hE (hEc ▸ hc)
    omega
  last := fun hlt => h.last (by dsimp only at hlt; omega)

end IdealReorder.TopAt

/-! ## The simulation relation -/

/-- The slot `sl` stores exactly the ideal content `content` of the true number `E`. -/
def RtpReorderSlot.Stores (sl : RtpReorderSlot) (E : ℤ) : Option Bytes → Prop
  | none => sl.valid = false
  | some p => sl.valid = true ∧ sl.seq = serial 16 E ∧ sl.len.toNat ≤ rtpReorderMaxPkt ∧
      sl.data.take sl.len.toNat = p

/-- **The simulation relation**: the 16-bit buffer `rb` represents the ideal buffer `b`, whose true
write head is `H`. -/
structure Refines (rb : RtpReorder) (b : IdealReorder) (H : ℤ) : Prop where
  pow2 : ∃ k ≤ 15, b.window = 2 ^ k
  window : rb.window.toNat = b.window
  hold : rb.hold.toNat = b.hold
  started : rb.started = b.started
  top : b.TopAt H
  next : b.started = true → rb.next = serial 16 b.cursor
  head : b.started = true → rb.head = serial 16 H
  unstarted : b.started = false → b.IsEmpty
  count : rb.count.toNat = validCount rb.slots b.window
  slot : ∀ E, b.cursor ≤ E → E < b.cursor + b.window →
    (rb.slots (slotOf b.window E)).Stores E (b.held E)

namespace Refines

variable {rb : RtpReorder} {b : IdealReorder} {H : ℤ}

/-- The window has at least one slot, as it divides the circle of the numbers. -/
theorem window_pos (h : Refines rb b H) : 0 < b.window := by
  obtain ⟨k, -, hk⟩ := h.pow2
  rw [hk]
  positivity

/-- The window divides the circle of the numbers. -/
theorem window_dvd (h : Refines rb b H) : b.window ∣ 2 ^ 16 := by
  obtain ⟨k, hk, hW⟩ := h.pow2
  rw [hW]
  exact pow_dvd_pow 2 (by omega)

/-- It is at most half of it. -/
theorem window_le (h : Refines rb b H) : b.window ≤ 32768 := by
  obtain ⟨k, hk, hW⟩ := h.pow2
  rw [hW]
  exact (Nat.pow_le_pow_right (by norm_num) hk).trans (by norm_num)

/-- The slot the code computes from a serial number is the slot of the true number. -/
theorem slotIdx_serial (h : Refines rb b H) (E : ℤ) :
    rb.slotIdx (serial 16 E) = slotOf b.window E := by
  rw [RtpReorder.slotIdx, BitVec.toNat_umod, h.window, serial_toNat_mod h.window_dvd]

/-- Inside the window the code's test for "this number is held" is right. -/
theorem held_iff (h : Refines rb b H) {E : ℤ} (h0 : b.cursor ≤ E) (h1 : E < b.cursor + b.window) :
    ((rb.slots (slotOf b.window E)).valid = true ∧
      (rb.slots (slotOf b.window E)).seq = serial 16 E) ↔ b.held E ≠ none := by
  have hs := h.slot E h0 h1
  cases hE : b.held E with
  | none =>
      rw [hE] at hs
      have hs' : (rb.slots (slotOf b.window E)).valid = false := hs
      simp [hs']
  | some p =>
      rw [hE] at hs
      simp [hs.1, hs.2.1]

/-- No slot is valid exactly when nothing is held. -/
theorem count_eq_zero_iff (h : Refines rb b H) : rb.count = 0 ↔ b.IsEmpty := by
  have hz : rb.count = 0 ↔ rb.count.toNat = 0 := by
    constructor
    · intro hc; rw [hc]; rfl
    · intro hc; exact BitVec.eq_of_toNat_eq (by simpa using hc)
  rw [hz, h.count, validCount_eq_zero_iff]
  constructor
  · intro hall E
    by_contra hE
    obtain ⟨hE0, hE1⟩ := h.top.bounds E hE
    have hlt : E < b.cursor + b.window := lt_of_lt_of_le hE1 h.top.le_window
    have := ((h.held_iff hE0 hlt).mpr hE).1
    rw [hall _ (slotOf_lt h.window_pos E)] at this
    exact Bool.false_ne_true this
  · intro he i hi
    obtain ⟨E, hE0, hE1, rfl⟩ := exists_slotOf_eq b.cursor hi
    have hs := h.slot E hE0 hE1
    rw [he E] at hs
    exact hs

/-! ### The comparisons of the code are comparisons of true numbers -/

/-- `seq_lt(seq, rb->next)` for a number within half the circle of the cursor. -/
theorem seqLt_next_iff (h : Refines rb b H) (hs : b.started = true) {E : ℤ}
    (h0 : b.cursor - 32768 ≤ E) (h1 : E ≤ b.cursor + 32767) :
    seqLt (serial 16 E) rb.next = true ↔ E < b.cursor := by
  rw [seqLt, decide_eq_true_iff, h.next hs]
  exact serial_sub_neg_iff (by norm_num) (by norm_num; omega) (by norm_num; omega)

/-- `seq_diff(seq, rb->next) >= rb->window` for a number not before the cursor. -/
theorem window_le_seqDiff_iff (h : Refines rb b H) (hs : b.started = true) {E : ℤ}
    (h0 : b.cursor ≤ E) (h1 : E ≤ b.cursor + 32767) :
    rb.window ≤ seqDiff (serial 16 E) rb.next ↔ b.cursor + b.window ≤ E := by
  rw [seqDiff, h.next hs, BitVec.le_def, h.window,
    toNat_serial_sub (by omega) (by norm_num; omega)]
  omega

/-- `seq_lt(rb->head, seq + 1)` for a number of the window. -/
theorem seqLt_head_iff (h : Refines rb b H) (hs : b.started = true) {E : ℤ}
    (h0 : b.cursor ≤ E) (h1 : E < b.cursor + b.window) :
    seqLt rb.head (serial 16 E + 1) = true ↔ H < E + 1 := by
  have hW := h.window_le
  have hH0 := h.top.cursor_le
  have hH1 := h.top.le_window
  have hsucc : serial 16 E + 1 = serial 16 (E + 1) := serial_add_one E
  rw [seqLt, decide_eq_true_iff, h.head hs, hsucc]
  exact serial_sub_neg_iff (by norm_num) (by norm_num; omega) (by norm_num; omega)

/-- The comparison `seq_diff(rb->head, rb->next) > rb->hold` says that the gap is overdue. -/
theorem hold_lt_seqDiff_iff (h : Refines rb b H) (hs : b.started = true) :
    rb.hold < seqDiff rb.head rb.next ↔ b.cursor + b.hold < H := by
  have hW := h.window_le
  have hH0 := h.top.cursor_le
  have hH1 := h.top.le_window
  rw [seqDiff, h.head hs, h.next hs, BitVec.lt_def, h.hold,
    toNat_serial_sub (by omega) (by norm_num; omega)]
  omega

/-! ### Initialisation and anchoring -/

/-- A freshly initialised buffer represents the empty ideal buffer. -/
theorem init (slots : ℕ → RtpReorderSlot) {k : ℕ} (hk : k ≤ 15) {window : BitVec 16}
    (hw : window.toNat = 2 ^ k) (hold : BitVec 16) :
    Refines (rtpReorderInit slots window hold) (IdealReorder.init (2 ^ k) hold.toNat) 0 where
  pow2 := ⟨k, hk, rfl⟩
  window := hw
  hold := by
    have hpos : 0 < 2 ^ k := Nat.two_pow_pos k
    have hzero : hold = 0 ↔ hold.toNat = 0 :=
      ⟨fun hc => by rw [hc]; rfl, fun hc => BitVec.eq_of_toNat_eq (by simpa using hc)⟩
    -- the source tests the hold as a 16-bit value, the ideal buffer as a number
    have hcond : (hold ≠ 0 ∧ hold < window) ↔ (hold.toNat ≠ 0 ∧ hold.toNat < 2 ^ k) := by
      rw [ne_eq, hzero, BitVec.lt_def, hw]
    simp only [rtpReorderInit, IdealReorder.init, IdealReorder.effectiveHold]
    by_cases hc : hold.toNat ≠ 0 ∧ hold.toNat < 2 ^ k
    · rw [if_pos (hcond.mpr hc), if_pos hc]
    · rw [if_neg (fun h => hc (hcond.mp h)), if_neg hc,
        BitVec.toNat_sub_of_le (by rw [BitVec.le_def, hw]; exact hpos), hw]
      rfl
  started := rfl
  top :=
    { cursor_le := le_rfl
      le_window := by simp [IdealReorder.init]
      bounds := fun _ hE => absurd rfl hE
      last := fun hlt => absurd hlt (lt_irrefl _) }
  next := fun h => absurd h (by simp [IdealReorder.init])
  head := fun h => absurd h (by simp [IdealReorder.init])
  unstarted := fun _ _ => rfl
  count := by
    symm
    refine validCount_eq_zero_iff.mpr fun i hi => ?_
    have hi' : i < window.toNat := by rw [hw]; exact hi
    simp [rtpReorderInit, hi']
  slot := by
    intro E _ _
    have hlt : slotOf (2 ^ k) E < window.toNat := by
      rw [hw]; exact slotOf_lt (Nat.two_pow_pos k) E
    simp [rtpReorderInit, IdealReorder.init, RtpReorderSlot.Stores, hlt]

/-- Anchoring an empty buffer at the true number `E`. -/
theorem anchor (h : Refines rb b H) (he : b.IsEmpty) (E : ℤ) :
    Refines (rtpReorderAnchor rb (serial 16 E)) (b.anchor E) E where
  pow2 := h.pow2
  window := h.window
  hold := h.hold
  started := rfl
  top := IdealReorder.TopAt.anchor he E
  next := fun _ => rfl
  head := fun _ => rfl
  unstarted := fun hs => absurd hs (by simp [IdealReorder.anchor])
  count := h.count
  slot := by
    intro E' _ _
    -- every slot is the slot of a number of the old window, where nothing is held
    obtain ⟨E₀, h0, h1, hslot⟩ := exists_slotOf_eq b.cursor (slotOf_lt h.window_pos E')
    have hs := h.slot E₀ h0 h1
    rw [hslot, he E₀] at hs
    have he' : (b.anchor E).held E' = none := he E'
    rw [he']
    exact hs

/-! ### The step lemmas -/

/-- The content of the slots of the window after the payload of `E` has been written to its own
slot. -/
theorem slot_update_store (h : Refines rb b H) {E : ℤ} (h0 : b.cursor ≤ E)
    (h1 : E < b.cursor + b.window) {data : Bytes} (hlen : data.length ≤ rtpReorderMaxPkt)
    (stale : Bytes) {E' : ℤ} (h0' : b.cursor ≤ E') (h1' : E' < b.cursor + b.window) :
    (Function.update rb.slots (slotOf b.window E)
      { valid := true, seq := serial 16 E, len := BitVec.ofNat 16 data.length,
        data := data ++ stale } (slotOf b.window E')).Stores E'
      (Function.update b.held E (some data) E') := by
  by_cases hEE : E' = E
  · subst hEE
    have hl : (BitVec.ofNat 16 data.length).toNat = data.length := by
      rw [BitVec.toNat_ofNat, Nat.mod_eq_of_lt (by unfold rtpReorderMaxPkt at hlen; omega)]
    rw [Function.update_self, Function.update_self]
    exact ⟨rfl, rfl, by rw [hl]; exact hlen, by rw [hl, List.take_left]⟩
  · have hne : slotOf b.window E' ≠ slotOf b.window E :=
      fun hc => hEE (slotOf_inj_of_window h0' h1' h0 h1 hc)
    rw [Function.update_of_ne hEE, Function.update_of_ne hne]
    exact h.slot E' h0' h1'

/-- Insertion into a started buffer follows the ideal buffer, answer for answer. -/
theorem insert_started (h : Refines rb b H) (hs : b.started = true) {E : ℤ} {data : Bytes}
    (hlen : ¬(data.length = 0 ∨ rtpReorderMaxPkt < data.length))
    (h0 : b.cursor - 32768 ≤ E) (h1 : E ≤ b.cursor + 32767) :
    (∃ H', Refines (rtpReorderInsert rb (serial 16 E) data).1 (b.insert E data).1 H') ∧
      (rtpReorderInsert rb (serial 16 E) data).2 = (b.insert E data).2 := by
  have hrs : rb.started = true := by rw [h.started, hs]
  by_cases hold : E < b.cursor
  · -- already past it
    have hc : rtpReorderInsert rb (serial 16 E) data = (rb, .tooOld) := by
      simp only [rtpReorderInsert, if_neg hlen, hrs, if_true,
        if_pos ((h.seqLt_next_iff hs h0 h1).mpr hold)]
    rw [hc, b.insert_tooOld hs hlen hold]
    exact ⟨⟨H, h⟩, rfl⟩
  have hge : b.cursor ≤ E := not_lt.mp hold
  have hnotlt : ¬seqLt (serial 16 E) rb.next = true :=
    fun hc => hold ((h.seqLt_next_iff hs h0 h1).mp hc)
  by_cases hnew : b.cursor + b.window ≤ E
  · -- outside the window
    have hc : rtpReorderInsert rb (serial 16 E) data = (rb, .tooNew) := by
      simp only [rtpReorderInsert, if_neg hlen, hrs, if_true, if_neg hnotlt,
        if_pos ((h.window_le_seqDiff_iff hs hge h1).mpr hnew)]
    rw [hc, b.insert_tooNew hs hlen hnew]
    exact ⟨⟨H, h⟩, rfl⟩
  have hlt : E < b.cursor + b.window := not_le.mp hnew
  have hnotnew : ¬rb.window ≤ seqDiff (serial 16 E) rb.next :=
    fun hc => hnew ((h.window_le_seqDiff_iff hs hge h1).mp hc)
  have hidx : rb.slotIdx (serial 16 E) = slotOf b.window E := h.slotIdx_serial E
  by_cases hheld : b.held E = none
  · -- the slot is free: a valid slot of this index would hold this very number
    have hfree : (rb.slots (slotOf b.window E)).valid = false := by
      have := h.slot E hge hlt
      rwa [hheld] at this
    have hhead : (if seqLt rb.head (serial 16 E + 1) = true then serial 16 E + 1 else rb.head)
        = serial 16 (max H (E + 1)) := by
      by_cases hH : H < E + 1
      · rw [if_pos ((h.seqLt_head_iff hs hge hlt).mpr hH), max_eq_right hH.le]
        exact serial_add_one E
      · rw [if_neg (fun hc => hH ((h.seqLt_head_iff hs hge hlt).mp hc)),
          max_eq_left (not_lt.mp hH), h.head hs]
    have hbound : validCount rb.slots b.window + 1 ≤ b.window := by
      rw [← validCount_update_valid (slotOf_lt h.window_pos E) hfree
        { valid := true, seq := 0, len := 0, data := [] } rfl]
      exact validCount_le _ _
    have hW := h.window_le
    rw [b.insert_stored hs hlen hge hlt hheld]
    simp only [rtpReorderInsert, if_neg hlen, hrs, if_true, if_neg hnotlt, if_neg hnotnew, hidx,
      hfree, Bool.false_eq_true, false_and, if_false, hhead, and_true]
    refine ⟨max H (E + 1), ?_⟩
    exact
      { pow2 := h.pow2
        window := h.window
        hold := h.hold
        started := hs.symm
        top := h.top.store hge hlt data
        next := fun _ => h.next hs
        head := fun _ => rfl
        unstarted := fun hn => absurd (hs.symm.trans hn) (by decide)
        count := by
          dsimp only
          rw [validCount_update_valid (slotOf_lt h.window_pos E) hfree _ rfl, ← h.count,
            BitVec.toNat_add, Nat.mod_eq_of_lt]
          · rfl
          · have h1 : (1 : BitVec 16).toNat = 1 := rfl
            rw [h.count]
            omega
        slot := fun E' h0' h1' =>
          h.slot_update_store hge hlt (by omega) _ h0' h1' }
  · -- the slot already holds this number
    have hc : rtpReorderInsert rb (serial 16 E) data = (rb, .dup) := by
      simp only [rtpReorderInsert, if_neg hlen, hrs, if_true, if_neg hnotlt, if_neg hnotnew, hidx,
        if_pos ((h.held_iff hge hlt).mpr hheld)]
    rw [hc, b.insert_dup hs hlen hge hlt hheld]
    exact ⟨⟨H, h⟩, rfl⟩

/-- **Step lemma for `rtp_reorder_insert`**: it answers as the ideal buffer does, and stays related to it. -/
theorem insert (h : Refines rb b H) {E : ℤ} (data : Bytes)
    (hE : b.started = true → b.cursor - 32768 ≤ E ∧ E ≤ b.cursor + 32767) :
    (∃ H', Refines (rtpReorderInsert rb (serial 16 E) data).1 (b.insert E data).1 H') ∧
      (rtpReorderInsert rb (serial 16 E) data).2 = (b.insert E data).2 := by
  by_cases hlen : data.length = 0 ∨ rtpReorderMaxPkt < data.length
  · rw [rtpReorderInsert_badlen rb _ hlen, b.insert_badlen E hlen]
    exact ⟨⟨H, h⟩, rfl⟩
  · cases hs : b.started with
    | true => exact h.insert_started hs hlen (hE hs).1 (hE hs).2
    | false =>
        rw [rtpReorderInsert_of_not_started (by rw [h.started, hs]) _ hlen,
          IdealReorder.insert_of_not_started hs E hlen]
        have ha := h.anchor (h.unstarted hs) E
        exact ha.insert_started rfl hlen (by simp [IdealReorder.anchor])
          (by simp [IdealReorder.anchor])

/-- The content of the slots once the cursor `N` has moved on: the slot of `N` becomes the slot of
`N + window`, which is not held. -/
theorem slot_advance (h : Refines rb b H) {slots : ℕ → RtpReorderSlot} {held : ℤ → Option Bytes}
    (hfree : (slots (slotOf b.window b.cursor)).valid = false)
    (hkeep : ∀ i, i ≠ slotOf b.window b.cursor → slots i = rb.slots i)
    (hheld : ∀ E, E ≠ b.cursor → held E = b.held E) {E : ℤ} (h0 : b.cursor + 1 ≤ E)
    (h1 : E < b.cursor + 1 + b.window) : (slots (slotOf b.window E)).Stores E (held E) := by
  have hW := h.window_pos
  rw [hheld E (by omega)]
  by_cases hlast : E = b.cursor + b.window
  · -- the number that comes into the window
    have hnone : b.held E = none := by
      by_contra hne
      have := (h.top.bounds E hne).2
      have := h.top.le_window
      omega
    rw [hnone, hlast, slotOf_add_self]
    exact hfree
  · have hne : slotOf b.window E ≠ slotOf b.window b.cursor := by
      intro hc
      have := slotOf_inj_of_window (N := b.cursor) (by omega) (by omega) le_rfl (by omega) hc
      omega
    rw [hkeep _ hne]
    exact h.slot E (by omega) (by omega)

/-- **Step lemma for `rtp_reorder_pop`**: a pop leaves the write head. -/
theorem pop (h : Refines rb b H) {outCap : ℕ} (hcap : rtpReorderMaxPkt ≤ outCap) :
    Refines (rtpReorderPop rb outCap).1 b.pop.1 H ∧
      (rtpReorderPop rb outCap).2 = b.pop.2 := by
  by_cases he : b.IsEmpty
  · rw [rtpReorderPop_empty (Or.inr (h.count_eq_zero_iff.mpr he)), b.pop_empty he]
    exact ⟨h, rfl⟩
  have hs : b.started = true := by
    by_contra hns
    exact he (h.unstarted (by simpa using hns))
  have hbusy : ¬(rb.started = false ∨ rb.count = 0) := by
    rw [h.started, hs, h.count_eq_zero_iff]
    simpa using he
  have hnext : rb.next = serial 16 b.cursor := h.next hs
  have hidx : rb.slotIdx rb.next = slotOf b.window b.cursor := by rw [hnext, h.slotIdx_serial]
  have hwin : b.cursor < b.cursor + b.window := by have := h.window_pos; omega
  have hcell := h.held_iff le_rfl hwin
  cases hc : b.held b.cursor with
  | some p =>
      -- the front is present
      have hfront : (rb.slots (rb.slotIdx rb.next)).valid = true ∧
          (rb.slots (rb.slotIdx rb.next)).seq = rb.next := by
        rw [hidx, hnext]; exact hcell.mpr (by rw [hc]; exact Option.some_ne_none p)
      have hst := h.slot b.cursor le_rfl hwin
      rw [hc] at hst
      obtain ⟨hv, -, hlen, hdata⟩ := hst
      have hpos : 0 < rb.count.toNat := by
        rw [Nat.pos_iff_ne_zero]
        intro hz
        exact he (h.count_eq_zero_iff.mp (BitVec.eq_of_toNat_eq (by simpa using hz)))
      have hcount := validCount_update_invalid (slotOf_lt h.window_pos b.cursor) hv
        { rb.slots (slotOf b.window b.cursor) with valid := false } rfl
      dsimp only at hcount
      simp only [rtpReorderPop, if_neg hbusy, if_pos hfront]
      rw [IdealReorder.pop_ok hc, hidx, min_eq_left (hlen.trans hcap), hdata, hnext]
      refine ⟨?_, rfl⟩
      exact
        { pow2 := h.pow2
          window := h.window
          hold := h.hold
          started := h.started
          top := h.top.play (by rw [hc]; exact Option.some_ne_none p)
          next := fun _ => serial_add_one b.cursor
          head := fun _ => h.head hs
          unstarted := fun hn => absurd (hs.symm.trans hn) (by decide)
          count := by
            dsimp only
            rw [BitVec.toNat_sub_of_le (by rw [BitVec.le_def]; exact hpos)]
            have := h.count
            have h1 : (1 : BitVec 16).toNat = 1 := rfl
            omega
          slot := fun E h0 h1 => h.slot_advance
            (by dsimp only; rw [Function.update_self])
            (fun i hi => Function.update_of_ne hi _ _) (fun E' hE' => Function.update_of_ne hE' _ _)
            h0 h1 }
  | none =>
      -- a gap at the cursor
      have hgap : ¬((rb.slots (rb.slotIdx rb.next)).valid = true ∧
          (rb.slots (rb.slotIdx rb.next)).seq = rb.next) := by
        rw [hidx, hnext]
        exact fun hv => (hcell.mp hv) hc
      have hov : rb.hold < seqDiff rb.head rb.next ↔ b.Overdue :=
        (h.hold_lt_seqDiff_iff hs).trans (h.top.overdue_iff he).symm
      by_cases ho : b.Overdue
      · -- the slot of the number passed over is free already
        have hst := h.slot b.cursor le_rfl hwin
        rw [hc] at hst
        simp only [rtpReorderPop, if_neg hbusy, if_neg hgap, if_pos (hov.mpr ho)]
        rw [IdealReorder.pop_conceal he hc ho]
        refine ⟨?_, rfl⟩
        exact
          { pow2 := h.pow2
            window := h.window
            hold := h.hold
            started := h.started
            top := h.top.conceal he hc
            next := by
              intro _
              dsimp only
              rw [hnext]
              exact serial_add_one b.cursor
            head := fun _ => h.head hs
            unstarted := fun hn => absurd (hs.symm.trans hn) (by decide)
            count := h.count
            slot := fun E h0 h1 =>
              h.slot_advance hst (fun _ _ => rfl) (fun _ _ => rfl) h0 h1 }
      · simp only [rtpReorderPop, if_neg hbusy, if_neg hgap, if_neg (fun hc => ho (hov.mp hc))]
        rw [IdealReorder.pop_wait he hc ho]
        exact ⟨h, rfl⟩

end Refines

/-! ## Runs -/

/-- One call on a reorder buffer; packets carry their true sequence number. -/
inductive ReorderOp
  | anchor (E : ℤ)
  | insert (E : ℤ) (data : Bytes)
  | pop (outCap : ℕ)

/-- What a call returns. -/
inductive ReorderAnswer
  | anchored
  | inserted (result : RtpIns)
  | popped (result : RtpPop)
  deriving DecidableEq, Repr

/-- The code executes a call: it sees the 16-bit sequence number only. -/
def RtpReorder.exec (rb : RtpReorder) : ReorderOp → RtpReorder × ReorderAnswer
  | .anchor E => (rtpReorderAnchor rb (serial 16 E), .anchored)
  | .insert E data =>
      ((rtpReorderInsert rb (serial 16 E) data).1,
        .inserted (rtpReorderInsert rb (serial 16 E) data).2)
  | .pop outCap => ((rtpReorderPop rb outCap).1, .popped (rtpReorderPop rb outCap).2)

/-- The ideal buffer executes a call. -/
noncomputable def IdealReorder.exec (b : IdealReorder) : ReorderOp → IdealReorder × ReorderAnswer
  | .anchor E => (b.anchor E, .anchored)
  | .insert E data => ((b.insert E data).1, .inserted (b.insert E data).2)
  | .pop _ => (b.pop.1, .popped b.pop.2)

/-- The calls a run may make: the anchor comes before anything has started the buffer, an inserted
number lies within half the circle of the play cursor, and a pop offers room for a whole
packet. -/
def IdealReorder.Admits (b : IdealReorder) : ReorderOp → Prop
  | .anchor _ => b.started = false
  | .insert E _ => b.started = true → b.cursor - 32768 ≤ E ∧ E ≤ b.cursor + 32767
  | .pop outCap => rtpReorderMaxPkt ≤ outCap

/-- One admitted call keeps the simulation relation and answers alike. -/
theorem Refines.exec {rb : RtpReorder} {b : IdealReorder} (h : ∃ H, Refines rb b H)
    {op : ReorderOp} (hop : b.Admits op) :
    (∃ H, Refines (rb.exec op).1 (b.exec op).1 H) ∧ (rb.exec op).2 = (b.exec op).2 := by
  obtain ⟨H, h⟩ := h
  cases op with
  | anchor E => exact ⟨⟨E, h.anchor (h.unstarted hop) E⟩, rfl⟩
  | insert E data =>
      obtain ⟨hR, heq⟩ := h.insert data hop
      exact ⟨hR, congrArg ReorderAnswer.inserted heq⟩
  | pop outCap =>
      obtain ⟨hR, heq⟩ := h.pop hop
      exact ⟨⟨H, hR⟩, congrArg ReorderAnswer.popped heq⟩

/-- **The 16-bit reorder buffer is transparent to wraparound.** For every window `2 ^ k` up to
`2 ^ 15`, every hold value, any initial slot contents and every admitted run from
`rtp_reorder_init`, the code returns exactly what the ideal buffer over unbounded integers
returns. -/
theorem rtpReorder_refines_ideal (slots : ℕ → RtpReorderSlot) (k : ℕ) (hk : k ≤ 15)
    (hold : BitVec 16) (ops : List ReorderOp)
    (hops : Admitted IdealReorder.exec IdealReorder.Admits
      (IdealReorder.init (2 ^ k) hold.toNat) ops) :
    (runOps RtpReorder.exec (rtpReorderInit slots (BitVec.ofNat 16 (2 ^ k)) hold) ops).2
      = (runOps IdealReorder.exec (IdealReorder.init (2 ^ k) hold.toNat) ops).2 := by
  have hw : (BitVec.ofNat 16 (2 ^ k)).toNat = 2 ^ k := by
    rw [BitVec.toNat_ofNat, Nat.mod_eq_of_lt (Nat.pow_lt_pow_right (by norm_num) (by omega))]
  have hstep : ∀ rb b op, (∃ H, Refines rb b H) → b.Admits op →
      (∃ H, Refines (rb.exec op).1 (b.exec op).1 H) ∧ (rb.exec op).2 = (b.exec op).2 :=
    fun _ _ _ hR hop => Refines.exec hR hop
  exact (runOps_simulation hstep ⟨0, Refines.init slots hk hw hold⟩ hops).2

/-- A run across the wrap: the packet `65536` arrives before the two packets in front of it. -/
theorem rtpReorder_refines_ideal_across_wrap :
    (runOps RtpReorder.exec (rtpReorderInit (fun _ => ⟨false, 0, 0, []⟩) (BitVec.ofNat 16 (2 ^ 3)) 2)
        [.anchor 65534, .insert 65536 [7], .pop 1536]).2
      = (runOps IdealReorder.exec (IdealReorder.init (2 ^ 3) (2 : BitVec 16).toNat)
          [.anchor 65534, .insert 65536 [7], .pop 1536]).2 :=
  rtpReorder_refines_ideal _ 3 (by norm_num) 2 _
    ⟨rfl, fun _ => by constructor <;> simp [IdealReorder.exec, IdealReorder.anchor], le_rfl,
      trivial⟩

end ConduitStream
