import ConduitStream.Reorder.Refinement

/-! # Gap reports are exact

`rtp_reorder_gap` scans the slots from the play cursor on for the first one that holds its number.
Under the simulation relation the scan walks over true numbers (`Refines.gapScan`), and since the
number just below the write head is held, it always ends at a held one: the report names exactly the
numbers missing in front of the first packet buffered (`Refines.gap_eq_some`), and there is one
exactly when the next pop would wait or conceal (`Refines.pop_gap_iff`).

Runs are those of `rtp_reorder_insert` and `rtp_reorder_pop` with any room for the payload: how much
of it a pop copies out does not concern the buffer. -/

namespace ConduitStream

/-! ## Runs of calls -/

/-- The calls a run may make, whatever room a pop has: the anchor comes before anything has started
the buffer, an inserted number lies within half the circle of the play cursor. -/
def IdealReorder.AdmitsCall (b : IdealReorder) : ReorderOp → Prop
  | .anchor _ => b.started = false
  | .insert E _ => b.started = true → b.cursor - 32768 ≤ E ∧ E ≤ b.cursor + 32767
  | .pop _ => True

/-- How much room a pop has decides neither what becomes of the buffer nor the kind of answer. -/
theorem rtpReorderPop_room (rb : RtpReorder) (cap cap' : ℕ) :
    (rtpReorderPop rb cap).1 = (rtpReorderPop rb cap').1 ∧
      ((rtpReorderPop rb cap).2 = .wait ↔ (rtpReorderPop rb cap').2 = .wait) ∧
      ((rtpReorderPop rb cap).2 = .conceal ↔ (rtpReorderPop rb cap').2 = .conceal) := by
  unfold rtpReorderPop
  dsimp only
  split_ifs <;> simp

/-- One admitted call keeps the simulation relation. -/
theorem Refines.exec_call {rb : RtpReorder} {b : IdealReorder} (h : ∃ H, Refines rb b H)
    {op : ReorderOp} (hop : b.AdmitsCall op) : ∃ H, Refines (rb.exec op).1 (b.exec op).1 H := by
  cases op with
  | anchor E => exact (Refines.exec h (show b.Admits (.anchor E) from hop)).1
  | insert E data => exact (Refines.exec h (show b.Admits (.insert E data) from hop)).1
  | pop outCap =>
      have hroom := (rtpReorderPop_room rb outCap rtpReorderMaxPkt).1
      have hfull := (Refines.exec h (show b.Admits (.pop rtpReorderMaxPkt) from le_rfl)).1
      rw [RtpReorder.exec, hroom]
      exact hfull

/-- **Run lemma**: after every admitted run the buffer represents the ideal one. -/
theorem Refines.run {rb : RtpReorder} {b : IdealReorder} (h : ∃ H, Refines rb b H)
    {ops : List ReorderOp} (hops : Admitted IdealReorder.exec IdealReorder.AdmitsCall b ops) :
    ∃ H, Refines (runOps RtpReorder.exec rb ops).1 (runOps IdealReorder.exec b ops).1 H := by
  refine runOps_related (R := fun rb b => ∃ H, Refines rb b H) ?_ h hops
  intro rb b op hR hop
  exact Refines.exec_call hR hop

/-- A freshly initialised buffer with a power-of-two window represents the empty ideal buffer. -/
theorem Refines.init_pow (slots : ℕ → RtpReorderSlot) {k : ℕ} (hk : k ≤ 15) (hold : BitVec 16) :
    Refines (rtpReorderInit slots (BitVec.ofNat 16 (2 ^ k)) hold)
      (IdealReorder.init (2 ^ k) hold.toNat) 0 := by
  refine Refines.init slots hk ?_ hold
  rw [BitVec.toNat_ofNat, Nat.mod_eq_of_lt (Nat.pow_lt_pow_right (by norm_num) (by omega))]

namespace IdealReorder

/-- No call changes window or hold. -/
theorem exec_params (b : IdealReorder) (op : ReorderOp) :
    (b.exec op).1.window = b.window ∧ (b.exec op).1.hold = b.hold := by
  cases op with
  | anchor E => exact ⟨rfl, rfl⟩
  | insert E data => exact ⟨b.insert_window E data, b.insert_hold E data⟩
  | pop outCap =>
      show b.pop.1.window = b.window ∧ b.pop.1.hold = b.hold
      unfold pop
      split
      · exact ⟨rfl, rfl⟩
      · split
        · exact ⟨rfl, rfl⟩
        · split <;> exact ⟨rfl, rfl⟩

/-- A run changes neither window nor hold. -/
theorem run_params (b : IdealReorder) (ops : List ReorderOp) :
    (runOps exec b ops).1.window = b.window ∧ (runOps exec b ops).1.hold = b.hold :=
  runOps_invariant (I := fun b' => b'.window = b.window ∧ b'.hold = b.hold)
    (fun b' op hI _ => ⟨(b'.exec_params op).1.trans hI.1, (b'.exec_params op).2.trans hI.2⟩)
    ⟨rfl, rfl⟩ (admitted_of_forall (fun _ _ => (trivial : True)) b ops)

/-- Once the buffer is started, a call never moves the cursor back. -/
theorem exec_cursor_le {b : IdealReorder} (hs : b.started = true) {op : ReorderOp}
    (hop : b.AdmitsCall op) : (b.exec op).1.started = true ∧ b.cursor ≤ (b.exec op).1.cursor := by
  cases op with
  | anchor E => exact absurd (hs.symm.trans hop) (by decide)
  | insert E data =>
      show (b.insert E data).1.started = true ∧ b.cursor ≤ (b.insert E data).1.cursor
      unfold insert
      dsimp only
      rw [if_pos hs]
      split_ifs <;> exact ⟨hs, le_rfl⟩
  | pop outCap =>
      show b.pop.1.started = true ∧ b.cursor ≤ b.pop.1.cursor
      unfold pop
      split
      · exact ⟨hs, le_rfl⟩
      · split
        · exact ⟨hs, by dsimp only; omega⟩
        · split
          · exact ⟨hs, by dsimp only; omega⟩
          · exact ⟨hs, le_rfl⟩

/-- A run of a started buffer never moves the cursor back. -/
theorem run_cursor_le {b : IdealReorder} (hs : b.started = true) {ops : List ReorderOp}
    (hops : Admitted exec AdmitsCall b ops) :
    (runOps exec b ops).1.started = true ∧ b.cursor ≤ (runOps exec b ops).1.cursor :=
  runOps_invariant (I := fun b' => b'.started = true ∧ b.cursor ≤ b'.cursor)
    (fun _ _ hI hop => ⟨(exec_cursor_le hI.1 hop).1, hI.2.trans (exec_cursor_le hI.1 hop).2⟩)
    ⟨hs, le_rfl⟩ hops

/-- The true number `E` is popped in the course of the run `ops` from `b`. -/
def PoppedIn (b : IdealReorder) (ops : List ReorderOp) (E : ℤ) : Prop :=
  ∃ pre outCap post p s, ops = pre ++ .pop outCap :: post ∧
    (runOps exec b pre).1.pop.2 = .ok p s ∧ (runOps exec b pre).1.cursor = E

end IdealReorder

/-- What has been popped lies before the cursor. -/
theorem Refines.popped_lt_cursor {rb : RtpReorder} {b : IdealReorder} (h : ∃ H, Refines rb b H)
    {ops : List ReorderOp} (hops : Admitted IdealReorder.exec IdealReorder.AdmitsCall b ops) {E : ℤ}
    (hE : b.PoppedIn ops E) : E < (runOps IdealReorder.exec b ops).1.cursor := by
  obtain ⟨pre, outCap, post, p, s, rfl, hpop, rfl⟩ := hE
  obtain ⟨hpre, -, hpost⟩ := admitted_append.mp hops
  obtain ⟨H, hR⟩ := Refines.run h hpre
  rw [runOps_append]
  generalize (runOps IdealReorder.exec b pre).1 = b₁ at *
  -- a buffer that has something to pop is started
  have hs : b₁.started = true := by
    by_contra hns
    have hempty := hR.unstarted (by simpa using hns)
    rw [IdealReorder.pop_empty hempty] at hpop
    cases hpop
  have hnext : b₁.pop.1.started = true ∧ b₁.pop.1.cursor = b₁.cursor + 1 := by
    unfold IdealReorder.pop at hpop ⊢
    split at hpop
    · cases hpop
    · next he =>
        rw [if_neg he]
        split at hpop
        · exact ⟨hs, rfl⟩
        · split at hpop <;> cases hpop
  have hle := (IdealReorder.run_cursor_le hnext.1 hpost).2
  have hcur : b₁.cursor < b₁.pop.1.cursor := by rw [hnext.2]; omega
  exact lt_of_lt_of_le hcur hle

/-! ## The scan and the report -/

/-- The slot of the cursor holds the packet that is due. -/
def RtpReorder.FrontPresent (rb : RtpReorder) : Prop :=
  (rb.slots (rb.slotIdx rb.next)).valid = true ∧ (rb.slots (rb.slotIdx rb.next)).seq = rb.next

namespace Refines

variable {rb : RtpReorder} {b : IdealReorder} {H : ℤ}

/-- **The scan of `rtp_reorder_gap`** over true numbers: with `m` numbers missing already, `n` more
rounds pass over `d` further missing numbers and stop at a held one if there are rounds left. -/
theorem gapScan (h : Refines rb b H) (hs : b.started = true) {n m : ℕ} (hm : m + n ≤ b.window) :
    ∃ d ≤ n, rtpReorderGapScan rb n (BitVec.ofNat 16 m) = BitVec.ofNat 16 (m + d) ∧
      (∀ i < d, b.held (b.cursor + (m + i : ℕ)) = none) ∧
      (d < n → b.held (b.cursor + (m + d : ℕ)) ≠ none) := by
  induction n generalizing m with
  | zero =>
      exact ⟨0, le_rfl, rfl, fun i hi => absurd hi (Nat.not_lt_zero i), fun h0 => absurd h0 (by omega)⟩
  | succ n ih =>
      have hseq : rb.next + BitVec.ofNat 16 m = serial 16 (b.cursor + m) := by
        rw [h.next hs, serial_add_ofNat]
      have hcell := h.held_iff (E := b.cursor + m) (by omega) (by omega)
      rw [rtpReorderGapScan, hseq, h.slotIdx_serial]
      by_cases hheld : b.held (b.cursor + m) = none
      · -- one more number is missing
        rw [if_neg fun hc => hcell.mp hc hheld]
        have hsucc : BitVec.ofNat 16 m + 1 = BitVec.ofNat 16 (m + 1) := (BitVec.ofNat_add m 1).symm
        obtain ⟨d, hd, hscan, hmiss, hstop⟩ := ih (m := m + 1) (by omega)
        refine ⟨d + 1, by omega, ?_, fun i hi => ?_, fun hlt => ?_⟩
        · rw [hsucc, hscan, Nat.add_right_comm, Nat.add_assoc]
        · cases i with
          | zero => exact hheld
          | succ i =>
              have := hmiss i (by omega)
              rwa [Nat.add_right_comm, Nat.add_assoc] at this
        · have := hstop (by omega)
          rwa [Nat.add_right_comm, Nat.add_assoc] at this
      · -- the first number held ends the run
        rw [if_pos (hcell.mpr hheld)]
        exact ⟨0, by omega, rfl, fun i hi => absurd hi (Nat.not_lt_zero i), fun _ => hheld⟩

/-- A buffer that holds something is started. -/
theorem started_of_not_isEmpty (h : Refines rb b H) (he : ¬b.IsEmpty) : b.started = true := by
  by_contra hns
  exact he (h.unstarted (by simpa using hns))

/-- The two tests in front of `rtp_reorder_pop` and `rtp_reorder_gap`, on the ideal buffer. -/
theorem idle_iff (h : Refines rb b H) : (rb.started = false ∨ rb.count = 0) ↔ b.IsEmpty := by
  rw [h.started, h.count_eq_zero_iff]
  exact or_iff_right_of_imp h.unstarted

/-- The test for the front packet, on the ideal buffer. -/
theorem front_iff (h : Refines rb b H) (hs : b.started = true) :
    rb.FrontPresent ↔ b.held b.cursor ≠ none := by
  unfold RtpReorder.FrontPresent
  rw [h.next hs, h.slotIdx_serial]
  exact h.held_iff le_rfl (by have := h.window_pos; omega)

/-- Without a gap in front there is no report. -/
theorem gap_eq_none (h : Refines rb b H) (hno : b.IsEmpty ∨ b.held b.cursor ≠ none) :
    rtpReorderGap rb = none := by
  unfold rtpReorderGap
  rcases em b.IsEmpty with he | he
  · rw [if_pos (h.idle_iff.mpr he)]
  · rw [if_neg fun hc => he (h.idle_iff.mp hc)]
    exact if_pos ((h.front_iff (h.started_of_not_isEmpty he)).mpr (hno.resolve_left he))

/-- **The report over a gap**: it starts at the cursor and covers the missing numbers up to the first
one held. -/
theorem gap_eq_some (h : Refines rb b H) (he : ¬b.IsEmpty) (hc : b.held b.cursor = none) :
    ∃ d, 1 ≤ d ∧ d < b.window ∧
      rtpReorderGap rb = some (serial 16 b.cursor, BitVec.ofNat 16 d) ∧
      (∀ i < d, b.held (b.cursor + i) = none) ∧ b.held (b.cursor + d) ≠ none := by
  have hs := h.started_of_not_isEmpty he
  have hW := h.window_le
  have hlow := h.top.cursor_add_one_lt_of_gap he hc
  have hhigh := h.top.le_window
  -- the span of the scan is the distance to the write head
  obtain ⟨n, hn⟩ : ∃ n : ℕ, H = b.cursor + n := ⟨(H - b.cursor).toNat, by omega⟩
  have hspan : min (seqDiff rb.head rb.next).toNat rb.window.toNat = n := by
    rw [seqDiff, h.head hs, h.next hs, h.window, toNat_serial_sub (by omega) (by norm_num; omega)]
    omega
  obtain ⟨d, hd, hscan, hmiss, hstop⟩ := h.gapScan hs (n := n) (m := 0) (by omega)
  simp only [Nat.zero_add] at hscan hmiss hstop
  have hpos : 1 ≤ d := by
    by_contra hz
    obtain rfl : d = 0 := by omega
    exact hstop (by omega) (by simpa using hc)
  -- the number below the write head is held, so the scan ends before it
  have hlt : d < n := by
    by_contra hge
    have hlast := h.top.last (by omega)
    rw [show H - 1 = b.cursor + (n - 1 : ℕ) by omega] at hlast
    exact hlast (hmiss (n - 1) (by omega))
  refine ⟨d, hpos, by omega, ?_, hmiss, hstop hlt⟩
  have hne : BitVec.ofNat 16 d ≠ 0 := by
    intro hz
    have := congrArg BitVec.toNat hz
    rw [BitVec.toNat_ofNat, Nat.mod_eq_of_lt (by omega)] at this
    exact absurd this (by simp; omega)
  have hfront := mt (h.front_iff hs).mp (not_not.mpr hc)
  unfold RtpReorder.FrontPresent at hfront
  unfold rtpReorderGap
  rw [if_neg fun hc => he (h.idle_iff.mp hc)]
  dsimp only
  rw [if_neg hfront, hspan]
  show (if rtpReorderGapScan rb n (BitVec.ofNat 16 0) = 0 then none
    else some (rb.next, rtpReorderGapScan rb n (BitVec.ofNat 16 0))) = _
  rw [hscan, if_neg hne, h.next hs]

/-- The code's pop finds a gap exactly when the ideal buffer has one. -/
theorem pop_gap_iff (h : Refines rb b H) (outCap : ℕ) :
    ((rtpReorderPop rb outCap).2 = .wait ∨ (rtpReorderPop rb outCap).2 = .conceal) ↔
      ¬b.IsEmpty ∧ b.held b.cursor = none := by
  obtain ⟨-, hwait, hconceal⟩ := rtpReorderPop_room rb outCap rtpReorderMaxPkt
  rw [hwait, hconceal, (h.pop le_rfl).2]
  by_cases he : b.IsEmpty
  · rw [IdealReorder.pop_empty he]
    exact iff_of_false (by simp) fun hc => hc.1 he
  · cases hc : b.held b.cursor with
    | some p =>
        rw [IdealReorder.pop_ok hc]
        exact iff_of_false (by simp) fun hc => by cases hc.2
    | none =>
        refine iff_of_true ?_ ⟨he, rfl⟩
        by_cases ho : b.Overdue
        · rw [IdealReorder.pop_conceal he hc ho]
          exact .inr rfl
        · rw [IdealReorder.pop_wait he hc ho]
          exact .inl rfl

end Refines

/-- **Gap reports are exact.** For every window `2 ^ k` up to 32768, every hold value and every
run of anchor, insert and pop calls, `rtp_reorder_gap` answers true exactly when the next pop would
answer WAIT or CONCEAL. When it does, it reports the play cursor and a count from 1 to the window
less one; none of the true numbers `cursor, …, cursor + count - 1` is held or has been popped, and
`cursor + count` is held. -/
theorem rtpReorderGap_exact (slots : ℕ → RtpReorderSlot) (k : ℕ) (hk : k ≤ 15)
    (hold : BitVec 16) (ops : List ReorderOp)
    (hops : Admitted IdealReorder.exec IdealReorder.AdmitsCall
      (IdealReorder.init (2 ^ k) hold.toNat) ops) (outCap : ℕ)
    (rb : RtpReorder) (b : IdealReorder)
    (hrb : rb = (runOps RtpReorder.exec
      (rtpReorderInit slots (BitVec.ofNat 16 (2 ^ k)) hold) ops).1)
    (hb : b = (runOps IdealReorder.exec (IdealReorder.init (2 ^ k) hold.toNat) ops).1) :
    ((rtpReorderGap rb).isSome ↔
        (rtpReorderPop rb outCap).2 = .wait ∨ (rtpReorderPop rb outCap).2 = .conceal) ∧
      ∀ first count, rtpReorderGap rb = some (first, count) →
        first = rb.next ∧ first = serial 16 b.cursor ∧ 1 ≤ count.toNat ∧ count.toNat ≤ 2 ^ k - 1 ∧
        (∀ i < count.toNat, b.held (b.cursor + i) = none ∧
          ¬(IdealReorder.init (2 ^ k) hold.toNat).PoppedIn ops (b.cursor + i)) ∧
        b.held (b.cursor + count.toNat) ≠ none := by
  have hinit : ∃ H, Refines (rtpReorderInit slots (BitVec.ofNat 16 (2 ^ k)) hold)
      (IdealReorder.init (2 ^ k) hold.toNat) H := ⟨0, Refines.init_pow slots hk hold⟩
  obtain ⟨H, h⟩ := Refines.run hinit hops
  have hwin : b.window = 2 ^ k := by
    rw [hb]
    exact ((IdealReorder.init (2 ^ k) hold.toNat).run_params ops).1
  rw [← hrb, ← hb] at h
  rw [h.pop_gap_iff]
  -- a gap is open when something is held but not the packet due
  by_cases hgap : ¬b.IsEmpty ∧ b.held b.cursor = none
  · obtain ⟨d, hpos, hlt, hreport, hmiss, hheld⟩ := h.gap_eq_some hgap.1 hgap.2
    have hW := h.window_le
    refine ⟨iff_of_true (by rw [hreport]; rfl) hgap, fun first count hsome => ?_⟩
    rw [hreport, Option.some.injEq, Prod.mk.injEq] at hsome
    obtain ⟨rfl, rfl⟩ := hsome
    -- the count is below the window, so 16 bits hold it
    have hd : (BitVec.ofNat 16 d).toNat = d := by
      rw [BitVec.toNat_ofNat, Nat.mod_eq_of_lt (by omega)]
    rw [hd]
    refine ⟨(h.next (h.started_of_not_isEmpty hgap.1)).symm, rfl, hpos, by omega, fun i hi => ?_,
      hheld⟩
    refine ⟨hmiss i hi, fun hpopped => ?_⟩
    have := Refines.popped_lt_cursor hinit hops hpopped
    rw [← hb] at this
    omega
  · have hnone : rtpReorderGap rb = none := h.gap_eq_none (by tauto)
    rw [hnone]
    exact ⟨iff_of_false (by decide) hgap, fun _ _ hsome => by cases hsome⟩

/-- Packet `65537` arrives while `65534` is due. -/
def sampleGapRun : List ReorderOp := [.anchor 65534, .insert 65537 [7], .pop 0]

/-- Across the wrap, three numbers are reported missing, and the fourth is held. -/
theorem rtpReorderGap_exact_across_wrap :
    rtpReorderGap (runOps RtpReorder.exec
        (rtpReorderInit (fun _ => ⟨false, 0, 0, []⟩) (BitVec.ofNat 16 (2 ^ 3)) 4)
        sampleGapRun).1 = some (65534, 3) ∧
      (runOps IdealReorder.exec (IdealReorder.init (2 ^ 3) 4) sampleGapRun).1.held
          ((runOps IdealReorder.exec (IdealReorder.init (2 ^ 3) 4) sampleGapRun).1.cursor
            + (3 : BitVec 16).toNat) ≠ none := by
  have hreport : rtpReorderGap (runOps RtpReorder.exec
      (rtpReorderInit (fun _ => ⟨false, 0, 0, []⟩) (BitVec.ofNat 16 (2 ^ 3)) 4)
      sampleGapRun).1 = some (65534, 3) := by decide
  exact ⟨hreport, ((rtpReorderGap_exact _ 3 (by norm_num) 4 sampleGapRun
    ⟨rfl, fun _ => by constructor <;> simp [IdealReorder.exec, IdealReorder.anchor], trivial,
      trivial⟩ 0 _ _ rfl rfl).2 _ _ hreport).2.2.2.2.2⟩

end ConduitStream
