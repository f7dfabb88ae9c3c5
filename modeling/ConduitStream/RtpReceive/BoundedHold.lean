import Mathlib.Data.Int.Interval
import ConduitStream.Reorder.Gap
import ConduitStream.RtpReceive.Drain

/-! # Gaps are held for a bounded time

However the reorder buffer has been filled, the loop of `drain_decode` ends after at most as many
pops as the write head is ahead of the cursor, and one more (`drainRounds_eq_some`). When it stops,
every packet ever accepted lies less than the hold beyond the cursor: if the front is missing, fewer
than `hold` packets are buffered behind it, and none of them at distance `hold` or more.

A drain of the ideal buffer is a run of pops (`IdealReorder.Drains.eq_run`), so what holds of every
run of calls holds of what a drain leaves. -/

namespace ConduitStream

/-! ## The rounds of the loop -/

/-- At most `n` rounds of the loop of `drain_decode`; `none` if it has not ended by then. -/
def drainRounds : ℕ → RtpReorder → Option (RtpReorder × List DrainAction)
  | 0, _ => none
  | n + 1, rb =>
      match rtpReorderPop rb rtpReorderMaxPkt with
      | (rb', .ok out seq) => (drainRounds n rb').map fun d => (d.1, .decode seq out :: d.2)
      | (rb', .conceal) => (drainRounds n rb').map fun d => (d.1, .conceal :: d.2)
      | (rb', _) => some (rb', [])

/-- The loop ends one round after its last call, with what `drainDecode` says. -/
theorem drainRounds_eq_some {rb : RtpReorder} {n : ℕ} (hn : (drainDecode rb).2.length < n) :
    drainRounds n rb = some (drainDecode rb) := by
  induction rb using drainDecode.induct generalizing n with
  -- a round that delivers uses up one of the `n`, and leaves enough for the calls after it
  | case1 rb rb' out seq hp ih =>
      rw [drainDecode_ok hp] at hn ⊢
      obtain ⟨n, rfl⟩ := Nat.exists_eq_succ_of_ne_zero (Nat.ne_zero_of_lt hn)
      rw [drainRounds, hp]
      dsimp only
      rw [ih (Nat.lt_of_succ_lt_succ hn)]
      rfl
  | case2 rb rb' hp ih =>
      rw [drainDecode_conceal hp] at hn ⊢
      obtain ⟨n, rfl⟩ := Nat.exists_eq_succ_of_ne_zero (Nat.ne_zero_of_lt hn)
      rw [drainRounds, hp]
      dsimp only
      rw [ih (Nat.lt_of_succ_lt_succ hn)]
      rfl
  | case3 rb rb' hp =>
      obtain ⟨n, rfl⟩ := Nat.exists_eq_succ_of_ne_zero (Nat.ne_zero_of_lt hn)
      rw [drainDecode_stop (.inl hp), drainRounds, hp]
  | case4 rb rb' hp =>
      obtain ⟨n, rfl⟩ := Nat.exists_eq_succ_of_ne_zero (Nat.ne_zero_of_lt hn)
      rw [drainDecode_stop (.inr hp), drainRounds, hp]

/-! ## Accepted packets -/

namespace IdealReorder

variable {b b' : IdealReorder} {acts : List DrainAction} {E : ℤ}

/-- Every round of a drain is a pop. -/
theorem Drains.eq_run (h : b.Drains acts b') :
    b' = (runOps exec b (List.replicate acts.length (.pop 0))).1 := by
  induction h with
  | stop _ => rfl
  | decode _ _ ih => exact ih
  | conceal _ _ ih => exact ih

/-- Every round of a drain moves the cursor by one. -/
theorem Drains.cursor (h : b.Drains acts b') : b'.cursor = b.cursor + acts.length := by
  induction h with
  | stop _ => exact (Int.add_zero _).symm
  | @decode b b' acts p s hp _ ih =>
      rcases b.pop_cases with ⟨-, hq⟩ | ⟨q, -, hq⟩ | ⟨-, -, -, hq⟩ | ⟨-, -, -, hq⟩
      · simp [hq] at hp
      · rw [ih, hq, List.length_cons]
        push_cast
        omega
      · simp [hq] at hp
      · simp [hq] at hp
  | @conceal b b' acts hp _ ih =>
      rcases b.pop_cases with ⟨-, hq⟩ | ⟨q, -, hq⟩ | ⟨-, -, -, hq⟩ | ⟨-, -, -, hq⟩
      · simp [hq] at hp
      · simp [hq] at hp
      · rw [ih, hq, List.length_cons]
        push_cast
        omega
      · simp [hq] at hp

/-- Pops are admitted in every state. -/
theorem admitted_pops (b : IdealReorder) (n : ℕ) :
    Admitted exec AdmitsCall b (List.replicate n (.pop 0)) := by
  induction n generalizing b with
  | zero => trivial
  | succ n ih => exact ⟨trivial, ih _⟩

/-- The packet of the true number `E` is accepted in the course of the run `ops` from `b`. -/
def AcceptedIn (b : IdealReorder) (ops : List ReorderOp) (E : ℤ) : Prop :=
  ∃ pre data post, ops = pre ++ .insert E data :: post ∧
    ((runOps exec b pre).1.insert E data).2 = .stored

/-- The number `E` has been played or is held. -/
def Settles (E : ℤ) (b : IdealReorder) : Prop :=
  b.started = true ∧ (E < b.cursor ∨ b.held E ≠ none)

/-- A packet that is accepted is held. -/
theorem settles_of_stored {data : Bytes} (h : (b.insert E data).2 = .stored) :
    Settles E (b.insert E data).1 := by
  by_cases hlen : data.length = 0 ∨ rtpReorderMaxPkt < data.length
  · rw [b.insert_badlen E hlen] at h
    cases h
  -- an insert into a fresh buffer is one into the buffer it anchors
  have hstarted : ∀ b : IdealReorder, b.started = true → (b.insert E data).2 = .stored →
      Settles E (b.insert E data).1 := by
    intro b hs h
    unfold insert at h ⊢
    rw [if_neg hlen, if_pos hs] at h ⊢
    dsimp only at h ⊢
    split_ifs at h ⊢
    refine ⟨hs, .inr ?_⟩
    show Function.update b.held E (some data) E ≠ none
    rw [Function.update_self]
    exact Option.some_ne_none data
  cases hs : b.started with
  | true => exact hstarted b hs h
  | false =>
      rw [insert_of_not_started hs E hlen] at h ⊢
      exact hstarted (b.anchor E) rfl h

/-- **Step lemma**: no call loses a packet. -/
theorem Settles.exec (h : Settles E b) {op : ReorderOp} (hop : b.AdmitsCall op) :
    Settles E (b.exec op).1 := by
  obtain ⟨hs, hE⟩ := h
  obtain ⟨hs', hcur⟩ := exec_cursor_le hs hop
  refine ⟨hs', ?_⟩
  rcases hE with hlt | hheld
  · exact .inl (lt_of_lt_of_le hlt hcur)
  -- still held: only an insert at its own number or its own pop could touch it
  · cases op with
    | anchor E' => exact absurd (hs.symm.trans hop) (by decide)
    | insert E' data =>
        right
        show (b.insert E' data).1.held E ≠ none
        unfold insert
        dsimp only
        rw [if_pos hs]
        split_ifs with h1 h2 h3 h4
        · exact hheld
        · exact hheld
        · exact hheld
        · exact hheld
        · show Function.update b.held E' (some data) E ≠ none
          by_cases hEE : E = E'
          · rw [hEE, Function.update_self]
            exact Option.some_ne_none _
          · rwa [Function.update_of_ne hEE]
    | pop outCap =>
        show E < b.pop.1.cursor ∨ b.pop.1.held E ≠ none
        rcases b.pop_cases with ⟨-, hq⟩ | ⟨q, -, hq⟩ | ⟨-, -, -, hq⟩ | ⟨-, -, -, hq⟩
        · rw [hq]
          exact .inr hheld
        · rw [hq]
          by_cases hEc : E = b.cursor
          · exact .inl (by dsimp only; omega)
          · right
            show Function.update b.held b.cursor none E ≠ none
            rwa [Function.update_of_ne hEc]
        · rw [hq]
          exact .inr hheld
        · rw [hq]
          exact .inr hheld

/-- **Run lemma**: a number that is settled stays settled over the calls that follow. -/
theorem Settles.run (h : Settles E b) {ops : List ReorderOp}
    (hops : Admitted IdealReorder.exec AdmitsCall b ops) :
    Settles E (runOps IdealReorder.exec b ops).1 :=
  runOps_invariant (I := Settles E) (fun _ _ hI hop => Settles.exec hI hop) h hops

/-- A packet accepted in the course of a run has been played or is held at its end. -/
theorem AcceptedIn.settles {ops : List ReorderOp}
    (hops : Admitted IdealReorder.exec AdmitsCall b ops) (hE : b.AcceptedIn ops E) :
    Settles E (runOps IdealReorder.exec b ops).1 := by
  obtain ⟨pre, data, post, rfl, hstored⟩ := hE
  obtain ⟨-, -, hpost⟩ := admitted_append.mp hops
  rw [runOps_append]
  exact (settles_of_stored hstored).run hpost

end IdealReorder

/-! ## How many packets are buffered -/

/-- Behind a missing front at most the numbers strictly between the cursor and the write head are
buffered. -/
theorem Refines.count_lt_of_gap {rb : RtpReorder} {b : IdealReorder} {H : ℤ} (h : Refines rb b H)
    (hc : b.held b.cursor = none) (hH : b.cursor < H) : (rb.count.toNat : ℤ) < H - b.cursor := by
  have hsub : ((Finset.range b.window).filter fun i => (rb.slots i).valid = true) ⊆
      (Finset.Ioo b.cursor H).image (slotOf b.window) := by
    intro i hi
    obtain ⟨hlt, hvalid⟩ := Finset.mem_filter.mp hi
    obtain ⟨E, h0, h1, rfl⟩ := exists_slotOf_eq b.cursor (Finset.mem_range.mp hlt)
    have hslot := h.slot E h0 h1
    cases hE : b.held E with
    | none =>
        rw [hE] at hslot
        rw [show (rb.slots (slotOf b.window E)).valid = false from hslot] at hvalid
        cases hvalid
    | some p =>
        have hne : b.held E ≠ none := by rw [hE]; exact Option.some_ne_none p
        have hEc : E ≠ b.cursor := fun hEc => hne (hEc ▸ hc)
        have hbound := h.top.bounds E hne
        exact Finset.mem_image_of_mem _ (Finset.mem_Ioo.mpr ⟨by omega, hbound.2⟩)
  have hcard := (Finset.card_le_card hsub).trans Finset.card_image_le
  rw [Int.card_Ioo] at hcard
  have hcount : rb.count.toNat ≤ (H - b.cursor - 1).toNat := by rw [h.count]; exact hcard
  omega

/-! ## A buffer that is not started -/

/-- Only a refused insert leaves a buffer unstarted, and it leaves it as it is. -/
theorem rtpReorderInsert_of_started_eq_false {rb : RtpReorder} {seq : BitVec 16} {data : Bytes}
    (h : (rtpReorderInsert rb seq data).1.started = false) : (rtpReorderInsert rb seq data).1 = rb := by
  by_cases hlen : data.length = 0 ∨ rtpReorderMaxPkt < data.length
  · rw [rtpReorderInsert_badlen rb seq hlen]
  have hstarted : ∀ rb : RtpReorder, rb.started = true →
      (rtpReorderInsert rb seq data).1.started = true := by
    intro rb hs
    unfold rtpReorderInsert
    rw [if_neg hlen, if_pos hs]
    dsimp only
    split_ifs <;> exact hs
  cases hs : rb.started with
  | true => rw [hstarted rb hs] at h; cases h
  | false =>
      rw [rtpReorderInsert_of_not_started hs seq hlen, hstarted _ rfl] at h
      cases h

/-- Until the buffer is started, the write head stands at the cursor. -/
theorem head_eq_next_of_not_started (slots : ℕ → RtpReorderSlot) (window hold : BitVec 16)
    (ops : List ReorderOp) :
    (runOps RtpReorder.exec (rtpReorderInit slots window hold) ops).1.started = false →
      (runOps RtpReorder.exec (rtpReorderInit slots window hold) ops).1.head
        = (runOps RtpReorder.exec (rtpReorderInit slots window hold) ops).1.next := by
  refine runOps_invariant (I := fun rb : RtpReorder => rb.started = false → rb.head = rb.next) ?_
    (fun _ => rfl)
    (admitted_of_forall (fun _ _ => (trivial : True)) _ ops)
  rintro rb op hI -
  cases op with
  | anchor E => exact nofun
  -- an insert that leaves the buffer unstarted changes nothing, and a pop finds it empty
  | insert E data =>
      show (rtpReorderInsert rb (serial 16 E) data).1.started = false → _ = _
      intro hs
      have hsame := rtpReorderInsert_of_started_eq_false hs
      rw [hsame] at hs
      show (rtpReorderInsert rb (serial 16 E) data).1.head
        = (rtpReorderInsert rb (serial 16 E) data).1.next
      rw [hsame]
      exact hI hs
  | pop outCap =>
      show (rtpReorderPop rb outCap).1.started = false →
        (rtpReorderPop rb outCap).1.head = (rtpReorderPop rb outCap).1.next
      intro hs
      have hstarted : (rtpReorderPop rb outCap).1.started = rb.started := by
        unfold rtpReorderPop
        dsimp only
        split_ifs <;> rfl
      rw [hstarted] at hs
      rw [rtpReorderPop_empty (.inl hs)]
      exact hI hs

/-! ## The hold is a bound -/

/-- **What a drain leaves**, on the code's buffer: it has made as many calls as the cursor has moved,
at most the distance to the write head, and stops with nothing buffered or with fewer than `hold`
packets behind a missing front. -/
theorem Refines.drain_bounds {rb rb' : RtpReorder} {b : IdealReorder} {H : ℤ} (h : Refines rb b H)
    (hs : b.started = true) {acts : List DrainAction} (hdrain : drainDecode rb = (rb', acts)) :
    acts.length ≤ (seqDiff rb.head rb.next).toNat ∧
      ((rb'.count = 0 ∧ rb'.head = rb'.next) ∨
        (¬rb'.FrontPresent ∧ (seqDiff rb'.head rb'.next).toNat ≤ b.hold ∧
          rb'.count.toNat < b.hold)) ∧
      rb'.next = rb.next + BitVec.ofNat 16 acts.length ∧
      ∀ E, IdealReorder.Settles E b → E < b.cursor + acts.length + b.hold := by
  obtain ⟨b', h', hd⟩ := h.drain
  rw [hdrain] at h' hd
  dsimp only at h' hd
  obtain ⟨-, -, hhold, hstarted⟩ := IdealReorder.TopAt.drains hd h.top
  have hs' := hstarted.trans hs
  have hcur := hd.cursor
  have hW := h.window_le
  have hlow := h.top.le_window
  have hle := h'.top.cursor_le
  have hnext' := h'.next hs'
  have hdist : (seqDiff rb'.head rb'.next).toNat = (H - b'.cursor).toNat := by
    rw [seqDiff, h'.head hs', hnext', toNat_serial_sub (by omega) (by norm_num; omega)]
  refine ⟨?_, ?_, ?_, fun E hE => ?_⟩
  · rw [seqDiff, h.head hs, h.next hs, toNat_serial_sub (by omega) (by norm_num; omega)]
    omega
  · rw [h'.front_iff hs', not_not, hdist]
    by_cases hH : H = b'.cursor
    · refine .inl ⟨h'.count_eq_zero_iff.mpr (h'.top.isEmpty_iff.mpr hH), ?_⟩
      rw [h'.head hs', hnext', hH]
    · -- something is left, so the front is missing and within the hold
      obtain ⟨hc, hnear⟩ := (h'.top.settled_iff.mp hd.settled).resolve_left hH
      have hcount := h'.count_lt_of_gap hc (by omega)
      rw [hhold] at hnear
      exact .inr ⟨hc, by omega, by omega⟩
  · rw [hnext', h.next hs, hcur, serial_add_ofNat]
  · have hsettles : IdealReorder.Settles E b' := by
      rw [hd.eq_run]
      exact hE.run (b.admitted_pops _)
    rw [← hcur]
    rcases hsettles.2 with hlt | hheld
    · omega
    · have hbound := h'.top.bounds E hheld
      rcases h'.top.settled_iff.mp hd.settled with hH | ⟨-, hnear⟩
      · omega
      · rw [hhold] at hnear
        omega

/-- **Bounded hold.** For every window `2 ^ k` up to 32768, every hold value with the effective hold
`H`, every run of calls and every packet inserted then: the loop of `drain_decode` ends within as many
pops as the write head is ahead of the cursor, and one more; when it stops, either nothing is
buffered and the write head is at the cursor, or the front is missing, the write head is at most `H`
ahead and fewer than `H` packets are buffered. Every packet accepted so far has a true number less
than `H` beyond the cursor, which stands at `b.cursor` plus the number of calls made: a gap is held
at the front no longer once a packet at distance `H` or more beyond it has been accepted. -/
theorem drainDecode_bounded_hold (slots : ℕ → RtpReorderSlot) (k : ℕ) (hk : k ≤ 15)
    (hold : BitVec 16) (ops : List ReorderOp) (E : ℤ) (data : Bytes)
    (hops : Admitted IdealReorder.exec IdealReorder.AdmitsCall
      (IdealReorder.init (2 ^ k) hold.toNat) (ops ++ [.insert E data]))
    (rb rb' : RtpReorder) (acts : List DrainAction) (b : IdealReorder) (H : ℕ)
    (hrb : rb = (runOps RtpReorder.exec
      (rtpReorderInit slots (BitVec.ofNat 16 (2 ^ k)) hold) (ops ++ [.insert E data])).1)
    (hb : b = (runOps IdealReorder.exec
      (IdealReorder.init (2 ^ k) hold.toNat) (ops ++ [.insert E data])).1)
    (hH : H = IdealReorder.effectiveHold (2 ^ k) hold.toNat)
    (hdrain : drainDecode rb = (rb', acts)) :
    (∃ n ≤ (seqDiff rb.head rb.next).toNat + 1, drainRounds n rb = some (rb', acts)) ∧
      ((rb'.count = 0 ∧ rb'.head = rb'.next) ∨
        (¬rb'.FrontPresent ∧ (seqDiff rb'.head rb'.next).toNat ≤ H ∧ rb'.count.toNat < H)) ∧
      rb'.next = rb.next + BitVec.ofNat 16 acts.length ∧
      ∀ E', (IdealReorder.init (2 ^ k) hold.toNat).AcceptedIn (ops ++ [.insert E data]) E' →
        E' < b.cursor + acts.length + H := by
  obtain ⟨T, h⟩ := Refines.run ⟨0, Refines.init_pow slots hk hold⟩ hops
  have hhold : b.hold = H := by
    rw [hb, hH]
    exact ((IdealReorder.init (2 ^ k) hold.toNat).run_params _).2
  have hsettles : ∀ E', (IdealReorder.init (2 ^ k) hold.toNat).AcceptedIn (ops ++ [.insert E data]) E' →
      IdealReorder.Settles E' b := fun E' hE' => hb ▸ hE'.settles hops
  have hhead := head_eq_next_of_not_started slots (BitVec.ofNat 16 (2 ^ k)) hold
    (ops ++ [.insert E data])
  have hrounds : drainRounds (acts.length + 1) rb = some (rb', acts) := by
    rw [← hdrain]
    exact drainRounds_eq_some (by rw [hdrain]; exact Nat.lt_succ_self _)
  rw [← hrb] at h hhead
  rw [← hb] at h
  cases hs : b.started with
  | true =>
      obtain ⟨hlen, hstop, hnext, hnear⟩ := h.drain_bounds hs hdrain
      rw [hhold] at hstop hnear
      exact ⟨⟨_, Nat.succ_le_succ hlen, hrounds⟩, hstop, hnext,
        fun E' hE' => hnear E' (hsettles E' hE')⟩
  | false =>
      -- nothing has been accepted yet
      have hrs : rb.started = false := h.started.trans hs
      rw [drainDecode_stop (.inr (rtpReorderPop_empty (.inl hrs) _)), Prod.mk.injEq] at hdrain
      obtain ⟨rfl, rfl⟩ := hdrain
      refine ⟨⟨1, by omega, hrounds⟩, ?_, (BitVec.add_zero _).symm, fun E' hE' => ?_⟩
      · exact .inl ⟨h.count_eq_zero_iff.mpr (h.unstarted hs), hhead hrs⟩
      · exact absurd ((hsettles E' hE').1.symm.trans hs) (by decide)

/-- A hold of 2, anchored at packet 0, when packet 2 has arrived. -/
def overtakenByTwo : RtpReorder :=
  (runOps RtpReorder.exec (rtpReorderInit (fun _ => ⟨false, 0, 0, []⟩) (BitVec.ofNat 16 (2 ^ 3)) 2)
    ([.anchor 0] ++ [.insert 2 [7]])).1

/-- Packet 2 ends the wait for packet 0, and packet 1 is waited for. -/
theorem drainDecode_bounded_hold_sample :
    ∃ rb', drainDecode overtakenByTwo = (rb', [.conceal]) ∧ rb'.next = 1 ∧ ¬rb'.FrontPresent ∧
      (seqDiff rb'.head rb'.next).toNat ≤ 2 ∧ rb'.count.toNat < 2 := by
  have hconceal : rtpReorderPop overtakenByTwo rtpReorderMaxPkt
      = ({ overtakenByTwo with next := 1 }, .conceal) := rfl
  have hwait : rtpReorderPop { overtakenByTwo with next := 1 } rtpReorderMaxPkt
      = ({ overtakenByTwo with next := 1 }, .wait) := rfl
  have hdrain : drainDecode overtakenByTwo = ({ overtakenByTwo with next := 1 }, [.conceal]) := by
    rw [drainDecode_conceal hconceal, drainDecode_stop (.inl hwait)]
  obtain ⟨-, hstop, -, -⟩ := drainDecode_bounded_hold _ 3 (by norm_num) 2 [.anchor 0] 2 [7]
    ⟨rfl, fun _ => by constructor <;> simp [IdealReorder.exec, IdealReorder.anchor], trivial⟩
    overtakenByTwo _ _ _ _ rfl rfl rfl hdrain
  rcases hstop with ⟨hnone, -⟩ | hwaits
  · exact absurd hnone (by decide)
  · exact ⟨_, hdrain, rfl, hwaits⟩

end ConduitStream
