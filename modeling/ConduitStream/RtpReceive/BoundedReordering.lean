import ConduitStream.RtpReceive.Drain

/-! # Bounded reordering is lossless

A stream of `n` consecutively numbered packets arrives out of order and with repetitions, but no
packet arrives before all packets at least `hold` places before it. Then the write head never runs
past the hold of the play cursor, which is always the first packet that has not arrived; so nothing
is ever concealed, and the decoder gets the `n` payloads once each, in sequence order.

`Buffered` is the invariant of the ideal buffer between two arrivals; `Buffered.drain` is the step
lemma for draining, `BufferedAs.arrive` the one for a whole arrival, `BoundedArrivals.run` the run
lemma, and `boundedReordering_lossless` the result. -/

namespace ConduitStream

/-- The arrival order `arrivals` (packets are numbered from `0`) is admissible for a stream of `n`
packets and the given hold. -/
structure BoundedArrivals (n hold : ℕ) (arrivals : List ℕ) : Prop where
  /-- Packet `0` arrives first. -/
  first : ∀ j ∈ arrivals.head?, j = 0
  /-- Only packets of the stream arrive. -/
  lt : ∀ j ∈ arrivals, j < n
  /-- Every packet of the stream arrives. -/
  complete : ∀ j < n, j ∈ arrivals
  /-- A packet arrives only after all packets at least `hold` places before it. -/
  bounded : ∀ p j s, arrivals = p ++ j :: s → ∀ i, i + hold ≤ j → i ∈ p
  /-- No copy arrives once the play cursor (the first packet that has not arrived) is more than
  `32768` packets past it. -/
  recent : ∀ p j s, arrivals = p ++ j :: s → ∃ i ≤ j + 32768, i ∉ p

/-- Packet `j` of the stream arrives: insert its payload under its 16-bit number and drain. -/
def arrive (a : BitVec 16) (payload : ℕ → Bytes) (rb : RtpReorder) (j : ℕ) :
    RtpReorder × List DrainAction :=
  insertAndDrain rb (a + BitVec.ofNat 16 j) (some (payload j))

/-- The decoder is handed the first `c` packets in order. -/
def playedInOrder (a : BitVec 16) (payload : ℕ → Bytes) (c : ℕ) : List DrainAction :=
  (List.range c).map fun j => .decode (a + BitVec.ofNat 16 j) (payload j)

section Invariant

variable {A : ℤ} {payload : ℕ → Bytes} {hold : ℕ}

/-- After the packets `p` have arrived, with the cursor at packet `c`: everything before `c` has
arrived, nothing beyond the hold has, and exactly the arrived packets from `c` on are held. -/
structure Buffered (A : ℤ) (payload : ℕ → Bytes) (hold : ℕ) (b : IdealReorder) (p : List ℕ)
    (c : ℕ) : Prop where
  started : b.started = true
  hold_eq : b.hold = hold
  cursor : b.cursor = A + c
  prior : ∀ i < c, i ∈ p
  near : ∀ j ∈ p, j < c + hold
  held : ∀ E q, b.held E = some q ↔ ∃ j ∈ p, c ≤ j ∧ E = A + j ∧ q = payload j

/-- With the hold respected, nothing is overdue. -/
theorem Buffered.not_overdue {b : IdealReorder} {p : List ℕ} {c : ℕ}
    (h : Buffered A payload hold b p c) : ¬b.Overdue := by
  rintro ⟨E, hE, hlt⟩
  obtain ⟨q, hq⟩ := Option.ne_none_iff_exists'.mp hE
  obtain ⟨j, hj, -, rfl, -⟩ := (h.held E q).mp hq
  have := h.near j hj
  rw [h.cursor, h.hold_eq] at hlt
  omega

/-- The packet at the cursor is held exactly when it has arrived. -/
theorem Buffered.held_cursor {b : IdealReorder} {p : List ℕ} {c : ℕ}
    (h : Buffered A payload hold b p c) :
    (c ∈ p → b.held b.cursor = some (payload c)) ∧
      (∀ q, b.held b.cursor = some q → c ∈ p ∧ q = payload c) := by
  constructor
  · intro hc
    exact (h.held _ _).mpr ⟨c, hc, le_rfl, h.cursor, rfl⟩
  · intro q hq
    obtain ⟨j, hj, -, hE, rfl⟩ := (h.held _ _).mp hq
    have : j = c := by rw [h.cursor] at hE; omega
    subst this
    exact ⟨hj, rfl⟩

/-- Playing the packet at the cursor keeps the invariant. -/
theorem Buffered.play {b : IdealReorder} {p : List ℕ} {c : ℕ}
    (h : Buffered A payload hold b p c) (hc : c ∈ p) :
    Buffered A payload hold
      { b with held := Function.update b.held b.cursor none, cursor := b.cursor + 1 } p (c + 1) where
  started := h.started
  hold_eq := h.hold_eq
  cursor := by dsimp only; rw [h.cursor]; push_cast; omega
  prior := by
    intro i hi
    rcases Nat.lt_succ_iff_lt_or_eq.mp hi with hlt | rfl
    · exact h.prior i hlt
    · exact hc
  near := fun j hj => by have := h.near j hj; omega
  held := by
    intro E q
    dsimp only
    -- the packet played is behind the new cursor; the others stay where they are
    by_cases hE : E = b.cursor
    · subst hE
      rw [Function.update_self]
      refine iff_of_false (by simp) ?_
      rintro ⟨j, -, hle, hE, -⟩
      rw [h.cursor] at hE
      omega
    · rw [Function.update_of_ne hE, h.held]
      refine exists_congr fun j => and_congr_right fun _ => ?_
      constructor
      · rintro ⟨hle, rfl, rfl⟩
        refine ⟨?_, rfl, rfl⟩
        rw [h.cursor] at hE
        omega
      · rintro ⟨hle, rfl, rfl⟩
        exact ⟨by omega, rfl, rfl⟩

/-- **Step lemma for draining**: the drain plays the packets up to the first one that has not
arrived, and conceals nothing. -/
theorem Buffered.drain {b b' : IdealReorder} {acts : List DrainAction} (hd : b.Drains acts b')
    {p : List ℕ} {c : ℕ} (h : Buffered A payload hold b p c) :
    ∃ c', c ≤ c' ∧ Buffered A payload hold b' p c' ∧ c' ∉ p ∧
      playedInOrder (serial 16 A) payload c ++ acts = playedInOrder (serial 16 A) payload c' := by
  induction hd generalizing c with
  | @stop b hs =>
      -- had packet `c` arrived, it would be popped
      refine ⟨c, le_rfl, h, fun hc => ?_, List.append_nil _⟩
      simp [IdealReorder.Settled, IdealReorder.pop_ok (h.held_cursor.1 hc)] at hs
  | @decode b b' acts q s hp _ ih =>
      rcases b.pop_cases with ⟨-, hq⟩ | ⟨q', hheld, hq⟩ | ⟨-, -, -, hq⟩ | ⟨-, -, -, hq⟩
      · simp [hq] at hp
      · obtain ⟨hc, rfl⟩ := h.held_cursor.2 q' hheld
        rw [hq] at hp ih
        injection hp with hp1 hp2
        obtain ⟨c', hle, hB, hnot, happ⟩ := ih (h.play hc)
        refine ⟨c', by omega, hB, hnot, ?_⟩
        rw [← happ, playedInOrder, playedInOrder, List.range_succ, List.map_append,
          List.append_assoc, ← hp1, ← hp2, h.cursor, List.map_cons, List.map_nil,
          serial_add_ofNat]
        rfl
      · simp [hq] at hp
      · simp [hq] at hp
  | @conceal b b' acts hp _ _ =>
      rcases b.pop_cases with ⟨-, hq⟩ | ⟨q', -, hq⟩ | ⟨-, -, ho, -⟩ | ⟨-, -, -, hq⟩
      · simp [hq] at hp
      · simp [hq] at hp
      · exact absurd ho h.not_overdue
      · simp [hq] at hp

/-- Offering packet `j` within the hold of the cursor adds it to what has arrived. -/
theorem Buffered.offer {b : IdealReorder} {p : List ℕ} {c : ℕ}
    (h : Buffered A payload hold b p c) (hwin : hold ≤ b.window) {j : ℕ} (hj : j < c + hold)
    (hlen : ¬((payload j).length = 0 ∨ rtpReorderMaxPkt < (payload j).length)) :
    Buffered A payload hold (b.offer (A + j) (some (payload j))) (p ++ [j]) c := by
  have hprior : ∀ i < c, i ∈ p ++ [j] := fun i hi => List.mem_append_left _ (h.prior i hi)
  have hnear : ∀ i ∈ p ++ [j], i < c + hold := by
    intro i hi
    rcases List.mem_append.mp hi with hi | hi
    · exact h.near i hi
    · rwa [List.mem_singleton.mp hi]
  -- an arrival that changes nothing was held, or played, before
  have hsame : (j < c ∨ j ∈ p) → Buffered A payload hold b (p ++ [j]) c := fun hdone =>
    { started := h.started
      hold_eq := h.hold_eq
      cursor := h.cursor
      prior := hprior
      near := hnear
      held := by
        intro E q
        rw [h.held]
        constructor
        · rintro ⟨i, hi, hrest⟩
          exact ⟨i, List.mem_append_left _ hi, hrest⟩
        · rintro ⟨i, hi, hle, hE, hq⟩
          rcases List.mem_append.mp hi with hi | hi
          · exact ⟨i, hi, hle, hE, hq⟩
          · rw [List.mem_singleton] at hi
            subst hi
            exact ⟨i, hdone.resolve_left (not_lt.mpr hle), hle, hE, hq⟩ }
  rw [IdealReorder.offer]
  by_cases hold' : j < c
  · rw [IdealReorder.insert_tooOld h.started hlen (by rw [h.cursor]; omega)]
    exact hsame (.inl hold')
  have h0 : b.cursor ≤ A + j := by rw [h.cursor]; omega
  have h1 : A + j < b.cursor + b.window := by rw [h.cursor]; omega
  cases hE : b.held (A + j) with
  | some q =>
      rw [IdealReorder.insert_dup h.started hlen h0 h1 (by rw [hE]; exact Option.some_ne_none q)]
      obtain ⟨i, hi, -, hij, -⟩ := (h.held _ _).mp hE
      have : i = j := by omega
      exact hsame (.inr (this ▸ hi))
  | none =>
      rw [IdealReorder.insert_stored h.started hlen h0 h1 hE]
      exact
        { started := h.started
          hold_eq := h.hold_eq
          cursor := h.cursor
          prior := hprior
          near := hnear
          held := by
            intro E q
            dsimp only
            by_cases hEj : E = A + j
            · subst hEj
              rw [Function.update_self, Option.some.injEq]
              constructor
              · rintro rfl
                exact ⟨j, by simp, by omega, rfl, rfl⟩
              · rintro ⟨i, -, -, hij, rfl⟩
                have : i = j := by omega
                rw [this]
            · rw [Function.update_of_ne hEj, h.held]
              constructor
              · rintro ⟨i, hi, hrest⟩
                exact ⟨i, List.mem_append_left _ hi, hrest⟩
              · rintro ⟨i, hi, hle, rfl, hq⟩
                rcases List.mem_append.mp hi with hi | hi
                · exact ⟨i, hi, hle, rfl, hq⟩
                · rw [List.mem_singleton.mp hi] at hEj
                  exact absurd rfl hEj }

end Invariant

/-! ## Arrivals at the code's buffer -/

section Arrivals

variable {a : BitVec 16} {payload : ℕ → Bytes} {hold : ℕ}

/-- The code's buffer represents an ideal one that has buffered the arrivals `p`, with the cursor at
the first packet `c` that has not arrived. -/
def BufferedAs (a : BitVec 16) (payload : ℕ → Bytes) (hold : ℕ) (rb : RtpReorder) (p : List ℕ)
    (c : ℕ) : Prop :=
  ∃ b H, Refines rb b H ∧ hold < b.window ∧ Buffered a.toNat payload hold b p c ∧ c ∉ p

/-- The stored cursor is the number of the first packet that has not arrived. -/
theorem BufferedAs.next_eq {rb : RtpReorder} {p : List ℕ} {c : ℕ}
    (h : BufferedAs a payload hold rb p c) : rb.next = a + BitVec.ofNat 16 c := by
  obtain ⟨b, H, hR, -, hB, -⟩ := h
  rw [hR.next hB.started, hB.cursor, ← serial_add_ofNat, serial_toNat]

/-- **Step lemma** on the ideal buffer: an arrival within the hold of the first missing packet is
buffered or played without a concealment. -/
theorem Buffered.arrive {A : ℤ} {rb : RtpReorder} {b : IdealReorder} {H : ℤ} {p : List ℕ} {c j : ℕ}
    (hR : Refines rb b H) (hwin : hold < b.window) (hB : Buffered A payload hold b p c) (hc : c ∉ p)
    (hlen : ¬((payload j).length = 0 ∨ rtpReorderMaxPkt < (payload j).length))
    (hbounded : ∀ i, i + hold ≤ j → i ∈ p) (hrecent : ∃ i ≤ j + 32768, i ∉ p) :
    ∃ b' H' c', Refines (ConduitStream.arrive (serial 16 A) payload rb j).1 b' H' ∧
      hold < b'.window ∧ Buffered A payload hold b' (p ++ [j]) c' ∧ c' ∉ p ++ [j] ∧
      playedInOrder (serial 16 A) payload c ++ (ConduitStream.arrive (serial 16 A) payload rb j).2
        = playedInOrder (serial 16 A) payload c' := by
  -- packet `c` is missing, so nothing a hold or more beyond it can arrive
  have hnear : j < c + hold := by
    by_contra hfar
    exact hc (hbounded c (by omega))
  have hrec : c ≤ j + 32768 := by
    obtain ⟨i, hi, hip⟩ := hrecent
    by_contra hlt
    exact hip (hB.prior i (by omega))
  have hcur := hB.cursor
  have hW := hR.window_le
  rw [ConduitStream.arrive, serial_add_ofNat]
  obtain ⟨b', H', ht, hR', hd⟩ :=
    hR.insertAndDrain (E := A + j) (fun _ => ⟨by omega, by omega⟩) (some (payload j))
  obtain ⟨c', -, hB', hc', happ⟩ := (hB.offer hwin.le hnear hlen).drain hd
  obtain ⟨-, hw', -, -⟩ := IdealReorder.TopAt.drains hd ht
  rw [(b.offer_params _ _).1] at hw'
  exact ⟨b', H', c', hR', by omega, hB', hc', happ⟩

/-- **Step lemma** for the code's buffer. -/
theorem BufferedAs.arrive {rb : RtpReorder} {p : List ℕ} {c j : ℕ}
    (h : BufferedAs a payload hold rb p c)
    (hlen : ¬((payload j).length = 0 ∨ rtpReorderMaxPkt < (payload j).length))
    (hbounded : ∀ i, i + hold ≤ j → i ∈ p) (hrecent : ∃ i ≤ j + 32768, i ∉ p) :
    ∃ c', BufferedAs a payload hold (arrive a payload rb j).1 (p ++ [j]) c' ∧
      playedInOrder a payload c ++ (ConduitStream.arrive a payload rb j).2
        = playedInOrder a payload c' := by
  obtain ⟨b, H, hR, hwin, hB, hc⟩ := h
  obtain ⟨b', H', c', hR', hwin', hB', hc', happ⟩ := hB.arrive hR hwin hc hlen hbounded hrecent
  rw [serial_toNat] at hR' happ
  exact ⟨c', ⟨b', H', hR', hwin', hB', hc'⟩, happ⟩

/-- **Run lemma**: after every prefix of a bounded arrival order exactly the packets before the
first missing one have been played. -/
theorem BoundedArrivals.run {n : ℕ} {arrivals : List ℕ} (h : BoundedArrivals n hold arrivals)
    (hlen : ∀ j < n, ¬((payload j).length = 0 ∨ rtpReorderMaxPkt < (payload j).length))
    {rb : RtpReorder} (h0 : BufferedAs a payload hold rb [] 0) (p : List ℕ) :
    p <+: arrivals → ∃ c, BufferedAs a payload hold (runOps (arrive a payload) rb p).1 p c ∧
      (runOps (arrive a payload) rb p).2.flatten = playedInOrder a payload c := by
  induction p using List.reverseRecOn with
  | nil => exact fun _ => ⟨0, h0, rfl⟩
  | append_singleton p j ih =>
      rintro ⟨s, hs⟩
      obtain ⟨c, hB, hout⟩ := ih ⟨j :: s, by rw [← hs]; simp⟩
      have harr : arrivals = p ++ j :: s := by rw [← hs]; simp
      obtain ⟨c', hB', hout'⟩ := hB.arrive (hlen j (h.lt j (by rw [harr]; simp)))
        (h.bounded p j s harr) (h.recent p j s harr)
      rw [runOps_concat, List.flatten_append, hout]
      exact ⟨c', hB', by simpa using hout'⟩

/-- A freshly initialised and anchored buffer has buffered nothing. -/
theorem bufferedAs_anchor (slots : ℕ → RtpReorderSlot) {e : ℕ} (he : e ≤ 15) (h : BitVec 16)
    (a : BitVec 16) (payload : ℕ → Bytes) :
    BufferedAs a payload (IdealReorder.effectiveHold (2 ^ e) h.toNat)
      (rtpReorderAnchor (rtpReorderInit slots (BitVec.ofNat 16 (2 ^ e)) h) a) [] 0 := by
  have hw : (BitVec.ofNat 16 (2 ^ e)).toNat = 2 ^ e := by
    rw [BitVec.toNat_ofNat, Nat.mod_eq_of_lt (Nat.pow_lt_pow_right (by norm_num) (by omega))]
  have hR := (Refines.init slots he hw h).anchor (fun _ => rfl) (a.toNat : ℤ)
  rw [serial_toNat] at hR
  refine ⟨_, _, hR, IdealReorder.effectiveHold_lt (Nat.two_pow_pos e) _, ?_, List.not_mem_nil⟩
  exact
    { started := rfl
      hold_eq := rfl
      cursor := (Int.add_zero _).symm
      prior := fun i hi => absurd hi (Nat.not_lt_zero i)
      near := fun j hj => absurd hj List.not_mem_nil
      held := fun E q => by simp [IdealReorder.anchor, IdealReorder.init] }

/-- A first packet `0` finds the buffer anchored to it, whether or not that was done before. -/
theorem runOps_arrive_anchor (slots : ℕ → RtpReorderSlot) (window h : BitVec 16) {s : List ℕ}
    (hlen : ¬((payload 0).length = 0 ∨ rtpReorderMaxPkt < (payload 0).length)) :
    runOps (arrive a payload) (rtpReorderInit slots window h) (0 :: s)
      = runOps (arrive a payload) (rtpReorderAnchor (rtpReorderInit slots window h) a)
          (0 :: s) := by
  have hne : ¬(payload 0).length = 0 := fun hz => hlen (.inl hz)
  have hstep : arrive a payload (rtpReorderInit slots window h) 0
      = arrive a payload (rtpReorderAnchor (rtpReorderInit slots window h) a) 0 := by
    simp only [arrive, insertAndDrain, insertAudio, if_neg hne, BitVec.add_zero]
    rw [rtpReorderInsert_of_not_started rfl a hlen]
  rw [runOps_cons, runOps_cons, hstep]

end Arrivals

/-- **Bounded reordering is lossless.** For every window `2 ^ e` up to `2 ^ 15`, every hold value,
every first number `a`, every stream length `n` and every admissible arrival order, with or without
an anchor to `a` beforehand: the decoder is handed the `n` payloads, once each and in sequence
order, and nothing is concealed; and after every arrival the cursor is at the first packet that has
not arrived. -/
theorem boundedReordering_lossless (slots : ℕ → RtpReorderSlot) (e : ℕ) (he : e ≤ 15)
    (hold a : BitVec 16) (rb : RtpReorder)
    (hrb : rb = rtpReorderInit slots (BitVec.ofNat 16 (2 ^ e)) hold ∨
      rb = rtpReorderAnchor (rtpReorderInit slots (BitVec.ofNat 16 (2 ^ e)) hold) a)
    (payload : ℕ → Bytes) (n : ℕ)
    (hlen : ∀ j < n, 1 ≤ (payload j).length ∧ (payload j).length ≤ rtpReorderMaxPkt)
    (arrivals : List ℕ)
    (harr : BoundedArrivals n (IdealReorder.effectiveHold (2 ^ e) hold.toNat) arrivals) :
    (runOps (arrive a payload) rb arrivals).2.flatten = playedInOrder a payload n ∧
      ∀ p, p <+: arrivals → p ≠ [] → ∃ c, (∀ i < c, i ∈ p) ∧ c ∉ p ∧
        (runOps (arrive a payload) rb p).1.next = a + BitVec.ofNat 16 c := by
  have hlen' : ∀ j < n, ¬((payload j).length = 0 ∨ rtpReorderMaxPkt < (payload j).length) :=
    fun j hj => by have := hlen j hj; omega
  have hrun := harr.run hlen' (bufferedAs_anchor slots he hold a payload)
  -- a run that starts with packet `0` does not depend on an earlier anchor
  have hsame : ∀ p, p <+: arrivals → p ≠ [] → runOps (arrive a payload) rb p
      = runOps (arrive a payload)
          (rtpReorderAnchor (rtpReorderInit slots (BitVec.ofNat 16 (2 ^ e)) hold) a) p := by
    rintro p ⟨s, hs⟩ hp
    rcases hrb with rfl | rfl
    · cases p with
      | nil => exact absurd rfl hp
      | cons j p =>
          have hj : j = 0 := harr.first j (by rw [← hs]; rfl)
          subst hj
          exact runOps_arrive_anchor slots _ _ (hlen' 0 (harr.lt 0 (by rw [← hs]; simp)))
    · rfl
  refine ⟨?_, fun p hp hne => ?_⟩
  · cases arrivals with
    | nil =>
        cases n with
        | zero => rfl
        | succ n => exact absurd (harr.complete 0 n.succ_pos) List.not_mem_nil
    | cons j s =>
        obtain ⟨c, ⟨b, H, -, -, hB, hc⟩, hout⟩ := hrun (j :: s) (List.prefix_refl _)
        rw [hsame _ (List.prefix_refl _) (List.cons_ne_nil j s), hout]
        -- all packets have arrived, and there is no packet `n`
        have hle : c ≤ n := by
          by_contra hlt
          exact absurd (harr.lt n (hB.prior n (by omega))) (lt_irrefl n)
        have hge : n ≤ c := by
          by_contra hlt
          exact hc (harr.complete c (by omega))
        rw [le_antisymm hle hge]
  · obtain ⟨c, hB, -⟩ := hrun p hp
    rw [hsame p hp hne]
    refine ⟨c, ?_, ?_, hB.next_eq⟩
    · obtain ⟨b, H, -, -, hB', -⟩ := hB
      exact hB'.prior
    · obtain ⟨b, H, -, -, -, hc⟩ := hB
      exact hc

/-- Four packets across the wrap, with packets `1` and `2` swapped and a late copy of `1`. -/
theorem boundedReordering_lossless_swapped :
    (runOps (arrive 65534 fun j => [UInt8.ofNat j])
        (rtpReorderInit (fun _ => ⟨false, 0, 0, []⟩) (BitVec.ofNat 16 (2 ^ 3)) 2)
        [0, 2, 1, 3, 1]).2.flatten
      = playedInOrder 65534 (fun j => [UInt8.ofNat j]) 4 :=
  (boundedReordering_lossless _ 3 (by norm_num) 2 65534 _ (.inl rfl) _ 4
    (fun _ _ => ⟨le_rfl, by simp [rtpReorderMaxPkt]⟩) [0, 2, 1, 3, 1]
    { first := by simp
      lt := by simp
      complete := by decide
      bounded := by
        intro p j s hp i hi
        have hall : ∀ k < 5, ∀ i < 2, i + 2 ≤ [0, 2, 1, 3, 1].getD k 0 →
            i ∈ [0, 2, 1, 3, 1].take k := by decide
        have hk : p.length < 5 := by
          have := congrArg List.length hp
          simp only [List.length_cons, List.length_nil, List.length_append] at this
          omega
        have hj : j ≤ 3 := by
          have : ∀ x ∈ [0, 2, 1, 3, 1], x ≤ 3 := by decide
          exact this j (by rw [hp]; simp)
        have hi : i + 2 ≤ j := hi
        simpa [hp, hi] using hall p.length hk i (by omega)
      recent := by
        intro p j s hp
        refine ⟨4, by omega, fun h4 => ?_⟩
        have : 4 ∈ [0, 2, 1, 3, 1] := by rw [hp]; exact List.mem_append_left _ h4
        simp at this }).1

end ConduitStream
