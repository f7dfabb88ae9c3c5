import ConduitStream.RtpReceive.ReceivePath

/-! # Draining, seen on the ideal buffer

`drain_decode` on a buffer that represents an ideal one executes ideal pops until one of them waits
or finds nothing (`Refines.drain`). The state it stops in is *settled*: either nothing is held, or
the front is missing and the write head is within the hold of the cursor. Every state of the
receive path between two datagrams is settled (`rtpRx_run_settled`). -/

namespace ConduitStream

namespace IdealReorder

/-- The next pop would wait or find nothing. -/
def Settled (b : IdealReorder) : Prop := b.pop.2 = .wait ∨ b.pop.2 = .empty

/-- Popping from `b` until it is settled makes the calls `acts` and ends in `b'`. -/
inductive Drains : IdealReorder → List DrainAction → IdealReorder → Prop
  | stop {b : IdealReorder} : b.Settled → Drains b [] b
  | decode {b b' : IdealReorder} {acts : List DrainAction} {p : Bytes} {s : BitVec 16} :
      b.pop.2 = .ok p s → Drains b.pop.1 acts b' → Drains b (.decode s p :: acts) b'
  | conceal {b b' : IdealReorder} {acts : List DrainAction} :
      b.pop.2 = .conceal → Drains b.pop.1 acts b' → Drains b (.conceal :: acts) b'

/-- The four outcomes of an ideal pop, each with the condition that decides it. -/
theorem pop_cases (b : IdealReorder) :
    (b.IsEmpty ∧ b.pop = (b, .empty)) ∨
    (∃ p, b.held b.cursor = some p ∧ b.pop =
      ({ b with held := Function.update b.held b.cursor none, cursor := b.cursor + 1 },
        .ok p (serial 16 b.cursor))) ∨
    (¬b.IsEmpty ∧ b.held b.cursor = none ∧ b.Overdue ∧
      b.pop = ({ b with cursor := b.cursor + 1 }, .conceal)) ∨
    (¬b.IsEmpty ∧ b.held b.cursor = none ∧ ¬b.Overdue ∧ b.pop = (b, .wait)) := by
  by_cases he : b.IsEmpty
  · exact .inl ⟨he, pop_empty he⟩
  · cases hc : b.held b.cursor with
    | some p => exact .inr (.inl ⟨p, rfl, pop_ok hc⟩)
    | none =>
        by_cases ho : b.Overdue
        · exact .inr (.inr (.inl ⟨he, rfl, ho, pop_conceal he hc ho⟩))
        · exact .inr (.inr (.inr ⟨he, rfl, ho, pop_wait he hc ho⟩))

/-- A pop of a settled buffer changes nothing. -/
theorem Settled.pop_fst {b : IdealReorder} (h : b.Settled) : b.pop.1 = b := by
  rcases b.pop_cases with ⟨-, hp⟩ | ⟨p, -, hp⟩ | ⟨-, -, -, hp⟩ | ⟨-, -, -, hp⟩
  · rw [hp]
  · simp [Settled, hp] at h
  · simp [Settled, hp] at h
  · rw [hp]

/-- A buffer is settled exactly when nothing is held or the front is missing and not overdue. -/
theorem TopAt.settled_iff {b : IdealReorder} {H : ℤ} (h : b.TopAt H) :
    b.Settled ↔ H = b.cursor ∨ (b.held b.cursor = none ∧ H ≤ b.cursor + b.hold) := by
  rcases b.pop_cases with ⟨he, hp⟩ | ⟨p, hc, hp⟩ | ⟨he, hc, ho, hp⟩ | ⟨he, hc, ho, hp⟩
  · exact iff_of_true (by simp [Settled, hp]) (.inl (h.isEmpty_iff.mp he))
  · refine iff_of_false (by simp [Settled, hp]) ?_
    rintro (hH | ⟨hn, -⟩)
    · exact not_isEmpty_of_held hc (h.isEmpty_iff.mpr hH)
    · rw [hc] at hn; cases hn
  · refine iff_of_false (by simp [Settled, hp]) ?_
    rintro (hH | ⟨-, hle⟩)
    · exact he (h.isEmpty_iff.mpr hH)
    · exact absurd ((h.overdue_iff he).mp ho) (not_lt.mpr hle)
  · exact iff_of_true (by simp [Settled, hp])
      (.inr ⟨hc, not_lt.mp fun hlt => ho ((h.overdue_iff he).mpr hlt)⟩)

/-- Popping keeps the write head and the parameters, and moves the cursor by at most one. -/
theorem TopAt.pop {b : IdealReorder} {H : ℤ} (h : b.TopAt H) :
    b.pop.1.TopAt H ∧ b.pop.1.window = b.window ∧ b.pop.1.hold = b.hold ∧
      b.pop.1.started = b.started := by
  rcases b.pop_cases with ⟨he, hp⟩ | ⟨p, hc, hp⟩ | ⟨he, hc, ho, hp⟩ | ⟨he, hc, ho, hp⟩
  · rw [hp]; exact ⟨h, rfl, rfl, rfl⟩
  · rw [hp]; exact ⟨h.play (by rw [hc]; exact Option.some_ne_none p), rfl, rfl, rfl⟩
  · rw [hp]; exact ⟨h.conceal he hc, rfl, rfl, rfl⟩
  · rw [hp]; exact ⟨h, rfl, rfl, rfl⟩

section Drains

variable {b b' : IdealReorder} {acts : List DrainAction}

/-- Draining ends where nothing is due. -/
theorem Drains.settled (h : b.Drains acts b') : b'.Settled := by
  induction h with
  | stop hs => exact hs
  | decode _ _ ih => exact ih
  | conceal _ _ ih => exact ih

/-- A settled buffer drains to nothing. -/
theorem Settled.drains_eq (hs : b.Settled) (h : b.Drains acts b') : acts = [] ∧ b' = b := by
  cases h with
  | stop _ => exact ⟨rfl, rfl⟩
  | decode hp _ => simp [Settled, hp] at hs
  | conceal hp _ => simp [Settled, hp] at hs

/-- Draining keeps the write head and the parameters. -/
theorem TopAt.drains {H : ℤ} (h : b.Drains acts b') (ht : b.TopAt H) :
    b'.TopAt H ∧ b'.window = b.window ∧ b'.hold = b.hold ∧ b'.started = b.started := by
  induction h with
  | stop _ => exact ⟨ht, rfl, rfl, rfl⟩
  | decode _ _ ih =>
      obtain ⟨hp, h1, h2, h3⟩ := ht.pop
      obtain ⟨hp', h1', h2', h3'⟩ := ih hp
      exact ⟨hp', h1'.trans h1, h2'.trans h2, h3'.trans h3⟩
  | conceal _ _ ih =>
      obtain ⟨hp, h1, h2, h3⟩ := ht.pop
      obtain ⟨hp', h1', h2', h3'⟩ := ih hp
      exact ⟨hp', h1'.trans h1, h2'.trans h2, h3'.trans h3⟩

end Drains

/-- Offer a payload that may be absent. -/
noncomputable def offer (b : IdealReorder) (E : ℤ) : Option Bytes → IdealReorder
  | none => b
  | some p => (b.insert E p).1

/-- Anchor to `E`, unless started already. -/
def anchorIfNeeded (b : IdealReorder) (E : ℤ) : IdealReorder :=
  if b.started then b else b.anchor E

end IdealReorder

/-! ## The code's drain is the ideal drain -/

/-- **`drain_decode` executes the ideal drain**, and leaves the write head. -/
theorem Refines.drain {rb : RtpReorder} {b : IdealReorder} {H : ℤ} (h : Refines rb b H) :
    ∃ b', Refines (drainDecode rb).1 b' H ∧ b.Drains (drainDecode rb).2 b' := by
  -- the cases are the answers of `rtp_reorder_pop`: OK, CONCEAL, WAIT and EMPTY
  induction rb using drainDecode.induct generalizing b with
  | case1 rb rb' out seq hp ih =>
      obtain ⟨hR, heq⟩ := h.pop le_rfl
      rw [hp] at hR heq
      obtain ⟨b', hR', hd⟩ := ih hR
      rw [drainDecode_ok hp]
      exact ⟨b', hR', .decode heq.symm hd⟩
  | case2 rb rb' hp ih =>
      obtain ⟨hR, heq⟩ := h.pop le_rfl
      rw [hp] at hR heq
      obtain ⟨b', hR', hd⟩ := ih hR
      rw [drainDecode_conceal hp]
      exact ⟨b', hR', .conceal heq.symm hd⟩
  | case3 rb rb' hp =>
      obtain ⟨hR, heq⟩ := h.pop le_rfl
      rw [hp] at hR heq
      have hs : b.Settled := .inl heq.symm
      rw [hs.pop_fst] at hR
      rw [drainDecode_stop (.inl hp)]
      exact ⟨b, hR, .stop hs⟩
  | case4 rb rb' hp =>
      obtain ⟨hR, heq⟩ := h.pop le_rfl
      rw [hp] at hR heq
      have hs : b.Settled := .inr heq.symm
      rw [hs.pop_fst] at hR
      rw [drainDecode_stop (.inr hp)]
      exact ⟨b, hR, .stop hs⟩

/-- `insert_audio` does to the buffer what the ideal offer does to the ideal one. -/
theorem Refines.insertAudio {rb : RtpReorder} {b : IdealReorder} {H : ℤ} (h : Refines rb b H)
    {E : ℤ} (hE : b.started = true → b.cursor - 32768 ≤ E ∧ E ≤ b.cursor + 32767)
    (payload : Option Bytes) :
    ∃ H', Refines (insertAudio rb (serial 16 E) payload) (b.offer E payload) H' := by
  cases payload with
  | none => exact ⟨H, h⟩
  | some p =>
      by_cases hp : p.length = 0
      · have hb : b.insert E p = (b, .badlen) := b.insert_badlen E (.inl hp)
        refine ⟨H, ?_⟩
        rw [ConduitStream.insertAudio, if_pos hp, IdealReorder.offer, hb]
        exact h
      · rw [ConduitStream.insertAudio, if_neg hp]
        exact (h.insert p hE).1

/-- `insert_audio` then `drain_decode`, on the ideal buffer: the write head after the offer is the
write head after the drain. -/
theorem Refines.insertAndDrain {rb : RtpReorder} {b : IdealReorder} {H : ℤ} (h : Refines rb b H)
    {E : ℤ} (hE : b.started = true → b.cursor - 32768 ≤ E ∧ E ≤ b.cursor + 32767)
    (payload : Option Bytes) :
    ∃ b' H', (b.offer E payload).TopAt H' ∧
      Refines (insertAndDrain rb (serial 16 E) payload).1 b' H' ∧
      (b.offer E payload).Drains (insertAndDrain rb (serial 16 E) payload).2 b' := by
  obtain ⟨H₁, h₁⟩ := h.insertAudio hE payload
  obtain ⟨b', hR, hd⟩ := h₁.drain
  exact ⟨b', H₁, h₁.top, hR, hd⟩

/-- Anchoring on demand refines ideal anchoring on demand. -/
theorem Refines.anchorIfNeeded {rb : RtpReorder} {b : IdealReorder} {H : ℤ} (h : Refines rb b H)
    (E : ℤ) : ∃ H', Refines (anchorIfNeeded rb (serial 16 E)) (b.anchorIfNeeded E) H' := by
  unfold ConduitStream.anchorIfNeeded IdealReorder.anchorIfNeeded
  rw [h.started]
  cases hs : b.started with
  | true => exact ⟨H, h⟩
  | false => exact ⟨E, h.anchor (h.unstarted hs) E⟩

/-! ## Every state between two datagrams is settled -/

/-- Offering keeps the parameters of the buffer. -/
theorem IdealReorder.offer_params (b : IdealReorder) (E : ℤ) (payload : Option Bytes) :
    (b.offer E payload).window = b.window ∧ (b.offer E payload).hold = b.hold := by
  cases payload with
  | none => exact ⟨rfl, rfl⟩
  | some p => exact ⟨b.insert_window E p, b.insert_hold E p⟩

/-- The reorder buffer `rb` represents a settled ideal buffer with window `W` and hold `hold`. -/
def SettledAs (rb : RtpReorder) (W hold : ℕ) : Prop :=
  ∃ b H, Refines rb b H ∧ b.Settled ∧ b.window = W ∧ b.hold = hold

/-- An insert and a drain end in a settled state, whatever is inserted. -/
theorem settledAs_insertAndDrain {rb : RtpReorder} {b : IdealReorder} {H : ℤ} {W hold : ℕ}
    (h : Refines rb b H) (hW : b.window = W) (hh : b.hold = hold) (seq : BitVec 16)
    (payload : Option Bytes) : SettledAs (insertAndDrain rb seq payload).1 W hold := by
  obtain ⟨E, h0, h1, rfl⟩ := exists_serial_near (by norm_num) seq b.cursor
  have hE : b.cursor - 32768 ≤ E ∧ E ≤ b.cursor + 32767 := by norm_num at h0 h1; omega
  obtain ⟨b', H', ht, hR, hd⟩ := h.insertAndDrain (fun _ => hE) payload
  obtain ⟨-, hw', hh', -⟩ := IdealReorder.TopAt.drains hd ht
  obtain ⟨hw, hhold⟩ := b.offer_params E payload
  exact ⟨b', H', hR, hd.settled, hw'.trans (hw.trans hW), hh'.trans (hhold.trans hh)⟩

/-- **Step lemma**: serving a socket keeps the reorder buffer settled. -/
theorem settledAs_exec {io : RtpIo} {rx : RtpRx} {W hold : ℕ}
    (h : SettledAs rx.reorder W hold) (ev : RxEvent) :
    SettledAs (rx.exec io ev).1.reorder W hold := by
  obtain ⟨b, H, hR, hs, hW, hh⟩ := h
  cases ev with
  | audio pkt src now =>
      rcases handleAudio_cases io rx pkt src now with ⟨-, heq⟩ | ⟨seq, payload, -, heq, -⟩
      · rw [RtpRx.exec, heq]; exact ⟨b, H, hR, hs, hW, hh⟩
      · obtain ⟨H₁, h₁⟩ := hR.anchorIfNeeded (seq.toNat : ℤ)
        rw [serial_toNat] at h₁
        rw [RtpRx.exec, heq]
        refine settledAs_insertAndDrain h₁ ?_ ?_ seq payload
        · unfold IdealReorder.anchorIfNeeded; split <;> exact hW
        · unfold IdealReorder.anchorIfNeeded; split <;> exact hh
  | control pkt =>
      rcases handleControl_cases rx pkt with ⟨-, heq⟩ | ⟨seq, payload, -, heq, -⟩
      · rw [RtpRx.exec, heq]; exact ⟨b, H, hR, hs, hW, hh⟩
      · rw [RtpRx.exec, heq]; exact settledAs_insertAndDrain hR hW hh seq payload

/-- **Run lemma**: from a freshly initialised buffer every run of the receive path ends in a
settled state. -/
theorem rtpRx_run_settled (io : RtpIo) {rx : RtpRx} {slots : ℕ → RtpReorderSlot} {e : ℕ}
    (he : e ≤ 15) (hold : BitVec 16)
    (hrx : rx.reorder = rtpReorderInit slots (BitVec.ofNat 16 (2 ^ e)) hold)
    (evs : List RxEvent) :
    SettledAs (runOps (RtpRx.exec io) rx evs).1.reorder (2 ^ e)
      (IdealReorder.effectiveHold (2 ^ e) hold.toNat) := by
  have hw : (BitVec.ofNat 16 (2 ^ e)).toNat = 2 ^ e := by
    rw [BitVec.toNat_ofNat, Nat.mod_eq_of_lt (Nat.pow_lt_pow_right (by norm_num) (by omega))]
  have hR := Refines.init slots he hw hold
  have h0 : SettledAs rx.reorder (2 ^ e) (IdealReorder.effectiveHold (2 ^ e) hold.toNat) := by
    refine ⟨_, 0, hrx ▸ hR, .inr ?_, rfl, rfl⟩
    rw [IdealReorder.pop_empty (hR.unstarted rfl)]
  exact runOps_invariant (I := fun rx => SettledAs rx.reorder _ _)
    (fun _ ev hs _ => settledAs_exec hs ev) h0 (admitted_of_forall (fun _ _ => trivial) rx evs)

end ConduitStream
