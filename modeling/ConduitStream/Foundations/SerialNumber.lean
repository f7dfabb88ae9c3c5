import Mathlib.Data.Int.ModEq
import Mathlib.Data.Nat.ModEq
import Mathlib.Tactic.Linarith

/-! # Serial-number arithmetic

A counter kept in `w` bits is read as the residue of a true, unbounded counter. This file relates
the two: `serial w E` is the `w`-bit value of the true number `E`, and

* modular differences recover true differences below `2 ^ w` (`toNat_serial_sub`);
* the signed comparison `(a - b).toInt < 0` recovers the true order within half the circle
  (`serial_sub_neg_iff`);
* for a table of `2 ^ k` slots the slot of `serial w E` is the residue of `E` itself
  (`serial_toNat_mod`), so distinct numbers of one window never share a slot
  (`slotOf_inj_of_window`). -/

namespace ConduitStream

/-- The `w`-bit serial number of the true number `E`. -/
def serial (w : ℕ) (E : ℤ) : BitVec w := BitVec.ofInt w E

variable {w : ℕ}

/-- Serial numbers add as true numbers do. -/
theorem serial_add (a b : ℤ) : serial w (a + b) = serial w a + serial w b :=
  BitVec.ofInt_add a b

/-- Serial numbers subtract as true numbers do. -/
theorem serial_sub (a b : ℤ) : serial w (a - b) = serial w a - serial w b := by
  rw [Int.sub_eq_add_neg, serial_add, BitVec.sub_eq_add_neg]
  congr 1
  exact BitVec.ofInt_neg

/-- The successor of a serial number is the serial number of the successor. -/
theorem serial_add_one (a : ℤ) : serial w a + 1#w = serial w (a + 1) := by
  rw [serial_add]
  simp [serial]

/-- Advancing a serial number by a machine constant. -/
theorem serial_add_ofNat (a : ℤ) (n : ℕ) : serial w a + BitVec.ofNat w n = serial w (a + n) := by
  rw [serial_add]
  congr 1

/-- The distance between two moments on a counter of `w` bits. -/
theorem ofNat_sub_ofNat {t t' : ℕ} (h : t ≤ t') :
    BitVec.ofNat w t' - BitVec.ofNat w t = BitVec.ofNat w (t' - t) := by
  obtain ⟨d, rfl⟩ := Nat.exists_eq_add_of_le h
  rw [BitVec.ofNat_add, BitVec.add_comm, BitVec.add_sub_cancel, Nat.add_sub_cancel_left]

/-- A serial number as a natural number: the residue of the true number. -/
theorem toNat_serial (a : ℤ) : (serial w a).toNat = (a % (2 ^ w : ℕ)).toNat := by
  rw [serial, BitVec.toNat_ofInt]

/-- Below `2 ^ w` a serial number is the true number. -/
theorem toNat_serial_of_lt {a : ℤ} (h0 : 0 ≤ a) (h : a < (2 ^ w : ℕ)) :
    (serial w a).toNat = a.toNat := by
  rw [toNat_serial, Int.emod_eq_of_lt h0 h]

/-- **Modular difference.** As long as the true difference lies in `[0, 2 ^ w)`, the unsigned
difference of the serial numbers is that difference. -/
theorem toNat_serial_sub {a b : ℤ} (h0 : 0 ≤ a - b) (h : a - b < (2 ^ w : ℕ)) :
    (serial w a - serial w b).toNat = (a - b).toNat := by
  rw [← serial_sub, toNat_serial_of_lt h0 h]

/-- **Serial comparison.** As long as the true difference fits the signed `w`-bit range, the sign
of the difference of the serial numbers is the true order. -/
theorem serial_sub_neg_iff (hw : 0 < w) {a b : ℤ} (h0 : -2 ^ (w - 1) ≤ a - b)
    (h : a - b < 2 ^ (w - 1)) : (serial w a - serial w b).toInt < 0 ↔ a < b := by
  rw [← serial_sub, serial, BitVec.toInt_ofInt_eq_self hw h0 h]
  omega

/-- Every `w`-bit value is the serial number of its own value. -/
theorem serial_toNat (x : BitVec w) : serial w (x.toNat : ℤ) = x := by
  apply BitVec.eq_of_toNat_eq
  rw [toNat_serial_of_lt (Int.natCast_nonneg _) (by exact_mod_cast x.isLt), Int.toNat_natCast]

/-- Every `w`-bit value is the serial number of a number within half a circle of `N`. -/
theorem exists_serial_near (hw : 0 < w) (x : BitVec w) (N : ℤ) :
    ∃ E, N - 2 ^ (w - 1) ≤ E ∧ E < N + 2 ^ (w - 1) ∧ serial w E = x := by
  have hpow : (2 : ℤ) ^ w = 2 * 2 ^ (w - 1) := by
    rw [← pow_succ', Nat.sub_add_cancel hw]
  have hlo : -2 ^ (w - 1) ≤ (x - serial w N).toInt := BitVec.le_toInt _
  have hhi := BitVec.toInt_lt (x := x - serial w N)
  refine ⟨N + (x - serial w N).toInt, by omega, by omega, ?_⟩
  rw [serial_add]
  have hback : serial w (x - serial w N).toInt = x - serial w N := BitVec.ofInt_toInt
  rw [hback, BitVec.add_comm, BitVec.sub_add_cancel]

/-! ## Slots of a power-of-two table -/

/-- The slot of the true number `E` in a table of `n` slots. -/
def slotOf (n : ℕ) (E : ℤ) : ℕ := (E % (n : ℤ)).toNat

/-- A slot is one of the window. -/
theorem slotOf_lt {n : ℕ} (hn : 0 < n) (E : ℤ) : slotOf n E < n := by
  have h0 := Int.emod_nonneg E (by omega : (n : ℤ) ≠ 0)
  have h1 := Int.emod_lt_of_pos E (by omega : 0 < (n : ℤ))
  unfold slotOf
  omega

/-- Reducing a serial number to a slot agrees with reducing the true number, because the table
size divides `2 ^ w`. -/
theorem serial_toNat_mod {n : ℕ} (hn : n ∣ 2 ^ w) (E : ℤ) :
    (serial w E).toNat % n = slotOf n E := by
  have h0 : 0 ≤ E % ((2 ^ w : ℕ) : ℤ) := Int.emod_nonneg E (by positivity)
  have hn0 : (n : ℤ) ≠ 0 := by
    rintro hz
    rw [Int.natCast_eq_zero.mp hz] at hn
    exact absurd (Nat.eq_zero_of_zero_dvd hn) (by positivity)
  rw [toNat_serial, slotOf, ← Int.natCast_inj, Int.natCast_mod, Int.toNat_of_nonneg h0,
    Int.emod_emod_of_dvd E (Int.natCast_dvd_natCast.mpr hn),
    Int.toNat_of_nonneg (Int.emod_nonneg E hn0)]

/-- Two numbers of one window of `n` consecutive numbers in the same slot are equal. -/
theorem slotOf_inj_of_window {n : ℕ} {N a b : ℤ} (ha : N ≤ a) (ha' : a < N + n) (hb : N ≤ b)
    (hb' : b < N + n) (h : slotOf n a = slotOf n b) : a = b := by
  have hn : (n : ℤ) ≠ 0 := by omega
  have h0 := Int.emod_nonneg a hn
  have h1 := Int.emod_nonneg b hn
  unfold slotOf at h
  have hmod : a % (n : ℤ) = b % (n : ℤ) := by omega
  have hdvd : (n : ℤ) ∣ a - b :=
    Int.dvd_of_emod_eq_zero (Int.emod_eq_emod_iff_emod_sub_eq_zero.mp hmod)
  have habs : |a - b| < n := by rw [abs_lt]; constructor <;> omega
  have := Int.eq_zero_of_abs_lt_dvd hdvd habs
  omega

/-- The number one table size further on reuses the slot. -/
theorem slotOf_add_self (n : ℕ) (E : ℤ) : slotOf n (E + n) = slotOf n E := by
  simp [slotOf]

/-- Every slot is the slot of a number of the window. -/
theorem exists_slotOf_eq {n : ℕ} (N : ℤ) {i : ℕ} (hi : i < n) :
    ∃ E, N ≤ E ∧ E < N + n ∧ slotOf n E = i := by
  have hn : (0 : ℤ) < n := by omega
  refine ⟨N + (i - N) % n, by have := Int.emod_nonneg (i - N) hn.ne'; omega,
    by have := Int.emod_lt_of_pos (i - N) hn; omega, ?_⟩
  unfold slotOf
  rw [Int.add_emod_emod, add_sub_cancel, Int.emod_eq_of_lt (by omega) (by omega),
    Int.toNat_natCast]

/-- The residue of a serial number is that of its distance from another one, moved on by that one. -/
theorem serial_distance_modEq {n : ℕ} (hn : n ∣ 2 ^ w) (a next : BitVec w) :
    next.toNat + (a - next).toNat ≡ a.toNat [MOD n] := by
  have hsum : (next.toNat + (a - next).toNat) % 2 ^ w = a.toNat := by
    rw [← BitVec.toNat_add, BitVec.add_comm, BitVec.sub_add_cancel]
  have hmod : next.toNat + (a - next).toNat ≡ a.toNat [MOD 2 ^ w] := by
    rw [Nat.ModEq, hsum, Nat.mod_eq_of_lt a.isLt]
  exact hmod.of_dvd hn

/-- **A table whose size divides the circle** has a slot for each serial number of a window. -/
theorem serial_inj_of_window {n : ℕ} (hn : n ∣ 2 ^ w) {a b next : BitVec w}
    (ha : (a - next).toNat < n) (hb : (b - next).toNat < n) (h : a.toNat % n = b.toNat % n) :
    a = b := by
  have hab : next.toNat + (a - next).toNat ≡ next.toNat + (b - next).toNat [MOD n] :=
    (serial_distance_modEq hn a next).trans (Nat.ModEq.trans h (serial_distance_modEq hn b next).symm)
  have hdist : (a - next).toNat = (b - next).toNat :=
    (Nat.ModEq.add_left_cancel' _ hab).eq_of_lt_of_lt ha hb
  have hsub : a - next = b - next := BitVec.eq_of_toNat_eq hdist
  rw [← BitVec.sub_add_cancel a next, hsub, BitVec.sub_add_cancel]

/-- **Any other table** has two serial numbers of one window in slot 0, on the two sides of the
wrap. -/
theorem exists_serial_collision {n : ℕ} (h0 : 0 < n) (hlt : n < 2 ^ w) (hn : ¬n ∣ 2 ^ w) :
    ∃ a : BitVec w, a ≠ 0 ∧ a.toNat % n = 0 ∧ 0 < (0 - a).toNat ∧ (0 - a).toNat < n := by
  -- the last multiple of the table size in front of the wrap
  have hr0 : 0 < 2 ^ w % n := Nat.pos_of_ne_zero fun h => hn (Nat.dvd_of_mod_eq_zero h)
  have hrn : 2 ^ w % n < n := Nat.mod_lt _ h0
  have hlast : (BitVec.ofNat w (2 ^ w - 2 ^ w % n)).toNat = 2 ^ w - 2 ^ w % n := by
    rw [BitVec.toNat_ofNat, Nat.mod_eq_of_lt (by omega)]
  have hzero : (0 : BitVec w).toNat = 0 := by simp
  have hdist : (0 - BitVec.ofNat w (2 ^ w - 2 ^ w % n)).toNat = 2 ^ w % n := by
    rw [BitVec.toNat_sub, hlast, hzero, Nat.add_zero, Nat.sub_sub_self (by omega),
      Nat.mod_eq_of_lt (by omega)]
  refine ⟨BitVec.ofNat w (2 ^ w - 2 ^ w % n), fun h => ?_, ?_, by omega, by omega⟩
  · rw [h, hzero] at hlast
    omega
  · rw [hlast]
    exact Nat.mod_eq_zero_of_dvd (Nat.dvd_sub_mod _)

end ConduitStream
