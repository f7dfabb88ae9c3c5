import Mathlib.Algebra.Order.Ring.Nat
import Mathlib.Data.List.Basic
import Mathlib.Data.List.Induction
import Mathlib.Tactic.Ring
import ConduitStream.Foundations.ByteString

/-! # Bit strings in groups

Codes that cut a bit string anew, as the 8-bit groups of bytes into 6-bit groups of characters, are
read on lists of bits, most significant first.

* `wordBits w n` are the low `w` bits of `n`, and `ofBits` is the number a list of bits denotes; they
  are inverse to each other (`ofBits_wordBits`, `wordBits_ofBits`), and a wider word is two narrower
  ones side by side (`wordBits_add`, `wordBits_append`);
* `fullGroups w` cuts bits into groups of `w` and drops what is left over, `paddedGroups w` fills the
  last group with zeros;
* `byteBits` are the bits of a byte string, and `packBits` makes bytes of bits. -/

namespace ConduitStream

/-! ## Words -/

/-- The number the bits denote, most significant first. -/
def ofBits (bits : List Bool) : ℕ := bits.foldl (fun n b => 2 * n + b.toNat) 0

/-- The low `w` bits of a number, most significant first. -/
def wordBits : ℕ → ℕ → List Bool
  | 0, _ => []
  | w + 1, n => wordBits w (n / 2) ++ [decide (n % 2 = 1)]

/-- A word of `w` bits has `w` bits. -/
@[simp] theorem length_wordBits (w n : ℕ) : (wordBits w n).length = w := by
  induction w generalizing n with
  | zero => rfl
  | succ w ih => rw [wordBits, List.length_append, ih, List.length_singleton]

/-- A bit behind the others doubles the number and adds itself. -/
theorem ofBits_concat (bits : List Bool) (b : Bool) :
    ofBits (bits ++ [b]) = 2 * ofBits bits + b.toNat := List.foldl_concat ..

/-- The bits in front weigh more by the length of those behind. -/
theorem ofBits_append (bits bits' : List Bool) :
    ofBits (bits ++ bits') = ofBits bits * 2 ^ bits'.length + ofBits bits' := by
  induction bits' using List.reverseRecOn with
  | nil => simp [ofBits]
  | append_singleton bits' b ih =>
      rw [← List.append_assoc, ofBits_concat, ofBits_concat, ih, List.length_append,
        List.length_singleton, pow_succ]
      ring

/-- A number of `n` bits is below `2 ^ n`. -/
theorem ofBits_lt (bits : List Bool) : ofBits bits < 2 ^ bits.length := by
  induction bits using List.reverseRecOn with
  | nil => exact Nat.one_pos
  | append_singleton bits b ih =>
      have hb : b.toNat ≤ 1 := Bool.toNat_le b
      rw [ofBits_concat, List.length_append, List.length_singleton, pow_succ]
      omega

/-- The bits in front are the quotient, those behind the remainder. -/
theorem ofBits_div_mod (bits bits' : List Bool) :
    ofBits (bits ++ bits') / 2 ^ bits'.length = ofBits bits ∧
      ofBits (bits ++ bits') % 2 ^ bits'.length = ofBits bits' := by
  have hlt := ofBits_lt bits'
  rw [ofBits_append, Nat.mul_comm, Nat.mul_add_div (Nat.two_pow_pos _), Nat.div_eq_of_lt hlt,
    Nat.mul_add_mod, Nat.mod_eq_of_lt hlt]
  exact ⟨Nat.add_zero _, rfl⟩

/-- The bits of a number denote it, as far as there are enough. -/
theorem ofBits_wordBits (w n : ℕ) : ofBits (wordBits w n) = n % 2 ^ w := by
  induction w generalizing n with
  | zero => rw [pow_zero, Nat.mod_one]; rfl
  | succ w ih =>
      have hbit : (decide (n % 2 = 1)).toNat = n % 2 := by
        rcases Nat.mod_two_eq_zero_or_one n with h | h <;> rw [h] <;> rfl
      rw [wordBits, ofBits_concat, ih, hbit, pow_succ', Nat.mod_mul]
      exact Nat.add_comm ..

/-- The number of a list of bits has these bits. -/
theorem wordBits_ofBits (bits : List Bool) : wordBits bits.length (ofBits bits) = bits := by
  induction bits using List.reverseRecOn with
  | nil => rfl
  | append_singleton bits b ih =>
      have hb : b.toNat ≤ 1 := Bool.toNat_le b
      have hdiv : (2 * ofBits bits + b.toNat) / 2 = ofBits bits := by omega
      have hmod : decide ((2 * ofBits bits + b.toNat) % 2 = 1) = b := by
        cases b with
        | false => simp
        | true => simp
      rw [List.length_append, List.length_singleton, ofBits_concat, wordBits, hdiv, ih, hmod]

/-- Bits higher than those of the word do not matter to it. -/
theorem wordBits_mod (w n : ℕ) : wordBits w (n % 2 ^ w) = wordBits w n := by
  have h := wordBits_ofBits (wordBits w n)
  rwa [length_wordBits, ofBits_wordBits] at h

/-- A word is its high bits and its low bits. -/
theorem wordBits_add (m k n : ℕ) : wordBits (m + k) n = wordBits m (n / 2 ^ k) ++ wordBits k n := by
  induction k generalizing n with
  | zero => rw [pow_zero, Nat.div_one, wordBits, List.append_nil]; rfl
  | succ k ih =>
      rw [← Nat.add_assoc, wordBits, ih, wordBits, Nat.div_div_eq_div_mul, pow_succ',
        List.append_assoc]

/-- Two words side by side are one. -/
theorem wordBits_append {m k a b : ℕ} (hb : b < 2 ^ k) :
    wordBits m a ++ wordBits k b = wordBits (m + k) (a * 2 ^ k + b) := by
  have hdiv : (a * 2 ^ k + b) / 2 ^ k = a := by
    rw [Nat.mul_comm, Nat.mul_add_div (Nat.two_pow_pos k), Nat.div_eq_of_lt hb, Nat.add_zero]
  have hlow : wordBits k (a * 2 ^ k + b) = wordBits k b := by
    rw [← wordBits_mod, Nat.mul_comm, Nat.mul_add_mod, wordBits_mod]
  rw [wordBits_add, hdiv, hlow]

/-- The bits of zero are all unset. -/
@[simp] theorem wordBits_zero (w : ℕ) : wordBits w 0 = List.replicate w false := by
  induction w with
  | zero => rfl
  | succ w ih => rw [wordBits, Nat.zero_div, ih, List.replicate_succ']; rfl

/-! ## Bytes -/

/-- The bits of a byte string. -/
def byteBits (x : Bytes) : List Bool := x.flatMap fun b => wordBits 8 b.toNat

/-- The bits of a first byte come first. -/
theorem byteBits_cons (b : UInt8) (x : Bytes) : byteBits (b :: x) = wordBits 8 b.toNat ++ byteBits x :=
  rfl

/-- The bits of two byte strings in a row. -/
theorem byteBits_append (x y : Bytes) : byteBits (x ++ y) = byteBits x ++ byteBits y :=
  List.flatMap_append

/-- A byte string has eight bits for each of its bytes. -/
@[simp] theorem length_byteBits (x : Bytes) : (byteBits x).length = 8 * x.length := by
  induction x with
  | nil => rfl
  | cons b x ih =>
      rw [byteBits_cons, List.length_append, length_wordBits, ih, List.length_cons]
      omega

/-- Dropping whole bytes drops eight bits for each of them. -/
theorem byteBits_drop (x : Bytes) (i : ℕ) : (byteBits x).drop (8 * i) = byteBits (x.drop i) := by
  induction i generalizing x with
  | zero => rfl
  | succ i ih =>
      cases x with
      | nil => rfl
      | cons b x =>
          rw [byteBits_cons, Nat.mul_succ, Nat.add_comm, ← List.drop_drop,
            List.drop_left' (length_wordBits 8 _), ih, List.drop_succ_cons]

/-! ## Groups -/

/-- The groups of `w` bits; what is left over is dropped. -/
def fullGroups (w : ℕ) (bits : List Bool) : List (List Bool) :=
  if w = 0 ∨ bits.length < w then [] else bits.take w :: fullGroups w (bits.drop w)
termination_by bits.length
decreasing_by
  rw [List.length_drop]
  omega

/-- The groups of `w` bits; the last one is filled with zeros. -/
def paddedGroups (w : ℕ) (bits : List Bool) : List (List Bool) :=
  if w = 0 ∨ bits = [] then []
  else
    (bits.take w ++ List.replicate (w - bits.length) false) :: paddedGroups w (bits.drop w)
termination_by bits.length
decreasing_by
  have := List.length_pos_iff.mpr (not_or.mp ‹_›).2
  rw [List.length_drop]
  omega

variable {w : ℕ} {bits g : List Bool}

/-- Too few bits for a group. -/
theorem fullGroups_of_lt (h : bits.length < w) : fullGroups w bits = [] := by
  rw [fullGroups, if_pos (.inr h)]

/-- A full group in front is the first one. -/
theorem fullGroups_append (hw : 0 < w) (hg : g.length = w) (bits : List Bool) :
    fullGroups w (g ++ bits) = g :: fullGroups w bits := by
  subst hg
  have hlong : ¬(g.length = 0 ∨ (g ++ bits).length < g.length) := by
    rw [List.length_append]
    omega
  rw [fullGroups, if_neg hlong, List.take_left, List.drop_left]

/-- No bits make no group, not even a padded one. -/
theorem paddedGroups_nil : paddedGroups w [] = [] := by
  rw [paddedGroups, if_pos (.inr rfl)]

/-- A full group in front is the first one, and needs no padding. -/
theorem paddedGroups_append (hw : 0 < w) (hg : g.length = w) (bits : List Bool) :
    paddedGroups w (g ++ bits) = g :: paddedGroups w bits := by
  subst hg
  have hne : ¬(g.length = 0 ∨ g ++ bits = []) := by
    rintro (h | h)
    · omega
    · rw [List.append_eq_nil_iff] at h
      rw [h.1] at hw
      exact absurd hw (lt_irrefl 0)
  rw [paddedGroups, if_neg hne, List.take_left, List.drop_left, List.length_append,
    Nat.sub_eq_zero_of_le (Nat.le_add_right _ _), List.replicate_zero, List.append_nil]

/-- Zeros that fill the last group may as well be there. -/
theorem paddedGroups_eq_append_replicate {z : ℕ} (hne : bits ≠ []) (hz : bits.length + z = w) :
    paddedGroups w bits = [bits ++ List.replicate z false] := by
  have hpos := List.length_pos_iff.mpr hne
  have hno : ¬(w = 0 ∨ bits = []) := by
    rintro (h | h)
    · omega
    · exact hne h
  rw [paddedGroups, if_neg hno, List.take_of_length_le (by omega), List.drop_eq_nil_of_le (by omega),
    paddedGroups_nil, show w - bits.length = z by omega]

/-- Every group has `w` bits, the last one with its padding. -/
theorem length_of_mem_paddedGroups (h : g ∈ paddedGroups w bits) : g.length = w := by
  induction hn : bits.length using Nat.strong_induction_on generalizing bits with
  | _ n ih =>
      rw [paddedGroups] at h
      split at h
      · cases h
      · next hno =>
          have hpos := List.length_pos_iff.mpr (not_or.mp hno).2
          rcases List.mem_cons.mp h with rfl | h
          · rw [List.length_append, List.length_take, List.length_replicate]
            omega
          · refine ih _ ?_ h rfl
            rw [List.length_drop]
            omega

/-- The groups are the bits and a few zeros. -/
theorem flatten_paddedGroups (hw : 0 < w) (bits : List Bool) :
    ∃ z < w, (paddedGroups w bits).flatten = bits ++ List.replicate z false := by
  induction hn : bits.length using Nat.strong_induction_on generalizing bits with
  | _ n ih =>
      subst hn
      by_cases hnil : bits = []
      · subst hnil
        exact ⟨0, hw, by rw [paddedGroups_nil]; rfl⟩
      · have hpos := List.length_pos_iff.mpr hnil
        by_cases hlast : bits.length ≤ w
        · refine ⟨w - bits.length, by omega, ?_⟩
          rw [paddedGroups_eq_append_replicate hnil (Nat.add_sub_of_le hlast), List.flatten_singleton]
        · obtain ⟨z, hz, hflat⟩ := ih (bits.drop w).length (by rw [List.length_drop]; omega) _ rfl
          refine ⟨z, hz, ?_⟩
          conv_lhs => rw [← List.take_append_drop w bits]
          rw [paddedGroups_append hw (by rw [List.length_take]; omega), List.flatten_cons, hflat,
            ← List.append_assoc, List.take_append_drop]

/-- The bits as bytes, the last one filled with zeros. -/
def packBits (bits : List Bool) : Bytes := (paddedGroups 8 bits).map fun g => UInt8.ofNat (ofBits g)

/-- The bytes have the bits, and a few zeros. -/
theorem byteBits_packBits (bits : List Bool) :
    ∃ z < 8, byteBits (packBits bits) = bits ++ List.replicate z false := by
  have hgroup : ∀ g ∈ paddedGroups 8 bits, wordBits 8 (UInt8.ofNat (ofBits g)).toNat = g := by
    intro g hg
    have hlen := length_of_mem_paddedGroups hg
    have hlt := ofBits_lt g
    rw [hlen] at hlt
    rw [UInt8.toNat_ofNat', Nat.mod_eq_of_lt hlt, ← hlen, wordBits_ofBits]
  have hflat : byteBits (packBits bits) = (paddedGroups 8 bits).flatten := by
    rw [byteBits, packBits, List.flatMap_map, ← List.flatMap_id]
    exact List.flatMap_congr hgroup
  rw [hflat]
  exact flatten_paddedGroups (by decide) bits

/-- There are as many bytes as the bits fill, and one more at most. -/
theorem length_packBits_le (bits : List Bool) : (packBits bits).length ≤ bits.length / 8 + 1 := by
  obtain ⟨z, hz, hbits⟩ := byteBits_packBits bits
  have hcount := congrArg List.length hbits
  rw [length_byteBits, List.length_append, List.length_replicate] at hcount
  omega

end ConduitStream
