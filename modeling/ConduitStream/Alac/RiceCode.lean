import ConduitStream.Alac.RiceDecode

/-! # The Rice code of a channel

`riceEncode` writes a list of residuals in the code that `entropy_rice_decode` reads. Its parameters are
natural numbers, and its running mean stays within an `int` for the multipliers of a `RiceCode`
(`next_le`, `next_pos`). So the decoder computes the same parameters at every value, without an overflow
and without the undefined `clz` of 0, and returns the residuals (`consumes_riceLoop`). -/

namespace ConduitStream

namespace Alac

/-! ## One value -/

/-- A number in the range of an `int` is stored as it is. -/
theorem int32_of_lt {n : ℤ} (hlo : -2 ^ 31 ≤ n) (hhi : n < 2 ^ 31) : int32 n = n := by
  unfold int32
  apply Int.bmod_eq_of_le <;> omega

/-- So is a natural number below `2 ^ 31`. -/
theorem int32_natCast {n : ℕ} (hn : n < 2 ^ 31) : int32 n = n := int32_of_lt (by omega) (by omega)

/-- A small number read as a signed one. -/
theorem toInt_ofNat {n : ℕ} (hn : n < 2 ^ 31) : (BitVec.ofNat 32 n).toInt = n := by
  have hnat : (BitVec.ofNat 32 n).toNat = n := Nat.mod_eq_of_lt (by omega)
  rw [BitVec.toInt_eq_toNat_of_lt (by omega), hnat]

/-- The mask of the value in full does not cut it. -/
theorem toInt_masked {size v : ℕ} (hsize : size ≤ 31) (hv : v < 2 ^ size) :
    (BitVec.ofNat 32 v &&& (0xffffffff : BitVec 32) >>> (32 - size)).toInt = v := by
  have hpow : 2 ^ size ≤ 2 ^ 31 := Nat.pow_le_pow_right (by decide) hsize
  have hmask : ((0xffffffff : BitVec 32) >>> (32 - size)).toNat = 2 ^ size - 1 := by
    have hsplit : (2 : ℕ) ^ 32 = 2 ^ (32 - size) * 2 ^ size := by
      rw [← Nat.pow_add, Nat.sub_add_cancel (by omega)]
    have hlt : 0 < 2 ^ (32 - size) * 2 ^ size := by rw [← hsplit]; decide
    rw [BitVec.toNat_ushiftRight, Nat.shiftRight_eq_div_pow,
      show (0xffffffff : BitVec 32).toNat = 2 ^ 32 - 1 from rfl, hsplit, Nat.mul_sub_div 0 _ _ hlt,
      Nat.zero_div]
  have hnat : (BitVec.ofNat 32 v &&& (0xffffffff : BitVec 32) >>> (32 - size)).toNat = v := by
    rw [BitVec.toNat_and, BitVec.toNat_ofNat, hmask, Nat.and_two_pow_sub_one_eq_mod,
      Nat.mod_eq_of_lt (show v < 2 ^ 32 by omega), Nat.mod_eq_of_lt hv]
  rw [BitVec.toInt_eq_toNat_of_lt (by omega), hnat]

/-- **A value is read from its Golomb code.** -/
theorem consumes_entropyDecodeValue {size k modulus v : ℕ} {mask : BitVec 32} (hsize : 1 ≤ size)
    (hsize' : size ≤ 31) (hk : 1 ≤ k) (hk' : k ≤ 30)
    (hmodulus : (((1 : BitVec 32) <<< k) - 1 &&& mask).toInt = modulus) (hpos : 1 ≤ modulus)
    (hlt : modulus < 2 ^ k) (hv : v < 2 ^ size) :
    Consumes alacSource (entropyDecodeValue size k mask) (golombCode riceThreshold size k modulus v) v := by
  have hpow : 2 ^ size ≤ 2 ^ 31 := Nat.pow_le_pow_right (by decide) hsize'
  have hpow' : 2 ^ k ≤ 2 ^ 30 := Nat.pow_le_pow_right (by decide) hk'
  unfold golombCode
  by_cases hq : v / modulus ≤ riceThreshold
  · have hdiv := Nat.div_add_mod v modulus
    have hmod := Nat.mod_lt v hpos
    have hfront : ((v / modulus : ℕ) * modulus : ℤ) + (v % modulus : ℕ) = v := by
      rw [mul_comm]
      exact_mod_cast hdiv
    have hint : int32 ((v / modulus : ℕ) * modulus) = (v / modulus : ℕ) * modulus := by
      apply int32_of_lt <;> nlinarith
    rw [if_pos hq, ← List.singleton_append, ← List.append_assoc]
    refine (consumes_unary_lt consumes_readbit (by omega) 0).bind (consumes_ite_neg (by omega) ?_)
    rw [Nat.zero_add]
    by_cases hone : k = 1
    · -- no remainder
      subst hone
      obtain rfl : modulus = 1 := by omega
      rw [Nat.mod_one, Nat.div_one]
      exact consumes_ite_pos rfl (consumes_pure _)
    refine consumes_ite_neg (by omega) (consumes_ite_neg (by omega) ?_)
    simp only [Int.toNat_natCast, hmodulus, hint]
    unfold golombRemainder
    by_cases hzero : v % modulus = 0
    · obtain ⟨j, rfl⟩ : ∃ j, k = j + 1 := ⟨k - 1, by omega⟩
      rw [if_pos hzero, Nat.add_sub_cancel, ← wordBits_zero]
      refine consumes_readbits_unread (by omega) (by omega) 0 ?_
      intro b s
      have hb : b.toNat ≤ 1 := Bool.toNat_le b
      have hextra := @toInt_ofNat (2 * 0 + b.toNat) (by omega)
      have hall : (v : ℤ) = (v / modulus : ℕ) * modulus := by omega
      rw [Nat.zero_mod, if_neg (by omega), hall]
      rfl
    · rw [if_neg hzero]
      have hread := consumes_readbits hk (by omega) (v % modulus + 1)
      rw [Nat.mod_eq_of_lt (show v % modulus + 1 < 2 ^ k by omega)] at hread
      have hextra := toInt_ofNat (show v % modulus + 1 < 2 ^ 31 by omega)
      have hsum : int32 ((v / modulus : ℕ) * modulus +
          ((BitVec.ofNat 32 (v % modulus + 1)).toInt - 1)) = v := by
        rw [hextra, Nat.cast_add, Nat.cast_one, add_sub_cancel_right, hfront]
        exact int32_natCast (hv.trans_le hpow)
      rw [← List.append_nil (wordBits ..)]
      refine hread.bind (consumes_ite_pos (by omega) ?_)
      rw [hsum]
      exact consumes_pure _
  · rw [if_neg hq]
    refine (consumes_unary_eq consumes_readbit (riceThreshold + 1) 0).bind ?_
    refine consumes_ite_pos (by omega) (consumes_ite_neg (by omega) ?_)
    have hval := (consumes_readbits hsize (by omega) v).map
      (f := fun value => (value &&& (0xffffffff : BitVec 32) >>> (32 - size)).toInt)
    rw [Nat.mod_eq_of_lt hv, toInt_masked hsize' hv] at hval
    exact hval

/-! ## The code -/

/-- The parameters of a channel, within the bounds that keep the running mean in an `int`. -/
structure RiceCode where
  size : ℕ
  initial : ℕ
  kmodifier : ℕ
  mult : ℕ
  size_pos : 1 ≤ size
  size_le : size ≤ 24
  initial_pos : 1 ≤ initial
  initial_le : initial ≤ 2 ^ 25
  kmodifier_pos : 1 ≤ kmodifier
  kmodifier_le : kmodifier ≤ 30
  mult_pos : 1 ≤ mult
  mult_le : mult ≤ 63

namespace RiceCode

variable (c : RiceCode)

/-- What the decoder is called with. -/
def args : RiceArgs :=
  ⟨c.size, c.initial, c.kmodifier, c.mult, (1 : BitVec 32) <<< c.kmodifier - 1⟩

/-- The width of a remainder. -/
def width (history : ℕ) : ℕ := min c.kmodifier (Nat.log2 (history / 512 + 3))

/-- The width of a remainder, for the length of a run of zeros. -/
def runWidth (history : ℕ) : ℕ := 7 - Nat.log2 history + (history + 16) / 64

/-- The running mean behind a value. -/
def next (history value : ℕ) : ℕ :=
  if 65535 < value then 65535 else history + value * c.mult - history * c.mult / 512

end RiceCode

/-- A signed number with its sign in the low bit. -/
def zigzag (x : ℤ) : ℕ := if 0 ≤ x then 2 * x.toNat else 2 * (-x).toNat - 1

/-- The code of a list of residuals; `signModifier` is 1 where the next one is known not to be 0. -/
def riceEncode (c : RiceCode) : ℕ → ℕ → List ℤ → List Bool
  | _, _, [] => []
  | history, signModifier, x :: xs =>
      golombCode riceThreshold c.size (c.width history) (2 ^ c.width history - 1)
          (zigzag x - signModifier) ++
        let history := c.next history (zigzag x)
        if history < 128 ∧ 0 < xs.length then
          let run := (xs.takeWhile (· = 0)).length
          golombCode riceThreshold 16 (RiceCode.runWidth history)
            (2 ^ min (RiceCode.runWidth history) c.kmodifier - 1) run
              ++ riceEncode c 0 1 (xs.dropWhile (· = 0))
        else riceEncode c history 0 xs
termination_by _ _ xs => xs.length
decreasing_by
  · exact Nat.lt_succ_of_le (List.dropWhile_sublist _).length_le
  · exact Nat.lt_succ_self _

/-! ## The decoder computes the same parameters -/

/-- Only zero is numbered 0; every other residual has a positive number. -/
theorem zigzag_pos {x : ℤ} (hx : x ≠ 0) : 0 < zigzag x := by
  unfold zigzag
  split <;> omega

/-- **The decoder undoes the numbering** of the residuals by naturals. -/
theorem finalValue_zigzag {x : ℤ} (hx : zigzag x < 2 ^ 31 - 1) : finalValue (zigzag x) = x := by
  have hval : int32 ((zigzag x : ℤ) + 1) = zigzag x + 1 := int32_of_lt (by omega) (by omega)
  unfold finalValue
  rw [hval]
  unfold zigzag
  split
  · rw [if_neg (by omega), Int.tdiv_eq_ediv_of_nonneg (by omega)]
    omega
  · rw [if_pos (by omega), Int.tdiv_eq_ediv_of_nonneg (by omega)]
    omega

/-- The number of leading zeros gives the binary logarithm. -/
theorem countLeadingZeros_natCast {n : ℕ} (hn : 0 < n) :
    countLeadingZeros n = some (31 - (Nat.log2 n : ℤ)) := by
  unfold countLeadingZeros
  rw [if_neg (by omega), if_neg (by omega), Int.toNat_natCast]

variable (c : RiceCode) {history value : ℕ}

/-- The divisor that the decoder takes for a residual has the width of the code. -/
theorem valueK_args (hle : history ≤ 2 ^ 25) : c.args.valueK history = some (c.width history : ℤ) := by
  have hshift : ((history : ℤ) >>> (9 : ℕ) + 3) = ((history / 512 + 3 : ℕ) : ℤ) := by
    rw [Int.shiftRight_eq_div_pow]
    norm_cast
  have hclz := @countLeadingZeros_natCast (history / 512 + 3) (by omega)
  unfold RiceArgs.valueK RiceCode.width
  rw [hshift, int32_natCast (by omega), hclz, Option.bind_eq_bind, Option.bind_some]
  refine congrArg some ?_
  show (if 31 - (c.kmodifier : ℤ) - (31 - (Nat.log2 (history / 512 + 3) : ℤ)) < 0 then _ else _) = _
  split_ifs with hneg
  · show 31 - (c.kmodifier : ℤ) - (31 - (Nat.log2 (history / 512 + 3) : ℤ)) + c.kmodifier = _
    omega
  · show (c.kmodifier : ℤ) = _
    omega

/-- A remainder has at least one bit. -/
theorem width_pos : 1 ≤ c.width history := by
  have hlog : 1 ≤ Nat.log2 (history / 512 + 3) := by
    rw [Nat.le_log2 (by omega)]
    omega
  have hk := c.kmodifier_pos
  unfold RiceCode.width
  omega

/-- A remainder has at most 30 bits. -/
theorem width_le : c.width history ≤ 30 := (Nat.min_le_left _ _).trans c.kmodifier_le

/-- The logarithm of a mean below the threshold of a zero run. -/
theorem log2_lt_seven (hlt : history < 128) : Nat.log2 history < 7 := by
  by_cases hzero : history = 0
  · subst hzero
    decide
  · exact (Nat.log2_lt hzero).mpr hlt

/-- The divisor that the decoder takes for a zero run has the width of the code. -/
theorem blockK_natCast (hpos : 0 < history) (hlt : history < 128) :
    blockK history = some (RiceCode.runWidth history : ℤ) := by
  have hlog := log2_lt_seven hlt
  unfold blockK RiceCode.runWidth
  rw [countLeadingZeros_natCast hpos, Option.bind_eq_bind, Option.bind_some,
    Int.tdiv_eq_ediv_of_nonneg (by omega)]
  congr 1
  omega

/-- A zero run has at least one remainder bit. -/
theorem runWidth_pos (hlt : history < 128) : 1 ≤ RiceCode.runWidth history := by
  have hlog := log2_lt_seven hlt
  unfold RiceCode.runWidth
  omega

/-- And at most 30 of them. -/
theorem runWidth_le (hlt : history < 128) : RiceCode.runWidth history ≤ 30 := by
  unfold RiceCode.runWidth
  omega

/-- What leaks of the mean is less than the mean. -/
theorem leak_lt (hpos : 0 < history) : history * c.mult / 512 < history := by
  have hmult' := c.mult_le
  rw [Nat.div_lt_iff_lt_mul (by decide)]
  exact Nat.mul_lt_mul_of_pos_left (by omega) hpos

/-- What leaks out of the mean is part of it. -/
theorem leak_le (history : ℕ) : history * c.mult / 512 ≤ history := by
  rcases Nat.eq_zero_or_pos history with rfl | hpos
  · rw [Nat.zero_mul]
  · exact (leak_lt c hpos).le

/-- **The mean stays at most `2 ^ 25`**, since what leaks then is as much as the largest value adds. -/
theorem next_le (hle : history ≤ 2 ^ 25) : c.next history value ≤ 2 ^ 25 := by
  have hmult := c.mult_pos
  have hmult' := c.mult_le
  have hleak := leak_le c history
  unfold RiceCode.next
  split
  · omega
  · have hbelow : 512 * history + 2 ^ 25 * c.mult ≤ 512 * 2 ^ 25 + history * c.mult := by
      obtain ⟨gap, hgap⟩ := Nat.exists_eq_add_of_le hle
      rw [hgap]
      nlinarith
    have hadded : value * c.mult ≤ 65535 * c.mult := Nat.mul_le_mul_right _ (by omega)
    omega

/-- It is positive behind a value that is not 0, and where it has been positive. -/
theorem next_pos (hpos : 0 < history ∨ 0 < value) : 0 < c.next history value := by
  have hmult := c.mult_pos
  have hleak := leak_le c history
  unfold RiceCode.next
  split
  · omega
  · rcases hpos with hpos | hpos
    · have hlt := leak_lt c hpos
      omega
    · have hadded : 0 < value * c.mult := Nat.mul_pos hpos hmult
      omega

/-- The decoder computes the same mean, without an overflow. -/
theorem nextHistory_args (hle : history ≤ 2 ^ 25) (hv : value < 2 ^ 24) :
    c.args.nextHistory history value = c.next history value := by
  have hmult' := c.mult_le
  have hleak := leak_le c history
  have hproduct : history * c.mult ≤ 2 ^ 25 * 63 := Nat.mul_le_mul hle hmult'
  have hadded : value * c.mult ≤ 2 ^ 24 * 63 := Nat.mul_le_mul hv.le hmult'
  have hmul : int32 ((history : ℤ) * c.mult) >>> (9 : ℕ) = ((history * c.mult / 512 : ℕ) : ℤ) := by
    rw [← Nat.cast_mul, int32_natCast (by omega), Int.shiftRight_eq_div_pow]
    norm_cast
  have hsum : (history : ℤ) + (value * c.mult - ((history * c.mult / 512 : ℕ) : ℤ))
      = ((history + value * c.mult - history * c.mult / 512 : ℕ) : ℤ) := by
    rw [← Nat.cast_mul value]
    omega
  unfold RiceArgs.nextHistory RiceCode.next
  by_cases hlarge : 65535 < value
  · rw [if_pos (by omega), if_pos hlarge]
    rfl
  · rw [if_neg (by omega), if_neg hlarge]
    show int32 (history + (value * c.mult - int32 (history * c.mult) >>> (9 : ℕ))) = _
    rw [hmul, hsum, int32_natCast (by omega)]

/-! ## The round trip -/

/-- A word of `k` ones is the number `2 ^ k - 1`. -/
theorem toNat_ones {k : ℕ} (hk : k ≤ 30) : ((1 : BitVec 32) <<< k - 1).toNat = 2 ^ k - 1 := by
  have hpow : 2 ^ k ≤ 2 ^ 30 := Nat.pow_le_pow_right (by decide) hk
  have hpos := Nat.two_pow_pos k
  have hshift : ((1 : BitVec 32) <<< k).toNat = 2 ^ k := by
    rw [BitVec.toNat_shiftLeft, Nat.shiftLeft_eq, show (1 : BitVec 32).toNat = 1 from rfl, Nat.one_mul,
      Nat.mod_eq_of_lt (by omega)]
  rw [BitVec.toNat_sub_of_le, hshift]
  · rfl
  · rw [BitVec.le_def, hshift]
    exact hpos

/-- The number of `k` ones has `k` bits. -/
theorem ones_lt (k : ℕ) : 2 ^ k - 1 < 2 ^ k := Nat.sub_lt (Nat.two_pow_pos k) Nat.one_pos

/-- A word of at most `k` ones is below `2 ^ k`. -/
theorem ones_min_lt (k j : ℕ) : 2 ^ min k j - 1 < 2 ^ k :=
  (ones_lt _).trans_le (Nat.pow_le_pow_right (by decide) (Nat.min_le_left k j))

/-- It is positive, if there is a bit. -/
theorem one_le_ones {k : ℕ} (hk : 1 ≤ k) : 1 ≤ 2 ^ k - 1 := by
  have hpow : 2 ^ 1 ≤ 2 ^ k := Nat.pow_le_pow_right (by decide) hk
  omega

/-- The factor of a quotient, cut by a mask. -/
theorem toInt_ones_and {k j : ℕ} (hk : k ≤ 30) (hj : j ≤ 30) :
    (((1 : BitVec 32) <<< k - 1) &&& ((1 : BitVec 32) <<< j - 1)).toInt = ((2 ^ min k j - 1 : ℕ) : ℤ) := by
  have hpow : 2 ^ min k j ≤ 2 ^ 30 := Nat.pow_le_pow_right (by decide) (by omega)
  have hnat : (((1 : BitVec 32) <<< k - 1) &&& ((1 : BitVec 32) <<< j - 1)).toNat = 2 ^ min k j - 1 := by
    rw [BitVec.toNat_and, toNat_ones hk, toNat_ones hj]
    rcases le_total k j with hle | hle
    · have hmono : 2 ^ k ≤ 2 ^ j := Nat.pow_le_pow_right (by decide) hle
      rw [Nat.min_eq_left hle, Nat.and_two_pow_sub_one_of_lt_two_pow ((ones_lt k).trans_le hmono)]
    · have hmono : 2 ^ j ≤ 2 ^ k := Nat.pow_le_pow_right (by decide) hle
      rw [Nat.min_eq_right hle, Nat.and_comm,
        Nat.and_two_pow_sub_one_of_lt_two_pow ((ones_lt j).trans_le hmono)]
  rw [BitVec.toInt_eq_toNat_of_lt (by omega), hnat]

/-- The mask, taken of all bits, is the number of `k` ones. -/
theorem toInt_ones {k : ℕ} (hk : k ≤ 30) :
    (((1 : BitVec 32) <<< k - 1) &&& (-1 : BitVec 32)).toInt = ((2 ^ k - 1 : ℕ) : ℤ) := by
  have hall : (-1 : BitVec 32) = BitVec.allOnes 32 := by decide
  have hand := toInt_ones_and hk hk
  rwa [BitVec.and_self, Nat.min_self, ← BitVec.and_allOnes (x := (1 : BitVec 32) <<< k - 1), ← hall] at hand

/-- A list is its zeros in front, and the rest. -/
theorem run_append (xs : List ℤ) :
    List.replicate (xs.takeWhile (· = 0)).length 0 ++ xs.dropWhile (· = 0) = xs := by
  have hzeros : xs.takeWhile (· = 0) = List.replicate (xs.takeWhile (· = 0)).length 0 := by
    rw [List.eq_replicate_iff]
    refine ⟨rfl, fun x hx => ?_⟩
    have hzero := List.mem_takeWhile_imp hx
    exact of_decide_eq_true hzero
  rw [← hzeros, List.takeWhile_append_dropWhile]

/-- Behind the zeros comes something else. -/
theorem ne_of_mem_head?_dropWhile {xs : List ℤ} : ∀ x ∈ (xs.dropWhile (· = 0)).head?, x ≠ 0 := by
  intro x hx hzero
  have hhead := List.head?_dropWhile_not (fun x : ℤ => decide (x = 0)) xs
  rw [Option.mem_def.mp hx] at hhead
  exact absurd hzero (of_decide_eq_false (by simpa using hhead))

/-- **`entropy_rice_decode` returns the residuals** from their code. -/
theorem consumes_riceLoop {signModifier : ℕ} {xs : List ℤ} (hvals : ∀ x ∈ xs, zigzag x < 2 ^ c.size)
    (hlen : xs.length ≤ 65536) (hle : history ≤ 2 ^ 25)
    (hinv : (history = 0 ∧ signModifier = 1 ∧ ∀ x ∈ xs.head?, x ≠ 0) ∨
      (0 < history ∧ signModifier = 0)) :
    Consumes alacSource (riceLoop c.args xs.length history signModifier)
      (riceEncode c history signModifier xs) xs := by
  induction hn : xs.length using Nat.strong_induction_on generalizing history signModifier xs with
  | _ n ih =>
      subst hn
      cases xs with
      | nil =>
          rw [List.length_nil, riceLoop, riceEncode]
          exact consumes_pure []
      | cons x xs =>
          have hx := hvals x List.mem_cons_self
          have hpow : 2 ^ c.size ≤ 2 ^ 24 := Nat.pow_le_pow_right (by decide) c.size_le
          rw [List.length_cons] at hlen
          have hsign : signModifier ≤ zigzag x ∧ (0 < history ∨ 0 < zigzag x) := by
            rcases hinv with ⟨-, rfl, hne⟩ | ⟨hpos, rfl⟩
            · have hpos := zigzag_pos (hne x rfl)
              exact ⟨hpos, .inr hpos⟩
            · exact ⟨Nat.zero_le _, .inl hpos⟩
          have hmean : c.next history (zigzag x) ≤ 2 ^ 25 := next_le c hle
          have hmean' := next_pos c hsign.2
          have hvalue := @consumes_entropyDecodeValue c.size (c.width history) _ (zigzag x - signModifier)
            (-1) c.size_pos (by have := c.size_le; omega) (width_pos c) (width_le c)
            (toInt_ones (width_le c)) (one_le_ones (width_pos c)) (ones_lt _) (by omega)
          have hdecoded : int32 (((zigzag x - signModifier : ℕ) : ℤ) + signModifier) = zigzag x := by
            rw [← Nat.cast_add, Nat.sub_add_cancel hsign.1]
            exact int32_natCast (by omega)
          rw [List.length_cons, riceLoop, riceEncode]
          refine (consumes_lift (valueK_args c hle)).bind (hvalue.bind ?_)
          simp only [hdecoded, nextHistory_args c hle (hx.trans_le hpow),
            finalValue_zigzag (x := x) (by omega)]
          by_cases hlow : c.next history (zigzag x) < 128 ∧ 0 < xs.length
          · -- the zeros that follow
            rw [if_pos (by exact_mod_cast hlow), if_pos hlow]
            have hrun := run_append xs
            have hcount := congrArg List.length hrun
            rw [List.length_append, List.length_replicate] at hcount
            have hblock := @consumes_entropyDecodeValue 16 _ _ (xs.takeWhile (· = 0)).length
              c.args.kmodifierMask (by decide) (by decide) (runWidth_pos hlow.1)
              (runWidth_le hlow.1) (toInt_ones_and (runWidth_le hlow.1) c.kmodifier_le)
              (one_le_ones (le_min (runWidth_pos hlow.1) c.kmodifier_pos)) (ones_min_lt _ _) (by omega)
            have hrest := ih (xs.dropWhile (· = 0)).length (by rw [List.length_cons]; omega)
              (fun y hy => hvals y (List.mem_cons_of_mem _ ((List.dropWhile_sublist _).subset hy)))
              (by omega) (Nat.zero_le _) (.inl ⟨rfl, rfl, ne_of_mem_head?_dropWhile⟩) rfl
            have hafter : xs.length - (((xs.takeWhile (· = 0)).length : ℕ) : ℤ).toNat
                = (xs.dropWhile (· = 0)).length := by omega
            have hall := hrest.bind_pure (f := fun rest =>
              x :: (List.replicate (xs.takeWhile (· = 0)).length 0 ++ rest))
            rw [hrun] at hall
            refine (consumes_lift (blockK_natCast hmean' hlow.1)).bind (hblock.bind ?_)
            rw [hafter, if_neg (by omega)]
            exact hall
          · rw [if_neg (by exact_mod_cast hlow), if_neg hlow]
            have hrest := ih xs.length (Nat.lt_succ_self _) (fun y hy => hvals y (List.mem_cons_of_mem _ hy))
              (by omega) hmean (.inr ⟨hmean', rfl⟩) rfl
            exact hrest.bind_pure

/-- **A channel is decoded from its code**: for every `RiceCode` (`size` up to 24, `kmodifier` from 1 to 30,
`mult` from 1 to 63) and every list of up to 65536 residuals of this size, whatever is in the output buffer
and whatever the three or more bytes behind the code are, the decoder overwrites the front of the buffer by
the residuals. -/
theorem entropyRiceDecode_riceEncode {xs : List ℤ} (hvals : ∀ x ∈ xs, zigzag x < 2 ^ c.size)
    (hlen : xs.length ≤ 65536) {outputBuffer : List ℤ} (hroom : xs.length ≤ outputBuffer.length)
    {behind : Bytes} (hbehind : 3 ≤ behind.length) :
    (entropyRiceDecode c.args outputBuffer xs.length).run'
        ⟨packBits (riceEncode c c.initial 0 xs) ++ behind, 0, 0⟩
      = some (xs ++ outputBuffer.drop xs.length) := by
  have hread := consumes_riceLoop c hvals hlen c.initial_le (.inr ⟨c.initial_pos, rfl⟩)
  have hstore : storeRange outputBuffer 0 xs = some (xs ++ outputBuffer.drop xs.length) := by
    rw [storeRange_of_le (by omega), Nat.zero_add, List.take_zero, List.nil_append]
  have hdecode : Consumes alacSource (entropyRiceDecode c.args outputBuffer xs.length)
      (riceEncode c c.initial 0 xs) (xs ++ outputBuffer.drop xs.length) := by
    unfold entropyRiceDecode
    rw [Int.toNat_natCast, ← List.append_nil (riceEncode ..)]
    exact hread.bind (consumes_lift hstore)
  rw [StateT.run'_eq, hdecode.run_packed hbehind]
  rfl

/-- The code of a usual session, for 17 bits. -/
def riceCode17 : RiceCode :=
  ⟨17, 10, 14, 40, by decide, by decide, by decide, by decide, by decide, by decide, by decide, by decide⟩

/-- Residuals with a run of zeros, and one that is escaped. -/
theorem entropyRiceDecode_riceEncode_run :
    (entropyRiceDecode riceCode17.args (List.replicate 9 7) ([3, 0, 0, 0, 0, -65000] : List ℤ).length).run'
        ⟨packBits (riceEncode riceCode17 riceCode17.initial 0 [3, 0, 0, 0, 0, -65000]) ++ [1, 2, 3], 0, 0⟩
      = some ([3, 0, 0, 0, 0, -65000] ++ (List.replicate 9 7).drop 6) :=
  @entropyRiceDecode_riceEncode riceCode17 [3, 0, 0, 0, 0, -65000] (by decide) (by decide)
    (List.replicate 9 7) (by decide) [1, 2, 3] (by decide)

end Alac

end ConduitStream
