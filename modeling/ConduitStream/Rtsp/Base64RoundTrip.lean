import ConduitStream.Foundations.BitGroups
import ConduitStream.Rtsp.Base64

/-! # The base64 text of a byte string

`base64Text` is the text of RFC 4648: the bits of the string in groups of six, the last one filled
with zeros, a letter for each, and padding to a multiple of four letters. `base64_encode` writes this
text (`base64EncodeLoop_eq`). `base64_decode` writes the full bytes among the bits of the letters it
reads (`base64DecodeLoop_eq`): the accumulator holds the bits that are not written yet in its low
part, whatever has been shifted out of its 32 bits. -/

namespace ConduitStream

/-! ## The text -/

/-- The letter of a 6-bit value. -/
def base64Letter (v : ℕ) : UInt8 :=
  if v < 26 then UInt8.ofNat (0x41 + v)
  else if v < 52 then UInt8.ofNat (0x61 + (v - 26))
  else if v < 62 then UInt8.ofNat (0x30 + (v - 52))
  else if v = 62 then 0x2b
  else 0x2f

/-- The letters of a byte string. -/
def base64Letters (x : Bytes) : Bytes :=
  (paddedGroups 6 (byteBits x)).map fun g => base64Letter (ofBits g)

/-- The text of a byte string: its letters, and padding. -/
def base64Text (x : Bytes) : Bytes :=
  base64Letters x ++ List.replicate ((4 - (base64Letters x).length % 4) % 4) 0x3d

/-- The table of the encoder has the letters. -/
theorem encChar_eq (n : BitVec 32) (k : ℕ) :
    encChar n k = base64Letter (n.toNat / 2 ^ k % 2 ^ 6) := by
  have htable : ∀ v : Fin 64, kEnc.getD v.val 0 = base64Letter v.val := by decide +kernel
  have hval : (n >>> k &&& 63).toNat = n.toNat / 2 ^ k % 2 ^ 6 := by
    rw [BitVec.toNat_and, BitVec.toNat_ushiftRight, Nat.shiftRight_eq_div_pow]
    exact Nat.and_two_pow_sub_one_eq_mod _ 6
  rw [encChar, hval]
  exact htable ⟨n.toNat / 2 ^ k % 2 ^ 6, Nat.mod_lt _ (by decide)⟩

/-- Three bytes of 8 bits are four letters of 6 bits. -/
theorem byteBits_three (a b c : UInt8) (x : Bytes) :
    let n := (a.toNat * 2 ^ 8 + b.toNat) * 2 ^ 8 + c.toNat
    byteBits (a :: b :: c :: x) = wordBits 6 (n / 2 ^ 18) ++ (wordBits 6 (n / 2 ^ 12) ++
      (wordBits 6 (n / 2 ^ 6) ++ (wordBits 6 n ++ byteBits x))) := by
  intro n
  have hn : wordBits 24 n = wordBits 8 a.toNat ++ (wordBits 8 b.toNat ++ wordBits 8 c.toNat) := by
    rw [← List.append_assoc, wordBits_append b.toNat_lt, wordBits_append c.toNat_lt]
  have hsplit : wordBits 24 n = wordBits 6 (n / 2 ^ 18) ++ (wordBits 6 (n / 2 ^ 12) ++
      (wordBits 6 (n / 2 ^ 6) ++ wordBits 6 n)) := by
    rw [wordBits_add 6 18, wordBits_add 6 12, wordBits_add 6 6]
  have hthree : byteBits (a :: b :: c :: x) = wordBits 24 n ++ byteBits x := by
    rw [hn]
    simp [byteBits]
  rw [hthree, hsplit]
  simp only [List.append_assoc]

/-- Letters of whole groups of bits. -/
theorem letters_append (n : ℕ) (bits : List Bool) :
    (paddedGroups 6 (wordBits 6 n ++ bits)).map (fun g => base64Letter (ofBits g))
      = base64Letter (n % 2 ^ 6) :: (paddedGroups 6 bits).map fun g => base64Letter (ofBits g) := by
  rw [paddedGroups_append (by decide) (length_wordBits 6 n), List.map_cons, ofBits_wordBits]

/-- Three bytes are spelled by four letters of six bits each. -/
theorem base64Letters_three (a b c : UInt8) (x : Bytes) :
    let n := (a.toNat * 2 ^ 8 + b.toNat) * 2 ^ 8 + c.toNat
    base64Letters (a :: b :: c :: x) =
      base64Letter (n / 2 ^ 18 % 2 ^ 6) :: base64Letter (n / 2 ^ 12 % 2 ^ 6) ::
        base64Letter (n / 2 ^ 6 % 2 ^ 6) :: base64Letter (n % 2 ^ 6) :: base64Letters x := by
  intro n
  rw [base64Letters, byteBits_three, letters_append, letters_append, letters_append, letters_append]
  rfl

/-- Two bytes are two letters and four bits. -/
theorem base64Letters_two (a b : UInt8) :
    let n := a.toNat * 2 ^ 8 + b.toNat
    base64Letters [a, b] = [base64Letter (n / 2 ^ 10 % 2 ^ 6), base64Letter (n / 2 ^ 4 % 2 ^ 6),
      base64Letter (n * 2 ^ 2 % 2 ^ 6)] := by
  intro n
  have hn : byteBits [a, b] = wordBits 16 n := by
    rw [← wordBits_append (m := 8) (k := 8) b.toNat_lt]
    simp [byteBits]
  have hsplit : wordBits 16 n
      = wordBits 6 (n / 2 ^ 10) ++ (wordBits 6 (n / 2 ^ 4) ++ wordBits 4 n) := by
    rw [wordBits_add 6 10, wordBits_add 6 4]
  have hlast : ofBits (wordBits 4 n ++ List.replicate 2 false) = n * 2 ^ 2 % 2 ^ 6 := by
    have hz : ofBits (List.replicate 2 false) = 0 := rfl
    rw [ofBits_append, ofBits_wordBits, hz, List.length_replicate]
    omega
  rw [base64Letters, hn, hsplit, letters_append, letters_append,
    paddedGroups_eq_append_replicate (z := 2) (by simp [wordBits]) (by rw [length_wordBits]),
    List.map_singleton, hlast]

/-- One byte is one letter and two bits. -/
theorem base64Letters_one (a : UInt8) :
    base64Letters [a] = [base64Letter (a.toNat / 2 ^ 2 % 2 ^ 6),
      base64Letter (a.toNat * 2 ^ 4 % 2 ^ 6)] := by
  have hn : byteBits [a] = wordBits 6 (a.toNat / 2 ^ 2) ++ wordBits 2 a.toNat := by
    rw [← wordBits_add 6 2]
    simp [byteBits]
  have hlast : ofBits (wordBits 2 a.toNat ++ List.replicate 4 false) = a.toNat * 2 ^ 4 % 2 ^ 6 := by
    have hz : ofBits (List.replicate 4 false) = 0 := rfl
    rw [ofBits_append, ofBits_wordBits, hz, List.length_replicate]
    omega
  rw [base64Letters, hn, letters_append,
    paddedGroups_eq_append_replicate (z := 4) (by simp [wordBits]) (by rw [length_wordBits]),
    List.map_singleton, hlast]

/-! ## The encoder writes the text -/

/-- Three bytes at the front are four letters at the front. -/
theorem base64Text_three (a b c : UInt8) (x : Bytes) :
    let n := (a.toNat * 2 ^ 8 + b.toNat) * 2 ^ 8 + c.toNat
    base64Text (a :: b :: c :: x) =
      [base64Letter (n / 2 ^ 18 % 2 ^ 6), base64Letter (n / 2 ^ 12 % 2 ^ 6),
        base64Letter (n / 2 ^ 6 % 2 ^ 6), base64Letter (n % 2 ^ 6)] ++ base64Text x := by
  intro n
  rw [base64Text, base64Letters_three, base64Text]
  simp only [List.length_cons, List.cons_append, List.nil_append, Nat.add_assoc, Nat.reduceAdd,
    Nat.add_mod_right]
  rfl

/-- Two bytes at the end are three letters and a pad. -/
theorem base64Text_two (a b : UInt8) :
    let n := a.toNat * 2 ^ 8 + b.toNat
    base64Text [a, b] = [base64Letter (n / 2 ^ 10 % 2 ^ 6), base64Letter (n / 2 ^ 4 % 2 ^ 6),
      base64Letter (n * 2 ^ 2 % 2 ^ 6), 0x3d] := by
  intro n
  rw [base64Text, base64Letters_two]
  rfl

/-- One byte at the end is two letters and two pads. -/
theorem base64Text_one (a : UInt8) :
    base64Text [a] = [base64Letter (a.toNat / 2 ^ 2 % 2 ^ 6),
      base64Letter (a.toNat * 2 ^ 4 % 2 ^ 6), 0x3d, 0x3d] := by
  rw [base64Text, base64Letters_one]
  rfl

/-- The empty byte string has the empty text. -/
theorem base64Text_nil : base64Text [] = [] := by
  rw [base64Text, base64Letters, byteBits, List.flatMap_nil, paddedGroups_nil]
  rfl

/-- Three bytes in a 32-bit word. -/
theorem toNat_threeBytes (a b c : UInt8) :
    (a.toBitVec.setWidth 32 <<< 16 ||| b.toBitVec.setWidth 32 <<< 8 |||
      c.toBitVec.setWidth 32 : BitVec 32).toNat = (a.toNat * 2 ^ 8 + b.toNat) * 2 ^ 8 + c.toNat := by
  have ha := a.toNat_lt
  have hb := b.toNat_lt
  have hc := c.toNat_lt
  have hor := shiftLeft_or_bytes (a := 0) ha hb hc
  rw [Nat.zero_shiftLeft, Nat.zero_or] at hor
  have hwa : (a.toBitVec.setWidth 32 <<< 16).toNat = a.toNat <<< 16 := by
    rw [BitVec.toNat_shiftLeft, BitVec.toNat_setWidth, UInt8.toNat_toBitVec, Nat.mod_eq_of_lt,
      Nat.mod_eq_of_lt (by omega)]
    rw [Nat.mod_eq_of_lt (by omega), Nat.shiftLeft_eq]
    omega
  have hwb : (b.toBitVec.setWidth 32 <<< 8).toNat = b.toNat <<< 8 := by
    rw [BitVec.toNat_shiftLeft, BitVec.toNat_setWidth, UInt8.toNat_toBitVec, Nat.mod_eq_of_lt,
      Nat.mod_eq_of_lt (by omega)]
    rw [Nat.mod_eq_of_lt (by omega), Nat.shiftLeft_eq]
    omega
  rw [BitVec.toNat_or, BitVec.toNat_or, hwa, hwb, BitVec.toNat_setWidth, UInt8.toNat_toBitVec,
    Nat.mod_eq_of_lt (by omega), hor]
  omega

/-- **The encoder writes the text** of its bytes behind what it has written. -/
theorem base64EncodeLoop_eq (out inp : Bytes) :
    base64EncodeLoop out inp = out ++ base64Text inp := by
  fun_induction base64EncodeLoop out inp with
  | case1 out a b c inp n ih =>
      rw [ih, base64Text_three, encChar_eq, encChar_eq, encChar_eq, encChar_eq, toNat_threeBytes,
        pow_zero, Nat.div_one, List.append_assoc]
  -- the words of the two short groups are those of three bytes with zeros behind
  | case2 out a b n =>
      have hn : n.toNat = (a.toNat * 2 ^ 8 + b.toNat) * 2 ^ 8 := by
        have h := toNat_threeBytes a b 0
        rw [show (0 : UInt8).toNat = 0 from rfl, Nat.add_zero] at h
        rw [← h]
        simp [n]
      rw [base64Text_two, encChar_eq, encChar_eq, encChar_eq, hn,
        show (a.toNat * 2 ^ 8 + b.toNat) * 2 ^ 8 / 2 ^ 18 % 2 ^ 6
          = (a.toNat * 2 ^ 8 + b.toNat) / 2 ^ 10 % 2 ^ 6 by omega,
        show (a.toNat * 2 ^ 8 + b.toNat) * 2 ^ 8 / 2 ^ 12 % 2 ^ 6
          = (a.toNat * 2 ^ 8 + b.toNat) / 2 ^ 4 % 2 ^ 6 by omega,
        show (a.toNat * 2 ^ 8 + b.toNat) * 2 ^ 8 / 2 ^ 6 % 2 ^ 6
          = (a.toNat * 2 ^ 8 + b.toNat) * 2 ^ 2 % 2 ^ 6 by omega]
  | case3 out a n =>
      have hn : n.toNat = a.toNat * 2 ^ 16 := by
        have h := toNat_threeBytes a 0 0
        rw [show (0 : UInt8).toNat = 0 from rfl, Nat.add_zero, Nat.add_zero] at h
        rw [show a.toNat * 2 ^ 16 = a.toNat * 2 ^ 8 * 2 ^ 8 by omega, ← h]
        simp [n]
      rw [base64Text_one, encChar_eq, encChar_eq, hn,
        show a.toNat * 2 ^ 16 / 2 ^ 18 % 2 ^ 6 = a.toNat / 2 ^ 2 % 2 ^ 6 by omega,
        show a.toNat * 2 ^ 16 / 2 ^ 12 % 2 ^ 6 = a.toNat * 2 ^ 4 % 2 ^ 6 by omega]
  | case4 out => rw [base64Text_nil, List.append_nil]

/-- The size the encoder asks for is that of the text and a NUL. -/
theorem length_base64Text (x : Bytes) : (base64Text x).length + 1 = base64EncodedSize x.length := by
  induction hn : x.length using Nat.strong_induction_on generalizing x with
  | _ n ih =>
      match x with
      | [] =>
          subst hn
          rw [base64Text_nil]
          rfl
      | [a] =>
          subst hn
          rw [base64Text_one]
          simp [base64EncodedSize]
      | [a, b] =>
          subst hn
          rw [base64Text_two]
          simp [base64EncodedSize]
      | a :: b :: c :: x =>
          have hlen : x.length + 3 = n := hn
          have hrest := ih x.length (by omega) x rfl
          rw [base64Text_three, List.length_append, Nat.add_assoc, hrest, base64EncodedSize,
            base64EncodedSize, List.length_cons, List.length_cons, List.length_cons, List.length_cons,
            List.length_nil]
          omega

/-! ## The decoder writes the full bytes -/

/-- The white space the decoder skips. -/
def isBase64Blank (c : UInt8) : Bool := c = 0x0d ∨ c = 0x0a ∨ c = 0x20 ∨ c = 0x09

/-- The bits of the letters in front of the padding. -/
def symbolBits : Bytes → List Bool
  | [] => []
  | c :: cs =>
      if c = 0x3d then []
      else
        match decVal c with
        | none => symbolBits cs
        | some v => wordBits 6 v.toNat ++ symbolBits cs

/-- The full bytes among the bits. -/
def bytesOf (bits : List Bool) : Bytes := (fullGroups 8 bits).map fun g => UInt8.ofNat (ofBits g)

/-- What is written of `out` to an array of `outCap` bytes, and the result. -/
def cutAt (outCap : ℕ) (out : Bytes) : Bytes × ℤ :=
  if out.length ≤ outCap then (out, out.length) else (out.take outCap, -1)

/-- A letter stands for six bits. -/
theorem decVal_lt {c : UInt8} {v : BitVec 32} (h : decVal c = some v) : v.toNat < 2 ^ 6 := by
  have hall : ∀ n : Fin 256, (decVal (UInt8.ofNat n.val)).all (fun w => w.toNat < 2 ^ 6) = true := by
    decide +kernel
  have hc := hall ⟨c.toNat, c.toNat_lt⟩
  rw [UInt8.ofNat_toNat, h, Option.all_some, decide_eq_true_eq] at hc
  exact hc

/-- White space stands for nothing, and is no pad. -/
theorem decVal_blank {c : UInt8} (h : isBase64Blank c = true) : decVal c = none ∧ c ≠ 0x3d := by
  have hc : c = 0x0d ∨ c = 0x0a ∨ c = 0x20 ∨ c = 0x09 := by simpa [isBase64Blank] using h
  rcases hc with rfl | rfl | rfl | rfl <;> decide

/-- The decoder reads each letter back as its six bits. -/
theorem decVal_letter {v : ℕ} (hv : v < 2 ^ 6) :
    (∃ w, decVal (base64Letter v) = some w ∧ w.toNat = v) ∧ base64Letter v ≠ 0x3d := by
  have hall : ∀ v : Fin 64, decVal (base64Letter v.val) = some (BitVec.ofNat 32 v.val) ∧
      base64Letter v.val ≠ 0x3d := by decide
  obtain ⟨hval, hpad⟩ := hall ⟨v, hv⟩
  refine ⟨⟨_, hval, ?_⟩, hpad⟩
  rw [BitVec.toNat_ofNat]
  exact Nat.mod_eq_of_lt (by omega)

/-- Six more bits in the low part of the accumulator; what leaves its 32 bits is not looked at. -/
theorem toNat_shiftIn (acc v : BitVec 32) (hv : v.toNat < 2 ^ 6) {nbits : ℕ} (hn : nbits < 8) :
    (acc <<< 6 ||| v).toNat % 2 ^ (nbits + 6) = acc.toNat % 2 ^ nbits * 2 ^ 6 + v.toNat := by
  have hshift : (acc <<< 6).toNat = (acc.toNat % 2 ^ 26) <<< 6 := by
    rw [BitVec.toNat_shiftLeft, Nat.shiftLeft_eq, Nat.shiftLeft_eq]
    omega
  have hmod : acc.toNat % 2 ^ 26 % 2 ^ nbits = acc.toNat % 2 ^ nbits :=
    Nat.mod_mod_of_dvd _ (Nat.pow_dvd_pow 2 (by omega))
  rw [BitVec.toNat_or, hshift, ← Nat.shiftLeft_add_eq_or_of_lt hv, Nat.shiftLeft_eq, ← hmod]
  generalize acc.toNat % 2 ^ 26 = a
  have hlt : a % 2 ^ nbits * 2 ^ 6 + v.toNat < 2 ^ nbits * 2 ^ 6 := by
    have := Nat.mod_lt a (Nat.two_pow_pos nbits)
    omega
  have hsplit : a * 2 ^ 6 + v.toNat
      = 2 ^ nbits * 2 ^ 6 * (a / 2 ^ nbits) + (a % 2 ^ nbits * 2 ^ 6 + v.toNat) := by
    conv_lhs => rw [← Nat.div_add_mod a (2 ^ nbits)]
    ring
  rw [pow_add, hsplit, Nat.mul_add_mod, Nat.mod_eq_of_lt hlt]

/-- Fewer than eight bits are no byte. -/
theorem bytesOf_of_lt {bits : List Bool} (h : bits.length < 8) : bytesOf bits = [] := by
  rw [bytesOf, fullGroups_of_lt h, List.map_nil]

/-- The first eight bits are the first byte. -/
theorem bytesOf_append {g : List Bool} (hg : g.length = 8) (bits : List Bool) :
    bytesOf (g ++ bits) = UInt8.ofNat (ofBits g) :: bytesOf bits := by
  rw [bytesOf, fullGroups_append (by decide) hg, List.map_cons]
  rfl

/-- A byte is taken from the accumulator, and the bits behind it stay. -/
theorem byteOf_acc {acc : BitVec 32} {g bits : List Bool} (hg : g.length = 8)
    (hacc : acc.toNat % 2 ^ (g ++ bits).length = ofBits (g ++ bits)) :
    (⟨(acc >>> bits.length).setWidth 8⟩ : UInt8) = UInt8.ofNat (ofBits g) ∧
      acc.toNat % 2 ^ bits.length = ofBits bits := by
  obtain ⟨hdiv, hmod⟩ := ofBits_div_mod g bits
  have hpow : 2 ^ (g ++ bits).length = 2 ^ bits.length * 2 ^ 8 := by
    rw [List.length_append, hg, pow_add, Nat.mul_comm]
  rw [hpow] at hacc
  constructor
  · have hbyte : (⟨(acc >>> bits.length).setWidth 8⟩ : UInt8).toNat
        = acc.toNat / 2 ^ bits.length % 2 ^ 8 := by
      rw [UInt8.toNat, BitVec.toNat_setWidth, BitVec.toNat_ushiftRight, Nat.shiftRight_eq_div_pow]
    rw [← UInt8.toNat_inj, hbyte, UInt8.toNat_ofNat', ← hdiv, ← hacc, Nat.mod_mul_right_div_self,
      Nat.mod_mod]
  · rw [← hmod, ← hacc, Nat.mod_mul_right_mod]

/-- **The decoder writes the full bytes among the bits it reads**, as many as there is room for. The
bits that are not written yet are the low bits of the accumulator. -/
theorem base64DecodeLoop_eq {outCap : ℕ} {acc : BitVec 32} {pending : List Bool} {out s : Bytes}
    (hlen : pending.length < 8) (hacc : acc.toNat % 2 ^ pending.length = ofBits pending)
    (hout : out.length ≤ outCap)
    (hs : ∀ c ∈ s, c = 0x3d ∨ isBase64Blank c = true ∨ ∃ v, decVal c = some v) :
    base64DecodeLoop outCap acc pending.length out s
      = cutAt outCap (out ++ bytesOf (pending ++ symbolBits s)) := by
  have hdone : ∀ {pending : List Bool} {out : Bytes}, pending.length < 8 → out.length ≤ outCap →
      (out, (out.length : ℤ)) = cutAt outCap (out ++ bytesOf (pending ++ [])) := by
    intro pending out hlen hout
    rw [List.append_nil, bytesOf_of_lt hlen, List.append_nil, cutAt, if_pos hout]
  induction s generalizing acc pending out with
  | nil => exact hdone hlen hout
  | cons c cs ih =>
      have hcs : ∀ c ∈ cs, c = 0x3d ∨ isBase64Blank c = true ∨ ∃ v, decVal c = some v :=
        fun c hc => hs c (List.mem_cons_of_mem _ hc)
      rw [base64DecodeLoop, symbolBits]
      by_cases hpad : c = 0x3d
      · rw [if_pos hpad, if_pos hpad]
        exact hdone hlen hout
      · rw [if_neg hpad, if_neg hpad]
        by_cases hblank : isBase64Blank c = true
        · rw [if_pos (by simpa [isBase64Blank] using hblank), (decVal_blank hblank).1]
          exact ih hlen hacc hout hcs
        · obtain ⟨v, hv⟩ : ∃ v, decVal c = some v :=
            ((hs c List.mem_cons_self).resolve_left hpad).resolve_left hblank
          have hv6 := decVal_lt hv
          -- the bits that are not written yet, with those of the letter behind them
          have hread : (acc <<< 6 ||| v).toNat % 2 ^ (pending ++ wordBits 6 v.toNat).length
              = ofBits (pending ++ wordBits 6 v.toNat) := by
            rw [ofBits_append, List.length_append, length_wordBits, toNat_shiftIn acc v hv6 hlen,
              hacc, ofBits_wordBits, Nat.mod_eq_of_lt hv6]
          have hcount : (pending ++ wordBits 6 v.toNat).length = pending.length + 6 := by
            rw [List.length_append, length_wordBits]
          rw [if_neg (by simpa [isBase64Blank] using hblank), hv, ← List.append_assoc]
          dsimp only
          rw [← hcount]
          generalize pending ++ wordBits 6 v.toNat = bits at hread hcount
          generalize acc <<< 6 ||| v = acc' at hread
          by_cases hbyte : 8 ≤ bits.length
          · obtain ⟨g, rest, rfl, hg⟩ : ∃ g rest, bits = g ++ rest ∧ g.length = 8 :=
              ⟨bits.take 8, bits.drop 8, (List.take_append_drop 8 bits).symm,
                List.length_take_of_le hbyte⟩
            obtain ⟨hwrite, hkeep⟩ := byteOf_acc hg hread
            have hrest : (g ++ rest).length - 8 = rest.length := by
              rw [List.length_append]
              omega
            rw [if_pos hbyte, hrest, hwrite, List.append_assoc, bytesOf_append hg]
            by_cases hfull : outCap ≤ out.length
            · rw [if_pos hfull, cutAt, if_neg, List.take_append_of_le_length hfull,
                List.take_of_length_le hout]
              rw [List.length_append, List.length_cons]
              omega
            · rw [if_neg hfull, ih ?_ hkeep ?_ hcs, List.append_assoc]
              · rfl
              · rw [List.length_append] at hcount
                omega
              · rw [List.length_append, List.length_singleton]
                omega
          · rw [if_neg hbyte]
            exact ih (by omega) hread hout hcs

/-! ## Texts with white space and without padding -/

/-- Each letter gives its six bits back. -/
theorem symbolBits_letters {gs : List (List Bool)} (hgs : ∀ g ∈ gs, g.length = 6) (s : Bytes) :
    symbolBits (gs.map (fun g => base64Letter (ofBits g)) ++ s) = gs.flatten ++ symbolBits s := by
  induction gs with
  | nil => rfl
  | cons g gs ih =>
      have hg := hgs g List.mem_cons_self
      have hlt := ofBits_lt g
      rw [hg] at hlt
      obtain ⟨⟨v, hv, hval⟩, hpad⟩ := decVal_letter hlt
      have hbits := wordBits_ofBits g
      rw [hg] at hbits
      rw [List.map_cons, List.cons_append, symbolBits, if_neg hpad, hv, List.flatten_cons,
        List.append_assoc, ← ih fun g hg => hgs g (List.mem_cons_of_mem _ hg)]
      dsimp only
      rw [hval, hbits]

/-- Padding at the end has no bits. -/
theorem symbolBits_append_padding (s : Bytes) (k : ℕ) :
    symbolBits (s ++ List.replicate k 0x3d) = symbolBits s := by
  induction s with
  | nil =>
      cases k with
      | zero => rfl
      | succ k => exact if_pos rfl
  | cons c s ih =>
      rw [List.cons_append, symbolBits, symbolBits, ih]

/-- White space has no bits, so removing it changes none. -/
theorem symbolBits_filter (s : Bytes) :
    symbolBits (s.filter fun c => !isBase64Blank c) = symbolBits s := by
  induction s with
  | nil => rfl
  | cons c s ih =>
      by_cases hblank : isBase64Blank c = true
      · obtain ⟨hval, hpad⟩ := decVal_blank hblank
        rw [List.filter_cons_of_neg (by simpa using hblank), ih, symbolBits, if_neg hpad, hval]
      · rw [List.filter_cons_of_pos (by simpa using hblank), symbolBits, symbolBits, ih]

/-- A few bits behind whole bytes are dropped. -/
theorem bytesOf_byteBits (x : Bytes) {bits : List Bool} (h : bits.length < 8) :
    bytesOf (byteBits x ++ bits) = x := by
  induction x with
  | nil => exact bytesOf_of_lt h
  | cons b x ih =>
      have hcons : byteBits (b :: x) = wordBits 8 b.toNat ++ byteBits x := rfl
      rw [hcons, List.append_assoc, bytesOf_append (length_wordBits 8 _), ih, ofBits_wordBits,
        Nat.mod_eq_of_lt b.toNat_lt, UInt8.ofNat_toNat]

/-- The bytes of the text are the string. -/
theorem bytesOf_symbolBits_text (x : Bytes) : bytesOf (symbolBits (base64Text x)) = x := by
  have hlen : ∀ g ∈ paddedGroups 6 (byteBits x), g.length = 6 := fun g hg =>
    length_of_mem_paddedGroups hg
  obtain ⟨z, hz, hflat⟩ := flatten_paddedGroups (show 0 < 6 by decide) (byteBits x)
  have hbits := symbolBits_letters hlen []
  rw [List.append_nil, hflat] at hbits
  rw [base64Text, symbolBits_append_padding, base64Letters, hbits, symbolBits, List.append_nil]
  exact bytesOf_byteBits x (by rw [List.length_replicate]; omega)

/-- A letter is read back, and is no padding. -/
theorem mem_base64Letters {x : Bytes} {c : UInt8} (hc : c ∈ base64Letters x) :
    (∃ v, decVal c = some v) ∧ c ≠ 0x3d := by
  obtain ⟨g, hg, rfl⟩ := List.mem_map.mp hc
  have hlt := ofBits_lt g
  rw [length_of_mem_paddedGroups hg] at hlt
  obtain ⟨⟨v, hv, -⟩, hpad⟩ := decVal_letter hlt
  exact ⟨⟨v, hv⟩, hpad⟩

/-- Every character of the text is a letter or padding. -/
theorem mem_base64Text {x : Bytes} {c : UInt8} (hc : c ∈ base64Text x) :
    c = 0x3d ∨ ∃ v, decVal c = some v := by
  rcases List.mem_append.mp hc with hc | hc
  · exact .inr (mem_base64Letters hc).1
  · exact .inl (List.eq_of_mem_replicate hc)

/-- What stands in front of the padding are the letters. -/
theorem takeWhile_base64Text (x : Bytes) :
    (base64Text x).takeWhile (· ≠ 0x3d) = base64Letters x := by
  refine (takeWhile_append_stop (fun c hc => ?_) fun c hc => ?_).1
  · simpa using (mem_base64Letters hc).2
  · simpa using List.eq_of_mem_replicate (List.mem_of_mem_head? hc)

/-- A string that is the text, but for white space anywhere and padding that is missing. -/
def IsTextOf (x s : Bytes) : Prop :=
  ∃ k, (s.filter fun c => !isBase64Blank c) ++ List.replicate k 0x3d = base64Text x

/-- **A text is decoded to its bytes, up to the capacity.** -/
theorem base64Decode_of_isTextOf {x s : Bytes} (h : IsTextOf x s) (outCap : ℕ) :
    base64Decode s outCap = cutAt outCap x := by
  obtain ⟨k, hk⟩ := h
  have hbits : symbolBits s = symbolBits (base64Text x) := by
    rw [← hk, symbolBits_append_padding, symbolBits_filter]
  have hs : ∀ c ∈ s, c = 0x3d ∨ isBase64Blank c = true ∨ ∃ v, decVal c = some v := by
    intro c hc
    by_cases hblank : isBase64Blank c = true
    · exact .inr (.inl hblank)
    · have hmem : c ∈ base64Text x := by
        rw [← hk]
        exact List.mem_append_left _ (List.mem_filter.mpr ⟨hc, by simpa using hblank⟩)
      exact (mem_base64Text hmem).imp_right .inr
  have hloop := @base64DecodeLoop_eq outCap 0 [] [] s (by decide) rfl (Nat.zero_le _) hs
  rw [hbits, List.nil_append, List.nil_append, bytesOf_symbolBits_text] at hloop
  exact hloop

/-- **The base64 round trip.** For every byte string whose text is shorter than `2^31`, and every size
of the output array: `base64_encode` writes the text and a NUL behind it and returns the length of
the text, or returns `-1` if and only if the array is smaller than `base64_encoded_size`. For every
string that is the text, but for white space anywhere and padding that is missing at the end,
`base64_decode` returns the length of the byte string and writes exactly the string if it fits, and
returns `-1` otherwise; it never writes behind the array. -/
theorem base64_roundTrip (x : Bytes) (hx : (base64Text x).length < 2 ^ 31) (outCap : ℕ) :
    (base64EncodedSize x.length ≤ outCap →
      base64Encode x outCap = (base64Text x ++ [0], ((base64Text x).length : ℤ)) ∧
      (base64Encode x outCap).1.length ≤ outCap) ∧
    ((base64Encode x outCap).2 = -1 ↔ outCap < base64EncodedSize x.length) ∧
    ∀ s, IsTextOf x s →
      (x.length ≤ outCap → base64Decode s outCap = (x, (x.length : ℤ))) ∧
      (outCap < x.length → (base64Decode s outCap).2 = -1) ∧
      (base64Decode s outCap).1.length ≤ outCap := by
  have hsize := length_base64Text x
  -- below `2^31` the length survives the cast to `int`
  have hint : (BitVec.ofNat 32 (base64Text x).length).toInt = ((base64Text x).length : ℤ) := by
    have hnat : (BitVec.ofNat 32 (base64Text x).length).toNat = (base64Text x).length := by
      rw [BitVec.toNat_ofNat]
      exact Nat.mod_eq_of_lt (by omega)
    rw [BitVec.toInt_eq_toNat_of_lt (by omega), hnat]
  have hencode : base64EncodedSize x.length ≤ outCap →
      base64Encode x outCap = (base64Text x ++ [0], ((base64Text x).length : ℤ)) := by
    intro hfits
    rw [base64Encode, if_neg (by omega), base64EncodeLoop_eq, List.nil_append]
    dsimp only
    rw [hint]
  refine ⟨fun hfits => ⟨hencode hfits, ?_⟩, ⟨fun h => ?_, fun h => ?_⟩, fun s hs => ?_⟩
  · rw [hencode hfits, List.length_append, List.length_singleton]
    omega
  · by_contra hfits
    rw [hencode (by omega)] at h
    dsimp only at h
    omega
  · rw [base64Encode, if_pos h]
  · refine ⟨fun hfits => ?_, fun hfull => ?_, (base64Decode_bounds s outCap).1⟩
    · rw [base64Decode_of_isTextOf hs, cutAt, if_pos hfits]
    · rw [base64Decode_of_isTextOf hs, cutAt, if_neg (by omega)]

/-- A text over two lines and without its padding. -/
theorem base64_roundTrip_wrapped :
    base64Decode (ascii "TWFu\r\nTQ") 4 = (ascii "ManM", 4) := by
  have htext : base64Text (ascii "ManM") = ascii "TWFuTQ==" := by
    rw [← List.nil_append (base64Text _), ← base64EncodeLoop_eq]
    decide
  have hx : (base64Text (ascii "ManM")).length < 2 ^ 31 := by
    rw [htext]
    decide
  have hs : IsTextOf (ascii "ManM") (ascii "TWFu\r\nTQ") := ⟨2, by rw [htext]; decide⟩
  exact ((base64_roundTrip (ascii "ManM") hx 4).2.2 _ hs).1 (by decide)

end ConduitStream
