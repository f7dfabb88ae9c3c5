import ConduitStream.Foundations.BitReading
import ConduitStream.RtpReceive.AlacFrame

/-! # The input of the decoder (`alac.c`)

`BitReader` looks at the bytes from `input_buffer` on. Here the buffer that holds a frame is there as a
whole: an access behind its end fails, and `unreadbits` may go back. A reader in the sense of
`Consumes` is at a bit of the buffer, and has three more bytes behind what it reads, since
`readbits_16` always looks at three bytes.

* `Consumes.run_packed`: a reader that consumes bits, in front of a buffer that holds them;
* `consumes_readbits`: up to 32 bits are read as the number they denote;
* `consumes_readbits_unread`: `k` bits are read and the last one is given back. -/

namespace ConduitStream

/-- The buffer with the frame, and the place of the reader: `input_buffer` as an index, and
`input_buffer_bitaccumulator`. -/
structure AlacInput where
  buffer : Bytes
  offset : ℕ
  bitaccumulator : ℕ
  deriving DecidableEq, Repr

/-- A step of the decoder that reads input. -/
abbrev AlacReading (α : Type) : Type := BitReading AlacInput α

namespace AlacInput

/-- The bytes from `input_buffer` on. -/
def reader (s : AlacInput) : BitReader := ⟨s.buffer.drop s.offset, s.bitaccumulator⟩

/-- `new_accumulator = bitaccumulator + bits`, and its two parts. -/
def advance (s : AlacInput) (bits : ℤ) : AlacInput :=
  let accumulator := s.bitaccumulator + bits
  { s with
    offset := (s.offset + accumulator / 8).toNat
    bitaccumulator := (accumulator % 8).toNat }

/-- The number of the bit the reader is at. -/
def position (s : AlacInput) : ℕ := 8 * s.offset + s.bitaccumulator

end AlacInput

namespace Alac

/-- `readbits_16`, which looks at three bytes. -/
def readbits16 (bits : ℕ) : AlacReading (BitVec 32) := fun s =>
  if s.offset + 2 < s.buffer.length then some ((s.reader.readbits16 bits).1, s.advance bits) else none

/-- `readbits`. -/
def readbits (bits : ℕ) : AlacReading (BitVec 32) :=
  if 16 < bits then do
    let high ← readbits16 16
    let low ← readbits16 (bits - 16)
    return high <<< (bits - 16) ||| low
  else readbits16 bits

/-- `readbit`. -/
def readbit : AlacReading Bool := fun s =>
  if s.offset < s.buffer.length then
    some ((s.reader.byte 0 <<< s.bitaccumulator) >>> 7 &&& 1 = 1, s.advance 1)
  else none

/-- `unreadbits`. -/
def unreadbits (bits : ℕ) : AlacReading Unit := fun s => some ((), s.advance (-bits))

end Alac

/-! ## Places -/

namespace AlacInput

variable {s : AlacInput}

/-- The accumulator counts the bits of one byte. -/
theorem bitaccumulator_advance_lt (s : AlacInput) (bits : ℤ) :
    (s.advance bits).bitaccumulator < 8 := by
  show ((s.bitaccumulator + bits) % 8).toNat < 8
  omega

/-- Advancing moves the position by as many bits, forward or back within the input. -/
theorem position_advance {bits : ℤ} (h : 0 ≤ s.position + bits) :
    ((s.advance bits).position : ℤ) = s.position + bits := by
  show ((8 * (s.offset + (s.bitaccumulator + bits) / 8).toNat
    + ((s.bitaccumulator + bits) % 8).toNat : ℕ) : ℤ) = _
  unfold position at h ⊢
  omega

/-- A place of the buffer is a bit of it. -/
theorem eq_of_position {t : AlacInput} (hbuf : s.buffer = t.buffer) (hs : s.bitaccumulator < 8)
    (ht : t.bitaccumulator < 8) (hpos : s.position = t.position) : s = t := by
  obtain ⟨buffer, offset, accumulator⟩ := s
  obtain ⟨buffer', offset', accumulator'⟩ := t
  dsimp only [position] at hbuf hs ht hpos
  obtain rfl : offset = offset' := by omega
  obtain rfl : accumulator = accumulator' := by omega
  rw [hbuf]

/-- Advancing by no bits changes nothing, as the accumulator counts the bits of one byte only. -/
theorem advance_zero (hacc : s.bitaccumulator < 8) : s.advance 0 = s := by
  refine eq_of_position rfl (s.bitaccumulator_advance_lt 0) hacc ?_
  have hpos := @position_advance s 0 (by omega)
  omega

/-- Going on twice is going on once by the sum, also when the second step goes back. -/
theorem advance_advance {a b : ℤ} (ha : 0 ≤ s.position + a) (hab : 0 ≤ s.position + a + b) :
    (s.advance a).advance b = s.advance (a + b) := by
  refine eq_of_position rfl (bitaccumulator_advance_lt ..) (bitaccumulator_advance_lt ..) ?_
  have hfirst := position_advance ha
  have hsecond := @position_advance (s.advance a) b (by omega)
  have hboth := @position_advance s (a + b) (by omega)
  omega

/-- The bits that are ahead. -/
def ahead (s : AlacInput) : List Bool := (byteBits s.buffer).drop s.position

/-- Behind `n` bits, what is ahead is the rest. -/
theorem ahead_advance (s : AlacInput) (n : ℕ) : (s.advance n).ahead = s.ahead.drop n := by
  have hpos := @position_advance s n (by omega)
  have hnat : (s.advance n).position = s.position + n := by exact_mod_cast hpos
  show (byteBits s.buffer).drop (s.advance n).position = _
  rw [hnat, ahead, List.drop_drop]

end AlacInput

/-- The bits of a frame, with three bytes behind them: `readbits_16` looks at three. -/
def alacSource : BitSource AlacInput where
  Path s bits s' := s.bitaccumulator < 8 ∧ bits <+: s.ahead ∧
    s.position + bits.length + 24 ≤ 8 * s.buffer.length ∧ s' = s.advance bits.length
  eq_of_nil := by
    rintro s s' ⟨hacc, -, -, rfl⟩
    exact AlacInput.advance_zero hacc
  split := by
    rintro s s' bits bits' ⟨hacc, hahead, hroom, rfl⟩
    rw [List.length_append] at hroom
    have hpos := @AlacInput.position_advance s bits.length (by omega)
    refine ⟨_, ⟨hacc, (List.prefix_append _ _).trans hahead, by omega, rfl⟩,
      s.bitaccumulator_advance_lt _, ?_, ?_, ?_⟩
    · rw [AlacInput.ahead_advance]
      obtain ⟨rest, hrest⟩ := hahead
      rw [← hrest, List.append_assoc, List.drop_left]
      exact List.prefix_append _ _
    · show (s.advance bits.length).position + bits'.length + 24 ≤ 8 * s.buffer.length
      omega
    · rw [AlacInput.advance_advance (by omega) (by omega), List.length_append, Nat.cast_add]

/-- A reader in front of its bits, packed into bytes. -/
theorem Consumes.run_packed {α : Type} {m : AlacReading α} {bits : List Bool} {a : α}
    (h : Consumes alacSource m bits a) {behind : Bytes} (hbehind : 3 ≤ behind.length) :
    m.run ⟨packBits bits ++ behind, 0, 0⟩
      = some (a, AlacInput.advance ⟨packBits bits ++ behind, 0, 0⟩ bits.length) := by
  obtain ⟨z, -, hbits⟩ := byteBits_packBits bits
  have hroom := congrArg List.length hbits
  rw [length_byteBits, List.length_append, List.length_replicate] at hroom
  refine h _ _ ⟨Nat.zero_lt_succ 7, ?_, ?_, rfl⟩
  · show bits <+: (byteBits (packBits bits ++ behind)).drop 0
    rw [List.drop_zero, byteBits_append, hbits, List.append_assoc]
    exact List.prefix_append _ _
  · show 0 + bits.length + 24 ≤ 8 * (packBits bits ++ behind).length
    rw [List.length_append]
    omega

/-! ## What is read -/

/-- The 24 bits that `readbits_16` looks at. -/
theorem BitReader.readbits16_toNat (a b c : UInt8) (rest : Bytes) (accumulator n : ℕ) :
    ((BitReader.readbits16 ⟨a :: b :: c :: rest, accumulator⟩ n).1).toNat
      = ((a.toNat * 256 + b.toNat) * 256 + c.toNat) * 2 ^ accumulator % 2 ^ 24 / 2 ^ (24 - n) := by
  have ha := a.toNat_lt
  have hb := b.toNat_lt
  have hc := c.toNat_lt
  have hbyte : ∀ x : UInt8, (x.toBitVec.setWidth 32).toNat = x.toNat := by
    intro x
    have hx := x.toNat_lt
    rw [BitVec.toNat_setWidth, Nat.mod_eq_of_lt]
    · rfl
    · show x.toNat < 2 ^ 32
      omega
  have hshift : ∀ (x : BitVec 32) (k : ℕ), x.toNat < 2 ^ 8 → k ≤ 16 →
      (x <<< k).toNat = x.toNat <<< k := by
    intro x k hx hk
    rw [BitVec.toNat_shiftLeft, Nat.mod_eq_of_lt]
    have hpow : 2 ^ k ≤ 2 ^ 16 := Nat.pow_le_pow_right (by decide) hk
    rw [Nat.shiftLeft_eq]
    calc x.toNat * 2 ^ k ≤ x.toNat * 2 ^ 16 := Nat.mul_le_mul_left _ hpow
      _ < 2 ^ 32 := by omega
  have hword : ((a.toBitVec.setWidth 32 <<< 16 ||| b.toBitVec.setWidth 32 <<< 8 |||
      c.toBitVec.setWidth 32 : BitVec 32)).toNat = (a.toNat * 256 + b.toNat) * 256 + c.toNat := by
    have hbytes := @shiftLeft_or_bytes 0 a.toNat b.toNat c.toNat ha hb hc
    rw [BitVec.toNat_or, BitVec.toNat_or, hshift _ 16 (by rw [hbyte]; exact ha) (by omega),
      hshift _ 8 (by rw [hbyte]; exact hb) (by omega), hbyte, hbyte, hbyte]
    rw [Nat.zero_shiftLeft, Nat.zero_or] at hbytes
    rw [hbytes]
    omega
  show ((((a.toBitVec.setWidth 32 <<< 16 ||| b.toBitVec.setWidth 32 <<< 8 |||
      c.toBitVec.setWidth 32 : BitVec 32) <<< accumulator) &&& 0x00ffffff) >>> (24 - n)).toNat = _
  rw [BitVec.toNat_ushiftRight, BitVec.toNat_and, BitVec.toNat_shiftLeft, hword,
    Nat.shiftLeft_eq, Nat.shiftRight_eq_div_pow,
    show (0x00ffffff : BitVec 32).toNat = 2 ^ 24 - 1 from rfl, Nat.and_two_pow_sub_one_eq_mod,
    Nat.mod_mod_of_dvd _ (by decide)]

/-- Bits shifted to the top of a word, and down again. -/
theorem mul_two_pow_mod_div (m a n r : ℕ) :
    m * 2 ^ a % 2 ^ (a + n + r) / 2 ^ (a + r) = m / 2 ^ r % 2 ^ n := by
  rw [show 2 ^ (a + n + r) = 2 ^ r * 2 ^ n * 2 ^ a by ring, Nat.mul_mod_mul_right,
    show 2 ^ (a + r) = 2 ^ r * 2 ^ a by ring, Nat.mul_div_mul_right _ _ (Nat.two_pow_pos a),
    Nat.mod_mul_right_div_self]

/-- They are the next bits of the buffer. -/
theorem AlacInput.readbits16_toNat {s : AlacInput} (hacc : s.bitaccumulator < 8)
    (hroom : s.offset + 2 < s.buffer.length) {n : ℕ} (hn : n ≤ 16) :
    ((s.reader.readbits16 n).1).toNat = ofBits (s.ahead.take n) := by
  obtain ⟨a, b, c, rest, hdrop⟩ : ∃ a b c rest, s.buffer.drop s.offset = a :: b :: c :: rest := by
    rw [List.drop_eq_getElem_cons (by omega), List.drop_eq_getElem_cons (by omega),
      List.drop_eq_getElem_cons (by omega)]
    exact ⟨_, _, _, _, rfl⟩
  obtain ⟨r, hr⟩ : ∃ r, 24 = s.bitaccumulator + n + r := ⟨24 - s.bitaccumulator - n, by omega⟩
  rw [AlacInput.reader, hdrop, BitReader.readbits16_toNat]
  generalize hN : (a.toNat * 256 + b.toNat) * 256 + c.toNat = N
  have hword : wordBits 24 N = wordBits 8 a.toNat ++ (wordBits 8 b.toNat ++ wordBits 8 c.toNat) := by
    rw [← List.append_assoc, wordBits_append b.toNat_lt, wordBits_append c.toNat_lt]
    exact congrArg (wordBits 24) hN.symm
  -- the bits in front, those that are read, and those behind
  have hsplit : wordBits 24 N
      = wordBits s.bitaccumulator (N / 2 ^ (n + r)) ++ (wordBits n (N / 2 ^ r) ++ wordBits r N) := by
    rw [← wordBits_add n r, ← wordBits_add s.bitaccumulator (n + r), hr, Nat.add_assoc]
  have hahead : s.ahead.take n = wordBits n (N / 2 ^ r) := by
    rw [AlacInput.ahead, AlacInput.position, ← List.drop_drop, byteBits_drop, hdrop, byteBits_cons,
      byteBits_cons, byteBits_cons, ← List.append_assoc, ← List.append_assoc,
      List.append_assoc (wordBits 8 a.toNat), ← hword, hsplit, List.append_assoc,
      List.drop_left' (length_wordBits ..), List.append_assoc, List.take_left' (length_wordBits ..)]
  rw [hahead, ofBits_wordBits, ← mul_two_pow_mod_div, ← hr,
    show 24 - n = s.bitaccumulator + r by omega]

namespace Alac

variable {s : AlacInput} {n : ℕ}

/-- **`readbits_16`** returns the next `n` bits as a number, most significant first, and advances past them.
-/
theorem readbits16_run (hacc : s.bitaccumulator < 8) (hroom : s.offset + 2 < s.buffer.length)
    (hn : n ≤ 16) :
    (readbits16 n).run s = some (BitVec.ofNat 32 (ofBits (s.ahead.take n)), s.advance n) := by
  have hval : (s.reader.readbits16 n).1 = BitVec.ofNat 32 (ofBits (s.ahead.take n)) := by
    rw [← AlacInput.readbits16_toNat hacc hroom hn, BitVec.ofNat_toNat, BitVec.setWidth_eq]
  show (if s.offset + 2 < s.buffer.length then _ else _) = _
  rw [if_pos hroom, hval]

/-- **`readbits` returns the next bits**, as far as three bytes are there behind the first of the last
16. -/
theorem readbits_run (hacc : s.bitaccumulator < 8) (hpos : 1 ≤ n) (hn : n ≤ 32)
    (hroom : s.position + n + 23 ≤ 8 * s.buffer.length) :
    (readbits n).run s = some (BitVec.ofNat 32 (ofBits (s.ahead.take n)), s.advance n) := by
  have hplace : s.position = 8 * s.offset + s.bitaccumulator := rfl
  unfold readbits
  by_cases hlong : 16 < n
  · have hmid := @AlacInput.position_advance s 16 (by omega)
    have hplace' : (s.advance 16).position
        = 8 * (s.advance 16).offset + (s.advance 16).bitaccumulator := rfl
    have hroom' : (s.advance 16).offset + 2 < (s.advance 16).buffer.length := by
      show _ < s.buffer.length
      omega
    have hsecond := readbits16_run (s.bitaccumulator_advance_lt 16) hroom' (show n - 16 ≤ 16 by omega)
    have hahead : (s.advance 16).ahead = s.ahead.drop 16 := s.ahead_advance 16
    rw [hahead, AlacInput.advance_advance (by omega) (by omega)] at hsecond
    have hlast : (16 : ℤ) + (n - 16 : ℕ) = n := by omega
    have htake : s.ahead.take n = s.ahead.take 16 ++ (s.ahead.drop 16).take (n - 16) := by
      rw [← List.take_add, Nat.add_sub_cancel' hlong.le]
    have hlen : ((s.ahead.drop 16).take (n - 16)).length = n - 16 := by
      rw [List.length_take, List.length_drop, AlacInput.ahead, List.length_drop, length_byteBits]
      omega
    have hlow := ofBits_lt ((s.ahead.drop 16).take (n - 16))
    rw [hlen] at hlow
    have hword : (BitVec.ofNat 32 (ofBits (s.ahead.take 16)) <<< (n - 16) |||
        BitVec.ofNat 32 (ofBits ((s.ahead.drop 16).take (n - 16))) : BitVec 32)
          = BitVec.ofNat 32 (ofBits (s.ahead.take n)) := by
      rw [htake, ofBits_append, hlen, ← Nat.shiftLeft_eq, Nat.shiftLeft_add_eq_or_of_lt hlow]
      apply BitVec.eq_of_toNat_eq
      simp only [BitVec.toNat_or, BitVec.toNat_shiftLeft, BitVec.toNat_ofNat, Nat.shiftLeft_eq,
        Nat.mod_mul_mod, Nat.or_mod_two_pow]
    rw [if_pos hlong, StateT.run_bind, readbits16_run hacc (by omega) le_rfl, Option.bind_eq_bind,
      Option.bind_some, StateT.run_bind]
    show Option.bind ((readbits16 (n - 16)).run (s.advance 16)) _ = _
    rw [hsecond, Option.bind_some, hlast]
    show some (_, _) = _
    rw [hword]
  · rw [if_neg hlong]
    exact readbits16_run hacc (by omega) (by omega)

/-- The bit of a byte that `readbit` looks at. -/
theorem testBit_shift (x : UInt8) {a : ℕ} (ha : a < 8) :
    decide ((x.toBitVec.setWidth 32 <<< a) >>> 7 &&& (1 : BitVec 32) = 1)
      = decide (x.toNat / 2 ^ (7 - a) % 2 = 1) := by
  have hx : x.toBitVec.toNat = x.toNat := rfl
  have hlt := x.toNat_lt
  have hone : ∀ y : BitVec 32, (y &&& 1 = 1) ↔ y.toNat % 2 = 1 := by
    intro y
    rw [← BitVec.toNat_inj, BitVec.toNat_and]
    show y.toNat &&& 1 = 1 ↔ _
    rw [Nat.and_one_is_mod]
  have hpow : 2 ^ a ≤ 2 ^ 7 := Nat.pow_le_pow_right (by decide) (by omega)
  have hshift : (x.toNat % 2 ^ 32) * 2 ^ a % 2 ^ 32 = x.toNat * 2 ^ a := by
    have hmul : x.toNat * 2 ^ a ≤ x.toNat * 2 ^ 7 := Nat.mul_le_mul_left _ hpow
    rw [Nat.mod_eq_of_lt (show x.toNat < 2 ^ 32 by omega), Nat.mod_eq_of_lt (by omega)]
  have hdiv : x.toNat * 2 ^ a / 2 ^ 7 = x.toNat / 2 ^ (7 - a) := by
    rw [show (2 : ℕ) ^ 7 = 2 ^ (7 - a) * 2 ^ a by rw [← Nat.pow_add]; congr 1; omega,
      Nat.mul_div_mul_right _ _ (Nat.two_pow_pos a)]
  refine decide_eq_decide.mpr ((hone _).trans ?_)
  rw [BitVec.toNat_ushiftRight, BitVec.toNat_shiftLeft, BitVec.toNat_setWidth, hx, Nat.shiftLeft_eq,
    hshift, Nat.shiftRight_eq_div_pow, hdiv]

/-- `readbit` returns the next bit and advances past it. -/
theorem readbit_run (hacc : s.bitaccumulator < 8) {b : Bool} {bits : List Bool}
    (hahead : s.ahead = b :: bits) : readbit.run s = some (b, s.advance 1) := by
  have hlen : s.offset < s.buffer.length := by
    have hcount := congrArg List.length hahead
    rw [AlacInput.ahead, List.length_drop, length_byteBits, List.length_cons,
      AlacInput.position] at hcount
    omega
  obtain ⟨x, rest, hdrop⟩ : ∃ x rest, s.buffer.drop s.offset = x :: rest := by
    rw [List.drop_eq_getElem_cons hlen]
    exact ⟨_, _, rfl⟩
  -- the bits of the byte in front, the one that is read, and those behind
  have hsplit : wordBits 8 x.toNat = wordBits s.bitaccumulator (x.toNat / 2 ^ (1 + (7 - s.bitaccumulator)))
      ++ (wordBits 1 (x.toNat / 2 ^ (7 - s.bitaccumulator)) ++ wordBits (7 - s.bitaccumulator) x.toNat) := by
    rw [← wordBits_add, ← wordBits_add]
    congr 1
    omega
  have hbit : decide (x.toNat / 2 ^ (7 - s.bitaccumulator) % 2 = 1) = b := by
    rw [AlacInput.ahead, AlacInput.position, ← List.drop_drop, byteBits_drop, hdrop, byteBits_cons,
      hsplit, List.append_assoc, List.drop_left' (length_wordBits ..)] at hahead
    exact (List.cons.inj hahead).1
  have hbyte : s.reader.byte 0 = x.toBitVec.setWidth 32 := by
    show ((s.buffer.drop s.offset).getD 0 0).toBitVec.setWidth 32 = _
    rw [hdrop]
    rfl
  show (if s.offset < s.buffer.length then _ else _) = _
  rw [if_pos hlen, hbyte, testBit_shift x hacc, hbit]

/-! ### As readers of bits -/

/-- **Up to 32 bits are read as the number they denote.** -/
theorem consumes_readbits (hpos : 1 ≤ n) (hn : n ≤ 32) (v : ℕ) :
    Consumes alacSource (readbits n) (wordBits n v) (BitVec.ofNat 32 (v % 2 ^ n)) := by
  rintro s s' ⟨hacc, hahead, hroom, rfl⟩
  rw [length_wordBits] at hroom ⊢
  have htake : s.ahead.take n = wordBits n v := by
    obtain ⟨rest, hrest⟩ := hahead
    rw [← hrest, List.take_left' (length_wordBits n v)]
  rw [readbits_run hacc hpos hn (by omega), htake, ofBits_wordBits]

/-- `readbit` consumes the bit it returns, whatever follows. -/
theorem consumes_readbit (b : Bool) : Consumes alacSource readbit [b] b := by
  rintro s s' ⟨hacc, ⟨rest, hrest⟩, -, rfl⟩
  exact readbit_run hacc hrest.symm

/-- **`n + 1` bits are read, and the last one is given back.** -/
theorem consumes_readbits_unread {α : Type} {f : BitVec 32 → AlacReading α} (hpos : 1 ≤ n) (hn : n < 32)
    (v : ℕ) {a : α} (hf : ∀ b : Bool, ∀ s : AlacInput,
      (f (BitVec.ofNat 32 (2 * (v % 2 ^ n) + b.toNat))).run s = some (a, s.advance (-1))) :
    Consumes alacSource (readbits (n + 1) >>= f) (wordBits n v) a := by
  rintro s s' ⟨hacc, ⟨rest, hrest⟩, hroom, rfl⟩
  rw [length_wordBits] at hroom ⊢
  -- the bit behind is there, whatever it is
  obtain ⟨b, rest', rfl⟩ : ∃ b rest', rest = b :: rest' := by
    cases rest with
    | cons b rest' => exact ⟨b, rest', rfl⟩
    | nil =>
        have hcount := congrArg List.length hrest
        rw [List.append_nil, length_wordBits, AlacInput.ahead, List.length_drop, length_byteBits] at hcount
        omega
  have htake : s.ahead.take (n + 1) = wordBits n v ++ [b] := by
    rw [← hrest, ← List.singleton_append, ← List.append_assoc]
    exact List.take_left' (by rw [List.length_append, length_wordBits, List.length_singleton])
  rw [StateT.run_bind, readbits_run hacc (by omega) hn (by omega), htake, ofBits_concat, ofBits_wordBits,
    Option.bind_eq_bind, Option.bind_some, hf b, AlacInput.advance_advance (by omega) (by omega)]
  congr 3
  omega

end Alac

end ConduitStream
