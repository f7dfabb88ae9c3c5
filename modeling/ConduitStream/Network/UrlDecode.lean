import ConduitStream.Foundations.Spelling
import ConduitStream.System.SystemConfig

/-! # Form encoding (`hex_value` and `url_decode` in `wifi_provisioning.c`)

In a form every byte may be written as `%XX`, a space also as `+`, and most bytes as they are
(`UrlWord`). `urlDecode` reads every such spelling back, provided the text and its terminator fit
into the buffer (`urlDecode_of_spells`). -/

namespace ConduitStream

/-- A digit of `%x`. -/
def lowerHexDigit (n : ℕ) : UInt8 := UInt8.ofNat (if n < 10 then 0x30 + n else 0x61 + (n - 10))

/-- The ways to write a byte in a form: as it is, unless it means something else there, with two
hexadecimal digits, or a space as `+`. -/
inductive UrlWord : UInt8 → Bytes → Prop
  | literal {c : UInt8} : c ≠ 0x25 → c ≠ 0x2b → c ≠ 0x26 → c ≠ 0 → UrlWord c [c]
  | percent {c h l : UInt8} :
      h = upperHexDigit (c.toNat / 16) ∨ h = lowerHexDigit (c.toNat / 16) →
      l = upperHexDigit (c.toNat % 16) ∨ l = lowerHexDigit (c.toNat % 16) → UrlWord c [0x25, h, l]
  | space : UrlWord 0x20 [0x2b]

/-- `w` encodes the text `s`. -/
abbrev UrlEncodes : Bytes → Bytes → Prop := Spells UrlWord

/-- `hex_value`. -/
def hexValue (c : UInt8) : Option UInt8 :=
  if 0x30 ≤ c ∧ c ≤ 0x39 then some (c - 0x30)
  else if 0x61 ≤ c ∧ c ≤ 0x66 then some (c - 0x61 + 10)
  else if 0x41 ≤ c ∧ c ≤ 0x46 then some (c - 0x41 + 10)
  else none

/-- The loop of `url_decode`, with `used` of the `dstSize` bytes written. -/
def urlDecodeFrom (dstSize used : ℕ) : Bytes → Option Bytes
  | [] => some []
  | c :: src =>
    if used + 1 ≥ dstSize then none
    else if c = 0x2b then (urlDecodeFrom dstSize (used + 1) src).map (0x20 :: ·)
    else if c = 0x25 then
      match src with
      | h :: l :: src =>
        match hexValue h, hexValue l with
        | some hi, some lo =>
          (urlDecodeFrom dstSize (used + 1) src).map ((hi <<< 4 ||| lo) :: ·)
        | _, _ => none
      | _ => none
    else (urlDecodeFrom dstSize (used + 1) src).map (c :: ·)

/-- `url_decode`: the bytes in the buffer before the NUL it writes. -/
def urlDecode (src : Bytes) (dstSize : ℕ) : Option Bytes := urlDecodeFrom dstSize 0 (cstr src)

/-- Both kinds of digits are read. -/
theorem hexValue_digit {n : ℕ} (hn : n < 16) {c : UInt8}
    (hc : c = upperHexDigit n ∨ c = lowerHexDigit n) : hexValue c = some (UInt8.ofNat n) := by
  have hupper : ∀ k < 16, hexValue (upperHexDigit k) = some (UInt8.ofNat k) := by decide
  have hlower : ∀ k < 16, hexValue (lowerHexDigit k) = some (UInt8.ofNat k) := by decide
  rcases hc with rfl | rfl
  · exact hupper n hn
  · exact hlower n hn

/-- Two hexadecimal digits make one byte, the first one its upper half. -/
theorem nibbles_or (c : UInt8) :
    UInt8.ofNat (c.toNat / 16) <<< 4 ||| UInt8.ofNat (c.toNat % 16) = c := by
  have hall : ∀ n < 256, UInt8.ofNat (n / 16) <<< 4 ||| UInt8.ofNat (n % 16) = UInt8.ofNat n := by
    decide +kernel
  rw [hall c.toNat c.toNat_lt, UInt8.ofNat_toNat]

/-- No word contains a NUL or an `&`. -/
theorem UrlWord.plain {c : UInt8} {word : Bytes} (h : UrlWord c word) :
    ∀ b ∈ word, b ≠ 0 ∧ b ≠ 0x26 := by
  have hdigit : ∀ {n : ℕ} {d : UInt8}, n < 16 → d = upperHexDigit n ∨ d = lowerHexDigit n →
      d ≠ 0 ∧ d ≠ 0x26 := by
    intro n d hn hd
    -- neither value is a hex digit, checked over the sixteen of each case
    have hall : ∀ k < 16, (upperHexDigit k ≠ 0 ∧ upperHexDigit k ≠ 0x26) ∧
        lowerHexDigit k ≠ 0 ∧ lowerHexDigit k ≠ 0x26 := by decide
    rcases hd with rfl | rfl
    · exact (hall n hn).1
    · exact (hall n hn).2
  have hlt := c.toNat_lt
  intro b hb
  cases h with
  | literal hpercent hplus hamp hzero =>
      cases List.mem_singleton.mp hb
      exact ⟨hzero, hamp⟩
  | percent hh hl =>
      simp only [List.mem_cons, List.not_mem_nil, or_false] at hb
      rcases hb with rfl | rfl | rfl
      · decide
      · exact hdigit (by omega) hh
      · exact hdigit (by omega) hl
  | space =>
      cases List.mem_singleton.mp hb
      decide

/-- An encoding contains no NUL and no separator of parameters, either. -/
theorem urlEncodes_plain {s w : Bytes} (h : UrlEncodes s w) : 0 ∉ w ∧ 0x26 ∉ w := by
  have hall := h.forall_mem (p := fun b => b ≠ 0 ∧ b ≠ 0x26) fun c word hw => UrlWord.plain hw
  exact ⟨fun hz => (hall 0 hz).1 rfl, fun hz => (hall 0x26 hz).2 rfl⟩

/-- Words have one to three letters. -/
theorem UrlWord.length_le {c : UInt8} {word : Bytes} (h : UrlWord c word) : word.length ≤ 3 := by
  cases h <;> simp

/-- One word is read as its byte. -/
theorem urlDecodeFrom_word {dstSize used : ℕ} (hroom : used + 1 < dstSize) {c : UInt8}
    {word : Bytes} (h : UrlWord c word) (t : Bytes) :
    urlDecodeFrom dstSize used (word ++ t) = (urlDecodeFrom dstSize (used + 1) t).map (c :: ·) := by
  have hlt := c.toNat_lt
  have hgo : ¬used + 1 ≥ dstSize := by omega
  cases h with
  | literal hpercent hplus hamp hzero =>
      show urlDecodeFrom dstSize used (c :: t) = _
      rw [urlDecodeFrom.eq_def]
      simp only [if_neg hgo, if_neg hplus, if_neg hpercent]
  | @percent _ h l hh hl =>
      show urlDecodeFrom dstSize used (0x25 :: h :: l :: t) = _
      have hplus : ¬(0x25 : UInt8) = 0x2b := by decide
      rw [urlDecodeFrom.eq_def]
      simp only [if_neg hgo, if_neg hplus, if_true, hexValue_digit (n := c.toNat / 16) (by omega) hh,
        hexValue_digit (n := c.toNat % 16) (by omega) hl, nibbles_or]
  | space =>
      show urlDecodeFrom dstSize used (0x2b :: t) = _
      rw [urlDecodeFrom.eq_def]
      simp only [if_neg hgo, if_true]

/-- **Every encoding of a text that fits is decoded to it.** -/
theorem urlDecodeFrom_of_spells {dstSize used : ℕ} {s w : Bytes} (h : UrlEncodes s w)
    (hfits : used + s.length < dstSize) : urlDecodeFrom dstSize used w = some s := by
  induction h generalizing used with
  | nil => rfl
  | @cons c word s w hword _ ih =>
      rw [List.length_cons] at hfits
      rw [urlDecodeFrom_word (by omega) hword, ih (by omega)]
      rfl

/-- The same for a string: an encoding that fits is decoded to its text. -/
theorem urlDecode_of_spells {dstSize : ℕ} {s w : Bytes} (h : UrlEncodes s w)
    (hfits : s.length < dstSize) : urlDecode w dstSize = some s := by
  rw [urlDecode, cstr_eq_self (urlEncodes_plain h).1]
  exact urlDecodeFrom_of_spells h (by omega)

/-! ## Two encoders -/

/-- A text of bytes that mean nothing else encodes itself. -/
theorem urlEncodes_self {s : Bytes} (h : ∀ c ∈ s, c ≠ 0x25 ∧ c ≠ 0x2b ∧ c ≠ 0x26 ∧ c ≠ 0) :
    UrlEncodes s s := by
  induction s with
  | nil => exact .nil
  | cons c s ih =>
      obtain ⟨hpercent, hplus, hamp, hzero⟩ := h c List.mem_cons_self
      exact .cons (.literal hpercent hplus hamp hzero) (ih fun b hb => h b (List.mem_cons_of_mem _ hb))

/-- A byte as `%XX`. -/
def percentEncode (c : UInt8) : Bytes := 0x25 :: upperHex c

/-- Every byte may be written so. -/
theorem urlEncodes_percent (s : Bytes) : UrlEncodes s (s.flatMap percentEncode) := by
  induction s with
  | nil => exact .nil
  | cons c s ih =>
      rw [List.flatMap_cons]
      exact .cons (.percent (.inl rfl) (.inl rfl)) ih

end ConduitStream
