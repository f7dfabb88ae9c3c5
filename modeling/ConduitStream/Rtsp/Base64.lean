import ConduitStream.Foundations.ByteString

/-! # Base64 (`base64.c`)

The encoder takes three bytes at a time and has a case for each length of the last group. The decoder
skips blanks, stops at the first padding character and refuses any other character outside the
alphabet. It writes as it goes, so a failed call leaves a part of its output behind; both functions
therefore return the bytes written, from the start of `out` on, beside the result. -/

namespace ConduitStream

/-! ## Encoding -/

/-- `kEnc`. -/
def kEnc : Bytes := ascii "ABCDEFGHIJKLMNOPQRSTUVWXYZabcdefghijklmnopqrstuvwxyz0123456789+/"

/-- `kEnc[(n >> k) & 63]`. -/
def encChar (n : BitVec 32) (k : ℕ) : UInt8 := kEnc.getD (n >>> k &&& 63).toNat 0

/-- `base64_encoded_size`. -/
def base64EncodedSize (n : ℕ) : ℕ := (n + 2) / 3 * 4 + 1

/-- The groups of three bytes and the last group of `base64_encode`: `out` are the characters written
so far. -/
def base64EncodeLoop (out : Bytes) : Bytes → Bytes
  | a :: b :: c :: inp =>
      let n : BitVec 32 := a.toBitVec.setWidth 32 <<< 16 ||| b.toBitVec.setWidth 32 <<< 8 |||
        c.toBitVec.setWidth 32
      base64EncodeLoop (out ++ [encChar n 18, encChar n 12, encChar n 6, encChar n 0]) inp
  | [a, b] =>
      let n : BitVec 32 := a.toBitVec.setWidth 32 <<< 16 ||| b.toBitVec.setWidth 32 <<< 8
      out ++ [encChar n 18, encChar n 12, encChar n 6, 0x3d]
  | [a] =>
      let n : BitVec 32 := a.toBitVec.setWidth 32 <<< 16
      out ++ [encChar n 18, encChar n 12, 0x3d, 0x3d]
  | [] => out

/-- `base64_encode`: the bytes written to `out`, the NUL included, and the result `(int)o`. -/
def base64Encode (inp : Bytes) (outCap : ℕ) : Bytes × ℤ :=
  if outCap < base64EncodedSize inp.length then ([], -1)
  else
    let out := base64EncodeLoop [] inp
    (out ++ [0], (BitVec.ofNat 32 out.length).toInt)

/-! ## Decoding -/

/-- `dec_val`: the six bits a character of the alphabet stands for, `none` for `-1`. -/
def decVal (c : UInt8) : Option (BitVec 32) :=
  if 0x41 ≤ c ∧ c ≤ 0x5a then some ((c - 0x41).toBitVec.setWidth 32)
  else if 0x61 ≤ c ∧ c ≤ 0x7a then some ((c - 0x61 + 26).toBitVec.setWidth 32)
  else if 0x30 ≤ c ∧ c ≤ 0x39 then some ((c - 0x30 + 52).toBitVec.setWidth 32)
  else if c = 0x2b then some 62
  else if c = 0x2f then some 63
  else none

/-- The loop of `base64_decode`: `acc` holds `nbits` bits that are not written yet, `out` the bytes
that are. -/
def base64DecodeLoop (outCap : ℕ) (acc : BitVec 32) (nbits : ℕ) (out : Bytes) :
    Bytes → Bytes × ℤ
  | [] => (out, out.length)
  | c :: cs =>
      if c = 0x3d then (out, out.length)
      else if c = 0x0d ∨ c = 0x0a ∨ c = 0x20 ∨ c = 0x09 then base64DecodeLoop outCap acc nbits out cs
      else
        match decVal c with
        | none => (out, -1)
        | some v =>
            let acc := acc <<< 6 ||| v
            if 8 ≤ nbits + 6 then
              if outCap ≤ out.length then (out, -1)
              else
                base64DecodeLoop outCap acc (nbits + 6 - 8)
                  (out ++ [⟨(acc >>> (nbits + 6 - 8)).setWidth 8⟩]) cs
            else base64DecodeLoop outCap acc (nbits + 6) out cs

/-- `base64_decode`: the bytes written to `out`, and the result. -/
def base64Decode (inp : Bytes) (outCap : ℕ) : Bytes × ℤ := base64DecodeLoop outCap 0 0 [] inp

/-- The loop stays within the output array, and its result is `-1` or the number of bytes
written. -/
theorem base64DecodeLoop_bounds {outCap : ℕ} (acc : BitVec 32) (nbits : ℕ) {out : Bytes}
    (hout : out.length ≤ outCap) (inp : Bytes) :
    (base64DecodeLoop outCap acc nbits out inp).1.length ≤ outCap ∧
      ((base64DecodeLoop outCap acc nbits out inp).2 = -1 ∨
        (base64DecodeLoop outCap acc nbits out inp).2
          = (base64DecodeLoop outCap acc nbits out inp).1.length) := by
  induction inp generalizing acc nbits out with
  | nil => exact ⟨hout, .inr rfl⟩
  | cons c cs ih =>
      rw [base64DecodeLoop]
      split
      · -- the padding ends the input
        exact ⟨hout, .inr rfl⟩
      · split
        · -- white space is skipped
          exact ih acc nbits hout
        · cases decVal c with
          | none => exact ⟨hout, .inl rfl⟩
          | some v =>
              dsimp only
              split_ifs with hbits hcap
              · exact ⟨hout, .inl rfl⟩
              · refine ih _ _ ?_
                rw [List.length_append, List.length_singleton]
                omega
              · exact ih _ _ hout

/-- **Bounds**: `base64_decode` stays within its output array, and its result is `-1` or the number
of bytes written. -/
theorem base64Decode_bounds (inp : Bytes) (outCap : ℕ) :
    (base64Decode inp outCap).1.length ≤ outCap ∧
      ((base64Decode inp outCap).2 = -1 ∨
        (base64Decode inp outCap).2 = (base64Decode inp outCap).1.length) :=
  base64DecodeLoop_bounds 0 0 (Nat.zero_le _) inp

/-- Line breaks are skipped and padding ends the input. -/
example : base64Decode (ascii "TWFu\r\nTQ==!") 8 = (ascii "ManM", 4) := by decide

end ConduitStream
