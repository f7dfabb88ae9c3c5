import ConduitStream.Rtsp.Parser

/-! # The attributes of an ANNOUNCE body (`sdp.c`)

`sdp_parse` walks over the lines of the body and copies what follows one of three attribute
prefixes into a bounded array; a later line overwrites an earlier one. -/

namespace ConduitStream

/-- `sdp_media_t`: the bytes copied into each array, without the terminating NUL. -/
structure SdpMedia where
  rsaaeskey : Bytes
  aesiv : Bytes
  fmtp : Bytes
  hasRsaaeskey : Bool
  hasAesiv : Bool
  hasFmtp : Bool
  deriving DecidableEq, Repr

/-- `sizeof` of the three arrays. -/
def sdpRsaaeskeyCap : ℕ := 512

@[inherit_doc sdpRsaaeskeyCap] def sdpAesivCap : ℕ := 64

@[inherit_doc sdpRsaaeskeyCap] def sdpFmtpCap : ℕ := 160

/-- `take_attr`: the bounded copy of what follows the prefix, if the line begins with it. -/
def takeAttr (line attr : Bytes) (dstsz : ℕ) : Option Bytes :=
  if attr <+: line then some (copyBounded dstsz (line.drop attr.length)) else none

/-- One line of the body. -/
def sdpLine (out : SdpMedia) (line : Bytes) : SdpMedia :=
  match takeAttr line (ascii "a=rsaaeskey:") sdpRsaaeskeyCap with
  | some v => { out with rsaaeskey := v, hasRsaaeskey := true }
  | none =>
      match takeAttr line (ascii "a=aesiv:") sdpAesivCap with
      | some v => { out with aesiv := v, hasAesiv := true }
      | none =>
          match takeAttr line (ascii "a=fmtp:") sdpFmtpCap with
          | some v => { out with fmtp := v, hasFmtp := true }
          | none => out

/-- Strip one trailing `'\r'`. -/
def stripCr (line : Bytes) : Bytes := if line.getLast? = some 0x0d then line.dropLast else line

/-- The loop of `sdp_parse`, over the bytes from `body + i` on. -/
def sdpParseLoop (rest : Bytes) (out : SdpMedia) : SdpMedia :=
  if rest = [] then out
  else
    let line := rest.takeWhile (· ≠ 0x0a)
    sdpParseLoop (rest.drop (line.length + 1)) (sdpLine out (stripCr line))
termination_by rest.length
decreasing_by
  have := List.length_pos_iff.mpr ‹rest ≠ []›
  rw [List.length_drop]
  omega

/-- `sdp_parse`. -/
def sdpParse (body : Bytes) : SdpMedia :=
  sdpParseLoop body
    { rsaaeskey := [], aesiv := [], fmtp := []
      hasRsaaeskey := false, hasAesiv := false, hasFmtp := false }

/-- What is taken leaves room for the NUL. -/
theorem takeAttr_length {line attr v : Bytes} {dstsz : ℕ} (hd : 0 < dstsz)
    (h : takeAttr line attr dstsz = some v) : v.length < dstsz := by
  unfold takeAttr at h
  split at h
  · cases h
    have := List.length_take_le (dstsz - 1) (line.drop attr.length)
    unfold copyBounded
    omega
  · cases h

end ConduitStream
