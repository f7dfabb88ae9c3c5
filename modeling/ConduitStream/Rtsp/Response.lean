import ConduitStream.Foundations.BoundedText
import ConduitStream.Rtsp.Parser

/-! # Responses (`rtsp_build_response` in `rtsp_parser.c`)

The header of a response is printed line by line, with the extra lines copied in between, and the body
is copied behind it. The printed lines need room for a NUL, the body does not.
`rtspBuildResponse_whole_or_nothing` says when both fit, and that nothing else is returned. -/

namespace ConduitStream

/-- The arguments of `rtsp_build_response` behind `out_cap`; `none` is `NULL`. Addresses are below
`sizeMax`, so that the buffer and a text next to it have a length below it. -/
structure ResponseArgs (sizeMax outCap : ℕ) where
  status : ℤ
  reason : Option Bytes
  cseq : ℤ
  extraHeaders : Option Bytes
  body : Option Bytes
  extra_fits : ∀ e ∈ extraHeaders, outCap + (cstr e).length ≤ sizeMax
  body_fits : ∀ b ∈ body, outCap + b.length ≤ sizeMax

/-! ## The lines -/

/-- `"RTSP/1.0 %d %s\r\n"`. -/
def statusLine (status : ℤ) (reason : Option Bytes) : Bytes :=
  ascii "RTSP/1.0 " ++ formatInt status ++ ascii " " ++ cstr (reason.getD []) ++ crlf

/-- `"CSeq: %d\r\n"`. -/
def cseqLine (cseq : ℤ) : Bytes := ascii "CSeq: " ++ formatInt cseq ++ crlf

/-- `"Server: Conduit/1.0\r\n"`. -/
def serverLine : Bytes := ascii "Server: Conduit/1.0" ++ crlf

/-- `"Content-Length: %zu\r\n"`. -/
def contentLengthLine (bodyLen : ℕ) : Bytes := ascii "Content-Length: " ++ formatNat bodyLen ++ crlf

/-! ## The function -/

/-- `APPEND_FMT`, given what is to be printed. -/
def appendFmt (outCap : ℕ) (text : Bytes) : Filler outCap := fun out off =>
  if outCap ≤ off then some (out, none)
  else do
    let (out, n) ← snprintfAt out off (outCap - off) text
    if n < 0 ∨ ((outCap - off : ℕ) : ℤ) ≤ n then return (out, none)
    return (out, some (off + n.toNat))

/-- The copy of the extra headers. -/
def appendExtra (sizeMax outCap : ℕ) (text : Bytes) : Filler outCap := fun out off =>
  if outCap ≤ (off + text.length) % sizeMax then some (out, none)
  else do
    let out ← out.store off text
    return (out, some ((off + text.length) % sizeMax))

/-- The copy of the body. -/
def appendBody (sizeMax outCap : ℕ) (body : Bytes) : Filler outCap := fun out off =>
  if body.length = 0 then some (out, some off)
  else if outCap < (off + body.length) % sizeMax then some (out, none)
  else do
    let out ← out.store off body
    return (out, some ((off + body.length) % sizeMax))

section Build

variable {sizeMax outCap : ℕ} (a : ResponseArgs sizeMax outCap)

/-- The header, up to the blank line. -/
def appendHeader : Filler outCap :=
  (appendFmt outCap (statusLine a.status a.reason)).andThen <|
  (appendFmt outCap (cseqLine a.cseq)).andThen <|
  (appendFmt outCap serverLine).andThen <|
  (match a.extraHeaders with
    | some e => appendExtra sizeMax outCap (cstr e)
    | none => .skip).andThen <|
  (match a.body with
    | some b => appendFmt outCap (contentLengthLine b.length)
    | none => .skip).andThen <|
  appendFmt outCap crlf

/-- The last block of `rtsp_build_response`. -/
def appendBodyIfAny : Filler outCap :=
  match a.body with
  | some b => appendBody sizeMax outCap b
  | none => .skip

/-- `rtsp_build_response`: the buffer afterwards, and the result. -/
def rtspBuildResponse (out : CharArray outCap) : Option (CharArray outCap × ℤ) := do
  let (out, off) ← (appendHeader a).andThen (appendBodyIfAny a) out 0
  match off with
  -- an early `return -1`
  | none => return (out, -1)
  | some off => return (out, (BitVec.ofNat 32 off).toInt)

/-! ## What it writes -/

/-- The text of the header. -/
def ResponseArgs.headerText : Bytes :=
  statusLine a.status a.reason ++ (cseqLine a.cseq ++ (serverLine ++
    (a.extraHeaders.elim [] cstr ++
      (a.body.elim [] (fun b => contentLengthLine b.length) ++ crlf))))

/-- The bytes of the body. -/
def ResponseArgs.bodyBytes : Bytes := a.body.getD []

/-- **A printed line needs room for a NUL**, which the next one overwrites. -/
theorem appends_appendFmt (hcap : outCap < 2 ^ 31) (text : Bytes) :
    Appends text (appendFmt outCap text) where
  fits out off hfits := by
    obtain ⟨out', hrun, htake⟩ := @snprintfAt_spec _ out off (outCap - off) (by omega) text
    rw [printedLength_of_lt (by omega)] at hrun
    unfold appendFmt
    rw [if_neg (by omega), hrun, Option.bind_eq_bind, Option.bind_some]
    dsimp only
    rw [if_neg (by omega), Int.toNat_natCast]
    exact ⟨out', rfl, (htake (by omega)).1⟩
  full out off hoff hfull := by
    obtain ⟨out', hrun, -⟩ := @snprintfAt_spec _ out off (outCap - off) (by omega) text
    have hreturn : printedLength text < 0 ∨ ((outCap - off : ℕ) : ℤ) ≤ printedLength text := by
      unfold printedLength
      split
      · exact .inr (by omega)
      · exact .inl (by omega)
    unfold appendFmt
    rw [if_neg (by omega), hrun, Option.bind_eq_bind, Option.bind_some]
    dsimp only
    rw [if_pos hreturn]
    exact ⟨out', rfl⟩

/-- **So do the extra headers**: the blank line is still to come. -/
theorem appends_appendExtra {text : Bytes} (hsize : outCap + text.length ≤ sizeMax) :
    Appends text (appendExtra sizeMax outCap text) where
  fits out off hfits := by
    obtain ⟨out', hrun, htake⟩ := @CharArray.store_spec _ out off text (by omega)
    unfold appendExtra
    rw [Nat.mod_eq_of_lt (by omega), if_neg (by omega), hrun]
    exact ⟨out', rfl, htake⟩
  full out off hoff hfull := by
    unfold appendExtra
    rw [Nat.mod_eq_of_lt (by omega), if_pos hfull]
    exact ⟨out, rfl⟩

/-- **The header is written in full or not at all.** -/
theorem appends_appendHeader (hcap : outCap < 2 ^ 31) : Appends a.headerText (appendHeader a) := by
  have hextra : Appends (a.extraHeaders.elim [] cstr)
      (match a.extraHeaders with
        | some e => appendExtra sizeMax outCap (cstr e)
        | none => .skip) := by
    cases he : a.extraHeaders with
    | none => exact .skip
    | some e => exact appends_appendExtra (a.extra_fits e he)
  have hlength : Appends (a.body.elim [] fun b => contentLengthLine b.length)
      (match a.body with
        | some b => appendFmt outCap (contentLengthLine b.length)
        | none => .skip) := by
    cases a.body with
    | none => exact .skip
    | some b => exact appends_appendFmt hcap _
  exact (appends_appendFmt hcap _).andThen <| (appends_appendFmt hcap _).andThen <|
    (appends_appendFmt hcap _).andThen <| hextra.andThen <| hlength.andThen <|
    appends_appendFmt hcap _

/-- **The body needs no room behind it.** -/
theorem appendBodyIfAny_spec (out : CharArray outCap) {off : ℕ} (hoff : off < outCap) :
    ∃ out', appendBodyIfAny a out off =
        some (out', if off + a.bodyBytes.length ≤ outCap then some (off + a.bodyBytes.length) else none) ∧
      (off + a.bodyBytes.length ≤ outCap →
        out'.bytes.take (off + a.bodyBytes.length) = out.bytes.take off ++ a.bodyBytes) := by
  -- without a byte nothing is written
  have hnone : some (out, some off) =
      some (out, if off + ([] : Bytes).length ≤ outCap then some (off + ([] : Bytes).length) else none) :=
    congrArg (fun o => some (out, o)) (if_pos (show off + 0 ≤ outCap by omega)).symm
  unfold appendBodyIfAny ResponseArgs.bodyBytes
  cases hb : a.body with
  | none => exact ⟨out, hnone, fun _ => (List.append_nil _).symm⟩
  | some b =>
      have hfits := a.body_fits b hb
      dsimp only [Option.getD_some]
      unfold appendBody
      by_cases hempty : b.length = 0
      · rw [if_pos hempty, List.length_eq_zero_iff.mp hempty]
        exact ⟨out, hnone, fun _ => (List.append_nil _).symm⟩
      rw [if_neg hempty, Nat.mod_eq_of_lt (by omega)]
      by_cases hroom : off + b.length ≤ outCap
      · obtain ⟨out', hrun, htake⟩ := @CharArray.store_spec _ out off b (by omega)
        rw [if_neg (by omega), if_pos hroom, hrun]
        exact ⟨out', rfl, fun _ => htake⟩
      · rw [if_pos (by omega), if_neg hroom]
        exact ⟨out, rfl, fun h => absurd h hroom⟩

/-- The response fits into the buffer. -/
def ResponseArgs.Fits : Prop :=
  a.headerText.length < outCap ∧ a.headerText.length + a.bodyBytes.length ≤ outCap

variable {a}

/-- A response that fits is written. -/
theorem rtspBuildResponse_of_fits (hcap : outCap < 2 ^ 31) (hfits : a.Fits) (out : CharArray outCap) :
    ∃ out' : CharArray outCap,
      rtspBuildResponse a out = some (out', ((a.headerText ++ a.bodyBytes).length : ℤ)) ∧
        out'.bytes.take (a.headerText ++ a.bodyBytes).length = a.headerText ++ a.bodyBytes := by
  obtain ⟨hheader, htotal⟩ := hfits
  obtain ⟨out₁, hrun₁, htake₁⟩ := (appends_appendHeader a hcap).fits out 0 (by omega)
  rw [Nat.zero_add] at hrun₁ htake₁
  obtain ⟨out₂, hrun₂, htake₂⟩ := appendBodyIfAny_spec a out₁ hheader
  rw [if_pos htotal] at hrun₂
  rw [List.length_append]
  refine ⟨out₂, ?_, ?_⟩
  · have hrun : (appendHeader a).andThen (appendBodyIfAny a) out 0
        = some (out₂, some (a.headerText.length + a.bodyBytes.length)) := by
      rw [Filler.andThen, hrun₁]
      exact hrun₂
    have hint : (BitVec.ofNat 32 (a.headerText.length + a.bodyBytes.length)).toInt
        = ((a.headerText.length + a.bodyBytes.length : ℕ) : ℤ) := by
      have hsmall : (BitVec.ofNat 32 (a.headerText.length + a.bodyBytes.length)).toNat
          = a.headerText.length + a.bodyBytes.length := by
        rw [BitVec.toNat_ofNat, Nat.mod_eq_of_lt (by omega)]
      rw [BitVec.toInt_eq_toNat_of_lt (by omega), hsmall]
    unfold rtspBuildResponse
    rw [hrun, ← hint]
    rfl
  · rw [htake₂ htotal, htake₁, List.take_zero, List.nil_append]

/-- Any other response is refused, and what was written of it is not sent. -/
theorem rtspBuildResponse_of_not_fits (hcap : outCap < 2 ^ 31) (hfits : ¬a.Fits)
    (out : CharArray outCap) : ∃ out', rtspBuildResponse a out = some (out', -1) := by
  suffices hrun : ∃ out', (appendHeader a).andThen (appendBodyIfAny a) out 0 = some (out', none) by
    obtain ⟨out', hrun⟩ := hrun
    refine ⟨out', ?_⟩
    unfold rtspBuildResponse
    rw [hrun]
    rfl
  unfold Filler.andThen
  by_cases hheader : a.headerText.length < outCap
  · -- the header fits, the body does not
    have hbody : ¬a.headerText.length + a.bodyBytes.length ≤ outCap := fun h => hfits ⟨hheader, h⟩
    obtain ⟨out₁, hrun₁, -⟩ := (appends_appendHeader a hcap).fits out 0 (by omega)
    obtain ⟨out₂, hrun₂, -⟩ := appendBodyIfAny_spec a out₁ hheader
    rw [if_neg hbody] at hrun₂
    refine ⟨out₂, ?_⟩
    rw [hrun₁, Nat.zero_add]
    exact hrun₂
  · rcases Nat.eq_zero_or_pos outCap with rfl | hpos
    · -- there is no room for anything
      exact ⟨out, rfl⟩
    · obtain ⟨out₁, hrun₁⟩ := (appends_appendHeader a hcap).full out 0 hpos (by omega)
      rw [hrun₁]
      exact ⟨out₁, rfl⟩

/-- **A response is built in full or not at all**: the function stays inside the buffer, it returns a
length exactly if the header is shorter than the buffer and header and body fit into it, the buffer
then begins with exactly these, and else it returns -1. -/
theorem rtspBuildResponse_whole_or_nothing (hcap : outCap < 2 ^ 31) (a : ResponseArgs sizeMax outCap)
    (out : CharArray outCap) :
    ∃ (out' : CharArray outCap) (n : ℤ), rtspBuildResponse a out = some (out', n) ∧
      (0 ≤ n ↔ a.headerText.length < outCap ∧
        a.headerText.length + a.bodyBytes.length ≤ outCap) ∧
      (0 ≤ n → n = (a.headerText ++ a.bodyBytes).length ∧
        out'.bytes.take n.toNat = a.headerText ++ a.bodyBytes) ∧
      (¬0 ≤ n → n = -1) := by
  by_cases hfits : a.Fits
  · obtain ⟨out', hrun, htake⟩ := rtspBuildResponse_of_fits hcap hfits out
    refine ⟨out', _, hrun, iff_of_true (by omega) hfits, fun _ => ⟨rfl, ?_⟩, ?_⟩
    · rw [Int.toNat_natCast]
      exact htake
    · exact fun h => absurd (Int.natCast_nonneg _) h
  · obtain ⟨out', hrun⟩ := rtspBuildResponse_of_not_fits hcap hfits out
    exact ⟨out', -1, hrun, iff_of_false (by decide) hfits, fun h => absurd h (by decide),
      fun _ => rfl⟩

end Build

/-- A response of 70 bytes. -/
def sampleResponse : ResponseArgs (2 ^ 32) 70 where
  status := 200
  reason := some (ascii "OK")
  cseq := 7
  extraHeaders := none
  body := some (ascii "hi")
  extra_fits := by simp
  body_fits := by decide

/-- It fills a buffer up to the last byte. -/
theorem rtspBuildResponse_whole_or_nothing_exact :
    ∃ out' : CharArray 70, rtspBuildResponse sampleResponse (.zero 70) = some (out', 70) ∧
      out'.bytes.take 70 = sampleResponse.headerText ++ ascii "hi" := by
  obtain ⟨out', n, hrun, hiff, hwhole, -⟩ :=
    rtspBuildResponse_whole_or_nothing (by decide) sampleResponse (.zero 70)
  have hlength : (sampleResponse.headerText ++ sampleResponse.bodyBytes).length = 70 := by
    decide +kernel
  obtain ⟨rfl, htake⟩ := hwhole (hiff.mpr (by decide +kernel))
  rw [hlength] at hrun htake
  exact ⟨out', hrun, htake⟩

end ConduitStream
