import ConduitStream.Rtsp.Base64RoundTrip
import ConduitStream.Rtsp.Response
import ConduitStream.Session.ServerTask

/-! # The texts of the responses (`send_response` and the handlers of `raop.c`)

What `dispatch` and its handlers give to `rtsp_build_response`. Every text a handler prints fits into
its array (`optionsExtra_eq`, `setupLines_fit`), and with such extra headers the whole response fits
into the 1024 bytes of `send_response` (`rtspBuildResponse_responseArgs`). -/

namespace ConduitStream

/-! ## Arguments -/

/-- Extra headers, in an array of at most 512 bytes. -/
abbrev ExtraHeaders : Type := {text : Bytes // text.length ≤ 512}

/-- The characters of an array of that size. -/
def CharArray.extra {n : ℕ} (a : CharArray n) (h : n ≤ 512) : ExtraHeaders :=
  ⟨a.bytes, a.length_eq.trans_le h⟩

/-- The outside of one request, as far as the text of its response depends on it: the answers of
`getsockname` and `esp_read_mac`, the signature of the crypto library, which fits into an array of 256
bytes, and what is in a local array before it is written. -/
structure AnswerOutcome extends RequestOutcome where
  sockname : Option (CharArray 4)
  mac : CharArray 6
  psaSign : Bytes → Option {sig : Bytes // sig.length ≤ 256}
  stack : (n : ℕ) → CharArray n

/-- The arguments of `rtsp_build_response` in `send_response`, which no caller gives a body. -/
def responseArgs (status : ℕ) (reason : Bytes) (cseq : ℤ) (extra : Option ExtraHeaders) :
    ResponseArgs (2 ^ 32) 1024 where
  status := status
  reason := some reason
  cseq := if cseq < 0 then 0 else cseq
  extraHeaders := extra.map (·.val)
  body := none
  extra_fits e he := by
    obtain ⟨text, -, rfl⟩ := Option.map_eq_some_iff.mp he
    have hstr := (List.takeWhile_prefix (l := text.val) fun c : UInt8 => decide (c ≠ 0)).length_le
    have hlen := text.property
    show 1024 + (text.val.takeWhile fun c => decide (c ≠ 0)).length ≤ 2 ^ 32
    omega
  body_fits b hb := absurd hb (Option.not_mem_none b)

/-! ## The extra headers -/

/-- `raop_challenge_assemble`: the bytes to sign, `none` for `-1`. -/
def raopChallengeAssemble (challenge : Bytes) (ip4 : CharArray 4) (mac : CharArray 6) : Option Bytes :=
  if challenge.length ≠ 16 then none
  else some (challenge ++ ip4.bytes ++ mac.bytes ++ List.replicate 6 0)

/-- The text that answers an `Apple-Challenge`, if there is one: the signature in base64, up to its
padding. -/
def appleResponse (o : AnswerOutcome) (chal : Bytes) : Option Bytes := do
  let (cbuf, clen) := base64Decode (cstr chal) 32
  if clen ≠ 16 then none
  let buf32 ← raopChallengeAssemble cbuf (o.sockname.getD (.zero 4)) o.mac
  let sig ← o.psaSign buf32
  let (b64, n) := base64Encode sig.val 400
  if n ≤ 0 then none
  return (cstr b64).takeWhile (· ≠ 0x3d)

/-- The first line of the extra headers of OPTIONS. -/
def publicLine : Bytes :=
  ascii "Public: ANNOUNCE, SETUP, RECORD, PAUSE, FLUSH, TEARDOWN, OPTIONS, GET_PARAMETER, SET_PARAMETER" ++
    crlf

/-- `"Apple-Response: %s\r\n"`. -/
def appleResponseLine (b64 : Bytes) : Bytes := ascii "Apple-Response: " ++ b64 ++ crlf

/-- What `handle_options` writes to `extra`. -/
def optionsExtra (o : AnswerOutcome) (req : RtspRequest) : Option (CharArray 512) := do
  let (extra, n) ← snprintfAt (o.stack 512) 0 512 publicLine
  let eo := if 0 < n ∧ n < 512 then n.toNat else 0
  match (rtspHeaderGet req.headers (ascii "Apple-Challenge")).bind (appleResponse o) with
  | none => return extra
  | some b64 => return (← snprintfAt extra eo (512 - eo) (appleResponseLine b64)).1

/-- The extra headers of SETUP: `"...server_port=%u;control_port=%u;timing_port=%u\r\nSession: 1\r\n"`. -/
def setupLines (port : UdpRole → BitVec 16) : Bytes :=
  ascii "Transport: RTP/AVP/UDP;unicast;mode=record;server_port=" ++ formatNat (port .audio).toNat ++
    ascii ";control_port=" ++ formatNat (port .control).toNat ++
    ascii ";timing_port=" ++ formatNat (port .timing).toNat ++ crlf ++ ascii "Session: 1" ++ crlf

/-- `"Audio-Latency: 11025\r\n"`. -/
def audioLatencyLine : Bytes := ascii "Audio-Latency: 11025" ++ crlf

/-! ## What fits -/

/-- The answer to a challenge is the base64 text of a signature without its padding. -/
theorem appleResponse_eq_some {o : AnswerOutcome} {chal b64 : Bytes}
    (h : appleResponse o chal = some b64) :
    ∃ buf32 sig, o.psaSign buf32 = some sig ∧ b64 = base64Letters sig.val := by
  unfold appleResponse at h
  dsimp only at h
  split at h
  · cases h
  obtain ⟨buf32, -, h⟩ := Option.bind_eq_some_iff.mp h
  obtain ⟨sig, hsig, h⟩ := Option.bind_eq_some_iff.mp h
  refine ⟨buf32, sig, hsig, ?_⟩
  have hsize := length_base64Text sig.val
  have hlen := sig.property
  have hzero : 0 ∉ base64Text sig.val := by
    intro hmem
    rcases mem_base64Text hmem with h0 | ⟨v, hv⟩
    · exact absurd h0 (by decide)
    · cases hv
  have hfits : ¬400 < base64EncodedSize sig.val.length := by
    unfold base64EncodedSize
    omega
  split at h
  · cases h
  · cases h
    rw [base64Encode, if_neg hfits, base64EncodeLoop_eq, List.nil_append]
    dsimp only
    rw [cstr_append_zero hzero, takeWhile_base64Text]

/-- The line with the answer, of at most 342 letters. -/
theorem length_appleResponseLine (sig : {sig : Bytes // sig.length ≤ 256}) :
    (appleResponseLine (base64Letters sig.val)).length ≤ 362 := by
  have hsize := length_base64Text sig.val
  have hlen := sig.property
  unfold base64EncodedSize base64Text at hsize
  rw [List.length_append] at hsize
  simp only [appleResponseLine, List.length_append]
  rw [show (ascii "Apple-Response: ").length = 16 by decide, show crlf.length = 2 by decide]
  omega

/-- The line with the signature is a string without a NUL. -/
theorem zero_notMem_appleResponseLine (sig : Bytes) :
    0 ∉ appleResponseLine (base64Letters sig) := by
  have hletters : 0 ∉ base64Letters sig := by
    intro hmem
    obtain ⟨⟨v, hv⟩, -⟩ := mem_base64Letters hmem
    cases hv
  rw [appleResponseLine, List.mem_append, List.mem_append, not_or, not_or]
  exact ⟨⟨by decide, hletters⟩, by decide⟩

/-- The extra headers of OPTIONS: the methods, and the answer to a challenge if there is one. -/
def optionsText (o : AnswerOutcome) (req : RtspRequest) : Bytes :=
  publicLine ++
    ((rtspHeaderGet req.headers (ascii "Apple-Challenge")).bind (appleResponse o)).elim []
      appleResponseLine

/-- **Both lines fit into `extra`**, so the answer to a challenge is not cut. -/
theorem optionsExtra_eq (o : AnswerOutcome) (req : RtspRequest) :
    ∃ extra, optionsExtra o req = some extra ∧ extra.str = optionsText o req ∧
      (optionsText o req).length ≤ 511 := by
  have hpublic : publicLine.length = 96 := by decide +kernel
  have hnul : 0 ∉ publicLine := by decide +kernel
  obtain ⟨extra, hrun, hstr, htake⟩ :=
    @snprintfAt_str 512 (o.stack 512) 0 publicLine (by omega) (by simpa using hnul)
  rw [Nat.zero_add, hpublic] at htake
  rw [printedLength_of_lt (by omega), hpublic] at hrun
  rw [List.take_zero, List.nil_append] at hstr htake
  unfold optionsExtra optionsText
  rw [hrun, Option.bind_eq_bind, Option.bind_some]
  cases hresponse : (rtspHeaderGet req.headers (ascii "Apple-Challenge")).bind (appleResponse o) with
  | none => exact ⟨extra, rfl, by simpa using hstr, by simp [hpublic]⟩
  | some b64 =>
      obtain ⟨chal, -, hchal⟩ := Option.bind_eq_some_iff.mp hresponse
      obtain ⟨-, sig, -, rfl⟩ := appleResponse_eq_some hchal
      have hline := length_appleResponseLine sig
      have hzero : 0 ∉ extra.bytes.take 96 ++ appleResponseLine (base64Letters sig.val) := by
        rw [htake, List.mem_append, not_or]
        exact ⟨hnul, zero_notMem_appleResponseLine sig.val⟩
      obtain ⟨extra', hrun', hstr', -⟩ := @snprintfAt_str 512 extra 96 _ (by omega) hzero
      refine ⟨extra', ?_, ?_, ?_⟩
      · show (snprintfAt extra 96 (512 - 96) _).bind _ = _
        rw [hrun']
        rfl
      · rw [hstr', htake]
        rfl
      · rw [List.length_append, hpublic, Option.elim_some]
        omega

/-- The lines with the ports fit into `extra`, whatever the ports are. -/
theorem setupLines_fit (port : UdpRole → BitVec 16) (a : CharArray 256) :
    ∃ extra, snprintfAt a 0 256 (setupLines port) = some (extra, ((setupLines port).length : ℤ)) ∧
      extra.str = setupLines port ∧ (setupLines port).length ≤ 255 := by
  have hlen : ∀ n : BitVec 16, (formatNat n.toNat).length ≤ 5 := fun n =>
    (formatNat_length_le_iff (by decide)).mpr (Nat.lt_trans n.isLt (by decide))
  have htext : (setupLines port).length ≤ 255 := by
    have haudio := hlen (port .audio)
    have hcontrol := hlen (port .control)
    have htiming := hlen (port .timing)
    have hfirst : (ascii "Transport: RTP/AVP/UDP;unicast;mode=record;server_port=").length = 55 := by
      decide +kernel
    simp only [setupLines, List.length_append, hfirst]
    rw [show (ascii ";control_port=").length = 14 by decide,
      show (ascii ";timing_port=").length = 13 by decide,
      show (ascii "Session: 1").length = 10 by decide, show crlf.length = 2 by decide]
    omega
  have hzero : 0 ∉ setupLines port := by
    have hfirst : 0 ∉ ascii "Transport: RTP/AVP/UDP;unicast;mode=record;server_port=" := by
      decide +kernel
    simp only [setupLines, List.mem_append, not_or]
    exact ⟨⟨⟨⟨⟨⟨⟨⟨hfirst, zero_notMem_formatNat _⟩, by decide⟩, zero_notMem_formatNat _⟩, by decide⟩,
      zero_notMem_formatNat _⟩, by decide⟩, by decide⟩, by decide⟩
  obtain ⟨extra, hrun, hstr, -⟩ :=
    @snprintfAt_str 256 a 0 (setupLines port) (by omega) (by simpa using hzero)
  rw [printedLength_of_lt (by omega)] at hrun
  exact ⟨extra, hrun, by simpa using hstr, htext⟩

/-- The text of a response without a body. -/
def responseText (status : ℕ) (reason : Bytes) (cseq : ℤ) (extra : Bytes) : Bytes :=
  statusLine status (some reason) ++ (cseqLine cseq ++ (serverLine ++ (extra ++ crlf)))

/-- **The response fits into 1024 bytes**, if the extra headers leave room for the rest. -/
theorem responseText_fits {status : ℕ} {reason : Bytes} {cseq : ℤ} {extra : Bytes}
    (hstatus : status < 10 ^ 3) (hreason : reason.length ≤ 21) (hpos : 0 ≤ cseq)
    (hcseq : cseq ≤ longMax) (hextra : extra.length ≤ 511) :
    0 < (responseText status reason cseq extra).length ∧
      (responseText status reason cseq extra).length < 1024 := by
  have hline : (statusLine status (some reason)).length ≤ 37 := by
    have hnum := @formatInt_length_le status 3 (by decide) (by omega)
    have hcut := (List.takeWhile_prefix (l := reason) fun c : UInt8 => decide (c ≠ 0)).length_le
    simp only [statusLine, List.length_append, Option.getD_some, cstr]
    rw [show (ascii "RTSP/1.0 ").length = 9 by decide, show (ascii " ").length = 1 by decide,
      show crlf.length = 2 by decide]
    omega
  have hcseqLine : (cseqLine cseq).length ≤ 19 := by
    have hnum := @formatInt_length_le cseq 10 (by decide) (by unfold longMax at hcseq; omega)
    simp only [cseqLine, List.length_append]
    rw [show (ascii "CSeq: ").length = 6 by decide, show crlf.length = 2 by decide]
    omega
  simp only [responseText, List.length_append]
  rw [show serverLine.length = 21 by decide, show crlf.length = 2 by decide]
  omega

/-- **The buffer of `send_response` is enough**: what `rtsp_build_response` returns is the whole
response. -/
theorem rtspBuildResponse_responseArgs {status : ℕ} {reason : Bytes} {cseq : ℤ}
    {extra : Option ExtraHeaders} {text : Bytes} (hstatus : status < 10 ^ 3)
    (hreason : reason.length ≤ 21) (hcseq : cseq ≤ longMax)
    (hextra : extra.elim [] (fun e => cstr e.val) = text) (hlen : text.length ≤ 511)
    (a : CharArray 1024) :
    ∃ out n, rtspBuildResponse (responseArgs status reason cseq extra) a = some (out, n) ∧ 0 < n ∧
      out.bytes.take n.toNat = responseText status reason (if cseq < 0 then 0 else cseq) text := by
  have hheader : (responseArgs status reason cseq extra).headerText
      = responseText status reason (if cseq < 0 then 0 else cseq) text := by
    rw [← hextra]
    cases extra <;> rfl
  obtain ⟨hpos, hfits⟩ := @responseText_fits status reason (if cseq < 0 then 0 else cseq) text
    hstatus hreason (by split <;> omega) (by unfold longMax at hcseq ⊢; split <;> omega) hlen
  obtain ⟨out, hrun, htake⟩ := @rtspBuildResponse_of_fits _ _ (responseArgs status reason cseq extra)
    (by decide) ⟨by rw [hheader]; exact hfits, by rw [hheader]; exact hfits.le⟩ a
  rw [ResponseArgs.bodyBytes, show (responseArgs status reason cseq extra).body.getD [] = [] from rfl,
    List.append_nil, hheader] at hrun htake
  exact ⟨out, _, hrun, by exact_mod_cast hpos, by rw [Int.toNat_natCast, htake]⟩

end ConduitStream
