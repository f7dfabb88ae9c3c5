import Mathlib.Data.Int.Basic
import ConduitStream.Foundations.ByteString

/-! # The RTSP request parser (`rtsp_parser.c`)

`rtsp_parse_request` waits for the blank line, splits the request line at its first two spaces,
fills a bounded table of header names and values, and clamps the body to the `Content-Length` it
finds in that table. Every copied field is truncated to its array.

* `rtspParseRequest_stable`: what follows a complete request does not change the result;
* `rtspParseRequest_bounds`: an accepted request takes at least the blank line and no more than the
  buffer. -/

namespace ConduitStream

/-- `RTSP_MAX_HEADERS`. -/
def rtspMaxHeaders : ℕ := 20

/-- `RTSP_MAX_NAME`. -/
def rtspMaxName : ℕ := 32

/-- `RTSP_MAX_VALUE`. -/
def rtspMaxValue : ℕ := 384

/-- `rtsp_header_t`: the bytes copied into each array, without the terminating NUL. -/
structure RtspHeader where
  name : Bytes
  value : Bytes
  deriving DecidableEq, Repr

/-- `rtsp_request_t`; `header_count` is the length of `headers`, `body_len` the length of `body`
(the null pointer is the empty body), and `valid` is true exactly when there is a result. -/
structure RtspRequest where
  method : Bytes
  uri : Bytes
  version : Bytes
  headers : List RtspHeader
  body : Bytes
  totalLen : ℕ
  deriving DecidableEq, Repr

/-- The two bytes `"\r\n"`. -/
def crlf : Bytes := [0x0d, 0x0a]

/-- `copy_bounded` into an array of `dstsz` bytes: what precedes the NUL it writes. -/
def copyBounded (dstsz : ℕ) (src : Bytes) : Bytes := src.take (dstsz - 1)

/-- `find_crlf`, over the bytes from `s` to `end`. -/
def findCrlf (s : Bytes) : Option ℕ := findSeq crlf s

/-- The header terminator: the first blank line `"\r\n\r\n"`. -/
def findTerm (buf : Bytes) : Option ℕ := findSeq (crlf ++ crlf) buf

/-- The request line `METHOD SP URI SP VERSION`: method, URI and version. -/
def parseRequestLine (line : Bytes) : Bytes × Bytes × Bytes :=
  match memchr line 0x20 with
  | none => (copyBounded 16 line, [], [])
  | some sp1 =>
      let u := line.drop (sp1 + 1)
      match memchr u 0x20 with
      | none => (copyBounded 16 (line.take sp1), copyBounded 128 u, [])
      | some sp2 =>
          (copyBounded 16 (line.take sp1), copyBounded 128 (u.take sp2),
            copyBounded 16 (u.drop (sp2 + 1)))

/-- Drop one leading space. -/
def trimSpace (s : Bytes) : Bytes := if s.head? = some 0x20 then s.tail else s

/-- One header line: added to the table if it has a colon and the table has room. -/
def parseHeaderLine (headers : List RtspHeader) (line : Bytes) : List RtspHeader :=
  match memchr line 0x3a with
  | none => headers
  | some colon =>
      if headers.length < rtspMaxHeaders then
        headers ++ [{ name := copyBounded rtspMaxName (line.take colon)
                      value := copyBounded rtspMaxValue (trimSpace (line.drop (colon + 1))) }]
      else headers

/-- The header loop, over the bytes from `hp` to `term + 2`; `hp < term` says that more than two of
them are left. -/
def parseHeaders (block : Bytes) (headers : List RtspHeader) : List RtspHeader :=
  if block.length ≤ 2 then headers
  else
    match findCrlf block with
    | none => headers
    | some he =>
        if he = 0 then headers
        else parseHeaders (block.drop (he + 2)) (parseHeaderLine headers (block.take he))
termination_by block.length
decreasing_by rw [List.length_drop]; omega

/-- `rtsp_header_get`. -/
def rtspHeaderGet (headers : List RtspHeader) (name : Bytes) : Option Bytes :=
  (headers.find? fun h => strcasecmpEq h.name name).map (·.value)

/-- A header read as a non-negative number: `-1` if it is absent, not a number, or negative. -/
def rtspHeaderLong (headers : List RtspHeader) (name : Bytes) : ℤ :=
  match (rtspHeaderGet headers name).bind fun v => strtol (cstr v) with
  | none => -1
  | some n => if n < 0 then -1 else n

/-- It is `-1` or a number that fits into a `long`. -/
theorem rtspHeaderLong_bounds (headers : List RtspHeader) (name : Bytes) :
    -1 ≤ rtspHeaderLong headers name ∧ rtspHeaderLong headers name ≤ longMax := by
  unfold rtspHeaderLong
  cases hn : (rtspHeaderGet headers name).bind fun v => strtol (cstr v) with
  | none => exact ⟨le_rfl, by decide⟩
  | some n =>
      obtain ⟨v, -, hv⟩ := Option.bind_eq_some_iff.mp hn
      have hle := strtol_le hv
      dsimp only
      split <;> omega

/-- `rtsp_content_length`. -/
def rtspContentLength (headers : List RtspHeader) : ℤ :=
  rtspHeaderLong headers (ascii "Content-Length")

/-- `rtsp_cseq`; the conversion from `long` to `int` keeps the value on the 32-bit target. -/
def rtspCseq (headers : List RtspHeader) : ℤ := rtspHeaderLong headers (ascii "CSeq")

/-- The request line and the header table, read from the `term + 2` bytes up to the end of the last
header line. -/
def parseHead (head : Bytes) : Option ((Bytes × Bytes × Bytes) × List RtspHeader) :=
  (findCrlf head).map fun rlEnd =>
    (parseRequestLine (head.take rlEnd), parseHeaders (head.drop (rlEnd + 2)) [])

/-- `rtsp_parse_request`: `none` for false. -/
def rtspParseRequest (buf : Bytes) : Option RtspRequest :=
  match findTerm buf with
  | none => none
  | some term =>
      match parseHead (buf.take (term + 2)) with
      | none => none
      | some ((method, uri, version), headers) =>
          let avail := buf.length - (term + 4)
          let cl := rtspContentLength headers
          if cl < 0 then
            some { method, uri, version, headers, body := [], totalLen := term + 4 }
          else if avail < cl.toNat then none
          else
            some { method, uri, version, headers
                   body := (buf.drop (term + 4)).take cl.toNat
                   totalLen := term + 4 + cl.toNat }

/-! ## What the parser accepts -/

/-- A line end can be searched for. -/
theorem crlf_ne_nil : crlf ≠ [] := by decide

/-- So can the end of the header block. -/
theorem crlf_append_crlf_ne_nil : crlf ++ crlf ≠ [] := by decide

/-- The four bytes of the end are inside the buffer. -/
theorem findTerm_add_four_le {buf : Bytes} {term : ℕ} (h : findTerm buf = some term) :
    term + 4 ≤ buf.length := findSeq_add_length_le crlf_append_crlf_ne_nil h

/-- **What an accepted request looks like**: the terminator has been found, the head has been read
from the bytes before it, and the body is complete. -/
theorem rtspParseRequest_eq_some {buf : Bytes} {req : RtspRequest}
    (h : rtspParseRequest buf = some req) :
    ∃ term, findTerm buf = some term ∧
      parseHead (buf.take (term + 2)) = some ((req.method, req.uri, req.version), req.headers) ∧
      (rtspContentLength req.headers).toNat ≤ buf.length - (term + 4) ∧
      req.totalLen = term + 4 + (rtspContentLength req.headers).toNat ∧
      req.body = (buf.drop (term + 4)).take (rtspContentLength req.headers).toNat := by
  unfold rtspParseRequest at h
  cases ht : findTerm buf with
  | none => rw [ht] at h; cases h
  | some term =>
      rw [ht] at h
      dsimp only at h
      cases hh : parseHead (buf.take (term + 2)) with
      | none => rw [hh] at h; cases h
      | some p =>
          obtain ⟨⟨method, uri, version⟩, headers⟩ := p
          rw [hh] at h
          dsimp only at h
          refine ⟨term, rfl, ?_⟩
          split_ifs at h with h1 h2
          · -- without a positive Content-Length there is no body
            cases h
            have h0 : (rtspContentLength headers).toNat = 0 := by omega
            simp [hh, h0]
          · cases h
            exact ⟨hh, not_lt.mp h2, rfl, rfl⟩

/-- The other direction: such a request is accepted. -/
theorem rtspParseRequest_of_parts {buf : Bytes} {term : ℕ} {line : Bytes × Bytes × Bytes}
    {headers : List RtspHeader} (ht : findTerm buf = some term)
    (hh : parseHead (buf.take (term + 2)) = some (line, headers))
    (hc : (rtspContentLength headers).toNat ≤ buf.length - (term + 4)) :
    rtspParseRequest buf = some
      { method := line.1, uri := line.2.1, version := line.2.2, headers := headers
        body := (buf.drop (term + 4)).take (rtspContentLength headers).toNat
        totalLen := term + 4 + (rtspContentLength headers).toNat } := by
  obtain ⟨method, uri, version⟩ := line
  unfold rtspParseRequest
  rw [ht]
  dsimp only
  rw [hh]
  dsimp only
  by_cases h1 : rtspContentLength headers < 0
  · have h0 : (rtspContentLength headers).toNat = 0 := by omega
    rw [if_pos h1, h0]
    rfl
  · rw [if_neg h1, if_neg (not_lt.mpr hc)]

/-- **Bounds**: an accepted request takes at least the four bytes of the blank line and at most the
whole buffer. -/
theorem rtspParseRequest_bounds {buf : Bytes} {req : RtspRequest}
    (h : rtspParseRequest buf = some req) : 4 ≤ req.totalLen ∧ req.totalLen ≤ buf.length := by
  obtain ⟨term, ht, -, hc, htot, -⟩ := rtspParseRequest_eq_some h
  have := findTerm_add_four_le ht
  omega

/-- **Extension**: a complete request is read the same whatever follows it. -/
theorem rtspParseRequest_stable {buf : Bytes} {req : RtspRequest}
    (h : rtspParseRequest buf = some req) (t : Bytes) :
    rtspParseRequest (buf ++ t) = some req := by
  obtain ⟨term, ht, hh, hc, htot, hbody⟩ := rtspParseRequest_eq_some h
  have hle := findTerm_add_four_le ht
  have ht' : findTerm (buf ++ t) = some term := findSeq_append crlf_append_crlf_ne_nil ht t
  have hhead : (buf ++ t).take (term + 2) = buf.take (term + 2) :=
    List.take_append_of_le_length (by omega)
  have hrest : ((buf ++ t).drop (term + 4)).take (rtspContentLength req.headers).toNat
      = (buf.drop (term + 4)).take (rtspContentLength req.headers).toNat := by
    rw [List.drop_append_of_le_length hle,
      List.take_append_of_le_length (by rw [List.length_drop]; exact hc)]
  rw [rtspParseRequest_of_parts ht' (by rw [hhead]; exact hh)
    (by rw [List.length_append]; omega), hrest, ← hbody, ← htot]

end ConduitStream
