import ConduitStream.Rtsp.RequestHead

/-! # Reading a written request back

`WrittenRequest` is a request that fits the arrays of the parser, `WrittenRequest.text` how it is
written. `rtspParseRequest_text` is the round trip: the parser reads every field back and consumes
exactly what was written, whatever follows; and a look-up in the table it fills finds the first
header of a name in any letter case. -/

namespace ConduitStream

/-- Two names are the same up to letter case. -/
def sameName (s t : Bytes) : Bool := s.map toLower = t.map toLower

/-- `strcasecmp` sees the whole of a name without a NUL. -/
theorem strcasecmpEq_of_notMem {s : Bytes} (hs : 0 ∉ s) (t : Bytes) :
    strcasecmpEq s t = sameName s (cstr t) := by
  rw [strcasecmpEq, cstr_eq_self hs, sameName]

/-! ## Requests that fit the arrays -/

/-- A part of the request line: not empty, without blanks, line ends and NULs, and short enough for
an array of `n` bytes. -/
structure IsToken (n : ℕ) (s : Bytes) : Prop where
  ne_nil : s ≠ []
  length_lt : s.length < n
  plain : 0x20 ∉ s ∧ 0x0d ∉ s ∧ 0x0a ∉ s ∧ 0 ∉ s

/-- A header that can be written as a line and fits its entry in the table. -/
structure FitsEntry (h : RtspHeader) : Prop where
  name_ne_nil : h.name ≠ []
  name_length_lt : h.name.length < rtspMaxName
  name_plain : 0x3a ∉ h.name ∧ 0x0d ∉ h.name ∧ 0x0a ∉ h.name ∧ 0 ∉ h.name
  value_length_lt : h.value.length < rtspMaxValue
  value_plain : 0x0d ∉ h.value ∧ 0x0a ∉ h.value ∧ 0 ∉ h.value

/-- A request to be written; `contentLength` says that it declares the length of its body exactly if
it has one. -/
structure WrittenRequest where
  method : Bytes
  uri : Bytes
  version : Bytes
  headers : List RtspHeader
  body : Bytes
  method_token : IsToken 16 method
  uri_token : IsToken 128 uri
  version_token : IsToken 16 version
  headers_fit : ∀ h ∈ headers, FitsEntry h
  headers_length_le : headers.length ≤ rtspMaxHeaders
  body_length_lt : body.length < 2 ^ 31
  contentLength :
    (headers.filter fun h => sameName h.name (ascii "Content-Length")).map (·.value)
      = if body = [] then [] else [formatNat body.length]

/-- `METHOD SP URI SP VERSION`. -/
def WrittenRequest.requestLine (r : WrittenRequest) : Bytes :=
  r.method ++ 0x20 :: (r.uri ++ 0x20 :: r.version)

/-- The request as it is written. -/
def WrittenRequest.text (r : WrittenRequest) : Bytes :=
  requestHead r.requestLine r.headers ++ r.body

/-- Such a request, with its `Content-Length` in small letters. -/
example : ∃ r : WrittenRequest,
    r.text = ascii "SET_PARAMETER * RTSP/1.0\r\ncontent-length: 3\r\n\r\nabc" :=
  ⟨{ method := ascii "SET_PARAMETER", uri := ascii "*", version := ascii "RTSP/1.0"
     headers := [⟨ascii "content-length", ascii "3"⟩]
     body := ascii "abc"
     method_token := ⟨by decide, by decide, by decide⟩
     uri_token := ⟨by decide, by decide, by decide⟩
     version_token := ⟨by decide, by decide, by decide⟩
     headers_fit := fun h hh => by
       cases List.mem_singleton.mp hh
       exact ⟨by decide, by decide, by decide, by decide, by decide⟩
     headers_length_le := by decide
     body_length_lt := by decide
     contentLength := by decide }, by decide⟩

/-! ## The head -/

/-- A bounded copy of what fits is the whole. -/
theorem copyBounded_of_lt {n : ℕ} {s : Bytes} (h : s.length < n) : copyBounded n s = s :=
  List.take_of_length_le (by omega)

/-- **The request line** is read back. -/
theorem parseRequestLine_requestLine {method uri version : Bytes} (hmethod : IsToken 16 method)
    (huri : IsToken 128 uri) (hversion : IsToken 16 version) :
    parseRequestLine (method ++ 0x20 :: (uri ++ 0x20 :: version)) = (method, uri, version) := by
  have hsp1 : memchr (method ++ 0x20 :: (uri ++ 0x20 :: version)) 0x20 = some method.length :=
    memchr_append_cons hmethod.plain.1
  have hu : (method ++ 0x20 :: (uri ++ 0x20 :: version)).drop (method.length + 1)
      = uri ++ 0x20 :: version := by
    rw [List.drop_length_add_append]
    rfl
  have hsp2 : memchr (uri ++ 0x20 :: version) 0x20 = some uri.length :=
    memchr_append_cons huri.plain.1
  have hv : (uri ++ 0x20 :: version).drop (uri.length + 1) = version := by
    rw [List.drop_length_add_append]
    rfl
  rw [parseRequestLine, hsp1]
  dsimp only
  rw [hu, hsp2]
  dsimp only
  rw [hv, List.take_left, List.take_left, copyBounded_of_lt hmethod.length_lt,
    copyBounded_of_lt huri.length_lt, copyBounded_of_lt hversion.length_lt]

/-- The request line is a line. -/
theorem WrittenRequest.isLine (r : WrittenRequest) : IsLine r.requestLine := by
  refine IsLine.of_not_mem fun h => ?_
  rcases List.mem_append.mp h with h | h
  · exact r.method_token.plain.2.1 h
  · rcases List.mem_cons.mp h with h | h
    · exact absurd h (by decide)
    · rcases List.mem_append.mp h with h | h
      · exact r.uri_token.plain.2.1 h
      · rcases List.mem_cons.mp h with h | h
        · exact absurd h (by decide)
        · exact r.version_token.plain.2.1 h

/-- A header that fits its entry can be written as a line. -/
theorem FitsEntry.isHeader {h : RtspHeader} (hh : FitsEntry h) : IsHeader h where
  colon := hh.name_plain.1
  line := by
    refine IsLine.of_not_mem fun hmem => ?_
    rcases List.mem_append.mp hmem with hmem | hmem
    · exact hh.name_plain.2.1 hmem
    · rw [List.mem_cons, List.mem_cons] at hmem
      rcases hmem with hmem | hmem | hmem
      · exact absurd hmem (by decide)
      · exact absurd hmem (by decide)
      · exact hh.value_plain.1 hmem

/-- The table stores it as it is. -/
theorem FitsEntry.stored_eq {h : RtspHeader} (hh : FitsEntry h) : storedHeader h = h := by
  rw [storedHeader, copyBounded_of_lt hh.name_length_lt,
    copyBounded_of_lt hh.value_length_lt]

/-- **The header table** is read back. -/
theorem WrittenRequest.stored_eq (r : WrittenRequest) :
    (r.headers.take rtspMaxHeaders).map storedHeader = r.headers := by
  rw [List.take_of_length_le r.headers_length_le]
  exact (List.map_congr_left fun h hh => (r.headers_fit h hh).stored_eq).trans (List.map_id _)

/-! ## Looking up a header -/

/-- **`rtsp_header_get`** finds the first header of the name, in any letter case. -/
theorem WrittenRequest.headerGet_eq (r : WrittenRequest) (name : Bytes) :
    rtspHeaderGet r.headers name
      = (r.headers.find? fun h => sameName h.name (cstr name)).map (·.value) := by
  have hsame : ∀ h ∈ r.headers, strcasecmpEq h.name name = sameName h.name (cstr name) :=
    fun h hh => strcasecmpEq_of_notMem (r.headers_fit h hh).name_plain.2.2.2 name
  rw [rtspHeaderGet, ← List.head?_filter, ← List.head?_filter,
    List.filter_congr hsame]

/-- The length of the body is the one declared, none without a body. -/
theorem WrittenRequest.contentLength_eq (r : WrittenRequest) :
    rtspContentLength r.headers = if r.body = [] then -1 else (r.body.length : ℤ) := by
  have hname : cstr (ascii "Content-Length") = ascii "Content-Length" := by decide
  rw [rtspContentLength, rtspHeaderLong, r.headerGet_eq, hname, ← List.head?_filter,
    ← List.head?_map, r.contentLength]
  by_cases hbody : r.body = []
  · rw [if_pos hbody, if_pos hbody]
    rfl
  · have hlong : r.body.length ≤ longMax := Nat.le_of_lt_succ r.body_length_lt
    rw [if_neg hbody, if_neg hbody, List.head?_cons, Option.bind_some, strtol_cstr,
      strtol_digits (formatNat_ne_nil _) fun d hd => isDigit_of_mem_formatNat hd,
      decimal_formatNat, min_eq_left hlong]
    exact if_neg (by omega)

/-! ## The round trip -/

/-- **Request parsing inverts request serialisation.** For every request that fits the arrays of the
parser and every `t` behind it, `rtsp_parse_request` reads method, URI, version, headers and body
back and consumes what was written without `t`; and in the table it fills `rtsp_header_get` finds the
value of the first header that has the name in any letter case, if there is one. -/
theorem rtspParseRequest_text (r : WrittenRequest) (t : Bytes) :
    ∃ req, rtspParseRequest (r.text ++ t) = some req ∧ req.method = r.method ∧ req.uri = r.uri ∧
      req.version = r.version ∧ req.headers = r.headers ∧ req.body = r.body ∧
      req.totalLen = r.text.length ∧
      ∀ name, rtspHeaderGet req.headers name
        = (r.headers.find? fun h => sameName h.name (cstr name)).map (·.value) := by
  have hhs : ∀ h ∈ r.headers, IsHeader h := fun h hh => (r.headers_fit h hh).isHeader
  have hlen := four_le_requestHead_length r.requestLine r.headers
  have hterm := findTerm_requestHead r.isLine hhs (r.body ++ t)
  have hhead := parseHead_requestHead r.isLine hhs (r.body ++ t)
  rw [r.stored_eq, WrittenRequest.requestLine, parseRequestLine_requestLine r.method_token
    r.uri_token r.version_token, ← WrittenRequest.requestLine] at hhead
  have hused : (rtspContentLength r.headers).toNat = r.body.length := by
    rw [r.contentLength_eq]
    split
    · next hbody =>
        rw [hbody]
        rfl
    · exact Int.toNat_natCast _
  have hbehind : (requestHead r.requestLine r.headers ++ (r.body ++ t)).drop
      ((requestHead r.requestLine r.headers).length - 4 + 4) = r.body ++ t := by
    rw [Nat.sub_add_cancel hlen, List.drop_left]
  have haccept := rtspParseRequest_of_parts hterm hhead
    (by rw [hused, List.length_append, List.length_append]; omega)
  rw [hbehind, hused, List.take_left, ← List.append_assoc] at haccept
  refine ⟨_, haccept, rfl, rfl, rfl, rfl, rfl, ?_, r.headerGet_eq⟩
  show _ - 4 + 4 + _ = (requestHead r.requestLine r.headers ++ r.body).length
  rw [List.length_append]
  omega

end ConduitStream
