import ConduitStream.Rtsp.HeadLines

/-! # Reading a well-formed request head

A head is a request line and any number of `Name: value` lines, each ended by CRLF, and a blank
line. On such a head the parser finds the terminator at its end (`findTerm_requestHead`) and fills
its table with the first twenty headers, truncated to the arrays (`parseHead_requestHead`). -/

namespace ConduitStream

/-- The line `Name: value` of a header. -/
def headerLine (h : RtspHeader) : Bytes := h.name ++ 0x3a :: 0x20 :: h.value

/-- The header lines, each with its CRLF. -/
def headerBlock (hs : List RtspHeader) : Bytes := (hs.map fun h => headerLine h ++ crlf).flatten

/-- A request line, header lines and the blank line. -/
def requestHead (line : Bytes) (hs : List RtspHeader) : Bytes :=
  line ++ crlf ++ headerBlock hs ++ crlf

/-- A header that fits the grammar `Name: value`. -/
structure IsHeader (h : RtspHeader) : Prop where
  colon : 0x3a ∉ h.name
  line : IsLine (headerLine h)

/-- What the table stores of a header: both parts truncated to their arrays. -/
def storedHeader (h : RtspHeader) : RtspHeader where
  name := copyBounded rtspMaxName h.name
  value := copyBounded rtspMaxValue h.value

/-- The header block is the text of its lines. -/
theorem headerBlock_eq (hs : List RtspHeader) :
    headerBlock hs = crlfLines (hs.map headerLine) := by
  simp [headerBlock, crlfLines, Function.comp_def]

/-- So is the head, up to the empty line that ends it. -/
theorem requestHead_eq (line : Bytes) (hs : List RtspHeader) :
    requestHead line hs = crlfLines (line :: hs.map headerLine) ++ crlf := by
  rw [requestHead, headerBlock_eq, crlfLines_cons]

/-- A head has at least two line ends. -/
theorem four_le_requestHead_length (line : Bytes) (hs : List RtspHeader) :
    4 ≤ (requestHead line hs).length := by
  simp only [requestHead, crlf, List.length_append, List.length_cons, List.length_nil]
  omega

/-- The lines of written headers are lines of a head, never blank. -/
theorem areHeadLines_headerLine {hs : List RtspHeader} (hhs : ∀ h ∈ hs, IsHeader h) :
    AreHeadLines (hs.map headerLine) := by
  intro l hl
  obtain ⟨h, hh, rfl⟩ := List.mem_map.mp hl
  exact ⟨(hhs h hh).line, by simp [headerLine]⟩

/-- **The terminator of a head** is its blank line: the last four bytes of the head. -/
theorem findTerm_requestHead {line : Bytes} (hline : IsLine line) {hs : List RtspHeader}
    (hhs : ∀ h ∈ hs, IsHeader h) (t : Bytes) :
    findTerm (requestHead line hs ++ t) = some ((requestHead line hs).length - 4) := by
  have hterm := findTerm_crlfLines hline (areHeadLines_headerLine hhs) t
  rw [requestHead_eq, hterm, List.length_append]
  rfl

/-! ## The header table -/

/-- One header line puts the truncated header into the table, if there is room. -/
theorem parseHeaderLine_headerLine {h : RtspHeader} (hh : IsHeader h) (acc : List RtspHeader) :
    parseHeaderLine acc (headerLine h)
      = if acc.length < rtspMaxHeaders then acc ++ [storedHeader h] else acc := by
  have hcolon : memchr (headerLine h) 0x3a = some h.name.length := memchr_append_cons hh.colon
  have hname : (headerLine h).take h.name.length = h.name := List.take_left
  have hvalue : trimSpace ((headerLine h).drop (h.name.length + 1)) = h.value := by
    rw [headerLine, List.drop_length_add_append]
    rfl
  rw [parseHeaderLine, hcolon]
  dsimp only
  rw [hname, hvalue]
  rfl

/-- The header loop puts the headers into the table until it is full. -/
theorem foldl_parseHeaderLine {hs : List RtspHeader} (hhs : ∀ h ∈ hs, IsHeader h)
    {acc : List RtspHeader} (hacc : acc.length ≤ rtspMaxHeaders) :
    (hs.map headerLine).foldl parseHeaderLine acc
      = acc ++ (hs.take (rtspMaxHeaders - acc.length)).map storedHeader := by
  induction hs generalizing acc with
  | nil => simp
  | cons h hs ih =>
      have hh := hhs h List.mem_cons_self
      have hrest : ∀ h' ∈ hs, IsHeader h' := fun h' hh' => hhs h' (List.mem_cons_of_mem _ hh')
      rw [List.map_cons, List.foldl_cons, parseHeaderLine_headerLine hh]
      by_cases hroom : acc.length < rtspMaxHeaders
      · -- one more entry, one place less
        have hsplit : rtspMaxHeaders - acc.length
            = (rtspMaxHeaders - (acc ++ [storedHeader h]).length) + 1 := by
          rw [List.length_append, List.length_singleton]
          omega
        rw [if_pos hroom, ih hrest (by rw [List.length_append, List.length_singleton]; omega),
          hsplit, List.take_succ_cons, List.map_cons, List.append_assoc, List.singleton_append]
      · -- the header is read over
        have hfull : rtspMaxHeaders - acc.length = 0 := by omega
        rw [if_neg hroom, ih hrest hacc, hfull, List.take_zero, List.take_zero]

/-- **The head as the parser reads it**: the request line and the first twenty headers, truncated. -/
theorem parseHead_requestHead {line : Bytes} (hline : IsLine line) {hs : List RtspHeader}
    (hhs : ∀ h ∈ hs, IsHeader h) (t : Bytes) :
    parseHead ((requestHead line hs ++ t).take ((requestHead line hs).length - 4 + 2))
      = some (parseRequestLine line, (hs.take rtspMaxHeaders).map storedHeader) := by
  have hsplit : (requestHead line hs ++ t).take ((requestHead line hs).length - 4 + 2)
      = crlfLines (line :: hs.map headerLine) := by
    have hlen : (requestHead line hs).length - 4 + 2
        = (crlfLines (line :: hs.map headerLine)).length := by
      simp only [requestHead_eq, crlfLines_cons, crlf, List.length_append, List.length_cons,
        List.length_nil]
      omega
    rw [hlen, requestHead_eq, List.append_assoc _ crlf t, List.take_left]
  rw [hsplit, parseHead_crlfLines hline (areHeadLines_headerLine hhs),
    foldl_parseHeaderLine hhs (Nat.zero_le _)]
  rfl

end ConduitStream
