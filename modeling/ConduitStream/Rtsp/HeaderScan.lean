import ConduitStream.Foundations.DecimalNumeral
import ConduitStream.Rtsp.HeadLines
import ConduitStream.Rtsp.ReceiveLoop

/-! # Two ways to look up a header

The parser looks a header up in its table by name. The oversize branch of the receive loop scans the
raw header block for the text of the key instead (`hdr_scan_long`), wherever it stands.

* **`keyAt_own`**, **`numberBehind_own`** — the scan finds a header whose name is the first place the
  key text occurs at, and reads its value as the parser does if the value is plain;
* **`rtspHeaderLong_own`** — what the parser makes of that header;
* **`oversizeScan_agrees_iff`** — exactly when the scan and the parser agree on the length of the
  body and on the echoed `CSeq`. -/

namespace ConduitStream

/-- A key that can be looked up in a head: it has no NUL, colon, CR or LF. -/
structure IsHeaderKey (key : Bytes) : Prop where
  ne_nil : key ≠ []
  plain : ∀ c ∈ key.map toLower, c ≠ 0 ∧ c ≠ 0x0a ∧ c ≠ 0x0d ∧ c ≠ 0x3a

/-- `Content-Length` is a key the scan can look for. -/
theorem isHeaderKey_contentLength : IsHeaderKey (ascii "Content-Length") :=
  ⟨by decide, by decide +kernel⟩

/-- The key of the sequence number. -/
theorem isHeaderKey_cseq : IsHeaderKey (ascii "CSeq") := ⟨by decide, by decide +kernel⟩

/-- The text of the key occurs in `s`, in upper or lower case. -/
def OccursIn (key s : Bytes) : Prop := key.map toLower <:+: s.map toLower

instance (key s : Bytes) : Decidable (OccursIn key s) :=
  inferInstanceAs (Decidable (key.map toLower <:+: s.map toLower))

variable {key line name value : Bytes} {pre post lines : List Bytes}

/-- A key can be searched for. -/
theorem IsHeaderKey.lower_ne_nil (hk : IsHeaderKey key) : key.map toLower ≠ [] := by
  simpa using hk.ne_nil

/-- A key contains no NUL, so that it is its own C string. -/
theorem IsHeaderKey.cstr_eq (hk : IsHeaderKey key) : cstr key = key :=
  cstr_eq_self fun h0 => (hk.plain 0 (List.mem_map.mpr ⟨0, h0, rfl⟩)).1 rfl

/-- A name that is the key up to case has neither a NUL nor a colon. -/
theorem IsHeaderKey.name_plain (hk : IsHeaderKey key)
    (hname : name.map toLower = key.map toLower) : cstr name = name ∧ 0x3a ∉ name := by
  have hlow : ∀ c ∈ name, toLower c ∈ key.map toLower := fun c hc =>
    hname ▸ List.mem_map.mpr ⟨c, hc, rfl⟩
  constructor
  · exact cstr_eq_self fun h0 => (hk.plain _ (hlow 0 h0)).1 rfl
  · intro hc
    exact (hk.plain _ (hlow _ hc)).2.2.2 rfl

/-- A header that `strcasecmp` takes for the key contains the text of the key in its name. -/
theorem occursIn_of_strcasecmpEq (hk : IsHeaderKey key) (h : strcasecmpEq name key = true) :
    OccursIn key name := by
  have heq : (cstr name).map toLower = key.map toLower := by
    simpa [strcasecmpEq, hk.cstr_eq] using h
  have hpre : cstr name <+: name := List.takeWhile_prefix _
  rw [OccursIn, ← heq]
  exact (hpre.map toLower).isInfix

/-! ## The header table -/

/-- The header a line spells, in full. -/
def headerOf (l : Bytes) : Option RtspHeader :=
  (memchr l 0x3a).map fun colon => ⟨l.take colon, trimSpace (l.drop (colon + 1))⟩

/-- There are at most twenty header lines, and every name and value fits its array. -/
structure FitsTable (lines : List Bytes) : Prop where
  count : (lines.filterMap headerOf).length ≤ rtspMaxHeaders
  name : ∀ h ∈ lines.filterMap headerOf, h.name.length < rtspMaxName
  value : ∀ h ∈ lines.filterMap headerOf, h.value.length < rtspMaxValue

/-- The table takes a header line as long as it has room. -/
theorem parseHeaderLine_eq (acc : List RtspHeader) (l : Bytes) :
    parseHeaderLine acc l = match headerOf l with
      | none => acc
      | some h =>
          if acc.length < rtspMaxHeaders then
            acc ++ [⟨copyBounded rtspMaxName h.name, copyBounded rtspMaxValue h.value⟩]
          else acc := by
  unfold parseHeaderLine headerOf
  cases memchr l 0x3a <;> rfl

/-- Headers that fit the table are stored in full. -/
theorem FitsTable.foldl_eq (h : FitsTable lines) :
    lines.foldl parseHeaderLine [] = lines.filterMap headerOf := by
  -- induction over the lines, with the table filled so far generalised
  suffices hacc : ∀ acc : List RtspHeader,
      acc.length + (lines.filterMap headerOf).length ≤ rtspMaxHeaders →
        lines.foldl parseHeaderLine acc = acc ++ lines.filterMap headerOf by
    simpa using hacc [] (by simpa using h.count)
  obtain ⟨-, hname, hvalue⟩ := h
  induction lines with
  | nil => intro acc _; simp
  | cons l lines ih =>
      intro acc hroom
      rw [List.foldl_cons, parseHeaderLine_eq]
      cases hl : headerOf l with
      | none =>
          rw [List.filterMap_cons_none hl] at hname hvalue hroom ⊢
          exact ih hname hvalue acc hroom
      | some h =>
          rw [List.filterMap_cons_some hl] at hname hvalue hroom ⊢
          rw [List.length_cons] at hroom
          -- neither copy cuts anything off
          have hn : copyBounded rtspMaxName h.name = h.name := by
            refine List.take_of_length_le ?_
            have := hname h List.mem_cons_self
            omega
          have hv : copyBounded rtspMaxValue h.value = h.value := by
            refine List.take_of_length_le ?_
            have := hvalue h List.mem_cons_self
            omega
          dsimp only
          rw [if_pos (by omega), hn, hv,
            ih (fun h' hh' => hname h' (List.mem_cons_of_mem _ hh'))
              (fun h' hh' => hvalue h' (List.mem_cons_of_mem _ hh')) _
              (by rw [List.length_append, List.length_singleton]; omega),
            List.append_assoc, List.singleton_append]

/-! ## Headers of a name -/

/-- The line is a header of that name, and `value` is what follows its first colon. -/
def IsHeaderLine (key l value : Bytes) : Prop :=
  ∃ name, l = name ++ 0x3a :: value ∧ 0x3a ∉ name ∧ strcasecmpEq name key = true

/-- The first header of that name has this value. -/
def OwnHeader (key : Bytes) (lines : List Bytes) (value : Bytes) : Prop :=
  ∃ pre l post, lines = pre ++ l :: post ∧ IsHeaderLine key l value ∧
    ∀ l' ∈ pre, ∀ v, ¬IsHeaderLine key l' v

/-- The parser takes such a line for a header of that name. -/
theorem IsHeaderLine.headerOf_eq {l : Bytes} (h : IsHeaderLine key l value) :
    ∃ name, headerOf l = some ⟨name, trimSpace value⟩ ∧ strcasecmpEq name key = true := by
  obtain ⟨name, rfl, hcolon, hname⟩ := h
  refine ⟨name, ?_, hname⟩
  rw [headerOf, memchr_append_cons hcolon, Option.map_some, List.take_left, List.drop_length_add_append]
  rfl

/-- A line from which the parser takes a header of that name is a header line of the key. -/
theorem isHeaderLine_of_headerOf {l : Bytes} {h : RtspHeader} (hl : headerOf l = some h)
    (hname : strcasecmpEq h.name key = true) : ∃ value, IsHeaderLine key l value := by
  by_cases hmem : 0x3a ∈ l
  · obtain ⟨name, value, rfl, hcolon⟩ := List.eq_append_cons_of_mem hmem
    rw [headerOf, memchr_append_cons hcolon, Option.map_some, List.take_left] at hl
    rw [← Option.some.inj hl] at hname
    exact ⟨value, name, rfl, hcolon, hname⟩
  · rw [headerOf, memchr, List.idxOf?_eq_none_iff.mpr hmem] at hl
    cases hl

/-- Where there is a header of that name, there is a first one. -/
theorem exists_ownHeader (h : ∃ l ∈ lines, ∃ v, IsHeaderLine key l v) : ∃ value, OwnHeader key lines value := by
  induction lines with
  | nil =>
      obtain ⟨l, hl, -⟩ := h
      cases hl
  | cons l lines ih =>
      by_cases hfirst : ∃ v, IsHeaderLine key l v
      · obtain ⟨v, hv⟩ := hfirst
        exact ⟨v, [], l, lines, rfl, hv, nofun⟩
      · obtain ⟨l', hl', hv⟩ := h
        rcases List.mem_cons.mp hl' with rfl | hl'
        · exact absurd hv hfirst
        · obtain ⟨v, pre, l₁, post, rfl, hl₁, hpre⟩ := ih ⟨l', hl', hv⟩
          refine ⟨v, l :: pre, l₁, post, rfl, hl₁, fun l₂ hl₂ v₂ hv₂ => ?_⟩
          rcases List.mem_cons.mp hl₂ with rfl | hl₂
          · exact hfirst ⟨v₂, hv₂⟩
          · exact hpre l₂ hl₂ v₂ hv₂

/-- A line without the text of the key is no header of that name. -/
theorem not_isHeaderLine (hk : IsHeaderKey key) {l : Bytes} (hno : ¬OccursIn key l) (v : Bytes) :
    ¬IsHeaderLine key l v := by
  rintro ⟨name, rfl, -, hname⟩
  have hocc : OccursIn key name := occursIn_of_strcasecmpEq hk hname
  exact hno (hocc.trans ((List.prefix_append name (0x3a :: v)).map toLower).isInfix)

/-- Where no line is a header of that name, the parser finds none. -/
theorem find?_headerOf_eq_none (hno : ∀ l ∈ lines, ∀ v, ¬IsHeaderLine key l v) :
    (lines.filterMap headerOf).find? (fun h => strcasecmpEq h.name key) = none := by
  rw [List.find?_eq_none]
  intro h hh heq
  obtain ⟨l, hl, hlh⟩ := List.mem_filterMap.mp hh
  obtain ⟨v, hv⟩ := isHeaderLine_of_headerOf hlh heq
  exact hno l hl v hv

/-- A header the parser does not find reads as `-1`. -/
theorem rtspHeaderLong_not_found (hno : ∀ value, ¬OwnHeader key lines value) :
    rtspHeaderLong (lines.filterMap headerOf) key = -1 := by
  have hnone : ∀ l ∈ lines, ∀ v, ¬IsHeaderLine key l v := by
    intro l hl v hv
    obtain ⟨value, hvalue⟩ := exists_ownHeader ⟨l, hl, v, hv⟩
    exact hno value hvalue
  rw [rtspHeaderLong, rtspHeaderGet, find?_headerOf_eq_none hnone]
  rfl

/-- So does one whose name stands in no line. -/
theorem rtspHeaderLong_absent (hk : IsHeaderKey key) (hno : ∀ l ∈ lines, ¬OccursIn key l) :
    rtspHeaderLong (lines.filterMap headerOf) key = -1 := by
  refine rtspHeaderLong_not_found ?_
  rintro value ⟨pre, l, post, rfl, hl, -⟩
  exact not_isHeaderLine hk (hno l (by simp)) value hl

/-- `strtol` skips what the parser trims in front, and stops before what it trims behind. -/
theorem strtol_trimSpace (s : Bytes) : strtol (trimSpace s) = strtol s := by
  cases s with
  | nil => rfl
  | cons c s =>
      by_cases hc : c = 0x20
      · subst hc
        rfl
      · rw [trimSpace, if_neg (by simpa using hc)]

/-- What the parser makes of the number of a header. -/
def headerNumber : Option ℤ → ℤ
  | none => -1
  | some n => if n < 0 then -1 else n

/-- The number of a header is that of the text in the table. -/
theorem rtspHeaderLong_eq (headers : List RtspHeader) (key : Bytes) :
    rtspHeaderLong headers key
      = headerNumber ((rtspHeaderGet headers key).bind fun v => strtol (cstr v)) := rfl

/-- **What the parser makes of a header** that is the first one with its name: the number its value
begins with, unless there is none or it is negative. -/
theorem OwnHeader.number_eq (h : OwnHeader key lines value) :
    rtspHeaderLong (lines.filterMap headerOf) key = headerNumber (strtol value) := by
  obtain ⟨pre, l, post, rfl, hl, hpre⟩ := h
  obtain ⟨name, hhdr, hname⟩ := hl.headerOf_eq
  have hget : rtspHeaderGet ((pre ++ l :: post).filterMap headerOf) key = some (trimSpace value) := by
    rw [rtspHeaderGet, List.filterMap_append, List.find?_append, find?_headerOf_eq_none hpre,
      List.filterMap_cons_some hhdr, List.find?_cons, hname]
    rfl
  rw [rtspHeaderLong_eq, hget, Option.bind_some, strtol_cstr, strtol_trimSpace]

/-- A header that is spelled as the key, behind lines that do not mention it. -/
theorem ownHeader_of_name (hk : IsHeaderKey key) (hname : name.map toLower = key.map toLower)
    (hpre : ∀ l ∈ pre, ¬OccursIn key l) (value : Bytes) (post : List Bytes) :
    OwnHeader key (pre ++ (name ++ 0x3a :: value) :: post) value := by
  obtain ⟨hcstr, hcolon⟩ := hk.name_plain hname
  have hself : strcasecmpEq name key = true := by
    simpa [strcasecmpEq, hcstr, hk.cstr_eq] using hname
  exact ⟨pre, _, post, rfl, ⟨name, rfl, hcolon, hself⟩, fun l hl => not_isHeaderLine hk (hpre l hl)⟩

/-- The parser's number of such a header. -/
theorem rtspHeaderLong_own (hk : IsHeaderKey key) (hname : name.map toLower = key.map toLower)
    (hpre : ∀ l ∈ pre, ¬OccursIn key l) (value : Bytes) (post : List Bytes) :
    rtspHeaderLong ((pre ++ (name ++ 0x3a :: value) :: post).filterMap headerOf) key
      = headerNumber (strtol value) :=
  (ownHeader_of_name hk hname hpre value post).number_eq

/-! ## Where the scan finds the key -/

/-- The first place in the block where the text of the key stands, in any case. -/
def keyAt (block key : Bytes) : Option ℕ := findSeq (key.map toLower) (block.map toLower)

/-- The bytes the scan skips behind the key. -/
def isFiller (c : UInt8) : Bool := c = 0x3a ∨ c = 0x20 ∨ c = 0x09

/-- The number that stands at `v`, behind bytes to skip in the first `len` bytes; `0` if there is
none. -/
def numberBehind (buf : Bytes) (len v : ℕ) : ℤ :=
  (strtol (buf.drop (v + (((buf.take len).drop v).takeWhile isFiller).length))).getD 0

/-- The comparison at a place of the buffer is one without regard to case. -/
theorem ciStartswith_drop_iff {buf : Bytes} {len i : ℕ} (hi : i + key.length ≤ len)
    (hlen : len ≤ buf.length) :
    ciStartswith (buf.drop i) key = true ↔
      key.map toLower <+: ((buf.take len).map toLower).drop i := by
  have htake : ((buf.take len).drop i).take key.length = (buf.drop i).take key.length := by
    rw [List.drop_take, List.take_take, min_eq_left (by omega)]
  have hlong : key.length ≤ ((buf.take len).drop i).length := by
    rw [List.length_drop, List.length_take]
    omega
  rw [ciStartswith, decide_eq_true_iff, ← htake, ← List.map_drop, List.prefix_iff_eq_take,
    List.length_map, ← List.map_take]
  exact eq_comm

/-- The scan loop finds the first occurrence in the block, as none ends with the block. -/
theorem find?_ciStartswith {buf : Bytes} {len : ℕ} (hk : IsHeaderKey key) (hlen : len ≤ buf.length)
    (hlast : ∀ i, i + key.length = len → ¬key.map toLower <+: ((buf.take len).map toLower).drop i) :
    (List.range (len - key.length)).find? (fun i => ciStartswith (buf.drop i) key)
      = keyAt (buf.take len) key := by
  have hpos := List.length_pos_iff.mpr hk.ne_nil
  cases hat : keyAt (buf.take len) key with
  | none =>
      have hno := (findSeq_eq_none_iff hk.lower_ne_nil).mp hat
      rw [List.find?_eq_none]
      intro i hi hstart
      rw [List.mem_range] at hi
      have hocc := (ciStartswith_drop_iff (by omega) hlen).mp hstart
      exact hno (hocc.isInfix.trans (List.drop_suffix _ _).isInfix)
  | some i =>
      have hin := findSeq_add_length_le hk.lower_ne_nil hat
      obtain ⟨hocc, hfirst⟩ := (findSeq_eq_some_iff hk.lower_ne_nil).mp hat
      rw [List.length_map, List.length_map, List.length_take, min_eq_left hlen] at hin
      -- the loop stops one position short of the last, where no occurrence stands
      have hne : i + key.length ≠ len := fun h => hlast i h hocc
      rw [List.find?_range_eq_some]
      refine ⟨(ciStartswith_drop_iff hin hlen).mpr hocc, List.mem_range.mpr (by omega), ?_⟩
      intro j hj
      rw [Bool.not_eq_true']
      exact Bool.eq_false_iff.mpr fun h =>
        hfirst j hj ((ciStartswith_drop_iff (by omega) hlen).mp h)

/-- **The scan** reads the number behind the first occurrence of the key in the block. -/
theorem hdrScanLong_eq {buf : Bytes} {len : ℕ} (hk : IsHeaderKey key) (hlen : len ≤ buf.length)
    (hlast : ∀ i, i + key.length = len → ¬key.map toLower <+: ((buf.take len).map toLower).drop i) :
    hdrScanLong buf len key = match keyAt (buf.take len) key with
      | none => -1
      | some i => numberBehind buf len (i + key.length) := by
  unfold hdrScanLong
  rw [find?_ciStartswith hk hlen hlast]
  by_cases hshort : len < key.length
  · -- there is no room for the key
    rw [if_pos hshort]
    cases hat : keyAt (buf.take len) key with
    | none => rfl
    | some i =>
        have hin := findSeq_add_length_le hk.lower_ne_nil hat
        rw [List.length_map, List.length_map, List.length_take] at hin
        omega
  · rw [if_neg hshort]
    rfl

/-- The block ends in LF, so no occurrence of the key does. -/
theorem keyAt_not_last (hk : IsHeaderKey key) {block t : Bytes} {i : ℕ}
    (hi : i + key.length = (block ++ crlf).length) :
    ¬key.map toLower <+: (((block ++ crlf ++ t).take (block ++ crlf).length).map toLower).drop i := by
  rw [List.take_left]
  intro hp
  have hlen : (key.map toLower).length = (((block ++ crlf).map toLower).drop i).length := by
    rw [List.length_drop, List.length_map, List.length_map]
    omega
  have hpos := List.length_pos_iff.mpr hk.ne_nil
  have heq := hp.eq_of_length hlen
  -- an occurrence at the end would hold the LF of the block, and no key does
  have hlast : (0x0a : UInt8) ∈ ((block ++ crlf).map toLower).drop i := by
    rw [List.map_append, List.drop_append]
    refine List.mem_append_right _ ?_
    have hle : i - (block.map toLower).length ≤ 1 := by
      rw [List.length_append] at hi
      simp only [crlf, List.length_cons, List.length_nil, List.length_map] at hi ⊢
      omega
    rcases Nat.le_one_iff_eq_zero_or_eq_one.mp hle with h | h
    · rw [h]
      decide
    · rw [h]
      decide
  exact (hk.plain _ (heq ▸ hlast)).2.1 rfl

/-- Lines without the text of the key are read over. -/
theorem keyAt_lines (hk : IsHeaderKey key) (hno : ∀ l ∈ lines, ¬OccursIn key l) (t : Bytes) :
    keyAt (crlfLines lines ++ t) key = (keyAt t key).map (· + (crlfLines lines).length) := by
  induction lines with
  | nil => simp
  | cons l lines ih =>
      have hcr : (0x0d : UInt8) ∉ key.map toLower := fun h => (hk.plain _ h).2.2.1 rfl
      have hlf : (0x0a : UInt8) ∉ key.map toLower := fun h => (hk.plain _ h).2.1 rfl
      have hnil : ¬key.map toLower <:+: [] := by simpa using hk.ne_nil
      have hmap : (crlfLines (l :: lines) ++ t).map toLower
          = l.map toLower ++ 0x0d :: ([] ++ 0x0a :: (crlfLines lines ++ t).map toLower) := by
        simp [crlfLines_cons, crlf, toLower]
      have hrest := ih fun l' hl' => hno l' (List.mem_cons_of_mem _ hl')
      unfold keyAt at hrest ⊢
      rw [hmap, findSeq_append_cons hcr (hno l List.mem_cons_self), findSeq_append_cons hlf hnil,
        hrest, Option.map_map, Option.map_map]
      congr 1
      funext i
      simp only [Function.comp_apply, crlfLines_cons, crlf, List.length_append, List.length_cons,
        List.length_nil, List.length_map]
      omega

/-- A key that stands in no line is not found. -/
theorem keyAt_absent (hk : IsHeaderKey key) (hno : ∀ l ∈ lines, ¬OccursIn key l) :
    keyAt (crlfLines lines ++ crlf) key = none := by
  have hblank : keyAt (crlfLines [[]] ++ []) key
      = (keyAt [] key).map (· + (crlfLines [[]]).length) :=
    keyAt_lines hk (by simpa [OccursIn] using hk.ne_nil) []
  rw [List.append_nil] at hblank
  rw [keyAt_lines hk hno, show crlf = crlfLines [[]] from rfl, hblank]
  have hnone : keyAt [] key = none := (findSeq_eq_none_iff hk.lower_ne_nil).mpr (by
    simpa using hk.ne_nil)
  rw [hnone]
  rfl

/-- **The own name is found** if the text of the key stands in no line before. -/
theorem keyAt_own (hk : IsHeaderKey key) (hname : name.map toLower = key.map toLower)
    (hpre : ∀ l ∈ pre, ¬OccursIn key l) (t : Bytes) :
    keyAt (crlfLines pre ++ (name ++ t)) key = some (crlfLines pre).length := by
  have hhere : keyAt (name ++ t) key = some 0 := by
    refine findSeq_of_prefix hk.lower_ne_nil ?_
    rw [List.map_append, hname]
    exact List.prefix_append _ _
  rw [keyAt_lines hk hpre, hhere, Option.map_some, Nat.zero_add]

/-! ## What the scan reads there -/

/-- A space or a tab. -/
def isBlank (c : UInt8) : Bool := c = 0x20 ∨ c = 0x09

/-- A value the scan reads as it stands: it is not blank, and no further colon follows its leading
blanks. -/
structure PlainValue (value : Bytes) : Prop where
  not_blank : ∃ c ∈ value, isSpace c = false
  no_colon : (value.dropWhile isBlank).head? ≠ some 0x3a

/-- Leading blanks make no difference to `strtol`. -/
theorem strtol_dropWhile {p : UInt8 → Bool} (hp : ∀ c, p c = true → isSpace c = true) (s : Bytes) :
    strtol (s.dropWhile p) = strtol s := by
  unfold strtol
  rw [dropWhile_dropWhile hp]

/-- The scan skips nothing that `strtol` would not skip. -/
theorem isSpace_of_isBlank (c : UInt8) (hc : isBlank c = true) : isSpace c = true := by
  rcases of_decide_eq_true hc with rfl | rfl <;> decide

/-- Of a plain value only the leading blanks are skipped. -/
theorem PlainValue.dropWhile_filler (hv : PlainValue value) :
    value.dropWhile isFiller = value.dropWhile isBlank := by
  have hstop := List.head?_dropWhile_not isBlank value
  have hcolon := hv.no_colon
  have hsub : ∀ c, isBlank c = true → isFiller c = true := by
    intro c hc
    rw [isFiller, decide_eq_true_iff]
    exact .inr (of_decide_eq_true hc)
  rw [← dropWhile_dropWhile hsub]
  cases hrest : value.dropWhile isBlank with
  | nil => rfl
  | cons c s =>
      rw [hrest] at hstop hcolon
      have hc : isFiller c = false := by
        rw [isFiller, decide_eq_false_iff_not]
        rintro (rfl | hblank)
        · exact hcolon rfl
        · exact absurd (decide_eq_true hblank) (by simpa [isBlank] using hstop)
      rw [List.dropWhile_cons_of_neg (by rw [hc]; exact Bool.false_ne_true)]

/-- What is left of a plain value is not blank either. -/
theorem PlainValue.rest_not_blank (hv : PlainValue value) :
    ∃ c ∈ value.dropWhile isFiller, isSpace c = false := by
  obtain ⟨c, hc, hspace⟩ := hv.not_blank
  rw [hv.dropWhile_filler]
  rw [← List.takeWhile_append_dropWhile (p := isBlank) (l := value),
    List.mem_append] at hc
  rcases hc with hc | hc
  · rw [isSpace_of_isBlank c (List.mem_takeWhile_imp hc)] at hspace
    cases hspace
  · exact ⟨c, hc, hspace⟩

/-- **The scan reads a plain value** as `strtol` reads it, although it has no end of string there. -/
theorem numberBehind_own (hv : PlainValue value) (front block rest : Bytes) {v len : ℕ}
    (hfront : front.length = v) (hlen : (front ++ 0x3a :: value ++ crlf ++ block).length = len) :
    numberBehind (front ++ 0x3a :: value ++ crlf ++ block ++ rest) len v
      = (strtol value).getD 0 := by
  subst hfront hlen
  have hsplit : value.takeWhile isFiller ++ value.dropWhile isFiller = value :=
    List.takeWhile_append_dropWhile
  -- the bytes to skip end inside the value
  have hskip : ∀ t : Bytes, (0x3a :: (value ++ t)).takeWhile isFiller
      = 0x3a :: value.takeWhile isFiller := by
    intro t
    have hne : (value.takeWhile isFiller).length ≠ value.length := by
      intro h
      obtain ⟨c, hc, -⟩ := hv.rest_not_blank
      have hnil : value.dropWhile isFiller = [] := by
        have := congrArg List.length hsplit
        rw [List.length_append] at this
        exact List.length_eq_zero_iff.mp (by omega)
      rw [hnil] at hc
      exact absurd hc List.not_mem_nil
    rw [List.takeWhile_cons_of_pos (by decide), List.takeWhile_append, if_neg hne]
  have hdrop : ∀ t : Bytes, (front ++ 0x3a :: value ++ crlf ++ block ++ t).drop
      (front.length + (0x3a :: value.takeWhile isFiller).length)
        = value.dropWhile isFiller ++ 0x0d :: (0x0a :: (block ++ t)) := by
    intro t
    have hassoc : front ++ 0x3a :: value ++ crlf ++ block ++ t
        = front ++ (0x3a :: value.takeWhile isFiller)
          ++ (value.dropWhile isFiller ++ 0x0d :: (0x0a :: (block ++ t))) := by
      conv_lhs => rw [← hsplit]
      simp only [crlf, List.append_assoc, List.cons_append, List.nil_append]
    rw [hassoc, ← List.length_append, List.drop_left]
  have hblock : (front ++ 0x3a :: value ++ crlf ++ block).drop front.length
      = 0x3a :: (value ++ (crlf ++ block)) := by
    simp
  rw [numberBehind, List.take_left, hblock, hskip, hdrop,
    strtol_append_cons hv.rest_not_blank (by decide), hv.dropWhile_filler,
    strtol_dropWhile isSpace_of_isBlank]

/-- **The scan of a head** whose first mention of the key is a header of that name with a plain
value: the number the value begins with, or `0`. -/
theorem hdrScanLong_own (hk : IsHeaderKey key) (hname : name.map toLower = key.map toLower)
    (hpre : ∀ l ∈ pre, ¬OccursIn key l) (hv : PlainValue value) (post : List Bytes)
    (rest : Bytes) :
    hdrScanLong (crlfLines (pre ++ (name ++ 0x3a :: value) :: post) ++ crlf ++ rest)
        (crlfLines (pre ++ (name ++ 0x3a :: value) :: post) ++ crlf).length key
      = (strtol value).getD 0 := by
  have hlen : name.length = key.length := by simpa using congrArg List.length hname
  have hblock : crlfLines (pre ++ (name ++ 0x3a :: value) :: post) ++ crlf
      = crlfLines pre ++ (name ++ (0x3a :: value ++ crlf ++ (crlfLines post ++ crlf))) := by
    simp [crlfLines_append, crlfLines_cons]
  have hfront : crlfLines (pre ++ (name ++ 0x3a :: value) :: post) ++ crlf
      = crlfLines pre ++ name ++ 0x3a :: value ++ crlf ++ (crlfLines post ++ crlf) := by
    simp [crlfLines_append, crlfLines_cons]
  rw [hdrScanLong_eq hk (List.prefix_append _ _).length_le fun i hi => keyAt_not_last hk hi,
    List.take_left]
  have hat := keyAt_own hk hname hpre (0x3a :: value ++ crlf ++ (crlfLines post ++ crlf))
  rw [← hblock] at hat
  rw [hat]
  dsimp only
  rw [hfront]
  exact numberBehind_own hv _ _ _ (by rw [List.length_append, hlen]) rfl

/-- The scan of a head that does not mention the key. -/
theorem hdrScanLong_absent (hk : IsHeaderKey key) (hno : ∀ l ∈ lines, ¬OccursIn key l)
    (rest : Bytes) :
    hdrScanLong (crlfLines lines ++ crlf ++ rest) (crlfLines lines ++ crlf).length key = -1 := by
  rw [hdrScanLong_eq hk (List.prefix_append _ _).length_le fun i hi => keyAt_not_last hk hi,
    List.take_left, keyAt_absent hk hno]

/-! ## The first mention -/

/-- The first mention of the key in the block: `front` stands before it, and behind it `filler`, all that is
skipped, and then `tail`. -/
structure FirstMention (key block front mention filler tail : Bytes) : Prop where
  split : block = front ++ mention ++ filler ++ tail
  spells : mention.map toLower = key.map toLower
  first : ¬OccursIn key (front ++ mention.dropLast)
  skipped : ∀ c ∈ filler, isFiller c = true
  stops : ∀ c, tail.head? = some c → isFiller c = false

/-- The scan finds the first mention. -/
theorem FirstMention.keyAt_eq {block front mention filler tail : Bytes} (hk : IsHeaderKey key)
    (h : FirstMention key block front mention filler tail) : keyAt block key = some front.length := by
  have hlen : mention.length = key.length := by simpa using congrArg List.length h.spells
  have hpos := List.length_pos_iff.mpr hk.ne_nil
  refine (findSeq_eq_some_iff hk.lower_ne_nil).mpr ⟨?_, fun j hj hocc => h.first ?_⟩
  · rw [← List.map_drop, h.split, List.append_assoc, List.append_assoc, List.drop_left, List.map_append,
      h.spells]
    exact List.prefix_append _ _
  · -- an earlier mention would end in front of the last byte of this one
    have hblock : block = front ++ mention.dropLast ++ (mention.drop (mention.length - 1) ++ filler ++ tail) := by
      have hmention : mention = mention.dropLast ++ mention.drop (mention.length - 1) := by
        rw [List.dropLast_eq_take, List.take_append_drop]
      rw [h.split]
      conv_lhs => rw [hmention]
      simp only [List.append_assoc]
    have hroom : j + (key.map toLower).length ≤ ((front ++ mention.dropLast).map toLower).length := by
      rw [List.length_map, List.length_map, List.length_append, List.length_dropLast]
      omega
    rw [hblock, List.map_append, prefix_drop_append_iff hroom] at hocc
    exact hocc.isInfix.trans (List.drop_suffix _ _).isInfix

/-- **What the scan reads** behind the first mention. -/
theorem FirstMention.hdrScanLong_eq {block front mention filler tail : Bytes} (hk : IsHeaderKey key)
    (h : FirstMention key (block ++ crlf) front mention filler tail) (behind : Bytes) :
    hdrScanLong (block ++ crlf ++ behind) (block ++ crlf).length key = (strtol (tail ++ behind)).getD 0 := by
  have hlen : mention.length = key.length := by simpa using congrArg List.length h.spells
  have hskip : (filler ++ tail).takeWhile isFiller = filler := by
    have hstop : tail.takeWhile isFiller = [] := by
      cases hrest : tail with
      | nil => rfl
      | cons c rest =>
          rw [hrest] at h
          exact List.takeWhile_cons_of_neg (by rw [h.stops c rfl]; exact Bool.false_ne_true)
    rw [List.takeWhile_append_of_pos h.skipped, hstop, List.append_nil]
  have hplace : ∀ t : Bytes, (front ++ mention ++ filler ++ tail ++ t).drop (front.length + key.length)
      = filler ++ (tail ++ t) := by
    intro t
    rw [← hlen, ← List.length_append, List.append_assoc, List.append_assoc (front ++ mention), List.drop_left]
  rw [ConduitStream.hdrScanLong_eq hk (List.prefix_append _ _).length_le fun i hi => keyAt_not_last hk hi,
    List.take_left, h.keyAt_eq hk]
  dsimp only
  rw [numberBehind, List.take_left, h.split, ← List.drop_drop, hplace]
  have hblock := hplace []
  rw [List.append_nil, List.append_nil] at hblock
  rw [hblock, hskip, List.drop_left]

/-- A key that is mentioned has a first mention. -/
theorem exists_firstMention (hk : IsHeaderKey key) {block : Bytes} (hocc : OccursIn key block) :
    ∃ front mention filler tail, FirstMention key block front mention filler tail := by
  cases hat : keyAt block key with
  | none => exact absurd hocc ((findSeq_eq_none_iff hk.lower_ne_nil).mp hat)
  | some i =>
      have hin := findSeq_add_length_le hk.lower_ne_nil hat
      have hhere := ((findSeq_eq_some_iff hk.lower_ne_nil).mp hat).1
      rw [List.length_map, List.length_map] at hin
      have hpos := List.length_pos_iff.mpr hk.ne_nil
      obtain ⟨front, mention, rest, rfl, rfl, hlen⟩ : ∃ front mention rest,
          block = front ++ (mention ++ rest) ∧ front.length = i ∧ mention.length = key.length := by
        refine ⟨block.take i, (block.drop i).take key.length, (block.drop i).drop key.length, ?_, ?_, ?_⟩
        · rw [List.take_append_drop, List.take_append_drop]
        · exact List.length_take_of_le (by omega)
        · exact List.length_take_of_le (by rw [List.length_drop]; omega)
      refine ⟨front, mention, rest.takeWhile isFiller, rest.dropWhile isFiller, ?_, ?_, ?_, ?_, ?_⟩
      · rw [List.append_assoc, List.takeWhile_append_dropWhile, List.append_assoc]
      · rw [← List.map_drop, List.drop_left, List.map_append] at hhere
        exact (List.prefix_of_prefix_length_le (List.prefix_append _ _) hhere
          (by rw [List.length_map, List.length_map, hlen])).eq_of_length
            (by rw [List.length_map, List.length_map, hlen])
      · -- a mention there would be found instead
        intro hearly
        cases hat' : keyAt (front ++ mention.dropLast) key with
        | none => exact (findSeq_eq_none_iff hk.lower_ne_nil).mp hat' hearly
        | some j =>
            have hin' := findSeq_add_length_le hk.lower_ne_nil hat'
            rw [List.length_map, List.length_map, List.length_append, List.length_dropLast] at hin'
            have hwhole := findSeq_append hk.lower_ne_nil hat'
              ((mention.drop (mention.length - 1) ++ rest).map toLower)
            rw [← List.map_append, List.append_assoc, ← List.append_assoc mention.dropLast,
              List.dropLast_eq_take, List.take_append_drop] at hwhole
            have hsame : j = front.length := Option.some.inj (hwhole.symm.trans hat)
            omega
      · exact fun c hc => List.mem_takeWhile_imp hc
      · intro c hc
        have hstop := List.head?_dropWhile_not isFiller rest
        rw [hc] at hstop
        simpa using hstop

/-! ## The scan against the parser -/

/-- The first mention of the key in the head is a header of that name, with a plain value. -/
def OwnsFirst (key line : Bytes) (lines : List Bytes) : Prop :=
  ∃ pre name value post, lines = pre ++ (name ++ 0x3a :: value) :: post ∧
    name.map toLower = key.map toLower ∧ PlainValue value ∧ ∀ l ∈ line :: pre, ¬OccursIn key l

/-- The header blocks in which the scan cannot go wrong; `behind` is what follows the block in the buffer and
in memory. Where the first mention of the key is not its own header, the texts behind both must begin with the
same positive number, or neither of them with one. -/
inductive ScanSafe (key line : Bytes) (lines : List Bytes) (behind : Bytes) : Prop
  | absent (h : ∀ l ∈ line :: lines, ¬OccursIn key l)
  | own (h : OwnsFirst key line lines)
  | alike {front mention filler tail value : Bytes} (hother : ¬OwnsFirst key line lines)
      (hmention : FirstMention key (crlfLines (line :: lines) ++ crlf) front mention filler tail)
      (hown : OwnHeader key lines value) (hnumber : SamePositive (tail ++ behind) value)
  | bare {front mention filler tail : Bytes} (hother : ¬OwnsFirst key line lines)
      (hmention : FirstMention key (crlfLines (line :: lines) ++ crlf) front mention filler tail)
      (hown : ∀ value, ¬OwnHeader key lines value) (hnumber : ∀ ds, ¬BeginsPositive (tail ++ behind) ds)

/-- A key that stands in a line stands in the block. -/
theorem occursIn_block {l : Bytes} (hl : l ∈ lines) (hocc : OccursIn key l) :
    OccursIn key (crlfLines lines ++ crlf) := by
  obtain ⟨before, after, hsplit⟩ := List.append_of_mem hl
  have hin : l <:+: crlfLines before ++ (l ++ crlf ++ crlfLines after) ++ crlf :=
    ⟨crlfLines before, crlf ++ crlfLines after ++ crlf, by simp⟩
  rw [hsplit, crlfLines_append, crlfLines_cons]
  exact hocc.trans (hin.map toLower)

/-- The number the parser finds, negative ones apart, is that of the text. -/
theorem toNat_headerNumber (o : Option ℤ) : (headerNumber o).toNat = (o.getD 0).toNat := by
  cases o with
  | none => rfl
  | some n =>
      dsimp only [headerNumber, Option.getD_some]
      split_ifs <;> omega

/-- **Exactly when the scan is right**, negative numbers apart: it reads what the parser reads if and only if
the block is safe. -/
theorem toNat_hdrScanLong_eq_iff (hk : IsHeaderKey key) (line : Bytes) (lines : List Bytes) (behind : Bytes) :
    (hdrScanLong (crlfLines (line :: lines) ++ crlf ++ behind) (crlfLines (line :: lines) ++ crlf).length
        key).toNat = (rtspHeaderLong (lines.filterMap headerOf) key).toNat ↔
      ScanSafe key line lines behind := by
  constructor
  · intro h
    by_cases hfirst : OwnsFirst key line lines
    · exact .own hfirst
    by_cases hno : ∀ l ∈ line :: lines, ¬OccursIn key l
    · exact .absent hno
    -- a key that is mentioned is found, and both texts are compared
    obtain ⟨l, hl, hocc⟩ : ∃ l ∈ line :: lines, OccursIn key l := by
      by_contra hnone
      exact hno fun l hl hocc => hnone ⟨l, hl, hocc⟩
    obtain ⟨front, mention, filler, tail, hmention⟩ := exists_firstMention hk (occursIn_block hl hocc)
    rw [hmention.hdrScanLong_eq hk behind] at h
    by_cases hown : ∃ value, OwnHeader key lines value
    · obtain ⟨value, hvalue⟩ := hown
      rw [hvalue.number_eq, toNat_headerNumber] at h
      exact .alike hfirst hmention hvalue (toNat_strtol_eq_iff.mp h)
    · have hnone : ∀ value, ¬OwnHeader key lines value := fun value hvalue => hown ⟨value, hvalue⟩
      rw [rtspHeaderLong_not_found hnone] at h
      have hle : ¬0 < (strtol (tail ++ behind)).getD 0 := by
        have hzero : (-1 : ℤ).toNat = 0 := rfl
        omega
      exact .bare hfirst hmention hnone fun ds hds => hle (exists_beginsPositive_iff.mp ⟨ds, hds⟩)
  · rintro (h | h | ⟨-, hmention, hvalue, hnumber⟩ | ⟨-, hmention, hnone, hnumber⟩)
    · rw [hdrScanLong_absent hk h, rtspHeaderLong_absent hk fun l hl => h l (List.mem_cons_of_mem _ hl)]
    · obtain ⟨pre, name, value, post, rfl, hname, hv, hpre⟩ := h
      have hread := hdrScanLong_own hk hname hpre hv post behind
      rw [List.cons_append] at hread
      rw [hread, rtspHeaderLong_own hk hname fun l hl => hpre l (List.mem_cons_of_mem _ hl),
        toNat_headerNumber]
    · rw [hmention.hdrScanLong_eq hk behind, hvalue.number_eq, toNat_headerNumber]
      exact toNat_strtol_eq_iff.mpr hnumber
    · have hle : ¬0 < (strtol _).getD 0 := fun hpos => by
        obtain ⟨ds, hds⟩ := exists_beginsPositive_iff.mpr hpos
        exact hnumber ds hds
      rw [hmention.hdrScanLong_eq hk behind, rtspHeaderLong_not_found hnone]
      have hzero : (-1 : ℤ).toNat = 0 := rfl
      omega

/-- The `CSeq` the oversize branch echoes; `buf` is the receive buffer and the memory behind it. -/
def oversizeCseq (buf : Bytes) (hlen : ℕ) : ℤ :=
  let cseq := hdrScanLong buf hlen (ascii "CSeq")
  if cseq < 0 then 0 else cseq

/-- The answer of the oversize branch to a full buffer with a header terminator. -/
theorem receive_oversize {c : RtspConn} {term : ℕ} (hopen : c.isOpen = true) (hs : c.socket ≠ [])
    (hfull : raopRxCap ≤ c.rx.length) (hterm : findTerm c.rx = some term) :
    c.receive.2 = [.oversize, .respond 200 (oversizeCseq c.rx (term + 4))] := by
  rw [RtspConn.receive, if_neg (by simp [hopen, hs]), if_pos hfull, hterm]
  rfl

/-- The echoed `CSeq`, as a number that is not negative. -/
theorem oversizeCseq_eq (buf : Bytes) (hlen : ℕ) :
    oversizeCseq buf hlen = ((hdrScanLong buf hlen (ascii "CSeq")).toNat : ℤ) := by
  unfold oversizeCseq
  dsimp only
  split_ifs <;> omega

/-- **Exactly when the oversize path reads the headers as the parser does.** For every head whose
headers fit the table, whatever follows it in the buffer and behind, if the parser wants more bytes:
the scanned `Content-Length` is the parsed one, and the echoed `CSeq` is the one the normal path
echoes, if and only if each of the two keys is mentioned first as the name of its own header, with a
plain value, or is not mentioned; or, where something else mentions it first, the text behind that
mention begins with the same positive number as the value of its own header, or neither begins with one.
Every buffer with a header terminator is of this form (`exists_crlfLines`). -/
theorem oversizeScan_agrees_iff (line : Bytes) (lines : List Bytes) (rest mem : Bytes)
    (hline : IsLine line) (hlines : AreHeadLines lines) (hfits : FitsTable lines)
    (rx : Bytes) (hrx : rx = crlfLines (line :: lines) ++ crlf ++ rest)
    (hparse : rtspParseRequest rx = none) (request : Bytes × Bytes × Bytes)
    (headers : List RtspHeader)
    (hhead : parseHead (crlfLines (line :: lines)) = some (request, headers))
    (hlen : ℕ) (hhlen : hlen = (crlfLines (line :: lines) ++ crlf).length) :
    (hdrScanLong (rx ++ mem) hlen (ascii "Content-Length") = rtspContentLength headers ∧
      oversizeCseq (rx ++ mem) hlen = if rtspCseq headers < 0 then 0 else rtspCseq headers) ↔
      ScanSafe (ascii "Content-Length") line lines (rest ++ mem) ∧
        ScanSafe (ascii "CSeq") line lines (rest ++ mem) := by
  have hheaders : headers = lines.filterMap headerOf := by
    rw [parseHead_crlfLines hline hlines, hfits.foldl_eq] at hhead
    cases hhead
    rfl
  -- the parser wants more bytes, so the declared length is positive
  have hwants : 0 < rtspContentLength headers := by
    have hterm := findTerm_crlfLines hline hlines rest
    rw [← hrx] at hterm
    have htake : rx.take ((crlfLines (line :: lines)).length - 2 + 2) = crlfLines (line :: lines) := by
      have hlong : (crlfLines (line :: lines)).length - 2 + 2 = (crlfLines (line :: lines)).length := by
        simp only [crlfLines_cons, crlf, List.length_append, List.length_cons, List.length_nil]
        omega
      rw [hlong, hrx, List.append_assoc, List.take_left]
    by_contra hle
    have hsmall : (rtspContentLength headers).toNat ≤
        rx.length - ((crlfLines (line :: lines)).length - 2 + 4) := by omega
    rw [rtspParseRequest_of_parts hterm (by rw [htake]; exact hhead) hsmall] at hparse
    cases hparse
  subst hheaders hrx hhlen
  rw [List.append_assoc (crlfLines (line :: lines) ++ crlf) rest mem, oversizeCseq_eq,
    ← toNat_hdrScanLong_eq_iff isHeaderKey_contentLength,
    ← toNat_hdrScanLong_eq_iff isHeaderKey_cseq]
  refine and_congr ?_ ?_
  · show _ = rtspContentLength (lines.filterMap headerOf) ↔
      _ = (rtspContentLength (lines.filterMap headerOf)).toNat
    constructor
    · intro h
      rw [h]
    · intro h
      omega
  · show _ = (if rtspCseq (lines.filterMap headerOf) < 0 then 0 else rtspCseq (lines.filterMap headerOf)) ↔
      _ = (rtspCseq (lines.filterMap headerOf)).toNat
    split_ifs <;> omega

/-- A full buffer: a head and as many bytes of body as fit. -/
def fullBuffer (lines : List Bytes) : Bytes :=
  crlfLines lines ++ crlf ++ List.replicate (raopRxCap - (crlfLines lines ++ crlf).length) 0x41

/-- Artwork of 4000 bytes whose two headers are the first mentions of the keys. -/
theorem oversizeScan_agrees_iff_artwork :
    let line := ascii "SET_PARAMETER * RTSP/1.0"
    let lines := [ascii "content-length: 4000", ascii "CSeq:7"]
    let body := List.replicate (raopRxCap - (crlfLines (line :: lines) ++ crlf).length) (0x41 : UInt8)
    (hdrScanLong (fullBuffer (line :: lines) ++ [0x30]) 58 (ascii "Content-Length")
          = rtspContentLength [⟨ascii "content-length", ascii "4000"⟩, ⟨ascii "CSeq", ascii "7"⟩] ∧
        oversizeCseq (fullBuffer (line :: lines) ++ [0x30]) 58 = if rtspCseq
            [⟨ascii "content-length", ascii "4000"⟩, ⟨ascii "CSeq", ascii "7"⟩] < 0 then 0
          else rtspCseq [⟨ascii "content-length", ascii "4000"⟩, ⟨ascii "CSeq", ascii "7"⟩]) ↔
      ScanSafe (ascii "Content-Length") line lines (body ++ [0x30]) ∧
        ScanSafe (ascii "CSeq") line lines (body ++ [0x30]) :=
  oversizeScan_agrees_iff _ _ _ _ (.of_not_mem (by decide)) (.of_not_mem (by decide))
    ⟨by decide, by decide, by decide⟩ _ rfl (by decide +kernel)
    (ascii "SET_PARAMETER", ascii "*", ascii "RTSP/1.0") _ (by decide +kernel) _ (by decide)

/-- **Another header is read instead**: behind `X-Content-Length: 5` the scan takes 5 for the length
of a body of 4000 bytes. -/
theorem oversizeScan_reads_other_header :
    let line := ascii "SET_PARAMETER * RTSP/1.0"
    let lines := [ascii "X-Content-Length: 5", ascii "Content-Length: 4000", ascii "CSeq: 7"]
    let rx := fullBuffer (line :: lines)
    IsLine line ∧ AreHeadLines lines ∧ FitsTable lines ∧ rx.length = raopRxCap ∧
      rtspParseRequest rx = none ∧
      (parseHead (crlfLines (line :: lines))).map (fun head => rtspContentLength head.2) = some 4000 ∧
      hdrScanLong rx (crlfLines (line :: lines) ++ crlf).length (ascii "Content-Length") = 5 :=
  ⟨.of_not_mem (by decide), .of_not_mem (by decide),
    ⟨by decide, by decide, by decide⟩, by decide +kernel,
    by decide +kernel, by decide +kernel, by decide⟩

end ConduitStream
