import ConduitStream.Rtsp.Parser

/-! # The lines of a request head

A head is a request line and further lines that are not blank, each ended by CRLF, and a blank line.
Every buffer with a header terminator begins with such a head (`exists_crlfLines`), the terminator is
its blank line (`findTerm_crlfLines`), and the parser reads the lines in order
(`parseHead_crlfLines`), whatever they contain. -/

namespace ConduitStream

/-- A line: CRLF occurs nowhere in it. -/
def IsLine (s : Bytes) : Prop := ¬crlf <:+: s

/-- Without CR there is no CRLF. -/
theorem IsLine.of_not_mem {s : Bytes} (h : 0x0d ∉ s) : IsLine s :=
  fun hs => h (hs.subset (by simp [crlf]))

/-- The lines of a header block, each with its CRLF. -/
def crlfLines (lines : List Bytes) : Bytes := (lines.map (· ++ crlf)).flatten

/-- The text of no lines is empty. -/
@[simp] theorem crlfLines_nil : crlfLines [] = [] := rfl

/-- The first line comes first, with its end. -/
theorem crlfLines_cons (l : Bytes) (lines : List Bytes) :
    crlfLines (l :: lines) = l ++ crlf ++ crlfLines lines := rfl

/-- The text of two stretches of lines. -/
theorem crlfLines_append (lines lines' : List Bytes) :
    crlfLines (lines ++ lines') = crlfLines lines ++ crlfLines lines' := by
  simp [crlfLines]

/-- Lines that may stand in a header block: no CRLF within, and not blank. -/
def AreHeadLines (lines : List Bytes) : Prop := ∀ l ∈ lines, IsLine l ∧ l ≠ []

/-- Lines without CR may stand in a head, unless they are blank. -/
theorem AreHeadLines.of_not_mem {lines : List Bytes} (h : ∀ l ∈ lines, 0x0d ∉ l ∧ l ≠ []) :
    AreHeadLines lines := fun l hl => ⟨.of_not_mem (h l hl).1, (h l hl).2⟩

/-! ## Finding the end of a line -/

/-- What is left of a line is a line. -/
theorem IsLine.of_cons {a : UInt8} {s : Bytes} (h : IsLine (a :: s)) : IsLine s :=
  fun hs => h (hs.trans (List.suffix_cons a s).isInfix)

/-- The CRLF behind a line does not begin inside the line. -/
theorem IsLine.not_prefix {a : UInt8} {s t : Bytes} (h : IsLine (a :: s)) :
    ¬crlf <+: a :: s ++ crlf ++ t := by
  intro hp
  cases s with
  | nil =>
      simp only [crlf, List.cons_append, List.nil_append, List.cons_prefix_cons] at hp
      exact absurd hp.2.1 (by decide)
  | cons b s =>
      refine h (List.IsPrefix.isInfix ?_)
      rw [List.append_assoc] at hp
      exact List.prefix_of_prefix_length_le hp (List.prefix_append _ _) (by simp [crlf])

/-- The first CRLF is the one behind the line. -/
theorem findCrlf_line {s : Bytes} (h : IsLine s) (t : Bytes) :
    findCrlf (s ++ crlf ++ t) = some s.length := by
  induction s with
  | nil =>
      exact findSeq_of_prefix crlf_ne_nil (List.prefix_append crlf t)
  | cons a s ih =>
      have hih : findSeq crlf (s ++ crlf ++ t) = some s.length := ih h.of_cons
      have hnot : ¬crlf <+: a :: (s ++ crlf ++ t) := h.not_prefix
      calc findSeq crlf (a :: (s ++ crlf ++ t))
          = (findSeq crlf (s ++ crlf ++ t)).map (· + 1) := findSeq_cons_skip hnot
        _ = some (s.length + 1) := by rw [hih]; rfl

/-- The search for the blank line does not stop inside a line. -/
theorem findTerm_cons {a : UInt8} {s : Bytes} (h : IsLine (a :: s)) (t : Bytes) :
    findTerm (a :: s ++ crlf ++ t) = (findTerm (s ++ crlf ++ t)).map (· + 1) := by
  have hnot : ¬crlf ++ crlf <+: a :: (s ++ crlf ++ t) := fun hp =>
    h.not_prefix ((List.prefix_append crlf crlf).trans hp)
  exact findSeq_cons_skip hnot

/-- A blank line right behind the line is the terminator. -/
theorem findTerm_line_blank {s : Bytes} (h : IsLine s) (t : Bytes) :
    findTerm (s ++ crlf ++ (crlf ++ t)) = some s.length := by
  induction s with
  | nil =>
      exact findSeq_of_prefix crlf_append_crlf_ne_nil (List.prefix_append (crlf ++ crlf) t)
  | cons a s ih =>
      rw [findTerm_cons h, ih h.of_cons]
      rfl

/-- Otherwise the search for the blank line goes on behind the line. -/
theorem findTerm_line {s : Bytes} (h : IsLine s) {t : Bytes} (ht : ¬crlf <+: t) :
    findTerm (s ++ crlf ++ t) = (findTerm t).map (· + (s.length + 2)) := by
  induction s with
  | nil =>
      have h0 : ¬crlf ++ crlf <+: 0x0d :: 0x0a :: t := fun hp =>
        ht ((List.prefix_append_right_inj crlf).mp hp)
      have h1 : ¬crlf ++ crlf <+: 0x0a :: t := by
        intro hp
        simp only [crlf, List.cons_append, List.cons_prefix_cons] at hp
        exact absurd hp.1 (by decide)
      calc findSeq (crlf ++ crlf) (0x0d :: 0x0a :: t)
          = (findSeq (crlf ++ crlf) (0x0a :: t)).map (· + 1) := findSeq_cons_skip h0
        _ = ((findTerm t).map (· + 1)).map (· + 1) := by
            rw [findSeq_cons_skip h1, findTerm]
        _ = (findTerm t).map (· + (([] : Bytes).length + 2)) := by rw [Option.map_map]; rfl
  | cons a s ih =>
      rw [findTerm_cons h, ih h.of_cons, Option.map_map]
      rfl

/-! ## Finding the end of the head -/

/-- A line that is not blank does not look like a blank line. -/
theorem IsLine.not_crlf_prefix {l : Bytes} (h : IsLine l) (hne : l ≠ []) (t : Bytes) :
    ¬crlf <+: l ++ crlf ++ t := by
  obtain ⟨a, s, rfl⟩ := List.exists_cons_of_ne_nil hne
  exact h.not_prefix

/-- **The terminator of a head** is the blank line behind its lines. -/
theorem findTerm_crlfLines {line : Bytes} (hline : IsLine line) {lines : List Bytes}
    (hlines : AreHeadLines lines) (t : Bytes) :
    findTerm (crlfLines (line :: lines) ++ crlf ++ t)
      = some ((crlfLines (line :: lines)).length - 2) := by
  induction lines generalizing line with
  | nil =>
      have hblank := findTerm_line_blank hline t
      simpa [crlfLines_cons, crlf] using hblank
  | cons l lines ih =>
      obtain ⟨hl, hne⟩ := hlines l List.mem_cons_self
      have hnot : ¬crlf <+: crlfLines (l :: lines) ++ crlf ++ t := by
        rw [crlfLines_cons, List.append_assoc _ _ crlf, List.append_assoc _ _ t]
        exact hl.not_crlf_prefix hne _
      have hih := ih hl fun l' hl' => hlines l' (List.mem_cons_of_mem _ hl')
      have hlong : 2 ≤ (crlfLines (l :: lines)).length := by
        simp only [crlfLines_cons, crlf, List.length_append, List.length_cons, List.length_nil]
        omega
      rw [crlfLines_cons, List.append_assoc, List.append_assoc, ← List.append_assoc _ crlf t,
        findTerm_line hline hnot, hih, Option.map_some]
      congr 1
      simp only [crlf, List.length_append, List.length_cons, List.length_nil]
      omega

/-- A terminated buffer begins with a line. -/
theorem exists_line {buf : Bytes} {term : ℕ} (h : findTerm buf = some term) :
    ∃ line rest, IsLine line ∧ buf = line ++ crlf ++ rest := by
  have hterm := ((findSeq_eq_some_iff crlf_append_crlf_ne_nil).mp h).1
  have hocc : crlf <:+: buf :=
    (((List.prefix_append crlf crlf).trans hterm).isInfix).trans (List.drop_suffix _ _).isInfix
  cases hk : findCrlf buf with
  | none => exact absurd hocc ((findSeq_eq_none_iff crlf_ne_nil).mp hk)
  | some k =>
      obtain ⟨⟨rest, hrest⟩, hfirst⟩ := (findSeq_eq_some_iff crlf_ne_nil).mp hk
      refine ⟨buf.take k, rest, ?_, ?_⟩
      · -- an earlier CRLF would have been found first
        rintro ⟨u, v, huv⟩
        have hlen := congrArg List.length huv
        have hle := List.length_take_le k buf
        simp only [crlf, List.length_append, List.length_cons, List.length_nil] at hlen
        refine hfirst u.length (by omega) ⟨v ++ buf.drop k, ?_⟩
        calc crlf ++ (v ++ buf.drop k)
            = (u ++ crlf ++ v ++ buf.drop k).drop u.length := by simp
          _ = buf.drop u.length := by rw [huv, List.take_append_drop]
      · rw [List.append_assoc, hrest, List.take_append_drop]

/-- **Every terminated buffer begins with a head**: a request line, further lines that are not
blank, and the blank line. -/
theorem exists_crlfLines {buf : Bytes} {term : ℕ} (h : findTerm buf = some term) :
    ∃ line lines rest, IsLine line ∧ AreHeadLines lines ∧
      buf = crlfLines (line :: lines) ++ crlf ++ rest := by
  induction hn : buf.length using Nat.strongRecOn generalizing buf term with
  | _ n ih =>
      obtain ⟨line, rest, hline, rfl⟩ := exists_line h
      by_cases hblank : crlf <+: rest
      · -- the blank line follows right away
        obtain ⟨t, rfl⟩ := hblank
        refine ⟨line, [], t, hline, fun l hl => absurd hl List.not_mem_nil, ?_⟩
        simp [crlfLines_cons]
      · rw [findTerm_line hline hblank, Option.map_eq_some_iff] at h
        obtain ⟨term', hterm', -⟩ := h
        obtain ⟨l, lines, t, hl, hlines, hrest⟩ := ih rest.length
          (by rw [← hn]; simp only [crlf, List.length_append, List.length_cons]; omega) hterm' rfl
        have hne : l ≠ [] := by
          rintro rfl
          exact hblank (hrest ▸ by simp [crlfLines_cons])
        refine ⟨line, l :: lines, t, hline, fun l' hl' => ?_, ?_⟩
        · rcases List.mem_cons.mp hl' with rfl | hl'
          · exact ⟨hl, hne⟩
          · exact hlines l' hl'
        · rw [crlfLines_cons, hrest]
          simp only [List.append_assoc]

/-! ## Reading the lines -/

/-- The header loop goes through the lines in order. -/
theorem parseHeaders_crlfLines {lines : List Bytes} (hlines : AreHeadLines lines)
    (acc : List RtspHeader) :
    parseHeaders (crlfLines lines) acc = lines.foldl parseHeaderLine acc := by
  induction lines generalizing acc with
  | nil => rw [parseHeaders, if_pos (by simp)]; rfl
  | cons l lines ih =>
      obtain ⟨hl, hne⟩ := hlines l List.mem_cons_self
      have hpos := List.length_pos_iff.mpr hne
      have hlong : ¬(l ++ crlf ++ crlfLines lines).length ≤ 2 := by
        simp only [crlf, List.length_append, List.length_cons, List.length_nil]
        omega
      have hdrop : (l ++ crlf ++ crlfLines lines).drop (l.length + 2) = crlfLines lines := by
        rw [List.append_assoc, List.drop_length_add_append]
        rfl
      have htake : (l ++ crlf ++ crlfLines lines).take l.length = l := by
        rw [List.append_assoc, List.take_left]
      rw [crlfLines_cons, parseHeaders, if_neg hlong, findCrlf_line hl]
      dsimp only
      rw [if_neg (by omega), hdrop, htake, ih fun l' hl' => hlines l' (List.mem_cons_of_mem _ hl')]
      rfl

/-- **The head as the parser reads it**: the request line, then every further line. -/
theorem parseHead_crlfLines {line : Bytes} (hline : IsLine line) {lines : List Bytes}
    (hlines : AreHeadLines lines) :
    parseHead (crlfLines (line :: lines))
      = some (parseRequestLine line, lines.foldl parseHeaderLine []) := by
  have htake : (line ++ crlf ++ crlfLines lines).take line.length = line := by
    rw [List.append_assoc, List.take_left]
  have hdrop : (line ++ crlf ++ crlfLines lines).drop (line.length + 2) = crlfLines lines := by
    rw [List.append_assoc, List.drop_length_add_append]
    rfl
  rw [crlfLines_cons, parseHead, findCrlf_line hline, Option.map_some, htake, hdrop,
    parseHeaders_crlfLines hlines]

end ConduitStream
