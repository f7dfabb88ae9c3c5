import ConduitStream.Foundations.CheckedMemory
import ConduitStream.Rtsp.SetParameter

/-! # Progress lines (`find_line` and `raop_parse_progress` in `raop_volume.c`)

The body of a request has no NUL behind it, and other bytes follow it in memory. Here `find_line` is
written with its accesses to this memory, of which the body is the first `len` bytes.

* `findLineAt_spec`: it stays inside the body and finds what `findLine` finds in it;
* `findLine_bodyText`: this is the first line with the prefix, however the lines are separated;
* `raopParseProgress_lines`: three numbers that are printed in such a line are read back. -/

namespace ConduitStream

/-! ## The functions, with their accesses -/

/-- The test for a prefix, in the line of `lineLen` bytes at `mem + i`. -/
def lineStartsAt (mem : Bytes) (i lineLen : ℕ) (start : Bytes) : Option Bool :=
  if start.length ≤ lineLen then (loadRange mem i start.length).map fun front => front = start
  else some false

/-- The loop of `find_line`, from `i` on: the index behind the prefix, where a line begins with it. -/
def findLineAt (mem : Bytes) (len : ℕ) (start : Bytes) (i : ℕ) : Option (Option ℕ) :=
  if i < len then
    match _ : scanUpTo (!isEol ·) mem len i with
    | none => none
    | some j => do
        if ← lineStartsAt mem i (j - i) start then return some (i + start.length)
        match _ : scanUpTo isEol mem len j with
        | none => none
        | some k => findLineAt mem len start k
  else some none
termination_by len - i
decreasing_by
  have := @lt_of_scanUpTo_scanUpTo _ (!isEol ·) isEol (by simp) mem len i _ _ ‹_› ‹_› ‹_›
  omega

/-- The copy of a value to a `tmp` with `room` bytes left in front of the NUL, from `q` on. -/
def copyLine (mem : Bytes) (len : ℕ) : ℕ → ℕ → Option Bytes
  | room, q =>
    if q < len then do
      let c ← mem[q]?
      if isEol c then return []
      match room with
      | 0 => return []
      | room + 1 => return c :: (← copyLine mem len room (q + 1))
    else some []

/-- `%lu` of `sscanf`, with an `unsigned long` of 32 bits: blanks and a sign may stand in front of the
digits, and a number that is too large is the largest one. -/
def scanLu (s : Bytes) : Option (BitVec 32 × Bytes) :=
  let s := s.dropWhile isSpace
  let negative := s.head? = some 0x2d
  let s := if s.head? = some 0x2d ∨ s.head? = some 0x2b then s.tail else s
  let digits := s.takeWhile isDigit
  if digits = [] then none
  else
    let v := BitVec.ofNat 32 (decimal digits)
    some (if 2 ^ 32 ≤ decimal digits then -1 else if negative then -v else v, s.dropWhile isDigit)

/-- `sscanf` with `n` conversions `%lu` that have a `/` between them: the numbers it stores. -/
def sscanfLu : ℕ → Bytes → List (BitVec 32)
  | 0, _ => []
  | n + 1, s =>
    match scanLu s with
    | none => []
    | some (v, s) => v :: if s.head? = some 0x2f then sscanfLu n s.tail else []

/-- `*start`, `*cur` and `*end`; a null pointer is `none`. -/
structure ProgressOut where
  start : Option (BitVec 32)
  cur : Option (BitVec 32)
  «end» : Option (BitVec 32)

/-- The three numbers are stored where there is a pointer. -/
def ProgressOut.store (out : ProgressOut) (a b c : BitVec 32) : ProgressOut where
  start := out.start.map fun _ => a
  cur := out.cur.map fun _ => b
  «end» := out.end.map fun _ => c

/-- `raop_parse_progress`, on the memory from `body` on. -/
def raopParseProgress (body : Option Bytes) (len : ℕ) (out : ProgressOut) :
    Option (Bool × ProgressOut) :=
  match body with
  | none => some (false, out)
  | some mem => do
      match ← findLineAt mem len (ascii "progress: ") 0 with
      | none => return (false, out)
      | some p =>
          -- `char tmp[48]`
          let tmp ← copyLine mem len 47 p
          match sscanfLu 3 (cstr tmp) with
          | [a, b, c] => return (true, out.store a b c)
          | _ => return (false, out)

/-! ## The search -/

/-- The test for a prefix reads inside the line. -/
theorem lineStartsAt_eq {body : Bytes} {i lineLen : ℕ} (h : i + lineLen ≤ body.length)
    (start behind : Bytes) :
    lineStartsAt (body ++ behind) i lineLen start =
      some (decide (start <+: (body.drop i).take lineLen)) := by
  unfold lineStartsAt
  by_cases hlen : start.length ≤ lineLen
  · rw [if_pos hlen, loadRange_append (by omega), Option.map_some, Option.some_inj]
    refine decide_eq_decide.mpr ?_
    rw [List.prefix_take_iff, and_iff_left hlen, List.prefix_iff_eq_take]
    exact eq_comm
  · rw [if_neg hlen, decide_eq_false]
    intro hp
    have := hp.length_le
    rw [List.length_take] at this
    omega

/-- **Step lemma**: one turn of the loop is one line. -/
theorem findLineAt_step {body : Bytes} {i : ℕ} (hi : i < body.length) (start behind : Bytes) :
    ∃ k, body.drop k = ((body.drop i).dropWhile (!isEol ·)).dropWhile isEol ∧
      findLineAt (body ++ behind) body.length start i =
        if start <+: (body.drop i).takeWhile (!isEol ·) then some (some (i + start.length))
        else findLineAt (body ++ behind) body.length start k := by
  have hfront := List.takeWhile_prefix (l := body.drop i) (!isEol ·)
  have hle := hfront.length_le
  rw [List.length_drop] at hle
  have hline := (scanUpTo_eq (!isEol ·) body behind i).trans (scanWhile_eq _ body i)
  have hseps := (scanUpTo_eq isEol body behind _).trans
    (scanWhile_eq isEol body (i + ((body.drop i).takeWhile (!isEol ·)).length))
  refine ⟨i + ((body.drop i).takeWhile (!isEol ·)).length +
    ((body.drop (i + ((body.drop i).takeWhile (!isEol ·)).length)).takeWhile isEol).length, ?_, ?_⟩
  · rw [← List.drop_drop, drop_length_takeWhile, ← List.drop_drop, drop_length_takeWhile]
  rw [findLineAt, if_pos hi]
  split
  · next hj => exact absurd (hj.symm.trans hline) (by simp)
  · next j hj =>
      obtain rfl := Option.some.inj (hj.symm.trans hline)
      rw [Nat.add_sub_cancel_left, lineStartsAt_eq (by omega), ← List.prefix_iff_eq_take.mp hfront,
        Option.bind_eq_bind, Option.bind_some]
      by_cases hp : start <+: (body.drop i).takeWhile (!isEol ·)
      · rw [decide_eq_true hp, if_pos rfl, if_pos hp]
        rfl
      · rw [decide_eq_false hp, if_neg Bool.false_ne_true, if_neg hp]
        split
        · next hk => exact absurd (hk.symm.trans hseps) (by simp)
        · next k hk =>
            obtain rfl := Option.some.inj (hk.symm.trans hseps)
            rfl

/-- **The search stays inside the body** and finds what `findLine` finds in it. -/
theorem findLineAt_spec (body start behind : Bytes) (i : ℕ) :
    ∃ o, findLineAt (body ++ behind) body.length start i = some o ∧
      o.map (body.drop ·) = findLine (body.drop i) start := by
  -- by induction on what is left of the body
  induction hn : (body.drop i).length using Nat.strong_induction_on generalizing i with
  | _ n ih =>
      subst hn
      by_cases hi : i < body.length
      · have hne : body.drop i ≠ [] := by
          rw [Ne, List.drop_eq_nil_iff]
          omega
        obtain ⟨k, hdrop, hstep⟩ := findLineAt_step hi start behind
        rw [hstep, findLine, if_neg hne]
        by_cases hp : start <+: (body.drop i).takeWhile (!isEol ·)
        · rw [if_pos hp, if_pos hp]
          exact ⟨_, rfl, by rw [Option.map_some, List.drop_drop]⟩
        · have hrest := length_nextLine_lt hne
          rw [← hdrop] at hrest
          rw [if_neg hp, if_neg hp, ← hdrop]
          exact ih _ hrest k rfl
      · refine ⟨none, ?_, ?_⟩
        · rw [findLineAt, if_neg hi]
        · rw [List.drop_eq_nil_of_le (by omega), findLine, if_pos rfl]
          rfl

/-- **The copy stays inside the body**, and ends with the line or with the room. -/
theorem copyLine_eq (body behind : Bytes) (room q : ℕ) :
    copyLine (body ++ behind) body.length room q =
      some (((body.drop q).takeWhile (!isEol ·)).take room) := by
  induction room generalizing q with
  | zero =>
      unfold copyLine
      by_cases hq : q < body.length
      · rw [if_pos hq, List.getElem?_append_left hq, List.getElem?_eq_getElem hq]
        cases isEol body[q] <;> simp
      · rw [if_neg hq]
        rfl
  | succ room ih =>
      unfold copyLine
      by_cases hq : q < body.length
      · rw [if_pos hq, List.getElem?_append_left hq, List.getElem?_eq_getElem hq,
          List.drop_eq_getElem_cons hq]
        cases hc : isEol body[q] with
        | true => simp [hc]
        | false =>
            rw [Option.bind_eq_bind, Option.bind_some, if_neg (by rw [hc]; simp),
              List.takeWhile_cons_of_pos (by rw [hc]; rfl), List.take_succ_cons]
            dsimp only
            rw [ih]
            rfl
      · rw [if_neg hq, List.drop_eq_nil_of_le (by omega)]
        rfl

/-- What `raop_parse_progress` makes of a body does not depend on the bytes behind it. -/
theorem raopParseProgress_eq (body behind : Bytes) (out : ProgressOut) :
    raopParseProgress (some (body ++ behind)) body.length out =
      match (findLine body (ascii "progress: ")).map (lineValue 48) with
      | none => some (false, out)
      | some tmp =>
          match sscanfLu 3 tmp with
          | [a, b, c] => some (true, out.store a b c)
          | _ => some (false, out) := by
  obtain ⟨o, hfind, hmap⟩ := findLineAt_spec body (ascii "progress: ") behind 0
  rw [List.drop_zero] at hmap
  rw [← hmap]
  unfold raopParseProgress
  dsimp only
  rw [hfind, Option.bind_eq_bind, Option.bind_some]
  cases o with
  | none => rfl
  | some p =>
      dsimp only
      rw [copyLine_eq, Option.bind_eq_bind, Option.bind_some, Option.map_some, Option.map_some]
      rfl

/-! ## Bodies of lines -/

/-- A body that is made of these lines. -/
inductive BodyText : List Bytes → Bytes → Prop
  | nil : BodyText [] []
  | last {line : Bytes} (hline : ∀ c ∈ line, isEol c = false) : BodyText [line] line
  | cons {line seps body : Bytes} {lines : List Bytes} (hline : ∀ c ∈ line, isEol c = false)
      (hne : seps ≠ []) (hseps : ∀ c ∈ seps, isEol c = true) (hbody : BodyText lines body) :
      BodyText (line :: lines) (line ++ (seps ++ body))

section Lines

variable {start : Bytes} (hne : start ≠ [])
include hne

/-- An empty line does not begin with it. -/
theorem not_prefix_nil : ¬start <+: [] := fun h => hne (List.prefix_nil.mp h)

/-- The search begins behind blank lines. -/
theorem findLine_dropWhile_isEol (body : Bytes) :
    findLine (body.dropWhile isEol) start = findLine body start := by
  cases body with
  | nil => rfl
  | cons c body =>
      cases hc : isEol c with
      | true =>
          have hline : (c :: body).takeWhile (!isEol ·) = [] :=
            List.takeWhile_cons_of_neg (by simp [hc])
          have hrest : (c :: body).dropWhile (!isEol ·) = c :: body :=
            List.dropWhile_cons_of_neg (by simp [hc])
          conv_rhs => rw [findLine, if_neg (List.cons_ne_nil c body), hline, hrest,
            if_neg (not_prefix_nil hne)]
      | false => rw [List.dropWhile_cons_of_neg (by simp [hc])]

/-- A line, with a line break or the end of the body behind it. -/
theorem findLine_line {line : Bytes} (hline : ∀ c ∈ line, isEol c = false) {rest : Bytes}
    (hrest : ∀ c ∈ rest.head?, isEol c = true) :
    findLine (line ++ rest) start =
      if start <+: line then some ((line ++ rest).drop start.length)
      else findLine (rest.dropWhile isEol) start := by
  obtain ⟨htake, hdrop⟩ := @takeWhile_append_stop _ (!isEol ·) line rest
    (by simpa using hline) (by simpa using hrest)
  rw [findLine, htake, hdrop]
  by_cases hnil : line ++ rest = []
  · obtain ⟨rfl, rfl⟩ := List.append_eq_nil_iff.mp hnil
    rw [if_pos hnil, if_neg (not_prefix_nil hne), List.dropWhile_nil, findLine, if_pos rfl]
  · rw [if_neg hnil]

/-- **The first line with the prefix is found**, however the lines are separated. -/
theorem findLine_bodyText {lines : List Bytes} {body : Bytes} (h : BodyText lines body) :
    (findLine body start).map (List.takeWhile (!isEol ·)) =
      (lines.find? fun line => start <+: line).map (List.drop start.length) := by
  -- what is behind the prefix ends with the line
  have hvalue : ∀ {line rest : Bytes}, (∀ c ∈ line, isEol c = false) →
      (∀ c ∈ rest.head?, isEol c = true) → start <+: line →
      ((line ++ rest).drop start.length).takeWhile (!isEol ·) = line.drop start.length := by
    intro line rest hline hrest hp
    rw [List.drop_append_of_le_length hp.length_le]
    exact (takeWhile_append_stop (fun c hc => by simpa using hline c (List.mem_of_mem_drop hc))
      (by simpa using hrest)).1
  induction h with
  | nil => rw [findLine, if_pos rfl]; rfl
  | @last line hline =>
      have hstep := @findLine_line start hne line hline [] (by simp)
      rw [List.append_nil] at hstep
      by_cases hp : start <+: line
      · rw [hstep, if_pos hp, List.find?_cons_of_pos (by simpa using hp), Option.map_some]
        have := @hvalue line [] hline (by simp) hp
        rw [List.append_nil] at this
        rw [this]
        rfl
      · rw [hstep, if_neg hp, List.find?_cons_of_neg (by simpa using hp), List.dropWhile_nil, findLine,
          if_pos rfl]
        rfl
  | @cons line seps body lines hline hseps hall hbody ih =>
      have hrest : ∀ c ∈ (seps ++ body).head?, isEol c = true := by
        obtain ⟨a, u, rfl⟩ := List.exists_cons_of_ne_nil hseps
        rintro c ⟨⟩
        exact hall _ List.mem_cons_self
      rw [findLine_line hne hline hrest]
      by_cases hp : start <+: line
      · rw [if_pos hp, List.find?_cons_of_pos (by simpa using hp), Option.map_some, hvalue hline hrest hp]
        rfl
      · rw [if_neg hp, List.find?_cons_of_neg (by simpa using hp), List.dropWhile_append_of_pos hall,
          findLine_dropWhile_isEol hne, ih]

end Lines

/-! ## The three numbers -/

/-- A number that is printed with `%lu` is read back. -/
theorem scanLu_formatNat (n : BitVec 32) {rest : Bytes} (hrest : ∀ d ∈ rest.head?, isDigit d = false) :
    scanLu (formatNat n.toNat ++ rest) = some (n, rest) := by
  obtain ⟨htake, hdrop⟩ := @takeWhile_append_stop _ isDigit (formatNat n.toNat) rest
    (fun d hd => isDigit_of_mem_formatNat hd) hrest
  -- it begins with a digit, so there are no blanks and no sign to skip
  obtain ⟨d, ds, hds⟩ := List.exists_cons_of_ne_nil (formatNat_ne_nil n.toNat)
  have hd : isDigit d = true := isDigit_of_mem_formatNat (hds ▸ List.mem_cons_self)
  have hminus : d ≠ 0x2d := by rintro rfl; exact absurd hd (by decide)
  have hplus : d ≠ 0x2b := by rintro rfl; exact absurd hd (by decide)
  have hsign : ¬(some d = some 0x2d ∨ some d = some 0x2b) := by simp [hminus, hplus]
  have hblank : (formatNat n.toNat ++ rest).dropWhile isSpace = formatNat n.toNat ++ rest := by
    rw [hds, List.cons_append, List.dropWhile_cons_of_neg (by rw [isSpace_of_isDigit hd]; simp)]
  have hhead : (formatNat n.toNat ++ rest).head? = some d := by rw [hds]; rfl
  unfold scanLu
  dsimp only
  rw [hblank, hhead, if_neg hsign, htake, hdrop, if_neg (formatNat_ne_nil _), decimal_formatNat,
    if_neg (by have := n.isLt; omega), if_neg fun h => hsign (.inl h), BitVec.ofNat_toNat,
    BitVec.setWidth_eq]

/-- Three numbers as the sender writes them. -/
def progressText (a b c : BitVec 32) : Bytes :=
  formatNat a.toNat ++ 0x2f :: (formatNat b.toNat ++ 0x2f :: formatNat c.toNat)

/-- The three numbers are read back. -/
theorem sscanfLu_progressText (a b c : BitVec 32) : sscanfLu 3 (progressText a b c) = [a, b, c] := by
  have hlast := @scanLu_formatNat c [] (by simp)
  rw [List.append_nil] at hlast
  have hslash : ∀ (s : Bytes), ∀ d ∈ (0x2f :: s : Bytes).head?, isDigit d = false := by
    rintro s d ⟨⟩
    decide
  simp only [sscanfLu, progressText, scanLu_formatNat _ (hslash _), hlast, List.head?_cons, if_true,
    List.tail_cons, List.head?_nil, reduceCtorEq, if_false]

/-- **They fit into the scratch buffer.** -/
theorem lineValue_progressText (a b c : BitVec 32) {rest : Bytes}
    (hrest : rest.takeWhile (!isEol ·) = progressText a b c) :
    lineValue 48 rest = progressText a b c := by
  have hlen : ∀ n : BitVec 32, (formatNat n.toNat).length ≤ 10 := fun n =>
    (formatNat_length_le_iff (by decide)).mpr (Nat.lt_trans n.isLt (by decide))
  have htext : (progressText a b c).length ≤ 48 - 1 := by
    have ha := hlen a
    have hb := hlen b
    have hc := hlen c
    simp only [progressText, List.length_append, List.length_cons]
    omega
  have hzero : 0 ∉ progressText a b c := by simp [progressText, zero_notMem_formatNat]
  rw [lineValue, hrest, List.take_of_length_le htext, cstr_eq_self hzero]

/-- **The progress is read from the first line that carries it**, wherever this line stands in the
body and whatever is behind the body in memory; without such a line the outputs stay as they are. -/
theorem raopParseProgress_lines {lines : List Bytes} {body : Bytes} (h : BodyText lines body)
    (behind : Bytes) (out : ProgressOut) :
    (∀ a b c : BitVec 32,
      (lines.find? fun line => ascii "progress: " <+: line)
          = some (ascii "progress: " ++ progressText a b c) →
        raopParseProgress (some (body ++ behind)) body.length out = some (true, out.store a b c)) ∧
      ((∀ line ∈ lines, ¬ascii "progress: " <+: line) →
        raopParseProgress (some (body ++ behind)) body.length out = some (false, out)) := by
  have hfind := @findLine_bodyText (ascii "progress: ") (by decide) lines body h
  constructor
  · intro a b c hline
    rw [hline, Option.map_some, List.drop_left, Option.map_eq_some_iff] at hfind
    obtain ⟨rest, hrest, hvalue⟩ := hfind
    rw [raopParseProgress_eq, hrest, Option.map_some]
    dsimp only
    rw [lineValue_progressText a b c hvalue, sscanfLu_progressText]
  · intro hno
    have hnone : (lines.find? fun line => ascii "progress: " <+: line) = none := by
      rw [List.find?_eq_none]
      intro line hline
      simpa using hno line hline
    rw [hnone, Option.map_none, Option.map_eq_none_iff] at hfind
    rw [raopParseProgress_eq, hfind]
    rfl

/-- A last line without a line break, behind a volume. -/
theorem raopParseProgress_lines_last :
    raopParseProgress (some (ascii "volume: -3\r\n\nprogress: 1/20/300" ++ ascii "4"))
        (ascii "volume: -3\r\n\nprogress: 1/20/300").length ⟨some 0, none, some 0⟩
      = some (true, ⟨some 1, none, some 300⟩) := by
  have hbody : BodyText [ascii "volume: -3", ascii "progress: " ++ progressText 1 20 300]
      (ascii "volume: -3" ++ (ascii "\r\n\n" ++ (ascii "progress: " ++ progressText 1 20 300))) :=
    .cons (by decide +kernel) (by decide) (by decide +kernel) (.last (by decide +kernel))
  exact (raopParseProgress_lines hbody (ascii "4") ⟨some 0, none, some 0⟩).1 1 20 300
    (by decide +kernel)

end ConduitStream
