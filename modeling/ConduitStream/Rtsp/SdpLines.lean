import ConduitStream.Foundations.CharArray
import ConduitStream.Foundations.CheckedMemory
import ConduitStream.Rtsp.Sdp

/-! # The scan of `sdp_parse` over its buffer, and its line grammar

`Sdp.lean` has the values `sdp_parse` stores, line by line. Here the function is written with the
accesses it makes: every byte of the body is read through a checked access, and the attributes are
copied into the arrays of `sdp_media_t`. Three facts connect the two:

* `sdpScan_eq`: the scan stays inside the body, and it is the fold of the step for one line over
  the lines of the body (`sdpLines`: split at LF, one trailing CR removed);
* `sdpParseBuffer_holds`: the arrays hold the values of `sdpParse`, from which `handleAnnounce` takes
  the strings it reads;
* `SdpText.foldl_sdpLines`: how the lines are ended does not matter. -/

namespace ConduitStream

/-- The attributes that are taken from the body. -/
inductive SdpAttr where
  | rsaaeskey
  | aesiv
  | fmtp
  deriving DecidableEq, Repr

namespace SdpAttr

/-- What a line with the attribute begins with. -/
def text : SdpAttr → Bytes
  | rsaaeskey => ascii "a=rsaaeskey:"
  | aesiv => ascii "a=aesiv:"
  | fmtp => ascii "a=fmtp:"

/-- `sizeof` of the array of the attribute. -/
def cap : SdpAttr → ℕ
  | rsaaeskey => sdpRsaaeskeyCap
  | aesiv => sdpAesivCap
  | fmtp => sdpFmtpCap

/-- There is room for the NUL. -/
theorem cap_ne_zero (a : SdpAttr) : a.cap ≠ 0 := by cases a <;> decide

/-- No attribute begins an empty line. -/
theorem text_ne_nil (a : SdpAttr) : a.text ≠ [] := by cases a <;> decide

/-- A line begins with one attribute at most. -/
theorem eq_of_text {a b : SdpAttr} {line : Bytes} (ha : a.text <+: line) (hb : b.text <+: line) :
    a = b := by
  have hab := List.prefix_or_prefix_of_prefix ha hb
  revert hab
  cases a <;> cases b <;> decide

end SdpAttr

/-- `sdp_media_t`. -/
structure SdpArrays where
  array : (a : SdpAttr) → CharArray a.cap
  has : SdpAttr → Bool

namespace SdpArrays

/-- `memset(out, 0, sizeof(*out))`. -/
def zero : SdpArrays := { array := fun a => CharArray.zero a.cap, has := fun _ => false }

/-- `copy_bounded` to the array of an attribute, whose flag is set. -/
def store (out : SdpArrays) (a : SdpAttr) (src : Bytes) : SdpArrays :=
  { array := Function.update out.array a ((out.array a).copy src)
    has := Function.update out.has a true }

/-- The array holds a copy of what is stored. -/
@[simp] theorem array_store (out : SdpArrays) (a : SdpAttr) (src : Bytes) :
    (out.store a src).array a = (out.array a).copy src := Function.update_self ..

/-- The flag of an attribute that is stored is set. -/
@[simp] theorem has_store (out : SdpArrays) (a : SdpAttr) (src : Bytes) :
    (out.store a src).has a = true := Function.update_self ..

/-- The other attributes stay as they are. -/
theorem store_of_ne (out : SdpArrays) {a b : SdpAttr} (h : b ≠ a) (src : Bytes) :
    (out.store a src).array b = out.array b ∧ (out.store a src).has b = out.has b :=
  ⟨Function.update_of_ne h _ _, Function.update_of_ne h _ _⟩

/-- What `sdp_parse` returns. -/
def result (out : SdpArrays) : Bool := out.has .rsaaeskey || out.has .aesiv || out.has .fmtp

end SdpArrays

/-! ## The function, with its accesses -/

/-- `take_attr` on the `llen` bytes at `body + i`: the bytes `copy_bounded` copies, if the line begins
with the attribute. -/
def takeAttrAt (body : Bytes) (i llen : ℕ) (a : SdpAttr) : Option (Option Bytes) := do
  if llen < a.text.length then return none
  let front ← loadRange body i a.text.length
  if front ≠ a.text then return none
  let src ← loadRange body (i + a.text.length) (min (llen - a.text.length) (a.cap - 1))
  return some src

/-- The line of `llen` bytes at `body + i`. -/
def sdpLineAt (body : Bytes) (i llen : ℕ) (out : SdpArrays) : Option SdpArrays := do
  match ← takeAttrAt body i llen .rsaaeskey with
  | some src => return out.store .rsaaeskey src
  | none =>
      match ← takeAttrAt body i llen .aesiv with
      | some src => return out.store .aesiv src
      | none =>
          match ← takeAttrAt body i llen .fmtp with
          | some src => return out.store .fmtp src
          | none => return out

/-- The length of the line without a trailing `'\r'`. -/
def stripCrAt (body : Bytes) (i llen : ℕ) : Option ℕ :=
  if 0 < llen then do
    let c ← body[i + llen - 1]?
    if c = 0x0d then some (llen - 1) else some llen
  else some llen

/-- The loop of `sdp_parse`, from `i` on. -/
def sdpScan (body : Bytes) (i : ℕ) (out : SdpArrays) : Option SdpArrays :=
  if i < body.length then
    match hj : scanWhile (· ≠ 0x0a) body i with
    | none => none
    | some j => do
        let llen ← stripCrAt body i (j - i)
        let out ← sdpLineAt body i llen out
        sdpScan body (j + 1) out
  else some out
termination_by body.length - i
decreasing_by
  have := le_of_scanWhile hj
  omega

/-- `sdp_parse`: what it returns, and `*out`. -/
def sdpParseBuffer (body : Option Bytes) : Option (Bool × SdpArrays) :=
  match body with
  | none => some (false, .zero)
  | some body =>
      if body.length = 0 then some (false, .zero)
      else do
        let out ← sdpScan body 0 .zero
        return (out.result, out)

/-! ## The step for one line -/

/-- What one line does to the arrays. -/
def SdpArrays.line (out : SdpArrays) (line : Bytes) : SdpArrays :=
  match takeAttr line (SdpAttr.text .rsaaeskey) (SdpAttr.cap .rsaaeskey) with
  | some src => out.store .rsaaeskey src
  | none =>
      match takeAttr line (SdpAttr.text .aesiv) (SdpAttr.cap .aesiv) with
      | some src => out.store .aesiv src
      | none =>
          match takeAttr line (SdpAttr.text .fmtp) (SdpAttr.cap .fmtp) with
          | some src => out.store .fmtp src
          | none => out

/-- Taking an attribute reads inside the line only. -/
theorem takeAttrAt_eq {body : Bytes} {i llen : ℕ} (h : i + llen ≤ body.length) (a : SdpAttr) :
    takeAttrAt body i llen a = some (takeAttr ((body.drop i).take llen) a.text a.cap) := by
  have hlen : ((body.drop i).take llen).length = llen := by
    rw [List.length_take, List.length_drop]
    omega
  unfold takeAttrAt takeAttr
  by_cases hshort : llen < a.text.length
  · have hno : ¬a.text <+: (body.drop i).take llen := by
      intro hp
      have := hp.length_le
      omega
    rw [if_pos hshort, if_neg hno]
    rfl
  · -- the front of the line is the front of the buffer from `i` on
    have hfront : a.text <+: (body.drop i).take llen ↔ (body.drop i).take a.text.length = a.text := by
      rw [List.prefix_iff_eq_take, List.take_take, min_eq_left (by omega)]
      exact eq_comm
    rw [if_neg hshort, loadRange_of_le (by omega)]
    by_cases hp : (body.drop i).take a.text.length = a.text
    · rw [if_pos (hfront.mpr hp), loadRange_of_le (by omega), copyBounded, List.drop_take,
        List.drop_drop, List.take_take, min_comm]
      simp [hp]
    · rw [if_neg fun h => hp (hfront.mp h)]
      simp [hp]

/-- So does the step for a line. -/
theorem sdpLineAt_eq {body : Bytes} {i llen : ℕ} (h : i + llen ≤ body.length) (out : SdpArrays) :
    sdpLineAt body i llen out = some (out.line ((body.drop i).take llen)) := by
  unfold sdpLineAt SdpArrays.line
  rw [takeAttrAt_eq h, takeAttrAt_eq h, takeAttrAt_eq h]
  cases takeAttr ((body.drop i).take llen) (SdpAttr.text .rsaaeskey) (SdpAttr.cap .rsaaeskey) with
  | some src => rfl
  | none =>
      cases takeAttr ((body.drop i).take llen) (SdpAttr.text .aesiv) (SdpAttr.cap .aesiv) with
      | some src => rfl
      | none =>
          cases takeAttr ((body.drop i).take llen) (SdpAttr.text .fmtp) (SdpAttr.cap .fmtp) with
          | some src => rfl
          | none => rfl

/-- And so does removing the CR. -/
theorem stripCrAt_eq {body : Bytes} {i llen : ℕ} (h : i + llen ≤ body.length) :
    ∃ n, stripCrAt body i llen = some n ∧ n ≤ llen ∧
      (body.drop i).take n = stripCr ((body.drop i).take llen) := by
  unfold stripCrAt stripCr
  by_cases hpos : 0 < llen
  · -- the byte that is looked at is the last one of the line
    have hlt : i + llen - 1 < body.length := by omega
    have hlast : ((body.drop i).take llen).getLast? = some body[i + llen - 1] := by
      rw [List.getLast?_eq_getElem?, List.length_take, List.length_drop, min_eq_left (by omega),
        List.getElem?_take_of_lt (by omega), List.getElem?_drop,
        show i + (llen - 1) = i + llen - 1 by omega, List.getElem?_eq_getElem hlt]
    rw [if_pos hpos, List.getElem?_eq_getElem hlt, Option.bind_eq_bind, Option.bind_some, hlast]
    simp only [Option.some.injEq]
    by_cases hcr : body[i + llen - 1] = 0x0d
    · rw [if_pos hcr, if_pos hcr]
      refine ⟨llen - 1, rfl, by omega, ?_⟩
      rw [List.dropLast_eq_take, List.take_take, List.length_take, List.length_drop]
      congr 1
      omega
    · rw [if_neg hcr, if_neg hcr]
      exact ⟨llen, rfl, le_rfl, rfl⟩
  · obtain rfl : llen = 0 := by omega
    exact ⟨0, rfl, le_rfl, rfl⟩

/-! ## The lines -/

/-- The lines of a body: split at LF, one trailing CR removed. -/
def sdpLines (body : Bytes) : List Bytes := (body.splitOn 0x0a).map stripCr

section Fold

variable {β : Type*} {f : β → Bytes → β}

/-- The first line and the others, for a step that an empty line does not change. -/
theorem foldl_sdpLines (hf : ∀ b, f b [] = b) (s : Bytes) (b : β) :
    (sdpLines s).foldl f b
      = (sdpLines (s.drop ((s.takeWhile (· ≠ 0x0a)).length + 1))).foldl f
          (f b (stripCr (s.takeWhile (· ≠ 0x0a)))) := by
  have hnot := notMem_takeWhile_ne (0x0a : UInt8) s
  have hsplit : s.takeWhile (· ≠ 0x0a) ++ s.dropWhile (· ≠ 0x0a) = s :=
    List.takeWhile_append_dropWhile
  cases hrest : s.dropWhile (· ≠ 0x0a) with
  | nil =>
      -- the last line is not terminated
      rw [hrest, List.append_nil] at hsplit
      have hempty : sdpLines [] = [[]] := by decide
      rw [hsplit] at hnot ⊢
      rw [List.drop_eq_nil_of_le (by omega), sdpLines, List.splitOn_eq_singleton hnot, hempty]
      exact (hf _).symm
  | cons c rest =>
      obtain rfl := eq_of_dropWhile_ne hrest
      rw [hrest] at hsplit
      have hdrop : ∀ l : Bytes, l ++ 0x0a :: rest = s → s.drop (l.length + 1) = rest := by
        rintro l rfl
        simp [List.drop_append]
      have hlines : sdpLines s = stripCr (s.takeWhile (· ≠ 0x0a)) :: sdpLines rest := by
        conv_lhs => rw [← hsplit, sdpLines, List.splitOn_append_cons_self_of_not_mem hnot]
        rfl
      rw [hlines, hdrop _ hsplit, List.foldl_cons]

/-- A body with these lines: each is ended by LF or by CRLF, the last one possibly not at all. -/
inductive SdpText : List Bytes → Bytes → Prop where
  | nil : SdpText [] []
  | unterminated (line : Bytes) : SdpText [line] line
  | lf {line text : Bytes} {lines : List Bytes} :
      SdpText lines text → SdpText (line :: lines) (line ++ 0x0a :: text)
  | crlf {line text : Bytes} {lines : List Bytes} :
      SdpText lines text → SdpText (line :: lines) (line ++ 0x0d :: 0x0a :: text)

/-- Without a CR the line is whole. -/
theorem stripCr_of_notMem {line : Bytes} (h : 0x0d ∉ line) : stripCr line = line :=
  if_neg fun hlast => h (List.mem_of_getLast? hlast)

/-- One CR at the end is removed. -/
theorem stripCr_append_cr (line : Bytes) : stripCr (line ++ [0x0d]) = line := by
  rw [stripCr, if_pos List.getLast?_concat, List.dropLast_concat]

/-- **How the lines are ended does not matter.** -/
theorem SdpText.foldl_sdpLines {lines : List Bytes} {text : Bytes} (ht : SdpText lines text)
    (hf : ∀ b, f b [] = b) (hlines : ∀ line ∈ lines, 0x0a ∉ line ∧ 0x0d ∉ line) (b : β) :
    (sdpLines text).foldl f b = lines.foldl f b := by
  induction ht generalizing b with
  | nil => exact hf b
  | unterminated line =>
      obtain ⟨hlf, hcr⟩ := hlines line List.mem_cons_self
      rw [sdpLines, List.splitOn_eq_singleton hlf, List.map_singleton, stripCr_of_notMem hcr]
  | lf _ ih =>
      obtain ⟨hlf, hcr⟩ := hlines _ List.mem_cons_self
      rw [sdpLines, List.splitOn_append_cons_self_of_not_mem hlf, List.map_cons,
        stripCr_of_notMem hcr, List.foldl_cons, List.foldl_cons]
      exact ih (fun l hl => hlines l (List.mem_cons_of_mem _ hl)) _
  | @crlf line text lines _ ih =>
      obtain ⟨hlf, -⟩ := hlines _ List.mem_cons_self
      have hnot : (0x0a : UInt8) ∉ line ++ [0x0d] := by simpa using hlf
      rw [List.append_cons, sdpLines, List.splitOn_append_cons_self_of_not_mem hnot, List.map_cons,
        stripCr_append_cr, List.foldl_cons, List.foldl_cons]
      exact ih (fun l hl => hlines l (List.mem_cons_of_mem _ hl)) _

end Fold

/-! ## The scan is the fold over the lines -/

/-- An empty line stores nothing in the arrays. -/
theorem SdpArrays.line_nil (out : SdpArrays) : out.line [] = out := by
  have hno : ∀ a : SdpAttr, takeAttr [] a.text a.cap = none := fun a =>
    if_neg fun h => a.text_ne_nil (List.prefix_nil.mp h)
  rw [SdpArrays.line, hno, hno, hno]

/-- **The scan stays inside the body and does one step for each line.** -/
theorem sdpScan_eq (body : Bytes) (i : ℕ) (out : SdpArrays) :
    sdpScan body i out = some ((sdpLines (body.drop i)).foldl SdpArrays.line out) := by
  -- by induction on what is left of the body; each turn of the loop takes its first line
  induction hn : body.length - i using Nat.strong_induction_on generalizing i out with
  | _ n ih =>
      subst hn
      rw [sdpScan]
      by_cases hi : i < body.length
      · have hscan := scanWhile_eq (fun c : UInt8 => decide (c ≠ 0x0a)) body i
        have hfront := List.takeWhile_prefix (l := body.drop i) fun c : UInt8 => decide (c ≠ 0x0a)
        have hline := hfront.length_le
        rw [List.length_drop] at hline
        obtain ⟨llen, hllen, hle, hstrip⟩ :=
          @stripCrAt_eq body i ((body.drop i).takeWhile (· ≠ 0x0a)).length (by omega)
        rw [← List.prefix_iff_eq_take.mp hfront] at hstrip
        rw [if_pos hi, foldl_sdpLines SdpArrays.line_nil]
        split
        · next hj => exact absurd (hj.symm.trans hscan) (by simp)
        · next j hj =>
            obtain rfl := Option.some.inj (hj.symm.trans hscan)
            rw [Nat.add_sub_cancel_left, hllen, Option.bind_eq_bind, Option.bind_some,
              sdpLineAt_eq (by omega), Option.bind_eq_bind, Option.bind_some, hstrip, ih _ (by omega) _ _ rfl,
              List.drop_drop, Nat.add_assoc]
      · rw [if_neg hi, List.drop_eq_nil_of_le (by omega)]
        exact congrArg some (out.line_nil).symm

/-- What `sdp_parse` returns and stores, with every access inside the body. -/
theorem sdpParseBuffer_eq (body : Bytes) :
    sdpParseBuffer (some body) =
      some (((sdpLines body).foldl SdpArrays.line .zero).result,
        (sdpLines body).foldl SdpArrays.line .zero) := by
  rw [sdpParseBuffer]
  split
  · next h =>
      rw [List.length_eq_zero_iff.mp h]
      exact congrArg (fun out => some (false, out)) SdpArrays.zero.line_nil.symm
  · rw [sdpScan_eq]
    rfl

/-! ## What the arrays hold -/

namespace SdpArrays

/-- A line with an attribute is stored in the array of this attribute. -/
theorem line_of_text (out : SdpArrays) {a : SdpAttr} {line : Bytes} (h : a.text <+: line) :
    out.line line = out.store a (copyBounded a.cap (line.drop a.text.length)) := by
  have htake : takeAttr line a.text a.cap = some (copyBounded a.cap (line.drop a.text.length)) :=
    if_pos h
  have hno : ∀ b : SdpAttr, b ≠ a → takeAttr line b.text b.cap = none := fun b hb =>
    if_neg fun hp => hb (SdpAttr.eq_of_text hp h)
  rw [SdpArrays.line]
  cases a with
  | rsaaeskey => rw [htake]
  | aesiv => rw [hno .rsaaeskey (by decide), htake]
  | fmtp => rw [hno .rsaaeskey (by decide), hno .aesiv (by decide), htake]

/-- Any other line leaves the array and its flag alone. -/
theorem line_of_no_text (out : SdpArrays) {a : SdpAttr} {line : Bytes} (h : ¬a.text <+: line) :
    (out.line line).array a = out.array a ∧ (out.line line).has a = out.has a := by
  by_cases hb : ∃ b : SdpAttr, b.text <+: line
  · obtain ⟨b, hb⟩ := hb
    have hne : a ≠ b := fun hab => h (hab ▸ hb)
    rw [out.line_of_text hb]
    exact out.store_of_ne hne _
  · have hno : ∀ b : SdpAttr, takeAttr line b.text b.cap = none := fun b =>
      if_neg fun hp => hb ⟨b, hp⟩
    rw [SdpArrays.line, hno, hno, hno]
    exact ⟨rfl, rfl⟩

end SdpArrays

/-- The last of the lines that begin with the attribute. -/
def lastWith (a : SdpAttr) (lines : List Bytes) : Option Bytes :=
  (lines.filter (a.text <+: ·)).getLast?

/-- There is a last line with the attribute if there is one at all. -/
theorem lastWith_isSome_iff {a : SdpAttr} {lines : List Bytes} :
    (lastWith a lines).isSome = true ↔ ∃ line ∈ lines, a.text <+: line := by
  rw [lastWith, List.getLast?_isSome, Ne, List.filter_eq_nil_iff]
  simp

/-- One line more is the last one, if it has the attribute. -/
theorem lastWith_append_singleton (a : SdpAttr) (lines : List Bytes) (line : Bytes) :
    lastWith a (lines ++ [line]) = if a.text <+: line then some line else lastWith a lines := by
  rw [lastWith, getLast?_filter_concat]
  simp only [decide_eq_true_eq]
  rfl

/-- **The last line wins**: a flag is set if some line has the attribute, and its array begins with
what fits of the last such line, and a NUL. -/
theorem SdpArrays.foldl_line (a : SdpAttr) (lines : List Bytes) :
    (lines.foldl line zero).has a = (lastWith a lines).isSome ∧
      ∀ l, lastWith a lines = some l →
        (l.drop a.text.length).take (a.cap - 1) ++ [0] <+: ((lines.foldl line zero).array a).bytes := by
  -- from the end: the last line decides, or does not matter
  induction lines using List.reverseRecOn with
  | nil => exact ⟨rfl, fun l hl => by cases hl⟩
  | append_singleton lines last ih =>
      rw [List.foldl_concat, lastWith_append_singleton]
      by_cases hp : a.text <+: last
      · rw [if_pos hp, line_of_text _ hp, array_store]
        refine ⟨has_store .., fun l hl => ?_⟩
        cases hl
        have hcopy := ((lines.foldl line zero).array a).bytes_copy a.cap_ne_zero
          (copyBounded a.cap (last.drop a.text.length))
        rwa [copyBounded, List.take_take, min_self] at hcopy
      · obtain ⟨harray, hhas⟩ := line_of_no_text (lines.foldl line zero) hp
        rw [if_neg hp, harray, hhas]
        exact ih

/-! ## The arrays hold the values of `sdpParse` -/

/-- An empty line stores nothing in the values. -/
theorem sdpLine_nil (out : SdpMedia) : sdpLine out [] = out := by
  have hno : ∀ a : SdpAttr, takeAttr [] a.text a.cap = none := fun a =>
    if_neg fun h => a.text_ne_nil (List.prefix_nil.mp h)
  have hrsaaeskey : takeAttr [] (ascii "a=rsaaeskey:") sdpRsaaeskeyCap = none := hno .rsaaeskey
  have haesiv : takeAttr [] (ascii "a=aesiv:") sdpAesivCap = none := hno .aesiv
  have hfmtp : takeAttr [] (ascii "a=fmtp:") sdpFmtpCap = none := hno .fmtp
  rw [sdpLine, hrsaaeskey, haesiv, hfmtp]

/-- `sdpParse` is a fold over the lines of the body, too. -/
theorem sdpParseLoop_eq (rest : Bytes) (out : SdpMedia) :
    sdpParseLoop rest out = (sdpLines rest).foldl sdpLine out := by
  fun_induction sdpParseLoop rest out with
  | case1 out => exact (sdpLine_nil out).symm
  | case2 rest out _ _ ih => rw [ih, ← foldl_sdpLines sdpLine_nil]

/-- Each array holds its string and a NUL, and the flags agree. -/
structure SdpArrays.Holds (out : SdpArrays) (m : SdpMedia) : Prop where
  rsaaeskey : m.rsaaeskey ++ [0] <+: (out.array .rsaaeskey).bytes
  aesiv : m.aesiv ++ [0] <+: (out.array .aesiv).bytes
  fmtp : m.fmtp ++ [0] <+: (out.array .fmtp).bytes
  hasRsaaeskey : out.has .rsaaeskey = m.hasRsaaeskey
  hasAesiv : out.has .aesiv = m.hasAesiv
  hasFmtp : out.has .fmtp = m.hasFmtp

/-- What `take_attr` returns fits the array of its attribute. -/
theorem SdpArrays.bytes_store (out : SdpArrays) {a : SdpAttr} {l src : Bytes}
    (h : takeAttr l a.text a.cap = some src) : src ++ [0] <+: ((out.store a src).array a).bytes := by
  have hlt := takeAttr_length (Nat.pos_of_ne_zero a.cap_ne_zero) h
  have hcopy := (out.array a).bytes_copy a.cap_ne_zero src
  rwa [List.take_of_length_le (by omega), ← array_store] at hcopy

/-- **Step lemma**: on each line, both store the same. -/
theorem SdpArrays.Holds.line {out : SdpArrays} {m : SdpMedia} (h : out.Holds m) (l : Bytes) :
    (out.line l).Holds (sdpLine m l) := by
  unfold SdpArrays.line sdpLine
  cases hr : takeAttr l (SdpAttr.text .rsaaeskey) (SdpAttr.cap .rsaaeskey) with
  | some src =>
      rw [show takeAttr l (ascii "a=rsaaeskey:") sdpRsaaeskeyCap = some src from hr]
      exact { h with rsaaeskey := out.bytes_store hr, hasRsaaeskey := rfl }
  | none =>
      rw [show takeAttr l (ascii "a=rsaaeskey:") sdpRsaaeskeyCap = none from hr]
      cases hi : takeAttr l (SdpAttr.text .aesiv) (SdpAttr.cap .aesiv) with
      | some src =>
          rw [show takeAttr l (ascii "a=aesiv:") sdpAesivCap = some src from hi]
          exact { h with aesiv := out.bytes_store hi, hasAesiv := rfl }
      | none =>
          rw [show takeAttr l (ascii "a=aesiv:") sdpAesivCap = none from hi]
          cases hf : takeAttr l (SdpAttr.text .fmtp) (SdpAttr.cap .fmtp) with
          | some src =>
              rw [show takeAttr l (ascii "a=fmtp:") sdpFmtpCap = some src from hf]
              exact { h with fmtp := out.bytes_store hf, hasFmtp := rfl }
          | none =>
              rw [show takeAttr l (ascii "a=fmtp:") sdpFmtpCap = none from hf]
              exact h

/-- **Run lemma**: and so on all of them. -/
theorem SdpArrays.Holds.foldl {out : SdpArrays} {m : SdpMedia} (h : out.Holds m)
    (lines : List Bytes) : (lines.foldl SdpArrays.line out).Holds (lines.foldl sdpLine m) := by
  induction lines generalizing out m with
  | nil => exact h
  | cons l lines ih => exact ih (h.line l)

/-- **The function on the buffer stores what `sdpParse` computes.** -/
theorem sdpParseBuffer_holds (body : Bytes) :
    ∃ out, sdpParseBuffer (some body) = some (out.result, out) ∧ out.Holds (sdpParse body) := by
  refine ⟨_, sdpParseBuffer_eq body, ?_⟩
  rw [sdpParse, sdpParseLoop_eq]
  refine SdpArrays.Holds.foldl ?_ (sdpLines body)
  constructor <;> decide

/-! ## The line grammar -/

/-- **The attributes are those of the lines of the body.** For every body, `sdp_parse` reads inside it
only (a read behind its end would fail); a flag is set if and only if some line begins with the text
of the attribute; the array begins with the rest of the last such line, cut so that it fits, and a
NUL; and the function returns whether a flag is set. Lines without a CR have the same outcome
whether they are ended by LF or CRLF, and whether or not the last one is terminated. -/
theorem sdpParse_lineGrammar :
    (∀ body : Bytes, ∃ out : SdpArrays,
      sdpParseBuffer (some body)
        = some (out.has .rsaaeskey || out.has .aesiv || out.has .fmtp, out) ∧
      ∀ a : SdpAttr,
        (out.has a = true ↔ ∃ line ∈ sdpLines body, a.text <+: line) ∧
        ∀ line, lastWith a (sdpLines body) = some line →
          (line.drop a.text.length).take (a.cap - 1) ++ [0] <+: (out.array a).bytes) ∧
    ∀ (lines : List Bytes) (text text' : Bytes), (∀ line ∈ lines, 0x0a ∉ line ∧ 0x0d ∉ line) →
      SdpText lines text → SdpText lines text' →
      sdpParseBuffer (some text) = sdpParseBuffer (some text') := by
  constructor
  · intro body
    refine ⟨_, sdpParseBuffer_eq body, fun a => ?_⟩
    obtain ⟨hhas, harray⟩ := SdpArrays.foldl_line a (sdpLines body)
    exact ⟨by rw [hhas, lastWith_isSome_iff], harray⟩
  · intro lines text text' hlines ht ht'
    rw [sdpParseBuffer_eq, sdpParseBuffer_eq, ht.foldl_sdpLines SdpArrays.line_nil hlines,
      ht'.foldl_sdpLines SdpArrays.line_nil hlines]

/-- Two lines, with CRLF and with LF. -/
theorem sdpParse_lineGrammar_crlf :
    sdpParseBuffer (some (ascii "v=0\r\na=fmtp:96 352\r\n"))
      = sdpParseBuffer (some (ascii "v=0\na=fmtp:96 352")) := by
  have hcrlf : SdpText [ascii "v=0", ascii "a=fmtp:96 352"] (ascii "v=0\r\na=fmtp:96 352\r\n") :=
    .crlf (.crlf .nil)
  have hlf : SdpText [ascii "v=0", ascii "a=fmtp:96 352"] (ascii "v=0\na=fmtp:96 352") :=
    .lf (.unterminated _)
  exact sdpParse_lineGrammar.2 _ _ _ (by decide) hcrlf hlf

end ConduitStream
