import Mathlib.Algebra.Order.Ring.Nat
import Mathlib.Tactic.Ring
import ConduitStream.Rtsp.RequestHead

/-! # Where the body of a request ends

The parser takes the length of the body from its header table. The table holds twenty headers and
384 bytes of a value, so a `Content-Length` further down in the head is not seen at all and the
request is taken to have no body, and a number with too many digits is cut. `bodyFraming_exact_iff`
says exactly for which well-formed requests the parser consumes the declared body. -/

namespace ConduitStream

/-! ## Decimal numbers -/

/-- The digits in front weigh more by the number of those behind. -/
theorem decimal_append (a b : Bytes) :
    decimal (a ++ b) = decimal a * 10 ^ b.length + decimal b := by
  have hfold : ∀ (n : ℕ), b.foldl (fun n d => 10 * n + (d.toNat - 48)) n
      = n * 10 ^ b.length + decimal b := by
    unfold decimal
    induction b with
    | nil => intro n; simp
    | cons d b ih =>
        intro n
        rw [List.foldl_cons, List.foldl_cons, ih, ih (10 * 0 + _), List.length_cons]
        ring
  rw [decimal, List.foldl_append]
  exact hfold _

/-- Cutting digits off a number other than zero makes it smaller. -/
theorem decimal_take_lt {ds : Bytes} {n : ℕ} (hn : n < ds.length) (hpos : 0 < decimal ds) :
    decimal (ds.take n) < decimal ds := by
  have hsplit := decimal_append (ds.take n) (ds.drop n)
  rw [List.take_append_drop] at hsplit
  have hten : 10 ^ 1 ≤ 10 ^ (ds.drop n).length :=
    Nat.pow_le_pow_right (by norm_num) (by rw [List.length_drop]; omega)
  rcases Nat.eq_zero_or_pos (decimal (ds.take n)) with h0 | h0
  · omega
  · have hmul : decimal (ds.take n) * 10 ^ 1 ≤ decimal (ds.take n) * 10 ^ (ds.drop n).length :=
      Nat.mul_le_mul_left _ hten
    omega

/-- Cutting digits off a number never makes it larger. -/
theorem decimal_take_le (ds : Bytes) (n : ℕ) : decimal (ds.take n) ≤ decimal ds := by
  have hsplit := decimal_append (ds.take n) (ds.drop n)
  rw [List.take_append_drop] at hsplit
  have hmul : decimal (ds.take n) * 1 ≤ decimal (ds.take n) * 10 ^ (ds.drop n).length :=
    Nat.mul_le_mul_left _ (Nat.one_le_pow _ _ (by norm_num))
  omega

/-- A string of digits contains no NUL. -/
theorem cstr_digits {ds : Bytes} (hds : ∀ d ∈ ds, isDigit d = true) : cstr ds = ds :=
  cstr_eq_self fun h0 => absurd (hds 0 h0) (by decide)

/-- A line of `Content-Length` and digits fits the grammar. -/
theorem isHeader_contentLength {ds : Bytes} (hds : ∀ d ∈ ds, isDigit d = true) :
    IsHeader ⟨ascii "Content-Length", ds⟩ where
  colon := by
    have hcolon : (0x3a : UInt8) ∉ ascii "Content-Length" := by decide
    exact hcolon
  line := by
    have hcr : (0x0d : UInt8) ∉ ascii "Content-Length" := by decide
    refine IsLine.of_not_mem fun hmem => ?_
    rcases List.mem_append.mp hmem with h | h
    · exact hcr h
    · rw [List.mem_cons, List.mem_cons] at h
      rcases h with h | h | h
      · exact absurd h (by decide)
      · exact absurd h (by decide)
      · exact absurd (hds _ h) (by decide)

/-! ## The Content-Length the parser sees -/

section ContentLength

/-- Truncation to the name array does not make a name equal to `Content-Length`, or unequal. -/
theorem storedHeader_isContentLength (h : RtspHeader) :
    strcasecmpEq (storedHeader h).name (ascii "Content-Length")
      = strcasecmpEq h.name (ascii "Content-Length") :=
  strcasecmpEq_take (by decide)

variable {pre post : List RtspHeader} {ds : Bytes}

/-- The only Content-Length header is found exactly if it is among the first twenty. -/
theorem rtspHeaderGet_contentLength
    (hother : ∀ h ∈ pre ++ post, strcasecmpEq h.name (ascii "Content-Length") = false) :
    rtspHeaderGet (((pre ++ ⟨ascii "Content-Length", ds⟩ :: post).take rtspMaxHeaders).map
        storedHeader) (ascii "Content-Length")
      = if pre.length < rtspMaxHeaders then some (copyBounded rtspMaxValue ds) else none := by
  have hnone : ∀ hs : List RtspHeader, (∀ h ∈ hs, h ∈ pre ++ post) →
      (hs.map storedHeader).find? (fun h => strcasecmpEq h.name (ascii "Content-Length")) = none := by
    intro hs hsub
    rw [List.find?_eq_none]
    rintro _ hmem
    obtain ⟨h, hh, rfl⟩ := List.mem_map.mp hmem
    rw [storedHeader_isContentLength, hother h (hsub h hh)]
    exact Bool.false_ne_true
  have hpre := hnone pre fun h hh => List.mem_append_left _ hh
  by_cases hroom : pre.length < rtspMaxHeaders
  · obtain ⟨k, hk⟩ : ∃ k, rtspMaxHeaders - pre.length = k + 1 := ⟨_, (Nat.succ_pred (by omega)).symm⟩
    have hself : strcasecmpEq (storedHeader ⟨ascii "Content-Length", ds⟩).name
        (ascii "Content-Length") = true := by
      rw [storedHeader_isContentLength]
      exact decide_eq_true rfl
    rw [if_pos hroom, rtspHeaderGet, List.take_append, List.take_of_length_le hroom.le, hk,
      List.take_succ_cons, List.map_append, List.find?_append, hpre, List.map_cons, Option.none_or,
      List.find?_cons, hself]
    rfl
  · -- the table is full before the header is reached
    rw [if_neg hroom, rtspHeaderGet, List.take_append_of_le_length (not_lt.mp hroom),
      hnone _ fun h hh => List.mem_append_left _ (List.mem_of_mem_take hh)]
    rfl

/-- **The body length the parser uses**: the declared one, cut to 383 digits and saturated, if the
header is among the first twenty, and none otherwise. -/
theorem rtspContentLength_toNat (hne : ds ≠ []) (hds : ∀ d ∈ ds, isDigit d = true)
    (hother : ∀ h ∈ pre ++ post, strcasecmpEq h.name (ascii "Content-Length") = false) :
    (rtspContentLength (((pre ++ ⟨ascii "Content-Length", ds⟩ :: post).take rtspMaxHeaders).map
        storedHeader)).toNat
      = if pre.length < rtspMaxHeaders then min (decimal (ds.take (rtspMaxValue - 1))) longMax
        else 0 := by
  rw [rtspContentLength, rtspHeaderLong, rtspHeaderGet_contentLength hother]
  by_cases hroom : pre.length < rtspMaxHeaders
  · have hds' : ∀ d ∈ ds.take (rtspMaxValue - 1), isDigit d = true := fun d hd =>
      hds d (List.mem_of_mem_take hd)
    have hne' : ds.take (rtspMaxValue - 1) ≠ [] := by
      intro h
      rcases List.take_eq_nil_iff.mp h with h | h
      · exact absurd h (by decide)
      · exact hne h
    rw [if_pos hroom, if_pos hroom, Option.bind_some, copyBounded, cstr_digits hds',
      strtol_digits hne' hds']
    exact congrArg Int.toNat (if_neg (by omega))
  · rw [if_neg hroom, if_neg hroom]
    rfl

/-- The parser uses the declared length `L` exactly if `L` is zero, or the header is among the first
twenty, its digits fit the value array and `L` fits a `long`. -/
theorem usedLength_eq_iff :
    (if pre.length < rtspMaxHeaders then min (decimal (ds.take (rtspMaxValue - 1))) longMax else 0)
        = decimal ds ↔
      decimal ds = 0 ∨
        (pre.length < rtspMaxHeaders ∧ ds.length < rtspMaxValue ∧ decimal ds ≤ longMax) := by
  by_cases hroom : pre.length < rtspMaxHeaders
  · rw [if_pos hroom]
    by_cases hfit : ds.length < rtspMaxValue
    · rw [List.take_of_length_le (by omega)]
      constructor
      · intro h
        exact .inr ⟨hroom, hfit, by omega⟩
      · rintro (h | ⟨-, -, h⟩) <;> omega
    · rcases Nat.eq_zero_or_pos (decimal ds) with h0 | hpos
      · have := decimal_take_le ds (rtspMaxValue - 1)
        exact iff_of_true (by omega) (.inl h0)
      · -- without its last digits a positive number is a smaller one
        have hlt : decimal (ds.take (rtspMaxValue - 1)) < decimal ds :=
          decimal_take_lt (by unfold rtspMaxValue at hfit ⊢; omega) hpos
        refine iff_of_false (by omega) ?_
        rintro (h | ⟨-, h, -⟩)
        · omega
        · exact hfit h
  · rw [if_neg hroom]
    constructor
    · intro h
      exact .inl h.symm
    · rintro (h | ⟨h, -, -⟩)
      · exact h.symm
      · exact absurd h hroom

end ContentLength

/-- **Exactly when a request is framed by its declared length.** For every request line, all header
lines around the only `Content-Length` line, every digit string in it and at least the declared
number of bytes behind the head: an accepted parse takes the head and the declared body, and hands
out that body, if and only if the declared length is zero, or the `Content-Length` line is among the
first twenty header lines, has at most 383 digits, and fits a `long`. -/
theorem bodyFraming_exact_iff (line : Bytes) (pre post : List RtspHeader) (ds rest : Bytes)
    (hline : IsLine line) (hhs : ∀ h ∈ pre ++ post, IsHeader h)
    (hother : ∀ h ∈ pre ++ post, strcasecmpEq h.name (ascii "Content-Length") = false)
    (hne : ds ≠ []) (hds : ∀ d ∈ ds, isDigit d = true) (hrest : decimal ds ≤ rest.length)
    (head : Bytes)
    (hhead : head = requestHead line (pre ++ ⟨ascii "Content-Length", ds⟩ :: post)) :
    (∀ req, rtspParseRequest (head ++ rest) = some req →
        req.totalLen = head.length + decimal ds ∧ req.body = rest.take (decimal ds)) ↔
      (decimal ds = 0 ∨
        (pre.length < rtspMaxHeaders ∧ ds.length < rtspMaxValue ∧ decimal ds ≤ longMax)) := by
  subst hhead
  have hcl := isHeader_contentLength hds
  have hall : ∀ h ∈ pre ++ ⟨ascii "Content-Length", ds⟩ :: post, IsHeader h := by
    intro h hh
    rcases List.mem_append.mp hh with hh | hh
    · exact hhs h (List.mem_append_left _ hh)
    · rcases List.mem_cons.mp hh with rfl | hh
      · exact hcl
      · exact hhs h (List.mem_append_right _ hh)
  generalize hhead : requestHead line (pre ++ ⟨ascii "Content-Length", ds⟩ :: post) = head
  have hlen : 4 ≤ head.length := hhead ▸ four_le_requestHead_length _ _
  have hterm := findTerm_requestHead hline hall rest
  have hparse := parseHead_requestHead hline hall rest
  rw [hhead] at hterm hparse
  have hdrop : (head ++ rest).drop (head.length - 4 + 4) = rest := by
    rw [Nat.sub_add_cancel hlen, List.drop_left]
  -- the length the parser uses never exceeds the declared one, so the request is accepted
  have hused := rtspContentLength_toNat hne hds hother
  have hle := decimal_take_le ds (rtspMaxValue - 1)
  have haccept := rtspParseRequest_of_parts hterm hparse
    (by rw [hused, List.length_append]; split_ifs <;> omega)
  rw [← usedLength_eq_iff, ← hused, haccept, hdrop]
  constructor
  · intro h
    have := (h _ rfl).1
    dsimp only at this
    omega
  · rintro h req heq
    cases heq
    dsimp only
    rw [h]
    exact ⟨by omega, rfl⟩

/-- A framed request: three digits' worth of body behind two headers. -/
theorem bodyFraming_exact_iff_framed :
    (∀ req, rtspParseRequest (requestHead (ascii "SET_PARAMETER * RTSP/1.0")
          ([⟨ascii "CSeq", ascii "4"⟩] ++ ⟨ascii "Content-Length", ascii "012"⟩ :: [])
          ++ ascii "volume: -15\r\nOPTIONS") = some req →
        req.totalLen = (requestHead (ascii "SET_PARAMETER * RTSP/1.0")
          ([⟨ascii "CSeq", ascii "4"⟩] ++ ⟨ascii "Content-Length", ascii "012"⟩ :: [])).length
            + decimal (ascii "012") ∧
          req.body = (ascii "volume: -15\r\nOPTIONS").take (decimal (ascii "012"))) ↔
      (decimal (ascii "012") = 0 ∨ ([⟨ascii "CSeq", ascii "4"⟩] : List RtspHeader).length
          < rtspMaxHeaders ∧ (ascii "012").length < rtspMaxValue ∧
        decimal (ascii "012") ≤ longMax) :=
  bodyFraming_exact_iff _ _ _ _ _ (IsLine.of_not_mem (by decide))
    (by
      intro h hh
      rw [List.append_nil, List.mem_singleton] at hh
      subst hh
      exact ⟨by decide, IsLine.of_not_mem (by decide)⟩)
    (by decide) (by decide) (by decide +kernel) (by decide) _ rfl

/-- **A body is parsed as a request**: with twenty header lines in front of `Content-Length: 7` the
parser takes the request to end with its head, and the body is left for the next request. -/
theorem bodyFraming_lost_behind_twenty_headers :
    ¬∀ req, rtspParseRequest (requestHead (ascii "SET_PARAMETER * RTSP/1.0")
          (List.replicate 20 ⟨ascii "X", ascii "y"⟩ ++ ⟨ascii "Content-Length", ascii "7"⟩ :: [])
          ++ ascii "OPTIONS") = some req →
        req.totalLen = (requestHead (ascii "SET_PARAMETER * RTSP/1.0")
          (List.replicate 20 ⟨ascii "X", ascii "y"⟩
            ++ ⟨ascii "Content-Length", ascii "7"⟩ :: [])).length + 7 ∧
          req.body = ascii "OPTIONS" := by
  decide +kernel

end ConduitStream
