import Mathlib.Data.List.Basic
import Mathlib.Data.List.TakeWhile
import Mathlib.Logic.Function.Basic
import Mathlib.Data.UInt

/-! # Byte strings

Byte buffers are lists of bytes. The search and conversion functions of the C library that the
program uses on them are collected here, with the facts the parsers need:

* `findSeq` finds the first occurrence of a pattern; it does not depend on what follows that
  occurrence (`findSeq_append`);
* `memchr`, and the C-string functions `cstr`, `strcasecmpEq` and `strtol`, which stop at the first
  NUL;
* `strtol_digits`: a plain decimal number is read exactly, up to saturation. -/

namespace ConduitStream

/-- A byte buffer. -/
abbrev Bytes : Type := List UInt8

/-- The bytes of an ASCII text. -/
def ascii (s : String) : Bytes := s.toList.map fun c => UInt8.ofNat c.toNat

/-! ## Numbers of several bytes -/

/-- Bytes that are shifted next to each other do not overlap. -/
theorem shiftLeft_or_bytes {a b c d : ℕ} (hb : b < 256) (hc : c < 256) (hd : d < 256) :
    a <<< 24 ||| b <<< 16 ||| c <<< 8 ||| d = ((a * 256 + b) * 256 + c) * 256 + d := by
  have hab : a <<< 24 ||| b <<< 16 = (a * 256 + b) <<< 16 := by
    rw [← Nat.shiftLeft_add_eq_or_of_lt (by rw [Nat.shiftLeft_eq]; omega)]
    simp only [Nat.shiftLeft_eq]
    omega
  have habc : (a * 256 + b) <<< 16 ||| c <<< 8 = ((a * 256 + b) * 256 + c) <<< 8 := by
    rw [← Nat.shiftLeft_add_eq_or_of_lt (by rw [Nat.shiftLeft_eq]; omega)]
    simp only [Nat.shiftLeft_eq]
    omega
  rw [hab, habc, ← Nat.shiftLeft_add_eq_or_of_lt (by omega), Nat.shiftLeft_eq]

/-! ## Searching -/

/-- An occurrence inside the front part of a buffer is an occurrence in that part. -/
theorem prefix_drop_append_iff {α : Type*} {pat s t : List α} {j : ℕ} (hj : j + pat.length ≤ s.length) :
    pat <+: (s ++ t).drop j ↔ pat <+: s.drop j := by
  rw [List.drop_append_of_le_length (by omega)]
  constructor
  · intro h
    exact List.prefix_of_prefix_length_le h (List.prefix_append _ _)
      (by rw [List.length_drop]; omega)
  · intro h
    exact List.prefix_append_of_prefix h

section Search

variable {α : Type*} [DecidableEq α]

/-- The first position at which `pat` occurs in full. -/
def findSeq (pat : List α) : List α → Option ℕ
  | [] => none
  | a :: s => if pat <+: a :: s then some 0 else (findSeq pat s).map (· + 1)

variable {pat s t : List α} {i : ℕ}

/-- An occurrence at the front is found. -/
theorem findSeq_of_prefix (hpat : pat ≠ []) (h : pat <+: s) : findSeq pat s = some 0 := by
  cases s with
  | nil => exact absurd (List.prefix_nil.mp h) hpat
  | cons a s => rw [findSeq, if_pos h]

/-- Otherwise the search goes on behind the first element. -/
theorem findSeq_cons_skip {a : α} (h : ¬pat <+: a :: s) :
    findSeq pat (a :: s) = (findSeq pat s).map (· + 1) := if_neg h

/-- What `findSeq` finds is an occurrence, and the first one. -/
theorem findSeq_eq_some_iff (hpat : pat ≠ []) :
    findSeq pat s = some i ↔ pat <+: s.drop i ∧ ∀ j < i, ¬pat <+: s.drop j := by
  induction s generalizing i with
  | nil =>
      refine iff_of_false (by simp [findSeq]) ?_
      rintro ⟨h, -⟩
      rw [List.drop_nil] at h
      exact hpat (List.prefix_nil.mp h)
  | cons a s ih =>
      rw [findSeq]
      by_cases h : pat <+: a :: s
      · -- an occurrence right here is the first one
        rw [if_pos h]
        constructor
        · intro h0
          cases h0
          exact ⟨h, fun j hj => absurd hj (Nat.not_lt_zero j)⟩
        · rintro ⟨-, hfirst⟩
          cases i with
          | zero => rfl
          | succ i => exact absurd h (hfirst 0 i.succ_pos)
      · -- any occurrence is one of the tail, shifted by one
        rw [if_neg h, Option.map_eq_some_iff]
        constructor
        · rintro ⟨k, hk, rfl⟩
          obtain ⟨hocc, hfirst⟩ := ih.mp hk
          refine ⟨hocc, fun j hj => ?_⟩
          cases j with
          | zero => exact h
          | succ j => exact hfirst j (by omega)
        · rintro ⟨hocc, hfirst⟩
          cases i with
          | zero => exact absurd hocc h
          | succ i =>
              exact ⟨i, ih.mpr ⟨hocc, fun j hj => hfirst (j + 1) (by omega)⟩, rfl⟩

/-- The occurrence lies inside the buffer. -/
theorem findSeq_add_length_le (hpat : pat ≠ []) (h : findSeq pat s = some i) :
    i + pat.length ≤ s.length := by
  have hle := ((findSeq_eq_some_iff hpat).mp h).1.length_le
  have hpos := List.length_pos_iff.mpr hpat
  rw [List.length_drop] at hle
  omega

/-- **Extension**: what follows the buffer does not change what is found. -/
theorem findSeq_append (hpat : pat ≠ []) (h : findSeq pat s = some i) (t : List α) :
    findSeq pat (s ++ t) = some i := by
  have hle := findSeq_add_length_le hpat h
  obtain ⟨hocc, hfirst⟩ := (findSeq_eq_some_iff hpat).mp h
  refine (findSeq_eq_some_iff hpat).mpr ⟨(prefix_drop_append_iff hle).mpr hocc, fun j hj hp => ?_⟩
  exact hfirst j hj ((prefix_drop_append_iff (by omega)).mp hp)

/-- Nothing is found exactly if the pattern does not occur. -/
theorem findSeq_eq_none_iff (hpat : pat ≠ []) : findSeq pat s = none ↔ ¬pat <:+: s := by
  induction s with
  | nil => simp [findSeq, hpat]
  | cons a s ih =>
      rw [findSeq, List.infix_cons_iff, not_or]
      by_cases h : pat <+: a :: s
      · rw [if_pos h]
        exact iff_of_false (Option.some_ne_none 0) fun hno => hno.1 h
      · rw [if_neg h, Option.map_eq_none_iff, ih]
        exact (and_iff_right h).symm

/-- A pattern without `c` does not reach over a `c`: if it does not occur before, the search goes on
behind. -/
theorem findSeq_append_cons {c : α} (hc : c ∉ pat) (hs : ¬pat <:+: s) :
    findSeq pat (s ++ c :: t) = (findSeq pat t).map (· + (s.length + 1)) := by
  induction s with
  | nil =>
      have hnot : ¬pat <+: c :: t := by
        intro hp
        cases pat with
        | nil => exact hs (List.infix_refl [])
        | cons b pat =>
            have hb := (List.cons_prefix_cons.mp hp).1
            exact hc (hb ▸ List.mem_cons_self)
      simpa using findSeq_cons_skip hnot
  | cons a s ih =>
      have hnot : ¬pat <+: a :: (s ++ c :: t) := by
        intro hp
        by_cases hlen : pat.length ≤ (a :: s).length
        · exact hs (List.prefix_of_prefix_length_le hp (List.prefix_append (a :: s) _) hlen).isInfix
        · -- the occurrence would cover the `c`
          have hpre : a :: s ++ [c] <+: pat := by
            refine List.prefix_of_prefix_length_le ⟨t, by simp⟩ hp ?_
            rw [List.length_append, List.length_singleton]
            omega
          exact hc (hpre.subset (by simp))
      have htail : ¬pat <:+: s := fun h => hs (h.trans (List.suffix_cons a s).isInfix)
      rw [List.cons_append, findSeq_cons_skip hnot, ih htail, Option.map_map]
      rfl

/-- `memchr`: the first position of a byte. -/
def memchr (s : List α) (c : α) : Option ℕ := s.idxOf? c

/-- The first `c` behind a part without `c`. -/
theorem memchr_append_cons {c : α} (h : c ∉ s) : memchr (s ++ c :: t) c = some s.length := by
  induction s with
  | nil => simp [memchr, List.idxOf?_cons]
  | cons a s ih =>
      rw [List.mem_cons, not_or] at h
      have ha : ¬(a = c) := fun hac => h.1 hac.symm
      have := ih h.2
      unfold memchr at this ⊢
      rw [List.cons_append, List.idxOf?_cons, this]
      simp [ha]

/-- The part in front of the first `c` has no `c`. -/
theorem notMem_takeWhile_ne (c : α) (s : List α) : c ∉ s.takeWhile (· ≠ c) := by
  intro h
  have hne := List.mem_takeWhile_imp h
  simp at hne

/-- The part behind it begins with `c`. -/
theorem eq_of_dropWhile_ne {c a : α} (h : s.dropWhile (· ≠ c) = a :: t) : a = c := by
  have hstop := List.head?_dropWhile_not (fun b : α => decide (b ≠ c)) s
  rw [h] at hstop
  simpa using hstop

end Search

/-- Dropping a larger class of bytes after a smaller one is dropping the larger one. -/
theorem dropWhile_dropWhile {α : Type*} {p q : α → Bool} (hpq : ∀ a, p a = true → q a = true)
    (s : List α) : (s.dropWhile p).dropWhile q = s.dropWhile q := by
  induction s with
  | nil => rfl
  | cons a s ih =>
      by_cases hp : p a = true
      · rw [List.dropWhile_cons_of_pos hp, ih, List.dropWhile_cons_of_pos (hpq a hp)]
      · rw [List.dropWhile_cons_of_neg hp]

/-- What is behind the run of `p` at the front. -/
theorem drop_length_takeWhile {α : Type*} (p : α → Bool) (s : List α) :
    s.drop (s.takeWhile p).length = s.dropWhile p := by
  conv_lhs => arg 2; rw [← List.takeWhile_append_dropWhile (p := p) (l := s)]
  exact List.drop_left

/-- The run of `p` at the front, and what is behind it. -/
theorem takeWhile_append_stop {α : Type*} {p : α → Bool} {s t : List α}
    (hs : ∀ a ∈ s, p a = true) (ht : ∀ a ∈ t.head?, p a = false) :
    (s ++ t).takeWhile p = s ∧ (s ++ t).dropWhile p = t := by
  rw [List.takeWhile_append_of_pos hs, List.dropWhile_append_of_pos hs]
  cases t with
  | nil => exact ⟨List.append_nil s, rfl⟩
  | cons a t =>
      have ha : ¬p a = true := by rw [ht a rfl]; decide
      rw [List.takeWhile_cons_of_neg ha, List.dropWhile_cons_of_neg ha, List.append_nil]
      exact ⟨rfl, rfl⟩

/-- The last element that satisfies `p`, when one more is considered. -/
theorem getLast?_filter_concat {α : Type*} (p : α → Bool) (s : List α) (a : α) :
    ((s ++ [a]).filter p).getLast? = if p a then some a else (s.filter p).getLast? := by
  rw [List.filter_append, List.filter_singleton]
  cases p a with
  | true => exact List.getLast?_concat
  | false => exact congrArg List.getLast? (List.append_nil _)

/-! ## C strings -/

/-- The C string stored at the front of a buffer: the bytes before the first NUL. -/
def cstr (s : Bytes) : Bytes := s.takeWhile (· ≠ 0)

/-- A string without a NUL is read to its end. -/
theorem cstr_eq_self {s : Bytes} (hs : 0 ∉ s) : cstr s = s := by
  refine List.takeWhile_eq_self_iff.mpr fun a ha => ?_
  have hne : a ≠ 0 := fun h => hs (h ▸ ha)
  simpa using hne

/-- A string behind which there is a NUL is read up to it. -/
theorem cstr_append_zero {s : Bytes} (hs : 0 ∉ s) (t : Bytes) : cstr (s ++ 0 :: t) = s := by
  have hall : ∀ a ∈ s, decide (a ≠ 0) = true := by
    intro a ha
    have hne : a ≠ 0 := fun h => hs (h ▸ ha)
    simpa using hne
  rw [cstr, List.takeWhile_append_of_pos hall, List.takeWhile_cons_of_neg (by simp),
    List.append_nil]

/-- What is read has no NUL. -/
theorem zero_notMem_cstr (s : Bytes) : 0 ∉ cstr s := notMem_takeWhile_ne 0 s

/-- A string has no NUL to be cut at. -/
theorem cstr_cstr (s : Bytes) : cstr (cstr s) = cstr s := cstr_eq_self (zero_notMem_cstr s)

/-- `tolower` in the C locale. -/
def toLower (c : UInt8) : UInt8 := if 0x41 ≤ c ∧ c ≤ 0x5a then c + 0x20 else c

/-- `strcasecmp(s, t) == 0`. -/
def strcasecmpEq (s t : Bytes) : Bool := (cstr s).map toLower = (cstr t).map toLower

/-- `strcmp(s, t) == 0`. -/
def strcmpEq (s t : Bytes) : Bool := cstr s = cstr t

/-- A copy that is longer than `t` compares with `t` as the whole string does. -/
theorem strcasecmpEq_take {s t : Bytes} {n : ℕ} (h : (cstr t).length < n) :
    strcasecmpEq (s.take n) t = strcasecmpEq s t := by
  have hcstr : cstr (s.take n) = (cstr s).take n := by
    unfold cstr
    exact List.take_takeWhile.symm
  unfold strcasecmpEq
  rw [hcstr]
  by_cases hs : (cstr s).length ≤ n
  · rw [List.take_of_length_le hs]
  · -- both strings are longer than `t`
    have hlen : ∀ u : Bytes, n ≤ u.length → ¬u.map toLower = (cstr t).map toLower := by
      intro u hu heq
      have := congrArg List.length heq
      rw [List.length_map, List.length_map] at this
      omega
    rw [decide_eq_false (hlen _ (by rw [List.length_take]; omega)),
      decide_eq_false (hlen _ (by omega))]

/-! ## `strtol` -/

/-- `LONG_MAX` on the 32-bit target. -/
def longMax : ℕ := 2 ^ 31 - 1

/-- `isspace` in the C locale. -/
def isSpace (c : UInt8) : Bool := c = 0x20 ∨ (0x09 ≤ c ∧ c ≤ 0x0d)

/-- `isdigit`. -/
def isDigit (c : UInt8) : Bool := 0x30 ≤ c ∧ c ≤ 0x39

/-- The number a string of decimal digits denotes. -/
def decimal (ds : Bytes) : ℕ := ds.foldl (fun n d => 10 * n + (d.toNat - 48)) 0

/-- `strtol(s, &end, 10)`: `none` if no number was found (`end == s`), else the value, saturated at
the limits of `long`. A NUL is neither a space, a sign nor a digit, so the scan stops there. -/
def strtol (s : Bytes) : Option ℤ :=
  let s := s.dropWhile isSpace
  let neg := s.head? = some 0x2d
  let s := if s.head? = some 0x2d ∨ s.head? = some 0x2b then s.tail else s
  let ds := s.takeWhile isDigit
  if ds = [] then none
  else if neg then some (-(min (decimal ds) (longMax + 1) : ℕ))
  else some (min (decimal ds) longMax : ℕ)

/-- The value is not above the limit. -/
theorem strtol_le {s : Bytes} {n : ℤ} (h : strtol s = some n) : n ≤ longMax := by
  unfold strtol at h
  dsimp only at h
  split_ifs at h <;> cases h <;> omega

/-- A digit is no white space, so a scan over blanks stops there. -/
theorem isSpace_of_isDigit {d : UInt8} (hd : isDigit d = true) : isSpace d = false := by
  have hd' : 0x30 ≤ d ∧ d ≤ 0x39 := by simpa [isDigit] using hd
  rw [isSpace, decide_eq_false_iff_not]
  rw [UInt8.le_iff_toNat_le, UInt8.le_iff_toNat_le] at hd'
  simp only [UInt8.le_iff_toNat_le, ← UInt8.toNat_inj]
  simp at hd' ⊢
  omega

/-- A plain decimal number is read exactly, up to saturation. -/
theorem strtol_digits {ds : Bytes} (hne : ds ≠ []) (hds : ∀ d ∈ ds, isDigit d = true) :
    strtol ds = some (min (decimal ds) longMax : ℕ) := by
  cases ds with
  | nil => exact absurd rfl hne
  | cons d ds =>
      have hd := hds d List.mem_cons_self
      have hspace := isSpace_of_isDigit hd
      have hminus : d ≠ 0x2d := by rintro rfl; exact absurd hd (by decide)
      have hplus : d ≠ 0x2b := by rintro rfl; exact absurd hd (by decide)
      have hall : (d :: ds).takeWhile isDigit = d :: ds := List.takeWhile_eq_self_iff.mpr hds
      simp [strtol, hspace, hminus, hplus, hall]

/-- `strtol` does not look beyond a character that is no digit, once it has seen one that is no
space. -/
theorem strtol_append_cons {s : Bytes} {c : UInt8} (hs : ∃ a ∈ s, isSpace a = false)
    (hc : isDigit c = false) (t : Bytes) : strtol (s ++ c :: t) = strtol s := by
  -- the blanks end within `s`, and the digits at `c` at the latest
  have hne : s.dropWhile isSpace ≠ [] := by
    obtain ⟨a, ha, hsp⟩ := hs
    intro h
    rw [List.dropWhile_eq_nil_iff] at h
    rw [h a ha] at hsp
    cases hsp
  have hdrop : (s ++ c :: t).dropWhile isSpace = s.dropWhile isSpace ++ c :: t := by
    rw [List.dropWhile_append, if_neg (by simpa using hne)]
  have hdigits : ∀ u : Bytes, (u ++ c :: t).takeWhile isDigit = u.takeWhile isDigit := by
    intro u
    rw [List.takeWhile_append]
    split
    · next h =>
        rw [List.takeWhile_cons_of_neg (by rw [hc]; exact Bool.false_ne_true), List.append_nil]
        exact (List.takeWhile_sublist _).eq_of_length h |>.symm
    · rfl
  obtain ⟨a, u, hu⟩ := List.exists_cons_of_ne_nil hne
  have hu' : (s ++ c :: t).dropWhile isSpace = a :: (u ++ c :: t) := by rw [hdrop, hu]; rfl
  unfold strtol
  rw [hu, hu']
  dsimp only [List.head?_cons, List.tail_cons]
  split_ifs <;> simp_all

/-- `strtol` finds no number in blanks followed by something else. -/
theorem strtol_blank_append_cons {s : Bytes} {c : UInt8} (hs : ∀ a ∈ s, isSpace a = true)
    (hspace : isSpace c = false) (hc : isDigit c = false) (hsign : c ≠ 0x2d ∧ c ≠ 0x2b) (t : Bytes) :
    strtol (s ++ c :: t) = none := by
  have hdrop : (s ++ c :: t).dropWhile isSpace = c :: t := by
    rw [List.dropWhile_append_of_pos hs, List.dropWhile_cons_of_neg (by rw [hspace]; simp)]
  simp [strtol, hdrop, hsign, hc]

/-- `strtol` finds no number in blanks. -/
theorem strtol_blank {s : Bytes} (hs : ∀ a ∈ s, isSpace a = true) : strtol s = none := by
  have hdrop : s.dropWhile isSpace = [] := List.dropWhile_eq_nil_iff.mpr hs
  simp [strtol, hdrop]

/-- `strtol` does not look beyond a character that belongs to no number. -/
theorem strtol_append_stop {c : UInt8} (hspace : isSpace c = false) (hc : isDigit c = false)
    (hsign : c ≠ 0x2d ∧ c ≠ 0x2b) (s t : Bytes) : strtol (s ++ c :: t) = strtol s := by
  by_cases hsp : ∃ a ∈ s, isSpace a = false
  · exact strtol_append_cons hsp hc t
  · have hblank : ∀ a ∈ s, isSpace a = true := by
      intro a ha
      by_contra hno
      exact hsp ⟨a, ha, by simpa using hno⟩
    rw [strtol_blank_append_cons hblank hspace hc hsign, strtol_blank hblank]

/-- `strtol` stops at the end of the C string by itself. -/
@[simp] theorem strtol_cstr (s : Bytes) : strtol (cstr s) = strtol s := by
  have hsplit : cstr s ++ s.dropWhile (· ≠ 0) = s := List.takeWhile_append_dropWhile
  cases hrest : s.dropWhile (· ≠ 0) with
  | nil => rw [hrest, List.append_nil] at hsplit; rw [hsplit]
  | cons c t =>
      -- the string ends in front of a NUL
      obtain rfl := eq_of_dropWhile_ne hrest
      rw [hrest] at hsplit
      conv_rhs => rw [← hsplit, strtol_append_stop (by decide) (by decide) (by decide)]

/-! ## Writing numbers -/

/-- A number in decimal, as `%u` writes it. -/
def formatNat (n : ℕ) : Bytes := (Nat.toDigits 10 n).map fun c => UInt8.ofNat c.toNat

/-- An integer in decimal, as `%d` writes it. -/
def formatInt (n : ℤ) : Bytes :=
  if n < 0 then 0x2d :: formatNat n.natAbs else formatNat n.natAbs

/-- A digit as a character is one byte with the same code. -/
theorem toNat_ofNat_of_isDigit {c : Char} (hc : c.isDigit = true) :
    (UInt8.ofNat c.toNat).toNat = c.toNat ∧ 48 ≤ c.toNat ∧ c.toNat ≤ 57 := by
  simp only [Char.isDigit, Bool.and_eq_true, decide_eq_true_eq, ge_iff_le,
    UInt32.le_iff_toNat_le] at hc
  have hlow : 48 ≤ c.toNat := hc.1
  have hhigh : c.toNat ≤ 57 := hc.2
  exact ⟨UInt8.toNat_ofNat_of_lt (Nat.lt_of_le_of_lt hhigh (by decide)), hlow, hhigh⟩

/-- A number is written in digits. -/
theorem isDigit_of_mem_formatNat {n : ℕ} {d : UInt8} (hd : d ∈ formatNat n) : isDigit d = true := by
  obtain ⟨c, hc, rfl⟩ := List.mem_map.mp hd
  have hdigit := Nat.isDigit_of_mem_toDigits (by decide) (by decide) hc
  obtain ⟨hval, hlow, hhigh⟩ := toNat_ofNat_of_isDigit hdigit
  rw [isDigit, decide_eq_true_eq, UInt8.le_iff_toNat_le, UInt8.le_iff_toNat_le, hval]
  exact ⟨hlow, hhigh⟩

/-- A number has at least one digit. -/
theorem formatNat_ne_nil (n : ℕ) : formatNat n ≠ [] := by
  rw [formatNat, Ne, List.map_eq_nil_iff]
  exact Nat.toDigits_ne_nil

/-- So there is no NUL in it. -/
theorem zero_notMem_formatNat (n : ℕ) : 0 ∉ formatNat n := fun h =>
  absurd (isDigit_of_mem_formatNat h) (by decide)

/-- What is written is read back. -/
@[simp] theorem decimal_formatNat (n : ℕ) : decimal (formatNat n) = n := by
  have hread : ∀ (cs : List Char) (m : ℕ), (∀ c ∈ cs, c.isDigit = true) →
      (cs.map fun c => UInt8.ofNat c.toNat).foldl (fun n d => 10 * n + (d.toNat - 48)) m
        = Nat.ofDigitChars 10 cs m := by
    intro cs
    induction cs with
    | nil => intro m _; rfl
    | cons c cs ih =>
        intro m hcs
        rw [List.map_cons, List.foldl_cons, (toNat_ofNat_of_isDigit (hcs c List.mem_cons_self)).1,
          ih _ fun c hc => hcs c (List.mem_cons_of_mem _ hc), Nat.ofDigitChars_cons]
        rfl
  have hdigits : ∀ c ∈ Nat.toDigits 10 n, c.isDigit = true := fun c hc =>
    Nat.isDigit_of_mem_toDigits (by decide) (by decide) hc
  rw [decimal, formatNat, hread _ 0 hdigits, Nat.ofDigitChars_ten_toDigits]

/-- So is an integer, with a sign or without. -/
theorem mem_formatInt {n : ℤ} {d : UInt8} (hd : d ∈ formatInt n) : d = 0x2d ∨ isDigit d = true := by
  unfold formatInt at hd
  split at hd
  · rcases List.mem_cons.mp hd with rfl | hd
    · exact .inl rfl
    · exact .inr (isDigit_of_mem_formatNat hd)
  · exact .inr (isDigit_of_mem_formatNat hd)

/-- **A number has at most `k` digits exactly if it is below `10 ^ k`.** -/
theorem formatNat_length_le_iff {n k : ℕ} (hk : 0 < k) : (formatNat n).length ≤ k ↔ n < 10 ^ k := by
  rw [formatNat, List.length_map, Nat.length_toDigits_le_iff (by decide) hk]

/-- The sign takes one place more. -/
theorem formatInt_length_le {n : ℤ} {k : ℕ} (hk : 0 < k) (hn : n.natAbs < 10 ^ k) :
    (formatInt n).length ≤ k + 1 := by
  have hlen := (formatNat_length_le_iff hk).mpr hn
  unfold formatInt
  split
  · rw [List.length_cons]
    omega
  · omega

end ConduitStream
