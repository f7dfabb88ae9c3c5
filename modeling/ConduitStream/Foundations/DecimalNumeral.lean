import ConduitStream.Foundations.ByteString

/-! # Positive numbers in a text

What `strtol` makes of a text, told by the text itself: it reads a positive number exactly where the text
begins, behind white space and possibly a `+`, with the digits of one (`BeginsPositive`). Without leading zeros
a number has only one spelling (`decimal_injective`), so two texts are read as the same positive number exactly
if they begin with the same digits, or with numbers that are both saturated (`toNat_strtol_eq_iff`). -/

namespace ConduitStream

/-- A positive number in digits, without leading zeros. -/
structure IsNumeral (ds : Bytes) : Prop where
  digits : ∀ d ∈ ds, isDigit d = true
  leading : ∃ d, ds.head? = some d ∧ d ≠ 0x30

/-- Behind white space, possibly a `+`, and leading zeros the text goes on with the numeral `ds`, and no further
digit follows. -/
def BeginsPositive (s ds : Bytes) : Prop :=
  ∃ blanks plus zeros rest, s = blanks ++ (plus ++ (zeros ++ ds ++ rest)) ∧
    (∀ c ∈ blanks, isSpace c = true) ∧ (plus = [] ∨ plus = [0x2b]) ∧ (∀ c ∈ zeros, c = 0x30) ∧
    IsNumeral ds ∧ ∀ c, rest.head? = some c → isDigit c = false

/-- The numerals are the same, or both are numbers that `strtol` saturates. -/
def SameNumeral (ds ds' : Bytes) : Prop := ds = ds' ∨ (longMax ≤ decimal ds ∧ longMax ≤ decimal ds')

/-- Two texts begin with the same positive number, or neither begins with one. -/
def SamePositive (s s' : Bytes) : Prop :=
  (∃ ds ds', BeginsPositive s ds ∧ BeginsPositive s' ds' ∧ SameNumeral ds ds') ∨
    ((∀ ds, ¬BeginsPositive s ds) ∧ ∀ ds, ¬BeginsPositive s' ds)

/-! ## The number a numeral denotes -/

variable {ds ds' s s' : Bytes} {d : UInt8}

/-- The number so far, and one more digit. -/
theorem decimal_concat (ds : Bytes) (d : UInt8) : decimal (ds ++ [d]) = 10 * decimal ds + (d.toNat - 48) := by
  simp [decimal]

/-- A digit adds less than ten. -/
theorem digit_lt (hd : isDigit d = true) : d.toNat - 48 < 10 := by
  have hd' : 0x30 ≤ d ∧ d ≤ 0x39 := by simpa [isDigit] using hd
  have hle : d.toNat ≤ 57 := UInt8.le_iff_toNat_le.mp hd'.2
  omega

/-- A digit is determined by what it adds. -/
theorem digit_injective {d' : UInt8} (hd : isDigit d = true) (hd' : isDigit d' = true)
    (h : d.toNat - 48 = d'.toNat - 48) : d = d' := by
  have hrange : 0x30 ≤ d ∧ d ≤ 0x39 := by simpa [isDigit] using hd
  have hrange' : 0x30 ≤ d' ∧ d' ≤ 0x39 := by simpa [isDigit] using hd'
  have hlow : 48 ≤ d.toNat := UInt8.le_iff_toNat_le.mp hrange.1
  have hlow' : 48 ≤ d'.toNat := UInt8.le_iff_toNat_le.mp hrange'.1
  exact UInt8.toNat_inj.mp (by omega)

/-- Leading zeros do not count in the number of a list of digits. -/
theorem decimal_zeros_append {zeros : Bytes} (hzeros : ∀ c ∈ zeros, c = 0x30) (ds : Bytes) :
    decimal (zeros ++ ds) = decimal ds := by
  induction zeros with
  | nil => rfl
  | cons c zeros ih =>
      rw [List.forall_mem_cons] at hzeros
      rw [hzeros.1]
      exact ih hzeros.2

/-- What is left of a numeral without its last digit is one, unless it is empty. -/
theorem IsNumeral.dropLast (h : IsNumeral (ds ++ [d])) (hne : ds ≠ []) : IsNumeral ds := by
  refine ⟨fun c hc => h.digits c (List.mem_append_left _ hc), ?_⟩
  obtain ⟨c, hc, hzero⟩ := h.leading
  rw [List.head?_append_of_ne_nil _ hne] at hc
  exact ⟨c, hc, hzero⟩

/-- A numeral is not empty: it begins with a digit other than zero. -/
theorem IsNumeral.ne_nil (h : IsNumeral ds) : ds ≠ [] := by
  rintro rfl
  obtain ⟨d, hd, -⟩ := h.leading
  cases hd

/-- The number of a numeral is positive. -/
theorem IsNumeral.decimal_pos (h : IsNumeral ds) : 0 < decimal ds := by
  -- induction from the last digit, as each further digit multiplies by ten
  induction ds using List.reverseRecOn with
  | nil => exact absurd rfl h.ne_nil
  | append_singleton ds d ih =>
      rw [decimal_concat]
      by_cases hne : ds = []
      · subst hne
        obtain ⟨c, hc, hzero⟩ := h.leading
        cases hc
        have hd := h.digits d (by simp)
        have hother : d.toNat - 48 ≠ (0x30 : UInt8).toNat - 48 := fun heq =>
          hzero (digit_injective hd (by decide) heq)
        have hthirty : (0x30 : UInt8).toNat - 48 = 0 := rfl
        omega
      · have hpos := ih (h.dropLast hne)
        omega

/-- **A positive number has one numeral**: two numerals of the same number are equal. -/
theorem decimal_injective (h : IsNumeral ds) (h' : IsNumeral ds') (heq : decimal ds = decimal ds') :
    ds = ds' := by
  induction ds using List.reverseRecOn generalizing ds' with
  | nil => exact absurd rfl h.ne_nil
  | append_singleton ds d ih =>
      cases ds' using List.reverseRecOn with
      | nil => exact absurd rfl h'.ne_nil
      | append_singleton ds' d' =>
          have hd := h.digits d (by simp)
          have hd' := h'.digits d' (by simp)
          have hlt := digit_lt hd
          have hlt' := digit_lt hd'
          rw [decimal_concat, decimal_concat] at heq
          have hlast : d = d' := digit_injective hd hd' (by omega)
          have hfront : decimal ds = decimal ds' := by omega
          have hsame : ds = ds' := by
            by_cases hne : ds = []
            · subst hne
              by_contra hne'
              have hpos := (h'.dropLast fun h0 => hne' h0.symm).decimal_pos
              rw [← hfront] at hpos
              exact absurd hpos (by decide)
            · by_cases hne' : ds' = []
              · subst hne'
                have hpos := (h.dropLast hne).decimal_pos
                rw [hfront] at hpos
                exact absurd hpos (by decide)
              · exact ih (h.dropLast hne) (h'.dropLast hne') hfront
          rw [hlast, hsame]

/-! ## What `strtol` reads -/

/-- The digits a text begins with are a numeral. -/
theorem BeginsPositive.isNumeral (h : BeginsPositive s ds) : IsNumeral ds := by
  obtain ⟨-, -, -, -, -, -, -, -, hds, -⟩ := h
  exact hds

/-- Digits up to where they end. -/
theorem takeWhile_isDigit_append {ds rest : Bytes} (hds : ∀ d ∈ ds, isDigit d = true)
    (hrest : ∀ c, rest.head? = some c → isDigit c = false) : (ds ++ rest).takeWhile isDigit = ds := by
  have hstop : rest.takeWhile isDigit = [] := by
    cases rest with
    | nil => rfl
    | cons c rest => exact List.takeWhile_cons_of_neg (by rw [hrest c rfl]; exact Bool.false_ne_true)
  rw [List.takeWhile_append_of_pos hds, hstop, List.append_nil]

/-- A text that begins with a positive number is read as that number, saturated. -/
theorem BeginsPositive.strtol_eq (h : BeginsPositive s ds) :
    strtol s = some ((min (decimal ds) longMax : ℕ) : ℤ) := by
  obtain ⟨blanks, plus, zeros, rest, rfl, hblanks, hplus, hzeros, hds, hrest⟩ := h
  have hall : ∀ c ∈ zeros ++ ds, isDigit c = true := by
    intro c hc
    rcases List.mem_append.mp hc with hc | hc
    · rw [hzeros c hc]
      decide
    · exact hds.digits c hc
  have htake := takeWhile_isDigit_append hall hrest
  rw [← decimal_zeros_append hzeros ds]
  unfold strtol
  rw [List.dropWhile_append_of_pos hblanks]
  obtain ⟨c, number, hnumber⟩ := List.exists_cons_of_ne_nil
    (show zeros ++ ds ≠ [] by simp [hds.ne_nil])
  rw [hnumber, List.cons_append] at htake ⊢
  rcases hplus with rfl | rfl
  · -- the first digit is neither white space nor a sign
    have hc : isDigit c = true := hall c (by rw [hnumber]; exact List.mem_cons_self)
    have hspace := isSpace_of_isDigit hc
    have hminus : c ≠ 0x2d := by rintro rfl; exact absurd hc (by decide)
    have hplus : c ≠ 0x2b := by rintro rfl; exact absurd hc (by decide)
    rw [List.nil_append, List.dropWhile_cons_of_neg (by rw [hspace]; exact Bool.false_ne_true)]
    simp [hminus, hplus, htake]
  · have hspace : isSpace 0x2b = false := by decide
    rw [List.singleton_append, List.dropWhile_cons_of_neg (by rw [hspace]; exact Bool.false_ne_true)]
    simp [htake]

/-- A text that is read as a positive number begins with one. -/
theorem exists_beginsPositive {n : ℤ} (h : strtol s = some n) (hn : 0 < n) : ∃ ds, BeginsPositive s ds := by
  unfold strtol at h
  dsimp only at h
  have hblanks : s.takeWhile isSpace ++ s.dropWhile isSpace = s := List.takeWhile_append_dropWhile
  generalize hu : s.dropWhile isSpace = u at h hblanks
  -- the sign, and the digits behind it
  obtain ⟨plus, v, huv, hplus, hread⟩ : ∃ plus v, u = plus ++ v ∧ (plus = [] ∨ plus = [0x2b]) ∧
      v.takeWhile isDigit ≠ [] ∧ 0 < decimal (v.takeWhile isDigit) := by
    split_ifs at h with hsign hnone hminus hnone hminus
    · cases h
      omega
    · obtain ⟨c, v, rfl⟩ : ∃ c v, u = c :: v := by
        cases u with
        | nil => simp at hsign
        | cons c v => exact ⟨c, v, rfl⟩
      have hc : c = 0x2b := by
        rcases hsign with hc | hc
        · exact absurd hc hminus
        · exact Option.some.inj hc
      cases h
      refine ⟨[0x2b], v, by rw [hc]; rfl, .inr rfl, hnone, ?_⟩
      rw [List.tail_cons] at hn
      omega
    · cases h
      omega
    · cases h
      exact ⟨[], u, rfl, .inl rfl, hnone, by omega⟩
  have hsplit : v.takeWhile isDigit ++ v.dropWhile isDigit = v := List.takeWhile_append_dropWhile
  generalize hdigits : v.takeWhile isDigit = digits at hread hsplit
  have hzeros : digits.takeWhile (· == 0x30) ++ digits.dropWhile (· == 0x30) = digits :=
    List.takeWhile_append_dropWhile
  have hall : ∀ c ∈ digits.takeWhile (· == 0x30), c = 0x30 := fun c hc => by
    simpa using List.mem_takeWhile_imp hc
  refine ⟨digits.dropWhile (· == 0x30), s.takeWhile isSpace, plus, digits.takeWhile (· == 0x30),
    v.dropWhile isDigit, ?_, fun c hc => List.mem_takeWhile_imp hc, hplus, hall, ⟨fun d hd => ?_, ?_⟩,
    fun c hc => ?_⟩
  · rw [hzeros, hsplit, ← huv, hblanks]
  · have hin : d ∈ digits := (List.dropWhile_sublist _).subset hd
    rw [← hdigits] at hin
    exact List.mem_takeWhile_imp hin
  · -- the digits are not all zeros
    have hpos := hread.2
    rw [← hzeros, decimal_zeros_append hall] at hpos
    cases hrest : digits.dropWhile (· == 0x30) with
    | nil =>
        rw [hrest] at hpos
        exact absurd hpos (by decide)
    | cons d rest =>
        have hstop := List.head?_dropWhile_not (· == (0x30 : UInt8)) digits
        rw [hrest] at hstop
        exact ⟨d, rfl, by simpa using hstop⟩
  · have hstop := List.head?_dropWhile_not isDigit v
    rw [hc] at hstop
    exact by simpa using hstop

/-- A positive number is read from a text exactly if it begins with one. -/
theorem exists_beginsPositive_iff : (∃ ds, BeginsPositive s ds) ↔ 0 < (strtol s).getD 0 := by
  constructor
  · rintro ⟨ds, h⟩
    have hlong : 0 < longMax := by decide
    have hdecimal := h.isNumeral.decimal_pos
    rw [h.strtol_eq, Option.getD_some]
    omega
  · intro h
    cases hread : strtol s with
    | none =>
        rw [hread] at h
        exact absurd h (by decide)
    | some n =>
        rw [hread] at h
        exact exists_beginsPositive hread h

/-- Numbers are the same, saturated, exactly if their numerals are. -/
theorem sameNumeral_iff (h : IsNumeral ds) (h' : IsNumeral ds') :
    SameNumeral ds ds' ↔ min (decimal ds) longMax = min (decimal ds') longMax := by
  constructor
  · rintro (rfl | ⟨hlarge, hlarge'⟩)
    · rfl
    · rw [min_eq_right hlarge, min_eq_right hlarge']
  · intro heq
    by_cases hlarge : longMax ≤ decimal ds
    · exact .inr ⟨hlarge, by omega⟩
    · exact .inl (decimal_injective h h' (by omega))

/-- **The same positive number is read**, or none, exactly if the texts begin with the same one, or neither
begins with one. -/
theorem toNat_strtol_eq_iff :
    ((strtol s).getD 0).toNat = ((strtol s').getD 0).toNat ↔ SamePositive s s' := by
  constructor
  · intro heq
    by_cases hpos : 0 < (strtol s).getD 0
    · obtain ⟨ds, h⟩ := exists_beginsPositive_iff.mpr hpos
      obtain ⟨ds', h'⟩ := exists_beginsPositive_iff.mpr (show 0 < (strtol s').getD 0 by omega)
      rw [h.strtol_eq, h'.strtol_eq, Option.getD_some, Option.getD_some, Int.toNat_natCast,
        Int.toNat_natCast] at heq
      exact .inl ⟨ds, ds', h, h', (sameNumeral_iff h.isNumeral h'.isNumeral).mpr heq⟩
    · refine .inr ⟨fun ds h => hpos (exists_beginsPositive_iff.mp ⟨ds, h⟩), fun ds h => ?_⟩
      have hpos' := exists_beginsPositive_iff.mp ⟨ds, h⟩
      omega
  · rintro (⟨ds, ds', h, h', hsame⟩ | ⟨hno, hno'⟩)
    · rw [h.strtol_eq, h'.strtol_eq, Option.getD_some, Option.getD_some, Int.toNat_natCast,
        Int.toNat_natCast]
      exact (sameNumeral_iff h.isNumeral h'.isNumeral).mp hsame
    · have hle : ¬0 < (strtol s).getD 0 := fun h => by
        obtain ⟨ds, hds⟩ := exists_beginsPositive_iff.mpr h
        exact hno ds hds
      have hle' : ¬0 < (strtol s').getD 0 := fun h => by
        obtain ⟨ds, hds⟩ := exists_beginsPositive_iff.mpr h
        exact hno' ds hds
      omega

end ConduitStream
