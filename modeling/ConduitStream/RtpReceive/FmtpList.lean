import ConduitStream.RtpReceive.AlacConfig

/-! # Which lists of integers `alac_cfg_from_fmtp` accepts

An `a=fmtp` attribute is a list of integers in decimal. `strtoll` reads one of them, saturated at the
limits of `long long`, and stops at the separator behind it (`strtoll_spelling`); the loop therefore
reads the elements of the list in order (`parseInts_list`). No field is as wide as 63 bits, so the
saturation of a huge number does not bring it into the range of its field (`fitsField_clamp`). -/

namespace ConduitStream

/-! ## Lists of integers in decimal -/

/-- An integer in decimal: digits, with or without a sign in front. -/
inductive DecimalSpelling : ℤ → Bytes → Prop where
  | unsigned {ds : Bytes} (hne : ds ≠ []) (hds : ∀ d ∈ ds, isDigit d = true) :
      DecimalSpelling (decimal ds) ds
  | plus {ds : Bytes} (hne : ds ≠ []) (hds : ∀ d ∈ ds, isDigit d = true) :
      DecimalSpelling (decimal ds) (0x2b :: ds)
  | minus {ds : Bytes} (hne : ds ≠ []) (hds : ∀ d ∈ ds, isDigit d = true) :
      DecimalSpelling (-(decimal ds : ℤ)) (0x2d :: ds)

/-- Space, tab, CR or LF. -/
def isFmtpBlank (c : UInt8) : Bool := c = 0x20 ∨ c = 0x09 ∨ c = 0x0d ∨ c = 0x0a

/-- A list of integers in decimal: blanks between them, and possibly behind the last one. -/
inductive DecimalList : List ℤ → Bytes → Prop where
  | nil {blanks : Bytes} (hblanks : ∀ c ∈ blanks, isFmtpBlank c = true) : DecimalList [] blanks
  | single {v : ℤ} {s : Bytes} (hs : DecimalSpelling v s) : DecimalList [v] s
  | cons {v : ℤ} {s blanks t : Bytes} {vs : List ℤ} (hs : DecimalSpelling v s)
      (hne : blanks ≠ []) (hblanks : ∀ c ∈ blanks, isFmtpBlank c = true) (ht : DecimalList vs t) :
      DecimalList (v :: vs) (s ++ (blanks ++ t))

/-- Every integer has a spelling, for one its shortest. -/
theorem decimalSpelling_formatInt (n : ℤ) : DecimalSpelling n (formatInt n) := by
  have hds : ∀ d ∈ formatNat n.natAbs, isDigit d = true := fun d hd => isDigit_of_mem_formatNat hd
  have hval : (decimal (formatNat n.natAbs) : ℤ) = n.natAbs := by rw [decimal_formatNat]
  rw [formatInt]
  split
  · next hn =>
      have hneg : n = -(decimal (formatNat n.natAbs) : ℤ) := by omega
      conv_lhs => rw [hneg]
      exact .minus (formatNat_ne_nil _) hds
  · next hn =>
      have hpos : n = (decimal (formatNat n.natAbs) : ℤ) := by omega
      conv_lhs => rw [hpos]
      exact .unsigned (formatNat_ne_nil _) hds

/-- Every list of integers can be written, with a space behind each. -/
theorem decimalList_formatInt (vs : List ℤ) :
    DecimalList vs (vs.flatMap fun v => formatInt v ++ [0x20]) := by
  induction vs with
  | nil => exact .nil (by simp)
  | cons v vs ih =>
      rw [List.flatMap_cons, List.append_assoc]
      exact .cons (decimalSpelling_formatInt v) (by simp) (by simp [isFmtpBlank]) ih

/-- `strtoll` skips the blanks between the values. -/
theorem isSpace_of_isFmtpBlank {c : UInt8} (h : isFmtpBlank c = true) : isSpace c = true := by
  have hc : c = 0x20 ∨ c = 0x09 ∨ c = 0x0d ∨ c = 0x0a := by simpa [isFmtpBlank] using h
  rcases hc with rfl | rfl | rfl | rfl <;> decide

/-- A blank ends the digits of a value. -/
theorem isDigit_of_isFmtpBlank {c : UInt8} (h : isFmtpBlank c = true) : isDigit c = false := by
  have hc : c = 0x20 ∨ c = 0x09 ∨ c = 0x0d ∨ c = 0x0a := by simpa [isFmtpBlank] using h
  rcases hc with rfl | rfl | rfl | rfl <;> decide

/-! ## Reading one integer -/

/-- A number saturated at the limits of `long long`. -/
def clampLongLong (v : ℤ) : ℤ := max (-2 ^ 63) (min v (2 ^ 63 - 1))

/-- **An integer is read, and what follows it is left.** -/
theorem strtoll_spelling {v : ℤ} {s u : Bytes} (hs : DecimalSpelling v s)
    (hu : ∀ c ∈ u.head?, isDigit c = false) :
    strtoll (s ++ u) = some (clampLongLong v, u) := by
  cases hs with
  | unsigned hne hds =>
      -- the first digit is neither a blank nor a sign
      obtain ⟨htake, hdrop⟩ := takeWhile_append_stop hds hu
      obtain ⟨d, ds, rfl⟩ := List.exists_cons_of_ne_nil hne
      have hd := hds d List.mem_cons_self
      have hspace := isSpace_of_isDigit hd
      have hminus : d ≠ 0x2d := by rintro rfl; exact absurd hd (by decide)
      have hplus : d ≠ 0x2b := by rintro rfl; exact absurd hd (by decide)
      rw [List.cons_append] at htake hdrop ⊢
      have hread : strtoll (d :: (ds ++ u))
          = some (((min (decimal (d :: ds)) (2 ^ 63 - 1) : ℕ) : ℤ), u) := by
        simp [strtoll, hspace, hminus, hplus, htake, hdrop]
      rw [hread, clampLongLong]
      refine congrArg (fun n : ℤ => some (n, u)) ?_
      omega
  | @plus ds hne hds =>
      obtain ⟨htake, hdrop⟩ := takeWhile_append_stop hds hu
      have hspace : isSpace 0x2b = false := by decide
      have hread : strtoll (0x2b :: (ds ++ u))
          = some (((min (decimal ds) (2 ^ 63 - 1) : ℕ) : ℤ), u) := by
        simp [strtoll, hspace, htake, hdrop, hne]
      rw [List.cons_append, hread, clampLongLong]
      refine congrArg (fun n : ℤ => some (n, u)) ?_
      omega
  | @minus ds hne hds =>
      obtain ⟨htake, hdrop⟩ := takeWhile_append_stop hds hu
      have hspace : isSpace 0x2d = false := by decide
      have hread : strtoll (0x2d :: (ds ++ u)) = some (-((min (decimal ds) (2 ^ 63) : ℕ) : ℤ), u) := by
        simp [strtoll, hspace, htake, hdrop, hne]
      rw [List.cons_append, hread, clampLongLong]
      refine congrArg (fun n : ℤ => some (n, u)) ?_
      omega

/-- `strtoll` skips blanks in front of a number. -/
theorem strtoll_blanks {b : Bytes} (hb : ∀ c ∈ b, isFmtpBlank c = true) (s : Bytes) :
    strtoll (b ++ s) = strtoll s := by
  unfold strtoll
  rw [List.dropWhile_append_of_pos fun c hc => isSpace_of_isFmtpBlank (hb c hc)]

/-! ## Reading the list -/

/-- What is left to read: the elements of `vs`, possibly behind blanks. -/
def LeftToRead (vs : List ℤ) (p : Bytes) : Prop :=
  ∃ b t, p = b ++ t ∧ (∀ c ∈ b, isFmtpBlank c = true) ∧ DecimalList vs t

/-- The next element is read, and the others are left. -/
theorem LeftToRead.strtoll {v : ℤ} {vs : List ℤ} {p : Bytes} (h : LeftToRead (v :: vs) p) :
    ∃ p', ConduitStream.strtoll p = some (clampLongLong v, p') ∧ LeftToRead vs p' := by
  obtain ⟨b, t, rfl, hb, ht⟩ := h
  rw [strtoll_blanks hb]
  cases ht with
  | single hs =>
      have hread := strtoll_spelling (u := []) hs fun c hc => by cases hc
      rw [List.append_nil] at hread
      exact ⟨[], hread, [], [], rfl, by simp, .nil (by simp)⟩
  | @cons _ s blanks t _ hs hne hblanks ht =>
      refine ⟨blanks ++ t, strtoll_spelling hs fun c hc => ?_, blanks, t, rfl, hblanks, ht⟩
      -- the byte behind the number is the first blank
      obtain ⟨a, blanks', rfl⟩ := List.exists_cons_of_ne_nil hne
      obtain rfl : a = c := by simpa using hc
      exact isDigit_of_isFmtpBlank (hblanks a List.mem_cons_self)

/-- Behind the last element there are blanks only. -/
theorem LeftToRead.blank {p : Bytes} (h : LeftToRead [] p) : ∀ c ∈ p, isFmtpBlank c = true := by
  obtain ⟨b, t, rfl, hb, ht⟩ := h
  cases ht with
  | nil hblanks =>
      intro c hc
      rcases List.mem_append.mp hc with hc | hc
      · exact hb c hc
      · exact hblanks c hc

/-- `strtoll` finds no number where the list has ended. -/
theorem strtoll_eq_none {p : Bytes} (h : ∀ c ∈ p, isFmtpBlank c = true) : strtoll p = none := by
  have hdrop : p.dropWhile isSpace = [] :=
    List.dropWhile_eq_nil_iff.mpr fun c hc => isSpace_of_isFmtpBlank (h c hc)
  simp [strtoll, hdrop]

/-- A string in which a number is found is not blank. -/
theorem LeftToRead.not_blank {v : ℤ} {vs : List ℤ} {p : Bytes} (h : LeftToRead (v :: vs) p) :
    ¬∀ c ∈ p, isFmtpBlank c = true := by
  intro hblank
  obtain ⟨p', hread, -⟩ := h.strtoll
  rw [strtoll_eq_none hblank] at hread
  cases hread

/-- **The loop reads the first `n` elements, if there are as many.** -/
theorem parseInts_list {vs : List ℤ} {p : Bytes} (n : ℕ) (h : LeftToRead vs p) :
    (n ≤ vs.length →
      ∃ p', parseInts n p = some ((vs.take n).map clampLongLong, p') ∧ LeftToRead (vs.drop n) p') ∧
    (vs.length < n → parseInts n p = none) := by
  induction n generalizing vs p with
  | zero => exact ⟨fun _ => ⟨p, rfl, h⟩, fun hlt => absurd hlt (Nat.not_lt_zero _)⟩
  | succ n ih =>
      rw [parseInts]
      cases vs with
      | nil =>
          rw [strtoll_eq_none h.blank]
          exact ⟨fun hle => absurd hle (Nat.not_succ_le_zero n), fun _ => rfl⟩
      | cons v vs =>
          obtain ⟨p', hread, hrest⟩ := h.strtoll
          rw [hread, List.length_cons]
          dsimp only
          constructor
          · intro hle
            obtain ⟨p'', hints, hrest'⟩ := (ih hrest).1 (by omega)
            rw [hints]
            exact ⟨p'', rfl, hrest'⟩
          · intro hlt
            rw [(ih hrest).2 (by omega)]
            rfl

/-! ## The ranges of the fields -/

/-- The widths of the fields, in the order of the list. -/
def alacWidths : List ℕ := [32, 8, 8, 8, 8, 8, 8, 16, 32, 32, 32]

/-- The values of the fields, in the order of the list. -/
def AlacCfg.fields (c : AlacCfg) : List ℤ :=
  [c.frameLength.toNat, c.compatVersion.toNat, c.bitDepth.toNat, c.pb.toNat, c.mb.toNat, c.kb.toNat,
    c.numChannels.toNat, c.maxRun.toNat, c.maxFrameBytes.toNat, c.avgBitrate.toNat,
    c.sampleRate.toNat]

/-- The first element is a payload type; each of the other eleven lies in the range of its field. -/
def InRange (vs : List ℤ) : Prop :=
  vs.length = 12 ∧ List.Forall₂ (fun w v => 0 ≤ v ∧ v < 2 ^ w) alacWidths vs.tail

/-- Saturation does not bring a number into the range of a field, or out of it. -/
theorem fitsField_clamp {w : ℕ} (hw : w ≤ 32) (v : ℤ) :
    fitsField w (clampLongLong v) = decide (0 ≤ v ∧ v < 2 ^ w) := by
  have hpow : (2 : ℤ) ^ w ≤ 2 ^ 32 := by exact_mod_cast Nat.pow_le_pow_right (by decide) hw
  rw [fitsField, clampLongLong]
  refine decide_eq_decide.mpr ?_
  omega

/-- A number in the range of its field is stored as it is. -/
theorem toNat_ofInt_clamp {w : ℕ} (hw : w ≤ 32) {v : ℤ} (h : 0 ≤ v ∧ v < 2 ^ w) :
    ((BitVec.ofInt w (clampLongLong v)).toNat : ℤ) = v := by
  have hpow : (2 : ℤ) ^ w ≤ 2 ^ 32 := by exact_mod_cast Nat.pow_le_pow_right (by decide) hw
  have hclamp : clampLongLong v = v := by
    rw [clampLongLong]
    omega
  have hmod : v % ((2 ^ w : ℕ) : ℤ) = v := Int.emod_eq_of_lt h.1 (by exact_mod_cast h.2)
  rw [hclamp, BitVec.toNat_ofInt, hmod, Int.toNat_of_nonneg h.1]

/-- **The checks accept exactly the lists in range, and the fields are the elements.** -/
theorem alacCfgOfInts_clamp {vs : List ℤ} (hlen : vs.length = 12) :
    (InRange vs → ∃ c, alacCfgOfInts (vs.map clampLongLong) = some c ∧ c.fields = vs.tail) ∧
      (¬InRange vs → alacCfgOfInts (vs.map clampLongLong) = none) := by
  match vs, hlen with
  | [_, v1, v2, v3, v4, v5, v6, v7, v8, v9, v10, v11], _ =>
      -- the payload type in front is not checked, so the range does not depend on it
      have hrange : ∀ v0, InRange [v0, v1, v2, v3, v4, v5, v6, v7, v8, v9, v10, v11] ↔
          (fitsField 32 (clampLongLong v1) && fitsField 8 (clampLongLong v2) &&
            fitsField 8 (clampLongLong v3) && fitsField 8 (clampLongLong v4) &&
            fitsField 8 (clampLongLong v5) && fitsField 8 (clampLongLong v6) &&
            fitsField 8 (clampLongLong v7) && fitsField 16 (clampLongLong v8) &&
            fitsField 32 (clampLongLong v9) && fitsField 32 (clampLongLong v10) &&
            fitsField 32 (clampLongLong v11)) = true := by
        intro v0
        simp only [fitsField_clamp (show 32 ≤ 32 by decide), fitsField_clamp (show 16 ≤ 32 by decide),
          fitsField_clamp (show 8 ≤ 32 by decide), Bool.and_eq_true, decide_eq_true_eq]
        simp [InRange, alacWidths, and_assoc]
      constructor
      · intro h
        refine ⟨_, if_pos ((hrange _).mp h), ?_⟩
        obtain ⟨-, hfields⟩ := h
        simp only [alacWidths, List.tail_cons, List.forall₂_cons] at hfields
        obtain ⟨h1, h2, h3, h4, h5, h6, h7, h8, h9, h10, h11, -⟩ := hfields
        simp only [AlacCfg.fields, List.tail_cons, toNat_ofInt_clamp (show 32 ≤ 32 by decide) h1,
          toNat_ofInt_clamp (show 8 ≤ 32 by decide) h2, toNat_ofInt_clamp (show 8 ≤ 32 by decide) h3,
          toNat_ofInt_clamp (show 8 ≤ 32 by decide) h4, toNat_ofInt_clamp (show 8 ≤ 32 by decide) h5,
          toNat_ofInt_clamp (show 8 ≤ 32 by decide) h6, toNat_ofInt_clamp (show 8 ≤ 32 by decide) h7,
          toNat_ofInt_clamp (show 16 ≤ 32 by decide) h8, toNat_ofInt_clamp (show 32 ≤ 32 by decide) h9,
          toNat_ofInt_clamp (show 32 ≤ 32 by decide) h10, toNat_ofInt_clamp (show 32 ≤ 32 by decide) h11]
      · intro h
        exact if_neg fun hall => h ((hrange _).mpr hall)

/-! ## The whole attribute -/

/-- There is no letter in a list of integers. -/
theorem DecimalList.notMem {vs : List ℤ} {t : Bytes} (h : DecimalList vs t) : 0x61 ∉ t := by
  have hdigits : ∀ ds : Bytes, (∀ d ∈ ds, isDigit d = true) → 0x61 ∉ ds := fun ds hds hmem =>
    absurd (hds _ hmem) (by decide)
  have hblank : ∀ b : Bytes, (∀ c ∈ b, isFmtpBlank c = true) → 0x61 ∉ b := fun b hb hmem =>
    absurd (hb _ hmem) (by decide)
  have hspelling : ∀ {v : ℤ} {s : Bytes}, DecimalSpelling v s → 0x61 ∉ s := by
    intro v s hs
    cases hs with
    | unsigned hne hds => exact hdigits _ hds
    | plus hne hds => simpa using hdigits _ hds
    | minus hne hds => simpa using hdigits _ hds
  induction h with
  | nil hb => exact hblank _ hb
  | single hs => exact hspelling hs
  | cons hs hne hb _ ih =>
      rw [List.mem_append, List.mem_append]
      rintro (h | h | h)
      · exact hspelling hs h
      · exact hblank _ hb h
      · exact ih h

/-- A list with the name of the attribute in front, or without. -/
theorem skipFmtpPrefix_list {vs : List ℤ} {t fmtp : Bytes} (h : DecimalList vs t)
    (hfmtp : fmtp = t ∨ fmtp = ascii "a=fmtp:" ++ t) : skipFmtpPrefix fmtp = t := by
  rcases hfmtp with rfl | rfl
  · exact if_neg fun hp => h.notMem (hp.subset (by decide))
  · rw [skipFmtpPrefix, if_pos (List.prefix_append _ _), List.drop_left]

/-- **A written list is taken with all its values in range, and refused otherwise.** -/
theorem alacCfgFromFmtp_list {vs : List ℤ} {t fmtp : Bytes} (h : DecimalList vs t)
    (hfmtp : fmtp = t ∨ fmtp = ascii "a=fmtp:" ++ t) :
    (InRange vs → ∃ c, alacCfgFromFmtp fmtp = some c ∧ c.fields = vs.tail) ∧
      (¬InRange vs → alacCfgFromFmtp fmtp = none) := by
  have hstart : LeftToRead vs t := ⟨[], t, rfl, by simp, h⟩
  obtain ⟨hread, hshort⟩ := parseInts_list 12 hstart
  rw [alacCfgFromFmtp, skipFmtpPrefix_list h hfmtp]
  by_cases hlen : vs.length < 12
  · -- an integer is missing
    rw [hshort hlen]
    exact ⟨fun hr => absurd hr.1 (by omega), fun _ => rfl⟩
  · obtain ⟨p, hints, hrest⟩ := hread (by omega)
    rw [hints]
    dsimp only
    by_cases hmore : vs.length = 12
    · rw [List.drop_eq_nil_of_le (by omega)] at hrest
      have hend : p.dropWhile isFmtpBlank = [] := List.dropWhile_eq_nil_iff.mpr hrest.blank
      rw [List.take_of_length_le (by omega)]
      have hchecks := alacCfgOfInts_clamp hmore
      rw [← show _ = alacCfgOfInts (vs.map clampLongLong) from if_pos hend] at hchecks
      exact hchecks
    · -- the integers that are left are no blanks
      have hleft : ¬p.dropWhile isFmtpBlank = [] := by
        rw [List.drop_eq_getElem_cons (by omega)] at hrest
        exact fun hend => hrest.not_blank (List.dropWhile_eq_nil_iff.mp hend)
      exact ⟨fun hr => absurd hr.1 hmore, fun _ => if_neg hleft⟩

/-- `alac_cfg_from_fmtp` with its arguments: the result, and `*out`. -/
def alacCfgFromFmtpOut (fmtp : Option Bytes) (out : Option AlacCfg) : ℤ × Option AlacCfg :=
  match fmtp, out with
  | some fmtp, some out =>
      match alacCfgFromFmtp fmtp with
      | none => (-1, some out)
      | some c => (0, some c)
  | _, out => (-1, out)

/-- **Exactly the twelve-tuples in range are accepted.** For every list of integers of any length and
size, in decimal, with blanks between the elements and possibly at the end, and with the name of
the attribute in front or without: the result is `0` if and only if there are exactly 12 elements
and each but the first lies in the range of its field. Then every field is its element; otherwise
the result is `-1`, and `*out` is unchanged. -/
theorem alacCfgFromFmtp_exact {vs : List ℤ} {t fmtp : Bytes} (h : DecimalList vs t)
    (hfmtp : fmtp = t ∨ fmtp = ascii "a=fmtp:" ++ t) (out : AlacCfg) :
    ((alacCfgFromFmtpOut (some fmtp) (some out)).1 = 0 ↔ InRange vs) ∧
      (InRange vs → ∃ c, alacCfgFromFmtpOut (some fmtp) (some out) = (0, some c) ∧
        c.fields = vs.tail) ∧
      (¬InRange vs → alacCfgFromFmtpOut (some fmtp) (some out) = (-1, some out)) := by
  obtain ⟨haccept, hreject⟩ := alacCfgFromFmtp_list h hfmtp
  have hpos : InRange vs → ∃ c, alacCfgFromFmtpOut (some fmtp) (some out) = (0, some c) ∧
      c.fields = vs.tail := by
    intro hr
    obtain ⟨c, hc, hfields⟩ := haccept hr
    exact ⟨c, by rw [alacCfgFromFmtpOut, hc], hfields⟩
  have hneg : ¬InRange vs → alacCfgFromFmtpOut (some fmtp) (some out) = (-1, some out) := by
    intro hr
    rw [alacCfgFromFmtpOut, hreject hr]
  refine ⟨⟨fun h0 => ?_, fun hr => ?_⟩, hpos, hneg⟩
  · by_contra hr
    rw [hneg hr] at h0
    exact absurd h0 (show ¬(-1 : ℤ) = 0 by decide)
  · obtain ⟨c, hc, -⟩ := hpos hr
    rw [hc]

/-- What a sender announces for 352 frames a packet, behind a payload type of any size. -/
theorem alacCfgFromFmtp_exact_sender :
    ∃ c, alacCfgFromFmtpOut
        (some (ascii "a=fmtp:99999999999999999999 352 0 16 40 10 14 2 255 0 0 44100 "))
        (some ⟨0, 0, 0, 0, 0, 0, 0, 0, 0, 0, 0⟩) = (0, some c) ∧
      c.fields = [352, 0, 16, 40, 10, 14, 2, 255, 0, 0, 44100] := by
  have hlist := decimalList_formatInt
    [99999999999999999999, 352, 0, 16, 40, 10, 14, 2, 255, 0, 0, 44100]
  have hrange : InRange [99999999999999999999, 352, 0, 16, 40, 10, 14, 2, 255, 0, 0, 44100] :=
    ⟨rfl, by simp [alacWidths]⟩
  exact (alacCfgFromFmtp_exact hlist (.inr (by decide)) _).2.1 hrange

end ConduitStream
