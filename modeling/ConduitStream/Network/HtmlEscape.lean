import ConduitStream.Foundations.ByteString
import ConduitStream.Foundations.Spelling

/-! # Escaping for HTML (`html_escape` in `wifi_provisioning.c`)

Escaping spells every byte as itself or as an entity; a reader that replaces the five entities reads
the text back (`htmlUnescape_spelling`). `htmlEscape` stops where its buffer is full, between two
spellings: what it puts out spells a prefix of the text (`htmlEscape_eq`), all of it exactly if the
whole spelling fits. -/

namespace ConduitStream

/-! ## Spelling and reading -/

/-- The entity for a byte that needs one. -/
def htmlReplacement (c : UInt8) : Option Bytes :=
  if c = 0x26 then some (ascii "&amp;")
  else if c = 0x3c then some (ascii "&lt;")
  else if c = 0x3e then some (ascii "&gt;")
  else if c = 0x22 then some (ascii "&quot;")
  else if c = 0x27 then some (ascii "&#39;")
  else none

/-- A byte as it is written in HTML. -/
def htmlSpelling (c : UInt8) : Bytes := (htmlReplacement c).getD [c]

/-- The entities of HTML that are written. -/
def htmlEntities : List (Bytes × UInt8) :=
  [(ascii "&amp;", 0x26), (ascii "&lt;", 0x3c), (ascii "&gt;", 0x3e), (ascii "&quot;", 0x22),
    (ascii "&#39;", 0x27)]

/-- Reading HTML text: entities stand for their characters. -/
def htmlUnescape : Bytes → Bytes
  | [] => []
  | c :: s =>
    match htmlEntities.find? fun e => e.1 <+: c :: s with
    | some e => e.2 :: htmlUnescape (s.drop (e.1.length - 1))
    | none => c :: htmlUnescape s
termination_by s => s.length
decreasing_by
  · simp only [List.length_drop, List.length_cons]
    omega
  · simp

/-- A byte that needs no entity is none of the five. -/
theorem htmlReplacement_eq_none_iff {c : UInt8} :
    htmlReplacement c = none ↔ c ≠ 0x26 ∧ c ≠ 0x3c ∧ c ≠ 0x3e ∧ c ≠ 0x22 ∧ c ≠ 0x27 := by
  unfold htmlReplacement
  split_ifs <;> simp_all

/-- The bytes with entities, and these. -/
theorem htmlReplacement_eq_some {c : UInt8} {r : Bytes} (h : htmlReplacement c = some r) :
    (r, c) ∈ htmlEntities := by
  unfold htmlReplacement at h
  unfold htmlEntities
  split_ifs at h <;> simp_all

/-- An entity at the front is read. -/
theorem htmlUnescape_entity {r : Bytes} {c : UInt8} (h : (r, c) ∈ htmlEntities) (t : Bytes) :
    htmlUnescape (r ++ t) = c :: htmlUnescape t := by
  simp only [htmlEntities, List.mem_cons, Prod.mk.injEq, List.not_mem_nil, or_false] at h
  rcases h with ⟨rfl, rfl⟩ | ⟨rfl, rfl⟩ | ⟨rfl, rfl⟩ | ⟨rfl, rfl⟩ | ⟨rfl, rfl⟩ <;>
    simp [ascii, htmlUnescape, htmlEntities]

/-- Any byte but `&` stands for itself. -/
theorem htmlUnescape_plain {c : UInt8} (hc : c ≠ 0x26) (t : Bytes) :
    htmlUnescape (c :: t) = c :: htmlUnescape t := by
  have hnone : (htmlEntities.find? fun e => e.1 <+: c :: t) = none := by
    simp [htmlEntities, ascii, hc.symm]
  rw [htmlUnescape, hnone]

/-- **Reading undoes the spelling** of every text of bytes. -/
theorem htmlUnescape_spelling (s : Bytes) : htmlUnescape (s.flatMap htmlSpelling) = s := by
  have hword : ∀ a word t, word = htmlSpelling a → htmlUnescape (word ++ t) = a :: htmlUnescape t := by
    rintro c word t rfl
    unfold htmlSpelling
    cases h : htmlReplacement c with
    | none => exact htmlUnescape_plain (htmlReplacement_eq_none_iff.mp h).1 t
    | some r => exact htmlUnescape_entity (htmlReplacement_eq_some h) t
  have hread := (spells_flatMap htmlSpelling s).read (t := []) hword
  simpa [htmlUnescape] using hread

/-- What a spelling is made of: the byte itself, or the letters of an entity. -/
theorem mem_htmlSpelling {b c : UInt8} (h : b ∈ htmlSpelling c) :
    (b = c ∧ htmlReplacement c = none) ∨ ∃ e ∈ htmlEntities, b ∈ e.1 := by
  unfold htmlSpelling at h
  cases hr : htmlReplacement c with
  | none =>
      rw [hr] at h
      exact .inl ⟨List.mem_singleton.mp h, rfl⟩
  | some r =>
      rw [hr] at h
      exact .inr ⟨_, htmlReplacement_eq_some hr, h⟩

/-- No spelling has a quote or an angle bracket in it. -/
theorem htmlSpelling_plain {s : Bytes} {b : UInt8} (h : b ∈ s.flatMap htmlSpelling) :
    b ≠ 0x3c ∧ b ≠ 0x3e ∧ b ≠ 0x22 ∧ b ≠ 0x27 := by
  obtain ⟨c, -, hb⟩ := List.mem_flatMap.mp h
  rcases mem_htmlSpelling hb with ⟨rfl, hnone⟩ | ⟨e, he, hb⟩
  · exact (htmlReplacement_eq_none_iff.mp hnone).2
  · have hall : ∀ e ∈ htmlEntities, ∀ b ∈ e.1, b ≠ 0x3c ∧ b ≠ 0x3e ∧ b ≠ 0x22 ∧ b ≠ 0x27 := by
      decide +kernel
    exact hall e he b hb

/-- The spelling of a string is a string. -/
theorem zero_notMem_htmlSpelling {s : Bytes} (hs : 0 ∉ s) : 0 ∉ s.flatMap htmlSpelling := by
  intro h
  obtain ⟨c, hc, hb⟩ := List.mem_flatMap.mp h
  rcases mem_htmlSpelling hb with ⟨rfl, -⟩ | ⟨e, he, hb⟩
  · exact hs hc
  · have hall : ∀ e ∈ htmlEntities, 0 ∉ e.1 := by decide
    exact hall e he hb

/-- Text of a page that a browser takes as text: no character of the markup, and every `&` begins an
entity that is there in full. -/
structure IsHtmlText (s : Bytes) : Prop where
  plain : ∀ b ∈ s, b ≠ 0x3c ∧ b ≠ 0x3e ∧ b ≠ 0x22 ∧ b ≠ 0x27
  entities : ∀ u t, s = u ++ 0x26 :: t → ∃ e ∈ htmlEntities, e.1 <+: 0x26 :: t

/-- An `&` in the spelling of a byte begins it, and the spelling is an entity. -/
theorem htmlSpelling_ampersand {c : UInt8} {u t : Bytes} (h : htmlSpelling c = u ++ 0x26 :: t) :
    u = [] ∧ ∃ e ∈ htmlEntities, e.1 = htmlSpelling c := by
  unfold htmlSpelling at h ⊢
  cases hr : htmlReplacement c with
  | none =>
      -- the byte itself, which is no `&`
      rw [hr, Option.getD_none] at h
      have hc : (0x26 : UInt8) ∈ [c] := h ▸ by simp
      exact absurd (List.mem_singleton.mp hc).symm (htmlReplacement_eq_none_iff.mp hr).1
  | some r =>
      rw [hr, Option.getD_some] at h
      have hmem := htmlReplacement_eq_some hr
      have hall : ∀ e ∈ htmlEntities, 0x26 ∉ e.1.tail := by decide
      refine ⟨?_, _, hmem, rfl⟩
      cases u with
      | nil => rfl
      | cons a u =>
          have htail : (0x26 : UInt8) ∈ r.tail := by
            rw [h]
            exact List.mem_append_right _ List.mem_cons_self
          exact absurd htail (hall _ hmem)

/-- **Every spelling is text**: no byte of it is special, but for the entities. -/
theorem isHtmlText_spelling (s : Bytes) : IsHtmlText (s.flatMap htmlSpelling) where
  plain _ hb := htmlSpelling_plain hb
  entities := by
    induction s with
    | nil =>
        intro u t h
        exact absurd h.symm (by simp)
    | cons c s ih =>
        intro u t h
        rw [List.flatMap_cons, List.append_eq_append_iff] at h
        rcases h with ⟨v, rfl, hrest⟩ | ⟨v, hc, hrest⟩
        · exact ih v t hrest
        · cases v with
          | nil => exact ih [] t hrest.symm
          | cons b v =>
              obtain ⟨rfl, hv⟩ := List.cons.inj hrest
              obtain ⟨rfl, e, he, heq⟩ := htmlSpelling_ampersand hc
              exact ⟨e, he, heq ▸ hc ▸ hv ▸ List.prefix_append (0x26 :: v) _⟩
/-! ## Into a buffer -/

/-- The loop of `html_escape`, with `used` of the `dstSize` bytes written. -/
def htmlEscapeFrom (dstSize used : ℕ) : Bytes → Bytes
  | [] => []
  | c :: src =>
    if used + 1 < dstSize then
      match htmlReplacement c with
      | some replacement =>
        if used + replacement.length ≥ dstSize then []
        else replacement ++ htmlEscapeFrom dstSize (used + replacement.length) src
      | none => c :: htmlEscapeFrom dstSize (used + 1) src
    else []

/-- `html_escape`: the string in the buffer. -/
def htmlEscape (src : Bytes) (dstSize : ℕ) : Bytes := htmlEscapeFrom dstSize 0 (cstr src)

/-- An entity that does not fit is left out as a whole. -/
example : htmlEscape (ascii "<a&b>") 12 = ascii "&lt;a&amp;b" := by decide

/-- The spelling of a byte takes room. -/
theorem htmlSpelling_length_pos (c : UInt8) : 0 < (htmlSpelling c).length := by
  unfold htmlSpelling
  cases h : htmlReplacement c with
  | none => exact Nat.one_pos
  | some r =>
      have hall : ∀ e ∈ htmlEntities, 0 < e.1.length := by decide
      exact hall _ (htmlReplacement_eq_some h)

/-- **What is put out spells a prefix that fits, and all of the text if that fits.** -/
theorem htmlEscapeFrom_eq {dstSize used : ℕ} (hused : used < dstSize) (s : Bytes) :
    ∃ t, t <+: s ∧ htmlEscapeFrom dstSize used s = t.flatMap htmlSpelling ∧
      used + (t.flatMap htmlSpelling).length < dstSize ∧
      (used + (s.flatMap htmlSpelling).length < dstSize → t = s) := by
  induction s generalizing used with
  | nil => exact ⟨[], List.prefix_rfl, rfl, hused, fun _ => rfl⟩
  | cons c s ih =>
      have hpos := htmlSpelling_length_pos c
      -- where the loop stops, the rest does not fit
      have hstop : ¬used + (htmlSpelling c).length < dstSize →
          ∃ t, t <+: c :: s ∧ [] = t.flatMap htmlSpelling ∧
            used + (t.flatMap htmlSpelling).length < dstSize ∧
            (used + ((c :: s).flatMap htmlSpelling).length < dstSize → t = c :: s) := by
        intro hfull
        refine ⟨[], List.nil_prefix, rfl, hused, fun hfits => ?_⟩
        rw [List.flatMap_cons, List.length_append] at hfits
        omega
      have hgo : used + (htmlSpelling c).length < dstSize →
          ∃ t, t <+: c :: s ∧
            htmlSpelling c ++ htmlEscapeFrom dstSize (used + (htmlSpelling c).length) s
              = t.flatMap htmlSpelling ∧
            used + (t.flatMap htmlSpelling).length < dstSize ∧
            (used + ((c :: s).flatMap htmlSpelling).length < dstSize → t = c :: s) := by
        intro hroom
        obtain ⟨t, hpre, heq, hlen, hall⟩ := ih hroom
        refine ⟨c :: t, List.cons_prefix_cons.mpr ⟨rfl, hpre⟩, ?_, ?_, fun hfits => ?_⟩
        · rw [heq, List.flatMap_cons]
        · rw [List.flatMap_cons, List.length_append]
          omega
        · rw [List.flatMap_cons, List.length_append] at hfits
          rw [hall (by omega)]
      unfold htmlEscapeFrom
      cases h : htmlReplacement c with
      | none =>
          have hspell : htmlSpelling c = [c] := by rw [htmlSpelling, h, Option.getD_none]
          rw [hspell] at hgo hstop
          split
          · next hroom => exact hgo hroom
          · next hfull => exact hstop hfull
      | some r =>
          have hspell : htmlSpelling c = r := by rw [htmlSpelling, h, Option.getD_some]
          rw [hspell] at hgo hstop hpos
          split
          · dsimp only
            split
            · next hfull => exact hstop (by omega)
            · next hroom => exact hgo (by omega)
          · next hfull => exact hstop (by omega)

/-- The same for a string and an empty buffer. -/
theorem htmlEscape_eq {dstSize : ℕ} (hsize : 0 < dstSize) {s : Bytes} (hs : cstr s = s) :
    ∃ t, t <+: s ∧ htmlEscape s dstSize = t.flatMap htmlSpelling ∧
      (t.flatMap htmlSpelling).length < dstSize ∧
      (t = s ↔ (s.flatMap htmlSpelling).length < dstSize) := by
  obtain ⟨t, hpre, heq, hlen, hall⟩ := htmlEscapeFrom_eq hsize s
  rw [Nat.zero_add] at hlen hall
  refine ⟨t, hpre, ?_, hlen, fun hts => ?_, hall⟩
  · rw [htmlEscape, hs, heq]
  · rw [← hts]
    exact hlen

end ConduitStream
