import ConduitStream.Foundations.CharArray

/-! # Text in a buffer of bounded size

A function that fills a buffer writes one piece of text behind the other and gives up at the first
piece that does not fit. `Appends` says that a part of such a function writes a given text and leaves
room behind it; the parts can be put one behind the other (`Appends.andThen`), and the text they write
is then written in full or not at all. -/

namespace ConduitStream

variable {cap : ℕ}

/-- The result of `snprintf`, given what is to be printed; a length above `INT_MAX` is an error. -/
def printedLength (text : Bytes) : ℤ := if text.length < 2 ^ 31 then text.length else -1

/-- A text of fewer than `2 ^ 31` bytes is as long as the writer returns. -/
theorem printedLength_of_lt {text : Bytes} (h : text.length < 2 ^ 31) :
    printedLength text = text.length := if_pos h

/-- `snprintf(out + off, size, ...)`: the buffer afterwards, and the result. The text is cut so that a
NUL fits behind it, and an access outside the buffer fails. -/
def snprintfAt (out : CharArray cap) (off size : ℕ) (text : Bytes) : Option (CharArray cap × ℤ) :=
  (if size = 0 then some out else out.store off (text.take (size - 1) ++ [0])).map
    fun out => (out, printedLength text)

/-- It stays inside the size it is given, and a text that fits is followed by a NUL. -/
theorem snprintfAt_spec (out : CharArray cap) {off size : ℕ} (h : off + size ≤ cap) (text : Bytes) :
    ∃ out', snprintfAt out off size text = some (out', printedLength text) ∧
      (text.length < size →
        out'.bytes.take (off + text.length) = out.bytes.take off ++ text ∧
          out'.bytes.take (off + text.length + 1) = out.bytes.take off ++ text ++ [0]) := by
  unfold snprintfAt
  by_cases hsize : size = 0
  · rw [if_pos hsize]
    exact ⟨out, rfl, fun hlt => by omega⟩
  · have hlen : (text.take (size - 1) ++ [0]).length ≤ size := by
      rw [List.length_append, List.length_take, List.length_singleton]
      omega
    obtain ⟨out', hstore, htake⟩ :=
      @CharArray.store_spec _ out off (text.take (size - 1) ++ [0]) (by omega)
    rw [if_neg hsize, hstore]
    refine ⟨out', rfl, fun hlt => ?_⟩
    have hcut : text.take (size - 1) = text := List.take_of_length_le (by omega)
    have hfront : (out.bytes.take off ++ text).length = off + text.length := by
      have := out.length_eq
      rw [List.length_append, List.length_take, Nat.min_eq_left (by omega)]
    rw [hcut, List.length_append, List.length_singleton, ← Nat.add_assoc, ← List.append_assoc]
      at htake
    -- the NUL is the last byte that is written
    have htext := congrArg (List.take (off + text.length)) htake
    rw [List.take_take, Nat.min_eq_left (by omega), List.take_left' hfront] at htext
    exact ⟨htext, htake⟩

/-- **A text that fits is read back**, together with what stands in front of it. -/
theorem snprintfAt_str (out : CharArray cap) {off : ℕ} {text : Bytes} (h : off + text.length < cap)
    (hzero : 0 ∉ out.bytes.take off ++ text) :
    ∃ out', snprintfAt out off (cap - off) text = some (out', printedLength text) ∧
      out'.str = out.bytes.take off ++ text ∧
      out'.bytes.take (off + text.length) = out.bytes.take off ++ text := by
  obtain ⟨out', hrun, htake⟩ := @snprintfAt_spec _ out off (cap - off) (by omega) text
  obtain ⟨htext, hnul⟩ := htake (by omega)
  refine ⟨out', hrun, ?_, htext⟩
  rw [CharArray.str, ← List.take_append_drop (off + text.length + 1) out'.bytes, hnul,
    List.append_assoc]
  exact cstr_append_zero hzero _

/-- A part of a function that fills a buffer, from an offset on: the buffer afterwards, and the new
offset unless it gives up. An access outside the buffer fails. -/
abbrev Filler (cap : ℕ) : Type := CharArray cap → ℕ → Option (CharArray cap × Option ℕ)

/-- Nothing is written. -/
def Filler.skip : Filler cap := fun out off => some (out, some off)

/-- First the one part, then, unless it gives up, the other one. -/
def Filler.andThen (f g : Filler cap) : Filler cap := fun out off => do
  let (out, off) ← f out off
  match off with
  | none => return (out, none)
  | some off => g out off

/-- The part writes `text` if it is followed by at least one more byte, and else gives up. -/
structure Appends (text : Bytes) (f : Filler cap) : Prop where
  fits : ∀ (out : CharArray cap) (off : ℕ), off + text.length < cap →
    ∃ out', f out off = some (out', some (off + text.length)) ∧
      out'.bytes.take (off + text.length) = out.bytes.take off ++ text
  full : ∀ (out : CharArray cap) (off : ℕ), off < cap → cap ≤ off + text.length →
    ∃ out', f out off = some (out', none)

namespace Appends

variable {s t : Bytes} {f g : Filler cap}

/-- Writing nothing appends nothing, and never fails. -/
theorem skip : Appends [] (Filler.skip : Filler cap) where
  fits out _ _ := ⟨out, rfl, (List.append_nil _).symm⟩
  full _ _ hoff hfull := absurd hoff (Nat.not_lt.mpr hfull)

/-- **One text behind the other**: what two writers append is their texts in a row. -/
theorem andThen (hf : Appends s f) (hg : Appends t g) : Appends (s ++ t) (f.andThen g) where
  fits out off hfits := by
    rw [List.length_append, ← Nat.add_assoc] at hfits ⊢
    obtain ⟨out₁, hrun₁, htake₁⟩ := hf.fits out off (by omega)
    obtain ⟨out₂, hrun₂, htake₂⟩ := hg.fits out₁ (off + s.length) hfits
    refine ⟨out₂, ?_, ?_⟩
    · rw [Filler.andThen, hrun₁]
      exact hrun₂
    · rw [htake₂, htake₁, List.append_assoc]
  full out off hoff hfull := by
    rw [List.length_append] at hfull
    unfold Filler.andThen
    by_cases hs : off + s.length < cap
    · -- the first text fits, the second one does not
      obtain ⟨out₁, hrun₁, -⟩ := hf.fits out off hs
      rw [hrun₁]
      exact hg.full out₁ (off + s.length) hs (by omega)
    · obtain ⟨out₁, hrun₁⟩ := hf.full out off hoff (by omega)
      rw [hrun₁]
      exact ⟨out₁, rfl⟩

end Appends

end ConduitStream
