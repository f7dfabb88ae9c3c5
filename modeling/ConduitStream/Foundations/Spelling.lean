import Mathlib.Data.List.Basic

/-! # Spellings

A text is spelled symbol by symbol: each symbol is written as one of the words allowed for it.
`Spells sym s w` says that `w` is such a spelling of `s`, for a relation `sym` between symbols and
words; escaping and percent-encoding are instances.

A reader that takes one word off the front and puts its symbol out reads every spelling back
(`Spells.read`). A spelling is at most as many times longer than its text as the words are long
(`Spells.length_le_mul`), and has no other letters than the words (`Spells.forall_mem`). -/

namespace ConduitStream

universe u v

/-- `w` spells `s`, with the words `sym` allows for each symbol. -/
inductive Spells {α : Type u} {β : Type v} (sym : α → List β → Prop) : List α → List β → Prop
  | nil : Spells sym [] []
  | cons {a : α} {word : List β} {s : List α} {w : List β} :
      sym a word → Spells sym s w → Spells sym (a :: s) (word ++ w)

variable {α : Type u} {β : Type v} {sym : α → List β → Prop} {s : List α} {w : List β}

/-- If every symbol has one word, so has the text. -/
theorem spells_flatMap (word : α → List β) (s : List α) :
    Spells (fun a u => u = word a) s (s.flatMap word) := by
  induction s with
  | nil => exact .nil
  | cons a s ih => exact .cons rfl ih

/-- Spellings are put together like their texts. -/
theorem Spells.append {s' : List α} {w' : List β} (h : Spells sym s w) (h' : Spells sym s' w') :
    Spells sym (s ++ s') (w ++ w') := by
  induction h with
  | nil => exact h'
  | cons hword _ ih =>
      rw [List.append_assoc]
      exact .cons hword ih

/-- **A reader of words reads the text back.** -/
theorem Spells.read {f : List β → List α} (h : Spells sym s w) {t : List β}
    (hf : ∀ a word t, sym a word → f (word ++ t) = a :: f t) : f (w ++ t) = s ++ f t := by
  induction h with
  | nil => rfl
  | cons hword _ ih => rw [List.append_assoc, hf _ _ _ hword, ih, List.cons_append]

/-- A spelling is no longer than its text times the length of a word. -/
theorem Spells.length_le_mul {k : ℕ} (hk : ∀ a word, sym a word → word.length ≤ k)
    (h : Spells sym s w) : w.length ≤ k * s.length := by
  induction h with
  | nil => simp
  | cons hword _ ih =>
      have hlen := hk _ _ hword
      rw [List.length_append, List.length_cons, Nat.mul_succ]
      omega

/-- What holds of the letters of all words holds of the letters of a spelling. -/
theorem Spells.forall_mem {p : β → Prop} (hp : ∀ a word, sym a word → ∀ b ∈ word, p b)
    (h : Spells sym s w) : ∀ b ∈ w, p b := by
  induction h with
  | nil => exact fun b hb => absurd hb List.not_mem_nil
  | cons hword _ ih =>
      intro b hb
      rcases List.mem_append.mp hb with hb | hb
      · exact hp _ _ hword b hb
      · exact ih b hb

end ConduitStream
