import Mathlib.Control.Lawful
import ConduitStream.Foundations.BitGroups

/-! # Reading values from a stream of bits

A reader takes values from the front of a stream of bits, and may fail. How its states lie on the
stream is a parameter, a `BitSource`: `Path s bits s'` says that `bits` are ahead of `s` and that `s'` is
behind them.

* `Consumes B m bits a`: wherever these bits are ahead, the reader `m` returns `a` and stops behind
  them, whatever follows;
* `Consumes.bind`: readers in a row consume bits in a row, so that the reader of a format and the bits of
  a value are taken apart together;
* `readMany`: a value several times (`consumes_readMany`);
* `run_bind_eq_some`: a run that has a result, taken apart. -/

namespace ConduitStream

universe u

/-- How the states of a reader lie on a stream of bits. -/
structure BitSource (σ : Type u) where
  Path : σ → List Bool → σ → Prop
  eq_of_nil {s s' : σ} : Path s [] s' → s' = s
  split {s s' : σ} {bits bits' : List Bool} : Path s (bits ++ bits') s' →
    ∃ t, Path s bits t ∧ Path t bits' s'

/-- A reader that may fail. -/
abbrev BitReading (σ α : Type u) : Type u := StateT σ Option α

variable {σ α β : Type u} {B : BitSource σ} {m : BitReading σ α} {bits bits' : List Bool} {a : α}

/-- The reader returns `a` for the bits, and stops behind them. -/
def Consumes (B : BitSource σ) (m : BitReading σ α) (bits : List Bool) (a : α) : Prop :=
  ∀ s s', B.Path s bits s' → m.run s = some (a, s')

/-- A reader that has come to an end has done so in its first part. -/
theorem run_bind_eq_some {f : α → BitReading σ β} {s s' : σ} {b : β}
    (h : (m >>= f).run s = some (b, s')) :
    ∃ a t, m.run s = some (a, t) ∧ (f a).run t = some (b, s') := by
  rw [StateT.run_bind] at h
  obtain ⟨⟨a, t⟩, hm, hf⟩ := Option.bind_eq_some_iff.mp h
  exact ⟨a, t, hm, hf⟩

/-- A step that does not touch the source leaves it as it was. -/
theorem run_lift_eq_some {x : Option α} {s s' : σ}
    (h : (StateT.lift x : BitReading σ α).run s = some (a, s')) :
    x = some a ∧ s' = s := by
  obtain ⟨b, hx, hb⟩ := Option.bind_eq_some_iff.mp h
  obtain ⟨rfl, rfl⟩ := Prod.mk.inj (Option.some.inj hb)
  exact ⟨hx, rfl⟩

/-- Returning a value consumes no bits of the source. -/
theorem consumes_pure (a : α) : Consumes B (pure a) [] a := fun _ _ h => by
  rw [B.eq_of_nil h]
  rfl

/-- What is computed without the stream. -/
theorem consumes_lift {x : Option α} (h : x = some a) : Consumes B (StateT.lift x) [] a := by
  rintro s s' hpath
  rw [B.eq_of_nil hpath, h]
  rfl

/-- **Readers in a row** consume bits in a row. -/
theorem Consumes.bind {f : α → BitReading σ β} {b : β} (hm : Consumes B m bits a)
    (hf : Consumes B (f a) bits' b) : Consumes B (m >>= f) (bits ++ bits') b := by
  intro s s' hpath
  obtain ⟨t, hfirst, hrest⟩ := B.split hpath
  rw [StateT.run_bind, hm s t hfirst, Option.bind_eq_bind, Option.bind_some]
  exact hf t s' hrest

/-- A step that does not touch the source consumes nothing. -/
theorem consumes_lift_bind {x : Option α} {f : α → BitReading σ β} {b : β} (h : x = some a)
    (hf : Consumes B (f a) bits b) : Consumes B (StateT.lift x >>= f) bits b :=
  (consumes_lift h).bind hf

/-- A reader that only computes behind another one. -/
theorem Consumes.map {f : α → β} (hm : Consumes B m bits a) : Consumes B (f <$> m) bits (f a) := by
  intro s s' hpath
  rw [StateT.run_map, hm s s' hpath]
  rfl

/-- What is done with the result consumes nothing more. -/
theorem Consumes.bind_pure {f : α → β} (hm : Consumes B m bits a) :
    Consumes B (m >>= fun x => pure (f x)) bits (f a) := by
  have hall := hm.bind (f := fun x => pure (f x)) (consumes_pure (f a))
  rwa [List.append_nil] at hall

/-- A test that has a known outcome. -/
theorem consumes_ite_pos {c : Prop} [Decidable c] {m' : BitReading σ α} (hc : c)
    (hm : Consumes B m bits a) : Consumes B (if c then m else m') bits a := by
  rw [if_pos hc]
  exact hm

/-- A branch whose condition fails consumes what its second program does. -/
theorem consumes_ite_neg {c : Prop} [Decidable c] {m' : BitReading σ α} (hc : ¬c)
    (hm : Consumes B m bits a) : Consumes B (if c then m' else m) bits a := by
  rw [if_neg hc]
  exact hm

/-! ## The same value several times -/

/-- `n` values in a row. -/
def readMany (m : BitReading σ α) : ℕ → BitReading σ (List α)
  | 0 => pure []
  | n + 1 => do
      let a ← m
      let as ← readMany m n
      return a :: as

/-- The values of a list are read from their bits in a row. -/
theorem consumes_readMany {enc : β → List Bool} {val : β → α} {bs : List β}
    (h : ∀ b ∈ bs, Consumes B m (enc b) (val b)) :
    Consumes B (readMany m bs.length) (bs.flatMap enc) (bs.map val) := by
  induction bs with
  | nil => exact consumes_pure []
  | cons b bs ih =>
      have hrest := ih fun c hc => h c (List.mem_cons_of_mem _ hc)
      exact (h b List.mem_cons_self).bind hrest.bind_pure

end ConduitStream
