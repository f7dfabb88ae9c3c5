import ConduitStream.Foundations.AtomicProgram

/-! # What a program of atomic steps returns

Two questions about one thread of a system:

* `Prog.Returns` says what every result satisfies, whatever the states are in which the actions are
  taken;
* `Prog.Finishes` says that the program may come to its end when the other threads move while it
  waits. A program without guards always does (`NeverWaits.finishes`).

Neither depends on how a program is put together: `bind` is associative. -/

namespace ConduitStream.Prog

universe u v w

variable {σ : Type u} {ℓ : Type v} {α β : Type w}

/-! ## The monad laws -/

/-- Sequencing is associative: three programs in a row need no brackets. -/
theorem bind_assoc {γ : Type w} (p : Prog σ ℓ α) (f : α → Prog σ ℓ β) (g : β → Prog σ ℓ γ) :
    (p.bind f).bind g = p.bind fun a => (f a).bind g := by
  induction p with
  | ret a => rfl
  | act l guard upd next ih => exact congrArg (act l guard upd) (funext ih)

/-- Returning the result of a program behind it changes nothing. -/
theorem bind_ret (p : Prog σ ℓ α) : p.bind ret = p := by
  induction p with
  | ret a => rfl
  | act l guard upd next ih => exact congrArg (act l guard upd) (funext ih)

instance : LawfulMonad (Prog σ ℓ) :=
  LawfulMonad.mk' (Prog σ ℓ) bind_ret (fun _ _ => rfl) bind_assoc

/-! ## Results -/

/-- Every result the program can come to satisfies `good`. -/
def Returns (good : α → Prop) : Prog σ ℓ α → Prop
  | ret a => good a
  | act _ _ _ next => ∀ s, (next s).Returns good

section Returns

variable {P P' : α → Prop} {Q : β → Prop}

/-- A program returns what is weaker, too. -/
theorem Returns.mono {p : Prog σ ℓ α} (hp : p.Returns P) (h : ∀ a, P a → P' a) : p.Returns P' := by
  induction p with
  | ret a => exact h a hp
  | act l g upd next ih => exact fun s => ih s (hp s)

/-- A program that returns a value returns that value. -/
theorem returns_pure {a : α} (h : P a) : (pure a : Prog σ ℓ α).Returns P := h

/-- What the first program returns decides what the second may. -/
theorem returns_bind {p : Prog σ ℓ α} {f : α → Prog σ ℓ β} (hp : p.Returns P)
    (hf : ∀ a, P a → (f a).Returns Q) : (p >>= f).Returns Q := by
  change (p.bind f).Returns Q
  induction p with
  | ret a => exact hf a hp
  | act l g upd next ih => exact fun s => ih s (hp s)

/-- Of a result nothing need be known. -/
theorem returns_trivial (p : Prog σ ℓ α) : p.Returns fun _ => True := by
  induction p with
  | ret a => trivial
  | act l g upd next ih => exact ih

/-- What a program returns in both respects. -/
theorem Returns.and {p : Prog σ ℓ α} (hp : p.Returns P) (hp' : p.Returns P') :
    p.Returns fun a => P a ∧ P' a := by
  induction p with
  | ret a => exact ⟨hp, hp'⟩
  | act l g upd next ih => exact fun s => ih s (hp s) (hp' s)

/-- A function of the result: the program returns what the function makes of it. -/
theorem returns_map {f : α → β} {p : Prog σ ℓ α} :
    (f <$> p).Returns Q ↔ p.Returns fun a => Q (f a) := by
  induction p with
  | ret a => exact Iff.rfl
  | act l g upd next ih => exact forall_congr' ih

/-- What comes next only matters for the results there are. -/
theorem Returns.bind_congr {p : Prog σ ℓ α} {f g : α → Prog σ ℓ β} (hp : p.Returns P)
    (h : ∀ a, P a → f a = g a) : p >>= f = p >>= g := by
  change p.bind f = p.bind g
  induction p with
  | ret a => exact h a hp
  | act l guard upd next ih => exact congrArg (act l guard upd) (funext fun s => ih s (hp s))

end Returns

/-! ## The way to the end -/

/-- The program may come to its end: while it waits, the other threads move within `env`. -/
inductive Finishes (env : σ → σ → Prop) : Prog σ ℓ α → σ → α → σ → Prop
  | ret {a : α} {s : σ} : Finishes env (.ret a) s a s
  | act {l : ℓ} {g : σ → Bool} {upd : σ → σ} {next : σ → Prog σ ℓ α} {s s' : σ} {a : α} :
      g s = true → Finishes env (next s) (upd s) a s' → Finishes env (.act l g upd next) s a s'
  | wait {l : ℓ} {g : σ → Bool} {upd : σ → σ} {next : σ → Prog σ ℓ α} {s s₁ s' : σ} {a : α} :
      g s = false → env s s₁ → Finishes env (.act l g upd next) s₁ a s' →
      Finishes env (.act l g upd next) s a s'

section Finishes

variable {env : σ → σ → Prop} {s s₁ s' : σ} {a : α} {b : β}

/-- A program and what follows it finish one after the other. -/
theorem Finishes.bind {p : Prog σ ℓ α} {f : α → Prog σ ℓ β} (hp : Finishes env p s a s₁)
    (hf : Finishes env (f a) s₁ b s') : Finishes env (p >>= f) s b s' := by
  change Finishes env (p.bind f) s b s'
  induction hp with
  | ret => exact hf
  | act hg _ ih => exact .act hg (ih hf)
  | wait hg henv _ ih => exact .wait hg henv (ih hf)

/-- An atomic action finishes at once. -/
theorem Finishes.atom {l : ℓ} {upd : σ → σ} {res : σ → α} :
    Finishes env (Prog.atom l upd res) s (res s) (upd s) := .act rfl .ret

/-- A result that is forgotten is there all the same. -/
theorem Finishes.of_map {f : α → β} {p : Prog σ ℓ α} (h : Finishes env (f <$> p) s b s') :
    ∃ a, Finishes env p s a s' ∧ f a = b := by
  generalize hq : f <$> p = q at h
  induction h generalizing p with
  | ret =>
      cases p with
      | ret a =>
          cases hq
          exact ⟨a, .ret, rfl⟩
      | act => cases hq
  | act hg _ ih =>
      cases p with
      | ret a => cases hq
      | act l g upd next =>
          cases hq
          obtain ⟨a, ha, hb⟩ := ih rfl
          exact ⟨a, .act hg ha, hb⟩
  | wait hg henv _ ih =>
      obtain ⟨a, ha, hb⟩ := ih hq
      cases p with
      | ret a => cases hq
      | act l g upd next =>
          cases hq
          exact ⟨a, .wait hg henv ha, hb⟩

/-- **What every result satisfies holds of the one at the end.** -/
theorem Returns.of_finishes {P : α → Prop} {p : Prog σ ℓ α} (hp : p.Returns P)
    (h : Finishes env p s a s') : P a := by
  induction h with
  | ret => exact hp
  | act _ _ ih => exact ih (hp _)
  | wait _ _ _ ih => exact ih hp

/-- No action of the program has a guard. -/
def NeverWaits : Prog σ ℓ α → Prop
  | Prog.ret _ => True
  | Prog.act _ g _ next => ∀ s, g s = true ∧ (next s).NeverWaits

/-- A program that returns does not wait. -/
theorem neverWaits_pure (a : α) : (pure a : Prog σ ℓ α).NeverWaits := trivial

/-- Two programs in a row do not wait if neither of them does. -/
theorem neverWaits_bind {p : Prog σ ℓ α} {f : α → Prog σ ℓ β} (hp : p.NeverWaits)
    (hf : ∀ a, (f a).NeverWaits) : (p >>= f).NeverWaits := by
  change (p.bind f).NeverWaits
  induction p with
  | ret a => exact hf a
  | act l g upd next ih => exact fun s => ⟨(hp s).1, ih s (hp s).2⟩

/-- An atomic action does not wait. -/
theorem neverWaits_atom {l : ℓ} {upd : σ → σ} {res : σ → α} : (Prog.atom l upd res).NeverWaits :=
  fun _ => ⟨rfl, trivial⟩

/-- A branch does not wait if neither of its programs does. -/
theorem neverWaits_ite {c : Prop} [Decidable c] {p q : Prog σ ℓ α} (hp : p.NeverWaits)
    (hq : q.NeverWaits) : (if c then p else q).NeverWaits := by
  split
  · exact hp
  · exact hq

/-- Nothing waits that is put together from actions without guards. -/
theorem isClosed_neverWaits :
    IsClosed (fun {_} p => (p : Prog σ ℓ _).NeverWaits) fun _ => True where
  pure := neverWaits_pure
  bind := neverWaits_bind
  atom _ := neverWaits_atom

/-- **A program that never waits comes to its end.** -/
theorem NeverWaits.finishes {p : Prog σ ℓ α} (hp : p.NeverWaits) (env : σ → σ → Prop) (s : σ) :
    ∃ a s', Finishes env p s a s' := by
  induction p generalizing s with
  | ret a => exact ⟨a, s, .ret⟩
  | act l g upd next ih =>
      obtain ⟨a, s', h⟩ := ih s (hp s).2 (upd s)
      exact ⟨a, s', .act (hp s).1 h⟩

/-- A program that never waits comes to its end alone, from every state. -/
theorem NeverWaits.runAlone {p : Prog σ ℓ α} (hp : p.NeverWaits) (s : σ) :
    ∃ a s', p.runAlone s = some (a, s') := by
  induction p generalizing s with
  | ret a => exact ⟨a, s, rfl⟩
  | act l g upd next ih =>
      obtain ⟨hg, hnext⟩ := hp s
      obtain ⟨a, s', h⟩ := ih s hnext (upd s)
      refine ⟨a, s', ?_⟩
      rw [Prog.runAlone, if_pos hg, h]

/-- So does one that does not wait any more. -/
theorem Finishes.andThen {p : Prog σ ℓ α} {f : α → Prog σ ℓ β} (hp : Finishes env p s a s₁)
    (hf : (f a).NeverWaits) : ∃ b s', Finishes env (p >>= f) s b s' := by
  obtain ⟨b, s', h⟩ := hf.finishes env s₁
  exact ⟨b, s', hp.bind h⟩

end Finishes

end ConduitStream.Prog

namespace ConduitStream.System

universe u v w x

/-! ## Threads that never wait -/

variable {σ : Type u} {ℓ : Type v} {τ : Type x} {κ : τ → Type w} [DecidableEq τ]
  {S : System σ ℓ τ κ} {c₀ c : Config σ ℓ τ κ} {t : τ}

/-- A thread whose code never waits is never in a program that does. -/
theorem Reachable.neverWaits (hcode : ∀ k s p, S.code t k s p → p.NeverWaits)
    (h₀ : (c₀.th t).NeverWaits) (h : S.Reachable c₀ c) : (c.th t).NeverWaits := by
  induction h with
  | start => exact h₀
  | @step c c' t' l _ hstep ih =>
      by_cases ht : t = t'
      · subst ht
        cases hstep with
        | act hth _ =>
            rw [hth] at ih
            dsimp only
            rw [Function.update_self]
            exact (ih c.st).2
        | enter _ hp =>
            dsimp only
            rw [Function.update_self]
            exact hcode _ _ _ hp
      · rw [hstep.th_of_ne ht]
        exact ih

/-- **It may return** before any other thread moves. -/
theorem Reachable.returns (h : S.Reachable c₀ c) (hth : (c.th t).NeverWaits) :
    ∃ c' k, S.Reachable c₀ c' ∧ c'.th t = .ret k ∧ ∀ t' ≠ t, c'.th t' = c.th t' := by
  obtain ⟨k, s', hrun⟩ := hth.runAlone c.st
  have hstart : S.Reachable c₀ ⟨c.st, Function.update c.th t (c.th t)⟩ := by
    rw [Function.update_eq_self]
    exact h
  exact ⟨_, k, hstart.finish hrun, Function.update_self t _ c.th,
    fun t' ht => Function.update_of_ne ht _ c.th⟩

end ConduitStream.System
