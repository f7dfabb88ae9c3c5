import Mathlib.Logic.Relation
import ConduitStream.Foundations.AtomicProgram

/-! # Rely–guarantee proofs

A proof outline for a system of threads consists of an invariant of the shared state, for each
thread a relation it may rely on all others to stay within and a relation it guarantees for its own
actions, a condition under which each labelled action is executed, and an assertion for each control
value.

* `Outline.Safe` says of a program in a state that all its actions keep to the outline whatever the
  other threads do meanwhile; `Outline.Triple` is the corresponding triple of pre- and
  postcondition, with one rule for each construct of programs;
* `Outline.withIdle` is the same outline for a system with other control values, `Outline.withOk` the
  same outline with other conditions;
* `Outline.ofGuar` is the outline whose rely conditions are given by the guarantees of the others;
* `Outline.sound`: if every program of the code satisfies its triple, the invariant holds in every
  reachable configuration, and every action is executed under its condition. -/

namespace ConduitStream

universe u v w x

/-- A proof outline for threads `τ` with control values `κ` on states `σ` and labels `ℓ`. -/
structure Outline (σ : Type u) (ℓ : Type v) (τ : Type x) (κ : τ → Type w) where
  /-- Holds in every state. -/
  inv : σ → Prop
  /-- What the other threads may do to the state while `t` is not looking. -/
  rely : τ → σ → σ → Prop
  /-- What an action of `t` may do to the state. -/
  guar : τ → σ → σ → Prop
  /-- What holds when `t` executes an action with this label. -/
  ok : τ → ℓ → σ → Prop
  /-- What holds while `t` is between two programs. -/
  idle : (t : τ) → κ t → σ → Prop
  rely_refl : ∀ t s, rely t s s
  rely_trans : ∀ t {s s' s''}, rely t s s' → rely t s' s'' → rely t s s''
  /-- What one thread guarantees, every other one may rely on. -/
  compat : ∀ {t t' s s'}, t ≠ t' → inv s → inv s' → guar t' s s' → rely t s s'

namespace Outline

variable {σ : Type u} {ℓ : Type v} {τ : Type x} {κ : τ → Type w} (O : Outline σ ℓ τ κ) (t : τ)
  {α β : Type w}

/-- From state `s` on, every action of the program keeps to the outline, and `post` holds when it
returns. -/
def Safe (post : α → σ → Prop) : Prog σ ℓ α → σ → Prop
  | .ret a, s => ∀ s', O.rely t s s' → O.inv s' → post a s'
  | .act l g upd next, s => ∀ s', O.rely t s s' → O.inv s' → g s' = true →
      (O.guar t s' (upd s') ∧ O.inv (upd s') ∧ O.ok t l s') ∧ Safe post (next s') (upd s')

variable {O t} {post post' : α → σ → Prop} {p : Prog σ ℓ α} {s s' : σ}

/-- Safety survives what the other threads do. -/
theorem Safe.env (h : O.Safe t post p s) (hr : O.rely t s s') : O.Safe t post p s' := by
  cases p with
  | ret a => exact fun s'' hr' hi => h s'' (O.rely_trans t hr hr') hi
  | act l g upd next => exact fun s'' hr' hi hg => h s'' (O.rely_trans t hr hr') hi hg

/-- A sequence is safe if its first program is, and its second one behind every result. -/
theorem Safe.bind {post : β → σ → Prop} {f : α → Prog σ ℓ β} (hi : O.inv s)
    (h : O.Safe t (fun a s' => O.Safe t post (f a) s') p s) : O.Safe t post (p.bind f) s := by
  induction p generalizing s with
  | ret a => exact h s (O.rely_refl t s) hi
  | act l g upd next ih =>
      intro s' hr hi' hg
      obtain ⟨hstep, hnext⟩ := h s' hr hi' hg
      exact ⟨hstep, ih s' hstep.2.1 hnext⟩

/-- A safe program stays safe under a weaker postcondition. -/
theorem Safe.mono (h : O.Safe t post p s)
    (hpost : ∀ a s, O.inv s → post a s → post' a s) : O.Safe t post' p s := by
  induction p generalizing s with
  | ret a => exact fun s' hr hi => hpost a s' hi (h s' hr hi)
  | act l g upd next ih =>
      intro s' hr hi hg
      obtain ⟨hstep, hnext⟩ := h s' hr hi hg
      exact ⟨hstep, ih s' hnext⟩

/-! ## Triples -/

variable (O t)

/-- An assertion the other threads cannot invalidate. -/
def Stable (A : σ → Prop) : Prop :=
  ∀ ⦃s s'⦄, O.inv s → O.inv s' → O.rely t s s' → A s → A s'

variable {O t} in
/-- A fact about no state is stable. -/
theorem Stable.pure_and {φ : Prop} {A : σ → Prop} (hA : O.Stable t A) :
    O.Stable t fun s => φ ∧ A s :=
  fun _ _ hi hi' hr h => ⟨h.1, hA hi hi' hr h.2⟩

variable {O t} in
/-- What holds for some witness stays so for this witness. -/
theorem Stable.exists {ι : Sort*} {A : ι → σ → Prop} (hA : ∀ i, O.Stable t (A i)) :
    O.Stable t fun s => ∃ i, A i s := by
  intro s s' hi hi' hr h
  obtain ⟨i, h⟩ := h
  exact ⟨i, hA i hi hi' hr h⟩

/-- From every state that satisfies `pre`, the program keeps to the outline and returns with
`post`. -/
def Triple (pre : σ → Prop) (p : Prog σ ℓ α) (post : α → σ → Prop) : Prop :=
  ∀ s, O.inv s → pre s → O.Safe t post p s

variable {O t} {pre pre' : σ → Prop}

/-- A program that returns needs its postcondition at once, and stable. -/
theorem Triple.ret {a : α} (hst : O.Stable t (post a))
    (h : ∀ s, O.inv s → pre s → post a s) : O.Triple t pre (pure a) post :=
  fun s hi hp _ hr hi' => hst hi hi' hr (h s hi hp)

/-- Two programs in a row meet in an assertion between them. -/
theorem Triple.bind {mid : α → σ → Prop} {post : β → σ → Prop} {f : α → Prog σ ℓ β}
    (hp : O.Triple t pre p mid) (hf : ∀ a, O.Triple t (mid a) (f a) post) :
    O.Triple t pre (p >>= f) post :=
  fun s hi h => Safe.bind hi ((hp s hi h).mono fun a s' hi' hm => hf a s' hi' hm)

/-- Strengthen the precondition, weaken the postcondition. -/
theorem Triple.conseq (hp : O.Triple t pre p post) (hpre : ∀ s, O.inv s → pre' s → pre s)
    (hpost : ∀ a s, O.inv s → post a s → post' a s) : O.Triple t pre' p post' :=
  fun s hi h => (hp s hi (hpre s hi h)).mono hpost

/-- A precondition may be strengthened under the invariant. -/
theorem Triple.weaken (hp : O.Triple t pre p post) (hpre : ∀ s, O.inv s → pre' s → pre s) :
    O.Triple t pre' p post := hp.conseq hpre fun _ _ _ h => h

/-- A fact about no state moves out of the precondition. -/
theorem Triple.pure {φ : Prop} (hp : φ → O.Triple t pre p post) :
    O.Triple t (fun s => φ ∧ pre s) p post :=
  fun s hi h => hp h.1 s hi h.2

/-- A witness moves out of the precondition. -/
theorem Triple.exists {ι : Sort*} {pre : ι → σ → Prop} (hp : ∀ i, O.Triple t (pre i) p post) :
    O.Triple t (fun s => ∃ i, pre i s) p post :=
  fun s hi h => by
    obtain ⟨i, h⟩ := h
    exact hp i s hi h

/-- **The rule for an action**: it keeps guarantee and invariant, and its assertions are stable. -/
theorem Triple.act {l : ℓ} {g : σ → Bool} {upd : σ → σ} {res : σ → α} (hpre : O.Stable t pre)
    (hpost : ∀ a, O.Stable t (post a))
    (h : ∀ s, O.inv s → pre s → g s = true →
      O.guar t s (upd s) ∧ O.inv (upd s) ∧ O.ok t l s ∧ post (res s) (upd s)) :
    O.Triple t pre (.act l g upd fun s => .ret (res s)) post := by
  intro s hi hp s' hr hi' hg
  obtain ⟨hguar, hinv, hok, hres⟩ := h s' hi' (hpre hi hi' hr hp) hg
  exact ⟨⟨hguar, hinv, hok⟩, fun s'' hr' hi'' => hpost _ hinv hi'' hr' hres⟩

/-- An action needs stable assertions on both sides, and keeps guarantee and invariant. -/
theorem Triple.atom {l : ℓ} {upd : σ → σ} {res : σ → α} (hpre : O.Stable t pre)
    (hpost : ∀ a, O.Stable t (post a))
    (h : ∀ s, O.inv s → pre s →
      O.guar t s (upd s) ∧ O.inv (upd s) ∧ O.ok t l s ∧ post (res s) (upd s)) :
    O.Triple t pre (.atom l upd res) post :=
  .act hpre hpost fun s hi hp _ => h s hi hp

/-- What every action of the program keeps is both a pre- and a postcondition. -/
theorem Triple.of_moves {R : σ → σ → Prop} {A : σ → Prop} (hp : p.Moves R) (hA : O.Stable t A)
    (h : ∀ l s s', O.inv s → A s → R s s' → O.guar t s s' ∧ O.inv s' ∧ O.ok t l s ∧ A s') :
    O.Triple t A p fun _ => A := by
  induction p with
  | ret a => exact Triple.ret hA fun s _ hs => hs
  | act l g upd next ih =>
      intro s hi hs s' hr hi' _
      obtain ⟨hstep, hnext⟩ := hp s'
      obtain ⟨hguar, hinv, hok, hkept⟩ := h l s' (upd s') hi' (hA hi hi' hr hs) hstep
      exact ⟨⟨hguar, hinv, hok⟩, ih s' hnext (upd s') hinv hkept⟩

/-- **The frame rule**: what neither the thread nor the others can invalidate stays beside the
pre- and the postcondition. -/
theorem Triple.frame {A : σ → Prop}
    (hA : ∀ s s', O.rely t s s' ∨ O.guar t s s' → A s → A s') (hp : O.Triple t pre p post) :
    O.Triple t (fun s => pre s ∧ A s) p fun a s => post a s ∧ A s := by
  have hsafe : ∀ (p : Prog σ ℓ α) s, O.Safe t post p s → A s →
      O.Safe t (fun a s => post a s ∧ A s) p s := by
    intro p
    induction p with
    | ret a => exact fun s h ha s' hr hi => ⟨h s' hr hi, hA s s' (.inl hr) ha⟩
    | act l g upd next ih =>
        intro s h ha s' hr hi hg
        obtain ⟨hstep, hnext⟩ := h s' hr hi hg
        exact ⟨hstep, ih s' _ hnext (hA _ _ (.inr hstep.1) (hA s s' (.inl hr) ha))⟩
  exact fun s hi h => hsafe p s (hp s hi h.1) h.2

/-! ## The same outline for other control values -/

section WithIdle

variable {κ' : τ → Type w} {idle' : (t : τ) → κ' t → σ → Prop}

variable (O idle') in
/-- The outline with the assertions `idle'` on other control values. -/
def withIdle : Outline σ ℓ τ κ' where
  inv := O.inv
  rely := O.rely
  guar := O.guar
  ok := O.ok
  idle := idle'
  rely_refl := O.rely_refl
  rely_trans := O.rely_trans
  compat := O.compat

/-- Safety does not mention the control values. -/
theorem Safe.withIdle (h : O.Safe t post p s) : (O.withIdle idle').Safe t post p s := by
  induction p generalizing s with
  | ret a => exact h
  | act l g upd next ih =>
      intro s' hr hi hg
      obtain ⟨hstep, hnext⟩ := h s' hr hi hg
      exact ⟨hstep, ih s' hnext⟩

/-- Nor do triples look at the assertions for tasks that are idle. -/
theorem Triple.withIdle (hp : O.Triple t pre p post) :
    (O.withIdle idle').Triple t pre p post :=
  fun s hi h => (hp s hi h).withIdle

end WithIdle

/-! ## The same outline with other conditions on actions -/

section WithOk

variable {ok' : τ → ℓ → σ → Prop} {allowed : ℓ → Prop}

variable (O ok') in
/-- The outline with the conditions `ok'`. -/
def withOk : Outline σ ℓ τ κ where
  inv := O.inv
  rely := O.rely
  guar := O.guar
  ok := ok'
  idle := O.idle
  rely_refl := O.rely_refl
  rely_trans := O.rely_trans
  compat := O.compat

/-- A program whose labels have the same conditions as before stays safe. -/
theorem Safe.withOk (hok : ∀ l s, allowed l → O.ok t l s → ok' t l s) (hp : p.Uses allowed)
    (h : O.Safe t post p s) : (O.withOk ok').Safe t post p s := by
  induction p generalizing s with
  | ret a => exact h
  | act l g upd next ih =>
      intro s' hr hi hg
      obtain ⟨hstep, hnext⟩ := h s' hr hi hg
      exact ⟨⟨hstep.1, hstep.2.1, hok l s' hp.1 hstep.2.2⟩, ih s' (hp.2 s') hnext⟩

/-- A proof is reused under another condition on the actions, for a program that uses few of them. -/
theorem Triple.withOk (hok : ∀ l s, allowed l → O.ok t l s → ok' t l s) (hu : p.Uses allowed)
    (hp : O.Triple t pre p post) : (O.withOk ok').Triple t pre p post :=
  fun s hi h => (hp s hi h).withOk hok hu

end WithOk

/-! ## Relying on exactly what the others guarantee -/

section OfGuar

variable {inv : σ → Prop} {guar : τ → σ → σ → Prop} {ok : τ → ℓ → σ → Prop}
  {idle : (t : τ) → κ t → σ → Prop}

variable (inv guar ok idle) in
/-- The outline in which each thread relies on the others to take the steps they guarantee, as often
as they like. -/
def ofGuar : Outline σ ℓ τ κ where
  inv := inv
  rely t := Relation.ReflTransGen fun s s' => inv s ∧ inv s' ∧ ∃ t', t ≠ t' ∧ guar t' s s'
  guar := guar
  ok := ok
  idle := idle
  rely_refl _ _ := .refl
  rely_trans _ _ _ _ := .trans
  compat ht hi hi' hg := .single ⟨hi, hi', _, ht, hg⟩

/-- An assertion is stable if no step of another thread invalidates it. -/
theorem ofGuar_stable {A : σ → Prop}
    (h : ∀ t' s s', t ≠ t' → inv s → inv s' → guar t' s s' → A s → A s') :
    (ofGuar inv guar ok idle).Stable t A := by
  rintro s s' - - hr hA
  change Relation.ReflTransGen _ s s' at hr
  induction hr with
  | refl => exact hA
  | tail _ hstep ih =>
      obtain ⟨hi, hi', t', ht, hg⟩ := hstep
      exact h t' _ _ ht hi hi' hg ih

end OfGuar

/-! ## Soundness -/

variable {c c₀ : Config σ ℓ τ κ}

/-- The invariant holds and every thread is safe. -/
def Holds (O : Outline σ ℓ τ κ) (c : Config σ ℓ τ κ) : Prop :=
  O.inv c.st ∧ ∀ t, O.Safe t (O.idle t) (c.th t) c.st

/-- A thread between two programs satisfies its idle assertion. -/
theorem Holds.idle (h : O.Holds c) {t : τ} {k : κ t} (hth : c.th t = .ret k) :
    O.idle t k c.st := by
  have := h.2 t
  rw [hth] at this
  exact this c.st (O.rely_refl t c.st) h.1

variable [DecidableEq τ] {S : System σ ℓ τ κ}

/-- Every program the code allows satisfies its triple. -/
def Proves (O : Outline σ ℓ τ κ) (S : System σ ℓ τ κ) : Prop :=
  ∀ t k p, O.Triple t (fun s => O.idle t k s ∧ S.code t k s p) p (O.idle t)

/-- **Step lemma**: every step of any task keeps the assertions of all of them. -/
theorem Holds.step (hO : O.Proves S) (h : O.Holds c) {t : τ} {l : Option ℓ}
    {c' : Config σ ℓ τ κ} (hs : S.Step c t l c') : O.Holds c' := by
  obtain ⟨hi, hsafe⟩ := h
  cases hs with
  | @act l g upd next hth hg =>
      have hact := hsafe t
      rw [hth] at hact
      obtain ⟨⟨hguar, hinv, -⟩, hnext⟩ := hact c.st (O.rely_refl t c.st) hi hg
      refine ⟨hinv, fun t' => ?_⟩
      by_cases ht : t' = t
      · subst ht
        dsimp only
        rw [Function.update_self]
        exact hnext
      · -- what `t` guarantees, `t'` relies on
        dsimp only
        rw [Function.update_of_ne ht]
        exact (hsafe t').env (O.compat ht hi hinv hguar)
  | @enter k p hth hp =>
      have hret := hsafe t
      rw [hth] at hret
      have hidle := hret c.st (O.rely_refl t c.st) hi
      refine ⟨hi, fun t' => ?_⟩
      by_cases ht : t' = t
      · -- the program entered satisfies its triple
        subst ht
        dsimp only
        rw [Function.update_self]
        exact hO t' k p c.st hi ⟨hidle, hp⟩
      · dsimp only
        rw [Function.update_of_ne ht]
        exact hsafe t'

/-- **Soundness**: in every reachable configuration the invariant holds and every thread is
safe. -/
theorem sound (hO : O.Proves S) (h₀ : O.Holds c₀) (hr : S.Reachable c₀ c) : O.Holds c := by
  induction hr with
  | start => exact h₀
  | step _ hs ih => exact ih.step hO hs

/-- An action is executed under its condition. -/
theorem Holds.ok (h : O.Holds c) {t : τ} {l : ℓ} {c' : Config σ ℓ τ κ}
    (hs : S.Step c t (some l) c') : O.ok t l c.st := by
  cases hs with
  | act hth hg =>
      have := h.2 t
      rw [hth] at this
      exact (this c.st (O.rely_refl t c.st) h.1 hg).1.2.2

/-- An action does what its thread guarantees. -/
theorem Holds.guar_act (h : O.Holds c) {t : τ} {l : ℓ} {c' : Config σ ℓ τ κ}
    (hs : S.Step c t (some l) c') : O.guar t c.st c'.st := by
  cases hs with
  | act hth hg =>
      have := h.2 t
      rw [hth] at this
      exact (this c.st (O.rely_refl t c.st) h.1 hg).1.1

/-- A step leaves the state as it is, or does what its thread guarantees. -/
theorem Holds.guar (h : O.Holds c) {t : τ} {l : Option ℓ} {c' : Config σ ℓ τ κ}
    (hs : S.Step c t l c') : c'.st = c.st ∨ O.guar t c.st c'.st := by
  cases l with
  | none =>
      cases hs
      exact .inl rfl
  | some l => exact .inr (h.guar_act hs)

end Outline

end ConduitStream
