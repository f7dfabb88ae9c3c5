import Mathlib.Logic.Function.Basic

/-! # Programs of atomic steps, and their interleavings

A program is a tree of atomic actions on a shared state: an action waits for its guard, changes the
state, and goes on in a way that may depend on the state it saw. Programs form a monad, so that the
functions of a source program are written in `do` notation, one action for every access to shared
memory.

A system runs one such program on each of its threads. A thread that has returned from a program
with a control value may enter any program its code allows at that value; unbounded loops and the
choice of the next call are expressed this way. A step of the system is a step of one thread, so the
reachable configurations are those of all interleavings. -/

namespace ConduitStream

universe u v w x

/-- A program of atomic actions on states `σ`, labelled in `ℓ`, that returns an `α`. -/
inductive Prog (σ : Type u) (ℓ : Type v) (α : Type w) : Type (max u v w)
  /-- Return. -/
  | ret (a : α) : Prog σ ℓ α
  /-- Wait until `guard` holds, then change the state by `upd` and continue as the old state
  says. -/
  | act (l : ℓ) (guard : σ → Bool) (upd : σ → σ) (next : σ → Prog σ ℓ α) : Prog σ ℓ α

namespace Prog

variable {σ : Type u} {ℓ : Type v} {α β : Type w}

/-- Run `p`, then go on with `f` from what it returned. -/
def bind : Prog σ ℓ α → (α → Prog σ ℓ β) → Prog σ ℓ β
  | ret a, f => f a
  | act l g upd next, f => act l g upd fun s => (next s).bind f

instance : Monad (Prog σ ℓ) where
  pure := ret
  bind := bind

/-- One action: change the state by `upd` and return what `res` reads from the old state. -/
def atom (l : ℓ) (upd : σ → σ) (res : σ → α) : Prog σ ℓ α :=
  act l (fun _ => true) upd fun s => ret (res s)

/-- One action that only reads. -/
def read (l : ℓ) (res : σ → α) : Prog σ ℓ α := atom l id res

/-- One action that only writes. -/
def modify (l : ℓ) (upd : σ → σ) : Prog σ ℓ PUnit := atom l upd fun _ => ⟨⟩

/-- Wait for the guard, and write in the same action. -/
def await (l : ℓ) (guard : σ → Bool) (upd : σ → σ) : Prog σ ℓ PUnit :=
  act l guard upd fun _ => ret ⟨⟩

/-- Run the program to its end while no other thread moves; `none` if it has to wait for one. -/
def runAlone : Prog σ ℓ α → σ → Option (α × σ)
  | ret a, s => some (a, s)
  | act _ g upd next, s => if g s then (next s).runAlone (upd s) else none

/-- What is left of the program after its first action, in state `s`. -/
def rest : Prog σ ℓ α → σ → Prog σ ℓ α
  | ret a, _ => ret a
  | act _ _ _ next, s => next s

/-- A program that has run to its end alone goes on with what comes next. -/
theorem runAlone_bind {p : Prog σ ℓ α} {f : α → Prog σ ℓ β} {s s' : σ} {a : α}
    (h : p.runAlone s = some (a, s')) : (p.bind f).runAlone s = (f a).runAlone s' := by
  induction p generalizing s with
  | ret b =>
      cases h
      rfl
  | act l g upd next ih =>
      rw [runAlone] at h
      show (if g s = true then ((next s).bind f).runAlone (upd s) else none) = _
      split at h
      · next hg =>
          rw [if_pos hg]
          exact ih s h
      · cases h

/-- Total correctness of a program that runs alone: from a state with `P` it runs to its end, with a
result and a state related by `Q`. -/
def Runs (P : σ → Prop) (p : Prog σ ℓ α) (Q : α → σ → Prop) : Prop :=
  ∀ s, P s → ∃ a s', p.runAlone s = some (a, s') ∧ Q a s'

section Runs

variable {P P' : σ → Prop} {Q Q' : α → σ → Prop}

/-- A program that has returned runs to the state it is in. -/
theorem Runs.ret {a : α} (h : ∀ s, P s → Q a s) : Runs P (.ret a : Prog σ ℓ α) Q :=
  fun s hs => ⟨a, s, rfl, h s hs⟩

/-- An atomic action runs to the state it makes. -/
theorem Runs.atom {l : ℓ} {upd : σ → σ} {res : σ → α} (h : ∀ s, P s → Q (res s) (upd s)) :
    Runs P (Prog.atom l upd res) Q := fun s hs => ⟨res s, upd s, rfl, h s hs⟩

/-- Two programs in a row meet in what the first one runs to. -/
theorem Runs.bind {p : Prog σ ℓ α} {f : α → Prog σ ℓ β} {R : β → σ → Prop} (hp : Runs P p Q)
    (hf : ∀ a, Runs (Q a) (f a) R) : Runs P (p >>= f) R := by
  intro s hs
  obtain ⟨a, s₁, hrun, h₁⟩ := hp s hs
  obtain ⟨b, s₂, hrun₂, h₂⟩ := hf a s₁ h₁
  exact ⟨b, s₂, (runAlone_bind hrun).trans hrun₂, h₂⟩

/-- The rule of consequence: a stronger precondition, a weaker postcondition. -/
theorem Runs.conseq {p : Prog σ ℓ α} (hp : Runs P p Q) (hP : ∀ s, P' s → P s)
    (hQ : ∀ a s, Q a s → Q' a s) : Runs P' p Q' := by
  intro s hs
  obtain ⟨a, s', hrun, h⟩ := hp s (hP s hs)
  exact ⟨a, s', hrun, hQ a s' h⟩

/-- What is known apart from the state. -/
theorem Runs.pure {p : Prog σ ℓ α} {c : Prop} (hp : c → Runs P p Q) :
    Runs (fun s => c ∧ P s) p Q := fun s hs => hp hs.1 s hs.2

/-- A precondition with a witness is used with any witness. -/
theorem Runs.exists {ι : Sort*} {p : Prog σ ℓ α} {P : ι → σ → Prop} (hp : ∀ i, Runs (P i) p Q) :
    Runs (fun s => ∃ i, P i s) p Q := fun s ⟨i, hs⟩ => hp i s hs

end Runs

/-- Every action of the program has an allowed label. -/
def Uses (allowed : ℓ → Prop) : Prog σ ℓ α → Prop
  | ret _ => True
  | act l _ _ next => allowed l ∧ ∀ s, (next s).Uses allowed

variable {allowed : ℓ → Prop}

/-- A program that returns performs no action. -/
theorem uses_pure (a : α) : (pure a : Prog σ ℓ α).Uses allowed := trivial

/-- Two programs in a row perform the actions of both. -/
theorem uses_bind {p : Prog σ ℓ α} {f : α → Prog σ ℓ β} (hp : p.Uses allowed)
    (hf : ∀ a, (f a).Uses allowed) : (p >>= f).Uses allowed := by
  change (p.bind f).Uses allowed
  induction p with
  | ret a => exact hf a
  | act l g upd next ih => exact ⟨hp.1, fun s => ih s (hp.2 s)⟩

/-- An atomic action performs itself, if its label is allowed. -/
theorem uses_atom {l : ℓ} (hl : allowed l) (upd : σ → σ) (res : σ → α) :
    (atom l upd res).Uses allowed := ⟨hl, fun _ => trivial⟩

/-- So does an action that waits. -/
theorem uses_await {l : ℓ} (hl : allowed l) (guard : σ → Bool) (upd : σ → σ) :
    (await l guard upd).Uses allowed := ⟨hl, fun _ => trivial⟩

/-- Where every label is allowed, so is every program. -/
theorem uses_of_forall (h : ∀ l, allowed l) (p : Prog σ ℓ α) : p.Uses allowed := by
  induction p with
  | ret a => trivial
  | act l g upd next ih => exact ⟨h l, ih⟩

/-- A branch performs the actions of one of its programs. -/
theorem uses_ite {c : Prop} [Decidable c] {p q : Prog σ ℓ α} (hp : p.Uses allowed)
    (hq : q.Uses allowed) : (if c then p else q).Uses allowed := by
  split
  · exact hp
  · exact hq

/-- The property is one of all programs that are put together from actions with allowed labels that
wait for nothing. -/
structure IsClosed (P : ∀ {α : Type}, Prog σ ℓ α → Prop) (allowed : ℓ → Prop) : Prop where
  pure : ∀ {α : Type} (a : α), P (Pure.pure a)
  bind : ∀ {α β : Type} {p : Prog σ ℓ α} {f : α → Prog σ ℓ β}, P p → (∀ a, P (f a)) → P (p >>= f)
  atom : ∀ {α : Type} {l : ℓ} {upd : σ → σ} {res : σ → α}, allowed l → P (Prog.atom l upd res)

/-- A class of programs that is closed contains the branches of its members. -/
theorem IsClosed.ite {P : ∀ {α : Type}, Prog σ ℓ α → Prop} (_hP : IsClosed P allowed) {c : Prop}
    [Decidable c] {γ : Type} {p q : Prog σ ℓ γ} (hp : P p) (hq : P q) : P (if c then p else q) := by
  split
  · exact hp
  · exact hq

/-- The labels may be those that are allowed. -/
theorem isClosed_uses (allowed : ℓ → Prop) :
    IsClosed (fun {_} p => (p : Prog σ ℓ _).Uses allowed) allowed where
  pure := uses_pure
  bind := uses_bind
  atom hl := uses_atom hl _ _

/-- Every action of the program, in whatever state it is taken, changes the state within `R`. -/
def Moves (R : σ → σ → Prop) : Prog σ ℓ α → Prop
  | ret _ => True
  | act _ _ upd next => ∀ s, R s (upd s) ∧ (next s).Moves R

variable {R : σ → σ → Prop}

/-- A program that returns moves nothing. -/
theorem moves_pure (a : α) : (pure a : Prog σ ℓ α).Moves R := trivial

/-- Two programs in a row move the state as each of them does. -/
theorem moves_bind {p : Prog σ ℓ α} {f : α → Prog σ ℓ β} (hp : p.Moves R)
    (hf : ∀ a, (f a).Moves R) : (p >>= f).Moves R := by
  change (p.bind f).Moves R
  induction p with
  | ret a => exact hf a
  | act l g upd next ih => exact fun s => ⟨(hp s).1, ih s (hp s).2⟩

/-- An atomic action moves the state by its update. -/
theorem moves_atom {upd : σ → σ} (h : ∀ s, R s (upd s)) (l : ℓ) (res : σ → α) :
    (atom l upd res).Moves R := fun s => ⟨h s, trivial⟩

/-- So does an action that waits. -/
theorem moves_await {upd : σ → σ} (h : ∀ s, R s (upd s)) (l : ℓ) (guard : σ → Bool) :
    (await l guard upd).Moves R := fun s => ⟨h s, trivial⟩

/-- A branch moves the state as one of its programs does. -/
theorem moves_ite {c : Prop} [Decidable c] {p q : Prog σ ℓ α} (hp : p.Moves R) (hq : q.Moves R) :
    (if c then p else q).Moves R := by
  split
  · exact hp
  · exact hq

/-- The actions of the program while no other thread moves, each with the state it is taken in. -/
def trace : Prog σ ℓ α → σ → List (ℓ × σ)
  | ret _, _ => []
  | act l g upd next, s => if g s then (l, s) :: (next s).trace (upd s) else []

end Prog

/-- What each thread may do next: `code t k s p` allows thread `t`, returned with the control value
`k`, to enter the program `p` in state `s`. -/
structure System (σ : Type u) (ℓ : Type v) (τ : Type x) (κ : τ → Type w) where
  code : (t : τ) → κ t → σ → Prog σ ℓ (κ t) → Prop

/-- The shared state and the program each thread is in. -/
structure Config (σ : Type u) (ℓ : Type v) (τ : Type x) (κ : τ → Type w) where
  st : σ
  th : (t : τ) → Prog σ ℓ (κ t)

section Schedule

variable {σ : Type u} {ℓ : Type v} {τ : Type x} {κ : τ → Type w} [DecidableEq τ]

/-- The configuration behind the next action of thread `t`; `none` if it is at the end of its program or has to
wait. -/
def Config.advance (c : Config σ ℓ τ κ) (t : τ) : Option (Config σ ℓ τ κ) :=
  match c.th t with
  | .ret _ => none
  | .act _ g upd next => if g c.st then some ⟨upd c.st, Function.update c.th t (next c.st)⟩ else none

/-- The configuration behind a schedule: one action of each thread named, in this order. -/
def Config.schedule (c : Config σ ℓ τ κ) : List τ → Option (Config σ ℓ τ κ)
  | [] => some c
  | t :: ts => (c.advance t).bind fun c' => c'.schedule ts

end Schedule

namespace System

variable {σ : Type u} {ℓ : Type v} {τ : Type x} {κ : τ → Type w} [DecidableEq τ]

/-- One step of thread `t`: an action with its label, or entering the next program. -/
inductive Step (S : System σ ℓ τ κ) : Config σ ℓ τ κ → τ → Option ℓ → Config σ ℓ τ κ → Prop
  | act {c : Config σ ℓ τ κ} {t : τ} {l : ℓ} {g : σ → Bool} {upd : σ → σ}
      {next : σ → Prog σ ℓ (κ t)} :
      c.th t = .act l g upd next → g c.st = true →
      Step S c t (some l) ⟨upd c.st, Function.update c.th t (next c.st)⟩
  | enter {c : Config σ ℓ τ κ} {t : τ} {k : κ t} {p : Prog σ ℓ (κ t)} :
      c.th t = .ret k → S.code t k c.st p →
      Step S c t none ⟨c.st, Function.update c.th t p⟩

/-- The configurations reached from `c₀` by steps of any threads in any order. -/
inductive Reachable (S : System σ ℓ τ κ) (c₀ : Config σ ℓ τ κ) : Config σ ℓ τ κ → Prop
  | start : Reachable S c₀ c₀
  | step {c c' : Config σ ℓ τ κ} {t : τ} {l : Option ℓ} :
      Reachable S c₀ c → S.Step c t l c' → Reachable S c₀ c'

/-- A step of one thread leaves the others where they are. -/
theorem Step.th_of_ne {S : System σ ℓ τ κ} {c c' : Config σ ℓ τ κ} {t t' : τ} {l : Option ℓ}
    (h : S.Step c t l c') (ht : t' ≠ t) : c'.th t' = c.th t' := by
  cases h with
  | act => exact Function.update_of_ne ht ..
  | enter => exact Function.update_of_ne ht ..

/-- A system with less code takes fewer steps. -/
theorem Step.mono {S S' : System σ ℓ τ κ} {c c' : Config σ ℓ τ κ} {t : τ} {l : Option ℓ}
    (hcode : ∀ t k s p, S.code t k s p → S'.code t k s p) (h : S.Step c t l c') :
    S'.Step c t l c' := by
  cases h with
  | act hth hg => exact .act hth hg
  | enter hth hp => exact .enter hth (hcode _ _ _ _ hp)

/-- A system with less code reaches less. -/
theorem Reachable.mono {S S' : System σ ℓ τ κ} {c₀ c : Config σ ℓ τ κ}
    (hcode : ∀ t k s p, S.code t k s p → S'.code t k s p) (h : S.Reachable c₀ c) :
    S'.Reachable c₀ c := by
  induction h with
  | start => exact .start
  | step _ hs ih => exact ih.step (hs.mono hcode)

variable {S : System σ ℓ τ κ} {c₀ : Config σ ℓ τ κ} {t : τ}

/-- A thread in the middle of a program may run it to its end. -/
theorem Reachable.finish {p : Prog σ ℓ (κ t)} {s s' : σ} {th : (t : τ) → Prog σ ℓ (κ t)} {k : κ t}
    (h : S.Reachable c₀ ⟨s, Function.update th t p⟩) (hrun : p.runAlone s = some (k, s')) :
    S.Reachable c₀ ⟨s', Function.update th t (.ret k)⟩ := by
  induction p generalizing s with
  | ret a =>
      cases hrun
      exact h
  | act l g upd next ih =>
      rw [Prog.runAlone] at hrun
      split at hrun
      · next hg =>
          have hstep := h.step (.act (Function.update_self t _ th) hg)
          rw [Function.update_idem] at hstep
          exact ih s hstep hrun
      · cases hrun

/-- A thread in the middle of a program may take any of the actions it takes alone. -/
theorem Reachable.trace {p : Prog σ ℓ (κ t)} {s s' : σ} {th : (t : τ) → Prog σ ℓ (κ t)} {l : ℓ}
    (h : S.Reachable c₀ ⟨s, Function.update th t p⟩) (hl : (l, s') ∈ p.trace s) :
    ∃ c c', S.Reachable c₀ c ∧ c.st = s' ∧ S.Step c t (some l) c' := by
  induction p generalizing s with
  | ret a => exact absurd hl List.not_mem_nil
  | act l' g upd next ih =>
      rw [Prog.trace] at hl
      split at hl
      · next hg =>
          have hth : (Function.update th t (.act l' g upd next) : (t : τ) → Prog σ ℓ (κ t)) t
              = .act l' g upd next := Function.update_self t _ th
          have hstep := System.Step.act (S := S) (c := ⟨s, Function.update th t _⟩) hth hg
          rcases List.mem_cons.mp hl with heq | hl
          · cases heq
            exact ⟨_, _, h, rfl, hstep⟩
          · have hnext := h.step hstep
            rw [Function.update_idem] at hnext
            exact ih s hnext hl
      · exact absurd hl List.not_mem_nil

/-- What `Config.advance` does is a step. -/
theorem Step.advance {c c' : Config σ ℓ τ κ} (h : c.advance t = some c') : ∃ l, S.Step c t l c' := by
  unfold Config.advance at h
  split at h
  · cases h
  · next l g upd next hth =>
      split at h
      · next hg =>
          cases h
          exact ⟨some l, .act hth hg⟩
      · cases h

/-- Threads in the middle of programs may follow any schedule. -/
theorem Reachable.schedule {c c' : Config σ ℓ τ κ} (h : S.Reachable c₀ c) (ts : List τ)
    (hrun : c.schedule ts = some c') : S.Reachable c₀ c' := by
  induction ts generalizing c with
  | nil =>
      cases hrun
      exact h
  | cons t ts ih =>
      obtain ⟨c₁, hadvance, hrest⟩ := Option.bind_eq_some_iff.mp hrun
      obtain ⟨l, hstep⟩ := Step.advance hadvance
      exact ih (h.step hstep) hrest

/-- The system in which thread `t` enters no further program. -/
def within (S : System σ ℓ τ κ) (t : τ) : System σ ℓ τ κ where
  code t' k s p := t' ≠ t ∧ S.code t' k s p

/-- A step within a program of `t` is a step of the system. -/
theorem Step.of_within {c c' : Config σ ℓ τ κ} {t' : τ} {l : Option ℓ}
    (h : (S.within t).Step c t' l c') : S.Step c t' l c' := by
  refine h.mono fun t' k s p hcode => ?_
  exact hcode.2

/-- A thread between two programs may enter one and run it to its end. -/
theorem Reachable.runAlone {p : Prog σ ℓ (κ t)} {s s' : σ} {th : (t : τ) → Prog σ ℓ (κ t)}
    {k k' : κ t} (h : S.Reachable c₀ ⟨s, th⟩) (hth : th t = .ret k) (hp : S.code t k s p)
    (hrun : p.runAlone s = some (k', s')) :
    S.Reachable c₀ ⟨s', Function.update th t (.ret k')⟩ :=
  (h.step (.enter hth hp)).finish hrun

end System

end ConduitStream
