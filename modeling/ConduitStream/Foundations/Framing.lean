import Mathlib.Data.List.Forall2
import Mathlib.Order.Nat

/-! # Framing a byte stream

A framer reads the first message off the front of a buffer, or asks for more. All it has to promise
is that it consumes at least one symbol and no more than there are, and that a message it has read
is read the same whatever follows it. Then

* no proper prefix of a message is read (`Framer.parse_eq_none_of_prefix`);
* reading messages off a buffer that grows chunk by chunk gives the messages of the whole stream,
  up to the first one that stops the reader (`Framer.drain_frames`), and in between the buffer holds
  less than one message (`Framer.length_lt_of_pending`). -/

namespace ConduitStream

/-- A reader of messages of type `β` from a stream of symbols of type `α`. -/
structure Framer (α β : Type*) where
  /-- The first message in the buffer, if it is there in full. -/
  parse : List α → Option β
  /-- How many symbols the message takes. -/
  size : β → ℕ
  size_pos : ∀ {s x}, parse s = some x → 0 < size x
  size_le : ∀ {s x}, parse s = some x → size x ≤ s.length
  stable : ∀ {s x} (t), parse s = some x → parse (s ++ t) = some x

/-- The messages up to and including the first one that stops the reader. -/
def upTo {β : Type*} (stop : β → Bool) : List β → List β
  | [] => []
  | x :: xs => if stop x then [x] else x :: upTo stop xs

namespace Framer

variable {α β : Type*} (P : Framer α β)

/-- The buffer `r` is the message `x` and nothing else. -/
def IsFrame (r : List α) (x : β) : Prop := P.parse r = some x ∧ P.size x = r.length

variable {P} {r s : List α} {x : β}

/-- **Prefix freedom**: a proper part of a message is not a message. -/
theorem parse_eq_none_of_prefix (h : P.parse s = some x) (hr : r <+: s)
    (hlt : r.length < P.size x) : P.parse r = none := by
  cases hp : P.parse r with
  | none => rfl
  | some y =>
      obtain ⟨t, rfl⟩ := hr
      have hy := P.stable t hp
      rw [h] at hy
      cases hy
      exact absurd (P.size_le hp) (not_le.mpr hlt)

/-- There is no frame in the empty input. -/
theorem parse_nil : P.parse [] = none := by
  cases hp : P.parse [] with
  | none => rfl
  | some x =>
      have h0 := P.size_pos hp
      have h1 := P.size_le hp
      rw [List.length_nil] at h1
      omega

variable (P) (stop : β → Bool)

/-- Read messages off the front of the buffer until more symbols are needed or a message stops the
reader: the messages, the rest of the buffer, and whether the reader stopped. -/
def drain (s : List α) : List β × List α × Bool :=
  match _h : P.parse s with
  | none => ([], s, false)
  | some x =>
      if stop x then ([x], s.drop (P.size x), true)
      else (x :: (drain (s.drop (P.size x))).1, (drain (s.drop (P.size x))).2)
termination_by s.length
decreasing_by
  all_goals
    have h0 := P.size_pos _h
    have h1 := P.size_le _h
    rw [List.length_drop]
    omega

variable {P} {stop}

/-- Without a whole frame nothing is drained. -/
theorem drain_none (h : P.parse s = none) : P.drain stop s = ([], s, false) := by
  rw [drain]
  split
  · rfl
  · next heq => rw [h] at heq; cases heq

/-- A whole frame is drained, and the draining goes on behind it unless it stops there. -/
theorem drain_some (h : P.parse s = some x) :
    P.drain stop s = if stop x then ([x], s.drop (P.size x), true)
      else (x :: (P.drain stop (s.drop (P.size x))).1, (P.drain stop (s.drop (P.size x))).2) := by
  rw [drain]
  split
  · next heq => rw [h] at heq; cases heq
  · next heq => rw [h] at heq; cases heq; rfl

/-- A reader that has not stopped needs more symbols. -/
theorem parse_drain_rest (h : (P.drain stop s).2.2 = false) :
    P.parse (P.drain stop s).2.1 = none := by
  induction hn : s.length using Nat.strongRecOn generalizing s with
  | _ n ih =>
      cases hp : P.parse s with
      | none => rw [drain_none hp]; exact hp
      | some x =>
          rw [drain_some hp] at h ⊢
          split at h
          · cases h
          · next hx =>
              rw [if_neg hx]
              have h0 := P.size_pos hp
              have h1 := P.size_le hp
              exact ih _ (by rw [List.length_drop]; omega) h rfl

/-- What is buffered of a stream of messages, once none can be read off it, is less than the next
message. -/
theorem length_lt_of_pending {t : List α} {rs : List (List α)} {xs : List β} {y : β}
    (hf : List.Forall₂ P.IsFrame (r :: rs) (y :: xs)) (hst : s ++ t = (r :: rs).flatten)
    (hs : P.parse s = none) : s.length < r.length := by
  obtain ⟨⟨hr, -⟩, -⟩ := List.forall₂_cons.mp hf
  by_contra hle
  rw [List.flatten_cons] at hst
  obtain ⟨s', rfl⟩ : r <+: s :=
    List.prefix_of_prefix_length_le (hst ▸ List.prefix_append r _) (List.prefix_append s t)
      (not_lt.mp hle)
  rw [P.stable s' hr] at hs
  cases hs

variable (stop) in
/-- **Step lemma**: reading off the buffered front part `s` of a stream of messages. Either the
reader stops, having read all messages up to the stopping one, or what it has read and what is still
to be read make up the messages of the stream. -/
theorem drain_frames {t : List α} {rs : List (List α)} {xs : List β}
    (hf : List.Forall₂ P.IsFrame rs xs) (hst : s ++ t = rs.flatten) :
    ((P.drain stop s).2.2 = true ∧ (P.drain stop s).1 = upTo stop xs) ∨
      ((P.drain stop s).2.2 = false ∧ ∃ rs' xs', List.Forall₂ P.IsFrame rs' xs' ∧ rs' <:+ rs ∧
        (P.drain stop s).2.1 ++ t = rs'.flatten ∧
        upTo stop xs = (P.drain stop s).1 ++ upTo stop xs') := by
  induction hf generalizing s with
  | nil =>
      obtain ⟨rfl, rfl⟩ : s = [] ∧ t = [] := by simpa using hst
      rw [drain_none parse_nil]
      exact .inr ⟨rfl, [], [], .nil, List.suffix_refl _, rfl, rfl⟩
  | @cons r x rs xs hr hf ih =>
      cases hp : P.parse s with
      | none =>
          rw [drain_none hp]
          exact .inr ⟨rfl, r :: rs, x :: xs, .cons hr hf, List.suffix_refl _, hst, rfl⟩
      | some y =>
          -- the message read is the first one of the stream
          have hstream : P.parse (r :: rs).flatten = some y := hst ▸ P.stable t hp
          rw [List.flatten_cons, P.stable _ hr.1] at hstream
          cases hstream
          have hle := P.size_le hp
          have hdrop : s.drop (P.size x) ++ t = rs.flatten := by
            rw [← List.drop_append_of_le_length hle, hst, List.flatten_cons, hr.2,
              List.drop_left]
          rw [drain_some hp, upTo]
          by_cases hx : stop x = true
          · rw [if_pos hx, if_pos hx]
            exact .inl ⟨rfl, rfl⟩
          · rw [if_neg hx, if_neg hx]
            rcases ih hdrop with ⟨hstop, hall⟩ | ⟨hgo, rs', xs', hf', hsuf, hrest, hall⟩
            · exact .inl ⟨hstop, by rw [hall]⟩
            · exact .inr ⟨hgo, rs', xs', hf', hsuf.trans (List.suffix_cons _ _), hrest,
                by rw [hall]; rfl⟩

end Framer

end ConduitStream
