import Mathlib.Data.List.Basic
import Mathlib.Data.List.TakeWhile

/-! # Checked accesses to a buffer

A buffer is the list of its elements, and an access behind its end fails. A function that is
written with these accesses and returns a result has stayed inside its buffers.

* `loadRange`: the elements of a range (`memcmp`, the source of a `memcpy`);
* `storeRange`: a range is overwritten (the target of a `memcpy`);
* `scanWhile`: the loop `while (j < len && p(buf[j])) j++`, which reads element by element
  (`scanWhile_eq`);
* `scanUpTo`: the same loop over the first `len` elements of a memory that goes on behind them
  (`scanUpTo_eq`). -/

namespace ConduitStream

variable {α : Type}

/-- The `n` elements from `i` on. -/
def loadRange (buf : List α) (i n : ℕ) : Option (List α) :=
  if i + n ≤ buf.length then some ((buf.drop i).take n) else none

/-- A range inside the buffer is read. -/
theorem loadRange_of_le {buf : List α} {i n : ℕ} (h : i + n ≤ buf.length) :
    loadRange buf i n = some ((buf.drop i).take n) := if_pos h

/-- The elements from `i` on are overwritten. -/
def storeRange (buf : List α) (i : ℕ) (src : List α) : Option (List α) :=
  if i + src.length ≤ buf.length then some (buf.take i ++ src ++ buf.drop (i + src.length)) else none

/-- A store inside the buffer replaces a stretch of it and leaves the rest. -/
theorem storeRange_of_le {buf src : List α} {i : ℕ} (h : i + src.length ≤ buf.length) :
    storeRange buf i src = some (buf.take i ++ src ++ buf.drop (i + src.length)) := if_pos h

/-- As much is read as was asked for. -/
theorem length_loadRange {buf out : List α} {i n : ℕ} (h : loadRange buf i n = some out) :
    out.length = n := by
  unfold loadRange at h
  split_ifs at h
  obtain rfl := Option.some.inj h
  rw [List.length_take, List.length_drop]
  omega

/-- A store replaces elements, so the buffer keeps its size. -/
theorem length_storeRange {buf src out : List α} {i : ℕ} (h : storeRange buf i src = some out) :
    out.length = buf.length := by
  unfold storeRange at h
  split_ifs at h
  obtain rfl := Option.some.inj h
  simp only [List.length_append, List.length_take, List.length_drop]
  omega

/-- The front of a buffer is read. -/
theorem loadRange_front (front rest : List α) :
    loadRange (front ++ rest) 0 front.length = some front := by
  rw [loadRange_of_le (by rw [List.length_append]; omega), List.drop_zero, List.take_left]

/-- A part of a buffer is read. -/
theorem loadRange_middle (front part rest : List α) {i n : ℕ} (hi : i = front.length)
    (hn : n = part.length) : loadRange (front ++ (part ++ rest)) i n = some part := by
  have hle : i + n ≤ (front ++ (part ++ rest)).length := by
    rw [List.length_append, List.length_append]
    omega
  rw [loadRange_of_le hle, List.drop_left' hi.symm, List.take_left' hn.symm]

/-- A part of a buffer is replaced. -/
theorem storeRange_append (front rest : List α) {old new : List α} (h : new.length = old.length) :
    storeRange (front ++ (old ++ rest)) front.length new = some (front ++ (new ++ rest)) := by
  have hle : front.length + new.length ≤ (front ++ (old ++ rest)).length := by
    rw [List.length_append, List.length_append]
    omega
  rw [storeRange_of_le hle, List.take_left, ← List.drop_drop, List.drop_left, h, List.drop_left,
    List.append_assoc]

/-- The first index from `j` on, at most `buf.length`, whose element does not satisfy `p`. -/
def scanWhile (p : α → Bool) (buf : List α) (j : ℕ) : Option ℕ :=
  if j < buf.length then do
    let a ← buf[j]?
    if p a then scanWhile p buf (j + 1) else some j
  else some j
termination_by buf.length - j

/-- **The scan reads inside the buffer only, and stops behind the longest run of `p`.** -/
theorem scanWhile_eq (p : α → Bool) (buf : List α) (j : ℕ) :
    scanWhile p buf j = some (j + ((buf.drop j).takeWhile p).length) := by
  -- by induction on what is left of the buffer
  induction hn : buf.length - j generalizing j with
  | zero =>
      have hj : buf.length ≤ j := by omega
      rw [scanWhile, if_neg (by omega), List.drop_eq_nil_of_le hj]
      rfl
  | succ n ih =>
      have hj : j < buf.length := by omega
      rw [scanWhile, if_pos hj, List.getElem?_eq_getElem hj, Option.bind_eq_bind, Option.bind_some,
        List.drop_eq_getElem_cons hj]
      cases hp : p buf[j] with
      | true =>
          rw [if_pos rfl, ih (j + 1) (by omega), List.takeWhile_cons_of_pos hp, List.length_cons]
          congr 1
          omega
      | false =>
          rw [if_neg Bool.false_ne_true, List.takeWhile_cons_of_neg (by rw [hp]; simp)]
          rfl

/-- The scan does not go back. -/
theorem le_of_scanWhile {p : α → Bool} {buf : List α} {i j : ℕ} (h : scanWhile p buf i = some j) :
    i ≤ j := by
  rw [scanWhile_eq, Option.some.injEq] at h
  omega

/-- The first index from `j` on, at most `len`, whose element does not satisfy `p`. -/
def scanUpTo (p : α → Bool) (mem : List α) (len j : ℕ) : Option ℕ :=
  if j < len then do
    let a ← mem[j]?
    if p a then scanUpTo p mem len (j + 1) else some j
  else some j
termination_by len - j

/-- **The scan of a buffer** does not depend on what is behind it. -/
theorem scanUpTo_eq (p : α → Bool) (buf behind : List α) (j : ℕ) :
    scanUpTo p (buf ++ behind) buf.length j = scanWhile p buf j := by
  fun_induction scanWhile p buf j with
  | case1 j hj ih =>
      rw [scanUpTo, if_pos hj, List.getElem?_append_left hj, List.getElem?_eq_getElem hj,
        Option.bind_eq_bind, Option.bind_some, Option.bind_some, ih]
  | case2 j hj => rw [scanUpTo, if_neg hj]

/-- Nor does the access to a range of it. -/
theorem loadRange_append {buf : List α} {i n : ℕ} (h : i + n ≤ buf.length) (behind : List α) :
    loadRange (buf ++ behind) i n = some ((buf.drop i).take n) := by
  rw [loadRange_of_le (by rw [List.length_append]; omega), List.drop_append_of_le_length (by omega),
    List.take_append_of_le_length (by rw [List.length_drop]; omega)]

/-- A scan does not go back. -/
theorem le_of_scanUpTo {p : α → Bool} {mem : List α} {len i j : ℕ}
    (h : scanUpTo p mem len i = some j) : i ≤ j := by
  fun_induction scanUpTo p mem len i with
  | case1 i hi ih =>
      obtain ⟨a, -, ha⟩ := Option.bind_eq_some_iff.mp h
      split at ha
      · have := ih ha
        omega
      · cases ha
        exact le_rfl
  | case2 i hi =>
      cases h
      exact le_rfl

/-- **Two scans in a row get on**, if the second one accepts what has stopped the first. -/
theorem lt_of_scanUpTo_scanUpTo {p q : α → Bool} (hpq : ∀ a, p a = false → q a = true)
    {mem : List α} {len i j k : ℕ} (hi : i < len) (hj : scanUpTo p mem len i = some j)
    (hk : scanUpTo q mem len j = some k) : i < k := by
  have hle := le_of_scanUpTo hk
  rcases (le_of_scanUpTo hj).lt_or_eq with hlt | rfl
  · omega
  · -- the first scan has stopped where it began
    rw [scanUpTo, if_pos hi] at hj hk
    obtain ⟨a, ha, hj⟩ := Option.bind_eq_some_iff.mp hj
    cases hp : p a with
    | true =>
        rw [hp, if_pos rfl] at hj
        have := le_of_scanUpTo hj
        omega
    | false =>
        rw [ha, Option.bind_eq_bind, Option.bind_some, hpq a hp, if_pos rfl] at hk
        exact le_of_scanUpTo hk

end ConduitStream
