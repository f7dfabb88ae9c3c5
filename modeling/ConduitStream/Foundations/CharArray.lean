import ConduitStream.Foundations.ByteString

/-! # Character arrays

A C array of `n` bytes that holds a string: the bytes before the first NUL, all of them if there is
none. `CharArray.snprintf` writes a string and its NUL to the front of the array, cut so that both
fit; the string read back is the one written up to that cut (`CharArray.str_snprintf`).
`CharArray.copy` writes any bytes in the same way (`CharArray.bytes_copy`), and `CharArray.store`
overwrites a part of the array, which fails behind its end (`CharArray.store_spec`). -/

namespace ConduitStream

/-- An array of `n` bytes. -/
structure CharArray (n : ℕ) where
  bytes : Bytes
  length_eq : bytes.length = n
  deriving DecidableEq

namespace CharArray

variable {n : ℕ}

/-- All bytes zero. -/
def zero (n : ℕ) : CharArray n := ⟨List.replicate n 0, List.length_replicate⟩

/-- The string in the array. -/
def str (a : CharArray n) : Bytes := cstr a.bytes

/-- A string is no longer than its array. -/
theorem str_length_le (a : CharArray n) : a.str.length ≤ n :=
  (List.takeWhile_prefix _).length_le.trans_eq a.length_eq

/-- A string contains no NUL, since it ends in front of the first one. -/
theorem zero_notMem_str (a : CharArray n) : 0 ∉ a.str := zero_notMem_cstr a.bytes

/-- An array of zeros holds the empty string. -/
@[simp] theorem str_zero (n : ℕ) : (zero n).str = [] := by
  cases n with
  | zero => rfl
  | succ n => rfl

/-- `snprintf(a, n, "%s", s)`: as much of the string as fits, and a NUL. -/
def snprintf (a : CharArray n) (s : Bytes) : CharArray n :=
  if hn : n = 0 then a
  else
    { bytes := (cstr s).take (n - 1) ++ 0 :: a.bytes.drop (((cstr s).take (n - 1)).length + 1)
      length_eq := by
        have hlen := a.length_eq
        simp only [List.length_append, List.length_cons, List.length_drop, List.length_take]
        omega }

/-- What is read back is what was written, up to the size of the array. -/
theorem str_snprintf (a : CharArray n) (s : Bytes) : (a.snprintf s).str = (cstr s).take (n - 1) := by
  unfold snprintf
  split
  · next hn =>
      subst hn
      have hnil : a.bytes = [] := List.length_eq_zero_iff.mp a.length_eq
      rw [str, hnil]
      rfl
  · have hzero : 0 ∉ (cstr s).take (n - 1) := fun h => zero_notMem_cstr s (List.mem_of_mem_take h)
    exact cstr_append_zero hzero _

/-- Every byte that is read back has been written. -/
theorem mem_of_mem_str_snprintf {a : CharArray n} {s : Bytes} {b : UInt8}
    (h : b ∈ (a.snprintf s).str) : b ∈ s := by
  rw [str_snprintf] at h
  exact List.takeWhile_subset _ (List.mem_of_mem_take h)

/-- A string that fits is read back in full. -/
theorem str_snprintf_of_lt (a : CharArray n) {s : Bytes} (hs : 0 ∉ s) (hlen : s.length < n) :
    (a.snprintf s).str = s := by
  rw [str_snprintf, cstr_eq_self hs, List.take_of_length_le (by omega)]

/-- **A string is read back as it was written exactly if it fits together with its NUL.** -/
theorem str_snprintf_eq_iff (a : CharArray n) {s : Bytes} (hs : 0 ∉ s) (hn : n ≠ 0) :
    (a.snprintf s).str = s ↔ s.length < n := by
  rw [str_snprintf, cstr_eq_self hs, List.take_eq_self_iff]
  omega

/-- `memcpy` of as many bytes as leave room for a NUL, and the NUL. -/
def copy (a : CharArray n) (s : Bytes) : CharArray n :=
  if hn : n = 0 then a
  else
    { bytes := s.take (n - 1) ++ 0 :: a.bytes.drop ((s.take (n - 1)).length + 1)
      length_eq := by
        have hlen := a.length_eq
        simp only [List.length_append, List.length_cons, List.length_drop, List.length_take]
        omega }

/-- The array begins with what fits of the bytes, and a NUL. -/
theorem bytes_copy (a : CharArray n) (hn : n ≠ 0) (s : Bytes) :
    s.take (n - 1) ++ [0] <+: (a.copy s).bytes := by
  rw [copy, dif_neg hn]
  exact ⟨a.bytes.drop ((s.take (n - 1)).length + 1), by simp⟩

/-- Bytes without a NUL are read back up to the size of the array. -/
theorem str_copy (a : CharArray n) (hn : n ≠ 0) {s : Bytes} (hs : 0 ∉ s) :
    (a.copy s).str = s.take (n - 1) := by
  rw [copy, dif_neg hn]
  exact cstr_append_zero (fun h => hs (List.mem_of_mem_take h)) _

/-- `strncpy(a, s, n - 1)`, which fills up with zeros, and a NUL in the last byte. -/
def strncpy (a : CharArray n) (s : Bytes) : CharArray n :=
  if hn : n = 0 then a
  else
    { bytes := (cstr s).take (n - 1) ++ List.replicate (n - ((cstr s).take (n - 1)).length) 0
      length_eq := by
        simp only [List.length_append, List.length_replicate, List.length_take]
        omega }

/-- What is read back is what fits of the string. -/
theorem str_strncpy (a : CharArray n) (hn : n ≠ 0) (s : Bytes) :
    (a.strncpy s).str = (cstr s).take (n - 1) := by
  have hzero : 0 ∉ (cstr s).take (n - 1) := fun h => zero_notMem_cstr s (List.mem_of_mem_take h)
  have hpad : List.replicate (n - ((cstr s).take (n - 1)).length) (0 : UInt8)
      = 0 :: List.replicate (n - ((cstr s).take (n - 1)).length - 1) 0 := by
    rw [← List.replicate_succ]
    congr 1
    rw [List.length_take]
    omega
  rw [strncpy, dif_neg hn, str]
  dsimp only
  rw [hpad, cstr_append_zero hzero]

/-- The bytes from `i` on are overwritten, if the array has them (the target of a `memcpy`). -/
def store (a : CharArray n) (i : ℕ) (src : Bytes) : Option (CharArray n) :=
  if h : i + src.length ≤ n then
    some
      { bytes := a.bytes.take i ++ src ++ a.bytes.drop (i + src.length)
        length_eq := by
          have hlen := a.length_eq
          simp only [List.length_append, List.length_drop, List.length_take]
          omega }
  else none

/-- What has been stored stands behind what was in front of it. -/
theorem store_spec (a : CharArray n) {i : ℕ} {src : Bytes} (h : i + src.length ≤ n) :
    ∃ a', a.store i src = some a' ∧ a'.bytes.take (i + src.length) = a.bytes.take i ++ src := by
  refine ⟨_, dif_pos h, List.take_left' ?_⟩
  have hlen := a.length_eq
  rw [List.length_append, List.length_take, Nat.min_eq_left (by omega)]

/-- There is a NUL in the array. -/
def Terminated (a : CharArray n) : Prop := 0 ∈ a.bytes

/-- A terminated string leaves room for its NUL. -/
theorem str_length_lt (a : CharArray n) (h : a.Terminated) : a.str.length < n := by
  obtain ⟨s, t, hsplit⟩ := List.append_of_mem h
  have hlen := a.length_eq
  rw [hsplit, List.length_append, List.length_cons] at hlen
  have hstr : a.str.length ≤ s.length := by
    rw [str, hsplit, cstr, List.takeWhile_append]
    split
    · rw [List.takeWhile_cons_of_neg (by simp), List.append_nil]
    · exact (List.takeWhile_prefix _).length_le
  omega

/-- An array of zeros is terminated. -/
theorem terminated_zero (hn : n ≠ 0) : (zero n).Terminated :=
  List.mem_replicate.mpr ⟨hn, rfl⟩

/-- A bounded copy with the NUL set behind it terminates the array. -/
theorem terminated_strncpy (a : CharArray n) (hn : n ≠ 0) (s : Bytes) : (a.strncpy s).Terminated := by
  rw [strncpy, dif_neg hn]
  refine List.mem_append_right _ (List.mem_replicate.mpr ⟨?_, rfl⟩)
  rw [List.length_take]
  omega

/-- So does a copy of what fits. -/
theorem terminated_copy (a : CharArray n) (hn : n ≠ 0) (s : Bytes) : (a.copy s).Terminated :=
  (a.bytes_copy hn s).subset (by simp)

end CharArray

end ConduitStream
