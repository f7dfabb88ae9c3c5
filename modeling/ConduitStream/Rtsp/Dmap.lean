import ConduitStream.Foundations.CharArray
import ConduitStream.Foundations.CheckedMemory

/-! # The DMAP metadata of a SET_PARAMETER body (`dmap.c`)

`walk` reads items of a 4-byte code, a 4-byte length and a value, copies the values of three codes
into bounded strings and calls itself for the value of a `mlit` item, up to a fixed depth. The model
reads the body through checked accesses, and it counts the headers that are read and the activations
of `walk` that are live. Both lengths and offsets are those of one buffer in memory, which leaves
room for `off + 8`.

`dmapWalk_safe` is the invariant of the loop, for any bytes; the bounds of `dmap_parse` on hostile
input follow from it (`dmapParse_safe`). -/

namespace ConduitStream

/-- `DMAP_STR_MAX`. -/
def dmapStrMax : ℕ := 128

/-- `DMAP_MAX_DEPTH`. -/
def dmapMaxDepth : ℕ := 4

/-- The text items that are kept. -/
inductive DmapText where
  | title
  | artist
  | album
  deriving DecidableEq, Repr

/-- `dmap_meta_t`. -/
structure DmapMeta where
  str : DmapText → CharArray dmapStrMax
  has : DmapText → Bool

namespace DmapMeta

/-- `memset(out, 0, sizeof(*out))`. -/
def zero : DmapMeta := { str := fun _ => CharArray.zero dmapStrMax, has := fun _ => false }

/-- A value is copied, and its flag is set. -/
def store (out : DmapMeta) (f : DmapText) (src : Bytes) : DmapMeta :=
  { str := Function.update out.str f ((out.str f).copy src)
    has := Function.update out.has f true }

/-- A field holds what was stored last. -/
@[simp] theorem str_store (out : DmapMeta) (f : DmapText) (src : Bytes) :
    (out.store f src).str f = (out.str f).copy src := Function.update_self ..

/-- A field that has been stored is marked as seen. -/
@[simp] theorem has_store (out : DmapMeta) (f : DmapText) (src : Bytes) :
    (out.store f src).has f = true := Function.update_self ..

/-- The other fields stay as they are. -/
theorem store_of_ne (out : DmapMeta) {f g : DmapText} (h : g ≠ f) (src : Bytes) :
    (out.store f src).str g = out.str g ∧ (out.store f src).has g = out.has g :=
  ⟨Function.update_of_ne h _ _, Function.update_of_ne h _ _⟩

/-- Every string ends within its array. -/
def Terminated (out : DmapMeta) : Prop := ∀ f, (out.str f).Terminated

/-- The empty store is terminated, as all its bytes are NULs. -/
theorem terminated_zero : zero.Terminated := fun _ => CharArray.terminated_zero (by decide)

/-- Storing a field keeps the store terminated. -/
theorem Terminated.store {out : DmapMeta} (h : out.Terminated) (f : DmapText) (src : Bytes) :
    (out.store f src).Terminated := by
  intro g
  by_cases hg : g = f
  · subst hg
    rw [str_store]
    exact CharArray.terminated_copy _ (by decide) src
  · rw [(out.store_of_ne hg src).1]
    exact h g

end DmapMeta

/-- `DMAP_CODE`. -/
def dmapCode (a b c d : Char) : ℕ :=
  a.toNat <<< 24 ||| b.toNat <<< 16 ||| c.toNat <<< 8 ||| d.toNat

/-- `TAG_minm`, `TAG_asar` and `TAG_asal`. -/
def DmapText.code : DmapText → ℕ
  | title => dmapCode 'm' 'i' 'n' 'm'
  | artist => dmapCode 'a' 's' 'a' 'r'
  | album => dmapCode 'a' 's' 'a' 'l'

/-- `TAG_mlit`. -/
def dmapMlit : ℕ := dmapCode 'm' 'l' 'i' 't'

/-- The cases of the `switch`. -/
inductive DmapTag where
  | mlit
  | text (f : DmapText)
  | other
  deriving DecidableEq

/-- The case of a code. -/
def dmapTag (code : ℕ) : DmapTag :=
  if code = dmapMlit then .mlit
  else if code = DmapText.code .title then .text .title
  else if code = DmapText.code .artist then .text .artist
  else if code = DmapText.code .album then .text .album
  else .other

/-- `rd_be32` at offset `i`. -/
def dmapRdBe32 (buf : Bytes) (i : ℕ) : Option ℕ := do
  let a ← buf[i]?
  let b ← buf[i + 1]?
  let c ← buf[i + 2]?
  let d ← buf[i + 3]?
  return a.toNat <<< 24 ||| b.toNat <<< 16 ||| c.toNat <<< 8 ||| d.toNat

/-- The bytes `copy_str` copies from offset `i` on. -/
def dmapCopyStr (buf : Bytes) (i vlen : ℕ) : Option Bytes :=
  let n := if vlen < dmapStrMax - 1 then vlen else dmapStrMax - 1
  if n ≠ 0 then loadRange buf i n else some []

/-- What a run of `walk` has done: the strings, the number of headers read, the activations that are
live, and the most that have been live at a time. The last three only record what happened. -/
structure DmapRun where
  out : DmapMeta
  headers : ℕ
  live : ℕ
  peak : ℕ

namespace DmapRun

/-- A header is read. -/
def header (run : DmapRun) : DmapRun := { run with headers := run.headers + 1 }

/-- `walk` is called. -/
def enter (run : DmapRun) : DmapRun :=
  { run with live := run.live + 1, peak := max run.peak (run.live + 1) }

/-- `walk` returns. -/
def leave (run : DmapRun) : DmapRun := { run with live := run.live - 1 }

/-- A value is stored. -/
def store (run : DmapRun) (f : DmapText) (src : Bytes) : DmapRun :=
  { run with out := run.out.store f src }

end DmapRun

/-- The loop of `walk` at `depth`, on the bytes from `off` to before `stop`: the count it returns. -/
def dmapWalk (buf : Bytes) (off stop depth count : ℕ) (run : DmapRun) : Option (ℕ × DmapRun) :=
  if _ : off + 8 ≤ stop then do
    let code ← dmapRdBe32 buf off
    let vlen ← dmapRdBe32 buf (off + 4)
    if _ : vlen ≤ stop - (off + 8) then
      match dmapTag code with
      | .mlit =>
          if depth < dmapMaxDepth then do
            -- the value is walked by an activation of its own
            let (n, run') ← dmapWalk buf (off + 8) (off + 8 + vlen) (depth + 1) 0 run.header.enter
            dmapWalk buf (off + 8 + vlen) stop depth (count + n) run'.leave
          else dmapWalk buf (off + 8 + vlen) stop depth count run.header
      | .text f => do
          let src ← dmapCopyStr buf (off + 8) vlen
          dmapWalk buf (off + 8 + vlen) stop depth (count + 1) (run.header.store f src)
      | .other => dmapWalk buf (off + 8 + vlen) stop depth count run.header
    else return (count, run.header)
  else some (count, run)
termination_by stop - off

/-- `dmap_parse`, with its history. -/
def dmapParseRun (buf : Option Bytes) : Option (ℕ × DmapRun) :=
  let run : DmapRun := { out := .zero, headers := 0, live := 0, peak := 0 }
  match buf with
  | none => some (0, run)
  | some buf => do
      let (count, run) ← dmapWalk buf 0 buf.length 0 0 run.enter
      return (count, run.leave)

/-- `dmap_parse`: the count it returns, and `*out`. -/
def dmapParse (buf : Option Bytes) : Option (ℕ × DmapMeta) :=
  (dmapParseRun buf).map fun (count, run) => (count, run.out)

/-! ## One turn of the loop -/

/-- Four bytes inside the buffer can be read. -/
theorem dmapRdBe32_isSome {buf : Bytes} {i : ℕ} (h : i + 3 < buf.length) :
    ∃ v, dmapRdBe32 buf i = some v := by
  unfold dmapRdBe32
  rw [List.getElem?_eq_getElem (show i < buf.length by omega),
    List.getElem?_eq_getElem (show i + 1 < buf.length by omega),
    List.getElem?_eq_getElem (show i + 2 < buf.length by omega), List.getElem?_eq_getElem h]
  exact ⟨_, rfl⟩

/-- A value inside the buffer is copied as far as it fits. -/
theorem dmapCopyStr_of_le {buf : Bytes} {i vlen : ℕ} (h : i + vlen ≤ buf.length) :
    dmapCopyStr buf i vlen = some ((buf.drop i).take (min vlen (dmapStrMax - 1))) := by
  have hn : (if vlen < dmapStrMax - 1 then vlen else dmapStrMax - 1) = min vlen (dmapStrMax - 1) := by
    split <;> omega
  unfold dmapCopyStr
  rw [hn]
  dsimp only
  split
  · exact loadRange_of_le (by omega)
  · next h0 =>
      have hzero : min vlen (dmapStrMax - 1) = 0 := by omega
      rw [hzero, List.take_zero]

section Turn

variable {buf : Bytes} {off stop depth count code vlen : ℕ} {run : DmapRun}

/-- Too few bytes are left for a header. -/
theorem dmapWalk_of_short (h : stop < off + 8) :
    dmapWalk buf off stop depth count run = some (count, run) := by
  rw [dmapWalk, dif_neg (by omega)]

/-- The value would reach over the end. -/
theorem dmapWalk_of_overrun (hoff : off + 8 ≤ stop) (hcode : dmapRdBe32 buf off = some code)
    (hvlen : dmapRdBe32 buf (off + 4) = some vlen) (h : stop - (off + 8) < vlen) :
    dmapWalk buf off stop depth count run = some (count, run.header) := by
  rw [dmapWalk, dif_pos hoff, hcode, hvlen]
  exact dif_neg (by omega)

/-- The value lies in front of the end. -/
theorem dmapWalk_of_fits (hoff : off + 8 ≤ stop) (hcode : dmapRdBe32 buf off = some code)
    (hvlen : dmapRdBe32 buf (off + 4) = some vlen) (h : vlen ≤ stop - (off + 8)) :
    dmapWalk buf off stop depth count run =
      match dmapTag code with
      | .mlit =>
          if depth < dmapMaxDepth then do
            let (n, run') ← dmapWalk buf (off + 8) (off + 8 + vlen) (depth + 1) 0 run.header.enter
            dmapWalk buf (off + 8 + vlen) stop depth (count + n) run'.leave
          else dmapWalk buf (off + 8 + vlen) stop depth count run.header
      | .text f => do
          let src ← dmapCopyStr buf (off + 8) vlen
          dmapWalk buf (off + 8 + vlen) stop depth (count + 1) (run.header.store f src)
      | .other => dmapWalk buf (off + 8 + vlen) stop depth count run.header := by
  rw [dmapWalk, dif_pos hoff, hcode, hvlen]
  exact dif_pos h

end Turn

/-! ## Hostile input -/

/-- What holds of a run inside an activation at `depth` after at most `headers` headers. -/
structure DmapRun.Bounded (run : DmapRun) (depth headers : ℕ) : Prop where
  terminated : run.out.Terminated
  headers_le : run.headers ≤ headers
  live_eq : run.live = depth + 1
  peak_le : run.peak ≤ dmapMaxDepth + 1

namespace DmapRun.Bounded

variable {run : DmapRun} {depth headers : ℕ}

/-- One more header is counted, at the same depth. -/
theorem header (h : run.Bounded depth headers) : run.header.Bounded depth (headers + 1) :=
  { h with headers_le := Nat.succ_le_succ h.headers_le }

/-- Storing a field goes no deeper. -/
theorem store (h : run.Bounded depth headers) (f : DmapText) (src : Bytes) :
    (run.store f src).Bounded depth headers :=
  { h with terminated := h.terminated.store f src }

/-- Going into a container goes one level deeper. -/
theorem enter (h : run.Bounded depth headers) (hdepth : depth < dmapMaxDepth) :
    run.enter.Bounded (depth + 1) headers := by
  have hlive := h.live_eq
  refine { h with live_eq := congrArg (· + 1) hlive, peak_le := max_le h.peak_le ?_ }
  omega

/-- Leaving a container goes one level back. -/
theorem leave (h : run.Bounded (depth + 1) headers) : run.leave.Bounded depth headers :=
  { h with live_eq := congrArg (· - 1) h.live_eq }

/-- A bound on the headers may be raised. -/
theorem mono {headers' : ℕ} (h : run.Bounded depth headers) (hle : headers ≤ headers') :
    run.Bounded depth headers' :=
  { h with headers_le := h.headers_le.trans hle }

end DmapRun.Bounded

/-- **The loop is safe**: on any bytes it reads inside its range only, it returns, and it keeps the
bounds; each header it reads takes 8 bytes of the range, also those in nested values. -/
theorem dmapWalk_safe {buf : Bytes} {off stop depth headers : ℕ} {run : DmapRun} (count : ℕ)
    (hoff : off ≤ stop) (hstop : stop ≤ buf.length) (hdepth : depth ≤ dmapMaxDepth)
    (hrun : run.Bounded depth headers) :
    ∃ n run', dmapWalk buf off stop depth count run = some (n, run') ∧
      run'.Bounded depth (headers + (stop - off) / 8) := by
  -- by induction on the length of the range: a nested value and the rest behind it are shorter
  induction hn : stop - off using Nat.strong_induction_on
    generalizing off stop depth headers run count with
  | _ n ih =>
      subst hn
      by_cases hshort : stop < off + 8
      · exact ⟨count, run, dmapWalk_of_short hshort, hrun.mono (by omega)⟩
      · have hhead : off + 8 ≤ stop := by omega
        obtain ⟨code, hcode⟩ := dmapRdBe32_isSome (show off + 3 < buf.length by omega)
        obtain ⟨vlen, hvlen⟩ := dmapRdBe32_isSome (show off + 4 + 3 < buf.length by omega)
        by_cases hfits : vlen ≤ stop - (off + 8)
        · rw [dmapWalk_of_fits hhead hcode hvlen hfits]
          -- the loop goes on behind the value
          have hrest : ∀ (m headers' : ℕ) (run' : DmapRun), run'.Bounded depth headers' →
              headers' ≤ headers + 1 + vlen / 8 →
              ∃ n run'', dmapWalk buf (off + 8 + vlen) stop depth m run' = some (n, run'') ∧
                run''.Bounded depth (headers + (stop - off) / 8) := by
            intro m headers' run' hrun' hle
            obtain ⟨n, run'', hwalk, hbound⟩ :=
              ih (stop - (off + 8 + vlen)) (by omega) m (by omega) hstop hdepth hrun' rfl
            exact ⟨n, run'', hwalk, hbound.mono (by omega)⟩
          cases dmapTag code with
          | mlit =>
              dsimp only
              by_cases hdeep : depth < dmapMaxDepth
              · obtain ⟨m, run', hwalk, hbound⟩ := ih vlen (by omega) 0
                  (show off + 8 ≤ off + 8 + vlen by omega) (by omega) hdeep
                  (hrun.header.enter hdeep) (by omega)
                rw [if_pos hdeep, hwalk]
                exact hrest _ _ _ hbound.leave (by omega)
              · rw [if_neg hdeep]
                exact hrest _ _ _ hrun.header (by omega)
          | text f =>
              dsimp only
              rw [dmapCopyStr_of_le (by omega)]
              exact hrest _ _ _ (hrun.header.store f _) (by omega)
          | other => exact hrest _ _ _ hrun.header (by omega)
        · exact ⟨count, run.header, dmapWalk_of_overrun hhead hcode hvlen (by omega),
            hrun.header.mono (by omega)⟩

/-- **DMAP parsing is safe on hostile input.** For every buffer, `dmap_parse` returns without a read
outside the buffer (which would fail); never more than 5 activations of `walk` are live, at most
`5 * (len / 8)` headers are read, and each string has a NUL inside its 128 bytes. -/
theorem dmapParse_safe (buf : Bytes) :
    ∃ count run, dmapParseRun (some buf) = some (count, run) ∧ run.peak ≤ 5 ∧
      run.headers ≤ 5 * (buf.length / 8) ∧ ∀ f, (run.out.str f).Terminated := by
  have hstart : DmapRun.Bounded
      (DmapRun.enter { out := .zero, headers := 0, live := 0, peak := 0 }) 0 0 :=
    ⟨DmapMeta.terminated_zero, le_rfl, rfl, by decide⟩
  obtain ⟨count, run, hwalk, hbound⟩ :=
    dmapWalk_safe 0 (Nat.zero_le buf.length) le_rfl (Nat.zero_le _) hstart
  refine ⟨count, run.leave, ?_, hbound.peak_le, ?_, hbound.terminated⟩
  · rw [dmapParseRun]
    dsimp only
    rw [hwalk]
    rfl
  · have hle : run.headers ≤ 0 + (buf.length - 0) / 8 := hbound.headers_le
    have hsame : run.leave.headers = run.headers := rfl
    omega

end ConduitStream
