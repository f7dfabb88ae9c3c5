import Mathlib.Data.List.Basic
import ConduitStream.Foundations.AtomicProgram

/-! # The PCM ring (`audio_ringbuf.c`) and its two tasks

One producer task (`feed_pcm`, through `audio_play_pcm`) and one consumer task (the playback task)
share the ring. Each function is a program of atomic steps: a snapshot of `head`, a snapshot of
`tail`, the copy of one frame, the publication of the own index. A frame is a stereo sample pair;
the ring never looks into it. `capacity` is set once by `audio_ringbuf_init` and is a parameter;
the sizes are natural numbers, since the storage of `4 * capacity` bytes exists and no index
computation exceeds `2 * capacity`.

Four fields of the state are history: they record what has happened and no step depends on them. -/

namespace ConduitStream

/-- The two tasks on the ring. -/
inductive RingSide
  | producer
  | consumer
  deriving DecidableEq, Repr

/-- `audio_ringbuf_t`, with history. -/
structure AudioRingbuf (φ : Type) where
  /-- Caller-owned frame slots. -/
  storage : ℕ → φ
  /-- Published by the producer. -/
  head : ℕ
  /-- Published by the consumer. -/
  tail : ℕ
  /-- History: the frames published by the producer, in order. -/
  fed : List φ
  /-- History: the frames the consumer has read or dropped, in order. -/
  taken : List φ
  /-- History: how many frames had been published at the consumer's last snapshot of `head`. -/
  seen : ℕ
  /-- History: the frames handed to `feed_pcm`, in order, less what it gave up when `s_run` was
  cleared. -/
  input : List φ

/-- The kinds of atomic steps. -/
inductive RingStep (φ : Type)
  | snapHead
  | snapTail
  | copyIn (slot : ℕ) (f : φ)
  | copyOut (slot : ℕ)
  | publishHead
  | publishTail
  | feed
  | giveUp

/-- A program on the ring. -/
abbrev RingProg (φ : Type) (α : Type) : Type := Prog (AudioRingbuf φ) (RingStep φ) α

section Steps

variable {φ : Type}

/-- Snapshot of `head`. -/
def snapHead (who : RingSide) : RingProg φ ℕ :=
  .atom .snapHead (fun s => if who = .consumer then { s with seen := s.fed.length } else s) (·.head)

/-- Snapshot of `tail`. -/
def snapTail : RingProg φ ℕ := .read .snapTail (·.tail)

/-- `memcpy` of frames into consecutive slots, one frame a step. -/
def copyIn : ℕ → List φ → RingProg φ Unit
  | _, [] => pure ()
  | slot, f :: fs => do
      Prog.modify (.copyIn slot f) fun s => { s with storage := Function.update s.storage slot f }
      copyIn (slot + 1) fs

/-- `memcpy` of frames out of consecutive slots, one frame a step. -/
def copyOut : ℕ → ℕ → RingProg φ (List φ)
  | _, 0 => pure []
  | slot, n + 1 => do
      let f ← Prog.read (.copyOut slot) fun s => s.storage slot
      let fs ← copyOut (slot + 1) n
      pure (f :: fs)

/-- The producer publishes `head` over the frames it has copied in. -/
def publishHead (head : ℕ) (frames : List φ) : RingProg φ Unit :=
  .modify .publishHead fun s => { s with head := head, fed := s.fed ++ frames }

/-- The consumer publishes `tail` over the frames `frames s`. -/
def publishTail (tail : ℕ) (frames : AudioRingbuf φ → List φ) : RingProg φ Unit :=
  .modify .publishTail fun s => { s with tail := tail, taken := s.taken ++ frames s }

end Steps

/-! ## The functions of the ring -/

section Functions

variable {φ : Type} (capacity : ℕ)

/-- The frames between the two indices. -/
def framesBetween (head tail : ℕ) : ℕ :=
  if tail ≤ head then head - tail else capacity - tail + head

/-- An index that may have run past the end, brought back once. -/
def wrapIndex (i : ℕ) : ℕ := if capacity ≤ i then i - capacity else i

/-- `audio_ringbuf_available`. -/
def audioRingbufAvailable (who : RingSide) : RingProg φ ℕ := do
  let head ← snapHead who
  let tail ← snapTail
  pure (framesBetween capacity head tail)

/-- `audio_ringbuf_free_space`. -/
def audioRingbufFreeSpace (who : RingSide) : RingProg φ ℕ := do
  let available ← audioRingbufAvailable capacity who
  pure (capacity - 1 - available)

/-- `audio_ringbuf_write`: the number of frames written. -/
def audioRingbufWrite (frames : List φ) : RingProg φ ℕ := do
  let space ← audioRingbufFreeSpace capacity .producer
  let n := min frames.length space
  if n = 0 then pure 0
  else do
    let head ← snapHead .producer
    let first := min (capacity - head) n
    copyIn head (frames.take first)
    copyIn 0 ((frames.take n).drop first)
    publishHead (wrapIndex capacity (head + n)) (frames.take n)
    pure n

/-- `audio_ringbuf_read`: the frames copied out. -/
def audioRingbufRead (nFrames : ℕ) : RingProg φ (List φ) := do
  let avail ← audioRingbufAvailable capacity .consumer
  let n := min nFrames avail
  if n = 0 then pure []
  else do
    let tail ← snapTail
    let first := min (capacity - tail) n
    let out₁ ← copyOut tail first
    let out₂ ← copyOut 0 (n - first)
    publishTail (wrapIndex capacity (tail + n)) fun _ => out₁ ++ out₂
    pure (out₁ ++ out₂)

/-- `audio_ringbuf_drop`: the number of frames dropped, which are those in the slots from `tail`
on. -/
def audioRingbufDrop (n : ℕ) : RingProg φ ℕ := do
  let avail ← audioRingbufAvailable capacity .consumer
  let n := min n avail
  let tail ← snapTail
  publishTail (wrapIndex capacity (tail + n)) fun s =>
    (List.range n).map fun i => s.storage ((tail + i) % capacity)
  pure n

/-- `audio_ringbuf_first_frame`: `none` for false. -/
def audioRingbufFirstFrame : RingProg φ (Option φ) := do
  let avail ← audioRingbufAvailable capacity .consumer
  if avail = 0 then pure none
  else do
    let tail ← snapTail
    let f ← Prog.read (.copyOut tail) fun s => s.storage tail
    pure (some f)

/-! ## The two tasks -/

/-- Where the producer is: between two calls of `feed_pcm`, or in front of the loop condition of
one. -/
inductive FeedPcm (φ : Type)
  | idle
  | feeding (pcm : List φ) (off : ℕ)

/-- Enter `feed_pcm`. -/
def feedPcm (pcm : List φ) : RingProg φ (FeedPcm φ) := do
  Prog.modify .feed fun s => { s with input := s.input ++ pcm }
  pure (.feeding pcm 0)

/-- One round of `while (off < frames && s_run)`; `sRun` is the value of `s_run` it reads, which
other tasks may clear at any time. -/
def feedPcmRound (sRun : Bool) (pcm : List φ) (off : ℕ) : RingProg φ (FeedPcm φ) :=
  if off < pcm.length then
    if sRun then do
      let n ← audioRingbufWrite capacity (pcm.drop off)
      pure (.feeding pcm (off + n))
    else do
      Prog.modify .giveUp fun s =>
        { s with input := s.input.take (s.input.length - (pcm.length - off)) }
      pure .idle
  else pure .idle

/-- The control values of the two tasks. -/
def RingCtl (φ : Type) : RingSide → Type
  | .producer => FeedPcm φ
  | .consumer => Unit

/-- The programs of the two tasks: the producer calls `feed_pcm` on any blocks, the consumer any
function of the ring with any sizes. -/
inductive RingCode {φ : Type} (capacity : ℕ) :
    (who : RingSide) → RingCtl φ who → AudioRingbuf φ → RingProg φ (RingCtl φ who) → Prop
  | feed (pcm : List φ) (s : AudioRingbuf φ) :
      RingCode capacity .producer FeedPcm.idle s (feedPcm pcm)
  | round (sRun : Bool) (pcm : List φ) (off : ℕ) (s : AudioRingbuf φ) :
      RingCode capacity .producer (FeedPcm.feeding pcm off) s (feedPcmRound capacity sRun pcm off)
  | available (s : AudioRingbuf φ) :
      RingCode capacity .consumer () s ((audioRingbufAvailable capacity .consumer).bind fun _ => .ret ())
  | read (n : ℕ) (s : AudioRingbuf φ) :
      RingCode capacity .consumer () s ((audioRingbufRead capacity n).bind fun _ => .ret ())
  | drop (n : ℕ) (s : AudioRingbuf φ) :
      RingCode capacity .consumer () s ((audioRingbufDrop capacity n).bind fun _ => .ret ())
  | firstFrame (s : AudioRingbuf φ) :
      RingCode capacity .consumer () s ((audioRingbufFirstFrame capacity).bind fun _ => .ret ())

/-- The ring with its two tasks. -/
def ringSystem (φ : Type) : System (AudioRingbuf φ) (RingStep φ) RingSide (RingCtl φ) where
  code := RingCode capacity

/-- `audio_ringbuf_init`: the ring is empty and both tasks are between two calls. -/
def audioRingbufInit {φ : Type} (storage : ℕ → φ) :
    Config (AudioRingbuf φ) (RingStep φ) RingSide (RingCtl φ) where
  st := { storage := storage, head := 0, tail := 0, fed := [], taken := [], seen := 0, input := [] }
  th
    | .producer => .ret FeedPcm.idle
    | .consumer => .ret ()

end Functions

/-! ## Calls made alone -/

section Alone

variable {φ : Type} {capacity : ℕ}

/-- The slots behind a copy of frames into consecutive ones from `slot` on. -/
def storeFrames (storage : ℕ → φ) : ℕ → List φ → ℕ → φ
  | _, [] => storage
  | slot, f :: fs => storeFrames (Function.update storage slot f) (slot + 1) fs

/-- A slot behind the frames before it keeps what it holds. -/
theorem storeFrames_of_lt (storage : ℕ → φ) {slot i : ℕ} (hi : i < slot) (fs : List φ) :
    storeFrames storage slot fs i = storage i := by
  induction fs generalizing storage slot with
  | nil => rfl
  | cons f fs ih =>
      rw [storeFrames, ih _ (by omega), Function.update_of_ne (by omega)]

/-- The slots copied into hold the frames. -/
theorem storeFrames_add (storage : ℕ → φ) (slot : ℕ) {fs : List φ} {i : ℕ} (hi : i < fs.length) :
    storeFrames storage slot fs (slot + i) = fs[i] := by
  induction fs generalizing storage slot i with
  | nil => cases hi
  | cons f fs ih =>
      rw [storeFrames]
      cases i with
      | zero => rw [storeFrames_of_lt _ (by omega), Nat.add_zero, Function.update_self, List.getElem_cons_zero]
      | succ i =>
          rw [List.length_cons] at hi
          rw [← Nat.add_assoc, Nat.add_right_comm, ih _ _ (by omega), List.getElem_cons_succ]

/-- Copying a block in, made alone, stores its frames slot by slot. -/
theorem runAlone_copyIn (slot : ℕ) (fs : List φ) (s : AudioRingbuf φ) :
    (copyIn slot fs).runAlone s = some ((), { s with storage := storeFrames s.storage slot fs }) := by
  induction fs generalizing slot s with
  | nil => rfl
  | cons f fs ih => exact ih (slot + 1) _

/-- Copying out, made alone: the frames in the slots from `slot` on. -/
theorem runAlone_copyOut (slot n : ℕ) (s : AudioRingbuf φ) :
    (copyOut slot n).runAlone s = some ((List.range n).map fun i => s.storage (slot + i), s) := by
  induction n generalizing slot with
  | zero => rfl
  | succ n ih =>
      refine (Prog.runAlone_bind (ih (slot + 1))).trans ?_
      have hmap : (List.range (n + 1)).map (fun i => s.storage (slot + i))
          = s.storage slot :: (List.range n).map fun i => s.storage (slot + 1 + i) := by
        rw [List.range_succ_eq_map, List.map_cons, List.map_map]
        refine congrArg (_ :: ·) (List.map_congr_left fun i _ => ?_)
        rw [Function.comp_apply, Nat.succ_eq_add_one, Nat.add_right_comm, Nat.add_assoc slot i 1]
      rw [hmap]
      rfl

/-- Made alone, with room for all frames and no wrap, `audio_ringbuf_write` writes them all. -/
theorem audioRingbufWrite_alone {s : AudioRingbuf φ} {frames : List φ} (hpos : 0 < frames.length)
    (hroom : frames.length ≤ capacity - 1 - framesBetween capacity s.head s.tail)
    (hend : s.head + frames.length < capacity) :
    (audioRingbufWrite capacity frames).runAlone s = some (frames.length,
      { s with
        storage := storeFrames s.storage s.head frames
        head := s.head + frames.length
        fed := s.fed ++ frames }) := by
  have hspace : (audioRingbufFreeSpace (φ := φ) capacity .producer).runAlone s
      = some (capacity - 1 - framesBetween capacity s.head s.tail, s) := rfl
  refine (Prog.runAlone_bind hspace).trans ?_
  dsimp only
  rw [Nat.min_eq_left hroom, if_neg (by omega)]
  have hhead : (snapHead (φ := φ) .producer).runAlone s = some (s.head, s) := rfl
  refine (Prog.runAlone_bind hhead).trans ?_
  rw [Nat.min_eq_right (by omega), List.take_length, List.drop_length]
  refine (Prog.runAlone_bind (runAlone_copyIn s.head frames s)).trans ?_
  rw [wrapIndex, if_neg (by omega)]
  rfl

/-- Made alone, with enough frames to read and no wrap, `audio_ringbuf_read` reads as many as asked for. -/
theorem audioRingbufRead_alone {s : AudioRingbuf φ} {n : ℕ} (hpos : 0 < n)
    (havail : n ≤ framesBetween capacity s.head s.tail) (hend : s.tail + n < capacity) :
    (audioRingbufRead capacity n).runAlone s = some ((List.range n).map fun i => s.storage (s.tail + i),
      { s with
        tail := s.tail + n
        taken := s.taken ++ (List.range n).map fun i => s.storage (s.tail + i)
        seen := s.fed.length }) := by
  have hlook : (audioRingbufAvailable (φ := φ) capacity .consumer).runAlone s
      = some (framesBetween capacity s.head s.tail, { s with seen := s.fed.length }) := rfl
  refine (Prog.runAlone_bind hlook).trans ?_
  dsimp only
  rw [Nat.min_eq_left havail, if_neg (by omega)]
  have htail : snapTail.runAlone { s with seen := s.fed.length }
      = some (s.tail, { s with seen := s.fed.length }) := rfl
  refine (Prog.runAlone_bind htail).trans ?_
  rw [Nat.min_eq_right (by omega), Nat.sub_self]
  refine (Prog.runAlone_bind (runAlone_copyOut s.tail n _)).trans ?_
  refine (Prog.runAlone_bind (p := copyOut 0 0) (a := []) rfl).trans ?_
  rw [wrapIndex, if_neg (by omega), List.append_nil]
  rfl

end Alone

end ConduitStream
