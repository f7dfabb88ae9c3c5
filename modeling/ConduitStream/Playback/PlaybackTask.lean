import ConduitStream.AudioRing.RingBuffer
import ConduitStream.Playback.Samples

/-! # The playback task (`audio_playback.c`, `audio_drift.c`)

The consumer of the PCM ring. A round of its endless loop looks at the fill of the ring, waits for
the prefill while it is not primed, drops or repeats at most one frame, and writes a chunk of frames
or of silence to I2S, which accepts all it is given. The control value of the task is the flag
`primed` with the record of the rounds made so far; no round depends on the record. The counters and
log lines of the crackle diagnosis are left out, nothing reads them. -/

namespace ConduitStream

/-- `PLAYBACK_CHUNK_FRAMES`. -/
def playbackChunkFrames : ℕ := 256

/-- `AUDIO_SAMPLE_RATE_HZ`. -/
def audioSampleRateHz : ℕ := 44100

/-- `PLAYBACK_PREFILL_FRAMES`. -/
def playbackPrefillFrames : ℕ := audioSampleRateHz / 4

/-! ## The drift safeguard -/

/-- `audio_drift_action_t`. -/
inductive AudioDriftAction
  | none
  | drop
  | dup
  deriving DecidableEq, Repr

/-- `audio_drift_cfg_t`. -/
structure AudioDriftCfg where
  high : ℕ
  low : ℕ

/-- `audio_drift_decide`. -/
def audioDriftDecide (avail : ℕ) (cfg : AudioDriftCfg) : AudioDriftAction :=
  if avail = 0 then .none
  else if cfg.high ≤ avail then .drop
  else if avail ≤ cfg.low then .dup
  else .none

/-- `drift_cfg` of the playback task. -/
def driftCfg (capacity : ℕ) : AudioDriftCfg where
  high := capacity - 1
  low := playbackChunkFrames

/-! ## What is written to I2S -/

/-- The calls of `audio_i2s_write` in the task: the buffer of silence, the repeated frame, the
chunk read from the ring. -/
inductive WriteSite
  | silence
  | dup
  | chunk
  deriving DecidableEq, Repr

/-- A call of `audio_i2s_write`. -/
structure I2sWrite where
  site : WriteSite
  frames : List StereoFrame
  deriving DecidableEq

/-- `audio_i2s_write(silence, PLAYBACK_CHUNK_FRAMES)`. -/
def writeSilence : I2sWrite where
  site := .silence
  frames := List.replicate playbackChunkFrames (0, 0)

/-- The record of one round of the loop. -/
structure PlaybackCycle where
  /-- `primed` at the start of the round. -/
  entered : Bool
  /-- The gain read at the start of the round. -/
  fix : BitVec 32
  /-- `avail`. -/
  avail : ℕ
  /-- How many frames the task had taken from the ring before the round. -/
  position : ℕ
  /-- How many frames the producer had published at the snapshot `avail` was made from. -/
  published : ℕ
  /-- `primed` behind the prefill gate. -/
  primed : Bool
  /-- How many frames `audio_ringbuf_drop` dropped. -/
  dropped : ℕ
  /-- What `audio_ringbuf_read` returned; `none` if the gate ended the round before it. -/
  got : Option ℕ
  /-- What the round wrote to I2S, in order. -/
  writes : List I2sWrite
  /-- `primed` at the end of the round. -/
  left : Bool
  deriving DecidableEq

/-- The task in front of a round. -/
structure PlaybackTask where
  primed : Bool
  /-- The rounds made so far. -/
  cycles : List PlaybackCycle

/-- The task behind a round. -/
def PlaybackTask.finish (k : PlaybackTask) (cy : PlaybackCycle) : PlaybackTask where
  primed := cy.left
  cycles := k.cycles ++ [cy]

/-! ## The round -/

section Round

variable (capacity : ℕ) (monoOutput : Bool)

/-- For the record: the frames taken, and those published at the last snapshot of `head`. -/
def readHistory : RingProg StereoFrame (ℕ × ℕ) :=
  .read .snapTail fun s => (s.taken.length, s.seen)

/-- The switch on the drift action: the number of frames dropped, and what is written to I2S. -/
def correctDrift (fix : BitVec 32) : AudioDriftAction → RingProg StereoFrame (ℕ × List I2sWrite)
  | .drop => do
      let n ← audioRingbufDrop capacity 1
      pure (n, [])
  | .dup => do
      let f ← audioRingbufFirstFrame capacity
      match f with
      | some f => pure (0, [⟨.dup, withGain fix [f]⟩])
      | none => pure (0, [])
  | .none => pure (0, [])

/-- A round of the loop of `audio_playback_task`, with the gain `audio_playback_fix_q16` returns in
it. -/
def playbackCycle (fix : BitVec 32) (k : PlaybackTask) : RingProg StereoFrame PlaybackTask := do
  let avail ← audioRingbufAvailable capacity .consumer
  let history ← readHistory
  let position := history.1
  let published := history.2
  if k.primed = false ∧ avail < playbackPrefillFrames then
    pure (k.finish
      { entered := k.primed, fix, avail, position, published, primed := false, dropped := 0,
        got := none, writes := [writeSilence], left := false })
  else do
    let correction ← correctDrift capacity fix (audioDriftDecide avail (driftCfg capacity))
    let chunk ← audioRingbufRead capacity playbackChunkFrames
    if 0 < chunk.length then
      pure (k.finish
        { entered := k.primed, fix, avail, position, published, primed := true,
          dropped := correction.1, got := some chunk.length,
          writes := correction.2 ++ [⟨.chunk, withGain fix (audioMixMono monoOutput chunk)⟩],
          left := true })
    else
      pure (k.finish
        { entered := k.primed, fix, avail, position, published, primed := true,
          dropped := correction.1, got := some chunk.length,
          writes := correction.2 ++ [writeSilence], left := false })

/-! ## The system -/

/-- The control values of the producer and the playback task. -/
def PlaybackCtl : RingSide → Type
  | .producer => FeedPcm StereoFrame
  | .consumer => PlaybackTask

/-- The programs of the two tasks: the producer calls `feed_pcm` on any blocks, the playback task
makes its rounds, with any gain in each. -/
inductive PlaybackCode : (who : RingSide) → PlaybackCtl who → AudioRingbuf StereoFrame →
    RingProg StereoFrame (PlaybackCtl who) → Prop
  | feed (pcm : List StereoFrame) (s : AudioRingbuf StereoFrame) :
      PlaybackCode .producer FeedPcm.idle s (feedPcm pcm)
  | round (sRun : Bool) (pcm : List StereoFrame) (off : ℕ) (s : AudioRingbuf StereoFrame) :
      PlaybackCode .producer (FeedPcm.feeding pcm off) s (feedPcmRound capacity sRun pcm off)
  | cycle (fix : BitVec 32) (k : PlaybackTask) (s : AudioRingbuf StereoFrame) :
      PlaybackCode .consumer k s (playbackCycle capacity monoOutput fix k)

/-- The ring with its producer and the playback task. -/
def playbackSystem : System (AudioRingbuf StereoFrame) (RingStep StereoFrame) RingSide PlaybackCtl
    where
  code := PlaybackCode capacity monoOutput

/-- Both tasks between two programs, on a given ring. -/
def playbackStart (ring : AudioRingbuf StereoFrame) (primed : Bool) :
    Config (AudioRingbuf StereoFrame) (RingStep StereoFrame) RingSide PlaybackCtl where
  st := ring
  th
    | .producer => .ret FeedPcm.idle
    | .consumer => .ret { primed := primed, cycles := [] }

/-- The task as it starts, on the ring `audio_ringbuf_init` leaves. -/
def playbackInit (storage : ℕ → StereoFrame) :
    Config (AudioRingbuf StereoFrame) (RingStep StereoFrame) RingSide PlaybackCtl :=
  playbackStart (audioRingbufInit storage).st false

end Round

end ConduitStream
