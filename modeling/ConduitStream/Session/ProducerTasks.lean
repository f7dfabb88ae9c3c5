import ConduitStream.RtpReceive.Timing
import ConduitStream.Session.Statics

/-! # The producer tasks: `rtp_task` (`raop_rtp.c`) and `diag_tone_task` (`audio_diag.c`)

The loops of the two tasks are cut at their heads: a control value says at which loop head the task
is and what remains to be done there, and one program leads from one loop head to the next. What
comes from outside (the readiness of the sockets, the datagrams, the clock, the results of the crypto
library and of the decoder, the room in the PCM ring) is a parameter of the programs. -/

namespace ConduitStream

/-- `pdMS_TO_TICKS(TIMING_INTERVAL_MS)` at `CONFIG_FREERTOS_HZ=1000`. -/
def timingIntervalTicks : BitVec 32 := 3000

/-- A socket `select` has found readable, with what `recvfrom` will answer: the datagram, `none` for
a failed call, and its source. -/
inductive Readable
  | audio (pkt : Option Bytes) (src : SockaddrIn)
  | control (pkt : Option Bytes)
  | timing (pkt : Option Bytes) (src : SockaddrIn)

/-- What the iteration of `rtp_task` still has to do once the reorder buffer is drained: whether
`handle_audio` is to look for a gap, the sockets to serve, and the tick of the last timing
request. -/
structure RtpPending where
  resend : Bool
  readable : List Readable
  lastTiming : BitVec 32

/-- Where `rtp_task` is. -/
inductive RtpCtl
  /-- There is no task. -/
  | absent
  /-- At `while (s_run)`. -/
  | loop (lastTiming : BitVec 32)
  /-- At the sockets that are still to be served. -/
  | serve (readable : List Readable) (lastTiming : BitVec 32)
  /-- At the loop of `drain_decode`. -/
  | drain (pending : RtpPending)
  /-- At the loop of `feed_pcm` or `feed_silence`, with `frames` left to feed. -/
  | feed (frames : ℕ) (pending : RtpPending)

/-- Where `diag_tone_task` is. -/
inductive DiagCtl
  /-- There is no task. -/
  | absent
  /-- At `while (s_diag_run)`. -/
  | loop
  /-- At the inner loop, with `frames` of the chunk left. -/
  | feed (frames : ℕ)

/-! ## `rtp_task` -/

/-- `send_timing_request`; `ntp` is `now_ntp64()`. -/
def sendTimingRequest (ntp : BitVec 64) : SessionProg Unit := do
  let (rx, io) ← .read .access fun s => (s.rx, s.statics.io)
  if rx.peerKnown = false ∨ io.timingFd < 0 ∨ io.clientTimingPort ≤ 0 then return ()
  .modify (.sendto .timing { rx.peer with port := BitVec.ofInt 16 io.clientTimingPort }
    (rtpTimingBuildRequest ntp)) id

/-- `rtp_task` up to its loop. -/
def rtpTaskEntry (ntp : BitVec 64) (tick : BitVec 32) : SessionProg RtpCtl := do
  let peerKnown ← .read .access (·.rx.peerKnown)
  if peerKnown then sendTimingRequest ntp
  return .loop tick

/-- The sockets an iteration serves, in its order: those of `audio`, `control` and `timing` that
`select` reports, the latter two only if there is a descriptor. -/
def readableSockets (io : RtpIo) (audio control timing : Option Readable) : List Readable :=
  audio.toList ++ (if 0 ≤ io.controlFd then control.toList else []) ++
    (if 0 ≤ io.timingFd then timing.toList else [])

/-- The answer of `select`: `none` if it fails, else the readable sockets. -/
abbrev SelectResult : Type :=
  Option (Option (Option Bytes × SockaddrIn) × Option (Option Bytes) ×
    Option (Option Bytes × SockaddrIn))

/-- `while (s_run)` and the `select` behind it, or the end of the task. -/
def rtpTaskLoop (lastTiming : BitVec 32) (r : SelectResult) : SessionProg RtpCtl := do
  let sRun ← .read .access fun s => (s.statics.tasks .raopRtp).run
  if !sRun then
    producerExit .raopRtp
    return .absent
  let io ← .read .select (·.statics.io)
  match r with
  -- `select` has failed: back to the head of the loop
  | none => return .loop lastTiming
  | some (audio, control, timing) =>
      return .serve (readableSockets io (audio.map fun a => .audio a.1 a.2) (control.map .control)
        (timing.map fun t => .timing t.1 t.2)) lastTiming

/-- `handle_audio` up to the draining of the reorder buffer. -/
def handleAudioReceive (pkt : Option Bytes) (src : SockaddrIn) (rest : List Readable)
    (lastTiming : BitVec 32) : SessionProg RtpCtl := do
  .modify (.recvfrom .audio) id
  match audioArrival pkt with
  -- no audio packet
  | none => return .serve rest lastTiming
  | some (seq, payload) =>
      .modify .reorder (·.onRx fun rx =>
        { rx with
          reorder := insertAudio (anchorIfNeeded rx.reorder seq) seq payload
          peer := if rx.peerKnown then rx.peer else src
          peerKnown := true })
      return .drain ⟨true, rest, lastTiming⟩

/-- `handle_control` up to the draining of the reorder buffer. -/
def handleControlReceive (pkt : Option Bytes) (rest : List Readable) (lastTiming : BitVec 32) :
    SessionProg RtpCtl := do
  .modify (.recvfrom .control) id
  match controlArrival pkt with
  | none => return .serve rest lastTiming
  | some (seq, payload) =>
      .modify .reorder (·.onRx fun rx =>
        { rx with reorder := insertAudio rx.reorder seq payload })
      return .drain ⟨false, rest, lastTiming⟩

/-- `handle_timing`: a request is answered, a response is discarded. -/
def handleTiming (pkt : Option Bytes) (src : SockaddrIn) (ntp : BitVec 64) : SessionProg Unit := do
  .modify (.recvfrom .timing) id
  match pkt.bind fun pkt => rtpTimingParse (pkt.take rtpRxCap) with
  | none => return ()
  | some (type, st) =>
      if type = timingReqType then
        .modify (.sendto .timing src (rtpTimingBuildResponse st.transmit ntp ntp)) id

/-- **A request of the sender is answered** with the time it was sent at as the origin: the answer parses
as a response with these stamps. -/
theorem handleTiming_request (st : TimingStamps) (src : SockaddrIn) (ntp : BitVec 64) :
    handleTiming (some (timingPkt 0xD2 st)) src ntp
        = (do
            .modify (.recvfrom .timing) id
            .modify (.sendto .timing src (rtpTimingBuildResponse st.transmit ntp ntp)) id) ∧
      rtpTimingParse (rtpTimingBuildResponse st.transmit ntp ntp)
        = some (timingRespType, ⟨st.transmit, ntp, ntp⟩) := by
  have hwhole : (timingPkt 0xD2 st).take rtpRxCap = timingPkt 0xD2 st :=
    List.take_of_length_le (by simp [timingPkt, wrBe64, rtpRxCap])
  have hparse : rtpTimingParse (timingPkt 0xD2 st) = some (timingReqType, st) :=
    rtpTimingParse_timingPkt st (.inl rfl)
  refine ⟨?_, rtpTimingParse_timingPkt _ (.inr rfl)⟩
  simp only [handleTiming, Option.bind_some, hwhole, hparse, if_true]

/-- Serve the next readable socket; behind the last one, the periodic timing request. -/
def rtpTaskServe (ntp : BitVec 64) (now lastTiming : BitVec 32) :
    List Readable → SessionProg RtpCtl
  | .audio pkt src :: rest => handleAudioReceive pkt src rest lastTiming
  | .control pkt :: rest => handleControlReceive pkt rest lastTiming
  | .timing pkt src :: rest => do
      handleTiming pkt src ntp
      return .serve rest lastTiming
  | [] => do
      let peerKnown ← .read .access (·.rx.peerKnown)
      if peerKnown ∧ timingIntervalTicks ≤ now - lastTiming then
        sendTimingRequest ntp
        return .loop now
      return .loop lastTiming

/-- `maybe_request_resend`; `now` is `xTaskGetTickCount()`. -/
def requestResend (now : BitVec 32) : SessionProg Unit := do
  let acts ← .atom .reorder
    (fun s => s.onRx fun rx => (maybeRequestResend s.statics.io rx now).1)
    (fun s => (maybeRequestResend s.statics.io s.rx now).2)
  match acts with
  | [.sendto _ dst req] => .modify (.sendto .control dst req) id
  | _ => return ()

/-- What decrypting and decoding a payload comes to: whether the crypto library succeeds, and the
number of bytes the decoder reports. -/
structure DecodeOutcome where
  decrypts : Bool
  outsize : ℤ

/-- `decode_and_feed` up to the feeding: the number of frames to feed. -/
def decodeFrames (payload : Bytes) (o : DecodeOutcome) : SessionProg ℕ := do
  if payload.length = 0 ∨ rtpRxCap < payload.length then return 0
  if payload.length < 16 then
    -- no full AES block: the payload is in the clear
    .modify .decode id
  else
    .modify .decrypt id
    if !o.decrypts then return 0
    .modify .decode id
  let numChannels ← .read .access (·.statics.numChannels)
  return o.outsize.toNat / (numChannels.toNat * 2)

/-- One round of `drain_decode`. -/
def rtpTaskDrain (o : DecodeOutcome) (now : BitVec 32) (pending : RtpPending) :
    SessionProg RtpCtl := do
  let r ← .atom .reorder
    (·.onRx fun rx => { rx with reorder := (rtpReorderPop rx.reorder rtpReorderMaxPkt).1 })
    (fun s => (rtpReorderPop s.rx.reorder rtpReorderMaxPkt).2)
  match r with
  | .ok payload _ =>
      let frames ← decodeFrames payload o
      return .feed frames pending
  | .conceal =>
      let frameLength ← .read .access (·.statics.frameLength)
      return .feed frameLength.toNat pending
  | _ =>
      if pending.resend then requestResend now
      return .serve pending.readable pending.lastTiming

/-- One round of a loop that feeds the audio path: the frames left afterwards, `none` once the loop
has ended. `accepted` is what the ring takes of them; the smaller pieces in which `feed_silence` hands
over its frames are rounds in which it takes less. -/
def feedRound (p : Producer) (frames accepted : ℕ) : SessionProg (Option ℕ) := do
  if frames = 0 then return none
  let run ← .read .access fun s => (s.statics.tasks p).run
  if !run then return none
  .modify .playPcm id
  return some (frames - min accepted frames)

/-- One round of `feed_pcm` or `feed_silence`. -/
def rtpTaskFeed (frames accepted : ℕ) (pending : RtpPending) : SessionProg RtpCtl := do
  let left ← feedRound .raopRtp frames accepted
  match left with
  | some frames => return .feed frames pending
  | none => return .drain pending

/-! ## `diag_tone_task` -/

/-- `DIAG_CHUNK`. -/
def diagChunk : ℕ := 256

/-- `while (s_diag_run)`, or the end of the task. -/
def diagToneLoop : SessionProg DiagCtl := do
  let sDiagRun ← .read .access fun s => (s.statics.tasks .diagTone).run
  if !sDiagRun then
    producerExit .diagTone
    return .absent
  return .feed diagChunk

/-- One round of the inner loop. -/
def diagToneFeed (frames accepted : ℕ) : SessionProg DiagCtl := do
  let left ← feedRound .diagTone frames accepted
  match left with
  | some frames => return .feed frames
  | none => return .loop

end ConduitStream
