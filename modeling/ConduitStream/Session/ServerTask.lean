import ConduitStream.Rtsp.ReceiveLoop
import ConduitStream.Rtsp.Transport
import ConduitStream.Session.Statics

/-! # The RTSP task: sessions, and starting and stopping the producers

The functions of `rtsp_session.c`, `raop_rtp_start` and `raop_rtp_stop`, `audio_diag_tone_start` and
`audio_diag_tone_stop`, and on top of them the request handlers and the events of `server_task`
(`raop.c`). Whatever the outside decides (the results of socket calls, of the crypto library, of
memory allocation and of task creation) is a parameter.

The volume and the metadata store that SET_PARAMETER and `session_teardown_full` write, the status LED
and the texts of the responses are no part of the session and left out. -/

namespace ConduitStream

/-! ## The UDP sockets (`rtsp_session.c`) -/

/-- Close the socket of a role, if there is one: one round of the loop of
`raop_session_close_udp`. -/
def closeRole (role : UdpRole) : SessionProg Unit := do
  let fd ← .read .access (·.statics.session.fd role)
  if 0 ≤ fd then
    .modify (.close fd) (·.onStatics fun s => { s with udp := s.udp.erase fd })
    .modify .access (·.onStatics (·.onSession fun r =>
      { r with fd := Function.update r.fd role (-1) }))

/-- `raop_session_close_udp`. -/
def raopSessionCloseUdp : SessionProg Unit := do
  closeRole .audio
  closeRole .control
  closeRole .timing
  .modify .access (·.onStatics (·.onSession ({ · with port := fun _ => 0 })))

/-- `raop_session_reset`. -/
def raopSessionReset : SessionProg Unit := do
  raopSessionCloseUdp
  .modify .access (·.onStatics (·.onSession fun _ => .cleared))

/-- What comes of a call of `bind_one`. -/
inductive BindOutcome
  /-- `socket` fails. -/
  | noSocket
  /-- `socket` returns `fd`, but `bind` or `getsockname` fails. -/
  | unbound (fd : ℕ)
  /-- The socket `fd` is bound to `port`. -/
  | bound (fd : ℕ) (port : BitVec 16)
  deriving DecidableEq, Repr

/-- `socket`, which returns a descriptor that is not in use. -/
def openSocket (fd : ℕ) : SessionProg Unit :=
  .await (.socket fd) (fun s => decide ((fd : ℤ) ∉ s.statics.udp))
    (·.onStatics fun s => { s with udp := insert (fd : ℤ) s.udp })

/-- `bind_one`: the descriptor, and the port if it is written. -/
def bindOne : BindOutcome → SessionProg (ℤ × Option (BitVec 16))
  | .noSocket => return (-1, none)
  | .unbound fd => do
      openSocket fd
      .modify (.close fd) (·.onStatics fun s => { s with udp := s.udp.erase (fd : ℤ) })
      return (-1, none)
  | .bound fd port => do
      openSocket fd
      return (fd, some port)

/-- `s->fd = bind_one(&s->port)` for one role. -/
def bindRole (role : UdpRole) (o : BindOutcome) : SessionProg Unit := do
  let (fd, port) ← bindOne o
  .modify .access (·.onStatics (·.onSession fun r =>
    { r with
      fd := Function.update r.fd role fd
      port := Function.update r.port role (port.getD (r.port role)) }))

/-- `raop_session_bind_udp`. -/
def raopSessionBindUdp (binds : UdpRole → BindOutcome) : SessionProg ℤ := do
  -- what the descriptors named before is not looked at
  bindRole .audio (binds .audio)
  bindRole .control (binds .control)
  bindRole .timing (binds .timing)
  let fd ← .read .access (·.statics.session.fd)
  if fd .audio < 0 ∨ fd .control < 0 ∨ fd .timing < 0 then
    raopSessionCloseUdp
    return -1
  return 0

/-! ## The RTP task (`raop_rtp.c`) -/

/-- `teardown_crypto_decoder`; releasing what is not there does nothing. -/
def teardownCryptoDecoder : SessionProg Unit := do
  .modify .free (·.onStatics ({ · with aesKey := none }))
  .modify .free (·.onStatics ({ · with alac := none }))
  .modify .free (·.onStatics ({ · with slots := false }))

/-- The outside of `raop_rtp_start`: whether `alac_create` and `psa_import_key` succeed, the reorder
slots as allocated, and whether the task can be created. -/
structure StartOutcome where
  alacCreate : Bool
  importKey : Bool
  malloc : Option (ℕ → RtpReorderSlot)
  createTask : Bool

/-- `xTaskCreatePinnedToCore`, which stores the handle before the new task is scheduled. -/
def createTask (p : Producer) : SessionProg Unit :=
  .modify .access (·.onStatics (·.onTask p ({ · with task := true, alive := true })))

/-- `raop_rtp_start` from the allocation of the slots on. -/
def raopRtpStartTask (s : RaopSession) (slots : ℕ → RtpReorderSlot) (created : Bool) :
    SessionProg ℤ := do
  .modify .access (·.onStatics ({ · with slots := true }))
  .modify .access fun w => (w.onRx (·.start slots s.clientIp)).onStatics ({ · with
    iv := s.aesiv
    io := ⟨s.fd .audio, s.fd .control, s.fd .timing, s.clientControlPort, s.clientTimingPort⟩ })
  -- the slot is claimed before the task can run
  let acquired ← audioProducerAcquire .raopRtp
  if !acquired then
    teardownCryptoDecoder
    return -1
  .modify .access (·.onStatics (·.onTask .raopRtp ({ · with run := true })))
  .modify .access (·.onStatics (·.onTask .raopRtp ({ · with done := false })))
  if !created then
    audioProducerRelease
    .modify .access (·.onStatics (·.onTask .raopRtp ({ · with run := false })))
    .modify .access (·.onStatics (·.onTask .raopRtp ({ · with task := false })))
    teardownCryptoDecoder
    return -1
  createTask .raopRtp
  return 0

/-- `raop_rtp_start` from the import of the key on. -/
def raopRtpStartKey (s : RaopSession) (o : StartOutcome) : SessionProg ℤ := do
  if !o.importKey then
    teardownCryptoDecoder
    return -1
  .modify .access (·.onStatics ({ · with aesKey := some s.aeskey }))
  match o.malloc with
  | none =>
      teardownCryptoDecoder
      return -1
  | some slots => raopRtpStartTask s slots o.createTask

/-- `raop_rtp_start`. -/
def raopRtpStart (o : StartOutcome) : SessionProg ℤ := do
  let running ← .read .access fun s => (s.statics.tasks .raopRtp).task
  if running then return -1
  let s ← .read .access (·.statics.session)
  if s.haveKey = false ∨ s.fd .audio < 0 then return -1
  match buildDecoder s.fmtp o.alacCreate with
  | none => return -1
  | some c =>
      .modify .access (·.onStatics ({ · with
        alac := some c, numChannels := c.numChannels, frameLength := c.frameLength.setWidth 16 }))
      raopRtpStartKey s o

/-- Ask a producer task to end and wait until it has. -/
def joinProducer (p : Producer) : SessionProg Unit := do
  .modify .access (·.onStatics (·.onTask p ({ · with run := false })))
  -- `while (!s_done) vTaskDelay(1)`
  .await .access (fun s => (s.statics.tasks p).done) id

/-- `raop_rtp_stop`. -/
def raopRtpStop : SessionProg Bool := do
  let running ← .read .access fun s => (s.statics.tasks .raopRtp).task
  if !running then
    -- clean up what a failed start may have left
    teardownCryptoDecoder
    return false
  joinProducer .raopRtp
  teardownCryptoDecoder
  .modify .access fun w => (w.onRx ({ · with peerKnown := false })).onStatics fun s =>
    { s with io := { s.io with audioFd := -1, controlFd := -1, timingFd := -1 } }
  return true

/-! ### What a start is made of -/

section Closed

variable {P : ∀ {α : Type}, SessionProg α → Prop} {allowed : SessionStep → Prop}
  (hP : Prog.IsClosed P allowed) (haccess : allowed .access) (hfree : allowed .free)
  (hrelease : allowed .release)
include hP hfree

/-- Releasing the crypto and the decoder belongs to the class. -/
theorem closed_teardownCryptoDecoder : P teardownCryptoDecoder :=
  hP.bind (hP.atom hfree) fun _ => hP.bind (hP.atom hfree) fun _ => hP.atom hfree

/-- A start that fails releases what it has allocated. -/
theorem closed_failedStart : P (do teardownCryptoDecoder; return (-1 : ℤ)) :=
  hP.bind (closed_teardownCryptoDecoder hP hfree) fun _ => hP.pure _

include haccess hrelease

/-- So does starting the RTP task. -/
theorem closed_raopRtpStartTask (s : RaopSession) (slots : ℕ → RtpReorderSlot) (created : Bool) :
    P (raopRtpStartTask s slots created) := by
  have hacquire : P (audioProducerAcquire .raopRtp) := by
    refine hP.bind (hP.atom haccess) fun held => ?_
    exact hP.ite (hP.pure _) (hP.bind (hP.atom haccess) fun _ => hP.pure _)
  have hgive : P audioProducerRelease :=
    hP.bind (hP.atom haccess) fun _ => hP.atom hrelease
  refine hP.bind (hP.atom haccess) fun _ => ?_
  refine hP.bind (hP.atom haccess) fun _ => ?_
  refine hP.bind hacquire fun acquired => ?_
  refine hP.ite (closed_failedStart hP hfree) ?_
  refine hP.bind (hP.atom haccess) fun _ => ?_
  refine hP.bind (hP.atom haccess) fun _ => ?_
  refine hP.ite ?_ (hP.bind (hP.atom haccess) fun _ => hP.pure _)
  refine hP.bind hgive fun _ => ?_
  refine hP.bind (hP.atom haccess) fun _ => ?_
  exact hP.bind (hP.atom haccess) fun _ => closed_failedStart hP hfree

/-- **`raop_rtp_start` waits for nothing**, and is made of accesses and releases. -/
theorem closed_raopRtpStart (o : StartOutcome) : P (raopRtpStart o) := by
  have hkey : ∀ s, P (raopRtpStartKey s o) := by
    intro s
    refine hP.ite (closed_failedStart hP hfree) ?_
    refine hP.bind (hP.atom haccess) fun _ => ?_
    cases o.malloc with
    | none => exact closed_failedStart hP hfree
    | some slots => exact closed_raopRtpStartTask hP haccess hfree hrelease s slots _
  refine hP.bind (hP.atom haccess) fun running => ?_
  refine hP.ite (hP.pure _) ?_
  refine hP.bind (hP.atom haccess) fun s => ?_
  refine hP.ite (hP.pure _) ?_
  cases buildDecoder s.fmtp o.alacCreate with
  | none => exact hP.pure _
  | some c => exact hP.bind (hP.atom haccess) fun _ => hkey s

end Closed

/-! ## The diagnostic tone (`audio_diag.c`) -/

/-- `audio_diag_tone_start`. -/
def audioDiagToneStart (created : Bool) : SessionProg Unit := do
  let running ← .read .access fun s => (s.statics.tasks .diagTone).task
  if running then return ()
  let acquired ← audioProducerAcquire .diagTone
  if !acquired then return ()
  .modify .access (·.onStatics (·.onTask .diagTone ({ · with run := true })))
  .modify .access (·.onStatics (·.onTask .diagTone ({ · with done := false })))
  if !created then
    audioProducerRelease
    .modify .access (·.onStatics (·.onTask .diagTone ({ · with task := false })))
    return ()
  createTask .diagTone

/-- `audio_diag_tone_stop`. -/
def audioDiagToneStop : SessionProg Unit := do
  let running ← .read .access fun s => (s.statics.tasks .diagTone).task
  if !running then return ()
  joinProducer .diagTone

/-! ## The requests (`raop.c`) -/

/-- `session_teardown_full`. -/
def sessionTeardownFull : SessionProg Unit := do
  -- the RTP task has ended before the sockets it reads from are closed
  let _ ← raopRtpStop
  raopSessionReset

/-- `send_response`, with a missing CSeq reported as 0. -/
def sendResponse (status : ℕ) (cseq : ℤ) : SessionProg Unit :=
  .modify (.respond status (if cseq < 0 then 0 else cseq)) id

/-- The outside of one request: the decryption of the crypto library, the three calls of `bind_one`,
the answer of `getpeername` and the outside of `raop_rtp_start`. -/
structure RequestOutcome where
  psaDecrypt : Bytes → Option Bytes
  binds : UdpRole → BindOutcome
  peername : Option (BitVec 32)
  start : StartOutcome

/-- `handle_announce`. -/
def handleAnnounceRequest (psaDecrypt : Bytes → Option Bytes) (req : RtspRequest) (cseq : ℤ) :
    SessionProg Unit := do
  let accepted ← .atom .access
    (·.onStatics (·.onSession fun r => (handleAnnounce psaDecrypt r req.body).1))
    (fun s => (handleAnnounce psaDecrypt s.statics.session req.body).2)
  if accepted then sendResponse 200 cseq
  else sendResponse 400 cseq

/-- The sender's ports from a Transport header. -/
def transportPorts (transport : Bytes) (r : RaopSession) : RaopSession :=
  { r with
    clientControlPort := rtspTransportPort transport (ascii "control_port")
    clientTimingPort := rtspTransportPort transport (ascii "timing_port") }

/-- `handle_setup`. -/
def handleSetup (binds : UdpRole → BindOutcome) (req : RtspRequest) (cseq : ℤ) :
    SessionProg Unit := do
  match rtspHeaderGet req.headers (ascii "Transport") with
  | some t => .modify .access (·.onStatics (·.onSession (transportPorts t)))
  | none => pure ()
  let r ← raopSessionBindUdp binds
  if r ≠ 0 then
    sendResponse 500 cseq
    return ()
  .modify .access (·.onStatics (·.onSession ({ · with state := .setup })))
  sendResponse 200 cseq

/-- The RECORD branch of `dispatch`. -/
def handleRecord (o : RequestOutcome) (cseq : ℤ) : SessionProg Unit := do
  let s ← .read .access (·.statics.session)
  if s.state = .recording then
    -- already streaming, just acknowledge
    sendResponse 200 cseq
  else if s.haveKey = false ∨ s.fmtp = [] then
    sendResponse 400 cseq
  else
    -- the tone has released the audio path before the decoder starts
    audioDiagToneStop
    match o.peername with
    | some ip => .modify .access (·.onStatics (·.onSession ({ · with clientIp := ip })))
    | none => pure ()
    let r ← raopRtpStart o.start
    if r = 0 then
      .modify .access (·.onStatics (·.onSession ({ · with state := .recording })))
    -- a failed start is acknowledged, too
    sendResponse 200 cseq

/-- The methods `dispatch` only acknowledges, as far as the session goes: OPTIONS, SET_PARAMETER,
FLUSH, PAUSE and GET_PARAMETER. -/
def acknowledgedMethods : List Bytes :=
  [ascii "OPTIONS", ascii "SET_PARAMETER", ascii "FLUSH", ascii "PAUSE", ascii "GET_PARAMETER"]

/-- `dispatch`: whether the connection is to be closed. -/
def dispatch (o : RequestOutcome) (req : RtspRequest) : SessionProg Bool := do
  let cseq := rtspCseq req.headers
  if strcmpEq req.method (ascii "ANNOUNCE") then
    handleAnnounceRequest o.psaDecrypt req cseq
    return false
  else if strcmpEq req.method (ascii "SETUP") then
    handleSetup o.binds req cseq
    return false
  else if strcmpEq req.method (ascii "RECORD") then
    handleRecord o cseq
    return false
  else if acknowledgedMethods.any (strcmpEq req.method) then
    sendResponse 200 cseq
    return false
  else if strcmpEq req.method (ascii "TEARDOWN") then
    sessionTeardownFull
    sendResponse 200 cseq
    return true
  else
    sendResponse 501 cseq
    return false

/-! ## The events of `server_task` -/

/-- What the RTSP task does next. The last four events are the calls of its interface to the producer
tasks outside of any request. -/
inductive RtspEvent
  /-- A sender connects and becomes the client. -/
  | accept
  /-- A second sender is answered 453 and refused. -/
  | refuse
  /-- A request of the client is dispatched. -/
  | request (req : RtspRequest) (o : RequestOutcome)
  /-- An oversized request has been drained and is acknowledged. -/
  | oversize (cseq : ℤ)
  /-- The client is dropped for headers that exceed the buffer. -/
  | drop
  /-- The client has disconnected. -/
  | disconnect
  /-- The client has been idle before RECORD for too long. -/
  | reclaim
  /-- The server is stopped. -/
  | stop
  /-- `raop_rtp_start`. -/
  | rtpStart (o : StartOutcome)
  /-- `raop_rtp_stop`. -/
  | rtpStop
  /-- `audio_diag_tone_start`. -/
  | toneStart (created : Bool)
  /-- `audio_diag_tone_stop`. -/
  | toneStop

/-- When `server_task` comes to an event, given whether there is a client and the session. -/
def RtspEvent.Enabled (client : Bool) (s : RaopSession) : RtspEvent → Prop
  | .accept => client = false
  | .refuse | .request .. | .oversize _ | .drop | .disconnect => client = true
  | .reclaim => client = true ∧ s.state ≠ .recording
  | .stop | .rtpStart _ | .rtpStop | .toneStart _ | .toneStop => True

/-- The event ends in `session_teardown_full`. -/
def RtspEvent.tearsDown : RtspEvent → Bool
  | .accept | .drop | .disconnect | .reclaim | .stop => true
  | .request req _ => closesConnection req
  | _ => false

/-- `client_fd = -1`, or the descriptor of a new client. -/
def setClient (client : Bool) : SessionProg Unit :=
  .modify .access (·.onStatics ({ · with client := client }))

/-- What the RTSP task does for an event; the result is that of `raop_rtp_start`, else 0. -/
def RtspEvent.program : RtspEvent → SessionProg ℤ
  | .accept => do
      setClient true
      sessionTeardownFull
      return 0
  | .refuse => do
      sendResponse 453 0
      return 0
  | .request req o => do
      let closeConn ← dispatch o req
      if closeConn then setClient false
      return 0
  | .oversize cseq => do
      sendResponse 200 cseq
      return 0
  | .drop => do
      -- the headers exceed the buffer
      sendResponse 400 0
      setClient false
      sessionTeardownFull
      return 0
  | .disconnect | .reclaim | .stop => do
      setClient false
      sessionTeardownFull
      return 0
  | .rtpStart o => raopRtpStart o
  | .rtpStop => do
      let _ ← raopRtpStop
      return 0
  | .toneStart created => do
      audioDiagToneStart created
      return 0
  | .toneStop => do
      audioDiagToneStop
      return 0

end ConduitStream
