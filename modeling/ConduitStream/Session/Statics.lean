import Mathlib.Data.Finset.Insert
import Mathlib.Data.Int.Basic
import ConduitStream.Foundations.AtomicProgram
import ConduitStream.RtpReceive.AlacConfig
import ConduitStream.RtpReceive.ReceivePath
import ConduitStream.Session.RaopSession

/-! # What the tasks of a session share

The RTSP task owns the session record and the UDP sockets. It starts and stops two producer tasks:
the RTP receive task (`raop_rtp.c`) and the diagnostic tone (`audio_diag.c`). Both are controlled by
the same three statics (the task handle, `run` and `done`), and both claim the one producer slot of
the audio path (`audio.c`).

An atomic step is one access to what the tasks share; the calls that matter to another task carry a
label of their own (`SessionStep`). -/

namespace ConduitStream

/-- The producer tasks: `rtp_task` and `diag_tone_task`. -/
inductive Producer
  | raopRtp
  | diagTone
  deriving DecidableEq, Repr

/-- The statics that control a producer task: whether the handle (`s_task`, `s_diag_task`) is set,
`s_run`/`s_diag_run` and `s_done`/`s_diag_done`. `alive` is no variable of the program: it holds from
the creation of the task until the task sets `done`. -/
structure TaskStatics where
  task : Bool
  run : Bool
  done : Bool
  alive : Bool
  deriving DecidableEq, Repr

/-- The copied descriptor of a role. -/
def RtpIo.fd (io : RtpIo) : UdpRole → ℤ
  | .audio => io.audioFd
  | .control => io.controlFd
  | .timing => io.timingFd

/-- What the RTSP task writes: the session record and whether there is a client (`client_fd >= 0`);
the UDP sockets that are open; the producer slot and its owner; the statics of the two producer
tasks; and the statics of the receive path that `raop_rtp_start` sets up. `alac` is the decoder
behind `s_alac`, `aesKey` the imported key while `s_aes_key_ok`, `slots` whether `s_slots` is
allocated (its contents are part of the reorder buffer). -/
structure SessionStatics where
  session : RaopSession
  client : Bool
  udp : Finset ℤ
  producerHeld : Bool
  producerOwner : Option Producer
  tasks : Producer → TaskStatics
  alac : Option AlacCfg
  numChannels : BitVec 8
  frameLength : BitVec 16
  aesKey : Option Bytes
  slots : Bool
  iv : Bytes
  io : RtpIo

/-- The state of the tasks of a session; `rx` are the statics the RTP task writes while it runs. -/
structure SessionState where
  statics : SessionStatics
  rx : RtpRx

/-- The labels of the atomic steps. -/
inductive SessionStep
  /-- Access to statics. -/
  | access
  /-- `socket`, which returns `fd`. -/
  | socket (fd : ℤ)
  /-- `close(fd)`. -/
  | close (fd : ℤ)
  /-- `psa_destroy_key`, `alac_free` or `heap_caps_free`. -/
  | free
  /-- `atomic_flag_clear(&s_producer_held)`. -/
  | release
  /-- `send_response`. -/
  | respond (status : ℕ) (cseq : ℤ)
  /-- `select` on the copied descriptors. -/
  | select
  /-- `recvfrom` on a copied descriptor. -/
  | recvfrom (role : UdpRole)
  /-- `sendto` on a copied descriptor. -/
  | sendto (role : UdpRole) (dst : SockaddrIn) (pkt : Bytes)
  /-- A call on the reorder buffer, which works on `s_slots`. -/
  | reorder
  /-- `aes_cbc_decrypt`, which works with `s_aes_key`. -/
  | decrypt
  /-- `alac_decode_frame`, which works on `s_alac`. -/
  | decode
  /-- `audio_play_pcm`. -/
  | playPcm
  deriving DecidableEq, Repr

/-- A program of one of the tasks. -/
abbrev SessionProg (α : Type) : Type := Prog SessionState SessionStep α

namespace SessionState

/-- Overwrite the statics the RTSP task writes. -/
def onStatics (f : SessionStatics → SessionStatics) (s : SessionState) : SessionState :=
  { s with statics := f s.statics }

/-- Overwrite the statics of the RTP task. -/
def onRx (f : RtpRx → RtpRx) (s : SessionState) : SessionState := { s with rx := f s.rx }

/-- A change of the statics changes the statics. -/
@[simp] theorem onStatics_statics (f : SessionStatics → SessionStatics) (s : SessionState) :
    (s.onStatics f).statics = f s.statics := rfl

/-- A change of the statics leaves the reception alone. -/
@[simp] theorem onStatics_rx (f : SessionStatics → SessionStatics) (s : SessionState) :
    (s.onStatics f).rx = s.rx := rfl

/-- A change of the reception leaves the statics alone. -/
@[simp] theorem onRx_statics (f : RtpRx → RtpRx) (s : SessionState) :
    (s.onRx f).statics = s.statics := rfl

end SessionState

namespace SessionStatics

/-- Overwrite the control statics of a producer task. -/
def onTask (s : SessionStatics) (p : Producer) (f : TaskStatics → TaskStatics) : SessionStatics :=
  { s with tasks := Function.update s.tasks p (f (s.tasks p)) }

/-- Overwrite the session record. -/
def onSession (s : SessionStatics) (f : RaopSession → RaopSession) : SessionStatics :=
  { s with session := f s.session }

/-- A change of the flags of a producer changes these. -/
@[simp] theorem onTask_self (s : SessionStatics) (p : Producer) (f : TaskStatics → TaskStatics) :
    (s.onTask p f).tasks p = f (s.tasks p) := Function.update_self ..

/-- And leaves those of the other one alone. -/
theorem onTask_of_ne (s : SessionStatics) {p q : Producer} (h : q ≠ p)
    (f : TaskStatics → TaskStatics) : (s.onTask p f).tasks q = s.tasks q :=
  Function.update_of_ne h ..

/-- The statics at boot, with the session reset by `raop_server_start`. -/
def boot : SessionStatics where
  session := .cleared
  client := false
  udp := ∅
  producerHeld := false
  producerOwner := none
  tasks _ := ⟨false, false, false, false⟩
  alac := none
  numChannels := 2
  frameLength := 352
  aesKey := none
  slots := false
  iv := List.replicate 16 0
  io := ⟨-1, -1, -1, 0, 0⟩

end SessionStatics

/-! ## The producer slot (`audio.c`) -/

/-- `audio_producer_acquire`. -/
def audioProducerAcquire (who : Producer) : SessionProg Bool := do
  let held ← .atom .access (·.onStatics ({ · with producerHeld := true }))
    (·.statics.producerHeld)
  if held then return false
  .modify .access (·.onStatics ({ · with producerOwner := some who }))
  return true

/-- `audio_producer_release`. -/
def audioProducerRelease : SessionProg Unit := do
  .modify .access (·.onStatics ({ · with producerOwner := none }))
  .modify .release (·.onStatics ({ · with producerHeld := false }))

/-- The last steps of a producer task: release the slot, clear the handle, publish `done`. The
`vTaskDelete` that follows touches nothing shared. -/
def producerExit (p : Producer) : SessionProg Unit := do
  audioProducerRelease
  .modify .access (·.onStatics (·.onTask p ({ · with task := false })))
  .modify .access (·.onStatics (·.onTask p ({ · with done := true, alive := false })))

end ConduitStream
