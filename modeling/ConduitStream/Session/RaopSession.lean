import ConduitStream.Rtsp.Base64
import ConduitStream.Rtsp.Sdp

/-! # The session record (`rtsp_session.h`) and what ANNOUNCE does to it (`handle_announce`)

The record is the RTSP task's own. `handleAnnounce` changes it as it goes, so a body that is refused
half-way leaves its mark; whether a body is accepted does not depend on the session
(`handleAnnounce_accepted`). -/

namespace ConduitStream

/-- `raop_state_t`. -/
inductive RaopState
  | idle
  | announced
  | setup
  | recording
  deriving DecidableEq, Repr

/-- The three UDP sockets of a session. -/
inductive UdpRole
  | audio
  | control
  | timing
  deriving DecidableEq, Repr

/-- `raop_session_t`; the arrays of 16 bytes are lists, `fmtp` is the text before its NUL, and
`audio_fd`, `control_fd`, `timing_fd` and their ports are indexed by the role of the socket. -/
structure RaopSession where
  state : RaopState
  aeskey : Bytes
  aesiv : Bytes
  haveKey : Bool
  fmtp : Bytes
  clientControlPort : ℤ
  clientTimingPort : ℤ
  clientIp : BitVec 32
  fd : UdpRole → ℤ
  port : UdpRole → BitVec 16

/-- The record `raop_session_reset` leaves. -/
def RaopSession.cleared : RaopSession where
  state := .idle
  aeskey := List.replicate 16 0
  aesiv := List.replicate 16 0
  haveKey := false
  fmtp := []
  clientControlPort := 0
  clientTimingPort := 0
  clientIp := 0
  fd _ := -1
  port _ := 0

/-! ## ANNOUNCE -/

/-- `raop_crypto_decrypt_aeskey`: the key, `none` for `-1`. `psaDecrypt` is the RSA-OAEP decryption of
the crypto library. -/
def raopCryptoDecryptAeskey (psaDecrypt : Bytes → Option Bytes) (inp : Bytes) : Option Bytes :=
  match psaDecrypt inp with
  | none => none
  | some tmp => if tmp.length ≠ 16 then none else some tmp

/-- The AES key of an ANNOUNCE body, `none` if it is missing or does not decode or decrypt. -/
def announcedKey (psaDecrypt : Bytes → Option Bytes) (m : SdpMedia) : Option Bytes :=
  if m.hasRsaaeskey then
    let enc := base64Decode (cstr m.rsaaeskey) 256
    if enc.2 ≤ 0 then none else raopCryptoDecryptAeskey psaDecrypt enc.1
  else none

/-- `base64_decode` of the IV, into the 16 bytes of the session. -/
def announcedIv (m : SdpMedia) : Bytes × ℤ := base64Decode (cstr m.aesiv) 16

/-- The last block of `handle_announce`, for an accepted body. -/
def RaopSession.announce (s : RaopSession) (m : SdpMedia) : RaopSession :=
  { s with
    haveKey := m.hasRsaaeskey && m.hasAesiv
    fmtp := if m.hasFmtp then cstr m.fmtp else s.fmtp
    state := .announced }

/-- `handle_announce`: the session afterwards, and whether the answer is 200 rather than 400. -/
def handleAnnounce (psaDecrypt : Bytes → Option Bytes) (s : RaopSession) (body : Bytes) :
    RaopSession × Bool :=
  let m := sdpParse body
  match announcedKey psaDecrypt m with
  | none => (s, false)
  | some key =>
      let s := { s with aeskey := key }
      if m.hasAesiv then
        let il := announcedIv m
        let s := { s with aesiv := il.1 ++ s.aesiv.drop il.1.length }
        if il.2 ≠ 16 then (s, false) else (s.announce m, true)
      else (s.announce m, true)

/-- Whether `handle_announce` accepts a body. -/
def announceAccepted (psaDecrypt : Bytes → Option Bytes) (body : Bytes) : Bool :=
  let m := sdpParse body
  (announcedKey psaDecrypt m).isSome && (!m.hasAesiv || (announcedIv m).2 = 16)

/-- **What ANNOUNCE can do**: accept the body, which makes the session announced, or refuse it, which
leaves the state as it is; the sockets are not touched. -/
theorem handleAnnounce_cases (psaDecrypt : Bytes → Option Bytes) (s : RaopSession) (body : Bytes) :
    (handleAnnounce psaDecrypt s body).2 = announceAccepted psaDecrypt body ∧
      (handleAnnounce psaDecrypt s body).1.state
        = (if announceAccepted psaDecrypt body then .announced else s.state) ∧
      (handleAnnounce psaDecrypt s body).1.fd = s.fd := by
  cases hkey : announcedKey psaDecrypt (sdpParse body) with
  | none => simp [handleAnnounce, announceAccepted, hkey]
  | some key =>
      cases hhas : (sdpParse body).hasAesiv with
      | false => simp [handleAnnounce, announceAccepted, hkey, hhas, RaopSession.announce]
      | true =>
          by_cases hiv : (announcedIv (sdpParse body)).2 = 16
          · simp [handleAnnounce, announceAccepted, hkey, hhas, hiv, RaopSession.announce]
          · simp [handleAnnounce, announceAccepted, hkey, hhas, hiv]

end ConduitStream
