import Mathlib.Data.Set.Defs
import ConduitStream.Session.Lifecycle

/-! # What an ANNOUNCE leaves behind

An ANNOUNCE writes the key, the IV, `have_key` and `fmtp` at different points of its handler. Two
properties one expects of it fail, and each holds exactly under a condition on the request and the
session before it:

* a refused ANNOUNCE leaves the session alone (`announce_rejected_untouched_iff`): the key is written
  before the IV has been decoded, and the IV as it is decoded;
* the parameters after an accepted ANNOUNCE are those of its body (`announce_determines_iff`): without
  `a=fmtp` the earlier `fmtp` stays. -/

namespace ConduitStream

variable {meets : EventCondition} {psaDecrypt : Bytes → Option Bytes} {s : RaopSession} {body : Bytes}

/-! ## The two outcomes -/

/-- A refused ANNOUNCE has failed at the key, or at the IV when the key was already written. -/
theorem handleAnnounce_rejected (h : (handleAnnounce psaDecrypt s body).2 = false) :
    (announcedKey psaDecrypt (sdpParse body) = none ∧ (handleAnnounce psaDecrypt s body).1 = s) ∨
      ∃ key, announcedKey psaDecrypt (sdpParse body) = some key ∧
        (handleAnnounce psaDecrypt s body).1
          = { s with
              aeskey := key
              aesiv := (announcedIv (sdpParse body)).1
                ++ s.aesiv.drop (announcedIv (sdpParse body)).1.length } := by
  unfold handleAnnounce at h ⊢
  cases hkey : announcedKey psaDecrypt (sdpParse body) with
  | none => exact .inl ⟨rfl, by simp [hkey]⟩
  | some key =>
      refine .inr ⟨key, rfl, ?_⟩
      simp only [hkey] at h ⊢
      split at h
      · next hiv =>
          rw [if_pos hiv]
          split at h
          · next hlen => rw [if_pos hlen]
          · cases h
      · cases h

/-- An accepted ANNOUNCE has a key, and an IV of 16 bytes if it has one at all. -/
theorem handleAnnounce_accepted (h : (handleAnnounce psaDecrypt s body).2 = true) :
    ∃ key, announcedKey psaDecrypt (sdpParse body) = some key ∧
      ((sdpParse body).hasAesiv = true → (announcedIv (sdpParse body)).1.length = 16) ∧
      (handleAnnounce psaDecrypt s body).1
        = { s with
            aeskey := key
            aesiv :=
              if (sdpParse body).hasAesiv then (announcedIv (sdpParse body)).1 ++ s.aesiv.drop 16
              else s.aesiv
            haveKey := (sdpParse body).hasAesiv
            fmtp := if (sdpParse body).hasFmtp then cstr (sdpParse body).fmtp else s.fmtp
            state := .announced } := by
  unfold handleAnnounce at h ⊢
  cases hkey : announcedKey psaDecrypt (sdpParse body) with
  | none =>
      simp only [hkey] at h
      cases h
  | some key =>
      have hhas : (sdpParse body).hasRsaaeskey = true := by
        unfold announcedKey at hkey
        split at hkey
        · next hhas => exact hhas
        · cases hkey
      refine ⟨key, rfl, ?_⟩
      simp only [hkey] at h ⊢
      cases hiv : (sdpParse body).hasAesiv with
      | false =>
          refine ⟨nofun, ?_⟩
          simp [RaopSession.announce, hhas, hiv]
      | true =>
          rw [if_pos hiv] at h
          split at h
          · cases h
          · next hlen =>
              rw [not_not] at hlen
              -- the code compares the count, which is the number of bytes unless it is `-1`
              have hsixteen : (announcedIv (sdpParse body)).1.length = 16 := by
                have := (base64Decode_bounds (cstr (sdpParse body).aesiv) 16).2
                unfold announcedIv at hlen ⊢
                omega
              refine ⟨fun _ => hsixteen, ?_⟩
              simp [RaopSession.announce, hhas, hiv, hlen, hsixteen]

/-! ## What other events do to the parameters -/

/-- The stream parameters of the session. -/
def RaopSession.parameters (s : RaopSession) : Bytes × Bytes × Bool × Bytes :=
  (s.aeskey, s.aesiv, s.haveKey, s.fmtp)

namespace SessionModel

variable {m : SessionModel}

/-- Closing the sockets leaves the parameters as they are. -/
theorem closeUdp_parameters (m : SessionModel) :
    m.closeUdp.session.parameters = m.session.parameters := by
  have hrole : ∀ (m : SessionModel) role,
      (m.closeRole role).session.parameters = m.session.parameters := by
    intro m role
    unfold closeRole
    split <;> rfl
  show (((m.closeRole .audio).closeRole .control).closeRole .timing).session.parameters = _
  rw [hrole, hrole, hrole]

/-- Binding the sockets leaves the parameters as they are, whether it works or not. -/
theorem bindUdp_parameters (m : SessionModel) (binds : UdpRole → BindOutcome) :
    (m.bindUdp binds).1.session.parameters = m.session.parameters := by
  have hrole : ∀ (m : SessionModel) role o,
      (m.bindRole role o).session.parameters = m.session.parameters := by
    intro m role o
    cases o <;> rfl
  have hall : (m.bindAll binds).session.parameters = m.session.parameters := by
    unfold bindAll
    rw [hrole, hrole, hrole]
  unfold bindUdp
  dsimp only
  split
  · exact (closeUdp_parameters _).trans hall
  · exact hall

/-- SETUP leaves the stream parameters of the session as they are. -/
theorem setup_parameters (m : SessionModel) (binds : UdpRole → BindOutcome) (req : RtspRequest) :
    (m.setup binds req).session.parameters = m.session.parameters := by
  unfold setup
  cases rtspHeaderGet req.headers (ascii "Transport") with
  | none =>
      dsimp only
      split <;> exact m.bindUdp_parameters binds
  | some t =>
      dsimp only
      split <;> exact (m.onSession (transportPorts t)).bindUdp_parameters binds

/-- RECORD leaves the stream parameters of the session as they are. -/
theorem record_parameters (m : SessionModel) (o : RequestOutcome) :
    (m.record o).session.parameters = m.session.parameters := by
  have hover : (m.handOver o.peername).session.parameters = m.session.parameters := by
    unfold handOver
    have hstop := congrArg RaopSession.parameters (m.stopProducer_frame .diagTone).1
    cases o.peername <;> exact hstop
  have hstart := congrArg RaopSession.parameters ((m.handOver o.peername).startRtp_frame o.start).1
  unfold record
  dsimp only
  split_ifs
  · rfl
  · rfl
  · exact hstart.trans hover
  · exact hstart.trans hover

/-- **Only an ANNOUNCE sets the parameters, and only the teardown clears them.** -/
theorem step_parameters (m : SessionModel) (e : RtspEvent) :
    (m.step e).1.session.parameters = m.session.parameters ∨ (m.step e).1.session = .cleared ∨
      ∃ req o, e = .request req o ∧ strcmpEq req.method (ascii "ANNOUNCE") = true ∧
        (m.step e).1.session = (handleAnnounce o.psaDecrypt m.session req.body).1 := by
  generalize hm' : (m.step e).1 = m'
  have heffect := step_effect m e
  rw [hm'] at heffect
  cases heffect with
  | teardown c _ => exact .inr (.inl rfl)
  | @announce req o hreq => exact .inr (.inr ⟨req, o, rfl, hreq, rfl⟩)
  | @setup req o _ => exact .inl (m.setup_parameters o.binds req)
  | @record req o _ => exact .inl (m.record_parameters o)
  | rtpStart o => exact .inl (congrArg _ (m.startRtp_frame o).1)
  | rtpStop => exact .inl (congrArg _ (m.stopProducer_frame .raopRtp).1)
  | toneStart created => exact .inl (congrArg _ (m.startTone_frame created).1)
  | toneStop => exact .inl (congrArg _ (m.stopProducer_frame .diagTone).1)
  | none _ => exact .inl rfl

end SessionModel

/-- ANNOUNCE keeps the IV at 16 bytes. -/
theorem handleAnnounce_aesiv_length (h : s.aesiv.length = 16) :
    (handleAnnounce psaDecrypt s body).1.aesiv.length = 16 := by
  cases hans : (handleAnnounce psaDecrypt s body).2 with
  | false =>
      rcases handleAnnounce_rejected hans with ⟨-, hsame⟩ | ⟨key, -, hwritten⟩
      · rw [hsame]
        exact h
      · rw [hwritten]
        have := (base64Decode_bounds (cstr (sdpParse body).aesiv) 16).1
        show (_ ++ _ : Bytes).length = 16
        unfold announcedIv
        simp only [List.length_append, List.length_drop]
        omega
  | true =>
      obtain ⟨key, -, hlen, hwritten⟩ := handleAnnounce_accepted hans
      rw [hwritten]
      dsimp only
      split
      · next hiv => simp [hlen hiv, h]
      · exact h

/-- In every reached state the IV has 16 bytes. -/
theorem SessionModel.Reached.aesiv_length {m : SessionModel} (h : SessionModel.Reached meets m) :
    m.session.aesiv.length = 16 := by
  refine h.invariant (P := fun m => m.session.aesiv.length = 16) (by decide) fun m e hm _ => ?_
  rcases m.step_parameters e with hsame | hcleared | ⟨req, o, -, -, hann⟩
  · rw [show (m.step e).1.session.aesiv = m.session.aesiv from congrArg (·.2.1) hsame]
    exact hm
  · rw [hcleared]
    decide
  · rw [hann]
    exact handleAnnounce_aesiv_length hm

/-! ## A refused ANNOUNCE -/

/-- The refusal leaves no mark: the key stage already fails, or the key and the IV bytes decoded before
the failure are those the session has. -/
def RejectsCleanly (psaDecrypt : Bytes → Option Bytes) (s : RaopSession) (body : Bytes) : Prop :=
  ∀ key, announcedKey psaDecrypt (sdpParse body) = some key →
    key = s.aeskey ∧ (announcedIv (sdpParse body)).1 <+: s.aesiv

/-- A refused ANNOUNCE changes nothing exactly if what it writes is there already. -/
theorem handleAnnounce_eq_self_iff (h : (handleAnnounce psaDecrypt s body).2 = false) :
    (handleAnnounce psaDecrypt s body).1 = s ↔ RejectsCleanly psaDecrypt s body := by
  rcases handleAnnounce_rejected h with ⟨hkey, hsame⟩ | ⟨key, hkey, hwritten⟩
  · refine iff_of_true hsame fun key hsome => ?_
    rw [hkey] at hsome
    cases hsome
  · rw [hwritten]
    constructor
    · intro hsame key' hkey'
      rw [hkey, Option.some.injEq] at hkey'
      subst hkey'
      exact ⟨congrArg RaopSession.aeskey hsame, ⟨_, congrArg RaopSession.aesiv hsame⟩⟩
    · intro hclean
      obtain ⟨rfl, hiv⟩ := hclean key hkey
      obtain ⟨rest, hrest⟩ := hiv
      have hdrop : s.aesiv.drop (announcedIv (sdpParse body)).1.length = rest := by
        rw [← hrest, List.drop_left]
      rw [hdrop, hrest]

/-- The key and the IV of the session are those of this body. -/
structure RaopSession.PairOf (s : RaopSession) (psaDecrypt : Bytes → Option Bytes) (body : Bytes) :
    Prop where
  accepted : announceAccepted psaDecrypt body = true
  key : announcedKey psaDecrypt (sdpParse body) = some s.aeskey
  iv : (sdpParse body).hasAesiv = true ∧ (announcedIv (sdpParse body)).1 = s.aesiv

/-- Every ANNOUNCE sends one of these bodies and, if it is refused, is refused cleanly; `psaDecrypt`
is the decryption under the key of the device. -/
def announcesCleanly (psaDecrypt : Bytes → Option Bytes) (sent : Set Bytes) : EventCondition
  | s, _, .request req o =>
      strcmpEq req.method (ascii "ANNOUNCE") = true →
        o.psaDecrypt = psaDecrypt ∧ req.body ∈ sent ∧
          (announceAccepted psaDecrypt req.body = false → RejectsCleanly psaDecrypt s req.body)
  | _, _, _ => True

/-- The session has no complete pair, or the pair of a body that was sent. -/
def SessionModel.PairSent (psaDecrypt : Bytes → Option Bytes) (sent : Set Bytes)
    (m : SessionModel) : Prop :=
  m.session.haveKey = false ∨ ∃ body ∈ sent, m.session.PairOf psaDecrypt body

/-- **Step lemma**: an event under the condition keeps the pair of the session one that was sent. -/
theorem SessionModel.PairSent.step {sent : Set Bytes} {m : SessionModel} {e : RtspEvent}
    (hlen : m.session.aesiv.length = 16) (h : m.PairSent psaDecrypt sent)
    (hadmits : m.Admits (announcesCleanly psaDecrypt sent) e) :
    (m.step e).1.PairSent psaDecrypt sent := by
  unfold PairSent
  rcases m.step_parameters e with hsame | hcleared | ⟨req, o, rfl, hreq, hann⟩
  · have hkey : (m.step e).1.session.aeskey = m.session.aeskey := congrArg (·.1) hsame
    have hiv : (m.step e).1.session.aesiv = m.session.aesiv := congrArg (·.2.1) hsame
    have hhave : (m.step e).1.session.haveKey = m.session.haveKey := congrArg (·.2.2.1) hsame
    rw [hhave]
    refine h.imp_right fun ⟨body, hsent, hpair⟩ => ⟨body, hsent, hpair.accepted, ?_, ?_⟩
    · rw [hkey]
      exact hpair.key
    · rw [hiv]
      exact hpair.iv
  · rw [hcleared]
    exact .inl rfl
  · obtain ⟨hdec, hsent, hclean⟩ := hadmits.2 hreq
    subst hdec
    obtain ⟨hans, -, -⟩ := handleAnnounce_cases o.psaDecrypt m.session req.body
    rw [hann]
    -- a rejected ANNOUNCE is admitted only if it wrote nothing
    cases hacc : announceAccepted o.psaDecrypt req.body with
    | false =>
        rw [hacc] at hans
        rw [(handleAnnounce_eq_self_iff hans).mpr (hclean hacc)]
        exact h
    | true =>
        rw [hacc] at hans
        obtain ⟨key, hkey, hsixteen, hwritten⟩ := handleAnnounce_accepted hans
        rw [hwritten]
        cases hiv : (sdpParse req.body).hasAesiv with
        | false => exact .inl rfl
        | true =>
            refine .inr ⟨req.body, hsent, hacc, hkey, hiv, ?_⟩
            show _ = _ ++ m.session.aesiv.drop 16
            rw [← hlen, List.drop_length, List.append_nil]

/-- **Run lemma**: so does every run of such events. -/
theorem SessionModel.Reached.pairSent {sent : Set Bytes} {m : SessionModel}
    (h : SessionModel.Reached (announcesCleanly psaDecrypt sent) m) : m.PairSent psaDecrypt sent := by
  have hboth : m.session.aesiv.length = 16 ∧ m.PairSent psaDecrypt sent := by
    induction h with
    | boot => exact ⟨by decide, .inl rfl⟩
    | step hm hadmits ih => exact ⟨(hm.step hadmits).aesiv_length, ih.2.step ih.1 hadmits⟩
  exact hboth.2

/-- **A refused ANNOUNCE leaves the session alone exactly when it is refused cleanly.** For every
decryption, every session and every body that `handle_announce` answers 400, the session afterwards is
the session before if and only if the key stage fails, or the key and the IV bytes decoded before the
failure are those the session has. In every run in which each ANNOUNCE sends a body of `sent` and each
refusal meets this condition, a session with `have_key` has key and IV of one accepted body, so that
RECORD streams with such a pair or is refused. -/
theorem announce_rejected_untouched_iff (psaDecrypt : Bytes → Option Bytes) (sent : Set Bytes) :
    (∀ s body, (handleAnnounce psaDecrypt s body).2 = false →
      ((handleAnnounce psaDecrypt s body).1 = s ↔ RejectsCleanly psaDecrypt s body)) ∧
      ∀ (rx : RtpRx) (c : SessionConfig) (k : Option RtspDone),
        (sessionSystem (announcesCleanly psaDecrypt sent)).Reachable (sessionBoot rx) c →
        c.th .rtsp = .ret k →
        c.st.statics.session.haveKey = false ∨
          ∃ body ∈ sent, c.st.statics.session.PairOf psaDecrypt body := by
  refine ⟨fun s body h => handleAnnounce_eq_self_iff h, ?_⟩
  intro rx c k hreach hth
  obtain ⟨m, hm, hb⟩ := session_refines hreach hth
  rw [hb.session]
  exact hm.pairSent

/-! ### Two ANNOUNCEs, the second of them refused -/

/-- A decryption: sixteen times the first byte of the ciphertext. -/
def keyOfHead (enc : Bytes) : Option Bytes := some (List.replicate 16 (enc.headD 0))

/-- An ANNOUNCE under this decryption. -/
def sampleAnnounceOf (body : String) : RtspEvent :=
  .request ⟨ascii "ANNOUNCE", ascii "*", ascii "RTSP/1.0", [], ascii body, 0⟩
    { psaDecrypt := keyOfHead
      binds := fun _ => .noSocket
      peername := none
      start := ⟨true, true, some fun _ => ⟨false, 0, 0, []⟩, true⟩ }

/-- A body with the key of zeros and the IV of zeros. -/
def zeroPair : String :=
  "a=rsaaeskey:AAAA\na=aesiv:AAAAAAAAAAAAAAAAAAAAAA==\na=fmtp:96 352 0 16 40 10 14 2 255 0 0 44100\n"

/-- A body with the key of ones and three bytes of an IV. -/
def onesCutShort : String := "a=rsaaeskey:AQEB\na=aesiv:AQEB\n"

/-- A body with the key of zeros and three bytes of an IV of zeros. -/
def zerosCutShort : String := "a=rsaaeskey:AAAA\na=aesiv:AAAA\n"

/-- Events that each meet a condition when they come are events under that condition. -/
theorem SessionState.process_of_anyEvent [∀ r b e, Decidable (meets r b e)] {s s' : SessionState}
    {es : List RtspEvent} (h : s.process anyEvent es = some s')
    (hmeets : ∀ p e q w, es = p ++ e :: q → s.process anyEvent p = some w →
      meets w.statics.session (w.statics.tasks .raopRtp).task e) :
    s.process meets es = some s' := by
  induction es generalizing s with
  | nil => exact h
  | cons e es ih =>
      unfold SessionState.process at h ⊢
      split at h
      · next hcond =>
          have hmeet := hmeets [] e es s rfl rfl
          rw [if_pos ⟨hcond.1, hmeet⟩]
          split at h
          · next r s₁ hrun₁ =>
              refine ih h fun p e' q w hsplit hp => hmeets (e :: p) e' q w (by rw [hsplit]; rfl) ?_
              unfold SessionState.process
              rw [if_pos hcond, hrun₁]
              exact hp
          · cases h
      · cases h

/-- With this pair in the session it is refused cleanly. -/
theorem zerosCutShort_clean (key : Bytes)
    (h : announcedKey keyOfHead (sdpParse (ascii zerosCutShort)) = some key) :
    key = List.replicate 16 0 ∧
      (announcedIv (sdpParse (ascii zerosCutShort))).1 <+: List.replicate 16 0 := by
  have hkey : announcedKey keyOfHead (sdpParse (ascii zerosCutShort)) = some (List.replicate 16 0) := by
    decide +kernel
  rw [hkey, Option.some.injEq] at h
  exact ⟨h.symm, by decide +kernel⟩

/-- The two ANNOUNCEs are admitted: the first is accepted, the second leaves its pair alone. -/
theorem zeroAnnounces_cleanly [∀ r b e, Decidable
      (announcesCleanly keyOfHead {ascii zeroPair, ascii zerosCutShort} r b e)] {s : SessionState}
    (hrun : (sessionBoot sampleRx).st.process anyEvent
      [.accept, sampleAnnounceOf zeroPair, sampleAnnounceOf zerosCutShort] = some s) :
    (sessionBoot sampleRx).st.process (announcesCleanly keyOfHead {ascii zeroPair, ascii zerosCutShort})
      [.accept, sampleAnnounceOf zeroPair, sampleAnnounceOf zerosCutShort] = some s := by
  refine SessionState.process_of_anyEvent hrun fun p e q w hsplit hp => ?_
  rcases p with _ | ⟨e₀, _ | ⟨e₁, _ | ⟨e₂, p⟩⟩⟩
  · obtain ⟨rfl, -⟩ := List.cons.inj hsplit
    trivial
  · obtain ⟨rfl, hrest⟩ := List.cons.inj hsplit
    obtain ⟨rfl, -⟩ := List.cons.inj hrest
    intro _
    refine ⟨rfl, Or.inl rfl, fun hrefused => absurd hrefused ?_⟩
    decide +kernel
  · obtain ⟨rfl, hrest⟩ := List.cons.inj hsplit
    obtain ⟨rfl, hlast⟩ := List.cons.inj hrest
    obtain ⟨rfl, -⟩ := List.cons.inj hlast
    intro _
    have hpair : ((sessionBoot sampleRx).st.process anyEvent [.accept, sampleAnnounceOf zeroPair]).map
        (fun w => (w.statics.session.aeskey, w.statics.session.aesiv))
        = some (List.replicate 16 0, List.replicate 16 0) := by
      decide +kernel
    rw [hp, Option.map_some] at hpair
    obtain ⟨hkey, hiv⟩ := Prod.mk.inj (Option.some.inj hpair)
    refine ⟨rfl, Or.inr rfl, fun _ key hannounced => ?_⟩
    rw [hkey, hiv]
    exact zerosCutShort_clean key hannounced
  · have hlen := congrArg List.length hsplit
    simp at hlen

/-- Sent again with a truncated IV of zeros, the zero pair stays: the session has it after the refusal. -/
theorem announce_rejected_untouched_iff_zeros :
    ((handleAnnounce keyOfHead (handleAnnounce keyOfHead .cleared (ascii zeroPair)).1
        (ascii zerosCutShort)).2 = false ∧
      (handleAnnounce keyOfHead (handleAnnounce keyOfHead .cleared (ascii zeroPair)).1
        (ascii zerosCutShort)).1 = (handleAnnounce keyOfHead .cleared (ascii zeroPair)).1) ∧
    ∃ (c : SessionConfig) (k : Option RtspDone),
      (sessionSystem (announcesCleanly keyOfHead {ascii zeroPair, ascii zerosCutShort})).Reachable
        (sessionBoot sampleRx) c ∧ c.th .rtsp = .ret k ∧ c.st.statics.session.haveKey = true ∧
      ∃ body ∈ ({ascii zeroPair, ascii zerosCutShort} : Set Bytes),
        c.st.statics.session.PairOf keyOfHead body := by
  have hrefused : (handleAnnounce keyOfHead (handleAnnounce keyOfHead .cleared (ascii zeroPair)).1
      (ascii zerosCutShort)).2 = false := by
    decide +kernel
  have hpair : (handleAnnounce keyOfHead .cleared (ascii zeroPair)).1.aeskey = List.replicate 16 0 ∧
      (handleAnnounce keyOfHead .cleared (ascii zeroPair)).1.aesiv = List.replicate 16 0 := by
    decide +kernel
  have hclean : RejectsCleanly keyOfHead (handleAnnounce keyOfHead .cleared (ascii zeroPair)).1
      (ascii zerosCutShort) := by
    intro key hkey
    rw [hpair.1, hpair.2]
    exact zerosCutShort_clean key hkey
  obtain ⟨huntouched, hruns⟩ := announce_rejected_untouched_iff keyOfHead
    {ascii zeroPair, ascii zerosCutShort}
  refine ⟨⟨hrefused, (huntouched _ _ hrefused).mpr hclean⟩, ?_⟩
  have hrun : ((sessionBoot sampleRx).st.process anyEvent
      [.accept, sampleAnnounceOf zeroPair, sampleAnnounceOf zerosCutShort]).map
      (·.statics.session.haveKey) = some true := by
    decide +kernel
  obtain ⟨s, hs, hhave⟩ := Option.map_eq_some_iff.mp hrun
  have := fun r b e =>
    Classical.propDecidable (announcesCleanly keyOfHead {ascii zeroPair, ascii zerosCutShort} r b e)
  obtain ⟨c, k, hreach, hth, rfl⟩ := reachable_boot_process (zeroAnnounces_cleanly hs)
  refine ⟨c, k, hreach, hth, hhave, ?_⟩
  rcases hruns sampleRx c k hreach hth with hno | hpaired
  · rw [hhave] at hno
    cases hno
  · exact hpaired

/-- **A stream with a mixture**: after an accepted ANNOUNCE a second one is refused for its IV; the
RECORD that follows starts the stream with the key of the second and an IV of neither. -/
theorem announce_rejected_mixes :
    ((handleAnnounce keyOfHead (handleAnnounce keyOfHead .cleared (ascii zeroPair)).1
        (ascii onesCutShort)).2 = false ∧
      (handleAnnounce keyOfHead (handleAnnounce keyOfHead .cleared (ascii zeroPair)).1
        (ascii onesCutShort)).1.aeskey
          ≠ (handleAnnounce keyOfHead .cleared (ascii zeroPair)).1.aeskey) ∧
    ∃ (c : SessionConfig) (k : Option RtspDone),
      (sessionSystem anyEvent).Reachable (sessionBoot sampleRx) c ∧ c.th .rtsp = .ret k ∧
        (c.st.statics.tasks .raopRtp).alive = true ∧
        c.st.statics.aesKey = some (List.replicate 16 1) ∧
        c.st.statics.iv = List.replicate 3 1 ++ List.replicate 13 0 := by
  refine ⟨by decide +kernel, ?_⟩
  have hrun : ((sessionBoot sampleRx).st.process anyEvent
      [.accept, sampleAnnounceOf zeroPair, sampleAnnounceOf onesCutShort,
        sampleRequest "SETUP" "" 3, sampleRequest "RECORD" "" 0]).map
      (fun s => ((s.statics.tasks .raopRtp).alive, s.statics.aesKey, s.statics.iv))
      = some (true, some (List.replicate 16 1), List.replicate 3 1 ++ List.replicate 13 0) := by
    decide +kernel
  obtain ⟨s, hs, heq⟩ := Option.map_eq_some_iff.mp hrun
  obtain ⟨halive, hkey, hiv⟩ : _ ∧ _ ∧ _ := by simpa only [Prod.mk.injEq] using heq
  obtain ⟨c, k, hreach, hth, rfl⟩ := reachable_boot_process hs
  exact ⟨c, k, hreach, hth, halive, hkey, hiv⟩

/-! ## An accepted ANNOUNCE -/

/-- Whether a body is accepted does not depend on the session. -/
theorem handleAnnounce_accepted_congr (h : (handleAnnounce psaDecrypt s body).2 = true)
    (s' : RaopSession) :
    (handleAnnounce psaDecrypt s' body).2 = true := by
  obtain ⟨hans, -, -⟩ := handleAnnounce_cases psaDecrypt s body
  obtain ⟨hans', -, -⟩ := handleAnnounce_cases psaDecrypt s' body
  rw [hans', ← hans]
  exact h

/-- RECORD is answered 400 when the session has no key or no `fmtp`, and is not recording. -/
theorem handleRecord_rest_iff (o : RequestOutcome) (cseq : ℤ) (w : SessionState) :
    (handleRecord o cseq).rest w = sendResponse 400 cseq ↔
      w.statics.session.state ≠ .recording ∧
        (w.statics.session.haveKey = false ∨ w.statics.session.fmtp = []) := by
  have hlabel : ∀ {l l' : SessionStep} {g g' : SessionState → Bool}
      {upd upd' : SessionState → SessionState} {next next' : SessionState → SessionProg Unit},
      (.act l g upd next : SessionProg Unit) = .act l' g' upd' next' → l = l' := by
    intro l l' g g' upd upd' next next' h
    injection h
  show (if w.statics.session.state = .recording then _ else _) = _ ↔ _
  split_ifs with hrec hno
  · exact iff_of_false (fun h => by cases hlabel h) fun h => h.1 hrec
  · exact iff_of_true rfl ⟨hrec, hno⟩
  · -- the first thing a RECORD that is not refused does is to look for the tone
    exact iff_of_false (fun h => by cases hlabel h) fun h => hno h.2

/-- The sessions agree on the parameters of the stream; key and IV matter only with `have_key`. -/
structure RaopSession.SameParameters (s s' : RaopSession) : Prop where
  haveKey : s.haveKey = s'.haveKey
  fmtp : s.fmtp = s'.fmtp
  pair : s.haveKey = true → s.aeskey = s'.aeskey ∧ s.aesiv = s'.aesiv

/-- After the same accepted ANNOUNCE two sessions can differ in `fmtp` only. -/
theorem handleAnnounce_sameParameters_iff {s s' : RaopSession} (hlen : s.aesiv.length = 16)
    (hlen' : s'.aesiv.length = 16) (h : (handleAnnounce psaDecrypt s body).2 = true) :
    (handleAnnounce psaDecrypt s body).1.SameParameters (handleAnnounce psaDecrypt s' body).1 ↔
      (sdpParse body).hasFmtp = true ∨ s.fmtp = s'.fmtp := by
  obtain ⟨key, hkey, -, hwritten⟩ := handleAnnounce_accepted h
  obtain ⟨key', hkey', -, hwritten'⟩ :=
    handleAnnounce_accepted (handleAnnounce_accepted_congr h s')
  rw [hkey, Option.some.injEq] at hkey'
  subst hkey'
  -- the field is 16 bytes long, so nothing of the IV before is left
  have hpair : (sdpParse body).hasAesiv = true →
      (if (sdpParse body).hasAesiv then (announcedIv (sdpParse body)).1 ++ s.aesiv.drop 16
        else s.aesiv)
      = if (sdpParse body).hasAesiv then (announcedIv (sdpParse body)).1 ++ s'.aesiv.drop 16
        else s'.aesiv := by
    intro hiv
    rw [if_pos hiv, if_pos hiv, List.drop_eq_nil_of_le hlen.le, List.drop_eq_nil_of_le hlen'.le]
  rw [hwritten, hwritten']
  cases hfmtp : (sdpParse body).hasFmtp with
  | true => exact iff_of_true ⟨rfl, rfl, fun hiv => ⟨rfl, hpair hiv⟩⟩ (.inl rfl)
  | false =>
      constructor
      · intro hsame
        exact .inr hsame.fmtp
      · intro hsame
        exact ⟨rfl, hsame.resolve_left nofun, fun hiv => ⟨rfl, hpair hiv⟩⟩

/-- **The parameters after an accepted ANNOUNCE are those of its body exactly when it has an
`a=fmtp`, or the sessions before had the same.** For any two sessions that any two runs reach between
two events, and every body that `handle_announce` answers 200, the sessions afterwards agree on
`have_key`, on `fmtp` and, if `have_key` is set, on key and IV if and only if the body has an `a=fmtp`
line or `fmtp` was the same before. After an accepted body without `a=fmtp`, RECORD is answered 400 if
and only if the body has no `a=aesiv` either or `fmtp` was empty before. -/
theorem announce_determines_iff {rx rx' : RtpRx} {c c' : SessionConfig} {k k' : Option RtspDone}
    (hreach : (sessionSystem anyEvent).Reachable (sessionBoot rx) c) (hth : c.th .rtsp = .ret k)
    (hreach' : (sessionSystem anyEvent).Reachable (sessionBoot rx') c') (hth' : c'.th .rtsp = .ret k')
    (psaDecrypt : Bytes → Option Bytes) (body : Bytes)
    (hans : (handleAnnounce psaDecrypt c.st.statics.session body).2 = true) :
    ((handleAnnounce psaDecrypt c.st.statics.session body).1.SameParameters
        (handleAnnounce psaDecrypt c'.st.statics.session body).1 ↔
      (sdpParse body).hasFmtp = true ∨
        c.st.statics.session.fmtp = c'.st.statics.session.fmtp) ∧
    ((sdpParse body).hasFmtp = false → ∀ (o : RequestOutcome) (cseq : ℤ) (w : SessionState),
      w.statics.session = (handleAnnounce psaDecrypt c.st.statics.session body).1 →
      ((handleRecord o cseq).rest w = sendResponse 400 cseq ↔
        (sdpParse body).hasAesiv = false ∨ c.st.statics.session.fmtp = [])) := by
  obtain ⟨m, hm, hb⟩ := session_refines hreach hth
  obtain ⟨m', hm', hb'⟩ := session_refines hreach' hth'
  rw [hb.session] at hans ⊢
  rw [hb'.session]
  refine ⟨handleAnnounce_sameParameters_iff hm.aesiv_length hm'.aesiv_length hans, ?_⟩
  intro hfmtp o cseq w hw
  obtain ⟨key, -, -, hwritten⟩ := handleAnnounce_accepted hans
  rw [handleRecord_rest_iff, hw, hwritten]
  show RaopState.announced ≠ .recording ∧
    ((sdpParse body).hasAesiv = false ∨ (if (sdpParse body).hasFmtp then _ else _) = []) ↔ _
  rw [hfmtp, if_neg Bool.false_ne_true, and_iff_right (by decide)]

/-! ### An ANNOUNCE without `a=fmtp` -/

/-- A body with a key and an IV, but without `a=fmtp`. -/
def pairOnly : String := "a=rsaaeskey:AQEB\na=aesiv:AAAAAAAAAAAAAAAAAAAAAA==\n"

/-- A connection on which a stream was announced before, between two events. -/
theorem reachable_announced : ∃ (c : SessionConfig) (k : Option RtspDone),
    (sessionSystem anyEvent).Reachable (sessionBoot sampleRx) c ∧ c.th .rtsp = .ret k ∧
      c.st.statics.session.fmtp = ascii "96 352 0 16 40 10 14 2 255 0 0 44100" := by
  have hrun : ((sessionBoot sampleRx).st.process anyEvent [.accept, sampleAnnounceOf zeroPair]).map
      (·.statics.session.fmtp) = some (ascii "96 352 0 16 40 10 14 2 255 0 0 44100") := by
    decide +kernel
  obtain ⟨s, hs, hfmtp⟩ := Option.map_eq_some_iff.mp hrun
  obtain ⟨c, k, hreach, hth, rfl⟩ := reachable_boot_process hs
  exact ⟨c, k, hreach, hth, hfmtp⟩

/-- The pair alone is accepted in every session. -/
theorem handleAnnounce_pairOnly (s : RaopSession) :
    (handleAnnounce keyOfHead s (ascii pairOnly)).2 = true := by
  rw [(handleAnnounce_cases keyOfHead s (ascii pairOnly)).1]
  decide +kernel

/-- On the connection of `reachable_announced` and on a new one, the same ANNOUNCE. -/
theorem announce_determines_iff_pairOnly : ∃ c : SessionConfig,
    c.st.statics.session.fmtp = ascii "96 352 0 16 40 10 14 2 255 0 0 44100" ∧
    ((handleAnnounce keyOfHead c.st.statics.session (ascii pairOnly)).1.SameParameters
        (handleAnnounce keyOfHead (sessionBoot sampleRx).st.statics.session (ascii pairOnly)).1 ↔
      (sdpParse (ascii pairOnly)).hasFmtp = true ∨
        c.st.statics.session.fmtp = (sessionBoot sampleRx).st.statics.session.fmtp) := by
  obtain ⟨c, k, hreach, hth, hfmtp⟩ := reachable_announced
  exact ⟨c, hfmtp, (announce_determines_iff hreach hth .start rfl keyOfHead (ascii pairOnly)
    (handleAnnounce_pairOnly _)).1⟩

/-- **The `fmtp` of an earlier ANNOUNCE**: the same accepted ANNOUNCE leaves different parameters on a
connection that was announced before and on a new one, and RECORD is not refused on the first. -/
theorem announce_keeps_fmtp : ∃ (c c' : SessionConfig) (k k' : Option RtspDone),
    ((sessionSystem anyEvent).Reachable (sessionBoot sampleRx) c ∧ c.th .rtsp = .ret k) ∧
    ((sessionSystem anyEvent).Reachable (sessionBoot sampleRx) c' ∧ c'.th .rtsp = .ret k') ∧
    (handleAnnounce keyOfHead c.st.statics.session (ascii pairOnly)).2 = true ∧
    (sdpParse (ascii pairOnly)).hasFmtp = false ∧
    ¬(handleAnnounce keyOfHead c.st.statics.session (ascii pairOnly)).1.SameParameters
      (handleAnnounce keyOfHead c'.st.statics.session (ascii pairOnly)).1 ∧
    ∀ (o : RequestOutcome) (cseq : ℤ) (w : SessionState),
      w.statics.session = (handleAnnounce keyOfHead c.st.statics.session (ascii pairOnly)).1 →
      (handleRecord o cseq).rest w ≠ sendResponse 400 cseq := by
  obtain ⟨c, k, hreach, hth, hfmtp⟩ := reachable_announced
  have hno : (sdpParse (ascii pairOnly)).hasFmtp = false := by decide +kernel
  obtain ⟨key, -, -, hwritten⟩ :=
    handleAnnounce_accepted (handleAnnounce_pairOnly c.st.statics.session)
  obtain ⟨key', -, -, hwritten'⟩ :=
    handleAnnounce_accepted (handleAnnounce_pairOnly (sessionBoot sampleRx).st.statics.session)
  rw [hno, if_neg Bool.false_ne_true] at hwritten hwritten'
  have hiv : (sdpParse (ascii pairOnly)).hasAesiv = true := by decide +kernel
  refine ⟨c, sessionBoot sampleRx, k, none, ⟨hreach, hth⟩, ⟨.start, rfl⟩,
    handleAnnounce_pairOnly _, hno, fun hsame => ?_, fun o cseq w hw => ?_⟩
  · have hold : c.st.statics.session.fmtp = [] := by
      have := hsame.fmtp
      rw [hwritten, hwritten'] at this
      exact this
    rw [hfmtp] at hold
    cases hold
  · rw [Ne, handleRecord_rest_iff, hw, hwritten]
    rintro ⟨-, hkey | hold⟩
    · rw [show (sdpParse (ascii pairOnly)).hasAesiv = false from hkey] at hiv
      cases hiv
    · rw [show c.st.statics.session.fmtp = [] from hold] at hfmtp
      cases hfmtp

end ConduitStream
