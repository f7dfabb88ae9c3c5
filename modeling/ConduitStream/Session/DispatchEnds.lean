import ConduitStream.Foundations.ProgramResults
import ConduitStream.Session.Outline

/-! # `dispatch` comes to its end

On its way to the response the RTSP task may wait for a producer task that it has asked to end, and
for nothing else: the sockets `socket` returns are not in use. A task that has a handle is alive
(`StaticsInv`), so it can do what is waited for. -/

namespace ConduitStream

/-- A producer task that has been asked to end leaves its loop. -/
def ProducerEnds (s s' : SessionState) : Prop :=
  ∃ p, (s.statics.tasks p).alive = true ∧ (s.statics.tasks p).run = false ∧
    (producerExit p).runAlone s = some ((), s')

/-- The sockets open after a call of `bind_one`; `none` if `socket` would return a descriptor that is
in use. -/
def BindOutcome.opened (udp : Finset ℤ) : BindOutcome → Option (Finset ℤ)
  | .noSocket => some udp
  | .unbound fd => if (fd : ℤ) ∈ udp then none else some ((insert (fd : ℤ) udp).erase fd)
  | .bound fd _ => if (fd : ℤ) ∈ udp then none else some (insert (fd : ℤ) udp)

/-- `socket` returns descriptors that are not in use. -/
def FreshBinds (binds : UdpRole → BindOutcome) (udp : Finset ℤ) : Prop :=
  ∃ u₁ u₂ u₃, (binds .audio).opened udp = some u₁ ∧ (binds .control).opened u₁ = some u₂ ∧
    (binds .timing).opened u₂ = some u₃

section Waiting

variable {s : SessionState}

/-- Releasing the crypto and the decoder does not wait. -/
theorem neverWaits_teardownCryptoDecoder : (teardownCryptoDecoder : SessionProg Unit).NeverWaits :=
  closed_teardownCryptoDecoder Prog.isClosed_neverWaits trivial

/-- Closing a socket does not wait. -/
theorem neverWaits_closeRole (role : UdpRole) : (closeRole role).NeverWaits := by
  refine Prog.neverWaits_bind Prog.neverWaits_atom fun fd => ?_
  refine Prog.neverWaits_ite ?_ (Prog.neverWaits_pure _)
  exact Prog.neverWaits_bind Prog.neverWaits_atom fun _ => Prog.neverWaits_atom

/-- Closing all three sockets does not wait, either. -/
theorem neverWaits_raopSessionCloseUdp : raopSessionCloseUdp.NeverWaits :=
  Prog.neverWaits_bind (neverWaits_closeRole _) fun _ =>
    Prog.neverWaits_bind (neverWaits_closeRole _) fun _ =>
      Prog.neverWaits_bind (neverWaits_closeRole _) fun _ => Prog.neverWaits_atom

/-- Starting the RTP task does not wait for it. -/
theorem neverWaits_raopRtpStart (o : StartOutcome) : (raopRtpStart o).NeverWaits :=
  closed_raopRtpStart Prog.isClosed_neverWaits trivial trivial trivial o

/-- A live producer ends when it is asked to. -/
theorem joinProducer_finishes {p : Producer} (halive : (s.statics.tasks p).alive = true) :
    ∃ s', Prog.Finishes ProducerEnds (joinProducer p) s () s' := by
  -- the request to end
  have hself : ((s.onStatics (·.onTask p ({ · with run := false }))).statics.tasks p)
      = { s.statics.tasks p with run := false } := by
    rw [SessionState.onStatics_statics, SessionStatics.onTask_self]
  by_cases hdone : (s.statics.tasks p).done = true
  · exact ⟨_, Prog.Finishes.atom.bind (.act (by rw [hself]; exact hdone) .ret)⟩
  · have hends : ProducerEnds (s.onStatics (·.onTask p ({ · with run := false }))) _ :=
      ⟨p, by rw [hself]; exact halive, by rw [hself], rfl⟩
    refine ⟨_, Prog.Finishes.atom.bind (.wait ?_ hends (.act ?_ .ret))⟩
    · rw [hself]
      simpa using hdone
    · simp [SessionStatics.onTask]

/-- Sending a response does not wait for a task. -/
theorem neverWaits_sendResponse (status : ℕ) (cseq : ℤ) : (sendResponse status cseq).NeverWaits :=
  Prog.neverWaits_atom

/-- `audio_diag_tone_stop` comes to its end, as a task that has a handle is alive. -/
theorem audioDiagToneStop_finishes (hinv : StaticsInv s.statics) :
    ∃ s', Prog.Finishes ProducerEnds audioDiagToneStop s () s' := by
  by_cases htask : (s.statics.tasks .diagTone).task = true
  · obtain ⟨s', hjoin⟩ := joinProducer_finishes (hinv.handle _ htask)
    refine ⟨s', Prog.Finishes.atom.bind ?_⟩
    simpa [htask] using hjoin
  · have hend : Prog.Finishes ProducerEnds (pure () : SessionProg Unit) s () s := .ret
    refine ⟨s, Prog.Finishes.atom.bind ?_⟩
    simpa [htask] using hend

/-- `raop_rtp_stop` comes to its end, once the task has seen the flag. -/
theorem raopRtpStop_finishes (hinv : StaticsInv s.statics) :
    ∃ b s', Prog.Finishes ProducerEnds raopRtpStop s b s' := by
  unfold raopRtpStop
  by_cases htask : (s.statics.tasks .raopRtp).task = true
  · obtain ⟨s', hjoin⟩ := joinProducer_finishes (hinv.handle _ htask)
    have hrest : (do
        teardownCryptoDecoder
        .modify .access fun w => (w.onRx ({ · with peerKnown := false })).onStatics fun s =>
          { s with io := { s.io with audioFd := -1, controlFd := -1, timingFd := -1 } }
        return true : SessionProg Bool).NeverWaits :=
      Prog.neverWaits_bind neverWaits_teardownCryptoDecoder fun _ =>
        Prog.neverWaits_bind Prog.neverWaits_atom fun _ => Prog.neverWaits_pure _
    obtain ⟨b, s₁, hend⟩ := hjoin.andThen (f := fun _ => _) hrest
    refine ⟨b, s₁, Prog.Finishes.atom.bind ?_⟩
    simpa [htask] using hend
  · obtain ⟨b, s', hend⟩ := (Prog.neverWaits_bind neverWaits_teardownCryptoDecoder fun _ =>
      Prog.neverWaits_pure false).finishes ProducerEnds s
    refine ⟨b, s', Prog.Finishes.atom.bind ?_⟩
    simpa [htask] using hend

/-- A session that is torn down waits for nothing else. -/
theorem sessionTeardownFull_finishes (hinv : StaticsInv s.statics) :
    ∃ s', Prog.Finishes ProducerEnds sessionTeardownFull s () s' := by
  have hreset : raopSessionReset.NeverWaits :=
    Prog.neverWaits_bind neverWaits_raopSessionCloseUdp fun _ => Prog.neverWaits_atom
  obtain ⟨b, s₁, hstop⟩ := raopRtpStop_finishes hinv
  obtain ⟨⟨⟩, s', hend⟩ := hstop.andThen (f := fun _ => raopSessionReset) hreset
  exact ⟨s', hend⟩

/-- A call of `bind_one` comes to its end, as its descriptor is not in use. -/
theorem bindRole_finishes (role : UdpRole) {o : BindOutcome} {udp : Finset ℤ}
    (h : o.opened s.statics.udp = some udp) :
    ∃ s', Prog.Finishes ProducerEnds (bindRole role o) s () s' ∧ s'.statics.udp = udp := by
  have hopen : ∀ fd : ℕ, (fd : ℤ) ∉ s.statics.udp → Prog.Finishes ProducerEnds (openSocket fd) s ()
      (s.onStatics fun v => { v with udp := insert (fd : ℤ) v.udp }) := fun fd hfd =>
    .act (by simpa using hfd) .ret
  cases o with
  | noSocket =>
      cases h
      exact ⟨_, Prog.Finishes.bind .ret Prog.Finishes.atom, rfl⟩
  | unbound fd =>
      rw [BindOutcome.opened] at h
      split at h
      · cases h
      · next hfd =>
          cases h
          exact ⟨_, ((hopen fd hfd).bind (Prog.Finishes.atom.bind .ret)).bind Prog.Finishes.atom, rfl⟩
  | bound fd port =>
      rw [BindOutcome.opened] at h
      split at h
      · cases h
      · next hfd =>
          cases h
          have hone : Prog.Finishes ProducerEnds (bindOne (.bound fd port)) s ((fd : ℤ), some port) _ :=
            (hopen fd hfd).bind .ret
          exact ⟨_, hone.bind Prog.Finishes.atom, rfl⟩

/-- SETUP comes to its end, whether the sockets are bound or not. -/
theorem handleSetup_finishes {binds : UdpRole → BindOutcome} (req : RtspRequest) (cseq : ℤ)
    (hfresh : FreshBinds binds s.statics.udp) :
    ∃ s', Prog.Finishes ProducerEnds (handleSetup binds req cseq) s () s' := by
  -- from `raop_session_bind_udp` on
  have hbind : ∀ s : SessionState, FreshBinds binds s.statics.udp →
      ∃ s', Prog.Finishes ProducerEnds (do
        let r ← raopSessionBindUdp binds
        if r ≠ 0 then
          sendResponse 500 cseq
          return ()
        .modify .access (·.onStatics (·.onSession ({ · with state := .setup })))
        sendResponse 200 cseq) s () s' := by
    rintro s ⟨u₁, u₂, u₃, h₁, h₂, h₃⟩
    obtain ⟨s₁, hrun₁, rfl⟩ := bindRole_finishes .audio h₁
    obtain ⟨s₂, hrun₂, rfl⟩ := bindRole_finishes .control h₂
    obtain ⟨s₃, hrun₃, rfl⟩ := bindRole_finishes .timing h₃
    have hrest : (do
        let fd ← .read .access (·.statics.session.fd)
        if fd .audio < 0 ∨ fd .control < 0 ∨ fd .timing < 0 then
          raopSessionCloseUdp
          return -1
        return 0 : SessionProg ℤ).NeverWaits := by
      refine Prog.neverWaits_bind Prog.neverWaits_atom fun fd => ?_
      refine Prog.neverWaits_ite ?_ (Prog.neverWaits_pure _)
      exact Prog.neverWaits_bind neverWaits_raopSessionCloseUdp fun _ => Prog.neverWaits_pure _
    obtain ⟨r, s₄, hrun₄⟩ := hrest.finishes ProducerEnds s₃
    refine Exists.imp (fun s' h => (hrun₁.bind (hrun₂.bind (hrun₃.bind hrun₄))).bind h) ?_
    by_cases hr : r ≠ 0
    · rw [if_pos hr]
      exact ⟨_, Prog.Finishes.atom.bind .ret⟩
    · rw [if_neg hr]
      exact ⟨_, Prog.Finishes.atom.bind Prog.Finishes.atom⟩
  unfold handleSetup
  cases rtspHeaderGet req.headers (ascii "Transport") with
  | some t =>
      obtain ⟨s', h⟩ := hbind (s.onStatics (·.onSession (transportPorts t))) hfresh
      exact ⟨s', Prog.Finishes.atom.bind h⟩
  | none => exact hbind s hfresh

/-- RECORD finishes, since the producer it stops ends. -/
theorem handleRecord_finishes (o : RequestOutcome) (cseq : ℤ) (hinv : StaticsInv s.statics) :
    ∃ s', Prog.Finishes ProducerEnds (handleRecord o cseq) s () s' := by
  have hstart : (do
      let r ← raopRtpStart o.start
      if r = 0 then
        .modify .access (·.onStatics (·.onSession ({ · with state := .recording })))
      sendResponse 200 cseq : SessionProg Unit).NeverWaits := by
    refine Prog.neverWaits_bind (neverWaits_raopRtpStart _) fun r => ?_
    by_cases hr : r = 0
    · rw [if_pos hr]
      exact Prog.neverWaits_bind Prog.neverWaits_atom fun _ => neverWaits_sendResponse 200 cseq
    · rw [if_neg hr]
      exact neverWaits_sendResponse 200 cseq
  refine Exists.imp (fun s' h => Prog.Finishes.atom.bind h) ?_
  by_cases hrec : s.statics.session.state = .recording
  · rw [if_pos hrec]
    exact ⟨_, Prog.Finishes.atom⟩
  rw [if_neg hrec]
  by_cases hno : s.statics.session.haveKey = false ∨ s.statics.session.fmtp = []
  · rw [if_pos hno]
    exact ⟨_, Prog.Finishes.atom⟩
  rw [if_neg hno]
  obtain ⟨s₁, hstop⟩ := audioDiagToneStop_finishes hinv
  refine Exists.imp (fun s' h => hstop.bind h) ?_
  cases o.peername with
  | some ip =>
      obtain ⟨⟨⟩, s', h⟩ := (Prog.neverWaits_bind Prog.neverWaits_atom fun _ => hstart).finishes ProducerEnds s₁
      exact ⟨s', h⟩
  | none =>
      obtain ⟨⟨⟩, s', h⟩ := hstart.finishes ProducerEnds s₁
      exact ⟨s', h⟩

/-- **`dispatch` comes to its end** from every state that satisfies the invariant. -/
theorem dispatch_finishes {o : RequestOutcome} (req : RtspRequest) (hinv : StaticsInv s.statics)
    (hfresh : FreshBinds o.binds s.statics.udp) :
    ∃ closeConn s', Prog.Finishes ProducerEnds (dispatch o req) s closeConn s' := by
  have hreturn : ∀ {b : Bool} {p : SessionProg Unit}, (∃ s', Prog.Finishes ProducerEnds p s () s') →
      ∃ closeConn s', Prog.Finishes ProducerEnds (do p; return b) s closeConn s' := by
    rintro b p ⟨s', h⟩
    exact ⟨b, s', h.bind .ret⟩
  have hrespond : ∀ status cseq,
      ∃ s', Prog.Finishes ProducerEnds (sendResponse status cseq) s () s' := fun _ _ =>
    ⟨_, Prog.Finishes.atom⟩
  unfold dispatch
  dsimp only
  split
  · refine hreturn ?_
    unfold handleAnnounceRequest
    refine Exists.imp (fun s' h => Prog.Finishes.atom.bind h) ?_
    split <;> exact ⟨_, Prog.Finishes.atom⟩
  split
  · exact hreturn (handleSetup_finishes req _ hfresh)
  split
  · exact hreturn (handleRecord_finishes o _ hinv)
  split
  · exact hreturn (hrespond ..)
  split
  · obtain ⟨s', h⟩ := sessionTeardownFull_finishes hinv
    exact ⟨_, _, h.bind (Prog.Finishes.atom.bind .ret)⟩
  · exact hreturn (hrespond ..)

end Waiting

end ConduitStream
