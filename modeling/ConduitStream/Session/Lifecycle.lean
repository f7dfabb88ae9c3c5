import ConduitStream.Session.Refinement

/-! # The life of a session: its state and its sockets

Two properties of the states between two events hold in every run that spares a session in use:
`state` is `RAOP_RECORDING` exactly while the RTP task runs (`recording_iff_running`), and the open
UDP sockets are those of the session record (`udpSockets_accounted`). Each is an invariant of the
sequential machine, kept by every event that meets the condition. An ANNOUNCE or SETUP while the RTP
task runs breaks the first (`recording_lost_on_reannounce`), a second SETUP the other
(`udpSockets_leaked_on_resetup`). -/

namespace ConduitStream

variable {meets : EventCondition} {rx : RtpRx} {c : SessionConfig}

/-! ## Runs of the RTSP task alone -/

instance (client : Bool) (s : RaopSession) : ∀ e : RtspEvent, Decidable (e.Enabled client s)
  | .accept => inferInstanceAs (Decidable (client = false))
  | .refuse | .request .. | .oversize _ | .drop | .disconnect =>
      inferInstanceAs (Decidable (client = true))
  | .reclaim => inferInstanceAs (Decidable (client = true ∧ s.state ≠ .recording))
  | .stop | .rtpStart _ | .rtpStop | .toneStart _ | .toneStop => .isTrue trivial

/-- Let the RTSP task process the events while no producer moves. -/
def SessionState.process (meets : EventCondition) [∀ r b e, Decidable (meets r b e)] :
    SessionState → List RtspEvent → Option SessionState
  | s, [] => some s
  | s, e :: es =>
      if e.Enabled s.statics.client s.statics.session ∧
          meets s.statics.session (s.statics.tasks .raopRtp).task e then
        match e.program.runAlone s with
        | some (_, s') => s'.process meets es
        | none => none
      else none

/-- What the RTSP task does alone is part of an interleaving. -/
theorem reachable_process [∀ r b e, Decidable (meets r b e)] {s s' : SessionState}
    {th : (t : SessionTask) → SessionProg (SessionCtl t)} {k : Option RtspDone}
    {es : List RtspEvent}
    (h : (sessionSystem meets).Reachable (sessionBoot rx) ⟨s, th⟩) (hth : th .rtsp = .ret k)
    (hrun : s.process meets es = some s') :
    ∃ k', (sessionSystem meets).Reachable (sessionBoot rx)
      ⟨s', Function.update th .rtsp (.ret k')⟩ := by
  induction es generalizing s th k with
  | nil =>
      cases hrun
      refine ⟨k, ?_⟩
      rw [← hth, Function.update_eq_self]
      exact h
  | cons e es ih =>
      unfold SessionState.process at hrun
      split at hrun
      -- the event is one atomic stretch of the interleaving, in which no producer steps
      · next hcond =>
          split at hrun
          · next r s₁ hrun₁ =>
              have hstep := h.runAlone hth (.event hcond.1 hcond.2) (Prog.runAlone_bind hrun₁)
              obtain ⟨k', hk'⟩ := ih hstep (Function.update_self ..) hrun
              rw [Function.update_idem] at hk'
              exact ⟨k', hk'⟩
          · cases hrun
      · cases hrun

/-- What the RTSP task does alone from boot on. -/
theorem reachable_boot_process [∀ r b e, Decidable (meets r b e)] {s : SessionState}
    {es : List RtspEvent} (hrun : (sessionBoot rx).st.process meets es = some s) :
    ∃ (c : SessionConfig) (k : Option RtspDone),
      (sessionSystem meets).Reachable (sessionBoot rx) c ∧ c.th .rtsp = .ret k ∧ c.st = s := by
  obtain ⟨k, hk⟩ := reachable_process .start rfl hrun
  have hth : Function.update (sessionBoot rx).th .rtsp (.ret k) .rtsp = .ret k :=
    Function.update_self ..
  exact ⟨_, k, hk, hth, rfl⟩

/-! ## The state and the RTP task -/

/-- The socket is bound. -/
def BindOutcome.isBound : BindOutcome → Bool
  | .bound .. => true
  | _ => false

/-- All three sockets are bound. -/
def allBound (binds : UdpRole → BindOutcome) : Bool :=
  (binds .audio).isBound && (binds .control).isBound && (binds .timing).isBound

/-- The request takes the session to another state than `RAOP_RECORDING`: an ANNOUNCE that is
accepted, or a SETUP that binds all three sockets. -/
def leavesRecording (req : RtspRequest) (o : RequestOutcome) : Bool :=
  strcmpEq req.method (ascii "ANNOUNCE") && announceAccepted o.psaDecrypt req.body ||
    strcmpEq req.method (ascii "SETUP") && allBound o.binds

/-- The events of `server_task`; the tone may be started and stopped in between. -/
def serverEvents : EventCondition
  | _, _, .rtpStart _ | _, _, .rtpStop => False
  | _, _, _ => True

/-- The events of `server_task` that spare a stream. -/
def sparesStream : EventCondition
  | _, running, .request req o => running = true → leavesRecording req o = false
  | s, running, e => serverEvents s running e

instance (s : RaopSession) (running : Bool) : ∀ e, Decidable (serverEvents s running e)
  | .rtpStart _ | .rtpStop => .isFalse id
  | .accept | .refuse | .request .. | .oversize _ | .drop | .disconnect | .reclaim | .stop
  | .toneStart _ | .toneStop => .isTrue trivial

instance (s : RaopSession) (running : Bool) : ∀ e, Decidable (sparesStream s running e)
  | .request req o => inferInstanceAs (Decidable (running = true → leavesRecording req o = false))
  | .rtpStart _ | .rtpStop => .isFalse id
  | .accept | .refuse | .oversize _ | .drop | .disconnect | .reclaim | .stop
  | .toneStart _ | .toneStop => .isTrue trivial

namespace SessionModel

variable {m : SessionModel}

/-- A socket is there exactly if its binding has worked. -/
theorem bindRole_nonneg {role : UdpRole} {o : BindOutcome} :
    0 ≤ (m.bindRole role o).session.fd role ↔ o.isBound = true := by
  have hnone : ¬0 ≤ Function.update m.session.fd role (-1) role := by
    rw [Function.update_self]
    decide
  cases o with
  | bound fd port =>
      have hfd : (m.bindRole role (.bound fd port)).session.fd role = fd := Function.update_self ..
      exact iff_of_true (hfd ▸ Int.natCast_nonneg fd) rfl
  | noSocket => exact iff_of_false hnone Bool.false_ne_true
  | unbound fd => exact iff_of_false hnone Bool.false_ne_true

/-- **`raop_session_bind_udp`** succeeds when all three calls do. -/
theorem bindUdp_eq_zero (m : SessionModel) (binds : UdpRole → BindOutcome) :
    (m.bindUdp binds).2 = 0 ↔ allBound binds = true := by
  obtain ⟨haudio, hcontrol⟩ := m.bindAll_fd binds
  have hall : allBound binds = true ↔ 0 ≤ (m.bindAll binds).session.fd .audio ∧
      0 ≤ (m.bindAll binds).session.fd .control ∧ 0 ≤ (m.bindAll binds).session.fd .timing := by
    rw [haudio, hcontrol, bindRole_nonneg, bindRole_nonneg]
    unfold bindAll allBound
    rw [bindRole_nonneg, Bool.and_eq_true, Bool.and_eq_true, and_assoc]
  rw [hall]
  unfold bindUdp
  dsimp only
  split
  · next hfail => exact iff_of_false (show (-1 : ℤ) ≠ 0 by decide) (by omega)
  · next hok => exact iff_of_true rfl (by omega)

/-- Binding changes neither the state nor the producer. -/
theorem bindUdp_frame (m : SessionModel) (binds : UdpRole → BindOutcome) :
    (m.bindUdp binds).1.producer = m.producer ∧
      (m.bindUdp binds).1.session.state = m.session.state := by
  have hall : (m.bindAll binds).producer = m.producer ∧
      (m.bindAll binds).session.state = m.session.state := by
    unfold bindAll
    obtain ⟨hp, hs⟩ := m.bindRole_frame .audio (binds .audio)
    obtain ⟨hp', hs'⟩ := (m.bindRole .audio (binds .audio)).bindRole_frame .control (binds .control)
    obtain ⟨hp'', hs''⟩ := ((m.bindRole .audio (binds .audio)).bindRole .control
      (binds .control)).bindRole_frame .timing (binds .timing)
    exact ⟨hp''.trans (hp'.trans hp), hs''.trans (hs'.trans hs)⟩
  unfold bindUdp
  dsimp only
  split
  · obtain ⟨hp, hs⟩ := (m.bindAll binds).closeUdp_frame
    exact ⟨hp.trans hall.1, hs.trans hall.2⟩
  · exact hall

/-- **SETUP** makes the session set up if all three sockets are bound. -/
theorem setup_state (m : SessionModel) (binds : UdpRole → BindOutcome) (req : RtspRequest) :
    (m.setup binds req).producer = m.producer ∧
      (m.setup binds req).session.state = if allBound binds then .setup else m.session.state := by
  obtain ⟨m₁, ⟨-, hstate⟩, ⟨-, hproducer⟩, hsetup⟩ := m.setup_eq binds req
  obtain ⟨hp, hs⟩ := m₁.bindUdp_frame binds
  have hzero := m₁.bindUdp_eq_zero binds
  rw [hsetup]
  -- a partial success is undone: only all three sockets make a SETUP
  cases hall : allBound binds with
  | true =>
      rw [if_neg (not_not.mpr (hzero.mpr hall))]
      exact ⟨hp.trans hproducer, rfl⟩
  | false =>
      rw [if_pos fun h => by rw [hzero.mp h] at hall; cases hall]
      exact ⟨hp.trans hproducer, hs.trans hstate⟩

/-- What RECORD does to state and task: it starts the RTP task, or leaves both as they are. -/
theorem record_cases (m : SessionModel) (o : RequestOutcome) :
    ((m.record o).session.state = .recording ∧ (m.record o).Streaming ∧
        (m.handOver o.peername).canStart o.start = true) ∨
      ((m.record o).session.state = m.session.state ∧ ((m.record o).Streaming ↔ m.Streaming)) := by
  -- stopping the tone and noting the client change neither state nor stream
  have hstate : (m.handOver o.peername).session.state = m.session.state := by
    have hs : (m.stopProducer .diagTone).session.state = m.session.state :=
      congrArg RaopSession.state (m.stopProducer_frame .diagTone).1
    cases o.peername <;> exact hs
  have hover : (m.handOver o.peername).Streaming ↔ m.Streaming := by
    have hstop := m.streaming_stopTone
    cases o.peername <;> exact hstop
  unfold SessionModel.record
  by_cases hrec : m.session.state = .recording
  · rw [if_pos hrec]
    exact .inr ⟨rfl, Iff.rfl⟩
  rw [if_neg hrec]
  by_cases hno : m.session.haveKey = false ∨ m.session.fmtp = []
  · rw [if_pos hno]
    exact .inr ⟨rfl, Iff.rfl⟩
  rw [if_neg hno]
  dsimp only [startRtp]
  cases hstart : (m.handOver o.peername).canStart o.start with
  | true => exact .inl ⟨rfl, rfl, rfl⟩
  | false => exact .inr ⟨hstate, hover⟩

/-- The session is recording exactly while the RTP task runs. -/
def RecordingStreams (m : SessionModel) : Prop := m.session.state = .recording ↔ m.Streaming

/-- RECORD makes the session record if it starts the RTP task. -/
theorem RecordingStreams.record (h : m.RecordingStreams) (o : RequestOutcome) :
    (m.record o).RecordingStreams := by
  rcases m.record_cases o with ⟨hstate, hstream, -⟩ | ⟨hstate, hstream⟩
  · exact iff_of_true hstate hstream
  · rw [RecordingStreams, hstate, hstream]
    exact h

/-- A request that does not leave `RAOP_RECORDING` keeps the agreement, and so does any request
without a stream. -/
theorem RecordingStreams.moves {m' : SessionModel} {moves : Bool} {state : RaopState}
    (h : m.RecordingStreams) (hspares : m.Streaming → moves = false) (hnot : state ≠ .recording)
    (hproducer : m'.producer = m.producer)
    (hstate : m'.session.state = if moves then state else m.session.state) :
    m'.RecordingStreams := by
  unfold RecordingStreams Streaming
  rw [hstate, hproducer]
  cases moves with
  | true =>
      rw [if_pos rfl]
      exact iff_of_false hnot fun hm => Bool.false_ne_true (hspares hm).symm
  | false => exact h

/-- **Step lemma**: an event that spares the stream keeps state and task in agreement. -/
theorem RecordingStreams.step (h : m.RecordingStreams) {e : RtspEvent}
    (hadmits : m.Admits sparesStream e) : (m.step e).1.RecordingStreams := by
  generalize hm' : (m.step e).1 = m'
  have heffect := step_effect m e
  rw [hm'] at heffect
  cases heffect with
  | teardown c _ =>
      exact iff_of_false (show RaopState.idle ≠ .recording by decide) m.not_streaming_teardownFull
  | @announce req o hreq =>
      -- the condition is that no stream gets an ANNOUNCE that is accepted
      obtain ⟨-, hstate, -⟩ := handleAnnounce_cases o.psaDecrypt m.session req.body
      refine h.moves (fun hm => ?_) (by decide) rfl hstate
      have hspares := hadmits.2 (decide_eq_true hm)
      unfold leavesRecording at hspares
      rw [hreq, Bool.true_and, Bool.or_eq_false_iff] at hspares
      exact hspares.1
  | @setup req o hreq =>
      -- nor a SETUP that succeeds
      obtain ⟨hproducer, hstate⟩ := m.setup_state o.binds req
      refine h.moves (fun hm => ?_) (by decide) hproducer hstate
      have hspares := hadmits.2 (decide_eq_true hm)
      unfold leavesRecording at hspares
      rw [hreq, Bool.true_and, Bool.or_eq_false_iff] at hspares
      exact hspares.2
  | record hreq => exact h.record _
  | rtpStart o => exact hadmits.2.elim
  | rtpStop => exact hadmits.2.elim
  | toneStart created =>
      unfold RecordingStreams
      rw [(m.startTone_frame created).1, streaming_startTone]
      exact h
  | toneStop =>
      unfold RecordingStreams
      rw [(m.stopProducer_frame .diagTone).1, streaming_stopTone]
      exact h
  | none => exact h

end SessionModel

/-- **Session state and RTP task agree** in every run of `server_task` in which no stream is sent an
ANNOUNCE that is accepted or a SETUP that succeeds: whenever an event has been processed, the session
is in state `RAOP_RECORDING` if and only if `s_task` is set, so that an idle client is never reclaimed
while a stream is live. -/
theorem recording_iff_running
    (hreach : (sessionSystem sparesStream).Reachable (sessionBoot rx) c) (k : Option RtspDone)
    (hth : c.th .rtsp = .ret k) :
    (c.st.statics.session.state = .recording ↔ (c.st.statics.tasks .raopRtp).task = true) ∧
      (RtspEvent.reclaim.Enabled c.st.statics.client c.st.statics.session →
        (c.st.statics.tasks .raopRtp).alive = false) := by
  obtain ⟨m, hm, hb⟩ := session_refines hreach hth
  have hagree : m.RecordingStreams :=
    hm.invariant (iff_of_false (by decide) nofun) fun _ _ h hadmits => h.step hadmits
  have hiff : c.st.statics.session.state = .recording ↔
      (c.st.statics.tasks .raopRtp).task = true := by
    rw [hb.session, hb.handle, decide_eq_true_iff]
    exact hagree
  refine ⟨hiff, fun hidle => ?_⟩
  rw [← hb.task, ← Bool.not_eq_true, ← hiff]
  exact hidle.2

/-! ### A sample run -/

/-- The statics of the receive path at boot. -/
def sampleRx : RtpRx :=
  ⟨⟨0, 0⟩, false, rtpReorderInit (fun _ => ⟨false, 0, 0, []⟩) reorderWindow reorderHold, 0, false, 0⟩

/-- A request to which the outside answers with success; a SETUP gets the descriptors from `fd`
on. -/
def sampleRequest (method body : String) (fd : ℕ) : RtspEvent :=
  .request ⟨ascii method, ascii "*", ascii "RTSP/1.0", [], ascii body, 0⟩
    { psaDecrypt := fun _ => some (List.replicate 16 0)
      binds := fun
        | .audio => .bound fd 6000
        | .control => .bound (fd + 1) 6001
        | .timing => .bound (fd + 2) 6002
      peername := some 1
      start := ⟨true, true, some fun _ => ⟨false, 0, 0, []⟩, true⟩ }

/-- An ANNOUNCE that is accepted. -/
def sampleAnnounce : RtspEvent :=
  sampleRequest "ANNOUNCE"
    "a=rsaaeskey:AAAA\na=aesiv:AAAAAAAAAAAAAAAAAAAAAA==\na=fmtp:96 352 0 16 40 10 14 2 255 0 0 44100\n"
    0

/-- A sender connects and starts a stream. -/
def sampleStream : List RtspEvent :=
  [.accept, sampleAnnounce, sampleRequest "SETUP" "" 3, sampleRequest "RECORD" "" 0]

/-- In the sample run the session comes to be recording. -/
theorem recording_iff_running_sample : ∃ c : SessionConfig,
    c.st.statics.session.state = .recording ∧
      (c.st.statics.session.state = .recording ↔ (c.st.statics.tasks .raopRtp).task = true) := by
  have hrun : ((sessionBoot sampleRx).st.process sparesStream sampleStream).map
      (·.statics.session.state) = some .recording := by decide +kernel
  obtain ⟨s, hs, hstate⟩ := Option.map_eq_some_iff.mp hrun
  obtain ⟨c, k, hreach, hth, rfl⟩ := reachable_boot_process hs
  exact ⟨c, hstate, (recording_iff_running hreach k hth).1⟩

/-- **A second ANNOUNCE during a stream**: the RTP task runs on, but the session is only announced,
and the client can be reclaimed as idle. -/
theorem recording_lost_on_reannounce : ∃ (c : SessionConfig) (k : Option RtspDone),
    (sessionSystem serverEvents).Reachable (sessionBoot sampleRx) c ∧ c.th .rtsp = .ret k ∧
      (c.st.statics.tasks .raopRtp).task = true ∧ (c.st.statics.tasks .raopRtp).alive = true ∧
      c.st.statics.session.state ≠ .recording ∧
      RtspEvent.reclaim.Enabled c.st.statics.client c.st.statics.session := by
  have hrun : ((sessionBoot sampleRx).st.process serverEvents (sampleStream ++ [sampleAnnounce])).map
      (fun s => ((s.statics.tasks .raopRtp).task, (s.statics.tasks .raopRtp).alive,
        s.statics.session.state, s.statics.client))
      = some (true, true, .announced, true) := by decide +kernel
  obtain ⟨s, hs, heq⟩ := Option.map_eq_some_iff.mp hrun
  obtain ⟨htask, halive, hstate, hclient⟩ : _ ∧ _ ∧ _ ∧ _ := by simpa only [Prod.mk.injEq] using heq
  obtain ⟨c, k, hreach, hth, rfl⟩ := reachable_boot_process hs
  have hne : c.st.statics.session.state ≠ .recording := by
    rw [hstate]
    decide
  exact ⟨c, k, hreach, hth, htask, halive, hne, hclient, hne⟩

/-! ## The sockets -/

instance UdpRole.decidableForall {P : UdpRole → Prop} [∀ role, Decidable (P role)] :
    Decidable (∀ role, P role) :=
  decidable_of_iff (P .audio ∧ P .control ∧ P .timing)
    ⟨fun ⟨haudio, hcontrol, htiming⟩ role => role.rec haudio hcontrol htiming,
      fun h => ⟨h .audio, h .control, h .timing⟩⟩

/-- SETUP comes only while the session has no socket. -/
def setsUpUnbound : EventCondition
  | s, _, .request req _ => strcmpEq req.method (ascii "SETUP") = true → ∀ role, s.fd role < 0
  | _, _, _ => True

instance (s : RaopSession) (running : Bool) : ∀ e, Decidable (setsUpUnbound s running e)
  | .request req _ =>
      inferInstanceAs (Decidable (strcmpEq req.method (ascii "SETUP") = true → ∀ role, s.fd role < 0))
  | .accept | .refuse | .oversize _ | .drop | .disconnect | .reclaim | .stop
  | .rtpStart _ | .rtpStop | .toneStart _ | .toneStop => .isTrue trivial

/-- Every event may come. -/
def anyEvent : EventCondition := fun _ _ _ => True

instance (s : RaopSession) (running : Bool) (e : RtspEvent) : Decidable (anyEvent s running e) :=
  .isTrue trivial

namespace SessionModel

variable {m m' : SessionModel}

/-- The open sockets are those of the session. -/
def Accounted (m : SessionModel) : Prop := ∀ fd ∈ m.udp, 0 ≤ fd ∧ ∃ role, m.session.fd role = fd

/-- The same sockets are accounted for. -/
theorem Accounted.congr (h : m.Accounted) (hfd : m'.session.fd = m.session.fd)
    (hudp : m'.udp = m.udp) : m'.Accounted := by
  unfold Accounted
  rw [hfd, hudp]
  exact h

/-- Closing the sockets of the session closes all of them. -/
theorem Accounted.closeUdp (h : m.Accounted) : m.closeUdp.udp = ∅ := by
  refine Finset.eq_empty_of_forall_notMem fun fd hfd => ?_
  obtain ⟨hopen, hne⟩ := mem_closeUdp.mp hfd
  obtain ⟨hpos, role, hrole⟩ := h fd hopen
  exact hne role (hrole ▸ hpos) hrole.symm

/-- **The teardown closes every socket that is accounted for.** -/
theorem Accounted.teardownFull (h : m.Accounted) : m.teardownFull.udp = ∅ := by
  obtain ⟨hsession, hudp⟩ := m.stopProducer_frame .raopRtp
  exact (h.congr (congrArg RaopSession.fd hsession) hudp).closeUdp

/-- Without open sockets nothing is unaccounted for. -/
theorem accounted_of_empty (h : m.udp = ∅) : m.Accounted := by
  intro fd hfd
  rw [h] at hfd
  cases Finset.notMem_empty fd hfd

/-- Sockets are bound for a session that has none. -/
theorem Accounted.bindUdp (h : m.Accounted) (hnone : ∀ role, m.session.fd role < 0)
    (binds : UdpRole → BindOutcome) : (m.bindUdp binds).1.Accounted := by
  -- an open socket would be one of the session
  have hudp : ∀ fd, fd ∉ m.udp := by
    intro fd hfd
    obtain ⟨hpos, role, hrole⟩ := h fd hfd
    exact absurd (hnone role) (not_lt.mpr (hrole ▸ hpos))
  have hall : (m.bindAll binds).Accounted := fun fd hfd =>
    (mem_bindAll.mp hfd).resolve_left (hudp fd)
  unfold SessionModel.bindUdp
  dsimp only
  split
  · exact accounted_of_empty hall.closeUdp
  · exact hall

/-- A SETUP without sockets before it accounts for those it opens. -/
theorem Accounted.setup (h : m.Accounted) (hnone : ∀ role, m.session.fd role < 0)
    (binds : UdpRole → BindOutcome) (req : RtspRequest) : (m.setup binds req).Accounted := by
  obtain ⟨m₁, ⟨hfd, -⟩, ⟨hudp, -⟩, hsetup⟩ := m.setup_eq binds req
  have hbind := (h.congr hfd hudp).bindUdp (fun role => hfd ▸ hnone role) binds
  rw [hsetup]
  split
  · exact hbind
  · exact hbind.congr rfl rfl

/-- **Step lemma**: an event under the condition keeps every open socket in the session. -/
theorem Accounted.step (h : m.Accounted) {e : RtspEvent} (hadmits : m.Admits setsUpUnbound e) :
    (m.step e).1.Accounted := by
  rcases m.step_sockets e with ⟨c, hstep⟩ | ⟨req, o, rfl, hreq, hstep⟩ | ⟨hfd, hudp⟩
  · rw [hstep]
    exact accounted_of_empty h.teardownFull
  · rw [hstep]
    exact h.setup (hadmits.2 hreq) o.binds req
  · exact h.congr hfd hudp

end SessionModel

/-- **Every open UDP socket is one of the session's** between two events of any run in which SETUP
comes only while the session has no socket; so there are at most three, and none after
`session_teardown_full`. -/
theorem udpSockets_accounted
    (hreach : (sessionSystem setsUpUnbound).Reachable (sessionBoot rx) c) (k : Option RtspDone)
    (hth : c.th .rtsp = .ret k) :
    c.st.statics.udp ⊆ {c.st.statics.session.fd .audio, c.st.statics.session.fd .control,
        c.st.statics.session.fd .timing} ∧
      c.st.statics.udp.card ≤ 3 ∧
      ∀ d, k = some d → d.event.tearsDown = true → c.st.statics.udp = ∅ := by
  have haccounted : ∀ {m : SessionModel}, SessionModel.Reached setsUpUnbound m → m.Accounted :=
    fun hm => hm.invariant (SessionModel.accounted_of_empty rfl) fun _ _ h hadmits => h.step hadmits
  obtain ⟨m, hm, hb⟩ := session_refines hreach hth
  have hsub : c.st.statics.udp ⊆ {c.st.statics.session.fd .audio,
      c.st.statics.session.fd .control, c.st.statics.session.fd .timing} := by
    intro fd hfd
    rw [hb.udp] at hfd
    obtain ⟨-, role, hrole⟩ := haccounted hm fd hfd
    rw [hb.session, ← hrole]
    cases role <;> simp
  refine ⟨hsub, (Finset.card_le_card hsub).trans Finset.card_le_three, ?_⟩
  rintro d rfl hdown
  -- the machine has made the step of the last event
  obtain ⟨m, hm, -, -, -, hb⟩ := (session_holds hreach).idle hth
  obtain ⟨client, hstep⟩ := m.step_of_tearsDown hdown
  rw [hb.udp, hstep]
  exact (haccounted hm).teardownFull

/-- In the sample run three sockets are open. -/
theorem udpSockets_accounted_sample : ∃ c : SessionConfig,
    c.st.statics.udp = {3, 4, 5} ∧
      c.st.statics.udp ⊆ {c.st.statics.session.fd .audio, c.st.statics.session.fd .control,
        c.st.statics.session.fd .timing} := by
  have hrun : ((sessionBoot sampleRx).st.process setsUpUnbound sampleStream).map
      (·.statics.udp) = some {3, 4, 5} := by decide +kernel
  obtain ⟨s, hs, hudp⟩ := Option.map_eq_some_iff.mp hrun
  obtain ⟨c, k, hreach, hth, rfl⟩ := reachable_boot_process hs
  exact ⟨c, hudp, (udpSockets_accounted hreach k hth).1⟩

/-- **A second SETUP** opens three more sockets and forgets the first three: they stay open after the
teardown. -/
theorem udpSockets_leaked_on_resetup : ∃ (c : SessionConfig) (k : Option RtspDone),
    (sessionSystem anyEvent).Reachable (sessionBoot sampleRx) c ∧ c.th .rtsp = .ret k ∧
      c.st.statics.udp = {3, 4, 5} ∧ c.st.statics.session.fd .audio = -1 ∧
      c.st.statics.session.fd .control = -1 ∧ c.st.statics.session.fd .timing = -1 := by
  have hrun : ((sessionBoot sampleRx).st.process anyEvent
      [.accept, sampleRequest "SETUP" "" 3, sampleRequest "SETUP" "" 6, .disconnect]).map
      (fun s => (s.statics.udp, s.statics.session.fd .audio, s.statics.session.fd .control,
        s.statics.session.fd .timing)) = some ({3, 4, 5}, -1, -1, -1) := by decide
  obtain ⟨s, hs, heq⟩ := Option.map_eq_some_iff.mp hrun
  obtain ⟨c, k, hreach, hth, rfl⟩ := reachable_boot_process hs
  exact ⟨c, k, hreach, hth, by simpa only [Prod.mk.injEq] using heq⟩

end ConduitStream
