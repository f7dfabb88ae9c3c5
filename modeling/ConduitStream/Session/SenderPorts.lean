import ConduitStream.Session.RecordAnswer

/-! # The ports of the sender over a whole run

The sender names its UDP ports in the Transport header of SETUP. They pass through the session record,
where a SETUP without the header leaves those of an earlier one, and `raop_rtp_start` copies them for
the RTP task. `SessionRun` are the runs of the system together with the events the RTSP task has
processed. In a run in which the SETUPs come before the stream, a live RTP task has the ports of the
latest Transport header, whatever the tasks do in between (`rtpTask_senderPorts`). -/

namespace ConduitStream

variable {meets : EventCondition} {rx : RtpRx} {c : SessionConfig} {α β : Type}

/-! ## Runs and what the sender has asked for in them -/

/-- The event a control value of the RTSP task tells of. -/
def doneEvents (k : Option RtspDone) : List RtspEvent := (k.map RtspDone.event).toList

/-- The configurations of the runs in which the RTSP task has processed the events; the one it is
at, or has not left yet, is not among them. -/
inductive SessionRun (meets : EventCondition) (rx : RtpRx) :
    List RtspEvent → SessionConfig → Prop
  | boot : SessionRun meets rx [] (sessionBoot rx)
  | event {es : List RtspEvent} {c : SessionConfig} {k : Option RtspDone} {e : RtspEvent} :
      SessionRun meets rx es c → c.th .rtsp = .ret k →
      e.Enabled c.st.statics.client c.st.statics.session →
      meets c.st.statics.session (c.st.statics.tasks .raopRtp).task e →
      SessionRun meets rx (es ++ doneEvents k)
        ⟨c.st, Function.update c.th .rtsp (rtspProgram e c.st.statics)⟩
  | step {es : List RtspEvent} {c c' : SessionConfig} {t : SessionTask} {l : Option SessionStep} :
      SessionRun meets rx es c → ((sessionSystem meets).within .rtsp).Step c t l c' →
      SessionRun meets rx es c'

variable {es : List RtspEvent}

/-- The runs are those of the system. -/
theorem SessionRun.reachable (h : SessionRun meets rx es c) :
    (sessionSystem meets).Reachable (sessionBoot rx) c := by
  induction h with
  | boot => exact .start
  | event _ hth henabled hmeets ih => exact ih.step (.enter hth (.event henabled hmeets))
  | step _ hs ih => exact ih.step hs.of_within

/-- Every reachable configuration is reached by some events. -/
theorem exists_sessionRun (h : (sessionSystem meets).Reachable (sessionBoot rx) c) :
    ∃ es, SessionRun meets rx es c := by
  induction h with
  | start => exact ⟨[], .boot⟩
  | @step c c' t l _ hs ih =>
      obtain ⟨es, hrun⟩ := ih
      cases hs with
      | act hth hg => exact ⟨es, hrun.step (.act hth hg)⟩
      | @enter k p hth hp =>
          by_cases ht : t = .rtsp
          · subst ht
            cases hp with
            | event henabled hmeets => exact ⟨_, hrun.event hth henabled hmeets⟩
          · exact ⟨es, hrun.step (.enter hth ⟨ht, hp⟩)⟩

/-- The request is a SETUP. -/
def RtspEvent.isSetup : RtspEvent → Bool
  | .request req _ => strcmpEq req.method (ascii "SETUP")
  | _ => false

/-- The Transport header of a SETUP. -/
def RtspEvent.setupTransport : RtspEvent → Option Bytes
  | .request req _ =>
      if strcmpEq req.method (ascii "SETUP") then rtspHeaderGet req.headers (ascii "Transport")
      else none
  | _ => none

/-- The latest Transport header of the session after an event. -/
def transportAfter (latest : Option Bytes) (e : RtspEvent) : Option Bytes :=
  if e.tearsDown then none else e.setupTransport.or latest

/-- A SETUP and what ends a session apart, the events leave it as it is. -/
theorem transportAfter_of_isSetup {latest : Option Bytes} {e : RtspEvent}
    (hsetup : e.isSetup = false) (hteardown : e.tearsDown = false) :
    transportAfter latest e = latest := by
  have hnone : e.setupTransport = none := by
    cases e with
    | request req o => exact if_neg (ne_true_of_eq_false hsetup)
    | _ => rfl
  rw [transportAfter, hteardown, hnone, if_neg Bool.false_ne_true, Option.none_or]

/-- The latest Transport header of the session after the events. -/
def latestTransport (es : List RtspEvent) : Option Bytes := es.foldl transportAfter none

/-- The SETUPs come before the stream. -/
def setupsFirst : EventCondition
  | _, running, e => running = true → e.isSetup = false

instance (s : RaopSession) (running : Bool) (e : RtspEvent) : Decidable (setupsFirst s running e) :=
  inferInstanceAs (Decidable (running = true → e.isSetup = false))

/-! ## The ports -/

/-- The control and the timing port of the sender. -/
abbrev SenderPorts : Type := ℤ × ℤ

/-- The ports in the session record. -/
def RaopSession.senderPorts (r : RaopSession) : SenderPorts := (r.clientControlPort, r.clientTimingPort)

/-- The ports the RTP task has. -/
def RtpIo.senderPorts (io : RtpIo) : SenderPorts := (io.clientControlPort, io.clientTimingPort)

/-- The ports `handle_setup` takes from a Transport header, and those of a session without one. -/
def portsOf : Option Bytes → SenderPorts
  | some t => (rtspTransportPort t (ascii "control_port"), rtspTransportPort t (ascii "timing_port"))
  | none => (0, 0)

/-- The RTP task is alive. -/
abbrev RtpAlive (s : SessionStatics) : Prop := (s.tasks .raopRtp).alive = true

/-- The step leaves the ports alone and creates no RTP task. -/
structure SamePorts (s s' : SessionStatics) : Prop where
  session : s'.session.senderPorts = s.session.senderPorts
  io : s'.io.senderPorts = s.io.senderPorts
  alive : RtpAlive s' → RtpAlive s

/-- Doing nothing leaves the ports alone. -/
theorem SamePorts.refl (s : SessionStatics) : SamePorts s s := ⟨rfl, rfl, id⟩

/-- A step on the control statics of a producer. -/
theorem samePorts_onTask (s : SessionStatics) (p : Producer) {f : TaskStatics → TaskStatics}
    (hf : p = .raopRtp → ∀ t, (f t).alive = true → t.alive = true) :
    SamePorts s (s.onTask p f) := by
  refine ⟨rfl, rfl, fun h => ?_⟩
  by_cases hp : p = .raopRtp
  · subst hp
    rw [RtpAlive, SessionStatics.onTask_self] at h
    exact hf rfl _ h
  · rwa [RtpAlive, SessionStatics.onTask_of_ne _ (Ne.symm hp)] at h

/-- No step of a producer touches the ports. -/
theorem ProducerTaskStep.samePorts {p : Producer} {s s' : SessionState}
    (h : ProducerTaskStep p s s') : SamePorts s.statics s'.statics := by
  cases h with
  | work f => exact .refl _
  | disown | release => exact ⟨rfl, rfl, id⟩
  | clearHandle =>
      exact samePorts_onTask s.statics p (f := ({ · with task := false })) fun _ _ h => h
  | exit =>
      exact samePorts_onTask s.statics p (f := ({ · with done := true, alive := false }))
        fun _ _ h => absurd h Bool.false_ne_true

/-! ## What leaves the ports alone -/

/-- `SamePorts` on whole states. -/
def KeepsPorts (s s' : SessionState) : Prop := SamePorts s.statics s'.statics

/-- The program neither writes the ports nor creates an RTP task. -/
abbrev LeavesPorts (prog : SessionProg α) : Prop := prog.Moves KeepsPorts

/-- An action that only reads leaves the ports alone. -/
theorem read_leaves (l : SessionStep) (res : SessionState → α) : LeavesPorts (.read l res) :=
  Prog.moves_atom (fun s => .refl s.statics) l res

/-- A step that writes something else. -/
theorem write_leaves {l : SessionStep} {f : SessionStatics → SessionStatics}
    (h : ∀ s, SamePorts s (f s)) : LeavesPorts (.modify l (·.onStatics f)) :=
  have hstep : ∀ s : SessionState, KeepsPorts s (s.onStatics f) := fun s => h s.statics
  Prog.moves_atom hstep l _

/-- A step on the control statics of a producer that does not revive it. -/
theorem onTask_leaves (p : Producer) {f : TaskStatics → TaskStatics}
    (hf : ∀ t, (f t).alive = true → t.alive = true) :
    LeavesPorts (.modify .access (·.onStatics (·.onTask p f))) :=
  write_leaves fun s => samePorts_onTask s p fun _ => hf

/-- A response leaves the ports alone. -/
theorem sendResponse_leaves (status : ℕ) (cseq : ℤ) : LeavesPorts (sendResponse status cseq) :=
  read_leaves _ _

/-- So does a change of the client. -/
theorem setClient_leaves (client : Bool) : LeavesPorts (setClient client) :=
  write_leaves fun _ => ⟨rfl, rfl, id⟩

/-- Closing the sockets leaves the ports alone. -/
theorem raopSessionCloseUdp_leaves : LeavesPorts raopSessionCloseUdp := by
  have hclose : ∀ role, LeavesPorts (closeRole role) := by
    intro role
    refine Prog.moves_bind (read_leaves _ _) fun fd => ?_
    refine Prog.moves_ite ?_ (Prog.moves_pure _)
    exact Prog.moves_bind (write_leaves fun _ => ⟨rfl, rfl, id⟩) fun _ =>
      write_leaves fun _ => ⟨rfl, rfl, id⟩
  refine Prog.moves_bind (hclose .audio) fun _ => ?_
  refine Prog.moves_bind (hclose .control) fun _ => ?_
  exact Prog.moves_bind (hclose .timing) fun _ => write_leaves fun _ => ⟨rfl, rfl, id⟩

/-- Binding them leaves the ports alone. -/
theorem raopSessionBindUdp_leaves (binds : UdpRole → BindOutcome) :
    LeavesPorts (raopSessionBindUdp binds) := by
  have hopen : ∀ fd, LeavesPorts (openSocket fd) := fun fd =>
    Prog.moves_await (fun _ => ⟨rfl, rfl, id⟩) _ _
  have hone : ∀ o, LeavesPorts (bindOne o) := by
    intro o
    cases o with
    | noSocket => exact Prog.moves_pure _
    | unbound fd =>
        exact Prog.moves_bind (hopen fd) fun _ =>
          Prog.moves_bind (write_leaves fun _ => ⟨rfl, rfl, id⟩) fun _ => Prog.moves_pure _
    | bound fd port => exact Prog.moves_bind (hopen fd) fun _ => Prog.moves_pure _
  have hrole : ∀ role, LeavesPorts (bindRole role (binds role)) := fun role =>
    Prog.moves_bind (hone _) fun _ => write_leaves fun _ => ⟨rfl, rfl, id⟩
  refine Prog.moves_bind (hrole .audio) fun _ => ?_
  refine Prog.moves_bind (hrole .control) fun _ => ?_
  refine Prog.moves_bind (hrole .timing) fun _ => ?_
  refine Prog.moves_bind (read_leaves _ _) fun fd => ?_
  refine Prog.moves_ite ?_ (Prog.moves_pure _)
  exact Prog.moves_bind raopSessionCloseUdp_leaves fun _ => Prog.moves_pure _

/-- So does releasing the crypto and the decoder. -/
theorem teardownCryptoDecoder_leaves : LeavesPorts teardownCryptoDecoder :=
  Prog.moves_bind (write_leaves fun _ => ⟨rfl, rfl, id⟩) fun _ =>
    Prog.moves_bind (write_leaves fun _ => ⟨rfl, rfl, id⟩) fun _ =>
      write_leaves fun _ => ⟨rfl, rfl, id⟩

/-- Claiming the slot leaves the ports alone. -/
theorem audioProducerAcquire_leaves (who : Producer) : LeavesPorts (audioProducerAcquire who) := by
  refine Prog.moves_bind (Prog.moves_atom (fun _ => ⟨rfl, rfl, id⟩) _ _) fun held => ?_
  refine Prog.moves_ite (Prog.moves_pure _) ?_
  exact Prog.moves_bind (write_leaves fun _ => ⟨rfl, rfl, id⟩) fun _ => Prog.moves_pure _

/-- Giving it back leaves the ports alone. -/
theorem audioProducerRelease_leaves : LeavesPorts audioProducerRelease :=
  Prog.moves_bind (write_leaves fun _ => ⟨rfl, rfl, id⟩) fun _ =>
    write_leaves fun _ => ⟨rfl, rfl, id⟩

/-- So does waiting for a producer to end. -/
theorem joinProducer_leaves (p : Producer) : LeavesPorts (joinProducer p) :=
  Prog.moves_bind (onTask_leaves p fun _ => id) fun _ =>
    Prog.moves_await (fun s => .refl s.statics) _ _

/-- Stopping the stream leaves the ports alone. -/
theorem raopRtpStop_leaves : LeavesPorts raopRtpStop := by
  refine Prog.moves_bind (read_leaves _ _) fun running => ?_
  refine Prog.moves_ite ?_ ?_
  · exact Prog.moves_bind teardownCryptoDecoder_leaves fun _ => Prog.moves_pure _
  · refine Prog.moves_bind (joinProducer_leaves _) fun _ => ?_
    refine Prog.moves_bind teardownCryptoDecoder_leaves fun _ => ?_
    -- the descriptors are forgotten, the ports are not
    exact Prog.moves_bind (Prog.moves_atom (fun _ => ⟨rfl, rfl, id⟩) _ _) fun _ => Prog.moves_pure _

/-- Stopping the tone leaves the ports alone. -/
theorem audioDiagToneStop_leaves : LeavesPorts audioDiagToneStop :=
  Prog.moves_bind (read_leaves _ _) fun _ =>
    Prog.moves_ite (Prog.moves_pure _) (joinProducer_leaves _)

/-- Starting the tone leaves the ports alone. -/
theorem audioDiagToneStart_leaves (created : Bool) : LeavesPorts (audioDiagToneStart created) := by
  have hcreate : LeavesPorts (createTask .diagTone) :=
    write_leaves fun s => samePorts_onTask s .diagTone fun h => by cases h
  refine Prog.moves_bind (read_leaves _ _) fun running => ?_
  refine Prog.moves_ite (Prog.moves_pure _) ?_
  refine Prog.moves_bind (audioProducerAcquire_leaves _) fun acquired => ?_
  refine Prog.moves_ite (Prog.moves_pure _) ?_
  refine Prog.moves_bind (onTask_leaves _ fun _ => id) fun _ => ?_
  refine Prog.moves_bind (onTask_leaves _ fun _ => id) fun _ => ?_
  refine Prog.moves_ite ?_ hcreate
  refine Prog.moves_bind audioProducerRelease_leaves fun _ => ?_
  exact Prog.moves_bind (onTask_leaves _ fun _ => id) fun _ => Prog.moves_pure _

/-- ANNOUNCE does not name ports and leaves those of the record. -/
theorem handleAnnounce_senderPorts (psaDecrypt : Bytes → Option Bytes) (r : RaopSession)
    (body : Bytes) : (handleAnnounce psaDecrypt r body).1.senderPorts = r.senderPorts := by
  unfold handleAnnounce
  dsimp only
  split
  · rfl
  · split_ifs <;> rfl

/-- The whole of ANNOUNCE leaves the ports alone. -/
theorem handleAnnounceRequest_leaves (psaDecrypt : Bytes → Option Bytes) (req : RtspRequest)
    (cseq : ℤ) : LeavesPorts (handleAnnounceRequest psaDecrypt req cseq) := by
  have hports : ∀ s : SessionState, KeepsPorts s
      (s.onStatics (·.onSession fun r => (handleAnnounce psaDecrypt r req.body).1)) := fun s =>
    ⟨handleAnnounce_senderPorts psaDecrypt s.statics.session req.body, rfl, id⟩
  refine Prog.moves_bind (Prog.moves_atom hports _ _) fun accepted => ?_
  exact Prog.moves_ite (sendResponse_leaves _ _) (sendResponse_leaves _ _)

/-! ## What writes the ports -/

/-- The outline while the latest Transport header is `latest`: a live RTP task has its ports. -/
def portsOutline (latest : Option Bytes) :
    Outline SessionState SessionStep SessionTask SessionCtl :=
  .ofGuar (fun s => RtpAlive s.statics → s.statics.io.senderPorts = portsOf latest)
    (fun
      | .rtsp => fun _ _ => True
      | .producer _ => KeepsPorts)
    (fun _ _ _ => True) (fun _ _ _ => True)

variable {latest : Option Bytes} {A : SessionStatics → Prop} {B : α → SessionStatics → Prop}

/-- A triple of the RTSP task about the ports. -/
def PortsTriple (latest : Option Bytes) (A : SessionStatics → Prop) (prog : SessionProg α)
    (B : α → SessionStatics → Prop) : Prop :=
  (portsOutline latest).Triple .rtsp (fun s => A s.statics) prog fun a s => B a s.statics

/-- Two programs in a row meet in an assertion between them. -/
theorem PortsTriple.bind {prog : SessionProg α} {f : α → SessionProg β}
    {C : β → SessionStatics → Prop} (hp : PortsTriple latest A prog B)
    (hf : ∀ a, PortsTriple latest (B a) (f a) C) : PortsTriple latest A (prog >>= f) C :=
  Outline.Triple.bind hp hf

/-- The assertion speaks of the ports and of the absence of an RTP task only. -/
def OnPorts (A : SessionStatics → Prop) : Prop := ∀ ⦃s s'⦄, SamePorts s s' → A s → A s'

/-- Such an assertion is stable: no producer changes what it speaks of. -/
theorem OnPorts.stable (hA : OnPorts A) :
    (portsOutline latest).Stable .rtsp fun s => A s.statics := by
  refine Outline.ofGuar_stable fun t s s' ht _ _ hg h => ?_
  cases t with
  | rtsp => exact absurd rfl ht
  | producer p => exact hA hg h

/-- **What leaves the ports alone** keeps every assertion on them. -/
theorem LeavesPorts.ports {prog : SessionProg α} (h : LeavesPorts prog) (hA : OnPorts A) :
    PortsTriple latest A prog fun _ => A := by
  refine Outline.Triple.of_moves h hA.stable fun l s s' hi hs hstep => ?_
  refine ⟨trivial, fun halive => ?_, trivial, hA hstep hs⟩
  rw [hstep.io]
  exact hi (hstep.alive halive)

/-- A program that has come to its end. -/
theorem ret_ports (a : α) (hA : OnPorts A) : PortsTriple latest A (pure a) fun _ => A :=
  .ret hA.stable fun _ _ h => h

/-- A write to the session record. -/
theorem onSession_ports (f : RaopSession → RaopSession) {A' : SessionStatics → Prop} (hA : OnPorts A)
    (hA' : OnPorts A') (h : ∀ s, A s → A' (s.onSession f)) :
    PortsTriple latest A (.modify .access (·.onStatics (·.onSession f))) fun _ => A' :=
  Outline.Triple.atom hA.stable (fun _ => hA'.stable) fun s hi hs =>
    ⟨trivial, hi, trivial, h s.statics hs⟩

/-- The session record has the ports `ports`. -/
def RecordHas (ports : SenderPorts) (s : SessionStatics) : Prop := s.session.senderPorts = ports

/-- This speaks of the ports only. -/
theorem onPorts_recordHas (ports : SenderPorts) : OnPorts (RecordHas ports) :=
  fun _ _ hstep h => hstep.session.trans h

/-- **`raop_session_reset`** forgets the ports of the sender. -/
theorem raopSessionReset_ports {ports : SenderPorts} :
    PortsTriple latest (RecordHas ports) raopSessionReset fun _ => RecordHas (portsOf none) := by
  refine (raopSessionCloseUdp_leaves.ports (onPorts_recordHas ports)).bind fun _ => ?_
  exact onSession_ports _ (onPorts_recordHas _) (onPorts_recordHas _) fun _ _ => rfl

/-- The teardown clears the ports of the record. -/
theorem sessionTeardownFull_ports {ports : SenderPorts} :
    PortsTriple latest (RecordHas ports) sessionTeardownFull fun _ => RecordHas (portsOf none) :=
  (raopRtpStop_leaves.ports (onPorts_recordHas ports)).bind fun _ => raopSessionReset_ports

/-- There is no RTP task, and the record has the ports `ports`. -/
def Unstarted (ports : SenderPorts) (s : SessionStatics) : Prop :=
  ¬RtpAlive s ∧ s.session.senderPorts = ports

/-- This, too, speaks of the ports and the RTP task only. -/
theorem onPorts_unstarted (ports : SenderPorts) : OnPorts (Unstarted ports) :=
  fun _ _ hstep h => ⟨fun halive => h.1 (hstep.alive halive), hstep.session.trans h.2⟩

/-- **`handle_setup`** writes those of its Transport header, if it has one. -/
theorem handleSetup_ports (binds : UdpRole → BindOutcome) (req : RtspRequest) (cseq : ℤ) :
    PortsTriple latest (Unstarted (portsOf latest)) (handleSetup binds req cseq) fun _ =>
      Unstarted (portsOf ((rtspHeaderGet req.headers (ascii "Transport")).or latest)) := by
  have hstate : LeavesPorts
      (.modify .access (·.onStatics (·.onSession ({ · with state := .setup })))) :=
    write_leaves fun _ => ⟨rfl, rfl, id⟩
  -- from `raop_session_bind_udp` on
  have hbind : LeavesPorts (do
      let r ← raopSessionBindUdp binds
      if r ≠ 0 then
        sendResponse 500 cseq
        return ()
      .modify .access (·.onStatics (·.onSession ({ · with state := .setup })))
      sendResponse 200 cseq) := by
    refine Prog.moves_bind (raopSessionBindUdp_leaves binds) fun r => ?_
    refine Prog.moves_ite ?_ ?_
    · exact Prog.moves_bind (sendResponse_leaves _ _) fun _ => Prog.moves_pure _
    · exact Prog.moves_bind hstate fun _ => sendResponse_leaves _ _
  unfold handleSetup
  cases rtspHeaderGet req.headers (ascii "Transport") with
  | none => exact hbind.ports (onPorts_unstarted _)
  | some t =>
      refine (onSession_ports _ (onPorts_unstarted _) (onPorts_unstarted _) ?_).bind fun _ =>
        hbind.ports (onPorts_unstarted _)
      exact fun _ h => ⟨h.1, rfl⟩

/-- The RTP task, alive or not, has the ports of the record. -/
def Copied (ports : SenderPorts) (s : SessionStatics) : Prop :=
  s.session.senderPorts = ports ∧ s.io.senderPorts = ports

/-- What the RTP task has copied speaks of the ports only, too. -/
theorem onPorts_copied (ports : SenderPorts) : OnPorts (Copied ports) :=
  fun _ _ hstep h => ⟨hstep.session.trans h.1, hstep.io.trans h.2⟩

/-- The RTP task is created with the ports of the record. -/
theorem createTask_ports :
    PortsTriple latest (Copied (portsOf latest)) (createTask .raopRtp) fun _ =>
      RecordHas (portsOf latest) :=
  Outline.Triple.atom (onPorts_copied _).stable (fun _ => (onPorts_recordHas _).stable)
    fun _ _ hs => ⟨trivial, fun _ => hs.2, trivial, hs.1⟩

/-- A start copies the ports of the record. -/
theorem raopRtpStartTask_ports {r : RaopSession} (hr : r.senderPorts = portsOf latest)
    (slots : ℕ → RtpReorderSlot) (created : Bool) :
    PortsTriple latest (RecordHas (portsOf latest)) (raopRtpStartTask r slots created) fun _ =>
      RecordHas (portsOf latest) := by
  have hcopied := onPorts_copied (portsOf latest)
  have hrecord := onPorts_recordHas (portsOf latest)
  have hforget : ∀ {a : ℤ}, PortsTriple latest (Copied (portsOf latest)) (pure a) fun _ =>
      RecordHas (portsOf latest) := .ret hrecord.stable fun _ _ h => h.1
  have hclaim : LeavesPorts (.modify .access (·.onStatics ({ · with slots := true }))) :=
    write_leaves fun _ => ⟨rfl, rfl, id⟩
  have hcopy : PortsTriple latest (RecordHas (portsOf latest))
      (.modify .access fun w => (w.onRx (·.start slots r.clientIp)).onStatics ({ · with
        iv := r.aesiv
        io := ⟨r.fd .audio, r.fd .control, r.fd .timing, r.clientControlPort,
          r.clientTimingPort⟩ })) fun _ => Copied (portsOf latest) :=
    Outline.Triple.atom hrecord.stable (fun _ => hcopied.stable) fun _ _ hs =>
      ⟨trivial, fun _ => hr, trivial, hs, hr⟩
  have htask : ∀ f : TaskStatics → TaskStatics, (∀ t, (f t).alive = true → t.alive = true) →
      PortsTriple latest (Copied (portsOf latest))
        (.modify .access (·.onStatics (·.onTask .raopRtp f))) fun _ => Copied (portsOf latest) :=
    fun f hf => (onTask_leaves _ hf).ports hcopied
  refine (hclaim.ports hrecord).bind fun _ => hcopy.bind fun _ => ?_
  -- from here on the ports are there, and no failure takes them back
  refine ((audioProducerAcquire_leaves _).ports hcopied).bind fun acquired => ?_
  cases acquired with
  | false => exact (teardownCryptoDecoder_leaves.ports hcopied).bind fun _ => hforget
  | true =>
      refine (htask ({ · with run := true }) fun _ => id).bind fun _ => ?_
      refine (htask ({ · with done := false }) fun _ => id).bind fun _ => ?_
      cases created with
      | true => exact createTask_ports.bind fun _ => ret_ports _ hrecord
      | false =>
          refine (audioProducerRelease_leaves.ports hcopied).bind fun _ => ?_
          refine (htask ({ · with run := false }) fun _ => id).bind fun _ => ?_
          refine (htask ({ · with task := false }) fun _ => id).bind fun _ => ?_
          exact (teardownCryptoDecoder_leaves.ports hcopied).bind fun _ => hforget

/-- **`raop_rtp_start`** copies the ports of the record before it creates the task. -/
theorem raopRtpStart_ports (o : StartOutcome) :
    PortsTriple latest (RecordHas (portsOf latest)) (raopRtpStart o) fun _ =>
      RecordHas (portsOf latest) := by
  have hrecord := onPorts_recordHas (portsOf latest)
  have hkey : ∀ r : RaopSession, r.senderPorts = portsOf latest →
      PortsTriple latest (RecordHas (portsOf latest)) (raopRtpStartKey r o) fun _ =>
        RecordHas (portsOf latest) := by
    intro r hr
    have hfail : PortsTriple latest (RecordHas (portsOf latest))
        (do
          teardownCryptoDecoder
          return (-1 : ℤ)) fun _ => RecordHas (portsOf latest) :=
      (teardownCryptoDecoder_leaves.ports hrecord).bind fun _ => ret_ports _ hrecord
    have himport : LeavesPorts
        (.modify .access (·.onStatics ({ · with aesKey := some r.aeskey }))) :=
      write_leaves fun _ => ⟨rfl, rfl, id⟩
    unfold raopRtpStartKey
    cases o.importKey with
    | false => exact hfail
    | true =>
        refine (himport.ports hrecord).bind fun _ => ?_
        cases o.malloc with
        | none => exact hfail
        | some slots => exact raopRtpStartTask_ports hr slots _
  refine ((read_leaves _ _).ports hrecord).bind fun running => ?_
  cases running with
  | true => exact ret_ports _ hrecord
  | false =>
      -- the session is read once, and from then on its copy is used
      refine PortsTriple.bind (B := fun (r : RaopSession) s => r.senderPorts = portsOf latest ∧
        RecordHas (portsOf latest) s) ?_ fun r => Outline.Triple.pure fun hr => ?_
      · exact Outline.Triple.atom hrecord.stable (fun _ => hrecord.stable.pure_and)
          fun s hi hs => ⟨trivial, hi, trivial, hs, hs⟩
      · dsimp only
        split
        · exact ret_ports _ hrecord
        · split
          · exact ret_ports _ hrecord
          · refine PortsTriple.bind (LeavesPorts.ports ?_ hrecord) fun _ => hkey r hr
            exact write_leaves fun _ => ⟨rfl, rfl, id⟩

/-- RECORD keeps the ports of the record. -/
theorem handleRecord_ports (o : RequestOutcome) (cseq : ℤ) :
    PortsTriple latest (RecordHas (portsOf latest)) (handleRecord o cseq) fun _ =>
      RecordHas (portsOf latest) := by
  have hrecord := onPorts_recordHas (portsOf latest)
  have hrespond : ∀ status, PortsTriple latest (RecordHas (portsOf latest))
      (sendResponse status cseq) fun _ => RecordHas (portsOf latest) := fun status =>
    (sendResponse_leaves status cseq).ports hrecord
  have hwrite : ∀ f : RaopSession → RaopSession, (∀ r, (f r).senderPorts = r.senderPorts) →
      PortsTriple latest (RecordHas (portsOf latest))
        (.modify .access (·.onStatics (·.onSession f))) fun _ => RecordHas (portsOf latest) :=
    fun f hf => onSession_ports f hrecord hrecord fun s hs => (hf s.session).trans hs
  refine ((read_leaves _ _).ports hrecord).bind fun r => ?_
  by_cases hrec : r.state = .recording
  · rw [if_pos hrec]
    exact hrespond 200
  rw [if_neg hrec]
  by_cases hno : r.haveKey = false ∨ r.fmtp = []
  · rw [if_pos hno]
    exact hrespond 400
  rw [if_neg hno]
  -- from `raop_rtp_start` on
  have hstart : PortsTriple latest (RecordHas (portsOf latest))
      (do
        let r ← raopRtpStart o.start
        if r = 0 then
          .modify .access (·.onStatics (·.onSession ({ · with state := .recording })))
        sendResponse 200 cseq) fun _ => RecordHas (portsOf latest) := by
    refine (raopRtpStart_ports o.start).bind fun r => ?_
    by_cases hr : r = 0
    · rw [if_pos hr]
      exact (hwrite ({ · with state := .recording }) fun _ => rfl).bind fun _ => hrespond 200
    · rw [if_neg hr]
      exact hrespond 200
  refine (audioDiagToneStop_leaves.ports hrecord).bind fun _ => ?_
  generalize o.peername = peername
  cases peername with
  | some ip => exact (hwrite ({ · with clientIp := ip }) fun _ => rfl).bind fun _ => hstart
  | none => exact hstart

/-- **`dispatch`** of a request other than SETUP. -/
theorem dispatch_ports (o : RequestOutcome) {req : RtspRequest}
    (hset : strcmpEq req.method (ascii "SETUP") = false) :
    PortsTriple latest (RecordHas (portsOf latest)) (dispatch o req) fun _ =>
      RecordHas (portsOf (if closesConnection req then none else latest)) := by
  have hrecord := fun latest => onPorts_recordHas (portsOf latest)
  have hleaves : ∀ {prog : SessionProg Bool}, LeavesPorts prog →
      PortsTriple latest (RecordHas (portsOf latest)) prog fun _ => RecordHas (portsOf latest) :=
    fun h => h.ports (hrecord latest)
  have hresponse : ∀ status (closeConn : Bool), LeavesPorts (do
      sendResponse status (rtspCseq req.headers)
      return closeConn) := fun status closeConn =>
    Prog.moves_bind (sendResponse_leaves _ _) fun _ => Prog.moves_pure _
  -- the methods are told apart by their text, so at most one branch is taken
  have hopen : ∀ {t}, strcmpEq req.method t = true → cstr t ≠ cstr (ascii "TEARDOWN") →
      closesConnection req = false := SessionModel.not_strcmpEq_of_strcmpEq
  unfold dispatch
  dsimp only
  by_cases hann : strcmpEq req.method (ascii "ANNOUNCE") = true
  · rw [if_pos hann, hopen hann (by decide)]
    exact hleaves (Prog.moves_bind (handleAnnounceRequest_leaves _ req _) fun _ =>
      Prog.moves_pure _)
  rw [if_neg hann, hset, if_neg Bool.false_ne_true]
  by_cases hrec : strcmpEq req.method (ascii "RECORD") = true
  · rw [if_pos hrec, hopen hrec (by decide)]
    exact (handleRecord_ports o _).bind fun _ => ret_ports _ (hrecord latest)
  rw [if_neg hrec]
  by_cases hack : acknowledgedMethods.any (strcmpEq req.method) = true
  · obtain ⟨t, ht, hreq⟩ := List.any_eq_true.mp hack
    have hother : ∀ t ∈ acknowledgedMethods, cstr t ≠ cstr (ascii "TEARDOWN") := by decide
    rw [if_pos hack, hopen hreq (hother t ht)]
    exact hleaves (hresponse 200 false)
  rw [if_neg hack]
  by_cases htd : strcmpEq req.method (ascii "TEARDOWN") = true
  · have hclose : closesConnection req = true := htd
    rw [if_pos htd, hclose]
    exact sessionTeardownFull_ports.bind fun _ => (hresponse 200 true).ports (hrecord none)
  · have hclose : closesConnection req = false := Bool.not_eq_true _ ▸ htd
    rw [if_neg htd, hclose]
    exact hleaves (hresponse 501 false)

/-- **The events other than SETUP** keep the ports, or forget them with the session. -/
theorem event_ports {e : RtspEvent} (he : e.isSetup = false) :
    PortsTriple latest (RecordHas (portsOf latest)) e.program fun _ =>
      RecordHas (portsOf (transportAfter latest e)) := by
  have hrecord := fun latest => onPorts_recordHas (portsOf latest)
  have hclient : ∀ client, PortsTriple latest (RecordHas (portsOf latest)) (setClient client)
      fun _ => RecordHas (portsOf latest) := fun client =>
    (setClient_leaves client).ports (hrecord latest)
  have hleave : PortsTriple latest (RecordHas (portsOf latest))
      (do
        setClient false
        sessionTeardownFull
        return (0 : ℤ)) fun _ => RecordHas (portsOf none) :=
    (hclient false).bind fun _ => sessionTeardownFull_ports.bind fun _ => ret_ports _ (hrecord none)
  have hreturn : ∀ {prog : SessionProg Unit}, LeavesPorts prog →
      PortsTriple latest (RecordHas (portsOf latest))
        (do
          prog
          return (0 : ℤ)) fun _ => RecordHas (portsOf latest) := fun h =>
    (LeavesPorts.ports h (hrecord latest)).bind fun _ => ret_ports _ (hrecord latest)
  cases e with
  | accept =>
      exact (hclient true).bind fun _ => sessionTeardownFull_ports.bind fun _ =>
        ret_ports _ (hrecord none)
  | refuse => exact hreturn (sendResponse_leaves _ _)
  | oversize cseq => exact hreturn (sendResponse_leaves _ _)
  | drop => exact ((sendResponse_leaves _ _).ports (hrecord latest)).bind fun _ => hleave
  | disconnect => exact hleave
  | reclaim => exact hleave
  | stop => exact hleave
  | rtpStart o => exact raopRtpStart_ports o
  | rtpStop =>
      exact (raopRtpStop_leaves.ports (hrecord latest)).bind fun _ => ret_ports _ (hrecord latest)
  | toneStart created => exact hreturn (audioDiagToneStart_leaves created)
  | toneStop => exact hreturn audioDiagToneStop_leaves
  | request req o =>
      -- a request that closes the connection also forgets the ports
      have hafter : transportAfter latest (.request req o)
          = if closesConnection req then none else latest := by
        cases hclose : (RtspEvent.request req o).tearsDown with
        | true =>
            have hreq : closesConnection req = true := hclose
            rw [hreq, transportAfter, hclose]
            rfl
        | false =>
            have hreq : closesConnection req = false := hclose
            rw [transportAfter_of_isSetup he hclose, hreq]
            rfl
      rw [hafter]
      refine (dispatch_ports o he).bind fun closeConn => ?_
      have hrest : LeavesPorts (do
          if closeConn then setClient false
          return (0 : ℤ)) :=
        Prog.moves_ite (Prog.moves_bind (setClient_leaves _) fun _ => Prog.moves_pure _)
          (Prog.moves_pure _)
      exact hrest.ports (hrecord _)

/-- A SETUP request is dispatched to `handle_setup`. -/
theorem dispatch_setup {req : RtspRequest} (hreq : strcmpEq req.method (ascii "SETUP") = true)
    (o : RequestOutcome) :
    dispatch o req = do
      handleSetup o.binds req (rtspCseq req.headers)
      return false := by
  unfold dispatch
  dsimp only
  rw [if_neg (by rw [SessionModel.not_strcmpEq_of_strcmpEq hreq (by decide)]; decide), if_pos hreq]

/-- SETUP takes the ports of its Transport header. -/
theorem setup_ports {req : RtspRequest} (hreq : strcmpEq req.method (ascii "SETUP") = true)
    (o : RequestOutcome) :
    PortsTriple latest (Unstarted (portsOf latest)) (RtspEvent.request req o).program fun _ =>
      Unstarted (portsOf (transportAfter latest (.request req o))) := by
  -- a SETUP does not close, and a header that it lacks leaves the ports as they were
  have hafter : transportAfter latest (.request req o)
      = (rtspHeaderGet req.headers (ascii "Transport")).or latest := by
    have hopen : (RtspEvent.request req o).tearsDown = false :=
      SessionModel.not_strcmpEq_of_strcmpEq hreq (by decide)
    have htransport : (RtspEvent.request req o).setupTransport
        = rtspHeaderGet req.headers (ascii "Transport") := if_pos hreq
    rw [transportAfter, hopen, htransport, if_neg Bool.false_ne_true]
  rw [hafter]
  have hunstarted := onPorts_unstarted
    (portsOf ((rtspHeaderGet req.headers (ascii "Transport")).or latest))
  have hdispatch : PortsTriple latest (Unstarted (portsOf latest)) (dispatch o req)
      fun closeConn s => closeConn = false ∧
        Unstarted (portsOf ((rtspHeaderGet req.headers (ascii "Transport")).or latest)) s := by
    rw [dispatch_setup hreq]
    exact (handleSetup_ports o.binds req _).bind fun _ =>
      .ret hunstarted.stable.pure_and fun _ _ h => ⟨rfl, h⟩
  refine hdispatch.bind fun closeConn => Outline.Triple.pure fun hclose => ?_
  subst hclose
  exact ret_ports _ hunstarted

/-! ## Whole runs -/

/-- What the RTSP task leaves when it has processed an event, given the latest Transport header
before: the ports of the latest one now, and after a SETUP no RTP task. -/
def EventDone (latest : Option Bytes) (k : Option RtspDone) (s : SessionStatics) : Prop :=
  RecordHas (portsOf ((doneEvents k).foldl transportAfter latest)) s ∧
    ∀ d ∈ k, d.event.isSetup = true → ¬RtpAlive s

/-- What an event leaves speaks of the ports and the RTP task only. -/
theorem onPorts_eventDone (k : Option RtspDone) : OnPorts (EventDone latest k) :=
  fun _ _ hstep h => ⟨onPorts_recordHas _ hstep h.1, fun d hd he halive =>
    h.2 d hd he (hstep.alive halive)⟩

/-- **One event**, if a SETUP comes before the stream. -/
theorem rtspProgram_ports (e : RtspEvent) (before : SessionStatics) :
    PortsTriple latest (fun s => RecordHas (portsOf latest) s ∧ (e.isSetup = true → ¬RtpAlive s))
      (rtspProgram e before) (EventDone latest) := by
  cases he : e.isSetup with
  | false =>
      refine PortsTriple.bind (B := fun _ => RecordHas (portsOf (transportAfter latest e)))
        ((event_ports he).weaken fun _ _ h => h.1) fun r => .ret (onPorts_eventDone _).stable ?_
      refine fun s _ h => ⟨h, fun d hd hsetup => ?_⟩
      cases hd
      exact absurd (he.symm.trans hsetup) Bool.false_ne_true
  | true =>
      cases e with
      | request req o =>
          refine PortsTriple.bind ((setup_ports he o).weaken fun _ _ h => ⟨h.2 rfl, h.1⟩) fun r =>
            .ret (onPorts_eventDone _).stable ?_
          exact fun s _ h => ⟨h.2, fun _ _ _ => h.1⟩
      | _ => cases he

/-- What holds at any moment of a run: a live RTP task has the ports of the latest Transport header,
and the event the RTSP task is at will leave the next ones. -/
structure RunPorts (es : List RtspEvent) (c : SessionConfig) : Prop where
  live : RtpAlive c.st.statics → c.st.statics.io.senderPorts = portsOf (latestTransport es)
  rtsp : (portsOutline (latestTransport es)).Safe .rtsp
    (fun k s => EventDone (latestTransport es) k s.statics) (c.th .rtsp) c.st

/-- **Step lemma** for the next event. -/
theorem RunPorts.event {k : Option RtspDone} {e : RtspEvent} (h : RunPorts es c)
    (hreach : (sessionSystem setupsFirst).Reachable (sessionBoot rx) c)
    (hth : c.th .rtsp = .ret k)
    (hmeets : setupsFirst c.st.statics.session (c.st.statics.tasks .raopRtp).task e) :
    RunPorts (es ++ doneEvents k)
      ⟨c.st, Function.update c.th .rtsp (rtspProgram e c.st.statics)⟩ := by
  have hlatest : latestTransport (es ++ doneEvents k)
      = (doneEvents k).foldl transportAfter (latestTransport es) := List.foldl_append
  have hrtsp := h.rtsp
  rw [hth] at hrtsp
  obtain ⟨hrecord, hsetup⟩ := hrtsp c.st ((portsOutline _).rely_refl _ _) h.live
  rw [← hlatest] at hrecord
  -- a SETUP finds no RTP task
  have hfirst : e.isSetup = true → ¬RtpAlive c.st.statics := by
    obtain ⟨m, -, hb⟩ := session_refines hreach hth
    intro he halive
    rw [RtpAlive, ← hb.task] at halive
    exact absurd ((hmeets halive).symm.trans he) Bool.false_ne_true
  have hlive : RtpAlive c.st.statics →
      c.st.statics.io.senderPorts = portsOf (latestTransport (es ++ doneEvents k)) := by
    intro halive
    rw [hlatest]
    cases k with
    | none => exact h.live halive
    | some d =>
        -- the last event has left an RTP task, so it was neither a teardown nor a SETUP
        have hdone : RtspIdle setupsFirst c.st.statics (some d) := (session_holds hreach).idle hth
        obtain ⟨m, hm, hadmits, -, -, hb⟩ := hdone
        have hkept : transportAfter (latestTransport es) d.event = latestTransport es := by
          have hteardown : d.event.tearsDown = false := by
            rw [Bool.eq_false_iff]
            intro htears
            obtain ⟨client, hstep⟩ := SessionModel.step_of_tearsDown (m := m) htears
            rw [RtpAlive, hb.alive, hstep] at halive
            exact m.not_streaming_teardownFull halive
          have hother : d.event.isSetup = false := by
            rw [Bool.eq_false_iff]
            exact fun he => hsetup d rfl he halive
          exact transportAfter_of_isSetup hother hteardown
        exact (h.live halive).trans (congrArg portsOf hkept.symm)
  refine ⟨hlive, ?_⟩
  dsimp only
  rw [Function.update_self]
  exact rtspProgram_ports e c.st.statics c.st hlive ⟨hrecord, hfirst⟩

/-- **Step lemma** for the other steps. -/
theorem RunPorts.step {c' : SessionConfig} {t : SessionTask} {l : Option SessionStep}
    (h : RunPorts es c) (hreach : (sessionSystem setupsFirst).Reachable (sessionBoot rx) c)
    (hs : ((sessionSystem setupsFirst).within .rtsp).Step c t l c') : RunPorts es c' := by
  have hguar := (session_holds hreach).guar hs.of_within
  cases t with
  | rtsp =>
      cases hs with
      | @act l g upd next hth hg =>
          -- a step of the RTSP task itself
          have hrtsp := h.rtsp
          rw [hth] at hrtsp
          obtain ⟨⟨-, hinv, -⟩, hnext⟩ := hrtsp c.st ((portsOutline _).rely_refl _ _) h.live hg
          refine ⟨hinv, ?_⟩
          dsimp only
          rw [Function.update_self]
          exact hnext
      | enter hth hp => exact absurd rfl hp.1
  | producer p =>
      have hkeeps : KeepsPorts c.st c'.st := by
        rcases hguar with hsame | hstep
        · rw [hsame]
          exact .refl _
        · exact ProducerTaskStep.samePorts hstep
      have hlive : RtpAlive c'.st.statics →
          c'.st.statics.io.senderPorts = portsOf (latestTransport es) := fun halive =>
        hkeeps.io.trans (h.live (hkeeps.alive halive))
      have hne : SessionTask.rtsp ≠ .producer p := fun h => by cases h
      have hguar' : (portsOutline (latestTransport es)).guar (.producer p) c.st c'.st := hkeeps
      have hrely : (portsOutline (latestTransport es)).rely .rtsp c.st c'.st :=
        (portsOutline _).compat hne h.live hlive hguar'
      refine ⟨hlive, ?_⟩
      rw [hs.th_of_ne hne]
      exact h.rtsp.env hrely

/-- **Run lemma**: in every run in which the SETUPs come before the stream, a live RTP task has the
ports of the latest Transport header. -/
theorem rtpTask_senderPorts (hrun : SessionRun setupsFirst rx es c) :
    RtpAlive c.st.statics → c.st.statics.io.senderPorts = portsOf (latestTransport es) := by
  have hports : RunPorts es c := by
    induction hrun with
    | boot =>
        refine ⟨fun h => absurd h Bool.false_ne_true, fun s hr hi => ?_⟩
        have hdone : EventDone none none SessionStatics.boot := ⟨rfl, fun _ hd => by cases hd⟩
        refine (onPorts_eventDone none).stable ?_ hi hr hdone
        exact fun h => absurd h Bool.false_ne_true
    | event hrun hth _ hmeets ih => exact ih.event hrun.reachable hth hmeets
    | step hrun hs ih => exact ih.step hrun.reachable hs
  exact hports.live

end ConduitStream
