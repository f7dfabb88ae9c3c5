import ConduitStream.Session.StartStop
import ConduitStream.Session.UdpSockets

/-! # The session refines the sequential machine

Each function of the RTSP task, run in parallel with the producers, does by the time it returns what
its counterpart on `SessionModel` does in one step; `event_rtsp` puts this together for the events.
With the producers' side this makes `sessionOutline` a proof outline for the whole system
(`sessionOutline_proves`), so that between two events the machine describes the statics
(`session_refines`). -/

namespace ConduitStream

variable {meets : EventCondition} {m : SessionModel}

/-! ## Between two events -/

/-- A change of the session is one of the machine. -/
theorem onSession_between (f : RaopSession → RaopSession) :
    RtspTriple meets (Between m) (.modify .access (·.onStatics (·.onSession f)))
      fun _ => Between (m.onSession f) :=
  (onSession_rtsp f).conseq (fun _ h => h.at) fun _ _ h => h.between

/-- So is a change of the client. -/
theorem setClient_between (client : Bool) :
    RtspTriple meets (Between m) (setClient client) fun _ => Between (m.setClient client) :=
  (setClient_rtsp client).conseq (fun _ h => h.at) fun _ _ h => h.between

/-- A program that has come to its end. -/
theorem ret_between {α : Type} {a r : α} (h : a = r) :
    RtspTriple meets (Between m) (pure a) fun a s => a = r ∧ Between m s :=
  rtsp_ret (fun _ h => h.2.steady) fun _ hb => ⟨h, hb⟩

/-- A response changes nothing in the machine. -/
theorem sendResponse_rtsp (status : ℕ) (cseq : ℤ) :
    RtspTriple meets (Between m) (sendResponse status cseq) fun _ => Between m :=
  rtsp_atom (fun _ h => h.steady) (fun _ _ h => h.steady) fun _ hi h =>
    ⟨.refl _, hi, trivial, h⟩

/-! ## The requests -/

/-- **`session_teardown_full`**: no socket is closed before the RTP task has ended. -/
theorem sessionTeardownFull_rtsp :
    RtspTriple meets (Between m) sessionTeardownFull fun _ => Between m.teardownFull := by
  have hstopped := m.stopProducer_ne .raopRtp
  refine raopRtpStop_rtsp.bind fun _ => ?_
  exact (raopSessionReset_rtsp hstopped).conseq (fun _ h => h.at) fun _ _ h => h.between

/-- **ANNOUNCE** is that of the machine. -/
theorem handleAnnounceRequest_rtsp (psaDecrypt : Bytes → Option Bytes) (req : RtspRequest)
    (cseq : ℤ) :
    RtspTriple meets (Between m) (handleAnnounceRequest psaDecrypt req cseq) fun _ =>
      Between (m.onSession fun r => (handleAnnounce psaDecrypt r req.body).1) := by
  have hannounce : RtspTriple meets (Between m)
      (.atom .access
        (·.onStatics (·.onSession fun r => (handleAnnounce psaDecrypt r req.body).1))
        (fun s => (handleAnnounce psaDecrypt s.statics.session req.body).2))
      fun _ => Between (m.onSession fun r => (handleAnnounce psaDecrypt r req.body).1) := by
    refine rtsp_atom (fun _ h => h.steady) (fun _ _ h => h.steady) fun s hi h => ?_
    have hcore : SameCore s.statics
        (s.statics.onSession fun r => (handleAnnounce psaDecrypt r req.body).1) :=
      ⟨rfl, rfl, rfl, rfl, rfl, rfl, rfl⟩
    exact ⟨hcore.rtspStep, hcore.inv hi hi.sockets, trivial,
      hcore.between h (congrArg (fun r => (handleAnnounce psaDecrypt r req.body).1) h.session)
        h.client h.udp rfl⟩
  refine hannounce.bind fun accepted => ?_
  cases accepted with
  | true => exact sendResponse_rtsp 200 cseq
  | false => exact sendResponse_rtsp 400 cseq

/-- **SETUP** is that of the machine. -/
theorem handleSetup_rtsp (binds : UdpRole → BindOutcome) (req : RtspRequest) (cseq : ℤ) :
    RtspTriple meets (Between m) (handleSetup binds req cseq) fun _ =>
      Between (m.setup binds req) := by
  -- from `raop_session_bind_udp` on
  have hbind : ∀ m : SessionModel, RtspTriple meets (Between m)
      (do
        let r ← raopSessionBindUdp binds
        if r ≠ 0 then
          sendResponse 500 cseq
          return ()
        .modify .access (·.onStatics (·.onSession ({ · with state := .setup })))
        sendResponse 200 cseq)
      fun _ => Between (if (m.bindUdp binds).2 ≠ 0 then (m.bindUdp binds).1
        else (m.bindUdp binds).1.onSession ({ · with state := .setup })) := by
    intro m
    refine (raopSessionBindUdp_rtsp binds).bind fun r => .pure fun hr => ?_
    subst hr
    by_cases hfail : (m.bindUdp binds).2 ≠ 0
    · rw [if_pos hfail, if_pos hfail]
      exact sendResponse_rtsp 500 cseq
    · rw [if_neg hfail, if_neg hfail]
      exact (onSession_between _).bind fun _ => sendResponse_rtsp 200 cseq
  unfold handleSetup SessionModel.setup
  cases rtspHeaderGet req.headers (ascii "Transport") with
  | some t => exact (onSession_between (transportPorts t)).bind fun _ => hbind _
  | none => exact hbind m

/-- **RECORD** is that of the machine. -/
theorem handleRecord_rtsp (hbound : m.Bound) (o : RequestOutcome) (cseq : ℤ) :
    RtspTriple meets (Between m) (handleRecord o cseq) fun _ => Between (m.record o) := by
  refine RtspTriple.bind (B := fun r s => r = m.session ∧ Between m s)
    (rtsp_read (fun _ h => h.steady) (fun _ => trivial) fun s h => h.session)
    fun r => .pure fun hr => ?_
  subst hr
  unfold SessionModel.record
  by_cases hrec : m.session.state = .recording
  · rw [if_pos hrec, if_pos hrec]
    exact sendResponse_rtsp 200 cseq
  rw [if_neg hrec, if_neg hrec]
  by_cases hno : m.session.haveKey = false ∨ m.session.fmtp = []
  · rw [if_pos hno, if_pos hno]
    exact sendResponse_rtsp 400 cseq
  rw [if_neg hno, if_neg hno]
  have hover : (m.handOver o.peername).Bound := by
    obtain ⟨hs, hu⟩ := m.handOver_frame o.peername
    exact hbound.congr hs hu
  -- from `raop_rtp_start` on
  have hstart : RtspTriple meets (Between (m.handOver o.peername))
      (do
        let r ← raopRtpStart o.start
        if r = 0 then
          .modify .access (·.onStatics (·.onSession ({ · with state := .recording })))
        sendResponse 200 cseq)
      fun _ => Between (if ((m.handOver o.peername).startRtp o.start).2 = 0 then
          ((m.handOver o.peername).startRtp o.start).1.onSession ({ · with state := .recording })
        else ((m.handOver o.peername).startRtp o.start).1) := by
    refine (raopRtpStart_rtsp hover o.start).bind fun r => .pure fun hr => ?_
    subst hr
    by_cases hok : ((m.handOver o.peername).startRtp o.start).2 = 0
    · rw [if_pos hok, if_pos hok]
      exact (onSession_between _).bind fun _ => sendResponse_rtsp 200 cseq
    · rw [if_neg hok, if_neg hok]
      exact sendResponse_rtsp 200 cseq
  refine audioDiagToneStop_rtsp.bind fun _ => ?_
  generalize o.peername = peername at hstart ⊢
  cases peername with
  | some ip => exact (onSession_between ({ · with clientIp := ip })).bind fun _ => hstart
  | none => exact hstart

/-- **`dispatch`** does to the statics what a step of the machine does. -/
theorem dispatch_rtsp (hbound : m.Bound) (o : RequestOutcome) (req : RtspRequest) :
    RtspTriple meets (Between m) (dispatch o req) fun closeConn s =>
      closeConn = (m.dispatch o req).2 ∧ Between (m.dispatch o req).1 s := by
  unfold dispatch SessionModel.dispatch
  dsimp only
  by_cases hann : strcmpEq req.method (ascii "ANNOUNCE") = true
  · rw [if_pos hann, if_pos hann]
    exact (handleAnnounceRequest_rtsp _ req _).bind fun _ => ret_between rfl
  rw [if_neg hann, if_neg hann]
  by_cases hset : strcmpEq req.method (ascii "SETUP") = true
  · rw [if_pos hset, if_pos hset]
    exact (handleSetup_rtsp _ req _).bind fun _ => ret_between rfl
  rw [if_neg hset, if_neg hset]
  by_cases hrec : strcmpEq req.method (ascii "RECORD") = true
  · rw [if_pos hrec, if_pos hrec]
    exact (handleRecord_rtsp hbound o _).bind fun _ => ret_between rfl
  rw [if_neg hrec, if_neg hrec]
  by_cases hack : acknowledgedMethods.any (strcmpEq req.method) = true
  · rw [if_pos hack, if_pos hack]
    exact (sendResponse_rtsp 200 _).bind fun _ => ret_between rfl
  rw [if_neg hack, if_neg hack]
  by_cases htd : strcmpEq req.method (ascii "TEARDOWN") = true
  · rw [if_pos htd, if_pos htd]
    exact sessionTeardownFull_rtsp.bind fun _ => (sendResponse_rtsp 200 _).bind fun _ =>
      ret_between rfl
  · rw [if_neg htd, if_neg htd]
    exact (sendResponse_rtsp 501 _).bind fun _ => ret_between rfl

/-! ## The events -/

/-- **The program of an event does the step of the machine.** -/
theorem event_rtsp (hbound : m.Bound) (e : RtspEvent) :
    RtspTriple meets (Between m) e.program fun r s =>
      r = (m.step e).2 ∧ Between (m.step e).1 s := by
  have hleave : RtspTriple meets (Between m)
      (do
        setClient false
        sessionTeardownFull
        return (0 : ℤ))
      fun r s => r = 0 ∧ Between (m.setClient false).teardownFull s :=
    (setClient_between false).bind fun _ => sessionTeardownFull_rtsp.bind fun _ => ret_between rfl
  cases e with
  | accept =>
      exact (setClient_between true).bind fun _ => sessionTeardownFull_rtsp.bind fun _ =>
        ret_between rfl
  | refuse => exact (sendResponse_rtsp 453 0).bind fun _ => ret_between rfl
  | oversize cseq => exact (sendResponse_rtsp 200 cseq).bind fun _ => ret_between rfl
  | drop => exact (sendResponse_rtsp 400 0).bind fun _ => hleave
  | disconnect => exact hleave
  | reclaim => exact hleave
  | stop => exact hleave
  | rtpStart o => exact raopRtpStart_rtsp hbound o
  | rtpStop => exact raopRtpStop_rtsp.bind fun _ => ret_between rfl
  | toneStart created => exact (audioDiagToneStart_rtsp created).bind fun _ => ret_between rfl
  | toneStop => exact audioDiagToneStop_rtsp.bind fun _ => ret_between rfl
  | request req o =>
      refine (dispatch_rtsp hbound o req).bind fun closeConn => .pure fun hclose => ?_
      subst hclose
      unfold SessionModel.step
      dsimp only
      cases (m.dispatch o req).2 with
      -- TEARDOWN closes the connection behind the response
      | true => exact (setClient_between false).bind fun _ => ret_between rfl
      | false => exact ret_between rfl

/-- Between two events the machine describes the statics. -/
theorem RtspIdle.between {s : SessionStatics} {k : Option RtspDone} (h : RtspIdle meets s k) :
    ∃ m, SessionModel.Reached meets m ∧ Between m s := by
  cases k with
  | none => exact ⟨.boot, .boot, h⟩
  | some d =>
      obtain ⟨m, hm, hadmits, -, -, hb⟩ := h
      exact ⟨_, hm.step hadmits, hb⟩

/-- The machine comes to the events the RTSP task comes to. -/
theorem Between.admits {s : SessionStatics} {e : RtspEvent} (h : Between m s)
    (henabled : e.Enabled s.client s.session)
    (hmeets : meets s.session (s.tasks .raopRtp).task e) : m.Admits meets e := by
  rw [h.session, h.client] at henabled
  rw [h.session, h.handle] at hmeets
  exact ⟨henabled, hmeets⟩

/-- **The RTSP task** keeps to the outline. -/
theorem rtsp_proves {k : Option RtspDone} {prog : SessionProg (Option RtspDone)} :
    (sessionOutline meets).Triple .rtsp
      (fun s => RtspIdle meets s.statics k ∧ SessionCode meets .rtsp k s prog) prog
      fun k s => RtspIdle meets s.statics k := by
  rintro s hi ⟨hidle, hcode⟩
  cases hcode with
  | @event _ _ e henabled hmeets =>
      obtain ⟨m, hm, hb⟩ := hidle.between
      have hprog : RtspTriple meets (Between m)
          (do
            let r ← e.program
            return some ⟨e, s.statics, r⟩)
          fun k s => RtspIdle meets s k := by
        refine (event_rtsp hm.bound e).bind fun r => .pure fun hr => rtsp_ret ?_ fun s' hb' => ?_
        · rintro s' ⟨m', -, -, -, -, hb'⟩
          exact hb'.steady
        · exact ⟨m, hm, hb.admits henabled hmeets, hb, hr.symm, hb'⟩
      exact hprog s hi hb

/-! ## The whole system -/

/-- **`sessionOutline` is a proof outline for the session.** -/
theorem sessionOutline_proves : (sessionOutline meets).Proves (sessionSystem meets) := by
  intro t k prog
  cases t with
  | rtsp => exact rtsp_proves
  | producer p =>
      cases p with
      | raopRtp => exact rtpTask_proves
      | diagTone => exact diagTone_proves

/-- At boot the machine describes the statics. -/
theorem between_boot : Between .boot .boot where
  session := rfl
  client := rfl
  udp := rfl
  alive _ := iff_of_false Bool.false_ne_true nofun
  task _ := rfl
  run _ := nofun
  held := rfl
  owner := rfl
  alac := rfl
  aesKey := rfl
  slots := rfl

/-- The system starts within the outline. -/
theorem sessionBoot_holds (rx : RtpRx) : (sessionOutline meets).Holds (sessionBoot rx) := by
  have hdead : Dead .boot := fun _ => ⟨rfl, rfl⟩
  have hidle : ∀ p, ProducerIdle p false .boot := fun p => ⟨nofun, nofun⟩
  have hinv : (sessionOutline meets).inv ⟨.boot, rx⟩ := hdead.inv
  have hrtsp : (sessionOutline meets).Stable .rtsp fun s => RtspIdle meets s.statics none :=
    steady_stable (A := (RtspIdle meets · none)) fun _ h => Between.steady h
  have hproducer : ∀ p, (sessionOutline meets).Stable (.producer p) fun s =>
      ProducerIdle p false s.statics := fun p => producerIdle_stable
  refine ⟨hinv, fun t => ?_⟩
  cases t with
  | rtsp => exact fun s hr hi => hrtsp hinv hi hr between_boot
  | producer p =>
      cases p with
      | raopRtp => exact fun s hr hi => hproducer .raopRtp hinv hi hr (hidle .raopRtp)
      | diagTone => exact fun s hr hi => hproducer .diagTone hinv hi hr (hidle .diagTone)

variable {rx : RtpRx} {c : SessionConfig}

/-- Every reachable configuration keeps to the outline. -/
theorem session_holds (hreach : (sessionSystem meets).Reachable (sessionBoot rx) c) :
    (sessionOutline meets).Holds c :=
  Outline.sound sessionOutline_proves (sessionBoot_holds rx) hreach

/-- **Refinement**: between two events, whatever the producers do, the statics are those the machine
describes after the same events. -/
theorem session_refines (hreach : (sessionSystem meets).Reachable (sessionBoot rx) c)
    {k : Option RtspDone} (hth : c.th .rtsp = .ret k) :
    ∃ m, SessionModel.Reached meets m ∧ Between m c.st.statics :=
  RtspIdle.between ((session_holds hreach).idle hth)

end ConduitStream
