import ConduitStream.Session.RtspSteps

/-! # Opening and closing the UDP sockets

The functions of `rtsp_session.c` do to the open sockets and to the session record what
`SessionModel` says. The RTP task may be streaming meanwhile on sockets that an earlier SETUP has
opened: those closed after a failed SETUP are the ones it has just opened. -/

namespace ConduitStream

variable {meets : EventCondition} {m : SessionModel} {X : ℤ → Prop}

/-- Closing a socket follows the machine, if no live RTP task uses it. -/
theorem closeRole_rtsp {role : UdpRole}
    (hX : m.Streaming → 0 ≤ m.session.fd role → X (m.session.fd role)) :
    RtspTriple meets (At m X) (closeRole role) fun _ => At (m.closeRole role) X := by
  have hread : RtspTriple meets (At m X) (.read .access (·.statics.session.fd role))
      fun fd s => fd = m.session.fd role ∧ At m X s :=
    rtsp_read (fun _ h => h.between.steady) (fun _ => trivial)
      fun s h => by rw [h.between.session]
  refine hread.bind fun fd => .pure fun hfd => ?_
  subst hfd
  unfold SessionModel.closeRole
  split
  · next hfd => exact (close_rtsp fun hm => hX hm hfd).bind fun _ => onSession_rtsp _
  · exact rtsp_ret (fun _ h => h.between.steady) fun _ h => h

/-- The descriptors to be closed must not be in use. -/
theorem raopSessionCloseUdp_rtsp
    (hX : m.Streaming → ∀ role, 0 ≤ m.session.fd role → X (m.session.fd role)) :
    RtspTriple meets (At m X) raopSessionCloseUdp fun _ => At m.closeUdp X := by
  refine (closeRole_rtsp fun hm => hX hm .audio).bind fun _ => ?_
  refine (closeRole_rtsp fun hm hfd => ?_).bind fun _ => ?_
  · rw [SessionModel.Streaming, (m.closeRole_frame _).1] at hm
    rw [SessionModel.closeRole_fd, if_neg fun h => by cases h.1] at hfd ⊢
    exact hX hm .control hfd
  refine (closeRole_rtsp fun hm hfd => ?_).bind fun _ => onSession_rtsp _
  rw [SessionModel.Streaming, (SessionModel.closeRole_frame _ _).1, (m.closeRole_frame _).1] at hm
  rw [SessionModel.closeRole_fd, if_neg (fun h => by cases h.1), SessionModel.closeRole_fd,
    if_neg (fun h => by cases h.1)] at hfd ⊢
  exact hX hm .timing hfd

/-- So does the reset, without a stream. -/
theorem raopSessionReset_rtsp (hm : ¬m.Streaming) :
    RtspTriple meets (At m X) raopSessionReset fun _ => At m.reset X :=
  (raopSessionCloseUdp_rtsp fun h => absurd h hm).bind fun _ => onSession_rtsp _

/-- `bind_one` for one role: the descriptor it stores is not in use. -/
theorem bindRole_rtsp (role : UdpRole) (o : BindOutcome) :
    RtspTriple meets (At m X) (bindRole role o) fun _ => At (m.bindRole role o)
      fun d => X d ∨ 0 ≤ d ∧ d = (m.bindRole role o).session.fd role := by
  have hst : ∀ {m : SessionModel} {X : ℤ → Prop} s, At m X s → Steady s := fun _ h => h.between.steady
  have hsame : ∀ (r : RaopSession), { r with
      fd := Function.update r.fd role (-1)
      port := Function.update r.port role (r.port role) } =
      { r with fd := Function.update r.fd role (-1) } := by
    intro r
    rw [Function.update_eq_self]
  -- without a socket, the role gets the descriptor -1
  have hnone : RtspTriple meets (At m X)
      (.modify .access (·.onStatics (·.onSession fun r => { r with
        fd := Function.update r.fd role (-1)
        port := Function.update r.port role ((none : Option (BitVec 16)).getD (r.port role)) })))
      fun _ => At { m with session := { m.session with fd := Function.update m.session.fd role (-1) } }
        fun d => X d ∨ 0 ≤ d ∧ d = Function.update m.session.fd role (-1) role := by
    refine (onSession_rtsp _).conseq (fun _ h => h) fun _ s h => ?_
    rw [SessionModel.onSession] at h
    rw [Function.update_self]
    have hmodel : At
        { m with session := { m.session with fd := Function.update m.session.fd role (-1) } }
        X s := by
      simpa only [Option.getD_none, hsame] using h
    exact hmodel.mono fun _ d hd => hd.resolve_right fun hd => by omega
  unfold bindRole
  cases o with
  | noSocket =>
      have hone : RtspTriple meets (At m X) (bindOne .noSocket)
          fun r s => r = (-1, none) ∧ At m X s :=
        rtsp_ret (fun _ h => hst _ h.2) fun _ h => ⟨rfl, h⟩
      refine hone.bind fun r => .pure fun hr => ?_
      subst hr
      exact hnone
  | unbound fd =>
      have hone : RtspTriple meets (At m X) (bindOne (.unbound fd))
          fun r s => r = (-1, none) ∧ At m X s := by
        refine (openSocket_rtsp fd).bind fun _ => .pure fun hfresh => ?_
        refine (close_rtsp fun _ => .inr rfl).bind fun _ =>
          rtsp_ret (fun _ h => hst _ h.2) fun s h => ?_
        rw [Finset.erase_insert hfresh] at h
        exact ⟨rfl, h.mono fun _ _ => .inl⟩
      refine hone.bind fun r => .pure fun hr => ?_
      subst hr
      exact hnone
  | bound fd port =>
      have hone : RtspTriple meets (At m X) (bindOne (.bound fd port))
          fun r s => r = ((fd : ℤ), some port) ∧
            At { m with udp := insert (fd : ℤ) m.udp } (fun d => X d ∨ d = fd) s :=
        (openSocket_rtsp fd).bind fun _ => .pure fun _ =>
          rtsp_ret (fun _ h => hst _ h.2) fun s h => ⟨rfl, h⟩
      refine hone.bind fun r => .pure fun hr => ?_
      subst hr
      refine (onSession_rtsp _).conseq (fun _ h => h) fun _ s h => ?_
      refine At.mono h fun _ d hd => hd.imp_right fun hd => ?_
      rw [hd.2]
      exact Function.update_self ..

/-- **`raop_session_bind_udp`.** On a failure it closes only what it has just opened. -/
theorem raopSessionBindUdp_rtsp (binds : UdpRole → BindOutcome) :
    RtspTriple meets (Between m) (raopSessionBindUdp binds)
      fun r s => r = (m.bindUdp binds).2 ∧ Between (m.bindUdp binds).1 s := by
  have hst : ∀ {φ : Prop} {m : SessionModel} s, φ ∧ Between m s → Steady s := fun _ h => h.2.steady
  refine RtspTriple.weaken ?_ fun s h => h.at
  refine (bindRole_rtsp .audio (binds .audio)).bind fun _ =>
    (bindRole_rtsp .control (binds .control)).bind fun _ =>
      (bindRole_rtsp .timing (binds .timing)).bind fun _ => ?_
  show RtspTriple meets (At (m.bindAll binds) _) _ _
  refine RtspTriple.bind (rtsp_read (fun _ h => h.between.steady) (fun _ => trivial)
    fun s h => congrArg RaopSession.fd h.between.session) fun fd => .pure fun hfd => ?_
  subst hfd
  obtain ⟨haudio, hcontrol⟩ := m.bindAll_fd binds
  by_cases hfail : (m.bindAll binds).session.fd .audio < 0 ∨
      (m.bindAll binds).session.fd .control < 0 ∨ (m.bindAll binds).session.fd .timing < 0
  · have hmodel : m.bindUdp binds = ((m.bindAll binds).closeUdp, -1) := if_pos hfail
    rw [if_pos hfail, hmodel]
    refine (raopSessionCloseUdp_rtsp fun _ role hpos => ?_).bind fun _ =>
      rtsp_ret hst fun _ h => ⟨rfl, h.between⟩
    -- every socket the session has now is a new one
    cases role with
    | audio =>
        rw [haudio] at hpos ⊢
        exact .inl (.inl (.inr ⟨hpos, rfl⟩))
    | control =>
        rw [hcontrol] at hpos ⊢
        exact .inl (.inr ⟨hpos, rfl⟩)
    | timing => exact .inr ⟨hpos, rfl⟩
  · have hmodel : m.bindUdp binds = (m.bindAll binds, 0) := if_neg hfail
    rw [if_neg hfail, hmodel]
    exact rtsp_ret hst fun _ h => ⟨rfl, h.between⟩

end ConduitStream
