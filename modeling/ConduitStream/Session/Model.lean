import ConduitStream.Session.ServerTask

/-! # The session as a sequential machine

Between two events only four things matter: the session record, whether there is a client, which UDP
sockets are open, and which producer task runs, if any. `SessionModel` has just these, and says with
`producer : Option Producer` that there is never more than one producer; the streaming resources and
the producer slot have no existence of their own in it.

Each function of the RTSP task has its counterpart here, which does in one step what the function does
by the time it returns. `SessionModel.step` is the effect of an event, and `SessionModel.Reached`
collects the states reached by events that meet a condition. -/

namespace ConduitStream

/-- The state of the machine. -/
structure SessionModel where
  session : RaopSession
  client : Bool
  udp : Finset ℤ
  producer : Option Producer

namespace SessionModel

/-- The RTP task runs. -/
abbrev Streaming (m : SessionModel) : Prop := m.producer = some .raopRtp

/-- The machine at boot. -/
def boot : SessionModel := ⟨.cleared, false, ∅, none⟩

/-- Overwrite the session record. -/
def onSession (m : SessionModel) (f : RaopSession → RaopSession) : SessionModel :=
  { m with session := f m.session }

/-- `client_fd = -1`, or the descriptor of a new client. -/
def setClient (m : SessionModel) (client : Bool) : SessionModel := { m with client := client }

/-! ## The UDP sockets -/

/-- Close the socket of a role, if there is one. -/
def closeRole (m : SessionModel) (role : UdpRole) : SessionModel :=
  if 0 ≤ m.session.fd role then
    { m with
      udp := m.udp.erase (m.session.fd role)
      session := { m.session with fd := Function.update m.session.fd role (-1) } }
  else m

/-- `raop_session_close_udp`. -/
def closeUdp (m : SessionModel) : SessionModel :=
  (((m.closeRole .audio).closeRole .control).closeRole .timing).onSession
    ({ · with port := fun _ => 0 })

/-- `raop_session_reset`. -/
def reset (m : SessionModel) : SessionModel := m.closeUdp.onSession fun _ => .cleared

/-- `s->fd = bind_one(&s->port)` for one role. -/
def bindRole (m : SessionModel) (role : UdpRole) : BindOutcome → SessionModel
  | .bound fd port =>
      { m with
        udp := insert (fd : ℤ) m.udp
        session :=
          { m.session with
            fd := Function.update m.session.fd role (fd : ℤ)
            port := Function.update m.session.port role port } }
  | _ => { m with session := { m.session with fd := Function.update m.session.fd role (-1) } }

/-- The three calls of `bind_one`. -/
def bindAll (m : SessionModel) (binds : UdpRole → BindOutcome) : SessionModel :=
  ((m.bindRole .audio (binds .audio)).bindRole .control (binds .control)).bindRole .timing
    (binds .timing)

/-- `raop_session_bind_udp`. -/
def bindUdp (m : SessionModel) (binds : UdpRole → BindOutcome) : SessionModel × ℤ :=
  let m := m.bindAll binds
  if m.session.fd .audio < 0 ∨ m.session.fd .control < 0 ∨ m.session.fd .timing < 0 then
    (m.closeUdp, -1)
  else (m, 0)

/-! ## The producers -/

/-- Stop a producer, if it runs. -/
def stopProducer (m : SessionModel) (p : Producer) : SessionModel :=
  if m.producer = some p then { m with producer := none } else m

/-- What `raop_rtp_start` needs to succeed. -/
def canStart (m : SessionModel) (o : StartOutcome) : Bool :=
  m.producer.isNone && m.session.haveKey && 0 ≤ m.session.fd .audio &&
    (buildDecoder m.session.fmtp o.alacCreate).isSome && o.importKey && o.malloc.isSome &&
    o.createTask

/-- `raop_rtp_start`: a failure changes nothing. -/
def startRtp (m : SessionModel) (o : StartOutcome) : SessionModel × ℤ :=
  if m.canStart o then ({ m with producer := some .raopRtp }, 0) else (m, -1)

/-- `audio_diag_tone_start`. -/
def startTone (m : SessionModel) (created : Bool) : SessionModel :=
  if m.producer = none ∧ created then { m with producer := some .diagTone } else m

/-! ## Requests and events -/

/-- `session_teardown_full`. -/
def teardownFull (m : SessionModel) : SessionModel := (m.stopProducer .raopRtp).reset

/-- `handle_setup`. -/
def setup (m : SessionModel) (binds : UdpRole → BindOutcome) (req : RtspRequest) : SessionModel :=
  let m := match rtspHeaderGet req.headers (ascii "Transport") with
    | some t => m.onSession (transportPorts t)
    | none => m
  let r := m.bindUdp binds
  if r.2 ≠ 0 then r.1 else r.1.onSession ({ · with state := .setup })

/-- The RECORD branch of `dispatch` up to `raop_rtp_start`. -/
def handOver (m : SessionModel) (peername : Option (BitVec 32)) : SessionModel :=
  match peername with
  | some ip => (m.stopProducer .diagTone).onSession ({ · with clientIp := ip })
  | none => m.stopProducer .diagTone

/-- The RECORD branch of `dispatch`. -/
def record (m : SessionModel) (o : RequestOutcome) : SessionModel :=
  if m.session.state = .recording then m
  else if m.session.haveKey = false ∨ m.session.fmtp = [] then m
  else
    let r := (m.handOver o.peername).startRtp o.start
    if r.2 = 0 then r.1.onSession ({ · with state := .recording }) else r.1

/-- `dispatch`. -/
def dispatch (m : SessionModel) (o : RequestOutcome) (req : RtspRequest) : SessionModel × Bool :=
  if strcmpEq req.method (ascii "ANNOUNCE") then
    (m.onSession fun r => (handleAnnounce o.psaDecrypt r req.body).1, false)
  else if strcmpEq req.method (ascii "SETUP") then (m.setup o.binds req, false)
  else if strcmpEq req.method (ascii "RECORD") then (m.record o, false)
  else if acknowledgedMethods.any (strcmpEq req.method) then (m, false)
  else if strcmpEq req.method (ascii "TEARDOWN") then (m.teardownFull, true)
  else (m, false)

/-- The effect of an event, and its result. -/
def step (m : SessionModel) : RtspEvent → SessionModel × ℤ
  | .accept => ((m.setClient true).teardownFull, 0)
  | .refuse | .oversize _ => (m, 0)
  | .request req o =>
      let r := m.dispatch o req
      (if r.2 then r.1.setClient false else r.1, 0)
  | .drop | .disconnect | .reclaim | .stop => ((m.setClient false).teardownFull, 0)
  | .rtpStart o => m.startRtp o
  | .rtpStop => (m.stopProducer .raopRtp, 0)
  | .toneStart created => (m.startTone created, 0)
  | .toneStop => (m.stopProducer .diagTone, 0)

/-! ## What an event can do -/

variable {m : SessionModel}

/-- Closing a socket does not concern the client. -/
theorem closeRole_setClient (m : SessionModel) (c : Bool) (role : UdpRole) :
    (m.setClient c).closeRole role = (m.closeRole role).setClient c := by
  unfold closeRole
  show (if 0 ≤ m.session.fd role then _ else _) = _
  split <;> rfl

/-- The teardown does not look at the client. -/
theorem teardownFull_setClient (m : SessionModel) (c : Bool) :
    (m.setClient c).teardownFull = m.teardownFull.setClient c := by
  have hstop : (m.setClient c).stopProducer .raopRtp = (m.stopProducer .raopRtp).setClient c := by
    unfold stopProducer
    show (if m.producer = some .raopRtp then _ else _) = _
    split <;> rfl
  unfold teardownFull reset closeUdp
  rw [hstop, closeRole_setClient, closeRole_setClient, closeRole_setClient]
  rfl

/-- The effects an event can have. -/
inductive Effect (m : SessionModel) : RtspEvent → SessionModel → Prop
  /-- The session is torn down. -/
  | teardown {e : RtspEvent} (c : Bool) :
      e.tearsDown = true → Effect m e (m.teardownFull.setClient c)
  | announce {req : RtspRequest} {o : RequestOutcome} :
      strcmpEq req.method (ascii "ANNOUNCE") = true →
      Effect m (.request req o) (m.onSession fun r => (handleAnnounce o.psaDecrypt r req.body).1)
  | setup {req : RtspRequest} {o : RequestOutcome} :
      strcmpEq req.method (ascii "SETUP") = true →
      Effect m (.request req o) (m.setup o.binds req)
  | record {req : RtspRequest} {o : RequestOutcome} :
      strcmpEq req.method (ascii "RECORD") = true → Effect m (.request req o) (m.record o)
  | rtpStart (o : StartOutcome) : Effect m (.rtpStart o) (m.startRtp o).1
  | rtpStop : Effect m .rtpStop (m.stopProducer .raopRtp)
  | toneStart (created : Bool) : Effect m (.toneStart created) (m.startTone created)
  | toneStop : Effect m .toneStop (m.stopProducer .diagTone)
  /-- Nothing happens to the session. -/
  | none {e : RtspEvent} : e.tearsDown = false → Effect m e m

/-- A request has one method, so at most one comparison holds. -/
theorem not_strcmpEq_of_strcmpEq {s t u : Bytes} (hs : strcmpEq s t = true) (htu : cstr t ≠ cstr u) :
    strcmpEq s u = false := by
  unfold strcmpEq at hs ⊢
  rw [decide_eq_true_eq] at hs
  rw [hs, decide_eq_false_iff_not]
  exact htu

/-- **What a step can do** to the machine: one of the cases, or nothing. -/
theorem step_effect (m : SessionModel) (e : RtspEvent) : Effect m e (m.step e).1 := by
  have htear : ∀ {e : RtspEvent} (c : Bool), (m.step e).1 = (m.setClient c).teardownFull →
      e.tearsDown = true → Effect m e (m.step e).1 := by
    intro e c hstep he
    rw [hstep, teardownFull_setClient]
    exact .teardown c he
  cases e with
  | refuse => exact .none rfl
  | oversize cseq => exact .none rfl
  | rtpStart o => exact .rtpStart o
  | rtpStop => exact .rtpStop
  | toneStart created => exact .toneStart created
  | toneStop => exact .toneStop
  | accept => exact htear true rfl rfl
  | drop => exact htear false rfl rfl
  | disconnect => exact htear false rfl rfl
  | reclaim => exact htear false rfl rfl
  | stop => exact htear false rfl rfl
  | request req o =>
      unfold step dispatch
      dsimp only
      by_cases hann : strcmpEq req.method (ascii "ANNOUNCE") = true
      · rw [if_pos hann]
        exact .announce hann
      rw [if_neg hann]
      by_cases hset : strcmpEq req.method (ascii "SETUP") = true
      · rw [if_pos hset]
        exact .setup hset
      rw [if_neg hset]
      by_cases hrec : strcmpEq req.method (ascii "RECORD") = true
      · rw [if_pos hrec]
        exact .record hrec
      rw [if_neg hrec]
      by_cases hack : acknowledgedMethods.any (strcmpEq req.method) = true
      · -- none of these methods is TEARDOWN
        rw [if_pos hack]
        obtain ⟨t, ht, hreq⟩ := List.any_eq_true.mp hack
        have hother : ∀ t ∈ acknowledgedMethods, cstr t ≠ cstr (ascii "TEARDOWN") := by decide
        exact .none (not_strcmpEq_of_strcmpEq hreq (hother t ht))
      rw [if_neg hack]
      by_cases htd : strcmpEq req.method (ascii "TEARDOWN") = true
      · rw [if_pos htd]
        exact .teardown false htd
      · rw [if_neg htd]
        exact .none (Bool.not_eq_true _ ▸ htd)

/-- An event that ends in `session_teardown_full` does nothing else. -/
theorem step_of_tearsDown {e : RtspEvent} (h : e.tearsDown = true) :
    ∃ c, (m.step e).1 = m.teardownFull.setClient c := by
  have hmethod : ∀ {req : RtspRequest} {t : Bytes}, closesConnection req = true →
      cstr (ascii "TEARDOWN") ≠ cstr t → strcmpEq req.method t ≠ true := by
    intro req t hreq ht
    rw [not_strcmpEq_of_strcmpEq hreq ht]
    exact Bool.false_ne_true
  generalize hm' : (m.step e).1 = m'
  have heffect := step_effect m e
  rw [hm'] at heffect
  cases heffect with
  | teardown c => exact ⟨c, rfl⟩
  | announce hreq => exact absurd hreq (hmethod h (by decide))
  | setup hreq => exact absurd hreq (hmethod h (by decide))
  | record hreq => exact absurd hreq (hmethod h (by decide))
  | none hno => exact absurd (hno.symm.trans h) Bool.false_ne_true
  | _ => cases h

/-! ## The sockets of the session -/

/-- The session has no socket at all, or all three are open. -/
def Bound (m : SessionModel) : Prop :=
  (∀ role, m.session.fd role < 0) ∨ ∀ role, 0 ≤ m.session.fd role ∧ m.session.fd role ∈ m.udp

/-- Nor the producer and the state of the session. -/
theorem closeRole_frame (m : SessionModel) (role : UdpRole) :
    (m.closeRole role).producer = m.producer ∧
      (m.closeRole role).session.state = m.session.state := by
  unfold closeRole
  split <;> exact ⟨rfl, rfl⟩

/-- Closing the sockets changes neither the state nor the producer. -/
theorem closeUdp_frame (m : SessionModel) :
    m.closeUdp.producer = m.producer ∧ m.closeUdp.session.state = m.session.state := by
  obtain ⟨hp, hs⟩ := m.closeRole_frame .audio
  obtain ⟨hp', hs'⟩ := (m.closeRole .audio).closeRole_frame .control
  obtain ⟨hp'', hs''⟩ := ((m.closeRole .audio).closeRole .control).closeRole_frame .timing
  exact ⟨hp''.trans (hp'.trans hp), hs''.trans (hs'.trans hs)⟩

/-- The descriptor closed is forgotten, the others stay. -/
theorem closeRole_fd (m : SessionModel) (role r : UdpRole) :
    (m.closeRole role).session.fd r
      = if r = role ∧ 0 ≤ m.session.fd role then -1 else m.session.fd r := by
  unfold closeRole
  by_cases hfd : 0 ≤ m.session.fd role
  · rw [if_pos hfd]
    by_cases hr : r = role
    · subst hr
      rw [if_pos ⟨rfl, hfd⟩]
      exact Function.update_self ..
    · rw [if_neg fun h => hr h.1]
      exact Function.update_of_ne hr ..
  · rw [if_neg hfd, if_neg fun h => hfd h.2]

/-- The sockets that are open behind it. -/
theorem mem_closeRole {role : UdpRole} {fd : ℤ} :
    fd ∈ (m.closeRole role).udp ↔
      fd ∈ m.udp ∧ (0 ≤ m.session.fd role → fd ≠ m.session.fd role) := by
  unfold closeRole
  split
  · next hfd => rw [Finset.mem_erase, and_comm, forall_prop_of_true hfd]
  · next hfd => rw [forall_prop_of_false hfd, and_true]

/-- Afterwards no role has a socket. -/
theorem closeUdp_fd (m : SessionModel) (r : UdpRole) : m.closeUdp.session.fd r < 0 := by
  show (((m.closeRole .audio).closeRole .control).closeRole .timing).session.fd r < 0
  simp only [closeRole_fd]
  cases r <;> simp <;> omega

/-- The sockets of all roles are closed, and no others. -/
theorem mem_closeUdp {fd : ℤ} :
    fd ∈ m.closeUdp.udp ↔
      fd ∈ m.udp ∧ ∀ role, 0 ≤ m.session.fd role → fd ≠ m.session.fd role := by
  show fd ∈ (((m.closeRole .audio).closeRole .control).closeRole .timing).udp ↔ _
  simp only [mem_closeRole, closeRole_fd]
  -- closing one role leaves the descriptors of the others as they are
  constructor
  · rintro ⟨⟨⟨h, h1⟩, h2⟩, h3⟩
    refine ⟨h, fun role => ?_⟩
    cases role with
    | audio => exact h1
    | control => simpa using h2
    | timing => simpa using h3
  · rintro ⟨h, hall⟩
    exact ⟨⟨⟨h, hall .audio⟩, by simpa using hall .control⟩, by simpa using hall .timing⟩

/-- Binding a socket leaves the other descriptors. -/
theorem bindRole_fd_of_ne {role r : UdpRole} (hr : r ≠ role) (o : BindOutcome) :
    (m.bindRole role o).session.fd r = m.session.fd r := by
  cases o <;> exact Function.update_of_ne hr ..

/-- And the producer and the state of the session. -/
theorem bindRole_frame (role : UdpRole) (o : BindOutcome) :
    (m.bindRole role o).producer = m.producer ∧
      (m.bindRole role o).session.state = m.session.state := by cases o <;> exact ⟨rfl, rfl⟩

/-- The sockets open afterwards are those open before, and the one just bound. -/
theorem mem_bindRole {role : UdpRole} {o : BindOutcome} {fd : ℤ} :
    fd ∈ (m.bindRole role o).udp ↔
      fd ∈ m.udp ∨ 0 ≤ fd ∧ (m.bindRole role o).session.fd role = fd := by
  cases o with
  | bound d port =>
      show fd ∈ insert (d : ℤ) m.udp ↔ _ ∨ 0 ≤ fd ∧ Function.update m.session.fd role (d : ℤ) role = fd
      rw [Function.update_self, Finset.mem_insert, or_comm, eq_comm]
      refine or_congr_right ⟨fun h => ⟨h ▸ Int.natCast_nonneg d, h⟩, And.right⟩
  | noSocket =>
      show fd ∈ m.udp ↔ _ ∨ 0 ≤ fd ∧ Function.update m.session.fd role (-1) role = fd
      rw [Function.update_self]
      exact ⟨.inl, fun h => h.resolve_right fun h => by omega⟩
  | unbound d =>
      show fd ∈ m.udp ↔ _ ∨ 0 ≤ fd ∧ Function.update m.session.fd role (-1) role = fd
      rw [Function.update_self]
      exact ⟨.inl, fun h => h.resolve_right fun h => by omega⟩

/-- The descriptor of a role after all three calls is that of its own call. -/
theorem bindAll_fd (m : SessionModel) (binds : UdpRole → BindOutcome) :
    (m.bindAll binds).session.fd .audio = (m.bindRole .audio (binds .audio)).session.fd .audio ∧
      (m.bindAll binds).session.fd .control
        = ((m.bindRole .audio (binds .audio)).bindRole .control (binds .control)).session.fd
          .control := by
  unfold bindAll
  constructor
  · rw [bindRole_fd_of_ne (by decide), bindRole_fd_of_ne (by decide)]
  · rw [bindRole_fd_of_ne (by decide)]

/-- The sockets open after all three calls. -/
theorem mem_bindAll {binds : UdpRole → BindOutcome} {fd : ℤ} :
    fd ∈ (m.bindAll binds).udp ↔
      fd ∈ m.udp ∨ 0 ≤ fd ∧ ∃ role, (m.bindAll binds).session.fd role = fd := by
  obtain ⟨haudio, hcontrol⟩ := m.bindAll_fd binds
  have hroles : (∃ role, (m.bindAll binds).session.fd role = fd) ↔
      ((m.bindAll binds).session.fd .audio = fd ∨ (m.bindAll binds).session.fd .control = fd) ∨
        (m.bindAll binds).session.fd .timing = fd :=
    ⟨fun ⟨role, h⟩ => by cases role <;> simp [h], fun h => by
      rcases h with (h | h) | h <;> exact ⟨_, h⟩⟩
  rw [hroles, haudio, hcontrol]
  unfold bindAll
  rw [mem_bindRole, mem_bindRole, mem_bindRole]
  tauto

/-- Binding leaves the session with all three sockets or none. -/
theorem bound_bindUdp (m : SessionModel) (binds : UdpRole → BindOutcome) :
    (m.bindUdp binds).1.Bound := by
  unfold bindUdp
  dsimp only
  split
  · -- one of the three calls has failed
    exact .inl (closeUdp_fd _)
  · next hfd =>
      refine .inr fun role => ?_
      have hpos : 0 ≤ (m.bindAll binds).session.fd role := by
        cases role <;> omega
      exact ⟨hpos, mem_bindAll.mpr (.inr ⟨hpos, role, rfl⟩)⟩

/-- SETUP binds the sockets of a session in which at most the sender's ports are new. -/
theorem setup_eq (m : SessionModel) (binds : UdpRole → BindOutcome) (req : RtspRequest) :
    ∃ m₁ : SessionModel, (m₁.session.fd = m.session.fd ∧ m₁.session.state = m.session.state) ∧
      (m₁.udp = m.udp ∧ m₁.producer = m.producer) ∧
      m.setup binds req = if (m₁.bindUdp binds).2 ≠ 0 then (m₁.bindUdp binds).1
        else (m₁.bindUdp binds).1.onSession ({ · with state := .setup }) := by
  unfold setup
  cases rtspHeaderGet req.headers (ascii "Transport") with
  | some t => exact ⟨m.onSession (transportPorts t), ⟨rfl, rfl⟩, ⟨rfl, rfl⟩, rfl⟩
  | none => exact ⟨m, ⟨rfl, rfl⟩, ⟨rfl, rfl⟩, rfl⟩

/-- Nothing but the descriptors and the open sockets matters to this. -/
theorem Bound.congr {m' : SessionModel} (h : m.Bound) (hfd : m'.session.fd = m.session.fd)
    (hudp : m'.udp = m.udp) : m'.Bound := by
  unfold Bound
  rw [hfd, hudp]
  exact h

/-- A start touches neither the session record nor the sockets. -/
theorem startRtp_frame (m : SessionModel) (o : StartOutcome) :
    (m.startRtp o).1.session = m.session ∧ (m.startRtp o).1.udp = m.udp := by
  unfold startRtp
  split <;> exact ⟨rfl, rfl⟩

/-- Starting the tone leaves session and sockets. -/
theorem startTone_frame (m : SessionModel) (created : Bool) :
    (m.startTone created).session = m.session ∧ (m.startTone created).udp = m.udp := by
  unfold startTone
  split <;> exact ⟨rfl, rfl⟩

/-- Stopping a producer leaves session and sockets. -/
theorem stopProducer_frame (m : SessionModel) (p : Producer) :
    (m.stopProducer p).session = m.session ∧ (m.stopProducer p).udp = m.udp := by
  unfold stopProducer
  split <;> exact ⟨rfl, rfl⟩

/-- A producer that has been stopped does not run. -/
theorem stopProducer_ne (m : SessionModel) (p : Producer) :
    (m.stopProducer p).producer ≠ some p := by
  unfold stopProducer
  split
  · exact nofun
  · next hp => exact hp

/-- After the teardown there is no stream. -/
theorem not_streaming_teardownFull (m : SessionModel) : ¬m.teardownFull.Streaming := by
  unfold Streaming
  show (m.stopProducer .raopRtp).closeUdp.producer ≠ _
  rw [((m.stopProducer .raopRtp).closeUdp_frame).1]
  exact m.stopProducer_ne .raopRtp

/-- Starting and stopping the tone does not concern the stream. -/
theorem streaming_startTone (m : SessionModel) (created : Bool) :
    (m.startTone created).Streaming ↔ m.Streaming := by
  unfold startTone
  split
  · next h => exact iff_of_false (fun h => by cases h) fun hm => by rw [Streaming, h.1] at hm; cases hm
  · exact Iff.rfl

/-- Stopping the tone stops no stream. -/
theorem streaming_stopTone (m : SessionModel) :
    (m.stopProducer .diagTone).Streaming ↔ m.Streaming := by
  unfold stopProducer
  split
  · next h => exact iff_of_false nofun fun hm => by rw [Streaming, h] at hm; cases hm
  · exact Iff.rfl

/-- Handing over to the stream leaves the sockets. -/
theorem handOver_frame (m : SessionModel) (peername : Option (BitVec 32)) :
    (m.handOver peername).session.fd = m.session.fd ∧ (m.handOver peername).udp = m.udp := by
  obtain ⟨hs, hu⟩ := m.stopProducer_frame .diagTone
  cases peername with
  | none => exact ⟨congrArg _ hs, hu⟩
  | some ip =>
      show (m.stopProducer .diagTone).session.fd = m.session.fd ∧ _
      exact ⟨congrArg _ hs, hu⟩

/-- RECORD leaves the sockets of the session alone. -/
theorem record_frame (m : SessionModel) (o : RequestOutcome) :
    (m.record o).session.fd = m.session.fd ∧ (m.record o).udp = m.udp := by
  have hover := m.handOver_frame o.peername
  obtain ⟨hs, hu⟩ := (m.handOver o.peername).startRtp_frame o.start
  unfold record
  dsimp only
  split_ifs
  · exact ⟨rfl, rfl⟩
  · exact ⟨rfl, rfl⟩
  · exact ⟨(congrArg RaopSession.fd hs).trans hover.1, hu.trans hover.2⟩
  · exact ⟨(congrArg RaopSession.fd hs).trans hover.1, hu.trans hover.2⟩

/-- A session that is reset has no socket. -/
theorem reset_fd (m : SessionModel) (role : UdpRole) : m.reset.session.fd role < 0 := by
  show (-1 : ℤ) < 0
  decide

/-- **What an event does to the sockets**: it closes those of the session, it is a SETUP, or it leaves
them alone. -/
theorem step_sockets (m : SessionModel) (e : RtspEvent) :
    (∃ c, (m.step e).1 = m.teardownFull.setClient c) ∨
      (∃ req o, e = .request req o ∧ strcmpEq req.method (ascii "SETUP") = true ∧
        (m.step e).1 = m.setup o.binds req) ∨
      ((m.step e).1.session.fd = m.session.fd ∧ (m.step e).1.udp = m.udp) := by
  generalize hm' : (m.step e).1 = m'
  have heffect := step_effect m e
  rw [hm'] at heffect
  -- only SETUP and the teardowns touch the sockets
  cases heffect with
  | teardown c => exact .inl ⟨c, rfl⟩
  | setup hreq => exact .inr (.inl ⟨_, _, rfl, hreq, rfl⟩)
  | announce => exact .inr (.inr ⟨(handleAnnounce_cases ..).2.2, rfl⟩)
  | record => exact .inr (.inr (m.record_frame _))
  | rtpStart o =>
      obtain ⟨hs, hu⟩ := m.startRtp_frame o
      exact .inr (.inr ⟨congrArg _ hs, hu⟩)
  | toneStart created =>
      obtain ⟨hs, hu⟩ := m.startTone_frame created
      exact .inr (.inr ⟨congrArg _ hs, hu⟩)
  | rtpStop =>
      obtain ⟨hs, hu⟩ := m.stopProducer_frame .raopRtp
      exact .inr (.inr ⟨congrArg _ hs, hu⟩)
  | toneStop =>
      obtain ⟨hs, hu⟩ := m.stopProducer_frame .diagTone
      exact .inr (.inr ⟨congrArg _ hs, hu⟩)
  | none => exact .inr (.inr ⟨rfl, rfl⟩)

/-- **Step lemma**: every event leaves the session without a socket or with all three open. -/
theorem Bound.step (h : m.Bound) (e : RtspEvent) : (m.step e).1.Bound := by
  rcases m.step_sockets e with ⟨c, hstep⟩ | ⟨req, o, -, -, hstep⟩ | ⟨hfd, hudp⟩
  · rw [hstep]
    exact .inl fun role => (m.stopProducer .raopRtp).reset_fd role
  · obtain ⟨m₁, -, -, hsetup⟩ := m.setup_eq o.binds req
    have hbind := bound_bindUdp m₁ o.binds
    rw [hstep, hsetup]
    split
    · exact hbind
    · exact hbind.congr rfl rfl
  · exact h.congr hfd hudp

end SessionModel

/-- A condition on events, given the session and whether the RTP task runs (`s_task != NULL`). -/
abbrev EventCondition : Type := RaopSession → Bool → RtspEvent → Prop

/-- The machine comes to the event, and the event meets the condition. -/
def SessionModel.Admits (meets : EventCondition) (m : SessionModel) (e : RtspEvent) : Prop :=
  e.Enabled m.client m.session ∧ meets m.session (m.producer = some .raopRtp) e

/-- The states of the machine reached by events that all meet the condition. -/
inductive SessionModel.Reached (meets : EventCondition) : SessionModel → Prop
  | boot : Reached meets .boot
  | step {m : SessionModel} {e : RtspEvent} :
      Reached meets m → m.Admits meets e → Reached meets (m.step e).1

/-- **Run lemma**: what every admitted step preserves holds in every reached state. -/
theorem SessionModel.Reached.invariant {meets : EventCondition} {P : SessionModel → Prop}
    (hboot : P .boot) (hstep : ∀ m e, P m → m.Admits meets e → P (m.step e).1) {m : SessionModel}
    (h : SessionModel.Reached meets m) : P m := by
  induction h with
  | boot => exact hboot
  | step _ hadmits ih => exact hstep _ _ ih hadmits

/-- In every reached state the session has no socket, or three that are open. -/
theorem SessionModel.Reached.bound {meets : EventCondition} {m : SessionModel}
    (h : SessionModel.Reached meets m) : m.Bound :=
  h.invariant (.inl SessionModel.boot.reset_fd) fun _ e hm _ => hm.step e

end ConduitStream
