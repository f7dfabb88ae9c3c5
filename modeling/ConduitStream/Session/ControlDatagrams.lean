import ConduitStream.Session.SenderPorts

/-! # Where the resend and timing requests go

`maybe_request_resend` and `send_timing_request` address their datagrams to the ports that the RTP task
has, cut to 16 bits; only the second looks at its port before. So a datagram goes where the latest
Transport header asks for if and only if that header carries a port which fits, and for a timing request
if and only if it carries none above 65535 (`controlDatagrams_asked_iff`). Without a `control_port`
the resend requests go to port 65535 (`controlDatagrams_unasked`). -/

namespace ConduitStream

variable {meets : EventCondition} {rx : RtpRx} {c : SessionConfig} {α β : Type}

/-! ## The ports a datagram can have -/

/-- Where a resend request, and where a timing request goes, by the ports the RTP task has. -/
def SentTo (io : RtpIo) : SessionStep → Prop
  | .sendto .control dst _ => dst.port = BitVec.ofInt 16 io.clientControlPort
  | .sendto .timing dst pkt => ∀ ntp, pkt = rtpTimingBuildRequest ntp →
      0 < io.clientTimingPort ∧ dst.port = BitVec.ofInt 16 io.clientTimingPort
  | _ => True

/-- The outline of the session in which the RTP task sends to these ports. -/
def sendOutline (meets : EventCondition) :
    Outline SessionState SessionStep SessionTask SessionCtl :=
  (sessionOutline meets).withOk fun
    | .producer .raopRtp, l, s => SentTo s.statics.io l
    | _, _, _ => True

variable (meets) in
/-- The program leaves the RTP task in its loop, and what it sends goes to these ports. -/
def Sends (prog : SessionProg α) : Prop :=
  (sendOutline meets).Triple (.producer .raopRtp) (fun s => Producing .raopRtp s.statics) prog
    fun _ s => Producing .raopRtp s.statics

/-- The label is none of a request to the sender. -/
def Unaddressed (l : SessionStep) : Prop := ∀ io, SentTo io l

/-- A program without such requests does what it always does. -/
theorem Works.sends {prog : SessionProg α} (h : Works meets .raopRtp prog)
    (hu : prog.Uses Unaddressed) : Sends meets prog :=
  Outline.Triple.withOk (fun _ s hl _ => hl s.statics.io) hu h

/-- Two programs in a row send what they may if both do. -/
theorem Sends.bind {prog : SessionProg α} {f : α → SessionProg β} (hp : Sends meets prog)
    (hf : ∀ a, Sends meets (f a)) : Sends meets (prog >>= f) := Outline.Triple.bind hp hf

/-- A program that returns sends nothing. -/
theorem Sends.ret (a : α) : Sends meets (pure a) := (Works.ret a).sends (Prog.uses_pure a)

/-- As long as the RTP task lives, nobody changes the ports it has. -/
theorem producing_io_stable (φ : RtpIo → Prop) :
    (sendOutline meets).Stable (.producer .raopRtp) fun s =>
      Producing .raopRtp s.statics ∧ φ s.statics.io := by
  have hview : (sessionOutline meets).Stable (.producer .raopRtp) fun s =>
      Producing .raopRtp s.statics := taskView_stable
  have hstable : (sessionOutline meets).Stable (.producer .raopRtp) fun s =>
      Producing .raopRtp s.statics ∧ φ s.statics.io := by
    refine Outline.ofGuar_stable fun t s s' ht hi hi' hg h => ?_
    refine ⟨hview hi hi' (.single ⟨hi, hi', t, ht, hg⟩) h.1, ?_⟩
    have hio : s'.statics.io = s.statics.io := by
      cases t with
      | rtsp => exact (hg.stream h.1.alive).1
      | producer p => cases hg <;> rfl
    rw [hio]
    exact h.2
  exact hstable

/-! ## The two senders -/

/-- A request to the sender, once its port is known to be that of the RTP task. -/
theorem sendto_sends {role : UdpRole} {dst : SockaddrIn} {pkt : Bytes} :
    (sendOutline meets).Triple (.producer .raopRtp)
      (fun s => Producing .raopRtp s.statics ∧ SentTo s.statics.io (.sendto role dst pkt))
      (.modify (.sendto role dst pkt) id) fun _ s => Producing .raopRtp s.statics := by
  have hview : (sessionOutline meets).Stable (.producer .raopRtp) fun s =>
      Producing .raopRtp s.statics := taskView_stable
  exact Outline.Triple.atom (producing_io_stable fun io => SentTo io (.sendto role dst pkt))
    (fun _ => hview) fun s hi h => ⟨.work id h.1.alive, hi, h.2, h.1⟩

/-- **`send_timing_request`** looks at its port first. -/
theorem sendTimingRequest_sends (ntp : BitVec 64) : Sends meets (sendTimingRequest ntp) := by
  have hview : (sessionOutline meets).Stable (.producer .raopRtp) fun s =>
      Producing .raopRtp s.statics := taskView_stable
  have hread : (sendOutline meets).Triple (.producer .raopRtp)
      (fun s => Producing .raopRtp s.statics)
      (.read .access fun s => (s.rx, s.statics.io))
      fun x s => Producing .raopRtp s.statics ∧ s.statics.io = x.2 :=
    Outline.Triple.atom hview (fun x => producing_io_stable (· = x.2)) fun s hi h =>
      ⟨.work id h.alive, hi, trivial, h, rfl⟩
  refine hread.bind fun ⟨rx, io⟩ => ?_
  dsimp only
  split
  · exact .ret hview fun _ _ h => h.1
  · next hguard =>
      push Not at hguard
      refine sendto_sends.weaken fun s _ h => ⟨h.1, ?_⟩
      rw [h.2]
      exact fun _ _ => ⟨hguard.2.2, rfl⟩

/-- The only action of `maybe_request_resend` is a request to the control port. -/
theorem maybeRequestResend_sendto {io : RtpIo} {rx : RtpRx} {now : BitVec 32} {fd : ℤ}
    {dst : SockaddrIn} {req : Bytes} (h : (maybeRequestResend io rx now).2 = [.sendto fd dst req]) :
    dst.port = BitVec.ofInt 16 io.clientControlPort := by
  unfold maybeRequestResend at h
  split at h
  · cases h
  · split at h
    · cases h
    · split at h
      · cases h
      · cases h
        rfl

/-- **`maybe_request_resend`** sends to the control port of the sender only. -/
theorem requestResend_sends (now : BitVec 32) : Sends meets (requestResend now) := by
  have hview : (sessionOutline meets).Stable (.producer .raopRtp) fun s =>
      Producing .raopRtp s.statics := taskView_stable
  have hacts : (sendOutline meets).Triple (.producer .raopRtp)
      (fun s => Producing .raopRtp s.statics)
      (.atom .reorder
        (fun s => s.onRx fun rx => (maybeRequestResend s.statics.io rx now).1)
        (fun s => (maybeRequestResend s.statics.io s.rx now).2))
      fun acts s => Producing .raopRtp s.statics ∧
        ∀ fd dst req, acts = [.sendto fd dst req] →
          dst.port = BitVec.ofInt 16 s.statics.io.clientControlPort := by
    refine Outline.Triple.atom hview (fun acts => producing_io_stable fun io =>
      ∀ fd dst req, acts = [.sendto fd dst req] →
        dst.port = BitVec.ofInt 16 io.clientControlPort) fun s hi h => ?_
    exact ⟨.work _ h.alive, hi, trivial, h, fun _ _ _ => maybeRequestResend_sendto⟩
  refine hacts.bind fun acts => ?_
  split
  · exact sendto_sends.weaken fun s _ h => ⟨h.1, h.2 _ _ _ rfl⟩
  · exact .ret hview fun _ _ h => h.1

/-! ## `rtp_task` -/

/-- No other label is one of a request. -/
theorem unaddressed_of_ne {l : SessionStep} (h : ∀ role dst pkt, l ≠ .sendto role dst pkt) :
    Unaddressed l := by
  intro io
  cases l with
  | sendto role dst pkt => exact absurd rfl (h role dst pkt)
  | _ => trivial

/-- The answer to a timing request is none itself. -/
theorem unaddressed_response (src : SockaddrIn) (origin receive transmit : BitVec 64) :
    Unaddressed (.sendto .timing src (rtpTimingBuildResponse origin receive transmit)) := by
  intro io ntp h
  have hkind := congrArg (fun pkt => pkt[1]?) h
  cases hkind

/-- Nor does the entry of the task. -/
theorem rtpTaskEntry_sends (ntp : BitVec 64) (tick : BitVec 32) :
    Sends meets (rtpTaskEntry ntp tick) := by
  refine ((access_works _).sends (Prog.uses_atom (fun _ => trivial) ..)).bind fun peerKnown => ?_
  cases peerKnown with
  | false => exact (Sends.ret _).bind fun _ => .ret _
  | true => exact (sendTimingRequest_sends ntp).bind fun _ => .ret _

/-- The timing socket answers to where the request came from. -/
theorem handleTiming_uses (pkt : Option Bytes) (src : SockaddrIn) (ntp : BitVec 64) :
    (handleTiming pkt src ntp).Uses Unaddressed := by
  refine Prog.uses_bind (Prog.uses_atom (fun _ => trivial) ..) fun _ => ?_
  split
  · exact Prog.uses_pure _
  · refine Prog.uses_ite ?_ (Prog.uses_pure _)
    exact Prog.uses_atom (unaddressed_response src _ _ _) ..

/-- Serving a socket sends what it may. -/
theorem rtpTaskServe_sends (ntp : BitVec 64) (now lastTiming : BitVec 32)
    (readable : List Readable) : Sends meets (rtpTaskServe ntp now lastTiming readable) := by
  have hquiet : ∀ {l : SessionStep} {upd : SessionState → SessionState}
      {res : SessionState → PUnit}, (∀ role dst pkt, l ≠ .sendto role dst pkt) →
      (Prog.atom l upd res).Uses Unaddressed := fun h =>
    Prog.uses_atom (unaddressed_of_ne h) ..
  -- behind the last readable socket comes the timing request; the arrivals send no request
  cases readable with
  | nil =>
      refine ((access_works _).sends (Prog.uses_atom (fun _ => trivial) ..)).bind fun known => ?_
      split
      · exact (sendTimingRequest_sends ntp).bind fun _ => .ret _
      · exact .ret _
  | cons r rest =>
      cases r with
      | audio pkt src =>
          refine (handleAudioReceive_works pkt src rest lastTiming).sends ?_
          refine Prog.uses_bind (hquiet nofun) fun _ => ?_
          cases audioArrival pkt with
          | none => exact Prog.uses_pure _
          | some a => exact Prog.uses_bind (hquiet nofun) fun _ => Prog.uses_pure _
      | control pkt =>
          refine (handleControlReceive_works pkt rest lastTiming).sends ?_
          refine Prog.uses_bind (hquiet nofun) fun _ => ?_
          cases controlArrival pkt with
          | none => exact Prog.uses_pure _
          | some a => exact Prog.uses_bind (hquiet nofun) fun _ => Prog.uses_pure _
      | timing pkt src =>
          exact ((handleTiming_works pkt src ntp).sends (handleTiming_uses pkt src ntp)).bind
            fun _ => .ret _

/-- Decoding a payload sends no request. -/
theorem decodeFrames_uses (payload : Bytes) (o : DecodeOutcome) :
    (decodeFrames payload o).Uses Unaddressed := by
  have hframes : ∀ {res : SessionState → BitVec 8},
      ((Prog.modify .decode id : SessionProg Unit) >>= fun _ => do
        let numChannels ← .read .access res
        return o.outsize.toNat / (numChannels.toNat * 2)).Uses Unaddressed := by
    intro res
    refine Prog.uses_bind (Prog.uses_atom (fun _ => trivial) ..) fun _ => ?_
    exact Prog.uses_bind (Prog.uses_atom (fun _ => trivial) ..) fun _ => Prog.uses_pure _
  unfold decodeFrames
  refine Prog.uses_ite (Prog.uses_pure _) (Prog.uses_ite hframes ?_)
  refine Prog.uses_bind (Prog.uses_atom (fun _ => trivial) ..) fun _ => ?_
  exact Prog.uses_ite (Prog.uses_pure _) hframes

/-- Draining sends at most the request for the gap. -/
theorem rtpTaskDrain_sends (o : DecodeOutcome) (now : BitVec 32) (pending : RtpPending) :
    Sends meets (rtpTaskDrain o now pending) := by
  refine ((reorder_works _ _).sends (Prog.uses_atom (fun _ => trivial) ..)).bind fun r => ?_
  split
  · exact ((decodeFrames_works _ o).sends (decodeFrames_uses _ o)).bind fun _ => .ret _
  · exact ((access_works _).sends (Prog.uses_atom (fun _ => trivial) ..)).bind fun _ => .ret _
  · split
    · exact (requestResend_sends now).bind fun _ => .ret _
    · exact (Sends.ret _).bind fun _ => .ret _

/-- Feeding frames to the ring sends no request. -/
theorem rtpTaskFeed_uses (frames accepted : ℕ) (pending : RtpPending) :
    (rtpTaskFeed frames accepted pending).Uses Unaddressed := by
  have hround : (feedRound .raopRtp frames accepted).Uses Unaddressed := by
    refine Prog.uses_ite (Prog.uses_pure _) ?_
    refine Prog.uses_bind (Prog.uses_atom (fun _ => trivial) ..) fun run => ?_
    refine Prog.uses_ite (Prog.uses_pure _) ?_
    exact Prog.uses_bind (Prog.uses_atom (fun _ => trivial) ..) fun _ => Prog.uses_pure _
  refine Prog.uses_bind hround fun left => ?_
  cases left <;> exact Prog.uses_pure _

/-- The head of the loop sends no request. -/
theorem rtpTaskLoop_uses (lastTiming : BitVec 32) (r : SelectResult) :
    (rtpTaskLoop lastTiming r).Uses Unaddressed := by
  have hexit : (producerExit .raopRtp).Uses Unaddressed := by
    refine Prog.uses_bind (Prog.uses_bind (Prog.uses_atom (fun _ => trivial) ..) fun _ =>
      Prog.uses_atom (fun _ => trivial) ..) fun _ => ?_
    exact Prog.uses_bind (Prog.uses_atom (fun _ => trivial) ..) fun _ =>
      Prog.uses_atom (fun _ => trivial) ..
  refine Prog.uses_bind (Prog.uses_atom (fun _ => trivial) ..) fun run => ?_
  refine Prog.uses_ite (Prog.uses_bind hexit fun _ => Prog.uses_pure _) ?_
  refine Prog.uses_bind (Prog.uses_atom (fun _ => trivial) ..) fun io => ?_
  cases r <;> exact Prog.uses_pure _

/-- Between two programs, the RTP task is what it is in the outline of the session. -/
theorem Sends.idle {prog : SessionProg RtpCtl} (h : Sends meets prog) :
    (sendOutline meets).Triple (.producer .raopRtp) (fun s => Producing .raopRtp s.statics) prog
      fun k s => ProducerIdle .raopRtp k.started s.statics :=
  h.conseq (fun _ _ h => h) fun _ _ _ h => ⟨fun _ => h.alive, fun _ => h⟩

/-- **`sendOutline` is a proof outline for the session.** -/
theorem sendOutline_proves : (sendOutline meets).Proves (sessionSystem meets) := by
  intro t k prog
  have hproves : (sessionOutline meets).Triple t
      (fun s => (sessionOutline meets).idle t k s ∧ (sessionSystem meets).code t k s prog) prog
      ((sessionOutline meets).idle t) := sessionOutline_proves t k prog
  have hany : prog.Uses fun _ => True := Prog.uses_of_forall (fun _ => trivial) prog
  cases t with
  | rtsp => exact hproves.withOk (fun _ _ _ _ => trivial) hany
  | producer p =>
      cases p with
      | diagTone => exact hproves.withOk (fun _ _ _ _ => trivial) hany
      | raopRtp =>
          rintro s hi ⟨hidle, hcode⟩
          have hidle' : ProducerIdle .raopRtp (RtpCtl.started k) s.statics := hidle
          -- one program of the RTP task for each state it can be in
          cases hcode with
          | rtpEntry ntp tick halive =>
              exact (rtpTaskEntry_sends ntp tick).idle s hi (hidle'.2 halive)
          | rtpLoop lastTiming r =>
              exact (rtpTaskLoop_producer lastTiming r).withOk
                (fun _ s hl _ => hl s.statics.io) (rtpTaskLoop_uses lastTiming r) s hi
                (hidle'.2 (hidle'.1 rfl))
          | rtpServe ntp now lastTiming readable =>
              exact (rtpTaskServe_sends ntp now lastTiming readable).idle s hi
                (hidle'.2 (hidle'.1 rfl))
          | rtpDrain o now pending =>
              exact (rtpTaskDrain_sends o now pending).idle s hi (hidle'.2 (hidle'.1 rfl))
          | rtpFeed frames accepted pending =>
              exact ((rtpTaskFeed_works frames accepted pending).sends
                (rtpTaskFeed_uses frames accepted pending)).idle s hi (hidle'.2 (hidle'.1 rfl))

/-- **In every run** the RTP task sends its requests to the ports it has. -/
theorem rtpTask_sentTo (hreach : (sessionSystem meets).Reachable (sessionBoot rx) c)
    {l : SessionStep} {c' : SessionConfig}
    (hstep : (sessionSystem meets).Step c (.producer .raopRtp) (some l) c') :
    SentTo c.st.statics.io l := by
  have hboot : (sendOutline meets).Holds (sessionBoot rx) := by
    have hbase : (sessionOutline meets).Holds (sessionBoot rx) := sessionBoot_holds rx
    refine ⟨hbase.1, fun t => ?_⟩
    cases t with
    | rtsp => exact hbase.2 .rtsp
    | producer p =>
        cases p with
        | raopRtp => exact hbase.2 (.producer .raopRtp)
        | diagTone => exact hbase.2 (.producer .diagTone)
  exact (Outline.sound sendOutline_proves hboot hreach).ok hstep

/-! ## What the sender has asked for -/

/-- The sender has asked for datagrams of a kind at `port`: the latest Transport header carries it. -/
def AskedFor (latest : Option Bytes) (key : Bytes) (port : BitVec 16) : Prop :=
  ∃ t ∈ latest, CarriesPort t key port.toNat ∧ 1 ≤ port.toNat

/-- The latest Transport header carries a UDP port. -/
def PortFits (latest : Option Bytes) (key : Bytes) : Prop :=
  ∃ t ∈ latest, ∃ port : ℤ, CarriesPort t key port ∧ 1 ≤ port ∧ port ≤ 65535

/-- The latest Transport header carries no number above the UDP ports. -/
def PortNotTooLarge (latest : Option Bytes) (key : Bytes) : Prop :=
  ∀ t ∈ latest, ∀ port : ℤ, CarriesPort t key port → port ≤ 65535

/-- What `handle_setup` makes of the latest Transport header. -/
def senderPort (latest : Option Bytes) (key : Bytes) : ℤ :=
  latest.elim 0 fun t => rtspTransportPort t key

/-- Both ports are read from the latest Transport header. -/
theorem portsOf_eq (latest : Option Bytes) :
    portsOf latest
      = (senderPort latest (ascii "control_port"), senderPort latest (ascii "timing_port")) := by
  cases latest <;> rfl

variable {latest : Option Bytes} {key : Bytes}

/-- A port that fits is the one of `handle_setup`. -/
theorem portFits_iff (hkey : IsFieldName key) :
    PortFits latest key ↔ 1 ≤ senderPort latest key ∧ senderPort latest key ≤ 65535 := by
  cases latest with
  | none =>
      refine iff_of_false ?_ ?_
      · rintro ⟨t, ht, -⟩
        cases ht
      · rintro ⟨h, -⟩
        exact absurd h (show ¬(1 : ℤ) ≤ 0 by decide)
  | some t =>
      show _ ↔ 1 ≤ rtspTransportPort t key ∧ rtspTransportPort t key ≤ 65535
      constructor
      · rintro ⟨_, ⟨⟩, port, hcarries, hpos, hle⟩
        rw [(rtspTransportPort_eq_iff_carriesPort hkey (by omega)).mpr hcarries]
        exact ⟨hpos, hle⟩
      · rintro ⟨hpos, hle⟩
        exact ⟨t, rfl, _, (rtspTransportPort_eq_iff_carriesPort hkey (by omega)).mp rfl, hpos, hle⟩

/-- A number above the UDP ports is the one of `handle_setup`, too. -/
theorem portNotTooLarge_iff (hkey : IsFieldName key) :
    PortNotTooLarge latest key ↔ senderPort latest key ≤ 65535 := by
  cases latest with
  | none => exact iff_of_true (fun _ ht => by cases ht) (show (0 : ℤ) ≤ 65535 by decide)
  | some t =>
      show _ ↔ rtspTransportPort t key ≤ 65535
      constructor
      · intro h
        by_contra hlarge
        exact hlarge (h t rfl _
          ((rtspTransportPort_eq_iff_carriesPort hkey (by omega)).mp rfl))
      · rintro h _ ⟨⟩ port hcarries
        by_contra hlarge
        rw [(rtspTransportPort_eq_iff_carriesPort hkey (by omega)).mpr hcarries] at h
        exact hlarge h

/-- **The cut to 16 bits** gives what the sender has asked for exactly if there is nothing to cut. -/
theorem askedFor_iff_portFits (hkey : IsFieldName key) :
    AskedFor latest key (BitVec.ofInt 16 (senderPort latest key)) ↔ PortFits latest key := by
  rw [portFits_iff hkey]
  constructor
  · rintro ⟨t, ht, hcarries, hpos⟩
    have hlt := (BitVec.ofInt 16 (senderPort latest key)).isLt
    rw [← rtspTransportPort_eq_iff_carriesPort hkey (by omega)] at hcarries
    cases ht
    change 1 ≤ rtspTransportPort t key ∧ rtspTransportPort t key ≤ 65535
    omega
  · rintro ⟨hpos, hle⟩
    have hport : ((BitVec.ofInt 16 (senderPort latest key)).toNat : ℤ) = senderPort latest key := by
      rw [BitVec.toNat_ofInt]
      omega
    cases latest with
    | none => exact absurd hpos (show ¬(1 : ℤ) ≤ 0 by decide)
    | some t =>
        refine ⟨t, rfl, ?_, by omega⟩
        rw [hport]
        exact (rtspTransportPort_eq_iff_carriesPort hkey (by omega)).mp rfl

/-- The fields of `handle_setup` are names. -/
theorem isFieldName_ports :
    IsFieldName (ascii "control_port") ∧ IsFieldName (ascii "timing_port") := by decide +kernel

/-- **Control datagrams**: in every run in which the SETUPs come before the stream, a resend request
goes where the sender has asked for it if and only if the latest Transport header carries a control
port from 1 to 65535, and a timing request if and only if it carries no timing port above 65535. -/
theorem controlDatagrams_asked_iff {es : List RtspEvent} (hrun : SessionRun setupsFirst rx es c)
    {l : SessionStep} {c' : SessionConfig}
    (hstep : (sessionSystem setupsFirst).Step c (.producer .raopRtp) (some l) c') :
    (∀ dst req, l = .sendto .control dst req →
      (AskedFor (latestTransport es) (ascii "control_port") dst.port ↔
        PortFits (latestTransport es) (ascii "control_port"))) ∧
    ∀ dst ntp, l = .sendto .timing dst (rtpTimingBuildRequest ntp) →
      (AskedFor (latestTransport es) (ascii "timing_port") dst.port ↔
        PortNotTooLarge (latestTransport es) (ascii "timing_port")) := by
  have hsent := rtpTask_sentTo hrun.reachable hstep
  -- a task that takes a step is alive
  have hguar : ProducerTaskStep .raopRtp c.st c'.st :=
    (session_holds hrun.reachable).guar_act hstep
  have hports := rtpTask_senderPorts hrun hguar.alive
  rw [portsOf_eq, RtpIo.senderPorts, Prod.mk.injEq] at hports
  obtain ⟨hcontrol, htiming⟩ := hports
  obtain ⟨hname, hname'⟩ := isFieldName_ports
  constructor
  · rintro dst req rfl
    have hdst : dst.port = BitVec.ofInt 16 c.st.statics.io.clientControlPort := hsent
    rw [hdst, hcontrol]
    exact askedFor_iff_portFits hname
  · rintro dst ntp rfl
    obtain ⟨hpos, hdst⟩ := hsent ntp rfl
    rw [htiming] at hpos hdst
    rw [hdst, askedFor_iff_portFits hname', portFits_iff hname', portNotTooLarge_iff hname']
    -- the guard of `send_timing_request`
    exact and_iff_right hpos

/-! ### Sample requests -/

/-- What `select` reports when an audio datagram has come. -/
def audioReadable (pkt : Bytes) : SelectResult := some (some (some pkt, ⟨1, 7000⟩), none, none)

/-- The program of the RTP task at a control value, with the answer of `select`. -/
def rtpProgramAt (r : SelectResult) : RtpCtl → SessionProg RtpCtl
  | .absent => rtpTaskEntry 0 0
  | .loop lastTiming => rtpTaskLoop lastTiming r
  | .serve readable lastTiming => rtpTaskServe 0 0 lastTiming readable
  | .drain pending => rtpTaskDrain ⟨true, 0⟩ 0 pending
  | .feed frames pending => rtpTaskFeed frames frames pending

/-- Let the RTP task run one program for each answer while no other task moves. -/
def rtpRun : List SelectResult → RtpCtl → SessionState → Option (RtpCtl × SessionState)
  | [], k, s => some (k, s)
  | r :: rs, k, s =>
      if RtpAlive s.statics then
        match (rtpProgramAt r k).runAlone s with
        | some (k', s') => rtpRun rs k' s'
        | none => none
      else none

/-- The request in the program the RTP task comes to when the RTSP task has processed the events and
`select` has given the answers. -/
def requestAfter (events : List RtspEvent) (rs : List SelectResult) : Option SessionStep :=
  ((sessionBoot sampleRx).st.process setupsFirst events).bind fun s =>
    (rtpRun rs .absent s).bind fun x =>
      if RtpAlive x.2.statics then
        (((rtpProgramAt none x.1).trace x.2).find? fun y => y.1 matches .sendto ..).map Prod.fst
      else none

/-- The programs of the RTP task are those of the system without the RTSP task. -/
theorem rtpProgramAt_code (r : SelectResult) (k : RtpCtl) {s : SessionState}
    (halive : RtpAlive s.statics) :
    ((sessionSystem meets).within .rtsp).code (.producer .raopRtp) k s (rtpProgramAt r k) := by
  refine ⟨nofun, ?_⟩
  cases k with
  | absent => exact .rtpEntry 0 0 halive
  | loop lastTiming => exact .rtpLoop lastTiming r
  | serve readable lastTiming => exact .rtpServe 0 0 lastTiming readable
  | drain pending => exact .rtpDrain ⟨true, 0⟩ 0 pending
  | feed frames pending => exact .rtpFeed frames frames pending

/-- What the RTP task does alone is part of an interleaving. -/
theorem reachable_rtpRun {c₀ : SessionConfig} {rs : List SelectResult} {k k' : RtpCtl}
    {s s' : SessionState} {th : (t : SessionTask) → SessionProg (SessionCtl t)}
    (h : ((sessionSystem meets).within .rtsp).Reachable c₀ ⟨s, th⟩)
    (hth : th (.producer .raopRtp) = .ret k) (hrun : rtpRun rs k s = some (k', s')) :
    ∃ th', ((sessionSystem meets).within .rtsp).Reachable c₀ ⟨s', th'⟩ ∧
      th' (.producer .raopRtp) = .ret k' := by
  induction rs generalizing k s th with
  | nil =>
      cases hrun
      exact ⟨th, h, hth⟩
  | cons r rs ih =>
      unfold rtpRun at hrun
      split at hrun
      · next halive =>
          split at hrun
          · next k₁ s₁ hrun₁ =>
              exact ih (h.runAlone hth (rtpProgramAt_code r k halive) hrun₁)
                (Function.update_self ..) hrun
          · cases hrun
      · cases hrun

/-- A run goes on while the RTSP task processes nothing. -/
theorem SessionRun.within {es : List RtspEvent} {c' : SessionConfig}
    (h : SessionRun meets rx es c) (hr : ((sessionSystem meets).within .rtsp).Reachable c c') :
    SessionRun meets rx es c' := by
  induction hr with
  | start => exact h
  | step _ hs ih => exact ih.step hs

/-- What the RTSP task does alone is part of a run. -/
theorem sessionRun_process [∀ r b e, Decidable (meets r b e)] {es events : List RtspEvent}
    {s s' : SessionState} {th : (t : SessionTask) → SessionProg (SessionCtl t)}
    {k : Option RtspDone} (h : SessionRun meets rx es ⟨s, th⟩) (hth : th .rtsp = .ret k)
    (hrun : s.process meets events = some s') :
    ∃ es' k', SessionRun meets rx es' ⟨s', Function.update th .rtsp (.ret k')⟩ ∧
      es' ++ doneEvents k' = es ++ doneEvents k ++ events := by
  induction events generalizing s es th k with
  | nil =>
      cases hrun
      refine ⟨es, k, ?_, (List.append_nil _).symm⟩
      rw [← hth, Function.update_eq_self]
      exact h
  | cons e events ih =>
      unfold SessionState.process at hrun
      split at hrun
      · next hcond =>
          split at hrun
          · next r s₁ hrun₁ =>
              -- the event counts from its entry on, and its program runs without a break
              have hentered := h.event hth hcond.1 hcond.2
              have hdone : (rtspProgram e s.statics).runAlone s = some (some ⟨e, s.statics, r⟩, s₁) :=
                Prog.runAlone_bind hrun₁
              have hstep := hentered.within (System.Reachable.finish .start hdone)
              obtain ⟨es', k', hrun', hes⟩ := ih hstep (Function.update_self ..) hrun
              rw [Function.update_idem] at hrun'
              refine ⟨es', k', hrun', hes.trans ?_⟩
              show es ++ doneEvents k ++ [e] ++ events = _
              rw [List.append_assoc _ [e], List.singleton_append]
          · cases hrun
      · cases hrun

/-- The request is sent in some run. -/
theorem exists_of_requestAfter {events : List RtspEvent} {last : RtspEvent}
    {rs : List SelectResult} {l : SessionStep}
    (h : requestAfter (events ++ [last]) rs = some l) (hsetup : last.isSetup = false)
    (hteardown : last.tearsDown = false) :
    ∃ es c c', SessionRun setupsFirst sampleRx es c ∧
      (sessionSystem setupsFirst).Step c (.producer .raopRtp) (some l) c' ∧
      latestTransport es = latestTransport events := by
  obtain ⟨s, hs, h⟩ := Option.bind_eq_some_iff.mp h
  obtain ⟨⟨k, s₁⟩, hrtp, h⟩ := Option.bind_eq_some_iff.mp h
  split at h
  · next halive =>
      obtain ⟨⟨l', s₂⟩, hfind, rfl⟩ := Option.map_eq_some_iff.mp h
      obtain ⟨es, d, hrun, hes⟩ := sessionRun_process .boot rfl hs
      let th₀ := Function.update (sessionBoot sampleRx).th .rtsp (.ret d)
      have hstart : ((sessionSystem setupsFirst).within .rtsp).Reachable ⟨s, th₀⟩ ⟨s, th₀⟩ := .start
      have habsent : th₀ (.producer .raopRtp) = .ret RtpCtl.absent := rfl
      obtain ⟨th, hreach, hth⟩ := reachable_rtpRun hstart habsent hrtp
      have hentered := hreach.step (.enter hth (rtpProgramAt_code none k halive))
      obtain ⟨c, c', hwithin, -, hstep⟩ := hentered.trace (List.mem_of_find?_eq_some hfind)
      refine ⟨es, c, c', hrun.within hwithin, hstep.of_within, ?_⟩
      -- the last event does not touch the Transport header, processed or not
      have hlatest : (doneEvents d).foldl transportAfter (latestTransport es)
          = latestTransport events := by
        have hlast : transportAfter (latestTransport events) last = latestTransport events :=
          transportAfter_of_isSetup hsetup hteardown
        rw [← hlast]
        have hfold := congrArg latestTransport hes
        simpa [latestTransport, List.foldl_append, doneEvents] using hfold
      cases d with
      | none => exact hlatest
      | some d =>
          have hevents : es ++ [d.event] = events ++ [last] := hes
          rw [(List.append_inj' hevents rfl).1]
  · cases h

/-- A sender connects and sends a SETUP with this Transport header. -/
def setUpWith (transport : String) : List RtspEvent :=
  [.accept, sampleAnnounce, .request
    ⟨ascii "SETUP", ascii "*", ascii "RTSP/1.0", [⟨ascii "Transport", ascii transport⟩], [], 0⟩
    { psaDecrypt := fun _ => none
      binds := fun
        | .audio => .bound 3 6000
        | .control => .bound 4 6001
        | .timing => .bound 5 6002
      peername := none
      start := ⟨true, true, none, true⟩ }]

/-- The audio packets 0, without a payload, and 2 have come. -/
def afterGap : List SelectResult :=
  [none, audioReadable [0x80, 0x60, 0, 0, 0, 0, 0, 0, 0, 0, 0, 0], none, none, none,
    audioReadable [0x80, 0x60, 0, 2, 0, 0, 0, 0, 0, 0, 0, 0, 1], none]

/-- RECORD. -/
def sampleRecordEvent : RtspEvent := sampleRequest "RECORD" "" 0

/-- A port that fits is asked for, and the resend request for the packets 0 and 1 goes there. -/
theorem controlDatagrams_asked_iff_sample : ∃ es c c',
    SessionRun setupsFirst sampleRx es c ∧
    (sessionSystem setupsFirst).Step c (.producer .raopRtp)
      (some (.sendto .control ⟨1, 6001⟩ (rtpResendBuild 0 2))) c' ∧
    AskedFor (latestTransport es) (ascii "control_port") 6001 := by
  have hsent : requestAfter (setUpWith "RTP/AVP;control_port=6001" ++ [sampleRecordEvent]) afterGap
      = some (.sendto .control ⟨1, 6001⟩ (rtpResendBuild 0 2)) := by decide +kernel
  obtain ⟨es, c, c', hrun, hstep, hlatest⟩ := exists_of_requestAfter hsent rfl rfl
  have hfits : PortFits (latestTransport es) (ascii "control_port") := by
    rw [hlatest, portFits_iff isFieldName_ports.1]
    decide +kernel
  exact ⟨es, c, c', hrun, hstep, ((controlDatagrams_asked_iff hrun hstep).1 _ _ rfl).mpr hfits⟩

/-- The sender has not asked for a port that `handle_setup` does not find fitting. -/
theorem not_askedFor {port : BitVec 16} (hkey : IsFieldName key)
    (hport : port = BitVec.ofInt 16 (senderPort latest key))
    (hfits : ¬(1 ≤ senderPort latest key ∧ senderPort latest key ≤ 65535)) :
    ¬AskedFor latest key port := by
  rw [hport, askedFor_iff_portFits hkey, portFits_iff hkey]
  exact hfits

/-- **Datagrams nobody has asked for**: without a `control_port` in the Transport header, the resend
request goes to port 65535; with a `timing_port` of 65537, the timing request goes to port 1. -/
theorem controlDatagrams_unasked :
    (∃ es c c', SessionRun setupsFirst sampleRx es c ∧
      latestTransport es = some (ascii "RTP/AVP;timing_port=6002") ∧
      (sessionSystem setupsFirst).Step c (.producer .raopRtp)
        (some (.sendto .control ⟨1, 65535⟩ (rtpResendBuild 0 2))) c' ∧
      ¬AskedFor (latestTransport es) (ascii "control_port") 65535) ∧
    ∃ es c c', SessionRun setupsFirst sampleRx es c ∧
      latestTransport es = some (ascii "RTP/AVP;timing_port=65537") ∧
      (sessionSystem setupsFirst).Step c (.producer .raopRtp)
        (some (.sendto .timing ⟨1, 1⟩ (rtpTimingBuildRequest 0))) c' ∧
      ¬AskedFor (latestTransport es) (ascii "timing_port") 1 := by
  constructor
  · have hsent : requestAfter (setUpWith "RTP/AVP;timing_port=6002" ++ [sampleRecordEvent]) afterGap
        = some (.sendto .control ⟨1, 65535⟩ (rtpResendBuild 0 2)) := by decide +kernel
    obtain ⟨es, c, c', hrun, hstep, hlatest⟩ := exists_of_requestAfter hsent rfl rfl
    refine ⟨es, c, c', hrun, hlatest, hstep, ?_⟩
    rw [hlatest]
    exact not_askedFor isFieldName_ports.1 (by decide +kernel) (by decide +kernel)
  · have hsent : requestAfter (setUpWith "RTP/AVP;timing_port=65537" ++ [sampleRecordEvent]) []
        = some (.sendto .timing ⟨1, 1⟩ (rtpTimingBuildRequest 0)) := by decide +kernel
    obtain ⟨es, c, c', hrun, hstep, hlatest⟩ := exists_of_requestAfter hsent rfl rfl
    refine ⟨es, c, c', hrun, hlatest, hstep, ?_⟩
    rw [hlatest]
    exact not_askedFor isFieldName_ports.2 (by decide +kernel) (by decide +kernel)

end ConduitStream
