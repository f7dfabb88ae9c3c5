import ConduitStream.Session.Outline

/-! # The producer tasks keep to the outline

While `s_run` is set, a producer works with its own statics and with what the RTSP task has set up for
it, all of which is there (`StaticsInv`). When it finds `s_run` cleared, it leaves: it gives back the
slot, clears its handle and sets `done`, in this order (`producerExit_leaves`). -/

namespace ConduitStream

variable {meets : EventCondition} {p : Producer} {α β : Type}

/-! ## Leaving -/

/-- A step of leaving: from one view of the producer to the next. -/
theorem leave_step {task held task' held' : Bool} {owner owner' : Option Producer}
    {l : SessionStep} {f : SessionStatics → SessionStatics}
    (hstep : ∀ s : SessionState, TaskView p true task held owner s.statics →
      ProducerTaskStep p s (s.onStatics f))
    (hview : ∀ s, TaskView p true task held owner s →
      TaskView p true task' held' owner' (f s))
    (hinv : ∀ s, StaticsInv s → TaskView p true task held owner s → StaticsInv (f s))
    (hok : ∀ s, StaticsInv s → TaskView p true task held owner s →
      StepOk (.producer p) l s) :
    (sessionOutline meets).Triple (.producer p)
      (fun s => TaskView p true task held owner s.statics) (.modify l (·.onStatics f))
      fun _ s => TaskView p true task' held' owner' s.statics := by
  refine .atom taskView_stable (fun _ => taskView_stable) fun s hi h => ?_
  exact ⟨hstep s h, hinv _ hi h, hok _ hi h, hview _ h⟩

/-- A task that is to end has no claim on the slot and the handle: the invariant does not depend on
them. -/
theorem StaticsInv.leaving {s s' : SessionStatics} (hi : StaticsInv s)
    {task held : Bool} {owner : Option Producer} (h : TaskView p true task held owner s)
    (hother : ∀ q, q ≠ p → s'.tasks q = s.tasks q)
    (halive : (s'.tasks p).alive = true) (hrun : (s'.tasks p).run = (s.tasks p).run)
    (hdone : (s'.tasks p).done = (s.tasks p).done)
    (hrest : s'.io = s.io ∧ s'.udp = s.udp ∧ s'.alac = s.alac ∧ s'.aesKey = s.aesKey ∧
      s'.slots = s.slots) : StaticsInv s' := by
  obtain ⟨hio, hudp, halac, hkey, hslots⟩ := hrest
  -- no other task is alive, before or after
  have hsame : ∀ q, (s'.tasks q).alive = true → (s.tasks q).alive = true := by
    intro q hq
    by_cases hqp : q = p
    · rw [hqp]
      exact h.alive
    · rwa [hother q hqp] at hq
  have honly : ∀ q, (s'.tasks q).alive = true → q = p := fun q hq =>
    hi.exclusive q p (hsame q hq) h.alive
  refine
    { not_done := fun q hq => ?_, running := fun q hq hr => ?_, exclusive := fun q r hq hr => ?_
      handle := fun q hq => ?_, sockets := fun hq => ?_, alac := fun hq => ?_
      aesKey := fun hq => ?_, slots := fun hq => ?_ }
  · rw [honly q hq, hdone]
    exact hi.not_done p h.alive
  · rw [honly q hq, hrun, h.leaving rfl] at hr
    cases hr
  · rw [honly q hq, honly r hr]
  · by_cases hqp : q = p
    · rw [hqp]
      exact halive
    · rw [hother q hqp] at hq ⊢
      exact hi.handle q hq
  · rw [hio, hudp]
    exact hi.sockets (hsame _ hq)
  · rw [halac]
    exact hi.alac (hsame _ hq)
  · rw [hkey]
    exact hi.aesKey (hsame _ hq)
  · rw [hslots]
    exact hi.slots (hsame _ hq)

/-- **Leaving**: the producer returns the slot and its handle before it is `done`. -/
theorem producerExit_leaves :
    (sessionOutline meets).Triple (.producer p)
      (fun s => TaskView p true true true (some p) s.statics) (producerExit p)
      fun _ s => ProducerIdle p false s.statics := by
  -- the order of the source: owner, slot, handle, and `done` last
  have hdisown : (sessionOutline meets).Triple (.producer p)
      (fun s => TaskView p true true true (some p) s.statics)
      (.modify .access (·.onStatics ({ · with producerOwner := none })))
      fun _ s => TaskView p true true true none s.statics :=
    leave_step (fun s h => .disown h.alive (h.leaving rfl))
      (fun s h => ⟨h.alive, h.leaving, h.task, h.held, rfl⟩)
      (fun s hi h => hi.leaving h (fun _ _ => rfl) h.alive rfl rfl ⟨rfl, rfl, rfl, rfl, rfl⟩)
      fun s _ _ => trivial
  have hrelease : (sessionOutline meets).Triple (.producer p)
      (fun s => TaskView p true true true none s.statics)
      (.modify .release (·.onStatics ({ · with producerHeld := false })))
      fun _ s => TaskView p true true false none s.statics :=
    leave_step (fun s h => .release h.alive (h.leaving rfl))
      (fun s h => ⟨h.alive, h.leaving, h.task, rfl, h.owner⟩)
      (fun s hi h => hi.leaving h (fun _ _ => rfl) h.alive rfl rfl ⟨rfl, rfl, rfl, rfl, rfl⟩)
      fun s hi h => ⟨h.held, fun q hq => congrArg _ (hi.exclusive p q h.alive hq)⟩
  have hhandle : (sessionOutline meets).Triple (.producer p)
      (fun s => TaskView p true true false none s.statics)
      (.modify .access (·.onStatics (·.onTask p ({ · with task := false }))))
      fun _ s => TaskView p true false false none s.statics :=
    leave_step (fun s h => .clearHandle h.alive (h.leaving rfl))
      (fun s h => ⟨by simpa using h.alive, by simpa using h.leaving, by simp, h.held, h.owner⟩)
      (fun s hi h => hi.leaving h (fun _ hq => s.onTask_of_ne hq _) (by simpa using h.alive)
        (by simp) (by simp) ⟨rfl, rfl, rfl, rfl, rfl⟩)
      fun s _ _ => trivial
  have hexit : (sessionOutline meets).Triple (.producer p)
      (fun s => TaskView p true false false none s.statics)
      (.modify .access (·.onStatics (·.onTask p ({ · with done := true, alive := false }))))
      fun _ s => ProducerIdle p false s.statics := by
    refine .atom taskView_stable (fun _ => producerIdle_stable) fun s hi h => ?_
    -- the slot admits one producer at a time, so after this step no task is alive
    have hdead : ∀ q, (((s.statics.onTask p ({ · with done := true, alive := false })).tasks
        q).alive = true) → False := by
      intro q hq
      by_cases hqp : q = p
      · subst hqp
        simp at hq
      · rw [SessionStatics.onTask_of_ne _ hqp] at hq
        exact hqp (hi.exclusive q p hq h.alive)
    refine ⟨.exit h.alive (h.leaving rfl) h.task h.held h.owner, ?_, trivial, nofun, ?_⟩
    · exact
        { not_done := fun q hq => (hdead q hq).elim
          running := fun q hq => (hdead q hq).elim
          exclusive := fun q _ hq => (hdead q hq).elim
          handle := by
            intro q hq
            by_cases hqp : q = p
            · subst hqp
              simp [h.task] at hq
            · rw [SessionState.onStatics_statics, SessionStatics.onTask_of_ne _ hqp] at hq ⊢
              exact hi.handle q hq
          sockets := fun hq => (hdead _ hq).elim
          alac := fun hq => (hdead _ hq).elim
          aesKey := fun hq => (hdead _ hq).elim
          slots := fun hq => (hdead _ hq).elim }
    · exact fun hq => (hdead p hq).elim
  exact (hdisown.bind fun _ => hrelease).bind fun _ => hhandle.bind fun _ => hexit

/-- A producer that reads its `run` flag as false is to end. -/
theorem readRun_producer :
    (sessionOutline meets).Triple (.producer p) (fun s => Producing p s.statics)
      (.read .access fun s => (s.statics.tasks p).run)
      fun run s => TaskView p (!run) true true (some p) s.statics := by
  refine .atom taskView_stable (fun _ => taskView_stable) fun s hi h => ?_
  exact ⟨.work id h.alive, hi, trivial, h.alive, by simp, h.task, h.held, h.owner⟩

/-- A producer in its loop is between two programs in the sense of the outline. -/
theorem Works.idle {prog : SessionProg α} (h : Works meets p prog) (started : α → Bool) :
    (sessionOutline meets).Triple (.producer p) (fun s => Producing p s.statics) prog
      fun k s => ProducerIdle p (started k) s.statics :=
  Outline.Triple.conseq h (fun _ _ h => h) fun _ _ _ h => ⟨fun _ => h.alive, fun _ => h⟩

/-- The loop of a producer: leave, or go on. -/
theorem loop_producer {started : α → Bool} {absent : α} (habsent : started absent = false)
    {go : SessionProg α} (hgo : Works meets p go) :
    (sessionOutline meets).Triple (.producer p) (fun s => Producing p s.statics)
      (do
        let run ← .read .access fun s => (s.statics.tasks p).run
        if !run then
          producerExit p
          return absent
        go)
      fun k s => ProducerIdle p (started k) s.statics := by
  refine readRun_producer.bind fun run => ?_
  cases run with
  | false =>
      refine producerExit_leaves.bind fun _ => .ret producerIdle_stable fun s _ h => ?_
      rw [habsent]
      exact h
  | true => exact hgo.idle started

/-! ## `rtp_task` -/

section Rtp

/-- The descriptors the RTP task has copied are open. -/
theorem ok_socket {l : SessionStep} {s : SessionStatics} (hi : StaticsInv s)
    (h : Producing .raopRtp s)
    (hl : l = .select ∨ ∃ role, l = .recvfrom role ∨ ∃ dst pkt, l = .sendto role dst pkt) :
    StepOk (.producer .raopRtp) l s := by
  have hopen := hi.sockets h.alive
  rcases hl with rfl | ⟨role, rfl | ⟨dst, pkt, rfl⟩⟩
  · exact hopen
  · exact hopen role
  · exact hopen role

/-- A datagram is received in the loop. -/
theorem recvfrom_works (role : UdpRole) :
    Works meets .raopRtp (.modify (.recvfrom role) id) :=
  .read fun _ hi h => ok_socket hi h (.inr ⟨role, .inl rfl⟩)

/-- A datagram is sent in the loop. -/
theorem sendto_works (role : UdpRole) (dst : SockaddrIn) (pkt : Bytes) :
    Works meets .raopRtp (.modify (.sendto role dst pkt) id) :=
  .read fun _ hi h => ok_socket hi h (.inr ⟨role, .inr ⟨dst, pkt, rfl⟩⟩)

/-- A call on the reorder buffer finds its slots. -/
theorem reorder_works (f : SessionState → RtpRx → RtpRx) (res : SessionState → α) :
    Works meets .raopRtp (.atom .reorder (fun s => s.onRx (f s)) res) :=
  .atom (fun s => ⟨f s, rfl⟩) fun _ hi h => hi.slots h.alive

/-- The statics may be read there. -/
theorem access_works (res : SessionState → α) : Works meets p (.read .access res) :=
  .read fun _ _ _ => trivial

/-- The timing request is sent in the loop. -/
theorem sendTimingRequest_works (ntp : BitVec 64) :
    Works meets .raopRtp (sendTimingRequest ntp) := by
  refine (access_works _).bind fun ⟨rx, io⟩ => ?_
  dsimp only
  split
  · exact .ret _
  · exact sendto_works _ _ _

/-- The task enters its loop when it has been created. -/
theorem rtpTaskEntry_works (ntp : BitVec 64) (tick : BitVec 32) :
    Works meets .raopRtp (rtpTaskEntry ntp tick) := by
  refine (access_works _).bind fun peerKnown => ?_
  cases peerKnown with
  | false => exact (Works.ret _).bind fun _ => .ret _
  | true => exact (sendTimingRequest_works ntp).bind fun _ => .ret _

/-- A datagram of the audio socket is handled there. -/
theorem handleAudioReceive_works (pkt : Option Bytes) (src : SockaddrIn) (rest : List Readable)
    (lastTiming : BitVec 32) :
    Works meets .raopRtp (handleAudioReceive pkt src rest lastTiming) := by
  refine (recvfrom_works _).bind fun _ => ?_
  cases audioArrival pkt with
  | none => exact .ret _
  | some a => exact (reorder_works _ _).bind fun _ => .ret _

/-- So is one of the control socket. -/
theorem handleControlReceive_works (pkt : Option Bytes) (rest : List Readable)
    (lastTiming : BitVec 32) :
    Works meets .raopRtp (handleControlReceive pkt rest lastTiming) := by
  refine (recvfrom_works _).bind fun _ => ?_
  cases controlArrival pkt with
  | none => exact .ret _
  | some a => exact (reorder_works _ _).bind fun _ => .ret _

/-- And one of the timing socket. -/
theorem handleTiming_works (pkt : Option Bytes) (src : SockaddrIn) (ntp : BitVec 64) :
    Works meets .raopRtp (handleTiming pkt src ntp) := by
  refine (recvfrom_works _).bind fun _ => ?_
  split
  · exact .ret _
  · split
    · exact sendto_works _ _ _
    · exact .ret _

/-- Serving the sockets stays in the loop. -/
theorem rtpTaskServe_works (ntp : BitVec 64) (now lastTiming : BitVec 32)
    (readable : List Readable) :
    Works meets .raopRtp (rtpTaskServe ntp now lastTiming readable) := by
  cases readable with
  | nil =>
      refine (access_works _).bind fun peerKnown => ?_
      split
      · exact (sendTimingRequest_works ntp).bind fun _ => .ret _
      · exact .ret _
  | cons r rest =>
      cases r with
      | audio pkt src => exact handleAudioReceive_works pkt src rest lastTiming
      | control pkt => exact handleControlReceive_works pkt rest lastTiming
      | timing pkt src => exact (handleTiming_works pkt src ntp).bind fun _ => .ret _

/-- So does asking for a gap. -/
theorem requestResend_works (now : BitVec 32) : Works meets .raopRtp (requestResend now) := by
  refine (reorder_works _ _).bind fun acts => ?_
  split
  · exact sendto_works _ _ _
  · exact .ret _

/-- Decoding a payload stays in the loop. -/
theorem decodeFrames_works (payload : Bytes) (o : DecodeOutcome) :
    Works meets .raopRtp (decodeFrames payload o) := by
  have hdecode : Works meets .raopRtp (.modify .decode id) := .read fun _ hi h => hi.alac h.alive
  have hdecrypt : Works meets .raopRtp (.modify .decrypt id) :=
    .read fun _ hi h => hi.aesKey h.alive
  unfold decodeFrames
  split
  · exact .ret _
  · split
    · exact hdecode.bind fun _ => (access_works _).bind fun _ => .ret _
    · refine hdecrypt.bind fun _ => ?_
      split
      · exact .ret _
      · exact hdecode.bind fun _ => (access_works _).bind fun _ => .ret _

/-- Draining the reorder buffer stays in the loop. -/
theorem rtpTaskDrain_works (o : DecodeOutcome) (now : BitVec 32) (pending : RtpPending) :
    Works meets .raopRtp (rtpTaskDrain o now pending) := by
  refine (reorder_works _ _).bind fun r => ?_
  split
  · exact (decodeFrames_works _ o).bind fun _ => .ret _
  · exact (access_works _).bind fun _ => .ret _
  · split
    · exact (requestResend_works now).bind fun _ => .ret _
    · exact (Works.ret _).bind fun _ => .ret _

end Rtp

/-- Only the holder of the slot calls `audio_play_pcm`. -/
theorem feedRound_works (frames accepted : ℕ) : Works meets p (feedRound p frames accepted) := by
  have hplay : Works meets p (.modify .playPcm id) := .read fun _ _ h => ⟨h.held, p, rfl, h.owner⟩
  unfold feedRound
  split
  · exact .ret _
  · refine (access_works _).bind fun run => ?_
    split
    · exact .ret _
    · exact hplay.bind fun _ => .ret _

/-- Feeding the ring stays in the loop. -/
theorem rtpTaskFeed_works (frames accepted : ℕ) (pending : RtpPending) :
    Works meets .raopRtp (rtpTaskFeed frames accepted pending) := by
  refine (feedRound_works frames accepted).bind fun left => ?_
  cases left <;> exact .ret _

/-- The head of the loop goes on or ends the task. -/
theorem rtpTaskLoop_producer (lastTiming : BitVec 32) (r : SelectResult) :
    (sessionOutline meets).Triple (.producer .raopRtp) (fun s => Producing .raopRtp s.statics)
      (rtpTaskLoop lastTiming r)
      fun k s => ProducerIdle .raopRtp k.started s.statics := by
  refine loop_producer rfl ?_
  have hselect : Works meets .raopRtp (.read .select (·.statics.io)) :=
    .read fun _ hi h => ok_socket hi h (.inl rfl)
  refine hselect.bind fun io => ?_
  cases r <;> exact .ret _

/-- **`rtp_task`** keeps to the outline, from its creation to its end. -/
theorem rtpTask_proves {k : RtpCtl} {prog : SessionProg RtpCtl} :
    (sessionOutline meets).Triple (.producer .raopRtp)
      (fun s => ProducerIdle .raopRtp k.started s.statics ∧
        SessionCode meets (.producer .raopRtp) k s prog) prog
      fun k s => ProducerIdle .raopRtp k.started s.statics := by
  rintro s hi ⟨hidle, hcode⟩
  cases hcode with
  | rtpEntry ntp tick halive =>
      exact (rtpTaskEntry_works ntp tick).idle _ s hi (hidle.2 halive)
  | rtpLoop lastTiming r => exact rtpTaskLoop_producer lastTiming r s hi (hidle.2 (hidle.1 rfl))
  | rtpServe ntp now lastTiming readable =>
      exact (rtpTaskServe_works ntp now lastTiming readable).idle _ s hi (hidle.2 (hidle.1 rfl))
  | rtpDrain o now pending =>
      exact (rtpTaskDrain_works o now pending).idle _ s hi (hidle.2 (hidle.1 rfl))
  | rtpFeed frames accepted pending =>
      exact (rtpTaskFeed_works frames accepted pending).idle _ s hi (hidle.2 (hidle.1 rfl))

/-! ## `diag_tone_task` -/

/-- **`diag_tone_task`** keeps to the outline, from its creation to its end. -/
theorem diagTone_proves {k : DiagCtl} {prog : SessionProg DiagCtl} :
    (sessionOutline meets).Triple (.producer .diagTone)
      (fun s => ProducerIdle .diagTone k.started s.statics ∧
        SessionCode meets (.producer .diagTone) k s prog) prog
      fun k s => ProducerIdle .diagTone k.started s.statics := by
  rintro s hi ⟨hidle, hcode⟩
  cases hcode with
  | diagEntry halive => exact (Works.ret _).idle _ s hi (hidle.2 halive)
  | diagLoop => exact loop_producer rfl (Works.ret _) s hi (hidle.2 (hidle.1 rfl))
  | diagFeed frames accepted =>
      have hround : Works meets .diagTone (diagToneFeed frames accepted) :=
        (feedRound_works frames accepted).bind fun left => by cases left <;> exact .ret _
      exact hround.idle _ s hi (hidle.2 (hidle.1 rfl))

end ConduitStream
