import ConduitStream.Session.Lifecycle

/-! # What a RECORD is answered

A RECORD is answered 200 if the session is recording already or `raop_rtp_start` has been called,
whatever that has returned, and 400 without a key or an `fmtp`.

* `recordOutline` is the outline of the session with a condition of its own on the response to one
  RECORD; what else the RECORD does sends no response (`quiet_raopRtpStart`), so its triples carry
  over (`quiet_triple`);
* `record_truthful_iff` says exactly when the answer is 200 if and only if the RTP task runs and the
  session is recording, in every interleaving with the producers. -/

namespace ConduitStream

variable {α β : Type} {m : SessionModel} {rx : RtpRx} {c : SessionConfig}

/-! ## Recording sessions stream -/

namespace SessionModel

/-- A recording session streams. -/
def RecordingOnlyStreaming (m : SessionModel) : Prop := m.session.state = .recording → m.Streaming

/-- **Step lemma**: no event of the server makes a session record without a stream. -/
theorem RecordingOnlyStreaming.step (h : m.RecordingOnlyStreaming) {e : RtspEvent}
    (hadmits : m.Admits serverEvents e) : (m.step e).1.RecordingOnlyStreaming := by
  -- an ANNOUNCE or a SETUP leaves the state alone or sets one that is not recording
  have hmoves : ∀ {m' : SessionModel} {moves : Bool} {state : RaopState}, state ≠ .recording →
      m'.producer = m.producer →
      m'.session.state = (if moves then state else m.session.state) →
      m'.RecordingOnlyStreaming := by
    intro m' moves state hnot hproducer hstate hrec
    rw [Streaming, hproducer]
    cases moves with
    | true => exact absurd (hstate.symm.trans hrec) hnot
    | false => exact h (hstate.symm.trans hrec)
  generalize hm' : (m.step e).1 = m'
  have heffect := step_effect m e
  rw [hm'] at heffect
  cases heffect with
  | teardown c _ => exact fun hrec => absurd hrec (show RaopState.idle ≠ .recording by decide)
  | @announce req o hreq =>
      obtain ⟨-, hstate, -⟩ := handleAnnounce_cases o.psaDecrypt m.session req.body
      exact hmoves (by decide) rfl hstate
  | @setup req o hreq =>
      obtain ⟨hproducer, hstate⟩ := m.setup_state o.binds req
      exact hmoves (by decide) hproducer hstate
  | @record req o hreq =>
      rcases m.record_cases o with ⟨-, hstream, -⟩ | ⟨hstate, hstream⟩
      · exact fun _ => hstream
      · exact fun hrec => hstream.mpr (h (hstate.symm.trans hrec))
  | rtpStart o => exact hadmits.2.elim
  | rtpStop => exact hadmits.2.elim
  | toneStart created =>
      intro hrec
      rw [(m.startTone_frame created).1] at hrec
      exact (m.streaming_startTone created).mpr (h hrec)
  | toneStop =>
      intro hrec
      rw [(m.stopProducer_frame .diagTone).1] at hrec
      exact m.streaming_stopTone.mpr (h hrec)
  | none => exact h

/-- In every state reached, a session records only while it streams. -/
theorem Reached.recordingOnlyStreaming (h : SessionModel.Reached serverEvents m) :
    m.RecordingOnlyStreaming :=
  h.invariant (fun hrec => by cases hrec) fun _ _ hm hadmits => hm.step hadmits

end SessionModel

/-! ## What sends no response -/

/-- The label is not that of a response. -/
def Quiet : SessionStep → Prop
  | .respond .. => False
  | _ => True

/-- The program sends no response. -/
abbrev IsQuiet (prog : SessionProg α) : Prop := prog.Uses Quiet

/-- Stopping the tone sends no response. -/
theorem quiet_audioDiagToneStop : IsQuiet audioDiagToneStop := by
  refine Prog.uses_bind (Prog.uses_atom trivial ..) fun running => ?_
  refine Prog.uses_ite (Prog.uses_pure _) ?_
  exact Prog.uses_bind (Prog.uses_atom trivial ..) fun _ => Prog.uses_await trivial ..

/-- `raop_rtp_start` leaves the answer to its caller. -/
theorem quiet_raopRtpStart (o : StartOutcome) : IsQuiet (raopRtpStart o) :=
  closed_raopRtpStart (Prog.isClosed_uses Quiet) trivial trivial trivial o

/-! ## The outline of one RECORD -/

/-- The RTP task runs and the session is recording. -/
def Recording (s : SessionStatics) : Prop :=
  (s.tasks .raopRtp).alive = true ∧ s.session.state = .recording

/-- The answer tells the truth: 200 if the session is recorded, else an error status. -/
def Truthful (status : ℕ) (s : SessionStatics) : Prop :=
  (Recording s → status = 200) ∧ (¬Recording s → 400 ≤ status)

/-- The outline of the session while the RTSP task serves one RECORD: the response is the truth
exactly if `φ` holds. -/
def recordOutline (φ : Prop) : Outline SessionState SessionStep SessionTask SessionCtl :=
  ((sessionOutline serverEvents).withOk fun
    | .rtsp, .respond status _, s => Truthful status s.statics ↔ φ
    | t, l, s => StepOk t l s.statics).withIdle fun
    | .rtsp => fun _ _ => True
    | .producer .raopRtp => fun k s => ProducerIdle .raopRtp k.started s.statics
    | .producer .diagTone => fun k s => ProducerIdle .diagTone k.started s.statics

variable {φ : Prop} {A : SessionStatics → Prop} {B : α → SessionStatics → Prop}

/-- What sends no response does what it always does. -/
theorem quiet_triple {prog : SessionProg α} (hquiet : IsQuiet prog)
    (h : RtspTriple serverEvents A prog B) :
    (recordOutline φ).Triple .rtsp (fun s => A s.statics) prog fun a s => B a s.statics := by
  refine (h.withOk (fun l s hl hok => ?_) hquiet).withIdle
  cases l <;> first | exact hok | exact hl.elim

/-- A response whose status says what has been decided keeps to the outline. -/
theorem answer_triple (status : ℕ) (cseq : ℤ)
    (hanswer : ∀ s, Between m s → (Truthful status s ↔ φ)) :
    (recordOutline φ).Triple .rtsp (fun s => Between m s.statics) (sendResponse status cseq)
      fun _ s => Between m s.statics :=
  have hstable : (sessionOutline serverEvents).Stable .rtsp fun s => Between m s.statics :=
    steady_stable fun _ h => h.steady
  Outline.Triple.atom hstable (fun _ => hstable) fun s hi h =>
    ⟨RtspStep.refl _, hi, hanswer s.statics h, h⟩

/-- The machine decides whether the session is recorded. -/
theorem Between.recording_iff {s : SessionStatics} (h : Between m s) :
    Recording s ↔ m.Streaming ∧ m.session.state = .recording := by
  rw [Recording, h.alive, h.session]

/-- The condition on the state before a RECORD: the session is recording already, or lacks a key or an
`fmtp`, or no RTP task runs, the audio socket is bound, the `fmtp` is accepted and nothing that
`raop_rtp_start` allocates or creates fails. -/
def RecordDecided (s : SessionStatics) (o : StartOutcome) : Prop :=
  s.session.state = .recording ∨ s.session.haveKey = false ∨ s.session.fmtp = [] ∨
    ((s.tasks .raopRtp).task = false ∧ 0 ≤ s.session.fd .audio ∧
      (buildDecoder s.session.fmtp o.alacCreate).isSome = true ∧ o.importKey = true ∧
      o.malloc.isSome = true ∧ o.createTask = true)

/-- The same in terms of the machine. -/
theorem Between.recordDecided_iff {s : SessionStatics} (h : Between m s) (o : RequestOutcome) :
    RecordDecided s o.start ↔ m.session.state = .recording ∨
      (m.session.haveKey = false ∨ m.session.fmtp = []) ∨
      (m.handOver o.peername).canStart o.start = true := by
  have hfmtp : (m.handOver o.peername).session.fmtp = m.session.fmtp ∧
      (m.handOver o.peername).session.haveKey = m.session.haveKey := by
    have hs := (m.stopProducer_frame .diagTone).1
    cases o.peername with
    | none => exact ⟨congrArg _ hs, congrArg _ hs⟩
    | some ip =>
        show (m.stopProducer .diagTone).session.fmtp = _ ∧ (m.stopProducer .diagTone).session.haveKey = _
        exact ⟨congrArg _ hs, congrArg _ hs⟩
  -- a tone is stopped first, so only an RTP task that runs can be in the way
  have hfree : (m.handOver o.peername).producer = none ↔ (s.tasks .raopRtp).task = false := by
    have hhandle : (m.handOver o.peername).producer = (m.stopProducer .diagTone).producer := by
      cases o.peername <;> rfl
    rw [hhandle, h.task, ← Bool.not_eq_true, h.alive]
    unfold SessionModel.stopProducer
    cases hp : m.producer with
    | none => simp [hp]
    | some p => cases p <;> simp [hp]
  unfold RecordDecided SessionModel.canStart
  rw [h.session, (m.handOver_frame o.peername).1, hfmtp.1, hfmtp.2]
  simp only [Bool.and_eq_true, Option.isNone_iff_eq_none, hfree, decide_eq_true_eq]
  cases m.session.haveKey
  · simp
  · simp
    tauto

/-- What the machine has done by the time it answers a RECORD. -/
def SessionModel.recordDecided (m : SessionModel) (o : RequestOutcome) : Prop :=
  m.session.state = .recording ∨ (m.session.haveKey = false ∨ m.session.fmtp = []) ∨
    (m.handOver o.peername).canStart o.start = true

/-- **The RECORD branch of `dispatch`**: its one response is the truth exactly if the outcome is
decided. -/
theorem handleRecord_triple (hbound : m.Bound) (hm : m.RecordingOnlyStreaming) (o : RequestOutcome)
    (cseq : ℤ) :
    (recordOutline (m.recordDecided o)).Triple .rtsp (fun s => Between m s.statics)
      (handleRecord o cseq) fun _ s => Between (m.record o) s.statics := by
  have hread : RtspTriple serverEvents (Between m) (.read .access (·.statics.session))
      fun r s => r = m.session ∧ Between m s :=
    rtsp_read (fun _ h => h.steady) (fun _ => trivial) fun s h => h.session
  refine (quiet_triple (Prog.uses_atom trivial ..) hread).bind fun r => .pure fun hr => ?_
  subst hr
  unfold SessionModel.record SessionModel.recordDecided
  by_cases hrec : m.session.state = .recording
  · -- the stream of a recording session is running
    rw [if_pos hrec, if_pos hrec]
    refine answer_triple 200 cseq fun s hb => ?_
    have hyes : Recording s := hb.recording_iff.mpr ⟨hm hrec, hrec⟩
    exact iff_of_true ⟨fun _ => rfl, fun h => absurd hyes h⟩ (.inl hrec)
  rw [if_neg hrec, if_neg hrec]
  by_cases hno : m.session.haveKey = false ∨ m.session.fmtp = []
  · rw [if_pos hno, if_pos hno]
    refine answer_triple 400 cseq fun s hb => ?_
    have hnot : ¬Recording s := fun h => hrec (hb.recording_iff.mp h).2
    exact iff_of_true ⟨fun h => absurd h hnot, fun _ => le_rfl⟩ (.inr (.inl hno))
  rw [if_neg hno, if_neg hno]
  have hover : (m.handOver o.peername).Bound := by
    obtain ⟨hs, hu⟩ := m.handOver_frame o.peername
    exact hbound.congr hs hu
  have hstate : (m.handOver o.peername).session.state = m.session.state := by
    have hs : (m.stopProducer .diagTone).session.state = m.session.state :=
      congrArg RaopSession.state (m.stopProducer_frame .diagTone).1
    cases o.peername <;> exact hs
  -- from `raop_rtp_start` on, which decides the answer although it is not looked at
  have hstart : (recordOutline (m.session.state = .recording ∨
        (m.session.haveKey = false ∨ m.session.fmtp = []) ∨
        (m.handOver o.peername).canStart o.start = true)).Triple .rtsp
      (fun s => Between (m.handOver o.peername) s.statics)
      (do
        let r ← raopRtpStart o.start
        if r = 0 then
          .modify .access (·.onStatics (·.onSession ({ · with state := .recording })))
        sendResponse 200 cseq)
      fun _ s => Between (if ((m.handOver o.peername).startRtp o.start).2 = 0 then
          ((m.handOver o.peername).startRtp o.start).1.onSession ({ · with state := .recording })
        else ((m.handOver o.peername).startRtp o.start).1) s.statics := by
    refine (quiet_triple (quiet_raopRtpStart _) (raopRtpStart_rtsp hover o.start)).bind
      fun r => .pure fun hr => ?_
    subst hr
    unfold SessionModel.startRtp
    cases hcan : (m.handOver o.peername).canStart o.start with
    | true =>
        refine (quiet_triple (Prog.uses_atom trivial ..) (onSession_between _)).bind fun _ => ?_
        refine answer_triple 200 cseq fun s hb => ?_
        have hyes : Recording s := hb.recording_iff.mpr ⟨rfl, rfl⟩
        exact iff_of_true ⟨fun _ => rfl, fun h => absurd hyes h⟩ (.inr (.inr rfl))
    | false =>
        refine answer_triple 200 cseq fun s hb => ?_
        -- the start has failed, and the answer is 200 all the same
        have hnot : ¬Recording s := fun h =>
          hrec (hstate.symm.trans (hb.recording_iff.mp h).2)
        refine iff_of_false (fun h => absurd (h.2 hnot) (by decide)) ?_
        rintro (h | h | h)
        · exact hrec h
        · exact hno h
        · cases h
  refine (quiet_triple quiet_audioDiagToneStop audioDiagToneStop_rtsp).bind fun _ => ?_
  generalize o.peername = peername at hstart ⊢
  cases peername with
  | some ip =>
      exact (quiet_triple (Prog.uses_atom trivial ..)
        (onSession_between ({ · with clientIp := ip }))).bind fun _ => hstart
  | none => exact hstart

/-- What the RTSP task runs for an event that comes while the statics are `before`. -/
def rtspProgram (e : RtspEvent) (before : SessionStatics) : SessionProg (Option RtspDone) := do
  let r ← e.program
  return some ⟨e, before, r⟩

/-- RECORD is dispatched to its branch. -/
theorem dispatch_record {req : RtspRequest} (hreq : strcmpEq req.method (ascii "RECORD") = true)
    (o : RequestOutcome) :
    dispatch o req = do
      handleRecord o (rtspCseq req.headers)
      return false := by
  unfold dispatch
  dsimp only
  rw [if_neg (by rw [SessionModel.not_strcmpEq_of_strcmpEq hreq (by decide)]; decide),
    if_neg (by rw [SessionModel.not_strcmpEq_of_strcmpEq hreq (by decide)]; decide), if_pos hreq]

/-- The program of a RECORD answers as it is decided for the machine. -/
theorem record_triple (hbound : m.Bound) (hm : m.RecordingOnlyStreaming) {req : RtspRequest}
    (hreq : strcmpEq req.method (ascii "RECORD") = true) (o : RequestOutcome)
    (before : SessionStatics) :
    (recordOutline (m.recordDecided o)).Triple .rtsp (fun s => Between m s.statics)
      (rtspProgram (.request req o) before) fun _ _ => True := by
  have hend : ∀ {β : Type} (b : β) {A : SessionState → Prop},
      (recordOutline (m.recordDecided o)).Triple .rtsp A (pure b) fun _ _ => True :=
    fun _ _ => .ret (fun _ _ _ _ _ _ => trivial) fun _ _ _ => trivial
  have hdispatch : (recordOutline (m.recordDecided o)).Triple .rtsp
      (fun s => Between m s.statics) (dispatch o req) fun closeConn s =>
        closeConn = false ∧ Between (m.record o) s.statics := by
    rw [dispatch_record hreq]
    exact (handleRecord_triple hbound hm o _).bind fun _ => quiet_triple (Prog.uses_pure _) (ret_between rfl)
  have hrun : (recordOutline (m.recordDecided o)).Triple .rtsp (fun s => Between m s.statics)
      (RtspEvent.request req o).program fun _ _ => True := by
    refine hdispatch.bind fun closeConn => .pure fun hclose => ?_
    subst hclose
    exact hend _
  exact hrun.bind fun r => hend _

/-- The producers keep to the outline as they always do. -/
theorem producer_safe {q : Producer} {p : SessionProg (SessionCtl (.producer q))} {s : SessionState}
    (h : (sessionOutline serverEvents).Safe (.producer q)
      ((sessionOutline serverEvents).idle (.producer q)) p s) :
    (recordOutline φ).Safe (.producer q) ((recordOutline φ).idle (.producer q)) p s := by
  have hany : p.Uses fun _ => True := Prog.uses_of_forall (fun _ => trivial) p
  cases q with
  | raopRtp =>
      refine (h.withOk (fun l s _ hok => ?_) hany).withIdle
      exact hok
  | diagTone =>
      refine (h.withOk (fun l s _ hok => ?_) hany).withIdle
      exact hok

/-- Every configuration within the RECORD keeps to its outline. -/
theorem record_holds (hreach : (sessionSystem serverEvents).Reachable (sessionBoot rx) c)
    (hb : Between m c.st.statics) (hbound : m.Bound) (hm : m.RecordingOnlyStreaming)
    {req : RtspRequest} (hreq : strcmpEq req.method (ascii "RECORD") = true) (o : RequestOutcome)
    {c₁ : SessionConfig}
    (hwithin : ((sessionSystem serverEvents).within .rtsp).Reachable
      ⟨c.st, Function.update c.th .rtsp (rtspProgram (.request req o) c.st.statics)⟩ c₁) :
    (recordOutline (m.recordDecided o)).Holds c₁ := by
  have hall := session_holds hreach
  have hproves : (recordOutline (m.recordDecided o)).Proves
      ((sessionSystem serverEvents).within .rtsp) := by
    -- the RTSP task does not enter a further event within this one; the producers keep to theirs
    intro t k p
    cases t with
    | rtsp => exact fun s hi h => absurd rfl h.2.1
    | producer q =>
        have hproves : (sessionOutline serverEvents).Proves (sessionSystem serverEvents) :=
          sessionOutline_proves
        have hp := hproves (.producer q) k p
        cases q <;> exact fun s hi h => producer_safe (hp s hi ⟨h.1, h.2.2⟩)
  refine Outline.sound hproves ?_ hwithin
  refine ⟨hall.1, fun t => ?_⟩
  cases t with
  | rtsp =>
      dsimp only
      rw [Function.update_self]
      exact record_triple hbound hm hreq o c.st.statics c.st hall.1 hb
  | producer q =>
      have hq : SessionTask.producer q ≠ .rtsp := fun h => by cases h
      dsimp only
      rw [Function.update_of_ne hq]
      exact producer_safe (hall.2 (.producer q))

/-- **RECORD tells the truth** if and only if `raop_rtp_start` succeeds or is not called: in every
reachable state and whatever the producers do meanwhile, the response is 200 exactly if the RTP task
runs and the session is recording, and an error otherwise, if and only if the session is recording
already, lacks a key or an `fmtp`, or nothing in the start of its stream fails. -/
theorem record_truthful_iff
    (hreach : (sessionSystem serverEvents).Reachable (sessionBoot rx) c) {k : Option RtspDone}
    (hth : c.th .rtsp = .ret k) {req : RtspRequest}
    (hreq : strcmpEq req.method (ascii "RECORD") = true) (o : RequestOutcome)
    {c₁ c₂ : SessionConfig}
    (hwithin : ((sessionSystem serverEvents).within .rtsp).Reachable
      ⟨c.st, Function.update c.th .rtsp (rtspProgram (.request req o) c.st.statics)⟩ c₁)
    {status : ℕ} {cseq : ℤ}
    (hstep : (sessionSystem serverEvents).Step c₁ .rtsp (some (.respond status cseq)) c₂) :
    Truthful status c₁.st.statics ↔ RecordDecided c.st.statics o.start := by
  obtain ⟨m, hm, hb⟩ := session_refines hreach hth
  have hholds := record_holds hreach hb hm.bound hm.recordingOnlyStreaming hreq o hwithin
  rw [hb.recordDecided_iff o]
  exact hholds.ok hstep

/-! ### Sample answers -/

instance (s : SessionStatics) : Decidable (Recording s) := inferInstanceAs (Decidable (_ ∧ _))

instance (s : SessionStatics) (o : StartOutcome) : Decidable (RecordDecided s o) :=
  inferInstanceAs (Decidable (_ ∨ _ ∨ _ ∨ _ ∧ _ ∧ _ ∧ _ ∧ _ ∧ _))

/-- A RECORD. -/
def sampleRecord : RtspRequest := ⟨ascii "RECORD", ascii "*", ascii "RTSP/1.0", [], [], 0⟩

/-- Nothing outside fails. -/
def recordSucceeds : RequestOutcome where
  psaDecrypt := fun _ => some (List.replicate 16 0)
  binds := fun _ => .noSocket
  peername := some 1
  start := ⟨true, true, some fun _ => ⟨false, 0, 0, []⟩, true⟩

/-- The status of a response. -/
def responseStatus : SessionStep → Option ℕ
  | .respond status _ => some status
  | _ => none

/-- What is answered to the request after the events, if no producer moves meanwhile: whether the
outcome is decided before, the status, and whether the session is recorded at the response. -/
def answerAfter (events : List RtspEvent) (req : RtspRequest) (o : RequestOutcome) :
    Option (Bool × Option ℕ × Bool) :=
  ((sessionBoot sampleRx).st.process serverEvents events).bind fun s =>
    (((rtspProgram (.request req o) s.statics).trace s).find? fun x =>
      (responseStatus x.1).isSome).map fun x =>
        (decide (RecordDecided s.statics o.start), responseStatus x.1,
          decide (Recording x.2.statics))

/-- The answer is given in some run. -/
theorem exists_of_answerAfter {events : List RtspEvent} {req : RtspRequest} {o : RequestOutcome}
    {decided recording : Bool} {status : ℕ}
    (h : answerAfter events req o = some (decided, some status, recording)) :
    ∃ (c : SessionConfig) (k : Option RtspDone) (c₁ c₂ : SessionConfig) (cseq : ℤ),
      (sessionSystem serverEvents).Reachable (sessionBoot sampleRx) c ∧ c.th .rtsp = .ret k ∧
      ((sessionSystem serverEvents).within .rtsp).Reachable
        ⟨c.st, Function.update c.th .rtsp (rtspProgram (.request req o) c.st.statics)⟩ c₁ ∧
      (sessionSystem serverEvents).Step c₁ .rtsp (some (.respond status cseq)) c₂ ∧
      decide (RecordDecided c.st.statics o.start) = decided ∧
      decide (Recording c₁.st.statics) = recording := by
  obtain ⟨s, hs, hanswer⟩ := Option.bind_eq_some_iff.mp h
  obtain ⟨⟨l, s₁⟩, hfind, heq⟩ := Option.map_eq_some_iff.mp hanswer
  obtain ⟨hdecided, hstatus, hrecording⟩ : _ ∧ _ ∧ _ := by simpa only [Prod.mk.injEq] using heq
  obtain ⟨c, k, hreach, hth, rfl⟩ := reachable_boot_process hs
  have hlabel : ∃ cseq, l = .respond status cseq := by
    cases l <;> cases hstatus
    exact ⟨_, rfl⟩
  obtain ⟨cseq, rfl⟩ := hlabel
  obtain ⟨c₁, c₂, hwithin, rfl, hstep⟩ :=
    System.Reachable.trace (S := (sessionSystem serverEvents).within .rtsp) (t := .rtsp) .start
      (List.mem_of_find?_eq_some hfind)
  exact ⟨c, k, c₁, c₂, cseq, hreach, hth, hwithin, hstep.of_within, hdecided, hrecording⟩

/-- The sample sender is answered 200 and recorded. -/
theorem record_truthful_iff_sample : ∃ c₁ : SessionConfig,
    Recording c₁.st.statics ∧ Truthful 200 c₁.st.statics := by
  have hanswer : answerAfter [.accept, sampleAnnounce, sampleRequest "SETUP" "" 3] sampleRecord
      recordSucceeds = some (true, some 200, true) := by decide +kernel
  obtain ⟨c, k, c₁, c₂, cseq, hreach, hth, hwithin, hstep, hdecided, hrecording⟩ :=
    exists_of_answerAfter hanswer
  exact ⟨c₁, of_decide_eq_true hrecording,
    (record_truthful_iff hreach hth (by decide) recordSucceeds hwithin hstep).mpr
      (of_decide_eq_true hdecided)⟩

/-- **A RECORD without a SETUP**: `raop_rtp_start` finds no bound socket and fails, and the answer is
200. -/
theorem record_lies_without_setup :
    ∃ (c : SessionConfig) (k : Option RtspDone) (c₁ c₂ : SessionConfig) (cseq : ℤ),
      (sessionSystem serverEvents).Reachable (sessionBoot sampleRx) c ∧ c.th .rtsp = .ret k ∧
      ((sessionSystem serverEvents).within .rtsp).Reachable
        ⟨c.st, Function.update c.th .rtsp
          (rtspProgram (.request sampleRecord recordSucceeds) c.st.statics)⟩ c₁ ∧
      (sessionSystem serverEvents).Step c₁ .rtsp (some (.respond 200 cseq)) c₂ ∧
      ¬Recording c₁.st.statics := by
  have hanswer : answerAfter [.accept, sampleAnnounce] sampleRecord recordSucceeds
      = some (false, some 200, false) := by decide +kernel
  obtain ⟨c, k, c₁, c₂, cseq, hreach, hth, hwithin, hstep, -, hrecording⟩ :=
    exists_of_answerAfter hanswer
  exact ⟨c, k, c₁, c₂, cseq, hreach, hth, hwithin, hstep, of_decide_eq_false hrecording⟩

end ConduitStream
