import ConduitStream.Session.DispatchEnds
import ConduitStream.Session.Lifecycle
import ConduitStream.Session.ResponseText

/-! # The responses to requests (`send_response` and the handlers of `raop.c`)

Here `dispatch` is written with the texts it sends: a program of the RTSP task that also keeps the
list of what its calls of `send_response` have come to.

* Without this list it is the `dispatch` of the session, and on every path it sends one response,
  whole (`dispatch_answersOnce`);
* it comes to the end of one (`dispatch_finishes`), as what it waits for happens: a producer task that
  has been asked to end leaves its loop.

`dispatch_answers_once` puts this together. -/

namespace ConduitStream

/-! ## Sending -/

/-- What a call of `send_response` comes to. -/
inductive Sent
  /-- `send(fd, out, n, 0)`. -/
  | response (text : Bytes)
  /-- `"response build overflow"`. -/
  | overflow
  /-- An access outside an array. -/
  | fault
  deriving DecidableEq

/-- A program of the RTSP task, with what it has sent. -/
abbrev Answering (α : Type) : Type := StateT (List Sent) (Prog SessionState SessionStep) α

namespace Answering

/-- `send_response`. -/
def sendResponse (o : AnswerOutcome) (status : ℕ) (reason : Bytes) (cseq : ℤ)
    (extra : Option ExtraHeaders) : Answering Unit := fun sent => do
  ConduitStream.sendResponse status cseq
  match rtspBuildResponse (responseArgs status reason cseq extra) (o.stack 1024) with
  | none => return ((), sent ++ [.fault])
  | some (out, n) =>
      if 0 < n then return ((), sent ++ [.response (out.bytes.take n.toNat)])
      else return ((), sent ++ [.overflow])

/-- An access outside an array. -/
def fault : Answering Unit := fun sent => return ((), sent ++ [.fault])

/-! ## The handlers -/

/-- `handle_options`. -/
def handleOptions (o : AnswerOutcome) (req : RtspRequest) (cseq : ℤ) : Answering Unit :=
  match optionsExtra o req with
  | none => fault
  | some extra => sendResponse o 200 (ascii "OK") cseq (some (extra.extra le_rfl))

/-- `handle_announce`. -/
def handleAnnounce (o : AnswerOutcome) (req : RtspRequest) (cseq : ℤ) : Answering Unit := do
  let accepted ← StateT.lift <| .atom .access
    (·.onStatics (·.onSession fun r => (ConduitStream.handleAnnounce o.psaDecrypt r req.body).1))
    (fun s => (ConduitStream.handleAnnounce o.psaDecrypt s.statics.session req.body).2)
  if accepted then sendResponse o 200 (ascii "OK") cseq none
  else sendResponse o 400 (ascii "Bad Request") cseq none

/-- `handle_setup` from the last assignment on; `port` are the ports of the session. -/
def answerSetup (o : AnswerOutcome) (cseq : ℤ) (port : UdpRole → BitVec 16) : Answering Unit :=
  match snprintfAt (o.stack 256) 0 256 (setupLines port) with
  | none => fault
  | some (extra, _) => sendResponse o 200 (ascii "OK") cseq (some (extra.extra (by decide)))

/-- `handle_setup`. -/
def handleSetup (o : AnswerOutcome) (req : RtspRequest) (cseq : ℤ) : Answering Unit := do
  match rtspHeaderGet req.headers (ascii "Transport") with
  | some t => StateT.lift (.modify .access (·.onStatics (·.onSession (transportPorts t))))
  | none => pure ()
  let r ← StateT.lift (raopSessionBindUdp o.binds)
  if r ≠ 0 then
    sendResponse o 500 (ascii "Internal Server Error") cseq none
    return ()
  let port ← StateT.lift <| .atom .access (·.onStatics (·.onSession ({ · with state := .setup })))
    (·.statics.session.port)
  answerSetup o cseq port

/-- The RECORD branch of `dispatch`. -/
def handleRecord (o : AnswerOutcome) (cseq : ℤ) : Answering Unit := do
  let extra : ExtraHeaders := ⟨audioLatencyLine, by decide⟩
  let s ← StateT.lift (.read .access (·.statics.session))
  if s.state = .recording then sendResponse o 200 (ascii "OK") cseq (some extra)
  else if s.haveKey = false ∨ s.fmtp = [] then sendResponse o 400 (ascii "Bad Request") cseq none
  else
    StateT.lift audioDiagToneStop
    match o.peername with
    | some ip => StateT.lift (.modify .access (·.onStatics (·.onSession ({ · with clientIp := ip }))))
    | none => pure ()
    let r ← StateT.lift (raopRtpStart o.start)
    if r = 0 then
      StateT.lift (.modify .access (·.onStatics (·.onSession ({ · with state := .recording }))))
    sendResponse o 200 (ascii "OK") cseq (some extra)

/-- `dispatch`. -/
def dispatch (o : AnswerOutcome) (req : RtspRequest) : Answering Bool := do
  let cseq := rtspCseq req.headers
  if strcmpEq req.method (ascii "OPTIONS") then
    handleOptions o req cseq
    return false
  else if strcmpEq req.method (ascii "ANNOUNCE") then
    handleAnnounce o req cseq
    return false
  else if strcmpEq req.method (ascii "SETUP") then
    handleSetup o req cseq
    return false
  else if strcmpEq req.method (ascii "RECORD") then
    handleRecord o cseq
    return false
  else if strcmpEq req.method (ascii "SET_PARAMETER") then
    -- `handle_set_parameter` acknowledges whatever comes
    sendResponse o 200 (ascii "OK") cseq none
    return false
  else if strcmpEq req.method (ascii "FLUSH") || strcmpEq req.method (ascii "PAUSE") ||
      strcmpEq req.method (ascii "GET_PARAMETER") then
    sendResponse o 200 (ascii "OK") cseq none
    return false
  else if strcmpEq req.method (ascii "TEARDOWN") then
    StateT.lift sessionTeardownFull
    sendResponse o 200 (ascii "OK") cseq none
    return true
  else
    sendResponse o 501 (ascii "Not Implemented") cseq none
    return false

end Answering

/-- **`send_response` sends a whole response**, if the extra headers leave room for the rest. -/
theorem sendResponse_run (o : AnswerOutcome) {status : ℕ} {reason : Bytes} {cseq : ℤ}
    {extra : Option ExtraHeaders} {text : Bytes} (hstatus : status < 10 ^ 3) (hreason : reason.length ≤ 21)
    (hcseq : cseq ≤ longMax) (hextra : extra.elim [] (fun e => cstr e.val) = text)
    (hlen : text.length ≤ 511) (sent : List Sent) :
    Answering.sendResponse o status reason cseq extra sent = (do
      sendResponse status cseq
      return ((), sent ++ [.response (responseText status reason (if cseq < 0 then 0 else cseq) text)])) := by
  obtain ⟨out, n, hrun, hpos, htake⟩ :=
    rtspBuildResponse_responseArgs hstatus hreason hcseq hextra hlen (o.stack 1024)
  unfold Answering.sendResponse
  rw [hrun]
  dsimp only
  rw [if_pos hpos, htake]

/-! ## One response -/

section Rules

variable {α β : Type} {good : Bytes → Prop} {x : Answering α} {p : SessionProg α}

/-- Without the responses, the program is `p`. -/
def Erases (x : Answering α) (p : SessionProg α) : Prop := ∀ sent, Prod.fst <$> x.run sent = p

/-- Without the answers, two programs in a row are the two programs. -/
theorem Erases.bind {f : α → Answering β} {g : α → SessionProg β} (hx : Erases x p)
    (hf : ∀ a, Erases (f a) (g a)) : Erases (x >>= f) (p >>= g) := by
  intro sent
  rw [StateT.run_bind, map_bind, ← hx sent, bind_map_left]
  exact congrArg _ (funext fun r => hf r.1 r.2)

/-- The program is `p`, and sends nothing. -/
structure Silent (x : Answering α) (p : SessionProg α) : Prop where
  erases : Erases x p
  keeps : ∀ sent, (x.run sent).Returns fun r => r.2 = sent

/-- The program is `p`, and sends one response on every path, a good one. -/
structure AnswersOnce (good : Bytes → Prop) (x : Answering α) (p : SessionProg α) : Prop where
  erases : Erases x p
  once : ∀ sent, (x.run sent).Returns fun r => ∃ text, r.2 = sent ++ [.response text] ∧ good text

/-- A program that returns answers nothing. -/
theorem silent_pure (a : α) : Silent (pure a) (pure a) := ⟨fun _ => rfl, fun _ => rfl⟩

/-- The programs of the session send nothing on their own. -/
theorem silent_lift (p : SessionProg α) : Silent (StateT.lift p) p where
  erases sent := by
    show Prod.fst <$> (p >>= fun a => pure (a, sent)) = p
    rw [map_bind]
    exact bind_pure p
  keeps _ := Prog.returns_bind p.returns_trivial fun _ _ => Prog.returns_pure rfl

/-- What is done before a response. -/
theorem Silent.bind {f : α → Answering β} {g : α → SessionProg β} (hx : Silent x p)
    (hf : ∀ a, AnswersOnce good (f a) (g a)) : AnswersOnce good (x >>= f) (p >>= g) where
  erases := hx.erases.bind fun a => (hf a).erases
  once sent := by
    refine Prog.returns_bind (hx.keeps sent) fun ⟨a, sent'⟩ hsent => ?_
    obtain rfl : sent' = sent := hsent
    exact (hf a).once sent'

/-- A program that answers once, with a silent one behind it, answers once. -/
theorem AnswersOnce.bind {f : α → Answering β} {g : α → SessionProg β} (hx : AnswersOnce good x p)
    (hf : ∀ a, Silent (f a) (g a)) : AnswersOnce good (x >>= f) (p >>= g) where
  erases := hx.erases.bind fun a => (hf a).erases
  once sent := by
    refine Prog.returns_bind (hx.once sent) fun ⟨a, sent'⟩ ⟨text, hsent, hgood⟩ => ?_
    obtain rfl : sent' = sent ++ [.response text] := hsent
    exact ((hf a).keeps _).mono fun r hr => ⟨text, hr, hgood⟩

/-- A branch answers once if each of its programs does. -/
theorem answersOnce_ite {c : Prop} [Decidable c] {y : Answering α} {q : SessionProg α}
    (hx : c → AnswersOnce good x p) (hy : ¬c → AnswersOnce good y q) :
    AnswersOnce good (if c then x else y) (if c then p else q) := by
  split
  · next h => exact hx h
  · next h => exact hy h

end Rules

/-- `send_response` sends one response, with the status it is given. -/
theorem answersOnce_sendResponse (o : AnswerOutcome) {status : ℕ} {reason : Bytes} {cseq : ℤ}
    {extra : Option ExtraHeaders} {text : Bytes} {good : Bytes → Prop} (hstatus : status < 10 ^ 3)
    (hreason : reason.length ≤ 21) (hcseq : cseq ≤ longMax)
    (hextra : extra.elim [] (fun e => cstr e.val) = text) (hlen : text.length ≤ 511)
    (hgood : good (responseText status reason (if cseq < 0 then 0 else cseq) text)) :
    AnswersOnce good (Answering.sendResponse o status reason cseq extra) (sendResponse status cseq) where
  erases sent := by
    have hrun := sendResponse_run o hstatus hreason hcseq hextra hlen sent
    rw [StateT.run, hrun, map_bind]
    exact bind_pure _
  once sent := by
    rw [StateT.run, sendResponse_run o hstatus hreason hcseq hextra hlen sent]
    exact Prog.returns_bind (Prog.returns_trivial _) fun _ _ => Prog.returns_pure ⟨_, rfl, hgood⟩

/-! ## The handlers -/

/-- The extra headers a request may be answered with. -/
def ExtraOf (o : AnswerOutcome) (req : RtspRequest) (extra : Bytes) : Prop :=
  if strcmpEq req.method (ascii "OPTIONS") then extra = optionsText o req
  else extra = [] ∨ extra = audioLatencyLine ∨ ∃ port, extra = setupLines port

/-- The statuses of `dispatch` and its handlers. -/
def responseStatuses : List (ℕ × Bytes) :=
  [(200, ascii "OK"), (400, ascii "Bad Request"), (500, ascii "Internal Server Error"),
    (501, ascii "Not Implemented")]

/-- A response to a request: it carries the CSeq of the request, 0 if there is none. -/
def AnswerTo (o : AnswerOutcome) (req : RtspRequest) (text : Bytes) : Prop :=
  ∃ status reason extra, (status, reason) ∈ responseStatuses ∧ ExtraOf o req extra ∧
    text = responseText status reason
      (if rtspCseq req.headers = -1 then 0 else rtspCseq req.headers) extra

section Handlers

variable {o : AnswerOutcome} {req : RtspRequest}

/-- A response of a handler is one to the request. -/
theorem answersOnce_to {status : ℕ} {reason : Bytes} {extra : Option ExtraHeaders} {text : Bytes}
    (hstatus : (status, reason) ∈ responseStatuses)
    (hextra : extra.elim [] (fun e => cstr e.val) = text) (hlen : text.length ≤ 511)
    (hof : ExtraOf o req text) :
    AnswersOnce (AnswerTo o req) (Answering.sendResponse o status reason (rtspCseq req.headers) extra)
      (sendResponse status (rtspCseq req.headers)) := by
  have hsmall : ∀ r ∈ responseStatuses, r.1 < 10 ^ 3 ∧ r.2.length ≤ 21 := by decide
  obtain ⟨hlow, hhigh⟩ := rtspHeaderLong_bounds req.headers (ascii "CSeq")
  refine answersOnce_sendResponse o (hsmall _ hstatus).1 (hsmall _ hstatus).2 hhigh hextra hlen
    ⟨status, reason, text, hstatus, hof, ?_⟩
  have hcseq : (if rtspCseq req.headers < 0 then 0 else rtspCseq req.headers)
      = if rtspCseq req.headers = -1 then 0 else rtspCseq req.headers := by
    unfold rtspCseq
    split <;> split <;> omega
  rw [hcseq]

/-- OPTIONS is answered once, with 200 and the list of methods. -/
theorem handleOptions_answersOnce (hreq : strcmpEq req.method (ascii "OPTIONS") = true) :
    AnswersOnce (AnswerTo o req) (Answering.handleOptions o req (rtspCseq req.headers))
      (sendResponse 200 (rtspCseq req.headers)) := by
  obtain ⟨extra, hrun, hstr, hlen⟩ := optionsExtra_eq o req
  unfold Answering.handleOptions
  rw [hrun]
  exact answersOnce_to (by decide) hstr hlen (by rw [ExtraOf, if_pos hreq])

variable (hreq : ¬strcmpEq req.method (ascii "OPTIONS") = true)
include hreq

/-- A response without extra headers is one response. -/
theorem answersOnce_plain {status : ℕ} {reason : Bytes}
    (hstatus : (status, reason) ∈ responseStatuses) :
    AnswersOnce (AnswerTo o req) (Answering.sendResponse o status reason (rtspCseq req.headers) none)
      (sendResponse status (rtspCseq req.headers)) :=
  answersOnce_to hstatus rfl (Nat.zero_le _) (by rw [ExtraOf, if_neg hreq]; exact .inl rfl)

/-- ANNOUNCE is answered once, with 200 or 400. -/
theorem handleAnnounce_answersOnce :
    AnswersOnce (AnswerTo o req) (Answering.handleAnnounce o req (rtspCseq req.headers))
      (handleAnnounceRequest o.psaDecrypt req (rtspCseq req.headers)) := by
  refine (silent_lift _).bind fun accepted => ?_
  exact answersOnce_ite (fun _ => answersOnce_plain hreq (by decide))
    fun _ => answersOnce_plain hreq (by decide)

/-- The answer of SETUP is one response, with the ports bound. -/
theorem answerSetup_answersOnce (port : UdpRole → BitVec 16) :
    AnswersOnce (AnswerTo o req) (Answering.answerSetup o (rtspCseq req.headers) port)
      (sendResponse 200 (rtspCseq req.headers)) := by
  obtain ⟨extra, hrun, hstr, hlen⟩ := setupLines_fit port (o.stack 256)
  unfold Answering.answerSetup
  rw [hrun]
  refine answersOnce_to (by decide) hstr (by omega) ?_
  rw [ExtraOf, if_neg hreq]
  exact .inr (.inr ⟨port, rfl⟩)

/-- SETUP is answered once, whatever the sockets do. -/
theorem handleSetup_answersOnce :
    AnswersOnce (AnswerTo o req) (Answering.handleSetup o req (rtspCseq req.headers))
      (handleSetup o.binds req (rtspCseq req.headers)) := by
  -- the ports are read in the step that sets the state
  have hstate : AnswersOnce (AnswerTo o req)
      (do
        let port ← StateT.lift <|
          .atom .access (·.onStatics (·.onSession ({ · with state := .setup })))
            (·.statics.session.port)
        Answering.answerSetup o (rtspCseq req.headers) port)
      (do
        .modify .access (·.onStatics (·.onSession ({ · with state := .setup })))
        sendResponse 200 (rtspCseq req.headers)) :=
    (silent_lift (.atom .access _ _)).bind fun port => answerSetup_answersOnce hreq port
  have hbind : AnswersOnce (AnswerTo o req)
      (do
        let r ← StateT.lift (raopSessionBindUdp o.binds)
        if r ≠ 0 then
          Answering.sendResponse o 500 (ascii "Internal Server Error") (rtspCseq req.headers) none
          return ()
        let port ← StateT.lift <|
          .atom .access (·.onStatics (·.onSession ({ · with state := .setup })))
            (·.statics.session.port)
        Answering.answerSetup o (rtspCseq req.headers) port)
      (do
        let r ← raopSessionBindUdp o.binds
        if r ≠ 0 then
          sendResponse 500 (rtspCseq req.headers)
          return ()
        .modify .access (·.onStatics (·.onSession ({ · with state := .setup })))
        sendResponse 200 (rtspCseq req.headers)) := by
    refine (silent_lift _).bind fun r => answersOnce_ite (fun _ => ?_) fun _ => hstate
    exact (answersOnce_plain hreq (by decide)).bind fun _ => silent_pure ()
  unfold Answering.handleSetup handleSetup
  cases rtspHeaderGet req.headers (ascii "Transport") with
  | some t => exact (silent_lift _).bind fun _ => hbind
  | none => exact hbind

/-- RECORD is answered once, however far it comes. -/
theorem handleRecord_answersOnce :
    AnswersOnce (AnswerTo o req) (Answering.handleRecord o (rtspCseq req.headers))
      (handleRecord o.toRequestOutcome (rtspCseq req.headers)) := by
  have hlatency : AnswersOnce (AnswerTo o req)
      (Answering.sendResponse o 200 (ascii "OK") (rtspCseq req.headers)
        (some ⟨audioLatencyLine, by decide⟩))
      (sendResponse 200 (rtspCseq req.headers)) :=
    answersOnce_to (by decide) rfl (by decide)
      (by rw [ExtraOf, if_neg hreq]; exact .inr (.inl (by decide)))
  -- from `raop_rtp_start` on
  have hstart : AnswersOnce (AnswerTo o req)
      (do
        let r ← StateT.lift (raopRtpStart o.start)
        if r = 0 then
          StateT.lift (.modify .access (·.onStatics (·.onSession ({ · with state := .recording }))))
        Answering.sendResponse o 200 (ascii "OK") (rtspCseq req.headers)
          (some ⟨audioLatencyLine, by decide⟩))
      (do
        let r ← raopRtpStart o.start
        if r = 0 then
          .modify .access (·.onStatics (·.onSession ({ · with state := .recording })))
        sendResponse 200 (rtspCseq req.headers)) := by
    refine (silent_lift _).bind fun r => ?_
    by_cases hr : r = 0
    · rw [if_pos hr, if_pos hr]
      exact (silent_lift _).bind fun _ => hlatency
    · rw [if_neg hr, if_neg hr]
      exact hlatency
  refine (silent_lift _).bind fun s => ?_
  refine answersOnce_ite (fun _ => hlatency) fun _ => ?_
  refine answersOnce_ite (fun _ => answersOnce_plain hreq (by decide)) fun _ => ?_
  refine (silent_lift _).bind fun _ => ?_
  cases o.peername with
  | some ip => exact (silent_lift _).bind fun _ => hstart
  | none => exact hstart

end Handlers

/-- An OPTIONS is none of the requests that change the session. -/
theorem dispatch_options {o : RequestOutcome} {req : RtspRequest}
    (hreq : strcmpEq req.method (ascii "OPTIONS") = true) :
    dispatch o req = (do
      sendResponse 200 (rtspCseq req.headers)
      return false) := by
  have hother : ∀ t, cstr (ascii "OPTIONS") ≠ cstr t → ¬strcmpEq req.method t = true := by
    intro t ht
    rw [SessionModel.not_strcmpEq_of_strcmpEq hreq ht]
    exact Bool.false_ne_true
  have hack : acknowledgedMethods.any (strcmpEq req.method) = true :=
    List.any_eq_true.mpr ⟨_, List.mem_cons_self, hreq⟩
  unfold dispatch
  dsimp only
  rw [if_neg (hother _ (by decide)), if_neg (hother _ (by decide)), if_neg (hother _ (by decide)),
    if_pos hack]

/-- **`dispatch` sends one response on every path**, a whole one, and does otherwise what the session
knows. -/
theorem dispatch_answersOnce (o : AnswerOutcome) (req : RtspRequest) :
    AnswersOnce (AnswerTo o req) (Answering.dispatch o req) (dispatch o.toRequestOutcome req) := by
  -- the response, and the result of `dispatch`
  have hreturn : ∀ {b : Bool} {x : Answering Unit} {p : SessionProg Unit},
      AnswersOnce (AnswerTo o req) x p →
      AnswersOnce (AnswerTo o req) (do x; return b) (do p; return b) :=
    fun h => h.bind fun _ => silent_pure _
  unfold Answering.dispatch
  dsimp only
  by_cases hopt : strcmpEq req.method (ascii "OPTIONS") = true
  · rw [if_pos hopt, dispatch_options hopt]
    exact hreturn (handleOptions_answersOnce hopt)
  have hplain := @answersOnce_plain o req hopt
  have hany : acknowledgedMethods.any (strcmpEq req.method) =
      (strcmpEq req.method (ascii "OPTIONS") || (strcmpEq req.method (ascii "SET_PARAMETER") ||
        (strcmpEq req.method (ascii "FLUSH") || (strcmpEq req.method (ascii "PAUSE") ||
          (strcmpEq req.method (ascii "GET_PARAMETER") || false))))) := rfl
  rw [if_neg hopt]
  unfold dispatch
  dsimp only
  refine answersOnce_ite (fun _ => hreturn (handleAnnounce_answersOnce hopt)) fun _ => ?_
  refine answersOnce_ite (fun _ => hreturn (handleSetup_answersOnce hopt)) fun _ => ?_
  refine answersOnce_ite (fun _ => hreturn (handleRecord_answersOnce hopt)) fun _ => ?_
  by_cases hset : strcmpEq req.method (ascii "SET_PARAMETER") = true
  · rw [if_pos hset, if_pos (by simp [hany, hset])]
    exact hreturn (hplain (by decide))
  by_cases hflush : (strcmpEq req.method (ascii "FLUSH") || strcmpEq req.method (ascii "PAUSE") ||
      strcmpEq req.method (ascii "GET_PARAMETER")) = true
  · have hack : acknowledgedMethods.any (strcmpEq req.method) = true := by
      rw [Bool.or_eq_true, Bool.or_eq_true] at hflush
      rcases hflush with (h | h) | h <;> simp [hany, h]
    rw [if_neg hset, if_pos hflush, if_pos hack]
    exact hreturn (hplain (by decide))
  have hack : ¬acknowledgedMethods.any (strcmpEq req.method) = true := by
    rw [Bool.or_eq_true, Bool.or_eq_true, not_or, not_or] at hflush
    simp [hany, hopt, hset, hflush]
  rw [if_neg hset, if_neg hflush, if_neg hack]
  refine answersOnce_ite (fun _ => ?_) fun _ => hreturn (hplain (by decide))
  exact (silent_lift _).bind fun _ => hreturn (hplain (by decide))

/-! ## The result -/

/-- **Every request that is dispatched is answered exactly once.** Whatever the state of the session
and the outcome of everything outside, on every path through `dispatch` one call of `send_response`
sends one whole response with the CSeq of the request, and the answer to a challenge stands in it in
full or not at all. In whatever state of the three tasks, `dispatch` comes to this response: the only
thing it waits for is that a producer task it has asked to end does so. -/
theorem dispatch_answers_once (o : AnswerOutcome) (req : RtspRequest) :
    (∀ sent, Prod.fst <$> (Answering.dispatch o req).run sent = dispatch o.toRequestOutcome req) ∧
      ((Answering.dispatch o req).run []).Returns
        (fun r => ∃ text, r.2 = [.response text] ∧ AnswerTo o req text) ∧
      ∀ (meets : EventCondition) (rx : RtpRx) (c : SessionConfig),
        (sessionSystem meets).Reachable (sessionBoot rx) c → FreshBinds o.binds c.st.statics.udp →
        ∃ closeConn text s', AnswerTo o req text ∧
          Prog.Finishes ProducerEnds ((Answering.dispatch o req).run []) c.st
            (closeConn, [.response text]) s' := by
  obtain ⟨herases, honce⟩ := dispatch_answersOnce o req
  refine ⟨herases, honce [], fun meets rx c hreach hfresh => ?_⟩
  have hinv : StaticsInv c.st.statics := (session_holds hreach).1
  obtain ⟨closeConn, s', hend⟩ := dispatch_finishes (o := o.toRequestOutcome) req hinv hfresh
  rw [← herases []] at hend
  obtain ⟨⟨b, sent⟩, hrun, -⟩ := hend.of_map
  obtain ⟨text, hsent, hanswer⟩ := (honce []).of_finishes hrun
  obtain rfl : sent = [.response text] := hsent
  exact ⟨b, text, s', hanswer, hrun⟩

/-- An outside in which nothing fails and the signature is made of 256 bytes. -/
def sampleAnswerOutcome : AnswerOutcome where
  psaDecrypt _ := some (List.replicate 16 7)
  binds
    | .audio => .bound 3 6000
    | .control => .bound 4 6001
    | .timing => .bound 5 6002
  peername := some 0
  start := ⟨true, true, some fun _ => ⟨false, 0, 0, []⟩, true⟩
  sockname := some (.zero 4)
  mac := .zero 6
  psaSign _ := some ⟨List.replicate 256 255, List.length_replicate.le⟩
  stack n := .zero n

/-- An OPTIONS request with a challenge of 16 bytes. -/
def sampleChallenge : RtspRequest where
  method := ascii "OPTIONS"
  uri := ascii "*"
  version := ascii "RTSP/1.0"
  headers := [⟨ascii "CSeq", ascii "5"⟩, ⟨ascii "Apple-Challenge", ascii "AAAAAAAAAAAAAAAAAAAAAA=="⟩]
  body := []
  totalLen := 77

/-- A challenge is answered right after the start. -/
theorem dispatch_answers_once_challenge : ∃ closeConn text s',
    AnswerTo sampleAnswerOutcome sampleChallenge text ∧
      Prog.Finishes ProducerEnds
        ((Answering.dispatch sampleAnswerOutcome sampleChallenge).run []) (sessionBoot sampleRx).st
        (closeConn, [.response text]) s' :=
  (dispatch_answers_once sampleAnswerOutcome sampleChallenge).2.2 anyEvent sampleRx _ .start
    ⟨_, _, _, rfl, rfl, rfl⟩

end ConduitStream
