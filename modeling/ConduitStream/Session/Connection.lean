import ConduitStream.Rtsp.RequestText
import ConduitStream.Rtsp.Segmentation
import ConduitStream.Session.Answers

/-! # A connection (`server_task` in `raop.c`)

The receive loop of `Rtsp` knows which requests are dispatched, and the session knows what comes of
one. Here `server_task` serves its client with the texts of the responses: `serve` appends what arrives
to the buffer, dispatches every complete request in it, and goes through the oversize branch.

* `connection_answers`: whatever the client sends, the program takes the way of the receive loop, does
  what the events of the session do, and answers every request once, in order;
* `connection_answers_stream`: for requests that fit the buffer, however they are cut into chunks, these
  are the events and the responses of the requests as written. -/

namespace ConduitStream

/-! ## The loop -/

/-- `client_fd = -1` if `close_conn` is set. -/
def closeClient (closeConn : Bool) : SessionProg Unit :=
  if closeConn then setClient false else pure ()

namespace Answering

section Serve

/-! `o i` is the outside of the response that follows `i` others. -/

variable (o : ℕ → AnswerOutcome)

/-- `dispatch` in the loop. -/
def dispatchNext (req : RtspRequest) : Answering Bool := fun sent => dispatch (o sent.length) req sent

/-- `send_response` in the loop. -/
def respondNext (status : ℕ) (reason : Bytes) (cseq : ℤ) : Answering Unit :=
  fun sent => sendResponse (o sent.length) status reason cseq none sent

/-- The loop over the complete requests in the buffer: what is left in it, and `close_conn`. -/
def dispatchRequests (rx : Bytes) : Answering (Bytes × Bool) :=
  match _h : rtspParseRequest rx with
  | none => return (rx, false)
  | some req => do
      let closeConn ← dispatchNext o req
      let consumed :=
        if req.totalLen = 0 ∨ rx.length < req.totalLen then rx.length else req.totalLen
      if closeConn then return (rx.drop consumed, true)
      else dispatchRequests (rx.drop consumed)
termination_by rx.length
decreasing_by
  all_goals
    have := rtspParseRequest_bounds _h
    rw [List.length_drop]
    split_ifs <;> omega

/-- `close(client_fd)`, and the session with it. -/
def disconnect : Answering Unit := do
  StateT.lift (setClient false)
  StateT.lift sessionTeardownFull

/-- One iteration of the loop as far as the client goes. -/
def receive (c : RtspConn) : Answering RtspConn :=
  if c.isOpen = false ∨ c.socket = [] then return c
  else if raopRxCap ≤ c.rx.length then
    match findTerm c.rx with
    | some term => do
        let hlen := term + 4
        let clen := hdrScanLong c.rx hlen (ascii "Content-Length")
        let cseq := hdrScanLong c.rx hlen (ascii "CSeq")
        let toDrain : ℤ := if 0 < clen then clen - (c.rx.length - hlen : ℕ) else 0
        respondNext o 200 (ascii "OK") (if cseq < 0 then 0 else cseq)
        return { c with rx := [], socket := drainBody toDrain.toNat c.socket }
    | none => do
        respondNext o 400 (ascii "Bad Request") 0
        disconnect
        return { c with isOpen := false }
  else
    let r := recv (raopRxCap - c.rx.length) c.socket
    if r.1 = [] then do
      disconnect
      return { c with isOpen := false, socket := r.2 }
    else do
      let (rx, closeConn) ← dispatchRequests o (c.rx ++ r.1)
      -- the handler of TEARDOWN has reset the session
      StateT.lift (closeClient closeConn)
      return { isOpen := !closeConn, rx := rx, socket := r.2 }

/-- `n` iterations. -/
def serve (c : RtspConn) : ℕ → Answering RtspConn
  | 0 => return c
  | n + 1 => do
      let c ← serve c n
      receive o c

end Serve

end Answering

/-! ## What it comes to -/

/-- What the loop does is what these events of the session do. -/
inductive EventsOf (o : ℕ → AnswerOutcome) : ℕ → List ServerAction → List RtspEvent → Prop
  | nil {i : ℕ} : EventsOf o i [] []
  | request {i used consumed : ℕ} {req : RtspRequest} {acts : List ServerAction}
      {es : List RtspEvent} : EventsOf o (i + 1) acts es →
      EventsOf o i (.dispatch req used consumed :: acts) (.request req (o i).toRequestOutcome :: es)
  | oversize {i : ℕ} {cseq : ℤ} {acts : List ServerAction} {es : List RtspEvent} :
      EventsOf o (i + 1) acts es →
      EventsOf o i (.oversize :: .respond 200 cseq :: acts) (.oversize cseq :: es)
  | drop {i : ℕ} {acts : List ServerAction} {es : List RtspEvent} : EventsOf o (i + 1) acts es →
      EventsOf o i (.oversize :: .respond 400 0 :: .disconnect :: acts) (.drop :: es)
  | disconnect {i : ℕ} {acts : List ServerAction} {es : List RtspEvent} : EventsOf o i acts es →
      EventsOf o i (.disconnect :: acts) (.disconnect :: es)

/-- These texts are the responses to what the loop does: one to each request, one for each response of
the loop itself, in this order. -/
inductive Answered (o : ℕ → AnswerOutcome) : ℕ → List ServerAction → List Bytes → Prop
  | nil {i : ℕ} : Answered o i [] []
  | dispatch {i used consumed : ℕ} {req : RtspRequest} {acts : List ServerAction} {text : Bytes}
      {texts : List Bytes} : AnswerTo (o i) req text → Answered o (i + 1) acts texts →
      Answered o i (.dispatch req used consumed :: acts) (text :: texts)
  | respond {i status : ℕ} {reason : Bytes} {cseq : ℤ} {acts : List ServerAction}
      {texts : List Bytes} : (status, reason) ∈ responseStatuses → Answered o (i + 1) acts texts →
      Answered o i (.respond status cseq :: acts) (responseText status reason cseq [] :: texts)
  | oversize {i : ℕ} {acts : List ServerAction} {texts : List Bytes} : Answered o i acts texts →
      Answered o i (.oversize :: acts) texts
  | disconnect {i : ℕ} {acts : List ServerAction} {texts : List Bytes} : Answered o i acts texts →
      Answered o i (.disconnect :: acts) texts

/-- Something is sent. -/
def ServerAction.answered : ServerAction → Bool
  | .dispatch .. | .respond .. => true
  | .oversize | .disconnect => false

section

variable (req : RtspRequest) (used consumed status : ℕ) (cseq : ℤ)

/-- A request that is dispatched is answered. -/
@[simp] theorem ServerAction.answered_dispatch :
    (ServerAction.dispatch req used consumed).answered = true := rfl

/-- A refusal of the receive loop is an answer itself. -/
@[simp] theorem ServerAction.answered_respond : (ServerAction.respond status cseq).answered = true := rfl

/-- A drain answers nothing of its own. -/
@[simp] theorem ServerAction.answered_oversize : ServerAction.oversize.answered = false := rfl

/-- A disconnection is not answered, either. -/
@[simp] theorem ServerAction.answered_disconnect : ServerAction.disconnect.answered = false := rfl

end

/-- The programs of some events, one after the other. -/
def runEvents : List RtspEvent → SessionProg Unit
  | [] => pure ()
  | e :: es => do
      let _ ← e.program
      runEvents es

section Append

variable {o : ℕ → AnswerOutcome} {i j : ℕ} {acts acts' : List ServerAction} {es es' : List RtspEvent}
  {texts texts' : List Bytes}

/-- There are as many answers as actions with one. -/
theorem Answered.length_eq (h : Answered o i acts texts) :
    texts.length = acts.countP ServerAction.answered := by
  induction h with
  | nil => rfl
  | dispatch _ _ ih => simp [List.countP_cons, ih]
  | respond _ _ ih => simp [List.countP_cons, ih]
  | oversize _ ih => simp [ih]
  | disconnect _ ih => simp [ih]

/-- The answers of two stretches of actions. -/
theorem Answered.append (h : Answered o i acts texts) (h' : Answered o j acts' texts')
    (hj : j = i + acts.countP ServerAction.answered) :
    Answered o i (acts ++ acts') (texts ++ texts') := by
  induction h with
  | nil =>
      obtain rfl : j = _ := hj
      exact h'
  | dispatch hanswer _ ih =>
      rw [List.countP_cons_of_pos (by simp)] at hj
      exact .dispatch hanswer (ih (by omega))
  | respond hstatus _ ih =>
      rw [List.countP_cons_of_pos (by simp)] at hj
      exact .respond hstatus (ih (by omega))
  | oversize _ ih =>
      rw [List.countP_cons_of_neg (by simp)] at hj
      exact .oversize (ih hj)
  | disconnect _ ih =>
      rw [List.countP_cons_of_neg (by simp)] at hj
      exact .disconnect (ih hj)

/-- The events of two stretches of actions. -/
theorem EventsOf.append (h : EventsOf o i acts es) (h' : EventsOf o j acts' es')
    (hj : j = i + acts.countP ServerAction.answered) :
    EventsOf o i (acts ++ acts') (es ++ es') := by
  induction h with
  | nil =>
      obtain rfl : j = _ := hj
      exact h'
  | request _ ih =>
      rw [List.countP_cons_of_pos (by simp)] at hj
      exact .request (ih (by omega))
  | oversize _ ih =>
      rw [List.countP_cons_of_neg (by simp), List.countP_cons_of_pos (by simp)] at hj
      exact .oversize (ih (by omega))
  | drop _ ih =>
      rw [List.countP_cons_of_neg (by simp), List.countP_cons_of_pos (by simp),
        List.countP_cons_of_neg (by simp)] at hj
      exact .drop (ih (by omega))
  | disconnect _ ih =>
      rw [List.countP_cons_of_neg (by simp)] at hj
      exact .disconnect (ih hj)

end Append

/-- Running two stretches of events is running one behind the other. -/
theorem runEvents_append (es es' : List RtspEvent) :
    runEvents (es ++ es') = (do runEvents es; runEvents es') := by
  induction es with
  | nil => rfl
  | cons e es ih =>
      show (do let _ ← e.program; runEvents (es ++ es')) = _
      rw [ih]
      exact (bind_assoc e.program (fun _ => runEvents es) fun _ => runEvents es').symm

/-! ## Rules -/

/-- From `i` responses on, the program does what the loop does in `acts` and the session in `es`, and
returns `a`. -/
structure ServesAs {α : Type} (o : ℕ → AnswerOutcome) (i : ℕ) (acts : List ServerAction)
    (es : List RtspEvent) (a : α) (x : Answering α) : Prop where
  events : EventsOf o i acts es
  erases : ∀ sent, sent.length = i → (fun _ => ()) <$> x.run sent = runEvents es
  sends : ∀ sent, sent.length = i → (x.run sent).Returns fun r =>
    r.1 = a ∧ ∃ texts, r.2 = sent ++ texts.map .response ∧ Answered o i acts texts

section Rules

variable {α β : Type} {o : ℕ → AnswerOutcome} {i j : ℕ} {acts acts' : List ServerAction}
  {es es' : List RtspEvent} {a : α} {b : β} {x : Answering α}

/-- A program that returns serves nothing. -/
theorem servesAs_pure (a : α) : ServesAs o i [] [] a (pure a) where
  events := .nil
  erases _ _ := rfl
  sends sent _ := Prog.returns_pure ⟨rfl, [], (List.append_nil sent).symm, .nil⟩

/-- Two programs in a row serve one stretch after the other. -/
theorem ServesAs.bind {f : α → Answering β} (hx : ServesAs o i acts es a x)
    (hf : ServesAs o j acts' es' b (f a)) (hj : j = i + acts.countP ServerAction.answered) :
    ServesAs o i (acts ++ acts') (es ++ es') b (x >>= f) where
  events := hx.events.append hf.events hj
  erases sent hsent := by
    have hrest : ∀ r : α × List Sent, (r.1 = a ∧ ∃ texts, r.2 = sent ++ texts.map .response ∧
        Answered o i acts texts) → (fun _ => ()) <$> (f r.1).run r.2 = runEvents es' := by
      rintro ⟨a', sent'⟩ ⟨rfl, texts, rfl, hanswered⟩
      refine hf.erases _ ?_
      rw [hj, List.length_append, List.length_map, hsent, hanswered.length_eq]
    rw [StateT.run_bind, map_bind, (hx.sends sent hsent).bind_congr hrest, runEvents_append,
      ← hx.erases sent hsent, bind_map_left]
  sends sent hsent := by
    refine Prog.returns_bind (hx.sends sent hsent) ?_
    rintro ⟨a', sent'⟩ ⟨rfl, texts, rfl, hanswered⟩
    have hlen : (sent ++ texts.map Sent.response).length = j := by
      rw [hj, List.length_append, List.length_map, hsent, hanswered.length_eq]
    refine (hf.sends _ hlen).mono ?_
    rintro ⟨b', sent'⟩ ⟨rfl, texts', rfl, hanswered'⟩
    exact ⟨rfl, texts ++ texts', by rw [List.map_append, List.append_assoc],
      hanswered.append hanswered' hj⟩

/-- A program with one response serves one action that is answered. -/
theorem AnswersOnce.servesAs {p : SessionProg α} {good : Bytes → Prop} (h : AnswersOnce good x p)
    (hvalue : p.Returns (· = a)) (hevents : EventsOf o i acts es)
    (herases : (fun _ => ()) <$> p = runEvents es)
    (hgood : ∀ text, good text → Answered o i acts [text]) : ServesAs o i acts es a x where
  events := hevents
  erases sent _ := by
    rw [← herases, ← h.erases sent, Functor.map_map]
  sends sent _ := by
    rw [← h.erases sent, Prog.returns_map] at hvalue
    refine (hvalue.and (h.once sent)).mono ?_
    rintro ⟨a', sent'⟩ ⟨rfl, text, rfl, htext⟩
    exact ⟨rfl, [text], rfl, hgood text htext⟩

/-- A program without a response serves actions that are not answered. -/
theorem Silent.servesAs {p : SessionProg α} (h : Silent x p) (hvalue : p.Returns (· = a))
    (hevents : EventsOf o i acts es) (herases : (fun _ => ()) <$> p = runEvents es)
    (hnone : Answered o i acts []) : ServesAs o i acts es a x where
  events := hevents
  erases sent _ := by
    rw [← herases, ← h.erases sent, Functor.map_map]
  sends sent _ := by
    rw [← h.erases sent, Prog.returns_map] at hvalue
    refine (hvalue.and (h.keeps sent)).mono ?_
    rintro ⟨a', sent'⟩ ⟨rfl, rfl⟩
    exact ⟨rfl, [], (List.append_nil _).symm, hnone⟩

/-- Two silent programs in a row are silent. -/
theorem Silent.andThen {p : SessionProg α} {f : α → Answering β} {g : α → SessionProg β}
    (hx : Silent x p) (hf : ∀ a, Silent (f a) (g a)) : Silent (x >>= f) (p >>= g) where
  erases := hx.erases.bind fun a => (hf a).erases
  keeps sent := by
    refine Prog.returns_bind (hx.keeps sent) ?_
    rintro ⟨a, sent'⟩ rfl
    exact (hf a).keeps sent'

/-- Only what `x` does after `i` responses matters. -/
theorem ServesAs.congr_run {y : Answering α} (h : ServesAs o i acts es a y)
    (hxy : ∀ sent, sent.length = i → x.run sent = y.run sent) : ServesAs o i acts es a x where
  events := h.events
  erases sent hsent := hxy sent hsent ▸ h.erases sent hsent
  sends sent hsent := hxy sent hsent ▸ h.sends sent hsent

/-- What comes next only matters for the value there is. -/
theorem answering_bind_congr (hx : ∀ sent, (x.run sent).Returns fun r => r.1 = a)
    {f g : α → Answering β} (hfg : f a = g a) : x >>= f = x >>= g := by
  funext sent
  refine (hx sent).bind_congr ?_
  rintro ⟨a', sent'⟩ rfl
  exact congrFun hfg sent'

end Rules

/-! ## Requests -/

/-- **`dispatch` returns whether the connection is to be closed.** -/
theorem dispatch_returns (o : RequestOutcome) (req : RtspRequest) :
    (dispatch o req).Returns (· = closesConnection req) := by
  -- another method is not TEARDOWN
  have hother : ∀ {t : Bytes}, strcmpEq req.method t = true → cstr t ≠ cstr (ascii "TEARDOWN") →
      ∀ p : SessionProg Unit, (do p; return false : SessionProg Bool).Returns (· = closesConnection req) := by
    intro t ht hne p
    refine Prog.returns_bind p.returns_trivial fun _ _ => Prog.returns_pure ?_
    exact (SessionModel.not_strcmpEq_of_strcmpEq ht hne).symm
  have hacknowledged : ∀ t ∈ acknowledgedMethods, cstr t ≠ cstr (ascii "TEARDOWN") := by decide
  unfold dispatch
  dsimp only
  split
  · next h => exact hother h (by decide) _
  split
  · next h => exact hother h (by decide) _
  split
  · next h => exact hother h (by decide) _
  split
  · next h =>
      obtain ⟨t, ht, hreq⟩ := List.any_eq_true.mp h
      exact hother hreq (hacknowledged t ht) _
  split
  · next h =>
      refine Prog.returns_bind (Prog.returns_trivial _) fun _ _ => ?_
      exact Prog.returns_bind (Prog.returns_trivial _) fun _ _ => Prog.returns_pure h.symm
  · next h =>
      refine Prog.returns_bind (Prog.returns_trivial _) fun _ _ => Prog.returns_pure ?_
      exact (Bool.not_eq_true _ ▸ h : _ = false).symm

/-- Serving a request says whether it closes the connection. -/
theorem dispatchNext_returns (o : ℕ → AnswerOutcome) (req : RtspRequest) (sent : List Sent) :
    ((Answering.dispatchNext o req).run sent).Returns fun r => r.1 = closesConnection req := by
  have herases := (dispatch_answersOnce (o sent.length) req).erases sent
  have hreturns := dispatch_returns (o sent.length).toRequestOutcome req
  rw [← herases, Prog.returns_map] at hreturns
  exact hreturns

/-- Serving a request is `dispatch` with the next outcome. -/
theorem dispatchNext_run (o : ℕ → AnswerOutcome) (req : RtspRequest) (sent : List Sent) :
    (Answering.dispatchNext o req).run sent = (Answering.dispatch (o sent.length) req).run sent := rfl

/-- **A request** is an event of the session, with its response. -/
theorem dispatchNext_servesAs (o : ℕ → AnswerOutcome) (i : ℕ) (req : RtspRequest) (used consumed : ℕ) :
    ServesAs o i [.dispatch req used consumed] [.request req (o i).toRequestOutcome] ()
      (do
        let closeConn ← Answering.dispatchNext o req
        StateT.lift (closeClient closeConn)) := by
  have honce : AnswersOnce (AnswerTo (o i) req)
      (do
        let closeConn ← Answering.dispatch (o i) req
        StateT.lift (closeClient closeConn))
      (do
        let closeConn ← dispatch (o i).toRequestOutcome req
        closeClient closeConn) :=
    (dispatch_answersOnce (o i) req).bind fun _ => silent_lift _
  have herases : (fun _ => ()) <$> (do
      let closeConn ← dispatch (o i).toRequestOutcome req
      closeClient closeConn) = runEvents [.request req (o i).toRequestOutcome] := by
    simp only [runEvents, RtspEvent.program, map_bind, bind_assoc]
    refine congrArg _ (funext fun closeConn => ?_)
    cases closeConn <;> rfl
  have hvalue := (Prog.returns_trivial (do
    let closeConn ← dispatch (o i).toRequestOutcome req
    closeClient closeConn)).mono fun (_ : Unit) _ => (rfl : _ = ())
  refine (honce.servesAs hvalue (.request .nil) herases
    fun text htext => .dispatch htext .nil).congr_run ?_
  rintro sent rfl
  rw [StateT.run_bind, StateT.run_bind, dispatchNext_run]

/-- A request, and what comes behind it. -/
theorem ServesAs.dispatch {β : Type} {o : ℕ → AnswerOutcome} {i used consumed : ℕ} {req : RtspRequest}
    {acts : List ServerAction} {es : List RtspEvent} {b : β} {f : Bool → Answering β} {g : Answering β}
    (hg : ServesAs o (i + 1) acts es b g)
    (hf : f (closesConnection req) = do
      StateT.lift (closeClient (closesConnection req))
      g) :
    ServesAs o i (.dispatch req used consumed :: acts) (.request req (o i).toRequestOutcome :: es) b
      (Answering.dispatchNext o req >>= f) := by
  have hsame : Answering.dispatchNext o req >>= f = (do
      let closeConn ← Answering.dispatchNext o req
      StateT.lift (closeClient closeConn)) >>= fun _ => g := by
    rw [bind_assoc]
    exact answering_bind_congr (dispatchNext_returns o req) hf
  rw [hsame]
  exact (dispatchNext_servesAs o i req used consumed).bind hg rfl

/-! ### The loop over the requests -/

section Requests

variable {o : ℕ → AnswerOutcome} {rx : Bytes} {req : RtspRequest}

/-- Without a whole request there is nothing to serve. -/
theorem Answering.dispatchRequests_none (hp : rtspParseRequest rx = none) :
    Answering.dispatchRequests o rx = return (rx, false) := by
  rw [Answering.dispatchRequests]
  split
  · rfl
  · next heq => rw [hp] at heq; cases heq

/-- A whole request is served, and the loop goes on behind it unless it closes the connection. -/
theorem Answering.dispatchRequests_some (hp : rtspParseRequest rx = some req) :
    Answering.dispatchRequests o rx = (do
      let closeConn ← Answering.dispatchNext o req
      if closeConn then return (rx.drop req.totalLen, true)
      else Answering.dispatchRequests o (rx.drop req.totalLen)) := by
  obtain ⟨hlo, hhi⟩ := rtspParseRequest_bounds hp
  have hconsumed : ¬(req.totalLen = 0 ∨ rx.length < req.totalLen) := by omega
  rw [Answering.dispatchRequests]
  split
  · next heq => rw [hp] at heq; cases heq
  · next heq =>
      rw [hp] at heq
      cases heq
      rw [if_neg hconsumed]

/-- Without a whole request there is nothing to dispatch. -/
theorem dispatchRequests_none (hp : rtspParseRequest rx = none) :
    dispatchRequests rx = ([], rx, false) := by
  rw [dispatchRequests]
  split
  · rfl
  · next heq => rw [hp] at heq; cases heq

/-- A whole request is dispatched, and the loop goes on behind it unless it closes the connection. -/
theorem dispatchRequests_some (hp : rtspParseRequest rx = some req) :
    dispatchRequests rx = if closesConnection req
      then ([.dispatch req rx.length req.totalLen], rx.drop req.totalLen, true)
      else (.dispatch req rx.length req.totalLen :: (dispatchRequests (rx.drop req.totalLen)).1,
        (dispatchRequests (rx.drop req.totalLen)).2) := by
  obtain ⟨hlo, hhi⟩ := rtspParseRequest_bounds hp
  have hconsumed : ¬(req.totalLen = 0 ∨ rx.length < req.totalLen) := by omega
  rw [dispatchRequests]
  split
  · next heq => rw [hp] at heq; cases heq
  · next heq =>
      rw [hp] at heq
      cases heq
      rw [if_neg hconsumed]

/-- **The loop over the requests** does what the receive loop says. -/
theorem dispatchRequests_servesAs (o : ℕ → AnswerOutcome) (i : ℕ) (rx : Bytes) :
    ∃ es, ServesAs o i (dispatchRequests rx).1 es (dispatchRequests rx).2
      (do
        let r ← Answering.dispatchRequests o rx
        StateT.lift (closeClient r.2)
        return r) := by
  induction hn : rx.length using Nat.strongRecOn generalizing rx i with
  | _ n ih =>
      cases hp : rtspParseRequest rx with
      | none =>
          rw [dispatchRequests_none hp, Answering.dispatchRequests_none hp]
          exact ⟨[], servesAs_pure (rx, false)⟩
      | some req =>
          obtain ⟨hlo, hhi⟩ := rtspParseRequest_bounds hp
          rw [dispatchRequests_some hp, Answering.dispatchRequests_some hp, bind_assoc]
          cases hclose : closesConnection req with
          | true =>
              refine ⟨_, (servesAs_pure (rx.drop req.totalLen, true)).dispatch ?_⟩
              rw [hclose]
              rfl
          | false =>
              have hshort : (rx.drop req.totalLen).length < n := by
                rw [List.length_drop]
                omega
              obtain ⟨es, hrest⟩ := ih _ hshort (i + 1) _ rfl
              refine ⟨_, hrest.dispatch ?_⟩
              rw [hclose]
              rfl

end Requests

/-! ## Iterations -/

/-- A refusal is sent with the next outcome. -/
theorem respondNext_run (o : ℕ → AnswerOutcome) (status : ℕ) (reason : Bytes) (cseq : ℤ)
    (sent : List Sent) : (Answering.respondNext o status reason cseq).run sent
      = (Answering.sendResponse (o sent.length) status reason cseq none).run sent := rfl

/-- A response of the loop itself, and what is done behind it. -/
theorem respondNext_servesAs {α : Type} {o : ℕ → AnswerOutcome} {i status : ℕ} {reason : Bytes} {cseq : ℤ}
    {acts : List ServerAction} {es : List RtspEvent} {a : α} {f : Answering α} {g : SessionProg α}
    (hstatus : (status, reason) ∈ responseStatuses) (hcseq : 0 ≤ cseq ∧ cseq ≤ longMax) (hf : Silent f g)
    (hvalue : g.Returns (· = a)) (hevents : EventsOf o i acts es)
    (herases : (do sendResponse status cseq; (fun _ => ()) <$> g) = runEvents es)
    (hanswered : Answered o i acts [responseText status reason cseq []]) :
    ServesAs o i acts es a (do Answering.respondNext o status reason cseq; f) := by
  have hsmall : ∀ r ∈ responseStatuses, r.1 < 10 ^ 3 ∧ r.2.length ≤ 21 := by decide
  have honce : AnswersOnce (· = responseText status reason cseq [])
      (do Answering.sendResponse (o i) status reason cseq none; f) (do sendResponse status cseq; g) := by
    refine (answersOnce_sendResponse (o i) (hsmall _ hstatus).1 (hsmall _ hstatus).2 hcseq.2 rfl
      (Nat.zero_le _) ?_).bind fun _ => hf
    rw [if_neg (not_lt.mpr hcseq.1)]
    rfl
  refine ServesAs.congr_run (honce.servesAs ?_ hevents ?_ ?_) ?_
  · exact Prog.returns_bind (Prog.returns_trivial _) fun _ _ => hvalue
  · rw [map_bind]
    exact herases
  · rintro text rfl
    exact hanswered
  · rintro sent rfl
    rw [StateT.run_bind, StateT.run_bind, respondNext_run]

/-- Dropping the client sends nothing. -/
theorem silent_disconnect {α : Type} (a : α) :
    Silent (do Answering.disconnect; return a) (do setClient false; sessionTeardownFull; return a) := by
  refine Silent.andThen (p := do setClient false; sessionTeardownFull) ?_ fun _ => silent_pure a
  exact (silent_lift _).andThen fun _ => silent_lift _

/-- The value behind what was done before. -/
theorem returns_const {α : Type} (p : SessionProg Unit) (a : α) :
    (do p; return a : SessionProg α).Returns (· = a) :=
  Prog.returns_bind p.returns_trivial fun _ _ => Prog.returns_pure rfl

/-- The value of the scan is a `long`. -/
theorem hdrScanLong_le (buf : Bytes) (len : ℕ) (key : Bytes) : hdrScanLong buf len key ≤ longMax := by
  unfold hdrScanLong
  dsimp only
  split
  · decide
  split
  · decide
  · cases h : strtol _ with
    | none => decide
    | some n => exact strtol_le h

/-- **An iteration** does what the receive loop says. -/
theorem receive_servesAs (o : ℕ → AnswerOutcome) (i : ℕ) (c : RtspConn) :
    ∃ es, ServesAs o i c.receive.2 es c.receive.1 (Answering.receive o c) := by
  unfold RtspConn.receive Answering.receive
  by_cases hidle : c.isOpen = false ∨ c.socket = []
  · rw [if_pos hidle, if_pos hidle]
    exact ⟨[], servesAs_pure c⟩
  rw [if_neg hidle, if_neg hidle]
  by_cases hfull : raopRxCap ≤ c.rx.length
  · rw [if_pos hfull, if_pos hfull]
    cases findTerm c.rx with
    | some term =>
        have hle := hdrScanLong_le c.rx (term + 4) (ascii "CSeq")
        refine ⟨_, respondNext_servesAs (show (200, ascii "OK") ∈ _ by decide) ?_ (silent_pure _)
          (Prog.returns_pure rfl) (.oversize .nil) ?_ (.oversize (.respond (by decide) .nil))⟩
        · split <;> omega
        · rfl
    | none =>
        refine ⟨_, respondNext_servesAs (show (400, ascii "Bad Request") ∈ _ by decide) (by decide)
          (silent_disconnect _) ?_ (.drop .nil) ?_
          (.oversize (.respond (by decide) (.disconnect .nil)))⟩
        · exact returns_const (do setClient false; sessionTeardownFull) _
        · simp only [runEvents, RtspEvent.program, map_bind, map_pure, bind_assoc, pure_bind]
  rw [if_neg hfull, if_neg hfull]
  dsimp only
  by_cases hdata : (recv (raopRxCap - c.rx.length) c.socket).1 = []
  · rw [if_pos hdata, if_pos hdata]
    refine ⟨_, (silent_disconnect _).servesAs
      (returns_const (do setClient false; sessionTeardownFull) _) (.disconnect .nil) ?_ (.disconnect .nil)⟩
    simp only [runEvents, RtspEvent.program, map_bind, map_pure, bind_assoc, pure_bind]
  rw [if_neg hdata, if_neg hdata]
  obtain ⟨es, hrequests⟩ :=
    dispatchRequests_servesAs o i (c.rx ++ (recv (raopRxCap - c.rx.length) c.socket).1)
  have hdone := hrequests.bind
    (f := fun r => pure (RtspConn.mk (!r.2) r.1 (recv (raopRxCap - c.rx.length) c.socket).2))
    (servesAs_pure _) rfl
  simp only [List.append_nil, bind_assoc, pure_bind] at hdone
  exact ⟨_, hdone⟩

/-- **`n` iterations** do what the receive loop says. -/
theorem serve_servesAs (o : ℕ → AnswerOutcome) (i : ℕ) (c : RtspConn) (n : ℕ) :
    ∃ es, ServesAs o i (c.run n).2 es (c.run n).1 (Answering.serve o c n) := by
  induction n with
  | zero => exact ⟨[], servesAs_pure c⟩
  | succ n ih =>
      obtain ⟨es, hserve⟩ := ih
      obtain ⟨es', hreceive⟩ := receive_servesAs o (i + (c.run n).2.countP ServerAction.answered) (c.run n).1
      rw [RtspConn.run_succ]
      exact ⟨es ++ es', hserve.bind hreceive rfl⟩

/-- **Whatever the client sends, every request is answered once, in order.** For every client, whatever it
sends and however it arrives, over any number of iterations and on every path of the program, whatever the
other tasks do in between: the connection is where the receive loop of its own has it; what is sent are
whole responses, one to each request that is dispatched or drained and to headers that exceed the buffer,
in their order; and but for the texts it is the programs of events of the session, one event to each
request, one where the client is dropped. -/
theorem connection_answers (o : ℕ → AnswerOutcome) (c : RtspConn) (n : ℕ) :
    (∃ es, EventsOf o 0 (c.run n).2 es ∧
        (fun _ => ()) <$> (Answering.serve o c n).run [] = runEvents es) ∧
      ((Answering.serve o c n).run []).Returns fun r => r.1 = (c.run n).1 ∧
        ∃ texts, r.2 = texts.map .response ∧ Answered o 0 (c.run n).2 texts := by
  obtain ⟨es, hserve⟩ := serve_servesAs o 0 c n
  exact ⟨⟨es, hserve.events, hserve.erases [] rfl⟩, hserve.sends [] rfl⟩

/-! ## Requests as written -/

/-- The request as it is read. -/
def WrittenRequest.request (r : WrittenRequest) : RtspRequest :=
  ⟨r.method, r.uri, r.version, r.headers, r.body, r.text.length⟩

/-- A written request parses to itself. -/
theorem WrittenRequest.parse_text (r : WrittenRequest) : rtspParseRequest r.text = some r.request := by
  have hhs : ∀ h ∈ r.headers, IsHeader h := fun h hh => (r.headers_fit h hh).isHeader
  have hlen := four_le_requestHead_length r.requestLine r.headers
  have hhead := parseHead_requestHead r.isLine hhs r.body
  rw [r.stored_eq, WrittenRequest.requestLine, parseRequestLine_requestLine r.method_token
    r.uri_token r.version_token, ← WrittenRequest.requestLine] at hhead
  have hbody : (rtspContentLength r.headers).toNat = r.body.length := by
    rw [r.contentLength_eq]
    split
    · next hnone => simp [hnone]
    · exact Int.toNat_natCast _
  have haccept := rtspParseRequest_of_parts (findTerm_requestHead r.isLine hhs r.body) hhead
    (by rw [hbody, List.length_append]; omega)
  rw [Nat.sub_add_cancel hlen, hbody, List.drop_left, List.take_length, ← List.length_append] at haccept
  exact haccept

/-- It is a frame of the stream. -/
theorem WrittenRequest.isFrame (r : WrittenRequest) : rtspFramer.IsFrame r.text r.request :=
  ⟨r.parse_text, rfl⟩

/-- Once everything has arrived, everything has been dispatched. -/
theorem InSync.dispatched_eq {parsed : List RtspRequest} {c : RtspConn} (h : InSync parsed [] c) {n : ℕ}
    (hn : c.socket.flatten.length ≤ n) : dispatched (c.run n).2 = upTo closesConnection parsed := by
  obtain ⟨hsync, -, hleft⟩ := h.run n
  rcases hsync with ⟨-, hdone⟩ | ⟨ho, -, hp, reqs, rest, hf, -, hst, hdone⟩
  · exact hdone
  have hempty : (c.run n).1.socket.flatten = [] := by
    have := hleft ho
    exact List.length_eq_zero_iff.mp (by omega)
  cases hf with
  | nil => rw [hdone, upTo, List.append_nil]
  | @cons r q reqs rest hr hf =>
      -- the next request would be complete
      have hlt := Framer.length_lt_of_pending (P := rtspFramer) (.cons hr hf) hst hp
      have hlen := congrArg List.length hst
      rw [hempty, List.append_nil, List.flatten_cons, List.length_append] at hlen
      omega

section Dispatches

variable {o : ℕ → AnswerOutcome} {i : ℕ} {acts : List ServerAction}

/-- Nothing is done but to dispatch requests. -/
def OnlyDispatches (acts : List ServerAction) : Prop :=
  ∀ a ∈ acts, ∃ req used consumed, a = .dispatch req used consumed

/-- So are the actions behind the first one. -/
theorem OnlyDispatches.tail {a : ServerAction} (h : OnlyDispatches (a :: acts)) : OnlyDispatches acts :=
  fun b hb => h b (List.mem_cons_of_mem a hb)

/-- The first of such actions dispatches a request. -/
theorem OnlyDispatches.head {a : ServerAction} (h : OnlyDispatches (a :: acts)) :
    ∃ req used consumed, a = .dispatch req used consumed := h a List.mem_cons_self

/-- The events of such actions are those of the requests, one for each. -/
theorem EventsOf.eq_requests {es : List RtspEvent} (h : EventsOf o i acts es) (hacts : OnlyDispatches acts) :
    es = ((dispatched acts).zipIdx i).map fun q => .request q.1 (o q.2).toRequestOutcome := by
  induction h with
  | nil => rfl
  | request _ ih =>
      rw [ih hacts.tail]
      rfl
  | oversize | drop | disconnect =>
      obtain ⟨req, used, consumed, ha⟩ := hacts.head
      cases ha

/-- The responses to such actions are those to the requests, one for each. -/
theorem Answered.requests {texts : List Bytes} (h : Answered o i acts texts) (hacts : OnlyDispatches acts) :
    List.Forall₂ (fun q text => AnswerTo (o q.2) q.1 text) ((dispatched acts).zipIdx i) texts := by
  induction h with
  | nil => exact .nil
  | dispatch hanswer _ ih => exact .cons hanswer (ih hacts.tail)
  | respond | oversize | disconnect =>
      obtain ⟨req, used, consumed, ha⟩ := hacts.head
      cases ha

end Dispatches

/-- **Pipelined requests are served one by one, however they are cut.** Let a client send requests that
fit the arrays of the parser and the buffer, in any non-empty chunks, and let the loop run until it has
read them. On every path of the program it sends one response to each request up to the first TEARDOWN, in
their order, whole, and with its CSeq; and but for the texts it is the programs of these requests, one
after the other. -/
theorem connection_answers_stream (o : ℕ → AnswerOutcome) (rs : List WrittenRequest)
    (hfit : ∀ r ∈ rs, r.text.length ≤ raopRxCap) (chunks : List Bytes) (hne : [] ∉ chunks)
    (hchunks : chunks.flatten = (rs.map WrittenRequest.text).flatten) (n : ℕ)
    (hn : chunks.flatten.length ≤ n) :
    let requests := (upTo closesConnection (rs.map WrittenRequest.request)).zipIdx
    let served := (Answering.serve o ⟨true, [], chunks⟩ n).run []
    (fun _ => ()) <$> served
        = runEvents (requests.map fun q => .request q.1 (o q.2).toRequestOutcome) ∧
      served.Returns fun r => ∃ texts, r.2 = texts.map .response ∧
        List.Forall₂ (fun q text => AnswerTo (o q.2) q.1 text) requests texts := by
  intro requests served
  have hframes : List.Forall₂ rtspFramer.IsFrame (rs.map WrittenRequest.text)
      (rs.map WrittenRequest.request) := by
    rw [List.forall₂_map_left_iff, List.forall₂_map_right_iff]
    exact List.forall₂_same.mpr fun r _ => r.isFrame
  have hcap : ∀ text ∈ rs.map WrittenRequest.text, text.length ≤ raopRxCap := by
    simpa using hfit
  have hsync : InSync (rs.map WrittenRequest.request) [] ⟨true, [], chunks⟩ :=
    .inr ⟨rfl, hne, Framer.parse_nil (P := rtspFramer), _, _, hframes, hcap, hchunks, rfl⟩
  have hall := hsync.dispatched_eq hn
  have hacts : OnlyDispatches (RtspConn.run ⟨true, [], chunks⟩ n).2 := by
    intro a ha
    obtain ⟨req, used, rfl, -⟩ := (hsync.run n).2.1 a ha
    exact ⟨req, used, _, rfl⟩
  obtain ⟨es, hserve⟩ := serve_servesAs o 0 ⟨true, [], chunks⟩ n
  have hevents := hserve.events.eq_requests hacts
  rw [hall] at hevents
  refine ⟨hevents ▸ hserve.erases [] rfl, (hserve.sends [] rfl).mono ?_⟩
  rintro r ⟨-, texts, hsent, hanswered⟩
  have hanswers := hanswered.requests hacts
  rw [hall] at hanswers
  exact ⟨texts, hsent, hanswers⟩

/-- A request without headers or a body. -/
def WrittenRequest.plain (method : Bytes) (h : IsToken 16 method) : WrittenRequest where
  method := method
  uri := ascii "*"
  version := ascii "RTSP/1.0"
  headers := []
  body := []
  method_token := h
  uri_token := ⟨by decide, by decide, by decide⟩
  version_token := ⟨by decide, by decide, by decide⟩
  headers_fit := nofun
  headers_length_le := by decide
  body_length_lt := by decide
  contentLength := rfl

/-- FLUSH, TEARDOWN and OPTIONS. -/
def samplePipeline : List WrittenRequest :=
  [.plain (ascii "FLUSH") ⟨by decide, by decide, by decide⟩,
    .plain (ascii "TEARDOWN") ⟨by decide, by decide, by decide⟩,
    .plain (ascii "OPTIONS") ⟨by decide, by decide, by decide⟩]

/-- The stream of them, cut within the first line and within a blank line. -/
def sampleChunks : List Bytes :=
  [ascii "FLUSH * RT", ascii "SP/1.0\r\n\r\nTEARDOWN * RTSP/1.0\r\n\r",
    ascii "\nOPTIONS * RTSP/1.0\r\n\r\n"]

/-- The third one comes too late. -/
theorem connection_answers_stream_cut :
    ((Answering.serve (fun _ => sampleAnswerOutcome) ⟨true, [], sampleChunks⟩ 70).run []).Returns
      fun r => ∃ texts, r.2 = texts.map .response ∧
        List.Forall₂ (fun q text => AnswerTo sampleAnswerOutcome q.1 text)
          (upTo closesConnection (samplePipeline.map WrittenRequest.request)).zipIdx texts := by
  have hfit : ∀ r ∈ samplePipeline, r.text.length ≤ raopRxCap := by decide +kernel
  have hchunks : sampleChunks.flatten = (samplePipeline.map WrittenRequest.text).flatten := by
    decide +kernel
  have hall : sampleChunks.flatten.length ≤ 70 := by decide +kernel
  have h := connection_answers_stream (fun _ => sampleAnswerOutcome) samplePipeline hfit sampleChunks
    (by decide) hchunks 70 hall
  exact h.2

end ConduitStream
