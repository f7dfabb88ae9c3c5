import ConduitStream.Foundations.Framing
import ConduitStream.Foundations.Trace
import ConduitStream.Rtsp.ReceiveLoop

/-! # TCP segmentation does not matter

However the network splits a stream of requests into chunks, the receive loop dispatches the same
requests: those the parser reads off the whole stream one by one, up to the first TEARDOWN. The
parser is a framer (`rtspFramer`), so the facts about framing apply; `InSync` is what holds between
two iterations of the loop, `InSync.receive` is the step lemma. -/

namespace ConduitStream

/-- The request parser as a framer. -/
def rtspFramer : Framer UInt8 RtspRequest where
  parse := rtspParseRequest
  size := RtspRequest.totalLen
  size_pos h := by have := rtspParseRequest_bounds h; omega
  size_le h := (rtspParseRequest_bounds h).2
  stable t h := rtspParseRequest_stable h t

/-- The request loop reads requests off the buffer as a framer does, and is only ever given complete
ones. -/
theorem dispatchRequests_eq_drain (rx : Bytes) :
    dispatched (dispatchRequests rx).1 = (rtspFramer.drain closesConnection rx).1 ∧
      (dispatchRequests rx).2 = (rtspFramer.drain closesConnection rx).2 ∧
      ∀ a ∈ (dispatchRequests rx).1, ∃ req used, a = .dispatch req used req.totalLen ∧
        4 ≤ req.totalLen ∧ req.totalLen ≤ used := by
  induction hn : rx.length using Nat.strongRecOn generalizing rx with
  | _ n ih =>
      rw [dispatchRequests]
      split
      · next hp =>
          rw [Framer.drain_none (P := rtspFramer) hp]
          exact ⟨rfl, rfl, fun a ha => absurd ha List.not_mem_nil⟩
      · next req hp =>
          obtain ⟨hlo, hhi⟩ := rtspParseRequest_bounds hp
          have hconsumed : ¬(req.totalLen = 0 ∨ rx.length < req.totalLen) := by omega
          rw [Framer.drain_some (P := rtspFramer) hp, if_neg hconsumed]
          by_cases hc : closesConnection req = true
          · -- TEARDOWN: the rest of the buffer is left alone
            rw [if_pos hc, if_pos hc]
            refine ⟨rfl, rfl, fun a ha => ?_⟩
            rw [List.mem_singleton] at ha
            exact ⟨req, rx.length, ha, hlo, hhi⟩
          · rw [if_neg hc, if_neg hc]
            obtain ⟨h1, h2, h3⟩ := ih (rx.drop req.totalLen).length
              (by rw [List.length_drop]; omega) _ rfl
            refine ⟨?_, h2, fun a ha => ?_⟩
            · show req :: dispatched _ = req :: _
              rw [h1]
              rfl
            · rcases List.mem_cons.mp ha with rfl | ha
              · exact ⟨req, rx.length, rfl, hlo, hhi⟩
              · exact h3 a ha

/-- Between two iterations, with the requests `done` dispatched out of the stream of the requests
`parsed`: either the connection has been closed after the first TEARDOWN, or what is buffered and
what is still to arrive are the remaining requests, and no request is complete. -/
def InSync (parsed done : List RtspRequest) (c : RtspConn) : Prop :=
  (c.isOpen = false ∧ done = upTo closesConnection parsed) ∨
    (c.isOpen = true ∧ [] ∉ c.socket ∧ rtspParseRequest c.rx = none ∧
      ∃ reqs rest, List.Forall₂ rtspFramer.IsFrame reqs rest ∧ (∀ r ∈ reqs, r.length ≤ raopRxCap) ∧
        c.rx ++ c.socket.flatten = reqs.flatten ∧
        upTo closesConnection parsed = done ++ upTo closesConnection rest)

section Iteration

variable {parsed done : List RtspRequest} {c : RtspConn}

/-- Less than one request is buffered, so the buffer has room. -/
theorem InSync.used_lt (h : InSync parsed done c) (ho : c.isOpen = true) :
    c.rx.length < raopRxCap := by
  rcases h with ⟨hc, -⟩ | ⟨-, -, hp, reqs, rest, hf, hcap, hst, -⟩
  · rw [ho] at hc; cases hc
  · cases hf with
    | nil =>
        obtain ⟨hrx, -⟩ : c.rx = [] ∧ c.socket.flatten = [] := List.append_eq_nil_iff.mp hst
        rw [hrx]
        decide
    | @cons r q reqs rest hr hf =>
        exact lt_of_lt_of_le
          (Framer.length_lt_of_pending (P := rtspFramer) (.cons hr hf) hst hp)
          (hcap r List.mem_cons_self)

/-- **Step lemma**: an iteration keeps the connection in sync, dispatches complete requests and does
nothing else, and takes something off the socket. -/
theorem InSync.receive (h : InSync parsed done c) :
    InSync parsed (done ++ dispatched c.receive.2) c.receive.1 ∧
      (∀ a ∈ c.receive.2, ∃ req used, a = .dispatch req used req.totalLen ∧
        4 ≤ req.totalLen ∧ req.totalLen ≤ used) ∧
      (c.isOpen = true → c.socket ≠ [] →
        c.receive.1.socket.flatten.length < c.socket.flatten.length) := by
  by_cases hidle : c.isOpen = false ∨ c.socket = []
  · rw [RtspConn.receive, if_pos hidle]
    refine ⟨by simpa [dispatched] using h, fun a ha => absurd ha List.not_mem_nil, ?_⟩
    intro ho hs
    rcases hidle with hc | hc
    · rw [ho] at hc; cases hc
    · exact absurd hc hs
  obtain ⟨ho, hs⟩ : c.isOpen = true ∧ c.socket ≠ [] := by simpa using hidle
  have hroom := h.used_lt ho
  rcases h with ⟨hc, -⟩ | ⟨-, hlive, -, reqs, rest, hf, hcap, hst, hall⟩
  · rw [ho] at hc; cases hc
  have hwant : 0 < raopRxCap - c.rx.length := by omega
  obtain ⟨hdata, hlive'⟩ := recv_live hwant hs hlive
  have hsplit := recv_flatten (raopRxCap - c.rx.length) c.socket
  obtain ⟨hd1, hd2, hd3⟩ := dispatchRequests_eq_drain
    (c.rx ++ (recv (raopRxCap - c.rx.length) c.socket).1)
  -- what `recv` moves from the socket to the buffer keeps its place in the stream
  have hst' : (c.rx ++ (recv (raopRxCap - c.rx.length) c.socket).1)
      ++ (recv (raopRxCap - c.rx.length) c.socket).2.flatten = reqs.flatten := by
    rw [List.append_assoc, hsplit, hst]
  rw [RtspConn.receive, if_neg hidle, if_neg (not_le.mpr hroom), if_neg hdata]
  refine ⟨?_, hd3, fun _ _ => ?_⟩
  · dsimp only
    rw [hd1, hd2]
    rcases Framer.drain_frames closesConnection hf hst' with
      ⟨hstop, hdone⟩ | ⟨hgo, reqs', rest', hf', hsuf, hst'', hdone⟩
    · refine .inl ⟨by rw [hstop]; rfl, ?_⟩
      rw [hall, hdone]
    · refine .inr ⟨by rw [hgo]; rfl, hlive', Framer.parse_drain_rest hgo, reqs', rest', hf',
        fun r hr => hcap r (hsuf.subset hr), hst'', ?_⟩
      rw [hall, hdone, List.append_assoc]
  · dsimp only
    rw [← hsplit, List.length_append]
    have := List.length_pos_iff.mpr hdata
    omega

end Iteration

/-- `n` iterations of the loop: the connection and everything done. -/
def RtspConn.run (c : RtspConn) (n : ℕ) : RtspConn × List ServerAction :=
  let r := runOps (fun (c : RtspConn) (_ : Unit) => c.receive) c (List.replicate n ())
  (r.1, r.2.flatten)

/-- One iteration of the server task more. -/
theorem RtspConn.run_succ (c : RtspConn) (n : ℕ) :
    c.run (n + 1) = ((c.run n).1.receive.1, (c.run n).2 ++ (c.run n).1.receive.2) := by
  simp only [RtspConn.run, List.replicate_succ', runOps_concat, List.flatten_append,
    List.flatten_cons, List.flatten_nil, List.append_nil]

/-- **Run lemma**: after `n` iterations the connection is in sync, only complete requests have been
dispatched, and at least `n` bytes have been taken off the socket, if there were that many. -/
theorem InSync.run {parsed : List RtspRequest} {c : RtspConn} (h : InSync parsed [] c) (n : ℕ) :
    InSync parsed (dispatched (c.run n).2) (c.run n).1 ∧
      (∀ a ∈ (c.run n).2, ∃ req used, a = .dispatch req used req.totalLen ∧
        4 ≤ req.totalLen ∧ req.totalLen ≤ used) ∧
      ((c.run n).1.isOpen = true →
        (c.run n).1.socket.flatten.length ≤ c.socket.flatten.length - n) := by
  induction n with
  | zero => exact ⟨h, fun a ha => absurd ha List.not_mem_nil, fun _ => le_rfl⟩
  | succ n ih =>
      obtain ⟨hsync, hcomplete, hleft⟩ := ih
      obtain ⟨hsync', hcomplete', hless⟩ := hsync.receive
      rw [RtspConn.run_succ]
      dsimp only
      rw [dispatched_append]
      refine ⟨hsync', fun a ha => ?_, fun ho' => ?_⟩
      · rcases List.mem_append.mp ha with ha | ha
        · exact hcomplete a ha
        · exact hcomplete' a ha
      · by_cases hidle : (c.run n).1.isOpen = false ∨ (c.run n).1.socket = []
        · -- nothing happens: the connection was open before, and nothing is left to arrive
          have hstay : (c.run n).1.receive.1 = (c.run n).1 := by
            rw [RtspConn.receive, if_pos hidle]
          rw [hstay] at ho' ⊢
          rcases hidle with hc | hc
          · rw [ho'] at hc; cases hc
          · rw [hc]
            exact Nat.zero_le _
        · obtain ⟨ho, hs⟩ : (c.run n).1.isOpen = true ∧ (c.run n).1.socket ≠ [] := by
            simpa using hidle
          have h1 := hless ho hs
          have h2 := hleft ho
          omega

/-- **TCP segmentation independence.** Let the stream be a concatenation of requests that fit the
receive buffer, and let it arrive in any non-empty chunks. After any number of iterations the loop
has done nothing but dispatch complete requests, in the order and with the content the parser reads
off the whole stream, up to the first TEARDOWN; and after enough iterations it has dispatched all of
these. The parser refuses every proper prefix of each request and reads the request alike in front
of whatever follows. -/
theorem rtspServer_segmentation_independent (reqs : List Bytes) (parsed : List RtspRequest)
    (hreqs : List.Forall₂ (fun r q => rtspParseRequest r = some q ∧ q.totalLen = r.length ∧
      q.totalLen ≤ raopRxCap) reqs parsed)
    (chunks : List Bytes) (hne : [] ∉ chunks) (hchunks : chunks.flatten = reqs.flatten) (n : ℕ)
    (run : RtspConn × List ServerAction) (hrun : run = RtspConn.run ⟨true, [], chunks⟩ n) :
    (∀ a ∈ run.2, ∃ req used, a = .dispatch req used req.totalLen ∧
        4 ≤ req.totalLen ∧ req.totalLen ≤ used) ∧
      dispatched run.2 <+: upTo closesConnection parsed ∧
      (reqs.flatten.length ≤ n → dispatched run.2 = upTo closesConnection parsed) ∧
      ∀ r ∈ reqs, (∀ p, p <+: r → p ≠ r → rtspParseRequest p = none) ∧
        ∀ t, rtspParseRequest (r ++ t) = rtspParseRequest r := by
  obtain ⟨hreq, hf⟩ : (∀ r ∈ reqs, ∃ q, rtspFramer.IsFrame r q ∧ r.length ≤ raopRxCap) ∧
      List.Forall₂ rtspFramer.IsFrame reqs parsed :=
    (List.forall₂_and_left _ _).mp
      (hreqs.imp fun r q h => ⟨⟨q, ⟨h.1, h.2.1⟩, h.2.1 ▸ h.2.2⟩, h.1, h.2.1⟩)
  have hcap : ∀ r ∈ reqs, r.length ≤ raopRxCap := by
    intro r hr
    obtain ⟨q, -, hle⟩ := hreq r hr
    exact hle
  have h0 : InSync parsed [] ⟨true, [], chunks⟩ :=
    .inr ⟨rfl, hne, Framer.parse_nil (P := rtspFramer), reqs, parsed, hf, hcap, hchunks, rfl⟩
  obtain ⟨hsync, hcomplete, hleft⟩ := h0.run n
  rw [← hrun] at hsync hcomplete hleft
  refine ⟨hcomplete, ?_, fun hn => ?_, fun r hr => ?_⟩
  · rcases hsync with ⟨-, hdone⟩ | ⟨-, -, -, -, rest, -, -, -, hdone⟩
    · rw [hdone]
    · exact ⟨_, hdone.symm⟩
  · rcases hsync with ⟨-, hdone⟩ | ⟨ho, -, hp, reqs', rest, hf', -, hst, hdone⟩
    · exact hdone
    · -- everything has arrived, so a remaining request would be complete
      have hempty : run.1.socket.flatten = [] := by
        have := hleft ho
        rw [hchunks] at this
        exact List.length_eq_zero_iff.mp (by omega)
      cases hf' with
      | nil => rw [hdone]; exact (List.append_nil _).symm
      | @cons r q reqs' rest hr hf' =>
          have hlt := Framer.length_lt_of_pending (P := rtspFramer) (.cons hr hf') hst hp
          have hlen := congrArg List.length hst
          rw [hempty, List.append_nil, List.flatten_cons, List.length_append] at hlen
          omega
  · obtain ⟨q, hq, -⟩ := hreq r hr
    refine ⟨fun p hp hneq => ?_, fun t => ?_⟩
    · refine Framer.parse_eq_none_of_prefix (P := rtspFramer) hq.1 hp ?_
      rw [hq.2]
      exact lt_of_le_of_ne hp.length_le fun hlen => hneq (hp.eq_of_length hlen)
    · rw [rtspParseRequest_stable hq.1 t]
      exact hq.1.symm

/-- Two pipelined requests, split in the middle of a header and of the blank line. -/
theorem rtspServer_segmentation_independent_split :
    dispatched (RtspConn.run
        ⟨true, [], [ascii "OPTIONS * RTSP/1.0\r\nCS",
          ascii "eq: 1\r\n\r\nTEARDOWN * RTSP/1.0\r\n\r", ascii "\n"]⟩ 60).2
      = upTo closesConnection
          [⟨ascii "OPTIONS", ascii "*", ascii "RTSP/1.0", [⟨ascii "CSeq", ascii "1"⟩], [], 31⟩,
            ⟨ascii "TEARDOWN", ascii "*", ascii "RTSP/1.0", [], [], 23⟩] :=
  (rtspServer_segmentation_independent
    [ascii "OPTIONS * RTSP/1.0\r\nCSeq: 1\r\n\r\n", ascii "TEARDOWN * RTSP/1.0\r\n\r\n"]
    [⟨ascii "OPTIONS", ascii "*", ascii "RTSP/1.0", [⟨ascii "CSeq", ascii "1"⟩], [], 31⟩,
      ⟨ascii "TEARDOWN", ascii "*", ascii "RTSP/1.0", [], [], 23⟩]
    (.cons (by decide +kernel) (.cons (by decide +kernel) .nil)) _ (by decide) (by decide) 60 _
    rfl).2.2.1 (by decide)

end ConduitStream
