import ConduitStream.Rtsp.Parser

/-! # The receive loop of the RTSP server (`server_task` in `raop.c`)

When the client socket is readable, the loop appends what `recv` returns to a 2048-byte buffer,
dispatches every complete request in it and shifts the rest to the front. A buffer that is full
without holding a complete request takes the oversize branch: the declared body is drained off the
socket and acknowledged, or, without a header terminator, the client is dropped.

What a dispatched request does to the session is the subject of `Session`; here `dispatch` only
matters for whether the connection is closed afterwards. -/

namespace ConduitStream

/-- `RAOP_RX_CAP`. -/
def raopRxCap : ℕ := 2048

/-- `recv` of at most `want` bytes from a socket on which the listed chunks arrive one after the
other. An empty chunk stands for a call that returns no data: the peer has closed, an error, or the
receive timeout; a socket with nothing more to come ends in the timeout, too. -/
def recv (want : ℕ) : List Bytes → Bytes × List Bytes
  | [] => ([], [])
  | c :: cs => if c.length ≤ want then (c, cs) else (c.take want, c.drop want :: cs)

/-- A call that asks for something takes part of the stream, in order. -/
theorem recv_flatten (want : ℕ) (socket : List Bytes) :
    (recv want socket).1 ++ (recv want socket).2.flatten = socket.flatten := by
  cases socket with
  | nil => rfl
  | cons c cs =>
      rw [recv]
      split
      · rfl
      · simp [← List.append_assoc]

/-- On a live socket some data comes, and the socket stays live. -/
theorem recv_live {want : ℕ} {socket : List Bytes} (hwant : 0 < want) (hs : socket ≠ [])
    (hlive : [] ∉ socket) : (recv want socket).1 ≠ [] ∧ [] ∉ (recv want socket).2 := by
  cases socket with
  | nil => exact absurd rfl hs
  | cons c cs =>
      rw [List.mem_cons, not_or] at hlive
      have hc : c.length ≠ 0 := fun h0 => hlive.1 (List.length_eq_zero_iff.mp h0).symm
      rw [recv]
      split
      · exact ⟨fun h => hlive.1 h.symm, hlive.2⟩
      · next hlong =>
          refine ⟨fun h => ?_, ?_⟩
          · have := congrArg List.length h
            rw [List.length_take, List.length_nil] at this
            omega
          · rw [List.mem_cons, not_or]
            refine ⟨fun h => ?_, hlive.2⟩
            have := congrArg List.length h
            rw [List.length_drop, List.length_nil] at this
            omega

/-! ## The oversize branch -/

/-- `ci_startswith`, on a buffer with at least as many bytes as `key`. -/
def ciStartswith (s key : Bytes) : Bool := (s.take key.length).map toLower = key.map toLower

/-- `hdr_scan_long`: the number behind the first occurrence of `key` in the first `len` bytes.
`strtol` reads on beyond them. -/
def hdrScanLong (buf : Bytes) (len : ℕ) (key : Bytes) : ℤ :=
  if len < key.length then -1
  else
    match (List.range (len - key.length)).find? fun i => ciStartswith (buf.drop i) key with
    | none => -1
    | some i =>
        let v := i + key.length
        let skip := ((buf.take len).drop v).takeWhile fun c => c = 0x3a ∨ c = 0x20 ∨ c = 0x09
        (strtol (buf.drop (v + skip.length))).getD 0

/-- The loop that drains `toDrain` bytes of body off the socket, 512 at a time at most. -/
def drainBody (toDrain : ℕ) (socket : List Bytes) : List Bytes :=
  if toDrain = 0 then socket
  else
    if _h : (recv (min toDrain 512) socket).1 = [] then (recv (min toDrain 512) socket).2
    else
      drainBody (toDrain - (recv (min toDrain 512) socket).1.length)
        (recv (min toDrain 512) socket).2
termination_by toDrain
decreasing_by
  have := List.length_pos_iff.mpr _h
  omega

/-! ## One iteration -/

/-- The client connection: whether there is one, the first `used` bytes of `rx`, and what is still
to arrive on the socket. -/
structure RtspConn where
  isOpen : Bool
  rx : Bytes
  socket : List Bytes

/-- What an iteration does. -/
inductive ServerAction
  /-- `dispatch` is called with `used` bytes in the buffer, of which `consumed` are then dropped. -/
  | dispatch (req : RtspRequest) (used consumed : ℕ)
  /-- The oversize branch is entered. -/
  | oversize
  /-- A response of the loop itself. -/
  | respond (status : ℕ) (cseq : ℤ)
  /-- The client is closed and `session_teardown_full` called. -/
  | disconnect
  deriving DecidableEq, Repr

/-- What `dispatch` returns: whether the connection is to be closed. -/
def closesConnection (req : RtspRequest) : Bool := strcmpEq req.method (ascii "TEARDOWN")

/-- The loop over the complete requests in the buffer: the actions, what is left in the buffer, and
`close_conn`. -/
def dispatchRequests (rx : Bytes) : List ServerAction × Bytes × Bool :=
  match _h : rtspParseRequest rx with
  | none => ([], rx, false)
  | some req =>
      let consumed :=
        if req.totalLen = 0 ∨ rx.length < req.totalLen then rx.length else req.totalLen
      if closesConnection req then ([.dispatch req rx.length consumed], rx.drop consumed, true)
      else
        (.dispatch req rx.length consumed :: (dispatchRequests (rx.drop consumed)).1,
          (dispatchRequests (rx.drop consumed)).2)
termination_by rx.length
decreasing_by
  all_goals
    have := rtspParseRequest_bounds _h
    rw [List.length_drop]
    split_ifs <;> omega

/-- One iteration of the loop as far as the client socket goes; nothing happens unless there is a
client and its socket is readable. -/
def RtspConn.receive (c : RtspConn) : RtspConn × List ServerAction :=
  if c.isOpen = false ∨ c.socket = [] then (c, [])
  else if raopRxCap ≤ c.rx.length then
    match findTerm c.rx with
    | some term =>
        let hlen := term + 4
        let clen := hdrScanLong c.rx hlen (ascii "Content-Length")
        let cseq := hdrScanLong c.rx hlen (ascii "CSeq")
        let toDrain : ℤ := if 0 < clen then clen - (c.rx.length - hlen : ℕ) else 0
        ({ c with rx := [], socket := drainBody toDrain.toNat c.socket },
          [.oversize, .respond 200 (if cseq < 0 then 0 else cseq)])
    | none => ({ c with isOpen := false }, [.oversize, .respond 400 0, .disconnect])
  else
    let r := recv (raopRxCap - c.rx.length) c.socket
    if r.1 = [] then ({ c with isOpen := false, socket := r.2 }, [.disconnect])
    else
      let d := dispatchRequests (c.rx ++ r.1)
      ({ isOpen := !d.2.2, rx := d.2.1, socket := r.2 }, d.1)

/-- The requests dispatched in a trace. -/
def dispatched (acts : List ServerAction) : List RtspRequest :=
  acts.filterMap fun
    | .dispatch req _ _ => some req
    | _ => none

/-- The requests of two stretches of actions. -/
@[simp] theorem dispatched_append (as bs : List ServerAction) :
    dispatched (as ++ bs) = dispatched as ++ dispatched bs := List.filterMap_append

end ConduitStream
