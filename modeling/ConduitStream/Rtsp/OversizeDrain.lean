import ConduitStream.Rtsp.BodyFraming
import ConduitStream.Rtsp.HeaderScan
import ConduitStream.Rtsp.Segmentation

/-! # Draining an oversized request

The oversize branch takes the rest of the declared body off the socket and acknowledges the request.
It gives up at the first `recv` that returns no data, keeps the connection, and forgets how much of
the body is still to come.

* **`drainBody_complete`**, **`drainBody_stalled`** — what the drain leaves on the socket;
* **`Resynced`** — the connection is where the sender is, or over; `Resynced.run` follows it through
  all later iterations;
* **`oversizeDrain_resynced_iff`** — exactly when the branch leaves the connection so. -/

namespace ConduitStream

/-! ## What the drain leaves on the socket -/

/-- The bytes that arrive before the first `recv` without data. -/
def liveBytes (socket : List Bytes) : Bytes := (socket.takeWhile (· ≠ [])).flatten

/-- What the socket holds after the first `recv` without data. -/
def afterStall (socket : List Bytes) : List Bytes := (socket.dropWhile (· ≠ [])).tail

/-- Without chunks no bytes arrive. -/
@[simp] theorem liveBytes_nil : liveBytes [] = [] := rfl

/-- Without chunks nothing is left, either. -/
@[simp] theorem afterStall_nil : afterStall [] = [] := rfl

/-- A stall ends what arrives for this request. -/
@[simp] theorem liveBytes_stalled (cs : List Bytes) : liveBytes ([] :: cs) = [] := rfl

/-- What is left comes behind it. -/
@[simp] theorem afterStall_stalled (cs : List Bytes) : afterStall ([] :: cs) = cs := rfl

/-- A chunk that is not empty arrives, and the ones behind it. -/
theorem liveBytes_cons {c : Bytes} (hc : c ≠ []) (cs : List Bytes) :
    liveBytes (c :: cs) = c ++ liveBytes cs := by
  simp [liveBytes, hc]

/-- A chunk that arrives is not left for later. -/
theorem afterStall_cons {c : Bytes} (hc : c ≠ []) (cs : List Bytes) :
    afterStall (c :: cs) = afterStall cs := by
  simp [afterStall, hc]

/-- The whole stream: what comes before the first call without data, and what comes after it. -/
theorem liveBytes_append_afterStall (socket : List Bytes) :
    liveBytes socket ++ (afterStall socket).flatten = socket.flatten := by
  induction socket with
  | nil => rfl
  | cons c cs ih =>
      by_cases hc : c = []
      · subst hc
        rfl
      · rw [liveBytes_cons hc, afterStall_cons hc, List.append_assoc, ih, List.flatten_cons]

/-- No data comes exactly if nothing more comes or the next call returns none. -/
theorem liveBytes_eq_nil_iff {socket : List Bytes} :
    liveBytes socket = [] ↔ socket = [] ∨ socket.head? = some [] := by
  cases socket with
  | nil => simp
  | cons c cs =>
      by_cases hc : c = []
      · simp [hc]
      · simp [liveBytes_cons hc, hc]

/-- A call on a socket with data takes some of it, in order, and at most what it asks for. -/
theorem recv_liveBytes {want : ℕ} {socket : List Bytes} (hwant : 0 < want)
    (hlive : liveBytes socket ≠ []) :
    (recv want socket).1 ≠ [] ∧ (recv want socket).1.length ≤ want ∧
      (recv want socket).1 ++ liveBytes (recv want socket).2 = liveBytes socket ∧
      afterStall (recv want socket).2 = afterStall socket := by
  cases socket with
  | nil => exact absurd rfl hlive
  | cons c cs =>
      have hc : c ≠ [] := by
        rintro rfl
        exact hlive rfl
      rw [recv]
      split
      · next hfit => exact ⟨hc, hfit, (liveBytes_cons hc cs).symm, (afterStall_cons hc cs).symm⟩
      -- the chunk is longer than the call asks for, so its rest stays on the socket
      · next hlong =>
          rw [not_le] at hlong
          have hrest : c.drop want ≠ [] := by
            rw [Ne, List.drop_eq_nil_iff]
            omega
          refine ⟨?_, List.length_take_le _ _, ?_, ?_⟩
          · rw [Ne, List.take_eq_nil_iff]
            rintro (h | h)
            · omega
            · exact hc h
          · rw [liveBytes_cons hrest, liveBytes_cons hc, ← List.append_assoc,
              List.take_append_drop]
          · rw [afterStall_cons hrest, afterStall_cons hc]

/-- A call on a socket without data. -/
theorem recv_of_liveBytes_eq_nil (want : ℕ) {socket : List Bytes} (h : liveBytes socket = []) :
    recv want socket = ([], afterStall socket) := by
  rcases liveBytes_eq_nil_iff.mp h with rfl | hhead
  · rfl
  · obtain ⟨cs, rfl⟩ : ∃ cs, socket = [] :: cs := by
      cases socket with
      | nil => cases hhead
      | cons c cs => exact ⟨cs, by rw [List.head?_cons, Option.some.injEq] at hhead; rw [hhead]⟩
    rw [recv, if_pos (show ([] : Bytes).length ≤ want from Nat.zero_le want)]
    rfl

/-- One round of the drain loop on a socket with data. -/
theorem drainBody_step {n : ℕ} {socket : List Bytes} (hn : 0 < n) (hlive : liveBytes socket ≠ []) :
    ∃ r socket', r ≠ [] ∧ r.length ≤ n ∧ drainBody n socket = drainBody (n - r.length) socket' ∧
      r ++ liveBytes socket' = liveBytes socket ∧ afterStall socket' = afterStall socket := by
  obtain ⟨hr, hle, hsplit, hafter⟩ := recv_liveBytes (show 0 < min n 512 by omega) hlive
  refine ⟨_, _, hr, hle.trans (min_le_left _ _), ?_, hsplit, hafter⟩
  rw [drainBody, if_neg hn.ne', dif_neg hr]

/-- **A drain that gets what it wants** takes that many bytes and nothing else. -/
theorem drainBody_complete {n : ℕ} {socket : List Bytes} (h : n ≤ (liveBytes socket).length) :
    liveBytes (drainBody n socket) = (liveBytes socket).drop n ∧
      afterStall (drainBody n socket) = afterStall socket := by
  induction n using Nat.strongRecOn generalizing socket with
  | _ n ih =>
      rcases Nat.eq_zero_or_pos n with rfl | hn
      · rw [drainBody, if_pos rfl]
        exact ⟨rfl, rfl⟩
      · have hlive : liveBytes socket ≠ [] := by
          intro hnil
          rw [hnil, List.length_nil] at h
          omega
        obtain ⟨r, socket', hr, hle, hdrain, hsplit, hafter⟩ := drainBody_step hn hlive
        have hpos := List.length_pos_iff.mpr hr
        have hlen := congrArg List.length hsplit
        rw [List.length_append] at hlen
        have hroom : n - r.length ≤ (liveBytes socket').length := by omega
        obtain ⟨hlive', hafter'⟩ := ih (n - r.length) (by omega) hroom
        rw [hdrain, hlive', hafter', hafter, ← hsplit, List.drop_append]
        rw [List.drop_of_length_le hle]
        exact ⟨rfl, rfl⟩

/-- **A drain that stalls** leaves everything behind the call without data. -/
theorem drainBody_stalled {n : ℕ} {socket : List Bytes} (h : (liveBytes socket).length < n) :
    drainBody n socket = afterStall socket := by
  induction n using Nat.strongRecOn generalizing socket with
  | _ n ih =>
      by_cases hlive : liveBytes socket = []
      · rw [drainBody, if_neg (by omega), dif_pos (by rw [recv_of_liveBytes_eq_nil _ hlive]),
          recv_of_liveBytes_eq_nil _ hlive]
      · obtain ⟨r, socket', hr, hle, hdrain, hsplit, hafter⟩ := drainBody_step (Nat.zero_lt_of_lt h) hlive
        have hpos := List.length_pos_iff.mpr hr
        have hlen := congrArg List.length hsplit
        rw [List.length_append] at hlen
        rw [hdrain, ih (n - r.length) (by omega) (by omega), hafter]

/-! ## Back in step with the sender -/

/-- The buffer is empty, and either no data comes any more (the next `recv` ends the connection) or
what comes is `next`. -/
def Resynced (next : Bytes) (c : RtspConn) : Prop :=
  c.rx = [] ∧ (liveBytes c.socket = [] ∨ c.socket.flatten = next)

/-- Nothing is read, let alone parsed, from a connection on which no data comes: the next iteration
ends it, or finds nothing to read. -/
theorem receive_of_liveBytes_eq_nil {c : RtspConn} (hrx : c.rx = [])
    (h : liveBytes c.socket = []) :
    (c.receive.1.isOpen = false ∨ c.receive.1 = c) ∧ c.receive.1.rx = [] ∧
      dispatched c.receive.2 = [] := by
  rw [RtspConn.receive]
  split
  · exact ⟨.inr rfl, hrx, rfl⟩
  · rw [if_neg (by rw [hrx]; decide), recv_of_liveBytes_eq_nil _ h]
    exact ⟨.inl rfl, hrx, rfl⟩

/-- **Run lemma**: from a resynced connection on, either nothing is ever put into the buffer, or the
iterations read the stream that begins with `next`, on an empty buffer. -/
theorem Resynced.run {next : Bytes} {c : RtspConn} (h : Resynced next c) (n : ℕ) :
    (dispatched (c.run n).2 = [] ∧ (c.run n).1.rx = []) ∨ c.rx = [] ∧ c.socket.flatten = next := by
  obtain ⟨hrx, hlive | hnext⟩ := h
  · refine .inl ?_
    -- the connection is closed, or still the one without data
    suffices hstill : dispatched (c.run n).2 = [] ∧ (c.run n).1.rx = [] ∧
        ((c.run n).1.isOpen = false ∨ (c.run n).1 = c) from ⟨hstill.1, hstill.2.1⟩
    induction n with
    | zero => exact ⟨rfl, hrx, .inr rfl⟩
    | succ n ih =>
        obtain ⟨hdone, hempty, hstate⟩ := ih
        rw [RtspConn.run_succ]
        dsimp only
        rw [dispatched_append, hdone, List.nil_append]
        rcases hstate with hclosed | hsame
        · have hstay : (c.run n).1.receive = ((c.run n).1, []) := by
            rw [RtspConn.receive, if_pos (.inl hclosed)]
          rw [hstay]
          exact ⟨rfl, hempty, .inl hclosed⟩
        · rw [hsame]
          obtain ⟨hend, hrx', hdisp⟩ := receive_of_liveBytes_eq_nil hrx hlive
          exact ⟨hdisp, hrx', hend⟩
  · exact .inr ⟨hrx, hnext⟩

/-- A header value that declares the length `n`: decimal digits between blanks. -/
def Declares (value : Bytes) (n : ℕ) : Prop :=
  ∃ b ds b', value = b ++ ds ++ b' ∧ (∀ c ∈ b, isBlank c = true) ∧ (∀ c ∈ b', isBlank c = true) ∧
    ds ≠ [] ∧ (∀ d ∈ ds, isDigit d = true) ∧ decimal ds = n

/-- `strtol` reads a declared length, saturated at `LONG_MAX`, and the scan reads it as `strtol`. -/
theorem Declares.read {value : Bytes} {n : ℕ} (h : Declares value n) :
    PlainValue value ∧ strtol value = some (min n longMax : ℕ) := by
  obtain ⟨b, ds, b', rfl, hb, hb', hne, hds, rfl⟩ := h
  have hdigit : ∀ c, isBlank c = true → isDigit c = false := by
    intro c hc
    rcases of_decide_eq_true hc with rfl | rfl <;> decide
  obtain ⟨d, ds', rfl⟩ := List.exists_cons_of_ne_nil hne
  have hd := hds d List.mem_cons_self
  -- the blanks before the digits are skipped, and those behind stop `strtol`
  have hdrop : (b ++ d :: ds' ++ b').dropWhile isBlank = d :: ds' ++ b' := by
    have hstop : isBlank d = false := by
      rw [Bool.eq_false_iff]
      intro hblank
      rw [hdigit d hblank] at hd
      cases hd
    rw [List.append_assoc, List.dropWhile_append_of_pos hb, List.cons_append,
      List.dropWhile_cons_of_neg (by rw [hstop]; exact Bool.false_ne_true)]
  constructor
  · refine ⟨⟨d, by simp, isSpace_of_isDigit hd⟩, ?_⟩
    rw [hdrop, List.cons_append, List.head?_cons, Ne, Option.some.injEq]
    rintro rfl
    exact absurd hd (by decide)
  · rw [← strtol_dropWhile isSpace_of_isBlank, hdrop]
    cases b' with
    | nil => rw [List.append_nil, strtol_digits hne hds]
    | cons c b' =>
        rw [strtol_append_cons ⟨d, List.mem_cons_self, isSpace_of_isDigit hd⟩
          (hdigit c (hb' c List.mem_cons_self)), strtol_digits hne hds]

/-! ## When the drain resynchronises -/

/-- `recv` runs out of data before `n` bytes have come, and then there is data again. -/
def Stalls (n : ℕ) (socket : List Bytes) : Prop :=
  (liveBytes socket).length < n ∧ liveBytes (afterStall socket) ≠ []

/-- A drain of `asked` bytes where `left` bytes of body are left leaves the stream at the end of the
body, or no data, exactly if it does not stall and does not stop short of the end in the middle of
the data. -/
theorem drainBody_resynced_iff {asked left : ℕ} (hle : asked ≤ left) (socket : List Bytes) :
    (liveBytes (drainBody asked socket) = [] ∨
        (drainBody asked socket).flatten = socket.flatten.drop left) ↔
      ¬Stalls asked socket ∧ (asked = left ∨ (liveBytes socket).length ≤ asked) := by
  have hall := liveBytes_append_afterStall socket
  rcases lt_or_ge (liveBytes socket).length asked with hstall | henough
  · rw [drainBody_stalled hstall]
    -- a stalled drain has read less than the body, so it is in step only at the end of data
    have hiff : ((afterStall socket).flatten = socket.flatten.drop left) →
        liveBytes (afterStall socket) = [] := by
      intro heq
      rw [← hall, List.drop_append, List.drop_of_length_le (by omega), List.nil_append] at heq
      have hlen := congrArg List.length heq
      rw [List.length_drop] at hlen
      have hempty : (afterStall socket).flatten = [] :=
        List.length_eq_zero_iff.mp (by omega)
      rw [← liveBytes_append_afterStall] at hempty
      exact (List.append_eq_nil_iff.mp hempty).1
    constructor
    · intro h
      exact ⟨fun hs => hs.2 (h.elim id hiff), .inr hstall.le⟩
    · rintro ⟨hno, -⟩
      exact .inl (by_contra fun hne => hno ⟨hstall, hne⟩)
  · obtain ⟨hlive, hafter⟩ := drainBody_complete henough
    have hflat : (drainBody asked socket).flatten = socket.flatten.drop asked := by
      rw [← liveBytes_append_afterStall, hlive, hafter, ← hall, List.drop_append_of_le_length henough]
    rw [hlive, hflat, List.drop_eq_nil_iff]
    have hno : ¬Stalls asked socket := fun hs => absurd hs.1 (not_lt.mpr henough)
    constructor
    · rintro (h | h)
      · exact ⟨hno, .inr h⟩
      · refine ⟨hno, ?_⟩
        have hlen := congrArg List.length h
        rw [List.length_drop, List.length_drop, ← hall, List.length_append] at hlen
        omega
    · rintro ⟨-, rfl | h⟩
      · exact .inr rfl
      · exact .inl h

/-- **Exactly when draining keeps the connection in step.** A full buffer begins with a head whose
first mention of `Content-Length` is the name of the header that declares `n` bytes of body, and the
body does not fit. Whatever the calls of `recv` return, the oversize branch leaves the connection
open with an empty buffer, and either no data comes any more or the next byte is the first one after
the declared body, if and only if no call returns without data in the middle of the body with data
after it, and the length fits a `long` or no data comes behind the `LONG_MAX` bytes. -/
theorem oversizeDrain_resynced_iff (line name value : Bytes) (pre post : List Bytes) (n : ℕ)
    (hline : IsLine line) (hlines : AreHeadLines (pre ++ (name ++ 0x3a :: value) :: post))
    (hname : name.map toLower = (ascii "Content-Length").map toLower)
    (honly : ∀ l ∈ line :: pre, ¬OccursIn (ascii "Content-Length") l) (hdeclares : Declares value n)
    (head : Bytes) (hhead : head = crlfLines (line :: (pre ++ (name ++ 0x3a :: value) :: post)) ++ crlf)
    (c : RtspConn) (hopen : c.isOpen = true) (hsocket : c.socket ≠ []) (buffered : Bytes)
    (hrx : c.rx = head ++ buffered) (hfull : c.rx.length = raopRxCap)
    (hlarge : raopRxCap < head.length + n) :
    (c.receive.1.isOpen = true ∧
        Resynced (c.socket.flatten.drop (head.length + n - raopRxCap)) c.receive.1) ↔
      ¬Stalls (head.length + min n longMax - raopRxCap) c.socket ∧
        (n ≤ longMax ∨
          (liveBytes c.socket).length ≤ head.length + min n longMax - raopRxCap) := by
  obtain ⟨hplain, hread⟩ := hdeclares.read
  have hlen : raopRxCap = head.length + buffered.length := by
    rw [← hfull, hrx, List.length_append]
  have hterm : ∃ term, findTerm c.rx = some term ∧ term + 4 = head.length := by
    refine ⟨_, (by rw [hrx, hhead]; exact findTerm_crlfLines hline hlines buffered), ?_⟩
    rw [hhead]
    simp only [crlfLines_cons, crlf, List.length_append, List.length_cons, List.length_nil]
    omega
  obtain ⟨term, hterm, hhlen⟩ := hterm
  have hscan : hdrScanLong c.rx head.length (ascii "Content-Length") = (min n longMax : ℕ) := by
    have hown := hdrScanLong_own isHeaderKey_contentLength hname honly hplain post buffered
    rw [List.cons_append, hread] at hown
    rw [hrx, hhead]
    exact hown
  -- so the branch asks for what is left of the body, up to saturation
  have hpos : 0 < min n longMax := lt_min (by omega) (by unfold longMax; omega)
  have hafter : c.receive.1 = { c with
      rx := [], socket := drainBody (head.length + min n longMax - raopRxCap) c.socket } := by
    rw [RtspConn.receive, if_neg (by simp [hopen, hsocket]), if_pos hfull.ge, hterm]
    dsimp only
    have hasked : ((min n longMax : ℕ) - (raopRxCap - head.length : ℕ) : ℤ).toNat
        = head.length + min n longMax - raopRxCap := by omega
    rw [hhlen, hscan, if_pos (by exact_mod_cast hpos), hfull, hasked]
  have hasked : head.length + min n longMax - raopRxCap = head.length + n - raopRxCap ↔
      n ≤ longMax := by
    have hlong : raopRxCap ≤ longMax := by unfold raopRxCap longMax; omega
    omega
  have hless : head.length + min n longMax - raopRxCap ≤ head.length + n - raopRxCap := by omega
  have hdrain := drainBody_resynced_iff hless c.socket
  rw [hasked] at hdrain
  rw [hafter, Resynced, ← hdrain]
  simp [hopen]

/-- Artwork of 4000 bytes, whose last 2011 come in one piece, with the next request behind. -/
theorem oversizeDrain_resynced_iff_artwork :
    let c : RtspConn := ⟨true, fullBuffer [ascii "SET_PARAMETER * RTSP/1.0",
        ascii "Content-Length: 4000", ascii "CSeq: 7"],
      [List.replicate 2011 0x41, ascii "OPTIONS * RTSP/1.0\r\n\r\n"]⟩
    (c.receive.1.isOpen = true ∧
        Resynced (c.socket.flatten.drop (59 + 4000 - raopRxCap)) c.receive.1) ↔
      ¬Stalls (59 + min 4000 longMax - raopRxCap) c.socket ∧
        (4000 ≤ longMax ∨ (liveBytes c.socket).length ≤ 59 + min 4000 longMax - raopRxCap) :=
  oversizeDrain_resynced_iff (ascii "SET_PARAMETER * RTSP/1.0") (ascii "Content-Length")
    (ascii " 4000") [] [ascii "CSeq: 7"] 4000 (.of_not_mem (by decide)) (.of_not_mem (by decide))
    rfl (by decide)
    ⟨ascii " ", ascii "4000", [], rfl, by decide +kernel, by decide +kernel, by decide,
      by decide +kernel, by decide⟩ _ rfl _ rfl (List.cons_ne_nil _ _) _ rfl
    (by decide +kernel) (by decide)

/-- **A body is parsed as a request**: eleven bytes into the rest of the body the sender pauses for
longer than the receive timeout. The request is acknowledged, and when the sender goes on, what the
rest of the body spells is dispatched: here a `TEARDOWN`. -/
theorem oversizeDrain_parses_body :
    let c : RtspConn := ⟨true, fullBuffer [ascii "SET_PARAMETER * RTSP/1.0",
        ascii "Content-Length: 4000", ascii "CSeq: 7"],
      [List.replicate 11 0x41, [],
        ascii "TEARDOWN * RTSP/1.0\r\n\r\n" ++ List.replicate 1977 0x41]⟩
    (c.socket.flatten.length = 59 + 4000 - raopRxCap ∧ c.receive.1.isOpen = true ∧
        ¬Resynced (c.socket.flatten.drop (59 + 4000 - raopRxCap)) c.receive.1) ∧
      dispatched (c.run 2).2
        = [⟨ascii "TEARDOWN", ascii "*", ascii "RTSP/1.0", [], [], 23⟩] := by
  refine ⟨⟨by decide +kernel, by decide +kernel, ?_⟩, by decide +kernel⟩
  rw [Resynced]
  decide +kernel

end ConduitStream
