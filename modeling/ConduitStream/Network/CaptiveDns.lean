import ConduitStream.Foundations.ByteString
import ConduitStream.Foundations.CharArray
import ConduitStream.Foundations.CheckedMemory

/-! # The captive DNS responder (`wifi_provisioning.c`)

`dns_task` answers every query for one name with the address of the portal. The model reads the
received bytes and writes the response array through checked accesses: a read behind the received
bytes or a write behind the array would fail.

The walk over the labels stops at the zero byte of a well formed name, or at the end of the datagram
(`dnsLabels_eq_or`, `dnsLabels_name`); so the replies are exactly those to the well formed questions
(`dnsTask_replies`). -/

namespace ConduitStream

/-- `sizeof(query)`. -/
def dnsQuerySize : ℕ := 300

/-- `sizeof(response)`. -/
def dnsResponseSize : ℕ := 320

/-- The answer record of every reply. -/
def dnsAnswer : Bytes :=
  [0xc0, 0x0c, 0x00, 0x01, 0x00, 0x01, 0x00, 0x00, 0x00, 0x3c, 0x00, 0x04, 192, 168, 4, 1]

/-- The walk over the labels, from `questionEnd` on. -/
def dnsLabels (query : Bytes) (questionEnd : ℕ) : Option ℕ :=
  if questionEnd < query.length then do
    let labelLen ← query[questionEnd]?
    if labelLen = 0 then some questionEnd
    else if labelLen &&& 0xc0 ≠ 0 ∨ query.length ≤ questionEnd + labelLen.toNat + 1 then
      some query.length
    else dnsLabels query (questionEnd + labelLen.toNat + 1)
  else some questionEnd
termination_by query.length - questionEnd

/-- The reply to the question that ends before `questionEnd`: the array, and what is sent. -/
def dnsRespond (query response : Bytes) (questionEnd : ℕ) : Option (Bytes × Bytes) := do
  let question ← loadRange query 0 questionEnd
  let response ← storeRange response 0 question
  let flags ← query[2]?
  let response ← storeRange response 2 [0x80 ||| flags &&& 0x01]
  let response ← storeRange response 3 [0x80]
  -- `response[6]` to `response[11]`
  let response ← storeRange response 6 [0, 1, 0, 0, 0, 0]
  let response ← storeRange response questionEnd dnsAnswer
  let sent ← loadRange response 0 (questionEnd + dnsAnswer.length)
  return (response, sent)

/-- One turn of the loop on the received bytes: the array, and what is sent, if anything. -/
def dnsTurn (query response : Bytes) : Option (Bytes × Option Bytes) := do
  if query.length < 17 then return (response, none)
  let qdHigh ← query[4]?
  if qdHigh ≠ 0 then return (response, none)
  let qdLow ← query[5]?
  if qdLow ≠ 1 then return (response, none)
  let questionEnd ← dnsLabels query 12
  if query.length < questionEnd + 5 then return (response, none)
  if dnsResponseSize < questionEnd + 5 + 16 then return (response, none)
  let (response, sent) ← dnsRespond query response (questionEnd + 5)
  return (response, some sent)

/-- `dns_task` on a sequence of datagrams, of which `recvfrom` keeps what fits: the reply to each. -/
def dnsTask (response : Bytes) : List Bytes → Option (List (Option Bytes))
  | [] => some []
  | datagram :: datagrams => do
      let (response, reply) ← dnsTurn (datagram.take dnsQuerySize) response
      let replies ← dnsTask response datagrams
      return reply :: replies

/-! ## Well formed questions -/

/-- A name in uncompressed labels of 1 to 63 bytes, ended by a zero byte. -/
inductive IsDnsName : Bytes → Prop where
  | root : IsDnsName [0]
  | label {l rest : Bytes} (hpos : 0 < l.length) (hlen : l.length ≤ 63) (hrest : IsDnsName rest) :
      IsDnsName (UInt8.ofNat l.length :: (l ++ rest))

/-- A query with one question, which is a name and the four bytes of its type and class. -/
structure IsDnsQuery (query question : Bytes) : Prop where
  length_le : 17 ≤ query.length
  qdcount : (query.drop 4).take 2 = [0, 1]
  question : ∃ name fields rest, IsDnsName name ∧ fields.length = 4 ∧ question = name ++ fields ∧
    query.drop 12 = question ++ rest

/-- The reply to a question: the ID of the query, the flags with its RD bit, one question and one
answer, the question, and the answer record. -/
def dnsReply (query question : Bytes) : Bytes :=
  query.take 2 ++ [0x80 ||| query.getD 2 0 &&& 0x01, 0x80] ++ [0, 1, 0, 1, 0, 0, 0, 0] ++ question ++
    [0xc0, 0x0c, 0x00, 0x01, 0x00, 0x01, 0x00, 0x00, 0x00, 0x3c, 0x00, 0x04, 192, 168, 4, 1]

example : IsDnsName [2, 0x68, 0x69, 0] := .label (l := [0x68, 0x69]) (by decide) (by decide) .root

/-! ## The walk over the labels -/

/-- The two high bits of a length byte are clear exactly if it is at most 63. -/
theorem labelLen_le_iff (c : UInt8) : c &&& 0xc0 = 0 ↔ c.toNat ≤ 63 := by
  have hall : ∀ n : Fin 256, UInt8.ofNat n.val &&& 0xc0 = 0 ↔ (UInt8.ofNat n.val).toNat ≤ 63 := by
    decide +kernel
  have hc := hall ⟨c.toNat, c.toNat_lt⟩
  rwa [UInt8.ofNat_toNat] at hc

/-- A name has at least the byte that ends it. -/
theorem IsDnsName.length_pos {name : Bytes} (h : IsDnsName name) : 0 < name.length := by
  cases h with
  | root => exact Nat.one_pos
  | label => exact Nat.succ_pos _

/-- The walk stays inside the datagram; it ends there, or at the zero byte of a name. -/
theorem dnsLabels_eq_or (query : Bytes) {i : ℕ} (hi : i ≤ query.length) :
    dnsLabels query i = some query.length ∨
      ∃ name rest, IsDnsName name ∧ query.drop i = name ++ rest ∧
        dnsLabels query i = some (i + name.length - 1) := by
  -- by induction on what is left of the datagram
  induction hn : query.length - i using Nat.strong_induction_on generalizing i with
  | _ n ih =>
      subst hn
      rw [dnsLabels]
      by_cases hlt : i < query.length
      · have hdrop : query.drop i = query[i] :: query.drop (i + 1) := List.drop_eq_getElem_cons hlt
        rw [if_pos hlt, List.getElem?_eq_getElem hlt, Option.bind_eq_bind, Option.bind_some]
        by_cases hzero : query[i] = 0
        · rw [if_pos hzero]
          refine .inr ⟨[0], query.drop (i + 1), .root, ?_, rfl⟩
          rw [hdrop, hzero]
          rfl
        · rw [if_neg hzero]
          by_cases hstop : query[i] &&& 0xc0 ≠ 0 ∨ query.length ≤ i + query[i].toNat + 1
          · rw [if_pos hstop]
            exact .inl rfl
          · rw [if_neg hstop]
            obtain ⟨hhigh, hin⟩ := not_or.mp hstop
            have hlen := (labelLen_le_iff _).mp (not_not.mp hhigh)
            have hpos : 0 < query[i].toNat := by
              refine Nat.pos_of_ne_zero fun h => hzero ?_
              rw [← UInt8.toNat_inj, h]
              rfl
            rcases ih _ (by omega) (show i + query[i].toNat + 1 ≤ query.length by omega) rfl with
              hend | ⟨name, rest, hname, hrest, hwalk⟩
            · exact .inl hend
            · -- the label that was skipped, in front of the name found behind it
              have hl : ((query.drop (i + 1)).take query[i].toNat).length = query[i].toNat := by
                rw [List.length_take, List.length_drop]
                omega
              have hbehind : (query.drop (i + 1)).drop query[i].toNat = name ++ rest := by
                rw [List.drop_drop, ← hrest]
                congr 1
                omega
              have hsplit : query.drop (i + 1)
                  = (query.drop (i + 1)).take query[i].toNat ++ (name ++ rest) := by
                rw [← hbehind, List.take_append_drop]
              refine .inr ⟨_, rest, .label (l := (query.drop (i + 1)).take query[i].toNat) ?_ ?_ hname,
                ?_, ?_⟩
              · rw [hl]
                exact hpos
              · rw [hl]
                exact hlen
              · rw [hdrop, hl, UInt8.ofNat_toNat, List.cons_append, List.append_assoc, ← hsplit]
              · have := hname.length_pos
                rw [hwalk, List.length_cons, List.length_append, hl]
                congr 1
                omega
      · rw [if_neg hlt]
        exact .inl (congrArg some (by omega))

/-- The walk over a name ends at its zero byte. -/
theorem dnsLabels_name {query name rest : Bytes} {i : ℕ} (hname : IsDnsName name)
    (h : query.drop i = name ++ rest) : dnsLabels query i = some (i + name.length - 1) := by
  induction hname generalizing i with
  | root =>
      have hi : query[i]? = some 0 := by
        have := congrArg (·[0]?) h
        simpa using this
      have hlt : i < query.length := (List.getElem?_eq_some_iff.mp hi).1
      rw [dnsLabels, if_pos hlt, hi]
      rfl
  | @label l rest' hpos hlen hrest ih =>
      -- neither stop of the loop applies: the zero byte of the name lies behind the label
      have hi : query[i]? = some (UInt8.ofNat l.length) := by
        have := congrArg (·[0]?) h
        simpa using this
      have hlt : i < query.length := (List.getElem?_eq_some_iff.mp hi).1
      have hval : (UInt8.ofNat l.length).toNat = l.length :=
        UInt8.toNat_ofNat_of_lt (Nat.lt_of_le_of_lt hlen (by decide))
      have hzero : UInt8.ofNat l.length ≠ 0 := by
        intro h0
        rw [h0] at hval
        exact absurd hval (Nat.ne_of_lt hpos)
      have hlength := congrArg List.length h
      rw [List.length_drop, List.length_append, List.length_cons, List.length_append] at hlength
      have hrestpos := hrest.length_pos
      have hgo : ¬(UInt8.ofNat l.length &&& 0xc0 ≠ 0 ∨
          query.length ≤ i + (UInt8.ofNat l.length).toNat + 1) := by
        rw [not_or, not_not, labelLen_le_iff, hval]
        exact ⟨hlen, by omega⟩
      have hdrop : query.drop (i + l.length + 1) = rest' ++ rest := by
        rw [show i + l.length + 1 = i + (l.length + 1) by omega, ← List.drop_drop, h,
          List.cons_append, List.drop_succ_cons, List.append_assoc, List.drop_left]
      rw [dnsLabels, if_pos hlt, hi, Option.bind_eq_bind, Option.bind_some, if_neg hzero,
        if_neg hgo, hval, ih hdrop, List.length_cons, List.length_append]
      congr 1
      omega

/-! ## The reply -/

/-- The header of the query is patched, the question stays, and the answer follows it. -/
theorem dnsRespond_eq {header question rest response : Bytes} (hheader : header.length = 12)
    (hqd : (header.drop 4).take 2 = [0, 1]) (hresponse : response.length = dnsResponseSize)
    (hfits : 12 + question.length + 16 ≤ dnsResponseSize) :
    ∃ response', response'.length = dnsResponseSize ∧
      dnsRespond (header ++ (question ++ rest)) response (12 + question.length)
        = some (response', dnsReply (header ++ (question ++ rest)) question) := by
  match header, hheader with
  | [b0, b1, b2, b3, b4, b5, b6, b7, b8, b9, b10, b11], _ =>
      obtain ⟨rfl, rfl⟩ : b4 = 0 ∧ b5 = 1 := by simpa using hqd
      -- the array is the copied query, the place of the answer, and what is left as it was
      obtain ⟨copied, place, tail, rfl, hcopied, hplace⟩ : ∃ copied place tail : Bytes,
          response = copied ++ (place ++ tail) ∧ copied.length = 12 + question.length ∧
            place.length = 16 := by
        refine ⟨response.take (12 + question.length), (response.drop (12 + question.length)).take 16,
          (response.drop (12 + question.length)).drop 16, ?_, ?_, ?_⟩
        · rw [List.take_append_drop, List.take_append_drop]
        · rw [List.length_take]
          omega
        · rw [List.length_take, List.length_drop]
          omega
      have hload : loadRange ([b0, b1, b2, b3, 0, 1, b6, b7, b8, b9, b10, b11] ++ (question ++ rest)) 0
          (12 + question.length)
            = some ([b0, b1, b2, b3, 0, 1, b6, b7, b8, b9, b10, b11] ++ question) := by
        have h := loadRange_front ([b0, b1, b2, b3, 0, 1, b6, b7, b8, b9, b10, b11] ++ question) rest
        rwa [List.append_assoc, List.length_append] at h
      have hcopy : storeRange (copied ++ (place ++ tail)) 0
          ([b0, b1, b2, b3, 0, 1, b6, b7, b8, b9, b10, b11] ++ question)
            = some ([b0, b1, b2, b3, 0, 1, b6, b7, b8, b9, b10, b11] ++ (question ++ (place ++ tail))) := by
        have h := @storeRange_append _ [] (place ++ tail) copied
          ([b0, b1, b2, b3, 0, 1, b6, b7, b8, b9, b10, b11] ++ question)
          (by rw [hcopied, List.length_append]; rfl)
        rw [List.append_assoc] at h
        exact h
      have hflags : storeRange ([b0, b1, b2, b3, 0, 1, b6, b7, b8, b9, b10, b11] ++
          (question ++ (place ++ tail))) 2 [0x80 ||| b2 &&& 0x01]
            = some ([b0, b1, 0x80 ||| b2 &&& 0x01, b3, 0, 1, b6, b7, b8, b9, b10, b11] ++
              (question ++ (place ++ tail))) :=
        @storeRange_append _ [b0, b1]
          ([b3, 0, 1, b6, b7, b8, b9, b10, b11] ++ (question ++ (place ++ tail))) [b2] _ rfl
      have hflags' : storeRange ([b0, b1, 0x80 ||| b2 &&& 0x01, b3, 0, 1, b6, b7, b8, b9, b10, b11] ++
          (question ++ (place ++ tail))) 3 [0x80]
            = some ([b0, b1, 0x80 ||| b2 &&& 0x01, 0x80, 0, 1, b6, b7, b8, b9, b10, b11] ++
              (question ++ (place ++ tail))) :=
        @storeRange_append _ [b0, b1, 0x80 ||| b2 &&& 0x01]
          ([0, 1, b6, b7, b8, b9, b10, b11] ++ (question ++ (place ++ tail))) [b3] _ rfl
      have hcounts : storeRange ([b0, b1, 0x80 ||| b2 &&& 0x01, 0x80, 0, 1, b6, b7, b8, b9, b10, b11] ++
          (question ++ (place ++ tail))) 6 [0, 1, 0, 0, 0, 0]
            = some ([b0, b1, 0x80 ||| b2 &&& 0x01, 0x80, 0, 1, 0, 1, 0, 0, 0, 0] ++
              (question ++ (place ++ tail))) :=
        @storeRange_append _ [b0, b1, 0x80 ||| b2 &&& 0x01, 0x80, 0, 1] (question ++ (place ++ tail))
          [b6, b7, b8, b9, b10, b11] _ rfl
      have hanswer : storeRange ([b0, b1, 0x80 ||| b2 &&& 0x01, 0x80, 0, 1, 0, 1, 0, 0, 0, 0] ++
          (question ++ (place ++ tail))) (12 + question.length) dnsAnswer
            = some ([b0, b1, 0x80 ||| b2 &&& 0x01, 0x80, 0, 1, 0, 1, 0, 0, 0, 0] ++ question ++
              (dnsAnswer ++ tail)) := by
        have h := @storeRange_append _
          ([b0, b1, 0x80 ||| b2 &&& 0x01, 0x80, 0, 1, 0, 1, 0, 0, 0, 0] ++ question) tail place dnsAnswer
          hplace.symm
        rwa [List.append_assoc, List.length_append] at h
      have hsent : loadRange ([b0, b1, 0x80 ||| b2 &&& 0x01, 0x80, 0, 1, 0, 1, 0, 0, 0, 0] ++ question ++
          (dnsAnswer ++ tail)) 0 (12 + question.length + dnsAnswer.length)
            = some ([b0, b1, 0x80 ||| b2 &&& 0x01, 0x80, 0, 1, 0, 1, 0, 0, 0, 0] ++ question ++
              dnsAnswer) := by
        have h := loadRange_front
          ([b0, b1, 0x80 ||| b2 &&& 0x01, 0x80, 0, 1, 0, 1, 0, 0, 0, 0] ++ question ++ dnsAnswer) tail
        rwa [List.append_assoc, List.length_append, List.length_append] at h
      refine ⟨[b0, b1, 0x80 ||| b2 &&& 0x01, 0x80, 0, 1, 0, 1, 0, 0, 0, 0] ++ question ++
        (dnsAnswer ++ tail), ?_, ?_⟩
      · simp only [List.length_append, List.length_cons, List.length_nil] at hresponse ⊢
        rw [show dnsAnswer.length = 16 from rfl]
        omega
      · have hrd : ([b0, b1, b2, b3, 0, 1, b6, b7, b8, b9, b10, b11] ++ (question ++ rest))[2]?
            = some b2 := rfl
        simp only [dnsRespond, hload, hcopy, hrd, hflags, hflags', hcounts, hanswer, hsent,
          Option.bind_eq_bind, Option.bind_some, Option.pure_def]
        rfl

/-- The two bytes the task looks at are those of QDCOUNT, so that they ask for one question. -/
theorem qdcount_iff {query : Bytes} (h : 17 ≤ query.length) :
    (query.drop 4).take 2 = [0, 1] ↔ query[4]? = some 0 ∧ query[5]? = some 1 := by
  have h4 : query.drop 4 = query[4] :: query[5] :: query.drop 6 := by
    rw [List.drop_eq_getElem_cons (by omega), List.drop_eq_getElem_cons (by omega)]
  rw [h4, List.getElem?_eq_getElem (show 4 < query.length by omega),
    List.getElem?_eq_getElem (show 5 < query.length by omega)]
  simp only [List.take_succ_cons, List.take_zero, List.cons.injEq, and_true, Option.some.injEq]

/-- The walk over a query ends five bytes in front of the end of its question. -/
theorem IsDnsQuery.labels {query question : Bytes} (h : IsDnsQuery query question) :
    dnsLabels query 12 = some (12 + question.length - 5) ∧ 5 ≤ question.length ∧
      12 + question.length ≤ query.length ∧ (query.drop 12).take question.length = question := by
  obtain ⟨name, fields, rest, hname, hfields, rfl, hdrop⟩ := h.question
  have hwalk := dnsLabels_name hname (hdrop.trans (List.append_assoc ..))
  have hpos := hname.length_pos
  have hlen := congrArg List.length hdrop
  rw [List.length_drop, List.length_append, List.length_append, hfields] at hlen
  rw [hdrop, List.take_left, List.length_append, hfields, hwalk]
  exact ⟨congrArg some (by omega), by omega, by omega, rfl⟩

/-- A query has one question only. -/
theorem IsDnsQuery.unique {query question question' : Bytes} (h : IsDnsQuery query question)
    (h' : IsDnsQuery query question') : question' = question := by
  obtain ⟨hwalk, hpos, -, htake⟩ := h.labels
  obtain ⟨hwalk', hpos', -, htake'⟩ := h'.labels
  have hsame := Option.some.inj (hwalk.symm.trans hwalk')
  have hlen : question.length = question'.length := by omega
  rw [← htake, ← htake', hlen]

/-- A datagram that is a query is answered, with the reply that belongs to it. -/
theorem dnsTurn_of_query {query question response : Bytes} (hquery : query.length ≤ dnsQuerySize)
    (hresponse : response.length = dnsResponseSize) (h : IsDnsQuery query question) :
    ∃ response', response'.length = dnsResponseSize ∧
      dnsTurn query response = some (response', some (dnsReply query question)) := by
  have hlen := h.length_le
  obtain ⟨hwalk, hpos, hle, htake⟩ := h.labels
  obtain ⟨hhigh, hlow⟩ := (qdcount_iff hlen).mp h.qdcount
  have hsplit : query.take 12 ++ (question ++ (query.drop 12).drop question.length) = query := by
    conv_lhs => rw [← htake]
    rw [List.length_take, List.length_drop, min_eq_left (by omega), List.take_append_drop,
      List.take_append_drop]
  have hheader : ((query.take 12).drop 4).take 2 = [0, 1] := by
    rw [List.drop_take, List.take_take]
    exact h.qdcount
  have hroom : 12 + question.length + 16 ≤ dnsResponseSize := by
    unfold dnsQuerySize at hquery
    unfold dnsResponseSize
    omega
  obtain ⟨response', hresponse', hrespond⟩ :=
    @dnsRespond_eq (query.take 12) question ((query.drop 12).drop question.length) response
      (by rw [List.length_take]; omega) hheader hresponse hroom
  rw [hsplit] at hrespond
  refine ⟨response', hresponse', ?_⟩
  -- the walk ends at the zero byte; type and class are counted as part of the question
  have hend : 12 + question.length - 5 + 5 = 12 + question.length := by omega
  rw [dnsTurn, if_neg (by omega), hhigh, hlow, hwalk]
  simp only [Option.bind_eq_bind, Option.bind_some, ne_eq, not_true_eq_false, if_false, hend]
  rw [if_neg (by omega), if_neg (by omega), hrespond]
  rfl

/-- Any other datagram has no reply: one of the checks fails. -/
theorem dnsTurn_of_not_query {query : Bytes} (response : Bytes)
    (h : ∀ question, ¬IsDnsQuery query question) :
    dnsTurn query response = some (response, none) := by
  rw [dnsTurn]
  by_cases hlen : query.length < 17
  · rw [if_pos hlen]
    rfl
  · have h4 := List.getElem?_eq_getElem (show 4 < query.length by omega)
    have h5 := List.getElem?_eq_getElem (show 5 < query.length by omega)
    have hqd := @qdcount_iff query (by omega)
    rw [h4, h5, Option.some.injEq, Option.some.injEq] at hqd
    rw [if_neg hlen, h4, h5]
    simp only [Option.bind_eq_bind, Option.bind_some]
    by_cases hhigh : query[4] = 0
    · by_cases hlow : query[5] = 1
      · rw [if_neg (not_not.mpr hhigh), if_neg (not_not.mpr hlow)]
        rcases dnsLabels_eq_or query (show 12 ≤ query.length by omega) with
          hend | ⟨name, rest, hname, hdrop, hwalk⟩
        · -- no name ends inside the datagram
          rw [hend, Option.bind_some, if_pos (by omega)]
          rfl
        · have hpos := hname.length_pos
          have hparts := congrArg List.length hdrop
          rw [List.length_drop, List.length_append] at hparts
          by_cases hshort : query.length < 12 + name.length - 1 + 5
          · -- fewer than four bytes follow the name
            rw [hwalk, Option.bind_some, if_pos hshort]
            rfl
          · -- all checks pass, so it is a query
            have hfields : (rest.take 4).length = 4 := by
              rw [List.length_take]
              omega
            have hquestion : query.drop 12 = name ++ rest.take 4 ++ rest.drop 4 := by
              rw [List.append_assoc, List.take_append_drop, hdrop]
            exact absurd ⟨by omega, hqd.mpr ⟨hhigh, hlow⟩, name, rest.take 4, rest.drop 4, hname,
              hfields, rfl, hquestion⟩ (h (name ++ rest.take 4))
      · rw [if_neg (not_not.mpr hhigh), if_pos hlow]
        rfl
    · rw [if_pos hhigh]
      rfl

/-- What is sent for a received datagram: the reply to its question, if it is a query. -/
def Answers (query : Bytes) (reply : Option Bytes) : Prop :=
  (reply.isSome = true ↔ ∃ question, IsDnsQuery query question) ∧
    ∀ question, IsDnsQuery query question → reply = some (dnsReply query question)

/-- **One turn of the loop** answers the datagram, inside both buffers. -/
theorem dnsTurn_answers {query response : Bytes} (hquery : query.length ≤ dnsQuerySize)
    (hresponse : response.length = dnsResponseSize) :
    ∃ response' reply, dnsTurn query response = some (response', reply) ∧
      response'.length = dnsResponseSize ∧ Answers query reply := by
  by_cases hq : ∃ question, IsDnsQuery query question
  · obtain ⟨question, hq⟩ := hq
    obtain ⟨response', hresponse', hturn⟩ := dnsTurn_of_query hquery hresponse hq
    exact ⟨response', _, hturn, hresponse', iff_of_true rfl ⟨question, hq⟩, fun question' hq' => by
      rw [hq.unique hq']⟩
  · refine ⟨response, none, dnsTurn_of_not_query response fun question h => hq ⟨question, h⟩,
      hresponse, iff_of_false Bool.false_ne_true hq, fun question h => absurd ⟨question, h⟩ hq⟩

/-- **The captive DNS responder.** For every sequence of datagrams, whatever the response array holds
at first: the label walks end, no byte behind the received ones is read and none behind the array is
written (either would fail), and each datagram has its answer: a reply if and only if it is a query
of at least 17 bytes with QDCOUNT 1 and, from offset 12 on, a name in uncompressed labels with at
least four bytes behind it; and the reply is the one to this question. -/
theorem dnsTask_replies (response : CharArray dnsResponseSize) (datagrams : List Bytes) :
    ∃ replies, dnsTask response.bytes datagrams = some replies ∧
      List.Forall₂ (fun datagram reply => Answers (datagram.take dnsQuerySize) reply)
        datagrams replies := by
  obtain ⟨response, hresponse⟩ := response
  dsimp only
  induction datagrams generalizing response with
  | nil => exact ⟨[], rfl, .nil⟩
  | cons datagram datagrams ih =>
      obtain ⟨response', reply, hturn, hresponse', hanswer⟩ :=
        dnsTurn_answers (List.length_take_le dnsQuerySize datagram) hresponse
      obtain ⟨replies, htask, hanswers⟩ := ih response' hresponse'
      refine ⟨reply :: replies, ?_, .cons hanswer hanswers⟩
      rw [dnsTask, hturn, Option.bind_eq_bind, Option.bind_some]
      dsimp only
      rw [htask]
      rfl

end ConduitStream
