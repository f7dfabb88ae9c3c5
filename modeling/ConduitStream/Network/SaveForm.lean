import ConduitStream.Network.UrlDecode

/-! # The setup form (`save_post_handler` in `wifi_provisioning.c`)

The form comes in as `ssid=..&manual=..&pass=..`, in pieces of any size. Each field fits into the
buffers however it is encoded; the body as a whole need not: `savePost_calls_iff` says that the
credentials entered are saved exactly if the body has at most `FORM_BODY_MAX` bytes. -/

namespace ConduitStream

/-! ## Reading parameters -/

/-- `name=value` pairs joined by `&`. -/
def formQuery : List (Bytes × Bytes) → Bytes
  | [] => []
  | [(name, value)] => name ++ 0x3d :: value
  | (name, value) :: params => name ++ 0x3d :: (value ++ 0x26 :: formQuery params)

/-- A pair that can be told from the others: no `=` in the name, no `&` in either, no NUL. -/
def IsFormParam (p : Bytes × Bytes) : Prop :=
  0x3d ∉ p.1 ∧ 0x26 ∉ p.1 ∧ 0 ∉ p.1 ∧ 0x26 ∉ p.2 ∧ 0 ∉ p.2

/-- What the handler relies on in `httpd_query_key_value`: the value of the first pair with the given
name, as it stands, if it fits into `size` bytes with a NUL, else an error. -/
structure IsQueryKeyValue (query : Bytes → Bytes → ℕ → Option Bytes) : Prop where
  value : ∀ (before : List (Bytes × Bytes)) (key value : Bytes) (after : List (Bytes × Bytes))
    (size : ℕ), (∀ p ∈ before ++ (key, value) :: after, IsFormParam p) →
    (∀ p ∈ before, strcasecmpEq p.1 key = false) →
    query (formQuery (before ++ (key, value) :: after)) key size
      = if value.length < size then some value else none

/-- `form_value`, as the string in the buffer. -/
def formValue (query : Bytes → Bytes → ℕ → Option Bytes) (body key : Bytes) (outSize : ℕ) :
    Option Bytes :=
  match query body key 192 with
  | none => none
  | some encoded => (urlDecode encoded outSize).map cstr

/-! ## The handler -/

/-- `FORM_BODY_MAX`. -/
def formBodyMax : ℕ := 384

/-- The loop over `httpd_req_recv`, which delivers up to as many bytes as are asked for, or none if
the connection is lost. -/
def receiveBody (contentLen : ℕ) (received : Bytes) : List Bytes → Option Bytes
  | [] => if received.length < contentLen then none else some received
  | chunk :: chunks =>
    if received.length < contentLen then
      let result := chunk.take (contentLen - received.length)
      if result = [] then none else receiveBody contentLen (received ++ result) chunks
    else some received

/-- How the request is answered. -/
inductive SaveReply
  /-- Not at all: the handler returns `ESP_FAIL`. -/
  | espFail
  | badRequest (message : Bytes)
  /-- `500`, `Could not save settings.` -/
  | serverError
  /-- The page that says so; the device restarts. -/
  | saved
  deriving DecidableEq

/-- What the handler does: its answer, the arguments with which it has called
`system_config_save_wifi`, and the device afterwards. -/
structure SavePost where
  reply : SaveReply
  saveWifi : Option (Bytes × Bytes)
  device : Device

/-- An answer without a call. -/
def SavePost.refuse (reply : SaveReply) (d : Device) : SavePost := ⟨reply, none, d⟩

/-- `save_post_handler` once the three fields are decoded. -/
def saveFields (selected manual password : Bytes) (o : SaveOutcome) (d : Device) : SavePost :=
  let ssid := if manual ≠ [] then manual else selected
  if ssid = [] then .refuse (.badRequest (ascii "Choose or enter a Wi-Fi network.")) d
  else if 0 < password.length ∧ password.length < 8 then
    .refuse (.badRequest (ascii "Wi-Fi passwords must be empty or at least 8 characters.")) d
  else
    let r := systemConfigSaveWifi o ssid password d
    ⟨if r.1 ≠ .espOk then .serverError else .saved, some (ssid, password), r.2⟩

/-- `save_post_handler`. -/
def savePostHandler (query : Bytes → Bytes → ℕ → Option Bytes) (contentLen : ℕ)
    (chunks : List Bytes) (o : SaveOutcome) (d : Device) : SavePost :=
  if contentLen = 0 ∨ contentLen > formBodyMax then
    .refuse (.badRequest (ascii "Invalid form data.")) d
  else
    match receiveBody contentLen [] chunks with
    | none => .refuse .espFail d
    | some body =>
      let body := cstr body
      match formValue query body (ascii "ssid") 33, formValue query body (ascii "manual") 33,
        formValue query body (ascii "pass") 64 with
      | some selected, some manual, some password => saveFields selected manual password o d
      | _, _, _ => .refuse (.badRequest (ascii "Invalid encoded form data.")) d

/-! ## What is received -/

/-- **The body is received whole, however it is split.** -/
theorem receiveBody_flatten {received : Bytes} {chunks : List Bytes}
    (hne : ∀ chunk ∈ chunks, chunk ≠ []) :
    receiveBody (received ++ chunks.flatten).length received chunks
      = some (received ++ chunks.flatten) := by
  induction chunks generalizing received with
  | nil => simp [receiveBody]
  | cons chunk chunks ih =>
      have hchunk := hne chunk List.mem_cons_self
      have hpos := List.length_pos_iff.mpr hchunk
      have hrest : receiveBody (received ++ chunk ++ chunks.flatten).length (received ++ chunk) chunks
          = some (received ++ chunk ++ chunks.flatten) :=
        ih fun c hc => hne c (List.mem_cons_of_mem _ hc)
      rw [List.append_assoc] at hrest
      have hlen : (received ++ (chunk ++ chunks.flatten)).length
          = received.length + (chunk.length + chunks.flatten.length) := by
        rw [List.length_append, List.length_append]
      have hmore : received.length < (received ++ (chunk ++ chunks.flatten)).length := by omega
      have htake : chunk.take ((received ++ (chunk ++ chunks.flatten)).length - received.length)
          = chunk := List.take_of_length_le (by omega)
      rw [List.flatten_cons, receiveBody, if_pos hmore, htake, if_neg hchunk, hrest]

/-- The query of a form is a string without a NUL. -/
theorem zero_notMem_formQuery {params : List (Bytes × Bytes)} (h : ∀ p ∈ params, IsFormParam p) :
    0 ∉ formQuery params := by
  fun_induction formQuery params with
  | case1 => exact List.not_mem_nil
  | case2 name value =>
      obtain ⟨-, -, hname, -, hvalue⟩ := h _ List.mem_cons_self
      simp only [List.mem_append, List.mem_cons, hname, hvalue]
      decide
  | case3 name value params hne ih =>
      obtain ⟨-, -, hname, -, hvalue⟩ := h _ List.mem_cons_self
      have hparams := ih fun p hp => h p (List.mem_cons_of_mem _ hp)
      simp only [List.mem_append, List.mem_cons, hname, hvalue, hparams]
      decide

/-! ## What is saved -/

/-- The three fields of the form with their encodings. -/
def formParams (selected manual password : Bytes) : List (Bytes × Bytes) :=
  [(ascii "ssid", selected), (ascii "manual", manual), (ascii "pass", password)]

variable {query : Bytes → Bytes → ℕ → Option Bytes}

/-- A field that fits is read as what was entered. -/
theorem formValue_of_spells {s w : Bytes} (h : UrlEncodes s w) (hs : 0 ∉ s) {outSize : ℕ}
    (hlen : s.length < outSize) (hsize : outSize ≤ 64) {body key : Bytes}
    (hquery : query body key 192 = if w.length < 192 then some w else none) :
    formValue query body key outSize = some s := by
  have hw : w.length < 192 := by
    have hmul := h.length_le_mul fun c word hword => UrlWord.length_le hword
    omega
  unfold formValue
  rw [hquery, if_pos hw]
  dsimp only
  rw [urlDecode_of_spells h hlen, Option.map_some, cstr_eq_self hs]

/-- The pairs of the form can be told apart. -/
theorem isFormParam_formParams {selected manual password wsel wman wpass : Bytes}
    (hwsel : UrlEncodes selected wsel) (hwman : UrlEncodes manual wman)
    (hwpass : UrlEncodes password wpass) : ∀ p ∈ formParams wsel wman wpass, IsFormParam p := by
  have hfixed : ∀ name ∈ [ascii "ssid", ascii "manual", ascii "pass"],
      0x3d ∉ name ∧ 0x26 ∉ name ∧ 0 ∉ name := by decide
  intro p hp
  simp only [formParams, List.mem_cons, List.not_mem_nil, or_false] at hp
  have hw : 0x26 ∉ p.2 ∧ 0 ∉ p.2 := by
    rcases hp with rfl | rfl | rfl
    · exact (urlEncodes_plain hwsel).symm
    · exact (urlEncodes_plain hwman).symm
    · exact (urlEncodes_plain hwpass).symm
  obtain ⟨heq, hamp, hnul⟩ := hfixed p.1 (by rcases hp with rfl | rfl | rfl <;> simp)
  exact ⟨heq, hamp, hnul, hw⟩

/-- Fields that are not refused are saved. -/
theorem saveFields_saveWifi {selected manual password : Bytes} (hsome : selected ≠ [] ∨ manual ≠ [])
    (hshort : password = [] ∨ 8 ≤ password.length) (o : SaveOutcome) (d : Device) :
    (saveFields selected manual password o d).saveWifi
      = some (if manual ≠ [] then manual else selected, password) := by
  have hssid : ¬(if manual ≠ [] then manual else selected) = [] := by
    split
    · next h => exact h
    · next h => exact hsome.resolve_right h
  have hlong : ¬(0 < password.length ∧ password.length < 8) := by
    rcases hshort with rfl | h
    · simp
    · omega
  unfold saveFields
  dsimp only
  rw [if_neg hssid, if_neg hlong]

/-- **The form saves what was entered exactly if its body has at most 384 bytes**: however the fields
are encoded and the body is split. -/
theorem savePost_calls_iff (hquery : IsQueryKeyValue query) {selected manual password : Bytes}
    (hselected : selected.length ≤ 32) (hmanual : manual.length ≤ 32)
    (hpassword : password.length ≤ 63) (hsome : selected ≠ [] ∨ manual ≠ [])
    (hshort : password = [] ∨ 8 ≤ password.length)
    (hzero : 0 ∉ selected ∧ 0 ∉ manual ∧ 0 ∉ password) {wsel wman wpass : Bytes}
    (hwsel : UrlEncodes selected wsel) (hwman : UrlEncodes manual wman)
    (hwpass : UrlEncodes password wpass) {chunks : List Bytes}
    (hchunks : ∀ chunk ∈ chunks, chunk ≠ [])
    (hbody : chunks.flatten = formQuery (formParams wsel wman wpass)) (o : SaveOutcome)
    (d : Device) :
    (savePostHandler query (formQuery (formParams wsel wman wpass)).length chunks o d).saveWifi
        = some (if manual ≠ [] then manual else selected, password) ↔
      (formQuery (formParams wsel wman wpass)).length ≤ 384 := by
  have hparams := isFormParam_formParams hwsel hwman hwpass
  have hpos : (formQuery (formParams wsel wman wpass)).length ≠ 0 := by
    simp [formParams, formQuery]
  -- each field is found behind those that come before it
  have hdistinct : strcasecmpEq (ascii "ssid") (ascii "manual") = false ∧
      strcasecmpEq (ascii "ssid") (ascii "pass") = false ∧
      strcasecmpEq (ascii "manual") (ascii "pass") = false := by decide
  have hsel : formValue query (formQuery (formParams wsel wman wpass)) (ascii "ssid") 33
      = some selected :=
    formValue_of_spells hwsel hzero.1 (by omega) (by decide)
      (hquery.value [] _ wsel [(ascii "manual", wman), (ascii "pass", wpass)] 192 hparams nofun)
  have hman : formValue query (formQuery (formParams wsel wman wpass)) (ascii "manual") 33
      = some manual := by
    refine formValue_of_spells hwman hzero.2.1 (by omega) (by decide)
      (hquery.value [(ascii "ssid", wsel)] _ wman [(ascii "pass", wpass)] 192 hparams ?_)
    intro p hp
    cases List.mem_singleton.mp hp
    exact hdistinct.1
  have hpass : formValue query (formQuery (formParams wsel wman wpass)) (ascii "pass") 64
      = some password := by
    refine formValue_of_spells hwpass hzero.2.2 (by omega) (by decide)
      (hquery.value [(ascii "ssid", wsel), (ascii "manual", wman)] _ wpass [] 192 hparams ?_)
    intro p hp
    simp only [List.mem_cons, List.not_mem_nil, or_false] at hp
    rcases hp with rfl | rfl
    · exact hdistinct.2.1
    · exact hdistinct.2.2
  have hrecv : receiveBody ([] ++ chunks.flatten).length [] chunks = some ([] ++ chunks.flatten) :=
    receiveBody_flatten hchunks
  rw [List.nil_append, hbody] at hrecv
  unfold savePostHandler
  by_cases hmax : (formQuery (formParams wsel wman wpass)).length ≤ 384
  · have hgo : ¬((formQuery (formParams wsel wman wpass)).length = 0 ∨
        (formQuery (formParams wsel wman wpass)).length > formBodyMax) := by
      unfold formBodyMax
      omega
    rw [if_neg hgo, hrecv]
    dsimp only
    rw [cstr_eq_self (zero_notMem_formQuery hparams), hsel, hman, hpass]
    exact iff_of_true (saveFields_saveWifi hsome hshort o d) hmax
  · have hstop : (formQuery (formParams wsel wman wpass)).length = 0 ∨
        (formQuery (formParams wsel wman wpass)).length > formBodyMax := by
      unfold formBodyMax
      omega
    rw [if_pos hstop]
    exact iff_of_false nofun hmax

/-! ### Sample forms -/

/-- A reader of parameters: the first `=` ends a name, the next `&` its value. -/
def queryKeyValue (body key : Bytes) (size : ℕ) : Option Bytes :=
  match _h : memchr body 0x3d with
  | none => none
  | some offset =>
    let value := body.drop (offset + 1)
    if strcasecmpEq (body.take offset) key = true then
      if (value.takeWhile (· ≠ 0x26)).length < size then some (value.takeWhile (· ≠ 0x26)) else none
    else
      match memchr value 0x26 with
      | none => none
      | some n => queryKeyValue (value.drop (n + 1)) key size
termination_by body.length
decreasing_by
  have hpos : body ≠ [] := by
    rintro rfl
    cases _h
  have hlen := List.length_pos_iff.mpr hpos
  simp only [List.length_drop]
  omega

/-- One pair is read, or left behind. -/
theorem queryKeyValue_append {name t key : Bytes} (hname : 0x3d ∉ name) (size : ℕ) :
    queryKeyValue (name ++ 0x3d :: t) key size =
      if strcasecmpEq name key = true then
        if (t.takeWhile (· ≠ 0x26)).length < size then some (t.takeWhile (· ≠ 0x26)) else none
      else
        match memchr t 0x26 with
        | none => none
        | some n => queryKeyValue (t.drop (n + 1)) key size := by
  have hdrop : (name ++ 0x3d :: t).drop (name.length + 1) = t := by
    rw [List.drop_length_add_append]
    rfl
  rw [queryKeyValue]
  split
  · next hnone => cases hnone.symm.trans (memchr_append_cons hname)
  · next offset hoffset =>
      cases hoffset.symm.trans (memchr_append_cons hname)
      simp only [hdrop, List.take_left]

/-- It does what the handler relies on. -/
theorem isQueryKeyValue_queryKeyValue : IsQueryKeyValue queryKeyValue where
  value := by
    intro before key value after size hparams hbefore
    induction before with
    | nil =>
        obtain ⟨hkey, -, -, hamp, -⟩ := hparams _ List.mem_cons_self
        have htake : ∀ rest : Bytes, rest.head? = none ∨ rest.head? = some 0x26 →
            (value ++ rest).takeWhile (· ≠ 0x26) = value := by
          intro rest hrest
          have hall : ∀ b ∈ value, decide (b ≠ 0x26) = true := by
            intro b hb
            have hne : b ≠ 0x26 := fun h => hamp (h ▸ hb)
            simpa using hne
          rw [List.takeWhile_append_of_pos hall]
          cases rest with
          | nil => simp
          | cons b rest =>
              have hb : b = 0x26 := by simpa using hrest
              rw [List.takeWhile_cons_of_neg (by simp [hb]), List.append_nil]
        have hsame : strcasecmpEq key key = true := decide_eq_true rfl
        have hread : ∀ rest : Bytes, rest.head? = none ∨ rest.head? = some 0x26 →
            queryKeyValue (key ++ 0x3d :: (value ++ rest)) key size
              = if value.length < size then some value else none := by
          intro rest hrest
          rw [queryKeyValue_append hkey, if_pos hsame, htake rest hrest]
        cases after with
        | nil =>
            have hlast := hread [] (.inl rfl)
            rw [List.append_nil] at hlast
            exact hlast
        | cons p after => exact hread (0x26 :: formQuery (p :: after)) (.inr rfl)
    | cons p before ih =>
        obtain ⟨hname, -, -, hamp, -⟩ := hparams p List.mem_cons_self
        have hother := hbefore p List.mem_cons_self
        have hrest := ih (fun q hq => hparams q (List.mem_cons_of_mem _ hq))
          fun q hq => hbefore q (List.mem_cons_of_mem _ hq)
        -- behind the first pair there is at least the one looked for
        have hform : formQuery (p :: before ++ (key, value) :: after)
            = p.1 ++ 0x3d :: (p.2 ++ 0x26 :: formQuery (before ++ (key, value) :: after)) := by
          cases before <;> rfl
        have hdrop : (p.2 ++ 0x26 :: formQuery (before ++ (key, value) :: after)).drop
            (p.2.length + 1) = formQuery (before ++ (key, value) :: after) := by
          rw [List.drop_length_add_append]
          rfl
        rw [hform, queryKeyValue_append hname, hother, if_neg (by decide), memchr_append_cons hamp]
        dsimp only
        rw [hdrop, hrest]

/-- A form with a space in the password, in two pieces. -/
theorem savePost_calls_iff_sample :
    (savePostHandler queryKeyValue 36
      [ascii "ssid=home&manual=", ascii "&pass=%74opsecret+1"] ⟨none, none, none, none⟩
      ⟨fun _ => none, .boot⟩).saveWifi = some (ascii "home", ascii "topsecret 1") := by
  have hpass : UrlEncodes (ascii "t" ++ ascii "opsecret" ++ 0x20 :: ascii "1")
      ((ascii "t").flatMap percentEncode ++ ascii "opsecret" ++ 0x2b :: ascii "1") :=
    ((urlEncodes_percent _).append (urlEncodes_self (by decide +kernel))).append
      (.cons .space (urlEncodes_self (by decide +kernel)))
  have hsel : UrlEncodes (ascii "home") (ascii "home") := urlEncodes_self (by decide +kernel)
  have hchunks : ∀ chunk ∈ [ascii "ssid=home&manual=", ascii "&pass=%74opsecret+1"],
      chunk ≠ [] := by decide
  have hbody : [ascii "ssid=home&manual=", ascii "&pass=%74opsecret+1"].flatten
      = formQuery (formParams (ascii "home") []
        ((ascii "t").flatMap percentEncode ++ ascii "opsecret" ++ 0x2b :: ascii "1")) := by
    decide
  have hsaved := (savePost_calls_iff isQueryKeyValue_queryKeyValue (by decide)
    (Nat.zero_le _) (by decide) (.inl (by decide)) (.inr (by decide))
    (by decide) hsel .nil hpass hchunks hbody ⟨none, none, none, none⟩
    ⟨fun _ => none, .boot⟩).mpr (by decide)
  have hlen : (formQuery (formParams (ascii "home") []
      ((ascii "t").flatMap percentEncode ++ ascii "opsecret" ++ 0x2b :: ascii "1"))).length = 36 := by
    decide
  have htext : ascii "t" ++ ascii "opsecret" ++ 0x20 :: ascii "1" = ascii "topsecret 1" := by
    decide
  rw [hlen, htext] at hsaved
  exact hsaved

/-- **All fields full and every byte encoded**: the body has 400 bytes and is refused. -/
theorem savePost_body_too_long :
    let ssid : Bytes := List.replicate 32 0x26
    let password : Bytes := List.replicate 63 0x26
    let body := formQuery (formParams (ssid.flatMap percentEncode) (ssid.flatMap percentEncode)
      (password.flatMap percentEncode))
    (UrlEncodes ssid (ssid.flatMap percentEncode) ∧
        UrlEncodes password (password.flatMap percentEncode)) ∧
      (savePostHandler queryKeyValue body.length [body] ⟨none, none, none, none⟩
        ⟨fun _ => none, .boot⟩).saveWifi = none :=
  ⟨⟨urlEncodes_percent _, urlEncodes_percent _⟩, by decide +kernel⟩

end ConduitStream
