import ConduitStream.Network.HtmlEscape
import ConduitStream.System.SystemConfig

/-! # The setup page (`portal_get_handler` in `wifi_provisioning.c`)

The page offers every network of the last scan once. `optionValues` reads the values of the options
out of the page as a browser does; `portal_options_iff` says that they are the distinct SSIDs
exactly if the spelling of each in HTML fits into `escaped[180]`, and `portalOption_markup` that no
SSID puts markup into the page. -/

namespace ConduitStream

/-! ## The handler -/

/-- What the handler uses of a `wifi_ap_record_t`: the SSID, which is NUL-terminated, and the signal
strength. -/
structure WifiApRecord where
  ssid : CharArray 33
  rssi : BitVec 8
  terminated : 0 ∈ ssid.bytes

/-- The bytes of a text in UTF-8. -/
def utf8 (s : String) : Bytes := s.toUTF8.data.toList

/-- `PAGE_HEAD`. -/
def pageHead : Bytes :=
  utf8 "<!doctype html><html><head><meta charset=utf-8>" ++
  utf8 "<meta name=viewport content=\"width=device-width,initial-scale=1\">" ++
  utf8 "<title>MiniSpeaker setup</title><style>" ++
  utf8 "*\x7bbox-sizing:border-box\x7dbody\x7bmargin:0;background:#f4f6f8;color:#182026;" ++
  utf8 "font:16px system-ui,-apple-system,sans-serif\x7dmain\x7bmax-width:480px;margin:0 auto;" ++
  utf8 "padding:32px 20px\x7dh1\x7bfont-size:26px;margin:0 0 8px\x7dp\x7bcolor:#53606b;" ++
  utf8 "line-height:1.45;margin:0 0 24px\x7dlabel\x7bdisplay:block;font-weight:600;" ++
  utf8 "margin:18px 0 7px\x7dselect,input\x7bwidth:100%;height:46px;border:1px solid #aeb8c2;" ++
  utf8 "border-radius:6px;background:#fff;padding:0 12px;font:inherit\x7dbutton\x7bwidth:100%;" ++
  utf8 "height:48px;margin-top:24px;border:0;border-radius:6px;background:#1769aa;" ++
  utf8 "color:#fff;font:600 16px system-ui;cursor:pointer\x7dbutton:disabled\x7bopacity:.55;cursor:default\x7d" ++
  utf8 "small\x7bdisplay:block;color:#697782;margin-top:7px\x7d.name\x7bfont-weight:700;color:#182026\x7d" ++
  utf8 "</style></head><body><main>"

/-- `PAGE_WIFI_FORM_END`. -/
def pageWifiFormEnd : Bytes :=
  utf8 "</select><label for=manual>Other network</label>" ++
  utf8 "<input id=manual name=manual maxlength=32 autocomplete=off>" ++
  utf8 "<small>Use this only when the network is hidden or not listed.</small>" ++
  utf8 "<label for=pass>Wi-Fi password</label>" ++
  utf8 "<input id=pass name=pass type=password maxlength=63 autocomplete=current-password>" ++
  utf8 "<button type=submit>Save and restart</button></form></main></body></html>"

/-- The text in front of the second name in the introduction. -/
def introMiddle : Bytes :=
  utf8 "</h1><p>Connect this speaker to a 2.4 GHz Wi-Fi network. " ++
  utf8 "Its AirPlay name will remain <span class=name>"

/-- The text behind it, up to the first option. -/
def introEnd : Bytes :=
  utf8 "</span>.</p>" ++
  utf8 "<form method=post action=/save><label for=ssid>Wi-Fi network</label>" ++
  utf8 "<select id=ssid name=ssid>"

/-- The start tag of an option up to its value. -/
def optionMark : Bytes := utf8 "<option value=\""

/-- What stands behind the first option's value. -/
def introPlaceholder : Bytes := utf8 ">Select a network</option>"

/-- The text of the introduction before it goes into `intro[384]`. -/
def introText (name : Bytes) : Bytes :=
  utf8 "<h1>" ++ name ++ introMiddle ++ name ++ introEnd ++ optionMark ++ 0x22 :: introPlaceholder

/-- The introduction as sent. -/
def intro (name : Bytes) : Bytes := ((CharArray.zero 384).snprintf (introText name)).str

/-- `scan_result_is_duplicate`, with the results `before` this one. -/
def scanResultIsDuplicate (before : List WifiApRecord) (r : WifiApRecord) : Bool :=
  before.any fun b => strcmpEq b.ssid.bytes r.ssid.bytes

/-- The results the loop does not skip. -/
def portalOffered (before : List WifiApRecord) : List WifiApRecord → List WifiApRecord
  | [] => []
  | r :: results =>
    if r.ssid.str = [] ∨ scanResultIsDuplicate before r = true then
      portalOffered (before ++ [r]) results
    else r :: portalOffered (before ++ [r]) results

/-- What stands between the value of an option and the end of its tag. -/
def optionTail (escaped : Bytes) (rssi : BitVec 8) : Bytes :=
  0x3e :: escaped ++ utf8 " (" ++ formatInt rssi.toInt ++ utf8 " dBm)</option>"

/-- An option as sent: `escaped[180]` in `option[420]`. -/
def portalOption (r : WifiApRecord) : Bytes :=
  let escaped := htmlEscape r.ssid.str 180
  ((CharArray.zero 420).snprintf (optionMark ++ escaped ++ 0x22 :: optionTail escaped r.rssi)).str

/-- `httpd_resp_send_chunk` for one chunk after the other, up to one that is not `accepted`. -/
def sendChunks : List Bytes → List Bool → Bool × Bytes
  | [], _ => (true, [])
  | _ :: _, [] | _ :: _, false :: _ => (false, [])
  | chunk :: chunks, true :: accepted =>
    let r := sendChunks chunks accepted
    (r.1, chunk ++ r.2)

/-- The chunks of the page, the last one empty. -/
def portalChunks (c : SystemConfig) (results : List WifiApRecord) : List Bytes :=
  [pageHead, intro (systemConfigGetName c)] ++ (portalOffered [] results).map portalOption ++
    [pageWifiFormEnd, []]

/-- `portal_get_handler`: whether it returns `ESP_OK`, and the page as far as it has been sent. -/
def portalGetHandler (c : SystemConfig) (results : List WifiApRecord) (accepted : List Bool) :
    Bool × Bytes :=
  sendChunks (portalChunks c results) accepted

/-- A handler that succeeds has sent the whole page. -/
theorem sendChunks_all {chunks : List Bytes} {accepted : List Bool}
    (h : (sendChunks chunks accepted).1 = true) : (sendChunks chunks accepted).2 = chunks.flatten := by
  induction chunks generalizing accepted with
  | nil => rfl
  | cons chunk chunks ih =>
      match accepted with
      | [] => cases h
      | false :: accepted => cases h
      | true :: accepted => exact congrArg (chunk ++ ·) (ih h)

/-! ## Reading the options of a page -/

/-- A mark can be searched for. -/
theorem optionMark_ne_nil : optionMark ≠ [] := by decide

/-- The values of the options of a page, still in HTML. -/
def optionValues (page : Bytes) : List Bytes :=
  match _h : findSeq optionMark page with
  | none => []
  | some i =>
    (page.drop (i + optionMark.length)).takeWhile (· ≠ 0x22) ::
      optionValues (page.drop (i + optionMark.length))
termination_by page.length
decreasing_by
  have hle := findSeq_add_length_le optionMark_ne_nil _h
  have hpos := List.length_pos_iff.mpr optionMark_ne_nil
  rw [List.length_drop]
  omega

variable {s t : Bytes}

/-- Without a mark there are no options. -/
theorem optionValues_of_none (h : findSeq optionMark s = none) : optionValues s = [] := by
  rw [optionValues]
  split
  · rfl
  · next i hi => cases h.symm.trans hi

/-- The value stands behind the first mark, and the search goes on there. -/
theorem optionValues_of_some {i : ℕ} (h : findSeq optionMark s = some i) :
    optionValues s = (s.drop (i + optionMark.length)).takeWhile (· ≠ 0x22) ::
      optionValues (s.drop (i + optionMark.length)) := by
  rw [optionValues]
  split
  · next hnone => cases h.symm.trans hnone
  · next j hj =>
      cases h.symm.trans hj
      rfl

/-- What comes before the first mark does not matter. -/
theorem optionValues_append
    (h : findSeq optionMark (s ++ t) = (findSeq optionMark t).map (· + s.length)) :
    optionValues (s ++ t) = optionValues t := by
  cases ht : findSeq optionMark t with
  | none =>
      rw [ht] at h
      rw [optionValues_of_none h, optionValues_of_none ht]
  | some i =>
      rw [ht] at h
      have hdrop : (s ++ t).drop (i + s.length + optionMark.length)
          = t.drop (i + optionMark.length) := by
        rw [show i + s.length + optionMark.length = s.length + (i + optionMark.length) by omega,
          List.drop_length_add_append]
      rw [optionValues_of_some h, optionValues_of_some ht, hdrop]

/-- A text without `<` has no option. -/
theorem optionValues_text (hs : 0x3c ∉ s) : optionValues (s ++ t) = optionValues t := by
  induction s with
  | nil => rfl
  | cons c s ih =>
      rw [List.mem_cons, not_or] at hs
      have hnot : ¬optionMark <+: [c] ++ (s ++ t) := by
        intro hpre
        have hhead : optionMark.head? = some c := by
          obtain ⟨u, hu⟩ := hpre
          rw [← List.head?_append_of_ne_nil _ optionMark_ne_nil, hu]
          rfl
        have hmark : optionMark.head? = some 0x3c := by decide
        exact hs.1 (Option.some.inj (hmark.symm.trans hhead))
      calc optionValues ([c] ++ (s ++ t))
          = optionValues (s ++ t) := optionValues_append (findSeq_cons_skip hnot)
        _ = optionValues t := ih hs.2

/-- Nor has one that ends in `>` and does not contain the mark. -/
theorem optionValues_markup (hlast : s.getLast? = some 0x3e)
    (hnone : findSeq optionMark s = none) : optionValues (s ++ t) = optionValues t := by
  obtain ⟨u, rfl⟩ := List.getLast?_eq_some_iff.mp hlast
  have hu : ¬optionMark <:+: u := fun h =>
    (findSeq_eq_none_iff optionMark_ne_nil).mp hnone (h.trans (List.prefix_append _ _).isInfix)
  have hmark : (0x3e : UInt8) ∉ optionMark := by decide
  refine optionValues_append ?_
  rw [List.append_assoc, List.length_append, List.length_singleton]
  exact findSeq_append_cons hmark hu

/-- An option is found with its value, and the search goes on in it. -/
theorem optionValues_option {e : Bytes} (he : 0x22 ∉ e) :
    optionValues (optionMark ++ e ++ 0x22 :: t) = e :: optionValues (e ++ 0x22 :: t) := by
  have hfind : findSeq optionMark (optionMark ++ (e ++ 0x22 :: t)) = some 0 :=
    findSeq_of_prefix optionMark_ne_nil (List.prefix_append _ _)
  have hvalue : (e ++ 0x22 :: t).takeWhile (· ≠ 0x22) = e := by
    have hall : ∀ b ∈ e, decide (b ≠ 0x22) = true := by
      intro b hb
      have hne : b ≠ 0x22 := fun h => he (h ▸ hb)
      simpa using hne
    rw [List.takeWhile_append_of_pos hall, List.takeWhile_cons_of_neg (by simp), List.append_nil]
  rw [List.append_assoc, optionValues_of_some hfind, Nat.zero_add, List.drop_left, hvalue]

/-! ## The options of the page -/

/-- The value of an option. -/
def WifiApRecord.escaped (r : WifiApRecord) : Bytes := htmlEscape r.ssid.str 180

/-- **The value spells as much of the SSID as fits into `escaped[180]`.** -/
theorem WifiApRecord.escaped_eq (r : WifiApRecord) :
    ∃ t, t <+: r.ssid.str ∧ r.escaped = t.flatMap htmlSpelling ∧
      (t.flatMap htmlSpelling).length < 180 ∧
      (t = r.ssid.str ↔ (r.ssid.str.flatMap htmlSpelling).length < 180) :=
  htmlEscape_eq (by decide) (cstr_cstr _)

/-- The value contains nothing that could end it, and leaves room for the rest. -/
theorem WifiApRecord.escaped_plain (r : WifiApRecord) :
    0x3c ∉ r.escaped ∧ 0x22 ∉ r.escaped ∧ 0 ∉ r.escaped ∧ r.escaped.length < 180 := by
  obtain ⟨t, hpre, heq, hlen, -⟩ := r.escaped_eq
  rw [heq]
  refine ⟨fun h => (htmlSpelling_plain h).1 rfl, fun h => (htmlSpelling_plain h).2.2.1 rfl, ?_, hlen⟩
  exact zero_notMem_htmlSpelling fun h => r.ssid.zero_notMem_str (hpre.subset h)

/-- No letter of a number ends a text or a value. -/
theorem formatInt_plain {n : ℤ} {b : UInt8} (hb : b = 0 ∨ b = 0x3c ∨ b = 0x22) :
    b ∉ formatInt n := by
  intro h
  rcases mem_formatInt h with heq | hdigit
  · subst heq
    revert hb
    decide
  · rcases hb with rfl | rfl | rfl <;> exact absurd hdigit (by decide)

/-- **The option line fits** into `option[420]`, whatever the SSID and the level are. -/
theorem portalOption_eq (r : WifiApRecord) :
    portalOption r = optionMark ++ r.escaped ++ 0x22 :: optionTail r.escaped r.rssi := by
  obtain ⟨-, -, hzero, hlen⟩ := r.escaped_plain
  have hrssi : (formatInt r.rssi.toInt).length ≤ 4 := by
    refine formatInt_length_le (by decide) ?_
    have hlow := r.rssi.le_toInt
    have hhigh := r.rssi.toInt_lt
    omega
  refine CharArray.str_snprintf_of_lt _ ?_ ?_
  · have hmark : 0 ∉ optionMark ∧ 0 ∉ utf8 " (" ∧ 0 ∉ utf8 " dBm)</option>" := by decide
    have hint : 0 ∉ formatInt r.rssi.toInt := formatInt_plain (.inl rfl)
    change 0 ∉ optionMark ++ r.escaped ++ 0x22 :: optionTail r.escaped r.rssi
    simp only [optionTail, List.mem_append, List.mem_cons, List.cons_append, hmark, hzero, hint]
    decide
  · have hmark : optionMark.length = 15 ∧ (utf8 " (").length = 2 ∧
        (utf8 " dBm)</option>").length = 14 := by decide
    change (optionMark ++ r.escaped ++ 0x22 :: optionTail r.escaped r.rssi).length < 420
    simp only [optionTail, List.length_append, List.length_cons, hmark]
    omega

/-- A number in decimal is text without a special byte. -/
theorem isHtmlText_formatInt (n : ℤ) : IsHtmlText (formatInt n) where
  plain b hb := by
    have hall : ∀ c : UInt8, c = 0x3c ∨ c = 0x3e ∨ c = 0x22 ∨ c = 0x27 →
        ¬(c = 0x2d ∨ isDigit c = true) := by
      rintro c (rfl | rfl | rfl | rfl) <;> decide
    have hint := mem_formatInt hb
    refine ⟨?_, ?_, ?_, ?_⟩ <;> rintro rfl <;> exact hall _ (by decide) hint
  entities u t h := by
    have hmem : (0x26 : UInt8) ∈ formatInt n := h ▸ by simp
    exact absurd (mem_formatInt hmem) (by decide)

/-- **Scanned SSIDs cannot inject markup.** For every access point the option line is sent in full:
the fixed parts of the format, with the escaped SSID in them twice and the signal strength once. What
stands between the fixed parts is text, without a character of the markup and without an `&` that
does not begin an entity which is there in full. -/
theorem portalOption_markup (r : WifiApRecord) :
    portalOption r = utf8 "<option value=\"" ++ r.escaped ++ utf8 "\">" ++ r.escaped ++ utf8 " (" ++
        formatInt r.rssi.toInt ++ utf8 " dBm)</option>" ∧
      (portalOption r).length < 420 ∧ IsHtmlText r.escaped ∧
      IsHtmlText (formatInt r.rssi.toInt) := by
  obtain ⟨t, -, heq, -, -⟩ := r.escaped_eq
  have hquote : utf8 "\">" = [0x22, 0x3e] := by decide
  refine ⟨?_, ?_, heq ▸ isHtmlText_spelling t, isHtmlText_formatInt _⟩
  · rw [portalOption_eq, optionTail, hquote, ← optionMark]
    simp only [List.append_assoc, List.cons_append, List.nil_append]
  · unfold portalOption
    rw [CharArray.str_snprintf]
    exact Nat.lt_succ_of_le (List.length_take_le _ _)

/-- An option adds its value to those of the page, and nothing else. -/
theorem optionValues_portalOption (r : WifiApRecord) (t : Bytes) :
    optionValues (portalOption r ++ t) = r.escaped :: optionValues t := by
  obtain ⟨hlt, hquote, -, -⟩ := r.escaped_plain
  have hplain : 0x3c ∉ r.escaped ++ 0x22 :: 0x3e :: r.escaped ++ utf8 " (" ++
      formatInt r.rssi.toInt ++ utf8 " dBm)" := by
    have hfixed : (0x3c : UInt8) ∉ utf8 " (" ∧ (0x3c : UInt8) ∉ utf8 " dBm)" := by decide
    have hint : 0x3c ∉ formatInt r.rssi.toInt := formatInt_plain (.inr (.inl rfl))
    simp only [List.mem_append, List.mem_cons, hfixed, hlt, hint]
    decide
  have htag : optionValues (utf8 "</option>" ++ t) = optionValues t :=
    optionValues_markup (by decide) (by decide)
  have hsplit : utf8 " dBm)</option>" = utf8 " dBm)" ++ utf8 "</option>" := by decide
  rw [portalOption_eq, List.append_assoc, List.cons_append, optionValues_option hquote]
  congr 1
  calc optionValues (r.escaped ++ 0x22 :: (optionTail r.escaped r.rssi ++ t))
      = optionValues (r.escaped ++ 0x22 :: 0x3e :: r.escaped ++ utf8 " (" ++
          formatInt r.rssi.toInt ++ utf8 " dBm)" ++ (utf8 "</option>" ++ t)) := by
        rw [optionTail, hsplit]
        simp only [List.append_assoc, List.cons_append]
    _ = optionValues (utf8 "</option>" ++ t) := optionValues_text hplain
    _ = optionValues t := htag

/-- The introduction fits into `intro[384]`, too, whatever the name of the device is. -/
theorem intro_eq (c : SystemConfig) :
    intro (systemConfigGetName c) = introText (systemConfigGetName c) := by
  have hname : (systemConfigGetName c).length ≤ 33 := c.name.str_length_le
  have hzero : 0 ∉ systemConfigGetName c := c.name.zero_notMem_str
  have hfixed : 0 ∉ utf8 "<h1>" ∧ 0 ∉ introMiddle ∧ 0 ∉ introEnd ∧ 0 ∉ optionMark ∧
      0 ∉ introPlaceholder := by decide
  have hlen : (utf8 "<h1>").length = 4 ∧ introMiddle.length = 103 ∧ introEnd.length = 106 ∧
      optionMark.length = 15 ∧ introPlaceholder.length = 26 := by decide
  refine CharArray.str_snprintf_of_lt _ ?_ ?_
  · simp only [introText, List.mem_append, List.mem_cons, hfixed, hzero]
    decide
  · simp only [introText, List.length_append, List.length_cons, hlen]
    omega

/-- The fixed texts have no options. -/
theorem optionValues_fixed (t : Bytes) :
    optionValues (pageHead ++ t) = optionValues t ∧
      optionValues (pageWifiFormEnd ++ t) = optionValues t ∧
      optionValues (utf8 "<h1>" ++ t) = optionValues t ∧
      optionValues (introMiddle ++ t) = optionValues t ∧
      optionValues (introEnd ++ t) = optionValues t ∧
      optionValues (introPlaceholder ++ t) = optionValues t := by
  refine ⟨?_, ?_, ?_, ?_, ?_, ?_⟩ <;>
    exact optionValues_markup (by decide +kernel) (by decide +kernel)

/-- The introduction has one option, the empty placeholder. -/
theorem optionValues_introText {name : Bytes} (hname : 0x3c ∉ name) (t : Bytes) :
    optionValues (introText name ++ t) = [] :: optionValues t := by
  have hfirst : optionValues (optionMark ++ [] ++ 0x22 :: (introPlaceholder ++ t))
      = [] :: optionValues ([] ++ 0x22 :: (introPlaceholder ++ t)) :=
    optionValues_option List.not_mem_nil
  have hrest : optionValues ([0x22] ++ (introPlaceholder ++ t)) = optionValues t := by
    rw [optionValues_text (by decide), (optionValues_fixed t).2.2.2.2.2]
  calc optionValues (introText name ++ t)
      = optionValues (utf8 "<h1>" ++ (name ++ (introMiddle ++ (name ++ (introEnd ++
          (optionMark ++ [] ++ 0x22 :: (introPlaceholder ++ t))))))) := by
        simp only [introText, List.append_assoc, List.cons_append, List.nil_append]
    _ = optionValues (optionMark ++ [] ++ 0x22 :: (introPlaceholder ++ t)) := by
        rw [(optionValues_fixed _).2.2.1, optionValues_text hname, (optionValues_fixed _).2.2.2.1,
          optionValues_text hname, (optionValues_fixed _).2.2.2.2.1]
    _ = [] :: optionValues t := by
        rw [hfirst]
        exact congrArg ([] :: ·) hrest

/-- The networks offered have one option each. -/
theorem optionValues_offered (offered : List WifiApRecord) (t : Bytes) :
    optionValues ((offered.map portalOption).flatten ++ t)
      = offered.map WifiApRecord.escaped ++ optionValues t := by
  induction offered with
  | nil => rfl
  | cons r offered ih =>
      rw [List.map_cons, List.flatten_cons, List.append_assoc, optionValues_portalOption, ih,
        List.map_cons, List.cons_append]

/-- **The options of the page**: the placeholder and those of the networks offered. -/
theorem optionValues_page {c : SystemConfig} (hname : 0x3c ∉ systemConfigGetName c)
    (results : List WifiApRecord) :
    optionValues (portalChunks c results).flatten
      = [] :: (portalOffered [] results).map WifiApRecord.escaped := by
  have hnil : optionValues [] = [] := optionValues_of_none (by rw [findSeq])
  have hflat : (portalChunks c results).flatten
      = pageHead ++ (introText (systemConfigGetName c) ++
          (((portalOffered [] results).map portalOption).flatten ++ (pageWifiFormEnd ++ []))) := by
    unfold portalChunks
    rw [intro_eq]
    simp only [List.flatten_append, List.flatten_cons, List.flatten_nil, List.append_assoc,
      List.append_nil]
  rw [hflat, (optionValues_fixed _).1, optionValues_introText hname, optionValues_offered,
    (optionValues_fixed []).2.1, hnil, List.append_nil]

/-! ## Every network once -/

/-- What is offered is what comes first with its SSID, unless this is empty. -/
theorem portalOffered_spec (before results : List WifiApRecord) :
    ((portalOffered before results).map (·.ssid.str)).Nodup ∧
      ∀ ssid, ssid ∈ (portalOffered before results).map (·.ssid.str) ↔
        ssid ≠ [] ∧ ssid ∉ before.map (·.ssid.str) ∧ ssid ∈ results.map (·.ssid.str) := by
  induction results generalizing before with
  | nil => simp [portalOffered]
  | cons r results ih =>
      obtain ⟨hnodup, hmem⟩ := ih (before ++ [r])
      -- induction on the results, with those already seen before them generalised
      have hdup : scanResultIsDuplicate before r = true ↔ r.ssid.str ∈ before.map (·.ssid.str) := by
        unfold scanResultIsDuplicate strcmpEq
        rw [List.any_eq_true, List.mem_map]
        simp only [decide_eq_true_eq]
        rfl
      have hmem' : ∀ ssid, ssid ∈ (portalOffered (before ++ [r]) results).map (·.ssid.str) ↔
          ssid ≠ [] ∧ (ssid ∉ before.map (·.ssid.str) ∧ ssid ≠ r.ssid.str) ∧
            ssid ∈ results.map (·.ssid.str) := by
        intro ssid
        rw [hmem, List.map_append, List.mem_append, not_or]
        simp only [List.map_cons, List.map_nil, List.mem_singleton]
      rw [portalOffered]
      by_cases hskip : r.ssid.str = [] ∨ scanResultIsDuplicate before r = true
      -- `r` adds no SSID: it is empty or has been seen
      · rw [if_pos hskip]
        refine ⟨hnodup, fun ssid => ?_⟩
        rw [hmem', List.map_cons, List.mem_cons]
        rw [hdup] at hskip
        constructor
        · rintro ⟨hne, ⟨hbefore, -⟩, hin⟩
          exact ⟨hne, hbefore, .inr hin⟩
        · rintro ⟨hne, hbefore, hin⟩
          have hr : ssid ≠ r.ssid.str := by
            rintro rfl
            exact hskip.elim hne hbefore
          exact ⟨hne, ⟨hbefore, hr⟩, hin.resolve_left hr⟩
      -- `r` is offered, and counts as seen for the rest
      · rw [if_neg hskip]
        rw [hdup, not_or] at hskip
        refine ⟨?_, fun ssid => ?_⟩
        · rw [List.map_cons, List.nodup_cons]
          refine ⟨fun h => ?_, hnodup⟩
          exact ((hmem' _).mp h).2.1.2 rfl
        · rw [List.map_cons, List.mem_cons, hmem', List.map_cons, List.mem_cons]
          constructor
          · rintro (rfl | ⟨hne, ⟨hbefore, -⟩, hin⟩)
            · exact ⟨hskip.1, hskip.2, .inl rfl⟩
            · exact ⟨hne, hbefore, .inr hin⟩
          · rintro ⟨hne, hbefore, hin⟩
            by_cases hr : ssid = r.ssid.str
            · exact .inl hr
            · exact .inr ⟨hne, ⟨hbefore, hr⟩, hin.resolve_left hr⟩

/-- The SSIDs that can be selected on a page. -/
def optionSsids (page : Bytes) : List Bytes :=
  ((optionValues page).map htmlUnescape).filter (· ≠ [])

/-- Every network has exactly one option, whose value stands for its SSID. -/
def SelectableOnce (results : List WifiApRecord) (page : Bytes) : Prop :=
  (optionSsids page).Nodup ∧
    ∀ ssid, ssid ∈ optionSsids page ↔ ssid ≠ [] ∧ ∃ r ∈ results, r.ssid.str = ssid

/-- The SSID is selected as it is exactly if its spelling fits. -/
theorem WifiApRecord.unescape_escaped_iff (r : WifiApRecord) :
    htmlUnescape r.escaped = r.ssid.str ↔ (r.ssid.str.flatMap htmlSpelling).length < 180 := by
  obtain ⟨t, -, heq, -, hall⟩ := r.escaped_eq
  rw [heq, htmlUnescape_spelling]
  exact hall

/-- A configured device's name is no markup. -/
theorem lt_notMem_systemConfigGetName {seeds : Seeds} {mac : Fin 6 → UInt8} {i : InitOutcome}
    {d : Device} (hinit : (systemConfigInit seeds mac i d).1 = .espOk) :
    0x3c ∉ systemConfigGetName (systemConfigInit seeds mac i d).2.config := by
  intro h
  have hdigit : ∀ k < 16, 0x3c ≠ upperHexDigit k := by decide
  rcases mem_systemConfigGetName hinit h with h | ⟨k, hk, h⟩
  · exact absurd h (by decide)
  · exact hdigit k hk h

/-- What can be selected is what the options of the networks offered stand for. -/
theorem optionSsids_portal {c : SystemConfig} (hname : 0x3c ∉ systemConfigGetName c)
    {results : List WifiApRecord} {accepted : List Bool}
    (hsent : (portalGetHandler c results accepted).1 = true) :
    optionSsids (portalGetHandler c results accepted).2
      = (((portalOffered [] results).map fun r => htmlUnescape r.escaped).filter (· ≠ [])) := by
  have hnil : htmlUnescape [] = [] := by rw [htmlUnescape]
  unfold optionSsids
  rw [portalGetHandler, sendChunks_all hsent, optionValues_page hname, List.map_cons, hnil,
    List.map_map]
  rfl

/-- **Every scanned network is selectable exactly if the spelling of each SSID in HTML has at most 179
bytes**: on the page a configured device sends, for any scan results. -/
theorem portal_options_iff {seeds : Seeds} {mac : Fin 6 → UInt8} {i : InitOutcome} {d : Device}
    (hinit : (systemConfigInit seeds mac i d).1 = .espOk) (results : List WifiApRecord)
    {accepted : List Bool}
    (hsent : (portalGetHandler (systemConfigInit seeds mac i d).2.config results accepted).1
      = true) :
    SelectableOnce results
        (portalGetHandler (systemConfigInit seeds mac i d).2.config results accepted).2 ↔
      ∀ r ∈ results, (r.ssid.str.flatMap htmlSpelling).length ≤ 179 := by
  have hssids := optionSsids_portal (lt_notMem_systemConfigGetName hinit) hsent
  obtain ⟨hnodup, hmem⟩ := portalOffered_spec [] results
  constructor
  · rintro ⟨-, honce⟩ r hr
    by_cases hnil : r.ssid.str = []
    · rw [hnil]
      exact Nat.zero_le _
    · -- the SSID is the value of some option, so its spelling is that value
      have hselect := (honce r.ssid.str).mpr ⟨hnil, r, hr, rfl⟩
      rw [hssids, List.mem_filter, List.mem_map] at hselect
      obtain ⟨⟨r', -, hvalue⟩, -⟩ := hselect
      obtain ⟨t, -, heq, hlen, -⟩ := r'.escaped_eq
      rw [heq, htmlUnescape_spelling] at hvalue
      rw [← hvalue]
      omega
  · intro hfits
    -- a network offered has the SSID of a result
    have hvalue : (portalOffered [] results).map (fun r => htmlUnescape r.escaped)
        = (portalOffered [] results).map (·.ssid.str) := by
      refine List.map_congr_left fun r hr => r.unescape_escaped_iff.mpr ?_
      obtain ⟨-, -, hin⟩ := (hmem r.ssid.str).mp (List.mem_map_of_mem hr)
      obtain ⟨r', hr', heq⟩ := List.mem_map.mp hin
      rw [← heq]
      exact Nat.lt_succ_of_le (hfits r' hr')
    have hfilter : ((portalOffered [] results).map (·.ssid.str)).filter (· ≠ [])
        = (portalOffered [] results).map (·.ssid.str) := by
      refine List.filter_eq_self.mpr fun ssid hssid => ?_
      exact decide_eq_true ((hmem ssid).mp hssid).1
    unfold SelectableOnce
    rw [hssids, hvalue, hfilter]
    refine ⟨hnodup, fun ssid => ?_⟩
    rw [hmem ssid, List.mem_map]
    simp

/-! ### Sample scans -/

/-- A scan result with a given SSID. -/
def sampleAp (ssid : Bytes) : WifiApRecord where
  ssid := (CharArray.zero 33).snprintf ssid
  rssi := 200
  terminated := by
    unfold CharArray.snprintf
    simp

/-- The first start of a device. -/
def firstStart : EspErr × Device :=
  systemConfigInit ⟨[], []⟩ (fun _ => 0) ⟨none, fun _ => none, fun _ => none⟩ ⟨fun _ => none, .boot⟩

/-- Two networks, one of them seen twice. -/
theorem portal_options_iff_sample :
    SelectableOnce [sampleAp (ascii "R&D"), sampleAp (ascii "guest"), sampleAp (ascii "R&D")]
      (portalGetHandler firstStart.2.config
        [sampleAp (ascii "R&D"), sampleAp (ascii "guest"), sampleAp (ascii "R&D")]
        (List.replicate 6 true)).2 :=
  (portal_options_iff (i := ⟨none, fun _ => none, fun _ => none⟩) rfl _
    (by decide)).mpr (by decide)

/-- **An SSID of 30 quotes**: its spelling has 180 bytes, and no option stands for it. -/
theorem portal_option_cut :
    (portalGetHandler firstStart.2.config [sampleAp (List.replicate 30 0x22)]
        (List.replicate 5 true)).1 = true ∧
      ¬SelectableOnce [sampleAp (List.replicate 30 0x22)]
        (portalGetHandler firstStart.2.config [sampleAp (List.replicate 30 0x22)]
          (List.replicate 5 true)).2 := by
  have hsent : (portalGetHandler firstStart.2.config [sampleAp (List.replicate 30 0x22)]
      (List.replicate 5 true)).1 = true := by decide
  refine ⟨hsent, fun h => ?_⟩
  have hselect := (h.2 (List.replicate 30 0x22)).mpr ⟨by decide, _, List.mem_singleton_self _,
    by decide⟩
  have hinit : firstStart.1 = .espOk := rfl
  have hname : 0x3c ∉ systemConfigGetName firstStart.2.config :=
    lt_notMem_systemConfigGetName hinit
  rw [optionSsids_portal hname hsent] at hselect
  revert hselect
  decide +kernel

end ConduitStream
