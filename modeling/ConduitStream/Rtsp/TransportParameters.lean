import ConduitStream.Rtsp.Transport

/-! # The parameters of a Transport header

A Transport header is a list of parameters, `name` or `name=value`, joined with `;` and perhaps a
space. `rtsp_transport_port` knows nothing of the list and searches the text; it finds the value of
the first parameter whose name is the key and that has a value (`rtspTransportPort_parameters`).

A field of the text, in the sense of `FieldAt`, is a parameter with a value and that name:
`fieldAt_front_iff` says so for the first parameter, and behind a separator the fields are those of
the rest (`fieldAt_behind_iff`). -/

namespace ConduitStream

/-- `atoi`: what `strtol` reads, 0 if there is no number. -/
def atoi (s : Bytes) : ℤ := (strtol s).getD 0

/-- A parameter: its name and its value, if it has one. -/
structure TransportParam where
  name : Bytes
  value : Option Bytes
  name_plain : ∀ c ∈ name, c ≠ 0x3b ∧ c ≠ 0x20 ∧ c ≠ 0x3d ∧ c ≠ 0
  value_plain : ∀ v ∈ value, ∀ c ∈ v, c ≠ 0x3b ∧ c ≠ 0x20 ∧ c ≠ 0

namespace TransportParam

/-- `name` or `name=value`. -/
def text (p : TransportParam) : Bytes :=
  match p.value with
  | none => p.name
  | some v => p.name ++ 0x3d :: v

/-- The text of a parameter has no separator in it. -/
theorem text_plain (p : TransportParam) {c : UInt8} (hc : c ∈ p.text) :
    c ≠ 0x3b ∧ c ≠ 0x20 ∧ c ≠ 0 := by
  unfold text at hc
  cases hv : p.value with
  | none =>
      rw [hv] at hc
      exact ⟨(p.name_plain c hc).1, (p.name_plain c hc).2.1, (p.name_plain c hc).2.2.2⟩
  | some v =>
      rw [hv] at hc
      rcases List.mem_append.mp hc with hc | hc
      · exact ⟨(p.name_plain c hc).1, (p.name_plain c hc).2.1, (p.name_plain c hc).2.2.2⟩
      · rcases List.mem_cons.mp hc with rfl | hc
        · decide
        · exact p.value_plain v hv c hc

end TransportParam

/-- `;`, perhaps with a space behind it. -/
def separator (space : Bool) : Bytes := if space then [0x3b, 0x20] else [0x3b]

/-- The texts of a list of parameters. -/
inductive TransportText : List TransportParam → Bytes → Prop
  | nil : TransportText [] []
  | last (p : TransportParam) : TransportText [p] p.text
  | cons (p : TransportParam) (space : Bool) {params : List TransportParam} {text : Bytes} :
      params ≠ [] → TransportText params text →
      TransportText (p :: params) (p.text ++ separator space ++ text)

/-- The value of the first parameter with that name that has one. -/
def transportValue (params : List TransportParam) (key : Bytes) : Option Bytes :=
  params.findSome? fun p => if p.name = key then p.value else none

/-- The text of a Transport header is a string without a NUL. -/
theorem TransportText.zero_notMem {params : List TransportParam} {text : Bytes}
    (h : TransportText params text) : 0 ∉ text := by
  induction h with
  | nil => exact List.not_mem_nil
  | last p => exact fun h0 => (p.text_plain h0).2.2 rfl
  | cons p space _ _ ih =>
      intro h0
      rcases List.mem_append.mp h0 with h0 | h0
      · rcases List.mem_append.mp h0 with h0 | h0
        · exact (p.text_plain h0).2.2 rfl
        · revert h0
          cases space <;> decide
      · exact ih h0

/-! ## The fields of a text -/

variable {key : Bytes} {p : TransportParam} {rest : Bytes}

/-- The name of a parameter ends at `=`, at a semicolon or with the text. -/
def inName (c : UInt8) : Bool := c ≠ 0x3d ∧ c ≠ 0x3b

/-- The bytes of a key belong to a name. -/
theorem inName_of_mem (hkey : IsFieldName key) (heq : 0x3d ∉ key) :
    ∀ c ∈ key, inName c = true := by
  intro c hc
  have hne : c ≠ 0x3d := fun h => heq (h ▸ hc)
  exact decide_eq_true ⟨hne, (hkey.2 c hc).1⟩

/-- The name of the first parameter, read off the text. -/
theorem takeWhile_inName (p : TransportParam) (hrest : ∀ c ∈ rest.head?, c = 0x3b) :
    (p.text ++ rest).takeWhile inName = p.name := by
  have hname : ∀ c ∈ p.name, inName c = true := fun c hc =>
    decide_eq_true ⟨(p.name_plain c hc).2.2.1, (p.name_plain c hc).1⟩
  unfold TransportParam.text
  cases p.value with
  | none =>
      refine (takeWhile_append_stop hname fun c hc => ?_).1
      rw [hrest c hc]
      decide
  | some v =>
      rw [List.append_assoc]
      refine (takeWhile_append_stop hname fun c hc => ?_).1
      obtain rfl : c = 0x3d := by simpa [eq_comm] using hc
      decide

/-- **The first parameter is a field** exactly if it has that name and a value. -/
theorem fieldAt_front_iff (hkey : IsFieldName key) (heq : 0x3d ∉ key)
    (hrest : ∀ c ∈ rest.head?, c = 0x3b) :
    FieldAt (p.text ++ rest) key 0 ↔ p.name = key ∧ p.value.isSome = true := by
  constructor
  · rintro ⟨⟨s, hs⟩, -, hafter⟩
    rw [List.drop_zero] at hs
    -- the text is the key, and `=` behind it
    have hhead : s.head? = some 0x3d := by
      rw [Nat.zero_add, ← hs, List.getElem?_append_right le_rfl, Nat.sub_self] at hafter
      rw [List.head?_eq_getElem?, hafter]
    have hname : p.name = key := by
      rw [← takeWhile_inName p hrest, ← hs]
      refine (takeWhile_append_stop (inName_of_mem hkey heq) fun c hc => ?_).1
      rw [hhead] at hc
      cases hc
      decide
    refine ⟨hname, ?_⟩
    cases hv : p.value with
    | some v => rfl
    | none =>
        rw [TransportParam.text, hv, ← hname] at hs
        have hsame : s = rest := List.append_cancel_left hs
        rw [← hsame, hhead] at hrest
        exact absurd (hrest 0x3d rfl) (by decide)
  · rintro ⟨rfl, hsome⟩
    obtain ⟨v, hv⟩ := Option.isSome_iff_exists.mp hsome
    have htext : p.text ++ rest = p.name ++ 0x3d :: (v ++ rest) := by
      rw [TransportParam.text, hv]
      exact List.append_assoc ..
    refine ⟨?_, .inl rfl, ?_⟩
    · rw [htext]
      exact List.prefix_append ..
    · rw [htext, Nat.zero_add, List.getElem?_append_right le_rfl, Nat.sub_self]
      rfl

/-- There is no field inside the first parameter or the separator behind it. -/
theorem not_fieldAt_inside_param (hkey : IsFieldName key) (p : TransportParam) (space : Bool) {q : ℕ}
    (hpos : 0 < q) (hq : q < (p.text ++ separator space).length) (text : Bytes) :
    ¬FieldAt (p.text ++ separator space ++ text) key q := by
  rintro ⟨hocc, hstart, -⟩
  rw [List.length_append] at hq
  rw [List.append_assoc] at hocc hstart
  by_cases hin : q - 1 < p.text.length
  · -- the character in front is one of the parameter
    rw [List.getElem?_append_left hin, List.getElem?_eq_getElem hin] at hstart
    obtain ⟨hsemi, hspace, -⟩ := p.text_plain (List.getElem_mem hin)
    rcases hstart with h | h | h
    · omega
    · exact hsemi (Option.some.inj h)
    · exact hspace (Option.some.inj h)
  · -- only the space of the separator is left, and no name begins with it
    cases space with
    | false =>
        rw [show (separator false).length = 1 from rfl] at hq
        omega
    | true =>
        have hq1 : q = p.text.length + 1 := by
          rw [show (separator true).length = 2 from rfl] at hq
          omega
        obtain ⟨c, key, rfl⟩ := List.exists_cons_of_ne_nil hkey.1
        rw [hq1, List.drop_append, List.drop_eq_nil_of_le (by omega), Nat.add_sub_cancel_left] at hocc
        obtain ⟨w, hw⟩ := hocc
        have hc : c = 0x20 := (List.cons.inj hw).1
        exact (hkey.2 c List.mem_cons_self).2 hc

/-- The last character of a separator is one that a field may stand behind. -/
theorem getElem?_separator (front : Bytes) (space : Bool) (text : Bytes) :
    (front ++ separator space ++ text)[(front ++ separator space).length - 1]? = some 0x3b ∨
      (front ++ separator space ++ text)[(front ++ separator space).length - 1]? = some 0x20 := by
  have hpos : 0 < (separator space).length := by cases space <;> decide
  have hidx : (front ++ separator space).length - 1
      = front.length + ((separator space).length - 1) := by
    rw [List.length_append]
    omega
  rw [List.append_assoc, hidx, List.getElem?_append_right (by omega), Nat.add_sub_cancel_left]
  cases space with
  | false => exact .inl rfl
  | true => exact .inr rfl

/-- **Behind a separator** the fields are those of the rest. -/
theorem fieldAt_behind_iff (p : TransportParam) (space : Bool) (text : Bytes) (q : ℕ) :
    FieldAt (p.text ++ separator space ++ text) key ((p.text ++ separator space).length + q) ↔
      FieldAt text key q := by
  have hlast := getElem?_separator p.text space text
  have hpos : 0 < (p.text ++ separator space).length := by
    rw [List.length_append]
    cases space <;> exact Nat.succ_pos _
  generalize p.text ++ separator space = u at hlast hpos ⊢
  have hbehind : ∀ k, (u ++ text)[u.length + k]? = text[k]? := fun k => by
    rw [List.getElem?_append_right (by omega), Nat.add_sub_cancel_left]
  unfold FieldAt
  rw [List.drop_length_add_append, Nat.add_assoc u.length q key.length, hbehind]
  refine and_congr_right fun _ => and_congr_left fun _ => ?_
  cases q with
  | zero => exact ⟨fun _ => .inl rfl, fun _ => .inr hlast⟩
  | succ q =>
      rw [← Nat.add_assoc, Nat.add_sub_cancel, hbehind, Nat.add_sub_cancel]
      refine or_congr_left ⟨fun h => ?_, fun h => ?_⟩ <;> omega

/-! ## What the search finds -/

/-- What a text carries for a name: a first field with this value, or no field. -/
def Carries (text key : Bytes) : Option Bytes → Prop
  | some v => ∃ q, FirstField text key q ∧ fieldNumber text key q = atoi v
  | none => ∀ q, ¬FieldAt text key q

/-- The field at the front has the value of the first parameter. -/
theorem carries_front (hkey : IsFieldName key) (heq : 0x3d ∉ key)
    (hrest : ∀ c ∈ rest.head?, c = 0x3b) (hname : p.name = key) {v : Bytes}
    (hv : p.value = some v) : Carries (p.text ++ rest) key (some v) := by
  have hfield : FieldAt (p.text ++ rest) key 0 :=
    (fieldAt_front_iff hkey heq hrest).mpr ⟨hname, by rw [hv]; rfl⟩
  refine ⟨0, ⟨hfield, fun j hj => absurd hj j.not_lt_zero⟩, ?_⟩
  have hdrop : (p.text ++ rest).drop (0 + key.length + 1) = v ++ rest := by
    rw [TransportParam.text, hv, ← hname, List.append_assoc, Nat.zero_add,
      List.drop_length_add_append]
    rfl
  unfold fieldNumber atoi
  rw [hdrop]
  cases rest with
  | nil => rw [List.append_nil]
  | cons c rest =>
      obtain rfl := hrest c rfl
      rw [strtol_append_stop (by decide) (by decide) (by decide)]

/-- Where the first parameter is not the one, the text carries what the rest does. -/
theorem carries_behind (hkey : IsFieldName key) (heq : 0x3d ∉ key) (space : Bool) {text : Bytes}
    (hp : ¬(p.name = key ∧ p.value.isSome = true)) {value : Option Bytes}
    (h : Carries text key value) : Carries (p.text ++ separator space ++ text) key value := by
  -- in front of the rest there is no field
  have hfront : ∀ j < (p.text ++ separator space).length,
      ¬FieldAt (p.text ++ separator space ++ text) key j := by
    intro j hj
    rcases Nat.eq_zero_or_pos j with rfl | hpos
    · rw [List.append_assoc]
      refine fun hfield => hp ((fieldAt_front_iff hkey heq fun c hc => ?_).mp hfield)
      cases space <;> exact (Option.some.inj hc).symm
    · exact not_fieldAt_inside_param hkey p space hpos hj text
  have hnone : ∀ j, (∀ k, j = (p.text ++ separator space).length + k → ¬FieldAt text key k) →
      ¬FieldAt (p.text ++ separator space ++ text) key j := by
    intro j hk hfield
    rcases Nat.lt_or_ge j (p.text ++ separator space).length with hj | hj
    · exact hfront j hj hfield
    · obtain ⟨k, rfl⟩ := Nat.exists_eq_add_of_le hj
      exact hk k rfl ((fieldAt_behind_iff p space text k).mp hfield)
  cases value with
  | none => exact fun j => hnone j fun k _ => h k
  | some v =>
      obtain ⟨q, ⟨hfield, hfirst⟩, hnumber⟩ := h
      refine ⟨(p.text ++ separator space).length + q,
        ⟨(fieldAt_behind_iff p space text q).mpr hfield, fun j hj => ?_⟩, ?_⟩
      · exact hnone j fun k hk => hfirst k (by omega)
      · rw [fieldNumber, Nat.add_assoc, Nat.add_assoc, List.drop_length_add_append,
          ← Nat.add_assoc]
        exact hnumber

/-- The first parameter is the one, or it is looked for in the rest. -/
theorem transportValue_cons (p : TransportParam) (params : List TransportParam) (key : Bytes) :
    transportValue (p :: params) key
      = if p.name = key ∧ p.value.isSome = true then p.value else transportValue params key := by
  unfold transportValue
  rw [List.findSome?_cons]
  by_cases hname : p.name = key
  · cases p.value <;> simp [hname]
  · simp [hname]

/-- **The value of the first parameter with the name** is what the text carries. -/
theorem TransportText.carries {params : List TransportParam} {text : Bytes}
    (h : TransportText params text) (hkey : IsFieldName key) (heq : 0x3d ∉ key) :
    Carries text key (transportValue params key) := by
  induction h with
  | nil =>
      rintro q ⟨hocc, -, -⟩
      rw [List.drop_nil, List.prefix_nil] at hocc
      exact hkey.1 hocc
  | last p =>
      have hrest : ∀ c ∈ ([] : Bytes).head?, c = 0x3b := fun c hc => nomatch hc
      rw [transportValue_cons]
      split
      · next hp =>
          obtain ⟨v, hv⟩ := Option.isSome_iff_exists.mp hp.2
          rw [hv, ← List.append_nil p.text]
          exact carries_front hkey heq hrest hp.1 hv
      · next hp =>
          rintro q hfield
          rcases Nat.eq_zero_or_pos q with rfl | hpos
          · rw [← List.append_nil p.text] at hfield
            exact hp ((fieldAt_front_iff hkey heq hrest).mp hfield)
          · -- a field behind the start stands behind a separator
            rcases hfield.2.1 with h | h | h
            · omega
            · exact (p.text_plain (List.mem_of_getElem? h)).1 rfl
            · exact (p.text_plain (List.mem_of_getElem? h)).2.1 rfl
  | cons p space hne _ ih =>
      rw [transportValue_cons]
      split
      · next hp =>
          obtain ⟨v, hv⟩ := Option.isSome_iff_exists.mp hp.2
          rw [hv, List.append_assoc]
          refine carries_front hkey heq (fun c hc => ?_) hp.1 hv
          cases space <;> exact (Option.some.inj hc).symm
      · next hp => exact carries_behind hkey heq space hp ih

/-- **Transport lookup respects the parameters.** For every header that is written as a list of
parameters and every key, `rtsp_transport_port` returns the `atoi` of the value of the first parameter
whose name is the key and that has a value, and `-1` if there is none. -/
theorem rtspTransportPort_parameters {params : List TransportParam} {text key : Bytes}
    (h : TransportText params text) (hkey : IsFieldName key) (heq : 0x3d ∉ key) :
    rtspTransportPort text key = ((transportValue params key).map atoi).getD (-1) := by
  have hcarries := h.carries hkey heq
  rw [rtspTransportPort_eq_iff hkey, CarriesPort, cstr_eq_self h.zero_notMem]
  cases hvalue : transportValue params key with
  | none =>
      rw [hvalue] at hcarries
      exact .inr ⟨hcarries, rfl⟩
  | some v =>
      rw [hvalue] at hcarries
      exact .inl hcarries

/-- The key occurs in a name and in a value before the parameter comes. -/
theorem rtspTransportPort_parameters_overlap :
    rtspTransportPort (ascii "xport=1;v=port=2; port=6001") (ascii "port") = 6001 := by
  have htext : TransportText
      [⟨ascii "xport", some (ascii "1"), by decide +kernel, by decide +kernel⟩,
        ⟨ascii "v", some (ascii "port=2"), by decide +kernel, by decide +kernel⟩,
        ⟨ascii "port", some (ascii "6001"), by decide +kernel, by decide +kernel⟩]
      (ascii "xport=1;v=port=2; port=6001") :=
    .cons _ false (by simp) (.cons _ true (by simp) (.last _))
  rw [rtspTransportPort_parameters htext (by decide +kernel) (by decide)]
  decide

end ConduitStream
