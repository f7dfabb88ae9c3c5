import ConduitStream.Rtsp.Parser

/-! # Ports in a Transport header (`rtsp_transport_port` in `rtsp_parser.c`)

`CarriesPort` says what a Transport header carries, as a property of its text: the first field with
the name in question, at the start of a parameter, and the number behind its `=`. The search of
`rtsp_transport_port` finds just this (`rtspTransportPort_eq_iff`), although it does not look at
places inside an occurrence of the name that it has rejected. -/

namespace ConduitStream

/-- The loop of `rtsp_transport_port`, with `p` behind the occurrences of `key` looked at so far. The
two callers look for a non-empty key; the search for an empty one does not get on. -/
def rtspTransportPortFrom (transport key : Bytes) (p : ℕ) : ℤ :=
  if hkey : key = [] then -1
  else
    match hf : findSeq key (transport.drop p) with
    | none => -1
    | some i =>
        let q := p + i
        let atStart := q = 0 ∨ transport[q - 1]? = some 0x3b ∨ transport[q - 1]? = some 0x20
        let after := q + key.length
        if atStart ∧ transport[after]? = some 0x3d then
          (strtol (transport.drop (after + 1))).getD 0
        else rtspTransportPortFrom transport key after
termination_by transport.length - p
decreasing_by
  have hle := findSeq_add_length_le hkey hf
  have hpos := List.length_pos_iff.mpr hkey
  rw [List.length_drop] at hle
  omega

/-- `rtsp_transport_port`: the number behind the first `key=` at the start of a parameter, `-1` if
there is none. -/
def rtspTransportPort (transport key : Bytes) : ℤ :=
  rtspTransportPortFrom (cstr transport) key 0

/-- A key that ends another one is not found there. -/
example : rtspTransportPort (ascii "RTP/AVP;xcontrol_port=1;control_port=6001;timing_port=6002")
    (ascii "control_port") = 6001 := by decide +kernel

/-! ## What a Transport header carries -/

/-- At position `q` of the text stands `key=`, at the start of a parameter. -/
def FieldAt (t key : Bytes) (q : ℕ) : Prop :=
  key <+: t.drop q ∧ (q = 0 ∨ t[q - 1]? = some 0x3b ∨ t[q - 1]? = some 0x20) ∧
    t[q + key.length]? = some 0x3d

/-- The first field of that name. -/
def FirstField (t key : Bytes) (q : ℕ) : Prop := FieldAt t key q ∧ ∀ j < q, ¬FieldAt t key j

/-- The number behind the `=` of the field at `q`, 0 if there is no number: what `atoi` makes of
it. -/
def fieldNumber (t key : Bytes) (q : ℕ) : ℤ := (strtol (t.drop (q + key.length + 1))).getD 0

/-- The header carries `key=port`. -/
def CarriesPort (transport key : Bytes) (port : ℤ) : Prop :=
  ∃ q, FirstField (cstr transport) key q ∧ fieldNumber (cstr transport) key q = port

/-- The name of a field has no separator in it. -/
def IsFieldName (key : Bytes) : Prop := key ≠ [] ∧ ∀ c ∈ key, c ≠ 0x3b ∧ c ≠ 0x20

instance (key : Bytes) : Decidable (IsFieldName key) := inferInstanceAs (Decidable (_ ∧ _))

variable {t key : Bytes}

/-- A header has one first field with a key, if it has one. -/
theorem FirstField.unique {q r : ℕ} (hq : FirstField t key q) (hr : FirstField t key r) : q = r := by
  rcases lt_trichotomy q r with h | h | h
  · exact absurd hq.1 (hr.2 q h)
  · exact h
  · exact absurd hr.1 (hq.2 r h)

/-- No field starts inside an occurrence of its name. -/
theorem not_fieldAt_inside (hkey : IsFieldName key) {q j : ℕ} (hocc : key <+: t.drop q) (hq : q < j)
    (hj : j < q + key.length) : ¬FieldAt t key j := by
  rintro ⟨-, hstart, -⟩
  -- the character in front is one of the name
  have hlt : j - 1 - q < key.length := by omega
  have hchar : t[j - 1]? = some key[j - 1 - q] := by
    obtain ⟨s, hs⟩ := hocc
    have hdrop : (t.drop q)[j - 1 - q]? = t[j - 1]? := by
      rw [List.getElem?_drop]
      congr 1
      omega
    rw [← hdrop, ← hs, List.getElem?_append_left hlt, List.getElem?_eq_getElem hlt]
  obtain ⟨hsemi, hspace⟩ := hkey.2 _ (List.getElem_mem hlt)
  rcases hstart with h | h | h
  · omega
  · rw [hchar, Option.some_inj] at h
    exact hsemi h
  · rw [hchar, Option.some_inj] at h
    exact hspace h

/-- The next occurrence of the name, and nothing in front of it. -/
theorem occurrence_of_passed (hne : key ≠ []) {p i : ℕ} (hpassed : ∀ j < p, ¬FieldAt t key j)
    (hf : findSeq key (t.drop p) = some i) :
    key <+: t.drop (p + i) ∧ ∀ j < p + i, ¬FieldAt t key j := by
  obtain ⟨hocc, hfirst⟩ := (findSeq_eq_some_iff hne).mp hf
  rw [List.drop_drop] at hocc
  refine ⟨hocc, fun j hj h => ?_⟩
  by_cases hjp : j < p
  · exact hpassed j hjp h
  · have hnot := hfirst (j - p) (by omega)
    rw [List.drop_drop, Nat.add_sub_cancel' (by omega)] at hnot
    exact hnot h.1

/-- **The loop** finds the first field, if there is none among the places it has passed. -/
theorem rtspTransportPortFrom_spec (hkey : IsFieldName key) (p : ℕ)
    (hpassed : ∀ j < p, ¬FieldAt t key j) :
    (∃ q, FirstField t key q ∧ rtspTransportPortFrom t key p = fieldNumber t key q) ∨
      (∀ q, ¬FieldAt t key q) ∧ rtspTransportPortFrom t key p = -1 := by
  fun_induction rtspTransportPortFrom t key p with
  | case1 p hnil => exact absurd hnil hkey.1
  | case2 p hne hf =>
      refine .inr ⟨fun q hq => ?_, rfl⟩
      by_cases hqp : q < p
      · exact hpassed q hqp hq
      · -- the name would occur behind `p`
        rw [findSeq_eq_none_iff hne] at hf
        refine hf (hq.1.isInfix.trans ?_)
        have hdrop : t.drop q = (t.drop p).drop (q - p) := by
          rw [List.drop_drop]
          congr 1
          omega
        rw [hdrop]
        exact (List.drop_suffix _ _).isInfix
  | case3 p hne i hf q atStart after hfield =>
      obtain ⟨hocc, hnone⟩ := occurrence_of_passed hne hpassed hf
      exact .inl ⟨q, ⟨⟨hocc, hfield⟩, hnone⟩, rfl⟩
  | case4 p hne i hf q atStart after hfield ih =>
      obtain ⟨hocc, hnone⟩ := occurrence_of_passed hne hpassed hf
      -- the search goes on behind the occurrence it has rejected
      refine ih fun j hj h => ?_
      rcases lt_trichotomy j q with hlt | rfl | hgt
      · exact hnone j hlt h
      · exact hfield h.2
      · exact not_fieldAt_inside hkey hocc hgt hj h

/-- **`rtsp_transport_port`** returns what the header carries, or `-1` if it has no such field. -/
theorem rtspTransportPort_eq_iff (hkey : IsFieldName key) {transport : Bytes} {port : ℤ} :
    rtspTransportPort transport key = port ↔
      CarriesPort transport key port ∨ (∀ q, ¬FieldAt (cstr transport) key q) ∧ port = -1 := by
  have hspec := rtspTransportPortFrom_spec (t := cstr transport) hkey 0
    fun j hj => absurd hj j.not_lt_zero
  unfold rtspTransportPort
  rcases hspec with ⟨q, hq, hport⟩ | ⟨hnone, hport⟩
  · rw [hport]
    constructor
    · exact fun h => .inl ⟨q, hq, h⟩
    · rintro (⟨r, hr, h⟩ | ⟨hnone, -⟩)
      · rw [hq.unique hr, h]
      · exact absurd hq.1 (hnone q)
  · rw [hport]
    constructor
    · exact fun h => .inr ⟨hnone, h.symm⟩
    · rintro (⟨r, hr, -⟩ | ⟨-, h⟩)
      · exact absurd hr.1 (hnone r)
      · exact h.symm

/-- Every port but `-1` is one that the header carries. -/
theorem rtspTransportPort_eq_iff_carriesPort (hkey : IsFieldName key) {transport : Bytes} {port : ℤ}
    (hport : port ≠ -1) : rtspTransportPort transport key = port ↔ CarriesPort transport key port := by
  rw [rtspTransportPort_eq_iff hkey, or_iff_left fun h => hport h.2]

end ConduitStream
