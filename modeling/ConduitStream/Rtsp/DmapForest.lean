import ConduitStream.Rtsp.Dmap

/-! # Decoding an encoded forest of DMAP items

A forest of items has an encoding, and a list of text items with the number of `mlit` containers each
lies in. `dmap_parse` on any front part of the encoding sees the items that lie in it as a whole:
of their text items, those under at most `dmapMaxDepth` containers (`dmapWalk_items`). -/

namespace ConduitStream

/-- An item: a text without NUL, a value of a code that is not looked at, or a container. -/
inductive DmapItem where
  | text (f : DmapText) (value : {v : Bytes // 0 ∉ v})
  | unknown (code : {c : ℕ // c < 2 ^ 32 ∧ c ≠ dmapMlit ∧ ∀ f : DmapText, c ≠ f.code}) (value : Bytes)
  | mlit (items : List DmapItem)

/-- A text item in its place: how many containers it lies in, and what it holds. -/
structure DmapTextAt where
  level : ℕ
  field : DmapText
  value : {v : Bytes // 0 ∉ v}

/-- A 32-bit number in big-endian order. -/
def be32 (n : ℕ) : Bytes :=
  [UInt8.ofNat (n / 2 ^ 24), UInt8.ofNat (n / 2 ^ 16), UInt8.ofNat (n / 2 ^ 8), UInt8.ofNat n]

namespace DmapItem

/-- The code of an item. -/
def code : DmapItem → ℕ
  | text f _ => f.code
  | unknown c _ => c
  | mlit _ => dmapMlit

mutual

/-- The value of an item. -/
def value : DmapItem → Bytes
  | text _ v => v
  | unknown _ v => v
  | mlit items => encode items

/-- The encoding of a list of items: code, length and value of each. -/
def encode : List DmapItem → Bytes
  | [] => []
  | item :: items => be32 item.code ++ be32 item.value.length ++ item.value ++ encode items

end

mutual

/-- The text items of an item that lies in `level` containers. -/
def textsIn (level : ℕ) : DmapItem → List DmapTextAt
  | text f v => [{ level := level, field := f, value := v }]
  | unknown _ _ => []
  | mlit items => texts (level + 1) items

/-- The text items of a list of items, in document order. -/
def texts (level : ℕ) : List DmapItem → List DmapTextAt
  | [] => []
  | item :: items => textsIn level item ++ texts level items

end

/-- The leading items whose encoding lies within `n` bytes. -/
def wholeItems (n : ℕ) : List DmapItem → List DmapItem
  | [] => []
  | item :: items =>
      if item.value.length + 8 ≤ n then item :: wholeItems (n - (item.value.length + 8)) items else []

/-- Induction over a forest: the items in a container, and the items behind it. -/
theorem forest_induction {P : List DmapItem → Prop} (nil : P [])
    (text : ∀ f v items, P items → P (text f v :: items))
    (unknown : ∀ c v items, P items → P (unknown c v :: items))
    (mlit : ∀ inner items, P inner → P items → P (mlit inner :: items)) :
    ∀ items, P items
  | [] => nil
  | .text f v :: items => text f v items (forest_induction nil text unknown mlit items)
  | .unknown c v :: items => unknown c v items (forest_induction nil text unknown mlit items)
  | .mlit inner :: items =>
      mlit inner items (forest_induction nil text unknown mlit inner)
        (forest_induction nil text unknown mlit items)

/-- An item takes its value and eight bytes. -/
theorem length_encode_cons (item : DmapItem) (items : List DmapItem) :
    (encode (item :: items)).length = item.value.length + 8 + (encode items).length := by
  rw [encode, List.length_append, List.length_append, List.length_append]
  simp only [be32, List.length_cons, List.length_nil]
  omega

/-- All items lie within the whole encoding. -/
theorem wholeItems_of_le {items : List DmapItem} {n : ℕ} (h : (encode items).length ≤ n) :
    wholeItems n items = items := by
  induction items generalizing n with
  | nil => rfl
  | cons item items ih =>
      rw [length_encode_cons] at h
      rw [wholeItems, if_pos (by omega), ih (by omega)]

/-- The items of a list lie in at least as many containers as the list does. -/
theorem level_le_of_mem_texts (items : List DmapItem) :
    ∀ {level : ℕ} {t : DmapTextAt}, t ∈ texts level items → level ≤ t.level := by
  induction items using forest_induction with
  | nil =>
      intro level t ht
      rw [texts] at ht
      cases ht
  | text f v items ih =>
      intro level t ht
      rw [texts, textsIn, List.mem_append, List.mem_singleton] at ht
      rcases ht with rfl | ht
      · exact le_rfl
      · exact ih ht
  | unknown c v items ih =>
      intro level t ht
      rw [texts, textsIn, List.nil_append] at ht
      exact ih ht
  | mlit inner items ihinner ih =>
      intro level t ht
      rw [texts, textsIn, List.mem_append] at ht
      rcases ht with ht | ht
      · exact (Nat.le_succ level).trans (ihinner ht)
      · exact ih ht

end DmapItem

/-! ## The tags and the numbers of an encoding -/

/-- The code of a text field is its tag. -/
theorem dmapTag_code (f : DmapText) : dmapTag f.code = .text f := by cases f <;> decide

/-- Any other code is passed over. -/
theorem dmapTag_of_ne {c : ℕ} (hmlit : c ≠ dmapMlit) (hc : ∀ f : DmapText, c ≠ f.code) :
    dmapTag c = .other := by
  rw [dmapTag, if_neg hmlit, if_neg (hc .title), if_neg (hc .artist), if_neg (hc .album)]

/-- The code of a text field has four bytes. -/
theorem DmapText.code_lt (f : DmapText) : f.code < 2 ^ 32 := by cases f <;> decide

/-- So has the code of any item. -/
theorem DmapItem.code_lt (item : DmapItem) : item.code < 2 ^ 32 := by
  cases item with
  | text f v => exact f.code_lt
  | unknown c v => exact c.2.1
  | mlit items => exact show dmapMlit < 2 ^ 32 by decide

/-- A number is read back where it has been written. -/
theorem dmapRdBe32_be32 {buf : Bytes} {i n : ℕ} (hn : n < 2 ^ 32) (h : be32 n <+: buf.drop i) :
    dmapRdBe32 buf i = some n := by
  obtain ⟨t, ht⟩ := h
  have hread : ∀ k, buf[i + k]? = (be32 n ++ t)[k]? := fun k => by rw [ht, List.getElem?_drop]
  have h0 := hread 0
  have h1 := hread 1
  have h2 := hread 2
  have h3 := hread 3
  rw [Nat.add_zero] at h0
  rw [dmapRdBe32, h0, h1, h2, h3]
  have hvalue := shiftLeft_or_bytes (a := (UInt8.ofNat (n / 2 ^ 24)).toNat)
    (UInt8.toNat_lt (UInt8.ofNat (n / 2 ^ 16))) (UInt8.toNat_lt (UInt8.ofNat (n / 2 ^ 8)))
    (UInt8.toNat_lt (UInt8.ofNat n))
  refine congrArg some (hvalue.trans ?_)
  simp only [UInt8.toNat_ofNat']
  omega

/-! ## Ranges of the buffer -/

/-- The bytes from `off` to before `stop` are a front part of `s`. -/
structure IsFront (buf : Bytes) (off stop : ℕ) (s : Bytes) : Prop where
  off_le : off ≤ stop
  stop_le : stop ≤ buf.length
  bytes : (buf.drop off).take (stop - off) <+: s

namespace IsFront

variable {buf s t : Bytes} {off stop : ℕ}

/-- What lies in the range in full. -/
theorem front (h : IsFront buf off stop (s ++ t)) (hs : s.length ≤ stop - off) :
    s <+: buf.drop off := by
  have hlen : s.length ≤ ((buf.drop off).take (stop - off)).length := by
    have := h.stop_le
    rw [List.length_take, List.length_drop]
    omega
  exact (List.prefix_of_prefix_length_le (List.prefix_append s t) h.bytes hlen).trans
    (List.take_prefix _ _)

/-- Behind a first part of the text, the rest of the text is at the front. -/
theorem rest (h : IsFront buf off stop (s ++ t)) (hs : s.length ≤ stop - off) :
    IsFront buf (off + s.length) stop t := by
  have hoff := h.off_le
  have hstop := h.stop_le
  refine ⟨by omega, hstop, ?_⟩
  have hdrop := List.IsPrefix.drop h.bytes s.length
  rwa [List.drop_take, List.drop_drop, List.drop_left, Nat.sub_sub] at hdrop

/-- A part of the buffer is the front of itself. -/
theorem of_front (h : s <+: buf.drop off) (hoff : off ≤ buf.length) :
    IsFront buf off (off + s.length) s := by
  have hlen := h.length_le
  rw [List.length_drop] at hlen
  refine ⟨Nat.le_add_right _ _, by omega, ?_⟩
  rw [Nat.add_sub_cancel_left, ← List.prefix_iff_eq_take.mp h]

end IsFront

/-! ## The walk over a forest -/

/-- The text items the walk looks at. -/
def withinDepth (ts : List DmapTextAt) : List DmapTextAt := ts.filter (·.level ≤ dmapMaxDepth)

/-- The texts of two forests in a row. -/
theorem withinDepth_append (ts ts' : List DmapTextAt) :
    withinDepth (ts ++ ts') = withinDepth ts ++ withinDepth ts' := List.filter_append ..

/-- The text items are stored one after the other. -/
def DmapMeta.storeAll (out : DmapMeta) (ts : List DmapTextAt) : DmapMeta :=
  ts.foldl (fun out t => out.store t.field (t.value.val.take (dmapStrMax - 1))) out

/-- Storing the texts of two forests in a row. -/
theorem DmapMeta.storeAll_append (out : DmapMeta) (ts ts' : List DmapTextAt) :
    out.storeAll (ts ++ ts') = (out.storeAll ts).storeAll ts' := List.foldl_append

/-- The text items the walk at `depth` sees in the first `n` bytes. -/
def DmapItem.seen (depth n : ℕ) (items : List DmapItem) : List DmapTextAt :=
  withinDepth (texts depth (wholeItems n items))

open DmapItem (seen textsIn texts wholeItems encode)

/-- The walk over a front part of the encoding of `items` stores the text items it sees. -/
def Walks (buf : Bytes) (items : List DmapItem) : Prop :=
  ∀ {off stop depth : ℕ} (count : ℕ) (run : DmapRun), IsFront buf off stop (encode items) →
    (encode items).length < 2 ^ 32 → depth ≤ dmapMaxDepth →
    ∃ run', dmapWalk buf off stop depth count run
        = some (count + (seen depth (stop - off) items).length, run') ∧
      run'.out = run.out.storeAll (seen depth (stop - off) items)

/-- One turn of the loop, on an item that lies in front of the end. -/
def Turns (buf : Bytes) (item : DmapItem) : Prop :=
  ∀ {off stop depth : ℕ} (count : ℕ) (run : DmapRun), off + 8 + item.value.length ≤ stop →
    stop ≤ buf.length → dmapRdBe32 buf off = some item.code →
    dmapRdBe32 buf (off + 4) = some item.value.length → item.value.length < 2 ^ 32 →
    item.value <+: buf.drop (off + 8) → depth ≤ dmapMaxDepth →
    ∃ run', dmapWalk buf off stop depth count run
        = dmapWalk buf (off + 8 + item.value.length) stop depth
            (count + (withinDepth (textsIn depth item)).length) run' ∧
      run'.out = run.out.storeAll (withinDepth (textsIn depth item))

/-- A text item is stored in its field, and the loop goes on behind it. -/
theorem turns_text (buf : Bytes) (f : DmapText) (v : {v : Bytes // 0 ∉ v}) :
    Turns buf (.text f v) := by
  intro off stop depth count run hfits hstop hcode hvlen _ hvalue hdepth
  have hvalue' : v.val <+: buf.drop (off + 8) := hvalue
  have hlen : (DmapItem.text f v).value.length = v.val.length := rfl
  rw [hlen] at hfits hvlen ⊢
  have hsrc : (buf.drop (off + 8)).take (min v.val.length (dmapStrMax - 1))
      = v.val.take (dmapStrMax - 1) := by
    conv_rhs => rw [List.prefix_iff_eq_take.mp hvalue', List.take_take, min_comm]
  have hone : withinDepth (textsIn depth (.text f v)) = [⟨depth, f, v⟩] := by
    rw [textsIn, withinDepth, List.filter_singleton, decide_eq_true hdepth]
    rfl
  rw [dmapWalk_of_fits (by omega) hcode hvlen (by omega), hone]
  have htag : dmapTag (DmapItem.code (.text f v)) = .text f := dmapTag_code f
  rw [htag]
  dsimp only
  rw [dmapCopyStr_of_le (by omega), hsrc]
  exact ⟨_, rfl, rfl⟩

/-- An unknown item is passed over. -/
theorem turns_unknown (buf : Bytes)
    (c : {c : ℕ // c < 2 ^ 32 ∧ c ≠ dmapMlit ∧ ∀ f : DmapText, c ≠ f.code}) (v : Bytes) :
    Turns buf (.unknown c v) := by
  intro off stop depth count run hfits hstop hcode hvlen _ _ _
  have htag : dmapTag (DmapItem.code (.unknown c v)) = .other := dmapTag_of_ne c.2.2.1 c.2.2.2
  rw [dmapWalk_of_fits (by omega) hcode hvlen (by omega), htag, textsIn]
  exact ⟨_, rfl, rfl⟩

/-- A container is walked by an activation of its own, unless it lies too deep; then the text items in
it do so, too. -/
theorem turns_mlit {buf : Bytes} {inner : List DmapItem} (hinner : Walks buf inner) :
    Turns buf (.mlit inner) := by
  intro off stop depth count run hfits hstop hcode hvlen hsize hvalue hdepth
  have htag : dmapTag (DmapItem.code (.mlit inner)) = .mlit :=
    show dmapTag dmapMlit = .mlit by decide
  have hlen : (DmapItem.mlit inner).value = encode inner := rfl
  rw [hlen] at hfits hvlen hsize hvalue ⊢
  rw [dmapWalk_of_fits (by omega) hcode hvlen (by omega), htag, textsIn]
  dsimp only
  by_cases hdeep : depth < dmapMaxDepth
  · -- the nested walk has the value as its range, so all its items are whole
    have hfront := IsFront.of_front hvalue (by omega)
    obtain ⟨run', hwalk, hout⟩ := hinner 0 run.header.enter hfront hsize hdeep
    have hseen : seen (depth + 1) (off + 8 + (encode inner).length - (off + 8)) inner
        = withinDepth (texts (depth + 1) inner) := by
      rw [seen, DmapItem.wholeItems_of_le (by omega)]
    rw [hseen] at hwalk hout
    rw [if_pos hdeep, hwalk]
    refine ⟨run'.leave, ?_, hout⟩
    dsimp only [Option.bind_eq_bind, Option.bind_some]
    rw [Nat.zero_add]
  · have hnone : withinDepth (texts (depth + 1) inner) = [] := by
      refine List.filter_eq_nil_iff.mpr fun t ht => ?_
      have := DmapItem.level_le_of_mem_texts inner ht
      simpa using (by omega : dmapMaxDepth < t.level)
    rw [if_neg hdeep, hnone]
    exact ⟨run.header, rfl, rfl⟩

/-- Behind the last item the loop ends. -/
theorem walks_nil (buf : Bytes) : Walks buf [] := by
  intro off stop depth count run hfront _ _
  have hlen := hfront.bytes.length_le
  have hoff := hfront.off_le
  have hstop := hfront.stop_le
  rw [encode, List.length_nil, List.length_take, List.length_drop] at hlen
  exact ⟨run, dmapWalk_of_short (by omega), rfl⟩

/-- One turn of the loop, and the walk over the rest; if the first item is cut off, the walk ends
there. -/
theorem walks_cons {buf : Bytes} {item : DmapItem} {items : List DmapItem} (hitem : Turns buf item)
    (hitems : Walks buf items) : Walks buf (item :: items) := by
  intro off stop depth count run hfront hsize hdepth
  have hstop := hfront.stop_le
  have hoff := hfront.off_le
  rw [DmapItem.length_encode_cons] at hsize
  rw [encode, List.append_assoc, List.append_assoc] at hfront
  have hcodeLen : (be32 item.code).length = 4 := rfl
  have hvlenLen : (be32 item.value.length).length = 4 := rfl
  by_cases hshort : stop < off + 8
  -- the cut lies in the header of the item
  · have hnone : seen depth (stop - off) (item :: items) = [] := by
      rw [seen, wholeItems, if_neg (by omega)]
      rfl
    rw [hnone]
    exact ⟨run, dmapWalk_of_short hshort, rfl⟩
  · have hcode := dmapRdBe32_be32 item.code_lt (hfront.front (by omega))
    have hfront4 := hfront.rest (by omega)
    have hvlen := dmapRdBe32_be32 (by omega) (hfront4.front (by omega))
    have hfront8 := hfront4.rest (by omega)
    rw [hcodeLen] at hvlen hfront8
    rw [hvlenLen, Nat.add_assoc] at hfront8
    by_cases hfits : item.value.length ≤ stop - (off + 8)
    · have hvalue := hfront8.front hfits
      obtain ⟨run₁, hturn, hout₁⟩ :=
        hitem count run (by omega) hstop hcode hvlen (by omega) hvalue hdepth
      obtain ⟨run₂, hwalk, hout₂⟩ := hitems (count + (withinDepth (textsIn depth item)).length) run₁
        (hfront8.rest hfits) (by omega) hdepth
      have hseen : seen depth (stop - off) (item :: items)
          = withinDepth (textsIn depth item)
            ++ seen depth (stop - (off + 8 + item.value.length)) items := by
        rw [seen, wholeItems, if_pos (by omega), texts, withinDepth_append, seen,
          show stop - off - (item.value.length + 8) = stop - (off + 8 + item.value.length) by omega]
      refine ⟨run₂, ?_, ?_⟩
      · rw [hturn, hwalk, hseen, List.length_append, Nat.add_assoc]
      · rw [hout₂, hout₁, hseen, DmapMeta.storeAll_append]
    -- the cut lies in its value
    · have hnone : seen depth (stop - off) (item :: items) = [] := by
        rw [seen, wholeItems, if_neg (by omega)]
        rfl
      rw [hnone]
      exact ⟨run.header, dmapWalk_of_overrun (by omega) hcode hvlen (by omega), rfl⟩

/-- **The walk over any forest**, by induction on its items and those in its containers. -/
theorem dmapWalk_items (buf : Bytes) (items : List DmapItem) : Walks buf items := by
  induction items using DmapItem.forest_induction with
  | nil => exact walks_nil buf
  | text f v items ih => exact walks_cons (turns_text buf f v) ih
  | unknown c v items ih => exact walks_cons (turns_unknown buf c v) ih
  | mlit inner items ihinner ih => exact walks_cons (turns_mlit ihinner) ih

/-! ## What is stored -/

/-- The last of the text items of a field. -/
def lastText (f : DmapText) (ts : List DmapTextAt) : Option DmapTextAt :=
  (ts.filter (·.field = f)).getLast?

/-- One text more is the last one of its field. -/
theorem lastText_append_singleton (f : DmapText) (ts : List DmapTextAt) (t : DmapTextAt) :
    lastText f (ts ++ [t]) = if t.field = f then some t else lastText f ts := by
  rw [lastText, getLast?_filter_concat]
  simp only [decide_eq_true_eq]
  rfl

/-- **The last text item of a field wins.** -/
theorem DmapMeta.storeAll_zero (f : DmapText) (ts : List DmapTextAt) :
    ((zero.storeAll ts).has f = true ↔ ∃ t ∈ ts, t.field = f) ∧
      ((zero.storeAll ts).str f).str
        = ((lastText f ts).map (·.value.val.take (dmapStrMax - 1))).getD [] := by
  induction ts using List.reverseRecOn with
  | nil => exact ⟨iff_of_false Bool.false_ne_true (by simp), CharArray.str_zero _⟩
  | append_singleton ts t ih =>
      obtain ⟨ihhas, ihstr⟩ := ih
      have hstep : zero.storeAll (ts ++ [t])
          = (zero.storeAll ts).store t.field (t.value.val.take (dmapStrMax - 1)) := List.foldl_concat ..
      rw [hstep, lastText_append_singleton]
      by_cases hf : t.field = f
      · subst hf
        have hnul : 0 ∉ t.value.val.take (dmapStrMax - 1) := fun h =>
          t.value.2 (List.mem_of_mem_take h)
        rw [if_pos rfl, has_store, str_store, CharArray.str_copy _ (by decide) hnul, List.take_take,
          min_self]
        exact ⟨iff_of_true rfl ⟨t, by simp, rfl⟩, rfl⟩
      · have hne : f ≠ t.field := fun h => hf h.symm
        obtain ⟨hstr, hhas⟩ :=
          (zero.storeAll ts).store_of_ne hne (t.value.val.take (dmapStrMax - 1))
        rw [if_neg hf, hstr, hhas, ihhas]
        refine ⟨?_, ihstr⟩
        simp [hf]

/-- **Decoding inverts encoding, up to truncation.** On any front part `p` of the encoding of a
forest, `dmap_parse` sees the items that lie in `p` as a whole: `ts` are the text items in them, in
document order, that lie in at most 4 containers. It returns how many they are, a field is flagged
if and only if one of them has it, and its string is the first 127 bytes of the last such item. -/
theorem dmapParse_encode (items : List DmapItem) (p : Bytes) (hp : p <+: encode items)
    (hsize : (encode items).length < 2 ^ 32) :
    ∃ out, let ts := (texts 0 (wholeItems p.length items)).filter (·.level ≤ 4)
      dmapParse (some p) = some (ts.length, out) ∧
      ∀ f : DmapText, (out.has f = true ↔ ∃ t ∈ ts, t.field = f) ∧
        (out.str f).str
          = (((ts.filter (·.field = f)).getLast?).map (·.value.val.take 127)).getD [] := by
  have hfront : IsFront p 0 p.length (encode items) :=
    ⟨Nat.zero_le _, le_rfl, by rw [List.drop_zero, Nat.sub_zero, List.take_length]; exact hp⟩
  obtain ⟨run, hwalk, hout⟩ := dmapWalk_items p items 0
    (DmapRun.enter { out := .zero, headers := 0, live := 0, peak := 0 }) hfront hsize
    (Nat.zero_le _)
  rw [Nat.sub_zero, Nat.zero_add] at hwalk
  rw [Nat.sub_zero] at hout
  refine ⟨run.out, ?_, fun f => ?_⟩
  · rw [dmapParse, dmapParseRun]
    dsimp only
    rw [hwalk]
    rfl
  · rw [hout]
    exact DmapMeta.storeAll_zero f _

/-- A title in a container, and an artist whose last byte is cut off. -/
theorem dmapParse_encode_cut :
    ∃ out, dmapParse (some ((encode [.mlit [.text .title ⟨ascii "Hi", by decide⟩],
        .text .artist ⟨ascii "AB", by decide⟩]).take 27)) = some (1, out) ∧
      (out.str .title).str = ascii "Hi" ∧ ¬out.has .artist = true := by
  obtain ⟨out, hparse, hfields⟩ := dmapParse_encode
    [.mlit [.text .title ⟨ascii "Hi", by decide⟩], .text .artist ⟨ascii "AB", by decide⟩] _
    (List.take_prefix 27 _) (by decide)
  refine ⟨out, hparse, (hfields .title).2, fun h => ?_⟩
  obtain ⟨t, ht, hfield⟩ := (hfields .artist).1.mp h
  have hone : t = ⟨1, .title, ⟨ascii "Hi", by decide⟩⟩ := List.mem_singleton.mp ht
  rw [hone] at hfield
  cases hfield

end ConduitStream
