import ConduitStream.Rtsp.DmapForest
import ConduitStream.Rtsp.SetParameter

/-! # What is playing (`raop_metadata.c`, `handle_set_parameter` in `raop.c`)

The bodies of SET_PARAMETER requests name title, artist and album, each body as many of them as it
likes. `raop_metadata_update` merges what a body names into the store and logs the store if it has
changed; the end of a session clears it. `nowPlaying_last` says what the store holds after any
history of requests and sessions. -/

namespace ConduitStream

/-! ## The store -/

/-- `upd`: the string, and whether it has changed. -/
def upd (dst : CharArray dmapStrMax) (has : Bool) (src : CharArray dmapStrMax) :
    CharArray dmapStrMax × Bool :=
  if has = false then (dst, false)
  else if strcmpEq dst.bytes src.bytes then (dst, false)
  else (dst.strncpy src.bytes, true)

/-- `raop_metadata_update` on `s_cur`, and whether it logs what is playing. -/
def raopMetadataUpdate (m cur : DmapMeta) : DmapMeta × Bool :=
  let title := upd (cur.str .title) (m.has .title) (m.str .title)
  let artist := upd (cur.str .artist) (m.has .artist) (m.str .artist)
  let album := upd (cur.str .album) (m.has .album) (m.str .album)
  ({ cur with str := fun
      | .title => title.1
      | .artist => artist.1
      | .album => album.1 },
    title.2 || artist.2 || album.2)

/-- `raop_metadata_clear`. -/
def raopMetadataClear : DmapMeta := .zero

/-- The kind of a SET_PARAMETER request. -/
def setparamKind (req : RtspRequest) : SetparamKind :=
  setparamClassify (rtspHeaderGet req.headers (ascii "Content-Type"))

/-- What `handle_set_parameter` makes of the store; `none` is an access outside the body. -/
def setParameterMetadata (req : RtspRequest) (cur : DmapMeta) : Option (DmapMeta × Bool) :=
  match setparamKind req with
  | .setparamMetadata =>
      if req.body = [] then some (cur, false)
      else (dmapParse (some req.body)).map fun r => raopMetadataUpdate r.2 cur
  | .setparamVolume | .setparamOther => some (cur, false)

/-- What happens to the store. -/
inductive MetadataEvent
  | setParameter (req : RtspRequest)
  /-- `session_teardown_full` -/
  | teardown

/-- One step of it, and whether the store is logged. -/
def metadataStep (cur : DmapMeta) : MetadataEvent → Option (DmapMeta × Bool)
  | .setParameter req => setParameterMetadata req cur
  | .teardown => some (raopMetadataClear, false)

/-- The store after a list of events. -/
def metadataRun (evs : List MetadataEvent) : Option DmapMeta :=
  evs.foldlM (fun cur e => (metadataStep cur e).map (·.1)) .zero

/-- The store behind one event more is what the event makes of it. -/
theorem metadataRun_concat (evs : List MetadataEvent) (e : MetadataEvent) :
    metadataRun (evs ++ [e]) = (metadataRun evs).bind fun cur => (metadataStep cur e).map (·.1) := by
  simp [metadataRun, List.foldlM_append]

/-! ## Merging -/

section Update

variable {dst src : CharArray dmapStrMax} {has : Bool}

/-- `strcmp` compares the strings of two arrays. -/
theorem strcmpEq_bytes (a b : CharArray dmapStrMax) :
    strcmpEq a.bytes b.bytes = true ↔ a.str = b.str := by
  rw [strcmpEq, decide_eq_true_eq]
  exact Iff.rfl

/-- A field that is present replaces the one in the store. -/
theorem str_upd (hsrc : src.Terminated) :
    (upd dst has src).1.str = if has = true then src.str else dst.str := by
  have hlen := src.str_length_lt hsrc
  cases has with
  | false => rfl
  | true =>
      rw [upd, if_neg (by decide), if_pos rfl]
      by_cases heq : strcmpEq dst.bytes src.bytes = true
      · rw [if_pos heq]
        exact (strcmpEq_bytes dst src).mp heq
      · rw [if_neg heq, CharArray.str_strncpy _ (by decide)]
        exact List.take_of_length_le (by unfold CharArray.str at hlen; omega)

/-- It counts as changed exactly if it reads otherwise. -/
theorem changed_upd (hsrc : src.Terminated) :
    (upd dst has src).2 = true ↔ (upd dst has src).1.str ≠ dst.str := by
  rw [str_upd hsrc]
  cases has with
  | false => simp [upd]
  | true =>
      rw [upd, if_neg (by decide), if_pos rfl]
      by_cases heq : strcmpEq dst.bytes src.bytes = true
      · rw [if_pos heq, (strcmpEq_bytes dst src).mp heq]
        simp
      · rw [if_neg heq]
        exact iff_of_true rfl fun h => heq ((strcmpEq_bytes dst src).mpr h.symm)

/-- Updating a string keeps it terminated. -/
theorem terminated_upd (hdst : dst.Terminated) : (upd dst has src).1.Terminated := by
  unfold upd
  split_ifs
  · exact hdst
  · exact hdst
  · exact CharArray.terminated_strncpy dst (by decide) _

end Update

variable {m cur : DmapMeta}

/-- Each field is updated by itself. -/
theorem str_raopMetadataUpdate (m cur : DmapMeta) (f : DmapText) :
    (raopMetadataUpdate m cur).1.str f = (upd (cur.str f) (m.has f) (m.str f)).1 := by
  cases f <;> rfl

/-- **The store is logged exactly if one of its strings reads otherwise than before.** -/
theorem logged_raopMetadataUpdate (hm : m.Terminated) :
    (raopMetadataUpdate m cur).2 = true ↔
      ∃ f, ((raopMetadataUpdate m cur).1.str f).str ≠ (cur.str f).str := by
  have hchanged : ∀ f, (upd (cur.str f) (m.has f) (m.str f)).2 = true ↔
      ((raopMetadataUpdate m cur).1.str f).str ≠ (cur.str f).str := by
    intro f
    rw [str_raopMetadataUpdate]
    exact changed_upd (hm f)
  have hlogged : (raopMetadataUpdate m cur).2 =
      ((upd (cur.str .title) (m.has .title) (m.str .title)).2 ||
        (upd (cur.str .artist) (m.has .artist) (m.str .artist)).2 ||
        (upd (cur.str .album) (m.has .album) (m.str .album)).2) := rfl
  rw [hlogged, Bool.or_eq_true, Bool.or_eq_true, hchanged, hchanged, hchanged]
  constructor
  · rintro ((h | h) | h)
    · exact ⟨_, h⟩
    · exact ⟨_, h⟩
    · exact ⟨_, h⟩
  · rintro ⟨f, h⟩
    cases f with
    | title => exact .inl (.inl h)
    | artist => exact .inl (.inr h)
    | album => exact .inr h

/-! ## What the store holds -/

open DmapItem (encode seen)

/-- The text items of one request: `items` are those its body has been made of. -/
def announcedTexts (items : RtspRequest → List DmapItem) (req : RtspRequest) : List DmapTextAt :=
  if setparamKind req = .setparamMetadata then seen 0 req.body.length (items req) else []

/-- The text items since the end of the last session. -/
def playingTexts (items : RtspRequest → List DmapItem) (evs : List MetadataEvent) : List DmapTextAt :=
  evs.foldl (fun ts e =>
    match e with
    | .setParameter req => ts ++ announcedTexts items req
    | .teardown => []) []

/-- What is playing: of each field the last text, up to 127 bytes, and nothing if there is none. -/
def playing (items : RtspRequest → List DmapItem) (evs : List MetadataEvent) (f : DmapText) : Bytes :=
  ((lastText f (playingTexts items evs)).map (·.value.val.take 127)).getD []

/-- The body is a front part of the encoding of the items. -/
def Announces (items : List DmapItem) (req : RtspRequest) : Prop :=
  setparamKind req = .setparamMetadata →
    req.body <+: encode items ∧ (encode items).length < 2 ^ 32

/-- The last text of two stretches is that of the second one, if it has one. -/
theorem lastText_append (f : DmapText) (ts ts' : List DmapTextAt) :
    lastText f (ts ++ ts') = (lastText f ts').or (lastText f ts) := by
  rw [lastText, List.filter_append, List.getLast?_append, lastText, lastText]

/-- There is a last text if there is one at all. -/
theorem lastText_isSome {f : DmapText} {ts : List DmapTextAt} :
    (lastText f ts).isSome = true ↔ ∃ t ∈ ts, t.field = f := by
  simp [lastText]

/-- What a body leaves in the store is terminated. -/
theorem terminated_storeAll (ts : List DmapTextAt) : (DmapMeta.zero.storeAll ts).Terminated := by
  induction ts using List.reverseRecOn with
  | nil => exact DmapMeta.terminated_zero
  | append_singleton ts t ih =>
      rw [DmapMeta.storeAll_append]
      exact ih.store t.field _

/-- `dmap_parse` stores the text items it sees. -/
theorem dmapParse_seen {items : List DmapItem} {p : Bytes} (hp : p <+: encode items)
    (hsize : (encode items).length < 2 ^ 32) :
    dmapParse (some p) = some ((seen 0 p.length items).length,
      DmapMeta.zero.storeAll (seen 0 p.length items)) := by
  have hfront : IsFront p 0 p.length (encode items) :=
    ⟨Nat.zero_le _, le_rfl, by rwa [List.drop_zero, Nat.sub_zero, List.take_length]⟩
  obtain ⟨run, hwalk, hout⟩ := dmapWalk_items p items 0
    (DmapRun.enter { out := .zero, headers := 0, live := 0, peak := 0 }) hfront hsize (Nat.zero_le _)
  rw [Nat.sub_zero, Nat.zero_add] at hwalk
  rw [dmapParse, dmapParseRun]
  dsimp only
  rw [hwalk]
  exact congrArg (fun out => some (_, out)) hout

section Run

variable {items : RtspRequest → List DmapItem} {evs : List MetadataEvent} {cur : DmapMeta}

/-- Behind the end of a session nothing has been seen. -/
theorem playingTexts_teardown (evs : List MetadataEvent) :
    playingTexts items (evs ++ [.teardown]) = [] := by
  rw [playingTexts, List.foldl_concat]

/-- A request adds the texts it announces. -/
theorem playingTexts_setParameter (evs : List MetadataEvent) (req : RtspRequest) :
    playingTexts items (evs ++ [.setParameter req])
      = playingTexts items evs ++ announcedTexts items req := by
  rw [playingTexts, List.foldl_concat, ← playingTexts]

/-- Nothing is seen in an empty body. -/
theorem seen_zero (depth : ℕ) (items : List DmapItem) : seen depth 0 items = [] := by
  cases items with
  | nil => rfl
  | cons item items =>
      rw [seen, DmapItem.wholeItems, if_neg (by omega)]
      rfl

/-- The store is as it should be. -/
structure Shows (items : RtspRequest → List DmapItem) (evs : List MetadataEvent) (cur : DmapMeta) :
    Prop where
  terminated : cur.Terminated
  str : ∀ f, (cur.str f).str = playing items evs f

/-- The empty store shows what is playing at the start. -/
theorem shows_zero : Shows items [] .zero := ⟨DmapMeta.terminated_zero, fun _ => CharArray.str_zero _⟩

/-- A request replaces each field that its body names, and leaves the others playing. -/
theorem playing_setParameter (evs : List MetadataEvent) (req : RtspRequest) (f : DmapText) :
    playing items (evs ++ [.setParameter req]) f
      = if ∃ t ∈ announcedTexts items req, t.field = f
        then ((lastText f (announcedTexts items req)).map (·.value.val.take 127)).getD []
        else playing items evs f := by
  unfold playing
  rw [playingTexts_setParameter, lastText_append]
  split_ifs with h
  · obtain ⟨t, ht⟩ := Option.isSome_iff_exists.mp (lastText_isSome.mpr h)
    rw [ht]
    rfl
  · have hnone : lastText f (announcedTexts items req) = none := by
      rw [← Option.not_isSome_iff_eq_none, lastText_isSome]
      exact h
    rw [hnone, Option.none_or]

/-- A request that announces nothing leaves what is playing. -/
theorem playing_of_announces_nothing {req : RtspRequest} (h : announcedTexts items req = [])
    (evs : List MetadataEvent) : playing items (evs ++ [.setParameter req]) = playing items evs := by
  funext f
  rw [playing_setParameter, h, if_neg (by simp)]

/-- **A metadata request** merges what its body announces. -/
theorem Shows.update (h : Shows items evs cur) (req : RtspRequest) :
    Shows items (evs ++ [.setParameter req])
      (raopMetadataUpdate (DmapMeta.zero.storeAll (announcedTexts items req)) cur).1 where
  terminated f := by
    rw [str_raopMetadataUpdate]
    exact terminated_upd (h.terminated f)
  str f := by
    obtain ⟨hhas, hstr⟩ := DmapMeta.storeAll_zero f (announcedTexts items req)
    rw [str_raopMetadataUpdate, str_upd (terminated_storeAll _ f), playing_setParameter, h.str, hstr]
    exact if_congr hhas rfl rfl

/-- **Step lemma**: a request merges what it announces, and is logged exactly if that makes a
difference. -/
theorem Shows.setParameter (h : Shows items evs cur) {req : RtspRequest}
    (hreq : Announces (items req) req) :
    ∃ cur' logged, setParameterMetadata req cur = some (cur', logged) ∧
      Shows items (evs ++ [.setParameter req]) cur' ∧
      (logged = true ↔ playing items (evs ++ [.setParameter req]) ≠ playing items evs) := by
  have hsame : ∀ {logged : Bool}, announcedTexts items req = [] → logged = false →
      Shows items (evs ++ [.setParameter req]) cur ∧
        (logged = true ↔ playing items (evs ++ [.setParameter req]) ≠ playing items evs) := by
    rintro logged hnothing rfl
    have hplaying := playing_of_announces_nothing hnothing evs
    exact ⟨⟨h.terminated, hplaying ▸ h.str⟩, by simp [hplaying]⟩
  unfold setParameterMetadata
  by_cases hkind : setparamKind req = .setparamMetadata
  · obtain ⟨hbody, hsize⟩ := hreq hkind
    have htexts : announcedTexts items req = seen 0 req.body.length (items req) := if_pos hkind
    rw [hkind]
    dsimp only
    by_cases hempty : req.body = []
    · have hnothing : announcedTexts items req = [] := by
        rw [htexts, hempty, List.length_nil, seen_zero]
      rw [if_pos hempty]
      exact ⟨cur, false, rfl, hsame hnothing rfl⟩
    · rw [if_neg hempty, dmapParse_seen hbody hsize, ← htexts]
      have hupdate := h.update req
      have hlogged := @logged_raopMetadataUpdate
        (DmapMeta.zero.storeAll (announcedTexts items req)) cur (terminated_storeAll _)
      simp only [hupdate.str, h.str] at hlogged
      exact ⟨_, (raopMetadataUpdate (DmapMeta.zero.storeAll (announcedTexts items req)) cur).2, rfl,
        hupdate, hlogged.trans Function.ne_iff.symm⟩
  · have hnothing : announcedTexts items req = [] := if_neg hkind
    refine ⟨cur, false, ?_, hsame hnothing rfl⟩
    cases hother : setparamKind req with
    | setparamMetadata => exact absurd hother hkind
    | setparamVolume | setparamOther => rfl

/-- **Step lemma**: an event keeps the store in step, and is logged exactly if it changes what is playing. -/
theorem Shows.step (h : Shows items evs cur) {e : MetadataEvent}
    (he : ∀ req, e = .setParameter req → Announces (items req) req) :
    ∃ cur' logged, metadataStep cur e = some (cur', logged) ∧ Shows items (evs ++ [e]) cur' ∧
      (logged = true ↔ e ≠ .teardown ∧ playing items (evs ++ [e]) ≠ playing items evs) := by
  cases e with
  | setParameter req =>
      obtain ⟨cur', logged, hstep, hshows, hlogged⟩ := h.setParameter (he req rfl)
      exact ⟨cur', logged, hstep, hshows, hlogged.trans (by simp)⟩
  | teardown =>
      refine ⟨_, _, rfl, ⟨DmapMeta.terminated_zero, fun f => ?_⟩, by simp⟩
      rw [playing, playingTexts_teardown]
      exact CharArray.str_zero _

/-- **Run lemma**: so do any number of them. -/
theorem shows_metadataRun
    (hevs : ∀ req, .setParameter req ∈ evs → Announces (items req) req) :
    ∃ cur, metadataRun evs = some cur ∧ Shows items evs cur := by
  induction evs using List.reverseRecOn with
  | nil => exact ⟨_, rfl, shows_zero⟩
  | append_singleton evs e ih =>
      obtain ⟨cur, hrun, hshows⟩ := ih fun req hreq => hevs req (List.mem_append_left _ hreq)
      obtain ⟨cur', logged, hstep, hshows', -⟩ :=
        hshows.step (e := e) fun req hreq => hevs req (by simp [hreq])
      refine ⟨cur', ?_, hshows'⟩
      rw [metadataRun_concat, hrun, Option.bind_some, hstep]
      rfl

end Run

/-- **The store holds the last text of each field since the end of the last session.** For every history
of SET_PARAMETER requests of any kind and ends of sessions, where the body of each metadata request is the
encoding of a forest of items or a front part of one: no request reads outside its body, and the store has
of each field the first 127 bytes of the last text seen, and nothing if there is none, each string ending
within its array. A request is logged exactly if it changes what is playing. -/
theorem nowPlaying_last (items : RtspRequest → List DmapItem) (evs : List MetadataEvent)
    (e : MetadataEvent)
    (hevs : ∀ req, .setParameter req ∈ evs ++ [e] → Announces (items req) req) :
    ∃ cur cur' logged, metadataRun evs = some cur ∧ metadataStep cur e = some (cur', logged) ∧
      (∀ f, (cur'.str f).Terminated ∧ (cur'.str f).str = playing items (evs ++ [e]) f) ∧
      (logged = true ↔ e ≠ .teardown ∧ playing items (evs ++ [e]) ≠ playing items evs) := by
  obtain ⟨cur, hrun, hshows⟩ :=
    @shows_metadataRun items evs fun req hreq => hevs req (List.mem_append_left _ hreq)
  obtain ⟨cur', logged, hstep, hshows', hlogged⟩ :=
    hshows.step (e := e) fun req hreq => hevs req (by simp [hreq])
  exact ⟨cur, cur', logged, hrun, hstep, fun f => ⟨hshows'.terminated f, hshows'.str f⟩, hlogged⟩

/-- A title in a container. -/
def sampleTrack : List DmapItem := [.mlit [.text .title ⟨ascii "Hi", by decide⟩]]

/-- It is sent as metadata. -/
def sampleTagged : RtspRequest where
  method := ascii "SET_PARAMETER"
  uri := ascii "*"
  version := ascii "RTSP/1.0"
  headers := [⟨ascii "Content-Type", ascii "application/x-dmap-tagged"⟩]
  body := encode sampleTrack
  totalLen := 0

/-- A title is there once it has been sent, and gone behind the end of the session. -/
theorem nowPlaying_last_title :
    ∃ cur cur' logged, metadataRun [.setParameter sampleTagged] = some cur ∧
      (cur.str .title).str = ascii "Hi" ∧
      metadataStep cur .teardown = some (cur', logged) ∧ (cur'.str .title).str = [] := by
  have hevs : ∀ evs : List MetadataEvent, (∀ e ∈ evs, e = .setParameter sampleTagged ∨ e = .teardown) →
      ∀ req, .setParameter req ∈ evs → Announces sampleTrack req := by
    intro evs hevs req hreq
    obtain rfl : req = sampleTagged := by simpa using hevs _ hreq
    exact fun _ => ⟨List.prefix_refl _, by decide⟩
  obtain ⟨cur₀, cur₁, _, hempty, hsent, hshown, -⟩ :=
    nowPlaying_last (fun _ => sampleTrack) [] (.setParameter sampleTagged) (hevs _ (by simp))
  obtain ⟨cur, cur', logged, hrun, hstep, hgone, -⟩ :=
    nowPlaying_last (fun _ => sampleTrack) [.setParameter sampleTagged] .teardown (hevs _ (by simp))
  have hone : metadataRun [.setParameter sampleTagged] = some cur₁ := by
    rw [← List.nil_append [MetadataEvent.setParameter sampleTagged], metadataRun_concat, hempty,
      Option.bind_some, hsent, Option.map_some]
  obtain rfl : cur = cur₁ := Option.some.inj (hrun.symm.trans hone)
  refine ⟨cur, cur', logged, hrun, ?_, hstep, ?_⟩
  · rw [(hshown .title).2]
    decide
  · rw [(hgone .title).2, playing, playingTexts_teardown]
    rfl

end ConduitStream
