import ConduitStream.Session.RtspSteps

/-! # Starting and stopping the producers

`raop_rtp_start` and `audio_diag_tone_start` claim the producer slot before they create a task, and
every failure undoes what has been done so far; `raop_rtp_stop` and `audio_diag_tone_stop` wait for the
task before anything it uses is freed. -/

namespace ConduitStream

variable {meets : EventCondition} {α : Type} {v : SessionStatics} {m m' : SessionModel}

/-! ## Claiming the slot and creating a producer -/

/-- Somebody has the slot: nothing happens. -/
theorem acquire_taken {p : Producer} (hv : Steady v) (hheld : v.producerHeld = true) :
    RtspTriple meets (· = v) (audioProducerAcquire p) fun r s => r = false ∧ s = v := by
  have hsame : { v with producerHeld := true } = v := by rw [← hheld]
  have htest : RtspTriple meets (· = v)
      (.atom .access (·.onStatics ({ · with producerHeld := true })) (·.statics.producerHeld))
      fun held s => held = true ∧ s = v := by
    refine rtsp_atom (fun s hs => hs ▸ hv) (fun _ s hs => hs.2 ▸ hv) fun s hi hs => ?_
    rw [SessionState.onStatics_statics, hs, hsame]
    exact ⟨.refl v, hs ▸ hi, trivial, hheld, rfl⟩
  refine htest.bind fun held => .pure fun h => ?_
  subst h
  exact rtsp_ret (fun s hs => hs.2 ▸ hv) fun _ h => ⟨rfl, h⟩

/-- Nobody has the slot: it is claimed. -/
theorem acquire_free {p : Producer} (hv : Dead v) (hheld : v.producerHeld = false) :
    RtspTriple meets (· = v) (audioProducerAcquire p) fun r s =>
      r = true ∧ s = { v with producerHeld := true, producerOwner := some p } := by
  have htest : RtspTriple meets (· = v)
      (.atom .access (·.onStatics ({ · with producerHeld := true })) (·.statics.producerHeld))
      fun held s => held = false ∧ s = { v with producerHeld := true } := by
    have hv' : Dead { v with producerHeld := true } := hv
    refine rtsp_atom (fun s hs => hs ▸ hv.steady) (fun _ s hs => hs.2 ▸ hv'.steady) fun s _ hs => ?_
    rw [SessionState.onStatics_statics, hs]
    exact ⟨hv.rtspStep hv', hv'.inv, trivial, hheld, rfl⟩
  refine htest.bind fun held => .pure fun h => ?_
  subst h
  have howner : RtspTriple meets (· = { v with producerHeld := true })
      (.modify .access (·.onStatics ({ · with producerOwner := some p })))
      fun _ s => s = { v with producerHeld := true, producerOwner := some p } :=
    dead_rtsp hv hv (fun s hs => by rw [SessionState.onStatics_statics, hs]) trivial
  exact howner.bind fun _ => rtsp_ret (fun s hs => hs.2 ▸ hv.steady) fun _ h => ⟨rfl, h⟩

/-- The RTSP task gives back a slot it has claimed for nothing. -/
theorem release_rtsp (hv : Dead v) (hheld : v.producerHeld = true) :
    RtspTriple meets (· = v) audioProducerRelease fun _ s =>
      s = { v with producerHeld := false, producerOwner := none } := by
  have howner : RtspTriple meets (· = v)
      (.modify .access (·.onStatics ({ · with producerOwner := none })))
      fun _ s => s = { v with producerOwner := none } :=
    dead_rtsp hv hv (fun s hs => by rw [SessionState.onStatics_statics, hs]) trivial
  refine howner.bind fun _ => dead_rtsp hv hv (fun s hs => ?_) ⟨hheld, fun p hp => ?_⟩
  · rw [SessionState.onStatics_statics, hs]
  · exact absurd ((hv p).1.symm.trans hp) Bool.false_ne_true

/-- A control static of a task that does not exist. -/
theorem onTask_rtsp {p : Producer} {f : TaskStatics → TaskStatics} (hv : Dead v)
    (hf : (f (v.tasks p)).alive = false ∧ (f (v.tasks p)).task = false) :
    RtspTriple meets (· = v) (.modify .access (·.onStatics (·.onTask p f)))
      fun _ s => s = v.onTask p f := by
  refine dead_rtsp hv (fun q => ?_) (fun s hs => by rw [SessionState.onStatics_statics, hs]) trivial
  by_cases hq : q = p
  · subst hq
    rw [SessionStatics.onTask_self]
    exact hf
  · rw [SessionStatics.onTask_of_ne _ hq]
    exact hv q

/-- What `raop_rtp_start` has prepared before it creates the task. -/
structure Prepared (p : Producer) (s : SessionStatics) : Prop where
  dead : Dead s
  held : s.producerHeld = true
  owner : s.producerOwner = some p
  run : (s.tasks p).run = true
  not_done : (s.tasks p).done = false
  stream : p = .raopRtp → (∀ role, s.io.fd role ∈ s.udp) ∧ s.alac.isSome = true ∧
    s.aesKey.isSome = true ∧ s.slots = true

/-- A task that is created finds everything it needs. -/
theorem createTask_rtsp {p : Producer} (h : Prepared p v) :
    RtspTriple meets (· = v) (createTask p) fun _ s =>
      s = v.onTask p ({ · with task := true, alive := true }) := by
  -- the new task is the only one
  have honly : ∀ q, ((v.onTask p ({ · with task := true, alive := true })).tasks q).alive = true →
      q = p := by
    intro q hq
    by_contra hqp
    rw [SessionStatics.onTask_of_ne _ hqp, (h.dead q).1] at hq
    cases hq
  have hself := v.onTask_self p ({ · with task := true, alive := true })
  have hsteady : Steady (v.onTask p ({ · with task := true, alive := true })) := by
    intro q hq
    rw [honly q hq, hself]
    exact h.run
  have hno : ∀ {P : Prop} q, (v.tasks q).alive = true → P := by
    intro P q hq
    rw [(h.dead q).1] at hq
    cases hq
  have hrtp : ((v.onTask p ({ · with task := true, alive := true })).tasks .raopRtp).alive = true →
      (∀ role, v.io.fd role ∈ v.udp) ∧ v.alac.isSome = true ∧ v.aesKey.isSome = true ∧
        v.slots = true := fun hq => h.stream (honly _ hq).symm
  refine rtsp_atom (fun s hs => hs ▸ h.dead.steady) (fun _ s hs => hs ▸ hsteady) fun s _ hs => ?_
  rw [SessionState.onStatics_statics, hs]
  refine ⟨?_, ?_, trivial, rfl⟩
  · exact
      { keeps := fun q hq => hno q hq
        slot := fun q hq => hno q hq
        stream := fun hq => hno _ hq
        created := by
          intro q _ hq
          rw [honly q hq, hself]
          exact ⟨rfl, h.held, h.owner⟩ }
  · exact
      { not_done := by
          intro q hq
          rw [honly q hq, hself]
          exact h.not_done
        running := by
          intro q hq _
          rw [honly q hq, hself]
          exact ⟨rfl, h.held, h.owner⟩
        exclusive := fun q r hq hr => (honly q hq).trans (honly r hr).symm
        handle := by
          intro q hq
          by_cases hqp : q = p
          · rw [hqp, hself]
          · rw [SessionStatics.onTask_of_ne _ hqp, (h.dead q).2] at hq
            cases hq
        sockets := fun hq => (hrtp hq).1
        alac := fun hq => (hrtp hq).2.1
        aesKey := fun hq => (hrtp hq).2.2.1
        slots := fun hq => (hrtp hq).2.2.2 }

/-! ## The diagnostic tone -/

/-- Without a producer in the machine there is no producer task. -/
theorem Between.dead {s : SessionStatics} (h : Between m s) (hm : m.producer = none) : Dead s := by
  intro p
  have halive : (s.tasks p).alive = false := by
    rw [← Bool.not_eq_true, h.alive p, hm]
    exact nofun
  exact ⟨halive, (h.task p).trans halive⟩

/-- The handle of a producer is set while the machine has it. -/
theorem Between.handle {s : SessionStatics} (h : Between m s) (p : Producer) :
    (s.tasks p).task = decide (m.producer = some p) := by
  rw [h.task, Bool.eq_iff_iff, decide_eq_true_eq]
  exact h.alive p

/-- Without the RTP task there are no streaming resources. -/
theorem Between.stream_none {s : SessionStatics} (h : Between m s) (hm : ¬m.Streaming) :
    s.alac = none ∧ s.aesKey = none ∧ s.slots = false := by
  have hdead : (s.tasks .raopRtp).alive = false := by
    rw [h.streaming]
    exact decide_eq_false hm
  have halac := h.alac
  have hkey := h.aesKey
  rw [hdead] at halac hkey
  exact ⟨Option.not_isSome_iff_eq_none.mp (by rw [halac]; decide),
    Option.not_isSome_iff_eq_none.mp (by rw [hkey]; decide), h.slots.trans hdead⟩

/-- The statics with producer `p` started. -/
theorem Between.started {s : SessionStatics} {p : Producer} (h : Between m v)
    (hm : m.producer = none) (hsession : s.session = v.session ∧ s.client = v.client ∧ s.udp = v.udp)
    (hslot : s.producerHeld = true ∧ s.producerOwner = some p)
    (hself : (s.tasks p).alive = true ∧ (s.tasks p).task = true ∧ (s.tasks p).run = true)
    (hother : ∀ q, q ≠ p → s.tasks q = v.tasks q)
    (hstream : s.alac.isSome = (s.tasks .raopRtp).alive ∧
      s.aesKey.isSome = (s.tasks .raopRtp).alive ∧ s.slots = (s.tasks .raopRtp).alive) :
    Between { m with producer := some p } s where
  session := hsession.1.trans h.session
  client := hsession.2.1.trans h.client
  udp := hsession.2.2.trans h.udp
  -- `p` runs, and every other producer was dead and stays so
  alive q := by
    by_cases hq : q = p
    · rw [hq]
      exact iff_of_true hself.1 rfl
    · rw [hother q hq, (h.dead hm q).1]
      exact iff_of_false Bool.false_ne_true fun hp => hq (Option.some.inj hp).symm
  task q := by
    by_cases hq : q = p
    · rw [hq, hself.1, hself.2.1]
    · rw [hother q hq]
      exact h.task q
  run q hqa := by
    by_cases hq : q = p
    · rw [hq]
      exact hself.2.2
    · rw [hother q hq, (h.dead hm q).1] at hqa
      cases hqa
  held := hslot.1
  owner := hslot.2
  alac := hstream.1
  aesKey := hstream.2.1
  slots := hstream.2.2

/-- The statics behind the end of a producer are those of the machine without it. -/
theorem Between.stopped {s : SessionStatics} (h : Between m v) (hm : m'.producer = none)
    (hsame : m'.session = m.session ∧ m'.client = m.client ∧ m'.udp = m.udp)
    (hsession : s.session = v.session ∧ s.client = v.client ∧ s.udp = v.udp)
    (hdead : Dead s) (hslot : s.producerHeld = false ∧ s.producerOwner = none)
    (hstream : s.alac = none ∧ s.aesKey = none ∧ s.slots = false) : Between m' s where
  session := (hsession.1.trans h.session).trans hsame.1.symm
  client := (hsession.2.1.trans h.client).trans hsame.2.1.symm
  udp := (hsession.2.2.trans h.udp).trans hsame.2.2.symm
  alive q := by
    rw [(hdead q).1, hm]
    exact iff_of_false Bool.false_ne_true nofun
  task q := (hdead q).2.trans (hdead q).1.symm
  run q hq := absurd ((hdead q).1.symm.trans hq) Bool.false_ne_true
  held := by rw [hslot.1, hm]; rfl
  owner := hslot.2.trans hm.symm
  alac := by rw [hstream.1, (hdead _).1]; rfl
  aesKey := by rw [hstream.2.1, (hdead _).1]; rfl
  slots := hstream.2.2.trans (hdead _).1.symm

/-- The statics once the slot is claimed and the flags are set, right before the task is created. -/
def SessionStatics.claimed (v : SessionStatics) (p : Producer) : SessionStatics :=
  (SessionStatics.onTask { v with producerHeld := true, producerOwner := some p } p
    ({ · with run := true })).onTask p ({ · with done := false })

/-- The flags of the producer that is started. -/
theorem SessionStatics.claimed_self (v : SessionStatics) (p : Producer) :
    (v.claimed p).tasks p = ⟨(v.tasks p).task, true, false, (v.tasks p).alive⟩ := by
  unfold SessionStatics.claimed
  rw [SessionStatics.onTask_self, SessionStatics.onTask_self]

/-- Those of the other one stay. -/
theorem SessionStatics.claimed_of_ne (v : SessionStatics) {p q : Producer} (h : q ≠ p) :
    (v.claimed p).tasks q = v.tasks q := by
  unfold SessionStatics.claimed
  rw [SessionStatics.onTask_of_ne _ h, SessionStatics.onTask_of_ne _ h]

/-- Claiming the slot creates no task. -/
theorem Dead.claimed (h : Dead v) (p : Producer) : Dead (v.claimed p) := by
  intro q
  by_cases hq : q = p
  · rw [hq, SessionStatics.claimed_self]
    exact ⟨(h p).1, (h p).2⟩
  · rw [SessionStatics.claimed_of_ne v hq]
    exact h q

/-- A change of the flags creates none, either. -/
theorem Dead.onTask (h : Dead v) {p : Producer} {f : TaskStatics → TaskStatics}
    (hf : (f (v.tasks p)).alive = false ∧ (f (v.tasks p)).task = false) : Dead (v.onTask p f) :=
  fun q => by
    by_cases hq : q = p
    · rw [hq, SessionStatics.onTask_self]
      exact hf
    · rw [SessionStatics.onTask_of_ne _ hq]
      exact h q

/-- Claiming the slot and setting the flags, in front of the creation of the task. -/
theorem claim_rtsp {p : Producer} (hdead : Dead v) {prog : SessionProg α}
    {B : α → SessionStatics → Prop} (hprog : RtspTriple meets (· = v.claimed p) prog B) :
    RtspTriple meets (· = { v with producerHeld := true, producerOwner := some p })
      (do
        .modify .access (·.onStatics (·.onTask p ({ · with run := true })))
        .modify .access (·.onStatics (·.onTask p ({ · with done := false })))
        prog) B := by
  have hrun : Dead (SessionStatics.onTask { v with producerHeld := true, producerOwner := some p } p
      ({ · with run := true })) :=
    Dead.onTask (v := { v with producerHeld := true, producerOwner := some p }) hdead
      ⟨(hdead p).1, (hdead p).2⟩
  refine (onTask_rtsp (v := { v with producerHeld := true, producerOwner := some p }) hdead
    ⟨(hdead p).1, (hdead p).2⟩).bind fun _ => (onTask_rtsp hrun ?_).bind fun _ => hprog
  rw [SessionStatics.onTask_self]
  exact ⟨(hdead p).1, (hdead p).2⟩

/-- Creating a task that was prepared starts the producer. -/
theorem create_rtsp {p : Producer} (hb : Between m v) (hm : m.producer = none)
    {w : SessionStatics} (hsession : w.session = v.session ∧ w.client = v.client ∧ w.udp = v.udp)
    (htasks : w.tasks = v.tasks)
    (hstream : if p = .raopRtp then (∀ role, w.io.fd role ∈ w.udp) ∧ w.alac.isSome = true ∧
        w.aesKey.isSome = true ∧ w.slots = true
      else w.alac = none ∧ w.aesKey = none ∧ w.slots = false) :
    RtspTriple meets (· = w.claimed p) (createTask p) fun _ =>
      Between { m with producer := some p } := by
  have hdead : Dead w := by
    intro q
    rw [htasks]
    exact hb.dead hm q
  have hself := w.claimed_self p
  -- `createTask` needs everything the task uses in place before it can run
  have hprepared : Prepared p (w.claimed p) :=
    { dead := hdead.claimed p, held := rfl, owner := rfl
      run := by rw [hself]
      not_done := by rw [hself]
      stream := by
        intro hp
        rw [if_pos hp] at hstream
        exact hstream }
  refine (createTask_rtsp hprepared).conseq (fun _ h => h) fun _ s hs => ?_
  rw [hs]
  have hnew := (w.claimed p).onTask_self p ({ · with task := true, alive := true })
  refine hb.started hm hsession ⟨rfl, rfl⟩ ?_ (fun q hq => ?_) ?_
  · rw [hnew, hself]
    exact ⟨rfl, rfl, rfl⟩
  · rw [SessionStatics.onTask_of_ne _ hq, SessionStatics.claimed_of_ne w hq, htasks]
  · by_cases hp : p = .raopRtp
    · rw [if_pos hp] at hstream
      subst hp
      rw [hnew]
      exact hstream.2
    · rw [if_neg hp] at hstream
      rw [SessionStatics.onTask_of_ne _ (fun h => hp h.symm),
        SessionStatics.claimed_of_ne w (fun h => hp h.symm), (hdead _).1]
      exact ⟨congrArg _ hstream.1, congrArg _ hstream.2.1, hstream.2.2⟩

/-- **`audio_diag_tone_start`** starts the tone as the machine does. -/
theorem audioDiagToneStart_rtsp (created : Bool) :
    RtspTriple meets (Between m) (audioDiagToneStart created) fun _ =>
      Between (m.startTone created) := by
  refine .known fun v hb => ?_
  have hnothing : m.startTone created = m →
      RtspTriple meets (· = v) (pure ()) fun _ => Between (m.startTone created) := fun hm =>
    rtsp_ret (fun _ h => h.steady) fun s hs => by rw [hs, hm]; exact hb
  refine (known_read hb.steady (r := (v.tasks .diagTone).task) fun s hs => by rw [hs]).bind
    fun running => .pure fun hrunning => ?_
  rw [hb.handle] at hrunning
  subst hrunning
  cases hp : m.producer with
  | some p =>
      -- the tone itself, or the RTP task, which has the slot
      have hm : m.startTone created = m := if_neg fun h => by rw [hp] at h; cases h.1
      by_cases hpt : p = .diagTone
      · subst hpt
        exact hnothing hm
      · rw [if_neg (by simpa using hpt)]
        refine (acquire_taken hb.steady (by rw [hb.held, hp]; rfl)).bind fun r => .pure fun hr => ?_
        subst hr
        exact hnothing hm
  | none =>
      have hdead := hb.dead hp
      refine (acquire_free hdead (by rw [hb.held, hp]; rfl)).bind fun r => .pure fun hr => ?_
      subst hr
      refine claim_rtsp hdead ?_
      have hnone := hb.stream_none fun h => by rw [SessionModel.Streaming, hp] at h; cases h
      cases created with
      | true =>
          have hm : m.startTone true = { m with producer := some .diagTone } := if_pos ⟨hp, rfl⟩
          rw [hm]
          exact create_rtsp hb hp ⟨rfl, rfl, rfl⟩ rfl hnone
      | false =>
          -- the slot is given back, the handle is cleared
          have hm : m.startTone false = m := if_neg fun h => Bool.false_ne_true h.2
          rw [hm]
          refine (release_rtsp (hdead.claimed _) rfl).bind fun _ => ?_
          have hfree : Dead { v.claimed .diagTone with
              producerHeld := false, producerOwner := none } := hdead.claimed _
          refine (onTask_rtsp (f := ({ · with task := false })) hfree ⟨(hfree _).1, rfl⟩).bind
            fun _ => rtsp_ret (fun _ h => h.steady) fun s hs => ?_
          rw [hs]
          exact hb.stopped hp ⟨rfl, rfl, rfl⟩ ⟨rfl, rfl, rfl⟩ (hfree.onTask ⟨(hfree _).1, rfl⟩)
            ⟨rfl, rfl⟩ hnone

/-! ## Stopping -/

/-- While the machine has producer `p`, no other one is alive. -/
theorem Between.other_dead {s : SessionStatics} (h : Between m s) {p : Producer}
    (hm : m.producer = some p) {q : Producer} (hq : q ≠ p) : (s.tasks q).alive = false := by
  rw [← Bool.not_eq_true, h.alive q, hm]
  exact fun hp => hq (Option.some.inj hp).symm

/-- Once the producer has ended there is none. -/
theorem Between.ended_dead {s : SessionStatics} (h : Between m s) {p : Producer}
    (hm : m.producer = some p) : Dead (s.ended p) := by
  intro q
  by_cases hq : q = p
  · rw [hq, SessionStatics.ended_self]
    exact ⟨rfl, rfl⟩
  · rw [SessionStatics.ended_of_ne s hq]
    exact ⟨h.other_dead hm hq, (h.task q).trans (h.other_dead hm hq)⟩

/-- Joining the producer of the machine. -/
theorem Between.join {p : Producer} (h : Between m v) (hm : m.producer = some p) :
    RtspTriple meets (· = v) (joinProducer p) fun _ s => s = v.ended p :=
  joinProducer_rtsp (fun _ hq => h.other_dead hm hq) h.steady ((h.alive p).mpr hm)
    (h.ended_dead hm).steady

/-- **`audio_diag_tone_stop`** stops the tone as the machine does. -/
theorem audioDiagToneStop_rtsp :
    RtspTriple meets (Between m) audioDiagToneStop fun _ => Between (m.stopProducer .diagTone) := by
  refine .known fun v hb => ?_
  refine (known_read hb.steady (r := (v.tasks .diagTone).task) fun s hs => by rw [hs]).bind
    fun running => .pure fun hrunning => ?_
  rw [hb.handle] at hrunning
  subst hrunning
  by_cases hm : m.producer = some .diagTone
  · -- the tone has ended when `audio_diag_tone_stop` returns
    have hstop : m.stopProducer .diagTone = { m with producer := none } := if_pos hm
    rw [hstop, decide_eq_true hm]
    refine (hb.join hm).conseq (fun _ h => h) fun _ s hs => ?_
    have hnone := hb.stream_none fun h => by rw [SessionModel.Streaming, hm] at h; cases h
    rw [hs]
    exact hb.stopped rfl ⟨rfl, rfl, rfl⟩ ⟨rfl, rfl, rfl⟩ (hb.ended_dead hm) ⟨rfl, rfl⟩ hnone
  · have hstop : m.stopProducer .diagTone = m := if_neg hm
    rw [hstop, decide_eq_false hm]
    exact rtsp_ret (fun _ h => h.steady) fun s hs => hs ▸ hb

/-- The statics without the streaming resources. -/
def SessionStatics.torn (v : SessionStatics) : SessionStatics :=
  { v with aesKey := none, alac := none, slots := false }

/-- **`teardown_crypto_decoder`**, while there is no RTP task. -/
theorem teardownCryptoDecoder_rtsp (hv : Steady v) (hdead : (v.tasks .raopRtp).alive = false) :
    RtspTriple meets (· = v) teardownCryptoDecoder fun _ s => s = v.torn := by
  have hfree : ∀ (w : SessionStatics) (f : SessionStatics → SessionStatics), w.tasks = v.tasks →
      (f w).tasks = w.tasks ∧ (f w).producerHeld = w.producerHeld ∧
        (f w).producerOwner = w.producerOwner →
      RtspTriple meets (· = w) (.modify .free (·.onStatics f)) fun _ s => s = f w :=
    fun w f htasks hsame => by
      have hw : Steady w := by
        intro p
        rw [htasks]
        exact hv p
      have hwdead : (w.tasks .raopRtp).alive = false := by rw [htasks, hdead]
      exact stream_rtsp hw hwdead hsame (fun s hs => by rw [SessionState.onStatics_statics, hs])
        hwdead
  exact (hfree v ({ · with aesKey := none }) rfl ⟨rfl, rfl, rfl⟩).bind fun _ =>
    (hfree { v with aesKey := none } ({ · with alac := none }) rfl ⟨rfl, rfl, rfl⟩).bind fun _ =>
      hfree { v with aesKey := none, alac := none } ({ · with slots := false }) rfl ⟨rfl, rfl, rfl⟩

/-- **`raop_rtp_stop`** stops the stream as the machine does. -/
theorem raopRtpStop_rtsp :
    RtspTriple meets (Between m) raopRtpStop fun _ => Between (m.stopProducer .raopRtp) := by
  refine .known fun v hb => ?_
  refine (known_read hb.steady (r := (v.tasks .raopRtp).task) fun s hs => by rw [hs]).bind
    fun running => .pure fun hrunning => ?_
  rw [hb.handle] at hrunning
  subst hrunning
  by_cases hm : m.Streaming
  · have hstop : m.stopProducer .raopRtp = { m with producer := none } := if_pos hm
    have hdead := hb.ended_dead hm
    rw [hstop, decide_eq_true hm]
    refine (hb.join hm).bind fun _ =>
      (teardownCryptoDecoder_rtsp hdead.steady (hdead _).1).bind fun _ => ?_
    have hforget : RtspTriple meets (· = (v.ended .raopRtp).torn)
        (.modify .access fun w => (w.onRx ({ · with peerKnown := false })).onStatics fun s =>
          { s with io := { s.io with audioFd := -1, controlFd := -1, timingFd := -1 } })
        fun _ s => s = { (v.ended .raopRtp).torn with
          io := { v.io with audioFd := -1, controlFd := -1, timingFd := -1 } } :=
      dead_rtsp hdead hdead (fun s hs => by
        rw [SessionState.onStatics_statics, SessionState.onRx_statics, hs]
        rfl) trivial
    refine hforget.bind fun _ => rtsp_ret (fun _ h => h.steady) fun s hs => ?_
    rw [hs]
    exact hb.stopped rfl ⟨rfl, rfl, rfl⟩ ⟨rfl, rfl, rfl⟩ hdead ⟨rfl, rfl⟩ ⟨rfl, rfl, rfl⟩
  · -- there is no RTP task, and nothing that could be freed
    have hstop : m.stopProducer .raopRtp = m := if_neg hm
    have hdead : (v.tasks .raopRtp).alive = false := by
      rw [hb.streaming]
      exact decide_eq_false hm
    rw [hstop, decide_eq_false hm]
    refine (teardownCryptoDecoder_rtsp hb.steady hdead).bind fun _ =>
      rtsp_ret (fun _ h => h.steady) fun s hs => ?_
    rw [hs]
    exact { hb with
      alac := hdead.symm
      aesKey := hdead.symm
      slots := hdead.symm }

/-! ## `raop_rtp_start` -/

/-- The outcome of `raop_rtp_start`: the RTP task has been started, or nothing has changed. -/
def Started (m : SessionModel) (ok : Bool) (r : ℤ) (s : SessionStatics) : Prop :=
  if ok then r = 0 ∧ Between { m with producer := some .raopRtp } s else r = -1 ∧ Between m s

/-- Behind a start every live producer is told to run. -/
theorem Started.steady {ok : Bool} {r : ℤ} {s : SessionStatics} (h : Started m ok r s) :
    Steady s := by
  cases ok with
  | true => exact h.2.steady
  | false => exact h.2.steady

/-- A start that fails leaves the machine where it was. -/
theorem Started.failed {s : SessionStatics} (h : Between m s) : Started m false (-1) s := ⟨rfl, h⟩

/-- One that works has the producer running. -/
theorem Started.started {s : SessionStatics}
    (h : Between { m with producer := some .raopRtp } s) : Started m true 0 s := ⟨rfl, h⟩

/-- `torn` says that the statics are those between two events, but for what `raop_rtp_start` has set
up so far. Every failure takes it away again. -/
theorem startFails_rtsp (hb : Between m v.torn) (hm : ¬m.Streaming) :
    RtspTriple meets (· = v)
      (do
        teardownCryptoDecoder
        return (-1 : ℤ))
      (Started m false) := by
  have hdead : (v.tasks .raopRtp).alive = false := hb.streaming.trans (decide_eq_false hm)
  exact (teardownCryptoDecoder_rtsp (v := v) hb.run hdead).bind fun _ =>
    rtsp_ret (fun _ h => Started.steady h) fun s hs => .failed (hs ▸ hb)

/-- Setting something up for the RTP task. -/
theorem setUp_rtsp {w : SessionStatics} {upd : SessionState → SessionState}
    (hb : Between m v.torn) (hm : ¬m.Streaming)
    (hsame : w.tasks = v.tasks ∧ w.producerHeld = v.producerHeld ∧
      w.producerOwner = v.producerOwner)
    (hupd : ∀ s, s.statics = v → (upd s).statics = w) :
    RtspTriple meets (· = v) (.modify .access upd) fun _ s => s = w :=
  stream_rtsp hb.run (hb.streaming.trans (decide_eq_false hm)) hsame hupd trivial

/-- From the allocation of the slots on: only the producer slot and the creation of the task can
fail. -/
theorem raopRtpStartTask_rtsp (hb : Between m v.torn) (hm : ¬m.Streaming)
    (halac : v.alac.isSome = true) (hkey : v.aesKey.isSome = true)
    (hopen : ∀ role, m.session.fd role ∈ m.udp) (slots : ℕ → RtpReorderSlot) (created : Bool) :
    RtspTriple meets (· = v) (raopRtpStartTask m.session slots created)
      (Started m (m.producer.isNone && created)) := by
  have hslots : RtspTriple meets (· = v) (.modify .access (·.onStatics ({ · with slots := true })))
      fun _ s => s = { v with slots := true } :=
    setUp_rtsp hb hm ⟨rfl, rfl, rfl⟩ fun s hs => by rw [SessionState.onStatics_statics, hs]
  refine hslots.bind fun _ => ?_
  generalize hw : ({ v with
    slots := true
    iv := m.session.aesiv
    io := ⟨m.session.fd .audio, m.session.fd .control, m.session.fd .timing,
      m.session.clientControlPort, m.session.clientTimingPort⟩ } : SessionStatics) = w
  have hcopy : RtspTriple meets (· = { v with slots := true })
      (.modify .access fun x => (x.onRx (·.start slots m.session.clientIp)).onStatics ({ · with
        iv := m.session.aesiv
        io := ⟨m.session.fd .audio, m.session.fd .control, m.session.fd .timing,
          m.session.clientControlPort, m.session.clientTimingPort⟩ }))
      fun _ s => s = w := by
    subst hw
    exact setUp_rtsp (v := { v with slots := true }) hb hm ⟨rfl, rfl, rfl⟩ fun s hs => by
      rw [SessionState.onStatics_statics, SessionState.onRx_statics, hs]
  refine hcopy.bind fun _ => ?_
  have hbw : Between m w.torn := by
    subst hw
    exact { hb with }
  have hstream : (∀ role, w.io.fd role ∈ w.udp) ∧ w.alac.isSome = true ∧
      w.aesKey.isSome = true ∧ w.slots = true := by
    subst hw
    refine ⟨fun role => ?_, halac, hkey, rfl⟩
    have hudp : v.udp = m.udp := hb.udp
    have := hopen role
    cases role <;> exact hudp ▸ this
  clear hw
  cases hp : m.producer with
  | some p =>
      -- the other producer has the slot
      have hheld : w.producerHeld = true := by
        have := hbw.held
        rw [hp] at this
        exact this
      refine (acquire_taken (v := w) hbw.run hheld).bind fun r => .pure fun hr => ?_
      subst hr
      exact startFails_rtsp hbw hm
  | none =>
      have hdead : Dead w := hbw.dead hp
      have hheld : w.producerHeld = false := by
        have := hbw.held
        rw [hp] at this
        exact this
      refine (acquire_free hdead hheld).bind fun r => .pure fun hr => ?_
      subst hr
      refine claim_rtsp hdead ?_
      cases created with
      | true =>
          refine (create_rtsp (w := w) hbw hp ⟨rfl, rfl, rfl⟩ rfl ?_).bind fun _ =>
            rtsp_ret (fun _ h => Started.steady h) fun s hs => .started hs
          rw [if_pos rfl]
          exact hstream
      | false =>
          -- the slot is given back, the flag and the handle are cleared
          refine (release_rtsp (hdead.claimed _) rfl).bind fun _ => ?_
          have hfree : Dead { w.claimed .raopRtp with
              producerHeld := false, producerOwner := none } := hdead.claimed _
          have hrun := hfree.onTask (p := .raopRtp) (f := ({ · with run := false }))
            ⟨(hfree _).1, (hfree _).2⟩
          refine (onTask_rtsp hfree ⟨(hfree _).1, (hfree _).2⟩).bind fun _ =>
            (onTask_rtsp (f := ({ · with task := false })) hrun ⟨(hrun _).1, rfl⟩).bind fun _ => ?_
          have hlast := hrun.onTask (p := .raopRtp) (f := ({ · with task := false }))
            ⟨(hrun _).1, rfl⟩
          refine startFails_rtsp ?_ hm
          exact hbw.stopped hp ⟨rfl, rfl, rfl⟩ ⟨rfl, rfl, rfl⟩ hlast ⟨rfl, rfl⟩ ⟨rfl, rfl, rfl⟩

/-- From the import of the key on. -/
theorem raopRtpStartKey_rtsp (hb : Between m v.torn) (hm : ¬m.Streaming)
    (halac : v.alac.isSome = true) (hopen : ∀ role, m.session.fd role ∈ m.udp)
    (o : StartOutcome) :
    RtspTriple meets (· = v) (raopRtpStartKey m.session o)
      (Started m (o.importKey && o.malloc.isSome && (m.producer.isNone && o.createTask))) := by
  unfold raopRtpStartKey
  cases o.importKey with
  | false => exact startFails_rtsp hb hm
  | true =>
      have hkey : RtspTriple meets (· = v)
          (.modify .access (·.onStatics ({ · with aesKey := some m.session.aeskey })))
          fun _ s => s = { v with aesKey := some m.session.aeskey } :=
        setUp_rtsp hb hm ⟨rfl, rfl, rfl⟩ fun s hs => by rw [SessionState.onStatics_statics, hs]
      refine hkey.bind fun _ => ?_
      cases o.malloc with
      | none => exact startFails_rtsp (v := { v with aesKey := some m.session.aeskey }) hb hm
      | some slots =>
          exact raopRtpStartTask_rtsp (v := { v with aesKey := some m.session.aeskey }) hb hm halac
            rfl hopen slots o.createTask

/-- **`raop_rtp_start`**: it starts the RTP task, or it fails and leaves everything as it was. -/
theorem raopRtpStart_rtsp (hbound : m.Bound) (o : StartOutcome) :
    RtspTriple meets (Between m) (raopRtpStart o) fun r s =>
      r = (m.startRtp o).2 ∧ Between (m.startRtp o).1 s := by
  suffices h : RtspTriple meets (Between m) (raopRtpStart o) (Started m (m.canStart o)) by
    refine h.conseq (fun _ h => h) fun r s hs => ?_
    unfold SessionModel.startRtp
    unfold Started at hs
    split at hs
    · next hstart => rwa [if_pos hstart]
    · next hstart => rwa [if_neg hstart]
  refine .known fun v hb => ?_
  have hnothing : m.canStart o = false →
      RtspTriple meets (· = v) (pure (-1)) (Started m (m.canStart o)) := by
    intro hstart
    rw [hstart]
    exact rtsp_ret (fun _ h => Started.steady h) fun s hs => .failed (hs ▸ hb)
  refine (known_read hb.steady (r := (v.tasks .raopRtp).task) fun s hs => by rw [hs]).bind
    fun running => .pure fun hrunning => ?_
  rw [hb.handle] at hrunning
  subst hrunning
  by_cases hm : m.Streaming
  · -- already running
    rw [decide_eq_true hm]
    exact hnothing (by rw [SessionModel.canStart, hm]; rfl)
  rw [decide_eq_false hm]
  refine (known_read hb.steady (r := m.session) fun s hs => by rw [hs, hb.session]).bind
    fun s => .pure fun hs => ?_
  subst hs
  by_cases hkey : m.session.haveKey = false ∨ m.session.fd .audio < 0
  · -- missing key or unbound audio socket
    rw [if_pos hkey]
    refine hnothing ?_
    unfold SessionModel.canStart
    rcases hkey with hkey | hfd
    · rw [hkey]
      simp
    · rw [decide_eq_false (not_le.mpr hfd)]
      simp
  rw [if_neg hkey]
  rw [not_or, Bool.not_eq_false, not_lt] at hkey
  cases hdec : buildDecoder m.session.fmtp o.alacCreate with
  | none => exact hnothing (by unfold SessionModel.canStart; rw [hdec]; simp)
  | some c =>
      -- with one socket, all three are open
      have hopen : ∀ role, m.session.fd role ∈ m.udp := by
        rcases hbound with hneg | hopen
        · exact absurd hkey.2 (not_le.mpr (hneg .audio))
        · exact fun role => (hopen role).2
      have hstart : m.canStart o
          = (o.importKey && o.malloc.isSome && (m.producer.isNone && o.createTask)) := by
        unfold SessionModel.canStart
        rw [hkey.1, decide_eq_true hkey.2, hdec]
        cases m.producer.isNone <;> cases o.importKey <;> cases o.malloc.isSome <;> rfl
      rw [hstart]
      have htorn : Between m v.torn := by
        have hdead : (v.tasks .raopRtp).alive = false :=
          hb.streaming.trans (decide_eq_false hm)
        exact { hb with alac := hdead.symm, aesKey := hdead.symm, slots := hdead.symm }
      have halac : RtspTriple meets (· = v)
          (.modify .access (·.onStatics ({ · with
            alac := some c, numChannels := c.numChannels,
            frameLength := c.frameLength.setWidth 16 })))
          fun _ s => s = { v with
            alac := some c, numChannels := c.numChannels,
            frameLength := c.frameLength.setWidth 16 } :=
        setUp_rtsp htorn hm ⟨rfl, rfl, rfl⟩ fun s hs => by rw [SessionState.onStatics_statics, hs]
      have htorn' : Between m { v with
          alac := some c, numChannels := c.numChannels,
          frameLength := c.frameLength.setWidth 16 }.torn := { htorn with }
      exact halac.bind fun _ => raopRtpStartKey_rtsp
        (v := { v with
          alac := some c, numChannels := c.numChannels,
          frameLength := c.frameLength.setWidth 16 }) htorn' hm rfl hopen o

end ConduitStream
