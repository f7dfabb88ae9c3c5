import ConduitStream.Session.Producing

/-! # Steps of the RTSP task

Between two events, and during most of what the RTSP task does, every live producer is told to run
(`Steady`), and then the producers leave the shared statics alone (`steady_stable`). The RTSP task
therefore knows the statics exactly, step by step. The exception is `joinProducer`: while it waits,
the producer gives back the slot and its handle, in any interleaving, and it comes out with the
statics of a producer that has ended (`joinProducer_rtsp`). -/

namespace ConduitStream

variable {meets : EventCondition} {α β : Type} {A : SessionStatics → Prop}
  {B : α → SessionStatics → Prop} {v v' : SessionStatics} {m m' : SessionModel}

variable (meets) in
/-- A triple of the RTSP task about the statics. -/
def RtspTriple (A : SessionStatics → Prop) (prog : SessionProg α)
    (B : α → SessionStatics → Prop) : Prop :=
  (sessionOutline meets).Triple .rtsp (fun s => A s.statics) prog fun a s => B a s.statics

namespace RtspTriple

variable {prog : SessionProg α} {f : α → SessionProg β} {C : β → SessionStatics → Prop}
  {A' : SessionStatics → Prop} {B' : α → SessionStatics → Prop}

/-- Two programs in a row meet in an assertion between them. -/
theorem bind (hp : RtspTriple meets A prog B) (hf : ∀ a, RtspTriple meets (B a) (f a) C) :
    RtspTriple meets A (prog >>= f) C := Outline.Triple.bind hp hf

/-- The rule of consequence: a stronger precondition, a weaker postcondition. -/
theorem conseq (hp : RtspTriple meets A prog B) (hA : ∀ s, A' s → A s)
    (hB : ∀ a s, B a s → B' a s) : RtspTriple meets A' prog B' :=
  Outline.Triple.conseq hp (fun s _ h => hA s.statics h) fun a s _ h => hB a s.statics h

/-- A precondition of the RTSP task may be strengthened. -/
theorem weaken (hp : RtspTriple meets A prog B) (hA : ∀ s, A' s → A s) :
    RtspTriple meets A' prog B := hp.conseq hA fun _ _ h => h

/-- A fact about the precondition may be assumed. -/
theorem pure {φ : Prop} (hp : φ → RtspTriple meets A prog B) :
    RtspTriple meets (fun s => φ ∧ A s) prog B := Outline.Triple.pure hp

/-- The statics before a program may be given a name. -/
theorem known (hp : ∀ v, A v → RtspTriple meets (· = v) prog B) : RtspTriple meets A prog B :=
  fun s hi h => hp s.statics h s hi rfl

end RtspTriple

/-- Every live producer is told to run. -/
def Steady (s : SessionStatics) : Prop :=
  ∀ p, (s.tasks p).alive = true → (s.tasks p).run = true

/-- **Nobody else changes steady statics**: no step of a producer makes them unsteady. -/
theorem steady_stable (hA : ∀ s, A s → Steady s) :
    (sessionOutline meets).Stable .rtsp fun s => A s.statics := by
  refine Outline.ofGuar_stable fun t s s' ht hi hi' hg h => ?_
  cases t with
  | rtsp => exact absurd rfl ht
  | producer p =>
      -- a producer that is told to run works on its own statics only
      have hrun := hA _ h p
      cases hg with
      | work f => exact h
      | disown ha hr | release ha hr | clearHandle ha hr | exit ha hr =>
          rw [hrun ha] at hr
          cases hr

/-- An action on steady statics, which the RTSP task may take. -/
theorem rtsp_atom {l : SessionStep} {upd : SessionState → SessionState} {res : SessionState → α}
    (hA : ∀ s, A s → Steady s) (hB : ∀ a s, B a s → Steady s)
    (h : ∀ s, StaticsInv s.statics → A s.statics →
      RtspStep s.statics (upd s).statics ∧ StaticsInv (upd s).statics ∧
        StepOk .rtsp l s.statics ∧ B (res s) (upd s).statics) :
    RtspTriple meets A (.atom l upd res) B :=
  Outline.Triple.atom (steady_stable hA) (fun a => steady_stable (hB a)) h

/-- The RTSP task may leave the statics as they are. -/
theorem RtspStep.refl (s : SessionStatics) : RtspStep s s where
  keeps _ h := ⟨h, rfl, id⟩
  slot _ _ := ⟨rfl, rfl⟩
  stream _ := ⟨rfl, rfl, rfl, rfl⟩
  created _ h h' := absurd (h.symm.trans h') Bool.false_ne_true

/-- An action that only reads returns what is known, and keeps it. -/
theorem rtsp_read {l : SessionStep} {res : SessionState → α} {r : α}
    (hA : ∀ s, A s → Steady s) (hl : ∀ s, StepOk .rtsp l s)
    (hres : ∀ s, A s.statics → res s = r) :
    RtspTriple meets A (.read l res) fun a s => a = r ∧ A s :=
  rtsp_atom hA (fun _ _ h => hA _ h.2) fun s hi h =>
    ⟨.refl _, hi, hl _, hres s h, h⟩

/-- A program that has come to its end. -/
theorem rtsp_ret {a : α} (hB : ∀ s, B a s → Steady s) (h : ∀ s, A s → B a s) :
    RtspTriple meets A (pure a) B :=
  Outline.Triple.ret (steady_stable hB) fun _ _ hs => h _ hs

/-! ## Steps that concern no producer -/

/-- The two statics agree on what producers look at, the open sockets apart. -/
structure SameCore (s s' : SessionStatics) : Prop where
  tasks : s'.tasks = s.tasks
  held : s'.producerHeld = s.producerHeld
  owner : s'.producerOwner = s.producerOwner
  io : s'.io = s.io
  alac : s'.alac = s.alac
  aesKey : s'.aesKey = s.aesKey
  slots : s'.slots = s.slots

/-- What no producer looks at, the RTSP task may change. -/
theorem SameCore.rtspStep {s s' : SessionStatics} (h : SameCore s s') : RtspStep s s' where
  keeps p hp := by
    rw [h.tasks]
    exact ⟨hp, rfl, id⟩
  slot _ _ := ⟨h.held, h.owner⟩
  stream _ := ⟨h.io, h.alac, h.aesKey, h.slots⟩
  created p hp hp' := by
    rw [h.tasks, hp] at hp'
    cases hp'

/-- The invariant survives it, as long as a live RTP task keeps its sockets. -/
theorem SameCore.inv {s s' : SessionStatics} (h : SameCore s s') (hi : StaticsInv s)
    (hudp : (s.tasks .raopRtp).alive = true → ∀ role, s.io.fd role ∈ s'.udp) : StaticsInv s' where
  not_done := by rw [h.tasks]; exact hi.not_done
  running := by rw [h.tasks, h.held, h.owner]; exact hi.running
  exclusive := by rw [h.tasks]; exact hi.exclusive
  handle := by rw [h.tasks]; exact hi.handle
  sockets := by rw [h.tasks, h.io]; exact hudp
  alac := by rw [h.tasks, h.alac]; exact hi.alac
  aesKey := by rw [h.tasks, h.aesKey]; exact hi.aesKey
  slots := by rw [h.tasks, h.slots]; exact hi.slots

/-- The machine follows a change of what no producer looks at. -/
theorem SameCore.between {s s' : SessionStatics} (h : SameCore s s') (hb : Between m s)
    (hsession : s'.session = m'.session) (hclient : s'.client = m'.client)
    (hudp : s'.udp = m'.udp) (hproducer : m'.producer = m.producer) : Between m' s' where
  session := hsession
  client := hclient
  udp := hudp
  alive := by rw [h.tasks, hproducer]; exact hb.alive
  task := by rw [h.tasks]; exact hb.task
  run := by rw [h.tasks]; exact hb.run
  held := by rw [h.held, hproducer]; exact hb.held
  owner := by rw [h.owner, hproducer]; exact hb.owner
  alac := by rw [h.alac, h.tasks]; exact hb.alac
  aesKey := by rw [h.aesKey, h.tasks]; exact hb.aesKey
  slots := by rw [h.slots, h.tasks]; exact hb.slots

/-- Between two events every live producer is told to run. -/
theorem Between.steady {s : SessionStatics} (h : Between m s) : Steady s := h.run

/-- The RTP task is alive when the machine streams. -/
theorem Between.streaming {s : SessionStatics} (h : Between m s) :
    (s.tasks .raopRtp).alive = decide m.Streaming := by
  rw [Bool.eq_iff_iff, decide_eq_true_eq]
  exact h.alive .raopRtp

/-- The machine describes the statics, and the descriptors in `X` are not those that a live RTP task
has copied. -/
structure At (m : SessionModel) (X : ℤ → Prop) (s : SessionStatics) : Prop where
  between : Between m s
  apart : m.Streaming → ∀ role, ¬X (s.io.fd role)

variable {X Y : ℤ → Prop}

/-- Fewer descriptors are to be kept away from. -/
theorem At.mono {s : SessionStatics} (h : At m X s) (hYX : m.Streaming → ∀ d, Y d → X d) :
    At m Y s := ⟨h.between, fun hm role hY => h.apart hm role (hYX hm _ hY)⟩

/-- Between two events, no descriptor need be kept apart. -/
theorem Between.at {s : SessionStatics} (h : Between m s) : At m (fun _ => False) s :=
  ⟨h, fun _ _ => id⟩

/-- A step on the session record, the client or the open sockets. -/
theorem core_rtsp {l : SessionStep} {f : SessionStatics → SessionStatics}
    (hcore : ∀ s, SameCore s (f s)) (hproducer : m'.producer = m.producer)
    (hbetween : ∀ s, Between m s → (f s).session = m'.session ∧ (f s).client = m'.client ∧
      (f s).udp = m'.udp)
    (hok : ∀ s, StaticsInv s → At m X s → StepOk .rtsp l s ∧ (m.Streaming → ∀ role, ¬Y (s.io.fd role)) ∧
      ((s.tasks .raopRtp).alive = true → ∀ role, s.io.fd role ∈ (f s).udp)) :
    RtspTriple meets (At m X) (.modify l (·.onStatics f)) fun _ => At m' Y := by
  refine rtsp_atom (fun _ h => h.between.steady) (fun _ _ h => h.between.steady) fun s hi h => ?_
  obtain ⟨hl, hY, hudp⟩ := hok _ hi h
  obtain ⟨hsession, hclient, hu⟩ := hbetween _ h.between
  refine ⟨(hcore _).rtspStep, (hcore _).inv hi hudp, hl, ?_, fun hm role => ?_⟩
  · exact (hcore _).between h.between hsession hclient hu hproducer
  · show ¬Y ((f s.statics).io.fd role)
    rw [(hcore s.statics).io]
    rw [SessionModel.Streaming, hproducer] at hm
    exact hY hm role

/-- A change of the session record. -/
theorem onSession_rtsp (f : RaopSession → RaopSession) :
    RtspTriple meets (At m X) (.modify .access (·.onStatics (·.onSession f)))
      fun _ => At (m.onSession f) X :=
  core_rtsp (fun _ => ⟨rfl, rfl, rfl, rfl, rfl, rfl, rfl⟩) rfl
    (fun _ h => ⟨congrArg f h.session, h.client, h.udp⟩)
    fun _ hi h => ⟨trivial, h.apart, hi.sockets⟩

/-- A change of the client is one of the machine. -/
theorem setClient_rtsp (client : Bool) :
    RtspTriple meets (At m X) (setClient client) fun _ => At (m.setClient client) X :=
  core_rtsp (fun _ => ⟨rfl, rfl, rfl, rfl, rfl, rfl, rfl⟩) rfl
    (fun _ h => ⟨h.session, rfl, h.udp⟩) fun _ hi h => ⟨trivial, h.apart, hi.sockets⟩

/-- `close` on a socket that a live RTP task does not use. -/
theorem close_rtsp {fd : ℤ} (hX : m.Streaming → X fd) :
    RtspTriple meets (At m X)
      (.modify (.close fd) (·.onStatics fun s => { s with udp := s.udp.erase fd }))
      fun _ => At { m with udp := m.udp.erase fd } X := by
  refine core_rtsp (fun _ => ⟨rfl, rfl, rfl, rfl, rfl, rfl, rfl⟩) rfl
    (fun s h => ⟨h.session, h.client, congrArg (·.erase fd) h.udp⟩) fun s hi h => ?_
  -- the copied descriptors are kept apart from `X`, and `fd` is in `X`
  have hne : (s.tasks .raopRtp).alive = true → ∀ role, s.io.fd role ≠ fd := by
    intro ha role heq
    have hm := (h.between.alive .raopRtp).mp ha
    exact h.apart hm role (heq ▸ hX hm)
  exact ⟨hne, h.apart, fun ha role => Finset.mem_erase.mpr ⟨hne ha role, hi.sockets ha role⟩⟩

/-- `socket` returns a descriptor that nobody uses. -/
theorem openSocket_rtsp (fd : ℕ) :
    RtspTriple meets (At m X) (openSocket fd) fun _ s =>
      (fd : ℤ) ∉ m.udp ∧ At { m with udp := insert (fd : ℤ) m.udp } (fun d => X d ∨ d = fd) s := by
  have hst : ∀ s, (fd : ℤ) ∉ m.udp ∧
      At { m with udp := insert (fd : ℤ) m.udp } (fun d => X d ∨ d = fd) s → Steady s :=
    fun _ h => h.2.between.steady
  refine Outline.Triple.act (steady_stable fun _ h => h.between.steady) (fun _ => steady_stable hst)
    fun s hi h hfresh => ?_
  rw [decide_eq_true_eq] at hfresh
  have hcore : SameCore s.statics { s.statics with udp := insert (fd : ℤ) s.statics.udp } :=
    ⟨rfl, rfl, rfl, rfl, rfl, rfl, rfl⟩
  refine ⟨hcore.rtspStep, hcore.inv hi fun ha role => ?_, trivial, ?_, ?_, fun hm role hd => ?_⟩
  · exact Finset.mem_insert_of_mem (hi.sockets ha role)
  · rwa [← h.between.udp]
  · exact hcore.between h.between h.between.session h.between.client
      (congrArg (insert _) h.between.udp) rfl
  · rcases hd with hX | hfd
    · exact h.apart hm role hX
    · -- the sockets of a live RTP task are open, `fd` is not
      refine hfresh ?_
      rw [← hfd]
      exact hi.sockets ((h.between.alive .raopRtp).mpr hm) role

/-! ## Steps on exactly known statics -/

/-- There is no producer task. -/
def Dead (s : SessionStatics) : Prop :=
  ∀ p, (s.tasks p).alive = false ∧ (s.tasks p).task = false

/-- Without a producer there is nothing to tell. -/
theorem Dead.steady {s : SessionStatics} (h : Dead s) : Steady s := fun p hp =>
  absurd ((h p).1.symm.trans hp) Bool.false_ne_true

/-- The invariant holds without a producer. -/
theorem Dead.inv {s : SessionStatics} (h : Dead s) : StaticsInv s where
  not_done p hp := absurd ((h p).1.symm.trans hp) Bool.false_ne_true
  running p hp := absurd ((h p).1.symm.trans hp) Bool.false_ne_true
  exclusive p _ hp := absurd ((h p).1.symm.trans hp) Bool.false_ne_true
  handle p hp := absurd ((h p).2.symm.trans hp) Bool.false_ne_true
  sockets hp := absurd ((h _).1.symm.trans hp) Bool.false_ne_true
  alac hp := absurd ((h _).1.symm.trans hp) Bool.false_ne_true
  aesKey hp := absurd ((h _).1.symm.trans hp) Bool.false_ne_true
  slots hp := absurd ((h _).1.symm.trans hp) Bool.false_ne_true

/-- Without a producer, before and after, the RTSP task may do anything. -/
theorem Dead.rtspStep {s s' : SessionStatics} (h : Dead s) (h' : Dead s') : RtspStep s s' where
  keeps p hp := absurd ((h p).1.symm.trans hp) Bool.false_ne_true
  slot p hp := absurd ((h p).1.symm.trans hp) Bool.false_ne_true
  stream hp := absurd ((h _).1.symm.trans hp) Bool.false_ne_true
  created p _ hp := absurd ((h' p).1.symm.trans hp) Bool.false_ne_true

/-- A step while there is no producer. -/
theorem dead_rtsp {l : SessionStep} {upd : SessionState → SessionState} (h : Dead v) (h' : Dead v')
    (hupd : ∀ s, s.statics = v → (upd s).statics = v') (hok : StepOk .rtsp l v) :
    RtspTriple meets (· = v) (.modify l upd) fun _ s => s = v' := by
  refine rtsp_atom (fun s hs => hs ▸ h.steady) (fun _ s hs => hs ▸ h'.steady) fun s _ hs => ?_
  rw [hupd s hs, hs]
  exact ⟨h.rtspStep h', h'.inv, hok, rfl⟩

/-- A step on what `raop_rtp_start` sets up, while there is no RTP task. -/
theorem stream_rtsp {l : SessionStep} {upd : SessionState → SessionState} (hv : Steady v)
    (hdead : (v.tasks .raopRtp).alive = false)
    (hsame : v'.tasks = v.tasks ∧ v'.producerHeld = v.producerHeld ∧
      v'.producerOwner = v.producerOwner)
    (hupd : ∀ s, s.statics = v → (upd s).statics = v') (hok : StepOk .rtsp l v) :
    RtspTriple meets (· = v) (.modify l upd) fun _ s => s = v' := by
  obtain ⟨htasks, hheld, howner⟩ := hsame
  have hv' : Steady v' := by
    intro p
    rw [htasks]
    exact hv p
  refine rtsp_atom (fun s hs => hs ▸ hv) (fun _ s hs => hs ▸ hv') fun s hi hs => ?_
  rw [hupd s hs]
  rw [hs] at hi ⊢
  -- whatever is required of a live RTP task holds
  have hno : ∀ {P : Prop}, (v'.tasks .raopRtp).alive = true → P := by
    intro P ha
    rw [htasks, hdead] at ha
    cases ha
  refine ⟨?_, ?_, hok, rfl⟩
  · exact
      { keeps := fun p hp => by rw [htasks]; exact ⟨hp, rfl, id⟩
        slot := fun _ _ => ⟨hheld, howner⟩
        stream := fun ha => by rw [hdead] at ha; cases ha
        created := fun p hp hp' => by rw [htasks, hp] at hp'; cases hp' }
  · exact
      { not_done := by rw [htasks]; exact hi.not_done
        running := by rw [htasks, hheld, howner]; exact hi.running
        exclusive := by rw [htasks]; exact hi.exclusive
        handle := by rw [htasks]; exact hi.handle
        sockets := hno, alac := hno, aesKey := hno, slots := hno }

/-- Steady statics that are known exactly stay known, as no producer changes them. -/
theorem known_stable (hv : Steady v) :
    (sessionOutline meets).Stable .rtsp fun s => s.statics = v :=
  steady_stable (A := (· = v)) fun _ hs => hs ▸ hv

/-- A step that only reads, on exactly known statics. -/
theorem known_read {res : SessionState → α} {r : α} (hv : Steady v)
    (hres : ∀ s, s.statics = v → res s = r) :
    RtspTriple meets (· = v) (.read .access res) fun a s => a = r ∧ s = v :=
  rtsp_read (fun _ hs => hs ▸ hv) (fun _ => trivial) hres

/-! ## Waiting for a producer -/

/-- The statics once producer `p` has ended. -/
def SessionStatics.ended (v : SessionStatics) (p : Producer) : SessionStatics :=
  { v with
    tasks := Function.update v.tasks p ⟨false, false, true, false⟩
    producerHeld := false
    producerOwner := none }

/-- The flags of the producer that has ended. -/
@[simp] theorem SessionStatics.ended_self (v : SessionStatics) (p : Producer) :
    (v.ended p).tasks p = ⟨false, false, true, false⟩ := Function.update_self ..

/-- Those of the other one stay. -/
theorem SessionStatics.ended_of_ne (v : SessionStatics) {p q : Producer} (h : q ≠ p) :
    (v.ended p).tasks q = v.tasks q := Function.update_of_ne h ..

/-- The statics while the RTSP task waits for producer `p`: it is on its way out, or has ended. -/
def Waiting (v : SessionStatics) (p : Producer) (s : SessionStatics) : Prop :=
  (∃ t held owner, t.run = false ∧ t.alive = true ∧
    s = { v with
      tasks := Function.update v.tasks p t, producerHeld := held, producerOwner := owner }) ∨
  s = v.ended p

/-- Only `p` is alive while it is waited for, and `p` may end in the meantime. -/
theorem waiting_stable {p : Producer} (hother : ∀ q, q ≠ p → (v.tasks q).alive = false) :
    (sessionOutline meets).Stable .rtsp fun s => Waiting v p s.statics := by
  refine Outline.ofGuar_stable fun t s s' ht hi hi' hg h => ?_
  cases t with
  | rtsp => exact absurd rfl ht
  | producer q =>
      obtain ⟨w, held, owner, hrun, halive, hs⟩ | hs := h
      · -- the producer that takes a step is `p`
        have hq : (s.statics.tasks q).alive = true → q = p := by
          intro hqa
          by_contra hqp
          rw [hs] at hqa
          dsimp only at hqa
          rw [Function.update_of_ne hqp, hother q hqp] at hqa
          cases hqa
        cases hg with
        | work f _ => exact .inl ⟨w, held, owner, hrun, halive, hs⟩
        | disown _ _ =>
            exact .inl ⟨w, held, none, hrun, halive, by rw [SessionState.onStatics_statics, hs]⟩
        | release _ _ =>
            exact .inl ⟨w, false, owner, hrun, halive, by rw [SessionState.onStatics_statics, hs]⟩
        | clearHandle hqa _ =>
            obtain rfl := hq hqa
            refine .inl ⟨{ w with task := false }, held, owner, hrun, halive, ?_⟩
            rw [SessionState.onStatics_statics, hs]
            simp [SessionStatics.onTask]
        | exit hqa _ htask hheld howner =>
            obtain rfl := hq hqa
            refine .inr ?_
            rw [hs] at htask hheld howner
            dsimp only at htask hheld howner
            rw [Function.update_self] at htask
            have hw : { w with done := true, alive := false } = (⟨false, false, true, false⟩ :
                TaskStatics) := by rw [htask, hrun]
            rw [SessionState.onStatics_statics, hs]
            simp only [SessionStatics.onTask, SessionStatics.ended, Function.update_self,
              Function.update_idem, hw, hheld, howner]
      · -- nobody is left
        have hdead : (s.statics.tasks q).alive = false := by
          rw [hs]
          by_cases hqp : q = p
          · rw [hqp, SessionStatics.ended_self]
          · rw [SessionStatics.ended_of_ne v hqp, hother q hqp]
        cases hg with
        | work f _ => exact .inr hs
        | disown ha | release ha | clearHandle ha | exit ha =>
            rw [hdead] at ha
            cases ha

/-- **Joining**: when `joinProducer` returns, the producer has given back the slot and its handle. -/
theorem joinProducer_rtsp {p : Producer} (hother : ∀ q, q ≠ p → (v.tasks q).alive = false)
    (hv : Steady v) (halive : (v.tasks p).alive = true)
    (hended : Steady (v.ended p)) :
    RtspTriple meets (· = v) (joinProducer p) fun _ s => s = v.ended p := by
  have hclear : RtspTriple meets (· = v)
      (.modify .access (·.onStatics (·.onTask p ({ · with run := false }))))
      fun _ => Waiting v p := by
    refine Outline.Triple.atom (known_stable hv) (fun _ => waiting_stable hother)
      fun s hi hs => ?_
    dsimp only at hs
    have honly : ∀ q, (s.statics.tasks q).alive = true → q = p := by
      intro q hq
      by_contra hqp
      rw [hs, hother q hqp] at hq
      cases hq
    have hstep : ∀ q, ((s.statics.onTask p ({ · with run := false })).tasks q).alive
        = (s.statics.tasks q).alive ∧
        ((s.statics.onTask p ({ · with run := false })).tasks q).task = (s.statics.tasks q).task ∧
        ((s.statics.onTask p ({ · with run := false })).tasks q).done
          = (s.statics.tasks q).done := by
      intro q
      by_cases hqp : q = p
      · subst hqp
        rw [SessionStatics.onTask_self]
        exact ⟨rfl, rfl, rfl⟩
      · rw [SessionStatics.onTask_of_ne _ hqp]
        exact ⟨rfl, rfl, rfl⟩
    refine ⟨?_, ?_, trivial, ?_⟩
    · exact
        { keeps := fun q hq => ⟨(hstep q).1.trans hq, (hstep q).2.1, fun _ => by
            rw [honly q hq, SessionState.onStatics_statics, SessionStatics.onTask_self]⟩
          slot := fun _ _ => ⟨rfl, rfl⟩
          stream := fun _ => ⟨rfl, rfl, rfl, rfl⟩
          created := by
            intro q hq hq'
            rw [SessionState.onStatics_statics, (hstep q).1, hq] at hq'
            cases hq' }
    · exact
        { not_done := by
            intro q hq
            rw [SessionState.onStatics_statics, (hstep q).1] at hq
            exact (hstep q).2.2.trans (hi.not_done q hq)
          running := by
            intro q hq hr
            rw [SessionState.onStatics_statics, (hstep q).1] at hq
            rw [SessionState.onStatics_statics, honly q hq, SessionStatics.onTask_self] at hr
            cases hr
          exclusive := fun q r hq hr => hi.exclusive q r ((hstep q).1.symm.trans hq)
            ((hstep r).1.symm.trans hr)
          handle := fun q hq =>
            (hstep q).1.trans (hi.handle q ((hstep q).2.1.symm.trans hq))
          sockets := fun hq => hi.sockets ((hstep _).1.symm.trans hq)
          alac := fun hq => hi.alac ((hstep _).1.symm.trans hq)
          aesKey := fun hq => hi.aesKey ((hstep _).1.symm.trans hq)
          slots := fun hq => hi.slots ((hstep _).1.symm.trans hq) }
    · refine .inl ⟨{ v.tasks p with run := false }, v.producerHeld, v.producerOwner, rfl, halive, ?_⟩
      rw [SessionState.onStatics_statics, hs]
      rfl
  have hwait : RtspTriple meets (Waiting v p)
      (.await .access (fun s => (s.statics.tasks p).done) id) fun _ s => s = v.ended p := by
    refine Outline.Triple.act (waiting_stable hother) (fun _ => known_stable hended)
      fun s hi h hdone => ⟨.refl _, hi, trivial, ?_⟩
    obtain ⟨w, held, owner, -, hwalive, hs⟩ | hs := h
    · -- a live task is not done
      have halive' : (s.statics.tasks p).alive = true := by
        rw [hs]
        dsimp only
        rw [Function.update_self]
        exact hwalive
      rw [hi.not_done p halive'] at hdone
      cases hdone
    · exact hs
  exact hclear.bind fun _ => hwait

end ConduitStream
