import ConduitStream.Foundations.RelyGuarantee
import ConduitStream.Session.Model
import ConduitStream.Session.ProducerTasks

/-! # The three tasks together

`sessionSystem` runs the RTSP task and the two producer tasks in every interleaving of their atomic
steps; `sessionOutline` is the proof outline for it.

* the statics satisfy `StaticsInv`: at most one producer is alive, it holds the slot until it is
  asked to end, and the sockets, the decoder, the key and the reorder slots of a live RTP task are
  all there;
* a producer guarantees `ProducerTaskStep`: it touches the shared statics only when asked to end, and then
  releases the slot and clears its handle before it sets `done`;
* the RTSP task guarantees `RtspStep`: as long as a producer is alive, it takes nothing of what the
  producer uses.

What a producer assumes while it is in its loop is stable under the others (`taskView_stable`),
and a program of steps on its own statics keeps to the outline (`Works`). -/

namespace ConduitStream

/-! ## The system -/

/-- The tasks. -/
inductive SessionTask
  | rtsp
  | producer (p : Producer)
  deriving DecidableEq

/-- The last event the RTSP task has processed: the statics before it, and its result. -/
structure RtspDone where
  event : RtspEvent
  before : SessionStatics
  result : ℤ

/-- The control values of a task between two programs. -/
abbrev SessionCtl : SessionTask → Type
  | .rtsp => Option RtspDone
  | .producer .raopRtp => RtpCtl
  | .producer .diagTone => DiagCtl

/-- The programs of the tasks. A producer task starts once it has been created. -/
inductive SessionCode (meets : EventCondition) :
    (t : SessionTask) → SessionCtl t → SessionState → SessionProg (SessionCtl t) → Prop
  | event {k : Option RtspDone} {s : SessionState} {e : RtspEvent} :
      e.Enabled s.statics.client s.statics.session →
      meets s.statics.session (s.statics.tasks .raopRtp).task e →
      SessionCode meets .rtsp k s (do
        let r ← e.program
        return some ⟨e, s.statics, r⟩)
  | rtpEntry {s : SessionState} (ntp : BitVec 64) (tick : BitVec 32) :
      (s.statics.tasks .raopRtp).alive = true →
      SessionCode meets (.producer .raopRtp) .absent s (rtpTaskEntry ntp tick)
  | rtpLoop {s : SessionState} (lastTiming : BitVec 32) (r : SelectResult) :
      SessionCode meets (.producer .raopRtp) (.loop lastTiming) s (rtpTaskLoop lastTiming r)
  | rtpServe {s : SessionState} (ntp : BitVec 64) (now lastTiming : BitVec 32)
      (readable : List Readable) :
      SessionCode meets (.producer .raopRtp) (.serve readable lastTiming) s
        (rtpTaskServe ntp now lastTiming readable)
  | rtpDrain {s : SessionState} (o : DecodeOutcome) (now : BitVec 32) (pending : RtpPending) :
      SessionCode meets (.producer .raopRtp) (.drain pending) s (rtpTaskDrain o now pending)
  | rtpFeed {s : SessionState} (frames accepted : ℕ) (pending : RtpPending) :
      SessionCode meets (.producer .raopRtp) (.feed frames pending) s
        (rtpTaskFeed frames accepted pending)
  | diagEntry {s : SessionState} :
      (s.statics.tasks .diagTone).alive = true →
      SessionCode meets (.producer .diagTone) .absent s (return .loop)
  | diagLoop {s : SessionState} :
      SessionCode meets (.producer .diagTone) .loop s diagToneLoop
  | diagFeed {s : SessionState} (frames accepted : ℕ) :
      SessionCode meets (.producer .diagTone) (.feed frames) s (diagToneFeed frames accepted)

/-- The three tasks; the events of the RTSP task all meet the condition. -/
def sessionSystem (meets : EventCondition) :
    System SessionState SessionStep SessionTask SessionCtl where
  code := SessionCode meets

/-- A configuration. -/
abbrev SessionConfig : Type := Config SessionState SessionStep SessionTask SessionCtl

/-- The start: `server_task` is at its loop, and there is no producer task. -/
def sessionBoot (rx : RtpRx) : SessionConfig where
  st := ⟨.boot, rx⟩
  th
    | .rtsp => .ret none
    | .producer .raopRtp => .ret RtpCtl.absent
    | .producer .diagTone => .ret DiagCtl.absent

/-! ## The outline -/

/-- The invariant of the statics. -/
structure StaticsInv (s : SessionStatics) : Prop where
  /-- The statics of a live task. -/
  not_done : ∀ p, (s.tasks p).alive = true → (s.tasks p).done = false
  running : ∀ p, (s.tasks p).alive = true → (s.tasks p).run = true →
    (s.tasks p).task = true ∧ s.producerHeld = true ∧ s.producerOwner = some p
  /-- Only one task is alive, and only live tasks have a handle. -/
  exclusive : ∀ p q, (s.tasks p).alive = true → (s.tasks q).alive = true → p = q
  handle : ∀ p, (s.tasks p).task = true → (s.tasks p).alive = true
  /-- What a live RTP task uses. -/
  sockets : (s.tasks .raopRtp).alive = true → ∀ role, s.io.fd role ∈ s.udp
  alac : (s.tasks .raopRtp).alive = true → s.alac.isSome = true
  aesKey : (s.tasks .raopRtp).alive = true → s.aesKey.isSome = true
  slots : (s.tasks .raopRtp).alive = true → s.slots = true

/-- What a live producer does to the state. -/
inductive ProducerTaskStep (p : Producer) (s : SessionState) : SessionState → Prop
  /-- Work on the statics of its own. -/
  | work (f : RtpRx → RtpRx) : (s.statics.tasks p).alive = true → ProducerTaskStep p s (s.onRx f)
  | disown : (s.statics.tasks p).alive = true → (s.statics.tasks p).run = false →
      ProducerTaskStep p s (s.onStatics ({ · with producerOwner := none }))
  | release : (s.statics.tasks p).alive = true → (s.statics.tasks p).run = false →
      ProducerTaskStep p s (s.onStatics ({ · with producerHeld := false }))
  | clearHandle : (s.statics.tasks p).alive = true → (s.statics.tasks p).run = false →
      ProducerTaskStep p s (s.onStatics (·.onTask p ({ · with task := false })))
  | exit : (s.statics.tasks p).alive = true → (s.statics.tasks p).run = false →
      (s.statics.tasks p).task = false → s.statics.producerHeld = false →
      s.statics.producerOwner = none →
      ProducerTaskStep p s (s.onStatics (·.onTask p ({ · with done := true, alive := false })))

/-- Only a live producer takes a step. -/
theorem ProducerTaskStep.alive {p : Producer} {s s' : SessionState}
    (h : ProducerTaskStep p s s') : (s.statics.tasks p).alive = true := by
  cases h <;> assumption

/-- What the RTSP task leaves alone. -/
structure RtspStep (s s' : SessionStatics) : Prop where
  /-- A live task stays alive and keeps its handle, and is not told to run again. -/
  keeps : ∀ p, (s.tasks p).alive = true →
    (s'.tasks p).alive = true ∧ (s'.tasks p).task = (s.tasks p).task ∧
      ((s.tasks p).run = false → (s'.tasks p).run = false)
  /-- It keeps the slot. -/
  slot : ∀ p, (s.tasks p).alive = true →
    s'.producerHeld = s.producerHeld ∧ s'.producerOwner = s.producerOwner
  /-- The RTP task keeps what it has got at its start. -/
  stream : (s.tasks .raopRtp).alive = true →
    s'.io = s.io ∧ s'.alac = s.alac ∧ s'.aesKey = s.aesKey ∧ s'.slots = s.slots
  /-- A task that is created finds itself in possession of the slot. -/
  created : ∀ p, (s.tasks p).alive = false → (s'.tasks p).alive = true →
    (s'.tasks p).task = true ∧ s'.producerHeld = true ∧ s'.producerOwner = some p

/-- The condition under which a labelled step is taken. -/
def StepOk (t : SessionTask) (l : SessionStep) (s : SessionStatics) : Prop :=
  match l with
  | .close fd => (s.tasks .raopRtp).alive = true → ∀ role, s.io.fd role ≠ fd
  | .free => (s.tasks .raopRtp).alive = false
  | .release => s.producerHeld = true ∧ ∀ p, (s.tasks p).alive = true → t = .producer p
  | .select => ∀ role, s.io.fd role ∈ s.udp
  | .recvfrom role | .sendto role _ _ => s.io.fd role ∈ s.udp
  | .reorder => s.slots = true
  | .decrypt => s.aesKey.isSome = true
  | .decode => s.alac.isSome = true
  | .playPcm => s.producerHeld = true ∧ ∃ p, t = .producer p ∧ s.producerOwner = some p
  | _ => True

/-- The machine in state `m` describes the statics between two events. -/
structure Between (m : SessionModel) (s : SessionStatics) : Prop where
  session : s.session = m.session
  client : s.client = m.client
  udp : s.udp = m.udp
  /-- The task the machine has, and no other, is alive and told to run. -/
  alive : ∀ p, (s.tasks p).alive = true ↔ m.producer = some p
  task : ∀ p, (s.tasks p).task = (s.tasks p).alive
  run : ∀ p, (s.tasks p).alive = true → (s.tasks p).run = true
  /-- It holds the slot. -/
  held : s.producerHeld = m.producer.isSome
  owner : s.producerOwner = m.producer
  /-- The streaming resources exist while the RTP task does. -/
  alac : s.alac.isSome = (s.tasks .raopRtp).alive
  aesKey : s.aesKey.isSome = (s.tasks .raopRtp).alive
  slots : s.slots = (s.tasks .raopRtp).alive

/-- What holds between two events: the machine has made the step of the last event. -/
def RtspIdle (meets : EventCondition) (s : SessionStatics) : Option RtspDone → Prop
  | none => Between .boot s
  | some d => ∃ m, SessionModel.Reached meets m ∧ m.Admits meets d.event ∧ Between m d.before ∧
      (m.step d.event).2 = d.result ∧ Between (m.step d.event).1 s

/-- A live producer `p` and what it relies on: its handle, the slot and the owner, and, once
`leaving`, that it is to end. -/
structure TaskView (p : Producer) (leaving task held : Bool) (owner : Option Producer)
    (s : SessionStatics) : Prop where
  alive : (s.tasks p).alive = true
  leaving : leaving = true → (s.tasks p).run = false
  task : (s.tasks p).task = task
  held : s.producerHeld = held
  owner : s.producerOwner = owner

/-- The producer is in its loop. -/
abbrev Producing (p : Producer) : SessionStatics → Prop :=
  TaskView p false true true (some p)

/-- What holds between two programs of a producer task, `started` or not. -/
def ProducerIdle (p : Producer) (started : Bool) (s : SessionStatics) : Prop :=
  (started = true → (s.tasks p).alive = true) ∧ ((s.tasks p).alive = true → Producing p s)

/-- There is a task. -/
def RtpCtl.started : RtpCtl → Bool
  | .absent => false
  | _ => true

@[inherit_doc RtpCtl.started] def DiagCtl.started : DiagCtl → Bool
  | .absent => false
  | _ => true

/-- **The outline.** -/
def sessionOutline (meets : EventCondition) :
    Outline SessionState SessionStep SessionTask SessionCtl :=
  .ofGuar (fun s => StaticsInv s.statics)
    (fun
      | .rtsp => fun s s' => RtspStep s.statics s'.statics
      | .producer p => ProducerTaskStep p)
    (fun t l s => StepOk t l s.statics)
    (fun
      | .rtsp => fun k s => RtspIdle meets s.statics k
      | .producer .raopRtp => fun k s => ProducerIdle .raopRtp k.started s.statics
      | .producer .diagTone => fun k s => ProducerIdle .diagTone k.started s.statics)

/-! ## The producers in their loops -/

section Producers

variable {meets : EventCondition} {p : Producer} {leaving task held : Bool}
  {owner : Option Producer} {α β : Type}

/-- What the others do leaves a live producer what it relies on. -/
theorem taskView_stable : (sessionOutline meets).Stable (.producer p) fun s =>
    TaskView p leaving task held owner s.statics := by
  refine Outline.ofGuar_stable fun t s s' ht hi hi' hg h => ?_
  cases t with
  | rtsp =>
      obtain ⟨hkeeps, hslot, -, -⟩ := hg
      obtain ⟨halive, htask, hrun⟩ := hkeeps p h.alive
      obtain ⟨hheld, howner⟩ := hslot p h.alive
      exact ⟨halive, fun hl => hrun (h.leaving hl), htask.trans h.task, hheld.trans h.held,
        howner.trans h.owner⟩
  | producer q =>
      -- the other producer would have to be alive, too
      have hstep : ProducerTaskStep q s s' := hg
      exact absurd (congrArg _ (hi.exclusive p q h.alive hstep.alive)) ht

/-- The idle assertion of a producer, whether it is alive or not. -/
theorem producerIdle_stable {started : Bool} : (sessionOutline meets).Stable (.producer p) fun s =>
    ProducerIdle p started s.statics := by
  refine Outline.ofGuar_stable fun t s s' ht hi hi' hg h => ?_
  by_cases halive : (s.statics.tasks p).alive = true
  · have hstable : (sessionOutline meets).Stable (.producer p) fun s => Producing p s.statics :=
      taskView_stable
    have hstep := hstable hi hi' (.single ⟨hi, hi', t, ht, hg⟩) (h.2 halive)
    exact ⟨fun _ => hstep.alive, fun _ => hstep⟩
  · -- the only change can be that the RTSP task creates it
    have hstarted : started = false := by
      cases started with
      | false => rfl
      | true => exact absurd (h.1 rfl) halive
    subst hstarted
    refine ⟨nofun, fun halive' => ?_⟩
    rw [Bool.not_eq_true] at halive
    cases t with
    | rtsp =>
        obtain ⟨htask, hheld, howner⟩ := hg.created p halive halive'
        exact ⟨halive', nofun, htask, hheld, howner⟩
    | producer q =>
        have hq : p ≠ q := fun h => ht (congrArg _ h)
        cases hg <;> simp_all [SessionStatics.onTask_of_ne]

variable (meets p) in
/-- The program leaves the producer in its loop. -/
def Works (prog : SessionProg α) : Prop :=
  (sessionOutline meets).Triple (.producer p) (fun s => Producing p s.statics) prog
    fun _ s => Producing p s.statics

/-- A program that returns leaves the producer in its loop. -/
theorem Works.ret (a : α) : Works meets p (pure a) :=
  Outline.Triple.ret taskView_stable fun _ _ h => h

/-- So do two programs in a row that do. -/
theorem Works.bind {prog : SessionProg α} {f : α → SessionProg β} (hp : Works meets p prog)
    (hf : ∀ a, Works meets p (f a)) : Works meets p (prog >>= f) :=
  Outline.Triple.bind hp hf

/-- A step on what the producer has to itself. -/
theorem Works.atom {l : SessionStep} {upd : SessionState → SessionState} {res : SessionState → α}
    (hupd : ∀ s, ∃ f, upd s = s.onRx f)
    (hok : ∀ s, StaticsInv s → Producing p s → StepOk (.producer p) l s) :
    Works meets p (.atom l upd res) := by
  refine Outline.Triple.atom taskView_stable (fun _ => taskView_stable) fun s hi h => ?_
  obtain ⟨f, hf⟩ := hupd s
  rw [hf]
  exact ⟨.work f h.alive, hi, hok _ hi h, h⟩

/-- A step that only reads the statics leaves the producer in its loop. -/
theorem Works.read {l : SessionStep} {res : SessionState → α}
    (hok : ∀ s, StaticsInv s → Producing p s → StepOk (.producer p) l s) :
    Works meets p (.read l res) := .atom (fun _ => ⟨id, rfl⟩) hok

end Producers

end ConduitStream
