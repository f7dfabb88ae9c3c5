import Mathlib.Data.List.Chain
import ConduitStream.Foundations.SerialNumber
import ConduitStream.Foundations.Trace

/-! # The setup button (`setup_button.c`)

The task polls the BOOT button. A press counts once the button has been seen released since the start,
from the first poll that sees it; but the tick count of that poll is kept in `pressed_at`, for which 0
stands for no press, so that a poll at a tick count of 0 does not see the press. `setupButton_requests_iff`
says which polls come to request the setup mode: the first ones at which a press has lasted 3000 ms. -/

namespace ConduitStream

/-- `pdMS_TO_TICKS(LONG_PRESS_MS)`, with 1000 ticks a second. -/
def longPressTicks : BitVec 32 := 3000

/-- The locals of `setup_button_task`; `waiting` is the inner loop, in which it waits for the release. -/
structure SetupButton where
  armed : Bool
  pressedAt : BitVec 32
  waiting : Bool
  deriving DecidableEq, Repr

/-- The locals at the start. -/
def SetupButton.start : SetupButton := ⟨false, 0, false⟩

/-- One reading of the button, at a time counted in ticks from the boot on. -/
structure ButtonPoll where
  pressed : Bool
  time : ℕ
  deriving DecidableEq, Repr

/-- `xTaskGetTickCount()`. -/
def ButtonPoll.tick (p : ButtonPoll) : BitVec 32 := BitVec.ofNat 32 p.time

/-- One poll of `setup_button_task`, and whether it calls `system_config_request_setup_mode`. The locals
are those after a call that fails; behind one that works there is a restart. -/
def SetupButton.poll (b : SetupButton) (p : ButtonPoll) : SetupButton × Bool :=
  if b.waiting then ({ b with waiting := p.pressed }, false)
  else if ¬b.armed then ({ b with armed := !p.pressed }, false)
  else if ¬p.pressed then ({ b with pressedAt := 0 }, false)
  else if b.pressedAt = 0 then ({ b with pressedAt := p.tick }, false)
  else if longPressTicks ≤ p.tick - b.pressedAt then ({ b with pressedAt := 0, waiting := true }, true)
  else (b, false)

/-- The locals after a list of polls. -/
def SetupButton.after (b : SetupButton) (polls : List ButtonPoll) : SetupButton :=
  (runOps SetupButton.poll b polls).1

/-- Without a poll the record stays as it is. -/
@[simp] theorem SetupButton.after_nil (b : SetupButton) : b.after [] = b := rfl

/-- The first poll comes first, and the others go on from there. -/
@[simp] theorem SetupButton.after_cons (b : SetupButton) (p : ButtonPoll) (polls : List ButtonPoll) :
    b.after (p :: polls) = (b.poll p).1.after polls := rfl

/-- Two stretches of polls: the second one goes on where the first has ended. -/
theorem SetupButton.after_append (b : SetupButton) (polls polls' : List ButtonPoll) :
    b.after (polls ++ polls') = (b.after polls).after polls' := by
  unfold SetupButton.after
  rw [runOps_append]

/-! ## A press -/

/-- The polls come in the order of time, and never so late that a long press could be missed between
two of them. -/
def Polled (polls : List ButtonPoll) : Prop :=
  polls.IsChain fun p q => p.time ≤ q.time ∧ q.time - p.time < 2 ^ 32 - 3000

/-- A press: the button is seen released, then pressed, at a tick count that is not 0 from `first` on. -/
structure Press where
  released : ButtonPoll
  unseen : List ButtonPoll
  first : ButtonPoll
  held : List ButtonPoll
  not_pressed : released.pressed = false
  unseen_tick : ∀ p ∈ unseen, p.pressed = true ∧ p.tick = 0
  first_pressed : first.pressed = true
  first_tick : first.tick ≠ 0
  held_pressed : ∀ p ∈ held, p.pressed = true

/-- Its polls. -/
def Press.polls (p : Press) : List ButtonPoll := p.released :: (p.unseen ++ p.first :: p.held)

/-- It has not been held long at any of them. -/
def Press.Short (p : Press) : Prop := ∀ q ∈ p.held, q.time < p.first.time + 3000

/-- The poll is the first at which a press has lasted 3000 ticks. -/
def LongPressAt (history : List ButtonPoll) (q : ButtonPoll) : Prop :=
  q.pressed = true ∧ ∃ (before : List ButtonPoll) (p : Press), history = before ++ p.polls ∧ p.Short ∧
    p.first.time + 3000 ≤ q.time

/-! ## The locals -/

/-- Waiting for the release, or before the first one, there is no press. -/
structure SetupButton.Sound (b : SetupButton) : Prop where
  of_waiting : b.waiting = true → b.armed = true ∧ b.pressedAt = 0
  of_not_armed : b.armed = false → b.pressedAt = 0

variable {b : SetupButton} {q : ButtonPoll}

/-- **Step lemma**: a release ends every press. -/
theorem SetupButton.Sound.poll_released (hb : b.Sound) (hq : q.pressed = false) :
    b.poll q = (⟨true, 0, false⟩, false) := by
  obtain ⟨armed, pressedAt, waiting⟩ := b
  cases waiting with
  | true =>
      obtain ⟨rfl, rfl⟩ := hb.of_waiting rfl
      simp [SetupButton.poll, hq]
  | false =>
      cases armed with
      | false =>
          obtain rfl := hb.of_not_armed rfl
          simp [SetupButton.poll, hq]
      | true => simp [SetupButton.poll, hq]

/-- A poll keeps the record sound. -/
theorem SetupButton.Sound.poll (hb : b.Sound) (q : ButtonPoll) : (b.poll q).1.Sound := by
  obtain ⟨armed, pressedAt, waiting⟩ := b
  cases waiting with
  | true =>
      obtain ⟨rfl, rfl⟩ := hb.of_waiting rfl
      exact ⟨fun _ => ⟨rfl, rfl⟩, fun _ => rfl⟩
  | false =>
      cases armed with
      | false =>
          obtain rfl := hb.of_not_armed rfl
          exact ⟨nofun, fun _ => rfl⟩
      | true =>
          simp only [SetupButton.poll, Bool.false_eq_true, not_true_eq_false, if_false]
          split_ifs
          all_goals constructor <;> simp

/-- And so does any number of them. -/
theorem SetupButton.Sound.after (hb : b.Sound) (polls : List ButtonPoll) : (b.after polls).Sound := by
  induction polls generalizing b with
  | nil => exact hb
  | cons q polls ih => exact ih (hb.poll q)

/-- The record is sound at the start. -/
theorem sound_start : SetupButton.start.Sound := ⟨nofun, fun _ => rfl⟩

/-! ## The polls of a press -/

/-- The elapsed ticks, unless they wrap. -/
theorem longPressTicks_le_iff {t t' : ℕ} (hle : t ≤ t') (hlt : t' - t < 2 ^ 32) :
    longPressTicks ≤ BitVec.ofNat 32 t' - BitVec.ofNat 32 t ↔ t + 3000 ≤ t' := by
  rw [ofNat_sub_ofNat hle, BitVec.le_def, BitVec.toNat_ofNat, Nat.mod_eq_of_lt hlt]
  show 3000 ≤ t' - t ↔ _
  omega

/-- While a press is short, the next poll cannot come so late that the ticks wrap. -/
theorem Polled.elapsed {t : ℕ} {p : ButtonPoll} {held : List ButtonPoll} (h : Polled (p :: (held ++ [q])))
    (hp : t ≤ p.time ∧ p.time < t + 3000) (hshort : ∀ x ∈ held, x.time < t + 3000) :
    t ≤ q.time ∧ q.time - t < 2 ^ 32 := by
  induction held generalizing p with
  | nil =>
      obtain ⟨⟨hle, hlt⟩, -⟩ := List.isChain_cons_cons.mp h
      omega
  | cons x held ih =>
      obtain ⟨⟨hle, -⟩, hrest⟩ := List.isChain_cons_cons.mp h
      exact ih hrest ⟨Nat.le_trans hp.1 hle, hshort x List.mem_cons_self⟩
        fun y hy => hshort y (List.mem_cons_of_mem _ hy)

/-- The polls from the first one of a press on. -/
theorem Polled.press {before : List ButtonPoll} {p : Press} (h : Polled (before ++ p.polls ++ [q])) :
    Polled (p.first :: (p.held ++ [q])) := by
  refine List.IsChain.suffix h ⟨before ++ p.released :: p.unseen, ?_⟩
  simp [Press.polls]

/-- A poll of a press that has begun at the time `t`. -/
theorem poll_pressed {t : ℕ} (ht : BitVec.ofNat 32 t ≠ 0) (hq : q.pressed = true)
    (helapsed : t ≤ q.time ∧ q.time - t < 2 ^ 32) :
    SetupButton.poll ⟨true, BitVec.ofNat 32 t, false⟩ q
      = if t + 3000 ≤ q.time then (⟨true, 0, true⟩, true) else (⟨true, BitVec.ofNat 32 t, false⟩, false) := by
  simp only [SetupButton.poll, hq, if_neg ht, ButtonPoll.tick,
    longPressTicks_le_iff helapsed.1 helapsed.2]
  simp

/-- A poll at a tick count of 0 does not see the press. -/
theorem after_unseen {unseen : List ButtonPoll} (h : ∀ p ∈ unseen, p.pressed = true ∧ p.tick = 0) :
    SetupButton.after ⟨true, 0, false⟩ unseen = ⟨true, 0, false⟩ := by
  induction unseen with
  | nil => rfl
  | cons p unseen ih =>
      obtain ⟨hpressed, htick⟩ := h p List.mem_cons_self
      have hpoll : SetupButton.poll ⟨true, 0, false⟩ p = (⟨true, 0, false⟩, false) := by
        simp [SetupButton.poll, hpressed, htick]
      rw [SetupButton.after_cons, hpoll]
      exact ih fun x hx => h x (List.mem_cons_of_mem _ hx)

/-- A press that has not lasted long enough is kept with its start. -/
theorem after_held {t : ℕ} (ht : BitVec.ofNat 32 t ≠ 0) {p : ButtonPoll} {held : List ButtonPoll}
    (h : Polled (p :: held)) (hp : t ≤ p.time) (hpressed : ∀ x ∈ held, x.pressed = true)
    (hshort : ∀ x ∈ held, x.time < t + 3000) :
    SetupButton.after ⟨true, BitVec.ofNat 32 t, false⟩ held = ⟨true, BitVec.ofNat 32 t, false⟩ := by
  induction held generalizing p with
  | nil => rfl
  | cons x held ih =>
      obtain ⟨⟨hle, -⟩, hrest⟩ := List.isChain_cons_cons.mp h
      have hx := hshort x List.mem_cons_self
      have hpoll := poll_pressed ht (hpressed x List.mem_cons_self) (by omega)
      rw [SetupButton.after_cons, hpoll, if_neg (by omega)]
      exact ih hrest (Nat.le_trans hp hle) (fun y hy => hpressed y (List.mem_cons_of_mem _ hy))
        fun y hy => hshort y (List.mem_cons_of_mem _ hy)

/-- **The polls of a short press**, whatever was before. -/
theorem SetupButton.Sound.after_press (hb : b.Sound) {p : Press} (hshort : p.Short) (h : Polled p.polls) :
    b.after p.polls = ⟨true, p.first.tick, false⟩ := by
  have hfirst : SetupButton.poll ⟨true, 0, false⟩ p.first = (⟨true, p.first.tick, false⟩, false) := by
    simp [SetupButton.poll, p.first_pressed]
  have hheld : Polled (p.first :: p.held) := List.IsChain.suffix h ⟨p.released :: p.unseen, rfl⟩
  rw [Press.polls, SetupButton.after_cons, hb.poll_released p.not_pressed, SetupButton.after_append,
    after_unseen p.unseen_tick, SetupButton.after_cons, hfirst]
  exact after_held p.first_tick hheld le_rfl p.held_pressed hshort

/-! ## The requests -/

/-- What the history of the polls says about the locals. -/
inductive ButtonPhase : List ButtonPoll → SetupButton → Prop
  /-- The button has not been seen released. -/
  | start {history : List ButtonPoll} : ButtonPhase history .start
  /-- It has been, and no press has been seen since. -/
  | released {before unseen : List ButtonPoll} {r : ButtonPoll} : r.pressed = false →
      (∀ p ∈ unseen, p.pressed = true ∧ p.tick = 0) →
      ButtonPhase (before ++ r :: unseen) ⟨true, 0, false⟩
  /-- A press. -/
  | pressed {before : List ButtonPoll} {p : Press} : p.Short →
      ButtonPhase (before ++ p.polls) ⟨true, p.first.tick, false⟩
  /-- A request was made, and the button has not been released since. -/
  | requested {history : List ButtonPoll} : ButtonPhase history ⟨true, 0, true⟩

/-- The press goes on. -/
def Press.hold (p : Press) (hq : q.pressed = true) : Press :=
  { p with
    held := p.held ++ [q]
    held_pressed := fun x hx => by
      rcases List.mem_append.mp hx with hx | hx
      · exact p.held_pressed x hx
      · rw [List.mem_singleton.mp hx]
        exact hq }

/-- **Step lemma**: one more poll, and what is behind a request. -/
theorem ButtonPhase.poll {history : List ButtonPoll} (h : ButtonPhase history b) (hsound : b.Sound)
    (hpolled : Polled (history ++ [q])) :
    ButtonPhase (history ++ [q]) (b.poll q).1 ∧ ((b.poll q).2 = true → LongPressAt history q) := by
  cases hq : q.pressed with
  | false =>
      rw [hsound.poll_released hq]
      exact ⟨.released hq (fun p hp => absurd hp List.not_mem_nil), nofun⟩
  | true =>
      cases h with
      | start =>
          have hpoll : SetupButton.start.poll q = (.start, false) := by
            simp [SetupButton.poll, SetupButton.start, hq]
          rw [hpoll]
          exact ⟨.start, nofun⟩
      | requested =>
          have hpoll : SetupButton.poll ⟨true, 0, true⟩ q = (⟨true, 0, true⟩, false) := by
            simp [SetupButton.poll, hq]
          rw [hpoll]
          exact ⟨.requested, nofun⟩
      | @released before unseen r hr hunseen =>
          have hpoll : SetupButton.poll ⟨true, 0, false⟩ q = (⟨true, q.tick, false⟩, false) := by
            simp [SetupButton.poll, hq]
          rw [hpoll]
          refine ⟨?_, nofun⟩
          rw [List.append_assoc, List.cons_append]
          by_cases htick : q.tick = 0
          · rw [htick]
            refine .released hr fun p hp => ?_
            rcases List.mem_append.mp hp with hp | hp
            · exact hunseen p hp
            · rw [List.mem_singleton.mp hp]
              exact ⟨hq, htick⟩
          · exact .pressed (p := ⟨r, unseen, q, [], hr, hunseen, hq, htick, by simp⟩)
              fun x hx => absurd hx List.not_mem_nil
      | @pressed before p hshort =>
          have helapsed := hpolled.press.elapsed ⟨le_rfl, by omega⟩ hshort
          have hpoll := poll_pressed p.first_tick hq helapsed
          rw [ButtonPoll.tick, hpoll]
          split_ifs with hlong
          · exact ⟨.requested, fun _ => ⟨hq, before, p, rfl, hshort, hlong⟩⟩
          · refine ⟨?_, nofun⟩
            have hmore : before ++ p.polls ++ [q] = before ++ (p.hold hq).polls := by
              simp [Press.polls, Press.hold]
            rw [hmore]
            refine .pressed (p := p.hold hq) fun x hx => ?_
            rcases List.mem_append.mp hx with hx | hx
            · exact hshort x hx
            · rw [List.mem_singleton.mp hx]
              exact Nat.lt_of_not_le hlong

/-- **Run lemma**: the locals are those that the history says. -/
theorem buttonPhase_after (history : List ButtonPoll) (h : Polled history) :
    ButtonPhase history (SetupButton.start.after history) := by
  induction history using List.reverseRecOn with
  | nil => exact .start
  | append_singleton history q ih =>
      have hbefore : Polled history := List.IsChain.left_of_append h
      rw [SetupButton.after_append]
      exact ((ih hbefore).poll (sound_start.after history) h).1

/-- **The setup mode is requested exactly by a press of three seconds.** For every run of the task from
the start on, whatever comes of earlier requests: a poll makes a request if and only if it is the first
at which the button has been pressed for 3000 ms without a release between, counted from the first poll
of the press with a tick count that is not 0, behind a poll that saw the button released. -/
theorem setupButton_requests_iff (history : List ButtonPoll) (q : ButtonPoll)
    (h : Polled (history ++ [q])) :
    ((SetupButton.start.after history).poll q).2 = true ↔ LongPressAt history q := by
  have hbefore : Polled history := List.IsChain.left_of_append h
  refine ⟨((buttonPhase_after history hbefore).poll (sound_start.after history) h).2, ?_⟩
  rintro ⟨hq, before, p, rfl, hshort, hlong⟩
  have hpress : Polled p.polls := List.IsChain.right_of_append hbefore
  have helapsed := h.press.elapsed ⟨le_rfl, by omega⟩ hshort
  rw [SetupButton.after_append, (sound_start.after before).after_press hshort hpress, ButtonPoll.tick,
    poll_pressed p.first_tick hq helapsed, if_pos hlong]

/-- A press that is seen at 100 ms, and a poll at 3100 ms. -/
theorem setupButton_requests_iff_held :
    ((SetupButton.start.after [⟨false, 50⟩, ⟨true, 100⟩, ⟨true, 2000⟩]).poll ⟨true, 3100⟩).2 = true ↔
      LongPressAt [⟨false, 50⟩, ⟨true, 100⟩, ⟨true, 2000⟩] ⟨true, 3100⟩ :=
  setupButton_requests_iff [⟨false, 50⟩, ⟨true, 100⟩, ⟨true, 2000⟩] ⟨true, 3100⟩ (by unfold Polled; decide)

end ConduitStream
