import ConduitStream.Foundations.SerialNumber
import ConduitStream.Reorder.Buffer

/-! # The ideal reorder buffer

What the reorder buffer is for, over unbounded sequence numbers: a play cursor `N`, a window of
`window` numbers from `N` on, and a partial map of the payloads held. There is no ring, no stored
write head and no modulus; the conceal rule reads "something at distance `hold` or more beyond the
cursor is held" directly off the map. `Reorder.Refinement` shows that the 16-bit buffer computes
exactly this. -/

namespace ConduitStream

open Classical

/-- The state of the ideal buffer. -/
structure IdealReorder where
  /-- How many numbers from the cursor on are accepted. -/
  window : ℕ
  /-- How far beyond the cursor packets may be held while it waits. -/
  hold : ℕ
  /-- The true sequence number to be played next. -/
  cursor : ℤ
  /-- False until the cursor has been set. -/
  started : Bool
  /-- The payloads held. -/
  held : ℤ → Option Bytes

namespace IdealReorder

/-- The hold threshold in force: the requested one if it lies in `[1, window)`, else
`window - 1`. -/
def effectiveHold (window hold : ℕ) : ℕ := if hold ≠ 0 ∧ hold < window then hold else window - 1

/-- The effective hold is below the window. -/
theorem effectiveHold_lt {window : ℕ} (h : 0 < window) (hold : ℕ) :
    effectiveHold window hold < window := by
  unfold effectiveHold
  split_ifs <;> omega

/-- The empty, unanchored buffer. -/
def init (window hold : ℕ) : IdealReorder where
  window := window
  hold := effectiveHold window hold
  cursor := 0
  started := false
  held := fun _ => none

/-- Put the cursor at the true number `E`. -/
def anchor (b : IdealReorder) (E : ℤ) : IdealReorder := { b with cursor := E, started := true }

/-- Nothing is held. -/
def IsEmpty (b : IdealReorder) : Prop := ∀ E, b.held E = none

/-- Something is held so far beyond the cursor that the hold is exceeded. -/
def Overdue (b : IdealReorder) : Prop := ∃ E, b.held E ≠ none ∧ b.cursor + b.hold < E + 1

/-- Offer the payload of the true number `E`; the first offer anchors the cursor. -/
noncomputable def insert (b : IdealReorder) (E : ℤ) (data : Bytes) : IdealReorder × RtpIns :=
  if data.length = 0 ∨ rtpReorderMaxPkt < data.length then (b, .badlen)
  else
    let b := if b.started then b else b.anchor E
    if E < b.cursor then (b, .tooOld)
    else if b.cursor + b.window ≤ E then (b, .tooNew)
    else if b.held E ≠ none then (b, .dup)
    else ({ b with held := Function.update b.held E (some data) }, .stored)

/-- Take the next payload in sequence order. -/
noncomputable def pop (b : IdealReorder) : IdealReorder × RtpPop :=
  if b.IsEmpty then (b, .empty)
  else
    match b.held b.cursor with
    | some p =>
        ({ b with held := Function.update b.held b.cursor none, cursor := b.cursor + 1 },
          .ok p (serial 16 b.cursor))
    | none => if b.Overdue then ({ b with cursor := b.cursor + 1 }, .conceal) else (b, .wait)

/-! ## The operations, outcome by outcome -/

/-- A payload of no length the code takes is refused. -/
theorem insert_badlen (b : IdealReorder) (E : ℤ) {data : Bytes}
    (h : data.length = 0 ∨ rtpReorderMaxPkt < data.length) : b.insert E data = (b, .badlen) :=
  if_pos h

/-- The first insert anchors the cursor to its own number. -/
theorem insert_of_not_started {b : IdealReorder} (hs : b.started = false) (E : ℤ) {data : Bytes}
    (h : ¬(data.length = 0 ∨ rtpReorderMaxPkt < data.length)) :
    b.insert E data = (b.anchor E).insert E data := by
  unfold insert
  rw [if_neg h, if_neg h, hs]
  rfl

section Started

variable {b : IdealReorder} {E : ℤ} {data : Bytes}

/-- A packet behind the cursor is too old. -/
theorem insert_tooOld (hs : b.started = true)
    (h : ¬(data.length = 0 ∨ rtpReorderMaxPkt < data.length)) (hE : E < b.cursor) :
    b.insert E data = (b, .tooOld) := by
  simp only [insert, if_neg h, hs, if_true, if_pos hE]

/-- A packet a window ahead is too new. -/
theorem insert_tooNew (hs : b.started = true)
    (h : ¬(data.length = 0 ∨ rtpReorderMaxPkt < data.length)) (hE : b.cursor + b.window ≤ E) :
    b.insert E data = (b, .tooNew) := by
  have hE' : ¬E < b.cursor := by omega
  simp only [insert, if_neg h, hs, if_true, if_neg hE', if_pos hE]

/-- A packet that is held is a duplicate. -/
theorem insert_dup (hs : b.started = true)
    (h : ¬(data.length = 0 ∨ rtpReorderMaxPkt < data.length)) (h0 : b.cursor ≤ E)
    (h1 : E < b.cursor + b.window) (hE : b.held E ≠ none) : b.insert E data = (b, .dup) := by
  simp only [insert, if_neg h, hs, if_true, if_neg (not_lt.mpr h0), if_neg (not_le.mpr h1),
    if_pos hE]

/-- Any other packet of the window is stored. -/
theorem insert_stored (hs : b.started = true)
    (h : ¬(data.length = 0 ∨ rtpReorderMaxPkt < data.length)) (h0 : b.cursor ≤ E)
    (h1 : E < b.cursor + b.window) (hE : b.held E = none) :
    b.insert E data = ({ b with held := Function.update b.held E (some data) }, .stored) := by
  simp only [insert, if_neg h, hs, if_true, if_neg (not_lt.mpr h0), if_neg (not_le.mpr h1),
    hE, ne_eq, not_true_eq_false, if_false]

end Started

section Pop

variable {b : IdealReorder}

/-- A pop of the empty buffer answers so and changes nothing. -/
theorem pop_empty (h : b.IsEmpty) : b.pop = (b, .empty) := if_pos h

/-- A held number witnesses that the buffer is not empty. -/
theorem not_isEmpty_of_held {E : ℤ} {p : Bytes} (h : b.held E = some p) : ¬b.IsEmpty :=
  fun he => by simp [he E] at h

/-- The packet at the cursor is popped if it is held. -/
theorem pop_ok {p : Bytes} (h : b.held b.cursor = some p) :
    b.pop = ({ b with held := Function.update b.held b.cursor none, cursor := b.cursor + 1 },
      .ok p (serial 16 b.cursor)) := by
  simp only [pop, if_neg (not_isEmpty_of_held h), h]

/-- If it is missing and overdue, it is concealed. -/
theorem pop_conceal (he : ¬b.IsEmpty) (h : b.held b.cursor = none) (ho : b.Overdue) :
    b.pop = ({ b with cursor := b.cursor + 1 }, .conceal) := by
  simp only [pop, if_neg he, h, if_pos ho]

/-- If it is missing and not overdue, it is waited for. -/
theorem pop_wait (he : ¬b.IsEmpty) (h : b.held b.cursor = none) (ho : ¬b.Overdue) :
    b.pop = (b, .wait) := by
  simp only [pop, if_neg he, h, if_neg ho]

end Pop

/-- An insertion leaves the window as it is. -/
@[simp] theorem insert_window (b : IdealReorder) (E : ℤ) (data : Bytes) :
    (b.insert E data).1.window = b.window := by
  unfold insert
  dsimp only
  split_ifs <;> rfl

/-- An insertion leaves the hold as it is. -/
@[simp] theorem insert_hold (b : IdealReorder) (E : ℤ) (data : Bytes) :
    (b.insert E data).1.hold = b.hold := by
  unfold insert
  dsimp only
  split_ifs <;> rfl

end IdealReorder

end ConduitStream
