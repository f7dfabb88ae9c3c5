import Mathlib.Algebra.Order.Ring.Nat
import Mathlib.Data.List.Basic
import Mathlib.Tactic.Common

/-! # Staying connected (`wifi.c`)

The station tries to connect when it has started, and again some time after every end of an attempt or of
a connection. The event task handles one event after the other; the reconnect timer, the driver and the
network stack go on meanwhile. Whether `esp_wifi_connect`, `esp_timer_start_once` and `xTaskCreate` succeed is
left open at each call: their results are parameters of the steps. Of the driver and the timer this is used, as
documented: `STA_START` comes once; an attempt that was accepted, or the connection it led to, ends with one
`STA_DISCONNECTED`, and no event posted is lost; a timer that was started expires once; a call that failed has
no effect.

Whatever the interleaving and the results, there is always exactly one of an attempt or connection, an event
that will lead to one, a delay before one, and a call that has failed (`OneAttempt.tokens`).
`wifiStation_reconnects` says what follows: the calls are made at the right time; as long as none has failed,
the station is never left alone; once one has failed, it is, because `wifi.c` ignores both results; and the
delays double up to 8 s. -/

namespace ConduitStream

/-! ## The handlers -/

/-- The statics of `wifi.c`; of `s_on_got_ip` only whether it is set. -/
structure WifiStatics where
  sOnGotIp : Bool
  sBackoffMs : ℕ
  sReadyCallbackStarted : Bool

/-- `BACKOFF_MAX_MS`. -/
def backoffMaxMs : ℕ := 8000

/-- The events the handlers are registered for: `WIFI_EVENT_STA_START`, `WIFI_EVENT_STA_DISCONNECTED`,
`IP_EVENT_STA_GOT_IP`, and the other ones of `WIFI_EVENT`. -/
inductive WifiEvent
  | staStart
  | staDisconnected
  | gotIp
  | other
  deriving DecidableEq, Repr

/-- The calls made, with their results: `esp_wifi_connect`, and whether there was an attempt or connection by
then; `esp_timer_start_once`, and whether the timer was armed by then; and the `xTaskCreate` of
`ready_callback_task`. -/
inductive WifiCall
  | connect (busy accepted : Bool)
  | startOnce (delayUs : ℕ) (armed accepted : Bool)
  | createReady (created : Bool)
  deriving DecidableEq, Repr

/-- The station: the statics, whether the driver is in an attempt or connection, the events that are
posted, the time the reconnect timer is armed with, and whether its callback is due. `handled` and `calls`
are history. -/
structure WifiStation where
  statics : WifiStatics
  busy : Bool
  queue : List WifiEvent
  timer : Option ℕ
  firing : Bool
  handled : List WifiEvent
  calls : List WifiCall

namespace WifiStation

variable (s : WifiStation)

/-- `esp_wifi_connect`: an attempt begins, if the driver accepts the call. -/
def connect (accepted : Bool) : WifiStation :=
  { s with busy := s.busy || accepted, calls := s.calls ++ [.connect s.busy accepted] }

/-- `esp_timer_start_once` on the reconnect timer, which is armed if the call is accepted. -/
def startOnce (delayUs : ℕ) (accepted : Bool) : WifiStation :=
  { s with
    timer := if accepted then some delayUs else s.timer
    calls := s.calls ++ [.startOnce delayUs s.timer.isSome accepted] }

/-- `schedule_reconnect`. -/
def scheduleReconnect (accepted : Bool) : WifiStation :=
  let delay := s.statics.sBackoffMs
  let backoff := if s.statics.sBackoffMs < backoffMaxMs then s.statics.sBackoffMs * 2 else backoffMaxMs
  { s with statics := { s.statics with sBackoffMs := backoff } }.startOnce (delay * 1000) accepted

/-- `on_wifi_event`; `accepted` is the result of the call it makes. -/
def onWifiEvent (accepted : Bool) (e : WifiEvent) : WifiStation :=
  if e = .staStart then s.connect accepted
  else if e = .staDisconnected then s.scheduleReconnect accepted
  else s

/-- `on_ip_event` on `IP_EVENT_STA_GOT_IP`; `created` says whether `xTaskCreate` works. -/
def onIpEvent (created : Bool) : WifiStation :=
  let s := { s with statics := { s.statics with sBackoffMs := 500 } }
  if s.statics.sOnGotIp && !s.statics.sReadyCallbackStarted then
    { s with
      statics := { s.statics with sReadyCallbackStarted := created }
      calls := s.calls ++ [.createReady created] }
  else s

/-- The event task handles an event; `result` is that of the call the handler makes. -/
def handle (result : Bool) (e : WifiEvent) : WifiStation :=
  let s := { s with handled := s.handled ++ [e] }
  if e = .gotIp then s.onIpEvent result else s.onWifiEvent result e

/-- Behind `wifi_start`. -/
def start (sOnGotIp : Bool) : WifiStation where
  statics := { sOnGotIp, sBackoffMs := 500, sReadyCallbackStarted := false }
  busy := false
  queue := [.staStart]
  timer := none
  firing := false
  handled := []
  calls := []

end WifiStation

/-- One step of the event task, of the timer, of the driver or of the network stack. -/
inductive WifiStep : WifiStation → WifiStation → Prop
  /-- The event task takes the next event. -/
  | handle {s : WifiStation} {e : WifiEvent} {queue : List WifiEvent} (result : Bool) :
      s.queue = e :: queue → WifiStep s ({ s with queue }.handle result e)
  /-- The time of the timer is up. -/
  | expire {s : WifiStation} : s.timer.isSome = true → s.firing = false →
      WifiStep s { s with timer := none, firing := true }
  /-- `reconnect_cb`. -/
  | reconnectCb {s : WifiStation} (accepted : Bool) : s.firing = true →
      WifiStep s ({ s with firing := false }.connect accepted)
  /-- An attempt fails, or the connection is lost. -/
  | disconnect {s : WifiStation} : s.busy = true →
      WifiStep s { s with busy := false, queue := s.queue ++ [.staDisconnected] }
  /-- An address is obtained, or renewed. -/
  | gotIp {s : WifiStation} : WifiStep s { s with queue := s.queue ++ [.gotIp] }
  /-- Something else happens. -/
  | other {s : WifiStation} : WifiStep s { s with queue := s.queue ++ [.other] }

/-- The states behind `wifi_start`, in every order of steps. -/
inductive WifiReachable (sOnGotIp : Bool) : WifiStation → Prop
  | start : WifiReachable sOnGotIp (.start sOnGotIp)
  | step {s s' : WifiStation} : WifiReachable sOnGotIp s → WifiStep s s' → WifiReachable sOnGotIp s'

/-! ## What leads to the next attempt -/

/-- The events behind which the station connects, at once or after a delay. -/
def WifiEvent.reconnects : WifiEvent → Bool
  | .staStart | .staDisconnected => true
  | .gotIp | .other => false

/-- The call is made at a time at which it may succeed: to connect without an attempt or connection, to start
the timer while it is not armed. -/
def WifiCall.timely : WifiCall → Bool
  | .connect busy _ => !busy
  | .startOnce _ armed _ => !armed
  | .createReady _ => true

/-- A call of the driver or the timer that has failed. -/
def WifiCall.failed : WifiCall → Bool
  | .connect _ accepted => !accepted
  | .startOnce _ _ accepted => !accepted
  | .createReady _ => false

/-- How many attempts or connections there are, events that will lead to one, and delays before one. -/
def WifiStation.tokens (s : WifiStation) : ℕ :=
  s.busy.toNat + s.queue.countP WifiEvent.reconnects + s.timer.isSome.toNat + s.firing.toNat

/-- **The invariant** of the connection: there is exactly one of them, or of the calls that have failed. -/
structure OneAttempt (s : WifiStation) : Prop where
  tokens : s.tokens + s.calls.countP WifiCall.failed = 1
  timely : ∀ c ∈ s.calls, c.timely = true

namespace OneAttempt

variable {s : WifiStation}

/-- No delay is counted where the timer is not armed. -/
theorem timer_eq_none (h : s.timer.isSome.toNat = 0) : s.timer = none := by
  have harmed : ¬s.timer.isSome = true := ne_true_of_eq_false (Bool.toNat_eq_zero.mp h)
  exact Option.not_isSome_iff_eq_none.mp harmed

/-- Without an attempt or connection, one is to come, unless a call has failed. -/
theorem of_idle (h : OneAttempt s) (hcalls : ∀ c ∈ s.calls, c.failed = false) (hidle : s.busy = false) :
    s.timer.isSome = true ∨ s.firing = true ∨ ∃ e ∈ s.queue, e.reconnects = true := by
  have htokens := h.tokens
  have hnone : s.calls.countP WifiCall.failed = 0 :=
    List.countP_eq_zero.mpr fun c hc => ne_true_of_eq_false (hcalls c hc)
  unfold WifiStation.tokens at htokens
  rw [hidle, Bool.toNat_false, hnone] at htokens
  by_cases hqueue : 0 < s.queue.countP WifiEvent.reconnects
  · exact .inr (.inr (List.countP_pos_iff.mp hqueue))
  cases ht : s.timer.isSome with
  | true => exact .inl rfl
  | false =>
      rw [ht, Bool.toNat_false] at htokens
      exact .inr (.inl (Bool.toNat_eq_one.mp (by omega)))

/-- Where nothing else is counted, no attempt is to come. -/
theorem nothing_to_come (h : s.queue.countP WifiEvent.reconnects + s.timer.isSome.toNat + s.firing.toNat = 0) :
    s.timer = none ∧ s.firing = false ∧ ∀ e ∈ s.queue, e.reconnects = false := by
  have hqueue : s.queue.countP WifiEvent.reconnects = 0 := by omega
  refine ⟨timer_eq_none (by omega), Bool.toNat_eq_zero.mp (by omega), fun e he => ?_⟩
  exact eq_false_of_ne_true (List.countP_eq_zero.mp hqueue e he)

/-- During an attempt or connection, no other is to come. -/
theorem of_busy (h : OneAttempt s) (hbusy : s.busy = true) :
    s.timer = none ∧ s.firing = false ∧ ∀ e ∈ s.queue, e.reconnects = false := by
  have htokens := h.tokens
  unfold WifiStation.tokens at htokens
  rw [hbusy, Bool.toNat_true] at htokens
  exact nothing_to_come (by omega)

/-- Once a call has failed, there is no attempt and no connection, and none is to come. -/
theorem of_failed (h : OneAttempt s) (hfailed : ∃ c ∈ s.calls, c.failed = true) :
    s.busy = false ∧ s.timer = none ∧ s.firing = false ∧ ∀ e ∈ s.queue, e.reconnects = false := by
  have htokens := h.tokens
  have hone : 0 < s.calls.countP WifiCall.failed := List.countP_pos_iff.mpr hfailed
  unfold WifiStation.tokens at htokens
  exact ⟨Bool.toNat_eq_zero.mp (by omega), nothing_to_come (by omega)⟩

/-- The account of a call that is made where nothing else is counted. -/
theorem of_call {s' : WifiStation} {c : WifiCall} (htimely : ∀ c ∈ s.calls, c.timely = true)
    (h : s.calls.countP WifiCall.failed = 0) (hcalls : s'.calls = s.calls ++ [c]) (hc : c.timely = true)
    (htokens : s'.tokens + c.failed.toNat = 1) : OneAttempt s' := by
  refine ⟨?_, fun c' hc' => ?_⟩
  · have hcount : (s.calls ++ [c]).countP WifiCall.failed = c.failed.toNat := by
      rw [List.countP_append, h, List.countP_singleton, Nat.zero_add]
      cases c.failed <;> rfl
    rw [hcalls, hcount]
    exact htokens
  · rw [hcalls] at hc'
    rcases List.mem_append.mp hc' with hc' | hc'
    · exact htimely c' hc'
    · rw [List.mem_singleton.mp hc']
      exact hc

/-- An attempt is made where there is nothing else; it is there, or the call has failed. -/
theorem connect (htimely : ∀ c ∈ s.calls, c.timely = true)
    (h : s.tokens + s.calls.countP WifiCall.failed = 0) (accepted : Bool) : OneAttempt (s.connect accepted) := by
  unfold WifiStation.tokens at h
  have hidle : s.busy = false := Bool.toNat_eq_zero.mp (by omega)
  have hcall : (WifiCall.connect s.busy accepted).timely = true := by
    rw [hidle]
    rfl
  refine of_call htimely (by omega) rfl hcall ?_
  simp only [WifiStation.tokens, WifiStation.connect, WifiCall.failed, hidle, Bool.false_or]
  rw [hidle, Bool.toNat_false] at h
  cases accepted <;> simp only [Bool.toNat_false, Bool.toNat_true, Bool.not_false, Bool.not_true] <;> omega

/-- Arming the timer, too, leaves exactly one of them or a failed call. -/
theorem scheduleReconnect (htimely : ∀ c ∈ s.calls, c.timely = true)
    (h : s.tokens + s.calls.countP WifiCall.failed = 0) (accepted : Bool) :
    OneAttempt (s.scheduleReconnect accepted) := by
  unfold WifiStation.tokens at h
  have hnone : s.timer = none := timer_eq_none (by omega)
  have hcall : (WifiCall.startOnce (s.statics.sBackoffMs * 1000) s.timer.isSome accepted).timely = true := by
    rw [hnone]
    rfl
  refine of_call htimely (by omega) rfl hcall ?_
  simp only [WifiStation.tokens, WifiStation.scheduleReconnect, WifiStation.startOnce, WifiCall.failed, hnone]
  rw [hnone, Option.isSome_none, Bool.toNat_false] at h
  cases accepted <;>
    simp only [Bool.toNat_false, Bool.toNat_true, Bool.not_false, Bool.not_true, Option.isSome_some,
      Option.isSome_none, if_true, if_false, Bool.false_eq_true] <;> omega

/-- An address does not concern it. -/
theorem onIpEvent (h : OneAttempt s) (created : Bool) : OneAttempt (s.onIpEvent created) := by
  unfold WifiStation.onIpEvent
  dsimp only
  split
  · have hcount : (s.calls ++ [WifiCall.createReady created]).countP WifiCall.failed
        = s.calls.countP WifiCall.failed := List.countP_append
    refine ⟨?_, fun c hc => ?_⟩
    · show s.tokens + _ = 1
      rw [hcount]
      exact h.tokens
    · rcases List.mem_append.mp hc with hc | hc
      · exact h.timely c hc
      · rw [List.mem_singleton.mp hc]
        rfl
  · exact ⟨h.tokens, h.timely⟩

/-- **Step lemma**: no step of anyone changes their number, and every call is made at its time. -/
theorem step {s' : WifiStation} (h : OneAttempt s) (hstep : WifiStep s s') : OneAttempt s' := by
  have htokens := h.tokens
  unfold WifiStation.tokens at htokens
  cases hstep with
  | @handle e queue result hqueue =>
      rw [hqueue, List.countP_cons] at htokens
      -- an event that leads to an attempt is the only thing counted, and is taken
      have hlast : e.reconnects = true → s.busy.toNat + queue.countP WifiEvent.reconnects
          + s.timer.isSome.toNat + s.firing.toNat + s.calls.countP WifiCall.failed = 0 := by
        intro hone
        rw [if_pos hone] at htokens
        omega
      cases e with
      | staStart =>
          exact connect (s := { s with queue, handled := s.handled ++ [.staStart] }) h.timely (hlast rfl) result
      | staDisconnected =>
          exact scheduleReconnect (s := { s with queue, handled := s.handled ++ [.staDisconnected] }) h.timely
            (hlast rfl) result
      | gotIp =>
          have hsame : WifiStation.tokens { s with queue, handled := s.handled ++ [.gotIp] }
            + s.calls.countP WifiCall.failed = 1 := htokens
          exact onIpEvent ⟨hsame, h.timely⟩ result
      | other => exact ⟨htokens, h.timely⟩
  | expire harmed hfiring =>
      refine ⟨?_, h.timely⟩
      rw [harmed, hfiring] at htokens
      simpa [WifiStation.tokens] using htokens
  | reconnectCb accepted hfiring =>
      refine connect (s := { s with firing := false }) h.timely ?_ accepted
      rw [hfiring, Bool.toNat_true] at htokens
      show s.busy.toNat + s.queue.countP WifiEvent.reconnects + s.timer.isSome.toNat + 0
        + s.calls.countP WifiCall.failed = 0
      omega
  | disconnect hbusy =>
      refine ⟨?_, h.timely⟩
      rw [hbusy] at htokens
      simp only [WifiStation.tokens, List.countP_append, List.countP_singleton, WifiEvent.reconnects,
        if_true, Bool.toNat_false, Bool.toNat_true] at htokens ⊢
      omega
  | gotIp =>
      refine ⟨?_, h.timely⟩
      simpa [WifiStation.tokens, WifiEvent.reconnects] using htokens
  | other =>
      refine ⟨?_, h.timely⟩
      simpa [WifiStation.tokens, WifiEvent.reconnects] using htokens

end OneAttempt

/-! ## How long the delays are -/

/-- How many disconnects have been handled since the last address, where there were `k` before. -/
def disconnectsSince : ℕ → List WifiEvent → ℕ
  | k, [] => k
  | k, .staDisconnected :: es => disconnectsSince (k + 1) es
  | _, .gotIp :: es => disconnectsSince 0 es
  | k, _ :: es => disconnectsSince k es

/-- The delay, in milliseconds, behind a disconnect that `k` have preceded since the last address. -/
def backoffMs (k : ℕ) : ℕ := min 8000 (500 * 2 ^ k)

/-- The delays of the disconnects handled, in microseconds. -/
def reconnectDelays : ℕ → List WifiEvent → List ℕ
  | _, [] => []
  | k, .staDisconnected :: es => backoffMs k * 1000 :: reconnectDelays (k + 1) es
  | _, .gotIp :: es => reconnectDelays 0 es
  | k, _ :: es => reconnectDelays k es

/-- The count goes on from where it was. -/
theorem disconnectsSince_append (k : ℕ) (es es' : List WifiEvent) :
    disconnectsSince k (es ++ es') = disconnectsSince (disconnectsSince k es) es' := by
  induction es generalizing k with
  | nil => rfl
  | cons e es ih => cases e <;> exact ih _

/-- The delays of two histories: the second one goes on with the count of the first. -/
theorem reconnectDelays_append (k : ℕ) (es es' : List WifiEvent) :
    reconnectDelays k (es ++ es') = reconnectDelays k es ++ reconnectDelays (disconnectsSince k es) es' := by
  induction es generalizing k with
  | nil => rfl
  | cons e es ih =>
      cases e with
      | staDisconnected => exact congrArg (_ :: ·) (ih _)
      | staStart => exact ih _
      | gotIp => exact ih _
      | other => exact ih _

/-- The delay doubles up to its maximum. -/
theorem backoffMs_succ (k : ℕ) :
    (if backoffMs k < backoffMaxMs then backoffMs k * 2 else backoffMaxMs) = backoffMs (k + 1) := by
  rcases Nat.lt_or_ge k 4 with hk | hk
  · have hall : ∀ k < 4, (if backoffMs k < backoffMaxMs then backoffMs k * 2 else backoffMaxMs)
        = backoffMs (k + 1) := by decide
    exact hall k hk
  · have hpow : 2 ^ 4 ≤ 2 ^ k := Nat.pow_le_pow_right (by decide) hk
    unfold backoffMs backoffMaxMs
    rw [Nat.pow_succ]
    split_ifs <;> omega

/-- The delay asked for. -/
def WifiCall.delay : WifiCall → Option ℕ
  | .startOnce delayUs _ _ => some delayUs
  | .connect _ _ | .createReady _ => none

/-- What the delays are, and the next one. -/
structure Delays (s : WifiStation) : Prop where
  backoff : s.statics.sBackoffMs = backoffMs (disconnectsSince 0 s.handled)
  delays : s.calls.filterMap WifiCall.delay = reconnectDelays 0 s.handled
  timer : ∀ d ∈ s.timer, d ≤ 8000 * 1000

namespace Delays

variable {s : WifiStation}

/-- An attempt asks for no delay. -/
theorem connect (h : Delays s) (accepted : Bool) : Delays (s.connect accepted) := by
  refine ⟨h.backoff, ?_, h.timer⟩
  refine (List.filterMap_append ..).trans ?_
  rw [h.delays]
  exact List.append_nil _

/-- Events other than an end or an address change neither count nor delays. -/
theorem handled_append (h : Delays s) {e : WifiEvent} (he : e = .staStart ∨ e = .other) :
    Delays { s with handled := s.handled ++ [e] } := by
  have hsince : disconnectsSince 0 (s.handled ++ [e]) = disconnectsSince 0 s.handled := by
    rw [disconnectsSince_append]
    rcases he with rfl | rfl <;> rfl
  have hnext : reconnectDelays 0 (s.handled ++ [e]) = reconnectDelays 0 s.handled := by
    rw [reconnectDelays_append]
    rcases he with rfl | rfl <;> exact List.append_nil _
  exact ⟨h.backoff.trans (congrArg backoffMs hsince.symm), h.delays.trans hnext.symm, h.timer⟩

/-- A disconnect asks for the next delay. -/
theorem scheduleReconnect (h : Delays s) (accepted : Bool) :
    Delays (WifiStation.scheduleReconnect { s with handled := s.handled ++ [.staDisconnected] } accepted) := by
  obtain ⟨hbackoff, hdelays, htimer⟩ := h
  refine ⟨?_, ?_, ?_⟩
  · show (if s.statics.sBackoffMs < backoffMaxMs then s.statics.sBackoffMs * 2 else backoffMaxMs)
      = backoffMs (disconnectsSince 0 (s.handled ++ [.staDisconnected]))
    rw [hbackoff, backoffMs_succ, disconnectsSince_append]
    rfl
  · refine (List.filterMap_append ..).trans ?_
    rw [hdelays]
    refine Eq.trans ?_ (reconnectDelays_append ..).symm
    show _ ++ [s.statics.sBackoffMs * 1000] = _
    rw [hbackoff]
    rfl
  · intro d hd
    cases accepted with
    | true =>
        have hd : d = s.statics.sBackoffMs * 1000 := (Option.some.inj hd).symm
        have hmax : backoffMs (disconnectsSince 0 s.handled) ≤ 8000 := Nat.min_le_left _ _
        rw [hd, hbackoff]
        omega
    | false => exact htimer d hd

/-- Behind an address the delays start again. -/
theorem onIpEvent (h : Delays s) (created : Bool) :
    Delays (WifiStation.onIpEvent { s with handled := s.handled ++ [.gotIp] } created) := by
  have hzero : backoffMs (disconnectsSince 0 (s.handled ++ [.gotIp])) = 500 := by
    rw [disconnectsSince_append]
    rfl
  have hsame : reconnectDelays 0 (s.handled ++ [.gotIp]) = reconnectDelays 0 s.handled := by
    rw [reconnectDelays_append]
    exact List.append_nil _
  unfold WifiStation.onIpEvent
  dsimp only
  split
  · refine ⟨hzero.symm, ?_, h.timer⟩
    refine (List.filterMap_append ..).trans ?_
    rw [h.delays, hsame]
    exact List.append_nil _
  · exact ⟨hzero.symm, h.delays.trans hsame.symm, h.timer⟩

/-- Handling an event keeps the delays, whichever handler it goes to. -/
theorem handle (h : Delays s) (result : Bool) (e : WifiEvent) : Delays (s.handle result e) := by
  cases e with
  | staStart => exact (h.handled_append (.inl rfl)).connect result
  | staDisconnected => exact h.scheduleReconnect result
  | gotIp => exact h.onIpEvent result
  | other => exact h.handled_append (.inr rfl)

/-- **Step lemma**: every step keeps the delays those of the history. -/
theorem step {s' : WifiStation} (h : Delays s) (hstep : WifiStep s s') : Delays s' := by
  obtain ⟨hbackoff, hdelays, htimer⟩ := h
  cases hstep with
  | @handle e queue result hqueue =>
      have htaken : Delays { s with queue } := ⟨hbackoff, hdelays, htimer⟩
      exact htaken.handle result e
  | expire => exact ⟨hbackoff, hdelays, nofun⟩
  | reconnectCb accepted =>
      have hfired : Delays { s with firing := false } := ⟨hbackoff, hdelays, htimer⟩
      exact hfired.connect accepted
  | disconnect => exact ⟨hbackoff, hdelays, htimer⟩
  | gotIp => exact ⟨hbackoff, hdelays, htimer⟩
  | other => exact ⟨hbackoff, hdelays, htimer⟩

end Delays

/-! ## How often the callback is started -/

/-- The result of creating the task of the callback. -/
def WifiCall.created : WifiCall → Option Bool
  | .createReady created => some created
  | .connect _ _ | .startOnce _ _ _ => none

/-- The task is tried with every address until it is created, and not behind that. -/
def ReadyTries : (sOnGotIp started : Bool) → (addresses : ℕ) → (tries : List Bool) → Prop
  | false, started, _, tries => started = false ∧ tries = []
  | true, false, addresses, tries => tries = List.replicate addresses false
  | true, true, addresses, tries => ∃ failures < addresses, tries = List.replicate failures false ++ [true]

/-- **The invariant** of the callback. -/
structure ReadyOnce (sOnGotIp : Bool) (s : WifiStation) : Prop where
  set : s.statics.sOnGotIp = sOnGotIp
  tries : ReadyTries sOnGotIp s.statics.sReadyCallbackStarted (s.handled.count .gotIp)
    (s.calls.filterMap WifiCall.created)

/-- One more address is tried with, unless the task has been created. -/
theorem ReadyTries.gotIp {sOnGotIp started : Bool} {addresses : ℕ} {tries : List Bool}
    (h : ReadyTries sOnGotIp started addresses tries) (created : Bool) :
    if sOnGotIp && !started then ReadyTries sOnGotIp created (addresses + 1) (tries ++ [created])
    else ReadyTries sOnGotIp started (addresses + 1) tries := by
  cases sOnGotIp with
  | false => exact h
  | true =>
      cases started with
      | true =>
          obtain ⟨failures, hlt, htries⟩ := h
          exact ⟨failures, by omega, htries⟩
      | false =>
          have htries : tries = List.replicate addresses false := h
          show ReadyTries true created (addresses + 1) (tries ++ [created])
          rw [htries]
          cases created with
          | false => exact List.replicate_succ'.symm
          | true => exact ⟨addresses, Nat.lt_succ_self _, rfl⟩

namespace ReadyOnce

variable {sOnGotIp : Bool} {s : WifiStation}

/-- An attempt does not concern it. -/
theorem connect (h : ReadyOnce sOnGotIp s) (accepted : Bool) : ReadyOnce sOnGotIp (s.connect accepted) := by
  have hcalls : (s.connect accepted).calls.filterMap WifiCall.created = s.calls.filterMap WifiCall.created :=
    (List.filterMap_append ..).trans (List.append_nil _)
  refine ⟨h.set, ?_⟩
  rw [hcalls]
  exact h.tries

/-- Arming the timer does not create the task, either. -/
theorem scheduleReconnect (h : ReadyOnce sOnGotIp s) (accepted : Bool) :
    ReadyOnce sOnGotIp (s.scheduleReconnect accepted) := by
  have hcalls : (s.scheduleReconnect accepted).calls.filterMap WifiCall.created
      = s.calls.filterMap WifiCall.created :=
    (List.filterMap_append ..).trans (List.append_nil _)
  refine ⟨h.set, ?_⟩
  rw [hcalls]
  exact h.tries

/-- Nor does an event that is no address. -/
theorem handled_append (h : ReadyOnce sOnGotIp s) {e : WifiEvent} (he : e ≠ .gotIp) :
    ReadyOnce sOnGotIp { s with handled := s.handled ++ [e] } := by
  have hcount : (s.handled ++ [e]).count .gotIp = s.handled.count .gotIp := by
    rw [List.count_append, List.count_singleton, if_neg (by simpa using he), Nat.add_zero]
  refine ⟨h.set, ?_⟩
  rw [hcount]
  exact h.tries

/-- With an address the task is tried, unless it has been created. -/
theorem onIpEvent (h : ReadyOnce sOnGotIp s) (created : Bool) :
    ReadyOnce sOnGotIp (WifiStation.onIpEvent { s with handled := s.handled ++ [.gotIp] } created) := by
  obtain ⟨rfl, htries⟩ := h
  have hcount : (s.handled ++ [WifiEvent.gotIp]).count .gotIp = s.handled.count .gotIp + 1 := by
    rw [List.count_append, List.count_singleton_self]
  have hnext := htries.gotIp created
  rw [← hcount] at hnext
  unfold WifiStation.onIpEvent
  dsimp only
  split at hnext
  · next hstart =>
      rw [if_pos hstart]
      refine ⟨rfl, ?_⟩
      rw [List.filterMap_append]
      exact hnext
  · next hstart =>
      rw [if_neg hstart]
      exact ⟨rfl, hnext⟩

/-- Handling an event tries to create the task behind an address only. -/
theorem handle (h : ReadyOnce sOnGotIp s) (result : Bool) (e : WifiEvent) :
    ReadyOnce sOnGotIp (s.handle result e) := by
  cases e with
  | staStart => exact (h.handled_append (by decide)).connect result
  | staDisconnected => exact (h.handled_append (by decide)).scheduleReconnect result
  | gotIp => exact h.onIpEvent result
  | other => exact h.handled_append (by decide)

/-- **Step lemma**: every step keeps the tries those of the history. -/
theorem step {s' : WifiStation} (h : ReadyOnce sOnGotIp s) (hstep : WifiStep s s') :
    ReadyOnce sOnGotIp s' := by
  cases hstep with
  | @handle e queue result hqueue =>
      have htaken : ReadyOnce sOnGotIp { s with queue } := ⟨h.set, h.tries⟩
      exact htaken.handle result e
  | expire => exact ⟨h.set, h.tries⟩
  | reconnectCb accepted =>
      have hfired : ReadyOnce sOnGotIp { s with firing := false } := ⟨h.set, h.tries⟩
      exact hfired.connect accepted
  | disconnect => exact ⟨h.set, h.tries⟩
  | gotIp => exact ⟨h.set, h.tries⟩
  | other => exact ⟨h.set, h.tries⟩

end ReadyOnce

/-! ## Every order of steps -/

/-- **Run lemma**: the invariants hold in every state reached. -/
theorem WifiReachable.inv {sOnGotIp : Bool} {s : WifiStation} (h : WifiReachable sOnGotIp s) :
    OneAttempt s ∧ Delays s ∧ ReadyOnce sOnGotIp s := by
  induction h with
  | start =>
      refine ⟨⟨rfl, nofun⟩, ⟨rfl, rfl, nofun⟩, ⟨rfl, ?_⟩⟩
      cases sOnGotIp with
      | false => exact ⟨rfl, rfl⟩
      | true => rfl
  | step _ hstep ih => exact ⟨ih.1.step hstep, ih.2.1.step hstep, ih.2.2.step hstep⟩

/-- **The station stays connected until a call fails.** In every state reached behind `wifi_start`, whatever
the order in which events are posted and handled, the timer expires and its callback runs, and whatever the
calls return:

* `esp_wifi_connect` has never been called during an attempt or a connection, nor `esp_timer_start_once` while
  the timer was armed;
* as long as none of these calls has failed: while there is no attempt and no connection, the timer is armed
  with at most 8 s, or its callback is due, or an event is posted that will lead to one of these; while there is
  one, none of this is so;
* once one has failed, there is no attempt and no connection, and nothing that will lead to one;
* the delays asked for are 500 ms behind the first disconnect since the last address, and twice as long
  behind each further one, up to 8 s;
* the task of the callback is tried with every address until it is created, and not behind that. -/
theorem wifiStation_reconnects (sOnGotIp : Bool) (s : WifiStation) (h : WifiReachable sOnGotIp s) :
    (∀ c ∈ s.calls, c.timely = true) ∧
      ((∀ c ∈ s.calls, c.failed = false) →
        (s.busy = false → (∃ d ≤ 8000 * 1000, s.timer = some d) ∨ s.firing = true ∨
          ∃ e ∈ s.queue, e.reconnects = true) ∧
        (s.busy = true → s.timer = none ∧ s.firing = false ∧ ∀ e ∈ s.queue, e.reconnects = false)) ∧
      ((∃ c ∈ s.calls, c.failed = true) →
        s.busy = false ∧ s.timer = none ∧ s.firing = false ∧ ∀ e ∈ s.queue, e.reconnects = false) ∧
      s.calls.filterMap WifiCall.delay = reconnectDelays 0 s.handled ∧
      ReadyTries sOnGotIp s.statics.sReadyCallbackStarted (s.handled.count .gotIp)
        (s.calls.filterMap WifiCall.created) := by
  obtain ⟨hone, hdelays, hready⟩ := h.inv
  refine ⟨hone.timely, fun hcalls => ⟨fun hidle => ?_, hone.of_busy⟩, hone.of_failed, hdelays.delays,
    hready.tries⟩
  rcases hone.of_idle hcalls hidle with harmed | hlater
  · obtain ⟨d, hd⟩ := Option.isSome_iff_exists.mp harmed
    exact .inl ⟨d, hdelays.timer d hd, hd⟩
  · exact .inr hlater

/-- The first attempt ends, and the next one is to come 500 ms behind that; the driver refuses it then, and the
station is left alone. -/
theorem wifiStation_reconnects_refused :
    (∃ s, WifiReachable true s ∧ s.busy = false ∧ s.timer = some 500000 ∧
      s.calls.filterMap WifiCall.delay = reconnectDelays 0 s.handled) ∧
    ∃ s, WifiReachable true s ∧ s.calls.getLast? = some (.connect false false) ∧ s.busy = false ∧
      s.timer = none ∧ s.firing = false ∧ ∀ e ∈ s.queue, e.reconnects = false := by
  have hstarted : WifiReachable true _ := WifiReachable.step .start (.handle true rfl)
  have hended := (hstarted.step (.disconnect rfl)).step (.handle true rfl)
  have hrefused := (hended.step (.expire rfl rfl)).step (.reconnectCb false rfl)
  refine ⟨⟨_, hended, rfl, rfl, (wifiStation_reconnects true _ hended).2.2.2.1⟩, _, hrefused, rfl, ?_⟩
  have hfailed : ∃ c ∈ [WifiCall.connect false true, .startOnce 500000 false true, .connect false false],
      c.failed = true := by decide
  exact (wifiStation_reconnects true _ hrefused).2.2.1 hfailed

end ConduitStream
