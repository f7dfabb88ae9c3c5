import ConduitStream.Network.SaveForm
import ConduitStream.System.SaveWifi
import ConduitStream.System.SetupButton

/-! # From boot to boot (`main.cpp`, `setup_button.c`, `system_config.c`)

A device with credentials starts as a station, unless it finds a request for the setup portal in NVS. The
setup button and the fallback timer leave such a request and restart the device, and the boot that finds
it takes it back. Here the device runs through any number of boots, restarts, requests and posts of the
setup form, each NVS call of which may fail.

* `setupRequests_accounted`: no request is lost, and none is served twice;
* `bootCredentials_lastSaved`: requests, restarts and failing boots never cost the credentials. -/

namespace ConduitStream

/-! ## The request -/

/-- What happens to the NVS calls of `system_config_request_setup_mode`. -/
structure SetupRequestOutcome where
  nvsOpen : NvsFault
  setU8 : NvsFault
  commit : NvsFault

/-- `system_config_request_setup_mode` on `setup_once`. -/
def systemConfigRequestSetupMode (o : SetupRequestOutcome) (setupOnce : Option UInt8) :
    EspErr × Option UInt8 :=
  if o.nvsOpen.err ≠ .espOk then (o.nvsOpen.err, setupOnce)
  else if o.setU8.err ≠ .espOk then (o.setU8.err, setupOnce)
  else (o.commit.err, some 1)

/-- What happens to the NVS calls of `system_config_take_setup_mode_request`; the result of `nvs_commit`
is logged only. -/
structure TakeOutcome where
  nvsOpen : NvsFault
  getU8 : NvsFault
  eraseKey : NvsFault

/-- `system_config_take_setup_mode_request`. -/
def systemConfigTakeSetupModeRequest (o : TakeOutcome) (setupOnce : Option UInt8) :
    Bool × Option UInt8 :=
  if o.nvsOpen.err ≠ .espOk then (false, setupOnce)
  else if o.getU8.err ≠ .espOk then (false, setupOnce)
  else if setupOnce = some 1 then
    (true, if o.eraseKey.err = .espOk then none else setupOnce)
  else (false, setupOnce)

/-- `system_config_has_credentials`. -/
def systemConfigHasCredentials (c : SystemConfig) : Bool := systemConfigGetSsid c ≠ []

/-! ## The device -/

/-- The tasks of a station: the setup button, and `wifi_fallback_task` until its time is up. The button
task ends with a restart once it has left a request. -/
structure Station where
  button : SetupButton
  buttonRestarts : Bool
  wifiConnected : Bool
  fallbackWaits : Bool
  deriving DecidableEq, Repr

/-- What the device is doing. -/
inductive BootMode
  /-- It has been reset, and is before `app_main`. -/
  | reset
  /-- `wifi_start_provisioning` -/
  | portal
  | station (tasks : Station)
  deriving DecidableEq, Repr

/-- The device, with `setup_once` in its NVS. -/
structure Firmware where
  device : Device
  setupOnce : Option UInt8
  mode : BootMode

/-- A restart, a crash or a power cycle. -/
def Firmware.restart (s : Firmware) : Firmware := { s with device := s.device.restart, mode := .reset }

/-- `nvs_flash_erase`. -/
def Firmware.erase (s : Firmware) : Firmware :=
  { s with device := { s.device with nvs := fun _ => none }, setupOnce := none }

/-- A request is there. -/
def Firmware.pending (s : Firmware) : Bool := s.setupOnce = some 1

/-- What happens to the calls of `app_main`. `nvsErased` says that NVS is erased after a first
`nvs_flash_init`, `nvsReady` that the last one works, `starts` that none of `setup_button_start`,
`wifi_start` and `wifi_start_provisioning` aborts, and `fallbackTask` that `wifi_fallback_task` is
created. -/
structure BootOutcome where
  nvsErased : Bool
  nvsReady : Bool
  init : InitOutcome
  take : TakeOutcome
  starts : Bool
  fallbackTask : Bool

/-- What is seen of a boot: a request was erased with the rest of NVS, a request was found, it is still
there, and the portal was started in spite of saved credentials. -/
structure BootReport where
  wiped : Bool
  taken : Bool
  kept : Bool
  detour : Bool
  deriving DecidableEq, Repr

/-- What is seen of a step. -/
inductive BootNote
  | quiet
  /-- `system_config_request_setup_mode` was called. A request is `raised` if none was there before. -/
  | asked (raised : Bool)
  /-- `app_main` has run. -/
  | booted (report : BootReport)
  /-- The setup form was posted; the credentials that were saved. -/
  | posted (saved : Option (Bytes × Bytes))
  deriving DecidableEq

section Step

variable (seeds : Seeds) (mac : Fin 6 → UInt8) (query : Bytes → Bytes → ℕ → Option Bytes)

/-- `app_main`. An error that is checked with `ESP_ERROR_CHECK` restarts the device. -/
def appMain (o : BootOutcome) (s : Firmware) : Firmware × BootNote :=
  let wiped := o.nvsErased && s.pending
  let s := if o.nvsErased then s.erase else s
  if o.nvsReady = false then (s.restart, .booted ⟨wiped, false, false, false⟩)
  else
    let init := systemConfigInit seeds mac o.init s.device
    if init.1 ≠ .espOk then
      ({ s with device := init.2 }.restart, .booted ⟨wiped, false, false, false⟩)
    else
      let take := systemConfigTakeSetupModeRequest o.take s.setupOnce
      let s : Firmware := { s with device := init.2, setupOnce := take.2 }
      let report (detour : Bool) := BootNote.booted ⟨wiped, take.1, take.1 && s.pending, detour⟩
      let credentials := systemConfigHasCredentials init.2.config
      if o.starts = false then (s.restart, report false)
      else if credentials && !take.1 then
        ({ s with mode := .station ⟨.start, false, false, o.fallbackTask⟩ }, report false)
      else ({ s with mode := .portal }, report credentials)

/-- `system_config_request_setup_mode` on the device. -/
def Firmware.request (o : SetupRequestOutcome) (s : Firmware) : EspErr × Firmware × BootNote :=
  let r := systemConfigRequestSetupMode o s.setupOnce
  let s' := { s with setupOnce := r.2 }
  (r.1, s', .asked (!s.pending && s'.pending))

/-- One round of `setup_button_task`. -/
def Station.poll (p : ButtonPoll) (o : SetupRequestOutcome) (tasks : Station) (s : Firmware) :
    Firmware × BootNote :=
  if tasks.buttonRestarts then (s, .quiet)
  else
    let (button, requests) := tasks.button.poll p
    if requests then
      let (err, s, note) := s.request o
      ({ s with mode := .station { tasks with button := button, buttonRestarts := err = .espOk } }, note)
    else ({ s with mode := .station { tasks with button := button } }, .quiet)

/-- `wifi_fallback_task`, when its time is up. -/
def Station.fallback (o : SetupRequestOutcome) (tasks : Station) (s : Firmware) : Firmware × BootNote :=
  if tasks.fallbackWaits then
    let s := { s with mode := .station { tasks with fallbackWaits := false } }
    if tasks.wifiConnected then (s, .quiet) else (s.request o).2
  else (s, .quiet)

/-- What may happen to the device. -/
inductive BootEvent
  | restart
  | boot (o : BootOutcome)
  | poll (p : ButtonPoll) (o : SetupRequestOutcome)
  /-- `on_got_ip` -/
  | gotIp
  | fallback (o : SetupRequestOutcome)
  /-- `POST /save` -/
  | post (contentLen : ℕ) (chunks : List Bytes) (o : SaveOutcome)

/-- One step; what cannot happen in a mode does nothing. -/
def Firmware.step (s : Firmware) : BootEvent → Firmware × BootNote
  | .restart => (s.restart, .quiet)
  | .boot o =>
      match s.mode with
      | .reset => appMain seeds mac o s
      | _ => (s, .quiet)
  | .poll p o =>
      match s.mode with
      | .station tasks => tasks.poll p o s
      | _ => (s, .quiet)
  | .gotIp =>
      match s.mode with
      | .station tasks => ({ s with mode := .station { tasks with wifiConnected := true } }, .quiet)
      | _ => (s, .quiet)
  | .fallback o =>
      match s.mode with
      | .station tasks => tasks.fallback o s
      | _ => (s, .quiet)
  | .post contentLen chunks o =>
      match s.mode with
      | .portal =>
          let r := savePostHandler query contentLen chunks o s.device
          ({ s with device := r.device }, .posted (if r.reply = .saved then r.saveWifi else none))
      | _ => (s, .quiet)

end Step

variable {seeds : Seeds} {mac : Fin 6 → UInt8} {query : Bytes → Bytes → ℕ → Option Bytes}

/-! ## Requests -/

/-- The counts of a step. -/
def BootNote.raised : BootNote → Bool
  | .asked raised => raised
  | _ => false

def BootNote.wiped : BootNote → Bool
  | .booted report => report.wiped
  | _ => false

def BootNote.taken : BootNote → Bool
  | .booted report => report.taken
  | _ => false

def BootNote.kept : BootNote → Bool
  | .booted report => report.kept
  | _ => false

def BootNote.detour : BootNote → Bool
  | .booted report => report.detour
  | _ => false

/-- A step keeps the account of the requests, and only a request makes a detour. -/
structure Accounts (s s' : Firmware) (note : BootNote) : Prop where
  requests : note.raised.toNat + note.kept.toNat + s.pending.toNat
    = note.taken.toNat + note.wiped.toNat + s'.pending.toNat
  detour : note.detour = true → note.taken = true

/-- What does not touch the request. -/
theorem accounts_quiet {s s' : Firmware} (h : s'.setupOnce = s.setupOnce) : Accounts s s' .quiet := by
  have hpending : s'.pending = s.pending := by rw [Firmware.pending, h, Firmware.pending]
  exact ⟨by rw [hpending]; rfl, nofun⟩

/-- A call of `system_config_request_setup_mode` never takes a request back. -/
theorem systemConfigRequestSetupMode_pending (o : SetupRequestOutcome) {setupOnce : Option UInt8}
    (h : setupOnce = some 1) : (systemConfigRequestSetupMode o setupOnce).2 = some 1 := by
  unfold systemConfigRequestSetupMode
  split_ifs
  · exact h
  · exact h
  · rfl

/-- Raising a request is accounted for. -/
theorem accounts_request (o : SetupRequestOutcome) (s : Firmware) :
    Accounts s (s.request o).2.1 (s.request o).2.2 := by
  refine ⟨?_, nofun⟩
  show (!s.pending && (s.request o).2.1.pending).toNat + 0 + s.pending.toNat
    = 0 + 0 + (s.request o).2.1.pending.toNat
  cases hbefore : s.pending with
  | false => simp
  | true =>
      have hafter : (s.request o).2.1.pending = true :=
        decide_eq_true (systemConfigRequestSetupMode_pending o (of_decide_eq_true hbefore))
      rw [hafter]
      rfl

/-- A request that is found was there; it is taken back unless the erasing fails. -/
theorem systemConfigTakeSetupModeRequest_spec (o : TakeOutcome) (setupOnce : Option UInt8) :
    ((systemConfigTakeSetupModeRequest o setupOnce).1 = true → setupOnce = some 1) ∧
      ((systemConfigTakeSetupModeRequest o setupOnce).2 = some 1 → setupOnce = some 1) ∧
      ((systemConfigTakeSetupModeRequest o setupOnce).1 = false →
        (systemConfigTakeSetupModeRequest o setupOnce).2 = setupOnce) := by
  unfold systemConfigTakeSetupModeRequest
  split_ifs <;> simp_all

/-- A boot that finds a request takes it back, unless the erasing fails. -/
theorem taken_add_pending (o : TakeOutcome) (setupOnce : Option UInt8) :
    ((systemConfigTakeSetupModeRequest o setupOnce).1 &&
        decide ((systemConfigTakeSetupModeRequest o setupOnce).2 = some 1)).toNat
        + (decide (setupOnce = some 1)).toNat
      = (systemConfigTakeSetupModeRequest o setupOnce).1.toNat
        + (decide ((systemConfigTakeSetupModeRequest o setupOnce).2 = some 1)).toNat := by
  obtain ⟨htaken, -, hnot⟩ := systemConfigTakeSetupModeRequest_spec o setupOnce
  cases h : (systemConfigTakeSetupModeRequest o setupOnce).1 with
  | false =>
      rw [hnot h]
      simp
  | true =>
      rw [htaken h]
      simp [Nat.add_comm]

/-- A boot: NVS may be erased first, then a request may be taken. -/
theorem accounts_booted {s s₁ s' : Firmware} {report : BootReport}
    (hwiped : report.wiped.toNat + s₁.pending.toNat = s.pending.toNat)
    (htaken : report.kept.toNat + s₁.pending.toNat = report.taken.toNat + s'.pending.toNat)
    (hdetour : report.detour = true → report.taken = true) : Accounts s s' (.booted report) := by
  refine ⟨?_, hdetour⟩
  show 0 + report.kept.toNat + s.pending.toNat = report.taken.toNat + report.wiped.toNat + s'.pending.toNat
  omega

/-- So is a boot, which may find one. -/
theorem accounts_appMain (o : BootOutcome) (s : Firmware) :
    Accounts s (appMain seeds mac o s).1 (appMain seeds mac o s).2 := by
  have hwiped : (o.nvsErased && s.pending).toNat + (if o.nvsErased then s.erase else s).pending.toNat
      = s.pending.toNat := by
    cases o.nvsErased with
    | true => simp [Firmware.pending, Firmware.erase]
    | false => simp
  unfold appMain
  generalize (if o.nvsErased then s.erase else s) = s₁ at hwiped ⊢
  have htaken := taken_add_pending o.take s₁.setupOnce
  dsimp only
  split_ifs with hready hinit hstarts hstation
  · exact accounts_booted hwiped rfl nofun
  · exact accounts_booted hwiped rfl nofun
  · exact accounts_booted hwiped htaken nofun
  · exact accounts_booted hwiped htaken nofun
  · refine accounts_booted hwiped htaken fun hcredentials => ?_
    simpa [show systemConfigHasCredentials _ = true from hcredentials] using hstation

/-- **Step lemma**: every step keeps the account. -/
theorem accounts_step (s : Firmware) (e : BootEvent) :
    Accounts s (s.step seeds mac query e).1 (s.step seeds mac query e).2 := by
  cases e with
  | restart => exact accounts_quiet rfl
  | boot o =>
      unfold Firmware.step
      cases s.mode with
      | reset => exact accounts_appMain o s
      | portal | station tasks => exact accounts_quiet rfl
  | poll p o =>
      unfold Firmware.step
      cases s.mode with
      | station tasks =>
          unfold Station.poll
          dsimp only
          split_ifs
          · exact accounts_quiet rfl
          · have h := accounts_request o s
            exact ⟨h.requests, h.detour⟩
          · exact accounts_quiet rfl
      | reset | portal => exact accounts_quiet rfl
  | gotIp =>
      unfold Firmware.step
      cases s.mode with
      | reset | portal | station tasks => exact accounts_quiet rfl
  | fallback o =>
      unfold Firmware.step
      cases s.mode with
      | station tasks =>
          unfold Station.fallback
          dsimp only
          split_ifs
          · exact accounts_quiet rfl
          · have h := accounts_request o s
            exact ⟨h.requests, h.detour⟩
          · exact accounts_quiet rfl
      | reset | portal => exact accounts_quiet rfl
  | post contentLen chunks o =>
      unfold Firmware.step
      cases s.mode with
      | portal => exact ⟨rfl, nofun⟩
      | reset | station tasks => exact accounts_quiet rfl

/-- **No request for the setup portal is lost, and none is served twice.** For every run of the device, over
any number of boots, restarts, presses of the button, timeouts and posts of the form, with any failures of
NVS, where a call that fails changes nothing: the requests raised are those that boots have found, one each,
and the one that is pending, up to those that could not be erased when they were found or were erased with
the whole of NVS; and a device with credentials starts the portal at most once for each request that a boot
has found. -/
theorem setupRequests_accounted (seeds : Seeds) (mac : Fin 6 → UInt8)
    (query : Bytes → Bytes → ℕ → Option Bytes) (s : Firmware) (evs : List BootEvent) :
    let run := runOps (Firmware.step seeds mac query) s evs
    (run.2.countP BootNote.raised + run.2.countP BootNote.kept + s.pending.toNat
      = run.2.countP BootNote.taken + run.2.countP BootNote.wiped + run.1.pending.toNat) ∧
      run.2.countP BootNote.detour ≤ run.2.countP BootNote.taken := by
  have hcount : ∀ b : Bool, (if b = true then 1 else 0) = b.toNat := by decide
  induction evs generalizing s with
  | nil => exact ⟨rfl, le_rfl⟩
  | cons e evs ih =>
      obtain ⟨hrequests, hdetour⟩ := @accounts_step seeds mac query s e
      obtain ⟨hrest, hle⟩ := ih (s.step seeds mac query e).1
      dsimp only at hrest hle ⊢
      simp only [runOps_cons, List.countP_cons, hcount]
      have hone : ∀ b c : Bool, (b = true → c = true) → b.toNat ≤ c.toNat := by decide
      have hdetours := hone _ _ hdetour
      constructor <;> omega

/-! ## Credentials -/

/-- The credentials that NVS holds: what a boot that can read it loads. -/
def Device.loads (seeds : Seeds) (d : Device) : Bytes × Bytes :=
  (loadedStr 64 none (d.nvs .wifiSsid) seeds.ssid, loadedStr 64 none (d.nvs .wifiPass) seeds.pass)

/-- Loading a key changes it to what has been loaded, at most. -/
theorem loadedStr_loadOrSeed (o : InitOutcome) (nvs : Nvs) (key : NvsKey) (seed : Bytes)
    (buf : CharArray 64) :
    loadedStr 64 none ((loadOrSeed o nvs key seed buf).1 key) seed = loadedStr 64 none (nvs key) seed := by
  have hseed : ((cstr seed).take 63).length < 64 := by
    rw [List.length_take]
    omega
  have hplain : cstr ((cstr seed).take 63) = (cstr seed).take 63 :=
    cstr_eq_self fun h => zero_notMem_cstr seed (List.mem_of_mem_take h)
  unfold loadOrSeed nvsGetStr
  cases o.get key with
  | some code => simp
  | none =>
      cases hkey : nvs key with
      | none =>
          unfold nvsSetStr
          cases o.set key with
          | some code => simp [hkey]
          | none =>
              simp only [if_true, Function.update_self, CharArray.str_snprintf]
              simp only [hplain, loadedStr, if_pos hseed, List.take_take, Nat.min_self]
      | some value =>
          dsimp only
          split_ifs <;> simp_all

/-- Writing another key leaves a key alone. -/
theorem nvsSetStr_of_ne {nvs : Nvs} {key other : NvsKey} (hne : other ≠ key) (fault : NvsFault)
    (value : Bytes) : (nvsSetStr nvs fault key value).2 other = nvs other := by
  unfold nvsSetStr
  cases fault with
  | none => exact Function.update_of_ne hne _ _
  | some code => rfl

/-- **A boot keeps the credentials**: what it writes is what it has loaded. -/
theorem loads_systemConfigInit (o : InitOutcome) (d : Device) :
    (systemConfigInit seeds mac o d).2.loads seeds = d.loads seeds := by
  have hother : ∀ {n : ℕ} (nvs : Nvs) {key other : NvsKey}, other ≠ key → ∀ (seed : Bytes)
      (buf : CharArray n), (loadOrSeed o nvs key seed buf).1 other = nvs other :=
    fun nvs _ _ hne seed buf => loadOrSeed_of_ne o nvs hne seed buf
  unfold systemConfigInit Device.loads
  dsimp only
  split_ifs with hopen hname
  · rfl
  · dsimp only
    rw [nvsSetStr_of_ne (by decide), nvsSetStr_of_ne (by decide), hother _ (by decide),
      hother _ (by decide), loadedStr_loadOrSeed, hother _ (by decide), loadedStr_loadOrSeed,
      hother _ (by decide)]
  · dsimp only
    rw [hother _ (by decide), hother _ (by decide), loadedStr_loadOrSeed, hother _ (by decide),
      loadedStr_loadOrSeed, hother _ (by decide)]

/-- A save that fails, if at all, before it has written anything. -/
def SaveOutcome.FailsAtOnce (o : SaveOutcome) : Prop :=
  o.nvsOpen ≠ none ∨ o.setSsid ≠ none ∨ (o.setPass = none ∧ o.commit = none)

/-- A successful save replaces the credentials, and one that fails at once keeps them. -/
theorem loads_systemConfigSaveWifi {o : SaveOutcome} (ho : o.FailsAtOnce) (ssid password : Bytes)
    (d : Device) :
    (systemConfigSaveWifi o ssid password d).2.loads seeds
      = if (systemConfigSaveWifi o ssid password d).1 = .espOk then (cstr ssid, cstr password)
        else d.loads seeds := by
  obtain ⟨hok, -, hssid, hpass⟩ := systemConfigSaveWifi_spec o ssid password d
  unfold Device.loads
  rw [hssid, hpass]
  by_cases hsaved : (systemConfigSaveWifi o ssid password d).1 = .espOk
  · obtain ⟨hwrites, -⟩ := hok.mp hsaved
    have hvalid := hwrites.1.1
    simp only [wifiArgsValid, decide_eq_true_eq] at hvalid
    rw [if_pos hsaved, if_pos hwrites.1, if_pos hwrites, loadedStr_written (by omega),
      loadedStr_written (by omega)]
  · have hnone : ¬WritesSsid o ssid password := by
      intro hw
      rcases ho with hopen | hset | ⟨hset, hcommit⟩
      · exact hopen hw.2.1
      · exact hset hw.2.2
      · exact hsaved (hok.mpr ⟨⟨hw, hset⟩, hcommit⟩)
    rw [if_neg hsaved, if_neg hnone, if_neg fun hw => hnone hw.1]

/-- What a post does to the device: nothing, or a save, and the answer tells whether it has worked. -/
def PostSpec (o : SaveOutcome) (d : Device) (r : SavePost) : Prop :=
  (r.device = d ∧ r.reply ≠ .saved) ∨
    ∃ ssid password, r.saveWifi = some (ssid, password) ∧
      r.device = (systemConfigSaveWifi o ssid password d).2 ∧
      (r.reply = .saved ↔ (systemConfigSaveWifi o ssid password d).1 = .espOk)

/-- The fields of a form are saved, or refused without a change. -/
theorem saveFields_spec (selected manual password : Bytes) (o : SaveOutcome) (d : Device) :
    PostSpec o d (saveFields selected manual password o d) := by
  unfold saveFields
  generalize (if manual ≠ [] then manual else selected) = ssid
  dsimp only
  by_cases hssid : ssid = []
  · rw [if_pos hssid]
    exact .inl ⟨rfl, nofun⟩
  rw [if_neg hssid]
  by_cases hshort : 0 < password.length ∧ password.length < 8
  · rw [if_pos hshort]
    exact .inl ⟨rfl, nofun⟩
  rw [if_neg hshort]
  refine .inr ⟨ssid, password, rfl, rfl, ?_⟩
  by_cases hok : (systemConfigSaveWifi o ssid password d).1 = .espOk <;> simp [hok]

/-- So is a post, in whatever way it fails. -/
theorem savePostHandler_spec (query : Bytes → Bytes → ℕ → Option Bytes) (contentLen : ℕ)
    (chunks : List Bytes) (o : SaveOutcome) (d : Device) :
    PostSpec o d (savePostHandler query contentLen chunks o d) := by
  unfold savePostHandler
  split_ifs
  · exact .inl ⟨rfl, nofun⟩
  · split
    · exact .inl ⟨rfl, nofun⟩
    · dsimp only
      split
      · exact saveFields_spec _ _ _ o d
      · exact .inl ⟨rfl, nofun⟩

/-- The credentials that a step has saved, as strings. -/
def BootNote.saved : BootNote → Option (Bytes × Bytes)
  | .posted credentials => credentials.map fun c => (cstr c.1, cstr c.2)
  | _ => none

/-- The event does not erase NVS, and a save in it fails at once, if it fails. -/
def BootEvent.Keeps : BootEvent → Prop
  | .boot o => o.nvsErased = false
  | .post _ _ o => o.FailsAtOnce
  | _ => True

/-- A boot does not change the credentials that the next one loads. -/
theorem loads_appMain {o : BootOutcome} (ho : o.nvsErased = false) (s : Firmware) :
    (appMain seeds mac o s).1.device.loads seeds = s.device.loads seeds := by
  have hinit := @loads_systemConfigInit seeds mac o.init s.device
  unfold appMain
  dsimp only
  rw [ho, if_neg Bool.false_ne_true]
  split_ifs
  · rfl
  all_goals exact hinit

/-- **Step lemma**: the credentials are those that are saved, else those that were there. -/
theorem loads_step {e : BootEvent} (he : e.Keeps) (s : Firmware) :
    (s.step seeds mac query e).1.device.loads seeds
      = (s.step seeds mac query e).2.saved.getD (s.device.loads seeds) := by
  cases e with
  | restart => rfl
  | boot o =>
      unfold Firmware.step
      cases s.mode with
      | reset =>
          have hnote : (appMain seeds mac o s).2.saved = none := by
            unfold appMain
            dsimp only
            split_ifs <;> rfl
          dsimp only
          rw [hnote]
          exact loads_appMain he s
      | portal | station tasks => rfl
  | poll p o =>
      unfold Firmware.step
      cases s.mode with
      | station tasks =>
          unfold Station.poll
          dsimp only
          split_ifs <;> rfl
      | reset | portal => rfl
  | gotIp =>
      unfold Firmware.step
      cases s.mode with
      | reset | portal | station tasks => rfl
  | fallback o =>
      unfold Firmware.step
      cases s.mode with
      | station tasks =>
          unfold Station.fallback
          dsimp only
          split_ifs <;> rfl
      | reset | portal => rfl
  | post contentLen chunks o =>
      unfold Firmware.step
      cases s.mode with
      | portal =>
          dsimp only
          rcases savePostHandler_spec query contentLen chunks o s.device with
            ⟨hdevice, hreply⟩ | ⟨ssid, password, hcall, hdevice, hreply⟩
          · rw [hdevice, if_neg hreply]
            rfl
          · rw [hdevice, loads_systemConfigSaveWifi he, hcall]
            by_cases hok : (systemConfigSaveWifi o ssid password s.device).1 = .espOk
            · rw [if_pos hok, if_pos (hreply.mpr hok)]
              rfl
            · rw [if_neg hok, if_neg fun h => hok (hreply.mp h)]
              rfl
      | reset | station tasks => rfl

/-- **Run lemma**: the credentials are those of the last successful save, else those of the start. -/
theorem loads_run (s : Firmware) {evs : List BootEvent} (h : ∀ e ∈ evs, e.Keeps) :
    (runOps (Firmware.step seeds mac query) s evs).1.device.loads seeds
      = ((runOps (Firmware.step seeds mac query) s evs).2.filterMap BootNote.saved).getLast?.getD
          (s.device.loads seeds) := by
  induction evs generalizing s with
  | nil => rfl
  | cons e evs ih =>
      rw [runOps_cons, ih _ fun e' he' => h e' (List.mem_cons_of_mem _ he'),
        loads_step (h e List.mem_cons_self)]
      dsimp only
      rw [List.filterMap_cons]
      cases (s.step seeds mac query e).2.saved with
      | none => rfl
      | some credentials => simp [List.getLast?_cons]

/-- A boot that is not given up, and can read what it needs. -/
structure BootOutcome.Works (o : BootOutcome) : Prop where
  nvsErased : o.nvsErased = false
  nvsReady : o.nvsReady = true
  nvsOpen : o.init.nvsOpen = none
  wifiSsid : o.init.get .wifiSsid = none
  wifiPass : o.init.get .wifiPass = none
  takeOpen : o.take.nvsOpen = none
  takeGet : o.take.getU8 = none
  starts : o.starts = true

/-- What such a boot comes to. -/
theorem appMain_works {o : BootOutcome} (ho : o.Works) (s : Firmware) :
    (appMain seeds mac o s.restart).1.device.config.credentials = s.device.loads seeds ∧
      (appMain seeds mac o s.restart).1.mode
        = if (s.device.loads seeds).1 ≠ [] ∧ s.pending = false then
            .station ⟨.start, false, false, o.fallbackTask⟩
          else .portal := by
  have hnext : (systemConfigInit seeds mac o.init s.device.restart).2.config.credentials
      = s.device.loads seeds := by
    have heq := Device.nextCredentials_eq seeds mac ho.nvsOpen s.device
    rw [ho.wifiSsid, ho.wifiPass] at heq
    exact heq
  have hinit : (systemConfigInit seeds mac o.init s.device.restart).1 = .espOk := by
    unfold systemConfigInit
    rw [if_neg (not_not.mpr (o.init.nvsOpen.err_eq_espOk.mpr ho.nvsOpen))]
  have htake : (systemConfigTakeSetupModeRequest o.take s.setupOnce).1 = s.pending := by
    unfold systemConfigTakeSetupModeRequest Firmware.pending
    rw [ho.takeOpen, ho.takeGet, if_neg (by decide), if_neg (by decide)]
    split_ifs with hpending <;> simp [hpending]
  have hcredentials : systemConfigHasCredentials
      (systemConfigInit seeds mac o.init s.device.restart).2.config
        = decide ((s.device.loads seeds).1 ≠ []) := by
    rw [← hnext]
    rfl
  unfold appMain
  dsimp only
  rw [ho.nvsErased, if_neg Bool.false_ne_true, ho.nvsReady, if_neg (by decide), ho.starts,
    show s.restart.device = s.device.restart from rfl, show s.restart.setupOnce = s.setupOnce from rfl,
    hinit, if_neg (by decide), htake, hcredentials, if_neg (by decide)]
  cases hpending : s.pending with
  | true => simp [hnext]
  | false => by_cases hssid : (s.device.loads seeds).1 = [] <;> simp [hnext, hssid]

/-- **Only a save changes the credentials.** For every run of the device, over any number of boots that work
or fail, restarts, requests for the portal by the button or the timer, and posts of the form, as long as
NVS is not erased and no save fails once it has written something (neither at its second write nor at the
commit behind both; an NVS call that fails changes nothing): a boot that works has the credentials of the
last successful save, and those of the start if there was none. It starts the station if there are
credentials and no request is pending, and else the portal. -/
theorem bootCredentials_lastSaved (seeds : Seeds) (mac : Fin 6 → UInt8)
    (query : Bytes → Bytes → ℕ → Option Bytes) (s : Firmware) (evs : List BootEvent)
    (hkeeps : ∀ e ∈ evs, e.Keeps) (o : BootOutcome) (ho : o.Works) :
    let run := runOps (Firmware.step seeds mac query) s evs
    let booted := (appMain seeds mac o run.1.restart).1
    let credentials := (run.2.filterMap BootNote.saved).getLast?.getD (s.device.loads seeds)
    booted.device.config.credentials = credentials ∧
      booted.mode = if credentials.1 ≠ [] ∧ run.1.pending = false then
          .station ⟨.start, false, false, o.fallbackTask⟩
        else .portal := by
  intro run booted credentials
  have hloads : run.1.device.loads seeds = credentials := loads_run s hkeeps
  rw [← hloads]
  exact appMain_works ho run.1

/-- A boot in which nothing fails. -/
def bootSucceeds : BootOutcome :=
  ⟨false, true, ⟨none, fun _ => none, fun _ => none⟩, ⟨none, none, none⟩, true, true⟩

/-- A new device starts the portal, gets credentials, and is sent to the portal once more. -/
theorem bootCredentials_lastSaved_office :
    let run := runOps (Firmware.step ⟨[], []⟩ (fun _ => 0) queryKeyValue)
      ⟨⟨fun _ => none, .boot⟩, none, .reset⟩
      [.boot bootSucceeds,
        .post 33 [ascii "ssid=office&manual=", ascii "&pass=87654321"] ⟨none, none, none, none⟩,
        .restart, .boot bootSucceeds, .fallback ⟨none, none, none⟩, .restart, .boot bootSucceeds]
    (appMain ⟨[], []⟩ (fun _ => 0) bootSucceeds run.1.restart).1.device.config.credentials
      = (run.2.filterMap BootNote.saved).getLast?.getD ([], []) := by
  refine (bootCredentials_lastSaved ⟨[], []⟩ (fun _ => 0) queryKeyValue
    ⟨⟨fun _ => none, .boot⟩, none, .reset⟩ _ ?_ bootSucceeds
    ⟨rfl, rfl, rfl, rfl, rfl, rfl, rfl, rfl⟩).1
  intro e he
  simp only [List.mem_cons, List.not_mem_nil, or_false] at he
  rcases he with rfl | rfl | rfl | rfl | rfl | rfl | rfl
  all_goals first
    | rfl
    | trivial
    | exact .inr (.inr ⟨rfl, rfl⟩)

end ConduitStream
