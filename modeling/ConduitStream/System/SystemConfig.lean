import Mathlib.Data.List.OfFn
import ConduitStream.Foundations.CharArray

/-! # The system configuration (`system_config.c`, `device_id.c`)

The Wi-Fi credentials and the device name are stored in NVS and cached in static buffers; a restart
clears the buffers and keeps NVS. NVS itself is a map from keys to strings: a call on it does what it
says and returns `ESP_OK`, or fails with some error and changes nothing. `nvs_commit` does not
change what later reads see, so only its result is there. -/

namespace ConduitStream

/-! ## NVS -/

/-- Error codes. -/
inductive EspErr
  | espOk
  | espErrInvalidArg
  | espErrNvsNotFound
  | espErrNvsInvalidLength
  /-- Any other failure of an NVS call. -/
  | espErrNvs (code : ℕ)
  deriving DecidableEq, Repr

/-- What happens to an NVS call: nothing (`none`), or it fails with an error of its own. -/
abbrev NvsFault : Type := Option ℕ

/-- The result of a call that either works or fails so. -/
def NvsFault.err : NvsFault → EspErr
  | none => .espOk
  | some code => .espErrNvs code

/-- Only a call without a fault returns `ESP_OK`. -/
theorem NvsFault.err_eq_espOk (fault : NvsFault) : fault.err = .espOk ↔ fault = none := by
  cases fault <;> simp [NvsFault.err]

/-- The string keys in namespace `conduit`. -/
inductive NvsKey
  | wifiSsid
  | wifiPass
  | name
  deriving DecidableEq

/-- The strings stored. -/
abbrev Nvs : Type := NvsKey → Option Bytes

/-- `nvs_set_str`. -/
def nvsSetStr (nvs : Nvs) (fault : NvsFault) (key : NvsKey) (value : Bytes) : EspErr × Nvs :=
  match fault with
  | none => (.espOk, Function.update nvs key (some (cstr value)))
  | some code => (.espErrNvs code, nvs)

/-- `nvs_get_str` with the size of the buffer as its length. -/
def nvsGetStr {n : ℕ} (nvs : Nvs) (fault : NvsFault) (key : NvsKey) (buf : CharArray n) :
    EspErr × CharArray n :=
  match fault with
  | some code => (.espErrNvs code, buf)
  | none =>
    match nvs key with
    | none => (.espErrNvsNotFound, buf)
    | some value => if value.length < n then (.espOk, buf.snprintf value)
        else (.espErrNvsInvalidLength, buf)

/-! ## The device id -/

/-- A digit of `%X`. -/
def upperHexDigit (n : ℕ) : UInt8 := UInt8.ofNat (if n < 10 then 0x30 + n else 0x41 + (n - 10))

/-- `%02X`. -/
def upperHex (b : UInt8) : Bytes := [upperHexDigit (b.toNat / 16), upperHexDigit (b.toNat % 16)]

/-- `device_id_format`. -/
def deviceIdFormat (mac : Fin 6 → UInt8) (out : CharArray 13) : CharArray 13 :=
  out.snprintf ((List.ofFn mac).flatMap upperHex)

/-- `device_instance_name_format`. -/
def deviceInstanceNameFormat {n : ℕ} (deviceId name : Bytes) (out : CharArray n) : CharArray n :=
  out.snprintf (deviceId ++ ascii "@" ++ name)

/-! ## Loading -/

/-- The static buffers `s_ssid`, `s_pass`, `s_name`, `s_device_id` and `s_instance`. -/
structure SystemConfig where
  ssid : CharArray 64
  pass : CharArray 64
  name : CharArray 33
  deviceId : CharArray 13
  instanceName : CharArray 64

/-- The buffers at boot. -/
def SystemConfig.boot : SystemConfig := ⟨.zero 64, .zero 64, .zero 33, .zero 13, .zero 64⟩

/-- What a restart keeps, and what it clears. -/
structure Device where
  nvs : Nvs
  config : SystemConfig

/-- A restart of the device, before `system_config_init`. -/
def Device.restart (d : Device) : Device := { d with config := .boot }

/-- `system_config_get_ssid`. -/
def systemConfigGetSsid (c : SystemConfig) : Bytes := c.ssid.str

/-- `system_config_get_name`. -/
def systemConfigGetName (c : SystemConfig) : Bytes := c.name.str

/-- `system_config_get_password`. -/
def systemConfigGetPassword (c : SystemConfig) : Bytes := c.pass.str

/-- The values of `CONFIG_CONDUIT_WIFI_SSID` and `CONFIG_CONDUIT_WIFI_PASSWORD`. -/
structure Seeds where
  ssid : Bytes
  pass : Bytes

/-- What happens to the NVS calls of `system_config_init`; it sets a key at most once. -/
structure InitOutcome where
  nvsOpen : NvsFault
  get : NvsKey → NvsFault
  set : NvsKey → NvsFault

/-- `load_or_seed`. -/
def loadOrSeed {n : ℕ} (o : InitOutcome) (nvs : Nvs) (key : NvsKey) (seed : Bytes)
    (buf : CharArray n) : Nvs × CharArray n :=
  let r := nvsGetStr nvs (o.get key) key buf
  if r.1 = .espErrNvsNotFound then
    let buf' := r.2.snprintf seed
    ((nvsSetStr nvs (o.set key) key buf'.str).2, buf')
  else if r.1 ≠ .espOk then (nvs, r.2.snprintf seed)
  else (nvs, r.2)

/-- The string a key is loaded with: the stored one if it can be read into the buffer, else the
seed. -/
def loadedStr (n : ℕ) (fault : NvsFault) (stored : Option Bytes) (seed : Bytes) : Bytes :=
  match fault, stored with
  | none, some value => if value.length < n then (cstr value).take (n - 1)
      else (cstr seed).take (n - 1)
  | _, _ => (cstr seed).take (n - 1)

/-- What the buffer holds behind a load. -/
theorem loadOrSeed_str {n : ℕ} (o : InitOutcome) (nvs : Nvs) (key : NvsKey) (seed : Bytes)
    (buf : CharArray n) :
    (loadOrSeed o nvs key seed buf).2.str = loadedStr n (o.get key) (nvs key) seed := by
  unfold loadOrSeed nvsGetStr loadedStr
  cases o.get key with
  | some code => exact buf.str_snprintf seed
  | none =>
      cases nvs key with
      | none => exact buf.str_snprintf seed
      | some value =>
          by_cases hlen : value.length < n
          · simp only [if_pos hlen]
            exact buf.str_snprintf value
          · simp only [if_neg hlen]
            exact buf.str_snprintf seed

/-- Seeding a key leaves the other ones alone. -/
theorem loadOrSeed_of_ne {n : ℕ} (o : InitOutcome) (nvs : Nvs) {key other : NvsKey}
    (hne : other ≠ key) (seed : Bytes) (buf : CharArray n) :
    (loadOrSeed o nvs key seed buf).1 other = nvs other := by
  unfold loadOrSeed
  dsimp only
  split_ifs
  · unfold nvsSetStr
    cases o.set key with
    | none => exact Function.update_of_ne hne ..
    | some code => rfl
  · rfl
  · rfl

/-- `system_config_init`. -/
def systemConfigInit (seeds : Seeds) (mac : Fin 6 → UInt8) (o : InitOutcome) (d : Device) :
    EspErr × Device :=
  let deviceId := deviceIdFormat mac d.config.deviceId
  if o.nvsOpen.err ≠ .espOk then
    (o.nvsOpen.err, { d with config := { d.config with deviceId } })
  else
    let ssid := loadOrSeed o d.nvs .wifiSsid seeds.ssid d.config.ssid
    let pass := loadOrSeed o ssid.1 .wifiPass seeds.pass d.config.pass
    let generated := (CharArray.zero 33).snprintf (ascii "MiniSpeaker-" ++ deviceId.str.drop 9)
    let loaded := loadOrSeed o pass.1 .name generated.str d.config.name
    let name := if loaded.2.str ≠ generated.str then
        let name := loaded.2.snprintf generated.str
        ((nvsSetStr loaded.1 (o.set .name) .name name.str).2, name)
      else loaded
    (.espOk,
      { nvs := name.1
        config :=
          { ssid := ssid.2
            pass := pass.2
            name := name.2
            deviceId
            instanceName :=
              deviceInstanceNameFormat deviceId.str name.2.str d.config.instanceName } })

/-- **The name is generated from the MAC**, so its letters are known. -/
theorem mem_systemConfigGetName {seeds : Seeds} {mac : Fin 6 → UInt8} {o : InitOutcome} {d : Device}
    (hinit : (systemConfigInit seeds mac o d).1 = .espOk) {b : UInt8}
    (hb : b ∈ systemConfigGetName (systemConfigInit seeds mac o d).2.config) :
    b ∈ ascii "MiniSpeaker-" ∨ ∃ k < 16, b = upperHexDigit k := by
  have hid : ∀ {c : UInt8}, c ∈ (deviceIdFormat mac d.config.deviceId).str.drop 9 →
      ∃ k < 16, c = upperHexDigit k := by
    intro c hc
    have hmem := CharArray.mem_of_mem_str_snprintf (List.mem_of_mem_drop hc)
    obtain ⟨x, -, hx⟩ := List.mem_flatMap.mp hmem
    have hlt := x.toNat_lt
    simp only [upperHex, List.mem_cons, List.not_mem_nil, or_false] at hx
    rcases hx with rfl | rfl
    · exact ⟨_, by omega, rfl⟩
    · exact ⟨_, by omega, rfl⟩
  unfold systemConfigInit at hinit hb
  split at hinit
  · next herr => exact absurd hinit herr
  · next herr =>
      rw [if_neg herr] at hb
      dsimp only [systemConfigGetName] at hb
      -- a loaded name is kept only if it is the generated one
      have hgen : b ∈ ((CharArray.zero 33).snprintf (ascii "MiniSpeaker-" ++
          (deviceIdFormat mac d.config.deviceId).str.drop 9)).str := by
        split at hb
        · exact CharArray.mem_of_mem_str_snprintf hb
        · next hsame =>
            rw [not_not.mp hsame] at hb
            exact hb
      rcases List.mem_append.mp (CharArray.mem_of_mem_str_snprintf hgen) with hm | hm
      · exact .inl hm
      · exact .inr (hid hm)

/-- The credentials in the buffers. -/
def SystemConfig.credentials (c : SystemConfig) : Bytes × Bytes :=
  (systemConfigGetSsid c, systemConfigGetPassword c)

/-- The credentials a device has after a restart. -/
def Device.nextCredentials (seeds : Seeds) (mac : Fin 6 → UInt8) (o : InitOutcome) (d : Device) :
    Bytes × Bytes :=
  (systemConfigInit seeds mac o d.restart).2.config.credentials

/-- **The credentials depend on what NVS has for them, and on nothing else that is stored.** -/
theorem Device.nextCredentials_eq (seeds : Seeds) (mac : Fin 6 → UInt8) {o : InitOutcome}
    (hopen : o.nvsOpen = none) (d : Device) :
    d.nextCredentials seeds mac o =
      (loadedStr 64 (o.get .wifiSsid) (d.nvs .wifiSsid) seeds.ssid,
        loadedStr 64 (o.get .wifiPass) (d.nvs .wifiPass) seeds.pass) := by
  have herr : ¬o.nvsOpen.err ≠ .espOk := not_not.mpr (o.nvsOpen.err_eq_espOk.mpr hopen)
  have hssid := loadOrSeed_str o d.nvs .wifiSsid seeds.ssid (.zero 64)
  have hpass := loadOrSeed_str o (loadOrSeed o d.nvs .wifiSsid seeds.ssid (.zero 64)).1
    .wifiPass seeds.pass (.zero 64)
  rw [loadOrSeed_of_ne o d.nvs (by decide)] at hpass
  unfold Device.nextCredentials systemConfigInit
  rw [if_neg herr]
  exact Prod.ext hssid hpass

/-- If NVS cannot be opened, the next boot has no credentials. -/
theorem Device.nextCredentials_of_open (seeds : Seeds) (mac : Fin 6 → UInt8) {o : InitOutcome}
    (hopen : o.nvsOpen ≠ none) (d : Device) : d.nextCredentials seeds mac o = ([], []) := by
  have herr : o.nvsOpen.err ≠ .espOk := fun h => hopen (o.nvsOpen.err_eq_espOk.mp h)
  unfold Device.nextCredentials systemConfigInit
  rw [if_pos herr]
  exact Prod.ext (CharArray.str_zero 64) (CharArray.str_zero 64)

/-! ## Saving -/

/-- What happens to the NVS calls of `system_config_save_wifi`. -/
structure SaveOutcome where
  nvsOpen : NvsFault
  setSsid : NvsFault
  setPass : NvsFault
  commit : NvsFault

/-- The arguments `system_config_save_wifi` does not refuse: `ssid[0] != '\0'` and at most 32 bytes,
and a password of at most 63. -/
def wifiArgsValid (ssid password : Bytes) : Bool :=
  cstr ssid ≠ [] ∧ (cstr ssid).length ≤ 32 ∧ (cstr password).length ≤ 63

/-- `system_config_save_wifi`, whose only caller passes no null pointers. -/
def systemConfigSaveWifi (o : SaveOutcome) (ssid password : Bytes) (d : Device) :
    EspErr × Device :=
  if wifiArgsValid ssid password = false then (.espErrInvalidArg, d)
  else if o.nvsOpen.err ≠ .espOk then (o.nvsOpen.err, d)
  else
    let setSsid := nvsSetStr d.nvs o.setSsid .wifiSsid ssid
    let r :=
      if setSsid.1 = .espOk then
        let setPass := nvsSetStr setSsid.2 o.setPass .wifiPass password
        (if setPass.1 = .espOk then o.commit.err else setPass.1, setPass.2)
      else setSsid
    if r.1 = .espOk then
      (r.1,
        { nvs := r.2
          config :=
            { d.config with
              ssid := d.config.ssid.snprintf ssid
              pass := d.config.pass.snprintf password } })
    else (r.1, { d with nvs := r.2 })

section Save

variable (o : SaveOutcome) (ssid password : Bytes) (d : Device)

/-- The new SSID is written. -/
def WritesSsid : Prop :=
  wifiArgsValid ssid password = true ∧ o.nvsOpen = none ∧ o.setSsid = none

/-- So is the new password. -/
def WritesPass : Prop := WritesSsid o ssid password ∧ o.setPass = none

instance : Decidable (WritesSsid o ssid password) := inferInstanceAs (Decidable (_ ∧ _ ∧ _))

instance : Decidable (WritesPass o ssid password) := inferInstanceAs (Decidable (_ ∧ _))

/-- **What a save does**: it writes the SSID, then the password, and changes the cached credentials if
the commit has worked, too. -/
theorem systemConfigSaveWifi_spec :
    ((systemConfigSaveWifi o ssid password d).1 = .espOk ↔
        WritesPass o ssid password ∧ o.commit = none) ∧
      ((systemConfigSaveWifi o ssid password d).1 ≠ .espOk →
        (systemConfigSaveWifi o ssid password d).2.config = d.config) ∧
      (systemConfigSaveWifi o ssid password d).2.nvs .wifiSsid
        = (if WritesSsid o ssid password then some (cstr ssid) else d.nvs .wifiSsid) ∧
      (systemConfigSaveWifi o ssid password d).2.nvs .wifiPass
        = (if WritesPass o ssid password then some (cstr password) else d.nvs .wifiPass) := by
  unfold systemConfigSaveWifi WritesPass WritesSsid
  by_cases hvalid : wifiArgsValid ssid password = true
  · obtain ⟨nvsOpen, setSsid, setPass, commit⟩ := o
    cases nvsOpen with
    | some code => simp [hvalid, NvsFault.err]
    | none =>
        cases setSsid with
        | some code => simp [hvalid, NvsFault.err, nvsSetStr]
        | none =>
            cases setPass with
            | some code => simp [hvalid, NvsFault.err, nvsSetStr]
            | none => cases commit <;> simp [hvalid, NvsFault.err, nvsSetStr]
  · simp [hvalid]

end Save

end ConduitStream
