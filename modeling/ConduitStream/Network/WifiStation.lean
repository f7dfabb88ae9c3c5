import ConduitStream.System.SystemConfig

/-! # From the saved credentials to the station (`wifi.c`)

Saved credentials pass through NVS and the 64-byte caches unchanged, since these have room for a
terminator (`nextCredentials_of_save`). The station configuration has none to spare for an SSID of
32 bytes: `savedCredentials_used_iff` says that the station gets the saved credentials exactly if the
SSID has at most 31. -/

namespace ConduitStream

/-- The station part of `wifi_config_t`, as far as it is set; an SSID of 32 bytes has no
terminator. -/
structure WifiStaConfig where
  ssid : CharArray 32
  password : CharArray 64

/-- The configuration `wifi_start` gives to `esp_wifi_set_config`; it uses the credentials for nothing
else. -/
def wifiStart (c : SystemConfig) : WifiStaConfig where
  ssid := (CharArray.zero 32).snprintf (systemConfigGetSsid c)
  password := (CharArray.zero 64).snprintf (systemConfigGetPassword c)

/-- What a device gives to the station after a restart. -/
def Device.nextStation (seeds : Seeds) (mac : Fin 6 → UInt8) (o : InitOutcome) (d : Device) :
    WifiStaConfig :=
  wifiStart (systemConfigInit seeds mac o d.restart).2.config

variable {o : SaveOutcome} {i : InitOutcome} {ssid password : Bytes} {d : Device}

/-- **What has been saved is what is loaded**, whatever is done to seed other keys. -/
theorem nextCredentials_of_save (hssid : 0 ∉ ssid) (hpass : 0 ∉ password)
    (hsave : (systemConfigSaveWifi o ssid password d).1 = .espOk) (seeds : Seeds)
    (mac : Fin 6 → UInt8) (hopen : i.nvsOpen = none) (hget : ∀ key, i.get key = none) :
    (systemConfigSaveWifi o ssid password d).2.nextCredentials seeds mac i = (ssid, password) ∧
      ssid.length ≤ 32 ∧ password.length ≤ 63 := by
  obtain ⟨hok, -, hnvsSsid, hnvsPass⟩ := systemConfigSaveWifi_spec o ssid password d
  obtain ⟨hwrites, -⟩ := hok.mp hsave
  have hvalid := hwrites.1.1
  simp only [wifiArgsValid, cstr_eq_self hssid, cstr_eq_self hpass, decide_eq_true_eq] at hvalid
  obtain ⟨-, hlenSsid, hlenPass⟩ := hvalid
  rw [if_pos hwrites.1, cstr_eq_self hssid] at hnvsSsid
  rw [if_pos hwrites, cstr_eq_self hpass] at hnvsPass
  have hload : ∀ {s seed : Bytes}, 0 ∉ s → s.length < 64 → loadedStr 64 none (some s) seed = s := by
    intro s seed hs hlen
    show (if s.length < 64 then (cstr s).take 63 else _) = s
    rw [if_pos hlen, cstr_eq_self hs, List.take_of_length_le (by omega)]
  refine ⟨?_, hlenSsid, hlenPass⟩
  rw [Device.nextCredentials_eq seeds mac hopen, hget, hget, hnvsSsid, hnvsPass,
    hload hssid (by omega), hload hpass (by omega)]

/-- **The station gets the saved credentials exactly if the SSID has at most 31 bytes**: after a
successful save and a restart that can read NVS. -/
theorem savedCredentials_used_iff (hssid : 0 ∉ ssid) (hpass : 0 ∉ password)
    (hsave : (systemConfigSaveWifi o ssid password d).1 = .espOk) (seeds : Seeds)
    (mac : Fin 6 → UInt8) (hopen : i.nvsOpen = none) (hget : ∀ key, i.get key = none) :
    (((systemConfigSaveWifi o ssid password d).2.nextStation seeds mac i).ssid.str = ssid ∧
        ((systemConfigSaveWifi o ssid password d).2.nextStation seeds mac i).password.str
          = password) ↔
      ssid.length ≤ 31 := by
  obtain ⟨hloaded, -, hlenPass⟩ :=
    nextCredentials_of_save hssid hpass hsave seeds mac hopen hget
  have hstation : ∀ c : SystemConfig, c.credentials = (ssid, password) →
      ((wifiStart c).ssid.str = ssid ∧ (wifiStart c).password.str = password ↔
        ssid.length ≤ 31) := by
    intro c hc
    obtain ⟨hcssid, hcpass⟩ := Prod.ext_iff.mp hc
    have hfits : ((CharArray.zero 64).snprintf password).str = password :=
      CharArray.str_snprintf_of_lt _ hpass (by omega)
    unfold wifiStart
    rw [show systemConfigGetSsid c = ssid from hcssid,
      show systemConfigGetPassword c = password from hcpass, hfits,
      CharArray.str_snprintf_eq_iff _ hssid (by decide), and_iff_left rfl]
    omega
  exact hstation _ hloaded

/-! ### Sample devices -/

/-- A device with nothing in NVS. -/
def blankDevice : Device := ⟨fun _ => none, .boot⟩

/-- Every NVS call of the save works. -/
def saveSucceeds : SaveOutcome := ⟨none, none, none, none⟩

/-- So does every one of the start. -/
def initSucceeds : InitOutcome := ⟨none, fun _ => none, fun _ => none⟩

/-- A short SSID comes through as it was saved. -/
theorem savedCredentials_used_iff_home :
    ((systemConfigSaveWifi saveSucceeds (ascii "home") (ascii "12345678")
      blankDevice).2.nextStation ⟨[], []⟩ (fun _ => 0) initSucceeds).ssid.str = ascii "home" :=
  ((savedCredentials_used_iff (by decide) (by decide) (by decide) ⟨[], []⟩ (fun _ => 0)
    rfl fun _ => rfl).mpr (by decide)).1

/-- **An SSID of 32 bytes** is saved, and the station looks for a network with its first 31. -/
theorem savedCredentials_ssid_cut :
    (systemConfigSaveWifi saveSucceeds (List.replicate 32 0x61) (ascii "12345678")
        blankDevice).1 = .espOk ∧
      ((systemConfigSaveWifi saveSucceeds (List.replicate 32 0x61) (ascii "12345678")
        blankDevice).2.nextStation ⟨[], []⟩ (fun _ => 0) initSucceeds).ssid.str
          = List.replicate 31 0x61 := by
  decide

end ConduitStream
