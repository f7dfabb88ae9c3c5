import ConduitStream.System.SystemConfig

/-! # A save that fails

`system_config_save_wifi` writes two keys one after the other, and caches the new credentials only if
both have been written and committed. An error leaves the cache as it is, but not what has been
written by then: `failedSave_keeps_iff` says exactly when the credentials of the next start are the
old ones. -/

namespace ConduitStream

/-- The old credentials are what the device goes on with: they are still cached, and every start that
reads NVS comes to the same ones in both cases. -/
def KeepsCredentials (seeds : Seeds) (mac : Fin 6 → UInt8) (d d' : Device) : Prop :=
  d'.config.credentials = d.config.credentials ∧
    ∀ i : InitOutcome, d'.nextCredentials seeds mac i = d.nextCredentials seeds mac i

/-- The condition on a save: the arguments are refused, NVS cannot be opened, the first write fails,
nothing fails, or everything written before the failing call is what was stored already. -/
def SavesAtOnce (seeds : Seeds) (o : SaveOutcome) (ssid password : Bytes) (d : Device) : Prop :=
  wifiArgsValid ssid password = false ∨ o.nvsOpen ≠ none ∨ o.setSsid ≠ none ∨
    (o.setPass = none ∧ o.commit = none) ∨
    (loadedStr 64 none (d.nvs .wifiSsid) seeds.ssid = cstr ssid ∧
      (o.setPass = none → loadedStr 64 none (d.nvs .wifiPass) seeds.pass = cstr password))

/-- What matters for the next start is what the two keys are loaded with. -/
theorem nextCredentials_eq_iff (seeds : Seeds) (mac : Fin 6 → UInt8) (d d' : Device) :
    (∀ i : InitOutcome, d'.nextCredentials seeds mac i = d.nextCredentials seeds mac i) ↔
      loadedStr 64 none (d'.nvs .wifiSsid) seeds.ssid
          = loadedStr 64 none (d.nvs .wifiSsid) seeds.ssid ∧
        loadedStr 64 none (d'.nvs .wifiPass) seeds.pass
          = loadedStr 64 none (d.nvs .wifiPass) seeds.pass := by
  constructor
  · intro h
    have hreads := h ⟨none, fun _ => none, fun _ => none⟩
    rw [Device.nextCredentials_eq seeds mac rfl, Device.nextCredentials_eq seeds mac rfl] at hreads
    exact Prod.ext_iff.mp hreads
  · rintro ⟨hssid, hpass⟩ i
    by_cases hopen : i.nvsOpen = none
    · -- a key that cannot be read is loaded with its seed
      have hkey : ∀ {fault : NvsFault} {stored stored' : Option Bytes} {seed : Bytes},
          loadedStr 64 none stored' seed = loadedStr 64 none stored seed →
          loadedStr 64 fault stored' seed = loadedStr 64 fault stored seed := by
        intro fault stored stored' seed heq
        cases fault with
        | none => exact heq
        | some code => rfl
      rw [Device.nextCredentials_eq seeds mac hopen, Device.nextCredentials_eq seeds mac hopen,
        hkey hssid, hkey hpass]
    · rw [Device.nextCredentials_of_open seeds mac hopen,
        Device.nextCredentials_of_open seeds mac hopen]

/-- What has been written is loaded as it is. -/
theorem loadedStr_written {s seed : Bytes} (hlen : (cstr s).length < 64) :
    loadedStr 64 none (some (cstr s)) seed = cstr s := by
  show (if (cstr s).length < 64 then (cstr (cstr s)).take 63 else _) = cstr s
  rw [if_pos hlen, cstr_cstr, List.take_of_length_le (by omega)]

/-- **A failed save keeps the old credentials exactly if nothing new was written before the call that
fails.** -/
theorem failedSave_keeps_iff (seeds : Seeds) (mac : Fin 6 → UInt8) (o : SaveOutcome)
    (ssid password : Bytes) (d : Device) :
    ((systemConfigSaveWifi o ssid password d).1 ≠ .espOk →
        KeepsCredentials seeds mac d (systemConfigSaveWifi o ssid password d).2) ↔
      SavesAtOnce seeds o ssid password d := by
  obtain ⟨hok, hcache, hnvsSsid, hnvsPass⟩ := systemConfigSaveWifi_spec o ssid password d
  have hkeeps : (systemConfigSaveWifi o ssid password d).1 ≠ .espOk →
      (KeepsCredentials seeds mac d (systemConfigSaveWifi o ssid password d).2 ↔
        (WritesSsid o ssid password →
          loadedStr 64 none (d.nvs .wifiSsid) seeds.ssid = cstr ssid) ∧
        (WritesPass o ssid password →
          loadedStr 64 none (d.nvs .wifiPass) seeds.pass = cstr password)) := by
    intro herr
    have hcached : (systemConfigSaveWifi o ssid password d).2.config.credentials
        = d.config.credentials := congrArg _ (hcache herr)
    rw [KeepsCredentials, and_iff_right hcached, nextCredentials_eq_iff, hnvsSsid, hnvsPass]
    have hlen : WritesSsid o ssid password →
        (cstr ssid).length < 64 ∧ (cstr password).length < 64 := by
      intro hw
      have hvalid := hw.1
      simp only [wifiArgsValid, decide_eq_true_eq] at hvalid
      omega
    refine and_congr ?_ ?_
    · by_cases hw : WritesSsid o ssid password
      · rw [if_pos hw, loadedStr_written (hlen hw).1, forall_prop_of_true hw, eq_comm]
      · rw [if_neg hw]
        exact iff_of_true rfl fun h => absurd h hw
    · by_cases hw : WritesPass o ssid password
      · rw [if_pos hw, loadedStr_written (hlen hw.1).2, forall_prop_of_true hw, eq_comm]
      · rw [if_neg hw]
        exact iff_of_true rfl fun h => absurd h hw
  constructor
  · intro h
    by_cases herr : (systemConfigSaveWifi o ssid password d).1 = .espOk
    · obtain ⟨hw, hcommit⟩ := hok.mp herr
      exact .inr (.inr (.inr (.inl ⟨hw.2, hcommit⟩)))
    · obtain ⟨hssid, hpass⟩ := (hkeeps herr).mp (h herr)
      by_cases hw : WritesSsid o ssid password
      · exact .inr (.inr (.inr (.inr ⟨hssid hw, fun hset => hpass ⟨hw, hset⟩⟩)))
      · -- nothing is written
        unfold WritesSsid at hw
        unfold SavesAtOnce
        rw [← Bool.not_eq_true]
        tauto
  · intro h herr
    rw [hkeeps herr]
    rcases h with hargs | hopen | hset | ⟨hset, hcommit⟩ | ⟨hssid, hpass⟩
    · have hnot : ¬WritesSsid o ssid password := fun hw => by
        rw [hw.1] at hargs
        cases hargs
      exact ⟨fun hw => absurd hw hnot, fun hw => absurd hw.1 hnot⟩
    · exact ⟨fun hw => absurd hw.2.1 hopen, fun hw => absurd hw.1.2.1 hopen⟩
    · exact ⟨fun hw => absurd hw.2.2 hset, fun hw => absurd hw.1.2.2 hset⟩
    · -- without a failure there is no error
      have hnot : ¬WritesSsid o ssid password := fun hw => herr (hok.mpr ⟨⟨hw, hset⟩, hcommit⟩)
      exact ⟨fun hw => absurd hw hnot, fun hw => absurd hw.1 hnot⟩
    · exact ⟨fun _ => hssid, fun hw => hpass hw.2⟩

/-- **The second write fails**: the save returns an error, and the next start has the new SSID and the
old password. -/
theorem failedSave_mixes :
    let d : Device :=
      ⟨fun
        | .wifiSsid => some (ascii "home")
        | .wifiPass => some (ascii "homesecret")
        | .name => none, .boot⟩
    let saved := systemConfigSaveWifi ⟨none, none, some 0x1105, none⟩ (ascii "office")
      (ascii "officesecret") d
    saved.1 ≠ .espOk ∧
      saved.2.nextCredentials ⟨[], []⟩ (fun _ => 0) ⟨none, fun _ => none, fun _ => none⟩
        = (ascii "office", ascii "homesecret") := by
  decide

end ConduitStream
