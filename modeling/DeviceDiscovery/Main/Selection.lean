import DeviceDiscovery.Main.PasswordGate

/-!
What `--select` does.

The option tells several discovered devices apart, and it is only looked at when
there are several. A single device is gone on with whatever address was
selected.
-/

namespace DeviceDiscovery.Main

open Foundation DeviceDiscovery.Network DeviceDiscovery.Scanner DeviceDiscovery.Ssh

/-- With a selected address and a number of devices other than one, the device is
the one with that address, or there is a refusal. -/
theorem chooseDevice_select {options : Options} (hselect : options.selectCandidate ≠ [])
    (iface : NetworkInterface) {found : Stage} (hcount : found.devices.length ≠ 1) :
    (options.selectCandidate ∉ found.devices.map SshProbeResult.ip ∧
      ∃ outcome, chooseDevice options iface found = .error outcome) ∨
    ∃ device ∈ found.devices, device.ip = options.selectCandidate ∧
      chooseDevice options iface found = .ok device := by
  unfold chooseDevice
  split
  · rename_i hnone
    exact .inl ⟨by simp [hnone], _, rfl⟩
  · rename_i device honly
    exact absurd (congrArg List.length honly) hcount
  · rw [if_pos hselect]
    split
    · rename_i device hfind
      have hip : device.ip = options.selectCandidate := by
        simpa using List.find?_some hfind
      exact .inr ⟨device, List.mem_of_find?_eq_some hfind, hip, rfl⟩
    · rename_i hfind
      refine .inl ⟨fun hmem => ?_, _, rfl⟩
      obtain ⟨device, hdevice, hip⟩ := List.mem_map.mp hmem
      exact List.find?_eq_none.mp hfind device hdevice (by simpa using hip)

theorem chooseDevice_singleton (options : Options) (iface : NetworkInterface) {found : Stage}
    {device : SshProbeResult} (h : found.devices = [device]) :
    chooseDevice options iface found = .ok device := by
  unfold chooseDevice
  rw [h]

/-- With several devices, or none, a run that has an address selected connects to
the device with that address; when there is none it fails and hands the password
to nobody. A single device is connected to whatever the selected address is. -/
theorem select_tells_devices_apart (options : Options) (world : World)
    (hmock : options.mockIfconfigFile = []) (hselect : options.selectCandidate ≠ []) :
    let outcome := tryRun options world
    let withheld := outcome.connected = [] ∧ outcome.exitCode.value ≠ 0 ∧
      ∀ call ∈ outcome.calls, call.offersPassword = false
    (∀ password iface, Selects options world password iface →
      let devices := (discoverDevices options world iface).found.devices
      (devices.length ≠ 1 → options.selectCandidate ∉ devices.map SshProbeResult.ip → withheld) ∧
      (devices.length ≠ 1 → options.selectCandidate ∈ devices.map SshProbeResult.ip →
        ∃ device ∈ devices, device.ip = options.selectCandidate ∧
          outcome.connected = [sshConfigOf options password device]) ∧
      ∀ device, devices = [device] → outcome.connected = [sshConfigOf options password device]) ∧
    ((∀ password iface, ¬Selects options world password iface) → withheld) := by
  intro outcome withheld
  have hwithheld (h : outcome.Withheld) : withheld :=
    ⟨h.connected, ExitCode.value_ne_zero h.failed, by simp [h.calls]⟩
  obtain ⟨password, iface, hselects, hrun⟩ | ⟨hnone, hrefused⟩ := tryRun_cases options world hmock
  · refine ⟨fun password' iface' hselects' => ?_, fun h => absurd hselects (h password iface)⟩
    obtain ⟨rfl, rfl⟩ := hselects.unique hselects'
    intro devices
    have hcases := runOnInterface_cases options world password iface
    rw [← hrun] at hcases
    have hconnects {device : SshProbeResult} {logged : Bytes} (h : outcome =
        (queryDevice options world password iface (discoverDevices options world iface).stage
          device).after logged) : outcome.connected = [sshConfigOf options password device] := by
      rw [h]
      exact queryDevice_connected options world iface _ device password
    refine ⟨fun hcount hmissing => ?_, fun hcount hmem => ?_, fun device honly => ?_⟩
    · -- The selected address is not among them: no device is chosen.
      obtain ⟨refusal, logged, hrefusal, h⟩ | ⟨device, logged, hok, -⟩ := hcases
      · have hrefused : outcome = refusal.after logged := h
        exact hwithheld (hrefused ▸ (chooseDevice_error hrefusal).after logged)
      · obtain ⟨-, e, he⟩ | ⟨chosen, hchosen, hip, -⟩ := chooseDevice_select hselect iface hcount
        · cases hok.symm.trans he
        · exact absurd (hip ▸ List.mem_map_of_mem hchosen) hmissing
    · obtain ⟨hmissing, -⟩ | ⟨chosen, hchosen, hip, hok⟩ := chooseDevice_select hselect iface hcount
      · exact absurd hmem hmissing
      · obtain ⟨refusal, logged, hrefusal, -⟩ | ⟨device, logged, hdevice, h⟩ := hcases
        · cases hok.symm.trans hrefusal
        · obtain rfl := Except.ok.inj (hok.symm.trans hdevice)
          exact ⟨chosen, hchosen, hip, hconnects h⟩
    · -- One device: the selected address is not looked at.
      have hok := chooseDevice_singleton options iface honly
      obtain ⟨refusal, logged, hrefusal, -⟩ | ⟨chosen, logged, hchosen, h⟩ := hcases
      · cases hok.symm.trans hrefusal
      · obtain rfl := Except.ok.inj (hok.symm.trans hchosen)
        exact hconnects h
  · exact ⟨fun password iface h => absurd h (hnone password iface), fun _ => hwithheld hrefused⟩

/-- The one peer of the sample world is at 10.0.0.1. -/
def strayOptions : Options := { selectCandidate := "10.0.0.9" }

theorem select_tells_devices_apart_sample :
    let world := sampleWorld "secret" (.last 0 (le_refl 0))
    let device : SshProbeResult := ⟨"10.0.0.1", .sshDetected, "SSH-2.0-dropbear"⟩
    (tryRun strayOptions world).connected = [sshConfigOf strayOptions "secret" device] := by
  intro world device
  have hselects : Selects strayOptions world "secret" wiredInterface :=
    ⟨by decide, [wiredInterface], by decide, by decide⟩
  exact ((select_tells_devices_apart strayOptions world (by decide) (by decide)).1 "secret"
    wiredInterface hselects).2.2 device (by decide)

/-- A run connects to a host that was not selected and offers it the password. -/
theorem stray_select_ignored :
    let outcome := tryRun strayOptions (sampleWorld "secret" (.last 0 (le_refl 0)))
    strayOptions.selectCandidate ≠ [] ∧
      outcome.connected.map SshConfig.host = [bytes "10.0.0.1"] ∧
      bytes "10.0.0.1" ≠ strayOptions.selectCandidate ∧
      outcome.calls.countP SshCall.offersPassword = 1 := by
  decide

end DeviceDiscovery.Main
