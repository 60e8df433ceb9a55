import DeviceDiscovery.Main.Run
import DeviceDiscovery.Scanner.SweepRefinement
import DeviceDiscovery.Ssh.ClientContract

/-!
Who is handed the password.

A run connects to at most one host, and only to one that the sweep of the
deciding stage reported after reading an `SSH-` banner from it. Every way out of
`run` before that point withholds the password and ends with an error code. What
each part of `run` lets through is one lemma.
-/

namespace DeviceDiscovery.Main

open Foundation DeviceDiscovery.Platform DeviceDiscovery.Network DeviceDiscovery.Scanner
  DeviceDiscovery.Ssh DeviceDiscovery.Parser DeviceDiscovery.Output DeviceDiscovery.Threading

/-! ### Sweeps -/

/-- The sweep of a run is what the thread pool computes, whatever the schedule
and the other tasks of the pool are. -/
theorem sweepForSsh_of_schedule {τ : Type*} [DecidableEq τ] (threads : ℕ)
    (answers : ℕ → Except Bytes ProbeAnswers) (addresses : List Bytes)
    (connectTimeout bannerTimeout : ℤ) {other : τ → Except Bytes SshProbeResult}
    {probe : Fin addresses.length → Except Bytes SshProbeResult}
    (hprobe : ∀ j, probe j = (answers j).map fun os =>
      (probeSsh os (addresses.get j) connectTimeout bannerTimeout).1)
    {pool : ThreadPool (Call addresses.length τ) Empty Bytes SshProbeResult
      (ThreadPool.workerThreads threads)}
    (hpool : Reachable (ThreadPool.step (Sum.elim probe other))
      (ThreadPool.start (ThreadPool.workerThreads threads)) pool)
    (hidle : ∀ j, pool.submits (.inl j) = .idle)
    {s : Sweep addresses.length τ Bytes (ThreadPool.workerThreads threads)}
    (hs : Reachable (Sweep.step (Sum.elim probe other)) (Sweep.start pool) s)
    {found : List SshProbeResult} (hreturned : s.caller = .returned found) :
    found = sweepForSsh answers addresses connectTimeout bannerTimeout := by
  have hn := ThreadPool.workerThreads_pos threads
  have hinv : Sweep.Inv (Sum.elim probe other) s :=
    hs.invariant (Sweep.Inv.start hn hpool hidle) fun _ _ _ h hstep => h.step hn hstep
  rw [hinv.found_eq hreturned, sweepForSsh, funext hprobe]

/-- A probe of the sweep connected to the device's address and read bytes that
begin with `SSH-`. -/
def Reports (answers : ℕ → Except Bytes ProbeAnswers) (addresses : List Bytes)
    (connectTimeout bannerTimeout : ℤ) (device : SshProbeResult) : Prop :=
  ∃ (j : Fin addresses.length) (os : ProbeAnswers), answers j = .ok os ∧
    device = (probeSsh os (addresses.get j) connectTimeout bannerTimeout).1 ∧
    device.ip = addresses.get j ∧ device.status = .sshDetected ∧
    let attempt := tcpConnect os.connect device.ip connectTimeout
    attempt.result = .connected ∧
      isSshIdentification (readLoop attempt.outSocket
        (deadlineOf os.banner.start bannerTimeout) [] os.banner.turns).1 = true

theorem reports_of_mem_sweepForSsh {answers : ℕ → Except Bytes ProbeAnswers}
    {addresses : List Bytes} {connectTimeout bannerTimeout : ℤ} {device : SshProbeResult}
    (h : device ∈ sweepForSsh answers addresses connectTimeout bannerTimeout) :
    Reports answers addresses connectTimeout bannerTimeout device := by
  obtain ⟨j, -, hj⟩ := List.mem_filterMap.mp h
  cases hos : answers j with
  | error what => simp [hos, Except.map, detected] at hj
  | ok os =>
      simp only [hos, Except.map, detected] at hj
      split at hj
      · rename_i hssh
        obtain rfl := Option.some.inj hj
        obtain ⟨hip, hconnected, hid⟩ := probeSsh_detected hssh
        refine ⟨j, os, hos, rfl, hip, by simpa [SshProbeResult.isSsh] using hssh, ?_⟩
        rw [hip]
        exact ⟨hconnected, hid⟩
      · cases hj

section Stages

variable (options : Options) (world : World) (iface : NetworkInterface)

/-- The addresses of stage A. -/
def subnetHosts : List Bytes := enumerateSubnetHosts iface kMinimumScanPrefix

/-- The addresses of stage B. -/
def linkHosts : List Bytes :=
  (discoverLinkLayerHosts world.env.formatMessage world.link iface
    options.layer2Window).observations.map L2Observation.ip

def subnetDevices : List SshProbeResult :=
  sweepForSsh world.subnetProbes (subnetHosts iface) options.connectTimeout options.bannerTimeout

def linkDevices : List SshProbeResult :=
  sweepForSsh world.linkProbes (linkHosts options world iface) options.connectTimeout
    options.bannerTimeout

/-- A skipped stage is one with nothing to sweep. -/
theorem stageASubnetScan_devices :
    (stageASubnetScan options world iface).devices = subnetDevices options world iface := by
  unfold stageASubnetScan subnetDevices subnetHosts
  dsimp only
  split
  · rename_i hnone
    rw [hnone]
    rfl
  · rfl

theorem stageBLayer2_devices :
    (stageBLayer2 options world iface).devices = linkDevices options world iface := by
  unfold stageBLayer2 linkDevices linkHosts
  dsimp only
  split
  · rename_i hnone
    rw [hnone]
    rfl
  · rfl

/-- Stage B decides when stage A found nothing. -/
theorem discoverDevices_devices :
    (subnetDevices options world iface ≠ [] ∧
      (discoverDevices options world iface).found.devices = subnetDevices options world iface) ∨
    (subnetDevices options world iface = [] ∧
      (discoverDevices options world iface).found.devices = linkDevices options world iface) := by
  unfold discoverDevices
  dsimp only
  rw [stageASubnetScan_devices]
  split
  · exact .inr ⟨by assumption, stageBLayer2_devices options world iface⟩
  · exact .inl ⟨by assumption, stageASubnetScan_devices options world iface⟩

end Stages

/-! ### Refusals -/

/-- The run ends with an error code, has connected to nothing and reports
nothing. -/
structure Outcome.Withheld (outcome : Outcome) : Prop where
  connected : outcome.connected = []
  calls : outcome.calls = []
  parsed : outcome.parsed = none
  stdout : outcome.stdout = []
  failed : outcome.exitCode ≠ .success

theorem Outcome.Withheld.after {outcome : Outcome} (h : outcome.Withheld) (stderr : Bytes) :
    (outcome.after stderr).Withheld :=
  ⟨h.connected, h.calls, h.parsed, h.stdout, h.failed⟩

theorem refuse_withheld (stderr : Bytes) {exitCode : ExitCode} (h : exitCode ≠ .success) :
    (refuse stderr exitCode).Withheld :=
  ⟨rfl, rfl, rfl, rfl, h⟩

theorem ExitCode.value_ne_zero {exitCode : ExitCode} (h : exitCode ≠ .success) :
    exitCode.value ≠ 0 := by
  cases exitCode <;> first | exact absurd rfl h | exact Nat.succ_ne_zero _

theorem configuredPassword_ok {options : Options} {world : World} {password : Bytes}
    (h : configuredPassword options world = .ok password) : password ≠ [] := by
  unfold configuredPassword at h
  split at h
  · split at h
    · cases h
    · rename_i hpassword
      rw [← Except.ok.inj h]
      exact hpassword
  · split at h
    · cases h
    · cases h
    · rename_i hempty _
      rw [← Except.ok.inj h]
      rintro rfl
      exact hempty rfl

theorem configuredPassword_error {options : Options} {world : World} {outcome : Outcome}
    (h : configuredPassword options world = .error outcome) : outcome.Withheld := by
  unfold configuredPassword at h
  split at h
  · split at h
    · rw [← Except.error.inj h]
      exact refuse_withheld _ (by decide)
    · cases h
  · split at h
    · rw [← Except.error.inj h]
      exact refuse_withheld _ (by decide)
    · rw [← Except.error.inj h]
      exact refuse_withheld _ (by decide)
    · cases h

theorem soleCandidate_error {candidates : List NetworkInterface} {outcome : Outcome}
    (h : soleCandidate candidates = .error outcome) : outcome.Withheld := by
  unfold soleCandidate at h
  split at h
  · rw [← Except.error.inj h]
    exact refuse_withheld _ (by decide)
  · cases h
  · rw [← Except.error.inj h]
    exact refuse_withheld _ (by decide)

theorem soleCandidate_ok {candidates : List NetworkInterface} {iface : NetworkInterface}
    (h : soleCandidate candidates = .ok iface) : candidates = [iface] := by
  unfold soleCandidate at h
  split at h
  · cases h
  · rw [Except.ok.inj h]
  · cases h

/-- What a run has settled when it starts to look for devices. -/
structure Selects (options : Options) (world : World) (password : Bytes)
    (iface : NetworkInterface) : Prop where
  password : configuredPassword options world = .ok password
  iface : ∃ candidates,
    discoverCandidateInterfaces world.env.formatMessage world.adapters = .ok candidates ∧
      hintedCandidates options candidates = [iface]

theorem Selects.unique {options : Options} {world : World} {password password' : Bytes}
    {iface iface' : NetworkInterface} (h : Selects options world password iface)
    (h' : Selects options world password' iface') : password = password' ∧ iface = iface' := by
  obtain ⟨candidates, hcandidates, honly⟩ := h.iface
  obtain ⟨candidates', hcandidates', honly'⟩ := h'.iface
  obtain rfl := Except.ok.inj (hcandidates.symm.trans hcandidates')
  exact ⟨Except.ok.inj (h.password.symm.trans h'.password),
    List.singleton_inj.mp (honly.symm.trans honly')⟩

/-- How far a run gets: to the selected interface, or to a refusal before. -/
theorem tryRun_cases (options : Options) (world : World) (hmock : options.mockIfconfigFile = []) :
    (∃ password iface, Selects options world password iface ∧
      tryRun options world = runOnInterface options world password iface) ∨
    ((∀ password iface, ¬Selects options world password iface) ∧
      (tryRun options world).Withheld) := by
  unfold tryRun run selectInterface
  rw [if_neg (not_not.mpr hmock)]
  cases hpassword : configuredPassword options world with
  | error outcome =>
      refine .inr ⟨fun password iface h => ?_, configuredPassword_error hpassword⟩
      cases hpassword.symm.trans h.password
  | ok password =>
      cases hcandidates : discoverCandidateInterfaces world.env.formatMessage world.adapters with
      | error what =>
          refine .inr ⟨fun password iface h => ?_, refuse_withheld _ (by decide)⟩
          obtain ⟨candidates, h, -⟩ := h.iface
          cases hcandidates.symm.trans h
      | ok candidates =>
          cases hselection : soleCandidate (hintedCandidates options candidates) with
          | error outcome =>
              simp only [Except.map, hselection]
              refine .inr ⟨fun password iface h => ?_, soleCandidate_error hselection⟩
              obtain ⟨found, hfound, honly⟩ := h.iface
              obtain rfl := Except.ok.inj (hcandidates.symm.trans hfound)
              rw [honly] at hselection
              cases hselection
          | ok iface =>
              simp only [Except.map, hselection]
              exact .inl ⟨password, iface,
                ⟨hpassword, candidates, hcandidates, soleCandidate_ok hselection⟩, rfl⟩

theorem chooseDevice_error {options : Options} {iface : NetworkInterface} {found : Stage}
    {outcome : Outcome} (h : chooseDevice options iface found = .error outcome) :
    outcome.Withheld := by
  unfold chooseDevice at h
  split at h
  · rw [← Except.error.inj h]
    exact refuse_withheld _ (by decide)
  · cases h
  · split at h
    · split at h
      · cases h
      · rw [← Except.error.inj h]
        exact refuse_withheld _ (by decide)
    · rw [← Except.error.inj h]
      exact refuse_withheld _ (by decide)

/-- The device is the only one found, or the selected one. -/
theorem chooseDevice_ok {options : Options} {iface : NetworkInterface} {found : Stage}
    {device : SshProbeResult} (h : chooseDevice options iface found = .ok device) :
    device ∈ found.devices ∧ (found.devices = [device] ∨
      options.selectCandidate ≠ [] ∧ device.ip = options.selectCandidate) := by
  unfold chooseDevice at h
  split at h
  · cases h
  · rename_i only honly
    obtain rfl := Except.ok.inj h
    exact ⟨by simp [honly], .inl honly⟩
  · split at h
    · rename_i hselect
      split at h
      · rename_i chosen hchosen
        obtain rfl := Except.ok.inj h
        exact ⟨List.mem_of_find?_eq_some hchosen, .inr ⟨hselect,
          by simpa using List.find?_some hchosen⟩⟩
      · cases h
    · cases h

/-! ### The client -/

section Client

variable (options : Options) (world : World) (iface : NetworkInterface) (stage : Bytes)
  (device : SshProbeResult)

theorem reportOutput_quiet (hostKeyStatus : Bytes) (output : CommandOutput) :
    (reportOutput options iface stage device hostKeyStatus output).connected = [] := by
  unfold reportOutput
  split
  · rfl
  · dsimp only
    split <;> rfl

theorem runCommands_no_offer (client : SshClient) :
    ∀ call ∈ (runCommands options world client).calls, call.offersPassword = false := by
  have hfirst := (execute_keeps client "ifconfig" (world.execute "ifconfig")).2.2
  unfold runCommands
  dsimp only
  split
  · exact hfirst
  · exact List.forall_mem_append.mpr ⟨hfirst,
      (execute_keeps _ "ip -4 addr" (world.execute "ip -4 addr")).2.2⟩

theorem reportDevice_no_offer (client : SshClient) :
    ∀ call ∈ (reportDevice options world iface stage device client).calls,
      call.offersPassword = false :=
  List.forall_mem_append.mpr ⟨List.forall_mem_append.mpr
    ⟨runCommands_no_offer options world client, disconnect_no_offer _⟩, disconnect_no_offer _⟩

/-- The one client of a run is given the device's address and the password. -/
theorem queryDevice_connected (password : Bytes) :
    (queryDevice options world password iface stage device).connected =
      [sshConfigOf options password device] := by
  unfold queryDevice
  dsimp only
  split
  · rfl
  · exact congrArg _ (reportOutput_quiet options iface stage device _ _)

theorem queryDevice_offersAtMostOnce (password : Bytes) :
    OffersAtMostOnce (sshConfigOf options password device)
      (queryDevice options world password iface stage device).calls := by
  have hconnect := connectAndAuthenticate_offersAtMostOnce world.env none
    { config := sshConfigOf options password device } world.auth
  unfold queryDevice
  dsimp only
  split
  · exact hconnect.before (disconnect_no_offer _)
  · exact hconnect.before (reportDevice_no_offer options world iface stage device _)

end Client

/-! ### The run -/

/-- What justifies a connection to `config.host`. -/
structure Admitted (options : Options) (world : World) (config : SshConfig) : Prop where
  password : configuredPassword options world = .ok config.password ∧ config.password ≠ []
  device : ∃ candidates iface device found,
    discoverCandidateInterfaces world.env.formatMessage world.adapters = .ok candidates ∧
    hintedCandidates options candidates = [iface] ∧
    (subnetDevices options world iface ≠ [] ∧ found = subnetDevices options world iface ∧
        Reports world.subnetProbes (subnetHosts iface) options.connectTimeout
          options.bannerTimeout device ∨
      subnetDevices options world iface = [] ∧ found = linkDevices options world iface ∧
        Reports world.linkProbes (linkHosts options world iface) options.connectTimeout
          options.bannerTimeout device) ∧
    config.host = device.ip ∧ device ∈ found ∧
    (found = [device] ∨ options.selectCandidate ≠ [] ∧ config.host = options.selectCandidate)

/-- What a run may hand out. -/
structure Outcome.Gated (options : Options) (world : World) (outcome : Outcome) : Prop where
  admitted : ∀ config ∈ outcome.connected, Admitted options world config
  withheld : outcome.connected = [] →
    outcome.exitCode.value ≠ 0 ∧ ∀ call ∈ outcome.calls, call.offersPassword = false
  once : outcome.connected.length ≤ 1 ∧ outcome.calls.countP SshCall.offersPassword ≤ 1

theorem Outcome.Withheld.gated {options : Options} {world : World} {outcome : Outcome}
    (h : outcome.Withheld) : outcome.Gated options world where
  admitted := by
    rw [h.connected]
    simp
  withheld _ := ⟨ExitCode.value_ne_zero h.failed, by simp [h.calls]⟩
  once := by
    rw [h.connected, h.calls]
    exact ⟨Nat.zero_le 1, Nat.zero_le 1⟩

/-- A run with an interface ends with the refusal to choose a device, or it is that of
the client of the chosen one; what was logged before comes first. -/
theorem runOnInterface_cases (options : Options) (world : World) (password : Bytes)
    (iface : NetworkInterface) :
    (∃ outcome logged, chooseDevice options iface (discoverDevices options world iface).found =
        .error outcome ∧
      runOnInterface options world password iface = outcome.after logged) ∨
    ∃ device logged, chooseDevice options iface (discoverDevices options world iface).found =
        .ok device ∧
      runOnInterface options world password iface = (queryDevice options world password iface
        (discoverDevices options world iface).stage device).after logged := by
  unfold runOnInterface
  dsimp only
  cases chooseDevice options iface (discoverDevices options world iface).found with
  | error outcome => exact .inl ⟨outcome, _, rfl, rfl⟩
  | ok device => exact .inr ⟨device, _, rfl, rfl⟩

theorem runOnInterface_gated {options : Options} {world : World} {password : Bytes}
    {iface : NetworkInterface} {candidates : List NetworkInterface}
    (hpassword : configuredPassword options world = .ok password)
    (hcandidates : discoverCandidateInterfaces world.env.formatMessage world.adapters =
      .ok candidates)
    (honly : hintedCandidates options candidates = [iface]) :
    (runOnInterface options world password iface).Gated options world := by
  obtain ⟨outcome, logged, hchoice, hrun⟩ | ⟨device, logged, hchoice, hrun⟩ :=
    runOnInterface_cases options world password iface
  · rw [hrun]
    exact ((chooseDevice_error hchoice).after logged).gated
  · rw [hrun]
    obtain ⟨hmem, hselected⟩ := chooseDevice_ok hchoice
    have hconnected := queryDevice_connected options world iface
      (discoverDevices options world iface).stage device password
    have hoffer := queryDevice_offersAtMostOnce options world iface
      (discoverDevices options world iface).stage device password
    refine ⟨?_, fun hnone => ?_, ?_, hoffer.countP_le⟩
    · intro config hconfig
      obtain rfl := List.mem_singleton.mp (hconnected ▸ hconfig)
      refine ⟨⟨hpassword, configuredPassword_ok hpassword⟩, candidates, iface, device, _,
        hcandidates, honly, ?_, rfl, hmem, hselected⟩
      -- The device was found by the stage that decided.
      obtain ⟨hfound, hdevices⟩ | ⟨hnone, hdevices⟩ := discoverDevices_devices options world iface
      · exact .inl ⟨hfound, hdevices, reports_of_mem_sweepForSsh
          (show device ∈ subnetDevices options world iface from hdevices ▸ hmem)⟩
      · exact .inr ⟨hnone, hdevices, reports_of_mem_sweepForSsh
          (show device ∈ linkDevices options world iface from hdevices ▸ hmem)⟩
    · exact absurd (hconnected.symm.trans hnone) (List.cons_ne_nil _ _)
    · exact (congrArg List.length hconnected).le

/-- Whatever the answers are: a host is handed the password only when it is
admitted, one host at most is, and a run that hands out nothing fails. -/
theorem tryRun_gated (options : Options) (world : World) (hmock : options.mockIfconfigFile = []) :
    (∀ config ∈ (tryRun options world).connected, Admitted options world config) ∧
      ((tryRun options world).connected = [] → (tryRun options world).exitCode.value ≠ 0 ∧
        ∀ call ∈ (tryRun options world).calls, call.offersPassword = false) ∧
      (tryRun options world).connected.length ≤ 1 ∧
      (tryRun options world).calls.countP SshCall.offersPassword ≤ 1 := by
  have hgated : (tryRun options world).Gated options world := by
    obtain ⟨password, iface, hselects, hrun⟩ | ⟨-, hwithheld⟩ := tryRun_cases options world hmock
    · obtain ⟨candidates, hcandidates, honly⟩ := hselects.iface
      rw [hrun]
      exact runOnInterface_gated hselects.password hcandidates honly
    · exact hwithheld.gated
  exact ⟨hgated.admitted, hgated.withheld, hgated.once⟩

theorem tryRun_gated_sample :
    (tryRun {} (sampleWorld "secret" (.last 0 (le_refl 0)))).connected.map SshConfig.host =
        [bytes "10.0.0.1"] ∧
      ∀ config ∈ (tryRun {} (sampleWorld "secret" (.last 0 (le_refl 0)))).connected,
        Admitted {} (sampleWorld "secret" (.last 0 (le_refl 0))) config :=
  ⟨by decide, (tryRun_gated {} (sampleWorld "secret" (.last 0 (le_refl 0))) rfl).1⟩

end DeviceDiscovery.Main
