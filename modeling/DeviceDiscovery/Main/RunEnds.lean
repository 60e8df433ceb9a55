import DeviceDiscovery.Main.FailureCodes
import DeviceDiscovery.Main.InterfaceCount

/-!
How a run ends (`main.cpp`, `run`).

A run without a capture file ends in one of the ways of `RunEnd`. Each of them has
a condition on the command line and on what the operating system, the link and
the peers answer (`EndsIn`), and fixes the exit code and what is printed on
stdout (`tryRun_endsIn`). Some condition always holds (`exists_endsIn`).
-/

namespace DeviceDiscovery.Main

open Foundation DeviceDiscovery.Platform DeviceDiscovery.Network DeviceDiscovery.Scanner
  DeviceDiscovery.Ssh DeviceDiscovery.Parser DeviceDiscovery.Output

inductive RunEnd where
  | noPassword
  | adaptersUnread
  | noInterface
  | multipleInterfaces
  | noDevice
  | multipleDevices
  | selectionMissing
  | connectionFailed
  | authenticationFailed
  | commandFailed
  | outputUnparsed
  | reported (report : DiscoveryReport)
  deriving DecidableEq, Repr

def RunEnd.exitCode : RunEnd → ExitCode
  | .noPassword | .selectionMissing => .usageError
  | .noInterface => .noInterface
  | .multipleInterfaces => .multipleInterfaces
  | .adaptersUnread | .noDevice => .noDevice
  | .multipleDevices => .multipleDevices
  | .connectionFailed => .sshConnectionFailed
  | .authenticationFailed => .sshAuthFailed
  | .commandFailed => .remoteCommandFailed
  | .outputUnparsed => .parseFailed
  | .reported report =>
      if report.interfaces.length = 2 then .success else .unexpectedInterfaceCount

def RunEnd.stdout (options : Options) : RunEnd → Bytes
  | .reported report => emit options report
  | _ => []

/-! ### The conditions -/

section Conditions

variable (options : Options) (world : World)

/-- The servers found by the stage that decides. -/
def foundDevices (iface : NetworkInterface) : List SshProbeResult :=
  (discoverDevices options world iface).found.devices

/-- The device is the only one, or the first one that `--select` names. -/
def Chooses (devices : List SshProbeResult) (device : SshProbeResult) : Prop :=
  devices = [device] ∨ 2 ≤ devices.length ∧ options.selectCandidate ≠ [] ∧
    devices.find? (fun other => other.ip = options.selectCandidate) = some device

/-- The command whose output is used. -/
def usedCommand : Option Bytes :=
  if Passes (world.execute "ifconfig") then some (bytes "ifconfig")
  else if Passes (world.execute "ip -4 addr") then some (bytes "ip -4 addr")
  else none

/-- The report on the device: its parts come from the interface, the probe, the
host key check and the output of the command. -/
def reportOn (password : Bytes) (iface : NetworkInterface) (device : SshProbeResult)
    (source : Bytes) : DiscoveryReport :=
  let entries := parseOutput source (commandOutput world source)
  { interfaceName := iface.name
    sshIp := device.ip
    sshBanner := device.banner
    hostKeyStatus := statusOfHostKey world.env (sshConfigOf options password device) world.auth
    discoveryStage := (discoverDevices options world iface).stage
    interfaces := entries
    warnings := if entries.length = 2 then [] else [countWarning entries.length] }

/-- The run has a device to connect to. -/
structure Targets (password : Bytes) (iface : NetworkInterface) (device : SshProbeResult) :
    Prop where
  selects : Selects options world password iface
  chooses : Chooses options (foundDevices options world iface) device

/-- The first phase of the connection to the device that fails. -/
def failureAt (password : Bytes) (device : SshProbeResult) : Option ConnectPhase :=
  failingPhase world.env (sshConfigOf options password device) world.auth

inductive EndsIn : RunEnd → Prop where
  | noPassword (h : ∀ password, configuredPassword options world ≠ .ok password) :
      EndsIn .noPassword
  | adaptersUnread {password what : Bytes}
      (hpassword : configuredPassword options world = .ok password)
      (hfailed : discoverCandidateInterfaces world.env.formatMessage world.adapters =
        .error what) : EndsIn .adaptersUnread
  | noInterface {password : Bytes} {candidates : List NetworkInterface}
      (hpassword : configuredPassword options world = .ok password)
      (hcandidates : discoverCandidateInterfaces world.env.formatMessage world.adapters =
        .ok candidates)
      (hnone : hintedCandidates options candidates = []) : EndsIn .noInterface
  | multipleInterfaces {password : Bytes} {candidates : List NetworkInterface}
      (hpassword : configuredPassword options world = .ok password)
      (hcandidates : discoverCandidateInterfaces world.env.formatMessage world.adapters =
        .ok candidates)
      (hmany : 2 ≤ (hintedCandidates options candidates).length) : EndsIn .multipleInterfaces
  | noDevice {password : Bytes} {iface : NetworkInterface}
      (h : Selects options world password iface)
      (hnone : foundDevices options world iface = []) : EndsIn .noDevice
  | multipleDevices {password : Bytes} {iface : NetworkInterface}
      (h : Selects options world password iface)
      (hmany : 2 ≤ (foundDevices options world iface).length)
      (hselect : options.selectCandidate = []) : EndsIn .multipleDevices
  | selectionMissing {password : Bytes} {iface : NetworkInterface}
      (h : Selects options world password iface)
      (hmany : 2 ≤ (foundDevices options world iface).length)
      (hselect : options.selectCandidate ≠ [])
      (hmissing : ∀ device ∈ foundDevices options world iface,
        device.ip ≠ options.selectCandidate) : EndsIn .selectionMissing
  | connectionFailed {password : Bytes} {iface : NetworkInterface} {device : SshProbeResult}
      {phase : ConnectPhase} (h : Targets options world password iface device)
      (hphase : failureAt options world password device = some phase)
      (hplain : ¬(phase = .authentication ∨ Misleads world.env world.auth phase)) :
      EndsIn .connectionFailed
  | authenticationFailed {password : Bytes} {iface : NetworkInterface} {device : SshProbeResult}
      {phase : ConnectPhase} (h : Targets options world password iface device)
      (hphase : failureAt options world password device = some phase)
      (htold : phase = .authentication ∨ Misleads world.env world.auth phase) :
      EndsIn .authenticationFailed
  | commandFailed {password : Bytes} {iface : NetworkInterface} {device : SshProbeResult}
      (h : Targets options world password iface device)
      (hgranted : failureAt options world password device = none)
      (hnone : usedCommand world = none) : EndsIn .commandFailed
  | outputUnparsed {password source : Bytes} {iface : NetworkInterface} {device : SshProbeResult}
      (h : Targets options world password iface device)
      (hgranted : failureAt options world password device = none)
      (hsource : usedCommand world = some source)
      (hempty : parseOutput source (commandOutput world source) = []) : EndsIn .outputUnparsed
  | reported {password source : Bytes} {iface : NetworkInterface} {device : SshProbeResult}
      (h : Targets options world password iface device)
      (hgranted : failureAt options world password device = none)
      (hsource : usedCommand world = some source)
      (hentries : parseOutput source (commandOutput world source) ≠ []) :
      EndsIn (.reported (reportOn options world password iface device source))

end Conditions

/-! ### The choices of a run -/

/-- The exit code and the output of a run agree with its end. -/
structure Outcome.Shows (options : Options) (outcome : Outcome) (e : RunEnd) : Prop where
  exitCode : outcome.exitCode = e.exitCode
  stdout : outcome.stdout = e.stdout options

theorem Outcome.Shows.after {options : Options} {outcome : Outcome} {e : RunEnd}
    (h : outcome.Shows options e) (stderr : Bytes) : (outcome.after stderr).Shows options e :=
  ⟨h.exitCode, h.stdout⟩

theorem runCommands_client (options : Options) (world : World) (client : SshClient) :
    (runCommands options world client).client = client := by
  have hfirst := (execute_keeps client "ifconfig" (world.execute "ifconfig")).1
  have hsecond := (execute_keeps client "ip -4 addr" (world.execute "ip -4 addr")).1
  unfold runCommands
  dsimp only
  split
  · exact hfirst
  · rw [hfirst]
    exact hsecond

theorem two_le_length {α : Type*} {xs : List α} (hnil : xs ≠ []) (hone : ∀ x, xs ≠ [x]) :
    2 ≤ xs.length := by
  match xs with
  | [] => exact absurd rfl hnil
  | [x] => exact absurd rfl (hone x)
  | _ :: _ :: _ => simp

theorem soleCandidate_of_many {candidates : List NetworkInterface} (h : 2 ≤ candidates.length)
    (options : Options) :
    ∃ outcome, soleCandidate candidates = .error outcome ∧
      outcome.Shows options .multipleInterfaces := by
  match candidates with
  | _ :: _ :: _ => exact ⟨_, rfl, rfl, rfl⟩

section Devices

variable {options : Options} {found : Stage} (iface : NetworkInterface)

theorem chooseDevice_of_nil (h : found.devices = []) :
    ∃ outcome, chooseDevice options iface found = .error outcome ∧
      outcome.Shows options .noDevice := by
  unfold chooseDevice
  rw [h]
  exact ⟨_, rfl, rfl, rfl⟩

theorem Chooses.mem {devices : List SshProbeResult} {device : SshProbeResult}
    (h : Chooses options devices device) : device ∈ devices := by
  rcases h with rfl | ⟨-, -, hfind⟩
  · exact List.mem_singleton_self device
  · exact List.mem_of_find?_eq_some hfind

/-- Of several devices one is chosen by its address. -/
theorem Chooses.selected {devices : List SshProbeResult} {device : SshProbeResult}
    (h : Chooses options devices device) (hmany : 2 ≤ devices.length) :
    options.selectCandidate ≠ [] ∧ device.ip = options.selectCandidate := by
  rcases h with rfl | ⟨-, hselect, hfind⟩
  · exact absurd hmany (by simp)
  · exact ⟨hselect, by simpa using List.find?_some hfind⟩

variable (options) in
/-- With several devices it is `--select` that decides. -/
theorem chooseDevice_of_many (h : 2 ≤ found.devices.length) :
    (options.selectCandidate = [] ∧ ∃ outcome,
        chooseDevice options iface found = .error outcome ∧
          outcome.Shows options .multipleDevices) ∨
      (options.selectCandidate ≠ [] ∧
        (∀ device ∈ found.devices, device.ip ≠ options.selectCandidate) ∧ ∃ outcome,
          chooseDevice options iface found = .error outcome ∧
            outcome.Shows options .selectionMissing) ∨
      ∃ device, Chooses options found.devices device ∧
        chooseDevice options iface found = .ok device := by
  have hnil : found.devices ≠ [] := by
    intro hnil
    simp [hnil] at h
  have hone (device : SshProbeResult) : found.devices ≠ [device] := by
    intro hone
    simp [hone] at h
  unfold chooseDevice
  split
  · rename_i hdevices
    exact absurd hdevices hnil
  · rename_i device hdevices
    exact absurd hdevices (hone device)
  · split
    · rename_i hselect
      split
      · rename_i device hfind
        exact .inr (.inr ⟨device, .inr ⟨h, hselect, hfind⟩, rfl⟩)
      · rename_i hfind
        refine .inr (.inl ⟨hselect, fun device hmem => ?_, _, rfl, rfl, rfl⟩)
        simpa using List.find?_eq_none.mp hfind device hmem
    · rename_i hselect
      exact .inl ⟨not_not.mp hselect, _, rfl, rfl, rfl⟩

theorem chooseDevice_of_chooses {device : SshProbeResult}
    (h : Chooses options found.devices device) : chooseDevice options iface found = .ok device := by
  rcases id h with hone | ⟨hmany, -, hfind⟩
  · unfold chooseDevice
    rw [hone]
  · obtain ⟨hselect, hip⟩ := h.selected hmany
    obtain ⟨hunset, -⟩ | ⟨-, hmissing, -⟩ | ⟨other, hother, hchosen⟩ :=
      chooseDevice_of_many options iface hmany
    · exact absurd hunset hselect
    · exact absurd hip (hmissing device h.mem)
    · rcases hother with hone | ⟨-, -, hfind'⟩
      · simp [hone] at hmany
      · obtain rfl := Option.some.inj (hfind.symm.trans hfind')
        exact hchosen

end Devices

/-! ### The device -/

theorem reportInterfaces_stdout (options : Options) (report : DiscoveryReport)
    (parsed : Option Bytes) (hwarnings : report.warnings = []) :
    (reportInterfaces options report parsed).stdout = emit options { report with
      warnings := if report.interfaces.length = 2 then []
        else [countWarning report.interfaces.length] } := by
  unfold reportInterfaces
  by_cases htwo : report.interfaces.length = 2
  · simp [htwo, ← hwarnings]
  · simp [htwo]

section Device

variable {options : Options} {world : World} {password : Bytes} {iface : NetworkInterface}
  {device : SshProbeResult}

/-- A connection that fails shows nothing. -/
theorem queryDevice_of_failure (stage : Bytes) {phase : ConnectPhase}
    (h : failureAt options world password device = some phase) :
    let outcome := queryDevice options world password iface stage device
    let told := phase = .authentication ∨ Misleads world.env world.auth phase
    (told → outcome.Shows options .authenticationFailed) ∧
      (¬told → outcome.Shows options .connectionFailed) := by
  intro outcome told
  obtain ⟨hauth, hconnection, -⟩ :=
    queryDevice_of_failsAt options world password iface stage device h
  have hstdout : outcome.stdout = [] := by
    have hends : EndsAs world.env (sshConfigOf options password device) world.auth
        (failureAt options world password device) (SshClient.connectAndAuthenticate world.env none
          { config := sshConfigOf options password device } world.auth) :=
      connectAndAuthenticate_endsAs { config := sshConfigOf options password device }
    rw [h] at hends
    show (queryDevice options world password iface stage device).stdout = []
    simp only [queryDevice, hends.result, Bool.not_false, if_true]
    rfl
  exact ⟨fun htold => ⟨hauth.mpr htold, hstdout⟩, fun hplain => ⟨hconnection.mpr hplain, hstdout⟩⟩

/-- With a granted connection it is the output of the commands that decides. -/
theorem queryDevice_of_granted (iface : NetworkInterface) (stage : Bytes)
    (h : Grants world.env (sshConfigOf options password device) world.auth) :
    ∃ output : CommandOutput, output.source = usedCommand world ∧
      (∀ source, output.source = some source → output.stdoutData = commandOutput world source) ∧
      let outcome := queryDevice options world password iface stage device
      let reported := reportOutput options iface stage device
        (statusOfHostKey world.env (sshConfigOf options password device) world.auth) output
      outcome.exitCode = reported.exitCode ∧ outcome.stdout = reported.stdout := by
  have hresult : (SshClient.connectAndAuthenticate world.env none
      { config := sshConfigOf options password device } world.auth).result = true := by
    have hends : EndsAs world.env (sshConfigOf options password device) world.auth
        (failingPhase world.env (sshConfigOf options password device) world.auth)
        (SshClient.connectAndAuthenticate world.env none
          { config := sshConfigOf options password device } world.auth) :=
      connectAndAuthenticate_endsAs { config := sshConfigOf options password device }
    rw [failingPhase_eq_none_iff.mpr h] at hends
    exact hends
  have hclient := h.client
  unfold queryDevice
  dsimp only
  generalize SshClient.connectAndAuthenticate world.env none
    { config := sshConfigOf options password device } world.auth = connect at hresult hclient ⊢
  have hsession : connect.client.session ≠ nullptr := by
    rw [hclient]
    exact h.session
  have hkeep : (runCommands options world connect.client).client = connect.client :=
    runCommands_client options world connect.client
  have hstatus : connect.client.hostKeyStatus =
      statusOfHostKey world.env (sshConfigOf options password device) world.auth := by
    rw [hclient]
  refine ⟨(runCommands options world connect.client).result, runCommands_source options world
    hsession, fun source => runCommands_output options world hsession, ?_⟩
  have hreported : (reportDevice options world iface stage device connect.client).exitCode =
      (reportOutput options iface stage device connect.client.hostKeyStatus
        (runCommands options world connect.client).result).exitCode ∧
      (reportDevice options world iface stage device connect.client).stdout =
        (reportOutput options iface stage device connect.client.hostKeyStatus
          (runCommands options world connect.client).result).stdout := by
    unfold reportDevice
    dsimp only
    rw [hkeep]
    exact ⟨rfl, rfl⟩
  rw [← hstatus, hresult]
  exact hreported

end Device

/-! ### The run -/

section Run

variable {options : Options} {world : World} {password : Bytes} {iface : NetworkInterface}
  {device : SshProbeResult} {outcome : Outcome} {e : RunEnd}

theorem tryRun_of_noPassword (hmock : options.mockIfconfigFile = [])
    (h : configuredPassword options world = .error outcome) :
    tryRun options world = outcome := by
  rw [tryRun, run, if_neg (not_not.mpr hmock), h]

theorem tryRun_of_password (hmock : options.mockIfconfigFile = [])
    (h : configuredPassword options world = .ok password) :
    tryRun options world =
      match discoverCandidateInterfaces world.env.formatMessage world.adapters with
      | .error what => refuse (bytes "Error: " ++ what ++ bytes "\n") .noDevice
      | .ok candidates =>
          match soleCandidate (hintedCandidates options candidates) with
          | .error outcome => outcome
          | .ok iface => runOnInterface options world password iface := by
  rw [tryRun, run, if_neg (not_not.mpr hmock), h, selectInterface]
  cases discoverCandidateInterfaces world.env.formatMessage world.adapters with
  | error what => rfl
  | ok candidates => rfl

theorem tryRun_of_selects (hmock : options.mockIfconfigFile = [])
    (h : Selects options world password iface) :
    tryRun options world = runOnInterface options world password iface := by
  obtain ⟨candidates, hcandidates, honly⟩ := h.iface
  rw [tryRun_of_password hmock h.password, hcandidates]
  dsimp only
  rw [honly]
  rfl

theorem configuredPassword_shows (h : configuredPassword options world = .error outcome) :
    outcome.Shows options .noPassword := by
  unfold configuredPassword at h
  split at h
  · split at h
    · rw [← Except.error.inj h]
      exact ⟨rfl, rfl⟩
    · cases h
  · split at h
    · rw [← Except.error.inj h]
      exact ⟨rfl, rfl⟩
    · rw [← Except.error.inj h]
      exact ⟨rfl, rfl⟩
    · cases h

theorem runOnInterface_of_refusal
    (h : ∃ outcome, chooseDevice options iface (discoverDevices options world iface).found =
      .error outcome ∧ outcome.Shows options e) :
    (runOnInterface options world password iface).Shows options e := by
  obtain ⟨outcome, hchoice, hshows⟩ := h
  unfold runOnInterface
  dsimp only
  rw [hchoice]
  exact hshows.after _

theorem runOnInterface_of_chooses
    (h : Chooses options (foundDevices options world iface) device)
    (hquery : (queryDevice options world password iface (discoverDevices options world iface).stage
      device).Shows options e) :
    (runOnInterface options world password iface).Shows options e := by
  unfold runOnInterface
  dsimp only
  rw [chooseDevice_of_chooses iface h]
  exact hquery.after _

theorem Targets.shows (hmock : options.mockIfconfigFile = [])
    (h : Targets options world password iface device)
    (hquery : (queryDevice options world password iface (discoverDevices options world iface).stage
      device).Shows options e) : (tryRun options world).Shows options e := by
  rw [tryRun_of_selects hmock h.selects]
  exact runOnInterface_of_chooses h.chooses hquery

/-- A run shows what the end that it comes to says. -/
theorem EndsIn.shows (hmock : options.mockIfconfigFile = []) (h : EndsIn options world e) :
    (tryRun options world).Shows options e := by
  cases h with
  | noPassword h =>
      cases hpassword : configuredPassword options world with
      | ok password => exact absurd hpassword (h password)
      | error outcome =>
          rw [tryRun_of_noPassword hmock hpassword]
          exact configuredPassword_shows hpassword
  | adaptersUnread hpassword hfailed =>
      rw [tryRun_of_password hmock hpassword, hfailed]
      exact ⟨rfl, rfl⟩
  | noInterface hpassword hcandidates hnone =>
      rw [tryRun_of_password hmock hpassword, hcandidates]
      dsimp only
      rw [hnone]
      exact ⟨rfl, rfl⟩
  | multipleInterfaces hpassword hcandidates hmany =>
      obtain ⟨outcome, hsole, hshows⟩ := soleCandidate_of_many hmany options
      rw [tryRun_of_password hmock hpassword, hcandidates]
      dsimp only
      rw [hsole]
      exact hshows
  | noDevice h hnone =>
      rw [tryRun_of_selects hmock h]
      exact runOnInterface_of_refusal (chooseDevice_of_nil _ hnone)
  | multipleDevices h hmany hselect =>
      rw [tryRun_of_selects hmock h]
      apply runOnInterface_of_refusal
      obtain ⟨-, hrefused⟩ | ⟨hset, -⟩ | ⟨device, hchooses, -⟩ :=
        chooseDevice_of_many options _ hmany
      · exact hrefused
      · exact absurd hselect hset
      · exact absurd hselect (hchooses.selected hmany).1
  | selectionMissing h hmany hselect hmissing =>
      rw [tryRun_of_selects hmock h]
      apply runOnInterface_of_refusal
      obtain ⟨hunset, -⟩ | ⟨-, -, hrefused⟩ | ⟨device, hchooses, -⟩ :=
        chooseDevice_of_many options _ hmany
      · exact absurd hunset hselect
      · exact hrefused
      · exact absurd (hchooses.selected hmany).2 (hmissing device hchooses.mem)
  | connectionFailed h hphase hplain =>
      exact h.shows hmock ((queryDevice_of_failure _ hphase).2 hplain)
  | authenticationFailed h hphase htold =>
      exact h.shows hmock ((queryDevice_of_failure _ hphase).1 htold)
  | commandFailed h hgranted hnone =>
      obtain ⟨output, hsource, -, hexit, hstdout⟩ :=
        queryDevice_of_granted _ (discoverDevices options world _).stage
          (failingPhase_eq_none_iff.mp hgranted)
      apply h.shows hmock
      rw [reportOutput, hsource, hnone] at hexit hstdout
      exact ⟨hexit, hstdout⟩
  | outputUnparsed h hgranted hused hempty =>
      obtain ⟨output, hsource, hdata, hexit, hstdout⟩ :=
        queryDevice_of_granted _ (discoverDevices options world _).stage
          (failingPhase_eq_none_iff.mp hgranted)
      apply h.shows hmock
      have hsome := hsource.trans hused
      rw [reportOutput, hsome, hdata _ hsome] at hexit hstdout
      dsimp only at hexit hstdout
      rw [if_pos hempty] at hexit hstdout
      exact ⟨hexit, hstdout⟩
  | reported h hgranted hused hentries =>
      obtain ⟨output, hsource, hdata, hexit, hstdout⟩ :=
        queryDevice_of_granted _ (discoverDevices options world _).stage
          (failingPhase_eq_none_iff.mp hgranted)
      apply h.shows hmock
      have hsome := hsource.trans hused
      rw [reportOutput, hsome, hdata _ hsome] at hexit hstdout
      dsimp only at hexit hstdout
      rw [if_neg hentries] at hexit hstdout
      exact ⟨hexit, hstdout.trans (reportInterfaces_stdout options _ _ rfl)⟩

theorem Targets.exists_endsIn (h : Targets options world password iface device) :
    ∃ e, EndsIn options world e := by
  cases hphase : failureAt options world password device with
  | some phase =>
      by_cases htold : phase = .authentication ∨ Misleads world.env world.auth phase
      · exact ⟨_, .authenticationFailed h hphase htold⟩
      · exact ⟨_, .connectionFailed h hphase htold⟩
  | none =>
      cases hsource : usedCommand world with
      | none => exact ⟨_, .commandFailed h hphase hsource⟩
      | some source =>
          by_cases hentries : parseOutput source (commandOutput world source) = []
          · exact ⟨_, .outputUnparsed h hphase hsource hentries⟩
          · exact ⟨_, .reported h hphase hsource hentries⟩

theorem Selects.exists_endsIn (h : Selects options world password iface) :
    ∃ e, EndsIn options world e := by
  by_cases hnil : foundDevices options world iface = []
  · exact ⟨_, .noDevice h hnil⟩
  obtain ⟨device, hone⟩ | hmany : (∃ device, foundDevices options world iface = [device]) ∨
      2 ≤ (foundDevices options world iface).length := by
    by_cases hone : ∃ device, foundDevices options world iface = [device]
    · exact .inl hone
    · exact .inr (two_le_length hnil (not_exists.mp hone))
  · exact Targets.exists_endsIn ⟨h, .inl hone⟩
  obtain ⟨hunset, -⟩ | ⟨hset, hmissing, -⟩ | ⟨device, hchooses, -⟩ :=
    chooseDevice_of_many options iface hmany
  · exact ⟨_, .multipleDevices h hmany hunset⟩
  · exact ⟨_, .selectionMissing h hmany hset hmissing⟩
  · exact Targets.exists_endsIn ⟨h, hchooses⟩

/-- Every run comes to an end of these. -/
theorem exists_endsIn (options : Options) (world : World) : ∃ e, EndsIn options world e := by
  cases hpassword : configuredPassword options world with
  | error outcome =>
      refine ⟨_, .noPassword fun password h => ?_⟩
      cases hpassword.symm.trans h
  | ok password =>
      cases hcandidates : discoverCandidateInterfaces world.env.formatMessage world.adapters with
      | error what => exact ⟨_, .adaptersUnread hpassword hcandidates⟩
      | ok candidates =>
          by_cases hnil : hintedCandidates options candidates = []
          · exact ⟨_, .noInterface hpassword hcandidates hnil⟩
          by_cases hone : ∃ iface, hintedCandidates options candidates = [iface]
          · obtain ⟨iface, hone⟩ := hone
            have hselects : Selects options world password iface :=
              ⟨hpassword, candidates, hcandidates, hone⟩
            exact hselects.exists_endsIn
          · exact ⟨_, .multipleInterfaces hpassword hcandidates
              (two_le_length hnil (not_exists.mp hone))⟩

end Run

theorem emit_ne_nil (options : Options) (report : DiscoveryReport) : emit options report ≠ [] := by
  unfold emit
  split
  · exact List.append_ne_nil_of_right_ne_nil _ (by decide)
  · have hheader : textHeader report ≠ [] := by
      unfold textHeader
      split
      · decide
      · exact List.append_ne_nil_of_right_ne_nil _ (by decide)
    rw [formatText, List.append_assoc]
    exact List.append_ne_nil_of_left_ne_nil hheader _

theorem RunEnd.stdout_ne_nil_iff (options : Options) (e : RunEnd) :
    e.stdout options ≠ [] ↔ ∃ report, e = .reported report := by
  cases e with
  | reported report => exact iff_of_true (emit_ne_nil options report) ⟨report, rfl⟩
  | _ => exact iff_of_false (fun h => h rfl) fun ⟨_, h⟩ => nomatch h

theorem RunEnd.exitCode_eq_success_iff (e : RunEnd) :
    e.exitCode = .success ↔ ∃ report, e = .reported report ∧ report.interfaces.length = 2 := by
  cases e with
  | reported report =>
      simp only [RunEnd.exitCode]
      by_cases htwo : report.interfaces.length = 2
      · exact iff_of_true (if_pos htwo) ⟨report, rfl, htwo⟩
      · rw [if_neg htwo]
        refine iff_of_false (by decide) ?_
        rintro ⟨_, ⟨⟩, h⟩
        exact htwo h
  | _ => exact iff_of_false (by decide) fun ⟨_, h, _⟩ => nomatch h

/-- How every run without a capture file ends: in some of the ways of `RunEnd`, each
with its own condition on the command line and the answers, and the exit code and
the output say in which. A report is printed, and success is reported, in the ends
that have one and in no other. -/
theorem tryRun_endsIn (options : Options) (world : World)
    (hmock : options.mockIfconfigFile = []) :
    let outcome := tryRun options world
    (∃ e, EndsIn options world e) ∧
      (∀ e, EndsIn options world e →
        outcome.exitCode = e.exitCode ∧ outcome.stdout = e.stdout options) ∧
      (outcome.exitCode = .success ↔
        ∃ report, EndsIn options world (.reported report) ∧ report.interfaces.length = 2) ∧
      (outcome.stdout ≠ [] ↔ ∃ report, EndsIn options world (.reported report)) := by
  intro outcome
  have hshows (e : RunEnd) (h : EndsIn options world e) : outcome.Shows options e := h.shows hmock
  obtain ⟨e, he⟩ := exists_endsIn options world
  refine ⟨⟨e, he⟩, fun e h => ⟨(hshows e h).exitCode, (hshows e h).stdout⟩, ?_, ?_⟩
  · constructor
    · intro h
      rw [(hshows e he).exitCode, RunEnd.exitCode_eq_success_iff] at h
      obtain ⟨report, rfl, htwo⟩ := h
      exact ⟨report, he, htwo⟩
    · rintro ⟨report, hreported, htwo⟩
      rw [(hshows _ hreported).exitCode, RunEnd.exitCode_eq_success_iff]
      exact ⟨report, rfl, htwo⟩
  · constructor
    · intro h
      rw [(hshows e he).stdout, RunEnd.stdout_ne_nil_iff] at h
      obtain ⟨report, rfl⟩ := h
      exact ⟨report, he⟩
    · rintro ⟨report, hreported⟩
      rw [(hshows _ hreported).stdout, RunEnd.stdout_ne_nil_iff]
      exact ⟨report, rfl⟩

/-- What `ifconfig` prints of two interfaces. -/
def twoInterfaces : Bytes :=
  bytes "eth0: flags=67<UP>\n  inet 10.20.30.7\neth1: flags=67<UP>\n  inet 10.20.30.15\n"

def twoInterfacesReads : StreamReads :=
  .more ⟨twoInterfaces, by decide, by decide +kernel⟩ noOutput

theorem tryRun_endsIn_sample :
    ∃ report, EndsIn {} (sampleWorld "secret" twoInterfacesReads) (.reported report) ∧
      report.interfaces.length = 2 :=
  (tryRun_endsIn {} (sampleWorld "secret" twoInterfacesReads) rfl).2.2.1.mp (by decide +kernel)

end DeviceDiscovery.Main
