import DeviceDiscovery.Main.Options
import DeviceDiscovery.Network.ArpDiscovery
import DeviceDiscovery.Output.Formatter
import DeviceDiscovery.Scanner.SubnetSweep
import DeviceDiscovery.Ssh.SshClient
import Mathlib.Data.Int.ConditionallyCompleteOrder
import Mathlib.Order.ConditionallyCompleteLattice.Basic

/-!
The program (`main.cpp`).

A run is a function of the command line and of a `World`: everything the
operating system, libssh2, the link and the peers answer. Beside the two streams
and the exit code it is recorded which clients were asked to connect, which
calls they made, and which command's output was parsed.

A sweep is the plain loop over its addresses; the thread pool computes the same
list. Memory and threads are always to be had.
-/

namespace DeviceDiscovery.Main

open Foundation DeviceDiscovery.Platform DeviceDiscovery.Network DeviceDiscovery.Scanner
  DeviceDiscovery.Ssh DeviceDiscovery.Parser DeviceDiscovery.Output

/-- All answers to one run. A probe may throw; the answers to the probes of a
sweep are told by position. A command is run once, so its text tells its
answers. -/
structure World where
  winsockReady : Bool
  env : Environment
  readFile : Bytes → Option Bytes
  adapters : ℕ → AdapterQuery
  subnetProbes : ℕ → Except Bytes ProbeAnswers
  elevated : Bool
  link : LinkAnswers
  linkProbes : ℕ → Except Bytes ProbeAnswers
  auth : AuthAnswers
  execute : Bytes → ExecuteAnswers

structure Outcome where
  stdout : Bytes := []
  stderr : Bytes := []
  exitCode : ExitCode
  connected : List SshConfig := []
  calls : List SshCall := []
  parsed : Option Bytes := none
  deriving DecidableEq, Repr

/-- The outcome after something was written to stderr. -/
def Outcome.after (stderr : Bytes) (outcome : Outcome) : Outcome :=
  { outcome with stderr := stderr ++ outcome.stderr }

/-- A function that ends the run with an error message. -/
def refuse (stderr : Bytes) (exitCode : ExitCode) : Outcome :=
  { stderr := stderr, exitCode := exitCode }

def log (options : Options) (message : Bytes) : Bytes :=
  if options.verbose then bytes "[device-discovery] " ++ message ++ bytes "\n" else []

/-! ### The report -/

def emit (options : Options) (report : DiscoveryReport) : Bytes :=
  if options.json then formatJson report else formatText report

def countWarning (count : ℕ) : Bytes :=
  bytes "expected two network interfaces but found " ++ decimal count

/-- The end of `run` and of `run_mock_mode`. -/
def reportInterfaces (options : Options) (report : DiscoveryReport) (parsed : Option Bytes) :
    Outcome :=
  let count := report.interfaces.length
  let report := if count ≠ 2 then { report with warnings := [countWarning count] } else report
  { stdout := emit options report
    exitCode := if count = 2 then .success else .unexpectedInterfaceCount
    parsed := parsed }

def runMockMode (options : Options) (world : World) : Outcome :=
  match world.readFile options.mockIfconfigFile with
  | none => refuse (bytes "Error: could not read " ++ options.mockIfconfigFile ++ bytes "\n")
      .usageError
  | some contents =>
      let interfaces := parseIfconfigOutput contents
      let interfaces := if interfaces = [] then parseIpAddrOutput contents else interfaces
      if interfaces = [] then
        refuse (bytes "Error: could not parse network interfaces from " ++
          options.mockIfconfigFile ++ bytes "\n") .parseFailed
      else
        reportInterfaces options { discoveryStage := "mock", interfaces := interfaces } none

/-! ### The password and the interface -/

def configuredPassword (options : Options) (world : World) : Except Outcome Bytes :=
  if options.passwordFromCli then
    if options.sshPassword = [] then
      .error (refuse "Error: --ssh-password requires a non-empty value.\n" .usageError)
    else .ok options.sshPassword
  else
    match world.env.getenv (cString options.passwordEnv) with
    | none | some [] =>
        .error (refuse (bytes "Error: SSH password not configured.\n" ++
          bytes "       Pass --ssh-password, or set the environment variable " ++
          options.passwordEnv ++ bytes " (see --ssh-password-env).\n") .usageError)
    | some password => .ok password

/-- The candidates that `--interface` leaves. -/
def hintedCandidates (options : Options) (candidates : List NetworkInterface) :
    List NetworkInterface :=
  if options.interfaceHint = [] then candidates
  else candidates.filter fun iface => iface.name = options.interfaceHint

/-- An address with its prefix length. -/
def subnetText (iface : NetworkInterface) : Bytes :=
  iface.ipv4 ++ bytes "/" ++ decimal iface.prefixLength

/-- The only candidate there is. -/
def soleCandidate : List NetworkInterface → Except Outcome NetworkInterface
  | [] =>
      .error (refuse (bytes "Error: No suitable network interface found.\n" ++
        bytes "       Looked for an adapter that is connected, non-loopback,\n" ++
        bytes "       non-virtual and carrying an IPv4 address.\n") .noInterface)
  | [iface] => .ok iface
  | candidates =>
      .error (refuse (bytes "Error: Multiple candidate interfaces found; refusing to guess.\n" ++
        candidates.flatMap (fun iface =>
          bytes "       " ++ iface.name ++ bytes " " ++ subnetText iface ++ bytes "\n") ++
        bytes "       Disconnect the unrelated links or pass --interface NAME.\n")
        .multipleInterfaces)

/-- `select_interface`; an exception has a text. -/
def selectInterface (options : Options) (world : World) :
    Except Bytes (Except Outcome NetworkInterface) :=
  (discoverCandidateInterfaces world.env.formatMessage world.adapters).map fun candidates =>
    soleCandidate (hintedCandidates options candidates)

/-! ### The stages -/

def sweepForSsh (answers : ℕ → Except Bytes ProbeAnswers) (addresses : List Bytes)
    (connectTimeout bannerTimeout : ℤ) : List SshProbeResult :=
  sequentialSweep fun j : Fin addresses.length =>
    (answers j).map fun os => (probeSsh os (addresses.get j) connectTimeout bannerTimeout).1

/-- What a stage found, why it found nothing, and what it logged. -/
structure Stage where
  devices : List SshProbeResult := []
  diagnostic : Bytes := []
  stderr : Bytes := []
  deriving DecidableEq, Repr

def stageASubnetScan (options : Options) (world : World) (iface : NetworkInterface) : Stage :=
  let hosts := enumerateSubnetHosts iface kMinimumScanPrefix
  if hosts = [] then
    { stderr := log options (bytes "stage A skipped: subnet of " ++ iface.name ++
        bytes " is larger than /" ++ decimal kMinimumScanPrefix) }
  else
    { stderr := log options (bytes "stage A: probing " ++ decimal hosts.length ++
        bytes " addresses of " ++ subnetText iface)
      devices := sweepForSsh world.subnetProbes hosts options.connectTimeout
        options.bannerTimeout }

/-- The diagnostic of stage B when stations were seen but none answered. -/
def unreachableText (iface : NetworkInterface) (observations : List L2Observation) : Bytes :=
  bytes "the directly connected device was seen on the link but no SSH server " ++
    bytes "could be reached at:" ++
    observations.flatMap (fun observation =>
      bytes "\n         " ++ observation.ip ++ bytes " (" ++ observation.mac ++ bytes ")") ++
    bytes "\n       If the address is outside " ++ subnetText iface ++
    bytes " the PC has no route to it; add a temporary address on the device's\n" ++
    bytes "       subnet, e.g. netsh interface ipv4 add address \"" ++ iface.name ++
    bytes "\" <free-ip> <netmask>"

def stageBLayer2 (options : Options) (world : World) (iface : NetworkInterface) : Stage :=
  let started := log options (bytes "stage A found nothing, starting layer-2 discovery on " ++
    iface.name)
  let elevation : Bytes := if world.elevated then []
    else log options (bytes "not running elevated: promiscuous capture will most likely be " ++
      bytes "refused by Windows")
  let l2 := discoverLinkLayerHosts world.env.formatMessage world.link iface options.layer2Window
  if l2.observations = [] then
    let diagnostic : Bytes :=
      if l2.error = [] then "layer-2 discovery observed no station" else l2.error
    { stderr := started ++ elevation, diagnostic := diagnostic }
  else
    let observed := l2.observations.flatMap fun observation =>
      log options (bytes "layer-2 observation: " ++ observation.ip ++ bytes " (" ++
        observation.mac ++ bytes ", " ++ observation.source.toString ++ bytes ")")
    let found := sweepForSsh world.linkProbes (l2.observations.map L2Observation.ip)
      options.connectTimeout options.bannerTimeout
    { stderr := started ++ elevation ++ observed
      devices := found
      diagnostic := if found = [] then unreachableText iface l2.observations else [] }

/-- The two stages of `run`, with the name of the one that decided. -/
structure Discovery where
  stage : Bytes
  found : Stage
  deriving DecidableEq, Repr

def discoverDevices (options : Options) (world : World) (iface : NetworkInterface) : Discovery :=
  let subnet := stageASubnetScan options world iface
  if subnet.devices = [] then
    let layer2 := stageBLayer2 options world iface
    ⟨"layer2", { layer2 with stderr := subnet.stderr ++ layer2.stderr }⟩
  else ⟨"subnet-scan", subnet⟩

/-- The device `run` goes on with. -/
def chooseDevice (options : Options) (iface : NetworkInterface) (found : Stage) :
    Except Outcome SshProbeResult :=
  match found.devices with
  | [] =>
      let diagnostic : Bytes := if found.diagnostic = [] then []
        else bytes "       " ++ found.diagnostic ++ bytes "\n"
      .error (refuse (bytes "Error: No device discovered on " ++ iface.name ++ bytes ".\n" ++
        diagnostic) .noDevice)
  | [device] => .ok device
  | devices =>
      if options.selectCandidate ≠ [] then
        match devices.find? fun device => device.ip = options.selectCandidate with
        | some device => .ok device
        | none => .error (refuse (bytes "Error: --select " ++ options.selectCandidate ++
            bytes " does not match any discovered device.\n") .usageError)
      else
        .error (refuse (bytes "WARNING: multiple SSH devices discovered\n" ++
          devices.flatMap (fun device =>
            bytes "  " ++ device.ip ++ bytes "  " ++ device.banner ++ bytes "\n") ++
          bytes "Refusing to authenticate automatically; re-run with --select IP.\n")
          .multipleDevices)

/-! ### The device -/

def sshConfigOf (options : Options) (password : Bytes) (device : SshProbeResult) : SshConfig where
  host := device.ip
  port := kSshPort
  username := options.sshUser
  password := password
  hostKeyPolicy := if options.strictHostKey then .strict else .warn
  connectTimeout := options.authTimeout
  authTimeout := options.authTimeout
  commandTimeout := options.commandTimeout
  verbose := options.verbose

/-- The test that `run` makes of both commands. -/
def usable (command : CommandResult) : Bool :=
  command.ok && command.exitCode == 0 && !command.stdoutData.isEmpty

/-- The message when neither command was usable, about the first one. -/
def executionError (command : CommandResult) : Bytes :=
  let reason : Bytes :=
    if command.error ≠ [] then bytes " (" ++ command.error ++ bytes ")"
    else if command.stderrData ≠ [] then bytes " (" ++ command.stderrData ++ bytes ")"
    else []
  bytes "Error: ifconfig execution failed on the target" ++ reason ++
    bytes " and the 'ip -4 addr' fallback failed as well.\n"

/-- The command whose output `run` uses, if one was usable, and that output. -/
structure CommandOutput where
  source : Option Bytes
  stdoutData : Bytes
  stderr : Bytes
  deriving DecidableEq, Repr

def runCommands (options : Options) (world : World) (client : SshClient) :
    Invocation CommandOutput :=
  let command := client.execute "ifconfig" (world.execute "ifconfig")
  if usable command.result then
    ⟨⟨some "ifconfig", command.result.stdoutData, []⟩, command.client, command.calls⟩
  else
    let stderr := log options "ifconfig unavailable or failed, falling back to 'ip -4 addr'"
    let fallback := command.client.execute "ip -4 addr" (world.execute "ip -4 addr")
    let output : CommandOutput :=
      if usable fallback.result then ⟨some "ip -4 addr", fallback.result.stdoutData, stderr⟩
      else ⟨none, [], stderr ++ executionError command.result⟩
    ⟨output, fallback.client, command.calls ++ fallback.calls⟩

def parseOutput (source stdoutData : Bytes) : List RemoteInterface :=
  if source = bytes "ifconfig" then parseIfconfigOutput stdoutData
  else parseIpAddrOutput stdoutData

/-- What an output is worth: a report, or a message. -/
def reportOutput (options : Options) (iface : NetworkInterface) (stage : Bytes)
    (device : SshProbeResult) (hostKeyStatus : Bytes) (output : CommandOutput) : Outcome :=
  match output.source with
  | none => refuse [] .remoteCommandFailed
  | some source =>
      let report : DiscoveryReport := {
        interfaceName := iface.name
        sshIp := device.ip
        sshBanner := device.banner
        hostKeyStatus := hostKeyStatus
        discoveryStage := stage
        interfaces := parseOutput source output.stdoutData }
      if report.interfaces = [] then
        { stderr := bytes "Error: Could not parse network interfaces from '" ++ source ++
            bytes "' output.\n"
          exitCode := .parseFailed
          parsed := some source }
      else reportInterfaces options report (some source)

/-- The part of `run` with the session: the commands, the disconnect and the
destructor's disconnect. -/
def reportDevice (options : Options) (world : World) (iface : NetworkInterface) (stage : Bytes)
    (device : SshProbeResult) (client : SshClient) : Outcome :=
  let commands := runCommands options world client
  let disconnected := commands.client.disconnect
  let outcome := reportOutput options iface stage device commands.client.hostKeyStatus
    commands.result
  { outcome.after commands.result.stderr with
    calls := commands.calls ++ disconnected.calls ++ disconnected.client.disconnect.calls }

def hostKeyWarning (options : Options) (client : SshClient) : Bytes :=
  if client.hostKeyStatus ≠ bytes "match" ∧ !options.strictHostKey then
    bytes "WARNING: SSH host key not verified (status: " ++ client.hostKeyStatus ++
      bytes "); the link is trusted because it is a direct connection.\n"
  else []

/-- The part of `run` with the client, whose destructor comes last. -/
def queryDevice (options : Options) (world : World) (password : Bytes) (iface : NetworkInterface)
    (stage : Bytes) (device : SshProbeResult) : Outcome :=
  let config := sshConfigOf options password device
  let connect := SshClient.connectAndAuthenticate world.env none { config := config } world.auth
  let outcome :=
    if !connect.result then
      let exitCode : ExitCode :=
        if contains connect.client.lastError "authentication" then .sshAuthFailed
        else .sshConnectionFailed
      { refuse (bytes "Error: " ++ connect.client.lastError ++ bytes "\n") exitCode with
        calls := connect.client.disconnect.calls }
    else
      (reportDevice options world iface stage device connect.client).after
        (hostKeyWarning options connect.client)
  { outcome with
    connected := config :: outcome.connected
    calls := connect.calls ++ outcome.calls }

/-! ### The run -/

/-- The part of `run` with the selected interface. -/
def runOnInterface (options : Options) (world : World) (password : Bytes)
    (iface : NetworkInterface) : Outcome :=
  let discovery := discoverDevices options world iface
  let stderr := log options (bytes "using interface " ++ iface.name ++ bytes " (" ++
    subnetText iface ++ bytes ")") ++ discovery.found.stderr
  match chooseDevice options iface discovery.found with
  | .error outcome => outcome.after stderr
  | .ok device =>
      let confirmed := log options (bytes "SSH server confirmed at " ++ device.ip ++ bytes " (" ++
        device.banner ++ bytes ")")
      (queryDevice options world password iface discovery.stage device).after
        (stderr ++ confirmed)

/-- `run`; an exception has a text. -/
def run (options : Options) (world : World) : Except Bytes Outcome :=
  if options.mockIfconfigFile ≠ [] then .ok (runMockMode options world)
  else
    match configuredPassword options world with
    | .error outcome => .ok outcome
    | .ok password =>
        (selectInterface options world).map fun selection =>
          match selection with
          | .error outcome => outcome
          | .ok iface => runOnInterface options world password iface

/-- The call of `run` in `main`, with its handler. -/
def tryRun (options : Options) (world : World) : Outcome :=
  match run options world with
  | .ok outcome => outcome
  | .error what => refuse (bytes "Error: " ++ what ++ bytes "\n") .noDevice

def main (arguments : List Bytes) (world : World) : Outcome :=
  if !world.winsockReady then
    refuse "Error: Winsock could not be initialised.\n" .usageError
  else
    match parseOptions arguments {} with
    | .error exit => { stdout := exit.stdout, stderr := exit.stderr, exitCode := exit.exitCode }
    | .ok options => tryRun options world

/-! ### A sample world -/

def sampleConnect : ConnectAnswers := ⟨true, 7, true, 0, 0, 0, 0, 0⟩

def noOutput : StreamReads := .last 0 (le_refl 0)

/-- The interface 10.0.0.0/31 with one peer, which runs an SSH server and answers
every command with `output`. -/
def sampleWorld (password : Bytes) (output : StreamReads) : World where
  winsockReady := true
  env := ⟨fun name => if SameVariable name kPasswordEnvVar then some password else none,
    fun _ => none⟩
  readFile _ := none
  adapters _ := .success [⟨"Ethernet", none, "wired", 3, [2, 0, 0, 0, 0, 1], 6, true,
    [⟨some 0x0A000000#32, 31⟩]⟩]
  subnetProbes _ := .ok ⟨sampleConnect, ⟨0, [⟨0, 1, bytes "SSH-2.0-dropbear\r\n"⟩]⟩⟩
  elevated := true
  link := ⟨none, ⟨true, kInvalidSocket, 0, true, 0, 0, false, 0, 0, []⟩, none⟩
  linkProbes _ := .error "not probed"
  auth := ⟨0, sampleConnect, 0, 0, 1, 0, ⟨0, []⟩, none, nullptr, 0, 0⟩
  execute _ := ⟨2, ⟨0, []⟩, 0, ⟨0, []⟩, output, noOutput, 0⟩

/-- The interface of the sample world. -/
def wiredInterface : NetworkInterface where
  name := "Ethernet"
  ipv4 := "10.0.0.0"
  netmask := "255.255.255.254"
  address := 0x0A000000#32
  mask := 0xFFFFFFFE#32
  isUp := true
  isRunning := true
  ifIndex := 3
  mac := "02:00:00:00:00:01"
  description := "wired"

/-- The peer of the sample world, as a probe shows it. -/
def samplePeer : SshProbeResult := ⟨"10.0.0.1", .sshDetected, "SSH-2.0-dropbear"⟩

end DeviceDiscovery.Main
