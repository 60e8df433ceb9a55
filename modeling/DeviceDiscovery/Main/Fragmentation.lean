import DeviceDiscovery.Main.EndToEnd

/-!
Pieces of a stream.

A peer's stream reaches the program in pieces: the banner of a server in what
`recv` returns, the output of a command in what `libssh2_channel_read` returns.
Two worlds that differ in the pieces only give the same run (`run_recut`).
-/

namespace DeviceDiscovery.Main

open Foundation DeviceDiscovery.Platform DeviceDiscovery.Network DeviceDiscovery.Scanner
  DeviceDiscovery.Ssh DeviceDiscovery.Parser DeviceDiscovery.Output

/-! ### The same streams -/

/-- Both answers deliver one stream, whose first line ends in time. -/
inductive SameBanner (timeout : ℤ) : BannerAnswers → BannerAnswers → Prop
  | refl (os : BannerAnswers) : SameBanner timeout os os
  | recut {os os' : BannerAnswers} {stream : Bytes} (hends : EndsBeforeCap stream)
      (h : Delivers (deadlineOf os.start timeout) stream os.turns)
      (h' : Delivers (deadlineOf os'.start timeout) stream os'.turns) : SameBanner timeout os os'

inductive SameProbe (timeout : ℤ) : Except Bytes ProbeAnswers → Except Bytes ProbeAnswers → Prop
  | failed (what : Bytes) : SameProbe timeout (.error what) (.error what)
  | answered {os os' : ProbeAnswers} (hconnect : os'.connect = os.connect)
      (hbanner : SameBanner timeout os.banner os'.banner) : SameProbe timeout (.ok os) (.ok os')

/-- A command starts, ends and prints in both cases alike; how its output is cut, and
what the last read of each stream returns, is free. -/
structure SameCommand (os os' : ExecuteAnswers) : Prop where
  channel : os'.channel = os.channel
  openError : os'.openError = os.openError
  execRc : os'.execRc = os.execRc
  execError : os'.execError = os.execError
  exitStatus : os'.exitStatus = os.exitStatus
  stdout : (readStream [] os'.stdoutReads).1 = (readStream [] os.stdoutReads).1
  stderr : (readStream [] os'.stderrReads).1 = (readStream [] os.stderrReads).1

/-- The worlds differ in how the peers' streams are cut. -/
structure World.Recut (options : Options) (world world' : World) : Prop where
  winsockReady : world'.winsockReady = world.winsockReady
  env : world'.env = world.env
  readFile : world'.readFile = world.readFile
  adapters : world'.adapters = world.adapters
  elevated : world'.elevated = world.elevated
  link : world'.link = world.link
  auth : world'.auth = world.auth
  subnetProbes : ∀ j, SameProbe options.bannerTimeout (world.subnetProbes j) (world'.subnetProbes j)
  linkProbes : ∀ j, SameProbe options.bannerTimeout (world.linkProbes j) (world'.linkProbes j)
  execute : ∀ command, SameCommand (world.execute command) (world'.execute command)

/-! ### Probes -/

theorem SameBanner.readSshBanner {timeout : ℤ} {os os' : BannerAnswers}
    (h : SameBanner timeout os os') (handle : Socket) (ip : Bytes) :
    (readSshBanner os' handle ip timeout).1 = (readSshBanner os handle ip timeout).1 := by
  cases h with
  | refl => rfl
  | @recut _ stream hends h h' =>
      obtain ⟨k, hk, -, hresult⟩ := readSshBanner_of_delivers h handle ip
      obtain ⟨k', hk', -, hresult'⟩ := readSshBanner_of_delivers h' handle ip
      have hcap : 0 < kMaxBannerBytes := by decide
      have hnil {n : ℕ} (hn : kMaxBannerBytes ≤ n) : stream.take n = [] ↔ stream = [] := by
        rw [List.take_eq_nil_iff]
        exact ⟨fun h => h.resolve_left (hcap.trans_le hn).ne', .inr⟩
      rw [hresult, hresult']
      apply classifyBanner_congr
      · rw [hnil hk, hnil hk']
      · rw [sanitizeBanner_take hends hk, sanitizeBanner_take hends hk']

theorem SameProbe.probeSsh {timeout : ℤ} {answers answers' : Except Bytes ProbeAnswers}
    (h : SameProbe timeout answers answers') (ip : Bytes) (connectTimeout : ℤ) :
    (answers'.map fun os => (probeSsh os ip connectTimeout timeout).1) =
      answers.map fun os => (probeSsh os ip connectTimeout timeout).1 := by
  cases h with
  | failed what => rfl
  | @answered os os' hconnect hbanner =>
      apply congrArg Except.ok
      show (Scanner.probeSsh os' ip connectTimeout timeout).1 =
        (Scanner.probeSsh os ip connectTimeout timeout).1
      unfold Scanner.probeSsh
      dsimp only
      rw [hconnect]
      split
      · exact hbanner.readSshBanner _ ip
      all_goals rfl

theorem sweepForSsh_recut {answers answers' : ℕ → Except Bytes ProbeAnswers} {timeout : ℤ}
    (h : ∀ j, SameProbe timeout (answers j) (answers' j)) (addresses : List Bytes)
    (connectTimeout : ℤ) : sweepForSsh answers' addresses connectTimeout timeout =
      sweepForSsh answers addresses connectTimeout timeout := by
  apply congrArg sequentialSweep
  funext j
  exact (h j).probeSsh _ connectTimeout

/-! ### Commands -/

theorem SameCommand.execute {os os' : ExecuteAnswers} (h : SameCommand os os')
    (client : SshClient) (command : Bytes) :
    (client.execute command os').result = (client.execute command os).result ∧
      (client.execute command os').client = (client.execute command os).client := by
  obtain ⟨hchannel, hopen, hrc, hexec, hexit, hstdout, hstderr⟩ := h
  unfold SshClient.execute
  dsimp only
  rw [hchannel, hopen, hrc, hexec, hexit, hstdout, hstderr]
  split
  · exact ⟨rfl, rfl⟩
  split
  · exact ⟨rfl, rfl⟩
  split
  · exact ⟨rfl, rfl⟩
  · exact ⟨rfl, rfl⟩

section Run

variable {options : Options} {world world' : World} (h : world.Recut options world')

include h

theorem World.Recut.runCommands (client : SshClient) :
    (runCommands options world' client).result = (runCommands options world client).result := by
  obtain ⟨hfirst, hclient⟩ := (h.execute "ifconfig").execute client "ifconfig"
  unfold Main.runCommands
  dsimp only
  rw [hfirst, hclient]
  split
  · rfl
  · rw [((h.execute "ip -4 addr").execute _ "ip -4 addr").1]

theorem World.Recut.discoverDevices (iface : NetworkInterface) :
    discoverDevices options world' iface = discoverDevices options world iface := by
  have hsubnet : stageASubnetScan options world' iface = stageASubnetScan options world iface := by
    unfold stageASubnetScan
    dsimp only
    rw [sweepForSsh_recut h.subnetProbes]
  have hlayer2 : stageBLayer2 options world' iface = stageBLayer2 options world iface := by
    unfold stageBLayer2
    rw [h.env, h.elevated, h.link]
    dsimp only
    rw [sweepForSsh_recut h.linkProbes]
  unfold Main.discoverDevices
  rw [hsubnet, hlayer2]

end Run

/-! ### The run -/

/-- All of an outcome but the calls of the client. -/
def Outcome.shown (outcome : Outcome) : Outcome := { outcome with calls := [] }

theorem Outcome.shown_after {outcome outcome' : Outcome} (h : outcome'.shown = outcome.shown)
    (stderr : Bytes) : (outcome'.after stderr).shown = (outcome.after stderr).shown :=
  congrArg (Outcome.after stderr) h

section Run

variable {options : Options} {world world' : World} (h : world.Recut options world')

include h

theorem World.Recut.queryDevice (password : Bytes) (iface : NetworkInterface) (stage : Bytes)
    (device : SshProbeResult) : (queryDevice options world' password iface stage device).shown =
      (queryDevice options world password iface stage device).shown := by
  unfold Main.queryDevice
  dsimp only
  rw [h.env, h.auth]
  generalize SshClient.connectAndAuthenticate world.env none
    { config := sshConfigOf options password device } world.auth = connect
  cases connect.result with
  | false => rfl
  | true =>
      have hdevice : (reportDevice options world' iface stage device connect.client).shown =
          (reportDevice options world iface stage device connect.client).shown := by
        unfold reportDevice
        dsimp only
        rw [runCommands_client, runCommands_client, h.runCommands connect.client]
        rfl
      have hwarned := Outcome.shown_after hdevice (hostKeyWarning options connect.client)
      exact congrArg (fun outcome : Outcome => { outcome with
        connected := sshConfigOf options password device :: outcome.connected }) hwarned

theorem World.Recut.runOnInterface (password : Bytes) (iface : NetworkInterface) :
    (runOnInterface options world' password iface).shown =
      (runOnInterface options world password iface).shown := by
  unfold Main.runOnInterface
  dsimp only
  rw [h.discoverDevices iface]
  cases chooseDevice options iface (Main.discoverDevices options world iface).found with
  | error outcome => rfl
  | ok device => exact Outcome.shown_after (h.queryDevice password iface _ device) _

end Run

/-- The sample output in two pieces, with an error behind them. -/
def cutReads : StreamReads :=
  .more ⟨twoInterfaces.take 7, by decide, by decide +kernel⟩
    (.more ⟨twoInterfaces.drop 7, by decide, by decide +kernel⟩ (.last (-43) (by decide)))

end DeviceDiscovery.Main
