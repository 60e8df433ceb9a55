import DeviceDiscovery.Foundation.FilterMap
import DeviceDiscovery.Main.RunEnds
import DeviceDiscovery.Parser.Agreement
import DeviceDiscovery.Scanner.BannerStream

/-!
From the device to the report.

One device is on the link. Its SSH server identifies itself to one of the probes,
at once and in time, and no other peer does; it grants the connection; and one of
its commands prints its interfaces. Then `run` reports the device, and of its
interfaces all that are no loopback devices with all their addresses
(`tryRun_reports_device`), however the peers cut their streams and whatever the
tools print around the addresses.
-/

namespace DeviceDiscovery.Main

open Foundation DeviceDiscovery.Platform DeviceDiscovery.Network DeviceDiscovery.Scanner
  DeviceDiscovery.Ssh DeviceDiscovery.Parser DeviceDiscovery.Output

/-! ### The peers -/

section Peers

variable (ip : Bytes) (connectTimeout bannerTimeout : ℤ)

/-- There is no SSH server behind the answers to a probe: it fails, it finds no
connection, or it is sent something else. -/
inductive NoServer : Except Bytes ProbeAnswers → Prop
  | failed (what : Bytes) : NoServer (.error what)
  | unconnected {os : ProbeAnswers}
      (h : (tcpConnect os.connect ip connectTimeout).result ≠ .connected) : NoServer (.ok os)
  | otherServer {os : ProbeAnswers} {stream : Bytes}
      (hsends : Delivers (deadlineOf os.banner.start bannerTimeout) stream os.banner.turns)
      (h : stream.take 4 ≠ bytes "SSH-") : NoServer (.ok os)

/-- An SSH server behind the answers sends `stream` before the deadline. It begins with
the line that identifies the server, which ends before the cap. -/
structure Serves (stream : Bytes) (os : ProbeAnswers) : Prop where
  connected : (tcpConnect os.connect ip connectTimeout).result = .connected
  sends : Delivers (deadlineOf os.banner.start bannerTimeout) stream os.banner.turns
  identifies : stream.take 4 = bytes "SSH-"
  ends : EndsBeforeCap stream

end Peers

/-- Of all addresses only `ip` has an SSH server, which sends `stream`. -/
def OnlyServer (answers : ℕ → Except Bytes ProbeAnswers) (addresses : List Bytes)
    (connectTimeout bannerTimeout : ℤ) (ip stream : Bytes) : Prop :=
  ∃ j : Fin addresses.length, addresses.get j = ip ∧
    (∃ os, answers j = .ok os ∧ Serves ip connectTimeout bannerTimeout stream os) ∧
    ∀ i : Fin addresses.length, i ≠ j →
      NoServer (addresses.get i) connectTimeout bannerTimeout (answers i)

/-- What a probe shows of the server. -/
def serverResult (ip stream : Bytes) : SshProbeResult :=
  { ip := ip, status := .sshDetected, banner := sanitizeBanner stream }

section Probes

variable {ip : Bytes} {connectTimeout bannerTimeout : ℤ}

theorem probeSsh_of_connected {os : ProbeAnswers}
    (h : (tcpConnect os.connect ip connectTimeout).result = .connected) :
    (probeSsh os ip connectTimeout bannerTimeout).1 = (readSshBanner os.banner
      (tcpConnect os.connect ip connectTimeout).outSocket ip bannerTimeout).1 := by
  unfold probeSsh
  dsimp only
  rw [h]

theorem probeSsh_of_not_connected {os : ProbeAnswers}
    (h : (tcpConnect os.connect ip connectTimeout).result ≠ .connected) :
    (probeSsh os ip connectTimeout bannerTimeout).1.isSsh = false := by
  unfold probeSsh
  dsimp only
  split
  · contradiction
  all_goals rfl

theorem Serves.shown {os : ProbeAnswers} {stream : Bytes}
    (h : Serves ip connectTimeout bannerTimeout stream os) :
    (probeSsh os ip connectTimeout bannerTimeout).1 = serverResult ip stream := by
  rw [probeSsh_of_connected h.connected]
  obtain ⟨k, hk, -, hresult⟩ := readSshBanner_of_delivers h.sends
    (tcpConnect os.connect ip connectTimeout).outSocket ip
  have hfour : 4 ≤ kMaxBannerBytes := by decide
  have hid : isSshIdentification (stream.take k) = true := by
    rw [isSshIdentification_iff, List.take_take, Nat.min_eq_left (hfour.trans hk)]
    exact h.identifies
  have hsome : stream.take k ≠ [] := by
    intro hnil
    rw [hnil] at hid
    exact absurd hid (by decide)
  rw [hresult, classifyBanner, if_neg hsome]
  dsimp only
  rw [if_pos (isSshIdentification_sanitizeBanner_iff.mpr hid), sanitizeBanner_take h.ends hk]
  rfl

theorem NoServer.undetected {answers : Except Bytes ProbeAnswers}
    (h : NoServer ip connectTimeout bannerTimeout answers) :
    detected (answers.map fun os => (probeSsh os ip connectTimeout bannerTimeout).1) = none := by
  have hnone {result : SshProbeResult} (h : result.isSsh = false) :
      detected (.ok result : Except Bytes SshProbeResult) = none := by
    rw [detected, h]
    rfl
  cases h with
  | failed what => rfl
  | unconnected h => exact hnone (probeSsh_of_not_connected h)
  | @otherServer os stream hsends h =>
      apply hnone
      show (probeSsh os ip connectTimeout bannerTimeout).1.isSsh = false
      by_cases hconnected : (tcpConnect os.connect ip connectTimeout).result = .connected
      · rw [probeSsh_of_connected hconnected]
        obtain ⟨k, hk, -, hresult⟩ := readSshBanner_of_delivers hsends
          (tcpConnect os.connect ip connectTimeout).outSocket ip
        have hfour : 4 ≤ kMaxBannerBytes := by decide
        have hid : isSshIdentification (stream.take k) ≠ true := by
          rw [ne_eq, isSshIdentification_iff, List.take_take, Nat.min_eq_left (hfour.trans hk)]
          exact h
        have hstatus := mt (classifyBanner_status ip (stream.take k)).2.1.mp hid
        rw [hresult, SshProbeResult.isSsh, beq_eq_false_iff_ne]
        exact hstatus
      · exact probeSsh_of_not_connected hconnected

end Probes

section Sweep

variable {answers : ℕ → Except Bytes ProbeAnswers} {addresses : List Bytes}
  {connectTimeout bannerTimeout : ℤ}

theorem sweepForSsh_of_noServer
    (h : ∀ i : Fin addresses.length,
      NoServer (addresses.get i) connectTimeout bannerTimeout (answers i)) :
    sweepForSsh answers addresses connectTimeout bannerTimeout = [] := by
  rw [sweepForSsh, sequentialSweep, List.filterMap_eq_nil_iff]
  exact fun i _ => (h i).undetected

theorem OnlyServer.found {ip stream : Bytes}
    (h : OnlyServer answers addresses connectTimeout bannerTimeout ip stream) :
    sweepForSsh answers addresses connectTimeout bannerTimeout = [serverResult ip stream] := by
  obtain ⟨j, hip, ⟨os, hos, hserves⟩, hothers⟩ := h
  apply filterMap_eq_singleton (List.nodup_finRange _) (List.mem_finRange j)
  · dsimp only
    rw [hos, hip, Except.map, hserves.shown]
    rfl
  · exact fun i _ hi => (hothers i hi).undetected

end Sweep

/-! ### The link -/

section Link

variable (options : Options) (world : World) (iface : NetworkInterface)

/-- There is one SSH server on the link: among the addresses of the subnet, or among
the stations that were seen when the subnet has none. -/
inductive OnLink : (stage ip stream : Bytes) → Prop
  | subnet {ip stream : Bytes}
      (h : OnlyServer world.subnetProbes (subnetHosts iface) options.connectTimeout
        options.bannerTimeout ip stream) : OnLink (bytes "subnet-scan") ip stream
  | layer2 {ip stream : Bytes}
      (hsubnet : ∀ i : Fin (subnetHosts iface).length, NoServer ((subnetHosts iface).get i)
        options.connectTimeout options.bannerTimeout (world.subnetProbes i))
      (h : OnlyServer world.linkProbes (linkHosts options world iface) options.connectTimeout
        options.bannerTimeout ip stream) : OnLink (bytes "layer2") ip stream

variable {options world iface}

theorem OnLink.found {stage ip stream : Bytes} (h : OnLink options world iface stage ip stream) :
    (discoverDevices options world iface).stage = stage ∧
      foundDevices options world iface = [serverResult ip stream] := by
  unfold foundDevices discoverDevices
  dsimp only
  rw [stageASubnetScan_devices]
  cases h with
  | subnet h =>
      have hdevices : subnetDevices options world iface = [serverResult ip stream] := h.found
      rw [hdevices, if_neg (List.cons_ne_nil _ _)]
      exact ⟨rfl, (stageASubnetScan_devices options world iface).trans hdevices⟩
  | layer2 hsubnet h =>
      have hnone : subnetDevices options world iface = [] := sweepForSsh_of_noServer hsubnet
      have hdevices : linkDevices options world iface = [serverResult ip stream] := h.found
      rw [if_pos hnone]
      exact ⟨rfl, (stageBLayer2_devices options world iface).trans hdevices⟩

end Link

/-! ### The device -/

/-- The device prints its interfaces: with `ifconfig` in one of its formats, or with
`ip -4 addr` when `ifconfig` is of no use. -/
inductive Tells (world : World) (d : Device) : (source : Bytes) → Prop
  | ifconfig (f : Format) {blocks : List IfconfigBlock} (hdevice : ifconfigDevice blocks = d)
      (hpasses : Passes (world.execute "ifconfig"))
      (houtput : commandOutput world (bytes "ifconfig") = renderIfconfig f blocks) :
      Tells world d (bytes "ifconfig")
  | ipAddr {blocks : List IpAddrBlock} (hdevice : ipAddrDevice blocks = d)
      (hunusable : ¬Passes (world.execute "ifconfig"))
      (hpasses : Passes (world.execute "ip -4 addr"))
      (houtput : commandOutput world (bytes "ip -4 addr") = renderIpAddr blocks) :
      Tells world d (bytes "ip -4 addr")

theorem Tells.used {world : World} {d : Device} {source : Bytes} (h : Tells world d source) :
    usedCommand world = some source ∧
      parseOutput source (commandOutput world source) = d.expected := by
  cases h with
  | ifconfig f hdevice hpasses houtput =>
      refine ⟨if_pos hpasses, ?_⟩
      rw [houtput, parseOutput, if_pos rfl, parseIfconfigOutput_render, hdevice]
  | ipAddr hdevice hunusable hpasses houtput =>
      have hother : bytes "ip -4 addr" ≠ bytes "ifconfig" := by decide
      refine ⟨(if_neg hunusable).trans (if_pos hpasses), ?_⟩
      rw [houtput, parseOutput, if_neg hother, parseIpAddrOutput_render, hdevice]

/-- The report on the device. -/
def deviceReport (options : Options) (world : World) (password : Bytes) (iface : NetworkInterface)
    (stage ip stream : Bytes) (d : Device) : DiscoveryReport where
  interfaceName := iface.name
  sshIp := ip
  sshBanner := sanitizeBanner stream
  hostKeyStatus := statusOfHostKey world.env
    (sshConfigOf options password (serverResult ip stream)) world.auth
  discoveryStage := stage
  interfaces := d.expected
  warnings := if d.expected.length = 2 then [] else [countWarning d.expected.length]

/-- A device on the link that lets the program in and prints its interfaces is
reported with all of them, and it is a success exactly when they have two addresses.
A device without any is an error. -/
theorem tryRun_reports_device {options : Options} {world : World} {password : Bytes}
    {iface : NetworkInterface} {stage ip stream source : Bytes} {d : Device}
    (hmock : options.mockIfconfigFile = []) (hselects : Selects options world password iface)
    (hlink : OnLink options world iface stage ip stream)
    (hgrants : Grants world.env (sshConfigOf options password (serverResult ip stream)) world.auth)
    (htells : Tells world d source) :
    let outcome := tryRun options world
    (outcome.stdout = if d.expected = [] then [] else
      emit options (deviceReport options world password iface stage ip stream d)) ∧
    outcome.exitCode = if d.expected = [] then .parseFailed
      else if d.expected.length = 2 then .success else .unexpectedInterfaceCount := by
  intro outcome
  obtain ⟨hstage, hdevices⟩ := hlink.found
  obtain ⟨hused, hparsed⟩ := htells.used
  have htargets : Targets options world password iface (serverResult ip stream) :=
    ⟨hselects, .inl hdevices⟩
  have hgranted : failureAt options world password (serverResult ip stream) = none :=
    failingPhase_eq_none_iff.mpr hgrants
  by_cases hempty : d.expected = []
  · have hend : EndsIn options world .outputUnparsed :=
      .outputUnparsed htargets hgranted hused (hparsed.trans hempty)
    rw [if_pos hempty, if_pos hempty]
    exact ⟨(hend.shows hmock).stdout, (hend.shows hmock).exitCode⟩
  · have hsome : parseOutput source (commandOutput world source) ≠ [] := by
      rw [hparsed]
      exact hempty
    have hend := (EndsIn.reported htargets hgranted hused hsome).shows hmock
    have hreport : reportOn options world password iface (serverResult ip stream) source =
        deviceReport options world password iface stage ip stream d := by
      unfold reportOn deviceReport
      dsimp only
      rw [hparsed, hstage]
      rfl
    rw [hreport] at hend
    rw [if_neg hempty, if_neg hempty]
    exact ⟨hend.stdout, hend.exitCode⟩

section Sample

private theorem lan0_ne_nil : bytes "eth0" ≠ [] := by decide

private theorem lan0_plain :
    ∀ c ∈ bytes "eth0", isSpace c = false ∧ c ≠ ':' ∧ c ≠ '@' ∧ c ≠ '/' :=
  forall_mem_of_all (by decide)

private def lan0 : InterfaceName := ⟨"eth0", lan0_ne_nil, lan0_plain⟩
private def lan1 : InterfaceName := ⟨"eth1", by decide, forall_mem_of_all (by decide)⟩
private def twoSpaces : Indent := ⟨"  ", by decide, forall_mem_of_all (by decide)⟩
private def upFlags : Value := ⟨"67<UP>", forall_mem_of_all (by decide)⟩

private def wiredBlocks : List IfconfigBlock :=
  [⟨lan0, twoSpaces, upFlags, noTail, [.inet twoSpaces (ofOctets 10 20 30 7) noTail.toTail], 0⟩,
    ⟨lan1, twoSpaces, upFlags, noTail, [.inet twoSpaces (ofOctets 10 20 30 15) noTail.toTail], 0⟩]

private def peerStream : Bytes := "SSH-2.0-dropbear\r\n"

private theorem delivers_peerStream :
    Delivers (deadlineOf 0 kSshBannerTimeout) peerStream [⟨0, 1, peerStream⟩] := by
  have hended : Delivers (deadlineOf 0 kSshBannerTimeout) [] [] := .ended fun _ h => nomatch h
  have hpiece := @Delivers.piece _ ⟨0, 1, peerStream⟩ [] [] (by decide) (by decide) (by decide)
    (by decide) hended
  rwa [List.append_nil] at hpiece

theorem tryRun_reports_device_sample :
    (tryRun {} (sampleWorld "secret" twoInterfacesReads)).exitCode = .success := by
  obtain ⟨wired, hselects, hhosts⟩ : ∃ wired,
      Selects {} (sampleWorld "secret" twoInterfacesReads) "secret" wired ∧
        subnetHosts wired = [bytes "10.0.0.1"] := ⟨_, ⟨rfl, _, rfl, rfl⟩, by decide +kernel⟩
  have hlink : OnLink {} (sampleWorld "secret" twoInterfacesReads) wired "subnet-scan" "10.0.0.1"
      peerStream := by
    refine .subnet ?_
    rw [hhosts]
    refine ⟨⟨0, by decide⟩, rfl, ⟨_, rfl, ⟨by decide, delivers_peerStream, by decide,
      .inl (by decide)⟩⟩, fun i hi => absurd (Fin.ext ?_) hi⟩
    exact Nat.lt_one_iff.mp i.isLt
  have hgrants : Grants (sampleWorld "secret" twoInterfacesReads).env
      (sshConfigOf {} "secret" (serverResult "10.0.0.1" peerStream))
      (sampleWorld "secret" twoInterfacesReads).auth :=
    ⟨rfl, by decide, rfl, by decide, rfl, (fun h => absurd h (by decide)), rfl⟩
  have htells : Tells (sampleWorld "secret" twoInterfacesReads) (ifconfigDevice wiredBlocks)
      "ifconfig" := .ifconfig .netTools rfl (by decide) (by decide)
  exact (tryRun_reports_device rfl hselects hlink hgrants htells).2.trans (by decide)

end Sample

end DeviceDiscovery.Main
