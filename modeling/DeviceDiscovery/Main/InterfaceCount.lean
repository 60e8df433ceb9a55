import DeviceDiscovery.Main.MockMode
import DeviceDiscovery.Main.Truncation
import DeviceDiscovery.Output.JsonRoundTrip

/-!
The number of interfaces.

The list of a report has an entry for each address, and its length is what the
exit code and the warning are made from. The interfaces are the names in it that
are no label of the loopback device, so the two numbers are one only while no
interface shows a second address and no alias of the loopback device is shown.
-/

namespace DeviceDiscovery.Main

open Foundation DeviceDiscovery.Platform DeviceDiscovery.Network DeviceDiscovery.Scanner
  DeviceDiscovery.Ssh DeviceDiscovery.Parser DeviceDiscovery.Output

/-! ### What a report should count -/

/-- The names of the loopback device, and the labels `NAME:N` of its aliases. -/
def isLoopbackLabel (name : Bytes) : Bool :=
  isLoopbackInterfaceName (name.takeWhile (· != (':' : UInt8)))

/-- The interfaces of a list of entries, without the loopback device. -/
def interfaceNames (entries : List RemoteInterface) : List Bytes :=
  ((entries.map RemoteInterface.name).filter fun name => !isLoopbackLabel name).eraseDups

example : interfaceNames [⟨"eth0", "10.0.0.2"⟩, ⟨"eth0", "10.0.0.3"⟩, ⟨"lo:0", "127.0.0.2"⟩] =
    [bytes "eth0"] := by decide

/-- The outcome reports the entries, and goes by the number of their interfaces: two
are a success without a warning, and any other number is in the warning. -/
def CountsInterfaces (options : Options) (entries : List RemoteInterface) (outcome : Outcome) :
    Prop :=
  let count := (interfaceNames entries).length
  outcome.exitCode = (if count = 2 then .success else .unexpectedInterfaceCount) ∧
    ∃ report : DiscoveryReport, report.interfaces = entries ∧
      report.warnings = (if count = 2 then [] else [countWarning count]) ∧
      outcome.stdout = emit options report

theorem countWarning_injective : Function.Injective countWarning := by
  intro m n h
  exact decimal_injective (List.append_cancel_left h)

/-- The digits that a text ends with are told from what stands before them. -/
theorem decimal_suffix_injective {xs ys : Bytes} {m n : ℕ}
    (h : xs ++ (bytes " " ++ decimal m) = ys ++ (bytes " " ++ decimal n)) : m = n := by
  have hdigits (zs : Bytes) (k : ℕ) :
      (zs ++ (bytes " " ++ decimal k)).reverse.takeWhile isDigit = (decimal k).reverse := by
    have hspace : bytes " " = [32] := by decide
    have hall : ∀ c ∈ (decimal k).reverse, isDigit c = true := fun c hc =>
      isDigit_of_mem_decimal (List.mem_reverse.mp hc)
    rw [List.reverse_append, List.reverse_append, List.append_assoc,
      List.takeWhile_append_of_pos hall, hspace]
    simp [isDigit]
  have hreverse := hdigits xs m
  rw [h, hdigits] at hreverse
  exact decimal_injective (List.reverse_injective hreverse).symm

/-- A report tells the number in its warning, in either form. -/
theorem emit_countWarning_injective {options : Options} {report other : DiscoveryReport}
    {m n : ℕ} (hreport : report.warnings = [countWarning m])
    (hother : other.warnings = [countWarning n]) (h : emit options report = emit options other) :
    m = n := by
  unfold emit at h
  split at h
  · have hsame := congrArg DiscoveryReport.warnings (formatJson_injective h)
    rw [hreport, hother] at hsame
    exact countWarning_injective (List.singleton_inj.mp hsame)
  · have htext (r : DiscoveryReport) {k : ℕ} (hr : r.warnings = [countWarning k]) :
        ∃ before, formatText r = (before ++ (bytes " " ++ decimal k)) ++ bytes "\n" := by
      have hfound : bytes "expected two network interfaces but found " =
          bytes "expected two network interfaces but found" ++ bytes " " := by decide
      refine ⟨textHeader r ++ (if r.interfaces = [] then bytes "  (none found)\n"
        else r.interfaces.flatMap (textLine (nameWidth r.interfaces))) ++ bytes "\n" ++
          bytes "WARNING: " ++ bytes "expected two network interfaces but found", ?_⟩
      rw [formatText, hr, countWarning, hfound]
      simp only [List.flatMap_cons, List.flatMap_nil, List.append_nil, List.append_assoc,
        List.cons_ne_nil, if_false]
    obtain ⟨before, hbefore⟩ := htext report hreport
    obtain ⟨before', hbefore'⟩ := htext other hother
    rw [hbefore, hbefore'] at h
    exact decimal_suffix_injective (List.append_cancel_right h)

/-- No interface has two addresses. -/
def OneAddressEach (shows : RemoteInterface → Prop) : Prop :=
  ∀ r r', shows r → shows r' → r.name = r'.name → r = r'

/-- No address of the loopback device is shown under the label of an alias. -/
def NoLoopback (shows : RemoteInterface → Prop) : Prop :=
  ∀ r, shows r → isLoopbackLabel r.name = false

theorem length_interfaceNames_iff {entries : List RemoteInterface} (hnodup : entries.Nodup) :
    (interfaceNames entries).length = entries.length ↔
      OneAddressEach (· ∈ entries) ∧ NoLoopback (· ∈ entries) := by
  have hlength : (entries.map RemoteInterface.name).length = entries.length := List.length_map _
  rw [interfaceNames, ← hlength, length_eraseDups_filter_eq_iff,
    List.nodup_map_iff_inj_on hnodup, List.forall_mem_map]
  apply and_congr
  · exact ⟨fun h r r' hr hr' => h r hr r' hr', fun h r hr r' hr' => h r r' hr hr'⟩
  · simp only [Bool.not_eq_true']
    rfl

theorem countsInterfaces_iff (options : Options) (report : DiscoveryReport)
    (parsed : Option Bytes) (hwarnings : report.warnings = [])
    (hnodup : report.interfaces.Nodup) :
    CountsInterfaces options report.interfaces (reportInterfaces options report parsed) ↔
      OneAddressEach (· ∈ report.interfaces) ∧ NoLoopback (· ∈ report.interfaces) := by
  rw [← length_interfaceNames_iff hnodup]
  unfold CountsInterfaces reportInterfaces
  dsimp only
  generalize (interfaceNames report.interfaces).length = count
  constructor
  · rintro ⟨hexit, printed, -, hprinted, hstdout⟩
    by_cases htwo : count = 2
    · by_cases hlength : report.interfaces.length = 2
      · exact htwo.trans hlength.symm
      · rw [if_neg hlength, if_pos htwo] at hexit
        cases hexit
    · by_cases hlength : report.interfaces.length = 2
      · rw [if_pos hlength, if_neg htwo] at hexit
        cases hexit
      · -- Neither number is two: the exit codes agree, and the warnings decide.
        rw [if_pos hlength] at hstdout
        rw [if_neg htwo] at hprinted
        exact (emit_countWarning_injective rfl hprinted hstdout).symm
  · rintro rfl
    refine ⟨rfl, _, ?_, ?_, rfl⟩
    · split <;> rfl
    · by_cases hlength : report.interfaces.length = 2
      · rw [if_neg (not_not.mpr hlength), if_pos hlength, hwarnings]
      · rw [if_pos hlength, if_neg hlength]

/-! ### The two paths -/

/-- The format that `run` reads the output of a command in. -/
def outputFormat (source : Bytes) : LineFormat :=
  if source = bytes "ifconfig" then ifconfigFormat else ipAddrFormat

theorem mem_parseOutput_iff (source output : Bytes) (r : RemoteInterface) :
    r ∈ parseOutput source output ↔
      (outputFormat source).Shows (splitLines ('\n' : UInt8) output) r := by
  unfold parseOutput outputFormat
  split
  · exact mem_parseIfconfigOutput_iff output r
  · exact mem_parseIpAddrOutput_iff output r

theorem nodup_parseOutput (source output : Bytes) : (parseOutput source output).Nodup := by
  unfold parseOutput
  split
  · exact nodup_parseIfconfigOutput output
  · exact nodup_parseIpAddrOutput output

/-- What a capture shows to the offline mode: what it shows as `ifconfig` output, if
anything. -/
def MockShows (contents : Bytes) (r : RemoteInterface) : Prop :=
  let lines := splitLines ('\n' : UInt8) contents
  ifconfigFormat.Shows lines r ∨ (∀ other, ¬ifconfigFormat.Shows lines other) ∧
    ipAddrFormat.Shows lines r

theorem mem_mockInterfaces_iff (contents : Bytes) (r : RemoteInterface) :
    r ∈ mockInterfaces contents ↔ MockShows contents r := by
  have hifconfig := mem_parseIfconfigOutput_iff contents
  unfold mockInterfaces MockShows
  simp only [← hifconfig, ← mem_parseIpAddrOutput_iff]
  split
  · rename_i hnone
    simp [hnone]
  · rename_i hsome
    obtain ⟨other, hother⟩ := List.exists_mem_of_ne_nil _ hsome
    refine ⟨.inl, ?_⟩
    rintro (hmem | ⟨hnone, -⟩)
    · exact hmem
    · exact absurd hother (hnone other)

theorem nodup_mockInterfaces (contents : Bytes) : (mockInterfaces contents).Nodup := by
  unfold mockInterfaces
  split
  · exact nodup_parseIpAddrOutput contents
  · exact nodup_parseIfconfigOutput contents

/-- All that the command printed, as far as it was read. -/
def commandOutput (world : World) (command : Bytes) : Bytes :=
  (readStream [] (world.execute command).stdoutReads).1

theorem runCommands_output (options : Options) (world : World) {client : SshClient}
    (hsession : client.session ≠ nullptr) {source : Bytes}
    (h : (runCommands options world client).result.source = some source) :
    (runCommands options world client).result.stdoutData = commandOutput world source := by
  have hclient := (execute_keeps client "ifconfig" (world.execute "ifconfig")).1
  have hdata (command : Bytes) (hpasses : Passes (world.execute command)) :
      (client.execute command (world.execute command)).result.stdoutData =
        commandOutput world command := by
    rw [execute_of_starts hsession hpasses.1]
    rfl
  unfold runCommands at h ⊢
  dsimp only at h ⊢
  rw [hclient] at h ⊢
  split at h
  · rename_i hfirst
    rw [if_pos hfirst, ← Option.some.inj h]
    exact hdata "ifconfig" ((usable_execute_iff hsession _ _).mp hfirst)
  · rename_i hfirst
    rw [if_neg hfirst]
    dsimp only at h ⊢
    split at h
    · rename_i hsecond
      rw [if_pos hsecond, ← Option.some.inj h]
      exact hdata "ip -4 addr" ((usable_execute_iff hsession _ _).mp hsecond)
    · cases h

/-- An outcome that parsed an output with entries is the report of the entries. -/
def Outcome.ReportsParsed (options : Options) (world : World) (outcome : Outcome) : Prop :=
  ∀ source, outcome.parsed = some source →
    let entries := parseOutput source (commandOutput world source)
    entries ≠ [] → ∃ report : DiscoveryReport, report.interfaces = entries ∧
      report.warnings = [] ∧
      let reported := reportInterfaces options report none
      outcome.stdout = reported.stdout ∧ outcome.exitCode = reported.exitCode

theorem reportOutput_reportsParsed (options : Options) (world : World) (iface : NetworkInterface)
    (stage : Bytes) (device : SshProbeResult) (hostKeyStatus : Bytes) {output : CommandOutput}
    (h : ∀ source, output.source = some source →
      output.stdoutData = commandOutput world source) :
    (reportOutput options iface stage device hostKeyStatus output).ReportsParsed options
      world := by
  intro source hparsed entries hentries
  have hsource : output.source = some source := by
    rw [← hparsed]
    exact (reportOutput_parsed options iface stage device hostKeyStatus output).1.symm
  have hdata := h source hsource
  unfold reportOutput
  rw [hsource, hdata]
  dsimp only
  rw [if_neg hentries]
  exact ⟨_, rfl, rfl, rfl, rfl⟩

theorem tryRun_reportsParsed (options : Options) (world : World)
    (hmock : options.mockIfconfigFile = []) :
    (tryRun options world).ReportsParsed options world := by
  obtain ⟨password, iface, hselects, hrun⟩ | ⟨-, hwithheld⟩ := tryRun_cases options world hmock
  · rw [hrun]
    obtain ⟨outcome, logged, hchoice, hrefused⟩ | ⟨device, logged, -, hqueried⟩ :=
      runOnInterface_cases options world password iface
    · rw [hrefused]
      intro source hparsed
      cases (chooseDevice_error hchoice).parsed.symm.trans hparsed
    · rw [hqueried]
      show (queryDevice options world password iface _ device).ReportsParsed options world
      have hsettles := connectAndAuthenticate_settles world.env none
        { config := sshConfigOf options password device } world.auth ⟨rfl, rfl⟩
      unfold queryDevice
      dsimp only
      generalize SshClient.connectAndAuthenticate world.env none
        { config := sshConfigOf options password device } world.auth = connect at hsettles ⊢
      cases hresult : connect.result with
      | false => exact fun source hparsed => nomatch hparsed
      | true =>
          -- The commands run in the session that the connection was granted.
          have hsession := hsettles.granted hresult
          exact reportOutput_reportsParsed options world iface _ device
            (runCommands options world connect.client).client.hostKeyStatus
            fun source => runCommands_output options world hsession
  · intro source hparsed
    cases hwithheld.parsed.symm.trans hparsed

/-- When the two paths count interfaces: exactly when no interface shows two
addresses in the output and no alias of the loopback device is shown, offline in a
capture and online in what the command printed. -/
theorem interfaces_counted_iff (options : Options) (world : World) :
    (∀ contents, world.readFile options.mockIfconfigFile = some contents →
      mockInterfaces contents ≠ [] →
        (CountsInterfaces options (mockInterfaces contents) (runMockMode options world) ↔
          OneAddressEach (MockShows contents) ∧ NoLoopback (MockShows contents))) ∧
    (options.mockIfconfigFile = [] → ∀ source, (tryRun options world).parsed = some source →
      let output := commandOutput world source
      let shows := (outputFormat source).Shows (splitLines ('\n' : UInt8) output)
      parseOutput source output ≠ [] →
        (CountsInterfaces options (parseOutput source output) (tryRun options world) ↔
          OneAddressEach shows ∧ NoLoopback shows)) := by
  constructor
  · intro contents hfile hsome
    have hshows : MockShows contents = (· ∈ mockInterfaces contents) :=
      funext fun r => propext (mem_mockInterfaces_iff contents r).symm
    rw [runMockMode_of_readFile hfile, if_neg hsome, hshows]
    exact countsInterfaces_iff options
      { discoveryStage := "mock", interfaces := mockInterfaces contents } none rfl
      (nodup_mockInterfaces contents)
  · intro hmock source hparsed output shows hsome
    obtain ⟨report, hentries, hwarnings, hstdout, hexit⟩ :=
      tryRun_reportsParsed options world hmock source hparsed hsome
    have hshows : shows = (· ∈ parseOutput source output) :=
      funext fun r => propext (mem_parseOutput_iff source output r).symm
    have hnodup : report.interfaces.Nodup := hentries ▸ nodup_parseOutput source output
    rw [hshows, ← hentries, ← countsInterfaces_iff options report none hwarnings hnodup,
      CountsInterfaces, CountsInterfaces, hstdout, hexit]

/-- One interface with an alias. -/
def aliasOutput : Bytes :=
  bytes ("enp1s0: flags=4163<UP>  mtu 1500\n        inet 192.168.0.2  netmask 255.255.255.0\n" ++
    "        inet 192.168.0.3  netmask 255.255.255.0\n")

/-- One interface with two addresses is a success without a warning, on both
paths. -/
theorem alias_counted_as_interface :
    let mocked : World :=
      { sampleWorld "secret" (.last 0 (le_refl 0)) with readFile := fun _ => some aliasOutput }
    let world := sampleWorld "secret" (.more ⟨aliasOutput, by decide, by decide +kernel⟩
      (.last 0 (le_refl 0)))
    (interfaceNames (mockInterfaces aliasOutput)).length = 1 ∧
      (runMockMode {} mocked).exitCode = .success ∧
      ¬CountsInterfaces {} (mockInterfaces aliasOutput) (runMockMode {} mocked) ∧
      (tryRun {} world).parsed = some (bytes "ifconfig") ∧
      (tryRun {} world).exitCode = .success ∧
      ¬CountsInterfaces {} (parseOutput "ifconfig" (commandOutput world "ifconfig"))
        (tryRun {} world) := by
  intro mocked world
  have hentries : mockInterfaces aliasOutput =
      [⟨"enp1s0", "192.168.0.2"⟩, ⟨"enp1s0", "192.168.0.3"⟩] := by
    decide +kernel
  have hread : parseOutput "ifconfig" (commandOutput world "ifconfig") =
      [⟨"enp1s0", "192.168.0.2"⟩, ⟨"enp1s0", "192.168.0.3"⟩] := by
    decide +kernel
  have hmocked : (runMockMode {} mocked).exitCode = .success := by
    decide +kernel
  have hexit : (tryRun {} world).exitCode = .success := by
    decide +kernel
  rw [hentries, hread]
  refine ⟨by decide, hmocked, fun h => ?_, by decide +kernel, hexit, fun h => ?_⟩
  · cases hmocked.symm.trans h.1
  · cases hexit.symm.trans h.1

end DeviceDiscovery.Main
