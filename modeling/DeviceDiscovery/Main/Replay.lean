import DeviceDiscovery.Main.MockMode
import DeviceDiscovery.Main.RunEnds

/-!
Runs that are replayed offline.

What a device printed is kept in a file, and `--mock-ifconfig` reads it. The offline
run takes the file for the output of `ifconfig` first, whatever command printed it.
So it tells the same as the run on the link after `ifconfig` always, and after
`ip -4 addr` under a condition (`mock_replays`).
-/

namespace DeviceDiscovery.Main

open Foundation DeviceDiscovery.Platform DeviceDiscovery.Network DeviceDiscovery.Scanner
  DeviceDiscovery.Ssh DeviceDiscovery.Parser DeviceDiscovery.Output

/-- The options of a run that reads a file in place of a device. -/
def Options.offline (options : Options) (path : Bytes) : Options :=
  { options with mockIfconfigFile := path }

/-- What is left of a report without the link and the device. -/
def offlineReport (report : DiscoveryReport) : DiscoveryReport where
  discoveryStage := "mock"
  interfaces := report.interfaces
  warnings := report.warnings

/-- The output of a command is read alike on the link and offline. -/
def ReadAlike (source output : Bytes) : Prop :=
  source = bytes "ifconfig" ∨ parseIfconfigOutput output = [] ∨
    parseIfconfigOutput output = parseIpAddrOutput output

instance (source output : Bytes) : Decidable (ReadAlike source output) :=
  inferInstanceAs (Decidable (_ ∨ _ ∨ _))

section Lists

variable {source output : Bytes}

theorem mockInterfaces_eq_iff (hentries : parseOutput source output ≠ []) :
    mockInterfaces output = parseOutput source output ↔ ReadAlike source output := by
  unfold mockInterfaces ReadAlike
  by_cases hsource : source = bytes "ifconfig"
  · have hparse : parseOutput source output = parseIfconfigOutput output := if_pos hsource
    rw [hparse] at hentries
    rw [hparse, if_neg hentries]
    exact iff_of_true rfl (.inl hsource)
  · have hparse : parseOutput source output = parseIpAddrOutput output := if_neg hsource
    rw [hparse]
    by_cases hnone : parseIfconfigOutput output = []
    · rw [if_pos hnone]
      exact iff_of_true rfl (.inr (.inl hnone))
    · rw [if_neg hnone]
      simp [hsource, hnone]

/-- What has entries for one of the commands has some offline. -/
theorem mockInterfaces_ne_nil (hentries : parseOutput source output ≠ []) :
    mockInterfaces output ≠ [] := by
  unfold mockInterfaces
  split
  · rename_i hnone
    have hparse : parseOutput source output =
        if source = bytes "ifconfig" then [] else parseIpAddrOutput output := by
      rw [parseOutput, hnone]
    rw [hparse] at hentries
    split at hentries
    · contradiction
    · exact hentries
  · assumption

end Lists

section Run

variable {options : Options} {offline : World} {path contents : Bytes}

/-- The offline run on a file with entries. -/
theorem tryRun_offline (hpath : path ≠ []) (hfile : offline.readFile path = some contents)
    (hentries : mockInterfaces contents ≠ []) :
    tryRun (options.offline path) offline = reportInterfaces (options.offline path)
      { discoveryStage := "mock", interfaces := mockInterfaces contents } none := by
  have hmock : (options.offline path).mockIfconfigFile ≠ [] := hpath
  have hread : offline.readFile (options.offline path).mockIfconfigFile = some contents := hfile
  rw [tryRun, run, if_pos hmock]
  dsimp only
  rw [runMockMode_of_readFile hread, if_neg hentries]

variable {world : World} {source : Bytes} {report : DiscoveryReport}

/-- A report holds the entries of the output that is used, and a warning when they
are not two. -/
theorem EndsIn.report_of_source (h : EndsIn options world (.reported report))
    (hsource : usedCommand world = some source) :
    report.interfaces = parseOutput source (commandOutput world source) ∧
      report.interfaces ≠ [] ∧ report.warnings =
        if report.interfaces.length = 2 then [] else [countWarning report.interfaces.length] := by
  cases h with
  | reported htargets hgranted hused hentries =>
      obtain rfl := Option.some.inj (hused.symm.trans hsource)
      exact ⟨rfl, hentries, rfl⟩

/-- The output that a run used is read from a file. If it is read alike, as it is after
`ifconfig`, the exit code is that of the run on the link and the report is its report
without the link and the device. Otherwise the report is on other interfaces. The
offline run complains about nothing and connects to nothing. -/
theorem mock_replays (hmock : options.mockIfconfigFile = [])
    (hend : EndsIn options world (.reported report)) (hsource : usedCommand world = some source)
    (hpath : path ≠ []) (hfile : offline.readFile path = some (commandOutput world source)) :
    let live := tryRun options world
    let replayed := tryRun (options.offline path) offline
    (ReadAlike source (commandOutput world source) →
      replayed.exitCode = live.exitCode ∧
        replayed.stdout = emit options (offlineReport report)) ∧
    (¬ReadAlike source (commandOutput world source) → source = bytes "ip -4 addr" ∧
      ∃ other : DiscoveryReport, other.interfaces ≠ report.interfaces ∧
        replayed.stdout = emit options (offlineReport other)) ∧
    replayed.stderr = [] ∧ replayed.connected = [] ∧ replayed.calls = [] := by
  intro live replayed
  obtain ⟨hinterfaces, hsome, hwarnings⟩ := hend.report_of_source hsource
  rw [hinterfaces] at hsome
  have halike := mockInterfaces_eq_iff hsome
  rw [← hinterfaces] at halike
  generalize hlist : mockInterfaces (commandOutput world source) = interfaces at halike
  have hreplayed : replayed = reportInterfaces (options.offline path)
      { discoveryStage := "mock", interfaces := interfaces } none := by
    rw [← hlist]
    exact tryRun_offline hpath hfile (mockInterfaces_ne_nil hsome)
  have hstdout : replayed.stdout = emit options { discoveryStage := "mock"
                                                  interfaces := interfaces
                                                  warnings := if interfaces.length = 2 then []
                                                    else [countWarning interfaces.length] } := by
    rw [hreplayed, reportInterfaces_stdout _ _ _ rfl]
    rfl
  refine ⟨fun h => ?_, fun h => ⟨?_, ?_⟩, ?_⟩
  · obtain rfl := halike.mpr h
    constructor
    · rw [hreplayed, (hend.shows hmock).exitCode]
      rfl
    · rw [hstdout, offlineReport, hwarnings]
  · have hnot : source ≠ bytes "ifconfig" := fun hifconfig => h (.inl hifconfig)
    unfold usedCommand at hsource
    split at hsource
    · exact absurd (Option.some.inj hsource).symm hnot
    · split at hsource
      · exact (Option.some.inj hsource).symm
      · cases hsource
  · refine ⟨⟨[], [], [], [], [], interfaces, _⟩, fun hsame => h (halike.mp hsame), hstdout⟩
  · rw [hreplayed]
    exact ⟨rfl, rfl, rfl⟩

end Run

/-- No device, and a file with the sample output. -/
def fileWorld : World :=
  { sampleWorld [] noOutput with readFile := fun _ => some twoInterfaces }

theorem mock_replays_sample :
    (tryRun (Options.offline {} "capture.txt") fileWorld).exitCode = .success := by
  have hlive : (tryRun {} (sampleWorld "secret" twoInterfacesReads)).exitCode = .success := by
    decide +kernel
  obtain ⟨e, he⟩ := exists_endsIn {} (sampleWorld "secret" twoInterfacesReads)
  have hend := (he.shows rfl).exitCode.symm.trans hlive
  rw [RunEnd.exitCode_eq_success_iff] at hend
  obtain ⟨report, rfl, -⟩ := hend
  have hfile : fileWorld.readFile "capture.txt" = some (commandOutput
      (sampleWorld "secret" twoInterfacesReads) "ifconfig") := by decide
  have hused : usedCommand (sampleWorld "secret" twoInterfacesReads) = some "ifconfig" :=
    if_pos (by decide)
  have hpath : bytes "capture.txt" ≠ [] := by decide
  exact ((mock_replays rfl he hused hpath hfile).1 (.inl rfl)).1.trans hlive

end DeviceDiscovery.Main
