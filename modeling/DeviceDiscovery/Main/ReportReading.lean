import DeviceDiscovery.Main.RunEnds
import DeviceDiscovery.Main.TerminalSafety
import DeviceDiscovery.Network.LinkLayerHosts
import DeviceDiscovery.Output.JsonRoundTrip
import DeviceDiscovery.Output.TextRoundTrip
import DeviceDiscovery.Parser.Robustness

/-!
The report of a run, read back.

Whatever the device prints, the report that `run` makes of it can be read back
from the text: its names and addresses are words, its banner is printable, and
the other fields are the program's own but for the name of the interface. So the
text and the JSON document of a run tell the same (`forms_agree`).
-/

namespace DeviceDiscovery.Main

open Foundation DeviceDiscovery.Platform DeviceDiscovery.Network DeviceDiscovery.Scanner
  DeviceDiscovery.Ssh DeviceDiscovery.Parser DeviceDiscovery.Output Json

/-! ### The fields -/

theorem newline_notMem_of_plain {text : Bytes} (h : Plain text) : ('\n' : UInt8) ∉ text := by
  intro hmem
  have hcontrol : isControl ('\n' : UInt8) = true := by decide
  rw [h _ hmem] at hcontrol
  cases hcontrol

theorem newline_notMem_inetNtop (x : Address) : ('\n' : UInt8) ∉ inetNtop x := by
  intro hmem
  rcases isDigit_or_eq_dot_of_mem_inetNtop hmem with hdigit | hdot
  · exact absurd hdigit (by decide)
  · exact absurd hdot (by decide)

theorem plain_probeSsh (os : ProbeAnswers) (ip : Bytes) (connectTimeout bannerTimeout : ℤ) :
    Plain (probeSsh os ip connectTimeout bannerTimeout).1.banner := by
  unfold probeSsh
  dsimp only
  split
  case h_1 => exact plain_readSshBanner _ _ _ _
  all_goals exact fun c hc => nomatch hc

theorem exists_of_mem_enumerateSubnetHosts {iface : NetworkInterface} {minPrefix : ℕ} {ip : Bytes}
    (h : ip ∈ enumerateSubnetHosts iface minPrefix) : ∃ x, ip = inetNtop x := by
  unfold enumerateSubnetHosts at h
  dsimp only at h
  split at h
  · cases h
  · split at h
    · obtain ⟨x, -, rfl⟩ := List.mem_map.mp h
      exact ⟨x, rfl⟩
    · obtain ⟨x, -, rfl⟩ := List.mem_map.mp h
      exact ⟨x, rfl⟩

/-- A device that is found has an address and a printable banner. -/
theorem foundDevices_fields {options : Options} {world : World} {iface : NetworkInterface}
    {device : SshProbeResult} (h : device ∈ foundDevices options world iface) :
    (∃ x, device.ip = inetNtop x) ∧ Plain device.banner := by
  have hreports {answers : ℕ → Except Bytes ProbeAnswers} {addresses : List Bytes}
      {connectTimeout bannerTimeout : ℤ} (haddresses : ∀ ip ∈ addresses, ∃ x, ip = inetNtop x)
      (h : Reports answers addresses connectTimeout bannerTimeout device) :
      (∃ x, device.ip = inetNtop x) ∧ Plain device.banner := by
    obtain ⟨j, os, -, hdevice, hip, -⟩ := h
    refine ⟨hip ▸ haddresses _ (List.get_mem _ _), ?_⟩
    rw [hdevice]
    exact plain_probeSsh os _ _ _
  obtain ⟨-, hdevices⟩ | ⟨-, hdevices⟩ := discoverDevices_devices options world iface
  · rw [foundDevices, hdevices] at h
    exact hreports (fun ip => exists_of_mem_enumerateSubnetHosts) (reports_of_mem_sweepForSsh h)
  · rw [foundDevices, hdevices] at h
    exact hreports (fun ip => exists_of_mem_ips world.link iface options.layer2Window
      world.env.formatMessage) (reports_of_mem_sweepForSsh h)

/-! ### The entries -/

/-- A candidate is a part of a token. -/
theorem isSpace_of_mem_ifconfigCandidate {line text : Bytes}
    (h : ifconfigCandidate line = some text) : ∀ c ∈ text, isSpace c = false := by
  obtain ⟨token, htoken, hpart⟩ := exists_token_of_inetCandidate h
  exact fun c hc => isSpace_of_mem_token htoken c (hpart.subset hc)

theorem isSpace_of_mem_ipAddrCandidate {line text : Bytes} (h : ipAddrCandidate line = some text) :
    ∀ c ∈ text, isSpace c = false := by
  rw [ipAddrCandidate] at h
  split at h
  · cases h
  · exact isSpace_of_mem_ifconfigCandidate h

/-- The fields of an entry are words, whatever the device prints. -/
theorem isWord_of_mem_parseOutput {source output : Bytes} {entry : RemoteInterface}
    (h : entry ∈ parseOutput source output) :
    IsWord isSpace entry.name ∧ IsWord isSpace entry.ipv4 := by
  have hentry {f : LineFormat} {candidate : Bytes → Option Bytes}
      (hname : ∀ line, ∀ c ∈ f.name line, isSpace c = false)
      (hcandidate : ∀ line text, candidate line = some text → ∀ c ∈ text, isSpace c = false)
      (h : ∃ header text, f.Accepts candidate output header text ∧
        entry = ⟨f.name header, text⟩) :
      IsWord isSpace entry.name ∧ IsWord isSpace entry.ipv4 := by
    obtain ⟨header, text, haccepts, rfl⟩ := h
    obtain ⟨_, line, _, -, -, -, -, hline, -⟩ := id haccepts
    exact ⟨⟨haccepts.named, hname header⟩,
      ⟨ne_nil_of_isValidIpv4 haccepts.isValidIpv4, hcandidate line text hline⟩⟩
  rw [parseOutput] at h
  split at h
  · apply hentry isSpace_of_mem_ifconfig_name _ ((mem_parseIfconfigOutput_iff_accepts _ _).mp h)
    intro line text
    exact isSpace_of_mem_ifconfigCandidate
  · apply hentry isSpace_of_mem_ipAddr_name _ ((mem_parseIpAddrOutput_iff_accepts _ _).mp h)
    intro line text
    exact isSpace_of_mem_ipAddrCandidate

/-! ### The report -/

section Report

variable {options : Options} {world : World} {password source : Bytes} {iface : NetworkInterface}
  {device : SshProbeResult}

variable (options world iface) in
theorem discoverDevices_stage_mem :
    (discoverDevices options world iface).stage ∈ [bytes "layer2", bytes "subnet-scan"] := by
  unfold discoverDevices
  dsimp only
  split
  · exact List.mem_cons_self
  · exact List.mem_cons_of_mem _ List.mem_cons_self

/-- Of all that the report is made of, only the name of the interface could break a
line. -/
theorem readable_reportOn (h : Targets options world password iface device)
    (hsome : iface.name ≠ []) (hbreak : ('\n' : UInt8) ∉ iface.name) :
    Readable (reportOn options world password iface device source) := by
  obtain ⟨⟨x, hx⟩, hbanner⟩ := foundDevices_fields h.chooses.mem
  have hstage := discoverDevices_stage_mem options world iface
  have hkey := statusOfHostKey_mem world.env (sshConfigOf options password device) world.auth
  have hstages : ∀ stage ∈ [bytes "layer2", bytes "subnet-scan"],
      stage ≠ [] ∧ ('\n' : UInt8) ∉ stage ∧ ('(' : UInt8) ∉ stage := by decide
  have hkeys : ∀ status ∈ [bytes "match", bytes "mismatch", bytes "unknown",
      bytes "check-failure"], status ≠ [] ∧ ('\n' : UInt8) ∉ status := by decide
  obtain ⟨hstageSome, hstageLine, hstageOpen⟩ := hstages _ hstage
  obtain ⟨hkeySome, hkeyLine⟩ := hkeys _ hkey
  refine ⟨⟨?_, hsome, hstageSome, hkeySome⟩, ?_, hstageOpen, ?_, ?_, ?_⟩
  · show device.ip ≠ []
    rw [hx]
    exact inetNtop_ne_nil x
  · have hip : ('\n' : UInt8) ∉ device.ip := by
      rw [hx]
      exact newline_notMem_inetNtop x
    simp only [List.forall_mem_cons, List.not_mem_nil, false_implies, implies_true, and_true]
    exact ⟨hip, newline_notMem_of_plain hbanner, hbreak, hstageLine, hkeyLine⟩
  · exact fun entry hentry => (isWord_of_mem_parseOutput hentry).1
  · exact fun entry hentry => (isWord_of_mem_parseOutput hentry).2
  · intro warning hwarning
    simp only [reportOn] at hwarning
    split at hwarning
    · cases hwarning
    · rw [List.mem_singleton.mp hwarning, countWarning]
      exact notMem_append (by decide) (newline_notMem_decimal _)

/-- The form of the output has no part in how the run ends. -/
theorem EndsIn.inForm {e : RunEnd} {report : DiscoveryReport} (h : EndsIn options world e)
    (he : e = .reported report) (json : Bool) :
    EndsIn { options with json := json } world (.reported report) := by
  cases h with
  | reported h hgranted hsource hentries =>
      obtain rfl := RunEnd.reported.inj he
      exact .reported ⟨⟨h.selects.password, h.selects.iface⟩, h.chooses⟩ hgranted hsource hentries
  | _ => cases he

end Report

/-- What a run reports is read back from its text, and from its JSON document, which
denotes nothing else: the two tell the same about the device, and they tell it whatever
the device and the peers answer. -/
theorem forms_agree (options : Options) (world : World) (hmock : options.mockIfconfigFile = [])
    (hname : ∀ password iface, Selects options world password iface →
      iface.name ≠ [] ∧ ('\n' : UInt8) ∉ iface.name)
    (hshown : (tryRun options world).stdout ≠ []) :
    let text := (tryRun { options with json := false } world).stdout
    let document := (tryRun { options with json := true } world).stdout
    ∃ report, EndsIn options world (.reported report) ∧ readText text = some report ∧
      ∃ v, Denotes document v ∧ (∀ w, Denotes document w → w = v) ∧
        readReport v = some report := by
  intro text document
  obtain ⟨e, he⟩ := exists_endsIn options world
  rw [(he.shows hmock).stdout, RunEnd.stdout_ne_nil_iff] at hshown
  obtain ⟨report, rfl⟩ := hshown
  have hmode (json : Bool) : ({ options with json } : Options).mockIfconfigFile = [] := hmock
  have htext : text = formatText report := ((he.inForm rfl false).shows (hmode false)).stdout
  have hdocument : document = formatJson report := ((he.inForm rfl true).shows (hmode true)).stdout
  have hreadable : Readable report := by
    cases he with
    | reported h hgranted hsource hentries =>
        obtain ⟨hsome, hbreak⟩ := hname _ _ h.selects
        exact readable_reportOn h hsome hbreak
  refine ⟨report, he, ?_, reportJson report, ?_, ?_, readReport_reportJson report⟩
  · rw [htext, readText, splitLines_formatText hreadable]
    exact readLines_textLines hreadable
  · rw [hdocument]
    exact denotes_formatJson report
  · intro w hw
    rw [hdocument] at hw
    exact hw.unique (denotes_formatJson report)

theorem forms_agree_sample :
    let world := sampleWorld "secret" twoInterfacesReads
    ∃ report, EndsIn {} world (.reported report) ∧
      readText (tryRun { json := false } world).stdout = some report := by
  intro world
  obtain ⟨wired, hcandidates, hwired⟩ : ∃ wired,
      discoverCandidateInterfaces world.env.formatMessage world.adapters = .ok [wired] ∧
        wired.name = bytes "Ethernet" := ⟨_, rfl, rfl⟩
  have hname (password : Bytes) (iface : NetworkInterface) (h : Selects {} world password iface) :
      iface.name = bytes "Ethernet" := by
    obtain ⟨candidates, hfound, honly⟩ := h.iface
    obtain rfl := Except.ok.inj (hcandidates.symm.trans hfound)
    rw [← (List.cons.inj honly).1, hwired]
  obtain ⟨report, hends, htext, -⟩ := forms_agree {} world rfl
    (fun password iface h => by
      rw [hname password iface h]
      decide)
    (by decide +kernel)
  exact ⟨report, hends, htext⟩

end DeviceDiscovery.Main
