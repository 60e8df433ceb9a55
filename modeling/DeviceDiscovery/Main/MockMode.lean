import DeviceDiscovery.Main.Run
import DeviceDiscovery.Parser.Agreement
import DeviceDiscovery.Parser.Blocks

/-!
The offline mode on a capture of `ip -4 addr`.

The parser of `ifconfig` output is asked first, and it finds blocks in such a
capture: a header begins with the number of the interface and a colon, which is
what an `ifconfig` block with that name begins with, and the lines with addresses
are spelled alike. So the addresses are reported under the numbers, those of the
loopback device among them.
-/

namespace DeviceDiscovery.Main

open Foundation DeviceDiscovery.Platform DeviceDiscovery.Parser DeviceDiscovery.Output

/-- The list that `run_mock_mode` reports. -/
def mockInterfaces (contents : Bytes) : List RemoteInterface :=
  if parseIfconfigOutput contents = [] then parseIpAddrOutput contents
  else parseIfconfigOutput contents

theorem runMockMode_of_readFile {options : Options} {world : World} {contents : Bytes}
    (h : world.readFile options.mockIfconfigFile = some contents) :
    runMockMode options world =
      if mockInterfaces contents = [] then
        refuse (bytes "Error: could not parse network interfaces from " ++
          options.mockIfconfigFile ++ bytes "\n") .parseFailed
      else reportInterfaces options
        { discoveryStage := "mock", interfaces := mockInterfaces contents } none := by
  unfold runMockMode
  rw [h]
  rfl

/-! ### A block of `ip -4 addr` output as a block of `ifconfig` output -/

/-- What the block is taken for: its addresses, and one that its header may show,
under its number. -/
def numberedReports (b : IpAddrBlock) : List RemoteInterface :=
  ((extractInetAddress b.header :: b.interface.addresses.map inetNtop).filter (· ≠ [])).map
    fun ipv4 => ⟨decimal b.index, ipv4⟩

theorem isReported_decimal (n : ℕ) {ipv4 : Bytes} (h : ipv4 ≠ []) :
    IsReported ⟨decimal n, ipv4⟩ := by
  have hletter : ('l' : UInt8) ∉ decimal n := by
    intro hmem
    cases isDigit_of_mem_decimal hmem
  refine ⟨decimal_ne_nil n, h, ?_⟩
  rw [Bool.eq_false_iff]
  intro hloop
  simp only [isLoopbackInterfaceName, Bool.or_eq_true, beq_iff_eq] at hloop
  rcases hloop with hloop | hloop <;> exact hletter (hloop ▸ by decide)

theorem opens_header (b : IpAddrBlock) : ifconfigFormat.opens b.header = true := by
  cases hdigits : decimal b.index with
  | nil => exact absurd hdigits (decimal_ne_nil _)
  | cons c cs =>
      have hdigit : isDigit c = true := isDigit_of_mem_decimal (n := b.index) (by simp [hdigits])
      simp [ifconfigFormat, IpAddrBlock.header, hdigits, isSpace_eq_false_of_isDigit hdigit]

theorem name_header (b : IpAddrBlock) : ifconfigFormat.name b.header = decimal b.index := by
  obtain ⟨rest, htokens⟩ := tokens_header_ipAddr b
  have hat : ('@' : UInt8) ∉ decimal b.index := fun hc => nomatch isDigit_of_mem_decimal hc
  show normalizeName ((tokens b.header).headD []) = _
  rw [htokens, List.headD_cons, normalizeName_colon]
  exact List.takeWhile_eq_self_iff.mpr (bne_of_notMem hat)

theorem not_opens_line (l : IpAddrLine) : ifconfigFormat.opens l.text = false := by
  have hindent (indent : Indent) (t : Bytes) : ifconfigFormat.opens (indent.text ++ t) = false := by
    cases hi : indent.text with
    | nil => exact absurd hi indent.nonempty
    | cons c cs => simp [ifconfigFormat, indent.isGap c (by simp [hi])]
  cases l <;> simp only [IpAddrLine.text, List.append_assoc] <;> exact hindent _ _

theorem filter_isReported_decimal (n : ℕ) (addresses : List Bytes) :
    (addresses.map fun ipv4 => (⟨decimal n, ipv4⟩ : RemoteInterface)).filter
        (fun r => IsReported r) =
      (addresses.filter (· ≠ [])).map fun ipv4 => ⟨decimal n, ipv4⟩ := by
  rw [List.filter_map]
  congr 1
  refine List.filter_congr fun ipv4 _ => ?_
  by_cases hnone : ipv4 = []
  · have hnot : ¬IsReported ⟨decimal n, []⟩ := fun h => h.2.1 rfl
    simp [hnot, hnone]
  · simp [isReported_decimal n hnone, hnone]

/-- The addresses of the lines, whichever parser reads them. -/
theorem addresses_text (b : IpAddrBlock) :
    (b.text.map extractInetAddress).filter (· ≠ []) =
      (extractInetAddress b.header :: b.interface.addresses.map inetNtop).filter (· ≠ []) := by
  have hblank (n : ℕ) : ((List.replicate n []).map extractInetAddress).filter (· ≠ []) = [] := by
    have hnone : extractInetAddress [] = [] := by decide
    rw [List.map_replicate, hnone, List.filter_eq_nil_iff]
    intro t ht
    simp [(List.mem_replicate.mp ht).2]
  have hlines (lines : List IpAddrLine) :
      ((lines.map IpAddrLine.text).map extractInetAddress).filter (· ≠ []) =
        ((lines.filterMap IpAddrLine.address?).map inetNtop).filter (· ≠ []) := by
    induction lines with
    | nil => rfl
    | cons l lines ih =>
        have haddress := inetAddressOfTokens_detail l
        rw [← extractInetAddress_eq] at haddress
        rw [List.map_cons, List.map_cons, haddress, List.filter_cons, ih]
        cases ha : l.address? with
        | none => simp [ha]
        | some a => simp [ha, inetNtop_ne_nil]
  rw [IpAddrBlock.text, List.map_append, List.filter_append, hblank, List.append_nil,
    List.map_cons, List.filter_cons, List.filter_cons, hlines]
  rfl

theorem foldl_numbered (b : IpAddrBlock) (s : ParseState) :
    b.text.foldl ifconfigLine s = ⟨decimal b.index, appendAll s.interfaces
      ((b.text.map extractInetAddress).map fun ipv4 => ⟨decimal b.index, ipv4⟩)⟩ := by
  have hinside : ∀ text ∈ b.lines.map IpAddrLine.text ++ List.replicate b.blankLines [],
      ifconfigFormat.opens text = false := by
    intro text htext
    rcases List.mem_append.mp htext with htext | htext
    · obtain ⟨l, -, rfl⟩ := List.mem_map.mp htext
      exact not_opens_line l
    · rw [(List.mem_replicate.mp htext).2]
      rfl
  have hblock := ifconfigFormat.foldl_block (opens_header b) hinside s
  rw [name_header] at hblock
  rw [funext₂ ifconfigLine_eq, List.map_map]
  exact hblock

/-- `parse_ifconfig_output` on a capture of `ip -4 addr`. -/
theorem parseIfconfigOutput_renderIpAddr (blocks : List IpAddrBlock) :
    parseIfconfigOutput (renderIpAddr blocks) = (blocks.flatMap numberedReports).eraseDups := by
  have hfold (s : ParseState) :
      ((blocks.flatMap IpAddrBlock.text).foldl ifconfigLine s).interfaces =
        appendAll s.interfaces (blocks.flatMap fun b =>
          (b.text.map extractInetAddress).map fun ipv4 => ⟨decimal b.index, ipv4⟩) := by
    induction blocks generalizing s with
    | nil => rfl
    | cons b blocks ih =>
        rw [List.flatMap_cons, List.foldl_append, foldl_numbered, ih, ← appendAll_append]
        rfl
  have hnumbered (b : IpAddrBlock) : ((b.text.map extractInetAddress).map fun ipv4 =>
      (⟨decimal b.index, ipv4⟩ : RemoteInterface)).filter (fun r => IsReported r) =
      numberedReports b := by
    rw [filter_isReported_decimal, addresses_text, numberedReports]
  rw [parseIfconfigOutput, renderIpAddr, splitLines_unlines_flatMap newline_notMem_ipAddrBlock,
    hfold, appendAll_eq_eraseDups, List.filter_flatMap]
  simp only [hnumbered]

/-! ### When the two parsers agree -/

/-- What `parse_ip_addr_output` takes from a block, with repetitions. -/
def namedReports (b : IpAddrBlock) : List RemoteInterface :=
  if isLoopbackInterfaceName b.name.text then [] else b.interface.reports

theorem expected_eq (blocks : List IpAddrBlock) :
    (ipAddrDevice blocks).expected = (blocks.flatMap namedReports).eraseDups := by
  rw [Device.expected, ipAddrDevice]
  congr 1
  induction blocks with
  | nil => rfl
  | cons b blocks ih =>
      rw [List.map_cons, List.filter_cons, List.flatMap_cons, ← ih]
      by_cases hloop : isLoopbackInterfaceName b.name.text = true
      · simp [namedReports, IpAddrBlock.interface, hloop]
      · simp [namedReports, IpAddrBlock.interface, hloop]

theorem mem_named {b : IpAddrBlock} {r : RemoteInterface} (h : r ∈ namedReports b) :
    r.name = b.name.text ∧ ∃ a ∈ b.interface.addresses, r.ipv4 = inetNtop a := by
  unfold namedReports at h
  split at h
  · cases h
  · obtain ⟨a, ha, rfl⟩ := List.mem_map.mp h
    exact ⟨rfl, a, ha, rfl⟩

/-- Every address of a capture is taken by the first parser. -/
theorem mockInterfaces_renderIpAddr {blocks : List IpAddrBlock}
    (h : (ipAddrDevice blocks).expected ≠ []) :
    mockInterfaces (renderIpAddr blocks) = (blocks.flatMap numberedReports).eraseDups ∧
      mockInterfaces (renderIpAddr blocks) ≠ [] := by
  obtain ⟨r, hr⟩ := List.exists_mem_of_ne_nil _ h
  rw [expected_eq, List.mem_eraseDups, List.mem_flatMap] at hr
  obtain ⟨b, hb, hr⟩ := hr
  obtain ⟨-, a, ha, -⟩ := mem_named hr
  have hmem : (⟨decimal b.index, inetNtop a⟩ : RemoteInterface) ∈
      (blocks.flatMap numberedReports).eraseDups := by
    rw [List.mem_eraseDups, List.mem_flatMap]
    refine ⟨b, hb, List.mem_map_of_mem (List.mem_filter.mpr ⟨?_, ?_⟩)⟩
    · exact List.mem_cons_of_mem _ (List.mem_map_of_mem ha)
    · simpa using inetNtop_ne_nil a
  have hsome := List.ne_nil_of_mem hmem
  rw [mockInterfaces, parseIfconfigOutput_renderIpAddr, if_neg hsome]
  exact ⟨rfl, hsome⟩

theorem numbered_of_quiet {b : IpAddrBlock} (h : extractInetAddress b.header = []) :
    numberedReports b = b.interface.addresses.map fun a => ⟨decimal b.index, inetNtop a⟩ := by
  have hkeep : (b.interface.addresses.map inetNtop).filter (· ≠ []) =
      b.interface.addresses.map inetNtop := by
    rw [List.filter_eq_self]
    intro ipv4 hipv4
    obtain ⟨a, -, rfl⟩ := List.mem_map.mp hipv4
    simpa using inetNtop_ne_nil a
  rw [numberedReports, h, List.filter_cons_of_neg (by simp), hkeep, List.map_map]
  rfl

theorem length_named_le {b : IpAddrBlock} (h : extractInetAddress b.header = []) :
    (namedReports b).eraseDups.length ≤ (numberedReports b).eraseDups.length := by
  have hlength (name : Bytes) : (b.interface.addresses.map fun a =>
      (⟨name, inetNtop a⟩ : RemoteInterface)).eraseDups.length =
        b.interface.addresses.eraseDups.length := by
    have hinjective : Function.Injective fun a => (⟨name, inetNtop a⟩ : RemoteInterface) :=
      fun a a' h => inetNtop_injective (congrArg RemoteInterface.ipv4 h)
    rw [eraseDups_map_of_injective hinjective, List.length_map]
  rw [numbered_of_quiet h, hlength]
  unfold namedReports
  split
  · exact Nat.zero_le _
  · exact (hlength b.name.text).le

/-- Blocks that are told apart by their numbers, none of which shows an address in
its header, are read alike exactly when each one with an address is called by its
number. -/
theorem numbered_eq_expected_iff {blocks : List IpAddrBlock}
    (hnumbers : (blocks.map IpAddrBlock.index).Nodup)
    (hquiet : ∀ b ∈ blocks, extractInetAddress b.header = []) :
    (blocks.flatMap numberedReports).eraseDups = (ipAddrDevice blocks).expected ↔
      ∀ b ∈ blocks, b.interface.addresses ≠ [] → b.name.text = decimal b.index := by
  rw [expected_eq]
  constructor
  · intro h b hb hsome
    obtain ⟨a, ha⟩ := List.exists_mem_of_ne_nil _ hsome
    have hdisjoint : blocks.Pairwise fun b c =>
        List.Disjoint (numberedReports b) (numberedReports c) := by
      refine (List.pairwise_map.mp hnumbers).imp fun {b c} hne r hrb hrc => ?_
      obtain ⟨_, -, rfl⟩ := List.mem_map.mp hrb
      obtain ⟨_, -, hr⟩ := List.mem_map.mp hrc
      exact hne (decimal_injective (congrArg RemoteInterface.name hr)).symm
    rw [eraseDups_flatMap_of_disjoint hdisjoint] at h
    have hmem : (⟨decimal b.index, inetNtop a⟩ : RemoteInterface) ∈
        (numberedReports b).eraseDups := by
      rw [List.mem_eraseDups, numbered_of_quiet (hquiet b hb)]
      exact List.mem_map_of_mem ha
    -- No block has more entries under its name than under its number, so the lists
    -- can only be equal block by block.
    have hnamed := subset_of_flatMap_eq_eraseDups (fun c hc => length_named_le (hquiet c hc)) h b hb
      hmem
    exact (mem_named hnamed).1.symm
  · intro h
    -- A number is not the loopback device's name, so nothing is filtered.
    have hsame : ∀ b ∈ blocks, numberedReports b = namedReports b := by
      intro b hb
      rw [numbered_of_quiet (hquiet b hb)]
      by_cases hnone : b.interface.addresses = []
      · simp [namedReports, Interface.reports, hnone]
      · have hname := h b hb hnone
        have hloop := (isReported_decimal b.index (List.cons_ne_nil 0 [])).2.2
        rw [namedReports, hname, hloop, Interface.reports]
        simp [IpAddrBlock.interface, hname]
    rw [List.flatMap_congr hsame]

/-- When the offline mode reports what `parse_ip_addr_output` makes of a capture with
an address that is not the loopback device's: when the capture shows the same pairs
under the numbers as under the names. Numbers that differ, above headers without an
address, leave only captures where each interface with an address, the loopback
device too, is called by its number. -/
theorem mock_reads_ip_capture_iff (options : Options) (world : World) (blocks : List IpAddrBlock)
    (hfile : world.readFile options.mockIfconfigFile = some (renderIpAddr blocks))
    (hsome : (ipAddrDevice blocks).expected ≠ []) :
    let contents := renderIpAddr blocks
    let faithful := mockInterfaces contents = parseIpAddrOutput contents
    runMockMode options world = reportInterfaces options
        { discoveryStage := "mock", interfaces := mockInterfaces contents } none ∧
      (faithful ↔ (blocks.flatMap numberedReports).eraseDups = (ipAddrDevice blocks).expected) ∧
      ((blocks.map IpAddrBlock.index).Nodup →
        (∀ b ∈ blocks, extractInetAddress b.header = []) →
        (faithful ↔ ∀ b ∈ blocks, b.interface.addresses ≠ [] →
          b.name.text = decimal b.index)) := by
  intro contents faithful
  obtain ⟨hmock, hreported⟩ := mockInterfaces_renderIpAddr hsome
  have hfaithful : faithful ↔
      (blocks.flatMap numberedReports).eraseDups = (ipAddrDevice blocks).expected := by
    show mockInterfaces _ = parseIpAddrOutput _ ↔ _
    rw [hmock, parseIpAddrOutput_render]
  refine ⟨?_, hfaithful, fun hnumbers hquiet => ?_⟩
  · rw [runMockMode_of_readFile hfile, if_neg hreported]
  · exact hfaithful.trans (numbered_eq_expected_iff hnumbers hquiet)

section Sample

private def sampleIndent : Indent := ⟨"    ", by decide, forall_mem_of_all (by decide)⟩

private def sampleTail : Tail := ⟨" scope global", by decide, by decide⟩

private def sampleBlock (index : ℕ) (name : InterfaceName) (address : Address) : IpAddrBlock :=
  ⟨index, name, none, "UP> mtu 1500", by decide, [.inet sampleIndent address 24 sampleTail], 0⟩

/-- The loopback device, and one interface of the given name. -/
private def sampleCapture (name : InterfaceName) : List IpAddrBlock :=
  [sampleBlock 1 lo (ofOctets 127 0 0 1),
    sampleBlock 2 name (ofOctets 192 168 10 50)]

private def mockWorld (contents : Bytes) : World :=
  { sampleWorld "secret" noOutput with readFile := fun _ => some contents }

theorem mock_reads_ip_capture_iff_sample :
    let blocks := [sampleBlock 2 ⟨"2", by decide, forall_mem_of_all (by decide)⟩
      (ofOctets 192 168 10 50)]
    mockInterfaces (renderIpAddr blocks) = parseIpAddrOutput (renderIpAddr blocks) := by
  intro blocks
  refine ((mock_reads_ip_capture_iff {} (mockWorld (renderIpAddr blocks)) blocks rfl
    (by decide)).2.2 (by decide) (by decide +kernel)).mpr ?_
  intro b hb _
  rw [List.mem_singleton.mp hb]
  decide

/-- The loopback device and the interface are reported as two interfaces called by
their numbers, and the run succeeds. -/
theorem ip_capture_misread :
    let contents := renderIpAddr (sampleCapture ⟨"eth0", by decide, forall_mem_of_all (by decide)⟩)
    parseIpAddrOutput contents = [⟨"eth0", "192.168.10.50"⟩] ∧
      mockInterfaces contents = [⟨"1", "127.0.0.1"⟩, ⟨"2", "192.168.10.50"⟩] ∧
      (runMockMode {} (mockWorld contents)).exitCode = .success := by
  decide +kernel

end Sample

end DeviceDiscovery.Main
