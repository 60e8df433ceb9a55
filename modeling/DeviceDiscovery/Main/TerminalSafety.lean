import DeviceDiscovery.Main.InterfaceCount

/-!
Control characters in the text report.

The report is written in pieces, the formatter's own words and the fields. It is
safe for a terminal when the only control characters are line feeds in the own
words. The banner is sanitised before it becomes a field, the names and addresses
of the interfaces are not: they are what the output of the remote command has
between its white space.
-/

namespace DeviceDiscovery.Main

open Foundation DeviceDiscovery.Platform DeviceDiscovery.Scanner DeviceDiscovery.Parser
  DeviceDiscovery.Output

/-! ### The report in pieces -/

inductive Piece where
  | own (text : Bytes)
  | field (text : Bytes)

open Piece

def Piece.text : Piece → Bytes
  | .own text => text
  | .field text => text

def linePieces (width : ℕ) (iface : RemoteInterface) : List Piece :=
  [own "  ", field (List.rightpad (width + 2) (' ' : UInt8) iface.name), field iface.ipv4,
    own "\n"]

def viaPieces (report : DiscoveryReport) : List Piece :=
  if report.interfaceName = [] then []
  else
    let stage := if report.discoveryStage = [] then []
      else [own " (", field report.discoveryStage, own ")"]
    [own "  Via:      ", field report.interfaceName] ++ stage ++ [own "\n"]

def hostKeyPieces (report : DiscoveryReport) : List Piece :=
  if report.hostKeyStatus = [] then []
  else [own "  Host key: ", field report.hostKeyStatus, own "\n"]

def headerPieces (report : DiscoveryReport) : List Piece :=
  if report.sshIp = [] then [own "Network interfaces:\n"]
  else
    [own "Directly connected device discovered\n\n", own "SSH endpoint:\n",
      own "  IP:       ", field report.sshIp, own "\n",
      own "  Banner:   ", field report.sshBanner, own "\n"] ++
      viaPieces report ++ hostKeyPieces report ++ [own "\nNetwork interfaces:\n"]

def interfacePieces (report : DiscoveryReport) : List Piece :=
  if report.interfaces = [] then [own "  (none found)\n"]
  else report.interfaces.flatMap (linePieces (nameWidth report.interfaces))

def warningPieces (report : DiscoveryReport) : List Piece :=
  if report.warnings = [] then []
  else own "\n" :: report.warnings.flatMap fun warning =>
    [own "WARNING: ", field warning, own "\n"]

/-- What `format_text` writes, in order. -/
def textPieces (report : DiscoveryReport) : List Piece :=
  headerPieces report ++ interfacePieces report ++ warningPieces report

theorem text_viaPieces (report : DiscoveryReport) :
    (viaPieces report).flatMap Piece.text =
      if report.interfaceName = [] then []
      else bytes "  Via:      " ++ report.interfaceName ++
        (if report.discoveryStage = [] then []
          else bytes " (" ++ report.discoveryStage ++ bytes ")") ++ bytes "\n" := by
  unfold viaPieces
  split
  · rfl
  · split <;> simp [Piece.text]

theorem text_textPieces (report : DiscoveryReport) :
    (textPieces report).flatMap Piece.text = formatText report := by
  have hheader : (headerPieces report).flatMap Piece.text = textHeader report := by
    unfold headerPieces textHeader
    split
    · simp [Piece.text]
    · have hkey : (hostKeyPieces report).flatMap Piece.text =
          if report.hostKeyStatus = [] then []
          else bytes "  Host key: " ++ report.hostKeyStatus ++ bytes "\n" := by
        unfold hostKeyPieces
        split
        · rfl
        · simp [Piece.text]
      simp only [List.flatMap_append, text_viaPieces, hkey]
      simp [Piece.text]
  have hinterfaces : (interfacePieces report).flatMap Piece.text =
      if report.interfaces = [] then bytes "  (none found)\n"
      else report.interfaces.flatMap (textLine (nameWidth report.interfaces)) := by
    have hline (width : ℕ) (iface : RemoteInterface) :
        (linePieces width iface).flatMap Piece.text = textLine width iface := by
      simp [linePieces, textLine, Piece.text]
    unfold interfacePieces
    split
    · simp [Piece.text]
    · rw [List.flatMap_assoc]
      simp only [hline]
  have hwarnings : (warningPieces report).flatMap Piece.text =
      if report.warnings = [] then []
      else bytes "\n" ++ report.warnings.flatMap fun warning =>
        bytes "WARNING: " ++ warning ++ bytes "\n" := by
    unfold warningPieces
    split
    · rfl
    · rw [List.flatMap_cons, List.flatMap_assoc]
      simp [Piece.text]
  rw [textPieces, List.flatMap_append, List.flatMap_append, hheader, hinterfaces, hwarnings]
  rfl

/-! ### Control characters -/

def isControl (c : UInt8) : Bool := c < 0x20 || c == 0x7f

/-- Text without a control character. -/
def Plain (text : Bytes) : Prop := ∀ c ∈ text, isControl c = false

instance (text : Bytes) : Decidable (Plain text) := inferInstanceAs (Decidable (∀ _ ∈ _, _))

/-- A piece that leaves the terminal alone: the formatter's own control characters are
line feeds, and a field has none. -/
def Piece.Safe : Piece → Prop
  | .own text => ∀ c ∈ text, isControl c = true → c = '\n'
  | .field text => Plain text

/-- Every control character of the text report is a line feed that the formatter
itself wrote. -/
def TerminalSafe (report : DiscoveryReport) : Prop := ∀ piece ∈ textPieces report, piece.Safe

/-- The fields that do not come from the remote output or the banner. -/
structure PlainFields (report : DiscoveryReport) : Prop where
  sshIp : Plain report.sshIp
  interfaceName : Plain report.interfaceName
  discoveryStage : Plain report.discoveryStage
  hostKeyStatus : Plain report.hostKeyStatus
  warnings : ∀ warning ∈ report.warnings, Plain warning

theorem sanitizeByte_not_control : ∀ n < 256, isControl (sanitizeByte (UInt8.ofNat n)) = false := by
  decide +kernel

theorem plain_sanitizeBanner (raw : Bytes) : Plain (sanitizeBanner raw) := by
  intro c hc
  have hmem := (List.rdropWhile_prefix _ _).mem hc
  obtain ⟨d, -, rfl⟩ := List.mem_map.mp hmem
  have hd := sanitizeByte_not_control d.toNat d.toNat_lt
  rwa [UInt8.ofNat_toNat] at hd

/-- Whatever bytes are received for an identification. -/
theorem plain_readSshBanner (os : BannerAnswers) (handle : Socket) (ip : Bytes) (timeout : ℤ) :
    Plain (readSshBanner os handle ip timeout).1.banner := by
  unfold readSshBanner classifyBanner
  dsimp only
  split
  · exact fun c hc => nomatch hc
  · exact plain_sanitizeBanner _

theorem plain_rightpad_iff (width : ℕ) (name : Bytes) :
    Plain (List.rightpad width (' ' : UInt8) name) ↔ Plain name := by
  unfold List.rightpad
  constructor
  · intro h c hc
    exact h c (List.mem_append_left _ hc)
  · intro h c hc
    rcases List.mem_append.mp hc with hc | hc
    · exact h c hc
    · rw [List.eq_of_mem_replicate hc]
      decide

/-! ### When the report is safe -/

theorem safe_own {text : Bytes}
    (h : text.all (fun c => decide (isControl c = true → c = '\n')) = true) : (own text).Safe :=
  forall_mem_of_all h

theorem safe_linePieces_iff (width : ℕ) (iface : RemoteInterface) :
    (∀ piece ∈ linePieces width iface, piece.Safe) ↔ Plain iface.name ∧ Plain iface.ipv4 := by
  have hindent : (own "  ").Safe := safe_own (by decide)
  have hend : (own "\n").Safe := safe_own (by decide)
  have hname := plain_rightpad_iff (width + 2) iface.name
  simp only [linePieces, List.forall_mem_cons, List.not_mem_nil, false_implies, implies_true,
    and_true, hindent, hend, true_and]
  exact and_congr_left fun _ => hname

theorem safe_interfacePieces_iff (report : DiscoveryReport) :
    (∀ piece ∈ interfacePieces report, piece.Safe) ↔
      ∀ r ∈ report.interfaces, Plain r.name ∧ Plain r.ipv4 := by
  unfold interfacePieces
  split
  · rename_i hnone
    have hown : (own "  (none found)\n").Safe := safe_own (by decide)
    simp [hnone, hown]
  · rw [List.forall_mem_flatMap]
    exact forall₂_congr fun r _ => safe_linePieces_iff _ r

/-- The formatter's own words in the header. -/
theorem safe_headerWords : ∀ text ∈ ([bytes "Network interfaces:\n",
    bytes "Directly connected device discovered\n\n", bytes "SSH endpoint:\n",
    bytes "  IP:       ", bytes "\n", bytes "  Banner:   ", bytes "  Via:      ", bytes " (",
    bytes ")", bytes "  Host key: ", bytes "\nNetwork interfaces:\n"] : List Bytes),
    (own text).Safe := by
  intro text htext
  refine safe_own ?_
  revert text
  decide

theorem safe_headerPieces {report : DiscoveryReport} (h : PlainFields report)
    (hbanner : Plain report.sshBanner) : ∀ piece ∈ headerPieces report, piece.Safe := by
  have hown (text : Bytes) := safe_headerWords text
  have hvia : ∀ piece ∈ viaPieces report, piece.Safe := by
    have hname : (field report.interfaceName).Safe := h.interfaceName
    have hstage : (field report.discoveryStage).Safe := h.discoveryStage
    unfold viaPieces
    split
    · exact fun piece hpiece => nomatch hpiece
    · split <;> simp [hown, hname, hstage]
  have hhostKey : ∀ piece ∈ hostKeyPieces report, piece.Safe := by
    have hstatus : (field report.hostKeyStatus).Safe := h.hostKeyStatus
    unfold hostKeyPieces
    split
    · exact fun piece hpiece => nomatch hpiece
    · simp [hown, hstatus]
  unfold headerPieces
  split
  · simp [hown]
  · have hip : (field report.sshIp).Safe := h.sshIp
    have hshown : (field report.sshBanner).Safe := hbanner
    simp only [List.forall_mem_append]
    refine ⟨⟨⟨?_, hvia⟩, hhostKey⟩, ?_⟩ <;> simp [hown, hip, hshown]

theorem safe_warningPieces {report : DiscoveryReport} (h : PlainFields report) :
    ∀ piece ∈ warningPieces report, piece.Safe := by
  have hend : (own "\n").Safe := safe_own (by decide)
  have hmark : (own "WARNING: ").Safe := safe_own (by decide)
  unfold warningPieces
  split
  · exact fun piece hpiece => nomatch hpiece
  · refine List.forall_mem_cons.mpr ⟨hend, ?_⟩
    rw [List.forall_mem_flatMap]
    intro warning hwarning
    have htext : (field warning).Safe := h.warnings warning hwarning
    simp [hend, hmark, htext]

/-- The report is safe for a terminal exactly when the remote output has no control
character in a name or an address that is reported. -/
theorem terminalSafe_iff (os : BannerAnswers) (handle : Socket) (ip : Bytes) (timeout : ℤ)
    (source output : Bytes) (report : DiscoveryReport) (hfields : PlainFields report)
    (hbanner : report.sshBanner = (readSshBanner os handle ip timeout).1.banner)
    (hinterfaces : report.interfaces = parseOutput source output) :
    (textPieces report).flatMap Piece.text = formatText report ∧
      (TerminalSafe report ↔
        ∀ r, (outputFormat source).Shows (splitLines ('\n' : UInt8) output) r →
          Plain r.name ∧ Plain r.ipv4) := by
  refine ⟨text_textPieces report, ?_⟩
  -- The header and the warnings are safe in any case; the names and addresses decide.
  have hheader := safe_headerPieces hfields (hbanner ▸ plain_readSshBanner os handle ip timeout)
  have hwarnings := safe_warningPieces hfields
  simp only [← mem_parseOutput_iff, ← hinterfaces]
  rw [← safe_interfacePieces_iff, TerminalSafe, textPieces]
  simp only [List.forall_mem_append]
  exact ⟨fun h => h.1.2, fun h => ⟨⟨hheader, h⟩, hwarnings⟩⟩

/-! ### A name that is an escape sequence -/

/-- One interface of the given name. -/
def namedOutput (name : Bytes) : Bytes :=
  name ++ bytes ": flags=67<UP>\n  inet 10.20.30.7  netmask 255.255.255.0\n"

def peerBanner : BannerAnswers := ⟨0, [⟨0, 1, bytes "SSH-2.0-dropbear\r\n"⟩]⟩

/-- The report of a peer that answers with one interface of the given name. -/
def peerReport (name : Bytes) : DiscoveryReport where
  sshIp := "10.0.0.1"
  sshBanner := (readSshBanner peerBanner 7 "10.0.0.1" 3000).1.banner
  interfaces := parseOutput "ifconfig" (namedOutput name)

theorem plainFields_peerReport (name : Bytes) : PlainFields (peerReport name) where
  sshIp := show Plain (bytes "10.0.0.1") from forall_mem_of_all (by decide)
  interfaceName := fun _ h => nomatch h
  discoveryStage := fun _ h => nomatch h
  hostKeyStatus := fun _ h => nomatch h
  warnings := fun _ h => nomatch h

theorem terminalSafe_iff_sample : TerminalSafe (peerReport "eth0") := by
  refine (terminalSafe_iff peerBanner 7 "10.0.0.1" 3000 "ifconfig" (namedOutput "eth0")
    (peerReport "eth0") (plainFields_peerReport "eth0") rfl rfl).2.mpr fun r hr => ?_
  rw [← mem_parseOutput_iff] at hr
  have hplain : ∀ r ∈ parseOutput "ifconfig" (namedOutput "eth0"), Plain r.name ∧ Plain r.ipv4 := by
    decide +kernel
  exact hplain r hr

/-- A peer that names an interface by the sequence that clears the screen has it
printed. -/
theorem escape_sequence_printed :
    let name := bytes "e\x1b[2J"
    let world := sampleWorld "secret" (.more ⟨namedOutput name, by decide, by decide +kernel⟩
      (.last 0 (le_refl 0)))
    ¬TerminalSafe (peerReport name) ∧ contains (formatText (peerReport name)) name = true ∧
      contains (tryRun {} world).stdout name = true := by
  refine ⟨fun h => ?_, by decide +kernel, by decide +kernel⟩
  have hinterfaces : (peerReport (bytes "e\x1b[2J")).interfaces =
      [⟨bytes "e\x1b[2J", bytes "10.20.30.7"⟩] := by
    decide +kernel
  have hsafe := (safe_interfacePieces_iff (peerReport (bytes "e\x1b[2J"))).mp
    fun piece hpiece => h piece (List.mem_append_left _ (List.mem_append_right _ hpiece))
  rw [hinterfaces] at hsafe
  exact absurd (hsafe _ (List.mem_singleton_self _)).1 (by decide)

end DeviceDiscovery.Main
