import DeviceDiscovery.Foundation.Words
import DeviceDiscovery.Output.Formatter

/-!
Reading the text report.

The text is a list of lines: the header, a line for each interface, and the
warnings behind an empty line. A reader takes it apart again, and gets the report
back that was printed (`formatText_round_trip`), if no field breaks a line and the
fields of the table are words.
-/

namespace DeviceDiscovery.Output

open Foundation DeviceDiscovery.Parser

/-! ### The lines -/

def tableHeading : Bytes := "Network interfaces:"

def emptyTable : Bytes := "  (none found)"

def viaText (report : DiscoveryReport) : Bytes :=
  bytes "  Via:      " ++ report.interfaceName ++ bytes " (" ++ report.discoveryStage ++ bytes ")"

/-- The header of a report on a device, all of whose fields are known. -/
def headerLines (report : DiscoveryReport) : List Bytes :=
  [bytes "Directly connected device discovered", [], bytes "SSH endpoint:",
    bytes "  IP:       " ++ report.sshIp, bytes "  Banner:   " ++ report.sshBanner, viaText report,
    bytes "  Host key: " ++ report.hostKeyStatus, [], tableHeading]

def rowText (width : ℕ) (iface : RemoteInterface) : Bytes :=
  bytes "  " ++ List.rightpad (width + 2) (' ' : UInt8) iface.name ++ iface.ipv4

def tableLines (interfaces : List RemoteInterface) : List Bytes :=
  if interfaces = [] then [emptyTable] else interfaces.map (rowText (nameWidth interfaces))

def warningText (warning : Bytes) : Bytes := bytes "WARNING: " ++ warning

def warningLines (warnings : List Bytes) : List Bytes :=
  if warnings = [] then [] else [] :: warnings.map warningText

def textLines (report : DiscoveryReport) : List Bytes :=
  headerLines report ++ (tableLines report.interfaces ++ warningLines report.warnings)

/-- A report whose text can be read back. -/
structure Readable (report : DiscoveryReport) : Prop where
  some : report.sshIp ≠ [] ∧ report.interfaceName ≠ [] ∧ report.discoveryStage ≠ [] ∧
    report.hostKeyStatus ≠ []
  unbroken : ∀ field ∈ [report.sshIp, report.sshBanner, report.interfaceName,
    report.discoveryStage, report.hostKeyStatus], ('\n' : UInt8) ∉ field
  stage : ('(' : UInt8) ∉ report.discoveryStage
  names : ∀ iface ∈ report.interfaces, IsWord isSpace iface.name
  addresses : ∀ iface ∈ report.interfaces, IsWord isSpace iface.ipv4
  warnings : ∀ warning ∈ report.warnings, ('\n' : UInt8) ∉ warning

theorem unlines_append (nl : UInt8) (lines lines' : List Bytes) :
    unlines nl (lines ++ lines') = unlines nl lines ++ unlines nl lines' :=
  List.flatMap_append

theorem formatText_eq_unlines {report : DiscoveryReport} (h : Readable report) :
    formatText report = unlines ('\n' : UInt8) (textLines report) := by
  obtain ⟨hip, hname, hstage, hkey⟩ := h.some
  have hend : bytes "\n" = [('\n' : UInt8)] := by decide
  have htable : (if report.interfaces = [] then bytes "  (none found)\n"
      else report.interfaces.flatMap (textLine (nameWidth report.interfaces))) =
        unlines ('\n' : UInt8) (tableLines report.interfaces) := by
    unfold tableLines
    split
    · decide
    · rw [unlines, List.flatMap_map]
      apply List.flatMap_congr
      intro iface _
      rw [textLine, rowText, hend]
  have hwarnings : (if report.warnings = [] then [] else bytes "\n" ++
      report.warnings.flatMap fun warning => bytes "WARNING: " ++ warning ++ bytes "\n") =
        unlines ('\n' : UInt8) (warningLines report.warnings) := by
    unfold warningLines
    split
    · rfl
    · rw [unlines_cons, unlines, List.flatMap_map, hend]
      rfl
  have hheader : textHeader report = unlines ('\n' : UInt8) (headerLines report) := by
    have hfirst : bytes "Directly connected device discovered\n\n" =
        bytes "Directly connected device discovered" ++ bytes "\n" ++ bytes "\n" := by decide
    have hendpoint : bytes "SSH endpoint:\n" = bytes "SSH endpoint:" ++ bytes "\n" := by decide
    have hheading : bytes "\nNetwork interfaces:\n" = bytes "\n" ++ tableHeading ++ bytes "\n" := by
      decide
    rw [textHeader, if_neg hip]
    dsimp only
    rw [if_neg hstage, if_neg hname, if_neg hkey, hfirst, hendpoint, hheading]
    simp only [headerLines, unlines, viaText, List.flatMap_cons, List.flatMap_nil, ← hend,
      List.append_assoc, List.append_nil, List.nil_append]
  rw [textLines, unlines_append, unlines_append, ← hheader, ← htable, ← hwarnings,
    ← List.append_assoc]
  rfl

/-! ### The reader -/

/-- What follows a mark at the start of a line. -/
def behind (mark line : Bytes) : Option Bytes :=
  if mark <+: line then some (line.drop mark.length) else none

@[simp] theorem behind_append (mark text : Bytes) : behind mark (mark ++ text) = some text := by
  rw [behind, if_pos (List.prefix_append mark text), List.drop_left]

/-- The interface and the stage, which is in the last pair of brackets. -/
def readVia (line : Bytes) : Option (Bytes × Bytes) :=
  (behind "  Via:      " line).map fun text =>
    let inner := text.dropLast
    (((inner.rdropWhile (· != ('(' : UInt8))).dropLast).dropLast,
      inner.rtakeWhile (· != ('(' : UInt8)))

def readRow (line : Bytes) : Option RemoteInterface :=
  match words isSpace line with
  | [name, ipv4] => some { name, ipv4 }
  | _ => none

def readTable (lines : List Bytes) : Option (List RemoteInterface) :=
  if lines = [emptyTable] then some [] else lines.mapM readRow

def readLines : List Bytes → Option DiscoveryReport
  | _ :: _ :: _ :: ip :: banner :: via :: hostKey :: _ :: _ :: rest => do
      let sshIp ← behind "  IP:       " ip
      let sshBanner ← behind "  Banner:   " banner
      let (interfaceName, discoveryStage) ← readVia via
      let hostKeyStatus ← behind "  Host key: " hostKey
      let interfaces ← readTable (rest.takeWhile (· ≠ []))
      let warnings ← (rest.dropWhile (· ≠ [])).tail.mapM (behind "WARNING: ")
      return {
        interfaceName, sshIp, sshBanner, hostKeyStatus, discoveryStage, interfaces, warnings }
  | _ => none

def readText (text : Bytes) : Option DiscoveryReport := readLines (splitLines ('\n' : UInt8) text)

theorem readVia_viaText {report : DiscoveryReport} (h : ('(' : UInt8) ∉ report.discoveryStage) :
    readVia (viaText report) = some (report.interfaceName, report.discoveryStage) := by
  have hopen : bytes " (" = [(' ' : UInt8), ('(' : UInt8)] := by decide
  have hclose : bytes ")" = [(')' : UInt8)] := by decide
  have hplain : ∀ c ∈ report.discoveryStage, (c != ('(' : UInt8)) = true := by
    intro c hc
    rw [bne_iff_ne]
    rintro rfl
    exact h hc
  let inner := report.interfaceName ++ [(' ' : UInt8), ('(' : UInt8)] ++ report.discoveryStage
  have hbehind : behind "  Via:      " (viaText report) = some (inner ++ [(')' : UInt8)]) := by
    rw [viaText, hopen, hclose]
    simp only [inner, List.append_assoc]
    exact behind_append _ _
  have hkept : inner.rdropWhile (· != ('(' : UInt8)) =
      report.interfaceName ++ [(' ' : UInt8), ('(' : UInt8)] := by
    have hstop : ¬((('(' : UInt8) != ('(' : UInt8)) = true) := by decide
    rw [rdropWhile_append_of_forall _ hplain, List.append_cons,
      List.rdropWhile_concat_neg (· != ('(' : UInt8)) _ _ hstop]
  have hstage : inner.rtakeWhile (· != ('(' : UInt8)) = report.discoveryStage := by
    have hcut := List.rdropWhile_append_rtakeWhile (p := (· != ('(' : UInt8))) (l := inner)
    rw [hkept] at hcut
    exact List.append_cancel_left hcut
  rw [readVia, hbehind, Option.map_some]
  simp only [List.dropLast_concat, hkept, hstage]
  rw [List.append_cons, List.dropLast_concat, List.dropLast_concat]

theorem readRow_rowText {width : ℕ} {iface : RemoteInterface} (hname : IsWord isSpace iface.name)
    (haddress : IsWord isSpace iface.ipv4) (hwidth : iface.name.length ≤ width) :
    readRow (rowText width iface) = some iface := by
  obtain ⟨pad, hpad⟩ := Nat.exists_eq_add_of_le hwidth
  have hspace : isSpace (' ' : UInt8) = true := by decide
  have hindent : IsGap isSpace (bytes "  ") := forall_mem_of_all (by decide)
  have hgap : IsGap isSpace (List.replicate (pad + 1) (' ' : UInt8)) := by
    intro c hc
    rw [List.eq_of_mem_replicate hc, hspace]
  have hrow : rowText width iface = bytes "  " ++ (iface.name ++ (' ' : UInt8) ::
      (List.replicate (pad + 1) (' ' : UInt8) ++ iface.ipv4)) := by
    have hfill : width + 2 - iface.name.length = pad + 1 + 1 := by omega
    rw [rowText, List.rightpad, hfill, List.replicate_succ]
    simp only [List.append_assoc, List.cons_append]
  have hwords : words isSpace (rowText width iface) = [iface.name, iface.ipv4] := by
    rw [hrow, words_gap_append hindent, words_append_sep_cons hspace, words_word hname,
      words_gap_append hgap, words_word haddress]
    rfl
  rw [readRow, hwords]

/-- The column is as wide as every name. -/
theorem length_le_nameWidth {interfaces : List RemoteInterface} {iface : RemoteInterface}
    (h : iface ∈ interfaces) : iface.name.length ≤ nameWidth interfaces := by
  have hfold : ∀ (list : List RemoteInterface) (width : ℕ),
      width ≤ list.foldl (fun width iface => max width iface.name.length) width ∧
        ∀ iface ∈ list, iface.name.length ≤
          list.foldl (fun width iface => max width iface.name.length) width := by
    intro list
    induction list with
    | nil => exact fun width => ⟨le_refl width, fun _ h => nomatch h⟩
    | cons first rest ih =>
        intro width
        obtain ⟨hwidth, hrest⟩ := ih (max width first.name.length)
        refine ⟨(le_max_left _ _).trans hwidth, fun iface hmem => ?_⟩
        rcases List.mem_cons.mp hmem with rfl | hmem
        · exact (le_max_right _ _).trans hwidth
        · exact hrest iface hmem
  exact (hfold interfaces 4).2 iface h

theorem rowText_ne {width : ℕ} {iface : RemoteInterface} (hname : IsWord isSpace iface.name)
    (haddress : IsWord isSpace iface.ipv4) (hwidth : iface.name.length ≤ width) :
    rowText width iface ≠ [] ∧ rowText width iface ≠ emptyTable := by
  have hread := readRow_rowText hname haddress hwidth
  refine ⟨fun hnil => ?_, fun hempty => ?_⟩
  · rw [hnil] at hread
    cases hread
  · -- The row of an entry with these words is longer.
    have hlength := congrArg List.length hempty
    rw [hempty] at hread
    have hentry : iface = ⟨bytes "(none", bytes "found)"⟩ :=
      (Option.some.inj ((show readRow emptyTable = some ⟨bytes "(none", bytes "found)"⟩ by
        decide).symm.trans hread)).symm
    rw [hentry] at hlength hwidth
    have hfive : (bytes "(none").length = 5 := by decide
    have hsix : (bytes "found)").length = 6 := by decide
    have htwo : (bytes "  ").length = 2 := by decide
    have hall : emptyTable.length = 14 := by decide
    simp only [rowText, List.rightpad, List.length_append, List.length_replicate, hfive, hsix, htwo,
      hall] at hlength hwidth
    omega

/-- A list is read back from what each of its items was written as. -/
theorem mapM_map_of_mem {α β : Type} {read : β → Option α} {write : α → β} {list : List α}
    (h : ∀ a ∈ list, read (write a) = some a) : (list.map write).mapM read = some list := by
  induction list with
  | nil => rfl
  | cons a rest ih =>
      have ha := h a List.mem_cons_self
      have hrest := ih fun b hb => h b (List.mem_cons_of_mem _ hb)
      rw [List.map_cons, List.mapM_cons, ha, hrest]
      rfl

theorem readTable_tableLines {interfaces : List RemoteInterface}
    (hnames : ∀ iface ∈ interfaces, IsWord isSpace iface.name)
    (haddresses : ∀ iface ∈ interfaces, IsWord isSpace iface.ipv4) :
    readTable (tableLines interfaces) = some interfaces ∧
      ∀ line ∈ tableLines interfaces, line ≠ [] := by
  unfold tableLines
  split
  · rename_i hnone
    rw [hnone]
    exact ⟨rfl, by decide⟩
  · rename_i hsome
    have hrow {iface : RemoteInterface} (h : iface ∈ interfaces) :=
      rowText_ne (hnames iface h) (haddresses iface h) (length_le_nameWidth h)
    have hrows : interfaces.map (rowText (nameWidth interfaces)) ≠ [emptyTable] := by
      intro hempty
      obtain ⟨iface, hmem⟩ := List.exists_mem_of_ne_nil _ hsome
      have hline := List.mem_map_of_mem (f := rowText (nameWidth interfaces)) hmem
      rw [hempty, List.mem_singleton] at hline
      exact (hrow hmem).2 hline
    constructor
    · rw [readTable, if_neg hrows]
      exact mapM_map_of_mem fun iface hmem =>
        readRow_rowText (hnames iface hmem) (haddresses iface hmem) (length_le_nameWidth hmem)
    · intro line hline
      obtain ⟨iface, hmem, rfl⟩ := List.mem_map.mp hline
      exact (hrow hmem).1

/-! ### The report -/

theorem notMem_append {c : UInt8} {s t : Bytes} (hs : c ∉ s) (ht : c ∉ t) : c ∉ s ++ t :=
  fun h => (List.mem_append.mp h).elim hs ht

/-- No line is broken by what is printed in it. -/
theorem Readable.unbroken_lines {report : DiscoveryReport} (h : Readable report) :
    ∀ line ∈ textLines report, ('\n' : UInt8) ∉ line := by
  have hspace : isSpace ('\n' : UInt8) = true := by decide
  have hword {word : Bytes} (hword : IsWord isSpace word) : ('\n' : UInt8) ∉ word := by
    intro hmem
    rw [hword.plain _ hmem] at hspace
    cases hspace
  have hfields := h.unbroken
  simp only [List.forall_mem_cons, List.not_mem_nil, false_implies, implies_true, and_true]
    at hfields
  obtain ⟨hip, hbanner, hname, hstage, hkey⟩ := hfields
  intro line hline
  simp only [textLines, List.mem_append] at hline
  rcases hline with hheader | htable | hwarning
  · simp only [headerLines, List.mem_cons, List.not_mem_nil, or_false] at hheader
    rcases hheader with rfl | rfl | rfl | rfl | rfl | rfl | rfl | rfl | rfl
    · decide
    · decide
    · decide
    · exact notMem_append (by decide) hip
    · exact notMem_append (by decide) hbanner
    · exact notMem_append (notMem_append (notMem_append (notMem_append (by decide) hname)
        (by decide)) hstage) (by decide)
    · exact notMem_append (by decide) hkey
    · decide
    · decide
  · unfold tableLines at htable
    split at htable
    · rw [List.mem_singleton.mp htable]
      decide
    · obtain ⟨iface, hmem, rfl⟩ := List.mem_map.mp htable
      refine notMem_append (notMem_append (by decide) ?_) (hword (h.addresses iface hmem))
      refine notMem_append (hword (h.names iface hmem)) fun hpad => ?_
      exact absurd (List.eq_of_mem_replicate hpad) (by decide)
  · unfold warningLines at hwarning
    split at hwarning
    · cases hwarning
    · rcases List.mem_cons.mp hwarning with rfl | hwarning
      · decide
      · obtain ⟨warning, hmem, rfl⟩ := List.mem_map.mp hwarning
        exact notMem_append (by decide) (h.warnings warning hmem)

theorem readWarnings_warningLines (warnings : List Bytes) :
    (warningLines warnings).tail.mapM (behind "WARNING: ") = some warnings := by
  unfold warningLines
  split
  · rename_i hnone
    rw [hnone]
    rfl
  · exact mapM_map_of_mem fun warning _ => behind_append _ warning

theorem splitLines_formatText {report : DiscoveryReport} (h : Readable report) :
    splitLines ('\n' : UInt8) (formatText report) = textLines report := by
  rw [formatText_eq_unlines h]
  exact splitLines_unlines h.unbroken_lines

theorem readLines_textLines {report : DiscoveryReport} (h : Readable report) :
    readLines (textLines report) = some report := by
  obtain ⟨htable, hrows⟩ := readTable_tableLines h.names h.addresses
  -- The table ends at the first empty line.
  have hpos : ∀ line ∈ tableLines report.interfaces, decide (line ≠ []) = true :=
    fun line hline => decide_eq_true (hrows line hline)
  have hnone : (warningLines report.warnings).takeWhile (· ≠ []) = [] ∧
      (warningLines report.warnings).dropWhile (· ≠ []) = warningLines report.warnings := by
    unfold warningLines
    split
    · exact ⟨rfl, rfl⟩
    · exact ⟨rfl, rfl⟩
  have hrows : (tableLines report.interfaces ++ warningLines report.warnings).takeWhile (· ≠ []) =
      tableLines report.interfaces := by
    rw [List.takeWhile_append_of_pos hpos, hnone.1, List.append_nil]
  have hwarnings : (tableLines report.interfaces ++ warningLines report.warnings).dropWhile
      (· ≠ []) = warningLines report.warnings := by
    rw [List.dropWhile_append_of_pos hpos, hnone.2]
  unfold readLines
  rw [textLines, headerLines]
  simp only [List.cons_append, List.nil_append]
  rw [hrows, hwarnings]
  simp [readVia_viaText h.stage, htable, readWarnings_warningLines]

/-- Reading back the text of a readable report gives the report, so no other readable
report has this text. -/
theorem formatText_round_trip {report : DiscoveryReport} (h : Readable report) :
    readText (formatText report) = some report ∧
      ∀ other, Readable other → formatText other = formatText report → other = report := by
  have hread {report : DiscoveryReport} (h : Readable report) :
      readText (formatText report) = some report := by
    rw [readText, splitLines_formatText h]
    exact readLines_textLines h
  refine ⟨hread h, fun other hother heq => ?_⟩
  have hsame := hread hother
  rw [heq, hread h] at hsame
  exact (Option.some.inj hsame).symm

/-- Two interfaces of a device, with a name that is wider than the column. -/
def readableReport : DiscoveryReport where
  interfaceName := "Ethernet (2)"
  sshIp := "192.168.7.2"
  sshBanner := "SSH-2.0-dropbear"
  hostKeyStatus := "match"
  discoveryStage := "layer2"
  interfaces := [⟨"eth0", "192.168.7.2"⟩, ⟨"br-lan0", "10.0.0.9"⟩]
  warnings := ["check the link"]

theorem formatText_round_trip_sample :
    readText (formatText readableReport) = some readableReport := by
  have hword {name : Bytes} (hsome : name ≠ []) (hplain : (name.all fun c => !isSpace c) = true) :
      IsWord isSpace name :=
    ⟨hsome, fun c hc => by simpa using List.all_eq_true.mp hplain c hc⟩
  refine (formatText_round_trip ⟨by decide, by decide, by decide, ?_, ?_, by decide⟩).1
  · simp only [readableReport, List.forall_mem_cons, List.not_mem_nil, false_implies, implies_true,
      and_true]
    exact ⟨hword (by decide) (by decide), hword (by decide) (by decide)⟩
  · simp only [readableReport, List.forall_mem_cons, List.not_mem_nil, false_implies, implies_true,
      and_true]
    exact ⟨hword (by decide) (by decide), hword (by decide) (by decide)⟩

end DeviceDiscovery.Output
