import DeviceDiscovery.Foundation.Utf8
import DeviceDiscovery.Output.JsonRoundTrip
import DeviceDiscovery.Parser.EntryShape

/-!
The encoding of the JSON report.

A JSON text is valid UTF-8. The report's own punctuation is ASCII and escaping
leaves the bytes from 128 on as they are, so the document is valid exactly when
every field of the report is. Names and addresses of interfaces are cut out of
what a remote command has printed, and nothing looks at their encoding.
-/

namespace DeviceDiscovery.Output

open Foundation Foundation.Json DeviceDiscovery.Parser

/-- What a conforming parser takes: a text of the grammar in valid UTF-8. -/
def IsJsonText (text : Bytes) : Prop := IsUtf8 text ∧ ∃ v, Denotes text v

/-- The fields that do not come from the device's output are valid UTF-8. -/
structure FieldsUtf8 (report : DiscoveryReport) : Prop where
  sshIp : IsUtf8 report.sshIp
  sshBanner : IsUtf8 report.sshBanner
  interfaceName : IsUtf8 report.interfaceName
  discoveryStage : IsUtf8 report.discoveryStage
  hostKeyStatus : IsUtf8 report.hostKeyStatus
  warnings : ∀ warning ∈ report.warnings, IsUtf8 warning

/-! ### Escaping -/

theorem isAscii_hexField : ∀ n < 32, IsAscii (hexField n) := by decide

theorem escapeByte_low (c : UInt8) (hc : c < 128) : escapeByte c ≠ [] ∧ IsAscii (escapeByte c) := by
  unfold escapeByte
  split
  · decide
  split
  · decide
  split
  · decide
  split
  · decide
  split
  · decide
  split
  · rename_i hlow
    have hu : IsAscii (bytes "\\u") := by decide
    refine ⟨List.append_ne_nil_of_left_ne_nil (by decide) _, ?_⟩
    intro d hd
    obtain hd | hd := List.mem_append.mp hd
    · exact hu d hd
    · exact isAscii_hexField c.toNat hlow d hd
  · exact ⟨List.cons_ne_nil c [], by simpa [IsAscii] using hc⟩

theorem escapeByte_high (c : UInt8) (hc : ¬c < 128) : escapeByte c = [c] := by
  have hne (d : UInt8) (hd : d < 128) : c ≠ d := by
    rintro rfl
    exact hc hd
  have hlow : ¬c < 0x20 := fun h => hc (UInt8.lt_trans h (by decide))
  unfold escapeByte
  rw [if_neg (hne _ (by decide)), if_neg (hne _ (by decide)), if_neg (hne _ (by decide)),
    if_neg (hne _ (by decide)), if_neg (hne _ (by decide)), if_neg hlow]

theorem isUtf8_jsonEscape_iff (value : Bytes) : IsUtf8 (jsonEscape value) ↔ IsUtf8 value :=
  isUtf8_flatMap_iff escapeByte_low escapeByte_high value

/-! ### The parts of the document -/

/-- An escaped value between two pieces of punctuation. -/
theorem separate_quoted {before after : Bytes} (hbefore : Separate before True)
    (hafter : Separate after True) (value : Bytes) :
    Separate (before ++ (jsonEscape value ++ after)) (IsUtf8 value) := by
  refine (hbefore.between hafter _).congr ?_
  rw [isUtf8_jsonEscape_iff, true_and, and_true]

theorem separate_jsonMember (key : Bytes) (hkey : IsAscii key) (value : Bytes) :
    Separate (jsonMember key value) (IsUtf8 value) := by
  have hopen : Separate (bytes "  \"" ++ (key ++ bytes "\": \"")) True := by
    refine .ascii (List.append_ne_nil_of_left_ne_nil (by decide) _) ?_
    simp only [IsAscii, List.forall_mem_append]
    exact ⟨forall_mem_of_all (by decide), hkey, forall_mem_of_all (by decide)⟩
  have hclose : Separate (bytes "\",\n") True := .ascii (by decide) (by decide)
  have h := separate_quoted hopen hclose value
  simpa only [jsonMember, List.append_assoc] using h

theorem separate_jsonInterface (iface : RemoteInterface) :
    Separate (jsonInterface iface) (IsUtf8 iface.name ∧ IsUtf8 iface.ipv4) := by
  have hopen : Separate (bytes "    \x7b\n" ++ bytes "      \"name\": \"") True :=
    .ascii (by decide) (by decide)
  have hcomma : Separate (bytes "\",\n") True := .ascii (by decide) (by decide)
  have hkey : Separate (bytes "      \"ipv4\": \"") True := .ascii (by decide) (by decide)
  have hclose : Separate (bytes "\"\n" ++ bytes "    \x7d") True :=
    .ascii (by decide) (by decide)
  have h := (separate_quoted hopen hcomma iface.name).append
    (separate_quoted hkey hclose iface.ipv4)
  simpa only [jsonInterface, List.append_assoc] using h

theorem separate_jsonWarning (warning : Bytes) :
    Separate (jsonWarning warning) (IsUtf8 warning) := by
  have hopen : Separate (bytes "    \"") True := .ascii (by decide) (by decide)
  have hclose : Separate (bytes "\"") True := .ascii (by decide) (by decide)
  have h := separate_quoted hopen hclose warning
  simpa only [jsonWarning, List.append_assoc] using h

section Arrays

variable {α : Type} {print : α → Bytes} {P : α → Prop}

theorem separate_intercalate (h : ∀ x, Separate (print x) (P x)) (x : α) (xs : List α) :
    Separate ((bytes ",\n").intercalate ((x :: xs).map print)) (∀ y ∈ x :: xs, P y) := by
  induction xs generalizing x with
  | nil =>
      rw [List.map_singleton, List.intercalate_singleton]
      exact (h x).congr (by simp)
  | cons y ys ih =>
      have hglue : Separate (bytes ",\n") True := .ascii (by decide) (by decide)
      have hrest := ((h x).append hglue).append (ih y)
      rw [List.map_cons, List.map_cons, List.intercalate_cons_cons, ← List.map_cons]
      refine hrest.congr ?_
      rw [and_true, List.forall_mem_cons (a := x)]

theorem separate_jsonArray (h : ∀ x, Separate (print x) (P x)) (xs : List α) :
    Separate (jsonArray (xs.map print)) (∀ x ∈ xs, P x) := by
  cases xs with
  | nil =>
      have hempty : Separate (bytes "[]") True := .ascii (by decide) (by decide)
      exact hempty.congr (by simp)
  | cons x xs =>
      have hopen : Separate (bytes "[\n") True := .ascii (by decide) (by decide)
      have hclose : Separate (bytes "\n  ]") True := .ascii (by decide) (by decide)
      rw [jsonArray, if_neg (by simp)]
      refine ((hopen.append (separate_intercalate h x xs)).append hclose).congr ?_
      rw [true_and, and_true]

end Arrays

/-- The document is valid exactly when every field is. -/
theorem isUtf8_formatJson_iff (report : DiscoveryReport) :
    IsUtf8 (formatJson report) ↔ FieldsUtf8 report ∧
      ∀ r ∈ report.interfaces, IsUtf8 r.name ∧ IsUtf8 r.ipv4 := by
  have hopen : Separate (bytes "\x7b\n") True := .ascii (by decide) (by decide)
  have hclose : Separate (bytes "\n") True := .ascii (by decide) (by decide)
  have hbrace : Separate (bytes "\x7d\n") True := .ascii (by decide) (by decide)
  have hcomma : Separate (bytes ",\n") True := .ascii (by decide) (by decide)
  have hinterfaces : Separate (bytes "  \"interfaces\": ") True := .ascii (by decide) (by decide)
  have hwarnings : Separate (bytes "  \"warnings\": ") True := .ascii (by decide) (by decide)
  have hip := separate_jsonMember (bytes "ssh_ip") (by decide) report.sshIp
  have hbanner := separate_jsonMember (bytes "ssh_banner") (by decide) report.sshBanner
  have hname := separate_jsonMember (bytes "local_interface") (by decide) report.interfaceName
  have hstage := separate_jsonMember (bytes "discovery_stage") (by decide) report.discoveryStage
  have hkey := separate_jsonMember (bytes "host_key_status") (by decide) report.hostKeyStatus
  have hdocument := hopen.append <| hip.append <| hbanner.append <| hname.append <|
    hstage.append <| hkey.append <| hinterfaces.append <|
    (separate_jsonArray separate_jsonInterface report.interfaces).append <|
    hcomma.append <| hwarnings.append <|
    (separate_jsonArray separate_jsonWarning report.warnings).append <| hclose.append hbrace
  have h := hdocument.isUtf8_iff
  simp only [true_and, and_true] at h
  simp only [formatJson, List.append_assoc]
  rw [h]
  constructor
  · rintro ⟨hip, hbanner, hname, hstage, hkey, hentries, hall⟩
    exact ⟨⟨hip, hbanner, hname, hstage, hkey, hall⟩, hentries⟩
  · rintro ⟨⟨hip, hbanner, hname, hstage, hkey, hall⟩, hentries⟩
    exact ⟨hip, hbanner, hname, hstage, hkey, hentries, hall⟩

/-! ### Reports on a device's output -/

/-- The first token of a header line, up to an `@`. -/
def ifconfigLabel (header : Bytes) : Bytes := ((tokens header).headD []).takeWhile (· != '@')

/-- The second token of a header line, up to an `@`. -/
def ipAddrLabel (header : Bytes) : Bytes :=
  ((tokens (trim header))[1]?.getD []).takeWhile (· != '@')

/-- A colon that is dropped at the end of a name does not matter. -/
theorem isUtf8_normalizeName_iff (token : Bytes) :
    IsUtf8 (normalizeName token) ↔ IsUtf8 (token.takeWhile (· != '@')) := by
  rw [normalizeName]
  split
  · rename_i hcolon
    obtain ⟨name, rfl⟩ := List.getLast?_eq_some_iff.mp hcolon
    rw [List.dropLast_concat, List.takeWhile_append]
    split
    · rename_i hplain
      have hname : name.takeWhile (· != ('@' : UInt8)) = name :=
        (List.takeWhile_prefix _).eq_of_length hplain
      have hlast : ([(':' : UInt8)].takeWhile (· != ('@' : UInt8))) = [(':' : UInt8)] := by decide
      have hcut := isUtf8_append_cons_iff (s := name) (t := []) (c := ':') (by decide)
      rw [hname, hlast, hcut]
      exact (and_iff_left isUtf8_nil).symm
    · rfl
  · rfl

/-- The document is a JSON text exactly when, in every block that is reported, the
label up to an `@` and each accepted candidate are valid UTF-8. -/
theorem isJsonText_formatJson_iff (report : DiscoveryReport) (output : Bytes)
    (hfields : FieldsUtf8 report) :
    (report.interfaces = parseIfconfigOutput output →
        (IsJsonText (formatJson report) ↔
          ∀ header text, ifconfigFormat.Accepts ifconfigCandidate output header text →
            IsUtf8 (ifconfigLabel header) ∧ IsUtf8 text)) ∧
      (report.interfaces = parseIpAddrOutput output →
        (IsJsonText (formatJson report) ↔
          ∀ header text, ipAddrFormat.Accepts ipAddrCandidate output header text →
            IsUtf8 (ipAddrLabel header) ∧ IsUtf8 text)) := by
  have hdocument : IsJsonText (formatJson report) ↔
      ∀ r ∈ report.interfaces, IsUtf8 r.name ∧ IsUtf8 r.ipv4 := by
    rw [IsJsonText, isUtf8_formatJson_iff, and_iff_right hfields]
    exact and_iff_left ⟨_, denotes_formatJson report⟩
  constructor
  · intro hinterfaces
    rw [hdocument, hinterfaces,
      forall_mem_iff_forall_accepts (mem_parseIfconfigOutput_iff_accepts output)]
    simp only [ifconfigFormat, ifconfigLabel, isUtf8_normalizeName_iff]
  · intro hinterfaces
    rw [hdocument, hinterfaces,
      forall_mem_iff_forall_accepts (mem_parseIpAddrOutput_iff_accepts output)]
    simp only [ipAddrFormat, ipAddrLabel, isUtf8_normalizeName_iff]

/-- A report of nothing but interfaces. -/
theorem fieldsUtf8_of_interfaces (interfaces : List RemoteInterface) :
    FieldsUtf8 { interfaces := interfaces } :=
  ⟨isUtf8_nil, isUtf8_nil, isUtf8_nil, isUtf8_nil, isUtf8_nil, fun _ h => nomatch h⟩

theorem isJsonText_formatJson_sample : IsJsonText
    (formatJson { interfaces := parseIfconfigOutput (bytes "eth0: UP\n inet 10.0.0.1\n") }) := by
  have hparse : parseIfconfigOutput (bytes "eth0: UP\n inet 10.0.0.1\n") =
      [⟨"eth0", "10.0.0.1"⟩] := by decide
  apply ((isJsonText_formatJson_iff _ (bytes "eth0: UP\n inet 10.0.0.1\n")
    (fieldsUtf8_of_interfaces _)).1 rfl).mpr
  intro header text haccepts
  have hentry : (⟨ifconfigFormat.name header, text⟩ : RemoteInterface) ∈
      parseIfconfigOutput (bytes "eth0: UP\n inet 10.0.0.1\n") :=
    (mem_parseIfconfigOutput_iff_accepts _ _).mpr ⟨header, text, haccepts, rfl⟩
  rw [hparse, List.mem_singleton] at hentry
  obtain ⟨hname, rfl⟩ := RemoteInterface.mk.inj hentry
  have hlabel := isUtf8_normalizeName_iff ((tokens header).headD [])
  rw [show normalizeName ((tokens header).headD []) = bytes "eth0" from hname] at hlabel
  exact ⟨hlabel.mp (IsAscii.isUtf8 (by decide)), IsAscii.isUtf8 (by decide)⟩

/-- A header line with a byte that no encoding of a character has. -/
def strayByteCapture : Bytes := bytes "eth" ++ [0xFF] ++ bytes ": UP\n inet 10.0.0.1\n"

theorem not_isJsonText_strayByte :
    FieldsUtf8 { interfaces := parseIfconfigOutput strayByteCapture } ∧
      ¬IsJsonText (formatJson { interfaces := parseIfconfigOutput strayByteCapture }) := by
  refine ⟨fieldsUtf8_of_interfaces _, fun h => ?_⟩
  have hparse : parseIfconfigOutput strayByteCapture =
      [⟨bytes "eth" ++ [0xFF], "10.0.0.1"⟩] := by decide
  have hentries := ((isUtf8_formatJson_iff _).mp h.1).2
  have hname := (hentries ⟨bytes "eth" ++ [0xFF], "10.0.0.1"⟩ (by rw [hparse]; simp)).1
  rw [isUtf8_ascii_append_iff (by decide)] at hname
  exact absurd (lt_of_isUtf8_singleton hname) (by decide)

end DeviceDiscovery.Output
