import DeviceDiscovery.Foundation.Json
import DeviceDiscovery.Output.Formatter
import Mathlib.Data.List.Forall2

/-!
The JSON report as a JSON text.

The document denotes one object, member for member the report. Escaping is
followed character by character, a list item by item; what comes after a part of
the text is kept arbitrary, so that the parts can be put together.
-/

namespace DeviceDiscovery.Output

open Foundation Foundation.Json DeviceDiscovery.Parser

/-! ### The value of a report -/

def interfaceJson (iface : RemoteInterface) : Json :=
  .object [("name", .string iface.name), ("ipv4", .string iface.ipv4)]

/-- The object that a report is printed as. -/
def reportJson (report : DiscoveryReport) : Json :=
  .object [
    ("ssh_ip", .string report.sshIp),
    ("ssh_banner", .string report.sshBanner),
    ("local_interface", .string report.interfaceName),
    ("discovery_stage", .string report.discoveryStage),
    ("host_key_status", .string report.hostKeyStatus),
    ("interfaces", .array (report.interfaces.map interfaceJson)),
    ("warnings", .array (report.warnings.map .string))]

/-- The keys of every report, whatever is in its fields. -/
def reportKeys : List Bytes :=
  ["ssh_ip", "ssh_banner", "local_interface", "discovery_stage", "host_key_status",
    "interfaces", "warnings"]

/-! ### Strings -/

theorem codeUnit_hexField : ∀ n < 32, codeUnit (hexField n) = some (n, []) := by
  decide

/-- An escaped byte denotes the byte. -/
theorem chars_escapeByte (c : UInt8) {s text rest : Bytes} (h : Chars s text rest) :
    Chars (escapeByte c ++ s) (c :: text) rest := by
  -- Five bytes are written as a letter behind a backslash.
  have hletter {e d : UInt8} {escaped : Bytes} (hescaped : escaped = [backslash, e])
      (hsingle : e ≠ 'u') (hd : letterEscape e = some d) :
      Chars (escaped ++ s) (d :: text) rest := by
    have hesc : Json.escape (e :: s) = some ([d], s) := by
      rw [Json.escape, if_neg hsingle, hd]
      rfl
    rw [hescaped]
    exact .escape rfl hesc h
  unfold escapeByte
  split
  · rename_i hquote
    rw [hquote]
    exact hletter (e := quote) (by decide) (by decide) (by decide)
  split
  · rename_i hbackslash
    rw [hbackslash]
    exact hletter (e := backslash) (by decide) (by decide) (by decide)
  split
  · rename_i hfeed
    rw [hfeed]
    exact hletter (e := 'n') (by decide) (by decide) (by decide)
  split
  · rename_i hreturn
    rw [hreturn]
    exact hletter (e := 'r') (by decide) (by decide) (by decide)
  split
  · rename_i htab
    rw [htab]
    exact hletter (e := 't') (by decide) (by decide) (by decide)
  split
  · -- A control character, as a code unit below 0x20.
    rename_i hc
    have hlt : c.toNat < 32 := hc
    have htext : bytes "\\u" = [backslash, ('u' : UInt8)] := by decide
    have hesc := escape_codeUnit (codeUnit_append (codeUnit_hexField c.toNat hlt) s) (by omega)
    rw [UInt8.ofNat_toNat, List.nil_append] at hesc
    rw [htext]
    exact .escape rfl hesc h
  · rename_i hquote hbackslash _ _ _ hlow
    exact .plain rfl ⟨by simpa using hlow, hquote, hbackslash⟩ h

theorem chars_jsonEscape (value rest : Bytes) :
    Chars (jsonEscape value ++ quote :: rest) value rest := by
  induction value with
  | nil => exact .close rfl
  | cons c value ih =>
      rw [jsonEscape, List.flatMap_cons, List.append_assoc]
      exact chars_escapeByte c ih

theorem derives_string (value rest : Bytes) :
    Derives .value (skipSpace (quote :: (jsonEscape value ++ quote :: rest))) (.string value)
      rest := by
  rw [skipSpace_token (by decide)]
  exact .string rfl (chars_jsonEscape value rest)

/-! ### Lists -/

/-- The text denotes the value wherever it stands. -/
def Prints (text : Bytes) (v : Json) : Prop :=
  ∀ rest, Derives .value (skipSpace (text ++ rest)) v rest

theorem derives_items {text : Bytes} {v : Json} (h : Prints text v) {texts : List Bytes}
    {vs : List Json} (hs : List.Forall₂ Prints texts vs) (rest : Bytes) :
    Derives .items ((bytes ",\n").intercalate (text :: texts) ++ (bytes "\n  ]" ++ rest))
      (.array (v :: vs)) rest := by
  induction hs generalizing text v with
  | nil =>
      have hclose : skipSpace (bytes "\n  ]" ++ rest) = closeBracket :: rest := rfl
      rw [List.intercalate_singleton]
      exact .lastItem (h _) hclose
  | cons hnext hs ih =>
      have hcomma (s : Bytes) : skipSpace (bytes ",\n" ++ s) = comma :: 10 :: s := rfl
      rw [List.intercalate_cons_cons, List.append_assoc, List.append_assoc]
      exact .nextItem (h _) (hcomma _) ((ih hnext).items_of_space (by decide))

theorem prints_jsonArray {texts : List Bytes} {vs : List Json}
    (h : List.Forall₂ Prints texts vs) : Prints (jsonArray texts) (.array vs) := by
  intro rest
  cases h with
  | nil =>
      have hopen : skipSpace (bytes "[]" ++ rest) = openBracket :: closeBracket :: rest := rfl
      exact .noItems hopen rfl
  | cons hfirst hs =>
      have hopen (s : Bytes) : skipSpace (bytes "[\n" ++ s) = openBracket :: 10 :: s := rfl
      rw [jsonArray, if_neg (List.cons_ne_nil _ _), List.append_assoc, List.append_assoc, hopen]
      exact .array rfl ((derives_items hfirst hs rest).items_of_space (by decide))

theorem prints_jsonWarning (warning : Bytes) : Prints (jsonWarning warning) (.string warning) := by
  intro rest
  have hopen (s : Bytes) : skipSpace (bytes "    \"" ++ s) = quote :: s := rfl
  have hclose : bytes "\"" = [quote] := by decide
  rw [jsonWarning, List.append_assoc, List.append_assoc, hopen, hclose]
  exact .string rfl (chars_jsonEscape warning rest)

/-! ### Members -/

/-- A member with a string value, before whatever follows the value. -/
theorem derives_stringMember {indent key : Bytes} (hindent : ∀ c ∈ indent, isWhitespace c = true)
    (hkey : ∀ c ∈ key, IsPlain c) (value rest : Bytes) :
    Derives .member (indent ++ bytes "\"" ++ key ++ bytes "\": \"" ++ jsonEscape value ++
      (bytes "\"" ++ rest)) (.object [(key, .string value)]) rest := by
  have hopen : bytes "\"" = [quote] := by decide
  have hmid : bytes "\": \"" = [quote, colon, 32, quote] := by decide
  have hitem : Derives .value (skipSpace (32 :: quote :: (jsonEscape value ++ quote :: rest)))
      (.string value) rest := by
    rw [skipSpace_cons (by decide)]
    exact derives_string value rest
  have hmember := Derives.of_member hindent hkey hitem
  rw [hopen, hmid]
  simpa only [List.append_assoc, List.cons_append, List.nil_append] using hmember

/-- A member with a list for its value. -/
theorem derives_listMember {key text : Bytes} {v : Json} (hkey : ∀ c ∈ key, IsPlain c)
    (h : Prints text v) (rest : Bytes) :
    Derives .member (bytes "  \"" ++ key ++ bytes "\": " ++ (text ++ rest))
      (.object [(key, v)]) rest := by
  have hopen : bytes "  \"" = bytes "  " ++ [quote] := by decide
  have hmid : bytes "\": " = [quote, colon, 32] := by decide
  have hitem : Derives .value (skipSpace (32 :: (text ++ rest))) v rest := by
    rw [skipSpace_cons (by decide)]
    exact h rest
  have hindent : ∀ c ∈ bytes "  ", isWhitespace c = true := forall_mem_of_all (by decide)
  have hmember := Derives.of_member hindent hkey hitem
  rw [hopen, hmid]
  simpa only [List.append_assoc, List.cons_append, List.nil_append] using hmember

theorem prints_jsonInterface (iface : RemoteInterface) :
    Prints (jsonInterface iface) (interfaceJson iface) := by
  intro rest
  have hindent : ∀ c ∈ bytes "      ", isWhitespace c = true := forall_mem_of_all (by decide)
  have hname : ∀ c ∈ bytes "name", IsPlain c := forall_mem_of_all (by decide)
  have hipv4 : ∀ c ∈ bytes "ipv4", IsPlain c := forall_mem_of_all (by decide)
  have hopen (s : Bytes) : skipSpace (bytes "    \x7b\n" ++ s) = openBrace :: 10 :: s := rfl
  have hcomma (s : Bytes) : skipSpace (bytes ",\n" ++ s) = comma :: 10 :: s := rfl
  have hclose : skipSpace (bytes "\n    \x7d" ++ rest) = closeBrace :: rest := rfl
  have hlast := Derives.lastMember
    (derives_stringMember hindent hipv4 iface.ipv4 (bytes "\n    \x7d" ++ rest)) hclose
  have hmembers := Derives.nextMember
    (derives_stringMember hindent hname iface.name (bytes ",\n" ++ _)) (hcomma _)
    (hlast.members_of_space (c := 10) (by decide))
  have hnameText : bytes "      \"name\": \"" =
      bytes "      " ++ bytes "\"" ++ bytes "name" ++ bytes "\": \"" := by decide
  have hipv4Text : bytes "      \"ipv4\": \"" =
      bytes "      " ++ bytes "\"" ++ bytes "ipv4" ++ bytes "\": \"" := by decide
  have hnextText : bytes "\",\n" = bytes "\"" ++ bytes ",\n" := by decide
  have hlastText : bytes "\"\n" ++ (bytes "    \x7d" ++ rest) =
      bytes "\"" ++ (bytes "\n    \x7d" ++ rest) := rfl
  simp only [jsonInterface, List.append_assoc, hopen]
  refine .object rfl (Derives.members_of_space (by decide) ?_)
  rw [hnameText, hipv4Text, hnextText, hlastText]
  simpa only [List.append_assoc] using hmembers

/-- A line of the report in front of the lines that follow it. -/
theorem members_jsonMember {key : Bytes} (hkey : ∀ c ∈ key, IsPlain c) (value : Bytes)
    {s rest : Bytes} {ms : List (Bytes × Json)} (h : Derives .members s (.object ms) rest) :
    Derives .members (jsonMember key value ++ s) (.object ((key, .string value) :: ms)) rest := by
  have hindent : ∀ c ∈ bytes "  ", isWhitespace c = true := forall_mem_of_all (by decide)
  have hcomma : skipSpace (bytes ",\n" ++ s) = comma :: 10 :: s := rfl
  have hmember := derives_stringMember hindent hkey value (bytes ",\n" ++ s)
  have hopen : bytes "  \"" = bytes "  " ++ bytes "\"" := by decide
  have hclose : bytes "\",\n" = bytes "\"" ++ bytes ",\n" := by decide
  have hmembers := hmember.nextMember hcomma (h.members_of_space (c := 10) (by decide))
  rw [jsonMember, hopen, hclose]
  simpa only [List.append_assoc] using hmembers

/-! ### The document -/

theorem forall₂_prints {α : Type} {print : α → Bytes} {write : α → Json}
    (h : ∀ a, Prints (print a) (write a)) (list : List α) :
    List.Forall₂ Prints (list.map print) (list.map write) := by
  rw [List.forall₂_map_left_iff, List.forall₂_map_right_iff]
  exact List.forall₂_same.mpr fun a _ => h a

/-- The report is printed as its object and nothing more. -/
theorem denotes_formatJson (report : DiscoveryReport) :
    Denotes (formatJson report) (reportJson report) := by
  have hinterfaces := prints_jsonArray (forall₂_prints prints_jsonInterface report.interfaces)
  have hwarnings := prints_jsonArray (forall₂_prints prints_jsonWarning report.warnings)
  have hopen (s : Bytes) : skipSpace (bytes "\x7b\n" ++ s) = openBrace :: 10 :: s := rfl
  have hcomma (s : Bytes) : skipSpace (bytes ",\n" ++ s) = comma :: 10 :: s := rfl
  have hclose : skipSpace (bytes "\n" ++ bytes "\x7d\n") = closeBrace :: bytes "\n" := rfl
  have hkey : ∀ key ∈ [bytes "ssh_ip", bytes "ssh_banner", bytes "local_interface",
      bytes "discovery_stage", bytes "host_key_status", bytes "interfaces", bytes "warnings"],
      ∀ c ∈ key, IsPlain c := by
    intro key hmem
    refine forall_mem_of_all ?_
    revert key
    decide
  -- The last two members are lists; the others are added in front of them.
  have hlists := Derives.nextMember
    (derives_listMember (hkey (bytes "interfaces") (by simp)) hinterfaces (bytes ",\n" ++ _))
    (hcomma _)
    ((Derives.lastMember
      (derives_listMember (hkey (bytes "warnings") (by simp)) hwarnings
        (bytes "\n" ++ bytes "\x7d\n")) hclose).members_of_space (c := 10) (by decide))
  refine ⟨bytes "\n", ?_, rfl⟩
  simp only [formatJson, List.append_assoc, hopen]
  refine .object rfl (Derives.members_of_space (by decide) ?_)
  refine members_jsonMember (hkey _ (by simp)) report.sshIp ?_
  refine members_jsonMember (hkey _ (by simp)) report.sshBanner ?_
  refine members_jsonMember (hkey _ (by simp)) report.interfaceName ?_
  refine members_jsonMember (hkey _ (by simp)) report.discoveryStage ?_
  refine members_jsonMember (hkey _ (by simp)) report.hostKeyStatus ?_
  have hinterfacesText : bytes "  \"interfaces\": " =
      bytes "  \"" ++ bytes "interfaces" ++ bytes "\": " := by decide
  have hwarningsText : bytes "  \"warnings\": " =
      bytes "  \"" ++ bytes "warnings" ++ bytes "\": " := by decide
  rw [hinterfacesText, hwarningsText]
  simpa only [List.append_assoc] using hlists

/-! ### Reading a report back -/

def readInterface (v : Json) : Option RemoteInterface :=
  (v.textOf? "name").bind fun name =>
    (v.textOf? "ipv4").map fun ipv4 => { name, ipv4 }

/-- The report that an object describes, by its keys. -/
def readReport (v : Json) : Option DiscoveryReport := do
  let sshIp ← v.textOf? "ssh_ip"
  let sshBanner ← v.textOf? "ssh_banner"
  let interfaceName ← v.textOf? "local_interface"
  let discoveryStage ← v.textOf? "discovery_stage"
  let hostKeyStatus ← v.textOf? "host_key_status"
  let interfaces ← v.listOf? readInterface "interfaces"
  let warnings ← v.listOf? text? "warnings"
  return { interfaceName, sshIp, sshBanner, hostKeyStatus, discoveryStage, interfaces, warnings }

theorem readInterface_interfaceJson (iface : RemoteInterface) :
    readInterface (interfaceJson iface) = some iface := rfl

theorem readReport_reportJson (report : DiscoveryReport) :
    readReport (reportJson report) = some report := by
  have hinterfaces : (reportJson report).listOf? readInterface "interfaces" =
      some report.interfaces :=
    mapM_map readInterface_interfaceJson report.interfaces
  have htext (text : Bytes) : text? (.string text) = some text := rfl
  have hwarnings : (reportJson report).listOf? text? "warnings" = some report.warnings :=
    mapM_map htext report.warnings
  unfold readReport
  rw [hinterfaces, hwarnings]
  rfl

theorem distinctKeys_interfaceJson (iface : RemoteInterface) :
    DistinctKeys (interfaceJson iface) := by
  have hkeys : [bytes "name", bytes "ipv4"].Nodup := by decide
  refine .object hkeys fun m hm => ?_
  simp only [List.mem_cons, List.not_mem_nil, or_false] at hm
  rcases hm with rfl | rfl <;> exact .string _

theorem distinctKeys_reportJson (report : DiscoveryReport) : DistinctKeys (reportJson report) := by
  have hinterfaces : DistinctKeys (.array (report.interfaces.map interfaceJson)) := by
    refine .array (List.forall_mem_map.mpr fun iface _ => ?_)
    exact distinctKeys_interfaceJson iface
  have hwarnings : DistinctKeys (.array (report.warnings.map .string)) :=
    .array (List.forall_mem_map.mpr fun warning _ => .string warning)
  have hkeys : reportKeys.Nodup := by decide
  refine .object hkeys fun m hm => ?_
  simp only [List.mem_cons, List.not_mem_nil, or_false] at hm
  rcases hm with rfl | rfl | rfl | rfl | rfl | rfl | rfl
  iterate 5 exact .string _
  · exact hinterfaces
  · exact hwarnings

theorem formatJson_injective {report other : DiscoveryReport}
    (h : formatJson report = formatJson other) : report = other := by
  have hother := denotes_formatJson other
  rw [← h] at hother
  have hvalue := (denotes_formatJson report).unique hother
  have hread := readReport_reportJson report
  rw [hvalue, readReport_reportJson] at hread
  exact (Option.some.inj hread).symm

/-- The JSON report is one object with the seven keys, no key occurs twice in it or in
an interface, and reading it gives the report back: fields, interfaces and warnings in
order. Nothing else is denoted by the document, and no other report is printed as it. -/
theorem formatJson_round_trip (report : DiscoveryReport) :
    ∃ v, Denotes (formatJson report) v ∧ (∀ w, Denotes (formatJson report) w → w = v) ∧
      v.keys = reportKeys ∧ DistinctKeys v ∧ readReport v = some report ∧
      ∀ other, formatJson other = formatJson report → other = report :=
  ⟨reportJson report, denotes_formatJson report,
    fun _ hw => hw.unique (denotes_formatJson report), rfl, distinctKeys_reportJson report,
    readReport_reportJson report, fun _ h => formatJson_injective h⟩

end DeviceDiscovery.Output
