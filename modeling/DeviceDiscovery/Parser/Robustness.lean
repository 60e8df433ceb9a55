import DeviceDiscovery.Parser.EntryShape

/-!
What the entries of a capture depend on.

Three things hold of every text, well formed or not. Noise between the lines that
matter does not matter (`parse_tellingLines`). A text that breaks off gives the entries
of the whole text up to some place, and at most one more, from the line that is cut and
under the name of the block that line stands in (`parse_truncated`). And what an entry
holds is copied from the text: the address from a line, the name from the line that
opens its block (`parse_copied`).
-/

namespace DeviceDiscovery.Parser

open Foundation DeviceDiscovery.Platform

/-- A line adds one entry at most, under a name. -/
theorem append_adds (interfaces : List RemoteInterface) (name ipv4 : Bytes) :
    ∃ last, append interfaces name ipv4 = interfaces ++ last ∧ last.length ≤ 1 ∧
      ∀ r ∈ last, name ≠ [] ∧ r = ⟨name, ipv4⟩ := by
  have hnothing : ∃ last, interfaces = interfaces ++ last ∧ last.length ≤ 1 ∧
      ∀ r ∈ last, name ≠ [] ∧ r = ⟨name, ipv4⟩ :=
    ⟨[], (List.append_nil _).symm, Nat.zero_le 1, fun _ h => by cases h⟩
  unfold append
  split
  · exact hnothing
  · rename_i hreported
    dsimp only
    split
    · exact hnothing
    · exact ⟨[_], rfl, le_refl 1, fun r hr =>
        ⟨fun hname => hreported (.inl hname), List.mem_singleton.mp hr⟩⟩

namespace LineFormat

variable (f : LineFormat)

/-! ### Noise -/

/-- A line that opens no block and has no token that an address may follow: statistics,
flags, IPv6 addresses, life times and empty lines. -/
def Noise (line : Bytes) : Prop := f.opens line = false ∧ ∀ token ∈ tokens line, IsQuiet token

instance : DecidablePred f.Noise := fun line =>
  inferInstanceAs (Decidable (f.opens line = false ∧ ∀ token ∈ tokens line, IsQuiet token))

/-- The lines of a text without the noise. -/
def tellingLines (output : Bytes) : List Bytes :=
  (splitLines ('\n' : UInt8) output).filter fun line => ¬f.Noise line

variable {f} in
theorem Noise.extractInetAddress {line : Bytes} (h : f.Noise line) :
    extractInetAddress line = [] := by
  rw [extractInetAddress_eq]
  exact inetAddressOfTokens_all_quiet h.2

/-- Noise leaves the state of the parser as it is. -/
theorem line_of_noise {line : Bytes} (h : f.Noise line) (haddress : f.address line = [])
    (s : ParseState) : f.line s line = s := by
  unfold LineFormat.line
  dsimp only
  rw [h.1, haddress, append_nil]
  rfl

theorem parse_eq_tellingLines (haddress : ∀ line, f.Noise line → f.address line = [])
    (output : Bytes) :
    f.parse output = ((f.tellingLines output).foldl f.line ⟨[], []⟩).interfaces := by
  rw [parse, tellingLines, List.foldl_filter]
  congr 2
  funext s line
  by_cases hnoise : f.Noise line
  · rw [f.line_of_noise hnoise (haddress line hnoise) s, if_neg (by simpa using hnoise)]
  · rw [if_pos (by simpa using hnoise)]

/-! ### Truncated texts -/

/-- Reading on keeps the list and adds to its end. -/
theorem prefix_foldl_line (lines : List Bytes) (s : ParseState) :
    s.interfaces <+: (lines.foldl f.line s).interfaces := by
  rw [foldl_line, appendAll_eq_append]
  exact List.prefix_append _ _

/-- The entry of a line that is cut: its address is read from what is left of the line,
and its name from the line that opens the block it stands in. -/
def CutEntry (whole cut : Bytes) (r : RemoteInterface) : Prop :=
  cut ≠ [] ∧ ∃ header, f.header? (splitLines ('\n' : UInt8) whole ++ [cut]) = some header ∧
    r = ⟨f.name header, f.address cut⟩

/-- What is read of a text that breaks off in a line, or behind one. -/
theorem parse_append_cut {whole cut : Bytes} (hwhole : EndsLine whole)
    (hcut : ('\n' : UInt8) ∉ cut) :
    ∃ last, f.parse (whole ++ cut) = f.parse whole ++ last ∧ last.length ≤ 1 ∧
      ∀ r ∈ last, f.CutEntry whole cut r := by
  by_cases hnone : cut = []
  · rw [hnone, List.append_nil]
    exact ⟨[], (List.append_nil _).symm, Nat.zero_le 1, fun _ h => by cases h⟩
  · have hcurrent := f.foldl_current (splitLines ('\n' : UInt8) whole ++ [cut])
    rw [parse, splitLines_append hwhole, splitLines_of_notMem hnone hcut, List.foldl_append]
    rw [List.foldl_append] at hcurrent
    obtain ⟨last, hlast, hlength, hentries⟩ := append_adds (f.parse whole)
      (f.line ((splitLines ('\n' : UInt8) whole).foldl f.line ⟨[], []⟩) cut).current
      (f.address cut)
    refine ⟨last, hlast, hlength, fun r hr => ⟨hnone, ?_⟩⟩
    obtain ⟨hnamed, rfl⟩ := hentries r hr
    cases hheader : f.header? (splitLines ('\n' : UInt8) whole ++ [cut]) with
    | none =>
        rw [hheader] at hcurrent
        exact absurd hcurrent hnamed
    | some header =>
        rw [hheader] at hcurrent
        exact ⟨header, rfl, congrArg (RemoteInterface.mk · (f.address cut)) hcurrent⟩

theorem parse_whole_prefix {whole : Bytes} (hwhole : EndsLine whole) (rest : Bytes) :
    f.parse whole <+: f.parse (whole ++ rest) := by
  rw [parse, parse, splitLines_append hwhole, List.foldl_append]
  exact f.prefix_foldl_line _ _

/-- Reading `output` instead of `full`: the entries of the whole lines, which `full`
begins with, and at most one more, of the cut line. -/
theorem parse_of_prefix {output full : Bytes} (h : output <+: full) {whole cut : Bytes}
    (houtput : output = whole ++ cut) (hwhole : EndsLine whole) (hcut : ('\n' : UInt8) ∉ cut) :
    f.parse whole <+: f.parse full ∧ ∃ last, f.parse output = f.parse whole ++ last ∧
      last.length ≤ 1 ∧ ∀ r ∈ last, f.CutEntry whole cut r := by
  obtain ⟨rest, rfl⟩ := h
  rw [houtput, List.append_assoc]
  exact ⟨f.parse_whole_prefix hwhole _, f.parse_append_cut hwhole hcut⟩

/-! ### Copied texts -/

/-- The entry is copied from the text: its address from a line, and its name from the
last line up to there that opens a block. -/
def Copies (output : Bytes) (r : RemoteInterface) : Prop :=
  ∃ before line after header, splitLines ('\n' : UInt8) output = before ++ line :: after ∧
    f.header? (before ++ [line]) = some header ∧ r.name <:+: header ∧ r.ipv4 <:+: line

variable {f}

theorem Copies.pieces {output : Bytes} {r : RemoteInterface} (h : f.Copies output r) :
    r.name <:+: output ∧ r.ipv4 <:+: output := by
  obtain ⟨before, line, after, header, hlines, hheader, hname, haddress⟩ := h
  have hline {text : Bytes} (h : text ∈ before ++ [line]) : text <:+: output := by
    have hmem : text ∈ splitLines ('\n' : UInt8) output := by
      rw [hlines, List.append_cons]
      exact List.mem_append_left _ h
    exact (infix_of_mem_splitLines hmem).2
  have hopens : header ∈ before ++ [line] := by
    unfold header? at hheader
    exact List.mem_of_mem_filter (List.mem_of_getLast? hheader)
  exact ⟨hname.trans (hline hopens), haddress.trans (hline (by simp))⟩

theorem Accepts.copies {candidate : Bytes → Option Bytes} {output header text : Bytes}
    (hname : ∀ line, f.name line <:+: line)
    (hcandidate : ∀ line text, candidate line = some text → text <:+: line)
    (h : f.Accepts candidate output header text) : f.Copies output ⟨f.name header, text⟩ := by
  obtain ⟨before, line, after, hlines, hheader, -, -, hline, -⟩ := h
  exact ⟨before, line, after, header, hlines, hheader, hname header, hcandidate line text hline⟩

end LineFormat

/-! ### The pieces of a line -/

theorem infix_normalizeName (name : Bytes) : normalizeName name <:+: name := by
  unfold normalizeName
  dsimp only
  split
  · exact ((List.takeWhile_prefix _).trans (List.dropLast_prefix name)).isInfix
  · exact (List.takeWhile_prefix _).isInfix

theorem infix_trim (line : Bytes) : trim line <:+: line :=
  (List.rdropWhile_prefix isBlank _).isInfix.trans (List.dropWhile_suffix isBlank).isInfix

theorem infix_strippedCandidate (candidate : Bytes) :
    strippedCandidate candidate <:+: candidate := by
  unfold strippedCandidate
  dsimp only
  split
  · exact (List.takeWhile_prefix _).isInfix.trans (List.drop_suffix 5 candidate).isInfix
  · exact (List.takeWhile_prefix _).isInfix

/-- The text that is checked is a piece of a token. -/
theorem exists_token_of_inetCandidate {ts : List Bytes} {text : Bytes}
    (h : inetCandidate ts = some text) : ∃ token ∈ ts, text <:+: token := by
  induction ts with
  | nil => cases h
  | cons token rest ih =>
      rw [inetCandidate] at h
      split at h
      · obtain ⟨candidate, hcandidate, rfl⟩ := Option.map_eq_some_iff.mp h
        exact ⟨candidate, List.mem_cons_of_mem _ (List.mem_of_head? hcandidate),
          infix_strippedCandidate candidate⟩
      · split at h
        · refine ⟨token, List.mem_cons_self, ?_⟩
          rw [← Option.some.inj h]
          exact (infix_strippedCandidate _).trans (List.drop_suffix 5 token).isInfix
        · obtain ⟨token', hmem, hinfix⟩ := ih h
          exact ⟨token', List.mem_cons_of_mem _ hmem, hinfix⟩

theorem infix_of_ifconfigCandidate (line text : Bytes) (h : ifconfigCandidate line = some text) :
    text <:+: line := by
  obtain ⟨token, htoken, hinfix⟩ := exists_token_of_inetCandidate h
  exact hinfix.trans (infix_of_mem_words htoken)

theorem infix_of_ipAddrCandidate (line text : Bytes) (h : ipAddrCandidate line = some text) :
    text <:+: line := by
  rw [ipAddrCandidate] at h
  split at h
  · cases h
  · exact infix_of_ifconfigCandidate line text h

theorem infix_ifconfig_name (line : Bytes) : ifconfigFormat.name line <:+: line := by
  apply (infix_normalizeName _).trans
  cases htokens : tokens line with
  | nil => exact List.nil_infix
  | cons token rest => exact infix_of_mem_words (htokens ▸ List.mem_cons_self)

theorem infix_ipAddr_name (line : Bytes) : ipAddrFormat.name line <:+: line := by
  apply (infix_normalizeName _).trans
  cases htoken : (tokens (trim line))[1]? with
  | none => exact List.nil_infix
  | some token => exact (infix_of_mem_words (List.mem_of_getElem? htoken)).trans (infix_trim line)

/-! ### The two parsers -/

/-- Noise may come and go anywhere in a text: two texts with the same lines beside it
are parsed to the same list. -/
theorem parse_tellingLines (output other : Bytes) :
    (ifconfigFormat.tellingLines output = ifconfigFormat.tellingLines other →
      parseIfconfigOutput output = parseIfconfigOutput other) ∧
    (ipAddrFormat.tellingLines output = ipAddrFormat.tellingLines other →
      parseIpAddrOutput output = parseIpAddrOutput other) := by
  have hifconfig (line : Bytes) (h : ifconfigFormat.Noise line) :
      ifconfigFormat.address line = [] := h.extractInetAddress
  have hipAddr (line : Bytes) (h : ipAddrFormat.Noise line) : ipAddrFormat.address line = [] := by
    show (if opensIpAddrBlock line then [] else extractInetAddress (trim line)) = []
    have hnone := h.extractInetAddress
    rw [extractInetAddress_eq] at hnone
    rw [extractInetAddress_trim, hnone, ite_self]
  rw [parseIfconfigOutput_eq, parseIpAddrOutput_eq]
  constructor
  · intro h
    rw [LineFormat.parse_eq_tellingLines _ hifconfig, h,
      ← LineFormat.parse_eq_tellingLines _ hifconfig]
  · intro h
    rw [LineFormat.parse_eq_tellingLines _ hipAddr, h, ← LineFormat.parse_eq_tellingLines _ hipAddr]

/-- What the kernel counts and how IPv6 is set up is noise. -/
example : parseIfconfigOutput
    "eth0: flags=67<UP>\n  inet6 fe80::1\n\n  inet 10.0.0.2\n  RX packets 7\n" =
      parseIfconfigOutput "eth0: flags=67<UP>\n  inet 10.0.0.2\n" := by decide

/-- Wherever a text breaks off, the entries are those of its whole lines, with which the
entries of the full text begin, and at most one more: the address that is read from the
cut line, under the name of the block it stands in. -/
theorem parse_truncated (output : Bytes) (k : ℕ) :
    ∃ whole cut, output.take k = whole ++ cut ∧ EndsLine whole ∧ ('\n' : UInt8) ∉ cut ∧
      (parseIfconfigOutput whole <+: parseIfconfigOutput output ∧
        ∃ last, parseIfconfigOutput (output.take k) = parseIfconfigOutput whole ++ last ∧
          last.length ≤ 1 ∧ ∀ r ∈ last, ifconfigFormat.CutEntry whole cut r) ∧
      parseIpAddrOutput whole <+: parseIpAddrOutput output ∧
        ∃ last, parseIpAddrOutput (output.take k) = parseIpAddrOutput whole ++ last ∧
          last.length ≤ 1 ∧ ∀ r ∈ last, ipAddrFormat.CutEntry whole cut r := by
  obtain ⟨whole, cut, htake, hwhole, hcut⟩ := exists_cut ('\n' : UInt8) (output.take k)
  have hprefix := List.take_prefix k output
  rw [parseIfconfigOutput_eq, parseIpAddrOutput_eq]
  exact ⟨whole, cut, htake, hwhole, hcut, ifconfigFormat.parse_of_prefix hprefix htake hwhole hcut,
    ipAddrFormat.parse_of_prefix hprefix htake hwhole hcut⟩

/-- The address of a cut line may be one that the device does not have. -/
example : parseIfconfigOutput ((bytes "eth0: x\n inet 10.0.0.23\n").take 22) =
    [⟨"eth0", "10.0.0.2"⟩] := by decide

/-- No entry is made up: each name and each address is a piece of the text, and they
stand in the line that opens the block and in a line of that block. -/
theorem parse_copied (output : Bytes) :
    (∀ r ∈ parseIfconfigOutput output, ifconfigFormat.Copies output r ∧
      r.name <:+: output ∧ r.ipv4 <:+: output) ∧
    ∀ r ∈ parseIpAddrOutput output, ipAddrFormat.Copies output r ∧
      r.name <:+: output ∧ r.ipv4 <:+: output := by
  constructor
  · intro r hr
    obtain ⟨header, text, haccepts, rfl⟩ := (mem_parseIfconfigOutput_iff_accepts output r).mp hr
    have hcopies := haccepts.copies infix_ifconfig_name infix_of_ifconfigCandidate
    exact ⟨hcopies, hcopies.pieces⟩
  · intro r hr
    obtain ⟨header, text, haccepts, rfl⟩ := (mem_parseIpAddrOutput_iff_accepts output r).mp hr
    have hcopies := haccepts.copies infix_ipAddr_name infix_of_ipAddrCandidate
    exact ⟨hcopies, hcopies.pieces⟩

end DeviceDiscovery.Parser
