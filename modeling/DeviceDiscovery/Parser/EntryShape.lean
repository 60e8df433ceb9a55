import DeviceDiscovery.Parser.Locality

/-!
What an entry looks like.

A name comes out of a token, so there is no white space in it. An address has
been accepted by `inet_pton`, but `is_valid_ipv4` hands over a pointer to
characters and `extract_inet_address` returns the counted string: what stands
behind a NUL has not been looked at. Where no such text is accepted, every
address is a dotted quad and nothing else.
-/

namespace DeviceDiscovery.Parser

open Foundation DeviceDiscovery.Platform

/-- The address is a dotted quad over its whole length, and the name is a word. -/
structure WellFormed (r : RemoteInterface) : Prop where
  address : ∃ x, r.ipv4 = inetNtop x
  named : r.name ≠ []
  plain : ∀ c ∈ r.name, isSpace c = false

/-! ### The text that is checked -/

/-- A candidate without an `addr:` prefix and without what follows a slash. -/
def strippedCandidate (candidate : Bytes) : Bytes :=
  let candidate : Bytes := if hasAddrPrefix candidate then candidate.drop 5 else candidate
  candidate.takeWhile (· != ('/' : UInt8))

/-- The text that `extract_inet_address` hands to `is_valid_ipv4`, if the line has
one. -/
def inetCandidate : List Bytes → Option Bytes
  | [] => none
  | token :: rest =>
      if token = bytes "inet" then rest.head?.map strippedCandidate
      else if hasAddrPrefix token then some (strippedCandidate (token.drop 5))
      else inetCandidate rest

theorem checkedAddress_eq (candidate : Bytes) : checkedAddress candidate =
    if isValidIpv4 (strippedCandidate candidate) then strippedCandidate candidate else [] := rfl

theorem inetAddressOfTokens_eq (ts : List Bytes) :
    inetAddressOfTokens ts = ((inetCandidate ts).filter isValidIpv4).getD [] := by
  have hchecked (candidate : Bytes) : checkedAddress candidate =
      ((some (strippedCandidate candidate)).filter isValidIpv4).getD [] := by
    rw [checkedAddress_eq, Option.filter_some]
    split <;> rfl
  induction ts with
  | nil => rfl
  | cons token rest ih =>
      rw [inetAddressOfTokens.eq_def, inetCandidate]
      by_cases hinet : token = bytes "inet"
      · simp only [if_pos hinet]
        cases rest with
        | nil => rfl
        | cons candidate rest => exact hchecked candidate
      · simp only [if_neg hinet]
        split
        · exact hchecked _
        · exact ih

/-- What `inet_pton` accepts is a dotted quad when it has seen all of it. -/
theorem eq_inetNtop_of_isValidIpv4 {text : Bytes} (hvalid : isValidIpv4 text = true)
    (hnul : 0 ∉ text) : ∃ x, text = inetNtop x := by
  obtain ⟨x, hx⟩ := Option.isSome_iff_exists.mp hvalid
  rw [inetPton_eq_some_iff, cString_eq_self hnul] at hx
  exact ⟨x, hx⟩

theorem ne_nil_of_isValidIpv4 {text : Bytes} (hvalid : isValidIpv4 text = true) : text ≠ [] := by
  rintro rfl
  exact absurd hvalid (by decide)

theorem isSpace_of_mem_normalizeName {name : Bytes} (h : ∀ c ∈ name, isSpace c = false) :
    ∀ c ∈ normalizeName name, isSpace c = false := by
  intro c hc
  apply h
  have hcut := (List.takeWhile_prefix _).subset hc
  split at hcut
  · exact (List.dropLast_prefix name).subset hcut
  · exact hcut

theorem isSpace_of_mem_token {text token : Bytes} (h : token ∈ tokens text) :
    ∀ c ∈ token, isSpace c = false := (isWord_of_mem_words h).1.plain

namespace LineFormat

variable (f : LineFormat) (candidate : Bytes → Option Bytes)

/-- A line of a block that is reported has the candidate `text`, which `inet_pton`
accepts; `header` is the first line of the block. -/
def Accepts (output header text : Bytes) : Prop :=
  ∃ before line after, splitLines ('\n' : UInt8) output = before ++ line :: after ∧
    f.header? (before ++ [line]) = some header ∧ f.name header ≠ [] ∧
    isLoopbackInterfaceName (f.name header) = false ∧ candidate line = some text ∧
    isValidIpv4 text = true

/-- No candidate is accepted up to a NUL. -/
def NulFree (output : Bytes) : Prop :=
  ∀ header text, f.Accepts candidate output header text → 0 ∉ text

variable {f candidate}

/-- The entries are the accepted candidates under the names of their blocks. -/
theorem shows_iff_accepts
    (haddress : ∀ line, f.address line = ((candidate line).filter isValidIpv4).getD [])
    (output : Bytes) (r : RemoteInterface) : f.Shows (splitLines ('\n' : UInt8) output) r ↔
      ∃ header text, f.Accepts candidate output header text ∧ r = ⟨f.name header, text⟩ := by
  constructor
  · rintro ⟨⟨hnamed, hshown, hloop⟩, before, line, after, header, hlines, hheader, rfl⟩
    cases hfilter : (candidate line).filter isValidIpv4 with
    | none =>
        rw [haddress, hfilter] at hshown
        exact absurd rfl hshown
    | some text =>
        obtain ⟨hcandidate, hvalid⟩ := Option.filter_eq_some_iff.mp hfilter
        refine ⟨header, text, ⟨before, line, after, hlines, hheader, hnamed, hloop, hcandidate,
          hvalid⟩, ?_⟩
        rw [haddress, hfilter, Option.getD_some]
  · rintro ⟨header, text, ⟨before, line, after, hlines, hheader, hnamed, hloop, hcandidate,
      hvalid⟩, rfl⟩
    have htext : f.address line = text := by
      rw [haddress, hcandidate, Option.filter_some_pos hvalid, Option.getD_some]
    exact ⟨⟨hnamed, ne_nil_of_isValidIpv4 hvalid, hloop⟩, before, line, after, header, hlines,
      hheader, by rw [htext]⟩

theorem Accepts.isValidIpv4 {output header text : Bytes}
    (h : f.Accepts candidate output header text) : isValidIpv4 text = true := by
  obtain ⟨_, _, _, -, -, -, -, -, hvalid⟩ := h
  exact hvalid

theorem Accepts.named {output header text : Bytes}
    (h : f.Accepts candidate output header text) : f.name header ≠ [] := by
  obtain ⟨_, _, _, -, -, hnamed, -⟩ := h
  exact hnamed

theorem wellFormed_iff (hname : ∀ line, ∀ c ∈ f.name line, isSpace c = false) (output : Bytes) :
    (∀ header text, f.Accepts candidate output header text → WellFormed ⟨f.name header, text⟩) ↔
      f.NulFree candidate output := by
  constructor
  · intro h header text haccepts hnul
    obtain ⟨x, hx⟩ := (h header text haccepts).address
    exact zero_notMem_inetNtop x (hx ▸ hnul)
  · intro h header text haccepts
    exact ⟨eq_inetNtop_of_isValidIpv4 haccepts.isValidIpv4 (h header text haccepts),
      haccepts.named, hname header⟩

end LineFormat

/-! ### The two parsers -/

def ifconfigCandidate (line : Bytes) : Option Bytes := inetCandidate (tokens line)

/-- A line that opens a block is not searched for an address. -/
def ipAddrCandidate (line : Bytes) : Option Bytes :=
  if opensIpAddrBlock line then none else inetCandidate (tokens line)

theorem isSpace_of_mem_ifconfig_name (line : Bytes) :
    ∀ c ∈ ifconfigFormat.name line, isSpace c = false := by
  apply isSpace_of_mem_normalizeName
  cases htokens : tokens line with
  | nil => exact fun c hc => nomatch hc
  | cons token rest => exact isSpace_of_mem_token (htokens ▸ List.mem_cons_self)

theorem isSpace_of_mem_ipAddr_name (line : Bytes) :
    ∀ c ∈ ipAddrFormat.name line, isSpace c = false := by
  apply isSpace_of_mem_normalizeName
  cases htoken : (tokens (trim line))[1]? with
  | none => exact fun c hc => nomatch hc
  | some token => exact isSpace_of_mem_token (List.mem_of_getElem? htoken)

theorem mem_parseIfconfigOutput_iff_accepts (output : Bytes) (r : RemoteInterface) :
    r ∈ parseIfconfigOutput output ↔ ∃ header text,
      ifconfigFormat.Accepts ifconfigCandidate output header text ∧
        r = ⟨ifconfigFormat.name header, text⟩ := by
  rw [mem_parseIfconfigOutput_iff]
  apply LineFormat.shows_iff_accepts
  intro line
  rw [ifconfigCandidate, ← inetAddressOfTokens_eq, ← extractInetAddress_eq]
  rfl

theorem mem_parseIpAddrOutput_iff_accepts (output : Bytes) (r : RemoteInterface) :
    r ∈ parseIpAddrOutput output ↔ ∃ header text,
      ipAddrFormat.Accepts ipAddrCandidate output header text ∧
        r = ⟨ipAddrFormat.name header, text⟩ := by
  rw [mem_parseIpAddrOutput_iff]
  apply LineFormat.shows_iff_accepts
  intro line
  show (if opensIpAddrBlock line then [] else extractInetAddress (trim line)) = _
  rw [ipAddrCandidate, extractInetAddress_trim]
  split
  · rfl
  · exact inetAddressOfTokens_eq _

/-- A statement on every entry is one on every accepted candidate. -/
theorem forall_mem_iff_forall_accepts {f : LineFormat} {candidate : Bytes → Option Bytes}
    {output : Bytes} {entries : List RemoteInterface}
    (h : ∀ r, r ∈ entries ↔ ∃ header text, f.Accepts candidate output header text ∧
      r = ⟨f.name header, text⟩) (P : RemoteInterface → Prop) :
    (∀ r ∈ entries, P r) ↔
      ∀ header text, f.Accepts candidate output header text → P ⟨f.name header, text⟩ := by
  constructor
  · intro hall header text haccepts
    exact hall _ ((h _).mpr ⟨header, text, haccepts, rfl⟩)
  · intro hall r hr
    obtain ⟨header, text, haccepts, rfl⟩ := (h r).mp hr
    exact hall header text haccepts

/-- Every entry is well formed exactly when no text is accepted up to a NUL. -/
theorem parse_wellFormed_iff (output : Bytes) :
    ((∀ r ∈ parseIfconfigOutput output, WellFormed r) ↔
        ifconfigFormat.NulFree ifconfigCandidate output) ∧
      ((∀ r ∈ parseIpAddrOutput output, WellFormed r) ↔
        ipAddrFormat.NulFree ipAddrCandidate output) := by
  constructor
  · rw [forall_mem_iff_forall_accepts (mem_parseIfconfigOutput_iff_accepts output)]
    exact LineFormat.wellFormed_iff isSpace_of_mem_ifconfig_name output
  · rw [forall_mem_iff_forall_accepts (mem_parseIpAddrOutput_iff_accepts output)]
    exact LineFormat.wellFormed_iff isSpace_of_mem_ipAddr_name output

/-- A dotted quad, a NUL and more. -/
theorem not_wellFormed_nul :
    ¬(∀ r ∈ parseIfconfigOutput (bytes "eth0: UP\n inet 10.0.0.1\x00x\n"), WellFormed r) ∧
      ¬∀ r ∈ parseIpAddrOutput (bytes "2: eth0: UP\n inet 10.0.0.1\x00x/24\n"), WellFormed r := by
  have hparse : parseIfconfigOutput (bytes "eth0: UP\n inet 10.0.0.1\x00x\n") =
      [⟨"eth0", "10.0.0.1\x00x"⟩] := by decide
  have hparse' : parseIpAddrOutput (bytes "2: eth0: UP\n inet 10.0.0.1\x00x/24\n") =
      [⟨"eth0", "10.0.0.1\x00x"⟩] := by decide
  have hbad : ¬WellFormed ⟨"eth0", "10.0.0.1\x00x"⟩ := by
    rintro ⟨⟨x, hx⟩, -, -⟩
    apply zero_notMem_inetNtop x
    rw [← hx]
    decide
  rw [hparse, hparse']
  exact ⟨fun h => hbad (h _ (by simp)), fun h => hbad (h _ (by simp))⟩

end DeviceDiscovery.Parser
