import DeviceDiscovery.Foundation.Words
import DeviceDiscovery.Foundation.FirstOccurrence
import DeviceDiscovery.Platform.Inet

/-!
The parsers of `ifconfig` and `ip -4 addr` output (`parser/ifconfig_parser.cpp`).

Both parsers read a text line by line and carry two things from line to line:
the name of the block they are in and the list collected so far. A parser is
therefore the fold of one line step over the lines of the text, and each line
step is a definition of its own (`ifconfigLine`, `ipAddrLine`). What a line
contributes to the list is always made by `append`, so the list of a whole text
is the list of first occurrences of what its lines report
(`appendAll_eq_eraseDups`).
-/

namespace DeviceDiscovery.Parser

open Foundation DeviceDiscovery.Platform

/-- One reported address of the device. -/
structure RemoteInterface where
  name : Bytes
  ipv4 : Bytes
  deriving DecidableEq, Repr

/-! ### Tokens -/

/-- The bytes `trim` removes. Vertical tab and form feed are not among them,
although `std::isspace` counts them as white space. -/
def isBlank (c : UInt8) : Bool := c == ' ' || c == '\t' || c == '\r' || c == '\n'

def trim (value : Bytes) : Bytes := (value.dropWhile isBlank).rdropWhile isBlank

/-- The tokens `>>` reads from a string stream over `text`. -/
def tokens (text : Bytes) : List Bytes := words isSpace text

def isValidIpv4 (text : Bytes) : Bool := (inetPton text).isSome

/-- `"eth0:"` (net-tools), `"veth0@if12"` (ip), `"eth0:1"` (alias). -/
def normalizeName (name : Bytes) : Bytes :=
  let name := if name.getLast? = some (':' : UInt8) then name.dropLast else name
  name.takeWhile (· != '@')

/-- `text.rfind("addr:", 0) == 0`. -/
def hasAddrPrefix (text : Bytes) : Bool := (bytes "addr:").isPrefixOf text

/-- The end of the loop body of `extract_inet_address`: the candidate without an
`addr:` prefix and without what follows a slash, when that is an address. -/
def checkedAddress (candidate : Bytes) : Bytes :=
  let candidate : Bytes := if hasAddrPrefix candidate then candidate.drop 5 else candidate
  let candidate : Bytes := candidate.takeWhile (· != ('/' : UInt8))
  if isValidIpv4 candidate then candidate else []

/-- The loop of `extract_inet_address` over the tokens of a line. The first
token that is `inet` or starts with `addr:` decides. -/
def inetAddressOfTokens : List Bytes → Bytes
  | [] => []
  | token :: rest =>
      if token = bytes "inet" then
        match rest with
        | [] => []
        | candidate :: _ => checkedAddress candidate
      else if hasAddrPrefix token then checkedAddress (token.drop 5)
      else inetAddressOfTokens rest

def extractInetAddress (line : Bytes) : Bytes := inetAddressOfTokens (tokens (trim line))

/-! ### Collecting the interfaces -/

def isLoopbackInterfaceName (name : Bytes) : Bool := name == bytes "lo" || name == bytes "lo0"

def append (interfaces : List RemoteInterface) (name ipv4 : Bytes) : List RemoteInterface :=
  if name = [] ∨ ipv4 = [] ∨ isLoopbackInterfaceName name then interfaces
  else
    let duplicate := interfaces.any fun existing => existing.name == name && existing.ipv4 == ipv4
    if duplicate then interfaces else interfaces ++ [⟨name, ipv4⟩]

/-- What a parser carries from line to line. -/
structure ParseState where
  current : Bytes
  interfaces : List RemoteInterface
  deriving DecidableEq, Repr

/-- One turn of the loop of `parse_ifconfig_output`. -/
def ifconfigLine (s : ParseState) (line : Bytes) : ParseState :=
  match line with
  | [] => s
  | front :: _ =>
      let newBlock := !isSpace front
      let current := if newBlock then normalizeName ((tokens line).headD []) else s.current
      if current = [] then { s with current := current }
      else
        let address := extractInetAddress line
        if address ≠ [] then ⟨current, append s.interfaces current address⟩
        else { s with current := current }

def parseIfconfigOutput (output : Bytes) : List RemoteInterface :=
  ((splitLines ('\n' : UInt8) output).foldl ifconfigLine ⟨[], []⟩).interfaces

/-- One turn of the loop of `parse_ip_addr_output`. -/
def ipAddrLine (s : ParseState) (line : Bytes) : ParseState :=
  let trimmed := trim line
  match trimmed with
  | [] => s
  | front :: _ =>
      if isDigit front ∧ (':' : UInt8) ∈ trimmed then
        { s with current := normalizeName ((tokens trimmed)[1]?.getD []) }
      else if s.current = [] then s
      else
        let address := extractInetAddress trimmed
        if address ≠ [] then { s with interfaces := append s.interfaces s.current address }
        else s

def parseIpAddrOutput (output : Bytes) : List RemoteInterface :=
  ((splitLines ('\n' : UInt8) output).foldl ipAddrLine ⟨[], []⟩).interfaces

/-! ### What a text reports

`append` refuses some reports and merges repeated ones. `IsReported` is the
first half, and `appendAll_eq_eraseDups` the second. -/

/-- The reports `append` takes: a name that is not a loopback device, and an
address. -/
def IsReported (r : RemoteInterface) : Prop :=
  r.name ≠ [] ∧ r.ipv4 ≠ [] ∧ isLoopbackInterfaceName r.name = false

instance : DecidablePred IsReported := fun r =>
  inferInstanceAs (Decidable (r.name ≠ [] ∧ r.ipv4 ≠ [] ∧ isLoopbackInterfaceName r.name = false))

def appendAll (interfaces reports : List RemoteInterface) : List RemoteInterface :=
  reports.foldl (fun acc r => append acc r.name r.ipv4) interfaces

theorem append_eq_insertNew (interfaces : List RemoteInterface) (r : RemoteInterface) :
    append interfaces r.name r.ipv4 =
      if IsReported r then insertNew interfaces r else interfaces := by
  have hdup : (interfaces.any fun e => e.name == r.name && e.ipv4 == r.ipv4) =
      decide (r ∈ interfaces) := by
    rw [Bool.eq_iff_iff, decide_eq_true_iff, List.any_eq_true]
    constructor
    · rintro ⟨e, he, h⟩
      simp only [Bool.and_eq_true, beq_iff_eq] at h
      have : e = r := by
        cases e
        cases r
        simp_all
      exact this ▸ he
    · intro hr
      exact ⟨r, hr, by simp⟩
  by_cases hr : IsReported r
  · obtain ⟨hname, hip, hloop⟩ := hr
    rw [if_pos ⟨hname, hip, hloop⟩, append, if_neg (by simp [hname, hip, hloop]), insertNew]
    simp only [hdup, decide_eq_true_eq]
  · rw [if_neg hr, append, if_pos]
    by_contra hkeep
    simp only [not_or, Bool.not_eq_true] at hkeep
    exact hr hkeep

theorem appendAll_eq_foldl (interfaces reports : List RemoteInterface) :
    appendAll interfaces reports =
      (reports.filter (fun r => IsReported r)).foldl insertNew interfaces := by
  induction reports generalizing interfaces with
  | nil => rfl
  | cons r reports ih =>
      rw [appendAll, List.foldl_cons, append_eq_insertNew, ← appendAll, ih]
      by_cases hr : IsReported r <;> simp [hr]

/-- The list a parser collects: the first occurrences of the reports that
`append` takes. -/
theorem appendAll_eq_eraseDups (reports : List RemoteInterface) :
    appendAll [] reports = (reports.filter (fun r => IsReported r)).eraseDups := by
  rw [appendAll_eq_foldl, foldl_insertNew]

/-- Collecting into a list adds what the list does not hold. -/
theorem appendAll_eq_append (interfaces reports : List RemoteInterface) :
    appendAll interfaces reports =
      interfaces ++ (appendAll [] reports).filter fun r => r ∉ interfaces := by
  rw [appendAll_eq_foldl, foldl_insertNew_from, ← foldl_insertNew, ← appendAll_eq_foldl]

@[simp] theorem appendAll_nil (interfaces : List RemoteInterface) :
    appendAll interfaces [] = interfaces := rfl

theorem appendAll_append (interfaces xs ys : List RemoteInterface) :
    appendAll interfaces (xs ++ ys) = appendAll (appendAll interfaces xs) ys :=
  List.foldl_append

end DeviceDiscovery.Parser
