import DeviceDiscovery.Parser.Locality

/-!
Captures with either kind of line end.

A carriage return before a newline stands at the end of the line. It opens no
block and no token, and `trim` removes it, so a line means the same with it and
without it; the fold over the lines does the rest.
-/

namespace DeviceDiscovery.Parser

open Foundation DeviceDiscovery.Platform

/-! ### A line with a carriage return at its end -/

theorem tokens_append_cr (line : Bytes) : tokens (line ++ [('\r' : UInt8)]) = tokens line :=
  words_append_gap (by decide) line

theorem trim_append_cr (line : Bytes) : trim (line ++ [('\r' : UInt8)]) = trim line := by
  have hcr : isBlank ('\r' : UInt8) = true := by decide
  unfold trim
  by_cases hline : ∀ c ∈ line, isBlank c = true
  · have hall : ∀ c ∈ line ++ [('\r' : UInt8)], isBlank c = true := by
      simpa [or_imp, forall_and, hcr] using hline
    rw [List.dropWhile_eq_nil_iff.mpr hall, List.dropWhile_eq_nil_iff.mpr hline]
  · have hleft : (line ++ [('\r' : UInt8)]).dropWhile isBlank =
        line.dropWhile isBlank ++ [('\r' : UInt8)] := by
      rw [List.dropWhile_append, if_neg]
      simpa [List.isEmpty_iff, List.dropWhile_eq_nil_iff] using hline
    rw [hleft, List.rdropWhile_concat_pos _ _ _ hcr]

theorem ifconfig_opens_append_cr (line : Bytes) :
    ifconfigFormat.opens (line ++ [('\r' : UInt8)]) = ifconfigFormat.opens line := by
  cases line with
  | nil => decide
  | cons front rest => rfl

theorem ipAddr_opens_append_cr (line : Bytes) :
    ipAddrFormat.opens (line ++ [('\r' : UInt8)]) = ipAddrFormat.opens line := by
  show opensIpAddrBlock _ = opensIpAddrBlock line
  rw [opensIpAddrBlock, trim_append_cr, opensIpAddrBlock]

/-- The line steps of the two parsers do not see the carriage return. -/
theorem ifconfig_line_append_cr (s : ParseState) (line : Bytes) :
    ifconfigFormat.line s (line ++ [('\r' : UInt8)]) = ifconfigFormat.line s line := by
  have hname : ifconfigFormat.name (line ++ [('\r' : UInt8)]) = ifconfigFormat.name line := by
    simp only [ifconfigFormat, tokens_append_cr]
  have haddress : ifconfigFormat.address (line ++ [('\r' : UInt8)]) =
      ifconfigFormat.address line := by
    simp only [ifconfigFormat, extractInetAddress, trim_append_cr]
  simp only [LineFormat.line, ifconfig_opens_append_cr, hname, haddress]

theorem ipAddr_line_append_cr (s : ParseState) (line : Bytes) :
    ipAddrFormat.line s (line ++ [('\r' : UInt8)]) = ipAddrFormat.line s line := by
  have hopens := ipAddr_opens_append_cr line
  have hname : ipAddrFormat.name (line ++ [('\r' : UInt8)]) = ipAddrFormat.name line := by
    simp only [ipAddrFormat, trim_append_cr]
  have haddress : ipAddrFormat.address (line ++ [('\r' : UInt8)]) =
      ipAddrFormat.address line := by
    show (if ipAddrFormat.opens _ then _ else _) = if ipAddrFormat.opens line then _ else _
    rw [hopens, trim_append_cr]
  simp only [LineFormat.line, hopens, hname, haddress]

/-! ### A text with carriage returns before its newlines -/

/-- `s` with a carriage return before each newline. -/
def withCarriageReturns (s : Bytes) : Bytes := insertBefore ('\n' : UInt8) ('\r' : UInt8) s

namespace LineFormat

theorem parse_withCarriageReturns {f : LineFormat}
    (hline : ∀ s line, f.line s (line ++ [('\r' : UInt8)]) = f.line s line) (s : Bytes) :
    f.parse (withCarriageReturns s) = f.parse s := by
  have hcr : ('\r' : UInt8) ≠ ('\n' : UInt8) := by decide
  have hlines := splitLines_insertBefore hcr s
  have hfold : (splitLines ('\n' : UInt8) s).foldl f.line ⟨[], []⟩ =
      (splitLines ('\n' : UInt8) (withCarriageReturns s)).foldl f.line ⟨[], []⟩ := by
    refine List.rel_foldl ?_ rfl hlines
    rintro t _ rfl line line' (rfl | rfl)
    · rfl
    · exact (hline t line).symm
  rw [parse, parse, hfold]

end LineFormat

/-- The two parsers read a text with either kind of line end alike. -/
theorem parse_lineEndings (s : Bytes) :
    parseIfconfigOutput (withCarriageReturns s) = parseIfconfigOutput s ∧
      parseIpAddrOutput (withCarriageReturns s) = parseIpAddrOutput s := by
  rw [parseIfconfigOutput_eq, parseIpAddrOutput_eq]
  constructor
  · exact LineFormat.parse_withCarriageReturns ifconfig_line_append_cr s
  · exact LineFormat.parse_withCarriageReturns ipAddr_line_append_cr s

end DeviceDiscovery.Parser
