import DeviceDiscovery.Parser.Blocks

/-!
Captures that are read one after the other.

A parser carries two things over the place where one text ends and another
begins, the name of the open block and the list. The name is of no account when
the second text begins with a line that opens a block, and the list is what the
first text gave: so the parse of both is the parse of the first followed by what
the second adds to it. Nothing is assumed of the first text, except that its last
line is ended.
-/

namespace DeviceDiscovery.Parser

open Foundation DeviceDiscovery.Platform

/-- An empty text, or one whose last line is ended. -/
def EndsLine (text : Bytes) : Prop := text = [] ∨ text.getLast? = some ('\n' : UInt8)

instance (text : Bytes) : Decidable (EndsLine text) :=
  inferInstanceAs (Decidable (text = [] ∨ text.getLast? = some ('\n' : UInt8)))

namespace LineFormat

variable (f : LineFormat)

/-- The parser of a format. -/
def parse (output : Bytes) : List RemoteInterface :=
  ((splitLines ('\n' : UInt8) output).foldl f.line ⟨[], []⟩).interfaces

/-- The first line of the text opens a block. -/
def Heads (text : Bytes) : Prop := (splitLines ('\n' : UInt8) text).head?.any f.opens = true

instance (text : Bytes) : Decidable (f.Heads text) :=
  inferInstanceAs (Decidable ((splitLines ('\n' : UInt8) text).head?.any f.opens = true))

/-- What the lines report, one report for each line, when they are read with the
block `current` open. -/
def reports : Bytes → List Bytes → List RemoteInterface
  | _, [] => []
  | current, text :: lines =>
      let current := if f.opens text then f.name text else current
      ⟨current, f.address text⟩ :: reports current lines

theorem foldl_line (lines : List Bytes) (s : ParseState) :
    (lines.foldl f.line s).interfaces = appendAll s.interfaces (f.reports s.current lines) := by
  induction lines generalizing s with
  | nil => rfl
  | cons text lines ih =>
      rw [List.foldl_cons, ih]
      rfl

theorem parse_eq (output : Bytes) :
    f.parse output = appendAll [] (f.reports [] (splitLines ('\n' : UInt8) output)) :=
  f.foldl_line _ _

/-- Lines that begin with an opening one do not depend on the block before them. -/
theorem reports_of_opens {lines : List Bytes} (h : lines.head?.any f.opens = true)
    (current current' : Bytes) : f.reports current lines = f.reports current' lines := by
  cases lines with
  | nil => rfl
  | cons text lines =>
      have hopens : f.opens text = true := by simpa using h
      simp only [reports, hopens, if_true]

/-- What is parsed after a text that ends its last line. -/
theorem parse_append {a b : Bytes} (ha : EndsLine a) (hb : f.Heads b) :
    f.parse (a ++ b) = f.parse a ++ (f.parse b).filter fun r => r ∉ f.parse a := by
  have hlines : splitLines ('\n' : UInt8) (a ++ b) =
      splitLines ('\n' : UInt8) a ++ splitLines ('\n' : UInt8) b := splitLines_append ha b
  calc f.parse (a ++ b)
      = ((splitLines ('\n' : UInt8) b).foldl f.line
          ((splitLines ('\n' : UInt8) a).foldl f.line ⟨[], []⟩)).interfaces := by
        rw [parse, hlines, List.foldl_append]
    _ = appendAll (f.parse a) (f.reports [] (splitLines ('\n' : UInt8) b)) := by
        rw [foldl_line, f.reports_of_opens hb _ [], parse]
    _ = f.parse a ++ (f.parse b).filter fun r => r ∉ f.parse a := by
        rw [appendAll_eq_append, ← parse_eq]

end LineFormat

/-! ### The two parsers -/

theorem parseIfconfigOutput_eq : parseIfconfigOutput = ifconfigFormat.parse := by
  funext output
  rw [parseIfconfigOutput, funext₂ ifconfigLine_eq, LineFormat.parse]

theorem parseIpAddrOutput_eq : parseIpAddrOutput = ipAddrFormat.parse := by
  funext output
  rw [parseIpAddrOutput, funext₂ ipAddrLine_eq, LineFormat.parse]

/-- Whatever stands before a header line, the parse of the whole is the parse of
what stands before, followed by the entries that the rest adds. No parse holds an
entry twice. -/
theorem parse_blockwise (a b : Bytes) (ha : EndsLine a) :
    (ifconfigFormat.Heads b → parseIfconfigOutput (a ++ b) =
        parseIfconfigOutput a ++ (parseIfconfigOutput b).filter fun r =>
          r ∉ parseIfconfigOutput a) ∧
      (ipAddrFormat.Heads b → parseIpAddrOutput (a ++ b) =
        parseIpAddrOutput a ++ (parseIpAddrOutput b).filter fun r => r ∉ parseIpAddrOutput a) ∧
      ∀ output, (parseIfconfigOutput output).Nodup ∧ (parseIpAddrOutput output).Nodup := by
  refine ⟨fun hb => ?_, fun hb => ?_, fun output => ⟨?_, ?_⟩⟩
  · rw [parseIfconfigOutput_eq]
    exact ifconfigFormat.parse_append ha hb
  · rw [parseIpAddrOutput_eq]
    exact ipAddrFormat.parse_append ha hb
  · exact nodup_parseIfconfigOutput output
  · exact nodup_parseIpAddrOutput output

/-- An unfinished block before the header, and an address that was shown before. -/
theorem parse_blockwise_sample :
    EndsLine (bytes "junk\x00\neth0: UP\n inet 10.0.0.1\n") ∧
      parseIfconfigOutput (bytes "junk\x00\neth0: UP\n inet 10.0.0.1\n" ++
          bytes "eth0: UP\n inet 10.0.0.1\neth1: UP\n inet 10.0.0.2") =
        [⟨"eth0", "10.0.0.1"⟩, ⟨"eth1", "10.0.0.2"⟩] := by
  have hends : EndsLine (bytes "junk\x00\neth0: UP\n inet 10.0.0.1\n") := by decide
  refine ⟨hends, ?_⟩
  have hheads : ifconfigFormat.Heads
      (bytes "eth0: UP\n inet 10.0.0.1\neth1: UP\n inet 10.0.0.2") := by decide
  rw [(parse_blockwise _ _ hends).1 hheads]
  decide

end DeviceDiscovery.Parser
