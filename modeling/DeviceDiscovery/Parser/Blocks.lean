import DeviceDiscovery.Parser.Agreement

/-!
What the parsers make of an arbitrary text.

Both formats divide the lines of a text into blocks: some lines open a block and
name it, and every line belongs to the block that the last such line opened. An
entry of the result is an address shown on a line, under the name of the line's
block. Nothing is assumed of the text here.
-/

namespace DeviceDiscovery.Parser

open Foundation DeviceDiscovery.Platform

/-! ### Formats -/

/-- Which lines of a format open a block, what name they give it, and the address
a line shows. -/
structure LineFormat where
  opens : Bytes → Bool
  name : Bytes → Bytes
  address : Bytes → Bytes

def ifconfigFormat : LineFormat where
  opens line := line.head?.any fun front => !isSpace front
  name line := normalizeName ((tokens line).headD [])
  address := extractInetAddress

/-- A line that begins with a digit and has a colon. -/
def opensIpAddrBlock (line : Bytes) : Bool :=
  (trim line).head?.any isDigit && decide ((':' : UInt8) ∈ trim line)

/-- A line that opens a block shows no address in this format. -/
def ipAddrFormat : LineFormat where
  opens := opensIpAddrBlock
  name line := normalizeName ((tokens (trim line))[1]?.getD [])
  address line := if opensIpAddrBlock line then [] else extractInetAddress (trim line)

namespace LineFormat

variable (f : LineFormat)

/-- The line step of either parser. -/
def line (s : ParseState) (text : Bytes) : ParseState :=
  let current := if f.opens text then f.name text else s.current
  ⟨current, append s.interfaces current (f.address text)⟩

/-- The last of the lines that opens a block. -/
def header? (lines : List Bytes) : Option Bytes := (lines.filter f.opens).getLast?

/-- A line shows an address in a block with a name, neither of them empty, and the
block is not that of a loopback device. -/
def Shows (lines : List Bytes) (r : RemoteInterface) : Prop :=
  IsReported r ∧ ∃ before line after header, lines = before ++ line :: after ∧
    f.header? (before ++ [line]) = some header ∧ r = ⟨f.name header, f.address line⟩

/-! ### The fold -/

theorem foldl_inside {lines : List Bytes} (h : ∀ text ∈ lines, f.opens text = false)
    (s : ParseState) : lines.foldl f.line s =
      ⟨s.current, appendAll s.interfaces (lines.map fun text => ⟨s.current, f.address text⟩)⟩ := by
  induction lines generalizing s with
  | nil => rfl
  | cons text lines ih =>
      have hline : f.line s text = ⟨s.current, append s.interfaces s.current (f.address text)⟩ := by
        simp only [line, h text (by simp), Bool.false_eq_true, if_false]
      rw [List.foldl_cons, ih fun t ht => h t (by simp [ht]), hline]
      rfl

/-- The lines of a block report under the name in its first line. -/
theorem foldl_block {header : Bytes} (hheader : f.opens header = true) {lines : List Bytes}
    (h : ∀ text ∈ lines, f.opens text = false) (s : ParseState) :
    (header :: lines).foldl f.line s = ⟨f.name header, appendAll s.interfaces
      ((header :: lines).map fun text => ⟨f.name header, f.address text⟩)⟩ := by
  have hline : f.line s header =
      ⟨f.name header, append s.interfaces (f.name header) (f.address header)⟩ := by
    simp only [line, hheader, if_true]
  rw [List.foldl_cons, hline, foldl_inside f h]
  rfl

theorem header?_append (lines : List Bytes) (text : Bytes) :
    f.header? (lines ++ [text]) = if f.opens text then some text else f.header? lines := by
  unfold header?
  rw [List.filter_append]
  by_cases hopens : f.opens text = true
  · simp [hopens]
  · simp [hopens]

theorem foldl_current (lines : List Bytes) :
    (lines.foldl f.line ⟨[], []⟩).current = ((f.header? lines).map f.name).getD [] := by
  induction lines using List.reverseRecOn with
  | nil => rfl
  | append_singleton lines text ih =>
      rw [List.foldl_append, header?_append]
      show (if f.opens text then f.name text else _) = _
      rw [ih]
      split <;> rfl

theorem mem_append_iff (interfaces : List RemoteInterface) (name ipv4 : Bytes)
    (r : RemoteInterface) :
    r ∈ append interfaces name ipv4 ↔ r ∈ interfaces ∨ IsReported r ∧ r = ⟨name, ipv4⟩ := by
  rw [append_eq_insertNew interfaces ⟨name, ipv4⟩]
  by_cases hreported : IsReported ⟨name, ipv4⟩
  · rw [if_pos hreported, mem_insertNew]
    constructor
    · rintro (hold | rfl)
      · exact .inl hold
      · exact .inr ⟨hreported, rfl⟩
    · rintro (hold | ⟨-, rfl⟩)
      · exact .inl hold
      · exact .inr rfl
  · rw [if_neg hreported]
    constructor
    · exact .inl
    · rintro (hold | ⟨hr, rfl⟩)
      · exact hold
      · exact absurd hr hreported

/-- What one more line shows. -/
theorem shows_append_iff (lines : List Bytes) (text : Bytes) (r : RemoteInterface) :
    f.Shows (lines ++ [text]) r ↔ f.Shows lines r ∨ IsReported r ∧
      r = ⟨((f.header? (lines ++ [text])).map f.name).getD [], f.address text⟩ := by
  constructor
  · rintro ⟨hreported, before, line, after, header, hlines, hheader, hr⟩
    obtain rfl | ⟨after, last, rfl⟩ := after.eq_nil_or_concat
    · -- The line itself.
      obtain ⟨rfl, hline⟩ := List.append_inj' hlines rfl
      obtain rfl := List.singleton_inj.mp hline
      exact .inr ⟨hreported, by rw [hheader]; exact hr⟩
    · rw [List.concat_eq_append, ← List.cons_append, ← List.append_assoc] at hlines
      obtain ⟨rfl, -⟩ := List.append_inj' hlines rfl
      exact .inl ⟨hreported, before, line, after, header, rfl, hheader, hr⟩
  · rintro (⟨hreported, before, line, after, header, rfl, hheader, hr⟩ | ⟨hreported, hr⟩)
    · exact ⟨hreported, before, line, after ++ [text], header, by simp, hheader, hr⟩
    · cases hheader : f.header? (lines ++ [text]) with
      | none =>
          -- Outside of all blocks there is no name.
          rw [hheader] at hr
          exact absurd (congrArg RemoteInterface.name hr) hreported.1
      | some header =>
          rw [hheader] at hr
          exact ⟨hreported, lines, text, [], header, rfl, hheader, hr⟩

theorem mem_foldl_iff (lines : List Bytes) (r : RemoteInterface) :
    r ∈ (lines.foldl f.line ⟨[], []⟩).interfaces ↔ f.Shows lines r := by
  induction lines using List.reverseRecOn with
  | nil =>
      refine iff_of_false List.not_mem_nil ?_
      rintro ⟨-, before, line, after, header, hlines, -⟩
      simp at hlines
  | append_singleton lines text ih =>
      have hcurrent := f.foldl_current (lines ++ [text])
      rw [List.foldl_append] at hcurrent ⊢
      rw [shows_append_iff, ← hcurrent, ← ih]
      exact mem_append_iff _ _ _ _

theorem nodup_append {interfaces : List RemoteInterface} (h : interfaces.Nodup)
    (name ipv4 : Bytes) : (append interfaces name ipv4).Nodup := by
  rw [append_eq_insertNew interfaces ⟨name, ipv4⟩]
  split
  · exact nodup_insertNew h _
  · exact h

theorem nodup_foldl (lines : List Bytes) :
    (lines.foldl f.line ⟨[], []⟩).interfaces.Nodup := by
  induction lines using List.reverseRecOn with
  | nil => exact List.nodup_nil
  | append_singleton lines text ih =>
      rw [List.foldl_append]
      exact nodup_append ih _ _

end LineFormat

/-! ### The two parsers -/

theorem append_nil (interfaces : List RemoteInterface) (name : Bytes) :
    append interfaces name [] = interfaces := by
  rw [append, if_pos (.inr (.inl rfl))]

theorem append_nameless (interfaces : List RemoteInterface) (ipv4 : Bytes) :
    append interfaces [] ipv4 = interfaces := by
  rw [append, if_pos (.inl rfl)]

theorem ifconfigLine_eq (s : ParseState) (text : Bytes) :
    ifconfigLine s text = ifconfigFormat.line s text := by
  cases text with
  | nil =>
      have hnone : extractInetAddress [] = [] := by decide
      show s = ⟨s.current, append s.interfaces s.current (extractInetAddress [])⟩
      rw [hnone, append_nil]
  | cons front rest =>
      show ifconfigLine s (front :: rest) =
        let current := if !isSpace front then normalizeName ((tokens (front :: rest)).headD [])
          else s.current
        ⟨current, append s.interfaces current (extractInetAddress (front :: rest))⟩
      simp only [ifconfigLine]
      generalize (if (!isSpace front) = true then normalizeName ((tokens (front :: rest)).headD [])
        else s.current) = current
      -- The source skips nameless blocks and lines without an address; `append` does so
      -- anyway.
      by_cases hcurrent : current = []
      · rw [if_pos hcurrent, hcurrent, append_nameless]
      rw [if_neg hcurrent]
      by_cases haddress : extractInetAddress (front :: rest) = []
      · rw [if_neg (not_not.mpr haddress), haddress, append_nil]
      · rw [if_pos haddress]

theorem ipAddrLine_eq (s : ParseState) (text : Bytes) :
    ipAddrLine s text = ipAddrFormat.line s text := by
  have hopens : opensIpAddrBlock text = true ↔
      ∃ front rest, trim text = front :: rest ∧ isDigit front ∧ (':' : UInt8) ∈ trim text := by
    unfold opensIpAddrBlock
    cases trim text with
    | nil => simp
    | cons front rest => simp
  simp only [ipAddrLine, LineFormat.line, ipAddrFormat]
  cases htrim : trim text with
  | nil =>
      have hnot : opensIpAddrBlock text = false := by
        rw [opensIpAddrBlock, htrim]
        rfl
      have hnone : extractInetAddress [] = [] := by decide
      simp only [hnot, Bool.false_eq_true, if_false, hnone, append_nil]
  | cons front rest =>
      rw [htrim] at hopens
      by_cases hheader : isDigit front ∧ (':' : UInt8) ∈ front :: rest
      · have hyes : opensIpAddrBlock text = true := hopens.mpr ⟨front, rest, rfl, hheader⟩
        simp only [hheader, hyes, and_self, if_true, append_nil]
      · have hnot : opensIpAddrBlock text = false := by
          rw [Bool.eq_false_iff]
          intro hyes
          obtain ⟨c, cs, hcons, hrest⟩ := hopens.mp hyes
          obtain ⟨rfl, rfl⟩ := List.cons.inj hcons
          exact hheader hrest
        simp only [if_neg hheader, hnot, Bool.false_eq_true, if_false]
        by_cases hcurrent : s.current = []
        · rw [if_pos hcurrent, hcurrent, append_nameless, ← hcurrent]
        rw [if_neg hcurrent]
        by_cases haddress : extractInetAddress (front :: rest) = []
        · rw [if_neg (not_not.mpr haddress), haddress, append_nil]
        · rw [if_pos haddress]

theorem mem_parseIfconfigOutput_iff (output : Bytes) (r : RemoteInterface) :
    r ∈ parseIfconfigOutput output ↔
      ifconfigFormat.Shows (splitLines ('\n' : UInt8) output) r := by
  rw [parseIfconfigOutput, funext₂ ifconfigLine_eq, LineFormat.mem_foldl_iff]

theorem mem_parseIpAddrOutput_iff (output : Bytes) (r : RemoteInterface) :
    r ∈ parseIpAddrOutput output ↔ ipAddrFormat.Shows (splitLines ('\n' : UInt8) output) r := by
  rw [parseIpAddrOutput, funext₂ ipAddrLine_eq, LineFormat.mem_foldl_iff]

theorem nodup_parseIfconfigOutput (output : Bytes) : (parseIfconfigOutput output).Nodup := by
  rw [parseIfconfigOutput, funext₂ ifconfigLine_eq]
  exact ifconfigFormat.nodup_foldl _

theorem nodup_parseIpAddrOutput (output : Bytes) : (parseIpAddrOutput output).Nodup := by
  rw [parseIpAddrOutput, funext₂ ipAddrLine_eq]
  exact ipAddrFormat.nodup_foldl _

end DeviceDiscovery.Parser
