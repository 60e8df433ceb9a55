import DeviceDiscovery.Parser.Locality

/-!
Captures with alias labels.

A second address of a device is shown in a block of its own, under the label
`NAME:N`. Both formats of `ifconfig` print such blocks, and both mark the blocks
of a loopback device in the header. The parser looks at the label only: it drops
the blocks that are called `lo` or `lo0` and keeps all others, so an alias of the
loopback device is reported under its label.
-/

namespace DeviceDiscovery.Parser

open Foundation DeviceDiscovery.Platform

/-! ### Blocks with a label -/

/-- A block whose header may show the number of an alias. -/
structure AliasBlock extends IfconfigBlock where
  number : Option ℕ

namespace AliasBlock

def suffix (b : AliasBlock) : Bytes :=
  match b.number with
  | none => []
  | some n => ":" ++ decimal n

/-- `NAME` or `NAME:N`. -/
def label (b : AliasBlock) : Bytes := b.name.text ++ b.suffix

def header (b : AliasBlock) : Format → Bytes
  | .netTools => b.label ++ ":" ++ " " ++ ("flags=" ++ b.flags.text) ++ b.details.text
  | .legacy =>
      b.label ++ b.gap.text ++ "Link" ++ " " ++ ("encap:" ++ b.flags.text) ++ b.details.text

/-- The lines below the header. -/
def inside (f : Format) (b : AliasBlock) : List Bytes :=
  b.lines.map (DetailLine.text f) ++ List.replicate b.blankLines []

def addresses (b : AliasBlock) : List Address := b.lines.filterMap DetailLine.address?

/-- The names between `<` and `>` of `flags=73<UP,LOOPBACK,RUNNING>`. -/
def flagNames (b : AliasBlock) : List Bytes :=
  ((b.flags.text.dropWhile (· != ('<' : UInt8))).drop 1 |>.takeWhile (· != ('>' : UInt8))).splitOn
    (',' : UInt8)

/-- The header shows a loopback device: by a flag, or by its encapsulation. -/
def IsLoopback (b : AliasBlock) : Format → Prop
  | .netTools => bytes "LOOPBACK" ∈ b.flagNames
  | .legacy => contains (b.header .legacy) "Link encap:Local Loopback" = true

instance (b : AliasBlock) : (f : Format) → Decidable (b.IsLoopback f)
  | .netTools => inferInstanceAs (Decidable (bytes "LOOPBACK" ∈ b.flagNames))
  | .legacy => inferInstanceAs (Decidable (contains (b.header .legacy) _ = true))

end AliasBlock

/-- The output of `ifconfig` for a device with aliases. -/
def renderAliases (f : Format) (blocks : List AliasBlock) : Bytes :=
  unlines ('\n' : UInt8) (blocks.flatMap fun b => b.header f :: b.inside f)

/-! ### The header of a block -/

theorem checkedAddress_of_no_dot {candidate : Bytes} (h : ('.' : UInt8) ∉ candidate) :
    checkedAddress candidate = [] := by
  have hinvalid : ∀ text : Bytes, ('.' : UInt8) ∉ text → isValidIpv4 text = false := by
    intro text htext
    rw [Bool.eq_false_iff]
    intro hvalid
    obtain ⟨x, hx⟩ := Option.isSome_iff_exists.mp hvalid
    rw [inetPton_eq_some_iff] at hx
    have hdot : ('.' : UInt8) ∈ inetNtop x := by
      simp [inetNtop, octets, List.intercalate, List.intersperse]
    rw [← hx] at hdot
    exact htext ((List.takeWhile_prefix _).subset hdot)
  rw [checkedAddress, hinvalid]
  · rfl
  · intro hdot
    have hcut := (List.takeWhile_prefix _).subset hdot
    split at hcut
    · exact h (List.mem_of_mem_drop hcut)
    · exact h hcut

/-- Quiet tokens behind one that carries no address. -/
theorem inetAddressOfTokens_of_first {token : Bytes} {rest : List Bytes}
    (hinet : token ≠ bytes "inet")
    (haddr : ∀ text, token = bytes "addr:" ++ text → ('.' : UInt8) ∉ text)
    (hrest : ∀ t ∈ rest, IsQuiet t) : inetAddressOfTokens (token :: rest) = [] := by
  by_cases hprefix : hasAddrPrefix token = true
  · obtain ⟨text, rfl⟩ := hasAddrPrefix_iff.mp hprefix
    have hdrop : (bytes "addr:" ++ text).drop 5 = text := List.drop_left' (by decide)
    rw [inetAddressOfTokens.eq_def]
    simp only [if_neg hinet, hprefix, if_true, hdrop]
    exact checkedAddress_of_no_dot (haddr text rfl)
  · have hquiet : IsQuiet token := ⟨hinet, by simpa using hprefix⟩
    rw [inetAddressOfTokens_quiet hquiet, inetAddressOfTokens_all_quiet hrest]

namespace AliasBlock

variable (f : Format) (b : AliasBlock)

/-- The first token of the header. -/
def firstToken (b : AliasBlock) : Format → Bytes
  | .netTools => b.label ++ ":"
  | .legacy => b.label

theorem suffix_plain {c : UInt8} (hc : c ∈ b.suffix) : c = ':' ∨ isDigit c = true := by
  unfold suffix at hc
  cases hnumber : b.number with
  | none => simp [hnumber] at hc
  | some n =>
      rw [hnumber] at hc
      obtain hcolon | hdigit := List.mem_append.mp hc
      · rw [bytes_colon] at hcolon
        exact .inl (List.mem_singleton.mp hcolon)
      · exact .inr (isDigit_of_mem_decimal hdigit)

theorem isWord_label : IsWord isSpace b.label := by
  apply isWord_append b.name.isWord
  intro c hc
  obtain rfl | hdigit := b.suffix_plain hc
  · decide
  · exact isSpace_eq_false_of_isDigit hdigit

theorem tokens_header : ∃ rest, tokens (b.header f) = b.firstToken f :: rest ∧
    ∀ token ∈ rest, IsQuiet token := by
  cases f with
  | netTools =>
      refine ⟨_, tokens_netTools b.isWord_label b.flags b.details, ?_⟩
      rintro token (_ | ⟨_, hdetails⟩)
      · exact isQuiet_append (by decide) (by decide) (by decide) _
      · exact b.details.quiet token hdetails
  | legacy =>
      refine ⟨_, tokens_legacy b.isWord_label b.flags b.details b.gap, ?_⟩
      rintro token (_ | ⟨_, _ | ⟨_, hdetails⟩⟩)
      · decide
      · exact isQuiet_append (by decide) (by decide) (by decide) _
      · exact b.details.quiet token hdetails

theorem name_header : ifconfigFormat.name (b.header f) = b.label := by
  obtain ⟨rest, htokens, -⟩ := b.tokens_header f
  have hplain : ('@' : UInt8) ∉ b.label := by
    intro hc
    obtain hname | hsuffix := List.mem_append.mp hc
    · exact b.name.at_notMem hname
    · obtain h | h := b.suffix_plain hsuffix <;> exact absurd h (by decide)
  have hat : b.label.takeWhile (· != ('@' : UInt8)) = b.label :=
    List.takeWhile_eq_self_iff.mpr (bne_of_notMem hplain)
  have hlast : b.label.getLast? ≠ some (':' : UInt8) := by
    intro hcolon
    rw [label, List.getLast?_append, suffix] at hcolon
    cases hnumber : b.number with
    | none =>
        rw [hnumber, List.getLast?_nil, Option.none_or] at hcolon
        exact b.name.colon_notMem (List.mem_of_getLast? hcolon)
    | some n =>
        obtain ⟨d, hd⟩ := Option.isSome_iff_exists.mp
          (List.getLast?_isSome.mpr (decimal_ne_nil n))
        rw [hnumber, List.getLast?_append, hd, Option.some_or, Option.some_or,
          Option.some_inj] at hcolon
        have hdigit := isDigit_of_mem_decimal (List.mem_of_getLast? hd)
        rw [hcolon] at hdigit
        exact absurd hdigit (by decide)
  show normalizeName ((tokens (b.header f)).headD []) = b.label
  rw [htokens, List.headD_cons]
  cases f with
  | netTools => rw [firstToken, normalizeName_colon, hat]
  | legacy => rw [firstToken, normalizeName, if_neg hlast, hat]

/-- A label with a number that starts like `addr:` shows the number behind it. -/
theorem no_dot_of_numbered {n : ℕ} (hnumber : b.number = some n) {text : Bytes}
    (h : b.firstToken f = bytes "addr:" ++ text) : ('.' : UInt8) ∉ text := by
  have haddr : bytes "addr:" = bytes "addr" ++ [(':' : UInt8)] := by decide
  -- Both sides are cut at their first colon.
  have hcut (w t : Bytes) (hw : (':' : UInt8) ∉ w) :
      (w ++ (':' : UInt8) :: t).dropWhile (· != (':' : UInt8)) = (':' : UInt8) :: t := by
    rw [List.dropWhile_append_of_pos (bne_of_notMem hw), List.dropWhile_cons_of_neg (by simp)]
  have hlabel : b.label = b.name.text ++ (':' : UInt8) :: decimal n := by
    rw [label, suffix, hnumber, bytes_colon]
    rfl
  have hdecimal : ('.' : UInt8) ∉ decimal n :=
    fun hc => absurd (isDigit_of_mem_decimal hc) (by decide)
  have hright := hcut (bytes "addr") text (by decide)
  have hrest : ∃ t, b.firstToken f = b.name.text ++ (':' : UInt8) :: t ∧ ('.' : UInt8) ∉ t := by
    cases f with
    | netTools =>
        refine ⟨decimal n ++ [(':' : UInt8)], ?_, ?_⟩
        · rw [firstToken, hlabel, bytes_colon, List.append_assoc]
          rfl
        · rw [List.mem_append, not_or]
          exact ⟨hdecimal, by decide⟩
    | legacy => exact ⟨decimal n, hlabel, hdecimal⟩
  obtain ⟨t, ht, hdot⟩ := hrest
  have hleft := hcut b.name.text t b.name.colon_notMem
  rw [← ht, h, haddr, List.append_assoc, List.singleton_append, hright] at hleft
  rw [(List.cons.inj hleft).2]
  exact hdot

theorem address_header : ifconfigFormat.address (b.header f) = [] := by
  show extractInetAddress (b.header f) = []
  cases hnumber : b.number with
  | none =>
      have hsame : b.header f = b.toIfconfigBlock.header f := by
        cases f <;> simp only [header, label, suffix, hnumber, List.append_nil,
          IfconfigBlock.header]
      rw [hsame, extractInetAddress_header]
  | some n =>
      obtain ⟨rest, htokens, hrest⟩ := b.tokens_header f
      have hcolon : (':' : UInt8) ∈ b.firstToken f := by
        have hlabel : (':' : UInt8) ∈ b.label := by
          rw [label, suffix, hnumber]
          exact List.mem_append_right _ (List.mem_append_left _ (by decide))
        cases f with
        | netTools => exact List.mem_append_left _ hlabel
        | legacy => exact hlabel
      have hinet : b.firstToken f ≠ bytes "inet" := by
        intro h
        rw [h] at hcolon
        exact absurd hcolon (by decide)
      rw [extractInetAddress_eq, htokens]
      exact inetAddressOfTokens_of_first hinet (fun text => b.no_dot_of_numbered f hnumber) hrest

theorem opens_header : ifconfigFormat.opens (b.header f) = true := by
  have hword := b.isWord_label
  obtain ⟨c, cs, hlabel⟩ := List.exists_cons_of_ne_nil hword.nonempty
  have hc : isSpace c = false := hword.plain c (by simp [hlabel])
  cases f <;> simp [ifconfigFormat, header, hlabel, hc]

theorem opens_inside : ∀ line ∈ b.inside f, ifconfigFormat.opens line = false := by
  intro line hline
  obtain hdetail | hblank := List.mem_append.mp hline
  · obtain ⟨l, -, rfl⟩ := List.mem_map.mp hdetail
    obtain ⟨front, rest, htext, hfront⟩ := head?_isSpace_detail f l
    simp [ifconfigFormat, htext, hfront]
  · rw [(List.mem_replicate.mp hblank).2]
    rfl

/-- The addresses that the lines of a block show. -/
theorem shown_iff (text : Bytes) (hne : text ≠ []) :
    (∃ line ∈ b.header f :: b.inside f, ifconfigFormat.address line = text) ↔
      ∃ a ∈ b.addresses, text = inetNtop a := by
  constructor
  · rintro ⟨line, hline, rfl⟩
    obtain rfl | hinside := List.mem_cons.mp hline
    · exact absurd (b.address_header f) hne
    obtain hdetail | hblank := List.mem_append.mp hinside
    · obtain ⟨l, hl, rfl⟩ := List.mem_map.mp hdetail
      have haddress : ifconfigFormat.address (l.text f) = (l.address?.map inetNtop).getD [] :=
        extractInetAddress_detail f l
      rw [haddress] at hne ⊢
      cases ha : l.address? with
      | none =>
          rw [ha] at hne
          exact absurd rfl hne
      | some a => exact ⟨a, List.mem_filterMap.mpr ⟨l, hl, ha⟩, rfl⟩
    · rw [(List.mem_replicate.mp hblank).2] at hne
      exact absurd (by decide) hne
  · rintro ⟨a, ha, rfl⟩
    obtain ⟨l, hl, hla⟩ := List.mem_filterMap.mp ha
    refine ⟨l.text f, List.mem_cons_of_mem _ (List.mem_append_left _ (List.mem_map_of_mem hl)), ?_⟩
    show extractInetAddress (l.text f) = inetNtop a
    rw [extractInetAddress_detail, hla]
    rfl

theorem newline_notMem : ∀ line ∈ b.header f :: b.inside f, ('\n' : UInt8) ∉ line := by
  intro line hline
  obtain rfl | hinside := List.mem_cons.mp hline
  · have hlabel := Parser.newline_notMem b.isWord_label.plain
    have hflags := Parser.newline_notMem b.flags.plain
    cases f <;> simp only [header, List.mem_append, not_or]
    · exact ⟨⟨⟨⟨hlabel, by decide⟩, by decide⟩, by decide, hflags⟩, b.details.oneLine⟩
    · exact ⟨⟨⟨⟨⟨hlabel, b.gap.newline_notMem⟩, by decide⟩, by decide⟩, by decide, hflags⟩,
        b.details.oneLine⟩
  · exact newline_notMem_ifconfigBlock f b.toIfconfigBlock line (List.mem_cons_of_mem _ hinside)

end AliasBlock

/-! ### The whole capture -/

namespace LineFormat

/-- A text that is given block by block, each block with its opening line. -/
theorem foldl_blocks {B : Type} (f : LineFormat) (header : B → Bytes) (inside : B → List Bytes)
    (hheader : ∀ b, f.opens (header b) = true)
    (hinside : ∀ b, ∀ line ∈ inside b, f.opens line = false) (blocks : List B) (s : ParseState) :
    ((blocks.flatMap fun b => header b :: inside b).foldl f.line s).interfaces =
      appendAll s.interfaces (blocks.flatMap fun b =>
        (header b :: inside b).map fun line => ⟨f.name (header b), f.address line⟩) := by
  induction blocks generalizing s with
  | nil => rfl
  | cons b blocks ih =>
      rw [List.flatMap_cons, List.foldl_append, foldl_block f (hheader b) (hinside b), ih,
        ← appendAll_append, List.flatMap_cons]

end LineFormat

theorem mem_appendAll_iff (reports : List RemoteInterface) (r : RemoteInterface) :
    r ∈ appendAll [] reports ↔ r ∈ reports ∧ IsReported r := by
  rw [appendAll_eq_eraseDups, List.mem_eraseDups, List.mem_filter, decide_eq_true_iff]

/-- The entries of a capture: the addresses of its blocks under their labels, but
for the blocks that are called `lo` or `lo0`. -/
theorem mem_parse_renderAliases_iff (f : Format) (blocks : List AliasBlock)
    (r : RemoteInterface) : r ∈ parseIfconfigOutput (renderAliases f blocks) ↔
      isLoopbackInterfaceName r.name = false ∧
        ∃ b ∈ blocks, ∃ a ∈ b.addresses, r = ⟨b.label, inetNtop a⟩ := by
  have hlines : splitLines ('\n' : UInt8) (renderAliases f blocks) =
      blocks.flatMap fun b => b.header f :: b.inside f :=
    splitLines_unlines_flatMap (fun b => b.newline_notMem f) blocks
  rw [parseIfconfigOutput_eq, LineFormat.parse, hlines, LineFormat.foldl_blocks ifconfigFormat _ _
    (AliasBlock.opens_header f) (AliasBlock.opens_inside f), mem_appendAll_iff]
  simp only [List.mem_flatMap, List.mem_map, AliasBlock.name_header]
  constructor
  · rintro ⟨⟨b, hb, line, hline, rfl⟩, -, hshown, hloop⟩
    obtain ⟨a, ha, htext⟩ := (b.shown_iff f _ hshown).mp ⟨line, hline, rfl⟩
    exact ⟨hloop, b, hb, a, ha, congrArg (RemoteInterface.mk b.label) htext⟩
  · rintro ⟨hloop, b, hb, a, ha, rfl⟩
    obtain ⟨line, hline, htext⟩ := (b.shown_iff f _ (inetNtop_ne_nil a)).mpr ⟨a, ha, rfl⟩
    exact ⟨⟨b, hb, line, hline, by rw [htext]⟩, b.isWord_label.nonempty, inetNtop_ne_nil a, hloop⟩

/-- No address of a loopback block is reported. -/
def LoopbackIgnored (f : Format) (blocks : List AliasBlock) : Prop :=
  ∀ b ∈ blocks, b.IsLoopback f → ∀ a ∈ b.addresses,
    (⟨b.label, inetNtop a⟩ : RemoteInterface) ∉ parseIfconfigOutput (renderAliases f blocks)

/-- That is so exactly when every loopback block with an address is called `lo` or
`lo0`. -/
theorem loopbackIgnored_iff (f : Format) (blocks : List AliasBlock) :
    LoopbackIgnored f blocks ↔ ∀ b ∈ blocks, b.IsLoopback f → b.addresses ≠ [] →
      b.label = bytes "lo" ∨ b.label = bytes "lo0" := by
  have hname (label : Bytes) : isLoopbackInterfaceName label = true ↔
      label = bytes "lo" ∨ label = bytes "lo0" := by
    simp [isLoopbackInterfaceName]
  simp only [LoopbackIgnored, mem_parse_renderAliases_iff, ← hname]
  constructor
  · intro h b hb hloop hsome
    obtain ⟨a, rest, haddresses⟩ := List.exists_cons_of_ne_nil hsome
    have ha : a ∈ b.addresses := by simp [haddresses]
    by_contra hlabel
    exact h b hb hloop a ha ⟨by simpa using hlabel, b, hb, a, ha, rfl⟩
  · rintro h b hb hloop a ha ⟨hlabel, -⟩
    have hyes := h b hb hloop (List.ne_nil_of_mem ha)
    rw [hlabel] at hyes
    cases hyes

/-- `lo:0: flags=73<UP,LOOPBACK,RUNNING>` with `inet 127.0.0.2` below it, and the
same in the legacy format. -/
def loopbackAlias (flags : Value) (details : QuietTail) : AliasBlock where
  name := lo
  gap := ⟨"      ", by decide, forall_mem_of_all (by decide)⟩
  flags := flags
  details := details
  lines := [.inet indent (ofOctets 127 0 0 2) noTail.toTail]
  blankLines := 1
  number := some 0

def netToolsAlias : AliasBlock :=
  loopbackAlias ⟨"73<UP,LOOPBACK,RUNNING>", forall_mem_of_all (by decide)⟩
    ⟨⟨"  mtu 65536", by decide, by decide⟩, by decide⟩

def legacyAlias : AliasBlock :=
  loopbackAlias ⟨"Local", forall_mem_of_all (by decide)⟩
    ⟨⟨" Loopback  ", by decide, by decide⟩, by decide⟩

theorem not_loopbackIgnored_alias :
    ¬LoopbackIgnored .netTools [netToolsAlias] ∧ ¬LoopbackIgnored .legacy [legacyAlias] := by
  have hentry (f : Format) (b : AliasBlock) (hlabel : isLoopbackInterfaceName b.label = false)
      (haddress : ofOctets 127 0 0 2 ∈ b.addresses) :
      (⟨b.label, inetNtop (ofOctets 127 0 0 2)⟩ : RemoteInterface) ∈
        parseIfconfigOutput (renderAliases f [b]) :=
    (mem_parse_renderAliases_iff f [b] _).mpr ⟨hlabel, b, by simp, _, haddress, rfl⟩
  constructor
  · intro h
    exact h netToolsAlias (by simp) (by decide) (ofOctets 127 0 0 2) (by decide)
      (hentry .netTools netToolsAlias (by decide) (by decide))
  · intro h
    exact h legacyAlias (by simp) (by decide) (ofOctets 127 0 0 2) (by decide)
      (hentry .legacy legacyAlias (by decide) (by decide))

end DeviceDiscovery.Parser
