import DeviceDiscovery.Parser.Capture

/-!
The three formats agree.

Every line of a capture is one of three things to a parser: a header, which sets
the current name and reports nothing; a line that reports one address under the
current name; or a line that changes nothing. The first two sections read this
off the tokens of each kind of line, the third turns it into one line step, and
the last folds the steps over the blocks of a capture.
-/

namespace DeviceDiscovery.Parser

open Foundation DeviceDiscovery.Platform

/-! ### Tokens of a line -/

theorem tokens_trim (s : Bytes) : tokens (trim s) = tokens s := by
  refine words_trim (fun c hc => ?_) s
  simp only [isBlank, Bool.or_eq_true, beq_iff_eq] at hc
  rcases hc with ((rfl | rfl) | rfl) | rfl <;> decide

theorem extractInetAddress_eq (line : Bytes) :
    extractInetAddress line = inetAddressOfTokens (tokens line) := by
  rw [extractInetAddress, tokens_trim]

theorem extractInetAddress_trim (line : Bytes) :
    extractInetAddress (trim line) = inetAddressOfTokens (tokens line) := by
  rw [extractInetAddress_eq, tokens_trim]

theorem tokens_word {w t : Bytes} (hw : IsWord isSpace w) (ht : t.head?.all isSpace = true) :
    tokens (w ++ t) = w :: tokens t := words_word_append hw ht

theorem tokens_space (t : Bytes) : tokens (bytes " " ++ t) = tokens t :=
  words_gap_append (by decide) t

theorem head?_space (t : Bytes) : (bytes " " ++ t).head?.all isSpace = true := by
  have hspace : bytes " " = [32] := by decide
  rw [hspace]
  rfl

theorem Indent.isBlank (i : Indent) : ∀ c ∈ i.text, Parser.isBlank c = true := by
  intro c hc
  rcases i.blank c hc with rfl | rfl <;> decide

theorem Indent.isGap (i : Indent) : IsGap isSpace i.text := by
  intro c hc
  rcases i.blank c hc with rfl | rfl <;> decide

theorem Indent.head?_append (i : Indent) (t : Bytes) :
    (i.text ++ t).head?.all isSpace = true := by
  cases hi : i.text with
  | nil => exact absurd hi i.nonempty
  | cons c cs => simpa using i.isGap c (by simp [hi])

theorem tokens_indent (i : Indent) (t : Bytes) : tokens (i.text ++ t) = tokens t :=
  words_gap_append i.isGap t

theorem InterfaceName.isWord (name : InterfaceName) : IsWord isSpace name.text :=
  ⟨name.nonempty, fun c hc => (name.plain c hc).1⟩

theorem InterfaceName.colon_notMem (name : InterfaceName) : (':' : UInt8) ∉ name.text :=
  fun h => (name.plain _ h).2.1 rfl

theorem InterfaceName.at_notMem (name : InterfaceName) : ('@' : UInt8) ∉ name.text :=
  fun h => (name.plain _ h).2.2.1 rfl

theorem isWord_append {v w : Bytes} (hv : IsWord isSpace v) (hw : ∀ c ∈ w, isSpace c = false) :
    IsWord isSpace (v ++ w) := by
  refine ⟨by simp [hv.nonempty], fun c hc => ?_⟩
  rcases List.mem_append.mp hc with hc | hc
  · exact hv.plain c hc
  · exact hw c hc

theorem isSpace_of_mem_inetNtop {a : Address} {c : UInt8} (hc : c ∈ inetNtop a) :
    isSpace c = false := by
  rcases isDigit_or_eq_dot_of_mem_inetNtop hc with h | rfl
  · exact isSpace_eq_false_of_isDigit h
  · decide

theorem isWord_inetNtop (a : Address) : IsWord isSpace (inetNtop a) :=
  ⟨inetNtop_ne_nil a, fun _ hc => isSpace_of_mem_inetNtop hc⟩

theorem isSpace_of_mem_decimal {n : ℕ} {c : UInt8} (hc : c ∈ decimal n) : isSpace c = false :=
  isSpace_eq_false_of_isDigit (isDigit_of_mem_decimal hc)

/-! ### What the tokens of a line report -/

theorem hasAddrPrefix_iff {text : Bytes} :
    hasAddrPrefix text = true ↔ ∃ rest, text = bytes "addr:" ++ rest := by
  rw [hasAddrPrefix, List.isPrefixOf_iff_prefix]
  constructor
  · rintro ⟨rest, h⟩
    exact ⟨rest, h.symm⟩
  · rintro ⟨rest, h⟩
    exact ⟨rest, h.symm⟩

theorem hasAddrPrefix_of_no_colon {text : Bytes} (h : (':' : UInt8) ∉ text) :
    hasAddrPrefix text = false := by
  rw [Bool.eq_false_iff]
  intro hp
  obtain ⟨rest, rfl⟩ := hasAddrPrefix_iff.mp hp
  exact h (List.mem_append_left _ (by decide))

theorem hasAddrPrefix_inetNtop_append (a : Address) (t : Bytes) :
    hasAddrPrefix (inetNtop a ++ t) = false := by
  rw [Bool.eq_false_iff]
  intro hp
  obtain ⟨rest, h⟩ := hasAddrPrefix_iff.mp hp
  have haddr : bytes "addr:" = [97, 100, 100, 114, 58] := by decide
  cases hq : inetNtop a with
  | nil => exact inetNtop_ne_nil a hq
  | cons c cs =>
      rw [hq, haddr] at h
      obtain rfl : c = 97 := (List.cons.inj h).1
      rcases isDigit_or_eq_dot_of_mem_inetNtop (x := a) (c := 97) (by simp [hq]) with h | h <;>
        exact absurd h (by decide)

theorem takeWhile_slash_inetNtop (a : Address) (t : Bytes)
    (ht : t.head?.all (· == ('/' : UInt8)) = true) :
    (inetNtop a ++ t).takeWhile (· != ('/' : UInt8)) = inetNtop a := by
  have hslash : ('/' : UInt8) ∉ inetNtop a := by
    intro hc
    rcases isDigit_or_eq_dot_of_mem_inetNtop hc with h | h <;> exact absurd h (by decide)
  rw [List.takeWhile_append_of_pos (bne_of_notMem hslash)]
  cases t with
  | nil => simp
  | cons c t =>
      have hc : c = ('/' : UInt8) := by simpa using ht
      rw [List.takeWhile_cons_of_neg (by simp [hc]), List.append_nil]

/-- A candidate that is a dotted quad, possibly followed by a prefix length, is
taken as that address. -/
theorem checkedAddress_inetNtop (a : Address) (t : Bytes)
    (ht : t.head?.all (· == ('/' : UInt8)) = true) :
    checkedAddress (inetNtop a ++ t) = inetNtop a := by
  simp only [checkedAddress, hasAddrPrefix_inetNtop_append, Bool.false_eq_true, if_false,
    takeWhile_slash_inetNtop a t ht]
  rw [if_pos]
  simp [isValidIpv4]

/-- The spelling of the legacy format, `addr:A`. -/
theorem checkedAddress_addr_inetNtop (a : Address) :
    checkedAddress (bytes "addr:" ++ inetNtop a) = inetNtop a := by
  have hpre : hasAddrPrefix (bytes "addr:" ++ inetNtop a) = true :=
    hasAddrPrefix_iff.mpr ⟨_, rfl⟩
  have hdrop : (bytes "addr:" ++ inetNtop a).drop 5 = inetNtop a := List.drop_left' (by decide)
  have hcut : (inetNtop a).takeWhile (· != ('/' : UInt8)) = inetNtop a := by
    simpa using takeWhile_slash_inetNtop a [] (by simp)
  simp only [checkedAddress, hpre, if_true, hdrop, hcut]
  rw [if_pos]
  simp [isValidIpv4]

theorem checkedAddress_nil : checkedAddress [] = [] := by decide

theorem inetAddressOfTokens_quiet {token : Bytes} (h : IsQuiet token) (rest : List Bytes) :
    inetAddressOfTokens (token :: rest) = inetAddressOfTokens rest := by
  rw [inetAddressOfTokens.eq_def]
  simp only [if_neg h.1, h.2, Bool.false_eq_true, if_false]

theorem inetAddressOfTokens_all_quiet {ts : List Bytes} (h : ∀ token ∈ ts, IsQuiet token) :
    inetAddressOfTokens ts = [] := by
  induction ts with
  | nil => rfl
  | cons token ts ih =>
      rw [inetAddressOfTokens_quiet (h token (by simp)), ih fun t ht => h t (by simp [ht])]

theorem inetAddressOfTokens_inet (candidate : Bytes) (rest : List Bytes) :
    inetAddressOfTokens (bytes "inet" :: candidate :: rest) = checkedAddress candidate := by
  rw [inetAddressOfTokens.eq_def]
  simp only [if_true]

/-- `inet6 addr: …` of the legacy format: the deciding token carries nothing. -/
theorem inetAddressOfTokens_addr (rest : List Bytes) :
    inetAddressOfTokens (bytes "addr:" :: rest) = [] := by
  have hinet : bytes "addr:" ≠ bytes "inet" := by decide
  have hpre : hasAddrPrefix (bytes "addr:") = true := by decide
  have hdrop : (bytes "addr:").drop 5 = [] := by decide
  rw [inetAddressOfTokens.eq_def]
  simp only [if_neg hinet, hpre, if_true, hdrop, checkedAddress_nil]

/-- Two symbols are enough to see that a token decides nothing. -/
theorem isQuiet_append {p : Bytes} (hlen : 2 ≤ p.length) (hinet : p.take 2 ≠ bytes "in")
    (haddr : p.take 2 ≠ bytes "ad") (v : Bytes) : IsQuiet (p ++ v) := by
  have htake : (p ++ v).take 2 = p.take 2 := List.take_append_of_le_length hlen
  constructor
  · intro h
    rw [h] at htake
    exact hinet (htake.symm.trans (by decide))
  · rw [Bool.eq_false_iff]
    intro hp
    obtain ⟨rest, h⟩ := hasAddrPrefix_iff.mp hp
    rw [h, List.take_append_of_le_length (by decide)] at htake
    exact haddr (htake.symm.trans (by decide))

/-! ### The lines of an `ifconfig` capture -/

theorem bytes_colon : bytes ":" = [(':' : UInt8)] := by decide

/-- A colon behind a name is dropped. -/
theorem normalizeName_colon (name : Bytes) :
    normalizeName (name ++ bytes ":") = name.takeWhile (· != ('@' : UInt8)) := by
  rw [bytes_colon, normalizeName]
  simp only [List.getLast?_concat, if_true, List.dropLast_concat]

section HeaderTokens

variable {label : Bytes} (hlabel : IsWord isSpace label) (flags : Value) (details : QuietTail)

include hlabel

theorem tokens_netTools :
    tokens (label ++ ":" ++ " " ++ ("flags=" ++ flags.text) ++ details.text) =
      (label ++ ":") :: ("flags=" ++ flags.text) :: tokens details.text := by
  have hname : IsWord isSpace (label ++ bytes ":") :=
    isWord_append hlabel (forall_mem_of_all (by decide))
  have hflags : IsWord isSpace (bytes "flags=" ++ flags.text) :=
    isWord_append (by decide) flags.plain
  simp only [List.append_assoc]
  rw [← List.append_assoc label, tokens_word hname (head?_space _), tokens_space,
    ← List.append_assoc (bytes "flags="), tokens_word hflags details.cut]

theorem tokens_legacy (gap : Indent) :
    tokens (label ++ gap.text ++ "Link" ++ " " ++ ("encap:" ++ flags.text) ++ details.text) =
      label :: bytes "Link" :: ("encap:" ++ flags.text) :: tokens details.text := by
  have hencap : IsWord isSpace (bytes "encap:" ++ flags.text) :=
    isWord_append (by decide) flags.plain
  simp only [List.append_assoc]
  rw [tokens_word hlabel (gap.head?_append _), tokens_indent,
    tokens_word (w := bytes "Link") (by decide) (head?_space _), tokens_space,
    ← List.append_assoc (bytes "encap:"), tokens_word hencap details.cut]

end HeaderTokens

theorem tokens_header_netTools (b : IfconfigBlock) :
    tokens (b.header .netTools) = (b.name.text ++ ":") :: ("flags=" ++ b.flags.text) ::
      tokens b.details.text := tokens_netTools b.name.isWord b.flags b.details

theorem tokens_header_legacy (b : IfconfigBlock) :
    tokens (b.header .legacy) = b.name.text :: bytes "Link" :: ("encap:" ++ b.flags.text) ::
      tokens b.details.text := tokens_legacy b.name.isWord b.flags b.details b.gap

/-- The header's first token names the block in both formats. -/
theorem normalizeName_header (f : Format) (b : IfconfigBlock) :
    normalizeName ((tokens (b.header f)).headD []) = b.name.text := by
  have hat : b.name.text.takeWhile (· != ('@' : UInt8)) = b.name.text :=
    List.takeWhile_eq_self_iff.mpr (bne_of_notMem b.name.at_notMem)
  cases f with
  | netTools => rw [tokens_header_netTools, List.headD_cons, normalizeName_colon, hat]
  | legacy =>
      have hlast : b.name.text.getLast? ≠ some (':' : UInt8) := by
        intro h
        exact b.name.colon_notMem (List.mem_of_getLast? h)
      rw [tokens_header_legacy, List.headD_cons, normalizeName, if_neg hlast, hat]

/-- A header reports nothing, whatever the interface is called: a block named
`addr` or `inet` starts its header with a deciding token, but no address
follows it. -/
theorem extractInetAddress_header (f : Format) (b : IfconfigBlock) :
    extractInetAddress (b.header f) = [] := by
  have hcolon := b.name.colon_notMem
  have hdetails := inetAddressOfTokens_all_quiet b.details.quiet
  rw [extractInetAddress_eq]
  cases f with
  | netTools =>
      have hflags := isQuiet_append (p := bytes "flags=") (by decide) (by decide) (by decide)
        b.flags.text
      rw [tokens_header_netTools]
      by_cases haddr : hasAddrPrefix (b.name.text ++ bytes ":") = true
      · obtain ⟨rest, hrest⟩ := hasAddrPrefix_iff.mp haddr
        rcases List.eq_nil_or_concat rest with rfl | ⟨init, c, rfl⟩
        · rw [hrest, List.append_nil, inetAddressOfTokens_addr]
        · rw [bytes_colon, List.concat_eq_append, ← List.append_assoc] at hrest
          have hname := (List.append_inj' hrest rfl).1
          exact absurd (hname ▸ List.mem_append_left init (by decide)) hcolon
      · have hquiet : IsQuiet (b.name.text ++ bytes ":") := by
          refine ⟨fun h => ?_, by simpa using haddr⟩
          have hmem : (':' : UInt8) ∈ bytes "inet" := by
            rw [← h]
            exact List.mem_append_right _ (by decide)
          exact absurd hmem (by decide)
        rw [inetAddressOfTokens_quiet hquiet, inetAddressOfTokens_quiet hflags, hdetails]
  | legacy =>
      have hencap := isQuiet_append (p := bytes "encap:") (by decide) (by decide) (by decide)
        b.flags.text
      rw [tokens_header_legacy]
      by_cases hinet : b.name.text = bytes "inet"
      · rw [hinet, inetAddressOfTokens_inet]
        decide
      · have hquiet : IsQuiet b.name.text := ⟨hinet, hasAddrPrefix_of_no_colon hcolon⟩
        rw [inetAddressOfTokens_quiet hquiet,
          inetAddressOfTokens_quiet (show IsQuiet (bytes "Link") by decide),
          inetAddressOfTokens_quiet hencap, hdetails]

theorem head?_isSpace_header (f : Format) (b : IfconfigBlock) :
    ∃ front rest, b.header f = front :: rest ∧ isSpace front = false := by
  cases hname : b.name.text with
  | nil => exact absurd hname b.name.nonempty
  | cons c cs =>
      have hc : isSpace c = false := (b.name.plain c (by simp [hname])).1
      cases f <;>
        exact ⟨c, _, by simp only [IfconfigBlock.header, hname, List.cons_append]; rfl, hc⟩

theorem extractInetAddress_detail (f : Format) (l : DetailLine) :
    extractInetAddress (l.text f) = (l.address?.map inetNtop).getD [] := by
  rw [extractInetAddress_eq]
  cases l with
  | inet indent a tail =>
      have hinet (t : Bytes) : tokens (indent.text ++ (bytes "inet" ++ (bytes " " ++ t))) =
          bytes "inet" :: tokens t := by
        rw [tokens_indent, tokens_word (by decide) (head?_space t), tokens_space]
      cases f with
      | netTools =>
          have hchecked : checkedAddress (inetNtop a) = inetNtop a := by
            simpa using checkedAddress_inetNtop a [] (by simp)
          simp only [DetailLine.text, List.append_assoc]
          rw [hinet, tokens_word (isWord_inetNtop a) tail.cut, inetAddressOfTokens_inet, hchecked]
          rfl
      | legacy =>
          have hword : IsWord isSpace (bytes "addr:" ++ inetNtop a) :=
            isWord_append (by decide) fun _ hc => isSpace_of_mem_inetNtop hc
          simp only [DetailLine.text, List.append_assoc]
          rw [hinet, ← List.append_assoc (bytes "addr:"), tokens_word hword tail.cut,
            inetAddressOfTokens_inet, checkedAddress_addr_inetNtop]
          rfl
  | other indent keyword tail =>
      have hquiet : IsQuiet keyword.text := by cases keyword <;> decide
      have hword : IsWord isSpace keyword.text := by cases keyword <;> decide
      have hplain : inetAddressOfTokens (tokens (indent.text ++ (keyword.text ++ tail.text))) =
          [] := by
        rw [tokens_indent, tokens_word hword tail.cut, inetAddressOfTokens_quiet hquiet,
          inetAddressOfTokens_all_quiet tail.quiet]
      cases f with
      | netTools =>
          simpa only [DetailLine.text, DetailLine.address?, Option.map_none, Option.getD_none,
            List.append_assoc] using hplain
      | legacy =>
          cases keyword with
          | inet6 =>
              simp only [DetailLine.text, List.append_assoc]
              rw [tokens_indent, tokens_word (w := bytes "inet6") (by decide) (head?_space _),
                tokens_space, tokens_word (w := bytes "addr:") (by decide) tail.cut,
                inetAddressOfTokens_quiet (show IsQuiet (bytes "inet6") by decide),
                inetAddressOfTokens_addr]
              rfl
          | ether | rx | tx | up =>
              simpa only [DetailLine.text, DetailLine.address?, Option.map_none,
                Option.getD_none, List.append_assoc] using hplain

theorem ifconfigLine_header (f : Format) (b : IfconfigBlock) (s : ParseState) :
    ifconfigLine s (b.header f) = ⟨b.name.text, s.interfaces⟩ := by
  obtain ⟨front, rest, hheader, hfront⟩ := head?_isSpace_header f b
  have hname := normalizeName_header f b
  have haddress := extractInetAddress_header f b
  rw [hheader] at hname haddress ⊢
  simp only [ifconfigLine, hfront, Bool.not_false, if_true, hname, if_neg b.name.nonempty,
    haddress, ne_eq, not_true_eq_false, if_false]

theorem head?_isSpace_detail (f : Format) (l : DetailLine) :
    ∃ front rest, l.text f = front :: rest ∧ isSpace front = true := by
  have hindent (indent : Indent) (t : Bytes) :
      ∃ front rest, indent.text ++ t = front :: rest ∧ isSpace front = true := by
    cases hi : indent.text with
    | nil => exact absurd hi indent.nonempty
    | cons c cs => exact ⟨c, _, rfl, indent.isGap c (by simp [hi])⟩
  cases l with
  | inet indent a tail =>
      cases f <;> simpa only [DetailLine.text, List.append_assoc] using hindent indent _
  | other indent keyword tail =>
      cases f <;> cases keyword <;>
        simpa only [DetailLine.text, List.append_assoc] using hindent indent _

/-- What a line adds under a name: one report if it names an address. -/
def reportOf (name : InterfaceName) (address? : Option Address) : List RemoteInterface :=
  (address?.map fun a => (⟨name.text, inetNtop a⟩ : RemoteInterface)).toList

theorem ifconfigLine_detail (f : Format) (name : InterfaceName) (l : DetailLine)
    (interfaces : List RemoteInterface) :
    ifconfigLine ⟨name.text, interfaces⟩ (l.text f) =
      ⟨name.text, appendAll interfaces (reportOf name l.address?)⟩ := by
  obtain ⟨front, rest, hline, hfront⟩ := head?_isSpace_detail f l
  have haddress := extractInetAddress_detail f l
  rw [hline] at haddress ⊢
  simp only [ifconfigLine, hfront, Bool.not_true, Bool.false_eq_true, if_false,
    if_neg name.nonempty, haddress]
  cases l.address? with
  | none => simp [reportOf]
  | some a => simp [reportOf, appendAll, inetNtop_ne_nil]

/-! ### The lines of an `ip -4 addr` capture -/

theorem tokens_header_ipAddr (b : IpAddrBlock) :
    ∃ rest, tokens b.header =
      (decimal b.index ++ ":") :: (b.name.text ++ b.peerText ++ ":") :: rest := by
  have hindex : IsWord isSpace (decimal b.index ++ bytes ":") :=
    isWord_append ⟨decimal_ne_nil _, fun _ hc => isSpace_of_mem_decimal hc⟩
      (forall_mem_of_all (by decide))
  have hat : ∀ c ∈ bytes "@if", isSpace c = false := forall_mem_of_all (by decide)
  have hpeer : ∀ c ∈ b.peerText, isSpace c = false := by
    intro c hc
    rw [IpAddrBlock.peerText] at hc
    cases hp : b.peer with
    | none => simp [hp] at hc
    | some k =>
        rw [hp] at hc
        rcases List.mem_append.mp hc with hc | hc
        · exact hat c hc
        · exact isSpace_of_mem_decimal hc
  have hname : IsWord isSpace (b.name.text ++ b.peerText ++ bytes ":") :=
    isWord_append (isWord_append b.name.isWord hpeer) (forall_mem_of_all (by decide))
  have hcut : (bytes " <" ++ b.flags).head?.all isSpace = true := by
    have hspace : bytes " <" = [32, 60] := by decide
    rw [hspace]
    rfl
  refine ⟨tokens (bytes " <" ++ b.flags), ?_⟩
  have hheader : b.header = (decimal b.index ++ bytes ":") ++ (bytes " " ++
      ((b.name.text ++ b.peerText ++ bytes ":") ++ (bytes " <" ++ b.flags))) := by
    simp only [IpAddrBlock.header, List.append_assoc]
  rw [hheader, tokens_word hindex (head?_space _), tokens_space, tokens_word hname hcut]

theorem normalizeName_peer (b : IpAddrBlock) :
    normalizeName (b.name.text ++ b.peerText ++ bytes ":") = b.name.text := by
  have hplain := bne_of_notMem b.name.at_notMem
  rw [normalizeName_colon, List.takeWhile_append_of_pos hplain, IpAddrBlock.peerText]
  cases b.peer with
  | none => simp
  | some k =>
      have hat : bytes "@if" = [('@' : UInt8), 105, 102] := by decide
      simp only [hat, List.cons_append]
      rw [List.takeWhile_cons_of_neg (by simp), List.append_nil]

/-- Trimming keeps a first byte that is not blank. -/
theorem trim_cons {c : UInt8} (hc : isBlank c = false) (rest : Bytes) :
    ∃ rest', trim (c :: rest) = c :: rest' := by
  rw [trim, List.dropWhile_cons_of_neg (by simp [hc])]
  have hpre := List.rdropWhile_prefix isBlank (c :: rest)
  cases htrim : (c :: rest).rdropWhile isBlank with
  | nil =>
      have := List.rdropWhile_eq_nil_iff.mp htrim c (by simp)
      simp [hc] at this
  | cons d rest' =>
      rw [htrim, List.cons_prefix_cons] at hpre
      exact ⟨rest', by rw [hpre.1]⟩

theorem trim_indent (i : Indent) (t : Bytes) : trim (i.text ++ t) = trim t := by
  rw [trim, trim, List.dropWhile_append_of_pos i.isBlank]

theorem ipAddrLine_header (b : IpAddrBlock) (s : ParseState) :
    ipAddrLine s b.header = ⟨b.name.text, s.interfaces⟩ := by
  obtain ⟨rest, htokens⟩ := tokens_header_ipAddr b
  have hfirst : ∃ front digits, decimal b.index = front :: digits ∧ isDigit front = true := by
    cases hd : decimal b.index with
    | nil => exact absurd hd (decimal_ne_nil _)
    | cons c cs => exact ⟨c, cs, rfl, isDigit_of_mem_decimal (n := b.index) (by simp [hd])⟩
  obtain ⟨front, digits, hdecimal, hfront⟩ := hfirst
  have hblank : isBlank front = false := by
    have hspace := isSpace_eq_false_of_isDigit hfront
    rw [Bool.eq_false_iff]
    intro h
    simp only [isBlank, Bool.or_eq_true, beq_iff_eq] at h
    rcases h with ((rfl | rfl) | rfl) | rfl <;> exact absurd hspace (by decide)
  have hheader : ∃ more, b.header = front :: more := by
    refine ⟨_, by simp only [IpAddrBlock.header, hdecimal, List.cons_append]; rfl⟩
  obtain ⟨more, hmore⟩ := hheader
  obtain ⟨rest', htrim⟩ := trim_cons hblank more
  rw [← hmore] at htrim
  have hcolon : (':' : UInt8) ∈ trim b.header := by
    have hmem : decimal b.index ++ bytes ":" ∈ tokens (trim b.header) := by
      rw [tokens_trim, htokens]
      simp
    exact (isWord_of_mem_words hmem).2 _ (List.mem_append_right _ (by decide))
  have hname : normalizeName ((tokens (trim b.header))[1]?.getD []) = b.name.text := by
    rw [tokens_trim, htokens]
    exact normalizeName_peer b
  rw [htrim] at hcolon hname
  simp only [ipAddrLine, htrim, hfront, hcolon, and_self, if_true, hname]

theorem head?_trim_detail (l : IpAddrLine) :
    ∃ front rest, trim l.text = front :: rest ∧ isDigit front = false := by
  cases l with
  | inet indent a p tail =>
      have hinet : bytes "inet" = [('i' : UInt8), 110, 101, 116] := by decide
      simp only [IpAddrLine.text, List.append_assoc, trim_indent, hinet, List.cons_append]
      obtain ⟨rest, h⟩ := trim_cons (c := ('i' : UInt8)) (by decide) _
      exact ⟨_, rest, h, by decide⟩
  | validLft indent tail =>
      have hvalid : bytes "valid_lft" = ('v' : UInt8) :: bytes "alid_lft" := by decide
      simp only [IpAddrLine.text, List.append_assoc, trim_indent, hvalid, List.cons_append]
      obtain ⟨rest, h⟩ := trim_cons (c := ('v' : UInt8)) (by decide) _
      exact ⟨_, rest, h, by decide⟩

theorem inetAddressOfTokens_detail (l : IpAddrLine) :
    inetAddressOfTokens (tokens l.text) = (l.address?.map inetNtop).getD [] := by
  cases l with
  | inet indent a p tail =>
      have hslash : bytes "/" = [('/' : UInt8)] := by decide
      have hpre : ∀ c ∈ bytes "/" ++ decimal p, isSpace c = false := by
        intro c hc
        rcases List.mem_append.mp hc with hc | hc
        · rw [hslash, List.mem_singleton] at hc
          rw [hc]
          decide
        · exact isSpace_of_mem_decimal hc
      have hword : IsWord isSpace (inetNtop a ++ (bytes "/" ++ decimal p)) :=
        isWord_append (isWord_inetNtop a) hpre
      have hcut : (bytes "/" ++ decimal p).head?.all (· == ('/' : UInt8)) = true := by
        rw [hslash]
        rfl
      have htokens : tokens (indent.text ++ (bytes "inet" ++ (bytes " " ++
          ((inetNtop a ++ (bytes "/" ++ decimal p)) ++ tail.text)))) =
          bytes "inet" :: (inetNtop a ++ (bytes "/" ++ decimal p)) :: tokens tail.text := by
        rw [tokens_indent, tokens_word (by decide) (head?_space _), tokens_space,
          tokens_word hword tail.cut]
      simp only [IpAddrLine.text, List.append_assoc] at htokens ⊢
      rw [htokens, inetAddressOfTokens_inet, checkedAddress_inetNtop a _ hcut]
      rfl
  | validLft indent tail =>
      simp only [IpAddrLine.text, List.append_assoc]
      rw [tokens_indent, tokens_word (by decide) tail.cut,
        inetAddressOfTokens_quiet (by decide), inetAddressOfTokens_all_quiet tail.quiet]
      rfl

theorem ipAddrLine_detail (name : InterfaceName) (l : IpAddrLine)
    (interfaces : List RemoteInterface) :
    ipAddrLine ⟨name.text, interfaces⟩ l.text =
      ⟨name.text, appendAll interfaces (reportOf name l.address?)⟩ := by
  obtain ⟨front, rest, htrim, hfront⟩ := head?_trim_detail l
  have haddress : extractInetAddress (trim l.text) = (l.address?.map inetNtop).getD [] := by
    rw [extractInetAddress_trim, inetAddressOfTokens_detail]
  rw [htrim] at haddress
  simp only [ipAddrLine, htrim, hfront, Bool.false_eq_true, false_and, if_false,
    if_neg name.nonempty, haddress]
  cases l.address? with
  | none => simp [reportOf]
  | some a => simp [reportOf, appendAll, inetNtop_ne_nil]

/-! ### Blocks and captures -/

/-- A parser that treats headers, detail lines and empty lines as above returns
the reports of the blocks it reads, in order. -/
theorem foldl_block {L : Type} (step : ParseState → Bytes → ParseState) (text : L → Bytes)
    (address? : L → Option Address) (name : InterfaceName) (header : Bytes)
    (hheader : ∀ s, step s header = ⟨name.text, s.interfaces⟩)
    (hdetail : ∀ l interfaces, step ⟨name.text, interfaces⟩ (text l) =
      ⟨name.text, appendAll interfaces (reportOf name (address? l))⟩)
    (hempty : ∀ s, step s [] = s) (lines : List L) (blankLines : ℕ) (s : ParseState) :
    (header :: lines.map text ++ List.replicate blankLines []).foldl step s =
      ⟨name.text, appendAll s.interfaces
        (Interface.reports ⟨name, lines.filterMap address?⟩)⟩ := by
  have hblank (t : ParseState) : (List.replicate blankLines []).foldl step t = t := by
    induction blankLines with
    | zero => rfl
    | succ n ih => rw [List.replicate_succ, List.foldl_cons, hempty, ih]
  have hlines (interfaces : List RemoteInterface) :
      (lines.map text).foldl step ⟨name.text, interfaces⟩ =
        ⟨name.text, appendAll interfaces
          (Interface.reports ⟨name, lines.filterMap address?⟩)⟩ := by
    induction lines generalizing interfaces with
    | nil => rfl
    | cons l lines ih =>
        rw [List.map_cons, List.foldl_cons, hdetail, ih, ← appendAll_append]
        cases ha : address? l <;> simp [reportOf, Interface.reports, ha]
  rw [List.foldl_append, List.foldl_cons, hheader, hlines, hblank]

theorem foldl_blocks {B : Type} (step : ParseState → Bytes → ParseState) (text : B → List Bytes)
    (interface : B → Interface)
    (hblock : ∀ b s, (text b).foldl step s =
      ⟨(interface b).name.text, appendAll s.interfaces (interface b).reports⟩)
    (blocks : List B) (s : ParseState) :
    ((blocks.flatMap text).foldl step s).interfaces =
      appendAll s.interfaces ((blocks.map interface).flatMap Interface.reports) := by
  induction blocks generalizing s with
  | nil => rfl
  | cons b blocks ih =>
      rw [List.flatMap_cons, List.foldl_append, hblock, ih, ← appendAll_append]
      rfl

theorem appendAll_device (d : Device) :
    appendAll [] (d.flatMap Interface.reports) = d.expected := by
  rw [appendAll_eq_eraseDups, Device.expected]
  congr 1
  induction d with
  | nil => rfl
  | cons i d ih =>
      rw [List.flatMap_cons, List.filter_append, ih]
      by_cases hloop : isLoopbackInterfaceName i.name.text = true
      · have hnone : i.reports.filter (fun r => IsReported r) = [] := by
          rw [List.filter_eq_nil_iff]
          intro r hr hreported
          obtain ⟨a, -, rfl⟩ := List.mem_map.mp hr
          have := (of_decide_eq_true hreported).2.2
          simp [hloop] at this
        rw [hnone, List.filter_cons_of_neg (by simp [hloop]), List.nil_append]
      · have hall : i.reports.filter (fun r => IsReported r) = i.reports := by
          rw [List.filter_eq_self]
          intro r hr
          obtain ⟨a, -, rfl⟩ := List.mem_map.mp hr
          exact decide_eq_true ⟨i.name.nonempty, inetNtop_ne_nil a, by simpa using hloop⟩
        rw [hall, List.filter_cons_of_pos (by simp [hloop]), List.flatMap_cons]

theorem foldl_ifconfigBlock (f : Format) (b : IfconfigBlock) (s : ParseState) :
    (b.text f).foldl ifconfigLine s =
      ⟨b.interface.name.text, appendAll s.interfaces b.interface.reports⟩ :=
  foldl_block ifconfigLine (DetailLine.text f) DetailLine.address? b.name (b.header f)
    (ifconfigLine_header f b) (fun l interfaces => ifconfigLine_detail f b.name l interfaces)
    (fun _ => rfl) b.lines b.blankLines s

theorem foldl_ipAddrBlock (b : IpAddrBlock) (s : ParseState) :
    b.text.foldl ipAddrLine s =
      ⟨b.interface.name.text, appendAll s.interfaces b.interface.reports⟩ :=
  foldl_block ipAddrLine IpAddrLine.text IpAddrLine.address? b.name b.header
    (ipAddrLine_header b) (fun l interfaces => ipAddrLine_detail b.name l interfaces)
    (fun _ => rfl) b.lines b.blankLines s

theorem newline_notMem {w : Bytes} (h : ∀ c ∈ w, isSpace c = false) : ('\n' : UInt8) ∉ w :=
  fun hmem => absurd (h _ hmem) (by decide)

theorem Indent.newline_notMem (i : Indent) : ('\n' : UInt8) ∉ i.text := by
  intro h
  rcases i.blank _ h with h | h <;> exact absurd h (by decide)

theorem newline_notMem_inetNtop (a : Address) : ('\n' : UInt8) ∉ inetNtop a :=
  newline_notMem fun _ hc => isSpace_of_mem_inetNtop hc

theorem newline_notMem_decimal (n : ℕ) : ('\n' : UInt8) ∉ decimal n :=
  newline_notMem fun _ hc => isSpace_of_mem_decimal hc

theorem newline_notMem_ifconfigBlock (f : Format) (b : IfconfigBlock) :
    ∀ line ∈ b.text f, ('\n' : UInt8) ∉ line := by
  have hname := newline_notMem b.name.isWord.plain
  have hflags := newline_notMem b.flags.plain
  intro line hline
  rw [IfconfigBlock.text] at hline
  rcases List.mem_append.mp hline with hline | hline
  · rcases List.mem_cons.mp hline with rfl | hline
    · cases f <;> simp only [IfconfigBlock.header, List.mem_append, not_or]
      · exact ⟨⟨⟨⟨hname, by decide⟩, by decide⟩, by decide, hflags⟩, b.details.oneLine⟩
      · exact ⟨⟨⟨⟨⟨hname, b.gap.newline_notMem⟩, by decide⟩, by decide⟩, by decide, hflags⟩,
          b.details.oneLine⟩
    · obtain ⟨l, -, rfl⟩ := List.mem_map.mp hline
      cases l with
      | inet indent a tail =>
          have ha := newline_notMem_inetNtop a
          cases f <;> simp only [DetailLine.text, List.mem_append, not_or]
          · exact ⟨⟨⟨⟨indent.newline_notMem, by decide⟩, by decide⟩, ha⟩, tail.oneLine⟩
          · exact ⟨⟨⟨⟨indent.newline_notMem, by decide⟩, by decide⟩, by decide, ha⟩, tail.oneLine⟩
      | other indent keyword tail =>
          cases f <;> cases keyword <;> simp only [DetailLine.text, List.mem_append, not_or]
          all_goals first
            | exact ⟨⟨indent.newline_notMem, by decide⟩, tail.oneLine⟩
            | exact ⟨⟨⟨⟨indent.newline_notMem, by decide⟩, by decide⟩, by decide⟩, tail.oneLine⟩
  · rw [(List.mem_replicate.mp hline).2]
    simp

theorem newline_notMem_ipAddrBlock (b : IpAddrBlock) :
    ∀ line ∈ b.text, ('\n' : UInt8) ∉ line := by
  have hname := newline_notMem b.name.isWord.plain
  have hpeer : ('\n' : UInt8) ∉ b.peerText := by
    rw [IpAddrBlock.peerText]
    cases b.peer with
    | none => simp
    | some k =>
        simp only [List.mem_append, not_or]
        exact ⟨by decide, newline_notMem_decimal k⟩
  intro line hline
  rw [IpAddrBlock.text] at hline
  rcases List.mem_append.mp hline with hline | hline
  · rcases List.mem_cons.mp hline with rfl | hline
    · simp only [IpAddrBlock.header, List.mem_append, not_or]
      exact ⟨⟨⟨⟨⟨newline_notMem_decimal _, by decide⟩, by decide⟩, ⟨hname, hpeer⟩, by decide⟩,
        by decide⟩, b.oneLine⟩
    · obtain ⟨l, -, rfl⟩ := List.mem_map.mp hline
      cases l with
      | inet indent a p tail =>
          simp only [IpAddrLine.text, List.mem_append, not_or]
          exact ⟨⟨⟨⟨indent.newline_notMem, by decide⟩, by decide⟩,
            ⟨newline_notMem_inetNtop a, by decide⟩, newline_notMem_decimal p⟩, tail.oneLine⟩
      | validLft indent tail =>
          simp only [IpAddrLine.text, List.mem_append, not_or]
          exact ⟨⟨indent.newline_notMem, by decide⟩, tail.oneLine⟩
  · rw [(List.mem_replicate.mp hline).2]
    simp

/-- `parse_ifconfig_output` returns what the device has, in either format. -/
theorem parseIfconfigOutput_render (f : Format) (blocks : List IfconfigBlock) :
    parseIfconfigOutput (renderIfconfig f blocks) = (ifconfigDevice blocks).expected := by
  rw [parseIfconfigOutput, renderIfconfig,
    splitLines_unlines_flatMap (newline_notMem_ifconfigBlock f) blocks,
    foldl_blocks ifconfigLine (IfconfigBlock.text f) IfconfigBlock.interface
      (foldl_ifconfigBlock f) blocks, ← ifconfigDevice, appendAll_device]

/-- `parse_ip_addr_output` returns what the device has. -/
theorem parseIpAddrOutput_render (blocks : List IpAddrBlock) :
    parseIpAddrOutput (renderIpAddr blocks) = (ipAddrDevice blocks).expected := by
  rw [parseIpAddrOutput, renderIpAddr, splitLines_unlines_flatMap newline_notMem_ipAddrBlock blocks,
    foldl_blocks ipAddrLine IpAddrBlock.text IpAddrBlock.interface foldl_ipAddrBlock blocks,
    ← ipAddrDevice, appendAll_device]

/-- The three printouts of one device parse to the same list: the (name,
address) pairs of its interfaces that are not loopback devices, in device
order, each pair once. -/
theorem parsers_agree (d : Device) (netTools legacy : List IfconfigBlock)
    (ipAddr : List IpAddrBlock) (hnetTools : ifconfigDevice netTools = d)
    (hlegacy : ifconfigDevice legacy = d) (hipAddr : ipAddrDevice ipAddr = d) :
    parseIfconfigOutput (renderIfconfig .netTools netTools) = d.expected ∧
      parseIfconfigOutput (renderIfconfig .legacy legacy) = d.expected ∧
      parseIpAddrOutput (renderIpAddr ipAddr) = d.expected := by
  refine ⟨?_, ?_, ?_⟩
  · rw [parseIfconfigOutput_render, hnetTools]
  · rw [parseIfconfigOutput_render, hlegacy]
  · rw [parseIpAddrOutput_render, hipAddr]

section Sample

private def eth0 : InterfaceName := ⟨"eth0", by decide, forall_mem_of_all (by decide)⟩
def lo : InterfaceName := ⟨"lo", by decide, forall_mem_of_all (by decide)⟩
def indent : Indent := ⟨"        ", by decide, forall_mem_of_all (by decide)⟩
def noTail : QuietTail := ⟨⟨[], by decide, by decide⟩, by decide⟩
private def scope : QuietTail := ⟨⟨" fe80::1  prefixlen 64", by decide, by decide⟩, by decide⟩
private def flags : Value := ⟨"4163<UP>", forall_mem_of_all (by decide)⟩

/-- An interface with one address shown twice, and the loopback device. -/
private def sampleIfconfig : List IfconfigBlock :=
  [⟨eth0, indent, flags, noTail, [.inet indent (ofOctets 192 168 10 50) noTail.toTail,
      .other indent .inet6 scope, .inet indent (ofOctets 192 168 10 50) noTail.toTail], 1⟩,
    ⟨lo, indent, flags, noTail, [.inet indent (ofOctets 127 0 0 1) noTail.toTail], 0⟩]

private def sampleIpAddr : List IpAddrBlock :=
  [⟨2, eth0, some 3, "UP>", by decide,
      [.inet indent (ofOctets 192 168 10 50) 24 noTail.toTail, .validLft indent noTail,
        .inet indent (ofOctets 192 168 10 50) 24 noTail.toTail], 0⟩,
    ⟨1, lo, none, "LOOPBACK>", by decide,
      [.inet indent (ofOctets 127 0 0 1) 8 noTail.toTail], 2⟩]

theorem parsers_agree_sample :
    parseIfconfigOutput (renderIfconfig .netTools sampleIfconfig) =
        [⟨"eth0", "192.168.10.50"⟩] ∧
      parseIfconfigOutput (renderIfconfig .legacy sampleIfconfig) =
        [⟨"eth0", "192.168.10.50"⟩] ∧
      parseIpAddrOutput (renderIpAddr sampleIpAddr) = [⟨"eth0", "192.168.10.50"⟩] := by
  have hexpected : (ifconfigDevice sampleIfconfig).expected =
      [⟨"eth0", "192.168.10.50"⟩] := by decide
  have h := parsers_agree (ifconfigDevice sampleIfconfig) sampleIfconfig sampleIfconfig
    sampleIpAddr rfl rfl rfl
  rwa [hexpected] at h

end Sample

end DeviceDiscovery.Parser
