import Mathlib.Data.List.DropRight
import Mathlib.Data.List.Basic

/-!
Cutting a text into lines and words.

`splitLines` is the reading loop over a delimiter (`std::getline` until it
fails), `words` the reading loop over separators (`>>` into a string until it
fails). Both are recursive on the text, and everything the parsers need is said
by how the two behave on a concatenation: `splitLines_line_append` peels a
terminated line, `words_append_sep_cons` cuts a text at a separator.
-/

namespace Foundation

variable {α : Type}

/-! ### Lines -/

section Lines

/-- The text whose lines are `lines`, each ended by the delimiter. -/
def unlines (nl : α) (lines : List (List α)) : List α :=
  lines.flatMap fun line => line ++ [nl]

@[simp] theorem unlines_nil (nl : α) : unlines nl ([] : List (List α)) = [] := rfl

@[simp] theorem unlines_cons (nl : α) (line : List α) (lines : List (List α)) :
    unlines nl (line :: lines) = line ++ nl :: unlines nl lines := by
  simp [unlines]

variable [DecidableEq α]

/-- The lines of a text: the delimiter ends a line, and the text after the last
delimiter is a line only when it is non-empty. -/
def splitLines (nl : α) : List α → List (List α)
  | [] => []
  | c :: cs =>
      if c = nl then [] :: splitLines nl cs
      else
        match splitLines nl cs with
        | [] => [[c]]
        | line :: lines => (c :: line) :: lines

@[simp] theorem splitLines_nil (nl : α) : splitLines nl ([] : List α) = [] := rfl

theorem splitLines_line_append {nl : α} {line : List α} (hline : nl ∉ line) (rest : List α) :
    splitLines nl (line ++ nl :: rest) = line :: splitLines nl rest := by
  induction line with
  | nil => simp [splitLines]
  | cons c line ih =>
      have hc : c ≠ nl := by
        rintro rfl
        exact hline (by simp)
      have hrest : nl ∉ line := fun h => hline (by simp [h])
      rw [List.cons_append, splitLines, if_neg hc, ih hrest]

/-- Reading back the lines a text was written from. -/
theorem splitLines_unlines {nl : α} {lines : List (List α)}
    (hlines : ∀ line ∈ lines, nl ∉ line) : splitLines nl (unlines nl lines) = lines := by
  induction lines with
  | nil => rfl
  | cons line lines ih =>
      have hline : nl ∉ line := hlines line (by simp)
      have hrest : ∀ l ∈ lines, nl ∉ l := fun l hl => hlines l (by simp [hl])
      rw [unlines_cons, splitLines_line_append hline, ih hrest]

theorem splitLines_ne_nil {nl : α} {s : List α} (hs : s ≠ []) : splitLines nl s ≠ [] := by
  cases s with
  | nil => exact absurd rfl hs
  | cons c cs =>
      rw [splitLines]
      split
      · apply List.cons_ne_nil
      · split <;> apply List.cons_ne_nil

/-- A text that ends with a delimiter is cut off from what follows it. -/
theorem splitLines_append {nl : α} {s : List α} (hs : s = [] ∨ s.getLast? = some nl)
    (t : List α) : splitLines nl (s ++ t) = splitLines nl s ++ splitLines nl t := by
  have hcut (init : List α) :
      splitLines nl (init ++ nl :: t) = splitLines nl (init ++ [nl]) ++ splitLines nl t := by
    induction init with
    | nil => simp [splitLines]
    | cons c init ih =>
        rw [List.cons_append, List.cons_append, splitLines, splitLines, ih]
        split
        · rfl
        · have hne : splitLines nl (init ++ [nl]) ≠ [] := splitLines_ne_nil (by simp)
          cases hlines : splitLines nl (init ++ [nl]) with
          | nil => exact absurd hlines hne
          | cons line lines => rfl
  obtain rfl | hlast := hs
  · rfl
  · obtain ⟨init, rfl⟩ := List.getLast?_eq_some_iff.mp hlast
    rw [List.append_assoc, List.singleton_append]
    exact hcut init

/-- The text with `d` put in front of each delimiter. -/
def insertBefore (nl d : α) (s : List α) : List α :=
  s.flatMap fun c => if c = nl then [d, nl] else [c]

/-- Each line gets `d` at its end, or is the last one and stays as it is. -/
theorem splitLines_insertBefore {nl d : α} (hd : d ≠ nl) (s : List α) :
    List.Forall₂ (fun line line' => line' = line ∨ line' = line ++ [d]) (splitLines nl s)
      (splitLines nl (insertBefore nl d s)) := by
  induction s with
  | nil => exact .nil
  | cons c s ih =>
      rw [insertBefore, List.flatMap_cons, ← insertBefore]
      by_cases hc : c = nl
      · subst hc
        have hplain : c ∉ [d] := by simpa using Ne.symm hd
        have hfirst : splitLines c ([d, c] ++ insertBefore c d s) =
            [d] :: splitLines c (insertBefore c d s) := splitLines_line_append hplain _
        rw [if_pos rfl, hfirst, splitLines, if_pos rfl]
        exact .cons (.inr rfl) ih
      · rw [if_neg hc, List.singleton_append, splitLines, splitLines, if_neg hc, if_neg hc]
        generalize splitLines nl s = before at ih ⊢
        generalize splitLines nl (insertBefore nl d s) = after at ih ⊢
        cases ih with
        | nil => exact .cons (.inl rfl) .nil
        | cons hline hlines =>
            refine .cons ?_ hlines
            obtain rfl | rfl := hline
            · exact .inl rfl
            · exact .inr rfl

/-- A line is a piece of the text, and the first line is its beginning. -/
theorem infix_of_mem_splitLines {nl : α} {s line : List α} (h : line ∈ splitLines nl s) :
    nl ∉ line ∧ line <:+: s := by
  have hlines : (∀ line ∈ splitLines nl s, nl ∉ line ∧ line <:+: s) ∧
      ∀ line ∈ (splitLines nl s).head?, line <+: s := by
    clear h
    induction s with
    | nil => exact ⟨(fun _ h => nomatch h), fun _ h => nomatch h⟩
    | cons c s ih =>
        obtain ⟨hall, hfirst⟩ := ih
        have hrest {line : List α} (h : line <:+: s) : line <:+: c :: s :=
          h.trans (List.suffix_cons c s).isInfix
        rw [splitLines]
        split
        · refine ⟨List.forall_mem_cons.mpr ⟨⟨List.not_mem_nil, List.nil_infix⟩, fun line hline =>
            ⟨(hall line hline).1, hrest (hall line hline).2⟩⟩, fun line hline => ?_⟩
          obtain rfl : [] = line := by simpa using hline
          exact List.nil_prefix
        · rename_i hc
          cases hs : splitLines nl s with
          | nil =>
              have hsingle : [c] <+: c :: s := List.prefix_iff_eq_append.mpr rfl
              refine ⟨fun line hline => ?_, fun line hline => ?_⟩
              · rw [List.mem_singleton.mp hline]
                exact ⟨by simpa using Ne.symm hc, hsingle.isInfix⟩
              · obtain rfl : [c] = line := by simpa using hline
                exact hsingle
          | cons first rest =>
              rw [hs] at hall hfirst
              have hlong : c :: first <+: c :: s :=
                List.cons_prefix_cons.mpr ⟨rfl, hfirst first (by simp)⟩
              have hplain := (hall first (by simp)).1
              refine ⟨List.forall_mem_cons.mpr ⟨⟨?_, hlong.isInfix⟩, fun line hline => ?_⟩,
                fun line hline => ?_⟩
              · simpa using ⟨Ne.symm hc, hplain⟩
              · obtain ⟨hline', hinfix⟩ := hall line (List.mem_cons_of_mem _ hline)
                exact ⟨hline', hrest hinfix⟩
              · obtain rfl : c :: first = line := by simpa using hline
                exact hlong
  exact hlines.1 line h

/-- What stands behind the last delimiter is a line that has not been ended. -/
theorem exists_cut (nl : α) (s : List α) : ∃ whole cut, s = whole ++ cut ∧
    (whole = [] ∨ whole.getLast? = some nl) ∧ nl ∉ cut := by
  induction s with
  | nil => exact ⟨[], [], rfl, .inl rfl, List.not_mem_nil⟩
  | cons c s ih =>
      obtain ⟨whole, cut, rfl, hwhole, hcut⟩ := ih
      rcases hwhole with rfl | hended
      · by_cases hc : c = nl
        · exact ⟨[c], cut, rfl, .inr (by rw [hc]; rfl), hcut⟩
        · exact ⟨[], c :: cut, rfl, .inl rfl, by simp [Ne.symm hc, hcut]⟩
      · refine ⟨c :: whole, cut, rfl, .inr ?_, hcut⟩
        rw [List.getLast?_cons, hended]
        rfl

/-- A line that has not been ended is a line like the others. -/
theorem splitLines_of_notMem {nl : α} {line : List α} (hsome : line ≠ []) (hline : nl ∉ line) :
    splitLines nl line = [line] := by
  induction line with
  | nil => exact absurd rfl hsome
  | cons c line ih =>
      rw [List.mem_cons, not_or] at hline
      rw [splitLines, if_neg (Ne.symm hline.1)]
      cases line with
      | nil => rfl
      | cons d line => rw [ih (List.cons_ne_nil d line) hline.2]

/-- A text that is written block by block is read back block by block. -/
theorem splitLines_unlines_flatMap {nl : α} {B : Type} {text : B → List (List α)}
    (htext : ∀ b, ∀ line ∈ text b, nl ∉ line) (blocks : List B) :
    splitLines nl (unlines nl (blocks.flatMap text)) = blocks.flatMap text := by
  apply splitLines_unlines
  intro line hline
  obtain ⟨b, -, hb⟩ := List.mem_flatMap.mp hline
  exact htext b line hb

end Lines

/-! ### Joined parts -/

theorem mem_intercalate {glue : List α} {parts : List (List α)} {c : α}
    (h : c ∈ glue.intercalate parts) : c ∈ glue ∨ ∃ part ∈ parts, c ∈ part := by
  induction parts with
  | nil => cases h
  | cons part parts ih =>
      cases parts with
      | nil =>
          rw [List.intercalate_singleton] at h
          exact .inr ⟨part, by simp, h⟩
      | cons next parts =>
          rw [List.intercalate_cons_cons, List.append_assoc, List.mem_append,
            List.mem_append] at h
          obtain hpart | hglue | hrest := h
          · exact .inr ⟨part, by simp, hpart⟩
          · exact .inl hglue
          · obtain hglue | ⟨other, hother, hc⟩ := ih hrest
            · exact .inl hglue
            · exact .inr ⟨other, List.mem_cons_of_mem _ hother, hc⟩

/-! ### Where a word stands -/

section Factors

variable {w s t : List α} {c : α}

/-- A word that begins a text ends before a symbol that it does not have. -/
theorem prefix_append_cons_iff (hw : c ∉ w) : w <+: s ++ c :: t ↔ w <+: s := by
  constructor
  · intro h
    by_cases hle : w.length ≤ s.length
    · exact List.prefix_of_prefix_length_le h (List.prefix_append s _) hle
    · have hcut : s ++ [c] <+: w := by
        refine List.prefix_of_prefix_length_le ⟨t, by simp⟩ h ?_
        rw [List.length_append, List.length_singleton]
        omega
      exact absurd (hcut.subset (by simp)) hw
  · intro h
    exact h.trans (List.prefix_append s _)

/-- A word stands on one side of a symbol that it does not have. -/
theorem infix_append_cons_iff (hw : c ∉ w) : w <:+: s ++ c :: t ↔ w <:+: s ∨ w <:+: t := by
  induction s with
  | nil =>
      have hnil := prefix_append_cons_iff (s := []) (t := t) hw
      rw [List.nil_append] at hnil
      rw [List.nil_append, List.infix_cons_iff, hnil, List.prefix_nil, List.infix_nil]
  | cons d s ih =>
      have hfirst := prefix_append_cons_iff (s := d :: s) (t := t) hw
      rw [List.cons_append] at hfirst
      rw [List.cons_append, List.infix_cons_iff, hfirst, ih, List.infix_cons_iff, or_assoc]

/-- No word stands among symbols that it does not have. -/
theorem infix_append_iff_of_disjoint (hw : w ≠ []) (ht : ∀ c ∈ t, c ∉ w) :
    w <:+: s ++ t ↔ w <:+: s := by
  cases t with
  | nil => rw [List.append_nil]
  | cons c t =>
      rw [infix_append_cons_iff (ht c (by simp))]
      refine or_iff_left fun hrest => ?_
      obtain ⟨d, v, rfl⟩ := List.exists_cons_of_ne_nil hw
      have hd : d ∈ t := hrest.subset (by simp)
      exact ht d (by simp [hd]) (by simp)

end Factors

/-! ### Trailing runs -/

section TrailingRun

variable {p : α → Bool}

theorem rdropWhile_append_of_forall (s : List α) {t : List α} (ht : ∀ c ∈ t, p c = true) :
    (s ++ t).rdropWhile p = s.rdropWhile p := by
  have hrun : ∀ c ∈ t.reverse, p c = true := fun c hc => ht c (List.mem_reverse.mp hc)
  rw [List.rdropWhile, List.reverse_append, List.dropWhile_append_of_pos hrun, ← List.rdropWhile]

/-- What ends in something else is kept. -/
theorem prefix_rdropWhile_append {s : List α} (hs : s.rdropWhile p = s) (t : List α) :
    s <+: (s ++ t).rdropWhile p := by
  induction t using List.reverseRecOn with
  | nil =>
      simpa only [List.append_nil, hs] using List.prefix_refl s
  | append_singleton t c ih =>
      rw [← List.append_assoc, List.rdropWhile_concat]
      split
      · exact ih
      · rw [List.append_assoc]
        exact List.prefix_append s _

/-- A text loses what stands behind its first `m` symbols exactly when that is a
trailing run. -/
theorem length_rdropWhile_le_iff {s : List α} {m : ℕ} :
    (s.rdropWhile p).length ≤ m ↔ ∀ c ∈ s.drop m, p c = true := by
  induction s using List.reverseRecOn with
  | nil => simp
  | append_singleton s c ih =>
      rw [List.rdropWhile_concat, List.drop_append]
      by_cases hc : p c = true
      · have hlast : ∀ d ∈ [c].drop (m - s.length), p d = true := by
          intro d hd
          rw [List.mem_singleton.mp (List.mem_of_mem_drop hd)]
          exact hc
        rw [if_pos hc, ih, List.forall_mem_append]
        exact ⟨fun h => ⟨h, hlast⟩, And.left⟩
      · rw [if_neg hc, List.length_append, List.length_singleton]
        constructor
        · intro hlength d hd
          rw [List.drop_of_length_le (by omega), List.drop_of_length_le (by simp; omega)] at hd
          cases hd
        · intro hrun
          by_contra hlong
          have hmem : c ∈ s.drop m ++ [c].drop (m - s.length) := by
            rw [Nat.sub_eq_zero_of_le (by omega)]
            simp
          exact hc (hrun c hmem)

end TrailingRun

/-! ### Words -/

section Words

variable (sep : α → Bool)

/-- The words of a text: its maximal runs of non-separators, in order. -/
def words : List α → List (List α)
  | [] => []
  | c :: cs =>
      if sep c then words cs
      else if cs.head?.all sep then [c] :: words cs
      else (words cs).modifyHead (c :: ·)

/-- A word: not empty and without a separator. -/
structure IsWord (w : List α) : Prop where
  nonempty : w ≠ []
  plain : ∀ c ∈ w, sep c = false

/-- A gap: separators only, possibly none. -/
def IsGap (g : List α) : Prop := ∀ c ∈ g, sep c = true

instance (w : List α) : Decidable (IsWord sep w) :=
  decidable_of_iff (w.isEmpty = false ∧ (w.all fun c => !sep c) = true)
    ⟨fun h => ⟨by simpa using h.1, by simpa using h.2⟩,
      fun h => ⟨by simpa using h.nonempty, by simpa using h.plain⟩⟩

instance (g : List α) : Decidable (IsGap sep g) :=
  decidable_of_iff (g.all sep = true) List.all_eq_true

variable {sep}

@[simp] theorem words_nil : words sep [] = [] := rfl

theorem words_sep_cons {c : α} (hc : sep c = true) (t : List α) :
    words sep (c :: t) = words sep t := by
  rw [words, if_pos hc]

theorem words_ne_nil {c : α} (hc : sep c = false) (t : List α) : words sep (c :: t) ≠ [] := by
  induction t generalizing c with
  | nil => simp [words, hc]
  | cons d t ih =>
      rw [words, if_neg (by simp [hc])]
      by_cases hd : sep d = true
      · simp [hd]
      · have hrest : words sep (d :: t) ≠ [] := ih (by simpa using hd)
        rw [if_neg (by simpa using hd)]
        cases hw : words sep (d :: t) with
        | nil => exact absurd hw hrest
        | cons w ws => simp

/-- A separator cuts a text: its words are those before it and those after. -/
theorem words_append_sep_cons {d : α} (hd : sep d = true) (s t : List α) :
    words sep (s ++ d :: t) = words sep s ++ words sep t := by
  induction s with
  | nil => simp [words_sep_cons hd]
  | cons c s ih =>
      by_cases hc : sep c = true
      · rw [List.cons_append, words_sep_cons hc, words_sep_cons hc, ih]
      · cases s with
        | nil =>
            simp only [List.cons_append, List.nil_append]
            rw [words, if_neg hc, if_pos (by simpa using hd), words_sep_cons hd]
            simp [words, hc]
        | cons e s =>
            have hhead : (e :: s ++ d :: t).head? = (e :: s).head? := rfl
            rw [List.cons_append, words, words, if_neg hc, if_neg hc, hhead, ih]
            by_cases he : sep e = true
            · rw [if_pos (by simpa using he), if_pos (by simpa using he), List.cons_append]
            · have hne : words sep (e :: s) ≠ [] := words_ne_nil (by simpa using he) s
              rw [if_neg (by simpa using he), if_neg (by simpa using he)]
              cases hw : words sep (e :: s) with
              | nil => exact absurd hw hne
              | cons w ws => rfl

theorem words_gap_append {g : List α} (hg : IsGap sep g) (t : List α) :
    words sep (g ++ t) = words sep t := by
  induction g with
  | nil => rfl
  | cons c g ih =>
      have hc : sep c = true := hg c (by simp)
      have hrest : IsGap sep g := fun d hd => hg d (by simp [hd])
      rw [List.cons_append, words_sep_cons hc, ih hrest]

theorem words_append_gap {g : List α} (hg : IsGap sep g) (s : List α) :
    words sep (s ++ g) = words sep s := by
  cases g with
  | nil => rw [List.append_nil]
  | cons c g =>
      have hc : sep c = true := hg c (by simp)
      have hrest : IsGap sep g := fun d hd => hg d (by simp [hd])
      have hnone : words sep g = [] := by simpa using words_gap_append hrest []
      rw [words_append_sep_cons hc, hnone, List.append_nil]

theorem words_word {w : List α} (hw : IsWord sep w) : words sep w = [w] := by
  obtain ⟨hne, hplain⟩ := hw
  induction w with
  | nil => exact absurd rfl hne
  | cons c w ih =>
      have hc : ¬ sep c = true := by simp [hplain c (by simp)]
      cases w with
      | nil => simp [words, hc]
      | cons d w =>
          have hd : ¬ ((d :: w).head?.all sep = true) := by simp [hplain d (by simp)]
          rw [words, if_neg hc, if_neg hd, ih (by simp) fun e he => hplain e (by simp [he])]
          rfl

/-- A word at the start of a text, followed by a separator or by nothing, is the
first word of the text. -/
theorem words_word_append {w t : List α} (hw : IsWord sep w) (ht : t.head?.all sep = true) :
    words sep (w ++ t) = w :: words sep t := by
  cases t with
  | nil => simp [words_word hw]
  | cons c t =>
      have hc : sep c = true := by simpa using ht
      rw [words_append_sep_cons hc, words_word hw, words_sep_cons hc]
      rfl

/-- Cutting separators off both ends does not change the words. -/
theorem words_trim {p : α → Bool} (hp : ∀ c, p c = true → sep c = true) (s : List α) :
    words sep ((s.dropWhile p).rdropWhile p) = words sep s := by
  have hleft : words sep (s.dropWhile p) = words sep s := by
    have hgap : IsGap sep (s.takeWhile p) := fun c hc => hp c (List.mem_takeWhile_imp hc)
    conv_rhs => rw [← List.takeWhile_append_dropWhile (p := p) (l := s)]
    rw [words_gap_append hgap]
  have hright : words sep ((s.dropWhile p).rdropWhile p) = words sep (s.dropWhile p) := by
    have hgap : IsGap sep ((s.dropWhile p).rtakeWhile p) := fun c hc =>
      hp c (List.mem_rtakeWhile_imp hc)
    conv_rhs => rw [← List.rdropWhile_append_rtakeWhile (p := p) (l := s.dropWhile p)]
    rw [words_append_gap hgap]
  rw [hright, hleft]

/-- What `words` returns: words of the text's own symbols. -/
theorem isWord_of_mem_words {s w : List α} (h : w ∈ words sep s) :
    IsWord sep w ∧ ∀ c ∈ w, c ∈ s := by
  induction s generalizing w with
  | nil => simp at h
  | cons c s ih =>
      rw [words] at h
      by_cases hc : sep c = true
      · rw [if_pos hc] at h
        exact ⟨(ih h).1, fun d hd => by simp [(ih h).2 d hd]⟩
      · rw [if_neg hc] at h
        by_cases hs : s.head?.all sep = true
        · rw [if_pos hs] at h
          rcases List.mem_cons.mp h with rfl | h
          · exact ⟨⟨by simp, by simpa using hc⟩, by simp⟩
          · exact ⟨(ih h).1, fun d hd => by simp [(ih h).2 d hd]⟩
        · rw [if_neg hs] at h
          cases hw : words sep s with
          | nil => simp [hw] at h
          | cons v vs =>
              rw [hw] at h ih
              rcases List.mem_cons.mp h with rfl | h
              · obtain ⟨hv, hmem⟩ := ih (w := v) (by simp)
                refine ⟨⟨by simp, ?_⟩, ?_⟩
                · intro d hd
                  rcases List.mem_cons.mp hd with rfl | hd
                  · simpa using hc
                  · exact hv.plain d hd
                · intro d hd
                  rcases List.mem_cons.mp hd with rfl | hd
                  · simp
                  · simp [hmem d hd]
              · have := ih (w := w) (by simp [h])
                exact ⟨this.1, fun d hd => by simp [this.2 d hd]⟩

/-- A word is a piece of the text. -/
theorem infix_of_mem_words {s w : List α} (h : w ∈ words sep s) : w <:+: s := by
  have hwords : (∀ w ∈ words sep s, w <:+: s) ∧
      (¬s.head?.all sep → ∀ w ∈ (words sep s).head?, w <+: s) := by
    clear h
    induction s with
    | nil => exact ⟨(fun _ h => nomatch h), fun _ _ h => nomatch h⟩
    | cons c s ih =>
        obtain ⟨hall, hfirst⟩ := ih
        have hrest {w : List α} (h : w <:+: s) : w <:+: c :: s :=
          h.trans (List.suffix_cons c s).isInfix
        have hsingle : [c] <+: c :: s := List.prefix_iff_eq_append.mpr rfl
        rw [words]
        split
        · rename_i hc
          exact ⟨fun w hw => hrest (hall w hw), fun hhead => absurd (by simpa using hc) hhead⟩
        split
        · refine ⟨List.forall_mem_cons.mpr ⟨hsingle.isInfix, fun w hw => hrest (hall w hw)⟩,
            fun _ w hw => ?_⟩
          obtain rfl : [c] = w := by simpa using hw
          exact hsingle
        · rename_i hnext
          cases hs : words sep s with
          | nil => exact ⟨(fun _ h => nomatch h), fun _ _ h => nomatch h⟩
          | cons v vs =>
              rw [hs] at hall hfirst
              have hlong : c :: v <+: c :: s :=
                List.cons_prefix_cons.mpr ⟨rfl, hfirst hnext v (by simp)⟩
              refine ⟨List.forall_mem_cons.mpr ⟨hlong.isInfix, fun w hw =>
                hrest (hall w (List.mem_cons_of_mem _ hw))⟩, fun _ w hw => ?_⟩
              obtain rfl : c :: v = w := by simpa using hw
              exact hlong
  exact hwords.1 w h

end Words

end Foundation
