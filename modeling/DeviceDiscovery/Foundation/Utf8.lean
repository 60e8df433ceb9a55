import DeviceDiscovery.Foundation.Bytes

/-!
Texts that are valid UTF-8.

A character is encoded by one byte below 128, or by several that are all at least
128. So a text is valid exactly when its parts before and after any byte below 128
are, and replacing such bytes by other text of the kind does not matter.
-/

namespace Foundation

/-- The encoding of a sequence of characters. -/
def IsUtf8 (s : Bytes) : Prop := ∃ cs : List Char, s = cs.flatMap String.utf8EncodeChar

/-- Every byte is below 128. -/
def IsAscii (s : Bytes) : Prop := ∀ c ∈ s, c < 128

/-- Byte by byte, not over all 256 values. -/
instance : DecidablePred IsAscii := fun s =>
  decidable_of_iff (s.all (fun c => decide (c < 128)) = true) (by simp [IsAscii])

/-! ### One character -/

/-- The encoding of one character. -/
theorem utf8EncodeChar_cases (d : Char) :
    (∃ c, c < 128 ∧ String.utf8EncodeChar d = [c]) ∨
      2 ≤ (String.utf8EncodeChar d).length ∧ ∀ c ∈ String.utf8EncodeChar d, ¬c < 128 := by
  have hhigh (n : ℕ) (hn : 128 ≤ n % 256) : ¬UInt8.ofNat n < 128 :=
    fun hlt => Nat.not_lt.mpr hn hlt
  unfold String.utf8EncodeChar
  generalize d.val.toNat = v
  dsimp only
  split
  · rename_i hone
    refine .inl ⟨UInt8.ofNat v, ?_, rfl⟩
    show v % 256 < 128
    omega
  · right
    split
    · refine ⟨Nat.le_refl 2, ?_⟩
      simp only [List.mem_cons, List.not_mem_nil, or_false]
      rintro c (rfl | rfl) <;> exact hhigh _ (by omega)
    · split
      · refine ⟨by simp, ?_⟩
        simp only [List.mem_cons, List.not_mem_nil, or_false]
        rintro c (rfl | rfl | rfl) <;> exact hhigh _ (by omega)
      · refine ⟨by simp, ?_⟩
        simp only [List.mem_cons, List.not_mem_nil, or_false]
        rintro c (rfl | rfl | rfl | rfl) <;> exact hhigh _ (by omega)

/-- Every byte below 128 encodes a character. -/
theorem exists_utf8EncodeChar {c : UInt8} (h : c < 128) :
    ∃ d, String.utf8EncodeChar d = [c] := by
  have hlt : c.toNat < 128 := h
  have hval : (Char.ofNat c.toNat).val.toNat = c.toNat := by
    rw [Char.ofNat, dif_pos (.inl (by omega))]
    rfl
  refine ⟨Char.ofNat c.toNat, ?_⟩
  unfold String.utf8EncodeChar
  dsimp only
  rw [hval, if_pos (by omega), UInt8.ofNat_toNat]

/-! ### Parts of a text -/

theorem isUtf8_nil : IsUtf8 [] := ⟨[], rfl⟩

theorem IsUtf8.append {s t : Bytes} (hs : IsUtf8 s) (ht : IsUtf8 t) : IsUtf8 (s ++ t) := by
  obtain ⟨cs, rfl⟩ := hs
  obtain ⟨ds, rfl⟩ := ht
  exact ⟨cs ++ ds, List.flatMap_append.symm⟩

theorem isUtf8_singleton {c : UInt8} (h : c < 128) : IsUtf8 [c] := by
  obtain ⟨d, hd⟩ := exists_utf8EncodeChar h
  exact ⟨[d], by simp [hd]⟩

theorem lt_of_isUtf8_singleton {c : UInt8} (h : IsUtf8 [c]) : c < 128 := by
  obtain ⟨cs, hcs⟩ := h
  cases cs with
  | nil => cases hcs
  | cons d cs =>
      rw [List.flatMap_cons] at hcs
      obtain ⟨b, hb, hd⟩ | ⟨hlong, -⟩ := utf8EncodeChar_cases d
      · rw [hd, List.singleton_append] at hcs
        rw [(List.cons.inj hcs).1]
        exact hb
      · have hlength := congrArg List.length hcs
        rw [List.length_append, List.length_singleton] at hlength
        omega

theorem IsAscii.isUtf8 {s : Bytes} (h : IsAscii s) : IsUtf8 s := by
  induction s with
  | nil => exact isUtf8_nil
  | cons c s ih =>
      exact (isUtf8_singleton (h c (by simp))).append (ih fun d hd => h d (by simp [hd]))

/-- A text is cut at a byte below 128. -/
theorem isUtf8_append_cons_iff {s t : Bytes} {c : UInt8} (hc : c < 128) :
    IsUtf8 (s ++ c :: t) ↔ IsUtf8 s ∧ IsUtf8 t := by
  constructor
  · rintro ⟨cs, hcs⟩
    induction cs generalizing s with
    | nil => simp at hcs
    | cons d cs ih =>
        rw [List.flatMap_cons] at hcs
        have hfirst : IsUtf8 (String.utf8EncodeChar d) := ⟨[d], by simp⟩
        obtain ⟨rest, hd, hrest⟩ | ⟨rest, rfl, hrest⟩ := List.append_eq_append_iff.mp hcs
        · cases rest with
          | nil =>
              rw [List.append_nil] at hd
              exact ⟨hd ▸ hfirst, (ih (s := []) hrest).2⟩
          | cons b rest =>
              -- The byte is in the encoding of the first character, so it is all of it.
              obtain ⟨rfl, ht⟩ := List.cons.inj hrest
              obtain ⟨e, -, he⟩ | ⟨-, hhigh⟩ := utf8EncodeChar_cases d
              · rw [he] at hd
                obtain ⟨rfl, hnil⟩ : s = [] ∧ rest = [] := by
                  have hlength := congrArg List.length hd
                  simp only [List.length_append, List.length_cons, List.length_nil] at hlength
                  exact ⟨List.eq_nil_of_length_eq_zero (by omega),
                    List.eq_nil_of_length_eq_zero (by omega)⟩
                rw [hnil] at ht
                exact ⟨isUtf8_nil, cs, ht⟩
              · exact absurd hc (hhigh c (by rw [hd]; simp))
        · obtain ⟨hrestValid, ht⟩ := ih hrest.symm
          exact ⟨hfirst.append hrestValid, ht⟩
  · rintro ⟨hs, ht⟩
    exact hs.append ((isUtf8_singleton hc).append ht)

theorem isUtf8_ascii_append_iff {s : Bytes} (hs : IsAscii s) (t : Bytes) :
    IsUtf8 (s ++ t) ↔ IsUtf8 t := by
  induction s with
  | nil => rfl
  | cons c s ih =>
      have hcut := isUtf8_append_cons_iff (s := []) (t := s ++ t) (hs c (by simp))
      rw [List.nil_append] at hcut
      rw [List.cons_append, hcut, ih fun d hd => hs d (by simp [hd])]
      exact and_iff_right isUtf8_nil

/-- A text that is written byte by byte, the bytes from 128 on unchanged. -/
theorem isUtf8_flatMap_iff {f : UInt8 → Bytes} (hlow : ∀ c, c < 128 → f c ≠ [] ∧ IsAscii (f c))
    (hhigh : ∀ c, ¬c < 128 → f c = [c]) (s : Bytes) : IsUtf8 (s.flatMap f) ↔ IsUtf8 s := by
  -- What precedes is kept: it may end within a character.
  have hwith (before : Bytes) : IsUtf8 (before ++ s.flatMap f) ↔ IsUtf8 (before ++ s) := by
    induction s generalizing before with
    | nil => rfl
    | cons c s ih =>
        rw [List.flatMap_cons]
        by_cases hc : c < 128
        · obtain ⟨hne, hascii⟩ := hlow c hc
          obtain ⟨d, rest, hd⟩ := List.exists_cons_of_ne_nil hne
          rw [hd] at hascii
          have hrest : IsAscii rest := fun e he => hascii e (by simp [he])
          have hs := ih []
          rw [List.nil_append, List.nil_append] at hs
          rw [hd, List.cons_append, isUtf8_append_cons_iff (hascii d (by simp)),
            isUtf8_ascii_append_iff hrest, hs, isUtf8_append_cons_iff hc]
        · rw [hhigh c hc, ← List.append_assoc, ih, List.append_assoc, List.singleton_append]
  simpa using hwith []

/-! ### Texts that stand alone

A part of a text is separate when the text is valid exactly when the part meets a
condition of its own and what stands before it and behind it is valid. -/

/-- The text is valid together with its surroundings when `P` holds and both of
them are valid. -/
def Separate (text : Bytes) (P : Prop) : Prop :=
  ∀ before after, IsUtf8 (before ++ (text ++ after)) ↔ IsUtf8 before ∧ P ∧ IsUtf8 after

namespace Separate

variable {text text' : Bytes} {P Q : Prop}

theorem isUtf8_iff (h : Separate text P) : IsUtf8 text ↔ P := by
  have halone := h [] []
  rw [List.nil_append, List.append_nil] at halone
  rw [halone]
  exact ⟨fun hp => hp.2.1, fun hp => ⟨isUtf8_nil, hp, isUtf8_nil⟩⟩

theorem congr (h : Separate text P) (hpq : P ↔ Q) : Separate text Q := by
  intro before after
  rw [h before after, hpq]

theorem append (h : Separate text P) (h' : Separate text' Q) :
    Separate (text ++ text') (P ∧ Q) := by
  intro before after
  have hrest := h' [] after
  rw [List.nil_append] at hrest
  rw [List.append_assoc, h before, hrest]
  constructor
  · rintro ⟨hb, hp, -, hq, ha⟩
    exact ⟨hb, ⟨hp, hq⟩, ha⟩
  · rintro ⟨hb, ⟨hp, hq⟩, ha⟩
    exact ⟨hb, hp, isUtf8_nil, hq, ha⟩

theorem ascii (hne : text ≠ []) (h : IsAscii text) : Separate text True := by
  intro before after
  obtain ⟨c, rest, rfl⟩ := List.exists_cons_of_ne_nil hne
  have hrest : IsAscii rest := fun d hd => h d (by simp [hd])
  rw [List.cons_append, isUtf8_append_cons_iff (h c (by simp)), isUtf8_ascii_append_iff hrest,
    true_and]

/-- A text between two that stand alone. -/
theorem between (h : Separate text P) (h' : Separate text' Q) (inner : Bytes) :
    Separate (text ++ (inner ++ text')) (P ∧ IsUtf8 inner ∧ Q) := by
  intro before after
  rw [List.append_assoc, h before, List.append_assoc, h' inner]
  simp only [and_assoc]

end Separate

end Foundation
