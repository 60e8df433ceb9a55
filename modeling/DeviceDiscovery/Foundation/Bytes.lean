import Mathlib.Data.Nat.Notation

/-!
Byte strings.

A byte-oriented program's strings are lists of bytes with no further structure:
a byte may be zero, and nothing says that the text is valid in any encoding. A
Lean string literal stands for its bytes by coercion, and a character for its
byte. Numerals are written by `decimal` and read back by `decimalValue`.
-/

namespace Foundation

/-- A counted byte string. -/
abbrev Bytes := List UInt8

/-- The bytes of a literal. -/
def bytes (s : String) : Bytes := s.toUTF8.data.toList

instance : Coe String Bytes := ⟨bytes⟩

instance coeCharByte : Coe Char UInt8 := ⟨Char.toUInt8⟩

/-- White space of the classic locale: blank, tab, newline, vertical tab, form
feed and carriage return. -/
def isSpace (c : UInt8) : Bool := c == 32 || (9 ≤ c && c ≤ 13)

/-- A decimal digit. -/
def isDigit (c : UInt8) : Bool := 48 ≤ c && c ≤ 57

/-- `text.find(part) != npos`. -/
def contains : Bytes → Bytes → Bool
  | [], part => part.isEmpty
  | c :: text, part => part.isPrefixOf (c :: text) || contains text part

theorem contains_iff {text part : Bytes} : contains text part = true ↔ part <:+: text := by
  induction text with
  | nil => rw [contains, List.isEmpty_iff, List.infix_nil]
  | cons c text ih =>
      rw [contains, Bool.or_eq_true, List.isPrefixOf_iff_prefix, ih, List.infix_cons_iff]

/-- `std::tolower` of the classic locale. -/
def toLower (c : UInt8) : UInt8 := if 65 ≤ c ∧ c ≤ 90 then c + 32 else c

/-- Checking a property of every byte of a text byte by byte, not over all 256
values. -/
theorem forall_mem_of_all {p : UInt8 → Prop} [DecidablePred p] {s : Bytes}
    (h : s.all (fun c => decide (p c)) = true) : ∀ c ∈ s, p c := by
  intro c hc
  exact of_decide_eq_true (List.all_eq_true.mp h c hc)

/-- A symbol that does not occur cuts nothing. -/
theorem bne_of_notMem {α : Type} [BEq α] [LawfulBEq α] {c : α} {s : List α} (h : c ∉ s) :
    ∀ d ∈ s, (d != c) = true := by
  intro d hd
  rw [bne_iff_ne]
  rintro rfl
  exact h hd

/-- The text before the first NUL, which is all that an interface taking a
pointer to characters sees of a counted string. -/
def cString (s : Bytes) : Bytes := s.takeWhile (· != 0)

theorem cString_eq_self {s : Bytes} (h : 0 ∉ s) : cString s = s := by
  induction s with
  | nil => rfl
  | cons c s ih =>
      have hc : c ≠ 0 := by
        rintro rfl
        exact h (by simp)
      have hs : 0 ∉ s := fun hmem => h (by simp [hmem])
      have hrest : s.takeWhile (· != 0) = s := ih hs
      rw [cString, List.takeWhile_cons_of_pos (by simpa using hc), hrest]

/-! ### Decimal numerals -/

/-- The decimal numeral of a number, without leading zeros. -/
def decimal (n : ℕ) : Bytes := (Nat.toDigits 10 n).map Char.toUInt8

/-- The number a run of digits denotes. -/
def decimalValue (text : Bytes) : ℕ := text.foldl (fun v c => 10 * v + (c.toNat - 48)) 0

theorem toNat_of_isDigit {c : Char} (h : c.isDigit = true) : c.toUInt8.toNat = c.toNat := by
  have hc : c.toNat ≤ 57 := by
    simp only [Char.isDigit, Bool.and_eq_true, decide_eq_true_eq] at h
    exact UInt32.le_iff_toNat_le.mp h.2
  change c.toNat % 2 ^ 8 = c.toNat
  exact Nat.mod_eq_of_lt (by omega)

theorem isDigit_of_mem_decimal {n : ℕ} {c : UInt8} (h : c ∈ decimal n) : isDigit c = true := by
  obtain ⟨d, hd, rfl⟩ := List.mem_map.mp h
  have hdigit : d.isDigit = true := Nat.isDigit_of_mem_toDigits (by decide) (by decide) hd
  have hval := toNat_of_isDigit hdigit
  simp only [Char.isDigit, Bool.and_eq_true, decide_eq_true_eq] at hdigit
  have hlo : 48 ≤ d.toNat := UInt32.le_iff_toNat_le.mp hdigit.1
  have hhi : d.toNat ≤ 57 := UInt32.le_iff_toNat_le.mp hdigit.2
  simp only [isDigit, Bool.and_eq_true, decide_eq_true_eq, UInt8.le_iff_toNat_le, hval]
  exact ⟨hlo, hhi⟩

theorem decimal_ne_nil (n : ℕ) : decimal n ≠ [] := by
  simp [decimal, Nat.toDigits_ne_nil]

theorem foldl_digits (cs : List Char) (hcs : ∀ c ∈ cs, c.isDigit = true) (v : ℕ) :
    (cs.map Char.toUInt8).foldl (fun v c => 10 * v + (c.toNat - 48)) v =
      Nat.ofDigitChars 10 cs v := by
  induction cs generalizing v with
  | nil => rfl
  | cons c cs ih =>
      have hc := toNat_of_isDigit (hcs c (by simp))
      rw [List.map_cons, List.foldl_cons, ih (fun d hd => hcs d (by simp [hd])), hc,
        Nat.ofDigitChars_cons]
      rfl

@[simp] theorem decimalValue_decimal (n : ℕ) : decimalValue (decimal n) = n := by
  have hdigits : ∀ c ∈ Nat.toDigits 10 n, c.isDigit = true := fun c hc =>
    Nat.isDigit_of_mem_toDigits (by decide) (by decide) hc
  rw [decimalValue, decimal, foldl_digits _ hdigits, Nat.ofDigitChars_ten_toDigits]

theorem decimal_injective : Function.Injective decimal :=
  Function.LeftInverse.injective decimalValue_decimal

/-! ### Digits and white space -/

theorem isSpace_eq_false_of_isDigit {c : UInt8} (h : isDigit c = true) : isSpace c = false := by
  simp only [isDigit, isSpace, Bool.and_eq_true, Bool.or_eq_false_iff, decide_eq_true_eq,
    Bool.and_eq_false_iff, decide_eq_false_iff_not, beq_eq_false_iff_ne, UInt8.le_iff_toNat_le,
    ← UInt8.toNat_inj, ne_eq] at *
  have h9 : (9 : UInt8).toNat = 9 := rfl
  have h13 : (13 : UInt8).toNat = 13 := rfl
  have h32 : (32 : UInt8).toNat = 32 := rfl
  have h48 : (48 : UInt8).toNat = 48 := rfl
  omega

theorem ne_zero_of_isDigit {c : UInt8} (h : isDigit c = true) : c ≠ 0 := by
  rintro rfl
  exact absurd h (by decide)

end Foundation
