import Mathlib.Algebra.Group.Nat.Defs

/-!
Prefix masks of fixed-width words.

A mask of `w` bits whose `k` low bits are clear splits a word into the block it
lies in and its place in the block: `x &&& mask` is the first word of the block
of `x`, and `x &&& mask ||| ~~~mask` the last.
-/

namespace Foundation

variable {w : ℕ}

/-- The mask that keeps all but the `k` low bits. -/
def blockMask (w k : ℕ) : BitVec w := BitVec.allOnes w <<< k

theorem getLsbD_blockMask (k i : ℕ) :
    (blockMask w k).getLsbD i = (decide (i < w) && decide (k ≤ i)) := by
  rw [blockMask, BitVec.getLsbD_shiftLeft, BitVec.getLsbD_allOnes]
  by_cases hk : i < k
  · have hle : ¬k ≤ i := by omega
    simp [hk, hle]
  · have hle : k ≤ i := by omega
    by_cases hi : i < w
    · have hlt : i - k < w := by omega
      simp [hi, hk, hle, hlt]
    · simp [hi]

/-- The first word of the block of `x`. -/
theorem toNat_and_blockMask (x : BitVec w) (k : ℕ) :
    (x &&& blockMask w k).toNat = x.toNat / 2 ^ k * 2 ^ k := by
  have hshift : x &&& blockMask w k = (x >>> k) <<< k := by
    apply BitVec.eq_of_getLsbD_eq
    intro i hi
    rw [BitVec.getLsbD_and, getLsbD_blockMask, BitVec.getLsbD_shiftLeft, BitVec.getLsbD_ushiftRight]
    by_cases hk : i < k
    · have hle : ¬k ≤ i := by omega
      simp [hk, hle]
    · have hle : k ≤ i := by omega
      have hback : k + (i - k) = i := by omega
      simp [hi, hk, hle, hback]
  have hlt : x.toNat / 2 ^ k * 2 ^ k < 2 ^ w :=
    Nat.lt_of_le_of_lt (Nat.div_mul_le_self _ _) x.isLt
  rw [hshift, BitVec.toNat_shiftLeft, BitVec.toNat_ushiftRight, Nat.shiftRight_eq_div_pow,
    Nat.shiftLeft_eq, Nat.mod_eq_of_lt hlt]

theorem toNat_not_blockMask {k : ℕ} (hk : k ≤ w) : (~~~blockMask w k).toNat = 2 ^ k - 1 := by
  have hlow : ~~~blockMask w k = BitVec.ofNat w (2 ^ k - 1) := by
    apply BitVec.eq_of_getLsbD_eq
    intro i hi
    rw [BitVec.getLsbD_not, getLsbD_blockMask, BitVec.getLsbD_ofNat, Nat.testBit_two_pow_sub_one]
    by_cases hik : i < k
    · have hle : ¬k ≤ i := by omega
      simp [hi, hik, hle]
    · have hle : k ≤ i := by omega
      simp [hi, hik, hle]
  have hpow : 2 ^ k ≤ 2 ^ w := Nat.pow_le_pow_right (by omega) hk
  have hpos : 0 < 2 ^ k := Nat.two_pow_pos k
  rw [hlow, BitVec.toNat_ofNat, Nat.mod_eq_of_lt (by omega)]

/-- The last word of the block of `x`. -/
theorem toNat_or_not_blockMask (x : BitVec w) {k : ℕ} (hk : k ≤ w) :
    (x &&& blockMask w k ||| ~~~blockMask w k).toNat =
      x.toNat / 2 ^ k * 2 ^ k + (2 ^ k - 1) := by
  have hlow : 2 ^ k - 1 < 2 ^ k := Nat.sub_lt (Nat.two_pow_pos k) Nat.zero_lt_one
  rw [BitVec.toNat_or, toNat_and_blockMask, toNat_not_blockMask hk, Nat.mul_comm,
    Nat.two_pow_add_eq_or_of_lt hlow]

/-! ### Counting the leading ones of a mask -/

/-- The number of set bits of `mask` from bit `i - 1` down to the first clear
one. -/
def leadingOnes (mask : BitVec w) : ℕ → ℕ
  | 0 => 0
  | i + 1 => if mask.getLsbD i then leadingOnes mask i + 1 else 0

theorem leadingOnes_blockMask (k : ℕ) : ∀ i, i ≤ w → leadingOnes (blockMask w k) i = i - k
  | 0, _ => by simp [leadingOnes]
  | i + 1, hi => by
      have hlt : i < w := by omega
      have ih := leadingOnes_blockMask k i (by omega)
      rw [leadingOnes, getLsbD_blockMask, ih]
      by_cases hk : k ≤ i
      · simp only [hlt, hk, decide_true, Bool.and_self, if_true]
        omega
      · simp only [hk, decide_false, Bool.and_false, Bool.false_eq_true, if_false]
        omega

/-! ### Masks with holes

For any mask the block of `x` ends where the bits that the mask clears are all
set. The leading ones of the mask say how many of those there can be. -/

/-- The last word of the block of `x`, for any mask. -/
theorem toNat_or_not (x mask : BitVec w) :
    (x &&& mask ||| ~~~mask).toNat = (x &&& mask).toNat + (~~~mask).toNat := by
  have hdisjoint : x &&& mask &&& ~~~mask = 0#w := by
    rw [BitVec.and_assoc, BitVec.and_not_self]
    exact BitVec.and_zero
  rw [← BitVec.add_eq_or_of_and_eq_zero _ _ hdisjoint, BitVec.toNat_add_of_and_eq_zero hdisjoint]

theorem getLsbD_of_leadingOnes (mask : BitVec w) {i j : ℕ} (hj : j < i)
    (hle : i ≤ j + leadingOnes mask i) : mask.getLsbD j = true := by
  induction i with
  | zero => omega
  | succ i ih =>
      rw [leadingOnes] at hle
      by_cases hbit : mask.getLsbD i = true
      · rw [if_pos hbit] at hle
        obtain rfl | hlt := Nat.eq_or_lt_of_le (Nat.le_of_lt_succ hj)
        · exact hbit
        · exact ih hlt (by omega)
      · rw [if_neg hbit] at hle
        omega

/-- The bit where the leading ones stop is clear. -/
theorem getLsbD_end_of_leadingOnes (mask : BitVec w) {i : ℕ} (h : leadingOnes mask i < i) :
    mask.getLsbD (i - 1 - leadingOnes mask i) = false := by
  induction i with
  | zero => omega
  | succ i ih =>
      rw [leadingOnes] at h ⊢
      by_cases hbit : mask.getLsbD i = true
      · rw [if_pos hbit] at h ⊢
        have hrest := ih (by omega)
        rwa [show i + 1 - 1 - (leadingOnes mask i + 1) = i - 1 - leadingOnes mask i by omega]
      · rw [if_neg hbit]
        simpa using hbit

theorem leadingOnes_le (mask : BitVec w) (i : ℕ) : leadingOnes mask i ≤ i := by
  induction i with
  | zero => exact Nat.le_refl 0
  | succ i ih =>
      rw [leadingOnes]
      split <;> omega

/-- A mask clears none of its leading ones. -/
theorem toNat_not_lt (mask : BitVec w) : (~~~mask).toNat < 2 ^ (w - leadingOnes mask w) := by
  apply Nat.lt_pow_two_of_testBit
  intro i hi
  show (~~~mask).getLsbD i = false
  rw [BitVec.getLsbD_not]
  by_cases hlt : i < w
  · have hset : mask.getLsbD i = true := getLsbD_of_leadingOnes mask hlt (by omega)
    simp [hset]
  · simp [hlt]

/-- A mask clears the bit where its leading ones stop. -/
theorem le_toNat_not (mask : BitVec w) (h : leadingOnes mask w < w) :
    2 ^ (w - 1 - leadingOnes mask w) ≤ (~~~mask).toNat := by
  apply Nat.ge_two_pow_of_testBit
  show (~~~mask).getLsbD _ = true
  rw [BitVec.getLsbD_not, getLsbD_end_of_leadingOnes mask h]
  simp only [Bool.not_false, Bool.and_true, decide_eq_true_eq]
  omega

end Foundation
