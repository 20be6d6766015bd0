import LinearProgramming.Number.Binary
import Mathlib.Algebra.Order.Field.Rat
import Mathlib.Algebra.Ring.Parity
import Mathlib.Tactic.Linarith
import Mathlib.Tactic.NormNum
import Mathlib.Tactic.Ring

/-!
# Rounding to an integer

The integer nearest to a number, the even one of two, is described without a division. There is
only one such integer, and the division that rounds halves to even finds it.
-/

namespace LinearProgramming

/-- Whether an integer is nearest to a number, and even if another one is as near. -/
structure IsNearestEven (x : ℚ) (k : ℤ) : Prop where
  near : |x - k| ≤ 1 / 2
  even : |x - k| = 1 / 2 → Even k

namespace IsNearestEven

variable {x : ℚ} {k l : ℤ}

theorem neg (h : IsNearestEven x k) : IsNearestEven (-x) (-k) := by
  have hdist : |-x - ((-k : ℤ) : ℚ)| = |x - k| := by
    rw [Int.cast_neg, ← abs_neg (x - k)]
    congr 1
    ring
  exact ⟨hdist ▸ h.near, fun htie => (h.even (hdist ▸ htie)).neg⟩

theorem of_lt (h : |x - k| < 1 / 2) : IsNearestEven x k :=
  ⟨h.le, fun htie => absurd htie h.ne⟩

theorem le (hk : IsNearestEven x k) (hl : IsNearestEven x l) : k ≤ l := by
  by_contra hlt
  have hstep : (l : ℚ) + 1 ≤ k := by exact_mod_cast Int.add_one_le_of_lt (not_le.mp hlt)
  have hbelow := (abs_le.mp hk.near).1
  have habove := (abs_le.mp hl.near).2
  have hxk : x - k = -(1 / 2) := by linarith
  have hxl : x - l = 1 / 2 := by linarith
  have hkl : k = l + 1 := by
    have : (k : ℚ) = (l + 1 : ℤ) := by push_cast; linarith
    exact_mod_cast this
  have hkeven : Even k := hk.even (by rw [hxk, abs_neg, abs_of_pos (by norm_num)])
  have hleven : Even l := hl.even (by rw [hxl, abs_of_pos (by norm_num)])
  rw [hkl] at hkeven
  exact (Int.even_add_one.mp hkeven) hleven

theorem unique (hk : IsNearestEven x k) (hl : IsNearestEven x l) : k = l :=
  (hk.le hl).antisymm (hl.le hk)

theorem zero_iff : IsNearestEven x 0 ↔ |x| ≤ 1 / 2 := by
  constructor
  · intro h
    simpa using h.near
  · intro h
    exact ⟨by simpa using h, fun _ => Even.zero⟩

end IsNearestEven

/-- The nearest integer to a mixed number, from the size of its fraction. -/
theorem isNearestEven_add_div (quotient : Nat) {rest den : Nat} (hrest : rest < den) :
    IsNearestEven ((quotient : ℚ) + rest / den)
      (if 2 * rest < den then quotient
        else if den < 2 * rest then quotient + 1 else quotient + quotient % 2 : Nat) := by
  have hpos : (0 : ℚ) < den := by exact_mod_cast Nat.zero_lt_of_lt hrest
  have hnonneg : (0 : ℚ) ≤ rest / den := div_nonneg rest.cast_nonneg hpos.le
  have hone : (rest : ℚ) / den < 1 := by
    rw [div_lt_one₀ hpos]
    exact_mod_cast hrest
  split
  case isTrue hlt =>
    have hhalf : (rest : ℚ) / den < 1 / 2 := by
      rw [div_lt_div_iff₀ hpos two_pos]
      exact_mod_cast (by omega : rest * 2 < 1 * den)
    exact .of_lt (abs_lt.mpr ⟨by push_cast; linarith, by push_cast; linarith⟩)
  case isFalse hge =>
    split
    case isTrue hlt =>
      have hhalf : 1 / 2 < (rest : ℚ) / den := by
        rw [div_lt_div_iff₀ two_pos hpos]
        exact_mod_cast (by omega : 1 * den < rest * 2)
      exact .of_lt (abs_lt.mpr ⟨by push_cast; linarith, by push_cast; linarith⟩)
    case isFalse hle =>
      have hhalf : (rest : ℚ) / den = 1 / 2 := by
        rw [div_eq_div_iff hpos.ne' two_ne_zero]
        exact_mod_cast (by omega : rest * 2 = 1 * den)
      have heven : Even ((quotient + quotient % 2 : Nat) : ℤ) := by
        rw [Int.even_coe_nat, Nat.even_iff]
        omega
      refine ⟨?_, fun _ => heven⟩
      rw [hhalf]
      rcases Nat.mod_two_eq_zero_or_one quotient with hmod | hmod
      · rw [hmod]
        norm_num
      · rw [hmod]
        push_cast
        norm_num [abs_le]

/-- The division that rounds halves to even finds the integer nearest to the quotient. -/
theorem isNearestEven_roundHalfEven (num : Nat) {den : Nat} (hden : 0 < den) :
    IsNearestEven ((num : ℚ) / den) (roundHalfEven num den : Nat) := by
  have hpos : (den : ℚ) ≠ 0 := by exact_mod_cast hden.ne'
  have hnum : (num : ℚ) = den * (num / den : Nat) + (num % den : Nat) := by
    exact_mod_cast (Nat.div_add_mod num den).symm
  have hmixed : (num : ℚ) / den = (num / den : Nat) + (num % den : Nat) / den := by
    rw [div_eq_iff hpos, add_mul, div_mul_cancel₀ _ hpos, mul_comm]
    exact hnum
  rw [hmixed]
  exact isNearestEven_add_div (num / den) (Nat.mod_lt num hden)

end LinearProgramming
