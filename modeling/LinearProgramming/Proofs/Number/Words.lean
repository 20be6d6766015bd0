import LinearProgramming.Tableau.Snapshot
import Mathlib.Algebra.Order.Field.Rat
import Mathlib.Order.Monotone.Basic
import Mathlib.Tactic.NormNum
import Mathlib.Tactic.Ring

/-!
# Words and the numbers they stand for

A finite word stands for a rational number. Without its sign that is a natural multiple of one
unit, the last place of the smallest numbers of the format, and larger words stand for larger
multiples. So no number of a format lies between those of two words that follow each other.
-/

namespace LinearProgramming

theorem cast_twoTo (n : Nat) : ((twoTo n : Nat) : ℚ) = 2 ^ n := by
  rw [twoTo, Nat.pow_eq, Nat.cast_pow, Nat.cast_ofNat]

theorem twoTo_zero : twoTo 0 = 1 := rfl

theorem twoTo_succ (n : Nat) : twoTo (n + 1) = 2 * twoTo n := Nat.pow_succ'

theorem twoTo_pos (n : Nat) : 0 < twoTo n := Nat.pow_pos two_pos

namespace Binary

/-- The size of a finite number, which has no sign. -/
def size (significand : Nat) (exponent : Int) : ℚ := significand * 2 ^ exponent

/-- The number itself, if it is finite. -/
def value? : Binary → Option ℚ
  | nan => none
  | infinite _ => none
  | finite negative significand exponent =>
    some (if negative then -size significand exponent else size significand exponent)

theorem size_nonneg (significand : Nat) (exponent : Int) : 0 ≤ size significand exponent :=
  mul_nonneg significand.cast_nonneg (zpow_nonneg two_pos.le exponent)

theorem abs_signed_size (negative : Bool) (significand : Nat) (exponent : Int) :
    |if negative then -size significand exponent else size significand exponent| =
      size significand exponent := by
  split
  · rw [abs_neg, abs_of_nonneg (size_nonneg significand exponent)]
  · exact abs_of_nonneg (size_nonneg significand exponent)

theorem exists_finite_of_value? {b : Binary} {v : ℚ} (h : b.value? = some v) :
    ∃ negative significand exponent, b = .finite negative significand exponent ∧
      v = if negative then -size significand exponent else size significand exponent := by
  cases b with
  | nan => cases h
  | infinite => cases h
  | finite negative significand exponent =>
    exact ⟨negative, significand, exponent, rfl, (Option.some.inj h).symm⟩

theorem quotient_den_pos (significand : Nat) (exponent : Int) :
    0 < (quotient significand exponent).2 := by
  unfold quotient
  split
  · exact one_pos
  · exact twoTo_pos _

theorem quotient_div (significand : Nat) (exponent : Int) :
    ((quotient significand exponent).1 : ℚ) / (quotient significand exponent).2 =
      size significand exponent := by
  unfold quotient size
  split
  case isTrue h =>
    obtain ⟨n, rfl⟩ := Int.eq_ofNat_of_zero_le h
    simp [cast_twoTo]
  case isFalse h =>
    obtain ⟨n, hn⟩ := Int.eq_ofNat_of_zero_le (by omega : 0 ≤ -exponent)
    obtain rfl : exponent = -n := by omega
    simp [cast_twoTo, div_eq_mul_inv]

/-- The comparison of fractions compares sizes, whatever the signs are. -/
theorem isSmaller_finite_iff {negative negative' : Bool} {m m' : Nat} {e e' : Int} :
    (finite negative m e).isSmaller (finite negative' m' e') = true ↔ size m e < size m' e' := by
  have hpos : (0 : ℚ) < (quotient m e).2 := by exact_mod_cast quotient_den_pos m e
  have hpos' : (0 : ℚ) < (quotient m' e').2 := by exact_mod_cast quotient_den_pos m' e'
  rw [← quotient_div, ← quotient_div, div_lt_div_iff₀ hpos hpos']
  unfold isSmaller
  dsimp only
  rw [decide_eq_true_iff]
  norm_cast

end Binary

/-- A number has a value if it is finite. -/
theorem Floating.exists_value?_of_isFinite {F : Type} [Floating F] {x : F}
    (h : isFinite x = true) : ∃ v, (toBinary x).value? = some v := by
  unfold isFinite at h
  split at h
  case h_1 hx => exact ⟨_, congrArg Binary.value? hx⟩
  case h_2 => cases h

namespace BinaryFormat

/-- The number of a word without a sign, counted in the last place of the smallest numbers. -/
def units (f : BinaryFormat) (word : Nat) : Nat :=
  if word / f.leadingBit = 0 then word % f.leadingBit
  else (f.leadingBit + word % f.leadingBit) * twoTo (word / f.leadingBit - 1)

theorem leadingBit_pos (f : BinaryFormat) : 0 < f.leadingBit := twoTo_pos _

/-- The fields of a word determine its number. -/
theorem units_fields (f : BinaryFormat) (field : Nat) {fraction : Nat}
    (h : fraction < f.leadingBit) :
    f.units (fraction + field * f.leadingBit) =
      if field = 0 then fraction else (f.leadingBit + fraction) * twoTo (field - 1) := by
  unfold units
  rw [Nat.add_mul_div_right _ _ f.leadingBit_pos, Nat.div_eq_of_lt h, Nat.zero_add,
    Nat.add_mul_mod_self_right, Nat.mod_eq_of_lt h]

/-- A step to the next word is a step to a larger number. Where the fraction is full, the
exponent takes it over. -/
theorem units_lt_succ (f : BinaryFormat) (word : Nat) : f.units word < f.units (word + 1) := by
  obtain ⟨field, fraction, hfraction, rfl⟩ :
      ∃ field fraction, fraction < f.leadingBit ∧ word = fraction + field * f.leadingBit :=
    ⟨word / f.leadingBit, word % f.leadingBit, Nat.mod_lt word f.leadingBit_pos,
      (Nat.mod_add_div' word f.leadingBit).symm⟩
  rw [units_fields f field hfraction]
  by_cases hnext : fraction + 1 < f.leadingBit
  · rw [Nat.add_right_comm, units_fields f field hnext]
    split
    · exact Nat.lt_succ_self fraction
    · exact Nat.mul_lt_mul_of_pos_right (by omega) (twoTo_pos _)
  · have hfull : f.leadingBit = fraction + 1 := by omega
    have hcarry : fraction + field * f.leadingBit + 1 = 0 + (field + 1) * f.leadingBit := by
      rw [Nat.succ_mul]
      omega
    rw [hcarry, units_fields f (field + 1) f.leadingBit_pos, if_neg field.succ_ne_zero,
      Nat.add_sub_cancel, Nat.add_zero]
    split
    case isTrue hzero =>
      rw [hzero, twoTo_zero]
      omega
    case isFalse hfield =>
      obtain ⟨k, rfl⟩ := Nat.exists_eq_succ_of_ne_zero hfield
      rw [Nat.succ_eq_add_one, Nat.add_sub_cancel, twoTo_succ, ← Nat.mul_assoc]
      exact Nat.mul_lt_mul_of_pos_right (by omega) (twoTo_pos k)

/-- The number of a word without a sign. -/
def sizeAt (f : BinaryFormat) (word : Nat) : ℚ := f.units word * 2 ^ f.leastExponent

theorem strictMono_sizeAt (f : BinaryFormat) : StrictMono f.sizeAt := by
  intro word word' h
  have hunits : f.units word < f.units word' := strictMono_nat_of_lt_succ f.units_lt_succ h
  exact mul_lt_mul_of_pos_right (by exact_mod_cast hunits) (zpow_pos two_pos _)

/-- The size of a number is given by its word without the sign. -/
theorem size_of_decode {f : BinaryFormat} {word : Nat} {negative : Bool} {m : Nat} {e : Int}
    (h : f.decode word = .finite negative m e) :
    Binary.size m e = f.sizeAt (word % f.signWord) := by
  unfold decode at h
  dsimp only at h
  split at h
  · cases h
  · split at h
    · cases h
    · unfold sizeAt units Binary.size
      split at h
      case isTrue hzero =>
        cases h
        rw [if_pos hzero]
      case isFalse hfield =>
        cases h
        rw [if_neg hfield]
        obtain ⟨k, hk⟩ := Nat.exists_eq_succ_of_ne_zero hfield
        have hexponent : ((k.succ : Nat) : Int) - 1 = (k : Int) := by omega
        rw [hk, hexponent, Nat.succ_eq_add_one, Nat.add_sub_cancel, Nat.cast_mul, cast_twoTo,
          zpow_add₀ two_ne_zero, zpow_natCast]
        ring

end BinaryFormat

end LinearProgramming
