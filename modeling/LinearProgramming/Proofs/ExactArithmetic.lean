import LinearProgramming.Number.Scalar
import Mathlib.Algebra.BigOperators.Field
import Mathlib.Algebra.BigOperators.Fin
import Mathlib.Algebra.Order.BigOperators.Group.Finset
import Mathlib.Algebra.Order.Field.Basic
import Mathlib.Tactic.FieldSimp
import Mathlib.Tactic.Linarith
import Mathlib.Tactic.LinearCombination
import Mathlib.Tactic.Ring

/-!
# Exact arithmetic

The definitions of this library ask for numbers without laws. Here the numbers are an
ordered field, so nothing is rounded: sums from left to right are ordinary finite sums,
and the distance from zero is the absolute value. All statements about optima and runs
that depend on the laws of arithmetic are made for such numbers.
-/

namespace LinearProgramming

attribute [instance (50)] Scalar.toZero Scalar.toOne Scalar.toAdd Scalar.toSub Scalar.toNeg
  Scalar.toMul Scalar.toDiv Scalar.toLT Scalar.toLE Scalar.toDecidableLT Scalar.toDecidableLE

/-- The numbers of an ordered field can be calculated with and compared. Where both are there,
the operations are found through the field. -/
instance (priority := low) Scalar.ofField (F : Type) [Field F] [LinearOrder F] : Scalar F where

variable {F : Type} [Field F] [LinearOrder F]

theorem total_eq_sum {n : Nat} (f : Fin n → F) : total f = ∑ i, f i := by
  induction n with
  | zero => rfl
  | succ n ih => rw [total_succ, ih, Fin.sum_univ_castSucc]

theorem magnitude_eq_abs [IsStrictOrderedRing F] (x : F) : magnitude x = |x| := by
  unfold magnitude
  split
  · rw [abs_of_neg ‹_›]
  · rw [abs_of_nonneg (not_lt.mp ‹_›)]

theorem innerProduct_eq_sum_zipWith (xs ys : List F) :
    innerProduct xs ys = (List.zipWith (· * ·) xs ys).sum := by
  unfold innerProduct
  rw [List.sum_eq_foldl]

@[simp] theorem innerProduct_nil_left (ys : List F) : innerProduct [] ys = 0 := rfl

@[simp] theorem innerProduct_nil_right (xs : List F) : innerProduct xs [] = 0 := by
  simp [innerProduct_eq_sum_zipWith]

@[simp] theorem innerProduct_cons (x y : F) (xs ys : List F) :
    innerProduct (x :: xs) (y :: ys) = x * y + innerProduct xs ys := by
  simp [innerProduct_eq_sum_zipWith]

theorem innerProduct_append {xs us : List F} (h : xs.length = us.length) (ys vs : List F) :
    innerProduct (xs ++ ys) (us ++ vs) = innerProduct xs us + innerProduct ys vs := by
  rw [innerProduct_eq_sum_zipWith, List.zipWith_append h, List.sum_append,
    ← innerProduct_eq_sum_zipWith, ← innerProduct_eq_sum_zipWith]

theorem innerProduct_map_neg (xs ys : List F) :
    innerProduct (xs.map (- ·)) ys = -innerProduct xs ys := by
  induction xs generalizing ys with
  | nil => simp
  | cons x xs ih =>
    cases ys with
    | nil => simp
    | cons y ys =>
      rw [List.map_cons, innerProduct_cons, innerProduct_cons, ih]
      ring

theorem innerProduct_replicate_zero (k : Nat) (ys : List F) :
    innerProduct (List.replicate k 0) ys = 0 := by
  induction k generalizing ys with
  | zero => rfl
  | succ k ih =>
    cases ys with
    | nil => simp
    | cons y ys => simp [List.replicate_succ, ih]

theorem innerProduct_comm (xs ys : List F) : innerProduct xs ys = innerProduct ys xs := by
  rw [innerProduct_eq_sum_zipWith, innerProduct_eq_sum_zipWith,
    List.zipWith_comm_of_comm fun x y => mul_comm x y]

/-- A row that is zero except for one place picks the entry at that place. -/
theorem innerProduct_set_replicate_zero {k place : Nat} (coefficient : F) {ys : List F}
    (hlength : ys.length = k) (hplace : place < ys.length) :
    innerProduct ((List.replicate k 0).set place coefficient) ys = coefficient * ys[place] := by
  induction ys generalizing k place with
  | nil => simp at hplace
  | cons y ys ih =>
    cases k with
    | zero => simp at hlength
    | succ k =>
      rw [List.replicate_succ]
      cases place with
      | zero => simp [innerProduct_replicate_zero]
      | succ place =>
        have hk : ys.length = k := by simpa using hlength
        have hp : place < ys.length := by simpa using hplace
        simp [ih hk hp]

theorem innerProduct_ofFn {n : Nat} {xs : List F} (h : xs.length = n) (y : Fin n → F) :
    innerProduct xs (List.ofFn y) = ∑ j : Fin n, xs[j] * y j := by
  induction n generalizing xs with
  | zero => simp
  | succ n ih =>
    cases xs with
    | nil => simp at h
    | cons x xs =>
      have hn : xs.length = n := by simpa using h
      rw [List.ofFn_succ, innerProduct_cons, Fin.sum_univ_succ, ih hn]
      rfl

end LinearProgramming
