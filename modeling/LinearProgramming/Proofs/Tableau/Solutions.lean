import LinearProgramming.Proofs.ExactArithmetic
import LinearProgramming.Tableau.Pivot

/-!
# The solutions of the equations

A pivot replaces the equations of a tableau by others with the same solutions, as long
as the pivot element is not zero. What an equation lacks at a point, its residual, is
transformed like its entries, and the residual of the pivot row can be recovered from
its quotient by the pivot element. On the solutions the objective is known from the
current value and the reduced costs alone, whichever variables are basic.
-/

namespace LinearProgramming.Tableau

variable {F : Type} [Field F] {m n : Nat}

/-- How far the left side of an equation is from its value at a point. -/
def residual (t : Tableau F m n) (x : Fin n → F) (i : Fin m) : F :=
  ∑ j, t.entry i j * x j - t.value i

/-- Whether a point solves every equation. -/
def Solves (t : Tableau F m n) (x : Fin n → F) : Prop :=
  ∀ i, ∑ j, t.entry i j * x j = t.value i

theorem solves_iff_residual (t : Tableau F m n) (x : Fin n → F) :
    t.Solves x ↔ ∀ i, t.residual x i = 0 := by
  simp only [Solves, residual, sub_eq_zero]

variable [LinearOrder F]

/-- The other rows lose the multiple of the new pivot row that clears the column. -/
theorem entry_pivot_of_ne_eq_sub (t : Tableau F m n) {r i : Fin m} {k : Fin n}
    (hp : t.entry r k ≠ 0) (h : i ≠ r) (j : Fin n) :
    (t.pivot r k).entry i j = t.entry i j - t.entry i k * (t.pivot r k).entry r j := by
  rw [entry_pivot_of_ne t h, entry_pivot_self]
  field_simp

theorem value_pivot_of_ne_eq_sub (t : Tableau F m n) {r i : Fin m} {k : Fin n}
    (hp : t.entry r k ≠ 0) (h : i ≠ r) :
    (t.pivot r k).value i = t.value i - t.entry i k * (t.pivot r k).value r := by
  rw [value_pivot_of_ne t h, value_pivot_self]
  field_simp

theorem residual_pivot_self (t : Tableau F m n) (r : Fin m) (k : Fin n) (x : Fin n → F) :
    (t.pivot r k).residual x r = t.residual x r / t.entry r k := by
  unfold residual
  rw [value_pivot_self, sub_div, Finset.sum_div]
  congr 1
  refine Finset.sum_congr rfl fun j _ => ?_
  rw [entry_pivot_self, div_mul_eq_mul_div]

theorem residual_pivot_of_ne (t : Tableau F m n) {r i : Fin m} {k : Fin n}
    (hp : t.entry r k ≠ 0) (h : i ≠ r) (x : Fin n → F) :
    (t.pivot r k).residual x i =
      t.residual x i - t.entry i k * (t.pivot r k).residual x r := by
  have hsum : ∑ j, (t.pivot r k).entry i j * x j =
      ∑ j, t.entry i j * x j - t.entry i k * ∑ j, (t.pivot r k).entry r j * x j := by
    rw [Finset.mul_sum, ← Finset.sum_sub_distrib]
    refine Finset.sum_congr rfl fun j _ => ?_
    rw [entry_pivot_of_ne_eq_sub t hp h]
    ring
  unfold residual
  rw [hsum, value_pivot_of_ne_eq_sub t hp h]
  ring

/-- A pivot keeps the solutions. Nothing is asked of the basis, or of the sign of the
pivot element. -/
theorem solves_pivot_iff (t : Tableau F m n) {r : Fin m} {k : Fin n}
    (hp : t.entry r k ≠ 0) (x : Fin n → F) : (t.pivot r k).Solves x ↔ t.Solves x := by
  rw [solves_iff_residual, solves_iff_residual]
  constructor
  · intro h i
    have hr : t.residual x r = 0 := by
      have hq := h r
      rw [residual_pivot_self, div_eq_zero_iff] at hq
      exact hq.resolve_right hp
    by_cases hi : i = r
    · rw [hi, hr]
    · have hq := h i
      rw [residual_pivot_of_ne t hp hi, h r, mul_zero, sub_zero] at hq
      exact hq
  · intro h i
    have hr : (t.pivot r k).residual x r = 0 := by rw [residual_pivot_self, h r, zero_div]
    by_cases hi : i = r
    · rw [hi, hr]
    · rw [residual_pivot_of_ne t hp hi, hr, h i, mul_zero, sub_zero]

theorem reducedCost_eq (t : Tableau F m n) (j : Fin n) :
    t.reducedCost j = t.cost j - ∑ i, t.basicCost i * t.entry i j := by
  rw [reducedCost, total_eq_sum]

theorem objectiveValue_eq (t : Tableau F m n) :
    t.objectiveValue = ∑ i, t.basicCost i * t.value i := by
  rw [objectiveValue, total_eq_sum]

/-- The costs of a solution are the objective of the tableau and what the reduced costs
add to it. The basis may be any choice of variables. -/
theorem sum_cost_of_solves (t : Tableau F m n) {x : Fin n → F} (hx : t.Solves x) :
    ∑ j, t.cost j * x j = t.objectiveValue + ∑ j, t.reducedCost j * x j := by
  have hrows : ∑ j, (∑ i, t.basicCost i * t.entry i j) * x j = t.objectiveValue := by
    calc ∑ j, (∑ i, t.basicCost i * t.entry i j) * x j
        = ∑ j, ∑ i, t.basicCost i * (t.entry i j * x j) := by
          refine Finset.sum_congr rfl fun j _ => ?_
          rw [Finset.sum_mul]
          exact Finset.sum_congr rfl fun i _ => mul_assoc _ _ _
      _ = ∑ i, t.basicCost i * ∑ j, t.entry i j * x j := by
          rw [Finset.sum_comm]
          exact Finset.sum_congr rfl fun i _ => (Finset.mul_sum _ _ _).symm
      _ = t.objectiveValue := by
          rw [objectiveValue_eq]
          exact Finset.sum_congr rfl fun i _ => by rw [hx i]
  have hcosts : ∑ j, t.reducedCost j * x j =
      ∑ j, t.cost j * x j - ∑ j, (∑ i, t.basicCost i * t.entry i j) * x j := by
    rw [← Finset.sum_sub_distrib]
    exact Finset.sum_congr rfl fun j _ => by rw [reducedCost_eq, sub_mul]
  rw [hcosts, hrows]
  ring

end LinearProgramming.Tableau
