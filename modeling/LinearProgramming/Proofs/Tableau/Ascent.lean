import LinearProgramming.Proofs.Tableau.Canonical
import LinearProgramming.Proofs.Tableau.Selection

/-!
# Feasible values and the growth of the objective

A pivot on a row whose limit is least leaves no value negative. Whatever the row, it adds
to the objective the product of the reduced cost of the column and the limit of the row.
A pivot is degenerate if its row has the value zero: then the values stay, and in a
canonical tableau the solution does.
-/

namespace LinearProgramming.Tableau

variable {F : Type} [Field F] [LinearOrder F] {m n : Nat}

/-- Whether no value is negative. -/
def IsFeasible (t : Tableau F m n) : Prop := ∀ i, 0 ≤ t.value i

/-- How a sum over the basic costs changes when a column of numbers is eliminated like
those of the tableau. The reduced cost of the entering column is what it gains for every
unit of the new entry in the pivot row. -/
theorem sum_basicCost_pivot (t : Tableau F m n) {r : Fin m} {k : Fin n}
    (hp : t.entry r k ≠ 0) {v v' : Fin m → F} (hself : v' r = v r / t.entry r k)
    (hne : ∀ i, i ≠ r → v' i = v i - t.entry i k * v' r) :
    ∑ i, (t.pivot r k).basicCost i * v' i =
      ∑ i, t.basicCost i * v i + t.reducedCost k * v' r := by
  have hterm (i : Fin m) : (t.pivot r k).basicCost i * v' i =
      t.basicCost i * v i - t.basicCost i * t.entry i k * v' r +
        if i = r then t.cost k * v' r else 0 := by
    unfold basicCost
    rw [cost_pivot]
    by_cases hi : i = r
    · subst hi
      rw [basic_pivot_self, if_pos rfl, hself]
      field_simp
      ring
    · rw [basic_pivot_of_ne t hi, if_neg hi, hne i hi]
      ring
  calc ∑ i, (t.pivot r k).basicCost i * v' i
      = ∑ i, t.basicCost i * v i - (∑ i, t.basicCost i * t.entry i k) * v' r +
          t.cost k * v' r := by
        rw [Finset.sum_congr rfl fun i _ => hterm i, Finset.sum_add_distrib,
          Finset.sum_sub_distrib, Finset.sum_mul, Finset.sum_ite_eq' Finset.univ r]
        simp
    _ = ∑ i, t.basicCost i * v i + t.reducedCost k * v' r := by
        rw [reducedCost_eq]
        ring

theorem objectiveValue_pivot (t : Tableau F m n) {r : Fin m} {k : Fin n}
    (hp : t.entry r k ≠ 0) :
    (t.pivot r k).objectiveValue =
      t.objectiveValue + t.reducedCost k * (t.value r / t.entry r k) := by
  rw [objectiveValue_eq, objectiveValue_eq, sum_basicCost_pivot t hp (value_pivot_self t r k)
    fun i hi => value_pivot_of_ne_eq_sub t hp hi, value_pivot_self]

/-- What a pivot adds to the objective: the reduced cost of its column, for every unit up to
the limit of its row. -/
def gain (t : Tableau F m n) (r : Fin m) (k : Fin n) : F :=
  t.reducedCost k * t.value r / t.entry r k

theorem objectiveValue_pivot_eq_add_gain (t : Tableau F m n) {r : Fin m} {k : Fin n}
    (hp : t.entry r k ≠ 0) : (t.pivot r k).objectiveValue = t.objectiveValue + t.gain r k := by
  unfold gain
  rw [objectiveValue_pivot t hp, mul_div_assoc]

theorem solutionAt_nonneg {t : Tableau F m n} (h : t.IsFeasible)
    (hc : t.IsExactlyCanonical) (j : Fin n) : 0 ≤ t.solutionAt j := by
  by_cases hj : ∃ i, t.basic i = j
  · obtain ⟨i, rfl⟩ := hj
    rw [solutionAt_basic (basic_injective hc)]
    exact h i
  · exact (t.vanishesOffBasis_solutionAt j fun i he => hj ⟨i, he⟩).ge

/-- A degenerate pivot does not move the solution of a canonical tableau. -/
theorem solutionAt_pivot_of_value_eq_zero {t : Tableau F m n} (hc : t.IsExactlyCanonical)
    {r : Fin m} {k : Fin n} (hp : t.entry r k ≠ 0) (hzero : t.value r = 0) :
    (t.pivot r k).solutionAt = t.solutionAt := by
  symm
  refine eq_solutionAt (hc.pivot hp) ((solves_pivot_iff t hp _).mpr (solves_solutionAt hc)) ?_
  intro j hj
  by_cases hr : t.basic r = j
  · rw [← hr, solutionAt_basic (basic_injective hc), hzero]
  · refine t.vanishesOffBasis_solutionAt j fun i hi => ?_
    by_cases hir : i = r
    · exact hr (hir ▸ hi)
    · exact hj i ((basic_pivot_of_ne t hir k).trans hi)

variable [IsStrictOrderedRing F]

/-- A pivot on a positive entry leaves no value negative if no other positive entry of the
column limits it more. -/
theorem IsFeasible.pivot_of_least {t : Tableau F m n} (h : t.IsFeasible) {r : Fin m} {k : Fin n}
    (hp : 0 < t.entry r k)
    (hleast : ∀ i, 0 < t.entry i k → t.value r / t.entry r k ≤ t.value i / t.entry i k) :
    (t.pivot r k).IsFeasible := by
  have hlimit : 0 ≤ t.value r / t.entry r k := div_nonneg (h r) hp.le
  intro i
  by_cases hi : i = r
  · rw [hi, value_pivot_self]
    exact hlimit
  · rw [value_pivot_of_ne_eq_sub t hp.ne' hi, value_pivot_self, sub_nonneg]
    rcases le_or_gt (t.entry i k) 0 with hneg | hpos
    · exact (mul_nonpos_of_nonpos_of_nonneg hneg hlimit).trans (h i)
    · have hle := hleast i hpos
      rwa [le_div_iff₀ hpos, mul_comm] at hle

theorem IsFeasible.pivot {t : Tableau F m n} (h : t.IsFeasible) (hε : t.epsilon = 0)
    {r : Fin m} {k : Fin n} (hl : t.IsLeastLimit r k) : (t.pivot r k).IsFeasible :=
  h.pivot_of_least (hε ▸ hl.limits) fun i hi => hl.least i (hε ▸ hi)

theorem gain_nonneg {t : Tableau F m n} (h : t.IsFeasible) {r : Fin m} {k : Fin n}
    (hk : 0 < t.reducedCost k) (hp : 0 < t.entry r k) : 0 ≤ t.gain r k :=
  div_nonneg (mul_nonneg hk.le (h r)) hp.le

theorem gain_pos_iff {t : Tableau F m n} {r : Fin m} {k : Fin n}
    (hk : 0 < t.reducedCost k) (hp : 0 < t.entry r k) : 0 < t.gain r k ↔ 0 < t.value r := by
  unfold gain
  rw [div_pos_iff_of_pos_right hp, mul_pos_iff_of_pos_left hk]

end LinearProgramming.Tableau
