import LinearProgramming.Proofs.Tableau.Derivation

/-!
# Entering rays

When a variable grows from zero, the basic variables make room for it so that all
equations stay solved. The direction in which the solution then moves is the ray of the
column. Its costs are the reduced cost of the column, and it stays feasible for ever if no
entry of the column is positive. Seen from another tableau with the same solutions, the
same direction relates the reduced costs of the two.
-/

namespace LinearProgramming.Tableau

variable {F : Type} [Field F] {m n : Nat}

/-- The change of every variable while the variable of a column grows by one: the basic
variable of a row shrinks by the entry of the row. -/
def ray (t : Tableau F m n) (k j : Fin n) : F :=
  (if j = k then 1 else 0) - ∑ i, if t.basic i = j then t.entry i k else 0

theorem sum_mul_ray (t : Tableau F m n) (k : Fin n) (f : Fin n → F) :
    ∑ j, f j * t.ray k j = f k - ∑ i, f (t.basic i) * t.entry i k := by
  have hrows : ∑ j, f j * ∑ i, (if t.basic i = j then t.entry i k else 0) =
      ∑ i, f (t.basic i) * t.entry i k := by
    simp only [Finset.mul_sum]
    rw [Finset.sum_comm]
    refine Finset.sum_congr rfl fun i _ => ?_
    simp
  unfold ray
  simp only [mul_sub]
  rw [Finset.sum_sub_distrib, hrows]
  simp

/-- Along the ray of a column no equation of a canonical tableau changes. -/
theorem sum_entry_ray {t : Tableau F m n} (h : t.IsExactlyCanonical) (k : Fin n)
    (i : Fin m) : ∑ j, t.entry i j * t.ray k j = 0 := by
  rw [sum_mul_ray]
  simp [h _ i]

theorem solves_add_ray {t : Tableau F m n} (h : t.IsExactlyCanonical) {x : Fin n → F}
    (hx : t.Solves x) (k : Fin n) (s : F) : t.Solves fun j => x j + s * t.ray k j := by
  intro i
  calc ∑ j, t.entry i j * (x j + s * t.ray k j)
      = ∑ j, t.entry i j * x j + s * ∑ j, t.entry i j * t.ray k j := by
        rw [Finset.mul_sum, ← Finset.sum_add_distrib]
        exact Finset.sum_congr rfl fun j _ => by ring
    _ = t.value i := by rw [hx i, sum_entry_ray h, mul_zero, add_zero]

variable [LinearOrder F]

theorem sum_cost_ray (t : Tableau F m n) (k : Fin n) :
    ∑ j, t.cost j * t.ray k j = t.reducedCost k := by
  rw [sum_mul_ray, reducedCost_eq]
  rfl

theorem sum_cost_add_ray (t : Tableau F m n) (x : Fin n → F) (k : Fin n) (s : F) :
    ∑ j, t.cost j * (x j + s * t.ray k j) =
      ∑ j, t.cost j * x j + s * t.reducedCost k := by
  rw [← sum_cost_ray, Finset.mul_sum, ← Finset.sum_add_distrib]
  exact Finset.sum_congr rfl fun j _ => by ring

/-- The reduced cost of a column in one tableau, from those of another tableau with the
same solutions: moving along the ray costs the same in both. -/
theorem reducedCost_eq_sub_sum {t t' first : Tableau F m n} (hc : t.IsExactlyCanonical)
    (h : t.DerivesFrom first) (h' : t'.DerivesFrom first) (k : Fin n) :
    t.reducedCost k =
      t'.reducedCost k - ∑ i, t'.reducedCost (t.basic i) * t.entry i k := by
  have hx := solves_solutionAt hc
  have hmove := sum_cost_add_ray t t.solutionAt k 1
  rw [one_mul] at hmove
  simp only [h.cost_eq] at hmove
  rw [h'.sum_cost ((h.solves_iff _).mp hx),
    h'.sum_cost ((h.solves_iff _).mp (solves_add_ray hc hx k 1))] at hmove
  have hsplit : ∑ j, t'.reducedCost j * (t.solutionAt j + 1 * t.ray k j) =
      ∑ j, t'.reducedCost j * t.solutionAt j + ∑ j, t'.reducedCost j * t.ray k j := by
    rw [← Finset.sum_add_distrib]
    exact Finset.sum_congr rfl fun j _ => by ring
  rw [hsplit, sum_mul_ray] at hmove
  linear_combination -hmove

variable [IsStrictOrderedRing F]

/-- Without a positive entry in its column a ray lowers no variable. -/
theorem ray_nonneg {t : Tableau F m n} {k : Fin n} (h : ∀ i, t.entry i k ≤ 0) (j : Fin n) :
    0 ≤ t.ray k j := by
  have hroom : ∑ i, (if t.basic i = j then t.entry i k else 0) ≤ 0 := by
    refine Finset.sum_nonpos fun i _ => ?_
    split
    · exact h i
    · exact le_rfl
  have hself : (0 : F) ≤ if j = k then 1 else 0 := by
    split
    · exact zero_le_one
    · exact le_rfl
  exact sub_nonneg.mpr (hroom.trans hself)

/-- A positive reduced cost makes the objective exceed any bound along the ray. -/
theorem exists_sum_cost_gt (t : Tableau F m n) (x : Fin n → F) {k : Fin n}
    (hk : 0 < t.reducedCost k) (bound : F) :
    ∃ s, 0 ≤ s ∧ bound < ∑ j, t.cost j * (x j + s * t.ray k j) := by
  refine ⟨max 0 ((bound - ∑ j, t.cost j * x j + 1) / t.reducedCost k), le_max_left _ _, ?_⟩
  rw [sum_cost_add_ray]
  have hle := le_max_right 0 ((bound - ∑ j, t.cost j * x j + 1) / t.reducedCost k)
  rw [div_le_iff₀ hk] at hle
  linarith

end LinearProgramming.Tableau
