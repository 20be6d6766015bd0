import LinearProgramming.Proofs.Problem.Extremes
import LinearProgramming.Proofs.Problem.FixedPoints
import LinearProgramming.Proofs.Tableau.Ascent
import LinearProgramming.Proofs.Tableau.Ray

/-!
# What a tableau proves about its problem

The problem consists of equations, and a tableau comes from its first one by pivots. If the
tableau is canonical and feasible, its solution satisfies the problem and costs what the
objective says. If no reduced cost is positive, no point that satisfies the problem costs
more, so the solution is an optimum. If a profitable column has no positive entry, the
problem is unbounded along the ray of the column.
-/

namespace LinearProgramming

namespace LinearProgram

variable {F : Type} [Field F] [LinearOrder F]

/-- Whether all constraints are equations. -/
def IsEquational (q : LinearProgram F) : Prop := ∀ c ∈ q.constraints, c.relation = .equal

theorem exists_ofFn {q : LinearProgram F} {z : List F} (hz : q.Satisfied z 0) :
    ∃ y : Fin q.dimension → F, z = List.ofFn y := by
  obtain ⟨hlength, -⟩ := hz
  refine ⟨fun j => z[j], ?_⟩
  refine List.ext_getElem (by simp [hlength]) fun j _ _ => ?_
  simp

variable [IsStrictOrderedRing F]

theorem isEquational_standardForm (p : LinearProgram F) : p.standardForm.IsEquational :=
  fun c hc => (p.isStandard_standardForm.2 c hc).1

/-- The points of a problem of equations are the solutions without a negative entry. -/
theorem satisfied_ofFn_iff {q : LinearProgram F} (hq : q.IsEquational)
    (z : Fin q.dimension → F) :
    q.Satisfied (List.ofFn z) 0 ↔ q.SolvesEquations z ∧ ∀ j, 0 ≤ z j := by
  have hholds : (∀ c ∈ q.constraints, c.Holds (List.ofFn z) 0) ↔ q.SolvesEquations z := by
    refine forall₂_congr fun c hc => ?_
    unfold Constraint.Holds
    rw [hq c hc]
    dsimp only
    rw [magnitude_eq_abs, abs_nonpos_iff, sub_eq_zero]
  rw [satisfied_zero_iff, hholds, List.forall_mem_ofFn_iff]
  simp only [List.length_ofFn, true_and]
  exact and_comm

end LinearProgram

namespace LinearProgram.IsFirstTableau

variable {F : Type} [Field F] [LinearOrder F] {q : LinearProgram F} {start : BasicSolution F}
  {epsilon : F} {first t : Tableau F q.constraints.length q.dimension}

theorem isFeasible (h : q.IsFirstTableau start epsilon first)
    (hbound : ∀ c ∈ q.constraints, 0 ≤ c.bound) : first.IsFeasible := by
  intro i
  rw [h.value_eq]
  exact hbound _ (List.getElem_mem i.isLt)

variable [IsStrictOrderedRing F]

theorem isFeasible_of_standardForm {p : LinearProgram F}
    {first : Tableau F p.standardForm.constraints.length p.standardForm.dimension}
    (h : p.standardForm.IsFirstTableau start epsilon first) : first.IsFeasible :=
  h.isFeasible fun c hc => (p.isStandard_standardForm.2 c hc).2

theorem satisfied_solution (h : q.IsFirstTableau start epsilon first) (hq : q.IsEquational)
    (hd : t.DerivesFrom first) (hc : t.IsExactlyCanonical) (hf : t.IsFeasible) :
    q.Satisfied t.solution.toList 0 := by
  rw [Tableau.toList_solution, satisfied_ofFn_iff hq]
  exact ⟨(h.solves_iff_of_derivesFrom hd _).mp (Tableau.solves_solutionAt hc),
    Tableau.solutionAt_nonneg hf hc⟩

/-- Where all reduced costs are at most a bound, no point of the problem costs more than the
objective of the tableau and that bound for every unit of its entries. Nothing is asked of the
basis, so this holds of tableaux whose solution is not to be trusted. -/
theorem objectiveAt_le_add (h : q.IsFirstTableau start epsilon first) (hq : q.IsEquational)
    (hd : t.DerivesFrom first) {bound : F} (hopt : ∀ j, t.reducedCost j ≤ bound) {z : List F}
    (hz : q.Satisfied z 0) : q.objectiveAt z ≤ t.objectiveValue + bound * z.sum := by
  obtain ⟨y, rfl⟩ := exists_ofFn hz
  obtain ⟨hsolves, hnonneg⟩ := (satisfied_ofFn_iff hq y).mp hz
  have hloss : ∑ j, t.reducedCost j * y j ≤ bound * ∑ j, y j := by
    rw [Finset.mul_sum]
    exact Finset.sum_le_sum fun j _ => mul_le_mul_of_nonneg_right (hopt j) (hnonneg j)
  rw [← h.sum_cost_of_derivesFrom hd,
    Tableau.sum_cost_of_solves t ((h.solves_iff_of_derivesFrom hd y).mpr hsolves),
    List.sum_ofFn]
  exact add_le_add_right hloss _

/-- Where no reduced cost is positive, no point of the problem costs more than the
objective of the tableau. -/
theorem objectiveAt_le (h : q.IsFirstTableau start epsilon first) (hq : q.IsEquational)
    (hd : t.DerivesFrom first) (hopt : ∀ j, t.reducedCost j ≤ 0) {z : List F}
    (hz : q.Satisfied z 0) : q.objectiveAt z ≤ t.objectiveValue := by
  have hle := h.objectiveAt_le_add hq hd hopt hz
  rwa [zero_mul, add_zero] at hle

/-- Without a positive entry in its column, the ray from the solution of a feasible
canonical tableau satisfies the problem. -/
theorem satisfied_ray (h : q.IsFirstTableau start epsilon first) (hq : q.IsEquational)
    (hd : t.DerivesFrom first) (hc : t.IsExactlyCanonical) (hf : t.IsFeasible)
    {k : Fin q.dimension} (hk : ∀ i, t.entry i k ≤ 0) {s : F} (hs : 0 ≤ s) :
    q.Satisfied (List.ofFn fun j => t.solutionAt j + s * t.ray k j) 0 := by
  rw [satisfied_ofFn_iff hq]
  constructor
  · exact (h.solves_iff_of_derivesFrom hd _).mp
      (Tableau.solves_add_ray hc (Tableau.solves_solutionAt hc) k s)
  · intro j
    exact add_nonneg (Tableau.solutionAt_nonneg hf hc j)
      (mul_nonneg hs (Tableau.ray_nonneg hk j))

theorem exists_objectiveAt_ray_gt (h : q.IsFirstTableau start epsilon first)
    (hd : t.DerivesFrom first) {k : Fin q.dimension} (hk : 0 < t.reducedCost k) (bound : F) :
    ∃ s, 0 ≤ s ∧
      bound < q.objectiveAt (List.ofFn fun j => t.solutionAt j + s * t.ray k j) := by
  obtain ⟨s, hs, hgt⟩ := t.exists_sum_cost_gt t.solutionAt hk bound
  rw [h.sum_cost_of_derivesFrom hd] at hgt
  exact ⟨s, hs, hgt⟩

theorem isOptimum_solution (h : q.IsFirstTableau start epsilon first) (hq : q.IsEquational)
    (hmaximize : q.direction = .maximize) (hd : t.DerivesFrom first)
    (hc : t.IsExactlyCanonical) (hf : t.IsFeasible) (hopt : ∀ j, t.reducedCost j ≤ 0) :
    q.IsOptimum t.solution.toList t.objectiveValue := by
  have hsatisfied := h.satisfied_solution hq hd hc hf
  refine ⟨hsatisfied.1, hsatisfied, ?_, fun z hz => ?_⟩
  · rw [LinearProgram.evaluate_of_satisfied hsatisfied, h.objectiveAt_solution hd hc]
  · refine ⟨q.objectiveAt z, LinearProgram.evaluate_of_satisfied hz, ?_⟩
    rw [hmaximize]
    exact h.objectiveAt_le hq hd hopt hz

/-- A profitable column without a positive entry shows a problem that maximizes unbounded. -/
theorem isUnboundedAlong_ray (h : q.IsFirstTableau start epsilon first) (hq : q.IsEquational)
    (hmaximize : q.direction = .maximize) (hd : t.DerivesFrom first)
    (hc : t.IsExactlyCanonical) (hf : t.IsFeasible) {k : Fin q.dimension}
    (hprofit : 0 < t.reducedCost k) (hk : ∀ i, t.entry i k ≤ 0) :
    q.IsUnboundedAlong fun s => List.ofFn fun j => t.solutionAt j + s * t.ray k j := by
  have hsatisfied (s : F) (hs : 0 ≤ s) := h.satisfied_ray hq hd hc hf hk hs
  refine ⟨hsatisfied, fun bound => ?_⟩
  obtain ⟨s, hs, hlt⟩ := h.exists_objectiveAt_ray_gt hd hprofit bound
  refine ⟨s, _, hs, LinearProgram.evaluate_of_satisfied (hsatisfied s hs), ?_⟩
  rw [hmaximize]
  exact hlt

end LinearProgram.IsFirstTableau

end LinearProgramming
