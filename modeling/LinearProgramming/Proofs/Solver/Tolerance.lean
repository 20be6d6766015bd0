import LinearProgramming.Proofs.Solver.Soundness

/-!
# What a tolerance leaves of the value

With a tolerance, small reduced costs count as zero, so an optimal outcome need not be an
optimum. What is overlooked in this way can be made up for: the value that is reported still
bounds the objective of every point, up to the tolerance for each unit of the point and of the
room it leaves.
-/

namespace LinearProgramming

namespace LinearProgram

variable {F : Type} [Field F] [LinearOrder F]

/-- The sum of the entries of a point and of the rooms that it leaves in the inequalities. -/
def extent (p : LinearProgram F) (y : List F) : F := y.sum + (p.slacksAt y).sum

variable [IsStrictOrderedRing F] {settings : Settings F} {rule : PivotRule F}
  {finder : BasisFinder F} {p : LinearProgram F}
  {outcome : Outcome F p.standardForm.constraints.length p.standardForm.dimension}

theorem derivesFrom_of_mem_statesFrom (hε : 0 ≤ settings.epsilon)
    (hrule : rule ∈ PivotRule.ofMethod) {q : LinearProgram F} {start : BasicSolution F}
    {first : Tableau F q.constraints.length q.dimension}
    (hfirst : q.tableau? start settings.epsilon = .ok first) :
    ∀ s ∈ q.statesFrom settings rule first, s.trail.tableau.DerivesFrom first := by
  have hε' : 0 ≤ first.epsilon := (isFirstTableau_of_tableau? hfirst).epsilon_eq ▸ hε
  exact RunState.derivesFrom_of_mem_visited
    (s := RunState.start rule ((Trail.start first).record settings.history)) hrule hε' _

/-- **The value bounds the optimum.** Whatever the constraints are, whichever basis is found
and however large the tolerance is, no point that satisfies the problem is better than the
value of an optimal outcome by more than the tolerance times the extent of the point. The
first tableau need not be canonical, so the solution may be no point of the problem at all. -/
theorem solve_value_bounds (hε : 0 ≤ settings.epsilon) (hrule : rule ∈ PivotRule.ofMethod)
    (h : p.solve settings rule finder = .ok outcome) (hstatus : outcome.status = .optimal) :
    ∃ value, outcome.value? = some value ∧
      ∀ y, p.Satisfied y 0 → ∃ other, p.evaluate y = .ok other ∧
        match p.direction with
        | .maximize => other ≤ value + settings.epsilon * p.extent y
        | .minimize => value - settings.epsilon * p.extent y ≤ other := by
  obtain ⟨start, first, last, -, hfirst, hmem, hopt, rfl⟩ :=
    exists_optimal_state_of_solve h hstatus
  have hfirst' := isFirstTableau_of_tableau? hfirst
  have hd := derivesFrom_of_mem_statesFrom hε hrule hfirst last hmem
  have hreduced : ∀ j, last.trail.tableau.reducedCost j ≤ settings.epsilon := fun j =>
    (hopt j).trans (hd.epsilon_eq.trans hfirst'.epsilon_eq).le
  refine ⟨_, rfl, fun y hy => ⟨p.objectiveAt y, evaluate_of_satisfied hy, ?_⟩⟩
  have hobjective := length_objective_of_tableau? hfirst
  have hcosts := p.objectiveAt_standardForm (hobjective.trans hy.1.symm) (p.slacksAt y)
  have hle := hfirst'.objectiveAt_le_add p.isEquational_standardForm hd hreduced
    (p.satisfied_append_slacksAt hy)
  rw [List.sum_append] at hle
  change _ ≤ _ + settings.epsilon * p.extent y at hle
  cases hdirection : p.direction with
  | maximize =>
    simp only [hdirection] at hcosts
    rw [hcosts] at hle
    exact hle
  | minimize =>
    simp only [hdirection] at hcosts
    rw [hcosts] at hle
    show -last.trail.tableau.objectiveValue - _ ≤ _
    linarith

end LinearProgram

/-- Ten pivots with a tolerance of one fifth. -/
def tenCoarsePivots : Settings ℚ where
  limit := 10
  epsilon := 1 / 5
  history := false

/-- A problem whose costs differ by less than that, with a lower bound. -/
def closeCosts : LinearProgram ℚ where
  direction := .minimize
  objective := [-1, -11 / 10]
  constraints := [⟨[1, 1], .atMost, 4⟩, ⟨[0, 1], .atLeast, 1⟩]
  dimension := 2
  rectangular := by decide

/-- The solution misses the lower bound, and the value is not the optimum, which is at the
other end of the first constraint. -/
theorem solve_value_bounds_closeCosts :
    0 ≤ tenCoarsePivots.epsilon ∧ (PivotRule.first : PivotRule ℚ) ∈ PivotRule.ofMethod ∧
      ∃ outcome, closeCosts.solve tenCoarsePivots .first .slacks = .ok outcome ∧
        outcome.status = .optimal ∧ outcome.solution? = some [4, 0] ∧
        ¬ closeCosts.Satisfied [4, 0] 0 ∧ outcome.value? = some (-4) ∧
        closeCosts.Satisfied [0, 4] 0 ∧ closeCosts.evaluate [0, 4] = .ok (-22 / 5) ∧
        -4 - tenCoarsePivots.epsilon * closeCosts.extent [0, 4] ≤ -22 / 5 := by
  have hε : 0 ≤ tenCoarsePivots.epsilon := by decide +kernel
  have hrule : (PivotRule.first : PivotRule ℚ) ∈ PivotRule.ofMethod :=
    PivotRule.first_mem_ofMethod
  have hshown : (closeCosts.solve tenCoarsePivots .first .slacks).map
      (fun o => (o.status, o.solution?, o.value?)) =
        .ok (.optimal, some [4, 0], some (-4)) := by
    decide +kernel
  have hsatisfied : closeCosts.Satisfied [0, 4] 0 := by decide +kernel
  have heval : closeCosts.evaluate [0, 4] = .ok (-22 / 5) := by decide +kernel
  obtain ⟨outcome, h, hparts⟩ := exists_of_map_eq_ok hshown
  obtain ⟨hstatus, hsolution, hvalue⟩ := Prod.ext_iff.mp hparts |>.imp_right Prod.ext_iff.mp
  obtain ⟨value, hv, hbound⟩ := LinearProgram.solve_value_bounds hε hrule h hstatus
  obtain rfl := Option.some.inj (hvalue.symm.trans hv)
  obtain ⟨other, hother, hle⟩ := hbound [0, 4] hsatisfied
  rw [heval] at hother
  cases hother
  exact ⟨hε, hrule, outcome, h, hstatus, hsolution, by decide +kernel, hvalue, hsatisfied, heval,
    hle⟩

end LinearProgramming
