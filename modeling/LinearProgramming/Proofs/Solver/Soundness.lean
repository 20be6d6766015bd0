import LinearProgramming.Proofs.Solver.Inversion
import LinearProgramming.Proofs.Tableau.SlackBasis
import Mathlib.Algebra.Order.Field.Rat

/-!
# Outcomes are right

With exact numbers and no tolerance the verdict of a solver is right about the problem as
it is stated, whatever its directions, relations and signs are. A run only has to end in a
canonical tableau, and it does so if it begins in one. An optimum is an optimum, and a
problem that is called unbounded is unbounded along the ray of the column that is named.
-/

namespace LinearProgramming

namespace LinearProgram

variable {F : Type} [Field F] [LinearOrder F]

/-- Whether the first tableau of the basis that is found is canonical. -/
def StartsCanonical (settings : Settings F) (finder : BasisFinder F) (p : LinearProgram F) :
    Prop :=
  ∃ start first, finder p.standardForm = .ok (.ok start) ∧
    p.standardForm.tableau? start settings.epsilon = .ok first ∧ first.IsExactlyCanonical

theorem length_objective_of_tableau? {p : LinearProgram F} {start : BasicSolution F}
    {epsilon : F}
    {first : Tableau F p.standardForm.constraints.length p.standardForm.dimension}
    (h : p.standardForm.tableau? start epsilon = .ok first) :
    p.objective.length = p.dimension := by
  have hlength := (isFirstTableau_of_tableau? h).length_objective
  rw [dimension_standardForm, length_objective_standardForm] at hlength
  exact Nat.add_right_cancel hlength

variable [IsStrictOrderedRing F]

theorem startsCanonical_slacks {p : LinearProgram F} (h : p.HasUpperBounds)
    {settings : Settings F} {start : BasicSolution F}
    (hstart : BasisFinder.slacks p.standardForm = .ok (.ok start))
    {first : Tableau F p.standardForm.constraints.length p.standardForm.dimension}
    (hfirst : p.standardForm.tableau? start settings.epsilon = .ok first) :
    p.StartsCanonical settings .slacks :=
  ⟨start, first, hstart, hfirst,
    isExactlyCanonical_of_slackBasis h (Except.ok.inj hstart) (isFirstTableau_of_tableau? hfirst)⟩

variable {settings : Settings F} {rule : PivotRule F}
  {finder : BasisFinder F} {p : LinearProgram F}
  {outcome : Outcome F p.standardForm.constraints.length p.standardForm.dimension}
  {trail : Trail F p.standardForm.constraints.length p.standardForm.dimension}

/-- Without a tolerance the last state of the run that an outcome reports is sound. -/
theorem exists_last_of_solve (hε : settings.epsilon = 0) (hrule : rule ∈ PivotRule.ofMethod)
    (h : p.solve settings rule finder = .ok outcome)
    (htrail : outcome.trail? = some trail) :
    ∃ (start : BasicSolution F)
      (first : Tableau F p.standardForm.constraints.length p.standardForm.dimension)
      (last : RunState rule p.standardForm.constraints.length p.standardForm.dimension)
      (failure : Option Failure) (remaining : Nat),
      finder p.standardForm = .ok (.ok start) ∧
      p.standardForm.tableau? start settings.epsilon = .ok first ∧
      outcome = (Outcome.ofEnding ⟨trail, failure⟩).restrict p ∧
      last.trail = trail ∧ last.IsSound first ∧ last.Stops settings.limit remaining failure := by
  obtain ⟨start, first, last, failure, remaining, hstart, hfirst, ho, hmem, hlast, hstops⟩ :=
    exists_state_of_solve h htrail
  have hfirst' := isFirstTableau_of_tableau? hfirst
  have hsound : last.IsSound first :=
    RunState.isSound_of_mem_visited hrule (hfirst'.epsilon_eq.trans hε)
      hfirst'.isFeasible_of_standardForm settings.limit last hmem
  exact ⟨start, first, last, failure, remaining, hstart, hfirst, ho, hlast, hsound, hstops⟩

theorem isExactlyCanonical_of_solve (hε : settings.epsilon = 0)
    (hrule : rule ∈ PivotRule.ofMethod) (h : p.solve settings rule finder = .ok outcome)
    (htrail : outcome.trail? = some trail) (hcanonical : p.StartsCanonical settings finder) :
    trail.tableau.IsExactlyCanonical := by
  obtain ⟨start, first, last, failure, remaining, hstart, hfirst, -, rfl, hsound, -⟩ :=
    exists_last_of_solve hε hrule h htrail
  obtain ⟨start', first', hstart', hfirst', hc⟩ := hcanonical
  rw [hstart] at hstart'
  cases hstart'
  rw [hfirst] at hfirst'
  cases hfirst'
  exact hsound.derivesFrom.isExactlyCanonical hc

theorem isExactlyCanonical_of_solve_slacks (hε : settings.epsilon = 0)
    (hrule : rule ∈ PivotRule.ofMethod) (h : p.solve settings rule .slacks = .ok outcome)
    (htrail : outcome.trail? = some trail) (hbounds : p.HasUpperBounds) :
    trail.tableau.IsExactlyCanonical := by
  obtain ⟨start, first, -, -, -, hstart, hfirst, -⟩ := exists_last_of_solve hε hrule h htrail
  exact isExactlyCanonical_of_solve hε hrule h htrail
    (startsCanonical_slacks hbounds hstart hfirst)

/-- **An optimal outcome is an optimum.** A problem may maximize or minimize, under
constraints of any kind and sign. If a solver, with any way to find a basis, one of the
rules of the method and any limit, calls a canonical tableau optimal, the solution it
returns has the dimension of the problem and satisfies it, the value is its objective, and
no point that satisfies the problem has a better one. -/
theorem solve_optimal (hε : settings.epsilon = 0) (hrule : rule ∈ PivotRule.ofMethod)
    (h : p.solve settings rule finder = .ok outcome) (hstatus : outcome.status = .optimal) :
    ∃ trail, outcome.trail? = some trail ∧
      (p.StartsCanonical settings finder → trail.tableau.IsExactlyCanonical) ∧
      (finder = .slacks → p.HasUpperBounds → trail.tableau.IsExactlyCanonical) ∧
      (trail.tableau.IsExactlyCanonical → ∃ x value, outcome.solution? = some x ∧
        outcome.value? = some value ∧ p.IsOptimum x value) := by
  obtain ⟨trail, htrail⟩ : ∃ trail, outcome.trail? = some trail := by
    cases outcome with
    | optimal value solution trail => exact ⟨trail, rfl⟩
    | failed failure trail => exact absurd hstatus failure.status_ne_optimal
  refine ⟨trail, htrail, isExactlyCanonical_of_solve hε hrule h htrail, ?_, fun hc => ?_⟩
  · rintro rfl hbounds
    exact isExactlyCanonical_of_solve_slacks hε hrule h htrail hbounds
  · obtain ⟨start, first, last, failure, remaining, -, hfirst, rfl, rfl, hsound, hstops⟩ :=
      exists_last_of_solve hε hrule h htrail
    rw [Outcome.status_restrict, Outcome.status_ofEnding] at hstatus
    cases failure with
    | some failure => exact absurd hstatus failure.status_ne_optimal
    | none =>
      have hfirst' := isFirstTableau_of_tableau? hfirst
      cases hstops with
      | optimal hopt =>
        have hzero : last.trail.tableau.epsilon = 0 :=
          hsound.derivesFrom.epsilon_eq.trans (hfirst'.epsilon_eq.trans hε)
        have hreduced : ∀ j, last.trail.tableau.reducedCost j ≤ 0 := fun j => hzero ▸ hopt j
        have hoptimum := hfirst'.isOptimum_solution p.isEquational_standardForm rfl
          hsound.derivesFrom hc hsound.feasible hreduced
        exact ⟨_, _, rfl, rfl, hoptimum.of_standardForm (length_objective_of_tableau? hfirst)⟩

end LinearProgram

/-- Ten pivots without a tolerance, the history left out. -/
def tenExactPivots : Settings ℚ where
  limit := 10
  epsilon := 0
  history := false

/-- A problem that minimizes, with a negative lower bound. -/
def cheapestMix : LinearProgram ℚ where
  direction := .minimize
  objective := [1, -2]
  constraints := [⟨[1, 1], .atMost, 4⟩, ⟨[-1, -3], .atLeast, -6⟩]
  dimension := 2
  rectangular := by decide

theorem solve_optimal_cheapestMix :
    ∃ outcome, cheapestMix.solve tenExactPivots .lowest .slacks = .ok outcome ∧
      outcome.status = .optimal ∧ cheapestMix.HasUpperBounds ∧
      outcome.solution? = some [0, 2] ∧ cheapestMix.IsOptimum [0, 2] (-4) := by
  have hshown : (cheapestMix.solve tenExactPivots .lowest .slacks).map
      (fun o => (o.status, o.solution?, o.value?)) =
        .ok (.optimal, some [0, 2], some (-4)) := by
    decide +kernel
  have hbounds : cheapestMix.HasUpperBounds := by decide +kernel
  obtain ⟨outcome, h, hparts⟩ := exists_of_map_eq_ok hshown
  obtain ⟨hstatus, hsolution, hvalue⟩ := Prod.ext_iff.mp hparts |>.imp_right Prod.ext_iff.mp
  obtain ⟨trail, -, -, hcanonical, hoptimum⟩ :=
    LinearProgram.solve_optimal rfl PivotRule.lowest_mem_ofMethod h hstatus
  obtain ⟨x, value, hx, hv, hbest⟩ := hoptimum (hcanonical rfl hbounds)
  obtain rfl := Option.some.inj (hsolution.symm.trans hx)
  obtain rfl := Option.some.inj (hvalue.symm.trans hv)
  exact ⟨outcome, h, hstatus, hbounds, hx, hbest⟩

namespace LinearProgram

variable {F : Type} [Field F] [LinearOrder F] [IsStrictOrderedRing F] {settings : Settings F}
  {rule : PivotRule F} {finder : BasisFinder F} {p : LinearProgram F}
  {outcome : Outcome F p.standardForm.constraints.length p.standardForm.dimension}
  {trail : Trail F p.standardForm.constraints.length p.standardForm.dimension}

/-- **An unbounded outcome is unbounded.** If a solver stops at a canonical tableau because
a problem is unbounded, points satisfy the problem, and their objectives pass every bound.
From the solution of the tableau, the ray of the column that the failure names consists of
such points, once its slacks are left out. -/
theorem solve_unbounded (hε : settings.epsilon = 0) (hrule : rule ∈ PivotRule.ofMethod)
    (h : p.solve settings rule finder = .ok outcome) (hstatus : outcome.status = .unbounded)
    (htrail : outcome.trail? = some trail) :
    (p.StartsCanonical settings finder → trail.tableau.IsExactlyCanonical) ∧
      (finder = .slacks → p.HasUpperBounds → trail.tableau.IsExactlyCanonical) ∧
      (trail.tableau.IsExactlyCanonical → p.IsUnbounded ∧
        ∃ column : Fin p.standardForm.dimension,
          outcome = .failed (.unbounded column) (some trail) ∧
          p.IsUnboundedAlong fun s => (List.ofFn fun j =>
            trail.tableau.solutionAt j + s * trail.tableau.ray column j).take p.dimension) := by
  refine ⟨isExactlyCanonical_of_solve hε hrule h htrail, ?_, fun hc => ?_⟩
  · rintro rfl hbounds
    exact isExactlyCanonical_of_solve_slacks hε hrule h htrail hbounds
  · obtain ⟨start, first, last, failure, remaining, -, hfirst, rfl, rfl, hsound, hstops⟩ :=
      exists_last_of_solve hε hrule h htrail
    rw [Outcome.status_restrict, Outcome.status_ofEnding] at hstatus
    have hfirst' := isFirstTableau_of_tableau? hfirst
    have hzero : last.trail.tableau.epsilon = 0 :=
      hsound.derivesFrom.epsilon_eq.trans (hfirst'.epsilon_eq.trans hε)
    cases hstops with
    | optimal => cases hstatus
    | limit => cases hstatus
    | noPivot hopt hchoose =>
      obtain ⟨k, rfl, hprofit, hentries⟩ :=
        RunState.exists_unbounded_of_choose hrule last hzero.ge hopt hchoose
      rw [hzero] at hprofit hentries
      have hray := (hfirst'.isUnboundedAlong_ray p.isEquational_standardForm rfl
        hsound.derivesFrom hc hsound.feasible hprofit hentries).of_standardForm
        (length_objective_of_tableau? hfirst)
      exact ⟨hray.isUnbounded, k, rfl, hray⟩

end LinearProgram

/-- A problem that gains from its first variable, which the second one makes room for. -/
def endlessGain : LinearProgram ℚ where
  direction := .minimize
  objective := [-1, 0]
  constraints := [⟨[-1, 1], .atLeast, -1⟩]
  dimension := 2
  rectangular := by decide

theorem solve_unbounded_endlessGain :
    ∃ outcome, endlessGain.solve tenExactPivots .largest .slacks = .ok outcome ∧
      outcome.status = .unbounded ∧
      outcome.message? = some "Problem is unbounded: x2 can increase without limit" ∧
      (∃ trail, outcome.trail? = some trail ∧ trail.tableau.IsExactlyCanonical) ∧
      endlessGain.IsUnbounded := by
  have hshown : (endlessGain.solve tenExactPivots .largest .slacks).map
      (fun o => (o.status, o.message?, o.trail?.isSome)) =
        .ok (.unbounded, some "Problem is unbounded: x2 can increase without limit", true) := by
    decide +kernel
  have hrule : (PivotRule.largest : PivotRule ℚ) ∈ PivotRule.ofMethod := by
    simp [PivotRule.ofMethod]
  have hbounds : endlessGain.HasUpperBounds := by decide +kernel
  obtain ⟨outcome, h, hparts⟩ := exists_of_map_eq_ok hshown
  obtain ⟨hstatus, hmessage, hsome⟩ := Prod.ext_iff.mp hparts |>.imp_right Prod.ext_iff.mp
  obtain ⟨trail, htrail⟩ := Option.isSome_iff_exists.mp hsome
  obtain ⟨-, hcanonical, hunbounded⟩ :=
    LinearProgram.solve_unbounded rfl hrule h hstatus htrail
  have hc := hcanonical rfl hbounds
  exact ⟨outcome, h, hstatus, hmessage, ⟨trail, htrail, hc⟩, (hunbounded hc).1⟩

end LinearProgramming
