import LinearProgramming.Proofs.Solver.Tolerance
import LinearProgramming.Proofs.Tableau.Overlooked

/-!
# Verdicts under the standard tolerance

The standard solver passes over rows with small entries, so the solution it returns may miss a
constraint by any amount, and a problem that it calls unbounded need not be. How far a verdict
is to be trusted can be read off the tableau that comes with it, and the miss is bounded by the
distance that the run has covered: the tolerance for every unit by which a pivot raises the
variable that enters.
-/

namespace LinearProgramming

namespace RunState

/-- How far a pivot raises the variable that enters. -/
def rise {F : Type} [Scalar F] {rule : PivotRule F} {m n : Nat}
    (step : RunState rule m n × Choice rule m n × RunState rule m n) : F :=
  step.1.trail.tableau.value step.2.1.row /
    step.1.trail.tableau.entry step.2.1.row step.2.1.column

variable {F : Type} [Field F] [LinearOrder F] [IsStrictOrderedRing F] {m n : Nat}

/-- A pivot that does not lower the variable that enters lets no value fall by more than the
tolerance for each unit of its rise. -/
theorem neg_le_value_advance {s : RunState (PivotRule.largest : PivotRule F) m n}
    (hε : 0 ≤ s.trail.tableau.epsilon) (hopt : ¬ s.trail.tableau.IsOptimal)
    {choice : Choice .largest m n} (hchoice : s.choose = .ok (.ok choice))
    (hrise : 0 ≤ rise (s, choice, s.advance choice)) {bound : F} (hbound : 0 ≤ bound)
    (h : ∀ i, -bound ≤ s.trail.tableau.value i) (i : Fin m) :
    -(bound + s.trail.tableau.epsilon * rise (s, choice, s.advance choice)) ≤
      (s.advance choice).trail.tableau.value i := by
  obtain ⟨k, -, hchoose⟩ := choose_largest s hε hopt
  obtain ⟨rfl, hleast⟩ := hchoose.of_pivot hchoice
  exact Tableau.neg_le_value_pivot hε hleast hrise hbound h i

/-- As long as no pivot lowers the variable that enters, the values of all states of a run stay
above zero but for the tolerance times the sum of all rises. -/
theorem neg_le_value_of_mem_visited {left : Nat}
    {s : RunState (PivotRule.largest : PivotRule F) m n}
    (hε : 0 ≤ s.trail.tableau.epsilon) (hrise : ∀ step ∈ steps left s, 0 ≤ rise step)
    {bound : F} (hbound : 0 ≤ bound) (h : ∀ i, -bound ≤ s.trail.tableau.value i) :
    ∀ s' ∈ visited left s, ∀ i,
      -(bound + s.trail.tableau.epsilon * ((steps left s).map rise).sum) ≤
        s'.trail.tableau.value i := by
  induction left generalizing s bound with
  | zero =>
    rw [visited_zero, steps_zero]
    intro s' hs' i
    rw [List.mem_singleton.mp hs', List.map_nil, List.sum_nil, mul_zero, add_zero]
    exact h i
  | succ left ih =>
    have htotal : 0 ≤ ((steps (left + 1) s).map rise).sum :=
      List.sum_nonneg (List.forall_mem_map.mpr hrise)
    have hstart (i : Fin m) :
        -(bound + s.trail.tableau.epsilon * ((steps (left + 1) s).map rise).sum) ≤
          s.trail.tableau.value i :=
      (neg_le_neg (le_add_of_nonneg_right (mul_nonneg hε htotal))).trans (h i)
    by_cases hnext : ∃ s', Step s s'
    · obtain ⟨_, hopt, choice, hchoice, -⟩ := hnext
      rw [visited_of_step ⟨hopt, choice, hchoice, rfl⟩]
      refine List.forall_mem_cons.mpr ⟨hstart, ?_⟩
      rw [steps_of_choose hopt hchoice] at hrise ⊢
      obtain ⟨hfirst, hrest⟩ := List.forall_mem_cons.mp hrise
      have hlater := ih (s := s.advance choice) hε hrest
        (add_nonneg hbound (mul_nonneg hε hfirst))
        (neg_le_value_advance hε hopt hchoice hfirst hbound h)
      rw [List.map_cons, List.sum_cons, mul_add, ← add_assoc]
      exact hlater
    · rw [visited_of_not_step (not_exists.mp hnext)]
      intro s' hs'
      rw [List.mem_singleton.mp hs']
      exact hstart

end RunState

namespace LinearProgram

variable {F : Type} [Field F] [LinearOrder F] [IsStrictOrderedRing F]

section Slacks

variable {p : LinearProgram F} {settings : Settings F}

section Run

variable {start : BasicSolution F}
  {first : Tableau F p.standardForm.constraints.length p.standardForm.dimension}

theorem derivesFrom_and_isExactlyCanonical (hε : 0 ≤ settings.epsilon) (hp : p.HasUpperBounds)
    (hstart : BasisFinder.slacks p.standardForm = .ok (.ok start))
    (hfirst : p.standardForm.tableau? start settings.epsilon = .ok first) :
    ∀ s ∈ p.standardForm.statesFrom settings .largest first,
      s.trail.tableau.DerivesFrom first ∧ s.trail.tableau.IsExactlyCanonical := by
  intro s hs
  have hd := derivesFrom_of_mem_statesFrom hε PivotRule.largest_mem_ofMethod hfirst s hs
  exact ⟨hd, hd.isExactlyCanonical (isExactlyCanonical_of_slackBasis hp (Except.ok.inj hstart)
    (isFirstTableau_of_tableau? hfirst))⟩

/-- From the slacks no value of the run is below zero by more than the tolerance times the sum
of all rises. -/
theorem neg_le_value_of_mem_statesFrom (hε : 0 ≤ settings.epsilon)
    (hstart : BasisFinder.slacks p.standardForm = .ok (.ok start))
    (hfirst : p.standardForm.tableau? start settings.epsilon = .ok first)
    (hrise : ∀ pivot ∈ p.solveSteps settings .largest .slacks, 0 ≤ RunState.rise pivot) :
    ∀ s ∈ p.standardForm.statesFrom settings .largest first, ∀ i,
      -(settings.epsilon *
        ((p.solveSteps settings .largest .slacks).map RunState.rise).sum) ≤
        s.trail.tableau.value i := by
  have hfirst' := isFirstTableau_of_tableau? hfirst
  rw [solveSteps_eq hstart hfirst] at hrise ⊢
  have hvalues := RunState.neg_le_value_of_mem_visited
    (s := RunState.start .largest ((Trail.start first).record settings.history))
    (hfirst'.epsilon_eq ▸ hε) hrise le_rfl
    (fun i => neg_zero.le.trans (hfirst'.isFeasible_of_standardForm i))
  rw [zero_add] at hvalues
  exact hfirst'.epsilon_eq ▸ hvalues

end Run

variable {outcome : Outcome F p.standardForm.constraints.length p.standardForm.dimension}

/-- The solution of an optimal outcome misses the problem by as much as the values of the last
tableau are below zero, and by no more than the tolerance times the sum of all rises. -/
theorem exists_satisfied_iff_of_optimal (hε : 0 ≤ settings.epsilon) (hp : p.HasUpperBounds)
    (h : p.solve settings .largest .slacks = .ok outcome) (hstatus : outcome.status = .optimal) :
    ∃ trail x, outcome.trail? = some trail ∧ outcome.solution? = some x ∧
      (∀ tolerance, 0 ≤ tolerance →
        (p.Satisfied x tolerance ↔ ∀ i, -tolerance ≤ trail.tableau.value i)) ∧
      let rises := (p.solveSteps settings .largest .slacks).map RunState.rise
      ((∀ rise ∈ rises, 0 ≤ rise) →
        ∀ i, -(settings.epsilon * rises.sum) ≤ trail.tableau.value i) := by
  obtain ⟨start, first, last, hstart, hfirst, hmem, -, rfl⟩ :=
    exists_optimal_state_of_solve h hstatus
  obtain ⟨hd, hc⟩ := derivesFrom_and_isExactlyCanonical hε hp hstart hfirst last hmem
  exact ⟨last.trail, _, rfl, rfl,
    fun tolerance => (isFirstTableau_of_tableau? hfirst).satisfied_take_solution_iff hd hc,
    fun hrises => neg_le_value_of_mem_statesFrom hε hstart hfirst
      (List.forall_mem_map.mp hrises) last hmem⟩

/-- The ray of the column that an unbounded outcome names misses the problem by no more than the
tolerance for every unit, and not at all exactly if no row is overlooked in the column. -/
theorem exists_isUnboundedAlong_iff_of_unbounded (hε : 0 ≤ settings.epsilon)
    (hp : ∀ c ∈ p.constraints, c.relation = .atMost ∧ 0 ≤ c.bound)
    (h : p.solve settings .largest .slacks = .ok outcome)
    (hstatus : outcome.status = .unbounded) :
    ∃ trail, ∃ column : Fin p.standardForm.dimension,
      outcome = .failed (.unbounded column) (some trail) ∧
      let ray := fun s => (List.ofFn fun j => s * trail.tableau.ray column j).take p.dimension
      let gain := trail.tableau.reducedCost column
      (p.IsUnboundedAlong ray ↔ ∀ i, ¬ trail.tableau.Overlooks i column) ∧
      settings.epsilon < gain ∧ ∀ s, 0 ≤ s → p.Satisfied (ray s) (settings.epsilon * s) ∧
        p.evaluate (ray s) = .ok (match p.direction with
          | .maximize => s * gain
          | .minimize => -(s * gain)) := by
  obtain ⟨start, first, last, failure, hstart, hfirst, hmem, hopt, hchoose, rfl⟩ :=
    exists_unbounded_state_of_solve h hstatus
  have hfirst' := isFirstTableau_of_tableau? hfirst
  have hobjective := length_objective_of_tableau? hfirst
  obtain ⟨hd, hc⟩ := derivesFrom_and_isExactlyCanonical hε (fun c hc => .inl (hp c hc))
    hstart hfirst last hmem
  have hlast : last.trail.tableau.epsilon = settings.epsilon :=
    hd.epsilon_eq.trans hfirst'.epsilon_eq
  rw [← hlast] at hε ⊢
  obtain ⟨k, rfl, hprofit, hentries⟩ := RunState.exists_unbounded_of_choose
    PivotRule.largest_mem_ofMethod last hε hopt hchoose
  have hk : 0 < last.trail.tableau.reducedCost k := hε.trans_lt hprofit
  exact ⟨last.trail, k, rfl,
    hfirst'.isUnboundedAlong_take_ray_iff hp hobjective hd hc hk hentries, hprofit,
    fun s hs => ⟨hfirst'.satisfied_take_ray hp hd hc hε hk.ne' hentries hs,
      hfirst'.evaluate_take_ray hobjective hd k s⟩⟩

end Slacks

/-- **What the standard tolerance leaves of a verdict.** All constraints are upper bounds that
are not negative, and the solver is the standard one. The solution of an optimal outcome
satisfies the problem within a millionth exactly when no value of the last tableau is further
below zero. If no pivot of the run lowers the variable that enters, the solution misses the
problem by at most `1e-10` times the sum of all rises, so by at most a millionth if these add up
to no more than ten thousand. Of an unbounded outcome, the ray of the column that is named shows
the problem unbounded exactly when no row is overlooked there, and the problem is unbounded
then. Even otherwise the ray misses the problem by at most `1e-10` for every unit, while the
objective gains more than that. -/
theorem solve_standard_sound (p : LinearProgram F)
    (hp : ∀ c ∈ p.constraints, c.relation = .atMost ∧ 0 ≤ c.bound)
    {outcome : Outcome F p.standardForm.constraints.length p.standardForm.dimension}
    (h : p.solve (Settings.standard F) .largest .slacks = .ok outcome) :
    (outcome.status = .optimal → ∃ trail x,
      outcome.trail? = some trail ∧ outcome.solution? = some x ∧
      (p.Satisfied x 1e-6 ↔ ∀ i, -1e-6 ≤ trail.tableau.value i) ∧
      let rises := (p.solveSteps (Settings.standard F) .largest .slacks).map RunState.rise
      ((∀ rise ∈ rises, 0 ≤ rise) → p.Satisfied x (1e-10 * rises.sum) ∧
        (rises.sum ≤ 10 ^ 4 → p.Satisfied x 1e-6))) ∧
    (outcome.status = .unbounded → ∃ trail, ∃ column : Fin p.standardForm.dimension,
      outcome = .failed (.unbounded column) (some trail) ∧
      let ray := fun s => (List.ofFn fun j => s * trail.tableau.ray column j).take p.dimension
      let gain := trail.tableau.reducedCost column
      (p.IsUnboundedAlong ray ↔ ∀ i, ¬ trail.tableau.Overlooks i column) ∧
      ((∀ i, ¬ trail.tableau.Overlooks i column) → p.IsUnbounded) ∧
      1e-10 < gain ∧ ∀ s, 0 ≤ s → p.Satisfied (ray s) (1e-10 * s) ∧
        p.evaluate (ray s) = .ok (match p.direction with
          | .maximize => s * gain
          | .minimize => -(s * gain))) := by
  have hε : (0 : F) ≤ 1e-10 := by norm_num
  constructor
  · intro hstatus
    obtain ⟨trail, x, htrail, hx, hsatisfied, hvalues⟩ :=
      exists_satisfied_iff_of_optimal hε
        (fun c hc => .inl (hp c hc)) h hstatus
    have hwithin := hsatisfied 1e-6 (by norm_num)
    refine ⟨trail, x, htrail, hx, hwithin, fun hrises => ⟨?_, fun hsum => ?_⟩⟩
    · exact (hsatisfied _ (mul_nonneg hε (List.sum_nonneg hrises))).mpr (hvalues hrises)
    · have hloss := mul_le_mul_of_nonneg_left hsum hε
      rw [show (1e-10 : F) * 10 ^ 4 = 1e-6 by norm_num] at hloss
      exact hwithin.mpr fun i => (neg_le_neg hloss).trans (hvalues hrises i)
  · intro hstatus
    obtain ⟨trail, column, houtcome, hray, hgain, hpoints⟩ :=
      exists_isUnboundedAlong_iff_of_unbounded hε hp h hstatus
    exact ⟨trail, column, houtcome, hray, fun hnone => (hray.mpr hnone).isUnbounded, hgain,
      hpoints⟩

end LinearProgram

/-- A variable that no room is left for, but by a small coefficient. -/
def narrowRoom : LinearProgram ℚ where
  direction := .maximize
  objective := [1]
  constraints := [⟨[1 / 10 ^ 11], .atMost, 0⟩, ⟨[1], .atMost, 1⟩]
  dimension := 1
  rectangular := by decide

/-- A problem where the small coefficient is not in the column that is unbounded. -/
def smallElsewhere : LinearProgram ℚ where
  direction := .maximize
  objective := [1, 2]
  constraints := [⟨[1 / 10 ^ 11, -1], .atMost, 1⟩, ⟨[1, -1], .atMost, 4⟩]
  dimension := 2
  rectangular := by decide

theorem solve_standard_sound_narrowRoom :
    (∀ c ∈ narrowRoom.constraints, c.relation = .atMost ∧ 0 ≤ c.bound) ∧
      (∃ outcome, narrowRoom.solve (Settings.standard ℚ) .largest .slacks = .ok outcome ∧
        outcome.status = .optimal ∧ outcome.solution? = some [1] ∧
        (narrowRoom.solveSteps (Settings.standard ℚ) .largest .slacks).map RunState.rise = [1] ∧
        ¬ narrowRoom.Satisfied [1] 0 ∧ narrowRoom.Satisfied [1] 1e-6) ∧
      (∀ c ∈ smallElsewhere.constraints, c.relation = .atMost ∧ 0 ≤ c.bound) ∧
      ∃ outcome, smallElsewhere.solve (Settings.standard ℚ) .largest .slacks = .ok outcome ∧
        outcome.status = .unbounded ∧ smallElsewhere.IsUnbounded := by
  have hp : ∀ c ∈ narrowRoom.constraints, c.relation = .atMost ∧ 0 ≤ c.bound := by
    decide +kernel
  have hq : ∀ c ∈ smallElsewhere.constraints, c.relation = .atMost ∧ 0 ≤ c.bound := by
    decide +kernel
  have hnarrow : (narrowRoom.solve (Settings.standard ℚ) .largest .slacks).map
      (fun o => (o.status, o.solution?)) = .ok (.optimal, some [1]) := by
    decide +kernel
  have hrises : (narrowRoom.solveSteps (Settings.standard ℚ) .largest .slacks).map
      RunState.rise = [1] := by
    decide +kernel
  have hsmall : (smallElsewhere.solve (Settings.standard ℚ) .largest .slacks).map
      (fun o => (o.status, o.failure?, o.trail?.any fun trail =>
        decide (∀ i k, k.val = 1 → ¬ trail.tableau.Overlooks i k))) =
        .ok (.unbounded, some (.unbounded 1), true) := by
    decide +kernel
  obtain ⟨outcome, h, hparts⟩ := exists_of_map_eq_ok hnarrow
  obtain ⟨hstatus, hsolution⟩ := Prod.ext_iff.mp hparts
  obtain ⟨trail, x, -, hx, -, hmiss⟩ := (narrowRoom.solve_standard_sound hp h).1 hstatus
  obtain rfl := Option.some.inj (hsolution.symm.trans hx)
  rw [hrises] at hmiss
  have hwithin := (hmiss (by simp)).2 (by norm_num)
  obtain ⟨outcome', h', hparts'⟩ := exists_of_map_eq_ok hsmall
  obtain ⟨hstatus', hfailure, hkept⟩ :=
    Prod.ext_iff.mp hparts' |>.imp_right Prod.ext_iff.mp
  obtain ⟨trail', column, rfl, -, hunbounded, -⟩ :=
    (smallElsewhere.solve_standard_sound hq h').2 hstatus'
  have hcolumn : column.val = 1 := Failure.unbounded.inj (Option.some.inj hfailure)
  refine ⟨hp, ⟨outcome, h, hstatus, hsolution, hrises, by decide +kernel, hwithin⟩, hq, _, h',
    hstatus', hunbounded fun i => of_decide_eq_true hkept i column hcolumn⟩

/-- A bound with a small coefficient, and another one far beyond it. -/
def narrowBound : LinearProgram ℚ where
  direction := .maximize
  objective := [1]
  constraints := [⟨[1 / 10 ^ 11], .atMost, 1⟩, ⟨[1], .atMost, 10 ^ 13⟩]
  dimension := 1
  rectangular := by decide

/-- The bound with the small coefficient alone. -/
def onlyBound : LinearProgram ℚ where
  direction := .maximize
  objective := [1]
  constraints := [⟨[1 / 10 ^ 11], .atMost, 1⟩]
  dimension := 1
  rectangular := by decide

theorem not_isUnbounded_onlyBound : ¬ onlyBound.IsUnbounded := by
  intro h
  obtain ⟨x, value, hx, hvalue, hlt⟩ := h.passes (10 ^ 11)
  obtain ⟨hlength, -, hholds⟩ := hx
  obtain ⟨a, rfl⟩ : ∃ a, x = [a] := List.length_eq_one_iff.mp hlength
  have hle : innerProduct [1 / 10 ^ 11] [a] ≤ 1 + 0 := hholds _ List.mem_cons_self
  have hobjective : innerProduct [1] [a] = value := (onlyBound.evaluate_eq_ok_iff.mp hvalue).2
  rw [innerProduct_cons, innerProduct_nil_left] at hle hobjective
  change (10 : ℚ) ^ 11 < value at hlt
  rw [← hobjective] at hlt
  norm_num at hle hlt
  linarith

/-- **The standard solver overlooks limits.** Under both bounds it returns a solution that
misses the first by ninety-nine, and under the first alone it calls a problem unbounded that
is not. -/
theorem solve_standard_overlooks :
    (∀ c ∈ narrowBound.constraints, c.relation = .atMost ∧ 0 ≤ c.bound) ∧
      (∃ outcome, narrowBound.solve (Settings.standard ℚ) .largest .slacks = .ok outcome ∧
        outcome.status = .optimal ∧ outcome.solution? = some [10 ^ 13] ∧
        ¬ narrowBound.Satisfied [10 ^ 13] 1e-6) ∧
      (∀ c ∈ onlyBound.constraints, c.relation = .atMost ∧ 0 ≤ c.bound) ∧
      (∃ outcome, onlyBound.solve (Settings.standard ℚ) .largest .slacks = .ok outcome ∧
        outcome.status = .unbounded) ∧
      ¬ onlyBound.IsUnbounded := by
  have hnarrow : (narrowBound.solve (Settings.standard ℚ) .largest .slacks).map
      (fun o => (o.status, o.solution?)) = .ok (.optimal, some [10 ^ 13]) := by
    decide +kernel
  have honly : (onlyBound.solve (Settings.standard ℚ) .largest .slacks).map
      Outcome.status = .ok .unbounded := by
    decide +kernel
  obtain ⟨outcome, h, hparts⟩ := exists_of_map_eq_ok hnarrow
  obtain ⟨hstatus, hsolution⟩ := Prod.ext_iff.mp hparts
  refine ⟨by decide +kernel, ⟨outcome, h, hstatus, hsolution, by decide +kernel⟩,
    by decide +kernel, exists_of_map_eq_ok honly, not_isUnbounded_onlyBound⟩

end LinearProgramming
