import LinearProgramming.Proofs.Problem.Stating
import LinearProgramming.Proofs.Solver.Inversion
import LinearProgramming.Proofs.Solver.SlackBasis
import Mathlib.Algebra.Order.Field.Rat

/-!
# All outcomes of the solver

From the basis of slacks a problem either has too many equations, and then there is no
tableau, or it has a run that ends with one of three verdicts on its last tableau. The other
failures do not occur. Bounds are made non-negative before the basis is checked for negative
values, a rule finds a column whenever a tableau is not optimal, and the entry that it pivots
on exceeds the tolerance that is asked of a pivot.
-/

namespace LinearProgramming

namespace Outcome

variable {F : Type} [Scalar F] {m n : Nat}

/-- Whether a status is the verdict on a trail: the outcome has it, and the last tableau and
the count of its pivots bear it out. -/
def IsVerdict (o : Outcome F m n) (settings : Settings F) (rule : PivotRule F)
    (trail : Trail F m n) (verdict : Status) : Prop :=
  o.status = verdict ∧ match verdict with
    | .optimal => trail.tableau.IsOptimal
    | .unbounded => ¬ trail.tableau.IsOptimal ∧ trail.pivots < settings.limit ∧
        ∃ column : Fin n, (∀ memory, (rule.column trail.tableau memory).1 = some column.val) ∧
          ∀ i, trail.tableau.entry i column ≤ settings.epsilon
    | .error => o.message? = some "Max iterations exceeded" ∧ ¬ trail.tableau.IsOptimal ∧
        trail.pivots = settings.limit
    | .infeasible => False

theorem failure_of_restrict_ofEnding {ending : RunState.Ending F m n} {p : LinearProgram F}
    {failure : Failure} {trail : Option (Trail F m n)}
    (h : (ofEnding ending).restrict p = .failed failure trail) :
    ending.failure = some failure := by
  unfold ofEnding at h
  cases hfailure : ending.failure with
  | none =>
    rw [hfailure] at h
    cases h
  | some found =>
    rw [hfailure] at h
    cases h
    rfl

theorem IsVerdict.existsUnique {o : Outcome F m n} {settings : Settings F} {rule : PivotRule F}
    {trail : Trail F m n} {verdict : Status} (h : o.IsVerdict settings rule trail verdict) :
    ∃! verdict, o.IsVerdict settings rule trail verdict :=
  ⟨verdict, h, fun _ h' => h'.1.symm.trans h.1⟩

theorem message?_restrict (o : Outcome F m n) (p : LinearProgram F) :
    (o.restrict p).message? = o.message? := by
  cases o <;> rfl

theorem IsVerdict.restrict {o : Outcome F m n} {settings : Settings F} {rule : PivotRule F}
    {trail : Trail F m n} {verdict : Status} (h : o.IsVerdict settings rule trail verdict)
    (p : LinearProgram F) : (o.restrict p).IsVerdict settings rule trail verdict := by
  unfold IsVerdict
  rw [status_restrict, message?_restrict]
  exact h

omit [Scalar F] in
theorem isSome_value?_iff (o : Outcome F m n) : o.value?.isSome ↔ o.status = .optimal := by
  cases o with
  | optimal => simp [value?, status]
  | failed failure => simp [value?, status, failure.status_ne_optimal]

omit [Scalar F] in
theorem isSome_solution?_iff (o : Outcome F m n) :
    o.solution?.isSome ↔ o.status = .optimal := by
  cases o with
  | optimal => simp [solution?, status]
  | failed failure => simp [solution?, status, failure.status_ne_optimal]

omit [Scalar F] in
theorem message?_eq_none_iff (o : Outcome F m n) :
    o.message? = none ↔ o.status = .optimal := by
  cases o with
  | optimal => simp [message?, status]
  | failed failure => simp [message?, status, failure.status_ne_optimal]

end Outcome

namespace RunState

variable {F : Type} [Field F] [LinearOrder F] [IsStrictOrderedRing F] {rule : PivotRule F}
  {m n : Nat}

/-- If no pivot is chosen, no row limits the column that the rule finds. -/
theorem exists_column_of_failure (hrule : rule ∈ PivotRule.ofMethod) {s : RunState rule m n}
    (hε : 0 ≤ s.trail.tableau.epsilon) (hopt : ¬ s.trail.tableau.IsOptimal) {failure : Failure}
    (h : s.choose = .ok (.error failure)) :
    ∃ column : Fin n, failure = .unbounded column ∧
      (∀ memory, (rule.column s.trail.tableau memory).1 = some column.val) ∧
      ∀ i, s.trail.tableau.entry i column ≤ s.trail.tableau.epsilon := by
  obtain ⟨column, -, hchoose⟩ := choose_limits_ofMethod hrule s hε hopt
  obtain ⟨rfl, hentries⟩ := hchoose.of_failure h
  refine ⟨column, rfl, fun memory => ?_, hentries⟩
  rw [PivotRule.column_ofMethod hrule _ memory s.memory]
  exact column_of_choose_unbounded h

/-- What a run under a rule of the method can end with. -/
theorem Stops.failure_eq (hrule : rule ∈ PivotRule.ofMethod) {s : RunState rule m n}
    (hε : 0 ≤ s.trail.tableau.epsilon) {limit remaining : Nat} {failure : Option Failure}
    (h : s.Stops limit remaining failure) :
    failure = none ∨ failure = some (.iterationLimit limit) ∨
      ∃ column : Nat, failure = some (.unbounded column) := by
  cases h with
  | optimal => exact .inl rfl
  | limit => exact .inr (.inl rfl)
  | noPivot hopt hchoose =>
    obtain ⟨column, rfl, -⟩ := exists_column_of_failure hrule hε hopt hchoose
    exact .inr (.inr ⟨column, rfl⟩)

/-- The reason for which a run stops is the verdict on its last trail. -/
theorem Stops.exists_isVerdict (hrule : rule ∈ PivotRule.ofMethod) {s : RunState rule m n}
    {settings : Settings F} (hε : 0 ≤ settings.epsilon)
    (hepsilon : s.trail.tableau.epsilon = settings.epsilon) {remaining : Nat}
    (hcount : s.trail.pivots + remaining = settings.limit) {failure : Option Failure}
    (h : s.Stops settings.limit remaining failure) :
    ∃ verdict,
      (Outcome.ofEnding ⟨s.trail, failure⟩).IsVerdict settings rule s.trail verdict := by
  cases h with
  | optimal hopt => exact ⟨.optimal, rfl, hopt⟩
  | limit hopt => exact ⟨.error, rfl, rfl, hopt, hcount⟩
  | noPivot hopt hchoose =>
    obtain ⟨column, rfl, hcolumn, hentries⟩ :=
      exists_column_of_failure hrule (hepsilon ▸ hε) hopt hchoose
    rw [hepsilon] at hentries
    exact ⟨.unbounded, rfl, hopt, by omega, column, hcolumn, hentries⟩

end RunState

namespace LinearProgram

variable {F : Type} [Field F] [LinearOrder F] {settings : Settings F} {rule : PivotRule F}
  {p : LinearProgram F}

theorem solve_of_dimension_lt (hp : p.isEmpty = false) (h : p.dimension < p.count .equal) :
    p.solve settings rule .slacks = .ok (.failed (.inconsistent (.noSlackBasis
      p.standardForm.constraints.length p.standardForm.dimension)) none) := by
  unfold solve BasisFinder.slacks
  rw [if_neg (by simp [hp]), slackBasis_of_dimension_lt h]

variable [IsStrictOrderedRing F]

/-- With enough variables the solver makes a run from the basis of slacks. -/
theorem exists_runFrom_of_le_dimension (settings : Settings F) (rule : PivotRule F)
    (hp : p.isEmpty = false) (hobjective : p.objective.length = p.dimension)
    (h : p.count .equal ≤ p.dimension) :
    ∃ first, first.epsilon = settings.epsilon ∧ p.solve settings rule .slacks =
      (p.standardForm.runFrom settings rule first).map
        fun ending => (Outcome.ofEnding ending).restrict p := by
  obtain ⟨start, hstart, hfeasible, -, haccepted⟩ := exists_slackBasis_of_le_dimension h
  obtain ⟨first, hfirst⟩ := haccepted hobjective settings.epsilon
  refine ⟨first, (isFirstTableau_of_tableau? hfirst).epsilon_eq, ?_⟩
  unfold solve BasisFinder.slacks
  rw [if_neg (by simp [hp]), hstart]
  dsimp only
  rw [if_pos hfeasible, solveFrom_of_tableau? hfirst, map_map]

/-- Then the run comes to an end, in a state that has made all but the remaining pivots. -/
theorem exists_stop_of_le_dimension (hp : p.isEmpty = false)
    (hobjective : p.objective.length = p.dimension) (h : p.count .equal ≤ p.dimension)
    (hrule : rule ∈ PivotRule.ofMethod) (hε : 0 ≤ settings.epsilon) :
    ∃ (last : RunState rule p.standardForm.constraints.length p.standardForm.dimension)
      (remaining : Nat) (failure : Option Failure),
      p.solve settings rule .slacks =
        .ok ((Outcome.ofEnding ⟨last.trail, failure⟩).restrict p) ∧
      last.trail.tableau.epsilon = settings.epsilon ∧
      last.trail.pivots + remaining = settings.limit ∧
      last.Stops settings.limit remaining failure := by
  obtain ⟨first, hepsilon, hsolve⟩ :=
    exists_runFrom_of_le_dimension settings rule hp hobjective h
  have hfirst : 0 ≤ first.epsilon := hepsilon ▸ hε
  obtain ⟨⟨trail, failure⟩, hrun⟩ := RunState.exists_run_ofMethod_eq_ok
    (s := RunState.start rule ((Trail.start first).record settings.history)) hrule hfirst
    settings.limit settings.limit
  obtain ⟨last, hmem, remaining, rfl, hcount, hstops⟩ := RunState.exists_stop_of_run hrun
  have hderives := RunState.derivesFrom_of_mem_visited hrule hfirst settings.limit last hmem
  refine ⟨last, remaining, failure, ?_, hderives.epsilon_eq.trans hepsilon,
    hcount.trans (Nat.zero_add _), hstops⟩
  rw [hsolve, runFrom, hrun]
  rfl

/-- **The outcomes of the solver.** The numbers are exact and the tolerance is not negative.
Whatever problem with an objective and constraints is stated, under every rule of the method
and every limit solving it from the basis of slacks ends with an outcome. With more equations
than variables that is a marked error without a trail. Otherwise it has a trail of no more
pivots than the limit, and there is exactly one verdict on it: its tableau is optimal, or the
column that the rule finds there has no row that limits it, or the limit is reached. No problem
is called infeasible, no rule fails to find a column and no pivot is refused. The value and the
solution are there, and no message is, exactly in an optimal outcome. -/
theorem solve_classified (hstated : p.IsStated) (hp : p.isEmpty = false)
    (hrule : rule ∈ PivotRule.ofMethod) (hε : 0 ≤ settings.epsilon) :
    ∃ outcome, p.solve settings rule .slacks = .ok outcome ∧
      (p.dimension < p.count .equal → outcome.status = .error ∧ outcome.trail? = none ∧
        ∃ detail, outcome.message? = some ("Solver error: " ++ detail)) ∧
      (p.count .equal ≤ p.dimension → ∃ trail, outcome.trail? = some trail ∧
        trail.pivots ≤ settings.limit ∧
        ∃! verdict, outcome.IsVerdict settings rule trail verdict) ∧
      outcome.status ≠ .infeasible ∧
      (∀ failure trail, outcome = .failed failure trail → failure ≠ .noEnteringColumn ∧
        ∀ row column, failure ≠ .invalidPivot row column) ∧
      (outcome.value?.isSome ↔ outcome.status = .optimal) ∧
      (outcome.solution?.isSome ↔ outcome.status = .optimal) ∧
      (outcome.message? = none ↔ outcome.status = .optimal) := by
  rcases lt_or_ge p.dimension (p.count .equal) with hlt | hle
  · refine ⟨_, solve_of_dimension_lt hp hlt, fun _ => ⟨rfl, rfl, _, rfl⟩,
      fun hle => absurd hlt hle.not_gt, nofun, ?_, Outcome.isSome_value?_iff _,
      Outcome.isSome_solution?_iff _, Outcome.message?_eq_none_iff _⟩
    rintro failure trail h
    cases h
    exact ⟨nofun, nofun⟩
  · obtain ⟨last, remaining, failure, hsolve, hlast, hcount, hstops⟩ :=
      exists_stop_of_le_dimension hp (hstated.length_objective hp) hle hrule hε
    have hfailure := hstops.failure_eq hrule (hlast ▸ hε)
    refine ⟨_, hsolve, fun hlt => absurd hlt hle.not_gt,
      fun _ => ⟨last.trail, ?_, by omega, ?_⟩, ?_, fun failure' trail h => ?_,
      Outcome.isSome_value?_iff _, Outcome.isSome_solution?_iff _,
      Outcome.message?_eq_none_iff _⟩
    · rw [Outcome.trail?_restrict, Outcome.trail?_ofEnding]
    · obtain ⟨verdict, hverdict⟩ := hstops.exists_isVerdict hrule hε hlast hcount
      exact (hverdict.restrict p).existsUnique
    · rw [Outcome.status_restrict, Outcome.status_ofEnding]
      rcases hfailure with rfl | rfl | ⟨column, rfl⟩ <;> nofun
    · have hfound : failure = some failure' := Outcome.failure_of_restrict_ofEnding h
      rcases hfailure with rfl | rfl | ⟨column, rfl⟩
      · cases hfound
      · cases hfound
        exact ⟨nofun, nofun⟩
      · cases hfound
        exact ⟨nofun, nofun⟩

end LinearProgram

/-- One pivot with a tolerance of one fifth. -/
def oneCoarsePivot : Settings ℚ where
  limit := 1
  epsilon := 1 / 5
  history := false

/-- A problem with an equation, which takes two pivots to solve. -/
def evenMix : LinearProgram ℚ where
  direction := .maximize
  objective := [3, 2]
  constraints := [⟨[1, 1], .atMost, 4⟩, ⟨[2, 1], .atMost, 5⟩, ⟨[1, -1], .equal, 0⟩]
  dimension := 2
  rectangular := by decide

theorem solve_classified_evenMix :
    LinearProgram.new? .maximize evenMix.objective evenMix.constraints = .ok evenMix ∧
      evenMix.isEmpty = false ∧ evenMix.count .equal ≤ evenMix.dimension ∧
      (PivotRule.largest : PivotRule ℚ) ∈ PivotRule.ofMethod ∧ 0 ≤ oneCoarsePivot.epsilon ∧
      ∃ outcome trail, evenMix.solve oneCoarsePivot .largest .slacks = .ok outcome ∧
        outcome.trail? = some trail ∧ trail.pivots = 1 ∧
        outcome.IsVerdict oneCoarsePivot .largest trail .error ∧
        outcome.message? = some "Max iterations exceeded" ∧ outcome.value? = none := by
  have hnew : LinearProgram.new? .maximize evenMix.objective evenMix.constraints =
      .ok evenMix := LinearProgram.new?_eq_ok_iff.mpr ⟨rfl, rfl, rfl, rfl⟩
  have hp : evenMix.isEmpty = false := rfl
  have hle : evenMix.count .equal ≤ evenMix.dimension := by decide
  have hrule : (PivotRule.largest : PivotRule ℚ) ∈ PivotRule.ofMethod :=
    PivotRule.largest_mem_ofMethod
  have hε : 0 ≤ oneCoarsePivot.epsilon := by decide +kernel
  have hshown : (evenMix.solve oneCoarsePivot .largest .slacks).map Outcome.status =
      .ok .error := by
    decide +kernel
  obtain ⟨outcome, h, -, hverdict, -, -, hvalue, -, -⟩ :=
    LinearProgram.solve_classified (.new hnew) hp hrule hε
  obtain ⟨trail, htrail, -, verdict, hreported, -⟩ := hverdict hle
  rw [h] at hshown
  obtain rfl : verdict = .error := hreported.1.symm.trans (Except.ok.inj hshown)
  obtain ⟨hstatus, hmessage, -, hpivots⟩ := id hreported
  refine ⟨hnew, hp, hle, hrule, hε, outcome, trail, h, htrail, hpivots, hreported, hmessage, ?_⟩
  rw [← Option.not_isSome_iff_eq_none, hvalue, hstatus]
  nofun

end LinearProgramming
