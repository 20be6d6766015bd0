import LinearProgramming.Proofs.Run.LowestRule
import LinearProgramming.Proofs.Solver.Inversion
import Mathlib.Algebra.Order.Field.Rat

/-!
# The method terminates under the lowest rule

The objective may stand still over many pivots, so nothing decreases along a run, and other
rules do go round in circles. Under the lowest rule there is a limit of pivots, known from
the counts of variables and constraints alone, that is never what ends a run.
-/

namespace LinearProgramming

variable {F : Type} [Field F] [LinearOrder F] [IsStrictOrderedRing F] {settings : Settings F}

/-- **The lowest rule terminates.** The numbers are exact, there is no tolerance, the bounds
are not negative and the first tableau is canonical. Then the sets of basic variables that a
run visits, of however many pivots, are distinct. If the limit is at least the count of the
sets with as many variables as there are constraints, the method ends with an optimal or an
unbounded outcome, and not because of the limit. -/
theorem LinearProgram.solveFrom_lowest_terminates (p : LinearProgram F)
    (hbound : ∀ c ∈ p.constraints, 0 ≤ c.bound) (hε : settings.epsilon = 0)
    {start : BasicSolution F} {first : Trail F p.constraints.length p.dimension}
    (hfirst : p.trail? start settings.epsilon = .ok first)
    (hc : first.tableau.IsExactlyCanonical) :
    let initial := RunState.start .lowest (first.record settings.history)
    (∀ left, ((RunState.visited left initial).map fun s => s.trail.tableau.basisSet).Nodup) ∧
    (p.dimension.choose p.constraints.length ≤ settings.limit →
      ∃ outcome, p.solveFrom settings .lowest start = .ok outcome ∧
        (outcome.status = .optimal ∨ outcome.status = .unbounded) ∧
        (∀ limit trail, outcome ≠ .failed (.iterationLimit limit) trail) ∧
        ∃ last ∈ (RunState.visited settings.limit initial).getLast?,
          outcome.trail? = some last.trail) := by
  intro initial
  obtain ⟨t, ht, rfl⟩ := exists_of_map_eq_ok hfirst
  have hfirst' := isFirstTableau_of_tableau? ht
  have hε' : t.epsilon = 0 := hfirst'.epsilon_eq.trans hε
  have hf : t.IsFeasible := hfirst'.isFeasible hbound
  refine ⟨RunState.nodup_basisSet_visited hε' hf hc, fun hlimit => ?_⟩
  obtain ⟨ending, hrun, hending⟩ :=
    RunState.exists_run_lowest_eq_ok (s := initial) hε' hf hc hlimit
  obtain ⟨last, -, hlast, htrail, -, -⟩ := RunState.run_eq_ok hrun
  have houtcome : p.solveFrom settings .lowest start = .ok (Outcome.ofEnding ending) := by
    rw [solveFrom_of_tableau? ht, runFrom, hrun]
    rfl
  have hstatus : (Outcome.ofEnding ending).status = .optimal ∨
      (Outcome.ofEnding ending).status = .unbounded := by
    rw [Outcome.status_ofEnding]
    rcases hending with hnone | ⟨column, hunbounded⟩
    · rw [hnone]
      exact .inl rfl
    · rw [hunbounded]
      exact .inr rfl
  refine ⟨_, houtcome, hstatus, fun limit trail he => ?_, last, hlast, ?_⟩
  · rw [he] at hstatus
    rcases hstatus with h | h <;> cases h
  · rw [Outcome.trail?_ofEnding, htrail]

/-- A problem whose first pivots all leave its solution at zero. -/
def circular : LinearProgram ℚ where
  direction := .maximize
  objective := [10, -57, -9, -24, 0, 0, 0]
  constraints := [⟨[1 / 2, -11 / 2, -5 / 2, 9, 1, 0, 0], .equal, 0⟩,
    ⟨[1 / 2, -3 / 2, -1 / 2, 1, 0, 1, 0], .equal, 0⟩, ⟨[1, 0, 0, 0, 0, 0, 1], .equal, 1⟩]
  dimension := 7
  rectangular := by decide

/-- The last three variables as a basis. -/
def circularStart : BasicSolution ℚ where
  basis := [4, 5, 6]
  values := [0, 0, 1]
  dimension := 7
  paired := rfl
  basis_lt := by decide

/-- As many pivots as there are ways to choose three of the seven variables. -/
def thirtyFivePivots : Settings ℚ where
  limit := 35
  epsilon := 0
  history := false

theorem solveFrom_lowest_terminates_circular :
    (∀ c ∈ circular.constraints, 0 ≤ c.bound) ∧
      circular.dimension.choose circular.constraints.length ≤ thirtyFivePivots.limit ∧
      ∃ first, circular.trail? circularStart thirtyFivePivots.epsilon = .ok first ∧
        first.tableau.IsExactlyCanonical ∧
        ∃ outcome, circular.solveFrom thirtyFivePivots .lowest circularStart = .ok outcome ∧
          (outcome.status = .optimal ∨ outcome.status = .unbounded) ∧
          ∃ last ∈ (RunState.visited thirtyFivePivots.limit
              (RunState.start .lowest (first.record thirtyFivePivots.history))).getLast?,
            outcome.trail? = some last.trail := by
  have hbound : ∀ c ∈ circular.constraints, 0 ≤ c.bound := by decide +kernel
  have hlimit : circular.dimension.choose circular.constraints.length ≤
      thirtyFivePivots.limit := by decide
  have hwithin : (circular.trail? circularStart thirtyFivePivots.epsilon).map (fun first =>
      decide (first.tableau.IsCanonicalWithin 0)) = .ok true := by
    decide +kernel
  obtain ⟨first, hfirst, hcanonical⟩ := exists_of_map_eq_ok hwithin
  have hc := (Tableau.isExactlyCanonical_iff first.tableau).mpr (of_decide_eq_true hcanonical)
  obtain ⟨-, hterminates⟩ := circular.solveFrom_lowest_terminates hbound rfl hfirst hc
  obtain ⟨outcome, houtcome, hstatus, -, hlast⟩ := hterminates hlimit
  exact ⟨hbound, hlimit, first, hfirst, hc, outcome, houtcome, hstatus, hlast⟩

/-- The largest rule goes round in circles on the same problem. -/
example : (circular.solveFrom thirtyFivePivots .largest circularStart).map Outcome.message? =
    .ok (some "Max iterations exceeded") := by
  decide +kernel

end LinearProgramming
