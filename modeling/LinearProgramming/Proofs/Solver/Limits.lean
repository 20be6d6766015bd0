import LinearProgramming.Proofs.Checked.Run
import LinearProgramming.Proofs.Run.Limits
import LinearProgramming.Proofs.Solver.Inversion
import Mathlib.Algebra.Order.Field.Rat

/-!
# A larger limit only extends a run

The method ends in the same way, down to the last snapshot, with every limit that it does not
reach. Where it does reach its limit, what it has by then is what a run with a larger limit
has after as many pivots. The numbers need not obey any law.
-/

namespace LinearProgramming

namespace Outcome

variable {F : Type} {m n : Nat}

/-- Whether a run ended because of its limit. -/
def IsCutOff (o : Outcome F m n) : Prop := ∃ reached, o.failure? = some (.iterationLimit reached)

end Outcome

namespace LinearProgram

variable {F : Type} [Scalar F]

/-- Without a first tableau there is no run, and the limit plays no part. -/
theorem solveFrom_of_tableau?_error {settings : Settings F} {rule : PivotRule F}
    {p : LinearProgram F} {start : BasicSolution F} {failure : Failure}
    (h : p.tableau? start settings.epsilon = .error failure) :
    p.solveFrom settings rule start = .ok (.failed failure none) := by
  unfold solveFrom trail?
  rw [h]
  rfl

/-- **A larger limit only extends a run.** For every problem and basic solution and each rule of
the method, two limits give an outcome each. Unless the smaller limit is why the method gave up,
the two outcomes are the same in every part. If it is, the other outcome comes with a trail of at
least as many pivots as the smaller limit. The trail where the method gave up is that of the
state which the other run is in after exactly these pivots, and with all snapshots kept its
history is the beginning of the other. -/
theorem solveFrom_limit_extends (settings : Settings F) (rule : MethodRule)
    (p : LinearProgram F) (start : BasicSolution F) {limit limit' : Nat} (hle : limit ≤ limit') :
    ∃ outcome outcome',
      p.solveFrom { settings with limit } rule.rule start = .ok outcome ∧
      p.solveFrom { settings with limit := limit' } rule.rule start = .ok outcome' ∧
      (¬ outcome.IsCutOff → outcome' = outcome) ∧
      (outcome.IsCutOff → ∃ first cut full state last,
        p.tableau? start settings.epsilon = .ok first ∧
        outcome = .failed (.iterationLimit limit) (some cut) ∧ outcome'.trail? = some full ∧
        limit ≤ full.pivots ∧
        let states := p.statesFrom { settings with limit := limit' } rule.rule first
        states[limit]? = some state ∧ state.trail = cut ∧
        states.getLast? = some last ∧ last.trail = full ∧
        (settings.history = true →
          cut.history.toList = full.history.toList.take (limit + 1))) := by
  cases hfirst : p.tableau? start settings.epsilon with
  | error failure =>
    refine ⟨_, _, solveFrom_of_tableau?_error hfirst, solveFrom_of_tableau?_error hfirst,
      fun _ => rfl, ?_⟩
    rintro ⟨reached, h⟩
    obtain ⟨reason, rfl⟩ := exists_inconsistent_of_tableau? hfirst
    cases h
  | ok first =>
    let initial := RunState.start rule.rule ((Trail.start first).record settings.history)
    have hsolve (k : Nat) : p.solveFrom { settings with limit := k } rule.rule start =
        (RunState.run k k initial).map Outcome.ofEnding := solveFrom_of_tableau? hfirst
    obtain ⟨ending, hrun, -⟩ := RunState.exists_run_ledger limit limit initial
    obtain ⟨ending', hrun', -⟩ := RunState.exists_run_ledger limit' limit' initial
    refine ⟨Outcome.ofEnding ending, Outcome.ofEnding ending', ?_, ?_, fun hfinished => ?_,
      fun hcut => ?_⟩
    · rw [hsolve, hrun]
      rfl
    · rw [hsolve, hrun']
      rfl
    · rw [Outcome.IsCutOff, Outcome.failure?_ofEnding, not_exists] at hfinished
      have hsame : RunState.run limit' limit' initial = .ok ending :=
        RunState.run_eq_of_failure_ne hle hrun (hfinished limit)
      exact congrArg Outcome.ofEnding (Except.ok.inj (hrun'.symm.trans hsame))
    · obtain ⟨reached, hfailure⟩ := hcut
      rw [Outcome.failure?_ofEnding] at hfailure
      obtain ⟨hreached, -⟩ := RunState.length_visited_of_iterationLimit hrun hfailure
      obtain ⟨hpivots, ⟨state, hstate, htrail⟩, hhistory⟩ :=
        RunState.exists_state_of_iterationLimit (s := initial) rfl hle hrun hrun' hfailure
      obtain ⟨last, _, hlast, hfull, -, -⟩ := RunState.run_eq_ok hrun'
      refine ⟨first, ending.trail, ending'.trail, state, last, rfl, ?_,
        Outcome.trail?_ofEnding ending', hpivots, hstate, htrail, hlast, hfull.symm,
        fun hkept => hhistory hkept rfl⟩
      rw [Outcome.ofEnding, hfailure, hreached]

end LinearProgram

/-- A problem whose best corner lies next to the first one. The largest rule goes there by way
of the two others. -/
def longWay : LinearProgram ℚ where
  direction := .maximize
  objective := [2, 1, 0, 0]
  constraints := [⟨[4, 1, 0, 1], .equal, 25⟩, ⟨[1, 0, 1, 0], .equal, 5⟩]
  dimension := 4
  rectangular := by decide

/-- The last two variables as a basis, in the order of the equations. -/
def longWayStart : BasicSolution ℚ where
  basis := [3, 2]
  values := [25, 5]
  dimension := 4
  paired := rfl
  basis_lt := by decide

/-- The run takes three pivots, so a limit of two stops it just before its end. -/
theorem solveFrom_limit_extends_longWay :
    2 ≤ 10 ∧ ∃ outcome outcome' cut full,
      longWay.solveFrom { Settings.standard ℚ with limit := 2 } .largest longWayStart =
        .ok outcome ∧
      longWay.solveFrom { Settings.standard ℚ with limit := 10 } .largest longWayStart =
        .ok outcome' ∧
      outcome = .failed (.iterationLimit 2) (some cut) ∧ outcome'.status = .optimal ∧
      outcome'.trail? = some full ∧ full.pivots = 3 ∧
      cut.history.toList = full.history.toList.take 3 := by
  obtain ⟨outcome, outcome', hsolve, hsolve', -, hcut⟩ := longWay.solveFrom_limit_extends
    (Settings.standard ℚ) .largest longWayStart (show 2 ≤ 10 by decide)
  have hshown : (longWay.solveFrom { Settings.standard ℚ with limit := 2 } .largest
      longWayStart).map Outcome.failure? = .ok (some (.iterationLimit 2)) := by
    decide +kernel
  have hshown' : (longWay.solveFrom { Settings.standard ℚ with limit := 10 } .largest
      longWayStart).map (fun o => (o.status, o.trail?.map Trail.pivots)) =
        .ok (.optimal, some 3) := by
    decide +kernel
  rw [show (.largest : PivotRule ℚ) = MethodRule.largest.rule from rfl, hsolve] at hshown
  rw [show (.largest : PivotRule ℚ) = MethodRule.largest.rule from rfl, hsolve'] at hshown'
  obtain ⟨_, cut, full, _, _, -, houtcome, hfull, -, -, -, -, -, hhistory⟩ :=
    hcut ⟨2, Except.ok.inj hshown⟩
  obtain ⟨hstatus, hpivots⟩ := Prod.mk.inj (Except.ok.inj hshown')
  rw [hfull] at hpivots
  exact ⟨by decide, outcome, outcome', cut, full, hsolve, hsolve', houtcome, hstatus, hfull,
    Option.some.inj hpivots, hhistory rfl⟩

end LinearProgramming
