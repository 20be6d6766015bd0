import LinearProgramming.Proofs.Run.Recurrence
import LinearProgramming.Proofs.Solver.Termination

/-!
# What it takes to exhaust a large limit

The largest and the first rule can go round in circles, and give no bound on the pivots they
make. Still the objective is a function of the set of basic variables, and every pivot that
is not degenerate raises it. A run therefore comes back to a set only by degenerate pivots,
and without one it ends before it has made as many pivots as there are sets.
-/

namespace LinearProgramming

variable {F : Type} [Field F] [LinearOrder F] [IsStrictOrderedRing F] {settings : Settings F}
  {rule : PivotRule F}

/-- **Only degenerate pivots exhaust a large limit.** The numbers are exact, there is no
tolerance, the bounds are not negative and the first tableau is canonical. Under any rule of
the method, if a run has the same set of basic variables at two times, all pivots between
them are degenerate. If the limit is at least the count of the sets with as many variables as
there are constraints, a run without a degenerate pivot ends with an optimal or an unbounded
outcome, and an outcome that reports the limit had a degenerate pivot. The trail of the outcome
is that of the last state that these pivots lead to. -/
theorem LinearProgram.solveFrom_exhausted_degenerate (p : LinearProgram F)
    (hbound : ∀ c ∈ p.constraints, 0 ≤ c.bound) (hε : settings.epsilon = 0)
    (hrule : rule ∈ PivotRule.ofMethod) {start : BasicSolution F}
    {first : Trail F p.constraints.length p.dimension}
    (hfirst : p.trail? start settings.epsilon = .ok first)
    (hc : first.tableau.IsExactlyCanonical) :
    let initial := RunState.start rule (first.record settings.history)
    (∀ left a b sa sb, (RunState.visited left initial)[a]? = some sa →
      (RunState.visited left initial)[b]? = some sb →
      sb.trail.tableau.basisSet = sa.trail.tableau.basisSet →
      ∀ step ∈ ((RunState.steps left initial).take b).drop a, RunState.IsDegenerate step) ∧
    (p.dimension.choose p.constraints.length ≤ settings.limit →
      ∃ outcome, p.solveFrom settings rule start = .ok outcome ∧
        ((∀ step ∈ RunState.steps settings.limit initial, ¬ RunState.IsDegenerate step) →
          outcome.status = .optimal ∨ outcome.status = .unbounded) ∧
        (outcome.message? = some "Max iterations exceeded" →
          ∃ step ∈ RunState.steps settings.limit initial, RunState.IsDegenerate step) ∧
        ∃ last ∈ (RunState.visited settings.limit initial).getLast?,
          outcome.trail? = some last.trail) := by
  intro initial
  obtain ⟨t, ht, rfl⟩ := exists_of_map_eq_ok hfirst
  have hfirst' := isFirstTableau_of_tableau? ht
  have hε' : t.epsilon = 0 := hfirst'.epsilon_eq.trans hε
  have hf : t.IsFeasible := hfirst'.isFeasible hbound
  refine ⟨fun left a b sa sb ha hb hcycle =>
    RunState.isDegenerate_of_basisSet_eq hrule hε' hf hc ha hb hcycle, fun hlimit => ?_⟩
  obtain ⟨ending, hrun⟩ := RunState.exists_run_ofMethod_eq_ok (s := initial) hrule
    (show (0 : F) ≤ t.epsilon from hε'.ge) settings.limit settings.limit
  have houtcome : p.solveFrom settings rule start = .ok (Outcome.ofEnding ending) := by
    rw [solveFrom_of_tableau? ht, runFrom, hrun]
    rfl
  have hending (h : ∀ step ∈ RunState.steps settings.limit initial,
      ¬ RunState.IsDegenerate step) :
      ending.failure = none ∨ ∃ column, ending.failure = some (.unbounded column) :=
    RunState.failure_of_nodup_basisSet hrule hε' hf hc hlimit
      (RunState.nodup_basisSet_of_not_isDegenerate hrule hε' hf hc h) hrun
  obtain ⟨last, -, hlast, htrail, -, -⟩ := RunState.run_eq_ok hrun
  refine ⟨_, houtcome, fun h => ?_, fun hmessage => ?_, last, hlast, ?_⟩
  · rw [Outcome.status_ofEnding]
    rcases hending h with hnone | ⟨column, hunbounded⟩
    · rw [hnone]
      exact .inl rfl
    · rw [hunbounded]
      exact .inr rfl
  · by_contra! h
    rw [Outcome.message?_ofEnding] at hmessage
    rcases hending h with hnone | ⟨column, hunbounded⟩
    · rw [hnone] at hmessage
      cases hmessage
    · rw [hunbounded] at hmessage
      exact Failure.message_unbounded_ne column (Option.some.inj hmessage)
  · rw [Outcome.trail?_ofEnding, htrail]

/-- Six pivots of the largest rule lead back to the slacks, so none of them moves anything. -/
theorem solveFrom_exhausted_degenerate_circular :
    (∀ c ∈ circular.constraints, 0 ≤ c.bound) ∧
      (PivotRule.largest : PivotRule ℚ) ∈ PivotRule.ofMethod ∧
      circular.dimension.choose circular.constraints.length ≤ thirtyFivePivots.limit ∧
      ∃ first, circular.trail? circularStart thirtyFivePivots.epsilon = .ok first ∧
        first.tableau.IsExactlyCanonical ∧
        let initial := RunState.start .largest (first.record thirtyFivePivots.history)
        (RunState.steps 6 initial).length = 6 ∧
        (∀ step ∈ RunState.steps 6 initial, RunState.IsDegenerate step) ∧
        ∃ outcome, circular.solveFrom thirtyFivePivots .largest circularStart = .ok outcome ∧
          outcome.message? = some "Max iterations exceeded" ∧
          (∃ step ∈ RunState.steps thirtyFivePivots.limit initial, RunState.IsDegenerate step) ∧
          ∃ last ∈ (RunState.visited thirtyFivePivots.limit initial).getLast?,
            outcome.trail? = some last.trail := by
  have hbound : ∀ c ∈ circular.constraints, 0 ≤ c.bound := by decide +kernel
  have hrule : (PivotRule.largest : PivotRule ℚ) ∈ PivotRule.ofMethod :=
    PivotRule.largest_mem_ofMethod
  have hlimit : circular.dimension.choose circular.constraints.length ≤
      thirtyFivePivots.limit := by decide
  have hshown : (circular.trail? circularStart thirtyFivePivots.epsilon).map (fun first =>
      let initial := RunState.start .largest (first.record thirtyFivePivots.history)
      (decide (first.tableau.IsCanonicalWithin 0), (RunState.steps 6 initial).length,
        (RunState.visited 6 initial)[6]?.map fun s =>
          decide (s.trail.tableau.basisSet = first.tableau.basisSet))) =
      .ok (true, 6, some true) := by
    decide +kernel
  obtain ⟨first, hfirst, hparts⟩ := exists_of_map_eq_ok hshown
  obtain ⟨hwithin, hlength, hreturn⟩ := Prod.ext_iff.mp hparts |>.imp_right Prod.ext_iff.mp
  obtain ⟨back, hback, hset⟩ := Option.map_eq_some_iff.mp hreturn
  have hc := (Tableau.isExactlyCanonical_iff first.tableau).mpr (of_decide_eq_true hwithin)
  obtain ⟨hcycle, hends⟩ := circular.solveFrom_exhausted_degenerate hbound rfl hrule hfirst hc
  have hsix := hcycle 6 0 6 _ back rfl hback (of_decide_eq_true hset)
  rw [List.drop_zero, List.take_of_length_le hlength.le] at hsix
  obtain ⟨outcome, houtcome, -, hdegenerate, hlast⟩ := hends hlimit
  have hmessage : (circular.solveFrom thirtyFivePivots .largest circularStart).map
      Outcome.message? = .ok (some "Max iterations exceeded") := by
    decide +kernel
  rw [houtcome] at hmessage
  exact ⟨hbound, hrule, hlimit, first, hfirst, hc, hlength, hsix, outcome, houtcome,
    Except.ok.inj hmessage, hdegenerate (Except.ok.inj hmessage), hlast⟩

end LinearProgramming
