import LinearProgramming.Proofs.Run.Recurrence
import LinearProgramming.Proofs.Tableau.LowestPivots

/-!
# The lowest rule terminates

Without a tolerance the steps of the lowest rule are lowest pivots, so a run from a feasible
canonical tableau never visits a set of basic variables twice. There are only so many sets
of that size. With a limit of as many pivots the run ends before the limit is reached, and
the outcome is optimal or unbounded.
-/

namespace LinearProgramming

namespace RunState

variable {F : Type} [Field F] [LinearOrder F] [IsStrictOrderedRing F] {m n : Nat}
  {s : RunState (PivotRule.lowest : PivotRule F) m n}

theorem Step.exists_isLowestPivot {s' : RunState (PivotRule.lowest : PivotRule F) m n}
    (hε : s.trail.tableau.epsilon = 0) (h : Step s s') :
    ∃ r k, s'.trail.tableau = s.trail.tableau.pivot r k ∧
      s.trail.tableau.IsLowestPivot r k := by
  obtain ⟨hopt, choice, hchoice, rfl⟩ := h
  obtain ⟨k, -, hchoose⟩ := choose_lowest s hε hopt
  obtain ⟨rfl, hlowest⟩ := hchoose.of_pivot hchoice
  exact ⟨choice.row, choice.column, rfl, hlowest⟩

/-- The tableaux of a run of the lowest rule follow each other by lowest pivots. -/
theorem isLowestSequence_tableauAt (hε : s.trail.tableau.epsilon = 0)
    (hf : s.trail.tableau.IsFeasible) (hc : s.trail.tableau.IsExactlyCanonical) (left : Nat) :
    Tableau.IsLowestSequence (tableauAt left s) ((visited left s).length - 1) where
  canonical := hc
  feasible := hf
  epsilon_eq := hε
  pivot k hk := by
    obtain ⟨before, hmem, after, hstep, hbefore, hafter⟩ :=
      exists_step_tableauAt (show k + 1 < (visited left s).length by omega)
    rw [hbefore, hafter]
    exact hstep.exists_isLowestPivot
      (epsilon_eq_zero_of_mem_visited PivotRule.lowest_mem_ofMethod hε hf hmem)

theorem nodup_basisSet_visited (hε : s.trail.tableau.epsilon = 0)
    (hf : s.trail.tableau.IsFeasible) (hc : s.trail.tableau.IsExactlyCanonical) (left : Nat) :
    ((visited left s).map fun s => s.trail.tableau.basisSet).Nodup := by
  refine List.pairwise_iff_getElem.mpr fun a b ha hb hab => ?_
  rw [List.length_map] at ha hb
  rw [List.getElem_map, List.getElem_map, ← tableauAt_of_lt ha, ← tableauAt_of_lt hb]
  exact (isLowestSequence_tableauAt hε hf hc left).basisSet_ne hab (by omega)

/-- With a limit of as many pivots as there are sets of basic variables the run ends before
the limit is reached. -/
theorem exists_run_lowest_eq_ok (hε : s.trail.tableau.epsilon = 0)
    (hf : s.trail.tableau.IsFeasible) (hc : s.trail.tableau.IsExactlyCanonical) {limit : Nat}
    (hlimit : n.choose m ≤ limit) :
    ∃ ending, run limit limit s = .ok ending ∧
      (ending.failure = none ∨ ∃ column, ending.failure = some (.unbounded column)) := by
  obtain ⟨ending, hrun⟩ :=
    exists_run_ofMethod_eq_ok PivotRule.lowest_mem_ofMethod hε.ge limit limit
  exact ⟨ending, hrun, failure_of_nodup_basisSet PivotRule.lowest_mem_ofMethod hε hf hc hlimit
    (nodup_basisSet_visited hε hf hc limit) hrun⟩

end RunState

end LinearProgramming
