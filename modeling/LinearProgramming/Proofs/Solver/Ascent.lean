import LinearProgramming.Proofs.Run.Recorded
import LinearProgramming.Proofs.Solver.Inversion
import Mathlib.Algebra.Order.Field.Rat

/-!
# Runs of the method stay feasible and ascend

The basis may be any that is accepted: its columns need not be unit vectors, so the values
of a tableau need not be those of a point. Still none of them becomes negative, and each
pivot adds to the objective what its reduced cost, value and entry say beforehand. This
holds in all states, those at the limit of pivots and at an unbounded column included.
-/

namespace LinearProgramming

variable {F : Type} [Field F] [LinearOrder F] [IsStrictOrderedRing F] {settings : Settings F}
  {rule : PivotRule F}

/-- **Runs stay feasible and ascend.** The numbers are exact, there is no tolerance and no
bound is negative. In every state that a run of any length visits no value is negative, and
the recorded snapshots show neither a negative value nor an objective that falls. Each pivot
adds to the objective the product of the reduced cost of its column and the limit of its row,
which is zero only if the value of the row is. The method always ends with an outcome, whose
trail is that of a state of the run. -/
theorem LinearProgram.run_feasible_ascending (q : LinearProgram F)
    (hbound : ∀ c ∈ q.constraints, 0 ≤ c.bound) (hε : settings.epsilon = 0)
    (hrule : rule ∈ PivotRule.ofMethod) {start : BasicSolution F}
    {first : Trail F q.constraints.length q.dimension}
    (hfirst : q.trail? start settings.epsilon = .ok first) :
    let initial := RunState.start rule (first.record settings.history)
    (∀ left, ∀ s ∈ RunState.visited left initial,
      s.trail.tableau.IsFeasible ∧ s.trail.Ascends) ∧
    (∀ left, ∀ step ∈ RunState.steps left initial,
      let t := step.1.trail.tableau
      let r := step.2.1.row
      let k := step.2.1.column
      let gain := t.reducedCost k * t.value r / t.entry r k
      step.2.2.trail.tableau.objectiveValue = t.objectiveValue + gain ∧
        0 ≤ gain ∧ (0 < gain ↔ 0 < t.value r)) ∧
    ∃ outcome, q.solveFrom settings rule start = .ok outcome ∧
      ∃ s ∈ RunState.visited settings.limit initial, outcome.trail? = some s.trail := by
  intro initial
  obtain ⟨t, ht, rfl⟩ := exists_of_map_eq_ok hfirst
  have hfirst' := isFirstTableau_of_tableau? ht
  have hzero : t.epsilon = 0 := hfirst'.epsilon_eq.trans hε
  have hf : t.IsFeasible := hfirst'.isFeasible hbound
  have hsound (left : Nat) : ∀ s ∈ RunState.visited left initial, s.IsSound t :=
    RunState.isSound_of_mem_visited hrule hzero hf left
  have hascends := RunState.ascends_of_mem_visited (s := initial) hrule hzero hf
    (Trail.ascends_start hf settings.history)
  refine ⟨fun left s hs => ⟨(hsound left s hs).feasible, hascends left s hs⟩, ?_, ?_⟩
  · intro left step hstep
    obtain ⟨hmem, hopt, hchoose, hnext⟩ := RunState.of_mem_steps hstep
    have hs := hsound left step.1 hmem
    rw [hnext]
    exact RunState.gain_of_choose hrule (hs.derivesFrom.epsilon_eq.trans hzero) hs.feasible hopt
      hchoose
  · obtain ⟨ending, hrun⟩ := RunState.exists_run_ofMethod_eq_ok (s := initial) hrule
      (show (0 : F) ≤ t.epsilon from hzero.ge) settings.limit settings.limit
    obtain ⟨last, hmem, -, htrail, -⟩ := exists_last_of_runFrom hrun
    refine ⟨Outcome.ofEnding ending, ?_, last, hmem, ?_⟩
    · rw [solveFrom_of_tableau? ht, runFrom, hrun]
      rfl
    · rw [Outcome.trail?_ofEnding, htrail]

/-- Two equations with the slacks first, the second of which has coefficient minus one. -/
def surplus : LinearProgram ℚ where
  direction := .maximize
  objective := [0, 0, 2, 1]
  constraints := [⟨[1, 0, 1, 1], .equal, 4⟩, ⟨[0, -1, 1, -1], .equal, 1⟩]
  dimension := 4
  rectangular := by decide

/-- The slacks as a basis, whose columns are not all unit vectors. -/
def surplusStart : BasicSolution ℚ where
  basis := [0, 1]
  values := [4, 1]
  dimension := 4
  paired := rfl
  basis_lt := by decide

/-- Ten pivots without a tolerance, with the whole history. -/
def tenRecordedPivots : Settings ℚ where
  limit := 10
  epsilon := 0
  history := true

theorem run_feasible_ascending_surplus :
    (∀ c ∈ surplus.constraints, 0 ≤ c.bound) ∧
      (PivotRule.largest : PivotRule ℚ) ∈ PivotRule.ofMethod ∧
      ∃ first, surplus.trail? surplusStart tenRecordedPivots.epsilon = .ok first ∧
        ¬ first.tableau.IsCanonicalWithin 0 ∧
        ∃ outcome, surplus.solveFrom tenRecordedPivots .largest surplusStart = .ok outcome ∧
          ∃ trail, outcome.trail? = some trail ∧ trail.tableau.IsFeasible ∧ trail.Ascends ∧
            trail.history.toList.map Snapshot.objective? =
              [some 0, some 2, some (13 / 2), some 8] := by
  have hbound : ∀ c ∈ surplus.constraints, 0 ≤ c.bound := by decide +kernel
  have hrule : (PivotRule.largest : PivotRule ℚ) ∈ PivotRule.ofMethod :=
    PivotRule.largest_mem_ofMethod
  have hfirst : surplus.trail? surplusStart tenRecordedPivots.epsilon = .ok _ := rfl
  obtain ⟨hstates, -, outcome, houtcome, s, hs, htrail⟩ :=
    surplus.run_feasible_ascending hbound (rfl : tenRecordedPivots.epsilon = 0) hrule hfirst
  have hshown : (surplus.solveFrom tenRecordedPivots .largest surplusStart).map
      (fun o => o.trail?.map fun t => t.history.toList.map Snapshot.objective?) =
        .ok (some [some 0, some 2, some (13 / 2), some 8]) := by
    decide +kernel
  rw [houtcome] at hshown
  have hobjectives : (outcome.trail?.map fun t => t.history.toList.map Snapshot.objective?) =
      some [some 0, some 2, some (13 / 2), some 8] := Except.ok.inj hshown
  rw [htrail] at hobjectives
  obtain ⟨hf, hascends⟩ := hstates _ s hs
  exact ⟨hbound, hrule, _, hfirst, by decide +kernel, outcome, houtcome, s.trail, htrail, hf,
    hascends, Option.some.inj hobjectives⟩

end LinearProgramming
