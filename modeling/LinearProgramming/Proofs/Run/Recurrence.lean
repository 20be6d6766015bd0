import LinearProgramming.Proofs.Run.Visited
import LinearProgramming.Proofs.Tableau.ImprovingPivots

/-!
# Sets of basic variables that come back

Without a tolerance the pivots of the method improve, so a run that comes back to a set of
basic variables has made only degenerate pivots since. A run that never comes back to one
visits at most as many states as there are sets of that size, and if the limit allows that
many pivots it does not end because of the limit.
-/

namespace LinearProgramming.RunState

section Any

variable {F : Type} [Scalar F] {rule : PivotRule F} {m n : Nat}

/-- The tableau that a run visits after some pivots. -/
def tableauAt (left : Nat) (s : RunState rule m n) (k : Nat) :
    Tableau F m n :=
  ((visited left s)[k]?.getD s).trail.tableau

theorem tableauAt_of_getElem? {left k : Nat} {s s' : RunState rule m n}
    (h : (visited left s)[k]? = some s') : tableauAt left s k = s'.trail.tableau := by
  rw [tableauAt, h, Option.getD_some]

theorem tableauAt_of_lt {left k : Nat} {s : RunState rule m n} (hk : k < (visited left s).length) :
    tableauAt left s k = (visited left s)[k].trail.tableau :=
  tableauAt_of_getElem? (List.getElem?_eq_getElem hk)

/-- Neighbouring tableaux of a run are those before and after a step of it. -/
theorem exists_step_tableauAt {left k : Nat} {s : RunState rule m n}
    (hk : k + 1 < (visited left s).length) :
    ∃ before ∈ visited left s, ∃ after, Step before after ∧
      tableauAt left s k = before.trail.tableau ∧
      tableauAt left s (k + 1) = after.trail.tableau := by
  have hk' : k < (visited left s).length := by omega
  exact ⟨_, List.getElem_mem hk', _, List.isChain_iff_getElem.mp (isChain_visited left s) k hk,
    tableauAt_of_lt hk', tableauAt_of_lt hk⟩

/-- Each pivot leads from the state that the run visits at its index to the next one. -/
theorem getElem?_visited_of_steps {left k : Nat} {s : RunState rule m n}
    {step : RunState rule m n × Choice rule m n × RunState rule m n}
    (h : (steps left s)[k]? = some step) :
    (visited left s)[k]? = some step.1 ∧ (visited left s)[k + 1]? = some step.2.2 := by
  constructor
  · induction left generalizing s k with
    | zero =>
      rw [steps_zero] at h
      cases h
    | succ left ih =>
      by_cases hnext : ∃ s', Step s s'
      · obtain ⟨_, hopt, choice, hchoice, -⟩ := hnext
        rw [steps_of_choose hopt hchoice] at h
        rw [visited_of_step ⟨hopt, choice, hchoice, rfl⟩]
        cases k with
        | zero =>
          cases h
          rfl
        | succ k => exact ih h
      · rw [steps_of_not_step (not_exists.mp hnext)] at h
        cases h
  · unfold visited
    rw [List.getElem?_cons_succ, List.getElem?_map, h]
    rfl

/-- Whether a pivot is on a row with the value zero, so that it moves no variable. -/
def IsDegenerate (step : RunState rule m n × Choice rule m n × RunState rule m n) : Prop :=
  step.1.trail.tableau.value step.2.1.row = 0

end Any

variable {F : Type} [Field F] [LinearOrder F] [IsStrictOrderedRing F] {rule : PivotRule F}
  {m n : Nat} {s : RunState rule m n}

section Improving

variable (hrule : rule ∈ PivotRule.ofMethod) (hε : s.trail.tableau.epsilon = 0)
  (hf : s.trail.tableau.IsFeasible) (hc : s.trail.tableau.IsExactlyCanonical)

include hrule hε hf

theorem epsilon_eq_zero_of_mem_visited {left : Nat} {s' : RunState rule m n}
    (hs' : s' ∈ visited left s) : s'.trail.tableau.epsilon = 0 :=
  (isSound_of_mem_visited hrule hε hf left s' hs').derivesFrom.epsilon_eq.trans hε

include hc

/-- The tableaux of a run follow each other by improving pivots. -/
theorem isImprovingSequence_tableauAt (left : Nat) :
    Tableau.IsImprovingSequence (tableauAt left s) ((visited left s).length - 1) where
  canonical := hc
  feasible := hf
  epsilon_eq := hε
  pivot k hk := by
    obtain ⟨before, hmem, after, hstep, hbefore, hafter⟩ :=
      exists_step_tableauAt (show k + 1 < (visited left s).length by omega)
    rw [hbefore, hafter]
    exact hstep.exists_pivot hrule (epsilon_eq_zero_of_mem_visited hrule hε hf hmem)

/-- A run that comes back to a set of basic variables has made only degenerate pivots in
between. -/
theorem isDegenerate_of_basisSet_eq {left a b : Nat} {sa sb : RunState rule m n}
    (ha : (visited left s)[a]? = some sa) (hb : (visited left s)[b]? = some sb)
    (hcycle : sb.trail.tableau.basisSet = sa.trail.tableau.basisSet) :
    ∀ step ∈ ((steps left s).take b).drop a, IsDegenerate step := by
  intro step hstep
  obtain ⟨i, hi⟩ := List.mem_iff_getElem?.mp hstep
  rw [List.getElem?_drop, List.getElem?_take] at hi
  split at hi
  case isFalse => cases hi
  case isTrue hlt =>
    obtain ⟨hbefore, hafter⟩ := getElem?_visited_of_steps hi
    obtain ⟨hmem, hopt, hchoose, hnext⟩ := of_mem_steps (List.mem_of_getElem? hi)
    obtain ⟨hprofit, hleast⟩ := isLeastLimit_of_choose hrule
      (epsilon_eq_zero_of_mem_visited hrule hε hf hmem) hopt hchoose
    have hblt := (List.getElem?_eq_some_iff.mp hb).1
    have himproving := isImprovingSequence_tableauAt hrule hε hf hc left
    rw [← tableauAt_of_getElem? ha, ← tableauAt_of_getElem? hb] at hcycle
    rw [← tableauAt_of_getElem? hbefore] at hprofit hleast
    have hpivot : tableauAt left s (a + i + 1) =
        (tableauAt left s (a + i)).pivot step.2.1.row step.2.1.column := by
      rw [tableauAt_of_getElem? hbefore, tableauAt_of_getElem? hafter, hnext]
      rfl
    unfold IsDegenerate
    rw [← tableauAt_of_getElem? hbefore]
    exact himproving.value_eq_zero_of_basisSet_eq (by omega) hcycle (by omega) hlt hpivot
      hprofit hleast

/-- Without a degenerate pivot no set of basic variables comes back. -/
theorem nodup_basisSet_of_not_isDegenerate {left : Nat}
    (h : ∀ step ∈ steps left s, ¬ IsDegenerate step) :
    ((visited left s).map fun s => s.trail.tableau.basisSet).Nodup := by
  refine List.pairwise_iff_getElem.mpr fun a b ha hb hab hcycle => ?_
  rw [List.length_map] at ha hb
  rw [List.getElem_map, List.getElem_map] at hcycle
  have hdegenerate := isDegenerate_of_basisSet_eq hrule hε hf hc
    (List.getElem?_eq_getElem ha) (List.getElem?_eq_getElem hb) hcycle.symm
  have hsteps : a < (steps left s).length := by
    simp only [visited, List.length_cons, List.length_map] at hb
    omega
  have hmem : (steps left s)[a] ∈ ((steps left s).take b).drop a := by
    refine List.mem_iff_getElem?.mpr ⟨0, ?_⟩
    rw [List.getElem?_drop, List.getElem?_take, Nat.add_zero, if_pos hab,
      List.getElem?_eq_getElem hsteps]
  exact h _ (List.getElem_mem hsteps) (hdegenerate _ hmem)

/-- A run that never comes back visits no more states than there are sets of as many
variables as rows. -/
theorem length_visited_le_choose {left : Nat}
    (hnodup : ((visited left s).map fun s => s.trail.tableau.basisSet).Nodup) :
    (visited left s).length ≤ n.choose m := by
  have hsubset : ((visited left s).map fun s => s.trail.tableau.basisSet).toFinset ⊆
      Finset.univ.powersetCard m := by
    intro b hb
    obtain ⟨s', hs', rfl⟩ := List.mem_map.mp (List.mem_toFinset.mp hb)
    have hsound := isSound_of_mem_visited hrule hε hf left s' hs'
    exact Finset.mem_powersetCard.mpr ⟨Finset.subset_univ _,
      Tableau.card_basisSet (hsound.derivesFrom.isExactlyCanonical hc)⟩
  have hcard := Finset.card_le_card hsubset
  rw [List.toFinset_card_of_nodup hnodup, List.length_map, Finset.card_powersetCard,
    Finset.card_univ, Fintype.card_fin] at hcard
  exact hcard

/-- With a limit of as many pivots a run that never comes back ends before the limit is
reached. -/
theorem failure_of_nodup_basisSet {limit : Nat} (hlimit : n.choose m ≤ limit)
    (hnodup : ((visited limit s).map fun s => s.trail.tableau.basisSet).Nodup)
    {ending : Ending F m n} (hrun : run limit limit s = .ok ending) :
    ending.failure = none ∨ ∃ column, ending.failure = some (.unbounded column) := by
  obtain ⟨last, remaining, hlast, -, hlength, hstops⟩ := run_eq_ok hrun
  cases hfailure : ending.failure with
  | none => exact .inl rfl
  | some failure =>
    rw [hfailure] at hstops
    cases hstops with
    | limit =>
      have hle := length_visited_le_choose hrule hε hf hc hnodup
      omega
    | noPivot hopt hchoose =>
      obtain ⟨k, rfl, -⟩ := exists_unbounded_of_choose hrule last
        (epsilon_eq_zero_of_mem_visited hrule hε hf (List.mem_of_getLast? hlast)).ge hopt hchoose
      exact .inr ⟨k, rfl⟩

end Improving

end LinearProgramming.RunState
