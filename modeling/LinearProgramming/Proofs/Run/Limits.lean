import LinearProgramming.Proofs.Run.Replay

/-!
# Runs with different limits

The limit of pivots is looked at only after the tableau has been found not to be optimal, and
before a pivot is chosen. So a run that ends for another reason ends there with any larger
limit as well, and a run that the limit ends has gone through the first states of every run
with a larger limit.
-/

namespace LinearProgramming

namespace RunState

variable {F : Type} [Scalar F] {rule : PivotRule F} {m n : Nat}

/-- That no pivot is chosen never has to do with the limit. -/
theorem failure_ne_iterationLimit_of_choose {s : RunState rule m n} {failure : Failure}
    (h : s.choose = .ok (.error failure)) (limit : Nat) : failure ≠ .iterationLimit limit := by
  unfold choose at h
  split at h
  case h_1 =>
    cases h
    nofun
  case h_2 column memory _ =>
    split at h
    case h_1 => cases h
    case h_2 =>
      cases h
      nofun
    case h_3 row _ _ =>
      have hposition := Except.ok.inj h
      cases hfound : s.trail.tableau.pivotPosition? row column with
      | ok found =>
        rw [hfound] at hposition
        cases hposition
      | error refused =>
        rw [hfound] at hposition
        cases hposition
        rw [Tableau.failure_of_pivotPosition? hfound]
        nofun

/-- With fewer pivots allowed, a run visits the first of the states that it visits with more. -/
theorem visited_eq_take {left left' : Nat} (hle : left ≤ left') (s : RunState rule m n) :
    visited left s = (visited left' s).take (left + 1) := by
  induction left generalizing left' s with
  | zero =>
    rw [visited_zero]
    rfl
  | succ left ih =>
    obtain ⟨left', rfl⟩ : ∃ k, left' = k + 1 := Nat.exists_eq_add_one.mpr (by omega)
    by_cases h : ∃ s', Step s s'
    · obtain ⟨s', hstep⟩ := h
      rw [visited_of_step hstep, visited_of_step hstep, List.take_succ_cons,
        ih (Nat.le_of_succ_le_succ hle)]
    · rw [visited_of_not_step (not_exists.mp h), visited_of_not_step (not_exists.mp h)]
      rfl

/-- **A run that its limit does not end ends in the same way with any larger limit.** -/
theorem run_eq_of_failure_ne {limit limit' left left' : Nat} (hle : left ≤ left')
    {s : RunState rule m n} {ending : Ending F m n} (h : run limit left s = .ok ending)
    (hne : ending.failure ≠ some (.iterationLimit limit)) : run limit' left' s = .ok ending := by
  induction left generalizing left' s with
  | zero =>
    rw [run_zero] at h
    split at h
    case isTrue hopt =>
      cases h
      exact run_of_isOptimal hopt limit' left'
    case isFalse =>
      cases h
      exact absurd rfl hne
  | succ left ih =>
    obtain ⟨left', rfl⟩ : ∃ k, left' = k + 1 := Nat.exists_eq_add_one.mpr (by omega)
    rw [run_succ] at h ⊢
    split at h
    case isTrue hopt =>
      rw [if_pos hopt]
      exact h
    case isFalse hopt =>
      rw [if_neg hopt]
      cases hchoose : s.choose with
      | error misuse =>
        rw [hchoose] at h
        cases h
      | ok result =>
        rw [hchoose] at h
        cases result with
        | error failure => exact h
        | ok choice => exact ih (Nat.le_of_succ_le_succ hle) h

/-- A run that its limit ends has made all the pivots it was allowed. -/
theorem length_visited_of_iterationLimit {limit left : Nat} {s : RunState rule m n}
    {ending : Ending F m n} (h : run limit left s = .ok ending) {reached : Nat}
    (hfailure : ending.failure = some (.iterationLimit reached)) :
    reached = limit ∧ (visited left s).length = left + 1 := by
  obtain ⟨last, remaining, -, -, hlength, hstops⟩ := run_eq_ok h
  rw [hfailure] at hstops
  cases hstops with
  | limit => exact ⟨rfl, hlength⟩
  | noPivot _ hchoose => exact absurd rfl (failure_ne_iterationLimit_of_choose hchoose reached)

/-- A run that its limit ends is continued by every run with a larger limit: it ends in the
state which that one is in after as many pivots, and with full histories its history is the
beginning of the other. -/
theorem exists_state_of_iterationLimit {s : RunState rule m n} (hpivots : s.trail.pivots = 0)
    {limit limit' : Nat} (hle : limit ≤ limit') {ending ending' : Ending F m n}
    (h : run limit limit s = .ok ending) (h' : run limit' limit' s = .ok ending') {reached : Nat}
    (hfailure : ending.failure = some (.iterationLimit reached)) :
    limit ≤ ending'.trail.pivots ∧
      (∃ state, (visited limit' s)[limit]? = some state ∧ state.trail = ending.trail) ∧
      (s.trail.recording = true → s.trail.history.toList = [s.trail.tableau.snapshot] →
        ending.trail.history.toList = ending'.trail.history.toList.take (limit + 1)) := by
  obtain ⟨-, hlength⟩ := length_visited_of_iterationLimit h hfailure
  obtain ⟨last, _, hlast, htrail, -, -⟩ := run_eq_ok h
  obtain ⟨last', _, hlast', htrail', -, -⟩ := run_eq_ok h'
  rw [Option.mem_def, List.getLast?_eq_getElem?] at hlast hlast'
  rw [hlength, Nat.add_sub_cancel, visited_eq_take hle, List.getElem?_take_of_lt (by omega)]
    at hlast
  have hmore : limit < (visited limit' s).length := (List.getElem?_eq_some_iff.mp hlast).1
  refine ⟨?_, ⟨last, hlast, htrail.symm⟩, fun hrecording hstart => ?_⟩
  · rw [htrail', pivots_of_getElem?_visited hlast', hpivots]
    omega
  · rw [(history_of_run hrecording hstart hpivots h).1, (history_of_run hrecording hstart hpivots
      h').1, visited_eq_take hle, List.map_take]

end RunState

end LinearProgramming
