import LinearProgramming.Proofs.Run.Visited
import LinearProgramming.Proofs.Tableau.Verdict
import LinearProgramming.Solver

/-!
# How an outcome came about

An outcome with a trail comes from a run: a basis was found, the first tableau was
accepted, and the run came to an end, whose trail and failure the outcome reports. The
trail is that of the last state that the run visits.
-/

namespace LinearProgramming

theorem Failure.status_ne_optimal (failure : Failure) : failure.status ≠ .optimal := by
  cases failure <;> simp [Failure.status]

/-- What is said about an unbounded column is not what is said about the limit of pivots. -/
theorem Failure.message_unbounded_ne (column : Nat) :
    (unbounded column).message ≠ "Max iterations exceeded" := by
  intro h
  have hhead : (unbounded column).message.toList.head? = some 'P' := by
    show ("Problem is unbounded: x" ++ toString (variableNumber column) ++
      " can increase without limit").toList.head? = some 'P'
    rw [String.toList_append, String.toList_append, List.append_assoc]
    rfl
  rw [h] at hhead
  cases hhead

namespace Outcome

/-- Why there is no optimum, before it is put into words. -/
def failure? {F : Type} {m n : Nat} : Outcome F m n → Option Failure
  | optimal .. => none
  | failed failure _ => some failure

variable {F : Type} [Scalar F] {m n : Nat}

theorem failure?_ofEnding (ending : RunState.Ending F m n) :
    (ofEnding ending).failure? = ending.failure := by
  unfold ofEnding
  cases ending.failure <;> rfl

@[simp] theorem trail?_ofEnding (ending : RunState.Ending F m n) :
    (ofEnding ending).trail? = some ending.trail := by
  unfold ofEnding
  cases ending.failure <;> rfl

@[simp] theorem trail?_restrict (o : Outcome F m n) (p : LinearProgram F) :
    (o.restrict p).trail? = o.trail? := by
  cases o <;> rfl

theorem status_ofEnding (ending : RunState.Ending F m n) :
    (ofEnding ending).status = ending.failure.elim .optimal Failure.status := by
  unfold ofEnding
  cases ending.failure <;> rfl

theorem message?_ofEnding (ending : RunState.Ending F m n) :
    (ofEnding ending).message? = ending.failure.map Failure.message := by
  unfold ofEnding
  cases ending.failure <;> rfl

@[simp] theorem status_restrict (o : Outcome F m n) (p : LinearProgram F) :
    (o.restrict p).status = o.status := by
  cases o <;> rfl

end Outcome

namespace LinearProgram

variable {F : Type} [Scalar F] {settings : Settings F} {rule : PivotRule F}

/-- The run that the method makes on a problem from its first tableau. -/
def runFrom (settings : Settings F) (rule : PivotRule F) (q : LinearProgram F)
    (first : Tableau F q.constraints.length q.dimension) :
    Except Misuse (RunState.Ending F q.constraints.length q.dimension) :=
  RunState.run settings.limit settings.limit
    (RunState.start rule ((Trail.start first).record settings.history))

/-- The states that this run visits, oldest first. -/
def statesFrom (settings : Settings F) (rule : PivotRule F) (q : LinearProgram F)
    (first : Tableau F q.constraints.length q.dimension) :
    List (RunState rule q.constraints.length q.dimension) :=
  RunState.visited settings.limit
    (RunState.start rule ((Trail.start first).record settings.history))

/-- The pivots of this run with the states before and after them, oldest first. -/
def stepsFrom (settings : Settings F) (rule : PivotRule F) (q : LinearProgram F)
    (first : Tableau F q.constraints.length q.dimension) :
    List (RunState rule q.constraints.length q.dimension ×
      RunState.Choice rule q.constraints.length q.dimension ×
      RunState rule q.constraints.length q.dimension) :=
  RunState.steps settings.limit
    (RunState.start rule ((Trail.start first).record settings.history))

/-- Where a run of the method ends, and why. -/
theorem exists_last_of_runFrom {q : LinearProgram F}
    {first : Tableau F q.constraints.length q.dimension}
    {ending : RunState.Ending F q.constraints.length q.dimension}
    (hrun : q.runFrom settings rule first = .ok ending) :
    ∃ last ∈ q.statesFrom settings rule first, ∃ remaining,
      ending.trail = last.trail ∧ last.Stops settings.limit remaining ending.failure := by
  obtain ⟨last, hmem, remaining, htrail, -, hstops⟩ := RunState.exists_stop_of_run hrun
  exact ⟨last, hmem, remaining, htrail, hstops⟩

theorem solveFrom_of_tableau? {q : LinearProgram F} {start : BasicSolution F}
    {first : Tableau F q.constraints.length q.dimension}
    (h : q.tableau? start settings.epsilon = .ok first) :
    q.solveFrom settings rule start =
      (q.runFrom settings rule first).map Outcome.ofEnding := by
  unfold solveFrom trail?
  rw [h]
  rfl

theorem exists_runFrom_of_solveFrom {q : LinearProgram F} {start : BasicSolution F}
    {outcome : Outcome F q.constraints.length q.dimension}
    (h : q.solveFrom settings rule start = .ok outcome)
    {trail : Trail F q.constraints.length q.dimension} (ht : outcome.trail? = some trail) :
    ∃ first ending, q.tableau? start settings.epsilon = .ok first ∧
      q.runFrom settings rule first = .ok ending ∧ ending.trail = trail ∧
      outcome = Outcome.ofEnding ending := by
  cases hfirst : q.tableau? start settings.epsilon with
  | error failure =>
    unfold solveFrom trail? at h
    rw [hfirst] at h
    cases h
    cases ht
  | ok first =>
    rw [solveFrom_of_tableau? hfirst] at h
    obtain ⟨ending, hrun, rfl⟩ := exists_of_map_eq_ok h
    rw [Outcome.trail?_ofEnding] at ht
    exact ⟨first, ending, rfl, hrun, Option.some.inj ht, rfl⟩

/-- An outcome of a solver with a trail reports the end of a run on the standard form, in
terms of the problem. -/
theorem exists_runFrom_of_solve {finder : BasisFinder F} {p : LinearProgram F}
    {outcome : Outcome F p.standardForm.constraints.length p.standardForm.dimension}
    (h : p.solve settings rule finder = .ok outcome)
    {trail : Trail F p.standardForm.constraints.length p.standardForm.dimension}
    (ht : outcome.trail? = some trail) :
    ∃ start first ending, finder p.standardForm = .ok (.ok start) ∧
      p.standardForm.tableau? start settings.epsilon = .ok first ∧
      p.standardForm.runFrom settings rule first = .ok ending ∧ ending.trail = trail ∧
      outcome = (Outcome.ofEnding ending).restrict p := by
  unfold solve at h
  split at h
  case isTrue =>
    cases h
    cases ht
  case isFalse =>
    split at h
    case h_1 => cases h
    case h_2 =>
      cases h
      cases ht
    case h_3 start hstart =>
      split at h
      case isFalse =>
        cases h
        cases ht
      case isTrue =>
        obtain ⟨o, ho, rfl⟩ := exists_of_map_eq_ok h
        rw [Outcome.trail?_restrict] at ht
        obtain ⟨first, ending, hfirst, hrun, htrail, rfl⟩ := exists_runFrom_of_solveFrom ho ht
        exact ⟨start, first, ending, hstart, hfirst, hrun, htrail, rfl⟩

/-- An outcome with a trail reports the last state of a run on the standard form, and why the
run ended there. -/
theorem exists_state_of_solve {finder : BasisFinder F} {p : LinearProgram F}
    {outcome : Outcome F p.standardForm.constraints.length p.standardForm.dimension}
    (h : p.solve settings rule finder = .ok outcome)
    {trail : Trail F p.standardForm.constraints.length p.standardForm.dimension}
    (ht : outcome.trail? = some trail) :
    ∃ start first last failure remaining, finder p.standardForm = .ok (.ok start) ∧
      p.standardForm.tableau? start settings.epsilon = .ok first ∧
      outcome = (Outcome.ofEnding ⟨trail, failure⟩).restrict p ∧
      last ∈ p.standardForm.statesFrom settings rule first ∧ last.trail = trail ∧
      last.Stops settings.limit remaining failure := by
  obtain ⟨start, first, ending, hstart, hfirst, hrun, rfl, rfl⟩ := exists_runFrom_of_solve h ht
  obtain ⟨last, hmem, remaining, hlast, hstops⟩ := exists_last_of_runFrom hrun
  exact ⟨start, first, last, ending.failure, remaining, hstart, hfirst, rfl, hmem, hlast.symm,
    hstops⟩

/-- The pivots of the run that solving a problem makes, if it gets as far as a run. -/
def solveSteps (settings : Settings F) (rule : PivotRule F) (finder : BasisFinder F)
    (p : LinearProgram F) :
    List (RunState rule p.standardForm.constraints.length p.standardForm.dimension ×
      RunState.Choice rule p.standardForm.constraints.length p.standardForm.dimension ×
      RunState rule p.standardForm.constraints.length p.standardForm.dimension) :=
  match finder p.standardForm with
  | .ok (.ok start) =>
    match p.standardForm.tableau? start settings.epsilon with
    | .ok first => p.standardForm.stepsFrom settings rule first
    | .error _ => []
  | _ => []

theorem solveSteps_eq {finder : BasisFinder F} {p : LinearProgram F} {start : BasicSolution F}
    (hstart : finder p.standardForm = .ok (.ok start))
    {first : Tableau F p.standardForm.constraints.length p.standardForm.dimension}
    (hfirst : p.standardForm.tableau? start settings.epsilon = .ok first) :
    p.solveSteps settings rule finder = p.standardForm.stepsFrom settings rule first := by
  unfold solveSteps
  rw [hstart]
  dsimp only
  rw [hfirst]

/-- An optimal outcome reports an optimal tableau. -/
theorem exists_optimal_state_of_solve {finder : BasisFinder F} {p : LinearProgram F}
    {outcome : Outcome F p.standardForm.constraints.length p.standardForm.dimension}
    (h : p.solve settings rule finder = .ok outcome) (hstatus : outcome.status = .optimal) :
    ∃ start first last, finder p.standardForm = .ok (.ok start) ∧
      p.standardForm.tableau? start settings.epsilon = .ok first ∧
      last ∈ p.standardForm.statesFrom settings rule first ∧ last.trail.tableau.IsOptimal ∧
      outcome = (Outcome.ofOptimal last.trail).restrict p := by
  obtain ⟨trail, htrail⟩ : ∃ trail, outcome.trail? = some trail := by
    cases outcome with
    | optimal value solution trail => exact ⟨trail, rfl⟩
    | failed failure trail => exact absurd hstatus failure.status_ne_optimal
  obtain ⟨start, first, last, failure, remaining, hstart, hfirst, rfl, hmem, rfl, hstops⟩ :=
    exists_state_of_solve h htrail
  rw [Outcome.status_restrict, Outcome.status_ofEnding] at hstatus
  cases failure with
  | some failure => exact absurd hstatus failure.status_ne_optimal
  | none =>
    cases hstops with
    | optimal hopt => exact ⟨start, first, last, hstart, hfirst, hmem, hopt, rfl⟩

/-- Without a tableau the reason is no verdict of the method: the problem is empty, or there
is no basis to start from. -/
theorem status_of_trail?_eq_none {p : LinearProgram F}
    {outcome : Outcome F p.standardForm.constraints.length p.standardForm.dimension}
    (h : p.solve settings rule .slacks = .ok outcome) (ht : outcome.trail? = none) :
    outcome.status = .error ∨ outcome.status = .infeasible := by
  unfold solve at h
  split at h
  case isTrue =>
    cases h
    exact .inl rfl
  case isFalse =>
    split at h
    case h_1 => cases h
    case h_2 failure hfailure =>
      cases h
      have hslack : p.standardForm.slackBasis = .error failure := Except.ok.inj hfailure
      unfold slackBasis at hslack
      split at hslack
      · cases hslack
        exact .inl rfl
      · cases hslack
    case h_3 start hstart =>
      split at h
      case isFalse =>
        cases h
        exact .inr rfl
      case isTrue =>
        obtain ⟨o, ho, rfl⟩ := exists_of_map_eq_ok h
        cases hfirst : p.standardForm.tableau? start settings.epsilon with
        | error failure =>
          obtain ⟨reason, rfl⟩ := exists_inconsistent_of_tableau? hfirst
          unfold solveFrom trail? at ho
          rw [hfirst] at ho
          cases ho
          exact .inl rfl
        | ok first =>
          rw [solveFrom_of_tableau? hfirst] at ho
          obtain ⟨ending, -, rfl⟩ := exists_of_map_eq_ok ho
          rw [Outcome.trail?_restrict, Outcome.trail?_ofEnding] at ht
          cases ht

/-- An unbounded outcome from the basis of slacks reports a tableau where no pivot was
chosen. -/
theorem exists_unbounded_state_of_solve {p : LinearProgram F}
    {outcome : Outcome F p.standardForm.constraints.length p.standardForm.dimension}
    (h : p.solve settings rule .slacks = .ok outcome) (hstatus : outcome.status = .unbounded) :
    ∃ start first last failure, BasisFinder.slacks p.standardForm = .ok (.ok start) ∧
      p.standardForm.tableau? start settings.epsilon = .ok first ∧
      last ∈ p.standardForm.statesFrom settings rule first ∧
      ¬ last.trail.tableau.IsOptimal ∧ last.choose = .ok (.error failure) ∧
      outcome = .failed failure (some last.trail) := by
  cases ht : outcome.trail? with
  | none =>
    have hother := status_of_trail?_eq_none h ht
    rw [hstatus] at hother
    rcases hother with h | h <;> cases h
  | some trail =>
    obtain ⟨start, first, last, failure, remaining, hstart, hfirst, rfl, hmem, rfl, hstops⟩ :=
      exists_state_of_solve h ht
    rw [Outcome.status_restrict, Outcome.status_ofEnding] at hstatus
    cases hstops with
    | optimal => cases hstatus
    | limit => cases hstatus
    | noPivot hopt hchoose =>
      exact ⟨start, first, last, _, hstart, hfirst, hmem, hopt, hchoose, rfl⟩

end LinearProgram

end LinearProgramming
