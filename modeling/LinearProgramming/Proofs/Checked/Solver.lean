import LinearProgramming.Proofs.Checked.Run
import LinearProgramming.Solver

/-!
# The solver goes wrong nowhere

This is the solver from the problem to its outcome, on plain lists and with every access,
difference and assumption checked: the slacks are put in their places one after the other, the
parts of the standard form are compared, the basis is taken from the end, the first sheet is
read from the constraints, and an optimum is checked once more before it is reported. Whatever
the problem, the settings and the rule, no check fails and the outcome is that of the solver.
-/

namespace LinearProgramming

open Checked

/-- How solving on plain lists ended. -/
inductive LedgerOutcome (F : Type) where
  | optimal (value : F) (solution : List F) (ledger : Ledger F)
  | failed (failure : Failure) (ledger : Option (Ledger F))

namespace LedgerOutcome

variable {F : Type} [Scalar F]

/-- The outcome of a run. Without a failure the sheet has to be optimal. -/
def ofRun (l : Ledger F) : Option Failure → Except Fault (LedgerOutcome F)
  | none => do
    let optimal ← l.sheet.isOptimal
    require (optimal = true)
    let value ← l.sheet.objectiveValue
    let solution ← l.sheet.solution
    .ok (.optimal value solution l)
  | some failure => .ok (.failed failure (some l))

/-- The outcome in terms of the problem whose standard form was solved. -/
def restrict (p : LinearProgram F) : LedgerOutcome F → LedgerOutcome F
  | optimal value solution l =>
    optimal (match p.direction with
      | .maximize => value
      | .minimize => -value) (solution.take p.dimension) l
  | failed failure l => failed failure l

end LedgerOutcome

/-- The contents of an outcome. -/
def Outcome.ledger {F : Type} {m n : Nat} : Outcome F m n → LedgerOutcome F
  | optimal value solution trail => .optimal value solution trail.ledger
  | failed failure trail => .failed failure (trail.map Trail.ledger)

section Plain

variable {F : Type}

/-- The basic solution with these variables and values, which have to fit together. The values
are also put in their places among all variables. -/
def BasicSolution.checked [Zero F] (basis : List Nat) (values : List F) (dimension : Nat) :
    Except Fault (BasicSolution F) :=
  if paired : basis.length = values.length then
    if basis_lt : ∀ j ∈ basis, j < dimension then do
      let _ ← (basis.zip values).foldlM (fun point e => set point e.1 e.2)
        (List.replicate dimension 0)
      .ok { basis, values, dimension, paired, basis_lt }
    else .error .assertion
  else .error .assertion

variable [Scalar F]

/-- The equations of a list of constraints, whose slacks start at the given place, and the place
behind their slacks. -/
def Constraint.checkedEquations (slacks : Nat) :
    Nat → List (Constraint F) → Except Fault (List (Constraint F) × Nat)
  | place, [] => .ok ([], place)
  | place, c :: rest =>
    match (c.oriented.relation.slackCoefficient : Option F) with
    | none => do
      let (equations, last) ← checkedEquations slacks place rest
      let coefficients := c.oriented.coefficients ++ List.replicate slacks 0
      .ok (⟨coefficients, .equal, c.oriented.bound⟩ :: equations, last)
    | some coefficient => do
      let row ← set (List.replicate slacks 0) place coefficient
      let (equations, last) ← checkedEquations slacks (place + 1) rest
      .ok (⟨c.oriented.coefficients ++ row, .equal, c.oriented.bound⟩ :: equations, last)

namespace LinearProgram

/-- The problem with these parts, whose rows all have to be as long as there are variables. -/
def ofParts (direction : Direction) (objective : List F) (constraints : List (Constraint F))
    (dimension : Nat) : Except Fault (LinearProgram F) :=
  if rectangular : ∀ c ∈ constraints, c.coefficients.length = dimension then
    .ok { direction, objective, constraints, dimension, rectangular }
  else .error .assertion

/-- The standard form, whose slacks all have to find their place. -/
def checkedStandardForm (p : LinearProgram F) : Except Fault (LinearProgram F) := do
  let (constraints, last) ← Constraint.checkedEquations p.inequalities 0 p.constraints
  require (last = p.inequalities)
  ofParts .maximize (p.costs ++ List.replicate p.inequalities 0) constraints
    (p.dimension + p.inequalities)

/-- The last variables as a basis. -/
def checkedSlacks (p : LinearProgram F) : Except Fault (Except Failure (BasicSolution F)) :=
  if p.dimension < p.constraints.length then
    .ok (.error (.inconsistent (.noSlackBasis p.constraints.length p.dimension)))
  else do
    let first ← sub p.dimension p.constraints.length
    let start ← BasicSolution.checked (List.range' first (p.dimension - first)) p.bounds p.dimension
    .ok (.ok start)

/-- The entries of the constraints, read one after the other. -/
def checkedRows (p : LinearProgram F) : Except Fault (List (List F)) :=
  (List.range p.constraints.length).mapM fun i => (List.range p.dimension).mapM fun j => do
    let constraint ← get p.constraints i
    get constraint.coefficients j

/-- The first ledger of a problem. Its basic columns are looked at, and its snapshot is taken. -/
def ledger? (p : LinearProgram F) (start : BasicSolution F) (epsilon : F) :
    Except Fault (Except Failure (Ledger F)) :=
  if start.basis.length = p.constraints.length then
    if p.objective.length = p.dimension then
      match start.basis.find? fun j => p.dimension ≤ j with
      | some j => .ok (.error (.inconsistent (.basisVariable j p.dimension)))
      | none => do
        let rows ← p.checkedRows
        let sheet : Sheet F := {
          rows, width := p.dimension, values := p.bounds, costs := p.objective
          basis := start.basis, epsilon }
        let _ ← sheet.basicColumns
        let snapshot ← sheet.snapshot
        .ok (.ok { sheet, recording := true, history := [snapshot], pivots := 0 })
    else .ok (.error (.inconsistent (.objectiveLength p.objective.length p.dimension)))
  else .ok (.error (.inconsistent (.basisSize start.basis.length p.constraints.length)))

/-- The method on a problem as it is given, from a basic solution. -/
def checkedSolveFrom (settings : Settings F) (rule : MethodRule) (p : LinearProgram F)
    (start : BasicSolution F) : Except Fault (LedgerOutcome F) := do
  let first ← p.ledger? start settings.epsilon
  match first with
  | .error failure => .ok (.failed failure none)
  | .ok first => do
    let (last, failure) ←
      Ledger.run rule settings.limit settings.limit { first with recording := settings.history }
    LedgerOutcome.ofRun last failure

/-- Solves a problem. The count of the slacks is also taken, as it is reported. -/
def checkedSolve (settings : Settings F) (rule : MethodRule) (p : LinearProgram F) :
    Except Fault (LedgerOutcome F) :=
  if p.isEmpty then .ok (.failed .emptyProblem none)
  else do
    let q ← p.checkedStandardForm
    let _ ← sub q.dimension p.dimension
    let found ← q.checkedSlacks
    match found with
    | .error failure => .ok (.failed failure none)
    | .ok start =>
      if start.IsFeasible then do
        let outcome ← q.checkedSolveFrom settings rule start
        .ok (outcome.restrict p)
      else .ok (.failed .noInitialBasis none)

end LinearProgram

end Plain

variable {F : Type}

theorem BasicSolution.checked_eq_ok [Zero F] {basis : List Nat} {values : List F} {dimension : Nat}
    (paired : basis.length = values.length) (basis_lt : ∀ j ∈ basis, j < dimension) :
    checked basis values dimension = .ok { basis, values, dimension, paired, basis_lt } := by
  have hplaces : ∀ e ∈ basis.zip values, e.1 < dimension := fun e he =>
    basis_lt e.1 (List.of_mem_zip he).1
  unfold checked
  rw [dif_pos paired, dif_pos basis_lt,
    foldlM_set_eq_ok hplaces List.length_replicate, ok_bind]

variable [Scalar F]

/-- Every inequality finds a place for its slack if there are places for all of them. -/
theorem Constraint.checkedEquations_eq_ok {slacks place : Nat} {cs : List (Constraint F)}
    (h : place + cs.countP (fun c => c.relation.needsSlack) ≤ slacks) :
    checkedEquations slacks place cs =
      .ok (equations slacks place cs, place + cs.countP fun c => c.relation.needsSlack) := by
  induction cs generalizing place with
  | nil => rfl
  | cons c cs ih =>
    have hneeds := Relation.isSome_slackCoefficient (F := F) c.oriented.relation
    rw [needsSlack_oriented] at hneeds
    rw [List.countP_cons] at h ⊢
    unfold checkedEquations equations equation slackRow
    cases hcoefficient : (c.oriented.relation.slackCoefficient : Option F) with
    | none =>
      have hnone : c.relation.needsSlack = false := by rw [← hneeds, hcoefficient]; rfl
      rw [hnone, if_neg Bool.false_ne_true, Nat.add_zero] at h ⊢
      rw [ih h, if_neg Bool.false_ne_true]
      rfl
    | some coefficient =>
      have hsome : c.relation.needsSlack = true := by rw [← hneeds, hcoefficient]; rfl
      have hcount : place + (cs.countP (fun c => c.relation.needsSlack) + 1) =
          place + 1 + cs.countP fun c => c.relation.needsSlack := by
        omega
      rw [hsome, if_pos rfl, hcount] at h
      rw [hsome, if_pos rfl, if_pos rfl, hcount]
      dsimp only
      rw [set_of_lt (by rw [List.length_replicate]; omega), ok_bind, ih h]
      rfl

/-- An outcome is reported for a run that ends without a failure only where it is optimal. -/
theorem LedgerOutcome.ofRun_eq_ok {m n : Nat} {ending : RunState.Ending F m n}
    (h : ending.failure = none → ending.trail.tableau.IsOptimal) :
    ofRun ending.trail.ledger ending.failure =
      .ok (Outcome.ofEnding ending).ledger := by
  unfold ofRun Outcome.ofEnding
  cases hfailure : ending.failure with
  | none =>
    have hsolution : ending.trail.ledger.sheet.solution = .ok _ := Tableau.solution_sheet _
    dsimp only
    rw [Trail.isOptimal_ledger, ok_bind, require_of (decide_eq_true (h hfailure)), ok_bind,
      Trail.objectiveValue_ledger, ok_bind, hsolution, ok_bind]
    rfl
  | some failure => rfl

theorem Outcome.ledger_restrict {m n : Nat} (o : Outcome F m n) (p : LinearProgram F) :
    (o.restrict p).ledger = o.ledger.restrict p := by
  cases o <;> rfl

namespace LinearProgram

theorem checkedStandardForm_eq_ok (p : LinearProgram F) :
    p.checkedStandardForm = .ok p.standardForm := by
  have hequations : Constraint.checkedEquations p.inequalities 0 p.constraints = .ok (_, _) :=
    Constraint.checkedEquations_eq_ok (by rw [Nat.zero_add]; exact le_rfl)
  rw [Nat.zero_add] at hequations
  rw [checkedStandardForm, hequations, ok_bind]
  show (require (p.inequalities = p.inequalities) >>= _) = _
  rw [require_of rfl, ok_bind]
  exact dif_pos (Constraint.length_of_mem_equations p.rectangular)

theorem checkedSlacks_eq_ok (p : LinearProgram F) : p.checkedSlacks = .ok p.slackBasis := by
  unfold checkedSlacks slackBasis
  by_cases h : p.dimension < p.constraints.length
  · rw [if_pos h, dif_pos h]
  · have hcount : p.dimension - (p.dimension - p.constraints.length) = p.constraints.length := by
      omega
    rw [if_neg h, dif_neg h, sub_of_le (not_lt.mp h), ok_bind, hcount,
      BasicSolution.checked_eq_ok, ok_bind]

omit [Scalar F] in
theorem IsFirstTableau.checkedRows_eq_ok {p : LinearProgram F} {start : BasicSolution F}
    {epsilon : F} {t : Tableau F p.constraints.length p.dimension}
    (h : p.IsFirstTableau start epsilon t) : p.checkedRows = .ok t.sheet.rows := by
  refine mapM_range_eq_ok fun i => mapM_range_eq_ok fun j => ?_
  rw [get_of_getElem? (List.getElem?_eq_getElem i.isLt), ok_bind]
  exact get_of_getElem? (h.getElem?_row i j)

omit [Scalar F] in
/-- The sheet that is read from the problem is that of its first tableau. -/
theorem IsFirstTableau.sheet_eq {p : LinearProgram F} {start : BasicSolution F}
    {epsilon : F} {t : Tableau F p.constraints.length p.dimension}
    (h : p.IsFirstTableau start epsilon t) :
    ({ rows := t.sheet.rows, width := p.dimension, values := p.bounds, costs := p.objective
       basis := start.basis, epsilon } : Sheet F) = t.sheet := by
  have hvalues : p.bounds = (List.finRange p.constraints.length).map t.value :=
    List.ext_getElem (by simp [bounds]) (by simp [bounds, h.value_eq])
  have hcosts : p.objective = (List.finRange p.dimension).map t.cost := by
    rw [← h.costs_eq]
    exact List.ext_getElem (by simp) (by simp [Tableau.cost])
  have hbasis : start.basis =
      (List.finRange p.constraints.length).map fun i => (t.basic i).val := by
    rw [← h.basis_eq]
    exact List.ext_getElem (by simp) (by simp [Tableau.basic])
  rw [hvalues, hcosts, hbasis, ← h.epsilon_eq]
  rfl

theorem ledger?_eq_ok (p : LinearProgram F) (start : BasicSolution F) (epsilon : F) :
    p.ledger? start epsilon = .ok ((p.trail? start epsilon).map Trail.ledger) := by
  unfold ledger? trail?
  cases h : p.tableau? start epsilon with
  | error failure =>
    unfold tableau? at h
    split at h
    case isFalse hm =>
      cases h
      rw [if_neg hm]
      rfl
    case isTrue hm =>
      split at h
      case isFalse hn =>
        cases h
        rw [if_pos hm, if_neg hn]
        rfl
      case isTrue hn =>
        split at h
        case h_1 j hj =>
          cases h
          rw [if_pos hm, if_pos hn, hj]
          rfl
        case h_2 => cases h
  | ok t =>
    have hfirst := isFirstTableau_of_tableau? h
    have hm : start.basis.length = p.constraints.length := by
      rw [← hfirst.basis_eq, List.length_map, Vector.length_toList]
    have hnone : (start.basis.find? fun j => p.dimension ≤ j) = none := by
      rw [List.find?_eq_none, ← hfirst.basis_eq, List.forall_mem_map]
      intro j _
      simp
    rw [if_pos hm, if_pos hfirst.length_objective, hnone]
    dsimp only
    rw [hfirst.checkedRows_eq_ok, ok_bind, hfirst.sheet_eq, Tableau.basicColumns_sheet, ok_bind,
      Tableau.snapshot_sheet, ok_bind]
    rfl

theorem exists_checkedSolveFrom (settings : Settings F) (rule : MethodRule) (p : LinearProgram F)
    (start : BasicSolution F) :
    ∃ outcome, p.solveFrom settings rule.rule start = .ok outcome ∧
      p.checkedSolveFrom settings rule start = .ok outcome.ledger := by
  unfold solveFrom checkedSolveFrom
  rw [ledger?_eq_ok, ok_bind]
  cases p.trail? start settings.epsilon with
  | error failure => exact ⟨_, rfl, rfl⟩
  | ok trail =>
    obtain ⟨ending, hrun, hledger⟩ := RunState.exists_run_ledger settings.limit settings.limit
      (RunState.start rule.rule (trail.record settings.history))
    have hoptimal : ending.failure = none → ending.trail.tableau.IsOptimal := by
      intro hnone
      obtain ⟨last, _, -, htrail, -, hstops⟩ := RunState.run_eq_ok hrun
      rw [hnone] at hstops
      rw [htrail]
      cases hstops with
      | optimal hopt => exact hopt
    refine ⟨Outcome.ofEnding ending, ?_, ?_⟩
    · dsimp only
      rw [hrun]
      rfl
    · show (Ledger.run rule settings.limit settings.limit
        (trail.record settings.history).ledger >>= _) = _
      have hledger' : Ledger.run rule settings.limit settings.limit
          (trail.record settings.history).ledger = _ := hledger
      rw [hledger', ok_bind]
      exact LedgerOutcome.ofRun_eq_ok hoptimal

/-- **The solver goes wrong nowhere.** For every problem that can be stated, all settings and
each rule of the method, solving from the basis of slacks ends with an outcome. Solving on plain
lists ends with the contents of the same outcome: every row, column, slack, basic variable and
snapshot that is asked for exists, no difference of counts is negative, and nothing is taken for
granted that does not hold. The numbers need not obey any law, and comparisons of them may
answer anything. -/
theorem solve_checked (settings : Settings F) (rule : MethodRule) (p : LinearProgram F) :
    ∃ outcome, p.solve settings rule.rule .slacks = .ok outcome ∧
      p.checkedSolve settings rule = .ok outcome.ledger := by
  unfold solve checkedSolve BasisFinder.slacks
  by_cases hempty : p.isEmpty
  · rw [if_pos hempty, if_pos hempty]
    exact ⟨_, rfl, rfl⟩
  · rw [if_neg hempty, if_neg hempty, checkedStandardForm_eq_ok, ok_bind,
      sub_of_le (by rw [dimension_standardForm]; omega), ok_bind, checkedSlacks_eq_ok, ok_bind]
    cases p.standardForm.slackBasis with
    | error failure => exact ⟨_, rfl, rfl⟩
    | ok start =>
      dsimp only
      by_cases hfeasible : start.IsFeasible
      · obtain ⟨outcome, hsolve, hledger⟩ :=
          p.standardForm.exists_checkedSolveFrom settings rule start
        rw [if_pos hfeasible, if_pos hfeasible, hsolve, hledger, ok_bind, ← Outcome.ledger_restrict]
        exact ⟨_, rfl, rfl⟩
      · rw [if_neg hfeasible, if_neg hfeasible]
        exact ⟨_, rfl, rfl⟩

end LinearProgram

end LinearProgramming
