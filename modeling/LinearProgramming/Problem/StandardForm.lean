import LinearProgramming.Problem.Basic

/-!
# The standard form of a problem

The method maximizes over equations whose bounds are not negative. Every problem has
such a form: costs to be minimized are negated, so are constraints with a negative
bound, and each inequality takes one more variable, its slack, that fills the room
between its sides. The slacks follow the variables of the problem, in the order of the
constraints that need them.
-/

namespace LinearProgramming

namespace Constraint

variable {F : Type} [Scalar F]

/-- The same constraint written with a bound that is not negative. -/
def oriented (c : Constraint F) : Constraint F :=
  if c.bound < 0 then
    { coefficients := c.coefficients.map (- ·), relation := c.relation.flipped, bound := -c.bound }
  else c

@[simp] theorem length_oriented (c : Constraint F) :
    c.oriented.coefficients.length = c.coefficients.length := by
  unfold oriented
  split <;> simp

@[simp] theorem needsSlack_oriented (c : Constraint F) :
    c.oriented.relation.needsSlack = c.relation.needsSlack := by
  unfold oriented
  split <;> simp

/-- The coefficients of all slacks in one constraint: only the slack at the given place
occurs, with the coefficient that the relation asks for. -/
def slackRow (F : Type) [Scalar F] (slacks place : Nat) (relation : Relation) : List F :=
  match (relation.slackCoefficient : Option F) with
  | some coefficient => (List.replicate slacks 0).set place coefficient
  | none => List.replicate slacks 0

@[simp] theorem length_slackRow (slacks place : Nat) (relation : Relation) :
    (slackRow F slacks place relation).length = slacks := by
  unfold slackRow
  split <;> simp

/-- The equation that a constraint becomes once its slack is at the given place. -/
def equation (slacks place : Nat) (c : Constraint F) : Constraint F :=
  { coefficients := c.oriented.coefficients ++ slackRow F slacks place c.oriented.relation
    relation := .equal
    bound := c.oriented.bound }

/-- The equations of a list of constraints, whose slacks start at the given place. -/
def equations (slacks : Nat) : Nat → List (Constraint F) → List (Constraint F)
  | _, [] => []
  | place, c :: rest =>
    c.equation slacks place ::
      equations slacks (if c.relation.needsSlack then place + 1 else place) rest

@[simp] theorem length_equation (slacks place : Nat) (c : Constraint F) :
    (c.equation slacks place).coefficients.length = c.coefficients.length + slacks := by
  simp [equation]

theorem length_of_mem_equations {slacks place n : Nat} {cs : List (Constraint F)}
    (h : ∀ c ∈ cs, c.coefficients.length = n) :
    ∀ c ∈ equations slacks place cs, c.coefficients.length = n + slacks := by
  induction cs generalizing place with
  | nil => simp [equations]
  | cons c rest ih =>
    intro e he
    rcases List.mem_cons.1 he with rfl | he
    · simp [h c List.mem_cons_self]
    · exact ih (fun c hc => h c (List.mem_cons_of_mem _ hc)) e he

@[simp] theorem length_equations (slacks place : Nat) (cs : List (Constraint F)) :
    (equations slacks place cs).length = cs.length := by
  induction cs generalizing place with
  | nil => rfl
  | cons c rest ih => simp [equations, ih]

end Constraint

namespace LinearProgram

variable {F : Type} [Scalar F]

/-- The costs of the variables when they are maximized. -/
def costs (p : LinearProgram F) : List F :=
  match p.direction with
  | .maximize => p.objective
  | .minimize => p.objective.map (- ·)

/-- The problem with a slack for every inequality, as equations. -/
def standardForm (p : LinearProgram F) : LinearProgram F :=
  { direction := .maximize
    objective := p.costs ++ List.replicate p.inequalities 0
    constraints := Constraint.equations p.inequalities 0 p.constraints
    dimension := p.dimension + p.inequalities
    rectangular := Constraint.length_of_mem_equations p.rectangular }

/-- Whether a problem already maximizes over equations whose bounds are not negative. -/
def IsStandard (p : LinearProgram F) : Prop :=
  p.direction = .maximize ∧ ∀ c ∈ p.constraints, c.relation = .equal ∧ 0 ≤ c.bound

instance (p : LinearProgram F) : Decidable p.IsStandard := by
  unfold IsStandard
  infer_instance

@[simp] theorem dimension_standardForm (p : LinearProgram F) :
    p.standardForm.dimension = p.dimension + p.inequalities := rfl

theorem length_objective_standardForm (p : LinearProgram F) :
    p.standardForm.objective.length = p.objective.length + p.inequalities := by
  unfold standardForm costs
  cases p.direction <;> simp

@[simp] theorem length_constraints_standardForm (p : LinearProgram F) :
    p.standardForm.constraints.length = p.constraints.length := by
  simp [standardForm]

end LinearProgram

end LinearProgramming
