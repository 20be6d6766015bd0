import LinearProgramming.Misuse
import LinearProgramming.Problem.Relation

/-!
# Linear programs

A problem optimizes a linear objective over non-negative variables that satisfy linear
constraints. Each constraint has one coefficient for every variable, which is part of
the type. The objective may also be empty while there are variables: such a problem can
be stated, and it is up to a solver to refuse it.
-/

namespace LinearProgramming

/-- The linear expression with these coefficients, related to a bound. -/
structure Constraint (F : Type) where
  coefficients : List F
  relation : Relation
  bound : F
  deriving BEq, Repr

/-- A problem over non-negative variables. -/
structure LinearProgram (F : Type) where
  direction : Direction
  objective : List F
  constraints : List (Constraint F)
  /-- Count of the variables. -/
  dimension : Nat
  rectangular : ∀ c ∈ constraints, c.coefficients.length = dimension

/-- The first reason why a problem cannot be stated. Constraints are counted from zero. -/
inductive ShapeError where
  | objective (found expected : Nat)
  | constraint (index found expected : Nat)
  deriving DecidableEq, Repr

def ShapeError.message : ShapeError → String
  | objective found expected =>
    s!"ProgramError: Objective function has {found} coefficients, expected {expected}"
  | constraint index found expected =>
    s!"ProgramError: Constraint {index + 1} has {found} coefficients, expected {expected}"

namespace Constraint

variable {F : Type} [Scalar F]

/-- Whether a point satisfies the constraint up to a tolerance. -/
def Holds (c : Constraint F) (point : List F) (tolerance : F) : Prop :=
  let left := innerProduct c.coefficients point
  match c.relation with
  | .atMost => left ≤ c.bound + tolerance
  | .atLeast => c.bound - tolerance ≤ left
  | .equal => magnitude (left - c.bound) ≤ tolerance

instance (c : Constraint F) (point : List F) (tolerance : F) :
    Decidable (c.Holds point tolerance) := by
  unfold Holds
  cases c.relation <;> infer_instance

end Constraint

namespace LinearProgram

variable {F : Type}

/-- Two problems are the same if all their numbers are, as numbers are compared. -/
instance [BEq F] : BEq (LinearProgram F) where
  beq p q := p.direction == q.direction && p.objective == q.objective &&
    p.constraints == q.constraints && p.dimension == q.dimension

/-- A problem over a given count of variables. The objective may be empty, any other
length has to match. -/
def withDimension? (direction : Direction) (objective : List F)
    (constraints : List (Constraint F)) (dimension : Nat) :
    Except ShapeError (LinearProgram F) :=
  if objective ≠ [] ∧ objective.length ≠ dimension then
    .error (.objective objective.length dimension)
  else
    match h : constraints.zipIdx.find? fun c => c.1.coefficients.length ≠ dimension with
    | some (c, index) => .error (.constraint index c.coefficients.length dimension)
    | none => .ok {
        direction, objective, constraints, dimension
        rectangular := by
          intro c hc
          obtain ⟨index, hi⟩ := List.mem_iff_getElem?.1 hc
          simpa using List.find?_eq_none.1 h (c, index) (List.mk_mem_zipIdx_iff_getElem?.2 hi) }

/-- A problem with one variable for every coefficient of the objective. -/
def new? (direction : Direction) (objective : List F) (constraints : List (Constraint F)) :
    Except ShapeError (LinearProgram F) :=
  withDimension? direction objective constraints objective.length

/-- Whether there is nothing to optimize, or nothing to optimize over. -/
def isEmpty (p : LinearProgram F) : Bool := p.objective.isEmpty || p.constraints.isEmpty

/-- Count of the constraints with a relation. -/
def count (p : LinearProgram F) (relation : Relation) : Nat :=
  p.constraints.countP fun c => c.relation = relation

/-- Count of the constraints that are no equations. -/
def inequalities (p : LinearProgram F) : Nat :=
  p.constraints.countP fun c => c.relation.needsSlack

/-- The bounds of all constraints. -/
def bounds (p : LinearProgram F) : List F := p.constraints.map Constraint.bound

/-- The coefficients of all constraints, a row for each. -/
def rows (p : LinearProgram F) : List (List F) := p.constraints.map Constraint.coefficients

variable [Scalar F]

/-- The objective at a point. -/
def objectiveAt (p : LinearProgram F) (point : List F) : F := innerProduct p.objective point

/-- The objective at a point, which needs a value for every variable. -/
def evaluate (p : LinearProgram F) (point : List F) : Except Misuse F :=
  if point.length = p.dimension then .ok (p.objectiveAt point)
  else .error (.pointLength point.length p.dimension)

/-- Whether a point has a value for every variable, none of them is negative, and all
constraints hold, everything up to a tolerance. -/
def Satisfied (p : LinearProgram F) (point : List F) (tolerance : F) : Prop :=
  point.length = p.dimension ∧ (∀ x ∈ point, ¬ x < -tolerance) ∧
    ∀ c ∈ p.constraints, c.Holds point tolerance

instance (p : LinearProgram F) (point : List F) (tolerance : F) :
    Decidable (p.Satisfied point tolerance) := by
  unfold Satisfied
  infer_instance

end LinearProgram

end LinearProgramming
