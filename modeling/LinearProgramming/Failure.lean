/-!
# Why no optimum was found

A solver either reaches an optimum or stops for one of the reasons here. A reason
determines the status that is reported and the message that goes with it.
-/

namespace LinearProgramming

/-- The four ways in which solving can end. -/
inductive Status where
  | optimal
  | infeasible
  | unbounded
  | error
  deriving DecidableEq, Repr

def Status.text : Status → String
  | optimal => "optimal"
  | infeasible => "infeasible"
  | unbounded => "unbounded"
  | error => "error"

/-- The number of a variable in a message. Variables are counted from zero and numbered from
one. Numbers are words of 64 bits, so zero follows the largest. -/
def variableNumber (index : Nat) : Nat := (index + 1) % UInt64.size

/-- Parts of a problem that do not fit together. Variables are counted from zero. -/
inductive Inconsistency where
  | basisSize (found constraints : Nat)
  | objectiveLength (found dimension : Nat)
  | basisVariable (index dimension : Nat)
  | noSlackBasis (constraints dimension : Nat)
  /-- Another reason, in the words of the caller. -/
  | stated (description : String)
  deriving DecidableEq, Repr

def Inconsistency.message : Inconsistency → String
  | basisSize found constraints => s!"Basis has {found} variables for {constraints} constraints"
  | objectiveLength found dimension =>
    s!"Objective function has {found} coefficients for {dimension} variables"
  | basisVariable index dimension =>
    s!"Basis variable x{variableNumber index} does not exist, there are {dimension} variables"
  | noSlackBasis constraints dimension =>
    s!"No basis of slacks: {constraints} constraints, but only {dimension} variables"
  | stated description => description

/-- Why solving ended without an optimum. Rows and columns are counted from zero. -/
inductive Failure where
  /-- There is no objective, or there are no constraints. -/
  | emptyProblem
  /-- The first basic solution has a negative value. -/
  | noInitialBasis
  /-- No row limits how far the variable of this column can increase. -/
  | unbounded (column : Nat)
  /-- This many pivots were allowed, and made. -/
  | iterationLimit (limit : Nat)
  /-- The pivot element does not exist, or is too close to zero. -/
  | invalidPivot (row column : Nat)
  /-- A column could improve the objective, but the rule chose none. -/
  | noEnteringColumn
  /-- The history does not go this far. -/
  | iterationOutOfRange (index length : Nat)
  | inconsistent (reason : Inconsistency)
  deriving DecidableEq, Repr

namespace Failure

/-- The reason in words. -/
def text : Failure → String
  | emptyProblem => "Empty objective function or constraints"
  | noInitialBasis => "No initial BFS found"
  | unbounded column => s!"Problem is unbounded: x{variableNumber column} can increase without limit"
  | iterationLimit _ => "Max iterations exceeded"
  | invalidPivot row column => s!"Invalid pivot element at row {row}, column {column}"
  | noEnteringColumn => "Tableau is not optimal, but no entering variable was selected"
  | iterationOutOfRange index length =>
    s!"Iteration {index} requested, but only {length} are available"
  | inconsistent reason => reason.message

/-- The status under which a failure is reported. -/
def status : Failure → Status
  | noInitialBasis => .infeasible
  | unbounded _ => .unbounded
  | _ => .error

/-- Whether a failure is an outcome to be expected of the method. -/
def isExpected : Failure → Bool
  | emptyProblem => true
  | noInitialBasis => true
  | unbounded _ => true
  | iterationLimit _ => true
  | _ => false

/-- The message that is reported. Failures that are not to be expected are marked. -/
def message (f : Failure) : String :=
  if f.isExpected then f.text else "Solver error: " ++ f.text

end Failure

end LinearProgramming
