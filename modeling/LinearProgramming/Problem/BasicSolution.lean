import LinearProgramming.Problem.Basic
import LinearProgramming.Failure

/-!
# Basic solutions

A basic solution names one variable for every constraint and gives it a value. All
other variables are zero. The slacks of a standard form are the usual first choice:
they are its last variables, one for each constraint if all of them are inequalities.
-/

namespace LinearProgramming

/-- A variable and its value for every constraint. -/
structure BasicSolution (F : Type) where
  basis : List Nat
  values : List F
  dimension : Nat
  paired : basis.length = values.length
  basis_lt : ∀ j ∈ basis, j < dimension

namespace BasicSolution

variable {F : Type}

/-- The most variables for which a list of all values is made. -/
def largestSize : Nat := UInt64.size / 16 - 1

/-- The basic solution, if it does not have too many variables. -/
def sized (s : BasicSolution F) : Except Misuse (BasicSolution F) :=
  if s.dimension ≤ largestSize then .ok s else .error .size

/-- The basic solution with these variables and values. There has to be one value for
each variable, and each has to be a variable of the problem. -/
def new? (basis : List Nat) (values : List F) (dimension : Nat) :
    Except Misuse (BasicSolution F) :=
  if paired : basis.length = values.length then
    if basis_lt : ∀ j ∈ basis, j < dimension then
      sized { basis, values, dimension, paired, basis_lt }
    else .error (.basicVariable dimension)
  else .error (.valueCount basis.length values.length)

variable [Scalar F]

/-- The value of every variable. Where a variable is named twice, the last value counts. -/
def point (s : BasicSolution F) : List F :=
  (s.basis.zip s.values).foldl (fun point entry => point.set entry.1 entry.2)
    (List.replicate s.dimension 0)

/-- Whether no value is negative. -/
def IsFeasible (s : BasicSolution F) : Prop := ∀ x ∈ s.values, 0 ≤ x

instance (s : BasicSolution F) : Decidable s.IsFeasible := by
  unfold IsFeasible
  infer_instance

end BasicSolution

/-- The last variables of a problem as a basis, one for each constraint, with the bounds
as their values. -/
def LinearProgram.slackBasis {F : Type} (p : LinearProgram F) :
    Except Failure (BasicSolution F) :=
  if h : p.dimension < p.constraints.length then
    .error (.inconsistent (.noSlackBasis p.constraints.length p.dimension))
  else .ok {
    basis := List.range' (p.dimension - p.constraints.length) p.constraints.length
    values := p.bounds
    dimension := p.dimension
    paired := by simp [bounds]
    basis_lt := by
      intro j hj
      obtain ⟨i, hi, rfl⟩ := List.mem_range'.1 hj
      omega }

/-- The last variables of a problem as a basis, if they are not too many. A problem with
constraints has as many variables as its rows have coefficients. The dimension of a problem
without constraints and objective is only a number, so it can be too large for a list. -/
def LinearProgram.slackBasis? {F : Type} (p : LinearProgram F) :
    Except Misuse (Except Failure (BasicSolution F)) :=
  match p.slackBasis with
  | .error failure => .ok (.error failure)
  | .ok s => s.sized.map .ok

end LinearProgramming
