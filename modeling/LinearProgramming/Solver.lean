import LinearProgramming.Problem.StandardForm
import LinearProgramming.Run

/-!
# Solving problems

A solver brings a problem into standard form, finds a basic solution of it, and runs the
method from there. Its outcome is stated in the variables of the problem: slacks are left
out of the solution, and the value of a problem that minimizes gets its sign back. The
tableau that comes with it is that of the standard form.
-/

namespace LinearProgramming

/-- How solving ended. A trail comes with a failure if a tableau was built before it. -/
inductive Outcome (F : Type) (m n : Nat) where
  | optimal (value : F) (solution : List F) (trail : Trail F m n)
  | failed (failure : Failure) (trail : Option (Trail F m n))

namespace Outcome

variable {F : Type} {m n : Nat}

def status : Outcome F m n → Status
  | optimal .. => .optimal
  | failed failure _ => failure.status

/-- The objective at the optimum. -/
def value? : Outcome F m n → Option F
  | optimal value .. => some value
  | failed .. => none

/-- The value of every variable at the optimum. -/
def solution? : Outcome F m n → Option (List F)
  | optimal _ solution _ => some solution
  | failed .. => none

/-- The last tableau, with its history. -/
def trail? : Outcome F m n → Option (Trail F m n)
  | optimal _ _ trail => some trail
  | failed _ trail => trail

/-- Why there is no optimum. -/
def message? : Outcome F m n → Option String
  | optimal .. => none
  | failed failure _ => some failure.message

/-- The optimum that a tableau shows. -/
def ofOptimal [Scalar F] (trail : Trail F m n) : Outcome F m n :=
  optimal trail.tableau.objectiveValue trail.tableau.solution.toList trail

/-- The outcome of a run. -/
def ofEnding [Scalar F] (ending : RunState.Ending F m n) : Outcome F m n :=
  match ending.failure with
  | none => ofOptimal ending.trail
  | some failure => failed failure (some ending.trail)

/-- The outcome in terms of the problem whose standard form was solved. -/
def restrict [Scalar F] (o : Outcome F m n) (p : LinearProgram F) : Outcome F m n :=
  match o with
  | optimal value solution trail =>
    optimal (match p.direction with
      | .maximize => value
      | .minimize => -value) (solution.take p.dimension) trail
  | failed failure trail => failed failure trail

/-- Decimal places of the numbers in a report. -/
def places : Nat := 6

/-- The outcome as a report: a line for the status, one for the value, one for every
variable, and one for what went wrong. -/
def text [Floating F] (o : Outcome F m n) : String :=
  let status := "Status: " ++ o.status.text.toUpper ++ "\n"
  let value := "Optimal value: " ++ ((o.value?.map (Floating.fixed places)).getD "—") ++ "\n"
  let solution := (o.solution?.getD []).mapIdx fun j x =>
    s!"x_{j + 1} = " ++ Floating.fixed places x ++ "\n"
  let message := (o.message?.map (· ++ "\n")).getD ""
  status ++ value ++ String.join solution ++ message

end Outcome

/-- A way to find a first basic solution of a problem in standard form. -/
abbrev BasisFinder (F : Type) :=
  LinearProgram F → Except Misuse (Except Failure (BasicSolution F))

namespace BasisFinder

variable {F : Type}

/-- The last variables are taken for a basis. -/
def slacks : BasisFinder F := fun p => .ok p.slackBasis

/-- The last variables are taken for a basis, with the bounds negated as their values. -/
def negatedSlacks [Scalar F] : BasisFinder F := fun p =>
  match p.slackBasis with
  | .error failure => .ok (.error failure)
  | .ok s => (BasicSolution.new? s.basis (s.values.map (- ·)) p.dimension).map .ok

/-- The same variables and values for all problems. -/
def fixed (basis : List Nat) (values : List F) (dimension : Nat) : BasisFinder F := fun _ =>
  (BasicSolution.new? basis values dimension).map .ok

/-- No basic solution is found. -/
def failing (failure : Failure) : BasisFinder F := fun _ => .ok (.error failure)

end BasisFinder

namespace LinearProgram

variable {F : Type} [Scalar F]

/-- The method on a problem as it is given, from a basic solution. -/
def solveFrom (settings : Settings F) (rule : PivotRule F) (p : LinearProgram F)
    (start : BasicSolution F) : Except Misuse (Outcome F p.constraints.length p.dimension) :=
  match p.trail? start settings.epsilon with
  | .error failure => .ok (.failed failure none)
  | .ok trail =>
    ((RunState.start rule (trail.record settings.history)).run settings.limit settings.limit).map
      Outcome.ofEnding

/-- Solves a problem. -/
def solve (settings : Settings F) (rule : PivotRule F) (finder : BasisFinder F)
    (p : LinearProgram F) :
    Except Misuse (Outcome F p.standardForm.constraints.length p.standardForm.dimension) :=
  if p.isEmpty then .ok (.failed .emptyProblem none)
  else match finder p.standardForm with
    | .error misuse => .error misuse
    | .ok (.error failure) => .ok (.failed failure none)
    | .ok (.ok start) =>
      if start.IsFeasible then
        (p.standardForm.solveFrom settings rule start).map (·.restrict p)
      else .ok (.failed .noInitialBasis none)

end LinearProgram

end LinearProgramming
