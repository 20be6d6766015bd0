import LinearProgramming.Problem.BasicSolution

/-!
# The simplex tableau

A tableau holds a system of equations, solved for one basic variable per row, and the
costs of all variables. Reduced costs, the objective and the solution are not stored:
they are always calculated from the equations, the costs and the basis. The counts of
rows and columns are part of the type, so a row or column of a tableau always exists.
-/

namespace LinearProgramming

/-- Equations for `m` basic variables among `n` variables, and the costs of all variables. -/
structure Tableau (F : Type) (m n : Nat) where
  coefficients : Vector (Vector F n) m
  values : Vector F m
  costs : Vector F n
  basis : Vector (Fin n) m
  /-- Numbers at most this far from zero count as zero. -/
  epsilon : F
  deriving BEq

namespace Tableau

variable {F : Type} {m n : Nat}

/-- The coefficient of a variable in a row. -/
def entry (t : Tableau F m n) (i : Fin m) (j : Fin n) : F := t.coefficients[i][j]

/-- The value of the basic variable of a row. -/
def value (t : Tableau F m n) (i : Fin m) : F := t.values[i]

/-- The cost of a variable. -/
def cost (t : Tableau F m n) (j : Fin n) : F := t.costs[j]

/-- The basic variable of a row. -/
def basic (t : Tableau F m n) (i : Fin m) : Fin n := t.basis[i]

/-- The coefficient at a row and column with these numbers, which have to exist. -/
def entryAt (t : Tableau F m n) (row column : Nat) : Except Misuse F :=
  if hr : row < m then
    if hc : column < n then .ok (t.entry ⟨row, hr⟩ ⟨column, hc⟩) else .error .position
  else .error .position

/-- The value of the basic variable of the row with this number, which has to exist. -/
def valueAt (t : Tableau F m n) (row : Nat) : Except Misuse F :=
  if hr : row < m then .ok (t.value ⟨row, hr⟩) else .error .position

/-- The cost of the basic variable of a row. -/
def basicCost (t : Tableau F m n) (i : Fin m) : F := t.cost (t.basic i)

/-- A tableau is known from its numbers, its basic variables and its costs. -/
theorem ext_of_entries {t t' : Tableau F m n} (hentry : ∀ i j, t.entry i j = t'.entry i j)
    (hvalue : ∀ i, t.value i = t'.value i) (hbasic : ∀ i, t.basic i = t'.basic i)
    (hcosts : t.costs = t'.costs) (hε : t.epsilon = t'.epsilon) : t = t' := by
  obtain ⟨coefficients, values, costs, basis, epsilon⟩ := t
  obtain ⟨coefficients', values', costs', basis', epsilon'⟩ := t'
  have hcoefficients : coefficients = coefficients' := by
    refine Vector.ext fun i hi => Vector.ext fun j hj => ?_
    exact hentry ⟨i, hi⟩ ⟨j, hj⟩
  have hvalues : values = values' := Vector.ext fun i hi => hvalue ⟨i, hi⟩
  have hbasis : basis = basis' := Vector.ext fun i hi => hbasic ⟨i, hi⟩
  cases hcosts
  cases hε
  rw [hcoefficients, hvalues, hbasis]

variable [Scalar F]

/-- How much the objective grows with a variable, per unit, if the basic variables make
room for it. -/
def reducedCost (t : Tableau F m n) (j : Fin n) : F :=
  t.cost j - total fun i => t.basicCost i * t.entry i j

/-- The reduced cost of the column with this number, which has to exist. -/
def reducedCostAt (t : Tableau F m n) (column : Nat) : Except Misuse F :=
  if hc : column < n then .ok (t.reducedCost ⟨column, hc⟩) else .error .position

/-- The objective at the current solution. -/
def objectiveValue (t : Tableau F m n) : F := total fun i => t.basicCost i * t.value i

/-- The value of every variable: those of the basic variables, and zero elsewhere. Of two
rows with the same basic variable the later one counts. -/
def solution (t : Tableau F m n) : Vector F n :=
  Fin.foldl m (fun x i => x.set (t.basic i) (t.value i)) (Vector.replicate n 0)

/-- Whether no variable can improve the objective any more. -/
def IsOptimal (t : Tableau F m n) : Prop := ∀ j, t.reducedCost j ≤ t.epsilon

instance (t : Tableau F m n) : Decidable t.IsOptimal := by
  unfold IsOptimal
  infer_instance

/-- Whether the basic variable of every row occurs in that row alone, with coefficient
one, up to a tolerance. -/
def IsCanonicalWithin (t : Tableau F m n) (tolerance : F) : Prop :=
  ∀ row i : Fin m,
    magnitude (t.entry i (t.basic row) - if i = row then 1 else 0) ≤ tolerance

instance (t : Tableau F m n) (tolerance : F) : Decidable (t.IsCanonicalWithin tolerance) := by
  unfold IsCanonicalWithin
  infer_instance

/-- The same up to the square root of the tolerance for zero, which leaves room for
rounding in earlier pivots. -/
def IsCanonical [SquareRoot F] (t : Tableau F m n) : Prop :=
  t.IsCanonicalWithin (SquareRoot.sqrt t.epsilon)

instance [SquareRoot F] (t : Tableau F m n) : Decidable t.IsCanonical := by
  unfold IsCanonical
  infer_instance

end Tableau

namespace LinearProgram

variable {F : Type}

/-- The coefficients of a constraint, one for each variable. -/
def coefficientRow (p : LinearProgram F) (i : Fin p.constraints.length) :
    Vector F p.dimension :=
  ⟨p.constraints[i].coefficients.toArray, by
    simpa using p.rectangular _ (List.getElem_mem i.isLt)⟩

/-- The tableau of a problem for the basis of a basic solution. The constraints are taken
as equations, whatever their relations, and their bounds as the values of the basic
variables. It is refused if basis, objective and constraints do not fit together. -/
def tableau? (p : LinearProgram F) (start : BasicSolution F) (epsilon : F) :
    Except Failure (Tableau F p.constraints.length p.dimension) :=
  if hm : start.basis.length = p.constraints.length then
    if hn : p.objective.length = p.dimension then
      match h : start.basis.find? fun j => p.dimension ≤ j with
      | some j => .error (.inconsistent (.basisVariable j p.dimension))
      | none => .ok {
          coefficients := Vector.ofFn p.coefficientRow
          values := Vector.ofFn fun i => p.constraints[i].bound
          costs := ⟨p.objective.toArray, by simpa using hn⟩
          basis := Vector.ofFn fun i =>
            have hi : i.val < start.basis.length := by omega
            ⟨start.basis[i.val], by simpa using List.find?_eq_none.1 h _ (List.getElem_mem hi)⟩
          epsilon }
    else .error (.inconsistent (.objectiveLength p.objective.length p.dimension))
  else .error (.inconsistent (.basisSize start.basis.length p.constraints.length))

end LinearProgram

end LinearProgramming
