import LinearProgramming.Tableau.Selection

/-!
# Pivot rules

A pivot rule chooses the column that enters the basis, and then the row whose basic
variable leaves it. A rule may remember its earlier choices: it starts with a fresh
memory for every problem. The three rules of the method remember nothing and choose rows
and columns that exist. A rule that is given from outside may choose any numbers.
-/

namespace LinearProgramming

/-- A way to choose columns and rows. -/
structure PivotRule (F : Type) where
  Memory : Type
  start : Memory
  /-- The column that enters, if the rule finds one. -/
  column {m n : Nat} (t : Tableau F m n) (memory : Memory) : Option Nat × Memory
  /-- The row to pivot on in a column, if there is a row that limits the column. -/
  row {m n : Nat} (t : Tableau F m n) (column : Nat) (memory : Memory) :
    Except Misuse (Option Nat × Memory)

namespace Tableau

variable {F : Type} [Scalar F] {m n : Nat}

/-- The row with the least limit in the column with this number, the first of them on a
tie. The column has to exist. -/
def leavingRow (t : Tableau F m n) (column : Nat) : Except Misuse (Option (Fin m)) :=
  if h : column < n then .ok (t.firstLeastRow ⟨column, h⟩) else .error .position

/-- The row with the least limit in the column with this number, that of the lowest basic
variable on a tie. The column has to exist, unless there are no rows to look at. -/
def lowestLeavingRow (t : Tableau F m n) (column : Nat) : Except Misuse (Option (Fin m)) :=
  if h : column < n then .ok (t.lowestLeastRow ⟨column, h⟩)
  else if m = 0 then .ok none
  else .error .position

end Tableau

namespace PivotRule

variable {F : Type} [Scalar F]

/-- The rule without memory that makes these choices. -/
def ofChoices (column : {m n : Nat} → Tableau F m n → Option (Fin n))
    (row : {m n : Nat} → Tableau F m n → Nat → Except Misuse (Option (Fin m))) : PivotRule F where
  Memory := Unit
  start := ()
  column t _ := ((column t).map Fin.val, ())
  row t j _ := (row t j).map fun i => (i.map Fin.val, ())

/-- The largest reduced cost enters. Ties go to the first column and the first row. This
rule can cycle where pivots do not change the solution. -/
def largest : PivotRule F := ofChoices Tableau.largestColumn Tableau.leavingRow

/-- The first profitable column enters. Ties go to the first row. -/
def first : PivotRule F := ofChoices Tableau.firstColumn Tableau.leavingRow

/-- The first profitable column enters. Among rows whose limits tie, the one with the
lowest basic variable leaves. -/
def lowest : PivotRule F := ofChoices Tableau.firstColumn Tableau.lowestLeavingRow

/-- What is left of a list of choices after one more of them is made. -/
structure Script where
  columns : List (Option Nat)
  rows : List (Option Nat)

/-- The rule that makes choices from a list, in order. No column is chosen once the list of
columns is used up; after the last row, rows are chosen by the least limit. -/
def scripted (columns rows : List (Option Nat)) : PivotRule F where
  Memory := Script
  start := ⟨columns, rows⟩
  column _ script := (script.columns.headD none, { script with columns := script.columns.tail })
  row t j script := match script.rows with
    | row :: rest => .ok (row, { script with rows := rest })
    | [] => (t.leavingRow j).map fun i => (i.map Fin.val, script)

/-- The first choices of a rule with a fresh memory: a column, unless one is given, and a
row for it. -/
def choose (rule : PivotRule F) {m n : Nat} (t : Tableau F m n) (given : Option Nat) :
    Except Misuse (Option Nat × Option Nat) :=
  let (column, memory) := match given with
    | some j => (some j, rule.start)
    | none => rule.column t rule.start
  match column with
  | none => .ok (none, none)
  | some j => (rule.row t j memory).map fun choice => (choice.1, some j)

end PivotRule

end LinearProgramming
