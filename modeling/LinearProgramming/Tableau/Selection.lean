import LinearProgramming.Tableau.Basic

/-!
# Choosing where to pivot

A column is profitable if its reduced cost exceeds the tolerance. A row limits a column
if its entry there exceeds the tolerance, and it limits the column to the quotient of its
value and that entry. The rules here choose a profitable column and a row with the least
limit; they differ in how they break ties.
-/

namespace LinearProgramming

/-- The first of the candidates whose key is better than that of all candidates before
it, where every candidate after the first has to improve on the best key so far. -/
def firstBest {ι F : Type} (better : F → F → Bool) (candidates : List (ι × F)) :
    Option (ι × F) :=
  candidates.foldl
    (fun best candidate => match best with
      | none => some candidate
      | some b => if better candidate.2 b.2 then some candidate else some b)
    none

namespace Tableau

variable {F : Type} [Scalar F] {m n : Nat}

/-- The columns that can improve the objective, with their reduced costs. -/
def profitable (t : Tableau F m n) : List (Fin n × F) :=
  ((List.finRange n).map fun j => (j, t.reducedCost j)).filter fun c => t.epsilon < c.2

/-- The rows that limit a column, with the limits they set. -/
def limiting (t : Tableau F m n) (j : Fin n) : List (Fin m × F) :=
  ((List.finRange m).filter fun i => t.epsilon < t.entry i j).map fun i =>
    (i, t.value i / t.entry i j)

/-- The column with the largest reduced cost among the profitable ones, the first of
them on a tie. -/
def largestColumn (t : Tableau F m n) : Option (Fin n) :=
  (firstBest (fun x y => y < x) t.profitable).map Prod.fst

/-- The first profitable column. -/
def firstColumn (t : Tableau F m n) : Option (Fin n) :=
  (List.finRange n).find? fun j => t.epsilon < t.reducedCost j

/-- The row with the least limit, the first of them on a tie. Without such a row the
variable of the column can increase without limit. -/
def firstLeastRow (t : Tableau F m n) (j : Fin n) : Option (Fin m) :=
  (firstBest (fun x y => x < y) (t.limiting j)).map Prod.fst

/-- One more row in the search for the least limit and the lowest basic variable. A limit
within the tolerance of the one that is held is a tie: the row is then exchanged if its
basic variable is lower, and the limit that is held stays. -/
def nearerRow (t : Tableau F m n) (best : Option (Fin m × F)) (candidate : Fin m × F) :
    Option (Fin m × F) :=
  match best with
  | none => some candidate
  | some (row, limit) =>
    if magnitude (candidate.2 - limit) ≤ t.epsilon then
      if t.basic candidate.1 < t.basic row then some (candidate.1, limit) else some (row, limit)
    else if candidate.2 < limit then some candidate
    else some (row, limit)

/-- The row with the least limit and, among rows whose limits tie, the lowest basic
variable. -/
def lowestLeastRow (t : Tableau F m n) (j : Fin n) : Option (Fin m) :=
  ((t.limiting j).foldl t.nearerRow none).map Prod.fst

end Tableau

end LinearProgramming
