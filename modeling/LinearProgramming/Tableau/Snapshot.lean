import LinearProgramming.Number.Decimal
import LinearProgramming.Tableau.Selection

/-!
# Snapshots

A snapshot is a table of labels and numbers that shows one state of a tableau: a row for
each equation and a last row with the objective and the reduced costs. The last column
holds the limits that the rows set to the column with the largest reduced cost.
-/

namespace LinearProgramming

/-- One place of a snapshot. -/
inductive Cell (F : Type) where
  | label (text : String)
  | number (value : F)
  | empty
  deriving BEq, Repr

/-- Headers, and rows with a cell for each of them. -/
structure Snapshot (F : Type) where
  headers : List String
  rows : List (List (Cell F))
  full : ∀ row ∈ rows, row.length = headers.length

namespace Binary

/-- Whether a finite number is nearer to zero than another finite one. -/
def isSmaller : Binary → Binary → Bool
  | finite _ m e, finite _ m' e' =>
    let (num, den) := quotient m e
    let (num', den') := quotient m' e'
    num * den' < num' * den
  | _, _ => false

end Binary

namespace Cell

variable {F : Type}

/-- Decimal places of the numbers in a table. -/
def places : Nat := 4

/-- The number that counts as half of the last place, as it is stored in a format. -/
def halfPlace (f : BinaryFormat) : Binary :=
  f.decode (Numeral.roundDecimal f 5 (-(places : Int) - 1))

/-- The number in a cell. -/
def number? : Cell F → Option F
  | number x => some x
  | _ => none

/-- The text of a cell. Numbers below half of the last place show as zero without a
sign. -/
def text [Floating F] : Cell F → String
  | label text => text
  | number x =>
    if (Floating.toBinary x).isSmaller (halfPlace (Floating.format F)) then
      (Binary.finite false 0 0).fixed places
    else Floating.fixed places x
  | empty => ""

end Cell

namespace Snapshot

variable {F : Type}

instance [BEq F] : BEq (Snapshot F) where
  beq s t := s.headers == t.headers && s.rows == t.rows

/-- The snapshot with these headers and rows, which all need a cell for each header. -/
def new? (headers : List String) (rows : List (List (Cell F))) : Except Misuse (Snapshot F) :=
  if full : ∀ row ∈ rows, row.length = headers.length then .ok { headers, rows, full }
  else .error (.rowLength headers.length)

/-- The rows of the equations. -/
def equationRows (s : Snapshot F) : List (List (Cell F)) := s.rows.dropLast

/-- The row of the objective and the reduced costs. -/
def costRow? (s : Snapshot F) : Option (List (Cell F)) := s.rows.getLast?

/-- The texts of one line of a table, each moved to the right end of its column. -/
def line (widths : List Nat) (texts : List String) : String :=
  let padded := List.zipWith (fun width text =>
    String.ofList (List.replicate (width - text.length) ' ') ++ text) widths texts
  " | ".intercalate padded ++ "\n"

/-- The snapshot as a table, with a rule below the headers and one above the last row.
A column is as wide as its widest text, counted in characters. -/
def text [Floating F] (s : Snapshot F) : String :=
  let cells := s.rows.map fun row => row.map Cell.text
  let widths := cells.foldl
    (fun widths row => List.zipWith (fun width text => max width text.length) widths row)
    (s.headers.map String.length)
  let width := widths.foldl (· + ·) (3 * (widths.length - 1))
  let rule := String.ofList (List.replicate width '-') ++ "\n"
  let last := match cells.getLast? with
    | some row => rule ++ line widths row
    | none => ""
  line widths s.headers ++ rule ++ String.join (cells.dropLast.map (line widths)) ++ last

end Snapshot

/-- The name under which a variable is shown. Variables are counted from one there. -/
def variableName (j : Nat) : String := s!"x{j + 1}"

namespace Tableau

variable {F : Type} [Scalar F] {m n : Nat}

/-- The headers of the snapshots of a tableau. -/
def headers (n : Nat) : List String :=
  ["Basis", "C_B", "B"] ++ (List.range n).map variableName ++ ["Q"]

/-- The limit that a row sets to the column that would enter next. -/
def limitCell (t : Tableau F m n) (entering : Option (Fin n)) (i : Fin m) : Cell F :=
  match entering with
  | none => .empty
  | some j => if t.epsilon < t.entry i j then .number (t.value i / t.entry i j) else .empty

/-- The row of a snapshot that shows an equation. -/
def equationCells (t : Tableau F m n) (entering : Option (Fin n)) (i : Fin m) : List (Cell F) :=
  [.label (variableName (t.basic i)), .number (t.basicCost i), .number (t.value i)] ++
    (List.finRange n).map (fun j => .number (t.entry i j)) ++ [t.limitCell entering i]

/-- The last row of a snapshot. -/
def costCells (t : Tableau F m n) : List (Cell F) :=
  [.label "Δ", .empty, .number t.objectiveValue] ++
    (List.finRange n).map (fun j => .number (t.reducedCost j)) ++ [.empty]

/-- The current state as a table. -/
def snapshot (t : Tableau F m n) : Snapshot F :=
  { headers := headers n
    rows := (List.finRange m).map (t.equationCells t.largestColumn) ++ [t.costCells]
    full := by
      intro row hrow
      rcases List.mem_append.1 hrow with h | h
      · obtain ⟨i, -, rfl⟩ := List.mem_map.1 h
        simp [equationCells, headers]
      · obtain rfl := List.mem_singleton.1 h
        simp [costCells, headers] }

end Tableau

end LinearProgramming
