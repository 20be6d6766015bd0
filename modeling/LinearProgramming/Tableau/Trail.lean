import LinearProgramming.Tableau.Pivot
import LinearProgramming.Tableau.Snapshot

/-!
# The trail of a tableau

A trail is a tableau on its way from pivot to pivot, with the snapshots of the states it
has been in. The snapshot of the first state and that of the current state are always
there. Those in between are kept only while recording is on. What is recorded never
changes what a pivot does.
-/

namespace LinearProgramming

/-- A first entry and the entries after it, oldest first. -/
structure History (α : Type) where
  first : α
  later : Array α
  deriving BEq

namespace History

variable {α : Type}

/-- All entries, oldest first. -/
def toList (h : History α) : List α := h.first :: h.later.toList

def length (h : History α) : Nat := h.later.size + 1

/-- The newest entry. -/
def latest (h : History α) : α := h.later.back?.getD h.first

/-- The entry with a number, counted from the first. -/
def get? (h : History α) : Nat → Option α
  | 0 => some h.first
  | i + 1 => h.later[i]?

/-- One more entry. Unless all entries are kept, it takes the place of the newest one,
the first excepted. -/
def add (h : History α) (keepAll : Bool) (entry : α) : History α :=
  { h with later := (if keepAll then h.later else h.later.pop).push entry }

@[simp] theorem latest_add (h : History α) (keepAll : Bool) (entry : α) :
    (h.add keepAll entry).latest = entry := by
  simp [add, latest]

@[simp] theorem first_add (h : History α) (keepAll : Bool) (entry : α) :
    (h.add keepAll entry).first = h.first := rfl

@[simp] theorem length_toList (h : History α) : h.toList.length = h.length := by
  simp [toList, length]

theorem get?_eq_getElem? (h : History α) (i : Nat) : h.get? i = h.toList[i]? := by
  cases i <;> simp [get?, toList]

end History

/-- A tableau with the snapshots of its states. -/
structure Trail (F : Type) (m n : Nat) where
  tableau : Tableau F m n
  /-- Whether the snapshots between the first and the latest are kept. -/
  recording : Bool
  history : History (Snapshot F)
  /-- Count of the pivots so far. -/
  pivots : Nat
  deriving BEq

namespace Trail

variable {F : Type} [Scalar F] {m n : Nat}

/-- The trail of a tableau that has not been pivoted yet. -/
def start (t : Tableau F m n) : Trail F m n :=
  { tableau := t, recording := true, history := ⟨t.snapshot, #[]⟩, pivots := 0 }

/-- The same trail with recording turned on or off from now on. -/
def record (t : Trail F m n) (recording : Bool) : Trail F m n := { t with recording }

/-- The trail after one more pivot. -/
def pivot (t : Trail F m n) (r : Fin m) (k : Fin n) : Trail F m n :=
  let next := t.tableau.pivot r k
  { t with
    tableau := next
    history := t.history.add t.recording next.snapshot
    pivots := t.pivots + 1 }

/-- The trail after a pivot on the row and column with these numbers, if there is an entry
to pivot on. -/
def pivot? (t : Trail F m n) (row column : Nat) : Except Failure (Trail F m n) :=
  (t.tableau.pivotPosition? row column).map fun position => t.pivot position.1 position.2

/-- The snapshot of the current state. -/
def latest (t : Trail F m n) : Snapshot F := t.history.latest

/-- The snapshot with a number, the first state having number zero. -/
def iteration (t : Trail F m n) (index : Nat) : Except Failure (Snapshot F) :=
  match t.history.get? index with
  | some snapshot => .ok snapshot
  | none => .error (.iterationOutOfRange index t.history.length)

/-- The current state as a table under a title. -/
def text [Floating F] (t : Trail F m n) : String :=
  s!"=== Tableau after {t.pivots} pivots ===\n" ++ t.latest.text

end Trail

/-- The trail of a problem for the basis of a basic solution. -/
def LinearProgram.trail? {F : Type} [Scalar F] (p : LinearProgram F) (start : BasicSolution F)
    (epsilon : F) : Except Failure (Trail F p.constraints.length p.dimension) :=
  (p.tableau? start epsilon).map Trail.start

end LinearProgramming
