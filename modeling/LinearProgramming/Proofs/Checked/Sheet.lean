import LinearProgramming.Proofs.Checked.Positions
import LinearProgramming.Tableau.Trail
import LinearProgramming.Proofs.Tableau.Selection

/-!
# Tableaux as plain lists

A sheet has the contents of a tableau in lists of any length, and the method works on it with
numbered rows and columns, as a program does. Every access is checked, and so are the
conditions that such a program takes for granted. On the sheet of a tableau each operation
succeeds, with the result of the operation on the tableau: the counts that the type of a tableau
carries are all that the checks ask for. No law of arithmetic is used, and nothing is asked of
comparisons.
-/

namespace LinearProgramming

open Checked

/-- The contents of a tableau, with nothing said about how many there are. -/
structure Sheet (F : Type) where
  rows : List (List F)
  /-- Count of the columns, which the rows do not tell if there are none. -/
  width : Nat
  values : List F
  costs : List F
  basis : List Nat
  epsilon : F

namespace Sheet

variable {F : Type}

def height (s : Sheet F) : Nat := s.rows.length

def entry (s : Sheet F) (row column : Nat) : Except Fault F := do
  let cells ← get s.rows row
  get cells column

/-- The costs of the basic variables. -/
def basicCosts (s : Sheet F) : Except Fault (List F) := s.basis.mapM (get s.costs)

/-- The entries that have to be zero and one in a canonical tableau. -/
def basicColumns (s : Sheet F) : Except Fault (List (List F)) :=
  s.basis.mapM fun column => (List.range s.height).mapM (s.entry · column)

variable [Scalar F]

def reducedCost (s : Sheet F) (column : Nat) : Except Fault F := do
  require (column < s.width)
  let basics ← s.basicCosts
  let cells ← s.rows.mapM (get · column)
  let cost ← get s.costs column
  .ok (cost - innerProduct basics cells)

def reducedCosts (s : Sheet F) : Except Fault (List F) := (List.range s.width).mapM s.reducedCost

def objectiveValue (s : Sheet F) : Except Fault F := do
  let basics ← s.basicCosts
  .ok (innerProduct basics s.values)

/-- The value of every variable. -/
def solution (s : Sheet F) : Except Fault (List F) :=
  (s.basis.zip s.values).foldlM (fun x e => if e.1 < s.width then set x e.1 e.2 else .ok x)
    (List.replicate s.width 0)

def isOptimal (s : Sheet F) : Except Fault Bool := do
  let costs ← s.reducedCosts
  .ok (costs.all fun cost => cost ≤ s.epsilon)

/-- The columns that can improve the objective, with their reduced costs. -/
def profitable (s : Sheet F) : Except Fault (List (Nat × F)) := do
  let costs ← s.reducedCosts
  .ok (((List.range s.width).zip costs).filter fun c => s.epsilon < c.2)

def largestColumn (s : Sheet F) : Except Fault (Option Nat) := do
  let profitable ← s.profitable
  .ok ((firstBest (fun x y => y < x) profitable).map Prod.fst)

def firstColumn (s : Sheet F) : Except Fault (Option Nat) := do
  let profitable ← s.profitable
  .ok (profitable.head?.map Prod.fst)

/-- The limit that a row sets to a column, if it does. -/
def limit? (s : Sheet F) (column row : Nat) : Except Fault (Option F) := do
  let cell ← s.entry row column
  if s.epsilon < cell then
    let value ← get s.values row
    .ok (some (value / cell))
  else .ok none

/-- The rows that limit a column, with their limits. -/
def limiting (s : Sheet F) (column : Nat) : Except Fault (List (Nat × F)) := do
  let limits ← (List.range s.height).mapM (s.limit? column)
  .ok (((List.range s.height).zip limits).filterMap fun c => c.2.map fun limit => (c.1, limit))

def leavingRow (s : Sheet F) (column : Nat) : Except Fault (Option Nat) := do
  require (column < s.width)
  let limiting ← s.limiting column
  .ok ((firstBest (fun x y => x < y) limiting).map Prod.fst)

/-- One more row, its limit and its basic variable in the search for the lowest of these. -/
def nearer (epsilon : F) (best : Option (Nat × F × Nat)) (candidate : Nat × F × Nat) :
    Option (Nat × F × Nat) :=
  match best with
  | none => some candidate
  | some (row, limit, basic) =>
    if magnitude (candidate.2.1 - limit) ≤ epsilon then
      if candidate.2.2 < basic then some (candidate.1, limit, candidate.2.2)
      else some (row, limit, basic)
    else if candidate.2.1 < limit then some candidate
    else some (row, limit, basic)

def lowestLeavingRow (s : Sheet F) (column : Nat) : Except Fault (Option Nat) := do
  let limiting ← s.limiting column
  let candidates ← limiting.mapM fun c => do
    let basic ← get s.basis c.1
    .ok (c.1, c.2, basic)
  .ok ((candidates.foldl (nearer s.epsilon) none).map Prod.fst)

/-- A row after a pivot. -/
def pivotedRow (s : Sheet F) (p : F) (r c i : Nat) : Except Fault (List F) :=
  if i = r then do
    let cells ← get s.rows r
    .ok (cells.map (· / p))
  else do
    let factor ← s.entry i c
    (List.range s.width).mapM fun j => do
      let x ← s.entry i j
      let y ← s.entry r j
      .ok ((x * p - factor * y) / p)

/-- The value of a row after a pivot. -/
def pivotedValue (s : Sheet F) (p : F) (r c i : Nat) : Except Fault F := do
  let y ← get s.values r
  if i = r then .ok (y / p)
  else
    let factor ← s.entry i c
    let x ← get s.values i
    .ok ((x * p - factor * y) / p)

def pivot? (s : Sheet F) (r c : Nat) : Except Fault (Except Failure (Sheet F)) :=
  if r < s.height ∧ c < s.width then do
    let p ← s.entry r c
    if magnitude p < s.epsilon then .ok (.error (.invalidPivot r c))
    else
      let rows ← (List.range s.height).mapM (s.pivotedRow p r c)
      let values ← (List.range s.height).mapM (s.pivotedValue p r c)
      let basis ← set s.basis r c
      .ok (.ok { s with rows, values, basis })
  else .ok (.error (.invalidPivot r c))

/-- The limit that a row sets to the column that would enter next. -/
def limitCell (s : Sheet F) (entering : Option Nat) (i : Nat) : Except Fault (Cell F) :=
  match entering with
  | none => .ok .empty
  | some column => do
    let limit ← s.limit? column i
    .ok (limit.elim .empty .number)

def equationCells (s : Sheet F) (entering : Option Nat) (i : Nat) :
    Except Fault (List (Cell F)) := do
  let limit ← s.limitCell entering i
  let basic ← get s.basis i
  let cost ← get s.costs basic
  let value ← get s.values i
  let cells ← get s.rows i
  .ok ([.label (variableName basic), .number cost, .number value] ++ cells.map .number ++ [limit])

def snapshot (s : Sheet F) : Except Fault (Snapshot F) := do
  let entering ← s.largestColumn
  let equations ← (List.range s.height).mapM (s.equationCells entering)
  let objective ← s.objectiveValue
  let costs ← s.reducedCosts
  let last := [.label "Δ", .empty, .number objective] ++ costs.map .number ++ [.empty]
  (Snapshot.new? (Tableau.headers s.width) (equations ++ [last])).mapError fun _ => .assertion

end Sheet

namespace Tableau

variable {F : Type} {m n : Nat}

/-- The contents of a tableau. -/
def sheet (t : Tableau F m n) : Sheet F where
  rows := (List.finRange m).map fun i => (List.finRange n).map (t.entry i)
  width := n
  values := (List.finRange m).map t.value
  costs := (List.finRange n).map t.cost
  basis := (List.finRange m).map fun i => (t.basic i).val
  epsilon := t.epsilon

theorem height_sheet (t : Tableau F m n) : t.sheet.height = m := by
  simp [Sheet.height, sheet]

theorem width_sheet (t : Tableau F m n) : t.sheet.width = n := rfl

theorem epsilon_sheet (t : Tableau F m n) : t.sheet.epsilon = t.epsilon := rfl

theorem get_rows_sheet (t : Tableau F m n) (i : Fin m) :
    get t.sheet.rows i = .ok ((List.finRange n).map (t.entry i)) :=
  get_map_finRange _ i

theorem get_values_sheet (t : Tableau F m n) (i : Fin m) :
    get t.sheet.values i = .ok (t.value i) := get_map_finRange t.value i

theorem get_costs_sheet (t : Tableau F m n) (j : Fin n) :
    get t.sheet.costs j = .ok (t.cost j) := get_map_finRange t.cost j

theorem get_basis_sheet (t : Tableau F m n) (i : Fin m) :
    get t.sheet.basis i = .ok (t.basic i).val := get_map_finRange _ i

theorem entry_sheet (t : Tableau F m n) (i : Fin m) (j : Fin n) :
    t.sheet.entry i j = .ok (t.entry i j) := by
  rw [Sheet.entry, get_rows_sheet, ok_bind, get_map_finRange]

theorem basicCosts_sheet (t : Tableau F m n) :
    t.sheet.basicCosts = .ok ((List.finRange m).map t.basicCost) :=
  mapM_map_eq_ok fun i _ => t.get_costs_sheet (t.basic i)

theorem basicColumns_sheet (t : Tableau F m n) : t.sheet.basicColumns =
    .ok ((List.finRange m).map fun row => (List.finRange m).map (t.entry · (t.basic row))) := by
  unfold Sheet.basicColumns
  rw [height_sheet]
  exact mapM_map_eq_ok fun row _ => mapM_range_eq_ok fun i => t.entry_sheet i (t.basic row)

variable [Scalar F]

/-- Inner products of families are totals of products. -/
theorem innerProduct_map_finRange (f g : Fin m → F) :
    innerProduct ((List.finRange m).map f) ((List.finRange m).map g) =
      total fun i => f i * g i := by
  unfold innerProduct total
  rw [List.zipWith_map, List.zipWith_self, List.foldl_map, Fin.foldl_eq_finRange_foldl]

theorem reducedCost_sheet (t : Tableau F m n) (j : Fin n) :
    t.sheet.reducedCost j = .ok (t.reducedCost j) := by
  have hcells : t.sheet.rows.mapM (get · j.val) = .ok ((List.finRange m).map (t.entry · j)) :=
    mapM_map_eq_ok fun i _ => get_map_finRange (t.entry i) j
  rw [Sheet.reducedCost, width_sheet, require_of j.isLt, ok_bind, basicCosts_sheet, ok_bind,
    hcells, ok_bind, get_costs_sheet, ok_bind, innerProduct_map_finRange]
  rfl

theorem reducedCosts_sheet (t : Tableau F m n) :
    t.sheet.reducedCosts = .ok ((List.finRange n).map t.reducedCost) :=
  mapM_range_eq_ok t.reducedCost_sheet

theorem objectiveValue_sheet (t : Tableau F m n) :
    t.sheet.objectiveValue = .ok t.objectiveValue := by
  rw [Sheet.objectiveValue, basicCosts_sheet, ok_bind]
  exact congrArg Except.ok (innerProduct_map_finRange t.basicCost t.value)

/-- A basic variable that does not exist is noticed. -/
example (x : F) : (⟨[[x]], 1, [x], [x], [1], x⟩ : Sheet F).objectiveValue = .error .position := rfl

theorem isOptimal_sheet (t : Tableau F m n) : t.sheet.isOptimal = .ok (decide t.IsOptimal) := by
  rw [Sheet.isOptimal, reducedCosts_sheet, ok_bind]
  refine congrArg Except.ok (Bool.eq_iff_iff.mpr ?_)
  rw [decide_eq_true_iff, List.all_eq_true, List.forall_mem_map]
  simp only [decide_eq_true_iff]
  exact ⟨fun h j => h j (List.mem_finRange j), fun h j _ => h j⟩

/-- The values are put in place one after the other, as in the solution of the tableau. -/
theorem solution_sheet (t : Tableau F m n) : t.sheet.solution = .ok t.solution.toList := by
  have hstep (x : Vector F n) (i : Fin m) :
      (if (t.basic i).val < n then set x.toList (t.basic i).val (t.value i) else .ok x.toList) =
        .ok (x.set (t.basic i) (t.value i)).toList := by
    rw [if_pos (t.basic i).isLt, set_of_lt (by simp), Vector.toList_set]
  have hzip : t.sheet.basis.zip t.sheet.values =
      (List.finRange m).map fun i => ((t.basic i).val, t.value i) := List.zip_map'
  unfold Sheet.solution
  rw [hzip, solution, Fin.foldl_eq_finRange_foldl, ← Vector.toList_replicate]
  exact foldlM_map_eq_ok (g := fun i => ((t.basic i).val, t.value i))
    (f := fun x e => if e.1 < n then set x e.1 e.2 else .ok x) hstep _ _

theorem profitable_sheet (t : Tableau F m n) :
    t.sheet.profitable = .ok (t.profitable.map (Prod.map Fin.val id)) := by
  have hzip : (List.range n).zip ((List.finRange n).map t.reducedCost) =
      ((List.finRange n).map fun j => (j, t.reducedCost j)).map (Prod.map Fin.val id) := by
    rw [← map_val_finRange, List.zip_map', List.map_map]
    rfl
  rw [Sheet.profitable, reducedCosts_sheet, ok_bind]
  show Except.ok (((List.range n).zip _).filter _) = _
  rw [hzip, List.filter_map]
  rfl

theorem largestColumn_sheet (t : Tableau F m n) :
    t.sheet.largestColumn = .ok (t.largestColumn.map Fin.val) := by
  rw [Sheet.largestColumn, profitable_sheet, ok_bind, firstBest_map, largestColumn,
    Option.map_map, Option.map_map]
  rfl

theorem firstColumn_sheet (t : Tableau F m n) :
    t.sheet.firstColumn = .ok (t.firstColumn.map Fin.val) := by
  rw [Sheet.firstColumn, profitable_sheet, ok_bind, List.head?_map, profitable, List.head?_filter,
    List.find?_map, Option.map_map, Option.map_map]
  rfl

theorem limit?_sheet (t : Tableau F m n) (j : Fin n) (i : Fin m) : t.sheet.limit? j i =
    .ok (if t.epsilon < t.entry i j then some (t.value i / t.entry i j) else none) := by
  rw [Sheet.limit?, entry_sheet, ok_bind, get_values_sheet, ok_bind]
  exact (apply_ite Except.ok _ _ _).symm

theorem limiting_sheet (t : Tableau F m n) (j : Fin n) :
    t.sheet.limiting j = .ok ((t.limiting j).map (Prod.map Fin.val id)) := by
  rw [Sheet.limiting, height_sheet, mapM_range_eq_ok (t.limit?_sheet j), ok_bind,
    ← map_val_finRange, List.zip_map', List.filterMap_map, limiting, List.map_map,
    ← List.filterMap_eq_map', List.filterMap_filter]
  refine congrArg Except.ok (List.filterMap_congr fun i _ => ?_)
  by_cases h : t.epsilon < t.entry i j
  · simp [h]
  · simp [h]

theorem leavingRow_sheet (t : Tableau F m n) (j : Fin n) :
    t.sheet.leavingRow j = .ok ((t.firstLeastRow j).map Fin.val) := by
  rw [Sheet.leavingRow, width_sheet, require_of j.isLt, ok_bind,
    limiting_sheet, ok_bind, firstBest_map, firstLeastRow, Option.map_map, Option.map_map]
  rfl

/-- A candidate as the search on a sheet has it, with its basic variable at hand. -/
def named (t : Tableau F m n) (c : Fin m × F) : Nat × F × Nat :=
  (c.1.val, c.2, (t.basic c.1).val)

theorem nearer_named (t : Tableau F m n) (best : Option (Fin m × F)) (c : Fin m × F) :
    Sheet.nearer t.epsilon (best.map t.named) (t.named c) = (t.nearerRow best c).map t.named := by
  cases best with
  | none => rfl
  | some held =>
    show (if magnitude (c.2 - held.2) ≤ t.epsilon then
        if (t.basic c.1).val < (t.basic held.1).val then some (c.1.val, held.2, (t.basic c.1).val)
        else some (held.1.val, held.2, (t.basic held.1).val)
      else if c.2 < held.2 then some (t.named c)
      else some (held.1.val, held.2, (t.basic held.1).val)) = Option.map t.named _
    unfold nearerRow
    dsimp only
    split
    · rw [apply_ite (Option.map t.named)]
      rfl
    · rw [apply_ite (Option.map t.named)]
      rfl

theorem lowestLeavingRow_sheet (t : Tableau F m n) (j : Fin n) :
    t.sheet.lowestLeavingRow j = .ok ((t.lowestLeastRow j).map Fin.val) := by
  have hcandidates : ((t.limiting j).map (Prod.map Fin.val id)).mapM
      (fun c => do
        let basic ← get t.sheet.basis c.1
        .ok (c.1, c.2, basic)) = .ok ((t.limiting j).map t.named) :=
    mapM_map_eq_ok fun c _ => by
      rw [Prod.map_fst, get_basis_sheet]
      rfl
  have hfold (l : List (Fin m × F)) (best : Option (Fin m × F)) :
      (l.map t.named).foldl (Sheet.nearer t.epsilon) (best.map t.named) =
        (l.foldl t.nearerRow best).map t.named := by
    induction l generalizing best with
    | nil => rfl
    | cons c l ih => rw [List.map_cons, List.foldl_cons, nearer_named, ih, List.foldl_cons]
  rw [Sheet.lowestLeavingRow, limiting_sheet, ok_bind, hcandidates, ok_bind]
  show Except.ok (((_ : List _).foldl (Sheet.nearer t.epsilon) (Option.map t.named none)).map _) = _
  rw [hfold, lowestLeastRow, Option.map_map, Option.map_map]
  rfl

theorem pivotedRow_sheet (t : Tableau F m n) (r : Fin m) (k : Fin n) (i : Fin m) :
    t.sheet.pivotedRow (t.entry r k) r k i =
      .ok ((List.finRange n).map ((t.pivot r k).entry i)) := by
  unfold Sheet.pivotedRow
  by_cases h : i = r
  · subst h
    rw [if_pos rfl, get_rows_sheet, ok_bind, List.map_map]
    refine congrArg Except.ok (List.map_congr_left fun j _ => ?_)
    rw [entry_pivot_self]
    rfl
  · rw [if_neg (Fin.val_ne_of_ne h), entry_sheet, ok_bind, width_sheet]
    refine mapM_range_eq_ok fun j => ?_
    rw [entry_sheet, ok_bind, entry_sheet, ok_bind, entry_pivot_of_ne t h]

theorem pivotedValue_sheet (t : Tableau F m n) (r : Fin m) (k : Fin n) (i : Fin m) :
    t.sheet.pivotedValue (t.entry r k) r k i = .ok ((t.pivot r k).value i) := by
  unfold Sheet.pivotedValue
  rw [get_values_sheet, ok_bind]
  by_cases h : i = r
  · subst h
    rw [if_pos rfl, value_pivot_self]
  · rw [if_neg (Fin.val_ne_of_ne h), entry_sheet, ok_bind, get_values_sheet, ok_bind,
      value_pivot_of_ne t h]

theorem set_basis_sheet (t : Tableau F m n) (r : Fin m) (k : Fin n) :
    set t.sheet.basis r k = .ok (t.pivot r k).sheet.basis := by
  rw [set_of_lt (by simp [sheet])]
  refine congrArg Except.ok (List.ext_getElem (by simp [sheet]) fun i hi _ => ?_)
  obtain ⟨i, rfl⟩ : ∃ row : Fin m, row.val = i := ⟨⟨i, by simpa [sheet] using hi⟩, rfl⟩
  rw [List.getElem_set]
  by_cases h : i = r
  · subst h
    simp [sheet]
  · simp [sheet, basic_pivot_of_ne t h, Fin.val_ne_of_ne (Ne.symm h)]

theorem pivot?_sheet (t : Tableau F m n) (row column : Nat) : t.sheet.pivot? row column =
    .ok ((t.pivotPosition? row column).map fun found => (t.pivot found.1 found.2).sheet) := by
  unfold Sheet.pivot? pivotPosition?
  rw [height_sheet, width_sheet]
  by_cases hr : row < m
  · by_cases hc : column < n
    · obtain ⟨r, rfl⟩ : ∃ r : Fin m, r.val = row := ⟨⟨row, hr⟩, rfl⟩
      obtain ⟨k, rfl⟩ : ∃ k : Fin n, k.val = column := ⟨⟨column, hc⟩, rfl⟩
      rw [if_pos ⟨hr, hc⟩, dif_pos hr, dif_pos hc, entry_sheet, ok_bind, epsilon_sheet]
      by_cases hsmall : magnitude (t.entry r k) < t.epsilon
      · rw [if_pos hsmall, if_pos hsmall]
        rfl
      · rw [if_neg hsmall, if_neg hsmall, mapM_range_eq_ok (t.pivotedRow_sheet r k), ok_bind,
          mapM_range_eq_ok (t.pivotedValue_sheet r k), ok_bind, set_basis_sheet, ok_bind]
        rfl
    · rw [if_neg fun h => hc h.2, dif_pos hr, dif_neg hc]
      rfl
  · rw [if_neg fun h => hr h.1, dif_neg hr]
    rfl

theorem limitCell_sheet (t : Tableau F m n) (entering : Option (Fin n)) (i : Fin m) :
    t.sheet.limitCell (entering.map Fin.val) i = .ok (t.limitCell entering i) := by
  cases entering with
  | none => rfl
  | some j =>
    show (t.sheet.limit? j i >>= _) = _
    rw [limit?_sheet, ok_bind]
    unfold limitCell
    dsimp only
    split <;> rfl

theorem equationCells_sheet (t : Tableau F m n) (entering : Option (Fin n)) (i : Fin m) :
    t.sheet.equationCells (entering.map Fin.val) i = .ok (t.equationCells entering i) := by
  rw [Sheet.equationCells, limitCell_sheet, ok_bind, get_basis_sheet, ok_bind, get_costs_sheet,
    ok_bind, get_values_sheet, ok_bind, get_rows_sheet, ok_bind, List.map_map]
  rfl

theorem snapshot_sheet (t : Tableau F m n) : t.sheet.snapshot = .ok t.snapshot := by
  rw [Sheet.snapshot, largestColumn_sheet, ok_bind, height_sheet,
    mapM_range_eq_ok (t.equationCells_sheet t.largestColumn), ok_bind, objectiveValue_sheet,
    ok_bind, reducedCosts_sheet, ok_bind, List.map_map]
  have hnew : Snapshot.new? (headers n) t.snapshot.rows = .ok t.snapshot := dif_pos t.snapshot.full
  exact congrArg (Except.mapError fun _ => Fault.assertion) hnew

end Tableau

end LinearProgramming
