import LinearProgramming.Proofs.Tableau.Ascent
import LinearProgramming.Proofs.Tableau.Attempts

/-!
# Elimination

A pivot is Gauss-Jordan elimination on the whole tableau, the objective included. The row of the
objective is not stored, but the objective and the reduced costs that are calculated after a
pivot are what elimination makes of those before it, whether the basic columns are unit vectors
or not.

The numbers after a pivot can be written over those before it, cell by cell. Each of them is
calculated from numbers that still stand at that time: the pivot row is overwritten last, and
of another row the entry in the pivot column is looked up before the row is. All divisions are
by the pivot element, so the pivot goes wrong exactly if that is zero.
-/

namespace LinearProgramming

/-- The rows of numbers after elimination on a place: its row is divided by the number there,
and multiples of that row are subtracted from the others, which clears the column. -/
def gaussJordan {F : Type} [Scalar F] (rows : List (List F)) (r c : Nat) : List (List F) :=
  let pivotRow := rows.getD r []
  let unitRow := pivotRow.map (· / pivotRow.getD c 0)
  rows.mapIdx fun i row =>
    if i = r then unitRow else List.zipWith (fun x y => x - row.getD c 0 * y) row unitRow

theorem gaussJordan_concat {F : Type} [Scalar F] {rows : List (List F)} {r : Nat}
    (hr : r < rows.length) (last : List F) (c : Nat) :
    gaussJordan (rows ++ [last]) r c = gaussJordan rows r c ++
      [List.zipWith (fun x y => x - last.getD c 0 * y) last
        ((rows.getD r []).map (· / (rows.getD r []).getD c 0))] := by
  have hrow : (rows ++ [last]).getD r [] = rows.getD r [] := by
    rw [List.getD_eq_getElem?_getD, List.getElem?_append_left hr, List.getD_eq_getElem?_getD]
  unfold gaussJordan
  rw [hrow, List.mapIdx_concat, if_neg hr.ne']

namespace Tableau

section Rows

variable {F : Type} {m n : Nat}

/-- The value of a row and its coefficients. -/
def systemRow (t : Tableau F m n) (i : Fin m) : List F :=
  t.value i :: (List.finRange n).map (t.entry i)

/-- The values and coefficients, a row for each equation. -/
def system (t : Tableau F m n) : List (List F) := (List.finRange m).map t.systemRow

variable [Scalar F]

/-- What is left of the objective: its value with the sign changed, and the reduced costs. -/
def costRow (t : Tableau F m n) : List F :=
  -t.objectiveValue :: (List.finRange n).map t.reducedCost

/-- All numbers of the tableau, with the row of the objective below the equations. -/
def wholeSystem (t : Tableau F m n) : List (List F) := t.system ++ [t.costRow]

end Rows

variable {F : Type} [Field F] [LinearOrder F] {m n : Nat}

omit [LinearOrder F] in
theorem getD_systemRow (t : Tableau F m n) (i : Fin m) (k : Fin n) :
    (t.systemRow i).getD (k + 1) 0 = t.entry i k := by
  simp [systemRow]

omit [Field F] [LinearOrder F] in
theorem getElem_system (t : Tableau F m n) (i : Fin m) (h : i.val < t.system.length) :
    t.system[i.val] = t.systemRow i := by
  simp [system]

omit [Field F] [LinearOrder F] in
theorem getD_system (t : Tableau F m n) (i : Fin m) : t.system.getD i [] = t.systemRow i := by
  rw [List.getD_eq_getElem?_getD, List.getElem?_eq_getElem (by simp [system]), getElem_system]
  rfl

theorem systemRow_pivot_self (t : Tableau F m n) (r : Fin m) (k : Fin n) :
    (t.pivot r k).systemRow r = (t.systemRow r).map (· / t.entry r k) := by
  rw [systemRow, systemRow, List.map_cons, List.map_map, value_pivot_self]
  congr 1
  exact List.map_congr_left fun j _ => t.entry_pivot_self r k j

theorem systemRow_pivot_of_ne {t : Tableau F m n} {r i : Fin m} {k : Fin n}
    (hp : t.entry r k ≠ 0) (hi : i ≠ r) :
    (t.pivot r k).systemRow i = List.zipWith (fun x y => x - t.entry i k * y) (t.systemRow i)
      ((t.pivot r k).systemRow r) := by
  rw [systemRow, systemRow, systemRow, List.zipWith_cons_cons, List.zipWith_map,
    List.zipWith_self, value_pivot_of_ne_eq_sub t hp hi]
  congr 1
  exact List.map_congr_left fun j _ => t.entry_pivot_of_ne_eq_sub hp hi j

/-- Elimination on the numbers of a tableau gives those after a pivot. -/
theorem system_pivot {t : Tableau F m n} {r : Fin m} {k : Fin n} (hp : t.entry r k ≠ 0) :
    (t.pivot r k).system = gaussJordan t.system r (k + 1) := by
  unfold gaussJordan
  dsimp only
  rw [getD_system, getD_systemRow, ← systemRow_pivot_self]
  refine List.ext_getElem (by simp [system]) fun i hi _ => ?_
  obtain ⟨i, rfl⟩ : ∃ row : Fin m, row.val = i := ⟨⟨i, by simpa [system] using hi⟩, rfl⟩
  rw [List.getElem_mapIdx, getElem_system, getElem_system]
  by_cases h : i = r
  · rw [if_pos (congrArg Fin.val h), h]
  · rw [if_neg (Fin.val_ne_of_ne h), getD_systemRow]
    exact systemRow_pivot_of_ne hp h

theorem reducedCost_pivot {t : Tableau F m n} {r : Fin m} {k : Fin n} (hp : t.entry r k ≠ 0)
    (j : Fin n) : (t.pivot r k).reducedCost j =
      t.reducedCost j - t.reducedCost k * (t.pivot r k).entry r j := by
  rw [reducedCost_eq, cost_pivot, sum_basicCost_pivot t hp (entry_pivot_self t r k j)
    fun i hi => entry_pivot_of_ne_eq_sub t hp hi j, reducedCost_eq t j]
  ring

theorem costRow_pivot {t : Tableau F m n} {r : Fin m} {k : Fin n} (hp : t.entry r k ≠ 0) :
    (t.pivot r k).costRow = List.zipWith (fun x y => x - t.reducedCost k * y) t.costRow
      ((t.pivot r k).systemRow r) := by
  have hvalue : -(t.pivot r k).objectiveValue =
      -t.objectiveValue - t.reducedCost k * (t.pivot r k).value r := by
    rw [objectiveValue_pivot t hp, value_pivot_self]
    ring
  rw [costRow, costRow, systemRow, List.zipWith_cons_cons, List.zipWith_map, List.zipWith_self,
    hvalue]
  congr 1
  exact List.map_congr_left fun j _ => reducedCost_pivot hp j

/-- Elimination on all numbers of a tableau gives those after a pivot. -/
theorem wholeSystem_pivot {t : Tableau F m n} {r : Fin m} {k : Fin n} (hp : t.entry r k ≠ 0) :
    (t.pivot r k).wholeSystem = gaussJordan t.wholeSystem r (k + 1) := by
  have hr : r.val < t.system.length := by simp [system]
  have hcost : t.costRow.getD (k + 1) 0 = t.reducedCost k := by simp [costRow]
  rw [wholeSystem, wholeSystem, gaussJordan_concat hr, getD_system, getD_systemRow, hcost,
    ← systemRow_pivot_self, ← costRow_pivot hp, system_pivot hp]

end Tableau

/-- The quotient of two numbers, if the divisor is not zero. -/
def quotient? {F : Type} [Field F] [DecidableEq F] (x y : F) : Option F :=
  if y = 0 then none else some (x / y)

theorem quotient?_of_ne {F : Type} [Field F] [DecidableEq F] {y : F} (h : y ≠ 0) (x : F) :
    quotient? x y = some (x / y) := if_neg h

theorem quotient?_zero {F : Type} [Field F] [DecidableEq F] (x : F) :
    quotient? x 0 = none := if_pos rfl

namespace Tableau

section Cells

variable {F : Type} {m n : Nat}

/-- The tableau with another coefficient at one place. -/
def setEntry (t : Tableau F m n) (i : Fin m) (j : Fin n) (x : F) : Tableau F m n :=
  { t with coefficients := t.coefficients.set i ((t.coefficients.get i).set j x j.isLt) i.isLt }

/-- The tableau with another value of one row. -/
def setValue (t : Tableau F m n) (i : Fin m) (x : F) : Tableau F m n :=
  { t with values := t.values.set i x i.isLt }

theorem entry_setEntry_self (t : Tableau F m n) (i : Fin m) (j : Fin n) (x : F) :
    (t.setEntry i j x).entry i j = x := by
  simp [setEntry, entry]

theorem entry_setEntry_of_ne (t : Tableau F m n) {i i' : Fin m} {j j' : Fin n}
    (h : (i', j') ≠ (i, j)) (x : F) : (t.setEntry i j x).entry i' j' = t.entry i' j' := by
  by_cases hi : i' = i
  · have hj : (j : Nat) ≠ j' := fun hj => h (by rw [hi, Fin.ext hj])
    simp [setEntry, entry, hi, Vector.getElem_set_ne _ _ hj, Vector.get]
  · have hi' : (i : Nat) ≠ i' := fun he => hi (Fin.ext he.symm)
    simp [setEntry, entry, Vector.getElem_set_ne _ _ hi']

theorem value_setValue_self (t : Tableau F m n) (i : Fin m) (x : F) :
    (t.setValue i x).value i = x := by
  simp [setValue, value]

theorem value_setValue_of_ne (t : Tableau F m n) {i i' : Fin m} (h : i' ≠ i) (x : F) :
    (t.setValue i x).value i' = t.value i' := by
  have hi : (i : Nat) ≠ i' := Fin.val_ne_of_ne h.symm
  simp [setValue, value, Vector.getElem_set_ne _ _ hi]

end Cells

variable {F : Type} [Field F] [LinearOrder F] {m n : Nat}

/-- Overwrites one cell of another row than the pivot row. -/
def clearCell? (p factor : F) (r i : Fin m) (t : Tableau F m n) (j : Fin n) :
    Option (Tableau F m n) :=
  (quotient? (t.entry i j * p - factor * t.entry r j) p).map (t.setEntry i j)

/-- Overwrites another row than the pivot row, cell by cell, and then its value. -/
def clearRow? (p : F) (r : Fin m) (k : Fin n) (t : Tableau F m n) (i : Fin m) :
    Option (Tableau F m n) := do
  let factor := t.entry i k
  let cleared ← (List.finRange n).foldlM (clearCell? p factor r i) t
  let x ← quotient? (cleared.value i * p - factor * cleared.value r) p
  some (cleared.setValue i x)

/-- Overwrites one cell of the pivot row. -/
def divideCell? (p : F) (r : Fin m) (t : Tableau F m n) (j : Fin n) : Option (Tableau F m n) :=
  (quotient? (t.entry r j) p).map (t.setEntry r j)

/-- Overwrites the pivot row, cell by cell, and then its value. -/
def divideRow? (p : F) (r : Fin m) (t : Tableau F m n) : Option (Tableau F m n) := do
  let divided ← (List.finRange n).foldlM (divideCell? p r) t
  let x ← quotient? (divided.value r) p
  some (divided.setValue r x)

/-- The pivot in place: the other rows are overwritten one after the other, and the pivot row
comes last. There is no result if a divisor is zero. -/
def eliminate? (t : Tableau F m n) (r : Fin m) (k : Fin n) : Option (Tableau F m n) := do
  let p := t.entry r k
  let cleared ← ((List.finRange m).filter (· ≠ r)).foldlM (clearRow? p r k) t
  let divided ← divideRow? p r cleared
  some { divided with basis := divided.basis.set r k r.isLt }

/-- A pivot in place on its way: the given cells and the values of the given rows are those
after the pivot, and everything else is still as it was before. -/
structure Between (t : Tableau F m n) (r : Fin m) (k : Fin n) (cells : Set (Fin m × Fin n))
    (rows : Set (Fin m)) (s : Tableau F m n) : Prop where
  entry_new : ∀ i j, (i, j) ∈ cells → s.entry i j = (t.pivot r k).entry i j
  entry_old : ∀ i j, (i, j) ∉ cells → s.entry i j = t.entry i j
  value_new : ∀ i ∈ rows, s.value i = (t.pivot r k).value i
  value_old : ∀ i ∉ rows, s.value i = t.value i
  basis_eq : s.basis = t.basis
  costs_eq : s.costs = t.costs
  epsilon_eq : s.epsilon = t.epsilon

namespace Between

variable {t s : Tableau F m n} {r i : Fin m} {k : Fin n} {cells : Set (Fin m × Fin n)}
  {rows : Set (Fin m)}

theorem start (t : Tableau F m n) (r : Fin m) (k : Fin n) : t.Between r k ∅ ∅ t where
  entry_new _ _ h := absurd h (Set.notMem_empty _)
  entry_old _ _ _ := rfl
  value_new _ h := absurd h (Set.notMem_empty _)
  value_old _ _ := rfl
  basis_eq := rfl
  costs_eq := rfl
  epsilon_eq := rfl

theorem setEntry (h : t.Between r k cells rows s) (i : Fin m) (j : Fin n) :
    t.Between r k (insert (i, j) cells) rows (s.setEntry i j ((t.pivot r k).entry i j)) where
  entry_new i' j' hmem := by
    by_cases he : (i', j') = (i, j)
    · cases he
      exact s.entry_setEntry_self i j _
    · rw [entry_setEntry_of_ne s he]
      exact h.entry_new i' j' (Set.mem_of_mem_insert_of_ne hmem he)
  entry_old i' j' hmem := by
    rw [Set.mem_insert_iff, not_or] at hmem
    rw [entry_setEntry_of_ne s hmem.1]
    exact h.entry_old i' j' hmem.2
  value_new := h.value_new
  value_old := h.value_old
  basis_eq := h.basis_eq
  costs_eq := h.costs_eq
  epsilon_eq := h.epsilon_eq

theorem setValue (h : t.Between r k cells rows s) (i : Fin m) :
    t.Between r k cells (insert i rows) (s.setValue i ((t.pivot r k).value i)) where
  entry_new := h.entry_new
  entry_old := h.entry_old
  value_new i' hmem := by
    by_cases he : i' = i
    · rw [he, value_setValue_self]
    · rw [value_setValue_of_ne s he]
      exact h.value_new i' (Set.mem_of_mem_insert_of_ne hmem he)
  value_old i' hmem := by
    rw [Set.mem_insert_iff, not_or] at hmem
    rw [value_setValue_of_ne s hmem.1]
    exact h.value_old i' hmem.2
  basis_eq := h.basis_eq
  costs_eq := h.costs_eq
  epsilon_eq := h.epsilon_eq

/-- A loop over the cells of one row writes each of them once. What is written to a cell is
calculated from numbers in its column, and these have not been overwritten before. -/
theorem fillRow {step : Tableau F m n → Fin n → Option (Tableau F m n)}
    (hstep : ∀ {cells : Set (Fin m × Fin n)} {s : Tableau F m n} {j : Fin n},
      t.Between r k cells rows s → (i, j) ∉ cells → (r, j) ∉ cells →
        step s j = some (s.setEntry i j ((t.pivot r k).entry i j)))
    (h : t.Between r k cells rows s) {l : List (Fin n)} (hl : l.Nodup)
    (hfree : ∀ j ∈ l, (i, j) ∉ cells ∧ (r, j) ∉ cells) :
    ∃ s', l.foldlM step s = some s' ∧
      t.Between r k (cells ∪ {c | c.1 = i ∧ c.2 ∈ l}) rows s' := by
  induction l generalizing cells s with
  | nil =>
    refine ⟨s, rfl, ?_⟩
    simpa using h
  | cons j l ih =>
    obtain ⟨hj, hl⟩ := List.nodup_cons.mp hl
    obtain ⟨hfirst, hrest⟩ := List.forall_mem_cons.mp hfree
    have hfree' : ∀ j' ∈ l, (i, j') ∉ insert (i, j) cells ∧ (r, j') ∉ insert (i, j) cells := by
      intro j' hj'
      have hne : j' ≠ j := fun he => hj (he ▸ hj')
      simpa [Set.mem_insert_iff, hne] using hrest j' hj'
    obtain ⟨s', hs', hbetween⟩ := ih (h.setEntry i j) hl hfree'
    refine ⟨s', ?_, ?_⟩
    · rw [List.foldlM_cons, hstep h hfirst.1 hfirst.2]
      exact hs'
    · have hcells : insert (i, j) cells ∪ {c | c.1 = i ∧ c.2 ∈ l} =
          cells ∪ {c | c.1 = i ∧ c.2 ∈ j :: l} := by
        ext ⟨i', j'⟩
        simp only [Set.mem_union, Set.mem_insert_iff, Set.mem_ofPred_eq, List.mem_cons,
          Prod.mk.injEq]
        tauto
      rwa [hcells] at hbetween

/-- A loop over all cells of a row. -/
theorem fillRow_all {step : Tableau F m n → Fin n → Option (Tableau F m n)}
    (hstep : ∀ {cells : Set (Fin m × Fin n)} {s : Tableau F m n} {j : Fin n},
      t.Between r k cells rows s → (i, j) ∉ cells → (r, j) ∉ cells →
        step s j = some (s.setEntry i j ((t.pivot r k).entry i j)))
    (h : t.Between r k {c | c.1 ∈ rows} rows s) (hi : i ∉ rows) (hr : r ∉ rows) :
    ∃ s', (List.finRange n).foldlM step s = some s' ∧
      t.Between r k {c | c.1 ∈ insert i rows} rows s' := by
  obtain ⟨s', hs', hbetween⟩ := fillRow hstep h (List.nodup_finRange n) fun _ _ => ⟨hi, hr⟩
  refine ⟨s', hs', ?_⟩
  have hcells : {c : Fin m × Fin n | c.1 ∈ rows} ∪ {c | c.1 = i ∧ c.2 ∈ List.finRange n} =
      {c | c.1 ∈ insert i rows} := by
    ext c
    simp only [Set.mem_union, Set.mem_insert_iff, Set.mem_ofPred_eq, List.mem_finRange, and_true]
    exact or_comm
  rwa [hcells] at hbetween

theorem clearRow (h : t.Between r k {c | c.1 ∈ rows} rows s) (hp : t.entry r k ≠ 0)
    (hi : i ∉ rows) (hr : r ∉ rows) (hne : i ≠ r) :
    ∃ s', clearRow? (t.entry r k) r k s i = some s' ∧
      t.Between r k {c | c.1 ∈ insert i rows} (insert i rows) s' := by
  have hfactor : s.entry i k = t.entry i k := h.entry_old i k hi
  have hstep {cells : Set (Fin m × Fin n)} {s : Tableau F m n} {j : Fin n}
      (h : t.Between r k cells rows s) (hij : (i, j) ∉ cells) (hrj : (r, j) ∉ cells) :
      clearCell? (t.entry r k) (t.entry i k) r i s j =
        some (s.setEntry i j ((t.pivot r k).entry i j)) := by
    rw [clearCell?, h.entry_old i j hij, h.entry_old r j hrj, quotient?_of_ne hp,
      entry_pivot_of_ne t hne]
    rfl
  obtain ⟨s', hs', hbetween⟩ := fillRow_all hstep h hi hr
  refine ⟨_, ?_, hbetween.setValue i⟩
  rw [clearRow?, hfactor, hs']
  show (quotient? (s'.value i * t.entry r k - t.entry i k * s'.value r) (t.entry r k) >>= _) = _
  rw [hbetween.value_old i hi, hbetween.value_old r hr, quotient?_of_ne hp,
    value_pivot_of_ne t hne]
  rfl

theorem clearRows (h : t.Between r k {c | c.1 ∈ rows} rows s) (hp : t.entry r k ≠ 0)
    {l : List (Fin m)} (hl : l.Nodup) (hfree : ∀ i ∈ l, i ∉ rows ∧ i ≠ r) (hr : r ∉ rows) :
    ∃ s', l.foldlM (clearRow? (t.entry r k) r k) s = some s' ∧
      t.Between r k {c | c.1 ∈ rows ∪ {i | i ∈ l}} (rows ∪ {i | i ∈ l}) s' := by
  induction l generalizing rows s with
  | nil =>
    refine ⟨s, rfl, ?_⟩
    simpa using h
  | cons i l ih =>
    obtain ⟨hi, hl⟩ := List.nodup_cons.mp hl
    obtain ⟨⟨hfirst, hne⟩, hrest⟩ := List.forall_mem_cons.mp hfree
    obtain ⟨s', hs', hbetween⟩ := h.clearRow hp hfirst hr hne
    have hfree' : ∀ i' ∈ l, i' ∉ insert i rows ∧ i' ≠ r := by
      intro i' hi'
      have hother : i' ≠ i := fun he => hi (he ▸ hi')
      simpa [Set.mem_insert_iff, hother] using hrest i' hi'
    have hr' : r ∉ insert i rows := by simpa [Set.mem_insert_iff, hne.symm] using hr
    obtain ⟨s'', hs'', hbetween'⟩ := ih hbetween hl hfree' hr'
    refine ⟨s'', ?_, ?_⟩
    · rw [List.foldlM_cons, hs']
      exact hs''
    · have hrows : insert i rows ∪ {i' | i' ∈ l} = rows ∪ {i' | i' ∈ i :: l} := by
        ext i'
        simp only [Set.mem_union, Set.mem_insert_iff, Set.mem_ofPred_eq, List.mem_cons]
        tauto
      rwa [hrows] at hbetween'

theorem divideRow (h : t.Between r k {c | c.1 ∈ rows} rows s) (hp : t.entry r k ≠ 0)
    (hr : r ∉ rows) :
    ∃ s', divideRow? (t.entry r k) r s = some s' ∧
      t.Between r k {c | c.1 ∈ insert r rows} (insert r rows) s' := by
  have hstep {cells : Set (Fin m × Fin n)} {s : Tableau F m n} {j : Fin n}
      (h : t.Between r k cells rows s) (hrj : (r, j) ∉ cells) (_ : (r, j) ∉ cells) :
      divideCell? (t.entry r k) r s j = some (s.setEntry r j ((t.pivot r k).entry r j)) := by
    rw [divideCell?, h.entry_old r j hrj, quotient?_of_ne hp, entry_pivot_self]
    rfl
  obtain ⟨s', hs', hbetween⟩ := fillRow_all hstep h hr hr
  refine ⟨_, ?_, hbetween.setValue r⟩
  rw [divideRow?, hs']
  show (quotient? (s'.value r) (t.entry r k) >>= _) = _
  rw [hbetween.value_old r hr, quotient?_of_ne hp, value_pivot_self]
  rfl

/-- With all numbers written only the basic variable of the row is left to be exchanged. -/
theorem finish (h : t.Between r k cells rows s) (hcells : ∀ c, c ∈ cells) (hrows : ∀ i, i ∈ rows) :
    { s with basis := s.basis.set r k r.isLt } = t.pivot r k := by
  refine ext_of_entries (fun i j => h.entry_new i j (hcells _)) (fun i => h.value_new i (hrows i))
    (fun i => ?_) h.costs_eq h.epsilon_eq
  show (s.basis.set r k r.isLt)[i] = (t.pivot r k).basic i
  by_cases hi : i = r
  · simp [hi]
  · have hir : (r : Nat) ≠ i := fun he => hi (Fin.ext he.symm)
    rw [basic_pivot_of_ne t hi, h.basis_eq]
    exact Vector.getElem_set_ne _ _ hir

end Between

/-- On an entry that is not zero, overwriting the numbers one by one ends with the pivot. -/
theorem eliminate?_of_ne (t : Tableau F m n) {r : Fin m} {k : Fin n} (hp : t.entry r k ≠ 0) :
    t.eliminate? r k = some (t.pivot r k) := by
  have hl := (List.nodup_finRange m).filter (· ≠ r)
  have hstart : t.Between r k {c | c.1 ∈ (∅ : Set (Fin m))} ∅ t := by
    simpa using Between.start t r k
  obtain ⟨cleared, hcleared, hothers⟩ := hstart.clearRows hp hl
    (fun i hi => ⟨Set.notMem_empty i, by simpa using hi⟩) (Set.notMem_empty r)
  obtain ⟨divided, hdivided, hall⟩ := hothers.divideRow hp (by simp)
  have hmem (i : Fin m) : i ∈ insert r (∅ ∪ {i | i ∈ (List.finRange m).filter (· ≠ r)}) := by
    simp [em]
  rw [eliminate?, hcleared]
  show (divideRow? (t.entry r k) r cleared >>= _) = _
  rw [hdivided]
  exact congrArg some (hall.finish (fun c => hmem c.1) hmem)

theorem divideRow?_zero (r : Fin m) (t : Tableau F m n) : divideRow? 0 r t = none := by
  rw [divideRow?]
  cases (List.finRange n).foldlM (divideCell? 0 r) t with
  | none => rfl
  | some divided =>
    show (quotient? (divided.value r) 0 >>= _) = _
    rw [quotient?_zero]
    rfl

theorem eliminate?_of_eq_zero (t : Tableau F m n) {r : Fin m} {k : Fin n}
    (hp : t.entry r k = 0) : t.eliminate? r k = none := by
  rw [eliminate?, hp]
  cases ((List.finRange m).filter (· ≠ r)).foldlM (clearRow? 0 r k) t with
  | none => rfl
  | some cleared =>
    show (divideRow? 0 r cleared >>= _) = _
    rw [divideRow?_zero]
    rfl

theorem basis_pivot (t : Tableau F m n) (r : Fin m) (k : Fin n) :
    (t.pivot r k).basis = t.basis.set r k r.isLt := by
  refine Vector.ext fun i hi => ?_
  show (t.pivot r k).basic ⟨i, hi⟩ = (t.basis.set r k r.isLt)[i]
  by_cases h : r.val = i
  · subst h
    rw [basic_pivot_self, Vector.getElem_set_self]
  · rw [basic_pivot_of_ne t fun he => h (congrArg Fin.val he).symm, Vector.getElem_set_ne _ _ h]
    rfl

end Tableau

/-- **Pivoting is Gauss-Jordan elimination on the whole tableau.** On any entry that is not
zero and not too close to it the pivot succeeds, and overwriting the numbers in place ends with
the same tableau. The pivot row is divided by its entry, multiples of it are subtracted from
the other rows, and one basic variable is exchanged. The reduced costs and the objective, which
are calculated from costs and basis, change like a row of the tableau. -/
theorem Trail.pivot?_eliminates {F : Type} [Field F] [LinearOrder F] [IsStrictOrderedRing F]
    {m n : Nat} (t : Trail F m n) {r : Fin m} {k : Fin n} (hp : t.tableau.entry r k ≠ 0)
    (hε : t.tableau.epsilon ≤ |t.tableau.entry r k|) :
    ∃ next, t.pivot? r k = .ok next ∧
      t.tableau.eliminate? r k = some next.tableau ∧
      next.tableau.wholeSystem = gaussJordan t.tableau.wholeSystem r (k + 1) ∧
      (∀ j, next.tableau.entry r j = t.tableau.entry r j / t.tableau.entry r k) ∧
      next.tableau.value r = t.tableau.value r / t.tableau.entry r k ∧
      (∀ i, i ≠ r →
        (∀ j, next.tableau.entry i j =
          t.tableau.entry i j - t.tableau.entry i k * next.tableau.entry r j) ∧
        next.tableau.value i = t.tableau.value i - t.tableau.entry i k * next.tableau.value r) ∧
      next.tableau.basis = t.tableau.basis.set r k r.isLt ∧
      next.tableau.costs = t.tableau.costs ∧ next.tableau.epsilon = t.tableau.epsilon ∧
      next.recording = t.recording ∧ next.pivots = t.pivots + 1 ∧
      (∀ j, next.tableau.reducedCost j =
        t.tableau.reducedCost j - t.tableau.reducedCost k * next.tableau.entry r j) ∧
      next.tableau.objectiveValue =
        t.tableau.objectiveValue + t.tableau.reducedCost k * next.tableau.value r := by
  have hlarge : ¬ magnitude (t.tableau.entry r k) < t.tableau.epsilon := by
    rw [magnitude_eq_abs]
    exact hε.not_gt
  have hvalue : (t.tableau.pivot r k).objectiveValue = t.tableau.objectiveValue +
      t.tableau.reducedCost k * (t.tableau.pivot r k).value r := by
    rw [Tableau.objectiveValue_pivot t.tableau hp, Tableau.value_pivot_self]
  refine ⟨t.pivot r k, pivot?_of_ok (Tableau.pivotPosition?_of_not_lt hlarge),
    t.tableau.eliminate?_of_ne hp, Tableau.wholeSystem_pivot hp, t.tableau.entry_pivot_self r k,
    t.tableau.value_pivot_self r k, fun i hi => ⟨?_, ?_⟩, t.tableau.basis_pivot r k, rfl, rfl,
    rfl, rfl, Tableau.reducedCost_pivot hp, hvalue⟩
  · exact t.tableau.entry_pivot_of_ne_eq_sub hp hi
  · exact t.tableau.value_pivot_of_ne_eq_sub hp hi

/-- Two equations that are not solved for their basic variables. -/
def unsolvedTableau : Tableau ℚ 2 2 where
  coefficients := #v[#v[1, -2], #v[3, 4]]
  values := #v[5, 6]
  costs := #v[1, 2]
  basis := #v[0, 1]
  epsilon := 1 / 10

/-- The pivot element is negative, and afterwards both rows have the same basic variable. -/
theorem unsolvedTableau_eliminates :
    ∃ next, (Trail.start unsolvedTableau).pivot? 0 1 = .ok next ∧
      unsolvedTableau.entry 0 1 ≠ 0 ∧ unsolvedTableau.epsilon ≤ |unsolvedTableau.entry 0 1| ∧
      unsolvedTableau.eliminate? 0 1 = some next.tableau ∧
      next.tableau.wholeSystem = [[-5 / 2, -1 / 2, 1], [16, 5, 0], [-27, -8, 0]] ∧
      next.tableau.basis = #v[1, 1] ∧ next.tableau.objectiveValue = 27 := by
  have hp : unsolvedTableau.entry 0 1 ≠ 0 := by decide +kernel
  have hε : unsolvedTableau.epsilon ≤ |unsolvedTableau.entry 0 1| := by decide +kernel
  obtain ⟨next, hnext, heliminate, hwhole, -, hrow, -, hbasis, -, -, -, -, -, hvalue⟩ :=
    (Trail.start unsolvedTableau).pivot?_eliminates hp hε
  refine ⟨next, hnext, hp, hε, heliminate, ?_, ?_, ?_⟩
  · rw [hwhole]
    decide +kernel
  · rw [hbasis]
    decide +kernel
  · rw [hvalue, hrow]
    decide +kernel

end LinearProgramming
