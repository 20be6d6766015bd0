import LinearProgramming.Tableau.Basic

/-!
# Pivoting

A pivot on a row and a column solves the row for the variable of the column and
eliminates that variable from all other rows. The new entries are calculated as
`(a * p - factor * b) / p`, with one division for every entry, where `p` is the pivot
element.
-/

namespace LinearProgramming.Tableau

variable {F : Type} [Scalar F] {m n : Nat}

/-- The tableau after solving row `r` for variable `k`. -/
def pivot (t : Tableau F m n) (r : Fin m) (k : Fin n) : Tableau F m n :=
  let p := t.entry r k
  { t with
    coefficients := Vector.ofFn fun i =>
      if i = r then Vector.ofFn fun j => t.entry r j / p
      else
        let factor := t.entry i k
        Vector.ofFn fun j => (t.entry i j * p - factor * t.entry r j) / p
    values := Vector.ofFn fun i =>
      if i = r then t.value r / p
      else (t.value i * p - t.entry i k * t.value r) / p
    basis := Vector.ofFn fun i => if i = r then k else t.basic i }

/-- The row and column with these numbers, if they exist and the entry there is not too
close to zero for a pivot. -/
def pivotPosition? (t : Tableau F m n) (row column : Nat) : Except Failure (Fin m × Fin n) :=
  if hr : row < m then
    if hc : column < n then
      if magnitude (t.entry ⟨row, hr⟩ ⟨column, hc⟩) < t.epsilon then
        .error (.invalidPivot row column)
      else .ok (⟨row, hr⟩, ⟨column, hc⟩)
    else .error (.invalidPivot row column)
  else .error (.invalidPivot row column)

theorem entry_pivot_self (t : Tableau F m n) (r : Fin m) (k j : Fin n) :
    (t.pivot r k).entry r j = t.entry r j / t.entry r k := by
  simp [pivot, entry]

theorem entry_pivot_of_ne (t : Tableau F m n) {r i : Fin m} (h : i ≠ r) (k j : Fin n) :
    (t.pivot r k).entry i j =
      (t.entry i j * t.entry r k - t.entry i k * t.entry r j) / t.entry r k := by
  simp [pivot, entry, h]

theorem value_pivot_self (t : Tableau F m n) (r : Fin m) (k : Fin n) :
    (t.pivot r k).value r = t.value r / t.entry r k := by
  simp [pivot, value]

theorem value_pivot_of_ne (t : Tableau F m n) {r i : Fin m} (h : i ≠ r) (k : Fin n) :
    (t.pivot r k).value i =
      (t.value i * t.entry r k - t.entry i k * t.value r) / t.entry r k := by
  simp [pivot, value, h]

@[simp] theorem cost_pivot (t : Tableau F m n) (r : Fin m) (k j : Fin n) :
    (t.pivot r k).cost j = t.cost j := rfl

@[simp] theorem basic_pivot_self (t : Tableau F m n) (r : Fin m) (k : Fin n) :
    (t.pivot r k).basic r = k := by
  simp [pivot, basic]

theorem basic_pivot_of_ne (t : Tableau F m n) {r i : Fin m} (h : i ≠ r) (k : Fin n) :
    (t.pivot r k).basic i = t.basic i := by
  simp [pivot, basic, h]

end LinearProgramming.Tableau
