import LinearProgramming.Proofs.Tableau.Solutions

/-!
# Canonical tableaux

In a canonical tableau the column of each basic variable is a unit vector, exactly and
not only within a tolerance. The values of such a tableau are the one solution that is
zero outside the basis, and the objective is what this solution costs. A pivot makes
the column of its row a unit vector and keeps those of the other rows.
-/

namespace LinearProgramming.Tableau

variable {F : Type} {m n : Nat}

/-- The entries of a point after the values of some rows are written into it, in order. -/
def assign (t : Tableau F m n) (rows : List (Fin m)) (x : Vector F n) : Vector F n :=
  rows.foldl (fun x i => let j := t.basic i; x.set j (t.value i) j.isLt) x

theorem assign_cons (t : Tableau F m n) (a : Fin m) (rows : List (Fin m)) (x : Vector F n) :
    t.assign (a :: rows) x =
      t.assign rows (x.set (t.basic a) (t.value a) (t.basic a).isLt) := rfl

theorem get_assign_of_off (t : Tableau F m n) {rows : List (Fin m)} {j : Fin n}
    (h : ∀ i ∈ rows, t.basic i ≠ j) (x : Vector F n) : (t.assign rows x).get j = x.get j := by
  induction rows generalizing x with
  | nil => rfl
  | cons a rows ih =>
    have hrest : ∀ i ∈ rows, t.basic i ≠ j := fun i hi => h i (List.mem_cons_of_mem a hi)
    have hne : (t.basic a : Nat) ≠ j := fun he => h a List.mem_cons_self (Fin.ext he)
    rw [assign_cons, ih hrest]
    exact Vector.getElem_set_ne _ _ hne

theorem get_assign_basic {t : Tableau F m n} (hinj : Function.Injective t.basic)
    {rows : List (Fin m)} {i : Fin m} (hi : i ∈ rows) (x : Vector F n) :
    (t.assign rows x).get (t.basic i) = t.value i := by
  induction rows generalizing x with
  | nil => simp at hi
  | cons a rows ih =>
    rw [assign_cons]
    by_cases hmem : i ∈ rows
    · exact ih hmem _
    · obtain rfl : i = a := (List.mem_cons.mp hi).resolve_right hmem
      have hoff : ∀ i' ∈ rows, t.basic i' ≠ t.basic i := fun i' hi' he => by
        obtain rfl := hinj he
        exact hmem hi'
      rw [get_assign_of_off t hoff]
      exact Vector.getElem_set_self _

variable [Field F]

/-- Whether the basic variable of a row occurs in that row alone, with coefficient one. -/
def IsUnitColumn (t : Tableau F m n) (i : Fin m) : Prop :=
  ∀ r, t.entry r (t.basic i) = if r = i then 1 else 0

/-- Whether all basic columns are unit vectors. -/
def IsExactlyCanonical (t : Tableau F m n) : Prop := ∀ i, t.IsUnitColumn i

/-- Whether a point is zero outside the basis. -/
def VanishesOffBasis (t : Tableau F m n) (x : Fin n → F) : Prop :=
  ∀ j, (∀ i, t.basic i ≠ j) → x j = 0

theorem basic_injective {t : Tableau F m n} (h : t.IsExactlyCanonical) :
    Function.Injective t.basic := by
  intro i i' he
  have h1 : t.entry i (t.basic i) = 1 := by rw [h i i, if_pos rfl]
  by_contra hne
  rw [he, h i' i, if_neg hne] at h1
  exact zero_ne_one h1

theorem sum_of_vanishesOffBasis {t : Tableau F m n} (hinj : Function.Injective t.basic)
    {x : Fin n → F} (hx : t.VanishesOffBasis x) (f : Fin n → F) :
    ∑ j, f j * x j = ∑ i, f (t.basic i) * x (t.basic i) := by
  rw [← Finset.sum_image (f := fun j => f j * x j) fun i _ i' _ he => hinj he]
  refine (Finset.sum_subset (Finset.subset_univ _) ?_).symm
  intro j _ hj
  have hoff : ∀ i, t.basic i ≠ j := by simpa using hj
  rw [hx j hoff, mul_zero]

/-- In a canonical tableau the row of a basic variable gives its value at any solution
that is zero outside the basis. -/
theorem value_of_solves {t : Tableau F m n} (h : t.IsExactlyCanonical) {x : Fin n → F}
    (hs : t.Solves x) (hx : t.VanishesOffBasis x) (i : Fin m) : x (t.basic i) = t.value i := by
  have hrow := hs i
  rw [sum_of_vanishesOffBasis (basic_injective h) hx] at hrow
  simpa [h _ i] using hrow

theorem eq_of_vanishesOffBasis {t : Tableau F m n} (h : t.IsExactlyCanonical)
    {x y : Fin n → F} (hs : t.Solves x) (hx : t.VanishesOffBasis x)
    (hs' : t.Solves y) (hy : t.VanishesOffBasis y) : x = y := by
  funext j
  by_cases hj : ∃ i, t.basic i = j
  · obtain ⟨i, rfl⟩ := hj
    rw [value_of_solves h hs hx, value_of_solves h hs' hy]
  · have hoff : ∀ i, t.basic i ≠ j := fun i he => hj ⟨i, he⟩
    rw [hx j hoff, hy j hoff]

variable [LinearOrder F]

/-- Being canonical is the check of the tableau without any tolerance. -/
theorem isExactlyCanonical_iff [IsStrictOrderedRing F] (t : Tableau F m n) :
    t.IsExactlyCanonical ↔ t.IsCanonicalWithin 0 := by
  have hzero (x : F) : magnitude x ≤ 0 ↔ x = 0 := by
    rw [magnitude_eq_abs]
    exact abs_nonpos_iff
  unfold IsExactlyCanonical IsUnitColumn IsCanonicalWithin
  refine forall_congr' fun row => forall_congr' fun i => ?_
  exact sub_eq_zero.symm.trans (hzero _).symm

theorem solution_eq_assign (t : Tableau F m n) :
    t.solution = t.assign (List.finRange m) (Vector.replicate n 0) := by
  rw [solution, Fin.foldl_eq_finRange_foldl]
  rfl

/-- The value of every variable at the solution of the tableau. -/
def solutionAt (t : Tableau F m n) (j : Fin n) : F := t.solution.get j

theorem toList_solution (t : Tableau F m n) : t.solution.toList = List.ofFn t.solutionAt := by
  refine List.ext_getElem (by simp) fun j _ _ => ?_
  rw [Vector.getElem_toList, List.getElem_ofFn]
  rfl

theorem vanishesOffBasis_solutionAt (t : Tableau F m n) : t.VanishesOffBasis t.solutionAt := by
  intro j hj
  unfold solutionAt
  rw [solution_eq_assign, get_assign_of_off t fun i _ => hj i]
  exact Vector.getElem_replicate _

theorem solutionAt_basic {t : Tableau F m n} (hinj : Function.Injective t.basic) (i : Fin m) :
    t.solutionAt (t.basic i) = t.value i := by
  unfold solutionAt
  rw [solution_eq_assign, get_assign_basic hinj (List.mem_finRange i)]

theorem solves_solutionAt {t : Tableau F m n} (h : t.IsExactlyCanonical) :
    t.Solves t.solutionAt := by
  intro i
  rw [sum_of_vanishesOffBasis (basic_injective h) t.vanishesOffBasis_solutionAt]
  simp [h _ i, solutionAt_basic (basic_injective h)]

theorem eq_solutionAt {t : Tableau F m n} (h : t.IsExactlyCanonical) {x : Fin n → F}
    (hs : t.Solves x) (hx : t.VanishesOffBasis x) : x = t.solutionAt :=
  eq_of_vanishesOffBasis h hs hx (solves_solutionAt h) t.vanishesOffBasis_solutionAt

theorem reducedCost_basic {t : Tableau F m n} (h : t.IsExactlyCanonical) (i : Fin m) :
    t.reducedCost (t.basic i) = 0 := by
  rw [reducedCost_eq]
  simp [h i _, basicCost]

/-- The objective is what the solution costs. For this the basic variables only have to
be distinct. -/
theorem objectiveValue_eq_sum_cost {t : Tableau F m n} (hinj : Function.Injective t.basic) :
    t.objectiveValue = ∑ j, t.cost j * t.solutionAt j := by
  rw [sum_of_vanishesOffBasis hinj t.vanishesOffBasis_solutionAt, objectiveValue_eq]
  refine Finset.sum_congr rfl fun i _ => ?_
  rw [solutionAt_basic hinj, basicCost]

theorem isUnitColumn_pivot_self (t : Tableau F m n) {r : Fin m} {k : Fin n}
    (hp : t.entry r k ≠ 0) : (t.pivot r k).IsUnitColumn r := by
  intro i
  rw [basic_pivot_self]
  by_cases hi : i = r
  · rw [hi, if_pos rfl, entry_pivot_self, div_self hp]
  · rw [if_neg hi, entry_pivot_of_ne_eq_sub t hp hi, entry_pivot_self, div_self hp, mul_one,
      sub_self]

theorem IsUnitColumn.pivot {t : Tableau F m n} {i r : Fin m} (h : t.IsUnitColumn i)
    {k : Fin n} (hp : t.entry r k ≠ 0) (hne : i ≠ r) : (t.pivot r k).IsUnitColumn i := by
  have hr : (t.pivot r k).entry r (t.basic i) = 0 := by
    rw [entry_pivot_self, h r, if_neg (Ne.symm hne), zero_div]
  intro i'
  rw [basic_pivot_of_ne t hne]
  by_cases hi' : i' = r
  · rw [hi', hr, if_neg (Ne.symm hne)]
  · rw [entry_pivot_of_ne_eq_sub t hp hi', hr, mul_zero, sub_zero, h i']

theorem IsExactlyCanonical.pivot {t : Tableau F m n} (h : t.IsExactlyCanonical) {r : Fin m}
    {k : Fin n} (hp : t.entry r k ≠ 0) : (t.pivot r k).IsExactlyCanonical := by
  intro i
  by_cases hi : i = r
  · rw [hi]
    exact isUnitColumn_pivot_self t hp
  · exact (h i).pivot hp hi

end LinearProgramming.Tableau
