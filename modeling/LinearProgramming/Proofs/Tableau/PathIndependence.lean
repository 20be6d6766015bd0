import LinearProgramming.Proofs.Tableau.Attempts
import LinearProgramming.Proofs.Tableau.BasisSet
import LinearProgramming.Proofs.Tableau.Ray

/-!
# Pivots do not remember their path

The equations of a canonical tableau are solved for its basic variables, so the solutions
and the set of basic variables determine the rows: along the ray of a column the row of a
basic variable says how much that variable moves. Any two paths of pivots from one canonical
tableau that make the same variables basic therefore end in the same rows, in some order,
and whatever is calculated from the rows is the same at both ends.
-/

namespace LinearProgramming

namespace Tableau

section Rows

variable {F : Type} {m n : Nat}

/-- The same tableau with its rows in another order. -/
def permuteRows (t : Tableau F m n) (σ : Equiv.Perm (Fin m)) : Tableau F m n :=
  { t with
    coefficients := Vector.ofFn fun i => t.coefficients[σ i]
    values := Vector.ofFn fun i => t.value (σ i)
    basis := Vector.ofFn fun i => t.basic (σ i) }

variable (t : Tableau F m n) (σ : Equiv.Perm (Fin m))

@[simp] theorem entry_permuteRows (i : Fin m) (j : Fin n) :
    (t.permuteRows σ).entry i j = t.entry (σ i) j := by
  simp [permuteRows, entry]

@[simp] theorem value_permuteRows (i : Fin m) : (t.permuteRows σ).value i = t.value (σ i) := by
  simp [permuteRows, value]

@[simp] theorem basic_permuteRows (i : Fin m) : (t.permuteRows σ).basic i = t.basic (σ i) := by
  simp [permuteRows, basic]

@[simp] theorem basicCost_permuteRows (i : Fin m) :
    (t.permuteRows σ).basicCost i = t.basicCost (σ i) := by
  rw [basicCost, basic_permuteRows]
  rfl

end Rows

variable {F : Type} [Field F] [LinearOrder F] {m n : Nat}

/-- The order of the rows does not matter to what is calculated from all of them. -/
theorem reducedCost_permuteRows (t : Tableau F m n) (σ : Equiv.Perm (Fin m)) (j : Fin n) :
    (t.permuteRows σ).reducedCost j = t.reducedCost j := by
  rw [reducedCost_eq, reducedCost_eq, ← Equiv.sum_comp σ fun i => t.basicCost i * t.entry i j]
  simp only [basicCost_permuteRows, entry_permuteRows]
  rfl

theorem objectiveValue_permuteRows (t : Tableau F m n) (σ : Equiv.Perm (Fin m)) :
    (t.permuteRows σ).objectiveValue = t.objectiveValue := by
  rw [objectiveValue_eq, objectiveValue_eq,
    ← Equiv.sum_comp σ fun i => t.basicCost i * t.value i]
  simp only [basicCost_permuteRows, value_permuteRows]

theorem isOptimal_permuteRows (t : Tableau F m n) (σ : Equiv.Perm (Fin m)) :
    (t.permuteRows σ).IsOptimal ↔ t.IsOptimal := by
  unfold IsOptimal
  simp only [reducedCost_permuteRows]
  rfl

theorem largestColumn_permuteRows (t : Tableau F m n) (σ : Equiv.Perm (Fin m)) :
    (t.permuteRows σ).largestColumn = t.largestColumn := by
  unfold largestColumn profitable
  simp only [reducedCost_permuteRows]
  rfl

section Unique

variable {t t' : Tableau F m n} (hc : t.IsExactlyCanonical) (hc' : t'.IsExactlyCanonical)
  (hd : t'.DerivesFrom t)

include hc hd in
/-- An equation with the same solutions does not change along the rays of a tableau. -/
theorem sum_entry_mul_ray_eq_zero (i : Fin m) (k : Fin n) :
    ∑ j, t'.entry i j * t.ray k j = 0 := by
  have hx := (hd.solves_iff _).mpr (solves_solutionAt hc) i
  have hmoved := (hd.solves_iff _).mpr (solves_add_ray hc (solves_solutionAt hc) k 1) i
  simp only [one_mul, mul_add, Finset.sum_add_distrib] at hmoved
  linear_combination hmoved - hx

variable (h : t'.basisSet = t.basisSet)

omit [LinearOrder F] in
include hc hc' h in
/-- The columns that are basic in one tableau are the unit columns of the other. -/
theorem entry_basic_of_basisSet_eq {i i' : Fin m} (hi : t'.basic i' = t.basic i) (l : Fin m) :
    t'.entry i' (t.basic l) = if l = i then 1 else 0 := by
  have hmem : t.basic l ∈ t'.basisSet := h ▸ t.basic_mem_basisSet l
  obtain ⟨l', hl'⟩ := mem_basisSet.mp hmem
  rw [← hl', hc' l' i']
  congr 1
  rw [eq_iff_iff]
  constructor
  · rintro rfl
    exact basic_injective hc (hl'.symm.trans hi)
  · rintro rfl
    exact basic_injective hc' (hi.trans hl'.symm)

include hc hc' hd h

/-- The row of a basic variable is determined by the solutions and the set of basic
variables, wherever it stands. -/
theorem entry_eq_of_basic_eq {i i' : Fin m} (hi : t'.basic i' = t.basic i) (k : Fin n) :
    t'.entry i' k = t.entry i k := by
  have hray := sum_entry_mul_ray_eq_zero hc hd i' k
  rw [sum_mul_ray, sub_eq_zero] at hray
  rw [hray]
  simp [entry_basic_of_basisSet_eq hc hc' h hi]

theorem value_eq_of_basic_eq {i i' : Fin m} (hi : t'.basic i' = t.basic i) :
    t'.value i' = t.value i := by
  rw [← solutionAt_basic (basic_injective hc'), ← solutionAt_basic (basic_injective hc),
    solutionAt_eq_of_basisSet_eq hc hc' hd h, hi]

theorem exists_eq_permuteRows : ∃ σ : Equiv.Perm (Fin m), t' = t.permuteRows σ := by
  have hrow (i' : Fin m) : ∃ i, t'.basic i' = t.basic i := by
    have hmem : t'.basic i' ∈ t.basisSet := h ▸ t'.basic_mem_basisSet i'
    obtain ⟨i, hi⟩ := mem_basisSet.mp hmem
    exact ⟨i, hi.symm⟩
  choose f hf using hrow
  have hinjective : Function.Injective f := by
    intro i l hil
    apply basic_injective hc'
    rw [hf i, hf l, hil]
  let σ : Equiv.Perm (Fin m) := Equiv.ofBijective f (Finite.injective_iff_bijective.mp hinjective)
  refine ⟨σ, ext_of_entries (fun i j => ?_) (fun i => ?_) (fun i => ?_) hd.costs_eq hd.epsilon_eq⟩
  · rw [entry_permuteRows]
    exact entry_eq_of_basic_eq hc hc' hd h (hf i) j
  · rw [value_permuteRows]
    exact value_eq_of_basic_eq hc hc' hd h (hf i)
  · rw [basic_permuteRows]
    exact hf i

theorem solution_eq_of_basisSet_eq : t'.solution = t.solution := by
  refine Vector.ext fun j hj => ?_
  exact congrFun (solutionAt_eq_of_basisSet_eq hc hc' hd h) ⟨j, hj⟩

omit h in
/-- With the same basic variable in every row two tableaux are the same. -/
theorem eq_of_basic_eq (hbasic : ∀ i, t'.basic i = t.basic i) : t' = t := by
  have hset : t'.basisSet = t.basisSet := by
    unfold basisSet
    rw [funext hbasic]
  exact ext_of_entries (fun i j => entry_eq_of_basic_eq hc hc' hd hset (hbasic i) j)
    (fun i => value_eq_of_basic_eq hc hc' hd hset (hbasic i)) hbasic hd.costs_eq hd.epsilon_eq

end Unique

end Tableau

namespace Trail

/-- The trail after pivots at these positions, one after the other, if all of them can be
made. -/
def pivots? {F : Type} [Scalar F] {m n : Nat} (t : Trail F m n) :
    List (Nat × Nat) → Except Failure (Trail F m n)
  | [] => .ok t
  | position :: rest =>
    match t.pivot? position.1 position.2 with
    | .error failure => .error failure
    | .ok next => next.pivots? rest

theorem attempts_of_pivots? {F : Type} [Scalar F] {m n : Nat} {t last : Trail F m n}
    {positions : List (Nat × Nat)} (h : t.pivots? positions = .ok last) :
    t.attempts positions = last := by
  induction positions generalizing t with
  | nil =>
    cases h
    rfl
  | cons position rest ih =>
    unfold pivots? at h
    split at h
    case h_1 => cases h
    case h_2 next hnext =>
      rw [attempts_cons, attempt_of_ok hnext]
      exact ih h

variable {F : Type} [Field F] [LinearOrder F] [IsStrictOrderedRing F] {m n : Nat}

theorem derivesFrom_of_pivots? {t last : Trail F m n} (hε : 0 < t.tableau.epsilon)
    {positions : List (Nat × Nat)} (h : t.pivots? positions = .ok last) :
    last.tableau.DerivesFrom t.tableau := by
  rw [← attempts_of_pivots? h]
  exact t.derivesFrom_attempts hε positions

/-- Going back to the variable that left a row makes every row what it was. -/
theorem tableau_eq_of_pivot?_back {t next back : Trail F m n} (hε : 0 < t.tableau.epsilon)
    (hc : t.tableau.IsExactlyCanonical) {r : Fin m} {column : Nat}
    (hnext : t.pivot? r column = .ok next)
    (hback : next.pivot? r (t.tableau.basic r) = .ok back) : back.tableau = t.tableau := by
  have hboth : t.pivots? [(r.val, column), (r.val, (t.tableau.basic r).val)] = .ok back := by
    simp only [pivots?, hnext, hback]
  have hd := derivesFrom_of_pivots? hε hboth
  obtain ⟨found, hfound, rfl⟩ := pivot?_eq_ok hnext
  obtain ⟨found', hfound', rfl⟩ := pivot?_eq_ok hback
  obtain rfl : found.1 = r := Fin.ext (Tableau.pivotPosition?_eq_ok hfound).1
  have hrow : found'.1 = found.1 := Fin.ext (Tableau.pivotPosition?_eq_ok hfound').1
  have hcolumn : found'.2 = t.tableau.basic found.1 :=
    Fin.ext (Tableau.pivotPosition?_eq_ok hfound').2.1
  refine Tableau.eq_of_basic_eq hc (hd.isExactlyCanonical hc) hd fun i => ?_
  show ((t.tableau.pivot found.1 found.2).pivot found'.1 found'.2).basic i = t.tableau.basic i
  rw [hrow, hcolumn]
  by_cases hi : i = found.1
  · rw [hi, Tableau.basic_pivot_self]
  · rw [Tableau.basic_pivot_of_ne _ hi, Tableau.basic_pivot_of_ne _ hi]

/-- **Pivots do not remember their path.** From a canonical tableau two sequences of pivots,
of any lengths and at any rows and columns, may end with the same set of basic variables. Then
one tableau is the other with its rows in another order, and the reduced costs, the objective,
the solution, whether it is optimal and the column that enters next are the same. If the same
variable is basic in every row, the tableaux are the same; so a pivot is undone by a pivot in
its row on the variable that was basic there. -/
theorem pivots_path_independent (first : Trail F m n) (hε : 0 < first.tableau.epsilon)
    (hc : first.tableau.IsExactlyCanonical) {positions positions' : List (Nat × Nat)}
    {a b : Trail F m n} (ha : first.pivots? positions = .ok a)
    (hb : first.pivots? positions' = .ok b) :
    (b.tableau.basisSet = a.tableau.basisSet →
      (∃ σ : Equiv.Perm (Fin m), b.tableau = a.tableau.permuteRows σ) ∧
      (∀ j, b.tableau.reducedCost j = a.tableau.reducedCost j) ∧
      b.tableau.objectiveValue = a.tableau.objectiveValue ∧
      b.tableau.solution = a.tableau.solution ∧
      (b.tableau.IsOptimal ↔ a.tableau.IsOptimal) ∧
      b.tableau.largestColumn = a.tableau.largestColumn) ∧
    (b.tableau.basis = a.tableau.basis → b.tableau = a.tableau) ∧
    ∀ (r : Fin m) (column : Nat) (next back : Trail F m n),
      a.pivot? r column = .ok next → next.pivot? r (a.tableau.basic r) = .ok back →
      back.tableau = a.tableau := by
  have hda := derivesFrom_of_pivots? hε ha
  have hdb := derivesFrom_of_pivots? hε hb
  have hca := hda.isExactlyCanonical hc
  have hcb := hdb.isExactlyCanonical hc
  have hd : b.tableau.DerivesFrom a.tableau := hdb.of_common hda hcb
  refine ⟨fun hset => ?_, fun hbasis => ?_, fun r column next back hnext hback => ?_⟩
  · obtain ⟨σ, hσ⟩ := Tableau.exists_eq_permuteRows hca hcb hd hset
    have hsolution := Tableau.solution_eq_of_basisSet_eq hca hcb hd hset
    rw [hσ] at hsolution ⊢
    exact ⟨⟨σ, rfl⟩, a.tableau.reducedCost_permuteRows σ, a.tableau.objectiveValue_permuteRows σ,
      hsolution, a.tableau.isOptimal_permuteRows σ, a.tableau.largestColumn_permuteRows σ⟩
  · refine Tableau.eq_of_basic_eq hca hcb hd fun i => ?_
    unfold Tableau.basic
    rw [hbasis]
  · exact tableau_eq_of_pivot?_back (hda.epsilon_eq ▸ hε) hca hnext hback

end Trail

/-- The second path makes the other product basic in the first row, and on its way takes the
slack of that row back once. -/
theorem pivots_path_independent_twoProducts :
    0 < (1 / 10 : ℚ) ∧
      ∃ first a b, twoProducts.standardForm.trail? twoSlacks (1 / 10) = .ok first ∧
        first.tableau.IsExactlyCanonical ∧ first.pivots? [(0, 0), (1, 1)] = .ok a ∧
        first.pivots? [(0, 1), (0, 2), (1, 0), (0, 1)] = .ok b ∧
        b.tableau.basisSet = a.tableau.basisSet ∧ b.tableau.basis ≠ a.tableau.basis ∧
        (∃ σ : Equiv.Perm (Fin 2), b.tableau = a.tableau.permuteRows σ) ∧
        b.tableau.solution = a.tableau.solution := by
  have hε : (0 : ℚ) < 1 / 10 := by norm_num
  have hshown : (twoProducts.standardForm.trail? twoSlacks (1 / 10)).map (fun first =>
      (first.pivots? [(0, 0), (1, 1)]).map fun a =>
        (first.pivots? [(0, 1), (0, 2), (1, 0), (0, 1)]).map fun b =>
          decide (first.tableau.epsilon = 1 / 10 ∧ first.tableau.IsCanonicalWithin 0 ∧
            b.tableau.basisSet = a.tableau.basisSet ∧ b.tableau.basis ≠ a.tableau.basis)) =
      .ok (.ok (.ok true)) := by
    decide +kernel
  obtain ⟨first, hfirst, hshown⟩ := exists_of_map_eq_ok hshown
  obtain ⟨a, ha, hshown⟩ := exists_of_map_eq_ok hshown
  obtain ⟨b, hb, hshown⟩ := exists_of_map_eq_ok hshown
  obtain ⟨hepsilon, hwithin, hset, hbasis⟩ := of_decide_eq_true hshown
  have hc := (Tableau.isExactlyCanonical_iff first.tableau).mpr hwithin
  obtain ⟨hrows, -⟩ := Trail.pivots_path_independent first (hepsilon ▸ hε) hc ha hb
  obtain ⟨hσ, -, -, hsolution, -⟩ := hrows hset
  exact ⟨hε, first, a, b, hfirst, hc, ha, hb, hset, hbasis, hσ, hsolution⟩

end LinearProgramming
