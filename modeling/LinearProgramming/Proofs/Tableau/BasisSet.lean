import LinearProgramming.Proofs.Tableau.Derivation

/-!
# Sets of basic variables

Which row a variable is basic in does not matter to the solution: two canonical tableaux
with the same solutions and the same set of basic variables have the same solution and
objective. A pivot puts one variable into the set and takes one out.
-/

namespace LinearProgramming.Tableau

variable {F : Type} {m n : Nat}

/-- The variables that are basic in some row. -/
def basisSet (t : Tableau F m n) : Finset (Fin n) := Finset.univ.image t.basic

@[simp] theorem mem_basisSet {t : Tableau F m n} {j : Fin n} :
    j ∈ t.basisSet ↔ ∃ i, t.basic i = j := by
  simp [basisSet]

theorem basic_mem_basisSet (t : Tableau F m n) (i : Fin m) : t.basic i ∈ t.basisSet :=
  mem_basisSet.mpr ⟨i, rfl⟩

variable [Field F]

theorem card_basisSet {t : Tableau F m n} (h : t.IsExactlyCanonical) : t.basisSet.card = m := by
  unfold basisSet
  rw [Finset.card_image_of_injective _ (basic_injective h), Finset.card_univ, Fintype.card_fin]

theorem vanishesOffBasis_congr {t t' : Tableau F m n} (h : t'.basisSet = t.basisSet)
    {x : Fin n → F} (hx : t'.VanishesOffBasis x) : t.VanishesOffBasis x := by
  intro j hj
  refine hx j (not_exists.mp fun hmem => ?_)
  rw [← mem_basisSet, h, mem_basisSet] at hmem
  exact not_exists.mpr hj hmem

variable [LinearOrder F]

theorem solutionAt_of_notMem {t : Tableau F m n} {j : Fin n} (h : j ∉ t.basisSet) :
    t.solutionAt j = 0 :=
  t.vanishesOffBasis_solutionAt j (not_exists.mp (mt mem_basisSet.mpr h))

/-- The set of basic variables determines the solution. -/
theorem solutionAt_eq_of_basisSet_eq {t t' : Tableau F m n} (hc : t.IsExactlyCanonical)
    (hc' : t'.IsExactlyCanonical) (hd : t'.DerivesFrom t) (h : t'.basisSet = t.basisSet) :
    t'.solutionAt = t.solutionAt :=
  eq_solutionAt hc ((hd.solves_iff _).mp (solves_solutionAt hc'))
    (vanishesOffBasis_congr h t'.vanishesOffBasis_solutionAt)

theorem objectiveValue_eq_of_basisSet_eq {t t' : Tableau F m n} (hc : t.IsExactlyCanonical)
    (hc' : t'.IsExactlyCanonical) (hd : t'.DerivesFrom t) (h : t'.basisSet = t.basisSet) :
    t'.objectiveValue = t.objectiveValue := by
  rw [objectiveValue_eq_sum_cost (basic_injective hc'),
    objectiveValue_eq_sum_cost (basic_injective hc), solutionAt_eq_of_basisSet_eq hc hc' hd h]
  exact Finset.sum_congr rfl fun j _ => by rw [hd.cost_eq]

theorem notMem_basisSet_of_profitable {t : Tableau F m n} (hc : t.IsExactlyCanonical)
    {j : Fin n} (h : t.reducedCost j ≠ 0) : j ∉ t.basisSet := by
  rw [mem_basisSet]
  rintro ⟨i, rfl⟩
  exact h (reducedCost_basic hc i)

theorem entering_mem_basisSet_pivot (t : Tableau F m n) (r : Fin m) (k : Fin n) :
    k ∈ (t.pivot r k).basisSet := mem_basisSet.mpr ⟨r, basic_pivot_self t r k⟩

theorem eq_of_mem_basisSet_pivot {t : Tableau F m n} {r : Fin m} {k j : Fin n}
    (hj : j ∈ (t.pivot r k).basisSet) (hout : j ∉ t.basisSet) : j = k := by
  obtain ⟨i, rfl⟩ := mem_basisSet.mp hj
  by_cases hi : i = r
  · rw [hi, basic_pivot_self]
  · rw [basic_pivot_of_ne t hi] at hout
    exact absurd (t.basic_mem_basisSet i) hout

theorem basic_eq_of_notMem_basisSet_pivot {t : Tableau F m n} {r : Fin m} {k j : Fin n}
    (hj : j ∈ t.basisSet) (hout : j ∉ (t.pivot r k).basisSet) : t.basic r = j := by
  obtain ⟨i, rfl⟩ := mem_basisSet.mp hj
  by_cases hi : i = r
  · rw [hi]
  · rw [← basic_pivot_of_ne t hi k] at hout
    exact absurd ((t.pivot r k).basic_mem_basisSet i) hout

end LinearProgramming.Tableau
