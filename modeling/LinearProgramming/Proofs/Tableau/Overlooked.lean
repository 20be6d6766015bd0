import LinearProgramming.Proofs.Problem.Slacks
import LinearProgramming.Proofs.Tableau.Verdict

/-!
# Rows that are overlooked

With a tolerance the search for a row passes over entries that are positive but count as zero.
Such a row does limit the column. A pivot lets its value fall by the tolerance, at most, for each
unit that the entering variable is raised, so values below zero come about, but only slowly. If
a column is called unbounded, the variable of an overlooked row falls along its ray in the same
way, and only then does the ray leave the problem.
-/

namespace LinearProgramming

namespace Tableau

/-- Whether a row is overlooked in a column: its entry there is positive, so that it limits
the column, but counts as zero. -/
def Overlooks {F : Type} [Scalar F] {m n : Nat} (t : Tableau F m n) (i : Fin m) (k : Fin n) :
    Prop := 0 < t.entry i k ∧ t.entry i k ≤ t.epsilon

instance {F : Type} [Scalar F] {m n : Nat} (t : Tableau F m n) (i : Fin m) (k : Fin n) :
    Decidable (t.Overlooks i k) := by
  unfold Overlooks
  infer_instance

variable {F : Type} [Field F] [LinearOrder F] {m n : Nat} {t : Tableau F m n}

/-- Along the ray of a column that is not basic each basic variable falls by the entry of its
row. -/
theorem ray_basic (hc : t.IsExactlyCanonical) {k : Fin n} (hk : t.reducedCost k ≠ 0)
    (i : Fin m) : t.ray k (t.basic i) = -t.entry i k := by
  have hne : t.basic i ≠ k := by
    rintro rfl
    exact hk (reducedCost_basic hc i)
  unfold ray
  simp [hne, (basic_injective hc).eq_iff]

variable [IsStrictOrderedRing F]

theorem forall_neg_le_solutionAt_iff (hc : t.IsExactlyCanonical) {tolerance : F}
    (ht : 0 ≤ tolerance) :
    (∀ j, -tolerance ≤ t.solutionAt j) ↔ ∀ i, -tolerance ≤ t.value i := by
  constructor
  · intro h i
    rw [← solutionAt_basic (basic_injective hc)]
    exact h (t.basic i)
  · intro h j
    by_cases hj : ∃ i, t.basic i = j
    · obtain ⟨i, rfl⟩ := hj
      rw [solutionAt_basic (basic_injective hc)]
      exact h i
    · rw [t.vanishesOffBasis_solutionAt j (not_exists.mp hj)]
      exact neg_nonpos.mpr ht

/-- Where no entry of a column exceeds a bound, no variable falls faster along its ray. -/
theorem neg_le_ray (hc : t.IsExactlyCanonical) {bound : F} (hbound : 0 ≤ bound) {k : Fin n}
    (hk : t.reducedCost k ≠ 0) (h : ∀ i, t.entry i k ≤ bound) (j : Fin n) :
    -bound ≤ t.ray k j := by
  by_cases hj : ∃ i, t.basic i = j
  · obtain ⟨i, rfl⟩ := hj
    rw [ray_basic hc hk]
    exact neg_le_neg (h i)
  · have hoff : ∀ i, t.basic i ≠ j := not_exists.mp hj
    have hself : (0 : F) ≤ t.ray k j := by
      unfold ray
      simp only [hoff, if_false, Finset.sum_const_zero, sub_zero]
      split
      · exact zero_le_one
      · exact le_rfl
    exact (neg_nonpos.mpr hbound).trans hself

/-- The ray of a profitable column whose entries all count as zero lowers no variable exactly
when no row is overlooked there. -/
theorem forall_ray_nonneg_iff (hc : t.IsExactlyCanonical) {k : Fin n}
    (hk : t.reducedCost k ≠ 0) (h : ∀ i, t.entry i k ≤ t.epsilon) :
    (∀ j, 0 ≤ t.ray k j) ↔ ∀ i, ¬ t.Overlooks i k := by
  constructor
  · intro hray i hi
    have hfalls := hray (t.basic i)
    rw [ray_basic hc hk, neg_nonneg] at hfalls
    exact hfalls.not_gt hi.1
  · intro hnone
    exact ray_nonneg fun i => not_lt.mp fun hpos => hnone i ⟨hpos, h i⟩

/-- If no value is further below zero than a bound, then after a pivot none is further below
than the bound and the tolerance for each unit that the entering variable is raised. A row that
was compared is not below zero at all, and an overlooked one falls by no more than that. -/
theorem neg_le_value_pivot (hε : 0 ≤ t.epsilon) {r : Fin m} {k : Fin n}
    (hl : t.IsLeastLimit r k) (hraise : 0 ≤ t.value r / t.entry r k) {bound : F}
    (hbound : 0 ≤ bound) (h : ∀ i, -bound ≤ t.value i) (i : Fin m) :
    -(bound + t.epsilon * (t.value r / t.entry r k)) ≤ (t.pivot r k).value i := by
  have hp : t.entry r k ≠ 0 := (hε.trans_lt hl.limits).ne'
  have hloss : 0 ≤ bound + t.epsilon * (t.value r / t.entry r k) :=
    add_nonneg hbound (mul_nonneg hε hraise)
  by_cases hi : i = r
  · rw [hi, value_pivot_self]
    exact (neg_nonpos.mpr hloss).trans hraise
  · rw [value_pivot_of_ne_eq_sub t hp hi, value_pivot_self]
    by_cases hlarge : t.epsilon < t.entry i k
    · have hle := hl.least i hlarge
      rw [le_div_iff₀ (hε.trans_lt hlarge), mul_comm] at hle
      exact (neg_nonpos.mpr hloss).trans (sub_nonneg.mpr hle)
    · have hfall := mul_le_mul_of_nonneg_right (not_lt.mp hlarge) hraise
      rw [neg_add']
      exact sub_le_sub (h i) hfall

end Tableau

section Ray

variable {F : Type} [Field F] [LinearOrder F] [IsStrictOrderedRing F]

theorem nonneg_of_forall_add_mul_nonneg {a b : F} (ha : 0 ≤ a)
    (h : ∀ s, 0 ≤ s → 0 ≤ a + s * b) : 0 ≤ b := by
  by_contra! hb
  have hs : 0 ≤ (a + 1) / -b := div_nonneg (by linarith) (neg_nonneg.mpr hb.le)
  have hat : a + (a + 1) / -b * b = -1 := by
    rw [div_neg, neg_mul, div_mul_cancel₀ _ hb.ne]
    ring
  have hneg := h _ hs
  rw [hat] at hneg
  linarith

theorem exists_lt_mul {rate : F} (hrate : 0 < rate) (bound : F) :
    ∃ s, 0 ≤ s ∧ |bound| < s * rate := by
  refine ⟨(|bound| + 1) / rate, div_nonneg (by positivity) hrate.le, ?_⟩
  rw [div_mul_cancel₀ _ hrate.ne']
  exact lt_add_one _

end Ray

namespace LinearProgram.IsFirstTableau

variable {F : Type} [Field F] [LinearOrder F] [IsStrictOrderedRing F] {p : LinearProgram F}
  {start : BasicSolution F} {epsilon : F}
  {first t : Tableau F p.standardForm.constraints.length p.standardForm.dimension}

/-- The solution of a canonical tableau satisfies the problem within a tolerance exactly when no
value of the tableau is further below zero. -/
theorem satisfied_take_solution_iff (h : p.standardForm.IsFirstTableau start epsilon first)
    (hd : t.DerivesFrom first) (hc : t.IsExactlyCanonical) {tolerance : F}
    (ht : 0 ≤ tolerance) :
    p.Satisfied (t.solution.toList.take p.dimension) tolerance ↔
      ∀ i, -tolerance ≤ t.value i := by
  have hsolves := (h.solves_iff_of_derivesFrom hd _).mp (Tableau.solves_solutionAt hc)
  rw [Tableau.toList_solution, p.satisfied_take_iff (List.length_ofFn) hsolves ht,
    List.forall_mem_ofFn_iff, Tableau.forall_neg_le_solutionAt_iff hc ht]

/-- The point where all variables are zero, with the bounds as slacks, solves the equations of
a problem of upper bounds that are not negative. -/
theorem exists_origin (hp : ∀ c ∈ p.constraints, c.relation = .atMost ∧ 0 ≤ c.bound) :
    ∃ z : Fin p.standardForm.dimension → F, p.standardForm.SolvesEquations z ∧
      (∀ j, 0 ≤ z j) ∧ ∀ j, j.val < p.dimension → z j = 0 := by
  have horigin : p.Satisfied (List.replicate p.dimension 0) 0 := by
    refine (p.satisfied_zero_iff _).mpr ⟨List.length_replicate, ?_, fun c hc => ?_⟩
    · intro y hy
      exact (List.eq_of_mem_replicate hy).ge
    · unfold Constraint.Holds
      rw [(hp c hc).1, innerProduct_comm, innerProduct_replicate_zero]
      exact add_nonneg (hp c hc).2 le_rfl
  have hslacks := p.satisfied_append_slacksAt horigin
  obtain ⟨z, hz⟩ := exists_ofFn hslacks
  rw [hz, satisfied_ofFn_iff p.isEquational_standardForm] at hslacks
  refine ⟨z, hslacks.1, hslacks.2, fun j hj => ?_⟩
  have hlength : j.val < (List.ofFn z).length := by
    rw [List.length_ofFn]
    exact j.isLt
  have hentry : (List.ofFn z)[j.val]? = some (z j) := by
    rw [List.getElem?_eq_getElem hlength, List.getElem_ofFn]
  rw [← hz, List.getElem?_append_left (by simpa using hj), List.getElem?_replicate,
    if_pos hj] at hentry
  exact (Option.some.inj hentry).symm

/-- From the point where all variables are zero, the ray of a column satisfies the problem
within a tolerance as far as no entry, slacks included, gets further below zero. -/
theorem satisfied_take_ray_iff (h : p.standardForm.IsFirstTableau start epsilon first)
    (hd : t.DerivesFrom first) (hc : t.IsExactlyCanonical)
    {z : Fin p.standardForm.dimension → F} (hz : p.standardForm.SolvesEquations z)
    (hzero : ∀ j, j.val < p.dimension → z j = 0) (k : Fin p.standardForm.dimension) (s : F)
    {tolerance : F} (ht : 0 ≤ tolerance) :
    p.Satisfied ((List.ofFn fun j => s * t.ray k j).take p.dimension) tolerance ↔
      ∀ j, -tolerance ≤ z j + s * t.ray k j := by
  have hsolves := (h.solves_iff_of_derivesFrom hd _).mp
    (Tableau.solves_add_ray hc ((h.solves_iff_of_derivesFrom hd z).mpr hz) k s)
  have htake : (List.ofFn fun j => s * t.ray k j).take p.dimension =
      (List.ofFn fun j => z j + s * t.ray k j).take p.dimension := by
    refine List.ext_getElem (by simp) fun j hj _ => ?_
    have hj' : j < p.dimension := (List.length_take_le _ _).trans_lt' hj
    rw [List.getElem_take, List.getElem_take, List.getElem_ofFn, List.getElem_ofFn,
      hzero _ hj', zero_add]
  rw [htake, p.satisfied_take_iff List.length_ofFn hsolves ht, List.forall_mem_ofFn_iff]

omit [IsStrictOrderedRing F] in
theorem evaluate_take_ray (h : p.standardForm.IsFirstTableau start epsilon first)
    (hobjective : p.objective.length = p.dimension) (hd : t.DerivesFrom first)
    (k : Fin p.standardForm.dimension) (s : F) :
    p.evaluate ((List.ofFn fun j => s * t.ray k j).take p.dimension) =
      .ok (match p.direction with
        | .maximize => s * t.reducedCost k
        | .minimize => -(s * t.reducedCost k)) := by
  have hlength : (List.ofFn fun j => s * t.ray k j).length = p.standardForm.dimension :=
    List.length_ofFn
  have hcosts : p.standardForm.objectiveAt (List.ofFn fun j => s * t.ray k j) =
      s * t.reducedCost k := by
    rw [← h.sum_cost_of_derivesFrom hd, ← t.sum_cost_ray, Finset.mul_sum]
    exact Finset.sum_congr rfl fun j _ => mul_left_comm _ _ _
  rw [p.evaluate_eq_ok_iff, p.objectiveAt_take hobjective hlength, hcosts]
  exact ⟨p.length_take_of_standardForm hlength, rfl⟩

/-- The ray of a column that is called unbounded shows the problem unbounded exactly when no row
is overlooked in the column. -/
theorem isUnboundedAlong_take_ray_iff (h : p.standardForm.IsFirstTableau start epsilon first)
    (hp : ∀ c ∈ p.constraints, c.relation = .atMost ∧ 0 ≤ c.bound)
    (hobjective : p.objective.length = p.dimension) (hd : t.DerivesFrom first)
    (hc : t.IsExactlyCanonical) {k : Fin p.standardForm.dimension} (hk : 0 < t.reducedCost k)
    (hentries : ∀ i, t.entry i k ≤ t.epsilon) :
    p.IsUnboundedAlong (fun s => (List.ofFn fun j => s * t.ray k j).take p.dimension) ↔
      ∀ i, ¬ t.Overlooks i k := by
  obtain ⟨z, hz, hnonneg, hzero⟩ := exists_origin hp
  have hsatisfied (s : F) := h.satisfied_take_ray_iff hd hc hz hzero k s (le_refl (0 : F))
  rw [← Tableau.forall_ray_nonneg_iff hc hk.ne' hentries]
  constructor
  · intro hray j
    refine nonneg_of_forall_add_mul_nonneg (hnonneg j) fun s hs => ?_
    rw [← neg_zero]
    exact (hsatisfied s).mp (hray.satisfied s hs) j
  · intro hray
    refine ⟨fun s hs => (hsatisfied s).mpr fun j => ?_, fun bound => ?_⟩
    · rw [neg_zero]
      exact add_nonneg (hnonneg j) (mul_nonneg hs (hray j))
    · obtain ⟨s, hs, hlt⟩ := exists_lt_mul hk bound
      refine ⟨s, _, hs, h.evaluate_take_ray hobjective hd k s, ?_⟩
      cases p.direction with
      | maximize => exact (le_abs_self bound).trans_lt hlt
      | minimize => exact neg_lt.mp ((neg_le_abs bound).trans_lt hlt)

/-- Whatever is overlooked, the ray of a column that is called unbounded misses the problem by
no more than the tolerance for each unit that the entering variable is raised. -/
theorem satisfied_take_ray (h : p.standardForm.IsFirstTableau start epsilon first)
    (hp : ∀ c ∈ p.constraints, c.relation = .atMost ∧ 0 ≤ c.bound)
    (hd : t.DerivesFrom first) (hc : t.IsExactlyCanonical) (hε : 0 ≤ t.epsilon)
    {k : Fin p.standardForm.dimension} (hk : t.reducedCost k ≠ 0)
    (hentries : ∀ i, t.entry i k ≤ t.epsilon) {s : F} (hs : 0 ≤ s) :
    p.Satisfied ((List.ofFn fun j => s * t.ray k j).take p.dimension) (t.epsilon * s) := by
  obtain ⟨z, hz, hnonneg, hzero⟩ := exists_origin hp
  rw [h.satisfied_take_ray_iff hd hc hz hzero k s (mul_nonneg hε hs)]
  intro j
  have hfall := mul_le_mul_of_nonneg_left (Tableau.neg_le_ray hc hε hk hentries j) hs
  rw [mul_neg, mul_comm] at hfall
  exact hfall.trans (le_add_of_nonneg_left (hnonneg j))

end LinearProgram.IsFirstTableau

end LinearProgramming
