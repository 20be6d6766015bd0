import LinearProgramming.Proofs.Problem.StandardForm

/-!
# Optima and unbounded rays

A point is an optimum if it satisfies the problem and no other such point has a better
objective. There is no optimum if points satisfy the problem with objectives beyond every
bound, and a family of points with one parameter may show this. Both carry over from the
standard form: the slacks are left out, and the objective of a problem that minimizes gets
its sign back.
-/

namespace LinearProgramming.LinearProgram

variable {F : Type} [Field F] [LinearOrder F]

/-- Whether a point is an optimum of a problem, with this value of the objective. -/
structure IsOptimum (p : LinearProgram F) (x : List F) (value : F) : Prop where
  length_eq : x.length = p.dimension
  satisfied : p.Satisfied x 0
  evaluate_eq : p.evaluate x = .ok value
  best : ∀ y, p.Satisfied y 0 → ∃ other, p.evaluate y = .ok other ∧
    match p.direction with
    | .maximize => other ≤ value
    | .minimize => value ≤ other

/-- Whether points satisfy a problem, and their objectives pass every bound. -/
structure IsUnbounded (p : LinearProgram F) : Prop where
  satisfiable : ∃ x, p.Satisfied x 0
  passes : ∀ bound, ∃ x value, p.Satisfied x 0 ∧ p.evaluate x = .ok value ∧
    match p.direction with
    | .maximize => bound < value
    | .minimize => value < bound

/-- Whether the points of a family, one for each number that is not negative, satisfy a
problem, and their objectives pass every bound. -/
structure IsUnboundedAlong (p : LinearProgram F) (point : F → List F) : Prop where
  satisfied : ∀ s, 0 ≤ s → p.Satisfied (point s) 0
  passes : ∀ bound, ∃ s value, 0 ≤ s ∧ p.evaluate (point s) = .ok value ∧
    match p.direction with
    | .maximize => bound < value
    | .minimize => value < bound

theorem IsUnboundedAlong.isUnbounded {p : LinearProgram F} {point : F → List F}
    (h : p.IsUnboundedAlong point) : p.IsUnbounded where
  satisfiable := ⟨point 0, h.satisfied 0 le_rfl⟩
  passes bound := by
    obtain ⟨s, value, hs, hvalue, hbound⟩ := h.passes bound
    exact ⟨point s, value, h.satisfied s hs, hvalue, hbound⟩

theorem evaluate_of_satisfied {p : LinearProgram F} {x : List F} (h : p.Satisfied x 0) :
    p.evaluate x = .ok (p.objectiveAt x) := p.evaluate_eq_ok_iff.mpr ⟨h.1, rfl⟩

theorem length_take_of_standardForm (p : LinearProgram F) {z : List F}
    (hz : z.length = p.standardForm.dimension) : (z.take p.dimension).length = p.dimension := by
  rw [List.length_take, hz, dimension_standardForm]
  exact min_eq_left (Nat.le_add_right _ _)

theorem objectiveAt_take (p : LinearProgram F) (hobjective : p.objective.length = p.dimension)
    {z : List F} (hz : z.length = p.standardForm.dimension) :
    p.objectiveAt (z.take p.dimension) =
      match p.direction with
      | .maximize => p.standardForm.objectiveAt z
      | .minimize => -p.standardForm.objectiveAt z := by
  have hcosts := p.objectiveAt_standardForm
    (hobjective.trans (p.length_take_of_standardForm hz).symm) (z.drop p.dimension)
  rw [List.take_append_drop] at hcosts
  rw [hcosts]
  cases p.direction with
  | maximize => rfl
  | minimize => exact (neg_neg _).symm

variable [IsStrictOrderedRing F]

theorem satisfied_take (p : LinearProgram F) {z : List F}
    (hz : p.standardForm.Satisfied z 0) : p.Satisfied (z.take p.dimension) 0 := by
  have hlength := p.length_take_of_standardForm hz.1
  rw [← List.take_append_drop p.dimension z, p.satisfied_standardForm_iff hlength] at hz
  exact hz.1

theorem satisfied_append_slacksAt (p : LinearProgram F) {x : List F} (hx : p.Satisfied x 0) :
    p.standardForm.Satisfied (x ++ p.slacksAt x) 0 :=
  (p.satisfied_standardForm_iff hx.1 _).mpr ⟨hx, rfl⟩

/-- An optimum of the standard form is one of the problem once its slacks are left out. -/
theorem IsOptimum.of_standardForm {p : LinearProgram F}
    (hobjective : p.objective.length = p.dimension) {z : List F} {value : F}
    (h : p.standardForm.IsOptimum z value) :
    p.IsOptimum (z.take p.dimension) (match p.direction with
      | .maximize => value
      | .minimize => -value) := by
  have hsatisfied := p.satisfied_take h.satisfied
  have hvalue : p.standardForm.objectiveAt z = value :=
    (p.standardForm.evaluate_eq_ok_iff.mp h.evaluate_eq).2
  refine ⟨hsatisfied.1, hsatisfied, ?_, fun y hy => ?_⟩
  · rw [evaluate_of_satisfied hsatisfied, p.objectiveAt_take hobjective h.length_eq, hvalue]
  · obtain ⟨other, hother, hle⟩ := h.best _ (p.satisfied_append_slacksAt hy)
    have hcosts := p.objectiveAt_standardForm (hobjective.trans hy.1.symm) (p.slacksAt y)
    rw [(p.standardForm.evaluate_eq_ok_iff.mp hother).2] at hcosts
    refine ⟨p.objectiveAt y, evaluate_of_satisfied hy, ?_⟩
    change other ≤ value at hle
    cases hd : p.direction with
    | maximize =>
      simp only [hd] at hcosts
      change p.objectiveAt y ≤ value
      rw [← hcosts]
      exact hle
    | minimize =>
      simp only [hd] at hcosts
      change -value ≤ p.objectiveAt y
      rw [neg_le, ← hcosts]
      exact hle

/-- A family that shows the standard form unbounded shows it of the problem. -/
theorem IsUnboundedAlong.of_standardForm {p : LinearProgram F}
    (hobjective : p.objective.length = p.dimension) {point : F → List F}
    (h : p.standardForm.IsUnboundedAlong point) :
    p.IsUnboundedAlong fun s => (point s).take p.dimension := by
  refine ⟨fun s hs => p.satisfied_take (h.satisfied s hs), fun bound => ?_⟩
  cases hd : p.direction with
  | maximize =>
    obtain ⟨s, value, hs, hvalue, hlt⟩ := h.passes bound
    have hpoint := h.satisfied s hs
    have hcosts := p.objectiveAt_take hobjective hpoint.1
    rw [hd, (p.standardForm.evaluate_eq_ok_iff.mp hvalue).2] at hcosts
    refine ⟨s, value, hs, ?_, hlt⟩
    rw [evaluate_of_satisfied (p.satisfied_take hpoint), hcosts]
  | minimize =>
    obtain ⟨s, value, hs, hvalue, hlt⟩ := h.passes (-bound)
    have hpoint := h.satisfied s hs
    have hcosts := p.objectiveAt_take hobjective hpoint.1
    rw [hd, (p.standardForm.evaluate_eq_ok_iff.mp hvalue).2] at hcosts
    refine ⟨s, -value, hs, ?_, neg_lt.mp hlt⟩
    rw [evaluate_of_satisfied (p.satisfied_take hpoint), hcosts]

end LinearProgramming.LinearProgram
