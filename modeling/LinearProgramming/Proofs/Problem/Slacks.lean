import LinearProgramming.Proofs.Problem.Extremes

/-!
# Slacks below zero

Where the equations of the standard form hold, the slack of an inequality is the room that is
left between its two sides, with a sign: if it is negative, the inequality is missed by as much.
A solution of the equations therefore satisfies the problem within a tolerance exactly when none
of its entries, slacks included, is below zero by more than the tolerance.
-/

namespace LinearProgramming

variable {F : Type} [Field F] [LinearOrder F]

namespace Constraint

theorem eq_bound_of_equation {c : Constraint F} {x s : List F}
    (hx : c.coefficients.length = x.length) {place : Nat}
    (he : innerProduct (c.equation s.length place).coefficients (x ++ s) =
      (c.equation s.length place).bound) :
    innerProduct c.oriented.coefficients x +
      innerProduct (slackRow F s.length place c.oriented.relation) s = c.oriented.bound := by
  rwa [equation, innerProduct_append (by rw [length_oriented, hx])] at he

variable [IsStrictOrderedRing F]

theorem holds_iff_neg_le_slack (c : Constraint F) (hneeds : c.relation.needsSlack = true)
    {x s : List F} {place : Nat} (hplace : place < s.length)
    (he : innerProduct c.coefficients x + innerProduct (slackRow F s.length place c.relation) s =
      c.bound) (tolerance : F) : c.Holds x tolerance ↔ -tolerance ≤ s[place] := by
  unfold slackRow at he
  unfold Holds
  cases hr : c.relation with
  | atMost =>
    simp only [hr, Relation.slackCoefficient] at he
    rw [innerProduct_set_replicate_zero 1 rfl hplace, one_mul] at he
    dsimp only
    rw [← he, add_assoc, le_add_iff_nonneg_right, neg_le_iff_add_nonneg]
  | atLeast =>
    simp only [hr, Relation.slackCoefficient] at he
    rw [innerProduct_set_replicate_zero (-1) rfl hplace, neg_one_mul] at he
    dsimp only
    rw [← he, add_sub_assoc, add_le_iff_nonpos_right, sub_nonpos, neg_le]
  | equal =>
    rw [hr] at hneeds
    cases hneeds

theorem holds_of_no_slack (c : Constraint F) (hneeds : c.relation.needsSlack = false)
    {x s : List F} {place : Nat}
    (he : innerProduct c.coefficients x + innerProduct (slackRow F s.length place c.relation) s =
      c.bound) {tolerance : F} (ht : 0 ≤ tolerance) : c.Holds x tolerance := by
  unfold slackRow at he
  unfold Holds
  cases hr : c.relation with
  | atMost =>
    rw [hr] at hneeds
    cases hneeds
  | atLeast =>
    rw [hr] at hneeds
    cases hneeds
  | equal =>
    simp only [hr, Relation.slackCoefficient] at he
    rw [innerProduct_replicate_zero, add_zero] at he
    dsimp only
    rwa [he, sub_self, magnitude_eq_abs, abs_zero]

/-- Where the equations of some constraints hold, whose slacks begin at a place, the constraints
hold within a tolerance exactly when no slack from there on is further below zero. -/
theorem forall_holds_iff_of_equations {cs : List (Constraint F)} {x s : List F}
    (hx : ∀ c ∈ cs, c.coefficients.length = x.length) (place : Nat)
    (hcount : s.length = place + cs.countP fun c => c.relation.needsSlack)
    (he : ∀ e ∈ equations s.length place cs, innerProduct e.coefficients (x ++ s) = e.bound)
    {tolerance : F} (ht : 0 ≤ tolerance) :
    (∀ c ∈ cs, c.Holds x tolerance) ↔ ∀ y ∈ s.drop place, -tolerance ≤ y := by
  induction cs generalizing place with
  | nil =>
    have hnone : s.drop place = [] := List.drop_eq_nil_of_le (by simpa using hcount.le)
    simp [hnone]
  | cons c cs ih =>
    have hc := List.forall_mem_cons.mp hx
    rw [equations, List.forall_mem_cons] at he
    have hfirst := eq_bound_of_equation hc.1 he.1
    rw [List.forall_mem_cons, ← c.holds_oriented_iff]
    cases hneeds : c.relation.needsSlack with
    | true =>
      have hcount' : s.length = place + 1 + cs.countP fun c => c.relation.needsSlack := by
        rw [hcount, List.countP_cons, if_pos hneeds]
        omega
      have hplace : place < s.length := by omega
      rw [if_pos hneeds] at he
      rw [ih hc.2 _ hcount' he.2, List.drop_eq_getElem_cons hplace, List.forall_mem_cons,
        c.oriented.holds_iff_neg_le_slack (by rwa [needsSlack_oriented]) hplace hfirst]
    | false =>
      have hcount' : s.length = place + cs.countP fun c => c.relation.needsSlack := by
        rw [hcount, List.countP_cons, if_neg (by simp [hneeds]), add_zero]
      rw [if_neg (by simp [hneeds])] at he
      rw [ih hc.2 _ hcount' he.2]
      exact and_iff_right
        (c.oriented.holds_of_no_slack (by rwa [needsSlack_oriented]) hfirst ht)

end Constraint

namespace LinearProgram

variable [IsStrictOrderedRing F]

/-- A solution of the equations of the standard form satisfies the problem within a tolerance,
its slacks left out, exactly when none of its entries is further below zero. -/
theorem satisfied_take_iff (p : LinearProgram F) {z : List F}
    (hz : z.length = p.standardForm.dimension)
    (he : ∀ e ∈ p.standardForm.constraints, innerProduct e.coefficients z = e.bound)
    {tolerance : F} (ht : 0 ≤ tolerance) :
    p.Satisfied (z.take p.dimension) tolerance ↔ ∀ y ∈ z, -tolerance ≤ y := by
  have hx := p.length_take_of_standardForm hz
  have hs : (z.drop p.dimension).length = p.inequalities := by
    rw [List.length_drop, hz, dimension_standardForm, Nat.add_sub_cancel_left]
  have hlengths : ∀ c ∈ p.constraints,
      c.coefficients.length = (z.take p.dimension).length := fun c hc =>
    (p.rectangular c hc).trans hx.symm
  have hequations : ∀ e ∈ Constraint.equations (z.drop p.dimension).length 0 p.constraints,
      innerProduct e.coefficients (z.take p.dimension ++ z.drop p.dimension) = e.bound := by
    rw [List.take_append_drop, hs]
    exact he
  have hholds := Constraint.forall_holds_iff_of_equations hlengths 0
    (by rw [hs, Nat.zero_add]; rfl) hequations ht
  rw [List.drop_zero] at hholds
  unfold Satisfied
  simp only [hx, true_and, not_lt]
  rw [hholds, ← List.forall_mem_append, List.take_append_drop]

end LinearProgram

end LinearProgramming
