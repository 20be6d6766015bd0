import LinearProgramming.Proofs.Problem.StandardForm

/-!
# Problems in standard form

A problem that maximizes over equations whose bounds are not negative is its own standard form:
there are no costs to negate, no constraints to write the other way and no slacks to add. Each
standard form is such a problem, so no other problem is its own standard form, and to bring a
standard form into standard form once more changes nothing.
-/

namespace LinearProgramming

variable {F : Type} [Field F] [LinearOrder F]

namespace Constraint

/-- Without slacks an equation whose bound is not negative stays as it is. -/
theorem equation_eq_self {c : Constraint F} (hrelation : c.relation = .equal)
    (hbound : 0 ≤ c.bound) (place : Nat) : c.equation 0 place = c := by
  rw [equation, oriented_of_bound_nonneg hbound, hrelation]
  obtain ⟨coefficients, relation, bound⟩ := c
  obtain rfl : relation = .equal := hrelation
  exact congrArg (fun row => (⟨row, .equal, bound⟩ : Constraint F)) (List.append_nil _)

theorem equations_eq_self {cs : List (Constraint F)}
    (h : ∀ c ∈ cs, c.relation = .equal ∧ 0 ≤ c.bound) (place : Nat) :
    equations 0 place cs = cs := by
  induction cs generalizing place with
  | nil => rfl
  | cons c cs ih =>
    obtain ⟨⟨hrelation, hbound⟩, hrest⟩ := List.forall_mem_cons.mp h
    rw [equations, equation_eq_self hrelation hbound, ih hrest]

end Constraint

namespace LinearProgram

theorem IsStandard.inequalities_eq_zero {p : LinearProgram F} (h : p.IsStandard) :
    p.inequalities = 0 := by
  rw [inequalities, List.countP_eq_zero]
  intro c hc
  rw [(h.2 c hc).1]
  exact Bool.false_ne_true

theorem IsStandard.standardForm_eq {p : LinearProgram F} (h : p.IsStandard) :
    p.standardForm = p := by
  have hslacks := h.inequalities_eq_zero
  have hconstraints := Constraint.equations_eq_self h.2 0
  obtain ⟨direction, objective, constraints, dimension, rectangular⟩ := p
  obtain rfl : direction = .maximize := h.1
  simp only [standardForm, costs, mk.injEq, true_and]
  rw [hslacks]
  exact ⟨List.append_nil _, hconstraints, rfl⟩

variable [IsStrictOrderedRing F]

/-- Whatever the constraints are, their equations have bounds that are not negative. -/
theorem isStandard_standardForm (p : LinearProgram F) : p.standardForm.IsStandard := by
  refine ⟨rfl, ?_⟩
  have hequations (slacks place : Nat) (cs : List (Constraint F)) :
      ∀ e ∈ Constraint.equations slacks place cs, e.relation = .equal ∧ 0 ≤ e.bound := by
    induction cs generalizing place with
    | nil => simp [Constraint.equations]
    | cons c cs ih =>
      exact List.forall_mem_cons.mpr ⟨⟨rfl, c.bound_oriented_nonneg⟩, ih _⟩
  exact hequations _ _ _

/-- **Problems in standard form are the fixed points.** The standard form of every problem is
recognized as such. A problem is its own standard form, in its direction, its objective, all of
its constraints and the count of its variables, exactly when it is recognized. So the standard
form of a standard form is that standard form. -/
theorem standardForm_eq_self_iff (p : LinearProgram F) :
    p.standardForm.IsStandard ∧ (p.standardForm = p ↔ p.IsStandard) ∧
      p.standardForm.standardForm = p.standardForm := by
  have hstandard := p.isStandard_standardForm
  refine ⟨hstandard, ⟨fun h => ?_, fun h => h.standardForm_eq⟩, hstandard.standardForm_eq⟩
  rwa [h] at hstandard

end LinearProgram

/-- Three slacks are added, and no more when it is done again. -/
theorem standardForm_eq_self_iff_everyKind :
    ¬ everyKind.IsStandard ∧ everyKind.standardForm ≠ everyKind ∧
      everyKind.standardForm.dimension = 5 ∧ everyKind.standardForm.IsStandard ∧
      everyKind.standardForm.standardForm = everyKind.standardForm := by
  obtain ⟨hstandard, hiff, htwice⟩ := everyKind.standardForm_eq_self_iff
  have hnot : ¬ everyKind.IsStandard := by decide +kernel
  exact ⟨hnot, fun h => hnot (hiff.mp h), by decide +kernel, hstandard, htwice⟩

end LinearProgramming
