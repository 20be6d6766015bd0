import LinearProgramming.Proofs.Problem.Stating
import LinearProgramming.Proofs.ExactArithmetic
import LinearProgramming.Problem.StandardForm
import Mathlib.Algebra.Order.Field.Rat

/-!
# The shape of a standard form

The standard form has a variable for every variable and for every inequality of the problem,
and each of its rows has a coefficient for all of them. Its objective is that of the problem,
with a cost of zero for every slack. This keeps the length of an objective right, but not the
lack of one: a problem that is empty because it has no objective gets costs for its slacks
alone. Its standard form is then not empty any more, and it has costs for some variables only.
-/

namespace LinearProgramming

namespace LinearProgram

variable {F : Type}

/-- The parts of a problem state it again if there is a cost for every variable, or none. -/
theorem withDimension?_self_iff (p : LinearProgram F) :
    withDimension? p.direction p.objective p.constraints p.dimension = .ok p ↔
      p.objective = [] ∨ p.objective.length = p.dimension := by
  rw [withDimension?_eq_ok_iff]
  simp only [true_and]

theorem inequalities_of_constraints_eq_nil {p : LinearProgram F} (h : p.constraints = []) :
    p.inequalities = 0 := by
  rw [inequalities, h, List.countP_nil]

variable [Scalar F]

theorem objective_standardForm_eq_nil_iff (p : LinearProgram F) :
    p.standardForm.objective = [] ↔ p.objective = [] ∧ p.inequalities = 0 := by
  rw [← List.length_eq_zero_iff, length_objective_standardForm, Nat.add_eq_zero_iff,
    List.length_eq_zero_iff]

theorem isEmpty_constraints_standardForm (p : LinearProgram F) :
    p.standardForm.constraints.isEmpty = p.constraints.isEmpty := by
  rw [Bool.eq_iff_iff, List.isEmpty_iff_length_eq_zero, List.isEmpty_iff_length_eq_zero,
    length_constraints_standardForm]

theorem isEmpty_standardForm_iff (p : LinearProgram F) :
    p.standardForm.isEmpty = p.isEmpty ↔ p.objective ≠ [] ∨ p.inequalities = 0 := by
  unfold isEmpty
  rw [isEmpty_constraints_standardForm]
  cases hc : p.constraints.isEmpty with
  | true =>
    have hnone := inequalities_of_constraints_eq_nil (List.isEmpty_iff.mp hc)
    simp only [Bool.or_true, hnone, or_true]
  | false =>
    rw [Bool.or_false, Bool.or_false, Bool.eq_iff_iff, List.isEmpty_iff, List.isEmpty_iff,
      objective_standardForm_eq_nil_iff]
    tauto

theorem IsStated.objective_standardForm_iff {p : LinearProgram F} (h : p.IsStated) :
    p.standardForm.objective = [] ∨
        p.standardForm.objective.length = p.standardForm.dimension ↔
      p.objective ≠ [] ∨ p.inequalities = 0 ∨ p.dimension = 0 := by
  rw [objective_standardForm_eq_nil_iff, length_objective_standardForm, dimension_standardForm,
    Nat.add_right_cancel_iff]
  rcases h.objective_eq_nil_or with hnil | hlength
  · rw [hnil, List.length_nil]
    tauto
  · have hnil : p.objective = [] → p.dimension = 0 := by
      rw [← hlength, List.length_eq_zero_iff]
      exact id
    tauto

/-- **The shape of a standard form.** The standard form of every problem that can be stated
has a variable for each variable and for each inequality of the problem, and a coefficient for
each of them in every row. It can be stated from its own parts exactly when its objective has
a cost for every variable, or none. This is so, and the standard form is empty just when the
problem is, whenever the problem has an objective or no inequalities. Without an objective any
inequality makes the standard form a problem that is not empty, and it cannot be stated then
unless there are no variables at all. -/
theorem standardForm_shape (p : LinearProgram F) (hstated : p.IsStated) :
    p.standardForm.dimension = p.dimension + p.inequalities ∧
    (∀ c ∈ p.standardForm.constraints,
      c.coefficients.length = p.standardForm.dimension) ∧
    (p.standardForm.objective = [] ∨
        p.standardForm.objective.length = p.standardForm.dimension ↔
      p.objective ≠ [] ∨ p.inequalities = 0 ∨ p.dimension = 0) ∧
    (withDimension? p.standardForm.direction p.standardForm.objective
        p.standardForm.constraints p.standardForm.dimension = .ok p.standardForm ↔
      p.objective ≠ [] ∨ p.inequalities = 0 ∨ p.dimension = 0) ∧
    (p.standardForm.isEmpty = p.isEmpty ↔ p.objective ≠ [] ∨ p.inequalities = 0) := by
  have hobjective := hstated.objective_standardForm_iff
  have hself := p.standardForm.withDimension?_self_iff
  exact ⟨rfl, p.standardForm.rectangular, hobjective, hself.trans hobjective,
    p.isEmpty_standardForm_iff⟩

end LinearProgram

/-- A problem with an inequality and an equation, all with costs for both variables. -/
def withCosts : LinearProgram ℚ where
  direction := .minimize
  objective := [1, 2]
  constraints := [⟨[1, 1], .atLeast, 1⟩, ⟨[1, -1], .equal, 0⟩]
  dimension := 2
  rectangular := by decide

theorem standardForm_shape_withCosts :
    withCosts.IsStated ∧ withCosts.standardForm.dimension = 3 ∧
      (∀ c ∈ withCosts.standardForm.constraints, c.coefficients.length = 3) ∧
      withCosts.standardForm.objective.length = 3 ∧
      LinearProgram.withDimension? withCosts.standardForm.direction
        withCosts.standardForm.objective withCosts.standardForm.constraints
        withCosts.standardForm.dimension = .ok withCosts.standardForm ∧
      withCosts.standardForm.isEmpty = false := by
  have hstated : withCosts.IsStated :=
    .new (LinearProgram.new?_eq_ok_iff.mpr ⟨rfl, rfl, rfl, rfl⟩)
  have hcosts : withCosts.objective ≠ [] := List.cons_ne_nil _ _
  obtain ⟨hdimension, hrows, hobjective, hself, hempty⟩ :=
    withCosts.standardForm_shape hstated
  have hlength : withCosts.standardForm.objective.length = 3 :=
    (hobjective.mpr (.inl hcosts)).resolve_left (List.cons_ne_nil _ _)
  exact ⟨hstated, hdimension, hrows, hlength, hself.mpr (.inl hcosts),
    hempty.mpr (.inl hcosts)⟩

/-- A problem with an inequality over one variable, and no objective. -/
def withoutCosts : LinearProgram ℚ where
  direction := .maximize
  objective := []
  constraints := [⟨[1], .atMost, 1⟩]
  dimension := 1
  rectangular := by decide

theorem standardForm_shape_withoutCosts :
    LinearProgram.withDimension? .maximize [] [⟨[1], .atMost, 1⟩] 1 = .ok withoutCosts ∧
      withoutCosts.isEmpty = true ∧ withoutCosts.standardForm.isEmpty = false ∧
      withoutCosts.standardForm.dimension = 2 ∧ withoutCosts.standardForm.objective = [0] ∧
      LinearProgram.withDimension? withoutCosts.standardForm.direction
        withoutCosts.standardForm.objective withoutCosts.standardForm.constraints
        withoutCosts.standardForm.dimension = .error (.objective 1 2) :=
  ⟨withoutCosts.withDimension?_self_iff.mpr (.inl rfl), rfl, rfl, rfl, rfl, rfl⟩

end LinearProgramming
