import LinearProgramming.Proofs.Tableau.SlackBasis
import LinearProgramming.Proofs.Tableau.Verdict
import LinearProgramming.Solver
import Mathlib.Algebra.Order.Field.Rat

/-!
# When the basis of slacks can be trusted

The solver takes the last variables of a standard form for a basis without looking at their
columns. There are enough of them unless there are more equations than variables, and the
bounds are never negative values. Whether the first tableau is canonical can be told from the
problem alone.
-/

namespace LinearProgramming

namespace LinearProgram

variable {F : Type} [Field F] [LinearOrder F] {p : LinearProgram F}

/-- With more equations than variables there are too few variables for a basis. -/
theorem slackBasis_of_dimension_lt (h : p.dimension < p.count .equal) :
    p.standardForm.slackBasis = .error (.inconsistent (.noSlackBasis
      p.standardForm.constraints.length p.standardForm.dimension)) := by
  have hlt : p.standardForm.dimension < p.standardForm.constraints.length := by
    rw [length_constraints_standardForm, dimension_standardForm,
      ← p.count_equal_add_inequalities]
    omega
  unfold slackBasis
  rw [dif_pos hlt]

variable [IsStrictOrderedRing F]

/-- Otherwise the last variables are a basis whose values are not negative, and it is accepted
for a tableau if every variable has a cost. -/
theorem exists_slackBasis_of_le_dimension (h : p.count .equal ≤ p.dimension) :
    ∃ start, p.standardForm.slackBasis = .ok start ∧ start.IsFeasible ∧
      start.basis = List.range' (p.dimension - p.count .equal) p.constraints.length ∧
      (p.objective.length = p.dimension →
        ∀ epsilon, ∃ first, p.standardForm.tableau? start epsilon = .ok first) := by
  have hlength := p.length_constraints_standardForm
  have hcount := p.count_equal_add_inequalities
  obtain ⟨start, hstart, hvalues, hdimension⟩ := exists_slackBasis (p := p.standardForm)
    (by rw [hlength, dimension_standardForm]; omega)
  have hbasis := (basis_of_slackBasis hstart).2
  refine ⟨start, hstart, fun x hx => ?_, ?_, fun hobjective epsilon => ?_⟩
  · rw [hvalues] at hx
    obtain ⟨c, hc, rfl⟩ := List.mem_map.mp hx
    exact (p.isStandard_standardForm.2 c hc).2
  · rw [hbasis, hlength, dimension_standardForm]
    congr 1
    omega
  · refine exists_tableau? (by simp [hbasis]) ?_ (hdimension ▸ start.basis_lt) epsilon
    rw [dimension_standardForm, length_objective_standardForm, hobjective]

/-- **When the slack basis can be trusted.** The numbers are exact and every variable has a
cost. With at most as many equations as variables, the basis of slacks of the standard form has
a variable for every constraint, all of them distinct, and no negative value. Its first tableau
is exactly canonical if and only if no inequality stands before an equation, every inequality
has an upper bound once its bound is not negative, and the last columns of the problem, as many
as there are equations, are the identity matrix in the rows of the equations and zero below.
With more equations than variables no basis is found. -/
theorem slackBasis_canonical_iff (p : LinearProgram F)
    (hobjective : p.objective.length = p.dimension) :
    (p.count .equal ≤ p.dimension →
      ∃ start, BasisFinder.slacks p.standardForm = .ok (.ok start) ∧ start.IsFeasible ∧
        start.basis.length = p.constraints.length ∧ start.basis.Nodup ∧
        ∀ epsilon, ∃ first, p.standardForm.tableau? start epsilon = .ok first ∧
          (first.IsExactlyCanonical ↔
            p.EquationsLead ∧ p.HasUpperSlacks ∧ p.EndsInIdentity)) ∧
    (p.dimension < p.count .equal →
      ∃ reason, BasisFinder.slacks p.standardForm = .ok (.error (.inconsistent reason))) := by
  constructor
  · intro hle
    obtain ⟨start, hstart, hfeasible, hbasis, haccepted⟩ := exists_slackBasis_of_le_dimension hle
    refine ⟨start, congrArg Except.ok hstart, hfeasible, ?_, ?_, fun epsilon => ?_⟩
    · rw [hbasis, List.length_range']
    · rw [hbasis]
      exact List.nodup_range'
    · obtain ⟨first, hfirst⟩ := haccepted hobjective epsilon
      exact ⟨first, hfirst,
        isExactlyCanonical_iff_of_slackBasis hstart (isFirstTableau_of_tableau? hfirst)⟩
  · intro hlt
    exact ⟨_, congrArg Except.ok (slackBasis_of_dimension_lt hlt)⟩

end LinearProgram

/-- A problem whose equation leads, and whose lower bound is an upper bound once it is negated. -/
def servedMix : LinearProgram ℚ where
  direction := .minimize
  objective := [1, -2, 1]
  constraints := [⟨[-1, -2, -1], .equal, -4⟩, ⟨[1, 1, 0], .atMost, 3⟩, ⟨[-1, 2, 0], .atLeast, -2⟩]
  dimension := 3
  rectangular := by decide

theorem slackBasis_canonical_iff_servedMix :
    servedMix.objective.length = servedMix.dimension ∧
      servedMix.count .equal ≤ servedMix.dimension ∧
      ∃ start first, BasisFinder.slacks servedMix.standardForm = .ok (.ok start) ∧
        start.IsFeasible ∧ servedMix.standardForm.tableau? start 0 = .ok first ∧
        first.IsExactlyCanonical := by
  have hle : servedMix.count .equal ≤ servedMix.dimension := by decide
  obtain ⟨start, hstart, hfeasible, -, -, hcanonical⟩ :=
    (servedMix.slackBasis_canonical_iff rfl).1 hle
  obtain ⟨first, hfirst, hiff⟩ := hcanonical 0
  have hserved : servedMix.EquationsLead ∧ servedMix.HasUpperSlacks ∧
      servedMix.EndsInIdentity := by
    decide +kernel
  exact ⟨rfl, hle, start, first, hstart, hfeasible, hfirst, hiff.mpr hserved⟩

end LinearProgramming
