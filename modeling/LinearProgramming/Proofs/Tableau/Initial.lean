import LinearProgramming.Proofs.Results
import LinearProgramming.Proofs.Tableau.Canonical

/-!
# The tableau of a problem

The first tableau of a problem has its coefficients, bounds and costs, and the variables
that the basic solution names. Its equations are the constraints of the problem, whatever
their relations.
-/

namespace LinearProgramming

namespace LinearProgram

variable {F : Type}

/-- What the first tableau of a problem shows for a basic solution. -/
structure IsFirstTableau (p : LinearProgram F) (start : BasicSolution F) (epsilon : F)
    (t : Tableau F p.constraints.length p.dimension) : Prop where
  row_eq : ∀ i : Fin p.constraints.length,
    (t.coefficients.get i).toList = (p.constraints.get i).coefficients
  value_eq : ∀ i : Fin p.constraints.length, t.value i = (p.constraints.get i).bound
  costs_eq : t.costs.toList = p.objective
  basis_eq : t.basis.toList.map Fin.val = start.basis
  epsilon_eq : t.epsilon = epsilon

theorem isFirstTableau_of_tableau? {p : LinearProgram F} {start : BasicSolution F}
    {epsilon : F} {t : Tableau F p.constraints.length p.dimension}
    (h : p.tableau? start epsilon = .ok t) : p.IsFirstTableau start epsilon t := by
  unfold tableau? at h
  split at h
  case isFalse => cases h
  case isTrue hm =>
    split at h
    case isFalse => cases h
    case isTrue hn =>
      split at h
      case h_1 => cases h
      case h_2 =>
        cases h
        refine ⟨fun i => ?_, fun i => ?_, rfl, ?_, rfl⟩
        · show ((Vector.ofFn p.coefficientRow)[i.val]).toList = p.constraints[i.val].coefficients
          simp [coefficientRow]
        · simp [Tableau.value]
        · refine List.ext_getElem (by simp [hm]) fun i _ _ => ?_
          simp

theorem exists_tableau? {p : LinearProgram F} {start : BasicSolution F}
    (hbasis : start.basis.length = p.constraints.length)
    (hobjective : p.objective.length = p.dimension) (hlt : ∀ j ∈ start.basis, j < p.dimension)
    (epsilon : F) : ∃ t, p.tableau? start epsilon = .ok t := by
  unfold tableau?
  rw [dif_pos hbasis, dif_pos hobjective]
  split
  case h_1 j hfound =>
    have hge := List.find?_some hfound
    exact absurd (hlt j (List.mem_of_find?_eq_some hfound)) (by simpa using hge)
  case h_2 => exact ⟨_, rfl⟩

/-- A basis is refused only because its parts do not fit together. -/
theorem exists_inconsistent_of_tableau? {p : LinearProgram F} {start : BasicSolution F}
    {epsilon : F} {failure : Failure} (h : p.tableau? start epsilon = .error failure) :
    ∃ reason, failure = .inconsistent reason := by
  unfold tableau? at h
  split at h
  case isFalse =>
    cases h
    exact ⟨_, rfl⟩
  case isTrue =>
    split at h
    case isFalse =>
      cases h
      exact ⟨_, rfl⟩
    case isTrue =>
      split at h
      case h_1 =>
        cases h
        exact ⟨_, rfl⟩
      case h_2 => cases h

theorem IsFirstTableau.length_objective {p : LinearProgram F} {start : BasicSolution F}
    {epsilon : F} {t : Tableau F p.constraints.length p.dimension}
    (h : p.IsFirstTableau start epsilon t) : p.objective.length = p.dimension := by
  rw [← h.costs_eq, Vector.length_toList]

theorem IsFirstTableau.getElem?_row {p : LinearProgram F} {start : BasicSolution F}
    {epsilon : F} {t : Tableau F p.constraints.length p.dimension}
    (h : p.IsFirstTableau start epsilon t) (i : Fin p.constraints.length)
    (j : Fin p.dimension) :
    (p.constraints.get i).coefficients[j.val]? = some (t.entry i j) := by
  rw [← h.row_eq i, List.getElem?_eq_getElem (by simp), Vector.getElem_toList]
  rfl

theorem IsFirstTableau.getElem?_basis {p : LinearProgram F} {start : BasicSolution F}
    {epsilon : F} {t : Tableau F p.constraints.length p.dimension}
    (h : p.IsFirstTableau start epsilon t) (i : Fin p.constraints.length) :
    start.basis[i.val]? = some (t.basic i).val := by
  rw [← h.basis_eq]
  simp [Tableau.basic]

/-- Whether a point satisfies all constraints as equations. -/
def SolvesEquations [Scalar F] (p : LinearProgram F) (x : Fin p.dimension → F) : Prop :=
  ∀ c ∈ p.constraints, innerProduct c.coefficients (List.ofFn x) = c.bound

end LinearProgram

variable {F : Type} [Field F] [LinearOrder F]

theorem innerProduct_toList {n : Nat} (v : Vector F n) (x : Fin n → F) :
    innerProduct v.toList (List.ofFn x) = ∑ j, v.get j * x j := by
  rw [innerProduct_ofFn v.length_toList]
  refine Finset.sum_congr rfl fun j _ => ?_
  show v.toList[j.val] * x j = v[j.val] * x j
  rw [Vector.getElem_toList]

namespace LinearProgram.IsFirstTableau

variable {p : LinearProgram F} {start : BasicSolution F} {epsilon : F}
  {t : Tableau F p.constraints.length p.dimension}

theorem solves_iff (h : p.IsFirstTableau start epsilon t) (x : Fin p.dimension → F) :
    t.Solves x ↔ p.SolvesEquations x := by
  have hrow (i : Fin p.constraints.length) : ∑ j, t.entry i j * x j =
      innerProduct (p.constraints.get i).coefficients (List.ofFn x) := by
    rw [← h.row_eq i, innerProduct_toList]
    rfl
  constructor
  · intro hs c hc
    obtain ⟨i, hi, rfl⟩ := List.mem_iff_getElem.mp hc
    have hi' := hs ⟨i, hi⟩
    rw [hrow, h.value_eq] at hi'
    exact hi'
  · intro hs i
    rw [hrow, h.value_eq]
    exact hs _ (List.getElem_mem i.isLt)

theorem sum_cost (h : p.IsFirstTableau start epsilon t) (x : Fin p.dimension → F) :
    ∑ j, t.cost j * x j = p.objectiveAt (List.ofFn x) := by
  unfold objectiveAt
  rw [← h.costs_eq, innerProduct_toList]
  rfl

end LinearProgram.IsFirstTableau

end LinearProgramming
