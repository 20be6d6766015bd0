import LinearProgramming.Proofs.Tableau.Initial

/-!
# What pivots preserve

A tableau that comes from another by pivots on entries that are not zero has the same
solutions, costs and tolerance, and its unit columns have not got fewer. This holds for
any pivots, whether a rule would choose them or not, and it composes, so that it carries
over to whole runs. Later tableaux therefore still speak of the problem of the first one.
-/

namespace LinearProgramming

namespace Tableau

variable {F : Type} [Field F] {m n : Nat}

/-- What a tableau shares with the one it was pivoted from. -/
structure DerivesFrom (t first : Tableau F m n) : Prop where
  solves_iff : ∀ x, t.Solves x ↔ first.Solves x
  costs_eq : t.costs = first.costs
  epsilon_eq : t.epsilon = first.epsilon
  isUnitColumn : ∀ i, first.IsUnitColumn i → t.IsUnitColumn i

namespace DerivesFrom

theorem refl (t : Tableau F m n) : t.DerivesFrom t :=
  ⟨fun _ => Iff.rfl, rfl, rfl, fun _ h => h⟩

theorem trans {t s first : Tableau F m n} (h : t.DerivesFrom s) (h' : s.DerivesFrom first) :
    t.DerivesFrom first where
  solves_iff x := (h.solves_iff x).trans (h'.solves_iff x)
  costs_eq := h.costs_eq.trans h'.costs_eq
  epsilon_eq := h.epsilon_eq.trans h'.epsilon_eq
  isUnitColumn i hi := h.isUnitColumn i (h'.isUnitColumn i hi)

theorem cost_eq {t first : Tableau F m n} (h : t.DerivesFrom first) (j : Fin n) :
    t.cost j = first.cost j := by
  unfold cost
  rw [h.costs_eq]

theorem isExactlyCanonical {t first : Tableau F m n} (h : t.DerivesFrom first)
    (hc : first.IsExactlyCanonical) : t.IsExactlyCanonical := fun i => h.isUnitColumn i (hc i)

/-- Two tableaux that come from the same one derive from each other, as far as their columns
allow it. -/
theorem of_common {t t' first : Tableau F m n} (h' : t'.DerivesFrom first)
    (h : t.DerivesFrom first) (hc : t'.IsExactlyCanonical) : t'.DerivesFrom t where
  solves_iff x := (h'.solves_iff x).trans (h.solves_iff x).symm
  costs_eq := h'.costs_eq.trans h.costs_eq.symm
  epsilon_eq := h'.epsilon_eq.trans h.epsilon_eq.symm
  isUnitColumn i _ := hc i

end DerivesFrom

variable [LinearOrder F]

theorem derivesFrom_pivot (t : Tableau F m n) {r : Fin m} {k : Fin n}
    (hp : t.entry r k ≠ 0) : (t.pivot r k).DerivesFrom t where
  solves_iff := solves_pivot_iff t hp
  costs_eq := rfl
  epsilon_eq := rfl
  isUnitColumn i hi := by
    by_cases hr : i = r
    · rw [hr]
      exact isUnitColumn_pivot_self t hp
    · exact hi.pivot hp hr

/-- The costs of a solution of the first equations, in terms of a later tableau. -/
theorem DerivesFrom.sum_cost {t first : Tableau F m n} (h : t.DerivesFrom first)
    {x : Fin n → F} (hx : first.Solves x) :
    ∑ j, first.cost j * x j = t.objectiveValue + ∑ j, t.reducedCost j * x j := by
  rw [← sum_cost_of_solves t ((h.solves_iff x).mpr hx)]
  exact Finset.sum_congr rfl fun j _ => by rw [h.cost_eq]

theorem pivotPosition?_eq_ok {F : Type} [Scalar F] {t : Tableau F m n} {row column : Nat}
    {position : Fin m × Fin n} (h : t.pivotPosition? row column = .ok position) :
    position.1.val = row ∧ position.2.val = column ∧
      ¬ magnitude (t.entry position.1 position.2) < t.epsilon := by
  unfold pivotPosition? at h
  split at h
  case isFalse => cases h
  case isTrue =>
    split at h
    case isFalse => cases h
    case isTrue =>
      split at h
      case isTrue => cases h
      case isFalse hlarge =>
        cases h
        exact ⟨rfl, rfl, hlarge⟩

/-- A position is refused for no other reason than that there is nothing to pivot on. -/
theorem failure_of_pivotPosition? {F : Type} [Scalar F] {t : Tableau F m n} {row column : Nat}
    {failure : Failure} (h : t.pivotPosition? row column = .error failure) :
    failure = .invalidPivot row column := by
  unfold pivotPosition? at h
  split at h
  · split at h
    · split at h
      · cases h
        rfl
      · cases h
    · cases h
      rfl
  · cases h
    rfl

theorem pivotPosition?_of_not_lt {F : Type} [Scalar F] {t : Tableau F m n} {r : Fin m} {k : Fin n}
    (h : ¬ magnitude (t.entry r k) < t.epsilon) : t.pivotPosition? r k = .ok (r, k) := by
  simp [pivotPosition?, h]

theorem entry_ne_zero_of_pivotPosition? [IsStrictOrderedRing F] {t : Tableau F m n}
    (hε : 0 < t.epsilon) {row column : Nat} {position : Fin m × Fin n}
    (h : t.pivotPosition? row column = .ok position) :
    t.entry position.1 position.2 ≠ 0 := by
  intro hzero
  have hlarge := (pivotPosition?_eq_ok h).2.2
  rw [hzero, magnitude_eq_abs, abs_zero] at hlarge
  exact hlarge hε

end Tableau

namespace LinearProgram.IsFirstTableau

variable {F : Type} [Field F] [LinearOrder F] {q : LinearProgram F} {start : BasicSolution F}
  {epsilon : F} {first t : Tableau F q.constraints.length q.dimension}

theorem solves_iff_of_derivesFrom (h : q.IsFirstTableau start epsilon first)
    (hd : t.DerivesFrom first) (z : Fin q.dimension → F) :
    t.Solves z ↔ q.SolvesEquations z := (hd.solves_iff z).trans (h.solves_iff z)

theorem sum_cost_of_derivesFrom (h : q.IsFirstTableau start epsilon first)
    (hd : t.DerivesFrom first) (z : Fin q.dimension → F) :
    ∑ j, t.cost j * z j = q.objectiveAt (List.ofFn z) := by
  rw [← h.sum_cost]
  exact Finset.sum_congr rfl fun j _ => by rw [hd.cost_eq]

theorem objectiveAt_solution (h : q.IsFirstTableau start epsilon first)
    (hd : t.DerivesFrom first) (hc : t.IsExactlyCanonical) :
    q.objectiveAt t.solution.toList = t.objectiveValue := by
  rw [Tableau.toList_solution, ← h.sum_cost_of_derivesFrom hd,
    Tableau.objectiveValue_eq_sum_cost (Tableau.basic_injective hc)]

end LinearProgram.IsFirstTableau

end LinearProgramming
