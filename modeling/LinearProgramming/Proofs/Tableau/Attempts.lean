import LinearProgramming.Proofs.Tableau.Derivation
import LinearProgramming.Problem.StandardForm
import LinearProgramming.Tableau.Trail
import Mathlib.Algebra.Order.Field.Rat

/-!
# Sequences of calls to pivot

A caller may ask for pivots at any rows and columns. A call without an entry to pivot on
changes nothing; with a positive tolerance the others never divide by zero. Whatever the
calls are, equations, costs, values and reduced costs stay consistent with each other and
with the problem, although only the equations and the basis are stored.
-/

namespace LinearProgramming

namespace Trail

variable {F : Type} [Scalar F] {m n : Nat}

/-- The trail after a call to pivot. Where there is no entry to pivot on, it stays as it
is. -/
def attempt (t : Trail F m n) (position : Nat × Nat) : Trail F m n :=
  match t.pivot? position.1 position.2 with
  | .ok next => next
  | .error _ => t

/-- The trail after calls to pivot, one after the other, failing ones included. -/
def attempts (t : Trail F m n) (positions : List (Nat × Nat)) : Trail F m n :=
  positions.foldl attempt t

/-- Whether one of the calls makes a pivot on a row. -/
def PivotsOn (t : Trail F m n) (positions : List (Nat × Nat)) (i : Fin m) : Prop :=
  ∃ before column after next, positions = before ++ (i.val, column) :: after ∧
    (t.attempts before).pivot? i column = .ok next

theorem trail?_eq_ok {p : LinearProgram F} {start : BasicSolution F} {epsilon : F}
    {first : Trail F p.constraints.length p.dimension}
    (h : p.trail? start epsilon = .ok first) :
    ∃ t, p.tableau? start epsilon = .ok t ∧ first = Trail.start t := by
  obtain ⟨t, ht, rfl⟩ := exists_of_map_eq_ok h
  exact ⟨t, ht, rfl⟩

theorem pivot?_eq_ok {t next : Trail F m n} {row column : Nat}
    (h : t.pivot? row column = .ok next) :
    ∃ position, t.tableau.pivotPosition? row column = .ok position ∧
      next = t.pivot position.1 position.2 := by
  obtain ⟨position, hposition, rfl⟩ := exists_of_map_eq_ok h
  exact ⟨position, hposition, rfl⟩

theorem attempt_of_ok {t next : Trail F m n} {position : Nat × Nat}
    (h : t.pivot? position.1 position.2 = .ok next) : t.attempt position = next := by
  unfold attempt
  rw [h]

theorem attempt_of_error {t : Trail F m n} {position : Nat × Nat} {failure : Failure}
    (h : t.pivot? position.1 position.2 = .error failure) : t.attempt position = t := by
  unfold attempt
  rw [h]

section Call

variable {t : Trail F m n} {row column : Nat}

theorem pivot?_of_ok {found : Fin m × Fin n}
    (h : t.tableau.pivotPosition? row column = .ok found) :
    t.pivot? row column = .ok (t.pivot found.1 found.2) := by
  rw [pivot?, h]
  rfl

theorem pivot?_of_error {failure : Failure}
    (h : t.tableau.pivotPosition? row column = .error failure) :
    t.pivot? row column = .error failure := by
  rw [pivot?, h]
  rfl

theorem attempt_of_pivotPosition?_ok {found : Fin m × Fin n}
    (h : t.tableau.pivotPosition? row column = .ok found) :
    t.attempt (row, column) = t.pivot found.1 found.2 := attempt_of_ok (pivot?_of_ok h)

theorem attempt_of_pivotPosition?_error {failure : Failure}
    (h : t.tableau.pivotPosition? row column = .error failure) :
    t.attempt (row, column) = t := attempt_of_error (pivot?_of_error h)

end Call

theorem attempts_append (t : Trail F m n) (before after : List (Nat × Nat)) :
    t.attempts (before ++ after) = (t.attempts before).attempts after := by
  unfold attempts
  rw [List.foldl_append]

theorem attempts_cons (t : Trail F m n) (position : Nat × Nat) (rest : List (Nat × Nat)) :
    t.attempts (position :: rest) = (t.attempt position).attempts rest := rfl

section Exact

variable {F : Type} [Field F] [LinearOrder F] [IsStrictOrderedRing F] {m n : Nat}

theorem derivesFrom_attempt (t : Trail F m n) (hε : 0 < t.tableau.epsilon)
    (position : Nat × Nat) : (t.attempt position).tableau.DerivesFrom t.tableau := by
  cases h : t.pivot? position.1 position.2 with
  | error failure =>
    rw [attempt_of_error h]
    exact .refl _
  | ok next =>
    obtain ⟨found, hfound, rfl⟩ := pivot?_eq_ok h
    rw [attempt_of_ok h]
    exact t.tableau.derivesFrom_pivot (Tableau.entry_ne_zero_of_pivotPosition? hε hfound)

theorem derivesFrom_attempts (t : Trail F m n) (hε : 0 < t.tableau.epsilon)
    (positions : List (Nat × Nat)) :
    (t.attempts positions).tableau.DerivesFrom t.tableau := by
  induction positions generalizing t with
  | nil => exact .refl _
  | cons position rest ih =>
    have hstep := t.derivesFrom_attempt hε position
    exact (ih (t.attempt position) (hstep.epsilon_eq ▸ hε)).trans hstep

/-- A row that has been pivoted on keeps a unit column, whatever is attempted later. -/
theorem isUnitColumn_of_pivotsOn (t : Trail F m n) (hε : 0 < t.tableau.epsilon)
    {positions : List (Nat × Nat)} {i : Fin m} (h : t.PivotsOn positions i) :
    (t.attempts positions).tableau.IsUnitColumn i := by
  obtain ⟨before, column, after, next, rfl, hnext⟩ := h
  have hε' : 0 < (t.attempts before).tableau.epsilon :=
    (t.derivesFrom_attempts hε before).epsilon_eq ▸ hε
  obtain ⟨found, hfound, rfl⟩ := pivot?_eq_ok hnext
  have hp := Tableau.entry_ne_zero_of_pivotPosition? hε' hfound
  obtain rfl : found.1 = i := Fin.ext (Tableau.pivotPosition?_eq_ok hfound).1
  rw [attempts_append, attempts_cons, attempt_of_ok hnext]
  exact (derivesFrom_attempts ((t.attempts before).pivot found.1 found.2) hε' after).isUnitColumn
    found.1 (Tableau.isUnitColumn_pivot_self _ hp)

/-- **The invariant of any sequence of pivots.** The first tableau of a problem, for any
basis that is accepted, may be sent through any calls to pivot, sensible or not. Its
equations keep the solutions of the problem, and on these the objective is known from
the value and the reduced costs. Unit columns stay, and pivots make new ones. If the
first tableau was canonical, the current one is so as well, and what it shows is the
basic solution of its basis. -/
theorem attempts_invariant (p : LinearProgram F) (start : BasicSolution F) {epsilon : F}
    (hε : 0 < epsilon) {first : Trail F p.constraints.length p.dimension}
    (hfirst : p.trail? start epsilon = .ok first) (positions : List (Nat × Nat)) :
    let t := (first.attempts positions).tableau
    (∀ x, t.Solves x ↔ p.SolvesEquations x) ∧
    (∀ x, p.SolvesEquations x →
      p.objectiveAt (List.ofFn x) = t.objectiveValue + ∑ j, t.reducedCost j * x j) ∧
    (∀ i, first.PivotsOn positions i ∨ first.tableau.IsUnitColumn i → t.IsUnitColumn i) ∧
    (first.tableau.IsExactlyCanonical →
      t.IsExactlyCanonical ∧ Function.Injective t.basic ∧
      (∀ i, (t.basic i).val < p.dimension) ∧ (∀ i, t.reducedCost (t.basic i) = 0) ∧
      (∀ x, p.SolvesEquations x ∧ t.VanishesOffBasis x ↔ x = t.solutionAt) ∧
      t.objectiveValue = p.objectiveAt t.solution.toList) := by
  intro t
  obtain ⟨t₀, ht₀, rfl⟩ := trail?_eq_ok hfirst
  have hp := LinearProgram.isFirstTableau_of_tableau? ht₀
  have hd : t.DerivesFrom t₀ :=
    derivesFrom_attempts (Trail.start t₀) (hp.epsilon_eq ▸ hε) positions
  have hsolves := hp.solves_iff_of_derivesFrom hd
  refine ⟨hsolves, ?_, ?_, ?_⟩
  · intro x hx
    rw [← hp.sum_cost_of_derivesFrom hd, t.sum_cost_of_solves ((hsolves x).mpr hx)]
  · rintro i (hpivot | hunit)
    · exact isUnitColumn_of_pivotsOn _ (hp.epsilon_eq ▸ hε) hpivot
    · exact hd.isUnitColumn i hunit
  · intro hcanonical
    have hc : t.IsExactlyCanonical := hd.isExactlyCanonical hcanonical
    refine ⟨hc, Tableau.basic_injective hc, fun i => (t.basic i).isLt,
      Tableau.reducedCost_basic hc, fun x => ?_, (hp.objectiveAt_solution hd hc).symm⟩
    constructor
    · rintro ⟨hx, hoff⟩
      exact Tableau.eq_solutionAt hc ((hsolves x).mpr hx) hoff
    · rintro rfl
      exact ⟨(hsolves _).mp (Tableau.solves_solutionAt hc), t.vanishesOffBasis_solutionAt⟩

end Exact

end Trail

/-- Two products that share two resources. -/
def twoProducts : LinearProgram ℚ where
  direction := .maximize
  objective := [3, 2]
  constraints := [⟨[1, 1], .atMost, 4⟩, ⟨[1, 3], .atMost, 6⟩]
  dimension := 2
  rectangular := by decide

/-- The slacks of the two resources as a basis. -/
def twoSlacks : BasicSolution ℚ where
  basis := [2, 3]
  values := [4, 6]
  dimension := 4
  paired := rfl
  basis_lt := by decide

/-- The second pivot is on a negative entry, and the third call finds no row. -/
theorem attempts_invariant_twoProducts :
    0 < (1 / 10 : ℚ) ∧ ∃ first, twoProducts.standardForm.trail? twoSlacks (1 / 10) = .ok first ∧
      first.tableau.IsExactlyCanonical ∧
      let t := (first.attempts [(0, 0), (1, 2), (9, 0)]).tableau
      (∀ x, t.Solves x ↔ twoProducts.standardForm.SolvesEquations x) ∧
      t.IsExactlyCanonical ∧ t.objectiveValue = 18 ∧
      t.objectiveValue = twoProducts.standardForm.objectiveAt t.solution.toList := by
  have hε : (0 : ℚ) < 1 / 10 := by norm_num
  obtain ⟨hsolves, -, -, hcanonical⟩ := Trail.attempts_invariant twoProducts.standardForm
    twoSlacks hε rfl [(0, 0), (1, 2), (9, 0)]
  obtain ⟨hc, -, -, -, -, hvalue⟩ :=
    hcanonical ((Tableau.isExactlyCanonical_iff _).mpr (by decide +kernel))
  refine ⟨hε, _, rfl, ?_, hsolves, hc, ?_, hvalue⟩
  · exact (Tableau.isExactlyCanonical_iff _).mpr (by decide +kernel)
  · decide +kernel

end LinearProgramming
