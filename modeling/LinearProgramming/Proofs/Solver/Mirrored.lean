import LinearProgramming.Proofs.Checked.Solver
import LinearProgramming.Proofs.Problem.Mirrored
import LinearProgramming.Proofs.Solver.Recording
import Mathlib.Algebra.Order.Field.Rat

/-!
# The way a constraint is written

Solving a problem looks at no more of it than at its standard form, its direction and the count
of its variables. So it gives the same answer whichever way the constraints are written, unless
a bound is zero. An inequality with a bound of zero gets a slack with the opposite sign when it
is written the other way, and an equation gets the opposite coefficients. The columns of one of
the two problems may then form no basis for the rows, and the answers differ.
-/

namespace LinearProgramming

namespace LinearProgram

section Scalar

variable {F : Type} [Scalar F]

/-- Problems with the same standard form have the same answer, if the answer is told in the
same way. -/
theorem report_solve_congr (settings : Settings F) (rule : PivotRule F) (finder : BasisFinder F)
    {p q : LinearProgram F} (hform : p.standardForm = q.standardForm)
    (hempty : p.isEmpty = q.isEmpty) (hdirection : p.direction = q.direction)
    (hdimension : p.dimension = q.dimension) :
    (p.solve settings rule finder).map Outcome.report =
      (q.solve settings rule finder).map Outcome.report := by
  unfold solve
  rw [hempty]
  generalize p.standardForm = form at hform
  subst hform
  split
  case isTrue => rfl
  case isFalse =>
    split
    case h_1 => rfl
    case h_2 => rfl
    case h_3 start _ =>
      split
      case isFalse => rfl
      case isTrue =>
        rw [map_map, map_map]
        congr 1
        funext outcome
        rw [Outcome.report_restrict, Outcome.report_restrict, hdirection, hdimension]

theorem exists_solve_eq_ok (settings : Settings F) (rule : MethodRule) (p : LinearProgram F) :
    ∃ outcome, p.solve settings rule.rule .slacks = .ok outcome := by
  unfold solve BasisFinder.slacks
  split
  case isTrue => exact ⟨_, rfl⟩
  case isFalse =>
    cases p.standardForm.slackBasis with
    | error failure => exact ⟨_, rfl⟩
    | ok start =>
      dsimp only
      split
      case isTrue =>
        obtain ⟨outcome, hsolve, -⟩ := p.standardForm.exists_checkedSolveFrom settings rule start
        rw [hsolve]
        exact ⟨_, rfl⟩
      case isFalse => exact ⟨_, rfl⟩

end Scalar

variable {F : Type} [Field F] [LinearOrder F] [IsStrictOrderedRing F]

/-- **The way a constraint is written does not matter.** Negating both sides of any constraints
leaves the points that satisfy a problem as they are. If none of the bounds of these constraints
is zero, every rule of the method gives both problems an outcome from the basis of slacks, with
the same status, value, solution and message, whatever the settings are. -/
theorem solve_mirrored (settings : Settings F) (rule : MethodRule) (p : LinearProgram F)
    (chosen : Finset Nat) :
    (∀ x, (p.mirrored chosen).Satisfied x 0 ↔ p.Satisfied x 0) ∧
    ((∀ i ∈ chosen, ∀ c, p.constraints[i]? = some c → c.bound ≠ 0) →
      (p.mirrored chosen).standardForm = p.standardForm ∧
      ∃ outcome outcome', p.solve settings rule.rule .slacks = .ok outcome ∧
        (p.mirrored chosen).solve settings rule.rule .slacks = .ok outcome' ∧
        outcome'.status = outcome.status ∧ outcome'.value? = outcome.value? ∧
        outcome'.solution? = outcome.solution? ∧ outcome'.message? = outcome.message?) := by
  refine ⟨p.satisfied_mirrored_iff chosen, fun h => ?_⟩
  have hform := standardForm_mirrored h
  obtain ⟨outcome, hsolve⟩ := p.exists_solve_eq_ok settings rule
  obtain ⟨outcome', hsolve'⟩ := (p.mirrored chosen).exists_solve_eq_ok settings rule
  have hreport := report_solve_congr settings rule.rule .slacks hform (p.isEmpty_mirrored chosen)
    rfl rfl
  rw [hsolve, hsolve'] at hreport
  have hsame : outcome'.report = outcome.report := Except.ok.inj hreport
  simp only [Outcome.report, Prod.mk.injEq] at hsame
  exact ⟨hform, outcome, outcome', hsolve, hsolve', hsame⟩

end LinearProgram

/-- What the solver answers from the basis of slacks with the usual settings and rule. -/
def LinearProgram.usualAnswer (p : LinearProgram ℚ) :
    Except Misuse (Status × Option ℚ × Option (List ℚ)) :=
  (p.solve (Settings.standard ℚ) MethodRule.largest.rule .slacks).map fun outcome =>
    (outcome.status, outcome.value?, outcome.solution?)

/-- Constraints with bounds of either sign, and one with a bound of zero. -/
def bothSigns : LinearProgram ℚ where
  direction := .maximize
  objective := [3, 2]
  constraints := [⟨[1, 1], .atMost, 4⟩, ⟨[-2, -1], .atLeast, -5⟩, ⟨[1, -1], .atMost, 0⟩]
  dimension := 2
  rectangular := by decide

theorem solve_mirrored_bothSigns :
    (∀ i ∈ ({0, 1} : Finset Nat), ∀ c, bothSigns.constraints[i]? = some c → c.bound ≠ 0) ∧
      (bothSigns.mirrored {0, 1}).constraints =
        [⟨[-1, -1], .atLeast, -4⟩, ⟨[2, 1], .atMost, 5⟩, ⟨[1, -1], .atMost, 0⟩] ∧
      bothSigns.usualAnswer = .ok (.optimal, some 9, some [1, 3]) ∧
      (bothSigns.mirrored {0, 1}).usualAnswer = .ok (.optimal, some 9, some [1, 3]) := by
  have hbounds : ∀ i ∈ ({0, 1} : Finset Nat), ∀ c, bothSigns.constraints[i]? = some c →
      c.bound ≠ 0 := by
    intro i hi c hc
    rw [Finset.mem_insert, Finset.mem_singleton] at hi
    rcases hi with rfl | rfl
    · cases hc
      decide
    · cases hc
      decide
  have hanswer : bothSigns.usualAnswer = .ok (.optimal, some 9, some [1, 3]) := by
    decide +kernel
  obtain ⟨-, hsame⟩ :=
    bothSigns.solve_mirrored (Settings.standard ℚ) MethodRule.largest {0, 1}
  obtain ⟨-, outcome, outcome', hsolve, hsolve', hstatus, hvalue, hsolution, -⟩ := hsame hbounds
  refine ⟨hbounds, rfl, hanswer, ?_⟩
  rw [← hanswer]
  unfold LinearProgram.usualAnswer
  rw [hsolve, hsolve', Except.map, Except.map, hstatus, hvalue, hsolution]

/-- A problem over the points on one side of the diagonal. -/
def besideDiagonal : LinearProgram ℚ where
  direction := .maximize
  objective := [0, 1]
  constraints := [⟨[1, -1], .atLeast, 0⟩, ⟨[1, 0], .atMost, 4⟩]
  dimension := 2
  rectangular := by decide

/-- A problem over the points of the diagonal. -/
def onDiagonal : LinearProgram ℚ where
  direction := .maximize
  objective := [0, 1]
  constraints := [⟨[1, 0], .atMost, 4⟩, ⟨[1, -1], .equal, 0⟩]
  dimension := 2
  rectangular := by decide

/-- With a bound of zero the answer depends on how the constraint is written, for inequalities
as well as for equations. -/
theorem solve_mirrored_besideDiagonal :
    0 ≤ (Settings.standard ℚ).epsilon ∧
      besideDiagonal.usualAnswer = .ok (.unbounded, none, none) ∧
      (besideDiagonal.mirrored {0}).usualAnswer = .ok (.optimal, some 4, some [4, 4]) ∧
      onDiagonal.usualAnswer = .ok (.unbounded, none, none) ∧
      (onDiagonal.mirrored {1}).usualAnswer = .ok (.optimal, some 4, some [0, 0]) := by
  refine ⟨?_, ?_, ?_, ?_, ?_⟩ <;> decide +kernel

end LinearProgramming
