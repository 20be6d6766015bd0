import LinearProgramming.Proofs.ExactArithmetic
import LinearProgramming.Problem.StandardForm
import Mathlib.Algebra.Order.Field.Rat

/-!
# The standard form means the same

A point satisfies a problem exactly when it can be continued by slacks to a point that
satisfies the standard form. The slacks are then known: each is the distance between the
two sides of its constraint, whichever way the constraint is written. What the point costs
stays the same up to the sign that a problem which minimizes gives to its costs.
-/

namespace LinearProgramming

variable {F : Type} [Field F] [LinearOrder F]

namespace Constraint

/-- The same constraint with both sides negated. -/
def mirrored (c : Constraint F) : Constraint F where
  coefficients := c.coefficients.map (- ·)
  relation := c.relation.flipped
  bound := -c.bound

/-- The distance between the two sides of a constraint at a point. -/
def room (c : Constraint F) (x : List F) : F := |innerProduct c.coefficients x - c.bound|

/-- The rooms of the inequalities among some constraints, in order. -/
def rooms (cs : List (Constraint F)) (x : List F) : List F :=
  (cs.filter fun c => c.relation.needsSlack).map fun c => c.room x

theorem rooms_nil (x : List F) : rooms [] x = ([] : List F) := rfl

theorem rooms_cons_of_needsSlack {c : Constraint F} (h : c.relation.needsSlack = true)
    (cs : List (Constraint F)) (x : List F) : rooms (c :: cs) x = c.room x :: rooms cs x := by
  simp [rooms, h]

theorem rooms_cons_of_equal {c : Constraint F} (h : c.relation.needsSlack = false)
    (cs : List (Constraint F)) (x : List F) : rooms (c :: cs) x = rooms cs x := by
  simp [rooms, h]

theorem length_rooms (cs : List (Constraint F)) (x : List F) :
    (rooms cs x).length = cs.countP fun c => c.relation.needsSlack := by
  simp [rooms, List.countP_eq_length_filter]

theorem oriented_of_bound_neg {c : Constraint F} (h : c.bound < 0) : c.oriented = c.mirrored :=
  if_pos h

theorem oriented_of_bound_nonneg {c : Constraint F} (h : 0 ≤ c.bound) : c.oriented = c :=
  if_neg h.not_gt

theorem room_oriented (c : Constraint F) (x : List F) : c.oriented.room x = c.room x := by
  unfold oriented
  split
  case isTrue =>
    unfold room
    rw [innerProduct_map_neg, ← abs_neg, neg_sub]
    congr 1
    ring
  case isFalse => rfl

variable [IsStrictOrderedRing F]

theorem rooms_nonneg (cs : List (Constraint F)) (x : List F) : ∀ y ∈ rooms cs x, 0 ≤ y := by
  intro y hy
  obtain ⟨c, -, rfl⟩ := List.mem_map.mp hy
  exact abs_nonneg _

theorem bound_oriented_nonneg (c : Constraint F) : 0 ≤ c.oriented.bound := by
  unfold oriented
  split
  case isTrue h => exact neg_nonneg.mpr h.le
  case isFalse h => exact not_lt.mp h

/-- Negating both sides of a constraint does not change which points satisfy it, within any
tolerance. -/
theorem holds_mirrored_iff (c : Constraint F) (x : List F) (tolerance : F) :
    c.mirrored.Holds x tolerance ↔ c.Holds x tolerance := by
  unfold Holds mirrored
  rw [innerProduct_map_neg]
  cases c.relation with
  | atMost =>
    show -c.bound - tolerance ≤ _ ↔ _
    rw [← neg_add', neg_le_neg_iff]
  | atLeast =>
    show _ ≤ -c.bound + tolerance ↔ _
    rw [neg_add_eq_sub, ← neg_sub, neg_le_neg_iff]
  | equal =>
    simp only [Relation.flipped, magnitude_eq_abs]
    rw [← abs_neg, neg_sub, sub_neg_eq_add, neg_add_eq_sub]

theorem holds_oriented_iff (c : Constraint F) (x : List F) (tolerance : F) :
    c.oriented.Holds x tolerance ↔ c.Holds x tolerance := by
  unfold oriented
  split
  case isTrue => exact c.holds_mirrored_iff x tolerance
  case isFalse => rfl

/-- With its slack a constraint is an equation exactly when it holds and the slack takes up
its room. -/
theorem add_slack_eq_bound_iff (c : Constraint F) {x s : List F} (hs : ∀ y ∈ s, 0 ≤ y)
    (place : Nat) (hplace : c.relation.needsSlack = true → place < s.length) :
    innerProduct c.coefficients x + innerProduct (slackRow F s.length place c.relation) s =
      c.bound ↔ c.Holds x 0 ∧ (c.relation.needsSlack = true → s[place]? = some (c.room x)) := by
  unfold Holds room slackRow
  cases hr : c.relation with
  | atMost =>
    have hp : place < s.length := hplace (by rw [hr]; rfl)
    have hnonneg : 0 ≤ s[place] := hs _ (List.getElem_mem hp)
    simp only [Relation.slackCoefficient, Relation.needsSlack, forall_const]
    rw [innerProduct_set_replicate_zero 1 rfl hp, List.getElem?_eq_getElem hp,
      Option.some.injEq, one_mul, add_zero]
    constructor
    · intro he
      have hle : innerProduct c.coefficients x ≤ c.bound := by linarith
      refine ⟨hle, ?_⟩
      rw [abs_of_nonpos (sub_nonpos.mpr hle)]
      linarith
    · rintro ⟨hle, he⟩
      rw [he, abs_of_nonpos (sub_nonpos.mpr hle)]
      ring
  | atLeast =>
    have hp : place < s.length := hplace (by rw [hr]; rfl)
    have hnonneg : 0 ≤ s[place] := hs _ (List.getElem_mem hp)
    simp only [Relation.slackCoefficient, Relation.needsSlack, forall_const]
    rw [innerProduct_set_replicate_zero (-1) rfl hp, List.getElem?_eq_getElem hp,
      Option.some.injEq, neg_one_mul, sub_zero]
    constructor
    · intro he
      have hle : c.bound ≤ innerProduct c.coefficients x := by linarith
      refine ⟨hle, ?_⟩
      rw [abs_of_nonneg (sub_nonneg.mpr hle)]
      linarith
    · rintro ⟨hle, he⟩
      rw [he, abs_of_nonneg (sub_nonneg.mpr hle)]
      ring
  | equal =>
    simp only [Relation.slackCoefficient, Relation.needsSlack, Bool.false_eq_true,
      false_implies, and_true]
    rw [innerProduct_replicate_zero, add_zero, magnitude_eq_abs, abs_nonpos_iff, sub_eq_zero]

theorem holds_equation_iff (c : Constraint F) {x s : List F}
    (hx : c.coefficients.length = x.length) (hs : ∀ y ∈ s, 0 ≤ y) (place : Nat)
    (hplace : c.relation.needsSlack = true → place < s.length) :
    (c.equation s.length place).Holds (x ++ s) 0 ↔
      c.Holds x 0 ∧ (c.relation.needsSlack = true → s[place]? = some (c.room x)) := by
  have hlength : c.oriented.coefficients.length = x.length := by rw [length_oriented, hx]
  have horiented := add_slack_eq_bound_iff c.oriented (x := x) hs place
    (by rwa [needsSlack_oriented])
  rw [holds_oriented_iff, room_oriented, needsSlack_oriented] at horiented
  rw [← horiented]
  unfold Holds equation
  dsimp only
  rw [innerProduct_append hlength, magnitude_eq_abs, abs_nonpos_iff, sub_eq_zero]

/-- The equations of some constraints, whose slacks begin at a place, hold exactly when the
constraints hold and the slacks from there on take up their rooms. -/
theorem forall_holds_equations_iff {cs : List (Constraint F)} {x s : List F}
    (hx : ∀ c ∈ cs, c.coefficients.length = x.length) (hs : ∀ y ∈ s, 0 ≤ y) (place : Nat)
    (hcount : s.length = place + cs.countP fun c => c.relation.needsSlack) :
    (∀ e ∈ equations s.length place cs, e.Holds (x ++ s) 0) ↔
      (∀ c ∈ cs, c.Holds x 0) ∧ s.drop place = rooms cs x := by
  induction cs generalizing place with
  | nil =>
    have hnone : s.drop place = [] := List.drop_eq_nil_of_le (by simpa using hcount.le)
    simp [equations, hnone, rooms_nil]
  | cons c cs ih =>
    have hc := List.forall_mem_cons.mp hx
    rw [equations, List.forall_mem_cons, List.forall_mem_cons]
    cases hneeds : c.relation.needsSlack with
    | true =>
      have hcount' : s.length = place + 1 + cs.countP fun c => c.relation.needsSlack := by
        rw [hcount, List.countP_cons, if_pos hneeds]
        omega
      have hplace : place < s.length := by omega
      rw [if_pos rfl, ih hc.2 _ hcount', holds_equation_iff c hc.1 hs place fun _ => hplace,
        rooms_cons_of_needsSlack hneeds, List.drop_eq_getElem_cons hplace,
        List.getElem?_eq_getElem hplace, List.cons.injEq, Option.some.injEq]
      simp only [hneeds, forall_const]
      tauto
    | false =>
      have hcount' : s.length = place + cs.countP fun c => c.relation.needsSlack := by
        rw [hcount, List.countP_cons, if_neg (by simp [hneeds]), add_zero]
      rw [if_neg Bool.false_ne_true, ih hc.2 _ hcount',
        holds_equation_iff c hc.1 hs place (by simp [hneeds]), rooms_cons_of_equal hneeds]
      simp only [hneeds, Bool.false_eq_true, false_implies, and_true]
      tauto

end Constraint

namespace LinearProgram

/-- The slacks that continue a point to one of the standard form, one for each inequality. -/
def slacksAt (p : LinearProgram F) (x : List F) : List F := Constraint.rooms p.constraints x

theorem length_slacksAt (p : LinearProgram F) (x : List F) :
    (p.slacksAt x).length = p.inequalities := Constraint.length_rooms _ _

theorem objectiveAt_standardForm (p : LinearProgram F) {x : List F}
    (hobjective : p.objective.length = x.length) (s : List F) :
    p.standardForm.objectiveAt (x ++ s) =
      match p.direction with
      | .maximize => p.objectiveAt x
      | .minimize => -p.objectiveAt x := by
  unfold objectiveAt standardForm costs
  cases p.direction with
  | maximize =>
    dsimp only
    rw [innerProduct_append hobjective, innerProduct_replicate_zero, add_zero]
  | minimize =>
    dsimp only
    rw [innerProduct_append (by rw [List.length_map, hobjective]), innerProduct_replicate_zero,
      add_zero, innerProduct_map_neg]

theorem evaluate_eq_ok_iff (p : LinearProgram F) {x : List F} {value : F} :
    p.evaluate x = .ok value ↔ x.length = p.dimension ∧ p.objectiveAt x = value := by
  unfold evaluate
  split
  case isTrue h => simp [h]
  case isFalse h => simp [h]

theorem satisfied_zero_iff (p : LinearProgram F) (x : List F) :
    p.Satisfied x 0 ↔ x.length = p.dimension ∧ (∀ y ∈ x, 0 ≤ y) ∧
      ∀ c ∈ p.constraints, c.Holds x 0 := by
  unfold Satisfied
  simp only [neg_zero, not_lt]

variable [IsStrictOrderedRing F]

/-- A point and slacks satisfy the standard form exactly when the point satisfies the
problem and the slacks take up the rooms of its inequalities. -/
theorem satisfied_standardForm_iff (p : LinearProgram F) {x : List F}
    (hx : x.length = p.dimension) (s : List F) :
    p.standardForm.Satisfied (x ++ s) 0 ↔ p.Satisfied x 0 ∧ s = p.slacksAt x := by
  have hlengths : ∀ c ∈ p.constraints, c.coefficients.length = x.length := fun c hc =>
    (p.rectangular c hc).trans hx.symm
  rw [satisfied_zero_iff, satisfied_zero_iff, List.length_append, dimension_standardForm, hx,
    Nat.add_left_cancel_iff, List.forall_mem_append]
  constructor
  · rintro ⟨hlength, ⟨hx0, hs0⟩, hequations⟩
    have hiff := Constraint.forall_holds_equations_iff hlengths hs0 0
      (by rw [hlength, Nat.zero_add]; rfl)
    rw [hlength, List.drop_zero] at hiff
    obtain ⟨hholds, hs⟩ := hiff.mp hequations
    exact ⟨⟨rfl, hx0, hholds⟩, hs⟩
  · rintro ⟨⟨-, hx0, hholds⟩, rfl⟩
    have hs0 := Constraint.rooms_nonneg p.constraints x
    have hiff := Constraint.forall_holds_equations_iff hlengths hs0 0
      (by rw [Constraint.length_rooms, Nat.zero_add])
    refine ⟨p.length_slacksAt x, ⟨hx0, hs0⟩, ?_⟩
    rw [Constraint.length_rooms] at hiff
    exact hiff.mpr ⟨hholds, List.drop_zero⟩

/-- **The standard form means the same.** A problem may maximize or minimize, under any
constraints whose bounds have any sign. A point satisfies it exactly when slacks, one for each
inequality, continue the point to one that satisfies the standard form. No other slacks do so
than the rooms of the inequalities, and whatever the slacks are, the two objectives are the
same number up to the sign of a problem that minimizes. -/
theorem standardForm_equivalent (p : LinearProgram F)
    (hobjective : p.objective.length = p.dimension) {x : List F}
    (hx : x.length = p.dimension) :
    (p.Satisfied x 0 ↔
      ∃ s, s.length = p.inequalities ∧ p.standardForm.Satisfied (x ++ s) 0) ∧
    (∀ s, p.standardForm.Satisfied (x ++ s) 0 → s = p.slacksAt x) ∧
    ∀ s, s.length = p.inequalities → ∃ value, p.evaluate x = .ok value ∧
      p.standardForm.evaluate (x ++ s) = .ok (match p.direction with
        | .maximize => value
        | .minimize => -value) := by
  have hiff := p.satisfied_standardForm_iff hx
  refine ⟨?_, fun s hs => ((hiff s).mp hs).2, ?_⟩
  · constructor
    · intro h
      exact ⟨p.slacksAt x, p.length_slacksAt x, (hiff _).mpr ⟨h, rfl⟩⟩
    · rintro ⟨s, -, hs⟩
      exact ((hiff s).mp hs).1
  · intro s hs
    have hlength : (x ++ s).length = p.standardForm.dimension := by
      rw [List.length_append, dimension_standardForm, hx, hs]
    have hcosts := p.objectiveAt_standardForm (hobjective.trans hx.symm) s
    exact ⟨p.objectiveAt x, p.evaluate_eq_ok_iff.mpr ⟨hx, rfl⟩,
      p.standardForm.evaluate_eq_ok_iff.mpr ⟨hlength, hcosts⟩⟩

end LinearProgram

/-- A problem that minimizes, with an equation, and with inequalities of both kinds on either
side of zero. -/
def everyKind : LinearProgram ℚ where
  direction := .minimize
  objective := [1, -2]
  constraints := [⟨[2, -2], .atMost, -1⟩, ⟨[1, 1], .equal, 3⟩, ⟨[0, 1], .atLeast, 0⟩,
    ⟨[-1, 0], .atLeast, -4⟩]
  dimension := 2
  rectangular := by decide

theorem standardForm_equivalent_everyKind :
    everyKind.objective.length = everyKind.dimension ∧ everyKind.Satisfied [1, 2] 0 ∧
      everyKind.inequalities = 3 ∧ everyKind.standardForm.Satisfied [1, 2, 1, 2, 3] 0 ∧
      (∀ s, everyKind.standardForm.Satisfied ([1, 2] ++ s) 0 → s = [1, 2, 3]) ∧
      everyKind.evaluate [1, 2] = .ok (-3) ∧
      everyKind.standardForm.evaluate [1, 2, 1, 2, 3] = .ok 3 := by
  obtain ⟨hiff, hslacks, hvalue⟩ :=
    everyKind.standardForm_equivalent rfl (x := [1, 2]) rfl
  have hsatisfied : everyKind.Satisfied [1, 2] 0 := by decide +kernel
  have hrooms : everyKind.slacksAt [1, 2] = [1, 2, 3] := by decide +kernel
  have heval : everyKind.evaluate [1, 2] = .ok (-3) := by decide +kernel
  rw [hrooms] at hslacks
  obtain ⟨s, -, hs⟩ := hiff.mp hsatisfied
  obtain rfl := hslacks s hs
  obtain ⟨value, hv, hstandard⟩ := hvalue [1, 2, 3] (by decide +kernel)
  rw [heval] at hv
  cases hv
  exact ⟨rfl, hsatisfied, by decide +kernel, hs, hslacks, heval, hstandard⟩

end LinearProgramming
