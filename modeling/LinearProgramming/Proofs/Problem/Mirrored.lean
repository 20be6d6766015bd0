import LinearProgramming.Proofs.Problem.StandardForm

/-!
# Constraints with both sides negated

A constraint may be written with both sides negated, and its relation turned around. This does
not change what it says, so a problem keeps its solutions when some of its constraints are
written the other way. It also keeps its standard form, which writes every constraint with a
bound that is not negative, as long as none of the bounds is zero: a bound of zero is not
negative either way, and then the standard form keeps the constraint as it is written.
-/

namespace LinearProgramming

variable {F : Type} [Field F]

namespace Constraint

theorem length_mirrored (c : Constraint F) :
    c.mirrored.coefficients.length = c.coefficients.length :=
  List.length_map _

theorem mirrored_mirrored (c : Constraint F) : c.mirrored.mirrored = c := by
  have hneg : (Neg.neg ∘ Neg.neg : F → F) = id := funext neg_neg
  simp only [mirrored, List.map_map, hneg, List.map_id, Relation.flipped_flipped, neg_neg]

variable [LinearOrder F]

/-- The equations depend on some constraints only through how these are written with bounds
that are not negative. -/
theorem equations_congr {cs cs' : List (Constraint F)} (h : cs.map oriented = cs'.map oriented)
    (slacks place : Nat) : equations slacks place cs = equations slacks place cs' := by
  induction cs generalizing cs' place with
  | nil =>
    obtain rfl : cs' = [] := List.map_eq_nil_iff.mp h.symm
    rfl
  | cons c cs ih =>
    cases cs' with
    | nil => cases h
    | cons c' cs' =>
      rw [List.map_cons, List.map_cons, List.cons.injEq] at h
      obtain ⟨hc, hcs⟩ := h
      have hslack : c.relation.needsSlack = c'.relation.needsSlack := by
        rw [← needsSlack_oriented c, hc, needsSlack_oriented]
      have hequation : c.equation slacks place = c'.equation slacks place := by
        unfold equation
        rw [hc]
      rw [equations, equations, hequation, hslack, ih hcs]

/-- The standard form takes the same of the two ways to write a constraint, whichever it is
given. -/
theorem oriented_mirrored [IsStrictOrderedRing F] {c : Constraint F} (h : c.bound ≠ 0) :
    c.mirrored.oriented = c.oriented := by
  rcases lt_or_gt_of_ne h with hneg | hpos
  · have hbound : 0 ≤ c.mirrored.bound := neg_nonneg.mpr hneg.le
    rw [oriented_of_bound_neg hneg, oriented_of_bound_nonneg hbound]
  · have hbound : c.mirrored.bound < 0 := neg_neg_of_pos hpos
    rw [oriented_of_bound_nonneg hpos.le, oriented_of_bound_neg hbound, mirrored_mirrored]

end Constraint

namespace LinearProgram

/-- The problem with both sides of some constraints negated, which are given by their
positions. -/
def mirrored (p : LinearProgram F) (chosen : Finset Nat) : LinearProgram F where
  direction := p.direction
  objective := p.objective
  constraints := p.constraints.mapIdx fun i c => if i ∈ chosen then c.mirrored else c
  dimension := p.dimension
  rectangular := by
    intro c hc
    obtain ⟨i, hi, rfl⟩ := List.mem_mapIdx.mp hc
    have hlength := p.rectangular _ (List.getElem_mem hi)
    split
    · rw [Constraint.length_mirrored, hlength]
    · exact hlength

theorem length_constraints_mirrored (p : LinearProgram F) (chosen : Finset Nat) :
    (p.mirrored chosen).constraints.length = p.constraints.length :=
  List.length_mapIdx

theorem getElem_constraints_mirrored (p : LinearProgram F) (chosen : Finset Nat) {i : Nat}
    (hi : i < p.constraints.length)
    (hi' : i < (p.mirrored chosen).constraints.length) :
    (p.mirrored chosen).constraints[i] =
      if i ∈ chosen then p.constraints[i].mirrored else p.constraints[i] :=
  List.getElem_mapIdx

theorem isEmpty_mirrored (p : LinearProgram F) (chosen : Finset Nat) :
    (p.mirrored chosen).isEmpty = p.isEmpty := by
  have hconstraints : (p.mirrored chosen).constraints.isEmpty = p.constraints.isEmpty := by
    rw [Bool.eq_iff_iff, List.isEmpty_iff_length_eq_zero, List.isEmpty_iff_length_eq_zero,
      length_constraints_mirrored]
  exact congrArg (p.objective.isEmpty || ·) hconstraints

variable [LinearOrder F]

theorem inequalities_eq_countP_oriented (p : LinearProgram F) :
    p.inequalities =
      (p.constraints.map Constraint.oriented).countP fun c => c.relation.needsSlack := by
  rw [List.countP_map]
  exact List.countP_congr fun c _ => by rw [Function.comp, Constraint.needsSlack_oriented]

/-- Problems have the same standard form if they differ at most in how their constraints are
written. -/
theorem standardForm_congr {p q : LinearProgram F} (hdirection : p.direction = q.direction)
    (hobjective : p.objective = q.objective) (hdimension : p.dimension = q.dimension)
    (hconstraints : p.constraints.map Constraint.oriented =
      q.constraints.map Constraint.oriented) : p.standardForm = q.standardForm := by
  have hslacks : p.inequalities = q.inequalities := by
    rw [inequalities_eq_countP_oriented, hconstraints, ← inequalities_eq_countP_oriented]
  have hcosts : p.costs = q.costs := by
    unfold costs
    rw [hdirection, hobjective]
  simp only [standardForm, mk.injEq, true_and]
  rw [hcosts, hslacks, hdimension, Constraint.equations_congr hconstraints]
  exact ⟨rfl, rfl, rfl⟩

variable [IsStrictOrderedRing F]

/-- Whichever constraints are written the other way, the same points satisfy the problem. -/
theorem satisfied_mirrored_iff (p : LinearProgram F) (chosen : Finset Nat) (x : List F) :
    (p.mirrored chosen).Satisfied x 0 ↔ p.Satisfied x 0 := by
  have hlength := p.length_constraints_mirrored chosen
  have hpoint (i : Nat) (hi : i < p.constraints.length)
      (hi' : i < (p.mirrored chosen).constraints.length) :
      ((p.mirrored chosen).constraints[i]).Holds x 0 ↔ p.constraints[i].Holds x 0 := by
    rw [getElem_constraints_mirrored p chosen hi hi']
    split
    · exact Constraint.holds_mirrored_iff _ x 0
    · rfl
  have hholds : (∀ c ∈ (p.mirrored chosen).constraints, c.Holds x 0) ↔
      ∀ c ∈ p.constraints, c.Holds x 0 := by
    rw [List.forall_mem_iff_forall_getElem, List.forall_mem_iff_forall_getElem]
    exact ⟨fun h i hi => (hpoint i hi _).mp (h i (hlength ▸ hi)),
      fun h i hi => (hpoint i (hlength ▸ hi) hi).mpr (h i _)⟩
  rw [satisfied_zero_iff, satisfied_zero_iff, hholds]
  rfl

theorem standardForm_mirrored {p : LinearProgram F} {chosen : Finset Nat}
    (h : ∀ i ∈ chosen, ∀ c, p.constraints[i]? = some c → c.bound ≠ 0) :
    (p.mirrored chosen).standardForm = p.standardForm := by
  have hlength := p.length_constraints_mirrored chosen
  refine standardForm_congr rfl rfl rfl (List.ext_getElem (by simpa using hlength) ?_)
  intro i hi hi'
  rw [List.getElem_map, List.getElem_map, getElem_constraints_mirrored]
  split
  case isTrue hmem =>
    exact Constraint.oriented_mirrored (h i hmem _ (List.getElem?_eq_getElem _))
  case isFalse => rfl

end LinearProgram

end LinearProgramming
