import LinearProgramming.ProblemFile.Import
import LinearProgramming.Proofs.Results
import Mathlib.Logic.Basic

/-!
# Stated problems

A problem is stated from its parts or by a text. Either way the parts are kept as they are
given, and the objective of a problem that is not empty has a cost for every variable.
-/

namespace LinearProgramming

namespace LinearProgram

variable {F : Type} {direction : Direction} {objective : List F}
  {constraints : List (Constraint F)} {p : LinearProgram F}

theorem withDimension?_eq_ok_iff {dimension : Nat} :
    withDimension? direction objective constraints dimension = .ok p ↔
      p.direction = direction ∧ p.objective = objective ∧ p.constraints = constraints ∧
        p.dimension = dimension ∧ (objective = [] ∨ objective.length = dimension) := by
  constructor
  · intro h
    unfold withDimension? at h
    split at h
    case isTrue => cases h
    case isFalse hlength =>
      split at h
      case h_1 => cases h
      case h_2 =>
        cases h
        refine ⟨rfl, rfl, rfl, rfl, ?_⟩
        rwa [not_and_or, not_not, not_not] at hlength
  · rintro ⟨rfl, rfl, rfl, rfl, hlength⟩
    unfold withDimension?
    rw [if_neg (by rwa [not_and_or, not_not, not_not])]
    split
    case h_1 c index hfound =>
      have hmem := List.mem_of_find?_eq_some hfound
      have hwrong := List.find?_some hfound
      have hc := p.rectangular c (List.fst_mem_of_mem_zipIdx hmem)
      exact absurd hc (by simpa using hwrong)
    case h_2 => rfl

theorem new?_eq_ok_iff :
    new? direction objective constraints = .ok p ↔
      p.direction = direction ∧ p.objective = objective ∧ p.constraints = constraints ∧
        p.dimension = objective.length := by
  unfold new?
  rw [withDimension?_eq_ok_iff]
  simp

theorem new?_eq_error_iff {error : ShapeError} :
    new? direction objective constraints = .error error ↔ ∃ before c,
      FirstFailure (fun c : Constraint F => c.coefficients.length = objective.length) constraints
        before c ∧
      error = .constraint before.length c.coefficients.length objective.length := by
  have hfind {c : Constraint F} {index : Nat} := find?_zipIdx_eq_some_iff
    (fun c : Constraint F => c.coefficients.length = objective.length) (l := constraints)
    (a := c) (i := index)
  unfold new? withDimension?
  rw [if_neg (by simp)]
  split
  case h_1 c index hfound =>
    constructor
    · intro h
      cases h
      obtain ⟨before, hfirst, rfl⟩ := hfind.mp hfound
      exact ⟨before, c, hfirst, rfl⟩
    · rintro ⟨before, c', hfirst, rfl⟩
      rw [hfind.mpr ⟨before, hfirst, rfl⟩] at hfound
      cases hfound
      rfl
  case h_2 hnone =>
    constructor
    · exact nofun
    · rintro ⟨before, c, hfirst, -⟩
      rw [hfind.mpr ⟨before, hfirst, rfl⟩] at hnone
      cases hnone

/-- Whether a problem is one that can be stated: from its parts, with a given count of
variables or that of the costs, or by a text. -/
inductive IsStated (p : LinearProgram F) : Prop where
  | new {direction : Direction} {objective : List F} {constraints : List (Constraint F)}
      (h : new? direction objective constraints = .ok p)
  | withDimension {direction : Direction} {objective : List F}
      {constraints : List (Constraint F)} {dimension : Nat}
      (h : withDimension? direction objective constraints dimension = .ok p)
  | parsed [Readable F] {text : String} (h : ProblemFile.parse text = .ok p)

end LinearProgram

namespace ProblemFile

variable {F : Type} [Readable F]

/-- A text is read as a problem once its lines are read and their lengths fit. -/
theorem parse_eq_ok_iff {text : String} {p : LinearProgram F} :
    parse text = .ok p ↔ ∃ draft : Draft F, Draft.read text.toList = .ok draft ∧
      p.direction = draft.direction ∧ p.objective = draft.objective ∧
        p.constraints = draft.constraints ∧ p.dimension = draft.objective.length := by
  unfold parse
  rw [mapError_eq_ok_iff, read]
  cases Draft.read (F := F) text.toList with
  | error refusal => simp
  | ok draft =>
    dsimp only
    rw [Draft.problem?, mapError_eq_ok_iff, LinearProgram.new?_eq_ok_iff]
    simp

end ProblemFile

namespace LinearProgram

variable {F : Type} {p : LinearProgram F}

theorem IsStated.objective_eq_nil_or (h : p.IsStated) :
    p.objective = [] ∨ p.objective.length = p.dimension := by
  cases h with
  | new h =>
    obtain ⟨-, hobjective, -, hdimension⟩ := new?_eq_ok_iff.mp h
    exact .inr (by rw [hobjective, hdimension])
  | withDimension h =>
    obtain ⟨-, hobjective, -, hdimension, hlength⟩ := withDimension?_eq_ok_iff.mp h
    rwa [hobjective, hdimension]
  | parsed h =>
    obtain ⟨draft, -, -, hobjective, -, hdimension⟩ := ProblemFile.parse_eq_ok_iff.mp h
    exact .inr (by rw [hobjective, hdimension])

theorem IsStated.length_objective (h : p.IsStated) (hp : p.isEmpty = false) :
    p.objective.length = p.dimension := by
  refine h.objective_eq_nil_or.resolve_left fun hnil => ?_
  simp [isEmpty, hnil] at hp

end LinearProgram

end LinearProgramming
