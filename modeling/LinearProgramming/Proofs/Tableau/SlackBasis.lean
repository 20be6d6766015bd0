import LinearProgramming.Proofs.Problem.StandardForm
import LinearProgramming.Proofs.Tableau.Initial

/-!
# The slacks as a basis

The last variables of a standard form are taken for a basis, one for each row: after the
slacks of all inequalities these are as many of the variables before them as there are
equations. Which rows the slacks belong to depends on where the inequalities stand. The
tableau of this basis is canonical exactly if the equations come first, every inequality
becomes an upper bound once its bound is not negative, and the columns that serve the
equations are unit vectors.
-/

namespace LinearProgramming

namespace Constraint

variable {F : Type} [Scalar F]

/-- The count of the inequalities before a row, which is where the slack of the row stands. -/
def slacksBefore (cs : List (Constraint F)) (i : Nat) : Nat :=
  (cs.take i).countP fun c => c.relation.needsSlack

theorem getElem?_equations (slacks place : Nat) (cs : List (Constraint F)) (i : Nat) :
    (equations slacks place cs)[i]? =
      cs[i]?.map fun c => c.equation slacks (place + slacksBefore cs i) := by
  induction cs generalizing place i with
  | nil => simp [equations]
  | cons c cs ih =>
    cases i with
    | zero => simp [equations, slacksBefore]
    | succ i =>
      have hcount : slacksBefore (c :: cs) (i + 1) =
          slacksBefore cs i + if c.relation.needsSlack then 1 else 0 := by
        rw [slacksBefore, List.take_succ_cons, List.countP_cons]
        rfl
      rw [equations, List.getElem?_cons_succ, ih, List.getElem?_cons_succ, hcount]
      congr 2
      funext d
      congr 1
      split <;> omega

omit [Scalar F] in
theorem countP_equal_add_countP_needsSlack (cs : List (Constraint F)) :
    cs.countP (fun c => c.relation = .equal) + cs.countP (fun c => c.relation.needsSlack) =
      cs.length := by
  rw [List.length_eq_countP_add_countP fun c => c.relation = .equal]
  congr 1
  refine List.countP_congr fun c _ => ?_
  cases c.relation <;> simp [Relation.needsSlack]

omit [Scalar F] in
/-- All equations stand before a row exactly if the row is as far down as there are equations
and inequalities before it. -/
theorem eq_countP_add_slacksBefore_iff {cs : List (Constraint F)} {i : Nat} (hi : i ≤ cs.length) :
    i = cs.countP (fun c => c.relation = .equal) + slacksBefore cs i ↔
      ∀ c ∈ cs.drop i, c.relation ≠ .equal := by
  have hbefore := countP_equal_add_countP_needsSlack (cs.take i)
  have hsplit : cs.countP (fun c => c.relation = .equal) =
      (cs.take i).countP (fun c => c.relation = .equal) +
        (cs.drop i).countP (fun c => c.relation = .equal) := by
    rw [← List.countP_append, List.take_append_drop]
  have hnone : (cs.drop i).countP (fun c => c.relation = .equal) = 0 ↔
      ∀ c ∈ cs.drop i, c.relation ≠ .equal := by
    simp [List.countP_eq_zero]
  rw [List.length_take_of_le hi] at hbefore
  rw [← hnone, slacksBefore]
  omega

omit [Scalar F] in
theorem slacksBefore_lt {cs : List (Constraint F)} {i : Nat} (hi : i < cs.length)
    (hneeds : cs[i].relation.needsSlack = true) :
    slacksBefore cs i < cs.countP fun c => c.relation.needsSlack := by
  have hnext : slacksBefore cs (i + 1) = slacksBefore cs i + 1 := by
    unfold slacksBefore
    rw [List.take_succ_eq_append_getElem hi, List.countP_append, List.countP_singleton,
      if_pos hneeds]
  have hle : slacksBefore cs (i + 1) ≤ cs.countP fun c => c.relation.needsSlack :=
    (List.take_sublist _ _).countP_le
  omega

theorem getElem?_slackRow {slacks s : Nat} (hs : s < slacks) (place : Nat)
    (relation : Relation) : (slackRow F slacks place relation)[s]? =
      some (if s = place then (relation.slackCoefficient : Option F).getD 0 else 0) := by
  unfold slackRow
  cases hcoefficient : (relation.slackCoefficient : Option F) with
  | none => simp [hs]
  | some coefficient =>
    dsimp only
    by_cases h : s = place
    · subst h
      simp [hs]
    · rw [if_neg h, List.getElem?_set_ne (Ne.symm h), List.getElem?_replicate_of_lt hs]

theorem getElem?_equation_of_lt {c : Constraint F} {j : Nat} (h : j < c.coefficients.length)
    (slacks place : Nat) :
    (c.equation slacks place).coefficients[j]? = c.oriented.coefficients[j]? := by
  rw [equation, List.getElem?_append_left (by rwa [length_oriented])]

theorem getElem?_equation_slack (c : Constraint F) {slacks s : Nat} (hs : s < slacks)
    (place : Nat) :
    (c.equation slacks place).coefficients[c.coefficients.length + s]? =
      some (if s = place then (c.oriented.relation.slackCoefficient : Option F).getD 0 else 0) := by
  rw [equation, List.getElem?_append_right (by simp), length_oriented, Nat.add_sub_cancel_left,
    getElem?_slackRow hs]

section Exact

variable {F : Type} [Field F] [LinearOrder F] [IsStrictOrderedRing F]

omit [IsStrictOrderedRing F] in
theorem slackCoefficient_oriented_of_equal {c : Constraint F} (h : c.relation = .equal) :
    (c.oriented.relation.slackCoefficient : Option F) = none := by
  unfold oriented
  split
  case isTrue => rw [h]; rfl
  case isFalse => rw [h]; rfl

/-- The slack of an inequality has coefficient one or minus one. -/
theorem slackCoefficient_oriented {c : Constraint F} (h : c.relation ≠ .equal) :
    ((c.oriented.relation.slackCoefficient : Option F).getD 0 ≠ 0) ∧
      ((c.oriented.relation.slackCoefficient : Option F).getD 0 = 1 ↔
        c.relation = .atMost ∧ 0 ≤ c.bound ∨ c.relation = .atLeast ∧ c.bound < 0) := by
  have hne : (-1 : F) ≠ 1 := by norm_num
  unfold oriented
  cases hrelation : c.relation with
  | equal => exact absurd hrelation h
  | atMost =>
    by_cases hbound : c.bound < 0
    · simp [hbound, Relation.flipped, Relation.slackCoefficient, hne, hbound.not_ge]
    · simp [hbound, hrelation, Relation.slackCoefficient, not_lt.mp hbound]
  | atLeast =>
    by_cases hbound : c.bound < 0
    · simp [hbound, Relation.flipped, Relation.slackCoefficient]
    · simp [hbound, hrelation, Relation.slackCoefficient, hne]

end Exact

end Constraint

namespace LinearProgram

variable {F : Type}

/-- Whether every constraint has an upper bound once its bound is not negative. -/
def HasUpperBounds [Scalar F] (p : LinearProgram F) : Prop :=
  ∀ c ∈ p.constraints, c.relation = .atMost ∧ 0 ≤ c.bound ∨ c.relation = .atLeast ∧ c.bound < 0

instance [Scalar F] (p : LinearProgram F) : Decidable p.HasUpperBounds := by
  unfold HasUpperBounds
  infer_instance

theorem basis_of_slackBasis {p : LinearProgram F} {start : BasicSolution F}
    (h : p.slackBasis = .ok start) :
    p.constraints.length ≤ p.dimension ∧
      start.basis =
        List.range' (p.dimension - p.constraints.length) p.constraints.length := by
  unfold slackBasis at h
  split at h
  case isTrue => cases h
  case isFalse hle =>
    cases h
    exact ⟨not_lt.mp hle, rfl⟩

theorem exists_slackBasis {p : LinearProgram F} (h : p.constraints.length ≤ p.dimension) :
    ∃ start, p.slackBasis = .ok start ∧ start.values = p.bounds ∧
      start.dimension = p.dimension := by
  unfold slackBasis
  rw [dif_neg h.not_gt]
  exact ⟨_, rfl, rfl, rfl⟩

theorem count_equal_add_inequalities (p : LinearProgram F) :
    p.count .equal + p.inequalities = p.constraints.length :=
  Constraint.countP_equal_add_countP_needsSlack p.constraints

/-- Whether no inequality stands before an equation. -/
def EquationsLead (p : LinearProgram F) : Prop :=
  p.constraints.Pairwise fun c d => d.relation = .equal → c.relation = .equal

/-- Whether every inequality has an upper bound once its bound is not negative. -/
def HasUpperSlacks [Scalar F] (p : LinearProgram F) : Prop :=
  ∀ c ∈ p.constraints, c.relation ≠ .equal →
    c.relation = .atMost ∧ 0 ≤ c.bound ∨ c.relation = .atLeast ∧ c.bound < 0

/-- Whether the last columns, as many as there are equations and with the rows of negative
bounds negated, are the identity matrix above zeros. -/
def EndsInIdentity [Scalar F] (p : LinearProgram F) : Prop :=
  ∀ (i : Fin p.constraints.length) (k : Fin (p.count .equal)),
    (p.constraints.get i).oriented.coefficients[p.dimension - p.count .equal + k.val]? =
      some (if i.val = k.val then 1 else 0)

instance (p : LinearProgram F) : Decidable p.EquationsLead := by
  unfold EquationsLead
  infer_instance

instance [Scalar F] (p : LinearProgram F) : Decidable p.HasUpperSlacks := by
  unfold HasUpperSlacks
  infer_instance

instance [Scalar F] [DecidableEq F] (p : LinearProgram F) : Decidable p.EndsInIdentity := by
  unfold EndsInIdentity
  infer_instance

theorem equationsLead_iff (p : LinearProgram F) :
    p.EquationsLead ↔ ∀ (i : Nat) (hi : i < p.constraints.length),
      p.constraints[i].relation ≠ .equal →
        i = p.count .equal + Constraint.slacksBefore p.constraints i := by
  unfold EquationsLead count
  rw [List.pairwise_iff_getElem]
  constructor
  · intro h i hi hne
    rw [Constraint.eq_countP_add_slacksBefore_iff hi.le]
    intro d hd heq
    obtain ⟨j, hj, rfl⟩ := List.mem_drop_iff_getElem.mp hd
    rcases Nat.eq_zero_or_pos j with rfl | hpos
    · exact hne heq
    · exact hne (h i (i + j) hi (by omega) (by omega) heq)
  · intro h i j hi hj hlt heq
    by_contra hne
    have hall := (Constraint.eq_countP_add_slacksBefore_iff hi.le).mp (h i hi hne)
    refine hall p.constraints[j] (List.mem_drop_iff_getElem.mpr ⟨j - i, by omega, ?_⟩) heq
    congr 1
    omega

/-- Where the equations lead, they have the first rows. -/
theorem EquationsLead.lt_count {p : LinearProgram F} (h : p.EquationsLead) {i : Nat}
    (hi : i < p.constraints.length) (heq : p.constraints[i].relation = .equal) :
    i < p.count .equal := by
  have hall : (p.constraints.take (i + 1)).countP (fun c => c.relation = .equal) =
      (p.constraints.take (i + 1)).length := by
    rw [List.countP_eq_length]
    intro c hc
    obtain ⟨j, hj, rfl⟩ := List.mem_take_iff_getElem.mp hc
    rw [decide_eq_true_iff]
    rcases Nat.lt_or_ge j i with hlt | hge
    · exact List.pairwise_iff_getElem.mp h j i (by omega) hi hlt heq
    · obtain rfl : j = i := by omega
      exact heq
  have hle : (p.constraints.take (i + 1)).countP (fun c => c.relation = .equal) ≤
      p.count .equal := (List.take_sublist _ _).countP_le
  rw [hall, List.length_take_of_le hi] at hle
  exact hle

section Exact

variable [Field F] [LinearOrder F] [IsStrictOrderedRing F]

/-- The columns of the slacks are unit vectors, each in the row that follows those of the
equations and of the slacks before it. -/
theorem slackColumns_iff {p : LinearProgram F} :
    (∀ s < p.inequalities, ∀ (i : Nat) (hi : i < p.constraints.length),
      (if s = Constraint.slacksBefore p.constraints i
        then (p.constraints[i].oriented.relation.slackCoefficient : Option F).getD 0 else 0) =
        if i = p.count .equal + s then 1 else 0) ↔ p.EquationsLead ∧ p.HasUpperSlacks := by
  constructor
  · intro h
    have hown (i : Nat) (hi : i < p.constraints.length) (hne : p.constraints[i].relation ≠ .equal) :
        i = p.count .equal + Constraint.slacksBefore p.constraints i ∧
          (p.constraints[i].oriented.relation.slackCoefficient : Option F).getD 0 = 1 := by
      have hneeds : p.constraints[i].relation.needsSlack = true := by
        cases hrelation : p.constraints[i].relation with
        | equal => exact absurd hrelation hne
        | atMost => rfl
        | atLeast => rfl
      have hentry := h _ (Constraint.slacksBefore_lt hi hneeds) i hi
      rw [if_pos rfl] at hentry
      by_cases hrow : i = p.count .equal + Constraint.slacksBefore p.constraints i
      · rw [if_pos hrow] at hentry
        exact ⟨hrow, hentry⟩
      · rw [if_neg hrow] at hentry
        exact absurd hentry (Constraint.slackCoefficient_oriented hne).1
    refine ⟨p.equationsLead_iff.mpr fun i hi hne => (hown i hi hne).1, fun c hc hne => ?_⟩
    obtain ⟨i, hi, rfl⟩ := List.mem_iff_getElem.mp hc
    exact (Constraint.slackCoefficient_oriented hne).2.mp (hown i hi hne).2
  · rintro ⟨hlead, hupper⟩ s hs i hi
    by_cases heq : p.constraints[i].relation = .equal
    · have hlt := hlead.lt_count hi heq
      rw [Constraint.slackCoefficient_oriented_of_equal heq, Option.getD_none, ite_self,
        if_neg (by omega)]
    · have hrow := p.equationsLead_iff.mp hlead i hi heq
      have hone :=
        (Constraint.slackCoefficient_oriented heq).2.mpr (hupper _ (List.getElem_mem hi) heq)
      rw [hone]
      exact if_congr (by omega) rfl rfl

omit [IsStrictOrderedRing F] in
/-- The basic columns of the slack basis are the last columns of the equations. -/
theorem isExactlyCanonical_iff_equations {p : LinearProgram F} {start : BasicSolution F}
    (hstart : p.standardForm.slackBasis = .ok start) {epsilon : F}
    {t : Tableau F p.standardForm.constraints.length p.standardForm.dimension}
    (ht : p.standardForm.IsFirstTableau start epsilon t) :
    t.IsExactlyCanonical ↔ ∀ j < p.constraints.length,
      ∀ (i : Nat) (hi : i < p.constraints.length),
        (p.constraints[i].equation p.inequalities
          (Constraint.slacksBefore p.constraints i)).coefficients[
            p.dimension - p.count .equal + j]? = some (if i = j then 1 else 0) := by
  have hlength := p.length_constraints_standardForm
  have hcount := p.count_equal_add_inequalities
  obtain ⟨hle, hbasis⟩ := basis_of_slackBasis hstart
  rw [hlength, dimension_standardForm] at hle hbasis
  have hentry (j i : Fin p.standardForm.constraints.length) (hi : i.val < p.constraints.length) :
      (p.constraints[i.val].equation p.inequalities
        (Constraint.slacksBefore p.constraints i)).coefficients[
          p.dimension - p.count .equal + j.val]? = some (t.entry i (t.basic j)) := by
    have hj : j.val < p.constraints.length := hlength ▸ j.isLt
    have hbasic := ht.getElem?_basis j
    rw [hbasis, List.getElem?_range' hj, Nat.one_mul] at hbasic
    have hcolumn : (t.basic j).val = p.dimension - p.count .equal + j.val := by
      have hfirst := Option.some.inj hbasic
      omega
    have hrow := Constraint.getElem?_equations p.inequalities 0 p.constraints i.val
    rw [List.getElem?_eq_getElem hi, Option.map_some, Nat.zero_add] at hrow
    have hget : p.standardForm.constraints.get i = _ :=
      Option.some.inj ((List.getElem?_eq_getElem i.isLt).symm.trans hrow)
    rw [← ht.getElem?_row i (t.basic j), hget, hcolumn]
  constructor
  · intro hc j hj i hi
    have hunit := hc ⟨j, hlength ▸ hj⟩ ⟨i, hlength ▸ hi⟩
    rw [hentry ⟨j, hlength ▸ hj⟩ ⟨i, hlength ▸ hi⟩ hi, hunit]
    simp
  · intro h j i
    have hi : i.val < p.constraints.length := hlength ▸ i.isLt
    have hunit := h j (hlength ▸ j.isLt) i hi
    rw [hentry j i hi] at hunit
    rw [Option.some.inj hunit]
    exact if_congr Fin.ext_iff.symm rfl rfl

/-- The columns that serve the equations are those before the slacks, and the others are the
slacks. -/
theorem isExactlyCanonical_iff_of_slackBasis {p : LinearProgram F} {start : BasicSolution F}
    (hstart : p.standardForm.slackBasis = .ok start) {epsilon : F}
    {t : Tableau F p.standardForm.constraints.length p.standardForm.dimension}
    (ht : p.standardForm.IsFirstTableau start epsilon t) :
    t.IsExactlyCanonical ↔ p.EquationsLead ∧ p.HasUpperSlacks ∧ p.EndsInIdentity := by
  have hcount := p.count_equal_add_inequalities
  have hle : p.count .equal ≤ p.dimension := by
    have hdimension := (basis_of_slackBasis hstart).1
    rw [length_constraints_standardForm, dimension_standardForm] at hdimension
    omega
  have hwidth (i : Nat) (hi : i < p.constraints.length) :
      p.constraints[i].coefficients.length = p.dimension := p.rectangular _ (List.getElem_mem hi)
  rw [isExactlyCanonical_iff_equations hstart ht, ← and_assoc, ← slackColumns_iff]
  constructor
  · intro h
    constructor
    · intro s hs i hi
      have hunit := h (p.count .equal + s) (by omega) i hi
      rw [← Nat.add_assoc, Nat.sub_add_cancel hle, ← hwidth i hi,
        Constraint.getElem?_equation_slack _ hs] at hunit
      exact Option.some.inj hunit
    · intro i k
      have hunit := h k (by omega) i i.isLt
      rwa [Constraint.getElem?_equation_of_lt (by rw [hwidth i i.isLt]; omega)] at hunit
  · rintro ⟨hslacks, hidentity⟩ j hj i hi
    rcases Nat.lt_or_ge j (p.count .equal) with hlt | hge
    · rw [Constraint.getElem?_equation_of_lt (by rw [hwidth i hi]; omega)]
      exact hidentity ⟨i, hi⟩ ⟨j, hlt⟩
    · obtain ⟨s, rfl⟩ := Nat.exists_eq_add_of_le hge
      have hs : s < p.inequalities := by omega
      rw [← Nat.add_assoc, Nat.sub_add_cancel hle, ← hwidth i hi,
        Constraint.getElem?_equation_slack _ hs]
      exact congrArg some (hslacks s hs i hi)

/-- Without equations and with upper bounds only, the slacks are a canonical basis. -/
theorem isExactlyCanonical_of_slackBasis {p : LinearProgram F} (h : p.HasUpperBounds)
    {start : BasicSolution F} (hstart : p.standardForm.slackBasis = .ok start) {epsilon : F}
    {t : Tableau F p.standardForm.constraints.length p.standardForm.dimension}
    (ht : p.standardForm.IsFirstTableau start epsilon t) : t.IsExactlyCanonical := by
  have hne : ∀ c ∈ p.constraints, c.relation ≠ .equal := by
    intro c hc heq
    rcases h c hc with ⟨hrelation, -⟩ | ⟨hrelation, -⟩ <;> rw [hrelation] at heq <;> cases heq
  have hcount : p.count .equal = 0 := by
    rw [count, List.countP_eq_zero]
    simpa using hne
  refine (isExactlyCanonical_iff_of_slackBasis hstart ht).mpr
    ⟨?_, fun c hc _ => h c hc, fun _ k => ?_⟩
  · exact List.pairwise_iff_getElem.mpr fun i j hi hj _ heq =>
      absurd heq (hne _ (List.getElem_mem hj))
  · exact absurd k.isLt (by omega)

end Exact

end LinearProgram

end LinearProgramming
