import LinearProgramming.Proofs.Tableau.Elimination

/-!
# Pivots on zero

A call to pivot is refused if the entry is nearer to zero than the tolerance. Without a
tolerance no number is nearer to zero than that, zero included: a pivot on an entry of zero is
then accepted, and it divides by zero. This is the only way in which a call goes wrong. All
others are refused and change nothing, or they turn their column into a unit vector, in any
tableau that calls can lead to.
-/

namespace LinearProgramming

theorem Tableau.entryAt_eq_ok_iff {F : Type} {m n : Nat} {t : Tableau F m n} {row column : Nat}
    {x : F} : t.entryAt row column = .ok x ↔
      ∃ (r : Fin m) (k : Fin n), r.val = row ∧ k.val = column ∧ t.entry r k = x := by
  constructor
  · intro h
    unfold entryAt at h
    split at h
    case isFalse => cases h
    case isTrue hr =>
      split at h
      case isFalse => cases h
      case isTrue hc =>
        cases h
        exact ⟨⟨row, hr⟩, ⟨column, hc⟩, rfl, rfl, rfl⟩
  · rintro ⟨r, k, rfl, rfl, rfl⟩
    simp [entryAt]

/-- Without a tolerance there is no entry that is too close to zero. -/
theorem Tableau.pivotPosition?_of_epsilon_eq_zero {F : Type} [Field F] [LinearOrder F]
    [IsStrictOrderedRing F] {m n : Nat} {t : Tableau F m n} (hε : t.epsilon = 0) (r : Fin m)
    (k : Fin n) : t.pivotPosition? r k = .ok (r, k) := by
  refine pivotPosition?_of_not_lt ?_
  rw [magnitude_eq_abs, hε]
  exact (abs_nonneg _).not_gt

namespace Trail

variable {F : Type} [Field F] [LinearOrder F] {m n : Nat}

/-- The trail after a call that pivots in place, if the call does not divide by zero. Where
there is no entry to pivot on, the trail stays as it is. -/
def attempt? (t : Trail F m n) (position : Nat × Nat) : Option (Trail F m n) :=
  match t.tableau.pivotPosition? position.1 position.2 with
  | .error _ => some t
  | .ok (r, k) => (t.tableau.eliminate? r k).map fun next =>
    { t with
      tableau := next
      history := t.history.add t.recording next.snapshot
      pivots := t.pivots + 1 }

/-- The trail after calls one after the other, if none of them divides by zero. -/
def attempts? (t : Trail F m n) (positions : List (Nat × Nat)) : Option (Trail F m n) :=
  positions.foldlM attempt? t

/-- Whether a call to pivot does what it is for. Either it is refused, and the trail stays as
it is, or it is made without a division by zero, and then the column of the new basic variable
is the unit vector of its row. -/
def PivotsCorrectly (t : Trail F m n) (row column : Nat) : Prop :=
  (t.pivot? row column = .error (.invalidPivot row column) ∧
    t.attempt? (row, column) = some t) ∨
  ∃ (r : Fin m) (k : Fin n) (next : Trail F m n), r.val = row ∧ k.val = column ∧
    t.pivot? row column = .ok next ∧ t.attempt? (row, column) = some next ∧
    next.tableau.basic r = k ∧ ∀ i, next.tableau.entry i k = if i = r then 1 else 0

section Call

variable {t : Trail F m n} {row column : Nat}

theorem attempt?_of_ne {r : Fin m} {k : Fin n}
    (h : t.tableau.pivotPosition? row column = .ok (r, k)) (hp : t.tableau.entry r k ≠ 0) :
    t.attempt? (row, column) = some (t.pivot r k) := by
  simp only [attempt?, h, t.tableau.eliminate?_of_ne hp]
  rfl

theorem attempt?_of_eq_zero {r : Fin m} {k : Fin n}
    (h : t.tableau.pivotPosition? row column = .ok (r, k)) (hp : t.tableau.entry r k = 0) :
    t.attempt? (row, column) = none := by
  simp only [attempt?, h, t.tableau.eliminate?_of_eq_zero hp]
  rfl

/-- All that a call can come to: it is refused, or it is made, or it divides by zero. -/
theorem attempt?_cases (t : Trail F m n) (row column : Nat) :
    (t.tableau.pivotPosition? row column = .error (.invalidPivot row column) ∧
      t.attempt? (row, column) = some t) ∨
    (∃ found, t.tableau.pivotPosition? row column = .ok found ∧
      t.tableau.entry found.1 found.2 ≠ 0 ∧
      t.attempt? (row, column) = some (t.pivot found.1 found.2)) ∨
    ∃ found, t.tableau.pivotPosition? row column = .ok found ∧
      t.tableau.entry found.1 found.2 = 0 ∧ t.attempt? (row, column) = none := by
  cases hfound : t.tableau.pivotPosition? row column with
  | error failure =>
    obtain rfl := Tableau.failure_of_pivotPosition? hfound
    exact .inl ⟨rfl, by simp [attempt?, hfound]⟩
  | ok found =>
    by_cases hp : t.tableau.entry found.1 found.2 = 0
    · exact .inr (.inr ⟨found, rfl, hp, attempt?_of_eq_zero hfound hp⟩)
    · exact .inr (.inl ⟨found, rfl, hp, attempt?_of_ne hfound hp⟩)

theorem attempt?_eq_some {next : Trail F m n} (h : t.attempt? (row, column) = some next) :
    next = t.attempt (row, column) := by
  obtain ⟨hrefused, hstays⟩ | ⟨found, hfound, -, hmade⟩ | ⟨-, -, -, hnone⟩ :=
    t.attempt?_cases row column
  · rw [attempt_of_pivotPosition?_error hrefused]
    exact Option.some.inj (h.symm.trans hstays)
  · rw [attempt_of_pivotPosition?_ok hfound]
    exact Option.some.inj (h.symm.trans hmade)
  · exact absurd (h.symm.trans hnone) (Option.some_ne_none next)

/-- A call fails its purpose only by dividing by zero. -/
theorem pivotsCorrectly_iff : t.PivotsCorrectly row column ↔ t.attempt? (row, column) ≠ none := by
  constructor
  · rintro (⟨-, hstays⟩ | ⟨r, k, next, -, -, -, hnext, -⟩)
    · exact hstays ▸ Option.some_ne_none t
    · exact hnext ▸ Option.some_ne_none next
  · intro h
    obtain ⟨hrefused, hstays⟩ | ⟨found, hfound, hp, hmade⟩ | ⟨-, -, -, hnone⟩ :=
      t.attempt?_cases row column
    · exact .inl ⟨pivot?_of_error hrefused, hstays⟩
    · obtain ⟨hrow, hcolumn, -⟩ := Tableau.pivotPosition?_eq_ok hfound
      have hunit := Tableau.isUnitColumn_pivot_self t.tableau hp
      rw [Tableau.IsUnitColumn, Tableau.basic_pivot_self] at hunit
      exact .inr ⟨found.1, found.2, t.pivot found.1 found.2, hrow, hcolumn,
        pivot?_of_ok hfound, hmade, Tableau.basic_pivot_self _ _ _, hunit⟩
    · exact absurd hnone h

theorem attempt?_eq_none_iff [IsStrictOrderedRing F] (hε : 0 ≤ t.tableau.epsilon) :
    t.attempt? (row, column) = none ↔
      t.tableau.epsilon = 0 ∧ t.tableau.entryAt row column = .ok 0 := by
  constructor
  · intro h
    obtain ⟨-, hstays⟩ | ⟨found, -, -, hmade⟩ | ⟨found, hfound, hp, -⟩ :=
      t.attempt?_cases row column
    · exact absurd (h.symm.trans hstays) (Option.some_ne_none t).symm
    · exact absurd (h.symm.trans hmade) (Option.some_ne_none _).symm
    · obtain ⟨hrow, hcolumn, hlarge⟩ := Tableau.pivotPosition?_eq_ok hfound
      rw [hp, magnitude_eq_abs, abs_zero, not_lt] at hlarge
      exact ⟨hlarge.antisymm hε,
        Tableau.entryAt_eq_ok_iff.mpr ⟨found.1, found.2, hrow, hcolumn, hp⟩⟩
  · rintro ⟨hzero, hentry⟩
    obtain ⟨r, k, rfl, rfl, hp⟩ := Tableau.entryAt_eq_ok_iff.mp hentry
    exact attempt?_of_eq_zero (Tableau.pivotPosition?_of_epsilon_eq_zero hzero r k) hp

end Call

theorem epsilon_attempt (t : Trail F m n) (position : Nat × Nat) :
    (t.attempt position).tableau.epsilon = t.tableau.epsilon := by
  cases hfound : t.tableau.pivotPosition? position.1 position.2 with
  | error failure => rw [attempt_of_pivotPosition?_error hfound]
  | ok found =>
    rw [attempt_of_pivotPosition?_ok hfound]
    rfl

theorem epsilon_attempts (t : Trail F m n) (positions : List (Nat × Nat)) :
    (t.attempts positions).tableau.epsilon = t.tableau.epsilon := by
  induction positions generalizing t with
  | nil => rfl
  | cons position rest ih =>
    rw [attempts_cons, ih, epsilon_attempt]

theorem attempts?_cons (t : Trail F m n) (position : Nat × Nat) (rest : List (Nat × Nat)) :
    t.attempts? (position :: rest) = (t.attempt? position).bind (attempts? · rest) := rfl

theorem attempts?_eq_some {t last : Trail F m n} {positions : List (Nat × Nat)}
    (h : t.attempts? positions = some last) : last = t.attempts positions := by
  induction positions generalizing t with
  | nil => exact (Option.some.inj h).symm
  | cons position rest ih =>
    rw [attempts?_cons] at h
    obtain ⟨next, hnext, hrest⟩ := Option.bind_eq_some_iff.mp h
    rw [ih hrest, attempts_cons, attempt?_eq_some hnext]

variable [IsStrictOrderedRing F]

/-- With a tolerance no call divides by zero, whatever calls there were before. -/
theorem attempts?_of_pos (t : Trail F m n) (hε : 0 < t.tableau.epsilon)
    (positions : List (Nat × Nat)) : t.attempts? positions = some (t.attempts positions) := by
  induction positions generalizing t with
  | nil => rfl
  | cons position rest ih =>
    cases hnext : t.attempt? position with
    | none => exact absurd ((attempt?_eq_none_iff hε.le).mp hnext).1 hε.ne'
    | some next =>
      obtain rfl := attempt?_eq_some hnext
      rw [attempts?_cons, hnext]
      exact ih _ (t.epsilon_attempt position ▸ hε)

/-- **When an accepted pivot is a correct pivot.** In any tableau that calls lead to from the
first one of a problem, a call is refused without a change or makes its column a unit vector,
unless the tolerance and the entry are both zero. A call on such an entry is accepted and
divides by zero. With a tolerance no calls ever do. -/
theorem pivotsCorrectly_unless_zero (p : LinearProgram F) (start : BasicSolution F) {epsilon : F}
    (hε : 0 ≤ epsilon) {first : Trail F p.constraints.length p.dimension}
    (hfirst : p.trail? start epsilon = .ok first) :
    (0 < epsilon → ∀ positions, first.attempts? positions = some (first.attempts positions)) ∧
    ∀ positions t, first.attempts? positions = some t → t = first.attempts positions ∧
      ∀ row column,
        (t.PivotsCorrectly row column ↔
          ¬ (epsilon = 0 ∧ t.tableau.entryAt row column = .ok 0)) ∧
        (epsilon = 0 → t.tableau.entryAt row column = .ok 0 →
          (∃ next, t.pivot? row column = .ok next) ∧ t.attempt? (row, column) = none) := by
  obtain ⟨t₀, ht₀, rfl⟩ := trail?_eq_ok hfirst
  have hfirst_epsilon : (Trail.start t₀).tableau.epsilon = epsilon :=
    (LinearProgram.isFirstTableau_of_tableau? ht₀).epsilon_eq
  refine ⟨fun hpos => attempts?_of_pos _ (hfirst_epsilon ▸ hpos), fun positions t ht => ?_⟩
  have hreached := attempts?_eq_some ht
  have hε_now : t.tableau.epsilon = epsilon := by
    rw [hreached, epsilon_attempts, hfirst_epsilon]
  have hnone (row column : Nat) : t.attempt? (row, column) = none ↔
      epsilon = 0 ∧ t.tableau.entryAt row column = .ok 0 := by
    rw [attempt?_eq_none_iff (hε.trans_eq hε_now.symm), hε_now]
  refine ⟨hreached, fun row column => ⟨?_, fun hzero hentry => ⟨?_, ?_⟩⟩⟩
  · rw [pivotsCorrectly_iff, ne_eq, hnone]
  · obtain ⟨r, k, rfl, rfl, -⟩ := Tableau.entryAt_eq_ok_iff.mp hentry
    have hfound := Tableau.pivotPosition?_of_epsilon_eq_zero (hε_now.trans hzero) r k
    exact ⟨_, pivot?_of_ok hfound⟩
  · exact (hnone row column).mpr ⟨hzero, hentry⟩

end Trail

/-- After one pivot without a tolerance, a call on a negative entry is correct and one on an
entry of zero is not. With a tolerance the same call on zero is. -/
theorem pivotsCorrectly_twoProducts :
    (0 ≤ (0 : ℚ) ∧ ∃ first t, twoProducts.standardForm.trail? twoSlacks 0 = .ok first ∧
      first.attempts? [(0, 0)] = some t ∧
      t.tableau.entryAt 1 2 = .ok (-1) ∧ t.PivotsCorrectly 1 2 ∧
      t.tableau.entryAt 1 0 = .ok 0 ∧ ¬ t.PivotsCorrectly 1 0) ∧
    0 < (1 / 10 : ℚ) ∧ ∃ first t, twoProducts.standardForm.trail? twoSlacks (1 / 10) = .ok first ∧
      first.attempts? [(0, 0), (9, 0)] = some t ∧
      t.tableau.entryAt 1 0 = .ok 0 ∧ t.PivotsCorrectly 1 0 := by
  constructor
  · obtain ⟨first, hfirst, hε, hp, hnegative, hzero⟩ : ∃ first : Trail ℚ 2 4,
        twoProducts.standardForm.trail? twoSlacks 0 = .ok first ∧ first.tableau.epsilon = 0 ∧
        first.tableau.entry 0 0 ≠ 0 ∧ (first.pivot 0 0).tableau.entry 1 2 = -1 ∧
        (first.pivot 0 0).tableau.entry 1 0 = 0 :=
      ⟨_, rfl, rfl, by decide +kernel, by decide +kernel, by decide +kernel⟩
    have hfound : first.tableau.pivotPosition? 0 0 = .ok (0, 0) :=
      Tableau.pivotPosition?_of_epsilon_eq_zero hε 0 0
    have hreached : first.attempts? [(0, 0)] = some (first.pivot 0 0) := by
      rw [Trail.attempts?_cons, Trail.attempt?_of_ne hfound hp]
      rfl
    have hentry_negative := Tableau.entryAt_eq_ok_iff.mpr ⟨1, 2, rfl, rfl, hnegative⟩
    have hentry_zero := Tableau.entryAt_eq_ok_iff.mpr ⟨1, 0, rfl, rfl, hzero⟩
    obtain ⟨-, hcalls⟩ := Trail.pivotsCorrectly_unless_zero twoProducts.standardForm twoSlacks
      le_rfl hfirst
    obtain ⟨-, hcorrect⟩ := hcalls _ _ hreached
    refine ⟨le_rfl, first, _, hfirst, hreached, hentry_negative, ?_, hentry_zero, ?_⟩
    · refine (hcorrect 1 2).1.mpr fun h => ?_
      exact absurd (hentry_negative.symm.trans h.2) (by simp)
    · exact fun h => (hcorrect 1 0).1.mp h ⟨rfl, hentry_zero⟩
  · have hε : (0 : ℚ) < 1 / 10 := by norm_num
    obtain ⟨hpositive, hcalls⟩ := Trail.pivotsCorrectly_unless_zero twoProducts.standardForm
      twoSlacks hε.le rfl
    have hreached := hpositive hε [(0, 0), (9, 0)]
    refine ⟨hε, _, _, rfl, hreached, ?_, ?_⟩
    · exact Tableau.entryAt_eq_ok_iff.mpr ⟨(1 : Fin 2), (0 : Fin 4), rfl, rfl, by decide +kernel⟩
    · exact (((hcalls _ _ hreached).2 1 0).1).mpr fun hzero => hε.ne' hzero.1

/-- Without a tolerance a pivot on an entry of zero is accepted at once. -/
theorem not_pivotsCorrectly_twoProducts :
    0 ≤ (0 : ℚ) ∧ ∃ first, twoProducts.standardForm.trail? twoSlacks 0 = .ok first ∧
      first.attempts? [] = some first ∧ (∃ next, first.pivot? 0 3 = .ok next) ∧
      first.attempt? (0, 3) = none ∧ ¬ first.PivotsCorrectly 0 3 := by
  have hzero (t : Tableau ℚ 2 4) (hε : t.epsilon = 0) : t.pivotPosition? 0 3 = .ok (0, 3) :=
    Tableau.pivotPosition?_of_epsilon_eq_zero hε 0 3
  refine ⟨le_rfl, _, rfl, rfl, ⟨_, Trail.pivot?_of_ok (hzero _ rfl)⟩, ?_, ?_⟩
  · exact Trail.attempt?_of_eq_zero (hzero _ rfl) (by decide +kernel)
  · rw [Trail.pivotsCorrectly_iff, not_not]
    exact Trail.attempt?_of_eq_zero (hzero _ rfl) (by decide +kernel)

end LinearProgramming
