import LinearProgramming.Proofs.Tableau.Selection
import LinearProgramming.Proofs.Tableau.Derivation
import LinearProgramming.Run

/-!
# The choices of the three rules

While a tableau is not optimal, each rule of the method finds a profitable column, whatever
the tolerance is. Then it either finds a row that limits the column, and there is an entry to
pivot on, or there is no such row and the run ends as unbounded. No other failure and no
misuse occurs. Without a tolerance the limit of the row is least.
-/

namespace LinearProgramming

/-- The three rules of the method. -/
def PivotRule.ofMethod {F : Type} [Scalar F] : List (PivotRule F) := [largest, first, lowest]

theorem PivotRule.mem_ofMethod_iff {F : Type} [Scalar F] {rule : PivotRule F} :
    rule ∈ ofMethod ↔ rule = largest ∨ rule = first ∨ rule = lowest := by
  simp [ofMethod]

theorem PivotRule.largest_mem_ofMethod {F : Type} [Scalar F] :
    (largest : PivotRule F) ∈ ofMethod :=
  mem_ofMethod_iff.mpr (.inl rfl)

theorem PivotRule.first_mem_ofMethod {F : Type} [Scalar F] :
    (first : PivotRule F) ∈ ofMethod :=
  mem_ofMethod_iff.mpr (.inr (.inl rfl))

theorem PivotRule.lowest_mem_ofMethod {F : Type} [Scalar F] :
    (lowest : PivotRule F) ∈ ofMethod :=
  mem_ofMethod_iff.mpr (.inr (.inr rfl))

/-- What a rule of the method remembers does not matter, since it is nothing. -/
theorem PivotRule.column_ofMethod {F : Type} [Scalar F] {rule : PivotRule F}
    (hrule : rule ∈ ofMethod) {m n : Nat} (t : Tableau F m n) (memory memory' : rule.Memory) :
    (rule.column t memory).1 = (rule.column t memory').1 := by
  rcases mem_ofMethod_iff.mp hrule with rfl | rfl | rfl <;> rfl

/-- A column is called unbounded only if the rule finds it. -/
theorem RunState.column_of_choose_unbounded {F : Type} [Scalar F] {rule : PivotRule F}
    {m n : Nat} {s : RunState rule m n} {k : Nat}
    (h : s.choose = .ok (.error (.unbounded k))) :
    (rule.column s.trail.tableau s.memory).1 = some k := by
  unfold choose at h
  split at h
  case h_1 => cases h
  case h_2 column memory hcolumn =>
    split at h
    case h_1 => cases h
    case h_2 =>
      cases h
      rw [hcolumn]
    case h_3 row _ _ =>
      unfold Tableau.pivotPosition? at h
      split at h
      · split at h
        · split at h <;> cases h
        · cases h
      · cases h

namespace Tableau

variable {F : Type} [Field F] [LinearOrder F] {m n : Nat}

theorem pivotPosition?_of_limits [IsStrictOrderedRing F] {t : Tableau F m n}
    (hε : 0 ≤ t.epsilon) {r : Fin m} {k : Fin n} (h : t.epsilon < t.entry r k) :
    t.pivotPosition? r k = .ok (r, k) := by
  have hlarge : ¬ magnitude (t.entry r k) < t.epsilon := by
    rw [magnitude_eq_abs, abs_of_pos (hε.trans_lt h)]
    exact h.le.not_gt
  exact pivotPosition?_of_not_lt hlarge

end Tableau

namespace RunState

variable {F : Type} [Field F] [LinearOrder F] [IsStrictOrderedRing F] {m n : Nat}

section Plain

variable {column : {m n : Nat} → Tableau F m n → Option (Fin n)}
  {row : {m n : Nat} → Tableau F m n → Nat → Except Misuse (Option (Fin m))}

/-- What a rule without memory chooses once its column is known. The row only has to be
one that limits the column, so that there is an entry to pivot on. -/
theorem choose_ofChoices (s : RunState (PivotRule.ofChoices column row) m n)
    (hε : 0 ≤ s.trail.tableau.epsilon) {k : Fin n} (hcolumn : column s.trail.tableau = some k)
    {found : Option (Fin m)} (hrow : row s.trail.tableau k = .ok found)
    (hlimits : ∀ r, found = some r → s.trail.tableau.epsilon < s.trail.tableau.entry r k) :
    s.choose = .ok (found.elim (.error (.unbounded k))
      fun r => .ok { row := r, column := k, memory := () }) := by
  have hc : (PivotRule.ofChoices column row).column s.trail.tableau s.memory =
      (some k.val, ()) := by
    simp [PivotRule.ofChoices, hcolumn]
  have hr : (PivotRule.ofChoices column row).row s.trail.tableau k () =
      .ok (found.map Fin.val, ()) := by
    simp [PivotRule.ofChoices, hrow, Except.map]
  unfold choose
  rw [hc]
  dsimp only
  rw [hr]
  cases found with
  | none => rfl
  | some r =>
    dsimp only [Option.map_some]
    rw [Tableau.pivotPosition?_of_limits hε (hlimits r rfl)]
    rfl

end Plain

/-- Whether a state chooses a column: it pivots there on a row with some property, or it calls
the column unbounded, and then no row limits it. -/
def ChoosesIn {rule : PivotRule F} (s : RunState rule m n) (k : Fin n) (P : Fin m → Prop) :
    Prop :=
  (∃ choice, s.choose = .ok (.ok choice) ∧ choice.column = k ∧ P choice.row) ∨
    (s.choose = .ok (.error (.unbounded k)) ∧
      ∀ i, s.trail.tableau.entry i k ≤ s.trail.tableau.epsilon)

omit [IsStrictOrderedRing F] in
theorem ChoosesIn.mono {rule : PivotRule F} {s : RunState rule m n} {k : Fin n}
    {P Q : Fin m → Prop} (h : s.ChoosesIn k P) (hPQ : ∀ r, P r → Q r) : s.ChoosesIn k Q := by
  rcases h with ⟨choice, hchoose, hcolumn, hrow⟩ | hunbounded
  · exact .inl ⟨choice, hchoose, hcolumn, hPQ _ hrow⟩
  · exact .inr hunbounded

omit [IsStrictOrderedRing F] in
theorem ChoosesIn.of_pivot {rule : PivotRule F} {s : RunState rule m n} {k : Fin n}
    {P : Fin m → Prop} (h : s.ChoosesIn k P) {choice : Choice rule m n}
    (hchoose : s.choose = .ok (.ok choice)) : choice.column = k ∧ P choice.row := by
  rcases h with ⟨choice', hchoice', hcolumn, hrow⟩ | ⟨hfailure, -⟩
  · rw [hchoose] at hchoice'
    cases hchoice'
    exact ⟨hcolumn, hrow⟩
  · rw [hchoose] at hfailure
    cases hfailure

omit [IsStrictOrderedRing F] in
theorem ChoosesIn.of_failure {rule : PivotRule F} {s : RunState rule m n} {k : Fin n}
    {P : Fin m → Prop} (h : s.ChoosesIn k P) {failure : Failure}
    (hchoose : s.choose = .ok (.error failure)) :
    failure = .unbounded k ∧ ∀ i, s.trail.tableau.entry i k ≤ s.trail.tableau.epsilon := by
  rcases h with ⟨choice, hchoice, -⟩ | ⟨hfailure, hentries⟩
  · rw [hchoose] at hchoice
    cases hchoice
  · rw [hchoose] at hfailure
    cases hfailure
    exact ⟨rfl, hentries⟩

theorem choose_leavingRow {column : {m n : Nat} → Tableau F m n → Option (Fin n)}
    (s : RunState (PivotRule.ofChoices column Tableau.leavingRow) m n)
    (hε : 0 ≤ s.trail.tableau.epsilon) {k : Fin n}
    (hk : column s.trail.tableau = some k) :
    s.ChoosesIn k fun r => s.trail.tableau.firstLeastRow k = some r := by
  have hchoose := choose_ofChoices s hε hk (Tableau.leavingRow_val _ k)
    fun r hr => (Tableau.firstLeastRow_eq_some hr).limits
  cases hfound : s.trail.tableau.firstLeastRow k with
  | none =>
    rw [hfound] at hchoose
    exact .inr ⟨hchoose, Tableau.firstLeastRow_eq_none_iff.mp hfound⟩
  | some r =>
    rw [hfound] at hchoose
    exact .inl ⟨_, hchoose, rfl, rfl⟩

theorem choose_lowestLeavingRow {column : {m n : Nat} → Tableau F m n → Option (Fin n)}
    (s : RunState (PivotRule.ofChoices column Tableau.lowestLeavingRow) m n)
    (hε : 0 ≤ s.trail.tableau.epsilon) {k : Fin n}
    (hk : column s.trail.tableau = some k) :
    s.ChoosesIn k fun r => s.trail.tableau.lowestLeastRow k = some r := by
  have hchoose := choose_ofChoices s hε hk (Tableau.lowestLeavingRow_val _ k)
    fun r hr => Tableau.limits_of_lowestLeastRow hr
  cases hfound : s.trail.tableau.lowestLeastRow k with
  | none =>
    rw [hfound] at hchoose
    exact .inr ⟨hchoose, Tableau.lowestLeastRow_eq_none_iff.mp hfound⟩
  | some r =>
    rw [hfound] at hchoose
    exact .inl ⟨_, hchoose, rfl, rfl⟩

theorem choose_largest (s : RunState (PivotRule.largest : PivotRule F) m n)
    (hε : 0 ≤ s.trail.tableau.epsilon) (hopt : ¬ s.trail.tableau.IsOptimal) :
    ∃ k, s.trail.tableau.epsilon < s.trail.tableau.reducedCost k ∧
      s.ChoosesIn k (s.trail.tableau.IsLeastLimit · k) := by
  obtain ⟨k, hk, hprofit⟩ := Tableau.exists_largestColumn hopt
  exact ⟨k, hprofit, (choose_leavingRow s hε hk).mono fun _ => Tableau.firstLeastRow_eq_some⟩

theorem choose_first (s : RunState (PivotRule.first : PivotRule F) m n)
    (hε : 0 ≤ s.trail.tableau.epsilon) (hopt : ¬ s.trail.tableau.IsOptimal) :
    ∃ k, s.trail.tableau.epsilon < s.trail.tableau.reducedCost k ∧
      s.ChoosesIn k (s.trail.tableau.IsLeastLimit · k) := by
  obtain ⟨k, hk, hprofit, -⟩ := Tableau.exists_firstColumn hopt
  exact ⟨k, hprofit, (choose_leavingRow s hε hk).mono fun _ => Tableau.firstLeastRow_eq_some⟩

/-- With a tolerance the lowest rule need not find the least limit, but its row does limit the
column, which is the first profitable one. -/
theorem choose_lowest_of_nonneg (s : RunState (PivotRule.lowest : PivotRule F) m n)
    (hε : 0 ≤ s.trail.tableau.epsilon) (hopt : ¬ s.trail.tableau.IsOptimal) :
    ∃ k, s.trail.tableau.epsilon < s.trail.tableau.reducedCost k ∧
      (∀ j < k, s.trail.tableau.reducedCost j ≤ s.trail.tableau.epsilon) ∧
      s.ChoosesIn k fun r => s.trail.tableau.lowestLeastRow k = some r := by
  obtain ⟨k, hk, hprofit, hfirst⟩ := Tableau.exists_firstColumn hopt
  exact ⟨k, hprofit, hfirst, choose_lowestLeavingRow s hε hk⟩

theorem choose_lowest (s : RunState (PivotRule.lowest : PivotRule F) m n)
    (hε : s.trail.tableau.epsilon = 0) (hopt : ¬ s.trail.tableau.IsOptimal) :
    ∃ k, s.trail.tableau.epsilon < s.trail.tableau.reducedCost k ∧
      s.ChoosesIn k (s.trail.tableau.IsLowestPivot · k) := by
  obtain ⟨k, hprofit, hfirst, hchoose⟩ := choose_lowest_of_nonneg s hε.ge hopt
  refine ⟨k, hprofit, hchoose.mono fun r hr => ?_⟩
  obtain ⟨hleast, hlowest⟩ := Tableau.lowestLeastRow_eq_some hε hr
  exact ⟨hleast, hprofit, hfirst, hlowest⟩

/-- With any tolerance each rule of the method finds a profitable column, and a row that
limits it unless there is none. -/
theorem choose_limits_ofMethod {rule : PivotRule F} (hrule : rule ∈ PivotRule.ofMethod)
    (s : RunState rule m n) (hε : 0 ≤ s.trail.tableau.epsilon)
    (hopt : ¬ s.trail.tableau.IsOptimal) :
    ∃ k, s.trail.tableau.epsilon < s.trail.tableau.reducedCost k ∧
      s.ChoosesIn k fun r => s.trail.tableau.epsilon < s.trail.tableau.entry r k := by
  rcases PivotRule.mem_ofMethod_iff.mp hrule with rfl | rfl | rfl
  · obtain ⟨k, hprofit, hchoose⟩ := choose_largest s hε hopt
    exact ⟨k, hprofit, hchoose.mono fun _ hleast => hleast.limits⟩
  · obtain ⟨k, hprofit, hchoose⟩ := choose_first s hε hopt
    exact ⟨k, hprofit, hchoose.mono fun _ hleast => hleast.limits⟩
  · obtain ⟨k, hprofit, -, hchoose⟩ := choose_lowest_of_nonneg s hε hopt
    exact ⟨k, hprofit, hchoose.mono fun _ hr => Tableau.limits_of_lowestLeastRow hr⟩

/-- Without a tolerance the row that each rule finds has the least limit. -/
theorem choose_ofMethod {rule : PivotRule F} (hrule : rule ∈ PivotRule.ofMethod)
    (s : RunState rule m n) (hε : s.trail.tableau.epsilon = 0)
    (hopt : ¬ s.trail.tableau.IsOptimal) :
    ∃ k, s.trail.tableau.epsilon < s.trail.tableau.reducedCost k ∧
      s.ChoosesIn k (s.trail.tableau.IsLeastLimit · k) := by
  rcases PivotRule.mem_ofMethod_iff.mp hrule with rfl | rfl | rfl
  · exact choose_largest s hε.ge hopt
  · exact choose_first s hε.ge hopt
  · obtain ⟨k, hprofit, hchoose⟩ := choose_lowest s hε hopt
    exact ⟨k, hprofit, hchoose.mono fun _ hlowest => hlowest.toIsLeastLimit⟩

theorem exists_choose_eq_ok {rule : PivotRule F} (hrule : rule ∈ PivotRule.ofMethod)
    (s : RunState rule m n) (hε : 0 ≤ s.trail.tableau.epsilon)
    (hopt : ¬ s.trail.tableau.IsOptimal) : ∃ result, s.choose = .ok result := by
  obtain ⟨k, -, ⟨choice, hchoice, -⟩ | ⟨hfailure, -⟩⟩ := choose_limits_ofMethod hrule s hε hopt
  · exact ⟨_, hchoice⟩
  · exact ⟨_, hfailure⟩

/-- If no pivot is chosen, a profitable column has no row that limits it. -/
theorem exists_unbounded_of_choose {rule : PivotRule F} (hrule : rule ∈ PivotRule.ofMethod)
    (s : RunState rule m n) (hε : 0 ≤ s.trail.tableau.epsilon)
    (hopt : ¬ s.trail.tableau.IsOptimal) {failure : Failure}
    (h : s.choose = .ok (.error failure)) :
    ∃ k : Fin n, failure = .unbounded k ∧
      s.trail.tableau.epsilon < s.trail.tableau.reducedCost k ∧
      ∀ i, s.trail.tableau.entry i k ≤ s.trail.tableau.epsilon := by
  obtain ⟨k, hprofit, hchoose⟩ := choose_limits_ofMethod hrule s hε hopt
  obtain ⟨hfailure, hentries⟩ := hchoose.of_failure h
  exact ⟨k, hfailure, hprofit, hentries⟩

/-- Without a tolerance every pivot is on a row with the least limit in a profitable column. -/
theorem isLeastLimit_of_choose {rule : PivotRule F} (hrule : rule ∈ PivotRule.ofMethod)
    {s : RunState rule m n} (hε : s.trail.tableau.epsilon = 0)
    (hopt : ¬ s.trail.tableau.IsOptimal) {choice : Choice rule m n}
    (h : s.choose = .ok (.ok choice)) :
    s.trail.tableau.epsilon < s.trail.tableau.reducedCost choice.column ∧
      s.trail.tableau.IsLeastLimit choice.row choice.column := by
  obtain ⟨k, hprofit, hchoose⟩ := choose_ofMethod hrule s hε hopt
  obtain ⟨rfl, hleast⟩ := hchoose.of_pivot h
  exact ⟨hprofit, hleast⟩

/-- With any tolerance every pivot is on an entry that exceeds it. -/
theorem limits_of_choose {rule : PivotRule F} (hrule : rule ∈ PivotRule.ofMethod)
    {s : RunState rule m n} (hε : 0 ≤ s.trail.tableau.epsilon)
    (hopt : ¬ s.trail.tableau.IsOptimal) {choice : Choice rule m n}
    (h : s.choose = .ok (.ok choice)) :
    s.trail.tableau.epsilon < s.trail.tableau.entry choice.row choice.column := by
  obtain ⟨k, -, hchoose⟩ := choose_limits_ofMethod hrule s hε hopt
  obtain ⟨rfl, hlimits⟩ := hchoose.of_pivot h
  exact hlimits

end RunState

end LinearProgramming
