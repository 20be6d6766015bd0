import LinearProgramming.Proofs.Tableau.Selection
import Mathlib.Order.Bounds.Basic

/-!
# The lowest index

Four searches choose columns and rows. One keeps the largest reduced cost so far, two stop at
the first profitable column, and one keeps the least limit so far. Each of them comes to the
lowest index of a set that is described without any order of search. The set of columns is
empty exactly if the tableau is optimal, the set of rows exactly if no row limits the column,
and only then is nothing found.
-/

namespace LinearProgramming

/-- A search that finds only least elements, and finds one unless there are no elements, finds
exactly the least element. -/
theorem eq_some_iff_isLeast {ι : Type} [PartialOrder ι] {found : Option ι} {s : Set ι}
    (hsome : ∀ i, found = some i → IsLeast s i) (hnone : found = none → s = ∅) {i : ι} :
    found = some i ↔ IsLeast s i := by
  constructor
  · exact hsome i
  · intro hi
    cases h : found with
    | none => exact absurd hi.1 (Set.eq_empty_iff_forall_notMem.mp (hnone h) i)
    | some k => exact congrArg some ((hsome k h).unique hi)

namespace Tableau

variable {F : Type} [Field F] [LinearOrder F] {m n : Nat} (t : Tableau F m n)

/-- The columns with the largest reduced cost of all, if that is profitable. -/
def largestColumns : Set (Fin n) :=
  {j | t.epsilon < t.reducedCost j ∧ ∀ k, t.reducedCost k ≤ t.reducedCost j}

/-- The columns that are profitable. -/
def profitableColumns : Set (Fin n) := {j | t.epsilon < t.reducedCost j}

/-- The rows that limit a column, with the least limit. -/
def leastRows (k : Fin n) : Set (Fin m) := {i | t.IsLeastLimit i k}

variable {t}

theorem IsOptimal.profitableColumns_eq_empty (h : t.IsOptimal) : t.profitableColumns = ∅ :=
  Set.eq_empty_iff_forall_notMem.mpr fun j hj => (h j).not_gt hj

theorem largestColumns_subset : t.largestColumns ⊆ t.profitableColumns := fun _ hj => hj.1

theorem largestColumn_eq_some_iff {j : Fin n} :
    t.largestColumn = some j ↔ IsLeast t.largestColumns j := by
  refine eq_some_iff_isLeast (fun j hj => ⟨largestColumn_eq_some hj, fun k hk => ?_⟩) fun h => ?_
  · by_contra hlt
    exact (hk.2 j).not_gt (reducedCost_lt_of_lt_largestColumn hj (not_le.mp hlt))
  · have hoptimal := (largestColumn_eq_none_iff t).mp h
    exact Set.subset_eq_empty largestColumns_subset hoptimal.profitableColumns_eq_empty

theorem firstColumn_eq_some_iff {j : Fin n} :
    t.firstColumn = some j ↔ IsLeast t.profitableColumns j := by
  refine eq_some_iff_isLeast (fun j hj => ?_) fun h => ?_
  · obtain ⟨hprofit, hfirst⟩ := firstColumn_eq_some hj
    exact ⟨hprofit, fun k hk => not_lt.mp fun hlt => (hfirst k hlt).not_gt hk⟩
  · exact ((firstColumn_eq_none_iff t).mp h).profitableColumns_eq_empty

theorem firstLeastRow_eq_some_iff {k : Fin n} {r : Fin m} :
    t.firstLeastRow k = some r ↔ IsLeast (t.leastRows k) r := by
  refine eq_some_iff_isLeast (fun r hr => ⟨firstLeastRow_eq_some hr, fun i hi => ?_⟩) fun h => ?_
  · by_contra hlt
    have hbefore := lt_limit_of_lt_firstLeastRow hr (not_le.mp hlt) hi.limits
    exact (hi.least r (firstLeastRow_eq_some hr).limits).not_gt hbefore
  · refine Set.eq_empty_iff_forall_notMem.mpr fun i hi => ?_
    exact (firstLeastRow_eq_none_iff.mp h i).not_gt hi.limits

end Tableau

/-- **The lowest index.** The search for the largest reduced cost finds the lowest of the
columns whose reduced cost no other exceeds, if it is profitable at all. The other two rules
find the lowest profitable column. All three find nothing exactly when the tableau is optimal.
In every column the search for the least limit finds the lowest of the rows with the least
limit, and finds nothing exactly when no row limits the column. -/
theorem PivotRule.choices_lowest {F : Type} [Field F] [LinearOrder F] {m n : Nat}
    (t : Tableau F m n) :
    ((∀ memory, PivotRule.largest.column t memory = (t.largestColumn.map Fin.val, memory)) ∧
      (∀ memory, PivotRule.first.column t memory = (t.firstColumn.map Fin.val, memory)) ∧
      ∀ memory, PivotRule.lowest.column t memory = (t.firstColumn.map Fin.val, memory)) ∧
    (∀ j, t.largestColumn = some j ↔ IsLeast t.largestColumns j) ∧
    (∀ j, t.firstColumn = some j ↔ IsLeast t.profitableColumns j) ∧
    (t.largestColumn = none ↔ t.IsOptimal) ∧
    (t.firstColumn = none ↔ t.IsOptimal) ∧
    ∀ k : Fin n, t.leavingRow k = .ok (t.firstLeastRow k) ∧
      (∀ r, t.firstLeastRow k = some r ↔ IsLeast (t.leastRows k) r) ∧
      (t.firstLeastRow k = none ↔ ∀ i, ¬ t.epsilon < t.entry i k) := by
  refine ⟨⟨fun _ => rfl, fun _ => rfl, fun _ => rfl⟩, fun j => Tableau.largestColumn_eq_some_iff,
    fun j => Tableau.firstColumn_eq_some_iff, t.largestColumn_eq_none_iff,
    t.firstColumn_eq_none_iff, fun k => ⟨t.leavingRow_val k, fun r => ?_, ?_⟩⟩
  · exact Tableau.firstLeastRow_eq_some_iff
  · simp only [Tableau.firstLeastRow_eq_none_iff, not_lt]

/-- Both profitable columns have the same reduced cost, and both rows limit the first of them
to the same number. -/
def tiedChoices : Tableau ℚ 2 4 where
  coefficients := #v[#v[2, 1, 1, 0], #v[1, 1, 0, 1]]
  values := #v[2, 1]
  costs := #v[1, 1, 0, 0]
  basis := #v[2, 3]
  epsilon := 0

example : tiedChoices.largestColumn = some 0 ∧ tiedChoices.firstLeastRow 0 = some 0 := by
  decide +kernel

end LinearProgramming
