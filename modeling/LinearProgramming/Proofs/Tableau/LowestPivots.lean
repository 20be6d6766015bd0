import LinearProgramming.Proofs.Tableau.ImprovingPivots
import LinearProgramming.Proofs.Tableau.Ray
import Mathlib.Data.Set.Finite.Lemmas

/-!
# The lowest pivots never cycle

Suppose that lowest pivots lead back to a set of basic variables. The objective never falls,
so it has stood still, every pivot was degenerate and the solution never moved. Some
variables change on the way: they are basic in one tableau and not in another. All of them
are zero. Take the greatest that changes, a tableau where it leaves and one where it enters.
Where it enters, no lower variable is profitable. The reduced cost of the variable for which
it leaves, counted in both tableaux, therefore needs another row that limits the column, by
zero as well. The basic variable of that row is lower, so it would have left instead.
-/

namespace LinearProgramming.Tableau

/-- A property that holds again in the end, but not all the time, is lost at some step. -/
theorem exists_lost_of_cycle {P : ℕ → Prop} {last a b : ℕ} (hcycle : P last → P 0)
    (ha : a ≤ last) (hb : b ≤ last) (hPa : P a) (hPb : ¬ P b) :
    ∃ k < last, P k ∧ ¬ P (k + 1) := by
  by_contra! hkeep
  have hafter (c : ℕ) (hc : P c) : ∀ k, c ≤ k → k ≤ last → P k := by
    intro k hck
    induction k, hck using Nat.le_induction with
    | base => exact fun _ => hc
    | succ k _ ih => exact fun hk => hkeep k (by omega) (ih (by omega))
  have hstart : P 0 := hcycle (hafter a hPa last ha le_rfl)
  exact hPb (hafter 0 hstart b (Nat.zero_le b) hb)

variable {F : Type} {m n : Nat}

/-- Whether a variable is basic in some tableau of a sequence and not in another. -/
def Changes (T : ℕ → Tableau F m n) (last : ℕ) (j : Fin n) : Prop :=
  (∃ k ≤ last, j ∈ (T k).basisSet) ∧ ∃ k ≤ last, j ∉ (T k).basisSet

/-- On a cycle a variable that changes leaves somewhere and enters somewhere. -/
theorem Changes.exists_leaves {T : ℕ → Tableau F m n} {last : ℕ} {j : Fin n}
    (h : Changes T last j) (hcycle : (T last).basisSet = (T 0).basisSet) :
    ∃ k < last, j ∈ (T k).basisSet ∧ j ∉ (T (k + 1)).basisSet := by
  obtain ⟨⟨a, ha, hin⟩, b, hb, hout⟩ := h
  exact exists_lost_of_cycle (P := fun k => j ∈ (T k).basisSet) (fun hlast => hcycle ▸ hlast)
    ha hb hin hout

theorem Changes.exists_enters {T : ℕ → Tableau F m n} {last : ℕ} {j : Fin n}
    (h : Changes T last j) (hcycle : (T last).basisSet = (T 0).basisSet) :
    ∃ k < last, j ∉ (T k).basisSet ∧ j ∈ (T (k + 1)).basisSet := by
  obtain ⟨⟨a, ha, hin⟩, b, hb, hout⟩ := h
  obtain ⟨k, hk, hbefore, hafter⟩ := exists_lost_of_cycle (P := fun k => j ∉ (T k).basisSet)
    (fun hlast => hcycle ▸ hlast) hb ha hout (not_not.mpr hin)
  exact ⟨k, hk, hbefore, not_not.mp hafter⟩

variable [Field F] [LinearOrder F]

/-- A sequence of tableaux up to an index, each after the lowest pivot in the one before.
The first one is canonical and feasible, and has no tolerance. -/
structure IsLowestSequence (T : ℕ → Tableau F m n) (last : ℕ) : Prop where
  canonical : (T 0).IsExactlyCanonical
  feasible : (T 0).IsFeasible
  epsilon_eq : (T 0).epsilon = 0
  pivot : ∀ k < last, ∃ r j, T (k + 1) = (T k).pivot r j ∧ (T k).IsLowestPivot r j

variable [IsStrictOrderedRing F]

/-- If a tableau with the same solutions gains from the variable that leaves, but not from
the one that enters, another row contributes to the difference. -/
theorem exists_mul_entry_neg {t t' first : Tableau F m n} (hc : t.IsExactlyCanonical)
    (h : t.DerivesFrom first) (h' : t'.DerivesFrom first) {r : Fin m} {k : Fin n}
    (hp : 0 < t.entry r k) (hprofit : 0 < t.reducedCost k) (henter : t'.reducedCost k ≤ 0)
    (hleave : 0 < t'.reducedCost (t.basic r)) :
    ∃ i, i ≠ r ∧ t'.reducedCost (t.basic i) * t.entry i k < 0 := by
  by_contra! hrows
  have hsum : 0 ≤ ∑ i, t'.reducedCost (t.basic i) * t.entry i k := by
    refine Finset.sum_nonneg fun i _ => ?_
    by_cases hi : i = r
    · rw [hi]
      exact (mul_pos hleave hp).le
    · exact hrows i hi
  have hcosts := reducedCost_eq_sub_sum hc h h' k
  linarith

namespace IsLowestSequence

variable {T : ℕ → Tableau F m n} {last : ℕ}

omit [IsStrictOrderedRing F] in
/-- Lowest pivots improve. -/
theorem isImprovingSequence (h : IsLowestSequence T last) : IsImprovingSequence T last where
  canonical := h.canonical
  feasible := h.feasible
  epsilon_eq := h.epsilon_eq
  pivot k hk := by
    obtain ⟨r, j, hnext, hlow⟩ := h.pivot k hk
    exact ⟨r, j, hnext, hlow.profitable, hlow.toIsLeastLimit⟩

theorem derivesFrom (h : IsLowestSequence T last) {k : ℕ} (hk : k ≤ last) :
    (T k).DerivesFrom (T 0) := h.isImprovingSequence.derivesFrom hk

theorem isExactlyCanonical (h : IsLowestSequence T last) {k : ℕ} (hk : k ≤ last) :
    (T k).IsExactlyCanonical := h.isImprovingSequence.isExactlyCanonical hk

theorem epsilon_eq_zero (h : IsLowestSequence T last) {k : ℕ} (hk : k ≤ last) :
    (T k).epsilon = 0 := h.isImprovingSequence.epsilon_eq_zero hk

theorem entry_pos (h : IsLowestSequence T last) {k : ℕ} (hk : k ≤ last) {r : Fin m} {j : Fin n}
    (hlow : (T k).IsLowestPivot r j) : 0 < (T k).entry r j := h.epsilon_eq_zero hk ▸ hlow.limits

theorem reducedCost_pos (h : IsLowestSequence T last) {k : ℕ} (hk : k ≤ last) {r : Fin m}
    {j : Fin n} (hlow : (T k).IsLowestPivot r j) : 0 < (T k).reducedCost j :=
  h.epsilon_eq_zero hk ▸ hlow.profitable

theorem part (h : IsLowestSequence T last) {a b : ℕ} (hab : a ≤ b) (hb : b ≤ last) :
    IsLowestSequence (fun k => T (a + k)) (b - a) where
  canonical := h.isExactlyCanonical (by omega)
  feasible := h.isImprovingSequence.isFeasible (by omega)
  epsilon_eq := h.epsilon_eq_zero (by omega)
  pivot k hk := h.pivot (a + k) (by omega)

/-- On a cycle every pivot is on a row with the value zero. -/
theorem value_eq_zero (h : IsLowestSequence T last)
    (hcycle : (T last).basisSet = (T 0).basisSet) {k : ℕ} (hk : k < last) {r : Fin m}
    {j : Fin n} (hnext : T (k + 1) = (T k).pivot r j) (hlow : (T k).IsLowestPivot r j) :
    (T k).value r = 0 :=
  h.isImprovingSequence.value_eq_zero hcycle hk hnext hlow.profitable hlow.toIsLeastLimit

theorem solutionAt_eq (h : IsLowestSequence T last)
    (hcycle : (T last).basisSet = (T 0).basisSet) {k : ℕ} (hk : k ≤ last) :
    (T k).solutionAt = (T 0).solutionAt := by
  induction k with
  | zero => rfl
  | succ k ih =>
    obtain ⟨r, j, hnext, hlow⟩ := h.pivot k hk
    have hk' : k ≤ last := by omega
    rw [← ih hk', hnext]
    exact solutionAt_pivot_of_value_eq_zero (h.isExactlyCanonical hk') (h.entry_pos hk' hlow).ne'
      (h.value_eq_zero hcycle hk hnext hlow)

/-- A variable that changes on a cycle is zero all the time. -/
theorem solutionAt_of_changes (h : IsLowestSequence T last)
    (hcycle : (T last).basisSet = (T 0).basisSet) {j : Fin n} (hj : Changes T last j) {k : ℕ}
    (hk : k ≤ last) : (T k).solutionAt j = 0 := by
  obtain ⟨-, l, hl, hout⟩ := hj
  rw [h.solutionAt_eq hcycle hk, ← h.solutionAt_eq hcycle hl]
  exact solutionAt_of_notMem hout

theorem changes_entering (h : IsLowestSequence T last) {k : ℕ} (hk : k < last) {r : Fin m}
    {j : Fin n} (hnext : T (k + 1) = (T k).pivot r j) (hlow : (T k).IsLowestPivot r j) :
    j ∉ (T k).basisSet ∧ Changes T last j := by
  have hout : j ∉ (T k).basisSet :=
    notMem_basisSet_of_profitable (h.isExactlyCanonical hk.le) (h.reducedCost_pos hk.le hlow).ne'
  have hin : j ∈ (T (k + 1)).basisSet := by
    rw [hnext]
    exact entering_mem_basisSet_pivot _ _ _
  exact ⟨hout, ⟨k + 1, hk, hin⟩, k, hk.le, hout⟩

/-- Lowest pivots never lead back to the set of basic variables they began with. -/
theorem basisSet_last_ne (h : IsLowestSequence T last) (hpos : 0 < last) :
    (T last).basisSet ≠ (T 0).basisSet := by
  intro hcycle
  obtain ⟨r₀, j₀, hnext₀, hlow₀⟩ := h.pivot 0 hpos
  obtain ⟨v, hv, hgreatest⟩ := Set.exists_max_image {j | Changes T last j} id (Set.toFinite _)
    ⟨j₀, (h.changes_entering hpos hnext₀ hlow₀).2⟩
  obtain ⟨a, ha, hin, hout⟩ := Changes.exists_leaves hv hcycle
  obtain ⟨r, s, hnext, hlow⟩ := h.pivot a ha
  have hca := h.isExactlyCanonical ha.le
  have hv' : (T a).basic r = v := basic_eq_of_notMem_basisSet_pivot hin (hnext ▸ hout)
  obtain ⟨hs, hschanges⟩ := h.changes_entering ha hnext hlow
  have hsv : s < v := lt_of_le_of_ne (hgreatest s hschanges) fun he => hs (he ▸ hin)
  obtain ⟨b, hb, hbefore, hafter⟩ := Changes.exists_enters hv hcycle
  obtain ⟨r', v', hnext', hlow'⟩ := h.pivot b hb
  obtain rfl : v = v' := eq_of_mem_basisSet_pivot (hnext' ▸ hafter) hbefore
  have hlower : ∀ j < v, (T b).reducedCost j ≤ 0 := fun j hj =>
    h.epsilon_eq_zero hb.le ▸ hlow'.first j hj
  obtain ⟨i, hir, hneg⟩ := exists_mul_entry_neg hca (h.derivesFrom ha.le) (h.derivesFrom hb.le)
    (h.entry_pos ha.le hlow) (h.reducedCost_pos ha.le hlow) (hlower s hsv)
    (hv'.symm ▸ h.reducedCost_pos hb.le hlow')
  have hichanges : Changes T last ((T a).basic i) := by
    refine ⟨⟨a, ha.le, (T a).basic_mem_basisSet i⟩, b, hb.le, ?_⟩
    exact notMem_basisSet_of_profitable (h.isExactlyCanonical hb.le) (left_ne_zero_of_mul hneg.ne)
  have hiv : (T a).basic i < v := by
    refine lt_of_le_of_ne (hgreatest _ hichanges) fun he => hir ?_
    exact basic_injective hca (he.trans hv'.symm)
  have hentry : 0 < (T a).entry i s := pos_of_mul_neg_right hneg (hlower _ hiv)
  have hvalue : (T a).value i = 0 := by
    rw [← solutionAt_basic (basic_injective hca)]
    exact h.solutionAt_of_changes hcycle hichanges ha.le
  have hle : (T a).basic r ≤ (T a).basic i := by
    refine hlow.lowest i ?_ ?_
    · rw [h.epsilon_eq_zero ha.le]
      exact hentry
    · rw [hvalue, h.value_eq_zero hcycle ha hnext hlow, zero_div, zero_div]
  exact hiv.not_ge (hv' ▸ hle)

theorem basisSet_ne (h : IsLowestSequence T last) {a b : ℕ} (hab : a < b) (hb : b ≤ last) :
    (T a).basisSet ≠ (T b).basisSet := by
  have hne := (h.part hab.le hb).basisSet_last_ne (by omega)
  simp only [Nat.add_sub_cancel' hab.le, Nat.add_zero] at hne
  exact hne.symm

end IsLowestSequence

end LinearProgramming.Tableau
