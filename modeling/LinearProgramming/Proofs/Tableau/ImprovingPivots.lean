import LinearProgramming.Proofs.Tableau.Ascent
import LinearProgramming.Proofs.Tableau.BasisSet

/-!
# Sequences of improving pivots

A pivot improves if its column is profitable and its row limits the column least. Along such
pivots the tableaux stay canonical and feasible, and the objective never falls. It is known
from the set of basic variables. Where a sequence comes back to such a set, the objective has
stood still all the way, so each pivot was on a row with the value zero.
-/

namespace LinearProgramming.Tableau

variable {F : Type} [Field F] [LinearOrder F] {m n : Nat}

/-- A sequence of tableaux up to an index, each after an improving pivot in the one before.
The first one is canonical and feasible, and has no tolerance. -/
structure IsImprovingSequence (T : ℕ → Tableau F m n) (last : ℕ) : Prop where
  canonical : (T 0).IsExactlyCanonical
  feasible : (T 0).IsFeasible
  epsilon_eq : (T 0).epsilon = 0
  pivot : ∀ k < last, ∃ r j, T (k + 1) = (T k).pivot r j ∧
    (T k).epsilon < (T k).reducedCost j ∧ (T k).IsLeastLimit r j

namespace IsImprovingSequence

variable [IsStrictOrderedRing F] {T : ℕ → Tableau F m n} {last : ℕ}

theorem derivesFrom_and_isFeasible (h : IsImprovingSequence T last) {k : ℕ} (hk : k ≤ last) :
    (T k).DerivesFrom (T 0) ∧ (T k).IsFeasible := by
  induction k with
  | zero => exact ⟨.refl _, h.feasible⟩
  | succ k ih =>
    obtain ⟨hd, hf⟩ := ih (by omega)
    obtain ⟨r, j, hnext, -, hleast⟩ := h.pivot k (by omega)
    have hε : (T k).epsilon = 0 := hd.epsilon_eq.trans h.epsilon_eq
    have hp : 0 < (T k).entry r j := hε ▸ hleast.limits
    rw [hnext]
    exact ⟨(derivesFrom_pivot _ hp.ne').trans hd, hf.pivot hε hleast⟩

theorem derivesFrom (h : IsImprovingSequence T last) {k : ℕ} (hk : k ≤ last) :
    (T k).DerivesFrom (T 0) := (h.derivesFrom_and_isFeasible hk).1

theorem isFeasible (h : IsImprovingSequence T last) {k : ℕ} (hk : k ≤ last) :
    (T k).IsFeasible := (h.derivesFrom_and_isFeasible hk).2

theorem isExactlyCanonical (h : IsImprovingSequence T last) {k : ℕ} (hk : k ≤ last) :
    (T k).IsExactlyCanonical := (h.derivesFrom hk).isExactlyCanonical h.canonical

theorem epsilon_eq_zero (h : IsImprovingSequence T last) {k : ℕ} (hk : k ≤ last) :
    (T k).epsilon = 0 := (h.derivesFrom hk).epsilon_eq.trans h.epsilon_eq

theorem part (h : IsImprovingSequence T last) {a b : ℕ} (hab : a ≤ b) (hb : b ≤ last) :
    IsImprovingSequence (fun k => T (a + k)) (b - a) where
  canonical := h.isExactlyCanonical (by omega)
  feasible := h.isFeasible (by omega)
  epsilon_eq := h.epsilon_eq_zero (by omega)
  pivot k hk := h.pivot (a + k) (by omega)

/-- What a pivot of the sequence adds to the objective is its gain. -/
theorem objectiveValue_succ (h : IsImprovingSequence T last) {k : ℕ} (hk : k ≤ last) {r : Fin m}
    {j : Fin n} (hnext : T (k + 1) = (T k).pivot r j) (hleast : (T k).IsLeastLimit r j) :
    (T (k + 1)).objectiveValue = (T k).objectiveValue + (T k).gain r j := by
  have hp : 0 < (T k).entry r j := h.epsilon_eq_zero hk ▸ hleast.limits
  rw [hnext, objectiveValue_pivot_eq_add_gain _ hp.ne']

theorem objectiveValue_le_succ (h : IsImprovingSequence T last) {k : ℕ} (hk : k < last) :
    (T k).objectiveValue ≤ (T (k + 1)).objectiveValue := by
  obtain ⟨r, j, hnext, hprofit, hleast⟩ := h.pivot k hk
  have hp := hleast.limits
  rw [h.epsilon_eq_zero hk.le] at hprofit hp
  rw [h.objectiveValue_succ hk.le hnext hleast, le_add_iff_nonneg_right]
  exact gain_nonneg (h.isFeasible hk.le) hprofit hp

theorem objectiveValue_mono (h : IsImprovingSequence T last) {a b : ℕ} (hab : a ≤ b)
    (hb : b ≤ last) : (T a).objectiveValue ≤ (T b).objectiveValue := by
  induction b, hab using Nat.le_induction with
  | base => exact le_rfl
  | succ b _ ih => exact (ih (by omega)).trans (h.objectiveValue_le_succ (by omega))

/-- On a cycle every pivot is on a row with the value zero. -/
theorem value_eq_zero (h : IsImprovingSequence T last)
    (hcycle : (T last).basisSet = (T 0).basisSet) {k : ℕ} (hk : k < last) {r : Fin m}
    {j : Fin n} (hnext : T (k + 1) = (T k).pivot r j)
    (hprofit : (T k).epsilon < (T k).reducedCost j) (hleast : (T k).IsLeastLimit r j) :
    (T k).value r = 0 := by
  have hreturn : (T last).objectiveValue = (T 0).objectiveValue :=
    objectiveValue_eq_of_basisSet_eq h.canonical (h.isExactlyCanonical le_rfl)
      (h.derivesFrom le_rfl) hcycle
  have hstill : (T (k + 1)).objectiveValue ≤ (T k).objectiveValue :=
    calc (T (k + 1)).objectiveValue ≤ (T last).objectiveValue :=
          h.objectiveValue_mono (by omega) le_rfl
      _ = (T 0).objectiveValue := hreturn
      _ ≤ (T k).objectiveValue := h.objectiveValue_mono (Nat.zero_le k) hk.le
  rw [h.objectiveValue_succ hk.le hnext hleast, add_le_iff_nonpos_right] at hstill
  have hp := hleast.limits
  rw [h.epsilon_eq_zero hk.le] at hprofit hp
  have hnot : ¬ 0 < (T k).value r := fun hpos =>
    ((gain_pos_iff hprofit hp).mpr hpos).not_ge hstill
  exact le_antisymm (not_lt.mp hnot) (h.isFeasible hk.le r)

/-- Between two times with the same set of basic variables every pivot is on a row with the
value zero. -/
theorem value_eq_zero_of_basisSet_eq (h : IsImprovingSequence T last) {a b : ℕ}
    (hb : b ≤ last) (hcycle : (T b).basisSet = (T a).basisSet) {k : ℕ} (hak : a ≤ k)
    (hkb : k < b) {r : Fin m} {j : Fin n} (hnext : T (k + 1) = (T k).pivot r j)
    (hprofit : (T k).epsilon < (T k).reducedCost j) (hleast : (T k).IsLeastLimit r j) :
    (T k).value r = 0 := by
  obtain ⟨d, rfl⟩ := Nat.exists_eq_add_of_le hak
  have hpart := h.part (show a ≤ b by omega) hb
  have hreturn : (T (a + (b - a))).basisSet = (T (a + 0)).basisSet := by
    rw [Nat.add_sub_cancel' (by omega), Nat.add_zero]
    exact hcycle
  exact hpart.value_eq_zero hreturn (show d < b - a by omega) hnext hprofit hleast

end IsImprovingSequence

end LinearProgramming.Tableau
