import LinearProgramming.Proofs.Tableau.PathIndependence
import LinearProgramming.Proofs.Tableau.Selection

/-!
# Near ties

The search for the lowest basic variable exchanges the row on a tie within the tolerance, but
keeps the limit it compares with. The limit it holds is therefore in general neither the limit
of the row it holds nor the least limit. Still it does not drift, however many ties follow each
other: the row that is held sets a limit at most the tolerance above the held one, and the held
one is at most the tolerance above any other. So the row that is found is at most twice the
tolerance away from the least limit, and it can be that far.
-/

namespace LinearProgramming

namespace Tableau

variable {F : Type} [Field F] [LinearOrder F] {m n : Nat} {t : Tableau F m n} {k : Fin n}

/-- Where the row and the limit that a search holds lie among the limits seen so far. -/
structure Tracks (t : Tableau F m n) (seen : List (Fin m × F)) (held : Fin m × F) : Prop where
  own_le : ∃ limit, (held.1, limit) ∈ seen ∧ limit ≤ held.2 + t.epsilon
  held_le : ∀ c ∈ seen, held.2 ≤ c.2 + t.epsilon

namespace Tracks

variable {seen : List (Fin m × F)} {held c : Fin m × F}

theorem keep (h : t.Tracks seen held) (hc : held.2 ≤ c.2 + t.epsilon) :
    t.Tracks (seen ++ [c]) held := by
  obtain ⟨limit, hmem, hown⟩ := h.own_le
  exact ⟨⟨limit, List.mem_append_left _ hmem, hown⟩,
    List.forall_mem_append.mpr ⟨h.held_le, List.forall_mem_singleton.mpr hc⟩⟩

/-- On a tie only the row is exchanged. -/
theorem exchange (h : t.Tracks seen held) (hown : c.2 ≤ held.2 + t.epsilon)
    (hc : held.2 ≤ c.2 + t.epsilon) : t.Tracks (seen ++ [c]) (c.1, held.2) where
  own_le := ⟨c.2, by simp, hown⟩
  held_le := (h.keep hc).held_le

variable [IsStrictOrderedRing F]

theorem improve (h : t.Tracks seen held) (hε : 0 ≤ t.epsilon) (hlt : c.2 < held.2) :
    t.Tracks (seen ++ [c]) c where
  own_le := ⟨c.2, by simp, le_add_of_nonneg_right hε⟩
  held_le := List.forall_mem_append.mpr ⟨fun d hd => hlt.le.trans (h.held_le d hd),
    List.forall_mem_singleton.mpr (le_add_of_nonneg_right hε)⟩

theorem nearerRow (h : t.Tracks seen held) (hε : 0 ≤ t.epsilon) (c : Fin m × F) :
    ∃ next, t.nearerRow (some held) c = some next ∧ t.Tracks (seen ++ [c]) next := by
  unfold Tableau.nearerRow
  dsimp only
  by_cases htie : magnitude (c.2 - held.2) ≤ t.epsilon
  · rw [if_pos htie]
    rw [magnitude_eq_abs, abs_sub_le_iff, sub_le_iff_le_add', sub_le_iff_le_add'] at htie
    split
    · exact ⟨_, rfl, h.exchange htie.1 htie.2⟩
    · exact ⟨_, rfl, h.keep htie.2⟩
  · rw [if_neg htie]
    split
    case isTrue hlt => exact ⟨_, rfl, h.improve hε hlt⟩
    case isFalse hlt => exact ⟨_, rfl, h.keep (le_add_of_le_of_nonneg (not_lt.mp hlt) hε)⟩

end Tracks

section Search

variable [IsStrictOrderedRing F] (hε : 0 ≤ t.epsilon)

include hε

theorem tracks_singleton (c : Fin m × F) : t.Tracks [c] c where
  own_le := ⟨c.2, List.mem_singleton_self c, le_add_of_nonneg_right hε⟩
  held_le := List.forall_mem_singleton.mpr (le_add_of_nonneg_right hε)

theorem tracks_foldl_nearerRow {l : List (Fin m × F)} {held : Fin m × F}
    (h : l.foldl t.nearerRow none = some held) : t.Tracks l held := by
  induction l using List.reverseRecOn generalizing held with
  | nil => cases h
  | append_singleton l c ih =>
    rw [List.foldl_append, List.foldl_cons, List.foldl_nil] at h
    cases hbefore : l.foldl t.nearerRow none with
    | none =>
      obtain rfl := foldl_nearerRow_eq_none_iff.mp hbefore
      cases h
      exact tracks_singleton hε c
    | some before =>
      obtain ⟨next, hnext, htracks⟩ := (ih hbefore).nearerRow hε c
      rw [hbefore, hnext] at h
      cases h
      exact htracks

/-- Any row that limits the column does so at most twice the tolerance below the row found. -/
theorem limit_lowestLeastRow_le {r : Fin m} (h : t.lowestLeastRow k = some r) {i : Fin m}
    (hi : t.epsilon < t.entry i k) :
    t.value r / t.entry r k ≤ t.value i / t.entry i k + 2 * t.epsilon := by
  obtain ⟨held, hheld, rfl⟩ := Option.map_eq_some_iff.mp h
  have htracks := tracks_foldl_nearerRow hε hheld
  obtain ⟨limit, hmem, hown⟩ := htracks.own_le
  obtain rfl : limit = t.value held.1 / t.entry held.1 k := (mem_limiting.mp hmem).2
  calc t.value held.1 / t.entry held.1 k
      ≤ held.2 + t.epsilon := hown
    _ ≤ t.value i / t.entry i k + t.epsilon + t.epsilon := by
        gcongr
        exact htracks.held_le (i, t.value i / t.entry i k) (mem_limiting.mpr ⟨hi, rfl⟩)
    _ = t.value i / t.entry i k + 2 * t.epsilon := by ring

end Search

theorem isLeastLimit_permuteRows_iff (σ : Equiv.Perm (Fin m)) {i : Fin m} :
    (t.permuteRows σ).IsLeastLimit i k ↔ t.IsLeastLimit (σ i) k := by
  have hε : (t.permuteRows σ).epsilon = t.epsilon := rfl
  constructor
  · rintro ⟨hlimits, hleast⟩
    simp only [entry_permuteRows, value_permuteRows, hε] at hlimits hleast
    exact ⟨hlimits, σ.forall_congr_right.mp hleast⟩
  · rintro ⟨hlimits, hleast⟩
    refine ⟨by simpa [hε] using hlimits, fun l hl => ?_⟩
    simp only [entry_permuteRows, value_permuteRows, hε] at hl ⊢
    exact hleast (σ l) hl

section Exact

variable [IsStrictOrderedRing F] (hε : t.epsilon = 0) (hbasic : Function.Injective t.basic)

include hε hbasic

/-- Without a tolerance the row that is found is determined: it is the one with the lowest
basic variable among the rows with the least limit. -/
theorem lowestLeastRow_eq_some_iff {r : Fin m} :
    t.lowestLeastRow k = some r ↔
      t.IsLeastLimit r k ∧ ∀ i, t.IsLeastLimit i k → t.basic r ≤ t.basic i := by
  have hfound {r : Fin m} (h : t.lowestLeastRow k = some r) :
      t.IsLeastLimit r k ∧ ∀ i, t.IsLeastLimit i k → t.basic r ≤ t.basic i := by
    obtain ⟨hleast, hlowest⟩ := lowestLeastRow_eq_some hε h
    refine ⟨hleast, fun i hi => hlowest i hi.limits ?_⟩
    exact (hi.least r hleast.limits).antisymm (hleast.least i hi.limits)
  constructor
  · exact hfound
  · rintro ⟨hleast, hlowest⟩
    cases h : t.lowestLeastRow k with
    | none => exact absurd hleast.limits (lowestLeastRow_eq_none_iff.mp h r).not_gt
    | some r' =>
      obtain ⟨hleast', hlowest'⟩ := hfound h
      exact congrArg some (hbasic ((hlowest' r hleast).antisymm (hlowest r' hleast')))

theorem lowestLeastRow_permuteRows (σ : Equiv.Perm (Fin m)) :
    (t.permuteRows σ).lowestLeastRow k = (t.lowestLeastRow k).map σ.symm := by
  have hbasic' : Function.Injective (t.permuteRows σ).basic := by
    intro i l h
    rw [basic_permuteRows, basic_permuteRows] at h
    exact σ.injective (hbasic h)
  refine Option.ext fun r => ?_
  have hrow : (t.lowestLeastRow k).map σ.symm = some r ↔ t.lowestLeastRow k = some (σ r) := by
    simp [Option.map_eq_some_iff, Equiv.symm_apply_eq]
  rw [hrow, lowestLeastRow_eq_some_iff hε hbasic,
    lowestLeastRow_eq_some_iff (t := t.permuteRows σ) hε hbasic']
  simp only [isLeastLimit_permuteRows_iff, basic_permuteRows]
  rw [← σ.forall_congr_right (q := fun i => t.IsLeastLimit i k → t.basic (σ r) ≤ t.basic i)]

end Exact

end Tableau

/-- **The row of the lowest basic variable, within the tolerance.** The rule finds a row exactly
if some row limits the column, as the plain search for the least limit does. The row it finds
limits the column, and its limit is at most twice the tolerance above any other. Without a
tolerance, and with a different basic variable in every row, it is the row of the lowest basic
variable among those with the least limit, in whatever order the rows are. -/
theorem PivotRule.lowest_row_within {F : Type} [Field F] [LinearOrder F] [IsStrictOrderedRing F]
    {m n : Nat} (t : Tableau F m n) (hε : 0 ≤ t.epsilon) (k : Fin n) :
    (∀ memory, PivotRule.lowest.row t k memory =
      .ok ((t.lowestLeastRow k).map Fin.val, memory)) ∧
    (t.lowestLeastRow k = none ↔ ∀ i, ¬ t.epsilon < t.entry i k) ∧
    (t.lowestLeastRow k = none ↔ t.leavingRow k = .ok none) ∧
    (∀ r, t.lowestLeastRow k = some r → t.epsilon < t.entry r k ∧
      ∀ i, t.epsilon < t.entry i k →
        t.value r / t.entry r k ≤ t.value i / t.entry i k + 2 * t.epsilon) ∧
    (t.epsilon = 0 → Function.Injective t.basic →
      (∀ r, t.lowestLeastRow k = some r ↔
        t.IsLeastLimit r k ∧ ∀ i, t.IsLeastLimit i k → t.basic r ≤ t.basic i) ∧
      ∀ σ : Equiv.Perm (Fin m),
        (t.permuteRows σ).lowestLeastRow k = (t.lowestLeastRow k).map σ.symm) := by
  refine ⟨fun memory => ?_, ?_, ?_, fun r hr => ⟨Tableau.limits_of_lowestLeastRow hr, ?_⟩, ?_⟩
  · show (t.lowestLeavingRow k).map _ = _
    rw [Tableau.lowestLeavingRow_val]
    rfl
  · simp only [Tableau.lowestLeastRow_eq_none_iff, not_lt]
  · rw [Tableau.leavingRow_val, Except.ok.injEq, Tableau.lowestLeastRow_eq_none_iff,
      Tableau.firstLeastRow_eq_none_iff]
  · exact fun i hi => Tableau.limit_lowestLeastRow_le hε hr hi
  · exact fun hzero hbasic => ⟨fun r => Tableau.lowestLeastRow_eq_some_iff hzero hbasic,
      Tableau.lowestLeastRow_permuteRows hzero hbasic⟩

/-- The limits of the last column are close to each other, and the least one occurs twice. -/
def nearTies (epsilon : ℚ) : Tableau ℚ 4 5 where
  coefficients := #v[#v[0, 0, 0, 1, 1], #v[0, 0, 1, 0, 1], #v[1, 0, 0, 0, 1], #v[0, 1, 0, 0, 1]]
  values := #v[1, 9 / 10, 11 / 10, 9 / 10]
  costs := #v[0, 0, 0, 0, 1]
  basis := #v[3, 2, 0, 1]
  epsilon

/-- With a tolerance the greatest limit is found, as far from the least one as it can be.
Without it the last row is found, and another one if two rows change places. -/
theorem lowest_row_within_nearTies :
    (0 ≤ (nearTies (1 / 10)).epsilon ∧ (nearTies (1 / 10)).lowestLeastRow 4 = some 2 ∧
      (∀ i, (nearTies (1 / 10)).epsilon < (nearTies (1 / 10)).entry i 4 →
        (nearTies (1 / 10)).value 2 / (nearTies (1 / 10)).entry 2 4 ≤
          (nearTies (1 / 10)).value i / (nearTies (1 / 10)).entry i 4 +
            2 * (nearTies (1 / 10)).epsilon) ∧
      (nearTies (1 / 10)).value 2 / (nearTies (1 / 10)).entry 2 4 =
        (nearTies (1 / 10)).value 1 / (nearTies (1 / 10)).entry 1 4 +
          2 * (nearTies (1 / 10)).epsilon) ∧
    0 ≤ (nearTies 0).epsilon ∧ (nearTies 0).epsilon = 0 ∧ Function.Injective (nearTies 0).basic ∧
      (nearTies 0).IsLeastLimit 3 4 ∧ (nearTies 0).IsLeastLimit 1 4 ∧
      (nearTies 0).lowestLeastRow 4 = some 3 ∧
      ((nearTies 0).permuteRows (Equiv.swap 1 3)).lowestLeastRow 4 = some 1 := by
  have hε : 0 ≤ (nearTies (1 / 10)).epsilon := by decide +kernel
  have hfound : (nearTies (1 / 10)).lowestLeastRow 4 = some 2 := by decide +kernel
  obtain ⟨-, -, -, hnear, -⟩ := PivotRule.lowest_row_within (nearTies (1 / 10)) hε 4
  have hbasic : Function.Injective (nearTies 0).basic := by decide +kernel
  have hlast : (nearTies 0).lowestLeastRow 4 = some 3 := by decide +kernel
  obtain ⟨-, -, -, -, hexact⟩ := PivotRule.lowest_row_within (nearTies 0) le_rfl 4
  obtain ⟨hiff, hpermute⟩ := hexact rfl hbasic
  have hleast := ((hiff 3).mp hlast).1
  refine ⟨⟨hε, hfound, (hnear 2 hfound).2, by decide +kernel⟩, le_rfl, rfl, hbasic, hleast, ?_,
    hlast, ?_⟩
  · exact ⟨by decide +kernel, hleast.least⟩
  · rw [hpermute, hlast]
    decide

end LinearProgramming
