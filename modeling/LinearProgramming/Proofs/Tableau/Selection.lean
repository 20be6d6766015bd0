import LinearProgramming.Proofs.Tableau.Solutions
import LinearProgramming.PivotRule

/-!
# What the rules choose

The searches for a column and a row keep the best candidate so far. Their results are
described here without the search: a profitable column, and a row whose limit is least.
The search for the lowest basic variable treats limits within the tolerance as ties. Only
without a tolerance is the limit it holds the limit of the row it holds, and then it finds
the lowest basic variable among the rows with the least limit.
-/

namespace LinearProgramming

theorem firstBest_append_singleton {ι F : Type} (better : F → F → Bool) (l : List (ι × F))
    (c : ι × F) :
    firstBest better (l ++ [c]) = match firstBest better l with
      | none => some c
      | some b => if better c.2 b.2 then some c else some b := by
  unfold firstBest
  rw [List.foldl_append]
  rfl

theorem firstBest_eq_none_iff {ι F : Type} {better : F → F → Bool} {l : List (ι × F)} :
    firstBest better l = none ↔ l = [] := by
  constructor
  · intro h
    induction l using List.reverseRecOn with
    | nil => rfl
    | append_singleton l c _ =>
      rw [firstBest_append_singleton] at h
      cases hb : firstBest better l with
      | none => simp [hb] at h
      | some b =>
        simp only [hb] at h
        split at h <;> cases h
  · rintro rfl
    rfl

/-- Which candidate is the first best does not depend on how candidates are named. -/
theorem firstBest_map {ι κ F : Type} (better : F → F → Bool) (name : ι → κ) (l : List (ι × F)) :
    firstBest better (l.map (Prod.map name id)) = (firstBest better l).map (Prod.map name id) := by
  induction l using List.reverseRecOn with
  | nil => rfl
  | append_singleton l c ih =>
    rw [List.map_append, List.map_singleton, firstBest_append_singleton,
      firstBest_append_singleton, ih]
    cases firstBest better l with
    | none => rfl
    | some b =>
      show (if better c.2 b.2 = true then _ else _) =
        Option.map _ (if better c.2 b.2 = true then _ else _)
      split <;> rfl

/-- Whether keys are compared strictly: not both of two are better than the other, and what is
better than a key is better than everything that is not. -/
structure IsStrictly {F : Type} (better : F → F → Bool) : Prop where
  asymm : ∀ x y, better x y = true → better y x = false
  of_not : ∀ x y z, better x y = true → better z y = false → better x z = true

theorem isStrictly_larger {F : Type} [LinearOrder F] :
    IsStrictly fun x y : F => decide (y < x) where
  asymm := by simpa using fun x y => le_of_lt
  of_not := by simpa using fun x y z hxy hyz => lt_of_le_of_lt hyz hxy

theorem isStrictly_smaller {F : Type} [LinearOrder F] :
    IsStrictly fun x y : F => decide (x < y) where
  asymm := by simpa using fun x y => le_of_lt
  of_not := by simpa using fun x y z hxy hyz => lt_of_lt_of_le hxy hyz

/-- The first best candidate is better than all before it, and none after it is better. -/
theorem firstBest_eq_some {ι F : Type} {better : F → F → Bool} (hbetter : IsStrictly better)
    {l : List (ι × F)} {b : ι × F} (h : firstBest better l = some b) :
    ∃ before after, l = before ++ b :: after ∧ (∀ c ∈ before, better b.2 c.2 = true) ∧
      ∀ c ∈ after, better c.2 b.2 = false := by
  induction l using List.reverseRecOn generalizing b with
  | nil => cases h
  | append_singleton l c ih =>
    rw [firstBest_append_singleton] at h
    cases hb : firstBest better l with
    | none =>
      obtain rfl := firstBest_eq_none_iff.mp hb
      rw [hb] at h
      cases h
      exact ⟨[], [], rfl, by simp, by simp⟩
    | some best =>
      obtain ⟨before, after, rfl, hbefore, hafter⟩ := ih hb
      rw [hb] at h
      by_cases hc : better c.2 best.2 = true
      · obtain rfl : c = b := by simpa [hc] using h
        refine ⟨before ++ best :: after, [], by simp, ?_, by simp⟩
        intro d hd
        rcases List.mem_append.mp hd with hd | hd
        · exact hbetter.of_not _ _ _ hc (hbetter.asymm _ _ (hbefore d hd))
        · rcases List.mem_cons.mp hd with rfl | hd
          · exact hc
          · exact hbetter.of_not _ _ _ hc (hafter d hd)
      · obtain rfl : best = b := by simpa [hc] using h
        refine ⟨before, after ++ [c], by simp, hbefore, ?_⟩
        intro d hd
        rcases List.mem_append.mp hd with hd | hd
        · exact hafter d hd
        · rw [List.mem_singleton.mp hd]
          simpa using hc

theorem not_better_firstBest {ι F : Type} {better : F → F → Bool} (hbetter : IsStrictly better)
    {l : List (ι × F)} {b : ι × F} (h : firstBest better l = some b) :
    b ∈ l ∧ ∀ c ∈ l, better c.2 b.2 = false := by
  obtain ⟨before, after, rfl, hbefore, hafter⟩ := firstBest_eq_some hbetter h
  refine ⟨by simp, fun c hc => ?_⟩
  rcases List.mem_append.mp hc with hc | hc
  · exact hbetter.asymm _ _ (hbefore c hc)
  · rcases List.mem_cons.mp hc with rfl | hc
    · by_contra hself
      rw [Bool.not_eq_false] at hself
      exact Bool.false_ne_true ((hbetter.asymm _ _ hself).symm.trans hself)
    · exact hafter c hc

/-- Among numbered candidates the first best one is better than all with a lower number. -/
theorem better_firstBest_of_lt {ι F : Type} [Preorder ι] {better : F → F → Bool}
    (hbetter : IsStrictly better)
    {l : List (ι × F)} (hl : l.Pairwise fun c d => c.1 < d.1) {b : ι × F}
    (h : firstBest better l = some b) {c : ι × F} (hc : c ∈ l) (hlt : c.1 < b.1) :
    better b.2 c.2 = true := by
  obtain ⟨before, after, rfl, hbefore, -⟩ := firstBest_eq_some hbetter h
  rcases List.mem_append.mp hc with hc | hc
  · exact hbefore c hc
  · rcases List.mem_cons.mp hc with rfl | hc
    · exact absurd hlt (lt_irrefl _)
    · have hcons := (List.pairwise_append.mp hl).2.1
      exact absurd hlt (List.rel_of_pairwise_cons hcons hc).not_gt

namespace Tableau

section Numbered

variable {F : Type} [Scalar F] {m n : Nat}

theorem leavingRow_val (t : Tableau F m n) (k : Fin n) :
    t.leavingRow k = .ok (t.firstLeastRow k) := by
  simp [leavingRow]

theorem lowestLeavingRow_val (t : Tableau F m n) (k : Fin n) :
    t.lowestLeavingRow k = .ok (t.lowestLeastRow k) := by
  simp [lowestLeavingRow]

end Numbered

variable {F : Type} [Field F] [LinearOrder F] {m n : Nat}

/-- Whether a row limits a column at least as much as every other. -/
structure IsLeastLimit (t : Tableau F m n) (r : Fin m) (k : Fin n) : Prop where
  limits : t.epsilon < t.entry r k
  least : ∀ i, t.epsilon < t.entry i k →
    t.value r / t.entry r k ≤ t.value i / t.entry i k

/-- Whether a pivot is the one that takes the first profitable column and, among the rows
with the least limit, the one with the lowest basic variable. -/
structure IsLowestPivot (t : Tableau F m n) (r : Fin m) (k : Fin n) : Prop
    extends t.IsLeastLimit r k where
  profitable : t.epsilon < t.reducedCost k
  first : ∀ j < k, t.reducedCost j ≤ t.epsilon
  lowest : ∀ i, t.epsilon < t.entry i k →
    t.value i / t.entry i k = t.value r / t.entry r k → t.basic r ≤ t.basic i

theorem not_isOptimal_iff (t : Tableau F m n) :
    ¬ t.IsOptimal ↔ ∃ j, t.epsilon < t.reducedCost j := by
  simp [IsOptimal]

theorem mem_profitable {t : Tableau F m n} {c : Fin n × F} :
    c ∈ t.profitable ↔ c.2 = t.reducedCost c.1 ∧ t.epsilon < t.reducedCost c.1 := by
  unfold profitable
  rw [List.mem_filter]
  constructor
  · rintro ⟨hmem, hlt⟩
    obtain ⟨j, -, rfl⟩ := List.mem_map.mp hmem
    exact ⟨rfl, by simpa using hlt⟩
  · rintro ⟨hkey, hlt⟩
    refine ⟨List.mem_map.mpr ⟨c.1, List.mem_finRange _, ?_⟩, ?_⟩
    · rw [← hkey]
    · simpa [hkey] using hlt

theorem largestColumn_eq_none_iff (t : Tableau F m n) :
    t.largestColumn = none ↔ t.IsOptimal := by
  unfold largestColumn
  rw [Option.map_eq_none_iff, firstBest_eq_none_iff, List.eq_nil_iff_forall_not_mem,
    ← not_iff_not, not_isOptimal_iff, not_forall]
  constructor
  · rintro ⟨c, hc⟩
    exact ⟨c.1, (mem_profitable.mp (not_not.mp hc)).2⟩
  · rintro ⟨j, hj⟩
    exact ⟨(j, t.reducedCost j), not_not.mpr (mem_profitable.mpr ⟨rfl, hj⟩)⟩

theorem largestColumn_eq_some {t : Tableau F m n} {j : Fin n} (h : t.largestColumn = some j) :
    t.epsilon < t.reducedCost j ∧ ∀ k, t.reducedCost k ≤ t.reducedCost j := by
  obtain ⟨b, hb, rfl⟩ := Option.map_eq_some_iff.mp h
  obtain ⟨hmem, hbest⟩ := not_better_firstBest isStrictly_larger hb
  obtain ⟨hkey, hlt⟩ := mem_profitable.mp hmem
  refine ⟨hlt, fun k => ?_⟩
  by_cases hk : t.epsilon < t.reducedCost k
  · have hle := hbest (k, t.reducedCost k) (mem_profitable.mpr ⟨rfl, hk⟩)
    simpa [hkey] using hle
  · exact (not_lt.mp hk).trans hlt.le

theorem pairwise_profitable (t : Tableau F m n) :
    t.profitable.Pairwise fun c d => c.1 < d.1 := by
  unfold profitable
  refine List.Pairwise.filter _ (List.pairwise_map.mpr ?_)
  exact List.pairwise_lt_finRange n

theorem reducedCost_lt_of_lt_largestColumn {t : Tableau F m n} {j : Fin n}
    (h : t.largestColumn = some j) {k : Fin n} (hk : k < j) :
    t.reducedCost k < t.reducedCost j := by
  have hprofit := (largestColumn_eq_some h).1
  obtain ⟨b, hb, rfl⟩ := Option.map_eq_some_iff.mp h
  by_cases hlt : t.epsilon < t.reducedCost k
  · have hbetter := better_firstBest_of_lt isStrictly_larger
      t.pairwise_profitable hb (mem_profitable.mpr ⟨rfl, hlt⟩ : (k, t.reducedCost k) ∈ _) hk
    have hmem := (not_better_firstBest isStrictly_larger hb).1
    rw [(mem_profitable.mp hmem).1] at hbetter
    exact of_decide_eq_true hbetter
  · exact (not_lt.mp hlt).trans_lt hprofit

theorem firstColumn_eq_none_iff (t : Tableau F m n) :
    t.firstColumn = none ↔ t.IsOptimal := by
  simp [firstColumn, IsOptimal]

theorem firstColumn_eq_some {t : Tableau F m n} {j : Fin n} (h : t.firstColumn = some j) :
    t.epsilon < t.reducedCost j ∧ ∀ k < j, t.reducedCost k ≤ t.epsilon := by
  unfold firstColumn at h
  obtain ⟨hj, i, hi, rfl, hbefore⟩ := List.find?_eq_some_iff_getElem.mp h
  refine ⟨by simpa using hj, fun k hk => ?_⟩
  have hki : k.val < i := by simpa [Fin.lt_def] using hk
  simpa using hbefore k.val hki

theorem exists_largestColumn {t : Tableau F m n} (h : ¬ t.IsOptimal) :
    ∃ k, t.largestColumn = some k ∧ t.epsilon < t.reducedCost k := by
  have hne : t.largestColumn ≠ none := mt (largestColumn_eq_none_iff t).mp h
  obtain ⟨k, hk⟩ := Option.ne_none_iff_exists'.mp hne
  exact ⟨k, hk, (largestColumn_eq_some hk).1⟩

theorem exists_firstColumn {t : Tableau F m n} (h : ¬ t.IsOptimal) :
    ∃ k, t.firstColumn = some k ∧ t.epsilon < t.reducedCost k ∧
      ∀ j < k, t.reducedCost j ≤ t.epsilon := by
  have hne : t.firstColumn ≠ none := mt (firstColumn_eq_none_iff t).mp h
  obtain ⟨k, hk⟩ := Option.ne_none_iff_exists'.mp hne
  exact ⟨k, hk, firstColumn_eq_some hk⟩

theorem mem_limiting {t : Tableau F m n} {k : Fin n} {c : Fin m × F} :
    c ∈ t.limiting k ↔
      t.epsilon < t.entry c.1 k ∧ c.2 = t.value c.1 / t.entry c.1 k := by
  unfold limiting
  rw [List.mem_map]
  constructor
  · rintro ⟨i, hi, rfl⟩
    rw [List.mem_filter] at hi
    exact ⟨by simpa using hi.2, rfl⟩
  · rintro ⟨hlt, hkey⟩
    refine ⟨c.1, List.mem_filter.mpr ⟨List.mem_finRange _, by simpa using hlt⟩, ?_⟩
    rw [← hkey]

theorem limiting_eq_nil_iff {t : Tableau F m n} {k : Fin n} :
    t.limiting k = [] ↔ ∀ i, t.entry i k ≤ t.epsilon := by
  rw [List.eq_nil_iff_forall_not_mem]
  constructor
  · intro h i
    by_contra hlt
    exact h (i, t.value i / t.entry i k) (mem_limiting.mpr ⟨not_le.mp hlt, rfl⟩)
  · intro h c hc
    exact (h c.1).not_gt (mem_limiting.mp hc).1

theorem firstLeastRow_eq_none_iff {t : Tableau F m n} {k : Fin n} :
    t.firstLeastRow k = none ↔ ∀ i, t.entry i k ≤ t.epsilon := by
  unfold firstLeastRow
  rw [Option.map_eq_none_iff, firstBest_eq_none_iff, limiting_eq_nil_iff]

theorem firstLeastRow_eq_some {t : Tableau F m n} {k : Fin n} {r : Fin m}
    (h : t.firstLeastRow k = some r) : t.IsLeastLimit r k := by
  obtain ⟨b, hb, rfl⟩ := Option.map_eq_some_iff.mp h
  obtain ⟨hmem, hbest⟩ := not_better_firstBest isStrictly_smaller hb
  obtain ⟨hlt, hkey⟩ := mem_limiting.mp hmem
  refine ⟨hlt, fun i hi => ?_⟩
  have hle := hbest (i, t.value i / t.entry i k) (mem_limiting.mpr ⟨hi, rfl⟩)
  simpa [hkey] using hle

theorem pairwise_limiting (t : Tableau F m n) (k : Fin n) :
    (t.limiting k).Pairwise fun c d => c.1 < d.1 := by
  unfold limiting
  exact List.pairwise_map.mpr ((List.pairwise_lt_finRange m).filter _)

theorem lt_limit_of_lt_firstLeastRow {t : Tableau F m n} {k : Fin n} {r : Fin m}
    (h : t.firstLeastRow k = some r) {i : Fin m} (hi : i < r) (hlimits : t.epsilon < t.entry i k) :
    t.value r / t.entry r k < t.value i / t.entry i k := by
  obtain ⟨b, hb, rfl⟩ := Option.map_eq_some_iff.mp h
  have hbetter := better_firstBest_of_lt isStrictly_smaller
    (t.pairwise_limiting k) hb
    (mem_limiting.mpr ⟨hlimits, rfl⟩ : (i, t.value i / t.entry i k) ∈ _) hi
  have hmem := (not_better_firstBest isStrictly_smaller hb).1
  rw [(mem_limiting.mp hmem).2] at hbetter
  exact of_decide_eq_true hbetter

theorem foldl_nearerRow_eq_none_iff {t : Tableau F m n} {l : List (Fin m × F)} :
    l.foldl t.nearerRow none = none ↔ l = [] := by
  constructor
  · intro h
    induction l using List.reverseRecOn with
    | nil => rfl
    | append_singleton l c _ =>
      rw [List.foldl_append, List.foldl_cons, List.foldl_nil] at h
      unfold nearerRow at h
      split at h
      · cases h
      · split at h
        · split at h <;> cases h
        · split at h <;> cases h
  · rintro rfl
    rfl

theorem lowestLeastRow_eq_none_iff {t : Tableau F m n} {k : Fin n} :
    t.lowestLeastRow k = none ↔ ∀ i, t.entry i k ≤ t.epsilon := by
  unfold lowestLeastRow
  rw [Option.map_eq_none_iff, foldl_nearerRow_eq_none_iff, limiting_eq_nil_iff]

theorem fst_nearerRow {t : Tableau F m n} {held c b : Fin m × F}
    (h : t.nearerRow (some held) c = some b) : b.1 = c.1 ∨ b.1 = held.1 := by
  unfold nearerRow at h
  dsimp only at h
  split at h
  case isTrue =>
    split at h
    · obtain rfl := Option.some.inj h
      exact .inl rfl
    · obtain rfl := Option.some.inj h
      exact .inr rfl
  case isFalse =>
    split at h
    · obtain rfl := Option.some.inj h
      exact .inl rfl
    · obtain rfl := Option.some.inj h
      exact .inr rfl

/-- Whatever counts as a tie, the row that is held is one of those seen. The limit that is
held need not be its own. -/
theorem exists_mem_of_foldl_nearerRow {t : Tableau F m n} {l : List (Fin m × F)}
    {b : Fin m × F} (h : l.foldl t.nearerRow none = some b) : ∃ c ∈ l, c.1 = b.1 := by
  induction l using List.reverseRecOn generalizing b with
  | nil => cases h
  | append_singleton l c ih =>
    rw [List.foldl_append, List.foldl_cons, List.foldl_nil] at h
    cases hheld : l.foldl t.nearerRow none with
    | none =>
      rw [hheld] at h
      cases h
      exact ⟨c, by simp, rfl⟩
    | some held =>
      rw [hheld] at h
      rcases fst_nearerRow h with hrow | hrow
      · exact ⟨c, by simp, hrow.symm⟩
      · obtain ⟨d, hd, hrow'⟩ := ih hheld
        exact ⟨d, List.mem_append_left _ hd, hrow'.trans hrow.symm⟩

theorem limits_of_lowestLeastRow {t : Tableau F m n} {k : Fin n} {r : Fin m}
    (h : t.lowestLeastRow k = some r) : t.epsilon < t.entry r k := by
  obtain ⟨b, hb, rfl⟩ := Option.map_eq_some_iff.mp h
  obtain ⟨c, hc, hrow⟩ := exists_mem_of_foldl_nearerRow hb
  rw [← hrow]
  exact (mem_limiting.mp hc).1

variable [IsStrictOrderedRing F]

/-- Without a tolerance only equal limits tie, so the limit that is held is always that of
the row that is held. -/
theorem nearerRow_some {t : Tableau F m n} (hε : t.epsilon = 0) (held c : Fin m × F) :
    t.nearerRow (some held) c =
      if c.2 = held.2 then some (if t.basic c.1 < t.basic held.1 then c else held)
      else some (if c.2 < held.2 then c else held) := by
  have htie : magnitude (c.2 - held.2) ≤ t.epsilon ↔ c.2 = held.2 := by
    rw [hε, magnitude_eq_abs, abs_nonpos_iff, sub_eq_zero]
  unfold nearerRow
  simp only [htie]
  split
  case isTrue he =>
    split
    · rw [← he]
    · rfl
  case isFalse => split <;> rfl

/-- Without a tolerance the held row has the held limit, no row seen so far has a lower
one, and none with the same limit has a lower basic variable. -/
theorem foldl_nearerRow_eq_some {t : Tableau F m n} (hε : t.epsilon = 0)
    {l : List (Fin m × F)} {b : Fin m × F} (h : l.foldl t.nearerRow none = some b) :
    b ∈ l ∧ ∀ c ∈ l, b.2 ≤ c.2 ∧ (c.2 = b.2 → t.basic b.1 ≤ t.basic c.1) := by
  induction l using List.reverseRecOn generalizing b with
  | nil => cases h
  | append_singleton l c ih =>
    rw [List.foldl_append, List.foldl_cons, List.foldl_nil] at h
    cases hheld : l.foldl t.nearerRow none with
    | none =>
      obtain rfl := foldl_nearerRow_eq_none_iff.mp hheld
      rw [hheld] at h
      cases h
      simp
    | some held =>
      obtain ⟨hmem, hleast⟩ := ih hheld
      rw [hheld, nearerRow_some hε] at h
      split at h
      case isTrue htie =>
        obtain rfl := Option.some.inj h
        split
        case isTrue hlower =>
          refine ⟨by simp, List.forall_mem_append.mpr ⟨fun d hd => ?_, ?_⟩⟩
          · rw [htie]
            exact ⟨(hleast d hd).1, fun he => hlower.le.trans ((hleast d hd).2 he)⟩
          · exact List.forall_mem_singleton.mpr ⟨le_rfl, fun _ => le_rfl⟩
        case isFalse hlower =>
          refine ⟨List.mem_append_left _ hmem, List.forall_mem_append.mpr ⟨hleast, ?_⟩⟩
          exact List.forall_mem_singleton.mpr ⟨htie.ge, fun _ => not_lt.mp hlower⟩
      case isFalse htie =>
        obtain rfl := Option.some.inj h
        split
        case isTrue hlt =>
          refine ⟨by simp, List.forall_mem_append.mpr ⟨fun d hd => ?_, ?_⟩⟩
          · have hlt' := hlt.trans_le (hleast d hd).1
            exact ⟨hlt'.le, fun he => absurd he hlt'.ne'⟩
          · exact List.forall_mem_singleton.mpr ⟨le_rfl, fun _ => le_rfl⟩
        case isFalse hlt =>
          refine ⟨List.mem_append_left _ hmem, List.forall_mem_append.mpr ⟨hleast, ?_⟩⟩
          exact List.forall_mem_singleton.mpr ⟨not_lt.mp hlt, fun he => absurd he htie⟩

/-- Without a tolerance the lowest basic variable leaves among those whose rows have the
least limit. -/
theorem lowestLeastRow_eq_some {t : Tableau F m n} (hε : t.epsilon = 0) {k : Fin n}
    {r : Fin m} (h : t.lowestLeastRow k = some r) :
    t.IsLeastLimit r k ∧ ∀ i, t.epsilon < t.entry i k →
      t.value i / t.entry i k = t.value r / t.entry r k → t.basic r ≤ t.basic i := by
  obtain ⟨b, hb, rfl⟩ := Option.map_eq_some_iff.mp h
  obtain ⟨hmem, hleast⟩ := foldl_nearerRow_eq_some hε hb
  obtain ⟨hlt, hkey⟩ := mem_limiting.mp hmem
  have hrow (i : Fin m) (hi : t.epsilon < t.entry i k) :=
    hleast (i, t.value i / t.entry i k) (mem_limiting.mpr ⟨hi, rfl⟩)
  rw [hkey] at hrow
  exact ⟨⟨hlt, fun i hi => (hrow i hi).1⟩, fun i hi => (hrow i hi).2⟩

end Tableau

end LinearProgramming
