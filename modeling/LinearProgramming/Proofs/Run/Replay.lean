import LinearProgramming.Proofs.Run.Recorded
import LinearProgramming.Proofs.Tableau.Elimination

/-!
# Reading the next pivot off a snapshot

A snapshot fills its last column for the column with the largest reduced cost, which is also
the column that the largest rule takes. So a reader who has only the snapshot finds the pivot
that comes next: the first column with the largest number in the last row, and the first row
with the least number in the last column. What the next snapshot shows is then known as well,
by Gauss-Jordan elimination on the numbers that are shown. While recording is on, the history
has a snapshot for every state of a run, so a run can be replayed from its history.
-/

namespace LinearProgramming

namespace Snapshot

variable {F : Type}

/-- The names of the basic variables, a cell for each equation. -/
def labels (s : Snapshot F) : List (Cell F) := s.equationRows.map fun row => row.headD .empty

/-- The numbers of the equations: the cells of the values and those of the variables. -/
def system (s : Snapshot F) : List (List (Cell F)) :=
  s.equationRows.map fun row => (row.drop 2).dropLast

/-- The limits of the rows, a cell for each equation. -/
def limits (s : Snapshot F) : List (Cell F) := s.equationRows.map fun row => row.getLastD .empty

/-- The reduced costs, a cell for each variable. -/
def reducedCosts (s : Snapshot F) : List (Cell F) := ((s.costRow?.getD []).drop 3).dropLast

/-- Whether no row shows a limit. -/
def HasNoLimits (s : Snapshot F) : Prop := ∀ cell ∈ s.limits, cell = .empty

/-- Whether no reduced cost exceeds the tolerance, and no limit is shown. -/
def ShowsOptimum [LE F] (s : Snapshot F) (epsilon : F) : Prop :=
  (∀ cell ∈ s.reducedCosts, ∃ x, cell = .number x ∧ x ≤ epsilon) ∧ s.HasNoLimits

/-- Whether some reduced cost exceeds the tolerance, but no limit is shown. -/
def ShowsNoBound [LT F] (s : Snapshot F) (epsilon : F) : Prop :=
  (∃ x, .number x ∈ s.reducedCosts ∧ epsilon < x) ∧ s.HasNoLimits

end Snapshot

/-- Whether a place among cells is the first of those with the best number: no number is better
than its own, and those before it are worse. -/
structure IsFirstBest {F : Type} (better : F → F → Prop) (cells : List (Cell F)) (place : Nat)
    (x : F) : Prop where
  shown : cells[place]? = some (.number x)
  best : ∀ (i : Nat) (y : F), cells[i]? = some (.number y) → ¬ better y x
  first : ∀ i < place, ∀ y : F, cells[i]? = some (.number y) → better x y

/-- Whether a snapshot announces the next one: that shows the state after a pivot on the first
column with the largest reduced cost, which exceeds the tolerance, and the first row with the
least limit. -/
def Snapshot.Announces {F : Type} [Scalar F] (s next : Snapshot F) (epsilon : F) : Prop :=
  ∃ (j r : Nat) (cost limit : F) (rows : List (List F)),
    IsFirstBest (fun x y => y < x) s.reducedCosts j cost ∧ epsilon < cost ∧
    IsFirstBest (fun x y => x < y) s.limits r limit ∧
    next.labels = s.labels.set r (.label (variableName j)) ∧
    s.system = rows.map (List.map Cell.number) ∧
    next.system = (gaussJordan rows r (j + 1)).map (List.map Cell.number)

namespace Tableau

section Shown

variable {F : Type} [Scalar F] {m n : Nat}

theorem labels_snapshot (t : Tableau F m n) :
    t.snapshot.labels = (List.finRange m).map fun i => .label (variableName (t.basic i)) := by
  rw [Snapshot.labels, equationRows_snapshot, List.map_map]
  rfl

theorem system_snapshot (t : Tableau F m n) :
    t.snapshot.system = t.system.map (List.map Cell.number) := by
  rw [Snapshot.system, equationRows_snapshot, system, List.map_map, List.map_map]
  refine List.map_congr_left fun i _ => ?_
  show (.number (t.value i) :: (List.finRange n).map (fun j => Cell.number (t.entry i j)) ++
    [t.limitCell t.largestColumn i]).dropLast = _
  rw [List.dropLast_concat, Function.comp_apply, systemRow, List.map_cons, List.map_map]
  rfl

theorem limits_snapshot (t : Tableau F m n) :
    t.snapshot.limits = (List.finRange m).map (t.limitCell t.largestColumn) := by
  rw [Snapshot.limits, equationRows_snapshot, List.map_map]
  refine List.map_congr_left fun i _ => ?_
  rw [Function.comp_apply, equationCells, List.getLastD_concat]

theorem reducedCosts_snapshot (t : Tableau F m n) :
    t.snapshot.reducedCosts = (List.finRange n).map fun j => .number (t.reducedCost j) := by
  simp [Snapshot.reducedCosts, Snapshot.costRow?, snapshot, costCells]

end Shown

variable {F : Type} [Field F] [LinearOrder F] {m n : Nat}

omit [Field F] [LinearOrder F] in
theorem getElem?_map_finRange {α : Type} {f : Fin m → α} {i : Nat} {a : α} :
    ((List.finRange m).map f)[i]? = some a ↔ ∃ row : Fin m, row.val = i ∧ f row = a := by
  rw [← List.ofFn_eq_map, List.getElem?_ofFn]
  constructor
  · intro h
    split at h
    case isTrue hi => exact ⟨⟨i, hi⟩, rfl, Option.some.inj h⟩
    case isFalse => cases h
  · rintro ⟨row, rfl, rfl⟩
    exact dif_pos row.isLt

theorem limitCell_eq_number_iff {t : Tableau F m n} {k : Fin n} {i : Fin m} {x : F} :
    t.limitCell (some k) i = .number x ↔
      t.epsilon < t.entry i k ∧ t.value i / t.entry i k = x := by
  unfold limitCell
  dsimp only
  split
  case isTrue h => simp [h]
  case isFalse h => simp [h]

theorem isFirstBest_reducedCosts {t : Tableau F m n} {k : Fin n} (h : t.largestColumn = some k) :
    IsFirstBest (fun x y => y < x) t.snapshot.reducedCosts k (t.reducedCost k) := by
  rw [reducedCosts_snapshot]
  constructor
  case shown => exact getElem?_map_finRange.mpr ⟨k, rfl, rfl⟩
  case best =>
    intro i y hy
    obtain ⟨j, -, hj⟩ := getElem?_map_finRange.mp hy
    cases hj
    exact ((largestColumn_eq_some h).2 j).not_gt
  case first =>
    intro i hi y hy
    obtain ⟨j, rfl, hj⟩ := getElem?_map_finRange.mp hy
    cases hj
    exact reducedCost_lt_of_lt_largestColumn h hi

theorem isFirstBest_limits {t : Tableau F m n} {k : Fin n} (h : t.largestColumn = some k)
    {r : Fin m} (hr : t.firstLeastRow k = some r) :
    IsFirstBest (fun x y => x < y) t.snapshot.limits r (t.value r / t.entry r k) := by
  have hleast := firstLeastRow_eq_some hr
  rw [limits_snapshot, h]
  constructor
  case shown =>
    exact getElem?_map_finRange.mpr
      ⟨r, rfl, limitCell_eq_number_iff.mpr ⟨hleast.limits, rfl⟩⟩
  case best =>
    intro i y hy
    obtain ⟨row, -, hrow⟩ := getElem?_map_finRange.mp hy
    obtain ⟨hlimits, rfl⟩ := limitCell_eq_number_iff.mp hrow
    exact (hleast.least row hlimits).not_gt
  case first =>
    intro i hi y hy
    obtain ⟨row, rfl, hrow⟩ := getElem?_map_finRange.mp hy
    obtain ⟨hlimits, rfl⟩ := limitCell_eq_number_iff.mp hrow
    exact lt_limit_of_lt_firstLeastRow hr hi hlimits

omit [Field F] [LinearOrder F] in
theorem labels_pivot [Scalar F] (t : Tableau F m n) (r : Fin m) (k : Fin n) :
    (t.pivot r k).snapshot.labels = t.snapshot.labels.set r (.label (variableName k)) := by
  rw [labels_snapshot, labels_snapshot]
  refine List.ext_getElem (by simp) fun i hi _ => ?_
  obtain ⟨i, rfl⟩ : ∃ row : Fin m, row.val = i := ⟨⟨i, by simpa using hi⟩, rfl⟩
  rw [List.getElem_set]
  by_cases h : i = r
  · subst h
    simp
  · simp [basic_pivot_of_ne t h, Fin.val_ne_of_ne (Ne.symm h)]

theorem announces_pivot {t : Tableau F m n} (hε : 0 ≤ t.epsilon) {k : Fin n}
    (hk : t.largestColumn = some k) {r : Fin m} (hr : t.firstLeastRow k = some r) :
    t.snapshot.Announces (t.pivot r k).snapshot t.epsilon := by
  have hp : 0 < t.entry r k := hε.trans_lt (firstLeastRow_eq_some hr).limits
  refine ⟨k, r, _, _, t.system, isFirstBest_reducedCosts hk, (largestColumn_eq_some hk).1,
    isFirstBest_limits hk hr, t.labels_pivot r k, t.system_snapshot, ?_⟩
  rw [system_snapshot, system_pivot hp.ne']

/-- Without a column to enter, or without a row that limits it, no limit is shown. -/
theorem hasNoLimits_snapshot {t : Tableau F m n}
    (h : ∀ k, t.largestColumn = some k → ∀ i, t.entry i k ≤ t.epsilon) :
    t.snapshot.HasNoLimits := by
  intro cell hcell
  rw [limits_snapshot] at hcell
  obtain ⟨i, -, rfl⟩ := List.mem_map.mp hcell
  cases hk : t.largestColumn with
  | none => rfl
  | some k => exact if_neg (h k hk i).not_gt

theorem showsOptimum_snapshot {t : Tableau F m n} (h : t.IsOptimal) :
    t.snapshot.ShowsOptimum t.epsilon := by
  refine ⟨fun cell hcell => ?_, hasNoLimits_snapshot fun k hk => ?_⟩
  · rw [reducedCosts_snapshot] at hcell
    obtain ⟨j, -, rfl⟩ := List.mem_map.mp hcell
    exact ⟨_, rfl, h j⟩
  · rw [(largestColumn_eq_none_iff t).mpr h] at hk
    cases hk

theorem showsNoBound_snapshot {t : Tableau F m n} {k : Fin n} (hk : t.largestColumn = some k)
    (h : ∀ i, t.entry i k ≤ t.epsilon) : t.snapshot.ShowsNoBound t.epsilon := by
  refine ⟨⟨t.reducedCost k, ?_, (largestColumn_eq_some hk).1⟩, ?_⟩
  · rw [reducedCosts_snapshot]
    exact List.mem_map.mpr ⟨k, List.mem_finRange k, rfl⟩
  · refine hasNoLimits_snapshot fun j hj => ?_
    obtain rfl := Option.some.inj (hk.symm.trans hj)
    exact h

end Tableau

namespace RunState

section Recording

variable {F : Type} [Scalar F] {rule : PivotRule F} {m n : Nat}

/-- While recording is on, a step keeps it on and adds the snapshot of its state. -/
theorem Step.history_eq {s s' : RunState rule m n} (h : Step s s')
    (hrecording : s.trail.recording = true) :
    s'.trail.recording = true ∧
      s'.trail.history.toList = s.trail.history.toList ++ [s'.trail.tableau.snapshot] := by
  obtain ⟨-, choice, -, rfl⟩ := h
  refine ⟨hrecording, ?_⟩
  show (s.trail.history.add s.trail.recording _).toList = _
  rw [hrecording, History.toList_add_true]
  rfl

/-- In every state the history has the snapshots of all states up to it. -/
theorem history_of_getElem?_visited {s : RunState rule m n} (hrecording : s.trail.recording = true)
    (hstart : s.trail.history.toList = [s.trail.tableau.snapshot]) {left k : Nat}
    {s' : RunState rule m n} (h : (visited left s)[k]? = some s') :
    s'.trail.recording = true ∧ s'.trail.history.toList =
      ((visited left s).take (k + 1)).map fun state => state.trail.tableau.snapshot := by
  induction k generalizing s' with
  | zero =>
    cases h
    exact ⟨hrecording, hstart⟩
  | succ k ih =>
    obtain ⟨hk, rfl⟩ := List.getElem?_eq_some_iff.mp h
    have hstep := List.isChain_iff_getElem.mp (isChain_visited left s) k hk
    obtain ⟨hrecording', hhistory⟩ := ih (List.getElem?_eq_getElem _)
    obtain ⟨hnext, hadded⟩ := hstep.history_eq hrecording'
    refine ⟨hnext, ?_⟩
    rw [hadded, hhistory, List.take_succ_eq_append_getElem hk, List.map_append]
    rfl

/-- At the end of a run the history has the snapshots of all its states, and the count of the
pivots is the position of the last one. -/
theorem history_of_run {s : RunState rule m n} (hrecording : s.trail.recording = true)
    (hstart : s.trail.history.toList = [s.trail.tableau.snapshot]) (hpivots : s.trail.pivots = 0)
    {limit left : Nat} {ending : Ending F m n} (h : run limit left s = .ok ending) :
    ending.trail.history.toList =
        (visited left s).map (fun state => state.trail.tableau.snapshot) ∧
      (visited left s).length = ending.trail.pivots + 1 ∧
      ∃ last remaining, (visited left s)[ending.trail.pivots]? = some last ∧
        ending.trail = last.trail ∧ last.Stops limit remaining ending.failure := by
  obtain ⟨last, remaining, hlast, htrail, -, hstops⟩ := run_eq_ok h
  have hpos : 0 < (visited left s).length := List.length_pos_of_mem (List.mem_of_getLast? hlast)
  rw [Option.mem_def, List.getLast?_eq_getElem?] at hlast
  have hcount : ending.trail.pivots = (visited left s).length - 1 := by
    rw [htrail, pivots_of_getElem?_visited hlast, hpivots, Nat.zero_add]
  rw [← hcount] at hlast
  refine ⟨?_, by omega, last, remaining, hlast, htrail, hstops⟩
  rw [htrail, (history_of_getElem?_visited hrecording hstart hlast).2,
    List.take_of_length_le (by omega)]

end Recording

variable {F : Type} [Field F] [LinearOrder F] [IsStrictOrderedRing F] {m n : Nat}

/-- What the largest rule does next is what the snapshot announces. -/
theorem Step.announces {s s' : RunState (PivotRule.largest : PivotRule F) m n}
    (hε : 0 ≤ s.trail.tableau.epsilon) (h : Step s s') :
    s.trail.tableau.snapshot.Announces s'.trail.tableau.snapshot s.trail.tableau.epsilon := by
  obtain ⟨hopt, choice, hchoice, rfl⟩ := h
  obtain ⟨k, hk, -⟩ := Tableau.exists_largestColumn hopt
  obtain ⟨rfl, hrow⟩ := (choose_leavingRow s hε hk).of_pivot hchoice
  exact Tableau.announces_pivot hε hk hrow

/-- Where the largest rule chooses no pivot, the snapshot shows a cost without a limit. -/
theorem showsNoBound_of_choose {s : RunState (PivotRule.largest : PivotRule F) m n}
    (hε : 0 ≤ s.trail.tableau.epsilon) (hopt : ¬ s.trail.tableau.IsOptimal) {failure : Failure}
    (h : s.choose = .ok (.error failure)) :
    s.trail.tableau.snapshot.ShowsNoBound s.trail.tableau.epsilon := by
  obtain ⟨k, hk, -⟩ := Tableau.exists_largestColumn hopt
  exact Tableau.showsNoBound_snapshot hk ((choose_leavingRow s hε hk).of_failure h).2

end RunState

end LinearProgramming
