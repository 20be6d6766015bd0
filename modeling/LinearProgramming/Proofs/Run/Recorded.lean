import LinearProgramming.Proofs.Run.Visited
import LinearProgramming.Proofs.Tableau.Recording

/-!
# What the recorded snapshots show

A history keeps the snapshots of earlier states, all of them or only the first and the
latest. Each snapshot shows the values of its tableau in the rows of the equations, and its
objective in the last row. Along a run without a tolerance no value is negative and no pivot
lowers the objective, so neither is seen in any history, whether it has all states or not.
-/

namespace LinearProgramming

namespace Snapshot

variable {F : Type}

/-- The number in the third cell of the last row, which is that of the objective. -/
def objective? (s : Snapshot F) : Option F :=
  s.costRow?.bind fun row => row[2]?.bind Cell.number?

/-- Whether the third cell in the row of every equation, which is that of its value, has a
number that is not negative. -/
def IsFeasible [Scalar F] (s : Snapshot F) : Prop :=
  ∀ row ∈ s.equationRows, ∃ x, row[2]? = some (.number x) ∧ 0 ≤ x

/-- Whether the objective that one snapshot shows is at most that of another. -/
def IsBelow [Scalar F] (s later : Snapshot F) : Prop :=
  ∃ x y, s.objective? = some x ∧ later.objective? = some y ∧ x ≤ y

end Snapshot

namespace Tableau

variable {F : Type} [Scalar F] {m n : Nat}

theorem equationRows_snapshot (t : Tableau F m n) :
    t.snapshot.equationRows = (List.finRange m).map (t.equationCells t.largestColumn) := by
  simp [Snapshot.equationRows, snapshot]

theorem objective?_snapshot (t : Tableau F m n) :
    t.snapshot.objective? = some t.objectiveValue := by
  simp [Snapshot.objective?, Snapshot.costRow?, snapshot, costCells, Cell.number?]

theorem isBelow_snapshot_iff {s : Snapshot F} (t : Tableau F m n) :
    s.IsBelow t.snapshot ↔ ∃ x, s.objective? = some x ∧ x ≤ t.objectiveValue := by
  unfold Snapshot.IsBelow
  simp [objective?_snapshot]

end Tableau

section Exact

variable {F : Type} [Field F] [LinearOrder F] {m n : Nat}

theorem Tableau.isFeasible_snapshot {t : Tableau F m n} (h : t.IsFeasible) :
    t.snapshot.IsFeasible := by
  intro row hrow
  rw [equationRows_snapshot] at hrow
  obtain ⟨i, -, rfl⟩ := List.mem_map.mp hrow
  exact ⟨t.value i, rfl, h i⟩

namespace Trail

/-- Whether no recorded snapshot shows a negative value, and none shows a higher objective
than a later one or than the current tableau. -/
structure Ascends (t : Trail F m n) : Prop where
  feasible : ∀ s ∈ t.history.toList, s.IsFeasible
  ascending : t.history.toList.Pairwise Snapshot.IsBelow
  below : ∀ s ∈ t.history.toList, s.IsBelow t.tableau.snapshot

theorem ascends_start {t : Tableau F m n} (h : t.IsFeasible) (recording : Bool) :
    ((start t).record recording).Ascends where
  feasible := List.forall_mem_singleton.mpr (Tableau.isFeasible_snapshot h)
  ascending := List.pairwise_singleton _ _
  below := List.forall_mem_singleton.mpr
    ((Tableau.isBelow_snapshot_iff t).mpr ⟨_, t.objective?_snapshot, le_rfl⟩)

/-- A pivot that keeps the values feasible and does not lower the objective adds a snapshot
which continues the ascent. -/
theorem Ascends.pivot {t : Trail F m n} (h : t.Ascends) {r : Fin m} {k : Fin n}
    (hf : (t.tableau.pivot r k).IsFeasible)
    (hle : t.tableau.objectiveValue ≤ (t.tableau.pivot r k).objectiveValue) :
    (t.pivot r k).Ascends := by
  obtain ⟨kept, hkept, hlist⟩ :=
    t.history.exists_toList_add t.recording (t.tableau.pivot r k).snapshot
  have hhistory : (t.pivot r k).history.toList = kept ++ [(t.tableau.pivot r k).snapshot] := hlist
  have hbelow : ∀ s ∈ kept, s.IsBelow (t.tableau.pivot r k).snapshot := by
    intro s hs
    obtain ⟨x, hx, hxle⟩ := (Tableau.isBelow_snapshot_iff _).mp (h.below s (hkept.subset hs))
    exact (Tableau.isBelow_snapshot_iff _).mpr ⟨x, hx, hxle.trans hle⟩
  constructor
  · rw [hhistory]
    refine List.forall_mem_append.mpr ⟨fun s hs => h.feasible s (hkept.subset hs), ?_⟩
    exact List.forall_mem_singleton.mpr (Tableau.isFeasible_snapshot hf)
  · rw [hhistory]
    refine List.pairwise_append.mpr
      ⟨h.ascending.sublist hkept, List.pairwise_singleton _ _, fun s hs s' hs' => ?_⟩
    rw [List.mem_singleton.mp hs']
    exact hbelow s hs
  · rw [hhistory]
    refine List.forall_mem_append.mpr ⟨hbelow, List.forall_mem_singleton.mpr ?_⟩
    exact (Tableau.isBelow_snapshot_iff _).mpr ⟨_, Tableau.objective?_snapshot _, le_rfl⟩

end Trail

namespace RunState

variable [IsStrictOrderedRing F] {rule : PivotRule F}

/-- Without a tolerance each pivot of the method gains something, unless the value of its row
is zero. -/
theorem gain_of_choose (hrule : rule ∈ PivotRule.ofMethod) {s : RunState rule m n}
    (hε : s.trail.tableau.epsilon = 0) (hf : s.trail.tableau.IsFeasible)
    (hopt : ¬ s.trail.tableau.IsOptimal) {choice : Choice rule m n}
    (h : s.choose = .ok (.ok choice)) :
    (s.advance choice).trail.tableau.objectiveValue =
        s.trail.tableau.objectiveValue + s.trail.tableau.gain choice.row choice.column ∧
      0 ≤ s.trail.tableau.gain choice.row choice.column ∧
      (0 < s.trail.tableau.gain choice.row choice.column ↔
        0 < s.trail.tableau.value choice.row) := by
  obtain ⟨hprofit, hleast⟩ := isLeastLimit_of_choose hrule hε hopt h
  have hlimits := hleast.limits
  rw [hε] at hprofit hlimits
  exact ⟨Tableau.objectiveValue_pivot_eq_add_gain _ hlimits.ne',
    Tableau.gain_nonneg hf hprofit hlimits, Tableau.gain_pos_iff hprofit hlimits⟩

theorem Step.ascends (hrule : rule ∈ PivotRule.ofMethod) {s s' : RunState rule m n}
    (hε : s.trail.tableau.epsilon = 0) (hf : s.trail.tableau.IsFeasible)
    (h : s.trail.Ascends) (hstep : Step s s') : s'.trail.Ascends := by
  obtain ⟨hopt, choice, hchoice, rfl⟩ := hstep
  obtain ⟨hvalue, hgain, -⟩ := gain_of_choose hrule hε hf hopt hchoice
  obtain ⟨-, hleast⟩ := isLeastLimit_of_choose hrule hε hopt hchoice
  refine h.pivot (hf.pivot hε hleast) ?_
  exact (le_add_of_nonneg_right hgain).trans hvalue.ge

/-- The history of every state of a run ascends. -/
theorem ascends_of_mem_visited (hrule : rule ∈ PivotRule.ofMethod) {s : RunState rule m n}
    (hε : s.trail.tableau.epsilon = 0) (hf : s.trail.tableau.IsFeasible) (h : s.trail.Ascends)
    (left : Nat) : ∀ s' ∈ visited left s, s'.trail.Ascends := by
  have hinv : ∀ s' ∈ visited left s, s'.IsSound s.trail.tableau ∧ s'.trail.Ascends := by
    refine forall_mem_visited (fun s' next hs' hstep => ?_) ⟨⟨.refl _, hf⟩, h⟩ left
    have hε' : s'.trail.tableau.epsilon = 0 := hs'.1.derivesFrom.epsilon_eq.trans hε
    exact ⟨hs'.1.step hrule hε hstep, hstep.ascends hrule hε' hs'.1.feasible hs'.2⟩
  exact fun s' hs' => (hinv s' hs').2

end RunState

end Exact

end LinearProgramming
