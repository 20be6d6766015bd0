import LinearProgramming.Proofs.Checked.Sheet
import LinearProgramming.Proofs.Tableau.Recording
import LinearProgramming.Proofs.Run.Visited

/-!
# Runs on plain lists

A ledger is a sheet with its history. A run on it asks the rules for numbers of columns and
rows, and pivots there, with every access checked. From the ledger of a trail each step makes
the same choice as a step from the trail and leads to the ledger of the next one. So a run on
ledgers comes to the same end as a run on trails, and none of its checks fails on the way.
-/

namespace LinearProgramming

open Checked

/-- A sheet with the snapshots of its states in a list, oldest first. -/
structure Ledger (F : Type) where
  sheet : Sheet F
  recording : Bool
  history : List (Snapshot F)
  pivots : Nat

/-- The rules of the method. -/
inductive MethodRule where
  | largest
  | first
  | lowest
  deriving DecidableEq, Repr

namespace MethodRule

variable {F : Type} [Scalar F]

/-- The rule for tableaux. -/
def rule : MethodRule → PivotRule F
  | largest => .largest
  | first => .first
  | lowest => .lowest

/-- The column that the rule chooses on a sheet. -/
def column : MethodRule → Sheet F → Except Fault (Option Nat)
  | largest, s => s.largestColumn
  | first, s => s.firstColumn
  | lowest, s => s.firstColumn

/-- The row that the rule chooses on a sheet, for a column. -/
def row : MethodRule → Sheet F → Nat → Except Fault (Option Nat)
  | largest, s, j => s.leavingRow j
  | first, s, j => s.leavingRow j
  | lowest, s, j => s.lowestLeavingRow j

end MethodRule

namespace Ledger

variable {F : Type}

/-- The newest snapshot. -/
def latest (l : Ledger F) : Except Fault (Snapshot F) := do
  let last ← sub l.history.length 1
  get l.history last

/-- The history with one more snapshot, which takes the place of the newest one unless all are
kept or there is only the first. -/
def recorded (l : Ledger F) (snapshot : Snapshot F) : Except Fault (List (Snapshot F)) :=
  if l.recording ∨ l.history.length < 2 then .ok (l.history ++ [snapshot])
  else do
    let last ← sub l.history.length 1
    set l.history last snapshot

variable [Scalar F]

def pivot? (l : Ledger F) (row column : Nat) : Except Fault (Except Failure (Ledger F)) := do
  let result ← l.sheet.pivot? row column
  match result with
  | .error failure => .ok (.error failure)
  | .ok sheet => do
    let snapshot ← sheet.snapshot
    let history ← l.recorded snapshot
    .ok (.ok { l with sheet, history, pivots := l.pivots + 1 })

/-- The next pivot that a rule makes, or why there is none. -/
def step (rule : MethodRule) (l : Ledger F) : Except Fault (Except Failure (Ledger F)) := do
  let column ← rule.column l.sheet
  match column with
  | none => .ok (.error .noEnteringColumn)
  | some column => do
    let row ← rule.row l.sheet column
    match row with
    | none => .ok (.error (.unbounded column))
    | some row => l.pivot? row column

/-- Pivots until the sheet is optimal, or until a failure. After each pivot the objective and
the newest snapshot are looked at. -/
def run (rule : MethodRule) (limit : Nat) :
    Nat → Ledger F → Except Fault (Ledger F × Option Failure)
  | left, l => do
    let optimal ← l.sheet.isOptimal
    if optimal then .ok (l, none)
    else match left with
      | 0 => .ok (l, some (.iterationLimit limit))
      | left + 1 => do
        let result ← l.step rule
        match result with
        | .error failure => .ok (l, some failure)
        | .ok next => do
          let _ ← next.sheet.objectiveValue
          let _ ← next.latest
          run rule limit left next

end Ledger

namespace Trail

variable {F : Type} {m n : Nat}

/-- The contents of a trail. -/
def ledger (t : Trail F m n) : Ledger F where
  sheet := t.tableau.sheet
  recording := t.recording
  history := t.history.toList
  pivots := t.pivots

theorem latest_ledger (t : Trail F m n) : t.ledger.latest = .ok t.latest := by
  have hpos : 1 ≤ t.ledger.history.length := by
    rw [ledger, History.length_toList]
    exact Nat.le_add_left 1 _
  rw [Ledger.latest, sub_of_le hpos, ok_bind]
  apply get_of_getElem?
  rw [← List.getLast?_eq_getElem?]
  exact t.history.getLast?_toList

theorem recorded_ledger (t : Trail F m n) (snapshot : Snapshot F) :
    t.ledger.recorded snapshot = .ok (t.history.add t.recording snapshot).toList := by
  unfold Ledger.recorded ledger
  dsimp only
  cases hrecording : t.recording with
  | true => rw [if_pos (.inl rfl), History.toList_add_true]
  | false =>
    rw [History.length_toList, History.length]
    by_cases hsize : t.history.later.size + 1 < 2
    · have hnone : t.history.later = #[] := Array.eq_empty_of_size_eq_zero (by omega)
      rw [if_pos (.inr hsize), History.toList_add_false_of_size_le (by omega), History.toList,
        hnone]
      rfl
    · rw [if_neg (by simpa using hsize), sub_of_le (by omega), ok_bind,
        History.toList_add_false_of_le_size (by omega)]
      apply set_of_lt
      rw [History.length_toList, History.length]
      omega

variable [Scalar F]

theorem isOptimal_ledger (t : Trail F m n) :
    t.ledger.sheet.isOptimal = .ok (decide t.tableau.IsOptimal) := t.tableau.isOptimal_sheet

theorem objectiveValue_ledger (t : Trail F m n) :
    t.ledger.sheet.objectiveValue = .ok t.tableau.objectiveValue := t.tableau.objectiveValue_sheet

theorem pivot?_ledger (t : Trail F m n) (row column : Nat) :
    t.ledger.pivot? row column = .ok ((t.pivot? row column).map ledger) := by
  have hsheet : t.ledger.sheet.pivot? row column = _ := t.tableau.pivot?_sheet row column
  rw [Ledger.pivot?, hsheet, ok_bind, pivot?]
  cases t.tableau.pivotPosition? row column with
  | error failure => rfl
  | ok found =>
    show ((t.tableau.pivot found.1 found.2).sheet.snapshot >>= _) = _
    rw [Tableau.snapshot_sheet, ok_bind, recorded_ledger, ok_bind]
    rfl

end Trail

section Steps

variable {F : Type} [Scalar F] {m n : Nat}

namespace MethodRule

theorem exists_column_sheet (rule : MethodRule) (t : Tableau F m n)
    (memory : (rule.rule : PivotRule F).Memory) :
    ∃ found : Option (Fin n), (rule.rule.column t memory).1 = found.map Fin.val ∧
      rule.column t.sheet = .ok (found.map Fin.val) := by
  cases rule with
  | largest => exact ⟨t.largestColumn, rfl, t.largestColumn_sheet⟩
  | first => exact ⟨t.firstColumn, rfl, t.firstColumn_sheet⟩
  | lowest => exact ⟨t.firstColumn, rfl, t.firstColumn_sheet⟩

theorem exists_row_sheet (rule : MethodRule) (t : Tableau F m n) (j : Fin n)
    (memory : (rule.rule : PivotRule F).Memory) :
    ∃ found memory', rule.rule.row t j memory = .ok (found, memory') ∧
      rule.row t.sheet j = .ok found := by
  have hleaving : (t.leavingRow j).map (fun i => (i.map Fin.val, ())) =
      .ok ((t.firstLeastRow j).map Fin.val, ()) := by
    rw [t.leavingRow_val j]
    rfl
  have hlowest : (t.lowestLeavingRow j).map (fun i => (i.map Fin.val, ())) =
      .ok ((t.lowestLeastRow j).map Fin.val, ()) := by
    rw [t.lowestLeavingRow_val j]
    rfl
  cases rule with
  | largest => exact ⟨_, (), hleaving, t.leavingRow_sheet j⟩
  | first => exact ⟨_, (), hleaving, t.leavingRow_sheet j⟩
  | lowest => exact ⟨_, (), hlowest, t.lowestLeavingRow_sheet j⟩

end MethodRule

namespace RunState

variable {rule : MethodRule}

/-- A rule chooses without misuse, and its choice on the ledger leads to the same next state. -/
theorem exists_step_ledger (s : RunState (rule.rule : PivotRule F) m n) :
    ∃ result, s.choose = .ok result ∧ s.trail.ledger.step rule =
      .ok (result.map fun choice => (s.advance choice).trail.ledger) := by
  obtain ⟨found, hcolumn, hfound⟩ := rule.exists_column_sheet s.trail.tableau s.memory
  have hsheet : rule.column s.trail.ledger.sheet = .ok (found.map Fin.val) := hfound
  unfold choose Ledger.step
  rw [hsheet, ok_bind]
  cases hpair : rule.rule.column s.trail.tableau s.memory with
  | mk column memory =>
    rw [hpair] at hcolumn
    obtain rfl : column = found.map Fin.val := hcolumn
    cases found with
    | none => exact ⟨_, rfl, rfl⟩
    | some j =>
      obtain ⟨row, memory', hrow, hrow'⟩ := rule.exists_row_sheet s.trail.tableau j memory
      have hsheetRow : rule.row s.trail.ledger.sheet j = .ok row := hrow'
      dsimp only [Option.map_some]
      rw [hrow, hsheetRow, ok_bind]
      cases row with
      | none => exact ⟨_, rfl, rfl⟩
      | some row =>
        refine ⟨_, rfl, ?_⟩
        dsimp only
        rw [Trail.pivot?_ledger, Trail.pivot?, map_map, map_map]
        rfl

/-- At an optimum both runs end at once. -/
theorem run_ledger_of_isOptimal {s : RunState (rule.rule : PivotRule F) m n}
    (h : s.trail.tableau.IsOptimal) (limit left : Nat) :
    run limit left s = .ok ⟨s.trail, none⟩ ∧
      s.trail.ledger.run rule limit left = .ok (s.trail.ledger, none) := by
  refine ⟨run_of_isOptimal h limit left, ?_⟩
  unfold Ledger.run
  rw [s.trail.isOptimal_ledger, ok_bind, if_pos (decide_eq_true h)]

/-- A run on ledgers comes to the end of the run on trails, and no check fails on the way. -/
theorem exists_run_ledger (limit left : Nat) (s : RunState (rule.rule : PivotRule F) m n) :
    ∃ ending, run limit left s = .ok ending ∧
      s.trail.ledger.run rule limit left = .ok (ending.trail.ledger, ending.failure) := by
  induction left generalizing s with
  | zero =>
    by_cases hopt : s.trail.tableau.IsOptimal
    · exact ⟨_, run_ledger_of_isOptimal hopt limit 0⟩
    · rw [run_zero, if_neg hopt]
      unfold Ledger.run
      rw [s.trail.isOptimal_ledger, ok_bind, if_neg (by simpa using hopt)]
      exact ⟨_, rfl, rfl⟩
  | succ left ih =>
    by_cases hopt : s.trail.tableau.IsOptimal
    · exact ⟨_, run_ledger_of_isOptimal hopt limit (left + 1)⟩
    · rw [run_succ, if_neg hopt]
      unfold Ledger.run
      rw [s.trail.isOptimal_ledger, ok_bind, if_neg (by simpa using hopt)]
      obtain ⟨result, hchoose, hstep⟩ := s.exists_step_ledger
      dsimp only
      rw [hchoose, hstep, ok_bind]
      cases result with
      | error failure => exact ⟨_, rfl, rfl⟩
      | ok choice =>
        obtain ⟨ending, hrun, hledger⟩ := ih (s.advance choice)
        refine ⟨ending, hrun, ?_⟩
        show ((s.advance choice).trail.ledger.sheet.objectiveValue >>= _) = _
        rw [Trail.objectiveValue_ledger, ok_bind, Trail.latest_ledger, ok_bind, hledger]

end RunState

end Steps

end LinearProgramming
