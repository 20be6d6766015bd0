import LinearProgramming.PivotRule
import LinearProgramming.Tableau.Trail

/-!
# Running the method

A run pivots until the tableau is optimal. Before each pivot it checks, in this order,
whether the tableau is optimal, whether the limit of pivots is reached, whether the rule
finds a column, whether it finds a row, and whether there is an entry to pivot on. The
first check that fails ends the run. A run always ends, since every pivot counts
towards the limit.
-/

namespace LinearProgramming

/-- Settings of the method. -/
structure Settings (F : Type) where
  /-- Count of pivots after which the method gives up. -/
  limit : Nat
  /-- Numbers at most this far from zero count as zero. -/
  epsilon : F
  /-- Whether the snapshots of all states are kept, or only the first and the latest. -/
  history : Bool
  deriving BEq, Repr

/-- A thousand pivots, a tolerance of `1e-10`, and all snapshots. -/
def Settings.standard (F : Type) [OfScientific F] : Settings F :=
  { limit := 1000, epsilon := 1e-10, history := true }

/-- A state of a run: the trail so far and what the rule remembers. -/
structure RunState {F : Type} (rule : PivotRule F) (m n : Nat) where
  trail : Trail F m n
  memory : rule.Memory

namespace RunState

variable {F : Type} [Scalar F] {rule : PivotRule F} {m n : Nat}

/-- The state before the first pivot. -/
def start (rule : PivotRule F) (trail : Trail F m n) : RunState rule m n :=
  { trail, memory := rule.start }

/-- A pivot that is to be made, and what the rule remembers after choosing it. -/
structure Choice (rule : PivotRule F) (m n : Nat) where
  row : Fin m
  column : Fin n
  memory : rule.Memory

/-- The next pivot, or why there is none although the tableau is not optimal. -/
def choose (s : RunState rule m n) : Except Misuse (Except Failure (Choice rule m n)) :=
  match rule.column s.trail.tableau s.memory with
  | (none, _) => .ok (.error .noEnteringColumn)
  | (some column, memory) =>
    match rule.row s.trail.tableau column memory with
    | .error misuse => .error misuse
    | .ok (none, _) => .ok (.error (.unbounded column))
    | .ok (some row, memory) =>
      .ok ((s.trail.tableau.pivotPosition? row column).map fun position =>
        { row := position.1, column := position.2, memory })

/-- The state after a pivot. -/
def advance (s : RunState rule m n) (choice : Choice rule m n) : RunState rule m n :=
  { trail := s.trail.pivot choice.row choice.column, memory := choice.memory }

/-- How a run ends: the last trail, and the failure unless that is optimal. -/
structure Ending (F : Type) (m n : Nat) where
  trail : Trail F m n
  failure : Option Failure

/-- Pivots until the tableau is optimal, or until a failure, and folds a function over the
pivots with the states before and after them. Of the limit, which is only reported, the count
that is left is still allowed. -/
def foldSteps {α : Type} (limit : Nat)
    (visit : α → RunState rule m n × Choice rule m n × RunState rule m n → α) :
    Nat → α → RunState rule m n → α × Except Misuse (Ending F m n)
  | left, a, s =>
    if s.trail.tableau.IsOptimal then (a, .ok ⟨s.trail, none⟩)
    else match left with
      | 0 => (a, .ok ⟨s.trail, some (.iterationLimit limit)⟩)
      | left + 1 =>
        match s.choose with
        | .error misuse => (a, .error misuse)
        | .ok (.error failure) => (a, .ok ⟨s.trail, some failure⟩)
        | .ok (.ok choice) =>
          foldSteps limit visit left (visit a (s, choice, s.advance choice)) (s.advance choice)

/-- How a run ends. -/
def run (limit left : Nat) (s : RunState rule m n) : Except Misuse (Ending F m n) :=
  (foldSteps limit (fun done _ => done) left () s).2

/-- The pivots of a run with the states before and after them, oldest first. -/
def steps (left : Nat) (s : RunState rule m n) :
    List (RunState rule m n × Choice rule m n × RunState rule m n) :=
  (foldSteps left (fun done step => step :: done) left [] s).1.reverse

theorem run_zero (limit : Nat) (s : RunState rule m n) :
    run limit 0 s = if s.trail.tableau.IsOptimal then .ok ⟨s.trail, none⟩
      else .ok ⟨s.trail, some (.iterationLimit limit)⟩ := by
  unfold run foldSteps
  split
  · rfl
  · rfl

theorem run_succ (limit left : Nat) (s : RunState rule m n) :
    run limit (left + 1) s = if s.trail.tableau.IsOptimal then .ok ⟨s.trail, none⟩
      else match s.choose with
        | .error misuse => .error misuse
        | .ok (.error failure) => .ok ⟨s.trail, some failure⟩
        | .ok (.ok choice) => run limit left (s.advance choice) := by
  unfold run
  rw [foldSteps]
  split
  · rfl
  · cases s.choose with
    | error misuse => rfl
    | ok result => cases result <;> rfl

theorem run_of_isOptimal {s : RunState rule m n} (h : s.trail.tableau.IsOptimal)
    (limit left : Nat) : run limit left s = .ok ⟨s.trail, none⟩ := by
  cases left with
  | zero => rw [run_zero, if_pos h]
  | succ left => rw [run_succ, if_pos h]

/-- What is folded over the pivots depends neither on the limit that is reported nor on what
else is kept of them. -/
theorem foldSteps_fst_hom {α β : Type} (limit limit' : Nat)
    (visit : α → RunState rule m n × Choice rule m n × RunState rule m n → α)
    (visit' : β → RunState rule m n × Choice rule m n × RunState rule m n → β) (f : α → β)
    (h : ∀ a step, visit' (f a) step = f (visit a step)) (left : Nat) (a : α)
    (s : RunState rule m n) :
    (foldSteps limit' visit' left (f a) s).1 = f (foldSteps limit visit left a s).1 := by
  induction left generalizing a s with
  | zero =>
    unfold foldSteps
    split
    · rfl
    · rfl
  | succ left ih =>
    rw [foldSteps, foldSteps]
    split
    · rfl
    · cases s.choose with
      | error misuse => rfl
      | ok result =>
        cases result with
        | error failure => rfl
        | ok choice =>
          dsimp only
          rw [h, ih]

theorem steps_zero (s : RunState rule m n) : steps 0 s = [] := by
  unfold steps foldSteps
  split
  · rfl
  · rfl

theorem steps_succ (left : Nat) (s : RunState rule m n) :
    steps (left + 1) s = if s.trail.tableau.IsOptimal then []
      else match s.choose with
        | .ok (.ok choice) => (s, choice, s.advance choice) :: steps left (s.advance choice)
        | _ => [] := by
  unfold steps
  rw [foldSteps]
  split
  · rfl
  · cases s.choose with
    | error misuse => rfl
    | ok result =>
      cases result with
      | error failure => rfl
      | ok choice =>
        dsimp only
        rw [← List.nil_append [(s, choice, s.advance choice)],
          foldSteps_fst_hom left (left + 1) (fun done step => step :: done) _
            (· ++ [(s, choice, s.advance choice)]) (fun _ _ => rfl), List.reverse_append]
        rfl

end RunState

end LinearProgramming
