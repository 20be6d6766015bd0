import LinearProgramming.Proofs.Run.Choices
import LinearProgramming.Proofs.Tableau.Ascent

/-!
# The states of a run

A run visits its first state and the state after each of its pivots. It ends in the last
state it visits, for one of three reasons: the tableau is optimal, no pivots are left, or
no pivot was chosen. What one pivot preserves therefore holds in all states, and in the
state where the run ends.
-/

namespace LinearProgramming.RunState

variable {F : Type} [Scalar F] {rule : PivotRule F} {m n : Nat}

/-- Whether a run goes on from one state to another by a pivot. -/
def Step (s s' : RunState rule m n) : Prop :=
  ¬ s.trail.tableau.IsOptimal ∧ ∃ choice, s.choose = .ok (.ok choice) ∧ s' = s.advance choice

/-- The states of a run of so many pivots at most, oldest first. -/
def visited (left : Nat) (s : RunState rule m n) : List (RunState rule m n) :=
  s :: (steps left s).map fun step => step.2.2

/-- Why a run ends in a state, with so many pivots left. -/
inductive Stops (limit : Nat) (s : RunState rule m n) : Nat → Option Failure → Prop where
  | optimal {left : Nat} (h : s.trail.tableau.IsOptimal) : Stops limit s left none
  | limit (h : ¬ s.trail.tableau.IsOptimal) : Stops limit s 0 (some (.iterationLimit limit))
  | noPivot {left : Nat} {failure : Failure} (h : ¬ s.trail.tableau.IsOptimal)
      (hchoose : s.choose = .ok (.error failure)) : Stops limit s (left + 1) (some failure)

theorem not_step_of_isOptimal {s : RunState rule m n} (h : s.trail.tableau.IsOptimal)
    (s' : RunState rule m n) : ¬ Step s s' := fun hstep => hstep.1 h

theorem not_step_of_failure {s : RunState rule m n} {failure : Failure}
    (h : s.choose = .ok (.error failure)) (s' : RunState rule m n) : ¬ Step s s' := by
  rintro ⟨_, choice, hchoice, _⟩
  rw [h] at hchoice
  cases hchoice

theorem visited_zero (s : RunState rule m n) : visited 0 s = [s] := by
  unfold visited
  rw [steps_zero]
  rfl

theorem steps_of_not_step {s : RunState rule m n} (h : ∀ s', ¬ Step s s') (left : Nat) :
    steps left s = [] := by
  cases left with
  | zero => exact steps_zero s
  | succ left =>
    rw [steps_succ]
    split
    case isTrue => rfl
    case isFalse hopt =>
      split
      case h_1 choice hchoice => exact absurd ⟨hopt, choice, hchoice, rfl⟩ (h _)
      case h_2 => rfl

theorem steps_of_choose {s : RunState rule m n} (hopt : ¬ s.trail.tableau.IsOptimal)
    {choice : Choice rule m n} (hchoice : s.choose = .ok (.ok choice)) (left : Nat) :
    steps (left + 1) s = (s, choice, s.advance choice) :: steps left (s.advance choice) := by
  rw [steps_succ, if_neg hopt, hchoice]

theorem visited_of_not_step {s : RunState rule m n} (h : ∀ s', ¬ Step s s') (left : Nat) :
    visited left s = [s] := by
  unfold visited
  rw [steps_of_not_step h]
  rfl

theorem visited_of_step {s s' : RunState rule m n} (h : Step s s') (left : Nat) :
    visited (left + 1) s = s :: visited left s' := by
  obtain ⟨hopt, choice, hchoice, rfl⟩ := h
  unfold visited
  rw [steps_of_choose hopt hchoice]
  rfl

theorem isChain_visited (left : Nat) (s : RunState rule m n) :
    (visited left s).IsChain Step := by
  induction left generalizing s with
  | zero =>
    rw [visited_zero]
    exact .singleton s
  | succ left ih =>
    by_cases h : ∃ s', Step s s'
    · obtain ⟨s', hstep⟩ := h
      rw [visited_of_step hstep]
      exact .cons_cons hstep (ih s')
    · rw [visited_of_not_step (not_exists.mp h)]
      exact .singleton s

/-- What every pivot preserves holds in every state of a run. -/
theorem forall_mem_visited {Inv : RunState rule m n → Prop}
    (hstep : ∀ s s', Inv s → Step s s' → Inv s') {s : RunState rule m n} (hs : Inv s)
    (left : Nat) : ∀ s' ∈ visited left s, Inv s' := by
  induction left generalizing s with
  | zero =>
    rw [visited_zero]
    intro s' hs'
    rwa [List.mem_singleton.mp hs']
  | succ left ih =>
    by_cases h : ∃ s', Step s s'
    · obtain ⟨next, hnext⟩ := h
      rw [visited_of_step hnext]
      exact List.forall_mem_cons.mpr ⟨hs, ih (hstep s next hs hnext)⟩
    · rw [visited_of_not_step (not_exists.mp h)]
      intro s' hs'
      rwa [List.mem_singleton.mp hs']

/-- Each pivot of a run is the one chosen in a state that the run visits. -/
theorem of_mem_steps {left : Nat} {s : RunState rule m n}
    {step : RunState rule m n × Choice rule m n × RunState rule m n}
    (h : step ∈ steps left s) :
    step.1 ∈ visited left s ∧ ¬ step.1.trail.tableau.IsOptimal ∧
      step.1.choose = .ok (.ok step.2.1) ∧ step.2.2 = step.1.advance step.2.1 := by
  induction left generalizing s with
  | zero =>
    rw [steps_zero] at h
    cases h
  | succ left ih =>
    by_cases hnext : ∃ s', Step s s'
    · obtain ⟨_, hopt, choice, hchoice, -⟩ := hnext
      rw [steps_of_choose hopt hchoice] at h
      rw [visited_of_step ⟨hopt, choice, hchoice, rfl⟩]
      rcases List.mem_cons.mp h with rfl | hrest
      · exact ⟨List.mem_cons_self, hopt, hchoice, rfl⟩
      · obtain ⟨hmem, hpivot⟩ := ih hrest
        exact ⟨List.mem_cons_of_mem _ hmem, hpivot⟩
    · rw [steps_of_not_step (not_exists.mp hnext)] at h
      cases h

/-- A run ends in the last state it visits. -/
theorem run_eq_ok {limit left : Nat} {s : RunState rule m n} {ending : Ending F m n}
    (h : run limit left s = .ok ending) :
    ∃ last remaining, last ∈ (visited left s).getLast? ∧ ending.trail = last.trail ∧
      (visited left s).length + remaining = left + 1 ∧
      last.Stops limit remaining ending.failure := by
  induction left generalizing s with
  | zero =>
    rw [run_zero] at h
    rw [visited_zero]
    split at h
    case isTrue hopt =>
      cases h
      exact ⟨s, 0, rfl, rfl, rfl, .optimal hopt⟩
    case isFalse hopt =>
      cases h
      exact ⟨s, 0, rfl, rfl, rfl, .limit hopt⟩
  | succ left ih =>
    rw [run_succ] at h
    split at h
    case isTrue hopt =>
      cases h
      rw [visited_of_not_step (not_step_of_isOptimal hopt)]
      exact ⟨s, left + 1, rfl, rfl, by simp; omega, .optimal hopt⟩
    case isFalse hopt =>
      cases hchoose : s.choose with
      | error misuse =>
        rw [hchoose] at h
        cases h
      | ok result =>
        rw [hchoose] at h
        cases result with
        | error failure =>
          cases h
          rw [visited_of_not_step (not_step_of_failure hchoose)]
          exact ⟨s, left + 1, rfl, rfl, by simp; omega, .noPivot hopt hchoose⟩
        | ok choice =>
          obtain ⟨last, remaining, hlast, htrail, hlength, hstop⟩ := ih h
          rw [visited_of_step ⟨hopt, choice, hchoose, rfl⟩]
          refine ⟨last, remaining, ?_, htrail, ?_, hstop⟩
          · rw [List.getLast?_cons, hlast]
            rfl
          · rw [List.length_cons]
            omega

theorem Step.pivots_eq {s s' : RunState rule m n} (h : Step s s') :
    s'.trail.pivots = s.trail.pivots + 1 := by
  obtain ⟨-, choice, -, rfl⟩ := h
  rfl

/-- The trail of every state counts the pivots that led to it. -/
theorem pivots_of_getElem?_visited {left k : Nat} {s s' : RunState rule m n}
    (h : (visited left s)[k]? = some s') : s'.trail.pivots = s.trail.pivots + k := by
  induction k generalizing s' with
  | zero =>
    cases h
    rfl
  | succ k ih =>
    obtain ⟨hk, rfl⟩ := List.getElem?_eq_some_iff.mp h
    have hstep := List.isChain_iff_getElem.mp (isChain_visited left s) k hk
    rw [hstep.pivots_eq, ih (List.getElem?_eq_getElem _), Nat.add_assoc]

/-- Where a run ends, the pivots it has made and those it has left are all it was allowed. -/
theorem exists_stop_of_run {limit left : Nat} {s : RunState rule m n} {ending : Ending F m n}
    (h : run limit left s = .ok ending) :
    ∃ last ∈ visited left s, ∃ remaining, ending.trail = last.trail ∧
      last.trail.pivots + remaining = s.trail.pivots + left ∧
      last.Stops limit remaining ending.failure := by
  obtain ⟨last, remaining, hlast, htrail, hlength, hstops⟩ := run_eq_ok h
  refine ⟨last, List.mem_of_getLast? hlast, remaining, htrail, ?_, hstops⟩
  rw [Option.mem_def, List.getLast?_eq_getElem?] at hlast
  have hpivots := pivots_of_getElem?_visited hlast
  have hpos : 0 < (visited left s).length := List.length_pos_of_ne_nil (by simp [visited])
  omega

/-- A run comes to an end unless a state it visits leads to a misuse. -/
theorem exists_run_eq_ok {limit left : Nat} {s : RunState rule m n}
    (h : ∀ s' ∈ visited left s, ¬ s'.trail.tableau.IsOptimal →
      ∃ result, s'.choose = .ok result) : ∃ ending, run limit left s = .ok ending := by
  induction left generalizing s with
  | zero =>
    rw [run_zero]
    split
    · exact ⟨_, rfl⟩
    · exact ⟨_, rfl⟩
  | succ left ih =>
    rw [run_succ]
    split
    case isTrue => exact ⟨_, rfl⟩
    case isFalse hopt =>
      obtain ⟨result, hresult⟩ := h s List.mem_cons_self hopt
      rw [hresult]
      cases result with
      | error failure => exact ⟨_, rfl⟩
      | ok choice =>
        rw [visited_of_step ⟨hopt, choice, hresult, rfl⟩] at h
        exact ih fun s' hs' => h s' (List.mem_cons_of_mem _ hs')

section Exact

variable {F : Type} [Field F] [LinearOrder F] [IsStrictOrderedRing F] {rule : PivotRule F}
  {m n : Nat}

/-- With any tolerance a step keeps the solutions, since it never pivots on a zero. -/
theorem Step.derivesFrom (hrule : rule ∈ PivotRule.ofMethod) {s s' : RunState rule m n}
    (hε : 0 ≤ s.trail.tableau.epsilon) (h : Step s s') :
    s'.trail.tableau.DerivesFrom s.trail.tableau := by
  obtain ⟨hopt, choice, hchoice, rfl⟩ := h
  have hp : 0 < s.trail.tableau.entry choice.row choice.column :=
    hε.trans_lt (limits_of_choose hrule hε hopt hchoice)
  exact Tableau.derivesFrom_pivot _ hp.ne'

theorem derivesFrom_of_mem_visited (hrule : rule ∈ PivotRule.ofMethod) {s : RunState rule m n}
    (hε : 0 ≤ s.trail.tableau.epsilon) (left : Nat) :
    ∀ s' ∈ visited left s, s'.trail.tableau.DerivesFrom s.trail.tableau := by
  refine forall_mem_visited (fun s' next hs' hstep => ?_) (.refl _) left
  have hε' : 0 ≤ s'.trail.tableau.epsilon := hs'.epsilon_eq ▸ hε
  exact (hstep.derivesFrom hrule hε').trans hs'

/-- A run of the method always comes to an end. -/
theorem exists_run_ofMethod_eq_ok (hrule : rule ∈ PivotRule.ofMethod) {s : RunState rule m n}
    (hε : 0 ≤ s.trail.tableau.epsilon) (limit left : Nat) :
    ∃ ending, run limit left s = .ok ending := by
  refine exists_run_eq_ok fun s' hs' hopt => ?_
  have hε' := (derivesFrom_of_mem_visited hrule hε left s' hs').epsilon_eq ▸ hε
  exact exists_choose_eq_ok hrule s' hε' hopt

/-- What a state shares with the first tableau of its run, and that it stays feasible. -/
structure IsSound (first : Tableau F m n) (s : RunState rule m n) : Prop where
  derivesFrom : s.trail.tableau.DerivesFrom first
  feasible : s.trail.tableau.IsFeasible

theorem Step.exists_pivot (hrule : rule ∈ PivotRule.ofMethod) {s s' : RunState rule m n}
    (hε : s.trail.tableau.epsilon = 0) (h : Step s s') :
    ∃ r k, s'.trail.tableau = s.trail.tableau.pivot r k ∧
      s.trail.tableau.epsilon < s.trail.tableau.reducedCost k ∧
      s.trail.tableau.IsLeastLimit r k := by
  obtain ⟨hopt, choice, hchoice, rfl⟩ := h
  exact ⟨choice.row, choice.column, rfl, isLeastLimit_of_choose hrule hε hopt hchoice⟩

theorem IsSound.step (hrule : rule ∈ PivotRule.ofMethod) {first : Tableau F m n}
    (hε : first.epsilon = 0) {s s' : RunState rule m n} (h : IsSound first s)
    (hstep : Step s s') : IsSound first s' := by
  have hε' : s.trail.tableau.epsilon = 0 := h.derivesFrom.epsilon_eq.trans hε
  obtain ⟨r, k, he, -, hleast⟩ := hstep.exists_pivot hrule hε'
  have hp : 0 < s.trail.tableau.entry r k := hε' ▸ hleast.limits
  constructor
  · rw [he]
    exact (Tableau.derivesFrom_pivot _ hp.ne').trans h.derivesFrom
  · rw [he]
    exact h.feasible.pivot hε' hleast

theorem isSound_of_mem_visited (hrule : rule ∈ PivotRule.ofMethod) {s : RunState rule m n}
    (hε : s.trail.tableau.epsilon = 0) (hf : s.trail.tableau.IsFeasible) (left : Nat) :
    ∀ s' ∈ visited left s, IsSound s.trail.tableau s' :=
  forall_mem_visited (fun _ _ h hstep => h.step hrule hε hstep) ⟨.refl _, hf⟩ left

end Exact

end LinearProgramming.RunState
