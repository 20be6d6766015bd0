import LinearProgramming.Proofs.Results
import LinearProgramming.Proofs.Tableau.Recording
import LinearProgramming.Solver

/-!
# Recording changes nothing but the history

A history is only ever added to: neither a rule nor the run looks at it. Two runs whose states
agree but for what is recorded therefore choose the same pivots and end alike, and so do two
solvers that differ in whether they keep the history. What the history shows of the tableaux
that are passed is told by the calls that were made.
-/

namespace LinearProgramming

namespace RunState

variable {F : Type} [Scalar F] {rule : PivotRule F} {m n : Nat}

/-- Whether two states differ at most in what is recorded. -/
structure Agrees (s s' : RunState rule m n) : Prop where
  tableau_eq : s.trail.tableau = s'.trail.tableau
  pivots_eq : s.trail.pivots = s'.trail.pivots
  memory_eq : s.memory = s'.memory

/-- What an ending shows apart from its history. -/
def Ending.report (e : Ending F m n) : Tableau F m n × Nat × Option Failure :=
  (e.trail.tableau, e.trail.pivots, e.failure)

namespace Agrees

variable {s s' : RunState rule m n}

theorem choose_eq (h : s.Agrees s') : s.choose = s'.choose := by
  unfold choose
  rw [h.tableau_eq, h.memory_eq]

theorem advance (h : s.Agrees s') (choice : Choice rule m n) :
    (s.advance choice).Agrees (s'.advance choice) where
  tableau_eq := congrArg (·.pivot choice.row choice.column) h.tableau_eq
  pivots_eq := congrArg (· + 1) h.pivots_eq
  memory_eq := rfl

omit [Scalar F] in
theorem report_eq (h : s.Agrees s') (failure : Option Failure) :
    Ending.report ⟨s.trail, failure⟩ = Ending.report ⟨s'.trail, failure⟩ := by
  simp only [Ending.report, h.tableau_eq, h.pivots_eq]

/-- States that agree make the same pivots, for the same reasons come to an end, and agree
there. -/
theorem run_eq (h : s.Agrees s') (limit left : Nat) :
    (run limit left s).map Ending.report = (run limit left s').map Ending.report := by
  induction left generalizing s s' with
  | zero =>
    rw [run_zero, run_zero, h.tableau_eq]
    split
    case isTrue => exact congrArg Except.ok (h.report_eq _)
    case isFalse => exact congrArg Except.ok (h.report_eq _)
  | succ left ih =>
    rw [run_succ, run_succ, h.tableau_eq, h.choose_eq]
    split
    case isTrue => exact congrArg Except.ok (h.report_eq _)
    case isFalse =>
      cases s'.choose with
      | error misuse => rfl
      | ok result =>
        cases result with
        | error failure => exact congrArg Except.ok (h.report_eq _)
        | ok choice => exact ih (h.advance choice)

end Agrees

end RunState

namespace Outcome

variable {F : Type} {m n : Nat}

/-- What an outcome shows apart from its trail. -/
def report (o : Outcome F m n) : Status × Option F × Option (List F) × Option String :=
  (o.status, o.value?, o.solution?, o.message?)

variable [Scalar F]

theorem report_ofEnding_congr {e e' : RunState.Ending F m n} (h : e.report = e'.report) :
    (ofEnding e).report = (ofEnding e').report := by
  obtain ⟨htableau, -, hfailure⟩ : e.trail.tableau = e'.trail.tableau ∧
      e.trail.pivots = e'.trail.pivots ∧ e.failure = e'.failure := by
    simpa [RunState.Ending.report] using h
  unfold ofEnding
  rw [hfailure]
  split
  · simp only [ofOptimal, report, status, value?, solution?, message?, htableau]
  · rfl

theorem report_restrict (o : Outcome F m n) (p : LinearProgram F) :
    (o.restrict p).report = (o.status, o.value?.map (fun value => match p.direction with
      | .maximize => value
      | .minimize => -value), o.solution?.map (·.take p.dimension), o.message?) := by
  cases o with
  | optimal =>
    unfold restrict
    cases p.direction <;> rfl
  | failed => rfl

theorem report_restrict_congr {o o' : Outcome F m n} (h : o.report = o'.report)
    (p : LinearProgram F) : (o.restrict p).report = (o'.restrict p).report := by
  simp only [report, Prod.mk.injEq] at h
  obtain ⟨hstatus, hvalue, hsolution, hmessage⟩ := h
  rw [report_restrict, report_restrict, hstatus, hvalue, hsolution, hmessage]

end Outcome

namespace LinearProgram

variable {F : Type} [Scalar F]

/-- From the same start, the method reports the same with and without the whole history. -/
theorem report_solveFrom_history (settings : Settings F) (rule : PivotRule F)
    (q : LinearProgram F) (start : BasicSolution F) (keep keep' : Bool) :
    (q.solveFrom { settings with history := keep } rule start).map Outcome.report =
      (q.solveFrom { settings with history := keep' } rule start).map Outcome.report := by
  unfold solveFrom
  dsimp only
  cases q.trail? start settings.epsilon with
  | error failure => rfl
  | ok trail =>
    dsimp only
    have hagrees : (RunState.start rule (trail.record keep)).Agrees
        (RunState.start rule (trail.record keep')) := ⟨rfl, rfl, rfl⟩
    have hview := map_eq_map_of_view (g := fun e => (Outcome.ofEnding e).report)
      (hagrees.run_eq settings.limit settings.limit) fun _ _ => Outcome.report_ofEnding_congr
    rwa [map_map, map_map]

theorem report_solve_history (settings : Settings F) (rule : PivotRule F)
    (finder : BasisFinder F) (p : LinearProgram F) (keep keep' : Bool) :
    (p.solve { settings with history := keep } rule finder).map Outcome.report =
      (p.solve { settings with history := keep' } rule finder).map Outcome.report := by
  unfold solve
  split
  case isTrue => rfl
  case isFalse =>
    split
    case h_1 => rfl
    case h_2 => rfl
    case h_3 start _ =>
      split
      case isFalse => rfl
      case isTrue =>
        have hview := map_eq_map_of_view (g := fun o => (o.restrict p).report)
          (report_solveFrom_history settings rule p.standardForm start keep keep')
          fun _ _ h => Outcome.report_restrict_congr h p
        rwa [map_map, map_map]

/-- **The history is faithful, and recording is inert.** The first tableau of a problem, for any
basis that is accepted, may be sent through any calls, sensible or not, that ask for pivots or
turn recording on or off. Then the first entry of the history shows the first tableau, the
newest one the current tableau, and all entries show tableaux that were passed, in their order.
If recording was never turned off, every tableau that was passed is shown; if it was off from
the start, only the first and the current one are, and only the first before a pivot is made.
Calls that ask for the same pivots lead to the same tableau and the same count of pivots, with
the same answers, whatever they do to recording. So a solver that keeps the whole history
reports the same as one that does not. -/
theorem history_faithful (q : LinearProgram F) (start : BasicSolution F) {epsilon : F}
    {first : Trail F q.constraints.length q.dimension}
    (hfirst : q.trail? start epsilon = .ok first) (cs : List Trail.Call) :
    let t := first.calls cs
    let passed := first.tableau.passed (Trail.positions cs)
    (passed.getLast? = some t.tableau ∧ passed.length = t.pivots + 1) ∧
    (t.history.get? 0 = some first.tableau.snapshot ∧
      t.history.toList.getLast? = some t.latest ∧ t.latest = t.tableau.snapshot ∧
      t.history.toList.Sublist (passed.map Tableau.snapshot)) ∧
    (Trail.Call.record false ∉ cs → t.history.toList = passed.map Tableau.snapshot ∧
      t.history.length = t.pivots + 1) ∧
    (∀ rest, cs = .record false :: rest → Trail.Call.record true ∉ rest →
      t.history.toList = if t.pivots = 0 then [first.tableau.snapshot]
        else [first.tableau.snapshot, t.tableau.snapshot]) ∧
    (∀ cs', Trail.positions cs' = Trail.positions cs →
      (first.calls cs').tableau = t.tableau ∧ (first.calls cs').pivots = t.pivots ∧
        first.answers cs' = first.answers cs) ∧
    ∀ (settings : Settings F) (rule : PivotRule F) (finder : BasisFinder F)
      (p : LinearProgram F),
      (p.solve { settings with history := true } rule finder).map Outcome.report =
        (p.solve { settings with history := false } rule finder).map Outcome.report := by
  intro t passed
  obtain ⟨t₀, -, rfl⟩ := Trail.trail?_eq_ok hfirst
  have hanchored : t.IsAnchored t₀ := Trail.isAnchored_calls (Trail.isAnchored_start t₀) cs
  have hlast : passed.getLast? = some t.tableau := Trail.getLast?_passed _ cs
  have hlength : passed.length = t.pivots + 1 := by
    rw [← Trail.length_passed (Trail.start t₀) cs]
    exact (Nat.zero_add _).symm
  refine ⟨⟨hlast, hlength⟩, ⟨?_, t.history.getLast?_toList, hanchored.latest_eq, ?_⟩, ?_, ?_, ?_,
    fun settings rule finder p => report_solve_history settings rule finder p true false⟩
  · rw [History.get?_zero, hanchored.first_eq]
    rfl
  · exact Trail.history_calls_sublist (Trail.isAnchored_start t₀).latest_eq cs
  · intro hon
    have hall : t.history.toList = passed.map Tableau.snapshot :=
      Trail.history_calls_of_recording (Trail.isAnchored_start t₀).latest_eq rfl hon
    rw [← History.length_toList, hall, List.length_map]
    exact ⟨rfl, hlength⟩
  · rintro rest rfl hoff
    have hbrief : t.IsBrief := Trail.IsBrief.calls (t := (Trail.start t₀).record false)
      ⟨rfl, rfl⟩ hoff
    rw [hbrief.toList_eq, hanchored.first_eq, hanchored.latest_eq]
    rfl
  · intro cs' hsame
    have hlast' := Trail.getLast?_passed (Trail.start t₀) cs'
    have hlength' := Trail.length_passed (Trail.start t₀) cs'
    rw [hsame] at hlast' hlength'
    refine ⟨Option.some.inj (hlast'.symm.trans hlast), ?_, ?_⟩
    · change 0 + passed.length = ((Trail.start t₀).calls cs').pivots + 1 at hlength'
      omega
    · rw [Trail.answers_eq, Trail.answers_eq, hsame]

end LinearProgram

/-- Recording is off for the second pivot, and the third call finds no row. The third column of a
snapshot has the values and the objective. -/
theorem history_faithful_twoProducts :
    ∃ first, twoProducts.standardForm.trail? twoSlacks (1 / 10) = .ok first ∧
      let t := first.calls [.pivot 0 0, .record false, .pivot 1 2, .pivot 9 0, .record true]
      let quiet := first.calls [.record false, .pivot 0 0, .pivot 1 2, .pivot 9 0]
      t.pivots = 2 ∧ t.history.length = 2 ∧ t.latest = t.tableau.snapshot ∧
        (t.history.toList.map fun s => s.rows.map fun row => row[2]?.bind Cell.number?) =
          [[some (4 : ℚ), some 6, some 0], [some 6, some (-2), some 18]] ∧
        quiet.tableau = t.tableau ∧ quiet.pivots = t.pivots ∧
        quiet.history.toList = [first.tableau.snapshot, t.tableau.snapshot] ∧
        (twoProducts.solve { Settings.standard ℚ with history := true } .largest .slacks).map
            Outcome.report =
          (twoProducts.solve { Settings.standard ℚ with history := false } .largest .slacks).map
            Outcome.report := by
  have hfirst : twoProducts.standardForm.trail? twoSlacks (1 / 10) = .ok _ := rfl
  obtain ⟨-, ⟨-, -, hlatest, -⟩, -, -, hsame, hsolve⟩ :=
    twoProducts.standardForm.history_faithful twoSlacks hfirst
      [.pivot 0 0, .record false, .pivot 1 2, .pivot 9 0, .record true]
  obtain ⟨-, -, -, hoff, -, -⟩ := twoProducts.standardForm.history_faithful twoSlacks hfirst
    [.record false, .pivot 0 0, .pivot 1 2, .pivot 9 0]
  obtain ⟨htableau, hpivots, -⟩ := hsame [.record false, .pivot 0 0, .pivot 1 2, .pivot 9 0] rfl
  have hquiet := hoff _ rfl (by decide)
  refine ⟨_, hfirst, ?_, ?_, hlatest, ?_, htableau, hpivots, ?_, hsolve _ _ _ _⟩
  · decide +kernel
  · decide +kernel
  · decide +kernel
  · rw [hquiet, hpivots, htableau, if_neg (by decide +kernel)]

end LinearProgramming
