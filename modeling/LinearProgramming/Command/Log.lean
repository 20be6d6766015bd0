import LinearProgramming.Command.Arguments
import LinearProgramming.ProblemFile.Import
import LinearProgramming.Solver

/-!
# The log of a command

What a command logs is a function of the problem it reads and of the run it makes: the
records here are derived from these afterwards and have no part in the calculation. Those
that take long to write are left out where the level does not ask for them.
-/

namespace LinearProgramming.Command

/-- One message and its level. -/
structure Record where
  level : Level
  message : String
  deriving DecidableEq, Repr

namespace Record

/-- The record as it is written: further lines of its message are indented. -/
def text (r : Record) : String :=
  r.level.name ++ " " ++ "\n    ".intercalate (r.message.splitOn "\n")

/-- The records that are written at a level. -/
def written (level : Level) (records : List Record) : List Record :=
  records.filter fun r => r.level.rank ≤ level.rank

/-- The record for a file that was read. -/
def fileRead (path : ProblemFile.Path) : Record :=
  ⟨.info, "Read problem file " ++ path.quoted⟩

/-- The record for the lines of a problem text. -/
def linesRead {F : Type} (draft : ProblemFile.Draft F) : Record :=
  ⟨.debug, s!"Read {draft.objective.length} variables and {draft.constraints.length} constraints"⟩

/-- The records for a problem that is brought into standard form. -/
def standardForm {F : Type} (p : LinearProgram F) : List Record :=
  [⟨.debug, s!"Standard form: {p.count .atMost} <=, {p.count .atLeast} >= and " ++
      s!"{p.count .equal} = constraints, {p.inequalities} slack columns"⟩,
    ⟨.debug, s!"Standard form has {p.dimension + p.inequalities} variables, " ++
      s!"of which {p.inequalities} slacks"⟩]

variable {F : Type} [Scalar F] [SquareRoot F] [Floating F] {m n : Nat}

/-- A list of numbers between brackets. -/
def listText (numbers : List Nat) : String :=
  "[" ++ ", ".intercalate (numbers.map toString) ++ "]"

/-- A warning if the method cannot be trusted on a tableau. -/
def tableau (t : Tableau F m n) : List Record :=
  if t.IsCanonical then []
  else [⟨.warn, "Initial basis " ++ listText (t.basis.toList.map Fin.val) ++
    " does not form an identity matrix"⟩]

/-- The records for a pivot of a run, with the whole tableau only at the last level. -/
def step (level : Level) {rule : PivotRule F}
    (step : RunState rule m n × RunState.Choice rule m n × RunState rule m n) : List Record :=
  let (before, choice, after) := step
  let t := before.trail.tableau
  [⟨.debug, s!"Pivot on ({choice.row.val}, {choice.column.val}) with element " ++
      Floating.shortest (t.entry choice.row choice.column) ++
      s!": {variableName (t.basic choice.row)} leaves, {variableName choice.column} enters"⟩,
    ⟨.debug, s!"Iteration {after.trail.pivots}: objective value " ++
      Floating.shortest after.trail.tableau.objectiveValue⟩] ++
    if level = .trace then [⟨.trace, "\n" ++ after.trail.latest.text⟩] else []

/-- The record for the end of a run. -/
def ending (e : RunState.Ending F m n) : Record :=
  match e.failure with
  | none => ⟨.info, s!"Optimal after {e.trail.pivots} pivots, objective value " ++
      Floating.shortest e.trail.tableau.objectiveValue⟩
  | some failure => ⟨.info, s!"Stopped after {e.trail.pivots} pivots: " ++ failure.text⟩

/-- The records of a run from a basic solution. -/
def run (level : Level) (settings : Settings F) (rule : PivotRule F) (p : LinearProgram F)
    (start : BasicSolution F) : List Record :=
  match p.trail? start settings.epsilon with
  | .error _ => []
  | .ok trail =>
    if level.rank < Level.info.rank then tableau trail.tableau
    else
      let state := RunState.start rule (trail.record settings.history)
      tableau trail.tableau ++ (state.steps settings.limit).flatMap (step level) ++
        match state.run settings.limit settings.limit with
        | .ok e => [ending e]
        | .error _ => []

/-- The records of a solver that starts from the slacks of a problem. -/
def solve (level : Level) (settings : Settings F) (rule : PivotRule F) (p : LinearProgram F) :
    List Record :=
  if p.isEmpty then []
  else standardForm p ++
    match p.standardForm.slackBasis with
    | .error _ => []
    | .ok start =>
      if start.IsFeasible then run level settings rule p.standardForm start else []

end Record

end LinearProgramming.Command
