import LinearProgramming.Command.Log

/-!
# What a command answers

A command solves the problem of a file and writes a report, after the tableaus it is
asked for. What it has written before a failure stays written. A failure is reported by
its context and its causes.
-/

namespace LinearProgramming.Command

/-- What a command leaves behind: its exit code, what it wrote, the report of a failure,
and its log at the level that was asked for. -/
structure Response where
  code : Nat
  output : String
  complaint : String
  log : List Record

/-- The name and the version that are shown on request. -/
def versionText : String := "simplex-lp 0.1.0\n"

/-- A short description of the arguments. -/
def usageText : String :=
  "Usage: simplex-lp [OPTIONS] <problem_file>\n\n" ++
  "  --max-iterations <N>  Number of pivots after which solving stops\n" ++
  "  --epsilon <E>         Values closer to zero than this are treated as zero\n" ++
  "  --bland               Pivot with the rule that never cycles\n" ++
  "  --history             Print every tableau the method passed through\n" ++
  "  --iteration <INDEX>   Print a single tableau, 0 being the initial one\n" ++
  "  -v, --verbose         Log more\n" ++
  "  -q, --quiet           Log less\n" ++
  "  -h, --help            Print help\n" ++
  "  -V, --version         Print version\n"

/-- A context and the causes of a failure in it. -/
structure Complaint where
  context : String
  causes : List String

namespace Complaint

/-- The lines of a cause after what marks its first line. Further lines are indented. -/
def causeText (mark indent : String) (cause : String) : String :=
  mark ++ ("\n" ++ indent).intercalate (cause.splitOn "\n")

/-- What marks a cause among several: its number, moved to the right. -/
def numberMark (index : Nat) : String :=
  let number := toString index
  String.ofList (List.replicate (5 - number.length) ' ') ++ number ++ ": "

/-- The failure as a report. A single cause is indented, several are numbered. -/
def text (c : Complaint) : String :=
  let causes := match c.causes with
    | [] => ""
    | [cause] => "\n\nCaused by:\n" ++ causeText "    " "    " cause
    | causes => "\n\nCaused by:\n" ++
      "\n".intercalate (causes.mapIdx fun index => causeText (numberMark index) "       ")
  "Error: " ++ c.context ++ causes

end Complaint

/-- The settings that options ask for. The snapshots are kept if some of them are shown. -/
def Options.settings (o : Options) : Settings Float :=
  { limit := o.limit, epsilon := o.epsilon, history := o.history || o.iteration.isSome }

/-- The pivot rule that options ask for. -/
def Options.rule (o : Options) : PivotRule Float := if o.lowest then .lowest else .largest

/-- A tableau under its number. -/
def iterationText {F : Type} [Floating F] (index : Nat) (snapshot : Snapshot F) : String :=
  s!"Iteration {index}:\n" ++ snapshot.text ++ "\n"

variable {F : Type} [Scalar F] [Floating F] {m n : Nat}

/-- All tableaus of an outcome. -/
def historyText (o : Outcome F m n) : String :=
  match o.trail? with
  | none => ""
  | some trail => String.join (trail.history.toList.mapIdx iterationText)

/-- One tableau of an outcome. -/
def iterationOf (o : Outcome F m n) (index : Nat) : Except Complaint String :=
  match o.trail? with
  | none => .error ⟨"No tableau was built for this problem", []⟩
  | some trail =>
    match trail.iteration index with
    | .error failure => .error ⟨"Showing a single iteration", [failure.text]⟩
    | .ok snapshot => .ok (iterationText index snapshot)

/-- What is written about an outcome, and what is complained about after that. -/
def outcomeText (o : Options) (outcome : Outcome F m n) : String × Option Complaint :=
  let history := if o.history then historyText outcome else ""
  match o.iteration with
  | none => (history ++ outcome.text, none)
  | some index =>
    match iterationOf outcome index with
    | .error complaint => (history, some complaint)
    | .ok iteration => (history ++ iteration ++ outcome.text, none)

/-- The response with the records that are written at a level. -/
def respond (level : Level) (output : String) (complaint : Option Complaint)
    (log : List Record) : Response :=
  { code := if complaint.isSome then 1 else 0
    output
    complaint := (complaint.map Complaint.text).getD ""
    log := Record.written level log }

/-- The complaint about a problem that is not imported. -/
def importComplaint (path : ProblemFile.Path) (e : ProblemFile.ImportError) : Complaint :=
  ⟨"Reading problem file " ++ path.quoted, e.message :: e.causes⟩

/-- Solves the problem of a file. -/
def Options.run (o : Options)
    (fetch : ProblemFile.Path → Except ProblemFile.FileFault (List UInt8)) : Response :=
  let path := ProblemFile.Path.ofString o.file
  match ProblemFile.fetchText fetch path with
  | .error e => respond o.level "" (some (importComplaint path e)) []
  | .ok text =>
    let log := [Record.fileRead path]
    match (ProblemFile.Draft.read text.toList : Except _ (ProblemFile.Draft Float)) with
    | .error r => respond o.level "" (some (importComplaint path r.importError)) log
    | .ok draft =>
      let log := log ++ [Record.linesRead draft]
      match draft.problem? with
      | .error r => respond o.level "" (some (importComplaint path r.importError)) log
      | .ok p =>
        let log := log ++ Record.solve o.level o.settings o.rule p
        match p.solve o.settings o.rule .slacks with
        | .error misuse => respond o.level "" (some ⟨misuse.message?.getD "", []⟩) log
        | .ok outcome =>
          let (output, complaint) := outcomeText o outcome
          respond o.level output complaint log

/-- Answers a command with these arguments. -/
def answer (fetch : ProblemFile.Path → Except ProblemFile.FileFault (List UInt8))
    (arguments : List String) : Response :=
  match Request.read arguments with
  | .error e => { code := 2, output := "", complaint := "error: " ++ e.message, log := [] }
  | .ok .version => { code := 0, output := versionText, complaint := "", log := [] }
  | .ok .help => { code := 0, output := usageText, complaint := "", log := [] }
  | .ok (.solve options) => options.run fetch

end LinearProgramming.Command
