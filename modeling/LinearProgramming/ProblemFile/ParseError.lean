import LinearProgramming.ProblemFile.Reader

/-!
# Reports of unreadable texts

A parse error is a chain of descriptions, from the whole to the detail. It may end at
a line of the text.
-/

namespace LinearProgramming.ProblemFile

/-- A description of what went wrong, and what caused it. -/
inductive ParseError where
  | plain (description : String)
  | located (description : String) (line : Nat) (content : String)
  | caused (description : String) (cause : ParseError)
  deriving DecidableEq, Repr

namespace ParseError

def description : ParseError → String
  | plain description => description
  | located description .. => description
  | caused description _ => description

/-- The line at the end of the chain. -/
def location? : ParseError → Option (Nat × String)
  | plain _ => none
  | located _ line content => some (line, content)
  | caused _ cause => cause.location?

/-- All descriptions, and a note on the line at the end. -/
def descriptions : ParseError → List String
  | plain description => [description]
  | located description line content =>
    [description, s!"\tCaused at line\t{line}:\t{content}"]
  | caused description cause => description :: cause.descriptions

def text (e : ParseError) : String := "ParseError: " ++ "\n".intercalate e.descriptions

/-- The texts of all causes, the nearest first. -/
def causes : ParseError → List String
  | plain _ => []
  | located .. => []
  | caused _ cause => cause.text :: cause.causes

/-- The error with these descriptions around another one, outermost first. -/
def wrap (outer : List String) (inner : ParseError) : ParseError :=
  outer.foldr caused inner

/-- What is said about a line that cannot be read. -/
def ofLine (context : String) (line : Line) (fault : LineFault) : ParseError :=
  caused context (located fault.message line.number (String.ofList line.content))

end ParseError

/-- What is said about a text that is refused: a parse error, or the error of a problem
whose lines do not fit together. -/
def Refusal.report : Refusal → ParseError ⊕ ShapeError
  | noObjective => .inl (.plain "No objective function found")
  | objective line fault => .inl (.ofLine "Could not read the objective function" line fault)
  | constraint index line fault =>
    .inl (.ofLine s!"Could not read constraint {index + 1}" line fault)
  | shape error => .inr error

end LinearProgramming.ProblemFile
