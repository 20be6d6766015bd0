import LinearProgramming.Number.Decimal
import LinearProgramming.Problem.Basic

/-!
# Problem texts

The first line of a problem text states the direction and the costs, and each line after
it states a constraint:

    maximize: 3 2     # a hash starts a comment
    1 1 <= 4
    2 1 <= 5

Comments, blank lines and blanks around a line do not count, but every line keeps its
number in the text. A text is refused at its first line that cannot be read, for the
first reason that applies there.
-/

namespace LinearProgramming

/-- Numbers that can be read from a word, and told apart from infinities and NaNs. -/
class Readable (F : Type) where
  read? : List Char → Option F
  isFinite : F → Bool

instance {F : Type} [Floating F] : Readable F where
  read? := Floating.read?
  isFinite := Floating.isFinite

namespace ProblemFile

/-- A line with content, numbered from one. -/
structure Line where
  number : Nat
  content : List Char
  deriving DecidableEq, Repr

/-- The lines with content, without their comments. -/
def contentLines (text : List Char) : List Line :=
  ((Text.lines text).mapIdx fun index line =>
    { number := index + 1, content := Text.trim (line.takeWhile (· ≠ '#')) : Line }).filter
    fun line => line.content ≠ []

/-- A number on a line, counted from zero among the numbers of its kind. -/
inductive Field where
  | cost (index : Nat)
  | coefficient (index : Nat)
  | bound
  deriving DecidableEq, Repr

def Field.name : Field → String
  | cost index => s!"a{index + 1}"
  | coefficient index => s!"x_{index + 1}"
  | bound => "free value"

/-- Why a line cannot be read. -/
inductive LineFault where
  | word (unknown : UnknownWord)
  | number (field : Field)
  | missingRelation
  | missingBound
  | extraBound
  deriving DecidableEq, Repr

def LineFault.message : LineFault → String
  | word unknown => unknown.message
  | number field => "Invalid coefficient " ++ field.name
  | missingRelation => "Missing constraint operator, expected one of \"<=\", \">=\" or \"=\""
  | missingBound => "Missing right-hand side"
  | extraBound => "Expected a single value after the constraint operator"

/-- Why a text states no problem. Constraints are counted from zero. -/
inductive Refusal where
  | noObjective
  | objective (line : Line) (fault : LineFault)
  | constraint (index : Nat) (line : Line) (fault : LineFault)
  | shape (error : ShapeError)
  deriving DecidableEq, Repr

variable {F : Type} [Readable F]

/-- Reads a word as a finite number. -/
def readNumber (field : Field) (word : List Char) : Except LineFault F :=
  match Readable.read? word with
  | some x => if Readable.isFinite x then .ok x else .error (.number field)
  | none => .error (.number field)

/-- Reads words as numbers, whose fields are counted from the given index. -/
def readNumbers (field : Nat → Field) : Nat → List (List Char) → Except LineFault (List F)
  | _, [] => .ok []
  | index, word :: rest =>
    match readNumber (field index) word with
    | .error fault => .error fault
    | .ok x => (readNumbers field (index + 1) rest).map (x :: ·)

/-- Whether a character ends the word for the direction. -/
def endsKeyword (c : Char) : Bool := Text.isBlank c || c == ':'

/-- The text without a colon at its start. -/
def withoutColon : List Char → List Char
  | ':' :: rest => rest
  | text => text

/-- Reads the direction and the costs, with at most one colon between them. -/
def readObjective (line : List Char) : Except LineFault (Direction × List F) :=
  match Direction.read (line.takeWhile (!endsKeyword ·)) with
  | .error unknown => .error (.word unknown)
  | .ok direction =>
    let rest := withoutColon (Text.trimStart (line.dropWhile (!endsKeyword ·)))
    (readNumbers Field.cost 0 (Text.words rest)).map fun costs => (direction, costs)

/-- Whether a word stands for a relation. -/
def isRelation (word : List Char) : Bool := (Relation.ofWord? word).isSome

/-- Reads the coefficients, the first relation, and the single bound after it. -/
def readConstraint (line : List Char) : Except LineFault (Constraint F) :=
  let words := Text.words line
  match words.dropWhile (!isRelation ·) with
  | [] => .error .missingRelation
  | word :: after =>
    match Relation.read word with
    | .error unknown => .error (.word unknown)
    | .ok relation =>
      match after with
      | [] => .error .missingBound
      | [bound] =>
        match readNumber Field.bound bound with
        | .error fault => .error fault
        | .ok bound =>
          (readNumbers Field.coefficient 0 (words.takeWhile (!isRelation ·))).map
            fun coefficients => { coefficients, relation, bound }
      | _ => .error .extraBound

/-- Reads constraints, which are counted from the given index. -/
def readConstraints : Nat → List Line → Except Refusal (List (Constraint F))
  | _, [] => .ok []
  | index, line :: rest =>
    match readConstraint line.content with
    | .error fault => .error (.constraint index line fault)
    | .ok constraint => (readConstraints (index + 1) rest).map (constraint :: ·)

/-- What a text states, before it is known whether the lengths of its lines fit. -/
structure Draft (F : Type) where
  direction : Direction
  objective : List F
  constraints : List (Constraint F)

/-- Reads the lines of a text. -/
def Draft.read (text : List Char) : Except Refusal (Draft F) :=
  match contentLines text with
  | [] => .error .noObjective
  | header :: lines =>
    match readObjective header.content with
    | .error fault => .error (.objective header fault)
    | .ok (direction, objective) =>
      (readConstraints 0 lines).map fun constraints => { direction, objective, constraints }

/-- The problem that is stated, if all its lines have the same length. -/
def Draft.problem? (d : Draft F) : Except Refusal (LinearProgram F) :=
  (LinearProgram.new? d.direction d.objective d.constraints).mapError .shape

/-- Reads a problem. -/
def read (text : List Char) : Except Refusal (LinearProgram F) :=
  match Draft.read text with
  | .error refusal => .error refusal
  | .ok draft => draft.problem?

end ProblemFile

end LinearProgramming
