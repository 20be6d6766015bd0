import LinearProgramming.Number.Scalar
import LinearProgramming.Text.Words

/-!
# Relations and directions

A constraint relates a linear expression to a bound, and a problem is optimized in one
of two directions. Both are read from the words a user types.
-/

namespace LinearProgramming

/-- How the left side of a constraint relates to its bound. -/
inductive Relation where
  | atMost
  | atLeast
  | equal
  deriving DecidableEq, Repr

/-- Whether the objective is to become large or small. -/
inductive Direction where
  | maximize
  | minimize
  deriving DecidableEq, Repr

/-- A word that stands for no relation, or for no direction. -/
inductive UnknownWord where
  | relation (word : String)
  | direction (word : String)
  deriving DecidableEq, Repr

def UnknownWord.message : UnknownWord → String
  | relation word => "Unknown constraint operator \"" ++ word ++ "\""
  | direction word => "Unknown optimization direction \"" ++ word ++ "\""

namespace Relation

def text : Relation → String
  | atMost => "<="
  | atLeast => ">="
  | equal => "="

/-- The relation that holds after both sides are negated. -/
def flipped : Relation → Relation
  | atMost => atLeast
  | atLeast => atMost
  | equal => equal

@[simp] theorem flipped_flipped (r : Relation) : r.flipped.flipped = r := by cases r <;> rfl

/-- Whether the relation leaves room between its two sides. -/
def needsSlack : Relation → Bool
  | equal => false
  | _ => true

@[simp] theorem needsSlack_flipped (r : Relation) : r.flipped.needsSlack = r.needsSlack := by
  cases r <;> rfl

/-- The coefficient of a variable that makes the two sides equal, if one is needed. -/
def slackCoefficient {F : Type} [Scalar F] : Relation → Option F
  | atMost => some 1
  | atLeast => some (-1)
  | equal => none

theorem isSome_slackCoefficient {F : Type} [Scalar F] (r : Relation) :
    (r.slackCoefficient : Option F).isSome = r.needsSlack := by cases r <;> rfl

/-- Reads a relation. Blanks around it do not matter. -/
def read (word : List Char) : Except UnknownWord Relation :=
  match Text.trim word with
  | ['<', '='] => .ok atMost
  | ['>', '='] => .ok atLeast
  | ['='] => .ok equal
  | other => .error (.relation (String.ofList other))

/-- The relation that a word stands for. -/
def ofWord? (word : List Char) : Option Relation := (read word).toOption

end Relation

namespace Direction

def text : Direction → String
  | maximize => "Maximize"
  | minimize => "Minimize"

instance : Inhabited Direction := ⟨maximize⟩

/-- Reads a direction, in upper or lower case. Blanks around it do not matter. -/
def read (word : List Char) : Except UnknownWord Direction :=
  match String.ofList (Text.lowerCase (Text.trim word)) with
  | "maximize" => .ok maximize
  | "max" => .ok maximize
  | "minimize" => .ok minimize
  | "min" => .ok minimize
  | other => .error (.direction other)

end Direction

end LinearProgramming
