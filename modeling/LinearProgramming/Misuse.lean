/-!
# Misuse

Some operations ask their caller for arguments that fit together, such as a value for
every variable. Where they are given others, they answer with a misuse. It says nothing
about the problem at hand, so it is no failure to solve it.
-/

namespace LinearProgramming

/-- A use of the library that its documentation rules out, with the numbers that do
not fit together. -/
inductive Misuse where
  | valueCount (basics values : Nat)
  | basicVariable (dimension : Nat)
  | pointLength (length dimension : Nat)
  | rowLength (cells : Nat)
  /-- A row or a column that does not exist. -/
  | position
  /-- More variables than a list of their values can have entries. -/
  | size
  deriving DecidableEq, Repr

/-- What is said about a misuse, where there is something to say. -/
def Misuse.message? : Misuse → Option String
  | valueCount basics values => some s!"{basics} basic variables, but {values} values"
  | basicVariable dimension => some s!"basic variable out of range for {dimension} variables"
  | pointLength length dimension => some s!"point of length {length} for {dimension} variables"
  | rowLength cells => some s!"every row needs {cells} cells"
  | position => none
  | size => none

end LinearProgramming
