import LinearProgramming.Text.Quoted

/-!
# Paths of problem files

A path is a sequence of bytes with slashes between the names of files. The name of a
file may end in an extension: what follows its last dot, if there is something before
that dot.
-/

namespace LinearProgramming.ProblemFile

/-- The path of a file. -/
structure Path where
  bytes : List UInt8
  deriving DecidableEq, Repr

namespace Path

def slash : UInt8 := 0x2F

def dot : UInt8 := 0x2E

def ofString (text : String) : Path := ⟨text.toUTF8.toList⟩

def quoted (p : Path) : String := Text.quoted p.bytes

/-- The parts between the slashes of a path, empty ones included. -/
def parts (p : Path) : List (List UInt8) :=
  p.bytes.foldr
    (fun byte parts =>
      if byte = slash then [] :: parts
      else match parts with
        | [] => [[byte]]
        | part :: rest => (byte :: part) :: rest)
    [[]]

/-- The name of the file: the last part, where empty parts and single dots do not count.
Two dots are no name. -/
def name? (p : Path) : Option (List UInt8) :=
  match (p.parts.filter fun part => part ≠ [] ∧ part ≠ [dot]).getLast? with
  | some name => if name = [dot, dot] then none else some name
  | none => none

/-- What follows the last dot of a name, if it does not start there. -/
def extensionOf? (name : List UInt8) : Option (List UInt8) :=
  let reversed := name.reverse
  match reversed.dropWhile (· ≠ dot) with
  | _ :: _ :: _ => some (reversed.takeWhile (· ≠ dot)).reverse
  | _ => none

/-- The extension of the file. -/
def extension? (p : Path) : Option (List UInt8) := p.name?.bind extensionOf?

end Path

end LinearProgramming.ProblemFile
