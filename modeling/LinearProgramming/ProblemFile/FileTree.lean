import LinearProgramming.ProblemFile.Import

/-!
# A tree of files

Files and directories as data, for looking up paths without a file system. A path is
followed part by part from the root, and every part but the last has to be a directory.
Outside the root there is nothing but the directories around it.
-/

namespace LinearProgramming.ProblemFile

/-- The files and the directories that were made explicitly. -/
structure FileTree where
  files : List (List (List UInt8) × List UInt8)
  directories : List (List (List UInt8))

namespace FileTree

def empty : FileTree := ⟨[], []⟩

/-- The names on a path, where empty parts and single dots do not count. -/
def names (p : Path) : List (List UInt8) :=
  p.parts.filter fun part => part ≠ [] ∧ part ≠ [Path.dot]

def addFile (t : FileTree) (p : Path) (content : List UInt8) : FileTree :=
  { t with files := (names p, content) :: t.files }

def addDirectory (t : FileTree) (p : Path) : FileTree :=
  { t with directories := names p :: t.directories }

/-- What is found at a place below the root. -/
inductive Entry where
  | missing
  | file (content : List UInt8)
  | directory
  deriving DecidableEq

/-- Whether a place is a directory: the root, one that was made, or one around these. -/
def isDirectory (t : FileTree) (place : List (List UInt8)) : Bool :=
  place.isEmpty || t.directories.any (place.isPrefixOf ·) ||
    t.files.any fun file => place.isPrefixOf file.1 && place.length < file.1.length

def entry (t : FileTree) (place : List (List UInt8)) : Entry :=
  if t.isDirectory place then .directory
  else match t.files.find? fun file => file.1 = place with
    | some file => .file file.2
    | none => .missing

/-- The most bytes of a name. -/
def largestName : Nat := 255

/-- The most bytes of a path. -/
def largestPath : Nat := 4095

/-- Why nothing is read where the parts of a path lead from a directory around the root. -/
def outside : List (List UInt8) → FileFault
  | [] => .isDirectory
  | part :: rest =>
    if part = [] ∨ part = [Path.dot] ∨ part = [Path.dot, Path.dot] then outside rest
    else if largestName < part.length then .nameTooLong
    else .notFound

/-- Follows the parts of a path from a place. -/
def follow (t : FileTree) (place : List (List UInt8)) :
    List (List UInt8) → Except FileFault (List (List UInt8))
  | [] => .ok place
  | part :: rest =>
    match t.entry place with
    | .missing => .error .notFound
    | .file _ => .error .notDirectory
    | .directory =>
      if part = [] ∨ part = [Path.dot] then t.follow place rest
      else if part = [Path.dot, Path.dot] then
        if place = [] then .error (outside rest) else t.follow place.dropLast rest
      else if largestName < part.length then .error .nameTooLong
      else t.follow (place ++ [part]) rest

/-- The content of the file at a path. The path as a whole is looked at before its parts,
and one that starts with a slash leads outside the root. -/
def read (t : FileTree) (p : Path) : Except FileFault (List UInt8) :=
  if 0 ∈ p.bytes then .error .zeroByte
  else if p.bytes = [] then .error .notFound
  else if largestPath < p.bytes.length then .error .nameTooLong
  else if p.bytes.head? = some Path.slash then .error (outside p.parts)
  else match t.follow [] p.parts with
    | .error fault => .error fault
    | .ok place =>
      match t.entry place with
      | .missing => .error .notFound
      | .directory => .error .isDirectory
      | .file content => .ok content

end FileTree

end LinearProgramming.ProblemFile
