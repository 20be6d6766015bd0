import LinearProgramming.ProblemFile.ParseError
import LinearProgramming.ProblemFile.Path

/-!
# Importing problem files

A problem is imported from a file whose extension says that it holds a problem text.
The extension is looked at before the file is read.
-/

namespace LinearProgramming.ProblemFile

/-- Why a file cannot be read. -/
inductive FileFault where
  | notFound
  | isDirectory
  | notDirectory
  /-- The path, or a name on it, is longer than the file system allows. -/
  | nameTooLong
  /-- The path has a zero byte in it, which ends a path for the file system. -/
  | zeroByte
  /-- The content is not text in UTF-8. -/
  | notText
  /-- Another reason, in the words of the file system. -/
  | other (message : String)
  deriving DecidableEq, Repr

def FileFault.message : FileFault → String
  | notFound => "No such file or directory (os error 2)"
  | isDirectory => "Is a directory (os error 21)"
  | notDirectory => "Not a directory (os error 20)"
  | nameTooLong => "File name too long (os error 36)"
  | zeroByte => "file name contained an unexpected NUL byte"
  | notText => "stream did not contain valid UTF-8"
  | other message => message

/-- Why the extension of a path is refused. -/
inductive ExtensionFault where
  | missing (path : Path)
  | notText (extension : List UInt8)
  | unknown (extension : String) (path : Path)
  deriving DecidableEq, Repr

def ExtensionFault.message : ExtensionFault → String
  | missing path => "Could not read extension from file path: " ++ path.quoted
  | notText extension =>
    "Could not convert OsStr to &str, probably invalid unicode: " ++ Text.quoted extension
  | unknown extension path =>
    s!"Could not recognise file extension \"{extension}\" of file: " ++ path.quoted

/-- Why no problem is imported. -/
inductive ImportError where
  | extension (fault : ExtensionFault)
  | file (fault : FileFault)
  | parse (error : ParseError)
  | shape (error : ShapeError)
  deriving DecidableEq, Repr

namespace ImportError

def message : ImportError → String
  | extension fault => fault.message
  | file fault => fault.message
  | parse error => error.text
  | shape error => error.message

/-- The texts of all causes, the nearest first. An error that passes another one on has
that one as its first cause. -/
def causes : ImportError → List String
  | extension _ => []
  | file fault => [fault.message]
  | parse error => error.text :: error.causes
  | shape error => [error.message]

end ImportError

/-- What is said about a text that is refused. -/
def Refusal.importError (r : Refusal) : ImportError :=
  match r.report with
  | .inl error => .parse error
  | .inr error => .shape error

/-- Reads a problem from a text. -/
def parse {F : Type} [Readable F] (text : String) : Except ImportError (LinearProgram F) :=
  (read text.toList).mapError Refusal.importError

/-- The extensions of problem texts. -/
def extensions : List String := ["lp", "txt"]

/-- The extension of a path has to be one of those for problem texts. -/
def checkExtension (path : Path) : Except ExtensionFault Unit :=
  match path.extension? with
  | none => .error (.missing path)
  | some extension =>
    match String.fromUTF8? ⟨extension.toArray⟩ with
    | none => .error (.notText extension)
    | some text => if text ∈ extensions then .ok () else .error (.unknown text path)

/-- The text of the problem file at a path. -/
def fetchText (fetch : Path → Except FileFault (List UInt8)) (path : Path) :
    Except ImportError String :=
  match checkExtension path with
  | .error fault => .error (.extension fault)
  | .ok () =>
    match fetch path with
    | .error fault => .error (.file fault)
    | .ok bytes =>
      match String.fromUTF8? ⟨bytes.toArray⟩ with
      | none => .error (.file .notText)
      | some text => .ok text

/-- Imports a problem from the file at a path. -/
def importProblem {F : Type} [Readable F] (fetch : Path → Except FileFault (List UInt8))
    (path : Path) : Except ImportError (LinearProgram F) :=
  match fetchText fetch path with
  | .error error => .error error
  | .ok text => parse text

end LinearProgramming.ProblemFile
