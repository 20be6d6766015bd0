import LinearProgramming.Command.Response

/-!
# The command line program

Reads the problem file, writes what the command answers, and exits with its code.
-/

namespace LinearProgramming

open ProblemFile

/-- Why the file system gave no content. Its codes come with either sign, as words of
32 bits. -/
def faultOfError : IO.Error → FileFault
  | .noFileOrDirectory .. => .notFound
  | .invalidArgument file code details =>
    if code = 36 ∨ code = -36 then .nameTooLong
    else .other (toString (IO.Error.invalidArgument file code details))
  | .inappropriateType file code details =>
    if code = 20 ∨ code = -20 then .notDirectory
    else if code = 21 ∨ code = -21 then .isDirectory
    else .other (toString (IO.Error.inappropriateType file code details))
  | error => .other (toString error)

/-- The content of a file. -/
def readFile (file : String) : IO (Except FileFault (List UInt8)) := do
  try
    let content ← IO.FS.readBinFile file
    return .ok content.toList
  catch error => return .error (faultOfError error)

/-- The content of the file that the arguments name, if it is a problem file. -/
def readProblemFile (arguments : List String) : IO (Except FileFault (List UInt8)) := do
  match Command.Request.read arguments with
  | .ok (.solve options) =>
    match checkExtension (Path.ofString options.file) with
    | .ok () => readFile options.file
    | .error _ => return .error .notFound
  | _ => return .error .notFound

end LinearProgramming

open LinearProgramming in
def main (arguments : List String) : IO UInt32 := do
  let content ← readProblemFile arguments
  let response := Command.answer (fun _ => content) arguments
  for record in response.log do
    IO.eprintln record.text
  IO.print response.output
  unless response.complaint = "" do
    IO.eprintln response.complaint
  return UInt32.ofNat response.code
