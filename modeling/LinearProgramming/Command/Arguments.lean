import LinearProgramming.Number.Decimal

/-!
# Command line arguments

The arguments are read from left to right, and the first one that cannot be read ends
the reading. A request for the version or for help is granted as soon as it is met. All
other requests need exactly one problem file, and rules on several arguments at once are
checked after all of them have been read.
-/

namespace LinearProgramming.Command

/-- How much is logged, from nothing to everything. -/
inductive Level where
  | off
  | error
  | warn
  | info
  | debug
  | trace
  deriving DecidableEq, Repr

namespace Level

def rank : Level → Nat
  | off => 0
  | error => 1
  | warn => 2
  | info => 3
  | debug => 4
  | trace => 5

def name : Level → String
  | off => "OFF"
  | error => "ERROR"
  | warn => "WARN"
  | info => "INFO"
  | debug => "DEBUG"
  | trace => "TRACE"

/-- The level with a rank. Beyond the last level there is nothing more to log. -/
def ofRank : Nat → Level
  | 0 => off
  | 1 => error
  | 2 => warn
  | 3 => info
  | 4 => debug
  | _ => trace

/-- Warnings are logged, and more or less for every time that is asked for. -/
def ofCounts (verbose quiet : Nat) : Level := ofRank (warn.rank + verbose - quiet)

end Level

/-- A request to solve the problem of a file. -/
structure Options where
  file : String
  limit : Nat
  epsilon : Float
  /-- Whether ties are broken such that the method never cycles. -/
  lowest : Bool
  /-- Whether all tableaus are shown. -/
  history : Bool
  /-- The number of a tableau that is to be shown. -/
  iteration : Option Nat
  level : Level

/-- What the arguments ask for. -/
inductive Request where
  | version
  | help
  | solve (options : Options)

/-- Why the arguments are refused. -/
inductive UsageError where
  | unknown (argument : String)
  | noValue (option : String)
  | value (option text : String)
  | unwantedValue (flag : String)
  | repeated (argument : String)
  | secondFile (file : String)
  | noFile
  | conflict
  deriving DecidableEq, Repr

def UsageError.message : UsageError → String
  | unknown argument => s!"unexpected argument: {argument}"
  | noValue option => s!"a value is required for {option}"
  | value option text => s!"invalid value for {option}: {text}"
  | unwantedValue flag => s!"no value is allowed for {flag}"
  | repeated argument => s!"{argument} cannot be used multiple times"
  | secondFile file => s!"unexpected second file: {file}"
  | noFile => "a problem file is required"
  | conflict => "--verbose and --quiet cannot be used together"

/-- The arguments that have been read. -/
structure Given where
  file : Option String := none
  limit : Option Nat := none
  epsilon : Option Float := none
  lowest : Bool := false
  history : Bool := false
  iteration : Option Nat := none
  verbose : Nat := 0
  quiet : Nat := 0

/-- The largest count that an option takes. -/
def largestCount : Nat := UInt64.size - 1

/-- Reads a count: digits with an optional plus sign. -/
def readCount? (text : List Char) : Option Nat :=
  let unsigned := match text with
    | '+' :: rest => rest
    | _ => text
  if unsigned ≠ [] ∧ unsigned.all Char.isDigit ∧ digitsValue unsigned ≤ largestCount then
    some (digitsValue unsigned)
  else none

/-- The options that take a value. -/
inductive ValueOption where
  | limit
  | epsilon
  | iteration
  deriving DecidableEq

def ValueOption.ofName? : String → Option ValueOption
  | "max-iterations" => some limit
  | "epsilon" => some epsilon
  | "iteration" => some iteration
  | _ => none

/-- The arguments that take no value. -/
inductive Flag where
  | lowest
  | history
  | verbose
  | quiet
  | version
  | help
  deriving DecidableEq

def Flag.ofName? : String → Option Flag
  | "bland" => some lowest
  | "history" => some history
  | "verbose" => some verbose
  | "quiet" => some quiet
  | "version" => some version
  | "help" => some help
  | _ => none

def Flag.ofLetter? : Char → Option Flag
  | 'v' => some verbose
  | 'q' => some quiet
  | 'V' => some version
  | 'h' => some help
  | _ => none

namespace Given

/-- Takes the value of an option, which may be given once. -/
def setValue (g : Given) (option : ValueOption) (name value : String) :
    Except UsageError Given :=
  match option with
  | .limit => match readCount? value.toList with
    | none => .error (.value name value)
    | some n => if g.limit.isSome then .error (.repeated name) else .ok { g with limit := some n }
  | .epsilon => match (Floating.read? value.toList : Option Float) with
    | none => .error (.value name value)
    | some x =>
      if g.epsilon.isSome then .error (.repeated name) else .ok { g with epsilon := some x }
  | .iteration => match readCount? value.toList with
    | none => .error (.value name value)
    | some n =>
      if g.iteration.isSome then .error (.repeated name)
      else .ok { g with iteration := some n }

/-- Takes a flag. Some flags may be given once, and some count how often they are; with
some there is nothing more to read. -/
def setFlag (g : Given) (flag : Flag) (name : String) : Except UsageError (Request ⊕ Given) :=
  match flag with
  | .lowest => if g.lowest then .error (.repeated name) else .ok (.inr { g with lowest := true })
  | .history =>
    if g.history then .error (.repeated name) else .ok (.inr { g with history := true })
  | .verbose => .ok (.inr { g with verbose := g.verbose + 1 })
  | .quiet => .ok (.inr { g with quiet := g.quiet + 1 })
  | .version => .ok (.inl .version)
  | .help => .ok (.inl .help)

/-- Takes the flags that are written as letters after one dash. -/
def setLetters (g : Given) : List Char → Except UsageError (Request ⊕ Given)
  | [] => .ok (.inr g)
  | letter :: rest =>
    match Flag.ofLetter? letter with
    | none => .error (.unknown (String.ofList ['-', letter]))
    | some flag =>
      match g.setFlag flag (String.ofList ['-', letter]) with
      | .ok (.inr g) => g.setLetters rest
      | other => other

/-- Takes the problem file, of which there is one. -/
def setFile (g : Given) (file : String) : Except UsageError Given :=
  if g.file.isSome then .error (.secondFile file)
  else if file = "" then .error (.noValue "<problem_file>")
  else .ok { g with file := some file }

/-- Takes the arguments after two dashes, which all are files. -/
def setFiles (g : Given) : List String → Except UsageError Given
  | [] => .ok g
  | file :: rest =>
    match g.setFile file with
    | .error error => .error error
    | .ok g => g.setFiles rest

/-- The request that the arguments amount to. -/
def request (g : Given) : Except UsageError Request :=
  match g.file with
  | none => .error .noFile
  | some file =>
    if 0 < g.verbose ∧ 0 < g.quiet then .error .conflict
    else .ok (.solve {
      file
      limit := g.limit.getD 1000
      epsilon := g.epsilon.getD 1e-10
      lowest := g.lowest
      history := g.history
      iteration := g.iteration
      level := .ofCounts g.verbose g.quiet })

/-- Whether an argument can be the value of the option before it. -/
def canBeValue (argument : String) : Bool :=
  match argument.toList with
  | '-' :: _ :: _ => false
  | _ => true

/-- Splits what follows two dashes into a name and the value after an equals sign. -/
def splitName (text : List Char) : String × Option String :=
  let name := String.ofList (text.takeWhile (· ≠ '='))
  match text.dropWhile (· ≠ '=') with
  | _ :: value => (name, some (String.ofList value))
  | [] => (name, none)

/-- Takes an argument that is no option with a separate value. -/
def setArgument (g : Given) (argument : String) : Except UsageError (Request ⊕ Given) :=
  match argument.toList with
  | '-' :: '-' :: text =>
    let (name, value?) := splitName text
    match ValueOption.ofName? name, Flag.ofName? name, value? with
    | some option, _, some value => (g.setValue option ("--" ++ name) value).map .inr
    | some _, _, none => .error (.noValue ("--" ++ name))
    | none, some _, some _ => .error (.unwantedValue ("--" ++ name))
    | none, some flag, none => g.setFlag flag ("--" ++ name)
    | none, none, _ => .error (.unknown argument)
  | '-' :: letter :: rest => g.setLetters (letter :: rest)
  | _ => (g.setFile argument).map .inr

/-- The option that an argument names, if its value has to follow as an argument of its
own. -/
def awaiting? (argument : String) : Option ValueOption :=
  match argument.toList with
  | '-' :: '-' :: text => ValueOption.ofName? (String.ofList text)
  | _ => none

/-- Takes arguments from left to right. -/
def setAll (g : Given) : List String → Except UsageError Request
  | [] => g.request
  | argument :: rest =>
    if argument = "--" then
      match g.setFiles rest with
      | .error error => .error error
      | .ok g => g.request
    else match awaiting? argument, rest with
      | some option, value :: rest =>
        if canBeValue value then
          match g.setValue option argument value with
          | .error error => .error error
          | .ok g => g.setAll rest
        else .error (.noValue argument)
      | _, rest =>
        match g.setArgument argument with
        | .error error => .error error
        | .ok (.inl request) => .ok request
        | .ok (.inr g) => g.setAll rest

end Given

/-- What a list of arguments asks for. -/
def Request.read (arguments : List String) : Except UsageError Request :=
  ({} : Given).setAll arguments

end LinearProgramming.Command
