/-
  CodeFigure/CommandLine/Arguments.lean
  =====================================
  **Command line arguments: flags, options and positional values.**

  A command declares which options it understands (`OptionSpec`).  Its arguments
  are then read from the left:

    * `--name` is a flag or an option, `--name=value` an option with its value;
    * `-abc` is a row of one-letter flags, of which the last may be an option and
      takes the rest of the row as its value (`-cfile`, `-c=file`);
    * an option without a value in its own argument takes the next argument,
      unless that looks like an option itself;
    * behind `--` every argument is a positional value, as is a lone `-`
      everywhere and anything that does not start with `-`.

  A request for help, or for the version, ends the reading: what comes after it
  does not matter any more.
-/
namespace CodeFigure.CommandLine

/-- An option that a command understands: its long name, its letter if it has
    one, and whether it takes a value. -/
structure OptionSpec where
  long : String
  letter : Option Char
  takesValue : Bool
deriving DecidableEq, Repr

inductive Argument where
  | flag (name : String)
  | option (name value : String)
  | positional (value : String)
  | help
  | version
deriving DecidableEq, Repr

/-- Why a command line is not carried out: it makes no sense, or it asks for
    help or for the version instead. -/
inductive Stop where
  | usage
  | help
  | version
deriving DecidableEq, Repr

/-! ### One argument -/

def looksLikeOption (argument : String) : Bool :=
  match argument.toList with
  | '-' :: _ :: _ => true
  | _ => false

def findLong? (specs : List OptionSpec) (name : String) : Option OptionSpec :=
  specs.find? fun spec => spec.long = name

def findLetter? (specs : List OptionSpec) (letter : Char) : Option OptionSpec :=
  specs.find? fun spec => spec.letter = some letter

/-- `name=value`, taken apart; the value is absent without an equals sign. -/
def cutAtEquals (s : List Char) : String × Option String :=
  match s.dropWhile (· != '=') with
  | [] => (String.ofList s, none)
  | _ :: value => (String.ofList (s.takeWhile (· != '=')), some (String.ofList value))

/-- What one argument says: it is complete, or it names an option whose value is
    the next argument, or it ends the reading. -/
inductive Step where
  | complete (arguments : List Argument)
  | needsValue (arguments : List Argument) (option : String)
  | ends (arguments : List Argument)

def Step.after (argument : Argument) : Step → Step
  | .complete arguments => .complete (argument :: arguments)
  | .needsValue arguments option => .needsValue (argument :: arguments) option
  | .ends arguments => .ends (argument :: arguments)

/-- What a long option says.  Only the command itself has a version. -/
def readLong (specs : List OptionSpec) (hasVersion : Bool) (s : List Char) : Except Stop Step :=
  let (name, value) := cutAtEquals s
  match findLong? specs name, value with
  | some spec, some value =>
    if spec.takesValue then .ok (.complete [.option spec.long value]) else .error .usage
  | some spec, none =>
    if spec.takesValue then .ok (.needsValue [] spec.long) else .ok (.complete [.flag spec.long])
  | none, none =>
    if name = "help" then .ok (.ends [.help])
    else if name = "version" ∧ hasVersion = true then .ok (.ends [.version])
    else .error .usage
  | none, some _ => .error .usage

/-- The value that the rest of a row of letters gives to an option. -/
def rowValue : List Char → String
  | '=' :: value => String.ofList value
  | value => String.ofList value

def readRow (specs : List OptionSpec) (hasVersion : Bool) : List Char → Except Stop Step
  | [] => .ok (.complete [])
  | letter :: rest =>
    match findLetter? specs letter with
    | some spec =>
      if spec.takesValue then
        if rest.isEmpty then .ok (.needsValue [] spec.long)
        else .ok (.complete [.option spec.long (rowValue rest)])
      else (readRow specs hasVersion rest).map (Step.after (.flag spec.long))
    | none =>
      if letter = 'h' then .ok (.ends [.help])
      else if letter = 'V' ∧ hasVersion = true then .ok (.ends [.version])
      else .error .usage

/-! ### All arguments -/

def readAll (specs : List OptionSpec) : List String → Except Stop (List Argument)
  | [] => .ok []
  | argument :: rest =>
    match argument.toList with
    | ['-', '-'] => .ok (rest.map .positional)
    | '-' :: c :: s =>
      match (if c = '-' then readLong specs false s else readRow specs false (c :: s)) with
      | .error stop => .error stop
      | .ok (.complete arguments) => (readAll specs rest).map (arguments ++ ·)
      | .ok (.ends arguments) => .ok arguments
      | .ok (.needsValue arguments option) =>
        match rest with
        | [] => .error .usage
        | value :: rest =>
          if looksLikeOption value then .error .usage
          else (readAll specs rest).map (arguments ++ .option option value :: ·)
    | _ => (readAll specs rest).map (.positional argument :: ·)

/-- The arguments in front of the name of a command, and what starts with the
    name. -/
def readUpToCommand (specs : List OptionSpec) :
    List String → Except Stop (List Argument × List String)
  | [] => .ok ([], [])
  | argument :: rest =>
    match argument.toList with
    | ['-', '-'] => .error .usage
    | '-' :: c :: s =>
      match (if c = '-' then readLong specs true s else readRow specs true (c :: s)) with
      | .error stop => .error stop
      | .ok (.complete arguments) =>
        (readUpToCommand specs rest).map fun read => (arguments ++ read.1, read.2)
      | .ok (.ends arguments) => .ok (arguments, [])
      | .ok (.needsValue arguments option) =>
        match rest with
        | [] => .error .usage
        | value :: rest =>
          if looksLikeOption value then .error .usage
          else
            (readUpToCommand specs rest).map fun read =>
              (arguments ++ .option option value :: read.1, read.2)
    | _ => .ok ([], argument :: rest)

/-! ### What the arguments say -/

def positionals (arguments : List Argument) : List String :=
  arguments.filterMap fun argument =>
    match argument with
    | .positional value => some value
    | _ => none

/-- The length of the longest row of positional values without an option between
    them, when `row` of them come right before. -/
def longestRow (row : Nat) : List Argument → Nat
  | [] => row
  | .positional _ :: rest => longestRow (row + 1) rest
  | _ :: rest => max row (longestRow 0 rest)

def valuesOf (name : String) (arguments : List Argument) : List String :=
  arguments.filterMap fun argument =>
    match argument with
    | .option other value => if other = name then some value else none
    | _ => none

def valueOf? (name : String) (arguments : List Argument) : Option String :=
  (valuesOf name arguments).head?

def hasFlag (name : String) (arguments : List Argument) : Bool := arguments.contains (.flag name)

def timesGiven (name : String) (arguments : List Argument) : Nat :=
  (valuesOf name arguments).length + arguments.count (.flag name)

/-- Every option is given once at most, and those that take a path are not given
    an empty one. -/
def areConsistent (specs : List OptionSpec) (paths : List String) (arguments : List Argument) :
    Bool :=
  specs.all (fun spec => decide (timesGiven spec.long arguments ≤ 1)) &&
    paths.all fun name => !(valuesOf name arguments).contains ""

/-- The request that ends the arguments, if there is one. -/
def request? (arguments : List Argument) : Option Stop :=
  match arguments.getLast? with
  | some .help => some .help
  | some .version => some .version
  | _ => none

/-- The arguments, if they make sense and ask for nothing else. -/
def checked (specs : List OptionSpec) (paths : List String) (arguments : List Argument) :
    Except Stop (List Argument) :=
  if areConsistent specs paths arguments then
    match request? arguments with
    | some stop => .error stop
    | none => .ok arguments
  else .error .usage

end CodeFigure.CommandLine
