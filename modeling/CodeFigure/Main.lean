/-
  CodeFigure/Main.lean
  ====================
  **The program.**

  Everything that a command line depends on is looked up first: the files that
  may hold settings, the file with the body, the environment variables that the
  settings refer to, and standard input when a body is read from it.  What the
  command line then does is a function of these (`CommandLine.run`), and all that
  is left is to print what it says.

  There is no network here, so a gist ends where a connection would begin.
-/
import CodeFigure.CommandLine.Run

namespace CodeFigure.CommandLine

/-! ### Looking around -/

def fileErrorOf : IO.Error → FileError
  | .noFileOrDirectory _ _ _ => .notFound
  | .inappropriateType _ 20 _ => .notADirectory
  | .inappropriateType _ 21 _ => .isADirectory
  | error => .other (toString error)

structure Sight where
  path : String
  present : Bool
  reading : Reading

/-- Something is at `path`, whether or not it can be read. -/
def isPresent (path : String) : IO Bool := do
  try
    let _ ← IO.FS.realPath path
    return true
  catch _ => return false

def readFile (path : String) : IO Reading := do
  try
    let content ← IO.FS.readBinFile path
    return .ok content
  catch error => return .error (fileErrorOf error)

def probe (path : String) : IO Sight := do
  return ⟨path, ← isPresent path, ← readFile path⟩

def pathNames (path : String) : Path := (path.splitOn "/").filter fun name => name != ""

def currentDirectory? : IO (Option Path) := do
  try
    let directory ← IO.currentDir
    return some (pathNames directory.toString)
  catch _ => return none

/-- The file system as far as it was looked at. -/
def seenFiles (seen : List Sight) : FileSystem where
  has path := seen.any fun sight => sight.path == path && sight.present
  read path :=
    match seen.find? fun sight => sight.path == path with
    | some sight => sight.reading
    | none => .error .notFound

def lookUpVariables (names : List String) : IO (List (String × String)) := do
  let found ← names.mapM fun name => do
    let value ← IO.getEnv name
    return value.map fun value => (name, value)
  return found.filterMap id

def inputPath? : Command → Option String
  | .codeblock _ input => input
  | .gist _ _ => none

def readsInput : Command → Bool
  | .codeblock _ input => input.isNone
  | .gist _ _ => false

partial def readAllBytes (stream : IO.FS.Stream) (sofar : ByteArray) : IO ByteArray := do
  let more ← stream.read 65536
  if more.isEmpty then return sofar
  readAllBytes stream (sofar ++ more)

def readInput : IO Reading := do
  try
    let content ← readAllBytes (← IO.getStdin) .empty
    return .ok content
  catch error => return .error (fileErrorOf error)

def lookAround (invocation : Invocation) : IO Host := do
  let directory ← currentDirectory?
  let places := match invocation.options.config with
    | some path => [path]
    | none => ((directory.map Config.candidates).getD [])
  let settings ← places.mapM probe
  let body ← ((inputPath? invocation.command).toList).mapM probe
  let sources := settings.filterMap fun sight => (sight.reading.bind decodeText).toOption
  let values ← lookUpVariables (sources.flatMap Config.variableNames)
  let input ← if readsInput invocation.command then readInput else pure (.ok .empty)
  return ⟨⟨seenFiles (settings ++ body), directory, environmentOf values⟩, input, Offline.client,
    (← IO.monoMsNow) / 1000⟩

/-! ### Printing -/

def usage : String :=
  "Usage: octoblock [OPTIONS] codeblock [--input FILE] [PARAMS]...\n"
    ++ "       octoblock [OPTIONS] gist [--strict] REFERENCE [FILENAME]\n\n"
    ++ "Options:\n"
    ++ "  -c, --config FILE    configuration file (default: the nearest octoblock.toml)\n"
    ++ "  -v, --verbose        report what is read and fetched\n"
    ++ "      --no-highlight   render plain tables of lines\n"
    ++ "      --base-url URL   address of the gist host\n"

def isShown (verbose : Bool) (entry : LogEntry) : Bool :=
  match entry.level with
  | .debug => false
  | .info => verbose
  | .warn => true
  | .error => true

def reportLine (entry : LogEntry) : String :=
  entry.level.name ++ " " ++ entry.message
    ++ String.join (entry.fields.map fun field => " " ++ field.1 ++ "=" ++ Text.quoted field.2) ++ "\n"

def usesColor : IO Bool := do
  let settings ← lookUpVariables ["CLICOLOR_FORCE", "CLICOLOR", "NO_COLOR"]
  let environment := environmentOf settings
  let isTerminal ← (← IO.getStdout).isTty
  return forcesColor environment
    || (isTerminal && environment "CLICOLOR" != some "0" && (environment "NO_COLOR").isNone)

/-- Print what a command line says, and return its exit code. -/
def conclude (verbose : Bool) (ending : Ending) : IO UInt32 := do
  for entry in ending.log.filter (isShown verbose) do
    IO.eprint (reportLine entry)
  IO.print ending.stdout
  IO.eprint (ending.stderr (← usesColor))
  return UInt32.ofNat ending.exitCode

def execute (args : List String) : IO UInt32 := do
  let environment ← lookUpVariables [baseUrlVariable]
  match parse (environmentOf environment) args with
  | .error .usage =>
    IO.eprint usage
    return 2
  | .error .help =>
    IO.print usage
    return 0
  | .error .version =>
    IO.print versionLine
    return 0
  | .ok invocation =>
    let host ← lookAround invocation
    conclude invocation.options.verbose (run host invocation .offline)

end CodeFigure.CommandLine

def main (args : List String) : IO UInt32 := CodeFigure.CommandLine.execute args
