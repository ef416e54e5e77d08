import AccessPolicy.CommandLine.Run

/-!
The program: it looks around, runs the command line and prints the outcome.
-/
namespace AccessPolicy.CommandLine

/-- What is under a path. No file is below another one, and to read a directory fails by itself. -/
def look (path : String) : IO Found := do
  try
    return .file (← IO.FS.readFile path)
  catch
    | .noFileOrDirectory .. => return .nothing
    | .inappropriateType (some _) .. => return .nothing
    | .inappropriateType none .. => return .directory
    | _ => return .unreadable

/-- Look under each path once. -/
def lookAll (paths : List String) : IO (String → Found) := do
  let found ← paths.mapM fun path => return (path, ← look path)
  return fun path => (found.lookup path).getD .nothing

/-- The variables that the program was started with. -/
def environment : IO Variables := do
  let text ← IO.FS.readFile "/proc/self/environ"
  return (text.splitOn "\x00").filterMap (Text.cutAtFirst '=')

/-- The files that a command line may read. -/
def filesOf (s : Surroundings) (args : List String) : List String :=
  let s := withVariableFile s
  match Request.ofArguments s.environment args with
  | .error _ => []
  | .ok r =>
    let paths := Settings.candidates s r.config
    paths ++ paths.filterMap s.beside?

def printError (e : RunError) : IO Unit := do
  IO.eprintln ("Error: " ++ e.message)
  match e.cause? with
  | none => return ()
  | some cause => IO.eprintln ("\nCaused by:\n    " ++ cause)

/-- Run the command line in the surroundings found. -/
def start (args : List String) : IO UInt32 := do
  let directory := (← IO.currentDir).toString
  let places := variableFiles directory
  let before : Surroundings :=
    ⟨← lookAll places, directory, ← IO.getEnv "HOME", ← environment⟩
  let find ← lookAll (places ++ filesOf before args)
  let outcome := run { before with find } args
  IO.print outcome.output
  match outcome with
  | .failed e => printError e
  | .badUsage => IO.eprint helpText
  | .finished _ _ => pure ()
  return outcome.code.toUInt32

end AccessPolicy.CommandLine

def main (args : List String) : IO UInt32 := AccessPolicy.CommandLine.start args
