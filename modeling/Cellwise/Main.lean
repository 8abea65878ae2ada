import Cellwise.CommandLine.Reading
import Cellwise.CommandLine.Commands

/-!
# The program

Reads the command line, runs the command with the file that it names, and shows what happened.
-/

namespace Cellwise

/-- The content of a file, or why it cannot be read. -/
def readText (path : String) : IO (Except FileError String) := do
  try
    let text ← IO.FS.readFile path
    pure (.ok text)
  catch
    | .noFileOrDirectory _ _ _ => pure (.error .missing)
    | .inappropriateType _ code details =>
      pure (.error (if code = 20 then .notFolder else if code = 21 then .isFolder
        else .other details))
    | e => pure (.error (.other (toString e)))

/-- The file that a request names, looked up under its name. -/
def namedFile (request : Request) : IO FileLookup := do
  match request.config with
  | none => pure fun _ => .error .missing
  | some path => do
    let content ← readText path
    pure fun other => if other = path then content else .error .missing

/-- Shows why a command line is not carried out. -/
def showUsage (e : UsageError) : IO UInt32 := do
  if e = .version then (← IO.getStdout).putStr versionText
  else if e.exitCode = 0 then (← IO.getStdout).putStr usageText
  else (← IO.getStderr).putStr (e.message ++ usageText)
  pure (UInt32.ofNat e.exitCode)

/-- Runs a request and shows what happens. -/
def showRun (request : Request) : IO UInt32 := do
  let lookUp ← namedFile request
  let stdout ← IO.getStdout
  let outcome := (request.run lookUp (← stdout.isTty)).run ()
  outcome.events.forM fun event => stdout.putStr (event.shown request.level)
  match outcome.result with
  | .ok _ => pure 0
  | .error e => do
    (← IO.getStderr).putStr e.report
    pure 1

end Cellwise

/-- The program: exit code 1 when a command fails, 2 when the command line makes no sense. -/
def main (arguments : List String) : IO UInt32 :=
  match Cellwise.Request.ofArguments arguments with
  | .error e => Cellwise.showUsage e
  | .ok request => Cellwise.showRun request
