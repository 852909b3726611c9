import SlangSql.Terminal.Program

/-!
# The command line

Collects the arguments, the environment, the settings files and the history, and
prints what the program writes. Lines of the prompt loop are read one at a time.
Databases are kept in memory and end with the run; the history is kept in its file.
-/

set_option autoImplicit false

namespace SlangSql.CommandLine

open SlangSql.Terminal

/-- A text file, under the name it is known by, if it can be read. -/
def readable (name path : String) : IO (List (Place × Entry)) := do
  match ← (IO.FS.readFile path).toBaseIO with
  | .ok content => return [(.ofPath name, .text content)]
  | .error _ => return []

/-- A path in the home folder. -/
def homePath (name : String) : IO String := do
  return (← IO.getEnv "HOME").getD "" ++ "/" ++ name

/-- The files that a run may need. -/
def knownFiles (settings : Option String) : IO (List (Place × Entry)) := do
  let first ← match settings with
    | some path => readable path path
    | none => pure []
  return first ++ (← readable Program.settingsFile Program.settingsFile) ++
    (← readable Program.homeSettingsFile (← homePath Program.homeSettingsFile)) ++
    (← readable History.fileName (← homePath History.fileName))

/-- A switch in the environment is on unless it is zero. -/
def switch? (name : String) : IO (Option Bool) := do
  return (← IO.getEnv name).map (· != "0")

/-- Colours are for terminals, unless the environment decides. -/
def wantsColor : IO Bool := do
  if (← switch? "CLICOLOR_FORCE") == some true then return true
  if (← switch? "NO_COLOR").isSome then return false
  return ((← switch? "CLICOLOR").getD true) && (← (← IO.getStdout).isTty)

def print (t : Transcript) : IO Unit := do
  IO.print t.out
  IO.eprint t.err
  (← IO.getStdout).flush

/-- The prompt loop; gives the state at its end. -/
partial def converse (m : Display.Mode) (s : Repl.State) : IO Repl.State := do
  print (Repl.prompt m.colored s)
  let line ← (← IO.getStdin).getLine
  if line.isEmpty then
    print (Repl.farewell m.colored)
    return s
  match Repl.step m s (Repl.withoutEnd line) with
  | .leave s' shown =>
    print shown
    return s'
  | .stay s' shown =>
    print shown
    converse m s'

/-- Writes the history if it has changed. -/
def keepHistory (h : History) : IO Unit := do
  if h.isChanged then
    let _ ← (IO.FS.writeFile (← homePath History.fileName) h.toText).toBaseIO

def invoke (i : Invocation) : IO UInt32 := do
  let colored ← wantsColor
  match Program.invoke ⟨← knownFiles i.config⟩ colored i with
  | .ended e =>
    let report := e.report colored
    print report.transcript
    return UInt32.ofNat report.code
  | .prompting p =>
    print p.before
    keepHistory (← converse p.setup.mode p.state).history
    return 0

end SlangSql.CommandLine

def main (args : List String) : IO UInt32 := do
  match SlangSql.Terminal.Arguments.read args (← IO.getEnv "BRAINROT_DATABASE_URL") with
  | .version =>
    IO.println SlangSql.Terminal.Program.version
    return 0
  | .usageError =>
    IO.eprint (SlangSql.Terminal.Program.usage false).out
    return 2
  | .run i => SlangSql.CommandLine.invoke i
