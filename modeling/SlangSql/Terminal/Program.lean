import SlangSql.Settings
import SlangSql.Terminal.Demo
import SlangSql.Terminal.Directory
import SlangSql.Terminal.Repl

/-!
# The program

One run of the program: from its arguments, its input and the files of its
directory to what it writes, its exit code, and the files afterwards.
-/

set_option autoImplicit false

namespace SlangSql.Terminal.Program

/-- What one run is given. -/
structure Call where
  args : List String
  input : String
  /-- The address in the environment. -/
  environmentUrl : Option String
  colored : Bool
  deriving DecidableEq, Repr

structure Report where
  code : Nat
  transcript : Transcript
  deriving DecidableEq, Repr

/-- How a run ends: with all done, or with the text of an error. -/
structure Ending where
  directory : Directory
  transcript : Transcript
  failure : Option String
  deriving DecidableEq, Repr

def version : String := "brainrot 0.1.0"

def settingsFile : String := "brainrot.toml"
def homeSettingsFile : String := ".config/brainrot/config.toml"

/-- The text of an error with its cause. -/
def causes : Error → String
  | .file text => (Error.file text).message ++ ": " ++ text
  | e => e.message

/-- Reads the settings in a file. -/
def settingsIn (d : Directory) (path : String) : Except Error Settings :=
  match d.readText path with
  | .error t => .error (.file t.text)
  | .ok content =>
    match Settings.parse content with
    | .ok s => .ok s
    | .error e => .error (.configuration (path ++ ": " ++ e.message))

/-- The settings: of the file that is named, else of the first usual file that is there. -/
def loadSettings (d : Directory) : Option String → Except Error Settings
  | some path => settingsIn d path
  | none =>
    match [settingsFile, homeSettingsFile].find? d.hasFile with
    | some path => settingsIn d path
    | none => .ok {}

def succeed (d : Directory) (t : Transcript) : Ending := ⟨d, t, none⟩

def fail (d : Directory) (t : Transcript) (e : Error) : Ending := ⟨d, t, some (causes e)⟩

/-- What is common to all things the program does. -/
structure Setup where
  directory : Directory
  vocabulary : Vocabulary
  url : Option String
  mode : Display.Mode
  deriving DecidableEq, Repr

/-- A prompt loop that waits for its first line. -/
structure Prompting where
  setup : Setup
  /-- What has been written so far. -/
  before : Transcript
  /-- The file to put the database back to. -/
  place : Option Place
  state : Repl.State
  deriving DecidableEq, Repr

/-- How far a run comes without input. -/
inductive Stage where
  | ended (e : Ending)
  | prompting (p : Prompting)
  deriving DecidableEq, Repr

/-- A session with the database of an address, and the file to put it back to. -/
def Setup.connect (u : Setup) (url : String) : Except Error (Option Place × Session) :=
  match u.directory.connect url with
  | .ok o => .ok (o.place, .start u.vocabulary o.database o.access)
  | .error e => .error e

def Setup.close (u : Setup) (place : Option Place) (s : Session) : Directory :=
  u.directory.store place s.close

def usage (colored : Bool) : Transcript :=
  .lines [Style.cyan.bold.paint colored "🧠 BrainrotSQL", "",
    "Usage: brainrot <QUERY> [OPTIONS]", "", "Try: brainrot --help"]

def explain (u : Setup) (text : String) : Ending :=
  let heading := Transcript.lines (Display.explainHeading u.mode.colored text)
  match u.vocabulary.read text with
  | .error e => fail u.directory heading e
  | .ok q => succeed u.directory (heading ++ .lines (Display.explanation u.mode.colored q))

/-- Shows the SQL of a statement; without an address that is all there is to do. -/
def showSql (u : Setup) (dryRun : Bool) (q : Query) : Transcript :=
  .lines ([Style.green.bold.paint u.mode.colored "Generated SQL:",
      Style.white.paint u.mode.colored q.toSql] ++
    (if u.url.isNone && !dryRun then
      ["", Style.yellow.paint u.mode.colored
        "⚠ No database URL. Use --database-url or set BRAINROT_DATABASE_URL"]
     else []))

/-- Runs a statement against the database of an address. -/
def execute (u : Setup) (before : Transcript) (url : String) (q : Query) : Ending :=
  match u.connect url with
  | .error e => fail u.directory before e
  | .ok (place, session) =>
    let (session', answer) := session.executeQuery q
    let d := u.close place session'
    match answer with
    | .error e => fail d before e
    | .ok o => succeed d (before ++ .lines (Display.outcome u.mode o))

def statement (u : Setup) (dryRun verbose : Bool) (text : String) : Ending :=
  let colored := u.mode.colored
  let heading := if verbose then
      Transcript.lines
        [Style.dimmed.paint colored "Input:" ++ " " ++ Style.yellow.paint colored text]
    else .empty
  match u.vocabulary.read text with
  | .error e => fail u.directory heading e
  | .ok q =>
    match u.url, dryRun with
    | some url, false =>
      let details := if verbose then
          Transcript.lines
            [Style.dimmed.paint colored "Connecting to:" ++ " " ++ url,
             Style.dimmed.paint colored "SQL:" ++ " " ++ q.toSql]
        else .empty
      execute u (heading ++ details) url q
    | _, _ => succeed u.directory (heading ++ showSql u dryRun q)

/-- The prompt loop, with or without a database. -/
def prompting (u : Setup) (before : Transcript) (place : Option Place) (s : Option Session) :
    Stage :=
  .prompting
    { setup := u
      before := before ++ Repl.greeting u.mode.colored s.isSome
      place := place
      state := ⟨u.vocabulary, s, .load u.directory⟩ }

/-- The end of a prompt loop: the history is kept and the database is put back. -/
def Prompting.finish (p : Prompting) (final : Repl.State) (written : Transcript) : Ending :=
  let d := match final.session with
    | some s => p.setup.close p.place s
    | none => p.setup.directory
  succeed (final.history.save d) written

def repl (u : Setup) : Stage :=
  match u.url with
  | none => prompting u .empty none none
  | some url =>
    match u.connect url with
    | .error e => .ended (fail u.directory .empty e)
    | .ok (place, s) => prompting u .empty place (some s)

def demo (u : Setup) (interactive : Bool) : Stage :=
  match u.connect (u.url.getD Demo.defaultUrl) with
  | .error e => .ended (fail u.directory .empty e)
  | .ok (place, s) =>
    match Demo.run u.mode s with
    | (s', t, .error e) => .ended (fail (u.close place s') t e)
    | (s', t, .ok ()) =>
      if interactive then prompting u t place (some s')
      else .ended (succeed (u.close place s') t)

def perform (u : Setup) (i : Invocation) : Stage :=
  match i.command with
  | some (.explain text) => .ended (explain u text)
  | some .keywords =>
    .ended (succeed u.directory (.lines (Display.keywords u.mode.colored u.vocabulary)))
  | some .repl => repl u
  | some (.demo interactive) => demo u interactive
  | none =>
    match i.query with
    | some text => .ended (statement u i.dryRun i.verbose text)
    | none => .ended (succeed u.directory (usage u.mode.colored))

/-- Loads the settings and does what the arguments ask for. -/
def invoke (d : Directory) (colored : Bool) (i : Invocation) : Stage :=
  match loadSettings d i.config with
  | .error e => .ended ⟨d, .empty, some ("failed to load configuration: " ++ causes e)⟩
  | .ok settings =>
    match settings.vocabulary with
    | .error e => .ended (fail d .empty e)
    | .ok v =>
      perform
        { directory := d
          vocabulary := v
          url := i.databaseUrl.or settings.database.url
          mode := ⟨i.format, colored⟩ } i

/-- Goes through all lines of the input, if they are asked for. -/
def Stage.complete (input : String) : Stage → Ending
  | .ended e => e
  | .prompting p =>
    let (final, t) := Repl.loop p.setup.mode p.state (Repl.inputLines input)
    p.finish final (p.before ++ t)

/-- The exit code with all that was written, an error last. -/
def Ending.report (colored : Bool) (e : Ending) : Report :=
  match e.failure with
  | none => ⟨0, e.transcript⟩
  | some text =>
    ⟨1, e.transcript ++ .complain (Style.red.bold.paint colored "Error:" ++ " " ++ text)⟩

/-- One run of the program. -/
def run (d : Directory) (c : Call) : Directory × Report :=
  match Arguments.read c.args c.environmentUrl with
  | .version => (d, ⟨0, .lines [version]⟩)
  | .usageError => (d, ⟨2, .empty⟩)
  | .run i =>
    let e := (invoke d c.colored i).complete c.input
    (e.directory, e.report c.colored)

/-- Several runs in one directory. -/
def runAll (d : Directory) : List Call → List Report
  | [] => []
  | c :: rest =>
    let (d', r) := run d c
    r :: runAll d' rest

end SlangSql.Terminal.Program
