import SlangSql.Terminal.Display
import SlangSql.Terminal.History
import SlangSql.Text.Cluster

/-!
# The prompt loop

Lines are read one after the other. A backspace in a line takes back the character
before it. A line is a command of the loop or a statement, which is shown as SQL and,
if there is a database, run. A statement that fails does not end the loop. Every line
that is not blank goes into the history.
-/

set_option autoImplicit false

namespace SlangSql.Terminal.Repl

structure State where
  vocabulary : Vocabulary
  /-- Absent if statements are only shown. -/
  session : Option Session
  history : History := .empty
  deriving DecidableEq, Repr

def greeting (colored connected : Bool) : Transcript :=
  .lines
    [Style.cyan.bold.paint colored "🧠 BrainrotSQL REPL — Interactive Mode",
     Style.dimmed.paint colored
       (if connected then "Connected: queries are executed."
        else "No database: queries are compiled only."),
     "  " ++ Style.yellow.paint colored ".exit" ++ "  - Exit the REPL",
     "  " ++ Style.yellow.paint colored ".help" ++ "  - Show help", ""]

def help (colored : Bool) : Transcript :=
  .lines
    [Style.cyan.bold.paint colored "BrainrotSQL REPL Commands:",
     "  " ++ Style.yellow.paint colored ".exit" ++ "      - Exit the REPL",
     "  " ++ Style.yellow.paint colored ".help" ++ "      - Show this help",
     "  " ++ Style.yellow.paint colored ".keywords" ++ "  - Show the alias table",
     "  " ++ Style.yellow.paint colored ".clear" ++ "     - Clear screen", "",
     Style.cyan.bold.paint colored "Query Examples:",
     "  tralalero tralala id name lirili larila users patapim age > 30",
     "  bombardiro crocodilo users id name trulimero 7 'Tung Tung'",
     "  cappuccino assassino users cocofanto status burbaloni 'premium' patapim id = 7",
     "  bombombini gusini lirili larila users patapim email bobrito girafa",
     "  tung tung  /  ballerina  /  chimpanzini  (BEGIN / COMMIT / ROLLBACK)", ""]

def prompt (colored : Bool) (s : State) : Transcript :=
  .write
    (if s.session.any Session.inTransaction then Style.yellow.bold.paint colored "brainrot*> "
     else Style.cyan.bold.paint colored "brainrot> ")

def farewell (colored : Bool) : Transcript := .lines [Style.green.paint colored "Goodbye! 👋"]

def clearScreen : Transcript := .write "\x1b[2J\x1b[1;1H"

/-- Runs a statement that has been read. -/
def runQuery (m : Display.Mode) (s : State) (q : Query) : State × Transcript :=
  let shown := Transcript.lines
    [Style.green.paint m.colored "→" ++ " " ++ Style.white.bold.paint m.colored q.toSql]
  match s.session with
  | none => (s, shown ++ .lines [""])
  | some session =>
    let (session', answer) := session.executeQuery q
    ({ s with session := some session' }, shown ++ Display.result m answer ++ .lines [""])

def runStatement (m : Display.Mode) (s : State) (text : String) : State × Transcript :=
  match s.vocabulary.read text with
  | .ok q => runQuery m s q
  | .error e => (s, Display.complaint m.colored e)

inductive Request where
  | nothing
  | leave
  | help
  | keywords
  | clear
  | statement (text : String)
  deriving DecidableEq, Repr

def backspace : Char := '\x08'

/-- Clusters that are left when each backspace has taken back the one before it; `kept` holds
those in front, the nearest first. -/
def keepClusters (kept : List (List Char)) : List (List Char) → List (List Char)
  | [] => kept.reverse
  | cluster :: rest =>
    if cluster = [backspace] then keepClusters kept.tail rest
    else keepClusters (cluster :: kept) rest

/-- A line as it was meant, with backspaces carried out and without blanks around it. -/
def typed (line : String) : String :=
  if line.toList.contains backspace then
    Text.trim (String.ofList (keepClusters [] (Text.clusters line.toList)).flatten)
  else Text.trim line

/-- What a line asks for. -/
def Request.ofText (text : String) : Request :=
  if text = "" then .nothing
  else if text = ".exit" ∨ text = ".quit" ∨ text = "exit" ∨ text = "quit" then .leave
  else if text = ".help" ∨ text = "help" then .help
  else if text = ".keywords" then .keywords
  else if text = ".clear" ∨ text = "clear" then .clear
  else .statement text

/-- What a line leads to: the state after it and what is shown. -/
inductive Step where
  | stay (s : State) (shown : Transcript)
  | leave (s : State) (shown : Transcript)
  deriving DecidableEq, Repr

def step (m : Display.Mode) (s : State) (line : String) : Step :=
  let text := typed line
  let s := { s with history := s.history.add text }
  match Request.ofText text with
  | .nothing => .stay s .empty
  | .leave => .leave s (farewell m.colored)
  | .help => .stay s (help m.colored)
  | .keywords => .stay s (.lines (Display.shortKeywords m.colored s.vocabulary))
  | .clear => .stay s clearScreen
  | .statement text =>
    let (s', shown) := runStatement m s text
    .stay s' shown

/-- Reads lines until one of them leaves the loop or there are no more. -/
def loop (m : Display.Mode) (s : State) : List String → State × Transcript
  | [] => (s, prompt m.colored s ++ farewell m.colored)
  | line :: rest =>
    match step m s line with
    | .leave s' shown => (s', prompt m.colored s ++ shown)
    | .stay s' shown =>
      let r := loop m s' rest
      (r.1, prompt m.colored s ++ shown ++ r.2)

/-- A line without the line feed or carriage return and line feed that ends it. -/
def withoutEnd (line : String) : String :=
  match line.toList.reverse with
  | '\n' :: '\r' :: rest => String.ofList rest.reverse
  | '\n' :: rest => String.ofList rest.reverse
  | _ => line

/-- The lines of an input with their ends; a last line need not be ended. -/
def inputLines (input : String) : List String :=
  match (input.splitOn "\n").reverse with
  | [] => []
  | last :: before =>
    before.reverse.map (fun l => withoutEnd (l ++ "\n")) ++ (if last = "" then [] else [last])

end SlangSql.Terminal.Repl
