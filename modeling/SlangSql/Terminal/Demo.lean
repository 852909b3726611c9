import SlangSql.Terminal.Display

/-!
# The demonstration

Two sample tables, filled if there are no users yet, and a tour of statements
that are shown with their SQL and their answers.
-/

set_option autoImplicit false

namespace SlangSql.Terminal.Demo

open SlangSql.Store

/-- The address used when none is given. -/
def defaultUrl : String := "sqlite::memory:"

def users : Table :=
  .create "users"
    (["id INTEGER PRIMARY KEY", "name TEXT NOT NULL", "email TEXT", "age INTEGER",
      "status TEXT"].map Column.ofDefinition) []

def orders : Table :=
  .create "orders"
    (["id INTEGER PRIMARY KEY", "user_id INTEGER", "order_date TEXT",
      "total_amount REAL"].map Column.ofDefinition)
    [⟨"user_id", "users", "id"⟩]

def userColumns : List String := ["id", "name", "email", "age", "status"]

def userRows : List (List String) :=
  [["1", "'Tralalero Tralala'", "'tralala@example.com'", "25", "'active'"],
   ["2", "'Bombardiro Crocodilo'", "'bombard@example.com'", "32", "'inactive'"],
   ["3", "'Cappuccino Assassino'", "'cappuccino@example.com'", "18", "'active'"],
   ["4", "'Bombombini Gusini'", "'bomber@example.com'", "45", "'active'"],
   ["5", "'Boneca Ambalabu'", "'boneca@example.com'", "NULL", "'pending'"]]

def orderColumns : List String := ["id", "user_id", "order_date", "total_amount"]

def orderRows : List (List String) :=
  [["1", "1", "'2025-01-15'", "129.99"],
   ["2", "1", "'2025-02-20'", "55.50"],
   ["3", "2", "'2025-01-10'", "75.25"],
   ["4", "3", "'2025-03-05'", "210.75"],
   ["5", "5", "'2025-02-28'", "85.00"]]

/-- Titles and statements of the tour. -/
def tour : List (String × String) :=
  [("All users", "tralalero tralala frulli lirili larila users"),
   ("Selected columns", "tralalero tralala id name email lirili larila users"),
   ("Filtered", "tralalero tralala id name lirili larila users patapim status = 'active'"),
   ("Two conditions",
    "tralalero tralala id name age lirili larila users patapim status = 'active' camelo age > 20"),
   ("NULL check",
    "tralalero tralala id name email lirili larila users patapim email bobrito girafa"),
   ("Join",
    "tralalero tralala users.name orders.order_date orders.total_amount lirili larila users boneca ambalabu orders patapim users.id = orders.user_id"),
   ("Insert",
    "bombardiro crocodilo users id name email age status trulimero 6 'Frullì Frullà' 'frulli@example.com' 29 'active'"),
   ("Update",
    "cappuccino assassino users cocofanto status burbaloni 'premium' patapim id = 6"),
   ("Delete", "bombombini gusini lirili larila users patapim id = 6")]

/-- Adds rows to a table, all or nothing. -/
def addRows (table : String) (columns : List String) (rows : List (List String))
    (db : Database) : Except Failure Database :=
  rows.foldlM (fun db row =>
    (db.insert { kind := .insert, table := some table, columns := columns, values := row }).map
      (·.1)) db

/-- Changes the database of a session outside of any statement. -/
def alter (s : Session) (r : Except Failure Database) : Session × Except Error Unit :=
  match s.access.writing r with
  | .ok db => ({ s with database := db }, .ok ())
  | .error f => (s, .error (Session.executionError f))

/-- Makes a table unless there is one with its name. -/
def makeTable (t : Table) (s : Session) : Session × Except Error Unit :=
  if (s.database.find? t.name).isSome then (s, .ok ()) else alter s (.ok (s.database.create t))

/-- One piece of work after another, as long as none fails. -/
def inTurn (s : Session) :
    List (Session → Session × Except Error Unit) → Session × Except Error Unit
  | [] => (s, .ok ())
  | work :: rest =>
    match work s with
    | (s', .ok ()) => inTurn s' rest
    | (s', .error e) => (s', .error e)

/-- Fills the sample tables. -/
def fill (s : Session) : Session × Except Error Unit :=
  inTurn s
    [fun s => alter s (addRows "users" userColumns userRows s.database),
     fun s => alter s (addRows "orders" orderColumns orderRows s.database)]

/-- Fills the sample tables if there are no users. -/
def fillIfEmpty (s : Session) : Session × Except Error Unit :=
  match s.execute "tralalero frulli lirili users" with
  | (s', .error e) => (s', .error e)
  | (s', .ok (.rows r)) => if r.isEmpty then fill s' else (s', .ok ())
  | (s', .ok _) => fill s'

/-- Makes and fills the sample tables. -/
def seed (s : Session) : Session × Except Error Unit :=
  inTurn s [makeTable users, makeTable orders, fillIfEmpty]

/-- Shows one statement with its SQL and its answer. -/
def present (m : Display.Mode) (title text : String) (s : Session) :
    Session × Transcript × Except Error Unit :=
  let heading := Transcript.lines
    ["", Style.cyan.paint m.colored "▶" ++ " " ++ Style.white.bold.paint m.colored title,
     "  " ++ Style.dimmed.paint m.colored "Brainrot:" ++ " " ++
       Style.yellow.paint m.colored text]
  match s.vocabulary.compile text with
  | .error e => (s, heading, .error e)
  | .ok sql =>
    let shown := Transcript.lines
      ["  " ++ Style.dimmed.paint m.colored "SQL:     " ++ " " ++ Style.green.paint m.colored sql]
    let (s', answer) := s.execute text
    (s', heading ++ shown ++ Display.result m answer, .ok ())

def showAll (m : Display.Mode) (s : Session) :
    List (String × String) → Session × Transcript × Except Error Unit
  | [] => (s, .empty, .ok ())
  | (title, text) :: rest =>
    match present m title text s with
    | (s', shown, .error e) => (s', shown, .error e)
    | (s', shown, .ok ()) =>
      let (s'', more, r) := showAll m s' rest
      (s'', shown ++ more, r)

/-- The whole demonstration. -/
def run (m : Display.Mode) (s : Session) : Session × Transcript × Except Error Unit :=
  let start := Transcript.lines [Style.dimmed.paint m.colored "Initializing database..."]
  match seed s with
  | (s', .error e) => (s', start, .error e)
  | (s', .ok ()) =>
    let heading := Transcript.lines
      ["", Style.cyan.bold.paint m.colored "🧠 Running demo queries",
       Style.dimmed.paint m.colored (String.ofList (List.replicate 60 '═'))]
    let (s'', shown, r) := showAll m s' tour
    (s'', start ++ heading ++ shown, r)

end SlangSql.Terminal.Demo
