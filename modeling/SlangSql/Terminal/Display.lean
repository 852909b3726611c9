import SlangSql.Session
import SlangSql.Terminal.Arguments
import SlangSql.Terminal.Grid

/-!
# Answers as lines of text

The lines that are printed for the outcome of a statement, for the parts of a
query, and for the words of a vocabulary.
-/

set_option autoImplicit false

namespace SlangSql.Terminal.Display

/-- Output in one format, with or without colours. -/
structure Mode where
  format : Format
  colored : Bool
  deriving DecidableEq, Repr

def rowSet (m : Mode) (r : RowSet) : List String :=
  if r.isEmpty then [Style.dimmed.paint m.colored "(no results)"]
  else
    match m.format with
    | .json => [r.toJson.pretty]
    | .table => Grid.lines r m.colored ++
        ["", Style.cyan.paint m.colored (toString r.size) ++ " row(s) returned"]

def outcome (m : Mode) : Outcome → List String
  | .rows r => rowSet m r
  | .affected n => [Style.green.paint m.colored "✓" ++ " " ++ toString n ++ " rows affected"]
  | .transaction e => [Style.green.paint m.colored "✓" ++ " " ++ e.text]

/-- A failure that does not end the program. -/
def complaint (colored : Bool) (e : Error) : Transcript :=
  .complain (Style.red.paint colored "✗" ++ " " ++ Style.red.paint colored e.message)

/-- The outcome of a statement, or the complaint about it. -/
def result (m : Mode) : Except Error Outcome → Transcript
  | .ok o => .lines (outcome m o)
  | .error e => complaint m.colored e

def explainHeading (colored : Bool) (text : String) : List String :=
  [Style.cyan.bold.paint colored "🧠 BrainrotSQL Query Explanation", "",
   Style.dimmed.paint colored "Query:" ++ " " ++ Style.yellow.paint colored text, ""]

/-- A titled list, left out if it is empty. -/
def listed (colored : Bool) (title bullet : String) (style : Style) (items : List String) :
    List String :=
  if items.isEmpty then []
  else ("  " ++ Style.dimmed.paint colored title) ::
    items.map fun item => "    " ++ bullet ++ " " ++ style.paint colored item

def conditionLine (colored : Bool) (joiner : String) (c : Condition) : String :=
  "    " ++ Style.cyan.paint colored (pad joiner 3) ++ " " ++
    Style.white.paint colored c.field ++ " " ++
    Style.cyan.paint colored c.comparison.text ++ " " ++
    Style.yellow.paint colored c.operand.text

/-- The conditions, each after the connective in front of it. -/
def conditionLines (colored : Bool) (q : Query) : List String :=
  if q.conditions.isEmpty then []
  else ("  " ++ Style.dimmed.paint colored "Where:") ::
    q.conditions.zipIdx.map fun p =>
      let joiner := match p.2 with
        | 0 => ""
        | i + 1 => (q.connectives[i]?.map Connective.text).getD ""
      conditionLine colored joiner p.1

/-- The parts of a query. -/
def explanation (colored : Bool) (q : Query) : List String :=
  [Style.green.bold.paint colored "Parsed Structure:",
   "  " ++ Style.dimmed.paint colored "Kind:" ++ " " ++ Style.cyan.paint colored q.kind.title] ++
  (match q.table with
   | some t =>
     ["  " ++ Style.dimmed.paint colored "Table:" ++ " " ++ Style.white.paint colored t]
   | none => []) ++
  listed colored "Columns:" "•" .white q.columns ++
  listed colored "Values:" "•" .yellow q.values ++
  listed colored "Joins:" "⋈" .white q.joined ++
  conditionLines colored q ++
  ["", Style.green.bold.paint colored "Generated SQL:",
   "  " ++ Style.white.paint colored q.toSql]

/-- The width of the column of operation names. -/
def nameWidth : Nat := 20

/-- The words of a vocabulary, as a reference. -/
def keywords (colored : Bool) (v : Vocabulary) : List String :=
  [Style.cyan.bold.paint colored "🧠 BrainrotSQL Keyword Reference", "",
   Style.white.bold.paint colored (pad "Operation" nameWidth) ++ " " ++
     Style.white.bold.paint colored "Aliases",
   Style.dimmed.paint colored (String.ofList (List.replicate 80 '─'))] ++
  v.table.map fun row =>
    Style.cyan.bold.paint colored (pad row.1.name nameWidth) ++ " " ++
      Style.yellow.paint colored (", ".intercalate row.2)

/-- The words of a vocabulary, as shown at the prompt. -/
def shortKeywords (colored : Bool) (v : Vocabulary) : List String :=
  v.table.map fun row =>
    "  " ++ Style.cyan.paint colored (pad row.1.name nameWidth) ++ " " ++ ", ".intercalate row.2

end SlangSql.Terminal.Display
