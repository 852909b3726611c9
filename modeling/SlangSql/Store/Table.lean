import SlangSql.Store.Failure
import SlangSql.Store.Value

/-!
# Tables

A table has declared columns and rows in ascending order of their row keys. An
`INTEGER PRIMARY KEY` column is the row key itself; other tables count their rows.
A column may refuse NULL and may refer to a column of another table.
-/

set_option autoImplicit false

namespace SlangSql.Store

structure Column where
  name : String
  /-- The type as declared, empty if there is none. -/
  declared : String
  notNull : Bool
  primaryKey : Bool
  deriving DecidableEq, Repr

namespace Column

def affinity (c : Column) : Affinity := Affinity.ofType c.declared

/-- The column holds the row key. -/
def isRowKey (c : Column) : Bool := c.primaryKey && Text.sameName c.declared "integer"

/-- The kinds of declared types whose values cannot be shown. -/
def hiddenKind? (c : Column) : Option String :=
  match Text.lowerAscii c.declared with
  | "boolean" => some "Bool"
  | "bool" => some "Bool"
  | "date" => some "Date"
  | "time" => some "Time"
  | "datetime" => some "Datetime"
  | "timestamp" => some "Datetime"
  | _ => none

/-- The words that end a declared type. -/
def constraintWords : List String :=
  ["primary", "not", "null", "unique", "default", "check", "collate", "references", "constraint",
   "generated", "as"]

def isConstraintWord (w : String) : Bool := constraintWords.contains (Text.lowerAscii w)

/-- Two words stand next to each other. -/
def hasPair (a b : String) : List String → Bool
  | x :: y :: rest => (Text.sameName a x && Text.sameName b y) || hasPair a b (y :: rest)
  | _ => false

/-- The words of a text, cut at blanks. -/
def words (s : String) : List String :=
  ((s.toList.splitBy fun a b => Text.isAsciiBlank a == Text.isAsciiBlank b).filter
    fun w => !w.all Text.isAsciiBlank).map String.ofList

/-- Reads a column definition: a name, a type, and constraints. -/
def ofDefinition (definition : String) : Column :=
  let ws := words definition
  let rest := ws.tail
  { name := ws.headD ""
    declared := " ".intercalate (rest.takeWhile fun w => !isConstraintWord w)
    notNull := hasPair "not" "null" rest
    primaryKey := hasPair "primary" "key" rest }

end Column

structure Row where
  key : Int
  values : List Value
  deriving DecidableEq, Repr

/-- The values of `column` occur in `parentColumn` of the table `parent`. -/
structure Reference where
  column : String
  parent : String
  parentColumn : String
  deriving DecidableEq, Repr

structure Table where
  name : String
  columns : List Column
  references : List Reference
  rows : List Row
  deriving DecidableEq, Repr

namespace Table

def create (name : String) (columns : List Column) (references : List Reference) : Table :=
  ⟨name, columns, references, []⟩

/-- The position of a column. -/
def columnIndex? (t : Table) (name : String) : Option Nat :=
  t.columns.findIdx? fun c => Text.sameName c.name name

def rowKeyIndex? (t : Table) : Option Nat := t.columns.findIdx? Column.isRowKey

/-- The column that stands for the row key where no declared column does. -/
def rowKeyColumn : Column := ⟨"rowid", "INTEGER", false, true⟩

/-- The words that mean the row key unless a column has that name. -/
def rowKeyWords : List String := ["rowid", "oid", "_rowid_"]

def isRowKeyWord (name : String) : Bool := rowKeyWords.contains (Text.lowerAscii name)

/-- The position of a column or, at the end, of the row key. -/
def fieldIndex? (t : Table) (name : String) : Option Nat :=
  (t.columnIndex? name).or
    (if isRowKeyWord name then some (t.rowKeyIndex?.getD t.columns.length) else none)

/-- The values of a row, with its key at the end unless a column holds it. -/
def record (t : Table) (r : Row) : List Value :=
  r.values ++ if t.rowKeyIndex?.isNone then [.integer r.key] else []

def hasKey (t : Table) (key : Int) : Bool := t.rows.any fun r => r.key == key

/-- A key in the lower half of the integers that no row has, taken from the middle on. -/
def spareKey (t : Table) : Int :=
  let candidates := (List.range (t.rows.length + 1)).map fun n : Nat => maxInteger / 4 + n
  (candidates.find? fun key => !t.hasKey key).getD 1

/-- The largest row key plus one, or a spare key if there is no larger one. -/
def nextKey (t : Table) : Int :=
  match t.rows.getLast? with
  | some r => if r.key < maxInteger then r.key + 1 else t.spareKey
  | none => 1

/-- Puts a row at the place of its key. -/
def insertRow (row : Row) : List Row → List Row
  | [] => [row]
  | r :: rest => if row.key < r.key then row :: r :: rest else r :: insertRow row rest

def eraseKey (key : Int) (rows : List Row) : List Row := rows.filter fun r => r.key != key

/-- The column that refuses the NULL in a row. -/
def refusedNull? (t : Table) (values : List Value) : Option Column :=
  ((t.columns.zip values).find? fun p => p.1.notNull && !p.1.isRowKey && p.2.isNull).map (·.1)

/-- A primary key column other than the row key whose value another row already has. -/
def repeatedKey? (t : Table) (values : List Value) (others : List Row) : Option Column :=
  ((t.columns.zip values).zipIdx.find? fun p =>
    p.1.1.primaryKey && !p.1.1.isRowKey && !p.1.2.isNull &&
      others.any fun r => p.1.2.order (r.values.getD p.2 .null) == .eq).map (·.1.1)

/-- The values of a row as they are stored. -/
def storedValues (t : Table) (values : List Value) : List Value :=
  (t.columns.zip values).map fun p => p.2.stored p.1.affinity

/-- The key of a new record: a missing one is the next key, unless a row is replaced. -/
def chosenKey (t : Table) (old : Option Int) (given : Value) : Except Failure Int :=
  match given.stored .integer, old with
  | .integer n, _ => .ok n
  | .null, none => .ok t.nextKey
  | _, _ => .error .keyMismatch

/-- Adds a record, replacing the row with the key `old` if given. -/
def put (t : Table) (old : Option Int) (record : List Value) : Except Failure Table :=
  let position := t.rowKeyIndex?.getD t.columns.length
  match t.chosenKey old (record.getD position .null) with
  | .error f => .error f
  | .ok key =>
    let values := t.storedValues (record.set position (.integer key))
    let others := match old with
      | some k => eraseKey k t.rows
      | none => t.rows
    match t.refusedNull? values with
    | some c => .error (.notNull t.name c.name)
    | none =>
      if others.any fun r => r.key == key then
        match t.columns.find? Column.isRowKey with
        | some c => .error (.uniqueKey t.name c.name)
        | none => .error (.uniqueRow t.name)
      else
        match t.repeatedKey? values others with
        | some c => .error (.uniqueKey t.name c.name)
        | none => .ok { t with rows := insertRow ⟨key, values⟩ others }

end Table

structure Database where
  tables : List Table
  deriving DecidableEq, Repr

namespace Database

def empty : Database := ⟨[]⟩

def find? (db : Database) (name : String) : Option Table :=
  db.tables.find? fun t => Text.sameName t.name name

/-- The table of a name, or the failure that there is none. -/
def table (db : Database) (name : String) : Except Failure Table :=
  match db.find? name with
  | some t => .ok t
  | none => .error (.noSuchTable name)

/-- Puts a table in the place of the one with its name. -/
def replace (db : Database) (t : Table) : Database :=
  ⟨db.tables.map fun u => if Text.sameName u.name t.name then t else u⟩

/-- Adds a table unless there is one with its name. -/
def create (db : Database) (t : Table) : Database :=
  if (db.find? t.name).isSome then db else ⟨db.tables ++ [t]⟩

/-- The values of a column, in row order. -/
def columnValues (db : Database) (table column : String) : List Value :=
  match db.find? table with
  | none => []
  | some t =>
    match t.columnIndex? column with
    | none => []
    | some i => t.rows.map fun r => r.values.getD i .null

/-- Every value that refers to another table occurs there. -/
def referencesHold (db : Database) : Bool :=
  db.tables.all fun t => t.references.all fun ref =>
    (db.columnValues t.name ref.column).all fun v =>
      v.isNull || (db.columnValues ref.parent ref.parentColumn).any fun w => v.order w == .eq

end Database

end SlangSql.Store
