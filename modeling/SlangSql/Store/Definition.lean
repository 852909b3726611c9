import SlangSql.Store.Change

/-!
# Definitions of tables

A table is defined by its name, its column definitions and its first rows. Making
the tables of a database stops at the first definition or row that is refused.
-/

set_option autoImplicit false

namespace SlangSql.Store

structure Definition where
  name : String
  columns : List String
  /-- The rows, as literals. -/
  rows : List (List String)
  deriving DecidableEq, Repr

/-- The fault of the first column that repeats a name or adds a second key. -/
def columnFault? (table : String) (before : List Column) : List Column → Option Failure
  | [] => none
  | c :: rest =>
    if before.any fun b => Text.sameName b.name c.name then some (.repeatedColumn c.name)
    else if c.primaryKey && before.any Column.primaryKey then some (.twoKeys table)
    else columnFault? table (before ++ [c]) rest

namespace Database

/-- Adds an empty table. -/
def define (db : Database) (name : String) (columns : List Column) : Except Failure Database :=
  if columns.isEmpty then .error .emptyList
  else if (db.find? name).isSome then .error (.tableExists name)
  else
    match columnFault? name [] columns with
    | some f => .error f
    | none => .ok (db.create (.create name columns []))

/-- Adds a row of literals to a table. -/
def addRow (table : String) (db : Database) (literals : List String) : Except Failure Database :=
  if literals.isEmpty then .error .emptyList
  else (db.insert { kind := .insert, table := some table, values := literals }).map (·.1)

def add (db : Database) (d : Definition) : Except Failure Database := do
  d.rows.foldlM (addRow d.name) (← db.define d.name (d.columns.map Column.ofDefinition))

/-- The database that definitions make. -/
def ofDefinitions (ds : List Definition) : Except Failure Database := ds.foldlM add empty

end Database

end SlangSql.Store
