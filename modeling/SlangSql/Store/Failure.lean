/-!
# Failures of the store

The ways in which a statement can be refused by the tables, with their result
codes and wording.
-/

set_option autoImplicit false

namespace SlangSql.Store

inductive Failure where
  | noSuchTable (name : String)
  | tableExists (name : String)
  | repeatedColumn (name : String)
  /-- A table with two primary keys. -/
  | twoKeys (table : String)
  /-- A list between brackets that holds nothing. -/
  | emptyList
  | noSuchColumn (name : String)
  | ambiguousColumn (name : String)
  /-- A column of an INSERT that the table does not have. -/
  | noColumnNamed (table column : String)
  | wrongValueCount (table : String) (columns values : Nat)
  | uniqueKey (table column : String)
  /-- A row key given twice in a table that has no column for it. -/
  | uniqueRow (table : String)
  | notNull (table column : String)
  | foreignKey
  /-- A row key that is no integer. -/
  | keyMismatch
  | readOnly
  | notDatabase
  /-- A file that is needed for a change cannot be made. -/
  | cannotOpen
  /-- A device on which nothing can be kept. -/
  | deviceFailure
  /-- A selected column whose declared type cannot be shown. -/
  | hiddenType (column kind : String)
  deriving DecidableEq, Repr

namespace Failure

def code : Failure → Nat
  | .uniqueKey _ _ => 1555
  | .uniqueRow _ => 2579
  | .notNull _ _ => 1299
  | .foreignKey => 787
  | .keyMismatch => 20
  | .readOnly => 8
  | .notDatabase => 26
  | .cannotOpen => 14
  | .deviceFailure => 1034
  | _ => 1

/-- Shows itself only when rows are written, not when the statement is read. -/
def arisesFromRows : Failure → Bool
  | .uniqueKey _ _ | .uniqueRow _ | .notNull _ _ | .foreignKey | .keyMismatch => true
  | _ => false

def text : Failure → String
  | .noSuchTable t => "no such table: " ++ t
  | .tableExists t => "table " ++ t ++ " already exists"
  | .repeatedColumn c => "duplicate column name: " ++ c
  | .twoKeys t => "table \"" ++ t ++ "\" has more than one primary key"
  | .emptyList => "near \")\": syntax error"
  | .noSuchColumn c => "no such column: " ++ c
  | .ambiguousColumn c => "ambiguous column name: " ++ c
  | .noColumnNamed t c => "table " ++ t ++ " has no column named " ++ c
  | .wrongValueCount t columns values =>
    "table " ++ t ++ " has " ++ toString columns ++ " columns but " ++ toString values ++
      " values were supplied"
  | .uniqueKey t c => "UNIQUE constraint failed: " ++ t ++ "." ++ c
  | .uniqueRow t => "UNIQUE constraint failed: " ++ t ++ ".rowid"
  | .notNull t c => "NOT NULL constraint failed: " ++ t ++ "." ++ c
  | .foreignKey => "FOREIGN KEY constraint failed"
  | .keyMismatch => "datatype mismatch"
  | .readOnly => "attempt to write a readonly database"
  | .notDatabase => "file is not a database"
  | .cannotOpen => "unable to open database file"
  | .deviceFailure => "disk I/O error"
  | .hiddenType _ kind => "Any driver does not support the SQLite type SqliteTypeInfo(" ++ kind ++ ")"

/-- The wording with its heading. -/
def message : Failure → String
  | .hiddenType column kind =>
    "error occurred while decoding column " ++ column ++ ": error in Any driver mapping: " ++
      (hiddenType column kind).text
  | f => "error returned from database: (code: " ++ toString f.code ++ ") " ++ f.text

end Failure

end SlangSql.Store
