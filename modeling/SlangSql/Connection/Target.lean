import SlangSql.Connection.Failure

/-!
# Targets

A target says which database is meant and how it is to be opened.
-/

set_option autoImplicit false

namespace SlangSql.Connection

structure Target where
  /-- The name of the file; an empty name is a database without a file. -/
  path : String
  inMemory : Bool := false
  create : Bool := false
  readOnly : Bool := false
  /-- The file never changes, so that nothing can be written to it. -/
  immutable : Bool := false
  /-- The way of reaching files, if one is named. -/
  fileLayer : Option String := none
  deriving DecidableEq, Repr

namespace Target

/-- The name of a database in memory. -/
def memoryName : String := ":memory:"

/-- No file is needed. -/
def isFileless (t : Target) : Bool :=
  t.inMemory || t.path = "" || t.path = memoryName || t.fileLayer = some "memdb"

/-- Nothing can be written. A database that was asked for in memory does not mind that files
never change. -/
def isFixed (t : Target) : Bool :=
  t.readOnly || (t.immutable && !(t.inMemory || t.path = "" || t.path = memoryName))

end Target

end SlangSql.Connection
