import SlangSql.Text.Blank

/-!
# Operations

The nineteen operations a word of the dialect can stand for, in the order in
which they are listed to a reader. Every operation has a canonical name. A name
is recognised without regard to ASCII case, with blanks around it dropped and
with a space or a hyphen read as an underscore.
-/

set_option autoImplicit false

namespace SlangSql

inductive Operation where
  | select
  | update
  | insert
  | delete
  | «from»
  | «where»
  | join
  | and
  | or
  | not
  | is
  | null
  | beginTransaction
  | commit
  | rollback
  | values
  | set
  | setEqual
  | all
  deriving DecidableEq, Repr

namespace Operation

/-- Every operation, in listing order. -/
def list : List Operation :=
  [.select, .update, .insert, .delete, .from, .where, .join, .and, .or, .not, .is, .null,
   .beginTransaction, .commit, .rollback, .values, .set, .setEqual, .all]

theorem mem_list (op : Operation) : op ∈ list := by
  cases op <;> decide

def name : Operation → String
  | .select => "SELECT"
  | .update => "UPDATE"
  | .insert => "INSERT"
  | .delete => "DELETE"
  | .from => "FROM"
  | .where => "WHERE"
  | .join => "JOIN"
  | .and => "AND"
  | .or => "OR"
  | .not => "NOT"
  | .is => "IS"
  | .null => "NULL"
  | .beginTransaction => "BEGIN_TRANSACTION"
  | .commit => "COMMIT"
  | .rollback => "ROLLBACK"
  | .values => "VALUES"
  | .set => "SET"
  | .setEqual => "SET_EQUAL"
  | .all => "ALL"

/-- The operation whose canonical name is exactly `s`. -/
def ofName? (s : String) : Option Operation :=
  list.find? fun op => op.name == s

/-- A name as people write it: trimmed, joined by underscores, in capitals. -/
def canonicalSpelling (s : String) : String :=
  String.ofList ((Text.trimChars s.toList).map fun c =>
    if c = ' ' ∨ c = '-' then '_' else c.toUpper)

/-- The operation that `s` names, however it is spelled. -/
def ofSpelling? (s : String) : Option Operation :=
  ofName? (canonicalSpelling s)

end Operation

end SlangSql
