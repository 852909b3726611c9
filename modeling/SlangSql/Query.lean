import SlangSql.Operation

/-!
# Queries

The parts of one statement. A query is created for a kind of statement and
filled part by part. Tokens are stored exactly as they were written.
-/

set_option autoImplicit false

namespace SlangSql

inductive StatementKind where
  | select
  | insert
  | update
  | delete
  | beginTransaction
  | commit
  | rollback
  deriving DecidableEq, Repr

namespace StatementKind

/-- The kind of statement that a keyword starts. -/
def ofOperation? : Operation → Option StatementKind
  | .select => some .select
  | .insert => some .insert
  | .update => some .update
  | .delete => some .delete
  | .beginTransaction => some .beginTransaction
  | .commit => some .commit
  | .rollback => some .rollback
  | _ => none

/-- The keyword that starts a statement of this kind. -/
def operation : StatementKind → Operation
  | .select => .select
  | .insert => .insert
  | .update => .update
  | .delete => .delete
  | .beginTransaction => .beginTransaction
  | .commit => .commit
  | .rollback => .rollback

theorem ofOperation?_operation (k : StatementKind) : ofOperation? k.operation = some k := by
  cases k <;> rfl

def isTransactionControl : StatementKind → Bool
  | .beginTransaction => true
  | .commit => true
  | .rollback => true
  | _ => false

def title : StatementKind → String
  | .beginTransaction => "BEGIN TRANSACTION"
  | k => k.operation.name

end StatementKind

/-- How a condition compares its field with its operand. -/
inductive Comparison where
  | equal
  | notEqual
  /-- The other spelling of inequality, kept apart so that it is written as it was read. -/
  | lessOrGreater
  | less
  | greater
  | atMost
  | atLeast
  | is
  | isNot
  deriving DecidableEq, Repr

namespace Comparison

def text : Comparison → String
  | .equal => "="
  | .notEqual => "!="
  | .lessOrGreater => "<>"
  | .less => "<"
  | .greater => ">"
  | .atMost => "<="
  | .atLeast => ">="
  | .is => "IS"
  | .isNot => "IS NOT"

/-- The comparisons that are written as a symbol. -/
def symbolic : List Comparison :=
  [.equal, .notEqual, .lessOrGreater, .less, .greater, .atMost, .atLeast]

def symbols : List String := symbolic.map text

def ofSymbol? (token : String) : Option Comparison :=
  symbolic.find? fun c => c.text == token

/-- The comparisons under which a word for NULL means NULL. -/
def isNullTest : Comparison → Bool
  | .is => true
  | .isNot => true
  | _ => false

end Comparison

inductive Connective where
  | and
  | or
  deriving DecidableEq, Repr

def Connective.text : Connective → String
  | .and => "AND"
  | .or => "OR"

/-- The right-hand side of a condition. -/
inductive Operand where
  | null
  | literal (token : String)
  deriving DecidableEq, Repr

def Operand.text : Operand → String
  | .null => "NULL"
  | .literal token => token

structure Condition where
  field : String
  comparison : Comparison
  operand : Operand
  deriving DecidableEq, Repr

structure Query where
  kind : StatementKind
  /-- Absent for transaction control only. -/
  table : Option String := none
  columns : List String := []
  values : List String := []
  joined : List String := []
  conditions : List Condition := []
  /-- The connective at position `i` stands between the conditions `i` and `i + 1`. -/
  connectives : List Connective := []
  deriving DecidableEq, Repr

namespace Query

def setTable (q : Query) (token : String) : Query := { q with table := some token }

def pushColumn (q : Query) (token : String) : Query := { q with columns := q.columns ++ [token] }

def pushValue (q : Query) (token : String) : Query := { q with values := q.values ++ [token] }

def pushJoined (q : Query) (token : String) : Query := { q with joined := q.joined ++ [token] }

def pushCondition (q : Query) (c : Condition) : Query :=
  { q with conditions := q.conditions ++ [c] }

def pushConnective (q : Query) (k : Connective) : Query :=
  { q with connectives := q.connectives ++ [k] }

/-- Columns paired with values, up to the shorter of the two. -/
def assignments (q : Query) : List (String × String) := q.columns.zip q.values

/-- Every listed column has its value. -/
def valuesFull (q : Query) : Bool :=
  !q.columns.isEmpty && decide (q.columns.length ≤ q.values.length)

/-- The first column that still waits for its value. -/
def pendingColumn? (q : Query) : Option String := q.columns[q.values.length]?

end Query

end SlangSql
