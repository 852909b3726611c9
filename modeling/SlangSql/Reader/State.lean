import SlangSql.Query

/-!
# States of the statement reader

A state says what may come next. The first six constructors are building blocks
that carry the state that follows them, so a whole path through a statement is
one nested value. The others are the points of the individual statements.
-/

set_option autoImplicit false

namespace SlangSql.Reader

/-- Where a stored token goes. -/
inductive Slot where
  | table
  | column
  | value
  | joined
  deriving DecidableEq, Repr

namespace Slot

def fill : Slot → Query → String → Query
  | .table, q, token => q.setTable token
  | .column, q, token => q.pushColumn token
  | .value, q, token => q.pushValue token
  | .joined, q, token => q.pushJoined token

def describe : Slot → String
  | .table => "table name"
  | .column => "column name"
  | .value => "value"
  | .joined => "table name to join"

end Slot

/-- How the end of the text is described. -/
def endOfQuery : String := "end of query"

/-- What ends a list. -/
inductive Stop where
  | keyword (op : Operation)
  | symbol (text : String)
  | endOfText
  deriving DecidableEq, Repr

def Stop.describe : Stop → String
  | .keyword op => op.name
  | .symbol text => "'" ++ text ++ "'"
  | .endOfText => endOfQuery

inductive State where
  /-- One symbol. -/
  | symbol (text : String) (next : State)
  /-- An alias of `op`. -/
  | keyword (op : Operation) (next : State)
  /-- After a keyword: one more alias of `op` is passed over. -/
  | keywordTail (op : Operation) (next : State)
  /-- Any token that is no punctuation, stored. -/
  | store (slot : Slot) (next : State)
  /-- A list item is due. -/
  | item (slot : Slot) (stop : Stop) (next : State)
  /-- After a list item: a comma, another item, or the end of the list. -/
  | afterItem (slot : Slot) (stop : Stop) (next : State)
  | selectList
  /-- After the table of a SELECT or a DELETE. -/
  | afterTable
  | insertColumns
  | insertValues
  | assignment
  | afterAssignment
  | field
  | comparison (field : String)
  /-- After IS: perhaps a NOT. -/
  | negation (field : String)
  | operand (field : String) (comparison : Comparison)
  | afterCondition
  | done
  deriving DecidableEq, Repr

namespace State

/-- FROM and a table, then the clauses that may follow. -/
def fromTable : State := .keyword .from (.store .table .afterTable)

/-- The conditions, once the keyword of the clause has been read. -/
def conditions : State := .keywordTail .where .field

/-- VALUES and the value list of an INSERT. -/
def valuesClause : State := .keyword .values .insertValues

/-- A column and its new value in an UPDATE. -/
def assignColumn : State := .store .column .assignment

def assignValue : State := .store .value .afterAssignment

/-- What follows the keyword that starts a statement. -/
def entry : StatementKind → State
  | .select => .selectList
  | .insert => .store .table .insertColumns
  | .update => .store .table (.keyword .set assignColumn)
  | .delete => fromTable
  | .beginTransaction => .done
  | .commit => .done
  | .rollback => .done

/-- How often a token can be handed on from this state at most. -/
def rank : State → Nat
  | .keywordTail _ next => next.rank + 1
  | .afterItem _ _ next => next.rank + 1
  | .selectList => 1
  | .insertColumns => 1
  | .insertValues => 1
  | .negation _ => 1
  | _ => 0

end State

end SlangSql.Reader
