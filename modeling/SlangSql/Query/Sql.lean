import SlangSql.Query

/-!
# Queries as SQL text

Stored tokens are written exactly as they were read, and the clauses stand in
their usual order. Nothing is quoted or escaped.
-/

set_option autoImplicit false

namespace SlangSql

def Condition.toSql (c : Condition) : String :=
  c.field ++ " " ++ c.comparison.text ++ " " ++ c.operand.text

namespace Query

def commaList (tokens : List String) : String := ", ".intercalate tokens

def tableText (q : Query) : String := q.table.getD ""

/-- The clause of conditions, empty if there is none. -/
def whereClause (q : Query) : String :=
  match q.conditions with
  | [] => ""
  | c :: rest =>
    " WHERE " ++ c.toSql ++
      String.join ((q.connectives.zip rest).map fun p => " " ++ p.1.text ++ " " ++ p.2.toSql)

def selectSql (q : Query) : String :=
  "SELECT " ++ (if q.columns.isEmpty then "*" else commaList q.columns) ++
    " FROM " ++ q.tableText ++
    String.join (q.joined.map fun t => " INNER JOIN " ++ t) ++ q.whereClause

def insertSql (q : Query) : String :=
  "INSERT INTO " ++ q.tableText ++
    (if q.columns.isEmpty then "" else " (" ++ commaList q.columns ++ ")") ++
    " VALUES (" ++ commaList q.values ++ ")"

def updateSql (q : Query) : String :=
  "UPDATE " ++ q.tableText ++ " SET " ++
    commaList (q.assignments.map fun a => a.1 ++ " = " ++ a.2) ++ q.whereClause

def deleteSql (q : Query) : String := "DELETE FROM " ++ q.tableText ++ q.whereClause

def toSql (q : Query) : String :=
  match q.kind with
  | .select => q.selectSql
  | .insert => q.insertSql
  | .update => q.updateSql
  | .delete => q.deleteSql
  | .beginTransaction => "START TRANSACTION"
  | .commit => "COMMIT"
  | .rollback => "ROLLBACK"

end Query

end SlangSql
