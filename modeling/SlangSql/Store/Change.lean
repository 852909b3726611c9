import SlangSql.Store.Filter

/-!
# Changing rows

INSERT, UPDATE and DELETE. Names are looked up first, then the rows are changed
one by one, and at the end every reference between tables must hold. A statement
that fails changes nothing. The result is the number of rows it was about.
-/

set_option autoImplicit false

namespace SlangSql.Store

/-- Accepts a changed database if its references hold. -/
def settled (db : Database) (count : Nat) : Except Failure (Database × Nat) :=
  if db.referencesHold then .ok (db, count) else .error .foreignKey

/-- The values of an INSERT; no column can be named among them. -/
def insertValues (tokens : List String) : Except Failure (List Value) :=
  tokens.mapM fun token =>
    match Term.ofToken token with
    | .literal v => .ok v
    | .column table name =>
      match truthWord? table name with
      | some b => .ok ((Bound.truth b).value [])
      | none => .error (.noSuchColumn token)

/-- The record that an INSERT with named columns gives. Of a repeated column the first value
counts, of the row key the last. -/
def arranged (t : Table) (columns : List String) (values : List Value) : List Value :=
  let pairs := (columns.map t.fieldIndex?).zip values
  t.fields.zipIdx.map fun f =>
    let ordered := if f.1.column.isRowKey then pairs.reverse else pairs
    ((ordered.find? fun p => p.1 == some f.2).map (·.2)).getD .null

def Database.insert (db : Database) (q : Query) : Except Failure (Database × Nat) := do
  let name := q.table.getD ""
  let t ← db.table name
  match q.columns.find? fun c => (t.fieldIndex? c).isNone with
  | some c => .error (.noColumnNamed name c)
  | none =>
    let values ← insertValues q.values
    if q.columns.isEmpty ∧ values.length ≠ t.columns.length then
      .error (.wrongValueCount name t.columns.length values.length)
    else
      let row := if q.columns.isEmpty then values else arranged t q.columns values
      let t' ← t.put none row
      settled (db.replace t') 1

/-- An assignment of an UPDATE: the position of the column and its new value. -/
def bindAssignment (t : Table) (a : String × String) : Except Failure (Nat × Bound) := do
  let value ← bind t.fields a.2
  match t.fieldIndex? a.1 with
  | some i => return (i, value)
  | none => .error (.noSuchColumn a.1)

/-- The new values of a row, all computed from the old ones. -/
def assigned (assignments : List (Nat × Bound)) (old : List Value) : List Value :=
  assignments.foldl (fun row a => row.set a.1 (a.2.value old)) old

/-- Changes the rows one after the other. -/
def putAll (assignments : List (Nat × Bound)) : Table → List Row → Except Failure Table
  | t, [] => .ok t
  | t, r :: rest =>
    match t.put (some r.key) (assigned assignments (t.record r)) with
    | .ok t' => putAll assignments t' rest
    | .error f => .error f

def Database.update (db : Database) (q : Query) : Except Failure (Database × Nat) := do
  let t ← db.table (q.table.getD "")
  let assignments ← q.assignments.mapM (bindAssignment t)
  let filter ← bindFilter t.fields q
  let chosen := t.rows.filter fun r => filter.accepts (t.record r)
  let t' ← putAll assignments t chosen
  settled (db.replace t') chosen.length

def Database.delete (db : Database) (q : Query) : Except Failure (Database × Nat) := do
  let t ← db.table (q.table.getD "")
  let filter ← bindFilter t.fields q
  let chosen := t.rows.filter fun r => filter.accepts (t.record r)
  let kept := t.rows.filter fun r => !filter.accepts (t.record r)
  settled (db.replace { t with rows := kept }) chosen.length

end SlangSql.Store
