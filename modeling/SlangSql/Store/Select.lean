import SlangSql.RowSet
import SlangSql.Store.Plan

/-!
# Choosing rows

A SELECT runs over all combinations of rows of its tables, in the order that its
plan gives, and answers with those that its conditions choose.
-/

set_option autoImplicit false

namespace SlangSql.Store

/-- One column of the answer. -/
structure Output where
  name : String
  bound : Bound
  /-- The declared type, if the column comes from a table. -/
  source : Option Column
  deriving DecidableEq, Repr

def Output.ofField (i : Nat) (f : Field) : Output :=
  ⟨f.column.name, .field i f.column.affinity, some f.column⟩

/-- The name of a field with its table and its database. -/
def Field.fullName (f : Field) : String := "main." ++ f.table ++ "." ++ f.column.name

/-- The first field whose table stands twice among the tables in use. -/
def repeatedField? (fields : List Field) : Option Field :=
  fields.find? fun f => decide (1 < fields.countP (Field.isNamed (some f.table) f.column.name))

/-- The columns of all tables. -/
def allOutputs (fields : List Field) : Except Failure (List Output) :=
  match repeatedField? fields with
  | some f => .error (.ambiguousColumn f.fullName)
  | none => .ok ((fields.zipIdx.filter fun p => !p.1.isHidden).map fun p => .ofField p.2 p.1)

/-- The answer columns that one item of the select list asks for. -/
def outputs (fields : List Field) (token : String) : Except Failure (List Output) :=
  if token = "*" then allOutputs fields
  else
    match Term.ofToken token with
    | .literal v => .ok [⟨token, .literal v, none⟩]
    | .column table name =>
      match fieldIndex fields token table name, truthWord? table name with
      | .ok (i, f), _ => .ok [Output.ofField i f]
      | .error (.noSuchColumn _), some b => .ok [⟨token, .truth b, none⟩]
      | .error e, _ => .error e

/-- The first answer column that cannot be shown. -/
def hiddenOutput? (outs : List Output) : Option Failure :=
  outs.findSome? fun o => (o.source.bind Column.hiddenKind?).map (.hiddenType o.name)

/-- The fields that the answer and the conditions need. -/
def neededFields (outs : List Output) (f : Filter) : List Nat :=
  (outs.map (·.bound) ++ f.conditions.flatMap fun c => [c.left, c.right]).filterMap
    Bound.field?

/-- Rows of some of the tables, each with the number of its table. -/
abbrev Combination := List (Nat × List Value)

/-- The values of a combination in the order of the tables, those of missing tables NULL. -/
def Combination.values (s : Scope) (combination : Combination) : List Value :=
  s.tables.zipIdx.flatMap fun p =>
    (combination.lookup p.2).getD (p.1.fields.map fun _ => .null)

/-- The conditions that can be tested on these tables. -/
def testable (s : Scope) (tables : List Nat) (group : List BoundCondition) :
    List BoundCondition :=
  group.filter fun c => ((Clause.ofCondition c).tables s).all tables.contains

/-- The position of the first turn in which a combination may be found. -/
def turn (s : Scope) (f : Filter) (turns : List (Nat × Option Nat)) (combination : Combination) :
    Nat :=
  let row := combination.values s
  let tables := combination.map (·.1)
  turns.findIdx fun t =>
    conjunctionTruth row (testable s tables (f.alternatives.getD t.1 [])) == some true

/-- The values by which a way sorts the rows of its table. -/
def sortValues (s : Scope) (needed : List Nat) (f : Filter) (w : Way) (before : Combination)
    (row : List Value) : List Value :=
  let first := s.firstField w.table
  match w.order with
  | .byRow => []
  | .byKey field => [row.getD (field - first) .null]
  | .byColumns =>
    row.zipIdx.filterMap fun p =>
      if needed.contains (first + p.2) ∧ ¬s.isRowKey (first + p.2) then some p.1 else none
  | .inTurn turns =>
    let n := turn s f turns (before ++ [(w.table, row)])
    .integer n :: ((turns[n]?).bind fun t =>
      t.2.map fun field => row.getD (field - first) .null).toList

/-- Values are compared one by one until two differ. -/
def comesFirst : List Value → List Value → Bool
  | a :: as, b :: bs =>
    match a.order b with
    | .lt => true
    | .eq => comesFirst as bs
    | .gt => false
  | _, _ => true

/-- The rows of a table in the order in which a way visits them. -/
def visited (s : Scope) (needed : List Nat) (f : Filter) (before : Combination) (w : Way) :
    List (List Value) :=
  let rows := ((s.tables[w.table]?).map fun t => t.rows.map t.record).getD []
  let sorting := rows.map fun row => (sortValues s needed f w before row, row)
  (sorting.mergeSort fun a b => comesFirst a.1 b.1).map (·.2)

/-- All combinations of rows, the table of the last way changing fastest. -/
def combinations (s : Scope) (needed : List Nat) (f : Filter) (ways : List Way) :
    List Combination :=
  ways.foldl (fun cs w => cs.flatMap fun c =>
    (visited s needed f c w).map fun row => c ++ [(w.table, row)]) [[]]

/-- The rows that a filter chooses, in the order in which they are found. -/
def chosenRows (s : Scope) (outs : List Output) (f : Filter) : List (List Value) :=
  let needed := neededFields outs f
  ((combinations s needed f (plan s needed f)).map (Combination.values s)).filter f.accepts

def Database.select (db : Database) (q : Query) : Except Failure RowSet := do
  let scope : Scope := ⟨← (q.table.getD "" :: q.joined).mapM db.table⟩
  let outs := (← q.columns.mapM (outputs scope.fields)).flatten
  let filter ← bindFilter scope.fields q
  let answer : RowSet :=
    { columns := outs.map (·.name)
      rows := (chosenRows scope outs filter).map fun row =>
        outs.map fun o => Cell.ofValue (o.bound.value row) }
  match hiddenOutput? outs with
  | some f => .error f
  | none => .ok answer

end SlangSql.Store
