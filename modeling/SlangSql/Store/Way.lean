import SlangSql.Store.Aspect

/-!
# Ways to visit the rows of a table

All rows of a table can be read in the order of their row keys. Rows can be found
by the row key or by another primary key, if conditions bound it: such a key has a
list of its own, sorted by the keys. For an equation with another column a sorted
copy of the table can be made first. If the conditions leave a choice between
conjunctions that all bound the key, the rows of each can be found in turn.
-/

set_option autoImplicit false

namespace SlangSql.Store

/-- The primary key of a table. -/
structure Key where
  field : Nat
  affinity : Affinity
  /-- The key is the row key itself. -/
  isRowKey : Bool
  /-- No other column of the table is needed. -/
  isEnough : Bool
  /-- The estimated width of an entry in the list of keys. -/
  entryWidth : Estimate
  /-- The estimated width of a row. -/
  rowWidth : Estimate
  deriving DecidableEq, Repr

/-- The keys of a table of which these fields are needed, the row key first. The entries of
another key lead to their rows by the row key. -/
def Scope.keys (s : Scope) (needed : List Nat) (table : Nat) : List Key :=
  let t := (s.tables[table]?).getD (.create "" [] [])
  let key (p : Field × Nat) : Key :=
    let field := s.firstField table + p.2
    { field
      affinity := p.1.column.affinity
      isRowKey := p.1.column.isRowKey
      isEnough := needed.all fun i => i == field || s.isRowKey i || s.owners[i]? != some table
      entryWidth := Estimate.ofNat (4 * (p.1.column.width + 1))
      rowWidth := Estimate.ofNat (4 * t.columns.foldl (fun n c => n + c.width) 1) }
  let (first, others) := (t.fields.zipIdx.filter fun p => p.1.column.primaryKey).partition
    fun p => p.1.column.isRowKey
  (first ++ others).map key

/-- The order in which rows are visited. -/
inductive RowOrder where
  | byRow
  | byKey (field : Nat)
  /-- By the values of all columns that are needed. -/
  | byColumns
  /-- Conjunction by conjunction: the position of each, and the key by which its rows are
  sorted, if it is not the row key. -/
  | inTurn (turns : List (Nat × Option Nat))
  deriving DecidableEq, Repr

/-- A way to visit the rows of a table. -/
structure Way where
  table : Nat
  order : RowOrder
  /-- The tables whose rows must be known. -/
  needs : List Nat
  /-- The work done once. -/
  setup : Estimate
  /-- The work done each time. -/
  work : Estimate
  /-- The rows found each time. -/
  rows : Estimate
  deriving DecidableEq, Repr

namespace Way

def needsWithin (a b : Way) : Bool := a.needs.all b.needs.contains

/-- `a` makes a later `b` pointless. -/
def outdoes (a b : Way) : Bool :=
  a.needsWithin b && decide (a.setup ≤ b.setup) && decide (a.work ≤ b.work) &&
    decide (a.rows ≤ b.rows)

/-- `a` takes the place of an earlier `b`. -/
def supersedes (a b : Way) : Bool :=
  a.needsWithin b && decide (a.work ≤ b.work) && decide (a.rows ≤ b.rows)

/-- Adds a way to those of a table. -/
def insert (w : Way) : List Way → List Way
  | [] => [w]
  | v :: rest =>
    if v.outdoes w then v :: rest
    else if w.supersedes v then w :: rest.filter fun u => !w.supersedes u
    else v :: insert w rest

end Way

/-- An aspect under a comparison of this affinity can be looked up in a list of keys. -/
def isSearchable (comparison key : Affinity) : Bool :=
  match comparison with
  | .none => true
  | .text => key == .text
  | _ => key.isNumeric

def Aspect.comparisonAffinity (s : Scope) (v : Aspect) : Affinity :=
  Store.comparisonAffinity ((s.column? v.field).map Column.affinity) v.other.bound.affinity?

namespace Key

/-- The work of reading so many entries of the list of keys. -/
def listing (k : Key) (rows : Estimate) : Estimate := rows + 1 + 15 * k.entryWidth / k.rowWidth

/-- The work of finding so many rows. -/
def finding (k : Key) (rows : Estimate) : Estimate :=
  if k.isRowKey then Estimate.sum Estimate.search (Estimate.reading rows)
  else
    let found := Estimate.sum Estimate.search (k.listing rows)
    if k.isEnough then found else Estimate.sum found (Estimate.reading rows)

/-- The rows within a limit, and with an upper limit as well. -/
def rowsWithin : Limit → Bool → Estimate
  | .exact, _ => 0
  | .among _, _ => 0
  | .absent, _ => Estimate.ofNat 2
  | .lower, false => Estimate.quarter Estimate.tableRows
  | .lower, true => Estimate.quarter (Estimate.quarter (Estimate.quarter Estimate.tableRows))
  | .upper, _ => Estimate.quarter Estimate.tableRows
  | .present, false => Estimate.tableRows - 1
  | .present, true => Estimate.quarter (Estimate.quarter Estimate.tableRows)

/-- How often the list is searched. -/
def searches : Limit → Estimate
  | .among count => Estimate.ofNat count
  | _ => 0

/-- Finding rows by an aspect of the key, and by an upper limit beside it. -/
def way (k : Key) (table : Nat) (c : Conjunction) (v : Aspect) (above : Option Aspect) : Way :=
  let rows := rowsWithin v.limit above.isSome
  let needs := (v.needs ++ above.elim [] Aspect.needs).eraseDups
  let used := v.source :: (above.map Aspect.source).toList
  { table
    order := if k.isRowKey then .byRow else .byKey k.field
    needs
    setup := 0
    work := k.finding rows + searches v.limit
    rows := c.remaining table needs used (rows + searches v.limit) }

/-- The ways to find rows by the key. -/
def ways (k : Key) (s : Scope) (table : Nat) (c : Conjunction) : List Way :=
  let aspects := (c.aspectsOf k.field).filter fun v =>
    !v.needs.contains table && (k.isRowKey || isSearchable (v.comparisonAffinity s) k.affinity)
  let uppers := aspects.filter fun v => v.limit == .upper
  aspects.flatMap fun v =>
    let alone := k.way table c v none
    if v.limit = .lower ∨ v.limit = .present then
      alone :: uppers.map fun u => k.way table c v (some u)
    else [alone]

end Key

/-- The rows of a sorted copy with one value. -/
def copyRows : Estimate := Estimate.ofNat 20

/-- Making a sorted copy of a table for an equation. -/
def copyWays (s : Scope) (table : Nat) (c : Conjunction) : List Way :=
  let aspects := c.aspects.filter fun v =>
    s.owners[v.field]? == some table && v.limit == .exact && v.isUsable && !s.isRowKey v.field &&
      !v.needs.contains table &&
      (s.column? v.field).any fun column => isSearchable (v.comparisonAffinity s) column.affinity
  aspects.map fun v =>
    { table
      order := .byColumns
      needs := v.needs
      setup := Estimate.search + Estimate.tableRows + Estimate.ofNat 7
      work := Estimate.sum Estimate.search copyRows
      rows := copyRows }

/-- Reading the whole table. -/
def readingWay (table : Nat) (c : Conjunction) : Way :=
  { table
    order := .byRow
    needs := []
    setup := 0
    work := Estimate.reading Estimate.tableRows
    rows := c.remaining table [] [] Estimate.tableRows }

/-- Reading the list of keys, if it is shorter than the table and suffices. -/
def listingWay? (k : Key) (table : Nat) (c : Conjunction) : Option Way :=
  if ¬k.isRowKey ∧ k.isEnough ∧ k.entryWidth < k.rowWidth then
    some
      { table
        order := .byKey k.field
        needs := []
        setup := 0
        work := k.listing Estimate.tableRows
        rows := c.remaining table [] [] Estimate.tableRows }
  else none

/-- So many ways to find rows in turn are pursued. -/
def turnLimit : Nat := 3

/-- Adds a way to those pursued: of two ways the one with less work and fewer needs stays. -/
def Way.pursue (w : Way) : List Way → List Way
  | [] => [w]
  | v :: rest =>
    if w.work ≤ v.work ∧ w.needsWithin v then { w with rows := min v.rows w.rows } :: rest
    else if v.work ≤ w.work ∧ v.needsWithin w then v :: rest
    else v :: pursue w rest

def pursued (ws : List Way) : List Way := (ws.foldl (fun kept w => w.pursue kept) []).take turnLimit

/-- The key by which a way sorts, if it is not the row key. -/
def Way.sortKey? (w : Way) : Option Nat :=
  match w.order with
  | .byKey field => some field
  | _ => none

/-- The first of the ways that lead to rows with the least work. -/
def leastWork? : List Way → Option Way
  | [] => none
  | w :: rest =>
    match leastWork? rest with
    | some v => if v.work < w.work then some v else some w
    | none => some w

/-- The way to find the rows of no conjunction. -/
def Way.none (table : Nat) : Way := ⟨table, .inTurn [], [], 0, 0, 0⟩

/-- Finding the rows of a further conjunction. -/
def Way.followedBy (a : Way) (turn : Nat × Option Nat) (b : Way) : Way :=
  match a.order with
  | .inTurn (first :: more) =>
    { a with
      order := .inTurn (first :: more ++ [turn])
      needs := (a.needs ++ b.needs).eraseDups
      work := Estimate.sum a.work b.work
      rows := Estimate.sum a.rows b.rows }
  | _ => { b with order := .inTurn [turn] }

/-- A single condition that bounds a column of another table first. -/
def Conjunction.isLate (c : Conjunction) (s : Scope) (table : Nat) : Bool :=
  decide (c.restrictions.length = 1) &&
    (c.aspects.head?).any fun v => s.owners[v.field]? != some table

/-- Conjunctions with their positions, in the order in which the rows of a table are found. -/
def inTurnOrder (s : Scope) (table : Nat) (cs : List Conjunction) : List (Conjunction × Nat) :=
  let (late, early) := cs.zipIdx.partition fun p => p.1.isLate s table
  early ++ late.reverse

/-- The ways to find the rows of conjunctions in turn. -/
def turnWays (s : Scope) (needed : List Nat) (table : Nat) (cs : List Conjunction) : List Way :=
  let step (before : List Way) (p : Conjunction × Nat) : List Way :=
    let all := (s.keys needed table).flatMap fun k => k.ways s table p.1
    let turn := (p.2, (leastWork? all).bind Way.sortKey?)
    pursued (before.flatMap fun a => (pursued all).map (a.followedBy turn))
  ((inTurnOrder s table cs).foldl step [.none table]).map fun w => { w with work := w.work + 1 }

end SlangSql.Store
