import SlangSql.Store.Estimate
import SlangSql.Store.Filter

/-!
# Conditions seen from a column

A comparison between a column and something else bounds the column. If the other
side is a column as well, the condition can be seen from both sides: each bounds
its column by a value that the other table must supply first. Conditions that
equate two columns carry the bounds of one over to the other.
-/

set_option autoImplicit false

namespace SlangSql.Store

/-- The tables of a statement, in the order in which they are named. -/
structure Scope where
  tables : List Table
  deriving DecidableEq, Repr

namespace Scope

def fields (s : Scope) : List Field := s.tables.flatMap Table.fields

/-- The table that each field belongs to. -/
def owners (s : Scope) : List Nat :=
  s.tables.zipIdx.flatMap fun p => p.1.fields.map fun _ => p.2

def column? (s : Scope) (field : Nat) : Option Column := (s.fields[field]?).map (·.column)

/-- The position of the first field of a table. -/
def firstField (s : Scope) (table : Nat) : Nat :=
  (s.tables.take table).foldl (fun n t => n + t.fields.length) 0

def isRowKey (s : Scope) (field : Nat) : Bool := (s.column? field).any Column.isRowKey

/-- The field is never NULL. -/
def isNeverNull (s : Scope) (field : Nat) : Bool :=
  (s.column? field).any fun c => c.isRowKey || c.notNull

end Scope

/-- One side of a condition. -/
structure Side where
  bound : Bound
  /-- The side is a column whose value another condition gives. -/
  isFixed : Bool
  deriving DecidableEq, Repr

namespace Side

def field? (side : Side) : Option Nat := side.bound.field?

/-- The table that has to supply the value. -/
def tables (s : Scope) (side : Side) : List Nat :=
  if side.isFixed then [] else (side.field?.bind fun i => s.owners[i]?).toList

end Side

/-- A condition of which some columns may be fixed. -/
structure Clause where
  left : Side
  comparison : Comparison
  right : Side
  deriving DecidableEq, Repr

namespace Clause

def ofCondition (c : BoundCondition) : Clause :=
  ⟨⟨c.left, false⟩, c.comparison, ⟨c.right, false⟩⟩

/-- A test for NULL. -/
def isNullTest (c : Clause) : Bool := c.comparison.isNullTest && c.right.bound == .literal .null

/-- The outcome does not depend on the row. -/
def isSettled (s : Scope) (c : Clause) : Bool := c.isNullTest && c.left.field?.any s.isNeverNull

/-- The tables without which the condition cannot be tested. -/
def tables (s : Scope) (c : Clause) : List Nat :=
  if c.isSettled s then [] else (c.left.tables s ++ c.right.tables s).eraseDups

/-- The column that the condition equates with a literal. -/
def pinned? (c : Clause) : Option Nat :=
  match c.comparison, c.left.field?, c.right.field? with
  | .equal, some i, none => some i
  | .equal, none, some i => some i
  | _, _, _ => none

/-- Fixes a side if its column is equated with a literal elsewhere. -/
def fixSide (pinned : List Nat) (side : Side) : Side :=
  ⟨side.bound, side.field?.any pinned.contains⟩

/-- Fixes the columns of a conjunction that its other conditions equate with literals. Of
several such conditions the last one gives the value. -/
def fixed (clauses : List Clause) : List Clause :=
  clauses.zipIdx.map fun p =>
    let before := ((clauses.take p.2).filterMap pinned?).filter fun i => p.1.pinned? != some i
    let pins := before ++ (clauses.drop (p.2 + 1)).filterMap pinned?
    ⟨fixSide pins p.1.left, p.1.comparison, fixSide pins p.1.right⟩

end Clause

/-- What a condition says about a column. -/
inductive Limit where
  | exact
  /-- The column is one of so many values. -/
  | among (count : Nat)
  | lower
  | upper
  /-- The column is NULL. -/
  | absent
  /-- The column is not NULL. -/
  | present
  deriving DecidableEq, Repr

namespace Limit

/-- What a comparison with the column on its left says. -/
def ofComparison? : Comparison → Option Limit
  | .equal => some .exact
  | .is => some .exact
  | .greater => some .lower
  | .atLeast => some .lower
  | .less => some .upper
  | .atMost => some .upper
  | _ => none

/-- The same with the column on the right. -/
def swapped : Limit → Limit
  | .lower => .upper
  | .upper => .lower
  | l => l

/-- The limit that holds if one of two limits at the same value does. -/
def either? : Limit → Limit → Option Limit
  | .exact, .exact => some .exact
  | .exact, .lower => some .lower
  | .lower, .exact => some .lower
  | .lower, .lower => some .lower
  | .exact, .upper => some .upper
  | .upper, .exact => some .upper
  | .upper, .upper => some .upper
  | _, _ => none

end Limit

/-- A condition seen from a column. -/
structure Aspect where
  field : Nat
  limit : Limit
  comparison : Comparison
  other : Side
  /-- The tables that supply the other side. -/
  needs : List Nat
  /-- The condition equates two columns of like types. -/
  links : Bool
  /-- The two sides do not come from one table. -/
  isUsable : Bool
  /-- The position of the condition in its conjunction. -/
  source : Nat
  deriving DecidableEq, Repr

/-- Two columns of these types hold the same value if they are equal. -/
def areAlike : Option Affinity → Option Affinity → Bool
  | some a, some b => a == b || (a.isNumeric && b.isNumeric)
  | _, _ => false

namespace Clause

/-- The aspect from the column on one side, `limit` being what the condition says of it. -/
def aspectFrom (s : Scope) (c : Clause) (source : Nat) (limit : Limit) (own other : Side) :
    Option Aspect :=
  own.field?.map fun i =>
    { field := i
      limit
      comparison := c.comparison
      other
      needs := other.tables s
      links := limit == .exact && !c.right.isFixed &&
        areAlike c.left.bound.affinity? c.right.bound.affinity?
      isUsable := (own.tables s).all fun t => !(other.tables s).contains t
      source }

/-- A test for a truth value. -/
def isTruthTest (c : Clause) : Bool :=
  (BoundCondition.testedTruth? ⟨c.left.bound, c.comparison, c.right.bound⟩).isSome

/-- The first aspect of a condition, from the left if there is a column. -/
def mainAspect? (s : Scope) (source : Nat) (c : Clause) : Option Aspect :=
  if c.isSettled s || c.isTruthTest then none
  else if c.isNullTest then
    if c.comparison = .is then aspectFrom s c source .absent c.left c.right else none
  else
    match Limit.ofComparison? c.comparison with
    | none => none
    | some l =>
      (aspectFrom s c source l c.left c.right).or
        (if c.right.isFixed then none else aspectFrom s c source l.swapped c.right c.left)

/-- The second aspect: from the right if there are two columns, or that of a test for NULL. -/
def sideAspect? (s : Scope) (source : Nat) (c : Clause) : Option Aspect :=
  if c.isSettled s || c.isTruthTest then none
  else if c.isNullTest then
    if c.comparison = .isNot then aspectFrom s c source .present c.left c.right else none
  else
    match Limit.ofComparison? c.comparison, c.left.field? with
    | some l, some _ =>
      if c.right.isFixed then none else aspectFrom s c source l.swapped c.right c.left
    | _, _ => none

end Clause

/-- How much a condition restricts the rows of its tables. -/
structure Restriction where
  tables : List Nat
  weight : Estimate
  deriving DecidableEq, Repr

/-- An equation with a literal of at most one is expected to hold more often. -/
def isSmallLiteral : Bound → Bool
  | .literal (.integer n) => decide (-1 ≤ n ∧ n ≤ 1)
  | _ => false

def Clause.restriction (s : Scope) (c : Clause) : Restriction :=
  let weight : Estimate :=
    match c.mainAspect? s 0 with
    | some v =>
      if v.limit = .exact ∧ v.isUsable then
        if isSmallLiteral v.other.bound then Estimate.ofNat 2 else Estimate.ofNat 4
      else 0
    | none => 0
  ⟨c.tables s, weight⟩

/-- Conditions that hold together. -/
structure Conjunction where
  restrictions : List Restriction
  aspects : List Aspect
  deriving DecidableEq, Repr

namespace Conjunction

def ofClauses (s : Scope) (clauses : List Clause) : Conjunction :=
  let numbered := clauses.zipIdx
  { restrictions := clauses.map (Clause.restriction s)
    aspects := (numbered.filterMap fun p => p.1.mainAspect? s p.2) ++
      (numbered.reverse.filterMap fun p => p.1.sideAspect? s p.2) }

/-- The fields linked to those given. -/
def linkedOnce (c : Conjunction) (fields : List Nat) : List Nat :=
  c.aspects.foldl (fun fs v =>
    match v.other.field? with
    | some i => if v.links ∧ fs.contains v.field ∧ ¬fs.contains i then fs ++ [i] else fs
    | none => fs) fields

/-- All fields equated with a field, itself first. -/
def linked (c : Conjunction) (field : Nat) : List Nat :=
  (List.range c.aspects.length).foldl (fun fs _ => c.linkedOnce fs) [field]

/-- The aspects that bound a field, directly or through fields equated with it. -/
def aspectsOf (c : Conjunction) (field : Nat) : List Aspect :=
  (c.linked field).flatMap fun i => c.aspects.filter fun v =>
    v.field == i && v.isUsable && !(v.limit == .exact && v.other.field? == some field)

/-- The rows that stay of those estimated, `used` being the conditions already counted. -/
def remaining (c : Conjunction) (table : Nat) (needs used : List Nat) (rows : Estimate) :
    Estimate :=
  let rest := (c.restrictions.zipIdx.filter fun p =>
    p.1.tables.contains table && p.1.tables.all (fun t => t == table || needs.contains t) &&
      !used.contains p.2).map (·.1)
  min (rows - rest.length)
    (Estimate.tableRows - (rest.map Restriction.weight).foldl max 0)

end Conjunction

end SlangSql.Store
