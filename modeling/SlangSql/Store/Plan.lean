import SlangSql.Store.Way

/-!
# Plans

A plan says in which order the tables of a statement are run through, and how the
rows of each are visited. For every set of tables the cheapest way to begin with
them is kept, until all tables are in it.
-/

set_option autoImplicit false

namespace SlangSql.Store

/-- The conjunctions of a filter. Only a filter without a choice fixes columns. -/
def Filter.conjoined (s : Scope) (f : Filter) : List Conjunction :=
  match f.alternatives with
  | [group] => [.ofClauses s (Clause.fixed (group.map .ofCondition))]
  | groups => groups.map fun group => .ofClauses s (group.map .ofCondition)

/-- The conjunctions say of which values a column is one, and nothing else. -/
def choiceAspect? (s : Scope) (cs : List Conjunction) : Option Aspect := do
  let candidates := ((cs.head?).map Conjunction.aspects).getD []
  candidates.findSome? fun candidate =>
    let affinity := (s.column? candidate.field).map Column.affinity
    let fits (v : Aspect) : Bool :=
      v.field == candidate.field && v.comparison == .equal && v.isUsable &&
        (v.other.bound.affinity?.isNone || v.other.bound.affinity? == affinity)
    match cs.mapM fun c => if c.restrictions.length = 1 then c.aspects.find? fits else none with
    | none => none
    | some aspects =>
      some { candidate with
        limit := .among aspects.length
        needs := (aspects.flatMap Aspect.needs).eraseDups
        source := 0 }

/-- The aspect can be merged with one of another conjunction. -/
def Aspect.isMergeable (v : Aspect) : Bool := v.comparison != .is && v.isUsable && !v.links

/-- What each of two conjunctions says about a column. -/
def commonAspects (a b : Conjunction) : List Aspect :=
  a.aspects.flatMap fun v => b.aspects.filterMap fun w =>
    if v.isMergeable ∧ w.isMergeable ∧ v.field = w.field ∧ v.other = w.other then
      (v.limit.either? w.limit).map fun l => { v with limit := l, source := 1 }
    else none

/-- A single condition between two columns. -/
def Conjunction.isLonePair (c : Conjunction) : Bool :=
  decide (c.restrictions.length = 1 ∧ 1 < c.aspects.length)

/-- What a choice between conjunctions says as a whole. -/
def choice (s : Scope) (cs : List Conjunction) : Conjunction :=
  let tables := (cs.flatMap fun c => c.restrictions.flatMap Restriction.tables).eraseDups
  let common := match cs with
    | [a, b] => if a.isLonePair || b.isLonePair then [] else commonAspects a b
    | _ => []
  { restrictions := [⟨tables, 0⟩]
    aspects := (choiceAspect? s cs).toList ++ common }

/-- What all conditions of a filter say. -/
def overall (s : Scope) : List Conjunction → Conjunction
  | [] => ⟨[], []⟩
  | [c] => c
  | cs => choice s cs

/-- The ways to visit the rows of a table. -/
def waysOf (s : Scope) (needed : List Nat) (cs : List Conjunction) (table : Nat) : List Way :=
  let c := overall s cs
  let all := copyWays s table c ++ [readingWay table c] ++
    ((s.keys needed table).flatMap fun k => (listingWay? k table c).toList ++ k.ways s table c) ++
    (if 1 < cs.length then turnWays s needed table cs else [])
  all.foldl (fun ways w => w.insert ways) []

/-- The beginning of a plan. -/
structure Route where
  ways : List Way
  /-- The number of combinations of rows. -/
  rows : Estimate
  cost : Estimate
  deriving DecidableEq, Repr

namespace Route

def start : Route := ⟨[], 0, 0⟩

def tables (r : Route) : List Nat := r.ways.map Way.table

/-- A sorted copy does not pay for fewer rows. -/
def copyThreshold : Estimate := 3

def admits (r : Route) (w : Way) : Bool :=
  !r.tables.contains w.table && w.needs.all r.tables.contains &&
    (w.setup == 0 || decide (copyThreshold ≤ r.rows))

/-- The cost of a route so far, as a part of a longer one. -/
def carried (r : Route) : Estimate := if r.ways.isEmpty then 0 else r.cost - 2

def extend (r : Route) (w : Way) : Route :=
  let each := w.work + r.rows
  let once := if w.setup = 0 then each else Estimate.sum w.setup each
  { ways := r.ways ++ [w]
    rows := r.rows + w.rows
    cost := Estimate.sum once r.carried }

def isBetter (a b : Route) : Bool :=
  decide (a.cost < b.cost) || (a.cost == b.cost && decide (a.rows < b.rows))

/-- The two routes run through the same tables. -/
def coversLike (a b : Route) : Bool :=
  a.tables.all b.tables.contains && b.tables.all a.tables.contains

/-- So many routes are kept. -/
def limit : Nat := 12

/-- The first of the most expensive routes. -/
def worst? (routes : List Route) : Option Route :=
  routes.foldl (fun w r =>
    match w with
    | some q => if q.cost < r.cost then some r else some q
    | none => some r) none

/-- Adds a route. Of two through the same tables the better one stays, and beyond the limit a
route only takes the place of a more expensive one. -/
def insert (kept : List Route) (r : Route) : List Route :=
  if kept.any r.coversLike then
    kept.map fun q => if r.coversLike q && r.isBetter q then r else q
  else if kept.length < limit then kept ++ [r]
  else
    match worst? kept with
    | some w => if r.cost < w.cost then kept.map fun q => if q = w then r else q else kept
    | none => [r]

/-- All routes by one table longer. -/
def extended (ways : List Way) (routes : List Route) : List Route :=
  (routes.flatMap fun r => (ways.filter r.admits).map r.extend).foldl insert []

end Route

/-- The ways of the best plan, the outermost table first. -/
def plan (s : Scope) (needed : List Nat) (f : Filter) : List Way :=
  let cs := f.conjoined s
  let ways := (List.range s.tables.length).flatMap (waysOf s needed cs)
  let routes := s.tables.foldl (fun routes _ => Route.extended ways routes) [Route.start]
  match routes with
  | r :: _ => r.ways
  | [] => []

end SlangSql.Store
