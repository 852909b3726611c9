import SlangSql.Query
import SlangSql.Store.Term

/-!
# Conditions on rows

Conditions have three truth values: a comparison with NULL is unknown, except
under IS and IS NOT. A row is chosen if its conditions are true. AND binds
tighter than OR.
-/

set_option autoImplicit false

namespace SlangSql.Store

/-- True, false, or unknown. -/
abbrev Truth := Option Bool

namespace Truth

def and : Truth → Truth → Truth
  | some false, _ => some false
  | _, some false => some false
  | some true, some true => some true
  | _, _ => none

def or : Truth → Truth → Truth
  | some true, _ => some true
  | _, some true => some true
  | some false, some false => some false
  | _, _ => none

end Truth

/-- The affinity under which two sides are compared. -/
def comparisonAffinity : Option Affinity → Option Affinity → Affinity
  | some a, some b => if a.isNumeric || b.isNumeric then .numeric else .none
  | some a, none => a
  | none, some b => b
  | none, none => .none

/-- The two sides of a comparison after conversion. -/
def converted (a : Affinity) (l r : Value) : Value × Value :=
  if a.isNumeric then (l.textToNumber, r.textToNumber)
  else if a = .text ∧ (l.isText || r.isText) then (l.numberToText, r.numberToText)
  else (l, r)

/-- The truth of a comparison between two values. -/
def compareValues (c : Comparison) (l r : Value) : Truth :=
  let o := l.order r
  match c with
  | .is => some (o == .eq)
  | .isNot => some (o != .eq)
  | _ =>
    if l.isNull || r.isNull then none
    else
      match c with
      | .equal => some (o == .eq)
      | .notEqual => some (o != .eq)
      | .lessOrGreater => some (o != .eq)
      | .less => some (o == .lt)
      | .greater => some (o == .gt)
      | .atMost => some (o != .gt)
      | _ => some (o != .lt)

/-- A condition whose names have been looked up. -/
structure BoundCondition where
  left : Bound
  comparison : Comparison
  right : Bound
  deriving DecidableEq, Repr

/-- The truth value that a condition with IS or IS NOT tests for. -/
def BoundCondition.testedTruth? (c : BoundCondition) : Option Bool :=
  match c.right with
  | .truth b => if c.comparison.isNullTest then some b else none
  | _ => none

def BoundCondition.truth (row : List Value) (c : BoundCondition) : Truth :=
  match c.testedTruth? with
  | some b => some (((c.left.value row).truth? == some b) == (c.comparison == .is))
  | none =>
    let a := comparisonAffinity c.left.affinity? c.right.affinity?
    let (l, r) := converted a (c.left.value row) (c.right.value row)
    compareValues c.comparison l r

/-- The conditions of a statement, with the connectives between them. -/
structure Filter where
  conditions : List BoundCondition
  connectives : List Connective
  deriving DecidableEq, Repr

/-- The conjunctions between which the conditions leave a choice. -/
def conjunctions : List BoundCondition → List Connective → List (List BoundCondition)
  | c :: rest, .and :: more =>
    match conjunctions rest more with
    | group :: groups => (c :: group) :: groups
    | [] => [[c]]
  | c :: rest, .or :: more => [c] :: conjunctions rest more
  | c :: _, [] => [[c]]
  | [], _ => []

/-- All conditions of a conjunction together. -/
def conjunctionTruth (row : List Value) (group : List BoundCondition) : Truth :=
  group.foldl (fun t c => t.and (c.truth row)) (some true)

namespace Filter

def alternatives (f : Filter) : List (List BoundCondition) :=
  conjunctions f.conditions f.connectives

/-- Without conditions every row is chosen. -/
def truth (f : Filter) (row : List Value) : Truth :=
  if f.conditions.isEmpty then some true
  else f.alternatives.foldl (fun t group => t.or (conjunctionTruth row group)) (some false)

def accepts (f : Filter) (row : List Value) : Bool := f.truth row == some true

end Filter

def bindOperand (fields : List Field) : Operand → Except Failure Bound
  | .null => .ok (.literal .null)
  | .literal token => bind fields token

/-- The operand is the name of a column without its table. -/
def isPlainName : Operand → Bool
  | .null => false
  | .literal token =>
    match Term.ofToken token with
    | .column none _ => true
    | _ => false

/-- Under IS and IS NOT a plain name on the right is looked up before the left side. -/
def bindsRightFirst (c : Condition) : Bool := c.comparison.isNullTest && isPlainName c.operand

def bindCondition (fields : List Field) (c : Condition) : Except Failure BoundCondition := do
  if bindsRightFirst c then
    let right ← bindOperand fields c.operand
    return ⟨← bind fields c.field, c.comparison, right⟩
  else
    let left ← bind fields c.field
    return ⟨left, c.comparison, ← bindOperand fields c.operand⟩

/-- A test for NULL, as opposed to a comparison of two values. -/
def isNullTest (c : Condition) : Bool :=
  c.comparison.isNullTest && Text.sameName c.operand.text "null"

/-- For every condition, whether it begins a conjunction after an OR. -/
def beginsConjunction : List Connective → List Bool
  | .or :: .and :: rest => true :: beginsConjunction (.and :: rest)
  | _ :: rest => false :: beginsConjunction rest
  | [] => []

/-- The failure that a condition ends the search with if `f` has been kept. -/
def endingFailure (fields : List Field) (f : Failure) (c : Condition) : Failure :=
  if bindsRightFirst c then
    match bindOperand fields c.operand with
    | .ok _ => f
    | .error g => g
  else f

/-- Looks up names in the order in which they are written. A failure in a test for NULL is
kept while further such tests are looked at, and the last failure counts; a comparison or a
new conjunction ends the search. -/
def bindConditions (fields : List Field) (pending : Option Failure) :
    List (Condition × Bool) → Except Failure (List BoundCondition)
  | [] =>
    match pending with
    | some f => .error f
    | none => .ok []
  | (c, begins) :: rest =>
    match pending, bindCondition fields c with
    | none, .ok b => (bindConditions fields none rest).map (b :: ·)
    | none, .error f => if isNullTest c then bindConditions fields (some f) rest else .error f
    | some f, r =>
      if begins then .error f
      else if isNullTest c then
        match r with
        | .ok _ => bindConditions fields (some f) rest
        | .error g => bindConditions fields (some g) rest
      else .error (endingFailure fields f c)

/-- Looks up the names in the conditions of a query. -/
def bindFilter (fields : List Field) (q : Query) : Except Failure Filter := do
  let begins := false :: beginsConjunction q.connectives
  return ⟨← bindConditions fields none (q.conditions.zip begins), q.connectives⟩

end SlangSql.Store
