import SlangSql.Reader.State
import SlangSql.Vocabulary

/-!
# Steps of the statement reader

A step looks at one token. It takes the token, perhaps storing it, or hands the
token on to another state and leaves the query alone. Handing on lowers the
rank of the state, so every token is taken or refused after finitely many steps.
-/

set_option autoImplicit false

namespace SlangSql.Reader

def isPunctuation (token : String) : Bool := token == "," || token == "(" || token == ")"

/-- What a state does with a token. -/
inductive Transition where
  /-- The token is used up; `next` gets the next one. -/
  | take (next : State) (query : Query)
  /-- The token is left for `next`. -/
  | handOn (next : State)
  deriving DecidableEq, Repr

def Stop.matches (v : Vocabulary) (token : String) : Stop → Bool
  | .keyword op => v.isAliasOf token op
  | .symbol text => token == text
  | .endOfText => false

def unexpected (expected : List String) (token : String) : Except Error Transition :=
  .error (.unexpectedToken expected token)

def missingValue (column : String) : String := "value for column " ++ column

/-- The column without a value that keeps a list in this slot from ending. -/
def unfilled? (slot : Slot) (q : Query) : Option String :=
  if slot = .value then q.pendingColumn? else none

def itemStep (v : Vocabulary) (q : Query) (token : String)
    (slot : Slot) (stop : Stop) (next : State) : Except Error Transition :=
  if isPunctuation token || stop.matches v token then unexpected [slot.describe] token
  else if slot = .value ∧ q.valuesFull then unexpected [stop.describe] token
  else .ok (.take (.afterItem slot stop next) (slot.fill q token))

def afterItemStep (v : Vocabulary) (q : Query) (token : String)
    (slot : Slot) (stop : Stop) (next : State) : Except Error Transition :=
  if token = "," then .ok (.take (.item slot stop next) q)
  else if stop.matches v token then
    match unfilled? slot q with
    | some column => unexpected [missingValue column] token
    | none => .ok (.handOn next)
  else if isPunctuation token then unexpected [",", slot.describe, stop.describe] token
  else .ok (.handOn (.item slot stop next))

def selectListStep (v : Vocabulary) (q : Query) (token : String) : Except Error Transition :=
  if token = "*" then .ok (.take .fromTable (q.pushColumn "*"))
  else if v.isAliasOf token .all then
    .ok (.take (.keywordTail .all .fromTable) (q.pushColumn "*"))
  else .ok (.handOn (.item .column (.keyword .from) .fromTable))

def afterTableStep (v : Vocabulary) (q : Query) (token : String) : Except Error Transition :=
  if v.isAliasOf token .where then .ok (.take .conditions q)
  else if q.kind = .select then
    if v.isAliasOf token .join then
      .ok (.take (.keywordTail .join (.store .joined .afterTable)) q)
    else unexpected (v.aliasesOf .where ++ v.aliasesOf .join ++ [endOfQuery]) token
  else unexpected (v.aliasesOf .where ++ [endOfQuery]) token

def insertColumnsStep (v : Vocabulary) (q : Query) (token : String) : Except Error Transition :=
  if token = "(" then
    .ok (.take (.item .column (.symbol ")") (.symbol ")" .valuesClause)) q)
  else if v.isAliasOf token .values then .ok (.handOn .valuesClause)
  else .ok (.handOn (.item .column (.keyword .values) .valuesClause))

def insertValuesStep (q : Query) (token : String) : Except Error Transition :=
  if token = "(" then .ok (.take (.item .value (.symbol ")") (.symbol ")" .done)) q)
  else .ok (.handOn (.item .value .endOfText .done))

def assignmentStep (v : Vocabulary) (q : Query) (token : String) : Except Error Transition :=
  if token = "=" then .ok (.take .assignValue q)
  else if v.isAliasOf token .setEqual then .ok (.take (.keywordTail .setEqual .assignValue) q)
  else unexpected ("=" :: v.aliasesOf .setEqual) token

def afterAssignmentStep (v : Vocabulary) (q : Query) (token : String) :
    Except Error Transition :=
  if token = "," then .ok (.take .assignColumn q)
  else if v.isAliasOf token .where then .ok (.take .conditions q)
  else unexpected ("," :: v.aliasesOf .where ++ [endOfQuery]) token

def comparisonStep (v : Vocabulary) (q : Query) (token field : String) :
    Except Error Transition :=
  match Comparison.ofSymbol? token with
  | some c => .ok (.take (.operand field c) q)
  | none =>
    if v.isAliasOf token .is then .ok (.take (.keywordTail .is (.negation field)) q)
    else if v.isAliasOf token .not then
      .ok (.take (.keywordTail .not (.keywordTail .is (.operand field .isNot))) q)
    else unexpected (Comparison.symbols ++ v.aliasesOf .is ++ v.aliasesOf .not) token

def negationStep (v : Vocabulary) (q : Query) (token field : String) : Except Error Transition :=
  if v.isAliasOf token .not then .ok (.take (.keywordTail .not (.operand field .isNot)) q)
  else .ok (.handOn (.operand field .is))

/-- The operand that a token denotes under a comparison. -/
def operandOf (v : Vocabulary) (c : Comparison) (token : String) : Operand :=
  if c.isNullTest && v.isAliasOf token .null then .null else .literal token

def afterConditionStep (v : Vocabulary) (q : Query) (token : String) : Except Error Transition :=
  if v.isAliasOf token .and then .ok (.take (.keywordTail .and .field) (q.pushConnective .and))
  else if v.isAliasOf token .or then .ok (.take (.keywordTail .or .field) (q.pushConnective .or))
  else unexpected (v.aliasesOf .and ++ v.aliasesOf .or ++ [endOfQuery]) token

def step (v : Vocabulary) (q : Query) (token : String) : State → Except Error Transition
  | .symbol text next => if token = text then .ok (.take next q) else unexpected [text] token
  | .keyword op next =>
    if v.isAliasOf token op then .ok (.take (.keywordTail op next) q)
    else unexpected (v.aliasesOf op) token
  | .keywordTail op next =>
    if v.isAliasOf token op then .ok (.take next q) else .ok (.handOn next)
  | .store slot next =>
    if isPunctuation token then unexpected [slot.describe] token
    else .ok (.take next (slot.fill q token))
  | .item slot stop next => itemStep v q token slot stop next
  | .afterItem slot stop next => afterItemStep v q token slot stop next
  | .selectList => selectListStep v q token
  | .afterTable => afterTableStep v q token
  | .insertColumns => insertColumnsStep v q token
  | .insertValues => insertValuesStep q token
  | .assignment => assignmentStep v q token
  | .afterAssignment => afterAssignmentStep v q token
  | .field =>
    if isPunctuation token then unexpected ["field name"] token
    else .ok (.take (.comparison token) q)
  | .comparison field => comparisonStep v q token field
  | .negation field => negationStep v q token field
  | .operand field c =>
    .ok (.take .afterCondition (q.pushCondition ⟨field, c, operandOf v c token⟩))
  | .afterCondition => afterConditionStep v q token
  | .done => unexpected [endOfQuery] token

/-- Handing a token on lowers the rank. -/
theorem rank_lt_of_handOn {v : Vocabulary} {q : Query} {token : String} {s next : State}
    (h : step v q token s = .ok (.handOn next)) : next.rank < s.rank := by
  cases s <;>
    simp only [step, itemStep, afterItemStep, selectListStep, afterTableStep, insertColumnsStep,
      insertValuesStep, assignmentStep, afterAssignmentStep, comparisonStep, negationStep,
      afterConditionStep, unexpected] at h <;>
    (repeat' split at h) <;> simp_all [State.rank, State.valuesClause] <;>
    (try subst h) <;> simp_all [State.rank]

/-- Gives one token to a state: steps until the token is taken or refused. -/
def feed (v : Vocabulary) (q : Query) (token : String) (s : State) :
    Except Error (State × Query) :=
  match h : step v q token s with
  | .ok (.take next q') => .ok (next, q')
  | .ok (.handOn next) =>
    have := rank_lt_of_handOn h
    feed v q token next
  | .error e => .error e
termination_by s.rank

/-- Gives the tokens to a state, one after the other. -/
def feedAll (v : Vocabulary) (q : Query) (s : State) : List String → Except Error (State × Query)
  | [] => .ok (s, q)
  | token :: rest =>
    match feed v q token s with
    | .ok (s', q') => feedAll v q' s' rest
    | .error e => .error e

/-- What is still missing when the text ends in this state. -/
def missing? (q : Query) : State → Option String
  | .done => none
  | .afterTable => none
  | .afterAssignment => none
  | .afterCondition => none
  | .keywordTail _ next => missing? q next
  | .symbol text _ => some ("'" ++ text ++ "'")
  | .keyword op _ => some op.name
  | .store slot _ => some slot.describe
  | .item slot _ _ => some slot.describe
  | .afterItem slot stop _ =>
    if stop = .endOfText then (unfilled? slot q).map missingValue else some stop.describe
  | .selectList => some "column name or *"
  | .insertColumns => some Operation.values.name
  | .insertValues => some Slot.value.describe
  | .assignment => some ("= or " ++ Operation.setEqual.name)
  | .field => some "field name"
  | .comparison _ => some "comparison operator"
  | .negation _ => some Slot.value.describe
  | .operand _ _ => some Slot.value.describe

end SlangSql.Reader
