import SlangSql.Query.Sql
import SlangSql.Reader.Step

/-!
# Reading statements

The first token names the kind of statement. The other tokens are fed to the
state that this kind starts in, and the text must not end too early.
-/

set_option autoImplicit false

namespace SlangSql.Vocabulary

/-- The kind of statement that a token starts. -/
def statementKind? (v : Vocabulary) (token : String) : Option StatementKind :=
  (v.resolve token).bind StatementKind.ofOperation?

/-- Reads the tokens of one complete statement. -/
def readTokens (v : Vocabulary) : List String → Except Error Query
  | [] => .error (.unexpectedEnd "a statement keyword")
  | first :: rest =>
    match v.statementKind? first with
    | none => .error (.unsupportedStatement first)
    | some kind =>
      match Reader.feedAll v { kind := kind } (.keywordTail kind.operation (.entry kind)) rest with
      | .error e => .error e
      | .ok (s, q) =>
        match Reader.missing? q s with
        | some expected => .error (.unexpectedEnd expected)
        | none => .ok q

/-- Reads one complete statement. -/
def read (v : Vocabulary) (text : String) : Except Error Query :=
  v.readTokens (tokenize text)

/-- The SQL text of one statement. -/
def compile (v : Vocabulary) (text : String) : Except Error String :=
  match v.read text with
  | .ok q => .ok q.toSql
  | .error e => .error e

end SlangSql.Vocabulary
