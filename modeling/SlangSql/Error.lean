import SlangSql.Operation

/-!
# Errors

Everything that can go wrong between a text and its answer, as a closed list of
causes, with one function for the wording.
-/

set_option autoImplicit false

namespace SlangSql

inductive Error where
  /-- A token that none of the expected ones matches. -/
  | unexpectedToken (expected : List String) (actual : String)
  /-- The text stops where something is still missing. -/
  | unexpectedEnd (expected : String)
  /-- An alias that already stands for another operation. -/
  | duplicateBinding (word : String) (bound requested : Operation)
  | invalidAlias (word : String)
  /-- The first token starts no statement. -/
  | unsupportedStatement (token : String)
  | transactionState (detail : String)
  | connection (detail : String)
  | execution (detail : String)
  | configuration (detail : String)
  | file (detail : String)
  deriving DecidableEq, Repr

namespace Error

/-- What is wrong, without the common heading. -/
def detail : Error → String
  | .unexpectedToken expected actual =>
    "Expected one of [" ++ ", ".intercalate expected ++ "] but got [" ++ actual ++ "]"
  | .unexpectedEnd expected => "Unexpected end of query. Expected " ++ expected
  | .duplicateBinding a bound requested =>
    "Alias '" ++ a ++ "' is already bound to " ++ bound.name ++ ", cannot bind it to " ++
      requested.name
  | .invalidAlias a => "Invalid alias '" ++ a ++ "'"
  | .unsupportedStatement token =>
    "Unsupported query kind [" ++ token ++ "]. Brainrot intensifies!"
  | .transactionState text => text
  | .connection text => "Connection error: " ++ text
  | .execution text => "Execution error: " ++ text
  | .configuration text => "Configuration error: " ++ text
  | .file text => "IO error: " ++ text

def message (e : Error) : String := "Brainrot Error: " ++ e.detail

end Error

end SlangSql
