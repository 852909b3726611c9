import SlangSql.Store.Failure

/-!
# Access to a database

A database may be open in such a way that no change succeeds, or its file may turn
out not to be a database. What a statement gives is then replaced by a failure. A
statement that does not fit the tables is refused for that reason before it could
change them.
-/

set_option autoImplicit false

namespace SlangSql.Store

inductive Access where
  | full
  /-- Every change ends with the same failure. -/
  | refusing (cause : Failure)
  | unreadable
  deriving DecidableEq, Repr

namespace Access

variable {α : Type}

def reading : Access → Except Failure α → Except Failure α
  | .unreadable, _ => .error .notDatabase
  | _, r => r

def writing : Access → Except Failure α → Except Failure α
  | .full, r => r
  | .refusing cause, .ok _ => .error cause
  | .refusing cause, .error f => .error (if f.arisesFromRows then cause else f)
  | .unreadable, _ => .error .notDatabase

end Access

end SlangSql.Store
