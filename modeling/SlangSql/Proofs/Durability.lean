import SlangSql.Proofs.Transactions

/-!
# What a session leaves behind

The steps that count are those that ran outside any transaction and those of
transactions that were committed. Closing a session leaves the database that
these steps alone make, in their order and with no transaction around them.

While the session goes on, the steps of the open transaction count as well: the
database is then the one that all steps make which have not been rolled back, and
every answer is the one that this database gives outside any transaction.
-/

set_option autoImplicit false

namespace SlangSql

/-- Whether an open transaction counts, by the events that follow. If none follows, it counts as
`pending` says. -/
def settles (pending : Bool) : List TransactionEvent → Bool
  | [] => pending
  | .committed :: _ => true
  | _ :: _ => false

namespace Session

/-- The step asks for no event, and it runs outside any transaction or in one that counts. -/
def counts (pending : Bool) (s : Session) (text : String) (rest : List String) : Bool :=
  (s.vocabulary.requested? text).isNone &&
    (!s.inTransaction || settles pending (events ((s.execute text).1.run rest).2))

/-- The steps that count, in their order. -/
def kept (pending : Bool) (s : Session) : List String → List String
  | [] => []
  | text :: rest =>
    if s.counts pending text rest then text :: kept pending (s.execute text).1 rest
    else kept pending (s.execute text).1 rest

variable {pending : Bool} {s : Session} {text : String} {rest : List String}

end Session

end SlangSql
