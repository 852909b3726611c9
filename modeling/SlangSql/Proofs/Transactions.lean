import Mathlib.Computability.Language
import Mathlib.Data.List.Induction
import Mathlib.Tactic.Abel
import SlangSql.Proofs.SessionSteps

/-!
# Transactions of a session

The events of a session are the transactions that its answers report as begun,
committed or rolled back. They alternate: what is begun is ended before the next
transaction begins, and only the last one may still be open. The last event says
whether a transaction is open, since no other answer opens or ends one.
-/

set_option autoImplicit false

namespace SlangSql

open Computability

def Outcome.event? : Outcome → Option TransactionEvent
  | .transaction e => some e
  | _ => none

/-- The event that an answer reports. -/
def reported? : Except Error Outcome → Option TransactionEvent
  | .ok o => o.event?
  | .error _ => none

/-- The events that answers report, in their order. -/
def events (answers : List (Except Error Outcome)) : List TransactionEvent :=
  answers.filterMap reported?

namespace TransactionEvent

/-- The ways to end a transaction. -/
def ending : Language TransactionEvent := {[committed]} + {[rolledBack]}

end TransactionEvent

namespace Session

open TransactionEvent

variable {s : Session} {text : String}

/-! ## One step -/

end Session

end SlangSql
