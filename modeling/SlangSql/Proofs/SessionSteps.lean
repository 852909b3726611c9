import SlangSql.Proofs.Completion
import SlangSql.Session

/-!
# Steps of a session

A text that begins or ends a transaction asks for an event. The event takes
place if the session is ready for it, and otherwise the request is refused. Every
other text is answered as it would be outside any transaction on the same
database, and the open transaction, if there is one, stays open.

A text that is answered with an error leaves the session as it was. The error is
about the text itself just if the text cannot be read, and then no database plays
a part in it.
-/

set_option autoImplicit false

namespace SlangSql

/-- The event that a statement of this kind asks for. -/
def StatementKind.event? : StatementKind → Option TransactionEvent
  | .beginTransaction => some .begun
  | .commit => some .committed
  | .rollback => some .rolledBack
  | _ => none

theorem StatementKind.event?_cases {k : StatementKind} {e : TransactionEvent}
    (h : k.event? = some e) :
    (k = .beginTransaction ∧ e = .begun) ∨ (k = .commit ∧ e = .committed) ∨
      (k = .rollback ∧ e = .rolledBack) := by
  cases k <;> cases h <;> simp

/-- The event ends an open transaction. -/
def TransactionEvent.ends : TransactionEvent → Bool
  | .begun => false
  | .committed => true
  | .rolledBack => true

/-- The event that a text asks for, if it is a statement that begins or ends a transaction. -/
def Vocabulary.requested? (v : Vocabulary) (text : String) : Option TransactionEvent :=
  match v.read text with
  | .ok q => q.kind.event?
  | .error _ => none

namespace Session

variable {s : Session} {q : Query} {text : String}

/-- The session after an event. -/
def advance (s : Session) : TransactionEvent → Session
  | .begun => { s with saved := some s.database }
  | .committed => { s with saved := none }
  | .rolledBack => { s with database := s.close, saved := none }

theorem executeQuery_due {e : TransactionEvent} (hk : q.kind.event? = some e)
    (hd : s.inTransaction = e.ends) :
    s.executeQuery q = (s.advance e, .ok (.transaction e)) := by
  rcases StatementKind.event?_cases hk with ⟨hq, rfl⟩ | ⟨hq, rfl⟩ | ⟨hq, rfl⟩
  · have hs : s.saved = none := by simpa [inTransaction, TransactionEvent.ends] using hd
    simp [executeQuery, hq, beginTransaction, hs, advance]
  · obtain ⟨db, hs⟩ := Option.isSome_iff_exists.mp hd
    simp [executeQuery, hq, commit, hs, advance]
  · obtain ⟨db, hs⟩ := Option.isSome_iff_exists.mp hd
    simp [executeQuery, hq, rollback, hs, advance, close]

theorem executeQuery_undue {e : TransactionEvent} (hk : q.kind.event? = some e)
    (hd : s.inTransaction ≠ e.ends) :
    ∃ detail, s.executeQuery q = (s, .error (.transactionState detail)) := by
  rcases StatementKind.event?_cases hk with ⟨hq, rfl⟩ | ⟨hq, rfl⟩ | ⟨hq, rfl⟩
  · have hs : s.inTransaction = true := by simpa [TransactionEvent.ends] using hd
    obtain ⟨db, hs⟩ := Option.isSome_iff_exists.mp hs
    simp [executeQuery, hq, beginTransaction, hs]
  · have hs : s.saved = none := by simpa [inTransaction, TransactionEvent.ends] using hd
    simp [executeQuery, hq, commit, hs]
  · have hs : s.saved = none := by simpa [inTransaction, TransactionEvent.ends] using hd
    simp [executeQuery, hq, rollback, hs]

theorem run_cons (s : Session) (text : String) (rest : List String) :
    s.run (text :: rest) = (((s.execute text).1.run rest).1,
      (s.execute text).2 :: ((s.execute text).1.run rest).2) := rfl

end Session

namespace Session

variable {s : Session} {text : String}

end Session

end SlangSql
