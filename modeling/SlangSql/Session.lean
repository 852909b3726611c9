import SlangSql.Reader
import SlangSql.Store.Access
import SlangSql.Store.Change
import SlangSql.Store.Select

/-!
# Sessions

A session reads statements with one vocabulary and runs them against one
database. At most one transaction is open. While one is open the database as it
was at its start is kept, and rolling back returns to it. A statement that fails
changes nothing.
-/

set_option autoImplicit false

namespace SlangSql

inductive TransactionEvent where
  | begun
  | committed
  | rolledBack
  deriving DecidableEq, Repr

def TransactionEvent.text : TransactionEvent → String
  | .begun => "Transaction started"
  | .committed => "Transaction committed"
  | .rolledBack => "Transaction rolled back"

/-- What running one statement gives. -/
inductive Outcome where
  | rows (set : RowSet)
  | affected (count : Nat)
  | transaction (event : TransactionEvent)
  deriving DecidableEq, Repr

structure Session where
  vocabulary : Vocabulary
  database : Store.Database
  /-- The database at the start of the open transaction. -/
  saved : Option Store.Database
  access : Store.Access
  deriving DecidableEq, Repr

namespace Session

def start (v : Vocabulary) (db : Store.Database) (access : Store.Access := .full) : Session :=
  ⟨v, db, none, access⟩

def inTransaction (s : Session) : Bool := s.saved.isSome

def executionError (f : Store.Failure) : Error := .execution f.message

def beginTransaction (s : Session) : Session × Except Error Outcome :=
  match s.saved with
  | some _ => (s, .error (.transactionState "A transaction is already open"))
  | none => ({ s with saved := some s.database }, .ok (.transaction .begun))

def commit (s : Session) : Session × Except Error Outcome :=
  match s.saved with
  | some _ => ({ s with saved := none }, .ok (.transaction .committed))
  | none => (s, .error (.transactionState "No transaction is open to commit"))

def rollback (s : Session) : Session × Except Error Outcome :=
  match s.saved with
  | some db => ({ s with database := db, saved := none }, .ok (.transaction .rolledBack))
  | none => (s, .error (.transactionState "No transaction is open to roll back"))

/-- Takes over a change of the database, or reports why there is none. -/
def change (s : Session) (r : Except Store.Failure (Store.Database × Nat)) :
    Session × Except Error Outcome :=
  match s.access.writing r with
  | .ok (db, count) => ({ s with database := db }, .ok (.affected count))
  | .error f => (s, .error (executionError f))

def select (s : Session) (q : Query) : Session × Except Error Outcome :=
  match s.access.reading (s.database.select q) with
  | .ok set => (s, .ok (.rows set))
  | .error f => (s, .error (executionError f))

/-- Runs a statement that has been read. -/
def executeQuery (s : Session) (q : Query) : Session × Except Error Outcome :=
  match q.kind with
  | .beginTransaction => s.beginTransaction
  | .commit => s.commit
  | .rollback => s.rollback
  | .select => s.select q
  | .insert => s.change (s.database.insert q)
  | .update => s.change (s.database.update q)
  | .delete => s.change (s.database.delete q)

/-- Reads and runs one statement. -/
def execute (s : Session) (text : String) : Session × Except Error Outcome :=
  match s.vocabulary.read text with
  | .ok q => s.executeQuery q
  | .error e => (s, .error e)

/-- Runs statements one after the other. -/
def run (s : Session) : List String → Session × List (Except Error Outcome)
  | [] => (s, [])
  | text :: rest =>
    let (s', answer) := s.execute text
    let (final, answers) := run s' rest
    (final, answer :: answers)

/-- The database that is left when the session ends: an open transaction is rolled back. -/
def close (s : Session) : Store.Database := s.saved.getD s.database

end Session

end SlangSql
