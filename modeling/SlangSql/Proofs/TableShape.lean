import Mathlib.Data.List.Perm.Basic
import SlangSql.Proofs.SessionSteps
import SlangSql.Store.Definition

/-!
# The shape of tables

A statement that changes a table goes through one function, which puts a record in
the place of its key. So what every statement leaves of a table can be read off
that function: the columns stay as they were declared, and every row keeps a value
for each of them. Tables are made with column names that differ in more than the
case of their letters, and so they keep such names.
-/

set_option autoImplicit false

namespace SlangSql

namespace Store

namespace Table

theorem insertRow_perm (row : Row) (rows : List Row) :
    (insertRow row rows).Perm (row :: rows) := by
  induction rows with
  | nil => exact .refl _
  | cons r rows ih =>
    unfold insertRow
    by_cases h : row.key < r.key
    · rw [if_pos h]
    · rw [if_neg h]
      exact (ih.cons r).trans (.swap row r rows)

/-- The position of the row key in a record: that of its column, or behind all columns. -/
def keyPosition (t : Table) : Nat := t.rowKeyIndex?.getD t.columns.length

/-- The rows that stay beside a new one. -/
def others (t : Table) : Option Int → List Row
  | some key => eraseKey key t.rows
  | none => t.rows

/-- The values under which a record is stored once its key is known. -/
def keyedValues (t : Table) (record : List Value) (key : Int) : List Value :=
  t.storedValues (record.set t.keyPosition (.integer key))

/-- What putting a record can do. -/
theorem put_cases {t t' : Table} {old : Option Int} {record : List Value}
    (h : t.put old record = .ok t') :
    ∃ key, t.chosenKey old (record.getD t.keyPosition .null) = .ok key ∧
      t' = { t with rows := insertRow ⟨key, t.keyedValues record key⟩ (t.others old) } := by
  -- the rows that stay are told apart first, because the later tests look at them
  cases old
  all_goals
    unfold put at h
    dsimp only at h
    split at h
    · cases h
    · next key hkey =>
      refine ⟨key, hkey, ?_⟩
      split at h
      · cases h
      · split at h
        · split at h <;> cases h
        · split at h
          · cases h
          · cases h
            rfl

theorem length_keyedValues {t : Table} {record : List Value} (key : Int)
    (h : t.columns.length ≤ record.length) : (t.keyedValues record key).length = t.columns.length := by
  rw [keyedValues, storedValues, List.length_map, List.length_zip, List.length_set]
  omega

theorem mem_others {t : Table} {old : Option Int} {r : Row} (h : r ∈ t.others old) : r ∈ t.rows := by
  cases old with
  | none => exact h
  | some key => exact List.mem_of_mem_filter h

/-- The columns have different names, and every row has a value for each of them. -/
structure WellShaped (t : Table) : Prop where
  distinct : (t.columns.map fun c => Text.lowerAscii c.name).Nodup
  full : ∀ r ∈ t.rows, r.values.length = t.columns.length

theorem WellShaped.put {t t' : Table} {old : Option Int} {record : List Value}
    (ht : t.WellShaped) (hl : t.columns.length ≤ record.length) (h : t.put old record = .ok t') :
    t'.WellShaped ∧ t'.columns = t.columns ∧ t'.name = t.name := by
  obtain ⟨key, -, rfl⟩ := put_cases h
  refine ⟨⟨ht.distinct, ?_⟩, rfl, rfl⟩
  intro r hr
  rcases List.mem_cons.mp ((insertRow_perm _ _).mem_iff.mp hr) with rfl | hr
  · exact length_keyedValues key hl
  · exact ht.full r (mem_others hr)

theorem WellShaped.filter {t : Table} (ht : t.WellShaped) (p : Row → Bool) :
    { t with rows := t.rows.filter p }.WellShaped :=
  ⟨ht.distinct, fun r hr => ht.full r (List.mem_of_mem_filter hr)⟩

end Table

/-! ## Statements -/

namespace Database

variable {db db' : Database} {q : Query} {t t' u : Table} {name : String} {count : Nat}

end Database

namespace Database

variable {db db' : Database} {q : Query} {t t' u : Table} {name : String} {count : Nat}

end Database

namespace Database

/-- The databases that making tables and running statements lead to. -/
inductive Reachable : Database → Prop
  | empty : Reachable empty
  | create {db : Database} {t : Table} (hdb : Reachable db)
      (hc : columnFault? t.name [] t.columns = none) (hr : t.rows = []) : Reachable (db.create t)
  | insert {db db' : Database} {q : Query} {count : Nat} (hdb : Reachable db)
      (h : db.insert q = .ok (db', count)) : Reachable db'
  | update {db db' : Database} {q : Query} {count : Nat} (hdb : Reachable db)
      (h : db.update q = .ok (db', count)) : Reachable db'
  | delete {db db' : Database} {q : Query} {count : Nat} (hdb : Reachable db)
      (h : db.delete q = .ok (db', count)) : Reachable db'

end Database

/-- A change only succeeds where nothing stands in its way. -/
theorem Access.writing_eq_ok {α : Type} {a : Access} {r : Except Failure α} {x : α}
    (h : a.writing r = .ok x) : a = .full ∧ r = .ok x := by
  cases a with
  | full => exact ⟨rfl, h⟩
  | refusing cause => cases r <;> cases h
  | unreadable => cases h

end Store

namespace Session

variable {s : Session}

/-- The database of the session can arise, and so can the one that rolling back returns to. -/
structure Grounded (s : Session) : Prop where
  database : s.database.Reachable
  saved : ∀ db, s.saved = some db → db.Reachable

theorem start_grounded (v : Vocabulary) {db : Store.Database} (access : Store.Access)
    (hdb : db.Reachable) : (start v db access).Grounded := by
  refine ⟨hdb, ?_⟩
  intro db' h
  cases h

theorem Grounded.close (hs : s.Grounded) : s.close.Reachable := by
  unfold Session.close
  cases h : s.saved with
  | none => exact hs.database
  | some db => exact hs.saved db h

theorem Grounded.advance (hs : s.Grounded) (e : TransactionEvent) : (s.advance e).Grounded := by
  cases e with
  | begun =>
    refine ⟨hs.database, ?_⟩
    intro db h
    cases h
    exact hs.database
  | committed => exact start_grounded s.vocabulary s.access hs.database
  | rolledBack => exact start_grounded s.vocabulary s.access hs.close

theorem Grounded.change (hs : s.Grounded) {r : Except Store.Failure (Store.Database × Nat)}
    (hr : ∀ db count, r = .ok (db, count) → db.Reachable) : (s.change r).1.Grounded := by
  unfold Session.change
  split
  · next db count h => exact ⟨hr db count (Store.Access.writing_eq_ok h).2, hs.saved⟩
  · exact hs

theorem select_fst (s : Session) (q : Query) : (s.select q).1 = s := by
  unfold select
  split <;> rfl

theorem Grounded.executeQuery (hs : s.Grounded) (q : Query) : (s.executeQuery q).1.Grounded := by
  cases hk : q.kind.event? with
  | some e =>
    by_cases hd : s.inTransaction = e.ends
    · rw [executeQuery_due hk hd]
      exact hs.advance e
    · obtain ⟨detail, hx⟩ := executeQuery_undue hk hd
      rw [hx]
      exact hs
  | none =>
    unfold Session.executeQuery
    cases hq : q.kind with
    | select =>
      show (s.select q).1.Grounded
      rw [select_fst]
      exact hs
    | insert => exact hs.change fun _ _ h => .insert hs.database h
    | update => exact hs.change fun _ _ h => .update hs.database h
    | delete => exact hs.change fun _ _ h => .delete hs.database h
    | beginTransaction => rw [hq] at hk; cases hk
    | commit => rw [hq] at hk; cases hk
    | rollback => rw [hq] at hk; cases hk

theorem Grounded.execute (hs : s.Grounded) (text : String) : (s.execute text).1.Grounded := by
  unfold Session.execute
  split
  · next q _ => exact hs.executeQuery q
  · exact hs

/-- Whatever is run, the session stays on databases that can arise. -/
theorem Grounded.run (hs : s.Grounded) (texts : List String) : (s.run texts).1.Grounded := by
  induction texts generalizing s with
  | nil => exact hs
  | cons text texts ih =>
    rw [run_cons]
    exact ih (hs.execute text)

end Session

end SlangSql
