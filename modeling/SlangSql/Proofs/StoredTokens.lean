import Mathlib.Data.List.Basic
import SlangSql.Proofs.RoundTrip

/-!
# Stored tokens keep their order

Of the tokens of a statement the query stores some, and the others only give the
statement its structure: they are aliases or symbols with a fixed meaning. The
stored tokens are the same list in the statement that is read, in the query,
taken clause by clause, and in the SQL text that is written. So none of them is
lost, repeated or moved on the way.
-/

set_option autoImplicit false

namespace SlangSql

/-- An alias, or a symbol with a fixed meaning. -/
def Vocabulary.Structural (v : Vocabulary) (t : String) : Prop :=
  v.isKeyword t = true ∨ t ∈ Vocabulary.reserved

/-- The first list holds the tokens of the second one, in their order and with their number, and
otherwise only tokens that give structure. -/
inductive Interspersed (structural : String → Prop) : List String → List String → Prop
  | nil : Interspersed structural [] []
  | keep (t : String) {ts ns : List String} (h : Interspersed structural ts ns) :
      Interspersed structural (t :: ts) (t :: ns)
  | pass {t : String} {ts ns : List String} (ht : structural t)
      (h : Interspersed structural ts ns) : Interspersed structural (t :: ts) ns

/-- The columns that were named one by one. -/
def Query.namedColumns (q : Query) : List String :=
  if q.kind = .select ∧ q.columns = ["*"] then [] else q.columns

/-- The stored tokens, clause by clause. -/
def Query.inOrder (q : Query) : List String :=
  match q.kind with
  | .select => q.namedColumns ++ (q.table.toList ++ (q.joined ++
      q.conditions.flatMap Condition.stored))
  | .insert => q.table.toList ++ (q.columns ++ q.values)
  | .update => q.table.toList ++ (q.assignments.flatMap (fun a => [a.1, a.2]) ++
      q.conditions.flatMap Condition.stored)
  | .delete => q.table.toList ++ q.conditions.flatMap Condition.stored
  | _ => []

theorem flatMap_pair_perm {cs xs : List String} (h : cs.length = xs.length) :
    ((cs.zip xs).flatMap fun a => [a.1, a.2]).Perm (cs ++ xs) := by
  induction cs generalizing xs with
  | nil =>
    rw [List.length_nil, eq_comm, List.length_eq_zero_iff] at h
    subst h
    exact .nil
  | cons c cs ih =>
    cases xs with
    | nil => simp at h
    | cons x xs =>
      have hp : (x :: (cs.zip xs).flatMap fun a => [a.1, a.2]).Perm (cs ++ x :: xs) :=
        ((ih (by simpa using h)).cons x).trans List.perm_middle.symm
      exact hp.cons c

/-- The order of the clauses leaves no part of the query out and lists none twice. -/
theorem Query.WellFormed.inOrder_perm {v : Vocabulary} {q : Query} (h : q.WellFormed v) :
    q.inOrder.Perm (q.table.toList ++ q.namedColumns ++ q.values ++ q.joined ++
      q.conditions.flatMap Condition.stored) := by
  have hn : q.kind ≠ .select → q.namedColumns = q.columns := by
    intro hk
    simp [Query.namedColumns, hk]
  cases hk : q.kind with
  | select =>
    simp only [Query.inOrder, hk, (h.select hk).2, List.append_nil]
    simpa using (List.perm_append_comm_assoc q.namedColumns q.table.toList
      (q.joined ++ q.conditions.flatMap Condition.stored))
  | insert =>
    obtain ⟨-, hj, hc, -⟩ := h.insert hk
    simp [Query.inOrder, hk, hn, hj, hc]
  | update =>
    obtain ⟨hl, -, hj⟩ := h.update hk
    simp only [Query.inOrder, Query.assignments, hk, hj, hn (by simp [hk]), List.append_nil,
      List.append_assoc]
    have hp := (flatMap_pair_perm hl).append_right (q.conditions.flatMap Condition.stored)
    simpa using hp.append_left q.table.toList
  | delete =>
    obtain ⟨hc, hx, hj⟩ := h.delete hk
    simp [Query.inOrder, hk, hn, hc, hx, hj]
  | _ =>
    have hk' : q.kind.isTransactionControl = true := by
      simp [hk, StatementKind.isTransactionControl]
    obtain ⟨hc, hx, hj, hw, -⟩ := h.control hk'
    have ht : q.table = none := by
      rw [← Option.not_isSome_iff_eq_none, h.table, hk']
      simp
    simp [Query.inOrder, hk, hn, hc, hx, hj, hw, ht]

/-! ## In the statement that is read -/

namespace Grammar

variable {v : Vocabulary} {op : Operation} {ts rest us : List String}

theorem structural_of_resolve {t : String} (h : v.resolve t = some op) : v.Structural t := by
  left
  simp [Vocabulary.isKeyword, h]

theorem Optional.interspersed (h : Optional v op ts rest)
    (hr : Interspersed v.Structural rest us) : Interspersed v.Structural ts us := by
  cases h with
  | absent => exact hr
  | present h => exact hr.pass (structural_of_resolve h)

theorem Keyword.interspersed (h : Keyword v op ts rest)
    (hr : Interspersed v.Structural rest us) : Interspersed v.Structural ts us := by
  cases h with
  | word h ho => exact (ho.interspersed hr).pass (structural_of_resolve h)

theorem structural_comma : v.Structural "," := Or.inr (by decide)

theorem NameList.interspersed {ok : String → Prop} {ns : List String}
    (h : NameList ok ts ns rest) (hr : Interspersed v.Structural rest us) :
    Interspersed v.Structural ts (ns ++ us) := by
  cases h with
  | @first t _ _ _ _ hs =>
    apply Interspersed.keep
    induction hs with
    | none => exact hr
    | plain _ _ ih => exact (ih hr).keep _
    | comma _ _ ih => exact ((ih hr).keep _).pass structural_comma

/-- A star and a word for ALL stand for the columns and are not stored. -/
theorem SelectList.interspersed {ns : List String} (h : SelectList v ts ns rest)
    (hr : Interspersed v.Structural rest us) :
    Interspersed v.Structural ts ((if ns = ["*"] then [] else ns) ++ us) := by
  cases h with
  | star => exact hr.pass (Or.inr (by decide))
  | all h => exact h.interspersed hr
  | names hs _ h =>
    have hne : ns ≠ ["*"] := by
      rintro rfl
      cases h with
      | first => exact hs rfl
    rw [if_neg hne]
    exact h.interspersed hr

theorem Joins.interspersed {ns : List String} (h : Joins v ts ns rest)
    (hr : Interspersed v.Structural rest us) : Interspersed v.Structural ts (ns ++ us) := by
  induction h with
  | none => exact hr
  | table hk _ _ ih => exact hk.interspersed ((ih hr).keep _)

theorem NullTest.interspersed {t : String} {o : Operand} (h : NullTest v t o)
    (hr : Interspersed v.Structural rest us) :
    Interspersed v.Structural (t :: rest) (o.stored ++ us) := by
  cases h with
  | null h => exact hr.pass (structural_of_resolve h)
  | literal => exact hr.keep t

theorem structural_symbolic {c : Comparison} (h : c ∈ Comparison.symbolic) :
    v.Structural c.text := by
  right
  revert h
  cases c <;> decide

theorem ConditionPhrase.interspersed {c : Condition} (h : ConditionPhrase v ts c rest)
    (hr : Interspersed v.Structural rest us) :
    Interspersed v.Structural ts (c.stored ++ us) := by
  cases h with
  | symbol _ hc => exact ((hr.keep _).pass (structural_symbolic hc)).keep _
  | is _ hi _ ho => exact (hi.interspersed (ho.interspersed hr)).keep _
  | isNot _ hi hn ho => exact (hi.interspersed (hn.interspersed (ho.interspersed hr))).keep _
  | notIs _ hn hi ho => exact (hn.interspersed (hi.interspersed (ho.interspersed hr))).keep _

theorem Conditions.interspersed {cs : List Condition} {ks : List Connective}
    (h : Conditions v ts cs ks) :
    Interspersed v.Structural ts (cs.flatMap Condition.stored) := by
  induction h with
  | last h => exact h.interspersed .nil
  | more h hk _ ih => exact h.interspersed (hk.interspersed ih)

theorem Where.interspersed {cs : List Condition} {ks : List Connective} (h : Where v ts cs ks) :
    Interspersed v.Structural ts (cs.flatMap Condition.stored) := by
  cases h with
  | absent => exact .nil
  | present hk h => exact hk.interspersed h.interspersed

theorem InsertColumns.interspersed {ns : List String} (h : InsertColumns v ts ns rest)
    (hr : Interspersed v.Structural rest us) : Interspersed v.Structural ts (ns ++ us) := by
  cases h with
  | none => exact hr
  | enclosed h =>
    exact (h.interspersed (hr.pass (Or.inr (by decide)))).pass (Or.inr (by decide))
  | bare h => exact h.interspersed hr

theorem InsertValues.interspersed {ns : List String} (h : InsertValues ts ns) :
    Interspersed v.Structural ts ns := by
  rw [← List.append_nil ns]
  cases h with
  | enclosed h =>
    exact (h.interspersed (Interspersed.nil.pass (Or.inr (by decide)))).pass (Or.inr (by decide))
  | bare h => exact h.interspersed .nil

theorem Assignment.interspersed {column value : String} (h : Assignment v ts column value rest)
    (hr : Interspersed v.Structural rest us) :
    Interspersed v.Structural ts (column :: value :: us) := by
  cases h with
  | symbol => exact ((hr.keep value).pass (Or.inr (by decide))).keep column
  | keyword _ hk => exact (hk.interspersed (hr.keep value)).keep column

theorem Assignments.interspersed {columns values : List String}
    (h : Assignments v ts columns values rest) (hr : Interspersed v.Structural rest us) :
    Interspersed v.Structural ts
      ((columns.zip values).flatMap (fun a => [a.1, a.2]) ++ us) := by
  induction h with
  | last h => exact h.interspersed hr
  | more h _ ih => exact h.interspersed ((ih hr).pass structural_comma)

theorem Statement.interspersed {q : Query} (h : Statement v ts q) :
    Interspersed v.Structural ts q.inOrder := by
  cases h with
  | @select table _ _ _ _ _ _ _ _ _ hk hc hf _ hj hw =>
    have h := (hj.interspersed hw.interspersed).keep table
    simpa [Query.inOrder, Query.namedColumns] using
      hk.interspersed (hc.interspersed (hf.interspersed h))
  | @insert table _ _ _ _ _ _ hk _ hc hv hs _ =>
    have h := hc.interspersed (hv.interspersed hs.interspersed)
    simpa [Query.inOrder] using hk.interspersed (h.keep table)
  | @update table _ _ _ _ _ _ _ _ hk _ hs ha hw =>
    have h := hs.interspersed (ha.interspersed hw.interspersed)
    simpa [Query.inOrder, Query.assignments] using hk.interspersed (h.keep table)
  | @delete table _ _ _ _ _ hk hf _ hw =>
    have h := hf.interspersed (hw.interspersed.keep table)
    simpa [Query.inOrder] using hk.interspersed h
  | @control k _ hc hk =>
    have h := hk.interspersed .nil
    revert hc
    cases k <;> simp [StatementKind.isTransactionControl, Query.inOrder, h]

end Grammar

/-- What a query stores are the tokens of its text in the order of the text, without those that
are aliases or symbols, and each of its parts has its place in this order. -/
theorem Vocabulary.stored_in_order_of_read (v : Vocabulary) (text : String) (q : Query)
    (h : v.read text = .ok q) :
    Interspersed v.Structural (tokenize text) q.inOrder ∧
      q.inOrder.Perm (q.table.toList ++ q.namedColumns ++ q.values ++ q.joined ++
        q.conditions.flatMap Condition.stored) := by
  have hs := Reader.statement_of_readTokens h
  exact ⟨hs.interspersed, hs.wellFormed.inOrder_perm⟩

/-- Two assignments, written in two ways, and a condition on NULL. -/
def premiumQuery : Query :=
  { kind := .update, table := some "users", columns := ["status", "age"],
    values := ["'premium'", "30"],
    conditions := [⟨"id", .equal, .literal "6"⟩, ⟨"email", .isNot, .null⟩],
    connectives := [.and] }

def premiumText : String :=
  "cappuccino users cocofanto status burbaloni 'premium', age = 30 " ++
    "patapim id = 6 camelo email zibra girafa"

theorem stored_in_order_premiumQuery :
    Vocabulary.standard.read premiumText = .ok premiumQuery ∧
      Interspersed Vocabulary.standard.Structural
        ["cappuccino", "users", "cocofanto", "status", "burbaloni", "'premium'", ",", "age", "=",
          "30", "patapim", "id", "=", "6", "camelo", "email", "zibra", "girafa"]
        ["users", "status", "'premium'", "age", "30", "id", "6", "email"] := by
  have ht : tokenize premiumText =
      ["cappuccino", "users", "cocofanto", "status", "burbaloni", "'premium'", ",", "age", "=",
        "30", "patapim", "id", "=", "6", "camelo", "email", "zibra", "girafa"] := by
    decide +kernel
  have hr : Vocabulary.standard.read premiumText = .ok premiumQuery := by
    rw [Vocabulary.read, ht, Vocabulary.standard_eq_seedWords]
    with_unfolding_all decide
  have h := (Vocabulary.stored_in_order_of_read _ _ _ hr).1
  rw [ht] at h
  exact ⟨hr, h⟩

/-! ## In the SQL text that is written -/

variable {rest us : List String}

theorem structural_sql {k : String} (h : k ∈ sqlGroups.flatMap fun g => g.2) :
    Vocabulary.sql.Structural k := by
  obtain ⟨g, hg, hk⟩ := List.mem_flatMap.mp h
  exact Grammar.structural_of_resolve (Vocabulary.sql_bindsSql g hg k hk)

theorem interspersed_names (h : Interspersed Vocabulary.sql.Structural rest us)
    (ns : List String) :
    Interspersed Vocabulary.sql.Structural (nameTokens ns ++ rest) (ns ++ us) := by
  unfold nameTokens
  fun_induction separated _ ns with
  | case1 => exact h
  | case2 n => exact h.keep n
  | case3 n m ns ih => exact (ih.pass Grammar.structural_comma).keep n

/-- A star is written for all columns and is not a stored token. -/
theorem interspersed_columns (h : Interspersed Vocabulary.sql.Structural rest us)
    (ns : List String) :
    Interspersed Vocabulary.sql.Structural (nameTokens ns ++ rest)
      ((if ns = ["*"] then [] else ns) ++ us) := by
  by_cases hs : ns = ["*"]
  · subst hs
    exact h.pass (Or.inr (by decide))
  · rw [if_neg hs]
    exact interspersed_names h ns

theorem interspersed_enclosed (h : Interspersed Vocabulary.sql.Structural rest us)
    (ns : List String) :
    Interspersed Vocabulary.sql.Structural ("(" :: (nameTokens ns ++ ")" :: rest))
      (ns ++ us) := by
  have hc : Interspersed Vocabulary.sql.Structural (")" :: rest) us := h.pass (Or.inr (by decide))
  exact (interspersed_names hc ns).pass (Or.inr (by decide))

theorem interspersed_insertColumns (h : Interspersed Vocabulary.sql.Structural rest us)
    (ns : List String) :
    Interspersed Vocabulary.sql.Structural (insertColumnTokens ns ++ rest) (ns ++ us) := by
  by_cases hn : ns = []
  · subst hn
    exact h
  · simpa [insertColumnTokens, hn] using interspersed_enclosed h ns

theorem interspersed_assignments (h : Interspersed Vocabulary.sql.Structural rest us)
    (ps : List (String × String)) :
    Interspersed Vocabulary.sql.Structural (assignmentTokens ps ++ rest)
      (ps.flatMap (fun a => [a.1, a.2]) ++ us) := by
  have he : Vocabulary.sql.Structural "=" := Or.inr (by decide)
  unfold assignmentTokens
  fun_induction separated _ ps with
  | case1 => exact h
  | case2 p => exact ((h.keep p.2).pass he).keep p.1
  | case3 p p' ps ih =>
    exact (((ih.pass Grammar.structural_comma).keep p.2).pass he).keep p.1

theorem interspersed_joins (h : Interspersed Vocabulary.sql.Structural rest us)
    (ns : List String) :
    Interspersed Vocabulary.sql.Structural (joinTokens ns ++ rest) (ns ++ us) := by
  induction ns with
  | nil => exact h
  | cons n ns ih =>
    exact ((ih.keep n).pass (structural_sql (by decide))).pass (structural_sql (by decide))

theorem interspersed_condition (h : Interspersed Vocabulary.sql.Structural rest us)
    (c : Condition) :
    Interspersed Vocabulary.sql.Structural (c.sqlTokens ++ rest) (c.stored ++ us) := by
  have ho : Interspersed Vocabulary.sql.Structural (c.operand.text :: rest)
      (c.operand.stored ++ us) := by
    cases c.operand with
    | null => exact h.pass (structural_sql (by decide))
    | literal t => exact h.keep t
  have hc : Interspersed Vocabulary.sql.Structural
      (c.comparison.sqlTokens ++ c.operand.text :: rest) (c.operand.stored ++ us) := by
    cases c.comparison with
    | is => exact ho.pass (structural_sql (by decide))
    | isNot => exact (ho.pass (structural_sql (by decide))).pass (structural_sql (by decide))
    | _ => exact ho.pass (Or.inr (by decide))
  simpa [Condition.sqlTokens, Condition.stored] using hc.keep c.field

theorem interspersed_connected {ks : List Connective} {cs : List Condition}
    (hl : ks.length = cs.length) :
    Interspersed Vocabulary.sql.Structural (connectedTokens (ks.zip cs))
      (cs.flatMap Condition.stored) := by
  induction cs generalizing ks with
  | nil =>
    rw [List.zip_nil_right]
    exact .nil
  | cons c cs ih =>
    cases ks with
    | nil => simp at hl
    | cons k ks =>
      have hk : Vocabulary.sql.Structural k.text := structural_sql (by cases k <;> decide)
      exact (interspersed_condition (ih (by simpa using hl)) c).pass hk

theorem interspersed_where {ks : List Connective} {cs : List Condition}
    (hl : ks.length = cs.length - 1) :
    Interspersed Vocabulary.sql.Structural (whereTokens cs ks)
      (cs.flatMap Condition.stored) := by
  cases cs with
  | nil => exact .nil
  | cons c cs =>
    exact (interspersed_condition (interspersed_connected (by simpa using hl)) c).pass
      (structural_sql (by decide))

/-- Written as SQL, a query holds what it stores in the same order. -/
theorem Query.WellFormed.interspersed_sqlTokens {v : Vocabulary} {q : Query}
    (h : q.WellFormed v) : Interspersed Vocabulary.sql.Structural q.sqlTokens q.inOrder := by
  have hw := interspersed_where h.connectives
  have ht : q.kind.isTransactionControl = false → q.table.toList = [q.tableText] := by
    intro hk
    rw [h.writtenWhole.table hk]
    rfl
  cases hk : q.kind with
  | select =>
    have hf := ((interspersed_joins hw q.joined).keep q.tableText).pass
      (structural_sql (k := "FROM") (by decide))
    have hc := interspersed_columns hf q.columns
    simp only [Query.sqlTokens, Query.inOrder, Query.namedColumns, hk, ht (by rw [hk]; rfl),
      true_and]
    exact hc.pass (structural_sql (by decide))
  | insert =>
    have hv := (interspersed_enclosed .nil q.values).pass
      (structural_sql (k := "VALUES") (by decide))
    have hc := (interspersed_insertColumns hv q.columns).keep q.tableText
    simp only [Query.sqlTokens, Query.inOrder, hk, ht (by rw [hk]; rfl)]
    simpa using (hc.pass (structural_sql (k := "INTO") (by decide))).pass
      (structural_sql (k := "INSERT") (by decide))
  | update =>
    have ha := (interspersed_assignments hw q.assignments).pass
      (structural_sql (k := "SET") (by decide))
    simp only [Query.sqlTokens, Query.inOrder, hk, ht (by rw [hk]; rfl)]
    exact (ha.keep q.tableText).pass (structural_sql (by decide))
  | delete =>
    have hf := (hw.keep q.tableText).pass (structural_sql (k := "FROM") (by decide))
    simp only [Query.sqlTokens, Query.inOrder, hk, ht (by rw [hk]; rfl)]
    exact hf.pass (structural_sql (by decide))
  | beginTransaction =>
    simp only [Query.sqlTokens, Query.inOrder, hk]
    exact (Interspersed.nil.pass (structural_sql (by decide))).pass (structural_sql (by decide))
  | _ =>
    simp only [Query.sqlTokens, Query.inOrder, hk]
    exact Interspersed.nil.pass (structural_sql (by decide))

/-- Cutting the SQL text of a query that was read gives the tokens of the query, clause by clause.
No part of the query is left out of it, and what the query stores stands in it unchanged and in
order, among words and symbols of SQL. -/
theorem Vocabulary.tokenize_sql_of_read (v : Vocabulary) (text : String) (q : Query)
    (h : v.read text = .ok q)
    (hu : q.kind = .insert → ∀ t ∈ q.values, ¬ Token.IsUnterminated t.toList) :
    tokenize q.toSql = q.sqlTokens ∧ q.WrittenWhole ∧
      Interspersed Vocabulary.sql.Structural q.sqlTokens q.inOrder := by
  have hw : q.WellFormed v := (Reader.statement_of_readTokens h).wellFormed
  exact ⟨tokenize_toSql h hu, hw.writtenWhole, hw.interspersed_sqlTokens⟩

/-- Values with marks in them, and one that is an alias. -/
def noteQuery : Query :=
  { kind := .insert, table := some "users", columns := ["id", "name", "note"],
    values := ["'a, (b)'", "it's", "girafa"] }

theorem tokenize_sql_noteQuery :
    Vocabulary.standard.read "bombardiro users id name note trulimero 'a, (b)' it's girafa" =
        .ok noteQuery ∧
      noteQuery.toSql = "INSERT INTO users (id, name, note) VALUES ('a, (b)', it's, girafa)" ∧
      tokenize noteQuery.toSql =
        ["INSERT", "INTO", "users", "(", "id", ",", "name", ",", "note", ")", "VALUES", "(",
          "'a, (b)'", ",", "it's", ",", "girafa", ")"] := by
  have ht : tokenize "bombardiro users id name note trulimero 'a, (b)' it's girafa" =
      ["bombardiro", "users", "id", "name", "note", "trulimero", "'a, (b)'", "it's",
        "girafa"] := by
    decide +kernel
  have hr : Vocabulary.standard.read
      "bombardiro users id name note trulimero 'a, (b)' it's girafa" = .ok noteQuery := by
    rw [Vocabulary.read, ht, Vocabulary.standard_eq_seedWords]
    with_unfolding_all decide
  have hu : ∀ t ∈ noteQuery.values, ¬ Token.IsUnterminated t.toList := by decide
  exact ⟨hr, by decide, (Vocabulary.tokenize_sql_of_read _ _ _ hr fun _ => hu).1⟩

end SlangSql
