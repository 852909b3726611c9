import SlangSql.Proofs.ReaderGrammar

/-!
# Queries that reading returns

A query that comes out of a text, over any vocabulary, has the parts of its
kind and no others, and lists that belong together have the lengths they
should. So writing it as SQL never falls back on a missing part and never
stops a pair of lists at the shorter one.
-/

set_option autoImplicit false

namespace SlangSql

/-- NULL stands behind IS and IS NOT only, and there no word for NULL is taken literally. -/
def Condition.WellFormed (v : Vocabulary) (c : Condition) : Prop :=
  match c.operand with
  | .null => c.comparison = .is ∨ c.comparison = .isNot
  | .literal t => c.comparison = .is ∨ c.comparison = .isNot → v.resolve t ≠ some .null

/-- The parts that a query of its kind has, and how long they are. -/
structure Query.WellFormed (v : Vocabulary) (q : Query) : Prop where
  table : q.table.isSome = true ↔ q.kind.isTransactionControl = false
  control : q.kind.isTransactionControl = true →
    q.columns = [] ∧ q.values = [] ∧ q.joined = [] ∧ q.conditions = [] ∧ q.connectives = []
  select : q.kind = .select → q.columns ≠ [] ∧ q.values = []
  insert : q.kind = .insert → q.values ≠ [] ∧ q.joined = [] ∧ q.conditions = [] ∧
    (q.columns = [] ∨ q.columns.length = q.values.length)
  update : q.kind = .update →
    q.columns.length = q.values.length ∧ q.columns ≠ [] ∧ q.joined = []
  delete : q.kind = .delete → q.columns = [] ∧ q.values = [] ∧ q.joined = []
  connectives : q.connectives.length = q.conditions.length - 1
  conditions : ∀ c ∈ q.conditions, c.WellFormed v

/-- Writing the query uses every part of it as it is. -/
structure Query.WrittenWhole (q : Query) : Prop where
  table : q.kind.isTransactionControl = false → q.table = some q.tableText
  columns : q.kind = .select → q.selectSql =
    "SELECT " ++ commaList q.columns ++ " FROM " ++ q.tableText ++
      String.join (q.joined.map fun t => " INNER JOIN " ++ t) ++ q.whereClause
  assignments : q.kind = .update → q.assignments.unzip = (q.columns, q.values)
  conditions : (q.connectives.zip q.conditions.tail).unzip = (q.connectives, q.conditions.tail)

theorem Query.WellFormed.writtenWhole {v : Vocabulary} {q : Query} (h : q.WellFormed v) :
    q.WrittenWhole where
  table hk := by
    obtain ⟨t, ht⟩ := Option.isSome_iff_exists.mp (h.table.mpr hk)
    simp [Query.tableText, ht]
  columns hk := by
    have hc : q.columns.isEmpty = false := by simpa using (h.select hk).1
    simp [Query.selectSql, hc]
  assignments hk := List.unzip_zip (h.update hk).1
  conditions := List.unzip_zip (by simp [h.connectives])

namespace Grammar

variable {v : Vocabulary} {ts rest : List String}

theorem NullTest.wellFormed {t field : String} {o : Operand} {c : Comparison}
    (h : NullTest v t o) (hc : c = .is ∨ c = .isNot) :
    Condition.WellFormed v ⟨field, c, o⟩ := by
  cases h with
  | null => exact hc
  | literal hn => exact fun _ => hn

theorem ConditionPhrase.wellFormed {c : Condition} (h : ConditionPhrase v ts c rest) :
    c.WellFormed v := by
  cases h with
  | symbol _ hc =>
    intro hn
    rcases hn with rfl | rfl <;> exact absurd hc (by decide)
  | is _ _ _ ho => exact ho.wellFormed (Or.inl rfl)
  | isNot _ _ _ ho => exact ho.wellFormed (Or.inr rfl)
  | notIs _ _ _ ho => exact ho.wellFormed (Or.inr rfl)

theorem Conditions.wellFormed {cs : List Condition} {ks : List Connective}
    (h : Conditions v ts cs ks) :
    ks.length + 1 = cs.length ∧ ∀ c ∈ cs, c.WellFormed v := by
  induction h with
  | last hc => simpa using hc.wellFormed
  | more hc _ _ ih =>
    refine ⟨by simp [ih.1], ?_⟩
    simpa using ⟨hc.wellFormed, ih.2⟩

theorem Where.wellFormed {cs : List Condition} {ks : List Connective} (h : Where v ts cs ks) :
    ks.length = cs.length - 1 ∧ ∀ c ∈ cs, c.WellFormed v := by
  cases h with
  | absent => simp
  | present _ hc =>
    obtain ⟨hl, hw⟩ := hc.wellFormed
    exact ⟨by omega, hw⟩

theorem NameList.ne_nil {ok : String → Prop} {ns : List String} (h : NameList ok ts ns rest) :
    ns ≠ [] := by
  cases h
  simp

theorem SelectList.ne_nil {ns : List String} (h : SelectList v ts ns rest) : ns ≠ [] := by
  cases h with
  | star => simp
  | all => simp
  | names _ _ h => exact h.ne_nil

theorem InsertValues.ne_nil {ns : List String} (h : InsertValues ts ns) : ns ≠ [] := by
  cases h with
  | enclosed h => exact h.ne_nil
  | bare h => exact h.ne_nil

theorem Assignments.lengths {columns values : List String}
    (h : Assignments v ts columns values rest) :
    columns.length = values.length ∧ columns ≠ [] := by
  induction h with
  | last => simp
  | more _ _ ih => simp [ih.1]

theorem Statement.wellFormed {q : Query} (h : Statement v ts q) : q.WellFormed v := by
  cases h with
  | select _ hc _ _ _ hw =>
    obtain ⟨hl, hw⟩ := hw.wellFormed
    constructor <;> simp [StatementKind.isTransactionControl, hc.ne_nil, hl]
    simpa using hw
  | insert _ _ _ _ hx hn =>
    constructor <;> simp [StatementKind.isTransactionControl, hx.ne_nil]
    simpa [eq_comm] using hn
  | update _ _ _ ha hw =>
    obtain ⟨hl, hw⟩ := hw.wellFormed
    constructor <;> simp [StatementKind.isTransactionControl, ha.lengths, hl]
    simpa using hw
  | delete _ _ _ hw =>
    obtain ⟨hl, hw⟩ := hw.wellFormed
    constructor <;> simp [StatementKind.isTransactionControl, hl]
    simpa using hw
  | @control k ts hc _ =>
    constructor <;> cases k <;> simp_all [StatementKind.isTransactionControl]

end Grammar

/-- Every query that reading returns has the parts of its kind, in matching numbers, and is
written without fallback and without loss. -/
theorem Vocabulary.wellFormed_of_read (v : Vocabulary) (text : String) (q : Query)
    (h : v.read text = .ok q) : q.WellFormed v ∧ q.WrittenWhole := by
  have hw : q.WellFormed v := (Reader.statement_of_readTokens h).wellFormed
  exact ⟨hw, hw.writtenWhole⟩

/-- A query with a condition on NULL. -/
def usersQuery : Query :=
  { kind := .select, table := some "users", columns := ["*"],
    conditions := [⟨"age", .isNot, .null⟩] }

/-- The operator of the condition is the word for NOT alone. -/
theorem wellFormed_usersQuery :
    Vocabulary.standard.read "tralalero * lirili users patapim age zibra girafa" =
        .ok usersQuery ∧
      usersQuery.WellFormed Vocabulary.standard ∧ usersQuery.WrittenWhole := by
  have ht : tokenize "tralalero * lirili users patapim age zibra girafa" =
      ["tralalero", "*", "lirili", "users", "patapim", "age", "zibra", "girafa"] := by
    with_unfolding_all decide
  have hv := Vocabulary.standard_resolve [("tralalero", some .select), ("*", none),
    ("lirili", some .from), ("users", none), ("patapim", some .where), ("age", none),
    ("zibra", some .not), ("girafa", some .null)] (by decide)
  simp only [List.forall_mem_cons] at hv
  obtain ⟨h1, h2, h3, h4, h5, h6, h7, h8, -⟩ := hv
  have hc : Grammar.ConditionPhrase Vocabulary.standard ["age", "zibra", "girafa"]
      ⟨"age", .isNot, .null⟩ [] :=
    .notIs (by decide) (.word h7 (.absent (by simp [h8]))) (.absent (by simp [h8])) (.null h8)
  have hr : Vocabulary.standard.read "tralalero * lirili users patapim age zibra girafa" =
      .ok usersQuery := by
    apply Reader.readTokens_of_statement .standard
    rw [ht]
    exact .select (.word h1 (.absent (by simp [h2]))) .star (.word h3 (.absent (by simp [h4])))
      (by decide) .none (.present (.word h5 (.absent (by simp [h6]))) (.last hc))
  exact ⟨hr, Vocabulary.wellFormed_of_read _ _ _ hr⟩

end SlangSql
