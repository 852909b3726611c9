import SlangSql.Proofs.SqlTokens

/-!
# Reading written SQL back

A vocabulary in which the words of SQL have their own meaning reads the SQL
text of a query as that query, as long as none of the tokens stored in it
means anything in this vocabulary. The phrases of the statement that was read
need not be those of SQL: it may have been written in other words, with or
without commas and parentheses. So two such queries with the same SQL text are
the same query.
-/

set_option autoImplicit false

namespace SlangSql

/-- The words of SQL, by the operation they stand for. -/
def sqlGroups : List (Operation × List String) :=
  [(.select, ["SELECT"]), (.update, ["UPDATE"]), (.insert, ["INSERT", "INTO"]),
   (.delete, ["DELETE"]), (.from, ["FROM"]), (.where, ["WHERE"]), (.join, ["INNER", "JOIN"]),
   (.and, ["AND"]), (.or, ["OR"]), (.not, ["NOT"]), (.is, ["IS"]), (.null, ["NULL"]),
   (.beginTransaction, ["START", "TRANSACTION"]), (.commit, ["COMMIT"]),
   (.rollback, ["ROLLBACK"]), (.values, ["VALUES"]), (.set, ["SET"])]

def Vocabulary.BindsSql (w : Vocabulary) : Prop :=
  ∀ g ∈ sqlGroups, ∀ a ∈ g.2, w.resolve a = some g.1

theorem Vocabulary.BindsSql.resolve {w : Vocabulary} (h : w.BindsSql) {op : Operation}
    {a : String} (ha : (op, a) ∈ sqlGroups.flatMap fun g => g.2.map fun a => (g.1, a)) :
    w.resolve a = some op := by
  obtain ⟨g, hg, ha⟩ := List.mem_flatMap.mp ha
  obtain ⟨b, hb, he⟩ := List.mem_map.mp ha
  cases he
  exact h g hg a hb

def Operand.stored : Operand → List String
  | .null => []
  | .literal t => [t]

def Condition.stored (c : Condition) : List String := c.field :: c.operand.stored

/-- The tokens that a query keeps as they were written. -/
def Query.stored (q : Query) : List String :=
  q.table.toList ++ q.columns ++ q.values ++ q.joined ++ q.conditions.flatMap Condition.stored

namespace Grammar

variable {v w : Vocabulary} {op : Operation} {ts rest us : List String}

/-- No token of the list is an alias. -/
def Free (w : Vocabulary) (ts : List String) : Prop := ∀ t ∈ ts, w.resolve t = none

/-- A keyword is one word if the next token is no alias. -/
theorem keyword_of_free {k : String} (hk : w.resolve k = some op) (hr : Free w rest.head?.toList) :
    Keyword w op (k :: rest) rest := by
  refine .word hk (.absent fun t ht => ?_)
  rw [hr t (by simpa using ht)]
  simp

/-! ## Lists of names -/

theorem MoreNames.all_ok {ok : String → Prop} {ns : List String} (h : MoreNames ok ts ns rest) :
    ∀ n ∈ ns, ok n := by
  induction h with
  | none => simp
  | plain h _ ih => exact List.forall_mem_cons.mpr ⟨h, ih⟩
  | comma h _ ih => exact List.forall_mem_cons.mpr ⟨h, ih⟩

theorem NameList.all_ok {ok : String → Prop} {ns : List String} (h : NameList ok ts ns rest) :
    ∀ n ∈ ns, ok n := by
  cases h with
  | first h hs => exact List.forall_mem_cons.mpr ⟨h, hs.all_ok⟩

theorem moreNames_tokens {ok : String → Prop} {ns : List String} (h : ∀ n ∈ ns, ok n)
    (t : String) : ∃ ts, nameTokens (t :: ns) ++ us = t :: ts ∧ MoreNames ok ts ns us := by
  induction ns generalizing t with
  | nil => exact ⟨us, rfl, .none⟩
  | cons u ns ih =>
    obtain ⟨hu, hn⟩ := List.forall_mem_cons.mp h
    obtain ⟨ts, he, hm⟩ := ih hn u
    refine ⟨"," :: u :: ts, ?_, .comma hu hm⟩
    rw [← he]
    rfl

theorem nameList_tokens {ok : String → Prop} {ns : List String} (hn : ns ≠ [])
    (h : ∀ n ∈ ns, ok n) : NameList ok (nameTokens ns ++ us) ns us := by
  cases ns with
  | nil => exact absurd rfl hn
  | cons t ns =>
    obtain ⟨ht, hs⟩ := List.forall_mem_cons.mp h
    obtain ⟨ts, he, hm⟩ := moreNames_tokens hs t
    rw [he]
    exact .first ht hm

theorem nameTokens_head {ns : List String} (hn : ns ≠ []) :
    (nameTokens ns ++ us).head? = ns.head? := by
  unfold nameTokens
  fun_cases separated _ ns with
  | case1 => exact absurd rfl hn
  | case2 => rfl
  | case3 => rfl

/-! ## Clauses, as SQL writes them -/

theorem SelectList.restate {ns : List String} (h : SelectList v ts ns rest) (hf : Free w ns) :
    SelectList w (nameTokens ns ++ us) ns us := by
  cases h with
  | star => exact .star
  | all => exact .star
  | @names t _ _ _ hs _ h =>
    have hok : ∀ n ∈ ns, IsNameBut w .from n := by
      intro n hn
      exact ⟨(h.all_ok n hn).1, by simp [hf n hn]⟩
    have hl : NameList (IsNameBut w .from) (nameTokens ns ++ us) ns us :=
      nameList_tokens h.ne_nil hok
    generalize nameTokens ns ++ us = ts' at hl ⊢
    cases h with
    | first =>
      cases hl with
      | first ht hm => exact .names hs (by simp [hf t]) (.first ht hm)

theorem Joins.restate (hb : w.BindsSql) {ns : List String} (h : Joins v ts ns rest) :
    Joins w (joinTokens ns ++ us) ns us := by
  have hk : w.resolve "INNER" = some .join ∧ w.resolve "JOIN" = some .join := by
    exact ⟨hb.resolve (by decide), hb.resolve (by decide)⟩
  induction h with
  | none => exact .none
  | table _ ht _ ih => exact .table (.word hk.1 (.present hk.2)) ht ih

/-- NULL is written as the word for it, any other value as it was read. -/
theorem NullTest.restate (hb : w.BindsSql) {t : String} {o : Operand} (h : NullTest v t o)
    (hf : Free w o.stored) : NullTest w o.text o ∧
      (w.resolve o.text = none ∨ w.resolve o.text = some .null) := by
  cases h with
  | null =>
    have hn : w.resolve "NULL" = some .null := hb.resolve (by decide)
    exact ⟨.null hn, Or.inr hn⟩
  | literal =>
    have hn : w.resolve (Operand.literal t).text = none := hf t (by simp [Operand.stored])
    exact ⟨.literal (by simp [hn]), Or.inl hn⟩

theorem conditionPhrase_isNot (hb : w.BindsSql) {field : String} {o : Operand}
    (hf : IsName field) (ho : NullTest w o.text o)
    (hr : w.resolve o.text = none ∨ w.resolve o.text = some .null) :
    ConditionPhrase w (field :: "IS" :: "NOT" :: o.text :: us) ⟨field, .isNot, o⟩ us := by
  have h₁ : w.resolve "IS" = some .is := hb.resolve (by decide)
  have h₂ : w.resolve "NOT" = some .not := hb.resolve (by decide)
  refine .isNot hf (.word h₁ (.absent (by simp [h₂]))) (.word h₂ (.absent ?_)) ho
  rcases hr with hr | hr <;> simp [hr]

theorem ConditionPhrase.restate (hb : w.BindsSql) {c : Condition}
    (h : ConditionPhrase v ts c rest) (hf : Free w c.stored) :
    ConditionPhrase w (c.sqlTokens ++ us) c us := by
  have hfo : Free w c.operand.stored := fun t ht => hf t (List.mem_cons_of_mem _ ht)
  cases h with
  | symbol hn hs =>
    simp only [Condition.sqlTokens, sqlTokens_of_symbolic hs]
    exact .symbol hn hs
  | is hn _ _ ho =>
    obtain ⟨ho, hr⟩ := ho.restate hb hfo
    have h₁ : w.resolve "IS" = some .is := hb.resolve (by decide)
    refine .is hn (.word h₁ (.absent ?_)) ?_ ho
    · rcases hr with hr | hr <;> simp [hr]
    · rcases hr with hr | hr <;> simp [hr]
  | isNot hn _ _ ho =>
    obtain ⟨ho, hr⟩ := ho.restate hb hfo
    exact conditionPhrase_isNot hb hn ho hr
  | notIs hn _ _ ho =>
    obtain ⟨ho, hr⟩ := ho.restate hb hfo
    exact conditionPhrase_isNot hb hn ho hr

theorem conditionTokens_head {cs : List Condition} {ks : List Connective}
    (hf : Free w (cs.flatMap Condition.stored)) :
    Free w (conditionTokens cs ks).head?.toList := by
  cases cs with
  | nil => simp [Free, conditionTokens]
  | cons c cs =>
    have hc : w.resolve c.field = none := hf c.field (by simp [Condition.stored])
    simpa [Free, conditionTokens, Condition.sqlTokens] using hc

theorem Conditions.restate (hb : w.BindsSql) {cs : List Condition} {ks : List Connective}
    (h : Conditions v ts cs ks) (hf : Free w (cs.flatMap Condition.stored)) :
    Conditions w (conditionTokens cs ks) cs ks := by
  induction h with
  | last h => exact .last (h.restate hb (by simpa using hf))
  | @more _ _ _ c cs k ks h _ hs ih =>
    rw [List.flatMap_cons] at hf
    obtain ⟨hc, hcs⟩ := List.forall_mem_append.mp hf
    have hk : w.resolve k.text = some (connectiveOperation k) := by
      cases k
      · exact hb.resolve (by decide)
      · exact hb.resolve (by decide)
    rw [hs.tokens_cons]
    exact .more (h.restate hb hc) (keyword_of_free hk (conditionTokens_head hcs)) (ih hcs)

theorem Where.restate (hb : w.BindsSql) {cs : List Condition} {ks : List Connective}
    (h : Where v ts cs ks) (hf : Free w (cs.flatMap Condition.stored)) :
    Where w (whereTokens cs ks) cs ks := by
  cases h with
  | absent => exact .absent
  | present _ h =>
    have hk : w.resolve "WHERE" = some .where := hb.resolve (by decide)
    rw [h.whereTokens_eq]
    exact .present (keyword_of_free hk (conditionTokens_head hf)) (h.restate hb hf)

theorem Assignment.names {column value : String} (h : Assignment v ts column value rest) :
    IsName column ∧ IsName value := by
  cases h with
  | symbol hc hv => exact ⟨hc, hv⟩
  | keyword hc _ hv => exact ⟨hc, hv⟩

theorem Assignments.restate {columns values : List String}
    (h : Assignments v ts columns values rest) :
    Assignments w (assignmentTokens (columns.zip values) ++ us) columns values us := by
  induction h with
  | last h => exact .last (.symbol h.names.1 h.names.2)
  | more h hs ih =>
    rw [List.zip_cons_cons, hs.tokens_cons]
    exact .more (.symbol h.names.1 h.names.2) ih

theorem assignmentTokens_head {columns values : List String}
    (h : Assignments v ts columns values rest) (hf : Free w columns) :
    Free w (assignmentTokens (columns.zip values) ++ us).head?.toList := by
  cases h with
  | last => simpa [Free, assignmentTokens, separated] using hf
  | @more column _ _ _ _ _ _ h hs =>
    rw [List.zip_cons_cons, hs.tokens_cons]
    simpa [Free] using hf column (by simp)

theorem InsertColumns.names_of {ns : List String} (h : InsertColumns v ts ns rest) :
    ∀ n ∈ ns, IsName n := by
  cases h with
  | none => simp
  | enclosed h => exact h.all_ok
  | bare h => exact fun n hn => (h.all_ok n hn).1

theorem InsertValues.names_of {ns : List String} (h : InsertValues ts ns) :
    ∀ n ∈ ns, IsName n := by
  cases h with
  | enclosed h => exact h.all_ok
  | bare h => exact h.all_ok

theorem InsertColumns.restate {columns : List String} (h : InsertColumns v ts columns rest) :
    InsertColumns w (insertColumnTokens columns ++ us) columns us := by
  cases hc : columns with
  | nil => exact .none
  | cons t ns =>
    have hok := h.names_of
    rw [hc] at hok
    have hl : NameList IsName (nameTokens (t :: ns) ++ ")" :: us) (t :: ns) (")" :: us) :=
      nameList_tokens (by simp) hok
    simpa [insertColumnTokens] using InsertColumns.enclosed hl

theorem InsertValues.restate {values : List String} (h : InsertValues ts values) :
    InsertValues ("(" :: (nameTokens values ++ [")"])) values :=
  .enclosed (nameList_tokens h.ne_nil h.names_of)

/-- The SQL tokens of a statement are a statement for the same query. -/
theorem Statement.restate (hr : w.Reachable) (hb : w.BindsSql) {q : Query}
    (h : Statement v ts q) (hf : Free w q.stored) : Statement w q.sqlTokens q := by
  simp only [Free, Query.stored, List.forall_mem_append] at hf
  obtain ⟨⟨⟨⟨hft, hfc⟩, -⟩, -⟩, hfw⟩ := hf
  cases h with
  | @select table _ _ _ _ _ _ _ _ _ _ hc _ ht hj hw =>
    have hs : w.resolve "SELECT" = some .select := hb.resolve (by decide)
    have hfrom : w.resolve "FROM" = some .from := hb.resolve (by decide)
    refine .select (keyword_of_free hs ?_) (hc.restate hfc) (keyword_of_free hfrom ?_) ht
      (hj.restate hb) (hw.restate hb hfw)
    · rw [nameTokens_head hc.ne_nil]
      exact fun t h => hfc t (List.mem_of_mem_head? (by simpa using h))
    · exact hft
  | insert _ ht hc _ hs hn =>
    have h₁ : w.resolve "INSERT" = some .insert := hb.resolve (by decide)
    have h₂ : w.resolve "INTO" = some .insert := hb.resolve (by decide)
    have h₃ : w.resolve "VALUES" = some .values := hb.resolve (by decide)
    have h₄ : w.resolve "(" = none := hr.resolve_reserved (by decide)
    exact .insert (.word h₁ (.present h₂)) ht hc.restate
      (keyword_of_free h₃ (by simpa [Free] using h₄)) hs.restate hn
  | update _ ht _ ha hw =>
    have h₁ : w.resolve "UPDATE" = some .update := hb.resolve (by decide)
    have h₂ : w.resolve "SET" = some .set := hb.resolve (by decide)
    exact .update (keyword_of_free h₁ hft) ht (keyword_of_free h₂ (assignmentTokens_head ha hfc))
      ha.restate (hw.restate hb hfw)
  | delete _ _ ht hw =>
    have h₁ : w.resolve "DELETE" = some .delete := hb.resolve (by decide)
    have h₂ : w.resolve "FROM" = some .from := hb.resolve (by decide)
    exact .delete (.word h₁ (.absent (by simp [h₂]))) (keyword_of_free h₂ hft) ht
      (hw.restate hb hfw)
  | @control k _ hc _ =>
    cases k with
    | beginTransaction =>
      have h₁ : w.resolve "START" = some .beginTransaction := hb.resolve (by decide)
      have h₂ : w.resolve "TRANSACTION" = some .beginTransaction := hb.resolve (by decide)
      exact .control hc (.word h₁ (.present h₂))
    | commit =>
      have h₁ : w.resolve "COMMIT" = some .commit := hb.resolve (by decide)
      exact .control hc (keyword_of_free h₁ (by simp [Free]))
    | rollback =>
      have h₁ : w.resolve "ROLLBACK" = some .rollback := hb.resolve (by decide)
      exact .control hc (keyword_of_free h₁ (by simp [Free]))
    | _ => cases hc

end Grammar

/-- A query that was read from some text and whose tokens mean nothing in `w`. In an INSERT no
value lacks its closing mark, since a parenthesis is written behind the values. -/
structure Query.Transparent (w : Vocabulary) (q : Query) : Prop where
  read : ∃ (v : Vocabulary) (text : String), v.read text = .ok q
  free : ∀ t ∈ q.stored, w.isKeyword t = false
  closed : q.kind = .insert → ∀ t ∈ q.values, ¬ Token.IsUnterminated t.toList

theorem Query.Transparent.read_toSql {w : Vocabulary} (hw : w.Reachable) (hb : w.BindsSql)
    {q : Query} (h : q.Transparent w) : w.read q.toSql = .ok q := by
  obtain ⟨v, text, hr⟩ := h.read
  have hf : Grammar.Free w q.stored := by
    intro t ht
    simpa [Vocabulary.isKeyword] using h.free t ht
  apply Reader.readTokens_of_statement hw
  rw [tokenize_toSql hr h.closed]
  exact (Reader.statement_of_readTokens hr).restate hw hb hf

/-- The SQL text of a query loses nothing: it is read back as the query, and so no other query
has the same text. -/
theorem Vocabulary.read_toSql_eq_self (w : Vocabulary) (hw : w.Reachable) (hb : w.BindsSql) :
    (∀ q : Query, q.Transparent w → w.read q.toSql = .ok q) ∧
      ∀ q q' : Query, q.Transparent w → q'.Transparent w → q.toSql = q'.toSql → q = q' := by
  constructor
  · intro q hq
    exact hq.read_toSql hw hb
  · intro q q' hq hq' he
    have h := hq.read_toSql hw hb
    rw [he, hq'.read_toSql hw hb] at h
    cases h
    rfl

/-- The words of SQL and no others. -/
def Vocabulary.sql : Vocabulary := ofGroups sqlGroups

theorem Vocabulary.sql_reachable : Vocabulary.sql.Reachable := by
  have h : (Vocabulary.empty.extendAll sqlGroups).toOption = some Vocabulary.sql := by
    decide
  cases he : Vocabulary.empty.extendAll sqlGroups with
  | ok v =>
    rw [he] at h
    cases h
    exact .extendAll .empty he
  | error e =>
    rw [he] at h
    cases h

theorem Vocabulary.sql_bindsSql : Vocabulary.sql.BindsSql := by
  unfold BindsSql
  decide

/-- A join, a quoted value with a comma in it and a test for NULL. -/
def ordersQuery : Query :=
  { kind := .select, table := some "users", columns := ["name", "age"], joined := ["orders"],
    conditions := [⟨"city", .equal, .literal "'A, B'"⟩, ⟨"age", .isNot, .null⟩],
    connectives := [.and] }

theorem read_ordersQuery : Vocabulary.standard.read
    "tralalero name age lirili users boneca orders patapim city = 'A, B' camelo age zibra girafa" =
      .ok ordersQuery := by
  have ht : tokenize
      "tralalero name age lirili users boneca orders patapim city = 'A, B' camelo age zibra girafa" =
      ["tralalero", "name", "age", "lirili", "users", "boneca", "orders", "patapim", "city", "=",
        "'A, B'", "camelo", "age", "zibra", "girafa"] := by
    decide +kernel
  have hv := Vocabulary.standard_resolve [("tralalero", some .select), ("name", none),
    ("age", none), ("lirili", some .from), ("users", none), ("boneca", some .join),
    ("orders", none), ("patapim", some .where), ("city", none), ("camelo", some .and),
    ("zibra", some .not), ("girafa", some .null)] (by decide)
  simp only [List.forall_mem_cons] at hv
  obtain ⟨h1, h2, h3, h4, h5, h6, h7, h8, h9, h10, h11, h12, -⟩ := hv
  have hc : Grammar.ConditionPhrase Vocabulary.standard
      ["city", "=", "'A, B'", "camelo", "age", "zibra", "girafa"]
      ⟨"city", .equal, .literal "'A, B'"⟩ ["camelo", "age", "zibra", "girafa"] :=
    .symbol (c := .equal) (by decide) (by decide)
  have hn : Grammar.ConditionPhrase Vocabulary.standard ["age", "zibra", "girafa"]
      ⟨"age", .isNot, .null⟩ [] :=
    .notIs (by decide) (.word h11 (.absent (by simp [h12]))) (.absent (by simp [h12])) (.null h12)
  have hw : Grammar.Conditions Vocabulary.standard
      ["city", "=", "'A, B'", "camelo", "age", "zibra", "girafa"]
      ordersQuery.conditions [.and] :=
    .more hc (.word h10 (.absent (by simp [h3]))) (.last hn)
  apply Reader.readTokens_of_statement .standard
  rw [ht]
  exact .select (.word h1 (.absent (by simp [h2]))) (.names (by decide) (by simp [h2])
    (.first ⟨by decide, by simp [h2]⟩ (.plain ⟨by decide, by simp [h3]⟩ .none)))
    (.word h4 (.absent (by simp [h5]))) (by decide)
    (.table (.word h6 (.absent (by simp [h7]))) (by decide) .none)
    (.present (.word h8 (.absent (by simp [h9]))) hw)

theorem sql_reads_ordersQuery : Vocabulary.sql.Reachable ∧ Vocabulary.sql.BindsSql ∧
    ordersQuery.Transparent Vocabulary.sql ∧
    ordersQuery.toSql =
      "SELECT name, age FROM users INNER JOIN orders WHERE city = 'A, B' AND age IS NOT NULL" ∧
    Vocabulary.sql.read ordersQuery.toSql = .ok ordersQuery := by
  have hq : ordersQuery.Transparent Vocabulary.sql := by
    refine ⟨⟨_, _, read_ordersQuery⟩, by decide, ?_⟩
    intro hk
    cases hk
  exact ⟨Vocabulary.sql_reachable, Vocabulary.sql_bindsSql, hq, by decide,
    (Vocabulary.read_toSql_eq_self _ Vocabulary.sql_reachable Vocabulary.sql_bindsSql).1 _ hq⟩

end SlangSql
