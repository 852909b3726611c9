import SlangSql.Proofs.ReaderClauses

/-!
# The reader and the grammar agree

What the reader accepts is a statement of the grammar, whatever the vocabulary,
and the query it builds is the one that the grammar denotes. Over a vocabulary
that can arise the converse holds as well, so that reading decides the grammar.
-/

set_option autoImplicit false

namespace SlangSql.Reader
open Grammar

variable {v : Vocabulary} {q : Query} {ts : List String}

theorem statementKind?_eq_some_iff (t : String) (k : StatementKind) :
    v.statementKind? t = some k ↔ v.resolve t = some k.operation := by
  have ho : ∀ op, StatementKind.ofOperation? op = some k ↔ op = k.operation := by
    intro op
    cases op <;> cases k <;> decide
  cases hr : v.resolve t with
  | none => simp [Vocabulary.statementKind?, hr]
  | some op => simp [Vocabulary.statementKind?, hr, ho]

theorem readTokens_cons (t : String) :
    v.readTokens (t :: ts) = match v.statementKind? t with
      | none => .error (.unsupportedStatement t)
      | some k =>
        conclude (feedAll v { kind := k } (.keywordTail k.operation (.entry k)) ts) := by
  rw [Vocabulary.readTokens]
  cases v.statementKind? t with
  | none => rfl
  | some k =>
    rcases feedAll v { kind := k } (.keywordTail k.operation (.entry k)) ts with e | ⟨s, q⟩
    · rfl
    · rfl

theorem readTokens_cons_eq_ok_iff (t : String) :
    v.readTokens (t :: ts) = .ok q ↔ ∃ k, v.statementKind? t = some k ∧
      Reads v (.keywordTail k.operation (.entry k)) { kind := k } ts q := by
  rw [readTokens_cons]
  cases v.statementKind? t with
  | none => simp
  | some k => simp [conclude_eq_ok_iff]

theorem readTokens_eq_ok_iff :
    v.readTokens ts = .ok q ↔ ∃ k rest, Keyword v k.operation ts rest ∧
      Reads v (.entry k) { kind := k } rest q := by
  cases ts with
  | nil => simp [Vocabulary.readTokens]
  | cons t ts =>
    simp only [readTokens_cons_eq_ok_iff, statementKind?_eq_some_iff, reads_keywordTail,
      keyword_cons]
    constructor
    · rintro ⟨k, ht, rest, hr, h⟩
      exact ⟨k, rest, ⟨ht, hr⟩, h⟩
    · rintro ⟨k, rest, ⟨ht, hr⟩, h⟩
      exact ⟨k, ht, rest, hr, h⟩

theorem statement_of_readTokens (h : v.readTokens ts = .ok q) : Statement v ts q := by
  obtain ⟨k, ts₁, hk, h⟩ := readTokens_eq_ok_iff.mp h
  cases k with
  | select =>
    obtain ⟨columns, ts₂, hc, h⟩ := selectList_of_reads h
    obtain ⟨table, ts₃, hf, ht, h⟩ := reads_fromTable.mp h
    rw [fillAll_eq] at h
    obtain ⟨joined, ts₄, hj, h⟩ := joins_of_reads rfl h
    obtain ⟨conditions, connectives, hw, rfl⟩ := where_of_reads h
    simpa [fillAll_eq, addConditions, Query.setTable] using Statement.select hk hc hf ht hj hw
  | insert =>
    obtain ⟨table, ts₂, rfl, ht, h⟩ := (reads_store .table _).mp h
    obtain ⟨columns, ts₃, hc, h⟩ := insertColumns_of_reads h
    obtain ⟨ts₄, hv, h⟩ := (reads_keyword .values _).mp h
    obtain ⟨values, hx, hf, rfl⟩ := insertValues_of_reads h
    have hn : columns = [] ∨ values.length = columns.length := by
      simpa [fillAll_eq, Fits, Slot.fill, Query.setTable] using hf
    simpa [fillAll_eq, Slot.fill, Query.setTable] using Statement.insert hk ht hc hv hx hn
  | update =>
    obtain ⟨table, ts₂, rfl, ht, h⟩ := (reads_store .table _).mp h
    obtain ⟨ts₃, hs, h⟩ := (reads_keyword .set _).mp h
    obtain ⟨columns, values, ts₄, ha, h⟩ := assignments_of_reads h
    obtain ⟨conditions, connectives, hw, rfl⟩ := where_of_reads h
    simpa [fillAll_eq, addConditions, Slot.fill, Query.setTable] using
      Statement.update hk ht hs ha hw
  | delete =>
    obtain ⟨table, ts₃, hf, ht, h⟩ := reads_fromTable.mp h
    rcases reads_afterTable.mp h with h | ⟨hs, -⟩
    · obtain ⟨conditions, connectives, hw, rfl⟩ := where_of_reads h
      simpa [addConditions, Query.setTable] using Statement.delete hk hf ht hw
    · cases hs
  | _ =>
    obtain ⟨rfl, rfl⟩ := reads_done.mp h
    exact .control rfl hk

theorem readTokens_of_statement (hv : v.Reachable) (h : Statement v ts q) :
    v.readTokens ts = .ok q := by
  rw [readTokens_eq_ok_iff]
  cases h with
  | @select table ts ts₁ ts₂ ts₃ ts₄ columns joined conditions connectives hk hc hf ht hj hw =>
    refine ⟨.select, ts₁, hk, reads_of_selectList hv hc ?_⟩
    refine reads_fromTable.mpr ⟨table, ts₃, hf, ht, reads_of_joins ?_ hj ?_⟩
    · simp [fillAll_eq, Query.setTable]
    · simpa [fillAll_eq, addConditions, Query.setTable] using readsWhere_of_where hv hw
        (q := { kind := .select, table := some table, columns := columns, joined := joined })
  | @insert table ts ts₁ ts₂ ts₃ columns values hk ht hc hw hs hn =>
    refine ⟨.insert, table :: ts₁, hk, (reads_store .table _).mpr ⟨table, ts₁, rfl, ht, ?_⟩⟩
    refine reads_of_insertColumns hv hc ((reads_keyword .values _).mpr ⟨ts₃, hw, ?_⟩)
    rw [fillAll_eq]
    have hf : Fits .value { kind := .insert, table := some table, columns := columns }
        values.length := by simpa [Fits] using hn
    simpa [fillAll_eq, Slot.fill, Query.setTable] using reads_of_insertValues hs hf
  | @update table ts ts₁ ts₂ ts₃ columns values conditions connectives hk ht hs ha hw =>
    refine ⟨.update, table :: ts₁, hk, (reads_store .table _).mpr ⟨table, ts₁, rfl, ht, ?_⟩⟩
    refine (reads_keyword .set _).mpr ⟨ts₂, hs, reads_of_assignments hv ha ?_⟩
    simpa [fillAll_eq, addConditions, Slot.fill, Query.setTable] using readsWhere_of_where hv hw
      (q := { kind := .update, table := some table, columns := columns, values := values })
  | @delete table ts ts₁ ts₂ conditions connectives hk hf ht hw =>
    refine ⟨.delete, ts₁, hk, reads_fromTable.mpr ⟨table, ts₂, hf, ht, ?_⟩⟩
    refine reads_afterTable.mpr (Or.inl ?_)
    simpa [addConditions, Query.setTable] using readsWhere_of_where hv hw
      (q := { kind := .delete, table := some table })
  | @control k ts hc hk =>
    have he : State.entry k = .done := by
      revert hc
      cases k <;> decide
    exact ⟨k, [], hk, by rw [he]; exact reads_done.mpr ⟨rfl, rfl⟩⟩

/-- Reading a text succeeds with a query if and only if the grammar derives that query from the
tokens of the text. -/
theorem read_eq_ok_iff_statement (v : Vocabulary) (hv : v.Reachable) (text : String) (q : Query) :
    v.read text = .ok q ↔ Statement v (tokenize text) q :=
  ⟨statement_of_readTokens, readTokens_of_statement hv⟩

/-- A doubled word for INSERT, columns without parentheses and values without a comma. -/
theorem read_standard_insert : Vocabulary.standard.Reachable ∧
    Vocabulary.standard.read
        "bombardiro Crocodilo users id, name trulimero (7 'Frulli, Frulla')" =
      .ok { kind := .insert, table := some "users", columns := ["id", "name"],
            values := ["7", "'Frulli, Frulla'"] } := by
  have ht : tokenize "bombardiro Crocodilo users id, name trulimero (7 'Frulli, Frulla')" =
      ["bombardiro", "Crocodilo", "users", "id", ",", "name", "trulimero", "(", "7",
        "'Frulli, Frulla'", ")"] := by
    -- behind a quote mark the splitting calls itself twice, and the kernel shares the two calls
    decide +kernel
  refine ⟨.standard, (read_eq_ok_iff_statement _ .standard _ _).mpr ?_⟩
  rw [ht]
  have hv := Vocabulary.standard_resolve [("bombardiro", some .insert),
    ("Crocodilo", some .insert), ("trulimero", some .values), ("(", none), ("id", none),
    ("name", none)] (by decide)
  simp only [List.forall_mem_cons] at hv
  obtain ⟨h1, h2, h3, h4, h5, h6, -⟩ := hv
  exact .insert (.word h1 (.present h2)) (by decide) (.bare (.first ⟨by decide, by simp [h5]⟩
    (.comma ⟨by decide, by simp [h6]⟩ .none))) (.word h3 (.absent (by simp [h4])))
    (.enclosed (.first (by decide) (.plain (by decide) .none))) (Or.inr rfl)

end SlangSql.Reader
