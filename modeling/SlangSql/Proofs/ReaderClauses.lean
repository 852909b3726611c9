import SlangSql.Proofs.ReaderRun
import SlangSql.Proofs.VocabularyReach

/-!
# Runs of the reader through the clauses of a statement

Each clause is taken apart twice. What the reader accepts is a clause of the
grammar, over any vocabulary. What the grammar derives is accepted, over a
vocabulary that can arise: there no symbol is an alias, so the order in which
the reader asks its questions does not matter.
-/

set_option autoImplicit false

namespace SlangSql.Reader
open Grammar

variable {v : Vocabulary} {q q' : Query} {ts : List String}

/-! ## Conditions -/

theorem nullTest_iff (t : String) (c : Comparison) (o : Operand) (hc : c.isNullTest = true) :
    NullTest v t o ↔ o = operandOf v c t := by
  unfold operandOf
  by_cases ht : v.resolve t = some .null
  · rw [if_pos (by simp [hc, isAliasOf_iff, ht])]
    constructor
    · intro h
      cases h with
      | null => rfl
      | literal hn => exact absurd ht hn
    · rintro rfl
      exact .null ht
  · rw [if_neg (by simp [hc, isAliasOf_iff, ht])]
    constructor
    · intro h
      cases h with
      | null hn => exact absurd hn ht
      | literal => rfl
    · rintro rfl
      exact .literal ht

theorem operandOf_symbolic (t : String) {c : Comparison} (hc : c ∈ Comparison.symbolic) :
    operandOf v c t = .literal t := by
  have hn : c.isNullTest = false := by
    revert hc
    cases c <;> decide
  simp [operandOf, hn]

theorem reads_operand (field : String) (c : Comparison) :
    Reads v (.operand field c) q ts q' ↔ ∃ t rest, ts = t :: rest ∧
      Reads v .afterCondition (q.pushCondition ⟨field, c, operandOf v c t⟩) rest q' := by
  cases ts with
  | nil => simp [not_reads_nil (s := .operand field c) rfl]
  | cons t ts =>
    rw [reads_cons, step]
    constructor
    · intro h
      exact ⟨t, ts, rfl, h⟩
    · rintro ⟨t', rest, ht, h⟩
      cases ht
      exact h

theorem reads_negation (field : String) :
    Reads v (.negation field) q ts q' ↔
      (∃ rest, Keyword v .not ts rest ∧ Reads v (.operand field .isNot) q rest q') ∨
      (∀ t ∈ ts.head?, v.resolve t ≠ some .not) ∧ Reads v (.operand field .is) q ts q' := by
  cases ts with
  | nil => simp [not_reads_nil (s := .negation field) rfl, reads_operand]
  | cons t ts =>
    rw [reads_cons, step, negationStep]
    by_cases ht : v.resolve t = some .not
    · rw [if_pos ((isAliasOf_iff t _).mpr ht)]
      simp [reads_keywordTail, ht]
    · rw [if_neg (mt (isAliasOf_iff t _).mp ht)]
      simp [ht]

theorem ofSymbol?_eq_some_iff (t : String) (c : Comparison) :
    Comparison.ofSymbol? t = some c ↔ c ∈ Comparison.symbolic ∧ c.text = t := by
  constructor
  · intro h
    exact ⟨List.mem_of_find?_eq_some h, by simpa using List.find?_some h⟩
  · rintro ⟨hc, rfl⟩
    revert hc
    cases c <;> decide

/-- A symbol is tried first, then the words for IS and NOT. -/
theorem reads_comparison_cons (field t : String) :
    Reads v (.comparison field) q (t :: ts) q' ↔
      (∃ c, Comparison.ofSymbol? t = some c ∧ Reads v (.operand field c) q ts q') ∨
      Comparison.ofSymbol? t = none ∧
        (v.resolve t = some .is ∧ Reads v (.keywordTail .is (.negation field)) q ts q' ∨
        v.resolve t = some .not ∧
          Reads v (.keywordTail .not (.keywordTail .is (.operand field .isNot))) q ts q') := by
  rw [reads_cons, step, comparisonStep]
  cases hs : Comparison.ofSymbol? t with
  | some c => simp
  | none =>
    by_cases hi : v.resolve t = some .is
    · simp [isAliasOf_iff, hi]
    · by_cases hn : v.resolve t = some .not
      · simp [isAliasOf_iff, hn]
      · simp [isAliasOf_iff, hi, hn, unexpected]

theorem reads_field :
    Reads v .field q ts q' ↔ ∃ field t rest, ts = field :: t :: rest ∧ IsName field ∧
      Reads v (.comparison field) q (t :: rest) q' := by
  cases ts with
  | nil => simp [not_reads_nil (s := .field) rfl]
  | cons field ts =>
    rw [reads_cons, step]
    by_cases hf : IsName field
    · cases ts with
      | nil => simp [isPunctuation_iff, hf, not_reads_nil (s := .comparison field) rfl]
      | cons t ts => simp [isPunctuation_iff, hf, and_assoc]
    · simp [isPunctuation_iff, hf, unexpected, and_assoc]

theorem condition_of_reads (h : Reads v .field q ts q') :
    ∃ c rest, ConditionPhrase v ts c rest ∧
      Reads v .afterCondition (q.pushCondition c) rest q' := by
  obtain ⟨field, t, ts, rfl, hf, h⟩ := reads_field.mp h
  rcases (reads_comparison_cons field t).mp h with ⟨c, hc, ho⟩ | ⟨-, ⟨ht, h⟩ | ⟨ht, h⟩⟩
  · obtain ⟨hs, rfl⟩ := (ofSymbol?_eq_some_iff t c).mp hc
    obtain ⟨value, rest, rfl, hr⟩ := (reads_operand field c).mp ho
    rw [operandOf_symbolic value hs] at hr
    exact ⟨_, rest, .symbol hf hs, hr⟩
  · obtain ⟨ts', hi, h⟩ := (reads_keywordTail .is _).mp h
    rcases (reads_negation field).mp h with ⟨ts'', hn, h⟩ | ⟨hn, h⟩
    · obtain ⟨value, rest, rfl, hr⟩ := (reads_operand field .isNot).mp h
      exact ⟨_, rest, .isNot hf (.word ht hi) hn ((nullTest_iff value .isNot _ rfl).mpr rfl), hr⟩
    · obtain ⟨value, rest, rfl, hr⟩ := (reads_operand field .is).mp h
      exact ⟨_, rest, .is hf (.word ht hi) (hn value rfl)
        ((nullTest_iff value .is _ rfl).mpr rfl), hr⟩
  · obtain ⟨ts', hn, h⟩ := (reads_keywordTail .not _).mp h
    obtain ⟨ts'', hi, h⟩ := (reads_keywordTail .is _).mp h
    obtain ⟨value, rest, rfl, hr⟩ := (reads_operand field .isNot).mp h
    exact ⟨_, rest, .notIs hf (.word ht hn) hi ((nullTest_iff value .isNot _ rfl).mpr rfl), hr⟩

theorem ofSymbol?_eq_none_of_alias (hv : v.Reachable) {t : String} {op : Operation}
    (ht : v.resolve t = some op) : Comparison.ofSymbol? t = none := by
  cases hs : Comparison.ofSymbol? t with
  | none => rfl
  | some c =>
    obtain ⟨hc, rfl⟩ := (ofSymbol?_eq_some_iff t c).mp hs
    have hr : c.text ∈ Vocabulary.reserved := by
      revert hc
      cases c <;> decide
    rw [hv.resolve_reserved hr] at ht
    cases ht

theorem reads_of_condition (hv : v.Reachable) {c : Condition} {rest : List String}
    (hc : ConditionPhrase v ts c rest)
    (h : Reads v .afterCondition (q.pushCondition c) rest q') : Reads v .field q ts q' := by
  cases hc with
  | @symbol field value rest c hf hs =>
    refine reads_field.mpr ⟨field, c.text, value :: rest, rfl, hf, ?_⟩
    refine (reads_comparison_cons field c.text).mpr (Or.inl ⟨c, ?_, ?_⟩)
    · exact (ofSymbol?_eq_some_iff c.text c).mpr ⟨hs, rfl⟩
    · exact (reads_operand field c).mpr ⟨value, rest, rfl, by rwa [operandOf_symbolic value hs]⟩
  | @is field value ts rest o hf hi hn ho =>
    obtain ⟨ht, hr⟩ := hi
    rw [(nullTest_iff value .is o rfl).mp ho] at h
    refine reads_field.mpr ⟨field, _, _, rfl, hf, (reads_comparison_cons field _).mpr ?_⟩
    refine Or.inr ⟨ofSymbol?_eq_none_of_alias hv ht, Or.inl ⟨ht, ?_⟩⟩
    refine (reads_keywordTail .is _).mpr ⟨_, hr, (reads_negation field).mpr (Or.inr ⟨?_, ?_⟩)⟩
    · simpa using hn
    · exact (reads_operand field .is).mpr ⟨value, rest, rfl, h⟩
  | @isNot field value ts ts' rest o hf hi hn ho =>
    obtain ⟨ht, hr⟩ := hi
    rw [(nullTest_iff value .isNot o rfl).mp ho] at h
    refine reads_field.mpr ⟨field, _, _, rfl, hf, (reads_comparison_cons field _).mpr ?_⟩
    refine Or.inr ⟨ofSymbol?_eq_none_of_alias hv ht, Or.inl ⟨ht, ?_⟩⟩
    refine (reads_keywordTail .is _).mpr ⟨_, hr, (reads_negation field).mpr (Or.inl ⟨_, hn, ?_⟩)⟩
    exact (reads_operand field .isNot).mpr ⟨value, rest, rfl, h⟩
  | @notIs field value ts ts' rest o hf hn hi ho =>
    obtain ⟨ht, hr⟩ := hn
    rw [(nullTest_iff value .isNot o rfl).mp ho] at h
    refine reads_field.mpr ⟨field, _, _, rfl, hf, (reads_comparison_cons field _).mpr ?_⟩
    refine Or.inr ⟨ofSymbol?_eq_none_of_alias hv ht, Or.inr ⟨ht, ?_⟩⟩
    refine (reads_keywordTail .not _).mpr ⟨_, hr, (reads_keywordTail .is _).mpr ⟨_, hi, ?_⟩⟩
    exact (reads_operand field .isNot).mpr ⟨value, rest, rfl, h⟩

theorem reads_afterCondition :
    Reads v .afterCondition q ts q' ↔ ts = [] ∧ q' = q ∨
      ∃ k rest, Keyword v (connectiveOperation k) ts rest ∧
        Reads v .field (q.pushConnective k) rest q' := by
  cases ts with
  | nil => simp [reads_nil, missing?]
  | cons t ts =>
    rw [reads_cons, step, afterConditionStep]
    -- A token stands for one operation at most, so the two questions exclude each other.
    by_cases ha : v.resolve t = some .and
    · rw [if_pos ((isAliasOf_iff t _).mpr ha)]
      simp only [reads_keywordTail]
      constructor
      · rintro ⟨rest, hr, h⟩
        exact Or.inr ⟨.and, rest, .word ha hr, h⟩
      · rintro (⟨hn, -⟩ | ⟨k, rest, ⟨ht, hr⟩, h⟩)
        · cases hn
        · cases k with
          | and => exact ⟨rest, hr, h⟩
          | or => simp [ha, connectiveOperation] at ht
    · by_cases ho : v.resolve t = some .or
      · rw [if_neg (mt (isAliasOf_iff t _).mp ha), if_pos ((isAliasOf_iff t _).mpr ho)]
        simp only [reads_keywordTail]
        constructor
        · rintro ⟨rest, hr, h⟩
          exact Or.inr ⟨.or, rest, .word ho hr, h⟩
        · rintro (⟨hn, -⟩ | ⟨k, rest, ⟨ht, hr⟩, h⟩)
          · cases hn
          · cases k with
            | and => exact absurd ht ha
            | or => exact ⟨rest, hr, h⟩
      · simp only [isAliasOf_iff, ha, ho, if_false, unexpected, false_iff]
        rintro (⟨hn, -⟩ | ⟨k, rest, ⟨ht, -⟩, -⟩)
        · cases hn
        · cases k with
          | and => exact ha ht
          | or => exact ho ht

/-- The query with the conditions and connectives of a clause behind its own. -/
def addConditions (q : Query) (cs : List Condition) (ks : List Connective) : Query :=
  { q with conditions := q.conditions ++ cs, connectives := q.connectives ++ ks }

theorem addConditions_cons (c : Condition) (cs : List Condition) (k : Connective)
    (ks : List Connective) :
    addConditions ((q.pushCondition c).pushConnective k) cs ks =
      addConditions q (c :: cs) (k :: ks) := by
  simp [addConditions, Query.pushCondition, Query.pushConnective]

theorem addConditions_last (c : Condition) : addConditions q [c] [] = q.pushCondition c := by
  simp [addConditions, Query.pushCondition]

theorem conditions_of_reads (h : Reads v .field q ts q') :
    ∃ cs ks, Conditions v ts cs ks ∧ q' = addConditions q cs ks := by
  induction hl : ts.length using Nat.strongRecOn generalizing ts q with
  | ind n ih =>
    obtain ⟨c, rest, hc, h⟩ := condition_of_reads h
    rcases reads_afterCondition.mp h with ⟨rfl, rfl⟩ | ⟨k, rest', hk, hr⟩
    · exact ⟨[c], [], .last hc, (addConditions_last c).symm⟩
    · have hlt : rest'.length < n := by
        have := hc.length_lt
        have := hk.length_lt
        omega
      obtain ⟨cs, ks, hs, rfl⟩ := ih _ hlt hr rfl
      exact ⟨c :: cs, k :: ks, .more hc hk hs, addConditions_cons c cs k ks⟩

theorem reads_of_conditions (hv : v.Reachable) {cs : List Condition} {ks : List Connective}
    (h : Conditions v ts cs ks) : Reads v .field q ts (addConditions q cs ks) := by
  induction h generalizing q with
  | @last ts c hc =>
    refine reads_of_condition hv hc (reads_afterCondition.mpr (Or.inl ⟨rfl, ?_⟩))
    exact addConditions_last c
  | @more ts ts' ts'' c cs k ks hc hk hs ih =>
    refine reads_of_condition hv hc (reads_afterCondition.mpr (Or.inr ⟨k, ts'', hk, ?_⟩))
    rw [← addConditions_cons]
    exact ih

theorem reads_whereWord (t : String) (ht : v.resolve t = some .where) :
    Reads v .conditions q ts q' ↔ ∃ rest, Keyword v .where (t :: ts) rest ∧
      Reads v .field q rest q' := by
  simp [State.conditions, reads_keywordTail, ht]

/-- What the reader accepts at the end of a statement without more joins or assignments. -/
def ReadsWhere (v : Vocabulary) (q : Query) (ts : List String) (q' : Query) : Prop :=
  ts = [] ∧ q' = q ∨ ∃ rest, Keyword v .where ts rest ∧ Reads v .field q rest q'

theorem where_of_reads (h : ReadsWhere v q ts q') :
    ∃ cs ks, Where v ts cs ks ∧ q' = addConditions q cs ks := by
  rcases h with ⟨rfl, rfl⟩ | ⟨rest, hk, h⟩
  · exact ⟨[], [], .absent, by simp [addConditions]⟩
  · obtain ⟨cs, ks, hc, hq⟩ := conditions_of_reads h
    exact ⟨cs, ks, .present hk hc, hq⟩

theorem readsWhere_of_where (hv : v.Reachable) {cs : List Condition} {ks : List Connective}
    (h : Where v ts cs ks) : ReadsWhere v q ts (addConditions q cs ks) := by
  cases h with
  | absent => exact Or.inl ⟨rfl, by simp [addConditions]⟩
  | present hk hc => exact Or.inr ⟨_, hk, reads_of_conditions hv hc⟩

/-! ## Tables -/

theorem reads_afterTable :
    Reads v .afterTable q ts q' ↔ ReadsWhere v q ts q' ∨ q.kind = .select ∧
      ∃ t rest, Keyword v .join ts (t :: rest) ∧ IsName t ∧
        Reads v .afterTable (q.pushJoined t) rest q' := by
  cases ts with
  | nil => simp [reads_nil, missing?, ReadsWhere]
  | cons t ts =>
    rw [reads_cons, step, afterTableStep]
    by_cases hw : v.resolve t = some .where
    · simp [isAliasOf_iff, ReadsWhere, reads_whereWord t hw, hw]
    · rw [if_neg (mt (isAliasOf_iff t _).mp hw)]
      by_cases hk : q.kind = .select
      · by_cases hj : v.resolve t = some .join
        · rw [if_pos hk, if_pos ((isAliasOf_iff t _).mpr hj)]
          simp only [reads_keywordTail, reads_store, Slot.fill]
          constructor
          · rintro ⟨_, hr, n, rest, rfl, hn, h⟩
            exact Or.inr ⟨hk, n, rest, .word hj hr, hn, h⟩
          · rintro (hr | ⟨-, n, rest, ⟨-, hr⟩, hn, h⟩)
            · simp [ReadsWhere, hw] at hr
            · exact ⟨_, hr, n, rest, rfl, hn, h⟩
        · simp [isAliasOf_iff, ReadsWhere, hw, hk, hj, unexpected]
      · simp [ReadsWhere, hw, hk, unexpected]

theorem joins_of_reads (hk : q.kind = .select) (h : Reads v .afterTable q ts q') :
    ∃ ns rest, Joins v ts ns rest ∧ ReadsWhere v (fillAll .joined q ns) rest q' := by
  induction hl : ts.length using Nat.strongRecOn generalizing ts q with
  | ind n ih =>
    rcases reads_afterTable.mp h with h | ⟨-, t, rest, hj, ht, h⟩
    · exact ⟨[], ts, .none, h⟩
    · have hlt : rest.length < n := by
        have := hj.length_lt
        simp only [List.length_cons] at this
        omega
      obtain ⟨ns, rest', hs, h⟩ := ih _ hlt (q := q.pushJoined t) hk h rfl
      exact ⟨t :: ns, rest', .table hj ht hs, h⟩

theorem reads_of_joins {ns rest : List String} (hk : q.kind = .select) (hj : Joins v ts ns rest)
    (h : ReadsWhere v (fillAll .joined q ns) rest q') : Reads v .afterTable q ts q' := by
  induction hj generalizing q with
  | none => exact reads_afterTable.mpr (Or.inl h)
  | @table t ts ts' ns rest hj ht hs ih =>
    exact reads_afterTable.mpr (Or.inr ⟨hk, t, ts', hj, ht, ih hk h⟩)

theorem reads_fromTable :
    Reads v .fromTable q ts q' ↔ ∃ t rest, Keyword v .from ts (t :: rest) ∧ IsName t ∧
      Reads v .afterTable (q.setTable t) rest q' := by
  simp only [State.fromTable, reads_keyword, reads_store, Slot.fill]
  constructor
  · rintro ⟨_, hk, t, rest, rfl, ht, h⟩
    exact ⟨t, rest, hk, ht, h⟩
  · rintro ⟨t, rest, hk, ht, h⟩
    exact ⟨_, hk, t, rest, rfl, ht, h⟩

/-! ## Lists of columns and values -/

theorem isItem_keyword (op : Operation) : IsItem v (.keyword op) = IsNameBut v op := by
  funext t
  simp [IsItem, IsNameBut, Stop.matches, Vocabulary.isAliasOf]

theorem isItem_close : IsItem v (.symbol ")") = IsName := by
  funext t
  simp [IsItem, IsName, Stop.matches]

theorem isItem_end : IsItem v .endOfText = IsName := by
  funext t
  simp [IsItem, Stop.matches]

theorem Keyword.ends {op : Operation} {rest : List String} (h : Keyword v op ts rest) :
    Ends v (.keyword op) ts := by
  cases h with
  | word ht _ => exact (isAliasOf_iff _ op).mpr ht

theorem fits_column (n : Nat) : Fits .column q n := by
  simp [Fits]

theorem reads_selectList_cons (t : String) :
    Reads v .selectList q (t :: ts) q' ↔
      t = "*" ∧ Reads v .fromTable (q.pushColumn "*") ts q' ∨ t ≠ "*" ∧
        (v.resolve t = some .all ∧
          Reads v (.keywordTail .all .fromTable) (q.pushColumn "*") ts q' ∨
        v.resolve t ≠ some .all ∧
          Reads v (.item .column (.keyword .from) .fromTable) q (t :: ts) q') := by
  rw [reads_cons, step, selectListStep]
  by_cases hs : t = "*"
  · simp [hs]
  · by_cases ha : v.resolve t = some .all <;> simp [hs, ha, isAliasOf_iff]

theorem selectList_of_reads (h : Reads v .selectList q ts q') :
    ∃ cs rest, SelectList v ts cs rest ∧ Reads v .fromTable (fillAll .column q cs) rest q' := by
  cases ts with
  | nil => exact absurd h (not_reads_nil rfl)
  | cons t ts =>
    rcases (reads_selectList_cons t).mp h with ⟨rfl, hr⟩ | ⟨hs, ⟨ha, h⟩ | ⟨ha, h⟩⟩
    · exact ⟨["*"], ts, .star, hr⟩
    · obtain ⟨rest, hr, h⟩ := (reads_keywordTail .all _).mp h
      exact ⟨["*"], rest, .all (.word ha hr), h⟩
    · obtain ⟨ns, rest, hl, -, -, h⟩ := nameList_of_reads (by simp [ClosedBy]) h
      rw [isItem_keyword] at hl
      exact ⟨ns, rest, .names hs ha hl, h⟩

theorem reads_of_selectList (hv : v.Reachable) {cs rest : List String}
    (hs : SelectList v ts cs rest) (h : Reads v .fromTable (fillAll .column q cs) rest q') :
    Reads v .selectList q ts q' := by
  cases hs with
  | star => exact (reads_selectList_cons "*").mpr (Or.inl ⟨rfl, h⟩)
  | all hk =>
    obtain ⟨ht, hr⟩ := hk
    refine (reads_selectList_cons _).mpr (Or.inr ⟨?_, Or.inl ⟨ht, ?_⟩⟩)
    · rintro rfl
      simp [hv.resolve_reserved (t := "*") (by decide)] at ht
    · exact (reads_keywordTail .all _).mpr ⟨rest, hr, h⟩
  | names hne ha hl =>
    obtain ⟨_, _, hk, -⟩ := reads_fromTable.mp h
    refine (reads_selectList_cons _).mpr (Or.inr ⟨hne, Or.inr ⟨ha, ?_⟩⟩)
    rw [← isItem_keyword] at hl
    exact reads_of_nameList (hv.not_alias_of_reserved (by decide) _) (by simp [ClosedBy]) hl
      (Keyword.ends hk) (fits_column _) h

theorem reads_insertColumns_cons (t : String) :
    Reads v .insertColumns q (t :: ts) q' ↔
      t = "(" ∧
        Reads v (.item .column (.symbol ")") (.symbol ")" .valuesClause)) q ts q' ∨ t ≠ "(" ∧
        (v.resolve t = some .values ∧ Reads v .valuesClause q (t :: ts) q' ∨
        v.resolve t ≠ some .values ∧
          Reads v (.item .column (.keyword .values) .valuesClause) q (t :: ts) q') := by
  rw [reads_cons, step, insertColumnsStep]
  by_cases hs : t = "("
  · simp [hs]
  · by_cases ha : v.resolve t = some .values <;> simp [hs, ha, isAliasOf_iff]

theorem insertColumns_of_reads (h : Reads v .insertColumns q ts q') :
    ∃ cs rest, InsertColumns v ts cs rest ∧
      Reads v .valuesClause (fillAll .column q cs) rest q' := by
  cases ts with
  | nil => exact absurd h (not_reads_nil rfl)
  | cons t ts =>
    rcases (reads_insertColumns_cons t).mp h with ⟨rfl, hr⟩ | ⟨hs, ⟨ha, hr⟩ | ⟨ha, hr⟩⟩
    · obtain ⟨ns, rest, hl, -, -, hr⟩ := nameList_of_reads (by simp [ClosedBy]) hr
      obtain ⟨rest', rfl, hr'⟩ := (reads_symbol ")" _).mp hr
      rw [isItem_close] at hl
      exact ⟨ns, rest', .enclosed hl, hr'⟩
    · exact ⟨[], t :: ts, .none, hr⟩
    · obtain ⟨ns, rest, hl, -, -, hr⟩ := nameList_of_reads (by simp [ClosedBy]) hr
      rw [isItem_keyword] at hl
      exact ⟨ns, rest, .bare hl, hr⟩

theorem reads_of_insertColumns (hv : v.Reachable) {cs rest : List String}
    (hc : InsertColumns v ts cs rest) (h : Reads v .valuesClause (fillAll .column q cs) rest q') :
    Reads v .insertColumns q ts q' := by
  obtain ⟨_, hk, -⟩ := (reads_keyword .values _).mp h
  cases hc with
  | none =>
    obtain ⟨ht, -⟩ := hk
    refine (reads_insertColumns_cons _).mpr (Or.inr ⟨?_, Or.inl ⟨ht, h⟩⟩)
    rintro rfl
    simp [hv.resolve_reserved (t := "(") (by decide)] at ht
  | enclosed hl =>
    rw [← isItem_close (v := v)] at hl
    refine (reads_insertColumns_cons "(").mpr (Or.inl ⟨rfl, ?_⟩)
    exact reads_of_nameList (by simp [Stop.matches]) (by simp [ClosedBy]) hl
      (by simp [Ends, Stop.matches]) (fits_column _) ((reads_symbol ")" _).mpr ⟨rest, rfl, h⟩)
  | bare hl =>
    have hr : Reads v (.item .column (.keyword .values) .valuesClause) q ts q' :=
      reads_of_nameList (hv.not_alias_of_reserved (by decide) _) (by simp [ClosedBy])
        (by rwa [isItem_keyword]) (Keyword.ends hk) (fits_column _) h
    cases hl with
    | first ht _ => exact (reads_insertColumns_cons _).mpr (Or.inr ⟨ht.1.2.1, Or.inr ⟨ht.2, hr⟩⟩)

theorem reads_insertValues_cons (t : String) :
    Reads v .insertValues q (t :: ts) q' ↔
      t = "(" ∧ Reads v (.item .value (.symbol ")") (.symbol ")" .done)) q ts q' ∨
      t ≠ "(" ∧ Reads v (.item .value .endOfText .done) q (t :: ts) q' := by
  rw [reads_cons, step, insertValuesStep]
  by_cases hs : t = "(" <;> simp [hs]

theorem insertValues_of_reads (h : Reads v .insertValues q ts q') :
    ∃ xs, InsertValues ts xs ∧ Fits .value q xs.length ∧ q' = fillAll .value q xs := by
  cases ts with
  | nil => exact absurd h (not_reads_nil rfl)
  | cons t ts =>
    rcases (reads_insertValues_cons t).mp h with ⟨rfl, hr⟩ | ⟨hs, hr⟩
    · obtain ⟨ns, rest, hl, -, hf, hr⟩ := nameList_of_reads (by simp [ClosedBy]) hr
      obtain ⟨rest', rfl, hr'⟩ := (reads_symbol ")" _).mp hr
      obtain ⟨rfl, hq⟩ := reads_done.mp hr'
      rw [isItem_close] at hl
      exact ⟨ns, .enclosed hl, hf, hq⟩
    · obtain ⟨ns, rest, hl, -, hf, hr⟩ := nameList_of_reads (by simp [ClosedBy]) hr
      obtain ⟨rfl, hq⟩ := reads_done.mp hr
      rw [isItem_end] at hl
      exact ⟨ns, .bare hl, hf, hq⟩

theorem reads_of_insertValues {xs : List String} (hx : InsertValues ts xs)
    (hf : Fits .value q xs.length) : Reads v .insertValues q ts (fillAll .value q xs) := by
  cases hx with
  | enclosed hl =>
    rw [← isItem_close (v := v)] at hl
    refine (reads_insertValues_cons "(").mpr (Or.inl ⟨rfl, ?_⟩)
    exact reads_of_nameList (by simp [Stop.matches]) (by simp [ClosedBy]) hl
      (by simp [Ends, Stop.matches]) hf
      ((reads_symbol ")" _).mpr ⟨[], rfl, reads_done.mpr ⟨rfl, rfl⟩⟩)
  | bare hl =>
    have hi : NameList (IsItem v .endOfText) ts xs [] := by rwa [isItem_end]
    have hr : Reads v (.item .value .endOfText .done) q ts (fillAll .value q xs) :=
      reads_of_nameList rfl (by simp [ClosedBy]) hi rfl hf (reads_done.mpr ⟨rfl, rfl⟩)
    cases hl with
    | first ht _ => exact (reads_insertValues_cons _).mpr (Or.inr ⟨ht.2.1, hr⟩)

/-! ## Assignments -/

theorem reads_assignment_cons (t : String) :
    Reads v .assignment q (t :: ts) q' ↔ t = "=" ∧ Reads v .assignValue q ts q' ∨
      t ≠ "=" ∧ v.resolve t = some .setEqual ∧
        Reads v (.keywordTail .setEqual .assignValue) q ts q' := by
  rw [reads_cons, step, assignmentStep]
  by_cases hs : t = "="
  · simp [hs]
  · by_cases ha : v.resolve t = some .setEqual <;> simp [hs, ha, isAliasOf_iff, unexpected]

theorem assignment_of_reads (h : Reads v .assignColumn q ts q') :
    ∃ c x rest, Assignment v ts c x rest ∧
      Reads v .afterAssignment ((q.pushColumn c).pushValue x) rest q' := by
  obtain ⟨c, ts, rfl, hc, h⟩ := (reads_store .column _).mp h
  cases ts with
  | nil => exact absurd h (not_reads_nil rfl)
  | cons t ts =>
    rcases (reads_assignment_cons t).mp h with ⟨rfl, hr⟩ | ⟨-, ht, hr⟩
    · obtain ⟨x, rest, rfl, hx, hr⟩ := (reads_store .value _).mp hr
      exact ⟨c, x, rest, .symbol hc hx, hr⟩
    · obtain ⟨ts', hk, hr⟩ := (reads_keywordTail .setEqual _).mp hr
      obtain ⟨x, rest, rfl, hx, hr⟩ := (reads_store .value _).mp hr
      exact ⟨c, x, rest, .keyword hc (.word ht hk) hx, hr⟩

theorem reads_of_assignment (hv : v.Reachable) {c x : String} {rest : List String}
    (ha : Assignment v ts c x rest)
    (h : Reads v .afterAssignment ((q.pushColumn c).pushValue x) rest q') :
    Reads v .assignColumn q ts q' := by
  refine (reads_store .column _).mpr ?_
  cases ha with
  | symbol hc hx =>
    refine ⟨c, _, rfl, hc, (reads_assignment_cons "=").mpr (Or.inl ⟨rfl, ?_⟩)⟩
    exact (reads_store .value _).mpr ⟨x, rest, rfl, hx, h⟩
  | keyword hc hk hx =>
    obtain ⟨ht, hr⟩ := hk
    refine ⟨c, _, rfl, hc, (reads_assignment_cons _).mpr (Or.inr ⟨?_, ht, ?_⟩)⟩
    · rintro rfl
      simp [hv.resolve_reserved (t := "=") (by decide)] at ht
    · refine (reads_keywordTail .setEqual _).mpr ⟨_, hr, ?_⟩
      exact (reads_store .value _).mpr ⟨x, rest, rfl, hx, h⟩

theorem reads_afterAssignment :
    Reads v .afterAssignment q ts q' ↔
      (∃ rest, ts = "," :: rest ∧ Reads v .assignColumn q rest q') ∨
      ts.head? ≠ some "," ∧ ReadsWhere v q ts q' := by
  cases ts with
  | nil => simp [reads_nil, missing?, ReadsWhere]
  | cons t ts =>
    rw [reads_cons, step, afterAssignmentStep]
    by_cases hs : t = ","
    · simp [hs]
    · by_cases hw : v.resolve t = some .where
      · simp [hs, isAliasOf_iff, ReadsWhere, reads_whereWord t hw, hw]
      · simp [hs, isAliasOf_iff, ReadsWhere, hw, unexpected]

/-- Pairs of a column and a value may be stored one after the other. -/
theorem fillAll_pair (c x : String) (cs xs : List String) :
    fillAll .value (fillAll .column ((q.pushColumn c).pushValue x) cs) xs =
      fillAll .value (fillAll .column q (c :: cs)) (x :: xs) := by
  simp [fillAll_eq, Query.pushColumn, Query.pushValue]

theorem assignments_of_reads (h : Reads v .assignColumn q ts q') :
    ∃ cs xs rest, Assignments v ts cs xs rest ∧
      ReadsWhere v (fillAll .value (fillAll .column q cs) xs) rest q' := by
  induction hl : ts.length using Nat.strongRecOn generalizing ts q with
  | ind n ih =>
    obtain ⟨c, x, rest, ha, h⟩ := assignment_of_reads h
    rcases reads_afterAssignment.mp h with ⟨ts', rfl, hr⟩ | ⟨-, hr⟩
    · have hlt : ts'.length < n := by
        have := ha.length_lt
        simp only [List.length_cons] at this
        omega
      obtain ⟨cs, xs, rest', hs, hr⟩ := ih _ hlt hr rfl
      refine ⟨c :: cs, x :: xs, rest', .more ha hs, ?_⟩
      rwa [← fillAll_pair]
    · exact ⟨[c], [x], rest, .last ha, hr⟩

theorem reads_of_assignments (hv : v.Reachable) {cs xs rest : List String}
    (ha : Assignments v ts cs xs rest)
    (h : ReadsWhere v (fillAll .value (fillAll .column q cs) xs) rest q') :
    Reads v .assignColumn q ts q' := by
  induction ha generalizing q with
  | @last c x ts rest ha =>
    refine reads_of_assignment hv ha (reads_afterAssignment.mpr (Or.inr ⟨?_, h⟩))
    rcases h with ⟨rfl, -⟩ | ⟨_, ⟨ht, -⟩, -⟩
    · simp
    · rintro ⟨⟩
      simp [hv.resolve_reserved (t := ",") (by decide)] at ht
  | @more c x ts ts' cs xs rest ha hs ih =>
    refine reads_of_assignment hv ha (reads_afterAssignment.mpr (Or.inl ⟨ts', rfl, ih ?_⟩))
    rwa [fillAll_pair]

end SlangSql.Reader
