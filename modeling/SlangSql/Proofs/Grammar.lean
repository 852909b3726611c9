import SlangSql.Query
import SlangSql.Vocabulary

/-!
# The grammar of statements

A phrase is a relation between the tokens ahead of it, what it says, and the
tokens behind it. The clauses that may end a statement leave no tokens. Nothing
here mentions the states of the reader: the rules say which token sequences
are statements over a vocabulary, and which query each of them denotes.
-/

set_option autoImplicit false

namespace SlangSql.Grammar

/-- Any token but a punctuation mark can be a name. -/
def IsName (t : String) : Prop := t ≠ "," ∧ t ≠ "(" ∧ t ≠ ")"

instance (t : String) : Decidable (IsName t) :=
  inferInstanceAs (Decidable (t ≠ "," ∧ t ≠ "(" ∧ t ≠ ")"))

/-- A name that does not stand for `op`. -/
def IsNameBut (v : Vocabulary) (op : Operation) (t : String) : Prop :=
  IsName t ∧ v.resolve t ≠ some op

/-- One alias of `op` is passed over if it comes next. -/
inductive Optional (v : Vocabulary) (op : Operation) : List String → List String → Prop
  | absent {ts : List String} (h : ∀ t ∈ ts.head?, v.resolve t ≠ some op) : Optional v op ts ts
  | present {t : String} {rest : List String} (h : v.resolve t = some op) :
      Optional v op (t :: rest) rest

/-- An alias of `op`, and the next token too if it is again an alias of `op`. -/
inductive Keyword (v : Vocabulary) (op : Operation) : List String → List String → Prop
  | word {t : String} {ts rest : List String} (h : v.resolve t = some op)
      (hr : Optional v op ts rest) : Keyword v op (t :: ts) rest

@[simp] theorem keyword_nil (v : Vocabulary) (op : Operation) (rest : List String) :
    ¬ Keyword v op [] rest := by
  intro h
  cases h

@[simp] theorem keyword_cons (v : Vocabulary) (op : Operation) (t : String)
    (ts rest : List String) :
    Keyword v op (t :: ts) rest ↔ v.resolve t = some op ∧ Optional v op ts rest := by
  constructor
  · intro h
    cases h with
    | word ht hr => exact ⟨ht, hr⟩
  · rintro ⟨ht, hr⟩
    exact .word ht hr

theorem Keyword.length_lt {v : Vocabulary} {op : Operation} {ts rest : List String}
    (h : Keyword v op ts rest) : rest.length < ts.length := by
  cases h with
  | word _ hr => cases hr <;> simp only [List.length_cons] <;> omega

/-- Further names of a list, each perhaps after a comma. -/
inductive MoreNames (ok : String → Prop) : List String → List String → List String → Prop
  | none {rest : List String} : MoreNames ok rest [] rest
  | plain {t : String} {ts ns rest : List String} (h : ok t) (hs : MoreNames ok ts ns rest) :
      MoreNames ok (t :: ts) (t :: ns) rest
  | comma {t : String} {ts ns rest : List String} (h : ok t) (hs : MoreNames ok ts ns rest) :
      MoreNames ok ("," :: t :: ts) (t :: ns) rest

/-- One name or more. -/
inductive NameList (ok : String → Prop) : List String → List String → List String → Prop
  | first {t : String} {ts ns rest : List String} (h : ok t) (hs : MoreNames ok ts ns rest) :
      NameList ok (t :: ts) (t :: ns) rest

/-- The columns of a SELECT. -/
inductive SelectList (v : Vocabulary) : List String → List String → List String → Prop
  | star {rest : List String} : SelectList v ("*" :: rest) ["*"] rest
  | all {ts rest : List String} (h : Keyword v .all ts rest) : SelectList v ts ["*"] rest
  | names {t : String} {ts ns rest : List String} (hs : t ≠ "*") (ha : v.resolve t ≠ some .all)
      (h : NameList (IsNameBut v .from) (t :: ts) ns rest) : SelectList v (t :: ts) ns rest

inductive Joins (v : Vocabulary) : List String → List String → List String → Prop
  | none {rest : List String} : Joins v rest [] rest
  | table {t : String} {ts ts' ns rest : List String} (hk : Keyword v .join ts (t :: ts'))
      (ht : IsName t) (h : Joins v ts' ns rest) : Joins v ts (t :: ns) rest

/-- What a token means on the right of IS and IS NOT. -/
inductive NullTest (v : Vocabulary) (t : String) : Operand → Prop
  | null (h : v.resolve t = some .null) : NullTest v t .null
  | literal (h : v.resolve t ≠ some .null) : NullTest v t (.literal t)

/-- A field, an operator and a value. The value may be any token. -/
inductive ConditionPhrase (v : Vocabulary) : List String → Condition → List String → Prop
  | symbol {field value : String} {rest : List String} {c : Comparison} (hf : IsName field)
      (hc : c ∈ Comparison.symbolic) :
      ConditionPhrase v (field :: c.text :: value :: rest) ⟨field, c, .literal value⟩ rest
  | is {field value : String} {ts rest : List String} {o : Operand} (hf : IsName field)
      (hi : Keyword v .is ts (value :: rest)) (hn : v.resolve value ≠ some .not)
      (ho : NullTest v value o) : ConditionPhrase v (field :: ts) ⟨field, .is, o⟩ rest
  | isNot {field value : String} {ts ts' rest : List String} {o : Operand} (hf : IsName field)
      (hi : Keyword v .is ts ts') (hn : Keyword v .not ts' (value :: rest))
      (ho : NullTest v value o) : ConditionPhrase v (field :: ts) ⟨field, .isNot, o⟩ rest
  | notIs {field value : String} {ts ts' rest : List String} {o : Operand} (hf : IsName field)
      (hn : Keyword v .not ts ts') (hi : Optional v .is ts' (value :: rest))
      (ho : NullTest v value o) : ConditionPhrase v (field :: ts) ⟨field, .isNot, o⟩ rest

theorem ConditionPhrase.length_lt {v : Vocabulary} {ts rest : List String} {c : Condition}
    (h : ConditionPhrase v ts c rest) : rest.length < ts.length := by
  cases h with
  | symbol => simp; omega
  | is _ hi =>
    have h1 := hi.length_lt
    simp only [List.length_cons] at h1 ⊢
    omega
  | isNot _ hi hn =>
    have h1 := hi.length_lt
    have h2 := hn.length_lt
    simp only [List.length_cons] at h2 ⊢
    omega
  | notIs _ hn hi =>
    have h1 := hn.length_lt
    cases hi <;> simp only [List.length_cons] at h1 ⊢ <;> omega

/-- The keyword that writes a connective. -/
def connectiveOperation : Connective → Operation
  | .and => .and
  | .or => .or

/-- Conditions with connectives between them, up to the end of the statement. -/
inductive Conditions (v : Vocabulary) : List String → List Condition → List Connective → Prop
  | last {ts : List String} {c : Condition} (h : ConditionPhrase v ts c []) :
      Conditions v ts [c] []
  | more {ts ts' ts'' : List String} {c : Condition} {cs : List Condition} {k : Connective}
      {ks : List Connective} (h : ConditionPhrase v ts c ts')
      (hk : Keyword v (connectiveOperation k) ts' ts'') (hs : Conditions v ts'' cs ks) :
      Conditions v ts (c :: cs) (k :: ks)

/-- The clause of conditions, or the end of the statement. -/
inductive Where (v : Vocabulary) : List String → List Condition → List Connective → Prop
  | absent : Where v [] [] []
  | present {ts ts' : List String} {cs : List Condition} {ks : List Connective}
      (hk : Keyword v .where ts ts') (h : Conditions v ts' cs ks) : Where v ts cs ks

/-- The columns of an INSERT: none, in parentheses, or up to the word for VALUES. -/
inductive InsertColumns (v : Vocabulary) : List String → List String → List String → Prop
  | none {rest : List String} : InsertColumns v rest [] rest
  | enclosed {ts ns rest : List String} (h : NameList IsName ts ns (")" :: rest)) :
      InsertColumns v ("(" :: ts) ns rest
  | bare {ts ns rest : List String} (h : NameList (IsNameBut v .values) ts ns rest) :
      InsertColumns v ts ns rest

/-- The values of an INSERT, up to the end of the statement. -/
inductive InsertValues : List String → List String → Prop
  | enclosed {ts ns : List String} (h : NameList IsName ts ns [")"]) : InsertValues ("(" :: ts) ns
  | bare {ts ns : List String} (h : NameList IsName ts ns []) : InsertValues ts ns

/-- A column and its new value. -/
inductive Assignment (v : Vocabulary) : List String → String → String → List String → Prop
  | symbol {column value : String} {rest : List String} (hc : IsName column) (hv : IsName value) :
      Assignment v (column :: "=" :: value :: rest) column value rest
  | keyword {column value : String} {ts rest : List String} (hc : IsName column)
      (hk : Keyword v .setEqual ts (value :: rest)) (hv : IsName value) :
      Assignment v (column :: ts) column value rest

theorem Assignment.length_lt {v : Vocabulary} {ts rest : List String} {column value : String}
    (h : Assignment v ts column value rest) : rest.length < ts.length := by
  cases h with
  | symbol => simp; omega
  | keyword _ hk =>
    have h1 := hk.length_lt
    simp only [List.length_cons] at h1 ⊢
    omega

inductive Assignments (v : Vocabulary) :
    List String → List String → List String → List String → Prop
  | last {column value : String} {ts rest : List String}
      (h : Assignment v ts column value rest) : Assignments v ts [column] [value] rest
  | more {column value : String} {ts ts' columns values rest : List String}
      (h : Assignment v ts column value ("," :: ts'))
      (hs : Assignments v ts' columns values rest) :
      Assignments v ts (column :: columns) (value :: values) rest

/-- The token sequences that are statements, each with the query it denotes. -/
inductive Statement (v : Vocabulary) : List String → Query → Prop
  | select {table : String} {ts ts₁ ts₂ ts₃ ts₄ columns joined : List String}
      {conditions : List Condition} {connectives : List Connective}
      (hk : Keyword v .select ts ts₁) (hc : SelectList v ts₁ columns ts₂)
      (hf : Keyword v .from ts₂ (table :: ts₃)) (ht : IsName table)
      (hj : Joins v ts₃ joined ts₄) (hw : Where v ts₄ conditions connectives) :
      Statement v ts
        { kind := .select, table := some table, columns := columns, joined := joined,
          conditions := conditions, connectives := connectives }
  | insert {table : String} {ts ts₁ ts₂ ts₃ columns values : List String}
      (hk : Keyword v .insert ts (table :: ts₁)) (ht : IsName table)
      (hc : InsertColumns v ts₁ columns ts₂) (hv : Keyword v .values ts₂ ts₃)
      (hs : InsertValues ts₃ values) (hn : columns = [] ∨ values.length = columns.length) :
      Statement v ts
        { kind := .insert, table := some table, columns := columns, values := values }
  | update {table : String} {ts ts₁ ts₂ ts₃ columns values : List String}
      {conditions : List Condition} {connectives : List Connective}
      (hk : Keyword v .update ts (table :: ts₁)) (ht : IsName table)
      (hs : Keyword v .set ts₁ ts₂) (ha : Assignments v ts₂ columns values ts₃)
      (hw : Where v ts₃ conditions connectives) :
      Statement v ts
        { kind := .update, table := some table, columns := columns, values := values,
          conditions := conditions, connectives := connectives }
  | delete {table : String} {ts ts₁ ts₂ : List String} {conditions : List Condition}
      {connectives : List Connective} (hk : Keyword v .delete ts ts₁)
      (hf : Keyword v .from ts₁ (table :: ts₂)) (ht : IsName table)
      (hw : Where v ts₂ conditions connectives) :
      Statement v ts
        { kind := .delete, table := some table, conditions := conditions,
          connectives := connectives }
  | control {k : StatementKind} {ts : List String} (hc : k.isTransactionControl = true)
      (hk : Keyword v k.operation ts []) : Statement v ts { kind := k }

end SlangSql.Grammar
