import Mathlib.Data.List.Basic
import SlangSql.Proofs.RoundTrip

/-!
# Punctuation in a query

No table, column, value, joined table or field of a query is a comma or a
parenthesis. The value that a condition compares with is not looked at in this
way: in every condition of every statement that can be read, its token can be
replaced by any of the three marks, and the statement is read with the mark as
the value. To see this a phrase is taken out of its statement: what stands
before it is read in the same way as long as the first token behind it stays.
-/

set_option autoImplicit false

namespace SlangSql

namespace Grammar

variable {v : Vocabulary} {op : Operation} {ts rest us : List String}

/-! ## Names -/

theorem SelectList.names_of {ns : List String} (h : SelectList v ts ns rest) :
    ∀ n ∈ ns, IsName n := by
  cases h with
  | star => decide
  | all => decide
  | names _ _ h => exact fun n hn => (h.all_ok n hn).1

theorem Joins.names_of {ns : List String} (h : Joins v ts ns rest) : ∀ n ∈ ns, IsName n := by
  induction h with
  | none => simp
  | table _ ht _ ih => exact List.forall_mem_cons.mpr ⟨ht, ih⟩

theorem ConditionPhrase.field_name {c : Condition} (h : ConditionPhrase v ts c rest) :
    IsName c.field := by
  cases h with
  | symbol hf => exact hf
  | is hf => exact hf
  | isNot hf => exact hf
  | notIs hf => exact hf

theorem Conditions.field_names {cs : List Condition} {ks : List Connective}
    (h : Conditions v ts cs ks) : ∀ c ∈ cs, IsName c.field := by
  induction h with
  | last h => simpa using h.field_name
  | more h _ _ ih => exact List.forall_mem_cons.mpr ⟨h.field_name, ih⟩

theorem Where.field_names {cs : List Condition} {ks : List Connective} (h : Where v ts cs ks) :
    ∀ c ∈ cs, IsName c.field := by
  cases h with
  | absent => simp
  | present _ h => exact h.field_names

theorem Assignments.names_of {columns values : List String}
    (h : Assignments v ts columns values rest) :
    (∀ n ∈ columns, IsName n) ∧ ∀ n ∈ values, IsName n := by
  induction h with
  | last h => simpa using h.names
  | more h _ ih =>
    exact ⟨List.forall_mem_cons.mpr ⟨h.names.1, ih.1⟩,
      List.forall_mem_cons.mpr ⟨h.names.2, ih.2⟩⟩

end Grammar

/-- The condition as it is read with the token `t` in place of its value. -/
def Condition.comparedWith (v : Vocabulary) (c : Condition) (t : String) : Condition :=
  { c with operand := Reader.operandOf v c.comparison t }

/-- What a query stores, but for the values of its conditions. -/
def Query.names (q : Query) : List String :=
  q.table.toList ++ q.columns ++ q.values ++ q.joined ++ q.conditions.map Condition.field

theorem Grammar.Statement.names_of {v : Vocabulary} {ts : List String} {q : Query}
    (h : Statement v ts q) : ∀ n ∈ q.names, IsName n := by
  simp only [Query.names, List.forall_mem_append, List.forall_mem_map]
  cases h with
  | select _ hc _ ht hj hw =>
    exact ⟨⟨⟨⟨by simpa using ht, hc.names_of⟩, by simp⟩, hj.names_of⟩, hw.field_names⟩
  | insert _ ht hc _ hs _ =>
    exact ⟨⟨⟨⟨by simpa using ht, hc.names_of⟩, hs.names_of⟩, by simp⟩, by simp⟩
  | update _ ht _ ha hw =>
    exact ⟨⟨⟨⟨by simpa using ht, ha.names_of.1⟩, ha.names_of.2⟩, by simp⟩, hw.field_names⟩
  | delete _ _ ht hw =>
    exact ⟨⟨⟨⟨by simpa using ht, by simp⟩, by simp⟩, by simp⟩, hw.field_names⟩
  | control => simp

namespace Grammar
open Reader

variable {v : Vocabulary} {op : Operation} {ts rest us : List String}

/-! ## What stands before a phrase -/

/-- The first token is the same, or else means nothing. -/
def BeginsAlike (v : Vocabulary) (rest rest' : List String) : Prop :=
  ∀ t ∈ rest'.head?, t ∈ rest.head? ∨ v.resolve t = none

theorem BeginsAlike.append {rest' : List String} (h : BeginsAlike v rest rest')
    (front : List String) : BeginsAlike v (front ++ rest) (front ++ rest') := by
  cases front with
  | nil => exact h
  | cons t front => exact fun u hu => Or.inl hu

theorem beginsAlike_cons {x y : String} (hy : y = x ∨ v.resolve y = none) (us : List String) :
    BeginsAlike v (x :: rest) (y :: us) := by
  rintro t ⟨⟩
  exact hy.imp_left fun h => by rw [h]; rfl

/-- The tokens of a phrase up to `rest`, which are the phrase before other tokens as well. -/
def Before (v : Vocabulary) (phrase : List String → List String → Prop) (ts rest : List String) :
    Prop :=
  ∃ front, ts = front ++ rest ∧
    ∀ rest', BeginsAlike v rest rest' → phrase (front ++ rest') rest'

theorem Optional.before (h : Optional v op ts rest) : Before v (Optional v op) ts rest := by
  cases h with
  | absent hn =>
    refine ⟨[], rfl, fun rest' hr => .absent fun t ht => ?_⟩
    rcases hr t ht with h | h
    · exact hn t h
    · simp [h]
  | @present t _ ht => exact ⟨[t], rfl, fun rest' _ => .present ht⟩

theorem Keyword.before (h : Keyword v op ts rest) : Before v (Keyword v op) ts rest := by
  cases h with
  | @word t _ _ ht ho =>
    obtain ⟨front, rfl, hf⟩ := ho.before
    exact ⟨t :: front, rfl, fun rest' hr => .word ht (hf rest' hr)⟩

theorem MoreNames.before {ok : String → Prop} {ns : List String} (h : MoreNames ok ts ns rest) :
    Before v (fun ts rest => MoreNames ok ts ns rest) ts rest := by
  induction h with
  | none => exact ⟨[], rfl, fun _ _ => .none⟩
  | @plain t _ _ _ ht _ ih =>
    obtain ⟨front, rfl, hf⟩ := ih
    exact ⟨t :: front, rfl, fun rest' hr => .plain ht (hf rest' hr)⟩
  | @comma t _ _ _ ht _ ih =>
    obtain ⟨front, rfl, hf⟩ := ih
    exact ⟨"," :: t :: front, rfl, fun rest' hr => .comma ht (hf rest' hr)⟩

theorem SelectList.before {ns : List String} (h : SelectList v ts ns rest) :
    Before v (fun ts rest => SelectList v ts ns rest) ts rest := by
  cases h with
  | star => exact ⟨["*"], rfl, fun _ _ => .star⟩
  | all h =>
    obtain ⟨front, rfl, hf⟩ := h.before
    exact ⟨front, rfl, fun rest' hr => .all (hf rest' hr)⟩
  | @names t _ _ _ hs ha h =>
    cases h with
    | first ht hm =>
      obtain ⟨front, rfl, hf⟩ := hm.before (v := v)
      exact ⟨t :: front, rfl, fun rest' hr => .names hs ha (.first ht (hf rest' hr))⟩

theorem Joins.before {ns : List String} (h : Joins v ts ns rest) :
    Before v (fun ts rest => Joins v ts ns rest) ts rest := by
  induction h with
  | none => exact ⟨[], rfl, fun _ _ => .none⟩
  | @table t _ _ _ _ hk ht _ ih =>
    obtain ⟨front, rfl, hf⟩ := ih
    obtain ⟨before, rfl, hb⟩ := hk.before
    refine ⟨before ++ t :: front, by simp, fun rest' hr => ?_⟩
    rw [List.append_assoc]
    exact .table (hb _ (hr.append (t :: front))) ht (hf rest' hr)

theorem Assignment.before {column value : String} (h : Assignment v ts column value rest) :
    Before v (fun ts rest => Assignment v ts column value rest) ts rest := by
  cases h with
  | symbol hc hx => exact ⟨[column, "=", value], rfl, fun _ _ => .symbol hc hx⟩
  | keyword hc hk hx =>
    obtain ⟨front, rfl, hf⟩ := hk.before
    refine ⟨column :: (front ++ [value]), by simp, fun rest' hr => ?_⟩
    have hk' := hf _ (hr.append [value])
    simpa using Assignment.keyword hc hk' hx

theorem Assignments.before {columns values : List String}
    (h : Assignments v ts columns values rest) :
    Before v (fun ts rest => Assignments v ts columns values rest) ts rest := by
  induction h with
  | last h =>
    obtain ⟨front, rfl, hf⟩ := h.before
    exact ⟨front, rfl, fun rest' hr => .last (hf rest' hr)⟩
  | more h _ ih =>
    obtain ⟨front, rfl, hf⟩ := ih
    obtain ⟨before, rfl, hb⟩ := h.before
    refine ⟨before ++ "," :: front, by simp, fun rest' hr => ?_⟩
    rw [List.append_assoc]
    exact .more (hb _ (hr.append ("," :: front))) (hf rest' hr)

/-! ## The value of a condition -/

/-- The place of the value in a condition, where any token that means nothing can stand. -/
theorem ConditionPhrase.value_at {c : Condition} (h : ConditionPhrase v ts c rest) :
    ∃ front x, ts = front ++ x :: rest ∧ c.operand = operandOf v c.comparison x ∧
      ∀ y us, y = x ∨ v.resolve y = none →
        ConditionPhrase v (front ++ y :: us) (c.comparedWith v y) us := by
  have hnull : ∀ (c : Comparison) (y : String), c.isNullTest = true →
      NullTest v y (operandOf v c y) := fun c y hc => (nullTest_iff y c _ hc).mpr rfl
  cases h with
  | @symbol field x _ c hf hc =>
    refine ⟨[field, c.text], x, rfl, (operandOf_symbolic x hc).symm, fun y us _ => ?_⟩
    rw [Condition.comparedWith, operandOf_symbolic y hc]
    exact .symbol hf hc
  | @is field x _ _ o hf hi hn ho =>
    obtain ⟨front, rfl, hk⟩ := hi.before
    refine ⟨field :: front, x, rfl, (nullTest_iff x .is o rfl).mp ho, fun y us hy => ?_⟩
    refine .is hf (hk _ (beginsAlike_cons hy us)) ?_ (hnull .is y rfl)
    rcases hy with rfl | hy
    · exact hn
    · simp [hy]
  | @isNot field x _ _ _ o hf hi hn ho =>
    obtain ⟨front, rfl, hk⟩ := hn.before
    obtain ⟨before, rfl, hb⟩ := hi.before
    refine ⟨field :: (before ++ front), x, by simp, (nullTest_iff x .isNot o rfl).mp ho, ?_⟩
    intro y us hy
    have hr : BeginsAlike v (x :: rest) (y :: us) := beginsAlike_cons hy us
    have hp := ConditionPhrase.isNot hf (hb _ (hr.append front)) (hk _ hr) (hnull .isNot y rfl)
    simpa [Condition.comparedWith] using hp
  | @notIs field x _ _ _ o hf hn hi ho =>
    obtain ⟨front, rfl, hk⟩ := hi.before
    obtain ⟨before, rfl, hb⟩ := hn.before
    refine ⟨field :: (before ++ front), x, by simp, (nullTest_iff x .isNot o rfl).mp ho, ?_⟩
    intro y us hy
    have hr : BeginsAlike v (x :: rest) (y :: us) := beginsAlike_cons hy us
    have hp := ConditionPhrase.notIs hf (hb _ (hr.append front)) (hk _ hr) (hnull .isNot y rfl)
    simpa [Condition.comparedWith] using hp

/-- A condition among others, and the place of its value. -/
theorem Conditions.value_at {cs : List Condition} {ks : List Connective}
    (h : Conditions v ts cs ks) {i : Nat} {c : Condition} (hc : cs[i]? = some c) :
    ∃ front x us, ts = front ++ x :: us ∧ c.operand = operandOf v c.comparison x ∧
      ∀ y, v.resolve y = none →
        Conditions v (front ++ y :: us) (cs.set i (c.comparedWith v y)) ks := by
  induction h generalizing i with
  | @last _ d h =>
    obtain ⟨front, x, rfl, ho, hf⟩ := h.value_at
    obtain ⟨rfl, rfl⟩ : i = 0 ∧ d = c := by
      cases i <;> simp at hc
      exact ⟨rfl, hc⟩
    exact ⟨front, x, [], rfl, ho, fun y hy => .last (hf y [] (Or.inr hy))⟩
  | @more _ _ _ d cs k ks h hk hs ih =>
    obtain ⟨front, x, rfl, ho, hf⟩ := h.value_at
    cases i with
    | zero =>
      obtain rfl : d = c := by simpa using hc
      exact ⟨front, x, _, rfl, ho, fun y hy => .more (hf y _ (Or.inr hy)) hk hs⟩
    | succ i =>
      obtain ⟨front', x', us, rfl, ho', hf'⟩ := ih (by simpa using hc)
      obtain ⟨before, rfl, hb⟩ := hk.before
      have hd : d.comparedWith v x = d := by rw [Condition.comparedWith, ← ho]
      refine ⟨front ++ x :: (before ++ front'), x', us, by simp, ho', fun y hy => ?_⟩
      have hr : BeginsAlike v (front' ++ x' :: us) (front' ++ y :: us) :=
        (beginsAlike_cons (Or.inr hy) us).append front'
      have hp := hf x (before ++ (front' ++ y :: us)) (Or.inl rfl)
      rw [hd] at hp
      simpa using Conditions.more hp (hb _ hr) (hf' y hy)

theorem Where.value_at {cs : List Condition} {ks : List Connective} (h : Where v ts cs ks)
    {i : Nat} {c : Condition} (hc : cs[i]? = some c) :
    ∃ front x us, ts = front ++ x :: us ∧ c.operand = operandOf v c.comparison x ∧
      ∀ y, v.resolve y = none → BeginsAlike v ts (front ++ y :: us) ∧
        Where v (front ++ y :: us) (cs.set i (c.comparedWith v y)) ks := by
  cases h with
  | absent => simp at hc
  | present hk h =>
    obtain ⟨front, x, us, rfl, ho, hf⟩ := h.value_at hc
    obtain ⟨before, rfl, hb⟩ := hk.before
    refine ⟨before ++ front, x, us, by simp, ho, fun y hy => ?_⟩
    have hr : BeginsAlike v (front ++ x :: us) (front ++ y :: us) :=
      (beginsAlike_cons (Or.inr hy) us).append front
    rw [List.append_assoc]
    exact ⟨hr.append before, .present (hb _ hr) (hf y hy)⟩

/-- In a statement the value of any condition can be any token that means nothing. -/
theorem Statement.value_at {q : Query} (h : Statement v ts q) {i : Nat} {c : Condition}
    (hc : q.conditions[i]? = some c) :
    ∃ front x us, ts = front ++ x :: us ∧ c.operand = operandOf v c.comparison x ∧
      ∀ y, v.resolve y = none → Statement v (front ++ y :: us)
        { q with conditions := q.conditions.set i (c.comparedWith v y) } := by
  cases h with
  | @select table _ _ _ _ _ _ _ _ _ hk hl hf ht hj hw =>
    obtain ⟨front, x, us, rfl, ho, hv⟩ := hw.value_at hc
    obtain ⟨joins, rfl, hj'⟩ := hj.before
    obtain ⟨source, rfl, hf'⟩ := hf.before
    obtain ⟨columns, rfl, hl'⟩ := hl.before
    obtain ⟨start, rfl, hk'⟩ := hk.before
    refine ⟨start ++ (columns ++ (source ++ table :: (joins ++ front))), x, us, by simp, ho, ?_⟩
    intro y hy
    obtain ⟨hr, hw⟩ := hv y hy
    have hr₁ := hr.append (table :: joins)
    have hr₂ := hr₁.append source
    have hs := Statement.select (hk' _ (hr₂.append columns)) (hl' _ hr₂) (hf' _ hr₁) ht
      (hj' _ hr) hw
    simpa using hs
  | @update table _ _ _ _ _ _ _ _ hk ht hs ha hw =>
    obtain ⟨front, x, us, rfl, ho, hv⟩ := hw.value_at hc
    obtain ⟨pairs, rfl, ha'⟩ := ha.before
    obtain ⟨set, rfl, hs'⟩ := hs.before
    obtain ⟨start, rfl, hk'⟩ := hk.before
    refine ⟨start ++ table :: (set ++ (pairs ++ front)), x, us, by simp, ho, fun y hy => ?_⟩
    obtain ⟨hr, hw⟩ := hv y hy
    have hr₁ := hr.append pairs
    have hu := Statement.update (hk' _ (hr₁.append (table :: set))) ht (hs' _ hr₁) (ha' _ hr) hw
    simpa using hu
  | @delete table _ _ _ _ _ hk hf ht hw =>
    obtain ⟨front, x, us, rfl, ho, hv⟩ := hw.value_at hc
    obtain ⟨source, rfl, hf'⟩ := hf.before
    obtain ⟨start, rfl, hk'⟩ := hk.before
    refine ⟨start ++ (source ++ table :: front), x, us, by simp, ho, fun y hy => ?_⟩
    obtain ⟨hr, hw⟩ := hv y hy
    have hr₁ := hr.append [table]
    have hd := Statement.delete (hk' _ (hr₁.append source)) (hf' _ hr₁) ht hw
    simpa using hd
  | insert => simp at hc
  | control => simp at hc

end Grammar

/-! ## Texts -/

theorem Token.sealed_replace {front us : List String} {x y : String}
    (h : Sealed (front ++ x :: us)) (hy : IsClosed y.toList) : Sealed (front ++ y :: us) := by
  induction front with
  | nil => exact ⟨Or.inl hy, h.2⟩
  | cons t front ih =>
    refine ⟨?_, ih h.2⟩
    rcases h.1 with ht | ⟨-, he⟩
    · exact Or.inl ht
    · simp at he

theorem Grammar.mark_of_not_isName {t : String} (h : ¬ IsName t) :
    t = "," ∨ t = "(" ∨ t = ")" := by
  by_cases hc : t = ","
  · exact Or.inl hc
  · by_cases ho : t = "("
    · exact Or.inr (Or.inl ho)
    · simpa [IsName, hc, ho] using h

/-- No name in a query is a punctuation mark. The value of a condition may be one: in a text that
can be read, the token of any such value can be replaced by any mark, and the mark is then the
value. -/
theorem Vocabulary.punctuation_only_as_value (v : Vocabulary) (hv : v.Reachable) (text : String)
    (q : Query) (h : v.read text = .ok q) :
    (∀ t ∈ q.names, Grammar.IsName t) ∧
      ∀ i c, q.conditions[i]? = some c → ∃ n x, (tokenize text)[n]? = some x ∧
        c.operand = Reader.operandOf v c.comparison x ∧
        ∀ mark, ¬ Grammar.IsName mark → ∃ text', tokenize text' = (tokenize text).set n mark ∧
          v.read text' = .ok { q with
            conditions := q.conditions.set i { c with operand := .literal mark } } := by
  have hs := Reader.statement_of_readTokens h
  refine ⟨hs.names_of, fun i c hc => ?_⟩
  obtain ⟨front, x, us, ht, ho, hf⟩ := hs.value_at hc
  refine ⟨front.length, x, by simp [ht], ho, fun mark hm => ?_⟩
  have hmark := Grammar.mark_of_not_isName hm
  have hr : v.resolve mark = none := by
    apply hv.resolve_reserved
    rcases hmark with rfl | rfl | rfl <;> decide
  have hclosed : Token.IsClosed mark.toList := by
    left
    rcases hmark with rfl | rfl | rfl <;> decide
  have hseal := Token.sealed_tokenize text
  rw [ht] at hseal
  obtain ⟨text', ht'⟩ := Token.exists_text_of_sealed (Token.sealed_replace hseal hclosed)
  have hset : (tokenize text).set front.length mark = front ++ mark :: us := by simp [ht]
  have hlit : c.comparedWith v mark = { c with operand := .literal mark } := by
    simp [Condition.comparedWith, Reader.operandOf, Vocabulary.isAliasOf, hr]
  refine ⟨text', by rw [ht', hset], ?_⟩
  rw [Vocabulary.read, ht', ← hlit]
  exact Reader.readTokens_of_statement hv (hf mark hr)

/-- The users of one age. -/
def ageQuery (age : String) : Query :=
  { kind := .select, table := some "users", columns := ["*"],
    conditions := [⟨"age", .equal, .literal age⟩] }

theorem punctuation_in_ageQuery :
    Vocabulary.standard.read "tralalero * lirili users patapim age = 7" = .ok (ageQuery "7") ∧
      (∀ t ∈ (ageQuery "7").names, Grammar.IsName t) ∧
      ∃ n text, tokenize text =
          ["tralalero", "*", "lirili", "users", "patapim", "age", "=", "7"].set n "(" ∧
        Vocabulary.standard.read text = .ok (ageQuery "(") := by
  have ht : tokenize "tralalero * lirili users patapim age = 7" =
      ["tralalero", "*", "lirili", "users", "patapim", "age", "=", "7"] := by
    with_unfolding_all decide
  have hr : Vocabulary.standard.read "tralalero * lirili users patapim age = 7" =
      .ok (ageQuery "7") := by
    rw [Vocabulary.read, ht, Vocabulary.standard_eq_seedWords]
    with_unfolding_all decide
  obtain ⟨hn, hv⟩ := Vocabulary.punctuation_only_as_value _ .standard _ _ hr
  obtain ⟨n, x, -, -, hm⟩ := hv 0 ⟨"age", .equal, .literal "7"⟩ rfl
  obtain ⟨text, ht', hr'⟩ := hm "(" (by decide)
  rw [ht] at ht'
  exact ⟨hr, hn, n, text, ht', hr'⟩

/-- A comma is read as the value of a condition, though not as the value of an assignment. -/
theorem read_comma_as_value :
    Vocabulary.standard.Reachable ∧
      Vocabulary.standard.read "tralalero * lirili users patapim age = ," = .ok (ageQuery ",") ∧
      Vocabulary.standard.read "cappuccino users cocofanto age = ," =
        .error (.unexpectedToken ["value"] ",") := by
  have ht : tokenize "tralalero * lirili users patapim age = ," =
        ["tralalero", "*", "lirili", "users", "patapim", "age", "=", ","] ∧
      tokenize "cappuccino users cocofanto age = ," =
        ["cappuccino", "users", "cocofanto", "age", "=", ","] := by
    with_unfolding_all decide
  refine ⟨.standard, ?_, ?_⟩
  · rw [Vocabulary.read, ht.1, Vocabulary.standard_eq_seedWords]
    with_unfolding_all decide
  · rw [Vocabulary.read, ht.2, Vocabulary.standard_eq_seedWords]
    with_unfolding_all decide

end SlangSql
