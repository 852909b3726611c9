import Mathlib.Data.List.Forall2
import SlangSql.Proofs.ReaderGrammar
import SlangSql.Proofs.TokenUse

/-!
# Statements in other words

Two texts are read side by side. At every place they hold the same token, or
two words for one operation. The two runs go through states that differ at
most in the field of the condition that is being read, and fill queries that
differ at most in the tokens they keep. So they end alike, and where only words
of keywords were exchanged they give the same query.
-/

set_option autoImplicit false

namespace SlangSql

/-- The same token, or two words for one operation. -/
def Vocabulary.Synonymous (v : Vocabulary) (t t' : String) : Prop :=
  t = t' ∨ ∃ op, v.resolve t = some op ∧ v.resolve t' = some op

instance (v : Vocabulary) (t t' : String) : Decidable (v.Synonymous t t') :=
  decidable_of_iff (t = t' ∨ v.isKeyword t = true ∧ v.resolve t = v.resolve t') (by
    simp only [Vocabulary.Synonymous, Vocabulary.isKeyword, Option.isSome_iff_exists]
    grind)

/-- Two errors of one kind, whatever they say. -/
def Error.SameKind (e e' : Error) : Prop := e.ctorIdx = e'.ctorIdx

/-- Both succeed, with related results, or both fail, with errors of one kind. -/
inductive SameOutcome {α : Type} (P : α → α → Prop) : Except Error α → Except Error α → Prop
  | ok {a a' : α} (h : P a a') : SameOutcome P (.ok a) (.ok a')
  | error {e e' : Error} (h : e.SameKind e') : SameOutcome P (.error e) (.error e')

variable {R : String → String → Prop}

/-! ## Queries that differ in the tokens they keep -/

inductive Operand.Like (R : String → String → Prop) : Operand → Operand → Prop
  | null : Operand.Like R .null .null
  | literal {t t' : String} (h : R t t') : Operand.Like R (.literal t) (.literal t')

structure Condition.Like (R : String → String → Prop) (c c' : Condition) : Prop where
  field : R c.field c'.field
  comparison : c.comparison = c'.comparison
  operand : c.operand.Like R c'.operand

/-- Queries of one shape, whose tokens are related place by place. -/
structure Query.Like (R : String → String → Prop) (q q' : Query) : Prop where
  kind : q.kind = q'.kind
  table : Option.Rel R q.table q'.table
  columns : List.Forall₂ R q.columns q'.columns
  values : List.Forall₂ R q.values q'.values
  joined : List.Forall₂ R q.joined q'.joined
  conditions : List.Forall₂ (Condition.Like R) q.conditions q'.conditions
  connectives : q.connectives = q'.connectives

theorem Condition.Like.eq {c c' : Condition} (h : c.Like Eq c') : c = c' := by
  obtain ⟨field, comparison, operand⟩ := c
  obtain ⟨field', comparison', operand'⟩ := c'
  obtain ⟨hf, hc, ho⟩ := h
  cases hf
  cases hc
  cases ho with
  | null => rfl
  | literal ht => cases ht; rfl

theorem Query.Like.eq {q q' : Query} (h : q.Like Eq q') : q = q' := by
  obtain ⟨kind, table, columns, values, joined, conditions, connectives⟩ := q
  obtain ⟨kind', table', columns', values', joined', conditions', connectives'⟩ := q'
  obtain ⟨hk, ht, hc, hv, hj, hw, hn⟩ := h
  have hw' : conditions = conditions' := by
    rw [← List.forall₂_eq_eq_eq]
    exact hw.imp fun _ _ => Condition.Like.eq
  simp only [List.forall₂_eq_eq_eq] at hc hv hj
  cases ht <;> simp_all

theorem Query.like_start (k : StatementKind) :
    Query.Like R { kind := k } { kind := k } where
  kind := rfl
  table := .none
  columns := .nil
  values := .nil
  joined := .nil
  conditions := .nil
  connectives := rfl

namespace Reader
open Grammar

variable {v : Vocabulary} {q q' : Query} {s s' : State} {t t' : String}

theorem like_fill (slot : Slot) (hq : q.Like R q') (ht : R t t') :
    (slot.fill q t).Like R (slot.fill q' t') := by
  cases slot with
  | table => exact { hq with table := .some ht }
  | column => exact { hq with columns := List.rel_append hq.columns (.cons ht .nil) }
  | value => exact { hq with values := List.rel_append hq.values (.cons ht .nil) }
  | joined => exact { hq with joined := List.rel_append hq.joined (.cons ht .nil) }

theorem like_pushCondition {c c' : Condition} (hq : q.Like R q') (hc : c.Like R c') :
    (q.pushCondition c).Like R (q'.pushCondition c') :=
  { hq with conditions := List.rel_append hq.conditions (.cons hc .nil) }

theorem like_pushConnective (k : Connective) (hq : q.Like R q') :
    (q.pushConnective k).Like R (q'.pushConnective k) :=
  { hq with connectives := congrArg (· ++ [k]) hq.connectives }

theorem like_valuesFull (hq : q.Like R q') : q.valuesFull = q'.valuesFull := by
  have hc : q.columns.isEmpty = q'.columns.isEmpty := by
    rw [Bool.eq_iff_iff]
    simp [← List.length_eq_zero_iff, hq.columns.length_eq]
  rw [Query.valuesFull, Query.valuesFull, hc, hq.columns.length_eq, hq.values.length_eq]

/-- A column waits for its value in both queries or in neither. -/
theorem like_unfilled (slot : Slot) (hq : q.Like R q') :
    unfilled? slot q = none ↔ unfilled? slot q' = none := by
  by_cases hs : slot = .value
  · simp [unfilled?, hs, Query.pendingColumn?, hq.columns.length_eq, hq.values.length_eq]
  · simp [unfilled?, hs]

/-! ## States that differ in the field of a condition -/

/-- What a list waits for is a keyword, the end, or a symbol with a fixed meaning. -/
def Stop.IsFixed : Stop → Prop
  | .symbol text => text ∈ Vocabulary.reserved
  | _ => True

end Reader

/-- The same state but for the field, which is a token that was read. The symbols that a state
waits for have a fixed meaning. -/
inductive Reader.State.Like (R : String → String → Prop) : State → State → Prop
  | symbol {text : String} {s s' : State} (ht : text ∈ Vocabulary.reserved)
      (h : State.Like R s s') : State.Like R (.symbol text s) (.symbol text s')
  | keyword {op : Operation} {s s' : State} (h : State.Like R s s') :
      State.Like R (.keyword op s) (.keyword op s')
  | keywordTail {op : Operation} {s s' : State} (h : State.Like R s s') :
      State.Like R (.keywordTail op s) (.keywordTail op s')
  | store {slot : Slot} {s s' : State} (h : State.Like R s s') :
      State.Like R (.store slot s) (.store slot s')
  | item {slot : Slot} {stop : Stop} {s s' : State} (hs : stop.IsFixed)
      (h : State.Like R s s') : State.Like R (.item slot stop s) (.item slot stop s')
  | afterItem {slot : Slot} {stop : Stop} {s s' : State} (hs : stop.IsFixed)
      (h : State.Like R s s') : State.Like R (.afterItem slot stop s) (.afterItem slot stop s')
  | selectList : State.Like R .selectList .selectList
  | afterTable : State.Like R .afterTable .afterTable
  | insertColumns : State.Like R .insertColumns .insertColumns
  | insertValues : State.Like R .insertValues .insertValues
  | assignment : State.Like R .assignment .assignment
  | afterAssignment : State.Like R .afterAssignment .afterAssignment
  | field : State.Like R .field .field
  | comparison {f f' : String} (h : R f f') : State.Like R (.comparison f) (.comparison f')
  | negation {f f' : String} (h : R f f') : State.Like R (.negation f) (.negation f')
  | operand {f f' : String} {c : Comparison} (h : R f f') :
      State.Like R (.operand f c) (.operand f' c)
  | afterCondition : State.Like R .afterCondition .afterCondition
  | done : State.Like R .done .done

namespace Reader
open Grammar

variable {v : Vocabulary} {q q' : Query} {s s' : State} {t t' : String}

theorem State.Like.eq (h : s.Like Eq s') : s = s' := by
  induction h <;> simp_all

theorem like_fromTable : State.fromTable.Like R .fromTable := .keyword (.store .afterTable)

theorem like_conditions : State.conditions.Like R .conditions := .keywordTail .field

theorem like_valuesClause : State.valuesClause.Like R .valuesClause := .keyword .insertValues

theorem like_assignColumn : State.assignColumn.Like R .assignColumn := .store .assignment

theorem like_assignValue : State.assignValue.Like R .assignValue := .store .afterAssignment

theorem like_entry (k : StatementKind) : (State.entry k).Like R (.entry k) := by
  cases k with
  | select => exact .selectList
  | insert => exact .store .insertColumns
  | update => exact .store (.keyword like_assignColumn)
  | delete => exact like_fromTable
  | _ => exact .done

/-! ## What a token is compared with -/

theorem resolve_eq (ht : v.Synonymous t t') : v.resolve t = v.resolve t' := by
  rcases ht with rfl | ⟨op, h, h'⟩
  · rfl
  · rw [h, h']

theorem isAliasOf_eq (ht : v.Synonymous t t') (op : Operation) :
    v.isAliasOf t' op = v.isAliasOf t op := by
  rw [Vocabulary.isAliasOf, Vocabulary.isAliasOf, resolve_eq ht]

/-- Only the same token is a given token with a fixed meaning. -/
theorem eq_reserved_iff (hv : v.Reachable) (ht : v.Synonymous t t') {r : String}
    (hr : r ∈ Vocabulary.reserved) : t' = r ↔ t = r := by
  rcases ht with rfl | ⟨op, h, h'⟩
  · rfl
  · constructor
    · rintro rfl
      simp [hv.resolve_reserved hr] at h'
    · rintro rfl
      simp [hv.resolve_reserved hr] at h

theorem isPunctuation_eq (hv : v.Reachable) (ht : v.Synonymous t t') :
    isPunctuation t' = isPunctuation t := by
  have h : IsName t' ↔ IsName t := by
    simp only [IsName, ne_eq, eq_reserved_iff hv ht (r := ",") (by decide),
      eq_reserved_iff hv ht (r := "(") (by decide), eq_reserved_iff hv ht (r := ")") (by decide)]
  rw [Bool.eq_iff_iff, isPunctuation_iff, isPunctuation_iff, h]

theorem ofSymbol?_eq (hv : v.Reachable) (ht : v.Synonymous t t') :
    Comparison.ofSymbol? t' = Comparison.ofSymbol? t := by
  rcases ht with rfl | ⟨op, h, h'⟩
  · rfl
  · rw [ofSymbol?_eq_none_of_alias hv h, ofSymbol?_eq_none_of_alias hv h']

theorem matches_eq (hv : v.Reachable) (ht : v.Synonymous t t') {stop : Stop}
    (hs : stop.IsFixed) : stop.matches v t' = stop.matches v t := by
  cases stop with
  | keyword op => exact isAliasOf_eq ht op
  | symbol text => simp [Stop.matches, eq_reserved_iff hv ht hs]
  | endOfText => rfl

/-! ## One step -/

/-- The two runs do the same with the token. -/
inductive Transition.Like (R : String → String → Prop) : Transition → Transition → Prop
  | take {s s' : State} {q q' : Query} (hs : s.Like R s') (hq : q.Like R q') :
      Transition.Like R (.take s q) (.take s' q')
  | handOn {s s' : State} (hs : s.Like R s') : Transition.Like R (.handOn s) (.handOn s')

theorem sameOutcome_unexpected (xs xs' : List String) (t t' : String) :
    SameOutcome (Transition.Like R) (unexpected xs t) (unexpected xs' t') :=
  .error rfl

theorem itemStep_alike (hv : v.Reachable) (ht : v.Synonymous t t') (hq : q.Like R q')
    {slot : Slot} {stop : Stop} (hf : stop.IsFixed) (hs : s.Like R s')
    (hst : ∀ next q₁, itemStep v q t slot stop s = .ok (.take next q₁) → R t t') :
    SameOutcome (Transition.Like R) (itemStep v q t slot stop s)
      (itemStep v q' t' slot stop s') := by
  unfold itemStep at hst ⊢
  rw [isPunctuation_eq hv ht, matches_eq hv ht hf, like_valuesFull hq]
  split
  · exact sameOutcome_unexpected ..
  · split
    · exact sameOutcome_unexpected ..
    · next hn hr =>
      rw [if_neg hn, like_valuesFull hq, if_neg hr] at hst
      exact .ok (.take (.afterItem hf hs) (like_fill slot hq (hst _ _ rfl)))

theorem afterItemStep_alike (hv : v.Reachable) (ht : v.Synonymous t t') (hq : q.Like R q')
    {slot : Slot} {stop : Stop} (hf : stop.IsFixed) (hs : s.Like R s') :
    SameOutcome (Transition.Like R) (afterItemStep v q t slot stop s)
      (afterItemStep v q' t' slot stop s') := by
  unfold afterItemStep
  simp only [isPunctuation_eq hv ht, matches_eq hv ht hf,
    eq_reserved_iff hv ht (r := ",") (by decide)]
  split
  · exact .ok (.take (.item hf hs) hq)
  · split
    · have hu := like_unfilled slot hq
      cases h : unfilled? slot q <;> cases h' : unfilled? slot q' <;> simp [h, h'] at hu ⊢
      · exact .ok (.handOn hs)
      · exact sameOutcome_unexpected ..
    · split
      · exact sameOutcome_unexpected ..
      · exact .ok (.handOn (.item hf hs))

theorem selectListStep_alike (hv : v.Reachable) (hstar : R "*" "*") (ht : v.Synonymous t t')
    (hq : q.Like R q') :
    SameOutcome (Transition.Like R) (selectListStep v q t) (selectListStep v q' t') := by
  unfold selectListStep
  simp only [isAliasOf_eq ht, eq_reserved_iff hv ht (r := "*") (by decide)]
  split
  · exact .ok (.take like_fromTable (like_fill .column hq hstar))
  · split
    · exact .ok (.take (.keywordTail like_fromTable) (like_fill .column hq hstar))
    · exact .ok (.handOn (.item trivial like_fromTable))

theorem afterTableStep_alike (ht : v.Synonymous t t') (hq : q.Like R q') :
    SameOutcome (Transition.Like R) (afterTableStep v q t) (afterTableStep v q' t') := by
  unfold afterTableStep
  simp only [isAliasOf_eq ht, hq.kind]
  split
  · exact .ok (.take like_conditions hq)
  · split
    · split
      · exact .ok (.take (.keywordTail (.store .afterTable)) hq)
      · exact sameOutcome_unexpected ..
    · exact sameOutcome_unexpected ..

theorem insertColumnsStep_alike (hv : v.Reachable) (ht : v.Synonymous t t') (hq : q.Like R q') :
    SameOutcome (Transition.Like R) (insertColumnsStep v q t) (insertColumnsStep v q' t') := by
  have hc : ")" ∈ Vocabulary.reserved := by decide
  unfold insertColumnsStep
  simp only [isAliasOf_eq ht, eq_reserved_iff hv ht (r := "(") (by decide)]
  split
  · exact .ok (.take (.item hc (.symbol hc like_valuesClause)) hq)
  · split
    · exact .ok (.handOn like_valuesClause)
    · exact .ok (.handOn (.item trivial like_valuesClause))

theorem insertValuesStep_alike (hv : v.Reachable) (ht : v.Synonymous t t') (hq : q.Like R q') :
    SameOutcome (Transition.Like R) (insertValuesStep q t) (insertValuesStep q' t') := by
  have hc : ")" ∈ Vocabulary.reserved := by decide
  unfold insertValuesStep
  simp only [eq_reserved_iff hv ht (r := "(") (by decide)]
  split
  · exact .ok (.take (.item hc (.symbol hc .done)) hq)
  · exact .ok (.handOn (.item trivial .done))

theorem assignmentStep_alike (hv : v.Reachable) (ht : v.Synonymous t t') (hq : q.Like R q') :
    SameOutcome (Transition.Like R) (assignmentStep v q t) (assignmentStep v q' t') := by
  unfold assignmentStep
  simp only [isAliasOf_eq ht, eq_reserved_iff hv ht (r := "=") (by decide)]
  split
  · exact .ok (.take like_assignValue hq)
  · split
    · exact .ok (.take (.keywordTail like_assignValue) hq)
    · exact sameOutcome_unexpected ..

theorem afterAssignmentStep_alike (hv : v.Reachable) (ht : v.Synonymous t t')
    (hq : q.Like R q') :
    SameOutcome (Transition.Like R) (afterAssignmentStep v q t)
      (afterAssignmentStep v q' t') := by
  unfold afterAssignmentStep
  simp only [isAliasOf_eq ht, eq_reserved_iff hv ht (r := ",") (by decide)]
  split
  · exact .ok (.take like_assignColumn hq)
  · split
    · exact .ok (.take like_conditions hq)
    · exact sameOutcome_unexpected ..

theorem comparisonStep_alike (hv : v.Reachable) (ht : v.Synonymous t t') (hq : q.Like R q')
    {f f' : String} (hf : R f f') :
    SameOutcome (Transition.Like R) (comparisonStep v q t f) (comparisonStep v q' t' f') := by
  unfold comparisonStep
  simp only [ofSymbol?_eq hv ht, isAliasOf_eq ht]
  split
  · exact .ok (.take (.operand hf) hq)
  · split
    · exact .ok (.take (.keywordTail (.negation hf)) hq)
    · split
      · exact .ok (.take (.keywordTail (.keywordTail (.operand hf))) hq)
      · exact sameOutcome_unexpected ..

theorem negationStep_alike (ht : v.Synonymous t t') (hq : q.Like R q') {f f' : String}
    (hf : R f f') :
    SameOutcome (Transition.Like R) (negationStep v q t f) (negationStep v q' t' f') := by
  unfold negationStep
  rw [isAliasOf_eq ht]
  split
  · exact .ok (.take (.keywordTail (.operand hf)) hq)
  · exact .ok (.handOn (.operand hf))

theorem operandOf_like (ht : v.Synonymous t t') (f : String) (c : Comparison)
    (hst : takenAs v t (.operand f c) = .stored → R t t') :
    (operandOf v c t).Like R (operandOf v c t') := by
  unfold operandOf
  rw [isAliasOf_eq ht]
  split
  · exact .null
  · next hn =>
    refine .literal (hst ?_)
    simp only [takenAs, operandOf, if_neg hn]

theorem afterConditionStep_alike (ht : v.Synonymous t t') (hq : q.Like R q') :
    SameOutcome (Transition.Like R) (afterConditionStep v q t) (afterConditionStep v q' t') := by
  unfold afterConditionStep
  simp only [isAliasOf_eq ht]
  split
  · exact .ok (.take (.keywordTail .field) (like_pushConnective .and hq))
  · split
    · exact .ok (.take (.keywordTail .field) (like_pushConnective .or hq))
    · exact sameOutcome_unexpected ..

/-- In like states, with like queries, two words for one operation have the same effect. If the
first is taken and stored, the two must be related as the tokens of the queries are. -/
theorem step_alike (hv : v.Reachable) (hstar : R "*" "*") (ht : v.Synonymous t t')
    (hs : s.Like R s') (hq : q.Like R q')
    (hst : ∀ next q₁, step v q t s = .ok (.take next q₁) → takenAs v t s = .stored → R t t') :
    SameOutcome (Transition.Like R) (step v q t s) (step v q' t' s') := by
  cases hs with
  | symbol hr hs =>
    simp only [step, eq_reserved_iff hv ht hr]
    split
    · exact .ok (.take hs hq)
    · exact sameOutcome_unexpected ..
  | keyword hs =>
    simp only [step, isAliasOf_eq ht]
    split
    · exact .ok (.take (.keywordTail hs) hq)
    · exact sameOutcome_unexpected ..
  | keywordTail hs =>
    simp only [step, isAliasOf_eq ht]
    split
    · exact .ok (.take hs hq)
    · exact .ok (.handOn hs)
  | @store slot _ _ hs =>
    simp only [step, isPunctuation_eq hv ht] at hst ⊢
    split
    · exact sameOutcome_unexpected ..
    · next hn => exact .ok (.take hs (like_fill slot hq (hst _ _ (if_neg hn) rfl)))
  | item hf hs => exact itemStep_alike hv ht hq hf hs fun next q₁ h => hst next q₁ h rfl
  | afterItem hf hs => exact afterItemStep_alike hv ht hq hf hs
  | selectList => exact selectListStep_alike hv hstar ht hq
  | afterTable => exact afterTableStep_alike ht hq
  | insertColumns => exact insertColumnsStep_alike hv ht hq
  | insertValues => exact insertValuesStep_alike hv ht hq
  | assignment => exact assignmentStep_alike hv ht hq
  | afterAssignment => exact afterAssignmentStep_alike hv ht hq
  | field =>
    simp only [step, isPunctuation_eq hv ht] at hst ⊢
    split
    · exact sameOutcome_unexpected ..
    · next hn => exact .ok (.take (.comparison (hst _ _ (if_neg hn) rfl)) hq)
  | comparison hf => exact comparisonStep_alike hv ht hq hf
  | negation hf => exact negationStep_alike ht hq hf
  | operand hf =>
    exact .ok (.take .afterCondition
      (like_pushCondition hq ⟨hf, rfl, operandOf_like ht _ _ (hst _ _ rfl)⟩))
  | afterCondition => exact afterConditionStep_alike ht hq
  | done => exact sameOutcome_unexpected ..

/-! ## Whole runs -/

/-- Where the two runs stand. -/
def Configured (R : String → String → Prop) (p p' : State × Query) : Prop :=
  p.1.Like R p'.1 ∧ p.2.Like R p'.2

theorem feed_alike (hv : v.Reachable) (hstar : R "*" "*") (ht : v.Synonymous t t')
    (hs : s.Like R s') (hq : q.Like R q')
    (hst : ∀ p, feed v q t s = .ok p → use v q t s = .stored → R t t') :
    SameOutcome (Configured R) (feed v q t s) (feed v q' t' s') := by
  induction s using handOn_induction (v := v) (q := q) t generalizing s' with
  | h s ih =>
    have hstep := step_alike hv hstar ht hs hq fun next q₁ h hu =>
      hst _ (feed_take h) ((use_take h).trans hu)
    generalize hx : step v q t s = x at hstep
    generalize hx' : step v q' t' s' = x' at hstep
    cases hstep with
    | error he =>
      rw [feed_error hx, feed_error hx']
      exact .error he
    | ok hr =>
      cases hr with
      | take hs hq =>
        rw [feed_take hx, feed_take hx']
        exact .ok ⟨hs, hq⟩
      | handOn hs =>
        rw [feed_handOn hx, feed_handOn hx']
        rw [feed_handOn hx, use_handOn hx] at hst
        exact ih _ hx hs hst

/-- The tokens that a run stores are related. -/
def StoredRelated (R : String → String → Prop) (us : List Use) (ts ts' : List String) : Prop :=
  ∀ (i : Nat) (t t' : String),
    us[i]? = some .stored → ts[i]? = some t → ts'[i]? = some t' → R t t'

theorem StoredRelated.tail {u : Use} {us : List Use} {ts ts' : List String}
    (h : StoredRelated R (u :: us) (t :: ts) (t' :: ts')) : StoredRelated R us ts ts' := by
  intro i a b hu ha hb
  exact h (i + 1) a b (by simpa using hu) (by simpa using ha) (by simpa using hb)

theorem feedAll_alike (hv : v.Reachable) (hstar : R "*" "*") {ts ts' : List String}
    (ht : List.Forall₂ v.Synonymous ts ts') (hs : s.Like R s') (hq : q.Like R q')
    (hst : StoredRelated R (uses v q s ts) ts ts') :
    SameOutcome (Configured R) (feedAll v q s ts) (feedAll v q' s' ts') := by
  induction ht generalizing s s' q q' with
  | nil => exact .ok ⟨hs, hq⟩
  | @cons t t' ts ts' ht hts ih =>
    have hfeed : SameOutcome (Configured R) (feed v q t s) (feed v q' t' s') := by
      refine feed_alike hv hstar ht hs hq fun p hp hu => hst 0 t t' ?_ rfl rfl
      simp [uses, hp, hu]
    simp only [feedAll, uses] at hst ⊢
    generalize feed v q t s = x at hfeed hst ⊢
    generalize feed v q' t' s' = x' at hfeed ⊢
    cases hfeed with
    | error he => exact .error he
    | ok hc => exact ih hc.1 hc.2 hst.tail

/-- The text may end in both states or in neither. -/
theorem missing_alike (hs : s.Like R s') (hq : q.Like R q') :
    missing? q s = none ↔ missing? q' s' = none := by
  induction hs with
  | keywordTail _ ih => exact ih
  | @afterItem slot stop _ _ _ _ ih =>
    simp only [missing?]
    split
    · simpa using like_unfilled slot hq
    · simp
  | _ => simp [missing?]

theorem statementKind?_eq (ht : v.Synonymous t t') : v.statementKind? t' = v.statementKind? t := by
  rw [Vocabulary.statementKind?, Vocabulary.statementKind?, resolve_eq ht]

theorem readTokens_alike (hv : v.Reachable) (hstar : R "*" "*") {ts ts' : List String}
    (ht : List.Forall₂ v.Synonymous ts ts') (hst : StoredRelated R (v.uses ts) ts ts') :
    SameOutcome (Query.Like R) (v.readTokens ts) (v.readTokens ts') := by
  cases ht with
  | nil => exact .error rfl
  | @cons t t' ts ts' ht hts =>
    simp only [Vocabulary.readTokens, Vocabulary.uses, statementKind?_eq ht] at hst ⊢
    cases hk : v.statementKind? t with
    | none => exact .error rfl
    | some k =>
      simp only [hk] at hst ⊢
      have hrun := feedAll_alike hv hstar hts (.keywordTail (like_entry k)) (Query.like_start k)
        hst.tail
      generalize feedAll v { kind := k } (.keywordTail k.operation (.entry k)) ts = x at hrun ⊢
      generalize feedAll v { kind := k } (.keywordTail k.operation (.entry k)) ts' = x' at hrun ⊢
      cases hrun with
      | error he => exact .error he
      | @ok p p' hc =>
        have hm := missing_alike hc.1 hc.2
        cases h : missing? p.2 p.1 <;> cases h' : missing? p'.2 p'.1 <;> simp [h, h'] at hm ⊢
        · exact .ok hc.2
        · exact .error rfl

/-! ## Words of keywords exchanged -/

/-- The lists differ only at words that stand for an operation. -/
def DifferInWords (us : List Use) (ts ts' : List String) : Prop :=
  ∀ i : Nat, ts[i]? ≠ ts'[i]? → us[i]?.any Use.isWord = true

theorem DifferInWords.tail {u : Use} {us : List Use} {ts ts' : List String}
    (h : DifferInWords (u :: us) (t :: ts) (t' :: ts')) : DifferInWords us ts ts' := by
  intro i hi
  exact h (i + 1) (by simpa using hi)

theorem DifferInWords.head {us : List Use} {ts ts' : List String}
    (h : DifferInWords us (t :: ts) (t' :: ts')) (hu : ∀ u ∈ us.head?, u.isWord = false) :
    t = t' := by
  by_contra hne
  have hw := h 0 (by simpa using hne)
  rw [← List.head?_eq_getElem?, Option.any_eq_true] at hw
  obtain ⟨u, hm, hw⟩ := hw
  rw [hu u hm] at hw
  cases hw

theorem feedAll_eq_of_words (hv : v.Reachable) {ts ts' : List String}
    (ht : List.Forall₂ v.Synonymous ts ts') (hs : s.Like Eq s) (hq : q.Like Eq q)
    (hd : DifferInWords (uses v q s ts) ts ts') : feedAll v q s ts = feedAll v q s ts' := by
  induction ht generalizing s q with
  | nil => rfl
  | @cons t t' ts ts' ht hts ih =>
    cases hp : feed v q t s with
    | error e =>
      have he : t = t' := hd.head (by simp [uses, hp])
      simp only [feedAll, ← he, hp]
    | ok p =>
      simp only [uses, hp] at hd
      have hfeed := feed_alike (R := Eq) hv rfl ht hs hq
        fun _ _ hu => hd.head (by simp [hu, Use.isWord])
      rw [hp] at hfeed
      generalize hp' : feed v q t' s = x' at hfeed
      cases hfeed with
      | @ok _ p' hc =>
        have he : p = p' := Prod.ext hc.1.eq hc.2.eq
        subst he
        simp only [feedAll, hp, hp']
        exact ih hc.1 hc.2 hd.tail

theorem readTokens_eq_of_words (hv : v.Reachable) {ts ts' : List String}
    (ht : List.Forall₂ v.Synonymous ts ts') (hd : DifferInWords (v.uses ts) ts ts') :
    v.readTokens ts = v.readTokens ts' := by
  cases ht with
  | nil => rfl
  | @cons t t' ts ts' ht hts =>
    simp only [Vocabulary.readTokens, Vocabulary.uses, statementKind?_eq ht] at hd ⊢
    cases hk : v.statementKind? t with
    | none =>
      simp only [hk] at hd
      rw [hd.head (by simp)]
    | some k =>
      simp only [hk] at hd
      have hs : (State.keywordTail k.operation (.entry k)).Like Eq
        (.keywordTail k.operation (.entry k)) := .keywordTail (like_entry k)
      simp only [feedAll_eq_of_words hv hts hs (Query.like_start k) hd.tail]

end Reader

/-- Tokens that stand at the same place of the two lists and are stored there, or the sign for all
columns, which stands for itself. -/
def Counterpart (v : Vocabulary) (ts ts' : List String) (a b : String) : Prop :=
  (∃ i : Nat, (v.uses ts)[i]? = some .stored ∧ ts[i]? = some a ∧ ts'[i]? = some b) ∨
    a = "*" ∧ b = "*"

/-- Two texts that hold the same tokens or words for the same operations, place by place, are both
read or both refused for the same kind of reason. The queries differ in stored tokens only, each
against the one at its place. If just words of keywords are exchanged, nothing changes. -/
theorem Vocabulary.read_synonymous (v : Vocabulary) (hv : v.Reachable) (text text' : String)
    (h : List.Forall₂ v.Synonymous (tokenize text) (tokenize text')) :
    SameOutcome (Query.Like (Counterpart v (tokenize text) (tokenize text')))
        (v.read text) (v.read text') ∧
      (Reader.DifferInWords (v.uses (tokenize text)) (tokenize text) (tokenize text') →
        v.read text = v.read text' ∧ v.compile text = v.compile text') := by
  constructor
  · apply Reader.readTokens_alike hv (Or.inr ⟨rfl, rfl⟩) h
    intro i t t' hu ht ht'
    exact Or.inl ⟨i, hu, ht, ht'⟩
  · intro hd
    have hr : v.read text = v.read text' := Reader.readTokens_eq_of_words hv h hd
    exact ⟨hr, by rw [compile, compile, hr]⟩

/-- One word for NULL is a column here and the operand there. The column stays, and the operand is
read in another word. -/
theorem read_users_synonymous :
    Vocabulary.standard.Reachable ∧
    List.Forall₂ Vocabulary.standard.Synonymous
      (tokenize "tralalero girafa lirili users patapim age zibra girafa")
      (tokenize "Troppi girafa larila users brrbrr age zubra celestre") ∧
    Vocabulary.standard.compile "tralalero girafa lirili users patapim age zibra girafa" =
      Vocabulary.standard.compile "Troppi girafa larila users brrbrr age zubra celestre" := by
  have ht : tokenize "tralalero girafa lirili users patapim age zibra girafa" =
      ["tralalero", "girafa", "lirili", "users", "patapim", "age", "zibra", "girafa"] := by
    with_unfolding_all decide
  have ht' : tokenize "Troppi girafa larila users brrbrr age zubra celestre" =
      ["Troppi", "girafa", "larila", "users", "brrbrr", "age", "zubra", "celestre"] := by
    with_unfolding_all decide
  have hf : List.Forall₂ Vocabulary.standard.Synonymous
      (tokenize "tralalero girafa lirili users patapim age zibra girafa")
      (tokenize "Troppi girafa larila users brrbrr age zubra celestre") := by
    rw [ht, ht', Vocabulary.standard_eq_seedWords]
    decide
  have hu : Vocabulary.standard.uses
      ["tralalero", "girafa", "lirili", "users", "patapim", "age", "zibra", "girafa"] =
      [.keyword .select, .stored, .keyword .from, .stored, .keyword .where, .stored,
        .keyword .not, .null] := by
    rw [Vocabulary.standard_eq_seedWords]
    with_unfolding_all decide
  refine ⟨.standard, hf, ((Vocabulary.read_synonymous _ .standard _ _ hf).2 ?_).2⟩
  rw [ht, ht', hu]
  intro i
  by_cases hi : i < 8
  · revert i
    decide
  · intro hne
    refine absurd ?_ hne
    rw [List.getElem?_eq_none (by simpa using hi), List.getElem?_eq_none (by simpa using hi)]

end SlangSql
