import SlangSql.Proofs.ReaderGrammar
import SlangSql.Proofs.TokenUse
import SlangSql.Proofs.VocabularyGrowth

/-!
# One text under two vocabularies

Two vocabularies read one text side by side. The reader looks up the tokens of
the text and nothing else, except to list the words it would have expected. So
if both give every token of the text the same operation, the two runs go through
the same states with the same query, and they end alike up to that list.

Words added to a vocabulary matter to the texts that hold one of them, in some
case. All other texts are read as before.
-/

set_option autoImplicit false

namespace SlangSql

/-- The error without the list of what was expected in place of a token. -/
def Error.finding : Error → Error
  | .unexpectedToken _ actual => .unexpectedToken [] actual
  | e => e

/-- Both succeed with the same result, or both fail and find the same. -/
def Agree {α : Type} (x y : Except Error α) : Prop :=
  x.mapError Error.finding = y.mapError Error.finding

theorem Agree.refl {α : Type} (x : Except Error α) : Agree x x := rfl

theorem agree_error {α : Type} {e e' : Error} (h : e.finding = e'.finding) :
    Agree (α := α) (.error e) (.error e') := congrArg Except.error h

theorem agree_cases {α : Type} {x y : Except Error α} (h : Agree x y) :
    (∃ a, x = .ok a ∧ y = .ok a) ∨
      ∃ e e', x = .error e ∧ y = .error e' ∧ e.finding = e'.finding := by
  cases x with
  | ok a =>
    cases y with
    | ok b =>
      cases h
      exact Or.inl ⟨a, rfl, rfl⟩
    | error e' => cases h
  | error e =>
    cases y with
    | ok b => cases h
    | error e' => exact Or.inr ⟨e, e', rfl, rfl, Except.error.inj h⟩

namespace Reader

variable {v w : Vocabulary} {q : Query} {s : State} {t : String}

theorem isAliasOf_agree (h : v.resolve t = w.resolve t) (op : Operation) :
    v.isAliasOf t op = w.isAliasOf t op := by
  rw [Vocabulary.isAliasOf, Vocabulary.isAliasOf, h]

theorem matches_agree (h : v.resolve t = w.resolve t) (stop : Stop) :
    stop.matches v t = stop.matches w t := by
  cases stop with
  | keyword op => exact isAliasOf_agree h op
  | symbol text => rfl
  | endOfText => rfl

theorem unexpected_agree (xs ys : List String) (t : String) :
    Agree (unexpected xs t) (unexpected ys t) := rfl

/-! ## One step -/

theorem afterTableStep_agree (h : v.resolve t = w.resolve t) :
    Agree (afterTableStep v q t) (afterTableStep w q t) := by
  unfold afterTableStep
  simp only [isAliasOf_agree h]
  split
  · exact .refl _
  · split
    · split
      · exact .refl _
      · exact unexpected_agree ..
    · exact unexpected_agree ..

theorem assignmentStep_agree (h : v.resolve t = w.resolve t) :
    Agree (assignmentStep v q t) (assignmentStep w q t) := by
  unfold assignmentStep
  simp only [isAliasOf_agree h]
  split
  · exact .refl _
  · split
    · exact .refl _
    · exact unexpected_agree ..

theorem afterAssignmentStep_agree (h : v.resolve t = w.resolve t) :
    Agree (afterAssignmentStep v q t) (afterAssignmentStep w q t) := by
  unfold afterAssignmentStep
  simp only [isAliasOf_agree h]
  split
  · exact .refl _
  · split
    · exact .refl _
    · exact unexpected_agree ..

theorem comparisonStep_agree (h : v.resolve t = w.resolve t) (field : String) :
    Agree (comparisonStep v q t field) (comparisonStep w q t field) := by
  unfold comparisonStep
  simp only [isAliasOf_agree h]
  split
  · exact .refl _
  · split
    · exact .refl _
    · split
      · exact .refl _
      · exact unexpected_agree ..

theorem afterConditionStep_agree (h : v.resolve t = w.resolve t) :
    Agree (afterConditionStep v q t) (afterConditionStep w q t) := by
  unfold afterConditionStep
  simp only [isAliasOf_agree h]
  split
  · exact .refl _
  · split
    · exact .refl _
    · exact unexpected_agree ..

/-- A step sees a vocabulary through the token that it looks at. -/
theorem step_agree (h : v.resolve t = w.resolve t) (s : State) :
    Agree (step v q t s) (step w q t s) := by
  cases s with
  | keyword op next =>
    simp only [step, isAliasOf_agree h]
    split
    · exact .refl _
    · exact unexpected_agree ..
  | afterTable => exact afterTableStep_agree h
  | assignment => exact assignmentStep_agree h
  | afterAssignment => exact afterAssignmentStep_agree h
  | comparison field => exact comparisonStep_agree h field
  | afterCondition => exact afterConditionStep_agree h
  | _ =>
    -- The other states list nothing, so they do exactly the same.
    simp only [step, itemStep, afterItemStep, selectListStep, insertColumnsStep, negationStep,
      operandOf, isAliasOf_agree h, matches_agree h]
    exact .refl _

/-! ## Whole runs -/

theorem feed_agree (h : v.resolve t = w.resolve t) (s : State) :
    Agree (feed v q t s) (feed w q t s) := by
  induction s using handOn_induction (v := v) (q := q) t with
  | h s ih =>
    rcases agree_cases (step_agree (q := q) h s) with ⟨r, hv, hw⟩ | ⟨e, e', hv, hw, he⟩
    · cases r with
      | take next q' =>
        rw [feed_take hv, feed_take hw]
        exact .refl _
      | handOn next =>
        rw [feed_handOn hv, feed_handOn hw]
        exact ih next hv
    · rw [feed_error hv, feed_error hw]
      exact agree_error he

theorem feedAll_agree {ts : List String} (h : ∀ t ∈ ts, v.resolve t = w.resolve t) (s : State)
    (q : Query) : Agree (feedAll v q s ts) (feedAll w q s ts) := by
  induction ts generalizing s q with
  | nil => exact .refl _
  | cons t ts ih =>
    rw [List.forall_mem_cons] at h
    rw [feedAll, feedAll]
    rcases agree_cases (feed_agree (q := q) h.1 s) with ⟨p, hv, hw⟩ | ⟨e, e', hv, hw, he⟩
    · rw [hv, hw]
      exact ih h.2 p.1 p.2
    · rw [hv, hw]
      exact agree_error he

theorem conclude_agree {x y : Except Error (State × Query)} (h : Agree x y) :
    Agree (conclude x) (conclude y) := by
  rcases agree_cases h with ⟨p, rfl, rfl⟩ | ⟨e, e', rfl, rfl, he⟩
  · exact .refl _
  · exact agree_error he

theorem readTokens_agree {ts : List String} (h : ∀ t ∈ ts, v.resolve t = w.resolve t) :
    Agree (v.readTokens ts) (w.readTokens ts) := by
  cases ts with
  | nil => exact .refl _
  | cons t ts =>
    rw [List.forall_mem_cons] at h
    have hk : v.statementKind? t = w.statementKind? t := by
      rw [Vocabulary.statementKind?, Vocabulary.statementKind?, h.1]
    rw [readTokens_cons, readTokens_cons, hk]
    cases w.statementKind? t with
    | none => exact .refl _
    | some k => exact conclude_agree (feedAll_agree h.2 _ _)

end Reader

namespace Vocabulary

variable {v w : Vocabulary} {op : Operation} {t : String}

theorem compile_agree {text : String} (h : Agree (v.read text) (w.read text)) :
    Agree (v.compile text) (w.compile text) := by
  unfold compile
  rcases agree_cases h with ⟨q, hv, hw⟩ | ⟨e, e', hv, hw, he⟩
  · rw [hv, hw]
    exact .refl _
  · rw [hv, hw]
    exact agree_error he

/-! ## Added words -/

theorem resolve_register_of_ne {a : String} (h : v.register op a = .ok w)
    (hne : Text.fold a ≠ Text.fold t) : w.resolve t = v.resolve t := by
  apply Option.ext
  intro other
  simp [resolve, owner?_register h, Ne.symm hne]

theorem resolve_extend_of_ne {as : List String} (h : v.extend op as = .ok w)
    (hne : ∀ a ∈ as, Text.fold a ≠ Text.fold t) : w.resolve t = v.resolve t := by
  rw [resolve_extend h, if_neg]
  simpa using hne

end Vocabulary

/-- The words that are to be added. -/
def Addition.words : Addition → List String
  | .one _ a => [a]
  | .group _ as => as

namespace Vocabulary

variable {t : String}

theorem resolve_after_of_ne (v : Vocabulary) (c : Addition)
    (hne : ∀ a ∈ c.words, Text.fold a ≠ Text.fold t) : (v.after c).resolve t = v.resolve t := by
  unfold after
  split
  · next w hw =>
    cases c with
    | one op a => exact resolve_register_of_ne hw (hne a (by simp [Addition.words]))
    | group op as => exact resolve_extend_of_ne hw hne
  · rfl

theorem resolve_afterAll_of_ne (v : Vocabulary) (cs : List Addition)
    (hne : ∀ c ∈ cs, ∀ a ∈ c.words, Text.fold a ≠ Text.fold t) :
    (v.afterAll cs).resolve t = v.resolve t := by
  induction cs generalizing v with
  | nil => rfl
  | cons c cs ih =>
    rw [List.forall_mem_cons] at hne
    rw [afterAll, ih _ hne.2, resolve_after_of_ne v c hne.1]

/-- Two vocabularies that give each token of a text the same operation read the text alike: both
give one query, or both fail and find the same, though they may have expected other words. So
words with other folds than the tokens of a text can be added and change nothing for the text. -/
theorem read_agree_of_resolve (v w : Vocabulary) (text : String) :
    ((∀ t ∈ tokenize text, v.resolve t = w.resolve t) →
      Agree (v.read text) (w.read text) ∧ Agree (v.compile text) (w.compile text)) ∧
    ∀ cs : List Addition,
      (∀ c ∈ cs, ∀ a ∈ c.words, ∀ t ∈ tokenize text, Text.fold a ≠ Text.fold t) →
      Agree ((v.afterAll cs).read text) (v.read text) ∧
        Agree ((v.afterAll cs).compile text) (v.compile text) := by
  constructor
  · intro h
    have hr : Agree (v.read text) (w.read text) := Reader.readTokens_agree h
    exact ⟨hr, compile_agree hr⟩
  · intro cs hne
    have hr : Agree ((v.afterAll cs).read text) (v.read text) :=
      Reader.readTokens_agree fun t ht =>
        resolve_afterAll_of_ne v cs fun c hc a ha => hne c hc a ha t ht
    exact ⟨hr, compile_agree hr⟩

/-- The two words of the first text are all that its reading needs. The second text is refused for
the same token with and without a new word for FROM, which only the list of expected words shows. -/
theorem read_users_in_two_vocabularies :
    (∀ t ∈ tokenize "tralalero * lirili users", standard.resolve t =
      (empty.afterAll [.one .select "tralalero", .one .from "lirili"]).resolve t) ∧
    Agree (standard.compile "tralalero * lirili users")
      ((empty.afterAll [.one .select "tralalero", .one .from "lirili"]).compile
        "tralalero * lirili users") ∧
    (∀ c ∈ [Addition.one .from "behind"], ∀ a ∈ c.words, ∀ t ∈ tokenize "tralalero * users",
      Text.fold a ≠ Text.fold t) ∧
    Agree ((standard.afterAll [.one .from "behind"]).read "tralalero * users")
      (standard.read "tralalero * users") ∧
    (standard.afterAll [.one .from "behind"]).read "tralalero * users" ≠
      standard.read "tralalero * users" := by
  have ht : tokenize "tralalero * lirili users" = ["tralalero", "*", "lirili", "users"] := by
    with_unfolding_all decide
  have ht' : tokenize "tralalero * users" = ["tralalero", "*", "users"] := by
    with_unfolding_all decide
  have hv : ∀ t ∈ tokenize "tralalero * lirili users", standard.resolve t =
      (empty.afterAll [.one .select "tralalero", .one .from "lirili"]).resolve t := by
    rw [ht, standard_eq_seedWords]
    decide
  have hn : ∀ c ∈ [Addition.one .from "behind"], ∀ a ∈ c.words,
      ∀ t ∈ tokenize "tralalero * users", Text.fold a ≠ Text.fold t := by
    rw [ht']
    decide
  refine ⟨hv, ((read_agree_of_resolve _ _ _).1 hv).2, hn,
    ((read_agree_of_resolve standard standard _).2 _ hn).1, ?_⟩
  rw [read, read, ht', standard_eq_seedWords]
  with_unfolding_all decide

end Vocabulary

end SlangSql
