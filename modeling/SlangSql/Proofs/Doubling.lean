import Mathlib.Control.Monad.Basic
import SlangSql.Proofs.ReaderStates

/-!
# Keywords of two words

A keyword may be written as two words for its operation. So a second word may
be put behind the only word of a keyword, and the statement says the same. One
place is different: the word for IS that stands behind NOT. There the state
that passes over a second word serves to pass over the first one, and a second
one is taken for the operand.
-/

set_option autoImplicit false

namespace SlangSql.Reader
open Grammar

variable {v : Vocabulary} {q q' : Query} {s s' : State} {t a : String} {op : Operation}
  {pre post : List String}

/-- The state that passes over a second word for `op`. The one between NOT and an operand is left
out: there the word for IS is the first of its keyword. -/
def PassesSecond (op : Operation) (s : State) : Prop :=
  ∃ next, s = .keywordTail op next ∧ (op = .is → ∀ f c, next ≠ .operand f c)

theorem takenAs_keywordTail (next : State) :
    takenAs v t (.keywordTail op next) = .again op ∨
      takenAs v t (.keywordTail op next) = .isBehindNot ∧ op = .is ∧
        ∃ f c, next = .operand f c := by
  cases op with
  | is => cases next <;> simp [takenAs]
  | _ => exact Or.inl rfl

theorem PassesSecond.takenAs (h : PassesSecond op s) : takenAs v t s = .again op := by
  obtain ⟨next, rfl, hn⟩ := h
  rcases takenAs_keywordTail next with h | ⟨-, ho, f, c, hc⟩
  · exact h
  · exact absurd hc (hn ho f c)

theorem passesSecond_start (k : StatementKind) :
    PassesSecond k.operation (.keywordTail k.operation (.entry k)) := by
  refine ⟨_, rfl, ?_⟩
  cases k <;> simp [StatementKind.operation]

/-! ## The first word of a keyword -/

/-- If the token is a word, then it is taken as the first word of its keyword. -/
def TakenAsFirst (v : Vocabulary) (t : String) : Except Error Transition → Prop
  | .ok (.take s _) => ∀ op, v.resolve t = some op → PassesSecond op s
  | _ => True

theorem takenAsFirst_word {next : State} (ha : v.isAliasOf t op = true)
    (hn : op = .is → ∀ f c, next ≠ .operand f c) :
    TakenAsFirst v t (.ok (.take (.keywordTail op next) q)) := by
  intro op' ht
  rw [(isAliasOf_iff t op).mp ha] at ht
  cases ht
  exact ⟨next, rfl, hn⟩

theorem takenAsFirst_reserved (hv : v.Reachable) (ht : t ∈ Vocabulary.reserved) :
    TakenAsFirst v t (.ok (.take s q)) := by
  intro op ha
  rw [hv.resolve_reserved ht] at ha
  cases ha

theorem afterItemStep_first (hv : v.Reachable) (slot : Slot) (stop : Stop) (next : State) :
    TakenAsFirst v t (afterItemStep v q t slot stop next) := by
  unfold afterItemStep
  split
  · next h => exact takenAsFirst_reserved hv (by rw [h]; decide)
  · split
    · split <;> trivial
    · split <;> trivial

theorem selectListStep_first (hv : v.Reachable) : TakenAsFirst v t (selectListStep v q t) := by
  unfold selectListStep
  split
  · next h => exact takenAsFirst_reserved hv (by rw [h]; decide)
  · split
    · next h => exact takenAsFirst_word h (by simp)
    · trivial

theorem afterTableStep_first : TakenAsFirst v t (afterTableStep v q t) := by
  unfold afterTableStep
  split
  · next h => exact takenAsFirst_word h (by simp)
  · split
    · split
      · next h => exact takenAsFirst_word h (by simp)
      · trivial
    · trivial

theorem insertColumnsStep_first (hv : v.Reachable) :
    TakenAsFirst v t (insertColumnsStep v q t) := by
  unfold insertColumnsStep
  split
  · next h => exact takenAsFirst_reserved hv (by rw [h]; decide)
  · split <;> trivial

theorem insertValuesStep_first (hv : v.Reachable) : TakenAsFirst v t (insertValuesStep q t) := by
  unfold insertValuesStep
  split
  · next h => exact takenAsFirst_reserved hv (by rw [h]; decide)
  · trivial

theorem assignmentStep_first (hv : v.Reachable) : TakenAsFirst v t (assignmentStep v q t) := by
  unfold assignmentStep
  split
  · next h => exact takenAsFirst_reserved hv (by rw [h]; decide)
  · split
    · next h => exact takenAsFirst_word h (by simp)
    · trivial

theorem afterAssignmentStep_first (hv : v.Reachable) :
    TakenAsFirst v t (afterAssignmentStep v q t) := by
  unfold afterAssignmentStep
  split
  · next h => exact takenAsFirst_reserved hv (by rw [h]; decide)
  · split
    · next h => exact takenAsFirst_word h (by simp)
    · trivial

theorem comparisonStep_first (hv : v.Reachable) (f : String) :
    TakenAsFirst v t (comparisonStep v q t f) := by
  unfold comparisonStep
  split
  · next c hc =>
    intro op ht
    rw [ofSymbol?_eq_none_of_alias hv ht] at hc
    cases hc
  · split
    · next h => exact takenAsFirst_word h (by simp)
    · split
      · next h => exact takenAsFirst_word h (by simp)
      · trivial

theorem negationStep_first (f : String) : TakenAsFirst v t (negationStep v q t f) := by
  unfold negationStep
  split
  · next h => exact takenAsFirst_word h (by simp)
  · trivial

theorem afterConditionStep_first : TakenAsFirst v t (afterConditionStep v q t) := by
  unfold afterConditionStep
  split
  · next h => exact takenAsFirst_word h (by simp)
  · split
    · next h => exact takenAsFirst_word h (by simp)
    · trivial

/-- A word that is taken for a keyword is a word for its operation. -/
theorem resolve_of_taken (h : step v q t s = .ok (.take s' q'))
    (hu : takenAs v t s = .keyword op) : v.resolve t = some op := by
  unfold takenAs at hu
  split at hu
  · cases hu
    rw [step] at h
    split at h
    · next ha => exact (isAliasOf_iff t op).mp ha
    · cases h
  all_goals try cases hu
  · split at hu <;> cases hu
  · split at hu
    · next heq =>
      cases hu
      exact heq
    · cases hu

/-- What is taken as a word of a keyword is taken as its first word. -/
theorem step_first (hv : v.Reachable) (hs : Proper s q) (hu : takenAs v t s = .keyword op) :
    TakenAsFirst v t (step v q t s) := by
  cases s with
  | symbol text next =>
    rw [step]
    split
    · next h => exact takenAsFirst_reserved hv (by rw [h, hs.1]; decide)
    · trivial
  | keyword op' next =>
    rw [step]
    split
    · next h => exact takenAsFirst_word h fun ho => absurd ho hs.1
    · trivial
  | keywordTail op' next =>
    rcases takenAs_keywordTail next with h | ⟨h, -⟩ <;> rw [h] at hu <;> cases hu
  | store slot next => cases hu
  | item slot stop next => cases hu
  | afterItem slot stop next => exact afterItemStep_first hv slot stop next
  | selectList => exact selectListStep_first hv
  | afterTable => exact afterTableStep_first
  | insertColumns => exact insertColumnsStep_first hv
  | insertValues => exact insertValuesStep_first hv
  | assignment => exact assignmentStep_first hv
  | afterAssignment => exact afterAssignmentStep_first hv
  | field => cases hu
  | comparison f => exact comparisonStep_first hv f
  | negation f => exact negationStep_first f
  | operand f c =>
    rw [takenAs] at hu
    split at hu <;> cases hu
  | afterCondition => exact afterConditionStep_first
  | done => trivial

theorem isBehindNot_of_taken (h : step v q t s = .ok (.take s' q'))
    (hu : takenAs v t s = .isBehindNot) : q' = q ∧ ∃ f c, s' = .operand f c := by
  unfold takenAs at hu
  split at hu
  case h_2 f c =>
    rw [step] at h
    split at h
    · cases h
      exact ⟨rfl, f, c, rfl⟩
    · cases h
  case h_7 => split at hu <;> cases hu
  case h_8 => split at hu <;> cases hu
  all_goals cases hu

/-! ## A second word -/

/-- Behind the only word of a keyword a second one is passed over. -/
theorem reads_second (hs : PassesSecond op s) (ha : v.resolve a = some op)
    (hn : (uses v q s post)[0]? ≠ some (.again op)) :
    Reads v s q (a :: post) q' ↔ Reads v s q post q' := by
  have hb : ∀ b ∈ post.head?, v.resolve b ≠ some op := by
    intro b hb hr
    obtain ⟨post', rfl⟩ := List.head?_eq_some_iff.mp hb
    obtain ⟨next, rfl, -⟩ := id hs
    have ht : step v q b (.keywordTail op next) = .ok (.take next q) := by
      rw [step, if_pos ((isAliasOf_iff b op).mpr hr)]
    rw [uses, feed_take ht] at hn
    exact hn (by simp [use_take ht, hs.takenAs])
  obtain ⟨next, rfl, -⟩ := hs
  rw [reads_keywordTail, reads_keywordTail]
  constructor
  · rintro ⟨rest, hr, h⟩
    cases hr with
    | absent hr => exact absurd ha (hr a rfl)
    | present => exact ⟨post, .absent hb, h⟩
  · rintro ⟨rest, hr, h⟩
    cases hr with
    | absent => exact ⟨post, .present ha, h⟩
    | present hr => exact absurd hr (hb _ rfl)

theorem conditions_of_afterCondition (h : Reads v .afterCondition q post q') :
    ∃ cs, q'.conditions = q.conditions ++ cs := by
  rcases reads_afterCondition.mp h with ⟨-, rfl⟩ | ⟨k, rest, -, h⟩
  · exact ⟨[], by simp⟩
  · obtain ⟨cs, ks, -, rfl⟩ := conditions_of_reads h
    exact ⟨cs, rfl⟩

/-- Where an operand is due, one more word for IS changes what the statement says. -/
theorem not_reads_operand_is (f : String) (c : Comparison) (ha : v.resolve a = some .is)
    (hr : Reads v (.operand f c) q post q') : ¬ Reads v (.operand f c) q (a :: post) q' := by
  intro h'
  obtain ⟨t, rest, rfl, h⟩ := (reads_operand f c).mp hr
  obtain ⟨_, _, ⟨⟩, h'⟩ := (reads_operand f c).mp h'
  obtain ⟨cs, hc⟩ := conditions_of_afterCondition h
  obtain ⟨cs', hc'⟩ := conditions_of_afterCondition h'
  have ho : operandOf v c a = .literal a := by simp [operandOf, isAliasOf_iff, ha]
  -- Both readings put their operand at the same place, so the operand is the word itself.
  have ht : operandOf v c t = .literal a := by
    simp only [hc, Query.pushCondition, List.append_assoc, List.append_cancel_left_eq,
      List.singleton_append, List.cons.injEq, Condition.mk.injEq, true_and, ho] at hc'
    exact hc'.1
  have hta : t = a := by
    unfold operandOf at ht
    split at ht <;> cases ht
    rfl
  rcases reads_afterCondition.mp h' with ⟨hn, -⟩ | ⟨k, rest', ⟨hk, -⟩, -⟩
  · cases hn
  · rw [hta, ha] at hk
    cases k <;> cases hk

/-- A second word behind the only word of a keyword, anywhere in a run. -/
theorem reads_doubled_iff (hv : v.Reachable) (hs : Proper s q) {u : Use}
    (h : Reads v s q (pre ++ t :: post) q')
    (hu : (uses v q s (pre ++ t :: post))[pre.length]? = some u) (ho : u.opens? = some op)
    (hn : (uses v q s (pre ++ t :: post))[pre.length + 1]? ≠ some (.again op))
    (ha : v.resolve a = some op) :
    Reads v s q (pre ++ t :: a :: post) q' ↔ u ≠ .isBehindNot := by
  obtain ⟨s₁, q₁, hp, h⟩ := (reads_append pre (t :: post)).mp h
  obtain ⟨s₂, q₂, hf, h⟩ := (reads_cons_iff t post).mp h
  obtain ⟨hut, hun⟩ := uses_at post hp hf
  have hg : Reads v s q (pre ++ t :: a :: post) q' ↔ Reads v s₂ q₂ (a :: post) q' := by
    simp [reads_append, reads_cons_iff t, hp, hf, and_assoc]
  rw [hun] at hn
  obtain ⟨s₀, hc, ht, hu₀⟩ := exists_taker hf
  have hs₀ := proper_of_handsOn (feedAll_proper hs hp) hc
  rw [hut, hu₀, Option.some.injEq] at hu
  rw [hg]
  cases u with
  | keyword op' =>
    cases ho
    have hd := step_first hv hs₀ hu
    rw [ht] at hd
    have hd := hd op (resolve_of_taken ht hu)
    simpa [reads_second hd ha hn] using h
  | isBehindNot =>
    cases ho
    obtain ⟨rfl, f, c, rfl⟩ := isBehindNot_of_taken ht hu
    simpa using not_reads_operand_is f c ha h
  | _ => cases ho

end SlangSql.Reader

namespace SlangSql.Vocabulary
open Reader

theorem readTokens_doubled_iff {v : Vocabulary} (hv : v.Reachable) {pre post : List String}
    {t a : String} {q : Query} {u : Use} {op : Operation}
    (h : v.readTokens (pre ++ t :: post) = .ok q)
    (hu : (v.uses (pre ++ t :: post))[pre.length]? = some u) (ho : u.opens? = some op)
    (hn : (v.uses (pre ++ t :: post))[pre.length + 1]? ≠ some (.again op))
    (ha : v.resolve a = some op) :
    v.readTokens (pre ++ t :: a :: post) = .ok q ↔ u ≠ .isBehindNot := by
  cases pre with
  | nil =>
    obtain ⟨k, hk, h⟩ := (readTokens_cons_eq_ok_iff t).mp h
    simp only [List.nil_append, Vocabulary.uses, hk, List.length_nil, List.getElem?_cons_zero,
      Option.some.injEq, Nat.zero_add, List.getElem?_cons_succ] at hu hn
    subst hu
    cases ho
    simp [readTokens_cons_eq_ok_iff, hk, reads_second (passesSecond_start k) ha hn, h]
  | cons first pre =>
    obtain ⟨k, hk, h⟩ := (readTokens_cons_eq_ok_iff first).mp h
    simp only [List.cons_append, Vocabulary.uses, hk, List.length_cons,
      List.getElem?_cons_succ] at hu hn
    rw [← reads_doubled_iff hv (proper_start k) h hu ho hn ha]
    simp [readTokens_cons_eq_ok_iff, hk]

/-- Let a token of a statement be the only word of its keyword. One more word for the operation
behind it leaves the query as it is, unless the token is the word for IS behind NOT: then the query
is another one, or there is none. -/
theorem read_doubled_iff (v : Vocabulary) (hv : v.Reachable) (text doubled : String) (q : Query)
    (pre post : List String) (t a : String) (u : Use) (op : Operation)
    (h : v.read text = .ok q) (ht : tokenize text = pre ++ t :: post)
    (hu : (v.uses (tokenize text))[pre.length]? = some u) (ho : u.opens? = some op)
    (hn : (v.uses (tokenize text))[pre.length + 1]? ≠ some (.again op))
    (ha : v.resolve a = some op) (hd : tokenize doubled = pre ++ t :: a :: post) :
    v.read doubled = .ok q ↔ u ≠ .isBehindNot := by
  rw [ht] at hu hn
  rw [Vocabulary.read, ht] at h
  rw [Vocabulary.read, hd]
  exact readTokens_doubled_iff hv h hu ho hn ha

end SlangSql.Vocabulary

namespace SlangSql
open Vocabulary

def presentEmails : Query :=
  { kind := .select, table := some "users", columns := ["*"],
    conditions := [⟨"email", .isNot, .null⟩] }

/-- The word for IS stands before NOT here, so a second one may follow it. -/
theorem read_presentEmails_doubled :
    standard.read "tralalero * lirili users patapim email bobrito zibra girafa" =
        .ok presentEmails ∧
      standard.read "tralalero * lirili users patapim email bobrito bandito zibra girafa" =
        .ok presentEmails := by
  have h : standard.read "tralalero * lirili users patapim email bobrito zibra girafa" =
        .ok presentEmails ∧
      standard.uses (tokenize "tralalero * lirili users patapim email bobrito zibra girafa") =
        [.keyword .select, .symbol, .keyword .from, .stored, .keyword .where, .stored,
          .keyword .is, .keyword .not, .null] ∧
      standard.resolve "bandito" = some .is := by
    rw [standard_eq_seedWords]
    with_unfolding_all decide
  obtain ⟨hr, hu, ha⟩ := h
  refine ⟨hr, ?_⟩
  rw [read_doubled_iff standard .standard _ _ _
    ["tralalero", "*", "lirili", "users", "patapim", "email"] ["zibra", "girafa"]
    "bobrito" "bandito" (.keyword .is) .is hr]
  · decide
  · with_unfolding_all decide
  · rw [hu]
    rfl
  · rfl
  · rw [hu]
    decide
  · exact ha
  · with_unfolding_all decide

/-- Behind NOT a second word for IS is the operand, and the word for NULL is too much. -/
theorem read_doubled_is_behind_not :
    standard.read "tralalero * lirili users patapim email zibra bobrito girafa" =
        .ok presentEmails ∧
      (standard.uses (tokenize
        "tralalero * lirili users patapim email zibra bobrito girafa"))[7]? = some .isBehindNot ∧
      standard.resolve "bandito" = some .is ∧
      standard.read "tralalero * lirili users patapim email zibra bobrito bandito girafa" =
        .error (.unexpectedToken (standard.aliasesOf .and ++ standard.aliasesOf .or ++
          [Reader.endOfQuery]) "girafa") := by
  rw [standard_eq_seedWords]
  with_unfolding_all decide

end SlangSql
