import SlangSql.Proofs.Completion

/-!
# How a token is handed on

A token goes from state to state until one of them takes or refuses it. The loop
below changes the query in place, at every step and whatever becomes of the
token, and nothing in it says that it ends. It does end, because each handover
lowers the rank of the state, and a step that hands the token on leaves the
query alone, so that only the last step can change it. States that hand on can
be stacked to any height, but where the tokens of a statement lead there are
never more than two of them in a row.
-/

set_option autoImplicit false

namespace SlangSql.Reader

/-- The query as a step leaves it, whatever becomes of the token. -/
def queryAfter (v : Vocabulary) (q : Query) (token : String) : State → Query
  | .store slot _ => if isPunctuation token then q else slot.fill q token
  | .item slot stop _ =>
    if isPunctuation token || stop.matches v token then q
    else if slot = .value ∧ q.valuesFull then q
    else slot.fill q token
  | .selectList =>
    if token = "*" then q.pushColumn "*"
    else if v.isAliasOf token .all then q.pushColumn "*"
    else q
  | .operand field c => q.pushCondition ⟨field, c, operandOf v c token⟩
  | .afterCondition =>
    if v.isAliasOf token .and then q.pushConnective .and
    else if v.isAliasOf token .or then q.pushConnective .or
    else q
  | _ => q

/-- How often a step changes the query: once or not at all. -/
def changes (v : Vocabulary) (q : Query) (token : String) (s : State) : Nat :=
  if queryAfter v q token s = q then 0 else 1

/-- One handover: the loop goes on in the next state with the query that the step has left. -/
def Defers (v : Vocabulary) (t : String) (p p' : State × Query) : Prop :=
  step v p.2 t p.1 = .ok (.handOn p'.1) ∧ p'.2 = queryAfter v p.2 t p.1

/-- The loop of one token: it is handed on `n` times, `m` of all the steps change the query, and it
ends with an outcome and with the query as it is then. -/
inductive Loop (v : Vocabulary) (t : String) :
    State × Query → Nat → Nat → Except Error State → Query → Prop
  | take {s next : State} {q q' : Query} (h : step v q t s = .ok (.take next q')) :
      Loop v t (s, q) 0 (changes v q t s) (.ok next) (queryAfter v q t s)
  | refuse {s : State} {q : Query} {e : Error} (h : step v q t s = .error e) :
      Loop v t (s, q) 0 (changes v q t s) (.error e) (queryAfter v q t s)
  | handOn {s : State} {q q' : Query} {p : State × Query} {n m : Nat} {r : Except Error State}
      (h : Defers v t (s, q) p) (hl : Loop v t p n m r q') :
      Loop v t (s, q) (n + 1) (changes v q t s + m) r q'

variable {v : Vocabulary} {q q' : Query} {t : String} {s s' next : State}

/-! ## The query of one step -/

/-- The query is left as the next state gets it, or untouched where the token is not taken. -/
def LeavesQuery (q left : Query) : Except Error Transition → Prop
  | .ok (.take _ q') => left = q'
  | .ok (.handOn _) => left = q
  | .error _ => left = q

theorem step_leavesQuery (v : Vocabulary) (q : Query) (t : String) (s : State) :
    LeavesQuery q (queryAfter v q t s) (step v q t s) := by
  cases s with
  | store slot next =>
    rw [step, queryAfter]
    split
    · rfl
    · rfl
  | item slot stop next =>
    rw [step, itemStep, queryAfter]
    split
    · rfl
    · split
      · rfl
      · rfl
  | selectList =>
    -- The only state that stores some tokens and hands others on.
    rw [step, selectListStep, queryAfter]
    split
    · rfl
    · split
      · rfl
      · rfl
  | operand f c => rfl
  | afterCondition =>
    rw [step, afterConditionStep, queryAfter]
    split
    · rfl
    · split
      · rfl
      · rfl
  | _ =>
    -- The other states store nothing.
    simp only [step, afterItemStep, afterTableStep, insertColumnsStep, insertValuesStep,
      assignmentStep, afterAssignmentStep, comparisonStep, negationStep, unexpected, queryAfter]
    repeat' split
    all_goals rfl

theorem queryAfter_of_take (h : step v q t s = .ok (.take next q')) :
    queryAfter v q t s = q' := by
  have hq := step_leavesQuery v q t s
  rwa [h] at hq

theorem queryAfter_of_handOn (h : step v q t s = .ok (.handOn next)) :
    queryAfter v q t s = q := by
  have hq := step_leavesQuery v q t s
  rwa [h] at hq

theorem Defers.query_eq {p p' : State × Query} (h : Defers v t p p') : p'.2 = p.2 :=
  h.2.trans (queryAfter_of_handOn h.1)

theorem Defers.rank_lt {p p' : State × Query} (h : Defers v t p p') : p'.1.rank < p.1.rank :=
  rank_lt_of_handOn h.1

theorem changes_of_handOn (h : step v q t s = .ok (.handOn next)) : changes v q t s = 0 :=
  if_pos (queryAfter_of_handOn h)

theorem changes_le_one : changes v q t s ≤ 1 := by
  unfold changes
  split <;> omega

/-! ## The loop -/

/-- No token is handed on for ever. -/
theorem not_forever_defers (p : Nat → State × Query) : ¬ ∀ i, Defers v t (p i) (p (i + 1)) := by
  intro h
  have hr : ∀ i, (p i).1.rank + i ≤ (p 0).1.rank := by
    intro i
    induction i with
    | zero => omega
    | succ i ih =>
      have hlt := (h i).rank_lt
      omega
  have hl := hr ((p 0).1.rank + 1)
  omega

theorem exists_loop (v : Vocabulary) (t : String) (s : State) (q : Query) :
    ∃ n m r q', Loop v t (s, q) n m r q' := by
  induction s using handOn_induction (v := v) (q := q) t with
  | h s ih =>
    cases hs : step v q t s with
    | error e => exact ⟨0, _, _, _, .refuse hs⟩
    | ok r =>
      cases r with
      | take next q₁ => exact ⟨0, _, _, _, .take hs⟩
      | handOn next =>
        obtain ⟨n, m, r, q', hl⟩ := ih next hs
        exact ⟨n + 1, _, r, q', .handOn ⟨hs, (queryAfter_of_handOn hs).symm⟩ hl⟩

variable {p : State × Query} {n m : Nat} {r : Except Error State}

theorem Loop.handovers_le (h : Loop v t p n m r q') : n ≤ p.1.rank := by
  induction h with
  | take => exact Nat.zero_le _
  | refuse => exact Nat.zero_le _
  | handOn hd _ ih => exact Nat.lt_of_le_of_lt ih hd.rank_lt

theorem Loop.changes_le (h : Loop v t p n m r q') : m ≤ 1 := by
  induction h with
  | take => exact changes_le_one
  | refuse => exact changes_le_one
  | handOn hd _ ih =>
    rw [changes_of_handOn hd.1]
    omega

/-- What `feed` computes is what the loop ends with. -/
theorem Loop.feed_eq (h : Loop v t p n m r q') : feed v p.2 t p.1 = r.map (·, q') := by
  induction h with
  | take hs => rw [feed_take hs, queryAfter_of_take hs, Except.map]
  | refuse hs => rw [feed_error hs, Except.map]
  | @handOn s q q' p n m r hd _ ih =>
    rw [feed_handOn hd.1, ← ih, hd.query_eq]

/-- A token that is no second word of a keyword passes its tail. -/
theorem loop_keywordTail {op : Operation} (ht : v.isAliasOf t op = false)
    (h : Loop v t (next, q) n m r q') : Loop v t (.keywordTail op next, q) (n + 1) m r q' := by
  have hs : step v q t (.keywordTail op next) = .ok (.handOn next) := by
    rw [step, if_neg (by simp [ht])]
  have hl := Loop.handOn ⟨hs, (queryAfter_of_handOn hs).symm⟩ h
  rwa [changes_of_handOn hs, Nat.zero_add] at hl

/-- An operand is stored without a handover. -/
theorem loop_operand (v : Vocabulary) (q : Query) (t f : String) (c : Comparison) :
    Loop v t (.operand f c, q) 0 1 (.ok .afterCondition)
      (q.pushCondition ⟨f, c, operandOf v c t⟩) := by
  have hc : changes v q t (.operand f c) = 1 := by
    apply if_neg
    intro h
    simpa [queryAfter, Query.pushCondition] using congrArg Query.conditions h
  have hl := Loop.take (v := v) (q := q) (t := t) (s := .operand f c) rfl
  rwa [hc] at hl

/-! ## Where a statement leads -/

/-- The highest rank of this state and of those it leads to through what it carries. A keyword leads
to its tail and a list item to the place behind it, and both of these hand on to what follows. -/
def State.depth : State → Nat
  | .symbol _ next => next.depth
  | .keyword _ next => max (next.rank + 1) next.depth
  | .keywordTail _ next => max (next.rank + 1) next.depth
  | .store _ next => next.depth
  | .item _ _ next => max (next.rank + 1) next.depth
  | .afterItem _ _ next => max (next.rank + 1) next.depth
  | s => s.rank

theorem State.rank_le_depth (s : State) : s.rank ≤ s.depth := by
  cases s with
  | keywordTail op next => exact Nat.le_max_left _ _
  | afterItem slot stop next => exact Nat.le_max_left _ _
  | _ => simp [rank, depth]

/-- A step leads no deeper than the state was, or than two. -/
def ShallowAfter (s : State) : Except Error Transition → Prop
  | .ok (.take next _) => next.depth ≤ max s.depth 2
  | .ok (.handOn next) => next.depth ≤ max s.depth 2
  | .error _ => True

theorem step_shallow (v : Vocabulary) (q : Query) (t : String) (s : State) :
    ShallowAfter s (step v q t s) := by
  cases s with
  | symbol text next =>
    rw [step]
    split
    · exact Nat.le_max_left _ _
    · trivial
  | keyword op next =>
    rw [step]
    split
    · exact Nat.le_max_left _ _
    · trivial
  | keywordTail op next =>
    have hn : next.depth ≤ max (State.keywordTail op next).depth 2 := by
      simp only [State.depth]
      omega
    rw [step]
    split
    · exact hn
    · exact hn
  | store slot next =>
    rw [step]
    split
    · trivial
    · exact Nat.le_max_left _ _
  | item slot stop next =>
    rw [step, itemStep]
    split
    · trivial
    · split
      · trivial
      · exact Nat.le_max_left _ _
  | afterItem slot stop next =>
    have hn : next.depth ≤ max (State.afterItem slot stop next).depth 2 := by
      simp only [State.depth]
      omega
    rw [step, afterItemStep]
    split
    · exact Nat.le_max_left _ _
    · split
      · split
        · trivial
        · exact hn
      · split
        · trivial
        · exact Nat.le_max_left _ _
  | _ =>
    -- The points of the statements build the next state themselves, so its depth is a number.
    simp only [step, selectListStep, afterTableStep, insertColumnsStep, insertValuesStep,
      assignmentStep, afterAssignmentStep, comparisonStep, negationStep, afterConditionStep,
      unexpected]
    repeat' split
    all_goals simp [ShallowAfter, State.depth, State.rank, State.fromTable, State.conditions,
      State.valuesClause, State.assignColumn, State.assignValue]

theorem depth_le_of_feed (hf : feed v q t s = .ok (s', q')) : s'.depth ≤ max s.depth 2 := by
  induction s using handOn_induction (v := v) (q := q) t with
  | h s ih =>
    have hd := step_shallow v q t s
    cases hs : step v q t s with
    | error e =>
      rw [feed_error hs] at hf
      cases hf
    | ok r =>
      rw [hs] at hd
      cases r with
      | take next q₁ =>
        rw [feed_take hs] at hf
        cases hf
        exact hd
      | handOn next =>
        rw [feed_handOn hs] at hf
        have hn := ih next hs hf
        simp only [ShallowAfter] at hd
        omega

theorem Reaches.depth_le {ts : List String} (h : Reaches v ts s q) : s.depth ≤ 2 := by
  induction h with
  | @first t k hk => cases k <;> decide
  | next h hf ih =>
    have hd := depth_le_of_feed hf
    omega

/-- A token is taken or refused after finitely many handovers, in every state and whatever it
carries. A handover leaves the query as it is, so at most one step of the token changes it, and the
outcome is that of `feed`. Where tokens lead the reader, a token is handed on twice at most. -/
theorem feed_settles (v : Vocabulary) (t : String) (s : State) (q : Query) :
    (¬ ∃ p : Nat → State × Query, p 0 = (s, q) ∧ ∀ i, Defers v t (p i) (p (i + 1))) ∧
      (∀ s' q', Defers v t (s, q) (s', q') → q' = q) ∧
      (∃ n m r q', Loop v t (s, q) n m r q') ∧
      ∀ n m r q', Loop v t (s, q) n m r q' →
        n ≤ s.rank ∧ m ≤ 1 ∧ feed v q t s = r.map (·, q') ∧
          ∀ ts, Reaches v ts s q → n ≤ 2 := by
  refine ⟨?_, ?_, exists_loop v t s q, ?_⟩
  · rintro ⟨p, -, hp⟩
    exact not_forever_defers p hp
  · intro s' q' h
    exact h.query_eq
  · intro n m r q' h
    refine ⟨h.handovers_le, h.changes_le, h.feed_eq, ?_⟩
    intro ts hr
    calc
      n ≤ s.rank := h.handovers_le
      _ ≤ s.depth := s.rank_le_depth
      _ ≤ 2 := hr.depth_le

/-- Behind the word for NOT in a condition: IS and the operand are still to come. -/
def State.behindNot (field : String) : State :=
  .keywordTail .not (.keywordTail .is (.operand field .isNot))

/-- All users, on the conditions in the list. -/
def usersWith (conditions : List Condition) : Query :=
  { kind := .select, table := some "users", columns := ["*"], conditions := conditions }

/-- Two handovers do occur: a word for NULL behind a word for NOT passes both tails. -/
theorem null_behind_not_settles :
    (∃ ts, ts <+: tokenize "tralalero * lirili users patapim email zibra girafa" ∧
        Reaches .standard ts (.behindNot "email") (usersWith [])) ∧
      Loop .standard "girafa" (.behindNot "email", usersWith []) 2 1 (.ok .afterCondition)
        (usersWith [⟨"email", .isNot, .null⟩]) ∧
      feed .standard (usersWith []) "girafa" (.behindNot "email") =
        .ok (.afterCondition, usersWith [⟨"email", .isNot, .null⟩]) ∧
      ∀ n m r q', Loop .standard "girafa" (.behindNot "email", usersWith []) n m r q' → n ≤ 2 := by
  have ht : ["tralalero", "*", "lirili", "users", "patapim", "email", "zibra"] <+:
      tokenize "tralalero * lirili users patapim email zibra girafa" := by
    with_unfolding_all decide
  have hr : Reaches .standard ["tralalero", "*", "lirili", "users", "patapim", "email", "zibra"]
      (.behindNot "email") (usersWith []) := by
    have hk : Vocabulary.standard.statementKind? "tralalero" = some .select := by
      rw [Vocabulary.standard_eq_seedWords]
      decide
    have hf : feedAll .standard { kind := .select } (.keywordTail .select .selectList)
        ["*", "lirili", "users", "patapim", "email", "zibra"] =
          .ok (.behindNot "email", usersWith []) := by
      rw [Vocabulary.standard_eq_seedWords]
      with_unfolding_all decide
    exact (Reaches.first hk).feedAll hf
  have hl : Loop .standard "girafa" (.behindNot "email", usersWith []) 2 1 (.ok .afterCondition)
      (usersWith [⟨"email", .isNot, .null⟩]) := by
    have hn : Vocabulary.standard.isAliasOf "girafa" .not = false := by
      rw [Vocabulary.standard_eq_seedWords]
      decide
    have hi : Vocabulary.standard.isAliasOf "girafa" .is = false := by
      rw [Vocabulary.standard_eq_seedWords]
      decide
    have hnull : operandOf .standard .isNot "girafa" = .null := by
      rw [Vocabulary.standard_eq_seedWords]
      decide
    have ho := loop_operand .standard (usersWith []) "girafa" "email" .isNot
    rw [hnull] at ho
    exact loop_keywordTail hn (loop_keywordTail hi ho)
  obtain ⟨-, -, -, h⟩ := feed_settles .standard "girafa" (.behindNot "email") (usersWith [])
  refine ⟨⟨_, ht, hr⟩, hl, (h _ _ _ _ hl).2.2.1, ?_⟩
  intro n m r q' hl'
  exact (h n m r q' hl').2.2.2 _ hr

end SlangSql.Reader
