import SlangSql.Proofs.ReaderStates
import SlangSql.Proofs.SqlTokens
import SlangSql.Proofs.VocabularyHistory

/-!
# Texts that can be completed

A text that stops too early is told apart from a text that is wrong. Wherever a
run can stop, some tokens complete the statement, as long as every operation
has a word. There is one exception: an INSERT that has a value for each of its
columns, and then a comma. The reader asks for one more value and would refuse
every one.
-/

set_option autoImplicit false

namespace SlangSql

/-- Every operation has a word. -/
def Vocabulary.Complete (v : Vocabulary) : Prop :=
  ∀ op, ∃ w, Token.IsClosed w.toList ∧ v.resolve w = some op

theorem Vocabulary.complete_standard : standard.Complete := by
  have h : ∀ op ∈ Operation.list, ∃ g ∈ seed, g.1 = op ∧ ∃ w ∈ g.2,
      Token.IsWord w.toList ∧ seedWords.owner? w = some op := by
    decide
  intro op
  obtain ⟨g, hg, -, w, hw, hc, ho⟩ := h op (Operation.mem_list op)
  refine ⟨w, Or.inr (Or.inr hc), ?_⟩
  rw [resolve, fold_seed g hg w hw, standard_eq_seedWords, ho]

theorem Vocabulary.complete_afterAll (cs : List Addition) : (standard.afterAll cs).Complete := by
  intro op
  obtain ⟨w, hw, hr⟩ := complete_standard op
  exact ⟨w, hw, resolve_afterAll cs hr⟩

namespace Reader
open Grammar

variable {v : Vocabulary} {q q' : Query} {s s' : State} {t : String} {slot : Slot} {stop : Stop}
  {next : State}

/-! ## Completing a statement -/

/-- Some tokens that a text can hold complete the statement. -/
def Completable (v : Vocabulary) (s : State) (q : Query) : Prop :=
  ∃ us q', (∀ t ∈ us, Token.IsClosed t.toList) ∧ Reads v s q us q'

theorem completable_nil (h : missing? q s = none) : Completable v s q :=
  ⟨[], q, by simp, (reads_nil s).mpr ⟨rfl, h⟩⟩

theorem completable_of_take (ht : Token.IsClosed t.toList)
    (hs : step v q t s = .ok (.take s' q')) (h : Completable v s' q') : Completable v s q := by
  obtain ⟨us, q'', hu, hr⟩ := h
  refine ⟨t :: us, q'', List.forall_mem_cons.mpr ⟨ht, hu⟩, ?_⟩
  rwa [reads_cons, hs]

theorem isClosed_star : Token.IsClosed "*".toList := Or.inr (Or.inr (by decide))

theorem isClosed_equals : Token.IsClosed "=".toList := Or.inr (Or.inr (by decide))

theorem isClosed_open : Token.IsClosed "(".toList := Or.inl Token.isMark_open

theorem isClosed_close : Token.IsClosed ")".toList := Or.inl Token.isMark_close

theorem completable_keywordTail (hw : v.Complete) (op : Operation) (h : Completable v next q) :
    Completable v (.keywordTail op next) q := by
  -- A second word is written, so that no token behind it can be taken for one.
  obtain ⟨w, hc, hr⟩ := hw op
  refine completable_of_take hc ?_ h
  rw [step, if_pos ((isAliasOf_iff w op).mpr hr)]

theorem completable_keyword (hw : v.Complete) (op : Operation) (h : Completable v next q) :
    Completable v (.keyword op next) q := by
  obtain ⟨w, hc, hr⟩ := hw op
  refine completable_of_take hc ?_ (completable_keywordTail hw op h)
  rw [step, if_pos ((isAliasOf_iff w op).mpr hr)]

theorem completable_symbol (h : Completable v next q) : Completable v (.symbol ")" next) q :=
  completable_of_take isClosed_close (by rw [step, if_pos rfl]) h

theorem completable_store (h : Completable v next (slot.fill q "*")) :
    Completable v (.store slot next) q :=
  completable_of_take isClosed_star (by rw [step, if_neg (by decide)]) h

theorem completable_operand (f : String) (c : Comparison) : Completable v (.operand f c) q :=
  completable_of_take isClosed_star rfl (completable_nil rfl)

theorem completable_field : Completable v .field q := by
  have hs : step v q "*" .field = .ok (.take (.comparison "*") q) := rfl
  refine completable_of_take isClosed_star hs ?_
  exact completable_of_take isClosed_equals rfl (completable_operand "*" .equal)

/-! ## Completing a list -/

/-- No list is stopped by a reserved token but the closing mark. -/
theorem matches_eq_false (hv : v.Reachable) (hl : Closes stop next) (hp : Proper next q)
    (ht : t ∈ Vocabulary.reserved) (hc : t ≠ ")") : stop.matches v t = false := by
  cases stop with
  | keyword op => exact hv.not_alias_of_reserved ht op
  | symbol text =>
    obtain ⟨next', rfl⟩ := hl
    simpa [Stop.matches, hp.1] using hc
  | endOfText => rfl

theorem ends_of_reads {us : List String} (hl : Closes stop next) (h : Reads v next q us q') :
    Ends v stop us := by
  cases stop with
  | keyword op =>
    obtain ⟨next', rfl⟩ := hl
    obtain ⟨rest, ⟨ht, -⟩, -⟩ := (reads_keyword op _).mp h
    exact (isAliasOf_iff _ op).mpr ht
  | symbol text =>
    obtain ⟨next', rfl⟩ := hl
    obtain ⟨rest, rfl, -⟩ := (reads_symbol text _).mp h
    simp [Ends, Stop.matches]
  | endOfText =>
    cases hl
    obtain ⟨rfl, -⟩ := reads_done.mp h
    rfl

theorem closedBy_of_closes (hl : Closes stop next) : ClosedBy stop next := by
  rintro rfl
  exact hl

theorem moreNames_replicate {ok : String → Prop} (ht : ok t) (n : Nat) (rest : List String) :
    MoreNames ok (List.replicate n t ++ rest) (List.replicate n t) rest := by
  induction n with
  | zero => exact .none
  | succ n ih => exact .plain ht ih

theorem exists_fits (h : HasRoom slot q 0) : ∃ n, Fits slot q n := by
  refine ⟨q.columns.length - q.values.length, ?_⟩
  intro hs
  rcases h hs with hc | hl
  · exact Or.inl hc
  · exact Or.inr (by omega)

theorem completable_afterItem (hv : v.Reachable) (h : Proper (.afterItem slot stop next) q)
    (hn : ∀ ns, Completable v next (fillAll slot q ns)) :
    Completable v (.afterItem slot stop next) q := by
  obtain ⟨hl, hp⟩ := h
  have hi : IsItem v stop "*" :=
    ⟨by decide, matches_eq_false hv hl.closes (hp []) (by decide) (by decide)⟩
  have hc : stop.matches v "," = false :=
    matches_eq_false hv hl.closes (hp []) (by decide) (by decide)
  obtain ⟨n, hf⟩ := exists_fits hl.room
  obtain ⟨us, q', hu, hr⟩ := hn (List.replicate n "*")
  refine ⟨List.replicate n "*" ++ us, q', ?_, ?_⟩
  · intro t ht
    rcases List.mem_append.mp ht with ht | ht
    · rw [List.eq_of_mem_replicate ht]
      exact isClosed_star
    · exact hu t ht
  · exact reads_of_moreNames hc (closedBy_of_closes hl.closes) (moreNames_replicate hi n us)
      (ends_of_reads hl.closes hr) (by simpa using hf) hr

theorem completable_item (hv : v.Reachable) (h : Proper (.item slot stop next) q)
    (hr : HasRoom slot q 1) (hn : ∀ ns, Completable v next (fillAll slot q ns)) :
    Completable v (.item slot stop next) q := by
  have hm : stop.matches v "*" = false :=
    matches_eq_false hv h.1.closes (h.2 []) (by decide) (by decide)
  have hs : step v q "*" (.item slot stop next) =
      .ok (.take (.afterItem slot stop next) (slot.fill q "*")) := by
    rw [step, itemStep, if_neg (by simp [isPunctuation, hm]),
      if_neg ((not_valuesFull_iff slot).mpr hr)]
  refine completable_of_take isClosed_star hs (completable_afterItem hv ?_ fun ns => hn ("*" :: ns))
  exact ⟨h.1.fill hr, fun ns => h.2 ("*" :: ns)⟩

/-! ## Every state can be completed but one -/

/-- One more value is due, and all columns have theirs. -/
def Stuck (s : State) (q : Query) : Prop :=
  ∃ stop next, s = .item .value stop next ∧ ¬ HasRoom .value q 1

theorem not_reads_of_stuck (h : Stuck s q) (us : List String) : ¬ Reads v s q us q' := by
  obtain ⟨stop, next, rfl, hr⟩ := h
  cases us with
  | nil => exact reads_item_nil _ _ _
  | cons t us =>
    rw [reads_item_cons]
    rintro ⟨-, hr', -⟩
    exact hr hr'

theorem not_stuck_of_begins (h : s = .done ∨ s.beginsPart = true) : ¬ Stuck s q := by
  rintro ⟨stop, next, rfl, -⟩
  simp [State.beginsPart] at h

theorem not_stuck_of_closes (h : Closes stop s) : ¬ Stuck s q := by
  rintro ⟨stop', next, rfl, -⟩
  cases stop <;> simp [Closes] at h

theorem completable_insertValues (hv : v.Reachable) (h : Proper .insertValues q) :
    Completable v .insertValues q := by
  have hp : Proper (.item .value (.symbol ")") (.symbol ")" .done)) q := by
    have hs := step_proper v "(" h
    rwa [step, insertValuesStep, if_pos rfl] at hs
  refine completable_of_take isClosed_open (by rw [step, insertValuesStep, if_pos rfl]) ?_
  exact completable_item hv hp (hasRoom_of_values_nil h.2)
    fun ns => completable_symbol (completable_nil rfl)

theorem completable_insertColumns (hv : v.Reachable) (hw : v.Complete)
    (h : Proper .insertColumns q) : Completable v .insertColumns q := by
  have hp : Proper (.item .column (.symbol ")") (.symbol ")" .valuesClause)) q := by
    have hs := step_proper v "(" h
    rwa [step, insertColumnsStep, if_pos rfl] at hs
  refine completable_of_take isClosed_open (by rw [step, insertColumnsStep, if_pos rfl]) ?_
  refine completable_item hv hp (by simp [HasRoom]) fun ns => completable_symbol ?_
  exact completable_keyword hw .values (completable_insertValues hv (hp.2 ns).2.2.2.2)

theorem completable_of_proper (hv : v.Reachable) (hw : v.Complete) (hp : Proper s q)
    (hs : ¬ Stuck s q) : Completable v s q := by
  induction s generalizing q with
  | symbol text next ih =>
    obtain ⟨rfl, hb, hp⟩ := hp
    exact completable_symbol (ih hp (not_stuck_of_begins hb))
  | keyword op next ih =>
    exact completable_keyword hw op (ih hp.2.2 (not_stuck_of_begins (Or.inr hp.2.1)))
  | keywordTail op next ih =>
    exact completable_keywordTail hw op (ih hp.2 (not_stuck_of_begins (hp.1.imp And.left id)))
  | store slot next ih =>
    exact completable_store (ih (hp.2 "*") (not_stuck_of_begins (Or.inr hp.1)))
  | item slot stop next ih =>
    refine completable_item hv hp ?_ fun ns => ih (hp.2 ns) (not_stuck_of_closes hp.1.closes)
    by_cases hr : HasRoom slot q 1
    · exact hr
    · have hslot : slot = .value := by
        by_contra hn
        exact hr fun hs => absurd hs hn
      subst hslot
      exact absurd ⟨stop, next, rfl, hr⟩ hs
  | afterItem slot stop next ih =>
    exact completable_afterItem hv hp fun ns => ih (hp.2 ns) (not_stuck_of_closes hp.1.closes)
  | selectList =>
    refine completable_of_take isClosed_star (by rw [step, selectListStep, if_pos rfl]) ?_
    exact completable_keyword hw .from (completable_store (completable_nil rfl))
  | insertColumns => exact completable_insertColumns hv hw hp
  | insertValues => exact completable_insertValues hv hp
  | assignment =>
    refine completable_of_take isClosed_equals (by rw [step, assignmentStep, if_pos rfl]) ?_
    exact completable_store (completable_nil rfl)
  | field => exact completable_field
  | comparison f => exact completable_of_take isClosed_equals rfl (completable_operand f .equal)
  | negation f =>
    obtain ⟨w, hc, hr⟩ := hw .not
    have hs : step v q w (.negation f) =
        .ok (.take (.keywordTail .not (.operand f .isNot)) q) := by
      rw [step, negationStep, if_pos ((isAliasOf_iff w .not).mpr hr)]
    exact completable_of_take hc hs (completable_keywordTail hw .not (completable_operand f .isNot))
  | operand f c => exact completable_operand f c
  | _ => exact completable_nil rfl

/-! ## Runs from the first token on -/

/-- The tokens lead the reader to this state with this query. -/
inductive Reaches (v : Vocabulary) : List String → State → Query → Prop
  | first {t : String} {k : StatementKind} (hk : v.statementKind? t = some k) :
      Reaches v [t] (.keywordTail k.operation (.entry k)) { kind := k }
  | next {ts : List String} {t : String} {s s' : State} {q q' : Query} (h : Reaches v ts s q)
      (hf : feed v q t s = .ok (s', q')) : Reaches v (ts ++ [t]) s' q'

variable {ts : List String}

theorem Reaches.proper (h : Reaches v ts s q) : Proper s q := by
  induction h with
  | first => exact proper_start _
  | next h hf ih => exact feed_proper ih hf

theorem Reaches.ne_symbol (h : Reaches v ts s q) (text : String) (n : State) :
    s ≠ .symbol text n := by
  rintro rfl
  cases h with
  | next h hf => exact feed_ne_symbol h.proper hf

/-- The rest of a text is read from the state that its beginning leads to. -/
theorem Reaches.readTokens_append (h : Reaches v ts s q) (us : List String) :
    v.readTokens (ts ++ us) = conclude (Reader.feedAll v q s us) := by
  induction h generalizing us with
  | first hk => rw [List.singleton_append, readTokens_cons, hk]
  | @next ts t s s' q q₁ h hf ih =>
    rw [List.append_assoc, List.singleton_append, ih, Reader.feedAll, hf]

theorem Reaches.readTokens_eq (h : Reaches v ts s q) : v.readTokens ts = conclude (.ok (s, q)) := by
  simpa [Reader.feedAll] using h.readTokens_append []

theorem Reaches.feedAll {us : List String} (h : Reaches v ts s q)
    (hf : feedAll v q s us = .ok (s', q')) : Reaches v (ts ++ us) s' q' := by
  induction us generalizing ts s q with
  | nil =>
    cases hf
    rwa [List.append_nil]
  | cons t us ih =>
    rw [Reader.feedAll] at hf
    split at hf
    · next s₁ q₁ h₁ =>
      rw [List.append_cons]
      exact ih (h.next h₁) hf
    · cases hf

theorem step_blames {e : Error} (h : step v q t s = .error e) :
    ∃ expected, e = .unexpectedToken expected t := by
  cases s <;>
    simp only [step, itemStep, afterItemStep, selectListStep, afterTableStep, insertColumnsStep,
      insertValuesStep, assignmentStep, afterAssignmentStep, comparisonStep, negationStep,
      afterConditionStep, unexpected] at h <;>
    (repeat' split at h) <;> cases h <;> exact ⟨_, rfl⟩

theorem feed_blames {e : Error} (h : feed v q t s = .error e) :
    ∃ expected, e = .unexpectedToken expected t := by
  induction s using handOn_induction (v := v) (q := q) t with
  | h s ih =>
    cases hs : step v q t s with
    | error e' =>
      rw [feed_error hs] at h
      cases h
      exact step_blames hs
    | ok r =>
      cases r with
      | take n q₁ =>
        rw [feed_take hs] at h
        cases h
      | handOn n => exact ih n hs (by rwa [feed_handOn hs] at h)

theorem feedAll_blames {us : List String} {e : Error} (h : feedAll v q s us = .error e) :
    ∃ expected actual, e = .unexpectedToken expected actual := by
  induction us generalizing s q with
  | nil => cases h
  | cons t us ih =>
    rw [feedAll] at h
    split at h
    · exact ih h
    · next hf =>
      cases h
      obtain ⟨expected, rfl⟩ := feed_blames hf
      exact ⟨expected, t, rfl⟩

/-- The reader is still under way, or it has blamed a token and no continuation can help. -/
theorem reaches_or_blames (t : String) (us : List String) :
    (∃ s q, Reaches v (t :: us) s q) ∨
      ∃ e, (∀ ws, v.readTokens (t :: us ++ ws) = .error e) ∧
        ((∃ expected actual, e = .unexpectedToken expected actual) ∨
          ∃ actual, e = .unsupportedStatement actual) := by
  cases hk : v.statementKind? t with
  | none => exact Or.inr ⟨_, fun ws => by simp [Vocabulary.readTokens, hk], Or.inr ⟨t, rfl⟩⟩
  | some k =>
    have h := Reaches.first hk
    cases hf : Reader.feedAll v { kind := k } (.keywordTail k.operation (.entry k)) us with
    | ok p => exact Or.inl ⟨p.1, p.2, h.feedAll hf⟩
    | error e =>
      refine Or.inr ⟨e, fun ws => ?_, Or.inl (feedAll_blames hf)⟩
      have hr := h.readTokens_append (us ++ ws)
      rwa [feedAll_append, hf] at hr

/-! ## A comma behind the last value -/

/-- An INSERT has a value for each of its columns, and a comma behind them. The values stand bare or
in parentheses that are still open. -/
def SurplusComma (v : Vocabulary) (ts : List String) : Prop :=
  ∃ front q, ts = front ++ [","] ∧ q.kind = .insert ∧ q.columns ≠ [] ∧
    (v.readTokens front = .ok q ∧ front.getLast? ≠ some ")" ∨
      v.readTokens (front ++ [")"]) = .ok q)

theorem reaches_of_readTokens (h : v.readTokens ts = .ok q) :
    ∃ s, Reaches v ts s q ∧ missing? q s = none := by
  cases ts with
  | nil => cases h
  | cons t us =>
    rcases reaches_or_blames (v := v) t us with ⟨s, q₁, hr⟩ | ⟨e, he, -⟩
    · rw [hr.readTokens_eq] at h
      cases hm : missing? q₁ s with
      | some expected => simp [conclude, hm] at h
      | none =>
        simp only [conclude, hm, Except.ok.injEq] at h
        subst h
        exact ⟨s, hr, hm⟩
    · rw [← List.append_nil (t :: us), he] at h
      cases h

theorem Reaches.comma (h : Reaches v ts (.afterItem slot stop next) q) :
    Reaches v (ts ++ [","]) (.item slot stop next) q :=
  h.next (feed_take (by rw [step, afterItemStep, if_pos rfl]))

theorem stuck_iff (hr : HasRoom .value q 0) :
    Stuck (.item .value stop next) q ↔ q.columns ≠ [] ∧ unfilled? .value q = none := by
  have h : Stuck (.item .value stop next) q ↔ ¬ HasRoom .value q 1 := by simp [Stuck]
  rw [h, unfilled_eq_none_iff hr]
  by_cases hc : q.columns = []
  · simp [HasRoom, hc]
  · have hl := (hr rfl).resolve_left hc
    simp [HasRoom, Fits, hc]
    omega

theorem SurplusComma.reaches (h : SurplusComma v ts) : ∃ s q, Reaches v ts s q ∧ Stuck s q := by
  obtain ⟨front, q, rfl, hk, hc, ⟨h, hl⟩ | h⟩ := h
  -- Bare values: the statement does not end with a closing mark, so the list is still open.
  · obtain ⟨s, hr, hm⟩ := reaches_of_readTokens h
    rcases complete_insert hr.proper hk hm with rfl | rfl
    · cases hr with
      | next hr hf =>
        obtain ⟨rfl, -⟩ := close_of_feed_done hr.proper hf hk
        simp at hl
    · have hu : unfilled? .value q = none := by simpa [missing?] using hm
      exact ⟨_, _, hr.comma, (stuck_iff hr.proper.1.room).mpr ⟨hc, hu⟩⟩
  -- Values in parentheses: the closing mark ends the statement, so the list handed it on.
  · obtain ⟨s, hr, hm⟩ := reaches_of_readTokens h
    have hd := complete_insert hr.proper hk hm
    generalize he : front ++ [")"] = us at hr
    cases hr with
    | first => simp at hd
    | @next us t s₁ s q₁ q hr hf =>
      obtain ⟨rfl, ht⟩ := List.append_inj' he rfl
      cases ht
      rcases hd with rfl | rfl
      · obtain ⟨-, rfl, rfl | ⟨slot, stop, rfl, hu⟩⟩ := close_of_feed_done hr.proper hf hk
        · exact absurd rfl (hr.ne_symbol _ _)
        · cases hr.proper.1.values.mpr (Or.inr rfl)
          exact ⟨_, _, hr.comma, (stuck_iff hr.proper.1.room).mpr ⟨hc, hu⟩⟩
      · exact absurd rfl (name_of_feed_afterItem hr.proper hf).2.2

theorem surplusComma_of_stuck (h : Reaches v ts s q) (hs : Stuck s q) : SurplusComma v ts := by
  obtain ⟨stop, next, rfl, hr⟩ := id hs
  cases h with
  | @next ts t s₁ _ q₁ _ h hf =>
    obtain ⟨rfl, rfl, rfl⟩ := comma_of_feed_stuck h.proper hf hr
    have hl := h.proper.1
    obtain ⟨hc, hu⟩ := (stuck_iff hl.room).mp hs
    have hcl := hl.closes
    refine ⟨ts, q, rfl, hl.insert rfl, hc, ?_⟩
    -- The list of values is the last part: the end of the text or a closing mark stops it.
    rcases hl.values.mp rfl with rfl | rfl
    · cases stop <;> simp [Closes] at hcl
      left
      constructor
      · rw [h.readTokens_eq]
        simp [conclude, missing?, hu]
      · cases h with
        | next h hf =>
          have hn := name_of_feed_afterItem h.proper hf
          simpa using hn.2.2
    · cases stop <;> simp [Closes] at hcl
      subst hcl
      right
      rw [h.readTokens_append, conclude_eq_ok_iff,
        reads_afterItem_stop _ _ _ (by decide) (by simp [Stop.matches]) hl.room]
      exact ⟨(unfilled_eq_none_iff hl.room).mp hu,
        (reads_symbol ")" _).mpr ⟨[], rfl, reads_done.mpr ⟨rfl, rfl⟩⟩⟩

theorem SurplusComma.readTokens (h : SurplusComma v ts) :
    (∃ expected, v.readTokens ts = .error (.unexpectedEnd expected)) ∧
      ∀ us q, v.readTokens (ts ++ us) ≠ .ok q := by
  obtain ⟨s, q, hr, hs⟩ := h.reaches
  constructor
  · obtain ⟨stop, next, rfl, -⟩ := hs
    exact ⟨_, hr.readTokens_eq⟩
  · intro us q' h
    rw [hr.readTokens_append, conclude_eq_ok_iff] at h
    exact not_reads_of_stuck hs us h

theorem exists_statement (hv : v.Reachable) (hw : v.Complete) :
    ∃ us q, (∀ t ∈ us, Token.IsClosed t.toList) ∧ v.readTokens us = .ok q := by
  obtain ⟨w, hc, hr⟩ := hw .commit
  have hk : v.statementKind? w = some .commit := (statementKind?_eq_some_iff w .commit).mpr hr
  obtain ⟨us, q, hu, h⟩ := completable_of_proper hv hw (proper_start .commit)
    (by rintro ⟨_, _, hs, -⟩; cases hs)
  exact ⟨w :: us, q, List.forall_mem_cons.mpr ⟨hc, hu⟩, (readTokens_cons_eq_ok_iff w).mpr
    ⟨.commit, hk, h⟩⟩

/-- Without a comma too much there are three outcomes: a query, a text that can go on, and a token
that is blamed whatever follows. -/
theorem readTokens_classified (hv : v.Reachable) (hw : v.Complete) (hs : ¬ SurplusComma v ts) :
    (∃ q, v.readTokens ts = .ok q) ∨
      (∃ expected, v.readTokens ts = .error (.unexpectedEnd expected)) ∧
        (∃ us q, (∀ t ∈ us, Token.IsClosed t.toList) ∧ v.readTokens (ts ++ us) = .ok q) ∨
      ∃ e, (∀ us, v.readTokens (ts ++ us) = .error e) ∧
        ((∃ expected actual, e = .unexpectedToken expected actual) ∨
          ∃ actual, e = .unsupportedStatement actual) := by
  cases ts with
  | nil => exact Or.inr (Or.inl ⟨⟨_, rfl⟩, exists_statement hv hw⟩)
  | cons t us =>
    rcases reaches_or_blames (v := v) t us with ⟨s, q, hr⟩ | h
    · cases hm : missing? q s with
      | none => exact Or.inl ⟨q, by simp [hr.readTokens_eq, conclude, hm]⟩
      | some expected =>
        obtain ⟨ws, q', hws, h⟩ := completable_of_proper hv hw hr.proper
          fun h => hs (surplusComma_of_stuck hr h)
        have he : v.readTokens (t :: us) = .error (.unexpectedEnd expected) := by
          simp [hr.readTokens_eq, conclude, hm]
        refine Or.inr (Or.inl ⟨⟨expected, he⟩, ws, q', hws, ?_⟩)
        rwa [hr.readTokens_append, conclude_eq_ok_iff]
    · exact Or.inr (Or.inr h)

end Reader

namespace Vocabulary
open Reader

/-- Let no quoted token run to the end of the text. The reader finds the text too short if and only
if it is no statement but some continuation makes it one, or it ends with a comma behind the last
value of an INSERT. It blames a token if and only if no continuation makes a statement and there
is no such comma. With such a comma no continuation makes a statement either. -/
theorem read_unexpectedEnd_iff (v : Vocabulary) (cs : List Addition)
    (hv : v = standard.afterAll cs) (text : String)
    (hl : ∀ t ∈ (tokenize text).getLast?, ¬ Token.IsUnterminated t.toList) :
    ((∃ expected, v.read text = .error (.unexpectedEnd expected)) ↔
      (∀ q, v.read text ≠ .ok q) ∧
        ((∃ more q, v.read (text ++ " " ++ more) = .ok q) ∨ SurplusComma v (tokenize text))) ∧
    (((∃ expected actual, v.read text = .error (.unexpectedToken expected actual)) ∨
        ∃ actual, v.read text = .error (.unsupportedStatement actual)) ↔
      (∀ more q, v.read (text ++ " " ++ more) ≠ .ok q) ∧ ¬ SurplusComma v (tokenize text)) ∧
    (SurplusComma v (tokenize text) → ∀ more q, v.read (text ++ " " ++ more) ≠ .ok q) := by
  have hr : v.Reachable := by
    rw [hv]
    exact afterAll_reachable cs .standard
  have hw : v.Complete := by
    rw [hv]
    exact complete_afterAll cs
  have hm : ∀ more, v.read (text ++ " " ++ more) =
      v.readTokens (tokenize text ++ tokenize more) := by
    intro more
    rw [Vocabulary.read, Token.tokenize_append_blank hl]
  have ht : v.read text = v.readTokens (tokenize text) := rfl
  simp only [hm, ht]
  by_cases hs : SurplusComma v (tokenize text)
  · obtain ⟨⟨expected, he⟩, hn⟩ := hs.readTokens
    simp [he, hn, hs]
  · rcases readTokens_classified hr hw hs with ⟨q, h⟩ | ⟨⟨expected, he⟩, us, q, hu, h⟩ | ⟨e, he, hb⟩
    · have hc : ∃ more q, v.readTokens (tokenize text ++ tokenize more) = .ok q :=
        ⟨"", q, by rwa [Token.tokenize_empty, List.append_nil]⟩
      have hn : ¬ ∀ more q, v.readTokens (tokenize text ++ tokenize more) ≠ .ok q := by
        simpa using hc
      simp [h, hn, hs]
    · obtain ⟨more, rfl⟩ := Token.exists_tokenize_eq hu
      have hc : ∃ more q, v.readTokens (tokenize text ++ tokenize more) = .ok q := ⟨more, q, h⟩
      have hn : ¬ ∀ more q, v.readTokens (tokenize text ++ tokenize more) ≠ .ok q := by
        simpa using hc
      simp [he, hc, hn, hs]
    · have he' : v.readTokens (tokenize text) = .error e := by simpa using he []
      rcases hb with ⟨expected, actual, rfl⟩ | ⟨actual, rfl⟩
      · simp [he, he', hs]
      · simp [he, he', hs]

/-- A new word for SELECT, and a text that lacks its table. -/
theorem read_fetch_completable :
    (standard.afterAll [.one .select "fetch"]).read "fetch *" = .error (.unexpectedEnd "FROM") ∧
    ∃ more q, (standard.afterAll [.one .select "fetch"]).read ("fetch *" ++ " " ++ more) =
      .ok q := by
  have ht : tokenize "fetch *" = ["fetch", "*"] := by with_unfolding_all decide
  have hr : (standard.afterAll [.one .select "fetch"]).readTokens ["fetch", "*"] =
      .error (.unexpectedEnd "FROM") := by
    rw [standard_eq_seedWords]
    with_unfolding_all decide
  have hl : ∀ t ∈ (tokenize "fetch *").getLast?, ¬ Token.IsUnterminated t.toList := by
    rw [ht]
    rintro t ⟨⟩ ⟨body, -, h⟩
    exact absurd (List.cons.inj h).1 (by decide)
  have hread : (standard.afterAll [.one .select "fetch"]).read "fetch *" =
      .error (.unexpectedEnd "FROM") := by
    rw [Vocabulary.read, ht, hr]
  refine ⟨hread, ?_⟩
  have h := (read_unexpectedEnd_iff _ [.one .select "fetch"] rfl "fetch *" hl).1.mp ⟨_, hread⟩
  apply h.2.resolve_right
  rintro ⟨front, q, he, -⟩
  have hlast := congrArg List.getLast? (ht.symm.trans he)
  simp at hlast

theorem not_isUnterminated_comma : ¬ Token.IsUnterminated ",".toList := by
  rintro ⟨body, -, h⟩
  exact absurd (List.cons.inj h).1 (by decide)

/-- The text is found too short, and yet nothing completes it. -/
theorem read_surplus_comma :
    (∀ t ∈ (tokenize "bombardiro users id trulimero 1 ,").getLast?,
      ¬ Token.IsUnterminated t.toList) ∧
    standard.read "bombardiro users id trulimero 1 ," = .error (.unexpectedEnd "value") ∧
    ∀ more q, standard.read ("bombardiro users id trulimero 1 ," ++ " " ++ more) ≠ .ok q := by
  have ht : tokenize "bombardiro users id trulimero 1 ," =
      ["bombardiro", "users", "id", "trulimero", "1", ","] := by
    with_unfolding_all decide
  have hr : standard.readTokens ["bombardiro", "users", "id", "trulimero", "1"] =
        .ok { kind := .insert, table := some "users", columns := ["id"], values := ["1"] } ∧
      standard.readTokens ["bombardiro", "users", "id", "trulimero", "1", ","] =
        .error (.unexpectedEnd "value") := by
    rw [standard_eq_seedWords]
    with_unfolding_all decide
  have hs : SurplusComma standard (tokenize "bombardiro users id trulimero 1 ,") :=
    ⟨_, _, ht, rfl, by simp, Or.inl ⟨hr.1, by simp⟩⟩
  have hl : ∀ t ∈ (tokenize "bombardiro users id trulimero 1 ,").getLast?,
      ¬ Token.IsUnterminated t.toList := by
    rw [ht]
    rintro t ⟨⟩
    exact not_isUnterminated_comma
  refine ⟨hl, ?_, ?_⟩
  · rw [Vocabulary.read, ht, hr.2]
  · intro more q
    rw [Vocabulary.read, Token.tokenize_append_blank hl]
    exact hs.readTokens.2 _ q

end Vocabulary

end SlangSql
