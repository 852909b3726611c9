import Mathlib.Logic.Relation
import SlangSql.Proofs.ReaderGrammar
import SlangSql.Proofs.TokenUse

/-!
# The states of a statement

A state and the query that is filled in it belong together. A list is followed
by what stops it. The values of an INSERT are never more than its columns, and
they are its last part. Only a closing parenthesis leads an INSERT to its last
state, and IS is read by states of its own. One step keeps all of this, so it
holds wherever a run can be, and it tells which tokens lead into a list, along
it and out of it.
-/

set_option autoImplicit false

namespace SlangSql.Reader
open Grammar

/-- The state begins with what stops the list before it. -/
def Closes : Stop → State → Prop
  | .keyword op, s => ∃ next, s = .keyword op next
  | .symbol text, s => ∃ next, s = .symbol text next
  | .endOfText, s => s = .done

/-- A list in its place: a list of values is the last part of an INSERT, and no other list runs to
the end of the text. -/
structure ProperList (slot : Slot) (stop : Stop) (next : State) (q : Query) : Prop where
  room : HasRoom slot q 0
  closes : Closes stop next
  values : slot = .value ↔ next = .done ∨ next = .symbol ")" .done
  insert : slot = .value → q.kind = .insert

/-- A part of the statement begins here: the state is neither within a list nor the last one. -/
def State.beginsPart : State → Bool
  | .symbol _ _ => false
  | .item _ _ _ => false
  | .afterItem _ _ _ => false
  | .done => false
  | _ => true

/-- The query can be in this state while a statement is read. -/
def Proper : State → Query → Prop
  | .symbol text next, q => text = ")" ∧ (next = .done ∨ next.beginsPart = true) ∧ Proper next q
  | .keyword op next, q => op ≠ .is ∧ next.beginsPart = true ∧ Proper next q
  | .keywordTail _ next, q =>
    (next = .done ∧ q.kind ≠ .insert ∨ next.beginsPart = true) ∧ Proper next q
  | .store slot next, q => next.beginsPart = true ∧ ∀ t, Proper next (slot.fill q t)
  | .item slot stop next, q =>
    ProperList slot stop next q ∧ ∀ ns, Proper next (fillAll slot q ns)
  | .afterItem slot stop next, q =>
    ProperList slot stop next q ∧ ∀ ns, Proper next (fillAll slot q ns)
  | .insertColumns, q => q.kind = .insert ∧ q.values = []
  | .insertValues, q => q.kind = .insert ∧ q.values = []
  | .done, _ => True
  | _, q => q.kind ≠ .insert

variable {v : Vocabulary} {q : Query} {t : String}

theorem proper_fromTable (hk : q.kind ≠ .insert) : Proper .fromTable q :=
  ⟨by simp, rfl, rfl, fun _ => hk⟩

theorem proper_valuesClause (hk : q.kind = .insert) (hn : q.values = []) :
    Proper .valuesClause q :=
  ⟨by simp, rfl, hk, hn⟩

theorem proper_assignColumn (hk : q.kind ≠ .insert) : Proper .assignColumn q :=
  ⟨rfl, fun _ => hk⟩

theorem proper_assignValue (hk : q.kind ≠ .insert) : Proper .assignValue q :=
  ⟨rfl, fun _ => hk⟩

theorem proper_conditions (hk : q.kind ≠ .insert) : Proper .conditions q :=
  ⟨Or.inr rfl, hk⟩

/-- The state in which the tokens behind the first one are read. -/
theorem proper_start (k : StatementKind) :
    Proper (.keywordTail k.operation (.entry k)) { kind := k } := by
  cases k with
  | select => exact ⟨Or.inr rfl, by simp [State.entry, Proper]⟩
  | insert => exact ⟨Or.inr rfl, rfl, fun _ => ⟨rfl, rfl⟩⟩
  | update =>
    exact ⟨Or.inr rfl, rfl, fun _ =>
      ⟨by simp, rfl, proper_assignColumn (by simp [Slot.fill, Query.setTable])⟩⟩
  | delete => exact ⟨Or.inr rfl, proper_fromTable (by simp)⟩
  | _ => exact ⟨Or.inl ⟨rfl, by simp⟩, trivial⟩

theorem ProperList.fill {slot : Slot} {stop : Stop} {next : State}
    (h : ProperList slot stop next q) (hr : HasRoom slot q 1) :
    ProperList slot stop next (slot.fill q t) where
  room := (hasRoom_fill slot t 0).mpr hr
  closes := h.closes
  values := h.values
  insert hs := by
    rw [← h.insert hs, hs]
    rfl

/-- The first value of a list always has its place. -/
theorem hasRoom_of_values_nil (h : q.values = []) : HasRoom .value q 1 := by
  intro _
  by_cases hc : q.columns = []
  · exact Or.inl hc
  · have hl := List.length_pos_iff.mpr hc
    simp only [h, List.length_nil]
    omega

/-! ## One step -/

/-- What a step leads to is proper. -/
def ProperAfter (q : Query) : Except Error Transition → Prop
  | .ok (.take next q') => Proper next q'
  | .ok (.handOn next) => Proper next q
  | .error _ => True

theorem itemStep_proper {slot : Slot} {stop : Stop} {next : State}
    (h : Proper (.item slot stop next) q) : ProperAfter q (itemStep v q t slot stop next) := by
  unfold itemStep
  split
  · trivial
  · split
    · trivial
    · next hr => exact ⟨h.1.fill ((not_valuesFull_iff slot).mp hr), fun ns => h.2 (t :: ns)⟩

theorem afterItemStep_proper {slot : Slot} {stop : Stop} {next : State}
    (h : Proper (.afterItem slot stop next) q) :
    ProperAfter q (afterItemStep v q t slot stop next) := by
  unfold afterItemStep
  split
  · exact h
  · split
    · split
      · trivial
      · exact h.2 []
    · split
      · trivial
      · exact h

theorem selectListStep_proper (h : q.kind ≠ .insert) : ProperAfter q (selectListStep v q t) := by
  unfold selectListStep
  split
  · exact proper_fromTable h
  · split
    · exact ⟨Or.inr rfl, proper_fromTable h⟩
    · refine ⟨⟨by simp [HasRoom], ⟨_, rfl⟩, by simp [State.fromTable], by simp⟩, fun ns => ?_⟩
      rw [fillAll_eq]
      exact proper_fromTable h

theorem afterTableStep_proper (h : q.kind ≠ .insert) : ProperAfter q (afterTableStep v q t) := by
  unfold afterTableStep
  split
  · exact proper_conditions h
  · split
    · split
      · exact ⟨Or.inr rfl, rfl, fun _ => h⟩
      · trivial
    · trivial

theorem insertColumnsStep_proper (h : Proper .insertColumns q) :
    ProperAfter q (insertColumnsStep v q t) := by
  have hv : ∀ ns, Proper .valuesClause (fillAll .column q ns) := by
    intro ns
    rw [fillAll_eq]
    exact proper_valuesClause h.1 h.2
  unfold insertColumnsStep
  split
  · exact ⟨⟨by simp [HasRoom], ⟨_, rfl⟩, by simp [State.valuesClause], by simp⟩,
      fun ns => ⟨rfl, Or.inr rfl, hv ns⟩⟩
  · split
    · exact hv []
    · exact ⟨⟨by simp [HasRoom], ⟨_, rfl⟩, by simp [State.valuesClause], by simp⟩, hv⟩

theorem insertValuesStep_proper (h : Proper .insertValues q) :
    ProperAfter q (insertValuesStep q t) := by
  have hr : HasRoom .value q 0 := fun _ => Or.inr (by simp [h.2])
  unfold insertValuesStep
  split
  · exact ⟨⟨hr, ⟨_, rfl⟩, by simp, fun _ => h.1⟩, fun _ => ⟨rfl, Or.inl rfl, trivial⟩⟩
  · exact ⟨⟨hr, rfl, by simp, fun _ => h.1⟩, fun _ => trivial⟩

theorem assignmentStep_proper (h : q.kind ≠ .insert) : ProperAfter q (assignmentStep v q t) := by
  unfold assignmentStep
  split
  · exact proper_assignValue h
  · split
    · exact ⟨Or.inr rfl, proper_assignValue h⟩
    · trivial

theorem afterAssignmentStep_proper (h : q.kind ≠ .insert) :
    ProperAfter q (afterAssignmentStep v q t) := by
  unfold afterAssignmentStep
  split
  · exact proper_assignColumn h
  · split
    · exact proper_conditions h
    · trivial

theorem comparisonStep_proper (f : String) (h : q.kind ≠ .insert) :
    ProperAfter q (comparisonStep v q t f) := by
  unfold comparisonStep
  split
  · exact h
  · split
    · exact ⟨Or.inr rfl, h⟩
    · split
      · exact ⟨Or.inr rfl, Or.inr rfl, h⟩
      · trivial

theorem afterConditionStep_proper (h : q.kind ≠ .insert) :
    ProperAfter q (afterConditionStep v q t) := by
  unfold afterConditionStep
  split
  · exact ⟨Or.inr rfl, h⟩
  · split
    · exact ⟨Or.inr rfl, h⟩
    · trivial

theorem step_proper (v : Vocabulary) (t : String) {s : State} (h : Proper s q) :
    ProperAfter q (step v q t s) := by
  cases s with
  | symbol text next =>
    rw [step]
    split
    · exact h.2.2
    · trivial
  | keyword op next =>
    rw [step]
    split
    · exact ⟨Or.inr h.2.1, h.2.2⟩
    · trivial
  | keywordTail op next =>
    rw [step]
    split
    · exact h.2
    · exact h.2
  | store slot next =>
    rw [step]
    split
    · trivial
    · exact h.2 t
  | item slot stop next => exact itemStep_proper h
  | afterItem slot stop next => exact afterItemStep_proper h
  | selectList => exact selectListStep_proper h
  | afterTable => exact afterTableStep_proper h
  | insertColumns => exact insertColumnsStep_proper h
  | insertValues => exact insertValuesStep_proper h
  | assignment => exact assignmentStep_proper h
  | afterAssignment => exact afterAssignmentStep_proper h
  | field =>
    rw [step]
    split
    · trivial
    · exact h
  | comparison f => exact comparisonStep_proper f h
  | negation f =>
    rw [step, negationStep]
    split
    · exact ⟨Or.inr rfl, h⟩
    · exact h
  | operand f c => exact h
  | afterCondition => exact afterConditionStep_proper h
  | done => trivial

/-! ## Whole runs -/

def HandsOn (v : Vocabulary) (q : Query) (t : String) (s next : State) : Prop :=
  step v q t s = .ok (.handOn next)

theorem proper_of_handsOn {s s₀ : State} (h : Proper s q)
    (hc : Relation.ReflTransGen (HandsOn v q t) s s₀) : Proper s₀ q := by
  induction hc with
  | refl => exact h
  | @tail s₁ s₂ _ hs ih =>
    have hp := step_proper v t ih
    rwa [hs] at hp

/-- The state that takes a token in the end, and what it takes it as. -/
theorem exists_taker {s s' : State} {q' : Query} (hf : feed v q t s = .ok (s', q')) :
    ∃ s₀, Relation.ReflTransGen (HandsOn v q t) s s₀ ∧ step v q t s₀ = .ok (.take s' q') ∧
      use v q t s = takenAs v t s₀ := by
  induction s using handOn_induction (v := v) (q := q) t with
  | h s ih =>
    cases hs : step v q t s with
    | error e =>
      rw [feed_error hs] at hf
      cases hf
    | ok r =>
      cases r with
      | take next q₁ =>
        rw [feed_take hs] at hf
        cases hf
        exact ⟨s, .refl, hs, use_take hs⟩
      | handOn next =>
        rw [feed_handOn hs] at hf
        obtain ⟨s₀, hc, ht, hu⟩ := ih next hs hf
        exact ⟨s₀, hc.head hs, ht, by rw [use_handOn hs, hu]⟩

theorem feed_proper {s s' : State} {q' : Query} (h : Proper s q)
    (hf : feed v q t s = .ok (s', q')) : Proper s' q' := by
  obtain ⟨s₀, hc, hs, -⟩ := exists_taker hf
  have hp := step_proper v t (proper_of_handsOn h hc)
  rwa [hs] at hp

theorem feedAll_proper {s s' : State} {q' : Query} {ts : List String} (h : Proper s q)
    (hf : feedAll v q s ts = .ok (s', q')) : Proper s' q' := by
  induction ts generalizing s q with
  | nil =>
    cases hf
    exact h
  | cons t ts ih =>
    rw [feedAll] at hf
    split at hf
    · next s₁ q₁ h₁ => exact ih (feed_proper h h₁) hf
    · cases hf

section Lists

variable {q' : Query} {s s' : State} {slot : Slot} {stop : Stop} {next : State}

/-! ## The lists of an INSERT -/

/-- The tokens that lead into a list, along it, or to the end of the statement. -/
inductive ListMove (t : String) : State → Query → State → Query → Prop
  | close {q : Query} (ht : t = ")") : ListMove t (.symbol ")" .done) q .done q
  | second {op : Operation} {q : Query} (hk : q.kind ≠ .insert) :
      ListMove t (.keywordTail op .done) q .done q
  | name {slot : Slot} {stop : Stop} {next : State} {q : Query} (ht : IsName t) :
      ListMove t (.item slot stop next) q (.afterItem slot stop next) (slot.fill q t)
  | comma {slot : Slot} {stop : Stop} {next : State} {q : Query} (ht : t = ",") :
      ListMove t (.afterItem slot stop next) q (.item slot stop next) q
  | columns {stop : Stop} {next : State} {q : Query} :
      ListMove t .insertColumns q (.item .column stop next) q
  | values {stop : Stop} {next : State} {q : Query} (hn : q.values = []) :
      ListMove t .insertValues q (.item .value stop next) q

theorem listMove_of_take (h : Proper s q) (hs : step v q t s = .ok (.take s' q'))
    (hb : s'.beginsPart = false) : ListMove t s q s' q' := by
  cases s with
  | symbol text next =>
    obtain ⟨rfl, hn, -⟩ := h
    rw [step] at hs
    split at hs
    · next ht =>
      cases hs
      rcases hn with rfl | hn
      · exact .close ht
      · simp [hn] at hb
    · cases hs
  | keywordTail op next =>
    rw [step] at hs
    split at hs
    · cases hs
      rcases h.1 with ⟨rfl, hk⟩ | hn
      · exact .second hk
      · simp [hn] at hb
    · cases hs
  | store slot next =>
    rw [step] at hs
    split at hs
    · cases hs
    · cases hs
      simp [h.1] at hb
  | item slot stop next =>
    rw [step, itemStep] at hs
    split at hs
    · cases hs
    · next hi =>
      split at hs
      · cases hs
      · cases hs
        by_cases hn : IsName t
        · exact .name hn
        · simp [(isPunctuation_iff t).mpr hn] at hi
  | afterItem slot stop next =>
    rw [step, afterItemStep] at hs
    split at hs
    · next ht =>
      cases hs
      exact .comma ht
    · repeat' split at hs
      all_goals cases hs
  | insertColumns =>
    rw [step, insertColumnsStep] at hs
    repeat' split at hs
    all_goals cases hs
    exact .columns
  | insertValues =>
    rw [step, insertValuesStep] at hs
    split at hs
    · cases hs
      exact .values h.2
    · cases hs
  | _ =>
    simp only [step, selectListStep, afterTableStep, assignmentStep, afterAssignmentStep,
      comparisonStep, negationStep, afterConditionStep, unexpected] at hs
    repeat' split at hs
    all_goals cases hs
    all_goals cases hb

/-- The states a token is handed on to. -/
theorem handsOn_cases (h : HandsOn v q t s next) :
    (∃ op, s = .keywordTail op next) ∨
      (∃ slot stop, s = .afterItem slot stop next ∧ unfilled? slot q = none) ∨
      (∃ slot stop n, next = .item slot stop n) ∨ next.beginsPart = true := by
  unfold HandsOn at h
  cases s with
  | keywordTail op next' =>
    rw [step] at h
    split at h
    · cases h
    · cases h
      exact Or.inl ⟨op, rfl⟩
  | afterItem slot stop next' =>
    rw [step, afterItemStep] at h
    split at h
    · cases h
    · split at h
      · split at h
        · cases h
        · next hu =>
          cases h
          exact Or.inr (Or.inl ⟨slot, stop, rfl, hu⟩)
      · split at h
        · cases h
        · cases h
          exact Or.inr (Or.inr (Or.inl ⟨slot, stop, next', rfl⟩))
  | _ =>
    simp only [step, itemStep, selectListStep, afterTableStep, insertColumnsStep, insertValuesStep,
      assignmentStep, afterAssignmentStep, comparisonStep, negationStep, afterConditionStep,
      unexpected] at h
    repeat' split at h
    all_goals cases h
    all_goals simp [State.beginsPart, State.valuesClause]

theorem eq_of_handsOn_afterItem (hp : Proper s q)
    (hc : Relation.ReflTransGen (HandsOn v q t) s (.afterItem slot stop next)) :
    s = .afterItem slot stop next := by
  rcases hc.cases_tail with he | ⟨s₁, hc, h⟩
  · exact he.symm
  · have hp₁ := proper_of_handsOn hp hc
    rcases handsOn_cases h with ⟨op, rfl⟩ | ⟨slot', stop', rfl, -⟩ | ⟨_, _, _, he⟩ | hb
    · simp [Proper, State.beginsPart] at hp₁
    · have hl := hp₁.1.closes
      cases stop' <;> simp [Closes] at hl
    · cases he
    · cases hb

theorem handsOn_symbol {text : String} (hp : Proper s q)
    (hc : Relation.ReflTransGen (HandsOn v q t) s (.symbol text next)) :
    s = .symbol text next ∨
      ∃ slot stop, s = .afterItem slot stop (.symbol text next) ∧ unfilled? slot q = none := by
  rcases hc.cases_tail with he | ⟨s₁, hc, h⟩
  · exact Or.inl he.symm
  · have hp₁ := proper_of_handsOn hp hc
    rcases handsOn_cases h with ⟨op, rfl⟩ | ⟨slot, stop, rfl, hu⟩ | ⟨_, _, _, he⟩ | hb
    · simp [Proper, State.beginsPart] at hp₁
    · exact Or.inr ⟨slot, stop, eq_of_handsOn_afterItem hp hc, hu⟩
    · cases he
    · cases hb

theorem feed_ne_symbol {text : String} (hp : Proper s q) :
    feed v q t s ≠ .ok (.symbol text next, q') := by
  intro hf
  obtain ⟨s₀, hc, ht, -⟩ := exists_taker hf
  cases listMove_of_take (proper_of_handsOn hp hc) ht rfl

theorem name_of_feed_afterItem (hp : Proper s q)
    (hf : feed v q t s = .ok (.afterItem slot stop next, q')) : IsName t := by
  obtain ⟨s₀, hc, ht, -⟩ := exists_taker hf
  cases listMove_of_take (proper_of_handsOn hp hc) ht rfl with
  | name hn => exact hn

/-- Only a closing mark ends an INSERT. -/
theorem close_of_feed_done (hp : Proper s q) (hf : feed v q t s = .ok (.done, q'))
    (hk : q'.kind = .insert) : t = ")" ∧ q' = q ∧ (s = .symbol ")" .done ∨
      ∃ slot stop, s = .afterItem slot stop (.symbol ")" .done) ∧ unfilled? slot q = none) := by
  obtain ⟨s₀, hc, hs, -⟩ := exists_taker hf
  cases listMove_of_take (proper_of_handsOn hp hc) hs rfl with
  | close ht => exact ⟨ht, rfl, handsOn_symbol hp hc⟩
  | second hn => exact absurd hk hn

/-- Only a comma asks for a value too much. -/
theorem comma_of_feed_stuck (hp : Proper s q)
    (hf : feed v q t s = .ok (.item .value stop next, q')) (hr : ¬ HasRoom .value q' 1) :
    t = "," ∧ q' = q ∧ s = .afterItem .value stop next := by
  obtain ⟨s₀, hc, hs, -⟩ := exists_taker hf
  cases listMove_of_take (proper_of_handsOn hp hc) hs rfl with
  | comma ht => exact ⟨ht, rfl, eq_of_handsOn_afterItem hp hc⟩
  | values hn => exact absurd (hasRoom_of_values_nil hn) hr

/-- Where an INSERT is complete. -/
theorem complete_insert (hp : Proper s q) (hk : q.kind = .insert) (hm : missing? q s = none) :
    s = .done ∨ s = .afterItem .value .endOfText .done := by
  induction s with
  | keywordTail op next ih =>
    rcases ih hp.2 hm with rfl | rfl
    · rcases hp.1 with ⟨-, hn⟩ | hb
      · exact absurd hk hn
      · cases hb
    · simp [Proper, State.beginsPart] at hp
  | afterItem slot stop next ih =>
    rw [missing?] at hm
    split at hm
    · next hs =>
      subst hs
      have hl := hp.1.closes
      cases hl
      rw [hp.1.values.mpr (Or.inl rfl)]
      exact Or.inr rfl
    · cases hm
  | done => exact Or.inl rfl
  | afterTable => exact absurd hk hp
  | afterAssignment => exact absurd hk hp
  | afterCondition => exact absurd hk hp
  | _ => cases hm

end Lists

end SlangSql.Reader
