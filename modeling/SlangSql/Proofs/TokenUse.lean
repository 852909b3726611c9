import SlangSql.Proofs.ReaderClauses

/-!
# What becomes of each token

The reader takes a token as a word of a keyword, as a symbol, or as something
that the query keeps. The state that takes a token decides which of these it
is, and that state need not be the one the token was given to. The uses of the
tokens of a statement are listed in the order of the tokens, up to the token
that is refused.
-/

set_option autoImplicit false

namespace SlangSql

inductive Use where
  /-- The word that opens a keyword of `op`. -/
  | keyword (op : Operation)
  /-- The second word of a keyword. -/
  | again (op : Operation)
  /-- The word for IS that may stand behind NOT. -/
  | isBehindNot
  /-- A word for NULL in place of a value. -/
  | null
  | symbol
  | stored
  deriving DecidableEq, Repr

namespace Use

/-- The operation whose keyword begins with this word. -/
def opens? : Use → Option Operation
  | .keyword op => some op
  | .isBehindNot => some .is
  | _ => none

/-- The token stands for an operation and is not kept. -/
def isWord : Use → Bool
  | .symbol => false
  | .stored => false
  | _ => true

end Use

namespace Reader

/-- What a token is to the state that takes it. -/
def takenAs (v : Vocabulary) (token : String) : State → Use
  | .keyword op _ => .keyword op
  | .keywordTail .is (.operand _ _) => .isBehindNot
  | .keywordTail op _ => .again op
  | .store _ _ => .stored
  | .item _ _ _ => .stored
  | .field => .stored
  | .operand _ c =>
    match operandOf v c token with
    | .null => .null
    | .literal _ => .stored
  | _ =>
    match v.resolve token with
    | some op => .keyword op
    | none => .symbol

/-- What a token is to the state that takes it in the end. -/
def use (v : Vocabulary) (q : Query) (token : String) (s : State) : Use :=
  match h : step v q token s with
  | .ok (.handOn next) =>
    have := rank_lt_of_handOn h
    use v q token next
  | _ => takenAs v token s
termination_by s.rank

/-- The uses of the tokens, as far as they are taken. -/
def uses (v : Vocabulary) (q : Query) (s : State) : List String → List Use
  | [] => []
  | token :: rest =>
    match feed v q token s with
    | .ok (s', q') => use v q token s :: uses v q' s' rest
    | .error _ => []

end Reader

/-- The uses of the tokens of a statement. -/
def Vocabulary.uses (v : Vocabulary) : List String → List Use
  | [] => []
  | first :: rest =>
    match v.statementKind? first with
    | none => []
    | some kind =>
      .keyword kind.operation ::
        Reader.uses v { kind := kind } (.keywordTail kind.operation (.entry kind)) rest

namespace Reader

variable {v : Vocabulary} {q : Query}

/-! ## Runs over a part of the tokens -/

/-- What holds of a state whenever it holds of the state it hands a token on to holds of all. -/
theorem handOn_induction (t : String) {P : State → Prop}
    (h : ∀ s, (∀ next, step v q t s = .ok (.handOn next) → P next) → P s) (s : State) : P s := by
  induction hr : s.rank using Nat.strongRecOn generalizing s with
  | ind n ih =>
    apply h
    intro next hs
    have hlt := rank_lt_of_handOn hs
    exact ih next.rank (by omega) next rfl

theorem feed_take {t : String} {s next : State} {q' : Query}
    (h : step v q t s = .ok (.take next q')) : feed v q t s = .ok (next, q') := by
  rw [feed_eq, h]

theorem feed_handOn {t : String} {s next : State} (h : step v q t s = .ok (.handOn next)) :
    feed v q t s = feed v q t next := by
  rw [feed_eq, h]

theorem feed_error {t : String} {s : State} {e : Error} (h : step v q t s = .error e) :
    feed v q t s = .error e := by
  rw [feed_eq, h]

theorem use_eq (t : String) (s : State) :
    use v q t s = match step v q t s with
      | .ok (.handOn next) => use v q t next
      | _ => takenAs v t s := by
  rw [use]
  split <;> simp_all

theorem use_handOn {t : String} {s next : State} (h : step v q t s = .ok (.handOn next)) :
    use v q t s = use v q t next := by
  rw [use_eq, h]

theorem use_take {t : String} {s next : State} {q' : Query}
    (h : step v q t s = .ok (.take next q')) : use v q t s = takenAs v t s := by
  rw [use_eq, h]

theorem feedAll_append (q : Query) (s : State) (ts us : List String) :
    feedAll v q s (ts ++ us) = match feedAll v q s ts with
      | .ok (s', q') => feedAll v q' s' us
      | .error e => .error e := by
  induction ts generalizing q s with
  | nil => rfl
  | cons t ts ih =>
    simp only [List.cons_append, feedAll]
    cases feed v q t s with
    | error e => rfl
    | ok p => exact ih p.2 p.1

theorem uses_append {s s' : State} {q' : Query} {ts : List String} (us : List String)
    (h : feedAll v q s ts = .ok (s', q')) :
    (uses v q s ts).length = ts.length ∧
      uses v q s (ts ++ us) = uses v q s ts ++ uses v q' s' us := by
  induction ts generalizing q s with
  | nil =>
    cases h
    exact ⟨rfl, rfl⟩
  | cons t ts ih =>
    rw [feedAll] at h
    split at h
    · next s₁ q₁ h₁ =>
      obtain ⟨hl, ha⟩ := ih h
      simp [uses, h₁, hl, ha]
    · cases h

/-- The use of one token, and what is found at the next place. -/
theorem uses_at {s s₁ s₂ : State} {q₁ q₂ : Query} {ts : List String} {t : String}
    (us : List String) (h : feedAll v q s ts = .ok (s₁, q₁))
    (hf : feed v q₁ t s₁ = .ok (s₂, q₂)) :
    (uses v q s (ts ++ t :: us))[ts.length]? = some (use v q₁ t s₁) ∧
      (uses v q s (ts ++ t :: us))[ts.length + 1]? = (uses v q₂ s₂ us)[0]? := by
  obtain ⟨hl, ha⟩ := uses_append (t :: us) h
  have hc : uses v q₁ s₁ (t :: us) = use v q₁ t s₁ :: uses v q₂ s₂ us := by rw [uses, hf]
  rw [ha, hc, ← hl]
  constructor
  · rw [List.getElem?_append_right (Nat.le_refl _), Nat.sub_self, List.getElem?_cons_zero]
  · rw [List.getElem?_append_right (Nat.le_add_right _ 1), Nat.add_sub_cancel_left,
      List.getElem?_cons_succ]

/-- A complete run is split at any token. -/
theorem reads_append {s : State} {q' : Query} (ts us : List String) :
    Reads v s q (ts ++ us) q' ↔ ∃ s₁ q₁, feedAll v q s ts = .ok (s₁, q₁) ∧
      Reads v s₁ q₁ us q' := by
  unfold Reads
  rw [feedAll_append]
  cases feedAll v q s ts with
  | error e => simp
  | ok p =>
    simp only [Except.ok.injEq]
    constructor
    · intro h
      exact ⟨p.1, p.2, rfl, h⟩
    · rintro ⟨_, _, rfl, h⟩
      exact h

theorem reads_cons_iff {s : State} {q' : Query} (t : String) (ts : List String) :
    Reads v s q (t :: ts) q' ↔ ∃ s₁ q₁, feed v q t s = .ok (s₁, q₁) ∧ Reads v s₁ q₁ ts q' := by
  rw [← List.singleton_append, reads_append, feedAll]
  cases feed v q t s <;> simp [feedAll, Prod.ext_iff]

end Reader

end SlangSql
