import SlangSql.Proofs.VocabularyHistory

/-!
# What an addition does

A group of aliases is added one by one, each to the vocabulary that the ones
before it have led to. All the same the outcome can be read off the vocabulary
as it was: an alias of the group never decides whether a later one is refused,
because all of them ask for the same operation. The first alias that the old
vocabulary refuses gives the error. If there is none, the aliases that were not
bound are appended, of each fold the first.
-/

set_option autoImplicit false

namespace SlangSql.Vocabulary

variable {v w : Vocabulary} {op other : Operation} {a b : String} {as bs : List String}

def Admits (v : Vocabulary) (op : Operation) (a : String) : Prop :=
  isValidAlias a = true ∧ ∀ bound, v.resolve a = some bound → bound = op

/-- The word cannot become an alias of the operation, for the reason that the error gives. -/
inductive Refuses (v : Vocabulary) (op : Operation) (a : String) : Error → Prop
  | invalid (ha : isValidAlias a = false) : Refuses v op a (.invalidAlias a)
  | bound {bound : Operation} (ha : isValidAlias a = true) (hb : v.resolve a = some bound)
      (ho : bound ≠ op) : Refuses v op a (.duplicateBinding a bound op)

theorem exists_refuses_iff (v : Vocabulary) (op : Operation) (a : String) :
    (∃ e, v.Refuses op a e) ↔
      isValidAlias a = false ∨ ∃ bound, v.resolve a = some bound ∧ bound ≠ op := by
  constructor
  · rintro ⟨e, ha | ⟨-, hb, ho⟩⟩
    · exact Or.inl ha
    · exact Or.inr ⟨_, hb, ho⟩
  · intro h
    cases ha : isValidAlias a with
    | false => exact ⟨_, .invalid ha⟩
    | true =>
      obtain ⟨bound, hb, ho⟩ := h.resolve_left (by simp [ha])
      exact ⟨_, .bound ha hb ho⟩

theorem admits_or_refuses (v : Vocabulary) (op : Operation) (a : String) :
    v.Admits op a ∨ ∃ e, v.Refuses op a e := by
  rw [exists_refuses_iff]
  by_cases ha : isValidAlias a = true
  · by_cases hb : ∀ bound, v.resolve a = some bound → bound = op
    · exact Or.inl ⟨ha, hb⟩
    · exact Or.inr (Or.inr (by simpa using hb))
  · exact Or.inr (Or.inl (by simpa using ha))

theorem Refuses.not_admits {e : Error} (h : v.Refuses op a e) : ¬ v.Admits op a := by
  rintro ⟨ha, hb⟩
  cases h with
  | invalid hi => simp [hi] at ha
  | bound _ hr ho => exact ho (hb _ hr)

/-! ## One alias -/

/-- The vocabulary with some more aliases of one operation. -/
def adjoin (v : Vocabulary) (op : Operation) (as : List String) : Vocabulary :=
  ⟨v.bindings ++ as.map fun a => ⟨Text.fold a, a, op⟩⟩

theorem adjoin_nil (v : Vocabulary) (op : Operation) : v.adjoin op [] = v := by
  simp [adjoin]

theorem adjoin_adjoin (v : Vocabulary) (op : Operation) (as bs : List String) :
    (v.adjoin op as).adjoin op bs = v.adjoin op (as ++ bs) := by
  simp [adjoin]

theorem aliasesOf_adjoin (v : Vocabulary) (op other : Operation) (as : List String) :
    (v.adjoin op as).aliasesOf other = v.aliasesOf other ++ if op = other then as else [] := by
  by_cases ho : op = other <;>
    simp [aliasesOf, adjoin, ho, List.filter_map, Function.comp_def]

theorem register_of_admits (h : v.Admits op a) :
    v.register op a = .ok (v.adjoin op (if v.resolve a = none then [a] else [])) := by
  obtain ⟨ha, hb⟩ := h
  unfold resolve at hb
  cases ho : v.owner? (Text.fold a) with
  | none => simp [register, ha, ho, resolve, adjoin]
  | some bound => simp [register, ha, ho, resolve, adjoin_nil, hb bound ho]

theorem register_of_refuses {e : Error} (h : v.Refuses op a e) : v.register op a = .error e := by
  cases h with
  | invalid ha => simp [register, ha]
  | bound ha hb ho =>
    unfold resolve at hb
    simp [register, ha, hb, ho]

/-- A later word asks for the same operation, so it fares as it would have before. -/
theorem admits_register_iff (h : v.register op a = .ok w) (b : String) :
    w.Admits op b ↔ v.Admits op b := by
  simp [Admits, resolve, owner?_register h, or_imp, forall_and]

theorem Refuses.register {e : Error} (h : v.register op a = .ok w) (hb : v.Refuses op b e) :
    w.Refuses op b e := by
  cases hb with
  | invalid hb => exact .invalid hb
  | bound hb hr ho => exact .bound hb ((owner?_register h _).mpr (Or.inl hr)) ho

/-! ## A group -/

theorem extend_cons (h : v.register op a = .ok w) (as : List String) :
    v.extend op (a :: as) = w.extend op as := by
  rw [extend, h]

/-- The words of a list that are not bound, each at its first occurrence in some spelling. -/
def newWords (v : Vocabulary) (as : List String) : List String :=
  (as.zipIdx.filter fun p =>
    v.resolve p.1 = none ∧ Text.fold p.1 ∉ (as.take p.2).map Text.fold).map (·.1)

theorem newWords_cons (h : v.register op a = .ok w) (as : List String) :
    v.newWords (a :: as) = (if v.resolve a = none then [a] else []) ++ w.newWords as := by
  have hr : ∀ b, w.resolve b = none ↔ v.resolve b = none ∧ Text.fold b ≠ Text.fold a := by
    intro b
    simp [Option.eq_none_iff_forall_ne_some, resolve, owner?_register h, forall_and]
  -- behind `a`, the words new to `v` are those new to the vocabulary that has `a`
  have ht : ((as.zipIdx.map (Prod.map id (· + 1))).filter fun p => v.resolve p.1 = none ∧
      Text.fold p.1 ∉ ((a :: as).take p.2).map Text.fold).map (·.1) = w.newWords as := by
    simp [newWords, List.filter_map, Function.comp_def, hr, and_assoc]
  rw [newWords, List.zipIdx_cons', List.filter_cons]
  by_cases ha : v.resolve a = none
  · rw [if_pos (by simp [ha]), if_pos ha, List.map_cons, ht, List.singleton_append]
  · rw [if_neg (by simp [ha]), if_neg ha, ht, List.nil_append]

theorem extend_of_admits (h : ∀ a ∈ as, v.Admits op a) :
    v.extend op as = .ok (v.adjoin op (v.newWords as)) := by
  induction as generalizing v with
  | nil => rw [extend, newWords, List.zipIdx_nil, List.filter_nil, List.map_nil, adjoin_nil]
  | cons a as ih =>
    rw [List.forall_mem_cons] at h
    have ha := register_of_admits h.1
    rw [extend_cons ha, ih fun b hb => (admits_register_iff ha b).mpr (h.2 b hb), newWords_cons ha,
      adjoin_adjoin]

theorem extend_of_refuses {e : Error} (hb : ∀ b ∈ bs, v.Admits op b) (ha : v.Refuses op a e)
    (as : List String) : v.extend op (bs ++ a :: as) = .error e := by
  induction bs generalizing v with
  | nil => rw [List.nil_append, extend, register_of_refuses ha]
  | cons b bs ih =>
    rw [List.forall_mem_cons] at hb
    have hr := register_of_admits hb.1
    rw [List.cons_append, extend_cons hr]
    exact ih (fun c hc => (admits_register_iff hr c).mpr (hb.2 c hc)) (ha.register hr)

theorem admitted_or_refused (v : Vocabulary) (op : Operation) (as : List String) :
    (∀ a ∈ as, v.Admits op a) ∨ ∃ bs a cs e, as = bs ++ a :: cs ∧
      (∀ b ∈ bs, v.Admits op b) ∧ v.Refuses op a e := by
  induction as with
  | nil => exact Or.inl (by simp)
  | cons a as ih =>
    rcases admits_or_refuses v op a with ha | ⟨e, ha⟩
    · rcases ih with h | ⟨bs, b, cs, e, rfl, hb, hr⟩
      · exact Or.inl (List.forall_mem_cons.mpr ⟨ha, h⟩)
      · exact Or.inr ⟨a :: bs, b, cs, e, rfl, List.forall_mem_cons.mpr ⟨ha, hb⟩, hr⟩
    · exact Or.inr ⟨[], a, as, e, rfl, by simp, ha⟩

theorem extend_eq_ok_iff (v : Vocabulary) (op : Operation) (as : List String) :
    v.extend op as = .ok w ↔ (∀ a ∈ as, v.Admits op a) ∧ w = v.adjoin op (v.newWords as) := by
  rcases admitted_or_refused v op as with h | ⟨bs, a, cs, e, rfl, hb, hr⟩
  · rw [extend_of_admits h, Except.ok.injEq, eq_comm, and_iff_right h]
  · rw [extend_of_refuses hb hr]
    constructor
    · intro h
      cases h
    · rintro ⟨h, -⟩
      exact absurd (h a (by simp)) hr.not_admits

theorem extend_eq_error_iff (v : Vocabulary) (op : Operation) (as : List String) (e : Error) :
    v.extend op as = .error e ↔ ∃ bs a cs, as = bs ++ a :: cs ∧
      (∀ b ∈ bs, v.Admits op b) ∧ v.Refuses op a e := by
  constructor
  · intro h
    rcases admitted_or_refused v op as with ha | ⟨bs, a, cs, e', rfl, hb, hr⟩
    · rw [extend_of_admits ha] at h
      cases h
    · rw [extend_of_refuses hb hr] at h
      cases h
      exact ⟨bs, a, cs, rfl, hb, hr⟩
  · rintro ⟨bs, a, cs, rfl, hb, hr⟩
    exact extend_of_refuses hb hr cs

theorem extend_fails_iff (v : Vocabulary) (op : Operation) (as : List String) :
    (∃ e, v.extend op as = .error e) ↔ ∃ a ∈ as, ∃ e, v.Refuses op a e := by
  constructor
  · rintro ⟨e, h⟩
    obtain ⟨bs, a, cs, rfl, -, hr⟩ := (extend_eq_error_iff v op as e).mp h
    exact ⟨a, by simp, e, hr⟩
  · rintro ⟨a, ha, e, hr⟩
    rcases admitted_or_refused v op as with h | ⟨bs, b, cs, e', rfl, hb, hr'⟩
    · exact absurd (h a ha) hr.not_admits
    · exact ⟨e', extend_of_refuses hb hr' cs⟩

theorem owner?_extend (h : v.extend op as = .ok w) (key : String) :
    w.owner? key = some other ↔
      v.owner? key = some other ∨ other = op ∧ key ∈ as.map Text.fold := by
  induction as generalizing v with
  | nil =>
    cases h
    simp
  | cons a as ih =>
    have ha := register_of_admits (((extend_eq_ok_iff v op _).mp h).1 a (by simp))
    rw [extend_cons ha] at h
    rw [ih h, owner?_register ha, List.map_cons, List.mem_cons, or_assoc, and_or_left]

theorem extend_append (v : Vocabulary) (op : Operation) (as bs : List String) :
    v.extend op (as ++ bs) = (v.extend op as).bind fun u => u.extend op bs := by
  induction as generalizing v with
  | nil => rfl
  | cons a as ih =>
    rw [List.cons_append, extend, extend]
    cases v.register op a with
    | ok u => exact ih u
    | error e => rfl

theorem resolve_extend (h : v.extend op as = .ok w) (t : String) :
    w.resolve t = if Text.fold t ∈ as.map Text.fold then some op else v.resolve t := by
  unfold resolve
  by_cases ht : Text.fold t ∈ as.map Text.fold
  · rw [if_pos ht, owner?_extend h]
    exact Or.inr ⟨rfl, ht⟩
  · rw [if_neg ht]
    apply Option.ext
    intro other
    simp [owner?_extend h, ht]

theorem aliasesOf_extend (h : v.extend op as = .ok w) (other : Operation) :
    w.aliasesOf other = v.aliasesOf other ++ if op = other then v.newWords as else [] := by
  obtain ⟨-, rfl⟩ := (extend_eq_ok_iff v op as).mp h
  exact aliasesOf_adjoin v op other _

/-- Adding a group fails iff the vocabulary refuses one of its words, then the first such word
gives the error, and nothing has changed. Otherwise the new words of the group stand behind the
old aliases of the operation, every word of the group means the operation, and all else is as it
was. A group can be added in two parts. -/
theorem extend_all_or_nothing (v : Vocabulary) (op : Operation) (as : List String) :
    ((∃ e, v.extend op as = .error e) ↔
      ∃ a ∈ as, isValidAlias a = false ∨ ∃ bound, v.resolve a = some bound ∧ bound ≠ op) ∧
    (∀ e, v.extend op as = .error e ↔ ∃ bs a cs, as = bs ++ a :: cs ∧
      (∀ b ∈ bs, v.Admits op b) ∧ v.Refuses op a e) ∧
    (∀ e, v.extend op as = .error e → v.after (.group op as) = v) ∧
    (∀ w, v.extend op as = .ok w →
      w.aliasesOf op = v.aliasesOf op ++ v.newWords as ∧
      (∀ other, other ≠ op → w.aliasesOf other = v.aliasesOf other) ∧
      ∀ t, w.resolve t = if Text.fold t ∈ as.map Text.fold then some op else v.resolve t) ∧
    ∀ bs w, v.extend op (as ++ bs) = .ok w ↔
      ∃ u, v.extend op as = .ok u ∧ u.extend op bs = .ok w := by
  refine ⟨?_, extend_eq_error_iff v op as, ?_, ?_, ?_⟩
  · simp only [extend_fails_iff, exists_refuses_iff]
  · intro e h
    simp [after, answer, h]
  · intro w h
    refine ⟨by simp [aliasesOf_extend h], ?_, resolve_extend h⟩
    intro other ho
    simp [aliasesOf_extend h, Ne.symm ho]
  · intro bs w
    rw [extend_append]
    cases v.extend op as with
    | ok u => simp [Except.bind]
    | error e => simp [Except.bind]

/-- Of four words two are new: one is an alias already, and one repeats the first in another case.
A group with a word of another operation is refused for it, before its last word is looked at. -/
theorem extend_standard_words :
    standard.extend .select ["Skibidi", "TRALALA", "skibidi", "toilet"] =
      .ok (standard.adjoin .select ["Skibidi", "toilet"]) ∧
    (standard.adjoin .select ["Skibidi", "toilet"]).aliasesOf .select =
      standard.aliasesOf .select ++ ["Skibidi", "toilet"] ∧
    (standard.adjoin .select ["Skibidi", "toilet"]).resolve "sKIBIDI" = some .select ∧
    standard.extend .join ["tatra", "SAHUR", "two words"] =
      .error (.duplicateBinding "SAHUR" .beginTransaction .join) ∧
    standard.after (.group .join ["tatra", "SAHUR", "two words"]) = standard := by
  have hw : standard.newWords ["Skibidi", "TRALALA", "skibidi", "toilet"] =
      ["Skibidi", "toilet"] := by
    rw [standard_eq_seedWords]
    decide
  have hs : standard.extend .select ["Skibidi", "TRALALA", "skibidi", "toilet"] =
      .ok (standard.adjoin .select ["Skibidi", "toilet"]) := by
    rw [standard_eq_seedWords]
    decide
  have hj : standard.extend .join ["tatra", "SAHUR", "two words"] =
      .error (.duplicateBinding "SAHUR" .beginTransaction .join) := by
    rw [standard_eq_seedWords]
    decide
  obtain ⟨-, -, -, hok, -⟩ :=
    extend_all_or_nothing standard .select ["Skibidi", "TRALALA", "skibidi", "toilet"]
  obtain ⟨-, -, hno, -⟩ := extend_all_or_nothing standard .join ["tatra", "SAHUR", "two words"]
  obtain ⟨ha, -, hr⟩ := hok _ hs
  rw [hw] at ha
  refine ⟨hs, ha, ?_, hj, hno _ hj⟩
  rw [hr "sKIBIDI"]
  exact if_pos (by decide)

end SlangSql.Vocabulary
