import SlangSql.Proofs.Folding
import SlangSql.Vocabulary.Standard

/-!
# Vocabularies that can arise

A vocabulary arises from the empty or the standard one by registering aliases,
one at a time or in groups. Every binding of such a vocabulary holds a valid
alias under its fold, so the tokens with a fixed meaning stay free: none of
them is ever an alias.
-/

set_option autoImplicit false

namespace SlangSql

namespace Vocabulary

/-- The vocabularies that registering leads to. -/
inductive Reachable : Vocabulary → Prop
  | empty : Reachable empty
  | standard : Reachable standard
  | register {v w : Vocabulary} {op : Operation} {a : String} (hv : Reachable v)
      (h : v.register op a = .ok w) : Reachable w
  | extend {v w : Vocabulary} {op : Operation} {as : List String} (hv : Reachable v)
      (h : v.extend op as = .ok w) : Reachable w

/-- A binding that registering can make: a valid alias under its fold. -/
def Admitted (b : Binding) : Prop := b.key = Text.fold b.word ∧ isValidAlias b.word = true

/-- What registering one alias can do. -/
theorem register_cases {v w : Vocabulary} {op : Operation} {a : String}
    (h : v.register op a = .ok w) :
    isValidAlias a = true ∧ (v.owner? (Text.fold a) = some op ∧ w = v ∨
      v.owner? (Text.fold a) = none ∧ w = ⟨v.bindings ++ [⟨Text.fold a, a, op⟩]⟩) := by
  unfold register at h
  split at h
  · next ha =>
    refine ⟨ha, ?_⟩
    split at h
    · next bound hb =>
      split at h
      · next ho => exact Or.inl ⟨by rw [hb, ho], by cases h; rfl⟩
      · cases h
    · next hb => exact Or.inr ⟨hb, by cases h; rfl⟩
  · cases h

/-- The lookup after registering one alias. -/
theorem owner?_register {v w : Vocabulary} {op other : Operation} {a : String}
    (h : v.register op a = .ok w) (key : String) : w.owner? key = some other ↔
      v.owner? key = some other ∨ other = op ∧ key = Text.fold a := by
  obtain ⟨-, ⟨hb, rfl⟩ | ⟨hn, rfl⟩⟩ := register_cases h
  · constructor
    · exact Or.inl
    · rintro (ho | ⟨rfl, rfl⟩)
      · exact ho
      · exact hb
  · by_cases hk : key = Text.fold a
    · rw [hk, hn]
      unfold owner? at hn ⊢
      rw [Option.map_eq_none_iff] at hn
      simp [List.find?_append, hn, eq_comm]
    · simp [owner?, List.find?_append, Ne.symm hk, hk]

theorem register_admitted {v w : Vocabulary} {op : Operation} {a : String}
    (hv : ∀ b ∈ v.bindings, Admitted b) (h : v.register op a = .ok w) :
    ∀ b ∈ w.bindings, Admitted b := by
  obtain ⟨ha, ⟨-, rfl⟩ | ⟨-, rfl⟩⟩ := register_cases h
  · exact hv
  · intro b hb
    rcases List.mem_append.mp hb with hb | hb
    · exact hv b hb
    · rw [List.mem_singleton.mp hb]
      exact ⟨rfl, ha⟩

theorem extend_admitted {v w : Vocabulary} {op : Operation} {as : List String}
    (hv : ∀ b ∈ v.bindings, Admitted b) (h : v.extend op as = .ok w) :
    ∀ b ∈ w.bindings, Admitted b := by
  induction as generalizing v with
  | nil =>
    cases h
    exact hv
  | cons a as ih =>
    unfold Vocabulary.extend at h
    split at h
    · next v' hr => exact ih (register_admitted hv hr) h
    · cases h

theorem Reachable.extendAll {v w : Vocabulary} {groups : List (Operation × List String)}
    (hv : v.Reachable) (h : v.extendAll groups = .ok w) : w.Reachable := by
  induction groups generalizing v with
  | nil =>
    cases h
    exact hv
  | cons g groups ih =>
    unfold Vocabulary.extendAll at h
    split at h
    · next v' he => exact ih (.extend hv he) h
    · cases h

theorem seed_valid : ∀ g ∈ seed, ∀ a ∈ g.2, isValidAlias a = true := by
  decide

theorem standard_admitted : ∀ b ∈ standard.bindings, Admitted b := by
  intro b hb
  obtain ⟨g, hg, hb⟩ := List.mem_flatMap.mp hb
  obtain ⟨a, ha, rfl⟩ := List.mem_map.mp hb
  exact ⟨rfl, seed_valid g hg a ha⟩

theorem Reachable.admitted {v : Vocabulary} (hv : v.Reachable) :
    ∀ b ∈ v.bindings, Admitted b := by
  induction hv with
  | empty => simp [Vocabulary.empty]
  | standard => exact standard_admitted
  | register _ h ih => exact register_admitted ih h
  | extend _ h ih => exact extend_admitted ih h

theorem fold_reserved : ∀ t ∈ reserved, Text.fold t = t := by
  decide

theorem reserved_symbolic : ∀ t ∈ reserved, t.toList.all Text.isSymbolic = true := by
  decide

/-- A token with a fixed meaning is never an alias. -/
theorem Reachable.resolve_reserved {v : Vocabulary} (hv : v.Reachable) {t : String}
    (ht : t ∈ reserved) : v.resolve t = none := by
  unfold resolve owner?
  rw [fold_reserved t ht, Option.map_eq_none_iff, List.find?_eq_none]
  intro b hb hk
  have hk : b.key = t := by simpa using hk
  obtain ⟨hf, hw⟩ := hv.admitted b hb
  have hs : Text.fold b.word = b.word := by
    apply Text.fold_eq_self_of_symbolic
    rw [← hf, hk]
    exact List.all_eq_true.mp (reserved_symbolic t ht)
  have hwt : b.word = t := by rw [← hs, ← hf, hk]
  simp [isValidAlias, hwt, ht] at hw

theorem Reachable.not_alias_of_reserved {v : Vocabulary} (hv : v.Reachable) {t : String}
    (ht : t ∈ reserved) (op : Operation) : v.isAliasOf t op = false := by
  simp [isAliasOf, hv.resolve_reserved ht]

/-- The seed words are their own folds. -/
theorem fold_seed : ∀ g ∈ seed, ∀ a ∈ g.2, Text.fold a = a := by
  have hs : ∀ g ∈ seed, ∀ a ∈ g.2,
      (a.toList.all Text.isAscii = true ∧ Text.lowerAscii a = a) ∨ a ∈ ["lirilì", "larilà"] := by
    decide
  have ho : ∀ a ∈ ["lirilì", "larilà"], Text.fold a = a := by
    decide
  intro g hg a ha
  rcases hs g hg a ha with ⟨hc, hl⟩ | h
  · rw [Text.fold_ascii a hc, hl]
  · exact ho a h

/-- The seed words as bindings, with the words themselves for keys. -/
def seedWords : Vocabulary := ⟨seed.flatMap fun g => g.2.map fun a => ⟨a, a, g.1⟩⟩

theorem standard_eq_seedWords : standard = seedWords := by
  simp only [standard, ofGroups, seedWords, List.flatMap_def, Vocabulary.mk.injEq]
  refine congrArg List.flatten (List.map_congr_left fun g hg => List.map_congr_left ?_)
  intro a ha
  rw [fold_seed g hg a ha]

/-- ASCII tokens are looked up among the seed words in small letters. -/
theorem standard_resolve (ps : List (String × Option Operation))
    (h : ∀ p ∈ ps, p.1.toList.all Text.isAscii = true ∧
      seedWords.owner? (Text.lowerAscii p.1) = p.2) :
    ∀ p ∈ ps, standard.resolve p.1 = p.2 := by
  intro p hp
  obtain ⟨ha, ho⟩ := h p hp
  rw [resolve, Text.fold_ascii p.1 ha, standard_eq_seedWords, ho]

end Vocabulary

end SlangSql
