import SlangSql.Proofs.TokenLayout
import SlangSql.Proofs.VocabularyHistory

/-!
# Aliases as tokens

What an alias may look like is checked character by character, and what a token
looks like is decided by the splitter. The two fit: the valid aliases are the
texts that are a token by themselves, without a quote mark and without a fixed
meaning. So every alias can be written in a statement and is found again.
Folding makes no symbol and loses none, so nothing that is quoted, and no token
with a fixed meaning, is ever looked up as an alias.
-/

set_option autoImplicit false

namespace SlangSql

namespace Token

theorem stops_nil (t : List Char) : Stops t [] := by
  constructor <;> simp

/-- A text is a token by itself iff it has the form of one. -/
theorem split_eq_self_iff (cs : List Char) :
    split cs = [cs] ↔ IsClosed cs ∨ IsUnterminated cs := by
  constructor
  · intro h
    obtain ⟨w, body, -, -, hl⟩ := (split_eq_iff_layout cs [cs]).mp h
    cases hl with
    | unterminated ht => exact Or.inr ht
    | last ht _ => exact Or.inl ht
  · rintro (h | h)
    · have hn : split [] = [] := split_eq_nil rfl
      have hs := split_append h (stops_nil cs)
      rwa [List.append_nil, hn] at hs
    · exact split_unterminated h

theorem tokenize_eq_self_iff (a : String) :
    tokenize a = [a] ↔ IsClosed a.toList ∨ IsUnterminated a.toList := by
  rw [← split_eq_self_iff, tokenize]
  constructor
  · intro h
    simpa [Function.comp_def] using congrArg (List.map String.toList) h
  · intro h
    rw [h, List.map_singleton, String.ofList_toList]

theorem IsQuoted.quote_mem {t : List Char} (h : IsQuoted t) : quote ∈ t := by
  obtain ⟨body, -, rfl⟩ := h
  exact List.mem_cons_self

theorem IsUnterminated.quote_mem {t : List Char} (h : IsUnterminated t) : quote ∈ t := by
  obtain ⟨body, -, rfl⟩ := h
  exact List.mem_cons_self

theorem isWordStart_iff_part (c : Char) :
    isWordStart c = true ↔ isWordPart c = true ∧ c ≠ quote := by
  simp [isWordStart, isWordPart]

end Token

namespace Vocabulary

open Token

theorem isValidAlias_iff_chars (a : String) : isValidAlias a = true ↔
    a.toList ≠ [] ∧ (∀ c ∈ a.toList, isWordStart c = true) ∧ a ∉ reserved := by
  simp [isValidAlias, and_assoc]

theorem mem_reserved_of_mark {a : String} (h : IsMark a.toList) : a ∈ reserved := by
  obtain ⟨c, hc, ha⟩ := h
  have he : a = String.ofList [c] := by rw [← ha, String.ofList_toList]
  simp only [isPunctuationChar, Bool.or_eq_true, beq_iff_eq] at hc
  rcases hc with (rfl | rfl) | rfl <;> rw [he] <;> decide

/-- Without quote marks the characters of a word are all of one kind. -/
theorem isWord_iff_chars {cs : List Char} (hq : quote ∉ cs) :
    IsWord cs ↔ cs ≠ [] ∧ ∀ c ∈ cs, isWordStart c = true := by
  constructor
  · rintro ⟨c, rest, hc, hr, rfl⟩
    refine ⟨by simp, List.forall_mem_cons.mpr ⟨hc, ?_⟩⟩
    intro d hd
    rw [isWordStart_iff_part]
    refine ⟨hr d hd, ?_⟩
    rintro rfl
    exact hq (List.mem_cons_of_mem c hd)
  · rintro ⟨hn, hc⟩
    cases cs with
    | nil => exact absurd rfl hn
    | cons c rest =>
      rw [List.forall_mem_cons] at hc
      exact ⟨c, rest, hc.1, fun d hd => ((isWordStart_iff_part d).mp (hc.2 d hd)).1, rfl⟩

theorem quote_not_mem_of_valid {a : String} (h : isValidAlias a = true) : quote ∉ a.toList := by
  intro hq
  have hs := ((isValidAlias_iff_chars a).mp h).2.1 quote hq
  exact absurd hs (by decide)

theorem isValidAlias_iff_tokenize (a : String) : isValidAlias a = true ↔
    tokenize a = [a] ∧ quote ∉ a.toList ∧ a ∉ reserved := by
  rw [tokenize_eq_self_iff]
  constructor
  · intro h
    have hq := quote_not_mem_of_valid h
    obtain ⟨hn, hc, hr⟩ := (isValidAlias_iff_chars a).mp h
    exact ⟨Or.inl (Or.inr (Or.inr ((isWord_iff_chars hq).mpr ⟨hn, hc⟩))), hq, hr⟩
  · rintro ⟨ht, hq, hr⟩
    have hw : IsWord a.toList := by
      rcases ht with (hm | hquoted | hw) | hu
      · exact absurd (mem_reserved_of_mark hm) hr
      · exact absurd hquoted.quote_mem hq
      · exact hw
      · exact absurd hu.quote_mem hq
    obtain ⟨hn, hc⟩ := (isWord_iff_chars hq).mp hw
    exact (isValidAlias_iff_chars a).mpr ⟨hn, hc, hr⟩

variable {v : Vocabulary}

theorem Reachable.resolve_alias (hv : v.Reachable) {op : Operation} {a : String}
    (ha : a ∈ v.aliasesOf op) : v.resolve a = some op := by
  rw [resolve, hv.sound.consistent.lookup]
  exact ⟨a, ha, rfl⟩

/-- The fold of a token with a quote mark has one, and the fold of an alias has none. -/
theorem Reachable.resolve_of_quote (hv : v.Reachable) {t : String} (ht : quote ∈ t.toList) :
    v.resolve t = none := by
  have hs : Text.isSymbolic quote = true := by decide
  rw [resolve, owner?_eq_none_iff]
  intro hk
  obtain ⟨b, hb, hk⟩ := List.mem_map.mp hk
  obtain ⟨hf, hw⟩ := hv.admitted b hb
  rw [← Text.mem_fold_symbolic hs, ← hk, hf, Text.mem_fold_symbolic hs] at ht
  exact quote_not_mem_of_valid hw ht

/-- The valid aliases are the texts that are a token by themselves, without a quote mark and
without a fixed meaning. In every vocabulary that can arise each alias is such a token and stands
for its operation; tokens with a fixed meaning and all that is quoted stand for none. -/
theorem aliases_apart_from_symbols :
    (∀ a, isValidAlias a = true ↔ tokenize a = [a] ∧ quote ∉ a.toList ∧ a ∉ reserved) ∧
    ∀ v : Vocabulary, v.Reachable →
      (∀ op, ∀ a ∈ v.aliasesOf op, tokenize a = [a] ∧ v.resolve a = some op) ∧
      (∀ t ∈ reserved, v.resolve t = none) ∧
      (∀ t, quote ∈ t.toList → v.resolve t = none) ∧
      ∀ t, IsQuoted t.toList ∨ IsUnterminated t.toList → v.resolve t = none := by
  refine ⟨isValidAlias_iff_tokenize, ?_⟩
  intro v hv
  refine ⟨?_, fun t ht => hv.resolve_reserved ht, fun t ht => hv.resolve_of_quote ht, ?_⟩
  · intro op a ha
    have hvalid := hv.sound.consistent.valid op a ha
    exact ⟨((isValidAlias_iff_tokenize a).mp hvalid).1, hv.resolve_alias ha⟩
  · rintro t (ht | ht)
    · exact hv.resolve_of_quote ht.quote_mem
    · exact hv.resolve_of_quote ht.quote_mem

/-- A name with a quote mark inside is one token, but no alias. An alias that ends in a capital
sigma stands for its operation, and its small letters between quote marks do not. -/
theorem aliases_with_sigma :
    tokenize "O'Brien" = ["O'Brien"] ∧ ¬ isValidAlias "O'Brien" = true ∧
    (standard.afterAll [.one .select "ΟΔΟΣ"]).Reachable ∧
    "ΟΔΟΣ" ∈ (standard.afterAll [.one .select "ΟΔΟΣ"]).aliasesOf .select ∧
    tokenize "ΟΔΟΣ" = ["ΟΔΟΣ"] ∧
    (standard.afterAll [.one .select "ΟΔΟΣ"]).resolve "ΟΔΟΣ" = some .select ∧
    (standard.afterAll [.one .select "ΟΔΟΣ"]).resolve "<>" = none ∧
    (standard.afterAll [.one .select "ΟΔΟΣ"]).resolve "'οδος'" = none := by
  have hv := afterAll_reachable [.one .select "ΟΔΟΣ"] .standard
  have ha : "ΟΔΟΣ" ∈ (standard.afterAll [.one .select "ΟΔΟΣ"]).aliasesOf .select := by
    rw [standard_eq_seedWords]
    set_option maxRecDepth 4000 in decide
  obtain ⟨hvalid, hall⟩ := aliases_apart_from_symbols
  obtain ⟨hown, hreserved, hquote, -⟩ := hall _ hv
  refine ⟨by with_unfolding_all decide, ?_, hv, ha, (hown _ _ ha).1, (hown _ _ ha).2,
    hreserved "<>" (by decide), hquote "'οδος'" (by decide)⟩
  rw [hvalid]
  exact fun h => h.2.1 (by decide)

end Vocabulary

end SlangSql
