import SlangSql.Proofs.AliasTokens

/-!
# Lookup without regard to case

Folding a second time changes nothing. No capital is the partner of another
capital, and the two characters with a rule of their own are folded to
characters that have none, so what stands around a folded character no longer
matters.

Two spellings that differ in the case of ASCII letters have the same fold. Here
the neighbours do matter: a capital sigma looks past the ignorable characters
around it for a cased one. But an ASCII letter is cased and not ignorable in
either case, so every sigma sees the same in both spellings.
-/

set_option autoImplicit false

namespace SlangSql

namespace Text

/-! ## Folding twice -/

namespace CaseRun

/-- The first code point that a run leads to. -/
def firstTarget (r : CaseRun) : Nat := (r.first + r.offset).toNat

def lastTarget (r : CaseRun) : Nat := (r.last + r.offset).toNat

/-- `r` leads to no code point that `s` covers: the one ends before the other begins, or both
go in steps of two and side by side. -/
def misses (r s : CaseRun) : Bool :=
  Nat.blt r.lastTarget s.first || Nat.blt s.last r.firstTarget ||
    (s.step == 2 && (r.step == 2 || r.first == r.last) && (r.firstTarget + s.first) % 2 == 1)

theorem not_covers_of_misses {r s : CaseRun} {n m : Nat} (hm : r.misses s = true)
    (h0 : 0 ≤ (r.first : Int) + r.offset) (hr : r.covers n = true)
    (hn : (m : Int) = n + r.offset) : s.covers m = false := by
  rw [Bool.eq_false_iff]
  intro hs
  simp only [covers, Bool.and_eq_true, decide_eq_true_eq, beq_iff_eq] at hr hs
  simp only [misses, firstTarget, lastTarget, Bool.or_eq_true, Bool.and_eq_true, beq_iff_eq,
    Nat.blt_eq] at hm
  rcases hm with (h | h) | ⟨⟨h2, hstep⟩, hodd⟩
  · omega
  · omega
  · rw [h2] at hs
    rcases hstep with h | h
    · rw [h] at hr
      omega
    · omega

end CaseRun

theorem lowerRuns_miss : (lowerRuns.all fun r => lowerRuns.all r.misses) = true := by
  set_option maxRecDepth 4000 in decide

/-- Lower-casing leaves the character alone, whatever stands around it. -/
def isLowered (c : Char) : Bool :=
  c != capitalSigma && c != dottedCapitalI && lowerChar c == c

/-- The two characters with a rule of their own are nobody's partner. -/
theorem lowerRuns_avoid : ∀ r ∈ lowerRuns,
    ¬ (r.firstTarget ≤ dottedCapitalI.toNat ∧ dottedCapitalI.toNat ≤ r.lastTarget) := by
  set_option maxRecDepth 4000 in decide

theorem capitalSigma_covered : ∃ r ∈ lowerRuns, r.covers capitalSigma.toNat = true := by
  decide

theorem isLowered_lowerChar {c : Char} (hs : c ≠ capitalSigma) (hi : c ≠ dottedCapitalI) :
    isLowered (lowerChar c) = true := by
  simp only [isLowered, Bool.and_eq_true, bne_iff_ne, beq_iff_eq]
  obtain ⟨-, he⟩ | ⟨r, hr, hc, ht⟩ := lowerChar_cases c
  · rw [he]
    exact ⟨⟨hs, hi⟩, he⟩
  · have hfree : ∀ s ∈ lowerRuns, s.covers (lowerChar c).toNat = false := by
      intro s hmem
      have hm := List.all_eq_true.mp (List.all_eq_true.mp lowerRuns_miss r hr) s hmem
      have h0 := (lowerRuns_targets r hr).1
      exact CaseRun.not_covers_of_misses hm (by omega) hc ht
    refine ⟨⟨?_, ?_⟩, ?_⟩
    · intro h
      obtain ⟨s, hmem, hcov⟩ := capitalSigma_covered
      rw [← h, hfree s hmem] at hcov
      exact absurd hcov (by decide)
    · intro h
      have havoid := lowerRuns_avoid r hr
      simp only [CaseRun.covers, Bool.and_eq_true, decide_eq_true_eq] at hc
      rw [h] at ht
      simp only [CaseRun.firstTarget, CaseRun.lastTarget] at havoid
      omega
    · obtain ⟨-, he⟩ | ⟨s, hmem, hcov, -⟩ := lowerChar_cases (lowerChar c)
      · exact he
      · rw [hfree s hmem] at hcov
        exact absurd hcov (by decide)

theorem isLowered_of_mem_lowerAt {before after : List Char} {c d : Char}
    (h : d ∈ lowerAt before c after) : isLowered d = true := by
  unfold lowerAt at h
  by_cases hs : c = capitalSigma
  · rw [if_pos hs, List.mem_singleton] at h
    split at h <;> subst h <;> decide
  · rw [if_neg hs] at h
    by_cases hi : c = dottedCapitalI
    · rw [if_pos hi] at h
      simp only [List.mem_cons, List.not_mem_nil, or_false] at h
      rcases h with rfl | rfl <;> decide
    · rw [if_neg hi, List.mem_singleton] at h
      rw [h]
      exact isLowered_lowerChar hs hi

theorem isLowered_of_mem_lowerAfter (before cs : List Char) :
    ∀ d ∈ lowerAfter before cs, isLowered d = true := by
  induction cs generalizing before with
  | nil => simp [lowerAfter]
  | cons c cs ih =>
    intro d hd
    rw [lowerAfter, List.mem_append] at hd
    rcases hd with hd | hd
    · exact isLowered_of_mem_lowerAt hd
    · exact ih (c :: before) d hd

theorem lowerAt_of_isLowered (before after : List Char) {c : Char} (h : isLowered c = true) :
    lowerAt before c after = [c] := by
  simp only [isLowered, Bool.and_eq_true, bne_iff_ne, beq_iff_eq] at h
  rw [lowerAt, if_neg h.1.1, if_neg h.1.2, h.2]

theorem lowerAfter_of_isLowered (before cs : List Char) (h : ∀ c ∈ cs, isLowered c = true) :
    lowerAfter before cs = cs := by
  induction cs generalizing before with
  | nil => rfl
  | cons c cs ih =>
    rw [List.forall_mem_cons] at h
    rw [lowerAfter, lowerAt_of_isLowered before cs h.1, ih (c :: before) h.2, List.singleton_append]

/-- A fold is its own fold. -/
theorem fold_fold (s : String) : fold (fold s) = fold s := by
  have h : ∀ c ∈ lowerChars s.toList, isLowered c = true := isLowered_of_mem_lowerAfter [] s.toList
  rw [fold, fold, String.toList_ofList, lowerChars, lowerAfter_of_isLowered [] _ h]

/-! ## The case of ASCII letters -/

def isAsciiLetter (c : Char) : Bool :=
  decide (0x41 ≤ c.toNat ∧ c.toNat ≤ 0x5a) || decide (0x61 ≤ c.toNat ∧ c.toNat ≤ 0x7a)

/-- The same character, or the same ASCII letter in either case. -/
def SameLetter (c d : Char) : Prop :=
  c = d ∨ (isAsciiLetter c = true ∧ isAsciiLetter d = true ∧ c.toLower = d.toLower)

instance (c d : Char) : Decidable (SameLetter c d) :=
  inferInstanceAs (Decidable (c = d ∨ (_ ∧ _ ∧ _)))

/-- The two texts differ in the case of ASCII letters only. -/
def DifferInCase (s t : String) : Prop := List.Forall₂ SameLetter s.toList t.toList

instance (s t : String) : Decidable (DifferInCase s t) :=
  inferInstanceAs (Decidable (List.Forall₂ SameLetter s.toList t.toList))

section AsciiLetters

variable {c d : Char}

theorem isAsciiLetter_iff : isAsciiLetter c = true ↔
    (0x41 ≤ c.toNat ∧ c.toNat ≤ 0x5a) ∨ (0x61 ≤ c.toNat ∧ c.toNat ≤ 0x7a) := by
  simp [isAsciiLetter]

theorem isAscii_of_letter (h : isAsciiLetter c = true) : isAscii c = true := by
  rw [isAsciiLetter_iff] at h
  rw [isAscii, decide_eq_true_eq]
  omega

theorem isCased_of_letter (h : isAsciiLetter c = true) : isCased c = true := by
  rw [isCased, inRanges, List.any_eq_true]
  rcases isAsciiLetter_iff.mp h with h | h
  · exact ⟨(0x41, 0x5a), by decide, by simpa using h⟩
  · exact ⟨(0x61, 0x7a), by decide, by simpa using h⟩

theorem ignorableRanges_avoid : ∀ r ∈ ignorableRanges,
    (r.2 < 0x41 ∨ 0x5a < r.1) ∧ (r.2 < 0x61 ∨ 0x7a < r.1) := by
  set_option maxRecDepth 4000 in decide

theorem isIgnorable_of_letter (h : isAsciiLetter c = true) : isIgnorable c = false := by
  rw [isAsciiLetter_iff] at h
  rw [isIgnorable, inRanges, List.any_eq_false]
  intro r hr hc
  have ha := ignorableRanges_avoid r hr
  simp only [Bool.and_eq_true, decide_eq_true_eq] at hc
  omega

theorem SameLetter.isCased_eq (h : SameLetter c d) : isCased c = isCased d := by
  rcases h with rfl | ⟨hc, hd, -⟩
  · rfl
  · rw [isCased_of_letter hc, isCased_of_letter hd]

theorem SameLetter.isIgnorable_eq (h : SameLetter c d) : isIgnorable c = isIgnorable d := by
  rcases h with rfl | ⟨hc, hd, -⟩
  · rfl
  · rw [isIgnorable_of_letter hc, isIgnorable_of_letter hd]

end AsciiLetters

theorem meetsCased_congr {cs ds : List Char} (h : List.Forall₂ SameLetter cs ds) :
    meetsCased cs = meetsCased ds := by
  induction h with
  | nil => rfl
  | @cons c d cs ds hcd _ ih =>
    unfold meetsCased at ih ⊢
    rw [List.dropWhile_cons, List.dropWhile_cons, ← hcd.isIgnorable_eq]
    by_cases hi : isIgnorable c = true
    · rw [if_pos hi, if_pos hi]
      exact ih
    · rw [if_neg hi, if_neg hi]
      exact hcd.isCased_eq

/-- A sigma is folded by what it meets on both sides, a letter by itself. -/
theorem lowerAt_congr {before before' after after' : List Char} {c d : Char}
    (hb : List.Forall₂ SameLetter before before') (hcd : SameLetter c d)
    (ha : List.Forall₂ SameLetter after after') :
    lowerAt before c after = lowerAt before' d after' := by
  rcases hcd with rfl | ⟨hc, hd, he⟩
  · rw [lowerAt, lowerAt, meetsCased_congr hb, meetsCased_congr ha]
  · rw [lowerAt_ascii before after (isAscii_of_letter hc),
      lowerAt_ascii before' after' (isAscii_of_letter hd), he]

theorem lowerAfter_congr {before before' cs ds : List Char}
    (hb : List.Forall₂ SameLetter before before') (h : List.Forall₂ SameLetter cs ds) :
    lowerAfter before cs = lowerAfter before' ds := by
  induction h generalizing before before' with
  | nil => rfl
  | cons hcd hrest ih =>
    rw [lowerAfter, lowerAfter, lowerAt_congr hb hcd hrest, ih (.cons hcd hb)]

theorem fold_eq_of_differInCase {s t : String} (h : DifferInCase s t) : fold s = fold t := by
  rw [fold, fold, lowerChars, lowerChars, lowerAfter_congr .nil h]

end Text

namespace Vocabulary

/-- A token, its fold, and every spelling with other cases of its ASCII letters stand for the same
operation: the one with an alias of the same fold. -/
theorem resolve_ignores_case (v : Vocabulary) (hv : v.Reachable) (t : String) :
    (Text.fold (Text.fold t) = Text.fold t ∧ v.resolve (Text.fold t) = v.resolve t) ∧
    (∀ t', Text.DifferInCase t t' → v.resolve t' = v.resolve t) ∧
    ∀ op, v.resolve t = some op ↔ ∃ a ∈ v.aliasesOf op, Text.fold a = Text.fold t := by
  refine ⟨⟨Text.fold_fold t, ?_⟩, ?_, ?_⟩
  · rw [resolve, resolve, Text.fold_fold]
  · intro t' h
    rw [resolve, resolve, Text.fold_eq_of_differInCase h]
  · intro op
    exact hv.sound.consistent.lookup (Text.fold t) op

/-- An alias with a capital sigma behind Latin letters. The sigma is a final one in every spelling,
and the capital with a dot becomes two characters in front of it. -/
theorem resolve_dotted_sigma :
    let v := standard.afterAll [.one .select "LOGİΣ"]
    v.Reachable ∧ Text.fold "LOGİΣ" = "logi\u0307ς" ∧ v.resolve "LOGİΣ" = some .select ∧
      v.resolve "logi\u0307ς" = some .select ∧
      Text.DifferInCase "LOGİΣ" "lOgİΣ" ∧ v.resolve "lOgİΣ" = some .select := by
  intro v
  have hv : v.Reachable := afterAll_reachable _ .standard
  have hf : Text.fold "LOGİΣ" = "logi\u0307ς" := by set_option maxRecDepth 4000 in decide
  have ha : "LOGİΣ" ∈ v.aliasesOf .select := by
    simp only [v, standard_eq_seedWords]
    set_option maxRecDepth 4000 in decide
  have hd : Text.DifferInCase "LOGİΣ" "lOgİΣ" := by decide
  obtain ⟨⟨-, hfold⟩, hcase, halias⟩ := resolve_ignores_case v hv "LOGİΣ"
  have hr : v.resolve "LOGİΣ" = some .select := (halias .select).mpr ⟨"LOGİΣ", ha, rfl⟩
  rw [hr] at hfold hcase
  rw [hf] at hfold
  exact ⟨hv, hf, hr, hfold, hd, hcase _ hd⟩

end Vocabulary

end SlangSql
