import SlangSql.Text.Ascii
import SlangSql.Text.LowerCase

/-!
# Folding

Facts about lower-casing. It makes no symbol out of a letter, so a word whose
fold consists of symbols is that fold. It loses no symbol either, so a word and
its fold hold the same symbols. And on ASCII it is the usual map of the
capitals, with no regard to what stands around a character.
-/

set_option autoImplicit false

namespace SlangSql.Text

/-- The code points of the symbols, all below the first letter. -/
def isSymbolic (c : Char) : Bool := decide (c.toNat < 0x41)

theorem lowerRuns_targets (r : CaseRun) (hr : r ∈ lowerRuns) :
    0x41 ≤ (r.first : Int) + r.offset ∧ ((r.last : Int) + r.offset < 0xd800 ∨
      0xdfff < (r.first : Int) + r.offset ∧ (r.last : Int) + r.offset < 0x110000) := by
  have h : ∀ r ∈ lowerRuns, 0x41 ≤ (r.first : Int) + r.offset ∧
      ((r.last : Int) + r.offset < 0xd800 ∨
        0xdfff < (r.first : Int) + r.offset ∧ (r.last : Int) + r.offset < 0x110000) := by
    set_option maxRecDepth 4000 in decide
  exact h r hr

theorem toNat_ofNat_of_valid (n : Nat) (h : n.isValidChar) : (Char.ofNat n).toNat = n := by
  rw [Char.ofNat, dif_pos h]
  rfl

/-- A character has no partner, or a run of the table covers it and leads to the partner. -/
theorem lowerChar_cases (c : Char) :
    ((∀ r ∈ lowerRuns, r.covers c.toNat = false) ∧ lowerChar c = c) ∨
      ∃ r ∈ lowerRuns, r.covers c.toNat = true ∧
        ((lowerChar c).toNat : Int) = c.toNat + r.offset := by
  unfold lowerChar
  split
  · next r hf =>
    right
    have hr := lowerRuns_targets r (List.mem_of_find?_eq_some hf)
    have hc : r.covers c.toNat = true := by simpa using List.find?_some hf
    refine ⟨r, List.mem_of_find?_eq_some hf, hc, ?_⟩
    simp only [CaseRun.covers, Bool.and_eq_true, decide_eq_true_eq] at hc
    have hv : (((c.toNat : Int) + r.offset).toNat).isValidChar := by
      unfold Nat.isValidChar
      omega
    rw [toNat_ofNat_of_valid _ hv]
    omega
  · next hf =>
    left
    simpa using hf

/-- A character with a lower-case partner is not lowered to a symbol. -/
theorem lowerChar_eq_of_symbolic (c : Char) (h : isSymbolic (lowerChar c)) : lowerChar c = c := by
  obtain ⟨-, he⟩ | ⟨r, hr, hc, he⟩ := lowerChar_cases c
  · exact he
  · have ht := lowerRuns_targets r hr
    simp only [CaseRun.covers, Bool.and_eq_true, decide_eq_true_eq] at hc
    rw [isSymbolic, decide_eq_true_eq] at h
    omega

theorem lowerAt_eq_of_symbolic (before after : List Char) (c : Char)
    (h : ∀ d ∈ lowerAt before c after, isSymbolic d) : lowerAt before c after = [c] := by
  unfold lowerAt at h ⊢
  split at h
  · have hs := h _ (List.mem_singleton_self _)
    split at hs <;> exact absurd hs (by decide)
  · split at h
    · exact absurd (h 'i' (by simp)) (by decide)
    · next h1 h2 => simp [h1, h2, lowerChar_eq_of_symbolic c (h _ (by simp))]

theorem lowerAfter_eq_of_symbolic (before cs : List Char)
    (h : ∀ d ∈ lowerAfter before cs, isSymbolic d) : lowerAfter before cs = cs := by
  induction cs generalizing before with
  | nil => rfl
  | cons c rest ih =>
    simp only [lowerAfter, List.mem_append] at h ⊢
    rw [lowerAt_eq_of_symbolic before rest c (fun d hd => h d (Or.inl hd)),
      ih (c :: before) (fun d hd => h d (Or.inr hd))]
    rfl

/-- A word whose fold consists of symbols is its own fold. -/
theorem fold_eq_self_of_symbolic (s : String) (h : ∀ d ∈ (fold s).toList, isSymbolic d) :
    fold s = s := by
  rw [fold, String.toList_ofList] at h
  rw [fold, lowerChars, lowerAfter_eq_of_symbolic [] s.toList h, String.ofList_toList]

/-! ## Symbols stay -/

theorem lowerRuns_first : ∀ r ∈ lowerRuns, 0x41 ≤ r.first := by
  set_option maxRecDepth 4000 in decide

theorem lowerChar_symbolic {c : Char} (h : isSymbolic c) : lowerChar c = c := by
  obtain ⟨-, he⟩ | ⟨r, hr, hc, -⟩ := lowerChar_cases c
  · exact he
  · have hl := lowerRuns_first r hr
    simp only [CaseRun.covers, Bool.and_eq_true, decide_eq_true_eq] at hc
    simp only [isSymbolic, decide_eq_true_eq] at h
    omega

theorem lowerAt_symbolic (before after : List Char) {c : Char} (h : isSymbolic c) :
    lowerAt before c after = [c] := by
  have hs : c ≠ capitalSigma := by
    rintro rfl
    exact absurd h (by decide)
  have hi : c ≠ dottedCapitalI := by
    rintro rfl
    exact absurd h (by decide)
  simp [lowerAt, hs, hi, lowerChar_symbolic h]

theorem eq_of_mem_lowerAt {before after : List Char} {c d : Char} (hd : isSymbolic d)
    (h : d ∈ lowerAt before c after) : d = c := by
  unfold lowerAt at h
  split at h
  · rw [List.mem_singleton] at h
    split at h <;> subst h <;> exact absurd hd (by decide)
  · split at h
    · simp only [List.mem_cons, List.not_mem_nil, or_false] at h
      rcases h with rfl | rfl <;> exact absurd hd (by decide)
    · rw [List.mem_singleton] at h
      rw [h] at hd ⊢
      exact lowerChar_eq_of_symbolic c hd

theorem mem_lowerAfter_symbolic {d : Char} (hd : isSymbolic d) (before cs : List Char) :
    d ∈ lowerAfter before cs ↔ d ∈ cs := by
  induction cs generalizing before with
  | nil => rfl
  | cons c cs ih =>
    rw [lowerAfter, List.mem_append, List.mem_cons, ih]
    refine or_congr_left ⟨eq_of_mem_lowerAt hd, ?_⟩
    rintro rfl
    rw [lowerAt_symbolic _ _ hd]
    exact List.mem_singleton_self d

/-- Folding neither makes nor loses a symbol. -/
theorem mem_fold_symbolic {d : Char} (hd : isSymbolic d) (s : String) :
    d ∈ (fold s).toList ↔ d ∈ s.toList := by
  rw [fold, String.toList_ofList, lowerChars, mem_lowerAfter_symbolic hd]

/-! ## ASCII -/

def isAscii (c : Char) : Bool := decide (c.toNat < 0x80)

theorem lowerRuns_tail_first : ∀ r ∈ lowerRuns.tail, 0x80 ≤ r.first := by
  set_option maxRecDepth 4000 in decide

theorem capitals_toLower : ∀ n < 0x80,
    (if (⟨0x41, 0x5a, 1, 32⟩ : CaseRun).covers n then Char.ofNat ((n : Int) + 32).toNat
      else Char.ofNat n) = (Char.ofNat n).toLower := by
  decide

/-- Of the ASCII characters only the capitals have a partner, the usual one. -/
theorem lowerChar_ascii (c : Char) (h : isAscii c) : lowerChar c = c.toLower := by
  have hn : c.toNat < 0x80 := by simpa [isAscii] using h
  have hf : lowerRuns.tail.find? (fun r => r.covers c.toNat) = none := by
    rw [List.find?_eq_none]
    intro r hr hc
    have := lowerRuns_tail_first r hr
    simp only [CaseRun.covers, Bool.and_eq_true, decide_eq_true_eq] at hc
    omega
  have hl : lowerRuns = ⟨0x41, 0x5a, 1, 32⟩ :: lowerRuns.tail := rfl
  have ht := capitals_toLower c.toNat hn
  rw [Char.ofNat_toNat] at ht
  rw [lowerChar, hl, List.find?_cons, hf, ← ht]
  cases (⟨0x41, 0x5a, 1, 32⟩ : CaseRun).covers c.toNat <;> rfl

theorem lowerAt_ascii (before after : List Char) {c : Char} (h : isAscii c) :
    lowerAt before c after = [c.toLower] := by
  have hs : c ≠ capitalSigma := by
    rintro rfl
    exact absurd h (by decide)
  have hi : c ≠ dottedCapitalI := by
    rintro rfl
    exact absurd h (by decide)
  rw [lowerAt, if_neg hs, if_neg hi, lowerChar_ascii c h]

theorem lowerAfter_ascii (before cs : List Char) (h : cs.all isAscii) :
    lowerAfter before cs = cs.map Char.toLower := by
  induction cs generalizing before with
  | nil => rfl
  | cons c cs ih =>
    rw [List.all_cons, Bool.and_eq_true] at h
    rw [lowerAfter, lowerAt_ascii before cs h.1, ih (c :: before) h.2, List.map_cons,
      List.singleton_append]

theorem fold_ascii (s : String) (h : s.toList.all isAscii) : fold s = lowerAscii s := by
  rw [fold, lowerChars, lowerAfter_ascii [] s.toList h, lowerAscii]

end SlangSql.Text
