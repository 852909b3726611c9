import Mathlib.Data.List.Forall2
import SlangSql.Operation
import SlangSql.Proofs.TokenLayout

/-!
# Names of operations

The name of an operation may be written in any case, with spaces or hyphens for
its underscores, and with blanks around it. No other text means the operation.
The blanks are dropped first: that keeps the name whole, because it begins and
ends with a letter.
-/

set_option autoImplicit false

namespace SlangSql

namespace Text

theorem dropWhile_isBlank_of_head {cs : List Char} (h : ∀ c ∈ cs.head?, isBlank c = false) :
    cs.dropWhile isBlank = cs := by
  cases cs with
  | nil => rfl
  | cons c cs => exact List.dropWhile_cons_of_neg (by simp [h c rfl])

theorem trimChars_append {left core right : List Char} (hl : Token.Blanks left)
    (hr : Token.Blanks right) (hn : core ≠ []) (hh : ∀ c ∈ core.head?, isBlank c = false)
    (ht : ∀ c ∈ core.reverse.head?, isBlank c = false) :
    trimChars (left ++ core ++ right) = core := by
  have hcr : ∀ c ∈ (core ++ right).head?, isBlank c = false := by
    rwa [List.head?_append_of_ne_nil _ hn]
  have hrr : ∀ c ∈ right.reverse, isBlank c = true := fun c hc => hr c (List.mem_reverse.mp hc)
  rw [trimChars, List.append_assoc, List.dropWhile_append_of_pos hl, dropWhile_isBlank_of_head hcr,
    List.reverse_append, List.dropWhile_append_of_pos hrr, dropWhile_isBlank_of_head ht,
    List.reverse_reverse]

theorem exists_trimChars (cs : List Char) : ∃ left right, cs = left ++ trimChars cs ++ right ∧
    Token.Blanks left ∧ Token.Blanks right := by
  have hb (ds : List Char) : Token.Blanks (ds.takeWhile isBlank) :=
    fun _ hc => List.all_eq_true.mp List.all_takeWhile _ hc
  refine ⟨cs.takeWhile isBlank, ((cs.dropWhile isBlank).reverse.takeWhile isBlank).reverse, ?_,
    hb cs, fun c hc => hb _ c (List.mem_reverse.mp hc)⟩
  rw [trimChars, List.append_assoc, ← List.reverse_append, List.takeWhile_append_dropWhile,
    List.reverse_reverse, List.takeWhile_append_dropWhile]

end Text

namespace Operation

open Text

/-- The character `c` may be written for `d` in the name of an operation. -/
def StandsFor (c d : Char) : Prop := c.toUpper = d ∨ d = '_' ∧ (c = ' ' ∨ c = '-')

/-- The name in any case, with spaces or hyphens for underscores, and with blanks around it. -/
def SpelledBy (op : Operation) (name : String) : Prop :=
  ∃ left core right, name.toList = left ++ core ++ right ∧ Token.Blanks left ∧
    Token.Blanks right ∧ List.Forall₂ StandsFor core op.name.toList

theorem ofName?_eq_some_iff (s : String) (op : Operation) :
    ofName? s = some op ↔ s = op.name := by
  constructor
  · intro h
    have hn := List.find?_some h
    exact (eq_of_beq hn).symm
  · rintro rfl
    cases op <;> decide

theorem name_ne_nil (op : Operation) : op.name.toList ≠ [] := by
  cases op <;> decide

theorem name_chars (op : Operation) : ∀ d ∈ op.name.toList, d ≠ ' ' ∧ d ≠ '-' := by
  have h : op.name.toList.all (fun d => d != ' ' && d != '-') = true := by
    cases op <;> decide
  simpa using h

theorem name_ends (op : Operation) : op.name.toList.head?.all Char.isUpper = true ∧
    op.name.toList.reverse.head?.all Char.isUpper = true := by
  cases op <;> decide

theorem toUpper_of_blank {c : Char} (h : isBlank c = true) : c.toUpper = c ∧ c.isUpper = false := by
  simp only [isBlank, inRanges, blankRanges, List.any_cons, List.any_nil, Bool.or_eq_true,
    Bool.and_eq_true, decide_eq_true_eq, Bool.false_eq_true, or_false] at h
  have hl : ¬ (0x61 ≤ c.toNat ∧ c.toNat ≤ 0x7a) := by omega
  have hu : ¬ (0x41 ≤ c.toNat ∧ c.toNat ≤ 0x5a) := by omega
  exact ⟨dif_neg hl, decide_eq_false hu⟩

theorem StandsFor.not_blank {c d : Char} (h : StandsFor c d) (hd : d.isUpper = true) :
    isBlank c = false := by
  rw [Bool.eq_false_iff]
  intro hb
  obtain ⟨hu, hn⟩ := toUpper_of_blank hb
  rcases h with rfl | ⟨rfl, -⟩
  · rw [hu, hn] at hd
    cases hd
  · exact absurd hd (by decide)

theorem head_not_blank {cs ds : List Char} (h : List.Forall₂ StandsFor cs ds)
    (hd : ds.head?.all Char.isUpper = true) : ∀ c ∈ cs.head?, isBlank c = false := by
  cases h with
  | nil => simp
  | cons hc _ =>
    intro c h
    cases h
    exact hc.not_blank hd

theorem spelling_eq_iff (c : Char) {d : Char} (hd : d ≠ ' ' ∧ d ≠ '-') :
    (if c = ' ' ∨ c = '-' then '_' else c.toUpper) = d ↔ StandsFor c d := by
  by_cases hc : c = ' ' ∨ c = '-'
  · have hu : c.toUpper ≠ d := by
      rcases hc with rfl | rfl
      · exact Ne.symm hd.1
      · exact Ne.symm hd.2
    simp [StandsFor, hc, hu, eq_comm]
  · simp [StandsFor, hc]

theorem map_spelling_eq_iff (cs : List Char) {ds : List Char}
    (hd : ∀ d ∈ ds, d ≠ ' ' ∧ d ≠ '-') :
    (cs.map fun c => if c = ' ' ∨ c = '-' then '_' else c.toUpper) = ds ↔
      List.Forall₂ StandsFor cs ds := by
  induction cs generalizing ds with
  | nil => simp [eq_comm]
  | cons c cs ih =>
    cases ds with
    | nil => simp
    | cons d ds =>
      rw [List.forall_mem_cons] at hd
      rw [List.map_cons, List.cons.injEq, List.forall₂_cons, spelling_eq_iff c hd.1, ih hd.2]

theorem ofSpelling?_eq_some_iff (name : String) (op : Operation) :
    ofSpelling? name = some op ↔ op.SpelledBy name := by
  have hs : ofSpelling? name = some op ↔
      List.Forall₂ StandsFor (trimChars name.toList) op.name.toList := by
    rw [ofSpelling?, ofName?_eq_some_iff, ← String.toList_inj, canonicalSpelling,
      String.toList_ofList, map_spelling_eq_iff _ (name_chars op)]
  rw [hs]
  constructor
  · intro h
    obtain ⟨left, right, ha, hl, hr⟩ := exists_trimChars name.toList
    exact ⟨left, _, right, ha, hl, hr, h⟩
  · rintro ⟨left, core, right, ha, hl, hr, h⟩
    have hn : core ≠ [] := by
      rintro rfl
      exact name_ne_nil op (List.forall₂_nil_left_iff.mp h)
    have ht := head_not_blank (List.forall₂_reverse_iff.mpr h) (name_ends op).2
    rw [ha, trimChars_append hl hr hn (head_not_blank h (name_ends op).1) ht]
    exact h

end Operation

end SlangSql
