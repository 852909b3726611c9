import Mathlib.Algebra.GroupWithZero.Nat
import Mathlib.Data.List.Forall2
import SlangSql.Proofs.RowSetViews
import SlangSql.Terminal.Display

/-!
# The layout of a grid

All lines of a grid have the same length, and the fields of a column begin at the
same place in each of them. The widths are found by running through the rows: what
is found is at least as wide as every text of the column and as wide as one of
them. So no text is cut off, and no column is wider than its texts require.
-/

set_option autoImplicit false

namespace SlangSql.Terminal.Grid

/-! ## Texts side by side -/

/-- The place in a line where a field begins; a gap of three characters follows each field. -/
def fieldStart (ws : List Nat) (i : Nat) : Nat := (ws.take i).sum + 3 * i

/-- What a line holds between the beginning of a field and its end. -/
def fieldAt (ws : List Nat) (i : Nat) (line : String) : String :=
  String.ofList ((line.toList.drop (fieldStart ws i)).take (ws.getD i 0))

/-- The three characters behind a field. -/
def gapAt (ws : List Nat) (i : Nat) (line : String) : String :=
  String.ofList ((line.toList.drop (fieldStart ws i + ws.getD i 0)).take 3)

section Joined

variable {gap : String} {fields : List String} {ws : List Nat} {i : Nat} {f : String}

theorem intercalate_from_first {α : Type} (gap f : List α) (after : List (List α)) :
    gap.intercalate (f :: after) = f ++ after.flatMap (gap ++ ·) := by
  induction after generalizing f with
  | nil => simp
  | cons g after ih => rw [List.intercalate_cons_cons, ih g, List.flatMap_cons, List.append_assoc,
      List.append_assoc]

/-- A joined list seen from one of its parts. -/
theorem intercalate_around {α : Type} (gap f : List α) (before after : List (List α)) :
    gap.intercalate (before ++ f :: after) =
      before.flatMap (· ++ gap) ++ (f ++ after.flatMap (gap ++ ·)) := by
  induction before with
  | nil => exact intercalate_from_first gap f after
  | cons b before ih =>
    have hne : before ++ f :: after ≠ [] := by simp
    rw [List.cons_append, List.intercalate_cons_of_ne_nil hne, ih, List.flatMap_cons,
      List.append_assoc, List.append_assoc, List.append_assoc]

theorem length_flatMap_gap {α : Type} (gap : List α) (parts : List (List α)) :
    (parts.flatMap (· ++ gap)).length = (parts.map List.length).sum + gap.length * parts.length := by
  induction parts with
  | nil => rfl
  | cons p parts ih =>
    rw [List.flatMap_cons, List.length_append, ih, List.length_append, List.map_cons,
      List.sum_cons, List.length_cons, Nat.mul_succ]
    omega

/-- A line cut at one of its fields. -/
theorem toList_joined (hi : fields[i]? = some f) :
    (gap.intercalate fields).toList =
      ((fields.take i).map String.toList).flatMap (· ++ gap.toList) ++
        (f.toList ++ ((fields.drop (i + 1)).map String.toList).flatMap (gap.toList ++ ·)) := by
  obtain ⟨hlt, rfl⟩ := List.getElem?_eq_some_iff.mp hi
  rw [String.toList_intercalate, ← intercalate_around, ← List.map_cons, ← List.map_append,
    List.getElem_cons_drop, List.take_append_drop]

theorem length_before (hw : fields.map String.length = ws) (hg : gap.length = 3)
    (hi : fields[i]? = some f) :
    (((fields.take i).map String.toList).flatMap (· ++ gap.toList)).length = fieldStart ws i := by
  obtain ⟨hlt, -⟩ := List.getElem?_eq_some_iff.mp hi
  have hlen : (List.length ∘ String.toList) = String.length := by
    funext s
    exact String.length_toList
  rw [length_flatMap_gap, List.map_map, hlen, String.length_toList, hg, List.length_map,
    List.length_take, Nat.min_eq_left (Nat.le_of_lt hlt), fieldStart, ← hw, List.map_take]

theorem width_of_field (hw : fields.map String.length = ws) (hi : fields[i]? = some f) :
    ws.getD i 0 = f.length := by
  rw [← hw, List.getD_eq_getElem?_getD, List.getElem?_map, hi]
  rfl

theorem fieldAt_joined (hw : fields.map String.length = ws) (hg : gap.length = 3)
    (hi : fields[i]? = some f) : fieldAt ws i (gap.intercalate fields) = f := by
  rw [fieldAt, toList_joined hi, List.drop_left' (length_before hw hg hi), width_of_field hw hi,
    List.take_left' String.length_toList, String.ofList_toList]

theorem gapAt_joined (hw : fields.map String.length = ws) (hg : gap.length = 3)
    (hi : i + 1 < fields.length) : gapAt ws i (gap.intercalate fields) = gap := by
  have hf : fields[i]? = some fields[i] := List.getElem?_eq_getElem (by omega)
  rw [gapAt, toList_joined hf, ← List.drop_drop, List.drop_left' (length_before hw hg hf),
    width_of_field hw hf, List.drop_left' String.length_toList, List.drop_eq_getElem_cons hi,
    List.map_cons, List.flatMap_cons, List.append_assoc,
    List.take_left' (by rw [String.length_toList, hg]), String.ofList_toList]

theorem length_joined (hw : fields.map String.length = ws) (hg : gap.length = 3) :
    (gap.intercalate fields).length = ws.sum + 3 * (ws.length - 1) := by
  subst hw
  induction fields with
  | nil => simp
  | cons f fields ih =>
    cases fields with
    | nil => simp
    | cons g fields =>
      rw [String.intercalate_cons_cons, String.length_append, String.length_append, hg, ih]
      simp only [List.map_cons, List.sum_cons, List.length_cons]
      omega

end Joined

/-! ## Widths -/

theorem forall₂_le_trans {us vs ws : List Nat} (h : List.Forall₂ (· ≤ ·) us vs)
    (h' : List.Forall₂ (· ≤ ·) vs ws) : List.Forall₂ (· ≤ ·) us ws := by
  induction h generalizing ws with
  | nil => exact h'
  | cons h _ ih =>
    cases h' with
    | cons h' hrest => exact .cons (Nat.le_trans h h') (ih hrest)

theorem le_widen_left (ws vs : List Nat) : List.Forall₂ (· ≤ ·) ws (widen ws vs) := by
  fun_induction widen ws vs with
  | case1 w ws v vs ih => exact .cons (Nat.le_max_left w v) ih
  | case2 ws => exact List.forall₂_refl ws
  | case3 => exact .nil

theorem le_widen_right {ws vs : List Nat} (h : vs.length = ws.length) :
    List.Forall₂ (· ≤ ·) vs (widen ws vs) := by
  fun_induction widen ws vs with
  | case1 w ws v vs ih => exact .cons (Nat.le_max_right w v) (ih (Nat.succ_inj.mp h))
  | case2 ws =>
    obtain rfl := List.eq_nil_of_length_eq_zero h.symm
    exact .nil
  | case3 vs =>
    obtain rfl := List.eq_nil_of_length_eq_zero h
    exact .nil

theorem widen_attained {ws vs : List Nat} {i m : Nat} (h : (widen ws vs)[i]? = some m) :
    ws[i]? = some m ∨ vs[i]? = some m := by
  fun_induction widen ws vs generalizing i with
  | case1 w ws v vs ih =>
    cases i with
    | zero =>
      rw [List.getElem?_cons_zero, Option.some_inj] at h
      rw [List.getElem?_cons_zero, List.getElem?_cons_zero, Option.some_inj, Option.some_inj]
      omega
    | succ i => exact ih h
  | case2 ws => exact Or.inl h
  | case3 => exact Or.inl h

/-- `ws` is as long as each of the lists and has at every position their largest number. -/
structure Widest (ws : List Nat) (lists : List (List Nat)) : Prop where
  bound : ∀ vs ∈ lists, List.Forall₂ (· ≤ ·) vs ws
  attained : ∀ (i w : Nat), ws[i]? = some w → ∃ vs ∈ lists, vs[i]? = some w

/-- Widening by one list after the other ends with the widest of all. -/
theorem foldl_widen_widest (lists : List (List Nat)) (ws : List Nat)
    (h : ∀ vs ∈ lists, vs.length = ws.length) : Widest (lists.foldl widen ws) (ws :: lists) := by
  induction lists generalizing ws with
  | nil =>
    constructor
    · simp
    · intro i w hw
      exact ⟨ws, by simp, hw⟩
  | cons vs lists ih =>
    rw [List.forall_mem_cons] at h
    have hlen : (widen ws vs).length = ws.length := (le_widen_left ws vs).length_eq.symm
    have hrest := ih (widen ws vs) (by rw [hlen]; exact h.2)
    have hlast := hrest.bound _ List.mem_cons_self
    constructor
    · intro us hus
      rcases List.mem_cons.mp hus with rfl | hus
      · exact forall₂_le_trans (le_widen_left _ vs) hlast
      · rcases List.mem_cons.mp hus with rfl | hus
        · exact forall₂_le_trans (le_widen_right h.1) hlast
        · exact hrest.bound us (List.mem_cons_of_mem _ hus)
    · intro i w hw
      obtain ⟨us, hus, hi⟩ := hrest.attained i w hw
      rcases List.mem_cons.mp hus with rfl | hus
      · rcases widen_attained hi with hi | hi
        · exact ⟨ws, by simp, hi⟩
        · exact ⟨vs, by simp, hi⟩
      · exact ⟨us, by simp [hus], hi⟩

/-- The texts of the lines: the column names, and then the cells of each row. -/
def lineTexts (r : RowSet) : List (List String) := r.columns :: r.rows.map rowTexts

theorem widths_widest {r : RowSet} (hr : r.Rectangular) :
    Widest (widths r) ((lineTexts r).map textWidths) := by
  have h := foldl_widen_widest ((r.rows.map rowTexts).map textWidths) (textWidths r.columns) (by
    intro vs hvs
    rw [List.map_map] at hvs
    obtain ⟨row, hrow, rfl⟩ := List.mem_map.mp hvs
    simp [textWidths, rowTexts, hr row hrow])
  rw [List.foldl_map, List.foldl_map] at h
  exact h

/-! ## Lines -/

theorem length_pad {text : String} {width : Nat} (h : text.length ≤ width) :
    (pad text width).length = width := by
  rw [pad, String.length_append, String.length_ofList, List.length_replicate]
  omega

theorem lengths_padded {texts : List String} {ws : List Nat}
    (h : List.Forall₂ (fun text w => text.length ≤ w) texts ws) :
    ((texts.zip ws).map fun p => pad p.1 p.2).map String.length = ws := by
  induction h with
  | nil => rfl
  | cons h _ ih => rw [List.zip_cons_cons, List.map_cons, List.map_cons, ih, length_pad h]

theorem lengths_ruled (ws : List Nat) :
    (ws.map fun w => String.ofList (List.replicate w '─')).map String.length = ws := by
  induction ws with
  | nil => rfl
  | cons w ws ih => rw [List.map_cons, List.map_cons, ih, String.length_ofList, List.length_replicate]

section Lines

variable {r : RowSet} {texts : List String} {ws : List Nat} {i w : Nat}

theorem texts_fit (hr : r.Rectangular) (ht : texts ∈ lineTexts r) :
    List.Forall₂ (fun text w => text.length ≤ w) texts (widths r) := by
  have h := (widths_widest hr).bound _ (List.mem_map_of_mem ht)
  rwa [textWidths, List.forall₂_map_left_iff] at h

theorem lines_eq (r : RowSet) :
    header r :: rowLines r = (lineTexts r).map fun texts => line texts (widths r) := by
  rw [lineTexts, List.map_cons, List.map_map]
  rfl

theorem length_line (h : List.Forall₂ (fun text w => text.length ≤ w) texts ws) :
    (line texts ws).length = ws.sum + 3 * (ws.length - 1) :=
  length_joined (lengths_padded h) rfl

theorem length_separator (ws : List Nat) :
    (separator ws).length = ws.sum + 3 * (ws.length - 1) :=
  length_joined (lengths_ruled ws) rfl

theorem line_at (h : List.Forall₂ (fun text w => text.length ≤ w) texts ws)
    (hw : ws[i]? = some w) :
    ∃ text, texts[i]? = some text ∧ text.length ≤ w ∧ fieldAt ws i (line texts ws) = pad text w ∧
      (i + 1 < ws.length → gapAt ws i (line texts ws) = " │ ") := by
  obtain ⟨hi, rfl⟩ := List.getElem?_eq_some_iff.mp hw
  have hi' : i < texts.length := by rw [h.length_eq]; exact hi
  have hpair : (texts.zip ws)[i]? = some (texts[i], ws[i]) :=
    List.getElem?_zip_eq_some.mpr ⟨List.getElem?_eq_getElem hi', hw⟩
  have hfield : ((texts.zip ws).map fun p => pad p.1 p.2)[i]? = some (pad texts[i] ws[i]) := by
    rw [List.getElem?_map, hpair, Option.map_some]
  refine ⟨texts[i], List.getElem?_eq_getElem hi', h.get hi' hi, ?_, ?_⟩
  · exact fieldAt_joined (lengths_padded h) rfl hfield
  · intro hnext
    have hlen : ((texts.zip ws).map fun p => pad p.1 p.2).length = ws.length := by
      simp [h.length_eq]
    exact gapAt_joined (lengths_padded h) rfl (by rw [hlen]; exact hnext)

theorem separator_at (hw : ws[i]? = some w) :
    fieldAt ws i (separator ws) = String.ofList (List.replicate w '─') ∧
      (i + 1 < ws.length → gapAt ws i (separator ws) = "─┼─") := by
  have hfield : (ws.map fun w => String.ofList (List.replicate w '─'))[i]? =
      some (String.ofList (List.replicate w '─')) := by
    rw [List.getElem?_map, hw, Option.map_some]
  refine ⟨fieldAt_joined (lengths_ruled ws) rfl hfield, ?_⟩
  intro hnext
  exact gapAt_joined (lengths_ruled ws) rfl (by rw [List.length_map]; exact hnext)

end Lines

/-- The lines that are printed for a row set without colours. They are of one length; in each of them
the field of a column begins at the same place and is the whole text with blanks behind it, up to the
gap; and a column is as wide as one of its texts. -/
theorem grid_aligned (r : RowSet) (hr : r.Rectangular) (hne : r.rows ≠ []) :
    let ws := widths r
    Display.rowSet ⟨.table, false⟩ r = header r :: separator ws :: rowLines r ++
      ["", toString r.size ++ " row(s) returned"] ∧
    (ws.length = r.columns.length ∧
      ∀ l ∈ header r :: separator ws :: rowLines r,
        l.length = ws.sum + 3 * (r.columns.length - 1)) ∧
    (∀ (j : Nat) (texts : List String), (lineTexts r)[j]? = some texts →
      ∃ l, (header r :: rowLines r)[j]? = some l ∧
        ∀ (i w : Nat), ws[i]? = some w → ∃ text, texts[i]? = some text ∧ text.length ≤ w ∧
          fieldAt ws i l = text ++ String.ofList (List.replicate (w - text.length) ' ') ∧
          (i + 1 < ws.length → gapAt ws i l = " │ ")) ∧
    ∀ (i w : Nat), ws[i]? = some w →
      (fieldAt ws i (separator ws) = String.ofList (List.replicate w '─') ∧
        (i + 1 < ws.length → gapAt ws i (separator ws) = "─┼─")) ∧
      ∃ texts ∈ lineTexts r, ∃ text, texts[i]? = some text ∧ text.length = w := by
  intro ws
  have hlen : ws.length = r.columns.length :=
    (texts_fit hr (List.mem_cons_self : r.columns ∈ lineTexts r)).length_eq.symm
  refine ⟨?_, ⟨hlen, ?_⟩, ?_, ?_⟩
  · have hsome : r.isEmpty = false := by simpa [RowSet.isEmpty] using hne
    simp [Display.rowSet, hsome, lines, Style.paint, ws]
  · rw [← hlen]
    intro l hl
    have hl : l = separator ws ∨ l ∈ header r :: rowLines r := by
      simp only [List.mem_cons] at hl ⊢
      exact or_left_comm.mp hl
    rcases hl with rfl | hl
    · exact length_separator ws
    · rw [lines_eq] at hl
      obtain ⟨texts, ht, rfl⟩ := List.mem_map.mp hl
      exact length_line (texts_fit hr ht)
  · intro j texts ht
    refine ⟨line texts ws, ?_, fun i w hw => line_at (texts_fit hr (List.mem_of_getElem? ht)) hw⟩
    rw [lines_eq, List.getElem?_map, ht, Option.map_some]
  · intro i w hw
    refine ⟨separator_at hw, ?_⟩
    obtain ⟨vs, hvs, hi⟩ := (widths_widest hr).attained i w hw
    obtain ⟨texts, ht, rfl⟩ := List.mem_map.mp hvs
    rw [textWidths, List.getElem?_map, Option.map_eq_some_iff] at hi
    exact ⟨texts, ht, hi⟩

/-- Two towns, one of them without a name. -/
def towns : RowSet := ⟨["id", "città"], [[.int 1, .text "Forlì"], [.int 22, .null]]⟩

/-- The second column begins at the sixth character of every line, the accents notwithstanding. -/
theorem towns_aligned :
    towns.Rectangular ∧ towns.rows ≠ [] ∧ widths towns = [2, 5] ∧
      (∀ l ∈ header towns :: separator (widths towns) :: rowLines towns, l.length = 10) ∧
      ∃ l, (header towns :: rowLines towns)[2]? = some l ∧ fieldAt [2, 5] 1 l = "NULL " := by
  have hr : towns.Rectangular := by decide
  have hne : towns.rows ≠ [] := by decide
  have hw : widths towns = [2, 5] := by decide
  obtain ⟨-, ⟨-, hlength⟩, hfields, -⟩ := grid_aligned towns hr hne
  obtain ⟨l, hl, hfield⟩ := hfields 2 ["22", "NULL"] (by decide)
  obtain ⟨text, htext, -, hat, -⟩ := hfield 1 5 (by rw [hw]; rfl)
  obtain rfl : "NULL" = text := by simpa using htext
  rw [hw] at hat
  refine ⟨hr, hne, hw, ?_, l, hl, by rw [hat]; rfl⟩
  intro l hl
  rw [hlength l hl, hw]
  rfl

end SlangSql.Terminal.Grid
