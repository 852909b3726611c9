import Mathlib.Data.List.Basic
import SlangSql.RowSet

/-!
# The views of a row set

A row set can be asked for one cell, by row and column name, and it can be turned
into a list of objects. A name that stands once among the columns means the same
cell in both views. Of a repeated name the first column counts for a single cell
and the last one for the object, because each later column overwrites the member
that an earlier one has set.
-/

set_option autoImplicit false

namespace SlangSql.RowSet

/-- Every row has a cell for each column. -/
def Rectangular (r : RowSet) : Prop := ∀ row ∈ r.rows, row.length = r.columns.length

instance (r : RowSet) : Decidable r.Rectangular :=
  inferInstanceAs (Decidable (∀ row ∈ r.rows, row.length = r.columns.length))

/-- The cell of a row at a position. -/
def cellAt? (r : RowSet) (row column : Nat) : Option Cell := (r.rows[row]?).bind (·[column]?)

/-- `c` stands at position `j` and nowhere before it. -/
def FirstAt (c : String) (columns : List String) (j : Nat) : Prop :=
  columns[j]? = some c ∧ c ∉ columns.take j

/-- `c` stands at position `j` and nowhere behind it. -/
def LastAt (c : String) (columns : List String) (j : Nat) : Prop :=
  columns[j]? = some c ∧ c ∉ columns.drop (j + 1)

instance (c : String) (columns : List String) (j : Nat) : Decidable (FirstAt c columns j) :=
  inferInstanceAs (Decidable (columns[j]? = some c ∧ c ∉ columns.take j))

instance (c : String) (columns : List String) (j : Nat) : Decidable (LastAt c columns j) :=
  inferInstanceAs (Decidable (columns[j]? = some c ∧ c ∉ columns.drop (j + 1)))

/-! ## Members of an object -/

section Members

variable {name c : String} {cell : Cell} {ms : List (String × Cell)}

theorem lookup_cons_ite {α : Type} (m : String × α) (ms : List (String × α)) :
    (m :: ms).lookup c = if c = m.1 then some m.2 else ms.lookup c := by
  rw [show m = (m.1, m.2) from rfl, List.lookup_cons]
  by_cases h : c = m.1
  · rw [if_pos h, beq_iff_eq.mpr h]
  · rw [if_neg h, beq_eq_false_iff_ne.mpr h]

theorem lookup_setMember :
    (setMember name cell ms).lookup c = if c = name then some cell else ms.lookup c := by
  induction ms with
  | nil => rw [setMember, lookup_cons_ite]
  | cons m ms ih =>
    unfold setMember
    by_cases hlt : name < m.1
    · rw [if_pos hlt, lookup_cons_ite]
    · rw [if_neg hlt]
      by_cases he : name = m.1
      · rw [if_pos he, lookup_cons_ite, lookup_cons_ite, ← he]
        by_cases h : c = name <;> simp [h]
      · rw [if_neg he, lookup_cons_ite, lookup_cons_ite, ih]
        by_cases hm : c = m.1
        · have hne : c ≠ name := by
            rw [hm]
            exact Ne.symm he
          rw [if_pos hm, if_neg hne, if_pos hm]
        · rw [if_neg hm, if_neg hm]

theorem mem_names_setMember :
    c ∈ (setMember name cell ms).map Prod.fst ↔ c = name ∨ c ∈ ms.map Prod.fst := by
  induction ms with
  | nil => simp [setMember]
  | cons m ms ih =>
    unfold setMember
    by_cases hlt : name < m.1
    · simp [hlt]
    · by_cases he : name = m.1
      · simp [← he]
      · simp only [if_neg hlt, if_neg he, List.map_cons, List.mem_cons, ih]
        exact or_left_comm

theorem setMember_ascending (h : (ms.map Prod.fst).Pairwise (· < ·)) :
    ((setMember name cell ms).map Prod.fst).Pairwise (· < ·) := by
  induction ms with
  | nil => simp [setMember]
  | cons m ms ih =>
    obtain ⟨hm, hms⟩ := List.pairwise_cons.mp h
    unfold setMember
    by_cases hlt : name < m.1
    · rw [if_pos hlt, List.map_cons, List.pairwise_cons]
      refine ⟨?_, h⟩
      intro k hk
      rcases List.mem_cons.mp hk with rfl | hk
      · exact hlt
      · exact String.lt_trans hlt (hm k hk)
    · by_cases he : name = m.1
      · rw [if_neg hlt, if_pos he, List.map_cons, he]
        exact h
      · rw [if_neg hlt, if_neg he, List.map_cons, List.pairwise_cons]
        refine ⟨?_, ih hms⟩
        intro k hk
        rcases mem_names_setMember.mp hk with rfl | hk
        · exact Std.lt_of_le_of_ne (String.not_lt.mp hlt) (Ne.symm he)
        · exact hm k hk

end Members

/-- What setting members one after the other leads to. -/
theorem foldl_setMember (pairs ms : List (String × Cell)) (h : (ms.map Prod.fst).Pairwise (· < ·)) :
    let final := pairs.foldl (fun acc p => setMember p.1 p.2 acc) ms
    (final.map Prod.fst).Pairwise (· < ·) ∧
      (∀ c, c ∈ final.map Prod.fst ↔ c ∈ pairs.map Prod.fst ∨ c ∈ ms.map Prod.fst) ∧
      ∀ c, final.lookup c = (pairs.reverse.lookup c).or (ms.lookup c) := by
  induction pairs generalizing ms with
  | nil => exact ⟨h, by simp, by simp⟩
  | cons p pairs ih =>
    obtain ⟨hsorted, hnames, hlookup⟩ := ih (setMember p.1 p.2 ms) (setMember_ascending h)
    refine ⟨hsorted, ?_, ?_⟩
    · intro c
      rw [List.foldl_cons, hnames c, mem_names_setMember, List.map_cons, List.mem_cons]
      exact or_left_comm.trans or_assoc.symm
    · intro c
      rw [List.foldl_cons, hlookup c, lookup_setMember, List.reverse_cons, List.lookup_append,
        lookup_cons_ite, Option.or_assoc]
      by_cases hc : c = p.1 <;> simp [hc]

section Members

variable {columns : List String} {cells : List Cell}

theorem members_ascending (columns : List String) (cells : List Cell) :
    ((members columns cells).map Prod.fst).Pairwise (· < ·) :=
  (foldl_setMember (columns.zip cells) [] .nil).1

theorem mem_names_members (h : cells.length = columns.length) (c : String) :
    c ∈ (members columns cells).map Prod.fst ↔ c ∈ columns := by
  have hc := (foldl_setMember (columns.zip cells) [] .nil).2.1 c
  rwa [List.map_fst_zip (Nat.le_of_eq h.symm), List.map_nil, List.mem_nil_iff, or_false] at hc

theorem lookup_reverse_zip {c : String} {j : Nat} (h : cells.length = columns.length)
    (hj : LastAt c columns j) : (columns.zip cells).reverse.lookup c = cells[j]? := by
  induction columns generalizing cells j with
  | nil => simp [LastAt] at hj
  | cons d columns ih =>
    obtain ⟨x, cells, rfl⟩ := List.exists_cons_of_length_eq_add_one h
    rw [List.length_cons, List.length_cons, Nat.add_right_cancel_iff] at h
    rw [List.zip_cons_cons, List.reverse_cons, List.lookup_append, lookup_cons_ite]
    cases j with
    | zero =>
      -- behind the last occurrence no column has the name
      have hnone : (columns.zip cells).reverse.lookup c = none := by
        rw [List.lookup_eq_none_iff]
        intro p hp
        have hmem := List.of_mem_zip (List.mem_reverse.mp hp)
        have hne : c ≠ p.1 := by
          rintro rfl
          exact hj.2 hmem.1
        simpa using hne
      have hd : d = c := by simpa using hj.1
      rw [hnone, hd]
      simp
    | succ j =>
      have hlast : LastAt c columns j := hj
      have hlt : j < cells.length := by
        rw [h]
        exact (List.getElem?_eq_some_iff.mp hlast.1).1
      rw [ih h hlast, List.getElem?_cons_succ, List.getElem?_eq_getElem hlt, Option.some_or]

theorem lookup_members {c : String} {j : Nat} (h : cells.length = columns.length)
    (hj : LastAt c columns j) : (members columns cells).lookup c = cells[j]? := by
  have hl := (foldl_setMember (columns.zip cells) [] .nil).2.2 c
  rw [lookup_reverse_zip h hj, List.lookup_nil, Option.or_none] at hl
  exact hl

end Members

/-! ## The first and the last column of a name -/

section Positions

variable {c : String} {columns : List String} {j k : Nat}

theorem exists_firstAt (h : c ∈ columns) : ∃ j, FirstAt c columns j := by
  induction columns with
  | nil => simp at h
  | cons d columns ih =>
    by_cases hd : d = c
    · exact ⟨0, by simp [FirstAt, hd]⟩
    · obtain ⟨j, hj, hn⟩ := ih ((List.mem_cons.mp h).resolve_left (Ne.symm hd))
      exact ⟨j + 1, by simp [FirstAt, hj, hn, Ne.symm hd]⟩

theorem exists_lastAt (h : c ∈ columns) : ∃ j, LastAt c columns j := by
  induction columns with
  | nil => simp at h
  | cons d columns ih =>
    by_cases hc : c ∈ columns
    · obtain ⟨j, hj⟩ := ih hc
      exact ⟨j + 1, hj⟩
    · have hd : c = d := (List.mem_cons.mp h).resolve_right hc
      exact ⟨0, by simp [LastAt, ← hd, hc]⟩

theorem FirstAt.findIdx? (h : FirstAt c columns j) : columns.findIdx? (· == c) = some j := by
  obtain ⟨hlt, he⟩ := List.getElem?_eq_some_iff.mp h.1
  rw [List.findIdx?_eq_some_iff_getElem]
  refine ⟨hlt, by simpa using he, ?_⟩
  intro i hi hc
  have hmem : columns[i] ∈ columns.take j := List.mem_take_iff_getElem.mpr ⟨i, by omega, rfl⟩
  rw [beq_iff_eq.mp hc] at hmem
  exact h.2 hmem

theorem FirstAt.le (h : FirstAt c columns j) (hk : columns[k]? = some c) : j ≤ k := by
  by_contra hlt
  obtain ⟨hlen, he⟩ := List.getElem?_eq_some_iff.mp hk
  have hmem : columns[k] ∈ columns.take j := List.mem_take_iff_getElem.mpr ⟨k, by omega, rfl⟩
  rw [he] at hmem
  exact h.2 hmem

/-- The columns around one that has the name. -/
theorem count_eq (h : columns[j]? = some c) :
    columns.count c = (columns.take j).count c + (1 + (columns.drop (j + 1)).count c) := by
  obtain ⟨hlt, he⟩ := List.getElem?_eq_some_iff.mp h
  calc columns.count c = (columns.take j ++ columns.drop j).count c := by
        rw [List.take_append_drop]
    _ = (columns.take j).count c + (columns[j] :: columns.drop (j + 1)).count c := by
        rw [List.count_append, List.drop_eq_getElem_cons hlt]
    _ = (columns.take j).count c + (1 + (columns.drop (j + 1)).count c) := by
        rw [he, List.count_cons_self, Nat.add_comm 1]

/-- The first and the last column of a name are the same just if there is one such column. -/
theorem FirstAt.eq_iff_count (hj : FirstAt c columns j) (hk : LastAt c columns k) :
    j = k ↔ columns.count c = 1 := by
  have hcount := count_eq hj.1
  rw [List.count_eq_zero_of_not_mem hj.2] at hcount
  constructor
  · rintro rfl
    rw [hcount, List.count_eq_zero_of_not_mem hk.2]
  · intro hone
    have hdrop : (columns.drop (j + 1)).count c = 0 := by omega
    by_contra hne
    have hlt : j < k := Nat.lt_of_le_of_ne (hj.le hk.1) hne
    have hmem : c ∈ columns.drop (j + 1) := by
      rw [List.mem_iff_getElem?]
      refine ⟨k - (j + 1), ?_⟩
      rw [List.getElem?_drop, show j + 1 + (k - (j + 1)) = k by omega]
      exact hk.1
    exact absurd hdrop (Nat.ne_of_gt (List.count_pos_iff.mpr hmem))

end Positions

/-! ## Single cells -/

section Cells

variable {r : RowSet} {i j : Nat} {c : String}

theorem get?_eq_cellAt? (h : FirstAt c r.columns j) : r.get? i c = r.cellAt? i j := by
  simp [get?, cellAt?, h.findIdx?]

theorem cellAt?_eq_none_iff (hr : r.Rectangular) (hj : j < r.columns.length) :
    r.cellAt? i j = none ↔ r.size ≤ i := by
  rw [cellAt?, size]
  by_cases hi : i < r.rows.length
  · have hlen := hr _ (List.getElem_mem hi)
    simp [hlen, hi, hj]
  · simp [hi, Nat.le_of_not_lt hi]

theorem get?_eq_none_iff (hr : r.Rectangular) :
    r.get? i c = none ↔ r.size ≤ i ∨ c ∉ r.columns := by
  by_cases hc : c ∈ r.columns
  · obtain ⟨j, hj⟩ := exists_firstAt hc
    have hlt : j < r.columns.length := (List.getElem?_eq_some_iff.mp hj.1).1
    rw [get?_eq_cellAt? hj, cellAt?_eq_none_iff hr hlt]
    simp [hc]
  · have hnone : r.columns.findIdx? (· == c) = none := by
      rw [List.findIdx?_eq_none_iff]
      intro d hd
      have hne : d ≠ c := by
        rintro rfl
        exact hc hd
      simpa using hne
    simp [get?, hnone, hc]

theorem isNull_iff : r.isNull i c = true ↔
    r.get? i c = none ∨ (r.get? i c).map Cell.toJson = some .null := by
  rw [isNull]
  cases r.get? i c with
  | none => simp
  | some cell => cases cell <;> simp [Cell.isNull, Cell.toJson]

end Cells

/-! ## Both views -/

/-- The members of a row as they are written in JSON. -/
def jsonMembers (columns : List String) (cells : List Cell) : List (String × Json) :=
  (members columns cells).map fun m => (m.1, m.2.toJson)

theorem toJson_eq (r : RowSet) :
    r.toJson = .array ((r.rows.map (jsonMembers r.columns)).map .object) := by
  rw [toJson, objects, List.map_map, List.map_map]
  rfl

theorem jsonMembers_names (columns : List String) (cells : List Cell) :
    (jsonMembers columns cells).map Prod.fst = (members columns cells).map Prod.fst := by
  rw [jsonMembers, List.map_map]
  rfl

theorem lookup_map_toJson (c : String) (ms : List (String × Cell)) :
    (ms.map fun m => (m.1, m.2.toJson)).lookup c = (ms.lookup c).map Cell.toJson := by
  induction ms with
  | nil => rfl
  | cons m ms ih =>
    rw [List.map_cons, lookup_cons_ite, lookup_cons_ite, ih]
    by_cases h : c = m.1 <;> simp [h]

/-- The list of objects has one object for each row, with one member for each column name. A name
that stands once among the columns means the same cell there as for a single cell; of a repeated one
a single cell is that of the first column and the member that of the last. There is no single cell
just outside the rows and columns, and what is not there counts as NULL. -/
theorem views_agree (r : RowSet) (hr : r.Rectangular) :
    (∃ objects : List (List (String × Json)),
      r.toJson = .array (objects.map .object) ∧ objects.length = r.size ∧
      ∀ i object, objects[i]? = some object →
        (object.map Prod.fst).Pairwise (· < ·) ∧
        (∀ c, c ∈ object.map Prod.fst ↔ c ∈ r.columns) ∧
        ∀ c,
          (r.columns.count c = 1 → object.lookup c = (r.get? i c).map Cell.toJson) ∧
          (1 < r.columns.count c → ∃ first last, first < last ∧
            FirstAt c r.columns first ∧ LastAt c r.columns last ∧
            r.get? i c = r.cellAt? i first ∧
            object.lookup c = (r.cellAt? i last).map Cell.toJson)) ∧
    ∀ i c,
      (r.get? i c = none ↔ r.size ≤ i ∨ c ∉ r.columns) ∧
      (r.isNull i c = true ↔ r.get? i c = none ∨ (r.get? i c).map Cell.toJson = some .null) := by
  refine ⟨⟨r.rows.map (jsonMembers r.columns), r.toJson_eq, by simp [size], ?_⟩,
    fun i c => ⟨get?_eq_none_iff hr, isNull_iff⟩⟩
  intro i object hi
  rw [List.getElem?_map, Option.map_eq_some_iff] at hi
  obtain ⟨cells, hcells, rfl⟩ := hi
  have hlen : cells.length = r.columns.length := hr cells (List.mem_of_getElem? hcells)
  have hlast : ∀ {c : String} {k : Nat}, LastAt c r.columns k →
      (jsonMembers r.columns cells).lookup c = (r.cellAt? i k).map Cell.toJson := by
    intro c k hk
    rw [jsonMembers, lookup_map_toJson, lookup_members hlen hk, cellAt?, hcells, Option.bind_some]
  rw [jsonMembers_names]
  refine ⟨members_ascending _ _, mem_names_members hlen, fun c => ⟨?_, ?_⟩⟩
  · intro hone
    have hc : c ∈ r.columns := List.count_pos_iff.mp (by omega)
    obtain ⟨j, hj⟩ := exists_firstAt hc
    obtain ⟨k, hk⟩ := exists_lastAt hc
    obtain rfl := (hj.eq_iff_count hk).mpr hone
    rw [hlast hk, get?_eq_cellAt? hj]
  · intro hmany
    have hc : c ∈ r.columns := List.count_pos_iff.mp (by omega)
    obtain ⟨j, hj⟩ := exists_firstAt hc
    obtain ⟨k, hk⟩ := exists_lastAt hc
    have hne : j ≠ k := by
      intro he
      have hone := (hj.eq_iff_count hk).mp he
      omega
    exact ⟨j, k, Nat.lt_of_le_of_ne (hj.le hk.1) hne, hj, hk, get?_eq_cellAt? hj, hlast hk⟩

/-- Two orders beside their users; both tables have a column `id`. -/
def ordersOfUsers : RowSet :=
  ⟨["id", "name", "id", "total"],
    [[.int 1, .text "Ada", .int 70, .null], [.int 2, .text "Bob", .null, .int 5]]⟩

/-- In the second row the two columns `id` differ, and the object keeps the NULL of the second. -/
theorem views_of_ordersOfUsers :
    ordersOfUsers.Rectangular ∧ ordersOfUsers.columns.count "name" = 1 ∧
      1 < ordersOfUsers.columns.count "id" ∧
    ∃ objects : List (List (String × Json)),
      ordersOfUsers.toJson = .array (objects.map .object) ∧ objects.length = 2 ∧
      ∀ object, objects[1]? = some object →
        object.lookup "name" = some (.text "Bob") ∧
        ordersOfUsers.get? 1 "id" = some (.int 2) ∧ object.lookup "id" = some .null := by
  have hr : ordersOfUsers.Rectangular := by decide
  have hname : ordersOfUsers.columns.count "name" = 1 := by decide
  have hid : 1 < ordersOfUsers.columns.count "id" := by decide
  obtain ⟨⟨objects, hjson, hlength, hall⟩, -⟩ := views_agree ordersOfUsers hr
  refine ⟨hr, hname, hid, objects, hjson, hlength, ?_⟩
  intro object ho
  obtain ⟨-, -, hviews⟩ := hall 1 object ho
  obtain ⟨first, last, -, hfirst, hlast, hget, hlookup⟩ := (hviews "id").2 hid
  have hpositions : ∀ k < 4, (FirstAt "id" ordersOfUsers.columns k → k = 0) ∧
      (LastAt "id" ordersOfUsers.columns k → k = 2) := by
    decide
  have h0 := (hpositions first (List.getElem?_eq_some_iff.mp hfirst.1).1).1 hfirst
  have h2 := (hpositions last (List.getElem?_eq_some_iff.mp hlast.1).1).2 hlast
  rw [h0] at hget
  rw [h2] at hlookup
  exact ⟨(hviews "name").1 hname, hget, hlookup⟩

end SlangSql.RowSet
