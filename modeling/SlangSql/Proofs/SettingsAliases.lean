import SlangSql.Proofs.GroupOrder
import SlangSql.Proofs.OperationNames
import SlangSql.Settings

/-!
# Aliases from settings

Settings give aliases under names of operations. The names are taken in the
order of their bytes, and the aliases of a name are added all or nothing. At the
first name that fails the vocabulary stays as the names before it have left it.
A name may be spelled in several ways, so several names may mean one operation:
their aliases add up. Nothing that was bound before is bound otherwise after.
-/

set_option autoImplicit false

namespace SlangSql

/-! ## The order of names -/

namespace Text

def bytes (s : String) : List UInt8 := s.toUTF8.data.toList

theorem bytes_eq (s : String) : bytes s = s.toList.flatMap String.utf8EncodeChar := by
  have h : s.toByteArray = s.toList.utf8Encode := by
    rw [← String.toByteArray_ofList, String.ofList_toList]
  rw [bytes, String.toUTF8, h, List.utf8Encode, List.data_toByteArray, List.toList_toArray]

/-- The first byte of a character gives its length, and longer characters have greater first
bytes. Between characters of one length the bytes are digits to the base 64. -/
theorem utf8EncodeChar_append_lt {c d : Char} (h : c < d) (xs ys : List UInt8) :
    String.utf8EncodeChar c ++ xs < String.utf8EncodeChar d ++ ys := by
  have hlt : c.val.toNat < d.val.toNat := h
  have hd : d.val.toNat < 0x110000 := by
    have hv := d.valid
    simp only [UInt32.isValidChar, Nat.isValidChar] at hv
    omega
  have h2 (n : Nat) : n / 4096 = n / 64 / 64 := by omega
  have h3 (n : Nat) : n / 262144 = n / 64 / 64 / 64 := by omega
  have hl (n : Nat) : (n % 64 + 128) % 2 ^ 8 = n % 64 + 128 := by omega
  simp only [String.utf8EncodeChar, h2, h3]
  generalize c.val.toNat = m at *
  generalize d.val.toNat = n at *
  -- one goal for each pair of lengths
  split_ifs <;>
    simp only [List.cons_append, List.nil_append, List.cons_lt_cons_iff, UInt8.lt_iff_toNat_lt,
      ← UInt8.toNat_inj, UInt8.toNat_ofNat', hl] <;>
    omega

theorem flatMap_utf8EncodeChar_lt {cs ds : List Char} (h : cs < ds) :
    cs.flatMap String.utf8EncodeChar < ds.flatMap String.utf8EncodeChar := by
  induction h with
  | nil =>
    rw [List.flatMap_nil, List.flatMap_cons]
    obtain ⟨b, bs, hb⟩ := List.exists_cons_of_ne_nil String.utf8EncodeChar_ne_nil
    rw [hb, List.cons_append]
    exact List.nil_lt_cons b _
  | cons h ih => exact List.append_left_lt ih
  | rel h => exact utf8EncodeChar_append_lt h _ _

theorem bytes_lt_of_lt {s t : String} (h : s < t) : bytes s < bytes t := by
  rw [bytes_eq, bytes_eq]
  exact flatMap_utf8EncodeChar_lt (String.lt_iff.mp h)

theorem bytes_le_of_le {s t : String} (h : s ≤ t) : bytes s ≤ bytes t := by
  by_cases ht : t ≤ s
  · rw [String.le_antisymm h ht]
    exact List.le_refl _
  · exact List.le_of_lt (bytes_lt_of_lt (String.not_le.mp ht))

end Text

/-! ## Names in turn -/

namespace Settings

open Vocabulary

variable {v w : Vocabulary} {e : Error} {g : String × List String}
  {gs : List (String × List String)} {hs : List (Operation × List String)}

/-- The group of a name is the group of the operation that the name means. -/
def Means (g : String × List String) (h : Operation × List String) : Prop :=
  Operation.ofSpelling? g.1 = some h.1 ∧ g.2 = h.2

theorem addGroup_eq_ok_iff : addGroup v g = .ok w ↔
    ∃ op, Operation.ofSpelling? g.1 = some op ∧ v.extend op g.2 = .ok w := by
  unfold addGroup Operation.read
  cases Operation.ofSpelling? g.1 with
  | none => simp
  | some op => simp

theorem addGroup_eq_error_iff : addGroup v g = .error e ↔
    Operation.ofSpelling? g.1 = none ∧
        e = .configuration ("Unknown operation '" ++ g.1 ++ "'") ∨
      ∃ op, Operation.ofSpelling? g.1 = some op ∧ v.extend op g.2 = .error e := by
  unfold addGroup Operation.read
  cases Operation.ofSpelling? g.1 with
  | none => simp [eq_comm]
  | some op => simp

theorem addGroups_cons (h : addGroup v g = .ok w) (gs : List (String × List String)) :
    addGroups v (g :: gs) = addGroups w gs := by
  rw [addGroups, h]

theorem addGroups_of_error (h : addGroup v g = .error e) (gs : List (String × List String)) :
    addGroups v (g :: gs) = (v, some e) := by
  rw [addGroups, h]

theorem addGroups_eq_none_iff : addGroups v gs = (w, none) ↔
    ∃ hs, List.Forall₂ Means gs hs ∧ v.extendAll hs = .ok w := by
  induction gs generalizing v with
  | nil =>
    constructor
    · intro h
      cases h
      exact ⟨[], .nil, rfl⟩
    · rintro ⟨hs, hm, hw⟩
      cases hm
      cases hw
      rfl
  | cons g gs ih =>
    constructor
    · intro h
      cases hu : addGroup v g with
      | ok u =>
        rw [addGroups_cons hu] at h
        obtain ⟨op, ho, hx⟩ := addGroup_eq_ok_iff.mp hu
        obtain ⟨hs, hm, hw⟩ := ih.mp h
        exact ⟨(op, g.2) :: hs, .cons ⟨ho, rfl⟩ hm,
          (extendAll_cons_eq_ok_iff v _ hs).mpr ⟨u, hx, hw⟩⟩
      | error e =>
        rw [addGroups_of_error hu] at h
        cases h
    · rintro ⟨hs, hm, hw⟩
      cases hm with
      | cons hg hm =>
        obtain ⟨u, hu, hw⟩ := (extendAll_cons_eq_ok_iff v _ _).mp hw
        rw [← hg.2] at hu
        rw [addGroups_cons (addGroup_eq_ok_iff.mpr ⟨_, hg.1, hu⟩)]
        exact ih.mpr ⟨_, hm, hw⟩

/-- The failure of a run is that of one name, on the vocabulary that the names before it give. -/
theorem addGroups_eq_some_iff : addGroups v gs = (w, some e) ↔
    ∃ before g after, gs = before ++ g :: after ∧ addGroups v before = (w, none) ∧
      addGroup w g = .error e := by
  induction gs generalizing v with
  | nil =>
    constructor
    · intro h
      cases h
    · rintro ⟨before, g, after, hgs, -⟩
      simp at hgs
  | cons g gs ih =>
    constructor
    · intro h
      cases hu : addGroup v g with
      | ok u =>
        rw [addGroups_cons hu] at h
        obtain ⟨before, k, after, rfl, hb, hk⟩ := ih.mp h
        exact ⟨g :: before, k, after, rfl, (addGroups_cons hu before).trans hb, hk⟩
      | error e' =>
        rw [addGroups_of_error hu] at h
        cases h
        exact ⟨[], g, gs, rfl, rfl, hu⟩
    · rintro ⟨before, k, after, hgs, hb, hk⟩
      cases before with
      | nil =>
        cases hgs
        cases hb
        exact addGroups_of_error hk gs
      | cons b before =>
        cases hgs
        cases hu : addGroup v g with
        | ok u =>
          rw [addGroups_cons hu] at hb ⊢
          exact ih.mpr ⟨before, k, after, rfl, hb, hk⟩
        | error e' =>
          rw [addGroups_of_error hu] at hb
          cases hb

theorem addGroups_preserves {P : Vocabulary → Prop}
    (hx : ∀ v w op as, P v → v.extend op as = .ok w → P w) (hv : P v)
    (gs : List (String × List String)) : P (addGroups v gs).1 := by
  induction gs generalizing v with
  | nil => exact hv
  | cons g gs ih =>
    cases hu : addGroup v g with
    | ok u =>
      rw [addGroups_cons hu]
      obtain ⟨op, -, hu⟩ := addGroup_eq_ok_iff.mp hu
      exact ih (hx v u op g.2 hv hu)
    | error e =>
      rw [addGroups_of_error hu]
      exact hv

theorem resolve_addGroups {t : String} {op : Operation} (h : v.resolve t = some op)
    (gs : List (String × List String)) : (addGroups v gs).1.resolve t = some op := by
  refine addGroups_preserves (P := fun w => w.resolve t = some op) ?_ h gs
  intro v w op' as hv hx
  exact (owner?_extend hx _).mpr (Or.inl hv)

theorem aliasesOf_addGroups (v : Vocabulary) (op : Operation) (gs : List (String × List String)) :
    v.aliasesOf op <+: (addGroups v gs).1.aliasesOf op := by
  refine addGroups_preserves (P := fun w => v.aliasesOf op <+: w.aliasesOf op) ?_
    (List.prefix_refl _) gs
  intro u w op' as hu hx
  rw [aliasesOf_extend hx]
  exact hu.trans (List.prefix_append _ _)

theorem exists_meant_iff (hm : List.Forall₂ Means gs hs) (op : Operation) (key : String) :
    (∃ h ∈ hs, op = h.1 ∧ key ∈ h.2.map Text.fold) ↔
      ∃ g ∈ gs, Operation.ofSpelling? g.1 = some op ∧ key ∈ g.2.map Text.fold := by
  induction hm with
  | nil => simp
  | cons hg _ ih =>
    rw [List.exists_mem_cons_iff, List.exists_mem_cons_iff, ih, hg.1, hg.2, Option.some.injEq,
      eq_comm]

theorem groups_perm (s : Settings) : s.groups.Perm s.aliases :=
  List.mergeSort_perm _ _

theorem groups_sorted (s : Settings) : s.groups.Pairwise fun g h => g.1 ≤ h.1 := by
  have hs : s.groups.Pairwise fun g h => decide (g.1 ≤ h.1) = true := by
    apply List.pairwise_mergeSort
    · intro a b c hab hbc
      rw [decide_eq_true_eq] at hab hbc ⊢
      exact String.le_trans hab hbc
    · intro a b
      simpa using String.le_total a.1 b.1
  exact hs.imp fun h => decide_eq_true_eq.mp h

theorem groups_ascending (s : Settings) (hn : (s.aliases.map (·.1)).Nodup) :
    s.groups.Pairwise fun g h => g.1 < h.1 := by
  have hne : s.groups.Pairwise fun g h => g.1 ≠ h.1 := by
    rw [← (s.groups_perm.map _).nodup_iff] at hn
    exact List.pairwise_map.mp hn
  refine (s.groups_sorted.and hne).imp ?_
  rintro g h ⟨hle, hne⟩
  rw [← String.not_le]
  exact fun hge => hne (String.le_antisymm hle hge)

theorem resolve_applyAliases {s : Settings} (h : s.applyAliases v = (w, none)) (t : String)
    (op : Operation) : w.resolve t = some op ↔ v.resolve t = some op ∨
      ∃ g ∈ s.aliases, Operation.ofSpelling? g.1 = some op ∧ Text.fold t ∈ g.2.map Text.fold := by
  obtain ⟨hs, hm, hw⟩ := addGroups_eq_none_iff.mp h
  unfold resolve
  rw [owner?_extendAll hw, exists_meant_iff hm]
  simp only [s.groups_perm.mem_iff]

/-- The names are taken in the order of their bytes. A failure is that of one name: it means no
operation, or its words are refused by the vocabulary to which all groups before it have been
added, and that vocabulary remains. Without a failure a word means what it meant before or what a
name gives to it, however the name is spelled. In either case nothing is lost. -/
theorem applyAliases_in_turn (s : Settings) (v : Vocabulary) :
    (s.groups.Perm s.aliases ∧ (s.groups.Pairwise fun g h => Text.bytes g.1 ≤ Text.bytes h.1) ∧
      ((s.aliases.map (·.1)).Nodup →
        s.groups.Pairwise fun g h => Text.bytes g.1 < Text.bytes h.1)) ∧
    (∀ w e, s.applyAliases v = (w, some e) ↔ ∃ before name words after,
      s.groups = before ++ (name, words) :: after ∧
      (∃ hs, List.Forall₂ Means before hs ∧ v.extendAll hs = .ok w) ∧
      (Operation.ofSpelling? name = none ∧
          e = .configuration ("Unknown operation '" ++ name ++ "'") ∨
        ∃ op, Operation.ofSpelling? name = some op ∧ w.extend op words = .error e)) ∧
    (∀ w, s.applyAliases v = (w, none) ↔
      ∃ hs, List.Forall₂ Means s.groups hs ∧ v.extendAll hs = .ok w) ∧
    (∀ w, s.applyAliases v = (w, none) → ∀ t op, w.resolve t = some op ↔
      v.resolve t = some op ∨ ∃ g ∈ s.aliases, Operation.ofSpelling? g.1 = some op ∧
        Text.fold t ∈ g.2.map Text.fold) ∧
    (∀ name op, Operation.ofSpelling? name = some op ↔ op.SpelledBy name) ∧
    (∀ t op, v.resolve t = some op → (s.applyAliases v).1.resolve t = some op) ∧
    ∀ op, v.aliasesOf op <+: (s.applyAliases v).1.aliasesOf op := by
  refine ⟨⟨s.groups_perm, s.groups_sorted.imp Text.bytes_le_of_le,
    fun hn => (s.groups_ascending hn).imp Text.bytes_lt_of_lt⟩, ?_,
    fun w => addGroups_eq_none_iff, fun w h => resolve_applyAliases h,
    Operation.ofSpelling?_eq_some_iff, fun t op h => resolve_addGroups h _,
    fun op => aliasesOf_addGroups v op _⟩
  intro w e
  simp only [applyAliases, addGroups_eq_some_iff, addGroups_eq_none_iff, addGroup_eq_error_iff,
    Prod.exists]

/-- Names in several spellings, of which one means no operation. -/
def mixedNames : Settings where
  aliases := [("select", ["skibidi"]), ("MERGE", ["smash"]), (" set-Equal ", ["rizz"])]

/-- Two names of one operation. -/
def twoNames : Settings where
  aliases := [("select", ["skibidi"]), ("SELECT ", ["toilet", "Skibidi"])]

/-- Of three names the middle one fails: the words of the first, which begins with a blank, have
been added, and those of the last have not. The words of two names for SELECT add up. -/
theorem applyAliases_mixedNames :
    mixedNames.applyAliases .standard = (Vocabulary.standard.adjoin .setEqual ["rizz"],
      some (.configuration "Unknown operation 'MERGE'")) ∧
    twoNames.applyAliases .standard =
      (Vocabulary.standard.adjoin .select ["toilet", "Skibidi"], none) ∧
    (Vocabulary.standard.adjoin .select ["toilet", "Skibidi"]).resolve "SKIBIDI" = some .select ∧
    (Vocabulary.standard.adjoin .select ["toilet", "Skibidi"]).resolve "Toilet" = some .select := by
  have hg : mixedNames.groups =
      [(" set-Equal ", ["rizz"]), ("MERGE", ["smash"]), ("select", ["skibidi"])] := by
    simp [mixedNames, groups, List.mergeSort, List.MergeSort.Internal.splitInTwo]
  have hx : Vocabulary.standard.extendAll [(.setEqual, ["rizz"])] =
      .ok (Vocabulary.standard.adjoin .setEqual ["rizz"]) := by
    rw [standard_eq_seedWords]
    decide
  have hg' : twoNames.groups =
      [("SELECT ", ["toilet", "Skibidi"]), ("select", ["skibidi"])] := by
    simp [twoNames, groups, List.mergeSort, List.MergeSort.Internal.splitInTwo]
  have hx' : Vocabulary.standard.extendAll
      [(.select, ["toilet", "Skibidi"]), (.select, ["skibidi"])] =
      .ok (Vocabulary.standard.adjoin .select ["toilet", "Skibidi"]) := by
    rw [standard_eq_seedWords]
    decide
  obtain ⟨-, hfail, -⟩ := applyAliases_in_turn mixedNames .standard
  obtain ⟨-, -, hok, hr, -⟩ := applyAliases_in_turn twoNames .standard
  have hw := (hok _).mpr ⟨_, hg' ▸ .cons ⟨by decide, rfl⟩
    (.cons ⟨by decide, rfl⟩ .nil), hx'⟩
  refine ⟨(hfail _ _).mpr ⟨[(" set-Equal ", ["rizz"])], "MERGE", ["smash"],
    [("select", ["skibidi"])], hg, ⟨_, .cons ⟨by decide, rfl⟩ .nil, hx⟩,
    Or.inl ⟨by decide, by decide⟩⟩, hw, ?_, ?_⟩
  · exact (hr _ hw "SKIBIDI" .select).mpr
      (Or.inr ⟨("select", ["skibidi"]), by decide, by decide, by decide⟩)
  · exact (hr _ hw "Toilet" .select).mpr (Or.inr ⟨("SELECT ", ["toilet", "Skibidi"]), by decide,
      by decide, by decide⟩)

end Settings

end SlangSql
