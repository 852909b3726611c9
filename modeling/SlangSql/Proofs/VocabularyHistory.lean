import Mathlib.Algebra.GroupWithZero.Nat
import Mathlib.Data.List.Nodup
import SlangSql.Proofs.VocabularyReach

/-!
# Histories of a vocabulary

A history is a sequence of additions, each of one alias or of a group. An
addition that is refused leaves the vocabulary as it was. The aliases are kept
in lists, one for each operation, and words are looked up by their folds. The
two views agree after every history, because a fold is never bound twice: so
the index that is collected from the lists, in which a later entry would
replace an earlier one, holds every alias.
-/

set_option autoImplicit false

namespace SlangSql

/-- A request to add aliases. -/
inductive Addition where
  | one (op : Operation) (word : String)
  | group (op : Operation) (words : List String)
  deriving DecidableEq, Repr

namespace Vocabulary

def answer (v : Vocabulary) : Addition → Except Error Vocabulary
  | .one op a => v.register op a
  | .group op as => v.extend op as

/-- The vocabulary after an addition, which may have been refused. -/
def after (v : Vocabulary) (c : Addition) : Vocabulary :=
  match v.answer c with
  | .ok w => w
  | .error _ => v

def afterAll (v : Vocabulary) : List Addition → Vocabulary
  | [] => v
  | c :: cs => (v.after c).afterAll cs

variable {v w : Vocabulary} {op : Operation}

/-! ## What every addition preserves -/

theorem extend_preserves {P : Vocabulary → Prop}
    (hr : ∀ v w a, P v → v.register op a = .ok w → P w) {as : List String} (hv : P v)
    (h : v.extend op as = .ok w) : P w := by
  induction as generalizing v with
  | nil =>
    cases h
    exact hv
  | cons a as ih =>
    unfold Vocabulary.extend at h
    split at h
    · next v' ha => exact ih (hr v v' a hv ha) h
    · cases h

theorem after_preserves {P : Vocabulary → Prop}
    (hr : ∀ v w op a, P v → v.register op a = .ok w → P w) (c : Addition) (hv : P v) :
    P (v.after c) := by
  unfold after
  split
  · next w hw =>
    cases c with
    | one op a => exact hr v w op a hv hw
    | group op as => exact extend_preserves (fun v w a => hr v w op a) hv hw
  · exact hv

theorem afterAll_preserves {P : Vocabulary → Prop}
    (hr : ∀ v w op a, P v → v.register op a = .ok w → P w) (cs : List Addition) (hv : P v) :
    P (v.afterAll cs) := by
  induction cs generalizing v with
  | nil => exact hv
  | cons c cs ih => exact ih (after_preserves hr c hv)

theorem afterAll_reachable (cs : List Addition) (hv : v.Reachable) :
    (v.afterAll cs).Reachable :=
  afterAll_preserves (fun _ _ _ _ hv h => .register hv h) cs hv

/-- A word never loses its meaning. -/
theorem resolve_afterAll {t : String} (cs : List Addition) (ht : v.resolve t = some op) :
    (v.afterAll cs).resolve t = some op := by
  refine afterAll_preserves (P := fun w => w.resolve t = some op) ?_ cs ht
  intro v w op' a hv h
  exact (owner?_register h _).mpr (Or.inl hv)

/-! ## Folds with one owner -/

/-- Every binding holds a valid alias under its fold, and no fold is bound twice. -/
structure Sound (v : Vocabulary) : Prop where
  admitted : ∀ b ∈ v.bindings, Admitted b
  distinct : (v.bindings.map (·.key)).Nodup

theorem owner?_eq_none_iff (key : String) :
    v.owner? key = none ↔ key ∉ v.bindings.map (·.key) := by
  rw [owner?, Option.map_eq_none_iff, List.find?_eq_none]
  simp

theorem register_sound (a : String) (hv : v.Sound) (h : v.register op a = .ok w) : w.Sound := by
  refine ⟨register_admitted hv.admitted h, ?_⟩
  obtain ⟨-, ⟨-, rfl⟩ | ⟨hn, rfl⟩⟩ := register_cases h
  · exact hv.distinct
  · rw [owner?_eq_none_iff] at hn
    rw [List.map_append, List.nodup_append]
    refine ⟨hv.distinct, by simp, ?_⟩
    intro x hx y hy
    rw [List.mem_map] at hy
    obtain ⟨b, hb, rfl⟩ := hy
    rw [List.mem_singleton.mp hb]
    rintro rfl
    exact hn hx

theorem empty_sound : empty.Sound where
  admitted := by simp [empty]
  distinct := by simp [empty]

theorem standard_sound : standard.Sound where
  admitted := standard_admitted
  distinct := by
    rw [standard_eq_seedWords]
    decide

theorem Reachable.sound (hv : v.Reachable) : v.Sound := by
  induction hv with
  | empty => exact empty_sound
  | standard => exact standard_sound
  | register _ h ih => exact register_sound _ ih h
  | extend _ h ih => exact extend_preserves (fun _ _ a hv h => register_sound a hv h) ih h

theorem afterAll_sound (cs : List Addition) (hv : v.Sound) : (v.afterAll cs).Sound :=
  afterAll_preserves (fun _ _ _ a hv h => register_sound a hv h) cs hv

/-! ## Lists and index -/

/-- The folds of all aliases with their operations, list by list. -/
def entries (v : Vocabulary) : List (String × Operation) :=
  Operation.list.flatMap fun op => (v.aliasesOf op).map fun a => (Text.fold a, op)

/-- The index that the alias lists give. Of two entries with one key the later would count. -/
def index (v : Vocabulary) : Std.HashMap String Operation := .ofList v.entries

/-- Grouping a list by a key that takes its values in `ks` only rearranges it. -/
theorem flatMap_filter_perm {α β : Type} [DecidableEq β] (f : α → β) (ks : List β)
    (hk : ks.Nodup) (l : List α) (hl : ∀ a ∈ l, f a ∈ ks) :
    (ks.flatMap fun k => l.filter fun a => f a == k).Perm l := by
  induction ks generalizing l with
  | nil =>
    have hn : l = [] := List.eq_nil_iff_forall_not_mem.mpr fun a ha => by simpa using hl a ha
    simp [hn]
  | cons k ks ih =>
    rw [List.nodup_cons] at hk
    rw [List.flatMap_cons]
    have hrest : (ks.flatMap fun k' => l.filter fun a => f a == k') =
        ks.flatMap fun k' => (l.filter fun a => !(f a == k)).filter fun a => f a == k' := by
      rw [List.flatMap_def, List.flatMap_def]
      refine congrArg List.flatten (List.map_congr_left fun k' hk' => ?_)
      rw [List.filter_filter]
      apply List.filter_congr
      intro a _
      by_cases ha : f a = k'
      · have hne : k' ≠ k := by
          rintro rfl
          exact hk.1 hk'
        simp [ha, hne]
      · simp [ha]
    rw [hrest]
    refine ((ih hk.2 _ ?_).append_left _).trans (List.filter_append_perm _ l)
    intro a ha
    rw [List.mem_filter] at ha
    have hne : f a ≠ k := by simpa using ha.2
    exact (List.mem_cons.mp (hl a ha.1)).resolve_left hne

/-- The bindings, operation by operation. -/
def grouped (v : Vocabulary) : List Binding :=
  Operation.list.flatMap fun op => v.bindings.filter fun b => b.operation == op

theorem grouped_perm (v : Vocabulary) : v.grouped.Perm v.bindings :=
  flatMap_filter_perm Binding.operation Operation.list (by decide) v.bindings
    fun b _ => Operation.mem_list b.operation

theorem words_eq (v : Vocabulary) :
    Operation.list.flatMap v.aliasesOf = v.grouped.map (·.word) := by
  rw [grouped, List.map_flatMap]
  rfl

theorem mem_aliasesOf (a : String) :
    a ∈ v.aliasesOf op ↔ ∃ b ∈ v.bindings, b.operation = op ∧ b.word = a := by
  simp [aliasesOf, and_assoc]

theorem Sound.entries_eq (h : v.Sound) :
    v.entries = v.grouped.map fun b => (b.key, b.operation) := by
  rw [entries, grouped, List.map_flatMap, List.flatMap_def, List.flatMap_def]
  refine congrArg List.flatten (List.map_congr_left fun op _ => ?_)
  rw [aliasesOf, List.map_map]
  apply List.map_congr_left
  intro b hb
  rw [List.mem_filter] at hb
  have ho : b.operation = op := by simpa using hb.2
  simp [(h.admitted b hb.1).1, ho]

theorem Sound.keys_nodup (h : v.Sound) : (v.entries.map (·.1)).Nodup := by
  rw [h.entries_eq, List.map_map]
  exact ((v.grouped_perm.map (·.key)).nodup_iff).mpr h.distinct

theorem Sound.keys_pairwise (h : v.Sound) :
    v.entries.Pairwise fun a b => (a.1 == b.1) = false := by
  simpa [List.Nodup, List.pairwise_map] using h.keys_nodup

theorem Sound.mem_entries (h : v.Sound) (key : String) :
    (key, op) ∈ v.entries ↔ ∃ b ∈ v.bindings, b.key = key ∧ b.operation = op := by
  simp [h.entries_eq, v.grouped_perm.mem_iff]

theorem Sound.owner?_eq_some_iff (h : v.Sound) (key : String) :
    v.owner? key = some op ↔ ∃ b ∈ v.bindings, b.key = key ∧ b.operation = op := by
  rw [owner?, Option.map_eq_some_iff]
  constructor
  · rintro ⟨b, hb, ho⟩
    exact ⟨b, List.mem_of_find?_eq_some hb, by simpa using List.find?_some hb, ho⟩
  · rintro ⟨b, hb, rfl, ho⟩
    cases hf : v.bindings.find? fun b' => b'.key == b.key with
    | none => exact absurd (List.find?_eq_none.mp hf b hb) (by simp)
    | some b' =>
      have hk : b'.key = b.key := by simpa using List.find?_some hf
      have he : b' = b := List.inj_on_of_nodup_map h.distinct (List.mem_of_find?_eq_some hf) hb hk
      exact ⟨b', rfl, by rw [he, ho]⟩

theorem Sound.index_getElem? (h : v.Sound) (key : String) : v.index[key]? = v.owner? key := by
  cases ho : v.owner? key with
  | some op =>
    rw [h.owner?_eq_some_iff, ← h.mem_entries] at ho
    exact Std.HashMap.getElem?_ofList_of_mem (beq_self_eq_true key) h.keys_pairwise ho
  | none =>
    apply Std.HashMap.getElem?_ofList_of_contains_eq_false
    rw [owner?_eq_none_iff] at ho
    rw [h.entries_eq, List.map_map]
    simpa [v.grouped_perm.mem_iff] using ho

/-- The lists and the lookup of a vocabulary say the same. -/
structure Consistent (v : Vocabulary) : Prop where
  lookup : ∀ key op, v.owner? key = some op ↔ ∃ a ∈ v.aliasesOf op, Text.fold a = key
  index : ∀ key, v.index[key]? = v.owner? key
  distinct : ((Operation.list.flatMap v.aliasesOf).map Text.fold).Nodup
  valid : ∀ op, ∀ a ∈ v.aliasesOf op, isValidAlias a = true
  indexSize : v.index.size = v.size
  size : v.size = (Operation.list.map fun op => (v.aliasesOf op).length).sum
  table : ∀ op as, (op, as) ∈ v.table ↔ as = v.aliasesOf op ∧ as ≠ []

theorem Sound.consistent (h : v.Sound) : v.Consistent where
  lookup key op := by
    rw [h.owner?_eq_some_iff]
    constructor
    · rintro ⟨b, hb, rfl, ho⟩
      exact ⟨b.word, (mem_aliasesOf _).mpr ⟨b, hb, ho, rfl⟩, (h.admitted b hb).1.symm⟩
    · rintro ⟨a, ha, rfl⟩
      obtain ⟨b, hb, ho, rfl⟩ := (mem_aliasesOf a).mp ha
      exact ⟨b, hb, (h.admitted b hb).1, ho⟩
  index := h.index_getElem?
  distinct := by
    have hk : (Operation.list.flatMap v.aliasesOf).map Text.fold = v.entries.map (·.1) := by
      simp [entries, List.map_flatMap, Function.comp_def]
    rw [hk]
    exact h.keys_nodup
  valid op a ha := by
    obtain ⟨b, hb, -, rfl⟩ := (mem_aliasesOf a).mp ha
    exact (h.admitted b hb).2
  indexSize := by
    rw [Vocabulary.index, Std.HashMap.size_ofList h.keys_pairwise, h.entries_eq, List.length_map,
      v.grouped_perm.length_eq, Vocabulary.size]
  size := by
    rw [← List.length_flatMap, words_eq, List.length_map, v.grouped_perm.length_eq,
      Vocabulary.size]
  table op as := by
    simp only [Vocabulary.table, List.mem_filter, List.mem_map, Operation.mem_list, true_and]
    constructor
    · rintro ⟨⟨op', he⟩, hn⟩
      cases he
      exact ⟨rfl, by simpa using hn⟩
    · rintro ⟨rfl, hn⟩
      exact ⟨⟨op, rfl⟩, by simpa using hn⟩

/-- After every history that starts with no words or with the standard ones, whether its additions
were accepted or refused, the alias lists and the lookup of the vocabulary agree. -/
theorem consistent_afterAll (cs : List Addition) :
    (empty.afterAll cs).Consistent ∧ (standard.afterAll cs).Consistent :=
  ⟨(afterAll_sound cs empty_sound).consistent, (afterAll_sound cs standard_sound).consistent⟩

end Vocabulary

end SlangSql
