import SlangSql.Proofs.VocabularyGrowth

/-!
# Groups in any order

Groups of aliases are added one after the other. Which group is refused depends
on the order, but whether one is refused does not: either all words are
admitted and no two groups with different operations share a fold, or there is
no order in which all groups can be added. When they can, a word has a meaning
in the end iff it had it before or a group gives it to it, and that mentions no
order either. Only the order of the aliases of one operation may differ, and how
a word is spelled, if several groups add to that operation.
-/

set_option autoImplicit false

namespace SlangSql.Vocabulary

variable {v w w' : Vocabulary} {op : Operation} {g : Operation × List String}
  {gs hs : List (Operation × List String)}

/-- All the groups can be added. -/
structure Compatible (v : Vocabulary) (gs : List (Operation × List String)) : Prop where
  admits : ∀ g ∈ gs, ∀ a ∈ g.2, v.Admits g.1 a
  agree : ∀ g ∈ gs, ∀ h ∈ gs, ∀ a ∈ g.2, ∀ b ∈ h.2, Text.fold a = Text.fold b → g.1 = h.1

theorem Compatible.perm (hp : gs.Perm hs) (h : v.Compatible gs) : v.Compatible hs where
  admits g hg := h.admits g (hp.mem_iff.mpr hg)
  agree g hg g' hg' := h.agree g (hp.mem_iff.mpr hg) g' (hp.mem_iff.mpr hg')

theorem extendAll_cons_eq_ok_iff (v : Vocabulary) (g : Operation × List String)
    (gs : List (Operation × List String)) :
    v.extendAll (g :: gs) = .ok w ↔ ∃ u, v.extend g.1 g.2 = .ok u ∧ u.extendAll gs = .ok w := by
  rw [extendAll]
  cases v.extend g.1 g.2 with
  | ok u => simp
  | error e => simp

/-- What the groups behind the first need of the vocabulary that has the first. -/
theorem compatible_cons_iff (h : v.extend g.1 g.2 = .ok w) :
    v.Compatible (g :: gs) ↔ w.Compatible gs := by
  have hr : ∀ a other, w.resolve a = some other ↔
      v.resolve a = some other ∨ other = g.1 ∧ Text.fold a ∈ g.2.map Text.fold :=
    fun a other => owner?_extend h (Text.fold a)
  constructor
  · intro hc
    refine ⟨?_, fun k hk k' hk' => hc.agree k (by simp [hk]) k' (by simp [hk'])⟩
    intro k hk a ha
    obtain ⟨hvalid, hbound⟩ := hc.admits k (by simp [hk]) a ha
    refine ⟨hvalid, ?_⟩
    intro other ho
    rcases (hr a other).mp ho with ho | ⟨rfl, hf⟩
    · exact hbound other ho
    · obtain ⟨b, hb, hf⟩ := List.mem_map.mp hf
      exact hc.agree g (by simp) k (by simp [hk]) b hb a ha hf
  · intro hc
    have hcross : ∀ k ∈ gs, ∀ a ∈ g.2, ∀ b ∈ k.2, Text.fold a = Text.fold b → g.1 = k.1 := by
      intro k hk a ha b hb hf
      apply (hc.admits k hk b hb).2
      exact (hr b g.1).mpr (Or.inr ⟨rfl, List.mem_map.mpr ⟨a, ha, hf⟩⟩)
    constructor
    · rw [List.forall_mem_cons]
      refine ⟨((extend_eq_ok_iff v g.1 g.2).mp h).1, ?_⟩
      intro k hk a ha
      obtain ⟨hvalid, hbound⟩ := hc.admits k hk a ha
      exact ⟨hvalid, fun other ho => hbound other ((hr a other).mpr (Or.inl ho))⟩
    · simp only [List.forall_mem_cons]
      refine ⟨⟨fun _ _ _ _ _ => trivial, hcross⟩, fun k hk => ⟨?_, hc.agree k hk⟩⟩
      intro a ha b hb hf
      exact (hcross k hk b hb a ha hf.symm).symm

theorem exists_extendAll_iff (v : Vocabulary) (gs : List (Operation × List String)) :
    (∃ w, v.extendAll gs = .ok w) ↔ v.Compatible gs := by
  induction gs generalizing v with
  | nil => exact ⟨fun _ => ⟨by simp, by simp⟩, fun _ => ⟨v, rfl⟩⟩
  | cons g gs ih =>
    constructor
    · rintro ⟨w, h⟩
      obtain ⟨u, hu, hw⟩ := (extendAll_cons_eq_ok_iff v g gs).mp h
      exact (compatible_cons_iff hu).mpr ((ih u).mp ⟨w, hw⟩)
    · intro h
      have hu := extend_of_admits (h.admits g (by simp))
      obtain ⟨w, hw⟩ := (ih _).mpr ((compatible_cons_iff hu).mp h)
      exact ⟨w, (extendAll_cons_eq_ok_iff v g gs).mpr ⟨_, hu, hw⟩⟩

theorem owner?_extendAll (h : v.extendAll gs = .ok w) (key : String) :
    w.owner? key = some op ↔
      v.owner? key = some op ∨ ∃ g ∈ gs, op = g.1 ∧ key ∈ g.2.map Text.fold := by
  induction gs generalizing v with
  | nil =>
    cases h
    simp
  | cons g gs ih =>
    obtain ⟨u, hu, hw⟩ := (extendAll_cons_eq_ok_iff v g gs).mp h
    rw [ih hw, owner?_extend hu, or_assoc, List.exists_mem_cons_iff]

/-! ## The same folds -/

theorem Sound.mem_folds (hw : w.Sound) (key : String) :
    key ∈ (w.aliasesOf op).map Text.fold ↔ w.owner? key = some op := by
  rw [hw.consistent.lookup, List.mem_map]

theorem Sound.folds_nodup (hw : w.Sound) (op : Operation) :
    ((w.aliasesOf op).map Text.fold).Nodup := by
  have hs : (w.aliasesOf op).Sublist (Operation.list.flatMap w.aliasesOf) := by
    rw [List.flatMap_def]
    exact List.sublist_flatten_of_mem (List.mem_map_of_mem (Operation.mem_list op))
  exact hw.consistent.distinct.sublist (hs.map Text.fold)

theorem Sound.folds_perm (hw : w.Sound) (hw' : w'.Sound)
    (h : ∀ key, w.owner? key = some op ↔ w'.owner? key = some op) :
    ((w.aliasesOf op).map Text.fold).Perm ((w'.aliasesOf op).map Text.fold) := by
  rw [List.perm_ext_iff_of_nodup (hw.folds_nodup op) (hw'.folds_nodup op)]
  intro key
  rw [hw.mem_folds, hw'.mem_folds, h]

theorem Sound.size_eq (hw : w.Sound) (hw' : w'.Sound)
    (h : ∀ op, ((w.aliasesOf op).map Text.fold).Perm ((w'.aliasesOf op).map Text.fold)) :
    w.size = w'.size := by
  have hl : ∀ op, (w.aliasesOf op).length = (w'.aliasesOf op).length := by
    intro op
    simpa using (h op).length_eq
  rw [hw.consistent.size, hw'.consistent.size]
  simp only [hl]

/-! ## The same lists -/

theorem newWords_congr {as : List String} (h : ∀ a ∈ as, v.resolve a = w.resolve a) :
    v.newWords as = w.newWords as := by
  unfold newWords
  refine congrArg (List.map _) (List.filter_congr ?_)
  intro p hp
  simp [h p.1 (List.fst_mem_of_mem_zipIdx hp)]

/-- Groups with different operations do not touch each other's lists. -/
theorem aliasesOf_extendAll (h : v.extendAll gs = .ok w) (hd : (gs.map (·.1)).Nodup) :
    (∀ g ∈ gs, w.aliasesOf g.1 = v.aliasesOf g.1 ++ v.newWords g.2) ∧
      ∀ op, op ∉ gs.map (·.1) → w.aliasesOf op = v.aliasesOf op := by
  induction gs generalizing v with
  | nil =>
    cases h
    simp
  | cons g gs ih =>
    rw [List.map_cons, List.nodup_cons] at hd
    obtain ⟨u, hu, hw⟩ := (extendAll_cons_eq_ok_iff v g gs).mp h
    have hc := (exists_extendAll_iff v (g :: gs)).mp ⟨w, h⟩
    obtain ⟨hin, hout⟩ := ih hw hd.2
    constructor
    · rw [List.forall_mem_cons]
      constructor
      · rw [hout g.1 hd.1, aliasesOf_extend hu, if_pos rfl]
      · intro k hk
        have hne : g.1 ≠ k.1 := by
          intro he
          exact hd.1 (he ▸ List.mem_map_of_mem hk)
        -- a word of `k` that the first group had bound would be refused
        have hfree : ∀ a ∈ k.2, u.resolve a = v.resolve a := by
          intro a ha
          rw [resolve_extend hu, if_neg]
          intro hf
          obtain ⟨b, hb, hf⟩ := List.mem_map.mp hf
          exact hne (hc.agree g (by simp) k (by simp [hk]) b hb a ha hf)
        rw [hin k hk, aliasesOf_extend hu, if_neg hne, List.append_nil, newWords_congr hfree]
    · intro op ho
      rw [List.map_cons, List.mem_cons, not_or] at ho
      rw [hout op ho.2, aliasesOf_extend hu, if_neg (Ne.symm ho.1), List.append_nil]

theorem aliasesOf_extendAll_perm (hp : gs.Perm hs) (hd : (gs.map (·.1)).Nodup)
    (hw : v.extendAll gs = .ok w) (hw' : v.extendAll hs = .ok w') (op : Operation) :
    w.aliasesOf op = w'.aliasesOf op := by
  obtain ⟨hin, hout⟩ := aliasesOf_extendAll hw hd
  obtain ⟨hin', hout'⟩ := aliasesOf_extendAll hw' (((hp.map _).nodup_iff).mp hd)
  by_cases ho : op ∈ gs.map (·.1)
  · obtain ⟨g, hg, rfl⟩ := List.mem_map.mp ho
    rw [hin g hg, hin' g (hp.mem_iff.mp hg)]
  · rw [hout op ho, hout' op fun h => ho ((hp.map _).mem_iff.mpr h)]

/-- Groups can be added in one order iff they can be added in any other. Words mean the same in
the end, there are equally many aliases, and those of an operation have the same folds. The
tables are the same if no operation has two groups. -/
theorem extendAll_perm (hv : v.Reachable) (hp : gs.Perm hs) :
    ((∃ w, v.extendAll gs = .ok w) ↔ ∃ w, v.extendAll hs = .ok w) ∧
    ∀ w w', v.extendAll gs = .ok w → v.extendAll hs = .ok w' →
      (∀ t, w.resolve t = w'.resolve t) ∧ w.size = w'.size ∧
      (∀ op, ((w.aliasesOf op).map Text.fold).Perm ((w'.aliasesOf op).map Text.fold)) ∧
      ((gs.map (·.1)).Nodup → w.table = w'.table ∧ ∀ op, w.aliasesOf op = w'.aliasesOf op) := by
  constructor
  · rw [exists_extendAll_iff, exists_extendAll_iff]
    exact ⟨.perm hp, .perm hp.symm⟩
  · intro w w' hw hw'
    have hs := (hv.extendAll hw).sound
    have hs' := (hv.extendAll hw').sound
    have ho : ∀ key op, w.owner? key = some op ↔ w'.owner? key = some op := by
      intro key op
      simp only [owner?_extendAll hw, owner?_extendAll hw', hp.mem_iff]
    have hf : ∀ op, ((w.aliasesOf op).map Text.fold).Perm ((w'.aliasesOf op).map Text.fold) :=
      fun op => hs.folds_perm hs' fun key => ho key op
    refine ⟨fun t => Option.ext (ho (Text.fold t)), hs.size_eq hs' hf, hf, ?_⟩
    intro hd
    have ha := aliasesOf_extendAll_perm hp hd hw hw'
    exact ⟨by simp only [table, ha], ha⟩

/-- Two groups of SELECT share a word in two cases: the order decides which spelling is listed, and
nothing else. With one group for each operation the tables are the same. -/
theorem extendAll_standard_reversed :
    (standard.adjoin .select ["Skibidi"]).adjoin .select ["toilet"] ≠
      standard.adjoin .select ["skibidi", "toilet"] ∧
    standard.extendAll [(.select, ["Skibidi"]), (.select, ["skibidi", "toilet"])] =
      .ok ((standard.adjoin .select ["Skibidi"]).adjoin .select ["toilet"]) ∧
    standard.extendAll [(.select, ["skibidi", "toilet"]), (.select, ["Skibidi"])] =
      .ok (standard.adjoin .select ["skibidi", "toilet"]) ∧
    (∀ t, ((standard.adjoin .select ["Skibidi"]).adjoin .select ["toilet"]).resolve t =
      (standard.adjoin .select ["skibidi", "toilet"]).resolve t) ∧
    ∃ w w', standard.extendAll [(.from, ["rizz"]), (.select, ["toilet"])] = .ok w ∧
      standard.extendAll [(.select, ["toilet"]), (.from, ["rizz"])] = .ok w' ∧
      w ≠ w' ∧ w.table = w'.table := by
  have hn : (standard.adjoin .select ["Skibidi"]).adjoin .select ["toilet"] ≠
      standard.adjoin .select ["skibidi", "toilet"] := by
    rw [standard_eq_seedWords]
    decide
  have h₁ : standard.extendAll [(.select, ["Skibidi"]), (.select, ["skibidi", "toilet"])] =
      .ok ((standard.adjoin .select ["Skibidi"]).adjoin .select ["toilet"]) := by
    rw [standard_eq_seedWords]
    decide
  have h₂ : standard.extendAll [(.select, ["skibidi", "toilet"]), (.select, ["Skibidi"])] =
      .ok (standard.adjoin .select ["skibidi", "toilet"]) := by
    rw [standard_eq_seedWords]
    decide
  have h₃ : standard.extendAll [(.from, ["rizz"]), (.select, ["toilet"])] =
      .ok ((standard.adjoin .from ["rizz"]).adjoin .select ["toilet"]) := by
    rw [standard_eq_seedWords]
    decide
  have h₄ : standard.extendAll [(.select, ["toilet"]), (.from, ["rizz"])] =
      .ok ((standard.adjoin .select ["toilet"]).adjoin .from ["rizz"]) := by
    rw [standard_eq_seedWords]
    decide
  have hd : (standard.adjoin .from ["rizz"]).adjoin .select ["toilet"] ≠
      (standard.adjoin .select ["toilet"]).adjoin .from ["rizz"] := by
    rw [standard_eq_seedWords]
    decide
  have hr := ((extendAll_perm .standard (.swap _ _ [])).2 _ _ h₁ h₂).1
  have ht := ((extendAll_perm .standard (.swap _ _ [])).2 _ _ h₃ h₄).2.2.2 (by decide)
  exact ⟨hn, h₁, h₂, hr, _, _, h₃, h₄, hd, ht.1⟩

end SlangSql.Vocabulary
