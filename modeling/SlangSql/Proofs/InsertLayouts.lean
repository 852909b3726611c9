import SlangSql.Proofs.ReaderStates

/-!
# Layouts of an INSERT

The columns and the values of an INSERT may each stand in parentheses, and a
comma may stand or be missing between any two neighbours. A layout settles all
of this. Along a list the reader does the same thing whatever the commas, as
long as there is room for another item. So the answer to an INSERT depends on
its names alone, and of its layout only the parentheses around the values show
in an error.
-/

set_option autoImplicit false

namespace SlangSql

/-- The items of a list behind its first one. A comma stands before the item `i` if `comma i`. -/
def spacedRest (comma : Nat → Bool) : List String → List String
  | [] => []
  | n :: ns => (if comma 0 then [",", n] else [n]) ++ spacedRest (fun i => comma (i + 1)) ns

/-- A list of names, with a comma between neighbours wherever `comma` says so. -/
def spaced (comma : Nat → Bool) : List String → List String
  | [] => []
  | n :: ns => n :: spacedRest comma ns

def enclose (enclosed : Bool) (ts : List String) : List String :=
  if enclosed then "(" :: (ts ++ [")"]) else ts

/-- Which lists of an INSERT stand in parentheses, and where their commas are. -/
structure InsertLayout where
  columnsEnclosed : Bool
  valuesEnclosed : Bool
  columnComma : Nat → Bool
  valueComma : Nat → Bool

namespace InsertLayout

/-- The columns, if there are any. -/
def columnTokens (l : InsertLayout) (columns : List String) : List String :=
  if columns = [] then [] else enclose l.columnsEnclosed (spaced l.columnComma columns)

def valueTokens (l : InsertLayout) (values : List String) : List String :=
  enclose l.valuesEnclosed (spaced l.valueComma values)

/-- An INSERT in this layout, with one word for each of its two keywords. -/
def tokens (l : InsertLayout) (insertWord table : String) (columns : List String)
    (valuesWord : String) (values : List String) : List String :=
  insertWord :: table :: (l.columnTokens columns ++ valuesWord :: l.valueTokens values)

/-- What ends the values. -/
def valueStop (l : InsertLayout) : Reader.Stop :=
  if l.valuesEnclosed then .symbol ")" else .endOfText

/-- The state that follows the values. -/
def afterValues (l : InsertLayout) : Reader.State :=
  if l.valuesEnclosed then .symbol ")" .done else .done

/-- The tokens behind the values. -/
def closing (l : InsertLayout) : List String :=
  if l.valuesEnclosed then [")"] else []

/-- How the lack of a value for `column` is reported. -/
def lack (l : InsertLayout) (column : String) : Error :=
  if l.valuesEnclosed then .unexpectedToken [Reader.missingValue column] ")"
  else .unexpectedEnd (Reader.missingValue column)

end InsertLayout

namespace Reader
open Grammar

variable {v : Vocabulary} {q q' : Query} {t : String} {ts : List String} {s next : State}
  {slot : Slot} {stop : Stop}

theorem feedAll_take (h : step v q t s = .ok (.take next q')) :
    feedAll v q s (t :: ts) = feedAll v q' next ts := by
  rw [feedAll, feed_take h]

theorem feedAll_handOn (h : step v q t s = .ok (.handOn next)) :
    feedAll v q s (t :: ts) = feedAll v q next (t :: ts) := by
  rw [feedAll, feed_handOn h, feedAll]

theorem feedAll_error {e : Error} (h : step v q t s = .error e) :
    feedAll v q s (t :: ts) = .error e := by
  rw [feedAll, feed_error h]

/-! ## Along a list -/

theorem HasRoom.mono {m n : Nat} (h : HasRoom slot q n) (hmn : m ≤ n) : HasRoom slot q m := by
  intro hs
  rcases h hs with hc | hl
  · exact Or.inl hc
  · exact Or.inr (by omega)

theorem hasRoom_column (n : Nat) : HasRoom .column q n := by
  simp [HasRoom]

theorem hasRoom_fillAll (ns : List String) (n : Nat) :
    HasRoom slot (fillAll slot q ns) n ↔ HasRoom slot q (ns.length + n) := by
  cases slot <;> simp [HasRoom, fillAll_eq, Nat.add_assoc]

/-- With or without a comma before it, the next item reaches the state that takes items. -/
theorem feedAll_neighbour (comma : Nat → Bool) {n : String} (ns : List String)
    (hi : IsItem v stop n) :
    feedAll v q (.afterItem slot stop next) (spacedRest comma (n :: ns) ++ ts) =
      feedAll v q (.item slot stop next)
        (n :: (spacedRest (fun i => comma (i + 1)) ns ++ ts)) := by
  rw [spacedRest]
  by_cases hc : comma 0 = true
  · rw [if_pos hc]
    exact feedAll_take step_afterItem_comma
  · rw [if_neg hc]
    exact feedAll_handOn (step_afterItem_item hi)

theorem feedAll_spacedRest (comma : Nat → Bool) {ns : List String}
    (hi : ∀ n ∈ ns, IsItem v stop n) (hr : HasRoom slot q ns.length) :
    feedAll v q (.afterItem slot stop next) (spacedRest comma ns ++ ts) =
      feedAll v (fillAll slot q ns) (.afterItem slot stop next) ts := by
  induction ns generalizing q comma with
  | nil => rfl
  | cons n ns ih =>
    obtain ⟨hn, hns⟩ := List.forall_mem_cons.mp hi
    rw [feedAll_neighbour comma ns hn, feedAll_take (step_item hn (hr.mono (by simp))),
      ih _ hns ((hasRoom_fill slot n ns.length).mpr hr)]
    rfl

/-- A whole list leads to the state behind its last item, whatever its commas. -/
theorem feedAll_spaced (comma : Nat → Bool) {ns : List String} (hn : ns ≠ [])
    (hi : ∀ n ∈ ns, IsItem v stop n) (hr : HasRoom slot q ns.length) :
    feedAll v q (.item slot stop next) (spaced comma ns ++ ts) =
      feedAll v (fillAll slot q ns) (.afterItem slot stop next) ts := by
  cases ns with
  | nil => exact absurd rfl hn
  | cons n ns =>
    obtain ⟨hn, hns⟩ := List.forall_mem_cons.mp hi
    rw [spaced, List.cons_append, feedAll_take (step_item hn (hr.mono (by simp))),
      feedAll_spacedRest comma hns ((hasRoom_fill slot n ns.length).mpr hr)]
    rfl

theorem spacedRest_append (comma : Nat → Bool) (ns ms : List String) :
    spacedRest comma (ns ++ ms) =
      spacedRest comma ns ++ spacedRest (fun i => comma (i + ns.length)) ms := by
  induction ns generalizing comma with
  | nil => rfl
  | cons n ns ih =>
    simp only [List.cons_append, spacedRest, ih, List.append_assoc, List.length_cons,
      Nat.add_assoc]

/-- The first value that no column is left for is refused, whether or not a comma announces it. -/
theorem feedAll_surplus (comma : Nat → Bool) {ns : List String} (hi : ∀ n ∈ ns, IsItem v stop n)
    {k : Nat} (hk : 0 < k) (hl : k < ns.length) (hr : HasRoom .value q k)
    (hf : ¬ HasRoom .value q (k + 1)) :
    feedAll v q (.item .value stop next) (spaced comma ns ++ ts) =
      .error (.unexpectedToken [stop.describe] ns[k]) := by
  cases ns with
  | nil => simp at hl
  | cons m ms =>
    obtain ⟨k, rfl⟩ : ∃ j, k = j + 1 := ⟨k - 1, by omega⟩
    have hl : k < ms.length := by simpa using hl
    have hlen : (ms.take k).length = k := List.length_take_of_le (Nat.le_of_lt hl)
    have hsplit : ms = ms.take k ++ ms[k] :: ms.drop (k + 1) := by
      rw [List.getElem_cons_drop, List.take_append_drop]
    have hspaced : spaced comma (m :: ms) = spaced comma (m :: ms.take k) ++
        spacedRest (fun i => comma (i + k)) (ms[k] :: ms.drop (k + 1)) :=
      calc spaced comma (m :: ms)
          = m :: spacedRest comma (ms.take k ++ ms[k] :: ms.drop (k + 1)) :=
            congrArg (fun ns => m :: spacedRest comma ns) hsplit
        _ = _ := by rw [spacedRest_append, hlen, spaced, List.cons_append]
    have htake : ∀ n ∈ m :: ms.take k, IsItem v stop n := by
      intro n hn
      exact hi n ((List.take_subset (k + 1) (m :: ms)) hn)
    have hfill : ¬ HasRoom .value (fillAll .value q (m :: ms.take k)) 1 := by
      rw [hasRoom_fillAll, List.length_cons, hlen]
      exact hf
    rw [hspaced, List.append_assoc,
      feedAll_spaced comma (by simp) htake (by rwa [List.length_cons, hlen]),
      feedAll_neighbour _ _ (hi _ (by simp))]
    exact feedAll_error (step_item_full (hi _ (by simp)) hfill)

/-! ## The two lists of an INSERT -/

/-- A name that means nothing in the vocabulary. -/
def IsPlain (v : Vocabulary) (t : String) : Prop := IsName t ∧ v.resolve t = none

theorem IsPlain.item_keyword (h : IsPlain v t) (op : Operation) : IsItem v (.keyword op) t := by
  rw [isItem_keyword]
  exact ⟨h.1, by simp [h.2]⟩

theorem IsPlain.item_value (h : IsPlain v t) (l : InsertLayout) : IsItem v l.valueStop t := by
  unfold InsertLayout.valueStop
  split
  · rw [isItem_close]
    exact h.1
  · rw [isItem_end]
    exact h.1

theorem IsPlain.not_alias (h : IsPlain v t) (op : Operation) : ¬ v.isAliasOf t op = true := by
  simp [isAliasOf_iff, h.2]

/-- The word for VALUES ends what stands before it. -/
theorem feedAll_valuesClause (ht : v.resolve t = some .values) :
    feedAll v q .valuesClause (t :: ts) =
      feedAll v q (.keywordTail .values .insertValues) ts := by
  apply feedAll_take
  rw [State.valuesClause, step, if_pos ((isAliasOf_iff t _).mpr ht)]

theorem feedAll_enclosedColumns (comma : Nat → Bool) {columns : List String} (hn : columns ≠ [])
    (hc : ∀ n ∈ columns, IsPlain v n) :
    feedAll v q .insertColumns ("(" :: (spaced comma columns ++ ")" :: ts)) =
      feedAll v (fillAll .column q columns) .valuesClause ts := by
  have hi : ∀ n ∈ columns, IsItem v (.symbol ")") n := by
    intro n hm
    rw [isItem_close]
    exact (hc n hm).1
  have hopen : step v q "(" .insertColumns =
      .ok (.take (.item .column (.symbol ")") (.symbol ")" .valuesClause)) q) := by
    rw [step, insertColumnsStep, if_pos rfl]
  rw [feedAll_take hopen, feedAll_spaced comma hn hi (hasRoom_column _),
    feedAll_handOn (step_afterItem_stop (by decide) (by simp [Stop.matches]))]
  apply feedAll_take
  rw [step, if_pos rfl]

theorem feedAll_bareColumns (comma : Nat → Bool) {columns : List String} (hn : columns ≠ [])
    (hc : ∀ n ∈ columns, IsPlain v n) (ht : v.resolve t = some .values) (hm : t ≠ ",") :
    feedAll v q .insertColumns (spaced comma columns ++ t :: ts) =
      feedAll v (fillAll .column q columns) .valuesClause (t :: ts) := by
  have hi : ∀ n ∈ columns, IsItem v (.keyword .values) n :=
    fun n hm => (hc n hm).item_keyword .values
  have hfirst : feedAll v q .insertColumns (spaced comma columns ++ t :: ts) =
      feedAll v q (.item .column (.keyword .values) .valuesClause)
        (spaced comma columns ++ t :: ts) := by
    cases columns with
    | nil => exact absurd rfl hn
    | cons n ns =>
      have hn := hc n (by simp)
      apply feedAll_handOn
      rw [step, insertColumnsStep, if_neg hn.1.2.1, if_neg (hn.not_alias .values)]
  rw [hfirst, feedAll_spaced comma hn hi (hasRoom_column _)]
  exact feedAll_handOn (step_afterItem_stop hm ((isAliasOf_iff t _).mpr ht))

/-- However the columns are laid out, the values come next. -/
theorem feedAll_insertColumns (hv : v.Reachable) (l : InsertLayout) {columns : List String}
    (hc : ∀ n ∈ columns, IsPlain v n) (ht : v.resolve t = some .values) :
    feedAll v q .insertColumns (l.columnTokens columns ++ t :: ts) =
      feedAll v (fillAll .column q columns) (.keywordTail .values .insertValues) ts := by
  have hm : ∀ m ∈ Vocabulary.reserved, t ≠ m := by
    rintro m hm rfl
    simp [hv.resolve_reserved hm] at ht
  rw [← feedAll_valuesClause ht, InsertLayout.columnTokens]
  by_cases he : columns = []
  · subst he
    apply feedAll_handOn
    rw [step, insertColumnsStep, if_neg (hm "(" (by decide)),
      if_pos ((isAliasOf_iff t _).mpr ht)]
  · rw [if_neg he, enclose]
    by_cases hp : l.columnsEnclosed = true
    · rw [if_pos hp, List.cons_append, List.append_assoc]
      exact feedAll_enclosedColumns l.columnComma he hc
    · rw [if_neg hp]
      exact feedAll_bareColumns l.columnComma he hc ht (hm "," (by decide))

/-- Both kinds of value lists are read by the state that takes items. -/
theorem feedAll_insertValues (hv : v.Reachable) (l : InsertLayout) {values : List String}
    (hn : values ≠ []) (hp : ∀ n ∈ values, IsPlain v n) :
    feedAll v q (.keywordTail .values .insertValues) (l.valueTokens values) =
      feedAll v q (.item .value l.valueStop l.afterValues)
        (spaced l.valueComma values ++ l.closing) := by
  have hpass : ∀ {n : String} {ns : List String}, v.resolve n = none →
      feedAll v q (.keywordTail .values .insertValues) (n :: ns) =
        feedAll v q .insertValues (n :: ns) := by
    intro n ns h
    apply feedAll_handOn
    rw [step, if_neg (by simp [isAliasOf_iff, h])]
  unfold InsertLayout.valueTokens InsertLayout.valueStop InsertLayout.afterValues
    InsertLayout.closing enclose
  by_cases he : l.valuesEnclosed = true
  · simp only [if_pos he]
    rw [hpass (hv.resolve_reserved (by decide))]
    apply feedAll_take
    rw [step, insertValuesStep, if_pos rfl]
  · simp only [if_neg he, List.append_nil]
    cases values with
    | nil => exact absurd rfl hn
    | cons n ns =>
      have h := hp n (by simp)
      rw [spaced, hpass h.2]
      apply feedAll_handOn
      rw [step, insertValuesStep, if_neg h.1.2.1]

/-- At the end of the values the first column without one is missed. -/
theorem conclude_closing (l : InsertLayout) :
    conclude (feedAll v q (.afterItem .value l.valueStop l.afterValues) l.closing) =
      match unfilled? .value q with
      | some column => .error (l.lack column)
      | none => .ok q := by
  unfold InsertLayout.valueStop InsertLayout.afterValues InsertLayout.closing InsertLayout.lack
  by_cases he : l.valuesEnclosed = true
  · have hs : step v q ")" (.afterItem .value (.symbol ")") (.symbol ")" .done)) = _ :=
      step_afterItem_stop (by decide) (by simp [Stop.matches])
    have hclose : step v q ")" (.symbol ")" .done) = .ok (.take .done q) := by
      rw [step, if_pos rfl]
    simp only [if_pos he]
    cases hu : unfilled? .value q with
    | some column =>
      rw [hu] at hs
      rw [feedAll_error hs, conclude]
    | none =>
      rw [hu] at hs
      rw [feedAll_handOn hs, feedAll_take hclose]
      rfl
  · simp only [if_neg he, feedAll, conclude, missing?, if_pos]
    cases unfilled? .value q <;> rfl

/-- With room for all values the whole list is taken, and its end decides. -/
theorem conclude_values (l : InsertLayout) {values : List String} (hn : values ≠ [])
    (hx : ∀ n ∈ values, IsPlain v n) (hq : q.values = [])
    (hl : q.columns = [] ∨ values.length ≤ q.columns.length) :
    conclude (feedAll v q (.item .value l.valueStop l.afterValues)
        (spaced l.valueComma values ++ l.closing)) =
      match q.columns[values.length]? with
      | some column => .error (l.lack column)
      | none => .ok { q with values := values } := by
  have hi : ∀ n ∈ values, IsItem v l.valueStop n := fun n h => (hx n h).item_value l
  have hr : HasRoom .value q values.length := fun _ => by simpa [hq] using hl
  rw [feedAll_spaced _ hn hi hr, conclude_closing, fillAll_eq]
  simp only [hq, List.nil_append, unfilled?, Query.pendingColumn?, if_true]

/-- The columns take as many values as they are, and the next one is too much. -/
theorem conclude_surplus (l : InsertLayout) {values : List String}
    (hx : ∀ n ∈ values, IsPlain v n) (hq : q.values = []) (hc : q.columns ≠ [])
    (hl : q.columns.length < values.length) :
    conclude (feedAll v q (.item .value l.valueStop l.afterValues)
        (spaced l.valueComma values ++ l.closing)) =
      .error (.unexpectedToken [l.valueStop.describe] values[q.columns.length]) := by
  have hi : ∀ n ∈ values, IsItem v l.valueStop n := fun n h => (hx n h).item_value l
  have hr : HasRoom .value q q.columns.length := by simp [HasRoom, hq]
  have hf : ¬ HasRoom .value q (q.columns.length + 1) := by simp [HasRoom, hq, hc]
  rw [feedAll_surplus _ hi (List.length_pos_iff.mpr hc) hl hr hf, conclude]

/-- What is read of an INSERT once its values begin, which is all that its layout leaves open. -/
theorem readTokens_layout (hv : v.Reachable) {insertWord valuesWord table : String}
    (hi : v.resolve insertWord = some .insert) (hw : v.resolve valuesWord = some .values)
    {columns values : List String} (ht : IsPlain v table) (hc : ∀ n ∈ columns, IsPlain v n)
    (hx : ∀ n ∈ values, IsPlain v n) (hn : values ≠ []) (l : InsertLayout) :
    v.readTokens (l.tokens insertWord table columns valuesWord values) =
      conclude (feedAll v { kind := .insert, table := some table, columns := columns }
        (.item .value l.valueStop l.afterValues) (spaced l.valueComma values ++ l.closing)) := by
  have hk : v.statementKind? insertWord = some .insert :=
    (statementKind?_eq_some_iff insertWord .insert).mpr hi
  have h₁ : step v { kind := .insert } table (.keywordTail .insert (.entry .insert)) =
      .ok (.handOn (.entry .insert)) := by
    rw [step, if_neg (ht.not_alias .insert)]
  have h₂ : step v { kind := .insert } table (.entry .insert) =
      .ok (.take .insertColumns { kind := .insert, table := some table }) := by
    rw [State.entry, step, if_neg (by simp [isPunctuation_iff, ht.1])]
    rfl
  rw [InsertLayout.tokens, readTokens_cons, hk]
  simp only [StatementKind.operation]
  rw [feedAll_handOn h₁, feedAll_take h₂, feedAll_insertColumns hv l hc hw,
    feedAll_insertValues hv l hn hx, fillAll_eq]
  rfl

end Reader

namespace Vocabulary
open Reader

/-- An INSERT with a value for each column is read as the same query in every layout. Where a value
is missing the first column without one is named, and where there are too many the first value
without a column is refused. -/
theorem read_insert_in_layout (v : Vocabulary) (hv : v.Reachable)
    (insertWord valuesWord table : String) (hi : v.resolve insertWord = some .insert)
    (hw : v.resolve valuesWord = some .values) (columns values : List String)
    (hp : ∀ n ∈ table :: (columns ++ values), IsPlain v n) (hn : values ≠ [])
    (l : InsertLayout) (text : String)
    (ht : tokenize text = l.tokens insertWord table columns valuesWord values) :
    (columns = [] ∨ columns.length = values.length → v.read text =
      .ok { kind := .insert, table := some table, columns := columns, values := values }) ∧
    (∀ _ : values.length < columns.length,
      v.read text = .error (l.lack columns[values.length])) ∧
    (columns ≠ [] → ∀ _ : columns.length < values.length, v.read text =
      .error (.unexpectedToken [l.valueStop.describe] values[columns.length])) := by
  obtain ⟨htable, hp⟩ := List.forall_mem_cons.mp hp
  obtain ⟨hc, hx⟩ := List.forall_mem_append.mp hp
  rw [Vocabulary.read, ht, readTokens_layout hv hi hw htable hc hx hn l]
  refine ⟨fun h => ?_, fun h => ?_, fun hne h => ?_⟩
  · have hnone : columns[values.length]? = none := by
      rw [List.getElem?_eq_none_iff]
      rcases h with rfl | h
      · exact Nat.zero_le _
      · omega
    rw [conclude_values l hn hx rfl (h.imp_right fun h => Nat.le_of_eq h.symm)]
    simp only [hnone]
  · rw [conclude_values l hn hx rfl (Or.inr (Nat.le_of_lt h))]
    simp only [List.getElem?_eq_getElem h]
  · exact conclude_surplus l hx rfl hne h

/-- The same columns in three layouts, with as many values, with too few and with too many. -/
theorem read_users_in_layouts :
    standard.read "bombardiro users (id name) trulimero 7, 'Frulli, Frulla'" =
        .ok { kind := .insert, table := some "users", columns := ["id", "name"],
              values := ["7", "'Frulli, Frulla'"] } ∧
      standard.read "bombardiro users id, name trulimero (7)" =
        .error (.unexpectedToken ["value for column name"] ")") ∧
      standard.read "bombardiro users id name trulimero 7, 8 9, 10" =
        .error (.unexpectedToken ["end of query"] "9") := by
  have ht :
      tokenize "bombardiro users (id name) trulimero 7, 'Frulli, Frulla'" =
          ["bombardiro", "users", "(", "id", "name", ")", "trulimero", "7", ",",
            "'Frulli, Frulla'"] ∧
        tokenize "bombardiro users id, name trulimero (7)" =
          ["bombardiro", "users", "id", ",", "name", "trulimero", "(", "7", ")"] ∧
        tokenize "bombardiro users id name trulimero 7, 8 9, 10" =
          ["bombardiro", "users", "id", "name", "trulimero", "7", ",", "8", "9", ",", "10"] := by
    decide +kernel
  have hv := standard_resolve [("bombardiro", some .insert), ("trulimero", some .values),
    ("users", none), ("id", none), ("name", none), ("7", none), ("'Frulli, Frulla'", none),
    ("8", none), ("9", none), ("10", none)] (by decide)
  simp only [List.forall_mem_cons] at hv
  obtain ⟨h1, h2, h3, h4, h5, h6, h7, h8, h9, h10, -⟩ := hv
  refine ⟨?_, ?_, ?_⟩
  · refine (read_insert_in_layout _ .standard _ _ "users" h1 h2 ["id", "name"]
      ["7", "'Frulli, Frulla'"] ?_ (by simp) ⟨true, false, fun _ => false, fun _ => true⟩ _
      ht.1).1 (Or.inr rfl)
    simp [IsPlain, Grammar.IsName, h3, h4, h5, h6, h7]
  · refine (read_insert_in_layout _ .standard _ _ "users" h1 h2 ["id", "name"] ["7"] ?_ (by simp)
      ⟨false, true, fun _ => true, fun _ => false⟩ _ ht.2.1).2.1 (by decide)
    simp [IsPlain, Grammar.IsName, h3, h4, h5, h6]
  · refine (read_insert_in_layout _ .standard _ _ "users" h1 h2 ["id", "name"]
      ["7", "8", "9", "10"] ?_ (by simp) ⟨false, false, fun _ => false, fun i => i != 1⟩ _
      ht.2.2).2.2 (by simp) (by decide)
    simp [IsPlain, Grammar.IsName, h3, h4, h5, h6, h8, h9, h10]

end Vocabulary

end SlangSql
