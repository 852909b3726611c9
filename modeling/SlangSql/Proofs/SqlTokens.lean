import SlangSql.Proofs.TokenLayout
import SlangSql.Proofs.WellFormed

/-!
# The tokens of written SQL

The tokens of a query as SQL are listed clause by clause, without blanks.
Cutting the written text gives back this list, so writing neither merges nor
splits a token. The one thing to watch is a quoted token without its closing
mark, which runs to the end of the text: it is written last whenever it was
read last, except in the list of values of an INSERT.
-/

set_option autoImplicit false

namespace SlangSql

/-! ## Lists of tokens -/

/-- Items with a comma between neighbours, each given by its tokens. -/
def separated {α : Type} (tokens : α → List String) : List α → List String
  | [] => []
  | [a] => tokens a
  | a :: b :: as => tokens a ++ "," :: separated tokens (b :: as)

def Comparison.sqlTokens : Comparison → List String
  | .isNot => ["IS", "NOT"]
  | c => [c.text]

def Condition.sqlTokens (c : Condition) : List String :=
  c.field :: (c.comparison.sqlTokens ++ [c.operand.text])

/-- Conditions, each with the connective in front of it. -/
def connectedTokens (ps : List (Connective × Condition)) : List String :=
  ps.flatMap fun p => p.1.text :: p.2.sqlTokens

def conditionTokens : List Condition → List Connective → List String
  | [], _ => []
  | c :: cs, ks => c.sqlTokens ++ connectedTokens (ks.zip cs)

def whereTokens (cs : List Condition) (ks : List Connective) : List String :=
  if cs.isEmpty then [] else "WHERE" :: conditionTokens cs ks

def joinTokens (tables : List String) : List String :=
  tables.flatMap fun t => ["INNER", "JOIN", t]

def nameTokens (names : List String) : List String := separated (fun t => [t]) names

def insertColumnTokens (columns : List String) : List String :=
  if columns.isEmpty then [] else "(" :: (nameTokens columns ++ [")"])

def assignmentTokens (pairs : List (String × String)) : List String :=
  separated (fun a => [a.1, "=", a.2]) pairs

/-- The query as a sequence of SQL tokens, in the order of the clauses. -/
def Query.sqlTokens (q : Query) : List String :=
  match q.kind with
  | .select => "SELECT" :: (nameTokens q.columns ++ "FROM" :: q.tableText ::
      (joinTokens q.joined ++ whereTokens q.conditions q.connectives))
  | .insert => "INSERT" :: "INTO" :: q.tableText :: (insertColumnTokens q.columns ++
      "VALUES" :: "(" :: (nameTokens q.values ++ [")"]))
  | .update => "UPDATE" :: q.tableText :: "SET" ::
      (assignmentTokens q.assignments ++ whereTokens q.conditions q.connectives)
  | .delete => "DELETE" :: "FROM" :: q.tableText :: whereTokens q.conditions q.connectives
  | .beginTransaction => ["START", "TRANSACTION"]
  | .commit => ["COMMIT"]
  | .rollback => ["ROLLBACK"]

/-! ## Texts that hold given tokens -/

namespace Token
open SlangSql.Text

/-- Tokens in an order in which a text can hold them: only the last may lack its closing mark. -/
def Sealed : List String → Prop
  | [] => True
  | t :: ts => (IsClosed t.toList ∨ IsUnterminated t.toList ∧ ts = []) ∧ Sealed ts

theorem Laid.sealed {ts : List (List Char)} {cs : List Char} (h : Laid ts cs) :
    Sealed (ts.map String.ofList) := by
  induction h with
  | none => trivial
  | unterminated ht => simpa [Sealed] using Or.inr ht
  | last ht => simpa [Sealed] using Or.inl ht
  | cons ht _ _ _ ih => exact ⟨Or.inl (by simpa using ht), ih⟩

theorem sealed_tokenize (text : String) : Sealed (tokenize text) := by
  obtain ⟨w, body, -, -, hl⟩ := layout_split text.toList
  exact hl.sealed

/-- A token right before the text does not go on into it. -/
def Apart (text : String) : Prop := ∀ c ∈ text.toList.head?, isWordPart c = false

theorem Apart.stops {text : String} (h : Apart text) (t : List Char) : Stops t text.toList := by
  constructor
  · intro _ c hc
    rcases (isWordPart_eq_false_iff c).mp (h c hc) with hb | hm
    · exact blank_ne_quote hb
    · exact mark_ne_quote hm
  · intro _
    exact h

/-- The text holds the tokens, provided that a text can hold them in this order. -/
def Spells (text : String) (ts : List String) : Prop := Sealed ts → tokenize text = ts

/-- Such a text that may stand right behind another token. -/
structure Tail (text : String) (ts : List String) : Prop where
  spells : Spells text ts
  apart : Apart text
  empty : ts = [] → text = ""

theorem tail_nil : Tail "" [] where
  spells _ := by rw [tokenize, String.toList_empty, split_eq_nil rfl, List.map_nil]
  apart := by simp [Apart]
  empty _ := rfl

variable {text rest : String} {ts : List String}

theorem Tail.token (h : Tail rest ts) (t : String) : Spells (t ++ rest) (t :: ts) := by
  rintro ⟨hc | ⟨hu, rfl⟩, hs⟩
  · rw [← h.spells hs]
    simp [tokenize, split_append hc (h.apart.stops _)]
  · rw [h.empty rfl]
    simp [tokenize, split_unterminated hu]

theorem Spells.space (h : Spells text ts) : Spells (" " ++ text) ts := by
  intro hs
  have hb : Blanks " ".toList := by simp [Blanks]; decide
  rw [← h hs, tokenize, String.toList_append, split_blanks_append hb, tokenize]

theorem Spells.tail (h : Spells text ts) (hn : ts ≠ []) : Tail (" " ++ text) ts where
  spells := h.space
  apart := by simp [Apart]; decide
  empty he := absurd he hn

theorem Tail.word (h : Tail rest ts) (t : String) : Tail (" " ++ (t ++ rest)) (t :: ts) :=
  (h.token t).tail (by simp)

theorem tokenize_empty : tokenize "" = [] :=
  tail_nil.spells trivial

theorem sealed_of_closed {us : List String} (hu : ∀ t ∈ us, IsClosed t.toList) : Sealed us := by
  induction us with
  | nil => trivial
  | cons t us ih =>
    rw [List.forall_mem_cons] at hu
    exact ⟨Or.inl hu.1, ih hu.2⟩

theorem exists_tail (us : List String) : ∃ text, Tail text us := by
  induction us with
  | nil => exact ⟨"", tail_nil⟩
  | cons t us ih =>
    obtain ⟨text, h⟩ := ih
    exact ⟨_, h.word t⟩

/-- Some text holds the tokens. -/
theorem exists_text_of_sealed {us : List String} (hu : Sealed us) :
    ∃ text, tokenize text = us := by
  obtain ⟨text, h⟩ := exists_tail us
  exact ⟨text, h.spells hu⟩

theorem exists_tokenize_eq {us : List String} (hu : ∀ t ∈ us, IsClosed t.toList) :
    ∃ text, tokenize text = us :=
  exists_text_of_sealed (sealed_of_closed hu)

theorem Spells.mark {m : String} (h : Spells text ts) (hm : IsMark m.toList) :
    Tail (m ++ text) (m :: ts) where
  spells hs := by
    rw [← h hs.2]
    simp [tokenize, split_append (Or.inl hm) (hm.stops text.toList)]
  apart := by
    obtain ⟨c, hc, he⟩ := hm
    simp [Apart, he, isWordPart, hc]
  empty he := by cases he

theorem isMark_comma : IsMark ",".toList := ⟨',', rfl, rfl⟩

theorem isMark_open : IsMark "(".toList := ⟨'(', rfl, rfl⟩

theorem isMark_close : IsMark ")".toList := ⟨')', rfl, rfl⟩

/-! ## Clauses -/

theorem tail_comparison (h : Tail rest ts) (c : Comparison) :
    Tail (" " ++ (c.text ++ rest)) (c.sqlTokens ++ ts) := by
  cases c with
  | isNot => exact (h.word "NOT").word "IS"
  | _ => exact h.word _

theorem spells_condition (h : Tail rest ts) (c : Condition) :
    Spells (c.toSql ++ rest) (c.sqlTokens ++ ts) := by
  have hc := (tail_comparison (h.word c.operand.text) c.comparison).token c.field
  simpa [Condition.toSql, Condition.sqlTokens, String.append_assoc] using hc

theorem tail_connected (ps : List (Connective × Condition)) :
    Tail (String.join (ps.map fun p => " " ++ p.1.text ++ " " ++ p.2.toSql))
      (connectedTokens ps) := by
  induction ps with
  | nil => exact tail_nil
  | cons p ps ih =>
    have hc := ((spells_condition ih p.2).tail (by simp [Condition.sqlTokens])).word p.1.text
    simpa [connectedTokens, String.append_assoc] using hc

theorem tail_where (q : Query) :
    Tail q.whereClause (whereTokens q.conditions q.connectives) := by
  cases hq : q.conditions with
  | nil => simpa [Query.whereClause, whereTokens, hq] using tail_nil
  | cons c cs =>
    have hc := ((spells_condition (tail_connected (q.connectives.zip cs)) c).tail
      (by simp [Condition.sqlTokens])).word "WHERE"
    -- The fixed texts are cut at their blanks, so that each word stands alone.
    have hl : " WHERE " = " " ++ ("WHERE" ++ " ") := rfl
    simp only [Query.whereClause, hq, hl, String.append_assoc] at hc ⊢
    exact hc

theorem tail_joins (h : Tail rest ts) (tables : List String) :
    Tail (String.join (tables.map fun t => " INNER JOIN " ++ t) ++ rest)
      (joinTokens tables ++ ts) := by
  induction tables with
  | nil => simpa [joinTokens] using h
  | cons t tables ih =>
    have ht := ((ih.word t).word "JOIN").word "INNER"
    have hl : " INNER JOIN " = " " ++ ("INNER" ++ (" " ++ ("JOIN" ++ " "))) := rfl
    simpa only [joinTokens, List.map_cons, String.join_cons, List.flatMap_cons, List.cons_append,
      List.nil_append, hl, String.append_assoc] using ht

/-- A list of items with commas, if every item holds its own tokens. -/
theorem spells_separated {α : Type} {write : α → String} {tokens : α → List String}
    (hw : ∀ (a : α) {rest : String} {ts : List String}, Tail rest ts →
      Spells (write a ++ rest) (tokens a ++ ts)) (h : Tail rest ts) (as : List α) :
    Spells (Query.commaList (as.map write) ++ rest) (separated tokens as ++ ts) := by
  fun_induction separated tokens as with
  | case1 => simpa [Query.commaList] using h.spells
  | case2 a => simpa [Query.commaList] using hw a h
  | case3 a b as ih =>
    have hm := hw a (ih.space.mark isMark_comma)
    have hl : ", " = "," ++ " " := rfl
    simpa only [Query.commaList, List.map_cons, String.intercalate_cons_cons, hl,
      String.append_assoc, List.append_assoc, List.cons_append] using hm

theorem spells_names (h : Tail rest ts) (names : List String) :
    Spells (Query.commaList names ++ rest) (nameTokens names ++ ts) := by
  have hn : Spells (Query.commaList (names.map fun t => t) ++ rest) (nameTokens names ++ ts) :=
    spells_separated (fun t _ _ h => h.token t) h names
  rwa [List.map_id'] at hn

theorem spells_assignments (h : Tail rest ts) (pairs : List (String × String)) :
    Spells (Query.commaList (pairs.map fun a => a.1 ++ " = " ++ a.2) ++ rest)
      (assignmentTokens pairs ++ ts) := by
  apply spells_separated _ h
  intro a rest ts h
  have hl : " = " = " " ++ ("=" ++ " ") := rfl
  simp only [hl, String.append_assoc]
  exact ((h.word a.2).word "=").token a.1

theorem assignmentTokens_ne_nil {pairs : List (String × String)} (h : pairs ≠ []) :
    assignmentTokens pairs ≠ [] := by
  unfold assignmentTokens
  fun_cases separated _ pairs with
  | case1 => exact absurd rfl h
  | case2 => simp
  | case3 => simp

theorem tail_enclosed (h : Tail rest ts) (names : List String) :
    Tail (" " ++ ("(" ++ (Query.commaList names ++ (")" ++ rest))))
      ("(" :: (nameTokens names ++ ")" :: ts)) := by
  have hn := spells_names (h.spells.mark isMark_close) names
  exact (hn.mark isMark_open).spells.tail (by simp)

/-! ## Statements -/

theorem spells_select {q : Query} (hk : q.kind = .select) (hc : q.columns ≠ []) :
    Spells q.selectSql q.sqlTokens := by
  have hf := ((tail_joins (tail_where q) q.joined).word q.tableText).word "FROM"
  have hs := ((spells_names hf q.columns).tail (by simp)).token "SELECT"
  have hl : "SELECT " = "SELECT" ++ " " ∧ " FROM " = " " ++ ("FROM" ++ " ") := ⟨rfl, rfl⟩
  unfold Query.selectSql
  simpa only [Query.sqlTokens, hk, List.isEmpty_iff, if_neg hc, hl, String.append_assoc] using hs

theorem tail_insertColumns (h : Tail rest ts) (q : Query) :
    Tail ((if q.columns.isEmpty then "" else " (" ++ Query.commaList q.columns ++ ")") ++ rest)
      (insertColumnTokens q.columns ++ ts) := by
  by_cases hc : q.columns = []
  · simpa [insertColumnTokens, hc] using h
  · have hl : " (" = " " ++ "(" := rfl
    simpa only [insertColumnTokens, List.isEmpty_iff, if_neg hc, hl, String.append_assoc,
      List.cons_append, List.append_assoc, List.nil_append] using tail_enclosed h q.columns

theorem spells_insert {q : Query} (hk : q.kind = .insert) : Spells q.insertSql q.sqlTokens := by
  have hv := (tail_enclosed tail_nil q.values).word "VALUES"
  have hs := (((tail_insertColumns hv q).word q.tableText).word "INTO").token "INSERT"
  have hl : "INSERT INTO " = "INSERT" ++ (" " ++ ("INTO" ++ " ")) ∧
      " VALUES (" = " " ++ ("VALUES" ++ (" " ++ "(")) := ⟨rfl, rfl⟩
  unfold Query.insertSql
  simpa only [Query.sqlTokens, hk, hl, String.append_assoc, String.append_empty] using hs

theorem spells_update {q : Query} (hk : q.kind = .update) (ha : q.assignments ≠ []) :
    Spells q.updateSql q.sqlTokens := by
  have hp := (spells_assignments (tail_where q) q.assignments).tail
    (by simp [assignmentTokens_ne_nil ha])
  have hs := ((hp.word "SET").word q.tableText).token "UPDATE"
  have hl : "UPDATE " = "UPDATE" ++ " " ∧ " SET " = " " ++ ("SET" ++ " ") := ⟨rfl, rfl⟩
  unfold Query.updateSql
  simpa only [Query.sqlTokens, hk, hl, String.append_assoc] using hs

theorem spells_delete {q : Query} (hk : q.kind = .delete) : Spells q.deleteSql q.sqlTokens := by
  have hs := (((tail_where q).word q.tableText).word "FROM").token "DELETE"
  have hl : "DELETE FROM " = "DELETE" ++ (" " ++ ("FROM" ++ " ")) := rfl
  unfold Query.deleteSql
  simpa only [Query.sqlTokens, hk, hl, String.append_assoc] using hs

/-- Writing a well-formed query keeps its tokens apart. -/
theorem spells_toSql {v : Vocabulary} {q : Query} (h : q.WellFormed v) :
    Spells q.toSql q.sqlTokens := by
  cases hk : q.kind with
  | select => simpa only [Query.toSql, hk] using spells_select hk (h.select hk).1
  | insert => simpa only [Query.toSql, hk] using spells_insert hk
  | update =>
    have ha : q.assignments ≠ [] := by
      obtain ⟨hl, hn, -⟩ := h.update hk
      have hv : q.values ≠ [] := by
        intro he
        simp [he, hn] at hl
      simp [Query.assignments, hn, hv]
    simpa only [Query.toSql, hk] using spells_update hk ha
  | delete => simpa only [Query.toSql, hk] using spells_delete hk
  | beginTransaction =>
    have hs := (tail_nil.word "TRANSACTION").token "START"
    have hl : "START" ++ (" " ++ ("TRANSACTION" ++ "")) = "START TRANSACTION" := by decide
    simpa only [Query.toSql, Query.sqlTokens, hk, hl] using hs
  | commit =>
    have hs := tail_nil.token "COMMIT"
    simpa only [Query.toSql, Query.sqlTokens, hk, String.append_empty] using hs
  | rollback =>
    have hs := tail_nil.token "ROLLBACK"
    simpa only [Query.toSql, Query.sqlTokens, hk, String.append_empty] using hs

/-! ## An open token stays last -/

/-- Writing `us` for `ts` leaves an open token at the end, where it was. -/
def Carries (ts us : List String) : Prop := (Sealed ts → Sealed us) ∧ (ts = [] → us = [])

theorem carries_nil : Carries [] [] := ⟨id, id⟩

variable {us : List String}

theorem Carries.keep (h : Carries ts us) (t : String) : Carries (t :: ts) (t :: us) := by
  constructor
  · rintro ⟨hc | ⟨hu, he⟩, hs⟩
    · exact ⟨Or.inl hc, h.1 hs⟩
    · exact ⟨Or.inr ⟨hu, h.2 he⟩, h.1 hs⟩
  · intro he
    cases he

theorem Carries.drop (h : Carries ts us) (t : String) : Carries (t :: ts) us := by
  constructor
  · intro hs
    exact h.1 hs.2
  · intro he
    cases he

theorem Carries.write (h : Carries ts us) (hn : ts ≠ []) {k : String}
    (hk : IsMark k.toList ∨ IsWord k.toList) : Carries ts (k :: us) := by
  constructor
  · intro hs
    exact ⟨Or.inl (hk.imp_right Or.inr), h.1 hs⟩
  · intro he
    exact absurd he hn

theorem Carries.writeAll (h : Carries ts us) (hn : ts ≠ []) {ks : List String}
    (hk : ∀ k ∈ ks, IsMark k.toList ∨ IsWord k.toList) : Carries ts (ks ++ us) := by
  induction ks with
  | nil => exact h
  | cons k ks ih =>
    have hks := List.forall_mem_cons.mp hk
    exact (ih hks.2).write hn hks.1

theorem Sealed.closed_of_mem {t : String} (hs : Sealed ts) (ht : t ∈ ts)
    (hu : ¬ IsUnterminated t.toList) : IsClosed t.toList := by
  induction ts with
  | nil => cases ht
  | cons a ts ih =>
    rcases List.mem_cons.mp ht with rfl | ht
    · exact hs.1.resolve_right fun h => hu h.1
    · exact ih hs.2 ht

theorem sealed_names {names : List String} (hn : ∀ t ∈ names, IsClosed t.toList)
    (hs : Sealed us) : Sealed (nameTokens names ++ us) := by
  unfold nameTokens
  fun_induction separated _ names with
  | case1 => exact hs
  | case2 a => exact ⟨Or.inl (hn a (by simp)), hs⟩
  | case3 a b as ih =>
    have hc := List.forall_mem_cons.mp hn
    exact ⟨Or.inl hc.1, Or.inl (Or.inl isMark_comma), ih hc.2⟩

end Token

namespace Grammar
open Token

variable {v : Vocabulary} {op : Operation} {ts rest us : List String}

theorem Optional.carries (h : Optional v op ts rest) (hc : Carries rest us) : Carries ts us := by
  cases h with
  | absent => exact hc
  | present => exact hc.drop _

/-- In place of a keyword, other words may be written. -/
theorem Keyword.carries (h : Keyword v op ts rest) (hc : Carries rest us) (ks : List String)
    (hk : ∀ k ∈ ks, IsMark k.toList ∨ IsWord k.toList) : Carries ts (ks ++ us) := by
  cases h with
  | word _ hr => exact ((hr.carries hc).drop _).writeAll (by simp) hk

theorem MoreNames.carries {ok : String → Prop} {ns : List String} (h : MoreNames ok ts ns rest)
    (hc : Carries rest us) (t : String) : Carries (t :: ts) (nameTokens (t :: ns) ++ us) := by
  induction h generalizing t with
  | none => exact hc.keep t
  | @plain u _ _ _ _ _ ih => exact ((ih hc u).write (by simp) (Or.inl isMark_comma)).keep t
  | @comma u _ _ _ _ _ ih => exact ((ih hc u).keep ",").keep t

theorem NameList.carries {ok : String → Prop} {ns : List String} (h : NameList ok ts ns rest)
    (hc : Carries rest us) : Carries ts (nameTokens ns ++ us) := by
  cases h with
  | first _ hs => exact hs.carries hc _

theorem SelectList.carries {ns : List String} (h : SelectList v ts ns rest)
    (hc : Carries rest us) : Carries ts (nameTokens ns ++ us) := by
  cases h with
  | star => exact hc.keep "*"
  | all h => exact h.carries hc ["*"] (by decide)
  | names _ _ h => exact h.carries hc

theorem Joins.carries {ns : List String} (h : Joins v ts ns rest) (hc : Carries rest us) :
    Carries ts (joinTokens ns ++ us) := by
  induction h with
  | none => exact hc
  | @table t _ _ _ _ hk _ _ ih => exact hk.carries ((ih hc).keep t) ["INNER", "JOIN"] (by decide)

theorem NullTest.carries {t : String} {o : Operand} (h : NullTest v t o) (hc : Carries ts us) :
    Carries (t :: ts) (o.text :: us) := by
  cases h with
  | null => exact (hc.drop t).write (by simp) (by decide)
  | literal => exact hc.keep t

theorem sqlTokens_of_symbolic {c : Comparison} (hc : c ∈ Comparison.symbolic) :
    c.sqlTokens = [c.text] := by
  revert hc
  cases c <;> decide

theorem ConditionPhrase.carries {c : Condition} (h : ConditionPhrase v ts c rest)
    (hc : Carries rest us) : Carries ts (c.sqlTokens ++ us) := by
  cases h with
  | @symbol field value rest c _ hs =>
    simp only [Condition.sqlTokens, sqlTokens_of_symbolic hs]
    exact ((hc.keep value).keep c.text).keep field
  | @is field _ _ _ _ _ hi _ ho => exact (hi.carries (ho.carries hc) ["IS"] (by decide)).keep field
  | @isNot field _ _ _ _ _ _ hi hn ho =>
    have h' := hn.carries (ho.carries hc) ["NOT"] (by decide)
    exact (hi.carries h' ["IS"] (by decide)).keep field
  | @notIs field _ _ _ _ _ _ hn hi ho =>
    exact (hn.carries (hi.carries (ho.carries hc)) ["IS", "NOT"] (by decide)).keep field

theorem Conditions.tokens_cons {cs : List Condition} {ks : List Connective}
    (h : Conditions v ts cs ks) (c : Condition) (k : Connective) :
    conditionTokens (c :: cs) (k :: ks) = c.sqlTokens ++ k.text :: conditionTokens cs ks := by
  cases h <;> simp [conditionTokens, connectedTokens]

theorem isWord_connective (k : Connective) : IsWord k.text.toList := by
  cases k <;> decide

theorem Conditions.carries {cs : List Condition} {ks : List Connective}
    (h : Conditions v ts cs ks) : Carries ts (conditionTokens cs ks) := by
  induction h with
  | last h => exact h.carries carries_nil
  | @more _ _ _ c _ k _ h hk hs ih =>
    rw [hs.tokens_cons]
    exact h.carries (hk.carries ih [k.text] (by simp [isWord_connective]))

theorem Conditions.whereTokens_eq {cs : List Condition} {ks : List Connective}
    (h : Conditions v ts cs ks) : whereTokens cs ks = "WHERE" :: conditionTokens cs ks := by
  cases h <;> rfl

theorem Where.carries {cs : List Condition} {ks : List Connective} (h : Where v ts cs ks) :
    Carries ts (whereTokens cs ks) := by
  cases h with
  | absent => exact carries_nil
  | present hk h =>
    rw [h.whereTokens_eq]
    exact hk.carries h.carries ["WHERE"] (by decide)

theorem Assignment.carries {column value : String} (h : Assignment v ts column value rest)
    (hc : Carries rest us) : Carries ts (column :: "=" :: value :: us) := by
  cases h with
  | symbol => exact ((hc.keep value).keep "=").keep column
  | keyword _ hk => exact (hk.carries (hc.keep value) ["="] (by decide)).keep column

theorem Assignments.tokens_cons {columns values : List String}
    (h : Assignments v ts columns values rest) (a : String × String) :
    assignmentTokens (a :: columns.zip values) =
      a.1 :: "=" :: a.2 :: "," :: assignmentTokens (columns.zip values) := by
  cases h <;> simp [assignmentTokens, separated]

theorem Assignments.carries {columns values : List String}
    (h : Assignments v ts columns values rest) (hc : Carries rest us) :
    Carries ts (assignmentTokens (columns.zip values) ++ us) := by
  induction h with
  | last h => exact h.carries hc
  | more h hs ih =>
    rw [List.zip_cons_cons, hs.tokens_cons]
    exact h.carries ((ih hc).keep ",")

theorem NameList.sublist {ok : String → Prop} {ns : List String} (h : NameList ok ts ns rest) :
    ns.Sublist ts := by
  cases h with
  | first _ hs =>
    apply List.Sublist.cons_cons
    induction hs with
    | none => simp
    | plain _ _ ih => exact ih.cons_cons _
    | comma _ _ ih => exact (ih.cons_cons _).cons _

theorem InsertColumns.carries {columns : List String} (h : InsertColumns v ts columns rest)
    (hn : rest ≠ []) (hc : Carries rest us) : Carries ts (insertColumnTokens columns ++ us) := by
  have he : ∀ {ok : String → Prop} {ts rest : List String}, NameList ok ts columns rest →
      insertColumnTokens columns ++ us = "(" :: (nameTokens columns ++ ")" :: us) := by
    intro ok ts rest h
    simp [insertColumnTokens, h.ne_nil]
  cases h with
  | none => exact hc
  | enclosed h =>
    rw [he h]
    exact (h.carries (hc.keep ")")).keep "("
  | bare h =>
    have hts : ts ≠ [] := by cases h; simp
    rw [he h]
    exact (h.carries (hc.write hn (Or.inl isMark_close))).write hts (Or.inl isMark_open)

/-- A closing parenthesis is written behind the values, so none of them may run on. -/
theorem InsertValues.carries {values : List String} (h : InsertValues ts values)
    (hu : ∀ t ∈ values, ¬ IsUnterminated t.toList) :
    Carries ts ("(" :: (nameTokens values ++ [")"])) := by
  have hsub : values.Sublist ts := by
    cases h with
    | enclosed h => exact h.sublist.cons _
    | bare h => exact h.sublist
  constructor
  · intro hs
    refine ⟨Or.inl (Or.inl isMark_open), sealed_names (fun t ht => ?_) ?_⟩
    · exact hs.closed_of_mem (hsub.mem ht) (hu t ht)
    · exact ⟨Or.inl (Or.inl isMark_close), trivial⟩
  · rintro rfl
    exact absurd (List.sublist_nil.mp hsub) h.ne_nil

theorem Statement.carries {q : Query} (h : Statement v ts q)
    (hu : q.kind = .insert → ∀ t ∈ q.values, ¬ IsUnterminated t.toList) :
    Carries ts q.sqlTokens := by
  cases h with
  | @select table _ _ _ _ _ _ _ _ _ hk hc hf _ hj hw =>
    have h₁ := hf.carries ((hj.carries hw.carries).keep table) ["FROM"] (by decide)
    exact hk.carries (hc.carries h₁) ["SELECT"] (by decide)
  | @insert table _ _ ts₂ _ _ _ hk _ hc hv hs _ =>
    have hn : ts₂ ≠ [] := by cases hv; simp
    have h₁ := hv.carries (hs.carries (hu rfl)) ["VALUES"] (by decide)
    exact hk.carries ((hc.carries hn h₁).keep table) ["INSERT", "INTO"] (by decide)
  | @update table _ _ _ _ _ _ _ _ hk _ hs ha hw =>
    have h₁ := hs.carries (ha.carries hw.carries) ["SET"] (by decide)
    exact hk.carries (h₁.keep table) ["UPDATE"] (by decide)
  | @delete table _ _ _ _ _ hk hf _ hw =>
    have h₁ := hf.carries (hw.carries.keep table) ["FROM"] (by decide)
    exact hk.carries h₁ ["DELETE"] (by decide)
  | @control k _ hc hk =>
    cases k with
    | beginTransaction => exact hk.carries carries_nil ["START", "TRANSACTION"] (by decide)
    | commit => exact hk.carries carries_nil ["COMMIT"] (by decide)
    | rollback => exact hk.carries carries_nil ["ROLLBACK"] (by decide)
    | _ => cases hc

end Grammar

/-- The tokens of the SQL text of a query that was read. -/
theorem tokenize_toSql {v : Vocabulary} {text : String} {q : Query} (h : v.read text = .ok q)
    (hu : q.kind = .insert → ∀ t ∈ q.values, ¬ Token.IsUnterminated t.toList) :
    tokenize q.toSql = q.sqlTokens := by
  have hs := Reader.statement_of_readTokens h
  have hc := (hs.carries hu).1 (Token.sealed_tokenize text)
  exact Token.spells_toSql hs.wellFormed hc

end SlangSql
