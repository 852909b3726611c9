import SlangSql.Proofs.Grammar
import SlangSql.Reader

/-!
# Runs of the reader through its building blocks

A run starts in a state with a query that is partly filled and ends with the
query that the remaining tokens complete. For each building block the run is
the phrase of the grammar that the block reads, followed by a run of the state
behind it. A list needs two facts about its end: the token that stops it is no
comma, and the values of an INSERT are as many as its columns.
-/

set_option autoImplicit false

namespace SlangSql.Reader
open Grammar

/-- From state `s` and query `q`, the tokens are a complete rest of a statement that gives `q'`. -/
def Reads (v : Vocabulary) (s : State) (q : Query) (ts : List String) (q' : Query) : Prop :=
  ∃ s', feedAll v q s ts = .ok (s', q') ∧ missing? q' s' = none

/-- What a run amounts to when the text ends. -/
def conclude : Except Error (State × Query) → Except Error Query
  | .error e => .error e
  | .ok (s, q) =>
    match missing? q s with
    | some expected => .error (.unexpectedEnd expected)
    | none => .ok q

variable {v : Vocabulary} {q q' : Query} {ts : List String}

theorem conclude_eq_ok_iff (s : State) :
    conclude (feedAll v q s ts) = .ok q' ↔ Reads v s q ts q' := by
  unfold Reads
  rcases feedAll v q s ts with e | ⟨s₁, q₁⟩
  · simp [conclude]
  · cases hm : missing? q₁ s₁ with
    | some expected =>
      simp only [conclude, hm, Except.ok.injEq, Prod.mk.injEq, reduceCtorEq, false_iff]
      rintro ⟨_, ⟨rfl, rfl⟩, hn⟩
      simp [hm] at hn
    | none =>
      simp only [conclude, hm, Except.ok.injEq, Prod.mk.injEq]
      constructor
      · rintro rfl
        exact ⟨s₁, ⟨rfl, rfl⟩, hm⟩
      · rintro ⟨_, ⟨-, h⟩, -⟩
        exact h

theorem isAliasOf_iff (t : String) (op : Operation) :
    v.isAliasOf t op = true ↔ v.resolve t = some op := by
  simp [Vocabulary.isAliasOf]

theorem isPunctuation_iff (t : String) : isPunctuation t = true ↔ ¬ IsName t := by
  by_cases hc : t = "," <;> by_cases ho : t = "(" <;> simp [isPunctuation, IsName, hc, ho]

theorem feed_eq (t : String) (s : State) :
    feed v q t s = match step v q t s with
      | .ok (.take next q₁) => .ok (next, q₁)
      | .ok (.handOn next) => feed v q t next
      | .error e => .error e := by
  rw [feed]
  split <;> simp_all

theorem reads_nil (s : State) : Reads v s q [] q' ↔ q' = q ∧ missing? q s = none := by
  constructor
  · rintro ⟨s', h, hm⟩
    cases h
    exact ⟨rfl, hm⟩
  · rintro ⟨rfl, hm⟩
    exact ⟨s, rfl, hm⟩

/-- A text must not end where something is missing. -/
theorem not_reads_nil {s : State} {expected : String} (h : missing? q s = some expected) :
    ¬ Reads v s q [] q' := by
  rw [reads_nil, h]
  simp

/-- One token is taken, handed on, or refused. -/
theorem reads_cons (s : State) (t : String) :
    Reads v s q (t :: ts) q' ↔ match step v q t s with
      | .ok (.take next q₁) => Reads v next q₁ ts q'
      | .ok (.handOn next) => Reads v next q (t :: ts) q'
      | .error _ => False := by
  unfold Reads
  rw [feedAll, feed_eq]
  rcases hs : step v q t s with e | next | next
  · simp
  · rfl
  · simp only [feedAll]

/-! ## Keywords, symbols and stored tokens -/

theorem reads_keywordTail (op : Operation) (next : State) :
    Reads v (.keywordTail op next) q ts q' ↔ ∃ rest, Optional v op ts rest ∧
      Reads v next q rest q' := by
  cases ts with
  | nil =>
    rw [reads_nil]
    constructor
    · intro h
      exact ⟨[], .absent (by simp), (reads_nil next).mpr h⟩
    · rintro ⟨rest, hr, h⟩
      cases hr with
      | absent => exact (reads_nil next).mp h
  | cons t ts =>
    rw [reads_cons, step]
    by_cases ht : v.resolve t = some op
    · rw [if_pos ((isAliasOf_iff t op).mpr ht)]
      constructor
      · intro h
        exact ⟨ts, .present ht, h⟩
      · rintro ⟨rest, hr, h⟩
        cases hr with
        | absent hn => exact absurd ht (hn t rfl)
        | present => exact h
    · rw [if_neg (mt (isAliasOf_iff t op).mp ht)]
      constructor
      · intro h
        exact ⟨t :: ts, .absent (by simpa using ht), h⟩
      · rintro ⟨rest, hr, h⟩
        cases hr with
        | absent => exact h
        | present hp => exact absurd hp ht

theorem reads_keyword (op : Operation) (next : State) :
    Reads v (.keyword op next) q ts q' ↔ ∃ rest, Keyword v op ts rest ∧
      Reads v next q rest q' := by
  cases ts with
  | nil => simp [not_reads_nil (s := .keyword op next) rfl]
  | cons t ts =>
    rw [reads_cons, step]
    by_cases ht : v.resolve t = some op
    · rw [if_pos ((isAliasOf_iff t op).mpr ht)]
      simp [reads_keywordTail, ht]
    · rw [if_neg (mt (isAliasOf_iff t op).mp ht)]
      simp [ht, unexpected]

theorem reads_symbol (text : String) (next : State) :
    Reads v (.symbol text next) q ts q' ↔ ∃ rest, ts = text :: rest ∧
      Reads v next q rest q' := by
  cases ts with
  | nil => simp [not_reads_nil (s := .symbol text next) rfl]
  | cons t ts =>
    rw [reads_cons, step]
    by_cases ht : t = text
    · simp [ht]
    · simp [ht, unexpected]

theorem reads_store (slot : Slot) (next : State) :
    Reads v (.store slot next) q ts q' ↔ ∃ t rest, ts = t :: rest ∧ IsName t ∧
      Reads v next (slot.fill q t) rest q' := by
  cases ts with
  | nil => simp [not_reads_nil (s := .store slot next) rfl]
  | cons t ts =>
    rw [reads_cons, step]
    by_cases ht : IsName t <;> simp [isPunctuation_iff, ht, unexpected, and_assoc]

theorem reads_done : Reads v .done q ts q' ↔ ts = [] ∧ q' = q := by
  cases ts with
  | nil =>
    rw [reads_nil]
    exact ⟨fun h => ⟨rfl, h.1⟩, fun h => ⟨h.2, rfl⟩⟩
  | cons t ts => simp [reads_cons, step, unexpected]

/-! ## Lists -/

/-- An item of a list: a name that does not stop the list. -/
def IsItem (v : Vocabulary) (stop : Stop) (t : String) : Prop :=
  IsName t ∧ stop.matches v t = false

/-- A list ends before the token that stops it, or with the statement. -/
def Ends (v : Vocabulary) (stop : Stop) (rest : List String) : Prop :=
  match rest with
  | [] => stop = .endOfText
  | t :: _ => stop.matches v t = true

/-- `n` more items of a list are right for the columns that are listed. -/
def Fits (slot : Slot) (q : Query) (n : Nat) : Prop :=
  slot = .value → q.columns = [] ∨ q.values.length + n = q.columns.length

/-- At least `n` more items of a list have their place. -/
def HasRoom (slot : Slot) (q : Query) (n : Nat) : Prop :=
  slot = .value → q.columns = [] ∨ q.values.length + n ≤ q.columns.length

def fillAll (slot : Slot) (q : Query) (ns : List String) : Query := ns.foldl slot.fill q

theorem fillAll_eq (slot : Slot) (ns : List String) :
    fillAll slot q ns = match slot with
      | .table => { q with table := ns.getLast?.or q.table }
      | .column => { q with columns := q.columns ++ ns }
      | .value => { q with values := q.values ++ ns }
      | .joined => { q with joined := q.joined ++ ns } := by
  induction ns generalizing q with
  | nil => cases slot <;> simp [fillAll]
  | cons n ns ih =>
    rw [fillAll, List.foldl_cons, ← fillAll, ih]
    cases slot <;> simp [Slot.fill, Query.setTable, Query.pushColumn, Query.pushValue,
      Query.pushJoined, List.getLast?_cons]

theorem fits_fill (slot : Slot) (t : String) (n : Nat) :
    Fits slot (slot.fill q t) n ↔ Fits slot q (n + 1) := by
  cases slot <;> simp [Fits, Slot.fill, Query.pushValue, Nat.add_comm n, Nat.add_assoc]

theorem hasRoom_fill (slot : Slot) (t : String) (n : Nat) :
    HasRoom slot (slot.fill q t) n ↔ HasRoom slot q (n + 1) := by
  cases slot <;> simp [HasRoom, Slot.fill, Query.pushValue, Nat.add_comm n, Nat.add_assoc]

theorem Fits.hasRoom {slot : Slot} {n : Nat} (h : Fits slot q (n + 1)) : HasRoom slot q 1 := by
  intro hs
  rcases h hs with h | h
  · exact Or.inl h
  · exact Or.inr (by omega)

theorem not_valuesFull_iff (slot : Slot) :
    ¬ (slot = .value ∧ q.valuesFull = true) ↔ HasRoom slot q 1 := by
  unfold HasRoom Query.valuesFull
  by_cases hc : q.columns = []
  · simp [hc]
  · have hl : q.values.length + 1 ≤ q.columns.length ↔
        ¬ q.columns.length ≤ q.values.length := by omega
    rw [hl]
    simp [hc]

theorem unfilled_eq_none_iff {slot : Slot} (h : HasRoom slot q 0) :
    unfilled? slot q = none ↔ Fits slot q 0 := by
  unfold unfilled? Fits Query.pendingColumn?
  by_cases hs : slot = .value
  · have h := h hs
    simp only [hs, if_true, List.getElem?_eq_none_iff, true_implies]
    constructor
    · intro hl
      rcases h with h | h
      · exact Or.inl h
      · exact Or.inr (by omega)
    · rintro (hl | hl)
      · simp [hl]
      · omega
  · simp [hs]

section Steps

variable {slot : Slot} {stop : Stop} {next : State} {t : String}

theorem step_item (hi : IsItem v stop t) (hr : HasRoom slot q 1) :
    step v q t (.item slot stop next) =
      .ok (.take (.afterItem slot stop next) (slot.fill q t)) := by
  rw [step, itemStep, if_neg (by simp [isPunctuation_iff, hi.1, hi.2]),
    if_neg ((not_valuesFull_iff slot).mpr hr)]

/-- Where every column has its value, another one is refused. -/
theorem step_item_full (hi : IsItem v stop t) (hr : ¬ HasRoom slot q 1) :
    step v q t (.item slot stop next) = .error (.unexpectedToken [stop.describe] t) := by
  rw [← not_valuesFull_iff, Classical.not_not] at hr
  rw [step, itemStep, if_neg (by simp [isPunctuation_iff, hi.1, hi.2]), if_pos hr]
  rfl

theorem step_item_refused (hi : ¬ IsItem v stop t) :
    step v q t (.item slot stop next) = .error (.unexpectedToken [slot.describe] t) := by
  rw [step, itemStep,
    if_pos (by simpa [isPunctuation_iff, IsItem, Classical.or_iff_not_imp_left] using hi)]
  rfl

theorem step_afterItem_comma :
    step v q "," (.afterItem slot stop next) = .ok (.take (.item slot stop next) q) := by
  rw [step, afterItemStep, if_pos rfl]

theorem step_afterItem_item (hi : IsItem v stop t) :
    step v q t (.afterItem slot stop next) = .ok (.handOn (.item slot stop next)) := by
  rw [step, afterItemStep, if_neg hi.1.1, if_neg (by simp [hi.2]),
    if_neg (by simp [isPunctuation_iff, hi.1])]

theorem step_afterItem_stop (hc : t ≠ ",") (hm : stop.matches v t = true) :
    step v q t (.afterItem slot stop next) = match unfilled? slot q with
      | some column => .error (.unexpectedToken [missingValue column] t)
      | none => .ok (.handOn next) := by
  rw [step, afterItemStep, if_neg hc, if_pos hm]
  rfl

end Steps

theorem reads_item_cons (slot : Slot) (stop : Stop) (next : State) (t : String) :
    Reads v (.item slot stop next) q (t :: ts) q' ↔ IsItem v stop t ∧ HasRoom slot q 1 ∧
      Reads v (.afterItem slot stop next) (slot.fill q t) ts q' := by
  rw [reads_cons]
  by_cases hi : IsItem v stop t
  · by_cases hr : HasRoom slot q 1
    · simp [step_item hi hr, hi, hr]
    · simp [step_item_full hi hr, hr]
  · simp [step_item_refused hi, hi]

theorem reads_item_nil (slot : Slot) (stop : Stop) (next : State) :
    ¬ Reads v (.item slot stop next) q [] q' :=
  not_reads_nil rfl

theorem reads_afterItem_comma (slot : Slot) (stop : Stop) (next : State) :
    Reads v (.afterItem slot stop next) q ("," :: ts) q' ↔
      Reads v (.item slot stop next) q ts q' := by
  rw [reads_cons, step_afterItem_comma]

theorem reads_afterItem_item (slot : Slot) (stop : Stop) (next : State) {t : String}
    (ht : IsItem v stop t) :
    Reads v (.afterItem slot stop next) q (t :: ts) q' ↔
      Reads v (.item slot stop next) q (t :: ts) q' := by
  rw [reads_cons, step_afterItem_item ht]

theorem reads_afterItem_stop (slot : Slot) (stop : Stop) (next : State) {t : String}
    (hc : t ≠ ",") (ht : stop.matches v t = true) (hr : HasRoom slot q 0) :
    Reads v (.afterItem slot stop next) q (t :: ts) q' ↔ Fits slot q 0 ∧
      Reads v next q (t :: ts) q' := by
  rw [reads_cons, step_afterItem_stop hc ht, ← unfilled_eq_none_iff hr]
  cases unfilled? slot q with
  | none => simp
  | some column => simp

theorem reads_afterItem_nil (slot : Slot) (stop : Stop) (next : State) (hr : HasRoom slot q 0) :
    Reads v (.afterItem slot stop next) q [] q' ↔ stop = .endOfText ∧ Fits slot q 0 ∧ q' = q := by
  rw [reads_nil, missing?, ← unfilled_eq_none_iff hr]
  by_cases hs : stop = .endOfText
  · simp [hs, and_comm]
  · simp [hs]

/-- A token after an item is a comma, ends the list, or is the next item. -/
theorem afterItem_token (slot : Slot) (stop : Stop) (next : State) (t : String)
    (h : Reads v (.afterItem slot stop next) q (t :: ts) q') :
    t = "," ∨ t ≠ "," ∧ stop.matches v t = true ∨ IsItem v stop t := by
  rw [reads_cons, step, afterItemStep] at h
  by_cases hc : t = ","
  · exact Or.inl hc
  · by_cases hm : stop.matches v t = true
    · exact Or.inr (Or.inl ⟨hc, hm⟩)
    · rw [if_neg hc, if_neg hm] at h
      by_cases ht : IsName t
      · exact Or.inr (Or.inr ⟨ht, by simpa using hm⟩)
      · simp [isPunctuation_iff, ht, unexpected] at h

variable {slot : Slot} {stop : Stop} {next : State}

/-- The state behind a list that the end of the statement stops is the last one. -/
def ClosedBy (stop : Stop) (next : State) : Prop := stop = .endOfText → next = .done

/-- What a list state reads is a list and what follows it. The two parts need each other: behind
an item stands the rest of a list, and behind a comma stands a whole one. -/
theorem names_of_reads (hn : ClosedBy stop next) (ts : List String) :
    (∀ q, HasRoom slot q 0 → Reads v (.afterItem slot stop next) q ts q' →
      ∃ ns rest, MoreNames (IsItem v stop) ts ns rest ∧ Ends v stop rest ∧
        Fits slot q ns.length ∧ Reads v next (fillAll slot q ns) rest q') ∧
    ∀ q, Reads v (.item slot stop next) q ts q' →
      ∃ ns rest, NameList (IsItem v stop) ts ns rest ∧ Ends v stop rest ∧
        Fits slot q ns.length ∧ Reads v next (fillAll slot q ns) rest q' := by
  induction ts with
  | nil =>
    refine ⟨fun q hr h => ?_, fun q h => absurd h (reads_item_nil slot stop next)⟩
    obtain ⟨hs, hf, rfl⟩ := (reads_afterItem_nil slot stop next hr).mp h
    exact ⟨[], [], .none, hs, hf, by rw [hn hs]; exact reads_done.mpr ⟨rfl, rfl⟩⟩
  | cons t ts ih =>
    have item : ∀ q, Reads v (.item slot stop next) q (t :: ts) q' →
        ∃ ns rest, NameList (IsItem v stop) (t :: ts) ns rest ∧ Ends v stop rest ∧
          Fits slot q ns.length ∧ Reads v next (fillAll slot q ns) rest q' := by
      intro q h
      obtain ⟨ht, hr, h⟩ := (reads_item_cons slot stop next t).mp h
      obtain ⟨ns, rest, hm, he, hf, h⟩ := ih.1 _ ((hasRoom_fill slot t 0).mpr hr) h
      exact ⟨t :: ns, rest, .first ht hm, he, (fits_fill slot t ns.length).mp hf, h⟩
    refine ⟨fun q hr h => ?_, item⟩
    rcases afterItem_token slot stop next t h with rfl | ⟨hc, hm⟩ | ht
    · rw [reads_afterItem_comma] at h
      obtain ⟨ns, rest, hl, he, hf, h⟩ := ih.2 q h
      cases hl with
      | first ht hm => exact ⟨_, rest, .comma ht hm, he, hf, h⟩
    · obtain ⟨hf, h⟩ := (reads_afterItem_stop slot stop next hc hm hr).mp h
      exact ⟨[], t :: ts, .none, hm, hf, h⟩
    · rw [reads_afterItem_item slot stop next ht] at h
      obtain ⟨ns, rest, hl, he, hf, h⟩ := item q h
      cases hl with
      | first ht hm => exact ⟨_, rest, .plain ht hm, he, hf, h⟩

theorem nameList_of_reads (hn : ClosedBy stop next)
    (h : Reads v (.item slot stop next) q ts q') :
    ∃ ns rest, NameList (IsItem v stop) ts ns rest ∧ Ends v stop rest ∧
      Fits slot q ns.length ∧ Reads v next (fillAll slot q ns) rest q' :=
  (names_of_reads hn ts).2 q h

theorem reads_of_moreNames {rest ns : List String} (hc : stop.matches v "," = false)
    (hn : ClosedBy stop next) (hm : MoreNames (IsItem v stop) ts ns rest) (he : Ends v stop rest)
    (hf : Fits slot q ns.length) (h : Reads v next (fillAll slot q ns) rest q') :
    Reads v (.afterItem slot stop next) q ts q' := by
  induction hm generalizing q with
  | @none rest =>
    have hr : HasRoom slot q 0 := fun hs => (hf hs).imp_right Nat.le_of_eq
    cases rest with
    | nil =>
      have hd : next = .done := hn he
      subst hd
      exact (reads_afterItem_nil slot stop .done hr).mpr ⟨he, hf, (reads_done.mp h).2⟩
    | cons t rest =>
      have ht : t ≠ "," := by
        rintro rfl
        simp [Ends, hc] at he
      exact (reads_afterItem_stop slot stop next ht he hr).mpr ⟨hf, h⟩
  | @plain t ts ns rest ht hm ih =>
    rw [reads_afterItem_item slot stop next ht, reads_item_cons]
    exact ⟨ht, hf.hasRoom, ih he ((fits_fill slot t ns.length).mpr hf) h⟩
  | @comma t ts ns rest ht hm ih =>
    rw [reads_afterItem_comma, reads_item_cons]
    exact ⟨ht, hf.hasRoom, ih he ((fits_fill slot t ns.length).mpr hf) h⟩

theorem reads_of_nameList {rest ns : List String} (hc : stop.matches v "," = false)
    (hn : ClosedBy stop next) (hm : NameList (IsItem v stop) ts ns rest) (he : Ends v stop rest)
    (hf : Fits slot q ns.length) (h : Reads v next (fillAll slot q ns) rest q') :
    Reads v (.item slot stop next) q ts q' := by
  cases hm with
  | @first t ts ns rest ht hm =>
    rw [reads_item_cons]
    exact ⟨ht, hf.hasRoom, reads_of_moreNames hc hn hm he ((fits_fill slot t ns.length).mpr hf) h⟩

end SlangSql.Reader
