import SlangSql.Token

/-!
# Texts as layouts of tokens

A text is laid out as its tokens with blanks around them. The kinds of tokens
are described on their own: a punctuation mark, a quoted token, a word, and at
the very end perhaps a quoted token without its closing mark. Two neighbours
may touch only where no other token could be read across the gap. The tokens
of a text are the only ones that it is a layout of.
-/

set_option autoImplicit false

namespace SlangSql.Token
open SlangSql.Text

/-- What may stand between the marks of a quoted token: a mark only in pairs. -/
inductive QuotedBody : List Char → Prop
  | nil : QuotedBody []
  | char {c : Char} {cs : List Char} (hc : c ≠ quote) (h : QuotedBody cs) : QuotedBody (c :: cs)
  | doubled {cs : List Char} (h : QuotedBody cs) : QuotedBody (quote :: quote :: cs)

def IsMark (t : List Char) : Prop := ∃ c, isPunctuationChar c = true ∧ t = [c]

def IsQuoted (t : List Char) : Prop := ∃ body, QuotedBody body ∧ t = quote :: (body ++ [quote])

/-- A quoted token whose closing mark is missing. -/
def IsUnterminated (t : List Char) : Prop := ∃ body, QuotedBody body ∧ t = quote :: body

def IsWord (t : List Char) : Prop :=
  ∃ c cs, isWordStart c = true ∧ (∀ d ∈ cs, isWordPart d = true) ∧ t = c :: cs

instance decidableQuotedBody : (cs : List Char) → Decidable (QuotedBody cs)
  | [] => isTrue .nil
  | [c] => decidable_of_iff (c ≠ quote) (by
      constructor
      · intro hc
        exact .char hc .nil
      · intro h
        cases h with
        | char hc => exact hc)
  | c :: d :: cs =>
    have := decidableQuotedBody cs
    have := decidableQuotedBody (d :: cs)
    decidable_of_iff (c ≠ quote ∧ QuotedBody (d :: cs) ∨ c = quote ∧ d = quote ∧ QuotedBody cs) (by
      constructor
      · rintro (⟨hc, h⟩ | ⟨rfl, rfl, h⟩)
        · exact .char hc h
        · exact .doubled h
      · intro h
        cases h with
        | char hc h => exact Or.inl ⟨hc, h⟩
        | doubled h => exact Or.inr ⟨rfl, rfl, h⟩)

instance (t : List Char) : Decidable (IsUnterminated t) :=
  match t with
  | [] => isFalse (by rintro ⟨body, -, h⟩; cases h)
  | c :: cs => decidable_of_iff (c = quote ∧ QuotedBody cs) (by
      simp only [IsUnterminated, List.cons.injEq]
      constructor
      · rintro ⟨hc, h⟩
        exact ⟨cs, h, hc, rfl⟩
      · rintro ⟨_, h, hc, rfl⟩
        exact ⟨hc, h⟩)

instance (t : List Char) : Decidable (IsMark t) :=
  match t with
  | [] => isFalse (by rintro ⟨c, -, h⟩; cases h)
  | [c] => decidable_of_iff (isPunctuationChar c = true) (by simp [IsMark])
  | _ :: _ :: _ => isFalse (by rintro ⟨c, -, h⟩; cases h)

instance (t : List Char) : Decidable (IsWord t) :=
  match t with
  | [] => isFalse (by rintro ⟨c, cs, -, -, h⟩; cases h)
  | c :: cs => decidable_of_iff (isWordStart c = true ∧ cs.all isWordPart = true)
      (by simp [IsWord])

/-- A token that does not run to the end of the text. -/
def IsClosed (t : List Char) : Prop := IsMark t ∨ IsQuoted t ∨ IsWord t

def Blanks (w : List Char) : Prop := ∀ c ∈ w, isBlank c = true

/-- Nothing need stand between the two tokens. -/
def MayTouch (t u : List Char) : Prop := IsMark t ∨ IsMark u ∨ IsQuoted t ∧ IsWord u

/-- A text that begins with its first token. -/
inductive Laid : List (List Char) → List Char → Prop
  | none : Laid [] []
  | unterminated {t : List Char} (ht : IsUnterminated t) : Laid [t] t
  | last {t w : List Char} (ht : IsClosed t) (hw : Blanks w) : Laid [t] (t ++ w)
  | cons {t u w cs : List Char} {ts : List (List Char)} (ht : IsClosed t) (hw : Blanks w)
      (hs : w ≠ [] ∨ MayTouch t u) (h : Laid (u :: ts) cs) : Laid (t :: u :: ts) (t ++ (w ++ cs))

/-- The text consists of the tokens, in order, and of blanks around and between them. -/
def Layout (ts : List (List Char)) (cs : List Char) : Prop :=
  ∃ w body, Blanks w ∧ cs = w ++ body ∧ Laid ts body

/-! ## Characters -/

theorem isWordStart_iff (c : Char) : isWordStart c = true ↔
    isBlank c = false ∧ isPunctuationChar c = false ∧ c ≠ quote := by
  simp [isWordStart, and_assoc]

theorem isWordPart_eq_false_iff (c : Char) : isWordPart c = false ↔
    isBlank c = true ∨ isPunctuationChar c = true := by
  cases hb : isBlank c <;> cases hp : isPunctuationChar c <;> simp [isWordPart, hb, hp]

theorem quote_not_blank : isBlank quote = false := by
  decide

theorem mark_not_blank {c : Char} (hc : isPunctuationChar c = true) : isBlank c = false := by
  simp only [isPunctuationChar, Bool.or_eq_true, beq_iff_eq] at hc
  rcases hc with (rfl | rfl) | rfl <;> decide

theorem mark_ne_quote {c : Char} (hc : isPunctuationChar c = true) : c ≠ quote := by
  rintro rfl
  exact absurd hc (by decide)

theorem blank_ne_quote {c : Char} (hc : isBlank c = true) : c ≠ quote := by
  rintro rfl
  exact absurd hc (by decide)

/-! ## Quoted tokens -/

theorem splitQuoted_char {c : Char} (hc : c ≠ quote) (cs : List Char) :
    splitQuoted (c :: cs) = (c :: (splitQuoted cs).1, (splitQuoted cs).2) := by
  rw [splitQuoted.eq_def]
  simp [hc]

theorem splitQuoted_doubled (cs : List Char) : splitQuoted (quote :: quote :: cs) =
    (quote :: quote :: (splitQuoted cs).1, (splitQuoted cs).2) := by
  rw [splitQuoted.eq_def]
  simp

theorem splitQuoted_mark {rest : List Char} (hr : ∀ c ∈ rest.head?, c ≠ quote) :
    splitQuoted (quote :: rest) = ([quote], rest) := by
  cases rest with
  | nil => simp [splitQuoted]
  | cons c rest => simp [splitQuoted, hr c rfl]

theorem splitQuoted_of_body {body rest : List Char} (h : QuotedBody body)
    (hr : ∀ c ∈ rest.head?, c ≠ quote) :
    splitQuoted (body ++ quote :: rest) = (body ++ [quote], rest) := by
  induction h with
  | nil => exact splitQuoted_mark hr
  | char hc h ih => rw [List.cons_append, splitQuoted_char hc, ih, List.cons_append]
  | doubled h ih => simp only [List.cons_append, splitQuoted_doubled, ih]

theorem splitQuoted_unterminated {body : List Char} (h : QuotedBody body) :
    splitQuoted body = (body, []) := by
  induction h with
  | nil => rfl
  | char hc h ih => rw [splitQuoted_char hc, ih]
  | doubled h ih => rw [splitQuoted_doubled, ih]

/-- What is split off ends with the closing mark, or nothing is left. -/
theorem splitQuoted_cases (cs : List Char) :
    ∃ body, QuotedBody body ∧ (splitQuoted cs = (body, []) ∨
      ∃ rest, splitQuoted cs = (body ++ [quote], rest) ∧ ∀ c ∈ rest.head?, c ≠ quote) := by
  fun_induction splitQuoted cs with
  | case1 => exact ⟨[], .nil, Or.inl rfl⟩
  | case2 cs ih =>
    obtain ⟨body, hb, h | ⟨rest, h, hr⟩⟩ := ih
    · exact ⟨_, .doubled hb, Or.inl (by rw [h])⟩
    · exact ⟨_, .doubled hb, Or.inr ⟨rest, by rw [h]; rfl, hr⟩⟩
  | case3 d rest hd => exact ⟨[], .nil, Or.inr ⟨d :: rest, rfl, by simpa using hd⟩⟩
  | case4 => exact ⟨[], .nil, Or.inr ⟨[], rfl, by simp⟩⟩
  | case5 c cs hc ih =>
    obtain ⟨body, hb, h | ⟨rest, h, hr⟩⟩ := ih
    · exact ⟨_, .char hc hb, Or.inl (by rw [h])⟩
    · exact ⟨_, .char hc hb, Or.inr ⟨rest, by rw [h]; rfl, hr⟩⟩

/-! ## One token at a time -/

theorem split_eq_nil {cs : List Char} (h : cs.dropWhile isBlank = []) : split cs = [] := by
  rw [split]
  split
  · rfl
  · next h' => simp [h] at h'

theorem split_eq_cons {c : Char} {cs rest : List Char} (h : cs.dropWhile isBlank = c :: rest) :
    split cs = if c = quote then (c :: (splitQuoted rest).1) :: split (splitQuoted rest).2
      else if isPunctuationChar c then [c] :: split rest
      else (c :: rest.takeWhile isWordPart) :: split (rest.dropWhile isWordPart) := by
  rw [split]
  split
  · next h' => simp [h] at h'
  · next h' =>
    rw [h] at h'
    cases h'
    rfl

theorem split_quote (rest : List Char) :
    split (quote :: rest) = (quote :: (splitQuoted rest).1) :: split (splitQuoted rest).2 := by
  rw [split_eq_cons (List.dropWhile_cons_of_neg (by simp [quote_not_blank])), if_pos rfl]

theorem split_mark {c : Char} (hc : isPunctuationChar c = true) (rest : List Char) :
    split (c :: rest) = [c] :: split rest := by
  rw [split_eq_cons (List.dropWhile_cons_of_neg (by simp [mark_not_blank hc])),
    if_neg (mark_ne_quote hc), if_pos hc]

theorem split_word {c : Char} (hc : isWordStart c = true) (rest : List Char) :
    split (c :: rest) =
      (c :: rest.takeWhile isWordPart) :: split (rest.dropWhile isWordPart) := by
  rw [isWordStart_iff] at hc
  rw [split_eq_cons (List.dropWhile_cons_of_neg (by simp [hc.1])), if_neg hc.2.2,
    if_neg (by simp [hc.2.1])]

theorem split_blanks_append {w : List Char} (hw : Blanks w) (cs : List Char) :
    split (w ++ cs) = split cs := by
  have h : (w ++ cs).dropWhile isBlank = cs.dropWhile isBlank := List.dropWhile_append_of_pos hw
  cases hc : cs.dropWhile isBlank with
  | nil => rw [split_eq_nil hc, split_eq_nil (h.trans hc)]
  | cons c rest => rw [split_eq_cons hc, split_eq_cons (h.trans hc)]

theorem split_blanks {w : List Char} (hw : Blanks w) : split w = [] := by
  have h := split_blanks_append hw []
  rw [List.append_nil] at h
  rw [h, split_eq_nil rfl]

/-! ## From a layout to its tokens -/

/-- What follows a quoted token or a word is no part of it. -/
def Stops (t rest : List Char) : Prop :=
  (IsQuoted t → ∀ c ∈ rest.head?, c ≠ quote) ∧
    (IsWord t → ∀ c ∈ rest.head?, isWordPart c = false)

theorem split_unterminated {t : List Char} (ht : IsUnterminated t) : split t = [t] := by
  obtain ⟨body, hb, rfl⟩ := ht
  rw [split_quote, splitQuoted_unterminated hb, split_eq_nil rfl]

/-- A closed token is read as it stands. -/
theorem split_append {t rest : List Char} (ht : IsClosed t) (hs : Stops t rest) :
    split (t ++ rest) = t :: split rest := by
  rcases ht with ⟨c, hc, rfl⟩ | hq | hw
  · exact split_mark hc rest
  · have hr := hs.1 hq
    obtain ⟨body, hb, rfl⟩ := hq
    rw [List.cons_append, split_quote, List.append_assoc, List.singleton_append,
      splitQuoted_of_body hb hr]
  · have hr := hs.2 hw
    obtain ⟨c, cs, hc, hp, rfl⟩ := hw
    have he : rest.takeWhile isWordPart = [] ∧ rest.dropWhile isWordPart = rest := by
      cases rest with
      | nil => exact ⟨rfl, rfl⟩
      | cons d rest => simp [hr d rfl]
    rw [List.cons_append, split_word hc, List.takeWhile_append_of_pos hp,
      List.dropWhile_append_of_pos hp, he.1, he.2, List.append_nil]

theorem IsQuoted.not_word {t : List Char} (h : IsQuoted t) : ¬ IsWord t := by
  rintro ⟨c, cs, hc, -, ht⟩
  obtain ⟨body, -, rfl⟩ := h
  cases ht
  exact ((isWordStart_iff quote).mp hc).2.2 rfl

theorem Blanks.stops {w : List Char} (hw : Blanks w) (hn : w ≠ []) (t rest : List Char) :
    Stops t (w ++ rest) := by
  cases w with
  | nil => exact absurd rfl hn
  | cons c w =>
    have hc : isBlank c = true := hw c (by simp)
    constructor
    · intro _ d hd
      cases hd
      exact blank_ne_quote hc
    · intro _ d hd
      cases hd
      exact (isWordPart_eq_false_iff c).mpr (Or.inl hc)

theorem Laid.first {t cs : List Char} {ts : List (List Char)} (h : Laid (t :: ts) cs) :
    ∃ rest, cs = t ++ rest := by
  cases h with
  | unterminated => exact ⟨[], by simp⟩
  | last => exact ⟨_, rfl⟩
  | cons => exact ⟨_, rfl⟩

theorem IsMark.stops {t : List Char} (h : IsMark t) (rest : List Char) : Stops t rest := by
  obtain ⟨c, hc, rfl⟩ := h
  constructor
  · rintro ⟨body, -, ht⟩
    exact absurd (List.cons.inj ht).1 (mark_ne_quote hc)
  · rintro ⟨d, cs, hd, -, ht⟩
    cases ht
    simp [isWordStart, hc] at hd

theorem MayTouch.stops {t u : List Char} (h : MayTouch t u) (rest : List Char) :
    Stops t (u ++ rest) := by
  rcases h with ht | ⟨c, hc, rfl⟩ | ⟨ht, c, cs, hc, -, rfl⟩
  · exact ht.stops _
  · constructor
    · intro _ d hd
      cases hd
      exact mark_ne_quote hc
    · intro _ d hd
      cases hd
      exact (isWordPart_eq_false_iff c).mpr (Or.inr hc)
  · constructor
    · intro _ d hd
      cases hd
      exact ((isWordStart_iff c).mp hc).2.2
    · intro hw
      exact absurd hw ht.not_word

/-- A token does not go on into the laid text behind it, whatever comes then. -/
theorem Laid.stops {t u w cs : List Char} {ts : List (List Char)} (h : Laid (u :: ts) cs)
    (hw : Blanks w) (hs : w ≠ [] ∨ MayTouch t u) (rest : List Char) :
    Stops t (w ++ (cs ++ rest)) := by
  by_cases hn : w = []
  · obtain ⟨cs', rfl⟩ := h.first
    subst hn
    simpa using (hs.resolve_left (by simp)).stops (cs' ++ rest)
  · exact hw.stops hn t (cs ++ rest)

theorem Laid.split_eq {ts : List (List Char)} {cs : List Char} (h : Laid ts cs) :
    split cs = ts := by
  induction h with
  | none => exact split_eq_nil rfl
  | unterminated ht => exact split_unterminated ht
  | @last t w ht hw =>
    rw [split_append ht, split_blanks hw]
    by_cases hn : w = []
    · subst hn
      exact ⟨by simp, by simp⟩
    · simpa using hw.stops hn t []
  | @cons t u w cs ts ht hw hs h ih =>
    rw [split_append ht, split_blanks_append hw, ih]
    simpa using h.stops hw hs []

/-- Behind a blank a text is cut on its own, unless a quoted token runs on into it. -/
theorem Laid.split_append_blank {ts : List (List Char)} {cs : List Char} (h : Laid ts cs)
    (hl : ∀ t ∈ ts.getLast?, ¬ IsUnterminated t) {c : Char} (hc : isBlank c = true)
    (rest : List Char) : split (cs ++ c :: rest) = ts ++ split rest := by
  have hb : Blanks [c] := by simpa [Blanks] using hc
  induction h with
  | none => exact split_blanks_append hb rest
  | unterminated ht => exact absurd ht (hl _ rfl)
  | @last t w ht hw =>
    have hwc : Blanks (w ++ [c]) := List.forall_mem_append.mpr ⟨hw, hb⟩
    have he : t ++ w ++ c :: rest = t ++ (w ++ [c] ++ rest) := by simp
    rw [he, split_append ht (hwc.stops (by simp) t rest), split_blanks_append hwc]
    rfl
  | @cons t u w cs ts ht hw hs h ih =>
    have he : t ++ (w ++ cs) ++ c :: rest = t ++ (w ++ (cs ++ c :: rest)) := by simp
    rw [he, split_append ht (h.stops hw hs _), split_blanks_append hw, ih (by simpa using hl)]
    rfl

/-! ## From a text to the layout of its tokens -/

/-- The first character tells the kind of the first token. -/
theorem Laid.head {u cs : List Char} {ts : List (List Char)} (h : Laid (u :: ts) cs) :
    ∃ c rest, cs = c :: rest ∧ (isPunctuationChar c = true ∧ IsMark u ∨ c = quote ∨
      isWordStart c = true ∧ IsWord u) := by
  have hk : IsClosed u ∨ IsUnterminated u := by
    cases h with
    | unterminated ht => exact Or.inr ht
    | last ht => exact Or.inl ht
    | cons ht => exact Or.inl ht
  obtain ⟨rest, rfl⟩ := h.first
  rcases hk with (⟨c, hc, rfl⟩ | ⟨body, -, rfl⟩ | hw) | ⟨body, -, rfl⟩
  · exact ⟨c, rest, rfl, Or.inl ⟨hc, c, hc, rfl⟩⟩
  · exact ⟨quote, _, rfl, Or.inr (Or.inl rfl)⟩
  · obtain ⟨c, cs, hc, hp, rfl⟩ := hw
    exact ⟨c, _, rfl, Or.inr (Or.inr ⟨hc, c, cs, hc, hp, rfl⟩)⟩
  · exact ⟨quote, _, rfl, Or.inr (Or.inl rfl)⟩

theorem mayTouch_of_stops {t u cs : List Char} {ts : List (List Char)} (ht : IsClosed t)
    (hs : Stops t cs) (h : Laid (u :: ts) cs) : MayTouch t u := by
  obtain ⟨c, rest, rfl, hc⟩ := h.head
  rcases ht with hm | hq | hw
  · exact Or.inl hm
  · have hn := hs.1 hq c rfl
    rcases hc with ⟨-, hu⟩ | rfl | ⟨-, hu⟩
    · exact Or.inr (Or.inl hu)
    · exact absurd rfl hn
    · exact Or.inr (Or.inr ⟨hq, hu⟩)
  · have hn := (isWordPart_eq_false_iff c).mp (hs.2 hw c rfl)
    rcases hc with ⟨-, hu⟩ | rfl | ⟨hc, -⟩
    · exact Or.inr (Or.inl hu)
    · exact absurd hn (by decide)
    · simp [isWordStart] at hc
      simp [hc] at hn

/-- A token may stand before a text that does not continue it. -/
theorem Layout.cons {t rest : List Char} {ts : List (List Char)} (ht : IsClosed t)
    (hs : Stops t rest) (h : Layout ts rest) : Laid (t :: ts) (t ++ rest) := by
  obtain ⟨w, body, hw, rfl, hl⟩ := h
  cases ts with
  | nil =>
    cases hl with
    | none =>
      rw [List.append_nil]
      exact .last ht hw
  | cons u ts =>
    refine .cons ht hw ?_ hl
    by_cases hn : w = []
    · subst hn
      exact Or.inr (mayTouch_of_stops ht hs hl)
    · exact Or.inl hn

/-- One token is split off a text that begins with it. -/
theorem laid_split {c : Char} {rest : List Char} (hb : isBlank c = false)
    (ih : ∀ cs : List Char, cs.length ≤ rest.length → Layout (split cs) cs) :
    Laid (split (c :: rest)) (c :: rest) := by
  by_cases hq : c = quote
  · subst hq
    rw [split_quote]
    have happ := splitQuoted_append rest
    have hlen := length_splitQuoted_le rest
    obtain ⟨body, hbody, h | ⟨rest', h, hr⟩⟩ := splitQuoted_cases rest
    · rw [h, List.append_nil] at happ
      rw [h, split_eq_nil rfl, ← happ]
      exact .unterminated ⟨body, hbody, rfl⟩
    · rw [h] at happ hlen
      rw [h, ← happ]
      refine Layout.cons (Or.inr (Or.inl ⟨body, hbody, rfl⟩)) ⟨fun _ => hr, ?_⟩ (ih rest' hlen)
      intro hw
      exact absurd hw (IsQuoted.not_word ⟨body, hbody, rfl⟩)
  · by_cases hm : isPunctuationChar c = true
    · rw [split_mark hm]
      have hmark : IsMark [c] := ⟨c, hm, rfl⟩
      exact Layout.cons (Or.inl hmark) (hmark.stops rest) (ih rest (Nat.le_refl _))
    · have hc : isWordStart c = true := (isWordStart_iff c).mpr ⟨hb, by simpa using hm, hq⟩
      have happ : rest.takeWhile isWordPart ++ rest.dropWhile isWordPart = rest :=
        List.takeWhile_append_dropWhile
      have hw : IsWord (c :: rest.takeWhile isWordPart) :=
        ⟨c, _, hc, fun _ hd => List.all_eq_true.mp List.all_takeWhile _ hd, rfl⟩
      have hl := Layout.cons (Or.inr (Or.inr hw)) ⟨fun h => absurd hw h.not_word, fun _ => ?_⟩
        (ih _ (length_dropWhile_le isWordPart rest))
      · rw [List.cons_append, happ] at hl
        rwa [split_word hc]
      · intro d hd
        have hn := List.head?_dropWhile_not isWordPart rest
        rw [hd] at hn
        simpa using hn

/-- The tokens of a text lay it out. The rest behind a token is shorter than the text. -/
theorem layout_split (cs : List Char) : Layout (split cs) cs := by
  induction hl : cs.length using Nat.strongRecOn generalizing cs with
  | ind n ih =>
    have hw : Blanks (cs.takeWhile isBlank) :=
      fun _ hc => List.all_eq_true.mp List.all_takeWhile _ hc
    have happ : cs.takeWhile isBlank ++ cs.dropWhile isBlank = cs :=
      List.takeWhile_append_dropWhile
    have hsplit := split_blanks_append hw (cs.dropWhile isBlank)
    rw [happ] at hsplit
    have hlen := length_dropWhile_le isBlank cs
    have hn := List.head?_dropWhile_not isBlank cs
    refine ⟨cs.takeWhile isBlank, cs.dropWhile isBlank, hw, happ.symm, ?_⟩
    rw [hsplit]
    cases hd : cs.dropWhile isBlank with
    | nil =>
      rw [split_eq_nil rfl]
      exact .none
    | cons c rest =>
      rw [hd] at hn hlen
      rw [List.length_cons] at hlen
      exact laid_split (by simpa using hn) fun cs' h => ih _ (by omega) cs' rfl

theorem split_eq_iff_layout (cs : List Char) (ts : List (List Char)) :
    split cs = ts ↔ Layout ts cs := by
  constructor
  · rintro rfl
    exact layout_split cs
  · rintro ⟨w, body, hw, rfl, h⟩
    rw [split_blanks_append hw, h.split_eq]

theorem tokenize_append_blank {text : String}
    (hl : ∀ t ∈ (tokenize text).getLast?, ¬ IsUnterminated t.toList) (more : String) :
    tokenize (text ++ " " ++ more) = tokenize text ++ tokenize more := by
  obtain ⟨w, body, hw, hb, h⟩ := layout_split text.toList
  have hl' : ∀ t ∈ (split text.toList).getLast?, ¬ IsUnterminated t := by
    intro t ht
    have hm : String.ofList t ∈ (tokenize text).getLast? := by
      rw [tokenize, List.getLast?_map, Option.mem_def.mp ht]
      rfl
    simpa using hl _ hm
  have hs := h.split_append_blank hl' (c := ' ') (by decide) more.toList
  simp only [tokenize, String.toList_append, ← List.map_append]
  rw [← hs, hb, List.append_assoc, List.append_assoc, split_blanks_append hw]
  rfl

/-! ## Nothing is lost -/

/-- The characters that are not blank, in order. -/
def visible (cs : List Char) : List Char := cs.filter fun c => !isBlank c

theorem Blanks.visible_eq {w : List Char} (hw : Blanks w) : visible w = [] := by
  simpa [visible, Blanks] using hw

theorem visible_append (cs ds : List Char) : visible (cs ++ ds) = visible cs ++ visible ds :=
  List.filter_append ..

theorem Laid.visible_eq {ts : List (List Char)} {cs : List Char} (h : Laid ts cs) :
    visible cs = ts.flatMap visible := by
  induction h with
  | none => rfl
  | unterminated ht => simp
  | last ht hw => simp [visible_append, hw.visible_eq]
  | cons ht hw hs h ih => simp [visible_append, hw.visible_eq, ih]

theorem Layout.visible_eq {ts : List (List Char)} {cs : List Char} (h : Layout ts cs) :
    visible cs = ts.flatMap visible := by
  obtain ⟨w, body, hw, rfl, hl⟩ := h
  rw [visible_append, hw.visible_eq, List.nil_append, hl.visible_eq]

/-- The tokens of a text are exactly those that the text is a layout of, and every character
that is not blank stands in one of them, in its place. -/
theorem tokenize_eq_iff_layout (text : String) (ts : List String) :
    (tokenize text = ts ↔ Layout (ts.map String.toList) text.toList) ∧
      visible text.toList = (tokenize text).flatMap fun t => visible t.toList := by
  have hmap : (tokenize text).map String.toList = split text.toList := by
    simp [tokenize, Function.comp_def]
  constructor
  · rw [← split_eq_iff_layout, ← hmap]
    exact (List.map_inj_right fun _ _ => String.toList_inj.mp).symm
  · have h := (layout_split text.toList).visible_eq
    rw [← hmap] at h
    simpa [List.flatMap_map] using h

end SlangSql.Token
