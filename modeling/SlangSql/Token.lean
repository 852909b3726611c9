import SlangSql.Text.Blank

/-!
# Tokens of a statement

A statement text is cut at blanks. A comma and the two parentheses are tokens
of their own. A quote mark at the start of a token opens a quoted token, which
runs to its closing mark: a doubled mark stays inside, and without a closing
mark the token runs to the end of the text. A quote mark inside a word is an
ordinary character of the word.
-/

set_option autoImplicit false

namespace SlangSql.Token

open SlangSql.Text

def quote : Char := '\x27'

def isPunctuationChar (c : Char) : Bool := c == ',' || c == '(' || c == ')'

/-- Characters that can begin a word. -/
def isWordStart (c : Char) : Bool := !isBlank c && !isPunctuationChar c && c != quote

/-- Characters that can stand inside a word. -/
def isWordPart (c : Char) : Bool := !isBlank c && !isPunctuationChar c

/-- Splits the text after an opening quote mark into the rest of the quoted token and what follows. -/
def splitQuoted : List Char → List Char × List Char
  | [] => ([], [])
  | c :: rest =>
    if c = quote then
      match rest with
      | d :: rest' =>
        if d = quote then (c :: d :: (splitQuoted rest').1, (splitQuoted rest').2)
        else ([c], d :: rest')
      | [] => ([c], [])
    else (c :: (splitQuoted rest).1, (splitQuoted rest).2)

theorem splitQuoted_append (cs : List Char) :
    (splitQuoted cs).1 ++ (splitQuoted cs).2 = cs := by
  fun_induction splitQuoted cs <;> simp_all

theorem length_splitQuoted_le (cs : List Char) : (splitQuoted cs).2.length ≤ cs.length := by
  have h := congrArg List.length (splitQuoted_append cs)
  rw [List.length_append] at h
  omega

theorem length_dropWhile_le (p : Char → Bool) (cs : List Char) :
    (cs.dropWhile p).length ≤ cs.length :=
  (List.dropWhile_suffix p).length_le

/-- The tokens of a text, as character lists. -/
def split (cs : List Char) : List (List Char) :=
  match h : cs.dropWhile isBlank with
  | [] => []
  | c :: rest =>
    have : rest.length < cs.length := by
      have := length_dropWhile_le isBlank cs
      rw [h, List.length_cons] at this
      omega
    if c = quote then
      have := length_splitQuoted_le rest
      (c :: (splitQuoted rest).1) :: split (splitQuoted rest).2
    else if isPunctuationChar c then
      [c] :: split rest
    else
      have := length_dropWhile_le isWordPart rest
      (c :: rest.takeWhile isWordPart) :: split (rest.dropWhile isWordPart)
termination_by cs.length
decreasing_by all_goals omega

end SlangSql.Token

namespace SlangSql

/-- The tokens of a statement text, in order. -/
def tokenize (text : String) : List String :=
  (Token.split text.toList).map String.ofList

end SlangSql
