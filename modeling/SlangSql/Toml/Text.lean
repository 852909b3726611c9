import SlangSql.Text.Ascii
import SlangSql.Toml.Value

/-!
# TOML texts and keys

Four kinds of text: between double quote marks with escapes, between single
quote marks without, and both again over several lines between tripled marks.
A key is a bare word or a text on one line, and keys can be joined by points.
-/

set_option autoImplicit false

namespace SlangSql.Toml

open SlangSql.Text (hexValue?)

def mark : Char := '"'
def tick : Char := '\x27'

/-- The number that hexadecimal digits denote. -/
def hexNumber? (cs : List Char) : Option Nat :=
  cs.foldl (fun acc c => do return 16 * (← acc) + (← hexValue? c)) (some 0)

/-- The character with a given code, if there is one. -/
def charOfCode? (n : Nat) : Option Char :=
  if n.isValidChar then some (Char.ofNat n) else none

/-- A character given by its code in `width` hexadecimal digits. -/
def codeEscape (width : Nat) (cs : List Char) : Option (Char × List Char) :=
  if cs.length < width then none
  else do
    let c ← charOfCode? (← hexNumber? (cs.take width))
    return (c, cs.drop width)

/-- The character that an escape stands for, after the backslash. -/
def escape : Reader Char
  | 'b' :: rest => some ('\x08', rest)
  | 't' :: rest => some ('\t', rest)
  | 'n' :: rest => some ('\n', rest)
  | 'f' :: rest => some ('\x0c', rest)
  | 'r' :: rest => some ('\r', rest)
  | '"' :: rest => some ('"', rest)
  | '\\' :: rest => some ('\\', rest)
  | 'u' :: rest => codeEscape 4 rest
  | 'U' :: rest => codeEscape 8 rest
  | _ => none

def consFirst (c : Char) (r : List Char × List Char) : List Char × List Char := (c :: r.1, r.2)

/-- A text on one line after its opening double mark. -/
def basicBody (cs : List Char) : Option (List Char × List Char) :=
  match cs with
  | [] => none
  | c :: rest =>
    if c = mark then some ([], rest)
    else if c = '\\' then
      match escape rest with
      | none => none
      | some (d, rest') =>
        if rest'.length ≤ rest.length then (basicBody rest').map (consFirst d) else none
    else if isPlain c then (basicBody rest).map (consFirst c)
    else none
termination_by cs.length

/-- A text on one line after its opening single mark. -/
def literalBody : List Char → Option (List Char × List Char)
  | [] => none
  | c :: rest =>
    if c = tick then some ([], rest)
    else if isPlain c then (literalBody rest).map (consFirst c)
    else none

/-- Drops blanks and line breaks after a backslash at the end of a line. -/
def skipFold : List Char → List Char
  | '\r' :: '\n' :: rest => skipFold rest
  | c :: rest => if c = '\n' ∨ isGap c then skipFold rest else c :: rest
  | [] => []

theorem length_skipFold_le (cs : List Char) : (skipFold cs).length ≤ cs.length := by
  fun_induction skipFold cs <;> simp_all <;> omega

/-- The closing marks of a text over several lines: three, and up to two more that belong to the text. -/
def closing (m : Char) (cs : List Char) : Option (List Char × List Char) :=
  let n := (cs.takeWhile (· == m)).length
  if n < 3 then none
  else
    let extra := min (n - 3) 2
    some (List.replicate extra m, cs.drop (extra + 3))

/-- A text over several lines after its opening double marks. -/
def basicLines (cs : List Char) : Option (List Char × List Char) :=
  match closing mark cs with
  | some r => some r
  | none =>
    match cs with
    | [] => none
    | c :: rest =>
      if c = '\\' then
        match newline? (skipGap rest) with
        | some _ =>
          have := length_skipFold_le rest
          basicLines (skipFold rest)
        | none =>
          match escape rest with
          | none => none
          | some (d, rest') =>
            if rest'.length ≤ rest.length then (basicLines rest').map (consFirst d) else none
      else
        match newline? cs with
        | some rest' =>
          if rest'.length ≤ rest.length then (basicLines rest').map (consFirst '\n') else none
        | none => if isPlain c then (basicLines rest).map (consFirst c) else none
termination_by cs.length
decreasing_by all_goals (subst_vars; simp only [List.length_cons]; omega)

/-- A text over several lines after its opening single marks. -/
def literalLines (cs : List Char) : Option (List Char × List Char) :=
  match closing tick cs with
  | some r => some r
  | none =>
    match cs with
    | [] => none
    | c :: rest =>
      match newline? cs with
      | some rest' =>
        if rest'.length ≤ rest.length then (literalLines rest').map (consFirst '\n') else none
      | none => if isPlain c then (literalLines rest).map (consFirst c) else none
termination_by cs.length
decreasing_by all_goals (simp only [List.length_cons]; omega)

def asText (r : List Char × List Char) : String × List Char := (String.ofList r.1, r.2)

/-- A line break right after the opening marks does not count. -/
def skipFirstBreak (cs : List Char) : List Char := (newline? cs).getD cs

/-- A text on one line. -/
def lineText : Reader String
  | '"' :: rest => (basicBody rest).map asText
  | '\x27' :: rest => (literalBody rest).map asText
  | _ => none

/-- A text of any kind. -/
def anyText : Reader String
  | '"' :: '"' :: '"' :: rest => (basicLines (skipFirstBreak rest)).map asText
  | '\x27' :: '\x27' :: '\x27' :: rest => (literalLines (skipFirstBreak rest)).map asText
  | cs => lineText cs

def isBareKeyChar (c : Char) : Bool := c.isAlphanum || c == '_' || c == '-'

/-- One part of a key. -/
def simpleKey (cs : List Char) : Option (String × List Char) :=
  match lineText cs with
  | some r => some r
  | none =>
    let word := cs.takeWhile isBareKeyChar
    if word.isEmpty then none else some (String.ofList word, cs.dropWhile isBareKeyChar)

/-- A key: its parts, joined by points, with blanks around them. -/
def keyParts (cs : List Char) : Option (List String × List Char) :=
  match simpleKey (skipGap cs) with
  | none => none
  | some (part, rest) =>
    match skipGap rest with
    | '.' :: rest' =>
      if rest'.length < cs.length then (keyParts rest').map fun r => (part :: r.1, r.2) else none
    | rest' => some ([part], rest')
termination_by cs.length

/-- The most parts that a key can have, and the deepest nesting of values. -/
def nestingLimit : Nat := 79

/-- A key; it names a place that is not too deep. -/
def key (cs : List Char) : Option (List String × List Char) :=
  (keyParts cs).filter fun r => r.1.length ≤ nestingLimit

end SlangSql.Toml
