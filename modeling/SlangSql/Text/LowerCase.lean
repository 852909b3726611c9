import SlangSql.Text.CaseTables

/-!
# Lower-casing

Full lower-casing of a text. One capital becomes two characters, and a capital
sigma becomes the final form at the end of a word and the medial form
elsewhere. Every other character is mapped on its own.
-/

set_option autoImplicit false

namespace SlangSql.Text

def capitalSigma : Char := 'Σ'
def medialSigma : Char := 'σ'
def finalSigma : Char := 'ς'
def dottedCapitalI : Char := 'İ'

def isCased (c : Char) : Bool := inRanges casedRanges c.toNat

def isIgnorable (c : Char) : Bool := inRanges ignorableRanges c.toNat

/-- The lower-case partner of one character, or the character itself. -/
def lowerChar (c : Char) : Char :=
  match lowerRuns.find? (fun r => r.covers c.toNat) with
  | some r => Char.ofNat ((c.toNat : Int) + r.offset).toNat
  | none => c

/-- The first character that is not ignorable is a cased one. -/
def meetsCased (cs : List Char) : Bool :=
  match cs.dropWhile isIgnorable with
  | [] => false
  | c :: _ => isCased c

/-- The characters that stand for `c`, with `before` (nearest first) and `after` around it. -/
def lowerAt (before : List Char) (c : Char) (after : List Char) : List Char :=
  if c = capitalSigma then
    [if meetsCased before && !meetsCased after then finalSigma else medialSigma]
  else if c = dottedCapitalI then ['i', '\u0307']
  else [lowerChar c]

def lowerAfter (before : List Char) : List Char → List Char
  | [] => []
  | c :: rest => lowerAt before c rest ++ lowerAfter (c :: before) rest

def lowerChars (cs : List Char) : List Char := lowerAfter [] cs

/-- The form under which two spellings of a word are the same word. -/
def fold (s : String) : String := String.ofList (lowerChars s.toList)

end SlangSql.Text
