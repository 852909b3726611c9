import SlangSql.Connection.DirectionTables
import SlangSql.Text.Extending

/-!
# Direction and joining in names

A name with letters that run from right to left has rules for all its labels: each
begins with a letter, ends with a letter or a digit, and does not mix directions.
The two invisible joiners may stand only where they change how letters look.
-/

set_option autoImplicit false

namespace SlangSql.Connection

open SlangSql.Text (inRanges isExtending)

inductive Direction where
  | rightward
  | leftward
  | commonNumber
  | arabicNumber
  | neutral
  /-- A mark that takes the direction of what it stands on. -/
  | mark
  deriving DecidableEq, Repr

def nonJoiner : Char := '\u200c'
def joiner : Char := '\u200d'

def Direction.ofChar (c : Char) : Direction :=
  if c = nonJoiner ∨ c = joiner then .neutral
  else if isExtending c then .mark
  else if inRanges leftwardRanges c.toNat then .leftward
  else if inRanges arabicNumberRanges c.toNat then .arabicNumber
  else if inRanges commonNumberRanges c.toNat then .commonNumber
  else if inRanges neutralRanges c.toNat then .neutral
  else .rightward

/-- The name runs from right to left in one of its parts. -/
def runsLeftward (cs : List Char) : Bool :=
  cs.any fun c => Direction.ofChar c = .leftward || Direction.ofChar c = .arabicNumber

/-- The last direction that is not that of a mark. -/
def lastDirection? (ds : List Direction) : Option Direction :=
  (ds.reverse.dropWhile (· = .mark)).head?

/-- The rules for a label in a name that runs leftward. -/
def keepsDirection (label : List Char) : Bool :=
  let ds := label.map Direction.ofChar
  let last := lastDirection? ds
  match ds.head? with
  | none => true
  | some .leftward =>
    !ds.contains .rightward && !(ds.contains .commonNumber && ds.contains .arabicNumber) &&
      (last = some .leftward || last = some .commonNumber || last = some .arabicNumber)
  | some .rightward =>
    !ds.contains .leftward && !ds.contains .arabicNumber &&
      (last = some .rightward || last = some .commonNumber)
  | some _ => false

def isVirama (c : Char) : Bool := inRanges viramaRanges c.toNat

/-- The two letters around a joiner connect with each other; `before` begins with the nearest
character. -/
def connects (before after : List Char) : Bool :=
  ((before.dropWhile isExtending).head?.any fun c => inRanges joinsNextRanges c.toNat) &&
    ((after.dropWhile isExtending).head?.any fun c => inRanges joinsLastRanges c.toNat)

/-- Every joiner stands where it may; `before` holds the characters in front, nearest first. -/
def keepsJoiners (before : List Char) : List Char → Bool
  | [] => true
  | c :: rest =>
    (if c = nonJoiner then before.head?.any isVirama || connects before rest
     else if c = joiner then before.head?.any isVirama
     else true) && keepsJoiners (c :: before) rest

end SlangSql.Connection
