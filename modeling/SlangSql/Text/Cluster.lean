import SlangSql.Text.ClusterTables
import SlangSql.Text.Extending

/-!
# Clusters

A text falls into clusters, each of which a reader takes for one character. A mark
joins the letter before it, the letters of a Hangul syllable and of a conjunct stay
together, regional indicators go in pairs, and a joiner connects two pictographs.
-/

set_option autoImplicit false

namespace SlangSql.Text

/-- How a character behaves at the edges of clusters. -/
inductive EdgeKind where
  | carriageReturn
  | lineFeed
  | standalone
  | extending
  /-- An extending character that has no part in conjuncts. -/
  | nonJoiner
  | linker
  | joiner
  | spacingMark
  | prepend
  | regional
  | pictograph
  | consonant
  | hangulLead
  | hangulVowel
  | hangulTail
  /-- A syllable of a lead and a vowel. -/
  | hangulOpen
  /-- A syllable with a tail. -/
  | hangulClosed
  | other
  deriving DecidableEq, Repr

namespace EdgeKind

/-- The kinds of Hangul letters and syllables. -/
def ofHangul? (n : Nat) : Option EdgeKind :=
  if inRanges [(0x1100, 0x115f), (0xa960, 0xa97c)] n then some .hangulLead
  else if inRanges [(0x1160, 0x11a7), (0xd7b0, 0xd7c6), (0x16d63, 0x16d63), (0x16d67, 0x16d6a)] n then
    some .hangulVowel
  else if inRanges [(0x11a8, 0x11ff), (0xd7cb, 0xd7fb)] n then some .hangulTail
  else if inRanges [(0xac00, 0xd7a3)] n then
    some (if (n - 0xac00) % 28 = 0 then .hangulOpen else .hangulClosed)
  else none

/-- The kinds that tables give. -/
def ofTables (n : Nat) : EdgeKind :=
  if inRanges standaloneRanges n then .standalone
  else if inRanges linkerRanges n then .linker
  else if inRanges extendingRanges n || inRanges [(0x1f3fb, 0x1f3ff)] n then .extending
  else if inRanges spacingMarkRanges n then .spacingMark
  else if inRanges prependRanges n then .prepend
  else if inRanges [(0x1f1e6, 0x1f1ff)] n then .regional
  else if inRanges pictographRanges n then .pictograph
  else if inRanges consonantRanges n then .consonant
  else .other

def ofChar (c : Char) : EdgeKind :=
  if c = '\r' then .carriageReturn
  else if c = '\n' then .lineFeed
  else if c.toNat = 0x200c then .nonJoiner
  else if c.toNat = 0x200d then .joiner
  else (ofHangul? c.toNat).getD (ofTables c.toNat)

/-- Characters that end a cluster on both sides. -/
def isBreak (k : EdgeKind) : Bool := k = .carriageReturn || k = .lineFeed || k = .standalone

/-- Characters that extend any cluster. -/
def isExtension (k : EdgeKind) : Bool := k = .extending || k = .nonJoiner || k = .linker

/-- Two parts of one Hangul syllable. -/
def joinsHangul (last next : EdgeKind) : Bool :=
  match last with
  | .hangulLead =>
    next = .hangulLead || next = .hangulVowel || next = .hangulOpen || next = .hangulClosed
  | .hangulOpen | .hangulVowel => next = .hangulVowel || next = .hangulTail
  | .hangulClosed | .hangulTail => next = .hangulTail
  | _ => false

/-- A consonant after another one with a linker between them; the nearest kind comes first. -/
def joinsConjunct (before : List EdgeKind) (next : EdgeKind) : Bool :=
  let isInner (k : EdgeKind) := k = .extending || k = .linker || k = .joiner
  next = .consonant && (before.takeWhile isInner).contains .linker &&
    (before.dropWhile isInner).head? == some .consonant

/-- A pictograph after another one and a joiner. -/
def joinsPictograph (before : List EdgeKind) (next : EdgeKind) : Bool :=
  next = .pictograph && before.head? == some .joiner &&
    (before.tail.dropWhile isExtension).head? == some .pictograph

/-- The second regional indicator of a pair. -/
def joinsRegional (before : List EdgeKind) (next : EdgeKind) : Bool :=
  next = .regional && (before.takeWhile (· = .regional)).length % 2 == 1

/-- A character of the kind `next` goes on with a cluster, whose kinds are given from the last
to the first. -/
def joins (before : List EdgeKind) (next : EdgeKind) : Bool :=
  match before with
  | [] => false
  | last :: _ =>
    if last = .carriageReturn && next = .lineFeed then true
    else if last.isBreak || next.isBreak then false
    else
      next.isExtension || next = .joiner || next = .spacingMark || last = .prepend ||
        joinsHangul last next || joinsConjunct before next || joinsPictograph before next ||
        joinsRegional before next

end EdgeKind

/-- The clusters of a text, after a cluster that has been begun (from its last character to its
first). -/
def clustersAfter (begun : List Char) : List Char → List (List Char)
  | [] => if begun.isEmpty then [] else [begun.reverse]
  | c :: rest =>
    if begun.isEmpty || EdgeKind.joins (begun.map .ofChar) (.ofChar c) then
      clustersAfter (c :: begun) rest
    else begun.reverse :: clustersAfter [c] rest

def clusters (cs : List Char) : List (List Char) := clustersAfter [] cs

end SlangSql.Text
