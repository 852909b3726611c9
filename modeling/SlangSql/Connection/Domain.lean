import SlangSql.Connection.Direction
import SlangSql.Connection.DomainTables
import SlangSql.Connection.Punycode
import SlangSql.Text.ClusterTables
import SlangSql.Text.Hidden

/-!
# Domain names

A domain name consists of labels with points between them. Characters are brought
into one form before the name is looked at: capital letters become small ones, wide
and decorated letters and digits become plain, and a few invisible characters are
dropped. What other scripts write is kept as it is.
-/

set_option autoImplicit false

namespace SlangSql.Connection

open SlangSql.Text (inRanges isExtending)

/-- Characters of ASCII that a name cannot have. -/
def isDenied (c : Char) : Bool :=
  decide (c.toNat ≤ 0x20) || c.toNat == 0x7f ||
    ['%', '#', '/', ':', '<', '>', '?', '@', '[', '\\', ']', '^', '|'].contains c

/-- The run that a character belongs to, with its place in the run. -/
def inRun? (runs : List (Nat × Nat × Nat)) (n : Nat) : Option Nat :=
  (runs.find? fun r => decide (r.1 ≤ n) && decide (n ≤ r.2.1)).map fun r => r.2.2 + (n - r.1)

/-- The character of ASCII that another one stands for. -/
def asciiForm? (c : Char) : Option (List Char) :=
  match inRun? asciiRuns c.toNat with
  | some n => some [Char.ofNat n]
  | none => (inRun? numeralRuns c.toNat).map (Nat.toDigits 10)

/-- The form of a character in a name; nothing if a name cannot have it. -/
def nameForm (c : Char) : Option (List Char) :=
  if c.toNat < 0x80 then if isDenied c then none else some [c.toLower]
  else if inRanges droppedRanges c.toNat then some []
  else if c = nonJoiner ∨ c = joiner then some [c]
  else if Text.isHidden c || inRanges refusedRanges c.toNat then none
  else some ((asciiForm? c).getD [c])

/-- A mark, which goes with a letter in front of it. -/
def isMark (c : Char) : Bool :=
  isExtending c || inRanges Text.spacingMarkRanges c.toNat || inRanges looseMarkRanges c.toNat

/-- The character is its own form. -/
def isStable (c : Char) : Bool := nameForm c == some [c] && !inRanges unstableRanges c.toNat

def isAscii (c : Char) : Bool := decide (c.toNat < 0x80)

/-- What a label says: its characters, or those that it gives in ASCII. A label that is given
in ASCII has other characters, too, and has them in their own form. -/
def spelledOut (label : List Char) : Option (List Char) :=
  match label with
  | 'x' :: 'n' :: '-' :: '-' :: row =>
    if row.all isAscii then
      (Punycode.decode row).filter fun cs => cs.all isStable && !cs.all isAscii
    else none
  | _ => some label

/-- The rules for a label on its own. -/
def isSoundLabel (label : List Char) : Bool := !label.head?.any isMark && keepsJoiners [] label

def splitLabels (cs : List Char) : List (List Char) :=
  ((String.ofList cs).splitOn ".").map String.toList

/-- The form of a name, if it is one. -/
def domainName? (name : List Char) : Option (List Char) := do
  let cs := (← name.mapM nameForm).flatten
  let labels ← (splitLabels cs).mapM spelledOut
  if labels.all isSoundLabel && (!labels.any runsLeftward || labels.all keepsDirection) then
    some cs
  else none

end SlangSql.Connection
