/-!
# TOML values

The values of a TOML document. The settings use texts, integers, arrays and
tables only, so numbers with a fraction and dates are kept as they are written.
-/

set_option autoImplicit false

namespace SlangSql.Toml

inductive Value where
  | text (s : String)
  | integer (n : Int)
  | float (written : String)
  | date (written : String)
  | boolean (b : Bool)
  | array (items : List Value)
  | table (entries : List (String × Value))
  deriving Repr

/-- A reader takes something off the front of a text, or refuses it. -/
abbrev Reader (α : Type) := List Char → Option (α × List Char)

def isGap (c : Char) : Bool := c == ' ' || c == '\t'

/-- Drops blanks within a line. -/
def skipGap (cs : List Char) : List Char := cs.dropWhile isGap

/-- A line break: a line feed, perhaps after a carriage return. -/
def newline? : List Char → Option (List Char)
  | '\n' :: rest => some rest
  | '\r' :: '\n' :: rest => some rest
  | _ => none

/-- Characters that may stand in a comment or between quote marks: no control character but the tab. -/
def isPlain (c : Char) : Bool :=
  c == '\t' || (decide (0x20 ≤ c.toNat) && c.toNat != 0x7f)

/-- Drops a comment up to the end of its line. -/
def skipComment (cs : List Char) : List Char :=
  match cs with
  | '#' :: rest => rest.dropWhile isPlain
  | _ => cs

end SlangSql.Toml
