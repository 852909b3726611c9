/-!
# ASCII characters

Names of tables, columns and types are compared without regard to the case of
ASCII letters; all other characters are compared as they are. Beside this stand
the blanks and the hexadecimal digits of ASCII.
-/

set_option autoImplicit false

namespace SlangSql.Text

def lowerAscii (s : String) : String := String.ofList (s.toList.map Char.toLower)

def sameName (a b : String) : Bool := lowerAscii a == lowerAscii b

/-- `needle` stands somewhere in `hay`. -/
def occursIn (needle : List Char) : List Char → Bool
  | [] => needle.isEmpty
  | c :: cs => needle.isPrefixOf (c :: cs) || occursIn needle cs

/-- The six blanks of ASCII. -/
def isAsciiBlank (c : Char) : Bool :=
  c == ' ' || (decide (0x9 ≤ c.toNat) && decide (c.toNat ≤ 0xd))

/-- The value of a hexadecimal digit. -/
def hexValue? (c : Char) : Option Nat :=
  if c.isDigit then some (c.toNat - '0'.toNat)
  else if 'a' ≤ c ∧ c ≤ 'f' then some (c.toNat - 'a'.toNat + 10)
  else if 'A' ≤ c ∧ c ≤ 'F' then some (c.toNat - 'A'.toNat + 10)
  else none

end SlangSql.Text
