/-!
# Decimal numerals

A numeral is a row of digits with an optional point and an optional exponent.
Its value is `digits * 10 ^ exponent`. Whole numerals, which have neither point
nor exponent, are told apart from the others.
-/

set_option autoImplicit false

namespace SlangSql.Number

structure Decimal where
  digits : Nat
  exponent : Int
  deriving DecidableEq, Repr

/-- A numeral without its sign. -/
inductive Numeral where
  | whole (n : Nat)
  | fraction (d : Decimal)
  deriving DecidableEq, Repr

def digitValue (c : Char) : Nat := c.toNat - '0'.toNat

/-- The number that a row of digits denotes. -/
def digitsValue (cs : List Char) : Nat := cs.foldl (fun n c => 10 * n + digitValue c) 0

/-- The digits of a number, at least one. -/
def digitChars (n : Nat) : List Char := Nat.toDigits 10 n

/-- The number of decimal digits; zero has none. -/
def digitCount (n : Nat) : Nat := if n = 0 then 0 else (digitChars n).length

/-- An exponent after its mark: an optional sign and at least one digit. -/
def readExponent (cs : List Char) : Option Int :=
  match cs with
  | '-' :: ds => if ds.isEmpty || !ds.all Char.isDigit then none else some (-(digitsValue ds : Int))
  | '+' :: ds => if ds.isEmpty || !ds.all Char.isDigit then none else some (digitsValue ds)
  | ds => if ds.isEmpty || !ds.all Char.isDigit then none else some (digitsValue ds)

/-- Reads a complete unsigned numeral. -/
def readNumeral (cs : List Char) : Option Numeral :=
  let whole := cs.takeWhile Char.isDigit
  let rest := cs.dropWhile Char.isDigit
  let point := rest.head? == some '.'
  let frac := if point then rest.tail.takeWhile Char.isDigit else []
  let tail := if point then rest.tail.dropWhile Char.isDigit else rest
  if whole.isEmpty && frac.isEmpty then none
  else
    let digits := digitsValue (whole ++ frac)
    match tail with
    | [] => some (if point then .fraction ⟨digits, -(frac.length : Int)⟩ else .whole digits)
    | c :: ds =>
      if c = 'e' ∨ c = 'E' then
        (readExponent ds).map fun e => .fraction ⟨digits, e - frac.length⟩
      else none

/-- Splits off a sign; the first component says whether the number is negative. -/
def splitSign : List Char → Bool × List Char
  | '-' :: cs => (true, cs)
  | '+' :: cs => (false, cs)
  | cs => (false, cs)

end SlangSql.Number
