import SlangSql.Store.Table

/-!
# Estimated sizes

Numbers of rows and the work of visiting them are estimated on a logarithmic
scale: ten times the binary logarithm, to three bits after the leading one. A
table is taken to have a million rows, and the width of a row follows from the
declared types.
-/

set_option autoImplicit false

namespace SlangSql.Store

/-- Ten times the binary logarithm of a number. -/
abbrev Estimate := Int

namespace Estimate

/-- What the three bits after the leading one add. -/
def fractions : List Nat := [0, 2, 3, 5, 6, 7, 8, 9]

def ofNat (n : Nat) : Estimate :=
  if n < 2 then 0 else (10 * n.log2 + fractions.getD (n * 8 / Nat.pow 2 n.log2 % 8) 0 : Nat)

/-- Up to each difference, what the smaller of two summands adds to the larger one. -/
def gains : List (Int × Int) :=
  [(1, 10), (3, 9), (5, 8), (8, 7), (11, 6), (14, 5), (18, 4), (24, 3), (31, 2), (49, 1)]

/-- The estimate of a sum. -/
def sum (a b : Estimate) : Estimate :=
  let difference := max a b - min a b
  max a b + ((gains.find? fun g => decide (difference ≤ g.1)).map (·.2)).getD 0

/-- A quarter of a number. -/
def quarter (a : Estimate) : Estimate := a - ofNat 4

/-- The rows of a table. -/
def tableRows : Estimate := ofNat (Nat.pow 2 20)

/-- The work of finding one key among those of a table. -/
def search : Estimate := ofNat tableRows.toNat - ofNat 10

/-- The work of reading so many rows. -/
def reading (rows : Estimate) : Estimate := rows + ofNat 3

end Estimate

namespace Column

/-- The number that follows the last occurrence of a word in a declared type. -/
def lengthAfter? (word declared : String) : Option Nat :=
  match ((Text.lowerAscii declared).splitOn word).reverse with
  | ending :: _ :: _ =>
    let digits := (ending.toList.dropWhile fun c => !c.isDigit).takeWhile Char.isDigit
    some (digits.foldl (fun n c => 10 * n + (c.toNat - '0'.toNat)) 0)
  | _ => none

/-- The usual length of a value, as far as the declared type tells it. -/
def usualLength (c : Column) : Nat :=
  match c.affinity with
  | .text => (lengthAfter? "char" c.declared).getD 16
  | .none => if c.declared.isEmpty then 0 else (lengthAfter? "blob(" c.declared).getD 16
  | _ => 0

/-- The estimated width of a value, in units of four bytes. -/
def width (c : Column) : Nat := min (c.usualLength / 4 + 1) 255

end Column

end SlangSql.Store
