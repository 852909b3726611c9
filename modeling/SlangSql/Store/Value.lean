import SlangSql.Json
import SlangSql.Number.Significant
import SlangSql.Text.Ascii

/-!
# Stored values

A stored value carries its own type. The declared type of a column only gives an
affinity, which says what a value is turned into when it is stored and before it
is compared.
-/

set_option autoImplicit false

namespace SlangSql.Store

open SlangSql.Number

inductive Value where
  | null
  | integer (n : Int)
  | real (x : Binary)
  | text (s : String)
  | blob (bytes : List UInt8)
  deriving DecidableEq, Repr

inductive Affinity where
  | integer
  | numeric
  | real
  | text
  | none
  deriving DecidableEq, Repr

namespace Affinity

/-- The affinity of a declared type, by the words that occur in it. -/
def ofType (declared : String) : Affinity :=
  let has (word : String) := Text.occursIn word.toList (Text.lowerAscii declared).toList
  if has "int" then .integer
  else if has "char" || has "clob" || has "text" then .text
  else if declared.isEmpty || has "blob" then .none
  else if has "real" || has "floa" || has "doub" then .real
  else .numeric

def isNumeric : Affinity → Bool
  | .integer => true
  | .numeric => true
  | .real => true
  | _ => false

end Affinity

def minInteger : Int := -(Nat.pow 2 63 : Nat)
def maxInteger : Int := (Nat.pow 2 63 : Nat) - 1

namespace Value

def isNull : Value → Bool
  | .null => true
  | _ => false

/-- A signed numeral as a value: an integer if it is whole and small enough. -/
def ofNumeral (negative : Bool) : Numeral → Value
  | .whole n =>
    let i : Int := if negative then -(n : Int) else n
    if minInteger ≤ i ∧ i ≤ maxInteger then .integer i else .real (Decimal.toBinary negative ⟨n, 0⟩)
  | .fraction d => .real (d.toBinary negative)

/-- The number that a text spells, with blanks around it allowed. -/
def numberOfText? (s : String) : Option Value :=
  let cs := ((s.toList.dropWhile Text.isAsciiBlank).reverse.dropWhile Text.isAsciiBlank).reverse
  let (negative, body) := splitSign cs
  (readNumeral body).map (ofNumeral negative)

/-- A real that is a whole number inside the integer range becomes an integer. -/
def wholeToInteger : Value → Value
  | .real x =>
    match x.toInt? with
    | some n => if minInteger < n ∧ n < maxInteger then .integer n else .real x
    | none => .real x
  | v => v

def integerToReal : Value → Value
  | .integer n => .real (.ofInt n)
  | v => v

/-- A zero without its sign. -/
def plainZero : Value → Value
  | .real (.finite true 0 e) => .real (.finite false 0 e)
  | v => v

/-- A text that looks like a number becomes that number. -/
def textToNumber : Value → Value
  | .text s => (numberOfText? s).getD (.text s)
  | v => v

/-- The number that the longest beginning of a text spells, zero if there is none. -/
def leadingNumber (s : String) : Value :=
  let beginnings := (List.range (s.length + 1)).reverse.map fun n => String.ofList (s.toList.take n)
  (beginnings.findSome? numberOfText?).getD (.integer 0)

def isZero : Value → Bool
  | .integer n => n == 0
  | .real (.finite _ 0 _) => true
  | _ => false

/-- Whether a value counts as true; NULL does neither. -/
def truth? : Value → Option Bool
  | .null => none
  | .text s => some (!(leadingNumber s).isZero)
  | .blob bytes =>
    some (!(leadingNumber (String.ofList (bytes.map fun b => Char.ofNat b.toNat))).isZero)
  | v => some (!v.isZero)

def numberToText : Value → Value
  | .integer n => .text (Json.intText n)
  | .real x => .text x.storedText
  | v => v

def isText : Value → Bool
  | .text _ => true
  | _ => false

/-- What a value becomes when it is stored in a column. -/
def stored (v : Value) : Affinity → Value
  | .integer => v.textToNumber.wholeToInteger
  | .numeric => v.textToNumber.wholeToInteger
  | .real => v.textToNumber.integerToReal.plainZero
  | .text => v.numberToText
  | .none => v

/-- NULL, then numbers, then texts, then blobs. -/
def order : Value → Value → Ordering
  | .null, .null => .eq
  | .null, _ => .lt
  | _, .null => .gt
  | .integer m, .integer n => compare m n
  | .integer m, .real y => Binary.orderInt m y
  | .real x, .integer n => (Binary.orderInt n x).swap
  | .real x, .real y => Binary.order x y
  | .integer _, _ => .lt
  | .real _, _ => .lt
  | _, .integer _ => .gt
  | _, .real _ => .gt
  | .text s, .text t => compare s t
  | .text _, .blob _ => .lt
  | .blob _, .text _ => .gt
  | .blob a, .blob b => compare a b

end Value

end SlangSql.Store
