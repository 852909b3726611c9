import SlangSql.Number.Decimal

/-!
# Binary floating-point numbers

Numbers with a sign, a mantissa below `2 ^ 53` and an exponent of two, and the
two infinities. A ratio is rounded to the nearest such number, a tie going to
the even mantissa. Order and equality are those of the exact values.
-/

set_option autoImplicit false

namespace SlangSql.Number

inductive Binary where
  /-- The number `± mantissa * 2 ^ exponent`. -/
  | finite (negative : Bool) (mantissa : Nat) (exponent : Int)
  | infinite (negative : Bool)
  deriving DecidableEq, Repr

namespace Binary

def minExponent : Int := -1074
def maxExponent : Int := 971
def mantissaLimit : Nat := Nat.pow 2 53

/-- `n * 2 ^ e` for a non-negative `e`, and `n` otherwise. -/
def shiftUp (n : Nat) (e : Int) : Nat := n * Nat.pow 2 e.toNat

/-- The exponent at which `num / den` has a mantissa of 53 bits, if it is large enough. -/
def targetExponent (num den : Nat) : Int :=
  let k : Int := (num.log2 : Int) - (den.log2 : Int)
  let e := if shiftUp num (-k) < shiftUp den k then k - 53 else k - 52
  max e minExponent

/-- Rounds a quotient to the nearest integer, ties to even. -/
def roundDiv (num den : Nat) : Nat :=
  let q := num / den
  let r := num % den
  if 2 * r < den then q else if den < 2 * r then q + 1 else if q % 2 = 0 then q else q + 1

/-- The number nearest to `num / den`. -/
def ofRatio (negative : Bool) (num den : Nat) : Binary :=
  if num = 0 then .finite negative 0 minExponent
  else
    let e := targetExponent num den
    let m := roundDiv (shiftUp num (-e)) (shiftUp den e)
    let m' := if m = mantissaLimit then mantissaLimit / 2 else m
    let e' := if m = mantissaLimit then e + 1 else e
    if maxExponent < e' then .infinite negative else .finite negative m' e'

/-- The number nearest to a decimal. -/
def ofDecimal (negative : Bool) (d : Decimal) : Binary :=
  let magnitude := (digitCount d.digits : Int) + d.exponent
  if d.digits = 0 ∨ magnitude < -400 then .finite negative 0 minExponent
  else if 400 < magnitude then .infinite negative
  else ofRatio negative (d.digits * Nat.pow 10 d.exponent.toNat)
    (Nat.pow 10 (-d.exponent).toNat)

def ofInt (n : Int) : Binary := ofRatio (decide (n < 0)) n.natAbs 1

/-- The integer that a number equals, if it is whole. -/
def toInt? : Binary → Option Int
  | .infinite _ => none
  | .finite s m e =>
    if 0 ≤ e then some (signed s (shiftUp m e))
    else if m % Nat.pow 2 (-e).toNat = 0 then some (signed s (m / Nat.pow 2 (-e).toNat))
    else none
where
  signed (s : Bool) (n : Nat) : Int := if s then -(n : Int) else n

/-- A number times `2 ^ scale`, for a scale that leaves no fraction. -/
def scaled (s : Bool) (m : Nat) (e scale : Int) : Int :=
  let n : Int := (shiftUp m (e + scale) : Nat)
  if s then -n else n

/-- The order of the exact values. -/
def order : Binary → Binary → Ordering
  | .infinite s, .infinite t => if s = t then .eq else if s then .lt else .gt
  | .infinite s, _ => if s then .lt else .gt
  | _, .infinite t => if t then .gt else .lt
  | .finite s m e, .finite t n f =>
    let scale := -(min e f)
    compare (scaled s m e scale) (scaled t n f scale)

/-- The order of an integer and a number. -/
def orderInt (n : Int) : Binary → Ordering
  | .infinite t => if t then .gt else .lt
  | .finite t m f =>
    let scale := -(min 0 f)
    compare (scaled (decide (n < 0)) n.natAbs 0 scale) (scaled t m f scale)

end Binary

end SlangSql.Number
