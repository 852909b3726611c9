import SlangSql.Number.Binary

/-!
# The fewest digits that read back

A number is written with as few digits as still round to it. Of two candidates
with the same number of digits the nearer one is taken. Numbers of ordinary
size are written with a point, very large and very small ones with an exponent.
-/

set_option autoImplicit false

namespace SlangSql.Number

/-- A positive ratio. -/
structure Ratio where
  num : Nat
  den : Nat
  deriving DecidableEq, Repr

namespace Ratio

/-- The ratio `num * 10 ^ -k / den`. -/
def scaleDown (r : Ratio) (k : Int) : Ratio :=
  ⟨r.num * Nat.pow 10 (-k).toNat, r.den * Nat.pow 10 k.toNat⟩

/-- The position of the first digit: the `p` with `10 ^ p ≤ r < 10 ^ (p + 1)`. -/
def leadingPower (r : Ratio) : Int :=
  if r.den ≤ r.num then (digitCount (r.num / r.den) : Int) - 1
  else -(digitCount ((r.den - 1) / r.num) : Int)

end Ratio

/-- The numbers that round to a given one. -/
structure Interval where
  low : Ratio
  high : Ratio
  closed : Bool
  deriving DecidableEq, Repr

/-- The ratio `m * 2 ^ e`. -/
def Binary.ratio (m : Nat) (e : Int) : Ratio := ⟨shiftUp m e, Nat.pow 2 (-e).toNat⟩

/-- The numbers that round to `m * 2 ^ e`; the lower gap is narrower at a power of two. -/
def Binary.interval (m : Nat) (e : Int) : Interval :=
  let narrow := decide (m = Nat.pow 2 52) && decide (minExponent < e)
  { low := if narrow then ratio (4 * m - 1) (e - 2) else ratio (2 * m - 1) (e - 1)
    high := ratio (2 * m + 1) (e - 1)
    closed := m % 2 == 0 }

namespace Interval

/-- The decimal `n * 10 ^ k` lies in the interval. -/
def contains (i : Interval) (n : Nat) (k : Int) : Bool :=
  let num := n * Nat.pow 10 k.toNat
  let den := Nat.pow 10 (-k).toNat
  let fromLow := compare (i.low.num * den) (num * i.low.den)
  let fromHigh := compare (num * i.high.den) (i.high.num * den)
  (fromLow == .lt || i.closed && fromLow == .eq) && (fromHigh == .lt || i.closed && fromHigh == .eq)

end Interval

/-- Of the two neighbours of a value on the grid `10 ^ k`, the one that rounds to the value. -/
def gridPoint? (value : Ratio) (i : Interval) (k : Int) : Option Decimal :=
  let r := value.scaleDown k
  let low := r.num / r.den
  let lowFits := i.contains low k
  let highFits := i.contains (low + 1) k
  if lowFits && highFits then
    some (if 2 * (r.num % r.den) ≤ r.den then ⟨low, k⟩ else ⟨low + 1, k⟩)
  else if lowFits then some ⟨low, k⟩
  else if highFits then some ⟨low + 1, k⟩
  else none

/-- Moves trailing zeros of the digits into the exponent. -/
def Decimal.trimmed (d : Decimal) : Decimal :=
  let zeros := ((digitChars d.digits).reverse.takeWhile (· == '0')).length
  if d.digits = 0 then ⟨0, 0⟩ else ⟨d.digits / Nat.pow 10 zeros, d.exponent + zeros⟩

/-- The shortest decimal that rounds to the positive number `m * 2 ^ e`. -/
def Binary.shortest (m : Nat) (e : Int) : Decimal :=
  let value := ratio m e
  let top := value.leadingPower
  let i := interval m e
  let found := (List.range 17).findSome? fun (n : Nat) => gridPoint? value i (top - n)
  (found.getD ⟨m, e⟩).trimmed

/-- A decimal without exponent, with at least one digit on both sides of the point. -/
def plainText (d : Decimal) : String :=
  let cs := digitChars d.digits
  if 0 ≤ d.exponent then
    String.ofList (cs ++ List.replicate d.exponent.toNat '0' ++ ['.', '0'])
  else
    let places := (-d.exponent).toNat
    let padded := List.replicate (places + 1 - cs.length) '0' ++ cs
    String.ofList (padded.take (padded.length - places) ++ ['.'] ++
      padded.drop (padded.length - places))

/-- A decimal with one digit before the point, which is left out if nothing follows it. -/
def exponentText (d : Decimal) : String :=
  let cs := digitChars d.digits
  let e := d.exponent + (cs.length : Int) - 1
  let tail := if cs.tail.isEmpty then [] else '.' :: cs.tail
  String.ofList (cs.take 1 ++ tail ++ ['e', if e < 0 then '-' else '+'] ++ digitChars e.natAbs)

/-- The text of a number; plain from `1e-5` up to `1e16`. -/
def Binary.text : Binary → String
  | .infinite s => if s then "-inf" else "inf"
  | .finite s m e =>
    let sign := if s then "-" else ""
    if m = 0 then sign ++ "0.0"
    else
      let d := shortest m e
      let top := d.exponent + (digitCount d.digits : Int)
      sign ++ (if -5 < top ∧ top ≤ 16 then plainText d else exponentText d)

end SlangSql.Number
