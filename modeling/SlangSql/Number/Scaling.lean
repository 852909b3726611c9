import SlangSql.Number.Binary

/-!
# Scaling by powers of ten

The store reads and writes reals through numbers with a mantissa of sixty-four
bits, which it multiplies by powers of ten in steps. Every step rounds, so the
outcome is close to the exact one without always being the nearest. Only as many
digits of a decimal count as fit into sixty-four bits.
-/

set_option autoImplicit false

namespace SlangSql.Number

/-- The number `mantissa * 2 ^ exponent`, with a mantissa of at most sixty-four bits. -/
structure Extended where
  mantissa : Nat
  exponent : Int
  deriving DecidableEq, Repr

namespace Extended

def mantissaBits : Nat := 64

/-- The number nearest to `n * 2 ^ e`, ties going to the even mantissa. -/
def rounded (n : Nat) (e : Int) : Extended :=
  let excess := n.log2 + 1 - mantissaBits
  ⟨Binary.roundDiv n (Nat.pow 2 excess), e + excess⟩

def mul (a b : Extended) : Extended :=
  rounded (a.mantissa * b.mantissa) (a.exponent + b.exponent)

/-- The number nearest to `10 ^ k`. -/
def power (k : Nat) : Extended := rounded (Nat.pow 10 k) 0

/-- The number nearest to `1 / 10 ^ k`. -/
def inversePower (k : Nat) : Extended :=
  let shift := mantissaBits + (Nat.pow 10 k).log2
  ⟨Binary.roundDiv (Nat.pow 2 shift) (Nat.pow 10 k), -(shift : Int)⟩

/-- The order of the values. -/
def isBelow (a b : Extended) : Bool :=
  let low := min a.exponent b.exponent
  decide (Binary.shiftUp a.mantissa (a.exponent - low) < Binary.shiftUp b.mantissa (b.exponent - low))

/-- A product with a factor, as often as `n` says. -/
def mulTimes (factor : Extended) : Nat → Extended → Extended
  | 0, r => r
  | n + 1, r => mulTimes factor n (r.mul factor)

/-- Multiplies by `10 ^ k` in steps of a hundred, ten and one powers. -/
def scaledUp (r : Extended) (k : Nat) : Extended :=
  mulTimes (power 1) (k % 10)
    (mulTimes (power 10) (k % 100 / 10) (mulTimes (power 100) (k / 100) r))

/-- Divides by `10 ^ k` in steps of a hundred, ten and one powers. -/
def scaledDown (r : Extended) (k : Nat) : Extended :=
  mulTimes (inversePower 1) (k % 10)
    (mulTimes (inversePower 10) (k % 100 / 10) (mulTimes (inversePower 100) (k / 100) r))

def toBinary (negative : Bool) (r : Extended) : Binary :=
  Binary.ofRatio negative (Binary.shiftUp r.mantissa r.exponent)
    (Binary.shiftUp 1 (-r.exponent))

/-- The largest finite number. -/
def largestFinite : Extended := ⟨Binary.mantissaLimit - 1, Binary.maxExponent⟩

end Extended

namespace Decimal

/-- From here on a significand takes no further digit. -/
def significandLimit : Nat := (Nat.pow 2 64 - 10) / 10

/-- The decimal with only those digits that count. -/
def leading (d : Decimal) : Decimal :=
  let count := digitCount d.digits
  let dropped :=
    if significandLimit ≤ d.digits / Nat.pow 10 (count - 19) then count - 19 else count - 20
  ⟨d.digits / Nat.pow 10 dropped, d.exponent + dropped⟩

/-- Appends zeros while the exponent is positive and there is room. -/
def padded : Nat → Decimal → Decimal
  | 0, d => d
  | n + 1, d =>
    if 0 < d.exponent ∧ d.digits < (Nat.pow 2 64 - 1) / 10 then
      padded n ⟨10 * d.digits, d.exponent - 1⟩
    else d

/-- Drops zeros at the end while the exponent is negative. -/
def stripped : Nat → Decimal → Decimal
  | 0, d => d
  | n + 1, d =>
    if d.exponent < 0 ∧ d.digits % 10 = 0 then stripped n ⟨d.digits / 10, d.exponent + 1⟩ else d

/-- The number that a decimal of the store is read as. -/
def toBinary (negative : Bool) (d : Decimal) : Binary :=
  let magnitude := (digitCount d.digits : Int) + d.exponent
  if d.digits = 0 ∨ magnitude < -400 then .finite negative 0 Binary.minExponent
  else if 400 < magnitude then .infinite negative
  else
    let d := stripped 20 (padded 20 d.leading)
    let start : Extended := ⟨d.digits, 0⟩
    let r := if 0 ≤ d.exponent then start.scaledUp d.exponent.toNat
      else start.scaledDown (-d.exponent).toNat
    if Extended.largestFinite.isBelow r then .infinite negative else r.toBinary negative

end Decimal

/-- A number on the way to its digits: the value is `number * 10 ^ place`. -/
structure Scaled where
  number : Extended
  place : Int
  deriving DecidableEq, Repr

namespace Scaled

/-- Multiplies by a factor of `10 ^ step` while a test holds. -/
def stepWhile (test : Extended → Bool) (factor : Extended) (step : Int) : Nat → Scaled → Scaled
  | 0, s => s
  | n + 1, s =>
    if test s.number then stepWhile test factor step n ⟨s.number.mul factor, s.place - step⟩
    else s

open Extended (power inversePower) in
/-- Scales a number down below `10 ^ 19`. -/
def lowered (s : Scaled) : Scaled :=
  stepWhile (!·.isBelow (power 19)) (inversePower 1) (-1) 12
    (stepWhile (!·.isBelow (power 29)) (inversePower 10) (-10) 12
      (stepWhile (!·.isBelow (power 119)) (inversePower 100) (-100) 12 s))

open Extended (power inversePower) in
/-- Scales a number up to `10 ^ 17`. -/
def raised (s : Scaled) : Scaled :=
  stepWhile (·.isBelow (power 17)) (power 1) 1 12
    (stepWhile (·.isBelow (power 7)) (power 10) 10 12
      (stepWhile (·.isBelow (inversePower 97)) (power 100) 100 12 s))

/-- The integer part as a decimal. -/
def toDecimal (s : Scaled) : Decimal :=
  let r := s.number
  ⟨Binary.shiftUp r.mantissa r.exponent / Nat.pow 2 (-r.exponent).toNat, s.place⟩

end Scaled

/-- Eighteen or nineteen digits of a positive number. -/
def Extended.digits (r : Extended) : Decimal :=
  let s : Scaled := ⟨r, 0⟩
  (if r.isBelow (power 19) then s.raised else s.lowered).toDecimal

end SlangSql.Number
