import SlangSql.Number.Scaling
import SlangSql.Number.Shortest

/-!
# A fixed number of significant digits

A number stored as text is rounded to fifteen significant digits, a half going
up. The text always has a point, trailing zeros after the first place are
dropped, an exponent is written with at least two digits, and a zero has no sign.
An exponent is needed from `10 ^ 15` on and below `10 ^ -4`.
-/

set_option autoImplicit false

namespace SlangSql.Number

def significantDigits : Nat := 15

/-- A decimal rounded to the significant digits. -/
def Decimal.significant (d : Decimal) : Decimal :=
  let excess := digitCount d.digits - significantDigits
  let half := Nat.pow 10 excess / 2
  (⟨(d.digits + half) / Nat.pow 10 excess, d.exponent + excess⟩ : Decimal).trimmed

def twoDigits (n : Nat) : List Char :=
  if n < 10 then ['0', Nat.digitChar n] else digitChars n

/-- Exponent notation with a point and an exponent of at least two digits. -/
def wideExponentText (d : Decimal) : String :=
  let cs := digitChars d.digits
  let e := d.exponent + (cs.length : Int) - 1
  let tail := if cs.tail.isEmpty then ['0'] else cs.tail
  String.ofList (cs.take 1 ++ ['.'] ++ tail ++ ['e', if e < 0 then '-' else '+'] ++
    twoDigits e.natAbs)

/-- The text under which a number is stored in a text column. -/
def Binary.storedText : Binary → String
  | .infinite s => if s then "-Inf" else "Inf"
  | .finite s m e =>
    if m = 0 then "0.0"
    else
      let sign := if s then "-" else ""
      let d := (⟨m, e⟩ : Extended).digits.significant
      let top := d.exponent + (digitCount d.digits : Int) - 1
      sign ++ (if -4 ≤ top ∧ top < significantDigits then plainText d else wideExponentText d)

end SlangSql.Number
