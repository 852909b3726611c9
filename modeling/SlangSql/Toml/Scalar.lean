import SlangSql.Number.Binary
import SlangSql.Toml.Text

/-!
# TOML numbers, dates and truth values

Underscores may stand between two digits. A whole number has no leading zero and
lies in the range of 64 bits. A number with a fraction or an exponent is refused
if it is positive and too large to be finite. A date is checked against the calendar.
-/

set_option autoImplicit false

namespace SlangSql.Toml

open SlangSql.Number (Binary Numeral digitsValue readNumeral)

/-- Drops underscores that stand between two digits; any other underscore is refused. -/
def digitRun? (isDigit : Char → Bool) : List Char → Option (List Char)
  | [] => none
  | [c] => if isDigit c then some [c] else none
  | c :: d :: rest =>
    if isDigit c then
      if d = '_' then (digitRun? isDigit rest).map (c :: ·)
      else (digitRun? isDigit (d :: rest)).map (c :: ·)
    else none

/-- Splits off a run of digits and underscores. -/
def spanRun (isDigit : Char → Bool) (cs : List Char) : List Char × List Char :=
  cs.span fun c => isDigit c || c == '_'

def minInteger : Int := -(Nat.pow 2 63 : Nat)
def maxInteger : Int := (Nat.pow 2 63 : Nat) - 1

def integerInRange? (n : Int) : Option Value :=
  if minInteger ≤ n ∧ n ≤ maxInteger then some (.integer n) else none

def baseNumber (base : Nat) (digits : List Char) : Nat :=
  digits.foldl (fun n c => base * n + (Text.hexValue? c).getD 0) 0

/-- A whole number after the sign of its base. -/
def basedInteger (base : Nat) (cs : List Char) : Option (Value × List Char) := do
  let isDigit (c : Char) := (Text.hexValue? c).any fun d => decide (d < base)
  let (run, rest) := spanRun isDigit cs
  let digits ← digitRun? isDigit run
  return (← integerInRange? (baseNumber base digits), rest)

/-- The exponent of a number, if one follows; gives what comes after it. -/
def skipExponent : List Char → Option (List Char)
  | c :: rest =>
    if c = 'e' ∨ c = 'E' then
      let body := match rest with
        | '+' :: r => r
        | '-' :: r => r
        | r => r
      let (run, rest') := spanRun Char.isDigit body
      (digitRun? Char.isDigit run).map fun _ => rest'
    else some (c :: rest)
  | [] => some []

/-- The part of a text before one of its ends. -/
def written (cs rest : List Char) : String := String.ofList (cs.take (cs.length - rest.length))

/-- The number is positive and rounds to infinity. -/
def overflows (negative : Bool) (digits : List Char) : Bool :=
  match readNumeral digits with
  | some (.fraction d) => Binary.ofDecimal negative d == .infinite false
  | _ => false

/-- A number with a fraction or an exponent, which ends where `rest` begins. -/
def float? (negative : Bool) (cs rest : List Char) : Option (Value × List Char) :=
  let text := written cs rest
  if overflows negative (text.toList.filter (· != '_')) then none else some (.float text, rest)

/-- A decimal number without its sign. -/
def decimalNumber (negative : Bool) (cs : List Char) : Option (Value × List Char) := do
  let (run, rest) := spanRun Char.isDigit cs
  let digits ← digitRun? Char.isDigit run
  if digits.length > 1 ∧ digits.head? = some '0' then none
  else
    match rest with
    | '.' :: afterPoint =>
      let (places, rest') := spanRun Char.isDigit afterPoint
      let _ ← digitRun? Char.isDigit places
      let rest'' ← skipExponent rest'
      float? negative cs rest''
    | c :: _ =>
      if c = 'e' ∨ c = 'E' then
        let rest' ← skipExponent rest
        float? negative cs rest'
      else
        let n := digitsValue digits
        return (← integerInRange? (if negative then -(n : Int) else n), rest)
    | [] =>
      let n := digitsValue digits
      return (← integerInRange? (if negative then -(n : Int) else n), rest)

/-- A number after its sign, or one of the words for numbers that are not finite. -/
def signedNumber (negative : Bool) (cs : List Char) : Option (Value × List Char) :=
  match cs with
  | 'i' :: 'n' :: 'f' :: rest => some (.float "inf", rest)
  | 'n' :: 'a' :: 'n' :: rest => some (.float "nan", rest)
  | _ => decimalNumber negative cs

/-- Exactly `count` digits. -/
def fixedDigits (count : Nat) (cs : List Char) : Option (Nat × List Char) :=
  let ds := cs.take count
  if ds.length = count ∧ ds.all Char.isDigit then some (digitsValue ds, cs.drop count) else none

def expectChar (c : Char) : List Char → Option (List Char)
  | d :: rest => if d = c then some rest else none
  | [] => none

def isLeapYear (y : Nat) : Bool := (y % 4 == 0 && y % 100 != 0) || y % 400 == 0

def daysInMonth (y m : Nat) : Nat :=
  if m = 2 then (if isLeapYear y then 29 else 28)
  else if m = 4 ∨ m = 6 ∨ m = 9 ∨ m = 11 then 30
  else 31

/-- A calendar date; gives what follows it. -/
def skipDate (cs : List Char) : Option (List Char) := do
  let (y, cs) ← fixedDigits 4 cs
  let (m, cs) ← fixedDigits 2 (← expectChar '-' cs)
  let (d, cs) ← fixedDigits 2 (← expectChar '-' cs)
  if 1 ≤ m ∧ m ≤ 12 ∧ 1 ≤ d ∧ d ≤ daysInMonth y m then some cs else none

/-- The fraction of a second, if one follows. -/
def skipFraction (cs : List Char) : Option (List Char) :=
  match cs with
  | '.' :: rest =>
    if (rest.takeWhile Char.isDigit).isEmpty then none else some (rest.dropWhile Char.isDigit)
  | _ => some cs

/-- A time of day; gives what follows it. -/
def skipTime (cs : List Char) : Option (List Char) := do
  let (h, cs) ← fixedDigits 2 cs
  let (m, cs) ← fixedDigits 2 (← expectChar ':' cs)
  let (s, cs) ← fixedDigits 2 (← expectChar ':' cs)
  if h ≤ 23 ∧ m ≤ 59 ∧ s ≤ 60 then skipFraction cs else none

/-- The distance from universal time, if one follows. -/
def skipOffset (cs : List Char) : Option (List Char) :=
  match cs with
  | 'Z' :: rest => some rest
  | 'z' :: rest => some rest
  | c :: rest =>
    if c = '+' ∨ c = '-' then do
      let (h, rest) ← fixedDigits 2 rest
      let (m, rest) ← fixedDigits 2 (← expectChar ':' rest)
      if h ≤ 23 ∧ m ≤ 59 then some rest else none
    else some cs
  | [] => some []

/-- A date with a time, a date, or a time. -/
def dateTime (cs : List Char) : Option (Value × List Char) :=
  match skipDate cs with
  | some rest =>
    let timed : Option (List Char) :=
      match rest with
      | c :: rest' => if c = 'T' ∨ c = 't' ∨ c = ' ' then skipTime rest' >>= skipOffset else none
      | [] => none
    let rest'' := timed.getD rest
    some (.date (written cs rest''), rest'')
  | none => (skipTime cs).map fun rest => (.date (written cs rest), rest)

/-- A number or a date. -/
def numeric (cs : List Char) : Option (Value × List Char) :=
  match dateTime cs with
  | some r => some r
  | none =>
    match cs with
    | '+' :: rest => signedNumber false rest
    | '-' :: rest => signedNumber true rest
    | '0' :: 'x' :: rest => basedInteger 16 rest
    | '0' :: 'o' :: rest => basedInteger 8 rest
    | '0' :: 'b' :: rest => basedInteger 2 rest
    | _ => signedNumber false cs

/-- A value that holds no other values. -/
def scalar (cs : List Char) : Option (Value × List Char) :=
  match cs with
  | '"' :: _ => (anyText cs).map fun r => (.text r.1, r.2)
  | '\x27' :: _ => (anyText cs).map fun r => (.text r.1, r.2)
  | 't' :: 'r' :: 'u' :: 'e' :: rest => some (.boolean true, rest)
  | 'f' :: 'a' :: 'l' :: 's' :: 'e' :: rest => some (.boolean false, rest)
  | _ => numeric cs

end SlangSql.Toml
