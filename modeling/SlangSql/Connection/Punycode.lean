/-!
# Labels of ASCII for other characters

A label may give characters outside of ASCII by a row of letters and digits. Each
group of the row is a number with digits of varying weight; it says how far to go on
through the code points and the places of the label until the next character is put
in. The characters of ASCII stand in front, before the last hyphen.
-/

set_option autoImplicit false

namespace SlangSql.Connection.Punycode

/-- The value of a letter or digit in a row. -/
def digitValue? (c : Char) : Option Nat :=
  if 'a' ≤ c ∧ c ≤ 'z' then some (c.toNat - 'a'.toNat)
  else if c.isDigit then some (c.toNat - '0'.toNat + 26)
  else none

/-- The least value, at a place, of a digit after which the number goes on. -/
def threshold (place bias : Nat) : Nat :=
  if place ≤ bias then 1 else if bias + 26 ≤ place then 26 else place - bias

def reduce (delta place : Nat) : Nat × Nat :=
  if 455 < delta then reduce (delta / 35) (place + 36) else (delta, place)
termination_by delta
decreasing_by exact Nat.div_lt_self (by omega) (by omega)

/-- The bias after a number, for a label of `size` characters. -/
def adapted (delta size : Nat) (isFirst : Bool) : Nat :=
  let d := if isFirst then delta / 700 else delta / 2
  let r := reduce (d + d / size) 0
  r.2 + 36 * r.1 / (r.1 + 38)

/-- A label that is being read. -/
structure State where
  label : List Char
  code : Nat
  bias : Nat
  isFirst : Bool
  /-- Where the next number counts from. -/
  position : Nat
  /-- The number read so far. -/
  delta : Nat
  weight : Nat
  place : Nat
  /-- A number has been begun. -/
  isOpen : Bool
  deriving DecidableEq, Repr

def start (ascii : List Char) : State := ⟨ascii, 0x80, 72, true, 0, 0, 1, 36, false⟩

/-- A code point that is a character. -/
def char? (n : Nat) : Option Char := if h : n.isValidChar then some (Char.ofNatAux n h) else none

/-- Puts a character in after a complete number. -/
def State.put (s : State) : Option State := do
  let size := s.label.length + 1
  let total := s.position + s.delta
  let code := s.code + total / size
  let index := total % size
  let c ← char? code
  return { label := s.label.insertIdx index c
           code := code
           bias := adapted s.delta size s.isFirst
           isFirst := false
           position := index + 1
           delta := 0
           weight := 1
           place := 36
           isOpen := false }

def State.feed (s : State) (c : Char) : Option State := do
  let d ← digitValue? c
  let t := threshold s.place s.bias
  let delta := s.delta + d * s.weight
  if d < t then State.put { s with delta := delta }
  else
    some { s with
      delta := delta, weight := s.weight * (36 - t), place := s.place + 36, isOpen := true }

/-- The part before the last hyphen, and the part after it; without a hyphen, or with one that
nothing precedes, all is the second part. -/
def split (cs : List Char) : List Char × List Char :=
  let after := (cs.reverse.takeWhile (· != '-')).reverse
  let before := cs.take (cs.length - after.length - 1)
  if before.isEmpty then ([], cs) else (before, after)

/-- The label that a row of ASCII stands for. -/
def decode (cs : List Char) : Option (List Char) := do
  let (ascii, row) := split cs
  let s ← row.foldlM State.feed (start ascii)
  if s.isOpen then none else some s.label

end SlangSql.Connection.Punycode
