import SlangSql.Connection.Domain
import SlangSql.Connection.Failure
import SlangSql.Text.Percent
import SlangSql.Text.Utf8

/-!
# Hosts

A host is a name or a number. A number of thirty-two bits is written as up to four
parts with points between them, one of a hundred and twenty-eight bits between square
brackets as groups of hexadecimal digits. Schemes of the web read a host as a domain
name; for all other schemes it is only a text.
-/

set_option autoImplicit false

namespace SlangSql.Connection.Host

/-- The number that digits of a base denote; nothing if one of them is no such digit. -/
def number? (base : Nat) (cs : List Char) : Option Nat :=
  cs.foldlM (fun n c => ((Text.hexValue? c).filter fun d => d < base).map (base * n + ·)) 0

/-- A part of a number: hexadecimal after `0x`, octal after `0`, else decimal. -/
def part? : List Char → Option Nat
  | [] => none
  | '0' :: 'x' :: cs => number? 16 cs
  | '0' :: c :: cs => number? 8 (c :: cs)
  | cs => number? 10 cs

/-- The parts of a name, of which a last empty one does not count. -/
def parts (name : List Char) : List (List Char) :=
  let ps := splitLabels name
  if ps.getLast? = some [] then ps.dropLast else ps

/-- The last part looks like a number, so all of them have to be numbers. -/
def endsInNumber (name : List Char) : Bool :=
  match (parts name).getLast? with
  | none => false
  | some last => (!last.isEmpty && last.all Char.isDigit) || (part? last).isSome

/-- Up to four parts, each of one byte but the last, which takes all bytes that are left. -/
def isNumeric (name : List Char) : Bool :=
  match (parts name).mapM part? with
  | none => false
  | some ns =>
    decide (ns.length ≤ 4) && ns.dropLast.all (· < 256) &&
      ns.getLast?.any fun n => decide (n < Nat.pow 256 (5 - ns.length))

/-- A byte in decimal digits, without a zero in front. -/
def byte? (cs : List Char) : Option Nat :=
  if cs.isEmpty || (cs.head? == some '0' && decide (1 < cs.length)) then none
  else (number? 10 cs).filter (· < 256)

/-- Four bytes as two groups. -/
def byteGroups? (cs : List Char) : Option (List Nat) := do
  match ← (splitLabels cs).mapM byte? with
  | [a, b, c, d] => some [256 * a + b, 256 * c + d]
  | _ => none

/-- One group of up to four hexadecimal digits. -/
def group? (cs : List Char) : Option (List Nat) :=
  if cs.isEmpty || decide (4 < cs.length) then none else (number? 16 cs).map ([·])

/-- Groups with colons between them; the last may be four bytes. -/
def groups? (canEndInBytes : Bool) : List (List Char) → Option (List Nat)
  | [] => some []
  | [last] => if canEndInBytes && last.contains '.' then byteGroups? last else group? last
  | cs :: rest => do return (← group? cs) ++ (← groups? canEndInBytes rest)

def colonParts (s : String) : List (List Char) :=
  if s.isEmpty then [] else (s.splitOn ":").map String.toList

/-- The eight groups of a long number; two colons stand for groups of zero. -/
def longNumber? (cs : List Char) : Option (List Nat) :=
  match (String.ofList cs).splitOn "::" with
  | [all] => (groups? true (colonParts all)).filter (·.length = 8)
  | [left, right] => do
    let l ← groups? false (colonParts left)
    let r ← groups? true (colonParts right)
    if l.length + r.length < 8 then
      some (l ++ List.replicate (8 - l.length - r.length) 0 ++ r)
    else none
  | _ => none

/-- The length of the run of zeros at the front. -/
def zeros (groups : List Nat) : Nat := (groups.takeWhile (· = 0)).length

/-- The longest run of zeros: where the first such run begins, and its length. -/
def longestZeros (groups : List Nat) : Nat × Nat :=
  (List.range groups.length).foldl (fun best i =>
    let n := zeros (groups.drop i)
    if best.2 < n then (i, n) else best) (0, 0)

def groupsText (groups : List Nat) : List Char :=
  (":".intercalate (groups.map Text.hexDigits)).toList

/-- A long number in plain form: two colons for the longest run of zeros, if it has more than
one. -/
def longText (groups : List Nat) : List Char :=
  let (start, count) := longestZeros groups
  if count < 2 then groupsText groups
  else groupsText (groups.take start) ++ [':', ':'] ++ groupsText (groups.drop (start + count))

/-- A long number between brackets. -/
def bracketed (cs : List Char) : Except Failure (List Char) :=
  if cs.getLast? = some ']' then
    match longNumber? (cs.drop 1).dropLast with
    | some groups => .ok ('[' :: longText groups ++ [']'])
    | none => .error .invalidLongNumber
  else .error .invalidLongNumber

/-- Characters that the host of a plain scheme cannot have. -/
def isForbidden (c : Char) : Bool :=
  c.toNat == 0 ||
    ['\t', '\n', '\r', ' ', '#', '/', ':', '<', '>', '?', '@', '[', '\\', ']', '^', '|'].contains c

/-- A host in plain form, for a scheme that makes nothing of it. -/
def readPlain (cs : List Char) : Except Failure (List Char) :=
  if cs.head? = some '[' then bracketed cs
  else if cs.any isForbidden then .error .invalidHost
  else .ok cs

/-- A host in plain form, for a scheme of the web. -/
def readDomain (cs : List Char) : Except Failure (List Char) :=
  if cs.head? = some '[' then bracketed cs
  else
    match Text.Utf8.decode (Text.percentBytes cs) with
    | .error _ => .error .invalidDomain
    | .ok text =>
      match domainName? text.toList with
      | none => .error .invalidDomain
      | some [] => .error .emptyHost
      | some name =>
        if endsInNumber name && !isNumeric name then .error .invalidShortNumber else .ok name

end SlangSql.Connection.Host
