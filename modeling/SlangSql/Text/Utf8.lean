/-!
# Bytes as text

A character is one to four bytes long. The first byte gives the length, and a few
first bytes narrow down the second one. Bytes that are no text are cut into the
longest beginnings of characters, and a text that ends inside a character is told
apart from one with a wrong byte.
-/

set_option autoImplicit false

namespace SlangSql.Text.Utf8

/-- What stands at the front of some bytes. -/
inductive Front where
  | char (c : Char) (length : Nat)
  /-- Bytes that no text can have; the next byte does not go on with them. -/
  | broken (length : Nat)
  /-- The bytes end inside a character. -/
  | unfinished
  deriving DecidableEq, Repr

/-- The number of bytes of a character by its first byte, or zero. -/
def lengthOf (first : Nat) : Nat :=
  if first < 0x80 then 1
  else if first < 0xc2 then 0
  else if first < 0xe0 then 2
  else if first < 0xf0 then 3
  else if first < 0xf5 then 4
  else 0

/-- The second bytes that may follow a first one. -/
def secondRange (first : Nat) : Nat × Nat :=
  if first = 0xe0 then (0xa0, 0xbf)
  else if first = 0xed then (0x80, 0x9f)
  else if first = 0xf0 then (0x90, 0xbf)
  else if first = 0xf4 then (0x80, 0x8f)
  else (0x80, 0xbf)

/-- The part of a code point that the first byte holds. -/
def firstBits (first length : Nat) : Nat :=
  if length = 1 then first else first % Nat.pow 2 (7 - length)

/-- Reads the bytes that a character still needs, after `taken` of its bytes. -/
def follow (taken value : Nat) (range : Nat × Nat) : Nat → List UInt8 → Front
  | 0, _ => .char (Char.ofNat value) taken
  | _ + 1, [] => .unfinished
  | need + 1, b :: rest =>
    if range.1 ≤ b.toNat ∧ b.toNat ≤ range.2 then
      follow (taken + 1) (64 * value + b.toNat % 64) (0x80, 0xbf) need rest
    else .broken taken

def front (first : UInt8) (rest : List UInt8) : Front :=
  match lengthOf first.toNat with
  | 0 => .broken 1
  | n + 1 => follow 1 (firstBits first.toNat (n + 1)) (secondRange first.toNat) n rest

def Front.length : Front → Nat
  | .char _ n => n
  | .broken n => n
  | .unfinished => 0

/-- Cuts bytes into characters and bytes that are none; `skip` of the bytes are used up. -/
def fronts (skip : Nat) : List UInt8 → List Front
  | [] => []
  | b :: rest =>
    match skip with
    | n + 1 => fronts n rest
    | 0 =>
      match front b rest with
      | .unfinished => [.unfinished]
      | f => f :: fronts (f.length - 1) rest

/-- Why bytes are no text, and where. -/
inductive Fault where
  | broken (length index : Nat)
  | unfinished (index : Nat)
  deriving DecidableEq, Repr

def Fault.text : Fault → String
  | .broken n i =>
    "invalid utf-8 sequence of " ++ toString n ++ " bytes from index " ++ toString i
  | .unfinished i => "incomplete utf-8 byte sequence from index " ++ toString i

/-- The characters before the first fault, which is counted from `index` on. -/
def strictChars (index : Nat) : List Front → Except Fault (List Char)
  | [] => .ok []
  | .char c n :: rest => (strictChars (index + n) rest).map (c :: ·)
  | .broken n :: _ => .error (.broken n index)
  | .unfinished :: _ => .error (.unfinished index)

/-- The text of the bytes, if they are one. -/
def decode (bytes : List UInt8) : Except Fault String :=
  (strictChars 0 (fronts 0 bytes)).map String.ofList

/-- What is written where bytes are no text. -/
def replacement : Char := '\ufffd'

def Front.shown : Front → Char
  | .char c _ => c
  | _ => replacement

/-- The text of the bytes, with a replacement for all that is none. -/
def decodeLossy (bytes : List UInt8) : String :=
  String.ofList ((fronts 0 bytes).map Front.shown)

end SlangSql.Text.Utf8
