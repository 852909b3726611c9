import SlangSql.Number.Shortest

/-!
# JSON values

JSON values with two printers: one without blanks, and one with a line for every
member, indented by two blanks. Members are written in the order in which they
are given.
-/

set_option autoImplicit false

namespace SlangSql

inductive Json where
  | null
  | bool (b : Bool)
  | int (n : Int)
  | real (x : Number.Binary)
  | text (s : String)
  | array (items : List Json)
  | object (members : List (String × Json))
  deriving Repr

namespace Json

def hexDigit (n : Nat) : Char := Nat.digitChar n

/-- A character inside a JSON text: quotes, backslashes and control characters are escaped. -/
def escapeChar (c : Char) : List Char :=
  if c = '"' then ['\\', '"']
  else if c = '\\' then ['\\', '\\']
  else if c = '\x08' then ['\\', 'b']
  else if c = '\x09' then ['\\', 't']
  else if c = '\x0a' then ['\\', 'n']
  else if c = '\x0c' then ['\\', 'f']
  else if c = '\x0d' then ['\\', 'r']
  else if c.toNat < 0x20 then
    ['\\', 'u', '0', '0', hexDigit (c.toNat / 16), hexDigit (c.toNat % 16)]
  else [c]

def quoted (s : String) : String :=
  String.ofList ('"' :: s.toList.flatMap escapeChar ++ ['"'])

def intText (n : Int) : String :=
  String.ofList ((if n < 0 then ['-'] else []) ++ Number.digitChars n.natAbs)

/-- A number that is not finite has no JSON form. -/
def realText : Number.Binary → String
  | .infinite _ => "null"
  | x => x.text

mutual

/-- The value without blanks. -/
def compact : Json → String
  | .null => "null"
  | .bool b => if b then "true" else "false"
  | .int n => intText n
  | .real x => realText x
  | .text s => quoted s
  | .array items => "[" ++ ",".intercalate (compactItems items) ++ "]"
  | .object members => "\x7b" ++ ",".intercalate (compactMembers members) ++ "\x7d"

def compactItems : List Json → List String
  | [] => []
  | v :: rest => compact v :: compactItems rest

def compactMembers : List (String × Json) → List String
  | [] => []
  | (k, v) :: rest => (quoted k ++ ":" ++ compact v) :: compactMembers rest

end

/-- Lines between brackets, the inner ones indented. -/
def block (left right : String) (indent : Nat) (items : List String) : String :=
  if items.isEmpty then left ++ right
  else
    let pad := String.ofList (List.replicate (2 * indent) ' ')
    left ++ "\n" ++ ",\n".intercalate (items.map fun s => pad ++ "  " ++ s) ++
      "\n" ++ pad ++ right

mutual

/-- The value with a line for every member, at a depth of indentation. -/
def prettyAt (indent : Nat) : Json → String
  | .array items => block "[" "]" indent (prettyItems (indent + 1) items)
  | .object members => block "\x7b" "\x7d" indent (prettyMembers (indent + 1) members)
  | .null => "null"
  | .bool b => if b then "true" else "false"
  | .int n => intText n
  | .real x => realText x
  | .text s => quoted s

def prettyItems (indent : Nat) : List Json → List String
  | [] => []
  | v :: rest => prettyAt indent v :: prettyItems indent rest

def prettyMembers (indent : Nat) : List (String × Json) → List String
  | [] => []
  | (k, v) :: rest => (quoted k ++ ": " ++ prettyAt indent v) :: prettyMembers indent rest

end

def pretty (v : Json) : String := prettyAt 0 v

end Json

end SlangSql
