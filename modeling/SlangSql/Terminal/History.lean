import SlangSql.Terminal.Directory

/-!
# The history of the prompt

Entered lines are kept in a file from one prompt loop to the next, the oldest first.
A line that repeats the one before it is not kept again, and only the last hundred
lines are kept. In the file every entry takes one line, after a heading; backslashes
and line breaks inside an entry are escaped.
-/

set_option autoImplicit false

namespace SlangSql.Terminal

structure History where
  entries : List String
  /-- There is an entry that the file does not have. -/
  isChanged : Bool
  deriving DecidableEq, Repr

namespace History

def fileName : String := ".brainrot_history"
def heading : String := "#V2"
def limit : Nat := 100

def empty : History := ⟨[], false⟩

def add (h : History) (line : String) : History :=
  if line = "" ∨ h.entries.getLast? = some line then h
  else
    let entries := h.entries ++ [line]
    ⟨entries.drop (entries.length - limit), true⟩

def escape : List Char → List Char
  | [] => []
  | '\\' :: rest => '\\' :: '\\' :: escape rest
  | '\n' :: rest => '\\' :: 'n' :: escape rest
  | c :: rest => c :: escape rest

/-- Takes back the escapes; nothing if a backslash escapes anything else. -/
def unescape? : List Char → Option (List Char)
  | [] => some []
  | '\\' :: '\\' :: rest => (unescape? rest).map ('\\' :: ·)
  | '\\' :: 'n' :: rest => (unescape? rest).map ('\n' :: ·)
  | c :: rest => if c = '\\' then none else (unescape? rest).map (c :: ·)

/-- An entry as it is read; one with wrong escapes stays as it is written. -/
def unescape (line : String) : String := ((unescape? line.toList).map String.ofList).getD line

/-- The lines of a file, without the carriage return at the end of each. -/
def fileLines (content : String) : List String :=
  let parts := content.splitOn "\n"
  let lines := if parts.getLast? = some "" then parts.dropLast else parts
  lines.map fun l => if l.endsWith "\r" then String.ofList l.toList.dropLast else l

/-- The history in a file. Without the heading, its lines are entries without escapes. -/
def ofText (content : String) : History :=
  let h := match fileLines content with
    | [] => empty
    | first :: rest =>
      if first = heading then (rest.map unescape).foldl add empty
      else (first :: rest).foldl add empty
  { h with isChanged := false }

def toText (h : History) : String :=
  String.join ((heading :: h.entries.map fun e => String.ofList (escape e.toList)).map (· ++ "\n"))

/-- The history of a directory, empty if there is none. -/
def load (d : Directory) : History :=
  match d.readText fileName with
  | .ok content => ofText content
  | .error _ => empty

/-- Keeps the history in its file, if there is anything new and a file can be there. -/
def save (h : History) (d : Directory) : Directory :=
  let place := Place.here.child fileName
  if h.isChanged && !d.isFolder place then d.put place (.text h.toText) else d

end History

end SlangSql.Terminal
