import SlangSql.Toml.Scalar
import SlangSql.Toml.Tree

/-!
# TOML documents

A document is a sequence of lines: headings, pairs of a key and a value, and
comments. Reading gives the entries of the outermost table, or nothing if the
text is no TOML.
-/

set_option autoImplicit false

namespace SlangSql.Toml

/-- Drops blanks, comments and line breaks, as they may stand between array items. -/
def skipLines (cs : List Char) : List Char :=
  let rest := skipComment (skipGap cs)
  match newline? rest with
  | some rest' => if rest'.length < cs.length then skipLines rest' else rest'
  | none => rest
termination_by cs.length

/-- The items of an array after its opening bracket. -/
def arrayItems (item : Reader Value) (cs : List Char) : Option (List Value × List Char) :=
  match skipLines cs with
  | ']' :: rest => some ([], rest)
  | start =>
    match item start with
    | none => none
    | some (v, rest) =>
      match skipLines rest with
      | ']' :: rest' => some ([v], rest')
      | ',' :: rest' =>
        if rest'.length < cs.length then
          (arrayItems item rest').map fun r => (v :: r.1, r.2)
        else none
      | _ => none
termination_by cs.length

/-- A key, an equals sign and a value. -/
def pair (item : Reader Value) (cs : List Char) : Option ((List String × Value) × List Char) := do
  let (path, rest) ← key cs
  let rest ← expectChar '=' rest
  let (v, rest) ← item (skipGap rest)
  return ((path, v), rest)

/-- The pairs of a table between braces, at least one; the closing brace ends them. -/
def inlinePairs (item : Reader Value) (cs : List Char) :
    Option (List (List String × Value) × List Char) :=
  match pair item cs with
  | none => none
  | some (p, rest) =>
    match skipGap rest with
    | '\x7d' :: rest' => some ([p], rest')
    | ',' :: rest' =>
      if rest'.length < cs.length then
        (inlinePairs item rest').map fun r => (p :: r.1, r.2)
      else none
    | _ => none
termination_by cs.length

/-- Gives the key at the end of a path a value. -/
def addPair (base : List String) (p : List String × Value) (entries : Entries) :
    Option Entries :=
  match p.1.getLast? with
  | none => none
  | some k => changeAt .implied (setValue p.1.dropLast k p.2) base .heading entries

/-- The table that pairs between braces make. -/
def inlineTable (pairs : List (List String × Value)) : Option Value :=
  (pairs.foldlM (fun entries p => addPair [] p entries) []).map fun es => .table (entryValues es)

/-- A value, with other values nested in it up to a depth. -/
def value : Nat → Reader Value
  | 0, cs => scalar cs
  | depth + 1, cs =>
    match cs with
    | '[' :: rest => (arrayItems (value depth) rest).map fun r => (.array r.1, r.2)
    | '\x7b' :: rest =>
      match skipGap rest with
      | '\x7d' :: rest' => some (.table [], rest')
      | start => do
        let (pairs, rest') ← inlinePairs (value depth) start
        return (← inlineTable pairs, rest')
    | _ => scalar cs

inductive Line where
  | heading (path : List String)
  | repeated (path : List String)
  | pair (path : List String) (v : Value)
  deriving Repr

/-- A heading after its first bracket. -/
def headingLine (cs : List Char) : Option (Line × List Char) :=
  match cs with
  | '[' :: rest => do
    let (path, rest) ← key rest
    let rest ← expectChar ']' rest
    let rest ← expectChar ']' rest
    return (.repeated path, rest)
  | _ => do
    let (path, rest) ← key cs
    let rest ← expectChar ']' rest
    return (.heading path, rest)

def contentLine (cs : List Char) : Option (Line × List Char) :=
  match cs with
  | '[' :: rest => headingLine rest
  | _ => (pair (value nestingLimit) cs).map fun r => (.pair r.1.1 r.1.2, r.2)

/-- The lines of a document that are not empty. -/
def contentLines (cs : List Char) : Option (List Line) :=
  match skipComment (skipGap cs) with
  | [] => some []
  | c :: cs' =>
    match newline? (c :: cs') with
    | some rest => if rest.length < cs.length then contentLines rest else none
    | none =>
      match contentLine (c :: cs') with
      | none => none
      | some (line, rest) =>
        match skipComment (skipGap rest) with
        | [] => some [line]
        | d :: rest' =>
          match newline? (d :: rest') with
          | none => none
          | some rest'' =>
            if rest''.length < cs.length then (contentLines rest'').map (line :: ·) else none
termination_by cs.length

/-- The table in use, as the path of its heading, and the entries read so far. -/
structure Progress where
  base : List String
  entries : Entries

def Progress.open (change : String → Change) (path : List String) (p : Progress) :
    Option Progress := do
  let k ← path.getLast?
  return ⟨path, ← changeAt .implied (change k) path.dropLast .heading p.entries⟩

def Progress.add (p : Progress) : Line → Option Progress
  | .heading path => p.open openTable path
  | .repeated path => p.open openRepeated path
  | .pair path v => do return { p with entries := ← addPair p.base (path, v) p.entries }

/-- The entries of a document; a byte order mark in front is passed over. -/
def parse? (text : String) : Option (List (String × Value)) := do
  let cs := match text.toList with
    | '\ufeff' :: rest => rest
    | cs => cs
  let lines ← contentLines cs
  let p ← lines.foldlM Progress.add ⟨[], []⟩
  return entryValues p.entries

end SlangSql.Toml
