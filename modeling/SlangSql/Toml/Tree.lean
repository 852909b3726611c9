import SlangSql.Toml.Value

/-!
# Trees of TOML tables

A document is built up line by line. For every table it is kept how it came
about, because a table is opened by a heading at most once, and tables made by
joined keys and tables opened by headings do not mix.
-/

set_option autoImplicit false

namespace SlangSql.Toml

/-- How a table came about. -/
inductive Origin where
  /-- By a heading of its own. -/
  | heading
  /-- As part of the heading of another table. -/
  | implied
  /-- By a joined key. -/
  | joined
  deriving DecidableEq, Repr

inductive Node where
  | value (v : Value)
  | table (origin : Origin) (entries : List (String × Node))
  /-- Tables under one repeated heading, the latest first. -/
  | tables (latest : List (String × Node)) (earlier : List (List (String × Node)))
  deriving Repr

abbrev Entries := List (String × Node)

namespace Entries

def set (key : String) (node : Node) : Entries → Entries
  | [] => [(key, node)]
  | e :: rest => if e.1 = key then (key, node) :: rest else e :: set key node rest

end Entries

/-- A change to the entries of a table that may be refused, given how the table came about. -/
abbrev Change := Origin → Entries → Option Entries

/-- Makes a change to the table at the end of a path; missing tables on the way are made. -/
def changeAt (fresh : Origin) (change : Change) :
    List String → Origin → Entries → Option Entries
  | [], origin, entries => change origin entries
  | k :: path, _, entries =>
    match entries.lookup k with
    | none => do
      let inner ← changeAt fresh change path fresh []
      return Entries.set k (.table fresh inner) entries
    | some (.value _) => none
    | some (.table origin inner) =>
      if fresh = .joined ∧ origin = .heading then none
      else do
        let inner' ← changeAt fresh change path origin inner
        return Entries.set k (.table origin inner') entries
    | some (.tables latest earlier) => do
      let latest' ← changeAt fresh change path .heading latest
      return Entries.set k (.tables latest' earlier) entries

/-- Gives a key a value, under the parts of the key in front of it. -/
def setValue (path : List String) (key : String) (v : Value) : Change :=
  changeAt .joined
    (fun origin entries =>
      if decide (origin = .joined) == path.isEmpty then none
      else if (entries.lookup key).isSome then none
      else some (Entries.set key (.value v) entries))
    path

/-- Opens the table of a heading. -/
def openTable (key : String) : Change := fun _ entries =>
  match entries.lookup key with
  | none => some (Entries.set key (.table .heading []) entries)
  | some (.table .implied inner) => some (Entries.set key (.table .heading inner) entries)
  | some _ => none

/-- Opens another table of a repeated heading. -/
def openRepeated (key : String) : Change := fun _ entries =>
  match entries.lookup key with
  | none => some (Entries.set key (.tables [] []) entries)
  | some (.tables latest earlier) =>
    some (Entries.set key (.tables [] (latest :: earlier)) entries)
  | some _ => none

mutual

/-- The value that a node stands for. -/
def Node.toValue : Node → Value
  | .value v => v
  | .table _ entries => .table (entryValues entries)
  | .tables latest earlier =>
    .array ((.table (entryValues latest) :: tableValues earlier).reverse)

def entryValues : List (String × Node) → List (String × Value)
  | [] => []
  | (k, n) :: rest => (k, n.toValue) :: entryValues rest

def tableValues : List (List (String × Node)) → List Value
  | [] => []
  | t :: rest => .table (entryValues t) :: tableValues rest

end

end SlangSql.Toml
