import SlangSql.Toml.Document
import SlangSql.Vocabulary.Standard

/-!
# Settings

A settings document has a part for the database and extra words for operations.
The words are added in ascending order of the operation names as written, each
name's words all or nothing, up to the first name that fails.
-/

set_option autoImplicit false

namespace SlangSql

structure DatabaseSettings where
  url : Option String := none
  maxConnections : Nat := 5
  deriving DecidableEq, Repr

structure Settings where
  database : DatabaseSettings := {}
  /-- Words by operation name. -/
  aliases : List (String × List String) := []
  deriving DecidableEq, Repr

namespace Settings

/-- A count of connections has 32 bits. -/
def readCount? : Toml.Value → Option Nat
  | .integer n => if 0 ≤ n ∧ n < (Nat.pow 2 32 : Nat) then some n.toNat else none
  | _ => none

def readText? : Toml.Value → Option String
  | .text s => some s
  | _ => none

def setDatabaseField (d : DatabaseSettings) (entry : String × Toml.Value) :
    Option DatabaseSettings :=
  if entry.1 = "url" then (readText? entry.2).map fun s => { d with url := some s }
  else if entry.1 = "max_connections" then
    (readCount? entry.2).map fun n => { d with maxConnections := n }
  else none

/-- The database part: a table, or an array whose first two items are taken by position. -/
def readDatabase? : Toml.Value → Option DatabaseSettings
  | .table entries => entries.foldlM setDatabaseField {}
  | .array items => ((["url", "max_connections"]).zip items).foldlM setDatabaseField {}
  | _ => none

def readWords? : Toml.Value → Option (List String)
  | .array items => items.mapM readText?
  | _ => none

def readAliases? : Toml.Value → Option (List (String × List String))
  | .table entries => entries.mapM fun e => (readWords? e.2).map fun ws => (e.1, ws)
  | _ => none

def setField (s : Settings) (entry : String × Toml.Value) : Option Settings :=
  if entry.1 = "database" then (readDatabase? entry.2).map fun d => { s with database := d }
  else if entry.1 = "aliases" then (readAliases? entry.2).map fun a => { s with aliases := a }
  else none

/-- Reads a settings document; every way to fail has the same wording. -/
def parse (text : String) : Except Error Settings :=
  match (Toml.parse? text).bind fun entries => entries.foldlM setField {} with
  | some s => .ok s
  | none => .error (.configuration "TOML parse error")

/-- The names with their words, in ascending order of names. -/
def groups (s : Settings) : List (String × List String) :=
  s.aliases.mergeSort fun a b => decide (a.1 ≤ b.1)

/-- Adds the words of one name. -/
def addGroup (v : Vocabulary) (g : String × List String) : Except Error Vocabulary :=
  match Operation.read g.1 with
  | .ok op => v.extend op g.2
  | .error e => .error e

/-- Adds groups up to the first that fails; gives what was added until then and the failure. -/
def addGroups (v : Vocabulary) : List (String × List String) → Vocabulary × Option Error
  | [] => (v, none)
  | g :: rest =>
    match addGroup v g with
    | .ok v' => addGroups v' rest
    | .error e => (v, some e)

/-- Adds all words of the settings to a vocabulary. -/
def applyAliases (s : Settings) (v : Vocabulary) : Vocabulary × Option Error :=
  addGroups v s.groups

/-- The standard vocabulary with the words of the settings. -/
def vocabulary (s : Settings) : Except Error Vocabulary :=
  match s.applyAliases .standard with
  | (v, none) => .ok v
  | (_, some e) => .error e

end Settings

end SlangSql
