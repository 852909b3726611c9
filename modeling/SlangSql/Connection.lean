import SlangSql.Connection.Address
import SlangSql.Connection.FileName

/-!
# What an address asks for

The one scheme that is served is that of database files. After the scheme stands
the name of a file, or the word for a database in memory, and after a question
mark there are parameters. A file is made only if the address asks for it.
-/

set_option autoImplicit false

namespace SlangSql.Connection

/-- A name or value among the parameters, in which a plus sign stands for a blank. -/
def parameterText (cs : List Char) : String :=
  Text.Utf8.decodeLossy (Text.percentBytes (cs.map fun c => if c = '+' then ' ' else c))

/-- The parameters after the question mark. -/
def parameters (text : String) : List (String × String) :=
  ((text.splitOn "&").filter fun part => !part.isEmpty).map fun part =>
    let cs := part.toList
    (parameterText (cs.takeWhile (· != '=')), parameterText ((cs.dropWhile (· != '=')).drop 1))

def applyMode (t : Target) (value : String) : Except Failure Target :=
  match value with
  | "ro" => .ok { t with readOnly := true }
  | "rw" => .ok t
  | "rwc" => .ok { t with create := true }
  | "memory" => .ok { t with inMemory := true }
  | _ => .error (.unknownValue "mode" value)

def applyImmutable (t : Target) (value : String) : Except Failure Target :=
  match value with
  | "true" | "1" => .ok { t with immutable := true }
  | "false" | "0" => .ok { t with immutable := false }
  | _ => .error (.unknownValue "immutable" value)

/-- A cache of its own or a shared one: nothing that answers depend on. -/
def applyCache (t : Target) (value : String) : Except Failure Target :=
  match value with
  | "private" | "shared" => .ok t
  | _ => .error (.unknownValue "cache" value)

def applyParameter (t : Target) (p : String × String) : Except Failure Target :=
  match p.1 with
  | "mode" => applyMode t p.2
  | "cache" => applyCache t p.2
  | "immutable" => applyImmutable t p.2
  | "vfs" => .ok { t with fileLayer := some p.2 }
  | name => .error (.unknownParameter name)

/-- Drops a beginning as often as it is there. -/
def dropRepeated (start cs : List Char) : List Char :=
  if _h : start.isPrefixOf cs = true ∧ 0 < start.length then
    dropRepeated start (cs.drop start.length)
  else cs
termination_by cs.length
decreasing_by
  have := (List.isPrefixOf_iff_prefix.1 _h.1).length_le
  simp only [List.length_drop]
  omega

/-- The scheme of database files. -/
def fileScheme : String := "sqlite"

/-- The target by the name of a file, before any parameter. -/
def namedTarget (name : List Char) : Except Failure Target :=
  if String.ofList name = Target.memoryName then .ok { path := "", inMemory := true }
  else
    match Text.Utf8.decode (Text.percentBytes name) with
    | .ok path => .ok { path := path }
    | .error f => .error (.unreadableName f)

/-- A byte of zero ends a text. -/
def upToZero (s : String) : String := String.ofList (s.toList.takeWhile (·.toNat != 0))

/-- How the name of a layer is handed on: blanks are written as plus signs. -/
def layerName (s : String) : String :=
  upToZero (String.ofList (s.toList.map fun c => if c = ' ' then '+' else c))

/-- The target with its name read to the end. With some parameters the name is taken as it is;
without them it must not hold a byte of zero, and may have options of its own. -/
def settle (t : Target) : Except Failure Target :=
  if t.immutable || t.fileLayer.isSome then
    .ok { t with path := upToZero t.path, fileLayer := t.fileLayer.map layerName }
  else if t.path.toList.any (·.toNat == 0) then .error .zeroInName
  else if FileName.opening.isPrefixOf t.path.toList then
    FileName.resolve t (t.path.toList.drop FileName.opening.length)
  else .ok t

/-- The target of an address of a database file. -/
def fileTarget (body : List Char) : Except Failure Target := do
  let scheme := fileScheme.toList ++ [':']
  let rest := dropRepeated scheme (dropRepeated (scheme ++ ['/', '/']) (scheme ++ body))
  let text := String.ofList ((rest.dropWhile (· != '?')).drop 1)
  let base ← namedTarget (rest.takeWhile (· != '?'))
  settle (← (parameters text).foldlM applyParameter base)

/-- Schemes of servers. No server is reached from here. -/
def serverSchemes : List String := ["postgres", "postgresql"]

/-- Reads what an address asks for. -/
def target (url : String) : Except Failure Target :=
  match Address.read url with
  | .error f => .error f
  | .ok a =>
    if a.scheme = fileScheme then fileTarget a.body
    else if serverSchemes.contains a.scheme then .error .timedOut
    else .error (.unknownScheme a.scheme)

end SlangSql.Connection
