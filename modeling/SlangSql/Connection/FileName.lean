import SlangSql.Connection.Target
import SlangSql.Text.Percent
import SlangSql.Text.Utf8

/-!
# File names with options

The name of a database file that begins with `file:` is read further: after the
colon there may be an empty or local authority, then come the path and, after a
question mark, options that say how to open the file. An option cannot allow more
than the address does.
-/

set_option autoImplicit false

namespace SlangSql.Connection.FileName

def opening : List Char := "file:".toList

/-- The text of an escaped part, which ends at a byte of zero. -/
def plainText (cs : List Char) : String :=
  Text.Utf8.decodeLossy ((Text.percentBytes cs).takeWhile (· != 0))

/-- The options after the question mark; those without a name do not count. -/
def options (cs : List Char) : List (String × String) :=
  (((String.ofList cs).splitOn "&").map fun part =>
    (plainText (part.toList.takeWhile (· != '=')),
      plainText ((part.toList.dropWhile (· != '=')).drop 1))).filter fun o => !o.1.isEmpty

/-- A name without its authority. -/
def dropAuthority (cs : List Char) : Except Failure (List Char) :=
  match cs with
  | '/' :: '/' :: rest =>
    let authority := String.ofList (rest.takeWhile (· != '/'))
    if authority = "" ∨ authority = "localhost" then .ok (rest.dropWhile (· != '/'))
    else .error (.foreignAuthority authority)
  | _ => .ok cs

/-- Opens the target in another way, which must not allow more than before. -/
def applyMode (t : Target) (value : String) : Except Failure Target :=
  let base := { t with inMemory := false, create := false, readOnly := false }
  let mayCreate := t.inMemory || (t.create && !t.readOnly)
  match value with
  | "ro" => .ok { base with readOnly := true }
  | "rw" => if t.inMemory || !t.readOnly then .ok base else .error (.modeNotAllowed value)
  | "rwc" => if mayCreate then .ok { base with create := true } else .error (.modeNotAllowed value)
  | "memory" => .ok { base with inMemory := true }
  | _ => .error (.noSuchMode "access" value)

/-- The words and numbers that switch an option on. -/
def isOn (value : String) : Bool :=
  let digits := value.toList.takeWhile Char.isDigit
  if digits.isEmpty then ["on", "yes", "true"].contains (Text.lowerAscii value)
  else digits.foldl (fun n c => 10 * n + (c.toNat - '0'.toNat)) 0 % 256 != 0

def applyOption (t : Target) (o : String × String) : Except Failure Target :=
  match o.1 with
  | "vfs" => .ok { t with fileLayer := some o.2 }
  | "mode" => applyMode t o.2
  | "cache" =>
    if o.2 = "shared" ∨ o.2 = "private" then .ok t else .error (.noSuchMode "cache" o.2)
  | _ => .ok t

/-- The target that a name with options leads to. -/
def resolve (t : Target) (cs : List Char) : Except Failure Target := do
  let name ← dropAuthority cs
  let name := name.takeWhile (· != '#')
  let opts := options ((name.dropWhile (· != '?')).drop 1)
  let path := plainText (name.takeWhile (· != '?'))
  let t' ← opts.foldlM applyOption { t with path := path }
  return { t' with immutable := (opts.lookup "immutable").any isOn }

end SlangSql.Connection.FileName
