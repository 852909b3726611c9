import SlangSql.Connection.Host
import SlangSql.Number.Decimal

/-!
# Addresses

An address begins with its scheme and a colon. Two slashes after the colon begin an
authority: perhaps a user, a host, and perhaps a number. A path that begins with a
slash loses its dot segments; any other path is kept as it is written. Schemes of the
web always have a host, and files may have one.
-/

set_option autoImplicit false

namespace SlangSql.Connection

structure Address where
  scheme : String
  /-- What follows the colon of the scheme, in plain form. -/
  body : List Char
  deriving DecidableEq, Repr

namespace Address

/-- The characters that count: no blanks at the ends, no tabs or line breaks. -/
def significant (s : String) : List Char :=
  let isEdge (c : Char) := decide (c.toNat ≤ 0x20)
  let trimmed := ((s.toList.dropWhile isEdge).reverse.dropWhile isEdge).reverse
  trimmed.filter fun c => c != '\t' && c != '\n' && c != '\r'

def isSchemeChar (c : Char) : Bool := c.isAlphanum || c == '+' || c == '-' || c == '.'

/-- The scheme in lower case, and what follows its colon. -/
def splitScheme (cs : List Char) : Option (String × List Char) :=
  let scheme := cs.takeWhile isSchemeChar
  match scheme.head?, cs.dropWhile isSchemeChar with
  | some c, ':' :: rest =>
    if c.isAlpha then some (Text.lowerAscii (String.ofList scheme), rest) else none
  | _, _ => none

/-- How the part after the scheme is read. -/
inductive Form where
  /-- A scheme that cannot do without a host. -/
  | web
  | file
  | plain
  deriving DecidableEq, Repr

def Form.ofScheme (scheme : String) : Form :=
  if ["http", "https", "ws", "wss", "ftp"].contains scheme then .web
  else if scheme = "file" then .file
  else .plain

/-- In schemes of the web and of files a backslash counts as a slash. -/
def Form.isSlash (f : Form) (c : Char) : Bool := c == '/' || (f != .plain && c == '\\')

def endsPath (c : Char) : Bool := c == '?' || c == '#'

def Form.endsAuthority (f : Form) (c : Char) : Bool := f.isSlash c || endsPath c

/-- A user in plain form, with its at sign: an empty password is left out, and a user without
a name and a password altogether. -/
def plainUser (user : List Char) : List Char :=
  let name := user.takeWhile (· != ':')
  let password := (user.dropWhile (· != ':')).drop 1
  let shown := if password.isEmpty then name else name ++ ':' :: password
  if shown.isEmpty then [] else shown ++ ['@']

/-- The user in plain form, up to the last at sign of the authority, and what follows it. -/
def splitUser (f : Form) (cs : List Char) : Except Failure (List Char × List Char) :=
  let authority := cs.takeWhile (!f.endsAuthority ·)
  if authority.contains '@' then
    let host := (authority.reverse.takeWhile (· != '@')).reverse
    let size := authority.length - host.length
    let rest := cs.drop size
    if size = 1 ∧ rest.head?.any f.endsAuthority = true then .error .emptyHost
    else .ok (plainUser (cs.take (size - 1)), rest)
  else .ok ([], cs)

/-- The host as written, up to a colon outside of brackets or the end of the authority. -/
def hostChars (f : Form) (inBrackets : Bool) : List Char → List Char
  | [] => []
  | c :: rest =>
    if f.endsAuthority c || (c == ':' && !inBrackets) then []
    else c :: hostChars f (c == '[' || (inBrackets && c != ']')) rest

/-- The number after the colon of a host, in plain form, and what follows it. An empty number
is left out with its colon. -/
def plainNumber (cs : List Char) : Except Failure (List Char × List Char) :=
  let digits := cs.takeWhile Char.isDigit
  let rest := cs.dropWhile Char.isDigit
  let number := Number.digitsValue digits
  if 65535 < number ∨ rest.head?.any (fun c => !endsPath c && c != '/' && c != '\\') = true then
    .error .invalidNumber
  else .ok (if digits.isEmpty then [] else ':' :: (toString number).toList, rest)

/-- The host and its number in plain form, and what follows them. -/
def readHost (f : Form) (cs : List Char) : Except Failure (List Char × List Char) := do
  let written := hostChars f false cs
  let rest := cs.drop written.length
  if f = .web ∧ written.isEmpty = true then throw .emptyHost
  let host ← if f = .plain then Host.readPlain written else Host.readDomain written
  match rest with
  | ':' :: rest' =>
    if host.isEmpty then throw .emptyHost
    let (number, rest'') ← plainNumber rest'
    return (host ++ number, rest'')
  | _ => return (host, rest)

/-- The authority in plain form, and what follows it. A user needs a host. -/
def readAuthority (f : Form) (cs : List Char) : Except Failure (List Char × List Char) := do
  let (user, rest) ← splitUser f cs
  let (host, rest') ← readHost f rest
  if host.isEmpty && !user.isEmpty then throw .emptyHost
  return (user ++ host, rest')

/-- The dots of a segment, which may also be written by their code. -/
def segmentDots (segment : String) : String := (Text.lowerAscii segment).replace "%2e" "."

/-- The name of a drive: a letter, and a colon or a bar. -/
def isDrive (cs : List Char) : Bool :=
  match cs with
  | [letter, mark] => letter.isAlpha && (mark == ':' || mark == '|')
  | _ => false

/-- Takes back the last segment, unless it is a drive. -/
def stepBack (done : List String) : List String :=
  if done.getLast?.any fun s => isDrive s.toList then done else done.dropLast

/-- Takes out the segments `.` and `..`, the latter with the segment before it. -/
def resolveDots (done : List String) : List String → List String
  | [] => done
  | segment :: rest =>
    let ending := if rest.isEmpty then [""] else []
    if segmentDots segment = ".." then resolveDots (stepBack done ++ ending) rest
    else if segmentDots segment = "." then resolveDots (done ++ ending) rest
    else resolveDots (done ++ [segment]) rest

/-- A path in plain form, with what follows it, after its first slash. -/
def plainSegments (cs : List Char) : List Char :=
  let segments := (String.ofList (cs.takeWhile (!endsPath ·))).splitOn "/"
  ("/".intercalate (resolveDots [] segments)).toList ++ cs.dropWhile (!endsPath ·)

/-- A path after an authority. -/
def pathAfterHost (cs : List Char) : List Char :=
  match cs with
  | [] => []
  | '/' :: rest => '/' :: plainSegments rest
  | c :: rest => if endsPath c then c :: rest else '/' :: plainSegments (c :: rest)

/-- A path without an authority; two slashes in front of it are told apart from one. -/
def pathAlone (cs : List Char) : List Char :=
  match cs with
  | '/' :: rest =>
    let path := '/' :: plainSegments rest
    if ['/', '/'].isPrefixOf path then '/' :: '.' :: path else path
  | _ => cs

def plainBody (cs : List Char) : Except Failure (List Char) :=
  match cs with
  | '/' :: '/' :: after =>
    (readAuthority .plain after).map fun r => '/' :: '/' :: r.1 ++ pathAfterHost r.2
  | _ => .ok (pathAlone cs)

def webBody (cs : List Char) : Except Failure (List Char) :=
  (readAuthority .web (cs.dropWhile Form.web.isSlash)).map fun r => '/' :: '/' :: r.1 ++ r.2

/-- The host of a file may be left out, and a drive is none. -/
def fileBody (cs : List Char) : Except Failure (List Char) :=
  match cs with
  | a :: b :: after =>
    if Form.file.isSlash a && Form.file.isSlash b then
      let host := after.takeWhile (!Form.file.endsAuthority ·)
      if host.isEmpty || isDrive host then .ok cs
      else (Host.readDomain host).map fun h => '/' :: '/' :: h ++ after.drop host.length
    else .ok cs
  | _ => .ok cs

/-- Reads an address. -/
def read (s : String) : Except Failure Address :=
  match splitScheme (significant s) with
  | none => .error .noScheme
  | some (scheme, rest) =>
    let body := match Form.ofScheme scheme with
      | .web => webBody rest
      | .file => fileBody rest
      | .plain => plainBody rest
    body.map fun b => ⟨scheme, b⟩

end Address

end SlangSql.Connection
