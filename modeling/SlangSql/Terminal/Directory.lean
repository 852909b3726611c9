import SlangSql.Connection
import SlangSql.Store.Access
import SlangSql.Store.Table
import SlangSql.Terminal.Place

/-!
# The working directory

Files by their places: texts and databases. A folder is there if a file lies in it.
Of what lies outside the directory only the folders around it, the usual folders of
the root and the empty device are known. Opening a database gives its contents, and
the contents are put back when the work is done.
-/

set_option autoImplicit false

namespace SlangSql.Terminal

inductive Entry where
  | text (content : String)
  | database (db : Store.Database)
  deriving DecidableEq, Repr

structure Directory where
  files : List (Place × Entry)
  deriving DecidableEq, Repr

/-- What is found at a place. -/
inductive Node where
  | folder
  | file (e : Entry)
  /-- A device that is always empty. -/
  | device
  deriving DecidableEq, Repr

/-- Why a text file cannot be read. -/
inductive Trouble where
  | missing
  | notFolder
  | isFolder
  | longName
  | notText
  deriving DecidableEq, Repr

def Trouble.text : Trouble → String
  | .missing => "No such file or directory (os error 2)"
  | .notFolder => "Not a directory (os error 20)"
  | .isFolder => "Is a directory (os error 21)"
  | .longName => "File name too long (os error 36)"
  | .notText => "stream did not contain valid UTF-8"

/-- A database that has been opened. -/
structure Opened where
  /-- The file to put the contents back to. -/
  place : Option Place
  database : Store.Database
  access : Store.Access
  deriving DecidableEq, Repr

namespace Directory

/-- The folders that lie in the root. -/
def rootFolders : List String :=
  ["bin", "boot", "dev", "etc", "home", "lib", "lib64", "media", "mnt", "opt", "proc", "root",
   "run", "sbin", "srv", "sys", "tmp", "usr", "var"]

/-- What lies outside the directory. -/
def outerNode? (p : Place) : Option Node :=
  if p.surrounds then some .folder
  else if p.fromRoot then
    match p.parts with
    | [] => some .folder
    | [name] => if rootFolders.contains name then some .folder else none
    | ["dev", "null"] => some .device
    | _ => none
  else none

def node? (d : Directory) (p : Place) : Option Node :=
  match d.files.lookup p with
  | some e => some (.file e)
  | none =>
    if d.files.any fun f => p.isAbove f.1 then some .folder else outerNode? p

def isFolder (d : Directory) (p : Place) : Bool := d.node? p == some .folder

/-- There is a text or a database at a path. -/
def hasFile (d : Directory) (path : String) : Bool :=
  match d.node? (.ofPath path) with
  | some (.file _) => true
  | _ => false

def put (d : Directory) (p : Place) (entry : Entry) : Directory :=
  ⟨(p, entry) :: d.files.filter fun f => f.1 != p⟩

/-- The longest name and the longest path, in bytes. -/
def nameLimit : Nat := 255
def pathLimit : Nat := 4095

def isLongName (name : String) : Bool := decide (nameLimit < name.utf8ByteSize)

/-- Goes through the names of a path one by one; each must lie in a folder. -/
def walk (d : Directory) (p : Place) : List String → Except Trouble Place
  | [] => .ok p
  | name :: rest =>
    if !d.isFolder p then .error .notFolder
    else if isLongName name then .error .longName
    else if (d.node? (p.step name)).isNone then .error .missing
    else walk d (p.step name) rest

/-- The content of a text file. A database without tables is an empty file, any other is no
text. -/
def readText (d : Directory) (path : String) : Except Trouble String :=
  if path = "" then .error .missing
  else if pathLimit < path.utf8ByteSize then .error .longName
  else
    match d.walk (.start path) (Place.names path) with
    | .error t => .error t
    | .ok p =>
      match d.node? p with
      | some (.file (.text content)) => .ok content
      | some (.file (.database db)) => if db.tables.isEmpty then .ok "" else .error .notText
      | some .folder => .error .isFolder
      | some .device => .ok ""
      | none => .error .missing

/-- Something other than a folder is at a place. -/
def isOccupied (d : Directory) (p : Place) : Bool := (d.node? p).any (· != .folder)

/-- The place of a database file. Two dots go back also where no folder is, but nothing lies in
a file. -/
def locate (d : Directory) (p : Place) : List String → Option Place
  | [] => if p = .root then none else some p
  | name :: rest =>
    if !Place.isIdle name && name != ".." && (isLongName name || d.isOccupied p) then none
    else locate d (p.step name) rest

/-- Beside a database a record of changes is kept, whose name is longer. -/
def recordNameExtra : Nat := "-journal".utf8ByteSize

/-- What may be done with a database file at a place. -/
def accessAt (t : Connection.Target) (p : Place) : Store.Access :=
  if t.isFixed then .refusing .readOnly
  else if nameLimit < (p.parts.getLastD "").utf8ByteSize + recordNameExtra then
    .refusing .cannotOpen
  else .full

def memoryAccess (t : Connection.Target) : Store.Access :=
  if t.isFixed then .refusing .readOnly else .full

/-- A file of at most one byte is an empty database. -/
def isBlankFile (content : String) : Bool := decide (content.utf8ByteSize ≤ 1)

/-- Opens a file. A text that is no database shows only later. -/
def openFile (d : Directory) (t : Connection.Target) : Except Connection.Failure Opened :=
  match d.locate (.start t.path) (Place.names t.path) with
  | none => .error .cannotOpen
  | some p =>
    match d.node? p with
    | some (.file (.database db)) => .ok ⟨some p, db, accessAt t p⟩
    | some (.file (.text content)) =>
      if isBlankFile content then .ok ⟨some p, .empty, accessAt t p⟩
      else .ok ⟨none, .empty, .unreadable⟩
    | some .device =>
      .ok ⟨none, .empty, .refusing (if t.isFixed then .readOnly else .deviceFailure)⟩
    | some .folder => .error (if t.readOnly then .cannotRead else .cannotOpen)
    | none =>
      if t.create && !t.readOnly && d.isFolder p.parent then .ok ⟨some p, .empty, accessAt t p⟩
      else .error .cannotOpen

/-- The ways of reaching files. -/
def fileLayers : List String := ["unix", "unix-dotfile", "unix-excl", "unix-none", "memdb"]

def openTarget (d : Directory) (t : Connection.Target) : Except Connection.Failure Opened :=
  match t.fileLayer.filter (!fileLayers.contains ·) with
  | some name => .error (.noFileLayer name)
  | none => if t.isFileless then .ok ⟨none, .empty, memoryAccess t⟩ else d.openFile t

/-- Opens a database by its address. -/
def connect (d : Directory) (url : String) : Except Error Opened :=
  match Connection.target url >>= d.openTarget with
  | .ok o => .ok o
  | .error f => .error f.error

/-- Puts the contents of a database back. A file in which no table was made stays as it is. -/
def store (d : Directory) (place : Option Place) (db : Store.Database) : Directory :=
  match place with
  | some p => if db.tables.isEmpty && (d.node? p).isSome then d else d.put p (.database db)
  | none => d

end Directory

end SlangSql.Terminal
