/-!
# Places of files

A place is given by the parts of its path, from the working directory or from the
root. Above the working directory there are further folders, whose names are not
known; the parts of a place there begin with two dots.
-/

set_option autoImplicit false

namespace SlangSql.Terminal

structure Place where
  fromRoot : Bool
  parts : List String
  deriving DecidableEq, Repr

namespace Place

def root : Place := ⟨true, []⟩

/-- The working directory. -/
def here : Place := ⟨false, []⟩

def child (p : Place) (name : String) : Place := { p with parts := p.parts ++ [name] }

def parent (p : Place) : Place :=
  if p.fromRoot then { p with parts := p.parts.dropLast }
  else
    match p.parts.getLast? with
    | none | some ".." => p.child ".."
    | some _ => { p with parts := p.parts.dropLast }

/-- Where a path begins. -/
def start (path : String) : Place := if path.startsWith "/" then root else here

/-- What stands between the slashes of a path. -/
def names (path : String) : List String := path.splitOn "/"

/-- A name that leads nowhere else. -/
def isIdle (name : String) : Bool := name = "" || name = "."

/-- Goes one name further; two dots go back. -/
def step (p : Place) (name : String) : Place :=
  if isIdle name then p else if name = ".." then p.parent else p.child name

/-- The place that a path means if all its folders are there. -/
def ofPath (path : String) : Place := (names path).foldl step (start path)

/-- Another place lies in this one. -/
def isAbove (upper lower : Place) : Bool :=
  upper.fromRoot == lower.fromRoot && upper.parts.isPrefixOf lower.parts &&
    decide (upper.parts.length < lower.parts.length)

/-- The working directory, or a folder around it. -/
def surrounds (p : Place) : Bool := !p.fromRoot && p.parts.all (· = "..")

end Place

end SlangSql.Terminal
