import SlangSql.Json
import SlangSql.Store.Value

/-!
# Row sets

The answer to a SELECT: column names and rows of cells. A cell depends on the
stored value only. An integer is shown by its low 32 bits as a signed number.
-/

set_option autoImplicit false

namespace SlangSql

inductive Cell where
  | null
  | int (n : Int)
  | real (x : Number.Binary)
  | text (s : String)
  deriving DecidableEq, Repr

namespace Cell

/-- The signed number with the same low 32 bits. -/
def lowBits (n : Int) : Int := Int.bmod n (Nat.pow 2 32)

def ofValue : Store.Value → Cell
  | .null => .null
  | .integer n => .int (lowBits n)
  | .real (.infinite _) => .null
  | .real x => .real x
  | .text s => .text s
  | .blob _ => .null

def isNull : Cell → Bool
  | .null => true
  | _ => false

def toJson : Cell → Json
  | .null => .null
  | .int n => .int n
  | .real x => .real x
  | .text s => .text s

/-- The cell in a table of text. -/
def display : Cell → String
  | .null => "NULL"
  | .int n => Json.intText n
  | .real x => Json.realText x
  | .text s => s

end Cell

structure RowSet where
  columns : List String
  rows : List (List Cell)
  deriving DecidableEq, Repr

namespace RowSet

def empty : RowSet := ⟨[], []⟩

def size (r : RowSet) : Nat := r.rows.length

def isEmpty (r : RowSet) : Bool := r.rows.isEmpty

/-- The cell of a row in the first column of a name. -/
def get? (r : RowSet) (row : Nat) (column : String) : Option Cell := do
  let i ← r.columns.findIdx? (· == column)
  let cells ← r.rows[row]?
  cells[i]?

/-- The cell is NULL or there is none. -/
def isNull (r : RowSet) (row : Nat) (column : String) : Bool :=
  (r.get? row column).all Cell.isNull

/-- Gives a member a value, in ascending order of names; a member that is there is overwritten. -/
def setMember (name : String) (cell : Cell) : List (String × Cell) → List (String × Cell)
  | [] => [(name, cell)]
  | m :: rest =>
    if name < m.1 then (name, cell) :: m :: rest
    else if name = m.1 then (name, cell) :: rest
    else m :: setMember name cell rest

/-- A row as an object; of equal column names the last one's cell stays. -/
def members (columns : List String) (cells : List Cell) : List (String × Cell) :=
  (columns.zip cells).foldl (fun acc p => setMember p.1 p.2 acc) []

/-- One object for each row. -/
def objects (r : RowSet) : List (List (String × Cell)) := r.rows.map (members r.columns)

def toJson (r : RowSet) : Json :=
  .array (r.objects.map fun ms => .object (ms.map fun m => (m.1, m.2.toJson)))

end RowSet

end SlangSql
