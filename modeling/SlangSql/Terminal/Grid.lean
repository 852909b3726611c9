import SlangSql.RowSet
import SlangSql.Terminal.Style

/-!
# Row sets as a grid of text

Every column is as wide as its widest cell or its name. Fields are padded on the
right, so that all lines of a grid have the same length.
-/

set_option autoImplicit false

namespace SlangSql.Terminal.Grid

/-- The larger of two widths at every position. -/
def widen : List Nat → List Nat → List Nat
  | w :: ws, v :: vs => max w v :: widen ws vs
  | ws, [] => ws
  | [], _ => []

def textWidths (texts : List String) : List Nat := texts.map String.length

def rowTexts (cells : List Cell) : List String := cells.map Cell.display

/-- The width of every column. -/
def widths (r : RowSet) : List Nat :=
  r.rows.foldl (fun ws row => widen ws (textWidths (rowTexts row))) (textWidths r.columns)

/-- Fields side by side, padded to their widths. -/
def line (texts : List String) (ws : List Nat) : String :=
  " │ ".intercalate ((texts.zip ws).map fun p => pad p.1 p.2)

def separator (ws : List Nat) : String :=
  "─┼─".intercalate (ws.map fun w => String.ofList (List.replicate w '─'))

def header (r : RowSet) : String := line r.columns (widths r)

def rowLines (r : RowSet) : List String := r.rows.map fun row => line (rowTexts row) (widths r)

/-- The grid without its closing count. -/
def lines (r : RowSet) (colored : Bool) : List String :=
  Style.white.bold.paint colored (header r) ::
    Style.dimmed.paint colored (separator (widths r)) :: rowLines r

end SlangSql.Terminal.Grid
