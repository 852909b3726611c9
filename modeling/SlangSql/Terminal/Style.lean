/-!
# Styled text

A text can be bold or dimmed and have a colour. Where colours are off it is
written as it is; otherwise it stands between two escape sequences.
-/

set_option autoImplicit false

namespace SlangSql.Terminal

structure Style where
  codes : List String
  deriving DecidableEq, Repr

namespace Style

def red : Style := ⟨["31"]⟩
def green : Style := ⟨["32"]⟩
def yellow : Style := ⟨["33"]⟩
def cyan : Style := ⟨["36"]⟩
def white : Style := ⟨["37"]⟩
def dimmed : Style := ⟨["2"]⟩

/-- Bold comes in front of the colour. -/
def bold (s : Style) : Style := ⟨"1" :: s.codes⟩

def opening (s : Style) : String := "\x1b[" ++ ";".intercalate s.codes ++ "m"

def reset : String := "\x1b[0m"

/-- The text in a style; a reset inside the text is followed by the style again. -/
def paint (s : Style) (colored : Bool) (text : String) : String :=
  if colored then
    s.opening ++ (reset ++ s.opening).intercalate (text.splitOn reset) ++ reset
  else text

end Style

/-- Blanks after a text up to a width in characters. -/
def pad (text : String) (width : Nat) : String :=
  text ++ String.ofList (List.replicate (width - text.length) ' ')

/-- What a program has written, in two channels. -/
structure Transcript where
  out : String
  err : String
  deriving DecidableEq, Repr

namespace Transcript

def empty : Transcript := ⟨"", ""⟩

def append (a b : Transcript) : Transcript := ⟨a.out ++ b.out, a.err ++ b.err⟩

instance : Append Transcript := ⟨append⟩

def write (text : String) : Transcript := ⟨text, ""⟩

/-- Lines on the first channel. -/
def lines (ls : List String) : Transcript := ⟨String.join (ls.map (· ++ "\n")), ""⟩

/-- A line on the second channel. -/
def complain (line : String) : Transcript := ⟨"", line ++ "\n"⟩

end Transcript

end SlangSql.Terminal
