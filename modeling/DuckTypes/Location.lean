import DuckTypes.Path

namespace DuckTypes

structure Position where
  line : Nat
  column : Nat
  deriving DecidableEq, Repr, Inhabited

structure Span where
  line : Nat
  column : Nat
  endLine : Nat
  endColumn : Nat
  deriving DecidableEq, Hashable, Repr, Inhabited

def Span.between (start stop : Position) : Span :=
  ⟨start.line, start.column, stop.line, stop.column⟩

structure Location where
  file : String
  span : Span
  deriving DecidableEq, Repr, Inhabited

namespace Location

def text (l : Location) : String :=
  l.file ++ ":" ++ l.span.line.repr ++ ":" ++ l.span.column.repr

structure Key where
  file : List String
  span : Span
  deriving DecidableEq, Hashable, Repr

def key (l : Location) : Key := ⟨Path.components l.file, l.span⟩

def same (l k : Location) : Bool := l.key = k.key

end Location

structure LineIndex where
  starts : Array Nat
  deriving DecidableEq, Repr, Inhabited

namespace LineIndex

def unknown : LineIndex := ⟨#[]⟩

def startsAfter (offset : Nat) : List Char → List Nat
  | [] => []
  | c :: cs =>
    let next := offset + c.utf8Size
    if c = '\n' then next :: startsAfter next cs else startsAfter next cs

def ofSource (source : String) : LineIndex := ⟨(0 :: startsAfter 0 source.toList).toArray⟩

/-- How many entries of a sorted table are at most `offset`, given that all before `low` are and
none from `high` on is. -/
def countUpTo (starts : Array Nat) (offset low high : Nat) : Nat :=
  if low < high then
    let middle := (low + high) / 2
    if starts.getD middle 0 ≤ offset then countUpTo starts offset (middle + 1) high
    else countUpTo starts offset low middle
  else low
termination_by high - low

def position (index : LineIndex) (offset : Nat) : Position :=
  if index.starts.isEmpty then ⟨1, offset⟩
  else
    let line := countUpTo index.starts offset 0 index.starts.size
    ⟨line, offset - index.starts.getD (line - 1) 0⟩

def lineCount (index : LineIndex) : Nat := max index.starts.size 1

end LineIndex

end DuckTypes
