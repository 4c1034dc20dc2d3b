import DuckTypes.Source.Grammar.Argument
import DuckTypes.Source.Grammar.Template

namespace DuckTypes.Source.Grammar

def moreElements (nested : Nested) (closing : String) : Rule (List Expr × Bool) := do
  let more ← many (mark "," *> element nested)
  let comma ← optional (mark ",")
  mark closing
  return (more, comma.isSome)

def elementsOr (nested : Nested) (closing : String)
    (ofElements : Expr → List Expr → Bool → Option Expr)
    (ofComprehension : Expr → List Comprehension → Option Expr) : Rule Expr := do
  let first ← element nested
  if ← isFor then
    let generators ← comprehensions nested
    mark closing
    StateT.lift (ofComprehension first generators)
  else
    let (more, comma) ← moreElements nested closing
    StateT.lift (ofElements first more comma)

def ofParenthesized (first : Expr) (more : List Expr) (comma : Bool) : Option Expr :=
  if more.isEmpty ∧ !comma then if first.isStarred then none else some first
  else some (.tuple (first :: more))

def singleOr (ofSingle : Expr → List Comprehension → Expr) (e : Expr)
    (generators : List Comprehension) : Option Expr :=
  if e.isStarred then none else some (ofSingle e generators)

def parenthesized (nested : Nested) : Rule Expr := do
  mark "("
  if ← isNext ")" then
    mark ")"
    return .tuple []
  else if ← isNext "yield" then yielded nested <* mark ")"
  else elementsOr nested ")" ofParenthesized (singleOr .generatorExp)

def bracketed (nested : Nested) : Rule Expr := do
  mark "["
  if ← isNext "]" then
    mark "]"
    return .list []
  else
    elementsOr nested "]" (fun first more _ => some (.list (first :: more)))
      (fun first generators => some (.listComp first generators))

def entry (nested : Nested) : Rule (Option Expr × Expr) := do
  if ← isNext "**" then
    mark "**"
    return (none, ← nested .arithmetic)
  else
    let key ← nested .test
    mark ":"
    return (some key, ← nested .test)

def moreEntries (nested : Nested) (first : Option Expr × Expr) : Rule Expr := do
  let more ← many (mark "," *> entry nested)
  let _ ← optional (mark ",")
  mark "\x7d"
  let entries := first :: more
  return .dict (entries.map (·.1)) (entries.map (·.2))

def dictionary (nested : Nested) (key : Expr) : Rule Expr := do
  mark ":"
  let value ← nested .test
  if ← isFor then
    let generators ← comprehensions nested
    mark "\x7d"
    return .dictComp key value generators
  else moreEntries nested (some key, value)

def setAfter (nested : Nested) (first : Expr) : Rule Expr := do
  if ← isFor then
    let generators ← comprehensions nested
    mark "\x7d"
    StateT.lift (singleOr .setComp first generators)
  else return .set (first :: (← moreElements nested "\x7d").1)

def braced (nested : Nested) : Rule Expr := do
  mark "\x7b"
  if ← isNext "\x7d" then
    mark "\x7d"
    return .dict [] []
  else if ← isNext "**" then moreEntries nested (← entry nested)
  else if (← isNext "*") || (← isNameBefore ":=") then setAfter nested (← element nested)
  else
    let first ← nested .test
    if ← isNext ":" then dictionary nested first else setAfter nested first

def constantMark : Rule Expr := do
  match ← oneOf ["None", "True", "False", "..."] with
  | "None" => return .constant .none
  | "..." => return .constant .ellipsis
  | _ => return .constant .bool

def number : Rule Expr := accept fun t =>
  match t.kind with
  | .number kind => some (.constant kind)
  | _ => none

def atom (nested : Nested) : Rule Expr :=
  nameFor .load <|> number <|> constantMark <|> Template.strings nested <|> do
    if ← isNext "(" then parenthesized nested
    else if ← isNext "[" then bracketed nested
    else braced nested

end DuckTypes.Source.Grammar
