import DuckTypes.Source.Grammar.Atom

namespace DuckTypes.Source.Grammar

def signedNumber : Rule Expr := do
  let sign ← optional (mark "-")
  let e ← number
  return if sign.isSome then .unaryOp e else e

def numberPattern : Rule Expr := do
  let left ← signedNumber
  match ← optional (oneOf ["+", "-"] *> number) with
  | some right => return .binOp left right
  | none => return left

def singletonMark : Rule Expr := do
  match ← oneOf ["None", "True", "False"] with
  | "None" => return .constant .none
  | _ => return .constant .bool

def dottedName (least : Nat) : Rule Expr := do
  let first ← nameFor .load
  let names ← many (mark "." *> identifier)
  if names.length < least then failure else return names.foldl .attr first

def patternKey (nested : Nested) : Rule Expr :=
  numberPattern <|> singletonMark <|> Template.strings nested <|> dottedName 1

def mappingEntry (nested : Nested) (pattern : Rule Pattern) : Rule (Option (Expr × Pattern)) := do
  if ← isNext "**" then
    mark "**"
    let _ ← identifier
    return none
  else
    let key ← patternKey nested
    mark ":"
    return some (key, ← pattern)

def mappingPattern (nested : Nested) (pattern : Rule Pattern) : Rule Pattern := do
  let entries ← between "\x7b" "\x7d" (commas (mappingEntry nested pattern))
  if entries.dropLast.all Option.isSome then
    let found := entries.filterMap id
    return .matchMapping (found.map (·.1)) (found.map (·.2))
  else failure

def classItem (pattern : Rule Pattern) : Rule (Pattern × Bool) := do
  if ← isNameBefore "=" then
    let _ ← identifier
    mark "="
    return (← pattern, true)
  else return (← pattern, false)

def namePattern (pattern : Rule Pattern) : Rule Pattern := do
  let e ← dottedName 0
  if ← isNext "(" then
    let items ← between "(" ")" (commas (classItem pattern))
    let positional := items.takeWhile fun item => !item.2
    let keywords := items.dropWhile fun item => !item.2
    if keywords.all (·.2) then
      return .matchClass e (positional.map (·.1)) (keywords.map (·.1))
    else failure
  else match e with
  | .name _ => return .matchAs none
  | _ => return .matchValue e

def groupPattern (pattern : Rule Pattern) : Rule Pattern := do
  mark "("
  if ← isNext ")" then
    mark ")"
    return .matchSequence []
  else
    let (items, comma) ← commas1 pattern
    mark ")"
    match items, comma with
    | [p], false => return p
    | _, _ => return .matchSequence items

def closedPattern (nested : Nested) (pattern : Rule Pattern) : Rule Pattern :=
  (.matchValue <$> numberPattern) <|> (singletonMark *> pure .matchSingleton) <|>
  (.matchValue <$> Template.strings nested) <|> namePattern pattern <|>
  (mark "*" *> identifier *> pure .matchStar) <|> groupPattern pattern <|>
  (.matchSequence <$> between "[" "]" (commas pattern)) <|> mappingPattern nested pattern

def patternWith (nested : Nested) (inner : Rule Pattern) : Rule Pattern := do
  let alternatives ← sepBy1 (closedPattern nested inner) (mark "|")
  let p := match alternatives with
    | [p] => p
    | ps => .matchOr ps
  if ← isNext "as" then
    mark "as"
    if (← identifier) = "_" then failure else return .matchAs (some p)
  else return p

def pattern (nested : Nested) : Nat → Rule Pattern
  | 0 => failure
  | depth + 1 => patternWith nested (pattern nested depth)

def casePattern (pattern : Rule Pattern) : Rule Pattern := do
  match ← commas1 pattern with
  | ([p], false) => return p
  | (ps, _) => return .matchSequence ps

end DuckTypes.Source.Grammar
